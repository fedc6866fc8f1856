import ShaderPreview.Proofs.Shader.UserCode

/-!
# Seams

What the first piece of a text is does not hang on what follows it, as long as the next character
stays what it was, or is a blank and the piece has its own end (`next?_text_append`).  So the pieces
of a text can be cut out of it and are found again (`pieces_flatMap_of_eq_append`), and a text all of
whose pieces are closed can be followed by another one on the next line
(`contents_append_newline`).
-/

namespace ShaderPreview

namespace Shader

open Text

/-- The piece ends by itself: it is neither a comment nor a quoted string without an end. -/
def Piece.isClosed (p : Piece) : Bool :=
  match p.kind, p.text with
  | .blockComment closed, _ => closed
  | .token .quoted, q :: s => closesQuoted q s
  | _, _ => true

/-! ## What is cut off is cut off again -/

theorem mem_of_isAsciiBlank {c : Char} (h : isAsciiBlank c) :
    c ∈ ['\t', '\n', '\x0b', '\x0c', '\r', ' '] := by
  have hc : c = Char.ofNat c.toNat := (Char.ofNat_toNat c).symm
  simp only [isAsciiBlank, Bool.or_eq_true, beq_iff_eq, Bool.and_eq_true, decide_eq_true_eq] at h
  have hn : c.toNat ∈ [9, 10, 11, 12, 13, 32] := by
    simp only [List.mem_cons, List.not_mem_nil, or_false]
    omega
  rw [hc]
  exact List.mem_map_of_mem (f := Char.ofNat) hn

/-- A blank is in no class of characters that holds none of the six blanks. -/
theorem eq_false_of_isAsciiBlank {f : Char → Bool} {c : Char} (h : isAsciiBlank c)
    (hf : ['\t', '\n', '\x0b', '\x0c', '\r', ' '].all fun c => !f c) : f c = false := by
  simpa using List.all_eq_true.1 hf c (mem_of_isAsciiBlank h)

theorem continuesNumber_of_isAsciiBlank {hex : Bool} {previous c : Char} (h : isAsciiBlank c) :
    continuesNumber hex previous c = false :=
  eq_false_of_isAsciiBlank h rfl

section Cut

variable {s t : List Char}

theorem cutLine_text_append (h : t = [] ∨ (cutLine s).2 ≠ []) :
    cutLine ((cutLine s).1 ++ t) = ((cutLine s).1, t) := by
  induction s with
  | nil =>
    obtain rfl : t = [] := h.resolve_right fun hne => hne rfl
    rfl
  | cons c s ih =>
    rw [cutLine] at h ⊢
    by_cases hc : c = '\n'
    · simp [hc, cutLine]
    · simp only [hc, if_false] at h ⊢
      simp [cutLine, hc, ih h]

/-- A line feed ends the last line, unless that is ended already. -/
theorem cutLine_append_newline (t : List Char) (h : (cutLine s).2 = []) :
    cutLine (s ++ '\n' :: t) = (s ++ ['\n'], t) ∨ cutLine (s ++ '\n' :: t) = (s, '\n' :: t) := by
  induction s with
  | nil => exact .inl rfl
  | cons c s ih =>
    rw [cutLine] at h
    by_cases hc : c = '\n'
    · simp only [hc, if_true] at h
      exact .inr (by simp [cutLine, hc, h])
    · simp only [hc, if_false] at h
      rcases ih h with ih | ih <;> simp [cutLine, hc, ih]

theorem eq_nil_of_cutComment (h : (cutComment s).1 = []) : s = [] := by
  revert h
  fun_cases cutComment s <;> simp

theorem cutComment_text_append (h : t = [] ∨ (cutComment s).2.1 = true) :
    cutComment ((cutComment s).1 ++ t) = ((cutComment s).1, (cutComment s).2.1, t) := by
  fun_induction cutComment s with
  | case1 =>
    obtain rfl : t = [] := h.resolve_right Bool.false_ne_true
    rfl
  | case2 s => rfl
  | case3 c s hnot l closed r hcut ih =>
    rw [hcut] at ih
    have hend : ∀ u, c = '*' → l ++ t = '/' :: u → False := by
      intro u hc hu
      have hs := cutComment_append s
      rw [hcut] at hs
      rcases l with _ | ⟨d, l⟩
      · obtain rfl : s = [] := eq_nil_of_cutComment (by rw [hcut])
        cases hcut
        cases h with
        | inl h => rw [h] at hu; cases hu
        | inr h => cases h
      · exact hnot (l ++ r) hc (by rw [← hs, ← (List.cons.inj hu).1]; rfl)
    rw [List.cons_append, cutComment.eq_3 _ _ hend, ih h]

theorem cutQuoted_text_append {q : Char} (hq : isQuote q) (h : t = [] ∨ closesQuoted q s = true) :
    cutQuoted q ((cutQuoted q s).1 ++ t) = ((cutQuoted q s).1, t) := by
  fun_induction cutQuoted q s with
  | case1 =>
    obtain rfl : t = [] := h.resolve_right Bool.false_ne_true
    rfl
  | case2 c s l r hcut ih =>
    rw [hcut] at ih
    rw [closesQuoted] at h
    rw [List.cons_append, List.cons_append, cutQuoted, ih h]
  | case3 s hnot => simp [cutQuoted_cons_of_ne (ne_backslash_of_isQuote hq)]
  | case4 c s hnot hc l r hcut ih =>
    rw [hcut] at ih
    by_cases hback : c = '\\'
    · subst hback
      obtain rfl : s = [] := by
        rcases s with _ | ⟨d, s⟩
        · rfl
        · exact (hnot d s rfl rfl).elim
      cases hcut
      obtain rfl : t = [] := h.resolve_right (by simp [closesQuoted, hc])
      simp [cutQuoted, hc]
    · rw [closesQuoted_cons_of_ne hback] at h
      rw [List.cons_append, cutQuoted_cons_of_ne hback, if_neg hc, ih (by simpa [hc] using h)]

theorem closesQuoted_of_cutQuoted {q : Char} (h : (cutQuoted q s).2 ≠ []) : closesQuoted q s := by
  fun_induction cutQuoted q s with
  | case1 => exact absurd rfl h
  | case2 c s l r hcut ih =>
    rw [hcut] at ih
    rw [closesQuoted]
    exact ih h
  | case3 s hnot => simp [closesQuoted.eq_3 _ _ _ hnot]
  | case4 c s hnot hc l r hcut ih =>
    rw [hcut] at ih
    rw [closesQuoted.eq_3 _ _ _ hnot, ih h, Bool.or_true]

theorem cutWord_text_append (h : ∀ c ∈ t.head?, isWordChar c = false) :
    cutWord ((cutWord s).1 ++ t) = ((cutWord s).1, t) := by
  obtain ⟨htake, hdrop⟩ := takeWhile_append_of_head (l := s.takeWhile isWordChar) h
  have hall : ∀ c ∈ s.takeWhile isWordChar, isWordChar c = true := fun _ => List.mem_takeWhile_imp
  rw [cutWord, cutWord, htake, hdrop, List.takeWhile_takeWhile, List.dropWhile_eq_nil_iff.2 hall]
  simp

theorem cutNumber_text_append {hex : Bool} {previous : Char}
    (h : ∀ c ∈ t.head?, c ∈ (cutNumber hex previous s).2.head? ∨ isAsciiBlank c) :
    cutNumber hex previous ((cutNumber hex previous s).1 ++ t) =
      ((cutNumber hex previous s).1, t) := by
  -- the number stops where it is not followed by one of its characters
  have stops {previous : Char} (h : ∀ c ∈ t.head?, continuesNumber hex previous c = false) :
      cutNumber hex previous t = ([], t) := by
    rcases t with _ | ⟨c, t⟩
    · rfl
    · rw [cutNumber, if_neg (by simp [h c rfl])]
  fun_induction cutNumber hex previous s with
  | case1 previous =>
    exact stops fun c hc => continuesNumber_of_isAsciiBlank ((h c hc).resolve_left (by simp))
  | case2 previous c s hc l r hcut ih =>
    rw [hcut] at ih
    rw [List.cons_append, cutNumber, if_pos hc, ih h]
  | case3 previous c s hc =>
    refine stops fun d hd => ?_
    rcases h d hd with hsame | hblank
    · cases hsame
      exact Bool.eq_false_iff.2 hc
    · exact continuesNumber_of_isAsciiBlank hblank

/-- The character behind the first digit tells whether a number is hexadecimal, and it is part of the
number if it is the mark. -/
theorem isHexadecimal_text_append {hex : Bool} {c previous : Char}
    (h : ∀ d ∈ t.head?, d ∈ (cutNumber hex previous s).2.head? ∨ isAsciiBlank d) :
    isHexadecimal c ((cutNumber hex previous s).1 ++ t) = isHexadecimal c s := by
  have hmark : continuesNumber hex previous 'x' = true := rfl
  have notMark {u : List Char} (hu : ∀ d ∈ u.head?, d ≠ 'x') : isHexadecimal c u = false := by
    simp only [isHexadecimal, Bool.and_eq_false_iff, beq_eq_false_iff_ne]
    exact .inr fun hx => hu 'x' hx rfl
  have hblank {d : Char} (hd : isAsciiBlank d) : d ≠ 'x' := by
    rintro rfl
    cases hd
  rcases s with _ | ⟨d, s⟩
  · rw [cutNumber] at h ⊢
    have htail : isHexadecimal c t = false :=
      notMark fun d hd => hblank ((h d hd).resolve_left (by simp))
    exact htail.trans (notMark (by simp)).symm
  · rw [cutNumber] at h ⊢
    by_cases hd : continuesNumber hex previous d
    · simp [hd, isHexadecimal]
    · have hne : d ≠ 'x' := by
        rintro rfl
        exact hd hmark
      simp only [hd] at h ⊢
      rw [notMark (u := d :: s) (by simpa using hne)]
      refine notMark fun d' hd' => ?_
      rcases h d' hd' with hsame | hspace
      · cases hsame
        exact hne
      · exact hblank hspace

end Cut

/-- Where no comment starts, the first character tells what the first piece is. -/
theorem next?_cons {c : Char} {s : List Char}
    (h : ∀ d ∈ s.head?, c = '/' → d ≠ '/' ∧ d ≠ '*') :
    Piece.next? (c :: s) =
      if isAsciiBlank c then some (⟨.blank, [c]⟩, s)
      else if isQuote c then some (⟨.token .quoted, c :: (cutQuoted c s).1⟩, (cutQuoted c s).2)
      else if isWordStart c then some (⟨.token .word, c :: (cutWord s).1⟩, (cutWord s).2)
      else if c.isDigit then
        some (⟨.token .number, c :: (cutNumber (isHexadecimal c s) c s).1⟩,
          (cutNumber (isHexadecimal c s) c s).2)
      else some (⟨.token (.mark c), [c]⟩, s) := by
  refine Piece.next?.eq_4 c s (fun u hc hs => ?_) fun u hc hs => ?_
  · exact (h '/' (by rw [hs]; rfl) hc).1 rfl
  · exact (h '*' (by rw [hs]; rfl) hc).2 rfl

/-- A piece is found again in front of another text, if that starts with the same character as
before, or with a blank where the piece ends by itself. -/
theorem next?_text_append {s r t : List Char} {p : Piece} (h : Piece.next? s = some (p, r))
    (ht : ∀ c ∈ t.head?,
      c ∈ r.head? ∨ p.isClosed ∧ p.kind ≠ .lineComment ∧ isAsciiBlank c) :
    Piece.next? (p.text ++ t) = some (p, t) := by
  revert h ht
  fun_cases Piece.next? s <;> simp only [reduceCtorEq, Option.some.injEq, Prod.mk.injEq,
    false_imp_iff, and_imp] <;> rintro rfl rfl ht
  · rename_i s l r hcut
    have hline : t = [] ∨ (cutLine s).2 ≠ [] := by
      rcases t with _ | ⟨c, t⟩
      · exact .inl rfl
      · refine .inr fun hnil => ?_
        rw [hcut] at hnil
        obtain rfl : r = [] := hnil
        simp at ht
    have hnext := cutLine_text_append hline
    rw [hcut] at hnext
    rw [List.cons_append, List.cons_append, Piece.next?, hnext]
  · rename_i s l closed r hcut
    have hclosed : t = [] ∨ (cutComment s).2.1 = true := by
      rcases t with _ | ⟨c, t⟩
      · exact .inl rfl
      · refine .inr ?_
        by_contra hopen
        rw [cutComment_of_not_closed (Bool.eq_false_iff.2 hopen)] at hcut
        cases hcut
        simp [Piece.isClosed] at ht
    have hnext := cutComment_text_append hclosed
    rw [hcut] at hnext
    rw [List.cons_append, List.cons_append, Piece.next?, hnext]
  · rename_i c hline hblock hblank
    rw [List.singleton_append, next?_cons fun d _ hc => ?_, if_pos hblank]
    rw [hc] at hblank
    cases hblank
  · rename_i c s hline hblock hblank hquote l r hcut
    have hcloses : t = [] ∨ closesQuoted c s = true := by
      rcases t with _ | ⟨d, t⟩
      · exact .inl rfl
      · refine .inr ?_
        rcases ht d rfl with hmem | ⟨hclosed, -⟩
        · refine closesQuoted_of_cutQuoted fun hnil => ?_
          rw [hcut] at hnil
          obtain rfl : r = [] := hnil
          cases hmem
        · rw [← closesQuoted_cutQuoted, hcut]
          exact hclosed
    have hnext := cutQuoted_text_append hquote hcloses
    rw [hcut] at hnext
    rw [List.cons_append, next?_cons fun d _ hc => ?_, if_neg hblank, if_pos hquote, hnext]
    rw [hc] at hquote
    cases hquote
  · rename_i c s hline hblock hblank hquote hword l r hcut
    have hstops : ∀ d ∈ t.head?, isWordChar d = false := by
      intro d hd
      rcases ht d hd with hmem | ⟨-, -, hblank⟩
      · cases hcut
        have hstop := List.head?_dropWhile_not isWordChar s
        rw [Option.mem_def.1 hmem] at hstop
        exact hstop
      · exact eq_false_of_isAsciiBlank hblank rfl
    have hnext := cutWord_text_append (s := s) hstops
    rw [hcut] at hnext
    rw [List.cons_append, next?_cons fun d _ hc => ?_, if_neg hblank, if_neg hquote, if_pos hword,
      hnext]
    rw [hc] at hword
    cases hword
  · rename_i c s hline hblock hblank hquote hword hdigit l r hcut
    have hstops : ∀ d ∈ t.head?,
        d ∈ (cutNumber (isHexadecimal c s) c s).2.head? ∨ isAsciiBlank d := by
      intro d hd
      rw [hcut]
      exact (ht d hd).imp_right fun h => h.2.2
    have hnext := cutNumber_text_append hstops
    have hhex := isHexadecimal_text_append (c := c) hstops
    rw [hcut] at hnext hhex
    rw [List.cons_append, next?_cons fun d _ hc => ?_, if_neg hblank, if_neg hquote, if_neg hword,
      if_pos hdigit, hhex, hnext]
    rw [hc] at hdigit
    cases hdigit
  · rename_i c hline hblock hblank hquote hword hdigit
    rw [List.singleton_append, next?_cons fun d hd hc => ?_, if_neg hblank, if_neg hquote,
      if_neg hword, if_neg hdigit]
    rcases ht d hd with hmem | ⟨-, -, hspace⟩
    · obtain ⟨u, hu⟩ := List.head?_eq_some_iff.1 hmem
      constructor
      · rintro rfl
        exact hline u hc hu
      · rintro rfl
        exact hblock u hc hu
    · constructor <;> rintro rfl <;> cases hspace

/-! ## Parts of a text -/

/-- The first pieces of a text are those of the text that they make. -/
theorem pieces_flatMap_of_eq_append {s : List Char} {ps qs : List Piece} (h : pieces s = ps ++ qs) :
    pieces (ps.flatMap Piece.text) = ps := by
  induction ps generalizing s with
  | nil => exact pieces_nil
  | cons p ps ih =>
    rcases hnext : Piece.next? s with _ | ⟨q, r⟩
    · rw [Piece.eq_nil_of_next? hnext, pieces_nil] at h
      cases h
    · rw [pieces_eq_cons hnext] at h
      obtain rfl : q = p := (List.cons.inj h).1
      have hrest : pieces r = ps ++ qs := (List.cons.inj h).2
      have htext : r = ps.flatMap Piece.text ++ qs.flatMap Piece.text := by
        rw [← List.flatMap_append, ← hrest, text_pieces]
      have hcut : Piece.next? (q.text ++ ps.flatMap Piece.text) =
          some (q, ps.flatMap Piece.text) := by
        refine next?_text_append hnext fun c hc => .inl ?_
        rw [htext, List.head?_append, Option.mem_def.1 hc]
        rfl
      rw [List.flatMap_cons, pieces_eq_cons hcut, ih hrest]

/-- The parts of an assembly are cut as they were in the code that stays. -/
theorem pieces_keptText {source : List Char} {a : Assembly} (h : Assembly.ofSource source = .ok a) :
    pieces (keptText (fates source)) =
      pieces a.bodyBefore ++ pieces a.entry ++ pieces a.bodyAfter := by
  obtain ⟨-, before, p, mid, q, after, hp, -, -, hbefore, hentry, hafter⟩ :=
    exists_pieces_of_ofSource h
  have hfirst : pieces a.bodyBefore = before := by
    rw [hbefore, pieces_flatMap_of_eq_append (hp.trans (List.append_assoc _ _ _))]
  have hrest := pieces_flatMap_of_append (hp.trans (List.append_assoc _ _ _))
  have hsecond : pieces a.entry = p :: mid ++ [q] := by
    rw [hentry, pieces_flatMap_of_eq_append hrest]
  have hthird : pieces a.bodyAfter = after := by
    rw [hafter, pieces_flatMap_of_append hp]
  rw [hp, hfirst, hsecond, hthird]

/-! ## A text behind a line feed -/

/-- The pieces of a text all end by themselves. -/
def IsClosed (s : List Char) : Prop := ∀ p ∈ pieces s, p.isClosed

theorem contents_cons_of_blank (s : List Char) :
    contents (pieces ('\n' :: s)) = contents (pieces s) := by
  have hnext : Piece.next? ('\n' :: s) = some (⟨.blank, ['\n']⟩, s) := rfl
  rw [pieces_eq_cons hnext]
  rfl

/-- A line comment without a line feed takes the line feed behind it with it. -/
theorem contents_append_newline_of_lineComment {s : List Char} {p : Piece} (t : List Char)
    (h : Piece.next? s = some (p, [])) (hk : p.kind = .lineComment) :
    contents (pieces (s ++ '\n' :: t)) = contents (pieces t) := by
  revert h hk
  fun_cases Piece.next? s <;> simp only [reduceCtorEq, Option.some.injEq, Prod.mk.injEq,
    false_imp_iff, and_imp] <;> rintro rfl hr hk <;> try cases hk
  rename_i s l r hcut
  have hnext : Piece.next? ('/' :: '/' :: s ++ '\n' :: t) =
      some (⟨.lineComment, '/' :: '/' :: (cutLine (s ++ '\n' :: t)).1⟩,
        (cutLine (s ++ '\n' :: t)).2) := rfl
  rw [pieces_eq_cons hnext]
  have hend : (cutLine s).2 = [] := by rw [hcut, hr]
  rcases cutLine_append_newline t hend with hline | hline <;> rw [hline]
  · rfl
  · exact contents_cons_of_blank t

/-- Behind a text whose pieces end by themselves, a text on the next line is cut on its own. -/
theorem contents_append_newline {s : List Char} (t : List Char) (h : IsClosed s) :
    contents (pieces (s ++ '\n' :: t)) = contents (pieces s) ++ contents (pieces t) := by
  unfold IsClosed at h
  fun_induction pieces s with
  | case1 s hnext =>
    rw [Piece.eq_nil_of_next? hnext]
    exact contents_cons_of_blank t
  | case2 s p r hnext ih =>
    obtain ⟨hp, hr⟩ := List.forall_mem_cons.1 h
    have ih := ih hr
    by_cases hend : r = [] ∧ p.kind = .lineComment
    · obtain ⟨rfl, hk⟩ := hend
      rw [contents_append_newline_of_lineComment t hnext hk, pieces_nil]
      simp [contents, Piece.content?, hk]
    · have hcut : Piece.next? (p.text ++ (r ++ '\n' :: t)) = some (p, r ++ '\n' :: t) := by
        refine next?_text_append hnext fun c hc => ?_
        rcases r with _ | ⟨d, r⟩
        · cases hc
          exact .inr ⟨hp, fun hk => hend ⟨rfl, hk⟩, rfl⟩
        · exact .inl hc
      rw [← Piece.next?_append hnext, List.append_assoc, pieces_eq_cons hcut]
      simp only [contents, List.filterMap_cons] at ih ⊢
      rw [ih]
      split <;> rfl

end Shader

end ShaderPreview
