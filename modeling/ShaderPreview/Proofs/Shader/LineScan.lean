import ShaderPreview.Proofs.Shader.Cut
import ShaderPreview.Shader.Token

/-!
# Cutting a text into pieces line by line

A text is cut into pieces as a whole; `LineMode` follows comments line by line.  Where each quoted
string closes on its line the two agree: the pieces of a line do not hang on the lines behind it
(`piecesFrom_append`), except that a comment at its end goes on, and the block comment that is open
behind a line is the one that `commentOpenAfter` tells (`endsOpen_piecesFrom`).
-/

namespace ShaderPreview

namespace Shader

open Text

/-! ## The pieces of a line -/

/-- The pieces of a text that is met while a block comment is open, or not. -/
def piecesFrom (isOpen : Bool) (s : List Char) : List Piece :=
  if isOpen then ⟨.blockComment (cutComment s).2.1, (cutComment s).1⟩ :: pieces (cutComment s).2.2
  else pieces s

/-- A block comment is open behind the pieces. -/
def endsOpen : List Piece → Bool
  | [] => false
  | [p] => p.kind == .blockComment false
  | _ :: ps => endsOpen ps

/-- The pieces of a line, when it ends with `e` and `s` follows: a comment at the end of the line
goes on. -/
def continued (e s : List Char) : List Piece → List Piece
  | [] => e.map (fun c => ⟨.blank, [c]⟩) ++ pieces s
  | [p] =>
    match p.kind with
    | .lineComment => ⟨.lineComment, p.text ++ e⟩ :: pieces s
    | .blockComment false => ⟨.blockComment (cutComment s).2.1, p.text ++ e ++ (cutComment s).1⟩ ::
        pieces (cutComment s).2.2
    | _ => p :: (e.map (fun c => ⟨.blank, [c]⟩) ++ pieces s)
  | p :: q :: ps => p :: continued e s (q :: ps)

theorem continued_cons_of_ne {e s : List Char} {p : Piece} {ps : List Piece}
    (hk : p.kind ≠ .lineComment ∧ p.kind ≠ .blockComment false) :
    continued e s (p :: ps) = p :: continued e s ps := by
  rcases ps with _ | ⟨q, ps⟩
  · obtain ⟨k, t⟩ := p
    rcases k with _ | _ | closed | k
    · rfl
    · exact absurd rfl hk.1
    · rcases closed with _ | _
      · exact absurd rfl hk.2
      · rfl
    · rfl
  · rfl

theorem endsOpen_cons_of_ne {p : Piece} {ps : List Piece} (hk : p.kind ≠ .blockComment false) :
    endsOpen (p :: ps) = endsOpen ps := by
  rcases ps with _ | ⟨q, ps⟩
  · simpa [endsOpen] using hk
  · rfl

theorem pieces_lineEnd_append {e : List Char} (s : List Char) (he : IsLineEnd e) :
    pieces (e ++ s) = e.map (fun c => ⟨.blank, [c]⟩) ++ pieces s := by
  have hbreak {c : Char} (t : List Char) (hc : c = '\n' ∨ c = '\r') :
      pieces (c :: t) = ⟨.blank, [c]⟩ :: pieces t := by
    refine pieces_eq_cons ?_
    rcases hc with rfl | rfl <;> rfl
  rcases he with rfl | rfl
  · simp [hbreak]
  · simp [hbreak]

theorem newline_not_mem_of_next? {l r : List Char} {p : Piece} (hl : '\n' ∉ l)
    (h : Piece.next? l = some (p, r)) : '\n' ∉ r := fun hc =>
  hl (by rw [← Piece.next?_append h]; exact List.mem_append_right _ hc)

theorem newline_not_mem_cutComment {l : List Char} (hl : '\n' ∉ l) : '\n' ∉ (cutComment l).2.2 :=
  fun hc => hl (by rw [← cutComment_append l]; exact List.mem_append_right _ hc)

theorem pieces_append_lineEnd {e l : List Char} (s : List Char) (hl : '\n' ∉ l) (he : IsLineEnd e)
    (hp : ∀ p ∈ pieces l, p.closesOnLine) :
    pieces (l ++ e ++ s) = continued e s (pieces l) := by
  fun_induction pieces l with
  | case1 l h =>
    obtain rfl := Piece.eq_nil_of_next? h
    exact pieces_lineEnd_append s he
  | case2 l p r h ih =>
    have ih := ih (newline_not_mem_of_next? hl h) fun q hq => hp q (List.mem_cons_of_mem p hq)
    have hfirst := firstPiece_next? s hl he h (hp p List.mem_cons_self)
    generalize hnext : Piece.next? (l ++ e ++ s) = next at hfirst
    cases hfirst with
    | lineComment hk hr =>
      rw [pieces_eq_cons hnext, hr, pieces_nil, continued, hk]
    | blockComment hk hr =>
      rw [pieces_eq_cons hnext, hr, pieces_nil, continued, hk]
    | same hk => rw [pieces_eq_cons hnext, ih, continued_cons_of_ne hk]

theorem closesOnLine_of_append {e l s : List Char} (hl : '\n' ∉ l) (he : IsLineEnd e)
    (h : ∀ p ∈ pieces (l ++ e ++ s), p.closesOnLine) : ∀ p ∈ pieces l, p.closesOnLine := by
  fun_induction pieces l with
  | case1 => simp
  | case2 l p r hnext ih =>
    have hr := newline_not_mem_of_next? hl hnext
    obtain ⟨p', r', hnext'⟩ : ∃ p' r', Piece.next? (l ++ e ++ s) = some (p', r') := by
      rcases h' : Piece.next? (l ++ e ++ s) with _ | ⟨p', r'⟩
      · have hnil := Piece.eq_nil_of_next? h'
        rcases he with rfl | rfl <;> simp at hnil
      · exact ⟨p', r', rfl⟩
    rw [pieces_eq_cons hnext'] at h
    have hp : p.closesOnLine :=
      closesOnLine_of_next? hl he hnext hnext' (h p' List.mem_cons_self)
    have hfirst := firstPiece_next? s hl he hnext hp
    rw [hnext'] at hfirst
    have hrest : ∀ q ∈ pieces r, q.closesOnLine := by
      cases hfirst with
      | lineComment _ hr => simp [hr, pieces_nil]
      | blockComment _ hr => simp [hr, pieces_nil]
      | same _ => exact ih hr fun q hq => h q (List.mem_cons_of_mem p hq)
    exact List.forall_mem_cons.2 ⟨hp, hrest⟩

/-! ## Lines inside comments -/

section Lines

variable {e l : List Char} {isOpen : Bool}

/-- The pieces of a line go on behind it, and what follows is cut on its own. -/
theorem piecesFrom_append (s : List Char) (hl : '\n' ∉ l) (he : IsLineEnd e)
    (hp : ∀ p ∈ piecesFrom isOpen l, p.closesOnLine) :
    piecesFrom isOpen (l ++ e ++ s) = continued e s (piecesFrom isOpen l) := by
  cases isOpen with
  | false => exact pieces_append_lineEnd s hl he hp
  | true =>
    simp only [piecesFrom, if_true] at hp ⊢
    rcases hclosed : (cutComment l).2.1 with _ | _
    · rw [cutComment_append_of_not_closed s he hclosed, cutComment_of_not_closed hclosed,
        pieces_nil]
      rfl
    · have hr := newline_not_mem_cutComment hl
      rw [List.append_assoc, cutComment_append_of_closed _ hclosed, ← List.append_assoc,
        pieces_append_lineEnd s hr he fun q hq => hp q (List.mem_cons_of_mem _ hq),
        continued_cons_of_ne (by simp)]

theorem closesOnLine_of_mem_line {s : List Char} (hl : '\n' ∉ l) (he : IsLineEnd e)
    (h : ∀ p ∈ piecesFrom isOpen (l ++ e ++ s), p.closesOnLine) :
    ∀ p ∈ piecesFrom isOpen l, p.closesOnLine := by
  cases isOpen with
  | false => exact closesOnLine_of_append hl he h
  | true =>
    simp only [piecesFrom, if_true] at h ⊢
    rcases hclosed : (cutComment l).2.1 with _ | _
    · rw [cutComment_of_not_closed hclosed, pieces_nil]
      simp [Piece.closesOnLine]
    · have hr := newline_not_mem_cutComment hl
      rw [List.append_assoc, cutComment_append_of_closed _ hclosed, ← List.append_assoc] at h
      refine List.forall_mem_cons.2 ⟨rfl, ?_⟩
      exact closesOnLine_of_append hr he fun p hp => h p (List.mem_cons_of_mem _ hp)

/-- Characters that open neither a comment nor a quoted string are passed over. -/
theorem endsInComment_append {w : List Char} (s : List Char)
    (hw : ∀ c ∈ w, c ≠ '/' ∧ isQuote c = false) :
    LineMode.code.endsInComment (w ++ s) = LineMode.code.endsInComment s := by
  induction w with
  | nil => rfl
  | cons c w ih =>
    obtain ⟨hc, hq⟩ := hw c List.mem_cons_self
    rw [List.cons_append, LineMode.endsInComment.eq_7 _ _ (fun _ h => absurd h hc)
      (fun _ h => absurd h hc), hq]
    exact ih fun d hd => hw d (List.mem_cons_of_mem c hd)

theorem endsInComment_comment (s : List Char) : LineMode.comment.endsInComment s =
    if (cutComment s).2.1 then LineMode.code.endsInComment (cutComment s).2.2 else true := by
  fun_induction cutComment s with
  | case1 => rfl
  | case2 t => rfl
  | case3 c t hnot k closed r hcut ih =>
    rw [LineMode.endsInComment.eq_3 _ _ hnot, ih, hcut]

theorem endsInComment_quoted (q : Char) (s : List Char) :
    (LineMode.quoted q).endsInComment s = LineMode.code.endsInComment (cutQuoted q s).2 := by
  fun_induction cutQuoted q s with
  | case1 => rfl
  | case2 c t k r hcut ih => rw [LineMode.endsInComment, ih, hcut]
  | case3 t hnot => rw [LineMode.endsInComment.eq_10 _ _ _ hnot, if_pos rfl]
  | case4 c t hnot hc k r hcut ih =>
    rw [LineMode.endsInComment.eq_10 _ _ _ hnot, if_neg hc, ih, hcut]

/-- Neither a slash nor a quote is in a class of characters that holds none of them. -/
theorem slash_quote_of_class {f : Char → Bool} {c : Char} (h : f c) (hslash : f '/' = false)
    (hquote : f '\x22' = false) (hquote' : f '\x27' = false) : c ≠ '/' ∧ isQuote c = false := by
  refine ⟨?_, Bool.eq_false_iff.2 fun hq => ?_⟩
  · rintro rfl
    exact absurd h (by simp [hslash])
  · simp only [isQuote, Bool.or_eq_true, beq_iff_eq] at hq
    rcases hq with rfl | rfl
    · exact absurd h (by simp [hquote])
    · exact absurd h (by simp [hquote'])

theorem slash_quote_of_mem_cutNumber {hex : Bool} {previous c : Char} {s : List Char}
    (h : c ∈ (cutNumber hex previous s).1) : c ≠ '/' ∧ isQuote c = false := by
  fun_induction cutNumber hex previous s with
  | case1 => cases h
  | case2 previous d s hd k r hcut ih =>
    rw [hcut] at ih
    rcases List.mem_cons.1 h with rfl | h
    · exact slash_quote_of_class hd rfl rfl rfl
    · exact ih h
  | case3 => cases h

/-- The pieces of a line and the modes of a reader tell the same about its end. -/
theorem endsOpen_pieces (hl : '\n' ∉ l) : endsOpen (pieces l) = LineMode.code.endsInComment l := by
  fun_induction pieces l with
  | case1 l h =>
    rw [Piece.eq_nil_of_next? h]
    rfl
  | case2 l p r h ih =>
    specialize ih (newline_not_mem_of_next? hl h)
    revert h
    fun_cases Piece.next? l <;> simp only [reduceCtorEq, Option.some.injEq, Prod.mk.injEq,
      false_imp_iff, and_imp] <;> rintro rfl rfl
    · rename_i t k r' h
      have ht : '\n' ∉ t := fun hc => hl (by simp [hc])
      rw [cutLine_of_not_mem ht] at h
      cases h
      rw [pieces_nil]
      rfl
    · rename_i t k closed r' h
      rw [LineMode.endsInComment, endsInComment_comment, h]
      rcases closed with _ | _
      · rw [cutComment_of_not_closed (by rw [h])] at h
        cases h
        rw [pieces_nil]
        rfl
      · rw [endsOpen_cons_of_ne (by simp), ih]
        rfl
    · rename_i c h₁ h₂ hb
      have hq := (slash_quote_of_class hb rfl rfl rfl).2
      rw [endsOpen_cons_of_ne (by simp), ih, LineMode.endsInComment.eq_7 _ _ h₁ h₂, hq]
      rfl
    · rename_i c t h₁ h₂ hb hq k r' h
      rw [endsOpen_cons_of_ne (by simp), ih, LineMode.endsInComment.eq_7 _ _ h₁ h₂, if_pos hq,
        endsInComment_quoted, h]
    · rename_i c t h₁ h₂ hb hq hw k r' h
      have hword : ∀ d ∈ (cutWord t).1, d ≠ '/' ∧ isQuote d = false := fun d hd =>
        slash_quote_of_class (List.all_eq_true.1 List.all_takeWhile d hd) rfl rfl rfl
      have ht := cutWord_append t
      rw [h] at ht hword
      rw [endsOpen_cons_of_ne (by simp), ih, LineMode.endsInComment.eq_7 _ _ h₁ h₂, if_neg hq, ← ht,
        endsInComment_append _ hword]
    · rename_i c t h₁ h₂ hb hq hw hd k r' h
      have hnumber : ∀ d ∈ (cutNumber (isHexadecimal c t) c t).1, d ≠ '/' ∧ isQuote d = false :=
        fun d hd => slash_quote_of_mem_cutNumber hd
      have ht := cutNumber_append (isHexadecimal c t) c t
      rw [h] at ht hnumber
      rw [endsOpen_cons_of_ne (by simp), ih, LineMode.endsInComment.eq_7 _ _ h₁ h₂, if_neg hq, ← ht,
        endsInComment_append _ hnumber]
    · rename_i c h₁ h₂ hb hq hw hd
      rw [endsOpen_cons_of_ne (by simp), ih, LineMode.endsInComment.eq_7 _ _ h₁ h₂, if_neg hq]

/-- The comment that is open behind a line is the one that the line leaves open. -/
theorem endsOpen_piecesFrom (hl : '\n' ∉ l) :
    endsOpen (piecesFrom isOpen l) = commentOpenAfter l isOpen := by
  cases isOpen with
  | false => exact endsOpen_pieces hl
  | true =>
    have hr := newline_not_mem_cutComment hl
    simp only [piecesFrom, commentOpenAfter, if_true, endsInComment_comment]
    split
    · rename_i hclosed
      rw [endsOpen_cons_of_ne (by simp [hclosed]), endsOpen_pieces hr]
    · rename_i hclosed
      have hclosed : (cutComment l).2.1 = false := by simpa using hclosed
      rw [cutComment_of_not_closed hclosed, pieces_nil]
      rfl

/-- The strings behind a line close on their lines too. -/
theorem closesOnLine_of_continued {e s : List Char} {ps : List Piece}
    (h : ∀ p ∈ continued e s ps, p.closesOnLine) :
    ∀ p ∈ piecesFrom (endsOpen ps) s, p.closesOnLine := by
  fun_induction continued e s ps with
  | case1 => exact fun p hp => h p (List.mem_append_right _ hp)
  | case2 p hk =>
    have hopen : endsOpen [p] = false := by simp [endsOpen, hk]
    rw [hopen]
    exact fun q hq => h q (List.mem_cons_of_mem _ hq)
  | case3 p hk =>
    have hopen : endsOpen [p] = true := by simp [endsOpen, hk]
    rw [hopen]
    exact List.forall_mem_cons.2 ⟨rfl, fun q hq => h q (List.mem_cons_of_mem _ hq)⟩
  | case4 p hk hk' =>
    have hopen : endsOpen [p] = false := by simpa [endsOpen] using hk'
    rw [hopen]
    exact fun q hq => h q (List.mem_cons_of_mem _ (List.mem_append_right _ hq))
  | case5 p q ps ih => exact ih fun r hr => h r (List.mem_cons_of_mem _ hr)

theorem closesOnLine_behind {s : List Char} (hl : '\n' ∉ l) (he : IsLineEnd e)
    (h : ∀ p ∈ piecesFrom isOpen (l ++ e ++ s), p.closesOnLine) :
    ∀ p ∈ piecesFrom (commentOpenAfter l isOpen) s, p.closesOnLine := by
  rw [piecesFrom_append s hl he (closesOnLine_of_mem_line hl he h)] at h
  rw [← endsOpen_piecesFrom hl]
  exact closesOnLine_of_continued h

theorem text_piecesFrom (isOpen : Bool) (s : List Char) :
    (piecesFrom isOpen s).flatMap Piece.text = s := by
  cases isOpen with
  | false => exact text_pieces s
  | true =>
    simp only [piecesFrom, if_true, List.flatMap_cons]
    rw [text_pieces, cutComment_append]

/-! ## The tokens of lines -/

theorem tokensFrom_append (n : Nat) (ps qs : List Piece) :
    tokensFrom n (ps ++ qs) =
      tokensFrom n ps ++ tokensFrom (n + byteLength (ps.flatMap Piece.text)) qs := by
  induction ps generalizing n with
  | nil => rfl
  | cons p ps ih =>
    rw [List.cons_append, tokensFrom, tokensFrom, ih, List.flatMap_cons, byteLength_append,
      ← Nat.add_assoc]
    rcases p.kind with _ | _ | closed | k <;> rfl

theorem tokensFrom_blanks_append (n : Nat) (e : List Char) (ps : List Piece) :
    tokensFrom n (e.map (fun c => ⟨.blank, [c]⟩) ++ ps) = tokensFrom (n + byteLength e) ps := by
  induction e generalizing n with
  | nil => rfl
  | cons c e ih =>
    rw [List.map_cons, List.cons_append, tokensFrom, ih]
    simp [Nat.add_assoc]

/-- The tokens of a line, followed by those behind it. -/
theorem tokensFrom_continued (n : Nat) (e s : List Char) (ps : List Piece) :
    tokensFrom n (continued e s ps) = tokensFrom n ps ++
      tokensFrom (n + byteLength (ps.flatMap Piece.text) + byteLength e)
        (piecesFrom (endsOpen ps) s) := by
  fun_induction continued e s ps generalizing n with
  | case1 =>
    rw [tokensFrom_blanks_append]
    rfl
  | case2 p hk =>
    have hopen : endsOpen [p] = false := by simp [endsOpen, hk]
    rw [hopen]
    simp [tokensFrom, hk, piecesFrom, Nat.add_assoc]
  | case3 p hk =>
    have hopen : endsOpen [p] = true := by simp [endsOpen, hk]
    rw [hopen]
    simp [tokensFrom, hk, piecesFrom, Nat.add_assoc]
  | case4 p hk hk' =>
    have hopen : endsOpen [p] = false := by simpa [endsOpen] using hk'
    rw [hopen, ← List.singleton_append, tokensFrom_append, tokensFrom_blanks_append]
    rfl
  | case5 p q ps ih =>
    have hcons (qs : List Piece) :
        tokensFrom n (p :: qs) = tokensFrom n [p] ++ tokensFrom (n + byteLength p.text) qs := by
      simpa using tokensFrom_append n [p] qs
    rw [hcons (continued e s (q :: ps)), hcons (q :: ps), ih, List.append_assoc]
    simp only [endsOpen, List.flatMap_cons, byteLength_append, Nat.add_assoc]

end Lines

end Shader

end ShaderPreview
