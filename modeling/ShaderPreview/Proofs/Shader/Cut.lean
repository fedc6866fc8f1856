import Mathlib.Tactic.ByContra
import ShaderPreview.Proofs.Text.EndedLines
import ShaderPreview.Shader.Comment

/-!
# Cutting in front of a line end

What the first piece of a line is does not hang on the lines behind it, but for a comment that goes
on (`firstPiece_next?`).  This holds where each quoted string closes on its line
(`Piece.closesOnLine`).
-/

namespace ShaderPreview

namespace Shader

open Text

/-! ## Quoted strings -/

/-- A quoted string that opened with `q` closes in the text. -/
def closesQuoted (q : Char) : List Char → Bool
  | [] => false
  | '\\' :: _ :: s => closesQuoted q s
  | c :: s => c == q || closesQuoted q s

/-- A piece that is a quoted string closes on the line it opens on. -/
def Piece.closesOnLine (p : Piece) : Bool :=
  match p.kind, p.text with
  | .token .quoted, q :: s => closesQuoted q s && !s.contains '\n'
  | _, _ => true

/-! ## Cutting in front of a line end -/

section Cut

variable {e l : List Char}

/-- A character that ends no line is the first one of the line. -/
theorem exists_cons_of_append_lineEnd {s u : List Char} {d : Char} (he : IsLineEnd e)
    (hd : d ≠ '\n' ∧ d ≠ '\r') (h : l ++ e ++ s = d :: u) : ∃ k, l = d :: k := by
  rcases l with _ | ⟨c, l⟩
  · rcases he with rfl | rfl <;> cases h
    · exact absurd rfl hd.1
    · exact absurd rfl hd.2
  · exact ⟨l, by rw [(List.cons.inj h).1]⟩

/-- Whether a slash opens a comment hangs on its line alone. -/
theorem slash_append {c d : Char} {s : List Char} (he : IsLineEnd e) (hd : d ≠ '\n' ∧ d ≠ '\r')
    (h : ∀ u, c = '/' → l = d :: u → False) (u : List Char) (hc : c = '/')
    (hu : l ++ e ++ s = d :: u) : False := by
  obtain ⟨k, rfl⟩ := exists_cons_of_append_lineEnd he hd hu
  exact h k hc rfl

theorem cutLine_of_not_mem (hl : '\n' ∉ l) : cutLine l = (l, []) := by
  induction l with
  | nil => rfl
  | cons c l ih =>
    obtain ⟨hc, hl⟩ := List.ne_and_not_mem_of_not_mem_cons hl
    rw [cutLine, if_neg (Ne.symm hc), ih hl]

theorem cutLine_append_lineEnd (s : List Char) (hl : '\n' ∉ l) (he : IsLineEnd e) :
    cutLine (l ++ e ++ s) = (l ++ e, s) := by
  induction l with
  | nil => rcases he with rfl | rfl <;> rfl
  | cons c l ih =>
    obtain ⟨hc, hl⟩ := List.ne_and_not_mem_of_not_mem_cons hl
    rw [List.cons_append, List.cons_append, cutLine, if_neg (Ne.symm hc), ih hl]

/-- A comment that ends in a text ends there in any longer text. -/
theorem cutComment_append_of_closed (s : List Char) (h : (cutComment l).2.1 = true) :
    cutComment (l ++ s) = ((cutComment l).1, true, (cutComment l).2.2 ++ s) := by
  fun_induction cutComment l with
  | case1 => cases h
  | case2 t => rfl
  | case3 c t hnot k closed r hcut ih =>
    rw [hcut] at ih
    have hend : ∀ u, c = '*' → t ++ s ≠ '/' :: u := by
      rintro u rfl hu
      rcases t with _ | ⟨d, t⟩
      · cases hcut
        cases h
      · exact hnot t rfl (by rw [(List.cons.inj hu).1])
    rw [List.cons_append, cutComment.eq_3 _ _ (fun u hc hu => hend u hc hu), ih h]

/-- A comment that does not end on a line goes on behind it. -/
theorem cutComment_append_of_not_closed (s : List Char) (he : IsLineEnd e)
    (h : (cutComment l).2.1 = false) :
    cutComment (l ++ e ++ s) =
      (l ++ e ++ (cutComment s).1, (cutComment s).2.1, (cutComment s).2.2) := by
  fun_induction cutComment l with
  | case1 => rcases he with rfl | rfl <;> rfl
  | case2 t => cases h
  | case3 c t hnot k closed r hcut ih =>
    rw [hcut] at ih
    have hend : ∀ u, c = '*' → t ++ e ++ s ≠ '/' :: u := by
      rintro u rfl hu
      obtain ⟨k, rfl⟩ := exists_cons_of_append_lineEnd he (by decide) hu
      exact hnot k rfl rfl
    rw [List.cons_append, List.cons_append, cutComment.eq_3 _ _ (fun u hc hu => hend u hc hu), ih h]
    rfl

theorem cutComment_of_not_closed (h : (cutComment l).2.1 = false) :
    cutComment l = (l, false, []) := by
  fun_induction cutComment l with
  | case1 => rfl
  | case2 t => cases h
  | case3 c t hnot k closed r hcut ih =>
    rw [hcut] at ih
    obtain ⟨rfl, rfl, rfl⟩ : k = t ∧ closed = false ∧ r = [] := by simpa using ih h
    rfl

theorem ne_backslash_of_isQuote {q : Char} (h : isQuote q) : q ≠ '\\' := by
  rintro rfl
  exact absurd h (by decide)

theorem closesQuoted_cons_of_ne {q c : Char} (hc : c ≠ '\\') (s : List Char) :
    closesQuoted q (c :: s) = (c == q || closesQuoted q s) :=
  closesQuoted.eq_3 _ _ _ fun _ _ h => absurd h hc

theorem cutQuoted_cons_of_ne {q c : Char} (hc : c ≠ '\\') (s : List Char) :
    cutQuoted q (c :: s) =
      if c = q then ([c], s) else (c :: (cutQuoted q s).1, (cutQuoted q s).2) :=
  cutQuoted.eq_3 _ _ _ fun _ _ h => absurd h hc

/-- A string closes in a text iff it closes in what is cut off for it. -/
theorem closesQuoted_cutQuoted (q : Char) (s : List Char) :
    closesQuoted q (cutQuoted q s).1 = closesQuoted q s := by
  fun_induction closesQuoted q s with
  | case1 => rfl
  | case2 c t ih => rw [cutQuoted, closesQuoted, ih]
  | case3 c t hnot ih =>
    by_cases hc : c = '\\'
    · subst hc
      rcases t with _ | ⟨d, t⟩
      · simp [cutQuoted, closesQuoted]
      · exact (hnot d t rfl rfl).elim
    · rw [cutQuoted_cons_of_ne hc]
      split
      · rename_i hcq
        rw [closesQuoted_cons_of_ne hc]
        simp [hcq]
      · rw [closesQuoted_cons_of_ne hc, ih]

/-- A string that closes in a text closes there in any longer text. -/
theorem cutQuoted_append_of_closes {q : Char} (s : List Char) (hq : isQuote q)
    (h : closesQuoted q l = true) :
    cutQuoted q (l ++ s) = ((cutQuoted q l).1, (cutQuoted q l).2 ++ s) := by
  fun_induction closesQuoted q l with
  | case1 => cases h
  | case2 c t ih => rw [List.cons_append, List.cons_append, cutQuoted, ih h, cutQuoted]
  | case3 c t hnot ih =>
    by_cases hc : c = '\\'
    · subst hc
      rcases t with _ | ⟨d, t⟩
      · simp [closesQuoted, Ne.symm (ne_backslash_of_isQuote hq)] at h
      · exact (hnot d t rfl rfl).elim
    · rw [List.cons_append, cutQuoted_cons_of_ne hc, cutQuoted_cons_of_ne hc]
      by_cases hcq : c = q
      · simp [hcq]
      · simp only [Bool.or_eq_true, beq_iff_eq, hcq, false_or] at h
        simp [hcq, ih h]

/-- A string that does not close on a line goes on behind it. -/
theorem newline_mem_cutQuoted {q : Char} (s : List Char) (hq : isQuote q) (he : IsLineEnd e)
    (h : closesQuoted q l = false) : '\n' ∈ (cutQuoted q (l ++ e ++ s)).1 := by
  have hbreak : q ≠ '\n' ∧ q ≠ '\r' := by
    constructor <;> rintro rfl <;> exact absurd hq (by decide)
  fun_induction closesQuoted q l with
  | case1 =>
    rcases he with rfl | rfl <;> simp [cutQuoted, hbreak.1.symm, hbreak.2.symm]
  | case2 c t ih =>
    rw [List.cons_append, List.cons_append, List.cons_append, List.cons_append, cutQuoted]
    exact List.mem_cons_of_mem _ (List.mem_cons_of_mem c (ih h))
  | case3 c t hnot ih =>
    simp only [Bool.or_eq_false_iff, beq_eq_false_iff_ne] at h
    by_cases hc : c = '\\'
    · subst hc
      rcases t with _ | ⟨d, t⟩
      · -- the backslash takes the first character of the line end with it
        rcases he with rfl | rfl <;> simp [cutQuoted, hbreak.1.symm]
      · exact (hnot d t rfl rfl).elim
    · rw [List.cons_append, List.cons_append, cutQuoted_cons_of_ne hc, if_neg h.1]
      exact List.mem_cons_of_mem c (ih h.2)

theorem takeWhile_append_of_head {p : Char → Bool} {t : List Char}
    (ht : ∀ c ∈ t.head?, p c = false) :
    (l ++ t).takeWhile p = l.takeWhile p ∧ (l ++ t).dropWhile p = l.dropWhile p ++ t := by
  induction l with
  | nil =>
    rcases t with _ | ⟨c, t⟩
    · exact ⟨rfl, rfl⟩
    · have hc : p c = false := ht c rfl
      simp [hc]
  | cons c l ih => by_cases hc : p c <;> simp [hc, ih]

theorem cutNumber_append_lineEnd (hex : Bool) (previous : Char) (s : List Char)
    (he : IsLineEnd e) : cutNumber hex previous (l ++ e ++ s) =
      ((cutNumber hex previous l).1, (cutNumber hex previous l).2 ++ e ++ s) := by
  induction l generalizing previous with
  | nil =>
    have hnewline : continuesNumber hex previous '\n' = false := rfl
    have hreturn : continuesNumber hex previous '\r' = false := rfl
    rcases he with rfl | rfl <;> simp [cutNumber, hnewline, hreturn]
  | cons c l ih =>
    rw [List.cons_append, List.cons_append, cutNumber, cutNumber]
    split
    · rw [ih c]
    · simp

theorem cutWord_append_lineEnd (s : List Char) (he : IsLineEnd e) :
    cutWord (l ++ e ++ s) = ((cutWord l).1, (cutWord l).2 ++ e ++ s) := by
  have hhead : ∀ c ∈ (e ++ s).head?, isWordChar c = false := by
    rcases he with rfl | rfl <;> rintro c ⟨⟩ <;> rfl
  obtain ⟨htake, hdrop⟩ := takeWhile_append_of_head (l := l) hhead
  rw [List.append_assoc, cutWord, htake, hdrop, cutWord, List.append_assoc]

theorem isHexadecimal_append_lineEnd (c : Char) (s : List Char) (he : IsLineEnd e) :
    isHexadecimal c (l ++ e ++ s) = isHexadecimal c l := by
  rcases l with _ | ⟨d, l⟩
  · rcases he with rfl | rfl <;> simp [isHexadecimal]
  · rfl

/-- Where the line starts with no comment, its first character tells what the first piece is. -/
theorem next?_cons_append {c : Char} (s : List Char) (he : IsLineEnd e)
    (hline : ∀ u, c = '/' → l = '/' :: u → False) (hblock : ∀ u, c = '/' → l = '*' :: u → False) :
    Piece.next? (c :: l ++ e ++ s) =
      if isAsciiBlank c then some (⟨.blank, [c]⟩, l ++ e ++ s)
      else if isQuote c then
        some (⟨.token .quoted, c :: (cutQuoted c (l ++ e ++ s)).1⟩, (cutQuoted c (l ++ e ++ s)).2)
      else if isWordStart c then
        some (⟨.token .word, c :: (cutWord l).1⟩, (cutWord l).2 ++ e ++ s)
      else if c.isDigit then
        some (⟨.token .number, c :: (cutNumber (isHexadecimal c l) c l).1⟩,
          (cutNumber (isHexadecimal c l) c l).2 ++ e ++ s)
      else some (⟨.token (.mark c), [c]⟩, l ++ e ++ s) := by
  rw [List.cons_append, List.cons_append, Piece.next?.eq_4 _ _ (slash_append he (by decide) hline)
    (slash_append he (by decide) hblock), cutWord_append_lineEnd s he,
    isHexadecimal_append_lineEnd c s he, cutNumber_append_lineEnd _ c s he]

end Cut

/-! ## The first piece of a line -/

/-- What the first piece of a text is, and what follows it, if the text starts with a line of which
`p` is the first piece and `r` the rest; the line ends with `e`, and `s` follows. -/
inductive FirstPiece (e s : List Char) (p : Piece) (r : List Char) :
    Option (Piece × List Char) → Prop where
  | lineComment (hk : p.kind = .lineComment) (hr : r = []) :
    FirstPiece e s p r (some (⟨.lineComment, p.text ++ e⟩, s))
  | blockComment (hk : p.kind = .blockComment false) (hr : r = []) :
    FirstPiece e s p r (some (⟨.blockComment (cutComment s).2.1, p.text ++ e ++ (cutComment s).1⟩,
      (cutComment s).2.2))
  | same (hk : p.kind ≠ .lineComment ∧ p.kind ≠ .blockComment false) :
    FirstPiece e s p r (some (p, r ++ e ++ s))

theorem firstPiece_next? {e l r : List Char} {p : Piece} (s : List Char) (hl : '\n' ∉ l)
    (he : IsLineEnd e) (h : Piece.next? l = some (p, r)) (hp : p.closesOnLine) :
    FirstPiece e s p r (Piece.next? (l ++ e ++ s)) := by
  revert h hp
  fun_cases Piece.next? l <;> simp only [reduceCtorEq, Option.some.injEq, Prod.mk.injEq,
    false_imp_iff, and_imp] <;> rintro rfl rfl hp
  · rename_i t k r h
    have ht : '\n' ∉ t := fun hc => hl (by simp [hc])
    rw [cutLine_of_not_mem ht] at h
    obtain ⟨rfl, rfl⟩ := Prod.mk.inj h
    have hnext : Piece.next? ('/' :: '/' :: t ++ e ++ s) =
        some (⟨.lineComment, '/' :: '/' :: t ++ e⟩, s) := by
      rw [List.cons_append, List.cons_append, List.cons_append, List.cons_append, Piece.next?,
        cutLine_append_lineEnd s ht he]
    rw [hnext]
    exact .lineComment rfl rfl
  · rename_i t k closed r h
    rcases hclosed : closed with _ | _
    · have hcut : (cutComment t).2.1 = false := by rw [h, hclosed]
      rw [cutComment_of_not_closed hcut] at h
      cases h
      have hnext : Piece.next? ('/' :: '*' :: t ++ e ++ s) =
          some (⟨.blockComment (cutComment s).2.1, '/' :: '*' :: t ++ e ++ (cutComment s).1⟩,
            (cutComment s).2.2) := by
        rw [List.cons_append, List.cons_append, List.cons_append, List.cons_append, Piece.next?,
          cutComment_append_of_not_closed s he hcut]
        rfl
      rw [hnext]
      exact .blockComment rfl rfl
    · have hcut : (cutComment t).2.1 = true := by rw [h, hclosed]
      have hnext : Piece.next? ('/' :: '*' :: t ++ e ++ s) =
          some (⟨.blockComment true, '/' :: '*' :: k⟩, r ++ e ++ s) := by
        rw [List.cons_append, List.cons_append, List.cons_append, List.cons_append, Piece.next?,
          List.append_assoc t, cutComment_append_of_closed _ hcut, h, List.append_assoc r]
      rw [hnext]
      exact .same (by simp)
  · rename_i c t h₁ h₂ hb
    rw [next?_cons_append s he h₁ h₂, if_pos hb]
    exact .same (by simp)
  · rename_i c t h₁ h₂ hb hq k r h
    have hcloses : closesQuoted c t = true := by
      simp only [Piece.closesOnLine, Bool.and_eq_true] at hp
      rw [← closesQuoted_cutQuoted, h, hp.1]
    rw [next?_cons_append s he h₁ h₂, if_neg hb, if_pos hq, List.append_assoc t,
      cutQuoted_append_of_closes _ hq hcloses, h, ← List.append_assoc]
    exact .same (by simp)
  · rename_i c t h₁ h₂ hb hq hw k r h
    rw [next?_cons_append s he h₁ h₂, if_neg hb, if_neg hq, if_pos hw, h]
    exact .same (by simp)
  · rename_i c t h₁ h₂ hb hq hw hd k r h
    rw [next?_cons_append s he h₁ h₂, if_neg hb, if_neg hq, if_neg hw, if_pos hd, h]
    exact .same (by simp)
  · rename_i c t h₁ h₂ hb hq hw hd
    rw [next?_cons_append s he h₁ h₂, if_neg hb, if_neg hq, if_neg hw, if_neg hd]
    exact .same (by simp)

/-- A quoted string that does not close on its line goes on behind it. -/
theorem closesOnLine_of_next? {e l r r' s : List Char} {p p' : Piece} (hl : '\n' ∉ l)
    (he : IsLineEnd e) (h : Piece.next? l = some (p, r))
    (h' : Piece.next? (l ++ e ++ s) = some (p', r')) (hp : p'.closesOnLine) : p.closesOnLine := by
  revert h
  fun_cases Piece.next? l <;> simp only [reduceCtorEq, Option.some.injEq, Prod.mk.injEq,
    false_imp_iff, and_imp] <;> rintro rfl rfl <;> try rfl
  rename_i c t h₁ h₂ hb hq k r h
  by_contra hopen
  have hk : '\n' ∉ k := by
    have hcut := cutQuoted_append c t
    rw [h] at hcut
    exact fun hc => hl (by rw [← hcut]; simp [hc])
  have hnot : closesQuoted c t = false := by
    rw [← closesQuoted_cutQuoted, h]
    simpa [Piece.closesOnLine, hk] using hopen
  rw [next?_cons_append s he h₁ h₂, if_neg hb, if_pos hq] at h'
  cases h'
  have hmem := newline_mem_cutQuoted s hq he hnot
  rw [Piece.closesOnLine, Bool.and_eq_true, Bool.not_eq_true', ← Bool.not_eq_true,
    List.contains_iff_mem] at hp
  exact hp.2 hmem

end Shader

end ShaderPreview
