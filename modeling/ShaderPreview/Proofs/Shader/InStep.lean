import ShaderPreview.Proofs.Shader.LineScan
import ShaderPreview.Proofs.Shader.LineSteps
import ShaderPreview.Proofs.Shader.Span

/-!
# Comments in what stays of a source

Comments are followed over the lines of the source; what stays of the lines is scanned again, as a
text of its own.  The two are in step where no line that stays follows a removed line that leaves a
comment open (`InStep`).  Then a block comment is open in front of a line in the text that stays iff
it is open there in the source, unless the line before was removed (`openInKept`).
-/

namespace ShaderPreview

namespace Shader

open Text

/-! ## Behind a declaration -/

theorem endsOpen_append {ps : List Piece} (qs : List Piece) (h : endsOpen ps = false) :
    endsOpen (ps ++ qs) = endsOpen qs := by
  fun_induction endsOpen ps with
  | case1 => rfl
  | case2 p => exact endsOpen_cons_of_ne (by simpa using h)
  | case3 p ps hne ih =>
    rcases ps with _ | ⟨q, ps⟩
    · exact absurd rfl hne
    · exact ih h

theorem endsOpen_concat (ps : List Piece) (p : Piece) :
    endsOpen (ps ++ [p]) = (p.kind == .blockComment false) := by
  fun_induction endsOpen ps with
  | case1 => rfl
  | case2 q => rfl
  | case3 q ps hne ih =>
    rcases ps with _ | ⟨r, ps⟩
    · exact absurd rfl hne
    · exact ih

theorem isWordStart_of_isBlank {c : Char} (h : isBlank c) : isWordStart c = false := by
  have hc : c ≠ '_' := by
    rintro rfl
    exact absurd h (by decide)
  simp [isWordStart, (isAlphanum_of_isBlank h).1, hc]

/-- Blank characters are pieces of their own. -/
theorem exists_pieces_blank_append {w : List Char} (s : List Char) (hw : ∀ c ∈ w, isBlank c) :
    ∃ ps, pieces (w ++ s) = ps ++ pieces s ∧ ps.flatMap Piece.text = w ∧ endsOpen ps = false := by
  induction w with
  | nil => exact ⟨[], rfl, rfl, rfl⟩
  | cons c w ih =>
    obtain ⟨ps, hps, htext, hopen⟩ := ih fun d hd => hw d (List.mem_cons_of_mem c hd)
    have hblank := hw c List.mem_cons_self
    have hslash := slash_quote_of_class hblank rfl rfl rfl
    obtain ⟨k, hk, hnext⟩ : ∃ k, k ≠ .blockComment false ∧
        Piece.next? (c :: (w ++ s)) = some (⟨k, [c]⟩, w ++ s) := by
      rw [Piece.next?.eq_4 _ _ (fun _ h => absurd h hslash.1) (fun _ h => absurd h hslash.1)]
      by_cases hb : isAsciiBlank c
      · exact ⟨.blank, by simp, if_pos hb⟩
      · refine ⟨.token (.mark c), by simp, ?_⟩
        simp [hb, hslash.2, isWordStart_of_isBlank hblank, (isAlphanum_of_isBlank hblank).2]
    refine ⟨⟨k, [c]⟩ :: ps, ?_, ?_, ?_⟩
    · rw [List.cons_append, pieces_eq_cons hnext, hps, List.cons_append]
    · rw [List.flatMap_cons, htext]
      rfl
    · rw [endsOpen_cons_of_ne hk, hopen]

/-- A declaration ends at a `;`, whatever tokens follow it. -/
theorem exists_of_declarationEnd? {named : Bool} {ts : List Token} {n : Nat}
    (h : declarationEnd? named ts = some n) : ∃ xs t ys, ts = xs ++ t :: ys ∧ t.kind = .mark ';' ∧
      t.stop = n ∧ ∀ zs, declarationEnd? named (xs ++ t :: zs) = some n := by
  fun_induction declarationEnd? named ts with
  | case1 => cases h
  | case2 t ts hk =>
    cases h
    exact ⟨[], t, ts, rfl, hk, rfl, fun zs => by simp [declarationEnd?, hk]⟩
  | case3 => cases h
  | case4 => cases h
  | case5 => cases h
  | case6 named t ts hk ih =>
    obtain ⟨xs, u, ys, rfl, hu, hn, hends⟩ := ih h
    exact ⟨t :: xs, u, ys, rfl, hu, hn, fun zs => by simp [declarationEnd?, hk, hends]⟩
  | case7 named t ts h₁ h₂ h₃ h₄ ih =>
    obtain ⟨xs, u, ys, rfl, hu, hn, hends⟩ := ih h
    refine ⟨t :: xs, u, ys, rfl, hu, hn, fun zs => ?_⟩
    rw [List.cons_append, declarationEnd?]
    split
    · exact absurd ‹_› h₁
    · exact absurd ‹_› h₂
    · exact absurd ‹_› h₃
    · exact absurd ‹_› h₄
    · exact hends zs

/-- A declaration at the start of a line ends at a `;`, in every line that has the same tokens up to
there. -/
theorem exists_of_redeclarationEnd? {line : List Char} {n : Nat}
    (h : redeclarationEnd? line = some n) :
    ∃ xs t ys, tokens line = xs ++ t :: ys ∧ t.kind = .mark ';' ∧ t.stop = n ∧
      ∀ other zs, tokens other = xs ++ t :: zs → redeclarationEnd? other = some n := by
  unfold redeclarationEnd? at h
  split at h
  · rename_i t ts hts
    rw [Option.ite_none_right_eq_some] at h
    obtain ⟨hword, h⟩ := h
    obtain ⟨xs, u, ys, rfl, hu, hn, hends⟩ := exists_of_declarationEnd? h
    refine ⟨t :: xs, u, ys, hts, hu, hn, fun other zs hother => ?_⟩
    rw [redeclarationEnd?, hother]
    exact (if_pos hword).trans (hends zs)
  · cases h

/-- The pieces behind a declaration that is stripped are those of the text behind it. -/
theorem exists_pieces_of_afterRedeclaration? {line rest : List Char}
    (h : afterRedeclaration? (trimStart line) = some rest) :
    ∃ ps, pieces line = ps ++ pieces rest ∧ endsOpen ps = false := by
  obtain ⟨n, hn, rfl⟩ := Option.map_eq_some_iff.1 h
  obtain ⟨xs, t, ys, hts, -, rfl, -⟩ := exists_of_redeclarationEnd? hn
  have ht : t ∈ tokens (trimStart line) := by rw [hts]; simp
  obtain ⟨qs, p, hq, hk, -⟩ := pieces_splitAtByte_stop ht
  obtain ⟨ps, hp, -, hopen⟩ := exists_pieces_blank_append (trimStart line)
    (w := line.takeWhile isBlank) fun c hc => List.all_eq_true.1 List.all_takeWhile c hc
  have hline : line.takeWhile isBlank ++ trimStart line = line := List.takeWhile_append_dropWhile
  rw [hline, hq] at hp
  refine ⟨ps ++ (qs ++ [p]), ?_, ?_⟩
  · rw [hp]
    simp
  · rw [endsOpen_append _ hopen, endsOpen_concat, hk]
    rfl

/-- What follows a declaration that is stripped leaves a comment open iff its line does. -/
theorem commentOpenAfter_of_afterRedeclaration? {line rest : List Char} (hl : '\n' ∉ line)
    (h : afterRedeclaration? (trimStart line) = some rest) :
    '\n' ∉ rest ∧ commentOpenAfter rest false = commentOpenAfter line false := by
  obtain ⟨ps, hps, hclosed⟩ := exists_pieces_of_afterRedeclaration? h
  have hrest : '\n' ∉ rest := fun hc => hl
    (((suffix_of_afterRedeclaration? h).trans (List.dropWhile_suffix isBlank)).mem hc)
  refine ⟨hrest, ?_⟩
  rw [← endsOpen_piecesFrom hl, ← endsOpen_piecesFrom hrest]
  simp only [piecesFrom, Bool.false_eq_true, if_false]
  rw [hps, endsOpen_append _ hclosed]

/-! ## Two scans in step -/

namespace Fate

/-- The whole line stays. -/
def isKept : Fate → Bool
  | kept _ => true
  | _ => false

/-- Nothing of the line stays, whatever it holds. -/
def isRemoved : Fate → Bool
  | header => true
  | opensDefinition _ => true
  | continuesDefinition _ => true
  | _ => false

end Fate

/-- No line that stays follows a removed line that leaves a comment open; `removed` says whether a
removed line stands in front of the lines. -/
def InStep (st : LineState) (removed : Bool) : List (List Char) → Prop
  | [] => True
  | l :: ls =>
    ((st.step l).1.isKept → removed → st.inComment = false) ∧
      InStep (st.step l).2 (st.step l).1.isRemoved ls

instance decidableInStep (st : LineState) (removed : Bool) :
    ∀ ls, Decidable (InStep st removed ls)
  | [] => isTrue trivial
  | l :: ls =>
    have : Decidable (InStep (st.step l).2 (st.step l).1.isRemoved ls) := decidableInStep _ _ ls
    inferInstanceAs (Decidable (_ ∧ _))

/-- A block comment is open in the text that stays. -/
def openInKept (removed : Bool) (st : LineState) : Bool := !removed && st.inComment

section Step

variable {st st' : LineState} {line : List Char} {f : Fate} {removed : Bool}

/-- Only behind a removed line a definition is continued. -/
theorem StepsTo.isRemoved_of_continuing (h : StepsTo st line f st') (hc : st'.continuing = true) :
    f.isRemoved := by
  cases h with
  | continues => rfl
  | inComment h => simp [h] at hc
  | header h => simp [h] at hc
  | redeclaration h => simp [h] at hc
  | stays _ _ _ h => simp [h] at hc
  | opens => rfl

theorem commentOpenAfter_of_isAllBlank {s : List Char} (hs : isAllBlank s) :
    commentOpenAfter s false = false := by
  have hslash : ∀ c ∈ s, c ≠ '/' ∧ isQuote c = false := fun c hc =>
    slash_quote_of_class (List.all_eq_true.1 hs c hc) rfl rfl rfl
  have h := endsInComment_append [] hslash
  rw [List.append_nil] at h
  exact h

/-- What stays of a line takes the comment from what is open in front of it in the text that stays
to what is open behind it. -/
theorem StepsTo.remains_inStep (h : StepsTo st line f st') (hc : st.continuing = true → removed)
    (hsync : f.isKept → removed → st.inComment = false) (hl : '\n' ∉ line)
    (hp : ∀ p ∈ piecesFrom st.inComment line, p.closesOnLine) :
    (f.remains? = none ∧ openInKept f.isRemoved st' = openInKept removed st) ∨
      ∃ r, f.remains? = some r ∧ '\n' ∉ r ∧
        (∀ p ∈ piecesFrom (openInKept removed st) r, p.closesOnLine) ∧
        commentOpenAfter r (openInKept removed st) = openInKept f.isRemoved st' := by
  have hafter := h.inComment_eq
  -- a line that stays is met alike in both scans
  have stays (hf : f = .kept line) : ∃ r, f.remains? = some r ∧ '\n' ∉ r ∧
      (∀ p ∈ piecesFrom (openInKept removed st) r, p.closesOnLine) ∧
      commentOpenAfter r (openInKept removed st) = openInKept f.isRemoved st' := by
    subst hf
    have hopen : openInKept removed st = st.inComment := by
      rcases hr : removed with _ | _
      · rfl
      · rw [hsync rfl hr]
        rfl
    refine ⟨line, rfl, hl, ?_, ?_⟩
    · rw [hopen]
      exact hp
    · rw [hopen, ← hafter]
      rfl
  cases h with
  | continues h => exact .inl ⟨rfl, by simp [openInKept, Fate.isRemoved, hc h]⟩
  | inComment => exact .inr (stays rfl)
  | header _ hin => exact .inl ⟨rfl, by simp [openInKept, Fate.isRemoved, hin]⟩
  | @redeclaration rest _ hin hr =>
    obtain ⟨ps, hps, -⟩ := exists_pieces_of_afterRedeclaration? hr
    obtain ⟨hrest, hsame⟩ := commentOpenAfter_of_afterRedeclaration? hl hr
    have hopen : openInKept removed st = false := by simp [openInKept, hin]
    rw [hopen]
    by_cases hblank : isAllBlank rest
    · refine .inl ⟨if_pos hblank, ?_⟩
      simp [openInKept, ← hsame, commentOpenAfter_of_isAllBlank hblank]
    · refine .inr ⟨rest, if_neg hblank, hrest, fun p hp' => hp p ?_, hsame⟩
      rw [hin]
      simp only [piecesFrom, Bool.false_eq_true, if_false] at hp' ⊢
      rw [hps]
      exact List.mem_append_right ps hp'
  | stays => exact .inr (stays rfl)
  | opens _ hin => exact .inl ⟨rfl, by simp [openInKept, Fate.isRemoved, hin]⟩

end Step

end Shader

end ShaderPreview
