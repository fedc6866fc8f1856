import Mathlib.Data.List.Infix
import ShaderPreview.Proofs.Text.TrimmedLines
import ShaderPreview.Shader.Fate

/-!
# Preprocessor directives

`Directive.ofLine?` reads the directives that set macros and that choose between branches.  In a
source without comments, quotes and continued lines (`Unadorned`) the fate of a line hangs on its
directive alone, and `LineState.step` is `LineState.stepDirective` but for the lines that the
program brings along itself (`step_eq_stepDirective`).
-/

namespace ShaderPreview

namespace Shader

open Text

/-- A directive that sets a macro, or that starts, turns or ends a conditional on one. -/
inductive Directive where
  | define (name : List Char)
  | undef (name : List Char)
  | ifdef (name : List Char)
  | ifndef (name : List Char)
  | orElse
  | endif
  deriving DecidableEq, Repr

/-- The word behind the keyword of a directive. -/
def directiveWord (line : List Char) : List Char :=
  (trimStart ((trimStart (line.drop 1)).dropWhile Char.isAlpha)).takeWhile isWordChar

/-- The directive on a line that starts with `#`. -/
def Directive.ofLine? (line : List Char) : Option Directive :=
  match directive? line with
  | none => none
  | some k =>
    if k = "define".toList then some (.define (directiveWord line))
    else if k = "undef".toList then some (.undef (directiveWord line))
    else if k = "ifdef".toList then some (.ifdef (directiveWord line))
    else if k = "ifndef".toList then some (.ifndef (directiveWord line))
    else if k = "else".toList then some .orElse
    else if k = "endif".toList then some .endif
    else none

/-- The keyword of a directive. -/
def Directive.keyword : Directive → List Char
  | define _ => "define".toList
  | undef _ => "undef".toList
  | ifdef _ => "ifdef".toList
  | ifndef _ => "ifndef".toList
  | orElse => "else".toList
  | endif => "endif".toList

theorem directive?_of_ofLine? {line : List Char} {d : Directive}
    (h : Directive.ofLine? line = some d) : directive? line = some d.keyword := by
  unfold Directive.ofLine? at h
  split at h
  · cases h
  · rename_i k hk
    rw [hk]
    repeat' split at h
    all_goals cases h
    all_goals exact congrArg some ‹_›

/-- A source without comments, quotes and continued lines. -/
structure Unadorned (source : List Char) : Prop where
  no_comment : ¬ ['/', '/'] <:+: source ∧ ¬ ['/', '*'] <:+: source
  no_quote : source.any isQuote = false
  no_continuation : ∀ l ∈ trimmedLines source, endsInBackslash l = false

/-! ## Directives of trimmed lines -/

theorem isAlphanum_of_isBlank {c : Char} (h : isBlank c) :
    c.isAlpha = false ∧ c.isDigit = false := by
  have halpha : c.isAlpha = (decide (c.val ≥ 'A'.val ∧ c.val ≤ 'Z'.val) ||
      (decide (c.val ≥ 'a'.val) && decide (c.val ≤ 'z'.val))) := rfl
  have hdigit : c.isDigit = (decide (c.val ≥ '0'.val) && decide (c.val ≤ '9'.val)) := rfl
  simp only [isBlank, blankRanges, List.any_cons, List.any_nil, Bool.or_eq_true, Bool.and_eq_true,
    decide_eq_true_eq, Bool.or_false, Char.toNat] at h
  simp only [halpha, hdigit, Bool.or_eq_false_iff, Bool.and_eq_false_iff, decide_eq_false_iff_not,
    ge_iff_le, UInt32.le_iff_toNat_le]
  simp only [UInt32.reduceToNat, Char.reduceVal]
  omega

theorem takeWhile_isAlpha_append {w : List Char} (s : List Char) (hw : ∀ c ∈ w, isBlank c) :
    (s ++ w).takeWhile Char.isAlpha = s.takeWhile Char.isAlpha := by
  have hnil : w.takeWhile Char.isAlpha = [] := by
    rcases w with _ | ⟨c, w⟩
    · rfl
    · have hc := (isAlphanum_of_isBlank (hw c List.mem_cons_self)).1
      exact List.takeWhile_cons_of_neg (by simp [hc])
  rw [List.takeWhile_append, hnil, List.append_nil]
  split
  · rename_i h
    exact (List.IsPrefix.eq_of_length (List.takeWhile_prefix _) h).symm
  · rfl

theorem directive?_append {w : List Char} (s : List Char) (hw : ∀ c ∈ w, isBlank c) :
    directive? (s ++ w) = directive? s := by
  rcases s with _ | ⟨c, s⟩
  · rcases w with _ | ⟨c, w⟩
    · rfl
    · have hc : c ≠ '#' := by
        rintro rfl
        exact absurd (hw '#' List.mem_cons_self) (by decide)
      simp [directive?, hc]
  · by_cases hc : c = '#'
    · subst hc
      simp only [List.cons_append, directive?, trimStart]
      rw [dropWhile_isBlank_append s hw]
      split
      · rename_i hs
        rw [List.dropWhile_eq_nil_iff.2 (List.all_eq_true.1 hs)]
      · rw [takeWhile_isAlpha_append _ hw]
    · simp [directive?, hc]

/-- The directive of a line does not hang on the white space around the line. -/
theorem directive?_trim (line : List Char) :
    directive? (trim line) = directive? (trimStart line) := by
  obtain ⟨w, hs, hw⟩ := exists_trimEnd_append (trimStart line)
  calc
    directive? (trim line) = directive? (trimEnd (trimStart line) ++ w) :=
      (directive?_append _ hw).symm
    _ = directive? (trimStart line) := by rw [← hs]

/-! ## The step over a line without comments -/

theorem endsInComment_eq_false {m : LineMode} {l : List Char} (hm : m ≠ .comment)
    (h : ¬ ['/', '*'] <:+: l) : m.endsInComment l = false := by
  have tail {c : Char} {s : List Char} (h : ¬ ['/', '*'] <:+: c :: s) : ¬ ['/', '*'] <:+: s :=
    fun hs => h (List.infix_cons hs)
  fun_induction LineMode.endsInComment m l with
  | case1 => exact absurd rfl hm
  | case2 => exact absurd rfl hm
  | case3 => exact absurd rfl hm
  | case4 => rfl
  | case5 => rfl
  | case6 s ih => exact absurd ⟨[], s, rfl⟩ h
  | case7 c s _ _ hq ih => exact ih (by simp) (tail h)
  | case8 c s _ _ hq ih => exact ih (by simp) (tail h)
  | case9 => rfl
  | case10 q c s ih => exact ih hm (tail (tail h))
  | case11 c s _ ih => exact ih (by simp) (tail h)
  | case12 q c s _ hc ih => exact ih hm (tail h)

/-- No comment is open behind a line. -/
theorem Unadorned.commentOpenAfter_eq_false {source line : List Char} (h : Unadorned source)
    (hl : line ∈ lines source) : commentOpenAfter line false = false :=
  endsInComment_eq_false (by simp) fun hc => h.no_comment.2 (hc.trans (infix_of_mem_lines hl))

/-- No comment and no moved definition goes on into the next line. -/
structure LineState.IsFresh (st : LineState) : Prop where
  inComment : st.inComment = false
  continuing : st.continuing = false

section Step

variable {st : LineState} {line : List Char}

theorem step_eq_stepDirective (hcomment : commentOpenAfter line false = false)
    (hin : st.inComment = false) (hcont : st.continuing = false)
    (hheader : isHeaderDirective (trimStart line) = false)
    (hdecl : afterRedeclaration? (trimStart line) = none) :
    st.step line = st.stepDirective line := by
  obtain ⟨inComment, depth, hoisting, continuing⟩ := st
  subst hin hcont
  simp [LineState.step, LineState.stepCode, hcomment, hheader, hdecl]

/-- A line without one of the directives stays, and nothing changes. -/
theorem stepDirective_of_eq_none (h : Directive.ofLine? (trim line) = none)
    (hif : directive? (trim line) ≠ some "if".toList) :
    st.stepDirective line = (.kept line, st) := by
  unfold Directive.ofLine? at h
  rw [LineState.stepDirective, ← directive?_trim]
  split at h
  · rename_i hk
    rw [hk]
  · rename_i k hk
    have hne : k ≠ "if".toList := fun hk' => hif (hk.trans (congrArg some hk'))
    rw [hk]
    repeat' split at h
    all_goals try cases h
    rename_i hdefine hundef hifdef hifndef helse hendif
    simp only
    rw [if_neg (not_or.2 ⟨hne, not_or.2 ⟨hifdef, hifndef⟩⟩), if_neg hendif, if_neg hundef,
      if_neg fun h => hdefine h.1]

/-- A definition moves while definitions are moved and no conditional is open; `#undef` ends the
moving, and conditionals are counted. -/
theorem stepDirective_of_eq_some {d : Directive} (h : Directive.ofLine? (trim line) = some d)
    (hin : st.inComment = false) :
    st.stepDirective line =
      match d with
      | .define _ =>
        if st.hoisting ∧ st.depth = 0 then
          (.opensDefinition (trim line), { st with continuing := endsInBackslash (trim line) })
        else (.kept line, st)
      | .undef _ => (.kept line, { st with hoisting := false })
      | .ifdef _ | .ifndef _ => (.kept line, { st with depth := st.depth + 1 })
      | .orElse => (.kept line, st)
      | .endif => (.kept line, { st with depth := st.depth - 1 }) := by
  have hk := directive?_of_ofLine? h
  rw [LineState.stepDirective, ← directive?_trim]
  cases d with
  | define n =>
    rw [hk, show Directive.keyword (.define n) = "define".toList from rfl]
    exact (if_neg (by decide)).trans ((if_neg (by decide)).trans ((if_neg (by decide)).trans
      (if_congr ⟨fun h => ⟨h.2.1, h.2.2.1⟩, fun h => ⟨rfl, h.1, h.2, by simp [hin]⟩⟩ rfl rfl)))
  | undef n =>
    rw [hk, show Directive.keyword (.undef n) = "undef".toList from rfl]
    exact (if_neg (by decide)).trans ((if_neg (by decide)).trans (if_pos rfl))
  | ifdef n =>
    rw [hk]
    exact if_pos (.inr (.inl rfl))
  | ifndef n =>
    rw [hk]
    exact if_pos (.inr (.inr rfl))
  | orElse =>
    rw [hk]
    exact (if_neg (by decide)).trans ((if_neg (by decide)).trans ((if_neg (by decide)).trans
      (if_neg fun h => absurd h.1 (by decide))))
  | endif =>
    rw [hk]
    exact (if_neg (by decide)).trans (if_pos rfl)

end Step

end Shader

end ShaderPreview
