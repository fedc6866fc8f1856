import Mathlib.Tactic.SplitIfs
import ShaderPreview.Proofs.Shader.Directive

/-!
# Steps from line to line

`StepsTo` lists all that a step over a line can do, with what is known in each case.  What stays of
a line is an end of it, and where no line is continued each moved definition is one line.
-/

namespace ShaderPreview

namespace Shader

open Text

/-- The ways in which a line is met. -/
inductive StepsTo (st : LineState) (line : List Char) : Fate → LineState → Prop where
  | continues (hc : st.continuing = true) :
    StepsTo st line (.continuesDefinition (trimEnd line))
      { st with
        inComment := commentOpenAfter line st.inComment
        continuing := endsInBackslash (trimEnd line) }
  | inComment (hc : st.continuing = false) (hin : st.inComment = true) :
    StepsTo st line (.kept line) { st with inComment := commentOpenAfter line true }
  | header (hc : st.continuing = false) (hin : st.inComment = false)
    (hh : isHeaderDirective (trimStart line) = true) :
    StepsTo st line .header { st with inComment := commentOpenAfter line false }
  | redeclaration {rest : List Char} (hc : st.continuing = false) (hin : st.inComment = false)
    (hr : afterRedeclaration? (trimStart line) = some rest) :
    StepsTo st line (.redeclaration rest) { st with inComment := commentOpenAfter line false }
  | stays {st' : LineState} (hc : st.continuing = false) (hin : st.inComment = false)
    (hin' : st'.inComment = commentOpenAfter line false) (hc' : st'.continuing = false)
    (hh : st'.hoisting = true → st.hoisting = true) :
    StepsTo st line (.kept line) st'
  | opens (hc : st.continuing = false) (hin : st.inComment = false)
    (hd : directive? (trim line) = some "define".toList) (hh : st.hoisting = true)
    (hclosed : commentOpenAfter line false = false) :
    StepsTo st line (.opensDefinition (trim line))
      { st with continuing := endsInBackslash (trim line) }

section Step

variable {st st' : LineState} {line : List Char} {f : Fate}

theorem stepsTo_step (st : LineState) (line : List Char) :
    StepsTo st line (st.step line).1 (st.step line).2 := by
  rcases hc : st.continuing with _ | _
  · rcases hin : st.inComment with _ | _
    · -- the line is met outside comments
      set after : LineState := { st with inComment := commentOpenAfter line false } with hafter
      have hstep : st.step line = after.stepCode line := by
        simp [LineState.step, hc, hin, hafter]
      rw [hstep, LineState.stepCode]
      split
      · rename_i hh
        exact .header hc hin hh
      · split
        · rename_i rest hr
          exact .redeclaration hc hin hr
        · have hstays (st' : LineState) (h : st'.inComment = after.inComment)
              (h' : st'.continuing = after.continuing)
            (hh : st'.hoisting = true → after.hoisting = true) : StepsTo st line (.kept line) st' :=
            .stays hc hin h (h'.trans hc) hh
          rw [LineState.stepDirective]
          split
          · rename_i k hk
            split_ifs with h₁ h₂ h₃ h₄
            · exact hstays _ rfl rfl id
            · exact hstays _ rfl rfl id
            · exact hstays _ rfl rfl (by simp)
            · obtain ⟨hdefine, hh, -, hclosed⟩ := h₄
              have hclosed : commentOpenAfter line false = false := by simpa [hafter] using hclosed
              have hst : after = st := by rw [hafter, hclosed, ← hin]
              rw [hst]
              exact .opens hc hin (by rw [directive?_trim, hk, hdefine]) hh hclosed
            · exact hstays _ rfl rfl id
          · exact hstays _ rfl rfl id
    · have hstep : st.step line =
          (.kept line, { st with inComment := commentOpenAfter line true }) := by
        simp [LineState.step, hc, hin]
      rw [hstep]
      exact .inComment hc hin
  · have hstep : st.step line = (.continuesDefinition (trimEnd line),
        { st with
          inComment := commentOpenAfter line st.inComment
          continuing := endsInBackslash (trimEnd line) }) := by
      simp [LineState.step, hc]
    rw [hstep]
    exact .continues hc

/-- Once definitions are not moved any more, they are never moved again. -/
theorem StepsTo.hoisting_of_hoisting (h : StepsTo st line f st') (hh : st'.hoisting = true) :
    st.hoisting = true := by
  cases h with
  | continues => exact hh
  | inComment => exact hh
  | header => exact hh
  | redeclaration => exact hh
  | stays _ _ _ _ h => exact h hh
  | opens _ _ _ h => exact h

/-- Comments are followed over every line, whatever becomes of it. -/
theorem StepsTo.inComment_eq (h : StepsTo st line f st') :
    st'.inComment = commentOpenAfter line st.inComment := by
  cases h with
  | continues => rfl
  | inComment _ hin => rw [hin]
  | header _ hin => rw [hin]
  | redeclaration _ hin => rw [hin]
  | stays _ hin h => rw [hin, h]
  | opens _ hin _ _ hclosed => rw [hin, hclosed]

theorem suffix_of_afterRedeclaration? {rest : List Char}
    (h : afterRedeclaration? line = some rest) : rest <:+ line := by
  obtain ⟨n, -, rfl⟩ := Option.map_eq_some_iff.1 h
  exact ⟨(splitAtByte n line).1, splitAtByte_append n line⟩

/-- What stays of a line is an end of it. -/
theorem StepsTo.suffix_of_remains? (h : StepsTo st line f st') {rest : List Char}
    (hr : f.remains? = some rest) : rest <:+ line := by
  cases h with
  | continues => cases hr
  | inComment => cases hr; exact List.suffix_rfl
  | header => cases hr
  | redeclaration _ _ hd =>
    simp only [Fate.remains?] at hr
    split at hr
    · cases hr
    · cases hr
      exact (suffix_of_afterRedeclaration? hd).trans (List.dropWhile_suffix isBlank)
  | stays => cases hr; exact List.suffix_rfl
  | opens => cases hr

theorem StepsTo.ne_continuesDefinition (h : StepsTo st line f st') (hc : st.continuing = false)
    (text : List Char) : f ≠ .continuesDefinition text := by
  cases h with
  | continues h => simp [hc] at h
  | inComment => simp
  | header => simp
  | redeclaration => simp
  | stays => simp
  | opens => simp

/-- A line that does not end in a backslash is not continued. -/
theorem StepsTo.continuing_eq_false (h : StepsTo st line f st') (hc : st.continuing = false)
    (hl : endsInBackslash (trim line) = false) : st'.continuing = false := by
  cases h with
  | continues h => simp [hc] at h
  | inComment => exact hc
  | header => exact hc
  | redeclaration => exact hc
  | stays _ _ _ hc' _ => exact hc'
  | opens => exact hl

end Step

/-! ## The lines of a source -/

theorem fatesFrom_cons (st : LineState) (line : List Char) (ls : List (List Char)) :
    fatesFrom st (line :: ls) = (st.step line).1 :: fatesFrom (st.step line).2 ls := rfl

theorem fatesFrom_of_step {st st' : LineState} {line : List Char} {f : Fate}
    (h : st.step line = (f, st')) (ls : List (List Char)) :
    fatesFrom st (line :: ls) = f :: fatesFrom st' ls := by
  rw [fatesFrom_cons, h]

/-- Each fate is that of a line at the same place. -/
theorem exists_line_of_getElem? {st : LineState} {ls : List (List Char)} {i : Nat} {f : Fate}
    (h : (fatesFrom st ls)[i]? = some f) :
    ∃ l st₀ st₁, ls[i]? = some l ∧ StepsTo st₀ l f st₁ := by
  induction ls generalizing st i with
  | nil => simp [fatesFrom] at h
  | cons l ls ih =>
    rw [fatesFrom_cons] at h
    rcases i with _ | i
    · cases h
      exact ⟨l, st, (st.step l).2, rfl, stepsTo_step st l⟩
    · exact ih h

theorem exists_line_of_mem {st : LineState} {ls : List (List Char)} {f : Fate}
    (h : f ∈ fatesFrom st ls) : ∃ l st₀ st₁, l ∈ ls ∧ StepsTo st₀ l f st₁ := by
  obtain ⟨i, hi⟩ := List.mem_iff_getElem?.1 h
  obtain ⟨l, st₀, st₁, hl, hstep⟩ := exists_line_of_getElem? hi
  exact ⟨l, st₀, st₁, List.mem_of_getElem? hl, hstep⟩

/-- What stays of the lines are ends of lines. -/
theorem exists_suffix_of_mem_remains {st : LineState} {ls : List (List Char)} {rest : List Char}
    (h : rest ∈ (fatesFrom st ls).filterMap Fate.remains?) : ∃ l ∈ ls, rest <:+ l := by
  obtain ⟨f, hf, hr⟩ := List.mem_filterMap.1 h
  obtain ⟨l, st₀, st₁, hl, hstep⟩ := exists_line_of_mem hf
  exact ⟨l, hl, hstep.suffix_of_remains? hr⟩

/-- The line that opens a definition that is moved. -/
def Fate.opened? : Fate → Option (List Char)
  | .opensDefinition text => some text
  | _ => none

/-- What is moved of the line that opens a definition. -/
theorem exists_line_of_opensDefinition {st : LineState} {ls : List (List Char)} {text : List Char}
    (h : .opensDefinition text ∈ fatesFrom st ls) :
    ∃ l ∈ ls, text = trim l ∧ directive? text = some "define".toList := by
  obtain ⟨l, st₀, st₁, hl, hstep⟩ := exists_line_of_mem h
  cases hstep with
  | opens _ _ hd _ _ => exact ⟨l, hl, rfl, hd⟩

theorem filterMap_opened?_of_not_hoisting {st : LineState} (hh : st.hoisting = false)
    (ls : List (List Char)) : (fatesFrom st ls).filterMap Fate.opened? = [] := by
  induction ls generalizing st with
  | nil => rfl
  | cons l ls ih =>
    have hstep := stepsTo_step st l
    have hh' : (st.step l).2.hoisting = false :=
      Bool.eq_false_iff.2 fun h => by simp [hstep.hoisting_of_hoisting h] at hh
    have hnone : (st.step l).1.opened? = none := by
      generalize (st.step l).1 = f, (st.step l).2 = st' at hstep
      cases hstep with
      | opens _ _ _ h => simp [hh] at h
      | _ => rfl
    rw [fatesFrom_cons, List.filterMap_cons_none hnone]
    exact ih hh'

theorem take_fatesFrom (st : LineState) (ls : List (List Char)) (k : Nat) :
    (fatesFrom st ls).take k = fatesFrom st (ls.take k) := by
  induction ls generalizing st k with
  | nil => rw [fatesFrom, List.take_nil, List.take_nil, fatesFrom]
  | cons l ls ih =>
    rcases k with _ | k
    · rfl
    · rw [fatesFrom_cons, List.take_succ_cons, List.take_succ_cons, fatesFrom_cons, ih]

/-- Where no line is continued, each moved definition is one line. -/
theorem movedDefinitions_eq_filterMap {ls : List (List Char)}
    (hls : ∀ l ∈ ls, endsInBackslash (trim l) = false) {st : LineState}
    (hc : st.continuing = false) :
    movedDefinitions (fatesFrom st ls) = (fatesFrom st ls).filterMap Fate.opened? := by
  have hlines : movedLines (fatesFrom st ls) =
      ((fatesFrom st ls).filterMap Fate.opened?).map fun t => [t] := by
    induction ls generalizing st with
    | nil => rfl
    | cons l ls ih =>
      have hstep := stepsTo_step st l
      have hc' := hstep.continuing_eq_false hc (hls l List.mem_cons_self)
      have ih := ih (fun k hk => hls k (List.mem_cons_of_mem l hk)) hc'
      have hnone : continuations (fatesFrom (st.step l).2 ls) = [] := by
        rcases ls with _ | ⟨k, ls⟩
        · rfl
        · have hne := (stepsTo_step (st.step l).2 k).ne_continuesDefinition hc'
          rw [fatesFrom_cons]
          unfold continuations
          split
          · rename_i heq
            exact absurd (List.cons.inj heq).1 (hne _)
          · rfl
      rw [fatesFrom_cons]
      cases hf : (st.step l).1 <;>
        simp only [movedLines, List.filterMap_cons, Fate.opened?, List.map_cons, ih, hnone]
  rw [movedDefinitions, hlines, List.map_map]
  simp [Function.comp_def, join]

/-! ## The lines of what is moved and of what stays -/

theorem keptText_cons_of_none {f : Fate} (h : f.remains? = none) (fs : List Fate) :
    keptText (f :: fs) = keptText fs := by
  rw [keptText, List.filterMap_cons_none h, keptText]

theorem keptText_cons_of_some {f : Fate} {r : List Char} (h : f.remains? = some r)
    (fs : List Fate) : keptText (f :: fs) = r ++ ['\n'] ++ keptText fs := by
  rw [keptText, List.filterMap_cons_some h, keptText]
  rfl

/-- The trimmed lines of the definitions that are moved, where no line is continued. -/
theorem trimmedLines_movedDefinitions {source : List Char} (s : List Char)
    (hls : ∀ l ∈ lines source, endsInBackslash (trim l) = false) :
    trimmedLines (unlines (movedDefinitions (fates source)) ++ s) =
      (fates source).filterMap Fate.opened? ++ trimmedLines s := by
  have hopened (text : List Char) (h : text ∈ (fates source).filterMap Fate.opened?) :
      ∃ l ∈ lines source, text = trim l := by
    obtain ⟨f, hf, hopened⟩ := List.mem_filterMap.1 h
    cases f <;> simp only [Fate.opened?, reduceCtorEq, Option.some.injEq] at hopened
    subst hopened
    obtain ⟨l, hl, htext, -⟩ := exists_line_of_opensDefinition hf
    exact ⟨l, hl, htext⟩
  have hline (text : List Char) (h : text ∈ (fates source).filterMap Fate.opened?) :
      '\n' ∉ text := by
    obtain ⟨l, hl, rfl⟩ := hopened text h
    exact fun hc => newline_not_mem_of_mem_lines hl (mem_of_mem_trim hc)
  have htrim : ((fates source).filterMap Fate.opened?).map trim =
      (fates source).filterMap Fate.opened? := by
    refine (List.map_congr_left fun text h => ?_).trans (List.map_id _)
    obtain ⟨l, -, rfl⟩ := hopened text h
    exact trim_trim l
  have hmoved : movedDefinitions (fates source) = (fates source).filterMap Fate.opened? :=
    movedDefinitions_eq_filterMap hls rfl
  rw [hmoved, trimmedLines_unlines_append s hline, htrim]

/-- The trimmed lines of what stays of lines. -/
theorem trimmedLines_keptText {ls : List (List Char)} (st : LineState) (s : List Char)
    (hls : ∀ l ∈ ls, '\n' ∉ l) :
    trimmedLines (keptText (fatesFrom st ls) ++ s) =
      ((fatesFrom st ls).filterMap Fate.remains?).map trim ++ trimmedLines s := by
  refine trimmedLines_unlines_append s fun rest h => ?_
  obtain ⟨l, hl, hsuffix⟩ := exists_suffix_of_mem_remains h
  exact fun hc => hls l hl (hsuffix.mem hc)

end Shader

end ShaderPreview
