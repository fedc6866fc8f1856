import ShaderPreview.Proofs.Shader.OpenComment

/-!
# Runs of lines

A source can also be read with a loop inside the loop over its lines: where a definition is moved,
the lines that continue it are pulled from the lines to come before the next one is looked at
(`runsFrom`).  Each turn of the outer loop takes a *run*: one line, or all lines of a definition.

The runs are the lines of the source, none left out and none met twice, and what stays, what is
moved and what is counted can be read off them (`conserves_runs`).
-/

namespace ShaderPreview

namespace Shader

open Text

/-- The lines that one turn of the loop takes, and what becomes of them. -/
inductive Run where
  /-- The line stays. -/
  | kept (line : List Char)
  /-- The line is a header directive and is dropped. -/
  | header (line : List Char)
  /-- The line starts with a declaration of a standard uniform, which `rest` follows. -/
  | redeclaration (line rest : List Char)
  /-- The lines are those of a definition that is moved. -/
  | definition (first : List Char) (continued : List (List Char))
  deriving DecidableEq, Repr

namespace Run

/-- The lines of a run, as they stand in the source. -/
def lines : Run → List (List Char)
  | kept line => [line]
  | header line => [line]
  | redeclaration line _ => [line]
  | definition first continued => first :: continued

/-- The fate of each line of a run. -/
def fates : Run → List Fate
  | kept line => [.kept line]
  | header _ => [.header]
  | redeclaration _ rest => [.redeclaration rest]
  | definition first continued =>
    .opensDefinition (trim first) :: continued.map fun l => .continuesDefinition (trimEnd l)

/-- The line that stays of a run: all of it, or what follows a declaration and is not blank. -/
def remains? : Run → Option (List Char)
  | kept line => some line
  | redeclaration _ rest => if isAllBlank rest then none else some rest
  | _ => none

/-- The lines that a definition absorbs: the first one is trimmed on both sides, the others at their
end. -/
def absorbed : Run → List (List Char)
  | definition first continued => trim first :: continued.map trimEnd
  | _ => []

/-- The definition that a run is. -/
def definition? : Run → Option (List Char)
  | definition first continued => some (join ['\n'] (trim first :: continued.map trimEnd))
  | _ => none

/-- The line of the run is stripped. -/
def isStripped : Run → Bool
  | header _ => true
  | redeclaration _ _ => true
  | _ => false

/-- How a run is met, given whether a block comment is open in front of it and the lines behind it:
lines are stripped and definitions start only outside comments, and a definition goes on as long as
its lines end in a backslash and there are lines. -/
inductive IsMet (isOpen : Bool) (behind : List (List Char)) : Run → Prop where
  | kept {line : List Char} (h : isOpen = false → isHeaderDirective (trimStart line) = false ∧
      afterRedeclaration? (trimStart line) = none) : IsMet isOpen behind (.kept line)
  | header {line : List Char} (hin : isOpen = false) (hh : isHeaderDirective (trimStart line)) :
    IsMet isOpen behind (.header line)
  | redeclaration {line rest : List Char} (hin : isOpen = false)
    (hr : afterRedeclaration? (trimStart line) = some rest) :
    IsMet isOpen behind (.redeclaration line rest)
  | definition {first : List Char} {continued : List (List Char)} (hin : isOpen = false)
    (hd : directive? (trim first) = some "define".toList)
    (hcontinued : ∀ t ∈ (trim first :: continued.map trimEnd).dropLast, endsInBackslash t)
    (hlast : ∀ t ∈ (trim first :: continued.map trimEnd).getLast?,
      endsInBackslash t → behind = []) : IsMet isOpen behind (.definition first continued)

end Run

/-! ## The loop -/

/-- The lines that continue a definition, the state behind them, and the lines behind them. -/
def takeContinued (st : LineState) :
    List (List Char) → List (List Char) × LineState × List (List Char)
  | [] => ([], { st with continuing := false }, [])
  | l :: ls =>
    if st.continuing then
      let (continued, st', behind) := takeContinued
        { st with
          inComment := commentOpenAfter l st.inComment
          continuing := endsInBackslash (trimEnd l) } ls
      (l :: continued, st', behind)
    else ([], st, l :: ls)

theorem takeContinued_append (st : LineState) (ls : List (List Char)) :
    (takeContinued st ls).1 ++ (takeContinued st ls).2.2 = ls := by
  fun_induction takeContinued st ls with
  | case1 => rfl
  | case2 st l ls hc continued st' behind h ih =>
    rw [h] at ih
    exact congrArg (l :: ·) ih
  | case3 => rfl

/-- The runs of lines that are met in the given state, outside moved definitions. -/
def runsFrom (st : LineState) : List (List Char) → List Run
  | [] => []
  | l :: ls =>
    let after := { st with inComment := commentOpenAfter l st.inComment }
    if st.inComment then .kept l :: runsFrom after ls
    else
      match after.stepCode l with
      | (.header, st') => .header l :: runsFrom st' ls
      | (.redeclaration rest, st') => .redeclaration l rest :: runsFrom st' ls
      | (.opensDefinition _, st') =>
        .definition l (takeContinued st' ls).1 ::
          runsFrom (takeContinued st' ls).2.1 (takeContinued st' ls).2.2
      | (_, st') => .kept l :: runsFrom st' ls
termination_by ls => ls.length
decreasing_by
  all_goals
    have h (st' : LineState) := congrArg List.length (takeContinued_append st' ls)
    simp only [List.length_append] at h
    grind

/-- The runs of a source. -/
def runs (source : List Char) : List Run := runsFrom .start (Text.lines source)

/-! ## Definitions that go on -/

/-- The inner loop takes the lines that the steps from line to line add to a definition. -/
theorem fatesFrom_takeContinued (st : LineState) (ls : List (List Char)) :
    fatesFrom st ls = (takeContinued st ls).1.map (fun l => .continuesDefinition (trimEnd l)) ++
      fatesFrom (takeContinued st ls).2.1 (takeContinued st ls).2.2 := by
  fun_induction takeContinued st ls with
  | case1 => rfl
  | case2 st l ls hc continued st' behind h ih =>
    rw [h] at ih
    have hstep : st.step l = (.continuesDefinition (trimEnd l),
        { st with
          inComment := commentOpenAfter l st.inComment
          continuing := endsInBackslash (trimEnd l) }) := by
      simp [LineState.step, hc]
    rw [fatesFrom_of_step hstep, ih]
    rfl
  | case3 => rfl

theorem continuing_takeContinued (st : LineState) (ls : List (List Char)) :
    (takeContinued st ls).2.1.continuing = false := by
  fun_induction takeContinued st ls with
  | case1 => rfl
  | case2 st l ls hc continued st' behind h ih =>
    rw [h] at ih
    exact ih
  | case3 st l ls hc => simpa using hc

theorem inComment_takeContinued (st : LineState) (ls : List (List Char)) :
    (takeContinued st ls).2.1.inComment =
      commentOpenBehind st.inComment (takeContinued st ls).1 := by
  fun_induction takeContinued st ls with
  | case1 => rfl
  | case2 st l ls hc continued st' behind h ih =>
    rw [h] at ih
    exact ih
  | case3 => rfl

/-- The lines of a definition end in backslashes up to the last one, which does so only in front of
the end of the source. -/
theorem endsInBackslash_takeContinued {st : LineState} {text : List Char}
    (hst : st.continuing = endsInBackslash text) (ls : List (List Char)) :
    (∀ t ∈ (text :: (takeContinued st ls).1.map trimEnd).dropLast, endsInBackslash t) ∧
      ∀ t ∈ (text :: (takeContinued st ls).1.map trimEnd).getLast?,
        endsInBackslash t → (takeContinued st ls).2.2 = [] := by
  fun_induction takeContinued st ls generalizing text with
  | case1 => simp
  | case2 st l ls hc continued st' behind h ih =>
    obtain ⟨hcontinued, hlast⟩ := ih rfl
    rw [h] at hcontinued hlast
    rw [List.map_cons, List.dropLast_cons_cons, List.getLast?_cons_cons]
    exact ⟨List.forall_mem_cons.2 ⟨hst.symm.trans hc, hcontinued⟩, hlast⟩
  | case3 st l ls hc =>
    have htext : endsInBackslash text = false := by simpa [hst] using hc
    simp [htext]

/-! ## One turn of the loop -/

/-- What one turn of the loop does: it takes a run from the front of the lines, with the fates that
the steps from line to line give. -/
structure Turn (st : LineState) (ls : List (List Char)) (r : Run) (st' : LineState)
    (behind : List (List Char)) : Prop where
  lines_eq : ls = r.lines ++ behind
  fates_eq : fatesFrom st ls = r.fates ++ fatesFrom st' behind
  inComment_eq : st'.inComment = commentOpenBehind st.inComment r.lines
  isMet : r.IsMet st.inComment behind

theorem commentOpenBehind_append (isOpen : Bool) (ls ls' : List (List Char)) :
    commentOpenBehind isOpen (ls ++ ls') = commentOpenBehind (commentOpenBehind isOpen ls) ls' :=
  List.foldl_append

/-- The turns that the loop makes over lines. -/
inductive Turns : LineState → List (List Char) → List Run → Prop where
  | nil (st : LineState) : Turns st [] []
  | cons {st st' : LineState} {ls behind : List (List Char)} {r : Run} {rs : List Run}
    (turn : Turn st ls r st' behind) (rest : Turns st' behind rs) : Turns st ls (r :: rs)

section Turn

variable {st st' : LineState} {l : List Char} (ls : List (List Char))

/-- Outside comments and moved definitions a line is met as code. -/
theorem step_eq_stepCode (hc : st.continuing = false) (hin : st.inComment = false) :
    st.step l = { st with inComment := commentOpenAfter l st.inComment }.stepCode l := by
  simp [LineState.step, hc, hin]

/-- Code that is not stripped is neither a header directive nor a declaration. -/
theorem not_stripped_of_stepCode {f : Fate} (h : st.stepCode l = (f, st')) (hheader : f ≠ .header)
    (hredeclaration : ∀ rest, f ≠ .redeclaration rest) :
    isHeaderDirective (trimStart l) = false ∧ afterRedeclaration? (trimStart l) = none := by
  rw [LineState.stepCode] at h
  split at h
  · cases h
    exact (hheader rfl).elim
  · rename_i hh
    split at h
    · cases h
      exact (hredeclaration _ rfl).elim
    · rename_i hr
      exact ⟨by simpa using hh, hr⟩

/-- A turn over one line. -/
theorem Turn.of_step {f : Fate} {r : Run} (hstep : st.step l = (f, st')) (hlines : r.lines = [l])
    (hfates : r.fates = [f]) (hmet : r.IsMet st.inComment ls) : Turn st (l :: ls) r st' ls where
  lines_eq := by rw [hlines, List.singleton_append]
  fates_eq := by rw [fatesFrom_of_step hstep, hfates, List.singleton_append]
  inComment_eq := by
    have h := (stepsTo_step st l).inComment_eq
    rw [hstep] at h
    rw [hlines, h]
    rfl
  isMet := hmet

/-- A turn over the lines of a definition. -/
theorem Turn.of_opens (hin : st.inComment = false) {text : List Char}
    (hstep : st.step l = (.opensDefinition text, st')) :
    Turn st (l :: ls) (.definition l (takeContinued st' ls).1) (takeContinued st' ls).2.1
      (takeContinued st' ls).2.2 := by
  have hsteps := stepsTo_step st l
  have hcomment := hsteps.inComment_eq
  rw [hstep] at hsteps hcomment
  cases hsteps with
  | opens _ _ hd _ hclosed =>
    have hst : { st with continuing := endsInBackslash (trim l) }.continuing =
        endsInBackslash (trim l) := rfl
    obtain ⟨hcontinued, hlast⟩ := endsInBackslash_takeContinued hst ls
    exact
      { lines_eq := congrArg (l :: ·) (takeContinued_append _ ls).symm
        fates_eq := by
          rw [fatesFrom_of_step hstep, fatesFrom_takeContinued _ ls]
          rfl
        inComment_eq := by
          rw [inComment_takeContinued]
          exact congrArg (commentOpenBehind · _) hcomment
        isMet := .definition hin hd hcontinued hlast }

end Turn

/-- The loop takes the lines run by run. -/
theorem turns_runsFrom {st : LineState} (hc : st.continuing = false) (ls : List (List Char)) :
    Turns st ls (runsFrom st ls) := by
  have code {st st' : LineState} {l : List Char} {f : Fate} (hc : st.continuing = false)
      (hin : ¬ st.inComment = true)
      (h : { st with inComment := commentOpenAfter l st.inComment }.stepCode l = (f, st')) :
      st.inComment = false ∧ st.step l = (f, st') ∧ StepsTo st l f st' := by
    have hin : st.inComment = false := by simpa using hin
    have hstep := (step_eq_stepCode hc hin).trans h
    have hsteps := stepsTo_step st l
    rw [hstep] at hsteps
    exact ⟨hin, hstep, hsteps⟩
  fun_induction runsFrom st ls with
  | case1 st => exact .nil st
  | case2 st l ls after hin ih =>
    have hstep : st.step l = (.kept l, after) := by simp [LineState.step, hc, hin, after]
    exact .cons (.of_step ls hstep rfl rfl (.kept (by simp [hin]))) (ih hc)
  | case3 st l ls after hin st' h ih =>
    obtain ⟨hin, hstep, hsteps⟩ := code hc hin h
    cases hsteps with
    | header _ _ hh => exact .cons (.of_step ls hstep rfl rfl (.header hin hh)) (ih hc)
  | case4 st l ls after hin rest st' h ih =>
    obtain ⟨hin, hstep, hsteps⟩ := code hc hin h
    cases hsteps with
    | redeclaration _ _ hr =>
      exact .cons (.of_step ls hstep rfl rfl (.redeclaration hin hr)) (ih hc)
  | case5 st l ls after hin text st' h ih =>
    obtain ⟨hin, hstep, -⟩ := code hc hin h
    exact .cons (.of_opens ls hin hstep) (ih (continuing_takeContinued st' ls))
  | case6 st l ls after hin f st' h₁ h₂ h₃ h ih =>
    obtain ⟨hin, hstep, hsteps⟩ := code hc hin h
    cases hsteps with
    | continues hc' => simp [hc] at hc'
    | inComment _ hin' => simp [hin] at hin'
    | header => exact (h₁ rfl).elim
    | redeclaration => exact (h₂ _ rfl).elim
    | opens => exact (h₃ _ rfl).elim
    | stays _ _ _ hc' _ =>
      have hnot := not_stripped_of_stepCode h h₁ h₂
      exact .cons (.of_step ls hstep rfl rfl (.kept fun _ => hnot)) (ih hc')

section Turns

variable {st : LineState} {ls : List (List Char)} {rs : List Run}

theorem Turns.lines_eq (h : Turns st ls rs) : rs.flatMap Run.lines = ls := by
  induction h with
  | nil => rfl
  | cons turn rest ih => rw [List.flatMap_cons, ih, turn.lines_eq]

theorem Turns.fates_eq (h : Turns st ls rs) : rs.flatMap Run.fates = fatesFrom st ls := by
  induction h with
  | nil => rfl
  | cons turn rest ih => rw [List.flatMap_cons, ih, turn.fates_eq]

/-- Each run is met behind the lines of the runs in front of it. -/
theorem Turns.isMet (h : Turns st ls rs) {front back : List Run} {r : Run}
    (hr : rs = front ++ r :: back) :
    r.IsMet (commentOpenBehind st.inComment (front.flatMap Run.lines))
      (back.flatMap Run.lines) := by
  induction h generalizing front with
  | nil => simp at hr
  | @cons st st' ls behind r' rs turn rest ih =>
    rcases front with _ | ⟨r'', front⟩
    · obtain ⟨rfl, rfl⟩ := List.cons.inj hr
      rw [rest.lines_eq]
      exact turn.isMet
    · obtain ⟨rfl, rfl⟩ := List.cons.inj hr
      have hmet := ih rfl
      rw [turn.inComment_eq] at hmet
      rw [List.flatMap_cons, commentOpenBehind_append]
      exact hmet

end Turns

/-- The turns that the loop makes over the lines of a source. -/
theorem turns_runs (source : List Char) : Turns .start (Text.lines source) (runs source) :=
  turns_runsFrom rfl _

/-! ## What stays and what is moved -/

/-- What stays of the lines of a run is what stays of the run. -/
theorem Run.filterMap_remains?_fates (r : Run) :
    r.fates.filterMap Fate.remains? = r.remains?.toList := by
  cases r with
  | kept line => rfl
  | header line => rfl
  | redeclaration line rest =>
    by_cases hblank : isAllBlank rest <;> simp [Run.fates, Run.remains?, Fate.remains?, hblank]
  | definition first continued => simp [Run.fates, Run.remains?, Fate.remains?]

theorem Run.countP_isStripped_fates (r : Run) :
    r.fates.countP Fate.isStripped = if r.isStripped then 1 else 0 := by
  cases r with
  | kept line => rfl
  | header line => rfl
  | redeclaration line rest => rfl
  | definition first continued => simp [Run.fates, Run.isStripped, Fate.isStripped]

theorem filterMap_remains?_flatMap_fates (rs : List Run) :
    (rs.flatMap Run.fates).filterMap Fate.remains? = rs.filterMap Run.remains? := by
  rw [List.filterMap_flatMap, List.filterMap_eq_flatMap_toList]
  simp only [Run.filterMap_remains?_fates]

theorem strippedCount_fates (rs : List Run) :
    strippedCount (rs.flatMap Run.fates) = rs.countP Run.isStripped := by
  induction rs with
  | nil => rfl
  | cons r rs ih =>
    rw [List.flatMap_cons, strippedCount, List.countP_append, r.countP_isStripped_fates,
      List.countP_cons, Nat.add_comm]
    exact congrArg (· + _) ih

theorem continuations_append (ts : List (List Char)) (fs : List Fate) :
    continuations (ts.map (fun l => .continuesDefinition (trimEnd l)) ++ fs) =
      ts.map trimEnd ++ continuations fs := by
  induction ts with
  | nil => rfl
  | cons t ts ih => exact congrArg (trimEnd t :: ·) ih

theorem movedLines_append (ts : List (List Char)) (fs : List Fate) :
    movedLines (ts.map (fun l => .continuesDefinition (trimEnd l)) ++ fs) = movedLines fs := by
  induction ts with
  | nil => rfl
  | cons t ts ih => exact ih

/-- No run starts with a line that continues a definition. -/
theorem continuations_fates (rs : List Run) : continuations (rs.flatMap Run.fates) = [] := by
  rcases rs with _ | ⟨r, rs⟩
  · rfl
  · cases r <;> rfl

theorem movedLines_fates (rs : List Run) :
    movedLines (rs.flatMap Run.fates) = (rs.map Run.absorbed).filter (· ≠ []) := by
  induction rs with
  | nil => rfl
  | cons r rs ih =>
    cases r with
    | kept line => exact ih
    | header line => exact ih
    | redeclaration line rest => exact ih
    | definition first continued =>
      rw [List.flatMap_cons, Run.fates, List.cons_append, movedLines, continuations_append,
        continuations_fates, movedLines_append, List.append_nil, ih]
      rfl

theorem movedDefinitions_fates (rs : List Run) :
    movedDefinitions (rs.flatMap Run.fates) = rs.filterMap Run.definition? := by
  rw [movedDefinitions, movedLines_fates]
  induction rs with
  | nil => rfl
  | cons r rs ih =>
    cases r with
    | definition first continued => exact congrArg (_ :: ·) ih
    | _ => exact ih

theorem Run.newline_not_mem_absorbed {r : Run} (hr : ∀ l ∈ r.lines, '\n' ∉ l) :
    ∀ t ∈ r.absorbed, '\n' ∉ t := by
  cases r with
  | definition first continued =>
    obtain ⟨hfirst, hcontinued⟩ := List.forall_mem_cons.1 hr
    refine List.forall_mem_cons.2 ⟨fun hc => hfirst (mem_of_mem_trim hc), fun t ht hc => ?_⟩
    obtain ⟨l, hl, rfl⟩ := List.mem_map.1 ht
    obtain ⟨w, hw, -⟩ := exists_trimEnd_append l
    refine hcontinued l hl ?_
    rw [hw]
    exact List.mem_append_left w hc
  | _ => exact List.forall_mem_nil _

/-- A definition, split at its line feeds, is what it absorbs. -/
theorem Run.splitOn_definition? (r : Run) (hr : ∀ l ∈ r.lines, '\n' ∉ l) :
    (r.definition?.map (List.splitOn '\n')).getD [] = r.absorbed := by
  cases r with
  | definition first continued =>
    have habsorbed : ∀ t ∈ trim first :: continued.map trimEnd, '\n' ∉ t :=
      newline_not_mem_absorbed hr
    rw [Run.definition?, join_eq_intercalate, Option.map_some,
      List.splitOn_intercalate '\n' habsorbed (List.cons_ne_nil _ _)]
    rfl
  | _ => rfl

/-! ## The runs of a source -/

theorem fates_runs (source : List Char) : (runs source).flatMap Run.fates = fates source :=
  (turns_runs source).fates_eq

theorem keptText_fates (source : List Char) :
    keptText (fates source) = unlines ((runs source).filterMap Run.remains?) := by
  rw [← fates_runs, keptText, filterMap_remains?_flatMap_fates]

theorem movedDefinitions_runs (source : List Char) :
    movedDefinitions (fates source) = (runs source).filterMap Run.definition? := by
  rw [← fates_runs, movedDefinitions_fates]

/-- Each run is met with the comments open that the lines in front of it leave open. -/
theorem isMet_runs {source : List Char} {front back : List Run} {r : Run}
    (hr : runs source = front ++ r :: back) :
    r.IsMet (commentOpenBehind false (front.flatMap Run.lines)) (back.flatMap Run.lines) :=
  (turns_runs source).isMet hr

theorem newline_not_mem_lines_of_mem_runs {source : List Char} {r : Run} (hr : r ∈ runs source) :
    ∀ l ∈ r.lines, '\n' ∉ l := by
  intro l hl
  refine newline_not_mem_of_mem_lines (s := source) ?_
  rw [← (turns_runs source).lines_eq]
  exact List.mem_flatMap.2 ⟨r, hr, hl⟩

/-! ## Each line has one fate -/

/-- The runs are the lines of the source, each taken once and in order, and all that is made of the
source can be read off them. -/
structure Conserves (source : List Char) (rs : List Run) : Prop where
  lines_eq : rs.flatMap Run.lines = Text.lines source
  fates_eq : rs.flatMap Run.fates = fates source
  keptText_eq : keptText (fates source) = unlines (rs.filterMap Run.remains?)
  definitions_eq : movedDefinitions (fates source) = rs.filterMap Run.definition?
  absorbed_eq : (movedDefinitions (fates source)).flatMap (List.splitOn '\n') =
    rs.flatMap Run.absorbed
  strippedCount_eq : strippedCount (fates source) = rs.countP Run.isStripped
  /-- Each run is met with the comments open that the lines in front of it leave open. -/
  isMet : ∀ front r back, rs = front ++ r :: back →
    r.IsMet (commentOpenBehind false (front.flatMap Run.lines)) (back.flatMap Run.lines)

/-- The loop in the loop takes each line of a source once, and gives it the fate that the steps from
line to line give it. -/
theorem conserves_runs (source : List Char) : Conserves source (runs source) where
  lines_eq := (turns_runs source).lines_eq
  fates_eq := fates_runs source
  keptText_eq := keptText_fates source
  definitions_eq := movedDefinitions_runs source
  absorbed_eq := by
    rw [movedDefinitions_runs, List.filterMap_eq_flatMap_toList, List.flatMap_assoc]
    refine List.flatMap_congr fun r hr => ?_
    rw [← r.splitOn_definition? (newline_not_mem_lines_of_mem_runs hr)]
    cases r.definition? <;> simp
  strippedCount_eq := by rw [← fates_runs, strippedCount_fates]
  isMet := fun _ _ _ hr => isMet_runs hr

/-- The second line of a definition opens a comment, so the lines behind it stay. -/
example : runs "#define K 1 \\\n  /* \n#version 1\n*/ uniform float iTime; x".toList =
    [.definition "#define K 1 \\".toList ["  /* ".toList], .kept "#version 1".toList,
      .kept "*/ uniform float iTime; x".toList] := by
  decide +kernel

end Shader

end ShaderPreview
