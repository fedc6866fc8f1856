import ShaderPreview.Proofs.Shader.LineSteps
import ShaderPreview.Proofs.Text.Literal

/-!
# What conditionals select

A preprocessor keeps the set of macros that are defined and, for each conditional that is open,
whether its branch is taken.  `activeLines` are the lines of code that a run over a text lets
through.

Moving definitions to the front keeps these lines as long as no conditional tests a macro that only
a definition behind it moves to the front (`MovedBeforeTested`).  The proof runs both texts side by
side: at each line the two runs have the same branches open, and the one over the moved text has the
macros defined in addition that are still to be moved (`activeLines_keptLines`).
-/

namespace ShaderPreview

namespace Shader

open Text

/-! ## The preprocessor -/

/-- What a preprocessor knows between two lines. -/
structure Preprocessor where
  /-- The macro is defined. -/
  defined : List Char → Bool
  /-- Whether the branch of each open conditional is taken, the innermost first. -/
  branches : List Bool

namespace Preprocessor

/-- All branches around the line are taken. -/
def isActive (p : Preprocessor) : Bool := p.branches.all id

/-- Only in an active line a macro is set; conditionals are counted everywhere. -/
def apply (p : Preprocessor) : Directive → Preprocessor
  | .define n => if p.isActive then { p with defined := fun m => m = n || p.defined m } else p
  | .undef n => if p.isActive then { p with defined := fun m => m ≠ n && p.defined m } else p
  | .ifdef n => { p with branches := p.defined n :: p.branches }
  | .ifndef n => { p with branches := (!p.defined n) :: p.branches }
  | .orElse => { p with branches := p.branches.modifyHead (!·) }
  | .endif => { p with branches := p.branches.tail }

/-- The lines of code that the preprocessor lets through. -/
def activeLines (p : Preprocessor) : List (List Char) → List (List Char)
  | [] => []
  | l :: ls =>
    match Directive.ofLine? l with
    | some d => (p.apply d).activeLines ls
    | none => if p.isActive then l :: p.activeLines ls else p.activeLines ls

theorem defined_apply (p : Preprocessor) {d : Directive} (hd : ∀ n, d ≠ .undef n) (m : List Char) :
    (p.apply d).defined m ↔ p.defined m ∨ d = .define m ∧ p.isActive := by
  cases d with
  | define n =>
    simp only [apply, Directive.define.injEq]
    split
    · rename_i hactive
      simp only [hactive, Bool.or_eq_true, decide_eq_true_eq, and_true, eq_comm (a := m)]
      exact or_comm
    · rename_i hactive
      simp [hactive]
  | undef n => exact absurd rfl (hd n)
  | ifdef n => simp [apply]
  | ifndef n => simp [apply]
  | orElse => simp [apply]
  | endif => simp [apply]

theorem length_branches_apply (p : Preprocessor) (d : Directive) :
    (p.apply d).branches.length =
      match d with
      | .ifdef _ | .ifndef _ => p.branches.length + 1
      | .endif => p.branches.length - 1
      | _ => p.branches.length := by
  cases d with
  | define n => simp only [apply]; split <;> rfl
  | undef n => simp only [apply]; split <;> rfl
  | ifdef n => rfl
  | ifndef n => rfl
  | orElse => simp [apply]
  | endif => simp [apply]

theorem branches_apply {p q : Preprocessor} (d : Directive) (hbranches : q.branches = p.branches)
    (htested : ∀ n, d = .ifdef n ∨ d = .ifndef n → q.defined n = p.defined n) :
    (q.apply d).branches = (p.apply d).branches := by
  cases d with
  | define n => simp only [apply]; split <;> split <;> exact hbranches
  | undef n => simp only [apply]; split <;> split <;> exact hbranches
  | ifdef n => simp only [apply, hbranches, htested n (.inl rfl)]
  | ifndef n => simp only [apply, hbranches, htested n (.inr rfl)]
  | orElse => simp only [apply, hbranches]
  | endif => simp only [apply, hbranches]

end Preprocessor

/-! ## Sources made of code and directives -/

/-- Conditionals are nested well: an `#else` stands in a conditional that has none yet, an `#endif`
in any, and none stays open.  For each open conditional, `seen` says whether it has an `#else`. -/
def nestedWell (seen : List Bool) : List (List Char) → Bool
  | [] => seen.isEmpty
  | l :: ls =>
    match Directive.ofLine? l, seen with
    | some (.ifdef _), _ => nestedWell (false :: seen) ls
    | some (.ifndef _), _ => nestedWell (false :: seen) ls
    | some .orElse, false :: seen => nestedWell (true :: seen) ls
    | some .orElse, _ => false
    | some .endif, _ :: seen => nestedWell seen ls
    | some .endif, [] => false
    | _, _ => nestedWell seen ls

/-- A source made of lines of code and of directives that set or test macros. -/
structure ConditionalSource (source : List Char) : Prop extends Unadorned source where
  /-- A line that starts with `#` holds one of the directives. -/
  directive : ∀ l ∈ trimmedLines source, directive? l = none ∨ (Directive.ofLine? l).isSome
  no_header : ∀ l ∈ lines source, isHeaderDirective (trimStart l) = false
  no_redeclaration : ∀ l ∈ lines source, afterRedeclaration? (trimStart l) = none
  nested : nestedWell [] (trimmedLines source)

/-- The macro that a conditional tests. -/
def testedMacro? (line : List Char) : Option (List Char) :=
  match Directive.ofLine? line with
  | some (.ifdef n) => some n
  | some (.ifndef n) => some n
  | _ => none

/-- The macro whose definition is moved to the front. -/
def Fate.movedMacro? : Fate → Option (List Char)
  | .opensDefinition text =>
    match Directive.ofLine? text with
    | some (.define n) => some n
    | _ => none
  | _ => none

/-- Line `i` tests whether the macro is defined. -/
def Tests (ls : List (List Char)) (i : Nat) (name : List Char) : Prop :=
  ls[i]?.bind testedMacro? = some name

/-- Line `i` is a definition of the macro that is moved to the front. -/
def Moves (fs : List Fate) (i : Nat) (name : List Char) : Prop :=
  fs[i]?.bind Fate.movedMacro? = some name

/-- A macro that a conditional tests is not moved from behind the conditional alone. -/
def MovedBeforeTested (source : List Char) : Prop :=
  ∀ i j name, i < j → Tests (trimmedLines source) i name → Moves (fates source) j name →
    ∃ k < i, Moves (fates source) k name

section Moves

variable {f : Fate} {fs : List Fate} {i : Nat} {name : List Char}

theorem moves_cons_zero : Moves (f :: fs) 0 name ↔ f.movedMacro? = some name := by
  simp [Moves]

theorem not_moves_kept (line : List Char) : ¬ Moves (.kept line :: fs) 0 name := by
  simp [Moves, Fate.movedMacro?]

theorem moves_cons_succ : Moves (f :: fs) (i + 1) name ↔ Moves fs i name := by
  simp [Moves]

theorem exists_moves_cons :
    (∃ i, Moves (f :: fs) i name) ↔ Moves (f :: fs) 0 name ∨ ∃ i, Moves fs i name := by
  constructor
  · rintro ⟨_ | i, hi⟩
    · exact .inl hi
    · exact .inr ⟨i, moves_cons_succ.1 hi⟩
  · rintro (h | ⟨i, hi⟩)
    · exact ⟨0, h⟩
    · exact ⟨i + 1, moves_cons_succ.2 hi⟩

end Moves

/-! ## Lines -/

/-- What holds of each line of a source made of code and directives. -/
structure ConditionalLine (line : List Char) : Prop where
  no_comment : commentOpenAfter line false = false
  no_continuation : endsInBackslash (trim line) = false
  directive : directive? (trim line) = none ∨ (Directive.ofLine? (trim line)).isSome
  no_header : isHeaderDirective (trimStart line) = false
  no_redeclaration : afterRedeclaration? (trimStart line) = none

theorem ConditionalSource.line {source line : List Char} (h : ConditionalSource source)
    (hl : line ∈ lines source) : ConditionalLine line where
  no_comment := h.commentOpenAfter_eq_false hl
  no_continuation := h.no_continuation _ (List.mem_map_of_mem hl)
  directive := h.directive _ (List.mem_map_of_mem hl)
  no_header := h.no_header line hl
  no_redeclaration := h.no_redeclaration line hl

namespace ConditionalLine

variable {st : LineState} {line : List Char}

theorem step_eq (h : ConditionalLine line) (hst : st.IsFresh) :
    st.step line = st.stepDirective line :=
  step_eq_stepDirective h.no_comment hst.inComment hst.continuing h.no_header h.no_redeclaration

/-- A line of code stays. -/
theorem step_code (h : ConditionalLine line) (hst : st.IsFresh)
    (hd : Directive.ofLine? (trim line) = none) : st.step line = (.kept line, st) := by
  have hnone : directive? (trim line) = none := h.directive.resolve_right (by simp [hd])
  rw [h.step_eq hst, stepDirective_of_eq_none hd (by simp [hnone])]

end ConditionalLine

theorem not_moves_of_not_hoisting {st : LineState} (hh : st.hoisting = false)
    (ls : List (List Char)) (i : Nat) (name : List Char) : ¬ Moves (fatesFrom st ls) i name := by
  intro hm
  obtain ⟨f, hf, hmoved⟩ := Option.bind_eq_some_iff.1 hm
  cases f with
  | opensDefinition text =>
    have hmem : text ∈ (fatesFrom st ls).filterMap Fate.opened? :=
      List.mem_filterMap.2 ⟨_, List.mem_of_getElem? hf, rfl⟩
    rw [filterMap_opened?_of_not_hoisting hh] at hmem
    cases hmem
  | _ => cases hmoved

/-! ## Two runs side by side -/

/-- The preprocessor `q` runs over what stays of the lines, behind the definitions moved from them,
and `p` over the lines themselves. -/
structure Alongside (st : LineState) (ls : List (List Char)) (p q : Preprocessor) : Prop where
  fresh : st.IsFresh
  branches : q.branches = p.branches
  depth : p.branches.length = st.depth
  defined : ∀ n, q.defined n ↔ p.defined n ∨ ∃ i, Moves (fatesFrom st ls) i n
  tested : ∀ i j n, i < j → Tests (ls.map trim) i n → Moves (fatesFrom st ls) j n →
    p.defined n ∨ ∃ k < i, Moves (fatesFrom st ls) k n

namespace Alongside

variable {st st' : LineState} {l : List Char} {ls : List (List Char)} {p p' q q' : Preprocessor}
  {f : Fate}

theorem isActive_eq (h : Alongside st ls p q) : q.isActive = p.isActive := by
  rw [Preprocessor.isActive, h.branches, Preprocessor.isActive]

/-- The condition on the tests goes over to the tail when no macro gets lost. -/
theorem tested_tail (h : Alongside st (l :: ls) p q) (hs : st.step l = (f, st'))
    (hp : ∀ n, p.defined n ∨ Moves (f :: fatesFrom st' ls) 0 n → p'.defined n) (i j : Nat)
    (n : List Char) (hij : i < j) (ht : Tests (ls.map trim) i n)
    (hj : Moves (fatesFrom st' ls) j n) :
    p'.defined n ∨ ∃ k < i, Moves (fatesFrom st' ls) k n := by
  have htested := h.tested (i + 1) (j + 1) n (by omega) (by simpa [Tests] using ht)
  rw [fatesFrom_of_step hs, moves_cons_succ] at htested
  rcases htested hj with hn | ⟨_ | k, hk, hm⟩
  · exact .inl (hp n (.inl hn))
  · exact .inl (hp n (.inr hm))
  · exact .inr ⟨k, by omega, moves_cons_succ.1 hm⟩

/-- A macro that the first line tests is not moved from behind it, unless it is defined before. -/
theorem defined_eq_of_tests (h : Alongside st (l :: ls) p q) (hs : st.step l = (f, st'))
    {n : List Char} (ht : Tests ((l :: ls).map trim) 0 n)
    (hf : ¬ Moves (f :: fatesFrom st' ls) 0 n) :
    q.defined n = p.defined n := by
  rw [Bool.eq_iff_iff, h.defined n]
  refine ⟨?_, .inl⟩
  rintro (hn | ⟨i, hi⟩)
  · exact hn
  · rcases i with _ | i
    · rw [fatesFrom_of_step hs] at hi
      exact absurd hi hf
    · rcases h.tested 0 (i + 1) n (by omega) ht hi with hn | ⟨k, hk, -⟩
      · exact hn
      · omega

theorem exists_moves_iff (hs : st.step l = (.kept l, st')) (n : List Char) :
    (∃ i, Moves (fatesFrom st (l :: ls)) i n) ↔ ∃ i, Moves (fatesFrom st' ls) i n := by
  rw [fatesFrom_of_step hs, exists_moves_cons, or_iff_right (not_moves_kept l)]

theorem code (h : Alongside st (l :: ls) p q) (hs : st.step l = (.kept l, st)) :
    Alongside st ls p q where
  fresh := h.fresh
  branches := h.branches
  depth := h.depth
  defined n := (h.defined n).trans (or_congr_right (exists_moves_iff hs n))
  tested := h.tested_tail hs fun _ hn => hn.resolve_right (not_moves_kept l)

/-- A definition that moves is in force in both runs from here on. -/
theorem moved {n text : List Char} (h : Alongside st (l :: ls) p q)
    (hs : st.step l = (.opensDefinition text, st)) (hn : Directive.ofLine? text = some (.define n))
    (hdepth : st.depth = 0) : Alongside st ls (p.apply (.define n)) q := by
  have hactive : p.isActive := by
    have hnil : p.branches = [] := List.length_eq_zero_iff.1 (h.depth.trans hdepth)
    simp [Preprocessor.isActive, hnil]
  have hzero (m : List Char) :
      Moves (.opensDefinition text :: fatesFrom st ls) 0 m ↔ m = n := by
    simp [moves_cons_zero, Fate.movedMacro?, hn, eq_comm]
  have hdefined (m : List Char) :
      (p.apply (.define n)).defined m ↔ p.defined m ∨ m = n := by
    rw [p.defined_apply (by simp) m]
    simp only [hactive, Directive.define.injEq, and_true, eq_comm (a := n)]
  refine ⟨h.fresh, ?_, ?_, fun m => ?_, h.tested_tail hs fun m hm => ?_⟩
  · rw [h.branches, Preprocessor.apply, if_pos hactive]
  · rw [Preprocessor.length_branches_apply]
    exact h.depth
  · rw [h.defined m, fatesFrom_of_step hs, exists_moves_cons, hzero, hdefined, or_assoc]
  · rw [hdefined, ← hzero]
    exact hm

/-- A directive that stays has the same effect on both runs, if it removes no macro. -/
theorem kept {d : Directive} (h : Alongside st (l :: ls) p q) (hs : st.step l = (.kept l, st'))
    (hd : Directive.ofLine? (trim l) = some d) (hundef : ∀ n, d ≠ .undef n) (hst : st'.IsFresh)
    (hdepth : (p.apply d).branches.length = st'.depth) :
    Alongside st' ls (p.apply d) (q.apply d) := by
  have hzero (m : List Char) : ¬ Moves (.kept l :: fatesFrom st' ls) 0 m := not_moves_kept l
  have htested (n : List Char) (hn : d = .ifdef n ∨ d = .ifndef n) : q.defined n = p.defined n := by
    refine h.defined_eq_of_tests hs ?_ (hzero n)
    rcases hn with rfl | rfl <;> simp [Tests, testedMacro?, hd]
  refine ⟨hst, Preprocessor.branches_apply d h.branches htested, hdepth, fun m => ?_,
    h.tested_tail hs fun m hm => ?_⟩
  · rw [q.defined_apply hundef, p.defined_apply hundef, h.defined m, exists_moves_iff hs,
      h.isActive_eq, or_right_comm]
  · rw [p.defined_apply hundef]
    exact .inl (hm.resolve_right (hzero m))

/-- Where no definition is moved any more, the two runs are one. -/
theorem eq_of_not_moves (h : Alongside st ls p q) (hm : ∀ i n, ¬ Moves (fatesFrom st ls) i n) :
    q = p := by
  obtain ⟨defined, branches⟩ := q
  obtain ⟨defined', branches'⟩ := p
  have hb : branches = branches' := h.branches
  have hd : defined = defined' := funext fun n => by
    rw [Bool.eq_iff_iff, h.defined n]
    exact or_iff_left fun ⟨i, hi⟩ => hm i n hi
  rw [hb, hd]

theorem of_not_moves (hst : st.IsFresh) (hdepth : p.branches.length = st.depth)
    (hm : ∀ i n, ¬ Moves (fatesFrom st ls) i n) : Alongside st ls p p where
  fresh := hst
  branches := rfl
  depth := hdepth
  defined n := (or_iff_left fun ⟨i, hi⟩ => hm i n hi).symm
  tested _ j n _ _ hj := absurd hj (hm j n)

/-- Behind `#undef` nothing is moved any more, so that both runs are in the same state. -/
theorem undef {n : List Char} (h : Alongside st (l :: ls) p q)
    (hs : st.step l = (.kept l, { st with hoisting := false })) :
    Alongside { st with hoisting := false } ls (p.apply (.undef n)) (q.apply (.undef n)) := by
  have hm : ∀ i m, ¬ Moves (fatesFrom { st with hoisting := false } ls) i m :=
    not_moves_of_not_hoisting rfl ls
  have hqp : q = p := h.eq_of_not_moves fun i m hi => by
    rw [fatesFrom_of_step hs] at hi
    rcases i with _ | i
    · exact not_moves_kept l hi
    · exact hm i m (moves_cons_succ.1 hi)
  rw [hqp]
  refine .of_not_moves ⟨h.fresh.inComment, h.fresh.continuing⟩ ?_ hm
  rw [Preprocessor.length_branches_apply]
  exact h.depth

/-- Over a directive, the run over the lines goes on, and the other one does unless the directive
is moved. -/
theorem step {d : Directive} (h : Alongside st (l :: ls) p q) (hl : ConditionalLine l)
    (hd : Directive.ofLine? (trim l) = some d) :
    (st.step l).1 = .kept l ∧ Alongside (st.step l).2 ls (p.apply d) (q.apply d) ∨
      (st.step l).1.remains? = none ∧ Alongside (st.step l).2 ls (p.apply d) q := by
  have hs := hl.step_eq h.fresh
  rw [stepDirective_of_eq_some hd h.fresh.inComment] at hs
  have hdepth := p.length_branches_apply d
  cases d with
  | define n =>
    simp only at hs
    split at hs
    · rename_i hmoves
      have hst : { st with continuing := endsInBackslash (trim l) } = st := by
        rw [hl.no_continuation, ← h.fresh.continuing]
      rw [hst] at hs
      rw [hs]
      exact .inr ⟨rfl, h.moved hs hd hmoves.2⟩
    · rw [hs]
      exact .inl ⟨rfl, h.kept hs hd (by simp) h.fresh (hdepth.trans h.depth)⟩
  | undef n =>
    rw [hs]
    exact .inl ⟨rfl, h.undef hs⟩
  | ifdef n =>
    rw [hs]
    exact .inl ⟨rfl, h.kept hs hd (by simp) ⟨h.fresh.inComment, h.fresh.continuing⟩
      (hdepth.trans (congrArg (· + 1) h.depth))⟩
  | ifndef n =>
    rw [hs]
    exact .inl ⟨rfl, h.kept hs hd (by simp) ⟨h.fresh.inComment, h.fresh.continuing⟩
      (hdepth.trans (congrArg (· + 1) h.depth))⟩
  | orElse =>
    rw [hs]
    exact .inl ⟨rfl, h.kept hs hd (by simp) h.fresh (hdepth.trans h.depth)⟩
  | endif =>
    rw [hs]
    exact .inl ⟨rfl, h.kept hs hd (by simp) ⟨h.fresh.inComment, h.fresh.continuing⟩
      (hdepth.trans (congrArg (· - 1) h.depth))⟩

end Alongside

/-- Both runs let the same lines through. -/
theorem activeLines_keptLines {ls : List (List Char)} (hls : ∀ l ∈ ls, ConditionalLine l)
    {st : LineState} {p q : Preprocessor} (h : Alongside st ls p q) :
    q.activeLines (((fatesFrom st ls).filterMap Fate.remains?).map trim) =
      p.activeLines (ls.map trim) := by
  induction ls generalizing st p q with
  | nil => rfl
  | cons l ls ih =>
    have hl := hls l List.mem_cons_self
    have hls (k : List Char) (hk : k ∈ ls) : ConditionalLine k := hls k (List.mem_cons_of_mem l hk)
    rw [fatesFrom_cons, List.map_cons, Preprocessor.activeLines]
    rcases hd : Directive.ofLine? (trim l) with _ | d
    · have hs := hl.step_code h.fresh hd
      simp only [hs, List.filterMap_cons, Fate.remains?, List.map_cons, Preprocessor.activeLines,
        hd, h.isActive_eq, ih hls (h.code hs)]
    · rcases h.step hl hd with ⟨hs, h'⟩ | ⟨hs, h'⟩
      · simp only [hs, List.filterMap_cons, Fate.remains?, List.map_cons, Preprocessor.activeLines,
          hd]
        exact ih hls h'
      · rw [List.filterMap_cons_none hs]
        exact ih hls h'

/-- Behind the moved definitions, the macros that they define are defined. -/
theorem exists_activeLines_append {fs : List Fate}
    (hfs : ∀ text, .opensDefinition text ∈ fs → directive? text = some "define".toList)
    {p : Preprocessor} (hp : p.branches = []) :
    ∃ q : Preprocessor, q.branches = [] ∧ (∀ n, q.defined n ↔ p.defined n ∨ ∃ i, Moves fs i n) ∧
      ∀ rest, p.activeLines (fs.filterMap Fate.opened? ++ rest) = q.activeLines rest := by
  induction fs generalizing p with
  | nil => exact ⟨p, hp, by simp [Moves], fun rest => rfl⟩
  | cons f fs ih =>
    have hfs' (text : List Char) (h : .opensDefinition text ∈ fs) :
        directive? text = some "define".toList := hfs text (List.mem_cons_of_mem f h)
    -- a line that is not moved
    have skip (hf : f.opened? = none) (hf' : f.movedMacro? = none) :
        ∃ q : Preprocessor, q.branches = [] ∧
          (∀ n, q.defined n ↔ p.defined n ∨ ∃ i, Moves (f :: fs) i n) ∧
          ∀ rest, p.activeLines ((f :: fs).filterMap Fate.opened? ++ rest) =
            q.activeLines rest := by
      obtain ⟨q, hq, hdefined, hlines⟩ := ih hfs' hp
      refine ⟨q, hq, fun n => ?_, fun rest => ?_⟩
      · rw [hdefined n, exists_moves_cons, moves_cons_zero, hf']
        simp
      · rw [List.filterMap_cons_none hf, hlines]
    cases f with
    | kept => exact skip rfl rfl
    | header => exact skip rfl rfl
    | redeclaration => exact skip rfl rfl
    | continuesDefinition => exact skip rfl rfl
    | opensDefinition text =>
      have hd : Directive.ofLine? text = some (.define (directiveWord text)) := by
        rw [Directive.ofLine?, hfs text List.mem_cons_self]
        rfl
      have hactive : p.isActive := by simp [Preprocessor.isActive, hp]
      obtain ⟨q, hq, hdefined, hlines⟩ := ih hfs' (p := p.apply (.define (directiveWord text)))
        (by rw [Preprocessor.apply, if_pos hactive]; exact hp)
      refine ⟨q, hq, fun n => ?_, fun rest => ?_⟩
      · have hmoved : (Fate.opensDefinition text).movedMacro? = some (directiveWord text) := by
          rw [Fate.movedMacro?, hd]
        rw [hdefined n, exists_moves_cons, moves_cons_zero, hmoved, p.defined_apply (by simp)]
        simp [hactive, or_assoc]
      · have hopened : (Fate.opensDefinition text).opened? = some text := rfl
        rw [List.filterMap_cons_some hopened, List.cons_append, Preprocessor.activeLines, hd,
          ← hlines]

/-- The lines of a source of code and directives, where definitions are moved to the front. -/
theorem trimmedLines_moved {source : List Char} (hs : ConditionalSource source) :
    trimmedLines (unlines (movedDefinitions (fates source)) ++ keptText (fates source)) =
      (fates source).filterMap Fate.opened? ++
        ((fates source).filterMap Fate.remains?).map trim := by
  have hkept := trimmedLines_keptText .start [] fun l => newline_not_mem_of_mem_lines (s := source)
  rw [List.append_nil, trimmedLines_nil, List.append_nil] at hkept
  rw [trimmedLines_movedDefinitions _ fun l hl => (hs.line hl).no_continuation]
  exact congrArg _ hkept

/-! ## The same lines are active -/

/-- In a source made of code and directives, moving definitions to the front keeps the lines of code
that the conditionals let through, whatever is defined at the start, if no conditional tests a macro
that only a definition behind it moves to the front. -/
theorem activeLines_moved {source : List Char} (hs : ConditionalSource source)
    (hm : MovedBeforeTested source) (defined : List Char → Bool) :
    (Preprocessor.mk defined []).activeLines
        (trimmedLines (unlines (movedDefinitions (fates source)) ++ keptText (fates source))) =
      (Preprocessor.mk defined []).activeLines (trimmedLines source) := by
  have hopened (text : List Char) (h : .opensDefinition text ∈ fates source) :
      directive? text = some "define".toList := by
    obtain ⟨l, -, -, hd⟩ := exists_line_of_opensDefinition h
    exact hd
  obtain ⟨q, hq, hdefined, hlines⟩ :=
    exists_activeLines_append hopened (p := ⟨defined, []⟩) rfl
  rw [trimmedLines_moved hs, hlines]
  have halong : Alongside .start (lines source) ⟨defined, []⟩ q :=
    ⟨⟨rfl, rfl⟩, hq, rfl, hdefined, fun i j n hij ht hj => .inr (hm i j n hij ht hj)⟩
  exact activeLines_keptLines (fun l hl => hs.line hl) halong

/-- A source that defines its switch in front of the conditional. -/
def switchedSource : List Char :=
  unlines (["#define HQ", "#ifdef HQ", "const int N = 64;", "#else", "const int N = 8;", "#endif",
    "#define K 2", "void mainImage(out vec4 c,", "in vec2 p) \x7b", "c = vec4(N * K);",
    "\x7d"].map String.toList)

theorem activeLines_moved_switchedSource :
    (Preprocessor.mk (fun _ => false) []).activeLines (trimmedLines
        (unlines (movedDefinitions (fates switchedSource)) ++ keptText (fates switchedSource))) =
      ["const int N = 64;", "void mainImage(out vec4 c,", "in vec2 p) \x7b", "c = vec4(N * K);",
        "\x7d"].map String.toList := by
  have hs : ConditionalSource switchedSource := by
    unfold switchedSource
    repeat rw [map_toList_cons]
    exact
      { no_comment := by decide +kernel
        no_quote := by decide +kernel
        no_continuation := by decide +kernel
        directive := by decide +kernel
        no_header := by decide +kernel
        no_redeclaration := by decide +kernel
        nested := by decide +kernel }
  have hm : MovedBeforeTested switchedSource := by
    -- only the second line tests a macro, and the first one defines it
    intro i j name hij ht hj
    obtain ⟨hlength, hsmall⟩ : (trimmedLines switchedSource).length = 11 ∧
        ∀ i < 11, (trimmedLines switchedSource)[i]?.bind testedMacro? = none ∨
          0 < i ∧ (trimmedLines switchedSource)[i]?.bind testedMacro? =
            (fates switchedSource)[0]?.bind Fate.movedMacro? := by
      unfold switchedSource
      repeat rw [map_toList_cons]
      decide +kernel
    have hi : i < 11 := by
      obtain ⟨l, hl, -⟩ := Option.bind_eq_some_iff.1 ht
      rw [← hlength]
      exact (List.getElem?_eq_some_iff.1 hl).1
    rcases hsmall i hi with hnone | ⟨hpos, heq⟩
    · rw [Tests, hnone] at ht
      cases ht
    · exact ⟨0, hpos, heq.symm.trans ht⟩
  rw [activeLines_moved hs hm]
  unfold switchedSource
  repeat rw [map_toList_cons]
  decide +kernel

/-- A source that defines its switch behind the conditional. -/
def lateSwitchSource : List Char :=
  unlines (["#ifdef HQ", "const int N = 64;", "#else", "const int N = 8;", "#endif",
    "#define HQ", "void mainImage(out vec4 c,", "in vec2 p) \x7b", "c = vec4(float(N));",
    "\x7d"].map String.toList)

/-- A definition that is moved in front of a conditional on its macro turns the selection over. -/
theorem not_activeLines_moved_lateSwitchSource :
    ConditionalSource lateSwitchSource ∧
      (Preprocessor.mk (fun _ => false) []).activeLines (trimmedLines
          (unlines (movedDefinitions (fates lateSwitchSource)) ++
            keptText (fates lateSwitchSource))) ≠
        (Preprocessor.mk (fun _ => false) []).activeLines (trimmedLines lateSwitchSource) := by
  unfold lateSwitchSource
  repeat rw [map_toList_cons]
  refine ⟨?_, by decide +kernel⟩
  exact
    { no_comment := by decide +kernel
      no_quote := by decide +kernel
      no_continuation := by decide +kernel
      directive := by decide +kernel
      no_header := by decide +kernel
      no_redeclaration := by decide +kernel
      nested := by decide +kernel }

end Shader

end ShaderPreview
