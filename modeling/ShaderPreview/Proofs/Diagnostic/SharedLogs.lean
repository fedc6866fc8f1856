import ShaderPreview.Diagnostic.Warnings
import ShaderPreview.Proofs.Telemetry.History

/-!
# Warning logs behind handles

A warning log is reached through handles.  It is created with its first handle, and a clone of a
handle leads to the same log.  A log keeps a few messages only; beside it stands the record of all
that was ever pushed, where each message is filed under the handle that its own handle comes from.

Whatever is created, cloned and pushed, each handle shows the number of the messages that were
pushed through all handles of its origin, and the newest of them (`Shows`).
-/

namespace ShaderPreview

namespace Warnings

/-- The log that took these messages. -/
def ofMessages (ms : List (List Char)) : Warnings := ms.foldl push empty

theorem ofMessages_concat (ms : List (List Char)) (m : List Char) :
    ofMessages (ms ++ [m]) = (ofMessages ms).push m :=
  List.foldl_concat push empty m ms

theorem total_ofMessages (ms : List (List Char)) : (ofMessages ms).total = ms.length := by
  induction ms using List.reverseRecOn with
  | nil => rfl
  | append_singleton ms m ih =>
    rw [ofMessages_concat, push, ih, List.length_append, List.length_singleton]

theorem recent_ofMessages (ms : List (List Char)) : (ofMessages ms).recent = ms.rtake limit := by
  induction ms using List.reverseRecOn with
  | nil => rfl
  | append_singleton ms m ih =>
    have hlength : (ofMessages ms).recent.length = min 16 ms.length := by
      rw [ih]
      exact length_rtake _ ms
    rw [ofMessages_concat, push, show limit = 15 + 1 from rfl, List.rtake_concat_succ]
    split
    · -- the log is full: the oldest message makes way
      rw [ih, limit, tail_rtake_succ (by omega)]
    · rw [ih, limit, rtake_of_length_le (by omega), rtake_of_length_le (by omega)]

end Warnings

/-! ## Logs and handles -/

/-- A handle is known by its place among all handles. -/
abbrev LogHandle := Nat

/-- Warning logs and the handles that lead to them. -/
structure SharedLogs where
  logs : List Warnings
  /-- The place of the log that each handle leads to. -/
  targets : List Nat

/-- What can be done with handles. -/
inductive LogStep where
  | create
  | clone (h : LogHandle)
  | push (h : LogHandle) (message : List Char)

namespace SharedLogs

/-- No log and no handle. -/
def empty : SharedLogs := ⟨[], []⟩

/-- A new log with its first handle. -/
def create (s : SharedLogs) : SharedLogs := ⟨s.logs ++ [.empty], s.targets ++ [s.logs.length]⟩

/-- Another handle of the same log. -/
def clone (s : SharedLogs) (h : LogHandle) : SharedLogs :=
  { s with targets := s.targets ++ s.targets[h]?.toList }

/-- Pushes a message through a handle. -/
def push (s : SharedLogs) (h : LogHandle) (message : List Char) : SharedLogs :=
  match s.targets[h]? with
  | some n => { s with logs := s.logs.modify n (·.push message) }
  | none => s

/-- The log that a handle leads to. -/
def log? (s : SharedLogs) (h : LogHandle) : Option Warnings := s.targets[h]?.bind (s.logs[·]?)

/-- The number of messages, read through a handle. -/
def total (s : SharedLogs) (h : LogHandle) : Nat := (s.log? h).elim 0 Warnings.total

/-- The messages that are kept, read through a handle. -/
def recent (s : SharedLogs) (h : LogHandle) : List (List Char) := (s.log? h).elim [] Warnings.recent

/-- Does one step. -/
def step (s : SharedLogs) : LogStep → SharedLogs
  | .create => s.create
  | .clone h => s.clone h
  | .push h message => s.push h message

/-- Does the steps in their order. -/
def ofSteps (steps : List LogStep) : SharedLogs := steps.foldl step empty

end SharedLogs

/-! ## The record of all pushes -/

/-- All that was pushed through any handle. -/
structure PushRecord where
  /-- The handle that each handle comes from: one that was created comes from itself, and a clone
  from the origin of the handle that was cloned. -/
  origins : List LogHandle
  /-- The messages in the order of their pushes, each with the origin of its handle. -/
  pushes : List (LogHandle × List Char)

namespace PushRecord

/-- Nothing was done. -/
def empty : PushRecord := ⟨[], []⟩

/-- The record behind one step. -/
def step (r : PushRecord) : LogStep → PushRecord
  | .create => { r with origins := r.origins ++ [r.origins.length] }
  | .clone h => { r with origins := r.origins ++ r.origins[h]?.toList }
  | .push h message => { r with pushes := r.pushes ++ (r.origins[h]?.map (·, message)).toList }

/-- The record behind the steps in their order. -/
def ofSteps (steps : List LogStep) : PushRecord := steps.foldl step empty

/-- The messages that were pushed through the handles of an origin. -/
def messages (r : PushRecord) (origin : LogHandle) : List (List Char) :=
  (r.pushes.filter (·.1 = origin)).map (·.2)

/-- The origins are handles, and messages are filed under them. -/
structure Sound (r : PushRecord) : Prop where
  origin_lt : ∀ o ∈ r.origins, o < r.origins.length
  pushed_lt : ∀ p ∈ r.pushes, p.1 < r.origins.length

variable {r : PushRecord} {h o : LogHandle}

theorem messages_create (r : PushRecord) : (r.step .create).messages o = r.messages o := rfl

theorem messages_clone (r : PushRecord) (h : LogHandle) :
    (r.step (.clone h)).messages o = r.messages o := rfl

theorem messages_push (hh : r.origins[h]? = some o) (o' : LogHandle) (message : List Char) :
    (r.step (.push h message)).messages o' =
      r.messages o' ++ if o = o' then [message] else [] := by
  simp only [messages, step, hh, Option.map_some, Option.toList_some, List.filter_append,
    List.map_append]
  by_cases ho : o = o' <;> simp [ho]

theorem step_push_of_none (hh : r.origins[h]? = none) (message : List Char) :
    r.step (.push h message) = r := by
  simp [step, hh]

/-- Nothing is filed under a handle that does not exist. -/
theorem Sound.messages_eq_nil (hr : r.Sound) (ho : r.origins.length ≤ o) : r.messages o = [] := by
  rw [messages, List.map_eq_nil_iff, List.filter_eq_nil_iff]
  intro p hp heq
  have hlt := hr.pushed_lt p hp
  rw [of_decide_eq_true heq] at hlt
  exact Nat.not_lt.2 ho hlt

theorem Sound.step (hr : r.Sound) (x : LogStep) : (r.step x).Sound := by
  cases x with
  | create =>
    have hlength : (r.step .create).origins.length = r.origins.length + 1 := by
      simp [PushRecord.step]
    refine ⟨fun o ho => ?_, fun p hp => ?_⟩
    · rw [hlength]
      rcases List.mem_append.1 ho with ho | ho
      · exact Nat.lt_succ_of_lt (hr.origin_lt o ho)
      · rw [List.mem_singleton.1 ho]
        exact Nat.lt_succ_self _
    · rw [hlength]
      exact Nat.lt_succ_of_lt (hr.pushed_lt p hp)
  | clone h =>
    have hle : r.origins.length ≤ (r.step (.clone h)).origins.length := by
      simp [PushRecord.step]
    refine ⟨fun o ho => ?_, fun p hp => Nat.lt_of_lt_of_le (hr.pushed_lt p hp) hle⟩
    rcases List.mem_append.1 ho with ho | ho
    · exact Nat.lt_of_lt_of_le (hr.origin_lt o ho) hle
    · exact Nat.lt_of_lt_of_le
        (hr.origin_lt o (List.mem_of_getElem? (Option.mem_toList.1 ho))) hle
  | push h message =>
    refine ⟨hr.origin_lt, fun p hp => ?_⟩
    rcases List.mem_append.1 hp with hp | hp
    · exact hr.pushed_lt p hp
    · obtain ⟨o, ho, rfl⟩ := Option.map_eq_some_iff.1 (Option.mem_toList.1 hp)
      exact hr.origin_lt o (List.mem_of_getElem? ho)

end PushRecord

/-! ## What handles show -/

/-- The handles lead to logs of the messages that the record has under their origins: each origin
has a log in a place of its own. -/
structure Shows (s : SharedLogs) (r : PushRecord) (place : LogHandle → Nat) : Prop where
  sound : r.Sound
  targets : s.targets = r.origins.map place
  inj : ∀ o ∈ r.origins, ∀ o' ∈ r.origins, place o = place o' → o = o'
  log : ∀ o ∈ r.origins, s.logs[place o]? = some (.ofMessages (r.messages o))

namespace Shows

variable {s : SharedLogs} {r : PushRecord} {place : LogHandle → Nat} {h o : LogHandle}

theorem empty (place : LogHandle → Nat) : Shows .empty .empty place where
  sound := ⟨List.forall_mem_nil _, List.forall_mem_nil _⟩
  targets := rfl
  inj := List.forall_mem_nil _
  log := List.forall_mem_nil _

theorem log?_eq (hs : Shows s r place) (ho : r.origins[h]? = some o) :
    s.log? h = some (.ofMessages (r.messages o)) := by
  rw [SharedLogs.log?, hs.targets, List.getElem?_map, ho]
  exact hs.log o (List.mem_of_getElem? ho)

theorem total_eq (hs : Shows s r place) (ho : r.origins[h]? = some o) :
    s.total h = (r.messages o).length := by
  rw [SharedLogs.total, hs.log?_eq ho]
  exact Warnings.total_ofMessages _

theorem recent_eq (hs : Shows s r place) (ho : r.origins[h]? = some o) :
    s.recent h = (r.messages o).rtake Warnings.limit := by
  rw [SharedLogs.recent, hs.log?_eq ho]
  exact Warnings.recent_ofMessages _

theorem place_lt (hs : Shows s r place) (ho : o ∈ r.origins) : place o < s.logs.length :=
  (List.getElem?_eq_some_iff.1 (hs.log o ho)).1

/-- A new handle is its own origin, and its log stands behind all others. -/
theorem create (hs : Shows s r place) :
    Shows s.create (r.step .create) (Function.update place r.origins.length s.logs.length) := by
  have hold : ∀ o ∈ r.origins,
      Function.update place r.origins.length s.logs.length o = place o := fun o ho =>
    Function.update_of_ne (hs.sound.origin_lt o ho).ne _ _
  have hnew : ∀ o ∈ r.origins, place o ≠ s.logs.length := fun o ho => (hs.place_lt ho).ne
  refine ⟨hs.sound.step .create, ?_, ?_, ?_⟩
  · show s.targets ++ [s.logs.length] = (r.origins ++ [r.origins.length]).map _
    rw [List.map_append, List.map_congr_left hold, hs.targets, List.map_singleton,
      Function.update_self]
  · intro o ho o' ho' heq
    rcases List.mem_append.1 ho with ho | ho <;> rcases List.mem_append.1 ho' with ho' | ho'
    · rw [hold o ho, hold o' ho'] at heq
      exact hs.inj o ho o' ho' heq
    · rw [hold o ho, List.mem_singleton.1 ho', Function.update_self] at heq
      exact absurd heq (hnew o ho)
    · rw [hold o' ho', List.mem_singleton.1 ho, Function.update_self] at heq
      exact absurd heq.symm (hnew o' ho')
    · rw [List.mem_singleton.1 ho, List.mem_singleton.1 ho']
  · intro o ho
    show (s.logs ++ [.empty])[_]? = _
    rcases List.mem_append.1 ho with ho | ho
    · rw [hold o ho, List.getElem?_append_left (hs.place_lt ho)]
      exact hs.log o ho
    · rw [List.mem_singleton.1 ho, Function.update_self, List.getElem?_concat_length,
        PushRecord.messages_create, hs.sound.messages_eq_nil le_rfl]
      rfl

theorem clone (hs : Shows s r place) (h : LogHandle) :
    Shows (s.clone h) (r.step (.clone h)) place := by
  have hmem : ∀ o ∈ (r.step (.clone h)).origins, o ∈ r.origins := by
    intro o ho
    rcases List.mem_append.1 ho with ho | ho
    · exact ho
    · exact List.mem_of_getElem? (Option.mem_toList.1 ho)
  refine ⟨hs.sound.step _, ?_, ?_, ?_⟩
  · show s.targets ++ s.targets[h]?.toList = (r.origins ++ r.origins[h]?.toList).map place
    rw [hs.targets, List.getElem?_map, List.map_append, Option.toList_map]
  · exact fun o ho o' ho' => hs.inj o (hmem o ho) o' (hmem o' ho')
  · exact fun o ho => hs.log o (hmem o ho)

/-- A message goes to the log of the origin, and to no other. -/
theorem push (hs : Shows s r place) (h : LogHandle) (message : List Char) :
    Shows (s.push h message) (r.step (.push h message)) place := by
  rcases hh : r.origins[h]? with _ | o
  · have htarget : s.targets[h]? = none := by rw [hs.targets, List.getElem?_map, hh]; rfl
    rw [PushRecord.step_push_of_none hh, SharedLogs.push, htarget]
    exact hs
  · have htarget : s.targets[h]? = some (place o) := by rw [hs.targets, List.getElem?_map, hh]; rfl
    have ho := List.mem_of_getElem? hh
    rw [SharedLogs.push, htarget]
    refine ⟨hs.sound.step _, hs.targets, hs.inj, fun o' ho' => ?_⟩
    show (s.logs.modify (place o) (·.push message))[place o']? = _
    rw [PushRecord.messages_push hh]
    by_cases heq : o = o'
    · rw [if_pos heq, ← congrArg place heq, List.getElem?_modify_eq, Warnings.ofMessages_concat,
        congrArg place heq, hs.log o' ho']
      rfl
    · have hplace : place o ≠ place o' := fun h => heq (hs.inj o ho o' ho' h)
      rw [if_neg heq, List.append_nil, List.getElem?_modify_ne _ _ hplace]
      exact hs.log o' ho'

theorem step (hs : Shows s r place) (x : LogStep) :
    ∃ place', Shows (s.step x) (r.step x) place' := by
  cases x with
  | create => exact ⟨_, hs.create⟩
  | clone h => exact ⟨_, hs.clone h⟩
  | push h message => exact ⟨_, hs.push h message⟩

/-- Behind any steps the handles show what the record says. -/
theorem ofSteps (steps : List LogStep) :
    ∃ place, Shows (.ofSteps steps) (.ofSteps steps) place := by
  induction steps using List.reverseRecOn with
  | nil => exact ⟨id, empty id⟩
  | append_singleton steps x ih =>
    obtain ⟨place, hs⟩ := ih
    rw [SharedLogs.ofSteps, PushRecord.ofSteps, List.foldl_concat, List.foldl_concat]
    exact hs.step x

end Shows

end ShaderPreview
