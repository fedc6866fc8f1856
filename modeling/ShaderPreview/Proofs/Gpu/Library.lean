import ShaderPreview.Proofs.Diagnostic.SharedLogs
import ShaderPreview.Proofs.Gpu.Dialogue

/-!
# Any graphics library

A `Library` answers queries as it likes, and during each of them it may report any number of
uncaught errors on any device.  A `Scene` is such a library with what is kept beside it: each device
has a warning log, whose first handle stays with whoever opened the device and whose clone takes the
device's uncaught errors.

Whatever the library answers and reports, in every scene that dialogues lead to the log of each
device is that of the uncaught errors reported on it (`Scene.Sound`).
-/

namespace ShaderPreview

namespace Gpu

variable {α σ : Type}

/-- An error on a device. -/
structure DeviceError where
  device : DeviceId
  message : List Char
  deriving DecidableEq, Repr

/-- A graphics library with states in `σ`. -/
structure Library (σ : Type) where
  /-- Why there is no adapter. -/
  adapterError : σ → Option (List Char)
  /-- The largest side of a texture. -/
  maxDimension : σ → Nat
  /-- Why no device can be opened. -/
  deviceError : σ → Option (List Char)
  /-- What the innermost error scope of a device reports. -/
  scopeError : DeviceId → σ → Option (List Char)
  /-- The uncaught errors that are reported during a query, in their order, and the state behind
  it. -/
  step : Query → σ → List DeviceError × σ

/-- What happens around a graphics library. -/
inductive Happening where
  | called (c : Call)
  | noted (e : Event)
  | uncaught (e : DeviceError)

/-- The message, if this is an uncaught error on the device. -/
def Happening.messageOn? (d : DeviceId) : Happening → Option (List Char)
  | uncaught e => if e.device = d then some e.message else none
  | _ => none

/-- The call that is made. -/
def Happening.call? : Happening → Option Call
  | called c => some c
  | _ => none

/-- The uncaught errors on a device, in their order. -/
def uncaughtOn (d : DeviceId) (hs : List Happening) : List (List Char) :=
  hs.filterMap (Happening.messageOn? d)

/-- The calls, in their order. -/
def callsOf (hs : List Happening) : List Call := hs.filterMap Happening.call?

@[simp] theorem uncaughtOn_append (d : DeviceId) (hs hs' : List Happening) :
    uncaughtOn d (hs ++ hs') = uncaughtOn d hs ++ uncaughtOn d hs' := List.filterMap_append

@[simp] theorem callsOf_append (hs hs' : List Happening) :
    callsOf (hs ++ hs') = callsOf hs ++ callsOf hs' := List.filterMap_append

/-! ## Scenes -/

/-- The two handles of the log of a device. -/
structure Watch where
  /-- The handle of whoever opened the device. -/
  kept : LogHandle
  /-- The clone that takes the uncaught errors. -/
  sink : LogHandle

/-- A graphics library with what is kept beside it. -/
structure Scene (σ : Type) where
  library : σ
  /-- The number of buffers and textures so far. -/
  resources : Nat
  /-- The logs of the devices; a device is known by its place. -/
  devices : List Watch
  logs : SharedLogs
  /-- All that happened, oldest first. -/
  happened : List Happening

namespace Scene

/-- A library in whose presence nothing happened yet. -/
def ofLibrary (x : σ) : Scene σ := ⟨x, 0, [], .empty, []⟩

/-- Another device is open; its log is created for it, and cloned. -/
def openDevice (s : Scene σ) : Scene σ :=
  { s with
    devices := s.devices ++ [⟨s.logs.targets.length, s.logs.targets.length + 1⟩]
    logs := s.logs.create.clone s.logs.targets.length }

/-- An uncaught error is pushed into the log of its device, if that is open. -/
def hear (s : Scene σ) (e : DeviceError) : Scene σ :=
  match s.devices[e.device]? with
  | some w =>
    { s with logs := s.logs.push w.sink e.message, happened := s.happened ++ [.uncaught e] }
  | none => s

/-- The newest uncaught errors of a device, read through the handle that was kept. -/
def recent (s : Scene σ) (d : DeviceId) : List (List Char) :=
  s.devices[d]?.elim [] fun w => s.logs.recent w.kept

end Scene

namespace Library

variable (lib : Library σ)

/-- Does what a query asks for.  What is done is known beforehand; meanwhile the library may report
uncaught errors. -/
def perform (q : Query) (x : Happening) : StateM (Scene σ) Unit := modify fun s =>
  let (errors, library) := lib.step q s.library
  errors.foldl Scene.hear { s with library, happened := s.happened ++ [x] }

/-- How a query is answered. -/
def answer : (q : Query) → StateM (Scene σ) q.Answer
  | .call c => lib.perform (.call c) (.called c)
  | .note e => lib.perform (.note e) (.noted e)
  | .adapterError => fun s => (lib.adapterError s.library, s)
  | .openDevice label timestamps => do
    let s ← get
    lib.perform (.openDevice label timestamps)
      (.called (.requestDevice label timestamps (lib.maxDimension s.library)))
    match lib.deviceError s.library with
    | some e => return .error e
    | none =>
      modify Scene.openDevice
      return .ok s.devices.length
  | .createBuffer label size usage => do
    let b : Buffer := ⟨(← get).resources, label⟩
    modify fun s => { s with resources := s.resources + 1 }
    lib.perform (.createBuffer label size usage) (.called (.createBuffer b size usage false))
    return b
  | .createTexture label width height format => do
    let t : Texture := ⟨(← get).resources, label⟩
    modify fun s => { s with resources := s.resources + 1 }
    lib.perform (.createTexture label width height format)
      (.called (.createTexture t width height format .renderTarget))
    return t
  | .pushScope d => lib.perform (.pushScope d) (.called (.pushScope d))
  | .popScope d => do
    let error := lib.scopeError d (← get).library
    lib.perform (.popScope d) (.called (.popScope d error))
    return error
  | .createModule d m program =>
    lib.perform (.createModule d m program) (.called (.createModule m (Text.byteLength program)))
  | .createPipeline d p => lib.perform (.createPipeline d p) (.called (.createPipeline p))
  | .writeBuffer d b block =>
    lib.perform (.writeBuffer d b block) (.called (.writeBuffer b 0 block))
  | .submit d => lib.perform (.submit d) (.called (.submit 1))
  | .pollDevice waiting => lib.perform (.pollDevice waiting) (.called (.pollDevice waiting))
  | .recent d => fun s => (s.recent d, s)

theorem answer_openDevice (label : String) (timestamps : Bool) (s : Scene σ) :
    lib.answer (.openDevice label timestamps) s =
      let s' := (lib.perform (.openDevice label timestamps)
        (.called (.requestDevice label timestamps (lib.maxDimension s.library))) s).2
      match lib.deviceError s.library with
      | some e => (.error e, s')
      | none => (.ok s.devices.length, s'.openDevice) := by
  have hget : (get : StateM (Scene σ) (Scene σ)) s = (s, s) := rfl
  simp only [answer, bind_apply, hget]
  cases lib.deviceError s.library <;> rfl

end Library

/-! ## The log of a device -/

namespace Scene

/-- Errors are pushed into logs, and those on devices that are open are among what happened. -/
theorem foldl_hear (s : Scene σ) (es : List DeviceError) : ∃ logs,
    es.foldl hear s =
      { s with
        logs
        happened := s.happened ++ (es.filter (·.device < s.devices.length)).map .uncaught } := by
  induction es generalizing s with
  | nil => exact ⟨s.logs, by simp⟩
  | cons e es ih =>
    obtain ⟨logs, hes⟩ := ih (s.hear e)
    rw [List.foldl_cons, hes]
    by_cases he : e.device < s.devices.length
    · exact ⟨logs, by simp [hear, he]⟩
    · exact ⟨logs, by simp [hear, he]⟩

/-- The logs of the devices hold their uncaught errors, each those of its own device. -/
structure Told (s : Scene σ) (r : PushRecord) (place : LogHandle → Nat) : Prop where
  shows : Shows s.logs r place
  /-- Both handles of a device have one origin. -/
  origin : ∀ {d : DeviceId} {w : Watch}, s.devices[d]? = some w →
    r.origins[w.kept]? = some w.kept ∧ r.origins[w.sink]? = some w.kept
  /-- No two devices have one log. -/
  inj : ∀ {d d' : DeviceId} {w w' : Watch}, s.devices[d]? = some w → s.devices[d']? = some w' →
    w.kept = w'.kept → d = d'
  messages : ∀ {d : DeviceId} {w : Watch}, s.devices[d]? = some w →
    r.messages w.kept = uncaughtOn d s.happened
  unopened : ∀ {d : DeviceId}, s.devices.length ≤ d → uncaughtOn d s.happened = []

/-- The logs of the devices hold their uncaught errors. -/
def Sound (s : Scene σ) : Prop := ∃ r place, s.Told r place

namespace Told

variable {s s' : Scene σ} {r : PushRecord} {place : LogHandle → Nat}

theorem ofLibrary (x : σ) : Told (.ofLibrary x) .empty id where
  shows := .empty id
  origin := nofun
  inj := nofun
  messages := nofun
  unopened _ := rfl

theorem of_eq (hs : s.Told r place) (hl : s'.logs = s.logs) (hd : s'.devices = s.devices)
    (hh : ∀ d, uncaughtOn d s'.happened = uncaughtOn d s.happened) : s'.Told r place where
  shows := by rw [hl]; exact hs.shows
  origin := by rw [hd]; exact hs.origin
  inj := by rw [hd]; exact hs.inj
  messages hw := by rw [hd] at hw; rw [hh]; exact hs.messages hw
  unopened hle := by rw [hd] at hle; rw [hh]; exact hs.unopened hle

theorem recent_eq (hs : s.Told r place) (d : DeviceId) :
    s.recent d = (uncaughtOn d s.happened).rtake Warnings.limit := by
  rcases hw : s.devices[d]? with _ | w
  · rw [recent, hw, hs.unopened (List.getElem?_eq_none_iff.1 hw), List.rtake_nil]
    rfl
  · rw [recent, hw, ← hs.messages hw]
    exact hs.shows.recent_eq (hs.origin hw).1

/-- An uncaught error goes to the log of its device, and to no other. -/
theorem hear (hs : s.Told r place) (e : DeviceError) : (s.hear e).Sound := by
  rcases hw : s.devices[e.device]? with _ | w
  · rw [Scene.hear, hw]
    exact ⟨r, place, hs⟩
  · rw [Scene.hear, hw]
    have horigin := (hs.origin hw).2
    refine ⟨r.step (.push w.sink e.message), place, hs.shows.push _ _, hs.origin, hs.inj, ?_, ?_⟩
    · intro d w' hw'
      rw [PushRecord.messages_push horigin, uncaughtOn_append, hs.messages hw']
      congr 1
      by_cases hd : e.device = d
      · subst hd
        obtain rfl : w = w' := Option.some.inj (hw.symm.trans hw')
        simp [uncaughtOn, Happening.messageOn?]
      · have hkept : w.kept ≠ w'.kept := fun h => hd (hs.inj hw hw' h)
        simp [uncaughtOn, Happening.messageOn?, hd, hkept]
    · intro d hle
      have hd : e.device ≠ d := by
        have hlt := (List.getElem?_eq_some_iff.1 hw).1
        rintro rfl
        exact Nat.not_lt.2 hle hlt
      rw [uncaughtOn_append, hs.unopened hle]
      simp [uncaughtOn, Happening.messageOn?, hd]

/-- The handles of a device that is open were there before another one is opened. -/
theorem kept_lt (hs : s.Told r place) {d : DeviceId} {w : Watch} (hw : s.devices[d]? = some w) :
    w.kept < r.origins.length ∧ w.sink < r.origins.length := by
  obtain ⟨hkept, hsink⟩ := hs.origin hw
  exact ⟨(List.getElem?_eq_some_iff.1 hkept).1, (List.getElem?_eq_some_iff.1 hsink).1⟩

/-- The log of a new device is new, and nothing was reported on the device before. -/
theorem openDevice (hs : s.Told r place) : s.openDevice.Sound := by
  have hlength : s.logs.targets.length = r.origins.length := by
    rw [hs.shows.targets, List.length_map]
  have hshows : Shows s.openDevice.logs ((r.step .create).step (.clone r.origins.length))
      (Function.update place r.origins.length s.logs.logs.length) := by
    rw [Scene.openDevice, hlength]
    exact hs.shows.create.clone r.origins.length
  have horigins : ((r.step .create).step (.clone r.origins.length)).origins =
      r.origins ++ [r.origins.length] ++ [r.origins.length] := by
    simp [PushRecord.step]
  have hdevices : s.openDevice.devices =
      s.devices ++ [⟨r.origins.length, r.origins.length + 1⟩] := by
    rw [Scene.openDevice, hlength]
  -- a device is an old one or the new one
  have hcases : ∀ {d : Nat} {w : Watch}, s.openDevice.devices[d]? = some w →
      s.devices[d]? = some w ∨
        d = s.devices.length ∧ w = ⟨r.origins.length, r.origins.length + 1⟩ := by
    intro d w hw
    rw [hdevices, List.getElem?_append] at hw
    split at hw
    · exact .inl hw
    · have hlt := (List.getElem?_eq_some_iff.1 hw).1
      rw [List.length_singleton] at hlt
      have hd : d = s.devices.length := by omega
      subst hd
      rw [Nat.sub_self] at hw
      exact .inr ⟨rfl, (Option.some.inj hw).symm⟩
  refine ⟨_, _, hshows, ?_, ?_, ?_, ?_⟩
  · intro d w hw
    rw [horigins]
    rcases hcases hw with hw | ⟨-, rfl⟩
    · obtain ⟨hkept, hsink⟩ := hs.kept_lt hw
      rw [List.append_assoc, List.getElem?_append_left hkept, List.getElem?_append_left hsink]
      exact hs.origin hw
    · simp
  · intro d d' w w' hw hw' hkept
    rcases hcases hw with hw | ⟨rfl, rfl⟩ <;> rcases hcases hw' with hw' | ⟨rfl, rfl⟩
    · exact hs.inj hw hw' hkept
    · exact absurd hkept (hs.kept_lt hw).1.ne
    · exact absurd hkept.symm (hs.kept_lt hw').1.ne
    · rfl
  · intro d w hw
    rw [PushRecord.messages_clone, PushRecord.messages_create]
    rcases hcases hw with hw | ⟨rfl, rfl⟩
    · exact hs.messages hw
    · exact (hs.shows.sound.messages_eq_nil le_rfl).trans (hs.unopened le_rfl).symm
  · intro d hle
    rw [hdevices, List.length_append] at hle
    exact hs.unopened (by omega)

end Told

namespace Sound

variable {s s' : Scene σ}

theorem ofLibrary (x : σ) : (Scene.ofLibrary x).Sound := ⟨_, _, Told.ofLibrary x⟩

theorem of_eq (hs : s.Sound) (hl : s'.logs = s.logs) (hd : s'.devices = s.devices)
    (hh : ∀ d, uncaughtOn d s'.happened = uncaughtOn d s.happened) : s'.Sound := by
  obtain ⟨r, place, hs⟩ := hs
  exact ⟨r, place, hs.of_eq hl hd hh⟩

theorem hear (hs : s.Sound) (e : DeviceError) : (s.hear e).Sound := by
  obtain ⟨r, place, hs⟩ := hs
  exact hs.hear e

theorem openDevice (hs : s.Sound) : s.openDevice.Sound := by
  obtain ⟨r, place, hs⟩ := hs
  exact hs.openDevice

/-- What is read of a device's log are the newest of its uncaught errors. -/
theorem recent_eq (hs : s.Sound) (d : DeviceId) :
    s.recent d = (uncaughtOn d s.happened).rtake Warnings.limit := by
  obtain ⟨r, place, hs⟩ := hs
  exact hs.recent_eq d

theorem uncaughtOn_eq_nil (hs : s.Sound) {d : DeviceId} (hd : s.devices.length ≤ d) :
    uncaughtOn d s.happened = [] := by
  obtain ⟨r, place, hs⟩ := hs
  exact hs.unopened hd

theorem hearAll (hs : s.Sound) (es : List DeviceError) : (es.foldl Scene.hear s).Sound := by
  induction es generalizing s with
  | nil => exact hs
  | cons e es ih => exact ih (hs.hear e)

theorem perform (hs : s.Sound) (lib : Library σ) (q : Query) {x : Happening}
    (hx : ∀ d, x.messageOn? d = none) : (lib.perform q x s).2.Sound := by
  refine hearAll (s := { s with
    library := (lib.step q s.library).2, happened := s.happened ++ [x] }) ?_ _
  exact hs.of_eq rfl rfl fun d => by simp [uncaughtOn, hx d]

/-- Every answer keeps the logs true. -/
theorem answer (lib : Library σ) (q : Query) (s : Scene σ) (hs : s.Sound) :
    (lib.answer q s).2.Sound := by
  have hnext : ({ s with resources := s.resources + 1 } : Scene σ).Sound :=
    hs.of_eq rfl rfl fun d => rfl
  cases q with
  | adapterError | recent d => exact hs
  | openDevice label timestamps =>
    have hcall := hs.perform lib (.openDevice label timestamps) (x := .called
      (.requestDevice label timestamps (lib.maxDimension s.library))) fun _ => rfl
    rw [lib.answer_openDevice]
    split
    · exact hcall
    · exact hcall.openDevice
  | createBuffer label size usage => exact hnext.perform lib _ fun _ => rfl
  | createTexture label width height format => exact hnext.perform lib _ fun _ => rfl
  | _ => exact hs.perform lib _ fun _ => rfl

end Sound

end Scene

/-- What doing something leaves behind. -/
theorem Library.perform_frame (lib : Library σ) (q : Query) (x : Happening) (s : Scene σ) :
    ∃ logs, (lib.perform q x s).2 =
      { s with
        library := (lib.step q s.library).2
        logs
        happened := s.happened ++
          x :: ((lib.step q s.library).1.filter (·.device < s.devices.length)).map .uncaught } := by
  obtain ⟨logs, h⟩ := Scene.foldl_hear
    { s with library := (lib.step q s.library).2, happened := s.happened ++ [x] }
    (lib.step q s.library).1
  refine ⟨logs, h.trans ?_⟩
  simp

end Gpu

end ShaderPreview
