import ShaderPreview.Diagnostic.Warnings
import ShaderPreview.Gpu.Call
import ShaderPreview.Preview.Renderer

/-!
# A graphics world

A graphics world records the calls that are made and takes the outcome of every step from a script,
whose lists are used up from the front.  Whatever a real device may answer, some script answers the
same.

An error is kept by the innermost error scope of its device, which keeps its first error only; if no
scope is open, the error is an uncaught one, and the device's list of warnings takes it.  A mapping
of a buffer completes at a later poll of the device.
-/

namespace ShaderPreview

namespace Gpu

/-- What becomes of a mapping. -/
inductive MapOutcome where
  /-- The buffer holds these two times. -/
  | times (first last : Nat)
  /-- The buffer holds what it held before. -/
  | unchanged
  | failed
  /-- Nobody will ever answer. -/
  | dropped
  deriving DecidableEq, Repr

/-- A mapping to come: the polls until it completes, and its outcome. -/
structure MapScript where
  polls : Nat
  outcome : MapOutcome
  deriving DecidableEq, Repr

/-- A mapping where none is scripted. -/
def MapScript.default : MapScript := ⟨1, .unchanged⟩

/-- The outcome of every step. -/
structure Script where
  surfaceError : Option (List Char)
  adapterError : Option (List Char)
  deviceError : Option (List Char)
  /-- The adapter can time passes. -/
  timestamps : Bool
  /-- The largest side of a texture. -/
  maxDimension : Nat
  formats : List TextureFormat
  /-- The modes of the surface, of those that a preview may ask for. -/
  presentModes : List PresentMode
  alphaModes : List AlphaMode
  /-- The nanoseconds of one tick of the device's clock. -/
  period : Float32
  frames : List FrameOutcome
  vertexErrors : List (Option (List Char))
  fragmentErrors : List (Option (List Char))
  pipelineErrors : List (Option (List Char))
  writeErrors : List (Option (List Char))
  submitErrors : List (Option (List Char))
  maps : List MapScript

/-- A script without errors. -/
def Script.default : Script :=
  { surfaceError := none
    adapterError := none
    deviceError := none
    timestamps := true
    maxDimension := 8192
    formats := [⟨"Bgra8UnormSrgb"⟩, ⟨"Bgra8Unorm"⟩]
    presentModes := [.fifo]
    alphaModes := [⟨"Opaque"⟩]
    period := 1
    frames := []
    vertexErrors := []
    fragmentErrors := []
    pipelineErrors := []
    writeErrors := []
    submitErrors := []
    maps := [] }

/-- A device that is open. -/
structure Device where
  /-- The error scopes, innermost first, each with the first error in it. -/
  scopes : List (Option (List Char))
  /-- The uncaught errors. -/
  warnings : Warnings

/-- A mapping that was asked for. -/
structure Mapping where
  buffer : Buffer
  outcome : MapOutcome
  /-- The polls until it completes; missing once it is complete. -/
  remaining : Option Nat
  deriving DecidableEq, Repr

namespace Mapping

/-- The mapping after a poll; a waiting poll completes it. -/
def polled (waiting : Bool) (m : Mapping) : Mapping :=
  match m.remaining with
  | some n =>
    if waiting || n ≤ 1 then { m with remaining := none } else { m with remaining := some (n - 1) }
  | none => m

/-- The outcome, once the mapping is complete. -/
def answer? (m : Mapping) : Option MapOutcome :=
  if m.remaining.isNone then some m.outcome else none

/-- The times that the mapping left in a buffer. -/
def timesIn? (b : Buffer) (m : Mapping) : Option (Nat × Nat) :=
  match m.answer? with
  | some (.times first last) => if m.buffer = b then some (first, last) else none
  | _ => none

end Mapping

/-- A graphics world. -/
structure World where
  script : Script
  /-- The calls, oldest first. -/
  calls : List Call
  log : List Event
  /-- The number of buffers and textures so far. -/
  resources : Nat
  /-- The devices; a device is known by its place. -/
  devices : List Device
  /-- The mappings; a mapping is known by its place. -/
  mappings : List Mapping

namespace World

/-- A world without a past. -/
def ofScript (s : Script) : World := ⟨s, [], [], 0, [], []⟩

/-- The uncaught errors of a device. -/
def warnings (w : World) (d : DeviceId) : Warnings :=
  (w.devices[d]?.map Device.warnings).getD .empty

/-- The outcome of a mapping, once it is complete. -/
def mapAnswer? (w : World) (mapping : Nat) : Option MapOutcome :=
  w.mappings[mapping]?.bind Mapping.answer?

/-- The two times that a buffer holds. -/
def timesOf (w : World) (b : Buffer) : Nat × Nat :=
  (w.mappings.reverse.findSome? (·.timesIn? b)).getD (0, 0)

end World

instance : Journal World where
  note e := fun w => ((), { w with log := w.log ++ [e] })

/-! ## Acting on a world -/

/-- Makes a call. -/
def call (c : Call) : StateM World Unit := modify fun w => { w with calls := w.calls ++ [c] }

/-- Notes an event. -/
def note (e : Event) : StateM World Unit := Journal.note e

/-- A new buffer. -/
def createBuffer (label : String) (size : Nat) (usage : List BufferUsage) :
    StateM World Buffer := do
  let b : Buffer := ⟨(← get).resources, label⟩
  modify fun w => { w with resources := w.resources + 1 }
  call (.createBuffer b size usage false)
  return b

/-- A new texture, which passes draw into. -/
def createTexture (label : String) (width height : Nat) (format : TextureFormat) :
    StateM World Texture := do
  let t : Texture := ⟨(← get).resources, label⟩
  modify fun w => { w with resources := w.resources + 1 }
  call (.createTexture t width height format .renderTarget)
  return t

/-! ### Errors -/

/-- Opens an error scope. -/
def pushScope (d : DeviceId) : StateM World Unit := do
  modify fun w =>
    { w with devices := w.devices.modify d fun v => { v with scopes := none :: v.scopes } }
  call (.pushScope d)

/-- Closes the innermost error scope; the answer is its first error. -/
def popScope (d : DeviceId) : StateM World (Option (List Char)) := do
  let error := ((← get).devices[d]?.bind fun v => v.scopes.head?).bind id
  modify fun w =>
    { w with devices := w.devices.modify d fun v => { v with scopes := v.scopes.drop 1 } }
  call (.popScope d error)
  return error

/-- An error is raised on a device. -/
def raiseError (d : DeviceId) (message : List Char) : StateM World Unit := do
  match (← get).devices[d]?.map Device.scopes with
  | some (scope :: scopes) =>
    modify fun w =>
      { w with
        devices := w.devices.modify d fun v =>
          { v with scopes := (scope.orElse fun _ => some message) :: scopes } }
  | some [] =>
    modify fun w =>
      { w with
        devices := w.devices.modify d fun v => { v with warnings := v.warnings.push message } }
    note .runtimeWarning
  | none => return

/-- An error is raised if the script says so. -/
def raiseIf (d : DeviceId) (error : Option (Option (List Char))) : StateM World Unit := do
  match error with
  | some (some message) => raiseError d message
  | _ => return

/-! ### Steps whose outcome is scripted -/

/-- Opens a device and watches its uncaught errors; the answer is the device or the error. -/
def openDevice (label : String) (timestamps : Bool) :
    StateM World (Except (List Char) DeviceId) := do
  let script := (← get).script
  call (.requestDevice label timestamps script.maxDimension)
  match script.deviceError with
  | some e => return .error e
  | none =>
    let d := (← get).devices.length
    modify fun w => { w with devices := w.devices ++ [⟨[], .empty⟩] }
    return .ok d

/-- Compiles a stage of a program. -/
def createModule (d : DeviceId) (m : ShaderModule) (program : List Char) : StateM World Unit := do
  call (.createModule m (Text.byteLength program))
  match m.stage with
  | .vertex =>
    let errors := (← get).script.vertexErrors
    modify fun w => { w with script := { w.script with vertexErrors := errors.drop 1 } }
    raiseIf d errors.head?
  | .fragment =>
    let errors := (← get).script.fragmentErrors
    modify fun w => { w with script := { w.script with fragmentErrors := errors.drop 1 } }
    raiseIf d errors.head?

/-- Links a pipeline. -/
def createPipeline (d : DeviceId) (p : PipelineSetup) : StateM World Unit := do
  call (.createPipeline p)
  let errors := (← get).script.pipelineErrors
  modify fun w => { w with script := { w.script with pipelineErrors := errors.drop 1 } }
  raiseIf d errors.head?

/-- Writes a uniform block into a buffer. -/
def writeBuffer (d : DeviceId) (b : Buffer) (block : UniformBlock) : StateM World Unit := do
  call (.writeBuffer b 0 block)
  let errors := (← get).script.writeErrors
  modify fun w => { w with script := { w.script with writeErrors := errors.drop 1 } }
  raiseIf d errors.head?

/-- Submits one list of commands. -/
def submit (d : DeviceId) : StateM World Unit := do
  call (.submit 1)
  let errors := (← get).script.submitErrors
  modify fun w => { w with script := { w.script with submitErrors := errors.drop 1 } }
  raiseIf d errors.head?

/-- Acquires the next frame of the surface. -/
def acquire : StateM World FrameOutcome := do
  let frames := (← get).script.frames
  let outcome := frames.head?.getD .ok
  modify fun w => { w with script := { w.script with frames := frames.drop 1 } }
  call (.acquire outcome)
  return outcome

/-- Polls the device; a waiting poll completes all mappings. -/
def pollDevice (waiting : Bool) : StateM World Unit := do
  call (.pollDevice waiting)
  modify fun w => { w with mappings := w.mappings.map (·.polled waiting) }

/-- Asks for a mapping of a buffer; the answer is the number of the mapping. -/
def mapBuffer (b : Buffer) : StateM World Nat := do
  call (.mapBuffer b)
  let maps := (← get).script.maps
  let next := maps.head?.getD .default
  let mapping : Mapping := ⟨b, next.outcome, if next.polls = 0 then none else some next.polls⟩
  modify fun w =>
    { w with
      script := { w.script with maps := maps.drop 1 }
      mappings := w.mappings ++ [mapping] }
  return (← get).mappings.length - 1

/-- Reads the two times that a mapped buffer holds. -/
def readTimes (b : Buffer) : StateM World (Nat × Nat) := do
  call (.readMapped b)
  return (← get).timesOf b

end Gpu

end ShaderPreview
