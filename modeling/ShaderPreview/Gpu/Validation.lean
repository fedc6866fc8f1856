import ShaderPreview.Glsl.Checker
import ShaderPreview.Gpu.Context
import ShaderPreview.Gpu.Pipeline
import ShaderPreview.Shader.Assembly

/-!
# Validating a source

A source is valid if it assembles and links on a device without a surface.  One frame is drawn on
trial into a small texture with every uniform bound; what the device says about it are the warnings
of the report.  Everything that was created is given back, whatever happened.
-/

namespace ShaderPreview

namespace Gpu

/-- Why a source is not valid. -/
inductive ValidationError where
  | source (e : Shader.SourceError)
  | connect (e : ConnectError)
  deriving DecidableEq, Repr

/-- The text of the error. -/
def ValidationError.message : ValidationError → List Char
  | source e => e.message.toList
  | connect e => e.message

/-- The report on a valid source. -/
structure ValidationReport where
  program : List Char
  warnings : List (List Char)
  deriving DecidableEq, Repr

/-- The device said nothing. -/
def ValidationReport.isClean (r : ValidationReport) : Bool := r.warnings.isEmpty

/-- The sides of the trial texture. -/
def trialSize : Nat := 4

/-- The format of the trial texture. -/
def trialFormat : TextureFormat := .rgba8

/-- A device with the trial texture. -/
structure Trial where
  device : DeviceId
  target : Texture
  deriving DecidableEq, Repr

namespace Trial

/-- Opens a device without a surface; passes are not timed. -/
def start (options : GpuOptions) : Opening ContextError Trial := do
  openInstance
  requestAdapter options false
  let (device, _) ← requestDevice { options with timerQueries := false } "fragscope validator"
  call (.watchErrors device)
  let target ← createTexture "validation target" trialSize trialSize trialFormat
  return ⟨device, target⟩

/-- The uniform block of the trial frame: every uniform is bound, and no time has passed. -/
def uniforms (today : Date) : UniformBlock :=
  (UniformBlock.zero.writeResolution .univ trialSize trialSize).writeFrame .univ
    ⟨0, 0, 0, .zero, today⟩

/-- Records and submits the pass of the trial frame, and waits for its end. -/
def drawPass (t : Trial) (p : Pipeline) : StateM World Unit := do
  call (.createView (.texture t.target))
  call (.createEncoder "validation encoder")
  call (.beginPass "validation pass" (.texture t.target) none)
  p.draw
  call .endPass
  submit t.device
  pollDevice true

/-- Draws the trial frame; the answer is what the device said: the first error of the pass, and then
the uncaught errors. -/
def draw (t : Trial) (p : Pipeline) (today : Date) : StateM World (List (List Char)) := do
  p.writeUniforms t.device (uniforms today)
  let (_, error) ← inScope t.device (t.drawPass p)
  let warnings := error.toList ++ ((← get).warnings t.device).recent
  for _ in warnings do
    note .trialProblem
  return warnings

/-- Gives back the texture and the device. -/
def close (t : Trial) : StateM World Unit := do
  call (.destroyTexture t.target)
  call (.destroyDevice t.device)

/-- Links a program and draws the trial frame. -/
def runWith (check : StageCheck) (t : Trial) (program : List Char) (today : Date) :
    StateM World (Except ConnectError (List (List Char))) := do
  match ← Pipeline.createWith check t.device trialFormat program with
  | .error (.compile d) => return .error (.compile d)
  | .error (.link m) => return .error (.link m)
  | .ok p =>
    let warnings ← t.draw p today
    p.release
    return .ok warnings

end Trial

section With

variable (check : StageCheck)

/-- Validates an assembled program. -/
def validateProgramWith (options : GpuOptions) (program : List Char) (today : Date) :
    StateM World (Except ConnectError ValidationReport) := do
  match ← (Trial.start options).run with
  | .error e => return .error (.contextUnavailable e.message)
  | .ok trial =>
    let result ← trial.runWith check program today
    trial.close
    return result.map fun warnings => ⟨program, warnings⟩

/-- Validates a source. -/
def validateWith (options : GpuOptions) (source : List Char) (today : Date) :
    StateM World (Except ValidationError ValidationReport) := do
  match Shader.Assembly.read source with
  | .error e => return .error (.source e)
  | .ok (a, remarks) =>
    if remarks.redeclared then note .entryPointRepeated
    note .sourceAssembled
    match ← validateProgramWith check options a.program today with
    | .error e => return .error (.connect e)
    | .ok report =>
      note .shaderValidated
      return .ok report

end With

/-- Validates an assembled program with the checker of this library in front of the device. -/
def validateProgram : GpuOptions → List Char → Date →
    StateM World (Except ConnectError ValidationReport) := validateProgramWith Glsl.check

/-- Validates a source with the checker of this library in front of the device. -/
def validate : GpuOptions → List Char → Date →
    StateM World (Except ValidationError ValidationReport) := validateWith Glsl.check

end Gpu

end ShaderPreview
