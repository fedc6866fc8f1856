import ShaderPreview.Gpu.World
import ShaderPreview.Shader.Triangle

/-!
# Pipelines of programs

A program is checked, compiled and linked with the triangle that it is drawn on.  Both stages are
checked before a device sees them, so that a fault carries its place; which compiler checks them is
left open.  What the device still refuses is a compile error while modules are created and a link
error while the pipeline is.
-/

namespace ShaderPreview

namespace Gpu

/-- Runs a step in an error scope; the answer is the first error in it besides its own. -/
def inScope {α : Type} (d : DeviceId) (step : StateM World α) :
    StateM World (α × Option (List Char)) := do
  pushScope d
  let a ← step
  let error ← popScope d
  return (a, error)

/-- Why a program has no pipeline. -/
inductive PipelineError where
  | compile (d : Diagnostic)
  | link (message : List Char)
  deriving DecidableEq, Repr

/-- The pipeline of a program; its uniform buffer is all that has to be given back. -/
structure Pipeline where
  label : String
  uniforms : Buffer
  bindGroup : String
  deriving DecidableEq, Repr

/-- The vertex stage. -/
def vertexModule : ShaderModule := ⟨"fullscreen triangle vertex", .vertex, "main"⟩

/-- The fragment stage. -/
def fragmentModule : ShaderModule := ⟨"fragscope fragment", .fragment, "main"⟩

/-- What a compiler in front of the device says about a stage of a program. -/
abbrev StageCheck := Stage → List Char → Except StageFault Unit

/-- The diagnostic of the first stage whose check fails. -/
def checkStagesWith (check : StageCheck) (program : List Char) : Except Diagnostic Unit := do
  for (stage, text) in [(Stage.vertex, Shader.Triangle.program), (.fragment, program)] do
    match check stage text with
    | .ok _ => pure ()
    | .error fault => throw (Diagnostic.ofFault fault text)

/-- Creates the modules of both stages. -/
def createModules (d : DeviceId) (program : List Char) : StateM World Unit := do
  createModule d vertexModule Shader.Triangle.program
  createModule d fragmentModule program

/-- Creates the pipeline with the objects that it uses. -/
def createObjects (d : DeviceId) (format : TextureFormat) : StateM World Pipeline := do
  let layout := "uniform layout"
  call (.createBindGroupLayout layout [⟨0, [.vertex, .fragment], false, UniformBlock.size⟩])
  let uniforms ← createBuffer "frame uniforms" UniformBlock.size [.uniforms, .copyTarget]
  let bindGroup := "uniform bind group"
  call (.createBindGroup bindGroup layout [(0, uniforms)])
  let pipelineLayout := "program pipeline layout"
  call (.createPipelineLayout pipelineLayout [layout])
  let label := "program pipeline"
  createPipeline d ⟨label, pipelineLayout, vertexModule, fragmentModule, [format]⟩
  return ⟨label, uniforms, bindGroup⟩

/-- Compiles and links a program for targets of a format, unless its check found a fault. -/
def Pipeline.createChecked (checked : Except Diagnostic Unit) (d : DeviceId)
    (format : TextureFormat) (program : List Char) :
    StateM World (Except PipelineError Pipeline) := do
  match checked with
  | .error diagnostic => return .error (.compile diagnostic)
  | .ok _ =>
    let (_, error) ← inScope d (createModules d program)
    match error with
    | some message => return .error (.compile (.ofMessage .fragment message program))
    | none =>
      let (pipeline, error) ← inScope d (createObjects d format)
      match error with
      | some message =>
        call (.destroyBuffer pipeline.uniforms)
        return .error (.link message)
      | none => return .ok pipeline

/-- Checks, compiles and links a program for targets of a format. -/
def Pipeline.createWith (check : StageCheck) (d : DeviceId) (format : TextureFormat)
    (program : List Char) : StateM World (Except PipelineError Pipeline) :=
  Pipeline.createChecked (checkStagesWith check program) d format program

namespace Pipeline

/-- Hands over the uniform block of the next draw. -/
def writeUniforms (p : Pipeline) (d : DeviceId) (block : UniformBlock) : StateM World Unit :=
  writeBuffer d p.uniforms block

/-- Draws the triangle in the open pass. -/
def draw (p : Pipeline) : StateM World Unit := do
  call (.setPipeline p.label)
  call (.setBindGroup 0 p.bindGroup)
  call (.drawVertices 0 Shader.Triangle.cornerCount 0 1)

/-- Gives back what the pipeline holds. -/
def release (p : Pipeline) : StateM World Unit := call (.destroyBuffer p.uniforms)

end Pipeline

end Gpu

end ShaderPreview
