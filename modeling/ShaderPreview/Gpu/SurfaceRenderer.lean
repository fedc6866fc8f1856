import ShaderPreview.Glsl.Checker
import ShaderPreview.Gpu.Context
import ShaderPreview.Gpu.Pipeline
import ShaderPreview.Gpu.Timer
import ShaderPreview.Preview.Session

/-!
# The renderer of a window

The renderer of a preview draws its program into the surface of a window.  A surface that is lost or
outdated is set up again, and that frame is skipped; so is a frame that cannot be had in time.
-/

namespace ShaderPreview

namespace Gpu

/-- A renderer that draws into the surface of a window. -/
structure SurfaceRenderer where
  context : Context
  pipeline : Pipeline
  timer : Option Timer

/-- The error of a preview whose program has no pipeline. -/
def PipelineError.toConnectError : PipelineError → ConnectError
  | compile d => .compile d
  | link m => .link m

namespace SurfaceRenderer

/-- Opens a device for a window and links an assembled program on it. -/
def connectWith (check : StageCheck) (handles : WindowHandles) (options : GpuOptions)
    (a : Shader.Assembly) (width height : Nat) :
    StateM World (Except ConnectError SurfaceRenderer) := do
  match ← (Context.open handles options width height).run with
  | .error e => return .error (.contextUnavailable e.message)
  | .ok context =>
    match ← Pipeline.createWith check context.device context.surface.format a.program with
    | .error e => return .error e.toConnectError
    | .ok pipeline =>
      let timer ← if context.timed then some <$> Timer.create else pure none
      note .rendererConnected
      return .ok ⟨context, pipeline, timer⟩

/-- The whole surface. -/
def viewport (r : SurfaceRenderer) : Viewport :=
  ⟨0, 0, Float32.ofNat r.context.surface.width, Float32.ofNat r.context.surface.height, 0, 1⟩

/-- The timer of the next pass, if it is measured. -/
def measuring? (r : SurfaceRenderer) (timed : Bool) : Option Timer :=
  r.timer.filter fun t => timed && t.isIdle

/-- Records and submits the pass of a frame. -/
def drawPass (r : SurfaceRenderer) (measuring : Option Timer) : StateM World Unit := do
  call (.createView .surface)
  call (.createEncoder "fragscope encoder")
  call (.beginPass "fragscope pass" .surface (measuring.map Timer.passTimes))
  call (.setViewport r.viewport)
  r.pipeline.draw
  call .endPass
  match measuring with
  | some t => t.resolve
  | none => pure ()
  submit r.context.device
  call .present

/-- Draws into a frame that was acquired. -/
def drawFrame (r : SurfaceRenderer) (timed : Bool) : StateM World SurfaceRenderer := do
  let measuring := r.measuring? timed
  r.drawPass measuring
  match (measuring.map Timer.begin).or r.timer with
  | some t => return { r with timer := some (← t.afterSubmit) }
  | none => return r

/-- Draws a frame, and measures it if asked to. -/
def draw (r : SurfaceRenderer) (timed : Bool) : StateM World (DrawOutcome × SurfaceRenderer) := do
  match ← acquire with
  | .ok => return (.presented, ← r.drawFrame timed)
  | .lost | .outdated =>
    note .surfaceOutdated
    r.context.reconfigure
    return (.skipped, r)
  | .timeout =>
    note .acquireTimedOut
    return (.skipped, r)
  | outcome => return (.failed ("failed to acquire surface texture: " ++ outcome.message), r)

/-- Asks for the last measurement, without waiting. -/
def pollTimer (r : SurfaceRenderer) : StateM World (TimerPoll × SurfaceRenderer) := do
  match r.timer with
  | some t =>
    let (poll, t) ← t.poll
    return (poll, { r with timer := some t })
  | none => return (.idle, r)

/-- Gives back what the renderer holds. -/
def release (r : SurfaceRenderer) : StateM World Unit := do
  match r.timer with
  | some t => t.release
  | none => pure ()
  r.pipeline.release
  note .rendererReleased

instance : Renderer World SurfaceRenderer where
  configure r width height := return { r with context := ← r.context.resize width height }
  writeUniforms r block := do
    r.pipeline.writeUniforms r.context.device block
    return r
  hasTimer r := r.timer.isSome
  pollTimer := pollTimer
  draw := draw
  warningCount r w := (w.warnings r.context.device).total
  release := release

end SurfaceRenderer

/-- Loads a source and connects it to a window. -/
def loadOnWindowWith (check : StageCheck) {ρ : Type} [Seconds ρ] (s : Session ρ SurfaceRenderer)
    (handles : WindowHandles) (source : List Char) (width height : Nat) :
    StateM (Host World) (Except LoadError Unit × Session ρ SurfaceRenderer) := do
  let (result, s) ← s.load source width height
    (SurfaceRenderer.connectWith check handles s.options.gpu)
  match result with
  | .error _ => Host.note .connectFailed
  | .ok _ => pure ()
  return (result, s)

/-- Loads a source with the checker of this library in front of the device. -/
def loadOnWindow {ρ : Type} [Seconds ρ] :
    Session ρ SurfaceRenderer → WindowHandles → List Char → Nat → Nat →
      StateM (Host World) (Except LoadError Unit × Session ρ SurfaceRenderer) :=
  loadOnWindowWith Glsl.check

end Gpu

end ShaderPreview
