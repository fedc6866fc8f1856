/-!
# Log records

Each thing worth noting is an event with a level and a text.
-/

namespace ShaderPreview

/-- How important a record is. -/
inductive Level where
  | error
  | warn
  | info
  | debug
  deriving DecidableEq, Repr

/-- The name of a level. -/
def Level.name : Level → String
  | error => "ERROR"
  | warn => "WARN"
  | info => "INFO"
  | debug => "DEBUG"

/-- Something worth noting. -/
inductive Event where
  | entryPointRepeated
  | sourceAssembled
  | previewReady
  | previewStarted
  | phaseChanged
  | previewHalted
  | surfaceResized
  | frameSkipped
  | statsPublished
  | gpuSampleDiscarded
  | probeGaveUp
  | rateProbed
  | displayRateProbed
  | drawFailed
  | previewDisposed
  | adapterSelected
  | timestampsMissing
  | presentModeUnsupported
  | surfaceConfigured
  | rendererConnected
  | rendererReleased
  | connectFailed
  | surfaceOutdated
  | acquireTimedOut
  | readbackFailed
  | runtimeWarning
  | trialProblem
  | shaderValidated
  deriving DecidableEq, Repr

namespace Event

/-- The level of an event. -/
def level : Event → Level
  | drawFailed | connectFailed => .error
  | entryPointRepeated | presentModeUnsupported | runtimeWarning | trialProblem => .warn
  | displayRateProbed | timestampsMissing | rendererConnected => .info
  | _ => .debug

/-- The text of an event. -/
def message : Event → String
  | entryPointRepeated =>
    "entry point declared again after its definition; using the first definition"
  | sourceAssembled => "translated shader source"
  | previewReady => "render loop ready"
  | previewStarted => "render loop started"
  | phaseChanged => "render loop state"
  | previewHalted => "render loop halted"
  | surfaceResized => "render surface resized"
  | frameSkipped => "frame skipped"
  | statsPublished => "render stats"
  | gpuSampleDiscarded => "discarding out-of-range gpu sample"
  | probeGaveUp => "refresh probe saw no elapsed time; giving up"
  | rateProbed => "refresh rate probed"
  | displayRateProbed => "display refresh rate probed"
  | drawFailed => "draw failed; disposing render loop"
  | previewDisposed => "render loop disposed"
  | adapterSelected => "selected GPU adapter"
  | timestampsMissing => "adapter lacks timestamp queries; gpu timing disabled"
  | presentModeUnsupported => "present mode not supported by surface; using fifo"
  | surfaceConfigured => "configuring surface"
  | rendererConnected => "renderer connected"
  | rendererReleased => "renderer released"
  | connectFailed => "failed to initialise renderer"
  | surfaceOutdated => "surface lost or outdated; reconfiguring"
  | acquireTimedOut => "surface acquire timed out"
  | readbackFailed => "timer readback failed"
  | runtimeWarning => "gpu runtime warning"
  | trialProblem => "trial draw reported a problem"
  | shaderValidated => "shader validated"

/-- The record of an event: its level and its text. -/
def record (e : Event) : String := e.level.name ++ " " ++ e.message

end Event

end ShaderPreview
