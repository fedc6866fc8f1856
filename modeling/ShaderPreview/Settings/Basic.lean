import ShaderPreview.Preview.Options

/-!
# Settings

The settings of the viewer have five parts: a version, the window, the graphics device, the
measurements, and the playback.  Every part but the version has defaults.  `Settings.check` finds
the first value that makes no sense; the defaults have none.
-/

namespace ShaderPreview

/-- The window of a preview. -/
structure WindowSettings where
  width : Nat
  height : Nat
  title : List Char

/-- How a preview measures and reports, as set by the user. -/
structure MeasureSettings where
  telemetry : TelemetrySettings
  /-- Metrics are published every so many frames. -/
  publishInterval : Nat
  /-- The number of frame times in a report. -/
  diagnosticsSamples : Nat

/-- How a preview starts. -/
structure PlaybackSettings where
  startPaused : Bool
  /-- The time shown while paused. -/
  frozenTime : Span

/-- All settings. -/
structure Settings where
  version : Nat
  window : WindowSettings
  gpu : GpuOptions
  measure : MeasureSettings
  playback : PlaybackSettings

namespace Settings

/-- The settings where none are given. -/
def default : Settings :=
  { version := 1
    window := ⟨1280, 720, "fragscope".toList⟩
    gpu := .default
    measure := ⟨.default, 10, 8⟩
    playback := ⟨false, ⟨0⟩⟩ }

instance : Inhabited Settings := ⟨default⟩

/-- The options of a preview with these settings. -/
def previewOptions (s : Settings) : PreviewOptions :=
  ⟨s.measure.telemetry, s.measure.publishInterval, s.measure.diagnosticsSamples, s.gpu⟩

/-- A value that makes no sense. -/
inductive Fault where
  | unsupportedVersion (version : Nat)
  | emptyWindow
  | emptyTelemetryWindow
  | zeroPublishInterval
  | zeroTargetInterval
  | dropFactor
  | reconcileBand
  deriving DecidableEq, Repr

/-- What is wrong with a value. -/
def Fault.message : Fault → String
  | unsupportedVersion v => "unsupported config version " ++ toString v ++ "; expected 1"
  | emptyWindow => "window width and height must be greater than zero"
  | emptyTelemetryWindow => "telemetry windows must hold at least one sample"
  | zeroPublishInterval => "telemetry.publish_interval must be at least one frame"
  | zeroTargetInterval => "telemetry.target_interval must be greater than zero"
  | dropFactor => "telemetry.drop_factor must be a positive number"
  | reconcileBand => "telemetry.reconcile_band must be a positive number"

/-- A number that is finite and above zero. -/
def isPositive (x : Float) : Bool := x.isFinite && x > 0.0

/-- The first value that makes no sense. -/
def fault? (s : Settings) : Option Fault :=
  let t := s.measure.telemetry
  if s.version ≠ 1 then some (.unsupportedVersion s.version)
  else if s.window.width = 0 ∨ s.window.height = 0 then some .emptyWindow
  else if t.frameWindow = 0 ∨ t.gpuWindow = 0 then some .emptyTelemetryWindow
  else if s.measure.publishInterval = 0 then some .zeroPublishInterval
  else if t.targetInterval.nanos = 0 then some .zeroTargetInterval
  else if !isPositive t.dropFactor then some .dropFactor
  else if !isPositive t.reconcileBand then some .reconcileBand
  else none

end Settings

end ShaderPreview
