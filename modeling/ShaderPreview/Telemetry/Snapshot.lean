import ShaderPreview.Number.Span
import ShaderPreview.Telemetry.Window

/-!
# Frame statistics

`Telemetry` keeps two windows, of the times between frames and of the times the graphics device
took, and the number of frames.  A `Snapshot` brings both windows down to one rate: the rate by the
device is taken where it lies near the rate by the frames (`reconcile`).
-/

namespace ShaderPreview

/-- How frames are measured. -/
structure TelemetrySettings where
  frameWindow : Nat
  gpuWindow : Nat
  /-- The nominal time between two frames. -/
  targetInterval : Span
  /-- A frame that took more than so many nominal intervals counts as dropped. -/
  dropFactor : Float
  /-- The rate by the device counts while it differs by less than so many times the rate by the
  frames. -/
  reconcileBand : Float
  deriving BEq

namespace TelemetrySettings

/-- The settings where none are given. -/
def default : TelemetrySettings := ⟨120, 30, ⟨16666667⟩, 1.5, 2.0⟩

instance : Inhabited TelemetrySettings := ⟨default⟩

/-- The time in milliseconds beyond which a frame counts as dropped. -/
def dropThreshold (s : TelemetrySettings) : Float := s.targetInterval.milliseconds * s.dropFactor

end TelemetrySettings

/-- Which measurement a published rate comes from. -/
inductive RateSource where
  | cpu
  | gpu
  deriving DecidableEq, Repr

/-- Chooses between the rate by the frames and that by the device. -/
def reconcile (cpu : Float) (gpu : Option Float) (band : Float) : Float × RateSource :=
  match gpu with
  | some g => if g.isFinite ∧ (g - cpu).abs < cpu * band then (g, .gpu) else (cpu, .cpu)
  | none => (cpu, .cpu)

/-- Figures for the last frames, rounded to hundredths. -/
structure Snapshot where
  fps : Float
  source : RateSource
  frameTime : Float
  averageFrameTime : Float
  minFrameTime : Float
  maxFrameTime : Float
  droppedFrames : Nat
  totalFrames : Nat
  gpuTime : Option Float
  width : Nat
  height : Nat

/-- The number of pixels of a frame. -/
def Snapshot.pixelCount (s : Snapshot) : Nat := s.width * s.height

/-- What was measured so far. -/
structure Telemetry where
  settings : TelemetrySettings
  frames : Window Double
  gpu : Window Double
  totalFrames : Nat

namespace Telemetry

/-- Nothing measured yet; there is no telemetry where there is no room for a window. -/
def ofSettings? (s : TelemetrySettings) : Option Telemetry := do
  let frames ← Window.ofCapacity? s.frameWindow
  let gpu ← Window.ofCapacity? s.gpuWindow
  return ⟨s, frames, gpu, 0⟩

/-- Device times from here on are taken for errors. -/
def gpuCeiling : Float := 1000.0

/-- A device time that is kept. -/
def acceptsGpu (ms : Float) : Bool := ms > 0.0 && ms < gpuCeiling

/-- Adds the time between two frames. -/
def recordFrame (t : Telemetry) (ms : Float) : Telemetry :=
  { t with frames := t.frames.push (.ofFloat ms) }

/-- Adds a device time, if it is acceptable. -/
def recordGpu (t : Telemetry) (ms : Float) : Telemetry :=
  if acceptsGpu ms then { t with gpu := t.gpu.push (.ofFloat ms) } else t

/-- Forgets all that was measured. -/
def reset (t : Telemetry) : Telemetry :=
  { t with frames := t.frames.clear, gpu := t.gpu.clear, totalFrames := 0 }

/-- The number of dropped frames in the window. -/
def droppedFrames (t : Telemetry) : Nat := t.frames.countAbove t.settings.dropThreshold

/-- The mean time between frames, or zero. -/
def averageFrameTime (t : Telemetry) : Float := t.frames.mean?.getD 0.0

/-- The rate by the frames, or zero. -/
def cpuRate (t : Telemetry) : Float :=
  if t.averageFrameTime > 0.0 then 1000.0 / t.averageFrameTime else 0.0

/-- The rate by the device. -/
def gpuRate? (t : Telemetry) : Option Float := t.gpu.median?.map fun m => 1000.0 / m

/-- The figures at this moment, for frames of the given size. -/
def snapshot (t : Telemetry) (width height : Nat) : Snapshot :=
  let (fps, source) := reconcile t.cpuRate t.gpuRate? t.settings.reconcileBand
  { fps := Exact.toHundredths fps
    source
    frameTime := Exact.toHundredths ((t.frames.last?.map Double.value).getD 0.0)
    averageFrameTime := Exact.toHundredths t.averageFrameTime
    minFrameTime := Exact.toHundredths (t.frames.min?.getD 0.0)
    maxFrameTime := Exact.toHundredths (t.frames.max?.getD 0.0)
    droppedFrames := t.droppedFrames
    totalFrames := t.totalFrames
    gpuTime := t.gpu.median?.map Exact.toHundredths
    width
    height }

end Telemetry

end ShaderPreview
