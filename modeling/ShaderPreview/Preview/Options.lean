import ShaderPreview.Telemetry.Snapshot

/-!
# Options of a preview

What a preview asks of the graphics device, and how it measures and reports.
-/

namespace ShaderPreview

/-- Which graphics adapter is preferred. -/
inductive PowerPreference where
  | highPerformance
  | lowPower
  | none
  deriving DecidableEq, Repr, Inhabited

/-- How frames are handed to the screen. -/
inductive PresentMode where
  | autoVsync
  | autoNoVsync
  | fifo
  | mailbox
  | immediate
  deriving DecidableEq, Repr, Inhabited

/-- The name of a preference. -/
def PowerPreference.name : PowerPreference → String
  | highPerformance => "HighPerformance"
  | lowPower => "LowPower"
  | none => "None"

/-- The name of a mode. -/
def PresentMode.name : PresentMode → String
  | autoVsync => "AutoVsync"
  | autoNoVsync => "AutoNoVsync"
  | fifo => "Fifo"
  | mailbox => "Mailbox"
  | immediate => "Immediate"

/-- All modes. -/
def PresentMode.all : List PresentMode := [autoVsync, autoNoVsync, fifo, mailbox, immediate]

/-- The device chooses the mode itself, so that every surface has it. -/
def PresentMode.isAutomatic : PresentMode → Bool
  | autoVsync => true
  | autoNoVsync => true
  | _ => false

/-- What is asked of the graphics device. -/
structure GpuOptions where
  powerPreference : PowerPreference
  presentMode : PresentMode
  /-- Time the device where the adapter can. -/
  timerQueries : Bool
  deriving DecidableEq, Repr

/-- The options where none are given. -/
def GpuOptions.default : GpuOptions := ⟨.highPerformance, .autoVsync, true⟩

instance : Inhabited GpuOptions := ⟨.default⟩

/-- How a preview measures and reports. -/
structure PreviewOptions where
  telemetry : TelemetrySettings
  /-- The number of frames from one published snapshot to the next. -/
  publishInterval : Nat
  /-- The number of frame times in a report. -/
  diagnosticsSamples : Nat
  gpu : GpuOptions
  deriving BEq

/-- The options where none are given. -/
def PreviewOptions.default : PreviewOptions := ⟨.default, 10, 8, .default⟩

instance : Inhabited PreviewOptions := ⟨.default⟩

end ShaderPreview
