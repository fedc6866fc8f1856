import ShaderPreview.Diagnostic.Basic
import ShaderPreview.Preview.Event
import ShaderPreview.Preview.Frame
import ShaderPreview.Preview.Options
import ShaderPreview.Preview.Ticks
import ShaderPreview.Shader.EntryPoint
import ShaderPreview.Telemetry.Snapshot

/-!
# What a preview acts on

A preview draws through a *renderer*: a value of type `β` whose operations act on a graphics world
of type `G`.  The preview's `Host` is that world together with the queue of ticks and the snapshots
that were published.
-/

namespace ShaderPreview

/-- The answer of a timer to the question whether the last measurement is done. -/
inductive TimerPoll where
  /-- Nothing is being measured. -/
  | idle
  /-- The measurement is not done. -/
  | pending
  /-- The measurement took so many milliseconds. -/
  | ready (ms : Float)

/-- What became of a draw. -/
inductive DrawOutcome where
  | presented
  /-- Nothing was drawn, and the frame does not count. -/
  | skipped
  | failed (reason : String)
  deriving DecidableEq, Repr

/-- Renderers of type `β` on graphics worlds of type `G`. -/
class Renderer (G : Type) (β : Type) where
  /-- Gives the surface another size. -/
  configure : β → Nat → Nat → StateM G β
  /-- Hands over the uniform block of the next draw. -/
  writeUniforms : β → UniformBlock → StateM G β
  /-- The renderer can measure times. -/
  hasTimer : β → Bool
  /-- Asks for the last measurement, without waiting. -/
  pollTimer : β → StateM G (TimerPoll × β)
  /-- Draws a frame, and measures it if asked to. -/
  draw : β → Bool → StateM G (DrawOutcome × β)
  /-- The number of errors that no scope caught so far. -/
  warningCount : β → G → Nat
  /-- Gives back all that the renderer holds. -/
  release : β → StateM G Unit

/-- Worlds that keep a log. -/
class Journal (G : Type) where
  /-- Notes an event. -/
  note : Event → StateM G Unit

/-- The world around a preview. -/
structure Host (G : Type) where
  graphics : G
  ticks : Ticks
  /-- The published snapshots, oldest first. -/
  published : List Snapshot

namespace Host

variable {G : Type}

/-- A host without a past around a graphics world. -/
def ofGraphics (g : G) : Host G := ⟨g, .empty, []⟩

/-- Acts on the graphics world. -/
def onGraphics {α : Type} (act : StateM G α) : StateM (Host G) α := fun h =>
  let (a, g) := act h.graphics
  (a, { h with graphics := g })

/-- Notes an event. -/
def note [Journal G] (e : Event) : StateM (Host G) Unit := onGraphics (Journal.note e)

/-- Asks for a tick. -/
def requestTick : StateM (Host G) Nat := fun h =>
  let (token, ticks) := h.ticks.request
  (token, { h with ticks })

/-- Withdraws a tick. -/
def cancelTick (token : Nat) : StateM (Host G) Unit := fun h =>
  ((), { h with ticks := h.ticks.cancel token })

/-- Takes the oldest tick. -/
def takeTick : StateM (Host G) (Option Nat) := fun h =>
  let (token, ticks) := h.ticks.take
  (token, { h with ticks })

/-- Hands over a snapshot. -/
def publish (s : Snapshot) : StateM (Host G) Unit := fun h =>
  ((), { h with published := h.published ++ [s] })

end Host

/-- Why a preview could not be connected to a renderer. -/
inductive ConnectError where
  | contextUnavailable (reason : List Char)
  | compile (diagnostic : Diagnostic)
  | link (message : List Char)
  deriving DecidableEq, Repr

/-- The text of the error. -/
def ConnectError.message : ConnectError → List Char
  | contextUnavailable reason => "no compatible rendering backend: ".toList ++ reason
  | compile d => d.display
  | link m => "program failed to link: ".toList ++ m

/-- Why a preview could not be loaded. -/
inductive LoadError where
  | source (e : Shader.SourceError)
  | connect (e : ConnectError)
  | disposed
  deriving DecidableEq, Repr

/-- The text of the error. -/
def LoadError.message : LoadError → List Char
  | source e => e.message.toList
  | connect e => e.message
  | disposed => "render loop has been disposed".toList

end ShaderPreview
