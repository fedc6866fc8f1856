import ShaderPreview.Number.Span

/-!
# The clock of a preview

Shader time runs on from the first tick, stands still while the preview is paused, and goes on from
a given value after a pause.  The clock counts seconds in any kind of numbers that has the
operations of `Seconds`; the preview itself uses doubles.
-/

namespace ShaderPreview

/-- Numbers in which seconds are counted. -/
class Seconds (ρ : Type) extends Add ρ where
  zero : ρ
  /-- The seconds of a span. -/
  ofSpan : Span → ρ
  /-- The number, or zero if it is not above zero. -/
  clamp : ρ → ρ
  /-- The nearest single. -/
  toSingle : ρ → Float32

instance : Seconds Float where
  zero := 0.0
  ofSpan := Span.seconds
  clamp x := if x > 0.0 then x else 0.0
  toSingle := Float.toFloat32

/-- The state of the clock. -/
structure Clock (ρ : Type) where
  /-- The instant from which the elapsed time is counted. -/
  start : Option Nat
  /-- The elapsed time at that instant. -/
  offset : ρ
  /-- The last tick that drew. -/
  previousTick : Option Nat
  paused : Bool
  /-- The time shown while paused. -/
  frozen : ρ
  /-- The time from which the next tick goes on after a pause. -/
  resumeFrom : Option ρ
  deriving DecidableEq, Repr

namespace Clock

variable {ρ : Type} [Seconds ρ]

/-- The clock before anything is shown. -/
def initial : Clock ρ := ⟨none, Seconds.zero, none, false, Seconds.zero, none⟩

/-- A clock without a past; whether it is paused, and where, is kept. -/
def restarted (c : Clock ρ) : Clock ρ :=
  { (initial : Clock ρ) with paused := c.paused, frozen := c.frozen }

/-- Seconds from one instant to another, zero if the second is not later. -/
def between (earlier later : Nat) : ρ := Seconds.ofSpan ⟨later - earlier⟩

/-- The time since the start, at an instant. -/
def running (c : Clock ρ) (now : Nat) : ρ :=
  match c.start with
  | some start => c.offset + between start now
  | none => c.offset

/-- The shader time at an instant. -/
def elapsed (c : Clock ρ) (now : Nat) : ρ :=
  if c.paused then c.frozen
  else
    match c.resumeFrom with
    | some resume => resume
    | none => c.running now

/-- Pauses at a time, or goes on from it. -/
def setPaused (c : Clock ρ) (paused : Bool) (time : ρ) : Clock ρ :=
  if paused then { c with paused := true, frozen := Seconds.clamp time, resumeFrom := none }
  else { c with paused := false, resumeFrom := some (Seconds.clamp time) }

/-- Starts anew from the time of a resumption, if there is one that no tick has applied. -/
def applyResume (c : Clock ρ) (now : Nat) : Clock ρ :=
  match c.resumeFrom with
  | some resume => { c with start := some now, offset := resume, resumeFrom := none }
  | none => c

/-- A clock that has a start. -/
def started (c : Clock ρ) (now : Nat) : Clock ρ := { c with start := some (c.start.getD now) }

/-- The time since the last tick that drew. -/
def delta (c : Clock ρ) (now : Nat) : ρ :=
  match c.previousTick with
  | some previous => between previous now
  | none => Seconds.zero

/-- A tick at an instant: the shader time, the time since the last tick, and the clock behind
it. -/
def advance (c : Clock ρ) (now : Nat) : ρ × ρ × Clock ρ :=
  if c.paused then (c.frozen, Seconds.zero, c)
  else
    let c := (c.applyResume now).started now
    (c.running now, c.delta now, c)

end Clock

end ShaderPreview
