import ShaderPreview.Gpu.World

/-!
# Timing passes

A timer brackets a pass with two times of the device's clock and reads them back later.  At most
one measurement is on its way: it begins with a pass, is asked for behind the submission of the
pass, and ends with the poll that finds it complete.
-/

namespace ShaderPreview

namespace Gpu

/-- How far a measurement is. -/
inductive TimerState where
  | idle
  /-- The times are written by a pass; the readback is not asked for. -/
  | recorded
  /-- The readback is the mapping of this number. -/
  | mapping (number : Nat)
  deriving DecidableEq, Repr

/-- A timer. -/
structure Timer where
  queries : String
  /-- The buffer that the times are resolved into. -/
  resolved : Buffer
  /-- The buffer that they are read from. -/
  readback : Buffer
  /-- The nanoseconds of one tick of the device's clock. -/
  period : Float
  state : TimerState

namespace Timer

/-- The bytes of two times. -/
def timesSize : Nat := 16

/-- The number of times of a measurement. -/
def timesCount : Nat := 2

/-- A timer that measures nothing yet. -/
def create : StateM World Timer := do
  let queries := "frame timer queries"
  call (.createQueries queries timesCount)
  let resolved ← createBuffer "frame timer resolve" timesSize [.queryTarget, .copySource]
  let readback ← createBuffer "frame timer readback" timesSize [.mapRead, .copyTarget]
  return ⟨queries, resolved, readback, (← get).script.period.toFloat, .idle⟩

/-- Nothing is being measured. -/
def isIdle (t : Timer) : Bool := t.state = .idle

/-- The milliseconds between two times of the device's clock; a clock that runs back gives none. -/
def milliseconds (t : Timer) (times : Nat × Nat) : Float :=
  Float.ofNat (times.2 - times.1) * t.period / 1000000.0

/-- Asks for the last measurement, without waiting. -/
def poll (t : Timer) : StateM World (TimerPoll × Timer) := do
  match t.state with
  | .idle => return (.idle, t)
  | .recorded => return (.pending, t)
  | .mapping number =>
    pollDevice false
    match (← get).mapAnswer? number with
    | none => return (.pending, t)
    | some .failed =>
      note .readbackFailed
      return (.idle, { t with state := .idle })
    | some .dropped => return (.idle, { t with state := .idle })
    | some _ =>
      let times ← readTimes t.readback
      call (.unmap t.readback)
      return (.ready (t.milliseconds times), { t with state := .idle })

/-- A measurement begins. -/
def begin (t : Timer) : Timer := { t with state := .recorded }

/-- Where the measured pass writes its times. -/
def passTimes (t : Timer) : PassTimes := ⟨t.queries, 0, 1⟩

/-- Copies the times of a pass that ended to where they are read from. -/
def resolve (t : Timer) : StateM World Unit := do
  call (.resolveQueries t.queries 0 timesCount t.resolved 0)
  call (.copyBuffer t.resolved 0 t.readback 0 timesSize)

/-- Asks for the readback of a measurement whose pass was submitted. -/
def afterSubmit (t : Timer) : StateM World Timer := do
  if t.state ≠ .recorded then return t
  return { t with state := .mapping (← mapBuffer t.readback) }

/-- Gives back what the timer holds. -/
def release (t : Timer) : StateM World Unit := do
  call (.destroyBuffer t.resolved)
  call (.destroyBuffer t.readback)

end Timer

end Gpu

end ShaderPreview
