import ShaderPreview.Number.Span

/-!
# The refresh rate probe

The probe looks at the instants of the first ten ticks and then settles, once and for all, on the
refresh rate of the display, or on there being none to tell.
-/

namespace ShaderPreview

/-- A probe still collects instants, or has settled. -/
inductive Probe where
  | collecting (stamps : List Nat)
  | settled (rate : Option Nat)
  deriving DecidableEq, Repr

namespace Probe

/-- The number of instants the probe collects. -/
def sampleCount : Nat := 10

/-- The probe before the first tick. -/
def fresh : Probe := .collecting []

/-- The mean interval in milliseconds over instants of which `first` and `last` are the outer
ones. -/
def meanInterval (first last : Nat) : Float :=
  (Span.mk (last - first)).milliseconds / Float.ofNat (sampleCount - 1)

/-- The rate in hertz for a mean interval in milliseconds, if there is any interval. -/
def rateOfInterval (mean : Float) : Option UInt32 :=
  if mean ≤ 0.0 then none else some (Exact.roundHalfAway (1000.0 / mean)).toUInt32

/-- What a tick tells a probe. -/
inductive Finding where
  /-- Nothing yet, or nothing any more. -/
  | nothing
  /-- The instants do not differ. -/
  | noInterval
  | rate (hertz : UInt32)
  deriving DecidableEq, Repr

/-- Looks at the instant of a tick. -/
def record (now : Nat) : Probe → Finding × Probe
  | .settled rate => (.nothing, .settled rate)
  | .collecting stamps =>
    let stamps := stamps ++ [now]
    if stamps.length < sampleCount then (.nothing, .collecting stamps)
    else
      match rateOfInterval (meanInterval (stamps.headD now) now) with
      | none => (.noInterval, .settled none)
      | some hertz => (.rate hertz, .settled (if hertz = 0 then none else some hertz.toNat))

/-- The probe has settled. -/
def isComplete : Probe → Bool
  | .settled _ => true
  | .collecting _ => false

/-- The refresh rate in hertz, once it is known. -/
def rate? : Probe → Option Nat
  | .settled rate => rate
  | .collecting _ => none

end Probe

end ShaderPreview
