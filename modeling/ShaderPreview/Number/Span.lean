import ShaderPreview.Number.Exact

/-!
# Spans of time

A span and an instant are a number of nanoseconds, the latter from an origin that is left open.  A
span in seconds is the double next to its whole seconds plus the double next to its rest over
`10 ^ 9`; `ofSeconds?` goes the other way, to the nearest nanosecond, and fails where a span can
hold no more seconds.
-/

namespace ShaderPreview

/-- A span of time in nanoseconds. -/
structure Span where
  nanos : Nat
  deriving DecidableEq, Repr

namespace Span

/-- The nanoseconds of a second. -/
def perSecond : Nat := 1000000000

/-- The whole seconds of a span. -/
def wholeSeconds (s : Span) : Nat := s.nanos / perSecond

/-- The nanoseconds beside the whole seconds. -/
def restNanos (s : Span) : Nat := s.nanos % perSecond

/-- The span of so many seconds. -/
def ofWholeSeconds (n : Nat) : Span := ⟨n * perSecond⟩

/-- A span holds fewer than so many seconds. -/
def secondsLimit : Nat := wordCount 64

/-- The span in seconds. -/
def seconds (s : Span) : Float :=
  Float.ofNat s.wholeSeconds + Float.ofNat s.restNanos / 1e9

/-- The span in milliseconds. -/
def milliseconds (s : Span) : Float := s.seconds * 1000.0

/-- The span nearest to a number of seconds that is finite and not negative, if it is below the
limit. -/
def ofSeconds? (x : Float) : Option Span :=
  let (m, e) := Exact.parts x
  let nanos :=
    if 0 ≤ e then m * perSecond * Nat.pow 2 e.toNat
    else Rounding.nearestEven (m * perSecond) (Nat.pow 2 (-e).toNat)
  if nanos < secondsLimit * perSecond then some ⟨nanos⟩ else none

end Span

end ShaderPreview
