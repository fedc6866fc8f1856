import ShaderPreview.Number.Binary

/-!
# Doubles as exact numbers

A finite double is `± m · 2 ^ e` with natural `m` and integer `e`; `Exact.parts` reads both off its
bits.  On top of this stands rounding to a whole number with halves away from zero, exact for every
double.
-/

namespace ShaderPreview

namespace Exact

/-- A double has its sign bit set. -/
def isNegative (x : Float) : Bool := x.toBits >>> 63 == 1

/-- The natural `m` and the integer `e` with `|x| = m · 2 ^ e`, for a finite `x`. -/
def parts (x : Float) : Nat × Int :=
  BinaryFormat.double.parts (x.toBits.toNat % wordCount 63)

/-- The double with the magnitude of `x` and the given sign. -/
def withSign (negative : Bool) (x : Float) : Float := if negative then -x.abs else x.abs

/-- The whole number nearest to `m · 2 ^ e`, halves upwards. -/
def nearestWhole (m : Nat) (e : Int) : Nat :=
  if 0 ≤ e then m * Nat.pow 2 e.toNat else (2 * m / Nat.pow 2 (-e).toNat + 1) / 2

/-- The nearest whole number, halves away from zero; the sign stays, also that of zero. -/
def roundHalfAway (x : Float) : Float :=
  if x.abs < 4503599627370496.0 then
    let (m, e) := parts x
    withSign (isNegative x) (Float.ofNat (nearestWhole m e))
  else x

/-- Two places behind the point, halves away from zero. -/
def toHundredths (x : Float) : Float := roundHalfAway (x * 100.0) / 100.0

end Exact

end ShaderPreview
