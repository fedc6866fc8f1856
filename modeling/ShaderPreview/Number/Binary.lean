import ShaderPreview.Number.Rounding
import ShaderPreview.Number.Word

/-!
# Binary floating point formats

A format keeps the leading binary digit of a number and a fixed number of places behind it; below
some size the places are given up one after the other.  A positive number is `m · 2 ^ e`, and its
bits, read as a natural number, grow with it: one past the largest finite number they stand for
infinity.  `BinaryFormat.nearest` rounds a quotient into a format.
-/

namespace ShaderPreview

/-- A binary floating point format. -/
structure BinaryFormat where
  /-- The binary places behind the leading digit. -/
  places : Nat
  /-- The exponent of the finest place of all. -/
  lowest : Int
  /-- The bits of infinity. -/
  infinity : Nat

namespace BinaryFormat

/-- The format of doubles. -/
def double : BinaryFormat := ⟨52, -1074, 2047 * wordCount 52⟩

/-- The format of singles. -/
def single : BinaryFormat := ⟨23, -149, 255 * wordCount 23⟩

/-- The natural `m` and the integer `e` with the value `m · 2 ^ e`, for the bits of a finite number
without its sign. -/
def parts (f : BinaryFormat) (bits : Nat) : Nat × Int :=
  let exponent := bits / wordCount f.places
  let fraction := bits % wordCount f.places
  if exponent = 0 then (fraction, f.lowest)
  else (fraction + wordCount f.places, (exponent : Int) - 1 + f.lowest)

/-- The exponent of the last place that is kept of `n / d`. -/
def lastPlace (f : BinaryFormat) (n d : Nat) : Int :=
  let leading : Int := (n.log2 : Int) - (d.log2 : Int)
  let isBelow : Bool := n * Nat.pow 2 (-leading).toNat < d * Nat.pow 2 leading.toNat
  max f.lowest ((if isBelow then leading - 1 else leading) - f.places)

/-- The bits of the number nearest to `n / d`, ties to the even neighbour. -/
def nearest (f : BinaryFormat) (n d : Nat) : Nat :=
  if n = 0 then 0
  else
    let e := f.lastPlace n d
    let m := Rounding.nearestEven (n * Nat.pow 2 (-e).toNat) (d * Nat.pow 2 e.toNat)
    min f.infinity ((e - f.lowest).toNat * wordCount f.places + m)

end BinaryFormat

end ShaderPreview
