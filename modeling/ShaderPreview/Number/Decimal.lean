import ShaderPreview.Number.Span

/-!
# Decimal texts

Natural numbers, and doubles with a fixed number of places behind the point, as decimal texts.  A
double is rounded from its exact value, ties to the even neighbour.
-/

namespace ShaderPreview

namespace Decimal

/-- The text of a natural number. -/
def ofNat (n : Nat) : List Char := Nat.toDigits 10 n

/-- The text, with `fill` in front up to the given width. -/
def padLeft (width : Nat) (fill : Char) (s : List Char) : List Char :=
  List.replicate (width - s.length) fill ++ s

/-- `m · 2 ^ e · 10 ^ places`, to the nearest whole number. -/
def scaled (m : Nat) (e : Int) (places : Nat) : Nat :=
  if 0 ≤ e then m * Nat.pow 10 places * Nat.pow 2 e.toNat
  else Rounding.nearestEven (m * Nat.pow 10 places) (Nat.pow 2 (-e).toNat)

/-- The double with `places` digits behind the point. -/
def fixed (places : Nat) (x : Float) : List Char :=
  if x.isNaN then "NaN".toList
  else
    let sign := if Exact.isNegative x then ['-'] else []
    if x.isInf then sign ++ "inf".toList
    else
      let (m, e) := Exact.parts x
      let n := scaled m e places
      let whole := ofNat (n / Nat.pow 10 places)
      if places = 0 then sign ++ whole
      else sign ++ whole ++ ['.'] ++ padLeft places '0' (ofNat (n % Nat.pow 10 places))

end Decimal

end ShaderPreview
