/-!
# Rounding quotients

A quotient is rounded to the nearest whole number, a tie to the even neighbour.
-/

namespace ShaderPreview

namespace Rounding

/-- The whole number nearest to `n / d`, ties to the even neighbour. -/
def nearestEven (n d : Nat) : Nat :=
  let q := n / d
  let r := n % d
  if 2 * r < d ∨ (2 * r = d ∧ q % 2 = 0) then q else q + 1

end Rounding

end ShaderPreview
