import ShaderPreview.Number.Word

/-!
# Doubles by their bits

Samples are kept by their bits, so that the NaNs stay apart.  The total order of doubles puts
negative NaNs first, then the numbers with `-0` before `+0`, then positive NaNs.
-/

namespace ShaderPreview

/-- A double, given by its bits. -/
structure Double where
  bits : UInt64
  deriving DecidableEq, Repr

namespace Double

/-- The double of a value. -/
def ofFloat (x : Float) : Double := ⟨x.toBits⟩

/-- The value of a double; all NaNs have the same. -/
def value (d : Double) : Float := Float.ofBits d.bits

/-- The place of a double in the total order. -/
def totalKey (d : Double) : Int :=
  if d.bits.toNat < wordCount 63 then (d.bits.toNat : Int)
  else (wordCount 63 : Int) - 1 - (d.bits.toNat : Int)

/-- Whether `d` stands before or with `d'` in the total order. -/
def totalLE (d d' : Double) : Bool := d.totalKey ≤ d'.totalKey

/-- The smaller of two numbers; a NaN gives way to a number, and of equals the first is taken. -/
def minNum (x y : Float) : Float := if x.isNaN then y else if y < x then y else x

/-- The larger of two numbers; a NaN gives way to a number, and of equals the first is taken. -/
def maxNum (x y : Float) : Float := if x.isNaN then y else if y > x then y else x

/-- The sum, added from the front. -/
def sum (ds : List Double) : Float := ds.foldl (fun s d => s + d.value) (-0.0)

end Double

end ShaderPreview
