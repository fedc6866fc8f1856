import ShaderPreview.Number.Shortest

/-!
# Numerals

A numeral is a whole text that stands for a number: an integer is a sign, if any, and digits; a
double has, in addition, places behind a point, an exponent, and the names of infinity and of what
is no number.
-/

namespace ShaderPreview

namespace Numeral

/-- The sign in front of a numeral, and what follows it; the flag is set by a minus. -/
def sign : List Char → Bool × List Char
  | '+' :: s => (false, s)
  | '-' :: s => (true, s)
  | s => (false, s)

/-- The number that digits stand for. -/
def ofDigits (ds : List Char) : Nat := ds.foldl (fun n c => n * 10 + (c.toNat - 48)) 0

/-- The number that the text stands for, if it is digits and nothing else. -/
def natural? (s : List Char) : Option Nat :=
  if s.isEmpty || !s.all Char.isDigit then none else some (ofDigits s)

/-- The number with the given sign. -/
def signed (negative : Bool) (n : Nat) : Int := if negative then -(n : Int) else n

/-- The integer that a text stands for. -/
def integer? (s : List Char) : Option Int :=
  (natural? (sign s).2).map (signed (sign s).1)

/-- The exponent that the rest of a numeral stands for. -/
def exponent? : List Char → Option Int
  | [] => some 0
  | c :: s => if c = 'e' ∨ c = 'E' then integer? s else none

/-- The digits in front of the point, those behind it, and the rest. -/
def mantissa (s : List Char) : List Char × List Char × List Char :=
  let whole := s.takeWhile Char.isDigit
  match s.dropWhile Char.isDigit with
  | '.' :: s => (whole, s.takeWhile Char.isDigit, s.dropWhile Char.isDigit)
  | s => (whole, [], s)

/-- The double that digits with a point and an exponent stand for; one side of the point may be
empty. -/
def decimal? (s : List Char) : Option Float :=
  match mantissa s with
  | ([], [], _) => none
  | (whole, places, rest) =>
    (exponent? rest).map fun e => Decimal.toFloat (ofDigits (whole ++ places)) (e - places.length)

/-- The double that a name stands for, in any case. -/
def special? (s : List Char) : Option Float :=
  let name := s.map Char.toLower
  if name = "inf".toList ∨ name = "infinity".toList then some (1.0 / 0.0)
  else if name = "nan".toList then some (0.0 / 0.0)
  else none

/-- The double that a text stands for. -/
def double? (s : List Char) : Option Float :=
  ((special? (sign s).2).or (decimal? (sign s).2)).map fun x => if (sign s).1 then -x else x

end Numeral

end ShaderPreview
