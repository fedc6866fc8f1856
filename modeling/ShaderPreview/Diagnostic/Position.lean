import ShaderPreview.Number.Word
import ShaderPreview.Text.Blank

/-!
# Positions in messages

A message about a text may name a position as `line:column`.  `Position.find?` finds the first such
pair of numbers.  A number that does not fit a machine word ends the search without an answer.
-/

namespace ShaderPreview

namespace Position

/-- Numbers from here on do not fit a machine word. -/
def wordLimit : Nat := wordCount 64

/-- The number that digits denote. -/
def number (digits : List Char) : Nat := digits.foldl (fun n c => n * 10 + (c.toNat - 48)) 0

/-- The number that digits denote, if it fits a machine word. -/
def word? (digits : List Char) : Option Nat :=
  if number digits < wordLimit then some (number digits) else none

/-- Reads a colon and a digit, and cuts behind the digits. -/
def column? : List Char → Option (List Char × List Char)
  | ':' :: c :: s =>
    if c.isDigit then some (c :: s.takeWhile Char.isDigit, s.dropWhile Char.isDigit) else none
  | _ => none

/-- The first position in a message, and the text behind it without leading colons. -/
def find? : List Char → Option (Nat × Nat × List Char)
  | [] => none
  | c :: s =>
    if c.isDigit then
      match column? (s.dropWhile Char.isDigit) with
      | some (column, rest) => do
        let line ← word? (c :: s.takeWhile Char.isDigit)
        let column ← word? column
        return (line, column, rest.dropWhile (· == ':'))
      | none => find? (s.dropWhile Char.isDigit)
    else find? s
termination_by s => s.length
decreasing_by
  · have := (List.dropWhile_suffix (l := s) Char.isDigit).length_le
    simp only [List.length_cons]
    omega
  · simp

end Position

end ShaderPreview
