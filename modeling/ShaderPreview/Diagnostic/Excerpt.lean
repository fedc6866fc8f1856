import ShaderPreview.Number.Decimal
import ShaderPreview.Text.Lines

/-!
# Excerpts

An excerpt shows a line of a text between its neighbours, two on either side.  Each row has a
marker, the line number, a bar and the line itself; the numbers are aligned on the right.
-/

namespace ShaderPreview

namespace Excerpt

/-- The number of lines shown on either side. -/
def context : Nat := 2

/-- The first line shown around `line`. -/
def first (line : Nat) : Nat := max (line - context) 1

/-- The last line shown around `line`, of `count` lines. -/
def last (line count : Nat) : Nat := min (line + context) count

/-- One row: the line number in `width` places, marked if it is the number shown. -/
def row (line width number : Nat) (text : List Char) : List Char :=
  (if number = line then "->" else "  ").toList ++ [' '] ++
    Decimal.padLeft width ' ' (Decimal.ofNat number) ++ " | ".toList ++ text

/-- The rows around `line`. -/
def rows (lines : List (List Char)) (line : Nat) : List (List Char) :=
  let low := first line
  let high := last line lines.length
  let width := (Decimal.ofNat high).length
  ((lines.drop (low - 1)).take (high + 1 - low)).zipIdx low |>.map fun (text, number) =>
    row line width number text

/-- The excerpt around a line of a source, if there is such a line. -/
def ofSource? (source : List Char) (line : Nat) : Option (List Char) :=
  let lines := Text.lines source
  if line = 0 ∨ lines.length < line then none else some (Text.join ['\n'] (rows lines line))

end Excerpt

end ShaderPreview
