import ShaderPreview.Text.Glyph

/-!
# Quoted texts

A quoted text stands between double quotes.  A quote and a backslash follow a backslash, four
controls have a letter of their own, and characters without a glyph are shown by their code point
in braces.
-/

namespace ShaderPreview

namespace Text

/-- A character as it is shown in a quoted text. -/
def quotedChar (c : Char) : List Char :=
  if c = '\x22' ∨ c = '\\' then ['\\', c]
  else if c = '\x00' then ['\\', '0']
  else if c = '\t' then ['\\', 't']
  else if c = '\n' then ['\\', 'n']
  else if c = '\r' then ['\\', 'r']
  else if isGlyphless c then ['\\', 'u', '{'] ++ Nat.toDigits 16 c.toNat ++ ['}']
  else [c]

/-- The text between double quotes. -/
def quoted (s : List Char) : List Char := ['\x22'] ++ s.flatMap quotedChar ++ ['\x22']

end Text

end ShaderPreview
