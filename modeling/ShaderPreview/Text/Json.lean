import ShaderPreview.Text.Lines

/-!
# JSON texts

The written form of a JSON value has one item or field a line, each level two blanks further in.
Only quotes, backslashes and controls are escaped.
-/

namespace ShaderPreview

namespace Text

/-- A JSON value made of texts. -/
inductive Json where
  | text (s : List Char)
  | list (items : List Json)
  | record (fields : List (String × Json))

namespace Json

/-- The letter that stands for a control behind a backslash. -/
def controlLetter? (c : Char) : Option Char :=
  if c = '\x08' then some 'b'
  else if c = '\t' then some 't'
  else if c = '\n' then some 'n'
  else if c = '\x0c' then some 'f'
  else if c = '\r' then some 'r'
  else none

/-- A number below 256 as two hexadecimal digits. -/
def hexPair (n : Nat) : List Char := [Nat.digitChar (n / 16), Nat.digitChar (n % 16)]

/-- A character as it is written in a text. -/
def escaped (c : Char) : List Char :=
  if c = '\x22' ∨ c = '\\' then ['\\', c]
  else if c.toNat < 0x20 then
    match controlLetter? c with
    | some l => ['\\', l]
    | none => "\\u00".toList ++ hexPair c.toNat
  else [c]

/-- A text as it is written. -/
def quoted (s : List Char) : List Char := ['\x22'] ++ s.flatMap escaped ++ ['\x22']

/-- The start of a line of the given level. -/
def indent (level : Nat) : List Char := List.replicate (2 * level) ' '

/-- The written parts of a value of the given level, one a line, between brackets. -/
def bracketed (level : Nat) (opening closing : Char) (parts : List (List Char)) : List Char :=
  if parts.isEmpty then [opening, closing]
  else
    [opening, '\n'] ++ join [',', '\n'] (parts.map (indent (level + 1) ++ ·)) ++
      ['\n'] ++ indent level ++ [closing]

mutual

/-- A value of the given level, as it is written. -/
def write (level : Nat) : Json → List Char
  | text s => quoted s
  | list js => bracketed level '[' ']' (writeItems (level + 1) js)
  | record fs => bracketed level '{' '}' (writeFields (level + 1) fs)

/-- The items of a list, as they are written. -/
def writeItems (level : Nat) : List Json → List (List Char)
  | [] => []
  | j :: js => write level j :: writeItems level js

/-- The fields of a record, as they are written. -/
def writeFields (level : Nat) : List (String × Json) → List (List Char)
  | [] => []
  | (name, j) :: fs =>
    (quoted name.toList ++ [':', ' '] ++ write level j) :: writeFields level fs

end

/-- The written form of a value. -/
def toText (j : Json) : List Char := j.write 0

end Json

end Text

end ShaderPreview
