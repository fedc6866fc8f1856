import ShaderPreview.Text.Bytes

/-!
# Lexemes of a program

The compiler's reader cuts a program into words, numbers, marks and line ends, each with its byte
offset.  Comments count as blanks, and a backslash before a line end joins two lines.
-/

namespace ShaderPreview

namespace Glsl

/-- The kind of a lexeme. -/
inductive LexemeKind where
  | word
  | number
  | mark
  | lineEnd
  /-- A character that no program holds. -/
  | stray
  deriving DecidableEq, Repr

/-- A smallest part of a program. -/
structure Lexeme where
  kind : LexemeKind
  text : List Char
  /-- The byte offset of the first character. -/
  offset : Nat
  /-- A blank stands before it. -/
  spaced : Bool
  deriving DecidableEq, Repr

/-- The lexeme is the given mark. -/
def Lexeme.isMark (l : Lexeme) (s : String) : Bool := l.kind == .mark && l.text == s.toList

/-- The lexeme is the given word. -/
def Lexeme.isWord (l : Lexeme) (s : String) : Bool := l.kind == .word && l.text == s.toList

/-- Marks of three and two characters; every longer mark stands before its beginnings. -/
def longMarks : List (List Char) :=
  ["<<=".toList, ">>=".toList, "++".toList, "--".toList, "<=".toList, ">=".toList, "==".toList,
    "!=".toList, "&&".toList, "||".toList, "^^".toList, "<<".toList, ">>".toList, "+=".toList,
    "-=".toList, "*=".toList, "/=".toList, "%=".toList, "&=".toList, "|=".toList, "^=".toList]

/-- Marks of one character. -/
def shortMarks : List Char := "()[]\x7b\x7d.,:;=!-~+*/%<>|^&?#".toList

/-- A character of a word. -/
def isWordChar (c : Char) : Bool := c.isAlphanum || c == '_'

/-- Drops a line comment up to its line end. -/
def dropLineComment (s : List Char) : List Char := s.dropWhile (· != '\n')

/-- Drops a block comment through its end. -/
def dropBlockComment : List Char → List Char
  | '*' :: '/' :: s => s
  | _ :: s => dropBlockComment s
  | [] => []

/-- Cuts behind a number: letters, digits, points, and the sign of an exponent. -/
def cutNumber (hex : Bool) (previous : Char) : List Char → List Char × List Char
  | [] => ([], [])
  | c :: s =>
    if isWordChar c || c == '.' ||
        ((c == '+' || c == '-') && (previous == 'e' || previous == 'E') && !hex) then
      let (l, r) := cutNumber hex c s
      (c :: l, r)
    else ([], c :: s)

/-- Cuts off a mark, if there is one. -/
def cutMark (s : List Char) : Option (List Char × List Char) :=
  match longMarks.find? (·.isPrefixOf s) with
  | some m => some (m, s.drop m.length)
  | none =>
    match s with
    | c :: r => if shortMarks.contains c then some ([c], r) else none
    | [] => none

/-- The lexemes of the text at a byte offset; the fuel is at least its length. -/
def lexemesFrom : Nat → Nat → Bool → List Char → List Lexeme
  | 0, _, _, _ => []
  | fuel + 1, offset, spaced, s =>
    let emit (kind : LexemeKind) (text rest : List Char) : List Lexeme :=
      ⟨kind, text, offset, spaced⟩ ::
        lexemesFrom fuel (offset + Text.byteLength text) (kind == .lineEnd) rest
    let skip (rest : List Char) : List Lexeme :=
      lexemesFrom fuel (offset + Text.byteLength s - Text.byteLength rest) true rest
    match s with
    | [] => []
    | '\\' :: '\n' :: r => skip r
    | '\\' :: '\r' :: '\n' :: r => skip r
    | '\r' :: '\n' :: r => emit .lineEnd ['\r', '\n'] r
    | '/' :: '/' :: r => skip (dropLineComment r)
    | '/' :: '*' :: r => skip (dropBlockComment r)
    | c :: r =>
      if c = '\n' ∨ c = '\r' then emit .lineEnd [c] r
      else if c = ' ' ∨ c = '\t' ∨ c = '\x0b' ∨ c = '\x0c' then skip r
      else if c.isAlpha || c == '_' then
        emit .word (c :: r.takeWhile isWordChar) (r.dropWhile isWordChar)
      else if c.isDigit || (c == '.' && (r.head?.map Char.isDigit).getD false) then
        let (l, rest) := cutNumber (c == '0' && (r.head? == some 'x' || r.head? == some 'X')) c r
        emit .number (c :: l) rest
      else
        match cutMark (c :: r) with
        | some (m, rest) => emit .mark m rest
        | none => emit .stray [c] r

/-- The lexemes of a program. -/
def lexemes (s : List Char) : List Lexeme := lexemesFrom (s.length + 1) 0 false s

/-- The line and the column, in bytes and from one, of a byte offset. -/
def placeOf (source : List Char) (offset : Nat) : Nat × Nat :=
  let before := (Text.splitAtByte offset source).1
  (before.count '\n' + 1, Text.byteLength (before.reverse.takeWhile (· != '\n')) + 1)

end Glsl

end ShaderPreview
