import ShaderPreview.Text.Blank
import ShaderPreview.Text.Bytes

/-!
# Pieces of a shader text

A shader text is cut, without gaps, into *pieces*: single blanks, line comments, block comments and
tokens.  Only as much of the shading language is told apart as is needed to find the entry point:
words, numbers, quoted strings and single marks.

`Piece.next?` cuts off the first piece, `pieces` the whole text.  The pieces of a text, put
together, are the text (`text_pieces`), and none is empty (`text_ne_nil_of_mem_pieces`).
-/

namespace ShaderPreview

namespace Shader

/-- The kind of a token. -/
inductive TokenKind where
  | word
  | number
  | mark (c : Char)
  | quoted
  deriving DecidableEq, Repr

/-- The kind of a piece.  A block comment without an end reaches to the end of the text. -/
inductive PieceKind where
  | blank
  | lineComment
  | blockComment (closed : Bool)
  | token (kind : TokenKind)
  deriving DecidableEq, Repr

/-- A part of a shader text. -/
structure Piece where
  kind : PieceKind
  text : List Char
  deriving DecidableEq, Repr

/-- A character that can start a word: an ASCII letter or an underscore. -/
def isWordStart (c : Char) : Bool := c.isAlpha || c == '_'

/-- A character of a word: an ASCII letter, a digit or an underscore. -/
def isWordChar (c : Char) : Bool := c.isAlphanum || c == '_'

/-- A character that opens and closes a quoted string. -/
def isQuote (c : Char) : Bool := c == '\x22' || c == '\x27'

/-! ## Cutting -/

/-- Cuts behind the first line feed, or at the end. -/
def cutLine : List Char → List Char × List Char
  | [] => ([], [])
  | c :: s =>
    if c = '\n' then ([c], s)
    else
      let (l, r) := cutLine s
      (c :: l, r)

/-- Cuts behind the first comment end, and says whether there is one. -/
def cutComment : List Char → List Char × Bool × List Char
  | [] => ([], false, [])
  | '*' :: '/' :: s => (['*', '/'], true, s)
  | c :: s =>
    let (l, closed, r) := cutComment s
    (c :: l, closed, r)

/-- Cuts behind the closing quote `q`, or at the end.  A backslash takes the character behind it
with it. -/
def cutQuoted (q : Char) : List Char → List Char × List Char
  | [] => ([], [])
  | '\\' :: c :: s =>
    let (l, r) := cutQuoted q s
    ('\\' :: c :: l, r)
  | c :: s =>
    if c = q then ([c], s)
    else
      let (l, r) := cutQuoted q s
      (c :: l, r)

/-- Cuts behind the longest run of word characters. -/
def cutWord (s : List Char) : List Char × List Char :=
  (s.takeWhile isWordChar, s.dropWhile isWordChar)

/-- Whether `c` continues a number after `previous`: a letter, a digit, a point, or the sign of an
exponent, which a number with the hexadecimal mark `0x` does not have. -/
def continuesNumber (hex : Bool) (previous c : Char) : Bool :=
  c.isAlphanum || c == '.' ||
    ((c == '+' || c == '-') && (previous == 'e' || previous == 'E') && !hex)

/-- Cuts behind the longest continuation of a number whose last character is `previous`. -/
def cutNumber (hex : Bool) (previous : Char) : List Char → List Char × List Char
  | [] => ([], [])
  | c :: s =>
    if continuesNumber hex previous c then
      let (l, r) := cutNumber hex c s
      (c :: l, r)
    else ([], c :: s)

/-- Whether a number that starts with `c` and goes on with `s` has the hexadecimal mark. -/
def isHexadecimal (c : Char) (s : List Char) : Bool := c == '0' && s.head? == some 'x'

/-- Cuts off the first piece of a text. -/
def Piece.next? : List Char → Option (Piece × List Char)
  | [] => none
  | '/' :: '/' :: s =>
    let (l, r) := cutLine s
    some (⟨.lineComment, '/' :: '/' :: l⟩, r)
  | '/' :: '*' :: s =>
    let (l, closed, r) := cutComment s
    some (⟨.blockComment closed, '/' :: '*' :: l⟩, r)
  | c :: s =>
    if Text.isAsciiBlank c then some (⟨.blank, [c]⟩, s)
    else if isQuote c then
      let (l, r) := cutQuoted c s
      some (⟨.token .quoted, c :: l⟩, r)
    else if isWordStart c then
      let (l, r) := cutWord s
      some (⟨.token .word, c :: l⟩, r)
    else if c.isDigit then
      let (l, r) := cutNumber (isHexadecimal c s) c s
      some (⟨.token .number, c :: l⟩, r)
    else some (⟨.token (.mark c), [c]⟩, s)

theorem cutLine_append (s : List Char) : (cutLine s).1 ++ (cutLine s).2 = s := by
  induction s with
  | nil => rfl
  | cons c s ih => by_cases h : c = '\n' <;> simp [cutLine, h, ih]

theorem cutComment_append (s : List Char) : (cutComment s).1 ++ (cutComment s).2.2 = s := by
  fun_induction cutComment s <;> simp_all

theorem cutQuoted_append (q : Char) (s : List Char) :
    (cutQuoted q s).1 ++ (cutQuoted q s).2 = s := by
  fun_induction cutQuoted q s <;> simp_all

theorem cutWord_append (s : List Char) : (cutWord s).1 ++ (cutWord s).2 = s := by
  simp [cutWord]

theorem cutNumber_append (hex : Bool) (previous : Char) (s : List Char) :
    (cutNumber hex previous s).1 ++ (cutNumber hex previous s).2 = s := by
  fun_induction cutNumber hex previous s <;> simp_all

/-- The first piece and the rest are the text. -/
theorem Piece.next?_append {s r : List Char} {p : Piece} (h : Piece.next? s = some (p, r)) :
    p.text ++ r = s := by
  revert h
  fun_cases Piece.next? s <;> simp only [reduceCtorEq, Option.some.injEq, Prod.mk.injEq,
    false_imp_iff, and_imp] <;> rintro rfl rfl
  · rename_i s l r h
    simpa [h] using cutLine_append s
  · rename_i s l closed r h
    simpa [h] using cutComment_append s
  · rfl
  · rename_i c s _ _ _ _ l r h
    simpa [h] using cutQuoted_append c s
  · rename_i c s _ _ _ _ _ l r h
    simpa [h] using cutWord_append s
  · rename_i c s _ _ _ _ _ _ l r h
    simpa [h] using cutNumber_append (isHexadecimal c s) c s
  · rfl

theorem Piece.next?_text_ne_nil {s r : List Char} {p : Piece} (h : Piece.next? s = some (p, r)) :
    p.text ≠ [] := by
  revert h
  fun_cases Piece.next? s <;> simp only [reduceCtorEq, Option.some.injEq, Prod.mk.injEq,
    false_imp_iff, and_imp] <;> rintro rfl rfl <;> simp

/-- Every text but the empty one has a first piece. -/
theorem Piece.eq_nil_of_next? {s : List Char} (h : Piece.next? s = none) : s = [] := by
  revert h
  fun_cases Piece.next? s <;> simp

theorem Piece.next?_length_lt {s r : List Char} {p : Piece} (h : Piece.next? s = some (p, r)) :
    r.length < s.length := by
  have ha := congrArg List.length (Piece.next?_append h)
  have hp := List.length_pos_iff.2 (Piece.next?_text_ne_nil h)
  rw [List.length_append] at ha
  omega

/-- The pieces of a text, in order. -/
def pieces (s : List Char) : List Piece :=
  match _h : Piece.next? s with
  | none => []
  | some (p, r) => p :: pieces r
termination_by s.length
decreasing_by exact Piece.next?_length_lt _h

theorem pieces_nil : pieces [] = [] := by
  rw [pieces]; rfl

theorem pieces_eq_cons {s r : List Char} {p : Piece} (h : Piece.next? s = some (p, r)) :
    pieces s = p :: pieces r := by
  rw [pieces]
  split
  · simp_all
  · simp_all

/-- Nothing of a text is lost when it is cut into pieces. -/
theorem text_pieces (s : List Char) : (pieces s).flatMap Piece.text = s := by
  fun_induction pieces s with
  | case1 s h =>
    rw [Piece.eq_nil_of_next? h]
    rfl
  | case2 s p r h ih => simpa [ih] using Piece.next?_append h

theorem text_ne_nil_of_mem_pieces {s : List Char} {p : Piece} (h : p ∈ pieces s) : p.text ≠ [] := by
  fun_induction pieces s with
  | case1 => cases h
  | case2 s q r hnext ih =>
    rcases List.mem_cons.1 h with rfl | h
    · exact Piece.next?_text_ne_nil hnext
    · exact ih h

end Shader

end ShaderPreview
