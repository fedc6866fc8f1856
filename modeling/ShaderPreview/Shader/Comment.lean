import ShaderPreview.Shader.Piece

/-!
# Block comments across lines

`commentOpenAfter` follows block comments from line to line, without cutting a line into tokens.
Inside a line the reader is in one of three modes; a quoted string that is not closed ends with its
line.
-/

namespace ShaderPreview

namespace Shader

/-- Where a reader stands inside a line. -/
inductive LineMode where
  | code
  | comment
  | quoted (quote : Char)
  deriving DecidableEq, Repr

/-- Whether a block comment is open at the end of a line that is read from the given mode. -/
def LineMode.endsInComment : LineMode → List Char → Bool
  | .comment, [] => true
  | .comment, '*' :: '/' :: s => endsInComment .code s
  | .comment, _ :: s => endsInComment .comment s
  | .code, [] => false
  | .code, '/' :: '/' :: _ => false
  | .code, '/' :: '*' :: s => endsInComment .comment s
  | .code, c :: s => if isQuote c then endsInComment (.quoted c) s else endsInComment .code s
  | .quoted _, [] => false
  | .quoted q, '\\' :: _ :: s => endsInComment (.quoted q) s
  | .quoted q, c :: s => if c = q then endsInComment .code s else endsInComment (.quoted q) s

/-- Whether a block comment is open at the end of `line`, given whether one was open at its
start. -/
def commentOpenAfter (line : List Char) (isOpen : Bool) : Bool :=
  (if isOpen then LineMode.comment else LineMode.code).endsInComment line

/-- Whether a block comment is open at the end of each line in turn. -/
def commentOpenAfterEach (isOpen : Bool) : List (List Char) → List Bool
  | [] => []
  | l :: ls =>
    let after := commentOpenAfter l isOpen
    after :: commentOpenAfterEach after ls

end Shader

end ShaderPreview
