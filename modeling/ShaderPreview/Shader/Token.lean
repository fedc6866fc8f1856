import ShaderPreview.Shader.Piece

/-!
# Tokens of a shader text

The tokens of a text are its pieces that are neither blanks nor comments, each with the byte offset
of its first character.
-/

namespace ShaderPreview

namespace Shader

/-- A token and where it stands. -/
structure Token where
  kind : TokenKind
  text : List Char
  /-- The byte offset of the first character in the scanned text. -/
  start : Nat
  deriving DecidableEq, Repr

namespace Token

/-- The byte offset behind the last character. -/
def stop (t : Token) : Nat := t.start + Text.byteLength t.text

/-- The token is the given word. -/
def isWord (t : Token) (w : List Char) : Bool := t.kind == .word && t.text == w

/-- The token is the given mark. -/
def isMark (t : Token) (c : Char) : Bool := t.kind == .mark c

end Token

/-- The tokens among pieces of which the first starts at byte `start`. -/
def tokensFrom (start : Nat) : List Piece → List Token
  | [] => []
  | p :: ps =>
    let rest := tokensFrom (start + Text.byteLength p.text) ps
    match p.kind with
    | .token k => ⟨k, p.text, start⟩ :: rest
    | _ => rest

/-- The tokens of a text, in order. -/
def tokens (s : List Char) : List Token := tokensFrom 0 (pieces s)

end Shader

end ShaderPreview
