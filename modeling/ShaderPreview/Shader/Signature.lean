import ShaderPreview.Shader.Token

/-!
# The signature of the entry point

A signature is `void mainImage(out vec4 color, in vec2 coord)`.  Parameters are recognised by
qualifiers and type alone; their names are the author's choice.
-/

namespace ShaderPreview

namespace Shader

/-- The name of the function every shader defines. -/
def entryPointName : String := "mainImage"

/-- The qualifiers a parameter can have, in any number and order. -/
def qualifiers : List (List Char) :=
  ["in".toList, "out".toList, "inout".toList, "const".toList, "highp".toList, "mediump".toList,
    "lowp".toList]

/-- The token is a parameter qualifier. -/
def Token.isQualifier (t : Token) : Bool := t.kind == .word && qualifiers.contains t.text

/-- The token is a qualifier of a parameter that the function writes. -/
def Token.isWritingQualifier (t : Token) : Bool := t.isWord "out".toList || t.isWord "inout".toList

/-- Reads a parameter of type `type`, which has a writing qualifier iff `writes`; the answer is its
name and the tokens behind it. -/
def parameter? (type : List Char) (writes : Bool) (ts : List Token) :
    Option (List Char × List Token) :=
  if (ts.takeWhile Token.isQualifier).any Token.isWritingQualifier = writes then
    match ts.dropWhile Token.isQualifier with
    | t :: n :: rest =>
      if t.isWord type ∧ n.kind = .word ∧ ¬ n.isQualifier then some (n.text, rest) else none
    | _ => none
  else none

/-- The names that an entry point gives its parameters. -/
structure Signature where
  colorName : List Char
  coordName : List Char
  deriving DecidableEq, Repr

/-- Reads a mark. -/
def mark? (c : Char) : List Token → Option (List Token)
  | t :: ts => if t.isMark c then some ts else none
  | [] => none

/-- Reads a word. -/
def word? (w : List Char) : List Token → Option (List Token)
  | t :: ts => if t.isWord w then some ts else none
  | [] => none

/-- Reads a signature from the front of a list of tokens; the answer holds the tokens behind its
closing parenthesis. -/
def Signature.read? (ts : List Token) : Option (Signature × List Token) := do
  let ts ← word? "void".toList ts
  let ts ← word? entryPointName.toList ts
  let ts ← mark? '(' ts
  let (color, ts) ← parameter? "vec4".toList true ts
  let ts ← mark? ',' ts
  let (coord, ts) ← parameter? "vec2".toList false ts
  let ts ← mark? ')' ts
  return (⟨color, coord⟩, ts)

end Shader

end ShaderPreview
