import ShaderPreview.Shader.Token

/-!
# Standard uniforms

Six inputs are declared for every shader: size, time, time step, frame number, pointer and date.
`UniformSet` is a set of them, `UniformSet.ofSource` the set of those that a text names, and
`redeclarationEnd?` finds a declaration of one of them at the start of a line.
-/

namespace ShaderPreview

namespace Shader

/-- An input that every shader can read. -/
inductive Uniform where
  | resolution
  | time
  | timeDelta
  | frame
  | mouse
  | date
  deriving DecidableEq, Repr

namespace Uniform

/-- All standard uniforms, in the order in which they are listed. -/
def all : List Uniform := [resolution, time, timeDelta, frame, mouse, date]

/-- The name by which a shader reads the input. -/
def name : Uniform → String
  | resolution => "iResolution"
  | time => "iTime"
  | timeDelta => "iTimeDelta"
  | frame => "iFrame"
  | mouse => "iMouse"
  | date => "iDate"

/-- The uniform of a name. -/
def ofName? (s : List Char) : Option Uniform := all.find? fun u => u.name.toList = s

end Uniform

/-- A set of standard uniforms. -/
structure UniformSet where
  contains : Uniform → Bool

namespace UniformSet

/-- The empty set. -/
def empty : UniformSet := ⟨fun _ => false⟩

/-- The set of all standard uniforms. -/
def univ : UniformSet := ⟨fun _ => true⟩

/-- Adds one uniform. -/
def insert (s : UniformSet) (u : Uniform) : UniformSet := ⟨fun v => v = u || s.contains v⟩

/-- The uniforms of a list. -/
def ofList (us : List Uniform) : UniformSet := ⟨fun v => us.contains v⟩

/-- The uniforms in one of two sets. -/
def union (s t : UniformSet) : UniformSet := ⟨fun v => s.contains v || t.contains v⟩

/-- The uniforms of the set, in the common order. -/
def toList (s : UniformSet) : List Uniform := Uniform.all.filter s.contains

instance : BEq UniformSet := ⟨fun s t => Uniform.all.all fun u => s.contains u == t.contains u⟩

instance : Inhabited UniformSet := ⟨empty⟩

theorem contains_insert (s : UniformSet) (u v : Uniform) :
    (s.insert u).contains v = (decide (v = u) || s.contains v) := rfl

/-- The names of the uniforms of the set, in the common order. -/
def names (s : UniformSet) : List String := s.toList.map Uniform.name

/-- The standard uniforms that a text names outside comments and quoted strings. -/
def ofSource (source : List Char) : UniformSet :=
  ofList <| (tokens source).filterMap fun t =>
    if t.kind = .word then Uniform.ofName? t.text else none

end UniformSet

/-- Looks for the `;` of a declaration among the tokens behind `uniform`; the answer is the end of
that `;` if a standard uniform is named before it and no brace is. -/
def declarationEnd? (named : Bool) : List Token → Option Nat
  | [] => none
  | t :: ts =>
    match t.kind with
    | .mark ';' => if named then some t.stop else none
    | .mark '{' => none
    | .mark '}' => none
    | .word => declarationEnd? (named || (Uniform.ofName? t.text).isSome) ts
    | _ => declarationEnd? named ts

/-- The length in bytes of a declaration at the start of `line` that declares a standard uniform
again, through its `;`. -/
def redeclarationEnd? (line : List Char) : Option Nat :=
  match tokens line with
  | t :: ts => if t.isWord "uniform".toList then declarationEnd? false ts else none
  | [] => none

end Shader

end ShaderPreview
