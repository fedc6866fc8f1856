import ShaderPreview.Glsl.Typing

/-!
# Reading declarations

Types, qualifiers, variables with their initial values, records, uniform blocks and the heads of
functions.  A declaration inside a function body may not repeat a name of its block; the
declarations of a program may.
-/

namespace ShaderPreview

namespace Glsl

namespace Check

/-- Words that may stand in front of the type of a declaration. -/
def qualifierWords : List String :=
  ["invariant", "flat", "noperspective", "smooth", "centroid", "sample", "highp", "mediump", "lowp",
    "const", "in", "out", "uniform", "shared", "buffer", "restrict", "readonly", "writeonly",
    "layout"]

/-- The names that a layout may hold. -/
def layoutNames : List String :=
  ["location", "component", "index", "binding", "set", "std140", "std430", "push_constant",
    "local_size_x", "local_size_y", "local_size_z", "early_fragment_tests", "depth_any",
    "depth_greater", "depth_less", "depth_unchanged"]

/-- What the qualifiers of a declaration say. -/
structure Qualifiers where
  isConst : Bool
  isInput : Bool
  isUniform : Bool
  hasBinding : Bool
  deriving DecidableEq, Repr

/-- No qualifiers. -/
def Qualifiers.empty : Qualifiers := ⟨false, false, false, false⟩

/-- A qualifier comes next. -/
def atQualifier : Check Bool := do
  match ← peek? with
  | some l => return qualifierWords.any l.isWord
  | none => return false

/-- Reads the list of a layout up to the closing parenthesis, and whether it has a binding. -/
def layout : Nat → Bool → Check Bool
  | 0, _ => tooDeep
  | n + 1, bound => do
    let l ← next
    if l.kind != .word then unexpected "identifier" l
    if !layoutNames.any l.isWord then
      note l.offset ("Unknown layout qualifier: ".toList ++ l.text)
    if ← skipMark "=" then
      let fuel ← fuel
      let _ ← choice fuel (← operand fuel)
    let bound := bound || l.isWord "binding"
    if ← skipMark "," then layout n bound
    else
      expect ")" "RightParen"
      return bound

/-- Reads qualifiers. -/
def qualifiers : Nat → Qualifiers → Check Qualifiers
  | 0, _ => tooDeep
  | n + 1, q => do
    if ← atQualifier then
      let l ← next
      if l.isWord "layout" then
        expect "(" "LeftParen"
        qualifiers n { q with hasBinding := ← layout n q.hasBinding }
      else
        qualifiers n
          { q with
            isConst := q.isConst || l.isWord "const"
            isInput := q.isInput || l.isWord "in"
            isUniform := q.isUniform || l.isWord "uniform" || l.isWord "buffer" }
    else return q

/-- Reads the fields of a record up to the closing brace. -/
def fields (readTy : Check Ty) : Nat → Check (List (List Char × Ty))
  | 0 => tooDeep
  | n + 1 => do
    if ← atMark "\x7d" then return []
    let _ ← qualifiers n .empty
    let t ← readTy
    let field ← name
    let t ← arrayTy n t
    semicolon
    return (field.text, t) :: (← fields readTy n)

/-- Reads a record type behind its keyword. -/
def recordTy (readTy : Check Ty) : Check Ty := do
  let l ← name
  expect "\x7b" "LeftBrace"
  let fs ← fields readTy (← fuel)
  expect "\x7d" "RightBrace"
  modify fun s => { s with records := ⟨l.text, fs⟩ :: s.records }
  return .record l.text

/-- Reads a type, which may be missing for a function without an answer. -/
def ty? : Nat → Check (Option Ty)
  | 0 => tooDeep
  | n + 1 => do
    let l ← next
    if l.isWord "void" then return none
    if l.isWord "struct" then
      let t ← recordTy do
        match ← ty? n with
        | some t => return t
        | none => fail l.offset "Type can't be void".toList
      return some (← arrayTy n t)
    match ← tyOf? l with
    | some t => return some (← arrayTy (← fuel) t)
    | none =>
      if l.isName then fail l.offset ("Unknown type: ".toList ++ l.text) else unexpected "a type" l

/-- Reads a type that has values. -/
def ty : Check Ty := do
  let l ← peek
  match ← ty? (← fuel) with
  | some t => return t
  | none => fail l.offset "Type can't be void".toList

/-! ## Variables -/

/-- Reads an initial value, given the type of the variable, and answers its own type. -/
def initialValue (target : Ty) : Nat → Check Ty
  | 0 => tooDeep
  | n + 1 => do
    if ← skipMark "\x7b" then
      initialValues target.element n
      return .unknown
    else
      let e ← assignment n
      return target.raiseTo (← typeOf e)
where
  /-- Reads the initial values of the parts up to the closing brace. -/
  initialValues (part : Ty) : Nat → Check Unit
    | 0 => tooDeep
    | n + 1 => do
      let t ← initialValue part n
      wantStatement part t
      let l ← next
      if l.isMark "," then
        if !(← skipMark "\x7d") then initialValues part n
      else if !l.isMark "\x7d" then unexpected "Comma or RightBrace" l

/-- Where a variable is declared. -/
inductive Place where
  | program
  | body
  deriving DecidableEq, Repr

/-- Declares a variable that was read. -/
def declareIn (place : Place) (q : Qualifiers) (l : Lexeme) (t : Ty) (initialized : Bool) :
    Check Unit := do
  let v : Variable := ⟨l.text, t, !q.isConst && !q.isInput, !q.isUniform⟩
  match place with
  | .body => declareLocal v l.offset
  | .program =>
    if q.isConst && !initialized then
      fail l.offset "const values must have an initializer".toList
    if q.isUniform && !q.hasBinding then
      note l.offset "uniform/buffer blocks require layout(binding=X)".toList
    declare v

/-- Reads the names of a declaration with their initial values, up to the semicolon. -/
def declarators (place : Place) (q : Qualifiers) (t : Ty) : Nat → Check Unit
  | 0 => tooDeep
  | n + 1 => do
    let l ← next
    if l.isMark ";" then return
    if !l.isName then unexpected "identifier or Semicolon" l
    let t' ← arrayTy n t
    if ← skipMark "=" then
      let given ← initialValue t' n
      if place == .body then wantStatement t' given
      declareIn place q l (if t'.isKnown then t' else given) true
    else declareIn place q l t' false
    let l ← next
    if l.isMark ";" then return
    else if l.isMark "," then declarators place q t n
    else unexpected "Comma or Semicolon" l

/-- Reads a block of uniforms behind its name. -/
def uniformBlock (q : Qualifiers) (l : Lexeme) : Check Unit := do
  let fs ← fields ty (← fuel)
  expect "\x7d" "RightBrace"
  if !q.hasBinding && q.isUniform then
    note l.offset "uniform/buffer blocks require layout(binding=X)".toList
  modify fun s => { s with records := ⟨l.text, fs⟩ :: s.records }
  if (← peek).isName then
    let v ← name
    let t ← arrayTy (← fuel) (.record l.text)
    declare ⟨v.text, t, true, !q.isUniform⟩
  else
    for (field, t) in fs do
      declare ⟨field, t, true, !q.isUniform⟩
  semicolon

/-! ## Heads of functions -/

/-- A parameter of a function that is read. -/
structure Parameter where
  name : List Char
  ty : Ty
  passing : Passing
  isConst : Bool
  deriving DecidableEq, Repr

/-- How the qualifier of a parameter passes it, and whether it is constant. -/
def passing? (l : Lexeme) : Option (Passing × Bool) :=
  if l.isWord "in" then some (.copied, false)
  else if l.isWord "out" then some (.answered, false)
  else if l.isWord "inout" then some (.shared, false)
  else if l.isWord "const" then some (.copied, true)
  else none

/-- Reads the parameters of a function. -/
def parameters : Nat → Check (List Parameter)
  | 0 => tooDeep
  | n + 1 => do
    let l ← peek
    let qualifier := passing? l
    if qualifier.isNone && !(← atTy) then return []
    if qualifier.isSome then let _ ← next
    let (passing, isConst) := qualifier.getD (.copied, false)
    let t ← ty
    let l ← peek
    let p : Parameter := ⟨[], t, passing, isConst⟩
    if l.isName then
      let l ← name
      let t ← arrayTy n t
      let p := { p with name := l.text, ty := t }
      if ← skipMark "," then return p :: (← parameters n) else return [p]
    else if ← skipMark "," then return p :: (← parameters n)
    else return [p]

/-- Reads the parameters of a function and the closing parenthesis. -/
def parameterList : Check (List Parameter) := do
  let ps ←
    if ← atWord "void" then
      let _ ← next
      pure []
    else parameters (← fuel)
  expect ")" "RightParen"
  return ps

/-- Declares the parameters in a block of their own. -/
def openParameters (ps : List Parameter) : Check Unit := do
  openBlock
  for p in ps do
    declare ⟨p.name, p.ty, !p.isConst, true⟩

end Check

end Glsl

end ShaderPreview
