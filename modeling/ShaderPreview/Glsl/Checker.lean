import ShaderPreview.Diagnostic.Basic
import ShaderPreview.Glsl.Statement

/-!
# Checking a program

`Glsl.check` reads a program and answers its first fault, if it has one.  Faults of the text and of
names come first; only a program without them is asked for its `main` and for functions in which a
type does not fit.
-/

namespace ShaderPreview

namespace Glsl

/-- The functions take the same parameters. -/
def Function.sameParameters (f g : Function) : Bool :=
  f.name == g.name && f.params.map Prod.fst == g.params.map Prod.fst

/-- The state in front of a program. -/
def Scope.start (source : List Char) : Scope :=
  { items := preprocess source, last := 0, faults := [], blocks := [[]], functions := []
    records := [], invalid := false, unreached := false, inLoop := false, inBreakable := false }

namespace Check

/-- Declares a function without its body. -/
def announce (f : Function) : Check Unit := do
  if (← get).functions.any f.sameParameters then
    note f.offset "Prototype already defined".toList
  else modify fun s => { s with functions := s.functions ++ [f] }

/-- Puts a function with its body among the others; one that was announced keeps its place. -/
def define (f : Function) : Check Unit := do
  match (← get).functions.find? f.sameParameters with
  | none => modify fun s => { s with functions := s.functions ++ [f] }
  | some g =>
    if g.defined then note f.offset "Function already defined".toList
    else
      modify fun s =>
        { s with
          functions := s.functions.map fun h =>
            if h.sameParameters f then { f with offset := g.offset } else h }

/-- Reads the body of a function behind its opening brace. -/
def body (f : Function) (ps : List Parameter) : Check Unit := do
  modify fun s => { s with invalid := false }
  openParameters ps
  let flow ← block f.result (← fuel)
  closeBlock
  if f.result.isSome && !flow.inBranch then markInvalid
  define { f with defined := true, invalid := (← get).invalid }

/-- Reads a function behind the parenthesis that follows its name. -/
def functionBehind (name : List Char) (result : Option Ty) (offset : Nat) : Check Unit := do
  let ps ← parameterList
  let f : Function :=
    ⟨name, ps.map fun p => (p.ty, p.passing), result, offset, false, false⟩
  let l ← next
  if l.isMark ";" then announce f
  else if l.isMark "\x7b" then body f ps
  else unexpected "LeftBrace or Semicolon" l

/-- The precisions. -/
def precisionNames : List String := ["highp", "mediump", "lowp"]

/-- Reads a default precision behind its keyword. -/
def precision : Check Unit := do
  let l ← next
  if !precisionNames.any l.isWord then
    unexpected "PrecisionQualifier(High), PrecisionQualifier(Medium) or PrecisionQualifier(Low)" l
  let l ← peek
  let t ← ty
  if t != .float && t != .scalar .int then
    note l.offset "Precision statement can only work on floats and ints".toList
  semicolon

/-- Reads what follows the qualifiers of a declaration if no type does. -/
def untyped (q : Qualifiers) : Check Unit := do
  let l ← next
  if l.isMark ";" then return
  if !l.isName then unexpected "identifier or Semicolon" l
  if ← skipMark "\x7b" then uniformBlock q l
  else fail l.offset "Not implemented: variable qualifier".toList

/-- Reads what follows the type of a declaration: a function or variables. -/
def behindTy (q : Qualifiers) (t : Option Ty) (offset : Nat) : Check Unit := do
  let l ← peek
  let isFunction :=
    match (← get).items with
    | _ :: .lexeme p :: _ => l.isName && p.isMark "("
    | _ => false
  if isFunction then
    let _ ← next
    let _ ← next
    functionBehind l.text t offset
  else
    match t with
    | some t => declarators .program q t (← fuel)
    | none => note offset "Declaration cannot have void type".toList

/-- Reads a declaration of a program. -/
def declaration : Check Unit := do
  let l ← peek
  if (← atQualifier) || (← atTy) then
    let fuel ← fuel
    let q ← qualifiers fuel .empty
    if ← atTy then
      let l ← peek
      behindTy q (← ty? fuel) l.offset
    else untyped q
  else if l.isWord "precision" then
    let _ ← next
    precision
  else
    let l ← next
    unexpected "end of file" l

/-- Reads the declarations of a program. -/
def declarations : Nat → Check Unit
  | 0 => return
  | n + 1 => do
    if (← peek?).isSome then
      declaration
      declarations n

/-- Reads a program. -/
def program : Check Unit := do declarations (← fuel)

end Check

/-- The fault of a program that was read without one: it has no `main`, or a type does not fit. -/
def Scope.lateFault? (s : Scope) : Option Fault :=
  let isMain (f : Function) : Bool := f.name == "main".toList && f.params.isEmpty && f.defined
  if !s.functions.any isMain then some ⟨"Missing entry point".toList, 0⟩
  else
    s.functions.zipIdx.findSome? fun (f, i) =>
      if f.invalid then
        some ⟨"Function [".toList ++ Decimal.ofNat i ++ "] '".toList ++ f.name ++
          "' is invalid".toList, f.offset⟩
      else none

/-- The first fault of a program. -/
def firstFault? (source : List Char) : Option Fault :=
  let (ended, s) := Check.program.run (Scope.start source)
  match s.faults, ended with
  | f :: _, _ => some f
  | [], .error f => some f
  | [], .ok _ => s.lateFault?

/-- Checks a program of one stage. -/
def check (stage : Stage) (source : List Char) : Except StageFault Unit :=
  match firstFault? source with
  | none => .ok ()
  | some f =>
    let (line, column) := placeOf source f.offset
    .error ⟨stage, line, column, f.message⟩

end Glsl

end ShaderPreview
