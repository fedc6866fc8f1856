import ShaderPreview.Glsl.Expr
import ShaderPreview.Glsl.Macros
import ShaderPreview.Number.Shortest
import ShaderPreview.Text.Quoted

/-!
# Names in scope

The reader of a program is in the state `Scope`: the lexemes to come, the names that are declared,
and the faults met so far.  Some faults end the reading (`Check` throws them); others are only noted
and the reading goes on.  The first fault, of either kind, is the one that counts.
-/

namespace ShaderPreview

namespace Glsl

/-! ## How a lexeme is shown -/

/-- The words that are shown by a name of their own. -/
def wordNames : List (String × String) :=
  [("layout", "Layout"), ("in", "In"), ("out", "Out"), ("inout", "InOut"), ("uniform", "Uniform"),
    ("buffer", "Buffer"), ("const", "Const"), ("shared", "Shared"), ("restrict", "Restrict"),
    ("readonly", "MemoryQualifier(StorageAccess(LOAD))"),
    ("writeonly", "MemoryQualifier(StorageAccess(STORE))"), ("invariant", "Invariant"),
    ("flat", "Interpolation(Flat)"), ("noperspective", "Interpolation(Linear)"),
    ("smooth", "Interpolation(Perspective)"), ("centroid", "Sampling(Centroid)"),
    ("sample", "Sampling(Sample)"), ("precision", "Precision"),
    ("highp", "PrecisionQualifier(High)"), ("mediump", "PrecisionQualifier(Medium)"),
    ("lowp", "PrecisionQualifier(Low)"), ("continue", "Continue"), ("break", "Break"),
    ("return", "Return"), ("discard", "Discard"), ("if", "If"), ("else", "Else"),
    ("switch", "Switch"), ("case", "Case"), ("default", "Default"), ("while", "While"),
    ("do", "Do"), ("for", "For"), ("void", "Void"), ("struct", "Struct"),
    ("true", "BoolConstant(true)"), ("false", "BoolConstant(false)")]

/-- The names that the marks are shown by. -/
def markNames : List (String × String) :=
  [("=", "Assign"), ("+=", "AddAssign"), ("-=", "SubAssign"), ("*=", "MulAssign"),
    ("/=", "DivAssign"), ("%=", "ModAssign"), ("<<=", "LeftShiftAssign"),
    (">>=", "RightShiftAssign"), ("&=", "AndAssign"), ("^=", "XorAssign"), ("|=", "OrAssign"),
    ("++", "Increment"), ("--", "Decrement"), ("||", "LogicalOr"), ("&&", "LogicalAnd"),
    ("^^", "LogicalXor"), ("<=", "LessEqual"), (">=", "GreaterEqual"), ("==", "Equal"),
    ("!=", "NotEqual"), ("<<", "LeftShift"), (">>", "RightShift"), ("\x7b", "LeftBrace"),
    ("\x7d", "RightBrace"), ("(", "LeftParen"), (")", "RightParen"), ("[", "LeftBracket"),
    ("]", "RightBracket"), ("<", "LeftAngle"), (">", "RightAngle"), (",", "Comma"),
    (";", "Semicolon"), (":", "Colon"), (".", "Dot"), ("!", "Bang"), ("-", "Dash"), ("~", "Tilde"),
    ("+", "Plus"), ("*", "Star"), ("/", "Slash"), ("%", "Percent"), ("|", "VerticalBar"),
    ("^", "Caret"), ("&", "Ampersand"), ("?", "Question")]

/-- The name behind a spelling. -/
def shownName? (names : List (String × String)) (s : List Char) : Option (List Char) :=
  (names.find? fun p => p.1.toList == s).map fun p => p.2.toList

/-- The word is free to name something. -/
def isFreeWord (w : List Char) : Bool := (shownName? wordNames w).isNone && (Ty.ofWord? w).isNone

namespace Lexeme

/-- The lexeme is a word that is free to name something. -/
def isName (l : Lexeme) : Bool := l.kind == .word && isFreeWord l.text

/-- The number is written without a fraction. -/
def isWhole (l : Lexeme) : Bool :=
  match l.text with
  | '0' :: c :: _ => c == 'x' || c == 'X' || l.text.all fun c => c.isDigit || c == 'u' || c == 'U'
  | _ => l.text.all fun c => c.isDigit || c == 'u' || c == 'U'

/-- The type of a number. -/
def numberTy (l : Lexeme) : Ty :=
  let last := l.text.getLast?.map Char.toLower
  if l.isWhole then .scalar (if last == some 'u' then .uint else .int)
  else
    match l.text.reverse with
    | f :: d :: _ => .scalar (if f.toLower = 'f' ∧ d.toLower = 'l' then .double else .float)
    | _ => .float

/-- The bits of a single that a number with a fraction stands for. -/
def fractionBits (s : List Char) : Nat :=
  let mantissa := s.takeWhile fun c => c.isDigit || c == '.'
  let digits := mantissa.filter Char.isDigit
  let places := ((mantissa.dropWhile (· != '.')).drop 1).length
  let exponent : Int :=
    match s.drop mantissa.length with
    | e :: '-' :: ds => if e.toLower = 'e' then -numberValue (ds.takeWhile Char.isDigit) else 0
    | e :: '+' :: ds => if e.toLower = 'e' then numberValue (ds.takeWhile Char.isDigit) else 0
    | e :: ds => if e.toLower = 'e' then numberValue (ds.takeWhile Char.isDigit) else 0
    | [] => 0
  Decimal.nearest .single (digits.foldl (fun n c => n * 10 + (c.toNat - 48)) 0) (exponent - places)

/-- A number, as it is shown. -/
def shownNumber (l : Lexeme) : List Char :=
  let width := ", width: 32 \x7d)".toList
  if l.isWhole then
    "IntConstant(Integer \x7b value: ".toList ++ Decimal.ofNat (numberValue l.text).natAbs ++
      ", signed: ".toList ++ (if l.numberTy = .scalar .uint then "false" else "true").toList ++
      width
  else
    "FloatConstant(Float \x7b value: ".toList ++ Decimal.ofSingleBits (fractionBits l.text) ++ width

/-- The lexeme, as it is shown. -/
def shown (l : Lexeme) : List Char :=
  match l.kind with
  | .number => l.shownNumber
  | .word =>
    match shownName? wordNames l.text, Ty.ofWord? l.text with
    | some name, _ => name
    | none, some t => "TypeName(".toList ++ t.display.toList ++ [')']
    | none, none => "Identifier(".toList ++ Text.quoted l.text ++ [')']
  | _ => (shownName? markNames l.text).getD l.text

end Lexeme

/-! ## The state of the reader -/

/-- How a parameter is passed. -/
inductive Passing where
  | copied
  /-- The caller's variable is read and written. -/
  | shared
  /-- The caller's variable is only written. -/
  | answered
  deriving DecidableEq, Repr

/-- The caller passes a variable. -/
def Passing.needsVariable : Passing → Bool
  | copied => false
  | _ => true

/-- A function, by its name and the types of its parameters. -/
structure Function where
  name : List Char
  params : List (Ty × Passing)
  result : Option Ty
  /-- Where its declaration starts. -/
  offset : Nat
  /-- Its body was read. -/
  defined : Bool
  /-- A type fault is in its body. -/
  invalid : Bool
  deriving DecidableEq, Repr

/-- A record type. -/
structure Record where
  name : List Char
  fields : List (List Char × Ty)
  deriving DecidableEq, Repr

/-- The state of the reader. -/
structure Scope where
  items : List Item
  /-- The offset of the last lexeme that was read. -/
  last : Nat
  /-- The faults noted, in order. -/
  faults : List Fault
  /-- The variables, innermost block first. -/
  blocks : List (List Variable)
  /-- The functions, in order of their declaration. -/
  functions : List Function
  records : List Record
  /-- A type fault was met in the present function. -/
  invalid : Bool
  /-- Statements are no longer reached, so that their types do not count. -/
  unreached : Bool
  /-- There is a loop around the present statement. -/
  inLoop : Bool
  /-- There is a loop or a `switch` around the present statement. -/
  inBreakable : Bool

/-- Readers of a part of a program. -/
abbrev Check := ExceptT Fault (StateM Scope)

namespace Check

/-- Ends the reading with a fault. -/
def fail {α : Type} (offset : Nat) (message : List Char) : Check α := throw ⟨message, offset⟩

/-- Notes a fault. -/
def note (offset : Nat) (message : List Char) : Check Unit :=
  modify fun s => { s with faults := s.faults ++ [⟨message, offset⟩] }

/-- Notes a type fault of an expression. -/
def markInvalid : Check Unit := modify fun s => { s with invalid := true }

/-- Notes a type fault of a statement, if the statement is reached. -/
def markStatement : Check Unit := do
  if !(← get).unreached then markInvalid

/-- Notes the faults in front of the next lexeme. -/
def settle (s : Scope) : List Item → Scope
  | .fault f :: items => settle { s with faults := s.faults ++ [f] } items
  | items => { s with items }

/-- The next lexeme, which is not read yet. -/
def peek? : Check (Option Lexeme) := do
  modify fun s => settle s s.items
  match (← get).items with
  | .lexeme l :: _ => return some l
  | _ => return none

/-- The next lexeme; the program must not end here. -/
def peek : Check Lexeme := do
  match ← peek? with
  | some l => return l
  | none => fail (← get).last "Unexpected end of file".toList

/-- Reads a lexeme. -/
def next : Check Lexeme := do
  let l ← peek
  modify fun s => { s with items := s.items.drop 1, last := l.offset }
  return l

/-- The next lexeme is the given mark. -/
def atMark (mark : String) : Check Bool := return (← peek).isMark mark

/-- The next lexeme is the given word. -/
def atWord (word : String) : Check Bool := return (← peek).isWord word

/-- Reads the given mark if it comes next. -/
def skipMark (mark : String) : Check Bool := do
  match ← peek? with
  | some l =>
    if l.isMark mark then
      let _ ← next
      return true
    else return false
  | none => return false

/-- Ends the reading at a lexeme that does not fit. -/
def unexpected {α : Type} (expected : String) (l : Lexeme) : Check α :=
  fail l.offset ("Expected ".toList ++ expected.toList ++ ", found ".toList ++ l.shown)

/-- Reads the given mark, which has the given name. -/
def expect (mark name : String) : Check Unit := do
  let l ← next
  if !l.isMark mark then unexpected name l

/-- Reads the mark that ends a statement. -/
def semicolon : Check Unit := expect ";" "Semicolon"

/-- Reads a free word. -/
def name : Check Lexeme := do
  let l ← next
  if l.isName then return l else unexpected "identifier" l

/-- The type that a lexeme names. -/
def tyOf? (l : Lexeme) : Check (Option Ty) := do
  if l.kind != .word then return none
  match Ty.ofWord? l.text with
  | some t => return some t
  | none =>
    if (← get).records.any fun r => r.name == l.text then return some (.record l.text)
    else return none

/-- A type comes next. -/
def atTy : Check Bool := do
  match ← peek? with
  | some l => return l.isWord "void" || l.isWord "struct" || (← tyOf? l).isSome
  | none => return false

/-! ## Variables -/

/-- Variables that every program has. -/
def builtinVariables : List Variable :=
  [⟨"gl_Position".toList, .vec 4, true, true⟩, ⟨"gl_FragCoord".toList, .vec 4, false, false⟩,
    ⟨"gl_VertexIndex".toList, .scalar .uint, false, false⟩,
    ⟨"gl_InstanceIndex".toList, .scalar .uint, false, false⟩,
    ⟨"gl_FragDepth".toList, .float, true, true⟩, ⟨"gl_PointSize".toList, .float, true, true⟩,
    ⟨"gl_PointCoord".toList, .vec 2, false, false⟩, ⟨"gl_FrontFacing".toList, .bool, false, false⟩,
    ⟨"gl_PrimitiveID".toList, .scalar .uint, false, false⟩,
    ⟨"gl_SampleID".toList, .scalar .uint, false, false⟩]

/-- The variable of a name. -/
def lookup (l : Lexeme) : Check Variable := do
  let s ← get
  match (s.blocks.flatten ++ builtinVariables).find? fun v => v.name == l.text with
  | some v => return v
  | none => fail l.offset ("Unknown variable: ".toList ++ l.text)

/-- Opens a block. -/
def openBlock : Check Unit := modify fun s => { s with blocks := [] :: s.blocks }

/-- Closes a block. -/
def closeBlock : Check Unit := modify fun s => { s with blocks := s.blocks.drop 1 }

/-- Declares a variable in the innermost block. -/
def declare (v : Variable) : Check Unit :=
  modify fun s =>
    { s with
      blocks :=
        match s.blocks with
        | block :: blocks => (v :: block) :: blocks
        | [] => [[v]] }

/-- Declares a variable of a function body, whose name must be new in its block. -/
def declareLocal (v : Variable) (offset : Nat) : Check Unit := do
  match (← get).blocks with
  | block :: _ =>
    if block.any fun w => w.name == v.name then
      note offset ("Variable already declared: ".toList ++ v.name)
  | [] => pure ()
  declare v

end Check

end Glsl

end ShaderPreview
