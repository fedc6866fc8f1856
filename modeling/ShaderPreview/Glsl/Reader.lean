import ShaderPreview.Glsl.Scope

/-!
# Reading expressions

Expressions are read by recursive descent, operators by how tightly they bind.  The fuel of a reader
bounds how deep an expression is nested; the number of lexemes to come is more than enough.
-/

namespace ShaderPreview

namespace Glsl

namespace Check

/-- The operator that comes next, if it binds at least as tightly as asked. -/
def binaryOp? (least : Nat) : Check (Option (BinaryOp × Nat)) := do
  let l ← peek
  match BinaryOp.marks.find? fun m => l.isMark m.1 with
  | some (_, op, binding) => return if least ≤ binding then some (op, binding) else none
  | none => return none

/-- The assigning mark that comes next. -/
def assigning? : Check (Option (Option BinaryOp)) := do
  let l ← peek
  return (BinaryOp.assigningMarks.find? fun m => l.isMark m.1).map Prod.snd

/-- The operator in front of an operand that comes next; a plus sign is one without effect. -/
def unaryOp? : Check (Option (Option UnaryOp)) := do
  let l ← peek
  return if l.isMark "-" then some (some .negate)
    else if l.isMark "!" then some (some .not)
    else if l.isMark "~" then some (some .bitNot)
    else if l.isMark "+" then some none
    else none

/-- A counting mark comes next. -/
def atCount : Check Bool := return (← atMark "++") || (← atMark "--")

/-- The expression is nested deeper than its fuel. -/
def tooDeep {α : Type} : Check α := do
  fail (← get).last "Unexpected end of file".toList

mutual

/-- Reads an expression; of several with commas between them the last one is the value. -/
def expression : Nat → Check Expr
  | 0 => tooDeep
  | fuel + 1 => do
    let e ← assignment fuel
    if ← skipMark "," then expression fuel else return e

/-- Reads an expression without commas. -/
def assignment : Nat → Check Expr
  | 0 => tooDeep
  | fuel + 1 => do
    let target ← operand fuel
    match ← assigning? with
    | some op =>
      let _ ← next
      let value ← assignment fuel
      let value := match op with
        | some op => .binary op target value target.offset
        | none => value
      return .assign target value target.offset
    | none => choice fuel target

/-- Reads what follows an operand in an expression without assignment. -/
def choice : Nat → Expr → Check Expr
  | 0, _ => tooDeep
  | fuel + 1, first => do
    let condition ← operations fuel 0 first
    if ← skipMark "?" then
      let accept ← expression fuel
      expect ":" "Colon"
      let reject ← assignment fuel
      return .choice condition accept reject condition.offset
    else return condition

/-- Reads the operators behind an operand that bind at least as tightly as asked. -/
def operations : Nat → Nat → Expr → Check Expr
  | 0, _, _ => tooDeep
  | fuel + 1, least, left => do
    match ← binaryOp? least with
    | none => return left
    | some (op, binding) =>
      let _ ← next
      let right ← operations fuel (binding + 1) (← operand fuel)
      operations fuel least (.binary op left right left.offset)

/-- Reads an operand with the operators in front of it. -/
def operand : Nat → Check Expr
  | 0 => tooDeep
  | fuel + 1 => do
    match ← unaryOp? with
    | some op =>
      let l ← next
      let e ← operand fuel
      return match op with
        | some op => .unary op e l.offset
        | none => e
    | none =>
      if ← atCount then
        let l ← next
        return .count (← operand fuel) l.offset
      else selections fuel (← primary fuel)

/-- Reads an operand without operators. -/
def primary : Nat → Check Expr
  | 0 => tooDeep
  | fuel + 1 => do
    if ← atTy then
      let l ← next
      let ty ← match ← tyOf? l with
        | some ty => pure ty
        | none => unexpected "a type" l
      let ty ← arrayTy fuel ty
      expect "(" "LeftParen"
      return .call (.constructor ty) (← args fuel) l.offset
    let l ← next
    if l.isName then
      if ← skipMark "(" then return .call (.function l.text) (← args fuel) l.offset
      else return .named (← lookup l) l.offset
    else if l.kind == .number then return .literal l.numberTy l.offset
    else if l.isWord "true" || l.isWord "false" then return .literal .bool l.offset
    else if l.isMark "(" then
      let e ← expression fuel
      expect ")" "RightParen"
      return e
    else unexpected "LeftParen, integer literal, float literal or bool literal" l

/-- Reads the arguments of a call and the closing parenthesis. -/
def args : Nat → Check (List Expr)
  | 0 => tooDeep
  | fuel + 1 => do
    if ← skipMark ")" then return [] else moreArgs fuel

/-- Reads one argument or more and the closing parenthesis. -/
def moreArgs : Nat → Check (List Expr)
  | 0 => tooDeep
  | fuel + 1 => do
    let e ← assignment fuel
    let l ← next
    if l.isMark "," then return e :: (← moreArgs fuel)
    else if l.isMark ")" then return [e]
    else unexpected "Comma or RightParen" l

/-- Reads the selections, indices and counting marks behind an operand. -/
def selections : Nat → Expr → Check Expr
  | 0, _ => tooDeep
  | fuel + 1, base => do
    if ← skipMark "[" then
      let position ← expression fuel
      expect "]" "RightBracket"
      selections fuel (.index base position base.offset)
    else if ← skipMark "." then
      let field ← name
      if ← skipMark "(" then selections fuel (.method base (← args fuel) base.offset)
      else selections fuel (.select base field.text base.offset)
    else if ← atCount then
      let _ ← next
      selections fuel (.count base base.offset)
    else return base

/-- Reads the sizes behind a type or a name, which make an array of it. -/
def arrayTy : Nat → Ty → Check Ty
  | 0, _ => tooDeep
  | fuel + 1, t => do
    if ← skipMark "[" then
      let size ←
        if ← skipMark "]" then pure none
        else
          let l ← peek
          let e ← choice fuel (← operand fuel)
          expect "]" "RightBracket"
          pure <| match e with
            | .literal _ _ => if l.kind == .number then some (numberValue l.text).toNat else none
            | _ => none
      return .array (← arrayTy fuel t) size
    else return t

end

/-- Fuel for whatever is left of the program. -/
def fuel : Check Nat := return 12 * (← get).items.length + 12

end Check

end Glsl

end ShaderPreview
