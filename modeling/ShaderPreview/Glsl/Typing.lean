import ShaderPreview.Glsl.Builtin
import ShaderPreview.Glsl.Reader

/-!
# Typing expressions

An expression is typed when it is read completely.  A name that no function has ends the reading; a
type that does not fit only marks the function around it, since such faults are reported last.
-/

namespace ShaderPreview

namespace Glsl

/-! ## Operators -/

namespace BinaryOp

/-- The operator repeats a single component next to a vector. -/
def spreads : BinaryOp → Bool
  | add => true
  | sub => true
  | div => true
  | bitAnd => true
  | bitXor => true
  | bitOr => true
  | _ => false

/-- The operator shifts bits. -/
def isShift : BinaryOp → Bool
  | shiftLeft => true
  | shiftRight => true
  | _ => false

/-- The operator asks whether its operands are the same. -/
def isEquality : BinaryOp → Bool
  | equal => true
  | notEqual => true
  | xor => true
  | _ => false

/-- The operator asks which of its operands is larger. -/
def isOrder : BinaryOp → Bool
  | less => true
  | greater => true
  | lessEqual => true
  | greaterEqual => true
  | _ => false

/-- The operator joins truth values. -/
def isLogic : BinaryOp → Bool
  | and => true
  | or => true
  | _ => false

/-- The operands after they converted by themselves towards one another. -/
def meet (op : BinaryOp) (l r : Ty) : Ty × Ty :=
  if op.isShift then (l, r.raise .uint) else (r.raiseTo l, l.raiseTo r)

/-- The operands after a single component next to a vector was repeated. -/
def spread (op : BinaryOp) (l r : Ty) : Ty × Ty :=
  match l, r with
  | .vector s n, .scalar k =>
    if op.spreads || op.isShift then (.vector s n, .vector k n) else (l, r)
  | .scalar k, .vector s n => if op.spreads then (.vector k n, .vector s n) else (l, r)
  | .matrix s c r', .scalar _ => if op.spreads then (l, .matrix s c r') else (l, r)
  | .scalar _, .matrix s c r' => if op.spreads then (.matrix s c r', r) else (l, r)
  | _, _ => (l, r)

/-- The type of a product. -/
def product? (l r : Ty) : Option Ty :=
  match l, r with
  | .scalar s, .scalar k => if s = k ∧ s ≠ .bool then some l else none
  | .vector s _, .scalar k => if s = k ∧ s ≠ .bool then some l else none
  | .scalar s, .vector k _ => if s = k ∧ s ≠ .bool then some r else none
  | .vector s n, .vector k m => if s = k ∧ n = m ∧ s ≠ .bool then some l else none
  | .matrix s _ _, .scalar k => if s = k then some l else none
  | .scalar s, .matrix k _ _ => if s = k then some r else none
  | .matrix s c rows, .vector k n => if s = k ∧ c = n then some (.vector s rows) else none
  | .vector s n, .matrix k c rows => if s = k ∧ rows = n then some (.vector s c) else none
  | .matrix s c rows, .matrix k c' rows' =>
    if s = k ∧ c = rows' then some (.matrix s c' rows) else none
  | _, _ => none

/-- The truth value for each component. -/
def truthOf : Ty → Ty
  | .vector _ n => .vector .bool n
  | _ => .bool

/-- The operator takes two operands of the given type. -/
def takes (op : BinaryOp) (t : Ty) : Bool :=
  match op, t.scalar? with
  | bitAnd, some s => s.isInteger || s == .bool
  | bitOr, some s => s.isInteger || s == .bool
  | bitXor, some s => s.isInteger
  | _, some s => s.isNumber
  | _, none => false

/-- The type of the result for operands that the checker follows. -/
def result? (op : BinaryOp) (l r : Ty) : Option Ty :=
  let (l, r) := op.meet l r
  let (l, r) := op.spread l r
  if op.isShift then
    match l, r with
    | .scalar s, .scalar .uint => if s.isInteger then some l else none
    | .vector s n, .vector .uint m => if s.isInteger && n == m then some l else none
    | _, _ => none
  else if op = mul then product? l r
  else if l ≠ r then none
  else if op.isEquality then some .bool
  else if op.isLogic then if l.scalar? = some .bool then some l else none
  else if !op.takes l then none
  else if op.isOrder then some (truthOf l)
  else some l

/-- The type of the result for operands that the checker does not follow. -/
def guess (op : BinaryOp) : Ty := if op.isEquality || op.isLogic then .bool else .unknown

end BinaryOp

/-- The type of the result of an operator in front of an operand. -/
def UnaryOp.result? (op : UnaryOp) (t : Ty) : Option Ty :=
  match op, t.scalar? with
  | negate, some s => if s = .int ∨ s = .float ∨ s = .double then some t else none
  | not, some s => if s = .bool then some t else none
  | bitNot, some s => if s.isInteger then some t else none
  | _, none => if t.isKnown then none else some t

/-! ## Constructors -/

/-- A constructor of the type takes values of the given types. -/
def Ty.isBuiltFrom (t : Ty) (args : List Ty) : Bool :=
  if args.any fun a => !a.isKnown then true
  else
    let total := args.foldl (fun n a => n + a.componentCount?.getD 0) 0
    match t, args with
    | .scalar _, [a] => a.scalar?.isSome
    | .scalar _, _ => false
    | .vector _ _, [.scalar _] => true
    | .vector _ n, _ => n ≤ total
    | .matrix _ _ _, [a] => a.scalar?.isSome
    | .matrix _ c r, _ => total == c * r
    | .array e size, _ => size == some args.length && args.all e.accepts
    | _, _ => true

/-- The type that a constructor builds; an array without a size takes that of its arguments. -/
def Ty.built (t : Ty) (count : Nat) : Ty :=
  match t with
  | array e none => array e (some count)
  | t => t

/-! ## Functions -/

namespace Function

/-- The function takes arguments of exactly these types. -/
def takesExactly (f : Function) (args : List Ty) : Bool :=
  f.params.length == args.length && (f.params.zip args).all fun (p, a) => !p.1.clashes a

/-- The function takes these arguments after they converted by themselves; an answered parameter
converts the other way, and a shared one not at all. -/
def takes (f : Function) (args : List Ty) : Bool :=
  f.params.length == args.length &&
    (f.params.zip args).all fun ((t, passing), a) =>
      match passing with
      | .copied => t.accepts a
      | .shared => !t.clashes a
      | .answered => a.accepts t

end Function

namespace Check

/-- What a call calls: a declared function, or a built-in one with the type of its answer. -/
def resolve (name : List Char) (args : List Ty) (offset : Nat) : Check (Function ⊕ Ty) := do
  let named := (← get).functions.filter fun f => f.name == name
  match named.find? (·.takesExactly args), Builtin.result? name args,
    named.find? (·.takes args) with
  | some f, _, _ => return .inl f
  | none, some t, _ => return .inr t
  | none, none, some f => return .inl f
  | none, none, none =>
    fail offset ("Unknown function '".toList ++ name ++ ['\x27'])

/-- The answer of a call that is used as a value. -/
def answered (offset : Nat) : Option Ty → Check Ty
  | some t => return t
  | none => fail offset "Expression returns void".toList

/-- Marks the function unless the type is there. -/
def orInvalid : Option Ty → Check Ty
  | some t => return t
  | none => do
    markInvalid
    return .unknown

/-- The type of a field or a swizzle. -/
def selected (base : Ty) (field : List Char) (offset : Nat) : Check Ty := do
  match base with
  | .vector s n =>
    if Ty.isSwizzle n field then
      if 4 < field.length then
        note offset ("Bad swizzle size for ".toList ++ Text.quoted field)
      return Ty.swizzled s (min field.length 4)
    else fail offset ("Invalid swizzle for vector ".toList ++ Text.quoted field)
  | .record r =>
    match (← get).records.find? fun d => d.name == r with
    | some d =>
      match d.fields.find? fun f => f.1 == field with
      | some f => return f.2
      | none => fail offset ("Unknown field: ".toList ++ field)
    | none => return .unknown
  | .unknown => return .unknown
  | _ => fail offset ("Can't lookup field on this type ".toList ++ Text.quoted field)

/-- Notes that a value of type `t` is wanted as one of type `target`, by a statement. -/
def wantStatement (target t : Ty) : Check Unit := do
  if target.clashes t then markStatement

/-- Notes that a value of type `t` is stored in a variable, by a statement. -/
def storeInto (target : Expr) (targetTy t : Ty) : Check Ty := do
  let t := targetTy.raiseTo t
  wantStatement targetTy t
  match target.root? with
  | some v => if !v.storable then markStatement
  | none => pure ()
  return t

/-- The type of the two branches of a choice. -/
def joined (accept reject : Ty) : Check Ty := do
  let a := reject.raiseTo accept
  let r := accept.raiseTo reject
  wantStatement a r
  return a

mutual

/-- Types an expression; nothing is answered for a call without a value.  The expression is in the
place of a variable if it is assigned to. -/
def typeOf? (place : Bool) : Expr → Check (Option Ty)
  | .literal t _ => return some t
  | .named v offset => do
    if place && !v.assignable then
      note offset "Variable cannot be used in LHS position".toList
    return some v.ty
  | .call callee arguments offset => do
    let ts ← typesOf arguments
    match callee with
    | .constructor ty =>
      let ty := ty.built ts.length
      if !ty.isBuiltFrom ts then markInvalid
      return some ty
    | .function name =>
      match ← resolve name ts offset with
      | .inr t => return some t
      | .inl f =>
        passPlaces arguments (f.params.map Prod.snd)
        return f.result
  | .method base arguments _ => do
    let _ ← answered base.offset (← typeOf? false base)
    let _ ← typesOf arguments
    return some .unknown
  | .select base field offset => do
    let t ← answered base.offset (← typeOf? place base)
    return some (← selected t field offset)
  | .index base position _ => do
    let p ← answered position.offset (← typeOf? false position)
    let t ← answered base.offset (← typeOf? place base)
    if p.isKnown && p != .scalar .int && p != .scalar .uint then markInvalid
    return some t.element
  | .unary op e _ => do
    let t ← answered e.offset (← typeOf? false e)
    return some (← orInvalid (op.result? t))
  | .binary op l r _ => do
    let lt ← answered l.offset (← typeOf? false l)
    let rt ← answered r.offset (← typeOf? false r)
    if lt.isKnown && rt.isKnown then return some (← orInvalid (op.result? lt rt))
    else return some op.guess
  | .count e _ => do
    let t ← answered e.offset (← typeOf? true e)
    return some (← storeInto e t t)
  | .choice condition accept reject _ => do
    let c ← answered condition.offset (← typeOf? false condition)
    wantStatement .bool c
    let a ← answered accept.offset (← typeOf? false accept)
    let r ← answered reject.offset (← typeOf? false reject)
    return some (← joined a r)
  | .assign target value _ => do
    let t ← answered target.offset (← typeOf? true target)
    let v ← answered value.offset (← typeOf? false value)
    return some (← storeInto target t v)

/-- Types the arguments of a call. -/
def typesOf : List Expr → Check (List Ty)
  | [] => return []
  | e :: es => do
    let t ← answered e.offset (← typeOf? false e)
    return t :: (← typesOf es)

/-- Types the arguments that are passed as variables once more, in the place of a variable. -/
def passPlaces : List Expr → List Passing → Check Unit
  | e :: es, p :: ps => do
    if p.needsVariable then
      let _ ← answered e.offset (← typeOf? true e)
    passPlaces es ps
  | _, _ => return

end

/-- Types an expression that has a value. -/
def typeOf (e : Expr) : Check Ty := do answered e.offset (← typeOf? false e)

end Check

end Glsl

end ShaderPreview
