import ShaderPreview.Glsl.Ty

/-!
# Expressions of a program

An expression is read before it is typed, since faults of names come before faults of types.  Every
name of a variable is already looked up; each expression knows the byte offset of its first lexeme.
-/

namespace ShaderPreview

namespace Glsl

/-- A variable in scope. -/
structure Variable where
  name : List Char
  ty : Ty
  /-- An assignment may name it. -/
  assignable : Bool
  /-- A value can be stored in it; the uniforms of a block only look assignable. -/
  storable : Bool
  deriving DecidableEq, Repr

/-- An operator between two operands. -/
inductive BinaryOp where
  | add
  | sub
  | mul
  | div
  | rem
  | shiftLeft
  | shiftRight
  | bitAnd
  | bitXor
  | bitOr
  | equal
  | notEqual
  | less
  | greater
  | lessEqual
  | greaterEqual
  | and
  | xor
  | or
  deriving DecidableEq, Repr

/-- The marks of the operators, with how tightly they bind. -/
def BinaryOp.marks : List (String × BinaryOp × Nat) :=
  [("||", or, 1), ("^^", xor, 3), ("&&", and, 5), ("|", bitOr, 7), ("^", bitXor, 9),
    ("&", bitAnd, 11), ("==", equal, 13), ("!=", notEqual, 13), ("<=", lessEqual, 15),
    (">=", greaterEqual, 15), ("<", less, 15), (">", greater, 15), ("<<", shiftLeft, 17),
    (">>", shiftRight, 17), ("+", add, 19), ("-", sub, 19), ("*", mul, 21), ("/", div, 21),
    ("%", rem, 21)]

/-- The marks that assign; all but the first also combine with the old value. -/
def BinaryOp.assigningMarks : List (String × Option BinaryOp) :=
  [("=", none), ("+=", some add), ("-=", some sub), ("*=", some mul), ("/=", some div),
    ("%=", some rem), ("<<=", some shiftLeft), (">>=", some shiftRight), ("&=", some bitAnd),
    ("^=", some bitXor), ("|=", some bitOr)]

/-- An operator in front of one operand. -/
inductive UnaryOp where
  | negate
  | not
  | bitNot
  deriving DecidableEq, Repr

/-- What a call calls. -/
inductive Callee where
  | function (name : List Char)
  | constructor (ty : Ty)
  deriving DecidableEq, Repr

/-- An expression. -/
inductive Expr where
  | literal (ty : Ty) (offset : Nat)
  | named (v : Variable) (offset : Nat)
  | call (callee : Callee) (args : List Expr) (offset : Nat)
  /-- A call of a function on a value, as for the length of an array. -/
  | method (base : Expr) (args : List Expr) (offset : Nat)
  | select (base : Expr) (field : List Char) (offset : Nat)
  | index (base position : Expr) (offset : Nat)
  | unary (op : UnaryOp) (e : Expr) (offset : Nat)
  | binary (op : BinaryOp) (l r : Expr) (offset : Nat)
  /-- Counting up or down by one. -/
  | count (e : Expr) (offset : Nat)
  | choice (condition accept reject : Expr) (offset : Nat)
  | assign (target value : Expr) (offset : Nat)

namespace Expr

/-- The byte offset of the first lexeme. -/
def offset : Expr → Nat
  | literal _ o => o
  | named _ o => o
  | call _ _ o => o
  | method _ _ o => o
  | select _ _ o => o
  | index _ _ o => o
  | unary _ _ o => o
  | binary _ _ _ o => o
  | count _ o => o
  | choice _ _ _ o => o
  | assign _ _ o => o

/-- The variable whose name an assignment to the expression names. -/
def root? : Expr → Option Variable
  | named v _ => some v
  | select base _ _ => base.root?
  | index base _ _ => base.root?
  | _ => none

end Expr

end Glsl

end ShaderPreview
