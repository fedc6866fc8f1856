import ShaderPreview.Number.Decimal

/-!
# Types of a program

Numbers, truth values, and the vectors, matrices, arrays and records made of them.  A value converts
by itself to a number kind of a higher rank.  `Ty.unknown` stands for every type that the checker
does not follow; it clashes with nothing.
-/

namespace ShaderPreview

namespace Glsl

/-- The kind of a component. -/
inductive Scalar where
  | bool
  | int
  | uint
  | float
  | double
  deriving DecidableEq, Repr

/-- The rank of a number kind: values convert by themselves to a higher rank. -/
def Scalar.rank? : Scalar → Option Nat
  | bool => none
  | int => some 0
  | uint => some 1
  | float => some 2
  | double => some 3

/-- Numbers of the kind are whole. -/
def Scalar.isInteger : Scalar → Bool
  | int => true
  | uint => true
  | _ => false

/-- The kind has an order and arithmetic. -/
def Scalar.isNumber (s : Scalar) : Bool := s != bool

/-- A type. -/
inductive Ty where
  | scalar (s : Scalar)
  | vector (s : Scalar) (size : Nat)
  | matrix (s : Scalar) (columns rows : Nat)
  /-- An array; the size is missing if it is not a plain number. -/
  | array (element : Ty) (size : Option Nat)
  | record (name : List Char)
  | unknown
  deriving DecidableEq, Repr

namespace Ty

/-- The type of a truth value. -/
def bool : Ty := scalar .bool

/-- The type of a number with a fraction. -/
def float : Ty := scalar .float

/-- The type of a vector of such numbers. -/
def vec (size : Nat) : Ty := vector .float size

/-- The kind of the components. -/
def scalar? : Ty → Option Scalar
  | scalar s => some s
  | vector s _ => some s
  | matrix s _ _ => some s
  | _ => none

/-- The type of the same shape with components of the given kind. -/
def withScalar (s : Scalar) : Ty → Ty
  | scalar _ => scalar s
  | vector _ n => vector s n
  | matrix _ c r => matrix s c r
  | t => t

/-- The type of a value after it converted by itself towards a kind. -/
def raise (target : Scalar) (t : Ty) : Ty :=
  match target.rank?, t.scalar?.bind Scalar.rank? with
  | some m, some n => if n < m then t.withScalar target else t
  | _, _ => t

/-- The type of a value after it converted by itself towards a type. -/
def raiseTo (target t : Ty) : Ty :=
  match target.scalar? with
  | some s => t.raise s
  | none => t

/-- The checker follows the type in every part. -/
def isKnown : Ty → Bool
  | array t size => t.isKnown && size.isSome
  | unknown => false
  | _ => true

/-- Two types that are certainly not the same. -/
def clashes (a b : Ty) : Bool := a.isKnown && b.isKnown && a != b

/-- A value of type `t` can be passed where `target` is wanted. -/
def accepts (target t : Ty) : Bool := !target.clashes (raiseTo target t)

/-- The number of components a constructor takes from a value, if it is known. -/
def componentCount? : Ty → Option Nat
  | scalar _ => some 1
  | vector _ n => some n
  | matrix _ c r => some (c * r)
  | _ => none

/-- The type behind an index. -/
def element : Ty → Ty
  | vector s _ => scalar s
  | matrix s _ r => vector s r
  | array t _ => t
  | _ => unknown

/-! ## Names -/

/-- The kind of a vector whose name starts with the given letters. -/
def vectorKinds : List (String × Scalar) :=
  [("vec", .float), ("bvec", .bool), ("ivec", .int), ("uvec", .uint), ("dvec", .double)]

/-- The kind of a matrix whose name starts with the given letters. -/
def matrixKinds : List (String × Scalar) := [("mat", .float), ("dmat", .double)]

/-- The names of types that hold pictures. -/
def pictureWords : List String :=
  let shapes := ["1D", "1DArray", "2D", "2DArray", "3D"]
  ["sampler", "samplerShadow"] ++
    (["", "i", "u"].flatMap fun k =>
      ((shapes ++ ["2DMS", "2DMSArray", "Cube", "CubeArray"]).map fun s => k ++ "texture" ++ s) ++
        shapes.map fun s => k ++ "image" ++ s)

/-- The size that a digit of a name stands for. -/
def sizeOf? (c : Char) : Option Nat :=
  if c = '2' then some 2 else if c = '3' then some 3 else if c = '4' then some 4 else none

/-- The text behind the given letters, if the word starts with them. -/
def behind? (letters : String) (w : List Char) : Option (List Char) :=
  if letters.toList.isPrefixOf w then some (w.drop letters.length) else none

/-- The vector type of a name. -/
def vectorOfWord? (w : List Char) : Option Ty :=
  vectorKinds.findSome? fun (letters, s) =>
    match behind? letters w with
    | some [c] => (sizeOf? c).map (vector s)
    | _ => none

/-- The matrix type of a name. -/
def matrixOfWord? (w : List Char) : Option Ty :=
  matrixKinds.findSome? fun (letters, s) =>
    match behind? letters w with
    | some [c] => (sizeOf? c).map fun n => matrix s n n
    | some [c, 'x', r] => (sizeOf? c).bind fun c => (sizeOf? r).map (matrix s c)
    | _ => none

/-- The type that a reserved word names. -/
def ofWord? (w : List Char) : Option Ty :=
  if w = "float".toList then some float
  else if w = "int".toList then some (scalar .int)
  else if w = "uint".toList then some (scalar .uint)
  else if w = "bool".toList then some bool
  else if w = "double".toList then some (scalar .double)
  else if pictureWords.any fun p => p.toList == w then some unknown
  else (vectorOfWord? w).orElse fun _ => matrixOfWord? w

/-! ## Swizzles -/

/-- The three alphabets of component letters. -/
def swizzleAlphabets : List (List Char) := ["xyzw".toList, "rgba".toList, "stpq".toList]

/-- The letters name components of a vector of the given size. -/
def isSwizzle (size : Nat) (letters : List Char) : Bool :=
  swizzleAlphabets.any fun alphabet => letters.all (alphabet.take size).contains

/-- The type that a swizzle of the given length selects. -/
def swizzled (s : Scalar) (length : Nat) : Ty := if length = 1 then scalar s else vector s length

/-! ## How a type is shown -/

/-- A component kind, as it is shown. -/
def showScalar : Scalar → String
  | .bool => "Scalar \x7b kind: Bool, width: 1 \x7d"
  | .int => "Scalar \x7b kind: Sint, width: 4 \x7d"
  | .uint => "Scalar \x7b kind: Uint, width: 4 \x7d"
  | .float => "Scalar \x7b kind: Float, width: 4 \x7d"
  | .double => "Scalar \x7b kind: Float, width: 8 \x7d"

/-- A size, as it is shown. -/
def showSize (n : Nat) : String := if n = 2 then "Bi" else if n = 3 then "Tri" else "Quad"

/-- The inside of a type, as it is shown. -/
def showInner : Ty → String
  | scalar s => "Scalar(" ++ showScalar s ++ ")"
  | vector s n => "Vector \x7b size: " ++ showSize n ++ ", scalar: " ++ showScalar s ++ " \x7d"
  | matrix s c r =>
    "Matrix \x7b columns: " ++ showSize c ++ ", rows: " ++ showSize r ++ ", scalar: " ++
      showScalar s ++ " \x7d"
  | _ => "Sampler \x7b comparison: false \x7d"

/-- A type, as it is shown. -/
def display (t : Ty) : String := "Type \x7b name: None, inner: " ++ showInner t ++ " \x7d"

end Ty

end Glsl

end ShaderPreview
