import ShaderPreview.Glsl.Ty

/-!
# Built-in functions

Most built-in functions come in families: one function for each kind and each size of the operands.
`Builtin.result?` finds the member of a family that takes the given arguments and answers its type.
-/

namespace ShaderPreview

namespace Glsl

namespace Builtin

/-- A parameter or the answer of a family. -/
inductive Slot where
  /-- The type of the member. -/
  | same
  /-- One component of that type. -/
  | single
  /-- The size of that type with components of a fixed kind. -/
  | kind (s : Scalar)
  | fixed (t : Ty)

/-- A family of functions of the same names. -/
structure Family where
  names : List String
  kinds : List Scalar
  sizes : List Nat
  params : List Slot
  result : Slot

/-- The type of a kind and a size, where the size one stands for a single component. -/
def sized (s : Scalar) (n : Nat) : Ty := if n = 1 then .scalar s else .vector s n

/-- What a slot stands for in the member of a kind and a size. -/
def Slot.ty (s : Scalar) (n : Nat) : Slot → Ty
  | same => sized s n
  | single => .scalar s
  | kind k => sized k n
  | fixed t => t

/-- The answer of the first member that takes the arguments. -/
def Family.result? (f : Family) (args : List Ty) : Option Ty :=
  if args.length != f.params.length then none
  else
    f.kinds.findSome? fun s =>
      f.sizes.findSome? fun n =>
        if (f.params.zip args).all fun (p, t) => (p.ty s n).accepts t then some (f.result.ty s n)
        else none

/-- Components, and vectors of them. -/
def allSizes : List Nat := [1, 2, 3, 4]

/-- Vectors. -/
def vectorSizes : List Nat := [2, 3, 4]

/-- The kinds of numbers. -/
def numbers : List Scalar := [.int, .uint, .float]

/-- The families. -/
def families : List Family :=
  [⟨["radians", "degrees", "sin", "cos", "tan", "asin", "acos", "atan", "sinh", "cosh", "tanh",
      "asinh", "acosh", "atanh", "exp", "log", "exp2", "log2", "sqrt", "inversesqrt", "floor",
      "trunc", "round", "roundEven", "ceil", "fract", "normalize", "dFdx", "dFdy", "dFdxFine",
      "dFdyFine", "dFdxCoarse", "dFdyCoarse", "fwidth", "fwidthFine", "fwidthCoarse"],
      [.float], allSizes, [.same], .same⟩,
    ⟨["abs", "sign"], [.int, .float], allSizes, [.same], .same⟩,
    ⟨["length"], [.float], allSizes, [.same], .single⟩,
    ⟨["isnan", "isinf"], [.float], allSizes, [.same], .kind .bool⟩,
    ⟨["atan", "pow", "mod", "step", "reflect", "ldexp", "modf"], [.float], allSizes,
      [.same, .same], .same⟩,
    ⟨["mod", "step"], [.float], vectorSizes, [.single, .same], .same⟩,
    ⟨["mod"], [.float], vectorSizes, [.same, .single], .same⟩,
    ⟨["distance", "dot"], [.float], allSizes, [.same, .same], .single⟩,
    ⟨["cross"], [.float], [3], [.same, .same], .same⟩,
    ⟨["min", "max"], numbers, allSizes, [.same, .same], .same⟩,
    ⟨["min", "max"], numbers, vectorSizes, [.same, .single], .same⟩,
    ⟨["clamp"], numbers, allSizes, [.same, .same, .same], .same⟩,
    ⟨["clamp"], numbers, vectorSizes, [.same, .single, .single], .same⟩,
    ⟨["mix", "smoothstep", "fma", "faceforward"], [.float], allSizes, [.same, .same, .same], .same⟩,
    ⟨["mix", "refract"], [.float], allSizes, [.same, .same, .single], .same⟩,
    ⟨["mix"], numbers ++ [.bool], allSizes, [.same, .same, .kind .bool], .same⟩,
    ⟨["smoothstep"], [.float], vectorSizes, [.single, .single, .same], .same⟩,
    ⟨["lessThan", "lessThanEqual", "greaterThan", "greaterThanEqual", "equal", "notEqual"],
      numbers, vectorSizes, [.same, .same], .kind .bool⟩,
    ⟨["equal", "notEqual"], [.bool], vectorSizes, [.same, .same], .kind .bool⟩,
    ⟨["any", "all"], [.bool], vectorSizes, [.same], .single⟩,
    ⟨["not"], [.bool], vectorSizes, [.same], .same⟩,
    ⟨["floatBitsToInt"], [.float], allSizes, [.same], .kind .int⟩,
    ⟨["floatBitsToUint"], [.float], allSizes, [.same], .kind .uint⟩,
    ⟨["intBitsToFloat"], [.int], allSizes, [.same], .kind .float⟩,
    ⟨["uintBitsToFloat"], [.uint], allSizes, [.same], .kind .float⟩,
    ⟨["bitCount", "findLSB", "findMSB"], [.int, .uint], allSizes, [.same], .kind .int⟩,
    ⟨["bitfieldReverse"], [.int, .uint], allSizes, [.same], .same⟩,
    ⟨["bitfieldExtract"], [.int, .uint], allSizes,
      [.same, .fixed (.scalar .int), .fixed (.scalar .int)], .same⟩,
    ⟨["bitfieldInsert"], [.int, .uint], allSizes,
      [.same, .same, .fixed (.scalar .int), .fixed (.scalar .int)], .same⟩,
    ⟨["packSnorm2x16", "packUnorm2x16", "packHalf2x16"], [.uint], [1], [.fixed (.vec 2)], .same⟩,
    ⟨["packSnorm4x8", "packUnorm4x8"], [.uint], [1], [.fixed (.vec 4)], .same⟩,
    ⟨["unpackSnorm2x16", "unpackUnorm2x16", "unpackHalf2x16"], [.uint], [1], [.same],
      .fixed (.vec 2)⟩,
    ⟨["unpackSnorm4x8", "unpackUnorm4x8"], [.uint], [1], [.same], .fixed (.vec 4)⟩]

/-- The answer of a function of matrices. -/
def matrixResult? (name : List Char) : List Ty → Option Ty
  | [.matrix s c r] =>
    if name = "transpose".toList then some (.matrix s r c)
    else if name = "inverse".toList ∧ c = r then some (.matrix s c r)
    else if name = "determinant".toList ∧ c = r then some (.scalar s)
    else none
  | [.matrix s c r, t] =>
    if name = "matrixCompMult".toList ∧ t = .matrix s c r then some t else none
  | [.vector .float r, .vector .float c] =>
    if name = "outerProduct".toList then some (.matrix .float c r) else none
  | _ => none

/-- The functions whose first argument is a picture. -/
def pictureFunctions : List String :=
  ["texture", "textureGrad", "textureGradOffset", "textureLod", "textureLodOffset",
    "textureOffset", "textureProj", "textureProjGrad", "textureProjGradOffset", "textureProjLod",
    "textureProjLodOffset", "textureProjOffset", "textureSize", "textureQueryLevels", "texelFetch",
    "texelFetchOffset", "imageSize", "imageLoad", "imageStore"]

/-- The name belongs to a built-in function. -/
def isName (name : List Char) : Bool :=
  (families.flatMap Family.names ++ pictureFunctions ++
    ["transpose", "inverse", "determinant", "matrixCompMult", "outerProduct"]).any fun n =>
      n.toList == name

/-- The type of the answer, if a built-in function of the name takes the arguments. -/
def result? (name : List Char) (args : List Ty) : Option Ty :=
  if !isName name then none
  else if args.any fun t => !t.isKnown then some .unknown
  else
    (families.findSome? fun f =>
      if f.names.any fun n => n.toList == name then f.result? args else none).orElse fun _ =>
        matrixResult? name args

end Builtin

end Glsl

end ShaderPreview
