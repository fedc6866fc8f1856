import ShaderPreview.Diagnostic.Excerpt
import ShaderPreview.Diagnostic.Position

/-!
# Diagnostics

A diagnostic says which stage of a program was refused, where, and why.
-/

namespace ShaderPreview

/-- A stage of a program. -/
inductive Stage where
  | vertex
  | fragment
  deriving DecidableEq, Repr

/-- The name of a stage. -/
def Stage.name : Stage → String
  | vertex => "vertex"
  | fragment => "fragment"

/-- A fault that a check of one stage found: its position, from one, and its text. -/
structure StageFault where
  stage : Stage
  line : Nat
  column : Nat
  message : List Char
  deriving DecidableEq, Repr

/-- A refused program. -/
structure Diagnostic where
  stage : Stage
  line : Option Nat
  column : Option Nat
  message : List Char
  excerpt : Option (List Char)
  deriving DecidableEq, Repr

namespace Diagnostic

/-- The diagnostic of a fault in the given text. -/
def ofFault (fault : StageFault) (source : List Char) : Diagnostic :=
  { stage := fault.stage
    line := some fault.line
    column := some fault.column
    message := fault.message
    excerpt := Excerpt.ofSource? source fault.line }

/-- The diagnostic of a message that may name a position in the given text. -/
def ofMessage (stage : Stage) (message source : List Char) : Diagnostic :=
  match Position.find? message with
  | some (line, column, rest) =>
    ⟨stage, some line, some column, Text.trim rest, Excerpt.ofSource? source line⟩
  | none => ⟨stage, none, none, Text.trim message, none⟩

/-- Where the fault lies, as it is shown. -/
def place (d : Diagnostic) : List Char :=
  match d.line, d.column with
  | some line, some column =>
    " at ".toList ++ Decimal.ofNat line ++ [':'] ++ Decimal.ofNat column
  | some line, none => " at line ".toList ++ Decimal.ofNat line
  | none, _ => []

/-- The diagnostic as it is shown. -/
def display (d : Diagnostic) : List Char :=
  d.stage.name.toList ++ " shader failed to compile".toList ++ d.place ++ ": ".toList ++
    d.message ++
    match d.excerpt with
    | some e => '\n' :: e
    | none => []

end Diagnostic

end ShaderPreview
