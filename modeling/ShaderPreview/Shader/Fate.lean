import ShaderPreview.Shader.Comment
import ShaderPreview.Shader.Uniform
import ShaderPreview.Text.Lines

/-!
# The fate of each line

Before the entry point is looked for, each line of a source is given exactly one *fate*: it is kept
as it is; it is a header directive, which the assembled program brings along itself, and is
dropped; it declares a standard uniform again, and only what follows the declaration is kept; or it
opens or continues a macro definition that is moved to the front.

`fates` runs `LineState.step` over the lines.  A definition moves only while no conditional is open
and no `#undef` was met, so that conditionals keep selecting between definitions.  `keptText`,
`movedDefinitions` and `strippedCount` read the result off the fates.
-/

namespace ShaderPreview

namespace Shader

/-- What becomes of a line. -/
inductive Fate where
  /-- The line stays. -/
  | kept (line : List Char)
  /-- The line is a header directive and is dropped. -/
  | header
  /-- The line starts with a declaration of a standard uniform; `rest` follows the declaration and
  stays if it is not blank. -/
  | redeclaration (rest : List Char)
  /-- The line opens a definition that is moved. -/
  | opensDefinition (text : List Char)
  /-- The line continues the definition before it. -/
  | continuesDefinition (text : List Char)
  deriving DecidableEq, Repr

/-! ## Recognising a line -/

/-- The keyword of a preprocessor line that starts with `#`: `ifdef` for `#  ifdef HQ`. -/
def directive? : List Char → Option (List Char)
  | '#' :: s => some ((Text.trimStart s).takeWhile Char.isAlpha)
  | _ => none

/-- The text behind `w`, if the text starts with `w`. -/
def afterPrefix? (w : List Char) (s : List Char) : Option (List Char) :=
  if w.isPrefixOf s then some (s.drop w.length) else none

/-- A line that the assembled program brings along itself: the version, or a default precision. -/
def isHeaderDirective (line : List Char) : Bool :=
  directive? line == some "version".toList ||
    match afterPrefix? "precision".toList line with
    | some (c :: _) => Text.isBlank c
    | _ => false

/-- A definition line goes on in the next one if it ends in a backslash. -/
def endsInBackslash (line : List Char) : Bool := line.getLast? == some '\\'

/-- Splits off a leading declaration of a standard uniform; the answer is what follows it. -/
def afterRedeclaration? (line : List Char) : Option (List Char) :=
  (redeclarationEnd? line).map fun n => (Text.splitAtByte n line).2

/-! ## Running over the lines -/

/-- What is known before a line. -/
structure LineState where
  /-- A block comment is open. -/
  inComment : Bool
  /-- The number of conditionals that are open. -/
  depth : Nat
  /-- Definitions are still moved to the front. -/
  hoisting : Bool
  /-- The line before it is part of a moved definition and ends in a backslash. -/
  continuing : Bool
  deriving DecidableEq, Repr

namespace LineState

/-- The state before the first line. -/
def start : LineState := ⟨false, 0, true, false⟩

/-- The fate of a line with the given directive, apart from comments and continuations, and the
state behind it. -/
def stepDirective (st : LineState) (line : List Char) : Fate × LineState :=
  match directive? (Text.trimStart line) with
  | some d =>
    if d = "if".toList ∨ d = "ifdef".toList ∨ d = "ifndef".toList then
      (.kept line, { st with depth := st.depth + 1 })
    else if d = "endif".toList then (.kept line, { st with depth := st.depth - 1 })
    else if d = "undef".toList then (.kept line, { st with hoisting := false })
    else if d = "define".toList ∧ st.hoisting ∧ st.depth = 0 ∧ ¬ st.inComment then
      let text := Text.trim line
      (.opensDefinition text, { st with continuing := endsInBackslash text })
    else (.kept line, st)
  | none => (.kept line, st)

/-- The fate of a line that starts outside comments and moved definitions; the state already holds
what the line does to comments. -/
def stepCode (st : LineState) (line : List Char) : Fate × LineState :=
  if isHeaderDirective (Text.trimStart line) then (.header, st)
  else
    match afterRedeclaration? (Text.trimStart line) with
    | some rest => (.redeclaration rest, st)
    | none => st.stepDirective line

/-- The fate of a line and the state behind it. -/
def step (st : LineState) (line : List Char) : Fate × LineState :=
  let after := { st with inComment := commentOpenAfter line st.inComment }
  if st.continuing then
    let text := Text.trimEnd line
    (.continuesDefinition text, { after with continuing := endsInBackslash text })
  else if st.inComment then (.kept line, after)
  else after.stepCode line

end LineState

/-- The fates of lines that are met in the given state. -/
def fatesFrom (st : LineState) : List (List Char) → List Fate
  | [] => []
  | l :: ls =>
    let (fate, after) := st.step l
    fate :: fatesFrom after ls

/-- The fates of the lines of a source. -/
def fates (source : List Char) : List Fate := fatesFrom .start (Text.lines source)

/-! ## Reading the fates -/

namespace Fate

/-- The line that stays of a line. -/
def remains? : Fate → Option (List Char)
  | kept line => some line
  | redeclaration rest => if Text.isAllBlank rest then none else some rest
  | _ => none

/-- The line is dropped, at least up to a declaration. -/
def isStripped : Fate → Bool
  | header => true
  | redeclaration _ => true
  | _ => false

end Fate

/-- The text in which the entry point is looked for: all that stays of the lines. -/
def keptText (fs : List Fate) : List Char := Text.unlines (fs.filterMap Fate.remains?)

/-- The lines that continue a definition, from the front. -/
def continuations : List Fate → List (List Char)
  | .continuesDefinition t :: fs => t :: continuations fs
  | _ => []

/-- The lines of each moved definition. -/
def movedLines : List Fate → List (List (List Char))
  | [] => []
  | .opensDefinition t :: fs => (t :: continuations fs) :: movedLines fs
  | _ :: fs => movedLines fs

/-- The moved definitions, in order. -/
def movedDefinitions (fs : List Fate) : List (List Char) := (movedLines fs).map (Text.join ['\n'])

/-- The number of lines that were stripped. -/
def strippedCount (fs : List Fate) : Nat := fs.countP Fate.isStripped

end Shader

end ShaderPreview
