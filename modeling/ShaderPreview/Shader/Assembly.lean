import ShaderPreview.Shader.EntryPoint
import ShaderPreview.Shader.Fate
import ShaderPreview.Shader.Program

/-!
# Assemblies

A shader source is split into its parts: definitions, the code before the entry point, the entry
point, and the code behind it.  `Assembly.ofSource` yields the parts together with the complete
program made of them, or the reason why there is none.
-/

namespace ShaderPreview

namespace Shader

/-- The parts of a shader and the program assembled from them. -/
structure Assembly where
  /-- The definitions moved to the front, continuation lines included. -/
  definitions : List (List Char)
  bodyBefore : List Char
  /-- The definition of the entry point, from its signature through its closing brace. -/
  entry : List Char
  /-- The byte offset of the opening brace in `entry`. -/
  entryBodyOffset : Nat
  bodyAfter : List Char
  /-- The author's name of the colour parameter. -/
  colorName : List Char
  /-- The author's name of the coordinate parameter. -/
  coordName : List Char
  /-- The standard uniforms that the program reads. -/
  uniforms : UniformSet
  program : List Char

namespace Assembly

/-- The code around the entry point. -/
def body (a : Assembly) : List Char := a.bodyBefore ++ a.bodyAfter

/-- The braced body of the entry point. -/
def entryBody (a : Assembly) : List Char := (Text.splitAtByte a.entryBodyOffset a.entry).2

/-- The author's code in its first order, without what was moved or stripped. -/
def reassembled (a : Assembly) : List Char := a.bodyBefore ++ a.entry ++ a.bodyAfter

/-- The uniforms that the program reads: those named by the definitions or by the code that stays,
and the size, which the generated `main` reads. -/
def usedUniforms (definitions : List (List Char)) (working : List Char) : UniformSet :=
  (UniformSet.ofSource (Text.join ['\n'] definitions ++ ['\n'] ++ working)).insert .resolution

/-- The assembly with the given definitions whose entry point stands at `e` in the code that
stays. -/
def ofEntryPoint (definitions : List (List Char)) (working : List Char) (e : EntryPoint) :
    Assembly :=
  let (before, rest) := Text.splitAtByte e.start working
  let (entry, after) := Text.splitAtByte (e.stop - e.start) rest
  { definitions
    bodyBefore := before
    entry
    entryBodyOffset := e.bodyStart - e.start
    bodyAfter := after
    colorName := e.signature.colorName
    coordName := e.signature.coordName
    uniforms := usedUniforms definitions working
    program := Program.assemble definitions (before ++ after) entry }

end Assembly

/-- What is said about a source besides its assembly. -/
structure Remarks where
  /-- How many header directives and uniform declarations were stripped. -/
  stripped : Nat
  /-- The entry point is declared again behind its definition. -/
  redeclared : Bool
  deriving DecidableEq, Repr

/-- The assembly of a source, with remarks. -/
def Assembly.read (source : List Char) : Except SourceError (Assembly × Remarks) :=
  let fs := fates source
  let working := keptText fs
  (EntryPoint.locate (tokens working)).map fun e =>
    (Assembly.ofEntryPoint (movedDefinitions fs) working e,
      ⟨strippedCount fs, declaresEntryPoint e.rest⟩)

/-- The assembly of a source. -/
def Assembly.ofSource (source : List Char) : Except SourceError Assembly :=
  (Assembly.read source).map Prod.fst

end Shader

end ShaderPreview
