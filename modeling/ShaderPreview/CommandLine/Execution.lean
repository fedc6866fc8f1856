import ShaderPreview.CommandLine.Arguments
import ShaderPreview.CommandLine.Plan
import ShaderPreview.Gpu.Validation
import ShaderPreview.Settings.Location
import ShaderPreview.Shader.Record

/-!
# Executing an invocation

Every command loads the settings first and reads the shader second.  Files are read in an arbitrary
monad, so that the commands can run on a real directory and on a given one alike.
-/

namespace ShaderPreview

/-- What commands find around them. -/
structure Surroundings (m : Type → Type) where
  environment : Environment
  readFile : List Char → m FileText
  graphics : Gpu.World
  today : Date

namespace Invocation

/-- The result of a step that may fail. -/
abbrev Step (m : Type → Type) (α : Type) := ExceptT Failure m α

variable {m : Type → Type} [Monad m]

/-- Loads the settings from the given path, or else from where they are kept. -/
def loadSettings (s : Surroundings m) (config : Option (List Char)) : Step m Settings := do
  match config <|> Settings.path? s.environment with
  | none => return .default
  | some path =>
    match Settings.ofFile (← s.readFile path) with
    | .ok settings => return settings
    | .error e => throw (.because ("failed to load config ".toList ++ path) (e.causes path))

/-- Reads the text of a shader. -/
def readShader (s : Surroundings m) (path : List Char) : Step m (List Char) := do
  match ← s.readFile path with
  | .ok t => return t
  | .error e =>
    throw (.because ("failed to read shader ".toList ++ path) [e.message.toList])

/-- The text of an assembly: its program, or all its parts. -/
def assemblyText (json : Bool) (a : Shader.Assembly) : List Char :=
  if json then a.toJson.toText ++ ['\n'] else a.program

/-- Assembles a source. -/
def translated (path source : List Char) (json : Bool) : Except Failure (List Char) :=
  match Shader.Assembly.ofSource source with
  | .ok a => .ok (assemblyText json a)
  | .error e =>
    .error (.because ("failed to translate ".toList ++ path) [e.message.toList])

/-- The lines that say a source is valid. -/
def validText (path : List Char) (r : Gpu.ValidationReport) : List Char :=
  if r.isClean then path ++ ": ok\n".toList
  else
    path ++ ": ok with ".toList ++ Decimal.ofNat r.warnings.length ++ " warning(s)\n".toList ++
      r.warnings.flatMap fun w => "  warning: ".toList ++ w ++ ['\n']

/-- Validates a source. -/
def checked (s : Surroundings m) (options : GpuOptions) (path source : List Char) :
    Except Failure (List Char) :=
  match (Gpu.validate options source s.today s.graphics).1 with
  | .ok r => .ok (validText path r)
  | .error (.connect (.compile d)) =>
    .error ⟨d.display ++ ['\n'], path ++ " failed to compile".toList, []⟩
  | .error e =>
    .error (.because ("failed to validate ".toList ++ path) [e.message])

/-- Reads what a run needs. -/
def prepare (s : Surroundings m) (a : RunArguments) (settings : Settings) : Step m PreviewPlan := do
  let source ← readShader s a.shader
  PreviewPlan.ofArguments a settings source

/-- Executes a command under the given settings; the answer is what it writes. -/
def executeCommand (s : Surroundings m) (settings : Settings) : Command → Step m (List Char)
  | .run a => do
    let _ ← prepare s a settings
    throw PreviewPlan.withoutScreen
  | .translate shader json => do
    let source ← readShader s shader
    translated shader source json
  | .check shader => do
    let source ← readShader s shader
    checked s settings.gpu shader source

/-- Executes an invocation. -/
def execute (s : Surroundings m) (i : Invocation) : m Outcome := do
  let result ← (do executeCommand s (← loadSettings s i.config) i.command : Step m _).run
  return .ofResult result

end Invocation

/-- The outcome of arguments that make no invocation. -/
def UsageError.outcome (e : UsageError) : Outcome :=
  if e.isAnswer then ⟨e.exitStatus, e.message.toList, []⟩
  else ⟨e.exitStatus, [], e.message.toList⟩

/-- Runs the program with the given arguments. -/
def runProgram {m : Type → Type} [Monad m] (s : Surroundings m) (arguments : List (List Char)) :
    m Outcome :=
  match Invocation.ofArguments (s.environment "FRAGSCOPE_CONFIG") arguments with
  | .error e => return e.outcome
  | .ok i => i.execute s

end ShaderPreview
