/-!
# Invocations

An invocation names a command and a shader.  Arguments that make no invocation are a usage error;
asking for help or for the version counts as one, since no command is run either.
-/

namespace ShaderPreview

/-- What the program can do with a shader. -/
inductive CommandName where
  | run
  | translate
  | check
  deriving DecidableEq, Repr

/-- The text of a command's name. -/
def CommandName.text : CommandName → String
  | run => "run"
  | translate => "translate"
  | check => "check"

/-- All commands. -/
def CommandName.all : List CommandName := [run, translate, check]

/-- The command with the given name. -/
def CommandName.ofText? (s : List Char) : Option CommandName :=
  CommandName.all.find? fun c => c.text.toList = s

/-- How a preview is asked for; what is not given is left to the settings. -/
structure RunArguments where
  shader : List Char
  width : Option Nat
  height : Option Nat
  /-- Start with the clock paused. -/
  paused : Bool
  /-- The time shown while paused, in seconds. -/
  frozenTime : Option Float
  /-- Do not time the graphics device. -/
  noGpuTimer : Bool

/-- A command with its arguments. -/
inductive Command where
  | run (arguments : RunArguments)
  | translate (shader : List Char) (json : Bool)
  | check (shader : List Char)

/-- What the program is asked to do. -/
structure Invocation where
  /-- The path of the configuration, if one is named. -/
  config : Option (List Char)
  command : Command

/-- Why arguments make no invocation. -/
inductive UsageError where
  | helpRequested
  | versionRequested
  /-- There are no arguments at all. -/
  | nothingGiven
  | missingCommand
  | missingShader
  | unknownCommand
  | unknownArgument
  /-- A value is missing, or a path is empty. -/
  | missingValue
  /-- A value is no number of the right kind. -/
  | unreadableValue
  /-- A switch has a value. -/
  | needlessValue
  | repeatedArgument
  deriving DecidableEq, Repr

namespace UsageError

/-- The text that is shown. -/
def message : UsageError → String
  | helpRequested =>
    "Run ShaderToy-style fragment shaders with live frame telemetry\n\n" ++
    "Usage: fragscope [--config FILE] run [--width PIXELS] [--height PIXELS] [--paused]\n" ++
    "                                     [--frozen-time SECONDS] [--no-gpu-timer] SHADER\n" ++
    "       fragscope [--config FILE] translate [--json] SHADER\n" ++
    "       fragscope [--config FILE] check SHADER\n"
  | versionRequested => "fragscope 0.1.0\n"
  | nothingGiven => "error: a command is required; try '--help'\n"
  | missingCommand => "error: a command is required; try '--help'\n"
  | missingShader => "error: the argument SHADER is required; try '--help'\n"
  | unknownCommand => "error: unrecognized command; try '--help'\n"
  | unknownArgument => "error: unexpected argument; try '--help'\n"
  | missingValue => "error: an option lacks its value; try '--help'\n"
  | unreadableValue => "error: a value is not a number of the right kind; try '--help'\n"
  | needlessValue => "error: a switch takes no value; try '--help'\n"
  | repeatedArgument => "error: an argument is given twice; try '--help'\n"

/-- The text answers a request. -/
def isAnswer : UsageError → Bool
  | helpRequested => true
  | versionRequested => true
  | _ => false

/-- The exit status of the program. -/
def exitStatus (e : UsageError) : Nat := if e.isAnswer then 0 else 2

end UsageError

end ShaderPreview
