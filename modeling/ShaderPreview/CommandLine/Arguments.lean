import ShaderPreview.CommandLine.Invocation
import ShaderPreview.Number.Numeral
import ShaderPreview.Number.Word

/-!
# Reading arguments

Arguments are read at two levels: in front of the command, and behind it.  A level knows the options
that take a value, the switches, and, behind a command, one shader.  A value is kept as pending
until the next argument shows that it is complete, and is only then looked at.
`Invocation.ofArguments` reads a whole command line.
-/

namespace ShaderPreview

namespace CommandLine

/-- What takes a value. -/
inductive Parameter where
  | config
  | width
  | height
  | frozenTime
  | shader
  deriving DecidableEq, Repr

/-- What is given or not. -/
inductive Switch where
  | paused
  | noGpuTimer
  | json
  deriving DecidableEq, Repr

/-- In front of the command, or behind it. -/
inductive Level where
  | outer
  | inner (command : CommandName)
  deriving DecidableEq, Repr

/-- What an option's name stands for. -/
inductive Meaning where
  | parameter (p : Parameter)
  | switch (s : Switch)
  | help
  | version
  deriving DecidableEq, Repr

/-- The options of a level besides the configuration and the help. -/
def Level.ownOptions : Level → List (String × Meaning)
  | outer => [("version", .version)]
  | inner .run =>
    [("width", .parameter .width), ("height", .parameter .height), ("paused", .switch .paused),
      ("frozen-time", .parameter .frozenTime), ("no-gpu-timer", .switch .noGpuTimer)]
  | inner .translate => [("json", .switch .json)]
  | inner .check => []

/-- The options of a level. -/
def Level.options (l : Level) : List (String × Meaning) :=
  ("config", .parameter .config) :: ("help", .help) :: l.ownOptions

/-- What an option's name stands for at a level. -/
def Level.meaning? (l : Level) (name : List Char) : Option Meaning :=
  (l.options.find? fun o => o.1.toList = name).map Prod.snd

/-- What an option's letter stands for at a level. -/
def Level.letter? (l : Level) (c : Char) : Option Meaning :=
  if c = 'h' then some .help
  else if c = 'V' ∧ l = .outer then some .version
  else none

/-! ## Values -/

/-- The values that were given at a level. -/
structure Given where
  config : Option (List Char)
  width : Option Nat
  height : Option Nat
  frozenTime : Option Float
  shader : Option (List Char)
  switches : List Switch

namespace Given

/-- Nothing was given. -/
def none : Given := ⟨.none, .none, .none, .none, .none, []⟩

/-- Whether a parameter was given. -/
def has (g : Given) : Parameter → Bool
  | .config => g.config.isSome
  | .width => g.width.isSome
  | .height => g.height.isSome
  | .frozenTime => g.frozenTime.isSome
  | .shader => g.shader.isSome

/-- Whether a switch was given. -/
def isOn (g : Given) (s : Switch) : Bool := g.switches.contains s

end Given

/-- A path is any text but the empty one. -/
def readPath (v : List Char) : Except UsageError (List Char) :=
  if v.isEmpty then .error .missingValue else .ok v

/-- A count of pixels has 32 bits. -/
def readPixels (v : List Char) : Except UsageError Nat :=
  match Numeral.integer? v with
  | some n => if 0 ≤ n ∧ n < wordCount 32 then .ok n.toNat else .error .unreadableValue
  | none => .error .unreadableValue

/-- A number of seconds is any double. -/
def readSeconds (v : List Char) : Except UsageError Float :=
  match Numeral.double? v with
  | some x => .ok x
  | none => .error .unreadableValue

namespace Given

/-- Reads the value of a parameter and puts it in. -/
def read (g : Given) (p : Parameter) (v : List Char) : Except UsageError Given :=
  match p with
  | .config => (readPath v).map fun v => { g with config := some v }
  | .width => (readPixels v).map fun v => { g with width := some v }
  | .height => (readPixels v).map fun v => { g with height := some v }
  | .frozenTime => (readSeconds v).map fun v => { g with frozenTime := some v }
  | .shader => (readPath v).map fun v => { g with shader := some v }

/-- Gives a parameter its value; it can have only one. -/
def put (g : Given) (p : Parameter) (v : List Char) : Except UsageError Given :=
  if g.has p then .error .repeatedArgument else g.read p v

/-- Turns a switch on, once. -/
def turnOn (g : Given) (s : Switch) : Except UsageError Given :=
  if g.isOn s then .error .repeatedArgument else .ok { g with switches := s :: g.switches }

end Given

/-! ## Words -/

/-- The forms of an argument. -/
inductive Word where
  /-- Two hyphens: what follows are no options. -/
  | divider
  /-- An option by its name, with the value behind an equals sign. -/
  | long (name : List Char) (value : Option (List Char))
  /-- An option by its letter. -/
  | short (letter : Char)
  | plain (s : List Char)
  deriving DecidableEq, Repr

/-- The value behind an equals sign. -/
def attached : List Char → Option (List Char)
  | [] => none
  | _ :: s => some s

/-- The form of an argument. -/
def Word.ofText : List Char → Word
  | ['-', '-'] => divider
  | '-' :: '-' :: s => long (s.takeWhile (· ≠ '=')) (attached (s.dropWhile (· ≠ '=')))
  | '-' :: c :: _ => short c
  | s => plain s

/-! ## Levels -/

/-- How far a level is read. -/
structure Reading where
  level : Level
  given : Given
  /-- The last parameter, with the value that it has so far. -/
  pending : Option (Parameter × Option (List Char))
  /-- The divider was met. -/
  divided : Bool

namespace Reading

/-- Nothing is read yet. -/
def start (l : Level) : Reading := ⟨l, .none, none, false⟩

/-- Completes the pending parameter. -/
def settle (r : Reading) : Except UsageError Reading :=
  match r.pending with
  | none => .ok r
  | some (_, none) => .error .missingValue
  | some (p, some v) => (r.given.put p v).map fun g => { r with given := g, pending := none }

/-- The parameter that the next word is the value of. -/
def awaiting? (r : Reading) : Option Parameter :=
  match r.pending with
  | some (p, none) => if r.divided then none else some p
  | _ => none

/-- The shader was met. -/
def hasShader (r : Reading) : Bool :=
  r.given.shader.isSome || r.pending.any fun p => p.1 = .shader

/-- Reads a word that stands by itself: the shader. -/
def plain (r : Reading) (s : List Char) : Except UsageError Reading :=
  match r.level with
  | .outer => .error (if r.divided then .unknownArgument else .unknownCommand)
  | .inner _ =>
    if r.hasShader then .error .unknownArgument
    else r.settle.map fun r => { r with pending := some (.shader, some s) }

/-- Reads an option by what it stands for. -/
def option (r : Reading) (m : Meaning) (value : Option (List Char)) :
    Except UsageError Reading :=
  match m, value with
  | .parameter p, none => r.settle.map fun r => { r with pending := some (p, none) }
  | .parameter p, some v => do
    let r ← r.settle
    return { r with given := ← r.given.put p v }
  | _, some _ => .error .needlessValue
  | .switch s, none => do
    let r ← r.settle
    return { r with given := ← r.given.turnOn s }
  | .help, none => r.settle.bind fun _ => .error .helpRequested
  | .version, none => r.settle.bind fun _ => .error .versionRequested

/-- Reads one argument. -/
def accept (r : Reading) (argument : List Char) : Except UsageError Reading :=
  if r.divided then r.plain argument
  else
    match Word.ofText argument with
    | .divider => .ok { r with divided := true }
    | .long name value =>
      match r.level.meaning? name with
      | some m => r.option m value
      | none => .error .unknownArgument
    | .short c =>
      match r.level.letter? c with
      | some m => r.option m none
      | none => .error .unknownArgument
    | .plain s =>
      match r.awaiting? with
      | some p => .ok { r with pending := some (p, some s) }
      | none => r.plain s

/-- The next word may be a command. -/
def expectsCommand (r : Reading) : Bool := !r.divided && r.awaiting?.isNone

/-- The values of a level, once all its arguments are read.  The configuration that the environment
names is looked at where no argument names one. -/
def finish (r : Reading) (configVariable : Option (List Char)) : Except UsageError Given := do
  let r ← r.settle
  if r.given.config.isNone ∧ configVariable = some [] then throw .missingValue
  return r.given

end Reading

/-- What the help on the given words says: every command has a page of its own, and so has the
help. -/
def helpOn (topics : List (List Char)) : UsageError :=
  match topics with
  | [] => .helpRequested
  | [t] =>
    if (CommandName.ofText? t).isSome ∨ t = "help".toList then .helpRequested else .unknownCommand
  | _ => .unknownCommand

/-- Reads the arguments up to the command, and keeps those behind it. -/
def readOuter : Reading → List (List Char) →
    Except UsageError (Reading × Option (CommandName × List (List Char)))
  | r, [] => .ok (r, none)
  | r, a :: rest =>
    if r.expectsCommand ∧ a = "help".toList then .error (helpOn rest)
    else
      match if r.expectsCommand then CommandName.ofText? a else none with
      | some c => .ok (r, some (c, rest))
      | none => (r.accept a).bind fun r => readOuter r rest

/-- The command with the values behind it. -/
def command (name : CommandName) (g : Given) : Except UsageError Command :=
  match g.shader with
  | none => .error .missingShader
  | some shader =>
    .ok <| match name with
      | .run =>
        .run ⟨shader, g.width, g.height, g.isOn .paused, g.frozenTime, g.isOn .noGpuTimer⟩
      | .translate => .translate shader (g.isOn .json)
      | .check => .check shader

/-- Reads the arguments behind the command. -/
def readInner (configVariable : Option (List Char)) (name : CommandName)
    (arguments : List (List Char)) : Except UsageError (Command × Option (List Char)) := do
  let r ← arguments.foldlM Reading.accept (Reading.start (.inner name))
  let g ← r.finish configVariable
  return (← command name g, g.config)

end CommandLine

open CommandLine in
/-- The invocation that arguments make.  The configuration is named behind the command, or else in
front of it, or else by a variable of the environment. -/
def Invocation.ofArguments (configVariable : Option (List Char)) (arguments : List (List Char)) :
    Except UsageError Invocation := do
  let (r, rest) ← readOuter (Reading.start .outer) arguments
  let inner ← rest.mapM fun (name, arguments) => readInner configVariable name arguments
  let outer ← r.finish configVariable
  match inner with
  | some (command, config) => return ⟨config <|> outer.config <|> configVariable, command⟩
  | none =>
    throw (if outer.config.isNone ∧ configVariable.isNone then .nothingGiven else .missingCommand)

end ShaderPreview
