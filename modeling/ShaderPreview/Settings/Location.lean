import ShaderPreview.Settings.Decode

/-!
# Where settings are kept

The configuration file stands in the directory that an environment variable names, or else in the
user's directory for configurations.  A file that is missing stands for the default settings.
-/

namespace ShaderPreview

/-- The values of environment variables. -/
abbrev Environment := String → Option (List Char)

/-- Why a file could not be read as text. -/
inductive FileError where
  | missing
  | isDirectory
  /-- Something in front of the file's name is no directory. -/
  | notDirectory
  | denied
  | notText
  deriving DecidableEq, Repr

/-- The text of the error. -/
def FileError.message : FileError → String
  | missing => "No such file or directory (os error 2)"
  | isDirectory => "Is a directory (os error 21)"
  | notDirectory => "Not a directory (os error 20)"
  | denied => "Permission denied (os error 13)"
  | notText => "stream did not contain valid UTF-8"

/-- The text of a file, or why there is none. -/
abbrev FileText := Except FileError (List Char)

/-- The text that bytes encode in UTF-8. -/
def FileText.ofBytes (bytes : ByteArray) : FileText :=
  match String.fromUTF8? bytes with
  | some s => .ok s.toList
  | none => .error .notText

namespace Settings

/-- A path below another one. -/
def joinPath (base name : List Char) : List Char :=
  match base.getLast? with
  | some c => if c = '/' then base ++ name else base ++ '/' :: name
  | none => name

/-- The variable, unless it is empty. -/
def nonempty (env : Environment) (name : String) : Option (List Char) :=
  (env name).filter fun v => !v.isEmpty

/-- The user's directory for configurations. -/
def userDirectory? (env : Environment) : Option (List Char) :=
  match (env "XDG_CONFIG_HOME").filter fun v => v.head? == some '/' with
  | some dir => some dir
  | none => (nonempty env "HOME").map fun home => joinPath home ".config".toList

/-- The directory of the configuration file. -/
def directory? (env : Environment) : Option (List Char) :=
  match nonempty env "FRAGSCOPE_CONFIG_DIR" with
  | some dir => some dir
  | none => (userDirectory? env).map fun dir => joinPath dir "fragscope".toList

/-- The path of the configuration file. -/
def path? (env : Environment) : Option (List Char) :=
  (directory? env).map fun dir => joinPath dir "config.toml".toList

/-- Why settings could not be loaded. -/
inductive LoadError where
  | file (e : FileError)
  | read (e : ReadError)
  deriving DecidableEq, Repr

/-- What is said about the error, from the outermost cause to the innermost. -/
def LoadError.causes (path : List Char) : LoadError → List (List Char)
  | .file e =>
    ["failed to read configuration ".toList ++ path ++ ": ".toList ++ e.message.toList,
      e.message.toList]
  | .read (.invalid f) => ["invalid configuration: ".toList ++ f.message.toList]
  | .read e => ["failed to parse configuration: ".toList ++ e.reason, e.reason]

/-- The settings in a file. -/
def ofFile : FileText → Except LoadError Settings
  | .ok t => (ofText t).mapError .read
  | .error .missing => .ok default
  | .error e => .error (.file e)

end Settings

end ShaderPreview
