import ShaderPreview.CommandLine.Execution

/-!
# The program

Runs a command on the files and the environment of the process.  No graphics device is linked:
shaders are checked on one that reports no errors of its own.
-/

namespace ShaderPreview

namespace Program

/-- The variables of the environment that commands look at. -/
def variableNames : List String :=
  ["FRAGSCOPE_CONFIG", "FRAGSCOPE_CONFIG_DIR", "XDG_CONFIG_HOME", "HOME"]

/-- The environment of the process. -/
def readEnvironment : IO Environment := do
  let values ← variableNames.mapM fun name => do
    return (name, (← IO.getEnv name).map String.toList)
  return fun name => ((values.find? fun v => v.1 = name).map Prod.snd).join

/-- Why a file of the process could not be read. -/
def fileError : IO.Error → FileError
  | .noFileOrDirectory .. => .missing
  | .inappropriateType _ code _ => if code = 21 then .isDirectory else .notDirectory
  | .permissionDenied .. => .denied
  | _ => .missing

/-- Reads a file of the process. -/
def readFile (path : List Char) : IO FileText := do
  try return .ofBytes (← IO.FS.readBinFile (String.ofList path))
  catch e => return .error (fileError e)

/-- What the process offers to a command. -/
def surroundings : IO (Surroundings IO) := do
  return ⟨← readEnvironment, readFile, Gpu.World.ofScript .default, .zero⟩

end Program

end ShaderPreview

/-- Runs the program. -/
def main (arguments : List String) : IO UInt32 := do
  let o ← ShaderPreview.runProgram (← ShaderPreview.Program.surroundings)
    (arguments.map String.toList)
  IO.print (String.ofList o.output)
  IO.eprint (String.ofList o.errorOutput)
  return UInt32.ofNat o.exitStatus
