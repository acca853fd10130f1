import Lexicon.Program

/-!
# The command line

Reads the arguments, the environment and the files, and prints what the program responds.
-/

namespace Lexicon

/-- The reason why the system could not read a file. -/
def FileError.ofSystem : IO.Error → FileError
  | .permissionDenied .. => .denied
  | .inappropriateType _ 21 _ => .isDirectory
  | .inappropriateType .. => .notDirectory
  | .invalidArgument .. => .nameTooLong
  | _ => .notFound

/-- The files at the given paths, as they are now. -/
def snapshot (paths : List String) : IO Storage := do
  let files ← paths.mapM fun (path : String) => do
    try
      return (path, Except.ok (← IO.FS.readBinFile path))
    catch e => return (path, .error (FileError.ofSystem e))
  return ⟨fun path => (files.lookup path).getD (.error .notFound)⟩

/-- The environment as the variables describe it now. -/
def currentEnvironment : IO CommandLine.Environment := do
  let values ← CommandLine.Environment.variables.mapM fun name => do
    return (name, ← IO.getEnv name)
  return .ofVariables fun name => (values.lookup name).join

end Lexicon

def main (args : List String) : IO UInt32 := do
  let env ← Lexicon.currentEnvironment
  let storage ← Lexicon.snapshot (Lexicon.pathsRead env args)
  let response := Lexicon.respond storage env args
  IO.print response.stdout
  IO.eprint response.stderr
  return response.status.toUInt32
