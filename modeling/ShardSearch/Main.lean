/-
The command line program: arguments, environment and files go in, and what the program prints
comes out. Everything that is decided is decided in `Program`. No network is attached.
-/
import ShardSearch.Command.Program

namespace ShardSearch

/-- The files that have been read. -/
abbrev Supply := List (String × Except ReadError ByteArray)

/-- Why reading a file failed, by the code of the operating system, which may come negated. -/
def ReadError.ofCode (code : UInt32) (message : String) : ReadError :=
  match min code (0 - code) with
  | 2 => .notFound
  | 20 => .notDirectory
  | 21 => .isDirectory
  | 36 => .nameTooLong
  | _ => .other message

/-- Why reading a file failed. -/
def ReadError.ofFailure : IO.Error → ReadError
  | .noFileOrDirectory _ code message
  | .inappropriateType _ code message
  | .invalidArgument _ code message
  | .permissionDenied _ code message
  | .illegalOperation code message
  | .otherError code message => .ofCode code message
  | e => .other (toString e)

/-- Reads a file. -/
def readFile (path : String) : IO (Except ReadError ByteArray) := do
  if path.toList.contains '\x00' then return .error .zeroInName
  try
    return .ok (← IO.FS.readBinFile path)
  catch e => return .error (ReadError.ofFailure e)

/-- Supplies files until the program looks at no other ones, and runs it. -/
partial def runSupplied (home : Option String) (env : Environment) (args : List String)
    (supply : Supply) : IO Exit := do
  let files : Files := fun path => (supply.lookup path).getD (.error .notFound)
  match (Program.paths files .detached home args).find? fun path => (supply.lookup path).isNone with
  | some path => runSupplied home env args ((path, ← readFile path) :: supply)
  | none => return Program.run files .detached home env args

end ShardSearch

open ShardSearch

/-- Runs the program on the arguments of the command line. -/
def main (args : List String) : IO UInt32 := do
  let out ← IO.getStdout
  let env : Environment := ⟨← IO.getEnv "NO_COLOR", ← IO.getEnv "CLICOLOR",
    ← IO.getEnv "CLICOLOR_FORCE", ← out.isTty⟩
  let exit ← runSupplied (← IO.getEnv "HOME") env args []
  IO.print exit.output
  IO.eprint exit.errors
  return exit.status.code
