import PseudoAsm.CommandLine.Run

/-!
# The program

The program reads the variables and files that a run may look at, asks for the report of the run,
and prints it. All that it decides is which fault of a path an error of the file system stands for.
-/

namespace PseudoAsm.Main

/-- The variables that settings come from. -/
def variableNames : List String :=
  ["PSEXPAND_TABLE", "PSEXPAND_COMPACT", "PSEXPAND_TEXT_BASE"]

/-- The fault with an error number, which some errors give as its negative. -/
def faultOfCode (code : UInt32) (reason : String) : FileFault :=
  let number := if code.toNat < 0x80000000 then code.toNat else 0x100000000 - code.toNat
  match number with
  | 2 => .missing
  | 13 => .denied
  | 20 => .notDirectory
  | 21 => .directory
  | 36 => .nameTooLong
  | _ => .other number reason.toList

/-- Why a file cannot be read, from the error of the runtime. -/
def faultOfError : IO.Error → FileFault
  | .noFileOrDirectory _ code reason | .permissionDenied _ code reason
  | .inappropriateType _ code reason | .invalidArgument _ code reason
  | .otherError code reason => faultOfCode code reason
  | error => .other 5 error.toString.toList

/-- The variables that are set. -/
def readEnvironment : IO Environment :=
  variableNames.filterMapM fun name => do
    let value ← IO.getEnv name
    return value.map fun value => (name.toList, value.toList)

/-- The bytes at a path, or why there are none. -/
def readFile (path : Text) : IO (Text × Except FileFault (List UInt8)) := do
  if path.isEmpty then return (path, .error .missing)
  try
    let bytes ← IO.FS.readBinFile ⟨String.ofList path⟩
    return (path, .ok bytes.toList)
  catch error => return (path, .error (faultOfError error))

/-- Reads the files at the given paths before the run; no other path can be read in it. -/
def readFiles (paths : List Text) : IO FileSystem := do
  let contents ← paths.mapM readFile
  return fun path => (contents.lookup path).getD (.error .missing)

/-- Runs the program. -/
def run (words : List Text) : IO UInt32 := do
  let environment ← readEnvironment
  let files ← readFiles (CommandLine.paths environment words)
  let report := CommandLine.run files environment words
  (← IO.getStderr).putStr (String.ofList report.errors)
  (← IO.getStdout).putStr (String.ofList report.output)
  return report.exitCode.toUInt32

end PseudoAsm.Main

/-- The command `psexpand`. -/
def main (words : List String) : IO UInt32 :=
  PseudoAsm.Main.run (words.map String.toList)
