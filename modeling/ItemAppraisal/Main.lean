import ItemAppraisal.CommandLine.Identifier
import ItemAppraisal.CommandLine.Program
import Std.Time.DateTime.Timestamp

/-!
# The command line

The program on the files, the streams, the clock and the random numbers of the machine that it runs on.
-/

namespace ItemAppraisal.CommandLine

/-- The number of the error that a directory is no file. -/
def isDirectoryError : UInt32 := 21

/-- The number of the error that a name is too long. -/
def nameTooLongError : UInt32 := 36

/-- What a failure to read says of a path. -/
def nodeOfError : IO.Error → Node
  | .noFileOrDirectory _ _ _ => .missing
  | .inappropriateType _ code _ => if code == isDirectoryError then .directory else .beyondFile
  | .invalidArgument _ code details =>
    if code == nameTooLongError then .nameTooLong else .locked (.other details)
  | .permissionDenied _ _ _ => .locked (.other "Permission denied (os error 13)")
  | .userError _ => .locked .notText
  | e => .locked (.other (toString e))

/-- Looks at a path. -/
def nodeOnDisk (path : String) : IO Node := do
  try return .file (← IO.FS.readFile path)
  catch e => return nodeOfError e

/-- Looks at a path once, so that a pipe is read only one time. -/
def nodeOnce (seen : IO.Ref (Table String Node)) (path : String) : IO Node := do
  match (← seen.get).get? path with
  | some node => return node
  | none =>
    let node ← nodeOnDisk path
    seen.modify (Table.insert path node)
    return node

/-- Reads standard input to its end. -/
def readStandardInput : IO (Except ReadFailure String) := do
  let bytes ← (← IO.getStdin).readBinToEnd
  return match String.fromUTF8? bytes with
    | some text => .ok text
    | none => .error .notText

/-- A directory of the user: that of a variable with an absolute path, or else one in the home
directory. -/
def userDirectory (name : String) (fallback : List String) : IO String := do
  match ← IO.getEnv name with
  | some path =>
    if ['/'].isPrefixOf path.toList then return path else inHome
  | none => inHome
where
  /-- The directory in the home directory. -/
  inHome : IO String := do
    return fallback.foldl joinPath ((← IO.getEnv "HOME").getD "/")

/-- The machine as a host. -/
def machine : IO (Host IO) := do
  let seen ← IO.mkRef ([] : Table String Node)
  return {
    settingsHome := ← userDirectory "XDG_CONFIG_HOME" [".config"]
    dataHome := ← userDirectory "XDG_DATA_HOME" [".local", "share"]
    node := nodeOnce seen
    standardInput := readStandardInput
    newId := do return identifierOf ((← IO.getRandomBytes 16).toList.map (·.toNat))
    now := do return (← Std.Time.Timestamp.now).toSecondsSinceUnixEpoch.val }

end ItemAppraisal.CommandLine

/-- Runs the program. -/
def main (words : List String) : IO UInt32 := do
  let outcome ← ItemAppraisal.CommandLine.run (← ItemAppraisal.CommandLine.machine) words
  IO.print outcome.output
  IO.eprint outcome.errors
  return outcome.status.toUInt32
