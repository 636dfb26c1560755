/-
# ExportDocs.Main -- the command line

Everything that decides is pure: `Settings.load`, `CommandLine.unseen` and `CommandLine.run`.  This
module gathers the files that a run looks at, and carries out what the run has decided.  It has no
interpreter, so that no file can be loaded as a formatter.
-/
import ExportDocs.CommandLine.Survey
import ExportDocs.Settings.Load

namespace ExportDocs

set_option autoImplicit false

/-- The name of a place for the operating system. -/
def placeName (parts : List Text) : String :=
  String.ofList (Path.toText { root := .absolute, parts })

/-- Whether a directory stands at a place. -/
def isDirectoryAt (parts : List Text) : IO Bool := do
  try
    discard (IO.FS.realPath (placeName parts ++ "/."))
    return true
  catch _ => return false

/-- The bytes of the file at a place. -/
def bytesAt? (parts : List Text) : IO (Option (List Nat)) := do
  try
    return some ((← IO.FS.readBinFile (placeName parts)).toList.map UInt8.toNat)
  catch _ => return none

/-- Adds what stands at a place. -/
def addPlace (files : FileTree) (parts : List Text) : IO FileTree := do
  if ← isDirectoryAt parts then return { files with directories := parts :: files.directories }
  else match ← bytesAt? parts with
    | some bytes => return files.setFile parts (.bytes bytes)
    | none => return files

/-- Gathers the files that a run looks at, in a bounded number of rounds. -/
def gather (settings : Settings) (arguments : List Text) :
    Nat → List (List Text) → FileTree → IO FileTree
  | 0, _, files => return files
  | rounds + 1, seen, files => do
    match CommandLine.unseen settings files arguments seen with
    | [] => return files
    | places => gather settings arguments rounds (places ++ seen) (← places.foldlM addPlace files)

/-- How many rounds of gathering are made at most. -/
def maxRounds : Nat := 10000

/-- The environment variables of the settings. -/
def environment : IO (List (Text × Text)) := do
  let keys := Settings.names.map (Settings.environmentHead ++ ·)
  let spelled := keys.flatMap fun key => [key, key.map Char.toUpper]
  let found ← spelled.mapM fun key => do
    return (← IO.getEnv (String.ofList key)).map fun value => (key, value.toList)
  return found.filterMap id

/-- The settings of a run in a directory, if they can be loaded. -/
def loadSettings (current : List Text) : IO (Option Settings) := do
  let file ← bytesAt? (current ++ [".env".toList])
  let text := file.bind fun bytes => (Text.decode bytes).toOption
  return (Settings.load [] (← environment) text).toOption

/-- Writes the new directories and files of a run. -/
def writeChanges (before after : FileTree) : IO Unit := do
  (after.directories.filter (!before.directories.contains ·)).forM fun parts =>
    IO.FS.createDirAll (placeName parts)
  (FileTree.changedSince before after).forM fun (parts, content) =>
    match content with
    | .text text => IO.FS.writeFile (placeName parts) (String.ofList text)
    | _ => return ()

/-- Does what the arguments ask for, and returns the status. -/
def runCommand (arguments : List Text) : IO UInt32 := do
  let current := Path.partsOf (toString (← IO.currentDir)).toList
  match ← loadSettings current with
  | none =>
    IO.eprintln "The settings cannot be loaded"
    return 1
  | some settings =>
    let before ← gather settings arguments maxRounds [] { current }
    let outcome := CommandLine.run .bare settings before arguments
    outcome.log.forM fun entry =>
      IO.eprintln (entry.level.label ++ " │ " ++ String.ofList entry.message)
    writeChanges before outcome.world.files
    IO.print (String.ofList outcome.world.output)
    match outcome.ending with
    | .exit status =>
      if status = 2 then IO.eprintln (String.ofList CommandLine.usage)
      return status.toUInt32
    | .failure error =>
      IO.eprintln (String.ofList error.message)
      return 1

end ExportDocs

/-- The program. -/
def main (arguments : List String) : IO UInt32 :=
  ExportDocs.runCommand (arguments.map String.toList)
