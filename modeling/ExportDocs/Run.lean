/-
# ExportDocs.Run -- from a source to a document

A run goes through stages: it checks its environment, processes the entry file, leaves out ignored
symbols, writes the document, dumps what is known if it is asked to, and reports its results.  Each
stage adds to the progress.  A stage may end the run with a status (`Stop.exit`); a failure that is
reported is printed and ends the run with status one.
-/
import ExportDocs.Document.Append
import ExportDocs.Dump
import ExportDocs.Imports.Walk
import ExportDocs.Pattern.Reader
import ExportDocs.Report.Custom

namespace ExportDocs

set_option autoImplicit false

/-- What a run is asked to do. -/
structure Options where
  inputDirectory : Path
  outputDirectory : Path
  /-- The entry file, inside the input directory. -/
  inputFile : Text
  /-- The document, inside the output directory. -/
  output : Option Text := none
  /-- A file with a formatter, inside the input directory. -/
  formatter : Option Text := none
  /-- A pattern of names that are left out. -/
  ignore : Option Text := none
  /-- The token of the region that the report is put into. -/
  append : Option Text := none
  debug : Bool := false
  verbosity : Nat := 1
  deriving DecidableEq, Repr, Inhabited

/-- The name of the entry file without its extension. -/
def Options.stem (options : Options) : Text := (Path.ofText options.inputFile).stem

/-- An option that is given and not empty. -/
def given : Option Text → Option Text
  | some (c :: t) => some (c :: t)
  | _ => none

/-- The root directory. -/
def Path.slash : Path := { root := .absolute, parts := [] }

/-- How far a run has come. -/
structure Progress where
  ready : Bool := false
  inputDirectory : Path
  source : Path := .slash
  document : Path := .slash
  result : Option FileResult := none
  kept : Option (List Symbol) := none
  contents : Option Text := none
  dumps : List (Dump × Path) := []
  deriving DecidableEq, Repr, Inhabited

/-- How a run ends early. -/
inductive Stop where
  | exit (status : Nat)
  | failure (error : Error)
  deriving DecidableEq, Repr, Inhabited

/-- A step of a run that may end it. -/
abbrev RunM := ExceptT Stop (StateM World)

namespace RunM

/-- Prints a line. -/
def print (line : Text) : RunM Unit :=
  modify fun world => { world with output := world.output ++ line ++ ['\n'] }

/-- Logs a message. -/
def log (level : Level) (message : Text) : RunM Unit := modify (World.logged level message)

/-- Lets the messages of a run through up to a verbosity. -/
def connect (verbosity : Nat) : RunM Unit := modify fun world => { world with verbosity }

/-- Ends the run with a failure: one that is reported is printed between empty lines. -/
def fail {α : Type} (error : Error) : RunM α := do
  if error.isReported then
    print ('\n' :: error.message ++ ['\n'])
    throw (.exit 1)
  else throw (.failure error)

/-- Prints a line and ends the run. -/
def exitWith {α : Type} (status : Nat) (line : Text) : RunM α := do
  print line
  throw (.exit status)

/-- Takes an action. -/
def act {α : Type} (action : Action α) : RunM α := do
  match ← ExceptT.lift action.run with
  | .ok a => return a
  | .error error => fail error

end RunM

/-- What every stage knows. -/
structure Task where
  host : Host
  settings : Settings
  options : Options

namespace Task

/-- The title that is shown at the start. -/
def title : Text :=
  ("\n     _\n" ++
    "  __| | ___   ___ __ _  ___ _ __\n" ++
    " / _` |/ _ \\ / __/ _` |/ _ \\ '_ \\\n" ++
    "| (_| | (_) | (_| (_| |  __/ | | |\n" ++
    " \\__,_|\\___/ \\___\\__, |\\___|_| |_|\n" ++
    "                 |___/\n" ++
    "  API documentation generator\n").toList

/-- Shows the title, unless the run is to be quiet. -/
def showTitle (task : Task) : RunM Unit :=
  if task.options.verbosity ≥ 2 then RunM.log .debug title else pure ()

/-- The absolute form of a path without double dots. -/
def absolute (files : FileTree) (path : Path) : Path :=
  { root := .absolute, parts := path.absoluteParts files.current }

/-- Checks that the pattern of ignored names can be read. -/
def checkPattern (task : Task) : RunM Unit := do
  match given task.options.ignore with
  | none => return ()
  | some text =>
    match Pattern.read text with
    | .ok _ => return ()
    | .error fault =>
      RunM.exitWith 1 ("Error: Invalid --ignore expression ".toList ++ Text.quoted text ++
        ": ".toList ++ fault.message text)

/-- Finds the entry file and the document, and makes the directory of the document. -/
def checkEnvironment (task : Task) (progress : Progress) : RunM Progress := do
  task.showTitle
  RunM.log .debug "Checking environment...".toList
  let files := (← get).files
  let inputDirectory := absolute files progress.inputDirectory
  let source := absolute files (inputDirectory.join (Path.ofText task.options.inputFile))
  if !FileTree.isValid source then
    RunM.fail (.uncaught (.file .nullCharacter))
  if !files.hasFile source then
    RunM.exitWith 1 ("Error: Input file not found: ".toList ++ source.toText)
  RunM.log .debug ("Input file: ".toList ++ source.toText)
  task.checkPattern
  let output := (given task.options.output).getD (task.options.stem ++ "-api.md".toList)
  let document := task.options.outputDirectory.join (Path.ofText output)
  RunM.act (Action.makeDirectory document.parent)
  RunM.log .debug ("Output document: ".toList ++ document.toText)
  return { progress with ready := true, inputDirectory, source, document }

/-- Processes the entry file and everything that it re-exports from the project. -/
def processSource (task : Task) (progress : Progress) : RunM Progress := do
  RunM.log .info ("Processing ".toList ++ task.options.inputFile ++ "...".toList)
  let world ← get
  let project :=
    Project.ofModules task.settings world.files progress.inputDirectory world.verbosity
  let (outcome, walk) := (project.process progress.source).runFrom {}
  modify fun world => { world with messages := walk.log.reverse ++ world.messages }
  match outcome with
  | .error error => RunM.fail error
  | .ok result =>
    RunM.log .debug ("Extracted ".toList ++ Text.ofNat result.symbols.length ++
      " exported symbols".toList)
    return { progress with result := some result }

/-- The result of processing the entry file. -/
def resultOf (progress : Progress) : RunM FileResult :=
  match progress.result with
  | some result => return result
  | none => throw (.failure (.uncaught .noResult))

/-- Leaves out the symbols whose names match the pattern. -/
def filterSymbols (task : Task) (progress : Progress) : RunM Progress := do
  let symbols := (← resultOf progress).symbols
  if symbols.isEmpty then
    RunM.print "\nFile was processed, but contained no ES6 module exports:".toList
    RunM.exitWith 0 (progress.source.toText ++ ['\n'])
  else
    match (given task.options.ignore).map Pattern.read with
    | some (.ok pattern) =>
      let kept := symbols.filter fun symbol => !pattern.find symbol.name
      RunM.log .debug ("Ignored ".toList ++ Text.ofNat (symbols.length - kept.length) ++
        " symbols".toList)
      return { progress with kept := some kept }
    | _ => return { progress with kept := some symbols }

/-- The report. -/
def renderReport (task : Task) (progress : Progress) (heading : Option Text) :
    Action HostString := do
  let current := (← get).files.current
  let place : Report.Place :=
    { root := progress.inputDirectory, document := progress.document, current }
  match given task.options.formatter, progress.kept with
  | none, none => throw (.uncaught .noSymbols)
  | none, some symbols => return .text (Report.render place symbols heading)
  | some name, symbols =>
    Report.renderCustom task.host (progress.inputDirectory.join (Path.ofText name)) place symbols
      heading

/-- Puts the report into the region of a token.  The document is looked for in the output directory
first, then in the input directory. -/
def appendReport (task : Task) (progress : Progress) (token : Text) : RunM Text := do
  RunM.log .info ("Appending to section ".toList ++ token ++ "...".toList)
  let files := (← get).files
  let existing :=
    if files.hasFile progress.document then progress.document
    else match given task.options.output with
      | some output => progress.inputDirectory.join (Path.ofText output)
      | none => progress.document
  if !files.hasFile existing then
    RunM.exitWith 1 ("Error: Document to append to not found: ".toList ++ progress.document.toText)
  else
    let report ← RunM.act (task.renderReport progress none)
    RunM.act
      (Document.appendString task.host task.settings existing token report progress.document)

/-- Writes the document. -/
def writeDocument (task : Task) (progress : Progress) : RunM Progress := do
  match given task.options.append with
  | some token =>
    let contents ← task.appendReport progress token
    return { progress with contents := some contents }
  | none =>
    RunM.log .info "Writing API document...".toList
    let report ← RunM.act (task.renderReport progress (some task.settings.defaultHeading))
    let contents ← RunM.act (Action.writeString progress.document report)
    return { progress with contents := some contents }

/-- What a dump of a result holds. -/
def dumpValue (result : FileResult) : Dump → Json
  | .symbols => .list (result.symbols.map Symbol.toJson)
  | .tokens => .list (result.tokens.map Token.toJson)
  | .statements => .list (result.statements.map Statement.toJson)

/-- Writes one dump and returns where. -/
def writeDump (task : Task) (result : FileResult) (dump : Dump) : RunM (Dump × Path) := do
  let path := task.options.outputDirectory.join (Path.ofText (task.options.stem ++ dump.fileEnd))
  RunM.act (Action.write path ((dumpValue result dump).print task.settings.dumpIndent))
  RunM.log .debug ("Wrote ".toList ++ path.toText)
  return (dump, path)

/-- Writes the dumps, if debugging is on. -/
def dumpResult (task : Task) (progress : Progress) : RunM Progress := do
  if task.options.debug then
    let result ← resultOf progress
    let dumps ← Dump.all.mapM (task.writeDump result)
    return { progress with dumps }
  else return progress

/-- Reports what has been written. -/
def reportResults (progress : Progress) : RunM Progress := do
  if progress.contents.isNone then
    RunM.exitWith 1 "Error: No documentation was generated".toList
  else
    RunM.log .info "\n✓ Documentation generated!".toList
    RunM.log .info ("  Output:  ".toList ++ progress.document.toText)
    RunM.log .info ("  Symbols: ".toList ++ Text.ofNat (progress.kept.getD []).length)
    progress.dumps.forM fun (_, path) => RunM.log .info ("  Debug:   ".toList ++ path.toText)
    return progress

end Task

/-- The stages of a run. -/
inductive Stage where
  | checkEnvironment
  | processSource
  | filterSymbols
  | writeDocument
  | dumpResult
  | reportResults
  deriving DecidableEq, Repr, Inhabited

namespace Stage

/-- The stages of a whole run, in order. -/
def all : List Stage :=
  [checkEnvironment, processSource, filterSymbols, writeDocument, dumpResult, reportResults]

/-- What a stage does. -/
def run (task : Task) (progress : Progress) : Stage → RunM Progress
  | checkEnvironment => task.checkEnvironment progress
  | processSource => task.processSource progress
  | filterSymbols => task.filterSymbols progress
  | writeDocument => task.writeDocument progress
  | dumpResult => task.dumpResult progress
  | reportResults => Task.reportResults progress

/-- Goes through stages. -/
def runAll (task : Task) (stages : List Stage) : RunM Progress :=
  stages.foldlM (Stage.run task) { inputDirectory := task.options.inputDirectory }

end Stage

end ExportDocs
