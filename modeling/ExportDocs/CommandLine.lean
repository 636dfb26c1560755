/-
# ExportDocs.CommandLine -- arguments and the run they ask for

Arguments are sorted first: options, by their full name, a beginning of it that no other option
shares, or a letter; places; and the mark after which everything is a place.  Then they are taken
from left to right (`Command.take`).  Asking for the version ends this at once.

`run` does what a command line asks for, on files and with a host, as a pure function.
-/
import ExportDocs.Run

namespace ExportDocs

set_option autoImplicit false

/-- The options of the command line. -/
inductive Switch where
  | inputFile
  | output
  | formatter
  | ignore
  | append
  | debug
  | verbosity
  | version
  | help
  | saveInput
  | saveOutput
  deriving DecidableEq, Repr, Inhabited

namespace Switch

/-- All options. -/
def all : List Switch :=
  [inputFile, output, formatter, ignore, append, debug, verbosity, version, help, saveInput,
    saveOutput]

/-- The name of an option, after two dashes. -/
def name : Switch → String
  | inputFile => "inputFile"
  | output => "output"
  | formatter => "formatter"
  | ignore => "ignore"
  | append => "append"
  | debug => "debug"
  | verbosity => "verbosity"
  | version => "version"
  | help => "help"
  | saveInput => "saveinputmeta"
  | saveOutput => "saveoutputmeta"

/-- The option that a letter after one dash stands for. -/
def ofLetter? : Char → Option Switch
  | 'v' => some verbosity
  | 'V' => some version
  | 'h' => some help
  | _ => none

/-- Whether an option has a value. -/
def hasValue : Switch → Bool
  | inputFile => true
  | output => true
  | formatter => true
  | ignore => true
  | append => true
  | _ => false

/-- The options whose names begin with a text; one whose name it is stands alone. -/
def matching (t : Text) : List Switch :=
  match all.filter fun switch => switch.name.toList == t with
  | [] => all.filter fun switch => Text.startsWith switch.name.toList t
  | exact => exact

end Switch

/-- An argument. -/
inductive Argument where
  | place (text : Text)
  /-- The mark after which everything is a place. -/
  | separator
  /-- An option, with the value that is written into it. -/
  | long (switch : Switch) (value : Option Text)
  /-- Letters after one dash, of which the first is an option. -/
  | letters (first : Switch) (rest : Text)
  | unknown
  deriving DecidableEq, Repr, Inhabited

namespace Argument

/-- Whether a text is a negative number. -/
def isNegativeNumber (t : Text) : Bool :=
  match t with
  | '-' :: rest =>
    let whole := rest.takeWhile Text.isDecimal
    let after := rest.drop whole.length
    (!whole.isEmpty && (after.isEmpty || after == ['\n'])) ||
      match after with
      | '.' :: places =>
        let digits := places.takeWhile Text.isDecimal
        !digits.isEmpty && (places.length = digits.length || places.drop digits.length == ['\n'])
      | _ => false
  | _ => false

/-- What starts with a dash but is no option. -/
def orPlace (t : Text) : Argument :=
  if isNegativeNumber t || t.contains ' ' then place t else unknown

/-- Sorts an argument; nothing if it is the beginning of several options. -/
def ofText (t : Text) : Option Argument :=
  match t with
  | '-' :: '-' :: rest =>
    let name := rest.takeWhile (· != '=')
    let value := if rest.contains '=' then some (rest.drop (name.length + 1)) else none
    match Switch.matching name with
    | [] => some (orPlace t)
    | [switch] => some (long switch value)
    | _ => none
  | '-' :: c :: rest =>
    match Switch.ofLetter? c with
    | some switch => some (letters switch rest)
    | none => some (orPlace t)
  | _ => some (place t)

/-- Sorts arguments; nothing if one of them is the beginning of several options. -/
def sort : List Text → Option (List Argument)
  | [] => some []
  | t :: rest =>
    if t = ['-', '-'] then some (separator :: rest.map place)
    else do
      let argument ← ofText t
      return argument :: (← sort rest)

end Argument

/-- What has been read of a command line. -/
structure Command where
  places : List Text := []
  inputFile : Option Text := none
  output : Option Text := none
  formatter : Option Text := none
  ignore : Option Text := none
  append : Option Text := none
  debug : Bool := false
  verbosity : Nat := 1
  /-- Whether something could not be understood. -/
  stray : Bool := false
  deriving DecidableEq, Repr, Inhabited

/-- What a command line asks for. -/
inductive Request where
  /-- Nothing that can be understood. -/
  | unusable
  | version
  | help
  | run (options : Options)
  deriving DecidableEq, Repr, Inhabited

namespace Command

/-- Takes an option with its value. -/
def setValue (command : Command) (value : Text) : Switch → Command
  | .inputFile => { command with inputFile := some value }
  | .output => { command with output := some value }
  | .formatter => { command with formatter := some value }
  | .ignore => { command with ignore := some value }
  | .append => { command with append := some value }
  | _ => command

/-- Takes an option without a value; it may ask for something at once. -/
def setFlag (command : Command) : Switch → Except Request Command
  | .debug => .ok { command with debug := true }
  | .verbosity => .ok { command with verbosity := command.verbosity + 1 }
  | .version => .error .version
  | .help => .error .help
  | _ => .ok command

/-- The options that letters stand for, and whether a letter that is none follows them.  Nothing if
a value or a dash follows. -/
def switchesOf (first : Switch) : Text → Option (List Switch × Bool)
  | [] => some ([first], false)
  | c :: rest =>
    if c = '=' || c = '-' then none
    else match Switch.ofLetter? c with
      | some switch =>
        (switchesOf switch rest).map fun (switches, stray) => (first :: switches, stray)
      | none => some ([first], true)

/-- The number of places that are wanted. -/
def placesWanted : Nat := 2

/-- Takes a place. -/
def addPlace (command : Command) (text : Text) : Command :=
  if command.places.length < placesWanted then { command with places := command.places ++ [text] }
  else { command with stray := true }

/-- Takes arguments from left to right.  `afterPlace` says that a place was just taken: a separator
is then let pass. -/
def take (command : Command) (afterPlace : Bool) : List Argument → Except Request Command
  | [] => .ok command
  | .place text :: rest =>
    take (command.addPlace text) (command.places.length < placesWanted) rest
  | .separator :: rest =>
    let allowed := afterPlace || (command.places.length < placesWanted && !rest.isEmpty)
    take { command with stray := command.stray || !allowed } false rest
  | .unknown :: rest => take { command with stray := true } false rest
  | .letters first letters :: rest =>
    match switchesOf first letters with
    | none => .error .unusable
    | some (switches, stray) => do
      let command ← switches.foldlM setFlag command
      take { command with stray := command.stray || stray } false rest
  | .long switch value :: rest =>
    if switch.hasValue then
      match value, rest with
      | some value, rest => take (command.setValue value switch) false rest
      | none, .place value :: rest => take (command.setValue value switch) false rest
      | none, _ => .error .unusable
    else if value.isSome then .error .unusable
    else do take (← command.setFlag switch) false rest

/-- What a command asks for, if nothing is missing. -/
def toRequest (command : Command) : Request :=
  match command.places, command.inputFile, command.stray with
  | [input, output], some inputFile, false =>
    .run
      { inputDirectory := Path.ofText input, outputDirectory := Path.ofText output, inputFile
        output := command.output, formatter := command.formatter, ignore := command.ignore
        append := command.append, debug := command.debug, verbosity := command.verbosity }
  | _, _, _ => .unusable

end Command

namespace CommandLine

/-- What the arguments of a command line ask for. -/
def read (arguments : List Text) : Request :=
  match Argument.sort arguments with
  | none => .unusable
  | some sorted =>
    match ({} : Command).take false sorted with
    | .error request => request
    | .ok command => command.toRequest

/-- The version. -/
def versionLine : Text := "docgen 1.0.0".toList

/-- How the program is called. -/
def usage : Text :=
  ("usage: docgen [-h] --inputFile INPUTFILE [--output OUTPUT] [--formatter FORMATTER]\n" ++
    "              [--ignore IGNORE] [--append APPEND] [--debug] [-v] [-V]\n" ++
    "              inputdir outputdir").toList

/-- Checks the two directories and makes the one for the output. -/
def prepare (options : Options) : RunM Unit := do
  let files := (← get).files
  if !files.hasDirectory options.inputDirectory then throw (.exit 1)
  else if files.hasPath options.outputDirectory && !files.hasDirectory options.outputDirectory then
    throw (.exit 1)
  else RunM.act (Action.makeDirectory options.outputDirectory)

/-- Does what is asked for; the status is zero if nothing stops it. -/
def perform (host : Host) (settings : Settings) : Request → RunM Unit
  | .unusable => throw (.exit 2)
  | .version => RunM.print versionLine
  | .help => RunM.print usage
  | .run options => do
    prepare options
    RunM.connect options.verbosity
    discard (Stage.runAll { host, settings, options } Stage.all)

/-- How a run ended, and what it left behind. -/
structure Outcome where
  ending : Stop
  world : World
  deriving DecidableEq, Repr, Inhabited

/-- The messages of a run. -/
def Outcome.log (outcome : Outcome) : List LogEntry := outcome.world.log

/-- Does what the arguments ask for. -/
def run (host : Host) (settings : Settings) (files : FileTree) (arguments : List Text) : Outcome :=
  let (result, world) := (perform host settings (read arguments)).run.run { files }
  { ending := match result with
      | .ok () => .exit 0
      | .error stop => stop
    world }

end CommandLine

end ExportDocs
