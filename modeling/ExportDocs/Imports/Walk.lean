/-
# ExportDocs.Imports.Walk -- following the imports of a file

A file is read, put on the stack and handed to the engine, which asks for the exports of the
modules that the file re-exports; each local one is resolved against the file on top of the stack
and processed in turn.  With reuse on, the result of a processed file is kept.

The walk records what it looks at: files that it reads or cannot read, paths that it probes, files
that it hands to the engine, the stack whenever it changes, failures where they arise, and log
messages.  Files on the stack are distinct, so the nesting is bounded by the number of their names
(`Project.limit`).
-/
import ExportDocs.Imports.Engine
import ExportDocs.Imports.Resolution
import ExportDocs.Imports.Stack
import ExportDocs.Log

namespace ExportDocs

set_option autoImplicit false

/-- What is known about a processed file. -/
structure FileResult where
  path : Path
  symbols : List Symbol
  tokens : List Token
  statements : List Statement
  deriving DecidableEq, Repr, Inhabited

/-- Something that happens in a walk. -/
inductive Event where
  | read (path : Path)
  | unread (path : Path)
  | probed (path : Path)
  /-- A file handed to the engine, under its path relative to the root. -/
  | handed (path : Path) (relative : Text)
  /-- The stack after a change. -/
  | stacked (stack : Stack)
  /-- A failure, where it arises. -/
  | raised (error : Error)
  | logged (entry : LogEntry)
  deriving DecidableEq, Repr, Inhabited

/-- The state of a walk: the stack, the results kept for reuse, and the events, last first. -/
structure Walk where
  stack : Stack := []
  cache : List (Path × FileResult) := []
  events : List Event := []
  deriving DecidableEq, Repr, Inhabited

namespace Walk

/-- The log messages of a walk, in order. -/
def log (walk : Walk) : List LogEntry :=
  walk.events.reverse.filterMap fun
    | .logged entry => some entry
    | _ => none

/-- How many files have been read. -/
def filesRead (walk : Walk) : Nat :=
  walk.events.countP fun
    | .read _ => true
    | _ => false

/-- The paths handed to the engine, in order. -/
def handed (walk : Walk) : List Text :=
  walk.events.reverse.filterMap fun
    | .handed _ relative => some relative
    | _ => none

end Walk

/-- A step of a walk. -/
abbrev WalkM := ExceptT Error (StateM Walk)

namespace WalkM

/-- The outcome of a step from a state, and the state after it. -/
def runFrom {α : Type} (step : WalkM α) (walk : Walk) : Except Error α × Walk := step.run.run walk

/-- Records an event. -/
def note (event : Event) : WalkM Unit := modify fun walk => { walk with events := event :: walk.events }

/-- Fails, and records it. -/
def raise {α : Type} (error : Error) : WalkM α := do
  note (.raised error)
  throw error

/-- A result, or a failure that arises here. -/
def ofExcept {α : Type} : Except Error α → WalkM α
  | .ok a => pure a
  | .error error => raise error

/-- Replaces the stack. -/
def setStack (stack : Stack) : WalkM Unit := do
  modify fun walk => { walk with stack }
  note (.stacked stack)

/-- Runs a step with a file on the stack, which is left again however the step ends. -/
def within {α : Type} (path : Path) (step : WalkM α) : WalkM α := do
  setStack (← ofExcept ((← get).stack.enter path))
  let outcome ← ExceptT.lift step.run
  setStack (← get).stack.leave
  ExceptT.mk (pure outcome)

end WalkM

/-- A project whose imports are followed. -/
structure Project where
  settings : Settings
  files : FileTree
  /-- The directory that paths are reported relative to. -/
  root : Path
  engine : Engine
  /-- Whether the results of processed files are kept. -/
  reuse : Bool
  /-- How much is logged. -/
  verbosity : Nat

namespace Project

/-- The project at a root with the engine for modules. -/
def ofModules (settings : Settings) (files : FileTree) (root : Path) (verbosity : Nat) : Project :=
  { settings, files, root, engine := .modules settings.undocumented, reuse := settings.reuseImports
    verbosity }

/-- The project with or without the reuse of results. -/
def withReuse (project : Project) (reuse : Bool) : Project := { project with reuse }

/-- Logs a message, if the verbosity reaches its level. -/
def log (project : Project) (level : Level) (message : Text) : WalkM Unit :=
  if level.isShown project.verbosity then WalkM.note (.logged { level, message }) else pure ()

/-- The path of a file as it is reported. -/
def relative (project : Project) (path : Path) : Text :=
  Path.relativeTo project.files.current path project.root

/-- The search for the file that a specifier names, seen from a file. -/
def lookup (project : Project) (base : Path) (specifier : Text) : Resolution.Search :=
  Resolution.lookup project.settings.sourceExtension project.settings.indexName
    project.files.hasPath base.toText specifier

/-- Resolves a specifier against the file on top of the stack. -/
def resolveImport (project : Project) (specifier : Text) : WalkM Path := do
  let base ← WalkM.ofExcept (← get).stack.top
  let search := project.lookup base specifier
  search.probed.forM fun path => WalkM.note (.probed path)
  match search.found with
  | none => WalkM.raise (.unresolvedImport base specifier)
  | some path =>
    if !search.probed.isEmpty then
      project.log .trace ("Resolved ".toList ++ specifier ++ " -> ".toList ++ path.toText)
    return path

/-- The symbols of the module that a specifier names; none if it is not one of the project.
`process` processes a file. -/
def importSymbols (project : Project) (process : Path → WalkM FileResult) (specifier : Text) :
    WalkM (List Symbol) := do
  if project.settings.isLocal specifier then
    let path ← project.resolveImport specifier
    return (← process path).symbols
  else return []

/-- Reads the source of a file. -/
def readSource (project : Project) (path : Path) : WalkM Text := do
  match project.files.read path with
  | .ok source => WalkM.note (.read path); return source
  | .error .nullCharacter => WalkM.note (.unread path); WalkM.raise (.uncaught (.file .nullCharacter))
  | .error fault => WalkM.note (.unread path); WalkM.raise (.unreadableFile path (.file fault))

/-- What the work of the engine on a file comes to.  A cause that is not reported otherwise is a
failure to extract this file. -/
def conclude (project : Project) (path : Path) :
    Except Error (Except Cause Extraction) → WalkM Extraction
  | .ok (.ok extraction) => do
    if project.engine.counts then
      project.log .trace (project.relative path ++ ": ".toList ++
        Text.ofNat extraction.symbols.length ++ " exported symbols".toList)
    return extraction
  | .ok (.error cause) => WalkM.raise (.failedExtraction path cause)
  | .error (.uncaught cause) => WalkM.raise (.failedExtraction path cause)
  | .error error => throw error

/-- Hands a file on top of the stack to the engine. -/
def extractFile (project : Project) (resolve : Text → WalkM (List Symbol)) (path : Path)
    (source : Text) : WalkM Extraction := do
  let depth := (← get).stack.length - 1
  project.log .debug
    (List.replicate (2 * depth) ' ' ++ "Processing ".toList ++ project.relative path)
  WalkM.note (.handed path (project.relative path))
  project.conclude path (← ExceptT.lift
    (project.engine.run (project.relative path) source resolve).run)

/-- The result kept for a file. -/
def kept (project : Project) (walk : Walk) (path : Path) : Option FileResult :=
  if project.reuse then walk.cache.lookup path else none

/-- Keeps a result, if results are reused. -/
def keep (project : Project) (result : FileResult) : WalkM FileResult := do
  if project.reuse then
    modify fun walk => { walk with cache := (result.path, result) :: walk.cache }
  return result

/-- Processes a file, by the normal form of its path. -/
def processNormal (project : Project) (resolve : Text → WalkM (List Symbol)) (path : Path) :
    WalkM FileResult := do
  match project.kept (← get) path with
  | some result =>
    project.log .debug ("Reusing ".toList ++ path.toText)
    return result
  | none =>
    let source ← project.readSource path
    let extraction ← WalkM.within path (project.extractFile resolve path source)
    project.keep { path, symbols := extraction.symbols, tokens := extraction.tokens
                   statements := extraction.statements }

/-- Processes a file with fewer than `limit` files around it. -/
def processWith (project : Project) : Nat → Path → WalkM FileResult
  | 0, _ => WalkM.raise (.uncaught .tooDeep)
  | limit + 1, path =>
    project.processNormal (project.importSymbols (project.processWith limit)) path.normalize

/-- A limit to the nesting that no path with a root meets: a file has at most two such names, from
the root and from two slashes, and each can stand on the stack once.  Only a path that climbs ever
higher above the current directory is stopped by it. -/
def limit (project : Project) : Nat := 3 * project.files.files.length + 1

/-- Processes a file and everything that it re-exports from the project. -/
def process (project : Project) (path : Path) : WalkM FileResult :=
  project.processWith project.limit path

end Project

end ExportDocs
