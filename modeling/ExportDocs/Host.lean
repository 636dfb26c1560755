/-
# ExportDocs.Host -- the interpreter that runs formatter files

A formatter is code in a file, which is not part of the program.  A `Host` says what loading such a
file and calling its formatter come to: code of the host may look at everything and change
everything, it may fail, and it may end the run.  The host also keeps a compiled form of a file that
it loads, and it has strings that are no texts.

Nothing is assumed about a host here.
-/
import ExportDocs.Settings
import ExportDocs.World

namespace ExportDocs

set_option autoImplicit false

/-- How code of the host fails. -/
inductive HostFault where
  /-- An error, with its message. -/
  | raised (message : Text)
  /-- An interrupt or an exit, which is no error and is not caught. -/
  | escaped (message : Text)
  deriving DecidableEq, Repr, Inhabited

/-- Code of the host. -/
abbrev HostM := ExceptT HostFault (StateM World)

/-- What a formatter returns. -/
inductive HostValue where
  /-- A string, by its code points. -/
  | string (codes : List Nat)
  /-- Anything else, of the named type. -/
  | other (type : Text)
  deriving DecidableEq, Repr, Inhabited

/-- A formatter is called with the input directory, the document, the symbols, if they are known, and
the heading. -/
abbrev HostFormatter := Path → Path → Option (List Symbol) → Option Text → HostM HostValue

/-- A string that has been put into a region of a document: the result, the number of nodes that it
had and the depth of their headings. -/
structure Merged where
  result : HostString
  nodes : Nat
  depth : Int
  deriving DecidableEq, Repr, Inhabited

/-- An interpreter. -/
structure Host where
  /-- Whether a file with this name can be loaded. -/
  loads : Text → Bool
  /-- Where the compiled form of a file is kept, if at all. -/
  cachePlace : Path → Option (List Text)
  /-- The compiled form that is stored when a file is loaded, if there is no such form yet and the
  file can be compiled. -/
  compiled : FileTree → Path → Content → Option Content
  /-- Executes a file; it may define a formatter. -/
  execute : Path → Content → HostM (Option HostFormatter)
  /-- Puts a string that is no text into the region of a token of a document; nothing if the document
  has no such region. -/
  merge : Settings → (token : Text) → (codes : List Nat) → (document : Text) →
    Except Cause (Option Merged)

/-- Runs code of the formatter at a path. -/
def HostM.act {α : Type} (path : Path) (code : HostM α) : Action α := do
  match ← ExceptT.lift code.run with
  | .ok a => return a
  | .error (.raised message) => throw (.failedFormatter path (.raised message))
  | .error (.escaped message) => throw (.uncaught (.raised message))

namespace Host

/-- Stores the compiled form of a file. -/
def keepCompiled (host : Host) (path : Path) (content : Content) : Action Unit := do
  match host.cachePlace path, host.compiled (← get).files path content with
  | some place, some form =>
    modify fun world => { world with files := world.files.setFile place form }
  | _, _ => return ()

/-- The path of a file from the root. -/
def locationOf (files : FileTree) (path : Path) : Path :=
  match path.root with
  | .current => { root := .absolute, parts := files.current ++ path.parts }
  | _ => path

/-- Loads the formatter in a file. -/
def load (host : Host) (path : Path) : Action HostFormatter := do
  let failed (fault : FormatterFault) : Error := .failedFormatter path (.formatter fault)
  if !host.loads path.toText then throw (failed (.notLoadable path.toText))
  else
    let files := (← get).files
    let location := locationOf files path
    match files.contentAt location with
    | .error fault => throw (failed (.unreadable fault))
    | .ok content =>
      host.keepCompiled location content
      match ← HostM.act path (host.execute location content) with
      | some formatter => return formatter
      | none => throw (failed .undefined)

/-- A host that loads no file. -/
def bare : Host where
  loads _ := false
  cachePlace _ := none
  compiled _ _ _ := none
  execute _ _ := return none
  merge _ _ _ _ := .ok none

end Host

end ExportDocs
