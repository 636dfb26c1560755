/-
# ExportDocs.World -- what a run sees and changes

A run works on files, prints to its output and logs messages.  An `Action` changes these and may
fail; what it did before it failed stays done.  In particular a file is emptied when it is opened
for writing, whether or not the string for it turns out to be a text.
-/
import ExportDocs.Error
import ExportDocs.Log

namespace ExportDocs

set_option autoImplicit false

/-- Files, printed text and log, the latter with its last message first, and the verbosity that
decides what is logged: none until a run has started. -/
structure World where
  files : FileTree
  output : Text := []
  messages : List LogEntry := []
  verbosity : Nat := 0
  deriving DecidableEq, Repr, Inhabited

namespace World

/-- The log, in order. -/
def log (world : World) : List LogEntry := world.messages.reverse

/-- The world after a message, which is dropped if the verbosity does not reach its level. -/
def logged (level : Level) (message : Text) (world : World) : World :=
  if level.isShown world.verbosity then
    { world with messages := { level, message } :: world.messages }
  else world

end World

/-- A string that is to be written: a text, or code points that cannot be encoded. -/
inductive HostString where
  | text (text : Text)
  | unencodable (codes : List Nat)
  deriving DecidableEq, Repr, Inhabited

/-- The string with the given code points. -/
def HostString.ofCodes (codes : List Nat) : HostString :=
  match Text.ofCodes? codes with
  | some t => .text t
  | none => .unencodable codes

/-- A step of a run that may fail. -/
abbrev Action := ExceptT Error (StateM World)

namespace Action

/-- Logs a message. -/
def log (level : Level) (message : Text) : Action Unit := modify (World.logged level message)

/-- A result, or a cause that nothing reports. -/
def ofExcept {ε α : Type} (cause : ε → Cause) : Except ε α → Action α
  | .ok a => pure a
  | .error e => throw (.uncaught (cause e))

/-- Reads the file at a path. -/
def read (path : Path) : Action Text := do
  ofExcept .file ((← get).files.read path)

/-- Writes the file at a path. -/
def write (path : Path) (text : Text) : Action Unit := do
  let files ← ofExcept .file ((← get).files.write path text)
  modify fun world => { world with files }

/-- Writes a string to the file at a path, and returns its text. -/
def writeString (path : Path) : HostString → Action Text
  | .text text => do
    write path text
    return text
  | .unencodable codes => do
    -- The file is opened, and so emptied, before the string turns out to be no text.
    write path []
    throw (.uncaught (.unencodable (.ofCodes codes)))

/-- Makes the directory at a path. -/
def makeDirectory (path : Path) : Action Unit := do
  let files ← ofExcept .file ((← get).files.makeDirectory path)
  modify fun world => { world with files }

end Action

end ExportDocs
