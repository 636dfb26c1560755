/-
# ExportDocs.Log -- messages about what a run does

Every message has a level.  A message is logged only if the verbosity reaches its level
(`Level.isShown`); what is not logged leaves no trace.
-/
import ExportDocs.Text

namespace ExportDocs

set_option autoImplicit false

/-- The level of a message. -/
inductive Level where
  | info
  | debug
  | trace
  deriving DecidableEq, Repr, Inhabited

namespace Level

/-- The verbosity from which on a level is shown. -/
def number : Level → Nat
  | info => 1
  | debug => 2
  | trace => 3

/-- Whether messages of a level are logged at a verbosity. -/
def isShown (verbosity : Nat) (level : Level) : Bool := !(verbosity < level.number)

/-- The word for a level. -/
def label : Level → String
  | info => "INFO"
  | debug => "DEBUG"
  | trace => "TRACE"

end Level

/-- A message. -/
structure LogEntry where
  level : Level
  message : Text
  deriving DecidableEq, Repr, Inhabited

end ExportDocs
