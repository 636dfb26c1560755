/-
# ExportDocs.Imports.Stack -- the files being processed

The innermost file comes first.  A file that is on the stack cannot be entered again, so a stack
never holds a file twice.
-/
import ExportDocs.Error

namespace ExportDocs

set_option autoImplicit false

/-- The files being processed, innermost first. -/
abbrev Stack := List Path

namespace Stack

/-- The innermost file. -/
def top (stack : Stack) : Except Error Path :=
  match stack with
  | path :: _ => .ok path
  | [] => .error (.uncaught .emptyStack)

/-- Enters a file. -/
def enter (path : Path) (stack : Stack) : Except Error Stack :=
  if stack.contains path then .error (.importCycle path stack.reverse) else .ok (path :: stack)

/-- Leaves the innermost file. -/
def leave (stack : Stack) : Stack := stack.tail

end Stack

end ExportDocs
