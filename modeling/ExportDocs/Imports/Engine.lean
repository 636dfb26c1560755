/-
# ExportDocs.Imports.Engine -- what reads a single file

An engine turns the text of one file into its exports.  Where it needs the exports of another
module it asks, in whatever monad the answer is found; so an engine can neither look at files nor
remember anything between two of them.
-/
import ExportDocs.Error
import ExportDocs.Exports.Extract

namespace ExportDocs

set_option autoImplicit false

/-- An engine. -/
structure Engine where
  /-- Reads a file with the given path and source. -/
  run : {m : Type → Type} → [Monad m] → (path source : Text) → (Text → m (List Symbol)) →
    m (Except Cause Extraction)
  /-- Whether the number of exports is logged. -/
  counts : Bool

namespace Engine

/-- The engine for modules. -/
def modules (undocumented : Text) : Engine where
  run path source resolve := do
    match ← extract path undocumented source resolve with
    | .ok extraction => return .ok extraction
    | .error fault => return .error (.extraction fault)
  counts := true

end Engine

end ExportDocs
