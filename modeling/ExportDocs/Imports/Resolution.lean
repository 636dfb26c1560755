/-
# ExportDocs.Imports.Resolution -- the file that a specifier names

A specifier is read against the directory of the file that imports it.  One that ends with the
source extension is taken as it is; otherwise the file with that extension is tried, then the index
file of the directory.
-/
import ExportDocs.Error
import ExportDocs.Settings

namespace ExportDocs.Resolution

set_option autoImplicit false

/-- Where a specifier leads from a file. -/
def target (base specifier : Text) : Path :=
  ((Path.folderOf base).join (Path.ofText specifier)).normalize

/-- The files that may stand for a target, in the order in which they are tried. -/
def candidates (extension indexName : Text) (target : Path) : List Path :=
  [Path.ofText (target.toText ++ extension),
    target.join (Path.ofText (indexName ++ extension))]

/-- The result of resolving a specifier: the candidates that were looked up, and the file. -/
structure Search where
  probed : List Path
  found : Option Path
  deriving DecidableEq, Repr, Inhabited

/-- Looks for the first candidate that exists. -/
def search (isThere : Path → Bool) : List Path → Search
  | [] => { probed := [], found := none }
  | path :: rest =>
    if isThere path then { probed := [path], found := some path }
    else
      let later := search isThere rest
      { later with probed := path :: later.probed }

/-- Looks for the file that a specifier names. -/
def lookup (extension indexName : Text) (isThere : Path → Bool) (base specifier : Text) : Search :=
  let target := target base specifier
  if target.toText.endsWith extension then { probed := [], found := some target }
  else search isThere (candidates extension indexName target)

/-- The file that a specifier names. -/
def resolve (extension indexName : Text) (isThere : Path → Bool) (base specifier : Text) :
    Except Error Path :=
  match (lookup extension indexName isThere base specifier).found with
  | some path => .ok path
  | none => .error (.unresolvedImport (Path.ofText base) specifier)

end ExportDocs.Resolution
