/-
# ExportDocs.Exports.Extract -- the exported symbols of a module

The exports of a module are documented in source order.  An export that comes from another module
asks `resolve` for the symbols of that module, whatever monad that happens in; everything else is
settled by the outline.
-/
import ExportDocs.Exports.Outline

namespace ExportDocs

set_option autoImplicit false

/-- What is extracted from one module. -/
structure Extraction where
  symbols : List Symbol
  tokens : List Token
  statements : List Statement
  deriving DecidableEq, Repr, Inhabited

namespace Outline

/-- An undocumented symbol for an export whose declaration is out of reach. -/
def placeholder (outline : Outline) (name : Text) (kind : Kind) (line : Nat) : Symbol :=
  { path := outline.path, name, kind, description := outline.undocumented
    firstLine := line, lastLine := line }

variable {m : Type → Type} [Monad m]

/-- Documents a local name, following it into its module if it was imported. -/
def documentBinding (outline : Outline) (resolve : Text → m (List Symbol)) (name : Text)
    (line : Nat) : m Symbol :=
  match outline.declaration? name with
  | some symbol => pure symbol
  | none =>
    match outline.import? name with
    | none => pure (outline.placeholder name .unknown line)
    | some (source, imported) =>
      if imported == ['*'] then pure (outline.placeholder name .moduleNamespace line)
      else do
        let symbols ← resolve source
        return (Symbol.find? symbols imported).getD (outline.placeholder name .unknown line)

/-- The symbols that an export statement contributes beyond those it declares. -/
def documentForm (outline : Outline) (resolve : Text → m (List Symbol)) (line : Nat) :
    Form → m (List Symbol)
  | .exportsAll _ (some source) => do
    let symbols ← resolve source
    return symbols.filter (!·.isDefault)
  | .exportsDefault _ name => do
    let symbol ← outline.documentBinding resolve name line
    return [symbol.renamed name true]
  | .exportsNamed pairs (some source) => do
    let symbols ← resolve source
    return pairs.map fun (imported, exported) =>
      ((Symbol.find? symbols imported).getD (outline.placeholder exported .unknown line)).renamed
        exported (exported == "default".toList)
  | .exportsNamed pairs none =>
    pairs.mapM fun (name, exported) => do
      let symbol ← outline.documentBinding resolve name line
      return symbol.renamed exported (exported == "default".toList)
  | _ => pure []

/-- The symbols that a record contributes. -/
def documentRecord (outline : Outline) (resolve : Text → m (List Symbol)) (record : Record) :
    m (List Symbol) :=
  if !record.exported.isEmpty then pure record.exported
  else match record.statement with
    | some statement => outline.documentForm resolve statement.line statement.form
    | none => pure []

/-- The exported symbols of a module. -/
def document (outline : Outline) (resolve : Text → m (List Symbol)) : m (List Symbol) := do
  let contributions ← outline.records.mapM (outline.documentRecord resolve)
  return contributions.flatten

end Outline

/-- Extracts the exports of a module: `path` is where its symbols are said to be declared, and
`resolve` answers with the symbols of a module it names. -/
def extract {m : Type → Type} [Monad m] (path undocumented source : Text)
    (resolve : Text → m (List Symbol)) : m (Except ExtractFault Extraction) :=
  match Outline.ofSource path undocumented source with
  | .error fault => pure (.error fault)
  | .ok outline => do
    let symbols ← outline.document resolve
    return .ok { symbols, tokens := outline.dump, statements := outline.statements }

end ExportDocs
