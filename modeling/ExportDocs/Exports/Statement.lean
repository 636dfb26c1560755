/-
# ExportDocs.Exports.Statement -- records of module statements

A statement of a module is recorded with its line and its form.  The views `type`, `kind`, `names`
and `source` give the fields of the debug dump: for imports the pairs are imported name and local
name, for exports local name and exported name.
-/
import ExportDocs.Symbol

namespace ExportDocs

set_option autoImplicit false

/-- The form of a module statement. -/
inductive Form where
  /-- Bindings `(imported, local)` taken from a module. -/
  | imports (bindings : List (Text × Text)) (source : Option Text)
  /-- A declaration that is not exported where it stands. -/
  | declares (kind : Kind) (names : List Text)
  /-- A declaration that is exported where it stands. -/
  | exportsDeclaration (kind : Kind) (names : List Text)
  /-- A default export; without a kind it names a binding. -/
  | exportsDefault (kind : Option Kind) (name : Text)
  /-- Bindings `(local, exported)`, of this module or of another one. -/
  | exportsNamed (bindings : List (Text × Text)) (source : Option Text)
  /-- All that another module exports, under one name if there is one. -/
  | exportsAll (newName : Option Text) (source : Option Text)
  deriving DecidableEq, Repr, Inhabited

/-- A recorded statement. -/
structure Statement where
  line : Nat
  form : Form
  deriving DecidableEq, Repr, Inhabited

namespace Form

/-- The word for a form. -/
def type : Form → String
  | imports .. => "import"
  | declares .. => "declaration"
  | exportsDeclaration .. => "export-declaration"
  | exportsDefault .. => "export-default"
  | exportsNamed .. => "export-named"
  | exportsAll .. => "export-all"

/-- The kind of what is declared. -/
def kind : Form → Option Kind
  | declares kind _ => some kind
  | exportsDeclaration kind _ => some kind
  | exportsDefault kind _ => kind
  | _ => none

/-- The pairs of names. -/
def names : Form → List (Text × Text)
  | imports bindings _ => bindings
  | declares _ names => names.map fun name => (name, name)
  | exportsDeclaration _ names => names.map fun name => (name, name)
  | exportsDefault _ name => [(name, "default".toList)]
  | exportsNamed bindings _ => bindings
  | exportsAll (some newName) _ => [(['*'], newName)]
  | exportsAll none _ => []

/-- The specifier of the other module. -/
def source : Form → Option Text
  | imports _ source => source
  | exportsNamed _ source => source
  | exportsAll _ source => source
  | _ => none

/-- Whether a form exports something. -/
def isExport : Form → Bool
  | imports .. => false
  | declares .. => false
  | _ => true

end Form

end ExportDocs
