/-
# ExportDocs.Symbol -- what is known of an exported symbol

A symbol is one exported name with its documentation: where it is declared, what kind of
declaration it is, the description and the tags of its doc comment, and whether it is the default
export of its module.
-/
import ExportDocs.Text

namespace ExportDocs

set_option autoImplicit false

/-- One tag of a doc comment.  `name` is set for parameters, `type` where a type expression in
braces was written, `optional` for a parameter in square brackets. -/
structure Tag where
  label : Text
  name : Text := []
  type : Text := []
  description : Text := []
  optional : Bool := false
  deriving DecidableEq, Repr, Inhabited

/-- The kind of a declaration. -/
inductive Kind where
  | function
  | classDecl
  | binding
  | expression
  | moduleNamespace
  | unknown
  | other (label : Text)
  deriving DecidableEq, Repr, Inhabited

namespace Kind

/-- The word for a kind. -/
def label : Kind → Text
  | function => "function".toList
  | classDecl => "class".toList
  | binding => "variable".toList
  | expression => "expression".toList
  | moduleNamespace => "namespace".toList
  | unknown => "unknown".toList
  | other label => label

end Kind

/-- One exported symbol. -/
structure Symbol where
  path : Text
  name : Text
  kind : Kind := .unknown
  description : Text := []
  tags : List Tag := []
  firstLine : Int := 0
  lastLine : Int := 0
  isDefault : Bool := false
  deriving DecidableEq, Repr, Inhabited

namespace Symbol

/-- The same documentation under another exported name. -/
def renamed (symbol : Symbol) (name : Text) (isDefault : Bool) : Symbol :=
  { symbol with name, isDefault }

/-- The name under which a symbol is imported: `default` for a default export. -/
def exportedName (symbol : Symbol) : Text :=
  if symbol.isDefault then "default".toList else symbol.name

/-- The first symbol that an import of `name` means.  The word `default` means the default export,
or a symbol that has this name without being the default export. -/
def find? (symbols : List Symbol) (name : Text) : Option Symbol :=
  symbols.find? fun symbol =>
    (name == "default".toList && symbol.isDefault) || (symbol.name == name && !symbol.isDefault)

end Symbol

end ExportDocs
