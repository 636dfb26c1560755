/-
# ExportDocs.Dump -- what is known about a file, as structured values

With debugging on, a run writes down the symbols, the tokens and the statements of its entry file.
-/
import ExportDocs.Exports.Extract
import ExportDocs.Json

namespace ExportDocs

set_option autoImplicit false

/-- A tag as a structured value. -/
def Tag.toJson (tag : Tag) : Json :=
  .object [("tag".toList, .str tag.label), ("name".toList, .str tag.name),
    ("type".toList, .str tag.type), ("description".toList, .str tag.description),
    ("optional".toList, .bool tag.optional)]

/-- A symbol as a structured value. -/
def Symbol.toJson (symbol : Symbol) : Json :=
  .object [("path".toList, .str symbol.path), ("name".toList, .str symbol.name),
    ("kind".toList, .str symbol.kind.label), ("description".toList, .str symbol.description),
    ("tags".toList, .list (symbol.tags.map Tag.toJson)),
    ("line_start".toList, .int symbol.firstLine), ("line_end".toList, .int symbol.lastLine),
    ("is_default".toList, .bool symbol.isDefault)]

/-- A token as a structured value. -/
def Token.toJson (token : Token) : Json :=
  .object [("type".toList, .str token.type.label.toList), ("value".toList, .str token.value),
    ("line".toList, .int token.line)]

/-- A text that may be missing as a structured value. -/
def Json.ofText? : Option Text → Json
  | some t => .str t
  | none => .null

/-- A statement as a structured value. -/
def Statement.toJson (statement : Statement) : Json :=
  .object [("type".toList, .str statement.form.type.toList), ("line".toList, .int statement.line),
    ("kind".toList, .ofText? (statement.form.kind.map Kind.label)),
    ("names".toList, .list (statement.form.names.map fun (a, b) => .list [.str a, .str b])),
    ("source".toList, .ofText? statement.form.source)]

/-- What is written down. -/
inductive Dump where
  | symbols
  | tokens
  | statements
  deriving DecidableEq, Repr, Inhabited

namespace Dump

/-- The dumps in the order in which they are written. -/
def all : List Dump := [symbols, tokens, statements]

/-- What the name of a dump's file ends with. -/
def fileEnd : Dump → Text
  | symbols => "-ir.json".toList
  | tokens => "-exports.json".toList
  | statements => "-ast.json".toList

end Dump

end ExportDocs
