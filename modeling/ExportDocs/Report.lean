/-
# ExportDocs.Report -- symbols as a Markdown report

A report has one section for each symbol, in the order of the lower-cased names; symbols whose
names are equal but for case stay in the order in which they are given.  A section is a list of
lines that depends on its symbol alone, and on where the sources and the document lie.
-/
import ExportDocs.Path
import ExportDocs.Symbol
import ExportDocs.Text.Case

namespace ExportDocs

set_option autoImplicit false

namespace Report

/-- Where a report stands: the root of the sources, the document, and the current directory. -/
structure Place where
  root : Path
  document : Path
  current : List Text := []
  deriving DecidableEq, Repr, Inhabited

/-- The lines of a declaration, as a link names them. -/
def lineSpan (symbol : Symbol) : Text :=
  let first := 'L' :: Text.ofInt symbol.firstLine
  if symbol.lastLine ≠ 0 && symbol.lastLine ≠ symbol.firstLine then
    first ++ '-' :: 'L' :: Text.ofInt symbol.lastLine
  else first

/-- The way from the document to the source of a symbol. -/
def sourceTarget (place : Place) (symbol : Symbol) : Text :=
  Path.relativeTo place.current (place.root.join (Path.ofText symbol.path)) place.document.parent

/-- A link from the document to the lines of a declaration. -/
def sourceLink (place : Place) (symbol : Symbol) : Text :=
  let lines := lineSpan symbol
  '[' :: (Path.ofText symbol.path).toText ++ '#' :: lines ++ ']' :: '(' ::
    sourceTarget place symbol ++ '#' :: lines ++ [')']

/-- The head of an entry: the name, the type, and whether it is optional. -/
def tagHead (tag : Tag) : Text :=
  let name := if tag.name.isEmpty then [] else ['*' :: tag.name ++ ['*']]
  let type := if tag.type.isEmpty then [] else ['`' :: tag.type ++ ['`']]
  Text.joinWith [' '] (name ++ type) ++ if tag.optional then " (optional)".toList else []

/-- The entry of a tag in a list. -/
def tagLine (tag : Tag) : Text :=
  let head := tagHead tag
  "-   ".toList ++
    if head.isEmpty then tag.description
    else if tag.description.isEmpty then head
    else head ++ ": ".toList ++ tag.description

/-- The lines of a list of tags under a title; none for no tags. -/
def tagLines (title : String) (tags : List Tag) : List Text :=
  if tags.isEmpty then []
  else ('*' :: title.toList ++ ['*']) :: [] :: tags.map tagLine ++ [[]]

/-- The tags of a symbol with a label. -/
def tagsLabelled (label : String) (symbol : Symbol) : List Tag :=
  symbol.tags.filter (·.label == label.toList)

/-- The lines of one symbol. -/
def symbolLines (place : Place) (symbol : Symbol) : List Text :=
  ["## ".toList ++ symbol.name, []] ++
  (if symbol.firstLine ≠ 0 then [sourceLink place symbol, []] else []) ++
  ((tagsLabelled "deprecated" symbol).flatMap fun tag =>
    ["> **Deprecated**".toList ++
      (if tag.description.isEmpty then [] else ' ' :: tag.description), []]) ++
  (if symbol.description.isEmpty then [] else [symbol.description, []]) ++
  (let examples := tagsLabelled "example" symbol
   if examples.isEmpty then []
   else ["*Usage*".toList, []] ++ examples.flatMap fun tag =>
     ["```js".toList, tag.description, "```".toList, []]) ++
  tagLines "Parameters" (tagsLabelled "param" symbol) ++
  tagLines "Returns" (tagsLabelled "return" symbol) ++
  tagLines "Throws" (tagsLabelled "throws" symbol)

/-- The symbols in the order of a report. -/
def sorted (symbols : List Symbol) : List Symbol :=
  symbols.mergeSort fun a b => Text.le (Text.lower a.name) (Text.lower b.name)

/-- The lines of a report. -/
def lines (place : Place) (symbols : List Symbol) (heading : Option Text) : List Text :=
  (match heading with
    | some title => if title.isEmpty then [] else ["# ".toList ++ title, []]
    | none => []) ++
  (if symbols.isEmpty then ["Nothing to document.".toList, []] else []) ++
  (sorted symbols).flatMap (symbolLines place)

/-- The text of a report. -/
def render (place : Place) (symbols : List Symbol) (heading : Option Text) : Text :=
  Text.trimEnd (· == '\n') (Text.joinWith ['\n'] (lines place symbols heading)) ++ ['\n']

end Report

end ExportDocs
