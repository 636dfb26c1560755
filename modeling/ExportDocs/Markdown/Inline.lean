/-
# ExportDocs.Markdown.Inline -- what stands inside a paragraph or a heading

Inline content is a list of texts, code spans, emphasis, links, images, raw markup and line
breaks.  `depth` counts how deep emphasis, links and images are nested.
-/
import ExportDocs.Text

namespace ExportDocs.Markdown

set_option autoImplicit false

/-- Where a link leads. -/
structure Target where
  url : Text
  title : Option Text := none
  deriving DecidableEq, Repr, Inhabited

/-- A piece of inline content. -/
inductive Inline where
  | text (raw : Text)
  | code (raw : Text)
  | emphasis (children : List Inline)
  | strong (children : List Inline)
  /-- A link, with the label of the definition it refers to if it refers to one. -/
  | link (children : List Inline) (target : Target) (label : Option Text)
  | image (children : List Inline) (target : Target) (label : Option Text)
  | html (raw : Text)
  | hardBreak
  | softBreak
  deriving Repr, Inhabited

mutual

/-- How deep a piece nests: a piece without children has depth zero. -/
def Inline.depth : Inline → Nat
  | .emphasis children => inlineDepth children + 1
  | .strong children => inlineDepth children + 1
  | .link children _ _ => inlineDepth children + 1
  | .image children _ _ => inlineDepth children + 1
  | _ => 0

/-- The greatest depth among pieces. -/
def inlineDepth : List Inline → Nat
  | [] => 0
  | piece :: rest => max piece.depth (inlineDepth rest)

end

/-- Whether a piece has children. -/
def Inline.hasChildren : Inline → Bool
  | .emphasis _ => true
  | .strong _ => true
  | .link .. => true
  | .image .. => true
  | _ => false

end ExportDocs.Markdown
