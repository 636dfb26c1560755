/-
# ExportDocs.Markdown.Block -- the blocks of a document

A block holds inline content of type `α`: the raw text while blocks are being read, the list of
inlines afterwards (`Block.map`).  Link definitions are blocks of their own and stay where they
were written.
-/
import ExportDocs.Markdown.Inline

namespace ExportDocs.Markdown

set_option autoImplicit false

/-- The look of a list: its mark, the number of its first item if it is ordered, and whether its
items are set without blank lines. -/
structure ListStyle where
  mark : Char
  start : Option Nat
  tight : Bool
  deriving DecidableEq, Repr, Inhabited

/-- A block. -/
inductive Block (α : Type) where
  | heading (level : Int) (title : α)
  | paragraph (content : α)
  /-- A paragraph in an item of a tight list. -/
  | tightParagraph (content : α)
  /-- Code with its fence, unless it was indented, and the text after the fence. -/
  | code (raw : Text) (fence : Option Text) (info : Text)
  | quote (children : List (Block α))
  | list (style : ListStyle) (items : List (List (Block α)))
  | thematicBreak
  | html (raw : Text)
  /-- Blank lines; at the very start of a document their number. -/
  | blank (leading : Option Nat)
  | definition (raw : Text)
  deriving Repr, Inhabited

variable {α β : Type}

mutual

/-- A block with its inline content mapped. -/
def Block.map (f : α → β) : Block α → Block β
  | .heading level title => .heading level (f title)
  | .paragraph content => .paragraph (f content)
  | .tightParagraph content => .tightParagraph (f content)
  | .code raw fence info => .code raw fence info
  | .quote children => .quote (mapBlocks f children)
  | .list style items => .list style (mapItems f items)
  | .thematicBreak => .thematicBreak
  | .html raw => .html raw
  | .blank leading => .blank leading
  | .definition raw => .definition raw

/-- Blocks with their inline content mapped. -/
def mapBlocks (f : α → β) : List (Block α) → List (Block β)
  | [] => []
  | block :: rest => block.map f :: mapBlocks f rest

/-- List items with their inline content mapped. -/
def mapItems (f : α → β) : List (List (Block α)) → List (List (Block β))
  | [] => []
  | item :: rest => mapBlocks f item :: mapItems f rest

end

/-- The word for a block's type. -/
def Block.type : Block α → String
  | .heading .. => "heading"
  | .paragraph _ => "paragraph"
  | .tightParagraph _ => "block_text"
  | .code .. => "block_code"
  | .quote _ => "block_quote"
  | .list .. => "list"
  | .thematicBreak => "thematic_break"
  | .html _ => "block_html"
  | .blank _ => "blank_line"
  | .definition _ => "ref_definition"

/-- Whether a block is a paragraph. -/
def Block.isParagraph : Block α → Bool
  | .paragraph _ => true
  | _ => false

end ExportDocs.Markdown
