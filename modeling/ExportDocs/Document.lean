/-
# ExportDocs.Document -- a document as a list of nodes

The nodes of a document are its headings, its raw markup, its other blocks, and whole documents
that were put in as one node.  `ofMarkdown` reads a document and `toMarkdown` writes it, with the
documents inside it in place.
-/
import ExportDocs.Markdown

namespace ExportDocs

set_option autoImplicit false

open Markdown (Block Inline)

/-- A node of a document. -/
inductive Node where
  | heading (depth : Int) (title : List Inline)
  /-- Raw markup without white space around it. -/
  | markup (value : Text)
  | block (block : Block (List Inline))
  | subtree (nodes : List Node)
  deriving Repr, Inhabited

/-- A document. -/
abbrev Document := List Node

namespace Node

/-- The node that a block is. -/
def ofBlock : Block (List Inline) → Node
  | .heading level title => heading level title
  | .html raw => markup (Text.strip raw)
  | other => block other

/-- The depth of a heading. -/
def depth? : Node → Option Int
  | heading depth _ => some depth
  | _ => none

/-- Whether a node is the given markup. -/
def isMarkup (value : Text) : Node → Bool
  | markup other => other == value
  | _ => false

/-- A heading put at a depth; other nodes stay as they are. -/
def relevel (depth : Int) : Node → Node
  | heading _ title => heading depth title
  | other => other

end Node

mutual

/-- The blocks of a node. -/
def Node.blocks : Node → List (Block (List Inline))
  | .heading depth title => [.heading depth title]
  | .markup value => [.html value]
  | .block block => [block]
  | .subtree nodes => Document.blocks nodes

/-- The blocks of a document, those of the documents inside it in their places. -/
def Document.blocks : Document → List (Block (List Inline))
  | [] => []
  | node :: rest => node.blocks ++ Document.blocks rest

end

namespace Document

/-- Reads a document. -/
def ofMarkdown (text : Text) : Document := (Markdown.read text).map Node.ofBlock

/-- Writes a document, with one line end after it. -/
def toMarkdown (document : Document) : Text := Markdown.print document.blocks

/-- The position of the first node that is the given markup. -/
def findMarker? (marker : Text) (document : Document) : Option Nat :=
  document.findIdx? (Node.isMarkup marker)

/-- The depth of the last heading, or one if there is none. -/
def lastDepth (document : Document) : Int :=
  (document.reverse.findSome? Node.depth?).getD 1

/-- The depth of the last heading before a position; a negative position counts from the end. -/
def depthBefore (position : Int) (document : Document) : Int :=
  lastDepth <| match position with
    | .ofNat n => document.take n
    | .negSucc n => document.take (document.length - (n + 1))

/-- The top-level headings put at a depth. -/
def relevel (depth : Int) (document : Document) : Document := document.map (Node.relevel depth)

end Document

end ExportDocs
