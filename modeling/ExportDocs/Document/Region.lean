/-
# ExportDocs.Document.Region -- the part of a document between two markers

The region of a token lies between the first start marker and the first end marker of that token.
Embedding replaces what stands in the region by another document, whose headings are put one level
below the section that the region lies in (`embed`).

A content that is embedded in several places is one document: putting its headings at another depth
shows in all these places.  `Assembly` keeps the contents apart from the places where they stand.
-/
import ExportDocs.Document
import ExportDocs.Settings

namespace ExportDocs

set_option autoImplicit false

/-- The deepest heading that can be written. -/
def maxHeadingDepth : Int := 6

/-- The positions of a start marker and of the end marker after it. -/
structure Region where
  start : Nat
  stop : Nat
  deriving DecidableEq, Repr, Inhabited

namespace Region

/-- The region of a token.  The end marker is made only if there is a start marker. -/
def find? (settings : Settings) (token : Text) (document : Document) :
    Except TemplateFault (Option Region) := do
  match document.findMarker? (← settings.startMarkerOf token) with
  | none => return none
  | some start =>
    match document.findMarker? (← settings.endMarkerOf token) with
    | none => return none
    | some stop => return if start < stop then some { start, stop } else none

/-- The depth of headings in a region: one below the section around it. -/
def headingDepth (region : Region) (document : Document) : Int :=
  min (document.depthBefore (.ofNat region.start) + 1) maxHeadingDepth

/-- What stands in a region replaced by one entry. -/
def replace {α : Type} (region : Region) (entry : α) (entries : List α) : List α :=
  entries.take (region.start + 1) ++ entry :: entries.drop region.stop

/-- Puts a content into a region of a document. -/
def embed (region : Region) (content document : Document) : Document :=
  region.replace (.subtree (content.relevel (region.headingDepth document))) document

end Region

namespace Document

/-- Puts a content into the region of a token; nothing if the document has no such region. -/
def embed? (settings : Settings) (token : Text) (content document : Document) :
    Except TemplateFault (Option Document) := do
  return (← Region.find? settings token document).map fun region => region.embed content document

end Document

/-! ## Contents that stand in several places -/

/-- An entry of an assembly: a node of its own, or the content with a number. -/
inductive Entry where
  | node (node : Node)
  | content (number : Nat)
  deriving Repr, Inhabited

/-- A document in which numbered contents have been embedded. -/
structure Assembly where
  entries : List Entry
  contents : List Document
  deriving Repr, Inhabited

namespace Assembly

/-- The node that an entry shows. -/
def nodeOf (contents : List Document) : Entry → Node
  | .node node => node
  | .content number => .subtree (contents[number]?.getD [])

/-- The document that an assembly shows. -/
def document (assembly : Assembly) : Document := assembly.entries.map (nodeOf assembly.contents)

/-- Embeds the content with a number in the region of a token. -/
def embed? (settings : Settings) (token : Text) (number : Nat) (assembly : Assembly) :
    Except TemplateFault (Option Assembly) := do
  let found ← Region.find? settings token assembly.document
  return found.map fun region =>
    { entries := region.replace (.content number) assembly.entries
      contents := assembly.contents.modify number
        (Document.relevel (region.headingDepth assembly.document)) }

end Assembly

end ExportDocs
