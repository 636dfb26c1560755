/-
# ExportDocs.Document.Append -- putting a report into a document on disk

The document is read, the new content is embedded in the region of a token, and the result is
written, to the same file or to another.  Nothing is written if there is no such region.
-/
import ExportDocs.Document.Region
import ExportDocs.Host

namespace ExportDocs

set_option autoImplicit false

/-- The region of a token; it is a failure if the document has none. -/
def Region.require (settings : Settings) (token : Text) (document : Document) :
    Except Error Region :=
  match Region.find? settings token document with
  | .ok (some region) => .ok region
  | .ok none => .error (.missingRegion token none)
  | .error fault => .error (.uncaught (.template fault))

namespace Document

/-- The message about an embedded content. -/
def embeddedMessage (token : Text) (nodes : Nat) (depth : Int) : Text :=
  "Embedded ".toList ++ Text.ofNat nodes ++ " nodes at TOKEN(".toList ++ token ++
    "), headings at depth ".toList ++ Text.ofInt depth

/-- The message about a document that has been written. -/
def mergedMessage (token : Text) (output : Path) : Text :=
  "Merged ".toList ++ token ++ " section into ".toList ++ output.toText

/-- Puts a content into the region of a token of the document at `path` and writes the result to
`output`. -/
def append (settings : Settings) (path : Path) (token content : Text) (output : Path) :
    Action Text := do
  let document := ofMarkdown (← Action.read path)
  let content := ofMarkdown content
  match Region.require settings token document with
  | .error error => throw (error.inDocument path)
  | .ok region =>
    Action.log .debug
      (embeddedMessage token content.length (region.headingDepth document))
    let text := toMarkdown (region.embed content document)
    Action.write output text
    Action.log .debug (mergedMessage token output)
    return text

/-- The same with a content that is no text, which is left to the host. -/
def appendUnencodable (host : Host) (settings : Settings) (path : Path) (token : Text)
    (codes : List Nat) (output : Path) : Action Text := do
  match host.merge settings token codes (← Action.read path) with
  | .error cause => throw (.uncaught cause)
  | .ok none => throw (.missingRegion token (some path))
  | .ok (some merged) =>
    Action.log .debug (embeddedMessage token merged.nodes merged.depth)
    let text ← Action.writeString output merged.result
    Action.log .debug (mergedMessage token output)
    return text

/-- Puts a string into the region of a token of the document at `path` and writes the result to
`output`. -/
def appendString (host : Host) (settings : Settings) (path : Path) (token : Text)
    (content : HostString) (output : Path) : Action Text :=
  match content with
  | .text content => append settings path token content output
  | .unencodable codes => appendUnencodable host settings path token codes output

end Document

end ExportDocs
