/-
# ExportDocs.Markdown -- reading a Markdown text

Blocks are read first, from the lines of the text; they collect the link definitions.  The inline
content of every block is read afterwards, so a link may refer to a definition that follows it.
-/
import ExportDocs.Markdown.Block.Reader
import ExportDocs.Markdown.Inline.Reader
import ExportDocs.Markdown.Printer

namespace ExportDocs.Markdown

set_option autoImplicit false

/-- The lines of a text; the last one ends whether a line end is written or not. -/
def sourceLines (text : Text) : List Line :=
  let text := Text.foldNewlines text
  Line.ofText (if text.getLast? == some '\n' then text else text ++ ['\n'])

/-- The blocks of a text. -/
def read (text : Text) : List (Block (List Inline)) :=
  let (blocks, definitions) := Reader.read (sourceLines text)
  mapBlocks (readInline definitions) blocks

end ExportDocs.Markdown
