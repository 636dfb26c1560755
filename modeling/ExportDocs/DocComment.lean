/-
# ExportDocs.DocComment -- description and tags of a doc comment

A doc comment is cleaned line by line of its delimiters and its left column of asterisks
(`DocComment.lines`).  The lines before the first tag are the description; a tag's text runs to
the next tag (`sections`).  The text of an example keeps its line breaks, that of every other tag
is joined with spaces (`sectionText`).
-/
import ExportDocs.DocComment.Tag
import ExportDocs.Text.Case
import ExportDocs.Text.Lines

namespace ExportDocs

set_option autoImplicit false

/-- What a doc comment says. -/
structure DocComment where
  description : Text
  tags : List Tag
  deriving DecidableEq, Repr, Inhabited

namespace DocComment

/-- A text without `head` at its start, if it is there. -/
def without (head t : Text) : Text := (Text.dropHead? head t).getD t

/-- A text without `tail` at its end, if it is there. -/
def withoutEnd (tail t : Text) : Text :=
  if Text.endsWith t tail then t.take (t.length - tail.length) else t

/-- One line without delimiters and without the asterisk of the left column. -/
def cleanLine (line : Text) : Text :=
  let body := without "/**".toList (Text.strip line)
  let body := withoutEnd "*/".toList body
  Text.stripEnd (without [' '] (without ['*'] body))

/-- The cleaned lines, without blank ones at the start and at the end. -/
def lines (comment : Text) : List Text :=
  let cleaned := (Text.lines comment).map cleanLine
  ((cleaned.dropWhile Text.allBlank).reverse.dropWhile Text.allBlank).reverse

/-- Whether a line begins a tag. -/
def startsTag (line : Text) : Bool := (Text.strip line).head? == some '@'

/-- The lines before the first tag, and each tag line with the lines that follow it. -/
def sections (lines : List Text) : List Text × List (Text × List Text) :=
  lines.foldr
    (fun line (pending, closed) =>
      if startsTag line then ([], (line, pending) :: closed) else (line :: pending, closed))
    ([], [])

/-- The label of a tag line, in lower case, and the text after it on that line. -/
def readTagLine (line : Text) : Text × Text :=
  let body := (Text.strip line).drop 1
  (Text.lower (body.takeWhile (· != ' ')), (body.dropWhile (· != ' ')).drop 1)

/-- The text of a tag from its first line and the lines that continue it. -/
def sectionText (label first : Text) (more : List Text) : Text :=
  if label == Tag.exampleLabel then
    Text.trimBoth (· == '\n') (Text.joinWith ['\n'] (first :: more))
  else
    Text.joinWith [' '] (((first :: more).map Text.strip).filter (!·.isEmpty))

/-- The tag of a tag line and the lines that continue it. -/
def readSection (tagLine : Text) (more : List Text) : Tag :=
  let (label, first) := readTagLine tagLine
  Tag.read label (sectionText label first more)

/-- The description and the tags of a doc comment. -/
def parse (comment : Text) : DocComment :=
  let (before, tagged) := sections (lines comment)
  { description := Text.strip (Text.joinWith ['\n'] (before.map Text.strip))
    tags := tagged.map fun (tagLine, more) => readSection tagLine more }

end DocComment

end ExportDocs
