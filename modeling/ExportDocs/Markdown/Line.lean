/-
# ExportDocs.Markdown.Line -- lines and their indentation

Blocks are read line by line.  A line is kept without its end; a source is a list of lines, each
of which ended.  A line that continues a quotation without its mark is lazy, and such a line
underlines no heading.
-/
import ExportDocs.Text.Blank

namespace ExportDocs.Markdown

set_option autoImplicit false

/-- A line of a source. -/
structure Line where
  text : Text
  lazy : Bool := false
  deriving DecidableEq, Repr, Inhabited

namespace Line

/-- The lines of a text that ends with a line feed. -/
def ofText (t : Text) : List Line :=
  ((Text.splitAtChar '\n' t).dropLast).map fun text => { text }

/-- The text of lines, each with its end. -/
def join (lines : List Line) : Text := lines.flatMap fun line => line.text ++ ['\n']

/-- A line that only spaces, tabs and vertical blanks fill. -/
def isEmpty (line : Line) : Bool :=
  line.text.all fun c => c == ' ' || c == '\t' || c == '\x0b' || c == '\x0c'

/-- A line that only white space fills. -/
def isBlank (line : Line) : Bool := Text.allBlank line.text

end Line

/-- The width of `n` spaces. -/
def spaces (n : Nat) : Text := List.replicate n ' '

/-- The number of spaces at the start. -/
def leadingSpaces (t : Text) : Nat := (t.takeWhile (· == ' ')).length

/-- The text after at most `limit` spaces, if no further space follows them. -/
def afterIndent (limit : Nat) (t : Text) : Option Text :=
  if leadingSpaces t ≤ limit then some (t.drop (leadingSpaces t)) else none

/-- A tab after at most three spaces at the start, replaced by as many spaces as `width` gives for
the number of spaces before it. -/
def expandFirstTab (width : Nat → Nat) (t : Text) : Text :=
  let n := leadingSpaces t
  match t.drop n with
  | '\t' :: rest => if n ≤ 3 then spaces (n + width n) ++ rest else t
  | _ => t

/-- Whether a line is indented as code: four spaces, or spaces and a tab, and something more. -/
def isCodeLine (t : Text) : Bool :=
  (t.length > 4 && Text.startsWith t (spaces 4)) ||
    match t.drop (leadingSpaces t) with
    | '\t' :: _ :: _ => true
    | _ => false

/-- The column after a tab in the given column. -/
def nextTabStop (column : Nat) : Nat := column + (4 - column % 4)

/-- Spaces and tabs at the start replaced by spaces, the text starting in the given column. -/
def expandTabs (column : Nat) : Text → Text
  | ' ' :: t => ' ' :: expandTabs (column + 1) t
  | '\t' :: t => spaces (4 - column % 4) ++ expandTabs (nextTabStop column) t
  | t => t

/-- The column after the spaces and tabs at the start. -/
def indentWidth (column : Nat) : Text → Nat
  | ' ' :: t => indentWidth (column + 1) t
  | '\t' :: t => indentWidth (nextTabStop column) t
  | _ => column

/-- The column that the spaces and tabs at the start reach once it is `goal` or more, and the text
after them. -/
def reachColumn (goal column : Nat) (t : Text) : Option (Nat × Text) :=
  if goal ≤ column then some (column, t)
  else match t with
    | ' ' :: rest => reachColumn goal (column + 1) rest
    | '\t' :: rest => reachColumn goal (nextTabStop column) rest
    | _ => none

end ExportDocs.Markdown
