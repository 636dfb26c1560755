/-
# ExportDocs.Text.Lines -- line boundaries

Two notions of line live here.  `lines` cuts at every character that Unicode counts as a line
boundary and gives no empty line after a final one.  `foldNewlines` knows only carriage return
and line feed and turns each of the three spellings of a line end into a line feed.
-/
import ExportDocs.Text

namespace ExportDocs.Text

set_option autoImplicit false

/-- A character that ends a line. -/
def isLineBreak (c : Char) : Bool :=
  c == '\n' || c == '\r' || c == '\x0b' || c == '\x0c' || c == '\x1c' || c == '\x1d' ||
    c == '\x1e' || c == '\u0085' || c == '\u2028' || c == '\u2029'

/-- The lines of a text, each with the boundary that ends it. -/
def linesWithEnds : Text → List Text
  | [] => []
  | '\r' :: '\n' :: t => ['\r', '\n'] :: linesWithEnds t
  | c :: t =>
    if isLineBreak c then [c] :: linesWithEnds t
    else match linesWithEnds t with
      | [] => [[c]]
      | line :: rest => (c :: line) :: rest

/-- The lines of a text; a boundary at the very end starts no further line. -/
def lines (t : Text) : List Text :=
  (linesWithEnds t).map fun line => line.filter (!isLineBreak ·)

/-- Every carriage return, alone or before a line feed, becomes a line feed. -/
def foldNewlines : Text → Text
  | [] => []
  | '\r' :: '\n' :: t => '\n' :: foldNewlines t
  | '\r' :: t => '\n' :: foldNewlines t
  | c :: t => c :: foldNewlines t

/-- How many line feeds a text has. -/
def newlines (t : Text) : Nat := t.count '\n'

end ExportDocs.Text
