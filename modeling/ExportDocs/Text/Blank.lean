/-
# ExportDocs.Text.Blank -- white space

`isBlank` is the white space of the Unicode standard together with the four information
separators; `isAsciiBlank` is the part that Markdown counts.  Stripping and splitting at white
space follow `isBlank`.
-/
import ExportDocs.Text

namespace ExportDocs.Text

set_option autoImplicit false

/-- Membership of a code point in a list of closed ranges. -/
def inRanges (ranges : List (Nat × Nat)) (n : Nat) : Bool :=
  ranges.any fun range => range.1 ≤ n && n ≤ range.2

/-- Ranges of white space. -/
def blankRanges : List (Nat × Nat) :=
  [(0x9, 0xd), (0x1c, 0x20), (0x85, 0x85), (0xa0, 0xa0), (0x1680, 0x1680), (0x2000, 0x200a),
    (0x2028, 0x2029), (0x202f, 0x202f), (0x205f, 0x205f), (0x3000, 0x3000)]

/-- White space. -/
def isBlank (c : Char) : Bool := inRanges blankRanges c.toNat

/-- Space, tab, line feed, carriage return and form feed. -/
def isAsciiBlank (c : Char) : Bool :=
  c == ' ' || c == '\t' || c == '\n' || c == '\r' || c == '\x0c'

/-- Space or tab. -/
def isSpaceOrTab (c : Char) : Bool := c == ' ' || c == '\t'

/-- The text without white space at its ends. -/
def strip (t : Text) : Text := trimBoth isBlank t

/-- The text without white space at its end. -/
def stripEnd (t : Text) : Text := trimEnd isBlank t

/-- Whether nothing but white space occurs. -/
def allBlank (t : Text) : Bool := t.all isBlank

/-- The first word and what follows it and the white space after it. -/
def firstWord (t : Text) : Text × Text :=
  let body := t.dropWhile isBlank
  (body.takeWhile (!isBlank ·), (body.dropWhile (!isBlank ·)).dropWhile isBlank)

/-- The maximal runs of characters other than white space. -/
def words (t : Text) : List Text :=
  (go t).filter (!·.isEmpty)
where
  /-- The pieces between single characters of white space. -/
  go : Text → List Text
    | [] => [[]]
    | c :: t =>
      if isBlank c then [] :: go t
      else match go t with
        | [] => [[c]]
        | piece :: rest => (c :: piece) :: rest

end ExportDocs.Text
