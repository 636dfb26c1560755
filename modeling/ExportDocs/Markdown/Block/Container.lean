/-
# ExportDocs.Markdown.Block.Container -- the lines of quotations and list items

Which lines belong to a quotation or to a list item is decided before they are read as blocks.
A line without the mark of the container may continue its last paragraph, may begin another block
that interrupts the container, or ends it.
-/
import ExportDocs.Markdown.Block.Start

namespace ExportDocs.Markdown

set_option autoImplicit false

/-- Whether a block may interrupt a container: fenced code and raw markup only if they are well
formed. -/
def Start.interrupts (afterParagraph : Bool) (lines : List Line) : Start → Bool
  | .fence opening => opening.isValid
  | .html ending rest => ending.extent afterParagraph rest lines != .none
  | _ => true

/-! ## Quotations -/

/-- The lines of a quotation, those after it, and the block that interrupts it if one does. -/
structure QuoteExtent where
  inside : List Line
  after : List Line
  interruption : Option Start := none
  deriving Repr, Inhabited

namespace QuoteExtent

/-- A line read inside a quotation, and whether it has no mark. -/
abbrev RawLine := Text × Bool

/-- The block that begins on a line without a mark, if it is of a type that interrupts. -/
def breakAt? (lines : List Line) : Option Start :=
  match lines with
  | [] => none
  | line :: _ =>
    let t := line.text
    (if line.isEmpty then some Start.blank else none).or <|
    (if isThematicBreak 3 t then some .thematicBreak else none).or <|
    ((Fence.read? 3 t).map .fence).or <|
    ((ListMarker.read? 3 t).map .list).or <|
    (HtmlEnd.interrupting? 3 t).map fun (ending, rest) => .html ending rest

/-- The lines that have the mark. -/
def marked : List Line → List RawLine × List Line
  | [] => ([], [])
  | line :: rest =>
    match quotedLine? line.text with
    | some t =>
      let (inside, after) := marked rest
      ((t, false) :: inside, after)
    | none => ([], line :: rest)

/-- The lines that have the mark or continue a paragraph. -/
def continued (afterParagraph previousBlank : Bool) :
    List Line → List RawLine × List Line × Option Start
  | [] => ([], [], none)
  | line :: rest =>
    match quotedLine? line.text with
    | some t =>
      let (inside, after, interruption) := continued afterParagraph (Text.allBlank t) rest
      ((t, false) :: inside, after, interruption)
    | none =>
      if previousBlank then ([], line :: rest, none)
      else
        match (breakAt? (line :: rest)).filter (·.interrupts afterParagraph (line :: rest)) with
        | some start => ([], line :: rest, some start)
        | none =>
          let (inside, after, interruption) := continued afterParagraph false rest
          ((expandFirstTab (3 - ·) line.text, true) :: inside, after, interruption)

/-- Positions of the lines in the text they form, the first at `start`. -/
def positions (start : Nat) : List Text → List Nat
  | [] => []
  | t :: rest => start :: positions (start + t.length + 1) rest

/-- The lines as they are read: a tab still left at the start counts four spaces.  Lazy lines are
known by their positions before that. -/
def finish (raw : List RawLine) : List Line :=
  let texts := raw.map (·.1)
  let lazyPositions := ((positions 0 texts).zip raw).filterMap fun (position, line) =>
    if line.2 then some position else none
  let expanded := texts.map (expandFirstTab fun _ => 4)
  ((positions 0 expanded).zip expanded).map fun (position, text) =>
    { text, lazy := lazyPositions.contains position }

/-- The extent of the quotation that begins on the first of the lines. -/
def read (afterParagraph : Bool) (lines : List Line) : QuoteExtent :=
  match lines with
  | [] => { inside := [], after := [] }
  | line :: rest =>
    let first := (quotedLine? line.text).getD []
    let needsMark :=
      Line.isEmpty { text := first } || isCodeLine first || (Fence.read? 3 first).isSome
    if needsMark then
      let (inside, after) := marked rest
      { inside := finish ((first, false) :: inside), after }
    else
      let (inside, after, interruption) := continued afterParagraph false rest
      { inside := finish ((first, false) :: inside), after, interruption }

end QuoteExtent

/-! ## List items -/

/-- What comes after the lines of a list item. -/
inductive ItemEnd where
  /-- The end of the list. -/
  | done
  /-- The next item, after a blank line or not. -/
  | item (marker : ListMarker) (afterBlank : Bool)
  /-- Another block. -/
  | interrupted (start : Start)
  deriving Repr, Inhabited

/-- The lines of a list item after its first one, those after it, and what comes there. -/
structure ItemExtent where
  inside : List Text
  after : List Line
  ending : ItemEnd
  deriving Repr, Inhabited

namespace ItemExtent

/-- The text of an item on its first line and the column in which its content starts.  Five or
more spaces after the mark are indented code, and one of them belongs to the mark. -/
def firstLine (marker : ListMarker) : Text × Nat :=
  let text := expandTabs marker.width marker.text
  if Text.allBlank text then ([], marker.width + 1)
  else
    let indent := leadingSpaces text
    let gap := if indent ≥ 5 then 1 else indent
    (text.drop gap, marker.width + gap)

/-- The block other than a list that begins on a line and may interrupt an item. -/
def breakAt? (limit : Nat) (t : Text) : Option Start :=
  ((Fence.read? limit t).map .fence).or <|
  ((atxHeading? limit t).map fun (level, text) => .atx level text).or <|
  (if isQuote limit t then some .quote else none).or <|
  (HtmlEnd.interrupting? limit t).map fun (ending, rest) => .html ending rest

/-- The next item of the same list that a line begins. -/
def sibling? (marker : ListMarker) (t : Text) : Option ListMarker :=
  (ListMarker.read? (min marker.width 3) (expandTabs 0 t)).filter fun other =>
    other.mark == marker.mark

/-- What a line that is not indented as content means for an item: the end of its list, the next
item, another block, or nothing. -/
def turn? (afterParagraph previousBlank : Bool) (marker : ListMarker) (lines : List Line) :
    Option ItemEnd :=
  match lines with
  | [] => none
  | line :: _ =>
    let limit := min marker.width 3
    if isThematicBreak limit line.text then some (.interrupted .thematicBreak)
    else match sibling? marker line.text with
      | some other => some (.item other previousBlank)
      | none =>
        match breakAt? limit line.text with
        | some start =>
          if start.interrupts afterParagraph lines then some (.interrupted start) else none
        | none => if (ListMarker.read? limit line.text).isSome then some .done else none

/-- Reads the lines of an item.  `column` is where its content starts, `hollow` says that nothing
but blank lines has been read of it, and `previousBlank` that the last line was blank. -/
def collect (afterParagraph : Bool) (marker : ListMarker) (column : Nat) (hollow previousBlank : Bool) :
    List Line → ItemExtent
  | [] => { inside := [], after := [], ending := .done }
  | line :: rest =>
    if line.isEmpty then
      let extent := collect afterParagraph marker column hollow true rest
      { extent with inside := [] :: extent.inside }
    else if (reachColumn column 0 line.text).isSome then
      if previousBlank && hollow then { inside := [], after := line :: rest, ending := .done }
      else
        let extent := collect afterParagraph marker column (hollow && line.isBlank) false rest
        { extent with inside := line.text :: extent.inside }
    else
      match turn? afterParagraph previousBlank marker (line :: rest) with
      | some (.item other afterBlank) =>
        { inside := [], after := rest, ending := .item other afterBlank }
      | some ending => { inside := [], after := line :: rest, ending }
      | none =>
        if previousBlank then { inside := [], after := line :: rest, ending := .done }
        else
          let extent := collect afterParagraph marker column (hollow && line.isBlank) false rest
          { extent with inside := line.text :: extent.inside }

/-- A line of an item without the indentation of its content. -/
def outdent (column : Nat) (t : Text) : Text :=
  match reachColumn column 0 t with
  | some (reached, rest) => spaces (reached - column) ++ expandTabs reached rest
  | none => expandTabs 0 t

/-- Lines without the blank ones at their end; of blank lines alone the first is kept. -/
def dropBlankEnd (texts : List Text) : List Text :=
  match (texts.reverse.dropWhile Text.allBlank).reverse with
  | [] => texts.take 1
  | kept => kept

/-- The source of an item from the text on its first line and its further lines. -/
def source (first : Text) (column : Nat) (inside : List Text) : List Line :=
  let head := if first.isEmpty then [] else [first]
  (dropBlankEnd (head ++ inside.map (outdent column))).map fun text => { text }

end ItemExtent

end ExportDocs.Markdown
