/-
# ExportDocs.Markdown.Block.Reader -- reading lines as blocks

The reader goes through the lines of a source, from one block to the next.  Quotations and list
items are sources of their own, read in the same way one level deeper.  A block that interrupts a
container is read before the container's own content.

Every call takes one unit of `fuel`.  A level is left after a bounded number of calls per line, and
a container has fewer visible characters inside than outside, so the fuel given by `fuelFor` is
never used up.
-/
import ExportDocs.Markdown.Block
import ExportDocs.Markdown.Block.Container
import ExportDocs.Markdown.Block.Definition

namespace ExportDocs.Markdown

set_option autoImplicit false

/-- A block whose inline content has not been read. -/
abbrev RawBlock := Block Text

/-- The state of a reader: the lines still to be read, the blocks read so far, last first, and the
definitions met.  `fresh` says that nothing has been read yet. -/
structure Reader where
  lines : List Line
  blocks : List RawBlock := []
  definitions : Definitions := []
  fresh : Bool := true
  deriving Repr, Inhabited

namespace Reader

/-- The reader after `count` lines. -/
def advance (reader : Reader) (count : Nat) : Reader :=
  { reader with lines := reader.lines.drop count, fresh := false }

/-- The reader with a block added. -/
def push (reader : Reader) (block : RawBlock) : Reader :=
  { reader with blocks := block :: reader.blocks }

/-- Whether the last block is a paragraph. -/
def inParagraph (reader : Reader) : Bool := reader.blocks.head?.any (·.isParagraph)

/-- Text added to the paragraph that the last block is, or a new paragraph. -/
def addText (reader : Reader) (t : Text) : Reader :=
  match reader.blocks with
  | .paragraph content :: rest => { reader with blocks := .paragraph (content ++ t) :: rest }
  | _ => reader.push (.paragraph t)

/-- The next `count` lines added as text of a paragraph. -/
def takeText (reader : Reader) (count : Nat) : Reader :=
  (reader.addText (Line.join (reader.lines.take count))).advance count

/-- The next line added to the paragraph that the last block is. -/
def continueParagraph? (reader : Reader) : Option Reader :=
  if reader.inParagraph then some (reader.takeText 1) else none

/-! ## Blocks without blocks inside -/

/-- The text of indented code. -/
def codeText (lines : List Line) : Text :=
  Text.trimBoth (· == '\n') <| Line.join <| lines.map fun line =>
    { text := Text.dropUpTo (· == ' ') 4 (expandFirstTab (4 - ·) line.text) }

/-- Reads indented code. -/
def readCode (reader : Reader) : Reader :=
  let lines := reader.lines.takeWhile fun line => isCodeLine line.text || line.isBlank
  (reader.push (.code (codeText lines) none [])).advance lines.length

/-- Reads fenced code to the line that closes it or to the end. -/
def readFence (reader : Reader) (fence : Fence) : Reader :=
  let lines := (reader.lines.drop 1).takeWhile fun line => !fence.isClosedBy line.text
  let code := Line.join <| lines.map fun line =>
    { text := Text.dropUpTo (· == ' ') fence.indent line.text }
  (reader.push (.code code (some fence.marker) (Text.strip (unescape fence.info)))).advance
    (lines.length + 2)

/-- The text of a heading without the hash signs that may close it. -/
def trimHeading (t : Text) : Text :=
  let body := Text.stripEnd t
  let hashes := (body.reverse.takeWhile (· == '#')).length
  let before := body.take (body.length - hashes)
  if hashes = 0 then t
  else if before.isEmpty || before.getLast?.any Text.isBlank then Text.stripEnd before
  else t

/-- A character that is stripped from the ends of a heading. -/
def isHeadingBlank (c : Char) : Bool := Text.isAsciiBlank c || c == '\x0b'

/-- Reads a heading with hash signs. -/
def readAtx (reader : Reader) (level : Nat) (text : Text) : Reader :=
  (reader.push (.heading level (trimHeading (Text.trimBoth isHeadingBlank text)))).advance 1

/-- Reads blank lines. -/
def readBlank (reader : Reader) : Reader :=
  let count := (reader.lines.takeWhile (·.isEmpty)).length
  (reader.push (.blank (if reader.fresh then some count else none))).advance count

/-- Reads raw markup. -/
def readHtml? (reader : Reader) (ending : HtmlEnd) (rest : Text) : Option Reader :=
  match ending.extent reader.inParagraph rest reader.lines with
  | .none => none
  | .continuesParagraph => reader.continueParagraph?
  | .lines count => some ((reader.push (.html (Line.join (reader.lines.take count)))).advance count)

/-- Reads a definition, unless its line continues a paragraph. -/
def readDefinition? (reader : Reader) (label rest : Text) : Option Reader :=
  match reader.continueParagraph? with
  | some continued => some continued
  | none => do
    let (key, target, after) ← readDefinition label rest
    let count := reader.lines.length - after.count '\n'
    let raw := Text.strip (Line.join (reader.lines.take count))
    return { reader.advance count with
      blocks := .definition raw :: reader.blocks
      definitions := reader.definitions.add key target }

/-- Makes the paragraph that the last block is a heading. -/
def underline? (reader : Reader) (level : Nat) : Option Reader :=
  match reader.blocks with
  | .paragraph content :: rest =>
    some { reader.advance 1 with blocks := .heading level content :: rest }
  | _ => none

/-! ## Containers -/

/-- Whether an item makes its list loose: it has a blank line or two paragraphs. -/
def isLoose (blocks : List RawBlock) : Bool :=
  blocks.any (fun block => match block with
    | .blank _ => true
    | _ => false) || 2 ≤ blocks.countP (·.isParagraph)

/-- The paragraphs of an item as a tight list shows them. -/
def tighten (blocks : List RawBlock) : List RawBlock :=
  blocks.map fun block => match block with
    | .paragraph content => .tightParagraph content
    | block => block

/-- A list from its first mark and its items. -/
def listBlock (marker : ListMarker) (tight : Bool) (items : List (List RawBlock)) : RawBlock :=
  .list { mark := marker.mark, start := marker.number?, tight }
    (if tight then items.map tighten else items)

/-- A block put before those that were added to `base` later. -/
def insertAfter (base : List RawBlock) (block : RawBlock) (blocks : List RawBlock) :
    List RawBlock :=
  let later := blocks.length - base.length
  blocks.take later ++ block :: blocks.drop later

/-- The number of lines before the next one that begins another block. -/
def paragraphLines (containers : Bool) : List Line → Nat
  | [] => 0
  | line :: rest =>
    if Start.isAt containers (line :: rest) then 0 else paragraphLines containers rest + 1

mutual

/-- Reads all lines.  `depth` is the number of containers around them; with `containers` off,
neither quotations nor lists are looked for. -/
def readAll (depth : Nat) (containers : Bool) : Nat → Reader → Reader
  | 0, reader => reader
  | fuel + 1, reader =>
    match reader.lines with
    | [] => reader
    | line :: rest =>
      let next :=
        if isCodeLine line.text then reader.continueParagraph?.getD reader.readCode
        else match Start.find? containers (line :: rest) with
          | some start => (readStart depth fuel reader start).getD (reader.takeText 1)
          | none =>
            reader.takeText (paragraphLines containers rest + 1)
      readAll depth containers fuel next
termination_by structural fuel => fuel

/-- Reads the block that begins on the next line, unless it is none after all. -/
def readStart (depth : Nat) : Nat → Reader → Start → Option Reader
  | 0, _, _ => none
  | fuel + 1, reader, start =>
    match start with
    | .fence opening => if opening.isValid then some (reader.readFence opening) else none
    | .atx level text => some (reader.readAtx level text)
    | .underline level =>
      match reader.lines with
      | [] => none
      | line :: _ =>
        if line.lazy then none
        else (reader.underline? level).or <|
          if isThematicBreak 3 line.text then some ((reader.push .thematicBreak).advance 1)
          else (ListMarker.read? 3 line.text).map (readList depth fuel reader)
    | .thematicBreak => some ((reader.push .thematicBreak).advance 1)
    | .quote => some (readQuote depth fuel reader)
    | .list marker => some (readList depth fuel reader marker)
    | .definition label rest => reader.readDefinition? label rest
    | .html ending rest => reader.readHtml? ending rest
    | .blank => some reader.readBlank
termination_by structural fuel => fuel

/-- Reads the content of a container. -/
def readInside (depth : Nat) : Nat → Definitions → List Line → List RawBlock × Definitions
  | 0, definitions, _ => ([], definitions)
  | fuel + 1, definitions, lines =>
    let reader := readAll (depth + 1) (depth + 1 < maxNesting) fuel { lines, definitions }
    (reader.blocks.reverse, reader.definitions)
termination_by structural fuel => fuel

/-- Reads a quotation.  If another block interrupts it, the quotation stands before the last block
that was read with the interruption. -/
def readQuote (depth : Nat) : Nat → Reader → Reader
  | 0, reader => reader
  | fuel + 1, reader =>
    let extent := QuoteExtent.read reader.inParagraph reader.lines
    let after := { reader with lines := extent.after, fresh := false }
    match extent.interruption with
    | none =>
      let (children, definitions) := readInside depth fuel after.definitions extent.inside
      { after.push (.quote children) with definitions }
    | some start =>
      let after := (readStart depth fuel after start).getD after
      let (children, definitions) := readInside depth fuel after.definitions extent.inside
      let blocks := match after.blocks with
        | [] => [.quote children]
        | last :: earlier => last :: .quote children :: earlier
      { after with blocks, definitions }
termination_by structural fuel => fuel

/-- Reads a list, unless its first line only continues a paragraph: an item without text and an
ordered item that is not the first do not interrupt one. -/
def readList (depth : Nat) : Nat → Reader → ListMarker → Reader
  | 0, reader, _ => reader
  | fuel + 1, reader, marker =>
    let weak := Text.allBlank marker.text || marker.number?.any (· != 1)
    match if weak then reader.continueParagraph? else none with
    | some continued => continued
    | none => readItems depth fuel (reader.advance 1) marker true [] marker
termination_by structural fuel => fuel

/-- Reads the items of a list from the one with mark `marker` on; `first` is the mark of the first
item, and `items` are those already read, last first. -/
def readItems (depth : Nat) :
    Nat → Reader → ListMarker → Bool → List (List RawBlock) → ListMarker → Reader
  | 0, reader, _, _, _, _ => reader
  | fuel + 1, reader, first, tight, items, marker =>
    let (text, column) := ItemExtent.firstLine marker
    let extent :=
      ItemExtent.collect reader.inParagraph marker column text.isEmpty false reader.lines
    let source := ItemExtent.source text column extent.inside
    let after := { reader with lines := extent.after, fresh := false }
    match extent.ending with
    | .item other afterBlank =>
      let (children, definitions) := readInside depth fuel after.definitions source
      readItems depth fuel { after with definitions } first
        (tight && !afterBlank && !isLoose children) (children :: items) other
    | .done =>
      let (children, definitions) := readInside depth fuel after.definitions source
      let block := listBlock first (tight && !isLoose children) (children :: items).reverse
      { after.push block with definitions }
    | .interrupted start =>
      let after := (readStart depth fuel after start).getD after
      let (children, definitions) := readInside depth fuel after.definitions source
      let block := listBlock first (tight && !isLoose children) (children :: items).reverse
      { after with blocks := insertAfter reader.blocks block after.blocks, definitions }
termination_by structural fuel => fuel

end

/-- Fuel for a source of the given lines: enough calls for every line on every level. -/
def fuelFor (lines : List Line) : Nat :=
  8 * (lines.length + 2) * ((Line.join lines).length + 2)

/-- The blocks of a source and its definitions. -/
def read (lines : List Line) : List RawBlock × Definitions :=
  let reader := readAll 0 true (fuelFor lines) { lines }
  (reader.blocks.reverse, reader.definitions)

end Reader

end ExportDocs.Markdown
