/-
# ExportDocs.Markdown.Inline.Reader -- reading the content of a paragraph

The text is read from left to right into pieces.  An opening bracket is kept on a stack with the
pieces before it; a closing bracket makes the pieces after the matching bracket a link or an image,
if a target follows or the text between is the label of a definition.  A link holds no other link:
once one is made, the brackets around it that could open a link no longer count.  Emphasis is
paired last, among the pieces of one level (`finishPieces`).
-/
import ExportDocs.Markdown.Block.Definition
import ExportDocs.Markdown.Inline.Emphasis
import ExportDocs.Markdown.Inline.Span

namespace ExportDocs.Markdown

set_option autoImplicit false

/-- An opening bracket that may still be closed. -/
structure Bracket where
  /-- The pieces before the bracket, last first. -/
  outer : List Piece
  /-- The text after the bracket. -/
  inside : Text
  image : Bool
  /-- Whether it may still open a link. -/
  active : Bool := true
  /-- Whether another bracket was opened inside. -/
  nested : Bool := false
  /-- How deep the pieces inside nest. -/
  depth : Nat := 0
  deriving Repr, Inhabited

namespace Bracket

/-- Notes the depth of something inside. -/
def hold (bracket : Bracket) (depth : Nat) : Bracket :=
  { bracket with depth := max bracket.depth depth }

/-- A bracket around a link. -/
def deactivate (bracket : Bracket) : Bracket :=
  if bracket.image then bracket else { bracket with active := false }

end Bracket

/-- The state of the reader: the pieces, last first, the open brackets, innermost first, and
whether raw markup has opened a link. -/
structure InlineReader where
  pieces : List Piece := []
  brackets : List Bracket := []
  inAnchor : Bool := false
  deriving Repr, Inhabited

namespace InlineReader

/-- Changes the innermost open bracket. -/
def mapTop (f : Bracket → Bracket) : List Bracket → List Bracket
  | [] => []
  | bracket :: rest => f bracket :: rest

/-- Adds a piece. -/
def push (reader : InlineReader) (piece : Piece) : InlineReader :=
  let hold (bracket : Bracket) : Bracket :=
    match piece with
    | .node inline => if inline.hasChildren then bracket.hold inline.depth else bracket
    | .autolink .. => if bracket.image then bracket.hold 1 else bracket
    | .text .. => bracket
  { reader with pieces := piece :: reader.pieces, brackets := mapTop hold reader.brackets }

/-- Adds a text in which emphasis may be marked. -/
def pushText (reader : InlineReader) (raw : Text) : InlineReader := reader.push (.text raw true)

/-! ## Brackets -/

/-- Opens a bracket; `rest` is the text after it. -/
def openBracket (reader : InlineReader) (image : Bool) (rest : Text) : InlineReader :=
  let bracket : Bracket := { outer := reader.pieces, inside := rest, image }
  { reader with
    pieces := .text (if image then ['!', '['] else ['[']) true :: reader.pieces
    brackets := bracket :: mapTop (fun outer => { outer with nested := true }) reader.brackets }

/-- Gives up the innermost `count` brackets. -/
def discard (brackets : List Bracket) (count : Nat) : List Bracket :=
  let depth := ((brackets.take count).map (·.depth)).foldl max 0
  mapTop (·.hold depth) (brackets.drop count)

/-- What a closing bracket refers to: the target, the label and the text after the reference.
`rest` is the text after the bracket. -/
def readReference (definitions : Definitions) (opener : Bracket) (rest : Text) :
    Option (Target × Text × Text) :=
  let labelled := match rest with
    | '[' :: t => readShortLabel t
    | _ => none
  let (given, after) := match labelled with
    | some (label, n) => (label, rest.drop (n + 1))
    | none => ([], rest)
  let length := opener.inside.length - (rest.length + 1)
  if given.isEmpty then
    if opener.nested || maxLabel < length then none
    else
      let label := opener.inside.take length
      (definitions.lookup (labelKey label)).map fun target => (target, label, after)
  else (definitions.lookup (labelKey given)).map fun target => (target, given, after)

/-- What makes a bracket a link: the target, the label if there is one, and the text after. -/
def readDestination (definitions : Definitions) (opener : Bracket) (rest : Text) :
    Option (Target × Option Text × Text) :=
  let inline := match rest with
    | '(' :: t => readTarget t
    | _ => none
  match inline with
  | some (target, after) => some (target, none, after)
  | none => (readReference definitions opener rest).map fun (target, label, after) =>
      (target, some label, after)

/-- The link or image that a bracket makes of the pieces after it. -/
def makeLink (opener : Bracket) (pieces : List Piece) (target : Target) (label : Option Text) :
    Inline :=
  let inner := (pieces.take (pieces.length - opener.outer.length - 1)).reverse
  if opener.image then .image (finishPieces (maxNesting - 1) inner) target label
  else .link (finishPieces (maxNesting - 1) (inner.map Piece.unlink)) target label

/-- Closes the innermost bracket; `rest` is the text after the closing bracket.  Returns the state
and the number of characters taken from `rest`. -/
def closeBracket (definitions : Definitions) (reader : InlineReader) (opener : Bracket)
    (outer : List Bracket) (rest : Text) : InlineReader × Nat :=
  let reader := { reader with brackets := mapTop (·.hold opener.depth) outer }
  if !opener.active || (reader.inAnchor && !opener.image) || maxNesting ≤ opener.depth then
    (reader.pushText [']'], 0)
  else match readDestination definitions opener rest with
    | none => (reader.pushText [']'], 0)
    | some (target, label, after) =>
      let link := makeLink opener reader.pieces target label
      let reader := { reader with pieces := opener.outer }.push (.node link)
      ({ reader with
        brackets :=
          if opener.image then reader.brackets else reader.brackets.map Bracket.deactivate },
        rest.length - after.length)

/-- Reads `count` closing brackets, with the text after the first of them.  Returns the state and
the number of characters taken. -/
def closeBrackets (definitions : Definitions) : Nat → InlineReader → Text → InlineReader × Nat
  | 0, reader, _ => (reader, 0)
  | count + 1, reader, rest =>
    match reader.brackets with
    | [] => (reader.pushText (List.replicate (count + 1) ']'), count + 1)
    | opener :: outer =>
      let (reader, more) := closeBracket definitions reader opener outer rest
      if more = 0 then
        let (reader, taken) := closeBrackets definitions count reader (rest.drop 1)
        (reader, taken + 1)
      else (reader, more + 1)

/-- Reads a run of `count` closing brackets.  Without definitions only a bracket before an opening
parenthesis can close a link. -/
def readClosers (definitions : Definitions) (reader : InlineReader) (count : Nat) (text : Text) :
    InlineReader × Nat :=
  let literal :=
    if !definitions.isEmpty then 0
    else if (text.drop count).head? == some '(' then count - 1
    else count
  let reader :=
    if literal = 0 then reader
    else { reader with brackets := discard reader.brackets literal }.pushText
      (List.replicate literal ']')
  let (reader, taken) :=
    closeBrackets definitions (count - literal) reader (text.drop (literal + 1))
  (reader, literal + taken)

/-! ## Other constructs -/

/-- Characters that may begin a construct. -/
def isTrigger (c : Char) : Bool :=
  c == '\\' || c == '`' || c == '*' || c == '_' || c == '!' || c == '[' || c == ']' || c == '<' ||
    c == '\n'

/-- The punctuation characters of a run of escapes. -/
def escapes : Text → Text
  | '\\' :: c :: t => if isPunctuation c then c :: escapes t else []
  | _ => []

/-- Reads at an opening angle bracket. -/
def readAngle (reader : InlineReader) (text : Text) : InlineReader × Nat :=
  let link (shown url : Text) : InlineReader × Nat :=
    (if reader.inAnchor then reader.pushText ('<' :: shown ++ ['>'])
      else reader.push (.autolink shown url), shown.length + 2)
  match readAutolink (text.drop 1) with
  | some url => link url url
  | none =>
    match readMailAutolink (text.drop 1) with
    | some address => link address ("mailto:".toList ++ address)
    | none =>
      match htmlLength text with
      | none => (reader.pushText ['<'], 1)
      | some n =>
        let raw := text.take n
        let inAnchor :=
          if opensAnchor raw then true
          else if closesAnchor raw then false
          else reader.inAnchor
        ({ reader.push (.node (.html raw)) with inAnchor }, n)

/-- Reads a line break after `indent` characters, the last of which is the line end. -/
def readBreak (reader : InlineReader) (hard : Bool) (indent : Nat) (text : Text) :
    InlineReader × Nat :=
  (reader.push (.node (if hard then .hardBreak else .softBreak)),
    indent + ((text.drop indent).takeWhile Text.isBlank).length)

/-- Reads at a character that may begin a construct. -/
def readConstruct (definitions : Definitions) (reader : InlineReader) (text : Text) :
    InlineReader × Nat :=
  match text with
  | '\\' :: '\n' :: _ => reader.readBreak true 2 text
  | '\\' :: _ =>
    let escaped := escapes text
    if escaped.isEmpty then (reader.pushText ['\\'], 1)
    else (reader.push (.text escaped false), 2 * escaped.length)
  | '`' :: _ =>
    let ticks := text.takeWhile (· == '`')
    match readCode ticks.length (text.drop ticks.length) with
    | some (code, n) => (reader.push (.node (.code code)), ticks.length + n)
    | none => (reader.pushText ticks, ticks.length)
  | '!' :: '[' :: rest => (reader.openBracket true rest, 2)
  | '[' :: rest => (reader.openBracket false rest, 1)
  | ']' :: _ => reader.readClosers definitions (text.takeWhile (· == ']')).length text
  | '<' :: _ => reader.readAngle text
  | '\n' :: _ => reader.readBreak false 1 text
  | c :: _ =>
    if c = '*' || c = '_' then
      let marks := text.takeWhile fun c => c == '*' || c == '_'
      (reader.pushText marks, marks.length)
    else if c = ' ' then
      let spaces := (text.takeWhile (· == ' ')).length
      reader.readBreak (2 ≤ spaces) (spaces + 1) text
    else (reader.pushText [c], 1)
  | [] => (reader, 1)

/-- Reads the next piece and returns the number of characters it took. -/
def step (definitions : Definitions) (reader : InlineReader) (text : Text) : InlineReader × Nat :=
  let run := text.takeWhile (!isTrigger ·)
  let plain :=
    if (text.drop run.length).head? == some '\n' then Text.trimEnd (· == ' ') run else run
  if plain.isEmpty then reader.readConstruct definitions text
  else (reader.pushText plain, plain.length)

/-- Reads to the end of the text.  A step takes at least one character. -/
def readAll (definitions : Definitions) (reader : InlineReader) : Text → InlineReader
  | [] => reader
  | c :: t =>
    let (reader, taken) := reader.step definitions (c :: t)
    readAll definitions reader (t.drop (taken - 1))
termination_by t => t.length

end InlineReader

/-- The content of a paragraph or a heading. -/
def readInline (definitions : Definitions) (text : Text) : List Inline :=
  let text := Text.trimBoth Text.isAsciiBlank text
  if text.isEmpty then [.text []]
  else finishPieces maxNesting (({} : InlineReader).readAll definitions text).pieces.reverse

end ExportDocs.Markdown
