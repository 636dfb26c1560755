/-
# ExportDocs.Markdown.Block.Start -- how blocks begin

The first line of a block decides its type.  Each reader here looks at one line and says whether
a block of its type can begin there; `limit` is the number of spaces allowed before it.  `find?`
tries the types in their order of precedence.
-/
import ExportDocs.Markdown.Html
import ExportDocs.Markdown.Line
import ExportDocs.Markdown.Link
import ExportDocs.Text.Word

namespace ExportDocs.Markdown

set_option autoImplicit false

/-- The line that opens fenced code. -/
structure Fence where
  indent : Nat
  marker : Text
  info : Text
  deriving DecidableEq, Repr, Inhabited

namespace Fence

/-- A run of at least three fence characters and the text after it. -/
def run (c : Char) (t : Text) : Option (Text × Text) :=
  let marker := t.takeWhile (· == c)
  if marker.length < 3 then none else some (marker, t.drop marker.length)

/-- The fence that a line opens. -/
def read? (limit : Nat) (line : Text) : Option Fence := do
  let t ← afterIndent limit line
  let (marker, rest) ← (run '`' t).or (run '~' t)
  return { indent := leadingSpaces line, marker, info := rest.dropWhile Text.isSpaceOrTab }

/-- The text after a fence of backticks must not hold a backtick. -/
def isValid (fence : Fence) : Bool := !(fence.marker.head? == some '`' && fence.info.contains '`')

/-- Whether a line closes the fence. -/
def isClosedBy (fence : Fence) (line : Text) : Bool :=
  match afterIndent 3 line with
  | none => false
  | some t =>
    let c := fence.marker.headD '`'
    let closer := t.takeWhile (· == c)
    fence.marker.length ≤ closer.length && (t.drop closer.length).all Text.isSpaceOrTab

end Fence

/-- The mark of a list item: the spaces before it, the mark itself and the text after it. -/
structure ListMarker where
  indent : Nat
  bullet : Text
  text : Text
  deriving DecidableEq, Repr, Inhabited

namespace ListMarker

/-- The width of the mark with the spaces before it. -/
def width (marker : ListMarker) : Nat := marker.indent + marker.bullet.length

/-- The sign that all items of a list share. -/
def mark (marker : ListMarker) : Char := marker.bullet.getLastD '-'

/-- The number of an ordered item. -/
def number? (marker : ListMarker) : Option Nat :=
  if marker.bullet.length > 1 then some (Text.decimalValue marker.bullet.dropLast) else none

/-- The mark at the start of a text and the text after it. -/
def bullet? : Text → Option (Text × Text)
  | [] => none
  | c :: t =>
    if c = '*' || c = '+' || c = '-' then some ([c], t)
    else
      let digits := (c :: t).takeWhile Text.isDecimal
      if digits.isEmpty || digits.length > 9 then none
      else match (c :: t).drop digits.length with
        | d :: rest => if d = '.' || d = ')' then some (digits ++ [d], rest) else none
        | [] => none

/-- The list item that a line begins; a space or a tab, or nothing, follows its mark. -/
def read? (limit : Nat) (line : Text) : Option ListMarker := do
  let t ← afterIndent limit line
  let (bullet, text) ← bullet? t
  if text.isEmpty || text.head?.any Text.isSpaceOrTab then
    return { indent := leadingSpaces line, bullet, text }
  else none

end ListMarker

/-- How raw markup ends. -/
inductive HtmlEnd where
  /-- With the line that holds the given text. -/
  | atText (mark : Text)
  /-- Before a blank line. -/
  | atBlankLine
  /-- Before a blank line, if an opening tag fills the first line and it continues no paragraph. -/
  | openTag
  /-- The same with a closing tag. -/
  | closeTag
  deriving DecidableEq, Repr, Inhabited

namespace HtmlEnd

/-- Raw markup that is no tag: how it ends and the text after its opening. -/
def special? : Text → Option (HtmlEnd × Text)
  | '<' :: '!' :: '-' :: '-' :: t => some (.atText "-->".toList, t)
  | '<' :: '?' :: t => some (.atText "?>".toList, t)
  | '<' :: '!' :: '[' :: 'C' :: 'D' :: 'A' :: 'T' :: 'A' :: '[' :: t =>
    some (.atText "]]>".toList, t)
  | '<' :: '!' :: c :: t => if c.isUpper then some (.atText ['>'], t) else none
  | _ => none

/-- How raw markup ends that an opening tag begins. -/
def ofOpenTag (name : Text) : HtmlEnd :=
  if Html.literalTags.contains name then .atText ("</".toList ++ name ++ ['>'])
  else if Html.blockTags.contains name then .atBlankLine
  else .openTag

/-- How raw markup ends that a closing tag begins. -/
def ofCloseTag (name : Text) : HtmlEnd :=
  if Html.blockTags.contains name then .atBlankLine else .closeTag

/-- The raw markup that a line begins, and the rest of the line after its opening. -/
def read? (line : Text) : Option (HtmlEnd × Text) := do
  match ← afterIndent 3 line with
  | '<' :: '/' :: t =>
    let (name, rest) ← Html.readName t
    return (ofCloseTag (name.map Char.toLower), rest)
  | '<' :: t =>
    match Html.readName t with
    | some (name, rest) => return (ofOpenTag (name.map Char.toLower), rest)
    | none => special? ('<' :: t)
  | _ => none

/-- A name of a block tag or a literal tag before a space, a tab or the end of the line. -/
def knownName? (t : Text) : Option (Text × Text) :=
  let name := t.takeWhile (!Text.isSpaceOrTab ·)
  if Html.blockTags.contains name || Html.literalTags.contains name then
    some (name, (t.drop name.length).dropWhile Text.isSpaceOrTab)
  else none

/-- The raw markup that a line begins, if it may interrupt a quotation or a list. -/
def interrupting? (limit : Nat) (line : Text) : Option (HtmlEnd × Text) := do
  match ← afterIndent limit line with
  | '<' :: '/' :: t =>
    let (name, rest) ← knownName? t
    return (ofCloseTag name, rest)
  | '<' :: t =>
    match knownName? t with
    | some (name, rest) => return (ofOpenTag name, rest)
    | none => special? ('<' :: t)
  | _ => none

end HtmlEnd

/-- A heading with its hash signs: level and text. -/
def atxHeading? (limit : Nat) (line : Text) : Option (Nat × Text) := do
  let t ← afterIndent limit line
  let level := (t.takeWhile (· == '#')).length
  let rest := t.drop level
  if 1 ≤ level && level ≤ 6 && (rest.isEmpty || rest.head?.any Text.isSpaceOrTab) then
    return (level, rest)
  else none

/-- The level that a line of equals signs and dashes gives the text above it: its last sign
decides. -/
def underline? (line : Text) : Option Nat := do
  let t ← afterIndent 3 line
  let signs := t.takeWhile fun c => c == '=' || c == '-'
  if (t.drop signs.length).all Text.isSpaceOrTab then
    signs.getLast?.map fun c => if c = '=' then 1 else 2
  else none

/-- Whether a line is a thematic break: three or more of one sign and nothing else. -/
def isThematicBreak (limit : Nat) (line : Text) : Bool :=
  match afterIndent limit line with
  | some (c :: t) =>
    (c == '-' || c == '_' || c == '*') &&
      (c :: t).all (fun d => d == c || Text.isSpaceOrTab d) && 3 ≤ (c :: t).count c
  | _ => false

/-- The text of a quoted line after its mark, if it has one: a tab after the mark counts as spaces,
and one space is part of the mark. -/
def quotedLine? (line : Text) : Option Text :=
  match afterIndent 3 line with
  | some ('>' :: t) =>
    match expandFirstTab (3 - ·) t with
    | ' ' :: rest => some rest
    | rest => some rest
  | _ => none

/-- Whether a line begins a quotation. -/
def isQuote (limit : Nat) (line : Text) : Bool := ((afterIndent limit line).bind List.head?) == some '>'

/-- The label of a definition and the text after its colon; the label may span lines. -/
def definitionLabel? (lines : List Line) : Option (Text × Text) :=
  match lines with
  | [] => none
  | line :: _ =>
    match afterIndent 3 line.text with
    | some ('[' :: _) =>
      match readLabel ((Line.join lines).drop (leadingSpaces line.text + 1)) with
      | some (label, ':' :: rest) => some (label, rest)
      | _ => none
    | _ => none

/-- How a block begins. -/
inductive Start where
  | fence (fence : Fence)
  | atx (level : Nat) (text : Text)
  | underline (level : Nat)
  | thematicBreak
  | quote
  | list (marker : ListMarker)
  | definition (label rest : Text)
  | html (ending : HtmlEnd) (rest : Text)
  | blank
  deriving DecidableEq, Repr, Inhabited

namespace Start

/-- The block that the first of the lines begins.  With `containers` off, neither quotations nor
lists are looked for. -/
def find? (containers : Bool) (lines : List Line) : Option Start :=
  match lines with
  | [] => none
  | line :: _ =>
    let t := line.text
    ((Fence.read? 3 t).map fence).or <|
    ((atxHeading? 3 t).map fun (level, text) => atx level text).or <|
    ((underline? t).map underline).or <|
    (if isThematicBreak 3 t then some thematicBreak else none).or <|
    (if containers && isQuote 3 t then some quote else none).or <|
    (if containers then (ListMarker.read? 3 t).map list else none).or <|
    ((definitionLabel? lines).map fun (label, rest) => definition label rest).or <|
    ((HtmlEnd.read? t).map fun (ending, rest) => html ending rest).or <|
    (if line.isEmpty then some blank else none)

/-- Whether the first of the lines begins a block other than a paragraph. -/
def isAt (containers : Bool) (lines : List Line) : Bool :=
  lines.head?.any (fun line => isCodeLine line.text) || (find? containers lines).isSome

end Start

/-- How much raw markup takes: nothing, one line that continues the paragraph before it, or the
given number of lines. -/
inductive HtmlExtent where
  | none
  | continuesParagraph
  | lines (count : Nat)
  deriving DecidableEq, Repr, Inhabited

/-- The number of lines before the first blank one. -/
def linesToBlank (lines : List Line) : Nat := (lines.takeWhile (!·.isEmpty)).length

/-- The extent of raw markup that begins on the first line; `rest` is what follows its opening
there, and `afterParagraph` says that a paragraph stands directly before. -/
def HtmlEnd.extent (ending : HtmlEnd) (afterParagraph : Bool) (rest : Text) (lines : List Line) :
    HtmlExtent :=
  match ending with
  | .atText mark =>
    match Text.breakOn mark (rest ++ '\n' :: Line.join (lines.drop 1)) with
    | some (before, _) => .lines (before.count '\n' + 1)
    | Option.none => .lines lines.length
  | .atBlankLine => .lines (linesToBlank lines)
  | .openTag =>
    if afterParagraph then .continuesParagraph
    else if Html.opensLine rest then .lines (linesToBlank lines)
    else .none
  | .closeTag =>
    if afterParagraph then .continuesParagraph
    else if Html.endsLine rest then .lines (linesToBlank lines)
    else .none

end ExportDocs.Markdown
