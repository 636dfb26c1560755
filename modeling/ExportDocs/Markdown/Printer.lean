/-
# ExportDocs.Markdown.Printer -- blocks and inlines as text

A block is printed with the blank line after it.  Characters that would be read as markup are
escaped where a text stands: marks of inline constructs in `printText`, marks of blocks at the
start of a line in `escapeLines`.
-/
import ExportDocs.Markdown.Block
import ExportDocs.Text.Lines
import ExportDocs.Text.Word

namespace ExportDocs.Markdown

set_option autoImplicit false

/-- The text up to the first line end in the white space at its end. -/
def cutEnd (t : Text) : Text :=
  let body := Text.stripEnd t
  match t.drop body.length with
  | [] => t
  | blanks =>
    if blanks.contains '\n' then body ++ blanks.takeWhile (· != '\n') ++ ['\n'] else t

/-! ## Inlines -/

/-- The length of a run of at least one character of a class and the semicolon after it. -/
def runToSemicolon (p : Char → Bool) (t : Text) : Option Nat :=
  let n := (t.takeWhile p).length
  if 0 < n && (t.drop n).head? == some ';' then some (n + 1) else none

/-- The length of a character reference after its ampersand. -/
def referenceLength : Text → Option Nat
  | '#' :: c :: t =>
    if c = 'x' || c = 'X' then
      (runToSemicolon (fun d => d.isDigit || ('a' ≤ d && d ≤ 'f') || ('A' ≤ d && d ≤ 'F')) t).map
        (· + 2)
    else (runToSemicolon Char.isDigit (c :: t)).map (· + 1)
  | c :: t => if c.isAlpha then (runToSemicolon Char.isAlphanum t).map (· + 1) else none
  | [] => none

/-- The text with marks of inline constructs escaped; `kept` characters are left as they are. -/
def escapeMarks (kept : Nat) : Text → Text
  | [] => []
  | c :: t =>
    match kept with
    | kept + 1 => c :: escapeMarks kept t
    | 0 =>
      match if c = '&' then referenceLength t else none with
      | some n => c :: escapeMarks n t
      | none =>
        if c = '\\' || c = '`' || c = '<' || c = '!' || c = '&' then '\\' :: c :: escapeMarks 0 t
        else c :: escapeMarks 0 t

/-- A text as it is written: one of emphasis marks only is escaped as a whole. -/
def printText (raw : Text) : Text :=
  if raw.all fun c => c == '*' || c == '_' then raw.flatMap fun c => ['\\', c]
  else escapeMarks 0 raw

/-- The length of the longest run of backticks, after `run` of them. -/
def longestTicks (run : Nat) : Text → Nat
  | [] => run
  | c :: t => if c = '`' then longestTicks (run + 1) t else max run (longestTicks 0 t)

/-- A code span, fenced by one backtick more than it holds in a row. -/
def printCode (code : Text) : Text :=
  let fence := List.replicate (longestTicks 0 code + 1) '`'
  let edged (c : Char) := code.head? == some c && code.getLast? == some c
  if code.head? == some '`' || code.getLast? == some '`' ||
      (edged ' ' && code.any (· != ' ')) then
    fence ++ ' ' :: code ++ ' ' :: fence
  else fence ++ code ++ fence

/-- A title between quotes. -/
def printTitle (title : Text) : Text :=
  ' ' :: '"' :: (title.flatMap fun c => if c = '\\' || c = '"' then ['\\', c] else [c]) ++ ['"']

/-- The destination of a link in parentheses. -/
def printTarget (target : Target) : Text :=
  let url :=
    if target.url.contains '(' || target.url.contains ')' then '<' :: target.url ++ ['>']
    else target.url
  '(' :: url ++ (target.title.map printTitle).getD [] ++ [')']

/-- A link or an image after its text has been printed. -/
def printLink (isLink : Bool) (shown : Text) (target : Target) (label : Option Text) : Text :=
  match label with
  | some label => '[' :: shown ++ ']' :: '[' :: label ++ [']']
  | none =>
    if isLink && target.title.isNone &&
        (shown == target.url || "mailto:".toList ++ shown == target.url) then
      '<' :: shown ++ ['>']
    else '[' :: shown ++ ']' :: printTarget target

mutual

/-- A piece of inline content as text. -/
def Inline.print : Inline → Text
  | .text raw => printText raw
  | .code raw => printCode raw
  | .emphasis children => '*' :: printInlines children ++ ['*']
  | .strong children => '*' :: '*' :: printInlines children ++ ['*', '*']
  | .link children target label => printLink true (printInlines children) target label
  | .image children target label => '!' :: printLink false (printInlines children) target label
  | .html raw => raw
  | .hardBreak => [' ', ' ', '\n']
  | .softBreak => ['\n']

/-- Inline content as text. -/
def printInlines : List Inline → Text
  | [] => []
  | piece :: rest => piece.print ++ printInlines rest

end

/-! ## Lines that would begin a block -/

/-- The length of the mark of a block at the start of a text. -/
def blockMarkLength (t : Text) : Option Nat :=
  let hashes := (t.takeWhile (· == '#')).length
  let digits := (t.takeWhile Text.isDecimal).length
  match t with
  | [] => none
  | c :: _ =>
    if c = '>' || c = '-' || c = '+' || c = '*' then some 1
    else if 1 ≤ hashes && hashes ≤ 6 then some hashes
    else if 1 ≤ digits && digits ≤ 9 &&
        ((t.drop digits).head? == some '.' || (t.drop digits).head? == some ')') then
      some (digits + 1)
    else none

/-- A line of a paragraph, its last mark character escaped if it would begin a block. -/
def escapeLine (line : Text) : Text :=
  let indent := line.takeWhile Text.isBlank
  let body := line.drop indent.length
  match blockMarkLength body with
  | some n =>
    if ((body.drop n).head?).all Text.isBlank then
      indent ++ body.take (n - 1) ++ '\\' :: body.drop (n - 1)
    else line
  | none => line

/-- The lines of a paragraph, none of which begins another block. -/
def escapeLines (t : Text) : Text :=
  Text.joinWith ['\n'] ((Text.splitAtChar '\n' t).map escapeLine)

/-! ## Blocks -/

/-- A title that ends with a run of hashes, the run escaped.  A line end after it does not
count. -/
def escapeHashes (t : Text) : Text :=
  let tail := if t.getLast? == some '\n' then ['\n'] else []
  let body := t.take (t.length - tail.length)
  let before := Text.trimEnd (· == '#') body
  let hashes := body.drop before.length
  if !hashes.isEmpty && (before.getLast?).all Text.isSpaceOrTab then
    before ++ '\\' :: hashes ++ tail
  else t

/-- A heading: underlined if it has several lines and such a level, else after hashes. -/
def printHeading (level : Int) (title : Text) : Text :=
  if title.contains '\n' && level = 1 then title ++ "\n===\n\n".toList
  else if title.contains '\n' && level = 2 then title ++ "\n---\n\n".toList
  else List.replicate level.toNat '#' ++ ' ' :: escapeHashes title ++ ['\n', '\n']

/-- A fence that no line of the code closes. -/
def fenceFor (code : Text) : Text :=
  let marks := (Text.splitAtChar '\n' code).map fun line =>
    (Text.dropUpTo (· == ' ') 3 line).takeWhile fun c => c == '`' || c == '~'
  let ticks := (marks.filter fun mark => mark.head? == some '`').map List.length
  if ticks.isEmpty then "```".toList
  else if marks.any fun mark => mark.head? == some '~' then
    List.replicate (ticks.foldl max 0 + 1) '`'
  else "~~~".toList

/-- Code between two fences. -/
def printFenced (raw : Text) (fence : Option Text) (info : Text) : Text :=
  let code := if raw.isEmpty || raw.getLast? == some '\n' then raw else raw ++ ['\n']
  let fence := fence.getD (fenceFor code)
  fence ++ info ++ '\n' :: code ++ fence ++ ['\n', '\n']

/-- A quotation: every line after its mark. -/
def printQuote (inside : Text) : Text :=
  ((Text.linesWithEnds (Text.trimEnd (· == '\n') inside)).flatMap fun line =>
    '>' :: ' ' :: line) ++ ['\n', '\n']

/-- A list item after its mark; further lines are indented as deep as the mark is wide. -/
def printItem (mark inside : Text) : Text :=
  let inside := if inside.getLast? == some '\n' then inside.dropLast else inside
  let indent := List.replicate mark.length ' '
  match Text.splitAtChar '\n' inside with
  | [] => mark ++ ['\n']
  | first :: rest => mark ++ first ++ '\n' :: rest.flatMap fun line =>
      (if line.isEmpty then [] else indent ++ line) ++ ['\n']

namespace ListStyle

/-- The mark of the item after `before` others. -/
def itemMark (style : ListStyle) (before : Nat) : Text :=
  match style.start with
  | some start => Text.ofNat (start + before) ++ [style.mark, ' ']
  | none => [style.mark, ' ']

end ListStyle

mutual

/-- A block as text.  `inside` says that the block stands in a list item, and whether that list is
tight. -/
def printBlock (inside : Option Bool) : Block (List Inline) → Text
  | .heading level title => printHeading level (printInlines title)
  | .paragraph content => escapeLines (printInlines content) ++ ['\n', '\n']
  | .tightParagraph content => escapeLines (printInlines content) ++ ['\n']
  | .code raw fence info => printFenced raw fence info
  | .quote children => printQuote (printBlocks none children)
  | .list style items =>
    let text := printItems style 0 items
    match inside with
    | none => cutEnd text ++ ['\n']
    | some true => text
    | some false => text ++ ['\n']
  | .thematicBreak => "***\n\n".toList
  | .html raw => raw ++ ['\n', '\n']
  | .blank _ => []
  | .definition raw => raw ++ ['\n', '\n']

/-- Blocks as text. -/
def printBlocks (inside : Option Bool) : List (Block (List Inline)) → Text
  | [] => []
  | block :: rest => printBlock inside block ++ printBlocks inside rest

/-- List items as text, after `before` others. -/
def printItems (style : ListStyle) (before : Nat) : List (List (Block (List Inline))) → Text
  | [] => []
  | item :: rest =>
    printItem (style.itemMark before) (printBlocks (some style.tight) item) ++
      printItems style (before + 1) rest

end

/-- The line ends that blank lines at the very start stand for. -/
def leadingLines : List (Block (List Inline)) → Text
  | .blank (some n) :: rest => List.replicate n '\n' ++ leadingLines rest
  | _ => []

/-- A whole document as text, without blank lines around it. -/
def print (blocks : List (Block (List Inline))) : Text :=
  let text := cutEnd (leadingLines blocks ++ printBlocks none blocks ++ ['\n'])
  Text.trimBoth (· == '\n') text ++ ['\n']

end ExportDocs.Markdown
