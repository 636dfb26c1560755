/-
# ExportDocs.Markdown.Link -- labels, destinations and titles of links

The parts of a link are the same in a link definition and inside a paragraph.  Each reader takes
the text at its part and returns the part with the text after it, or nothing.
-/
import ExportDocs.Markdown.Inline
import ExportDocs.Text.Blank
import ExportDocs.Text.Case
import ExportDocs.Text.Percent

namespace ExportDocs.Markdown

set_option autoImplicit false

/-- How deep inline content, blocks and parentheses in a destination may nest. -/
def maxNesting : Nat := 20

/-- ASCII punctuation. -/
def isPunctuation (c : Char) : Bool :=
  let n := c.toNat
  (0x21 ≤ n && n ≤ 0x2f) || (0x3a ≤ n && n ≤ 0x40) || (0x5b ≤ n && n ≤ 0x60) ||
    (0x7b ≤ n && n ≤ 0x7e)

/-- The text with the backslash before punctuation removed. -/
def unescape : Text → Text
  | [] => []
  | '\\' :: c :: t => if isPunctuation c then c :: unescape t else '\\' :: unescape (c :: t)
  | c :: t => c :: unescape t

/-- A destination as it is written into a document. -/
def encodeUrl (url : Text) : Text := Text.percentEncode ":/?#@!$&()*+,;=%".toList url

/-- The key under which a label is looked up: its words, without regard to case. -/
def labelKey (label : Text) : Text :=
  Text.upper (Text.lower (Text.joinWith [' '] (Text.words label)))

/-! ## Labels -/

/-- The longest label. -/
def maxLabel : Nat := 999

/-- Up to `budget` characters of a label, an escaped character counting once, and the text after
them. -/
def labelChars : Nat → Text → Text × Text
  | 0, t => ([], t)
  | _, [] => ([], [])
  | budget + 1, '\\' :: c :: t =>
    if c = '\n' then ([], '\\' :: c :: t)
    else
      let (label, rest) := labelChars budget t
      ('\\' :: c :: label, rest)
  | budget + 1, c :: t =>
    if c = '\\' || c = '[' || c = ']' then ([], c :: t)
    else
      let (label, rest) := labelChars budget t
      (c :: label, rest)

/-- A label up to its closing bracket and the text after the bracket.  A closing bracket, escaped
or not, must come among the first thousand characters. -/
def readLabel (t : Text) : Option (Text × Text) :=
  if (t.take (maxLabel + 1)).contains ']' then
    match labelChars maxLabel t with
    | (label, ']' :: rest) => some (label, rest)
    | _ => none
  else none

/-- A label whose closing bracket comes among the first thousand characters, and its length with
the bracket. -/
def readShortLabel (t : Text) : Option (Text × Nat) :=
  match labelChars maxLabel (t.take (maxLabel + 1)) with
  | (label, ']' :: _) => some (label, label.length + 1)
  | _ => none

/-! ## Destinations -/

/-- The text after white space with at most one line end. -/
def skipLinkBlanks (t : Text) : Text :=
  match t.dropWhile Text.isSpaceOrTab with
  | '\r' :: '\n' :: rest => rest.dropWhile Text.isSpaceOrTab
  | '\n' :: rest => rest.dropWhile Text.isSpaceOrTab
  | '\r' :: rest => rest.dropWhile Text.isSpaceOrTab
  | rest => rest

/-- A destination in angle brackets, after the opening one. -/
def readAngleUrl : Text → Option (Text × Text)
  | [] => none
  | '>' :: t => some ([], t)
  | '\\' :: c :: t =>
    if isPunctuation c then (readAngleUrl t).map fun (url, rest) => ('\\' :: c :: url, rest)
    else (readAngleUrl (c :: t)).map fun (url, rest) => ('\\' :: url, rest)
  | c :: t =>
    if c = '<' || c = '\n' || c = '\r' || c = '\x00' then none
    else (readAngleUrl t).map fun (url, rest) => (c :: url, rest)

/-- A destination without brackets, inside `level` parentheses. -/
def readBareUrl (level : Nat) : Text → Option (Text × Text)
  | [] => if level = 0 then some ([], []) else none
  | '\\' :: c :: t =>
    if isPunctuation c then (readBareUrl level t).map fun (url, rest) => ('\\' :: c :: url, rest)
    else (readBareUrl level (c :: t)).map fun (url, rest) => ('\\' :: url, rest)
  | c :: t =>
    if Text.isAsciiBlank c then (if level = 0 then some ([], c :: t) else none)
    else if c.toNat < 32 || c = '\x7f' then none
    else if c = '(' then
      if level < maxNesting then
        (readBareUrl (level + 1) t).map fun (url, rest) => (c :: url, rest)
      else none
    else if c = ')' then
      match level with
      | 0 => some ([], c :: t)
      | level + 1 => (readBareUrl level t).map fun (url, rest) => (c :: url, rest)
    else (readBareUrl level t).map fun (url, rest) => (c :: url, rest)

/-- A destination after optional white space.  In a definition it must not be empty. -/
def readUrl (inDefinition : Bool) (t : Text) : Option (Text × Text) :=
  match skipLinkBlanks t with
  | [] => none
  | '<' :: rest => readAngleUrl rest
  | c :: rest =>
    if inDefinition && Text.isAsciiBlank c then none else readBareUrl 0 (c :: rest)

/-! ## Titles -/

/-- The mark that closes a title opened by the given one. -/
def titleCloser : Char → Option Char
  | '\'' => some '\''
  | '"' => some '"'
  | '(' => some ')'
  | _ => none

/-- Whether a blank line starts here, after a line end. -/
def startsBlankLine (t : Text) : Bool := (t.dropWhile Text.isSpaceOrTab).head? == some '\n'

/-- A title up to its closing mark, and its length with the mark. -/
def titleBody (opener closer : Char) : Text → Option (Text × Nat)
  | [] => none
  | '\\' :: c :: t =>
    if isPunctuation c then
      (titleBody opener closer t).map fun (title, n) => ('\\' :: c :: title, n + 2)
    else (titleBody opener closer (c :: t)).map fun (title, n) => ('\\' :: title, n + 1)
  | c :: t =>
    if c = '\x00' || (opener = '(' && c = '(') then none
    else if c = '\n' && startsBlankLine t then none
    else if c = closer then some ([], 1)
    else (titleBody opener closer t).map fun (title, n) => (c :: title, n + 1)

/-- A title after white space, and the length of both. -/
def readTitle (t : Text) : Option (Text × Nat) :=
  let blanks := (t.takeWhile Text.isAsciiBlank).length
  if blanks = 0 then none
  else match t.drop blanks with
    | opener :: rest => do
      let closer ← titleCloser opener
      let (title, n) ← titleBody opener closer rest
      return (unescape title, blanks + 1 + n)
    | [] => none

/-- The destination and the title of an inline link, after its opening parenthesis, and the text
after the closing one. -/
def readTarget (t : Text) : Option (Target × Text) := do
  let (url, rest) ← readUrl false t
  let (title, rest) := match readTitle rest with
    | some (title, n) => (title, rest.drop n)
    | none => ([], rest)
  match rest.dropWhile Text.isAsciiBlank with
  | ')' :: after =>
    return ({ url := encodeUrl (unescape url), title := if title.isEmpty then none else some title },
      after)
  | _ => none

end ExportDocs.Markdown
