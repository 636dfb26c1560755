/-
# ExportDocs.Markdown.Html -- raw markup

The shapes of tags.  White space and unquoted attribute values overlap, so the readers of
attributes return every way to go on, the longest first; a tag is read by the first way that
reaches its end.
-/
import ExportDocs.Text.Blank
import ExportDocs.Text.Lines

namespace ExportDocs.Markdown.Html

set_option autoImplicit false

/-- Names of block tags: such a tag starts raw markup that runs to a blank line. -/
def blockTags : List Text :=
  (Text.splitAtChar ' ' <| String.toList <|
    "address article aside base basefont blockquote body caption center col colgroup dd details " ++
    "dialog dir div dl dt fieldset figcaption figure footer form frame frameset h1 h2 h3 h4 h5 h6 " ++
    "head header hr html iframe legend li link main menu menuitem meta nav noframes ol optgroup " ++
    "option p param section source summary table tbody td tfoot th thead title tr track ul")

/-- Names of tags whose content is literal: such a tag starts raw markup that runs to its end
tag. -/
def literalTags : List Text :=
  ["pre".toList, "script".toList, "style".toList, "textarea".toList]

/-- A character that continues a tag name. -/
def isTagChar (c : Char) : Bool := c.isAlphanum || c == '-'

/-- A tag name and the text after it. -/
def readName : Text → Option (Text × Text)
  | c :: t =>
    if c.isAlpha then some (c :: t.takeWhile isTagChar, t.dropWhile isTagChar) else none
  | [] => none

/-! ## Attributes -/

/-- Every way to go on after a run of characters in a class, the longest run first. -/
def anyRun (p : Char → Bool) : Text → List Text
  | [] => [[]]
  | c :: t => if p c then anyRun p t ++ [c :: t] else [c :: t]

/-- Every way to go on after a run of at least one character. -/
def someRun (p : Char → Bool) : Text → List Text
  | [] => []
  | c :: t => if p c then anyRun p t else []

/-- The way to go on after one given character. -/
def exactly (d : Char) : Text → List Text
  | c :: t => if c = d then [t] else []
  | [] => []

/-- A character that an attribute name may start with. -/
def isAttributeStart (c : Char) : Bool := c.isAlpha || c == '_' || c == ':'

/-- A character that continues an attribute name. -/
def isAttributeChar (c : Char) : Bool :=
  c.isAlphanum || c == '_' || c == '.' || c == ':' || c == '-'

/-- A character of an unquoted attribute value. -/
def isValueChar (c : Char) : Bool :=
  !(c == ' ' || c == '!' || c == '"' || c == '\'' || c == '=' || c == '<' || c == '>' || c == '`')

/-- An attribute value between two quotes. -/
def quotedValue (quote : Char) (t : Text) : List Text :=
  (exactly quote t).flatMap fun rest => exactly quote (rest.dropWhile (· != quote))

/-- An attribute value. -/
def value (t : Text) : List Text :=
  someRun isValueChar t ++ quotedValue '\'' t ++ quotedValue '"' t

/-- A value after an equals sign, or none. -/
def optionalValue (t : Text) : List Text :=
  ((anyRun Text.isBlank t).flatMap fun t =>
    (exactly '=' t).flatMap fun t =>
      (anyRun Text.isBlank t).flatMap value) ++ [t]

/-- An attribute after white space. -/
def oneAttribute (t : Text) : List Text :=
  (someRun Text.isBlank t).flatMap fun t =>
    match t with
    | c :: rest =>
      if isAttributeStart c then (anyRun isAttributeChar rest).flatMap optionalValue else []
    | [] => []

/-- At most `count` attributes. -/
def attributesUpTo : Nat → Text → List Text
  | 0, t => [t]
  | count + 1, t => (oneAttribute t).flatMap (attributesUpTo count) ++ [t]

/-- Any number of attributes; each takes at least one character. -/
def attributes (t : Text) : List Text := attributesUpTo t.length t

/-! ## Tags -/

/-- Whether nothing but the end of a tag follows on the line. -/
def endsLine (t : Text) : Bool :=
  match t.dropWhile Text.isSpaceOrTab with
  | '>' :: rest => rest.all Text.isSpaceOrTab
  | _ => false

/-- Whether attributes and the end of an opening tag fill the rest of a line. -/
def opensLine (t : Text) : Bool := (attributes t).any endsLine

/-- The end of an opening tag, which may close itself. -/
def openingEnd (t : Text) : List Text :=
  (anyRun Text.isBlank t).flatMap fun t =>
    ((exactly '/' t).flatMap (exactly '>')) ++ exactly '>' t

/-- The text after a tag, opening or closing. -/
def afterTag : Text → Option Text
  | '<' :: '/' :: t => do
    let (_, rest) ← readName t
    ((anyRun Text.isBlank rest).flatMap (exactly '>')).head?
  | '<' :: t => do
    let (_, rest) ← readName t
    ((attributes rest).flatMap openingEnd).head?
  | _ => none

end ExportDocs.Markdown.Html
