/-
# ExportDocs.Markdown.Inline.Span -- code spans, autolinks and raw markup

Each reader takes the text at the first character of its construct and returns what it read with
the number of characters it took, or nothing.
-/
import ExportDocs.Markdown.Html
import ExportDocs.Markdown.Link

namespace ExportDocs.Markdown

set_option autoImplicit false

/-! ## Code spans -/

/-- The text before the first run of exactly `n` backticks. -/
def beforeTicks (n : Nat) : Text → Option Text
  | [] => none
  | c :: t =>
    if c = '`' then
      let more := (t.takeWhile (· == '`')).length
      if more + 1 = n then some []
      else (beforeTicks n (t.drop more)).map (List.replicate (more + 1) '`' ++ ·)
    else (beforeTicks n t).map (c :: ·)
termination_by t => t.length

/-- The code in a span: line ends are spaces, and a space at both ends is left out unless there is
nothing else. -/
def spanCode (raw : Text) : Text :=
  let code := Text.replaceChar '\n' [' '] raw
  if code.any (· != ' ') && code.head? == some ' ' && code.getLast? == some ' ' then
    (code.drop 1).dropLast
  else code

/-- A code span that opens with `n` backticks, which are given up. -/
def readCode (n : Nat) (t : Text) : Option (Text × Nat) :=
  (beforeTicks n t).map fun raw => (spanCode raw, raw.length + n)

/-! ## Autolinks -/

/-- A character of a scheme after its first letter. -/
def isSchemeChar (c : Char) : Bool := c.isAlphanum || c == '.' || c == '+' || c == '-'

/-- A character of an autolink after its scheme. -/
def isAutolinkChar (c : Char) : Bool := !(c == '<' || c == '>' || c.toNat ≤ 0x20)

/-- The address in an autolink, after its opening angle bracket. -/
def readAutolink : Text → Option Text
  | c :: t =>
    let scheme := t.takeWhile isSchemeChar
    if c.isAlpha && 1 ≤ scheme.length && scheme.length ≤ 31 then
      match t.drop scheme.length with
      | ':' :: rest =>
        let body := rest.takeWhile isAutolinkChar
        if (rest.drop body.length).head? == some '>' then some (c :: scheme ++ ':' :: body)
        else none
      | _ => none
    else none
  | [] => none

/-- A character of the name in a mail address. -/
def isMailNameChar (c : Char) : Bool :=
  c.isAlphanum || ".!#$%&'*+/=?^_`\x7b|\x7d~-".toList.contains c

/-- Whether a text is a label of a domain. -/
def isDomainLabel (label : Text) : Bool :=
  label.length ≤ 63 && label.all (fun c => c.isAlphanum || c == '-') &&
    label.head?.any Char.isAlphanum && label.getLast?.any Char.isAlphanum

/-- The mail address in an autolink, after its opening angle bracket. -/
def readMailAutolink (t : Text) : Option Text :=
  let name := t.takeWhile isMailNameChar
  match t.drop name.length with
  | '@' :: rest =>
    let domain := rest.takeWhile (· != '>')
    if !name.isEmpty && (rest.drop domain.length).head? == some '>' &&
        (Text.splitAtChar '.' domain).all isDomainLabel then
      some (name ++ '@' :: domain)
    else none
  | _ => none

/-! ## Raw markup -/

/-- The length up to and with the first occurrence of `closer` after `skip` characters. -/
def lengthTo (closer : String) (skip : Nat) (t : Text) : Option Nat :=
  (Text.breakOn closer.toList (t.drop skip)).map fun (before, _) =>
    skip + before.length + closer.length

/-- The length of raw markup at an opening angle bracket. -/
def htmlLength (t : Text) : Option Nat :=
  if t.startsWith "<!-->".toList then some 5
  else if t.startsWith "<!--->".toList then some 6
  else if t.startsWith "<!--".toList then lengthTo "-->" 4 t
  else if t.startsWith "<?".toList then lengthTo "?>" 2 t
  else if t.startsWith "<![CDATA[".toList then lengthTo "]]>" 9 t
  else if t.startsWith "<!".toList then
    let name := (t.drop 2).takeWhile Char.isUpper
    if !name.isEmpty && ((t.drop (2 + name.length)).head?).any Text.isAsciiBlank then
      lengthTo ">" (3 + name.length) t
    else none
  else (Html.afterTag t).map fun rest => t.length - rest.length

/-- Whether raw markup opens a link. -/
def opensAnchor (raw : Text) : Bool :=
  ["<a ", "<a>", "<A ", "<A>"].any fun tag => raw.startsWith tag.toList

/-- Whether raw markup closes a link. -/
def closesAnchor (raw : Text) : Bool :=
  ["</a ", "</a>", "</A ", "</A>"].any fun tag => raw.startsWith tag.toList

end ExportDocs.Markdown
