/-
# ExportDocs.Markdown.Inline.Piece -- inline content before emphasis is found

While a paragraph is read, its content is a list of pieces.  A text is live if emphasis may be
looked for in it: escaped characters are not live.  An autolink remembers how it was written,
because inside another link it is only text.
-/
import ExportDocs.Markdown.Link

namespace ExportDocs.Markdown

set_option autoImplicit false

/-- A piece of inline content that is still being read. -/
inductive Piece where
  | text (raw : Text) (live : Bool)
  | node (inline : Inline)
  | autolink (shown : Text) (url : Text)
  deriving Repr, Inhabited

namespace Piece

/-- The inline content that a piece is. -/
def toInline : Piece → Inline
  | text raw _ => .text raw
  | node inline => inline
  | autolink shown url => .link [.text shown] { url := encodeUrl url } none

/-- An autolink as text. -/
def unlink : Piece → Piece
  | autolink shown _ => text ('<' :: shown ++ ['>']) false
  | piece => piece

/-- What the characters around a piece see of it. -/
def outside : Piece → Text
  | text raw _ => raw
  | node .softBreak => ['\n']
  | node .hardBreak => ['\n']
  | _ => ['￼']

/-- Whether emphasis may be marked in a piece. -/
def hasMarker : Piece → Bool
  | text raw true => raw.any fun c => c == '*' || c == '_'
  | _ => false

/-- The length of a digit run that a class allows, if a semicolon ends it and it is not longer than
`limit`. -/
def endsWithSemicolon (p : Char → Bool) (limit : Nat) (t : Text) : Bool :=
  let n := (t.takeWhile p).length
  1 ≤ n && n ≤ limit && (t.drop n).head? == some ';'

/-- Whether a text begins like a character reference after its ampersand. -/
def startsReference : Text → Bool
  | '#' :: c :: t =>
    endsWithSemicolon Char.isDigit 7 (c :: t) ||
      ((c == 'x' || c == 'X') && endsWithSemicolon
        (fun d => d.isDigit || ('a' ≤ d && d ≤ 'f') || ('A' ≤ d && d ≤ 'F')) t.length t)
  | t => endsWithSemicolon
      (fun d => !(d == '\t' || d == '\n' || d == '\x0c' || d == ' ' || d == '<' || d == '&' ||
        d == '#' || d == ';')) 32 t

/-- Whether joining two texts would form a character reference that neither holds. -/
def formsReference (left right : Text) : Bool :=
  left.getLast? == some '&' && startsReference right

/-- Neighbouring texts joined where both are live or neither is.  `pending` is the text that the
next one may be joined to, with its last part. -/
def joinTexts (pending : Option (Text × Text × Bool)) : List Piece → List Piece
  | [] =>
    match pending with
    | some (joined, _, live) => [text joined live]
    | none => []
  | text raw live :: rest =>
    match pending with
    | some (joined, last, liveBefore) =>
      if liveBefore != live || formsReference last raw then
        text joined liveBefore :: joinTexts (some (raw, raw, live)) rest
      else joinTexts (some (joined ++ raw, raw, live)) rest
    | none => joinTexts (some (raw, raw, live)) rest
  | piece :: rest =>
    match pending with
    | some (joined, _, live) => text joined live :: piece :: joinTexts none rest
    | none => piece :: joinTexts none rest

end Piece

end ExportDocs.Markdown
