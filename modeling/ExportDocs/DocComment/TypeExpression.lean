/-
# ExportDocs.DocComment.TypeExpression -- the type in braces before a tag's text

A tag's text may begin with a type expression in braces, and braces inside it are balanced.
`closing` reads up to the brace that closes the one already open; `split` uses it on a text
without white space at its ends.  Without a closing brace the text has no type expression and
nothing of it is lost.
-/
import ExportDocs.Text.Blank

namespace ExportDocs.TypeExpression

set_option autoImplicit false

/-- The text before the brace that closes the current level and the text after it, with `depth`
inner levels still open. -/
def closing (depth : Nat) : Text → Option (Text × Text)
  | [] => none
  | c :: t =>
    if c = '{' then (closing (depth + 1) t).map fun (inside, rest) => (c :: inside, rest)
    else if c = '}' then
      match depth with
      | 0 => some ([], t)
      | depth + 1 => (closing depth t).map fun (inside, rest) => (c :: inside, rest)
    else (closing depth t).map fun (inside, rest) => (c :: inside, rest)

/-- The type expression at the start of a text and what follows it, both stripped. -/
def split (t : Text) : Text × Text :=
  let body := Text.strip t
  match body with
  | '{' :: inner =>
    match closing 0 inner with
    | some (type, rest) => (Text.strip type, Text.strip rest)
    | none => ([], body)
  | _ => ([], body)

end ExportDocs.TypeExpression
