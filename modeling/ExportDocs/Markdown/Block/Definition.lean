/-
# ExportDocs.Markdown.Block.Definition -- link definitions

A definition gives a label a destination and perhaps a title.  Of several definitions of one label
the first counts.
-/
import ExportDocs.Markdown.Block.Start

namespace ExportDocs.Markdown

set_option autoImplicit false

/-- The definitions met so far, by the keys of their labels. -/
abbrev Definitions := List (Text × Target)

namespace Definitions

/-- Adds a definition unless its key is taken. -/
def add (definitions : Definitions) (key : Text) (target : Target) : Definitions :=
  match definitions.lookup key with
  | some _ => definitions
  | none => definitions ++ [(key, target)]

end Definitions

/-- The text before the first blank line that follows its first line. -/
def beforeBlankLine : Text → Text
  | [] => []
  | '\n' :: t =>
    let line := t.takeWhile (· != '\n')
    if t.contains '\n' && Line.isEmpty { text := line } then ['\n'] else '\n' :: beforeBlankLine t
  | c :: t => c :: beforeBlankLine t

/-- The text after the end of a line on which only spaces and tabs are left. -/
def afterLineEnd (t : Text) : Option Text :=
  match t.dropWhile Text.isSpaceOrTab with
  | '\n' :: rest => some rest
  | _ => none

/-- A definition whose label has been read: the key, the target and the text after it. -/
def readDefinition (label rest : Text) : Option (Text × Target × Text) := do
  let key := labelKey label
  if key.isEmpty then none
  else
    let (url, rest) ← readUrl true rest
    let target : Target := { url := encodeUrl (unescape url) }
    let titled := do
      let (title, n) ← readTitle (beforeBlankLine rest)
      let after ← afterLineEnd (rest.drop n)
      return (key, { target with title := if title.isEmpty then none else some title }, after)
    titled.or ((afterLineEnd rest).map fun after => (key, target, after))

end ExportDocs.Markdown
