/-
# ExportDocs.Template -- texts with a place for a name

A template is a text in which a field in braces stands for a token: `\x7btoken\x7d`, perhaps with a
conversion after an exclamation mark and a layout after a colon.  Doubled braces stand for single
ones.  A layout may hold fields itself, but not in these again.

A template is filled in from left to right, so of several faults the first counts (`fill`).
-/
import ExportDocs.Template.Layout

namespace ExportDocs

set_option autoImplicit false

/-- A field of a template. -/
structure TemplateField where
  name : Text
  conversion : Option Char := none
  layout : Text := []
  deriving DecidableEq, Repr, Inhabited

namespace TemplateField

/-- The name of a field and its length; `inIndex` says that an index in brackets is being read,
in which only a bracket counts. -/
def readName (inIndex : Bool) : Text → Except TemplateFault Text
  | [] => .error .unclosedField
  | c :: t =>
    if inIndex then (readName (c != ']') t).map (c :: ·)
    else if c = '{' then .error .openingInName
    else if c = '}' || c = ':' || c = '!' then .ok []
    else (readName (c = '[') t).map (c :: ·)

/-- A layout inside `depth` further braces. -/
def readLayout (depth : Nat) : Text → Except TemplateFault Text
  | [] => .error .unclosedLayout
  | c :: t =>
    if c = '{' then (readLayout (depth + 1) t).map (c :: ·)
    else if c = '}' then
      match depth with
      | 0 => .ok []
      | depth + 1 => (readLayout depth t).map (c :: ·)
    else (readLayout depth t).map (c :: ·)

/-- Reads a field after its opening brace; returns it with the number of characters it takes, the
closing brace included. -/
def read (t : Text) : Except TemplateFault (TemplateField × Nat) := do
  let name ← readName false t
  match t.drop name.length with
  | '!' :: [] => .error .conversionMissing
  | '!' :: c :: '}' :: _ => return ({ name, conversion := some c }, name.length + 3)
  | '!' :: c :: ':' :: rest =>
    let layout ← readLayout 0 rest
    return ({ name, conversion := some c, layout }, name.length + 4 + layout.length)
  | '!' :: _ :: [] => .error .unclosedLayout
  | '!' :: _ => .error .colonExpected
  | ':' :: rest =>
    let layout ← readLayout 0 rest
    return ({ name, layout }, name.length + 2 + layout.length)
  | _ => return ({ name }, name.length + 1)

/-- The value that a name stands for. -/
def lookup (token name : Text) : Except TemplateFault Text :=
  let first := name.takeWhile fun c => c != '.' && c != '['
  if first.all Text.isDecimal then
    if Text.decimalValue first ≤ Layout.maxNumber then .error (.noPosition (Text.decimalValue first))
    else .error .numberTooLong
  else if first = "token".toList then
    if name.length = first.length then .ok token else .error (.noPart (name.drop (first.length + 1)))
  else .error (.noName first)

/-- A value after a conversion. -/
def convert (value : Text) : Option Char → Except TemplateFault Text
  | none => .ok value
  | some 's' => .ok value
  | some 'r' => .ok (Text.quoted value)
  | some 'a' => .ok (Text.asciiQuoted value)
  | some c => .error (.badConversion c)

end TemplateField

namespace Template

/-- Fills in a text; `expand` fills in the fields of a layout. -/
def fillWith (expand : Text → Except TemplateFault Text) (token : Text) :
    Text → Except TemplateFault Text
  | [] => .ok []
  | c :: t =>
    if c = '{' then
      match t with
      | [] => .error .loneOpening
      | d :: rest =>
        if d = '{' then return '{' :: (← fillWith expand token rest)
        else do
          let (field, n) ← TemplateField.read (d :: rest)
          let value ← TemplateField.lookup token field.name
          let value ← TemplateField.convert value field.conversion
          let layout ← if field.layout.contains '{' then expand field.layout else .ok field.layout
          let layout ← Layout.read layout
          layout.check
          return layout.apply value ++ (← fillWith expand token (rest.drop (n - 1)))
    else if c = '}' then
      match t with
      | '}' :: rest => return '}' :: (← fillWith expand token rest)
      | _ => .error .loneClosing
    else return c :: (← fillWith expand token t)
termination_by t => t.length
decreasing_by all_goals simp_all; try omega

/-- Fills in a template with a token. -/
def fill (token template : Text) : Except TemplateFault Text :=
  fillWith (fillWith (fun _ => .error .nestedTooDeep) token) token template

end Template

end ExportDocs
