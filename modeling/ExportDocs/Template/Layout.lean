/-
# ExportDocs.Template.Layout -- width, alignment and length of a filled-in value

A layout is written after the colon of a field: a fill character and an alignment, flags, a width,
a precision and a code, each of which may be missing.
-/
import ExportDocs.Template.Fault
import ExportDocs.Text.Word

namespace ExportDocs

set_option autoImplicit false

/-- The side on which a value stands in its width. -/
inductive Alignment where
  | left
  | right
  | center
  /-- Padding after the sign, which no text has. -/
  | afterSign
  deriving DecidableEq, Repr, Inhabited

namespace Alignment

/-- The alignment that a character stands for. -/
def ofChar? : Char → Option Alignment
  | '<' => some left
  | '>' => some right
  | '^' => some center
  | '=' => some afterSign
  | _ => none

end Alignment

/-- How a value is laid out. -/
structure Layout where
  fill : Char := ' '
  alignment : Alignment := .left
  sign : Option Char := none
  negativeZero : Bool := false
  alternate : Bool := false
  width : Nat := 0
  precision : Option Nat := none
  code : Char := 's'
  deriving DecidableEq, Repr, Inhabited

namespace Layout

/-- A flag at the start of a text and the text after it. -/
def readFlag (flag : Char) : Text → Bool × Text
  | c :: t => if c = flag then (true, t) else (false, c :: t)
  | [] => (false, [])

/-- The greatest number that may be written. -/
def maxNumber : Nat := 9223372036854775807

/-- A number at the start of a text, if a digit stands there, and the text after it. -/
def readNumber (t : Text) : Except TemplateFault (Option Nat × Text) :=
  let digits := t.takeWhile Text.isDecimal
  if digits.isEmpty then .ok (none, t)
  else if Text.decimalValue digits ≤ maxNumber then
    .ok (some (Text.decimalValue digits), t.drop digits.length)
  else .error .numberTooLong

/-- A fill character and an alignment, and the text after them; the flag says that a fill character
was given. -/
def readAlignment (t : Text) : Option Char × Option Alignment × Text :=
  match t with
  | c :: d :: rest =>
    match Alignment.ofChar? d, Alignment.ofChar? c with
    | some alignment, _ => (some c, some alignment, rest)
    | none, some alignment => (none, some alignment, d :: rest)
    | none, none => (none, none, t)
  | [c] =>
    match Alignment.ofChar? c with
    | some alignment => (none, some alignment, [])
    | none => (none, none, t)
  | [] => (none, none, [])

/-- A sign and the text after it. -/
def readSign : Text → Option Char × Text
  | c :: t => if c = ' ' || c = '+' || c = '-' then (some c, t) else (none, c :: t)
  | [] => (none, [])

/-- The mark that groups digits and the text after it. -/
def readGrouping : Text → Except TemplateFault (Option Char × Text)
  | ',' :: '_' :: _ => .error .twoGroupings
  | '_' :: ',' :: _ => .error .twoGroupings
  | ',' :: t => .ok (some ',', t)
  | '_' :: t => .ok (some '_', t)
  | t => .ok (none, t)

/-- A precision and the text after it. -/
def readPrecision : Text → Except TemplateFault (Option Nat × Text)
  | '.' :: t => do
    match ← readNumber t with
    | (none, _) => .error .precisionMissing
    | found => .ok found
  | t => .ok (none, t)

/-- Codes of numbers whose digits a mark may group. -/
def groupingCodes (mark : Char) : Text :=
  if mark = '_' then "defgEG%FboxX".toList else "defgEG%F".toList

/-- Reads a layout. -/
def read (t : Text) : Except TemplateFault Layout := do
  let (fill, alignment, rest) := readAlignment t
  let (sign, rest) := readSign rest
  let (negativeZero, rest) := readFlag 'z' rest
  let (alternate, rest) := readFlag '#' rest
  let (zeroFill, rest) := if fill.isNone then readFlag '0' rest else (false, rest)
  let (width, rest) ← readNumber rest
  let (grouping, rest) ← readGrouping rest
  let (precision, rest) ← readPrecision rest
  let code ← match rest with
    | [] => .ok 's'
    | [c] => .ok c
    | _ => .error (.badLayout t)
  match grouping with
  | some mark => if (groupingCodes mark).contains code then .ok () else .error (.grouping mark code)
  | none => .ok ()
  return { fill := fill.getD (if zeroFill then '0' else ' '), alignment := alignment.getD .left, sign
           negativeZero, alternate, width := width.getD 0, precision, code }

/-- What a text does not allow. -/
def check (layout : Layout) : Except TemplateFault Unit :=
  if layout.code ≠ 's' then .error (.badCode layout.code)
  else match layout.sign with
    | some ' ' => .error .space
    | some _ => .error .sign
    | none =>
      if layout.negativeZero then .error .negativeZero
      else if layout.alternate then .error .alternate
      else if layout.alignment = .afterSign then .error .padding
      else .ok ()

/-- A value laid out.  What is left over when it is centred goes to the right. -/
def apply (layout : Layout) (value : Text) : Text :=
  let value := match layout.precision with
    | some n => value.take n
    | none => value
  let room := layout.width - value.length
  let left := match layout.alignment with
    | .right => room
    | .center => room / 2
    | _ => 0
  List.replicate left layout.fill ++ value ++ List.replicate (room - left) layout.fill

end Layout

end ExportDocs
