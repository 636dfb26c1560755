/-
# ExportDocs.Settings.Value -- values for settings

A value for a setting comes as text from the environment or as a structured value from a caller.
It is accepted if it can be understood as what the setting holds: a text, a truth value, an integer
or a list of texts.
-/
import ExportDocs.Json.Reader
import ExportDocs.Text.Case

namespace ExportDocs

set_option autoImplicit false

/-- Why a value is refused. -/
inductive ValueFault where
  | notText
  | notBool
  | unreadableBool
  | notInt
  | unreadableInt
  /-- A number with a fraction. -/
  | fractionalInt
  | notList
  | unknownName
  deriving DecidableEq, Repr, Inhabited

/-- The word for a fault. -/
def ValueFault.label : ValueFault → String
  | .notText => "string_type"
  | .notBool => "bool_type"
  | .unreadableBool => "bool_parsing"
  | .notInt => "int_type"
  | .unreadableInt => "int_parsing"
  | .fractionalInt => "int_from_float"
  | .notList => "list_type"
  | .unknownName => "extra_forbidden"

/-- Where in the settings a fault lies: a name, perhaps with the position in a list. -/
abbrev Location := List Text

namespace Json

/-- The integer that a decimal number is. -/
def wholeValue? (mantissa exponent : Int) : Option Int :=
  match exponent with
  | .ofNat n => some (mantissa * Nat.pow 10 n)
  | .negSucc n =>
    let unit : Int := Nat.pow 10 (n + 1)
    if mantissa % unit = 0 then some (mantissa / unit) else none

/-- A text. -/
def asText : Json → Except ValueFault Text
  | .str t => .ok t
  | _ => .error .notText

/-- Words for true and for false. -/
def trueWords : List Text :=
  ["1".toList, "true".toList, "t".toList, "yes".toList, "y".toList, "on".toList]

/-- Words for false. -/
def falseWords : List Text :=
  ["0".toList, "false".toList, "f".toList, "no".toList, "n".toList, "off".toList]

/-- The truth value that a number is. -/
def boolOfInt : Int → Except ValueFault Bool
  | 0 => .ok false
  | 1 => .ok true
  | _ => .error .unreadableBool

/-- A truth value. -/
def asBool : Json → Except ValueFault Bool
  | .bool b => .ok b
  | .int n => boolOfInt n
  | .real mantissa exponent =>
    match wholeValue? mantissa exponent with
    | some n => boolOfInt n
    | none => .error .notBool
  | .str t =>
    let word := t.map Char.toLower
    if trueWords.contains word then .ok true
    else if falseWords.contains word then .ok false
    else .error .unreadableBool
  | _ => .error .notBool

/-- The number that digits stand for, if single underscores at most stand between them. -/
def groupedDigits? (t : Text) : Option Nat :=
  if (Text.splitAtChar '_' t).all fun group => !group.isEmpty && group.all Char.isDigit then
    some (digitsValue (t.filter (· != '_')))
  else none

/-- The integer that a text is: a sign, digits, and a fraction of zeros, between blanks. -/
def readInt? (t : Text) : Option Int :=
  let t := Text.strip t
  let (negative, t) := match t with
    | '-' :: rest => (true, rest)
    | '+' :: rest => (false, rest)
    | t => (false, t)
  let whole := t.takeWhile (· != '.')
  let fraction := t.drop (whole.length + 1)
  if fraction.all (· == '0') then
    (groupedDigits? whole).map fun n => if negative then -(n : Int) else n
  else none

/-- An integer. -/
def asInt : Json → Except ValueFault Int
  | .int n => .ok n
  | .bool b => .ok (if b then 1 else 0)
  | .real mantissa exponent =>
    match wholeValue? mantissa exponent with
    | some n => .ok n
    | none => .error .fractionalInt
  | .str t =>
    match readInt? t with
    | some n => .ok n
    | none => .error .unreadableInt
  | _ => .error .notInt

/-- A list of texts, or every fault with its position. -/
def asTexts : Json → Except (List (Option Nat × ValueFault)) (List Text)
  | .list items =>
    let faults := (items.zipIdx).filterMap fun (item, i) =>
      match item.asText with
      | .ok _ => none
      | .error fault => some (some i, fault)
    if faults.isEmpty then
      .ok (items.filterMap fun item => item.asText.toOption)
    else .error faults
  | _ => .error [(none, .notList)]

end Json

end ExportDocs
