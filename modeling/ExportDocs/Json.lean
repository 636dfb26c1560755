/-
# ExportDocs.Json -- structured values and how they are printed

Printed values have one item a line, indented by its depth; an empty list or object stays on its
line.  Only printable ASCII is written as it is.
-/
import ExportDocs.Text.Quoted

namespace ExportDocs

set_option autoImplicit false

/-- A structured value. -/
inductive Json where
  | null
  | bool (value : Bool)
  | int (value : Int)
  /-- A number written with a fraction or an exponent: `mantissa` times ten to the `exponent`. -/
  | real (mantissa exponent : Int)
  | str (text : Text)
  | list (items : List Json)
  | object (fields : List (Text × Json))
  deriving Repr, Inhabited

namespace Json

/-- Four hexadecimal digits after the mark of an escape. -/
def escapeUnit (n : Nat) : Text := '\\' :: 'u' :: Text.hexDigits 4 n

/-- One character of a string.  A character beyond the sixteen-bit range is written as two
surrogates. -/
def escapeChar (c : Char) : Text :=
  let n := c.toNat
  if c = '"' || c = '\\' then ['\\', c]
  else if 0x20 ≤ n && n ≤ 0x7e then [c]
  else if c = '\n' then ['\\', 'n']
  else if c = '\r' then ['\\', 'r']
  else if c = '\t' then ['\\', 't']
  else if n = 8 then ['\\', 'b']
  else if n = 12 then ['\\', 'f']
  else if n < 0x10000 then escapeUnit n
  else
    escapeUnit (0xd800 + (n - 0x10000) / 0x400) ++ escapeUnit (0xdc00 + (n - 0x10000) % 0x400)

/-- A string between quotes. -/
def printString (t : Text) : Text := '"' :: t.flatMap escapeChar ++ ['"']

/-- A line end and the indentation of a depth. -/
def newline (indent depth : Nat) : Text := '\n' :: List.replicate (indent * depth) ' '

mutual

/-- A value at a depth. -/
def printAt (indent depth : Nat) : Json → Text
  | null => "null".toList
  | bool true => "true".toList
  | bool false => "false".toList
  | int n => Text.ofInt n
  | real mantissa exponent => Text.ofInt mantissa ++ 'e' :: Text.ofInt exponent
  | str t => printString t
  | list [] => "[]".toList
  | list (item :: rest) =>
    '[' :: newline indent (depth + 1) ++ printAt indent (depth + 1) item ++
      printItems indent depth rest ++ newline indent depth ++ [']']
  | object [] => ['{', '}']
  | object ((key, value) :: rest) =>
    '{' :: newline indent (depth + 1) ++ printString key ++ ": ".toList ++
      printAt indent (depth + 1) value ++ printFields indent depth rest ++ newline indent depth ++
      ['}']

/-- Further items of a list. -/
def printItems (indent depth : Nat) : List Json → Text
  | [] => []
  | item :: rest =>
    ',' :: newline indent (depth + 1) ++ printAt indent (depth + 1) item ++
      printItems indent depth rest

/-- Further fields of an object. -/
def printFields (indent depth : Nat) : List (Text × Json) → Text
  | [] => []
  | (key, value) :: rest =>
    ',' :: newline indent (depth + 1) ++ printString key ++ ": ".toList ++
      printAt indent (depth + 1) value ++ printFields indent depth rest

end

/-- A value as text; a negative indentation counts as none. -/
def print (indent : Int) (value : Json) : Text := printAt indent.toNat 0 value

end Json

end ExportDocs
