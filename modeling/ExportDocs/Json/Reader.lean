/-
# ExportDocs.Json.Reader -- reading structured values

Each reader takes the text at its construct and returns the value with the text after it.  Values
nest, so reading goes by fuel; every level takes a character, and the length of the text is
enough.
-/
import ExportDocs.Json

namespace ExportDocs.Json

set_option autoImplicit false

/-- White space between values. -/
def isGap (c : Char) : Bool := c == ' ' || c == '\t' || c == '\n' || c == '\r'

/-- The text after white space. -/
def skipGap (t : Text) : Text := t.dropWhile isGap

/-- The value of a hexadecimal digit. -/
def hexValue? (c : Char) : Option Nat :=
  if c.isDigit then some (c.toNat - 48)
  else if 'a' ≤ c && c ≤ 'f' then some (c.toNat - 87)
  else if 'A' ≤ c && c ≤ 'F' then some (c.toNat - 55)
  else none

/-- Four hexadecimal digits and the text after them. -/
def readUnit : Text → Option (Nat × Text)
  | a :: b :: c :: d :: t => do
    let a ← hexValue? a
    let b ← hexValue? b
    let c ← hexValue? c
    let d ← hexValue? d
    return (((a * 16 + b) * 16 + c) * 16 + d, t)
  | _ => none

/-- The character that a letter after a backslash stands for. -/
def simpleEscape? : Char → Option Char
  | '"' => some '"'
  | '\\' => some '\\'
  | '/' => some '/'
  | 'b' => some '\x08'
  | 'f' => some '\x0c'
  | 'n' => some '\n'
  | 'r' => some '\r'
  | 't' => some '\t'
  | _ => none

/-- The character that sixteen-bit units stand for, and the text after it: two surrogates are one
character. -/
def readUnits (t : Text) : Option (Char × Text) := do
  let (high, rest) ← readUnit t
  let pair := match rest with
    | '\\' :: 'u' :: after =>
      if 0xd800 ≤ high && high ≤ 0xdbff then
        (readUnit after).filter fun (low, _) => 0xdc00 ≤ low && low ≤ 0xdfff
      else none
    | _ => none
  match pair with
  | some (low, after) =>
    return (Char.ofNat (0x10000 + (high - 0xd800) * 0x400 + (low - 0xdc00)), after)
  | none => return (Char.ofNat high, rest)

/-- A string after its opening quote. -/
def readString : Nat → Text → Option (Text × Text)
  | 0, _ => none
  | _, [] => none
  | fuel + 1, c :: t =>
    if c = '"' then some ([], t)
    else if c = '\\' then
      match t with
      | 'u' :: rest => do
        let (d, rest) ← readUnits rest
        let (text, rest) ← readString fuel rest
        return (d :: text, rest)
      | d :: rest => do
        let e ← simpleEscape? d
        let (text, rest) ← readString fuel rest
        return (e :: text, rest)
      | [] => none
    else if c.toNat < 0x20 then none
    else (readString fuel t).map fun (text, rest) => (c :: text, rest)

/-- The value of decimal digits. -/
def digitsValue (t : Text) : Nat := t.foldl (fun n c => 10 * n + (c.toNat - 48)) 0

/-- The exponent of a number and the text after it, if there is one. -/
def readExponent (t : Text) : Option (Int × Text) :=
  match t with
  | c :: rest =>
    if c = 'e' || c = 'E' then
      let (negative, rest) := match rest with
        | '-' :: rest => (true, rest)
        | '+' :: rest => (false, rest)
        | rest => (false, rest)
      let digits := rest.takeWhile Char.isDigit
      if digits.isEmpty then none
      else
        let n : Int := digitsValue digits
        some (if negative then -n else n, rest.drop digits.length)
    else none
  | [] => none

/-- A number without its sign. -/
def readNumber (sign : Int) (t : Text) : Option (Json × Text) :=
  let whole := match t with
    | '0' :: _ => ['0']
    | t => t.takeWhile Char.isDigit
  if whole.isEmpty then none
  else
    let rest := t.drop whole.length
    let places := match rest with
      | '.' :: fraction => fraction.takeWhile Char.isDigit
      | _ => []
    let rest := if places.isEmpty then rest else rest.drop (places.length + 1)
    let mantissa : Int := sign * digitsValue (whole ++ places)
    match readExponent rest with
    | some (exponent, rest) => some (.real mantissa (exponent - places.length), rest)
    | none =>
      if places.isEmpty then some (.int mantissa, rest)
      else some (.real mantissa (-places.length), rest)

/-- The words that are values.  The numbers that are none are read as a fraction. -/
def wordValues : List (String × Json) :=
  [("null", .null), ("true", .bool true), ("false", .bool false), ("NaN", .real 1 (-1)),
    ("Infinity", .real 1 (-1)), ("-Infinity", .real 1 (-1))]

/-- A word and the text after it. -/
def readWord (t : Text) : Option (Json × Text) :=
  wordValues.findSome? fun (word, value) =>
    (Text.dropHead? word.toList t).map fun rest => (value, rest)

mutual

/-- A value at the start of a text. -/
def readValue : Nat → Text → Option (Json × Text)
  | 0, _ => none
  | fuel + 1, t =>
    match t with
    | '"' :: rest => (readString (rest.length + 1) rest).map fun (text, rest) => (.str text, rest)
    | '[' :: rest =>
      match skipGap rest with
      | ']' :: rest => some (.list [], rest)
      | rest => (readItems fuel rest).map fun (items, rest) => (.list items, rest)
    | '{' :: rest =>
      match skipGap rest with
      | '}' :: rest => some (.object [], rest)
      | rest => (readFields fuel rest).map fun (fields, rest) => (.object fields, rest)
    | t =>
      (readWord t).or <| match t with
        | '-' :: rest => readNumber (-1) rest
        | t => readNumber 1 t
termination_by structural fuel => fuel

/-- The items of a list that is not empty. -/
def readItems : Nat → Text → Option (List Json × Text)
  | 0, _ => none
  | fuel + 1, t => do
    let (item, rest) ← readValue fuel t
    match skipGap rest with
    | ']' :: rest => return ([item], rest)
    | ',' :: rest =>
      let (items, rest) ← readItems fuel (skipGap rest)
      return (item :: items, rest)
    | _ => none
termination_by structural fuel => fuel

/-- The fields of an object that is not empty. -/
def readFields : Nat → Text → Option (List (Text × Json) × Text)
  | 0, _ => none
  | fuel + 1, t =>
    match t with
    | '"' :: rest => do
      let (key, rest) ← readString (rest.length + 1) rest
      match skipGap rest with
      | ':' :: rest =>
        let (value, rest) ← readValue fuel (skipGap rest)
        match skipGap rest with
        | '}' :: rest => return ([(key, value)], rest)
        | ',' :: rest =>
          let (fields, rest) ← readFields fuel (skipGap rest)
          return ((key, value) :: fields, rest)
        | _ => none
      | _ => none
    | _ => none
termination_by structural fuel => fuel

end

/-- Reads a value that is the whole text. -/
def read? (t : Text) : Option Json :=
  match readValue (2 * t.length + 2) (skipGap t) with
  | some (value, rest) => if (skipGap rest).isEmpty then some value else none
  | none => none

end ExportDocs.Json
