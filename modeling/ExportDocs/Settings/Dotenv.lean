/-
# ExportDocs.Settings.Dotenv -- files of named values

A line names a value: a key, perhaps after the word `export`, an equals sign and the value, which
may stand between quotes.  A hash starts a comment.  A line that cannot be read is passed over.
-/
import ExportDocs.Text.Blank

namespace ExportDocs.Dotenv

set_option autoImplicit false

/-- A key with its value; a key without an equals sign has none. -/
abbrev Binding := Text × Option Text

/-- The end of a line. -/
def isLineEnd (c : Char) : Bool := c == '\n' || c == '\r'

/-- White space inside a line. -/
def isGap (c : Char) : Bool := Text.isBlank c && !isLineEnd c

/-- The text after the word `export` and the white space after it. -/
def skipExport (t : Text) : Text :=
  match Text.dropHead? "export".toList t with
  | some (c :: rest) => if isGap c then rest.dropWhile isGap else t
  | _ => t

/-- A text in quotes after the opening one, as it is written, and the text after the closing one.
A quote after a backslash closes only if no other does. -/
def readQuoted (quote : Char) : Text → Option (Text × Text)
  | [] => none
  | '\\' :: d :: t =>
    if d = quote then
      match readQuoted quote t with
      | some (text, after) => some ('\\' :: d :: text, after)
      | none => some (['\\'], t)
    else (readQuoted quote (d :: t)).map fun (text, after) => ('\\' :: text, after)
  | c :: t =>
    if c = quote then some ([], t)
    else (readQuoted quote t).map fun (text, after) => (c :: text, after)

/-- The character that a letter after a backslash stands for between double quotes. -/
def doubleEscape? : Char → Option Char
  | '\\' => some '\\'
  | '\'' => some '\''
  | '"' => some '"'
  | 'a' => some '\x07'
  | 'b' => some '\x08'
  | 'f' => some '\x0c'
  | 'n' => some '\n'
  | 'r' => some '\r'
  | 't' => some '\t'
  | 'v' => some '\x0b'
  | _ => none

/-- The character that a letter after a backslash stands for between single quotes. -/
def singleEscape? : Char → Option Char
  | '\\' => some '\\'
  | '\'' => some '\''
  | _ => none

/-- The text with its escapes replaced. -/
def unescape (escape? : Char → Option Char) : Text → Text
  | '\\' :: c :: t =>
    match escape? c with
    | some d => d :: unescape escape? t
    | none => '\\' :: unescape escape? (c :: t)
  | c :: t => c :: unescape escape? t
  | [] => []

/-- The text before white space and a hash. -/
def beforeComment : Text → Text
  | [] => []
  | c :: t =>
    if Text.isBlank c && (t.dropWhile Text.isBlank).head? == some '#' then []
    else c :: beforeComment t

/-- The key at the start of a line and the text after it; a comment has no key. -/
def readKey (t : Text) : Option (Option Text × Text) :=
  match t with
  | '#' :: _ => some (none, t)
  | '\'' :: rest =>
    let key := rest.takeWhile (· != '\'')
    match rest.drop key.length with
    | '\'' :: after => if key.isEmpty then none else some (some key, after)
    | _ => none
  | t =>
    let key := t.takeWhile fun c => !(c == '=' || c == '#' || Text.isBlank c)
    if key.isEmpty then none else some (some key, t.drop key.length)

/-- The value after an equals sign and the text after it. -/
def readValue (t : Text) : Option (Text × Text) :=
  match t with
  | '\'' :: rest => (readQuoted '\'' rest).map fun (text, after) =>
      (unescape singleEscape? text, after)
  | '"' :: rest => (readQuoted '"' rest).map fun (text, after) =>
      (unescape doubleEscape? text, after)
  | t =>
    let line := t.takeWhile (!isLineEnd ·)
    some (Text.stripEnd (beforeComment line), t.drop line.length)

/-- The text after a comment and the end of the line. -/
def readLineEnd (t : Text) : Option Text :=
  let rest := t.dropWhile isGap
  let rest := if rest.head? == some '#' then rest.dropWhile (!isLineEnd ·) else rest
  match rest with
  | [] => some []
  | '\r' :: '\n' :: after => some after
  | c :: after => if isLineEnd c then some after else none

/-- The text after the rest of a line. -/
def skipLine (t : Text) : Text := (t.dropWhile (!isLineEnd ·)).drop 1

/-- Reads one binding; returns it and the text after its line.  What cannot be read is given up to
the end of the line. -/
def readBinding (t : Text) : Option Binding × Text :=
  match readKey (skipExport t) with
  | none => (none, skipLine (skipExport t))
  | some (key, rest) =>
    let rest := rest.dropWhile isGap
    let valued := match rest with
      | '=' :: after =>
        match readValue (after.dropWhile isGap) with
        | some (value, after) => (some (some value), after)
        | none => (none, after.dropWhile isGap)
      | rest => (some none, rest)
    match valued with
    | (none, rest) => (none, skipLine rest)
    | (some value, rest) =>
      match readLineEnd rest with
      | some after => (key.map fun key => (key, value), after)
      | none => (none, skipLine rest)

/-- Reads at most `fuel` bindings. -/
def readAll : Nat → Text → List Binding
  | 0, _ => []
  | fuel + 1, t =>
    match t.dropWhile Text.isBlank with
    | [] => []
    | rest =>
      match readBinding rest with
      | (some binding, after) => binding :: readAll fuel after
      | (none, after) => readAll fuel after

/-- The bindings of a file, in order. -/
def read (t : Text) : List Binding := readAll (t.length + 1) t

end ExportDocs.Dotenv
