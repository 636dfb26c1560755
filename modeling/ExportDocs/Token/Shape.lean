/-
# ExportDocs.Token.Shape -- the shapes of lexemes

Each function measures one shape: given a text, it returns the length of the lexeme of that shape
at its start, or nothing.  No shape is empty.
-/
import ExportDocs.Text.Blank
import ExportDocs.Text.Identifier

namespace ExportDocs.Shape

set_option autoImplicit false

/-- The length of the longest run of characters in a class at the start. -/
def run (p : Char → Bool) (t : Text) : Nat := (t.takeWhile p).length

/-- A length that must not be zero. -/
def positive : Nat → Option Nat
  | 0 => none
  | n + 1 => some (n + 1)

/-- A run of at least one character. -/
def someRun (p : Char → Bool) (t : Text) : Option Nat := positive (run p t)

/-- A fixed spelling. -/
def exactly (word t : Text) : Option Nat := if Text.startsWith t word then positive word.length else none

/-- An ASCII digit. -/
def isAsciiDigit (c : Char) : Bool := '0' ≤ c && c ≤ '9'

/-- An ASCII letter. -/
def isAsciiLetter (c : Char) : Bool := ('a' ≤ c && c ≤ 'z') || ('A' ≤ c && c ≤ 'Z')

/-- A hexadecimal digit. -/
def isHexDigit (c : Char) : Bool :=
  isAsciiDigit c || ('a' ≤ c && c ≤ 'f') || ('A' ≤ c && c ≤ 'F')

/-! ## White space and comments -/

/-- White space. -/
def blanks (t : Text) : Option Nat := someRun Text.isBlank t

/-- The opening of an HTML comment. -/
def htmlComment (t : Text) : Option Nat := exactly "<!--".toList t

/-- The rest of the current line. -/
def lineRest (t : Text) : Nat := run (· != '\n') t

/-- A comment from two slashes to the end of the line. -/
def lineComment (t : Text) : Option Nat :=
  if Text.startsWith t "//".toList then some (lineRest t) else none

/-- A comment between its two delimiters. -/
def blockComment : Text → Option Nat
  | '/' :: '*' :: t =>
    (Text.breakOn "*/".toList t).map fun (inside, _) => 2 + inside.length + 2
  | _ => none

/-- The first line of an executable source. -/
def hashbang (t : Text) : Option Nat :=
  if Text.startsWith t "#!/".toList || Text.startsWith t "#! /".toList then some (lineRest t)
  else none

/-! ## Regular expressions -/

/-- The length of a regular expression's body with its closing slash.  In a character class a
slash does not close; `empty` says that nothing has been read yet. -/
def regexBody (inClass empty : Bool) : Text → Option Nat
  | [] => none
  | '\\' :: [] => none
  | '\\' :: _ :: t => (regexBody inClass false t).map (· + 2)
  | c :: t =>
    if c = '\n' then none
    else if inClass then (regexBody (c != ']') false t).map (· + 1)
    else if c = '/' then (if empty then none else some 1)
    else (regexBody (c == '[') false t).map (· + 1)

/-- A flag of a regular expression. -/
def isRegexFlag (c : Char) : Bool := "gimuysd".toList.contains c

/-- The length of the flags after a regular expression.  A word character that is no flag must not
follow. -/
def regexFlags (t : Text) : Option Nat :=
  match t.dropWhile isRegexFlag with
  | [] => some (run isRegexFlag t)
  | c :: _ => if Text.isWord c then none else some (run isRegexFlag t)

/-- A regular expression with its flags. -/
def regex : Text → Option Nat
  | '/' :: t => do
    let body ← regexBody false true t
    let flags ← regexFlags (t.drop body)
    return 1 + body + flags
  | _ => none

/-! ## Numbers -/

/-- The length of the suffix of a big integer. -/
def bigSuffix : Text → Nat
  | 'n' :: _ => 1
  | _ => 0

/-- Digits of some base after a head of `skip` characters, with an optional suffix. -/
def basedDigits (skip : Nat) (isBaseDigit : Char → Bool) (t : Text) : Option Nat :=
  (someRun isBaseDigit (t.drop skip)).map fun n => skip + n + bigSuffix (t.drop (skip + n))

/-- A binary number. -/
def binary : Text → Option Nat
  | '0' :: c :: t =>
    if c = 'b' || c = 'B' then basedDigits 2 (fun d => d == '0' || d == '1') ('0' :: c :: t)
    else none
  | _ => none

/-- An octal number, with or without the letter. -/
def octal : Text → Option Nat
  | '0' :: c :: t =>
    basedDigits (if c = 'o' || c = 'O' then 2 else 1) (fun d => '0' ≤ d && d ≤ '7') ('0' :: c :: t)
  | _ => none

/-- A hexadecimal number. -/
def hexadecimal : Text → Option Nat
  | '0' :: c :: t =>
    if c = 'x' || c = 'X' then basedDigits 2 isHexDigit ('0' :: c :: t) else none
  | _ => none

/-- A big integer. -/
def bigInteger (t : Text) : Option Nat := do
  let digits ← someRun isAsciiDigit t
  if bigSuffix (t.drop digits) = 1 then some (digits + 1) else none

/-- The length of an exponent, zero if there is none. -/
def exponent : Text → Nat
  | c :: t =>
    if c = 'e' || c = 'E' then
      match t with
      | s :: u =>
        if s = '+' || s = '-' then
          match someRun isAsciiDigit u with
          | some n => n + 2
          | none => 0
        else match someRun isAsciiDigit t with
          | some n => n + 1
          | none => 0
      | [] => 0
    else 0
  | [] => 0

/-- The part of a number before its exponent. -/
def mantissa : Text → Option Nat
  | '.' :: t => (someRun isAsciiDigit t).map (· + 1)
  | t => do
    let whole ← someRun isAsciiDigit t
    match t.drop whole with
    | '.' :: fraction => some (whole + 1 + run isAsciiDigit fraction)
    | _ => some whole

/-- A number in decimal notation. -/
def number (t : Text) : Option Nat :=
  (mantissa t).map fun n => n + exponent (t.drop n)

/-! ## Punctuation and operators -/

/-- The ellipsis or the arrow. -/
def longPunctuation (t : Text) : Option Nat :=
  (exactly "...".toList t).or (exactly "=>".toList t)

/-- The length of a sign that an equals sign may follow. -/
def assignable : Text → Option Nat
  | '<' :: '<' :: _ => some 2
  | '>' :: '>' :: '>' :: _ => some 3
  | '>' :: '>' :: _ => some 2
  | '=' :: '=' :: _ => some 2
  | '!' :: '=' :: _ => some 2
  | '*' :: '*' :: _ => some 2
  | '|' :: '|' :: _ => some 2
  | '&' :: '&' :: _ => some 2
  | c :: _ => if "=!-<>+*%&|^/".toList.contains c then some 1 else none
  | [] => none

/-- An operator. -/
def operator : Text → Option Nat
  | '+' :: '+' :: _ => some 2
  | '-' :: '-' :: _ => some 2
  | '~' :: _ => some 1
  | '?' :: '?' :: '=' :: _ => some 3
  | '?' :: '?' :: _ => some 2
  | '?' :: _ => some 1
  | ':' :: _ => some 1
  | '\\' :: '\n' :: _ => some 1
  | t => (assignable t).map fun n => if (t.drop n).head? = some '=' then n + 1 else n

/-- Punctuation after which an operand may follow. -/
def opening : Text → Option Nat
  | c :: _ => if "\x7b([;,".toList.contains c then some 1 else none
  | [] => none

/-- Punctuation after which no operand follows. -/
def closing : Text → Option Nat
  | c :: _ => if "\x7d)].".toList.contains c then some 1 else none
  | [] => none

/-! ## Names and strings -/

/-- A name called with no arguments before a block. -/
def calledName : Text → Option Nat
  | c :: t =>
    let n := run (fun d => Text.isWord d || d == '?' || d == '.' || d == '$') t
    if (isAsciiLetter c || "_?.$".toList.contains c) && Text.startsWith (t.drop n) "() \x7b".toList
    then some (n + 1) else none
  | [] => none

/-- The length of the characters that continue an identifier. -/
def identifierRest : Text → Nat
  | '\\' :: 'u' :: a :: b :: c :: d :: t =>
    if isHexDigit a && isHexDigit b && isHexDigit c && isHexDigit d then identifierRest t + 6 else 0
  | c :: t => if Text.isIdentPart c then identifierRest t + 1 else 0
  | [] => 0

/-- An identifier, in which a character may be written as an escape. -/
def identifier : Text → Option Nat
  | '\\' :: 'u' :: a :: b :: c :: d :: t =>
    if isHexDigit a && isHexDigit b && isHexDigit c && isHexDigit d then some (identifierRest t + 6)
    else none
  | c :: t => if Text.isIdentStart c then some (identifierRest t + 1) else none
  | [] => none

/-- The length of a string's contents with its closing quote. -/
def stringBody (quote : Char) : Text → Option Nat
  | [] => none
  | '\\' :: [] => none
  | '\\' :: _ :: t => (stringBody quote t).map (· + 2)
  | c :: t => if c = quote then some 1 else (stringBody quote t).map (· + 1)

/-- A string between two quotes, line ends and escaped characters included. -/
def quotedString (quote : Char) : Text → Option Nat
  | c :: t => if c = quote then (stringBody quote t).map (· + 1) else none
  | [] => none

/-- A private name. -/
def privateName : Text → Option Nat
  | '#' :: c :: t => if isAsciiLetter c || c = '_' then some (run Text.isWord t + 2) else none
  | _ => none

end ExportDocs.Shape
