/-
# ExportDocs.Text.Percent -- percent-encoding

The UTF-8 bytes of a character that is neither unreserved nor in the given set of safe characters
are written as a percent sign and two hexadecimal digits.
-/
import ExportDocs.Text

namespace ExportDocs.Text

set_option autoImplicit false

/-- The UTF-8 bytes of a character. -/
def utf8Bytes (c : Char) : List Nat :=
  let n := c.toNat
  if n < 0x80 then [n]
  else if n < 0x800 then [0xc0 + n / 0x40, 0x80 + n % 0x40]
  else if n < 0x10000 then [0xe0 + n / 0x1000, 0x80 + n / 0x40 % 0x40, 0x80 + n % 0x40]
  else [0xf0 + n / 0x40000, 0x80 + n / 0x1000 % 0x40, 0x80 + n / 0x40 % 0x40, 0x80 + n % 0x40]

/-- A hexadecimal digit in upper case. -/
def hexDigitUpper (n : Nat) : Char := (Nat.digitChar n).toUpper

/-- A byte as a percent sign and two digits. -/
def percentByte (b : Nat) : Text := ['%', hexDigitUpper (b / 16), hexDigitUpper (b % 16)]

/-- A character that is never encoded. -/
def isUnreserved (c : Char) : Bool := c.isAlphanum || c == '_' || c == '.' || c == '-' || c == '~'

/-- The text with everything but unreserved and safe characters encoded. -/
def percentEncode (safe : List Char) (t : Text) : Text :=
  t.flatMap fun c =>
    if isUnreserved c || safe.contains c then [c] else (utf8Bytes c).flatMap percentByte

end ExportDocs.Text
