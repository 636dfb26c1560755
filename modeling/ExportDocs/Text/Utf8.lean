/-
# ExportDocs.Text.Utf8 -- texts as bytes

`encode` writes a text as UTF-8.  `decode` accepts exactly well-formed UTF-8; for anything else it
says which bytes are wrong: the longest beginning of a sequence that could still have become one.

Code points that are no characters cannot be encoded, so a list with such a one is no text
(`ofCodes?`).
-/
import ExportDocs.Text.Percent

namespace ExportDocs.Text

set_option autoImplicit false

/-- Why bytes are not UTF-8. -/
inductive DecodeReason where
  | startByte
  | continuationByte
  | endOfData
  deriving DecidableEq, Repr, Inhabited

/-- Bytes that are not UTF-8: the position of the first, their number and the first itself. -/
structure DecodeFault where
  position : Nat
  length : Nat
  byte : Nat
  reason : DecodeReason
  deriving DecidableEq, Repr, Inhabited

/-- Code points that are no characters: the position of the first, how many stand there together and
the first itself. -/
structure EncodeFault where
  position : Nat
  length : Nat
  code : Nat
  deriving DecidableEq, Repr, Inhabited

/-- The first code points of a list that are no characters. -/
def EncodeFault.ofCodes (codes : List Nat) : EncodeFault :=
  let position := (codes.takeWhile fun code => code.isValidChar).length
  let wrong := (codes.drop position).takeWhile fun code => !decide code.isValidChar
  { position, length := wrong.length, code := wrong.headD 0 }

/-- The text with the given code points, if they all are characters. -/
def ofCodes? (codes : List Nat) : Option Text :=
  codes.mapM fun code => if code.isValidChar then some (Char.ofNat code) else none

/-- The bytes of a text. -/
def encode (t : Text) : List Nat := t.flatMap utf8Bytes

/-- The ranges of the bytes after a start byte, and the bits that the start byte holds. -/
def sequenceShape (b : Nat) : Option (Nat × List (Nat × Nat)) :=
  let rest := (0x80, 0xbf)
  if b < 0x80 then some (b, [])
  else if 0xc2 ≤ b && b ≤ 0xdf then some (b - 0xc0, [rest])
  else if b = 0xe0 then some (0, [(0xa0, 0xbf), rest])
  else if b = 0xed then some (0xd, [(0x80, 0x9f), rest])
  else if 0xe1 ≤ b && b ≤ 0xef then some (b - 0xe0, [rest, rest])
  else if b = 0xf0 then some (0, [(0x90, 0xbf), rest, rest])
  else if 0xf1 ≤ b && b ≤ 0xf3 then some (b - 0xf0, [rest, rest, rest])
  else if b = 0xf4 then some (4, [(0x80, 0x8f), rest, rest])
  else none

/-- Reads the bytes after a start byte: the code point, or the number of bytes that were right and
the reason why the next is not. -/
def readContinuation (value : Nat) : List (Nat × Nat) → List Nat → Nat ⊕ Nat × DecodeReason
  | [], _ => .inl value
  | _ :: _, [] => .inr (0, .endOfData)
  | (low, high) :: ranges, b :: bytes =>
    if low ≤ b && b ≤ high then
      match readContinuation (64 * value + (b - 0x80)) ranges bytes with
      | .inl value => .inl value
      | .inr (n, reason) => .inr (n + 1, reason)
    else .inr (0, .continuationByte)

/-- Reads bytes from a position on. -/
def decodeFrom (position : Nat) : List Nat → Except DecodeFault Text
  | [] => .ok []
  | b :: bytes =>
    match sequenceShape b with
    | none => .error { position, length := 1, byte := b, reason := .startByte }
    | some (value, ranges) =>
      match readContinuation value ranges bytes with
      | .inr (n, reason) => .error { position, length := n + 1, byte := b, reason }
      | .inl value => do
        let rest ← decodeFrom (position + 1 + ranges.length) (bytes.drop ranges.length)
        return Char.ofNat value :: rest
termination_by bytes => bytes.length

/-- The text that bytes stand for. -/
def decode (bytes : List Nat) : Except DecodeFault Text := decodeFrom 0 bytes

end ExportDocs.Text
