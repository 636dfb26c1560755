/-
# ExportDocs.Text -- texts as lists of characters

A text is the list of its characters, so every reader of a text is a recursion on a list and every
statement about it an induction.  This module holds the operations that need no character table:
comparison with a beginning or an end, cutting at a separator, search and replacement.

Search goes by `breakOn`, which returns what stands before the first occurrence and what stands
after it.
-/
namespace ExportDocs

set_option autoImplicit false

/-- A text is the list of its characters. -/
abbrev Text := List Char

namespace Text

/-- Whether `t` begins with `head`. -/
def startsWith (t head : Text) : Bool := head.isPrefixOf t

/-- Whether `t` ends with `tail`. -/
def endsWith (t tail : Text) : Bool := tail.isSuffixOf t

/-- What follows `head` in `t`, if `t` begins with it. -/
def dropHead? : (head t : Text) → Option Text
  | [], t => some t
  | _ :: _, [] => none
  | c :: head, d :: t => if c = d then dropHead? head t else none

/-- The parts joined with `separator` between neighbours. -/
def joinWith (separator : Text) : List Text → Text
  | [] => []
  | [t] => t
  | t :: u :: rest => t ++ separator ++ joinWith separator (u :: rest)

/-- The pieces between the occurrences of one character: one more than there are occurrences. -/
def splitAtChar (c : Char) : Text → List Text
  | [] => [[]]
  | d :: t =>
    if d = c then [] :: splitAtChar c t
    else match splitAtChar c t with
      | [] => [[d]]
      | piece :: rest => (d :: piece) :: rest

/-- The text before the first occurrence of `needle` and the text after it. -/
def breakOn (needle : Text) : Text → Option (Text × Text)
  | [] => if needle.isEmpty then some ([], []) else none
  | c :: t =>
    match dropHead? needle (c :: t) with
    | some rest => some ([], rest)
    | none => (breakOn needle t).map fun (before, rest) => (c :: before, rest)

/-- Every `c` replaced by the text `substitute`. -/
def replaceChar (c : Char) (substitute : Text) (t : Text) : Text :=
  t.flatMap fun d => if d = c then substitute else [d]

/-- Both ends freed of the characters that satisfy `drop`. -/
def trimBoth (drop : Char → Bool) (t : Text) : Text :=
  ((t.dropWhile drop).reverse.dropWhile drop).reverse

/-- The end freed of the characters that satisfy `drop`. -/
def trimEnd (drop : Char → Bool) (t : Text) : Text := (t.reverse.dropWhile drop).reverse

/-- Up to `n` leading characters that satisfy `drop` removed. -/
def dropUpTo (drop : Char → Bool) : Nat → Text → Text
  | n + 1, c :: t => if drop c then dropUpTo drop n t else c :: t
  | _, t => t

/-- A natural number in decimal. -/
def ofNat (n : Nat) : Text := Nat.toDigits 10 n

/-- An integer in decimal, with a minus sign if it is negative. -/
def ofInt : Int → Text
  | .ofNat n => ofNat n
  | .negSucc n => '-' :: ofNat (n + 1)

/-- The order of texts by the code points of their characters, a beginning before the whole. -/
def le : Text → Text → Bool
  | [], _ => true
  | _ :: _, [] => false
  | c :: t, d :: u => c.toNat < d.toNat || (c == d && le t u)

end Text

end ExportDocs
