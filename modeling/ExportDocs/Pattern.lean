/-
# ExportDocs.Pattern -- patterns that are searched in names

A pattern is matched from a place in a text: it gives every place it can lead to, the preferred one
first (`run`).  A place remembers the characters on both sides and what the groups have captured,
so anchors, boundaries, references and assertions are conditions on places.

An optional repetition of a pattern must take a character, so the number of repetitions is bounded
by the text that is left.
-/
import ExportDocs.Text.Blank
import ExportDocs.Text.Case
import ExportDocs.Text.Word

namespace ExportDocs

set_option autoImplicit false

/-- A class of characters. -/
inductive CharClass where
  | digit
  | blank
  | word
  deriving DecidableEq, Repr, Inhabited

/-- Whether a character belongs to a class. -/
def CharClass.has : CharClass → Char → Bool
  | .digit => Text.isDecimal
  | .blank => Text.isBlank
  | .word => Text.isWord

/-- An item of a set of characters. -/
inductive SetItem where
  | char (c : Char)
  | range (low high : Char)
  | ofClass (is : CharClass) (negated : Bool)
  deriving DecidableEq, Repr, Inhabited

/-- Whether an item holds a character. -/
def SetItem.has (c : Char) : SetItem → Bool
  | .char d => c == d
  | .range low high => low.toNat ≤ c.toNat && c.toNat ≤ high.toNat
  | .ofClass is negated => is.has c != negated

/-- Where a pattern holds without taking a character. -/
inductive Anchor where
  /-- The start of the text, or of any line. -/
  | start (everyLine : Bool)
  /-- The end of the text, before a last line end too, or the end of any line. -/
  | stop (everyLine : Bool)
  /-- The very end of the text. -/
  | veryEnd
  /-- Between a word character and another, or not; nowhere in an empty text. -/
  | boundary (negated : Bool)
  deriving DecidableEq, Repr, Inhabited

/-- How a repetition prefers its lengths. -/
inductive Greed where
  | greedy
  | lazy
  /-- The longest only. -/
  | possessive
  deriving DecidableEq, Repr, Inhabited

/-- A pattern.  `fold` says that case does not count. -/
inductive Pattern where
  | empty
  | fail
  | char (c : Char) (fold : Bool)
  /-- Any character, a line end only if `everything` says so. -/
  | any (everything : Bool)
  | set (items : List SetItem) (negated fold : Bool)
  | anchor (anchor : Anchor)
  | seq (first second : Pattern)
  | alt (first second : Pattern)
  /-- A group that captures under a number. -/
  | group (number : Nat) (inside : Pattern)
  | reference (number : Nat) (fold : Bool)
  | repetition (least : Nat) (most : Option Nat) (greed : Greed) (inside : Pattern)
  /-- What follows. -/
  | ahead (negated : Bool) (inside : Pattern)
  /-- What stands before, of a fixed length. -/
  | behind (negated : Bool) (length : Nat) (inside : Pattern)
  /-- The preferred way only. -/
  | atomic (inside : Pattern)
  deriving Repr, Inhabited

/-- A place in a text: the characters before it, last first, those after it, and what the groups
have captured. -/
structure Place where
  before : Text
  after : Text
  captured : List (Nat × Text) := []
  deriving DecidableEq, Repr, Inhabited

namespace Place

/-- The place after one more character, if it satisfies a condition. -/
def advance (p : Char → Bool) (place : Place) : List Place :=
  match place.after with
  | c :: rest => if p c then [{ place with before := c :: place.before, after := rest }] else []
  | [] => []

/-- The place after `n` more characters. -/
def skip (n : Nat) (place : Place) : Place :=
  { place with
    before := (place.after.take n).reverse ++ place.before
    after := place.after.drop n }

/-- The place `n` characters back. -/
def back (n : Nat) (place : Place) : Place :=
  { place with
    before := place.before.drop n
    after := (place.before.take n).reverse ++ place.after }

/-- Whether one of the neighbouring characters is a word character and the other is not. -/
def atBoundary (place : Place) : Bool :=
  place.before.head?.any Text.isWord != place.after.head?.any Text.isWord

end Place

/-- Whether an anchor holds at a place. -/
def Anchor.holds (place : Place) : Anchor → Bool
  | .start everyLine => place.before.isEmpty || (everyLine && place.before.head? == some '\n')
  | .stop everyLine =>
    place.after.isEmpty || place.after == ['\n'] || (everyLine && place.after.head? == some '\n')
  | .veryEnd => place.after.isEmpty
  | .boundary negated =>
    !(place.before.isEmpty && place.after.isEmpty) && place.atBoundary != negated

/-- A character without its case. -/
def foldCase (c : Char) : Char := ((Text.lower [c]).head?).getD c

/-- A capital for a character, if there is a single one. -/
def capital (c : Char) : Char :=
  match Text.upper [c] with
  | [d] => d
  | _ => c

/-- Whether a set holds a character. -/
def setHas (items : List SetItem) (fold : Bool) (c : Char) : Bool :=
  items.any (SetItem.has c) ||
    (fold && (items.any (SetItem.has (foldCase c)) || items.any (SetItem.has (capital c))))

/-- The places after a text, if it stands at a place. -/
def afterText (fold : Bool) (t : Text) (place : Place) : List Place :=
  let there := place.after.take t.length
  if there == t || (fold && there.map foldCase == t.map foldCase) then [place.skip t.length] else []

/-- Repeats a step any number of times up to `most`; each repetition takes a character. -/
def repeatOptional (step : Place → List Place) (isLazy : Bool) :
    Nat → Option Nat → Place → List Place
  | _, some 0, place => [place]
  | 0, _, place => [place]
  | fuel + 1, most, place =>
    let further := ((step place).filter fun next => next.after.length < place.after.length).flatMap
      (repeatOptional step isLazy fuel (most.map (· - 1)))
    if isLazy then place :: further else further ++ [place]

/-- Repeats a step at least `least` and at most `most` times. -/
def repeatStep (step : Place → List Place) (isLazy : Bool) (most : Option Nat) :
    Nat → Place → List Place
  | 0, place => repeatOptional step isLazy place.after.length most place
  | least + 1, place =>
    (step place).flatMap (repeatStep step isLazy (most.map (· - 1)) least)

namespace Pattern

/-- The places that a pattern leads to, the preferred one first. -/
def run : Pattern → Place → List Place
  | empty, place => [place]
  | fail, _ => []
  | char c fold, place => place.advance fun d => d == c || (fold && foldCase d == foldCase c)
  | any everything, place => place.advance fun d => everything || d != '\n'
  | set items negated fold, place => place.advance fun d => setHas items fold d != negated
  | anchor condition, place => if condition.holds place then [place] else []
  | seq first second, place => (first.run place).flatMap second.run
  | alt first second, place => first.run place ++ second.run place
  | group number inside, place =>
    (inside.run place).map fun next =>
      let text := place.after.take (place.after.length - next.after.length)
      { next with captured := (number, text) :: next.captured }
  | reference number fold, place =>
    match place.captured.lookup number with
    | some text => afterText fold text place
    | none => []
  | repetition least most greed inside, place =>
    let places := repeatStep inside.run (greed == .lazy) most least place
    if greed == .possessive then places.take 1 else places
  | ahead negated inside, place =>
    match inside.run place with
    | [] => if negated then [place] else []
    | found :: _ => if negated then [] else [{ place with captured := found.captured }]
  | behind negated length inside, place =>
    match if length ≤ place.before.length then inside.run (place.back length) else [] with
    | [] => if negated then [place] else []
    | found :: _ => if negated then [] else [{ place with captured := found.captured }]
  | atomic inside, place => (inside.run place).take 1

/-- Whether a pattern matches somewhere after a place. -/
def findFrom (pattern : Pattern) (before : Text) : Text → Bool
  | [] => !(pattern.run { before, after := [] }).isEmpty
  | c :: t => !(pattern.run { before, after := c :: t }).isEmpty || pattern.findFrom (c :: before) t

/-- Whether a pattern matches somewhere in a text. -/
def find (pattern : Pattern) (text : Text) : Bool := pattern.findFrom [] text

/-- The least and the greatest number of characters that a pattern takes; `captured` are the widths
of the groups.  No greatest number means that there is none. -/
def width (captured : List (Nat × Nat × Option Nat)) : Pattern → Nat × Option Nat
  | empty => (0, some 0)
  | fail => (0, some 0)
  | char .. => (1, some 1)
  | any _ => (1, some 1)
  | set .. => (1, some 1)
  | anchor _ => (0, some 0)
  | seq first second =>
    let (a, b) := first.width captured
    let (c, d) := second.width captured
    (a + c, do return (← b) + (← d))
  | alt first second =>
    let (a, b) := first.width captured
    let (c, d) := second.width captured
    (min a c, do return max (← b) (← d))
  | group _ inside => inside.width captured
  | reference number _ => (captured.lookup number).getD (0, none)
  | repetition least most _ inside =>
    let (a, b) := inside.width captured
    (least * a, do return (← most) * (← b))
  | ahead .. => (0, some 0)
  | behind .. => (0, some 0)
  | atomic inside => inside.width captured

end Pattern

end ExportDocs
