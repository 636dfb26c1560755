/-
# ExportDocs.Markdown.Inline.Emphasis -- pairing the marks of emphasis

Runs of asterisks and underscores in live texts are delimiters.  The characters on both sides of a
run decide whether it can open and close emphasis (`canOpen`, `canClose`).  Closers are taken from
left to right; each looks for the nearest opener to its left, and a pair encloses what stands
between (`Pairing.step`).  A search that failed is not repeated over the same delimiters for a
closer of the same family (`Pairing.bottoms`).

Each match shortens two runs, so the number of steps is bounded by the lengths and the number of
the delimiters (`Pairing.fuel`).
-/
import ExportDocs.Markdown.Inline.Piece
import ExportDocs.Text.Word

namespace ExportDocs.Markdown

set_option autoImplicit false

/-- Punctuation for the rules of emphasis: neither white space nor a letter or a number. -/
def isEmphasisPunctuation (c : Char) : Bool := !Text.isBlank c && !Text.isAlnum c

/-- An underscore inside a word marks nothing. -/
def insideWord (marker previous next : Char) : Bool :=
  marker == '_' && Text.isAlnum previous && Text.isAlnum next

/-- Whether a run between two characters can open emphasis. -/
def canOpen (marker previous next : Char) : Bool :=
  !insideWord marker previous next && !Text.isBlank next &&
    !(isEmphasisPunctuation next && !Text.isBlank previous && !isEmphasisPunctuation previous)

/-- Whether a run between two characters can close emphasis. -/
def canClose (marker previous next : Char) : Bool :=
  !insideWord marker previous next && !Text.isBlank previous &&
    !(isEmphasisPunctuation previous && !Text.isBlank next && !isEmphasisPunctuation next)

/-- A run of marks: the index of its part, how much of it is left, and what it can do. -/
structure Delimiter where
  index : Nat
  marker : Char
  length : Nat
  full : Nat
  canOpen : Bool
  canClose : Bool
  deriving DecidableEq, Repr, Inhabited

namespace Delimiter

/-- Whether the lengths of two runs let them match: a run that can do both must not make a sum that
is a multiple of three, unless both lengths are. -/
def fits (opener closer : Delimiter) : Bool :=
  if opener.canClose || closer.canOpen then
    (opener.full + closer.full) % 3 != 0 || (opener.full % 3 == 0 && closer.full % 3 == 0)
  else true

/-- What two closers have in common when they can match the same openers. -/
abbrev Family := Char × Nat × Bool

/-- The family of a closer. -/
def family (closer : Delimiter) : Family := (closer.marker, closer.length % 3, closer.canOpen)

/-- The run after `n` marks of it have been used. -/
def use (delimiter : Delimiter) (n : Nat) : Delimiter :=
  { delimiter with
    length := delimiter.length - n
    canOpen := delimiter.canOpen && delimiter.length - n != 0
    canClose := delimiter.canClose && delimiter.length - n != 0 }

end Delimiter

/-! ## Cutting texts into parts -/

/-- The parts of a paragraph and the delimiters among them, both last first. -/
structure Parts where
  parts : List Inline := []
  delimiters : List Delimiter := []
  deriving Repr, Inhabited

/-- Cuts a text into runs of one mark and stretches without marks. -/
def splitMarks : Text → List Text
  | [] => []
  | c :: t =>
    match splitMarks t with
    | [] => [[c]]
    | piece :: rest =>
      match piece with
      | [] => [c] :: rest
      | d :: _ =>
        let isMark (e : Char) := e == '*' || e == '_'
        if (isMark c && c == d) || (!isMark c && !isMark d) then (c :: piece) :: rest
        else [c] :: piece :: rest

namespace Parts

/-- Adds the stretches of a live text that stands between two characters. -/
def addTexts (parts : Parts) (previous following : Char) : List Text → Parts
  | [] => parts
  | piece :: rest =>
    let next := match rest with
      | (c :: _) :: _ => c
      | _ => following
    let marker := piece.headD ' '
    let opens := canOpen marker previous next
    let closes := canClose marker previous next
    let delimiters :=
      if (marker == '*' || marker == '_') && (opens || closes) then
        { index := parts.parts.length, marker, length := piece.length, full := piece.length
          canOpen := opens, canClose := closes } :: parts.delimiters
      else parts.delimiters
    addTexts { parts := .text piece :: parts.parts, delimiters } (piece.getLastD previous)
      following rest

/-- Adds pieces; `previous` is the character before them. -/
def add (parts : Parts) (previous : Char) : List Piece → Parts
  | [] => parts
  | piece :: rest =>
    let following := ((rest.flatMap Piece.outside).head?).getD '\n'
    let parts := match piece with
      | .text raw true => parts.addTexts previous following (splitMarks raw)
      | piece => { parts with parts := piece.toInline :: parts.parts }
    add parts (piece.outside.getLastD previous) rest

end Parts

/-! ## Pairing -/

/-- The state of the pairing: the parts, the delimiters, the closer to look at, and for each family
of closers the first delimiter that a search may still reach. -/
structure Pairing where
  parts : List Inline
  delimiters : List Delimiter
  position : Nat := 0
  bottoms : List (Delimiter.Family × Nat) := []
  deriving Repr, Inhabited

namespace Pairing

/-- The text that a part is; another part counts as an empty text. -/
def rawAt (parts : List Inline) (index : Nat) : Text :=
  match parts[index]? with
  | some (.text raw) => raw
  | _ => []

/-- Whether a part is a text. -/
def isTextAt (parts : List Inline) (index : Nat) : Bool :=
  match parts[index]? with
  | some (.text _) => true
  | _ => false

/-- Whether a part shows something. -/
def isVisible : Inline → Bool
  | .text raw => !raw.isEmpty
  | _ => true

/-- The nearest opener for a closer before `position`, down to `bottom`. -/
def findOpener (delimiters : List Delimiter) (closer : Delimiter) (bottom : Nat) :
    Nat → Option (Nat × Delimiter)
  | 0 => none
  | position + 1 =>
    if position < bottom then none
    else match delimiters[position]? with
      | none => none
      | some opener =>
        if opener.marker == closer.marker && opener.canOpen && opener.length > 0 &&
            opener.fits closer then
          some (position, opener)
        else findOpener delimiters closer bottom position

/-- How many marks a pair uses: two for strong emphasis, one for emphasis. -/
def useLength (parts : List Inline) (opener closer : Delimiter) : Option Nat :=
  let left := (rawAt parts opener.index).length
  let right := (rawAt parts closer.index).length
  if opener.length ≥ 2 && closer.length ≥ 2 && left ≥ 2 && right ≥ 2 then some 2
  else if left ≥ 1 && right ≥ 1 then some 1
  else none

/-- What stands between a pair, if it shows something and does not nest too deep. -/
def between (maxDepth : Nat) (parts : List Inline) (opener closer : Delimiter) :
    Option (List Inline) :=
  let children := (parts.take closer.index).drop (opener.index + 1)
  if children.any isVisible && isTextAt parts opener.index && isTextAt parts closer.index &&
      inlineDepth children < maxDepth then
    some children
  else none

/-- The parts after a pair has been closed. -/
def enclose (parts : List Inline) (opener closer : Delimiter) (n : Nat) (children : List Inline) :
    List Inline :=
  let left := rawAt parts opener.index
  let right := rawAt parts closer.index
  parts.take opener.index ++
    [.text (left.take (left.length - n)),
      if n = 2 then .strong children else .emphasis children,
      .text (right.drop n)] ++
    parts.drop (closer.index + 1)

/-- The delimiters after a pair has been closed.  If several parts became one, the delimiters
between are spent and those from the closer on move. -/
def spend (delimiters : List Delimiter) (openerAt closerAt : Nat) (n removed : Nat) :
    List Delimiter :=
  delimiters.mapIdx fun i delimiter =>
    let delimiter :=
      if openerAt < i && i < closerAt && removed != 0 then { delimiter with length := 0 }
      else delimiter
    let delimiter := if i == openerAt || i == closerAt then delimiter.use n else delimiter
    if closerAt ≤ i then { delimiter with index := delimiter.index - removed } else delimiter

/-- One step: looks at one closer. -/
def step (maxDepth : Nat) (closer : Delimiter) (pairing : Pairing) : Pairing :=
  let position := pairing.position
  let skip : Pairing := { pairing with position := position + 1 }
  if !closer.canClose || closer.length == 0 then skip
  else
    let bottom := (pairing.bottoms.lookup closer.family).getD 0
    match findOpener pairing.delimiters closer bottom position with
    | none => { skip with bottoms := (closer.family, position) :: pairing.bottoms }
    | some (openerAt, opener) =>
      match useLength pairing.parts opener closer, between maxDepth pairing.parts opener closer with
      | some n, some children =>
        let removed := children.length - 1
        { pairing with
          parts := enclose pairing.parts opener closer n children
          delimiters := spend pairing.delimiters openerAt position n removed
          position :=
            if (opener.use n).canOpen || (closer.use n).canClose then max openerAt bottom
            else position + 1 }
      | _, _ => skip

/-- Steps until no closer is left. -/
def run (maxDepth : Nat) : Nat → Pairing → Pairing
  | 0, pairing => pairing
  | fuel + 1, pairing =>
    match pairing.delimiters[pairing.position]? with
    | none => pairing
    | some closer => run maxDepth fuel (step maxDepth closer pairing)

/-- Steps that are always enough. -/
def fuel (pairing : Pairing) : Nat :=
  (pairing.delimiters.foldr (·.length + ·) 1) * (pairing.delimiters.length + 1)

end Pairing

/-- Neighbouring texts joined and empty ones left out.  `pending` is the text that the next one may
be joined to, with its last part. -/
def mergeTexts (pending : Option (Text × Text)) : List Inline → List Inline
  | [] =>
    match pending with
    | some (joined, _) => [.text joined]
    | none => []
  | .text raw :: rest =>
    if raw.isEmpty then mergeTexts pending rest
    else match pending with
      | some (joined, last) =>
        if Piece.formsReference last raw then .text joined :: mergeTexts (some (raw, raw)) rest
        else mergeTexts (some (joined ++ raw, raw)) rest
      | none => mergeTexts (some (raw, raw)) rest
  | piece :: rest =>
    match pending with
    | some (joined, _) => .text joined :: piece :: mergeTexts none rest
    | none => piece :: mergeTexts none rest

/-- The inline content of pieces, with emphasis nested to less than `maxDepth`. -/
def finishPieces (maxDepth : Nat) (pieces : List Piece) : List Inline :=
  let pieces := Piece.joinTexts none pieces
  if pieces.any Piece.hasMarker then
    let cut := ({} : Parts).add '\n' pieces
    let start : Pairing := { parts := cut.parts.reverse, delimiters := cut.delimiters.reverse }
    mergeTexts none (start.run maxDepth start.fuel).parts
  else pieces.map Piece.toInline

end ExportDocs.Markdown
