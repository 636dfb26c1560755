/-
# ExportDocs.Pattern.Reader -- reading patterns

A pattern is read as units: single characters, and escapes of two.  The unit after the one that is
taken is looked at as well, so a backslash at the very end is noticed as soon as the unit before it
is taken (`take`).  Positions of faults count characters from the start of the pattern.

Groups nest, so reading goes by fuel; the number of units is enough.
-/
import ExportDocs.Pattern
import ExportDocs.Pattern.Fault

namespace ExportDocs

set_option autoImplicit false

/-- What applies to the units that follow. -/
structure PatternFlags where
  /-- Case does not count. -/
  fold : Bool := false
  /-- Anchors hold at every line. -/
  everyLine : Bool := false
  /-- The point stands for line ends too. -/
  everything : Bool := false
  deriving DecidableEq, Repr, Inhabited

/-- The state of the reader. -/
structure PatternReading where
  rest : List Text
  position : Nat := 0
  flags : PatternFlags := {}
  /-- The number of the next group. -/
  next : Nat := 1
  /-- Groups that are not closed yet. -/
  opened : List Nat := []
  names : List (Text × Nat) := []
  widths : List (Nat × Nat × Option Nat) := []
  /-- Whether a look back has no fixed length. -/
  uneven : Bool := false
  deriving Repr, Inhabited

/-- A step of the reader. -/
abbrev PatternM := StateT PatternReading (Except PatternFault)

/-- An item of a sequence: what may be repeated, what has been, and what never is. -/
inductive PatternItem where
  | plain (pattern : Pattern)
  | repeated (pattern : Pattern)
  | anchored (pattern : Pattern)
  deriving Repr, Inhabited

namespace PatternM

/-- The pattern of an item. -/
def patternOf : PatternItem → Pattern
  | .plain pattern => pattern
  | .repeated pattern => pattern
  | .anchored pattern => pattern

/-- The units of a pattern. -/
def units : Text → List Text
  | '\\' :: c :: t => ['\\', c] :: units t
  | c :: t => [c] :: units t
  | [] => []

/-- The unit that is a backslash at the end. -/
def dangling : Text := ['\\']

/-- Fails at a position. -/
def failAt {α : Type} (problem : PatternProblem) (position : Nat) : PatternM α :=
  throw { problem, position := some position }

/-- Fails a number of characters before the next unit. -/
def failBack {α : Type} (problem : PatternProblem) (offset : Nat) : PatternM α := do
  failAt problem ((← get).position - offset)

/-- The next unit, which is left where it is. -/
def peek : PatternM (Option Text) := return (← get).rest.head?

/-- Takes the next unit. -/
def take : PatternM (Option Text) := do
  let reading ← get
  match reading.rest with
  | [] => return none
  | unit :: rest =>
    let position := reading.position + unit.length
    if rest.head? == some dangling then failAt .escapeAtEnd position
    else
      set { reading with rest, position }
      return some unit

/-- Takes the next unit if it is the given character. -/
def accept (c : Char) : PatternM Bool := do
  if (← peek) == some [c] then
    discard take
    return true
  else return false

/-- Takes at most `n` units that are characters of a class. -/
def takeWhile (p : Char → Bool) : Nat → PatternM Text
  | 0 => return []
  | n + 1 => do
    match ← peek with
    | some [c] =>
      if p c then
        discard take
        return c :: (← takeWhile p n)
      else return []
    | _ => return []

/-! ## Escapes -/

/-- A hexadecimal digit. -/
def isHex (c : Char) : Bool := c.isDigit || ('a' ≤ c && c ≤ 'f') || ('A' ≤ c && c ≤ 'F')

/-- An octal digit. -/
def isOctal (c : Char) : Bool := '0' ≤ c && c ≤ '7'

/-- The number that digits stand for in a base. -/
def numberIn (base : Nat) (digits : Text) : Nat :=
  digits.foldl (fun n c =>
    let value :=
      if c.isDigit then c.toNat - 48
      else if c.isLower then c.toNat - 87
      else c.toNat - 55
    base * n + value) 0

/-- The character that a letter after a backslash stands for. -/
def controlEscape? : Char → Option Char
  | 'a' => some '\x07'
  | 'f' => some '\x0c'
  | 'n' => some '\n'
  | 'r' => some '\r'
  | 't' => some '\t'
  | 'v' => some '\x0b'
  | '\\' => some '\\'
  | _ => none

/-- The class that a letter after a backslash stands for, and whether it is negated. -/
def classEscape? : Char → Option (CharClass × Bool)
  | 'd' => some (.digit, false)
  | 'D' => some (.digit, true)
  | 's' => some (.blank, false)
  | 'S' => some (.blank, true)
  | 'w' => some (.word, false)
  | 'W' => some (.word, true)
  | _ => none

/-- The anchor that a letter after a backslash stands for. -/
def anchorEscape? : Char → Option Anchor
  | 'A' => some (.start false)
  | 'Z' => some .veryEnd
  | 'b' => some (.boundary false)
  | 'B' => some (.boundary true)
  | _ => none

/-- The digits of a hexadecimal escape, of which there must be `n`. -/
def readHex (c : Char) (n : Nat) : PatternM Char := do
  let digits ← takeWhile isHex n
  if digits.length = n then return Char.ofNat (numberIn 16 digits)
  else failBack (.incompleteEscape ('\\' :: c :: digits)) (digits.length + 2)

/-- How many hexadecimal digits an escape has. -/
def hexLength? : Char → Option Nat
  | 'x' => some 2
  | 'u' => some 4
  | 'U' => some 8
  | _ => none

/-- An escape that is the character itself, unless it is a letter. -/
def readPlainEscape (c : Char) : PatternM Char :=
  if c.isAlpha then failBack (.badEscape ['\\', c]) 2 else return c

/-- An escape in a set, after its unit has been taken. -/
def readSetEscape (c : Char) : PatternM SetItem := do
  match (if c = 'b' then some '\x08' else controlEscape? c), classEscape? c, hexLength? c with
  | some d, _, _ => return .char d
  | none, some (is, negated), _ => return .ofClass is negated
  | none, none, some n => return .char (← readHex c n)
  | none, none, none =>
    if isOctal c then
      let digits := c :: (← takeWhile isOctal 2)
      if numberIn 8 digits ≤ 0o377 then return .char (Char.ofNat (numberIn 8 digits))
      else failBack (.octalTooLarge ('\\' :: digits)) (digits.length + 1)
    else if c.isDigit then failBack (.badEscape ['\\', c]) 2
    else return .char (← readPlainEscape c)

/-- A reference to a group, written with the given digits. -/
def readReference (digits : Text) : PatternM PatternItem := do
  let number := numberIn 10 digits
  let reading ← get
  if number < reading.next then
    if reading.opened.contains number then failBack .openReference (digits.length + 1)
    else return .plain (.reference number reading.flags.fold)
  else failBack (.missingReference number) digits.length

/-- An escape that starts with a digit: an octal number, or a reference. -/
def readDigitEscape (c : Char) : PatternM PatternItem := do
  let literal (digits : Text) : PatternM PatternItem :=
    return .plain (.char (Char.ofNat (numberIn 8 digits)) (← get).flags.fold)
  if c = '0' then literal (c :: (← takeWhile isOctal 2))
  else
    let digits := c :: (← takeWhile Char.isDigit 1)
    if digits.length = 2 && digits.all isOctal then
      let last ← takeWhile isOctal 1
      if last.isEmpty then readReference digits
      else if numberIn 8 (digits ++ last) ≤ 0o377 then literal (digits ++ last)
      else failBack (.octalTooLarge ('\\' :: digits ++ last)) 4
    else readReference digits

/-- An escape outside a set, after its unit has been taken. -/
def readEscape (c : Char) : PatternM PatternItem := do
  let fold := (← get).flags.fold
  match anchorEscape? c, classEscape? c, controlEscape? c, hexLength? c with
  | some anchor, _, _, _ => return .anchored (.anchor anchor)
  | none, some (is, negated), _, _ => return .plain (.set [.ofClass is negated] false false)
  | none, none, some d, _ => return .plain (.char d fold)
  | none, none, none, some n => return .plain (.char (← readHex c n) fold)
  | none, none, none, none =>
    if c.isDigit then readDigitEscape c else return .plain (.char (← readPlainEscape c) fold)

/-! ## Sets -/

/-- An item of a set, written as the given unit. -/
def readSetItem (unit : Text) : PatternM SetItem :=
  match unit with
  | ['\\', c] => readSetEscape c
  | _ => return .char (unit.headD ' ')

/-- The items of a set up to its closing bracket.  `start` is the position of the opening one, and
`items` are those already read. -/
def readSet (start : Nat) (items : List SetItem) : Nat → PatternM (List SetItem)
  | 0 => failAt .unterminatedSet start
  | fuel + 1 => do
    match ← take with
    | none => failAt .unterminatedSet start
    | some unit =>
      if unit == [']'] && !items.isEmpty then return items
      else
        let low ← readSetItem unit
        if ← accept '-' then
          match ← take with
          | none => failAt .unterminatedSet start
          | some other =>
            if other == [']'] then return items ++ [low, .char '-']
            else
              let high ← readSetItem other
              match low, high with
              | .char a, .char b =>
                if a.toNat ≤ b.toNat then readSet start (items ++ [.range a b]) fuel
                else failBack (.badRange unit other) (unit.length + 1 + other.length)
              | _, _ => failBack (.badRange unit other) (unit.length + 1 + other.length)
        else readSet start (items ++ [low]) fuel

/-! ## Repetitions -/

/-- The bounds in braces after the opening one; nothing if these are no bounds. -/
def readBounds : PatternM (Option (Nat × Option Nat)) := do
  let start ← get
  let digits := start.rest.length
  if (← peek) == some ['}'] then return none
  else
    let low ← takeWhile Char.isDigit digits
    let high ← if ← accept ',' then takeWhile Char.isDigit digits else pure low
    if ← accept '}' then
      let least := numberIn 10 low
      let most := if high.isEmpty then none else some (numberIn 10 high)
      if most.any (· < least) then failAt .repeatBounds start.position
      else return some (least, most)
    else
      set start
      return none

/-- The bounds of a repetition, after its first unit has been taken. -/
def boundsOf (c : Char) : PatternM (Option (Nat × Option Nat)) :=
  match c with
  | '?' => return some (0, some 1)
  | '*' => return some (0, none)
  | '+' => return some (1, none)
  | _ => readBounds

/-- Repeats the last of the items, which come last first.  `start` is the position of the mark. -/
def repeatLast (start : Nat) (bounds : Nat × Option Nat) (items : List PatternItem) :
    PatternM (List PatternItem) := do
  match items with
  | .plain pattern :: earlier =>
    let greed ←
      if ← accept '?' then pure Greed.lazy
      else if ← accept '+' then pure Greed.possessive
      else pure Greed.greedy
    return .repeated (.repetition bounds.1 bounds.2 greed pattern) :: earlier
  | .repeated _ :: _ => failAt .multipleRepeat start
  | .anchored _ :: _ => failAt .nothingToRepeat start
  | [] => failAt .nothingToRepeat start

/-! ## Groups -/

/-- A name up to its closing character. -/
def readName (closer : Char) (read : Text) : Nat → PatternM Text
  | 0 => failBack (.unterminatedName closer) read.length
  | fuel + 1 => do
    match ← take with
    | none =>
      if read.isEmpty then failBack .missingName 0
      else failBack (.unterminatedName closer) read.length
    | some unit =>
      if unit == [closer] then
        if read.isEmpty then failBack .missingName 1
        else if isName read then return read
        else failBack (.badName read) (read.length + 1)
      else readName closer (read ++ unit) fuel
where
  /-- Whether a text can be a name. -/
  isName : Text → Bool
    | c :: t => (Text.isLetter c || c == '_') && t.all Text.isWord
    | [] => false

/-- Flags: letters turned on and off. -/
structure FlagLetters where
  on : Text
  off : Text := []
  deriving DecidableEq, Repr, Inhabited

/-- A letter that is a flag. -/
def isFlag (c : Char) : Bool := "iLmsxau".toList.contains c

/-- A flag that says which characters classes hold. -/
def isTypeFlag (c : Char) : Bool := c == 'a' || c == 'u' || c == 'L'

/-- Flags turned off, up to a colon.  `letters` are those already read. -/
def readOff (letters : Text) : Nat → PatternM Text
  | 0 => failBack .missingColon 0
  | fuel + 1 => do
    match ← take with
    | none => if letters.isEmpty then failBack .missingFlag 0 else failBack .missingColon 0
    | some unit =>
      let c := unit.headD ' '
      if unit == [':'] && !letters.isEmpty then return letters
      else if unit.length = 1 && isFlag c then
        if isTypeFlag c then failBack .typeFlagsOff 0 else readOff (letters ++ [c]) fuel
      else if unit.length = 1 && Text.isLetter c then failBack .unknownFlag unit.length
      else failBack (if letters.isEmpty then .missingFlag else .missingColon) unit.length

/-- Flags after the first unit; nothing stands for flags that apply to the whole pattern. -/
def readFlags (on : Text) (c : Char) : Nat → PatternM (FlagLetters × Bool)
  | 0 => failBack .unfinishedFlags 0
  | fuel + 1 => do
    if c = ')' then return ({ on }, true)
    else if c = ':' then return ({ on }, false)
    else if c = '-' then
      let off ← readOff [] (fuel + 1)
      if on.any off.contains then failBack .flagsTwice 1 else return ({ on, off }, false)
    else if c = 'L' then failBack .byteFlag 0
    else if isTypeFlag c && on.any fun d => isTypeFlag d && d != c then failBack .clashingFlags 0
    else
      match ← take with
      | none => failBack .unfinishedFlags 0
      | some unit =>
        let next := unit.headD ' '
        if unit.length = 1 && (isFlag next || next == ')' || next == ':' || next == '-') then
          readFlags (on ++ [c]) next fuel
        else if unit.length = 1 && Text.isLetter next then failBack .unknownFlag unit.length
        else failBack .unfinishedFlags unit.length

/-- The flags after letters have been turned on and off. -/
def applyFlags (letters : FlagLetters) (flags : PatternFlags) : PatternFlags :=
  let turn (c : Char) (before : Bool) : Bool :=
    (before || letters.on.contains c) && !letters.off.contains c
  { fold := turn 'i' flags.fold, everyLine := turn 'm' flags.everyLine
    everything := turn 's' flags.everything }

/-- Skips a comment. -/
def skipComment (start : Nat) : Nat → PatternM Unit
  | 0 => failAt .unterminatedComment start
  | fuel + 1 => do
    match ← take with
    | none => failAt .unterminatedComment start
    | some unit => if unit == [')'] then return () else skipComment start fuel

/-- The closing parenthesis of a group that was opened at a position. -/
def close (start : Nat) : PatternM Unit := do
  if ← accept ')' then return () else failAt .unterminatedGroup start

/-- Opens a group that captures, perhaps under a name. -/
def openGroup (name : Option Text) : PatternM Nat := do
  let reading ← get
  let number := reading.next
  match name with
  | none => set { reading with next := number + 1, opened := number :: reading.opened }
  | some name =>
    match reading.names.lookup name with
    | some earlier => failBack (.repeatedName name number earlier) (name.length + 1)
    | none =>
      set { reading with
        next := number + 1, opened := number :: reading.opened
        names := (name, number) :: reading.names }
  return number

/-- Closes a group. -/
def closeGroup (number : Nat) (inside : Pattern) : PatternM Unit :=
  modify fun reading =>
    { reading with
      opened := reading.opened.filter (· != number)
      widths := (number, inside.width reading.widths) :: reading.widths }

/-- A reference to a group by its name. -/
def readNamedReference : PatternM PatternItem := do
  let name ← readName ')' [] ((← get).rest.length + 1)
  let reading ← get
  match reading.names.lookup name with
  | none => failBack (.unknownName name) (name.length + 1)
  | some number =>
    if reading.opened.contains number then failBack .openReference (name.length + 1)
    else return .plain (.reference number reading.flags.fold)

/-- What the units after an opening parenthesis and a question mark start. -/
inductive GroupStart where
  | capturing (name : Option Text)
  | plain
  | atomic
  | flagged (letters : FlagLetters)
  | global (letters : FlagLetters)
  | ahead (negated : Bool)
  | behind (negated : Bool)
  | comment
  | reference
  deriving DecidableEq, Repr, Inhabited

/-- Reads what a group starts with, after its opening parenthesis. -/
def readGroupStart : PatternM GroupStart := do
  if !(← accept '?') then return .capturing none
  else
    match ← take with
    | none => failBack .unexpectedEnd 0
    | some ['P'] =>
      if ← accept '<' then return .capturing (some (← readName '>' [] ((← get).rest.length + 1)))
      else if ← accept '=' then return .reference
      else match ← take with
        | none => failBack .unexpectedEnd 0
        | some unit => failBack (.unknownExtension ('?' :: 'P' :: unit)) (unit.length + 2)
    | some [':'] => return .plain
    | some ['#'] => return .comment
    | some ['='] => return .ahead false
    | some ['!'] => return .ahead true
    | some ['<'] =>
      match ← take with
      | none => failBack .unexpectedEnd 0
      | some ['='] => return .behind false
      | some ['!'] => return .behind true
      | some unit => failBack (.unknownExtension ('?' :: '<' :: unit)) (unit.length + 2)
    | some ['>'] => return .atomic
    | some unit =>
      let c := unit.headD ' '
      if unit.length = 1 && (isFlag c || c == '-') then
        let (letters, isGlobal) ← readFlags [] c ((← get).rest.length + 2)
        return if isGlobal then .global letters else .flagged letters
      else failBack (.unknownExtension ('?' :: unit)) (unit.length + 1)

/-- The pattern of items, which come last first. -/
def sequenceOf (items : List PatternItem) : Pattern :=
  items.foldl (fun rest item =>
    match rest with
    | .empty => patternOf item
    | rest => .seq (patternOf item) rest) .empty

/-- A look ahead or back at a pattern. -/
def lookAt (isBehind negated : Bool) (inside : Pattern) : PatternM PatternItem := do
  if isBehind then
    let (least, most) := inside.width (← get).widths
    if most != some least then modify fun reading => { reading with uneven := true }
    return .plain (.behind negated least inside)
  else return .plain (.ahead negated inside)

mutual

/-- Reads alternatives; `outermost` says that they are the whole pattern. -/
def readAlternatives (outermost : Bool) : Nat → PatternM Pattern
  | 0 => return .empty
  | fuel + 1 => do
    let first ← readSequence outermost [] fuel
    if ← accept '|' then return .alt first (← readFurther fuel) else return first
termination_by structural fuel => fuel

/-- Reads the alternatives after the first. -/
def readFurther : Nat → PatternM Pattern
  | 0 => return .empty
  | fuel + 1 => do
    let next ← readSequence false [] fuel
    if ← accept '|' then return .alt next (← readFurther fuel) else return next
termination_by structural fuel => fuel

/-- Reads a sequence; `items` are those already read, last first. -/
def readSequence (outermost : Bool) (items : List PatternItem) : Nat → PatternM Pattern
  | 0 => return sequenceOf items
  | fuel + 1 => do
    let start := (← get).position
    match ← peek with
    | none => return sequenceOf items
    | some unit =>
      if unit == ['|'] || unit == [')'] then return sequenceOf items
      else
        discard take
        let flags := (← get).flags
        let continueWith (item : PatternItem) : PatternM Pattern :=
          readSequence outermost (item :: items) fuel
        match unit with
        | ['\\', c] => continueWith (← readEscape c)
        | ['['] =>
          let negated ← accept '^'
          let members ← readSet start [] ((← get).rest.length + 1)
          continueWith (.plain (.set members negated flags.fold))
        | ['.'] => continueWith (.plain (.any flags.everything))
        | ['^'] => continueWith (.anchored (.anchor (.start flags.everyLine)))
        | ['$'] => continueWith (.anchored (.anchor (.stop flags.everyLine)))
        | ['('] =>
          match ← readGroup outermost start items fuel with
          | some item => continueWith item
          | none => readSequence outermost items fuel
        | _ =>
          let c := unit.headD ' '
          if c == '?' || c == '*' || c == '+' || c == '{' then
            match ← boundsOf c with
            | some bounds => readSequence outermost (← repeatLast start bounds items) fuel
            | none => continueWith (.plain (.char c flags.fold))
          else continueWith (.plain (.char c flags.fold))
termination_by structural fuel => fuel

/-- Reads a group after its opening parenthesis, which is at `start`.  A comment and flags for the
whole pattern are no items. -/
def readGroup (outermost : Bool) (start : Nat) (items : List PatternItem) :
    Nat → PatternM (Option PatternItem)
  | 0 => failAt .unterminatedGroup start
  | fuel + 1 => do
    let inside : PatternM Pattern := do
      let pattern ← readAlternatives false fuel
      close start
      return pattern
    match ← readGroupStart with
    | .comment =>
      skipComment start ((← get).rest.length + 1)
      return none
    | .global letters =>
      if outermost && items.isEmpty then
        modify fun reading => { reading with flags := applyFlags letters reading.flags }
        return none
      else failAt .misplacedFlags start
    | .reference => return some (← readNamedReference)
    | .capturing name =>
      let number ← openGroup name
      let pattern ← inside
      closeGroup number pattern
      return some (.plain (.group number pattern))
    | .plain => return some (.plain (← inside))
    | .atomic => return some (.plain (.atomic (← inside)))
    | .flagged letters =>
      let before := (← get).flags
      modify fun reading => { reading with flags := applyFlags letters before }
      let pattern ← inside
      modify fun reading => { reading with flags := before }
      return some (.plain pattern)
    | .ahead negated => return some (← lookAt false negated (← inside))
    | .behind negated => return some (← lookAt true negated (← inside))
termination_by structural fuel => fuel

end

/-- Reads a whole pattern. -/
def readWhole : PatternM Pattern := do
  let reading ← get
  if reading.rest.head? == some dangling then failAt .escapeAtEnd 0
  else
    let pattern ← readAlternatives true (4 * reading.rest.length + 4)
    if (← peek).isSome then failBack .unbalanced 0
    else if (← get).uneven then throw { problem := .variableWidth, position := none }
    else return pattern

end PatternM

/-- Reads a pattern. -/
def Pattern.read (text : Text) : Except PatternFault Pattern :=
  (PatternM.readWhole.run { rest := PatternM.units text }).map (·.1)

end ExportDocs
