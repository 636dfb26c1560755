/-
# ExportDocs.Token.Lexer -- from source to lexemes

The lexer keeps a stack of modes above plain code.  After an operator or an opening bracket, and
at the start of a line, an operand may follow (`Mode.operand`), and there a slash starts a regular
expression; a slash that starts none makes everything to the end of the line an error
(`Mode.brokenRegex`).  A template literal (`Mode.template`) holds code again in its holes
(`Mode.hole`).

`next` reads one lexeme off a nonempty text and always takes at least its first character, so
`lexemes` is a recursion on the length of the text, and the values of the lexemes in order are the
text (`flatten_lexemes`).
-/
import ExportDocs.Token.Shape
import ExportDocs.Token.Vocabulary

namespace ExportDocs.Lexer

set_option autoImplicit false

/-- What surrounds the current position, beyond plain code. -/
inductive Mode where
  | operand
  | brokenRegex
  | template
  | hole
  deriving DecidableEq, Repr

/-- The modes that surround the current position, innermost first. -/
abbrev Modes := List Mode

/-- A lexeme's class, its length and the modes after it. -/
abbrev Reading := TokenClass × Nat × Modes

/-- The first reading that exists. -/
def firstOf (readings : List (Unit → Option Reading)) (otherwise : Reading) : Reading :=
  (readings.findSome? fun reading => reading ()).getD otherwise

/-- A shape read as a class. -/
def as (type : TokenClass) (modes : Modes) (length : Option Nat) : Option Reading :=
  length.map fun n => (type, n, modes)

/-- White space and comments, which change no mode. -/
def trivia (modes : Modes) (t : Text) : Option Reading :=
  (as .blank modes (Shape.blanks t)).or <|
  (as .comment modes (Shape.htmlComment t)).or <|
  (as .lineComment modes (Shape.lineComment t)).or <|
  as .blockComment modes (Shape.blockComment t)

/-- A word of the vocabulary: the longest run of word characters must be the word. -/
def vocabularyWord (before : Option Char) (modes : Modes) (t : Text) : Option Reading :=
  let word := t.takeWhile Text.isWord
  (Vocabulary.classify (before.any Text.isWord) word).map fun (type, operandFollows) =>
    (type, word.length, if operandFollows then .operand :: modes else modes)

/-- Reads a lexeme of code, whatever the line; `before` is the character before the text. -/
def readCode (before : Option Char) (modes : Modes) (t : Text) : Reading :=
  let operand := Mode.operand :: modes
  firstOf
    [fun _ => as .hashbang modes (if before.isNone then Shape.hashbang t else none),
      fun _ => trivia modes t,
      fun _ => as .binary modes (Shape.binary t),
      fun _ => as .octal modes (Shape.octal t),
      fun _ => as .hexadecimal modes (Shape.hexadecimal t),
      fun _ => as .integer modes (Shape.bigInteger t),
      fun _ => as .float modes (Shape.number t),
      fun _ => as .punctuation modes (Shape.longPunctuation t),
      fun _ => as .operator operand (Shape.operator t),
      fun _ => as .punctuation operand (Shape.opening t),
      fun _ => as .punctuation modes (Shape.closing t),
      fun _ => vocabularyWord before modes t,
      fun _ => as .identifier operand (Shape.calledName t),
      fun _ => as .identifier modes (Shape.identifier t),
      fun _ => as .doubleQuoted modes (Shape.quotedString '"' t),
      fun _ => as .singleQuoted modes (Shape.quotedString '\'' t),
      fun _ => as .template (.template :: modes) (Shape.exactly ['`'] t),
      fun _ => as .privateName modes (Shape.privateName t)]
    (.error, 1, modes)

/-- Reads a lexeme of code; in a hole, a closing brace ends the hole. -/
def readCodeOrHoleEnd (before : Option Char) (modes : Modes) (t : Text) : Reading :=
  match modes, t with
  | .hole :: outer, '}' :: _ => (.interpolation, 1, outer)
  | _, _ => readCode before modes t

/-- Reads a lexeme where an operand may follow, inside `outer`. -/
def readOperand (before : Option Char) (outer : Modes) (t : Text) : Reading :=
  match trivia (.operand :: outer) t with
  | some reading => reading
  | none =>
    match Shape.regex t with
    | some n => (.regex, n, outer)
    | none =>
      if t.head? = some '/' then (.error, 1, .brokenRegex :: outer)
      else readCodeOrHoleEnd before outer t

/-- Whether a text at the start of a line puts the lexer where an operand may follow. -/
def startsOperand (before : Option Char) (t : Text) : Bool :=
  (before.isNone || before == some '\n') &&
    (t.head?.any Text.isBlank || t.head? == some '/' || Text.startsWith t "<!--".toList)

/-- Reads a lexeme inside a template literal. -/
def readTemplate (outer : Modes) (t : Text) : Reading :=
  match t with
  | '`' :: _ => (.template, 1, outer)
  | '\\' :: _ :: _ => (.template, 2, .template :: outer)
  | '$' :: '{' :: _ => (.interpolation, 2, .hole :: .template :: outer)
  | '$' :: _ => (.template, 1, .template :: outer)
  | _ =>
    match Shape.someRun (fun c => c != '`' && c != '\\' && c != '$') t with
    | some n => (.template, n, .template :: outer)
    | none => (.error, 1, .template :: outer)

/-- Reads one lexeme off a text. -/
def next (before : Option Char) (modes : Modes) (t : Text) : Reading :=
  match modes with
  | .template :: outer => readTemplate outer t
  | .brokenRegex :: outer =>
    if t.head? = some '\n' then (.blank, 1, outer) else (.error, 1, modes)
  | .operand :: outer => readOperand before outer t
  | _ =>
    match modes, t with
    | .hole :: outer, '}' :: _ => (.interpolation, 1, outer)
    | _, _ => if startsOperand before t then readOperand before modes t else readCode before modes t

/-- The lexemes of a text that stands after `before` in the given modes. -/
def lexemesFrom (before : Option Char) (modes : Modes) : Text → List Lexeme
  | [] => []
  | c :: t =>
    let reading := next before modes (c :: t)
    let more := reading.2.1 - 1
    ⟨reading.1, c :: t.take more⟩ ::
      lexemesFrom ((t.take more).getLast?.or (some c)) reading.2.2 (t.drop more)
termination_by t => t.length
decreasing_by simp only [List.length_drop, List.length_cons]; omega

/-- The lexemes of a source. -/
def lexemes (source : Text) : List Lexeme := lexemesFrom none [] source

/-- The lexemes in order are the text. -/
theorem flatten_lexemesFrom (before : Option Char) (modes : Modes) (t : Text) :
    ((lexemesFrom before modes t).map (·.value)).flatten = t := by
  fun_induction lexemesFrom before modes t with
  | case1 => rfl
  | case2 before modes c t reading more ih =>
    simp only [List.map_cons, List.flatten_cons, ih, List.cons_append, List.take_append_drop]

/-- The lexemes of a source in order are the source. -/
theorem flatten_lexemes (source : Text) :
    ((lexemes source).map (·.value)).flatten = source :=
  flatten_lexemesFrom none [] source

/-- Lexemes with their indices, the first of which stands at `index`. -/
def placeFrom (index : Nat) : List Lexeme → List PlacedLexeme
  | [] => []
  | lexeme :: rest => ⟨lexeme, index⟩ :: placeFrom (index + lexeme.value.length) rest

/-- The lexemes of a source with their indices. -/
def placed (source : Text) : List PlacedLexeme := placeFrom 0 (lexemes source)

/-- The significant tokens of a source. -/
def tokens (source : Text) : List Token := Token.significant source (placed source)

end ExportDocs.Lexer
