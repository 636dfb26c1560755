/-
# ExportDocs.Proofs.Token.Opening -- the class of a token and its first character

The rules of the lexer are tried in order, and each of them looks at the first character of the text
that it reads.  So the class of a token tells how the token begins: a string with its quote, and
punctuation with a sign.  A token that begins with a letter is neither.
-/
import ExportDocs.Proofs.Token.Lines
import Mathlib.Tactic.SplitIfs

namespace ExportDocs

set_option autoImplicit false

/-- Characters that punctuation begins with. -/
def punctuationMarks : List Char := ['{', '(', '[', ';', ',', '}', ')', ']', '.', '=']

/-- Whether a lexeme of this class may begin with the given character, as far as strings and
punctuation are concerned. -/
def TokenClass.opensWith (c : Char) : TokenClass → Bool
  | doubleQuoted => c == '"'
  | singleQuoted => c == '\''
  | punctuation => punctuationMarks.contains c
  | _ => true

namespace Lexer

/-- A rule reads a lexeme of a class that may begin with the given character, or nothing. -/
def Respects (c : Char) (reading : Option Reading) : Prop :=
  ∀ read, reading = some read → read.1.opensWith c = true

section Rules

variable {c : Char} {t : Text} {modes : Modes} {type : TokenClass} {length : Option Nat}

theorem respects_as (opens : length.isSome = true → type.opensWith c = true) :
    Respects c (as type modes length) := by
  rintro read found
  obtain ⟨n, some, rfl⟩ := Option.map_eq_some_iff.1 found
  exact opens (by simp [some])

/-- A rule for anything but strings and punctuation. -/
theorem respects_other (free : ∀ c, type.opensWith c = true) :
    Respects c (as type modes length) :=
  respects_as fun _ => free c

theorem Respects.or {first second : Option Reading} (left : Respects c first)
    (right : Respects c second) : Respects c (first.or second) := by
  cases first with
  | none => simpa using right
  | some read => simpa using left

theorem respects_trivia : Respects c (trivia modes (c :: t)) :=
  (respects_other fun _ => rfl).or <| (respects_other fun _ => rfl).or <|
    (respects_other fun _ => rfl).or <| respects_other fun _ => rfl

theorem respects_vocabularyWord {before : Option Char} :
    Respects c (vocabularyWord before modes (c :: t)) := by
  rintro read found
  obtain ⟨⟨type, follows⟩, classified, rfl⟩ := Option.map_eq_some_iff.1 found
  show type.opensWith c = true
  unfold Vocabulary.classify at classified
  split_ifs at classified <;> cases classified <;> rfl

theorem startsWith_of_exactly {word : Text} (some : (Shape.exactly word t).isSome = true) :
    Text.startsWith t word = true := by
  unfold Shape.exactly at some
  split_ifs at some with starts
  · exact starts
  · cases some

theorem respects_longPunctuation :
    Respects c (as .punctuation modes (Shape.longPunctuation (c :: t))) := by
  refine respects_as fun some => ?_
  have head : '.' = c ∨ '=' = c := by
    simp only [Shape.longPunctuation, Option.isSome_or, Bool.or_eq_true] at some
    refine some.imp (fun dots => ?_) fun arrow => ?_
    · exact (List.cons_prefix_cons.1 (List.isPrefixOf_iff_prefix.1 (startsWith_of_exactly dots))).1
    · exact (List.cons_prefix_cons.1 (List.isPrefixOf_iff_prefix.1 (startsWith_of_exactly arrow))).1
  rcases head with rfl | rfl <;> decide

/-- One sign out of a list. -/
theorem respects_sign {signs : String} {shape : Text → Option Nat}
    (only : ∀ c t, shape (c :: t) = if signs.toList.contains c then some 1 else none)
    (marks : signs.toList.all (punctuationMarks.contains ·) = true) :
    Respects c (as .punctuation modes (shape (c :: t))) := by
  refine respects_as fun some => ?_
  rw [only] at some
  split_ifs at some with sign
  · exact List.all_eq_true.1 marks c (List.contains_iff_mem.1 sign)
  · cases some

theorem respects_quotedString {quote : Char} (own : type.opensWith quote = true) :
    Respects c (as type modes (Shape.quotedString quote (c :: t))) := by
  refine respects_as fun some => ?_
  simp only [Shape.quotedString] at some
  split_ifs at some with same
  · exact same ▸ own
  · cases some

end Rules

/-- The first rule that reads something decides. -/
theorem forall_firstOf {P : Reading → Prop} {readings : List (Unit → Option Reading)}
    {otherwise : Reading}
    (all : ∀ reading ∈ readings, ∀ read, reading () = some read → P read) (rest : P otherwise) :
    P (firstOf readings otherwise) := by
  unfold firstOf
  cases found : readings.findSome? fun reading => reading () with
  | none => exact rest
  | some read =>
      obtain ⟨reading, member, reads⟩ := List.exists_of_findSome?_eq_some found
      exact all reading member read reads

theorem opensWith_readCode (before : Option Char) (modes : Modes) (c : Char) (t : Text) :
    (readCode before modes (c :: t)).1.opensWith c = true := by
  refine forall_firstOf (P := fun read => read.1.opensWith c = true) ?_ rfl
  simp only [List.forall_mem_cons, List.not_mem_nil, false_imp_iff, implies_true, and_true]
  refine ⟨respects_other fun _ => rfl, respects_trivia, respects_other fun _ => rfl,
    respects_other fun _ => rfl, respects_other fun _ => rfl, respects_other fun _ => rfl,
    respects_other fun _ => rfl, respects_longPunctuation, respects_other fun _ => rfl,
    respects_sign (fun _ _ => rfl) (by decide), respects_sign (fun _ _ => rfl) (by decide),
    respects_vocabularyWord, respects_other fun _ => rfl, respects_other fun _ => rfl,
    respects_quotedString rfl, respects_quotedString rfl, respects_other fun _ => rfl,
    respects_other fun _ => rfl⟩

theorem opensWith_readOperand (before : Option Char) (outer : Modes) (c : Char) (t : Text) :
    (readOperand before outer (c :: t)).1.opensWith c = true := by
  unfold readOperand
  split
  · rename_i reading reads
    exact respects_trivia reading reads
  · split
    · rfl
    · split_ifs
      · rfl
      · unfold readCodeOrHoleEnd
        split
        · rfl
        · exact opensWith_readCode before _ c t

theorem opensWith_readTemplate (outer : Modes) (c : Char) (t : Text) :
    (readTemplate outer (c :: t)).1.opensWith c = true := by
  unfold readTemplate
  split
  · rfl
  · rfl
  · rfl
  · rfl
  · split <;> rfl

/-- **The class of a lexeme tells how it begins.** -/
theorem opensWith_next (before : Option Char) (modes : Modes) (c : Char) (t : Text) :
    (next before modes (c :: t)).1.opensWith c = true := by
  unfold next
  split
  · exact opensWith_readTemplate _ c t
  · split_ifs <;> rfl
  · exact opensWith_readOperand before _ c t
  · split
    · rfl
    · split_ifs
      · exact opensWith_readOperand before _ c t
      · exact opensWith_readCode before _ c t

theorem opensWith_lexemesFrom (before : Option Char) (modes : Modes) (t : Text) :
    ∀ lexeme ∈ lexemesFrom before modes t, ∃ c rest, lexeme.value = c :: rest ∧
      lexeme.type.opensWith c = true := by
  fun_induction lexemesFrom before modes t with
  | case1 => exact fun _ member => absurd member List.not_mem_nil
  | case2 before modes c t reading more ih =>
      intro lexeme member
      rcases List.mem_cons.1 member with rfl | later
      · exact ⟨c, t.take more, rfl, opensWith_next before modes c t⟩
      · exact ih lexeme later

end Lexer

/-- A token is a lexeme of the source with a line. -/
theorem Lexer.mem_lexemes_of_mem_tokens {source : Text} {token : Token}
    (member : token ∈ tokens source) : ⟨token.type, token.value⟩ ∈ lexemes source := by
  rw [tokens, (tiles_placed source).significant_eq] at member
  obtain ⟨lexeme, kept, rfl⟩ := List.mem_map.1 member
  rw [← toLexeme_placeFrom (lexemes source) 0]
  exact List.mem_map_of_mem (List.mem_filter.1 kept).1

/-- A token of a source that begins with anything but a quote or a sign of punctuation is neither a
string nor punctuation. -/
theorem Lexer.plain_of_head {source : Text} {token : Token} (member : token ∈ Lexer.tokens source)
    {c : Char} (head : token.value.head? = some c)
    (other : c ≠ '"' ∧ c ≠ '\'' ∧ c ∉ punctuationMarks) :
    token.isString = false ∧ token.isPunctuation = false := by
  obtain ⟨d, rest, value, opens⟩ :=
    Lexer.opensWith_lexemesFrom none [] source _ (mem_lexemes_of_mem_tokens member)
  obtain ⟨type, text, line⟩ := token
  change text = d :: rest at value
  subst value
  obtain rfl : d = c := by simpa using head
  unfold Token.isString Token.isPunctuation
  cases type <;> simp_all [TokenClass.opensWith, TokenClass.isString]

end ExportDocs
