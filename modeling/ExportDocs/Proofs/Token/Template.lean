/-
# ExportDocs.Proofs.Token.Template -- the tokens of template literals

The text of a template literal is parted by signs: the backticks around it, escaped characters,
dollar signs and the braces of its holes.  What stands between two signs is one lexeme, a stretch.
The modes of the lexer are nested (`Nested`): a template stands in code, and a hole in a template.
So a stretch always stands between a sign before it and a sign, or the end of the source, after it
(`stretch_neighbours`), and these neighbours are tokens of the source as well.
-/
import ExportDocs.Proofs.Token.Opening
import Mathlib.Data.List.Chain

namespace ExportDocs

set_option autoImplicit false

/-! ## Runs -/

namespace Shape

variable {p : Char → Bool} {c : Char}

theorem run_cons (first : p c = true) {t : Text} : run p (c :: t) = run p t + 1 := by
  simp [run, first]

theorem someRun_cons (t : Text) :
    someRun p (c :: t) = if p c = true then some (run p (c :: t)) else none := by
  by_cases first : p c = true
  · rw [if_pos first, someRun, run_cons first, positive]
  · rw [if_neg first, someRun, run, List.takeWhile_cons_of_neg first]
    rfl

/-- A run stops where a character is of another class. -/
theorem head?_drop_run (p : Char → Bool) (t : Text) :
    ∀ d ∈ (t.drop (run p t)).head?, p d = false := by
  induction t with
  | nil => simp
  | cons c t ih =>
      by_cases first : p c = true
      · rw [run_cons first, List.drop_succ_cons]
        exact ih
      · rw [run, List.takeWhile_cons_of_neg first]
        simpa using first

end Shape

namespace Lexer

/-! ## Modes -/

/-- Modes in which code is read. -/
inductive Code : Modes → Prop
  | plain : Code []
  | operand {outer : Modes} (inside : Code outer) : Code (.operand :: outer)
  | brokenRegex {outer : Modes} (inside : Code outer) : Code (.brokenRegex :: outer)
  | hole {outer : Modes} (inside : Code outer) : Code (.hole :: .template :: outer)

/-- Modes that can occur: those of code, and a template in code. -/
inductive Nested : Modes → Prop
  | code {modes : Modes} (inside : Code modes) : Nested modes
  | template {outer : Modes} (inside : Code outer) : Nested (.template :: outer)

/-- The signs at which a stretch of a template ends. -/
def templateSigns : List Char := ['`', '\\', '$']

/-- What can be read at the character `c` before `t`: a lexeme outside of templates, a sign, a
stretch, or a backslash with nothing after it. -/
inductive Reads (modes : Modes) (c : Char) (t : Text) : Reading → Prop
  | code {type : TokenClass} {n : Nat} {after : Modes}
      (aside : type ≠ .template ∧ type ≠ .interpolation) (slash : type = .regex → c = '/')
      (inside : Code modes) (stays : Code after) : Reads modes c t (type, n, after)
  | sign {type : TokenClass} {n : Nat} {after : Modes}
      (sign : type = .template ∧ c ∈ templateSigns ∨ type = .interpolation ∧ c ∈ ['$', '}'])
      (nested : Nested after) : Reads modes c t (type, n, after)
  | stretch {n : Nat} {outer : Modes} (inside : modes = .template :: outer)
      (free : c ∉ templateSigns) (ends : ∀ d ∈ (t.drop (n - 1)).head?, d ∈ templateSigns) :
      Reads modes c t (.template, n, modes)
  | stray {outer : Modes} (inside : modes = .template :: outer) (slash : c = '\\')
      (ends : t = []) : Reads modes c t (.error, 1, modes)

/-! ## Rules -/

section Rules

variable {before : Option Char} {modes after : Modes} {c : Char} {t : Text} {read : Reading}

/-- A lexeme of a class that has nothing to do with templates or regular expressions. -/
theorem Reads.other {type : TokenClass} {n : Nat}
    (aside : type ≠ .template ∧ type ≠ .interpolation ∧ type ≠ .regex) (inside : Code modes)
    (stays : Code after) : Reads modes c t (type, n, after) :=
  .code ⟨aside.1, aside.2.1⟩ (fun regex => absurd regex aside.2.2) inside stays

theorem reads_as {type : TokenClass} {length : Option Nat}
    (aside : type ≠ .template ∧ type ≠ .interpolation ∧ type ≠ .regex) (inside : Code modes)
    (stays : Code after) (found : as type after length = some read) : Reads modes c t read := by
  obtain ⟨n, -, rfl⟩ := Option.map_eq_some_iff.1 found
  exact .other aside inside stays

theorem reads_trivia {u : Text} (inside : Code modes) (stays : Code after)
    (found : trivia after u = some read) : Reads modes c t read := by
  simp only [trivia, Option.or_eq_some_iff] at found
  rcases found with blank | ⟨-, html | ⟨-, line | ⟨-, block⟩⟩⟩
  · exact reads_as (by decide) inside stays blank
  · exact reads_as (by decide) inside stays html
  · exact reads_as (by decide) inside stays line
  · exact reads_as (by decide) inside stays block

theorem reads_vocabularyWord {u : Text} (inside : Code modes) (stays : Code after)
    (found : vocabularyWord before after u = some read) : Reads modes c t read := by
  obtain ⟨⟨type, follows⟩, classified, rfl⟩ := Option.map_eq_some_iff.1 found
  have aside : type ≠ .template ∧ type ≠ .interpolation ∧ type ≠ .regex := by
    unfold Vocabulary.classify at classified
    split_ifs at classified <;> cases classified <;> decide
  refine .other aside inside ?_
  split
  · exact .operand stays
  · exact stays

/-- A backtick in code opens a template. -/
theorem reads_backtick (stays : Code after)
    (found : as .template (.template :: after) (Shape.exactly ['`'] (c :: t)) = some read) :
    Reads modes c t read := by
  obtain ⟨n, length, rfl⟩ := Option.map_eq_some_iff.1 found
  have starts := startsWith_of_exactly (Option.isSome_of_eq_some length)
  obtain ⟨rfl, -⟩ := List.cons_prefix_cons.1 (List.isPrefixOf_iff_prefix.1 starts)
  exact .sign (.inl ⟨rfl, by decide⟩) (.template stays)

theorem reads_readCode (inside : Code modes) (stays : Code after) :
    Reads modes c t (readCode before after (c :: t)) := by
  have aside := fun {type} {after : Modes} {length} {read}
      (aside : type ≠ .template ∧ type ≠ .interpolation ∧ type ≠ .regex) (stays : Code after)
      (found : as type after length = some read) =>
    reads_as (c := c) (t := t) aside inside stays found
  refine forall_firstOf ?_ (.other (by decide) inside stays)
  simp only [List.forall_mem_cons, List.not_mem_nil, false_imp_iff, implies_true, and_true]
  refine ⟨fun _ => aside (by decide) stays, fun _ => reads_trivia inside stays,
    fun _ => aside (by decide) stays, fun _ => aside (by decide) stays,
    fun _ => aside (by decide) stays, fun _ => aside (by decide) stays,
    fun _ => aside (by decide) stays, fun _ => aside (by decide) stays,
    fun _ => aside (by decide) (.operand stays), fun _ => aside (by decide) (.operand stays),
    fun _ => aside (by decide) stays, fun _ => reads_vocabularyWord inside stays,
    fun _ => aside (by decide) (.operand stays), fun _ => aside (by decide) stays,
    fun _ => aside (by decide) stays, fun _ => aside (by decide) stays,
    fun _ => reads_backtick stays, fun _ => aside (by decide) stays⟩

theorem reads_readCodeOrHoleEnd (inside : Code modes) (stays : Code after) :
    Reads modes c t (readCodeOrHoleEnd before after (c :: t)) := by
  unfold readCodeOrHoleEnd
  split
  · rename_i outer _ eq
    obtain ⟨rfl, rfl⟩ := List.cons.inj eq
    cases stays with
    | hole inside => exact .sign (.inr ⟨rfl, by decide⟩) (.template inside)
  · exact reads_readCode inside stays

theorem reads_readOperand (inside : Code modes) (stays : Code after) :
    Reads modes c t (readOperand before after (c :: t)) := by
  unfold readOperand
  split
  · rename_i found
    exact reads_trivia inside (.operand stays) found
  · split
    · rename_i n found
      have slash : c = '/' := by
        unfold Shape.regex at found
        split at found
        · rename_i eq
          exact (List.cons.inj eq).1
        · cases found
      exact .code (by decide) (fun _ => slash) inside stays
    · split
      · exact .other (by decide) inside (.brokenRegex stays)
      · exact reads_readCodeOrHoleEnd inside stays

theorem reads_readTemplate {outer : Modes} (inside : Code outer) :
    Reads (.template :: outer) c t (readTemplate outer (c :: t)) := by
  unfold readTemplate
  split
  · rename_i eq
    obtain ⟨rfl, -⟩ := List.cons.inj eq
    exact .sign (.inl ⟨rfl, by decide⟩) (.code inside)
  · rename_i eq
    obtain ⟨rfl, -⟩ := List.cons.inj eq
    exact .sign (.inl ⟨rfl, by decide⟩) (.template inside)
  · rename_i eq
    obtain ⟨rfl, -⟩ := List.cons.inj eq
    exact .sign (.inr ⟨rfl, by decide⟩) (.code (.hole inside))
  · rename_i eq
    obtain ⟨rfl, -⟩ := List.cons.inj eq
    exact .sign (.inl ⟨rfl, by decide⟩) (.template inside)
  · rename_i backtick escape _ dollar
    rw [Shape.someRun_cons]
    by_cases free : (c != '`' && c != '\\' && c != '$') = true
    · rw [if_pos free]
      refine .stretch rfl ?_ fun d head => ?_
      · simpa [templateSigns, and_assoc] using free
      · -- The run is as long as it can be.
        have stops := Shape.head?_drop_run (fun c => c != '`' && c != '\\' && c != '$') t d
        rw [Shape.run_cons (p := fun c => c != '`' && c != '\\' && c != '$') free,
          Nat.add_sub_cancel] at head
        have sign := stops head
        simp only [Bool.and_eq_false_iff, bne_eq_false_iff_eq, or_assoc] at sign
        simpa [templateSigns] using sign
    · rw [if_neg free]
      have slash : c = '\\' := by
        have notBacktick : c ≠ '`' := fun eq => backtick t (by rw [eq])
        have notDollar : c ≠ '$' := fun eq => dollar t (by rw [eq])
        simpa [notBacktick, notDollar] using free
      refine .stray rfl slash ?_
      cases t with
      | nil => rfl
      | cons d u => exact absurd (by rw [slash]) (escape d u)

/-- **What is read in nested modes.** -/
theorem reads_next (nested : Nested modes) : Reads modes c t (next before modes (c :: t)) := by
  cases nested with
  | template inside => exact reads_readTemplate inside
  | code inside =>
      cases inside with
      | plain =>
          unfold next
          dsimp only
          split
          · exact reads_readOperand .plain .plain
          · exact reads_readCode .plain .plain
      | operand outside => exact reads_readOperand (.operand outside) outside
      | brokenRegex outside =>
          unfold next
          dsimp only
          split
          · exact .other (by decide) (.brokenRegex outside) outside
          · exact .other (by decide) (.brokenRegex outside) (.brokenRegex outside)
      | hole outside =>
          have code := Code.hole outside
          unfold next
          dsimp only
          split
          · rename_i modesEq textEq
            obtain ⟨-, rfl⟩ := List.cons.inj modesEq
            obtain ⟨rfl, -⟩ := List.cons.inj textEq
            exact .sign (.inr ⟨rfl, by decide⟩) (.template outside)
          · split
            · exact reads_readOperand code code
            · exact reads_readCode code code

theorem Reads.nested (reads : Reads modes c t read) (nested : Nested modes) : Nested read.2.2 := by
  cases reads with
  | code _ _ _ stays => exact .code stays
  | sign _ after => exact after
  | stretch => exact nested
  | stray => exact nested

end Rules

/-! ## Neighbours -/

/-- A stretch of a template between signs. -/
def IsStretch (lexeme : Lexeme) : Prop :=
  lexeme.type = .template ∧ ∀ c ∈ lexeme.value.head?, c ∉ templateSigns

/-- A sign of a template. -/
def IsSign (lexeme : Lexeme) : Prop :=
  (lexeme.type = .template ∨ lexeme.type = .interpolation) ∧
    ∃ c ∈ '}' :: templateSigns, lexeme.value.head? = some c

/-- What can follow a stretch: a sign, or a backslash that is none. -/
def EndsStretch (lexeme : Lexeme) : Prop :=
  (lexeme.type = .template ∨ lexeme.type = .interpolation ∨ lexeme.type = .error) ∧
    ∃ c ∈ templateSigns, lexeme.value.head? = some c

/-- Stretches stand between signs. -/
def Adjacent (first second : Lexeme) : Prop :=
  (IsStretch second → IsSign first) ∧ (IsStretch first → EndsStretch second)

theorem not_code_template {outer : Modes} : ¬ Code (.template :: outer) := by
  intro code
  cases code

/-- A lexeme is a stretch only if it was read as one. -/
theorem Reads.isStretch {modes : Modes} {c : Char} {t inside : Text} {read : Reading}
    (reads : Reads modes c t read) (stretch : IsStretch ⟨read.1, c :: inside⟩) :
    (∃ outer, modes = .template :: outer) ∧ read.2.2 = modes ∧ c ∉ templateSigns ∧
      ∀ d ∈ (t.drop (read.2.1 - 1)).head?, d ∈ templateSigns := by
  obtain ⟨template, free⟩ := stretch
  cases reads with
  | code aside => exact absurd template aside.1
  | stray => cases template
  | sign sign =>
      rcases sign with ⟨-, sign⟩ | ⟨hole, -⟩
      · exact absurd sign (free c rfl)
      · exact absurd (hole.symm.trans template) (by decide)
  | stretch inside plain ends => exact ⟨⟨_, inside⟩, rfl, plain, ends⟩

/-- Two lexemes that are read one after the other. -/
theorem adjacent_of_reads {modes : Modes} {c d : Char} {t u inside later : Text}
    {read next : Reading} (here : Reads modes c t read) (rest : t.drop (read.2.1 - 1) = d :: u)
    (there : Reads read.2.2 d u next) : Adjacent ⟨read.1, c :: inside⟩ ⟨next.1, d :: later⟩ := by
  constructor
  · intro stretch
    obtain ⟨⟨outer, inTemplate⟩, -, plain, -⟩ := there.isStretch stretch
    cases here with
    | code _ _ _ stays =>
        cases inTemplate
        exact absurd stays not_code_template
    | sign sign =>
        rcases sign with ⟨kind, sign⟩ | ⟨kind, sign⟩
        · exact ⟨.inl kind, c, List.mem_cons_of_mem _ sign, rfl⟩
        · have braces : ['$', '}'] ⊆ '}' :: templateSigns := by decide
          exact ⟨.inr kind, c, braces sign, rfl⟩
    | stretch _ _ ends => exact absurd (ends d (by rw [rest]; rfl)) plain
    | stray _ _ ends =>
        rw [ends] at rest
        cases rest
  · intro stretch
    obtain ⟨⟨outer, inTemplate⟩, same, -, ends⟩ := here.isStretch stretch
    have sign : d ∈ templateSigns := ends d (by rw [rest]; rfl)
    rw [same, inTemplate] at there
    cases there with
    | code _ _ inside => exact absurd inside not_code_template
    | sign kind =>
        refine ⟨?_, d, sign, rfl⟩
        exact kind.elim (fun kind => .inl kind.1) fun kind => .inr (.inl kind.1)
    | stretch _ free => exact absurd sign free
    | stray => exact ⟨.inr (.inr rfl), d, sign, rfl⟩

theorem isChain_lexemesFrom (before : Option Char) {modes : Modes} (nested : Nested modes)
    (t : Text) : (lexemesFrom before modes t).IsChain Adjacent := by
  fun_induction lexemesFrom before modes t with
  | case1 => exact .nil
  | case2 before modes c t reading more ih =>
      have here : Reads modes c t reading := reads_next nested
      have after := here.nested nested
      refine List.isChain_cons.2 ⟨fun second head => ?_, ih after⟩
      cases rest : t.drop more with
      | nil =>
          rw [rest, lexemesFrom] at head
          cases head
      | cons d u =>
          rw [rest, lexemesFrom, List.head?_cons, Option.mem_some_iff] at head
          rw [← head]
          exact adjacent_of_reads here rest (reads_next after)

/-- Every lexeme is read at its first character. -/
theorem exists_reads (before : Option Char) {modes : Modes} (nested : Nested modes) (t : Text) :
    ∀ lexeme ∈ lexemesFrom before modes t, ∃ modes c t read,
      Reads modes c t read ∧ lexeme.type = read.1 ∧ lexeme.value.head? = some c := by
  fun_induction lexemesFrom before modes t with
  | case1 => exact fun _ member => absurd member List.not_mem_nil
  | case2 before modes c t reading more ih =>
      have here : Reads modes c t reading := reads_next nested
      intro lexeme member
      rcases List.mem_cons.1 member with rfl | later
      · exact ⟨modes, c, t, reading, here, rfl, rfl⟩
      · exact ih (here.nested nested) lexeme later

/-- A source does not begin with a stretch. -/
theorem not_isStretch_first {source : Text} {lexeme : Lexeme} {rest : List Lexeme}
    (first : lexemes source = lexeme :: rest) : ¬ IsStretch lexeme := by
  intro stretch
  cases source with
  | nil =>
      rw [lexemes, lexemesFrom] at first
      cases first
  | cons c t =>
      rw [lexemes, lexemesFrom] at first
      obtain ⟨rfl, -⟩ := List.cons.inj first
      have reads : Reads [] c t (next none [] (c :: t)) := reads_next (.code .plain)
      obtain ⟨⟨outer, inTemplate⟩, -⟩ := reads.isStretch stretch
      cases inTemplate

end Lexer

/-! ## Tokens -/

namespace Token

/-- A token of some lexemes is one of them, and the tokens around it are those of the lexemes around
it. -/
theorem exists_lexeme {lexemes : List Lexeme} {line : Nat} {front rest : List Token} {token : Token}
    (stands : significantFrom line lexemes = front ++ token :: rest) :
    ∃ before after line', lexemes = before ++ ⟨token.type, token.value⟩ :: after ∧
      front = significantFrom line before ∧ rest = significantFrom line' after := by
  induction lexemes generalizing line front with
  | nil => cases front <;> cases stands
  | cons lexeme lexemes ih =>
      rw [significantFrom] at stands
      split at stands
      · rename_i significant
        cases front with
        | nil =>
            obtain ⟨rfl, rfl⟩ := List.cons.inj stands
            exact ⟨[], lexemes, _, rfl, rfl, rfl⟩
        | cons first front =>
            obtain ⟨rfl, later⟩ := List.cons.inj stands
            obtain ⟨before, after, line', rfl, rfl, rfl⟩ := ih later
            refine ⟨lexeme :: before, after, line', rfl, ?_, rfl⟩
            rw [significantFrom, if_pos significant]
      · rename_i aside
        obtain ⟨before, after, line', rfl, rfl, rfl⟩ := ih stands
        refine ⟨lexeme :: before, after, line', rfl, ?_, rfl⟩
        rw [significantFrom, if_neg aside]

theorem getLast?_significantFrom {lexemes : List Lexeme} {last : Lexeme}
    (final : lexemes.getLast? = some last) (significant : last.isSignificant = true) :
    ∀ line, ∃ line',
      (significantFrom line lexemes).getLast? = some ⟨last.type, last.value, line'⟩ := by
  obtain ⟨front, rfl⟩ := List.getLast?_eq_some_iff.1 final
  clear final
  induction front with
  | nil =>
      intro line
      exact ⟨line, by simp [significantFrom, significant]⟩
  | cons lexeme front ih =>
      intro line
      obtain ⟨line', last⟩ := ih (line + Text.newlines lexeme.value)
      refine ⟨line', ?_⟩
      rw [List.cons_append, significantFrom]
      split
      · rw [List.getLast?_cons, last]
        rfl
      · exact last

end Token

namespace Lexer

/-- A lexeme that begins with a sign of templates is no comment and not blank. -/
theorem isSignificant_of_sign {lexeme : Lexeme} {c : Char} (sign : c ∈ '}' :: templateSigns)
    (head : lexeme.value.head? = some c) (code : lexeme.type.isComment = false) :
    lexeme.isSignificant = true := by
  obtain ⟨rest, value⟩ := List.head?_eq_some_iff.1 head
  have solid : Text.isBlank c = false := by
    have signs : ('}' :: templateSigns).all (!Text.isBlank ·) = true := by decide
    simpa using List.all_eq_true.1 signs c sign
  simp [Lexeme.isSignificant, Text.allBlank, value, solid, code]

/-- **A stretch of a template is a token between signs.** -/
theorem stretch_neighbours {source : Text} {front rest : List Token} {token : Token}
    (stands : tokens source = front ++ token :: rest)
    (stretch : IsStretch ⟨token.type, token.value⟩) :
    (∃ previous, front.getLast? = some previous ∧ IsSign ⟨previous.type, previous.value⟩) ∧
      ∀ next ∈ rest.head?, EndsStretch ⟨next.type, next.value⟩ := by
  rw [tokens_eq_significantFrom] at stands
  obtain ⟨before, after, line, cut, rfl, rfl⟩ := Token.exists_lexeme stands
  have chain : (lexemes source).IsChain Adjacent := isChain_lexemesFrom none (.code .plain) source
  rw [cut, List.isChain_append] at chain
  obtain ⟨-, behind, seam⟩ := chain
  constructor
  · cases final : before.getLast? with
    | none =>
        rw [List.getLast?_eq_none_iff.1 final, List.nil_append] at cut
        exact absurd stretch (not_isStretch_first cut)
    | some last =>
        have sign := (seam last final _ rfl).1 stretch
        obtain ⟨kind, c, isSign, head⟩ := sign
        have code : last.type.isComment = false := by
          rcases kind with kind | kind <;> rw [kind] <;> rfl
        obtain ⟨line', token⟩ := Token.getLast?_significantFrom final
          (isSignificant_of_sign isSign head code) 1
        exact ⟨_, token, kind, c, isSign, head⟩
  · intro next head
    cases after with
    | nil => cases head
    | cons lexeme after =>
        have ends := ((List.isChain_cons.1 behind).1 lexeme rfl).2 stretch
        obtain ⟨kind, c, isSign, first⟩ := ends
        have code : lexeme.type.isComment = false := by
          rcases kind with kind | kind | kind <;> rw [kind] <;> rfl
        have significant := isSignificant_of_sign (List.mem_cons_of_mem _ isSign) first code
        rw [Token.significantFrom, if_pos significant, List.head?_cons, Option.mem_some_iff] at head
        rw [← head]
        exact ⟨kind, c, isSign, first⟩

end Lexer

end ExportDocs
