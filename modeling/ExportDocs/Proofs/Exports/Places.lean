/-
# ExportDocs.Proofs.Exports.Places -- where the symbols of a module are said to stand

Lines are counted while the lexemes of a source are sorted into tokens, and a symbol takes its lines
from the first and the last token of its statement.  `Token.Between` is the invariant: tokens stand
in order between two lines, each beginning where the one before it ends or later.  It holds of the
tokens of a source between its first line and its last one, and it passes on to every stretch of
them; so every symbol that a module makes itself lies within the source (`Outline.Places`), and
starts on the line of one of its statements.

A module also passes on symbols of others, under new names.  Such a symbol keeps whatever property
it had that has nothing to do with its name (`forall_document`).
-/
import ExportDocs.Proofs.Exports.Records
import ExportDocs.Proofs.Token.Lines
import ExportDocs.Exports.Extract

namespace ExportDocs

set_option autoImplicit false

/-! ## Lines of tokens -/

namespace Token

/-- The tokens stand in order between two lines. -/
def Between (first last : Nat) : List Token → Prop
  | [] => first ≤ last
  | token :: rest => first ≤ token.line ∧ Between token.lastLine last rest

theorem line_le_lastLine (token : Token) : token.line ≤ token.lastLine :=
  Nat.le_add_right _ _

namespace Between

variable {first last : Nat} {tokens : List Token}

theorem le (between : Between first last tokens) : first ≤ last := by
  induction tokens generalizing first with
  | nil => exact between
  | cons token rest ih =>
      obtain ⟨starts, after⟩ := between
      have inside := token.line_le_lastLine
      have onward := ih after
      omega

theorem widen {earlier later : Nat} (between : Between first last tokens) (start : earlier ≤ first)
    (stop : last ≤ later) : Between earlier later tokens := by
  induction tokens generalizing first earlier with
  | nil => exact Nat.le_trans start (Nat.le_trans between stop)
  | cons token rest ih =>
      exact ⟨Nat.le_trans start between.1, ih between.2 (Nat.le_refl _)⟩

theorem append_iff {others : List Token} : Between first last (tokens ++ others) ↔
    ∃ middle, Between first middle tokens ∧ Between middle last others := by
  induction tokens generalizing first with
  | nil =>
      constructor
      · exact fun between => ⟨first, Nat.le_refl first, between⟩
      · rintro ⟨middle, start, between⟩
        exact between.widen start (Nat.le_refl _)
  | cons token rest ih => simp only [List.cons_append, Between, ih, and_assoc, exists_and_left]

/-- Every stretch of the tokens stands between the same two lines. -/
theorem of_mem_flatten {stretches : List (List Token)}
    (between : Between first last stretches.flatten) {stretch : List Token}
    (member : stretch ∈ stretches) : Between first last stretch := by
  induction stretches generalizing first with
  | nil => cases member
  | cons head rest ih =>
      rw [List.flatten_cons] at between
      obtain ⟨middle, here, after⟩ := append_iff.1 between
      rcases List.mem_cons.1 member with rfl | member
      · exact here.widen (Nat.le_refl _) after.le
      · exact (ih after member).widen here.le (Nat.le_refl _)

/-- The last token ends no earlier than the first one begins. -/
theorem getLast {token : Token} (between : Between first last (token :: tokens)) (other : Token) :
    token.line ≤ ((token :: tokens).getLast?.getD other).lastLine ∧
      ((token :: tokens).getLast?.getD other).lastLine ≤ last := by
  induction tokens generalizing first token with
  | nil => exact ⟨token.line_le_lastLine, between.2⟩
  | cons next rest ih =>
      obtain ⟨-, follows, after⟩ := between
      have inside := token.line_le_lastLine
      have onward : Between token.lastLine last (next :: rest) := ⟨follows, after⟩
      obtain ⟨starts, stops⟩ := ih onward
      rw [List.getLast?_cons_cons]
      omega

end Between

/-- Lines are counted over all lexemes, also those that are left out. -/
theorem between_significantFrom (lexemes : List Lexeme) : ∀ line,
    Between line (line + Text.newlines (lexemes.map (·.value)).flatten)
      (significantFrom line lexemes) := by
  induction lexemes with
  | nil => exact fun line => Nat.le_add_right line _
  | cons lexeme rest ih =>
      intro line
      have others := ih (line + Text.newlines lexeme.value)
      rw [List.map_cons, List.flatten_cons, Text.newlines_append, ← Nat.add_assoc]
      simp only [significantFrom]
      split
      · exact ⟨Nat.le_refl line, others⟩
      · exact others.widen (Nat.le_add_right _ _) (Nat.le_refl _)

end Token

/-- The tokens of a source stand between its first line and its last one. -/
theorem Lexer.between_tokens (source : Text) :
    Token.Between 1 (1 + Text.newlines source) (tokens source) := by
  have between := Token.between_significantFrom (lexemes source) 1
  rwa [flatten_lexemes, ← tokens_eq_significantFrom] at between

/-- So do the tokens of every statement. -/
theorem Segment.between_statement {source : Text} {first : Token} {more : List Token}
    (member : .statement first more ∈ split (Lexer.tokens source)) :
    Token.Between 1 (1 + Text.newlines source) (first :: more) := by
  have between := Lexer.between_tokens source
  rw [← flatten_split (Lexer.tokens source)] at between
  exact between.of_mem_flatten (List.mem_map_of_mem (f := tokens) member)

/-! ## Places of symbols -/

namespace Outline

/-- A symbol of a module stands on the line of a statement, and within `last` lines. -/
structure Places (outline : Outline) (last : Nat) (symbol : Symbol) : Prop where
  path : symbol.path = outline.path
  statement : ∃ statement ∈ outline.statements, statement.line = symbol.firstLine
  positive : 1 ≤ symbol.firstLine
  order : symbol.firstLine ≤ symbol.lastLine
  inside : symbol.lastLine ≤ last

variable {path undocumented source : Text} {outline : Outline}

/-- What a statement declares or exports where it stands, and a placeholder for what it exports,
stands on the lines of its tokens. -/
theorem places_of_ofSource (outlined : ofSource path undocumented source = .ok outline)
    {record : Record} (member : record ∈ outline.records) :
    (∀ symbol ∈ record.declared ++ record.exported,
      outline.Places (1 + Text.newlines source) symbol) ∧
    ∀ statement, record.statement = some statement → ∀ name kind,
      outline.Places (1 + Text.newlines source) (outline.placeholder name kind statement.line) := by
  obtain ⟨samePath, records⟩ := reads_of_ofSource outlined
  obtain ⟨doc, first, more, stands, reads⟩ := records record member
  have between := Segment.between_statement stands
  obtain ⟨starts, stops⟩ := between.getLast first
  have positive := between.1
  cases reads with
  | silent dump => simp
  | stated form declared dump declares =>
      have here : ⟨first.line, form⟩ ∈ outline.statements :=
        List.mem_filterMap.2 ⟨_, member, rfl⟩
      have made : ∀ name kind isDefault, outline.Places (1 + Text.newlines source)
          (Record.symbol path undocumented doc first more name kind isDefault) := by
        intro name kind isDefault
        refine ⟨samePath.symm, ⟨_, here, rfl⟩, ?_, ?_, ?_⟩ <;> simp only [Record.symbol] <;> omega
      refine ⟨fun symbol inRecord => ?_, fun statement same name kind => ?_⟩
      · rcases List.mem_append.1 inRecord with inDeclared | inExported
        · obtain ⟨entry, -, rfl⟩ := declares symbol inDeclared
          exact made _ _ _
        · obtain ⟨name, kind, isDefault, rfl⟩ := Form.mem_inline inExported
          exact made _ _ _
      · cases same
        refine ⟨rfl, ⟨_, here, rfl⟩, ?_, ?_, ?_⟩ <;> simp only [placeholder] <;> omega

/-! ## Symbols of others -/

section Passing

variable {P : Symbol → Prop} {answers : Text → List Symbol}

theorem getD_find? {symbols : List Symbol} {other : Symbol} (each : ∀ symbol ∈ symbols, P symbol)
    (otherwise : P other) (name : Text) : P ((Symbol.find? symbols name).getD other) := by
  cases found : Symbol.find? symbols name with
  | none => exact otherwise
  | some symbol => exact each symbol (List.mem_of_find?_eq_some found)

theorem forall_documentBinding (declared : ∀ record ∈ outline.records, ∀ symbol ∈ record.declared,
      P symbol) (answered : ∀ specifier, ∀ symbol ∈ answers specifier, P symbol) {line : Nat}
    (placeholder : ∀ name kind, P (outline.placeholder name kind line)) (name : Text) :
    P (Id.run (outline.documentBinding answers name line)) := by
  unfold documentBinding
  cases found : outline.declaration? name with
  | some symbol =>
      have member := List.mem_reverse.1 (List.mem_of_find?_eq_some found)
      obtain ⟨record, inRecords, inRecord⟩ := List.mem_flatMap.1 member
      exact declared record inRecords symbol inRecord
  | none =>
      cases outline.import? name with
      | none => exact placeholder name .unknown
      | some origin =>
          by_cases whole : origin.2 = ['*']
          · simpa [whole] using placeholder name .moduleNamespace
          · simp only [whole, beq_iff_eq, if_false]
            exact getD_find? (answered origin.1) (placeholder name .unknown) origin.2

/-- What holds of the symbols that a module makes itself and of those that it is told about, under
whatever name, holds of all symbols that it exports. -/
theorem forall_document
    (renames : ∀ symbol name isDefault, P symbol → P (symbol.renamed name isDefault))
    (own : ∀ record ∈ outline.records, (∀ symbol ∈ record.declared ++ record.exported, P symbol) ∧
      ∀ statement, record.statement = some statement → ∀ name kind,
        P (outline.placeholder name kind statement.line))
    (answered : ∀ specifier, ∀ symbol ∈ answers specifier, P symbol) :
    ∀ symbol ∈ Id.run (outline.document answers), P symbol := by
  have declared : ∀ record ∈ outline.records, ∀ symbol ∈ record.declared, P symbol :=
    fun record member symbol inRecord => (own record member).1 symbol (by simp [inRecord])
  intro symbol member
  rw [run_document] at member
  obtain ⟨record, inRecords, member⟩ := List.mem_flatMap.1 member
  obtain ⟨made, placeholder⟩ := own record inRecords
  unfold documentRecord at member
  split at member
  · exact made symbol (List.mem_append_right _ member)
  · cases stated : record.statement with
    | none => simp [stated] at member
    | some statement =>
        simp only [stated] at member
        have binding := forall_documentBinding declared answered (placeholder statement stated)
        cases form : statement.form with
        | exportsAll newName source =>
            cases source with
            | none => simp [form, documentForm] at member
            | some source =>
                rw [form] at member
                exact answered source symbol (List.mem_filter.1 member).1
        | exportsDefault kind name =>
            rw [form] at member
            rw [List.mem_singleton.1 member]
            exact renames _ _ _ (binding name)
        | exportsNamed pairs source =>
            cases source with
            | none =>
                rw [form, run_documentForm_named] at member
                obtain ⟨pair, -, rfl⟩ := List.mem_map.1 member
                exact renames _ _ _ (binding pair.1)
            | some source =>
                rw [form] at member
                obtain ⟨pair, -, rfl⟩ := List.mem_map.1 member
                exact renames _ _ _
                  (getD_find? (answered source) (placeholder statement stated _ _) _)
        | _ => simp [form, documentForm] at member

end Passing

end Outline

end ExportDocs
