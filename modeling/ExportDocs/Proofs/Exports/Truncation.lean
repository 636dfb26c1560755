/-
# ExportDocs.Proofs.Exports.Truncation -- the statements that cannot be read

The reader of statements takes any tokens, however little sense they make.  There is one thing that it
looks for without asking whether it is there: the keyword of a declaration that begins with `async`.
A statement that begins with `async` itself is only read because a function follows, and then the
function belongs to it.  So the reader fails on two statements, `export async` and
`export default async` with nothing after them, and on no others
(`Record.read_statementFrom_eq_error_iff`).
-/
import ExportDocs.Proofs.Exports.Readings
import ExportDocs.Proofs.Exports.Segments

namespace ExportDocs

set_option autoImplicit false

/-- The spellings of the statements that end before the keyword of their declaration. -/
def truncatedSpellings : List (List Text) :=
  [["export".toList, "async".toList], ["export".toList, "default".toList, "async".toList]]

/-- A statement that ends before the keyword of its declaration. -/
def Segment.IsTruncated (segment : Segment) : Prop :=
  segment.tokens.map (·.value) ∈ truncatedSpellings

theorem Segment.isTruncated_iff {first : Token} {more : List Token} :
    (Segment.statement first more).IsTruncated ↔ first.spells "export" = true ∧
      ((∃ word, more = [word] ∧ word.spells "async" = true) ∨
        ∃ word last, more = [word, last] ∧ word.spells "default" = true ∧
          last.spells "async" = true) := by
  simp only [Segment.IsTruncated, Segment.tokens, truncatedSpellings, List.map_cons, List.mem_cons,
    List.not_mem_nil, or_false, List.cons.injEq, List.map_eq_cons_iff, List.map_eq_nil_iff,
    Token.spells_iff]
  constructor
  · rintro (⟨word, last, _, rfl, spelled, rfl⟩ |
      ⟨word, second, _, rfl, default, last, _, rfl, spelled, rfl⟩)
    · exact ⟨word, .inl ⟨last, rfl, spelled⟩⟩
    · exact ⟨word, .inr ⟨second, last, rfl, default, spelled⟩⟩
  · rintro ⟨word, ⟨last, rfl, spelled⟩ | ⟨second, last, rfl, default, spelled⟩⟩
    · exact .inl ⟨word, last, [], rfl, spelled, rfl⟩
    · exact .inr ⟨word, second, _, rfl, default, last, [], rfl, spelled, rfl⟩

theorem Declaration.map_eq_error {ε α β : Type} {f : α → β} {read : Except ε α} {fault : ε} :
    read.map f = .error fault ↔ read = .error fault := by
  cases read <;> simp [Except.map]

/-! ## Declarations -/

namespace Declaration

variable {tokens : List Token} {fault : ExtractFault}

theorem readKeyword_eq_error_iff : readKeyword tokens = .error fault ↔ tokens = [] := by
  cases tokens with
  | nil => cases fault; simp [readKeyword]
  | cons keyword rest =>
      simp only [readKeyword, reduceCtorEq, iff_false]
      split
      · simp
      · split <;> simp

/-- A declaration without its keyword. -/
theorem read_eq_error_iff : read tokens = .error fault ↔
    tokens = [] ∨ ∃ word, tokens = [word] ∧ word.spells "async" = true := by
  cases tokens with
  | nil => cases fault; simp [read]
  | cons first rest =>
      cases spelled : first.spells "async" with
      | true => simp [read, spelled, readKeyword_eq_error_iff, and_assoc]
      | false => simp [read, spelled, readKeyword_eq_error_iff, and_assoc]

end Declaration

/-! ## Statements -/

namespace Record

variable {make : Text → Kind → Bool → Symbol} {tokens : List Token} {fault : ExtractFault}

/-- An export fails just if the declaration that it exports has no keyword. -/
theorem readExport_eq_error_iff : readExport make tokens = .error fault ↔
    (∃ word, tokens = [word] ∧ word.spells "async" = true) ∨
      ∃ word last, tokens = [word, last] ∧ word.spells "default" = true ∧
        last.spells "async" = true := by
  cases tokens with
  | nil => simp [readExport]
  | cons second rest =>
      have shape : ((∃ word, second :: rest = [word] ∧ word.spells "async" = true) ∨
          ∃ word last, second :: rest = [word, last] ∧ word.spells "default" = true ∧
            last.spells "async" = true) ↔
          (rest = [] ∧ second.spells "async" = true) ∨ ∃ last, rest = [last] ∧
            second.spells "default" = true ∧ last.spells "async" = true := by
        simp [and_assoc]
      rw [shape]
      rcases exportShape second rest with star | brace | ⟨word, keyword⟩ | ⟨word, keyword⟩ | keyword |
        ⟨star, brace, word, keyword⟩
      · have async : second.spells "async" = false := Token.not_spells star (by decide)
        have default : second.spells "default" = false := Token.not_spells star (by decide)
        simp [readExport_star star, async, default]
      · have async : second.spells "async" = false :=
          Token.not_spells_of_isMark brace (by decide)
        have default : second.spells "default" = false :=
          Token.not_spells_of_isMark brace (by decide)
        simp [readExport_brace brace, async, default]
      · have filled : rest ≠ [] := by
          rintro rfl
          simp at keyword
        rw [readExport_default word keyword, Declaration.map_eq_error,
          Declaration.read_eq_error_iff]
        simp [filled, word]
      · have async : second.spells "async" = false := Token.not_spells word (by decide)
        have finished : ¬ ∃ last, rest = [last] ∧ last.spells "async" = true := by
          rintro ⟨last, rfl, async⟩
          simp [defaultKeywords, Token.spells_iff.1 async] at keyword
        simpa [readExport_value word keyword, word, async] using finished
      · rw [readExport_declaration keyword, Declaration.map_eq_error,
          Declaration.read_eq_error_iff]
        simp [(keyword_cases keyword).2.2, and_assoc]
      · have async : second.spells "async" = false := (Bool.or_eq_false_iff.1 keyword).2
        simp [readExport_other star brace word keyword, async, word]

/-- A statement fails just if it is an export that is cut off, or a function without its keyword. -/
theorem read_eq_error_iff {path undocumented : Text} {doc following : Option Token} {first : Token}
    {more : List Token} :
    Record.read path undocumented doc first more following = .error fault ↔
      Segment.isStarter first following = true ∧
        ((Segment.statement first more).IsTruncated ∨
          (more = [] ∧ first.spells "async" = true)) := by
  rw [Segment.isTruncated_iff]
  cases starts : Segment.isStarter first following with
  | false => simp [read_aside starts]
  | true =>
      cases importWord : first.spells "import" with
      | true =>
          have exportWord : first.spells "export" = false := Token.not_spells importWord (by decide)
          have async : first.spells "async" = false := Token.not_spells importWord (by decide)
          simp [read_import starts importWord, exportWord, async]
      | false =>
          cases exportWord : first.spells "export" with
          | true =>
              have async : first.spells "async" = false := Token.not_spells exportWord (by decide)
              rw [read_export starts exportWord, Declaration.map_eq_error, readExport_eq_error_iff]
              simp [async]
          | false =>
              rw [read_declaration starts importWord exportWord, Declaration.map_eq_error,
                Declaration.read_eq_error_iff]
              simp [and_assoc]

end Record

/-! ## Modules -/

/-- A statement that begins with `async` is one because a function follows, and has it. -/
theorem Segment.statementFrom_async {token : Token} {rest : List Token}
    (starts : isStarter token rest.head? = true) (async : token.spells "async" = true) :
    (statementFrom token rest).1 ≠ [] := by
  have value := Token.spells_iff.1 async
  have function : rest.head?.any (·.spells "function") = true := by
    have other : declarationKeywords.contains token.value = false := by
      simp [declarationKeywords, value]
    have exportWord : token.spells "export" = false := Token.not_spells async (by decide)
    have importWord : token.spells "import" = false := Token.not_spells async (by decide)
    simp only [isStarter, other, exportWord, importWord, async] at starts
    split at starts
    · cases starts
    · exact starts
  cases rest with
  | nil => simp at function
  | cons next others =>
      have word : next.spells "function" = true := by simpa using function
      have stops : token.isMark ';' = false ∧ next.isMark ';' = false :=
        ⟨Token.not_isMark_of_spells async (by decide), Token.not_isMark_of_spells word (by decide)⟩
      have plain : next.isDoc = false := by
        simp [Token.isDoc, Lexeme.isDoc, Text.startsWith, Token.spells_iff.1 word]
      have joined : isBoundary token next others.head? = false := by
        simp [isBoundary, plain, continuations, value]
      rw [statementFrom_eq stops.1, statementRest_goesOn fun _ => ⟨stops.2, joined⟩]
      exact List.cons_ne_nil _ _

/-- Of the statements of a module, only those fail that are cut off. -/
theorem Record.read_statementFrom_eq_error_iff {path undocumented : Text} {doc : Option Token}
    {fault : ExtractFault} {token : Token} {rest : List Token}
    (plain : token.spells "export" = true →
      token.isString = false ∧ token.isPunctuation = false) :
    Record.read path undocumented doc token (Segment.statementFrom token rest).1 rest.head? =
        .error fault ↔
      (Segment.statement token (Segment.statementFrom token rest).1).IsTruncated := by
  rw [Record.read_eq_error_iff]
  constructor
  · rintro ⟨starts, truncated | ⟨nothing, async⟩⟩
    · exact truncated
    · exact absurd nothing (Segment.statementFrom_async starts async)
  · intro truncated
    have word := (Segment.isTruncated_iff.1 truncated).1
    exact ⟨by simp [Segment.isStarter, plain word, word], .inl truncated⟩

end ExportDocs
