/-
# ExportDocs.Proofs.Exports.Bounds -- the accesses of an extraction stay within bounds

The scanner of `ExportDocs.Proofs.Exports.Scanner` fetches tokens by their index, and an access
outside a list ends its run.  On a list of tokens, however it is cut off, it makes no such access but
one: a statement that is `export async` or `export default async` and nothing more has no keyword
after `async`, and the keyword is fetched behind the end of the statement.

* `Outline.readSpan_eq_error_iff`: these are the only statements of a module that cannot be read.
* `extract_fails_iff`: so an extraction fails just on them, with that access, and returns otherwise.
-/
import ExportDocs.Proofs.Exports.Resolver
import ExportDocs.Proofs.Exports.Scanner.Records
import ExportDocs.Proofs.Exports.Truncation
import ExportDocs.Proofs.Token.Opening

namespace ExportDocs

set_option autoImplicit false

/-- The statement with a span ends before the keyword of its declaration. -/
def Span.IsTruncated (tokens : List Token) (span : Span) : Prop :=
  (span.slice tokens).map (·.value) ∈ truncatedSpellings

/-! ## Modules that cannot be read -/

/-- A statement among the segments was begun at its first token. -/
theorem Segment.exists_statementFrom {all : List Token} : ∀ {before after : List Segment}
    {first : Token} {more : List Token}, split all = before ++ .statement first more :: after →
    more = (statementFrom first (more ++ after.flatMap tokens)).1 := by
  fun_induction Segment.split all with
  | case1 =>
      intro before after first more parts
      cases before <;> cases parts
  | case2 comment rest isDoc ih =>
      intro before after first more parts
      cases before with
      | nil => cases parts
      | cons segment before => exact ih (List.cons.inj parts).2
  | case3 token rest notDoc ih =>
      intro before after first more parts
      cases before with
      | nil =>
          obtain ⟨same, others⟩ := List.cons.inj parts
          cases same
          rw [← others, flatMap_tokens_split, statementFrom_append]
      | cons segment before => exact ih (List.cons.inj parts).2

section Reading

variable {path undocumented source : Text} {fault : ExtractFault} {span : Span}

/-- Of the statements of a module, those cannot be read that are cut off. -/
theorem Outline.readSpan_eq_error_iff (member : span ∈ Segment.spans (Lexer.tokens source)) :
    readSpan path undocumented (Lexer.tokens source) span = .error fault ↔
      span.IsTruncated (Lexer.tokens source) := by
  obtain ⟨before, first, more, after, parts, slice, read⟩ := exists_readSpan member
  have begun := Segment.exists_statementFrom parts
  have plain : first.spells "export" = true →
      first.isString = false ∧ first.isPunctuation = false := by
    intro word
    have among : first ∈ span.slice (Lexer.tokens source) := by simp [slice]
    refine Lexer.plain_of_head (List.mem_of_mem_drop (List.mem_of_mem_take among)) (c := 'e') ?_
      (by decide)
    rw [Token.spells_iff.1 word]
    rfl
  have reads := @Record.read_statementFrom_eq_error_iff path undocumented
    ((before.flatMap Segment.tokens).getLast?.filter Token.isDoc) fault first
    (more ++ after.flatMap Segment.tokens) plain
  rw [← begun] at reads
  rw [read, Span.IsTruncated, slice]
  exact reads

/-- An outline cannot be made just if some statement is cut off. -/
theorem Outline.ofSource_eq_error_iff : ofSource path undocumented source = .error fault ↔
    ∃ span ∈ Segment.spans (Lexer.tokens source), span.IsTruncated (Lexer.tokens source) := by
  constructor
  · intro refused
    obtain ⟨made, outlined, -⟩ | ⟨span, member, other, unread, -, -⟩ :=
      Scanner.records_cases path undocumented (Lexer.tokens source)
    · rw [ofSource, outlined] at refused
      cases refused
    · exact ⟨span, member, (readSpan_eq_error_iff member).1 unread⟩
  · rintro ⟨span, member, truncated⟩
    cases outlined : ofSource path undocumented source with
    | error other =>
        cases other
        cases fault
        rfl
    | ok outline =>
        obtain ⟨record, -, read⟩ := exists_of_mapM (records_eq_mapM outlined) member
        have unread : readSpan path undocumented (Lexer.tokens source) span = .error fault :=
          (readSpan_eq_error_iff member).2 truncated
        rw [unread] at read
        cases read

end Reading

/-! ## Extractions -/

/-- What the scanner makes of a module with a resolver in a given state, and the transcript. -/
def Resolver.scan {σ : Type} (resolve : Resolver σ) (start : σ) (path undocumented source : Text) :
    Except IndexFault Extraction × Transcript :=
  (((Scanner.extract path undocumented source resolve.noting).run.run []).run start).1

/-- **An extraction stays within bounds, but for a declaration that is cut off.**  With any resolver
that does not fail itself, whatever it answers, the scanner cuts the tokens into statements, and makes
an access outside a list just if one of the statements is `export async` or `export default async` and
nothing more.  The access is the one behind the end of such a statement, for the keyword of the
declaration.  In every other case it returns, with what the extraction returns. -/
theorem extract_fails_iff {σ : Type} (resolve : Resolver σ) (start : σ)
    (path undocumented source : Text) :
    let tokens := Lexer.tokens source
    let scan := resolve.scan start path undocumented source
    let run := resolve.extract start path undocumented source
    let isCut := ∃ span ∈ Segment.spans tokens, span.IsTruncated tokens
    Scanner.spansFrom tokens 0 = .ok (Segment.spans tokens) ∧
    ((∃ fault, scan.1 = .error fault) ↔ isCut) ∧
    ((∃ fault, run.1 = .error fault) ↔ isCut) ∧
    (∀ fault, scan.1 = .error fault →
      (∃ span ∈ Segment.spans tokens, span.IsTruncated tokens ∧
        fault = ⟨.declaration, (span.slice tokens).length, (span.slice tokens).length⟩) ∧
      run.1 = .error .missingKeyword ∧ fault.message = ExtractFault.message .missingKeyword ∧
      fault.message = "list index out of range".toList) ∧
    (¬ isCut → ∃ extraction transcript, scan = (.ok extraction, transcript) ∧
      run = (.ok extraction, transcript)) := by
  intro tokens scan run isCut
  obtain ⟨own, same, fails⟩ := Scanner.extract_eq path undocumented source resolve.noting
  have scans : scan = (run.1.mapError (Scanner.pastEnd own), run.2) := by
    unfold scan run Resolver.scan Resolver.extract
    rw [same]
    rfl
  cases outlined : Outline.ofSource path undocumented source with
  | error missing =>
      have cut : isCut := Outline.ofSource_eq_error_iff.1 outlined
      have ran : run = (.error missing, []) := Resolver.run_extract_error outlined resolve start
      have scanned : scan = (.error (Scanner.pastEnd own missing), []) := by rw [scans, ran]; rfl
      obtain ⟨span, member, ends, unread⟩ := fails missing outlined
      refine ⟨Scanner.spansFrom_zero tokens, by simp [scanned, cut], by simp [ran, cut],
        fun fault failed => ?_, fun whole => absurd cut whole⟩
      rw [scanned, ends] at failed
      cases failed
      cases missing
      exact ⟨⟨span, member, (Outline.readSpan_eq_error_iff member).1 unread, rfl⟩, by rw [ran], rfl,
        rfl⟩
  | ok outline =>
      obtain ⟨symbols, transcript, -, -, -, ran⟩ :=
        Resolver.run_extract outlined (asks_iff.1 outline.document_asks) resolve start
      have scanned : scan = (.ok ⟨symbols, outline.dump, outline.statements⟩, transcript) := by
        rw [scans]
        unfold run
        rw [ran]
        rfl
      have whole : ¬ isCut := by
        intro cut
        have refused : Outline.ofSource path undocumented source = .error .missingKeyword :=
          Outline.ofSource_eq_error_iff.2 cut
        rw [outlined] at refused
        cases refused
      refine ⟨Scanner.spansFrom_zero tokens, by simp [scanned, whole], by simp [run, ran, whole],
        fun fault failed => ?_, fun _ => ⟨_, _, scanned, ran⟩⟩
      rw [scanned] at failed
      cases failed

end ExportDocs
