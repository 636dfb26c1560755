/-
# ExportDocs.Proofs.Exports.Defaults -- which default exports are passed on

A statement that passes on a module leaves out the symbols that are marked as its default export.
Whether a symbol is marked is settled where it is made, statement by statement.  This module follows
every symbol to the statement and the name that it stems from (`Account`), in the module that makes
it and in one that passes it on.

A name in braces and a default statement mark what they export under the name `default`.  A namespace
under this name is not marked, nor is a declaration of it, so these are passed on
(`star_passes_on_default`).
-/
import ExportDocs.Proofs.Exports.Signatures
import Mathlib.Data.List.Forall2

namespace ExportDocs

set_option autoImplicit false

/-! ## What a statement gives -/

namespace Form

/-- The names under which a statement exports something of its own. -/
def exportedNames (form : Form) : List Text := if form.isExport then form.names.map Prod.snd else []

/-- Whether a statement marks what it exports under the name `default`. -/
def marksDefault : Form → Bool
  | .exportsDefault .. | .exportsNamed .. => true
  | _ => false

/-- A symbol stems from a name that a statement exports: it is found under this name, and it is the
default export if the name says so and the statement marks it. -/
structure Stems (form : Form) (name : Text) (symbol : Symbol) : Prop where
  exported : symbol.exportedName = name
  marked : symbol.isDefault = (name == "default".toList && form.marksDefault)

/-- The symbols that a statement gives: one for each of its names, or what it was told about the
module that it passes on, without the default export. -/
def Gives (told symbols : List Symbol) : Form → Prop
  | .exportsAll none (some _) => symbols = told.filter (!·.isDefault)
  | form => List.Forall₂ form.Stems form.exportedNames symbols

variable {form : Form} {symbols : List Symbol}

theorem forall₂_stems {α : Type} {signature : α → Text × Bool} {exported : α → Text}
    (entries : List α) (names : symbols.map Symbol.signature = entries.map signature)
    (stems : ∀ entry symbol, Symbol.signature symbol = signature entry →
      form.Stems (exported entry) symbol) :
    List.Forall₂ form.Stems (entries.map exported) symbols := by
  induction entries generalizing symbols with
  | nil =>
      obtain rfl : symbols = [] := by simpa using names
      exact .nil
  | cons entry rest ih =>
      obtain ⟨symbol, later, rfl, here, names⟩ := List.map_eq_cons_iff.1 names
      exact .cons (stems entry symbol here) (ih names)

theorem stems_of_unmarked (loose : form.marksDefault = false) (name : Text) (symbol : Symbol)
    (named : symbol.signature = (name, false)) : form.Stems name symbol := by
  obtain ⟨rfl, mark⟩ := Prod.mk.inj named
  exact ⟨by simp [Symbol.exportedName, mark], by simp [mark, loose]⟩

/-- The names and marks of symbols tell what they stem from. -/
theorem gives_of_names {answer : List Symbol}
    (apart : ∀ source, form ≠ .exportsAll none (some source))
    (names : symbols.map Symbol.signature = form.exports fun _ => answer) (told : List Symbol) :
    form.Gives told symbols := by
  cases form with
  | imports bindings source => simpa [Gives, exportedNames, exports, isExport] using names
  | declares kind names => simpa [Gives, exportedNames, exports, isExport] using names
  | exportsDeclaration kind bound =>
      have each : List.Forall₂ (Form.exportsDeclaration kind bound).Stems (bound.map id) symbols :=
        forall₂_stems bound names (stems_of_unmarked rfl)
      simpa [Gives, exportedNames, isExport, Form.names] using each
  | exportsDefault kind name =>
      have signed : symbols.map Symbol.signature = [name].map fun name => (name, true) := names
      change List.Forall₂ _ ([name].map fun _ => "default".toList) symbols
      refine forall₂_stems [name] signed fun entry symbol named => ?_
      obtain ⟨-, mark⟩ := Prod.mk.inj named
      exact ⟨by rw [Symbol.exportedName, mark]; rfl, mark⟩
  | exportsNamed bindings source =>
      refine forall₂_stems bindings names fun binding symbol named => ?_
      obtain ⟨name, mark⟩ := Prod.mk.inj named
      refine ⟨?_, by rw [mark, marksDefault, Bool.and_true]⟩
      rw [Symbol.exportedName, mark, name]
      split
      · rename_i isDefault
        exact (beq_iff_eq.1 isDefault).symm
      · rfl
  | exportsAll newName source =>
      cases newName with
      | some newName => exact forall₂_stems [newName] names (stems_of_unmarked rfl)
      | none =>
          cases source with
          | none => simpa [Gives, exportedNames, exports, isExport, Form.names] using names
          | some source => exact absurd rfl (apart source)

/-- What stems from names and is not left out by the mark. -/
theorem exists_unmarked_iff {names : List Text} (stem : List.Forall₂ form.Stems names symbols) :
    (∃ symbol ∈ symbols.filter (!·.isDefault), symbol.exportedName = "default".toList) ↔
      "default".toList ∈ names ∧ form.marksDefault = false := by
  induction stem with
  | nil => simp
  | @cons name symbol names symbols here _ ih =>
      obtain ⟨exported, marked⟩ := here
      by_cases isDefault : name = "default".toList
      · subst isDefault
        rw [beq_self_eq_true, Bool.true_and] at marked
        cases marks : form.marksDefault with
        | true =>
            rw [List.filter_cons_of_neg (by simp [marked, marks]), ih]
            simp [marks]
        | false =>
            rw [List.filter_cons_of_pos (by simp [marked, marks])]
            exact ⟨fun _ => ⟨List.mem_cons_self, rfl⟩,
              fun _ => ⟨symbol, List.mem_cons_self, exported⟩⟩
      · rw [beq_eq_false_iff_ne.2 isDefault, Bool.false_and] at marked
        have elsewhere : symbol.exportedName ≠ "default".toList := exported ▸ isDefault
        rw [List.filter_cons_of_pos (by simp [marked]), List.exists_mem_cons_iff,
          or_iff_right elsewhere, ih, List.mem_cons, or_iff_right (Ne.symm isDefault)]

/-- The statements that export under the name `default` without marking it. -/
theorem default_unmarked_iff {form : Form} :
    "default".toList ∈ form.exportedNames ∧ form.marksDefault = false ↔
      (∃ source, form = .exportsAll (some "default".toList) source) ∨
        ∃ kind names, form = .exportsDeclaration kind names ∧ "default".toList ∈ names := by
  generalize "default".toList = word
  cases form with
  | exportsAll newName source =>
      cases newName <;> simp [exportedNames, isExport, Form.names, marksDefault, eq_comm]
  | _ => simp [exportedNames, isExport, Form.names, marksDefault]

end Form

/-! ## Where the symbols of a module come from -/

/-- The part of one statement in the symbols of a module; `told` is the answer about the module that
it passes on, if it does. -/
structure Contribution where
  statement : Statement
  told : List Symbol
  symbols : List Symbol

/-- Contributions that make up an extraction, statement by statement, with answers that stand in the
transcript in this order. -/
structure Account (extraction : Extraction) (transcript : Transcript)
    (contributions : List Contribution) : Prop where
  statements : contributions.map (·.statement) = extraction.statements
  symbols : contributions.flatMap (·.symbols) = extraction.symbols
  told : (contributions.flatMap fun contribution =>
    contribution.statement.form.passesOn contribution.told).Sublist transcript
  gives : ∀ contribution ∈ contributions,
    contribution.statement.form.Gives contribution.told contribution.symbols

/-- What a record contributes is what its statement gives. -/
def Record.Gives (record : Record) (transcript : Transcript) (symbols : List Symbol) : Prop :=
  match record.statement with
  | some statement => ∃ told, (statement.form.passesOn told).Sublist transcript ∧
      statement.form.Gives told symbols
  | none => symbols = []

namespace Outline

variable (outline : Outline) {make : Text → Kind → Bool → Symbol}

theorem documentRecord_gives
    (named : ∀ name kind isDefault, (make name kind isDefault).signature = (name, isDefault))
    {line : Nat} {record : Record} (reads : record.Reads make line) :
    AsksFor (outline.recordRequests record) record.Gives
      fun _ _ resolve => outline.documentRecord resolve record := by
  have contributes := outline.documentRecord_contributes named reads
  cases reads with
  | silent dump => exact .of_pure rfl
  | stated form declared dump declares =>
      by_cases passes : ∃ source, form = .exportsAll none (some source)
      · obtain ⟨source, rfl⟩ := passes
        exact .of_resolve fun answer => ⟨answer, List.Sublist.refl _, rfl⟩
      · rw [not_exists] at passes
        refine contributes.mono fun transcript symbols made => ?_
        obtain ⟨answer, passed, names⟩ := made
        exact ⟨answer, passed, Form.gives_of_names passes names answer⟩

theorem document_gives {path undocumented source : Text}
    (outlined : ofSource path undocumented source = .ok outline) :
    AsksFor outline.requests
      (fun transcript symbols => ∃ parts, symbols = parts.flatten ∧
        Parted Record.Gives outline.records transcript parts)
      fun _ _ resolve => outline.document resolve := by
  have each : ∀ record ∈ outline.records, AsksFor (outline.recordRequests record)
      record.Gives fun _ _ resolve => outline.documentRecord resolve record := by
    intro record member
    obtain ⟨doc, first, more, -, reads⟩ := (reads_of_ofSource outlined).2 record member
    exact outline.documentRecord_gives (Record.signature_symbol _ _ doc first more) reads
  exact (AsksFor.mapM outline.records each).map List.flatten
    fun _ parts parted => ⟨parts, rfl, parted⟩

end Outline

/-- Contributions record by record are contributions statement by statement. -/
theorem exists_contributions {records : List Record} {transcript : Transcript}
    {parts : List (List Symbol)} (parted : Parted Record.Gives records transcript parts)
    (tokens : List Token) :
    ∃ contributions, Account
      { symbols := parts.flatten, tokens, statements := records.filterMap (·.statement) }
      transcript contributions := by
  induction parted with
  | nil => exact ⟨[], rfl, rfl, List.Sublist.refl _, by simp⟩
  | @cons record records piece rest symbols parts here _ ih =>
      obtain ⟨contributions, account⟩ := ih
      unfold Record.Gives at here
      cases stated : record.statement with
      | none =>
          obtain rfl : symbols = [] := by simpa [stated] using here
          refine ⟨contributions, ?_, account.symbols,
            account.told.trans (List.sublist_append_right _ _), account.gives⟩
          exact account.statements.trans (List.filterMap_cons_none stated).symm
      | some statement =>
          rw [stated] at here
          obtain ⟨told, passed, gives⟩ := here
          refine ⟨⟨statement, told, symbols⟩ :: contributions, ?_, ?_,
            passed.append account.told, List.forall_mem_cons.2 ⟨gives, account.gives⟩⟩
          · rw [List.map_cons, account.statements]
            exact (List.filterMap_cons_some stated).symm
          · rw [List.flatMap_cons, account.symbols]
            exact List.flatten_cons.symm

/-- Every extraction that returns has an account. -/
theorem exists_account {σ : Type} {resolve : Resolver σ} {start : σ}
    {path undocumented source : Text} {extraction : Extraction} {transcript : Transcript}
    (returned : resolve.extract start path undocumented source = (.ok extraction, transcript)) :
    ∃ contributions, Account extraction transcript contributions := by
  cases outlined : Outline.ofSource path undocumented source with
  | error fault => cases (Resolver.run_extract_error outlined resolve start).symm.trans returned
  | ok outline =>
      obtain ⟨symbols, noted, -, -, ⟨parts, rfl, parted⟩, ran⟩ :=
        Resolver.run_extract outlined (outline.document_gives outlined) resolve start
      cases ran.symm.trans returned
      exact exists_contributions parted outline.dump

/-- **Which default exports are passed on.**  Let one module be extracted, with any resolver, and
another one, with any other.  Where a statement of the second passes on a module and was told the
symbols of the first, it contributes what the statements of the first give without what is marked as
the default export.  Of what a statement of the first exports itself under the name `default`,
something is passed on if and only if the statement puts a whole module under this name, or declares
it. -/
theorem star_passes_on_default {σ σ' : Type} (resolve : Resolver σ) (resolve' : Resolver σ')
    (start : σ) (start' : σ') (path undocumented source path' undocumented' source' : Text)
    (origin relay : Extraction) (transcript transcript' : Transcript)
    (returned : resolve.extract start path undocumented source = (.ok origin, transcript))
    (returned' : resolve'.extract start' path' undocumented' source' = (.ok relay, transcript')) :
    ∃ contributions contributions', Account origin transcript contributions ∧
      Account relay transcript' contributions' ∧
      ∀ star ∈ contributions', ∀ specifier,
        star.statement.form = .exportsAll none (some specifier) → star.told = origin.symbols →
        star.symbols = contributions.flatMap (fun contribution =>
          contribution.symbols.filter (!·.isDefault)) ∧
        ∀ contribution ∈ contributions, contribution.statement.form.passesOn [] = [] →
          ((∃ symbol ∈ contribution.symbols.filter (!·.isDefault),
              symbol.exportedName = "default".toList) ↔
            (∃ other, contribution.statement.form =
              .exportsAll (some "default".toList) other) ∨
            ∃ kind names, contribution.statement.form = .exportsDeclaration kind names ∧
              "default".toList ∈ names) := by
  obtain ⟨contributions, account⟩ := exists_account returned
  obtain ⟨contributions', account'⟩ := exists_account returned'
  refine ⟨contributions, contributions', account, account', fun star member specifier form told =>
    ⟨?_, fun contribution present alone => ?_⟩⟩
  · have gives := account'.gives star member
    rw [form, told, ← account.symbols] at gives
    exact gives.trans List.filter_flatMap
  · have gives := account.gives contribution present
    rw [← Form.default_unmarked_iff]
    refine Form.exists_unmarked_iff ?_
    -- A statement that passes on nothing gives one symbol for each of its names.
    unfold Form.Gives at gives
    split at gives
    · rename_i passes
      simp [passes, Form.passesOn] at alone
    · exact gives

/-- A resolver that has one answer to all questions. -/
def Resolver.telling (told : Option (List Symbol)) : Resolver Unit := fun _ => return told

/-- A module with a namespace and a name in braces, both under the name `default`. -/
def twoDefaults : Except ExtractFault Extraction × Transcript :=
  (Resolver.telling none).extract () [] []
    "export * as default from './x'; export \x7b a as default \x7d".toList

/-- A module that passes on what it is told. -/
def passedOn (told : List Symbol) : Except ExtractFault Extraction × Transcript :=
  (Resolver.telling (some told)).extract () [] [] "export * from './a'".toList

/-- The symbols of the first module. -/
def twoSymbols : List Symbol :=
  [{ path := [], name := "default".toList, kind := .moduleNamespace, firstLine := 1, lastLine := 1 },
    { path := [], name := "default".toList, firstLine := 1, lastLine := 1, isDefault := true }]

theorem two_defaults_run :
    twoDefaults.1.toOption.map Extraction.symbols = some twoSymbols ∧
    (passedOn twoSymbols).1.toOption.map Extraction.symbols = some (twoSymbols.take 1) := by
  decide +kernel

/-- The second module is told the symbols of the first. -/
theorem star_passes_on_default_of_two :
    ∃ origin transcript relay transcript', twoDefaults = (.ok origin, transcript) ∧
      passedOn origin.symbols = (.ok relay, transcript') ∧
      ∃ contributions contributions', Account origin transcript contributions ∧
        Account relay transcript' contributions' ∧
        ∀ star ∈ contributions', ∀ specifier,
          star.statement.form = .exportsAll none (some specifier) → star.told = origin.symbols →
          star.symbols = contributions.flatMap (fun contribution =>
            contribution.symbols.filter (!·.isDefault)) := by
  obtain ⟨first, second⟩ := two_defaults_run
  rcases ran : twoDefaults with ⟨fault | origin, transcript⟩
  · rw [ran] at first
    cases first
  · rw [ran] at first
    rw [← Option.some.inj first] at second
    rcases ran' : passedOn origin.symbols with ⟨fault | relay, transcript'⟩
    · rw [ran'] at second
      cases second
    · obtain ⟨contributions, contributions', account, account', each⟩ :=
        star_passes_on_default _ _ () () _ _ _ _ _ _ origin relay transcript transcript' ran ran'
      exact ⟨origin, transcript, relay, transcript', rfl, ran', contributions, contributions',
        account, account', fun star member specifier form told =>
          (each star member specifier form told).1⟩

/-- **A namespace under the name `default` is passed on**, while a name in braces is left out. -/
theorem namespace_default_is_passed_on :
    twoDefaults.1.toOption.map Extraction.symbols = some twoSymbols ∧
    twoSymbols.map Symbol.exportedName = ["default".toList, "default".toList] ∧
    (passedOn twoSymbols).1.toOption.map Extraction.symbols = some (twoSymbols.take 1) :=
  ⟨two_defaults_run.1, rfl, two_defaults_run.2⟩

end ExportDocs
