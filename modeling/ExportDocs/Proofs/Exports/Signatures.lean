/-
# ExportDocs.Proofs.Exports.Signatures -- the exports of a module are those of its statements

The statements of a module are recorded on a first pass, its symbols are documented on a second one
from other records, with shortcuts of their own.  This module shows that the two agree: each
statement contributes the names that its form says (`Form.exports`), in order, whatever becomes of
the questions about them.  Only a statement that passes on another module depends on an answer, and
the answers that such statements take are, in their order, answers of the transcript.

* `exports_of_statements`: the names of the symbols are the names of the statements.
-/
import ExportDocs.Proofs.Exports.Records
import ExportDocs.Proofs.Exports.Resolver

namespace ExportDocs

set_option autoImplicit false

/-- The name of an exported symbol and whether it is the default export. -/
def Symbol.signature (symbol : Symbol) : Text × Bool := (symbol.name, symbol.isDefault)

@[simp] theorem Symbol.signature_renamed (symbol : Symbol) (name : Text) (isDefault : Bool) :
    (symbol.renamed name isDefault).signature = (name, isDefault) := rfl

@[simp] theorem Record.signature_symbol (path undocumented : Text) (doc : Option Token)
    (first : Token) (more : List Token) (name : Text) (kind : Kind) (isDefault : Bool) :
    (Record.symbol path undocumented doc first more name kind isDefault).signature =
      (name, isDefault) := rfl

/-! ## What a statement exports -/

namespace Form

/-- The names that a statement exports, where `answer` gives the symbols of a module. -/
def exports (answer : Text → List Symbol) : Form → List (Text × Bool)
  | .exportsDeclaration _ names => names.map fun name => (name, false)
  | .exportsDefault _ name => [(name, true)]
  | .exportsNamed bindings _ =>
    bindings.map fun binding => (binding.2, binding.2 == "default".toList)
  | .exportsAll (some newName) _ => [(newName, false)]
  | .exportsAll none (some source) =>
    ((answer source).filter fun symbol => !symbol.isDefault).map Symbol.signature
  | .exportsAll none none => []
  | .imports .. => []
  | .declares .. => []

/-- The question about a module that a statement passes on, with its answer. -/
def passesOn (answer : List Symbol) : Form → Transcript
  | .exportsAll none (some source) => [(source, answer)]
  | _ => []

/-- These symbols have the names that the statement exports, with an answer of the transcript if it
passes on a module. -/
def Contributes (form : Form) (transcript : Transcript) (symbols : List Symbol) : Prop :=
  ∃ answer, (form.passesOn answer).Sublist transcript ∧
    symbols.map Symbol.signature = form.exports fun _ => answer

variable {make : Text → Kind → Bool → Symbol} {form : Form} {transcript : Transcript}
  {symbols : List Symbol}

theorem Contributes.of_names (alone : form.passesOn [] = [])
    (names : symbols.map Symbol.signature = form.exports fun _ => []) :
    form.Contributes transcript symbols :=
  ⟨[], alone ▸ List.nil_sublist _, names⟩

/-- What a statement exports where it stands has the names of its form. -/
theorem contributes_inline
    (named : ∀ name kind isDefault, (make name kind isDefault).signature = (name, isDefault))
    (loud : form.inline make ≠ []) : form.Contributes transcript (form.inline make) := by
  cases form with
  | exportsDeclaration kind names =>
      refine .of_names rfl ?_
      simp [inline, exports, named, Function.comp_def]
  | exportsDefault kind name =>
      cases kind with
      | none => simp [inline] at loud
      | some kind => exact .of_names rfl (by simp [inline, exports, named])
  | exportsAll newName source =>
      cases newName with
      | none => simp [inline] at loud
      | some newName => exact .of_names rfl (by simp [inline, exports, named])
  | _ => simp [inline] at loud

end Form

/-- What a record contributes is what its statement exports. -/
def Record.Contributes (record : Record) (transcript : Transcript) (symbols : List Symbol) : Prop :=
  match record.statement with
  | some statement => statement.form.Contributes transcript symbols
  | none => symbols = []

namespace Outline

variable (outline : Outline) {make : Text → Kind → Bool → Symbol}

theorem signatures_of_parted {pairs : List (Text × Text)} {transcript : Transcript}
    {symbols : List Symbol}
    (parted : Parted (fun (pair : Text × Text) _ (symbol : Symbol) =>
      symbol.signature = (pair.2, pair.2 == "default".toList)) pairs transcript symbols) :
    symbols.map Symbol.signature = pairs.map fun pair => (pair.2, pair.2 == "default".toList) := by
  induction parted with
  | nil => rfl
  | cons here _ ih => rw [List.map_cons, List.map_cons, here, ih]

/-- A statement that exports nothing where it stands contributes what its form says. -/
theorem documentForm_contributes (line : Nat) {form : Form} (quiet : form.inline make = []) :
    AsksFor (outline.formRequests form) form.Contributes
      fun _ _ resolve => outline.documentForm resolve line form := by
  cases form with
  | imports bindings source => exact .of_pure (.of_names rfl rfl)
  | declares kind names => exact .of_pure (.of_names rfl rfl)
  | exportsDeclaration kind names =>
      obtain rfl : names = [] := by simpa [Form.inline] using quiet
      exact .of_pure (.of_names rfl rfl)
  | exportsDefault kind name =>
      exact (outline.documentBinding_asks name line).mapFor _ fun _ _ => .of_names rfl rfl
  | exportsNamed pairs source =>
      cases source with
      | none =>
          refine AsksFor.mono (AsksFor.mapM pairs fun pair _ => ?_)
            fun _ _ parted => .of_names rfl (signatures_of_parted parted)
          exact (outline.documentBinding_asks pair.1 line).mapFor _ fun _ _ => rfl
      | some source =>
          refine .of_resolve fun answer => .of_names rfl ?_
          simp [Form.exports, Function.comp_def]
  | exportsAll newName source =>
      cases newName with
      | some newName => simp [Form.inline] at quiet
      | none =>
          cases source with
          | none => exact .of_pure (.of_names rfl rfl)
          | some source => exact .of_resolve fun answer => ⟨answer, List.Sublist.refl _, rfl⟩

theorem documentRecord_contributes
    (named : ∀ name kind isDefault, (make name kind isDefault).signature = (name, isDefault))
    {line : Nat} {record : Record} (reads : record.Reads make line) :
    AsksFor (outline.recordRequests record) record.Contributes
      fun _ _ resolve => outline.documentRecord resolve record := by
  cases reads with
  | silent dump => exact .of_pure rfl
  | stated form declared dump declares =>
      change AsksFor _ form.Contributes _
      unfold recordRequests documentRecord
      by_cases quiet : form.inline make = []
      · simpa [quiet] using outline.documentForm_contributes line quiet
      · simpa [quiet] using AsksFor.of_pure (Form.contributes_inline named quiet)

/-- The contributions of the records in order, each made of its own piece of the transcript. -/
theorem document_contributes {path undocumented source : Text}
    (outlined : ofSource path undocumented source = .ok outline) :
    AsksFor outline.requests
      (fun transcript symbols => ∃ parts, symbols = parts.flatten ∧
        Parted Record.Contributes outline.records transcript parts)
      fun _ _ resolve => outline.document resolve := by
  have each : ∀ record ∈ outline.records, AsksFor (outline.recordRequests record)
      record.Contributes fun _ _ resolve => outline.documentRecord resolve record := by
    intro record member
    obtain ⟨doc, first, more, -, reads⟩ := (reads_of_ofSource outlined).2 record member
    exact outline.documentRecord_contributes (Record.signature_symbol _ _ doc first more) reads
  exact (AsksFor.mapM outline.records each).map List.flatten
    fun _ parts parted => ⟨parts, rfl, parted⟩

end Outline

/-! ## What a module exports -/

/-- Each statement with the answer that it was told, if it passes on a module. -/
abbrev Told := List (Statement × List Symbol)

/-- Contributions record by record are contributions statement by statement. -/
theorem told_of_parted {records : List Record} {transcript : Transcript}
    {parts : List (List Symbol)} (parted : Parted Record.Contributes records transcript parts) :
    ∃ told : Told, told.map Prod.fst = records.filterMap (·.statement) ∧
      (told.flatMap fun entry => entry.1.form.passesOn entry.2).Sublist transcript ∧
      parts.flatten.map Symbol.signature =
        told.flatMap fun entry => entry.1.form.exports fun _ => entry.2 := by
  induction parted with
  | nil => exact ⟨[], rfl, List.Sublist.refl _, rfl⟩
  | @cons record records piece rest symbols parts here _ ih =>
      obtain ⟨told, statements, passed, names⟩ := ih
      unfold Record.Contributes at here
      cases stated : record.statement with
      | none =>
          obtain rfl : symbols = [] := by simpa [stated] using here
          refine ⟨told, ?_, passed.trans (List.sublist_append_right _ _), names⟩
          rw [List.filterMap_cons_none stated, statements]
      | some statement =>
          rw [stated] at here
          obtain ⟨answer, passedHere, namesHere⟩ := here
          refine ⟨(statement, answer) :: told, ?_, passedHere.append passed, ?_⟩
          · rw [List.filterMap_cons_some stated, List.map_cons, statements]
          · rw [List.flatten_cons, List.map_append, namesHere, names, List.flatMap_cons]

/-- If a resolver always gives the same answers, a statement is told these. -/
theorem exports_of_told {told : Told} {transcript : Transcript} (answers : Text → List Symbol)
    (passed : (told.flatMap fun entry => entry.1.form.passesOn entry.2).Sublist transcript)
    (same : ∀ entry ∈ transcript, entry.2 = answers entry.1) :
    (told.flatMap fun entry => entry.1.form.exports fun _ => entry.2) =
      (told.map Prod.fst).flatMap fun statement => statement.form.exports answers := by
  rw [List.flatMap_map, List.flatMap_def, List.flatMap_def]
  refine congrArg List.flatten (List.map_congr_left fun entry member => ?_)
  obtain ⟨statement, answer⟩ := entry
  cases form : statement.form with
  | exportsAll newName source =>
      cases newName with
      | some newName => rfl
      | none =>
          cases source with
          | none => rfl
          | some source =>
              have asked : (source, answer) ∈ transcript :=
                passed.subset (List.mem_flatMap.2 ⟨_, member, by simp [form, Form.passesOn]⟩)
              obtain rfl : answer = answers source := same _ asked
              rfl
  | _ => rfl

/-- **No export is lost, invented or reordered.**  When an extraction returns, the names of its
symbols are those that its statements export, in order.  A statement that passes on a module exports
the names of the symbols in an answer about this module that are not the default export; these
answers stand in the transcript in the order of the statements.  If the resolver always gives the
same answer about a module, it is this answer. -/
theorem exports_of_statements {σ : Type} (resolve : Resolver σ) (start : σ)
    (path undocumented source : Text) (extraction : Extraction) (transcript : Transcript)
    (returned : resolve.extract start path undocumented source = (.ok extraction, transcript)) :
    (∃ told : Told, told.map Prod.fst = extraction.statements ∧
      (told.flatMap fun entry => entry.1.form.passesOn entry.2).Sublist transcript ∧
      extraction.symbols.map Symbol.signature =
        told.flatMap fun entry => entry.1.form.exports fun _ => entry.2) ∧
    ∀ answers : Text → Option (List Symbol),
      (∀ specifier, resolve specifier = pure (answers specifier)) →
      extraction.symbols.map Symbol.signature = extraction.statements.flatMap fun statement =>
        statement.form.exports fun specifier => (answers specifier).getD [] := by
  cases outlined : Outline.ofSource path undocumented source with
  | error fault => cases (Resolver.run_extract_error outlined resolve start).symm.trans returned
  | ok outline =>
      obtain ⟨symbols, noted, -, gave, ⟨parts, rfl, parted⟩, ran⟩ :=
        Resolver.run_extract outlined (outline.document_contributes outlined) resolve start
      cases ran.symm.trans returned
      obtain ⟨told, statements, passed, names⟩ := told_of_parted parted
      refine ⟨⟨told, statements, passed, names⟩, fun answers always => ?_⟩
      have same : ∀ entry ∈ transcript, entry.2 = (answers entry.1).getD [] := by
        intro entry member
        obtain ⟨state, given⟩ := gave entry member
        rw [given, always]
        rfl
      rw [names, exports_of_told (fun specifier => (answers specifier).getD []) passed same,
        statements]
      rfl

/-- A module that is passed on twice, by a resolver that knows it the first time only, around an
export of a name that is nowhere declared. -/
theorem exports_of_statements_with_fickle_answers :
    let source := "export * from './x'; export { lost as default }; export * from './x'".toList
    let resolve : Resolver Bool := fun specifier => do
      let asked ← get
      set true
      return if asked then none
        else some [{ path := specifier, name := ['a'] },
          { path := specifier, name := ['b'], isDefault := true }]
    ∃ extraction transcript, resolve.extract false [] [] source = (.ok extraction, transcript) ∧
      extraction.symbols.map Symbol.signature = [(['a'], false), ("default".toList, true)] ∧
      ∃ told : Told, told.map Prod.fst = extraction.statements ∧
        (told.flatMap fun entry => entry.1.form.passesOn entry.2).Sublist transcript ∧
        extraction.symbols.map Symbol.signature =
          told.flatMap fun entry => entry.1.form.exports fun _ => entry.2 := by
  intro source resolve
  have names : (resolve.extract false [] [] source).1.toOption.map
      (fun extraction => extraction.symbols.map Symbol.signature) =
        some [(['a'], false), ("default".toList, true)] := by decide +kernel
  rcases ran : resolve.extract false [] [] source with ⟨fault | extraction, transcript⟩
  · rw [ran] at names
    cases names
  · rw [ran] at names
    exact ⟨extraction, transcript, rfl, Option.some.inj names,
      (exports_of_statements resolve false [] [] source extraction transcript ran).1⟩

end ExportDocs
