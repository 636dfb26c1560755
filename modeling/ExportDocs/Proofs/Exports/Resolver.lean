/-
# ExportDocs.Proofs.Exports.Resolver -- extractions against a resolver with a state

A resolver that does not fail may still do what it likes with a question: remember it, answer the
same one differently the next time, or have no answer at all.  `Resolver.extract` runs an extraction
against such a resolver and writes the transcript.

* `run_extract`: the transcript has the questions of the outline, in order, and the symbols are made
  of it; nothing else of the result comes from the resolver.
* `requests_are_static`: what a module asks for does not depend on what it is told, and every
  question has its reason in the statements of the module.
-/
import ExportDocs.Proofs.Exports.Requests

namespace ExportDocs

set_option autoImplicit false

/-! ## Runs with a transcript -/

/-- A resolver with a state of its own, which may have no answer. -/
abbrev Resolver (σ : Type) := Text → StateM σ (Option (List Symbol))

namespace Resolver

variable {σ : Type}

/-- Answers a question, no answer counting as no symbols, and writes both down. -/
def noting (resolve : Resolver σ) (specifier : Text) :
    StateT Transcript (StateM σ) (List Symbol) := do
  let symbols := (← resolve specifier).getD []
  modify (· ++ [(specifier, symbols)])
  return symbols

/-- What the extraction of a module comes to with a resolver in a given state, and the
transcript. -/
def extract (resolve : Resolver σ) (start : σ) (path undocumented source : Text) :
    Except ExtractFault Extraction × Transcript :=
  (((ExportDocs.extract path undocumented source resolve.noting).run []).run start).1

/-- Every answer of a transcript is one that the resolver gives to its question in some state. -/
def Gave (resolve : Resolver σ) (transcript : Transcript) : Prop :=
  ∀ entry ∈ transcript, ∃ state, entry.2 = ((resolve entry.1).run state).1.getD []

/-- Questions asked in order are written down in order, each with one answer. -/
theorem run_mapM_noting (resolve : Resolver σ) (questions : List Text) :
    ∀ (noted : Transcript) (start : σ), ∃ answers after, answers.length = questions.length ∧
      resolve.Gave (questions.zip answers) ∧
      ((questions.mapM resolve.noting).run noted).run start =
        ((answers, noted ++ questions.zip answers), after) := by
  induction questions with
  | nil =>
      intro noted start
      refine ⟨[], start, rfl, by simp [Gave], ?_⟩
      rw [List.zip_nil_left, List.append_nil]
      rfl
  | cons question rest ih =>
      intro noted start
      let run := (resolve question).run start
      let answer := run.1.getD []
      obtain ⟨answers, after, same, gave, ran⟩ := ih (noted ++ [(question, answer)]) run.2
      refine ⟨answer :: answers, after, by simp [same],
        List.forall_mem_cons.2 ⟨⟨start, rfl⟩, gave⟩, ?_⟩
      rw [List.mapM_cons]
      change (
        let later := ((rest.mapM resolve.noting).run (noted ++ [(question, answer)])).run run.2
        ((answer :: later.1.1, later.1.2), later.2)) = _
      rw [ran]
      simp

/-- Without an outline nothing is asked. -/
theorem run_extract_error {path undocumented source : Text} {fault : ExtractFault}
    (refused : Outline.ofSource path undocumented source = .error fault) (resolve : Resolver σ)
    (start : σ) : resolve.extract start path undocumented source = (.error fault, []) := by
  simp only [extract, ExportDocs.extract, refused]
  rfl

/-- The transcript has the questions of the outline, in order, and the symbols are made of it; what
else an extraction returns is read off the outline. -/
theorem run_extract {path undocumented source : Text} {outline : Outline}
    (outlined : Outline.ofSource path undocumented source = .ok outline)
    {Made : Transcript → List Symbol → Prop}
    (asks : AsksFor outline.requests Made fun _ _ resolve => outline.document resolve)
    (resolve : Resolver σ) (start : σ) :
    ∃ symbols transcript, transcript.map Prod.fst = outline.requests ∧ resolve.Gave transcript ∧
      Made transcript symbols ∧ resolve.extract start path undocumented source =
        (.ok { symbols, tokens := outline.dump, statements := outline.statements },
          transcript) := by
  obtain ⟨compose, made, factors⟩ := asks
  obtain ⟨answers, after, same, gave, ran⟩ := resolve.run_mapM_noting outline.requests [] start
  refine ⟨compose answers, outline.requests.zip answers, List.map_fst_zip (by omega), gave,
    made answers same, ?_⟩
  unfold extract ExportDocs.extract
  rw [outlined]
  simp only [factors]
  change (let run := ((outline.requests.mapM resolve.noting).run []).run start
    ((Except.ok { symbols := compose run.1.1, tokens := outline.dump,
                  statements := outline.statements : Extraction }, run.1.2) :
      Except ExtractFault Extraction × Transcript)) = _
  rw [ran]
  rfl

end Resolver

/-! ## Why a module is asked for -/

/-- The names of its own module that an export statement makes known. -/
def Form.localNames : Form → List Text
  | .exportsDefault _ name => [name]
  | .exportsNamed bindings none => bindings.map Prod.fst
  | _ => []

/-- The statements give a reason to ask for a module: one of them exports from it, or one imports
from it a name that another one exports. -/
def HasReason (statements : List Statement) (request : Text) : Prop :=
  (∃ statement ∈ statements, statement.form.isExport ∧ statement.form.source = some request) ∨
    ∃ importing ∈ statements, ∃ exporting ∈ statements, ∃ bindings,
      importing.form = .imports bindings (some request) ∧
        ∃ name ∈ exporting.form.localNames, name ∈ bindings.map Prod.snd

namespace Outline

variable {outline : Outline} {name source imported : Text}

/-- The last import of a name counts. -/
theorem import?_eq_some_iff {origin : Text × Text} : outline.import? name = some origin ↔
    ∃ earlier later, outline.importBindings = earlier ++ (name, origin) :: later ∧
      ∀ binding ∈ later, binding.1 ≠ name := by
  unfold import?
  rw [List.lookup_eq_some_iff]
  constructor
  · rintro ⟨later, earlier, split, others⟩
    refine ⟨earlier.reverse, later.reverse, ?_, fun binding member same => ?_⟩
    · rw [← List.reverse_reverse outline.importBindings, split]
      simp
    · have apart := others binding (List.mem_reverse.1 member)
      simp [same] at apart
  · rintro ⟨earlier, later, split, others⟩
    refine ⟨later.reverse, earlier.reverse, by simp [split], fun binding member => ?_⟩
    have apart := others binding (List.mem_reverse.1 member)
    simpa using apart.symm

/-- A name that was imported stands in an import statement. -/
theorem import?_eq_some (found : outline.import? name = some (source, imported)) :
    ∃ statement ∈ outline.statements, ∃ bindings,
      statement.form = .imports bindings (some source) ∧ (imported, name) ∈ bindings := by
  obtain ⟨earlier, later, split, -⟩ := import?_eq_some_iff.1 found
  have member : (name, source, imported) ∈ outline.importBindings := by simp [split]
  obtain ⟨statement, here, stands⟩ := List.mem_flatMap.1 member
  refine ⟨statement, here, ?_⟩
  cases form : statement.form with
  | imports bindings from? =>
      cases from? with
      | none => simp [form] at stands
      | some other =>
          simp only [form, List.mem_map, Prod.mk.injEq] at stands
          obtain ⟨⟨first, second⟩, bound, rfl, rfl, rfl⟩ := stands
          exact ⟨bindings, rfl, bound⟩
  | _ => simp [form] at stands

/-- To document a local name, the module is asked that it was imported from. -/
theorem mem_bindingRequests (asked : source ∈ outline.bindingRequests name) :
    ∃ statement ∈ outline.statements, ∃ bindings,
      statement.form = .imports bindings (some source) ∧ name ∈ bindings.map Prod.snd := by
  unfold bindingRequests at asked
  cases declared : outline.declaration? name with
  | some symbol => simp [declared] at asked
  | none =>
      cases found : outline.import? name with
      | none => simp [declared, found] at asked
      | some origin =>
          obtain ⟨other, imported⟩ := origin
          simp only [declared, found] at asked
          split at asked
          · simp at asked
          · obtain rfl := List.mem_singleton.1 asked
            obtain ⟨statement, here, bindings, form, bound⟩ := import?_eq_some found
            exact ⟨statement, here, bindings, form, List.mem_map_of_mem bound⟩

/-- A statement that exports a local name gives a reason for every question about it. -/
theorem hasReason_of_localName {exporting : Statement} (here : exporting ∈ outline.statements)
    (known : name ∈ exporting.form.localNames) (asked : source ∈ outline.bindingRequests name) :
    HasReason outline.statements source := by
  obtain ⟨importing, there, bindings, form, bound⟩ := mem_bindingRequests asked
  exact .inr ⟨importing, there, exporting, here, bindings, form, name, known, bound⟩

theorem hasReason_of_mem_formRequests {statement : Statement}
    (here : statement ∈ outline.statements)
    (asked : source ∈ outline.formRequests statement.form) :
    HasReason outline.statements source := by
  cases form : statement.form with
  | exportsAll newName from? =>
      cases from? with
      | none => simp [form, formRequests] at asked
      | some other =>
          obtain rfl : source = other := by simpa [form, formRequests] using asked
          exact .inl ⟨statement, here, by simp [form, Form.isExport], by simp [form, Form.source]⟩
  | exportsDefault kind name =>
      have about : source ∈ outline.bindingRequests name := by
        simpa [form, formRequests] using asked
      exact hasReason_of_localName here (by simp [form, Form.localNames]) about
  | exportsNamed pairs from? =>
      cases from? with
      | none =>
          have about : ∃ pair ∈ pairs, source ∈ outline.bindingRequests pair.1 := by
            simpa only [form, formRequests, List.mem_flatMap] using asked
          obtain ⟨pair, member, about⟩ := about
          have known : pair.1 ∈ statement.form.localNames := by
            simpa only [form, Form.localNames] using List.mem_map_of_mem member
          exact hasReason_of_localName here known about
      | some other =>
          obtain rfl : source = other := by simpa [form, formRequests] using asked
          exact .inl ⟨statement, here, by simp [form, Form.isExport], by simp [form, Form.source]⟩
  | _ => simp [form, formRequests] at asked

/-- Every question of an outline has its reason in the statements. -/
theorem hasReason_of_mem_requests (asked : source ∈ outline.requests) :
    HasReason outline.statements source := by
  obtain ⟨record, member, asked⟩ := List.mem_flatMap.1 asked
  unfold recordRequests at asked
  split at asked
  · simp at asked
  · cases stated : record.statement with
    | none => simp [stated] at asked
    | some statement =>
        have here : statement ∈ outline.statements :=
          List.mem_filterMap.2 ⟨record, member, stated⟩
        rw [stated] at asked
        exact hasReason_of_mem_formRequests here asked

end Outline

/-- **What a module asks for does not depend on what it is told.**  With any two resolvers, in any
state and whatever they answer, the extractions of a source both fail in the same way or both return
with the same statements and tokens, and ask the same questions in the same order; and every
question has its reason in the statements. -/
theorem requests_are_static {σ σ' : Type} (resolve : Resolver σ) (resolve' : Resolver σ')
    (start : σ) (start' : σ') (path undocumented source : Text) :
    let run := resolve.extract start path undocumented source
    let run' := resolve'.extract start' path undocumented source
    run.1.map (fun extraction => (extraction.statements, extraction.tokens)) =
      run'.1.map (fun extraction => (extraction.statements, extraction.tokens)) ∧
    run.2.map Prod.fst = run'.2.map Prod.fst ∧
    ∀ request ∈ run.2.map Prod.fst, ∃ extraction, run.1 = .ok extraction ∧
      HasReason extraction.statements request := by
  intro run run'
  cases outlined : Outline.ofSource path undocumented source with
  | error fault => simp [run, run', Resolver.run_extract_error outlined]
  | ok outline =>
      have asks := asks_iff.1 outline.document_asks
      obtain ⟨symbols, transcript, asked, -, -, ran⟩ :=
        Resolver.run_extract outlined asks resolve start
      obtain ⟨symbols', transcript', asked', -, -, ran'⟩ :=
        Resolver.run_extract outlined asks resolve' start'
      simp only [run, run', ran, ran']
      refine ⟨rfl, asked.trans asked'.symm, fun request member => ⟨_, rfl, ?_⟩⟩
      rw [asked] at member
      exact Outline.hasReason_of_mem_requests member

/-- A resolver without answers against one that answers the first question only: both are asked for
the module of an imported name that is exported again, and for the module that is passed on. -/
theorem requests_are_static_of_import :
    let source := "import { a as b } from './x'; export { b as c }; export * from './y'".toList
    let silent : Resolver Unit := fun _ => return none
    let fickle : Resolver Bool := fun specifier => do
      let asked ← get
      set true
      return if asked then none else some [{ path := specifier, name := ['a'] }]
    let run := silent.extract () [] [] source
    let run' := fickle.extract false [] [] source
    run.2 = [("./x".toList, []), ("./y".toList, [])] ∧
    run'.2.map Prod.fst = run.2.map Prod.fst ∧
    ∃ extraction, run.1 = .ok extraction ∧ HasReason extraction.statements "./x".toList := by
  intro source silent fickle
  have transcript : (silent.extract () [] [] source).2 = [("./x".toList, []), ("./y".toList, [])] :=
    by decide +kernel
  obtain ⟨-, same, reasons⟩ := requests_are_static silent fickle () false [] [] source
  refine ⟨transcript, same.symm, reasons _ ?_⟩
  rw [transcript]
  exact List.mem_cons_self

end ExportDocs
