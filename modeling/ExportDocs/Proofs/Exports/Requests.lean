/-
# ExportDocs.Proofs.Exports.Requests -- what an extraction asks for

`extract` asks its resolver for other modules in whatever monad the answers are found.  This module
shows that it asks a fixed list of questions and only then looks at the answers: an action `Asks` a
list of specifiers if in every lawful monad it is the questions of that list, in order, followed by
a function of the answers.  Nothing that happens while a question is answered can change the next
question, and an extraction has no other way to touch the monad.

`AsksFor` says in addition how what is made of the answers is related to the questions and answers
in order, the transcript.

* `extract_asks`: an extraction asks what its outline requests.
* `requested_asks`: the list is the one that a resolver writes down which answers with nothing.
-/
import ExportDocs.Imports.Engine

namespace ExportDocs

set_option autoImplicit false

/-! ## Asking -/

/-- Questions with their answers, in order. -/
abbrev Transcript := List (Text × List Symbol)

/-- The action asks for these specifiers, in this order, and makes its result of the answers. -/
def Asks {α : Type} (requests : List Text)
    (action : (m : Type → Type) → [Monad m] → (Text → m (List Symbol)) → m α) : Prop :=
  ∃ compose : List (List Symbol) → α, ∀ (m : Type → Type) [Monad m] [LawfulMonad m]
    (resolve : Text → m (List Symbol)), action m resolve = compose <$> requests.mapM resolve

/-- The action asks for these specifiers, in this order, and whatever the answers are, its result is
one that is made of the transcript. -/
def AsksFor {α : Type} (requests : List Text) (Made : Transcript → α → Prop)
    (action : (m : Type → Type) → [Monad m] → (Text → m (List Symbol)) → m α) : Prop :=
  ∃ compose : List (List Symbol) → α,
    (∀ answers, answers.length = requests.length → Made (requests.zip answers) (compose answers)) ∧
    ∀ (m : Type → Type) [Monad m] [LawfulMonad m] (resolve : Text → m (List Symbol)),
      action m resolve = compose <$> requests.mapM resolve

/-- A transcript cut into one piece for each member of a list, and what is made of each piece. -/
inductive Parted {α β : Type} (Made : β → Transcript → α → Prop) :
    List β → Transcript → List α → Prop
  | nil : Parted Made [] [] []
  | cons {b : β} {bs : List β} {piece rest : Transcript} {a : α} {as : List α} :
      Made b piece a → Parted Made bs rest as → Parted Made (b :: bs) (piece ++ rest) (a :: as)

/-- What is done with the answers matters only for lists with one answer to each question. -/
theorem bind_mapM_congr {m : Type → Type} [Monad m] [LawfulMonad m] {α β γ : Type} (f : α → m β) :
    ∀ (questions : List α) (g h : List β → m γ),
      (∀ answers, answers.length = questions.length → g answers = h answers) →
      questions.mapM f >>= g = questions.mapM f >>= h
  | [], g, h, agree => by simp [agree [] rfl]
  | question :: rest, g, h, agree => by
      simp only [List.mapM_cons, bind_assoc, pure_bind]
      refine bind_congr fun answer => ?_
      exact bind_mapM_congr f rest _ _ fun answers same =>
        agree (answer :: answers) (by simp [same])

namespace AsksFor

variable {α β : Type}

theorem of_pure {Made : Transcript → α → Prop} {a : α} (made : Made [] a) :
    AsksFor [] Made fun _ _ _ => pure a :=
  ⟨fun _ => a, fun _ _ => made, fun _ _ _ _ => by simp⟩

theorem of_resolve {Made : Transcript → α → Prop} {specifier : Text} {f : List Symbol → α}
    (made : ∀ answer, Made [(specifier, answer)] (f answer)) :
    AsksFor [specifier] Made fun _ _ resolve => do return f (← resolve specifier) := by
  refine ⟨fun answers => f (answers.headD []), fun answers same => ?_, fun _ _ _ _ => by simp⟩
  obtain ⟨answer, rfl⟩ := List.length_eq_one_iff.1 same
  exact made answer

theorem map {requests : List Text} {Made : Transcript → α → Prop} {Made' : Transcript → β → Prop}
    {action : (m : Type → Type) → [Monad m] → (Text → m (List Symbol)) → m α}
    (asks : AsksFor requests Made action) (f : α → β)
    (made : ∀ transcript a, Made transcript a → Made' transcript (f a)) :
    AsksFor requests Made' fun m _ resolve => do return f (← action m resolve) := by
  obtain ⟨compose, related, factors⟩ := asks
  exact ⟨f ∘ compose, fun answers same => made _ _ (related answers same),
    fun m _ _ resolve => by simp only [factors, comp_map, bind_pure_comp]⟩

theorem mono {requests : List Text} {Made Made' : Transcript → α → Prop}
    {action : (m : Type → Type) → [Monad m] → (Text → m (List Symbol)) → m α}
    (asks : AsksFor requests Made action)
    (made : ∀ transcript a, Made transcript a → Made' transcript a) :
    AsksFor requests Made' action := by
  obtain ⟨compose, related, factors⟩ := asks
  exact ⟨compose, fun answers same => made _ _ (related answers same), factors⟩

/-- A list of actions asks what they ask, one after the other, and each makes its result of its own
piece of the transcript. -/
theorem mapM {requests : β → List Text} {Made : β → Transcript → α → Prop}
    {action : β → (m : Type → Type) → [Monad m] → (Text → m (List Symbol)) → m α} (bs : List β)
    (asks : ∀ b ∈ bs, AsksFor (requests b) (Made b) (action b)) :
    AsksFor (bs.flatMap requests) (Parted Made bs)
      fun m _ resolve => bs.mapM fun b => action b m resolve := by
  induction bs with
  | nil =>
      refine ⟨fun _ => [], fun answers same => ?_, fun _ _ _ _ => by simp⟩
      rw [List.eq_nil_of_length_eq_zero same]
      exact .nil
  | cons b bs ih =>
      obtain ⟨compose, related, factors⟩ := asks b (by simp)
      obtain ⟨composeRest, relatedRest, factorsRest⟩ :=
        ih fun b member => asks b (by simp [member])
      refine ⟨fun answers => compose (answers.take (requests b).length) ::
        composeRest (answers.drop (requests b).length), fun answers same => ?_,
        fun m _ _ resolve => ?_⟩
      · rw [List.flatMap_cons, List.length_append] at same
        have first : (answers.take (requests b).length).length = (requests b).length := by
          rw [List.length_take]
          omega
        have others : (answers.drop (requests b).length).length = (bs.flatMap requests).length := by
          rw [List.length_drop]
          omega
        have cut : (requests b ++ bs.flatMap requests).zip answers =
            (requests b).zip (answers.take (requests b).length) ++
              (bs.flatMap requests).zip (answers.drop (requests b).length) := by
          rw [← List.zip_append first.symm, List.take_append_drop]
        rw [List.flatMap_cons, cut]
        exact .cons (related _ first) (relatedRest _ others)
      · simp only [List.mapM_cons, List.flatMap_cons, List.mapM_append, factors, factorsRest,
          map_eq_pure_bind, bind_assoc, pure_bind]
        -- The answers are cut where those of the first action end.
        refine bind_mapM_congr resolve (requests b) _ _ fun answers same => ?_
        refine bind_congr fun rest => ?_
        rw [List.take_left' same, List.drop_left' same]

end AsksFor

theorem asks_iff {α : Type} {requests : List Text}
    {action : (m : Type → Type) → [Monad m] → (Text → m (List Symbol)) → m α} :
    Asks requests action ↔ AsksFor requests (fun _ _ => True) action :=
  ⟨fun ⟨compose, factors⟩ => ⟨compose, fun _ _ => trivial, factors⟩,
    fun ⟨compose, _, factors⟩ => ⟨compose, factors⟩⟩

namespace Asks

variable {α β : Type}

theorem of_pure (a : α) : Asks [] fun _ _ _ => pure a :=
  asks_iff.2 (.of_pure trivial)

theorem of_resolve (specifier : Text) (f : List Symbol → α) :
    Asks [specifier] fun _ _ resolve => do return f (← resolve specifier) :=
  asks_iff.2 (.of_resolve fun _ => trivial)

/-- A result that is right whatever the answers are. -/
theorem mapFor {requests : List Text} {Made : Transcript → β → Prop}
    {action : (m : Type → Type) → [Monad m] → (Text → m (List Symbol)) → m α}
    (asks : Asks requests action) (f : α → β) (made : ∀ transcript a, Made transcript (f a)) :
    AsksFor requests Made fun m _ resolve => do return f (← action m resolve) :=
  (asks_iff.1 asks).map f fun transcript a _ => made transcript a

theorem map {requests : List Text}
    {action : (m : Type → Type) → [Monad m] → (Text → m (List Symbol)) → m α}
    (asks : Asks requests action) (f : α → β) :
    Asks requests fun m _ resolve => do return f (← action m resolve) :=
  asks_iff.2 (asks.mapFor f fun _ _ => trivial)

theorem mapM {requests : β → List Text}
    {action : β → (m : Type → Type) → [Monad m] → (Text → m (List Symbol)) → m α}
    (asks : ∀ b, Asks (requests b) (action b)) (bs : List β) :
    Asks (bs.flatMap requests) fun m _ resolve => bs.mapM fun b => action b m resolve := by
  obtain ⟨compose, -, factors⟩ := AsksFor.mapM bs fun b _ => asks_iff.1 (asks b)
  exact ⟨compose, factors⟩

end Asks

/-! ## The requests of an outline -/

namespace Outline

/-- The module that must be asked to document a local name. -/
def bindingRequests (outline : Outline) (name : Text) : List Text :=
  match outline.declaration? name with
  | some _ => []
  | none =>
    match outline.import? name with
    | none => []
    | some (source, imported) => if imported == ['*'] then [] else [source]

/-- The modules that must be asked for what an export statement does not declare. -/
def formRequests (outline : Outline) : Form → List Text
  | .exportsAll _ (some source) => [source]
  | .exportsDefault _ name => outline.bindingRequests name
  | .exportsNamed _ (some source) => [source]
  | .exportsNamed pairs none => pairs.flatMap fun pair => outline.bindingRequests pair.1
  | _ => []

/-- The modules that must be asked to document a record. -/
def recordRequests (outline : Outline) (record : Record) : List Text :=
  if !record.exported.isEmpty then []
  else match record.statement with
    | some statement => outline.formRequests statement.form
    | none => []

/-- The modules that must be asked to document an outline, in order. -/
def requests (outline : Outline) : List Text := outline.records.flatMap outline.recordRequests

theorem documentBinding_asks (outline : Outline) (name : Text) (line : Nat) :
    Asks (outline.bindingRequests name)
      fun _ _ resolve => outline.documentBinding resolve name line := by
  unfold bindingRequests documentBinding
  cases outline.declaration? name with
  | some symbol => exact .of_pure symbol
  | none =>
      cases outline.import? name with
      | none => exact .of_pure _
      | some origin =>
          by_cases whole : origin.2 = ['*']
          · simpa [whole] using .of_pure _
          · simpa [whole] using .of_resolve origin.1
              fun symbols => (Symbol.find? symbols origin.2).getD
                (outline.placeholder name .unknown line)

theorem documentForm_asks (outline : Outline) (line : Nat) (form : Form) :
    Asks (outline.formRequests form) fun _ _ resolve => outline.documentForm resolve line form := by
  cases form with
  | exportsAll newName source =>
      cases source with
      | none => exact .of_pure []
      | some source => exact .of_resolve source fun symbols => symbols.filter (!·.isDefault)
  | exportsDefault kind name =>
      exact (outline.documentBinding_asks name line).map fun symbol => [symbol.renamed name true]
  | exportsNamed pairs source =>
      cases source with
      | none =>
          refine Asks.mapM (fun pair => ?_) pairs
          exact (outline.documentBinding_asks pair.1 line).map fun symbol =>
            symbol.renamed pair.2 (pair.2 == "default".toList)
      | some source => exact .of_resolve source _
  | imports bindings source => exact .of_pure []
  | exportsDeclaration kind names => exact .of_pure []
  | declares kind names => exact .of_pure []

theorem documentRecord_asks (outline : Outline) (record : Record) :
    Asks (outline.recordRequests record)
      fun _ _ resolve => outline.documentRecord resolve record := by
  unfold recordRequests documentRecord
  by_cases silent : record.exported.isEmpty
  · cases record.statement with
    | none => simpa [silent] using .of_pure []
    | some statement => simpa [silent] using outline.documentForm_asks statement.line statement.form
  · simpa [silent] using .of_pure record.exported

theorem document_asks (outline : Outline) :
    Asks outline.requests fun _ _ resolve => outline.document resolve :=
  (Asks.mapM outline.documentRecord_asks outline.records).map List.flatten

end Outline

/-! ## The requests of a source -/

/-- What is asked for when a source is extracted; nothing if it has no outline. -/
def requestsOf (path undocumented source : Text) : List Text :=
  match Outline.ofSource path undocumented source with
  | .ok outline => outline.requests
  | .error _ => []

/-- **An extraction asks what its outline requests.** -/
theorem extract_asks (path undocumented source : Text) :
    Asks (requestsOf path undocumented source)
      fun _ _ resolve => extract path undocumented source resolve := by
  unfold requestsOf extract
  cases Outline.ofSource path undocumented source with
  | error fault => exact .of_pure _
  | ok outline =>
      exact outline.document_asks.map fun symbols => Except.ok
        { symbols, tokens := outline.dump, statements := outline.statements : Extraction }

/-- The specifiers that an extraction asks for, as a resolver writes them down which answers every
question with no symbols. -/
def requested (path undocumented source : Text) : List Text :=
  let resolve (specifier : Text) : StateM (List Text) (List Symbol) := do
    modify (· ++ [specifier])
    return []
  ((extract path undocumented source resolve).run []).2

theorem run_mapM_record (questions asked : List Text) :
    ((questions.mapM fun question => (do modify (· ++ [question]); return [] :
      StateM (List Text) (List Symbol))).run asked).2 = asked ++ questions := by
  induction questions generalizing asked with
  | nil => exact (List.append_nil asked).symm
  | cons question rest ih =>
      rw [List.mapM_cons]
      exact (ih (asked ++ [question])).trans (by simp)

/-- What is written down is what is asked, whatever the answers would have been. -/
theorem requested_eq (path undocumented source : Text) :
    requested path undocumented source = requestsOf path undocumented source := by
  obtain ⟨compose, factors⟩ := extract_asks path undocumented source
  simp only [requested, factors, StateT.run_map]
  exact run_mapM_record _ []

theorem requested_asks (path undocumented source : Text) :
    Asks (requested path undocumented source)
      fun _ _ resolve => extract path undocumented source resolve :=
  requested_eq path undocumented source ▸ extract_asks path undocumented source

/-- The engine for modules asks what the extraction asks. -/
theorem Engine.modules_asks (undocumented path source : Text) :
    Asks (requested path undocumented source)
      fun _ _ resolve => (Engine.modules undocumented).run path source resolve := by
  obtain ⟨compose, factors⟩ := requested_asks path undocumented source
  refine ⟨fun answers => (compose answers).mapError .extraction, fun m _ _ resolve => ?_⟩
  simp only [Engine.modules, factors, map_eq_pure_bind, bind_assoc, pure_bind]
  refine bind_congr fun answers => ?_
  cases compose answers <;> rfl

end ExportDocs
