/-
# ExportDocs.Proofs.Exports.Reexport -- taking a name from another module

A module can make a name of another module its own in three ways: it exports the name from there, it
imports it and exports what it imported, or it passes on everything.  Each way looks for the name by
rules of its own, and each gives it a new name by others.  This module shows that all three find the
symbol that has this exported name and change nothing else of it, for statements as they are read
(`Takes`); how they are written is the subject of `ExportDocs.Proofs.Exports.Hop`.

* `Takes.asked`: the other module is asked.
* `Takes.documents`: if its answer has the name just once, the symbol is exported again with the
  same documentation.
-/
import ExportDocs.Proofs.Exports.Records
import ExportDocs.Proofs.Exports.Resolver

namespace ExportDocs

set_option autoImplicit false

/-! ## Symbols by their exported names -/

namespace Symbol

/-- All that is known of a symbol but the name under which it is exported. -/
def documentation (symbol : Symbol) : Text × Kind × Text × List Tag × Int × Int :=
  (symbol.path, symbol.kind, symbol.description, symbol.tags, symbol.firstLine, symbol.lastLine)

/-- The symbol is the only one with this exported name. -/
def IsOnly (symbols : List Symbol) (name : Text) (symbol : Symbol) : Prop :=
  symbols.filter (fun other => other.exportedName == name) = [symbol]

instance (symbols : List Symbol) (name : Text) (symbol : Symbol) :
    Decidable (IsOnly symbols name symbol) :=
  inferInstanceAs (Decidable (_ = _))

/-- A symbol that is renamed as an export statement does it has the new exported name. -/
theorem exportedName_renamed (symbol : Symbol) (name : Text) :
    (symbol.renamed name (name == "default".toList)).exportedName = name := by
  unfold exportedName renamed
  split
  · rename_i word
    exact (eq_of_beq word).symm
  · rfl

/-- An import means the first symbol with this exported name. -/
theorem find?_eq (symbols : List Symbol) (name : Text) :
    Symbol.find? symbols name = symbols.find? fun symbol => symbol.exportedName == name := by
  unfold Symbol.find?
  congr 1
  funext symbol
  cases isDefault : symbol.isDefault with
  | false => simp [exportedName, isDefault]
  | true => simp [exportedName, isDefault, Bool.beq_comm]

variable {symbols : List Symbol} {name : Text} {symbol : Symbol}

theorem IsOnly.find? (only : IsOnly symbols name symbol) :
    Symbol.find? symbols name = some symbol := by
  rw [find?_eq, ← List.head?_filter]
  exact congrArg List.head? only

theorem IsOnly.mem (only : IsOnly symbols name symbol) :
    symbol ∈ symbols ∧ symbol.exportedName = name := by
  have member : symbol ∈ symbols.filter fun other => other.exportedName == name := by
    rw [show symbols.filter _ = [symbol] from only]
    exact List.mem_singleton.2 rfl
  simpa using member

theorem IsOnly.eq (only : IsOnly symbols name symbol) {other : Symbol} (member : other ∈ symbols)
    (called : other.exportedName = name) : other = symbol := by
  have filtered : other ∈ symbols.filter fun other => other.exportedName == name :=
    List.mem_filter.2 ⟨member, by simp [called]⟩
  rw [show symbols.filter _ = [symbol] from only] at filtered
  exact List.mem_singleton.1 filtered

end Symbol

/-! ## Statements that export nothing where they stand -/

/-- The local names that a statement imports. -/
def Form.importedNames : Form → List Text
  | .imports bindings _ => bindings.map Prod.snd
  | _ => []

namespace Outline

variable {path undocumented source : Text} {outline : Outline} {statement : Statement}

theorem exists_record (outlined : ofSource path undocumented source = .ok outline)
    (here : statement ∈ outline.statements) (quiet : ∀ make, statement.form.inline make = []) :
    ∃ record ∈ outline.records, record.statement = some statement ∧ record.exported = [] := by
  obtain ⟨record, member, stated⟩ := List.mem_filterMap.1 here
  obtain ⟨doc, first, more, -, reads⟩ := (reads_of_ofSource outlined).2 record member
  refine ⟨record, member, stated, ?_⟩
  cases reads with
  | silent dump => rfl
  | stated form declared dump declares =>
      cases stated
      exact quiet _

/-- What such a statement needs is asked for. -/
theorem mem_requests (outlined : ofSource path undocumented source = .ok outline)
    (here : statement ∈ outline.statements) (quiet : ∀ make, statement.form.inline make = [])
    {request : Text} (asked : request ∈ outline.formRequests statement.form) :
    request ∈ outline.requests := by
  obtain ⟨record, member, stated, silent⟩ := exists_record outlined here quiet
  refine List.mem_flatMap.2 ⟨record, member, ?_⟩
  simpa [recordRequests, stated, silent] using asked

/-- What such a statement contributes is exported. -/
theorem mem_document (outlined : ofSource path undocumented source = .ok outline)
    (here : statement ∈ outline.statements) (quiet : ∀ make, statement.form.inline make = [])
    {answers : Text → List Symbol} {symbol : Symbol}
    (contributed : symbol ∈ Id.run (outline.documentForm answers statement.line statement.form)) :
    symbol ∈ Id.run (outline.document answers) := by
  obtain ⟨record, member, stated, silent⟩ := exists_record outlined here quiet
  rw [run_document]
  refine List.mem_flatMap.2 ⟨record, member, ?_⟩
  simpa [documentRecord, stated, silent] using contributed

/-- A name that no statement declares is not declared. -/
theorem declaration?_eq_none (outlined : ofSource path undocumented source = .ok outline)
    {name : Text}
    (undeclared : ∀ statement ∈ outline.statements,
      name ∉ statement.form.declarations.map Prod.fst) : outline.declaration? name = none := by
  unfold declaration?
  rw [List.find?_eq_none]
  intro symbol member
  obtain ⟨record, inRecords, inRecord⟩ := List.mem_flatMap.1 (List.mem_reverse.1 member)
  obtain ⟨doc, first, more, -, reads⟩ := (reads_of_ofSource outlined).2 record inRecords
  cases reads with
  | silent dump => cases inRecord
  | stated form declared dump declares =>
      obtain ⟨entry, listed, rfl⟩ := declares symbol inRecord
      have here : ⟨first.line, form⟩ ∈ outline.statements :=
        List.mem_filterMap.2 ⟨_, inRecords, rfl⟩
      intro same
      exact undeclared _ here (List.mem_map.2 ⟨entry, listed, eq_of_beq same⟩)

/-- The last import of a name, by statements. -/
theorem import?_of_last {before after : List Statement} {name newName specifier : Text}
    {earlier later : List (Text × Text)}
    (split : outline.statements = before ++ statement :: after)
    (form : statement.form = .imports (earlier ++ (name, newName) :: later) (some specifier))
    (notLater : newName ∉ later.map Prod.snd)
    (notAfter : ∀ statement ∈ after, newName ∉ statement.form.importedNames) :
    outline.import? newName = some (specifier, name) := by
  rw [import?_eq_some_iff]
  unfold importBindings
  rw [split, List.flatMap_append, List.flatMap_cons]
  simp only [form, List.map_append, List.map_cons]
  refine ⟨_, _, (by rw [List.append_assoc, List.cons_append, ← List.append_assoc]), ?_⟩
  intro binding member
  rcases List.mem_append.1 member with member | member
  · obtain ⟨pair, listed, rfl⟩ := List.mem_map.1 member
    rintro rfl
    exact notLater (List.mem_map_of_mem listed)
  · obtain ⟨other, there, listed⟩ := List.mem_flatMap.1 member
    have fresh := notAfter other there
    cases otherForm : other.form with
    | imports bindings from? =>
        cases from? with
        | none => simp [otherForm] at listed
        | some from? =>
            simp only [otherForm, List.mem_map] at listed
            obtain ⟨pair, bound, rfl⟩ := listed
            rintro rfl
            rw [otherForm] at fresh
            exact fresh (List.mem_map_of_mem bound)
    | _ => simp [otherForm] at listed

end Outline

/-! ## The three ways -/

/-- The statements that are read take a name from the module that a specifier stands for, under a new
name. -/
inductive Takes (statements : List Statement) (specifier name newName : Text) : Prop
  /-- The name is exported from there. -/
  | named (statement : Statement) (pairs : List (Text × Text)) (here : statement ∈ statements)
      (form : statement.form = .exportsNamed pairs (some specifier))
      (listed : (name, newName) ∈ pairs)
  /-- The name is imported under a local name, which is neither declared nor imported again later,
  and the local name is exported. -/
  | imported (localName : Text) (before after : List Statement) (importing exporting : Statement)
      (earlier later pairs : List (Text × Text))
      (split : statements = before ++ importing :: after)
      (importForm : importing.form =
        .imports (earlier ++ (name, localName) :: later) (some specifier))
      (notLater : localName ∉ later.map Prod.snd)
      (notAfter : ∀ statement ∈ after, localName ∉ statement.form.importedNames)
      (undeclared : ∀ statement ∈ statements,
        localName ∉ statement.form.declarations.map Prod.fst)
      (here : exporting ∈ statements) (exportForm : exporting.form = .exportsNamed pairs none)
      (listed : (localName, newName) ∈ pairs) (single : name ≠ ['*'])
  /-- Everything but the default export is passed on. -/
  | whole (statement : Statement) (here : statement ∈ statements)
      (form : statement.form = .exportsAll none (some specifier))
      (proper : name ≠ "default".toList) (same : newName = name)

namespace Takes

variable {path undocumented source : Text} {outline : Outline} {specifier name newName : Text}

/-- The other module is asked. -/
theorem asked (outlined : Outline.ofSource path undocumented source = .ok outline)
    (takes : Takes outline.statements specifier name newName) : specifier ∈ outline.requests := by
  cases takes with
  | named statement pairs here form listed =>
      refine Outline.mem_requests outlined here (by simp [form, Form.inline]) ?_
      simp [form, Outline.formRequests]
  | imported localName before after importing exporting earlier later pairs split importForm
      notLater notAfter undeclared here exportForm listed single =>
      refine Outline.mem_requests outlined here (by simp [exportForm, Form.inline]) ?_
      have unknown := Outline.declaration?_eq_none outlined undeclared
      have found := Outline.import?_of_last split importForm notLater notAfter
      rw [exportForm]
      refine List.mem_flatMap.2 ⟨(localName, newName), listed, ?_⟩
      simp [Outline.bindingRequests, unknown, found, single]
  | whole statement here form proper same =>
      refine Outline.mem_requests outlined here (by simp [form, Form.inline]) ?_
      simp [form, Outline.formRequests]

/-- **A name that is taken keeps its documentation.** -/
theorem documents (outlined : Outline.ofSource path undocumented source = .ok outline)
    (takes : Takes outline.statements specifier name newName) {answers : Text → List Symbol}
    {symbol : Symbol} (only : Symbol.IsOnly (answers specifier) name symbol) :
    ∃ entry ∈ Id.run (outline.document answers), entry.exportedName = newName ∧
      entry.documentation = symbol.documentation := by
  cases takes with
  | named statement pairs here form listed =>
      refine ⟨symbol.renamed newName (newName == "default".toList), ?_,
        symbol.exportedName_renamed newName, rfl⟩
      refine Outline.mem_document outlined here (by simp [form, Form.inline]) ?_
      rw [form]
      refine List.mem_map.2 ⟨(name, newName), listed, ?_⟩
      simp only [Symbol.IsOnly.find? only, Option.getD_some]
  | imported localName before after importing exporting earlier later pairs split importForm
      notLater notAfter undeclared here exportForm listed single =>
      refine ⟨symbol.renamed newName (newName == "default".toList), ?_,
        symbol.exportedName_renamed newName, rfl⟩
      refine Outline.mem_document outlined here (by simp [exportForm, Form.inline]) ?_
      have unknown := Outline.declaration?_eq_none outlined undeclared
      have found := Outline.import?_of_last split importForm notLater notAfter
      rw [exportForm, Outline.run_documentForm_named]
      refine List.mem_map.2 ⟨(localName, newName), listed, ?_⟩
      rw [Outline.run_documentBinding_imported answers unknown found single, only.find?,
        Option.getD_some]
  | whole statement here form proper same =>
      obtain ⟨member, called⟩ := only.mem
      refine ⟨symbol, ?_, called.trans same.symm, rfl⟩
      refine Outline.mem_document outlined here (by simp [form, Form.inline]) ?_
      rw [form]
      refine List.mem_filter.2 ⟨member, ?_⟩
      -- The default export would be called `default`.
      cases isDefault : symbol.isDefault with
      | false => rfl
      | true => exact absurd (by simpa [Symbol.exportedName, isDefault] using called.symm) proper

end Takes

end ExportDocs
