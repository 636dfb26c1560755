/-
# ExportDocs.Proofs.Exports.Records -- what reading a statement gives

A statement is read in many ways, but a record has only two shapes (`Record.Reads`): it has no
statement and then declares and exports nothing, or it has one, and then its form tells which
symbols the statement exports where it stands and which it may declare.  Both are made from the
tokens of the statement, with the line of its first token.

Everything that is shown of the symbols of a module starts from here; `Record.read` is not unfolded
again.  The last section has the second pass over the records, with the answers to all questions
given beforehand.
-/
import ExportDocs.Exports.Extract

namespace ExportDocs

set_option autoImplicit false

/-! ## Forms -/

namespace Form

/-- The symbols that a statement exports where it stands; `make` documents a name. -/
def inline (make : Text → Kind → Bool → Symbol) : Form → List Symbol
  | .exportsDeclaration kind names => names.map fun name => make name kind false
  | .exportsDefault (some kind) name => [make name kind true]
  | .exportsAll (some newName) _ => [make newName .moduleNamespace false]
  | _ => []

theorem mem_inline {make : Text → Kind → Bool → Symbol} {form : Form} {symbol : Symbol}
    (member : symbol ∈ form.inline make) :
    ∃ name kind isDefault, symbol = make name kind isDefault := by
  unfold inline at member
  split at member
  · obtain ⟨name, -, rfl⟩ := List.mem_map.1 member
    exact ⟨_, _, _, rfl⟩
  · exact ⟨_, _, _, List.mem_singleton.1 member⟩
  · exact ⟨_, _, _, List.mem_singleton.1 member⟩
  · cases member

/-- The names that a statement declares in its module, each with its kind and whether it is the
default export.  A function or class without a name that is exported by default is listed under the
word `default`. -/
def declarations : Form → List (Text × Kind × Bool)
  | .declares kind names => names.map fun name => (name, kind, false)
  | .exportsDeclaration kind names => names.map fun name => (name, kind, false)
  | .exportsDefault (some kind) name => if kind = .expression then [] else [(name, kind, true)]
  | _ => []

/-- All these symbols document names that the statement declares. -/
def Declares (make : Text → Kind → Bool → Symbol) (form : Form) (symbols : List Symbol) : Prop :=
  ∀ symbol ∈ symbols, ∃ entry ∈ form.declarations, symbol = make entry.1 entry.2.1 entry.2.2

variable {make : Text → Kind → Bool → Symbol}

theorem Declares.nil (form : Form) : Declares make form [] := by simp [Declares]

theorem Declares.names {form : Form} {kind : Kind} {names : List Text}
    (same : form.declarations = names.map fun name => (name, kind, false)) :
    Declares make form (names.map fun name => make name kind false) := by
  simp only [Declares, same, List.mem_map]
  rintro symbol ⟨name, member, rfl⟩
  exact ⟨(name, kind, false), ⟨name, member, rfl⟩, rfl⟩

end Form

/-! ## Declarations -/

namespace Declaration

variable {tokens : List Token} {kind : Kind} {names : List Text}

theorem readKeyword_kind (read : readKeyword tokens = .ok (kind, names)) :
    kind ≠ .expression := by
  unfold readKeyword at read
  cases tokens with
  | nil => simp at read
  | cons keyword rest =>
      simp only at read
      split at read
      · cases read
        simp
      · split at read
        · cases read
          simp
        · cases read
          unfold variableKind
          split <;> simp

/-- A declaration is never an expression. -/
theorem read_kind (read : Declaration.read tokens = .ok (kind, names)) : kind ≠ .expression := by
  unfold Declaration.read at read
  cases tokens with
  | nil => simp at read
  | cons first rest =>
      simp only at read
      split at read <;> exact readKeyword_kind read

end Declaration

/-! ## Statements -/

theorem Clause.readImport_eq (tokens : List Token) :
    ∃ bindings source, readImport tokens = .imports bindings source := by
  unfold readImport
  split
  · split
    · exact ⟨_, _, rfl⟩
    · split <;> exact ⟨_, _, rfl⟩
  · exact ⟨_, _, rfl⟩

namespace Record

/-- What a record read off a statement on the given line can be. -/
inductive Reads (make : Text → Kind → Bool → Symbol) (line : Nat) : Record → Prop
  | silent (dump : List Token) : Reads make line { dump }
  | stated (form : Form) (declared : List Symbol) (dump : List Token)
      (declares : form.Declares make declared) :
      Reads make line
        { statement := some ⟨line, form⟩, declared, exported := form.inline make, dump }

variable {make : Text → Kind → Bool → Symbol}

/-- An export statement exports what its form says, and declares names of its form. -/
theorem readExport_eq_ok {tokens : List Token} {form : Form} {declared exported : List Symbol}
    (read : readExport make tokens = .ok (some (form, declared, exported))) :
    exported = form.inline make ∧ form.Declares make declared := by
  unfold readExport at read
  cases tokens with
  | nil => simp at read
  | cons second rest =>
      simp only at read
      split at read
      · -- Everything of another module.
        split at read
        · split at read <;> split at read <;> cases read <;> exact ⟨rfl, .nil _⟩
        · split at read <;> cases read <;> exact ⟨rfl, .nil _⟩
      · split at read
        · -- Names in braces.
          cases read
          exact ⟨rfl, .nil _⟩
        · split at read
          · -- The default export: a declaration, a name, or an expression.
            split at read
            · cases declares : Declaration.read rest with
              | error fault => simp [declares, bind, Except.bind] at read
              | ok result =>
                  obtain ⟨kind, names⟩ := result
                  have proper := Declaration.read_kind declares
                  cases names with
                  | nil =>
                      simp only [declares, bind, Except.bind, pure, Except.pure] at read
                      cases read
                      exact ⟨rfl, .nil _⟩
                  | cons name others =>
                      simp only [declares, bind, Except.bind, pure, Except.pure] at read
                      cases read
                      refine ⟨rfl, ?_⟩
                      simp [Form.Declares, Form.declarations, proper]
            · split at read
              · split at read <;> cases read <;> exact ⟨rfl, .nil _⟩
              · cases read
                exact ⟨rfl, .nil _⟩
          · split at read
            · -- A declaration.
              cases declares : Declaration.read (second :: rest) with
              | error fault => simp [declares, bind, Except.bind] at read
              | ok result =>
                  simp only [declares, bind, Except.bind, pure, Except.pure] at read
                  cases read
                  exact ⟨rfl, .names rfl⟩
            · cases read

/-- **A record has one of two shapes.** -/
theorem reads_of_read {path undocumented : Text} {doc : Option Token} {first : Token}
    {more : List Token} {following : Option Token} {record : Record}
    (read : Record.read path undocumented doc first more following = .ok record) :
    Reads (symbol path undocumented doc first more) first.line record := by
  unfold Record.read at read
  simp only at read
  split at read
  · cases read
    exact .silent []
  · split at read
    · cases read
      obtain ⟨bindings, source, form⟩ := Clause.readImport_eq more
      rw [form]
      exact .stated (.imports bindings source) [] _ (.nil _)
    · split at read
      · cases exports : readExport (symbol path undocumented doc first more) more with
        | error fault => simp [exports, bind, Except.bind] at read
        | ok result =>
            cases result with
            | none =>
                simp only [exports, bind, Except.bind, pure, Except.pure] at read
                cases read
                exact .silent _
            | some parts =>
                obtain ⟨form, declared, exported⟩ := parts
                simp only [exports, bind, Except.bind, pure, Except.pure] at read
                cases read
                obtain ⟨rfl, declares⟩ := readExport_eq_ok exports
                exact .stated form declared _ declares
      · cases declares : Declaration.read (first :: more) with
        | error fault => simp [declares, bind, Except.bind] at read
        | ok result =>
            simp only [declares, bind, Except.bind, pure, Except.pure] at read
            cases read
            exact .stated (.declares result.1 result.2) _ [] (.names rfl)

end Record

/-! ## Outlines -/

namespace Outline

variable {path undocumented source : Text} {outline : Outline}

/-- Every record is read off one of the statements. -/
theorem reads_of_readSegments (segments : List Segment) :
    ∀ (doc : Option Token) (records : List Record),
      readSegments path undocumented doc segments = .ok records → ∀ record ∈ records,
      ∃ doc first more, .statement first more ∈ segments ∧
        Record.Reads (Record.symbol path undocumented doc first more) first.line record := by
  induction segments with
  | nil =>
      intro doc records read
      cases read
      simp
  | cons segment rest ih =>
      intro doc records read record member
      cases segment with
      | doc comment =>
          obtain ⟨above, first, more, stands, reads⟩ := ih (some comment) records read record member
          exact ⟨above, first, more, by simp [stands], reads⟩
      | statement first more =>
          rw [readSegments] at read
          cases this : Record.read path undocumented doc first more
            (more.head?.or (firstToken rest)) with
          | error fault => simp [this, bind, Except.bind] at read
          | ok here =>
              cases others : readSegments path undocumented none rest with
              | error fault => simp [this, others, bind, Except.bind] at read
              | ok later =>
                  simp only [this, others, bind, Except.bind, pure, Except.pure] at read
                  cases read
                  rcases List.mem_cons.1 member with rfl | member
                  · exact ⟨doc, first, more, by simp, Record.reads_of_read this⟩
                  · obtain ⟨above, first', more', stands, reads⟩ :=
                      ih none later others record member
                    exact ⟨above, first', more', by simp [stands], reads⟩

/-- **The outline of a source holds one record for each statement that is read.** -/
theorem reads_of_ofSource (outlined : ofSource path undocumented source = .ok outline) :
    outline.path = path ∧ ∀ record ∈ outline.records,
      ∃ doc first more, .statement first more ∈ Segment.split (Lexer.tokens source) ∧
        Record.Reads (Record.symbol path undocumented doc first more) first.line record := by
  unfold ofSource ofTokens at outlined
  cases read : readSegments path undocumented none (Segment.split (Lexer.tokens source)) with
  | error fault => simp [read, bind, Except.bind] at outlined
  | ok records =>
      simp only [read, bind, Except.bind, pure, Except.pure] at outlined
      cases outlined
      exact ⟨rfl, reads_of_readSegments _ none records read⟩

/-! ## Given answers -/

section Answers

variable (outline : Outline) (answers : Text → List Symbol)

theorem run_document : Id.run (outline.document answers) =
    outline.records.flatMap fun record => Id.run (outline.documentRecord answers record) := by
  unfold document
  simp only [Id.run_bind, List.idRun_mapM, Id.run_pure, List.flatMap_def]

theorem run_documentForm_named (line : Nat) (pairs : List (Text × Text)) :
    Id.run (outline.documentForm answers line (.exportsNamed pairs none)) =
      pairs.map fun pair => (Id.run (outline.documentBinding answers pair.1 line)).renamed pair.2
        (pair.2 == "default".toList) :=
  List.idRun_mapM

variable {outline}

theorem run_documentBinding_imported {name source imported : Text}
    (undeclared : outline.declaration? name = none)
    (found : outline.import? name = some (source, imported)) (single : imported ≠ ['*'])
    (line : Nat) : Id.run (outline.documentBinding answers name line) =
      (Symbol.find? (answers source) imported).getD (outline.placeholder name .unknown line) := by
  unfold documentBinding
  simp only [undeclared, found, single, beq_iff_eq, if_false]
  rfl

end Answers

end Outline

end ExportDocs
