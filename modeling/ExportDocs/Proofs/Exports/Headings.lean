/-
# ExportDocs.Proofs.Exports.Headings -- what names, kinds and default flags depend on

A symbol is known by its heading: its name, its kind and whether it is the default export.  Which
headings a module exports does not depend on descriptions, lines and the dump of tokens, and not on
statements that say nothing.  It depends on the gist of each record that is left, in order
(`Outline.gists`), and on what the resolver answers.

So two lists of tokens whose statements have the same gists show the same headings with every resolver
(`sameHeadings_of_gists`), and where all statements but one are the same, it is enough to look at this
one (`Outline.gists_append`).
-/
import ExportDocs.Proofs.Exports.Readings
import ExportDocs.Proofs.Exports.Segments

namespace ExportDocs

set_option autoImplicit false

/-- What a symbol is known by. -/
abbrev Heading := Text × Kind × Bool

def Symbol.heading (symbol : Symbol) : Heading := (symbol.name, symbol.kind, symbol.isDefault)

/-- What a statement says, without descriptions, lines of symbols and tokens. -/
structure Gist where
  statement : Option Statement
  declared : List Heading
  exported : List Heading
  deriving DecidableEq

/-- The gist of a statement that says nothing. -/
def Gist.silent : Gist := ⟨none, [], []⟩

def Record.gist (record : Record) : Gist :=
  ⟨record.statement, record.declared.map Symbol.heading, record.exported.map Symbol.heading⟩

/-- The gists of records that say something. -/
def Gist.ofRecords (records : List Record) : List Gist :=
  (records.map Record.gist).filter (· ≠ .silent)

/-- Extracts the exports of a module given by its tokens. -/
def extractTokens {m : Type → Type} [Monad m] (path undocumented : Text) (tokens : List Token)
    (resolve : Text → m (List Symbol)) : m (Except ExtractFault Extraction) :=
  match Outline.ofTokens path undocumented tokens with
  | .error fault => pure (.error fault)
  | .ok outline => do
    let symbols ← outline.document resolve
    return .ok { symbols, tokens := outline.dump, statements := outline.statements }

theorem extract_eq_extractTokens {m : Type → Type} [Monad m] (path undocumented source : Text)
    (resolve : Text → m (List Symbol)) : extract path undocumented source resolve =
      extractTokens path undocumented (Lexer.tokens source) resolve := rfl

/-- Two lists of tokens export symbols with the same headings, or the extraction fails on both,
whatever the resolver is. -/
def SameHeadings (path undocumented : Text) (tokens others : List Token) : Prop :=
  ∀ (m : Type → Type) [Monad m] [LawfulMonad m] (resolve : Text → m (List Symbol)),
    (Except.map fun extraction => extraction.symbols.map Symbol.heading) <$>
        extractTokens path undocumented tokens resolve =
      (Except.map fun extraction => extraction.symbols.map Symbol.heading) <$>
        extractTokens path undocumented others resolve

/-! ## Documenting -/

/-- What is done with each result can be done after the last one as well. -/
theorem map_mapM {m : Type → Type} [Monad m] [LawfulMonad m] {α β γ : Type} (g : β → γ)
    (f : α → m β) (l : List α) : List.map g <$> l.mapM f = l.mapM fun a => g <$> f a := by
  induction l with
  | nil => simp
  | cons a l ih => simp [← ih]

/-- Members that contribute nothing can be left out. -/
theorem flatten_mapM_filter {m : Type → Type} [Monad m] [LawfulMonad m] {α β : Type}
    (keep : α → Bool) (f : α → m (List β)) (nothing : ∀ a, keep a = false → f a = pure [])
    (l : List α) : List.flatten <$> l.mapM f = List.flatten <$> (l.filter keep).mapM f := by
  induction l with
  | nil => rfl
  | cons a l ih =>
      have step : ∀ l' : List α, List.flatten <$> (a :: l').mapM f =
          do return (← f a) ++ (← List.flatten <$> l'.mapM f) := by
        intro l'
        simp
      cases kept : keep a with
      | true => rw [List.filter_cons_of_pos kept, step, step, ih]
      | false =>
          rw [List.filter_cons_of_neg (by simp [kept]), step, nothing a kept, ih]
          simp

/-- Members that are alike can be exchanged. -/
theorem mapM_congr_map {m : Type → Type} [Monad m] [LawfulMonad m] {α β γ : Type} (key : α → γ)
    {f g : α → m β} (same : ∀ a b, key a = key b → f a = g b) (l : List α) :
    ∀ l' : List α, l.map key = l'.map key → l.mapM f = l'.mapM g := by
  induction l with
  | nil =>
      intro l' keys
      rw [List.map_nil, eq_comm, List.map_eq_nil_iff] at keys
      rw [keys, List.mapM_nil, List.mapM_nil]
  | cons a l ih =>
      intro l' keys
      rw [List.map_cons, eq_comm, List.map_eq_cons_iff] at keys
      obtain ⟨b, others, rfl, here, rest⟩ := keys
      rw [List.mapM_cons, List.mapM_cons, same a b here.symm, ih others rest.symm]

/-- Outlines that differ in nothing that headings depend on. -/
structure Outline.Alike (outline other : Outline) : Prop where
  path : outline.path = other.path
  undocumented : outline.undocumented = other.undocumented
  gists : Gist.ofRecords outline.records = Gist.ofRecords other.records

namespace Gist

theorem filterMap_statement (records : List Record) :
    records.filterMap (·.statement) = (ofRecords records).filterMap (·.statement) := by
  induction records with
  | nil => rfl
  | cons record records ih =>
      by_cases silent : record.gist = .silent
      · have nothing : record.statement = none := congrArg Gist.statement silent
        rw [List.filterMap_cons_none nothing, ih]
        simp [ofRecords, silent]
      · simp only [ofRecords, List.map_cons, List.filter_cons, List.filterMap_cons] at ih ⊢
        simp [silent, ih]
        rfl

theorem flatMap_declared (records : List Record) :
    (records.flatMap (·.declared)).map Symbol.heading = (ofRecords records).flatMap (·.declared) := by
  induction records with
  | nil => rfl
  | cons record records ih =>
      by_cases silent : record.gist = .silent
      · have nothing : record.declared.map Symbol.heading = [] := congrArg Gist.declared silent
        rw [List.flatMap_cons, List.map_append, nothing, List.nil_append, ih]
        simp [ofRecords, silent]
      · rw [List.flatMap_cons, List.map_append, ih]
        simp [ofRecords, silent]
        rfl

end Gist

namespace Outline.Alike

variable {outline other : Outline} (alike : outline.Alike other)

include alike

theorem statements : outline.statements = other.statements := by
  rw [Outline.statements, Gist.filterMap_statement, alike.gists, ← Gist.filterMap_statement]
  rfl

theorem import? (name : Text) : outline.import? name = other.import? name := by
  rw [Outline.import?, Outline.importBindings, alike.statements]
  rfl

theorem placeholder : outline.placeholder = other.placeholder := by
  unfold Outline.placeholder
  rw [alike.path, alike.undocumented]

/-- A name was last declared as the same kind of thing. -/
theorem declaration?_heading (name : Text) :
    (outline.declaration? name).map Symbol.heading =
      (other.declaration? name).map Symbol.heading := by
  have found : ∀ outline : Outline, (outline.declaration? name).map Symbol.heading =
      ((Gist.ofRecords outline.records).flatMap (·.declared)).reverse.find? (·.1 == name) := by
    intro outline
    rw [← Gist.flatMap_declared, ← List.map_reverse, List.find?_map]
    rfl
  rw [found, found, alike.gists]

variable {m : Type → Type} [Monad m] [LawfulMonad m] (resolve : Text → m (List Symbol))

theorem documentBinding_kind (name : Text) (line : Nat) :
    Symbol.kind <$> outline.documentBinding resolve name line =
      Symbol.kind <$> other.documentBinding resolve name line := by
  have declared := alike.declaration?_heading name
  unfold Outline.documentBinding
  rw [alike.import? name, alike.placeholder]
  cases here : outline.declaration? name with
  | none =>
      rw [here, Option.map_none, eq_comm, Option.map_eq_none_iff] at declared
      rw [declared]
  | some symbol =>
      rw [here, Option.map_some, eq_comm, Option.map_eq_some_iff] at declared
      obtain ⟨symbol', there, same⟩ := declared
      have kinds : symbol'.kind = symbol.kind := congrArg (·.2.1) same
      simp only [there, map_pure, kinds]

/-- A name is exported under the same heading. -/
theorem renamed_heading (name exported : Text) (isDefault : Bool) (line : Nat) :
    (Symbol.heading <$> do
      let symbol ← outline.documentBinding resolve name line
      return symbol.renamed exported isDefault) =
    Symbol.heading <$> do
      let symbol ← other.documentBinding resolve name line
      return symbol.renamed exported isDefault := by
  have kinds := congrArg (Functor.map fun kind => ((exported, kind, isDefault) : Heading))
    (alike.documentBinding_kind resolve name line)
  simpa only [bind_pure_comp, Functor.map_map, Symbol.heading, Symbol.renamed] using kinds

theorem documentForm_headings (line : Nat) (form : Form) :
    List.map Symbol.heading <$> outline.documentForm resolve line form =
      List.map Symbol.heading <$> other.documentForm resolve line form := by
  cases form with
  | imports bindings source => rfl
  | declares kind names => rfl
  | exportsDeclaration kind names => rfl
  | exportsAll newName source => cases source <;> rfl
  | exportsDefault kind name =>
      have same := congrArg (Functor.map fun heading => [heading])
        (alike.renamed_heading resolve name name true line)
      simpa only [Outline.documentForm, bind_pure_comp, Functor.map_map, List.map_cons,
        List.map_nil] using same
  | exportsNamed pairs source =>
      cases source with
      | some source =>
          unfold Outline.documentForm
          rw [alike.placeholder]
      | none =>
          unfold Outline.documentForm
          rw [map_mapM, map_mapM]
          congr 1
          funext pair
          exact alike.renamed_heading resolve pair.1 pair.2 _ line

theorem documentRecord_headings {record record' : Record} (same : record.gist = record'.gist) :
    List.map Symbol.heading <$> outline.documentRecord resolve record =
      List.map Symbol.heading <$> other.documentRecord resolve record' := by
  have statements : record.statement = record'.statement := congrArg Gist.statement same
  have exported : record.exported.map Symbol.heading = record'.exported.map Symbol.heading :=
    congrArg Gist.exported same
  have empty : record.exported.isEmpty = record'.exported.isEmpty := by
    rw [← List.isEmpty_map, exported, List.isEmpty_map]
  unfold Outline.documentRecord
  rw [← empty, ← statements]
  cases record.exported.isEmpty with
  | false => simp only [Bool.not_false, if_true, map_pure, exported]
  | true =>
      cases record.statement with
      | none => rfl
      | some statement => exact alike.documentForm_headings resolve statement.line statement.form

/-- **Alike outlines are documented under the same headings.** -/
theorem document_headings : List.map Symbol.heading <$> outline.document resolve =
    List.map Symbol.heading <$> other.document resolve := by
  have apart : ∀ (outline : Outline), List.map Symbol.heading <$> outline.document resolve =
      List.flatten <$> (outline.records.filter (·.gist ≠ .silent)).mapM fun record =>
        List.map Symbol.heading <$> outline.documentRecord resolve record := by
    intro outline
    rw [← flatten_mapM_filter, ← map_mapM]
    · simp [Outline.document, Functor.map_map, List.map_flatten]
    · intro record dropped
      have silent : record.gist = .silent := by simpa using dropped
      have exported : record.exported = [] := List.map_eq_nil_iff.1 (congrArg Gist.exported silent)
      have statement : record.statement = none := congrArg Gist.statement silent
      simp [Outline.documentRecord, exported, statement]
  have gists := alike.gists
  simp only [Gist.ofRecords, List.filter_map] at gists
  have contributions := mapM_congr_map Record.gist
    (fun record record' same => alike.documentRecord_headings resolve same) _ _ gists
  rw [apart, apart]
  exact congrArg _ contributions

end Outline.Alike

/-! ## Reading -/

/-- The gist of a statement, whatever stands above it. -/
def Segment.gist (first : Token) (more : List Token) (following : Option Token) :
    Except ExtractFault Gist :=
  (Record.read [] [] none first more following).map Record.gist

namespace Record

/-- What was made of an export statement, with headings for symbols. -/
def heads (made : Option (Form × List Symbol × List Symbol)) :
    Option (Form × List Heading × List Heading) :=
  made.map fun parts =>
    (parts.1, parts.2.1.map Symbol.heading, parts.2.2.map Symbol.heading)

section Titles

variable {make make' : Text → Kind → Bool → Symbol}

/-- Symbols that are made of the same name, kind and flag have one heading. -/
def Titles (make : Text → Kind → Bool → Symbol) : Prop :=
  ∀ name kind isDefault, (make name kind isDefault).heading = (name, kind, isDefault)

theorem titles_symbol (path undocumented : Text) (doc : Option Token) (first : Token)
    (more : List Token) : Titles (symbol path undocumented doc first more) :=
  fun _ _ _ => rfl

variable (titles : Titles make) (titles' : Titles make')

include titles titles'

theorem heads_ofForm (form : Form) : heads (ofForm make form) = heads (ofForm make' form) := by
  have inline : (form.inline make).map Symbol.heading = (form.inline make').map Symbol.heading := by
    unfold Form.inline
    split <;> simp [titles _, titles' _]
  simp [heads, ofForm, inline]

theorem heads_ofDefault (read : Kind × List Text) :
    heads (ofDefault make read) = heads (ofDefault make' read) := by
  simp [heads, ofDefault, titles _, titles' _, Function.comp_def]

theorem heads_ofDeclaration (read : Kind × List Text) :
    heads (ofDeclaration make read) = heads (ofDeclaration make' read) := by
  simp [heads, ofDeclaration, titles _, titles' _]

theorem readExport_heads (tokens : List Token) :
    (readExport make tokens).map heads = (readExport make' tokens).map heads := by
  have mapped : ∀ (read : Except ExtractFault (Kind × List Text))
      (make make' : Kind × List Text → Option (Form × List Symbol × List Symbol)),
      (∀ result, heads (make result) = heads (make' result)) →
      (read.map make).map heads = (read.map make').map heads := by
    intro read make make' same
    cases read with
    | error fault => rfl
    | ok result => exact congrArg Except.ok (same result)
  cases tokens with
  | nil => rfl
  | cons second rest =>
      rcases exportShape second rest with star | brace | ⟨word, keyword⟩ | ⟨word, keyword⟩ | keyword |
        ⟨star, brace, word, keyword⟩
      · rw [readExport_star star, readExport_star star]
        exact congrArg Except.ok (heads_ofForm titles titles' _)
      · rw [readExport_brace brace, readExport_brace brace]
        exact congrArg Except.ok (heads_ofForm titles titles' _)
      · rw [readExport_default word keyword, readExport_default word keyword]
        exact mapped _ _ _ (heads_ofDefault titles titles')
      · rw [readExport_value word keyword, readExport_value word keyword]
        exact congrArg Except.ok (heads_ofForm titles titles' _)
      · rw [readExport_declaration keyword, readExport_declaration keyword]
        exact mapped _ _ _ (heads_ofDeclaration titles titles')
      · rw [readExport_other star brace word keyword, readExport_other star brace word keyword]

end Titles

/-- A symbol with a heading and nothing else. -/
def titled (name : Text) (kind : Kind) (isDefault : Bool) : Symbol :=
  { path := [], name, kind, isDefault }

/-- The gist of an export statement on the given line. -/
def gistOfHeads (line : Nat) (made : Option (Form × List Heading × List Heading)) : Gist :=
  made.elim .silent fun parts => ⟨some ⟨line, parts.1⟩, parts.2.1, parts.2.2⟩

/-- The gist of a declaration on the given line. -/
def gistOfDeclaration (line : Nat) (read : Kind × List Text) : Gist :=
  ⟨some ⟨line, .declares read.1 read.2⟩, read.2.map fun name => (name, read.1, false), []⟩

section Statements

variable {path undocumented : Text} {doc following : Option Token} {first : Token}
  {more : List Token}

theorem gist_read_aside (aside : Segment.isStarter first following = false) :
    (Record.read path undocumented doc first more following).map gist = .ok .silent := by
  rw [read_aside aside]
  rfl

theorem gist_read_import (starts : Segment.isStarter first following = true)
    (word : first.spells "import" = true) :
    (Record.read path undocumented doc first more following).map gist =
      .ok ⟨some ⟨first.line, Clause.readImport more⟩, [], []⟩ := by
  rw [read_import starts word]
  rfl

theorem gist_read_export (starts : Segment.isStarter first following = true)
    (word : first.spells "export" = true) :
    (Record.read path undocumented doc first more following).map gist =
      ((readExport titled more).map heads).map (gistOfHeads first.line) := by
  rw [read_export starts word, ← readExport_heads
    (titles_symbol path undocumented doc first more) fun _ _ _ => rfl]
  cases readExport (symbol path undocumented doc first more) more with
  | error fault => rfl
  | ok made => cases made <;> rfl

theorem gist_read_declaration (starts : Segment.isStarter first following = true)
    (notImport : first.spells "import" = false) (notExport : first.spells "export" = false) :
    (Record.read path undocumented doc first more following).map gist =
      (Declaration.read (first :: more)).map (gistOfDeclaration first.line) := by
  rw [read_declaration starts notImport notExport]
  cases Declaration.read (first :: more) with
  | error fault => rfl
  | ok read =>
      simp [Except.map, gist, gistOfDeclaration, titles_symbol _ _ _ _ _ _, Function.comp_def]

variable (path undocumented doc first more following)

/-- **What a statement says depends on its own tokens only.** -/
theorem gist_read : (Record.read path undocumented doc first more following).map gist =
    Segment.gist first more following := by
  unfold Segment.gist
  cases starts : Segment.isStarter first following with
  | false => rw [gist_read_aside starts, gist_read_aside starts]
  | true =>
      cases importWord : first.spells "import" with
      | true => rw [gist_read_import starts importWord, gist_read_import starts importWord]
      | false =>
          cases exportWord : first.spells "export" with
          | true => rw [gist_read_export starts exportWord, gist_read_export starts exportWord]
          | false =>
              rw [gist_read_declaration starts importWord exportWord,
                gist_read_declaration starts importWord exportWord]

end Statements

end Record

namespace Outline

variable (path undocumented : Text)

/-- The gists of segments. -/
def gists (doc : Option Token) (segments : List Segment) : Except ExtractFault (List Gist) :=
  (readSegments path undocumented doc segments).map Gist.ofRecords

theorem gists_statement (doc : Option Token) (first : Token) (more : List Token)
    (rest : List Segment) : gists path undocumented doc (.statement first more :: rest) = do
      let here ← Segment.gist first more (more.head?.or (firstToken rest))
      let later ← gists path undocumented none rest
      return [here].filter (· ≠ .silent) ++ later := by
  rw [gists, gists, readSegments, ← Record.gist_read path undocumented doc]
  cases Record.read path undocumented doc first more (more.head?.or (firstToken rest)) with
  | error fault => rfl
  | ok record =>
      cases readSegments path undocumented none rest with
      | error fault => rfl
      | ok records =>
          refine congrArg Except.ok ?_
          by_cases silent : record.gist = .silent <;> simp [Gist.ofRecords, silent]

/-- Segments that are read alike can be exchanged after any others. -/
theorem gists_append {segments others : List Segment}
    (first : firstToken segments = firstToken others)
    (same : ∀ doc, gists path undocumented doc segments = gists path undocumented doc others)
    (before : List Segment) : ∀ doc, gists path undocumented doc (before ++ segments) =
      gists path undocumented doc (before ++ others) := by
  induction before with
  | nil => exact same
  | cons segment before ih =>
      intro doc
      cases segment with
      | doc comment => exact ih (some comment)
      | statement token more =>
          have next : firstToken (before ++ segments) = firstToken (before ++ others) := by
            rcases before with _ | ⟨_ | _, _⟩
            · exact first
            · rfl
            · rfl
          rw [List.cons_append, List.cons_append, gists_statement, gists_statement, next, ih none]

end Outline

section Extraction

variable {path undocumented : Text} {tokens others : List Token}

theorem extractTokens_headings {m : Type → Type} [Monad m] [LawfulMonad m]
    (resolve : Text → m (List Symbol)) {records : List Record}
    (read : Outline.readSegments path undocumented none (Segment.split tokens) = .ok records) :
    (Except.map fun extraction => extraction.symbols.map Symbol.heading) <$>
        extractTokens path undocumented tokens resolve =
      Except.ok <$> List.map Symbol.heading <$>
        Outline.document ⟨path, undocumented, records⟩ resolve := by
  have outlined : Outline.ofTokens path undocumented tokens = .ok ⟨path, undocumented, records⟩ := by
    rw [Outline.ofTokens, read]
    rfl
  simp only [extractTokens, outlined, bind_pure_comp, Functor.map_map]
  rfl

theorem extractTokens_error {m : Type → Type} [Monad m] (resolve : Text → m (List Symbol))
    {fault : ExtractFault}
    (refused : Outline.readSegments path undocumented none (Segment.split tokens) = .error fault) :
    extractTokens path undocumented tokens resolve = pure (.error fault) := by
  have outlined : Outline.ofTokens path undocumented tokens = .error fault := by
    rw [Outline.ofTokens, refused]
    rfl
  simp only [extractTokens, outlined]

/-- **Modules with the same gists show the same headings.** -/
theorem sameHeadings_of_gists
    (same : Outline.gists path undocumented none (Segment.split tokens) =
      Outline.gists path undocumented none (Segment.split others)) :
    SameHeadings path undocumented tokens others := by
  intro m _ _ resolve
  unfold Outline.gists at same
  cases here : Outline.readSegments path undocumented none (Segment.split tokens) with
  | error fault =>
      cases there : Outline.readSegments path undocumented none (Segment.split others) with
      | error fault' => rw [extractTokens_error resolve here, extractTokens_error resolve there]
      | ok records' => simp [here, there, Except.map] at same
  | ok records =>
      cases there : Outline.readSegments path undocumented none (Segment.split others) with
      | error fault' => simp [here, there, Except.map] at same
      | ok records' =>
          rw [here, there] at same
          have alike : Outline.Alike ⟨path, undocumented, records⟩ ⟨path, undocumented, records'⟩ :=
            ⟨rfl, rfl, Except.ok.inj same⟩
          rw [extractTokens_headings resolve here, extractTokens_headings resolve there,
            alike.document_headings resolve]

end Extraction

end ExportDocs
