/-
# ExportDocs.Proofs.Exports.Hop -- taking a name from another module, as it is written

What a module takes from another one is said here about its tokens: it has a statement that exports
the name from there, or one that imports it, in braces or as the default export, and one that exports
what was imported, or one that passes on everything (`Hop`).  The statements are written as the trees
of `ExportDocs.Proofs.Exports.Clauses`, with a semicolon or without, among any other statements.

A default import is read only if its name is a binding name, and never if it is `type`; and whether a
name is declared, or imported again, is said about what is read.  Otherwise a hop is followed
(`Hop.takes`).
-/
import ExportDocs.Proofs.Exports.Clauses
import ExportDocs.Proofs.Exports.Reexport
import ExportDocs.Proofs.Exports.Spans

namespace ExportDocs

set_option autoImplicit false

/-! ## What a statement says wherever it stands -/

namespace Record

/-- The form of an export does not depend on how names are documented. -/
theorem readExport_form (make make' : Text → Kind → Bool → Symbol) (tokens : List Token) :
    (readExport make tokens).map (·.map Prod.fst) =
      (readExport make' tokens).map (·.map Prod.fst) := by
  cases tokens with
  | nil => rfl
  | cons second rest =>
      rcases exportShape second rest with star | brace | ⟨word, keyword⟩ | ⟨word, keyword⟩ | keyword |
        ⟨star, brace, word, keyword⟩
      · rw [readExport_star star, readExport_star star]
        rfl
      · rw [readExport_brace brace, readExport_brace brace]
        rfl
      · rw [readExport_default word keyword, readExport_default word keyword]
        cases Declaration.read rest <;> rfl
      · rw [readExport_value word keyword, readExport_value word keyword]
        rfl
      · rw [readExport_declaration keyword, readExport_declaration keyword]
        cases Declaration.read (second :: rest) <;> rfl
      · rw [readExport_other star brace word keyword, readExport_other star brace word keyword]

/-- What a statement says depends neither on the module nor on the comment above it. -/
theorem read_statement (path undocumented path' undocumented' : Text) (doc doc' : Option Token)
    (first : Token) (more : List Token) (following : Option Token) :
    (Record.read path undocumented doc first more following).map (·.statement) =
      (Record.read path' undocumented' doc' first more following).map (·.statement) := by
  cases starts : Segment.isStarter first following with
  | false => rw [read_aside starts, read_aside starts]
  | true =>
      cases importWord : first.spells "import" with
      | true =>
          rw [read_import starts importWord, read_import starts importWord]
      | false =>
          cases exportWord : first.spells "export" with
          | true =>
              have stated : ∀ read : Except ExtractFault (Option (Form × List Symbol × List Symbol)),
                  (read.map (ofExport first more)).map (·.statement) =
                    (read.map (·.map Prod.fst)).map (·.map (Statement.mk first.line)) := by
                rintro (fault | _ | parts) <;> rfl
              rw [read_export starts exportWord, read_export starts exportWord, stated, stated,
                readExport_form]
          | false =>
              rw [read_declaration starts importWord exportWord,
                read_declaration starts importWord exportWord]
              cases Declaration.read (first :: more) <;> rfl

end Record

namespace Outline

/-- The statement that is read at a span. -/
def statementAt (tokens : List Token) (span : Span) : Option Statement :=
  (readSpan [] [] tokens span).toOption.bind (·.statement)

theorem statementAt_eq {path undocumented : Text} {tokens : List Token} {span : Span}
    {record : Record} (read : readSpan path undocumented tokens span = .ok record) :
    statementAt tokens span = record.statement := by
  have same : (readSpan [] [] tokens span).map (·.statement) =
      (readSpan path undocumented tokens span).map (·.statement) := by
    unfold readSpan
    cases tokens.drop span.first with
    | nil => rfl
    | cons first rest => exact Record.read_statement ..
  rw [read] at same
  unfold statementAt
  cases reads : readSpan [] [] tokens span with
  | error fault =>
      rw [reads] at same
      cases same
  | ok other =>
      rw [reads] at same
      exact Except.ok.inj same

theorem filterMap_statement_of_mapM {path undocumented : Text} {tokens : List Token}
    {spans : List Span} : ∀ {records : List Record},
    spans.mapM (readSpan path undocumented tokens) = .ok records →
      records.filterMap (·.statement) = spans.filterMap (statementAt tokens) := by
  induction spans with
  | nil =>
      intro records ran
      cases ran
      rfl
  | cons span rest ih =>
      intro records ran
      obtain ⟨record, others, here, later, rfl⟩ := exists_of_mapM_cons ran
      rw [List.filterMap_cons, List.filterMap_cons, statementAt_eq here, ih later]

/-- The statements of a module are those that are read at its spans, in this order. -/
theorem statements_eq {path undocumented source : Text} {outline : Outline}
    (outlined : ofSource path undocumented source = .ok outline) :
    outline.statements =
      (Segment.spans (Lexer.tokens source)).filterMap (statementAt (Lexer.tokens source)) :=
  filterMap_statement_of_mapM (records_eq_mapM outlined)

end Outline

/-! ## Statements among others -/

namespace Clause

open Declaration (Mark)

variable {tokens : List Token} {span : Span}

/-- The statement with a span has these tokens, with a semicolon after them or without. -/
def StandsAt (statement tokens : List Token) (span : Span) : Prop :=
  span ∈ Segment.spans tokens ∧ ∃ stop : Option (Mark ';'),
    span.slice tokens = statement ++ stopTokens stop

/-- What is read of a statement depends on its tokens alone. -/
theorem StandsAt.reads {first : Token} {more : List Token} {statement : Statement}
    (stands : StandsAt (first :: more) tokens span) (filled : more ≠ [])
    (record : ∀ (stop : Option (Mark ';')) (doc : Option Token), ∃ record,
      Record.read [] [] doc first (more ++ stopTokens stop) (more ++ stopTokens stop).head? =
        .ok record ∧ record.statement = some statement) :
    Outline.statementAt tokens span = some statement := by
  obtain ⟨member, stop, written⟩ := stands
  obtain ⟨before, head, others, after, -, slice, read⟩ := Outline.exists_readSpan member
  rw [slice, List.cons_append] at written
  obtain ⟨rfl, rfl⟩ := List.cons.inj written
  have following : (more ++ stopTokens stop ++ after.flatMap Segment.tokens).head? =
      (more ++ stopTokens stop).head? := by
    obtain ⟨second, rest, rfl⟩ := List.exists_cons_of_ne_nil filled
    rfl
  obtain ⟨record, recorded, stated⟩ := record stop
    ((before.flatMap Segment.tokens).getLast?.filter Token.isDoc)
  rw [← following, ← read] at recorded
  rw [Outline.statementAt_eq recorded, stated]

/-- All tokens of a statement but the semicolon. -/
def Body.written (body : Body) : List Token := body.keyword :: body.tokens

theorem Body.tokens_ne_nil (body : Body) : body.tokens ≠ [] := by
  cases body with
  | imports word clause link source =>
      obtain ⟨first, others, tokens, -⟩ := clause.exists_first
      rw [Body.tokens, tokens]
      exact List.cons_ne_nil _ _
  | _ => exact List.cons_ne_nil _ _

/-- What is written at a span is read there. -/
theorem Body.statementAt_eq {body : Body} (stands : StandsAt body.written tokens span) :
    Outline.statementAt tokens span = some ⟨body.keyword.line, body.readForm⟩ :=
  stands.reads body.tokens_ne_nil fun stop doc => body.exists_record stop [] [] doc

/-! ## Imports under any name

The name of a default import is any identifier here.  `type` and names outside ASCII are among them,
which are not read (`Word.IsTaken`). -/

/-- The reader takes the word as the name of a default import. -/
def Word.IsTaken (word : Word) : Prop :=
  word.1.isBindingName = true ∧ word.1.value ≠ "type".toList

instance (word : Word) : Decidable word.IsTaken := inferInstanceAs (Decidable (_ ∧ _))

/-- What is read of the name of a default import. -/
def Word.pairs (word : Word) : List (Text × Text) :=
  if word.IsTaken then [("default".toList, word.1.value)] else []

theorem bindings_cons (word : Word) (rest : List Token) :
    bindings (word.1 :: rest) = word.pairs ++ bindings rest := by
  have opens : word.1.isMark '{' = false := Token.isMark_of_code word.2.2.1 _
  have star : word.1.spells "*" = false :=
    beq_eq_false_iff_ne.2 (identifier_ne_cons word.2.2.2 (by decide) (by decide) [])
  by_cases type : word.1.value = "type".toList
  · have spelled : word.1.spells "type" = true := Token.spells_iff.2 type
    have skipped : word.pairs = [] := if_neg fun taken => taken.2 type
    rw [skipped, bindings.eq_def]
    rcases rest with _ | ⟨link, _ | ⟨name, after⟩⟩ <;> simp [opens, star, spelled]
  · rw [bindings_default opens star (beq_eq_false_iff_ne.2 type)]
    by_cases named : word.1.isBindingName = true
    · rw [show word.pairs = _ from if_pos ⟨named, type⟩]
      simp [Option.filter, named, ImportClause.defaultPairs]
    · rw [show word.pairs = _ from if_neg fun taken => named taken.1]
      simp [Option.filter, named, ImportClause.defaultPairs]

/-- A default name before another clause. -/
def leadTokens (lead : Option (Word × Mark ',')) : List Token :=
  lead.toList.flatMap fun entry => [entry.1.1, entry.2.1]

/-- What is read of a default name before another clause. -/
def leadPairs (lead : Option (Word × Mark ',')) : List (Text × Text) :=
  lead.toList.flatMap fun entry => entry.1.pairs

/-- A clause that may follow a default name. -/
abbrev BareClause := {clause : ImportClause // clause.defaultName = none}

/-- A default name and the clause that follows it, if there is one. -/
def defaultTokens (name : Word) (beside : Option (Mark ',' × BareClause)) : List Token :=
  name.1 :: beside.toList.flatMap fun entry => entry.1.1 :: entry.2.1.tokens

/-- The bindings beside the one of the default export. -/
def besidePairs (beside : Option (Mark ',' × BareClause)) : List (Text × Text) :=
  beside.toList.flatMap fun entry => entry.2.1.others

/-- The tokens of `import .. from 'source'`. -/
def importTokens (word : Code "import") (clause : List Token) (link : Code "from") (source : Quoted) :
    List Token :=
  word.1 :: (clause ++ [link.1, source.token])

/-- A clause begins with a name or a sign. -/
def Begins (clause : List Token) : Prop := ∃ first others, clause = first :: others ∧
  first.isString = false ∧ first.isMark '(' = false ∧ first.isMark '.' = false

theorem begins_word (word : Word) (others : List Token) : Begins (word.1 :: others) :=
  ⟨_, _, rfl, word.2.1, Token.isMark_of_code word.2.2.1 _, Token.isMark_of_code word.2.2.1 _⟩

/-- What is read of an import whose clause names no source. -/
theorem statementAt_import {word : Code "import"} {clause : List Token} {link : Code "from"}
    {source : Quoted} (stands : StandsAt (importTokens word clause link source) tokens span)
    (begins : Begins clause) (free : ∀ rest, SourceFree clause (link.1 :: rest)) :
    Outline.statementAt tokens span =
      some ⟨word.1.line, .imports (bindings clause) (some source.text)⟩ := by
  obtain ⟨first, others, rfl, code, mark⟩ := begins
  refine stands.reads (List.cons_ne_nil _ _) fun stop doc => ?_
  refine exists_record_of_import word (isStarter_import word mark) ?_
  rw [List.append_assoc]
  exact readImport_cons code (free _)

section Braces

variable (lead : Option (Word × Mark ',')) (list : Braces)

theorem begins_braces : Begins (leadTokens lead ++ list.tokens) := by
  cases lead with
  | none =>
      have value := Declaration.value_of_isMark list.opener.2
      exact ⟨_, _, rfl, isString_of_mark list.opener.2, by simp [Token.isMark, value],
        by simp [Token.isMark, value]⟩
  | some lead => exact begins_word lead.1 _

theorem sourceFree_braces (rest : List Token) : SourceFree (leadTokens lead ++ list.tokens) rest := by
  refine .append ?_ (list.sourceFree rest)
  cases lead with
  | none => exact .nil _
  | some lead =>
      exact .cons (.inr (by simpa using isString_of_mark lead.2.2)) (.mark lead.2.2 (.nil _))

theorem bindings_braces :
    bindings (leadTokens lead ++ list.tokens) = leadPairs lead ++ list.pairs := by
  have inside : bindings list.tokens = list.pairs := by
    rw [Braces.tokens, bindings_brace list.opener.2, list.specifiers_inside [], bindings,
      List.append_nil]
  cases lead with
  | none => exact inside
  | some lead =>
      simp [leadTokens, leadPairs, bindings_cons, bindings_comma lead.2.2, inside]

end Braces

section Default

variable (name : Word) (beside : Option (Mark ',' × BareClause))

theorem sourceFree_default (link : Code "from") (rest : List Token) :
    SourceFree (defaultTokens name beside) (link.1 :: rest) := by
  cases beside with
  | none => exact sourceFree_last name.1 link rest
  | some entry =>
      rw [show defaultTokens name (some entry) = name.1 :: entry.1.1 :: entry.2.1.tokens by
        simp [defaultTokens]]
      refine .cons (.inr ?_) (.mark entry.1.2 (entry.2.1.sourceFree link rest))
      simpa using isString_of_mark entry.1.2

theorem bindings_defaultTokens :
    bindings (defaultTokens name beside) = name.pairs ++ besidePairs beside := by
  rw [defaultTokens, bindings_cons]
  congr 1
  cases beside with
  | none => exact bindings.eq_1
  | some entry =>
      obtain ⟨comma, clause, bare⟩ := entry
      simp [besidePairs, bindings_comma comma.2, clause.bindings_tokens, ImportClause.readPairs, bare,
        ImportClause.defaultPairs]

end Default

/-! ## Hops -/

/-- A name that is imported by the statement with a span is, as far as the other statements are read,
not imported again after it, and not declared. -/
structure IsLastImport (tokens : List Token) (span : Span) (name : Text) : Prop where
  notAfter : ∀ later ∈ Segment.spans tokens, span.last < later.first →
    ∀ statement ∈ Outline.statementAt tokens later, name ∉ statement.form.importedNames
  undeclared : ∀ other ∈ Segment.spans tokens, ∀ statement ∈ Outline.statementAt tokens other,
    name ∉ statement.form.declarations.map Prod.fst

/-- A list in braces gives a name to a name, and to no other one after that. -/
def Braces.Binds (list : Braces) (name newName : Text) : Prop :=
  ∃ earlier later, list.pairs = earlier ++ (name, newName) :: later ∧
    newName ∉ later.map Prod.snd

/-- The statement with a span imports a name under a local one. -/
inductive ImportsAs (tokens : List Token) (span : Span) (specifier name localName : Text) : Prop
  /-- `import { name as localName } from 'specifier'`, beside a default import or not. -/
  | inBraces (word : Code "import") (lead : Option (Word × Mark ',')) (list : Braces)
      (link : Code "from") (source : Quoted)
      (stands : StandsAt (importTokens word (leadTokens lead ++ list.tokens) link source) tokens span)
      (specified : source.text = specifier) (binds : list.Binds name localName)
      (proper : name ≠ ['*'])
  /-- `import localName from 'specifier'` for the default export, beside other imports or not.  The
  local name has to be one that the reader takes. -/
  | byDefault (word : Code "import") (identifier : Word) (beside : Option (Mark ',' × BareClause))
      (link : Code "from") (source : Quoted)
      (stands : StandsAt (importTokens word (defaultTokens identifier beside) link source) tokens span)
      (specified : source.text = specifier) (isDefault : name = "default".toList)
      (spelled : identifier.1.value = localName) (taken : identifier.IsTaken)
      (single : localName ∉ (besidePairs beside).map Prod.snd)

/-- Some statement is `export { localName as newName }`. -/
def ExportsLocal (tokens : List Token) (localName newName : Text) : Prop :=
  ∃ (word : Code "export") (list : Braces) (span : Span),
    StandsAt (Body.exportsNamed word list none).written tokens span ∧
      (localName, newName) ∈ list.pairs

/-- The tokens of a module take a name from the module that a specifier stands for, under a new
name. -/
inductive Hop (tokens : List Token) (specifier name newName : Text) : Prop
  /-- `export { name as newName } from 'specifier'`. -/
  | named (word : Code "export") (list : Braces) (link : Code "from") (source : Quoted) (span : Span)
      (stands : StandsAt (Body.exportsNamed word list (some (link, source))).written tokens span)
      (specified : source.text = specifier) (listed : (name, newName) ∈ list.pairs)
  /-- The name is imported, and what was imported is exported. -/
  | imported (localName : Text) (span : Span) (imports : ImportsAs tokens span specifier name localName)
      (last : IsLastImport tokens span localName) (exports : ExportsLocal tokens localName newName)
  /-- `export * from 'specifier'`, for all but the default export. -/
  | whole (word : Code "export") (star : Code "*") (link : Code "from") (source : Quoted)
      (span : Span) (stands : StandsAt (Body.exportsAll word star none link source).written tokens span)
      (specified : source.text = specifier) (proper : name ≠ "default".toList)
      (same : newName = name)

/-! ## Hops are followed -/

variable {specifier name localName newName : Text}

theorem ImportsAs.reads (imports : ImportsAs tokens span specifier name localName) :
    span ∈ Segment.spans tokens ∧ name ≠ ['*'] ∧ ∃ line earlier later,
      Outline.statementAt tokens span =
        some ⟨line, .imports (earlier ++ (name, localName) :: later) (some specifier)⟩ ∧
      localName ∉ later.map Prod.snd := by
  cases imports with
  | inBraces word lead list link source stands specified binds proper =>
      obtain ⟨earlier, later, pairs, fresh⟩ := binds
      have read := statementAt_import stands (begins_braces lead list)
        fun rest => sourceFree_braces lead list _
      rw [bindings_braces, pairs, ← List.append_assoc, specified] at read
      exact ⟨stands.1, proper, _, _, later, read, fresh⟩
  | byDefault word identifier beside link source stands specified isDefault spelled taken single =>
      have read := statementAt_import stands (begins_word identifier _)
        fun rest => sourceFree_default identifier beside link rest
      rw [bindings_defaultTokens, specified,
        show identifier.pairs = [("default".toList, identifier.1.value)] from if_pos taken,
        spelled, ← isDefault] at read
      exact ⟨stands.1, by rw [isDefault]; decide, _, [], _, read, single⟩

theorem Hop.takes {path undocumented source : Text} {outline : Outline}
    (outlined : Outline.ofSource path undocumented source = .ok outline)
    (hop : Hop (Lexer.tokens source) specifier name newName) :
    Takes outline.statements specifier name newName := by
  have statements := Outline.statements_eq outlined
  have here : ∀ {span : Span} {statement : Statement}, span ∈ Segment.spans (Lexer.tokens source) →
      Outline.statementAt (Lexer.tokens source) span = some statement →
      statement ∈ outline.statements := by
    intro span statement member read
    rw [statements]
    exact List.mem_filterMap.2 ⟨span, member, read⟩
  cases hop with
  | named word list link source span stands specified listed =>
      refine .named _ list.pairs (here stands.1 (Body.statementAt_eq stands)) ?_ listed
      rw [← specified]
      rfl
  | imported localName span imports last exports =>
      obtain ⟨member, proper, line, earlier, later, read, fresh⟩ := imports.reads
      obtain ⟨word, list, exportSpan, stands, listed⟩ := exports
      obtain ⟨before, after, split⟩ := List.append_of_mem member
      have order : ∀ next ∈ after, span.last < next.first := by
        have apart := Segment.pairwise_spansFrom (Segment.split (Lexer.tokens source)) 0
        rw [← Segment.spans, split] at apart
        exact (List.pairwise_cons.1 (List.pairwise_append.1 apart).2.1).1
      have parts : outline.statements = before.filterMap (Outline.statementAt (Lexer.tokens source)) ++
          ⟨line, .imports (earlier ++ (name, localName) :: later) (some specifier)⟩ ::
            after.filterMap (Outline.statementAt (Lexer.tokens source)) := by
        rw [statements, split, List.filterMap_append, List.filterMap_cons, read]
      refine .imported localName _ _ _ _ earlier later list.pairs parts rfl fresh ?_ ?_
        (here stands.1 (Body.statementAt_eq stands)) rfl listed proper
      · intro statement among
        obtain ⟨next, inAfter, reads⟩ := List.mem_filterMap.1 among
        refine last.notAfter next ?_ (order next inAfter) statement reads
        rw [split]
        exact List.mem_append_right _ (List.mem_cons_of_mem _ inAfter)
      · intro statement among
        rw [statements] at among
        obtain ⟨other, inside, reads⟩ := List.mem_filterMap.1 among
        exact last.undeclared other inside statement reads
  | whole word star link source span stands specified proper same =>
      refine .whole _ (here stands.1 (Body.statementAt_eq stands)) ?_ proper same
      rw [← specified]
      rfl

end Clause

end ExportDocs
