/-
# ExportDocs.Proofs.Exports.Literals -- statements that begin inside a literal

A statement is known by its first word.  Quoted strings are no words to the reader, and a regular
expression or the brace of a hole does not look like one; but a stretch of a template literal that
is spelled like a statement keyword is taken for that keyword.  Its neighbours are signs of the
template, which never ask for more, so such a stretch begins a statement wherever it stands outside
brackets, and no other part of a literal ever does (`literal_begins_statement_iff`).
-/
import ExportDocs.Proofs.Exports.Readings
import ExportDocs.Proofs.Exports.Spans
import ExportDocs.Proofs.Token.Template

namespace ExportDocs

set_option autoImplicit false

/-! ## Parts of literals -/

theorem TokenClass.literal_cases {type : TokenClass} (literal : type.isLiteralText = true) :
    type = .template ∨ type = .interpolation ∨ type = .regex ∨ type.isString = true := by
  cases type <;> first | decide | cases literal

/-- A part of a literal that is no text of a template is a string, or it begins with a slash, a brace
or a dollar sign. -/
theorem Lexer.head_of_literal {source : Text} {token : Token} (member : token ∈ tokens source)
    (literal : token.type.isLiteralText = true) (other : token.type ≠ .template) :
    token.isString = true ∨ ∃ c ∈ ['/', '$', '}'], token.value.head? = some c := by
  obtain ⟨modes, c, t, read, reads, type, head⟩ := exists_reads none (.code .plain) source _
    (mem_lexemes_of_mem_tokens member)
  have type : token.type = read.1 := type
  rcases TokenClass.literal_cases literal with template | hole | regex | string
  · exact absurd template other
  · rw [hole] at type
    cases reads with
    | code aside => exact absurd type.symm aside.2
    | sign sign =>
        rcases sign with ⟨template, -⟩ | ⟨-, sign⟩
        · exact absurd (type.trans template) (by decide)
        · exact .inr ⟨c, List.mem_cons_of_mem _ sign, head⟩
    | stretch => cases type
    | stray => cases type
  · rw [regex] at type
    cases reads with
    | code _ slash =>
        rw [slash type.symm] at head
        exact .inr ⟨'/', by decide, head⟩
    | sign sign =>
        rcases sign with ⟨kind, -⟩ | ⟨kind, -⟩ <;> exact absurd (type.trans kind) (by decide)
    | stretch => cases type
    | stray => cases type
  · exact .inl string

/-! ## Keywords -/

namespace Segment

/-- Words that begin a statement whatever follows them. -/
def statementWords : List Text := "export".toList :: declarationKeywords

/-- Words that can begin a statement. -/
def starterWords : List Text := "import".toList :: "async".toList :: statementWords

/-- A token that begins a statement is no string and spelled as a keyword. -/
theorem value_of_isStarter {token : Token} {following : Option Token}
    (starts : isStarter token following = true) :
    token.isString = false ∧ token.value ∈ starterWords := by
  unfold isStarter at starts
  split at starts
  · cases starts
  · rename_i code
    have code := Bool.or_eq_false_iff.1 (Bool.eq_false_iff.2 code)
    refine ⟨code.1, ?_⟩
    split at starts
    · rename_i word
      rcases Bool.or_eq_true_iff.1 word with keyword | keyword
      · have member := List.contains_iff_mem.1 keyword
        simp [starterWords, statementWords, member]
      · simp [starterWords, statementWords, Token.spells_iff.1 keyword]
    · split at starts
      · rename_i word
        simp [starterWords, Token.spells_iff.1 word]
      · split at starts
        · rename_i word
          simp [starterWords, Token.spells_iff.1 word]
        · cases starts

/-- No keyword begins like a regular expression or like a sign of a template. -/
theorem head_of_word {word : Text} (member : word ∈ starterWords) {c : Char}
    (head : word.head? = some c) : c ∉ '/' :: '}' :: Lexer.templateSigns := by
  have letters : starterWords.all (fun word => word.head?.all fun c =>
      !('/' :: '}' :: Lexer.templateSigns).contains c) = true := by decide
  have letter := List.all_eq_true.1 letters word member
  rw [head] at letter
  simpa using letter

/-- Only text of a template can be a part of a literal and begin a statement. -/
theorem template_of_isStarter {source : Text} {token : Token} {following : Option Token}
    (member : token ∈ Lexer.tokens source) (literal : token.type.isLiteralText = true)
    (starts : isStarter token following = true) : token.type = .template := by
  obtain ⟨notString, word⟩ := value_of_isStarter starts
  by_contra other
  rcases Lexer.head_of_literal member literal other with string | ⟨c, sign, head⟩
  · rw [notString] at string
    cases string
  · have signs : ['/', '$', '}'] ⊆ '/' :: '}' :: Lexer.templateSigns := by decide
    exact head_of_word word head (signs sign)

theorem isStretch_of_word {token : Token} (template : token.type = .template)
    (word : token.value ∈ starterWords) : Lexer.IsStretch ⟨token.type, token.value⟩ := by
  refine ⟨template, fun c head sign => head_of_word word head ?_⟩
  exact List.mem_cons_of_mem _ (List.mem_cons_of_mem _ sign)

/-- A stretch of a template begins a statement if it is a keyword; the word `import` must not be the
last token, and the word `async` never has `function` after it. -/
theorem isStarter_stretch_iff {token : Token} {rest : List Token} (template : token.type = .template)
    (ends : ∀ next ∈ rest.head?, Lexer.EndsStretch ⟨next.type, next.value⟩) :
    isStarter token rest.head? = true ↔
      token.value ∈ statementWords ∨ token.value = "import".toList ∧ rest ≠ [] := by
  have code : (token.isString || token.isPunctuation) = false := by
    simp [Token.isString, Token.isPunctuation, template, TokenClass.isString]
  have keyword : (declarationKeywords.contains token.value || token.spells "export") = true ↔
      token.value ∈ statementWords := by
    rw [Bool.or_eq_true_iff, List.contains_iff_mem, Token.spells_iff, statementWords, List.mem_cons,
      or_comm]
  -- A sign of the template follows, if anything does: no bracket, no dot, and no `function`.
  have imports : (rest.head?.any fun other => !(other.isMark '(' || other.isMark '.')) = true ↔
      rest ≠ [] := by
    cases rest with
    | nil => simp
    | cons next rest =>
        obtain ⟨kind, -⟩ := ends next rfl
        have other : next.isPunctuation = false := by
          unfold Token.isPunctuation
          rcases kind with kind | kind | kind <;> rw [show next.type = _ from kind] <;> rfl
        simp [Token.isMark, other]
  have async : (rest.head?.any fun other => other.spells "function") = false := by
    cases rest with
    | nil => rfl
    | cons next rest =>
        obtain ⟨-, c, sign, head⟩ := ends next rfl
        refine Bool.eq_false_iff.2 fun function => ?_
        have word : next.value ∈ starterWords := by
          rw [Token.spells_iff.1 function]
          decide
        exact head_of_word word head (List.mem_cons_of_mem _ (List.mem_cons_of_mem _ sign))
  rw [isStarter, code, if_neg Bool.false_ne_true]
  by_cases word : token.value ∈ statementWords
  · rw [if_pos (keyword.2 word)]
    exact iff_of_true rfl (.inl word)
  · rw [if_neg (mt keyword.1 word)]
    by_cases spelled : token.spells "import" = true
    · rw [if_pos spelled, imports]
      constructor
      · intro left
        exact .inr ⟨Token.spells_iff.1 spelled, left⟩
      · rintro (here | ⟨-, left⟩)
        · exact absurd here word
        · exact left
    · rw [if_neg spelled, async, ite_self]
      refine iff_of_false Bool.false_ne_true ?_
      rintro (here | ⟨value, -⟩)
      · exact word here
      · exact spelled (Token.spells_iff.2 value)

/-- After a sign of a template a keyword begins a new statement. -/
theorem isBoundary_of_sign {previous token : Token} {following : Option Token}
    (sign : Lexer.IsSign ⟨previous.type, previous.value⟩)
    (starts : isStarter token following = true) : isBoundary previous token following = true := by
  obtain ⟨kind, c, sign, head⟩ := sign
  have code : previous.type.isOperator = false := by
    rcases kind with kind | kind <;> rw [show previous.type = _ from kind] <;> rfl
  have ended : continuations.contains previous.value = false := by
    refine Bool.eq_false_iff.2 fun asks => ?_
    have signs : continuations.all (fun word => word.head?.all fun c =>
        !('}' :: Lexer.templateSigns).contains c) = true := by decide
    have free := List.all_eq_true.1 signs _ (List.contains_iff_mem.1 asks)
    rw [show previous.value.head? = some c from head] at free
    exact absurd sign (by simpa using free)
  rw [isBoundary, starts, code, ended]
  exact Bool.or_true _

/-! ## Cutting at a keyword -/

/-- A boundary outside brackets begins a new segment. -/
theorem split_append_boundary {front rest : List Token} {previous token : Token}
    (last : front.getLast? = some previous) (closed : depth front = 0)
    (plain : token.isOpener = false ∧ token.isCloser = false) (mark : token.isMark ';' = false)
    (boundary : isBoundary previous token rest.head? = true) :
    ∃ segments, segments.flatMap tokens = front ∧
      split (front ++ token :: rest) = segments ++ split (token :: rest) := by
  rcases split_append_cases (some token) front with
    ⟨segments, completes⟩ | ⟨segments, first, inside, leaves⟩
  · exact ⟨segments, completes.flatten.symm, completes.split _ (.of_head rfl)⟩
  · refine ⟨segments ++ [.statement first inside], ?_, ?_⟩
    · simpa [tokens] using leaves.flatten.symm
    · have same : inside.getLast?.getD first = previous := by
        rw [leaves.flatten, List.getLast?_append, List.getLast?_cons] at last
        exact Option.some.inj last
      rw [leaves.split _ (.of_head rfl), closed, same,
        statementRest_boundary (isOutside_iff.2 ⟨rfl, plain⟩) mark boundary]
      simp

/-- A stretch of a template that is a keyword outside brackets begins a statement. -/
theorem exists_span_of_stretch {source : Text} {front rest : List Token} {token : Token}
    (stands : Lexer.tokens source = front ++ token :: rest) (template : token.type = .template)
    (closed : depth front = 0) (starts : isStarter token rest.head? = true) :
    ∃ span ∈ spans (Lexer.tokens source), span.first = front.length := by
  have stretch := isStretch_of_word template (value_of_isStarter starts).2
  obtain ⟨⟨previous, last, sign⟩, -⟩ := Lexer.stretch_neighbours stands stretch
  have code : token.isPunctuation = false := by
    rw [Token.isPunctuation, template]
    rfl
  have notDoc : token.isDoc = false := by
    simp [Token.isDoc, Lexeme.isDoc, template, TokenClass.isComment]
  obtain ⟨segments, rfl, cut⟩ := split_append_boundary last closed (Token.plain_of_code code)
    (Token.isMark_of_code code ';') (isBoundary_of_sign sign starts)
  have member := mem_spansFrom 0 segments (split (statementFrom token rest).2) token
    (statementFrom token rest).1
  rw [← split_statement notDoc, ← cut, ← stands] at member
  exact ⟨_, member, Nat.zero_add _⟩

end Segment

/-! ## Records -/

/-- A statement is noted if it is recorded or its tokens are dumped. -/
def Record.IsNoted (record : Record) : Prop := record.statement.isSome = true ∨ record.dump ≠ []

/-- A statement is noted just if its first token is a keyword. -/
theorem Record.isNoted_iff {path undocumented : Text} {doc following : Option Token} {first : Token}
    {more : List Token} {record : Record}
    (read : Record.read path undocumented doc first more following = .ok record) :
    record.IsNoted ↔ Segment.isStarter first following = true := by
  cases starts : Segment.isStarter first following with
  | false =>
      rw [read_aside starts] at read
      cases read
      simp [IsNoted]
  | true =>
      refine iff_of_true ?_ rfl
      by_cases imports : first.spells "import" = true
      · rw [read_import starts imports] at read
        cases read
        exact .inl rfl
      · by_cases exports : first.spells "export" = true
        · rw [read_export starts exports] at read
          cases made : readExport (symbol path undocumented doc first more) more with
          | error fault =>
              rw [made] at read
              cases read
          | ok made' =>
              rw [made] at read
              cases read
              cases made' <;> exact .inr (List.cons_ne_nil _ _)
        · rw [read_declaration starts (Bool.eq_false_iff.2 imports) (Bool.eq_false_iff.2 exports)]
            at read
          cases declares : Declaration.read (first :: more) with
          | error fault =>
              rw [declares] at read
              cases read
          | ok parts =>
              rw [declares] at read
              cases read
              exact .inl rfl

namespace Outline

/-- A statement that begins at a token is noted just if the token is a keyword. -/
theorem noted_iff {path undocumented : Text} {front rest : List Token} {token : Token}
    {span : Span} {record : Record} (member : span ∈ Segment.spans (front ++ token :: rest))
    (begins : span.first = front.length)
    (read : readSpan path undocumented (front ++ token :: rest) span = .ok record) :
    Segment.depth front = 0 ∧
      (record.IsNoted ↔ Segment.isStarter token rest.head? = true) := by
  obtain ⟨before, first, more, after, cut, rfl⟩ := Segment.exists_statement member
  have begins : Segment.width before = front.length := by simpa using begins
  have whole := Segment.flatMap_tokens_split (front ++ token :: rest)
  rw [cut, List.flatMap_append, List.flatMap_cons, Segment.tokens, List.cons_append] at whole
  obtain ⟨same, others⟩ := List.append_inj whole begins
  obtain ⟨rfl, rfl⟩ := List.cons.inj others
  subst same
  constructor
  · have wellCut := Segment.wellCut_split (before.flatMap Segment.tokens ++ first ::
      (more ++ after.flatMap Segment.tokens))
    rw [cut] at wellCut
    exact wellCut.depth_before
  · have here := readSpan_statement path undocumented (before.flatMap Segment.tokens) first more
      (after.flatMap Segment.tokens)
    rw [Nat.zero_add] at read
    rw [← Segment.width, read] at here
    exact Record.isNoted_iff here.symm

end Outline

/-- **What part of a literal begins a statement.**  The records of a module are read off its
statements, one off each.  A token that is a part of a string, template or regular expression
literal begins a statement that is recorded or dumped just if it is a stretch of a template outside
all brackets that is spelled as a statement keyword, the word `import` not being the last token. -/
theorem literal_begins_statement_iff (path undocumented source : Text) (outline : Outline)
    (outlined : Outline.ofSource path undocumented source = .ok outline) :
    (Segment.spans (Lexer.tokens source)).mapM
        (Outline.readSpan path undocumented (Lexer.tokens source)) = .ok outline.records ∧
    ∀ (front : List Token) (token : Token) (rest : List Token),
      Lexer.tokens source = front ++ token :: rest → token.type.isLiteralText = true →
      ((∃ span ∈ Segment.spans (Lexer.tokens source), ∃ record ∈ outline.records,
          Outline.readSpan path undocumented (Lexer.tokens source) span = .ok record ∧
            span.first = front.length ∧ record.IsNoted) ↔
        token.type = .template ∧ Segment.depth front = 0 ∧
          (token.value ∈ Segment.statementWords ∨
            token.value = "import".toList ∧ rest ≠ [])) := by
  have records := Outline.records_eq_mapM outlined
  refine ⟨records, fun front token rest stands literal => ?_⟩
  constructor
  · rintro ⟨span, among, record, -, read, begins, noted⟩
    rw [stands] at among read
    obtain ⟨closed, starts⟩ := Outline.noted_iff among begins read
    have starts := starts.1 noted
    have member : token ∈ Lexer.tokens source := by
      rw [stands]
      exact List.mem_append_right _ List.mem_cons_self
    have template := Segment.template_of_isStarter member literal starts
    have stretch := Segment.isStretch_of_word template (Segment.value_of_isStarter starts).2
    have ends := (Lexer.stretch_neighbours stands stretch).2
    exact ⟨template, closed, (Segment.isStarter_stretch_iff template ends).1 starts⟩
  · rintro ⟨template, closed, spelled⟩
    have word : token.value ∈ Segment.starterWords := by
      rcases spelled with word | ⟨import', -⟩
      · exact List.mem_cons_of_mem _ (List.mem_cons_of_mem _ word)
      · rw [import']
        exact List.mem_cons_self
    have ends := (Lexer.stretch_neighbours stands (Segment.isStretch_of_word template word)).2
    have starts := (Segment.isStarter_stretch_iff template ends).2 spelled
    obtain ⟨span, among, begins⟩ :=
      Segment.exists_span_of_stretch stands template closed starts
    obtain ⟨record, recorded, read⟩ := Outline.exists_of_mapM records among
    refine ⟨span, among, record, recorded, read, begins, ?_⟩
    rw [stands] at among read
    exact (Outline.noted_iff among begins read).2.2 starts

/-- A module whose only template spells a keyword. -/
def keywordInTemplate : Text := "export const a = `const`;".toList

theorem tokens_keywordInTemplate : Lexer.tokens keywordInTemplate =
    [⟨.keyword, "export".toList, 1⟩, ⟨.declarationWord, "const".toList, 1⟩, ⟨.identifier, ['a'], 1⟩,
      ⟨.operator, ['='], 1⟩, ⟨.template, ['`'], 1⟩, ⟨.template, "const".toList, 1⟩,
      ⟨.template, ['`'], 1⟩, ⟨.punctuation, [';'], 1⟩] := by
  decide +kernel

theorem isOk_keywordInTemplate :
    (Outline.ofSource "index.js".toList [] keywordInTemplate).isOk = true := by
  rw [Outline.ofSource, tokens_keywordInTemplate]
  decide +kernel

theorem literal_begins_statement_iff_of_keyword :
    ∃ outline, Outline.ofSource "index.js".toList [] keywordInTemplate = .ok outline ∧
      ∃ span ∈ Segment.spans (Lexer.tokens keywordInTemplate), ∃ record ∈ outline.records,
        Outline.readSpan "index.js".toList [] (Lexer.tokens keywordInTemplate) span = .ok record ∧
          span.first = 5 ∧ record.IsNoted := by
  obtain ⟨outline, outlined⟩ := Outline.exists_of_isOk isOk_keywordInTemplate
  refine ⟨outline, outlined, ?_⟩
  refine ((literal_begins_statement_iff _ _ _ outline outlined).2 _ _ _
    (tokens_keywordInTemplate.trans (List.take_append_drop 5 _).symm) rfl).2 ?_
  exact ⟨rfl, by decide, .inl (by decide)⟩

/-- The text of the template ends the export and is recorded as a declaration of its own, and the
dump of the export breaks off inside the literal. -/
theorem template_text_is_read_as_code :
    Segment.spans (Lexer.tokens keywordInTemplate) = [⟨0, 4⟩, ⟨5, 7⟩] ∧
      (Lexer.tokens keywordInTemplate)[5]? = some ⟨.template, "const".toList, 1⟩ ∧
      (Outline.ofSource "index.js".toList [] keywordInTemplate).toOption.map
          (fun outline => (outline.records.map (·.statement.isSome), outline.dump)) =
        some ([true, true], (Lexer.tokens keywordInTemplate).take 5) := by
  rw [Outline.ofSource, tokens_keywordInTemplate]
  decide +kernel

end ExportDocs
