/-
# ExportDocs.Proofs.Exports.Clauses -- import and export clauses are read as they are written

The statements that import and export names are written here as trees (`Sentence`): lists in braces
with names and new names, quoted or not, default names, asterisks and specifiers.  Almost every word
of such a statement may also be a name, `as`, `from` and `default` among them; the reader knows them
by what stands beside them.

A statement that is printed as tokens is read as it was written, but for one thing: a default name
that cannot name a binding for the reader (`Token.isBindingName`), as one that begins with a letter
outside ASCII, is not taken.  `clauses_read_back` says what is read of any list of statements, and
that this is what was written just if there is no such name.
-/
import ExportDocs.Proofs.Exports.Declarators
import ExportDocs.Proofs.Exports.Readings
import ExportDocs.Proofs.Exports.Resolver
import ExportDocs.Proofs.Exports.Segments

namespace ExportDocs

set_option autoImplicit false

/-- The whole text is one identifier, in letters of any alphabet. -/
def Text.IsIdentifier (t : Text) : Prop := Shape.identifier t = some t.length

instance : DecidablePred Text.IsIdentifier := fun _ => inferInstanceAs (Decidable (_ = _))

namespace Clause

open Declaration (Mark)

/-! ## Statements as trees -/

/-- A word or a sign of code, whatever its class. -/
abbrev Code (word : String) := {token : Token //
  token.isString = false ∧ token.isPunctuation = false ∧ token.spells word = true}

/-- An identifier or a keyword. -/
abbrev Word := {token : Token //
  token.isString = false ∧ token.isPunctuation = false ∧ token.value.IsIdentifier}

/-- Words that begin a statement. -/
def statementWords : List Text :=
  Segment.declarationKeywords ++ ["export".toList, "import".toList, "async".toList]

/-- A name outside braces. -/
abbrev OuterWord := {word : Word // word.1.value ∉ statementWords}

/-- A name for the default export of another module. -/
abbrev DefaultWord := {word : OuterWord // word.1.1.value ≠ "type".toList}

/-- A text in quotes of either form. -/
structure Quoted where
  double : Bool
  text : Text
  line : Nat

namespace Quoted

def quote (string : Quoted) : Char := if string.double then '"' else '\''

def token (string : Quoted) : Token where
  type := if string.double then .doubleQuoted else .singleQuoted
  value := string.quote :: (string.text ++ [string.quote])
  line := string.line

end Quoted

/-- A name in braces. -/
inductive Name where
  | word (identifier : Word)
  | quoted (string : Quoted)

namespace Name

def token : Name → Token
  | word identifier => identifier.1
  | quoted string => string.token

def text : Name → Text
  | word identifier => identifier.1.value
  | quoted string => string.text

end Name

/-- One name in braces, with a new name or without. -/
structure Specifier where
  name : Name
  newName : Option (Code "as" × Name)

namespace Specifier

def tokens (specifier : Specifier) : List Token :=
  specifier.name.token ::
    specifier.newName.toList.flatMap fun newName => [newName.1.1, newName.2.token]

/-- The name and the name that it gets. -/
def pair (specifier : Specifier) : Text × Text :=
  (specifier.name.text, (specifier.newName.map (·.2.text)).getD specifier.name.text)

end Specifier

/-- A list in braces.  A comma may follow the last name. -/
structure Braces where
  opener : Mark '{'
  separated : List (Specifier × Mark ',')
  last : Option Specifier
  trailing : Option (Mark ',')
  closer : Mark '}'

namespace Braces

def inside (braces : Braces) : List Token :=
  braces.separated.flatMap (fun item => item.1.tokens ++ [item.2.1]) ++
    (braces.last.toList.flatMap Specifier.tokens ++ braces.trailing.toList.map (·.1))

def tokens (braces : Braces) : List Token := braces.opener.1 :: (braces.inside ++ [braces.closer.1])

def pairs (braces : Braces) : List (Text × Text) :=
  (braces.separated.map Prod.fst ++ braces.last.toList).map Specifier.pair

end Braces

/-- The names that an import statement binds. -/
inductive ImportClause where
  | default (name : DefaultWord)
  | braces (default : Option (DefaultWord × Mark ',')) (list : Braces)
  | whole (default : Option (DefaultWord × Mark ',')) (star : Code "*") (link : Code "as")
      (name : OuterWord)

namespace ImportClause

def leadTokens (default : Option (DefaultWord × Mark ',')) : List Token :=
  default.toList.flatMap fun lead => [lead.1.1.1.1, lead.2.1]

def tokens : ImportClause → List Token
  | default name => [name.1.1.1]
  | braces lead list => leadTokens lead ++ list.tokens
  | whole lead star link name => leadTokens lead ++ [star.1, link.1, name.1.1]

/-- The name for the default export. -/
def defaultName : ImportClause → Option Token
  | default name => some name.1.1.1
  | braces lead _ => lead.map (·.1.1.1.1)
  | whole lead _ _ _ => lead.map (·.1.1.1.1)

/-- The other bindings, each with the imported name first. -/
def others : ImportClause → List (Text × Text)
  | default _ => []
  | braces _ list => list.pairs
  | whole _ _ _ name => [(['*'], name.1.1.value)]

/-- The binding of the default export to a name. -/
def defaultPairs (name : Option Token) : List (Text × Text) :=
  name.toList.map fun token => ("default".toList, token.value)

/-- The bindings that are written. -/
def pairs (clause : ImportClause) : List (Text × Text) :=
  defaultPairs clause.defaultName ++ clause.others

/-- The bindings that are read. -/
def readPairs (clause : ImportClause) : List (Text × Text) :=
  defaultPairs (clause.defaultName.filter Token.isBindingName) ++ clause.others

end ImportClause

/-- A statement without its semicolon. -/
inductive Body where
  | importSource (word : Code "import") (source : Quoted)
  | imports (word : Code "import") (clause : ImportClause) (link : Code "from") (source : Quoted)
  | exportsNamed (word : Code "export") (list : Braces) (source : Option (Code "from" × Quoted))
  | exportsAll (word : Code "export") (star : Code "*") (newName : Option (Code "as" × OuterWord))
      (link : Code "from") (source : Quoted)
  | exportsDefault (word : Code "export") (link : Code "default") (name : OuterWord)

namespace Body

def keyword : Body → Token
  | importSource word _ => word.1
  | imports word .. => word.1
  | exportsNamed word .. => word.1
  | exportsAll word .. => word.1
  | exportsDefault word .. => word.1

/-- The tokens after the keyword. -/
def tokens : Body → List Token
  | importSource _ source => [source.token]
  | imports _ clause link source => clause.tokens ++ [link.1, source.token]
  | exportsNamed _ list source =>
    list.tokens ++ source.toList.flatMap fun entry => [entry.1.1, entry.2.token]
  | exportsAll _ star newName link source =>
    star.1 :: (newName.toList.flatMap (fun entry => [entry.1.1, entry.2.1.1]) ++
      [link.1, source.token])
  | exportsDefault _ link name => [link.1, name.1.1]

/-- The form that is written. -/
def form : Body → Form
  | importSource _ source => .imports [] (some source.text)
  | imports _ clause _ source => .imports clause.pairs (some source.text)
  | exportsNamed _ list source => .exportsNamed list.pairs (source.map (·.2.text))
  | exportsAll _ _ newName _ source =>
    .exportsAll (newName.map (·.2.1.1.value)) (some source.text)
  | exportsDefault _ _ name => .exportsDefault none name.1.1.value

/-- The form that is read: a default name that is no binding name is left out of an import, and makes
an export one of an expression. -/
def readForm : Body → Form
  | imports _ clause _ source => .imports clause.readPairs (some source.text)
  | exportsDefault word link name =>
    if name.1.1.isBindingName then (exportsDefault word link name).form
    else .exportsDefault (some .expression) "default".toList
  | body => body.form

/-- The name of the default export, of this module or of another one. -/
def defaultName : Body → Option Token
  | imports _ clause _ _ => clause.defaultName
  | exportsDefault _ _ name => some name.1.1
  | _ => none

end Body

/-- The local names that a form binds, each with its source and the imported name. -/
def bound : Form → List (Text × Text × Text)
  | .imports pairs (some source) => pairs.map fun pair => (pair.2, source, pair.1)
  | _ => []

/-- Where a name is from that may be bound more than once. -/
def IsLastBinding (bindings : List (Text × Text × Text)) (name : Text) (origin : Text × Text) :
    Prop :=
  ∃ earlier later, bindings = earlier ++ (name, origin) :: later ∧
    ∀ binding ∈ later, binding.1 ≠ name

/-- A statement that imports or exports names. -/
structure Sentence where
  body : Body
  stop : Mark ';'

namespace Sentence

def tokens (sentence : Sentence) : List Token :=
  sentence.body.keyword :: (sentence.body.tokens ++ [sentence.stop.1])

/-- The statement that is written. -/
def statement (sentence : Sentence) : Statement := ⟨sentence.body.keyword.line, sentence.body.form⟩

/-- The statement that is read. -/
def readStatement (sentence : Sentence) : Statement :=
  ⟨sentence.body.keyword.line, sentence.body.readForm⟩

/-- The default name, if there is one, is a binding name. -/
def IsRegular (sentence : Sentence) : Prop :=
  ∀ name ∈ sentence.body.defaultName, name.isBindingName = true

end Sentence

/-! ## Tokens of a statement -/

section Tokens

variable {token : Token}

theorem notDoc_of_head (other : ∀ rest, token.value ≠ '/' :: rest) : token.isDoc = false := by
  refine Bool.eq_false_iff.2 fun doc => ?_
  obtain ⟨rest, value⟩ := Token.value_of_isDoc doc
  exact other rest value

/-- A word that begins no statement is quiet. -/
theorem quiet_of_code (code : token.isPunctuation = false) (free : token.value ∉ statementWords)
    (head : ∀ rest, token.value ≠ '/' :: rest) : Segment.Quiet token where
  plain := Token.plain_of_code code
  goesOn := Token.isMark_of_code code ';'
  notDoc := notDoc_of_head head
  aside following := by
    simp only [statementWords, List.mem_append, List.mem_cons, List.not_mem_nil, or_false,
      not_or] at free
    obtain ⟨declares, exports, imports, async⟩ := free
    have declares : Segment.declarationKeywords.contains token.value = false := by
      simpa using declares
    have exports : token.spells "export" = false := beq_eq_false_iff_ne.2 exports
    have imports : token.spells "import" = false := beq_eq_false_iff_ne.2 imports
    have async : token.spells "async" = false := beq_eq_false_iff_ne.2 async
    simp only [Segment.isStarter, declares, exports, imports, async, Bool.or_self,
      Bool.false_eq_true, if_false, ite_self]

theorem quiet_of_mark {mark : Char} (marked : token.isMark mark = true)
    (other : mark ∉ ['(', '{', '[', ')', '}', ']']) (goesOn : mark ≠ ';') :
    Segment.Quiet token where
  plain := Token.plain_of_isMark marked other
  goesOn := by
    rw [Token.isMark, Bool.and_eq_true, beq_iff_eq] at marked
    simp [Token.isMark, marked.2, goesOn]
  notDoc := by
    refine Bool.eq_false_iff.2 fun doc => ?_
    rw [Token.isMark_of_isDoc doc] at marked
    cases marked
  aside following := by
    rw [Token.isMark, Bool.and_eq_true] at marked
    simp [Segment.isStarter, marked.1]

end Tokens

theorem identifier_ne_cons {t : Text} (whole : t.IsIdentifier) {mark : Char}
    (other : Text.isIdentStart mark = false) (apart : mark ≠ '\\') (rest : Text) :
    t ≠ mark :: rest := by
  rintro rfl
  have refused : Shape.identifier (mark :: rest) = none := by
    simp [Shape.identifier, other, apart]
  simp [Text.IsIdentifier, refused] at whole

theorem OuterWord.quiet (word : OuterWord) : Segment.Quiet word.1.1 :=
  quiet_of_code word.1.2.2.1 word.2 (identifier_ne_cons word.1.2.2.2 (by decide) (by decide))

theorem Code.quiet {word : String} (code : Code word) (free : word.toList ∉ statementWords)
    (head : word.toList.head? ≠ some '/') : Segment.Quiet code.1 := by
  have value := Token.spells_iff.1 code.2.2.2
  refine quiet_of_code code.2.2.1 (value ▸ free) fun rest same => head ?_
  rw [← value, same]
  rfl

namespace Quoted

variable (string : Quoted)

theorem isString : string.token.isString = true := by
  cases double : string.double <;> simp [token, Token.isString, TokenClass.isString, double]

theorem isPunctuation : string.token.isPunctuation = false := by
  cases double : string.double <;> simp [token, Token.isPunctuation, double]

theorem stringValue : string.token.stringValue = string.text := by
  simp [token, Token.stringValue]

theorem quiet : Segment.Quiet string.token where
  plain := Token.plain_of_code string.isPunctuation
  goesOn := Token.isMark_of_code string.isPunctuation ';'
  notDoc := by
    cases double : string.double <;>
      simp [token, Token.isDoc, Lexeme.isDoc, TokenClass.isComment, double]
  aside following := by simp [Segment.isStarter, string.isString]

end Quoted

namespace Name

variable (name : Name)

theorem isPunctuation : name.token.isPunctuation = false := by
  cases name with
  | word identifier => exact identifier.2.2.1
  | quoted string => exact string.isPunctuation

theorem bindingName : Clause.bindingName name.token = name.text := by
  cases name with
  | word identifier => simp [Clause.bindingName, token, text, identifier.2.1]
  | quoted string => simp [Clause.bindingName, token, text, string.isString, string.stringValue]

end Name

/-! ## Lists in braces -/

theorem not_close_of_comma (comma : Mark ',') : comma.1.isMark '}' = false := by
  simp [Token.isMark, Declaration.value_of_isMark comma.2]

theorem Specifier.specifiers_tokens (specifier : Specifier) {next : Token}
    (other : next.spells "as" = false) (rest : List Token) :
    specifiers (specifier.tokens ++ next :: rest) =
      (specifier.pair :: (specifiers (next :: rest)).1, (specifiers (next :: rest)).2) := by
  obtain ⟨name, newName⟩ := specifier
  have code := Token.isMark_of_code name.isPunctuation
  cases newName with
  | none =>
      rw [show Specifier.tokens ⟨name, none⟩ ++ next :: rest = name.token :: next :: rest from rfl,
        specifiers_single (code _) (code _) other, name.bindingName]
      rfl
  | some renamed =>
      obtain ⟨link, newName⟩ := renamed
      rw [show Specifier.tokens ⟨name, some (link, newName)⟩ ++ next :: rest =
          name.token :: link.1 :: newName.token :: (next :: rest) from rfl,
        specifiers_renamed (code _) (code _) link.2.2.2, name.bindingName, newName.bindingName]
      rfl

/-- **A list in braces is read as it is written.** -/
theorem Braces.specifiers_inside (braces : Braces) (rest : List Token) :
    specifiers (braces.inside ++ braces.closer.1 :: rest) = (braces.pairs, rest) := by
  obtain ⟨opener, separated, last, trailing, closer⟩ := braces
  have noLink : ∀ {mark : Char}, mark ∈ [',', '}'] → ∀ token : Mark mark,
      token.1.spells "as" = false := by
    intro mark member token
    refine Token.not_spells_of_isMark token.2 ?_
    rcases List.mem_cons.1 member with rfl | member
    · decide
    · cases List.mem_singleton.1 member
      decide
  induction separated with
  | nil =>
      cases last with
      | none =>
          cases trailing with
          | none => exact specifiers_close closer.2
          | some comma =>
              refine (specifiers_comma (not_close_of_comma comma) comma.2).trans ?_
              exact specifiers_close closer.2
      | some specifier =>
          cases trailing with
          | none =>
              have read := specifier.specifiers_tokens (noLink (by simp) closer) rest
              rw [specifiers_close closer.2] at read
              simpa [Braces.inside, Braces.pairs] using read
          | some comma =>
              have read := specifier.specifiers_tokens (noLink (by simp) comma) (closer.1 :: rest)
              rw [specifiers_comma (not_close_of_comma comma) comma.2,
                specifiers_close closer.2] at read
              simpa [Braces.inside, Braces.pairs] using read
  | cons item separated ih =>
      obtain ⟨specifier, comma⟩ := item
      have read := specifier.specifiers_tokens (noLink (by simp) comma)
        (Braces.inside ⟨opener, separated, last, trailing, closer⟩ ++ closer.1 :: rest)
      rw [specifiers_comma (not_close_of_comma comma) comma.2, ih] at read
      simpa [Braces.inside, Braces.pairs] using read

/-! ## The source of an import -/

theorem sourceAfter_tokens (link : Code "from") (source : Quoted) (rest : List Token) :
    sourceAfter (link.1 :: source.token :: rest) = some source.text := by
  simp [sourceAfter, link.2.2.2, source.isString, source.stringValue]

/-- No source is named in the tokens, if the rest comes after them. -/
def SourceFree (tokens rest : List Token) : Prop :=
  splitAtSource (tokens ++ rest) = (splitAtSource rest).map (Prod.map (tokens ++ ·) id)

namespace SourceFree

theorem nil (rest : List Token) : SourceFree [] rest := by
  show splitAtSource rest = _
  cases splitAtSource rest <;> rfl

theorem append {tokens others rest : List Token} (free : SourceFree tokens (others ++ rest))
    (goesOn : SourceFree others rest) : SourceFree (tokens ++ others) rest := by
  unfold SourceFree at *
  rw [List.append_assoc, free, goesOn]
  cases splitAtSource rest <;> simp [Prod.map]

/-- The word `from` is a name unless a string comes next. -/
theorem cons {token : Token} {tokens rest : List Token}
    (other : token.spells "from" = false ∨ ∀ next ∈ (tokens ++ rest).head?, next.isString = false)
    (goesOn : SourceFree tokens rest) : SourceFree (token :: tokens) rest := by
  have none : sourceAfter (token :: (tokens ++ rest)) = none := by
    cases after : tokens ++ rest with
    | nil => rfl
    | cons next others =>
        rcases other with other | other
        · simp [sourceAfter, other]
        · simp [sourceAfter, other next (by simp [after])]
  unfold SourceFree at *
  rw [List.cons_append, splitAtSource, none]
  simp only [goesOn]
  cases splitAtSource rest <;> rfl

theorem mark {token : Token} {mark : Char} (marked : token.isMark mark = true)
    {tokens rest : List Token} (goesOn : SourceFree tokens rest) : SourceFree (token :: tokens) rest := by
  refine cons (.inl (Token.not_spells_of_isMark marked fun same => ?_)) goesOn
  simpa using congrArg List.length same

end SourceFree

theorem isString_of_mark {token : Token} {mark : Char} (marked : token.isMark mark = true) :
    token.isString = false := by
  rw [Token.isMark, Bool.and_eq_true, Token.isPunctuation, beq_iff_eq] at marked
  simp [Token.isString, TokenClass.isString, marked.1]

theorem Specifier.sourceFree (specifier : Specifier) {next : Token} (code : next.isString = false)
    (rest : List Token) : SourceFree specifier.tokens (next :: rest) := by
  have last : ∀ name : Name, SourceFree [name.token] (next :: rest) := fun name =>
    .cons (.inr (by simpa using code)) (.nil _)
  obtain ⟨name, newName⟩ := specifier
  cases newName with
  | none => exact last name
  | some renamed =>
      obtain ⟨link, newName⟩ := renamed
      have other : link.1.spells "from" = false := Token.not_spells link.2.2.2 (by decide)
      refine .cons (.inr ?_) (.cons (.inl other) (last newName))
      simpa [Specifier.tokens] using link.2.1

theorem Braces.sourceFree (braces : Braces) (rest : List Token) :
    SourceFree braces.tokens rest := by
  obtain ⟨opener, separated, last, trailing, closer⟩ := braces
  refine .mark opener.2 ?_
  have closes : SourceFree [closer.1] rest := .mark closer.2 (.nil rest)
  have ends : SourceFree (trailing.toList.map (·.1)) ([closer.1] ++ rest) := by
    cases trailing with
    | none => exact .nil _
    | some comma => exact .mark comma.2 (.nil _)
  refine .append (.append ?_ (.append ?_ ends)) closes
  · induction separated with
    | nil => exact .nil _
    | cons item separated ih =>
        refine .append (.append (item.1.sourceFree (isString_of_mark item.2.2) _) ?_) ih
        exact .mark item.2.2 (.nil _)
  · cases last with
    | none => exact .nil _
    | some specifier =>
        rw [show (some specifier).toList.flatMap Specifier.tokens = specifier.tokens by simp]
        cases trailing with
        | none => exact specifier.sourceFree (isString_of_mark closer.2) _
        | some comma => exact specifier.sourceFree (isString_of_mark comma.2) _

/-- The source is found after tokens that name none. -/
theorem SourceFree.splitAtSource_link {tokens rest : List Token} {link : Code "from"}
    {source : Quoted} (free : SourceFree tokens (link.1 :: source.token :: rest)) :
    splitAtSource (tokens ++ link.1 :: source.token :: rest) = some (tokens, source.text) := by
  have found : splitAtSource (link.1 :: source.token :: rest) = some ([], source.text) := by
    rw [splitAtSource, sourceAfter_tokens link source rest]
  rw [free, found]
  simp

theorem sourceFree_last (token : Token) (link : Code "from") (rest : List Token) :
    SourceFree [token] (link.1 :: rest) :=
  .cons (.inr (by simpa using link.2.1)) (.nil _)

namespace ImportClause

variable (clause : ImportClause)

theorem sourceFree_lead (lead : Option (DefaultWord × Mark ',')) (rest : List Token) :
    SourceFree (leadTokens lead) rest := by
  cases lead with
  | none => exact .nil _
  | some lead =>
      exact .cons (.inr (by simpa using isString_of_mark lead.2.2)) (.mark lead.2.2 (.nil _))

theorem sourceFree (link : Code "from") (rest : List Token) :
    SourceFree clause.tokens (link.1 :: rest) := by
  cases clause with
  | default name => exact sourceFree_last name.1.1.1 link rest
  | braces lead list => exact .append (sourceFree_lead lead _) (list.sourceFree _)
  | whole lead star asLink name =>
      refine .append (sourceFree_lead lead _) ?_
      exact .cons (.inl (Token.not_spells star.2.2.2 (by decide)))
        (.cons (.inl (Token.not_spells asLink.2.2.2 (by decide)))
          (sourceFree_last name.1.1 link rest))

end ImportClause

/-! ## The bindings of an import -/

section Bindings

variable {token : Token} {rest : List Token}

theorem bindings_brace (opens : token.isMark '{' = true) :
    bindings (token :: rest) = (specifiers rest).1 ++ bindings (specifiers rest).2 := by
  rw [bindings.eq_def]
  simp only [opens, if_true]

theorem bindings_whole {link name : Token} (star : token.spells "*" = true)
    (named : link.spells "as" = true) :
    bindings (token :: link :: name :: rest) = (['*'], name.value) :: bindings rest := by
  have other : token.isMark '{' = false := Token.not_isMark_of_spells star (by decide)
  rw [bindings.eq_def]
  simp only [other, star, named, Bool.and_self, if_true, Bool.false_eq_true, if_false]

/-- Any other token binds the default export, if it can be a name. -/
theorem bindings_default (opens : token.isMark '{' = false) (star : token.spells "*" = false)
    (type : token.spells "type" = false) : bindings (token :: rest) =
      ImportClause.defaultPairs ((some token).filter Token.isBindingName) ++ bindings rest := by
  rw [bindings.eq_def]
  cases named : token.isBindingName <;>
    rcases rest with _ | ⟨link, _ | ⟨name, after⟩⟩ <;>
    simp [opens, star, type, named, Option.filter, ImportClause.defaultPairs]

theorem bindings_comma (comma : token.isMark ',' = true) :
    bindings (token :: rest) = bindings rest := by
  have value := Declaration.value_of_isMark comma
  rw [bindings_default (by simp [Token.isMark, value]) (by simp [Token.spells, value])
    (by simp [Token.spells, value])]
  simp [Option.filter, Declaration.not_bindingName_of_isMark comma, ImportClause.defaultPairs]

end Bindings

theorem bindings_word (name : DefaultWord) (rest : List Token) : bindings (name.1.1.1 :: rest) =
    ImportClause.defaultPairs ((some name.1.1.1).filter Token.isBindingName) ++ bindings rest := by
  refine bindings_default (Token.isMark_of_code name.1.1.2.2.1 _) (beq_eq_false_iff_ne.2 ?_)
    (beq_eq_false_iff_ne.2 name.2)
  exact identifier_ne_cons name.1.1.2.2.2 (by decide) (by decide) []

namespace ImportClause

theorem bindings_lead (lead : Option (DefaultWord × Mark ',')) (rest : List Token) :
    bindings (leadTokens lead ++ rest) =
      defaultPairs ((lead.map (·.1.1.1.1)).filter Token.isBindingName) ++ bindings rest := by
  cases lead with
  | none => rfl
  | some lead =>
      rw [show leadTokens (some lead) ++ rest = lead.1.1.1.1 :: lead.2.1 :: rest from rfl,
        bindings_word, bindings_comma lead.2.2]
      rfl

/-- **The bindings of a clause are read, but for a default name that is no binding name.** -/
theorem bindings_tokens (clause : ImportClause) : bindings clause.tokens = clause.readPairs := by
  cases clause with
  | default name =>
      rw [tokens, bindings_word, bindings]
      rfl
  | braces lead list =>
      rw [tokens, bindings_lead, Braces.tokens, bindings_brace list.opener.2,
        list.specifiers_inside [], bindings, List.append_nil]
      rfl
  | whole lead star link name =>
      rw [tokens, bindings_lead, bindings_whole star.2.2.2 link.2.2.2, bindings]
      rfl

end ImportClause

/-! ## Where a statement ends -/

theorem Braces.passes (braces : Braces) : Segment.Passes braces.tokens := by
  have closer := Declaration.value_of_isMark braces.closer.2
  refine .group (by simp [Token.isOpener, braces.opener.2])
    (by simp [Token.isCloser, braces.closer.2]) (by simp [Token.isOpener, Token.isMark, closer]) ?_
  have comma : ∀ comma : Mark ',', comma.1.isOpener = false ∧ comma.1.isCloser = false :=
    fun comma => Token.plain_of_isMark comma.2 (by decide)
  have specifier : ∀ specifier : Specifier, ∀ token ∈ specifier.tokens,
      token.isOpener = false ∧ token.isCloser = false := by
    intro specifier token member
    rcases List.mem_cons.1 member with rfl | member
    · exact Token.plain_of_code specifier.name.isPunctuation
    · obtain ⟨⟨link, newName⟩, -, member⟩ := List.mem_flatMap.1 member
      rcases List.mem_cons.1 member with rfl | member
      · exact Token.plain_of_code link.2.2.1
      · cases List.mem_singleton.1 member
        exact Token.plain_of_code newName.isPunctuation
  intro token member
  simp only [Braces.inside, List.mem_append, List.mem_flatMap, List.mem_map, List.mem_singleton]
    at member
  rcases member with ⟨item, -, member | rfl⟩ | ⟨last, -, member⟩ | ⟨trailing, -, rfl⟩
  · exact specifier item.1 token member
  · exact comma item.2
  · exact specifier last token member
  · exact comma trailing

theorem ImportClause.passes (clause : ImportClause) : Segment.Passes clause.tokens := by
  have lead : ∀ lead : Option (DefaultWord × Mark ','), Segment.Passes (leadTokens lead) := by
    intro lead
    cases lead with
    | none => exact .of_quiet (by simp [leadTokens])
    | some lead =>
        have comma := quiet_of_mark lead.2.2 (by decide) (by decide)
        exact .of_quiet (by simp [leadTokens, lead.1.1.quiet, comma])
  cases clause with
  | default name => exact .of_quiet (by simp [tokens, name.1.quiet])
  | braces front list => exact (lead front).append list.passes
  | whole front star link name =>
      have star := Code.quiet star (by decide) (by decide)
      have link := Code.quiet link (by decide) (by decide)
      exact (lead front).append (.of_quiet (by simp [star, link, name.quiet]))

theorem Body.passes (body : Body) : Segment.Passes body.tokens := by
  have sourced : ∀ (link : Code "from") (source : Quoted),
      Segment.Passes [link.1, source.token] := by
    intro link source
    have link := Code.quiet link (by decide) (by decide)
    exact .of_quiet (by simp [link, source.quiet])
  cases body with
  | importSource word source => exact .of_quiet (by simp [tokens, source.quiet])
  | imports word clause link source => exact clause.passes.append (sourced link source)
  | exportsNamed word list source =>
      cases source with
      | none => exact list.passes.append (.of_quiet (by simp))
      | some source => exact list.passes.append (sourced source.1 source.2)
  | exportsAll word star newName link source =>
      have star := (Code.quiet star (by decide) (by decide)).passes
      cases newName with
      | none => exact star.append (sourced link source)
      | some newName =>
          have asLink := Code.quiet newName.1 (by decide) (by decide)
          have named : Segment.Passes [newName.1.1, newName.2.1.1] :=
            .of_quiet (by simp [asLink, newName.2.quiet])
          exact star.append (named.append (sourced link source))
  | exportsDefault word link name =>
      have link := Code.quiet link (by decide) (by decide)
      exact .of_quiet (by simp [tokens, link, name.quiet])

/-! ## What is read -/

theorem isStarter_import (word : Code "import") {next : Token}
    (other : next.isMark '(' = false ∧ next.isMark '.' = false) :
    Segment.isStarter word.1 (some next) = true := by
  simp [Segment.isStarter, word.2.1, word.2.2.1, word.2.2.2, other]

theorem isStarter_export (word : Code "export") (following : Option Token) :
    Segment.isStarter word.1 following = true := by
  simp [Segment.isStarter, word.2.1, word.2.2.1, word.2.2.2]

/-- The first token of an import clause tells that a clause begins. -/
theorem ImportClause.exists_first (clause : ImportClause) : ∃ first others,
    clause.tokens = first :: others ∧ first.isString = false ∧
      first.isMark '(' = false ∧ first.isMark '.' = false := by
  have word : ∀ {token : Token}, token.isString = false ∧ token.isPunctuation = false →
      token.isString = false ∧ token.isMark '(' = false ∧ token.isMark '.' = false :=
    fun code => ⟨code.1, Token.isMark_of_code code.2 _, Token.isMark_of_code code.2 _⟩
  have named : ∀ name : DefaultWord, name.1.1.1.isString = false ∧ name.1.1.1.isPunctuation = false :=
    fun name => ⟨name.1.1.2.1, name.1.1.2.2.1⟩
  cases clause with
  | default name => exact ⟨_, _, rfl, word (named name)⟩
  | braces lead list =>
      cases lead with
      | none =>
          have value := Declaration.value_of_isMark list.opener.2
          exact ⟨_, _, rfl, isString_of_mark list.opener.2, by simp [Token.isMark, value],
            by simp [Token.isMark, value]⟩
      | some lead => exact ⟨_, _, rfl, word (named lead.1)⟩
  | whole lead star link name =>
      cases lead with
      | none => exact ⟨_, _, rfl, word ⟨star.2.1, star.2.2.1⟩⟩
      | some lead => exact ⟨_, _, rfl, word (named lead.1)⟩

/-- An import with a clause is read up to its source. -/
theorem readImport_cons {first : Token} (code : first.isString = false) {others rest : List Token}
    {link : Code "from"} {source : Quoted}
    (free : SourceFree (first :: others) (link.1 :: source.token :: rest)) :
    readImport (first :: others ++ link.1 :: source.token :: rest) =
      .imports (bindings (first :: others)) (some source.text) := by
  rw [readImport, List.cons_append, List.head?_cons, ← List.cons_append, free.splitAtSource_link]
  simp only [code, Bool.false_eq_true, if_false]

theorem readImport_clause (clause : ImportClause) (link : Code "from") (source : Quoted)
    (rest : List Token) : readImport (clause.tokens ++ link.1 :: source.token :: rest) =
      .imports clause.readPairs (some source.text) := by
  obtain ⟨first, others, tokens, code, -⟩ := clause.exists_first
  have free := clause.sourceFree link (source.token :: rest)
  rw [← clause.bindings_tokens]
  rw [tokens] at free ⊢
  exact readImport_cons code free

theorem starForm_tokens (newName : Option (Code "as" × OuterWord)) (link : Code "from")
    (source : Quoted) (rest : List Token) :
    starForm (newName.toList.flatMap (fun entry => [entry.1.1, entry.2.1.1]) ++
        link.1 :: source.token :: rest) =
      .exportsAll (newName.map (·.2.1.1.value)) (some source.text) := by
  cases newName with
  | none =>
      have other : link.1.spells "as" = false := Token.not_spells link.2.2.2 (by decide)
      rw [show (none : Option (Code "as" × OuterWord)).toList.flatMap _ ++
        link.1 :: source.token :: rest = link.1 :: source.token :: rest from rfl, starForm,
        starClause]
      simp [other, sourceAfter_tokens]
  | some newName =>
      obtain ⟨asLink, name⟩ := newName
      have proper : name.1.1.value ≠ [] := by
        intro empty
        have whole := name.1.2.2.2
        rw [Text.IsIdentifier, empty] at whole
        cases whole
      have reads : bindingName name.1.1 = name.1.1.value := by simp [bindingName, name.1.2.1]
      rw [show (some (asLink, name)).toList.flatMap _ ++ link.1 :: source.token :: rest =
        asLink.1 :: name.1.1 :: link.1 :: source.token :: rest from rfl, starForm, starClause,
        if_pos asLink.2.2.2, reads, sourceAfter_tokens]
      simp [proper]

/-- The end of a statement, with a semicolon or without. -/
def stopTokens (stop : Option (Mark ';')) : List Token := stop.toList.map (·.1)

theorem stopTokens_some (stop : Mark ';') : stopTokens (some stop) = [stop.1] := rfl

theorem defaultForm_tokens (word : Code "export") (link : Code "default") (name : OuterWord)
    (stop : Option (Mark ';')) :
    defaultForm (name.1.1 :: stopTokens stop) = (Body.exportsDefault word link name).readForm := by
  have stops : ((stopTokens stop).isEmpty ||
      ((stopTokens stop).length == 1 && (stopTokens stop).all (·.isMark ';'))) = true := by
    cases stop with
    | none => rfl
    | some stop => simp [stopTokens, stop.2]
  rw [defaultForm, stops, Bool.and_true]
  rfl

section Records

variable {path undocumented : Text} {doc : Option Token} {tokens : List Token} {form : Form}

theorem exists_record_of_import (word : Code "import")
    (starts : Segment.isStarter word.1 tokens.head? = true) (reads : readImport tokens = form) :
    ∃ record, Record.read path undocumented doc word.1 tokens tokens.head? = .ok record ∧
      record.statement = some ⟨word.1.line, form⟩ :=
  ⟨_, Record.read_import starts word.2.2.2, by rw [reads]⟩

theorem exists_record_of_export (word : Code "export")
    (reads : ∀ make, Record.readExport make tokens = .ok (Record.ofForm make form)) :
    ∃ record, Record.read path undocumented doc word.1 tokens tokens.head? = .ok record ∧
      record.statement = some ⟨word.1.line, form⟩ := by
  refine ⟨Record.ofExport word.1 tokens (Record.ofForm
    (Record.symbol path undocumented doc word.1 tokens) form), ?_, rfl⟩
  rw [Record.read_export (isStarter_export word _) word.2.2.2, reads]
  rfl

end Records

/-- **A statement of any form has one record, with the form that is read.** -/
theorem Body.exists_record (body : Body) (stop : Option (Mark ';')) (path undocumented : Text)
    (doc : Option Token) : ∃ record,
      Record.read path undocumented doc body.keyword (body.tokens ++ stopTokens stop)
        (body.tokens ++ stopTokens stop).head? = .ok record ∧
      record.statement = some ⟨body.keyword.line, body.readForm⟩ := by
  cases body with
  | importSource word source =>
      have other := Token.isMark_of_code source.isPunctuation
      refine exists_record_of_import word (isStarter_import word ⟨other _, other _⟩) ?_
      simp [readImport, tokens, source.isString, source.stringValue, readForm, form]
  | imports word clause link source =>
      obtain ⟨first, others, same, -, code⟩ := clause.exists_first
      have starts : Segment.isStarter word.1 (tokens (imports word clause link source) ++
          stopTokens stop).head? = true := by
        rw [tokens, same]
        exact isStarter_import word code
      refine exists_record_of_import word starts ?_
      rw [tokens, List.append_assoc]
      exact readImport_clause clause link source (stopTokens stop)
  | exportsNamed word list source =>
      refine exists_record_of_export word fun make => ?_
      have sourced : sourceAfter ((source.toList.flatMap fun entry => [entry.1.1, entry.2.token]) ++
          stopTokens stop) = source.map (·.2.text) := by
        cases source with
        | none => cases stop <;> rfl
        | some source => exact sourceAfter_tokens source.1 source.2 (stopTokens stop)
      simp only [tokens, Braces.tokens, List.cons_append, List.append_assoc, List.nil_append]
      rw [Record.readExport_brace list.opener.2, list.specifiers_inside, sourced]
      rfl
  | exportsAll word star newName link source =>
      refine exists_record_of_export word fun make => ?_
      simp only [tokens, List.cons_append, List.append_assoc, List.nil_append]
      rw [Record.readExport_star star.2.2.2, starForm_tokens newName link source]
      rfl
  | exportsDefault word link name =>
      refine exists_record_of_export word fun make => ?_
      have value : ((name.1.1 :: stopTokens stop).head?.any fun third =>
          Record.defaultKeywords.contains third.value) = false := by
        have free := name.2
        simp only [statementWords, Segment.declarationKeywords, List.mem_append, List.mem_cons,
          List.not_mem_nil, or_false, not_or] at free
        simpa [Record.defaultKeywords] using ⟨free.1.1, free.1.2.1, free.2.2.2⟩
      rw [show (exportsDefault word link name).tokens ++ stopTokens stop =
        link.1 :: name.1.1 :: stopTokens stop from rfl, Record.readExport_value link.2.2.2 value,
        defaultForm_tokens word link name stop]

/-! ## Lists of statements -/

theorem Body.keyword_code (body : Body) :
    body.keyword.isPunctuation = false ∧ body.keyword.isDoc = false := by
  have code : ∀ {word : String} (code : Code word), word.toList.head? ≠ some '/' →
      code.1.isPunctuation = false ∧ code.1.isDoc = false := by
    intro word code head
    refine ⟨code.2.2.1, notDoc_of_head fun rest same => head ?_⟩
    rw [← Token.spells_iff.1 code.2.2.2, same]
    rfl
  cases body <;> exact code _ (by decide)

theorem Sentence.split_tokens (sentence : Sentence) (rest : List Token) :
    Segment.split (sentence.tokens ++ rest) =
      .statement sentence.body.keyword (sentence.body.tokens ++ [sentence.stop.1]) ::
        Segment.split rest := by
  obtain ⟨code, notDoc⟩ := sentence.body.keyword_code
  rw [Sentence.tokens, List.cons_append, List.append_assoc]
  exact Segment.split_passes notDoc (Token.plain_of_code code) (Token.isMark_of_code code ';')
    sentence.body.passes sentence.stop.2 rest

/-- Each statement is read on its own. -/
theorem exists_records (path undocumented : Text) (sentences : List Sentence) :
    ∃ records, Outline.readSegments path undocumented none
        (Segment.split (sentences.flatMap Sentence.tokens)) = .ok records ∧
      records.filterMap (·.statement) = sentences.map Sentence.readStatement := by
  induction sentences with
  | nil => exact ⟨[], by rw [List.flatMap_nil, Segment.split, Outline.readSegments], rfl⟩
  | cons sentence sentences ih =>
      obtain ⟨records, later, statements⟩ := ih
      obtain ⟨record, read, statement⟩ :=
        sentence.body.exists_record (some sentence.stop) path undocumented none
      rw [stopTokens_some] at read
      refine ⟨record :: records, ?_, ?_⟩
      · have following : ∀ others, (sentence.body.tokens ++ [sentence.stop.1]).head?.or others =
            (sentence.body.tokens ++ [sentence.stop.1]).head? := by
          intro others
          cases sentence.body.tokens <;> rfl
        rw [List.flatMap_cons, sentence.split_tokens, Outline.readSegments, following, read, later]
        rfl
      · rw [List.filterMap_cons_some statement, statements]
        rfl

theorem importBindings_eq (outline : Outline) :
    outline.importBindings = outline.statements.flatMap fun statement => bound statement.form :=
  rfl

/-- What is read is what is written just if the default name is a binding name. -/
theorem Sentence.readStatement_eq_iff (sentence : Sentence) :
    sentence.readStatement = sentence.statement ↔ sentence.IsRegular := by
  simp only [Sentence.readStatement, Sentence.statement, Sentence.IsRegular, Statement.mk.injEq,
    true_and]
  cases sentence.body with
  | imports word clause link source =>
      simp only [Body.readForm, Body.form, Body.defaultName, Form.imports.injEq, and_true,
        ImportClause.readPairs, ImportClause.pairs, List.append_cancel_right_eq]
      cases clause.defaultName with
      | none => simp
      | some name => cases named : name.isBindingName <;> simp [ImportClause.defaultPairs, named]
  | exportsDefault word link name =>
      cases named : name.1.1.isBindingName <;>
        simp [Body.readForm, Body.form, Body.defaultName, named]
  | _ => simp [Body.readForm, Body.defaultName]

/-- **Import and export clauses are read as they are written, but for default names outside ASCII.**
Every list of statements is read, one record for each; a name is taken from where it was last
bound. -/
theorem clauses_read_back (path undocumented : Text) (sentences : List Sentence) :
    ∃ outline,
      Outline.ofTokens path undocumented (sentences.flatMap Sentence.tokens) = .ok outline ∧
      outline.statements = sentences.map Sentence.readStatement ∧
      (∀ name origin, outline.import? name = some origin ↔
        IsLastBinding (sentences.flatMap fun sentence => bound sentence.body.readForm) name origin) ∧
      (outline.statements = sentences.map Sentence.statement ↔
        ∀ sentence ∈ sentences, sentence.IsRegular) ∧
      ((∀ sentence ∈ sentences, sentence.IsRegular) → ∀ name origin,
        outline.import? name = some origin ↔
          IsLastBinding (sentences.flatMap fun sentence => bound sentence.body.form) name origin) := by
  obtain ⟨records, read, statements⟩ := exists_records path undocumented sentences
  let outline : Outline := ⟨path, undocumented, records⟩
  have statements : outline.statements = sentences.map Sentence.readStatement := statements
  have table : ∀ name origin, outline.import? name = some origin ↔
      IsLastBinding (sentences.flatMap fun sentence => bound sentence.body.readForm) name origin := by
    intro name origin
    rw [Outline.import?_eq_some_iff, importBindings_eq, statements, List.flatMap_map]
    rfl
  have regular : sentences.map Sentence.readStatement = sentences.map Sentence.statement ↔
      ∀ sentence ∈ sentences, sentence.IsRegular := by
    simp only [List.map_inj_left, Sentence.readStatement_eq_iff]
  refine ⟨outline, ?_, statements, table, statements ▸ regular, fun all name origin => ?_⟩
  · rw [Outline.ofTokens, read]
    rfl
  · have forms : (sentences.flatMap fun sentence => bound sentence.body.readForm) =
        sentences.flatMap fun sentence => bound sentence.body.form := by
      have same := congrArg (List.flatMap fun statement : Statement => bound statement.form)
        (regular.2 all)
      rwa [List.flatMap_map, List.flatMap_map] at same
    rw [table, forms]

/-- The name `é`. -/
def accentedWord : DefaultWord :=
  ⟨⟨⟨⟨.identifier, "é".toList, 1⟩, by decide, by decide, by decide +kernel⟩, by decide⟩, by decide⟩

/-- The statement `import é from 's';` or `import * as é from 's';`. -/
def accented (clause : ImportClause) : Sentence where
  body := .imports ⟨⟨.keyword, "import".toList, 1⟩, by decide⟩ clause
    ⟨⟨.reserved, "from".toList, 1⟩, by decide⟩ ⟨false, "s".toList, 1⟩
  stop := Declaration.markOf ';'

/-- The clause `* as é`. -/
def accentedWhole : ImportClause :=
  .whole none ⟨⟨.operator, "*".toList, 1⟩, by decide⟩ ⟨⟨.reserved, "as".toList, 1⟩, by decide⟩
    accentedWord.1

/-- **An accented name is bound to a whole module, but not to its default export.** -/
theorem accented_default_is_left_out :
    Lexer.tokens "import é from 's'; import * as é from 's';".toList =
      (accented (.default accentedWord)).tokens ++ (accented accentedWhole).tokens ∧
    (accented (.default accentedWord)).body.form =
      .imports [("default".toList, "é".toList)] (some "s".toList) ∧
    (Outline.ofTokens [] [] ((accented (.default accentedWord)).tokens ++
        (accented accentedWhole).tokens)).toOption.map Outline.statements =
      some [⟨1, .imports [] (some "s".toList)⟩,
        ⟨1, .imports [(['*'], "é".toList)] (some "s".toList)⟩] := by
  refine ⟨?_, by decide, ?_⟩ <;> decide +kernel

end Clause

end ExportDocs
