/-
# ExportDocs.Proofs.Exports.Declarators -- the names of a variable declaration

A variable declaration is a list of declarators, each of which binds a name or the names of a pattern
in brackets.  This module writes such declarations as trees (`Variables`), where the binding names are
plain to see (`Variables.names`), and compares them with the names that are read off the tokens.

The reader has no tree: it counts brackets and looks one token ahead.  It stops after the first
declarator, it knows only names that begin with an ASCII letter, an underscore or a dollar sign, and
it takes a name that ends a default value for one more element (`Expression.strays`).  The theorem
`reads_first_declarator` says exactly what is read, and when this is what the declaration binds.
-/
import ExportDocs.Exports.Outline
import Mathlib.Algebra.Order.BigOperators.Group.List

namespace ExportDocs.Declaration

set_option autoImplicit false

/-! ## Declarations as trees -/

/-- A token that is no bracket. -/
abbrev PlainToken := {token : Token // token.isOpener = false ∧ token.isCloser = false}

abbrev Opener := {token : Token // token.isOpener = true}

abbrev Closer := {token : Token // token.isCloser = true}

abbrev Mark (mark : Char) := {token : Token // token.isMark mark = true}

abbrev Spelled (word : String) := {token : Token // token.spells word = true}

/-- A token that stands where a name is bound, in letters of any alphabet. -/
abbrev Name := {token : Token // token.isString = false ∧ token.isPunctuation = false}

/-- The tokens of an expression; all that is known of them is which brackets belong together. -/
inductive Expression where
  | done
  | token (first : PlainToken) (rest : Expression)
  | group (opener : Opener) (inside : Expression) (closer : Closer) (rest : Expression)

namespace Expression

def tokens : Expression → List Token
  | done => []
  | token first rest => first.1 :: rest.tokens
  | group opener inside closer rest => opener.1 :: (inside.tokens ++ closer.1 :: rest.tokens)

/-- No comma stands outside brackets, so that the expression does not go on with the next element. -/
def isSingle : Expression → Bool
  | done => true
  | token first rest => !first.1.isMark ',' && rest.isSingle
  | group _ _ _ rest => rest.isSingle

/-- The names outside brackets that stand at the end or before an equals sign, as the names of
elements do. -/
def strays : Expression → List Text
  | done => []
  | token first rest =>
    (if first.1.isBindingName && rest.tokens.head?.all (·.spells "=") then [first.1.value] else []) ++
      rest.strays
  | group _ _ _ rest => rest.strays

end Expression

/-- A default value or an initialiser. -/
abbrev Value := {expression : Expression // expression.isSingle = true}

/-- What stands before the name of an element: nothing, the key that is renamed, or dots. -/
inductive Lead where
  | plain
  | key (name : PlainToken) (colon : Spelled ":")
  | rest (dots : Spelled "...")

def Lead.tokens : Lead → List Token
  | plain => []
  | key name colon => [name.1, colon.1]
  | rest dots => [dots.1]

/-- An equals sign and what stands after it. -/
def assigned : Option (Spelled "=" × Value) → List Token
  | none => []
  | some (sign, value) => sign.1 :: value.1.tokens

/-- One element of a pattern. -/
structure Element where
  lead : Lead
  name : Name
  default : Option (Spelled "=" × Value)

namespace Element

def tokens (element : Element) : List Token :=
  element.lead.tokens ++ element.name.1 :: assigned element.default

/-- The stray names of the default value. -/
def strays (element : Element) : List Text :=
  match element.default with
  | none => []
  | some (_, value) => value.1.strays

/-- The names that are read off an element. -/
def readNames (element : Element) : List Text :=
  (if element.name.1.isBindingName then [element.name.1.value] else []) ++ element.strays

/-- The name of an element is read, and nothing else of it. -/
def IsRegular (element : Element) : Prop :=
  element.name.1.isBindingName = true ∧ element.strays = []

end Element

/-- The brackets around a pattern. -/
inductive Shape where
  | object
  | array

def Shape.opening : Shape → Char
  | object => '{'
  | array => '['

def Shape.closing : Shape → Char
  | object => '}'
  | array => ']'

/-- A pattern of one level.  The last element may be followed by a comma. -/
structure BindingPattern where
  shape : Shape
  opener : Mark shape.opening
  elements : List (Element × Mark ',')
  last : Option Element
  closer : Mark shape.closing

namespace BindingPattern

def tokens (pattern : BindingPattern) : List Token :=
  pattern.opener.1 ::
    (pattern.elements.flatMap (fun element => element.1.tokens ++ [element.2.1]) ++
      (pattern.last.toList.flatMap Element.tokens ++ [pattern.closer.1]))

def entries (pattern : BindingPattern) : List Element :=
  pattern.elements.map Prod.fst ++ pattern.last.toList

end BindingPattern

/-- What a declarator binds. -/
inductive Target where
  | name (word : Name)
  | pattern (brackets : BindingPattern)

namespace Target

def tokens : Target → List Token
  | .name word => [word.1]
  | .pattern brackets => brackets.tokens

/-- The elements of a target, a single name being one. -/
def entries : Target → List Element
  | .name word => [⟨.plain, word, none⟩]
  | .pattern brackets => brackets.entries

end Target

structure Declarator where
  target : Target
  initial : Option (Spelled "=" × Value)

namespace Declarator

def tokens (declarator : Declarator) : List Token :=
  declarator.target.tokens ++ assigned declarator.initial

/-- The names that a declarator binds. -/
def names (declarator : Declarator) : List Text :=
  declarator.target.entries.map (·.name.1.value)

/-- The names that are read off a declarator. -/
def readNames (declarator : Declarator) : List Text :=
  declarator.target.entries.flatMap Element.readNames

end Declarator

/-- Words that begin a variable declaration. -/
def variableKeywords : List Text := ["const".toList, "let".toList, "var".toList]

/-- A variable declaration. -/
structure Variables where
  keyword : {token : Token // token.value ∈ variableKeywords}
  first : Declarator
  more : List (Mark ',' × Declarator)
  stop : Option (Mark ';')

namespace Variables

/-- The tokens after the keyword. -/
def body (declaration : Variables) : List Token :=
  declaration.first.tokens ++
    (declaration.more.flatMap (fun later => later.1.1 :: later.2.tokens) ++
      declaration.stop.toList.map (·.1))

def tokens (declaration : Variables) : List Token := declaration.keyword.1 :: declaration.body

/-- All names that a declaration binds, in order. -/
def names (declaration : Variables) : List Text :=
  declaration.first.names ++ declaration.more.flatMap (·.2.names)

end Variables

/-! ## Tokens that a pattern passes over -/

theorem value_of_isMark {token : Token} {mark : Char} (marked : token.isMark mark = true) :
    token.value = [mark] := by
  rw [Token.isMark, Bool.and_eq_true, beq_iff_eq] at marked
  exact marked.2

theorem not_bindingName_of_isMark {token : Token} {mark : Char}
    (marked : token.isMark mark = true) : token.isBindingName = false := by
  rw [Token.isMark, Bool.and_eq_true] at marked
  simp [Token.isBindingName, marked.1]

/-- A token that is neither a bracket nor a name: the signs of a pattern. -/
structure IsSign (token : Token) : Prop where
  opener : token.isOpener = false
  closer : token.isCloser = false
  name : token.isBindingName = false

theorem isSign_of_value {token : Token} {sign : Text} (value : token.value = sign)
    (bracket : sign ∉ [['('], ['{'], ['['], [')'], ['}'], [']']])
    (word : isBindingWord sign = false) : IsSign token := by
  simp only [List.mem_cons, List.not_mem_nil, or_false, not_or] at bracket
  obtain ⟨round, curly, square, closesRound, closesCurly, closesSquare⟩ := bracket
  constructor
  · simp [Token.isOpener, Token.isMark, value, round, curly, square]
  · simp [Token.isCloser, Token.isMark, value, closesRound, closesCurly, closesSquare]
  · simp [Token.isBindingName, value, word]

theorem isSign_of_spells {token : Token} {word : String} (spelled : token.spells word = true)
    (bracket : word.toList ∉ [['('], ['{'], ['['], [')'], ['}'], [']']])
    (other : isBindingWord word.toList = false) : IsSign token :=
  isSign_of_value (beq_iff_eq.1 spelled) bracket other

theorem isSign_comma (comma : Mark ',') : IsSign comma.1 :=
  isSign_of_value (value_of_isMark comma.2) (by decide) (by decide)

theorem not_isOpener_of_isCloser {token : Token} (closes : token.isCloser = true) :
    token.isOpener = false := by
  simp only [Token.isCloser, Bool.or_eq_true] at closes
  rcases closes with (closes | closes) | closes <;>
    simp [Token.isOpener, Token.isMark, value_of_isMark closes]

/-- The next token of an expression ends a name before it only if it is an equals sign. -/
theorem endsElement_of_plain (token : PlainToken) (other : token.1.isMark ',' = false) :
    endsElement token.1 = token.1.spells "=" := by
  have closer := token.2.2
  simp only [Token.isCloser, Bool.or_eq_false_iff] at closer
  simp [endsElement, other, closer.1.2, closer.2]

theorem endsElement_of_opener (opener : Opener) :
    endsElement opener.1 = opener.1.spells "=" := by
  have opens := opener.2
  simp only [Token.isOpener, Bool.or_eq_true] at opens
  rcases opens with (opens | opens) | opens <;>
    simp [endsElement, Token.isMark, Token.spells, value_of_isMark opens]

/-! ## What a pattern is read as -/

theorem patternNames_sign {token : Token} (sign : IsSign token) (depth : Nat) (rest : List Token) :
    patternNames depth (token :: rest) = patternNames depth rest := by
  simp [patternNames, sign.opener, sign.closer, sign.name]

theorem patternNames_plain {token : Token} (opener : token.isOpener = false)
    (closer : token.isCloser = false) (rest : List Token) :
    patternNames 0 (token :: rest) =
      (if token.isBindingName && rest.head?.any endsElement then [token.value] else []) ++
        patternNames 0 rest := by
  by_cases taken : (token.isBindingName && rest.head?.any endsElement) = true
  · simp [patternNames, opener, closer, taken]
  · simp [patternNames, opener, closer, taken]

/-- Inside further brackets an expression is passed over as a whole. -/
theorem patternNames_inside (expression : Expression) : ∀ (depth : Nat) (rest : List Token),
    patternNames (depth + 1) (expression.tokens ++ rest) = patternNames (depth + 1) rest := by
  induction expression with
  | done => exact fun _ _ => rfl
  | token first later ih =>
      intro depth rest
      simp [Expression.tokens, patternNames, first.2.1, first.2.2, ih]
  | group opener inside closer later insideIh laterIh =>
      intro depth rest
      have notOpener := not_isOpener_of_isCloser closer.2
      simp [Expression.tokens, patternNames, opener.2, closer.2, notOpener, insideIh, laterIh]

/-- What follows a name of a single expression ends an element only where the name is stray. -/
theorem ends_after_token {expression : Expression} (single : expression.isSingle = true)
    {next : Token} (ends : endsElement next = true) (rest : List Token) :
    (expression.tokens ++ next :: rest).head?.any endsElement =
      expression.tokens.head?.all (·.spells "=") := by
  cases expression with
  | done => simp [Expression.tokens, ends]
  | token first later =>
      have other : first.1.isMark ',' = false := by
        simp only [Expression.isSingle, Bool.and_eq_true, Bool.not_eq_true'] at single
        exact single.1
      simp [Expression.tokens, endsElement_of_plain first other]
  | group opener inside closer later =>
      simp [Expression.tokens, endsElement_of_opener opener]

/-- Of a default value its stray names are read. -/
theorem patternNames_value (expression : Expression) (single : expression.isSingle = true)
    {next : Token} (ends : endsElement next = true) (rest : List Token) :
    patternNames 0 (expression.tokens ++ next :: rest) =
      expression.strays ++ patternNames 0 (next :: rest) := by
  induction expression with
  | done => rfl
  | token first later ih =>
      simp only [Expression.isSingle, Bool.and_eq_true] at single
      simp only [Expression.tokens, Expression.strays, List.cons_append]
      rw [patternNames_plain first.2.1 first.2.2, ends_after_token single.2 ends, ih single.2,
        List.append_assoc]
  | group opener inside closer later _ laterIh =>
      -- The group is one level down, and its bracket leads back up.
      have notOpener := not_isOpener_of_isCloser closer.2
      have passed : patternNames 0 ((Expression.group opener inside closer later).tokens ++
          next :: rest) = patternNames 0 (later.tokens ++ next :: rest) := by
        simp [Expression.tokens, patternNames, opener.2, closer.2, notOpener, patternNames_inside]
      rw [passed, laterIh single, Expression.strays]

/-- What stands before the name of an element is passed over; a key is followed by a colon. -/
theorem patternNames_lead (lead : Lead) (rest : List Token) :
    patternNames 0 (lead.tokens ++ rest) = patternNames 0 rest := by
  cases lead with
  | plain => rfl
  | key name colon =>
      have sign : IsSign colon.1 := isSign_of_spells colon.2 (by decide) (by decide)
      have goesOn : endsElement colon.1 = false := by
        simp [endsElement, Token.isMark, Token.spells, beq_iff_eq.1 colon.2]
      simp [Lead.tokens, patternNames_plain name.2.1 name.2.2, patternNames_sign sign, goesOn]
  | rest dots => exact patternNames_sign (isSign_of_spells dots.2 (by decide) (by decide)) 0 rest

theorem Name.plain (name : Name) : name.1.isOpener = false ∧ name.1.isCloser = false := by
  simp [Token.isOpener, Token.isCloser, Token.isMark, name.2.2]

theorem patternNames_element (element : Element) {next : Token} (ends : endsElement next = true)
    (rest : List Token) :
    patternNames 0 (element.tokens ++ next :: rest) =
      element.readNames ++ patternNames 0 (next :: rest) := by
  obtain ⟨lead, name, default⟩ := element
  simp only [Element.tokens, List.append_assoc, patternNames_lead, List.cons_append]
  rw [patternNames_plain (Name.plain name).1 (Name.plain name).2]
  cases default with
  | none => simp [assigned, Element.readNames, Element.strays, ends]
  | some assignment =>
      obtain ⟨equals, value⟩ := assignment
      have sign : IsSign equals.1 := isSign_of_spells equals.2 (by decide) (by decide)
      have endsName : endsElement equals.1 = true := by simp [endsElement, equals.2]
      simp [assigned, Element.readNames, Element.strays, endsName, patternNames_sign sign,
        patternNames_value value.1 value.2 ends]

theorem patternNames_elements (elements : List (Element × Mark ',')) (rest : List Token) :
    patternNames 0 (elements.flatMap (fun element => element.1.tokens ++ [element.2.1]) ++ rest) =
      (elements.map Prod.fst).flatMap Element.readNames ++ patternNames 0 rest := by
  induction elements with
  | nil => rfl
  | cons element later ih =>
      obtain ⟨element, comma⟩ := element
      have ends : endsElement comma.1 = true := by simp [endsElement, comma.2]
      simp [patternNames_element element ends, patternNames_sign (isSign_comma comma), ih]

/-- The closing bracket ends the last element and the pattern. -/
theorem patternNames_last (last : Option Element) {closer : Token} (closes : closer.isCloser = true)
    (ends : endsElement closer = true) (rest : List Token) :
    patternNames 0 (last.toList.flatMap Element.tokens ++ closer :: rest) =
      last.toList.flatMap Element.readNames := by
  have stops : patternNames 0 (closer :: rest) = [] := by
    simp [patternNames, closes, not_isOpener_of_isCloser closes]
  cases last with
  | none => simpa using stops
  | some element => simp [patternNames_element element ends, stops]

theorem boundNames_pattern (pattern : BindingPattern) (rest : List Token) :
    boundNames (pattern.tokens ++ rest) = pattern.entries.flatMap Element.readNames := by
  obtain ⟨shape, opener, elements, last, closer⟩ := pattern
  have opens : (opener.1.isMark '{' || opener.1.isMark '[') = true := by
    cases shape
    · exact Bool.or_eq_true _ _ ▸ .inl opener.2
    · exact Bool.or_eq_true _ _ ▸ .inr opener.2
  have closes : closer.1.isCloser = true ∧ endsElement closer.1 = true := by
    cases shape <;>
      · have marked := closer.2
        simp only [Shape.closing] at marked
        simp [Token.isCloser, endsElement, marked]
  simp only [BindingPattern.tokens, BindingPattern.entries, List.cons_append, List.append_assoc,
    List.nil_append, boundNames, not_bindingName_of_isMark opener.2, opens, Bool.false_eq_true,
    if_false, if_true, patternNames_elements, patternNames_last last closes.1 closes.2,
    List.flatMap_append]

/-- Of all declarators the first one is read, whatever follows it. -/
theorem boundNames_declarator (declarator : Declarator) (rest : List Token) :
    boundNames (declarator.tokens ++ rest) = declarator.readNames := by
  obtain ⟨target, initial⟩ := declarator
  cases target with
  | name name =>
      have notOpener := (Name.plain name).1
      simp only [Token.isOpener, Bool.or_eq_false_iff] at notOpener
      simp [Declarator.tokens, Declarator.readNames, Target.tokens, Target.entries, boundNames,
        Element.readNames, Element.strays, notOpener.1.2, notOpener.2]
  | pattern brackets =>
      simp [Declarator.tokens, Declarator.readNames, Target.tokens, Target.entries,
        boundNames_pattern]

theorem Variables.keyword_cases (declaration : Variables) :
    declaration.keyword.1.value = "const".toList ∨ declaration.keyword.1.value = "let".toList ∨
      declaration.keyword.1.value = "var".toList := by
  simpa only [variableKeywords, List.mem_cons, List.not_mem_nil, or_false] using
    declaration.keyword.2

theorem read_tokens (declaration : Variables) :
    read declaration.tokens = .ok (variableKind declaration.body, declaration.first.readNames) := by
  have names : boundNames declaration.body = declaration.first.readNames :=
    boundNames_declarator declaration.first _
  rw [← names, Variables.tokens]
  rcases declaration.keyword_cases with word | word | word <;>
    simp [read, readKeyword, Token.spells, word]

/-! ## When the names are the binding names -/

theorem isBindingWord_of_name {token : Token} (named : token.isBindingName = true) :
    isBindingWord token.value = true := by
  rw [Token.isBindingName, Bool.and_eq_true] at named
  exact named.2

theorem isBindingWord_of_strays (expression : Expression) :
    ∀ word ∈ expression.strays, isBindingWord word = true := by
  induction expression with
  | done => exact fun _ member => absurd member List.not_mem_nil
  | token first later ih =>
      intro word member
      rcases List.mem_append.1 member with here | there
      · split at here
        case isTrue taken =>
          obtain rfl := List.mem_singleton.1 here
          exact isBindingWord_of_name (Bool.and_eq_true _ _ ▸ taken).1
        case isFalse => exact absurd here List.not_mem_nil
      · exact ih word there
  | group _ _ _ _ _ laterIh => exact laterIh

theorem Element.isBindingWord_of_read (element : Element) :
    ∀ word ∈ element.readNames, isBindingWord word = true := by
  intro word member
  rcases List.mem_append.1 member with own | stray
  · split at own
    case isTrue named =>
      obtain rfl := List.mem_singleton.1 own
      exact isBindingWord_of_name named
    case isFalse => exact absurd own List.not_mem_nil
  · obtain ⟨lead, name, default⟩ := element
    cases default with
    | none => exact absurd stray List.not_mem_nil
    | some assignment => exact isBindingWord_of_strays assignment.2.1 word stray

theorem Element.readNames_of_name {element : Element}
    (named : element.name.1.isBindingName = true) :
    element.readNames = element.name.1.value :: element.strays := by
  simp [Element.readNames, named]

/-- Every element gives one name at least, so a stray name makes the list too long. -/
theorem strays_eq_nil_of_length {entries : List Element}
    (length : (entries.flatMap fun entry => entry.name.1.value :: entry.strays).length =
      entries.length) : ∀ entry ∈ entries, entry.strays = [] := by
  induction entries with
  | nil => exact fun _ member => absurd member List.not_mem_nil
  | cons entry later ih =>
      have enough : later.length ≤
          (later.flatMap fun entry => entry.name.1.value :: entry.strays).length := by
        rw [List.length_flatMap]
        refine (List.length_le_sum_of_one_le _ ?_).trans_eq' (by simp)
        simp
      simp only [List.flatMap_cons, List.length_append, List.length_cons] at length
      refine List.forall_mem_cons.2 ⟨List.eq_nil_of_length_eq_zero (by omega), ih (by omega)⟩

theorem readNames_eq_names_iff (entries : List Element) :
    entries.flatMap Element.readNames = entries.map (·.name.1.value) ↔
      ∀ entry ∈ entries, entry.IsRegular := by
  constructor
  · intro same
    -- All that is read are words that can name a binding, so each name of an element is one.
    have named : ∀ entry ∈ entries, entry.name.1.isBindingName = true := by
      intro entry member
      have read : entry.name.1.value ∈ entries.flatMap Element.readNames :=
        same ▸ List.mem_map_of_mem member
      obtain ⟨source, -, word⟩ := List.mem_flatMap.1 read
      simp [Token.isBindingName, entry.name.2.1, entry.name.2.2,
        source.isBindingWord_of_read _ word]
    have opened : entries.flatMap Element.readNames =
        entries.flatMap fun entry => entry.name.1.value :: entry.strays :=
      List.flatMap_congr fun entry member => Element.readNames_of_name (named entry member)
    have length := congrArg List.length (opened.symm.trans same)
    rw [List.length_map] at length
    exact fun entry member => ⟨named entry member, strays_eq_nil_of_length length entry member⟩
  · intro regular
    rw [← List.flatMap_singleton' (entries.map _), List.flatMap_map]
    refine List.flatMap_congr fun entry member => ?_
    rw [Element.readNames_of_name (regular entry member).1, (regular entry member).2]

/-! ## Exported declarations -/

/-- An exported variable declaration is recorded with the names of its first declarator: of each of
its elements the name, if it begins as an ASCII name, and the stray names of the default value.  These
are the names that the declarator binds just if all its elements are regular; then they are the
names of the whole declaration just if no further declarator binds any. -/
theorem reads_first_declarator (declaration : Variables) (path undocumented : Text)
    (doc : Option Token) (word : Token) (following : Option Token)
    (starts : Segment.isStarter word following = true) (exports : word.spells "export" = true) :
    let kind := variableKind declaration.body
    let names := declaration.first.readNames
    let symbols := names.map fun name =>
      Record.symbol path undocumented doc word declaration.tokens name kind false
    read declaration.tokens = .ok (kind, names) ∧
      Record.read path undocumented doc word declaration.tokens following = .ok
        { statement := some ⟨word.line, .exportsDeclaration kind names⟩
          declared := symbols
          exported := symbols
          dump := word :: declaration.tokens } ∧
      (names = declaration.first.names ↔
        ∀ entry ∈ declaration.first.target.entries, entry.IsRegular) ∧
      ((∀ entry ∈ declaration.first.target.entries, entry.IsRegular) →
        (names = declaration.names ↔ ∀ later ∈ declaration.more, later.2.names = [])) := by
  have readsNames := read_tokens declaration
  have regular := readNames_eq_names_iff declaration.first.target.entries
  refine ⟨readsNames, ?_, regular, fun isRegular => ?_⟩
  · have notImport : word.spells "import" = false := by
      simp [Token.spells, beq_iff_eq.1 exports]
    have keyword : declaration.keyword.1.spells "*" = false ∧
        declaration.keyword.1.isMark '{' = false ∧
        declaration.keyword.1.spells "default" = false ∧
        declaration.keyword.1.value ∈ Segment.declarationKeywords := by
      rcases declaration.keyword_cases with value | value | value <;>
        simp [Token.spells, Token.isMark, value, Segment.declarationKeywords]
    rw [Variables.tokens] at readsNames ⊢
    simp [Record.read, Record.readExport, starts, exports, notImport, keyword, readsNames, bind,
      Except.bind, pure, Except.pure]
  · have own : declaration.first.readNames = declaration.first.names := regular.2 isRegular
    show declaration.first.readNames = declaration.names ↔ _
    rw [own, Variables.names, List.self_eq_append_right, List.flatMap_eq_nil_iff]

/-- A word on the first line. -/
def wordOf (type : TokenClass) (text : String)
    (kind : type.isString = false ∧ (type == .punctuation) = false) : Name :=
  ⟨⟨type, text.toList, 1⟩, kind⟩

/-- An identifier on the first line. -/
def identifier (text : String) : Name := wordOf .identifier text (by decide)

/-- Punctuation on the first line. -/
def markOf (mark : Char) : Mark mark :=
  ⟨⟨.punctuation, [mark], 1⟩, by simp [Token.isMark, Token.isPunctuation]⟩

/-- A value of one word. -/
def valueOf (word : Name) : Value :=
  ⟨.token ⟨word.1, Name.plain word⟩ .done, by
    simp [Expression.isSingle, Token.isMark, word.2.2]⟩

/-- A value after its equals sign. -/
def given (value : Value) : Option (Spelled "=" × Value) :=
  some (⟨⟨.operator, "=".toList, 1⟩, by decide⟩, value)

def exportWord : Token := ⟨.keyword, "export".toList, 1⟩

def constWord : {token : Token // token.value ∈ variableKeywords} :=
  ⟨⟨.declarationWord, "const".toList, 1⟩, by decide⟩

/-- The value `f(x)`. -/
def callValue : Value :=
  ⟨.token ⟨(identifier "f").1, Name.plain _⟩ (.group ⟨(markOf '(').1, by decide⟩
    (valueOf (identifier "x")).1 ⟨(markOf ')').1, by decide⟩ .done), by decide⟩

/-- The declaration `const { a, b: c = f(x), ...r } = o, [] = p;`. -/
def renamed : Variables where
  keyword := constWord
  first :=
    { target := .pattern
        { shape := .object
          opener := markOf '{'
          elements :=
            [(⟨.plain, identifier "a", none⟩, markOf ','),
              (⟨.key ⟨(identifier "b").1, Name.plain _⟩ ⟨⟨.operator, ":".toList, 1⟩, by decide⟩,
                identifier "c", given callValue⟩, markOf ',')]
          last := some ⟨.rest ⟨⟨.punctuation, "...".toList, 1⟩, by decide⟩, identifier "r", none⟩
          closer := markOf '}' }
      initial := given (valueOf (identifier "o")) }
  more := [(markOf ',',
    { target := .pattern ⟨.array, markOf '[', [], none, markOf ']'⟩
      initial := given (valueOf (identifier "p")) })]
  stop := some (markOf ';')

/-- A key, a default value that is a call, and a rest element are all read right. -/
theorem reads_first_declarator_of_renaming :
    Segment.isStarter exportWord none = true ∧ exportWord.spells "export" = true ∧
      (∀ entry ∈ renamed.first.target.entries, entry.IsRegular) ∧
      renamed.names = ["a".toList, "c".toList, "r".toList] ∧
      read renamed.tokens = .ok (.binding, renamed.names) := by
  obtain ⟨reads, -, -, whole⟩ :=
    reads_first_declarator renamed [] [] none exportWord none (by decide) (by decide)
  have regular : ∀ entry ∈ renamed.first.target.entries, entry.IsRegular := by
    unfold Element.IsRegular
    decide
  have names : renamed.first.readNames = renamed.names := (whole regular).2 (by decide)
  refine ⟨by decide, by decide, regular, by decide, ?_⟩
  rw [← names]
  exact reads

/-- The declaration `const { a = b } = o;`. -/
def defaulted : Variables where
  keyword := constWord
  first :=
    { target := .pattern ⟨.object, markOf '{', [],
        some ⟨.plain, identifier "a", given (valueOf (identifier "b"))⟩, markOf '}'⟩
      initial := given (valueOf (identifier "o")) }
  more := []
  stop := some (markOf ';')

/-- The declaration `const c = 1, d = 2;`. -/
def paired : Variables where
  keyword := constWord
  first := ⟨.name (identifier "c"), given (valueOf (wordOf .float "1" (by decide)))⟩
  more := [(markOf ',',
    ⟨.name (identifier "d"), given (valueOf (wordOf .float "2" (by decide)))⟩)]
  stop := some (markOf ';')

/-- **A default value is read as a name, and a second declarator is not read.** -/
theorem default_value_read_as_name :
    Lexer.tokens "export const \x7b a = b \x7d = o; export const c = 1, d = 2;".toList =
      exportWord :: defaulted.tokens ++ exportWord :: paired.tokens ∧
    defaulted.names = ["a".toList] ∧ paired.names = ["c".toList, "d".toList] ∧
    (Outline.ofTokens [] []
        (exportWord :: defaulted.tokens ++ exportWord :: paired.tokens)).toOption.map
        (fun outline => outline.records.map fun record => record.exported.map (·.name)) =
      some [["a".toList, "b".toList], ["c".toList]] := by
  refine ⟨?_, by decide, by decide, ?_⟩ <;> decide +kernel

end ExportDocs.Declaration
