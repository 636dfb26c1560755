/-
# ExportDocs.Proofs.Exports.DocComments -- doc comments in the middle of a statement

A doc comment is a token like others, so the reader of statements meets it wherever it stands.  What
it does there depends on brackets.

Outside brackets it ends the statement (`Segment.Middle.split_outside`): the tokens before it are read
as one statement and the tokens after it as another one.  Inside brackets it is one more token of its
statement (`Segment.Middle.split_inside`), and there are places where the reader does not see it
(`Segment.Sheltered`): in the parameters and the body of a function or class, in the value of a
variable, in an expression that is exported by default, and after the source of an import or an
export.  In a list of names it is taken for a name.

`doc_comment_in_statement` says all this, and that names, kinds and default flags are those of the
module without the comment where the statement still says the same.
-/
import ExportDocs.Proofs.Exports.Headings

namespace ExportDocs

set_option autoImplicit false

/-! ## Places -/

namespace Declaration

/-- The tokens of a declaration from its keyword on. -/
def fromKeyword : List Token → List Token
  | first :: rest => if first.spells "async" then rest else first :: rest
  | [] => []

/-- A place in the brackets of a value, after the tokens of its declarator; the equals sign before the
value stands outside brackets. -/
def InValue (inside : List Token) : Prop :=
  ∃ target sign value, inside = target ++ sign :: value ∧ sign.spells "=" = true ∧
    (∀ token ∈ target, token.spells "=" = false) ∧
    Segment.depth target = 0 ∧ 0 < Segment.depth value

/-- A place in a declarator that parts neither a name nor a value from what it is known by. -/
def InPattern (inside after : List Token) : Prop :=
  ∃ last, inside.getLast? = some last ∧ last.spells "=" = false ∧ startsWithArrow after = false ∧
    (last.isBindingName = true → after.head?.any endsElement = false)

/-- A place inside the brackets of a declaration where a comment is not seen. -/
def Sheltered (tokens after : List Token) : Prop :=
  ∃ keyword inside, fromKeyword tokens = keyword :: inside ∧
    (keyword.spells "function" = true ∨ keyword.spells "class" = true ∨ InValue inside ∨
      InPattern inside after)

end Declaration

namespace Segment

/-- A place inside the brackets of an export statement where a comment is not seen.  The tokens begin
after the word `export`. -/
def ShelteredExport : List Token → List Token → Prop
  | second :: inside, after =>
    (second.spells "*" = true → (Clause.starForm inside).source.isSome = true) ∧
    (second.isMark '{' = true →
      (Clause.sourceAfter (Clause.specifiers inside).2).isSome = true) ∧
    (second.spells "default" = true →
      (inside.head?.any fun third => Record.defaultKeywords.contains third.value) = true →
      Declaration.Sheltered inside after) ∧
    ((declarationKeywords.contains second.value || second.spells "async") = true →
      Declaration.Sheltered (second :: inside) after)
  | [], _ => True

/-- A place inside the brackets of a statement where a comment is not seen. -/
structure Sheltered (first : Token) (before after : List Token) : Prop where
  imports : isStarter first (before ++ after).head? = true → first.spells "import" = true →
    (Clause.readImport before).source.isSome = true
  exports : isStarter first (before ++ after).head? = true → first.spells "export" = true →
    ShelteredExport before after
  declares : isStarter first (before ++ after).head? = true → first.spells "import" = false →
    first.spells "export" = false → Declaration.Sheltered (first :: before) after

end Segment

/-! ## What a comment is not -/

namespace Token

variable {doc : Token} (isDoc : doc.isDoc = true)

include isDoc

theorem not_spells_of_isDoc {word : String} (other : word.toList.head? ≠ some '/') :
    doc.spells word = false := by
  obtain ⟨rest, value⟩ := value_of_isDoc isDoc
  refine beq_eq_false_iff_ne.2 fun same => other ?_
  rw [← same, value]
  rfl

theorem not_isBindingName_of_isDoc : doc.isBindingName = false := by
  obtain ⟨rest, value⟩ := value_of_isDoc isDoc
  have other : isBindingWord ('/' :: rest) = false := rfl
  simp [isBindingName, value, other]

theorem not_endsElement_of_isDoc : Declaration.endsElement doc = false := by
  have sign : doc.spells "=" = false := not_spells_of_isDoc isDoc (by decide)
  simp [Declaration.endsElement, isMark_of_isDoc isDoc, sign]

end Token

/-! ## Brackets -/

theorem Token.plain_of_spells {token : Token} {word : String} (spelled : token.spells word = true)
    (other : word.toList ∉ [['('], ['{'], ['['], [')'], ['}'], [']']]) :
    token.isOpener = false ∧ token.isCloser = false := by
  simp only [List.mem_cons, List.not_mem_nil, or_false, not_or] at other
  simp [isOpener, isCloser, isMark, spells_iff.1 spelled, other]

theorem Token.plain_of_isBindingName {token : Token} (named : token.isBindingName = true) :
    token.isOpener = false ∧ token.isCloser = false := by
  simp only [isBindingName, Bool.and_eq_true, Bool.not_eq_true'] at named
  exact plain_of_code named.1.2

namespace Segment

theorem depth_plain {token : Token} (plain : token.isOpener = false ∧ token.isCloser = false)
    (tokens : List Token) : depth (token :: tokens) = depth tokens := by
  rw [depth, depthFrom_cons, depthAfter_plain plain]
  rfl

theorem ne_nil_of_depth {tokens : List Token} (inside : 0 < depth tokens) : tokens ≠ [] := by
  rintro rfl
  exact Nat.lt_irrefl 0 inside

theorem depth_of_no_opener {tokens : List Token}
    (plain : ∀ token ∈ tokens, token.isOpener = false) : depth tokens = 0 := by
  induction tokens with
  | nil => rfl
  | cons token tokens ih =>
      obtain ⟨here, others⟩ := List.forall_mem_cons.1 plain
      have stays : depthAfter 0 token = 0 := by simp [depthAfter, here]
      rw [depth, depthFrom_cons, stays]
      exact ih others

theorem exists_opener_of_depth {tokens : List Token} (inside : 0 < depth tokens) :
    ∃ token ∈ tokens, token.isOpener = true := by
  refine Classical.byContradiction fun none => ?_
  have plain : ∀ token ∈ tokens, token.isOpener = false := fun token member =>
    Bool.eq_false_iff.2 fun opens => none ⟨token, member, opens⟩
  rw [depth_of_no_opener plain] at inside
  exact Nat.lt_irrefl 0 inside

/-- A token that opens a bracket is no equals sign. -/
theorem not_equals_of_depth {token : Token} (inside : 0 < depth [token]) :
    token.spells "=" = false := by
  refine Bool.eq_false_iff.2 fun sign => ?_
  rw [depth_plain (Token.plain_of_spells sign (by decide))] at inside
  exact Nat.lt_irrefl 0 inside

end Segment

theorem mem_getLast?_cons {α : Type} {a b : α} {l : List α} (member : b ∈ l.getLast?) :
    b ∈ (a :: l).getLast? := by
  rw [List.getLast?_cons, Option.mem_def.1 member]
  rfl

/-! ## Initialisers -/

namespace Declaration

section Insert

variable {doc : Token} (isDoc : doc.isDoc = true) {after : List Token}

include isDoc

theorem startsWithArrow_insert {tokens : List Token}
    (filled : tokens ≠ [] ∨ startsWithArrow after = false)
    (single : ∀ token, tokens = [token] → token.spells "=" = false) :
    startsWithArrow (tokens ++ doc :: after) = startsWithArrow (tokens ++ after) := by
  have arrow : doc.spells "=>" = false := Token.not_spells_of_isDoc isDoc (by decide)
  have sign : doc.spells "=" = false := Token.not_spells_of_isDoc isDoc (by decide)
  rcases tokens with _ | ⟨token, _ | ⟨second, tokens⟩⟩
  · have nothing : startsWithArrow after = false := by simpa using filled
    rw [List.nil_append, List.nil_append, nothing]
    simp [startsWithArrow, arrow, sign]
  · simp [startsWithArrow, single token rfl]
  · rfl

/-- A bracket is open before the comment, or the comment is not near an arrow. -/
def Guarded (depth : Nat) (tokens after : List Token) : Prop :=
  0 < Segment.depthFrom depth tokens ∨
    (startsWithArrow after = false ∧ ∀ last ∈ tokens.getLast?, last.spells "=" = false)

omit isDoc in
theorem Guarded.tail {depth : Nat} {token : Token} {tokens : List Token}
    (guarded : Guarded depth (token :: tokens) after) :
    Guarded (Segment.depthAfter depth token) tokens after :=
  guarded.imp_right fun far => ⟨far.1, fun last member => far.2 last (mem_getLast?_cons member)⟩

theorem startsWithArrow_guarded {tokens : List Token} (guarded : Guarded 0 tokens after) :
    startsWithArrow (tokens ++ doc :: after) = startsWithArrow (tokens ++ after) := by
  rcases guarded with inside | ⟨far, signs⟩
  · refine startsWithArrow_insert isDoc (.inl (Segment.ne_nil_of_depth inside)) fun token single => ?_
    rw [single] at inside
    exact Segment.not_equals_of_depth inside
  · refine startsWithArrow_insert isDoc (.inr far) fun token single => signs token ?_
    rw [single]
    rfl

theorem arrowAfterBrackets_guarded (tokens : List Token) :
    ∀ depth, Guarded (depth + 1) tokens after →
      arrowAfterBrackets depth (tokens ++ doc :: after) =
        arrowAfterBrackets depth (tokens ++ after) := by
  induction tokens with
  | nil =>
      intro depth _
      simp [arrowAfterBrackets, Token.plain_of_isDoc isDoc]
  | cons token tokens ih =>
      intro depth guarded
      have later := guarded.tail
      simp only [List.cons_append, arrowAfterBrackets]
      cases opens : token.isOpener with
      | true =>
          rw [Segment.depthAfter, opens] at later
          exact ih (depth + 1) later
      | false =>
          cases closes : token.isCloser with
          | true =>
              rw [Segment.depthAfter, opens, closes] at later
              cases depth with
              | zero => exact startsWithArrow_guarded isDoc later
              | succ depth => exact ih depth later
          | false =>
              rw [Segment.depthAfter, opens, closes] at later
              exact ih depth later

theorem isFunction_guarded {value : List Token} (filled : value ≠ [])
    (guarded : Guarded 0 value after) :
    isFunction (value ++ doc :: after) = isFunction (value ++ after) := by
  obtain ⟨first, rest, rfl⟩ := List.exists_cons_of_ne_nil filled
  have later := guarded.tail
  have arrow : (first.isBindingName && startsWithArrow (rest ++ doc :: after)) =
      (first.isBindingName && startsWithArrow (rest ++ after)) := by
    cases named : first.isBindingName with
    | false => rfl
    | true =>
        rw [Segment.depthAfter_plain (Token.plain_of_isBindingName named)] at later
        rw [startsWithArrow_guarded isDoc later]
  have brackets : (first.isMark '(' && arrowAfterBrackets 0 (rest ++ doc :: after)) =
      (first.isMark '(' && arrowAfterBrackets 0 (rest ++ after)) := by
    cases opens : first.isMark '(' with
    | false => rfl
    | true =>
        rw [Segment.depthAfter, Token.isOpener, opens] at later
        rw [arrowAfterBrackets_guarded isDoc rest 0 later]
  simp only [List.cons_append, isFunction, arrow, brackets]

/-- A comment before the value is not seen, and neither is one that is guarded in it. -/
theorem variableKind_guarded (inside : List Token)
    (last : ∀ last ∈ inside.getLast?, last.spells "=" = false) (far : startsWithArrow after = false) :
    variableKind (inside ++ doc :: after) = variableKind (inside ++ after) := by
  have same : isFunction (initialiser (inside ++ doc :: after)) =
      isFunction (initialiser (inside ++ after)) := by
    induction inside with
    | nil =>
        have sign : doc.spells "=" = false := Token.not_spells_of_isDoc isDoc (by decide)
        simp [initialiser, sign]
    | cons token inside ih =>
        cases sign : token.spells "=" with
        | true =>
            have filled : inside ≠ [] := by
              rintro rfl
              simp [last token rfl] at sign
            have begins : ∀ rest, initialiser (token :: rest) = rest := by
              intro rest
              simp [initialiser, sign]
            rw [List.cons_append, List.cons_append, begins, begins]
            exact isFunction_guarded isDoc filled
              (.inr ⟨far, fun token member => last token (mem_getLast?_cons member)⟩)
        | false =>
            have skips : ∀ rest, initialiser (token :: rest) = initialiser rest := by
              intro rest
              simp [initialiser, sign]
            rw [List.cons_append, List.cons_append, skips, skips]
            exact ih fun token member => last token (mem_getLast?_cons member)
  rw [variableKind, same]
  rfl

theorem patternNames_insert (tokens : List Token) : ∀ depth,
    (∀ last ∈ tokens.getLast?, last.isBindingName = true → after.head?.any endsElement = false) →
    patternNames depth (tokens ++ doc :: after) = patternNames depth (tokens ++ after) := by
  induction tokens with
  | nil =>
      intro depth _
      simp [patternNames, Token.plain_of_isDoc isDoc, Token.not_isBindingName_of_isDoc isDoc]
  | cons token tokens ih =>
      intro depth apart
      have later : ∀ last ∈ tokens.getLast?, last.isBindingName = true →
          after.head?.any endsElement = false :=
        fun last member => apart last (mem_getLast?_cons member)
      have ends : (token.isBindingName && (tokens ++ doc :: after).head?.any endsElement) =
          (token.isBindingName && (tokens ++ after).head?.any endsElement) := by
        cases tokens with
        | cons second tokens => rfl
        | nil =>
            cases named : token.isBindingName with
            | false => rfl
            | true => simp [Token.not_endsElement_of_isDoc isDoc, apart token rfl named]
      simp only [List.cons_append, patternNames, Bool.and_assoc, ends, ih _ later]

theorem boundNames_insert {inside : List Token} (filled : inside ≠ [])
    (apart : ∀ last ∈ inside.getLast?, last.isBindingName = true →
      after.head?.any endsElement = false) :
    boundNames (inside ++ doc :: after) = boundNames (inside ++ after) := by
  obtain ⟨first, rest, rfl⟩ := List.exists_cons_of_ne_nil filled
  have same := patternNames_insert isDoc rest 0 fun last member =>
    apart last (mem_getLast?_cons member)
  simp only [List.cons_append, boundNames, same]

end Insert

/-- A pattern that is closed does not depend on what follows it. -/
theorem patternNames_closed (rest : List Token) (tokens : List Token) : ∀ depth,
    Segment.depthFrom (depth + 1) tokens = 0 →
    patternNames depth (tokens ++ rest) = patternNames depth tokens := by
  induction tokens with
  | nil =>
      intro depth closed
      simp at closed
  | cons token tokens ih =>
      intro depth closed
      rw [Segment.depthFrom_cons, Segment.depthAfter] at closed
      simp only [List.cons_append, patternNames]
      cases opens : token.isOpener with
      | true =>
          rw [opens] at closed
          exact ih (depth + 1) closed
      | false =>
          cases closes : token.isCloser with
          | true =>
              rw [opens, closes] at closed
              cases depth with
              | zero => rfl
              | succ depth => exact ih depth closed
          | false =>
              rw [opens, closes] at closed
              have next : (tokens ++ rest).head? = tokens.head? := by
                cases tokens with
                | nil => simp at closed
                | cons second tokens => rfl
              simp only [next, ih depth closed, Bool.false_eq_true, if_false]

section Value

variable {target : List Token} {sign : Token} (equals : sign.spells "=" = true)

include equals

theorem initialiser_append (free : ∀ token ∈ target, token.spells "=" = false) (rest : List Token) :
    initialiser (target ++ sign :: rest) = rest := by
  have skips : (target ++ sign :: rest).dropWhile (fun token => !token.spells "=") =
      sign :: rest := by
    rw [List.dropWhile_append_of_pos (by simpa using free),
      List.dropWhile_cons_of_neg (by simp [equals])]
  rw [initialiser, skips, List.drop_one, List.tail_cons]

/-- The names that stand before the equals sign do not depend on the value. -/
theorem boundNames_append (closed : Segment.depth target = 0) (rest : List Token) :
    boundNames (target ++ sign :: rest) = boundNames (target ++ [sign]) := by
  cases target with
  | nil =>
      have value := Token.spells_iff.1 equals
      have name : sign.isBindingName = false := by
        have other : isBindingWord "=".toList = false := by decide
        simp only [Token.isBindingName, value, other, Bool.and_false]
      have opens : sign.isMark '{' = false ∧ sign.isMark '[' = false :=
        ⟨Token.not_isMark_of_spells equals (by decide), Token.not_isMark_of_spells equals (by decide)⟩
      simp [boundNames, name, opens]
  | cons first more =>
      simp only [List.cons_append, boundNames]
      cases opens : first.isMark '{' || first.isMark '[' with
      | false => simp
      | true =>
          have inside : Segment.depthFrom (0 + 1) more = 0 := by
            have opener : first.isOpener = true := by
              rw [Bool.or_eq_true] at opens
              rcases opens with opens | opens <;> simp [Token.isOpener, opens]
            rwa [Segment.depth, Segment.depthFrom_cons, Segment.depthAfter, opener] at closed
          rw [patternNames_closed (sign :: rest) more 0 inside,
            patternNames_closed [sign] more 0 inside]

end Value

/-- The own name of a function or class stands before all brackets. -/
theorem ownName_append {inside : List Token} (opened : 0 < Segment.depth inside) (rest : List Token) :
    ownName (inside ++ rest) = ownName inside := by
  obtain ⟨first, more, rfl⟩ := List.exists_cons_of_ne_nil (Segment.ne_nil_of_depth opened)
  cases star : first.spells "*" with
  | false => simp [ownName, star]
  | true =>
      rw [Segment.depth_plain (Token.plain_of_spells star (by decide))] at opened
      obtain ⟨second, others, rfl⟩ := List.exists_cons_of_ne_nil (Segment.ne_nil_of_depth opened)
      simp [ownName, star]

theorem read_eq_readKeyword (tokens : List Token) :
    read tokens = readKeyword (fromKeyword tokens) := by
  cases tokens with
  | nil => rfl
  | cons first rest => cases async : first.spells "async" <;> simp [read, fromKeyword, async]

theorem fromKeyword_append {tokens : List Token} (filled : tokens ≠ []) (rest : List Token) :
    fromKeyword (tokens ++ rest) = fromKeyword tokens ++ rest := by
  obtain ⟨first, more, rfl⟩ := List.exists_cons_of_ne_nil filled
  cases async : first.spells "async" <;> simp [fromKeyword, async]

theorem depth_fromKeyword (tokens : List Token) :
    Segment.depth (fromKeyword tokens) = Segment.depth tokens := by
  cases tokens with
  | nil => rfl
  | cons first rest =>
      cases async : first.spells "async" with
      | false => simp [fromKeyword, async]
      | true =>
          rw [Segment.depth_plain (Token.plain_of_spells async (by decide))]
          simp [fromKeyword, async]

section Variable

variable {doc : Token} (isDoc : doc.isDoc = true) {inside after : List Token}

include isDoc

theorem variable_inValue (place : InValue inside) :
    variableKind (inside ++ doc :: after) = variableKind (inside ++ after) ∧
      boundNames (inside ++ doc :: after) = boundNames (inside ++ after) := by
  obtain ⟨target, sign, value, rfl, equals, free, closed, opened⟩ := place
  simp only [List.append_assoc, List.cons_append]
  refine ⟨?_, ?_⟩
  · simp only [variableKind, initialiser_append equals free]
    rw [isFunction_guarded isDoc (Segment.ne_nil_of_depth opened) (.inl opened)]
  · exact (boundNames_append equals closed _).trans (boundNames_append equals closed _).symm

theorem variable_inPattern (place : InPattern inside after) :
    variableKind (inside ++ doc :: after) = variableKind (inside ++ after) ∧
      boundNames (inside ++ doc :: after) = boundNames (inside ++ after) := by
  obtain ⟨last, ends, sign, far, apart⟩ := place
  have filled : inside ≠ [] := by
    rintro rfl
    cases ends
  have only : ∀ token ∈ inside.getLast?, token = last := by
    intro token member
    rw [ends, Option.mem_some_iff] at member
    exact member.symm
  refine ⟨variableKind_guarded isDoc inside (fun token member => ?_) far,
    boundNames_insert isDoc filled fun token member => ?_⟩
  · rw [only token member]
    exact sign
  · rw [only token member]
    exact apart

end Variable

/-- **At a sheltered place a declaration is read as without the comment.** -/
theorem read_sheltered {doc : Token} (isDoc : doc.isDoc = true) {tokens after : List Token}
    (opened : 0 < Segment.depth tokens) (sheltered : Sheltered tokens after) :
    read (tokens ++ doc :: after) = read (tokens ++ after) := by
  have filled := Segment.ne_nil_of_depth opened
  rw [read_eq_readKeyword, read_eq_readKeyword, fromKeyword_append filled, fromKeyword_append filled]
  rw [← depth_fromKeyword] at opened
  obtain ⟨keyword, inside, same, place⟩ := sheltered
  rw [same] at opened
  rw [same, List.cons_append, List.cons_append]
  have own : keyword.spells "function" = true ∨ keyword.spells "class" = true →
      ownName (inside ++ doc :: after) = ownName (inside ++ after) := by
    intro word
    have plain : keyword.isOpener = false ∧ keyword.isCloser = false := by
      rcases word with word | word <;> exact Token.plain_of_spells word (by decide)
    rw [Segment.depth_plain plain] at opened
    rw [ownName_append opened, ownName_append opened]
  cases function : keyword.spells "function" with
  | true => simp only [readKeyword, function, if_true, own (.inl function)]
  | false =>
      cases classWord : keyword.spells "class" with
      | true =>
          simp only [readKeyword, function, classWord, if_true, Bool.false_eq_true, if_false,
            own (.inr classWord)]
      | false =>
          rw [function, classWord] at place
          obtain ⟨kinds, names⟩ : variableKind (inside ++ doc :: after) =
              variableKind (inside ++ after) ∧
              boundNames (inside ++ doc :: after) = boundNames (inside ++ after) := by
            rcases place with impossible | impossible | value | pattern
            · cases impossible
            · cases impossible
            · exact variable_inValue isDoc value
            · exact variable_inPattern isDoc pattern
          simp only [readKeyword, function, classWord, Bool.false_eq_true, if_false, kinds, names]

end Declaration

/-! ## Clauses -/

namespace Clause

theorem sourceAfter_append (tokens : List Token) (found : (sourceAfter tokens).isSome = true)
    (rest : List Token) : sourceAfter (tokens ++ rest) = sourceAfter tokens := by
  rcases tokens with _ | ⟨word, _ | ⟨string, tokens⟩⟩
  · cases found
  · cases found
  · rfl

/-- A source that is found is found whatever follows. -/
theorem splitAtSource_append (rest tokens : List Token)
    (found : (splitAtSource tokens).isSome = true) :
    splitAtSource (tokens ++ rest) = splitAtSource tokens := by
  induction tokens with
  | nil => cases found
  | cons token tokens ih =>
      cases source : sourceAfter (token :: tokens) with
      | some specifier =>
          have same := sourceAfter_append (token :: tokens) (by rw [source]; rfl) rest
          rw [List.cons_append] at same
          simp only [List.cons_append, splitAtSource, same, source]
      | none =>
          have later : (splitAtSource tokens).isSome = true := by
            simpa [splitAtSource, source] using found
          have same : sourceAfter (token :: (tokens ++ rest)) = none := by
            cases tokens with
            | nil => cases later
            | cons second tokens => exact source
          simp only [List.cons_append, splitAtSource, same, source, ih later]

theorem readImport_append {tokens : List Token}
    (sourced : (readImport tokens).source.isSome = true) (rest : List Token) :
    readImport (tokens ++ rest) = readImport tokens := by
  cases tokens with
  | nil => cases sourced
  | cons first tokens =>
      cases string : first.isString with
      | true => simp [readImport, string]
      | false =>
          have found : (splitAtSource (first :: tokens)).isSome = true := by
            cases split : splitAtSource (first :: tokens) with
            | none => simp [readImport, string, split, Form.source] at sourced
            | some parts => rfl
          have same := splitAtSource_append rest (first :: tokens) found
          rw [List.cons_append] at same
          simp [readImport, string, same]

theorem specifiers_append (rest tokens : List Token) (closed : (specifiers tokens).2 ≠ []) :
    specifiers (tokens ++ rest) = ((specifiers tokens).1, (specifiers tokens).2 ++ rest) := by
  fun_induction specifiers tokens with
  | case1 => exact absurd rfl closed
  | case2 token tokens closes => rw [List.cons_append, specifiers_close closes]
  | case3 token tokens closes comma ih =>
      rw [List.cons_append, specifiers_comma (by simpa using closes) comma, ih closed]
  | case4 token closes comma word newName after renamed pairs outside read ih =>
      have later := ih (by rw [read]; exact closed)
      rw [read] at later
      simp only [List.cons_append]
      rw [specifiers_renamed (by simpa using closes) (by simpa using comma) renamed, later]
  | case5 token closes comma word newName after single pairs outside read ih =>
      have later := ih (by rw [read]; exact closed)
      rw [read] at later
      simp only [List.cons_append] at later ⊢
      rw [specifiers_single (by simpa using closes) (by simpa using comma) (by simpa using single),
        later]
  | case6 token closes comma tokens short pairs outside read ih =>
      -- A list that ends before its brace has nothing after it.
      rcases tokens with _ | ⟨word, _ | ⟨newName, after⟩⟩
      · rw [specifiers] at read
        cases read
        exact absurd rfl closed
      · have ends : (specifiers [word]).2 = [] := by
          rw [specifiers.eq_def]
          simp only [specifiers]
          cases word.isMark '}' <;> cases word.isMark ',' <;> rfl
        rw [read] at ends
        exact absurd ends closed
      · exact (short word newName after rfl).elim

theorem starForm_append {tokens : List Token} (sourced : (starForm tokens).source.isSome = true)
    (rest : List Token) : starForm (tokens ++ rest) = starForm tokens := by
  rcases tokens with _ | ⟨word, _ | ⟨name, tokens⟩⟩
  · cases sourced
  · cases sourced
  · cases renamed : word.spells "as" with
    | true =>
        simp only [starForm, starClause, renamed, if_true, Form.source] at sourced
        simp only [List.cons_append, starForm, starClause, renamed, if_true,
          sourceAfter_append _ sourced]
    | false =>
        simp [starForm, starClause, renamed, sourceAfter]

theorem defaultForm_append {tokens : List Token} (opened : 0 < Segment.depth tokens)
    (rest : List Token) : defaultForm (tokens ++ rest) = defaultForm tokens := by
  obtain ⟨third, more, rfl⟩ := List.exists_cons_of_ne_nil (Segment.ne_nil_of_depth opened)
  cases named : third.isBindingName with
  | false => simp [defaultForm, named]
  | true =>
      rw [Segment.depth_plain (Token.plain_of_isBindingName named)] at opened
      obtain ⟨opener, member, opens⟩ := Segment.exists_opener_of_depth opened
      -- A bracket follows, so that the name does not stand alone.
      have goesOn : ∀ others : List Token, opener ∈ others →
          (others.isEmpty || (others.length == 1 && others.all (·.isMark ';'))) = false := by
        intro others here
        have other : opener.isMark ';' = false := by
          refine Bool.eq_false_iff.2 fun stop => ?_
          rw [(Token.plain_of_isMark stop (by decide)).1] at opens
          cases opens
        have filled : others.isEmpty = false := by
          simpa using List.ne_nil_of_mem here
        have stops : others.all (·.isMark ';') = false := by
          rw [List.all_eq_false]
          exact ⟨opener, here, by simp [other]⟩
        simp [filled, stops]
      simp only [List.cons_append, defaultForm, goesOn more member,
        goesOn (more ++ rest) (List.mem_append_left rest member), Bool.and_false]

/-- The tokens are names in braces that no later token belongs to. -/
def Complete (items : List Token) (pairs : List (Text × Text)) : Prop :=
  ∀ tail, specifiers (items ++ tail) = (pairs ++ (specifiers tail).1, (specifiers tail).2)

theorem specifiers_doc {doc next : Token} (isDoc : doc.isDoc = true)
    (apart : next.spells "as" = false) (rest : List Token) : specifiers (doc :: next :: rest) =
      ((doc.value, doc.value) :: (specifiers (next :: rest)).1, (specifiers (next :: rest)).2) := by
  have name : bindingName doc = doc.value := by simp [bindingName, Token.code_of_isDoc isDoc]
  rw [specifiers_single (Token.isMark_of_isDoc isDoc _) (Token.isMark_of_isDoc isDoc _) apart, name]

end Clause

/-! ## Statements -/

section Statement

variable {doc : Token} (isDoc : doc.isDoc = true) {first : Token} {before after : List Token}

include isDoc

/-- **At a sheltered place an export is read as without the comment.** -/
theorem Record.readExport_sheltered (make : Text → Kind → Bool → Symbol)
    (opened : 0 < Segment.depth before) (sheltered : Segment.ShelteredExport before after) :
    readExport make (before ++ doc :: after) = readExport make (before ++ after) := by
  obtain ⟨second, inside, rfl⟩ := List.exists_cons_of_ne_nil (Segment.ne_nil_of_depth opened)
  obtain ⟨whole, named, default, declared⟩ := sheltered
  simp only [List.cons_append]
  have third : second.spells "default" = true → 0 < Segment.depth inside := by
    intro word
    rwa [Segment.depth_plain (Token.plain_of_spells word (by decide))] at opened
  have head : second.spells "default" = true → ∀ rest, (inside ++ rest).head? = inside.head? := by
    intro word rest
    obtain ⟨token, others, rfl⟩ :=
      List.exists_cons_of_ne_nil (Segment.ne_nil_of_depth (third word))
    rfl
  rcases exportShape second (inside ++ after) with star | brace | ⟨word, keyword⟩ |
    ⟨word, keyword⟩ | keyword | ⟨star, brace, word, keyword⟩
  · rw [readExport_star star, readExport_star star, Clause.starForm_append (whole star),
      Clause.starForm_append (whole star)]
  · have closed : (Clause.specifiers inside).2 ≠ [] := by
      intro empty
      have found := named brace
      rw [empty] at found
      cases found
    rw [readExport_brace brace, readExport_brace brace, Clause.specifiers_append _ _ closed,
      Clause.specifiers_append _ _ closed, Clause.sourceAfter_append _ (named brace),
      Clause.sourceAfter_append _ (named brace)]
  · rw [head word] at keyword
    rw [readExport_default word (by rw [head word]; exact keyword),
      readExport_default word (by rw [head word]; exact keyword),
      Declaration.read_sheltered isDoc (third word) (default word keyword)]
  · rw [head word] at keyword
    rw [readExport_value word (by rw [head word]; exact keyword),
      readExport_value word (by rw [head word]; exact keyword),
      Clause.defaultForm_append (third word), Clause.defaultForm_append (third word)]
  · have same := Declaration.read_sheltered isDoc opened (declared keyword)
    simp only [List.cons_append] at same
    rw [readExport_declaration keyword, readExport_declaration keyword, same]
  · rw [readExport_other star brace word keyword, readExport_other star brace word keyword]

/-- **At a sheltered place a statement says what it says without the comment.** -/
theorem Segment.gist_sheltered (opened : 0 < depth (first :: before))
    (sheltered : Sheltered first before after) :
    gist first (before ++ doc :: after) (before ++ doc :: after).head? =
      gist first (before ++ after) (before ++ after).head? := by
  unfold gist
  cases starts : isStarter first (before ++ after).head? with
  | false =>
      have aside : isStarter first (before ++ doc :: after).head? = false := by
        cases before with
        | cons second before => exact starts
        | nil =>
            obtain ⟨opener, member, opens⟩ := exists_opener_of_depth opened
            cases List.mem_singleton.1 member
            cases code : first.isPunctuation with
            | true => simp [isStarter, code]
            | false =>
                rw [(Token.plain_of_code code).1] at opens
                cases opens
      rw [Record.gist_read_aside starts, Record.gist_read_aside aside]
  | true =>
      have code : first.isPunctuation = false := by
        refine Bool.eq_false_iff.2 fun mark => ?_
        simp [isStarter, mark] at starts
      have inside : 0 < depth before := by
        rwa [depth_plain (Token.plain_of_code code)] at opened
      have same : (before ++ doc :: after).head? = (before ++ after).head? := by
        obtain ⟨second, others, rfl⟩ := List.exists_cons_of_ne_nil (ne_nil_of_depth inside)
        rfl
      rw [same]
      cases importWord : first.spells "import" with
      | true =>
          have sourced := sheltered.imports starts importWord
          rw [Record.gist_read_import starts importWord, Record.gist_read_import starts importWord,
            Clause.readImport_append sourced, Clause.readImport_append sourced]
      | false =>
          cases exportWord : first.spells "export" with
          | true =>
              rw [Record.gist_read_export starts exportWord,
                Record.gist_read_export starts exportWord,
                Record.readExport_sheltered isDoc Record.titled inside
                  (sheltered.exports starts exportWord)]
          | false =>
              have read := Declaration.read_sheltered isDoc opened
                (sheltered.declares starts importWord exportWord)
              simp only [List.cons_append] at read
              rw [Record.gist_read_declaration starts importWord exportWord,
                Record.gist_read_declaration starts importWord exportWord, read]

end Statement

/-! ## Modules -/

namespace Segment.Middle

variable {front rest : List Token} {next doc : Token} (place : Middle front next rest)
  (isDoc : doc.isDoc = true) (path undocumented : Text)

/-- What the statement says without the comment. -/
def whole : Except ExtractFault Gist :=
  gist place.first (place.before ++ next :: place.after) (place.before ++ next :: place.after).head?

/-- What the statement says if the comment is one of its tokens. -/
def marked (doc : Token) : Except ExtractFault Gist :=
  gist place.first (place.before ++ doc :: next :: place.after)
    (place.before ++ doc :: next :: place.after).head?

/-- What the tokens before the comment say as a statement. -/
def firstPart (doc : Token) : Except ExtractFault Gist :=
  gist place.first place.before (place.before.head?.or (some doc))

/-- What the tokens after the comment say as a statement. -/
def secondPart : Except ExtractFault Gist :=
  gist next place.after (place.after.head?.or (Outline.firstToken place.others))

theorem head?_or (token : Token) (tokens : List Token) (other : Option Token) :
    (place.before ++ token :: tokens).head?.or other = (place.before ++ token :: tokens).head? := by
  cases place.before <;> rfl

/-- A list of names that is exported, with the comment before one of them. -/
structure InList (items : List Token) (pairs : List (Text × Text)) : Prop where
  starts : isStarter place.first none = true
  word : place.first.spells "export" = true
  before : ∃ brace : Token, brace.isMark '{' = true ∧ place.before = brace :: items
  complete : Clause.Complete items pairs
  apart : next.spells "as" = false

include isDoc

theorem sameHeadings_inside (inside : 0 < depth front) (said : place.marked doc = place.whole) :
    SameHeadings path undocumented (front ++ doc :: next :: rest) (front ++ next :: rest) := by
  apply sameHeadings_of_gists
  rw [place.split_inside isDoc inside, place.cut]
  refine Outline.gists_append path undocumented ?_ (fun above => ?_) place.segments none
  · rfl
  · unfold marked whole at said
    rw [Outline.gists_statement, Outline.gists_statement, place.head?_or, place.head?_or, said]

theorem sameHeadings_outside (outside : depth front = 0)
    (blind : isStarter place.last (some doc) = isStarter place.last (some next))
    (said : place.firstPart doc = place.whole) (silent : place.secondPart = .ok .silent) :
    SameHeadings path undocumented (front ++ doc :: next :: rest) (front ++ next :: rest) := by
  apply sameHeadings_of_gists
  rw [place.split_outside isDoc outside blind, place.cut]
  refine Outline.gists_append path undocumented ?_ (fun above => ?_) place.segments none
  · rfl
  · have tail : Outline.gists path undocumented none
        (.doc doc :: .statement next place.after :: place.others) =
        Outline.gists path undocumented none place.others := by
      change Outline.gists path undocumented (some doc)
        (.statement next place.after :: place.others) = _
      unfold secondPart at silent
      rw [Outline.gists_statement, silent]
      cases Outline.gists path undocumented none place.others <;> rfl
    unfold firstPart whole at said
    rw [Outline.gists_statement, Outline.gists_statement, place.head?_or, tail, ← said]
    rfl

/-- In a list of names the comment is one more name. -/
theorem marked_inList {items : List Token} {pairs : List (Text × Text)}
    (list : place.InList items pairs) : ∃ more source,
      place.whole =
        .ok ⟨some ⟨place.first.line, .exportsNamed (pairs ++ more) source⟩, [], []⟩ ∧
      place.marked doc = .ok ⟨some ⟨place.first.line,
        .exportsNamed (pairs ++ (doc.value, doc.value) :: more) source⟩, [], []⟩ := by
  obtain ⟨brace, opens, before⟩ := list.before
  have starts : ∀ following, isStarter place.first following = true := by
    intro following
    have none := list.starts
    simp only [isStarter, list.word, Bool.or_true, if_true] at none ⊢
    exact none
  have commented := Clause.specifiers_doc isDoc list.apart place.after
  refine ⟨(Clause.specifiers (next :: place.after)).1,
    Clause.sourceAfter (Clause.specifiers (next :: place.after)).2, ?_, ?_⟩
  · rw [whole, before, gist, Record.gist_read_export (starts _) list.word, List.cons_append,
      Record.readExport_brace opens, list.complete]
    rfl
  · rw [marked, before, gist, Record.gist_read_export (starts _) list.word, List.cons_append,
      Record.readExport_brace opens, list.complete, commented]
    rfl

end Segment.Middle

/-- **A doc comment in the middle of a statement acts on this statement only.**  Inside brackets it is
one more token of the statement, which is not seen at a sheltered place and is a name in a list of
names.  Outside brackets it parts the statement; this changes nothing if the tokens before it say what
the whole statement says, and the tokens after it say nothing. -/
theorem doc_comment_in_statement {doc : Token} (isDoc : doc.isDoc = true) {front rest : List Token}
    {next : Token} (place : Segment.Middle front next rest) (path undocumented : Text) :
    (0 < Segment.depth front →
      Segment.split (front ++ doc :: next :: rest) = place.segments ++
        .statement place.first (place.before ++ doc :: next :: place.after) :: place.others ∧
      (place.marked doc = place.whole →
        SameHeadings path undocumented (front ++ doc :: next :: rest) (front ++ next :: rest)) ∧
      (Segment.Sheltered place.first place.before (next :: place.after) →
        place.marked doc = place.whole) ∧
      (∀ items pairs, place.InList items pairs → ∃ more source,
        place.whole =
          .ok ⟨some ⟨place.first.line, .exportsNamed (pairs ++ more) source⟩, [], []⟩ ∧
        place.marked doc = .ok ⟨some ⟨place.first.line,
          .exportsNamed (pairs ++ (doc.value, doc.value) :: more) source⟩, [], []⟩)) ∧
    (Segment.depth front = 0 →
      (∃ segments, ∀ tokens,
        Segment.split (front ++ doc :: tokens) = segments ++ .doc doc :: Segment.split tokens) ∧
      (Segment.isStarter place.last (some doc) = Segment.isStarter place.last (some next) →
        Segment.split (front ++ doc :: next :: rest) = place.segments ++
          .statement place.first place.before :: .doc doc ::
            .statement next place.after :: place.others ∧
        (place.firstPart doc = place.whole → place.secondPart = .ok .silent →
          SameHeadings path undocumented (front ++ doc :: next :: rest)
            (front ++ next :: rest)))) := by
  refine ⟨fun inside => ⟨place.split_inside isDoc inside,
    place.sameHeadings_inside isDoc path undocumented inside, fun sheltered => ?_,
    fun items pairs list => place.marked_inList isDoc list⟩,
    fun outside => ⟨Segment.split_append_doc isDoc outside, fun blind =>
      ⟨place.split_outside isDoc outside blind,
        place.sameHeadings_outside isDoc path undocumented outside blind⟩⟩⟩
  rw [← place.depth_eq] at inside
  exact Segment.gist_sheltered isDoc inside sheltered

/-! ## A comment in the parameters of a function -/

/-- A token on the first line. -/
def tokenOf (type : TokenClass) (text : String) : Token := ⟨type, text.toList, 1⟩

/-- The comment `/** d */`. -/
def sampleDoc : Token := tokenOf .blockComment "/** d */"

/-- The place before `x` in `export const f = (x) => 1;`. -/
def parameterPlace : Segment.Middle
    [tokenOf .keyword "export", tokenOf .declarationWord "const", tokenOf .identifier "f",
      tokenOf .operator "=", tokenOf .punctuation "("]
    (tokenOf .identifier "x")
    [tokenOf .punctuation ")", tokenOf .punctuation "=>", tokenOf .float "1",
      tokenOf .punctuation ";"] where
  segments := []
  first := tokenOf .keyword "export"
  before := [tokenOf .declarationWord "const", tokenOf .identifier "f", tokenOf .operator "=",
    tokenOf .punctuation "("]
  after := [tokenOf .punctuation ")", tokenOf .punctuation "=>", tokenOf .float "1",
    tokenOf .punctuation ";"]
  others := []
  front_eq := rfl
  cut := by decide +kernel

theorem parameterPlace_sheltered : Segment.Sheltered parameterPlace.first parameterPlace.before
    (tokenOf .identifier "x" :: parameterPlace.after) where
  imports _ word := by
    have other : parameterPlace.first.spells "import" = false := by decide
    rw [other] at word
    cases word
  exports _ _ := by
    refine ⟨fun star => ?_, fun brace => ?_, fun word => ?_, fun _ => ?_⟩
    · exact absurd star (by decide)
    · exact absurd brace (by decide)
    · exact absurd word (by decide)
    · refine ⟨_, _, rfl, .inr (.inr (.inl ⟨[tokenOf .identifier "f"], tokenOf .operator "=",
        [tokenOf .punctuation "("], rfl, ?_, ?_, ?_, ?_⟩))⟩ <;> decide
  declares _ _ exports := by
    have word : parameterPlace.first.spells "export" = true := by decide
    rw [word] at exports
    cases exports

/-- A comment before a parameter changes neither the name nor the kind of the function. -/
theorem doc_comment_in_statement_of_parameter :
    sampleDoc.isDoc = true ∧
    Segment.depth (parameterPlace.first :: parameterPlace.before) = 1 ∧
    Segment.Sheltered parameterPlace.first parameterPlace.before
      (tokenOf .identifier "x" :: parameterPlace.after) ∧
    SameHeadings [] []
      (parameterPlace.first :: parameterPlace.before ++
        sampleDoc :: tokenOf .identifier "x" :: parameterPlace.after)
      (parameterPlace.first :: parameterPlace.before ++
        tokenOf .identifier "x" :: parameterPlace.after) := by
  have isDoc : sampleDoc.isDoc = true := by decide
  have inside := (doc_comment_in_statement isDoc parameterPlace [] []).1 (by decide)
  exact ⟨isDoc, by decide, parameterPlace_sheltered,
    inside.2.1 (inside.2.2.1 parameterPlace_sheltered)⟩

/-- The headings that a module without imports exports. -/
def headingsOf (source : String) : Option (List Heading) :=
  (Id.run (extract [] [] source.toList fun _ => [])).toOption.map fun extraction =>
    extraction.symbols.map Symbol.heading

/-- **A comment changes what is exported.**  It is a name in a list, it hides a function from the word
before it, it makes a function unreadable, and it hides the kind of a value. -/
theorem comment_changes_exports :
    ["export \x7b /** d */ a \x7d;", "export \x7b a \x7d;",
      "export /** d */ function f() \x7b\x7d", "export function f() \x7b\x7d",
      "export async /** d */ function f() \x7b\x7d", "export async function f() \x7b\x7d",
      "export const f = /** d */ () => 1;", "export const f = () => 1;"].map headingsOf =
    [some [("/** d */".toList, .unknown, false), ("a".toList, .unknown, false)],
      some [("a".toList, .unknown, false)],
      some [], some [("f".toList, .function, false)],
      none, some [("f".toList, .function, false)],
      some [("f".toList, .binding, false)], some [("f".toList, .function, false)]] := by
  decide +kernel

end ExportDocs
