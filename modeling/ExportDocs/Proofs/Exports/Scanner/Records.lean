/-
# ExportDocs.Proofs.Exports.Scanner.Records -- clauses, statements and passes over positions

The scanner's readers of import and export clauses, of whole statements, and its two passes: the
first reads the statements of a module into records, the second documents the exports.  The second
one works on the fields that a record shows, where the pairs of names are a list.
-/
import ExportDocs.Proofs.Exports.Scanner

namespace ExportDocs

set_option autoImplicit false

namespace Scanner

open Scan

variable {tokens rest : List Token} {token : Token} {index : Nat}

/-! ## Clauses -/

/-- Whether a new name follows the token at an index. -/
def aliasAt (site : Site) (tokens : List Token) (index : Nat) : Scan Bool :=
  andAlso (index + 2 < tokens.length) ((·.spells "as") <$> get site tokens (index + 1))

theorem aliasAt_cons {site : Site} {word newName : Token}
    (here : tokens.drop index = token :: word :: newName :: rest) :
    aliasAt site tokens index = .ok (word.spells "as") := by
  have second := drop_succ here
  have enough : decide (index + 2 < tokens.length) = true :=
    decide_eq_true (lt_of_drop (drop_succ second))
  rw [aliasAt, enough, andAlso_true, get_of_drop second, map_ok]

theorem aliasAt_short {site : Site} (here : tokens.drop index = token :: rest)
    (short : ∀ word newName after, rest = word :: newName :: after → False) :
    aliasAt site tokens index = .ok false := by
  have second := drop_succ here
  have few : decide (index + 2 < tokens.length) = false := by
    refine decide_eq_false (Nat.not_lt.2 ?_)
    rcases rest with _ | ⟨word, _ | ⟨newName, after⟩⟩
    · exact Nat.le_succ_of_le (List.drop_eq_nil_iff.1 second)
    · exact List.drop_eq_nil_iff.1 (drop_succ second)
    · exact (short word newName after rfl).elim
  rw [aliasAt, few, andAlso_false]

/-- The pairs of name and alias from an index on, and the index after the closing brace. -/
def specifiersFrom (tokens : List Token) (index : Nat) : Scan (List (Text × Text) × Nat) :=
  if index < tokens.length then do
    if (← get .specifiers tokens index).isMark '}' then return ([], index + 1)
    else
      let token ← get .specifiers tokens index
      if token.isMark ',' then specifiersFrom tokens (index + 1)
      else if ← aliasAt .specifiers tokens index then
        let newName ← get .specifiers tokens (index + 2)
        let (pairs, after) ← specifiersFrom tokens (index + 3)
        return ((Clause.bindingName token, Clause.bindingName newName) :: pairs, after)
      else
        let (pairs, after) ← specifiersFrom tokens (index + 1)
        return ((Clause.bindingName token, Clause.bindingName token) :: pairs, after)
  else return ([], index + 1)
termination_by tokens.length - index

section Specifiers

variable (closes : ¬ token.isMark '}' = true) (comma : ¬ token.isMark ',' = true)

include closes comma

theorem specifiersFrom_renamed {word newName : Token}
    (here : tokens.drop index = token :: word :: newName :: rest)
    (renamed : word.spells "as" = true) :
    specifiersFrom tokens index = (specifiersFrom tokens (index + 3)).map fun result =>
      ((Clause.bindingName token, Clause.bindingName newName) :: result.1, result.2) := by
  rw [specifiersFrom, if_pos (lt_of_drop here), get_of_drop here, ok_bind, if_neg closes, ok_bind,
    if_neg comma, aliasAt_cons here, ok_bind, if_pos renamed,
    get_of_drop (drop_succ (drop_succ here)), ok_bind]
  cases specifiersFrom tokens (index + 3) <;> rfl

theorem specifiersFrom_single (here : tokens.drop index = token :: rest)
    (single : aliasAt .specifiers tokens index = .ok false) :
    specifiersFrom tokens index = (specifiersFrom tokens (index + 1)).map fun result =>
      ((Clause.bindingName token, Clause.bindingName token) :: result.1, result.2) := by
  rw [specifiersFrom, if_pos (lt_of_drop here), get_of_drop here, ok_bind, if_neg closes, ok_bind,
    if_neg comma, single, ok_bind, if_neg Bool.false_ne_true]
  cases specifiersFrom tokens (index + 1) <;> rfl

end Specifiers

/-- The pairs are those of the clause, and the index is the one after it. -/
theorem specifiersFrom_eq (rest : List Token) : ∀ index, tokens.drop index = rest →
    ∃ after, specifiersFrom tokens index = .ok ((Clause.specifiers rest).1, after) ∧
      index < after ∧ tokens.drop after = (Clause.specifiers rest).2 := by
  fun_induction Clause.specifiers rest with
  | case1 =>
      intro index here
      refine ⟨index + 1, ?_, Nat.lt_succ_self index, ?_⟩
      · rw [specifiersFrom, if_neg (not_lt_of_drop here)]
        rfl
      · exact List.drop_eq_nil_iff.2 (Nat.le_succ_of_le (List.drop_eq_nil_iff.1 here))
  | case2 token rest closes =>
      intro index here
      refine ⟨index + 1, ?_, Nat.lt_succ_self index, drop_succ here⟩
      rw [specifiersFrom, if_pos (lt_of_drop here), get_of_drop here, ok_bind, if_pos closes]
      rfl
  | case3 token rest closes comma ih =>
      intro index here
      obtain ⟨after, ran, later, left⟩ := ih (index + 1) (drop_succ here)
      refine ⟨after, ?_, Nat.lt_of_succ_lt later, left⟩
      rw [specifiersFrom, if_pos (lt_of_drop here), get_of_drop here, ok_bind, if_neg closes,
        ok_bind, if_pos comma, ran]
  | case4 token closes comma word newName rest renamed pairs outside reads ih =>
      intro index here
      obtain ⟨after, ran, later, left⟩ := ih (index + 3) (drop_succ (drop_succ (drop_succ here)))
      refine ⟨after, ?_, by omega, by rw [left, reads]⟩
      rw [specifiersFrom_renamed closes comma here renamed, ran, reads]
      rfl
  | case5 token closes comma word newName rest single pairs outside reads ih =>
      intro index here
      obtain ⟨after, ran, later, left⟩ := ih (index + 1) (drop_succ here)
      refine ⟨after, ?_, Nat.lt_of_succ_lt later, by rw [left, reads]⟩
      have alone := Bool.eq_false_iff.2 single
      rw [specifiersFrom_single closes comma here (by rw [aliasAt_cons here, alone]), ran, reads]
      rfl
  | case6 token closes comma rest short pairs outside reads ih =>
      intro index here
      obtain ⟨after, ran, later, left⟩ := ih (index + 1) (drop_succ here)
      refine ⟨after, ?_, Nat.lt_of_succ_lt later, by rw [left, reads]⟩
      rw [specifiersFrom_single closes comma here (aliasAt_short here short), ran, reads]
      rfl

theorem lt_of_specifiersFrom {result : List (Text × Text) × Nat}
    (reads : specifiersFrom tokens index = .ok result) : index < result.2 := by
  obtain ⟨after, ran, later, -⟩ := specifiersFrom_eq (tokens.drop index) index rfl
  rw [reads] at ran
  cases ran
  exact later

/-- The specifier of a clause `from '...'` at an index. -/
def sourceAt (tokens : List Token) (index : Nat) : Scan (Option Text) := do
  if ← andAlso (index + 1 < tokens.length) (do
      andAlso ((← get .source tokens index).spells "from")
        (Token.isString <$> get .source tokens (index + 1))) then
    return some (← get .source tokens (index + 1)).stringValue
  else return none

theorem sourceAt_eq (tokens : List Token) (index : Nat) :
    sourceAt tokens index = .ok (Clause.sourceAfter (tokens.drop index)) := by
  unfold sourceAt
  rcases here : tokens.drop index with _ | ⟨word, _ | ⟨string, rest⟩⟩
  · have short := List.drop_eq_nil_iff.1 here
    simp [Nat.not_lt.2 (Nat.le_succ_of_le short), Clause.sourceAfter]
  · have short := List.drop_eq_nil_iff.1 (drop_succ here)
    simp [Nat.not_lt.2 short, Clause.sourceAfter]
  · have second := drop_succ here
    simp only [lt_of_drop second, get_of_drop here, get_of_drop second, ok_bind, map_ok, andAlso_ok,
      decide_true, Bool.true_and, Clause.sourceAfter]
    split <;> rfl

/-- The index of the word before the source of an import; the last argument are the tokens from
`index` on. -/
def fromIndex (tokens : List Token) (index : Nat) : List Token → Scan (Option Nat)
  | [] => return none
  | token :: rest => do
    if ← andAlso (token.spells "from") (holdsAt .importClause tokens (index + 1) Token.isString) then
      return some index
    else fromIndex tokens (index + 1) rest

/-- The index is the one after the tokens before the source. -/
theorem fromIndex_cases (rest : List Token) : ∀ index, tokens.drop index = rest →
    (fromIndex tokens index rest = .ok none ∧ Clause.splitAtSource rest = none) ∨
      ∃ before word string after, fromIndex tokens index rest = .ok (some (index + before.length)) ∧
        rest = before ++ word :: string :: after ∧
        Clause.splitAtSource rest = some (before, string.stringValue) := by
  induction rest with
  | nil => exact fun _ _ => .inl ⟨rfl, rfl⟩
  | cons token rest ih =>
      intro index here
      rw [fromIndex, holdsAt_eq, drop_succ here, andAlso_ok, ok_bind]
      by_cases found : (token.spells "from" && rest.head?.any Token.isString) = true
      · rw [if_pos found]
        cases rest with
        | nil => simp at found
        | cons string after =>
            have source : Clause.sourceAfter (token :: string :: after) = some string.stringValue :=
              if_pos found
            exact .inr ⟨[], token, string, after, rfl, rfl, by rw [Clause.splitAtSource, source]⟩
      · have source : Clause.sourceAfter (token :: rest) = none := by
          cases rest with
          | nil => rfl
          | cons string after => exact if_neg found
        rw [if_neg found, Clause.splitAtSource, source]
        obtain ⟨ran, none⟩ | ⟨before, word, string, after, ran, rfl, split⟩ :=
          ih (index + 1) (drop_succ here)
        · exact .inl ⟨ran, by rw [none]; rfl⟩
        · refine .inr ⟨token :: before, word, string, after, ?_, rfl, by rw [split]; rfl⟩
          rw [ran, List.length_cons, Nat.add_assoc, Nat.add_comm 1]

/-- The bindings of an import clause from an index on. -/
def clauseFrom (clause : List Token) (index : Nat) : Scan (List (Text × Text)) :=
  if index < clause.length then do
    let token ← get .importClause clause index
    if token.isMark '{' then
      match _reads : specifiersFrom clause (index + 1) with
      | .error fault => .error fault
      | .ok result => return result.1 ++ (← clauseFrom clause result.2)
    else if ← andAlso (token.spells "*") (aliasAt .importClause clause index) then
      let newName ← get .importClause clause (index + 2)
      return (['*'], newName.value) :: (← clauseFrom clause (index + 3))
    else if token.isBindingName && !token.spells "type" then
      return ("default".toList, token.value) :: (← clauseFrom clause (index + 1))
    else clauseFrom clause (index + 1)
  else return []
termination_by clause.length - index
decreasing_by
  · have later := lt_of_specifiersFrom _reads
    omega
  all_goals omega

section Clause

variable {clause : List Token}

theorem clauseFrom_braces (here : clause.drop index = token :: rest)
    (brace : token.isMark '{' = true) {after : Nat}
    (reads : specifiersFrom clause (index + 1) = .ok ((Clause.specifiers rest).1, after)) :
    clauseFrom clause index =
      (clauseFrom clause after).map ((Clause.specifiers rest).1 ++ ·) := by
  rw [clauseFrom, if_pos (lt_of_drop here), get_of_drop here, ok_bind, if_pos brace]
  split
  · rename_i fault failed
    rw [reads] at failed
    cases failed
  · rename_i result read
    rw [reads] at read
    cases read
    cases clauseFrom clause after <;> rfl

theorem clauseFrom_plain (here : clause.drop index = token :: rest)
    (brace : ¬ token.isMark '{' = true)
    (part : andAlso (token.spells "*") (aliasAt .importClause clause index) = .ok false) :
    clauseFrom clause index = (clauseFrom clause (index + 1)).map fun bindings =>
      if token.isBindingName && !token.spells "type" then
        ("default".toList, token.value) :: bindings
      else bindings := by
  rw [clauseFrom, if_pos (lt_of_drop here), get_of_drop here, ok_bind, if_neg brace, part, ok_bind,
    if_neg Bool.false_ne_true]
  split <;> cases clauseFrom clause (index + 1) <;> rfl

theorem clauseFrom_eq (rest : List Token) : ∀ index,
    clause.drop index = rest → clauseFrom clause index = .ok (Clause.bindings rest) := by
  fun_induction Clause.bindings rest with
  | case1 =>
      intro index here
      rw [clauseFrom, if_neg (not_lt_of_drop here)]
      rfl
  | case2 token rest brace ih =>
      intro index here
      obtain ⟨after, reads, -, left⟩ := specifiersFrom_eq rest (index + 1) (drop_succ here)
      rw [clauseFrom_braces here brace reads, ih after left]
      rfl
  | case3 token brace word newName rest whole ih =>
      intro index here
      have third := drop_succ (drop_succ here)
      rw [clauseFrom, if_pos (lt_of_drop here), get_of_drop here, ok_bind, if_neg brace,
        aliasAt_cons here, andAlso_ok, ok_bind, if_pos whole, get_of_drop third,
        ih (index + 3) (drop_succ third)]
      rfl
  | case4 token brace word newName rest part named ih =>
      intro index here
      have part := Bool.eq_false_iff.2 part
      rw [clauseFrom_plain here brace (by rw [aliasAt_cons here, andAlso_ok, part]),
        ih _ (drop_succ here)]
      simp [Except.map, named]
  | case5 token brace word newName rest part unnamed ih =>
      intro index here
      have part := Bool.eq_false_iff.2 part
      rw [clauseFrom_plain here brace (by rw [aliasAt_cons here, andAlso_ok, part]),
        ih _ (drop_succ here)]
      simp [Except.map, unnamed]
  | case6 token brace rest short named ih =>
      intro index here
      rw [clauseFrom_plain here brace (by rw [aliasAt_short here short, andAlso_ok, Bool.and_false]),
        ih _ (drop_succ here)]
      simp [Except.map, named]
  | case7 token brace rest short unnamed ih =>
      intro index here
      rw [clauseFrom_plain here brace (by rw [aliasAt_short here short, andAlso_ok, Bool.and_false]),
        ih _ (drop_succ here)]
      simp [Except.map, unnamed]

end Clause

/-- The record of an import statement. -/
def readImport (tokens : List Token) : Scan Statement := do
  let line := (← get .importClause tokens 0).line
  if ← holdsAt .importClause tokens 1 Token.isString then
    return ⟨line, .imports [] (some (← get .importClause tokens 1).stringValue)⟩
  else
    match ← fromIndex tokens 0 tokens with
    | none => return ⟨line, .imports [] none⟩
    | some index =>
      let source := (← get .importClause tokens (index + 1)).stringValue
      return ⟨line, .imports (← clauseFrom ((tokens.take index).drop 1) 0) (some source)⟩

theorem readImport_eq {first : Token} {more : List Token} (word : first.spells "import" = true) :
    readImport (first :: more) = .ok ⟨first.line, Clause.readImport more⟩ := by
  have other : first.spells "from" = false := Token.not_spells word (by decide)
  have line : get .importClause (first :: more) 0 = .ok first := rfl
  have start : fromIndex (first :: more) 0 (first :: more) = fromIndex (first :: more) 1 more := by
    rw [fromIndex, other, andAlso_false, ok_bind, if_neg Bool.false_ne_true]
  rw [readImport, line, ok_bind, holdsAt_eq, List.drop_one, List.tail_cons, ok_bind, start]
  cases more with
  | nil => rfl
  | cons second rest =>
      have next : get .importClause (first :: second :: rest) 1 = .ok second := rfl
      rw [List.head?_cons, Option.any_some, next, ok_bind]
      cases string : second.isString with
      | true => simp [Clause.readImport, string]
      | false =>
          obtain ⟨found, split⟩ | ⟨before, word, source, after, found, parts, split⟩ :=
            @fromIndex_cases (first :: second :: rest) (second :: rest) 1 rfl
          · rw [found]
            simp [Clause.readImport, string, split]
          · have left : (first :: second :: rest).drop (1 + before.length) = word :: source :: after :=
              drop_add parts
            have fetched : get .importClause (first :: second :: rest) (1 + before.length + 1) =
                .ok source := get_of_drop (drop_succ left)
            have clause : ((first :: second :: rest).take (1 + before.length)).drop 1 = before := by
              rw [Nat.add_comm, List.take_succ_cons, List.drop_one, List.tail_cons, parts,
                List.take_left]
            rw [found, ok_bind, if_neg Bool.false_ne_true]
            simp only [fetched, clause, clauseFrom_eq before 0 rfl, ok_bind, pure_eq]
            simp [Clause.readImport, string, split]

/-! ## Exports -/

section Exports

variable (path undocumented : Text) (doc : Option Token)

/-- A symbol declared by a statement with the given tokens. -/
def symbolOf (tokens : List Token) (name : Text) (kind : Kind) (isDefault : Bool) : Scan Symbol := do
  let comment : DocComment := match doc with
    | some comment => DocComment.parse comment.value
    | none => ⟨undocumented, []⟩
  let first ← get .symbol tokens 0
  let last ← getBefore .symbol tokens tokens.length
  return { path, name, kind, isDefault
           description := comment.description
           tags := comment.tags
           firstLine := first.line
           lastLine := last.lastLine }

/-- What is made of an export statement, if it has a known form: the form, what is declared and
what is exported where it stands. -/
abbrev Export := Option (Form × List Symbol × List Symbol)

/-- An export of all that another module exports. -/
def readStar (tokens : List Token) : Scan Export := do
  let named ← aliasAt .exportClause tokens 1
  let newName ← if named then Clause.bindingName <$> get .exportClause tokens 3 else pure []
  let source ← sourceAt tokens (if named then 4 else 2)
  if newName.isEmpty then return some (.exportsAll none source, [], [])
  else
    return some (.exportsAll (some newName) source, [],
      [← symbolOf path undocumented doc tokens newName .moduleNamespace false])

/-- An export of names in braces. -/
def readBraces (tokens : List Token) : Scan Export := do
  let (pairs, after) ← specifiersFrom tokens 2
  return some (.exportsNamed pairs (← sourceAt tokens after), [], [])

/-- Whether a default export ends after the name that it exports. -/
def endsAfterName (tokens : List Token) : Scan Bool :=
  if tokens.length == 3 then return true
  else andAlso (tokens.length == 4) ((·.isMark ';') <$> get .exportClause tokens 3)

/-- A default export of an expression. -/
def readExpression (tokens : List Token) : Scan Export := do
  let symbol ← symbolOf path undocumented doc tokens "default".toList .expression true
  return some (.exportsDefault (some .expression) "default".toList, [], [symbol])

/-- A default export. -/
def readDefault (tokens : List Token) : Scan Export := do
  match ← get? .exportClause tokens 2 with
  | none => readExpression path undocumented doc tokens
  | some third =>
    if Record.defaultKeywords.contains third.value then
      let (kind, names) ← declaration tokens 2
      let name ← if names.isEmpty then pure "default".toList else get .exportClause names 0
      let symbol ← symbolOf path undocumented doc tokens name kind true
      return some (.exportsDefault (some kind) name, if names.isEmpty then [] else [symbol], [symbol])
    else if ← andAlso third.isBindingName (endsAfterName tokens) then
      return some (.exportsDefault none third.value, [], [])
    else readExpression path undocumented doc tokens

/-- An exported declaration. -/
def readDeclared (tokens : List Token) : Scan Export := do
  let (kind, names) ← declaration tokens 1
  let symbols ← names.mapM fun name => symbolOf path undocumented doc tokens name kind false
  return some (.exportsDeclaration kind names, symbols, symbols)

/-- An export statement. -/
def readExport (tokens : List Token) : Scan Export :=
  if tokens.length < 2 then return none
  else do
    let second ← get .exportClause tokens 1
    if second.spells "*" then readStar path undocumented doc tokens
    else if second.isMark '{' then readBraces tokens
    else if second.spells "default" then readDefault path undocumented doc tokens
    else if Segment.declarationKeywords.contains second.value || second.spells "async" then
      readDeclared path undocumented doc tokens
    else return none

end Exports

section ExportEquations

variable {path undocumented : Text} {doc : Option Token} {first second : Token} {more : List Token}

theorem symbolOf_eq (name : Text) (kind : Kind) (isDefault : Bool) :
    symbolOf path undocumented doc (first :: more) name kind isDefault =
      .ok (Record.symbol path undocumented doc first more name kind isDefault) := by
  obtain ⟨last, ends⟩ : ∃ last, (first :: more).getLast? = some last :=
    ⟨_, List.getLast?_eq_some_getLast (List.cons_ne_nil first more)⟩
  have fetched : getBefore .symbol (first :: more) (first :: more).length = .ok last := by
    have fetch : (first :: more)[more.length]? = some last := by
      rw [← ends, List.getLast?_eq_getElem?]
      rfl
    rw [List.length_cons, getBefore, Scan.get, fetch]
  unfold symbolOf Record.symbol
  rw [fetched, ends]
  rfl

theorem symbolsOf_eq (names : List Text) (kind : Kind) :
    (names.mapM fun name => symbolOf path undocumented doc (first :: more) name kind false) =
      .ok (names.map fun name => Record.symbol path undocumented doc first more name kind false) := by
  simp only [symbolOf_eq]
  induction names with
  | nil => rfl
  | cons name rest ih => rw [List.mapM_cons, ih]; rfl

theorem readStar_eq : readStar path undocumented doc (first :: second :: rest) =
    .ok (Record.ofForm (Record.symbol path undocumented doc first (second :: rest))
      (Clause.starForm rest)) := by
  have unnamed : aliasAt .exportClause (first :: second :: rest) 1 = .ok false →
      Clause.starClause rest = ([], rest) →
      readStar path undocumented doc (first :: second :: rest) =
        .ok (Record.ofForm (Record.symbol path undocumented doc first (second :: rest))
          (Clause.starForm rest)) := fun single clause => by
    simp only [readStar, single, sourceAt_eq, ok_bind, pure_eq, Bool.false_eq_true, if_false,
      Clause.starForm, clause]
    rfl
  rcases rest with _ | ⟨word, _ | ⟨newName, after⟩⟩
  · exact unnamed rfl rfl
  · exact unnamed rfl rfl
  · have follows : aliasAt .exportClause (first :: second :: word :: newName :: after) 1 =
        .ok (word.spells "as") := aliasAt_cons rfl
    cases renamed : word.spells "as" with
    | false => exact unnamed (follows.trans (congrArg _ renamed)) (by simp [Clause.starClause, renamed])
    | true =>
        have fetched : get .exportClause (first :: second :: word :: newName :: after) 3 =
            .ok newName := rfl
        simp only [readStar, follows, renamed, fetched, sourceAt_eq, symbolOf_eq, map_ok, ok_bind,
          if_true, Clause.starForm, Clause.starClause]
        cases (Clause.bindingName newName).isEmpty <;> rfl

theorem readBraces_eq : readBraces (first :: second :: rest) =
    .ok (Record.ofForm (Record.symbol path undocumented doc first (second :: rest))
      (.exportsNamed (Clause.specifiers rest).1 (Clause.sourceAfter (Clause.specifiers rest).2))) := by
  obtain ⟨after, reads, -, left⟩ := @specifiersFrom_eq (first :: second :: rest) rest 2 rfl
  rw [readBraces, reads, ok_bind]
  dsimp only
  rw [sourceAt_eq, left]
  rfl

theorem readDefault_keyword
    (keyword : (rest.head?.any fun third => Record.defaultKeywords.contains third.value) = true) :
    readDefault path undocumented doc (first :: second :: rest) =
      ((Declaration.read rest).map
        (Record.ofDefault (Record.symbol path undocumented doc first (second :: rest)))).mapError
          (pastEnd (first :: second :: rest)) := by
  cases rest with
  | nil => simp at keyword
  | cons third after =>
      have fetched : get? .exportClause (first :: second :: third :: after) 2 = .ok (some third) :=
        get?_eq ..
      have read : declaration (first :: second :: third :: after) 2 = _ := declaration_eq rfl
      rw [readDefault, fetched, ok_bind]
      dsimp only
      rw [if_pos (by simpa using keyword), read]
      rcases Declaration.read (third :: after) with fault | ⟨kind, _ | ⟨name, others⟩⟩
      · rfl
      · simp [Except.map, symbolOf_eq, Record.ofDefault]
      · simp [Except.map, symbolOf_eq, Record.ofDefault, Scan.get]

theorem readExpression_eq : readExpression path undocumented doc (first :: more) =
    .ok (Record.ofForm (Record.symbol path undocumented doc first more)
      (.exportsDefault (some .expression) "default".toList)) := by
  rw [readExpression, symbolOf_eq]
  rfl

theorem endsAfterName_eq (third : Token) (after : List Token) :
    endsAfterName (first :: second :: third :: after) =
      .ok (after.isEmpty || (after.length == 1 && after.all (·.isMark ';'))) := by
  rcases after with _ | ⟨fourth, _ | ⟨fifth, others⟩⟩
  · rfl
  · simp [endsAfterName, Scan.get]
  · simp [endsAfterName]

theorem readDefault_value
    (keyword : (rest.head?.any fun third => Record.defaultKeywords.contains third.value) = false) :
    readDefault path undocumented doc (first :: second :: rest) =
      .ok (Record.ofForm (Record.symbol path undocumented doc first (second :: rest))
        (Clause.defaultForm rest)) := by
  cases rest with
  | nil =>
      have fetched : get? .exportClause [first, second] 2 = .ok none := get?_eq ..
      rw [readDefault, fetched, ok_bind]
      exact readExpression_eq
  | cons third after =>
      have fetched : get? .exportClause (first :: second :: third :: after) 2 = .ok (some third) :=
        get?_eq ..
      rw [readDefault, fetched, ok_bind]
      dsimp only
      rw [if_neg (by simpa using keyword), endsAfterName_eq, andAlso_ok, ok_bind,
        Clause.defaultForm]
      split
      · rfl
      · exact readExpression_eq

theorem readDeclared_eq : readDeclared path undocumented doc (first :: second :: rest) =
    ((Declaration.read (second :: rest)).map
      (Record.ofDeclaration (Record.symbol path undocumented doc first (second :: rest)))).mapError
        (pastEnd (first :: second :: rest)) := by
  have read : declaration (first :: second :: rest) 1 = _ := declaration_eq rfl
  rw [readDeclared, read]
  rcases Declaration.read (second :: rest) with fault | ⟨kind, names⟩
  · rfl
  · simp only [mapError_ok, Except.map, ok_bind, symbolsOf_eq, Record.ofDeclaration, pure_eq]

/-- An export statement is read as it is over lists, but for the fault. -/
theorem readExport_eq : readExport path undocumented doc (first :: more) =
    (Record.readExport (Record.symbol path undocumented doc first more) more).mapError
      (pastEnd (first :: more)) := by
  cases more with
  | nil => rfl
  | cons second rest =>
      have fetched : get .exportClause (first :: second :: rest) 1 = .ok second := rfl
      have long : ¬ (first :: second :: rest).length < 2 := by simp
      rw [readExport, if_neg long, fetched, ok_bind]
      rcases Record.exportShape second rest with star | brace | ⟨word, keyword⟩ | ⟨word, keyword⟩ |
        keyword | ⟨star, brace, word, keyword⟩
      · rw [Record.readExport_star star, if_pos star, readStar_eq]
        rfl
      · have star : second.spells "*" = false := Token.not_spells_of_isMark brace (by decide)
        rw [Record.readExport_brace brace, star, if_neg Bool.false_ne_true, if_pos brace]
        exact readBraces_eq
      · have star : second.spells "*" = false := Token.not_spells word (by decide)
        have brace : second.isMark '{' = false := Token.not_isMark_of_spells word (by decide)
        rw [Record.readExport_default word keyword, ← readDefault_keyword keyword]
        simp [star, brace, word]
      · have star : second.spells "*" = false := Token.not_spells word (by decide)
        have brace : second.isMark '{' = false := Token.not_isMark_of_spells word (by decide)
        rw [Record.readExport_value word keyword, mapError_ok, ← readDefault_value keyword]
        simp [star, brace, word]
      · obtain ⟨star, brace, word⟩ := Record.keyword_cases keyword
        rw [Record.readExport_declaration keyword, ← readDeclared_eq]
        simp only [star, brace, word, keyword, Bool.false_eq_true, if_false, if_true]
      · rw [Record.readExport_other star brace word keyword]
        simp only [star, brace, word, keyword, Bool.false_eq_true, if_false]
        rfl

end ExportEquations

/-! ## The first pass -/

section Statements

variable (path undocumented : Text)

/-- The record of the statement that takes a span. -/
def readStatement (tokens : List Token) (span : Span) : Scan Record := do
  if !(← starterAt tokens span.first) then return {}
  else
    let own := span.slice tokens
    let doc ← docBefore tokens span.first
    let keyword ← get .statement own 0
    if keyword.spells "import" then return { statement := some (← readImport own), dump := own }
    else if keyword.spells "export" then
      let line := (← get .exportClause own 0).line
      match ← readExport path undocumented doc own with
      | some (form, declared, exported) =>
        return { statement := some ⟨line, form⟩, declared, exported, dump := own }
      | none => return { dump := own }
    else
      let (kind, names) ← declaration own 0
      let line := (← get .statement own 0).line
      let declared ← names.mapM fun name => symbolOf path undocumented doc own name kind false
      return { statement := some ⟨line, .declares kind names⟩, declared }

/-- The records of all statements of a module. -/
def records (tokens : List Token) : Scan (List Record) := do
  (← spansFrom tokens 0).mapM (readStatement path undocumented tokens)

end Statements

section StatementEquations

variable {path undocumented : Text}

theorem readStatement_eq {span : Span} (filled : span.first ≤ span.last)
    (inside : span.last < tokens.length) :
    readStatement path undocumented tokens span =
      (Outline.readSpan path undocumented tokens span).mapError (pastEnd (span.slice tokens)) := by
  obtain ⟨first, rest, here⟩ := List.exists_cons_of_ne_nil
    (mt List.drop_eq_nil_iff.1 (Nat.not_le.2 (Nat.lt_of_le_of_lt filled inside)))
  have own : span.slice tokens = first :: rest.take (span.last - span.first) := by
    rw [Span.slice, here, Nat.succ_sub filled, List.take_succ_cons]
  have doc := @docBefore_eq tokens span.first (Nat.le_of_lt (Nat.lt_of_le_of_lt filled inside))
  rw [readStatement, starterAt_eq here, ok_bind, own, Outline.readSpan, here]
  dsimp only
  generalize rest.take (span.last - span.first) = more
  have fetched : ∀ site, get site (first :: more) 0 = .ok first := fun _ => rfl
  have read : declaration (first :: more) 0 = _ := declaration_eq rfl
  rw [doc, ok_bind, fetched, ok_bind]
  cases starts : Segment.isStarter first rest.head? with
  | false =>
      rw [Record.read_aside starts]
      rfl
  | true =>
      cases importWord : first.spells "import" with
      | true =>
          rw [Record.read_import starts importWord, readImport_eq importWord]
          rfl
      | false =>
          cases exportWord : first.spells "export" with
          | true =>
              rw [Record.read_export starts exportWord, fetched, ok_bind, readExport_eq]
              rcases Record.readExport _ more with fault | _ | ⟨form, declared, exported⟩ <;> rfl
          | false =>
              rw [Record.read_declaration starts importWord exportWord, read]
              rcases Declaration.read (first :: more) with fault | ⟨kind, names⟩
              · rfl
              · simp only [mapError_ok, Except.map, ok_bind, fetched, symbolsOf_eq, pure_eq]
                rfl

/-- Two readings of items that differ only in their faults: either both return the same, or both fail
at the same item. -/
theorem mapM_cases {α β ε ε' : Type} {items : List α} {read : α → Except ε β}
    {read' : α → Except ε' β} {fault : α → ε → ε'}
    (same : ∀ item ∈ items, read' item = (read item).mapError (fault item)) :
    (∃ results, items.mapM read = .ok results ∧ items.mapM read' = .ok results) ∨
      ∃ item ∈ items, ∃ e, read item = .error e ∧ items.mapM read = .error e ∧
        items.mapM read' = .error (fault item e) := by
  induction items with
  | nil => exact .inl ⟨[], rfl, rfl⟩
  | cons item rest ih =>
      have here := same item List.mem_cons_self
      have later := ih fun item member => same item (List.mem_cons_of_mem _ member)
      simp only [List.mapM_cons, here]
      cases reads : read item with
      | error e => exact .inr ⟨item, List.mem_cons_self, e, reads, rfl, rfl⟩
      | ok result =>
          obtain ⟨results, ran, ran'⟩ | ⟨other, member, e, fails, ran, ran'⟩ := later
          · exact .inl ⟨result :: results, by rw [ran]; rfl, by rw [ran']; rfl⟩
          · exact .inr ⟨other, List.mem_cons_of_mem _ member, e, fails, by rw [ran]; rfl,
              by rw [ran']; rfl⟩

/-- The first pass makes the records of the outline, or fails at a statement that cannot be read. -/
theorem records_cases (path undocumented : Text) (tokens : List Token) :
    (∃ made, Outline.ofTokens path undocumented tokens = .ok ⟨path, undocumented, made⟩ ∧
        records path undocumented tokens = .ok made) ∨
      ∃ span ∈ Segment.spans tokens, ∃ fault,
        Outline.readSpan path undocumented tokens span = .error fault ∧
        Outline.ofTokens path undocumented tokens = .error fault ∧
        records path undocumented tokens = .error (pastEnd (span.slice tokens) fault) := by
  have whole := Segment.flatMap_tokens_split tokens
  have bounds : ∀ span ∈ Segment.spans tokens, span.first ≤ span.last ∧ span.last < tokens.length :=
    fun span member => whole ▸ Segment.bounds_spansFrom member
  rw [records, spansFrom_zero, ok_bind, Outline.ofTokens, Outline.readSegments_split]
  obtain ⟨made, ran, ran'⟩ | ⟨span, member, fault, fails, ran, ran'⟩ :=
    mapM_cases fun span member => @readStatement_eq tokens path undocumented span
      (bounds span member).1 (bounds span member).2
  · exact .inl ⟨made, by rw [ran]; rfl, ran'⟩
  · exact .inr ⟨span, member, fault, fails, by rw [ran]; rfl, ran'⟩

end StatementEquations

/-! ## The second pass -/

section Documents

variable {m : Type → Type} [Monad m] (outline : Outline) (resolve : Text → m (List Symbol))

/-- The symbols that an export statement contributes beyond those it declares, by the fields that the
statement shows. -/
def documentStatement (line : Nat) (form : Form) : ExceptT IndexFault m (List Symbol) := do
  if form.type == "export-all" then
    match form.source with
    | none => return []
    | some source => return (← ExceptT.lift (resolve source)).filter (!·.isDefault)
  else if form.type == "export-default" then
    let name := (← MonadExcept.ofExcept (get .document form.names 0)).1
    return [(← ExceptT.lift (outline.documentBinding resolve name line)).renamed name true]
  else if form.type == "export-named" then
    match form.source with
    | some source =>
      let symbols ← ExceptT.lift (resolve source)
      return form.names.map fun (imported, exported) =>
        ((Symbol.find? symbols imported).getD (outline.placeholder exported .unknown line)).renamed
          exported (exported == "default".toList)
    | none =>
      form.names.mapM fun (name, exported) => do
        let symbol ← ExceptT.lift (outline.documentBinding resolve name line)
        return symbol.renamed exported (exported == "default".toList)
  else return []

/-- The symbols that a record contributes. -/
def documentRecord (record : Record) : ExceptT IndexFault m (List Symbol) :=
  if !record.exported.isEmpty then return record.exported
  else match record.statement with
    | some statement => documentStatement outline resolve statement.line statement.form
    | none => return []

end Documents

/-- The extraction of a module. -/
def extract {m : Type → Type} [Monad m] (path undocumented source : Text)
    (resolve : Text → m (List Symbol)) : ExceptT IndexFault m Extraction := do
  let made ← MonadExcept.ofExcept (records path undocumented (Lexer.tokens source))
  let outline : Outline := ⟨path, undocumented, made⟩
  let contributions ← made.mapM (documentRecord outline resolve)
  return { symbols := contributions.flatten, tokens := outline.dump, statements := outline.statements }

section DocumentEquations

variable {m : Type → Type} [Monad m] [LawfulMonad m] {outline : Outline}
  {resolve : Text → m (List Symbol)}

theorem map_lift {α β ε : Type} (f : α → β) (step : m α) :
    f <$> (ExceptT.lift step : ExceptT ε m α) = ExceptT.lift (f <$> step) := by
  apply ExceptT.ext
  simp [Except.map]

theorem lift_pure {α ε : Type} (a : α) : (ExceptT.lift (pure a) : ExceptT ε m α) = pure a := by
  apply ExceptT.ext
  simp

theorem mapM_lift {α β ε : Type} (items : List α) (step : α → m β) :
    (items.mapM fun item => (ExceptT.lift (step item) : ExceptT ε m β)) =
      ExceptT.lift (items.mapM step) := by
  induction items with
  | nil => exact (lift_pure []).symm
  | cons item rest ih => simp [List.mapM_cons, ih, map_lift]

theorem documentStatement_eq (line : Nat) (form : Form) :
    documentStatement outline resolve line form =
      ExceptT.lift (outline.documentForm resolve line form) := by
  cases form with
  | imports => exact (lift_pure []).symm
  | declares => exact (lift_pure []).symm
  | exportsDeclaration => exact (lift_pure []).symm
  | exportsDefault kind name =>
      have fetched : get .document (Form.exportsDefault kind name).names 0 =
          .ok (name, "default".toList) := rfl
      simp [documentStatement, Form.type, fetched, Outline.documentForm, MonadExcept.ofExcept, map_lift]
  | exportsNamed pairs source =>
      cases source <;> simp [documentStatement, Form.type, Form.names, Form.source,
        Outline.documentForm, ← mapM_lift, map_lift]
  | exportsAll newName source =>
      cases source <;> simp [documentStatement, Form.type, Form.source, Outline.documentForm, map_lift]

theorem documentRecord_eq (record : Record) :
    documentRecord outline resolve record = ExceptT.lift (outline.documentRecord resolve record) := by
  unfold documentRecord Outline.documentRecord
  split
  · exact (lift_pure _).symm
  · cases record.statement with
    | none => exact (lift_pure []).symm
    | some statement => exact documentStatement_eq ..

/-- **The scanner extracts what the extraction over lists does**, and fails where that one fails: with
an access behind the end of a statement that cannot be read. -/
theorem extract_eq (path undocumented source : Text) (resolve : Text → m (List Symbol)) :
    ∃ own : List Token, (extract path undocumented source resolve).run =
        (fun run => run.mapError (pastEnd own)) <$>
          ExportDocs.extract path undocumented source resolve ∧
      ∀ fault, Outline.ofSource path undocumented source = .error fault →
        ∃ span ∈ Segment.spans (Lexer.tokens source), own = span.slice (Lexer.tokens source) ∧
          Outline.readSpan path undocumented (Lexer.tokens source) span = .error fault := by
  rw [extract, ExportDocs.extract, Outline.ofSource]
  obtain ⟨made, outlined, ran⟩ | ⟨span, member, fault, fails, refused, ran⟩ :=
    records_cases path undocumented (Lexer.tokens source)
  · have documented : made.mapM (documentRecord ⟨path, undocumented, made⟩ resolve) =
        ExceptT.lift (made.mapM (Outline.documentRecord ⟨path, undocumented, made⟩ resolve)) := by
      rw [← mapM_lift]
      exact congrArg (List.mapM · made) (funext documentRecord_eq)
    refine ⟨[], ?_, fun fault refused => ?_⟩
    · rw [outlined, ran]
      simp [MonadExcept.ofExcept, documented, Outline.document, map_lift]
    · rw [outlined] at refused
      cases refused
  · refine ⟨span.slice (Lexer.tokens source), ?_, fun other same => ?_⟩
    · rw [refused, ran]
      simp [MonadExcept.ofExcept]
    · rw [refused] at same
      cases same
      exact ⟨span, member, rfl, fails⟩

end DocumentEquations

end Scanner

end ExportDocs
