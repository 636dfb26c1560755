/-
# ExportDocs.Proofs.Exports.Readings -- one equation for each kind of statement

`Record.read` and `Record.readExport` try one kind of statement after the other.  The equations of
this module say what a statement of each kind is read as, so that the order of the trials does not
show in later proofs: a kind is known by its first tokens, and no two kinds share them.
-/
import ExportDocs.Proofs.Exports.Records

namespace ExportDocs

set_option autoImplicit false

/-! ## Spellings -/

namespace Token

variable {token : Token}

theorem spells_iff {word : String} : token.spells word = true ↔ token.value = word.toList :=
  beq_iff_eq

/-- A token has one spelling. -/
theorem not_spells {word other : String} (spelled : token.spells word = true)
    (differ : word.toList ≠ other.toList) : token.spells other = false := by
  rw [Token.spells, spells_iff.1 spelled]
  exact beq_eq_false_iff_ne.2 differ

theorem not_isMark_of_spells {word : String} (spelled : token.spells word = true) {mark : Char}
    (differ : word.toList ≠ [mark]) : token.isMark mark = false := by
  have other : (token.value == [mark]) = false := by
    rw [spells_iff.1 spelled]
    exact beq_eq_false_iff_ne.2 differ
  simp [isMark, other]

theorem not_spells_of_isMark {mark : Char} (marked : token.isMark mark = true) {word : String}
    (differ : word.toList ≠ [mark]) : token.spells word = false := by
  refine Bool.eq_false_iff.2 fun spelled => ?_
  rw [not_isMark_of_spells spelled differ] at marked
  cases marked

end Token

/-! ## Clauses -/

namespace Clause

section Specifiers

variable {token : Token} {rest : List Token}

theorem specifiers_close (closes : token.isMark '}' = true) :
    specifiers (token :: rest) = ([], rest) := by
  rw [specifiers.eq_def]
  simp only [closes, if_true]

theorem specifiers_comma (closes : token.isMark '}' = false) (comma : token.isMark ',' = true) :
    specifiers (token :: rest) = specifiers rest := by
  rw [specifiers.eq_def]
  simp only [closes, comma, if_true, Bool.false_eq_true, if_false]

/-- A name that no new name follows stands for itself. -/
theorem specifiers_single (closes : token.isMark '}' = false) (comma : token.isMark ',' = false)
    {next : Token} (single : next.spells "as" = false) : specifiers (token :: next :: rest) =
      ((bindingName token, bindingName token) :: (specifiers (next :: rest)).1,
        (specifiers (next :: rest)).2) := by
  rw [specifiers.eq_def]
  simp only [closes, comma, Bool.false_eq_true, if_false]
  cases rest with
  | nil => rfl
  | cons newName after => simp only [single, Bool.false_eq_true, if_false]

theorem specifiers_renamed (closes : token.isMark '}' = false) (comma : token.isMark ',' = false)
    {link newName : Token} (renamed : link.spells "as" = true) :
    specifiers (token :: link :: newName :: rest) =
      ((bindingName token, bindingName newName) :: (specifiers rest).1, (specifiers rest).2) := by
  rw [specifiers.eq_def]
  simp only [closes, comma, renamed, if_true, Bool.false_eq_true, if_false]

end Specifiers

/-- The name of a module that is exported as a whole, empty if there is none, and the tokens
after it. -/
def starClause : List Token → Text × List Token
  | word :: name :: after =>
    if word.spells "as" then (bindingName name, after) else ([], word :: name :: after)
  | rest => ([], rest)

/-- The form of an export of everything, from the token after the asterisk on. -/
def starForm (rest : List Token) : Form :=
  .exportsAll (if (starClause rest).1.isEmpty then none else some (starClause rest).1)
    (sourceAfter (starClause rest).2)

/-- The form of a default export that is no declaration, from the token after the word on. -/
def defaultForm : List Token → Form
  | third :: after =>
    if third.isBindingName && (after.isEmpty || (after.length == 1 && after.all (·.isMark ';'))) then
      .exportsDefault none third.value
    else .exportsDefault (some .expression) "default".toList
  | [] => .exportsDefault (some .expression) "default".toList

end Clause

/-! ## Export statements -/

namespace Record

variable {make : Text → Kind → Bool → Symbol} {second : Token} {rest : List Token}

/-- What is made of a form that declares nothing. -/
def ofForm (make : Text → Kind → Bool → Symbol) (form : Form) :
    Option (Form × List Symbol × List Symbol) :=
  some (form, [], form.inline make)

/-- What is made of a declaration that is the default export. -/
def ofDefault (make : Text → Kind → Bool → Symbol) (read : Kind × List Text) :
    Option (Form × List Symbol × List Symbol) :=
  some (.exportsDefault (some read.1) (read.2.headD "default".toList),
    (read.2.take 1).map fun name => make name read.1 true,
    [make (read.2.headD "default".toList) read.1 true])

/-- What is made of a declaration that is exported under its names. -/
def ofDeclaration (make : Text → Kind → Bool → Symbol) (read : Kind × List Text) :
    Option (Form × List Symbol × List Symbol) :=
  some (.exportsDeclaration read.1 read.2, read.2.map fun name => make name read.1 false,
    read.2.map fun name => make name read.1 false)

theorem readExport_star (star : second.spells "*" = true) :
    readExport make (second :: rest) = .ok (ofForm make (Clause.starForm rest)) := by
  rcases rest with _ | ⟨word, _ | ⟨name, after⟩⟩
  · simp only [readExport, star, if_true]
    rfl
  · simp only [readExport, star, if_true]
    rfl
  · cases spelled : word.spells "as" with
    | false =>
        simp only [readExport, star, spelled, ofForm, Clause.starForm, Clause.starClause, if_true,
          Bool.false_eq_true, if_false]
        rfl
    | true =>
        simp only [readExport, star, spelled, ofForm, Clause.starForm, Clause.starClause, if_true]
        split <;> rfl

theorem readExport_brace (brace : second.isMark '{' = true) :
    readExport make (second :: rest) = .ok (ofForm make (.exportsNamed (Clause.specifiers rest).1
      (Clause.sourceAfter (Clause.specifiers rest).2))) := by
  have star : second.spells "*" = false := Token.not_spells_of_isMark brace (by decide)
  simp only [readExport, star, brace, if_true]
  rfl

theorem readExport_default (word : second.spells "default" = true)
    (keyword : (rest.head?.any fun third => defaultKeywords.contains third.value) = true) :
    readExport make (second :: rest) = (Declaration.read rest).map (ofDefault make) := by
  have star : second.spells "*" = false := Token.not_spells word (by decide)
  have brace : second.isMark '{' = false := Token.not_isMark_of_spells word (by decide)
  simp only [readExport, star, brace, word, keyword, if_true, Bool.false_eq_true, if_false]
  cases Declaration.read rest with
  | error fault => rfl
  | ok read =>
      obtain ⟨kind, names⟩ := read
      cases names <;> rfl

theorem readExport_value (word : second.spells "default" = true)
    (keyword : (rest.head?.any fun third => defaultKeywords.contains third.value) = false) :
    readExport make (second :: rest) = .ok (ofForm make (Clause.defaultForm rest)) := by
  have star : second.spells "*" = false := Token.not_spells word (by decide)
  have brace : second.isMark '{' = false := Token.not_isMark_of_spells word (by decide)
  simp only [readExport, star, brace, word, keyword, if_true, Bool.false_eq_true, if_false]
  cases rest with
  | nil => rfl
  | cons third after =>
      simp only [ofForm, Clause.defaultForm]
      split <;> rfl

theorem keyword_cases
    (keyword : (Segment.declarationKeywords.contains second.value || second.spells "async") = true) :
    second.spells "*" = false ∧ second.isMark '{' = false ∧ second.spells "default" = false := by
  simp only [Segment.declarationKeywords, List.contains_iff_mem, List.mem_cons, List.not_mem_nil,
    or_false, Bool.or_eq_true, Token.spells_iff] at keyword
  rcases keyword with (value | value | value | value | value) | value <;>
    simp [Token.spells, Token.isMark, value]

theorem readExport_declaration
    (keyword : (Segment.declarationKeywords.contains second.value || second.spells "async") = true) :
    readExport make (second :: rest) =
      (Declaration.read (second :: rest)).map (ofDeclaration make) := by
  obtain ⟨star, brace, word⟩ := keyword_cases keyword
  simp only [readExport, star, brace, word, keyword, if_true, Bool.false_eq_true, if_false]
  cases Declaration.read (second :: rest) <;> rfl

theorem readExport_other (star : second.spells "*" = false) (brace : second.isMark '{' = false)
    (word : second.spells "default" = false)
    (keyword : (Segment.declarationKeywords.contains second.value || second.spells "async") = false) :
    readExport make (second :: rest) = .ok none := by
  simp only [readExport, star, brace, word, keyword, Bool.false_eq_true, if_false]

/-- The kinds of export statements, by the first tokens after the word. -/
inductive ExportShape (second : Token) (rest : List Token) : Prop
  | star (star : second.spells "*" = true)
  | brace (brace : second.isMark '{' = true)
  | default (word : second.spells "default" = true)
      (keyword : (rest.head?.any fun third => defaultKeywords.contains third.value) = true)
  | value (word : second.spells "default" = true)
      (keyword : (rest.head?.any fun third => defaultKeywords.contains third.value) = false)
  | declaration (keyword :
      (Segment.declarationKeywords.contains second.value || second.spells "async") = true)
  | other (star : second.spells "*" = false) (brace : second.isMark '{' = false)
      (word : second.spells "default" = false)
      (keyword :
        (Segment.declarationKeywords.contains second.value || second.spells "async") = false)

theorem exportShape (second : Token) (rest : List Token) : ExportShape second rest := by
  cases star : second.spells "*" with
  | true => exact .star star
  | false =>
      cases brace : second.isMark '{' with
      | true => exact .brace brace
      | false =>
          cases word : second.spells "default" with
          | true =>
              cases keyword : rest.head?.any fun third => defaultKeywords.contains third.value with
              | true => exact .default word keyword
              | false => exact .value word keyword
          | false =>
              cases keyword :
                (Segment.declarationKeywords.contains second.value || second.spells "async") with
              | true => exact .declaration keyword
              | false => exact .other star brace word keyword

/-! ## Statements -/

variable {path undocumented : Text} {doc following : Option Token} {first : Token}
  {more : List Token}

/-- The record of an export statement from what was made of it. -/
def ofExport (first : Token) (more : List Token)
    (made : Option (Form × List Symbol × List Symbol)) : Record :=
  made.elim { dump := first :: more } fun parts =>
    { statement := some ⟨first.line, parts.1⟩, declared := parts.2.1, exported := parts.2.2
      dump := first :: more }

theorem read_aside (aside : Segment.isStarter first following = false) :
    Record.read path undocumented doc first more following = .ok {} := by
  simp [Record.read, aside]

theorem read_import (starts : Segment.isStarter first following = true)
    (word : first.spells "import" = true) :
    Record.read path undocumented doc first more following =
      .ok { statement := some ⟨first.line, Clause.readImport more⟩, dump := first :: more } := by
  simp [Record.read, starts, word]

theorem read_export (starts : Segment.isStarter first following = true)
    (word : first.spells "export" = true) :
    Record.read path undocumented doc first more following =
      (readExport (symbol path undocumented doc first more) more).map (ofExport first more) := by
  have other : first.spells "import" = false := Token.not_spells word (by decide)
  simp only [Record.read, starts, word, other, Bool.not_true, Bool.false_eq_true, if_true, if_false]
  cases readExport (symbol path undocumented doc first more) more with
  | error fault => rfl
  | ok made => cases made <;> rfl

theorem read_declaration (starts : Segment.isStarter first following = true)
    (notImport : first.spells "import" = false) (notExport : first.spells "export" = false) :
    Record.read path undocumented doc first more following =
      (Declaration.read (first :: more)).map fun read =>
        { statement := some ⟨first.line, .declares read.1 read.2⟩
          declared := read.2.map fun name =>
            symbol path undocumented doc first more name read.1 false } := by
  simp only [Record.read, starts, notImport, notExport, Bool.not_true, Bool.false_eq_true, if_false]
  cases Declaration.read (first :: more) <;> rfl

end Record

end ExportDocs
