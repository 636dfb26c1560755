/-
# ExportDocs.Proofs.Token.Lines -- the lines that tokens stand on

The line of a token is a running count: each lexeme, kept or left out, adds the line feeds between
the index of the lexeme before it and its own.  The count is right as long as indices do not go
back, for then it is always the line of the index reached (`Text.lineAt`, `significantAfter_eq`).

Lexemes tile a source if their values in order are the source and each index is the position of its
value (`Tiles`).  Whatever lexer they come from, the tokens among them are then the lexemes to be
kept, each on the line of its index, and a token ends on the line of its last character
(`Counted`).  The lexemes of this library's lexer tile every source (`tiles_placed`), so the lines
of its tokens can be counted over the values of the lexemes as well (`tokens_eq_significantFrom`).
-/
import ExportDocs.Token.Lexer

namespace ExportDocs

set_option autoImplicit false

/-! ## Lines of a text -/

namespace Text

theorem newlines_append (t u : Text) : newlines (t ++ u) = newlines t + newlines u :=
  List.count_append

/-- The line of an index, counted from one: every line feed before the index starts a line. -/
def lineAt (t : Text) (index : Nat) : Nat := 1 + newlines (t.take index)

variable {t : Text} {start stop index : Nat}

/-- From one index on to another, the lines are counted by the line feeds between them. -/
theorem lineAt_add_newlines (t : Text) (order : start ≤ stop) :
    lineAt t start + newlines (t.extract start stop) = lineAt t stop := by
  obtain ⟨more, rfl⟩ := Nat.exists_eq_add_of_le order
  rw [lineAt, lineAt, List.take_add, newlines_append, List.extract_eq_take_drop,
    Nat.add_sub_cancel_left, Nat.add_assoc]

theorem lineAt_mono (t : Text) (order : start ≤ stop) : lineAt t start ≤ lineAt t stop := by
  rw [← lineAt_add_newlines t order]
  exact Nat.le_add_right _ _

theorem lineAt_le (t : Text) (index : Nat) : lineAt t index ≤ 1 + newlines t :=
  Nat.add_le_add_left ((List.take_sublist index t).count_le '\n') 1

theorem lineAt_succ {c : Char} (here : t[index]? = some c) :
    lineAt t (index + 1) = lineAt t index + if c = '\n' then 1 else 0 := by
  rw [lineAt, lineAt, List.take_add_one, here, newlines_append, Nat.add_assoc]
  simp [newlines, List.count_singleton]

/-- Behind a part of a text, the lines of that part have been passed. -/
theorem lineAt_behind (front value back : Text) :
    lineAt (front ++ value ++ back) (front.length + value.length) =
      lineAt (front ++ value ++ back) front.length + newlines value := by
  rw [lineAt, lineAt, ← List.length_append, List.take_left, List.append_assoc, List.take_left,
    newlines_append, Nat.add_assoc]

end Text

/-! ## What is kept -/

/-- What is kept of a source: what is not blank, and of the comments the doc comments only. -/
def Lexeme.IsKept (lexeme : Lexeme) : Prop :=
  (∃ c ∈ lexeme.value, Text.isBlank c = false) ∧
    ¬ (lexeme.type.isComment = true ∧ lexeme.isDoc = false)

theorem Lexeme.isSignificant_iff (lexeme : Lexeme) :
    lexeme.isSignificant = true ↔ lexeme.IsKept := by
  unfold isSignificant IsKept Text.allBlank
  cases lexeme.type.isComment <;> simp

instance : DecidablePred Lexeme.IsKept := fun lexeme =>
  decidable_of_iff _ lexeme.isSignificant_iff

/-- The token of a lexeme, on the line of its index. -/
def PlacedLexeme.token (source : Text) (lexeme : PlacedLexeme) : Token :=
  ⟨lexeme.type, lexeme.value, source.lineAt lexeme.index⟩

namespace Token

variable {source : Text}

/-- Lines are counted on from index to index, over lexemes that are left out as well. -/
theorem significantAfter_cons {last : Nat} {lexeme : PlacedLexeme} (rest : List PlacedLexeme)
    (order : last ≤ lexeme.index) :
    significantAfter source (source.lineAt last) last (lexeme :: rest) =
      if lexeme.IsKept then
        lexeme.token source :: significantAfter source (source.lineAt lexeme.index) lexeme.index rest
      else significantAfter source (source.lineAt lexeme.index) lexeme.index rest := by
  simp only [significantAfter, Text.lineAt_add_newlines source order, Lexeme.isSignificant_iff]
  rfl

/-- If indices do not go back, the running count is always the line of the index reached, and the
tokens are the lexemes to be kept. -/
theorem significantAfter_eq {last : Nat} {lexemes : List PlacedLexeme}
    (ordered : (last :: lexemes.map (·.index)).Pairwise (· ≤ ·)) :
    significantAfter source (source.lineAt last) last lexemes =
      (lexemes.filter (·.IsKept)).map (·.token source) := by
  -- The count is the line of `last` before each lexeme, whatever lexeme `last` belongs to.
  induction lexemes generalizing last with
  | nil => rfl
  | cons lexeme rest ih =>
      obtain ⟨first, others⟩ := List.pairwise_cons.1 ordered
      have order : last ≤ lexeme.index := first _ List.mem_cons_self
      rw [significantAfter_cons rest order, ih others, List.filter_cons]
      simp only [decide_eq_true_eq]
      split <;> rfl

end Token

/-! ## Lexemes that tile a source -/

/-- The lexemes in order are the source, and each index is the position of its value. -/
structure Tiles (source : Text) (lexemes : List PlacedLexeme) : Prop where
  values : (lexemes.map (·.value)).flatten = source
  indices : ∀ i (inside : i < lexemes.length),
    lexemes[i].index = ((lexemes.take i).map (·.value)).flatten.length

namespace Tiles

variable {source : Text} {lexemes : List PlacedLexeme}

/-- A value stands in the source at its index. -/
theorem exists_append (tiles : Tiles source lexemes) {lexeme : PlacedLexeme}
    (member : lexeme ∈ lexemes) :
    ∃ front back, source = front ++ lexeme.value ++ back ∧ lexeme.index = front.length := by
  obtain ⟨i, inside, rfl⟩ := List.getElem_of_mem member
  refine ⟨((lexemes.take i).map (·.value)).flatten, ((lexemes.drop (i + 1)).map (·.value)).flatten,
    ?_, tiles.indices i inside⟩
  calc source = (lexemes.map (·.value)).flatten := tiles.values.symm
    _ = ((lexemes.take i ++ lexemes[i] :: lexemes.drop (i + 1)).map (·.value)).flatten := by
        rw [List.getElem_cons_drop, List.take_append_drop]
    _ = _ := by
        simp only [List.map_append, List.map_cons, List.flatten_append, List.flatten_cons,
          List.append_assoc]

theorem ordered (tiles : Tiles source lexemes) : (lexemes.map (·.index)).Pairwise (· ≤ ·) := by
  rw [List.pairwise_iff_getElem]
  intro i j insideI insideJ order
  rw [List.length_map] at insideI insideJ
  rw [List.getElem_map, List.getElem_map, tiles.indices i insideI, tiles.indices j insideJ]
  have front : lexemes.take i <+: lexemes.take j := List.take_prefix_take_left (Nat.le_of_lt order)
  obtain ⟨between, cut⟩ := front
  rw [← cut]
  simp

theorem significant_eq (tiles : Tiles source lexemes) :
    Token.significant source lexemes = (lexemes.filter (·.IsKept)).map (·.token source) := by
  have first : source.lineAt 0 = 1 := rfl
  rw [Token.significant, ← first]
  exact Token.significantAfter_eq (List.pairwise_cons.2 ⟨fun _ _ => Nat.zero_le _, tiles.ordered⟩)

/-- A token ends on the line of the index behind it. -/
theorem lastLine_token (tiles : Tiles source lexemes) {lexeme : PlacedLexeme}
    (member : lexeme ∈ lexemes) :
    (lexeme.token source).lastLine = source.lineAt (lexeme.index + lexeme.value.length) := by
  obtain ⟨front, back, cut, index⟩ := tiles.exists_append member
  rw [Token.lastLine, PlacedLexeme.token, cut, index, Text.lineAt_behind]

/-- The last character of a value stands in the source right before the index behind the value. -/
theorem exists_last (tiles : Tiles source lexemes) {lexeme : PlacedLexeme}
    (member : lexeme ∈ lexemes) (kept : lexeme.IsKept) :
    ∃ last c, last + 1 = lexeme.index + lexeme.value.length ∧ source[last]? = some c ∧
      lexeme.value.getLast? = some c := by
  obtain ⟨front, back, cut, index⟩ := tiles.exists_append member
  -- A kept value is not blank; so it has a character, and then a last one.
  obtain ⟨⟨d, inValue, -⟩, -⟩ := kept
  rcases List.eq_nil_or_concat lexeme.value with empty | ⟨text, c, value⟩
  · rw [empty] at inValue
    cases inValue
  · refine ⟨(front ++ text).length, c, ?_, ?_, ?_⟩
    · simp [index, value, Nat.add_assoc]
    · simp [cut, value]
    · simp [value]

theorem ordered_lines (tiles : Tiles source lexemes) :
    ((Token.significant source lexemes).map (·.line)).Pairwise (· ≤ ·) := by
  rw [tiles.significant_eq, List.map_map, List.pairwise_map]
  have ordered := List.pairwise_map.1 tiles.ordered
  exact (ordered.filter _).imp fun order => Text.lineAt_mono source order

theorem lastLine_le (tiles : Tiles source lexemes) {token : Token}
    (member : token ∈ Token.significant source lexemes) :
    token.lastLine ≤ 1 + Text.newlines source := by
  rw [tiles.significant_eq] at member
  obtain ⟨lexeme, kept, rfl⟩ := List.mem_map.1 member
  rw [tiles.lastLine_token (List.mem_filter.1 kept).1]
  exact Text.lineAt_le source _

end Tiles

/-! ## Tokens on their lines -/

/-- The tokens are the lexemes to be kept, in order and on the lines of their indices.  So lines
never decrease, and a token ends within the source, on the line of its last character, where a line
feed at the very end counts as the start of the next line. -/
structure Counted (source : Text) (lexemes : List PlacedLexeme) (tokens : List Token) : Prop where
  kept : tokens = (lexemes.filter (·.IsKept)).map (·.token source)
  ordered : (tokens.map (·.line)).Pairwise (· ≤ ·)
  ends : ∀ lexeme ∈ lexemes, lexeme.IsKept →
    ∃ last c, last + 1 = lexeme.index + lexeme.value.length ∧ source[last]? = some c ∧
      lexeme.value.getLast? = some c ∧
      (lexeme.token source).lastLine = source.lineAt last + if c = '\n' then 1 else 0
  inside : ∀ token ∈ tokens, token.lastLine ≤ 1 + Text.newlines source

namespace Lexer

theorem toLexeme_placeFrom (lexemes : List Lexeme) :
    ∀ index, (placeFrom index lexemes).map (·.toLexeme) = lexemes := by
  induction lexemes with
  | nil => exact fun _ => rfl
  | cons lexeme rest ih => simp [placeFrom, ih]

theorem index_placeFrom (lexemes : List Lexeme) :
    ∀ index i (inside : i < (placeFrom index lexemes).length),
      (placeFrom index lexemes)[i].index =
        index + (((placeFrom index lexemes).take i).map (·.value)).flatten.length := by
  induction lexemes with
  | nil => exact fun _ _ inside => absurd inside (Nat.not_lt_zero _)
  | cons lexeme rest ih =>
      intro index i inside
      cases i with
      | zero => rfl
      | succ i => simp [placeFrom, ih, Nat.add_assoc]

/-- The lexemes of a source tile it. -/
theorem tiles_placed (source : Text) : Tiles source (placed source) where
  values := by
    have same := congrArg (·.map (·.value)) (toLexeme_placeFrom (lexemes source) 0)
    rw [List.map_map] at same
    exact (congrArg List.flatten same).trans (flatten_lexemes source)
  indices i inside := (index_placeFrom (lexemes source) 0 i inside).trans (Nat.zero_add _)

end Lexer

/-- **Tokens stand on the lines of the source.**  This holds of the tokens of every source, and more
generally of the tokens among any lexemes that tile it. -/
theorem tokens_stand_on_lines (source : Text) :
    Counted source (Lexer.placed source) (Lexer.tokens source) ∧
      ∀ lexemes, Tiles source lexemes →
        Counted source lexemes (Token.significant source lexemes) := by
  have counted : ∀ lexemes, Tiles source lexemes →
      Counted source lexemes (Token.significant source lexemes) := by
    intro lexemes tiles
    refine ⟨tiles.significant_eq, tiles.ordered_lines, fun lexeme member kept => ?_,
      fun token member => tiles.lastLine_le member⟩
    obtain ⟨last, c, behind, here, final⟩ := tiles.exists_last member kept
    refine ⟨last, c, behind, here, final, ?_⟩
    rw [tiles.lastLine_token member, ← behind, Text.lineAt_succ here]
  exact ⟨counted _ (Lexer.tiles_placed source), counted⟩

/-- Comments over two lines, of which one is a doc comment, and signs after them. -/
def layered : Text := "/* a\n*/\n/** b\n*/ (\n/**/ 1;\n".toList

/-- What the sample is made of. -/
def layeredLexemes : List PlacedLexeme :=
  [⟨⟨.blockComment, "/* a\n*/".toList⟩, 0⟩, ⟨⟨.blank, ['\n']⟩, 7⟩,
    ⟨⟨.blockComment, "/** b\n*/".toList⟩, 8⟩, ⟨⟨.blank, [' ']⟩, 16⟩, ⟨⟨.punctuation, ['(']⟩, 17⟩,
    ⟨⟨.blank, ['\n']⟩, 18⟩, ⟨⟨.blockComment, "/**/".toList⟩, 19⟩, ⟨⟨.blank, [' ']⟩, 23⟩,
    ⟨⟨.float, ['1']⟩, 24⟩, ⟨⟨.punctuation, [';']⟩, 25⟩, ⟨⟨.blank, ['\n']⟩, 26⟩]

theorem tokens_stand_on_lines_of_layered :
    Tiles layered layeredLexemes ∧ Lexer.placed layered = layeredLexemes ∧
      (Token.significant layered layeredLexemes).map (fun token => (token.line, token.lastLine)) =
        [(3, 4), (4, 4), (5, 5), (5, 5)] ∧
      Counted layered layeredLexemes (Token.significant layered layeredLexemes) := by
  have tiles : Tiles layered layeredLexemes := ⟨by decide, by decide⟩
  exact ⟨tiles, by decide +kernel, by decide,
    (tokens_stand_on_lines layered).2 layeredLexemes tiles⟩

/-- The text of a template that closes with a line feed ends on the line of the closing backtick. -/
example : (Token.significant "`c\n`".toList
      [⟨⟨.template, ['`']⟩, 0⟩, ⟨⟨.template, "c\n".toList⟩, 1⟩, ⟨⟨.template, ['`']⟩, 3⟩]).map
        (fun token => (token.line, token.lastLine)) = [(1, 1), (1, 2), (2, 2)] := by
  decide

/-! ## Lines counted over values -/

namespace Token

/-- The tokens among lexemes, the first of which starts on `line`; each value adds its own line
feeds. -/
def significantFrom (line : Nat) : List Lexeme → List Token
  | [] => []
  | lexeme :: rest =>
    let others := significantFrom (line + Text.newlines lexeme.value) rest
    if lexeme.isSignificant then ⟨lexeme.type, lexeme.value, line⟩ :: others else others

/-- The line behind a lexeme is the line of the next one. -/
theorem significantFrom_eq (lexemes : List Lexeme) : ∀ front source : Text,
    source = front ++ (lexemes.map (·.value)).flatten →
    significantFrom (source.lineAt front.length) lexemes =
      ((Lexer.placeFrom front.length lexemes).filter (·.IsKept)).map (·.token source) := by
  induction lexemes with
  | nil => exact fun _ _ _ => rfl
  | cons lexeme rest ih =>
      intro front source cut
      rw [List.map_cons, List.flatten_cons, ← List.append_assoc] at cut
      have others := ih (front ++ lexeme.value) source cut
      have behind : source.lineAt (front.length + lexeme.value.length) =
          source.lineAt front.length + Text.newlines lexeme.value := by
        rw [cut, Text.lineAt_behind]
      rw [List.length_append, behind] at others
      simp only [significantFrom, others, lexeme.isSignificant_iff, Lexer.placeFrom,
        List.filter_cons, decide_eq_true_eq]
      split <;> rfl

end Token

/-- The lines of tokens, counted over the values of all lexemes. -/
theorem Lexer.tokens_eq_significantFrom (source : Text) :
    tokens source = Token.significantFrom 1 (lexemes source) := by
  have counted := Token.significantFrom_eq (lexemes source) [] source (flatten_lexemes source).symm
  exact (tiles_placed source).significant_eq.trans counted.symm

end ExportDocs
