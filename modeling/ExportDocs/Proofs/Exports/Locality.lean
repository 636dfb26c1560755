/-
# ExportDocs.Proofs.Exports.Locality -- a semicolon parts a module

A semicolon outside brackets ends its statement, whatever comes after it.  So tokens whose last
statement ends with such a semicolon are cut as they are cut alone, and the tokens after them as if
nothing stood before (`split_append_of_stop`).  Their statements are read alike on both sides of the
seam: the look ahead of one token stops at the semicolon, and no comment above the seam reaches
across it.
-/
import ExportDocs.Proofs.Exports.Spans

namespace ExportDocs

set_option autoImplicit false

namespace Segment

/-- The last statement ends with the last token, which is a semicolon outside brackets. -/
def EndsWithStop (tokens : List Token) : Prop :=
  ∃ span stop, (spans tokens).getLast? = some span ∧ span.last + 1 = tokens.length ∧
    tokens.getLast? = some stop ∧ stop.isMark ';' = true ∧ depth (span.slice tokens) = 0

/-! ## The semicolon -/

/-- Nothing follows a semicolon outside brackets in its statement. -/
theorem statementRest_stops {depth : Nat} {previous stop : Token} {all inside rest : List Token}
    (cut : (statementRest depth previous all).1 = inside ++ stop :: rest)
    (mark : stop.isMark ';' = true) (outside : depthFrom depth inside = 0) : rest = [] := by
  induction all generalizing depth previous inside with
  | nil => cases inside <;> cases cut
  | cons token all ih =>
      cases step depth previous token all with
      | stop _ _ reads =>
          rw [reads] at cut
          cases inside with
          | nil => exact (List.cons.inj cut).2.symm
          | cons second inside => cases inside <;> cases (List.cons.inj cut).2
      | boundary _ reads =>
          rw [reads] at cut
          cases inside <;> cases cut
      | goesOn goesOn reads =>
          rw [reads] at cut
          cases inside with
          | nil =>
              obtain ⟨rfl, -⟩ := List.cons.inj cut
              have plain := Token.plain_of_isMark mark (by decide)
              have other := (goesOn (isOutside_iff.2 ⟨outside, plain⟩)).1
              rw [mark] at other
              cases other
          | cons second inside =>
              obtain ⟨rfl, later⟩ := List.cons.inj cut
              exact ih later outside

theorem statement_stops {all : List Token} {first stop : Token} {more inside rest : List Token}
    (member : .statement first more ∈ split all) (cut : first :: more = inside ++ stop :: rest)
    (mark : stop.isMark ';' = true) (outside : depth inside = 0) : rest = [] := by
  fun_induction split all with
  | case1 => cases member
  | case2 token tail doc ih =>
      rcases List.mem_cons.1 member with here | later
      · cases here
      · exact ih later
  | case3 token tail notDoc ih =>
      rcases List.mem_cons.1 member with here | later
      · cases here
        cases inside with
        | nil =>
            obtain ⟨rfl, more⟩ := List.cons.inj cut
            have plain := Token.plain_of_isMark mark (by decide)
            rw [← more, statementFrom, isOutside_iff.2 ⟨rfl, plain⟩, mark]
            rfl
        | cons second inside =>
            obtain ⟨rfl, later⟩ := List.cons.inj cut
            by_cases stops : (isOutside 0 first && first.isMark ';') = true
            · rw [statementFrom, if_pos stops] at later
              cases inside <;> cases later
            · rw [statementFrom, if_neg stops] at later
              exact statementRest_stops later mark outside
      · exact ih later

/-! ## The seam -/

theorem eq_nil_of_width {segments : List Segment} (empty : width segments = 0) :
    segments = [] := by
  cases segments with
  | nil => rfl
  | cons segment rest =>
      rw [width_cons] at empty
      cases segment with
      | doc comment => simp [tokens] at empty
      | statement first more => simp [tokens] at empty

/-- What the last segment is if the last statement ends with the last token. -/
theorem EndsWithStop.exists_last {all : List Token} (ends : EndsWithStop all) :
    ∃ before first inside stop, split all = before ++ [.statement first inside] ∧
      all.getLast? = some stop ∧ (first :: inside).getLast? = some stop ∧
      stop.isMark ';' = true ∧ depth (first :: inside) = 0 := by
  obtain ⟨span, stop, isLast, reaches, final, mark, outside⟩ := ends
  obtain ⟨before, first, inside, after, cut, rfl⟩ :=
    exists_statement (List.mem_of_getLast? isLast)
  have whole := flatMap_tokens_split all
  have total : width (split all) = all.length := by rw [width, whole]
  have none : after = [] := by
    refine eq_nil_of_width ?_
    rw [cut, width_append, width_cons, tokens, List.length_cons] at total
    change 0 + width before + inside.length + 1 = all.length at reaches
    omega
  subst none
  refine ⟨before, first, inside, stop, cut, final, ?_, mark, ?_⟩
  · rw [← whole, cut, List.flatMap_append, List.getLast?_append] at final
    simpa [tokens] using final
  · rw [← whole, cut, Nat.zero_add, slice_statement] at outside
    exact outside

/-- **Tokens that end with a semicolon outside brackets are cut alone, and so are those after
them.** -/
theorem split_append_of_stop {front : List Token} (ends : EndsWithStop front)
    (back : List Token) : split (front ++ back) = split front ++ split back := by
  obtain ⟨before, first, inside, stop, cut, final, last, mark, outside⟩ := ends.exists_last
  -- A semicolon asks nothing of the token after it.
  have follows : ∀ (depth : Nat) (rest : List Token), Follows front depth none rest := by
    intro depth rest
    refine .inr fun token member => ?_
    obtain rfl : stop = token := Option.some.inj (final.symm.trans member)
    have punctuation : stop.isPunctuation = true := (Bool.and_eq_true_iff.1 mark).1
    simp [isStarter, punctuation]
  rcases split_append_cases none front with
    ⟨segments, completes⟩ | ⟨segments, other, within, leaves⟩
  · have alone := completes.split [] (follows _ _)
    rw [List.append_nil, split, List.append_nil] at alone
    rw [alone]
    exact completes.split back (follows _ _)
  · -- A statement that is still open could go on with a second semicolon.
    have alone := leaves.split [] (follows _ _)
    rw [List.append_nil, statementRest, split, List.append_nil, cut] at alone
    obtain ⟨-, same⟩ := List.append_inj' alone rfl
    obtain ⟨rfl, rfl⟩ : first = other ∧ inside = within := by simpa using same
    have again := leaves.split [stop] (follows _ _)
    have plain := Token.plain_of_isMark mark (by decide)
    rw [← leaves.depths, outside, statementRest_stop (isOutside_iff.2 ⟨rfl, plain⟩) mark] at again
    have member : .statement first (inside ++ [stop]) ∈ split (front ++ [stop]) := by
      rw [again]
      simp
    obtain ⟨start, eq⟩ := List.getLast?_eq_some_iff.1 last
    have closed : depth start = 0 := by
      rw [eq, depth, depthFrom_append, depthFrom_cons, depthFrom_nil, depthAfter_plain plain]
        at outside
      exact outside
    have whole : first :: (inside ++ [stop]) = start ++ stop :: [stop] := by
      rw [← List.cons_append, eq, List.append_assoc]
      rfl
    cases statement_stops member whole mark closed

end Segment

namespace Outline

/-- The export statements of a module, each with the symbols that it declares where it stands. -/
def exports (outline : Outline) : List (Statement × List Symbol) :=
  outline.records.filterMap fun record =>
    (record.statement.filter (·.form.isExport)).map fun statement => (statement, record.exported)

/-- Segments whose last one is a statement are read as if nothing followed, if the first token of
this statement does not ask what follows the statement. -/
theorem readSegments_append (path undocumented : Text) {first : Token} {more : List Token}
    (blind : more = [] → ∀ following, Segment.isStarter first following = false)
    (others : List Segment) : ∀ (before : List Segment) (doc : Option Token),
      readSegments path undocumented doc (before ++ [.statement first more] ++ others) = (do
        let records ← readSegments path undocumented doc (before ++ [.statement first more])
        let later ← readSegments path undocumented none others
        return records ++ later)
  | [], doc => by
      have same : Record.read path undocumented doc first more
            (more.head?.or (firstToken others)) =
          Record.read path undocumented doc first more (more.head?.or (firstToken [])) := by
        cases more with
        | nil => simp [Record.read, blind rfl]
        | cons second rest => rfl
      have nothing : readSegments path undocumented none [] = pure [] := rfl
      rw [List.nil_append, List.singleton_append, readSegments, readSegments, same, nothing]
      simp
  | .doc comment :: before, doc => by
      rw [List.cons_append, List.cons_append, readSegments, readSegments]
      exact readSegments_append path undocumented blind others before (some comment)
  | .statement token rest :: before, doc => by
      have next : firstToken (before ++ [.statement first more] ++ others) =
          firstToken (before ++ [.statement first more]) := by
        rcases before with _ | ⟨_ | _, _⟩ <;> rfl
      rw [List.cons_append, List.cons_append, readSegments, readSegments, next,
        readSegments_append path undocumented blind others before none]
      simp

/-- The two parts are read one after the other. -/
theorem readSegments_append_of_stop (path undocumented : Text) {front : List Token}
    (ends : Segment.EndsWithStop front) (back : List Token) :
    readSegments path undocumented none (Segment.split (front ++ back)) = (do
      let records ← readSegments path undocumented none (Segment.split front)
      let later ← readSegments path undocumented none (Segment.split back)
      return records ++ later) := by
  obtain ⟨before, first, inside, stop, cut, -, last, mark, -⟩ := ends.exists_last
  have blind : inside = [] → ∀ following, Segment.isStarter first following = false := by
    rintro rfl following
    obtain rfl : first = stop := by simpa using last
    have punctuation : first.isPunctuation = true := (Bool.and_eq_true_iff.1 mark).1
    simp [Segment.isStarter, punctuation]
  rw [Segment.split_append_of_stop ends, cut]
  exact readSegments_append path undocumented blind (Segment.split back) before none

end Outline

/-- **Nothing before a semicolon outside brackets influences how the tokens after it are read.**  If
the last statement of `front` ends with such a semicolon, and with the last token, then the
statements of `front` and `back` together are those of `front` and, further on, those of `back`; and
if both can be read, so can the whole, which records the same statements, exports, symbols with
their documentation, and dumped tokens, one after the other. -/
theorem reading_is_local (front back : List Token) (ends : Segment.EndsWithStop front) :
    Segment.spans (front ++ back) =
      Segment.spans front ++ (Segment.spans back).map (Span.shift front.length) ∧
    ∀ (path undocumented : Text) (first second : Outline),
      Outline.ofTokens path undocumented front = .ok first →
      Outline.ofTokens path undocumented back = .ok second →
      ∃ whole, Outline.ofTokens path undocumented (front ++ back) = .ok whole ∧
        whole.records = first.records ++ second.records ∧
        whole.statements = first.statements ++ second.statements ∧
        whole.exports = first.exports ++ second.exports ∧
        whole.dump = first.dump ++ second.dump := by
  constructor
  · have total : Segment.width (Segment.split front) = front.length := by
      rw [Segment.width, Segment.flatMap_tokens_split]
    rw [Segment.spans, Segment.split_append_of_stop ends, Segment.spansFrom_append, Nat.zero_add,
      total]
    exact congrArg _ (Segment.spansFrom_shift (Segment.split back) front.length 0)
  · intro path undocumented first second here there
    obtain ⟨records, readHere, rfl⟩ := Outline.ofTokens_eq_ok_iff.1 here
    obtain ⟨later, readThere, rfl⟩ := Outline.ofTokens_eq_ok_iff.1 there
    have read := Outline.readSegments_append_of_stop path undocumented ends back
    rw [readHere, readThere] at read
    refine ⟨{ path, undocumented, records := records ++ later },
      Outline.ofTokens_eq_ok_iff.2 ⟨_, read, rfl⟩, rfl, ?_, ?_, ?_⟩
    · exact List.filterMap_append
    · exact List.filterMap_append
    · exact List.flatMap_append

/-- The first part ends with `f(;);`, whose first semicolon stands in brackets; the second one begins
with a doc comment and holds the word `import`, which asks for the token after it. -/
theorem reading_is_local_after_call :
    let word : String → Token := fun t => ⟨.identifier, t.toList, 1⟩
    let mark : String → Token := fun t => ⟨.punctuation, t.toList, 1⟩
    let front := [word "export", word "const", word "a", mark ";", word "f", mark "(", mark ";",
      mark ")", mark ";"]
    let back := [⟨.blockComment, "/** d */".toList, 2⟩, word "export", word "class", word "b",
      word "import", mark "(", mark ")"]
    Segment.EndsWithStop front ∧
    Segment.spans (front ++ back) = [⟨0, 3⟩, ⟨4, 8⟩, ⟨10, 15⟩] ∧
    ∃ first second whole, Outline.ofTokens [] [] front = .ok first ∧
      Outline.ofTokens [] [] back = .ok second ∧
      Outline.ofTokens [] [] (front ++ back) = .ok whole ∧
      whole.records = first.records ++ second.records := by
  intro word mark front back
  have ends : Segment.EndsWithStop front :=
    ⟨⟨4, 8⟩, mark ";", by decide +kernel, by decide, by decide, by decide, by decide⟩
  have here : Segment.spans front = [⟨0, 3⟩, ⟨4, 8⟩] := by decide +kernel
  have there : (Segment.spans back).map (Span.shift front.length) = [⟨10, 15⟩] := by
    decide +kernel
  obtain ⟨spans, reads⟩ := reading_is_local front back ends
  have hereOk : (Outline.ofTokens [] [] front).isOk = true := by decide +kernel
  have thereOk : (Outline.ofTokens [] [] back).isOk = true := by decide +kernel
  obtain ⟨first, readHere⟩ := Outline.exists_of_isOk hereOk
  obtain ⟨second, readThere⟩ := Outline.exists_of_isOk thereOk
  obtain ⟨whole, read, records, -⟩ := reads [] [] first second readHere readThere
  exact ⟨ends, by rw [spans, here, there]; rfl, first, second, whole, readHere, readThere, read,
    records⟩

end ExportDocs
