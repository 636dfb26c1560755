/-
# ExportDocs.Proofs.Exports.Spans -- where the statements of a module stand

A statement takes the tokens from one position to another, its span (`Segment.spans`).  The spans
part the tokens of a module: they follow one another without overlap, only doc comments stand
between them, and none ends inside brackets (`PartedBy`).  A comment directly above a statement
therefore belongs to no other one, and reading the statements amounts to reading each span with the
comment before it (`readSpan`).

All of this comes from two facts about cutting: a statement begins with a token that is no comment,
and if tokens are left after it, it ends outside brackets and not with a comment (`WellCut`).
-/
import ExportDocs.Proofs.Exports.Segments

namespace ExportDocs

set_option autoImplicit false

/-- The positions of the first and the last token of a statement. -/
structure Span where
  first : Nat
  last : Nat
  deriving DecidableEq, Repr

namespace Span

/-- Whether a position lies in the span. -/
def Covers (span : Span) (i : Nat) : Prop := span.first ≤ i ∧ i ≤ span.last

/-- The span after `count` more tokens. -/
def shift (count : Nat) (span : Span) : Span := ⟨count + span.first, count + span.last⟩

/-- The tokens of the span. -/
def slice (span : Span) (tokens : List Token) : List Token :=
  (tokens.drop span.first).take (span.last + 1 - span.first)

end Span

namespace Segment

/-- The number of tokens in segments. -/
def width (segments : List Segment) : Nat := (segments.flatMap tokens).length

/-- The spans of the statements among segments, the first of which begins at `start`. -/
def spansFrom (start : Nat) : List Segment → List Span
  | [] => []
  | .doc _ :: rest => spansFrom (start + 1) rest
  | .statement _ more :: rest =>
    ⟨start, start + more.length⟩ :: spansFrom (start + (more.length + 1)) rest

/-- The spans of the statements of a module. -/
def spans (tokens : List Token) : List Span := spansFrom 0 (split tokens)

/-- The spans part the tokens into statements and the comments between them. -/
structure PartedBy (tokens : List Token) (spans : List Span) : Prop where
  /-- No span is empty, and none reaches past the end. -/
  bounds : ∀ span ∈ spans, span.first ≤ span.last ∧ span.last < tokens.length
  /-- Each span ends before the next one begins. -/
  apart : spans.Pairwise fun span next => span.last < next.first
  /-- A token that belongs to no span is a doc comment. -/
  between : ∀ i token, tokens[i]? = some token → (∀ span ∈ spans, ¬ span.Covers i) →
    token.isDoc = true
  /-- No span begins with a doc comment. -/
  begins : ∀ span ∈ spans, ∀ token, tokens[span.first]? = some token → token.isDoc = false
  /-- A doc comment directly above a span belongs to no span. -/
  above : ∀ span ∈ spans, ∀ i token, i + 1 = span.first → tokens[i]? = some token →
    token.isDoc = true → ∀ other ∈ spans, ¬ other.Covers i
  /-- What stands directly above a span stands above no other one. -/
  alone : ∀ span ∈ spans, ∀ other ∈ spans, span.first = other.first → span = other
  /-- A span before the end leaves no bracket open. -/
  closed : ∀ span ∈ spans, span.last + 1 < tokens.length → depth (span.slice tokens) = 0

/-! ## The end of a statement -/

/-- What the next token can do to a statement: end it as a semicolon, end it as the first token of
another one, or be a token of it. -/
inductive Step (depth : Nat) (previous token : Token) (rest : List Token) : Prop
  | stop (outside : isOutside depth token = true) (mark : token.isMark ';' = true)
      (reads : statementRest depth previous (token :: rest) = ([token], rest))
  | boundary (outside : isOutside depth token = true)
      (reads : statementRest depth previous (token :: rest) = ([], token :: rest))
  | goesOn
      (inside : isOutside depth token = true → token.isMark ';' = false ∧ token.isDoc = false)
      (reads : statementRest depth previous (token :: rest) =
        (token :: (statementRest (depthAfter depth token) token rest).1,
          (statementRest (depthAfter depth token) token rest).2))

theorem step (depth : Nat) (previous token : Token) (rest : List Token) :
    Step depth previous token rest := by
  by_cases outside : isOutside depth token = true
  · by_cases mark : token.isMark ';' = true
    · exact .stop outside mark (statementRest_stop outside mark)
    · have mark := Bool.eq_false_iff.2 mark
      by_cases boundary : isBoundary previous token rest.head? = true
      · exact .boundary outside (statementRest_boundary outside mark boundary)
      · have boundary := Bool.eq_false_iff.2 boundary
        refine .goesOn (fun _ => ⟨mark, ?_⟩) (statementRest_goesOn fun _ => ⟨mark, boundary⟩)
        rw [isBoundary, Bool.or_eq_false_iff] at boundary
        exact boundary.1
  · exact .goesOn (fun inside => absurd inside outside)
      (statementRest_goesOn fun inside => absurd inside outside)

/-- If tokens are left after a statement, it has closed its brackets, and its last token is no doc
comment. -/
theorem statementRest_closed {depth : Nat} {previous : Token} {all : List Token}
    (left : (statementRest depth previous all).2 ≠ []) :
    depthFrom depth (statementRest depth previous all).1 = 0 ∧
      ∀ last ∈ (statementRest depth previous all).1.getLast?, last.isDoc = false := by
  induction all generalizing depth previous with
  | nil => exact absurd rfl left
  | cons token rest ih =>
      cases step depth previous token rest with
      | stop outside mark reads =>
          obtain ⟨rfl, plain⟩ := isOutside_iff.1 outside
          rw [reads]
          constructor
          · simp [depthAfter_plain plain]
          · intro last member
            obtain rfl : token = last := by simpa using member
            refine Bool.eq_false_iff.2 fun doc => ?_
            rw [Token.isMark_of_isDoc doc] at mark
            cases mark
      | boundary outside reads =>
          obtain ⟨rfl, -⟩ := isOutside_iff.1 outside
          simp [reads]
      | goesOn inside reads =>
          rw [reads] at left ⊢
          obtain ⟨closed, ends⟩ := ih left
          refine ⟨closed, fun last member => ?_⟩
          cases more : (statementRest (depthAfter depth token) token rest).1 with
          | cons second others =>
              refine ends last ?_
              simpa [more] using member
          | nil =>
              -- A comment leaves the depth as it is, so it would have ended the statement itself.
              obtain rfl : token = last := by simpa [more] using member
              refine Bool.eq_false_iff.2 fun doc => ?_
              have plain := Token.plain_of_isDoc doc
              rw [more, depthFrom_nil, depthAfter_plain plain] at closed
              have other := (inside (isOutside_iff.2 ⟨closed, plain⟩)).2
              rw [doc] at other
              cases other

theorem statementFrom_closed {first : Token} {rest : List Token} (notDoc : first.isDoc = false)
    (left : (statementFrom first rest).2 ≠ []) :
    depth (first :: (statementFrom first rest).1) = 0 ∧
      ∀ last ∈ (first :: (statementFrom first rest).1).getLast?, last.isDoc = false := by
  unfold statementFrom at left ⊢
  split
  · rename_i stops
    obtain ⟨outside, -⟩ := Bool.and_eq_true_iff.1 stops
    obtain ⟨-, plain⟩ := isOutside_iff.1 outside
    simp [depth, depthAfter_plain plain, notDoc]
  · rename_i goesOn
    rw [if_neg goesOn] at left
    obtain ⟨closed, ends⟩ := statementRest_closed left
    refine ⟨closed, fun last member => ?_⟩
    cases inside : (statementRest (depthAfter 0 first) first rest).1 with
    | nil =>
        obtain rfl : first = last := by simpa [inside] using member
        exact notDoc
    | cons second others =>
        refine ends last ?_
        simpa [inside] using member

/-- What cutting promises of its segments: the comments are comments, no statement begins with one,
and a statement before the end has closed its brackets and does not end with a comment. -/
def WellCut : List Segment → Prop
  | [] => True
  | .doc comment :: rest => comment.isDoc = true ∧ WellCut rest
  | .statement first more :: rest =>
    first.isDoc = false ∧
      (rest ≠ [] → depth (first :: more) = 0 ∧
        ∀ last ∈ (first :: more).getLast?, last.isDoc = false) ∧
      WellCut rest

theorem wellCut_split (all : List Token) : WellCut (split all) := by
  fun_induction split all with
  | case1 => trivial
  | case2 token rest doc ih => exact ⟨doc, ih⟩
  | case3 token rest notDoc ih =>
      refine ⟨Bool.eq_false_iff.2 notDoc, fun left => ?_, ih⟩
      refine statementFrom_closed (Bool.eq_false_iff.2 notDoc) fun none => left ?_
      rw [none, split]

theorem WellCut.drop {before after : List Segment} (cut : WellCut (before ++ after)) :
    WellCut after := by
  induction before with
  | nil => exact cut
  | cons segment before ih =>
      cases segment with
      | doc comment => exact ih cut.2
      | statement first more => exact ih cut.2.2

theorem depthFrom_append (depth : Nat) (tokens others : List Token) :
    depthFrom depth (tokens ++ others) = depthFrom (depthFrom depth tokens) others :=
  List.foldl_append

/-- Before a segment no bracket is open. -/
theorem WellCut.depth_before {before after : List Segment} {segment : Segment}
    (cut : WellCut (before ++ segment :: after)) : depth (before.flatMap tokens) = 0 := by
  induction before with
  | nil => rfl
  | cons other before ih =>
      cases other with
      | doc comment =>
          obtain ⟨isDoc, cut⟩ := cut
          rw [List.flatMap_cons, tokens, List.singleton_append, depth, depthFrom_cons,
            depthAfter_plain (Token.plain_of_isDoc isDoc)]
          exact ih cut
      | statement first more =>
          obtain ⟨-, ends, cut⟩ := cut
          have closed := (ends (List.append_ne_nil_of_right_ne_nil _ (List.cons_ne_nil _ _))).1
          rw [List.flatMap_cons, tokens, depth, depthFrom_append, ← depth, closed]
          exact ih cut

/-! ## Spans of segments -/

theorem flatMap_tokens_split (all : List Token) : (split all).flatMap tokens = all := by
  rw [List.flatMap_def, flatten_split]

@[simp] theorem width_nil : width [] = 0 := rfl

theorem width_cons (segment : Segment) (rest : List Segment) :
    width (segment :: rest) = segment.tokens.length + width rest := by
  simp [width]

theorem width_append (segments others : List Segment) :
    width (segments ++ others) = width segments + width others := by
  simp [width]

/-- The spans of more segments begin after the tokens of those before. -/
theorem spansFrom_append (segments others : List Segment) :
    ∀ start, spansFrom start (segments ++ others) =
      spansFrom start segments ++ spansFrom (start + width segments) others := by
  induction segments with
  | nil => exact fun _ => rfl
  | cons segment rest ih =>
      intro start
      rw [width_cons, ← Nat.add_assoc]
      cases segment with
      | doc comment => exact ih _
      | statement first more => exact congrArg (List.cons _) (ih _)

/-- A span belongs to a statement and begins after the tokens of the segments before it. -/
theorem exists_statement {segments : List Segment} {start : Nat} {span : Span}
    (member : span ∈ spansFrom start segments) : ∃ before first more after,
      segments = before ++ .statement first more :: after ∧
        span = ⟨start + width before, start + width before + more.length⟩ := by
  induction segments generalizing start with
  | nil => cases member
  | cons segment rest ih =>
      cases segment with
      | doc comment =>
          obtain ⟨before, first, more, after, rfl, rfl⟩ := ih member
          refine ⟨.doc comment :: before, first, more, after, rfl, ?_⟩
          rw [width_cons, ← Nat.add_assoc]
          rfl
      | statement token others =>
          rcases List.mem_cons.1 member with rfl | later
          · exact ⟨[], token, others, rest, rfl, rfl⟩
          · obtain ⟨before, first, more, after, rfl, rfl⟩ := ih later
            refine ⟨.statement token others :: before, first, more, after, rfl, ?_⟩
            rw [width_cons, Nat.add_assoc start (others.length + 1)]
            rfl

theorem mem_spansFrom (start : Nat) (before after : List Segment) (first : Token)
    (more : List Token) :
    ⟨start + width before, start + width before + more.length⟩ ∈
      spansFrom start (before ++ .statement first more :: after) := by
  rw [spansFrom_append]
  exact List.mem_append_right _ List.mem_cons_self

/-- Spans begin where the segments begin or later. -/
theorem le_first {segments : List Segment} {start : Nat} {span : Span}
    (member : span ∈ spansFrom start segments) : start ≤ span.first := by
  obtain ⟨before, first, more, after, -, rfl⟩ := exists_statement member
  exact Nat.le_add_right _ _

theorem pairwise_spansFrom (segments : List Segment) :
    ∀ start, (spansFrom start segments).Pairwise fun span next => span.last < next.first := by
  induction segments with
  | nil => exact fun _ => .nil
  | cons segment rest ih =>
      intro start
      cases segment with
      | doc comment => exact ih _
      | statement first more =>
          refine List.pairwise_cons.2 ⟨fun next member => ?_, ih _⟩
          have := le_first member
          show start + more.length < next.first
          omega

theorem spansFrom_shift (segments : List Segment) (count : Nat) :
    ∀ start, spansFrom (count + start) segments =
      (spansFrom start segments).map (Span.shift count) := by
  induction segments with
  | nil => exact fun _ => rfl
  | cons segment rest ih =>
      intro start
      cases segment with
      | doc comment =>
          rw [spansFrom, spansFrom, ← ih]
          rfl
      | statement first more =>
          rw [spansFrom, spansFrom, List.map_cons, ← ih, Span.shift]
          simp only [Nat.add_assoc]

/-! ## Positions -/

/-- Every position lies in one segment. -/
theorem exists_segment {segments : List Segment} {i : Nat} (inside : i < width segments) :
    ∃ before segment after, segments = before ++ segment :: after ∧ width before ≤ i ∧
      i < width before + segment.tokens.length := by
  induction segments generalizing i with
  | nil => exact absurd inside (Nat.not_lt_zero i)
  | cons segment rest ih =>
      by_cases here : i < segment.tokens.length
      · exact ⟨[], segment, rest, rfl, Nat.zero_le i, by rwa [width_nil, Nat.zero_add]⟩
      · rw [width_cons] at inside
        obtain ⟨before, other, after, rfl, low, high⟩ :=
          @ih (i - segment.tokens.length) (by omega)
        refine ⟨segment :: before, other, after, rfl, ?_, ?_⟩
        · rw [width_cons]
          omega
        · rw [width_cons]
          omega

/-- The tokens of a segment stand after those of the segments before it. -/
theorem getElem?_segment (before after : List Segment) (segment : Segment) {i : Nat}
    (inside : i < segment.tokens.length) :
    ((before ++ segment :: after).flatMap tokens)[width before + i]? = segment.tokens[i]? := by
  rw [List.flatMap_append, List.flatMap_cons, width,
    List.getElem?_append_right (Nat.le_add_right _ i), Nat.add_sub_cancel_left,
    List.getElem?_append_left inside]

theorem slice_statement (before after : List Segment) (first : Token) (more : List Token) :
    Span.slice ⟨width before, width before + more.length⟩
      ((before ++ .statement first more :: after).flatMap tokens) = first :: more := by
  have count : width before + more.length + 1 - width before = (first :: more).length := by
    rw [List.length_cons]
    omega
  rw [Span.slice, List.flatMap_append, List.flatMap_cons, width, List.drop_left, ← width, count]
  exact List.take_left

/-- No span reaches a comment between statements. -/
theorem not_covers_doc {before after : List Segment} {comment : Token} {span : Span}
    (member : span ∈ spansFrom 0 (before ++ .doc comment :: after)) :
    ¬ span.Covers (width before) := by
  intro covers
  obtain ⟨before', first, more, after', cut, rfl⟩ := exists_statement member
  obtain ⟨low, high⟩ := covers
  have low : width before' ≤ width before := by simpa using low
  have high : width before ≤ width before' + more.length := by simpa using high
  have same : before = before' := by
    refine segments_unique cut ?_ ?_
    · show width before < width before' + (first :: more).length
      rw [List.length_cons]
      omega
    · show width before' < width before + 1
      omega
  rw [same, List.append_cancel_left_eq] at cut
  cases cut

theorem bounds_spansFrom {segments : List Segment} {span : Span}
    (member : span ∈ spansFrom 0 segments) :
    span.first ≤ span.last ∧ span.last < (segments.flatMap tokens).length := by
  obtain ⟨before, first, more, after, rfl, rfl⟩ := exists_statement member
  have total := width_append before (.statement first more :: after)
  rw [width_cons, tokens, List.length_cons] at total
  constructor
  · exact Nat.le_add_right _ _
  · show 0 + width before + more.length < width (before ++ .statement first more :: after)
    omega

/-- A span is determined by its first position. -/
theorem eq_of_first_eq {segments : List Segment} {span other : Span}
    (member : span ∈ spansFrom 0 segments) (otherMember : other ∈ spansFrom 0 segments)
    (same : span.first = other.first) : span = other := by
  obtain ⟨before, first, more, after, cutHere, rfl⟩ := exists_statement member
  obtain ⟨before', first', more', after', cutThere, rfl⟩ := exists_statement otherMember
  have same : width before = width before' := by simpa using same
  have fronts : before = before' := by
    refine segments_unique (cutHere.symm.trans cutThere) ?_ ?_
    · show width before < width before' + (first' :: more').length
      rw [List.length_cons]
      omega
    · show width before' < width before + (first :: more).length
      rw [List.length_cons]
      omega
  rw [cutHere, fronts, List.append_cancel_left_eq] at cutThere
  cases cutThere
  rw [fronts]

section WellCut

variable {segments : List Segment} (cut : WellCut segments)

include cut

/-- A token of no span is a segment of its own. -/
theorem WellCut.isDoc_between {i : Nat} {token : Token}
    (found : (segments.flatMap tokens)[i]? = some token)
    (free : ∀ span ∈ spansFrom 0 segments, ¬ span.Covers i) : token.isDoc = true := by
  obtain ⟨inside, -⟩ := List.getElem?_eq_some_iff.1 found
  obtain ⟨before, segment, after, rfl, low, high⟩ := exists_segment inside
  obtain ⟨j, rfl⟩ := Nat.exists_eq_add_of_le low
  have within : j < segment.tokens.length := by omega
  rw [getElem?_segment before after segment within] at found
  cases segment with
  | doc comment =>
      have isDoc : comment.isDoc = true := cut.drop.1
      obtain rfl : j = 0 := Nat.lt_one_iff.1 within
      obtain rfl : comment = token := by simpa [tokens] using found
      exact isDoc
  | statement first more =>
      refine absurd ?_ (free _ (mem_spansFrom 0 before after first more))
      have short : j < more.length + 1 := within
      constructor
      · show 0 + width before ≤ width before + j
        omega
      · show width before + j ≤ 0 + width before + more.length
        omega

theorem WellCut.isDoc_first {span : Span} (member : span ∈ spansFrom 0 segments) {token : Token}
    (found : (segments.flatMap tokens)[span.first]? = some token) : token.isDoc = false := by
  obtain ⟨before, first, more, after, rfl, rfl⟩ := exists_statement member
  have notDoc : first.isDoc = false := cut.drop.1
  rw [Nat.zero_add] at found
  have here := getElem?_segment before after (.statement first more) (Nat.zero_lt_succ _)
  rw [Nat.add_zero, found] at here
  obtain rfl : token = first := by simpa [tokens] using here
  exact notDoc

/-- The segment before a statement is a comment, or a statement that does not end with one. -/
theorem WellCut.not_covers_above {span : Span} (member : span ∈ spansFrom 0 segments) {i : Nat}
    (next : i + 1 = span.first) {token : Token}
    (found : (segments.flatMap tokens)[i]? = some token) (isDoc : token.isDoc = true)
    {other : Span} (otherMember : other ∈ spansFrom 0 segments) : ¬ other.Covers i := by
  obtain ⟨before, first, more, after, rfl, rfl⟩ := exists_statement member
  have next : i + 1 = width before := by simpa using next
  rcases List.eq_nil_or_concat before with rfl | ⟨front, segment, rfl⟩
  · exact absurd next (Nat.succ_ne_zero i)
  · rw [List.concat_eq_append, List.append_assoc, List.singleton_append] at *
    rw [width_append, width_cons, width_nil] at next
    cases segment with
    | doc comment =>
        obtain rfl : i = width front := Nat.succ.inj next
        exact not_covers_doc otherMember
    | statement previous others =>
        -- The statement before ends with the token in question, which is no comment.
        have ends := (cut.drop.2.1 (List.cons_ne_nil _ _)).2
        obtain rfl : i = width front + others.length := Nat.succ.inj next
        have last := getElem?_segment front (.statement first more :: after)
          (.statement previous others) (Nat.lt_succ_self others.length)
        rw [found] at last
        have final : token ∈ (previous :: others).getLast? := by
          rw [List.getLast?_eq_getElem?]
          exact last.symm
        rw [ends token final] at isDoc
        cases isDoc

theorem WellCut.depth_slice {span : Span} (member : span ∈ spansFrom 0 segments)
    (short : span.last + 1 < (segments.flatMap tokens).length) :
    depth (span.slice (segments.flatMap tokens)) = 0 := by
  obtain ⟨before, first, more, after, rfl, rfl⟩ := exists_statement member
  have left : after ≠ [] := by
    rintro rfl
    have total := width_append before [.statement first more]
    rw [width_cons, width_nil, tokens, List.length_cons] at total
    change 0 + width before + more.length + 1 < width (before ++ [.statement first more]) at short
    omega
  rw [Nat.zero_add, slice_statement]
  exact (cut.drop.2.1 left).1

/-- **Segments that are well cut part their tokens.** -/
theorem WellCut.partedBy : PartedBy (segments.flatMap tokens) (spansFrom 0 segments) where
  bounds _ member := bounds_spansFrom member
  apart := pairwise_spansFrom segments 0
  between _ _ found free := cut.isDoc_between found free
  begins _ member _ found := cut.isDoc_first member found
  above _ member _ _ next found isDoc _ otherMember :=
    cut.not_covers_above member next found isDoc otherMember
  alone _ member _ otherMember same := eq_of_first_eq member otherMember same
  closed _ member short := cut.depth_slice member short

end WellCut

end Segment

/-! ## Reading a span -/

namespace Outline

/-- The token before a position, if it is a doc comment. -/
def docBefore (tokens : List Token) (i : Nat) : Option Token :=
  (tokens.take i).getLast?.filter Token.isDoc

/-- The record of the statement that takes a span. -/
def readSpan (path undocumented : Text) (tokens : List Token) (span : Span) :
    Except ExtractFault Record :=
  match tokens.drop span.first with
  | [] => .ok {}
  | first :: rest =>
    Record.read path undocumented (docBefore tokens span.first) first
      (rest.take (span.last - span.first)) rest.head?

theorem readSpan_statement (path undocumented : Text) (front : List Token) (first : Token)
    (more rest : List Token) :
    readSpan path undocumented (front ++ first :: (more ++ rest))
        ⟨front.length, front.length + more.length⟩ =
      Record.read path undocumented (front.getLast?.filter Token.isDoc) first more
        (more ++ rest).head? := by
  rw [readSpan]
  dsimp only
  rw [List.drop_left, docBefore, List.take_left]
  dsimp only
  rw [Nat.add_sub_cancel_left, List.take_left]

/-- The tokens of a span are a statement among the segments, which is read with what stands around
it. -/
theorem exists_readSpan {tokens : List Token} {span : Span} (member : span ∈ Segment.spans tokens) :
    ∃ before first more after, Segment.split tokens = before ++ .statement first more :: after ∧
      span.slice tokens = first :: more ∧ ∀ path undocumented,
        readSpan path undocumented tokens span =
          Record.read path undocumented ((before.flatMap Segment.tokens).getLast?.filter Token.isDoc)
            first more (more ++ after.flatMap Segment.tokens).head? := by
  obtain ⟨before, first, more, after, parts, rfl⟩ := Segment.exists_statement member
  have whole : (before ++ .statement first more :: after).flatMap Segment.tokens = tokens := by
    rw [← parts, Segment.flatMap_tokens_split]
  have joined : before.flatMap Segment.tokens ++ first :: (more ++ after.flatMap Segment.tokens) =
      tokens := by
    rw [← whole, List.flatMap_append, List.flatMap_cons]
    rfl
  have slice := Segment.slice_statement before after first more
  rw [whole, ← Nat.zero_add (Segment.width before)] at slice
  refine ⟨before, first, more, after, parts, slice, fun path undocumented => ?_⟩
  have read := readSpan_statement path undocumented (before.flatMap Segment.tokens) first more
    (after.flatMap Segment.tokens)
  rwa [joined, ← Segment.width, ← Nat.zero_add (Segment.width before)] at read

theorem firstToken_eq (segments : List Segment) :
    firstToken segments = (segments.flatMap Segment.tokens).head? := by
  rcases segments with _ | ⟨_ | _, _⟩ <;> rfl

/-- Reading segments one after the other is reading each span, `front` being what stands before. -/
theorem readSegments_eq_mapM (path undocumented : Text) {segments : List Segment}
    (cut : Segment.WellCut segments) : ∀ (front : List Token) (doc : Option Token),
      (segments ≠ [] → doc = front.getLast?.filter Token.isDoc) →
      readSegments path undocumented doc segments =
        (Segment.spansFrom front.length segments).mapM
          (readSpan path undocumented (front ++ segments.flatMap Segment.tokens)) := by
  induction segments with
  | nil => exact fun _ _ _ => rfl
  | cons segment rest ih =>
      intro front doc above
      cases segment with
      | doc comment =>
          obtain ⟨isDoc, cut⟩ := cut
          have next := ih cut (front ++ [comment]) (some comment) fun _ => by
            simp [Option.filter, isDoc]
          rw [readSegments, next]
          simp [Segment.spansFrom, Segment.tokens]
      | statement first more =>
          obtain ⟨-, ends, cut⟩ := cut
          have next := ih cut (front ++ first :: more) none fun left => by
            have last := (ends left).2
            cases final : (first :: more).getLast? with
            | none => simp at final
            | some token => simp [Option.filter, final, last token final]
          have here := readSpan_statement path undocumented front first more
            (rest.flatMap Segment.tokens)
          rw [List.head?_append, ← firstToken_eq, ← above (List.cons_ne_nil _ _)] at here
          rw [readSegments, next, Segment.spansFrom, List.flatMap_cons, Segment.tokens,
            List.cons_append, List.mapM_cons, here]
          simp

/-- The statements of a module are read off the spans. -/
theorem readSegments_split (path undocumented : Text) (tokens : List Token) :
    readSegments path undocumented none (Segment.split tokens) =
      (Segment.spans tokens).mapM (readSpan path undocumented tokens) := by
  have read := readSegments_eq_mapM path undocumented (Segment.wellCut_split tokens) [] none
    fun _ => rfl
  rwa [Segment.flatMap_tokens_split] at read

theorem exists_of_isOk {ε : Type} {outcome : Except ε Outline} (isOk : outcome.isOk = true) :
    ∃ outline, outcome = .ok outline := by
  cases outcome with
  | error fault => cases isOk
  | ok outline => exact ⟨outline, rfl⟩

theorem ofTokens_eq_ok_iff {path undocumented : Text} {tokens : List Token} {outline : Outline} :
    ofTokens path undocumented tokens = .ok outline ↔ ∃ records,
      readSegments path undocumented none (Segment.split tokens) = .ok records ∧
        outline = { path, undocumented, records } := by
  unfold ofTokens
  cases readSegments path undocumented none (Segment.split tokens) with
  | error fault => simp [bind, Except.bind]
  | ok records =>
      simp only [bind, Except.bind, pure, Except.pure, Except.ok.injEq, exists_eq_left']
      exact eq_comm

/-- The records of an outline are read off the spans, one off each. -/
theorem records_eq_mapM {path undocumented source : Text} {outline : Outline}
    (outlined : ofSource path undocumented source = .ok outline) :
    (Segment.spans (Lexer.tokens source)).mapM
      (readSpan path undocumented (Lexer.tokens source)) = .ok outline.records := by
  obtain ⟨records, read, rfl⟩ := ofTokens_eq_ok_iff.1 outlined
  rw [← readSegments_split, read]

section Items

variable {ε α β : Type} {f : α → Except ε β} {item : α} {items : List α} {results : List β}

/-- If reading items does not fail, neither does reading the first one or the others. -/
theorem exists_of_mapM_cons (run : (item :: items).mapM f = .ok results) :
    ∃ result others, f item = .ok result ∧ items.mapM f = .ok others ∧
      results = result :: others := by
  rw [List.mapM_cons] at run
  cases here : f item with
  | error fault =>
      rw [here] at run
      cases run
  | ok result =>
      cases there : items.mapM f with
      | error fault =>
          rw [here, there] at run
          cases run
      | ok others =>
          rw [here, there] at run
          cases run
          exact ⟨result, others, rfl, rfl, rfl⟩

theorem exists_of_mapM (run : items.mapM f = .ok results) (member : item ∈ items) :
    ∃ result ∈ results, f item = .ok result := by
  induction items generalizing results with
  | nil => cases member
  | cons first items ih =>
      obtain ⟨result, others, here, there, rfl⟩ := exists_of_mapM_cons run
      rcases List.mem_cons.1 member with rfl | later
      · exact ⟨result, List.mem_cons_self, here⟩
      · obtain ⟨result', among, found⟩ := ih there later
        exact ⟨result', List.mem_cons_of_mem _ among, found⟩

end Items

end Outline

/-- **The spans of the statements part the tokens of a module, and the statements are read off
them.**  They are non-empty, follow one another, leave out doc comments only and never end inside
brackets; the comment that a statement is read with is the token before its span, which belongs to
no statement and stands above this one only. -/
theorem spans_part_tokens (tokens : List Token) :
    Segment.PartedBy tokens (Segment.spans tokens) ∧
      ∀ path undocumented : Text,
        Outline.readSegments path undocumented none (Segment.split tokens) =
          (Segment.spans tokens).mapM (Outline.readSpan path undocumented tokens) := by
  constructor
  · have parted := (Segment.wellCut_split tokens).partedBy
    rwa [Segment.flatMap_tokens_split] at parted
  · intro path undocumented
    exact Outline.readSegments_split path undocumented tokens

end ExportDocs
