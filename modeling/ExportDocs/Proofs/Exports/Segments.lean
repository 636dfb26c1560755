/-
# ExportDocs.Proofs.Exports.Segments -- what decides where a statement ends

The tokens of a module are cut into statements from left to right.  A statement never ends inside
brackets, so the brackets that are open in it are those that are open in all tokens before
(`depth`), and the rule that ends it looks at one token more at most.

So what stands at the end of a list of tokens decides how the list is cut whatever comes after it
(`split_append_cases`): a statement is still open there and goes on with the tokens that come, or
all tokens belong to segments that are complete, and the tokens that come are cut on their own.
Inside brackets this holds for any continuation, and outside of them for continuations that begin
with the same token.
-/
import ExportDocs.Exports.Outline

namespace ExportDocs

set_option autoImplicit false

/-! ## Tokens that change nothing -/

namespace Token

theorem isMark_of_code {token : Token} (code : token.isPunctuation = false) (mark : Char) :
    token.isMark mark = false := by
  simp [isMark, code]

theorem plain_of_code {token : Token} (code : token.isPunctuation = false) :
    token.isOpener = false ∧ token.isCloser = false := by
  simp [isOpener, isCloser, isMark_of_code code]

/-- A doc comment is neither a string nor punctuation. -/
theorem code_of_isDoc {token : Token} (doc : token.isDoc = true) :
    token.isString = false ∧ token.isPunctuation = false := by
  have comment : token.type.isComment = true := by
    simp only [isDoc, Lexeme.isDoc, Bool.and_eq_true] at doc
    exact doc.1.1
  unfold isString isPunctuation
  cases type : token.type <;> rw [type] at comment <;> first | exact ⟨rfl, rfl⟩ | cases comment

theorem isMark_of_isDoc {token : Token} (doc : token.isDoc = true) (mark : Char) :
    token.isMark mark = false :=
  isMark_of_code (code_of_isDoc doc).2 mark

theorem value_of_isDoc {token : Token} (doc : token.isDoc = true) :
    ∃ rest, token.value = '/' :: rest := by
  simp only [isDoc, Lexeme.isDoc, Bool.and_eq_true] at doc
  obtain ⟨⟨-, starts⟩, -⟩ := doc
  cases value : token.value with
  | nil => simp [Text.startsWith, value] at starts
  | cons first rest =>
      have same : '/' = first := by
        simp only [Text.startsWith, value, String.reduceToList, List.isPrefixOf_cons_cons,
          Bool.and_eq_true, beq_iff_eq] at starts
        exact starts.1
      exact ⟨rest, by rw [same]⟩

theorem plain_of_isDoc {token : Token} (doc : token.isDoc = true) :
    token.isOpener = false ∧ token.isCloser = false := by
  simp [isOpener, isCloser, isMark_of_isDoc doc]

theorem plain_of_isMark {token : Token} {mark : Char} (marked : token.isMark mark = true)
    (other : mark ∉ ['(', '{', '[', ')', '}', ']']) :
    token.isOpener = false ∧ token.isCloser = false := by
  have value : token.value = [mark] := by
    rw [isMark, Bool.and_eq_true, beq_iff_eq] at marked
    exact marked.2
  simp only [List.mem_cons, List.not_mem_nil, or_false, not_or] at other
  simp [isOpener, isCloser, isMark, value, other]

end Token

namespace Segment

/-! ## Brackets -/

/-- How many brackets are open after some tokens. -/
def depthFrom (depth : Nat) (tokens : List Token) : Nat := tokens.foldl depthAfter depth

/-- How many brackets are open after the tokens at the start of a module. -/
def depth (tokens : List Token) : Nat := depthFrom 0 tokens

@[simp] theorem depthFrom_nil (depth : Nat) : depthFrom depth [] = depth := rfl

@[simp] theorem depthFrom_cons (depth : Nat) (token : Token) (tokens : List Token) :
    depthFrom depth (token :: tokens) = depthFrom (depthAfter depth token) tokens := rfl

theorem depthAfter_plain {token : Token}
    (plain : token.isOpener = false ∧ token.isCloser = false) (depth : Nat) :
    depthAfter depth token = depth := by
  simp [depthAfter, plain]

theorem isOutside_iff {depth : Nat} {token : Token} : isOutside depth token = true ↔
    depth = 0 ∧ token.isOpener = false ∧ token.isCloser = false := by
  simp [isOutside, and_assoc]

theorem isOutside_of_pos {depth : Nat} (inside : 0 < depth) (token : Token) :
    isOutside depth token = false := by
  have other : (depth == 0) = false := beq_eq_false_iff_ne.2 (by omega)
  simp [isOutside, other]

/-! ## One token of a statement -/

section Step

variable {depth : Nat} {previous token : Token} {rest : List Token}

theorem statementRest_stop (outside : isOutside depth token = true)
    (mark : token.isMark ';' = true) :
    statementRest depth previous (token :: rest) = ([token], rest) := by
  simp [statementRest, outside, mark]

theorem statementRest_boundary (outside : isOutside depth token = true)
    (mark : token.isMark ';' = false) (boundary : isBoundary previous token rest.head? = true) :
    statementRest depth previous (token :: rest) = ([], token :: rest) := by
  simp [statementRest, outside, mark, boundary]

theorem statementRest_goesOn
    (goesOn : isOutside depth token = true →
      token.isMark ';' = false ∧ isBoundary previous token rest.head? = false) :
    statementRest depth previous (token :: rest) =
      (token :: (statementRest (depthAfter depth token) token rest).1,
        (statementRest (depthAfter depth token) token rest).2) := by
  cases outside : isOutside depth token with
  | false => simp [statementRest, outside]
  | true => simp [statementRest, outside, goesOn outside]

/-- Inside brackets nothing ends a statement, whatever stands before. -/
theorem statementRest_inside (inside : 0 < depth) :
    statementRest depth previous (token :: rest) =
      (token :: (statementRest (depthAfter depth token) token rest).1,
        (statementRest (depthAfter depth token) token rest).2) :=
  statementRest_goesOn fun outside => by simp [isOutside_of_pos inside] at outside

theorem statementRest_previous (inside : 0 < depth) (other : Token) :
    statementRest depth previous rest = statementRest depth other rest := by
  cases rest with
  | nil => rfl
  | cons token rest => rw [statementRest_inside inside, statementRest_inside inside]

/-- A doc comment outside brackets ends the statement before it. -/
theorem statementRest_doc (doc : token.isDoc = true) :
    statementRest 0 previous (token :: rest) = ([], token :: rest) :=
  statementRest_boundary (isOutside_iff.2 ⟨rfl, Token.plain_of_isDoc doc⟩)
    (Token.isMark_of_isDoc doc ';') (by simp [isBoundary, doc])

end Step

/-! ## Continuations -/

/-- The tokens that come look as if they began with `next`: inside brackets nothing looks at them, and
outside the last token before them only asks whether it begins a statement itself. -/
def Follows (tokens : List Token) (depth : Nat) (next : Option Token) (rest : List Token) : Prop :=
  0 < depth ∨ ∀ last ∈ tokens.getLast?, isStarter last rest.head? = isStarter last next

theorem Follows.of_head {tokens rest : List Token} {depth : Nat} {next : Option Token}
    (same : rest.head? = next) : Follows tokens depth next rest :=
  .inr fun _ _ => by rw [same]

theorem Follows.drop (front : List Token) {tokens : List Token} {depth : Nat} {next : Option Token}
    {rest : List Token} (follows : Follows (front ++ tokens) depth next rest) :
    Follows tokens depth next rest := by
  refine follows.imp_right fun same last member => same last ?_
  rw [List.getLast?_append, Option.mem_def.1 member]
  rfl

/-- **A statement ends before the tokens that come, or it goes on with them.** -/
theorem statementRest_append_cases (next : Option Token) (tokens : List Token) :
    ∀ (depth : Nat) (previous : Token),
      (∃ inside after, tokens = inside ++ after ∧
        depthFrom 0 after = depthFrom depth tokens ∧
        ∀ rest, Follows tokens (depthFrom depth tokens) next rest →
          statementRest depth previous (tokens ++ rest) = (inside, after ++ rest)) ∨
      ∀ rest, Follows tokens (depthFrom depth tokens) next rest →
        statementRest depth previous (tokens ++ rest) =
          (tokens ++ (statementRest (depthFrom depth tokens) (tokens.getLast?.getD previous) rest).1,
            (statementRest (depthFrom depth tokens) (tokens.getLast?.getD previous) rest).2) := by
  induction tokens with
  | nil => exact fun depth previous => .inr fun rest _ => rfl
  | cons token tokens ih =>
      intro depth previous
      -- What the next token is shows in the last one only, and there only outside brackets.
      have sees : isOutside depth token = true → ∀ rest,
          Follows (token :: tokens) (depthFrom depth (token :: tokens)) next rest →
          isBoundary previous token (tokens ++ rest).head? =
            isBoundary previous token (tokens.head?.or next) := by
        intro outside rest follows
        obtain ⟨rfl, plain⟩ := isOutside_iff.1 outside
        cases tokens with
        | cons second others => rfl
        | nil =>
            rcases follows with inside | same
            · simp [depthAfter_plain plain] at inside
            · have same : isStarter token rest.head? = isStarter token next := same token rfl
              simp [isBoundary, same]
      by_cases stops : isOutside depth token = true ∧ token.isMark ';' = true
      · obtain ⟨outside, mark⟩ := stops
        obtain ⟨rfl, plain⟩ := isOutside_iff.1 outside
        refine .inl ⟨[token], tokens, rfl, ?_, fun rest _ => statementRest_stop outside mark⟩
        rw [depthFrom_cons, depthAfter_plain plain]
      · by_cases breaks : isOutside depth token = true ∧
            isBoundary previous token (tokens.head?.or next) = true
        · obtain ⟨outside, boundary⟩ := breaks
          have mark : token.isMark ';' = false := by
            simpa [outside] using stops
          obtain ⟨rfl, -⟩ := isOutside_iff.1 outside
          refine .inl ⟨[], token :: tokens, rfl, rfl, fun rest follows => ?_⟩
          rw [List.cons_append]
          refine statementRest_boundary outside mark ?_
          rw [sees outside rest follows, boundary]
        · have step : ∀ rest,
              Follows (token :: tokens) (depthFrom depth (token :: tokens)) next rest →
              statementRest depth previous (token :: (tokens ++ rest)) =
                (token :: (statementRest (depthAfter depth token) token (tokens ++ rest)).1,
                  (statementRest (depthAfter depth token) token (tokens ++ rest)).2) := by
            intro rest follows
            refine statementRest_goesOn fun outside => ⟨?_, ?_⟩
            · simpa [outside] using stops
            · rw [sees outside rest follows]
              simpa [outside] using breaks
          rcases ih (depthAfter depth token) token with ⟨inside, after, rfl, depths, ends⟩ | goesOn
          · refine .inl ⟨token :: inside, after, rfl, depths, fun rest follows => ?_⟩
            rw [List.cons_append, step rest follows, ends rest (.drop [token] follows)]
          · refine .inr fun rest follows => ?_
            rw [List.cons_append, step rest follows, goesOn rest (.drop [token] follows),
              List.getLast?_cons, Option.getD_some]
            rfl

/-! ## Segments -/

theorem split_doc {token : Token} (doc : token.isDoc = true) (rest : List Token) :
    split (token :: rest) = .doc token :: split rest := by
  rw [split, if_pos doc]

theorem split_statement {token : Token} (notDoc : token.isDoc = false) (rest : List Token) :
    split (token :: rest) =
      .statement token (statementFrom token rest).1 :: split (statementFrom token rest).2 := by
  rw [split, if_neg (by simp [notDoc])]

theorem statementFrom_eq {token : Token} (goesOn : token.isMark ';' = false) (rest : List Token) :
    statementFrom token rest = statementRest (depthAfter 0 token) token rest := by
  simp [statementFrom, goesOn]

/-- The tokens end with complete segments, and the tokens that come are cut on their own. -/
structure Completes (next : Option Token) (tokens : List Token) (segments : List Segment) :
    Prop where
  flatten : tokens = segments.flatMap Segment.tokens
  closed : depth tokens = 0
  split : ∀ rest, Follows tokens (depth tokens) next rest →
    Segment.split (tokens ++ rest) = segments ++ Segment.split rest

/-- The tokens end inside a statement, which goes on with the tokens that come. -/
structure Leaves (next : Option Token) (tokens : List Token) (segments : List Segment)
    (first : Token) (inside : List Token) : Prop where
  flatten : tokens = segments.flatMap Segment.tokens ++ first :: inside
  depths : depth (first :: inside) = depth tokens
  split : ∀ rest, Follows tokens (depth tokens) next rest →
    Segment.split (tokens ++ rest) = segments ++ .statement first (inside ++
      (statementRest (depth tokens) (inside.getLast?.getD first) rest).1) ::
      Segment.split (statementRest (depth tokens) (inside.getLast?.getD first) rest).2

/-- The two ways for tokens to end. -/
def Ends (next : Option Token) (tokens : List Token) : Prop :=
  (∃ segments, Completes next tokens segments) ∨
    ∃ segments first inside, Leaves next tokens segments first inside

/-- A segment that is complete in front of the tokens does not matter to their end. -/
theorem Ends.prepend {next : Option Token} {tokens after : List Token} (segment : Segment)
    (flatten : tokens = segment.tokens ++ after) (depths : depth after = depth tokens)
    (cut : ∀ rest, Follows tokens (depth tokens) next rest →
      split (tokens ++ rest) = segment :: split (after ++ rest))
    (ends : Ends next after) : Ends next tokens := by
  have drop : ∀ rest, Follows tokens (depth tokens) next rest →
      Follows after (depth after) next rest := by
    intro rest follows
    rw [flatten] at follows
    rw [depths, flatten]
    exact follows.drop segment.tokens
  rcases ends with ⟨segments, completes⟩ | ⟨segments, first, inside, leaves⟩
  · refine .inl ⟨segment :: segments, ?_, depths ▸ completes.closed, fun rest follows => ?_⟩
    · rw [flatten, completes.flatten, List.flatMap_cons]
    · rw [cut rest follows, completes.split rest (drop rest follows), List.cons_append]
  · refine .inr ⟨segment :: segments, first, inside, ?_, leaves.depths.trans depths,
      fun rest follows => ?_⟩
    · rw [flatten, leaves.flatten, List.flatMap_cons, List.append_assoc]
    · rw [cut rest follows, leaves.split rest (drop rest follows), depths, List.cons_append]

/-- **What stands at the end of the tokens decides how they are cut, whatever comes.** -/
theorem split_append_cases (next : Option Token) : ∀ tokens : List Token, Ends next tokens
  | [] => .inl ⟨[], rfl, rfl, fun _ _ => rfl⟩
  | token :: tokens => by
      cases doc : token.isDoc with
      | true =>
          have same : depth tokens = depth (token :: tokens) := by
            simp [depth, depthAfter_plain (Token.plain_of_isDoc doc)]
          exact (split_append_cases next tokens).prepend (.doc token) rfl same
            fun rest _ => split_doc doc _
      | false =>
          cases mark : token.isMark ';' with
          | true =>
              have plain := Token.plain_of_isMark mark (by decide)
              have same : depth tokens = depth (token :: tokens) := by
                simp [depth, depthAfter_plain plain]
              refine (split_append_cases next tokens).prepend (.statement token []) rfl same
                fun rest _ => ?_
              rw [List.cons_append, split_statement doc, statementFrom, isOutside_iff.2 ⟨rfl, plain⟩,
                mark]
              rfl
          | false =>
              rcases statementRest_append_cases next tokens (depthAfter 0 token) token with
                ⟨inside, after, cutAt, depths, ends⟩ | goesOn
              · have shorter : after.length < (token :: tokens).length := by
                  simp only [cutAt, List.length_cons, List.length_append]
                  omega
                refine (split_append_cases next after).prepend (.statement token inside)
                  (by simp [Segment.tokens, cutAt]) depths fun rest follows => ?_
                rw [List.cons_append, split_statement doc, statementFrom_eq mark,
                  ends rest (.drop [token] follows)]
              · refine .inr ⟨[], token, tokens, rfl, rfl, fun rest follows => ?_⟩
                rw [List.cons_append, split_statement doc, statementFrom_eq mark,
                  goesOn rest (.drop [token] follows)]
                rfl
termination_by tokens => tokens.length

/-- A doc comment outside brackets stands between two statements, and what follows it is cut on its
own. -/
theorem split_append_doc {doc : Token} (isDoc : doc.isDoc = true) {tokens : List Token}
    (outside : depth tokens = 0) : ∃ segments, ∀ rest,
      split (tokens ++ doc :: rest) = segments ++ .doc doc :: split rest := by
  rcases split_append_cases (some doc) tokens with
    ⟨segments, completes⟩ | ⟨segments, first, inside, leaves⟩
  · refine ⟨segments, fun rest => ?_⟩
    rw [completes.split (doc :: rest) (.of_head rfl), split_doc isDoc]
  · refine ⟨segments ++ [.statement first inside], fun rest => ?_⟩
    rw [leaves.split (doc :: rest) (.of_head rfl), outside, statementRest_doc isDoc, split_doc isDoc]
    simp

/-- A token that goes on with a statement begins one that ends at the same place. -/
theorem statementFrom_of_statementRest {previous token : Token} {rest inside tail : List Token}
    (goesOn : statementRest 0 previous (token :: rest) = (token :: inside, tail)) :
    statementFrom token rest = (inside, tail) := by
  by_cases stops : isOutside 0 token = true ∧ token.isMark ';' = true
  · rw [statementRest_stop stops.1 stops.2] at goesOn
    cases goesOn
    simp [statementFrom, stops]
  · have plain : isOutside 0 token = true →
        token.isMark ';' = false ∧ isBoundary previous token rest.head? = false := by
      intro outside
      have mark : token.isMark ';' = false := by simpa [outside] using stops
      refine ⟨mark, Bool.eq_false_iff.2 fun boundary => ?_⟩
      rw [statementRest_boundary outside mark boundary] at goesOn
      cases goesOn
    rw [statementRest_goesOn plain] at goesOn
    cases goesOn
    rw [statementFrom, if_neg (by simpa using stops)]

/-- Two ways to part a list of segments are one if neither front reaches the end of the segment after
the other. -/
theorem segments_unique {segments segments' tail tail' : List Segment} {segment segment' : Segment}
    (same : segments ++ segment :: tail = segments' ++ segment' :: tail')
    (short : (segments.flatMap tokens).length <
      (segments'.flatMap tokens).length + segment'.tokens.length)
    (short' : (segments'.flatMap tokens).length <
      (segments.flatMap tokens).length + segment.tokens.length) : segments = segments' := by
  rcases List.append_eq_append_iff.1 same with ⟨more, longer, tails⟩ | ⟨more, longer, tails⟩
  · cases more with
    | nil => rw [longer, List.append_nil]
    | cons other more =>
        obtain ⟨rfl, -⟩ := List.cons.inj tails
        simp only [longer, List.flatMap_append, List.flatMap_cons, List.length_append] at short'
        omega
  · cases more with
    | nil => rw [longer, List.append_nil]
    | cons other more =>
        obtain ⟨rfl, -⟩ := List.cons.inj tails
        simp only [longer, List.flatMap_append, List.flatMap_cons, List.length_append] at short
        omega

/-- A place in the middle of a statement: the statement goes on there with `next`. -/
structure Middle (front : List Token) (next : Token) (rest : List Token) where
  segments : List Segment
  first : Token
  before : List Token
  after : List Token
  others : List Segment
  front_eq : front = segments.flatMap Segment.tokens ++ first :: before
  cut : split (front ++ next :: rest) =
    segments ++ .statement first (before ++ next :: after) :: others

namespace Middle

variable {front rest : List Token} {next doc : Token} (place : Middle front next rest)

/-- The token before the place. -/
def last : Token := place.before.getLast?.getD place.first

include place

/-- No segment is complete at the place. -/
theorem not_completes {segments : List Segment} : ¬ Completes (some next) front segments := by
  intro completes
  have cut := (completes.split (next :: rest) (.of_head rfl)).symm.trans place.cut
  have lengths := congrArg List.length (completes.flatten.symm.trans place.front_eq)
  rw [List.length_append, List.length_cons] at lengths
  obtain ⟨segment, tail, nonempty⟩ : ∃ segment tail, split (next :: rest) = segment :: tail := by
    cases doc : next.isDoc with
    | true => exact ⟨_, _, split_doc doc rest⟩
    | false => exact ⟨_, _, split_statement doc rest⟩
  rw [nonempty] at cut
  have same : segments = place.segments := by
    apply segments_unique cut
    · simp only [Segment.tokens, List.length_cons, List.length_append]
      omega
    · omega
  rw [same] at lengths
  omega

/-- The statement that is open at the place is the one that goes on there. -/
theorem leaves_unique {segments : List Segment} {first : Token} {inside : List Token}
    (leaves : Leaves (some next) front segments first inside) :
    segments = place.segments ∧ first = place.first ∧ inside = place.before := by
  have cut := (leaves.split (next :: rest) (.of_head rfl)).symm.trans place.cut
  have flatten := leaves.flatten.symm.trans place.front_eq
  have lengths := congrArg List.length flatten
  simp only [List.length_append, List.length_cons] at lengths
  have same : segments = place.segments := by
    apply segments_unique cut
    · simp only [Segment.tokens, List.length_cons, List.length_append]
      omega
    · simp only [Segment.tokens, List.length_cons, List.length_append]
      omega
  rw [same, List.append_cancel_left_eq, List.cons.injEq] at flatten
  exact ⟨same, flatten⟩

theorem leaves : Leaves (some next) front place.segments place.first place.before := by
  rcases split_append_cases (some next) front with
    ⟨segments, completes⟩ | ⟨segments, first, inside, leaves⟩
  · exact absurd completes place.not_completes
  · obtain ⟨rfl, rfl, rfl⟩ := place.leaves_unique leaves
    exact leaves

theorem depth_eq : depth (place.first :: place.before) = depth front := place.leaves.depths

/-- The statement goes on with the same tokens and ends at the same place. -/
theorem statementRest_eq : ∃ tail, statementRest (depth front) place.last (next :: rest) =
    (next :: place.after, tail) ∧ split tail = place.others := by
  have cut := place.leaves.split (next :: rest) (.of_head rfl)
  rw [place.cut, List.append_cancel_left_eq, List.cons.injEq, Segment.statement.injEq,
    List.append_cancel_left_eq] at cut
  exact ⟨_, Prod.ext cut.1.2.symm rfl, cut.2.symm⟩

/-- Inside brackets a doc comment is one more token of the statement. -/
theorem split_inside (isDoc : doc.isDoc = true) (inside : 0 < depth front) :
    split (front ++ doc :: next :: rest) = place.segments ++
      .statement place.first (place.before ++ doc :: next :: place.after) :: place.others := by
  obtain ⟨tail, goesOn, others⟩ := place.statementRest_eq
  rw [place.leaves.split _ (.inl inside), statementRest_inside inside,
    depthAfter_plain (Token.plain_of_isDoc isDoc), statementRest_previous inside place.last, goesOn,
    others]

/-- Outside brackets a doc comment parts the statement in two, if the token before it does not look at
the token after it. -/
theorem split_outside (isDoc : doc.isDoc = true) (outside : depth front = 0)
    (blind : isStarter place.last (some doc) = isStarter place.last (some next)) :
    split (front ++ doc :: next :: rest) = place.segments ++
      .statement place.first place.before :: .doc doc ::
        .statement next place.after :: place.others := by
  obtain ⟨tail, goesOn, others⟩ := place.statementRest_eq
  have follows : Follows front (depth front) (some next) (doc :: next :: rest) := by
    refine .inr fun token member => ?_
    have ends : front.getLast? = some place.last := by
      refine (congrArg List.getLast? place.front_eq).trans ?_
      rw [List.getLast?_append, List.getLast?_cons]
      rfl
    rw [ends, Option.mem_some_iff] at member
    rw [← member]
    exact blind
  have notDoc : next.isDoc = false := by
    refine Bool.eq_false_iff.2 fun doc => ?_
    rw [outside, statementRest_doc doc] at goesOn
    cases goesOn
  rw [outside] at goesOn
  rw [place.leaves.split _ follows, outside, statementRest_doc isDoc, split_doc isDoc,
    split_statement notDoc, statementFrom_of_statementRest goesOn, others, List.append_nil]

end Middle

/-! ## Statements that end with a semicolon -/

/-- A token that neither begins nor ends anything where it stands outside brackets. -/
structure Quiet (token : Token) : Prop where
  plain : token.isOpener = false ∧ token.isCloser = false
  goesOn : token.isMark ';' = false
  notDoc : token.isDoc = false
  aside : ∀ following, isStarter token following = false

/-- A statement goes on through the tokens, and is outside brackets after them as before. -/
def Passes (tokens : List Token) : Prop :=
  ∀ previous, ∃ last, ∀ rest, statementRest 0 previous (tokens ++ rest) =
    (tokens ++ (statementRest 0 last rest).1, (statementRest 0 last rest).2)

theorem Passes.append {tokens others : List Token} (passes : Passes tokens)
    (goesOn : Passes others) : Passes (tokens ++ others) := by
  intro previous
  obtain ⟨middle, through⟩ := passes previous
  obtain ⟨last, further⟩ := goesOn middle
  refine ⟨last, fun rest => ?_⟩
  rw [List.append_assoc, through, further, List.append_assoc]

theorem Quiet.passes {token : Token} (quiet : Quiet token) : Passes [token] := by
  refine fun previous => ⟨token, fun rest => ?_⟩
  rw [List.singleton_append, statementRest_goesOn fun _ =>
    ⟨quiet.goesOn, by simp [isBoundary, quiet.notDoc, quiet.aside]⟩, depthAfter_plain quiet.plain]
  rfl

theorem Passes.of_quiet {tokens : List Token} (quiet : ∀ token ∈ tokens, Quiet token) :
    Passes tokens := by
  induction tokens with
  | nil => exact fun previous => ⟨previous, fun _ => rfl⟩
  | cons token tokens ih =>
      obtain ⟨here, others⟩ := List.forall_mem_cons.1 quiet
      exact here.passes.append (ih others)

/-- What stands in brackets does not matter, as long as it holds none. -/
theorem Passes.group {opener closer : Token} {inside : List Token}
    (opens : opener.isOpener = true) (closes : closer.isCloser = true)
    (other : closer.isOpener = false)
    (plain : ∀ token ∈ inside, token.isOpener = false ∧ token.isCloser = false) :
    Passes (opener :: (inside ++ [closer])) := by
  refine fun previous => ⟨closer, fun rest => ?_⟩
  have within : ∀ previous, statementRest 1 previous (inside ++ closer :: rest) =
      (inside ++ closer :: (statementRest 0 closer rest).1, (statementRest 0 closer rest).2) := by
    induction inside with
    | nil =>
        intro previous
        rw [List.nil_append, statementRest_inside Nat.one_pos, depthAfter, other, closes]
        rfl
    | cons token inside ih =>
        intro previous
        obtain ⟨here, others⟩ := List.forall_mem_cons.1 plain
        rw [List.cons_append, statementRest_inside Nat.one_pos, depthAfter_plain here, ih others]
        rfl
  rw [List.cons_append, statementRest_goesOn fun outside => by simp [isOutside, opens] at outside,
    depthAfter, opens, if_pos rfl, Nat.zero_add, List.append_assoc, List.singleton_append,
    within opener]
  simp

/-- A statement goes on to the semicolon if its tokens let it pass. -/
theorem split_passes {first stop : Token} {tokens : List Token} (notDoc : first.isDoc = false)
    (plain : first.isOpener = false ∧ first.isCloser = false) (goesOn : first.isMark ';' = false)
    (passes : Passes tokens) (stops : stop.isMark ';' = true) (rest : List Token) :
    split (first :: (tokens ++ stop :: rest)) =
      .statement first (tokens ++ [stop]) :: split rest := by
  obtain ⟨last, through⟩ := passes first
  have outside : isOutside 0 stop = true :=
    isOutside_iff.2 ⟨rfl, Token.plain_of_isMark stops (by decide)⟩
  rw [split_statement notDoc, statementFrom_eq goesOn, depthAfter_plain plain, through,
    statementRest_stop outside stops]

end Segment

end ExportDocs
