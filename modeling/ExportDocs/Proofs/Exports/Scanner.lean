/-
# ExportDocs.Proofs.Exports.Scanner -- the extraction of exports over positions

The extraction of exports is written over lists that are taken apart, where no access can go wrong.
Here it is written over positions instead: a list of tokens stays as it is, loops run over an index,
and every token is fetched by its index with the bounds test that guards it, if there is one.  An
access outside the list is a fault that says where it was made, at which index, and how long the
list was (`IndexFault`).  Whether faults occur, and where, is then a question about this program
(`ExportDocs.Proofs.Exports.Bounds`).

This module has the accesses, the cut of the tokens into statements and the reading of declarations;
`ExportDocs.Proofs.Exports.Scanner.Records` has the rest.  Each definition is followed by its
equation with the one over lists.  Tests on single tokens are shared with the extraction itself; they
fetch nothing.
-/
import ExportDocs.Proofs.Exports.Readings
import ExportDocs.Proofs.Exports.Spans

namespace ExportDocs

set_option autoImplicit false

/-! ## Accesses -/

/-- The part of the scanner that makes an access. -/
inductive Site where
  | split
  | statementEnd
  | boundary
  | starter
  | docBefore
  | statement
  | declaration
  | initialiser
  | arrow
  | specifiers
  | source
  | importClause
  | exportClause
  | symbol
  | document
  deriving DecidableEq, Repr

/-- An access outside the bounds of a list. -/
structure IndexFault where
  site : Site
  index : Int
  length : Nat
  deriving DecidableEq, Repr

/-- The wording of a fault. -/
def IndexFault.message (_ : IndexFault) : Text := "list index out of range".toList

/-- A computation that fetches items of lists. -/
abbrev Scan := Except IndexFault

namespace Scan

variable {α β : Type}

@[simp] theorem pure_eq (a : α) : (pure a : Scan α) = .ok a := rfl

@[simp] theorem ok_bind (a : α) (next : α → Scan β) : (Except.ok a >>= next) = next a := rfl

@[simp] theorem error_bind (fault : IndexFault) (next : α → Scan β) :
    ((Except.error fault : Scan α) >>= next) = .error fault := rfl

@[simp] theorem map_ok (f : α → β) (a : α) : (f <$> (Except.ok a : Scan α)) = .ok (f a) := rfl

@[simp] theorem mapError_ok {ε : Type} (f : ε → IndexFault) (a : α) :
    (Except.ok a : Except ε α).mapError f = .ok a := rfl

@[simp] theorem mapError_error {ε : Type} (f : ε → IndexFault) (fault : ε) :
    (Except.error fault : Except ε α).mapError f = .error (f fault) := rfl

/-- The item at an index. -/
def get (site : Site) (items : List α) (index : Nat) : Scan α :=
  match items[index]? with
  | some item => .ok item
  | none => .error ⟨site, index, items.length⟩

/-- The item before an index.  Before the first one there is none: an index below zero is not
counted from the end, but refused. -/
def getBefore (site : Site) (items : List α) : Nat → Scan α
  | 0 => .error ⟨site, -1, items.length⟩
  | index + 1 => get site items index

/-- The item at an index, or nothing from the end on. -/
def get? (site : Site) (items : List α) (index : Nat) : Scan (Option α) :=
  if index < items.length then some <$> get site items index else return none

/-- A second test, which is made only if the first one holds. -/
def andAlso (first : Bool) (second : Scan Bool) : Scan Bool :=
  if first then second else return false

/-- Whether there is an item at an index and passes a test. -/
def holdsAt (site : Site) (items : List α) (index : Nat) (test : α → Bool) : Scan Bool :=
  andAlso (index < items.length) (test <$> get site items index)

@[simp] theorem andAlso_false (second : Scan Bool) : andAlso false second = .ok false := rfl

@[simp] theorem andAlso_true (second : Scan Bool) : andAlso true second = second := rfl

@[simp] theorem andAlso_ok (first second : Bool) :
    andAlso first (.ok second) = .ok (first && second) := by
  cases first <;> rfl

/-! An index is followed by looking at what is left of the list from there on. -/

section Drop

variable {site : Site} {items rest : List α} {item : α} {index : Nat}

theorem lt_of_drop (here : items.drop index = item :: rest) : index < items.length := by
  have filled : items.drop index ≠ [] := by simp [here]
  simpa using filled

theorem drop_succ (here : items.drop index = item :: rest) : items.drop (index + 1) = rest := by
  rw [← List.tail_drop, here, List.tail_cons]

theorem drop_add {front : List α} (here : items.drop index = front ++ rest) :
    items.drop (index + front.length) = rest := by
  rw [← List.drop_drop, here, List.drop_left]

theorem get_of_drop (here : items.drop index = item :: rest) : get site items index = .ok item := by
  rw [get, ← List.head?_drop, here]
  rfl

theorem not_lt_of_drop (here : items.drop index = []) : ¬ index < items.length :=
  Nat.not_lt.2 (List.drop_eq_nil_iff.1 here)

@[simp] theorem get?_eq (site : Site) (items : List α) (index : Nat) :
    get? site items index = .ok (items.drop index).head? := by
  unfold get?
  cases here : items.drop index with
  | nil => rw [if_neg (not_lt_of_drop here)]; rfl
  | cons item rest => rw [if_pos (lt_of_drop here), get_of_drop here]; rfl

@[simp] theorem holdsAt_eq (site : Site) (items : List α) (index : Nat) (test : α → Bool) :
    holdsAt site items index test = .ok ((items.drop index).head?.any test) := by
  unfold holdsAt
  cases here : items.drop index with
  | nil => simp [not_lt_of_drop here]
  | cons item rest => simp [lt_of_drop here, get_of_drop here]

end Drop

end Scan

namespace Scanner

open Scan

variable {tokens rest : List Token} {token : Token} {index : Nat}

/-! ## Statements -/

/-- Whether the token at an index begins a module statement. -/
def starterAt (tokens : List Token) (index : Nat) : Scan Bool := do
  let token ← get .starter tokens index
  let following ← get? .starter tokens (index + 1)
  return Segment.isStarter token following

theorem starterAt_eq (here : tokens.drop index = token :: rest) :
    starterAt tokens index = .ok (Segment.isStarter token rest.head?) := by
  simp [starterAt, get_of_drop here, drop_succ here]

/-- Whether the token at an index begins a new statement. -/
def boundaryAt (tokens : List Token) (index : Nat) : Scan Bool := do
  let token ← get .boundary tokens index
  if token.isDoc then return true
  else if !(← starterAt tokens index) then return false
  else
    let previous ← getBefore .boundary tokens index
    return !(previous.type.isOperator || Segment.continuations.contains previous.value)

theorem boundaryAt_eq {previous : Token} (here : tokens.drop index = previous :: token :: rest) :
    boundaryAt tokens (index + 1) = .ok (Segment.isBoundary previous token rest.head?) := by
  have next := drop_succ here
  simp only [boundaryAt, get_of_drop next, starterAt_eq next, getBefore, get_of_drop here, ok_bind,
    pure_eq, Segment.isBoundary]
  cases token.isDoc <;> cases Segment.isStarter token rest.head? <;> rfl

/-- The index of the last token of the statement that begins at `start`; `depth` brackets are open
at `index`. -/
def endFrom (tokens : List Token) (start depth index : Nat) : Scan Nat :=
  if index < tokens.length then do
    let token ← get .statementEnd tokens index
    if token.isOpener then endFrom tokens start (depth + 1) (index + 1)
    else if token.isCloser then endFrom tokens start (depth - 1) (index + 1)
    else if depth == 0 then
      if token.isMark ';' then return index
      else if ← andAlso (start < index) (boundaryAt tokens index) then return index - 1
      else endFrom tokens start depth (index + 1)
    else endFrom tokens start depth (index + 1)
  else return tokens.length - 1
termination_by tokens.length - index

/-- A bracket, or any token inside brackets, does not end a statement. -/
theorem endFrom_inside {start depth : Nat} (here : tokens.drop index = token :: rest)
    (inside : Segment.isOutside depth token = false) :
    endFrom tokens start depth index =
      endFrom tokens start (Segment.depthAfter depth token) (index + 1) := by
  rw [endFrom, if_pos (lt_of_drop here), get_of_drop here, ok_bind, Segment.depthAfter]
  cases opener : token.isOpener with
  | true => rfl
  | false =>
      cases closer : token.isCloser with
      | true => rfl
      | false =>
          have deep : (depth == 0) = false := by simpa [Segment.isOutside, opener, closer] using inside
          simp [deep]

/-- Outside brackets a semicolon ends a statement, and so does a boundary after its first token. -/
theorem endFrom_outside {start : Nat} (here : tokens.drop index = token :: rest)
    (outside : Segment.isOutside 0 token = true) :
    endFrom tokens start 0 index =
      if token.isMark ';' then .ok index
      else andAlso (start < index) (boundaryAt tokens index) >>= fun ends =>
        if ends then .ok (index - 1) else endFrom tokens start 0 (index + 1) := by
  obtain ⟨-, opener, closer⟩ := Segment.isOutside_iff.1 outside
  rw [endFrom, if_pos (lt_of_drop here), get_of_drop here, ok_bind, if_neg (by simp [opener]),
    if_neg (by simp [closer])]
  rfl

/-- The end of a statement, looked for after a token of it. -/
theorem endFrom_eq {start : Nat} (rest : List Token) : ∀ (depth index : Nat) (previous : Token),
    start ≤ index → tokens.drop index = previous :: rest →
    endFrom tokens start depth (index + 1) =
      .ok (index + (Segment.statementRest depth previous rest).1.length) := by
  induction rest with
  | nil =>
      intro depth index previous _ here
      have short : tokens.length = index + 1 := by
        have left := congrArg List.length here
        rw [List.length_drop, List.length_singleton] at left
        omega
      rw [endFrom, if_neg (by omega), short]
      rfl
  | cons token rest ih =>
      intro depth index previous begun here
      have next := drop_succ here
      have onward : ∀ depth, endFrom tokens start depth (index + 1 + 1) = .ok (index +
          (token :: (Segment.statementRest depth token rest).1).length) := fun depth => by
        rw [ih depth (index + 1) token (Nat.le_succ_of_le begun) next, List.length_cons,
          Nat.add_assoc, Nat.add_comm 1]
      by_cases outside : Segment.isOutside depth token = true
      · obtain ⟨rfl, plain⟩ := Segment.isOutside_iff.1 outside
        have started : decide (start < index + 1) = true := decide_eq_true (Nat.lt_succ_of_le begun)
        rw [endFrom_outside next outside, started, andAlso_true, boundaryAt_eq here, ok_bind]
        cases mark : token.isMark ';' with
        | true => simp [Segment.statementRest_stop outside mark]
        | false =>
            cases boundary : Segment.isBoundary previous token rest.head? with
            | true => simp [Segment.statementRest_boundary outside mark boundary]
            | false =>
                rw [Segment.statementRest_goesOn fun _ => ⟨mark, boundary⟩,
                  Segment.depthAfter_plain plain]
                exact onward 0
      · rw [endFrom_inside next (Bool.eq_false_iff.2 outside),
          Segment.statementRest_goesOn fun inside => absurd inside outside]
        exact onward _

/-- The end of a statement, looked for from its first token on. -/
theorem endFrom_start (here : tokens.drop index = token :: rest) :
    endFrom tokens index 0 index = .ok (index + (Segment.statementFrom token rest).1.length) := by
  have onward : ∀ depth, endFrom tokens index depth (index + 1) = _ := fun depth =>
    endFrom_eq rest depth index token (Nat.le_refl index) here
  have fresh : decide (index < index) = false := decide_eq_false (Nat.lt_irrefl index)
  unfold Segment.statementFrom
  by_cases outside : Segment.isOutside 0 token = true
  · rw [endFrom_outside here outside, fresh, andAlso_false, ok_bind, outside, Bool.true_and]
    cases token.isMark ';' with
    | true => rfl
    | false =>
        rw [Segment.depthAfter_plain (Segment.isOutside_iff.1 outside).2]
        exact onward 0
  · rw [endFrom_inside here (Bool.eq_false_iff.2 outside), Bool.eq_false_iff.2 outside,
      Bool.false_and]
    exact onward _

/-- The spans of the statements from an index on. -/
def spansFrom (tokens : List Token) (index : Nat) : Scan (List Span) :=
  if index < tokens.length then do
    if (← get .split tokens index).isDoc then spansFrom tokens (index + 1)
    else
      match ends : endFrom tokens index 0 index with
      | .error fault => .error fault
      | .ok last => return ⟨index, last⟩ :: (← spansFrom tokens (last + 1))
  else return []
termination_by tokens.length - index
decreasing_by
  · omega
  · have inside : ¬ tokens.length ≤ index := Nat.not_le.2 ‹index < tokens.length›
    obtain ⟨token, rest, here⟩ := List.exists_cons_of_ne_nil (mt List.drop_eq_nil_iff.1 inside)
    rw [endFrom_start here] at ends
    cases ends
    omega

theorem spansFrom_eq (rest : List Token) : ∀ index, tokens.drop index = rest →
    spansFrom tokens index = .ok (Segment.spansFrom index (Segment.split rest)) := by
  fun_induction Segment.split rest with
  | case1 =>
      intro index here
      rw [spansFrom, if_neg (not_lt_of_drop here)]
      rfl
  | case2 token rest isDoc ih =>
      intro index here
      rw [spansFrom, if_pos (lt_of_drop here), get_of_drop here, ok_bind, if_pos isDoc,
        ih _ (drop_succ here)]
      rfl
  | case3 token rest notDoc ih =>
      intro index here
      have after : tokens.drop (index + (Segment.statementFrom token rest).1.length + 1) =
          (Segment.statementFrom token rest).2 := by
        rw [Nat.add_right_comm]
        refine drop_add ?_
        rw [Segment.statementFrom_append, drop_succ here]
      rw [spansFrom, if_pos (lt_of_drop here), get_of_drop here, ok_bind, if_neg notDoc]
      split
      · rename_i fault ends
        rw [endFrom_start here] at ends
        cases ends
      · rename_i last ends
        rw [endFrom_start here] at ends
        cases ends
        rw [ih _ after]
        rfl

theorem spansFrom_zero (tokens : List Token) :
    spansFrom tokens 0 = .ok (Segment.spans tokens) :=
  spansFrom_eq tokens 0 rfl

/-- The doc comment directly above the token at an index. -/
def docBefore (tokens : List Token) (index : Nat) : Scan (Option Token) := do
  if ← andAlso (0 < index) (Token.isDoc <$> getBefore .docBefore tokens index) then
    some <$> getBefore .docBefore tokens index
  else return none

theorem docBefore_eq (inside : index ≤ tokens.length) :
    docBefore tokens index = .ok (Outline.docBefore tokens index) := by
  cases index with
  | zero => rfl
  | succ index =>
      obtain ⟨token, rest, here⟩ :=
        List.exists_cons_of_ne_nil (mt List.drop_eq_nil_iff.1 (Nat.not_le.2 inside))
      have above : Outline.docBefore tokens (index + 1) = (some token).filter Token.isDoc := by
        rw [Outline.docBefore, List.getLast?_take, if_neg (Nat.succ_ne_zero index),
          Nat.add_sub_cancel, ← List.head?_drop, here]
        rfl
      rw [above, docBefore, getBefore, get_of_drop here]
      cases isDoc : token.isDoc <;> simp [Option.filter, isDoc]

/-! ## Declarations -/

/-- Whether an arrow stands at an index, in one token or as two signs. -/
def arrowAt (tokens : List Token) (index : Nat) : Scan Bool :=
  if tokens.length ≤ index then return false
  else do
    if (← get .arrow tokens index).spells "=>" then return true
    else
      andAlso ((← get .arrow tokens index).spells "=")
        (holdsAt .arrow tokens (index + 1) fun other => other.value.head? == some '>')

theorem arrowAt_eq (tokens : List Token) (index : Nat) :
    arrowAt tokens index = .ok (Declaration.startsWithArrow (tokens.drop index)) := by
  unfold arrowAt
  cases here : tokens.drop index with
  | nil => rw [if_pos (List.drop_eq_nil_iff.1 here)]; rfl
  | cons token rest =>
      rw [if_neg (Nat.not_le.2 (lt_of_drop here)), get_of_drop here, holdsAt_eq, drop_succ here,
        ok_bind, ok_bind, Declaration.startsWithArrow]
      cases token.spells "=>" <;> cases token.spells "=" <;> rfl

/-- The names that a pattern binds on its outermost level, from an index on at which `depth`
brackets are open. -/
def patternFrom (tokens : List Token) (depth index : Nat) : Scan (List Text) :=
  if index < tokens.length then do
    let token ← get .declaration tokens index
    let inner := Segment.depthAfter depth token
    if token.isCloser && inner == 0 then return []
    else
      let following ← get? .declaration tokens (index + 1)
      let others ← patternFrom tokens inner (index + 1)
      if inner == 1 && token.isBindingName && following.any Declaration.endsElement then
        return token.value :: others
      else return others
  else return []
termination_by tokens.length - index

/-- A bracket is no name. -/
theorem isBindingName_of_bracket (bracket : (token.isOpener || token.isCloser) = true) :
    token.isBindingName = false := by
  have mark : token.isPunctuation = true := by
    simp only [Token.isOpener, Token.isCloser, Token.isMark, Bool.or_eq_true,
      Bool.and_eq_true] at bracket
    rcases bracket with ((mark | mark) | mark) | ((mark | mark) | mark) <;> exact mark.1
  simp [Token.isBindingName, mark]

theorem patternFrom_opener (here : tokens.drop index = token :: rest)
    (opener : token.isOpener = true) (depth : Nat) :
    patternFrom tokens depth index = patternFrom tokens (depth + 1) (index + 1) := by
  have inner : Segment.depthAfter depth token = depth + 1 := by simp [Segment.depthAfter, opener]
  have unnamed : token.isBindingName = false := isBindingName_of_bracket (by simp [opener])
  rw [patternFrom, if_pos (lt_of_drop here), get_of_drop here, ok_bind]
  simp only [inner, unnamed, get?_eq, ok_bind, Bool.and_false, Bool.false_and, Bool.false_eq_true,
    if_false]
  rw [if_neg (by simp)]
  exact bind_pure _

theorem patternFrom_eq (rest : List Token) : ∀ depth index, tokens.drop index = rest →
    patternFrom tokens (depth + 1) index = .ok (Declaration.patternNames depth rest) := by
  induction rest with
  | nil =>
      intro depth index here
      rw [patternFrom, if_neg (not_lt_of_drop here)]
      rfl
  | cons token rest ih =>
      intro depth index here
      have onward := fun depth => ih depth (index + 1) (drop_succ here)
      cases opener : token.isOpener with
      | true =>
          rw [patternFrom_opener here opener, onward (depth + 1)]
          simp [Declaration.patternNames, opener]
      | false =>
          rw [patternFrom, if_pos (lt_of_drop here), get_of_drop here, ok_bind]
          simp only [get?_eq, ok_bind, drop_succ here, pure_eq]
          cases closer : token.isCloser with
          | true =>
              have inner : Segment.depthAfter (depth + 1) token = depth := by
                simp [Segment.depthAfter, opener, closer]
              cases depth with
              | zero => simp [Declaration.patternNames, opener, closer, inner]
              | succ depth =>
                  simp [Declaration.patternNames, opener, closer, inner, onward depth,
                    @isBindingName_of_bracket token (by simp [closer])]
          | false =>
              rw [Segment.depthAfter_plain ⟨opener, closer⟩, onward depth]
              have level : (depth + 1 == 1) = (depth == 0) := by cases depth <;> rfl
              simp only [Declaration.patternNames, opener, closer, level, Bool.false_and, ok_bind,
                Bool.false_eq_true, if_false]
              split <;> rfl

/-- The index of the first equals sign, from an index on. -/
def assignFrom (tokens : List Token) (index : Nat) : Scan (Option Nat) :=
  if index < tokens.length then do
    if (← get .initialiser tokens index).spells "=" then return some index
    else assignFrom tokens (index + 1)
  else return none
termination_by tokens.length - index

/-- The initialiser is what stands after the equals sign that is found, if there is one. -/
theorem assignFrom_cases (rest : List Token) : ∀ index, tokens.drop index = rest →
    (assignFrom tokens index = .ok none ∧ Declaration.initialiser rest = []) ∨
      ∃ assign, assignFrom tokens index = .ok (some assign) ∧
        Declaration.initialiser rest = tokens.drop (assign + 1) := by
  induction rest with
  | nil =>
      intro index here
      rw [assignFrom, if_neg (not_lt_of_drop here)]
      exact .inl ⟨rfl, rfl⟩
  | cons token rest ih =>
      intro index here
      rw [assignFrom, if_pos (lt_of_drop here), get_of_drop here, ok_bind]
      cases assigns : token.spells "=" with
      | true => exact .inr ⟨index, rfl, by simp [Declaration.initialiser, assigns, drop_succ here]⟩
      | false =>
          have same : Declaration.initialiser (token :: rest) = Declaration.initialiser rest := by
            simp [Declaration.initialiser, assigns]
          rw [same]
          exact ih (index + 1) (drop_succ here)

/-- Whether an arrow follows the bracket that closes the first one; the last argument are the tokens
from `index` on. -/
def arrowAfter (tokens : List Token) (depth index : Nat) : List Token → Scan Bool
  | [] => return false
  | token :: rest =>
    if token.isOpener then arrowAfter tokens (depth + 1) (index + 1) rest
    else if token.isCloser then
      if depth - 1 == 0 then arrowAt tokens (index + 1)
      else arrowAfter tokens (depth - 1) (index + 1) rest
    else arrowAfter tokens depth (index + 1) rest

theorem arrowAfter_eq (rest : List Token) : ∀ depth index, tokens.drop index = rest →
    arrowAfter tokens (depth + 1) index rest = .ok (Declaration.arrowAfterBrackets depth rest) := by
  induction rest with
  | nil => exact fun _ _ _ => rfl
  | cons token rest ih =>
      intro depth index here
      have onward := fun depth => ih depth (index + 1) (drop_succ here)
      rw [arrowAfter]
      cases opener : token.isOpener with
      | true => simp [Declaration.arrowAfterBrackets, opener, onward (depth + 1)]
      | false =>
          cases closer : token.isCloser with
          | true =>
              cases depth with
              | zero => simp [Declaration.arrowAfterBrackets, opener, closer, arrowAt_eq, drop_succ here]
              | succ depth => simp [Declaration.arrowAfterBrackets, opener, closer, onward depth]
          | false => simp [Declaration.arrowAfterBrackets, opener, closer, onward depth]

/-- Whether an initialiser is a function. -/
def isFunction (init : List Token) : Scan Bool := do
  let first ← get .initialiser init 0
  if first.spells "function" || first.spells "async" then return true
  else if ← andAlso (← get .initialiser init 0).isBindingName (arrowAt init 1) then return true
  else if (← get .initialiser init 0).isMark '(' then arrowAfter init 0 0 init
  else return false

theorem isFunction_eq (first : Token) (rest : List Token) :
    isFunction (first :: rest) = .ok (Declaration.isFunction (first :: rest)) := by
  have fetched : get .initialiser (first :: rest) 0 = .ok first := rfl
  have arrow : arrowAt (first :: rest) 1 = .ok (Declaration.startsWithArrow rest) :=
    arrowAt_eq (first :: rest) 1
  have after : arrowAfter (first :: rest) 1 1 rest = .ok (Declaration.arrowAfterBrackets 0 rest) :=
    arrowAfter_eq rest 0 1 rfl
  have bracket : first.isMark '(' = true → arrowAfter (first :: rest) 0 0 (first :: rest) =
      .ok (Declaration.arrowAfterBrackets 0 rest) := fun opens => by
    rw [arrowAfter, if_pos (by simp [Token.isOpener, opens]), after]
  simp only [isFunction, fetched, arrow, andAlso_ok, ok_bind, pure_eq, Declaration.isFunction]
  cases word : first.spells "function" || first.spells "async" with
  | true => rfl
  | false =>
      cases first.isBindingName && Declaration.startsWithArrow rest with
      | true => rfl
      | false =>
          cases opens : first.isMark '(' with
          | true => simp [bracket opens]
          | false => simp

/-- The kind of a variable declaration whose declarators begin at an index. -/
def variableKind (tokens : List Token) (index : Nat) : Scan Kind := do
  match ← assignFrom tokens index with
  | none => return .binding
  | some assign =>
    if tokens.length ≤ assign + 1 then return .binding
    else if ← isFunction (tokens.drop (assign + 1)) then return .function
    else return .binding

theorem variableKind_eq (tokens : List Token) (index : Nat) :
    variableKind tokens index = .ok (Declaration.variableKind (tokens.drop index)) := by
  rw [variableKind, Declaration.variableKind]
  obtain ⟨found, initialiser⟩ | ⟨assign, found, initialiser⟩ :=
    assignFrom_cases (tokens.drop index) index rfl
  · rw [found, initialiser]
    rfl
  · rw [found, initialiser, ok_bind]
    by_cases short : tokens.length ≤ assign + 1
    · simp [short, List.drop_eq_nil_iff.2 short, Declaration.isFunction]
    · obtain ⟨first, rest, here⟩ := List.exists_cons_of_ne_nil (mt List.drop_eq_nil_iff.1 short)
      simp only [short, here, isFunction_eq, ok_bind, if_false]
      split <;> rfl

/-- The names that the declarator at an index binds. -/
def boundNames (tokens : List Token) (index : Nat) : Scan (List Text) := do
  if ← holdsAt .declaration tokens index Token.isBindingName then
    return [(← get .declaration tokens index).value]
  else if ← holdsAt .declaration tokens index fun token => token.isMark '{' || token.isMark '[' then
    patternFrom tokens 0 index
  else return []

theorem boundNames_eq (tokens : List Token) (index : Nat) :
    boundNames tokens index = .ok (Declaration.boundNames (tokens.drop index)) := by
  simp only [boundNames, holdsAt_eq, ok_bind]
  rcases here : tokens.drop index with _ | ⟨first, rest⟩
  · rfl
  · have pattern : (first.isMark '{' || first.isMark '[') = true →
        patternFrom tokens 0 index = .ok (Declaration.patternNames 0 rest) := fun opens => by
      have opener : first.isOpener = true := by
        rcases Bool.or_eq_true_iff.1 opens with opens | opens <;> simp [Token.isOpener, opens]
      rw [patternFrom_opener here opener]
      exact patternFrom_eq rest 0 (index + 1) (drop_succ here)
    simp only [List.head?_cons, Option.any_some, get_of_drop here, ok_bind, pure_eq,
      Declaration.boundNames]
    cases first.isBindingName with
    | true => rfl
    | false =>
        by_cases opens : (first.isMark '{' || first.isMark '[') = true
        · simp [opens, pattern opens]
        · simp [opens]

/-- The name of a function or a class at an index, a generator's asterisk left out. -/
def ownName (tokens : List Token) (index : Nat) : Scan (List Text) := do
  let generator ← holdsAt .declaration tokens index (·.spells "*")
  match ← get? .declaration tokens (if generator then index + 1 else index) with
  | some name =>
    if name.isBindingName && !name.spells "extends" then return [name.value] else return []
  | none => return []

theorem ownName_eq (tokens : List Token) (index : Nat) :
    ownName tokens index = .ok (Declaration.ownName (tokens.drop index)) := by
  simp only [ownName, holdsAt_eq, get?_eq, ok_bind, pure_eq]
  rcases here : tokens.drop index with _ | ⟨first, rest⟩
  · simp [here, Declaration.ownName]
  · cases star : first.spells "*" with
    | true =>
        simp only [List.head?_cons, Option.any_some, star, if_true, drop_succ here,
          Declaration.ownName]
        cases rest with
        | nil => rfl
        | cons name rest => simp only [List.head?_cons]; split <;> rfl
    | false =>
        simp only [List.head?_cons, Option.any_some, star, Bool.false_eq_true, if_false, here,
          Declaration.ownName]
        split <;> rfl

/-- Kind and bound names of the declaration whose keyword stands at an index. -/
def keywordAt (tokens : List Token) (index : Nat) : Scan (Kind × List Text) := do
  let keyword ← get .declaration tokens index
  if keyword.spells "function" then return (.function, ← ownName tokens (index + 1))
  else if keyword.spells "class" then return (.classDecl, ← ownName tokens (index + 1))
  else
    let names ← boundNames tokens (index + 1)
    return (← variableKind tokens (index + 1), names)

/-- The access behind the end of the tokens in place of a missing keyword. -/
def pastEnd (tokens : List Token) (_ : ExtractFault) : IndexFault :=
  ⟨.declaration, tokens.length, tokens.length⟩

theorem keywordAt_eq (inside : index ≤ tokens.length) :
    keywordAt tokens index =
      (Declaration.readKeyword (tokens.drop index)).mapError (pastEnd tokens) := by
  rcases here : tokens.drop index with _ | ⟨keyword, rest⟩
  · have last : index = tokens.length := Nat.le_antisymm inside (List.drop_eq_nil_iff.1 here)
    have missing : tokens[index]? = none := by rw [← List.head?_drop, here]; rfl
    rw [keywordAt, Scan.get, missing, last]
    rfl
  · simp only [keywordAt, get_of_drop here, ownName_eq, boundNames_eq, variableKind_eq,
      drop_succ here, ok_bind, pure_eq, Declaration.readKeyword]
    split
    · rfl
    split <;> rfl

/-- Kind and bound names of the declaration that begins at an index. -/
def declaration (tokens : List Token) (index : Nat) : Scan (Kind × List Text) := do
  if (← get .declaration tokens index).spells "async" then keywordAt tokens (index + 1)
  else keywordAt tokens index

theorem declaration_eq (here : tokens.drop index = token :: rest) :
    declaration tokens index = (Declaration.read (token :: rest)).mapError (pastEnd tokens) := by
  have inside := lt_of_drop here
  rw [declaration, get_of_drop here, ok_bind, Declaration.read]
  split
  · rw [keywordAt_eq inside, drop_succ here]
  · rw [keywordAt_eq (Nat.le_of_lt inside), here]

end Scanner

end ExportDocs
