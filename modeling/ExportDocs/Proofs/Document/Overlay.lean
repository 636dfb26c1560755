/-
# ExportDocs.Proofs.Document.Overlay -- a document with entries placed in its regions

`overlay` says what a document looks like once entries are placed in the regions of tokens: nothing
else is left strictly between the markers of such a region, and everything outside stays.  It is
given position by position, so the order in which entries are placed cannot matter.  If the regions
lie apart (`Apart`), each can be cut out of the overlay (`overlay_cut`), and the depth of its
headings is that in the document (`lastDepth_overlay`).
-/
import ExportDocs.Proofs.Document.Region
import Mathlib.Data.List.Basic

namespace ExportDocs

set_option autoImplicit false

/-! ## Entries put into regions -/

namespace Region

/-- A position strictly between the markers of a region. -/
def Inside (region : Region) (position : Nat) : Prop :=
  region.start < position ∧ position < region.stop

instance (region : Region) (position : Nat) : Decidable (region.Inside position) :=
  inferInstanceAs (Decidable (_ ∧ _))

variable {α β : Type} (tokens : List Text) (regions : Text → Region)

/-- What stands for the entry at a position once entries are placed in the regions of tokens: nothing
inside such a region, and what is placed there after its start marker. -/
def overlayAt (placed : Text → Option α) (position : Nat) (entry : α) : List α :=
  if tokens.any fun token => (placed token).isSome && decide ((regions token).Inside position) then []
  else entry :: (tokens.findSome? fun token =>
    if (regions token).start = position then placed token else none).toList

/-- Entries from a position on, with entries placed in the regions of tokens. -/
def overlayFrom (placed : Text → Option α) (position : Nat) (entries : List α) : List α :=
  (entries.zipIdx position).flatMap fun (entry, position) =>
    overlayAt tokens regions placed position entry

/-- Entries with entries placed in the regions of tokens. -/
def overlay (placed : Text → Option α) (entries : List α) : List α :=
  overlayFrom tokens regions placed 0 entries

/-- Tokens whose regions in a document lie apart, and whose headings get their depth from outside
all of these. -/
structure Apart (document : Document) : Prop where
  located : ∀ token ∈ tokens, find? {} token document = .ok (some (regions token))
  disjoint : ∀ token ∈ tokens, ∀ other ∈ tokens, token ≠ other →
    (regions token).stop < (regions other).start ∨ (regions other).stop < (regions token).start
  context : ∀ token ∈ tokens, ∀ before heading after,
    document.take (regions token).start = before ++ heading :: after →
    heading.depth?.isSome → (∀ node ∈ after, node.depth? = none) → ∀ other ∈ tokens,
      before.length < (regions other).start ∨ (regions other).stop < before.length

variable {tokens regions} {placed : Text → Option α} {document : Document}

theorem overlayFrom_append (position : Nat) (first second : List α) :
    overlayFrom tokens regions placed position (first ++ second) =
      overlayFrom tokens regions placed position first ++
        overlayFrom tokens regions placed (position + first.length) second := by
  simp [overlayFrom, List.zipIdx_append]

theorem overlayFrom_cons (position : Nat) (entry : α) (rest : List α) :
    overlayFrom tokens regions placed position (entry :: rest) =
      overlayAt tokens regions placed position entry ++
        overlayFrom tokens regions placed (position + 1) rest := by
  simp [overlayFrom]

theorem overlayFrom_map (f : α → β) (position : Nat) (entries : List α) :
    (overlayFrom tokens regions placed position entries).map f =
      overlayFrom tokens regions (fun token => (placed token).map f) position (entries.map f) := by
  have at_map : ∀ position entry, (overlayAt tokens regions placed position entry).map f =
      overlayAt tokens regions (fun token => (placed token).map f) position (f entry) := by
    intro position entry
    have start : ∀ token, (if (regions token).start = position then (placed token).map f else none) =
        (if (regions token).start = position then placed token else none).map f := by
      intro token
      split <;> rfl
    simp only [overlayAt, Option.isSome_map, start]
    split
    · rfl
    · change _ = f entry :: (tokens.findSome? (Option.map f ∘ fun token =>
        if (regions token).start = position then placed token else none)).toList
      rw [← List.map_findSome?]
      cases tokens.findSome? fun token =>
        if (regions token).start = position then placed token else none <;> rfl
  induction entries generalizing position with
  | nil => rfl
  | cons entry rest ih => simp [overlayFrom_cons, at_map, ih]

theorem findSome?_eq_of_only {f : Text → Option α} {token : Text} (member : token ∈ tokens)
    (only : ∀ other ∈ tokens, other ≠ token → f other = none) :
    tokens.findSome? f = f token := by
  cases found : tokens.findSome? f with
  | none => exact (List.findSome?_eq_none_iff.1 found token member).symm
  | some a =>
      obtain ⟨other, present, eq⟩ := List.exists_of_findSome?_eq_some found
      by_cases same : other = token
      · rw [← same, eq]
      · rw [only other present same] at eq
        cases eq

theorem any_eq_of_only {f : Text → Bool} {token : Text} (member : token ∈ tokens)
    (only : ∀ other ∈ tokens, other ≠ token → f other = false) :
    tokens.any f = f token := by
  cases here : f token with
  | true => exact List.any_eq_true.2 ⟨token, member, here⟩
  | false =>
      refine List.any_eq_false.2 fun other present => ?_
      by_cases same : other = token
      · simp [same, here]
      · simp [only other present same]

section Local

variable (apart : Apart tokens regions document) {token : Text} (member : token ∈ tokens)
include apart member

theorem Apart.ordered : (regions token).start < (regions token).stop := by
  obtain ⟨before, inside, after, cuts, start, stop⟩ := find?_eq_some (apart.located token member)
  omega

/-- From the start marker of a region to its end marker, no other region counts. -/
theorem Apart.overlayAt_within {position : Nat} (after : (regions token).start ≤ position)
    (before : position ≤ (regions token).stop) (entry : α) :
    overlayAt tokens regions placed position entry =
      if (placed token).isSome && decide ((regions token).Inside position) then []
      else entry :: (if (regions token).start = position then placed token else none).toList := by
  have elsewhere : ∀ other ∈ tokens, other ≠ token →
      ¬(regions other).Inside position ∧ (regions other).start ≠ position := by
    intro other present differs
    have ordered := apart.ordered present
    have side := apart.disjoint other present token member differs
    unfold Inside
    omega
  unfold overlayAt
  rw [any_eq_of_only member fun other present differs => ?_,
    findSome?_eq_of_only member fun other present differs => ?_]
  · simp [(elsewhere other present differs).2]
  · simp [(elsewhere other present differs).1]

omit member in
/-- What is placed in a region counts between its markers only. -/
theorem Apart.overlayAt_congr {others : Text → Option α} {position : Nat}
    (same : ∀ other ∈ tokens, placed other = others other ∨
      position < (regions other).start ∨ (regions other).stop < position) (entry : α) :
    overlayAt tokens regions placed position entry =
      overlayAt tokens regions others position entry := by
  have hidden : (tokens.any fun token => (placed token).isSome &&
        decide ((regions token).Inside position)) =
      tokens.any fun token => (others token).isSome && decide ((regions token).Inside position) := by
    rw [Bool.eq_iff_iff, List.any_eq_true, List.any_eq_true]
    refine exists_congr fun other => and_congr_right fun present => ?_
    rcases same other present with eq | outside
    · rw [eq]
    · have notInside : ¬(regions other).Inside position := by
        unfold Inside
        omega
      simp [notInside]
  have shown : ∀ other ∈ tokens,
      (if (regions other).start = position then placed other else none) =
        if (regions other).start = position then others other else none := by
    intro other present
    rcases same other present with eq | outside
    · rw [eq]
    · have ordered := apart.ordered present
      rw [if_neg (by omega), if_neg (by omega)]
  unfold overlayAt
  rw [hidden, ← List.head?_filterMap, List.filterMap_congr shown, List.head?_filterMap]

omit member in
theorem Apart.overlayFrom_congr {others : Text → Option α} (entries : List α) :
    ∀ position, (∀ other ∈ tokens, placed other = others other ∨
        position + entries.length ≤ (regions other).start ∨ (regions other).stop < position) →
      overlayFrom tokens regions placed position entries =
        overlayFrom tokens regions others position entries := by
  induction entries with
  | nil => exact fun _ _ => rfl
  | cons entry rest ih =>
      intro position same
      simp only [List.length_cons] at same
      rw [overlayFrom_cons, overlayFrom_cons, ih _ fun other present => ?_,
        apart.overlayAt_congr fun other present => ?_]
      · exact (same other present).imp id fun outside => by omega
      · exact (same other present).imp id fun outside => by omega

theorem Apart.overlayFrom_inside (entries : List α) :
    ∀ position, (regions token).start < position →
        position + entries.length ≤ (regions token).stop →
      overlayFrom tokens regions placed position entries =
        if (placed token).isSome then [] else entries := by
  induction entries with
  | nil => simp [overlayFrom]
  | cons entry rest ih =>
      intro position after before
      rw [List.length_cons] at before
      have inside : (regions token).Inside position := ⟨after, by omega⟩
      rw [overlayFrom_cons, ih _ (by omega) (by omega),
        apart.overlayAt_within member (by omega) (by omega)]
      cases placed token <;> simp [inside, Nat.ne_of_lt after]

/-- Entries cut at a region, with entries placed. -/
theorem Apart.overlay_cut {first inside last : List α} {start stop : α}
    (start_eq : (regions token).start = first.length)
    (stop_eq : (regions token).stop = first.length + (inside.length + 1)) :
    overlay tokens regions placed (first ++ start :: (inside ++ stop :: last)) =
      overlayFrom tokens regions placed 0 first ++
        start :: ((placed token).elim inside (fun entry => [entry]) ++
          stop :: overlayFrom tokens regions placed ((regions token).stop + 1) last) := by
  have ordered := apart.ordered member
  have atStart : overlayAt tokens regions placed (regions token).start start =
      start :: (placed token).toList := by
    rw [apart.overlayAt_within member (by omega) (by omega)]
    simp [Inside]
  have atStop : overlayAt tokens regions placed (regions token).stop stop = [stop] := by
    rw [apart.overlayAt_within member (by omega) (by omega)]
    simp [Inside, Nat.ne_of_lt ordered]
  have between : overlayFrom tokens regions placed ((regions token).start + 1) inside =
      if (placed token).isSome then [] else inside :=
    apart.overlayFrom_inside member inside _ (by omega) (by omega)
  rw [overlay, overlayFrom_append, overlayFrom_cons, overlayFrom_append, overlayFrom_cons,
    Nat.zero_add, ← start_eq, atStart, between,
    show (regions token).start + 1 + inside.length = (regions token).stop by omega, atStop]
  cases placed token <;> simp

omit member in
/-- Beside a region, what is placed in it does not count. -/
theorem Apart.overlayFrom_beside {others : Text → Option α}
    (same : ∀ other ∈ tokens, other ≠ token → placed other = others other) {position : Nat}
    (entries : List α)
    (beside : position + entries.length ≤ (regions token).start ∨ (regions token).stop < position) :
    overlayFrom tokens regions placed position entries =
      overlayFrom tokens regions others position entries := by
  refine apart.overlayFrom_congr entries position fun other present => ?_
  by_cases differs : other = token
  · exact .inr (differs ▸ beside)
  · exact .inl (same other present differs)

end Local

theorem mem_overlayFrom {entry : α} (entries : List α) : ∀ position,
    entry ∈ overlayFrom tokens regions placed position entries →
      entry ∈ entries ∨ ∃ token, placed token = some entry := by
  induction entries with
  | nil => simp [overlayFrom]
  | cons first rest ih =>
      intro position found
      rw [overlayFrom_cons, List.mem_append] at found
      rcases found with here | later
      · unfold overlayAt at here
        split at here
        · cases here
        · rcases List.mem_cons.1 here with rfl | shown
          · exact .inl List.mem_cons_self
          · obtain ⟨token, -, eq⟩ := List.exists_of_findSome?_eq_some (Option.mem_toList.1 shown)
            exact .inr ⟨token, (Option.ite_none_right_eq_some.1 eq).2⟩
      · exact (ih _ later).imp (List.mem_cons_of_mem _) id

end Region

/-! ## The depth around a region -/

namespace Document

theorem lastDepth_of_none {document : Document} (none : ∀ node ∈ document, node.depth? = none) :
    document.lastDepth = 1 := by
  have absent : document.reverse.findSome? Node.depth? = Option.none :=
    List.findSome?_eq_none_iff.2 fun node member => none node (List.mem_reverse.1 member)
  rw [lastDepth, absent]
  rfl

theorem lastDepth_append {before after : Document} {heading : Node} {depth : Int}
    (here : heading.depth? = some depth) (none : ∀ node ∈ after, node.depth? = none) :
    lastDepth (before ++ heading :: after) = depth := by
  have absent : after.reverse.findSome? Node.depth? = Option.none :=
    List.findSome?_eq_none_iff.2 fun node member => none node (List.mem_reverse.1 member)
  simp [lastDepth, List.findSome?_append, absent, here]

/-- A document has no heading, or a last one. -/
theorem heading_cases (document : Document) :
    (∀ node ∈ document, node.depth? = none) ∨
      ∃ before heading after depth, document = before ++ heading :: after ∧
        heading.depth? = some depth ∧ ∀ node ∈ after, node.depth? = none := by
  cases found : document.reverse.findSome? Node.depth? with
  | none =>
      exact .inl fun node member =>
        List.findSome?_eq_none_iff.1 found node (List.mem_reverse.2 member)
  | some depth =>
      obtain ⟨after, heading, before, whole, here, none⟩ := List.findSome?_eq_some_iff.1 found
      refine .inr ⟨before.reverse, heading, after.reverse, depth, ?_, here, fun node member => ?_⟩
      · rw [← List.reverse_reverse document, whole]
        simp
      · exact none node (List.mem_reverse.1 member)

end Document

namespace Region

variable {tokens : List Text} {regions : Text → Region} {placed : Text → Option Node}
  {document : Document}

/-- What is placed in other regions does not change the depth of headings in a region. -/
theorem Apart.lastDepth_overlay (apart : Apart tokens regions document) {token : Text}
    (member : token ∈ tokens)
    (shallow : ∀ token node, placed token = some node → node.depth? = none) :
    Document.lastDepth (overlayFrom tokens regions placed 0 (document.take (regions token).start)) =
      Document.lastDepth (document.take (regions token).start) := by
  have stays : ∀ nodes position, (∀ node ∈ nodes, node.depth? = none) →
      ∀ node ∈ overlayFrom tokens regions placed position nodes, node.depth? = none := by
    intro nodes position none node found
    rcases mem_overlayFrom nodes position found with present | ⟨other, eq⟩
    · exact none node present
    · exact shallow other node eq
  rcases Document.heading_cases (document.take (regions token).start) with
    none | ⟨before, heading, after, depth, whole, here, none⟩
  · rw [Document.lastDepth_of_none none, Document.lastDepth_of_none (stays _ 0 none)]
  · -- The last heading lies outside of all regions, so it stays, and no heading follows it.
    have outside := apart.context token member before heading after whole (by simp [here]) none
    have kept : overlayAt tokens regions placed before.length heading = [heading] := by
      have hidden : (tokens.any fun token => (placed token).isSome &&
          decide ((regions token).Inside before.length)) = false := by
        refine List.any_eq_false.2 fun other present => ?_
        have side := outside other present
        have notInside : ¬(regions other).Inside before.length := by
          unfold Inside
          omega
        simp [notInside]
      have shown : (tokens.findSome? fun token =>
          if (regions token).start = before.length then placed token else Option.none) = .none := by
        refine List.findSome?_eq_none_iff.2 fun other present => if_neg ?_
        have side := outside other present
        have ordered := apart.ordered present
        omega
      rw [overlayAt, hidden, shown]
      rfl
    rw [whole, overlayFrom_append, overlayFrom_cons, Nat.zero_add, kept, List.singleton_append,
      Document.lastDepth_append here (stays after _ none), Document.lastDepth_append here none]

end Region

end ExportDocs
