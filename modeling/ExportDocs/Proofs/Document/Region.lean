/-
# ExportDocs.Proofs.Document.Region -- where the region of a token lies

With the markers that are not configured, the markers of two tokens are different, and no start
marker is an end marker.  A document with a region can be cut at its two markers (`Region.Cuts`),
and a document that can be cut so has that region: every statement about regions goes by these cuts
rather than by positions.
-/
import ExportDocs.Document.Region

namespace ExportDocs

set_option autoImplicit false

/-! ## The markers of a token -/

namespace Template

/-- Characters other than braces stand for themselves. -/
theorem fillWith_append (expand : Text → Except TemplateFault Text) (token : Text)
    (head rest : Text) (plain : ∀ c ∈ head, c ≠ '{' ∧ c ≠ '}') :
    fillWith expand token (head ++ rest) = (fillWith expand token rest).map (head ++ ·) := by
  induction head with
  | nil =>
      rw [List.nil_append]
      cases fillWith expand token rest <;> rfl
  | cons c head ih =>
      obtain ⟨here, there⟩ := List.forall_mem_cons.1 plain
      rw [List.cons_append, fillWith.eq_def]
      simp only [if_neg here.1, if_neg here.2, ih there]
      cases fillWith expand token rest <;> rfl

/-- A field without a layout stands for the token. -/
theorem fillWith_token (expand : Text → Except TemplateFault Text) (token rest : Text) :
    fillWith expand token ("\x7btoken\x7d".toList ++ rest) =
      (fillWith expand token rest).map (token ++ ·) := by
  have field : TemplateField.read ('t' :: ("oken\x7d".toList ++ rest)) =
      .ok ({ name := "token".toList }, 6) := rfl
  have layout : Layout.read [] = .ok {} := rfl
  have value : Layout.apply {} token = token := by simp [Layout.apply]
  have found : TemplateField.lookup token "token".toList = .ok token := rfl
  change fillWith expand token ('{' :: 't' :: ("oken\x7d".toList ++ rest)) = _
  rw [fillWith.eq_def]
  dsimp only
  rw [if_pos rfl, if_neg (by decide), field]
  change (do
    let value ← TemplateField.lookup token "token".toList
    _ : Except TemplateFault Text) = _
  rw [found]
  change (do
    return Layout.apply {} token ++ (← fillWith expand token rest) : Except TemplateFault Text) = _
  rw [value]
  cases fillWith expand token rest <;> rfl

theorem fillWith_nil (expand : Text → Except TemplateFault Text) (token : Text) :
    fillWith expand token [] = .ok [] := by
  rw [fillWith.eq_def]

end Template

namespace Region

/-- The marker that opens the region of a token, unless it is configured. -/
def startMarker (token : Text) : Text := "<!-- START TOKEN(".toList ++ token ++ ") -->".toList

/-- The marker that closes the region of a token, unless it is configured. -/
def stopMarker (token : Text) : Text := "<!-- END TOKEN(".toList ++ token ++ ") -->".toList

theorem fill_marker (token head tail : Text) (plainHead : ∀ c ∈ head, c ≠ '{' ∧ c ≠ '}')
    (plainTail : ∀ c ∈ tail, c ≠ '{' ∧ c ≠ '}') :
    Template.fill token (head ++ ("\x7btoken\x7d".toList ++ tail)) =
      .ok (head ++ token ++ tail) := by
  have filled := fun expand => Template.fillWith_append expand token tail [] plainTail
  simp only [List.append_nil, Template.fillWith_nil] at filled
  rw [Template.fill, Template.fillWith_append _ _ _ _ plainHead, Template.fillWith_token, filled]
  simp [Except.map]

theorem startMarkerOf_default (token : Text) :
    ({} : Settings).startMarkerOf token = .ok (startMarker token) :=
  fill_marker token "<!-- START TOKEN(".toList ") -->".toList (by simp) (by simp)

theorem endMarkerOf_default (token : Text) :
    ({} : Settings).endMarkerOf token = .ok (stopMarker token) :=
  fill_marker token "<!-- END TOKEN(".toList ") -->".toList (by simp) (by simp)

theorem startMarker_ne_stopMarker (token other : Text) : startMarker token ≠ stopMarker other := by
  intro same
  have letters : some 'S' = some 'E' := congrArg (fun marker => marker[5]?) same
  cases letters

theorem stopMarker_eq_concat (token : Text) : ∃ stop, stopMarker token = stop ++ ['>'] := by
  have tail : ") -->".toList = ") --".toList ++ ['>'] := by decide
  refine ⟨"<!-- END TOKEN(".toList ++ token ++ ") --".toList, ?_⟩
  rw [List.append_assoc _ _ ['>'], ← tail]
  rfl

/-! ## Where a region lies -/

/-- A document cut at the region of a token: at the first start marker, and at the first end marker,
which stands after it. -/
structure Cuts (token : Text) (document before inside after : Document) : Prop where
  whole : document = before ++ .markup (startMarker token) ::
    (inside ++ .markup (stopMarker token) :: after)
  first_start : ∀ node ∈ before, node.isMarkup (startMarker token) = false
  first_stop : ∀ node ∈ before ++ inside, node.isMarkup (stopMarker token) = false

end Region

theorem Node.isMarkup_iff {value : Text} {node : Node} :
    node.isMarkup value = true ↔ node = .markup value := by
  cases node <;> simp [isMarkup]

namespace Document

theorem findMarker?_append {marker : Text} {before : Document} (after : Document)
    (absent : ∀ node ∈ before, node.isMarkup marker = false) :
    findMarker? marker (before ++ .markup marker :: after) = some before.length := by
  rw [findMarker?, List.findIdx?_append, List.findIdx?_eq_none_iff.2 absent]
  simp [List.findIdx?_cons, Node.isMarkup]

theorem findMarker?_eq_some {marker : Text} {document : Document} {position : Nat}
    (found : document.findMarker? marker = some position) :
    ∃ before after, document = before ++ .markup marker :: after ∧ before.length = position ∧
      ∀ node ∈ before, node.isMarkup marker = false := by
  obtain ⟨bound, here, earlier⟩ := List.findIdx?_eq_some_iff_getElem.1 found
  refine ⟨document.take position, document.drop (position + 1), ?_, by simp; omega, ?_⟩
  · rw [← Node.isMarkup_iff.1 here, List.getElem_cons_drop, List.take_append_drop]
  · intro node member
    obtain ⟨i, inside, rfl⟩ := List.mem_take_iff_getElem.1 member
    simpa using earlier i (by omega)

end Document

namespace Region

variable {token : Text} {document before inside after : Document}

theorem find?_default (token : Text) (document : Document) :
    find? {} token document = .ok (do
      let start ← document.findMarker? (startMarker token)
      let stop ← document.findMarker? (stopMarker token)
      if start < stop then some { start, stop } else none) := by
  simp only [find?, startMarkerOf_default, endMarkerOf_default, bind, Except.bind]
  cases document.findMarker? (startMarker token) with
  | none => rfl
  | some start => cases document.findMarker? (stopMarker token) <;> rfl

theorem Cuts.isMarkup_stop (cuts : Cuts token document before inside after) :
    ∀ node ∈ before ++ .markup (startMarker token) :: inside,
      node.isMarkup (stopMarker token) = false := by
  intro node member
  rcases List.mem_append.1 member with early | late
  · exact cuts.first_stop node (List.mem_append_left _ early)
  · rcases List.mem_cons.1 late with rfl | within
    · simpa [Node.isMarkup] using startMarker_ne_stopMarker token token
    · exact cuts.first_stop node (List.mem_append_right _ within)

/-- The region of a document that is cut there. -/
theorem Cuts.find? (cuts : Cuts token document before inside after) :
    find? {} token document =
      .ok (some { start := before.length, stop := before.length + (inside.length + 1) }) := by
  have start : document.findMarker? (startMarker token) = some before.length := by
    rw [cuts.whole]
    exact Document.findMarker?_append _ cuts.first_start
  have stop : document.findMarker? (stopMarker token) =
      some (before.length + (inside.length + 1)) := by
    have found := Document.findMarker?_append after cuts.isMarkup_stop
    rwa [List.append_assoc, List.cons_append, ← cuts.whole, List.length_append,
      List.length_cons] at found
  rw [find?_default, start, stop]
  simp

/-- A document with a region can be cut there. -/
theorem find?_eq_some {region : Region} (found : find? {} token document = .ok (some region)) :
    ∃ before inside after, Cuts token document before inside after ∧
      region.start = before.length ∧ region.stop = before.length + (inside.length + 1) := by
  rw [find?_default] at found
  simp only [Except.ok.injEq, Option.bind_eq_bind, Option.bind_eq_some_iff,
    Option.ite_none_right_eq_some, Option.some.injEq] at found
  obtain ⟨start, atStart, stop, atStop, ordered, rfl⟩ := found
  obtain ⟨before, rest, whole, rfl, firstStart⟩ := Document.findMarker?_eq_some atStart
  obtain ⟨early, after, again, rfl, firstStop⟩ := Document.findMarker?_eq_some atStop
  -- The start marker stands in what precedes the end marker.
  obtain ⟨tail, early_eq, rest_eq⟩ : ∃ tail, early = before ++ tail ∧
      .markup (startMarker token) :: rest = tail ++ .markup (stopMarker token) :: after := by
    rcases List.append_eq_append_iff.1 (whole.symm.trans again) with found | ⟨tail, shorter, -⟩
    · exact found
    · rw [shorter, List.length_append] at ordered
      omega
  cases tail with
  | nil => simp [early_eq] at ordered
  | cons node inside =>
      obtain ⟨rfl, rfl⟩ := List.cons.inj rest_eq
      subst early_eq
      refine ⟨before, inside, after, ⟨whole, firstStart, fun node member => ?_⟩, rfl, by simp⟩
      refine firstStop node ?_
      rcases List.mem_append.1 member with outside | within
      · exact List.mem_append_left _ outside
      · exact List.mem_append_right _ (List.mem_cons_of_mem _ within)

/-- A document without a region of a token: a marker is missing, or the end marker comes first. -/
def Lacks (token : Text) (document : Document) : Prop :=
  ∀ start stop, document.findMarker? (startMarker token) = some start →
    document.findMarker? (stopMarker token) = some stop → ¬start < stop

theorem Lacks.find? (lacks : Lacks token document) :
    find? {} token document = .ok none := by
  rw [find?_default]
  cases atStart : document.findMarker? (startMarker token) with
  | none => rfl
  | some start =>
      cases atStop : document.findMarker? (stopMarker token) with
      | none => rfl
      | some stop => exact congrArg Except.ok (if_neg (lacks start stop atStart atStop))

/-! ## What embedding does -/

theorem replace_cut {α : Type} (first inside last : List α) (start stop entry : α) :
    Region.replace { start := first.length, stop := first.length + (inside.length + 1) } entry
        (first ++ start :: (inside ++ stop :: last)) =
      first ++ start :: entry :: stop :: last := by
  rw [Region.replace, List.take_length_add_append, List.drop_length_add_append, List.drop_succ_cons,
    List.drop_left, List.append_assoc]
  rfl

/-- What embedding does to a document that is cut at the region. -/
theorem Cuts.replace (cuts : Cuts token document before inside after) (entry : Node) :
    Region.replace { start := before.length, stop := before.length + (inside.length + 1) } entry
        document =
      before ++ .markup (startMarker token) :: entry :: .markup (stopMarker token) :: after := by
  rw [cuts.whole]
  exact replace_cut before inside after _ _ entry

end Region

end ExportDocs
