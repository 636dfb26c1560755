/-
# ExportDocs.Proofs.DocComment.TypeExpression -- the type in braces is split off whole

The reader of a type expression counts the braces that are open.  A text is balanced if it opens as
many braces as it closes and closes none before it is opened; such a text between braces is read as
one type, however deep it nests (`split_braces`).

Conversely the reader finds nothing else: what it takes for the inside of the braces is balanced
(`closing_eq_some_iff`).  So a text begins with a balanced type in at most one way, the reader finds
it if there is one, and leaves the text whole if there is none (`split_balanced_or_whole`).
-/
import ExportDocs.DocComment.TypeExpression
import ExportDocs.Proofs.Text
import Mathlib.Data.List.DropRight
import Mathlib.Data.List.Infix

namespace ExportDocs

set_option autoImplicit false

/-- Every brace that is opened in the text is closed in it, and the other way round. -/
structure Text.Balanced (t : Text) : Prop where
  settled : t.count '{' = t.count '}'
  sane : ∀ start : Text, start <+: t → start.count '}' ≤ start.count '{'

instance : DecidablePred Text.Balanced := fun t =>
  decidable_of_iff
    (t.count '{' = t.count '}' ∧ ∀ start ∈ t.inits, start.count '}' ≤ start.count '{') <| by
    simp only [List.mem_inits]
    exact ⟨fun ⟨settled, sane⟩ => ⟨settled, sane⟩, fun ⟨settled, sane⟩ => ⟨settled, sane⟩⟩

/-! ## White space around a part -/

namespace Text

theorem strip_append_cons {c : Char} (solid : isBlank c = false) (before after : Text) :
    strip (before ++ c :: after) = before.dropWhile isBlank ++ c :: stripEnd after := by
  change trimEnd isBlank ((before ++ c :: after).dropWhile isBlank) = _
  rw [dropWhile_append_cons isBlank solid, trimEnd_append_cons isBlank solid]
  rfl

theorem stripEnd_stripEnd (t : Text) : stripEnd (stripEnd t) = stripEnd t := by
  simp [stripEnd, trimEnd, List.dropWhile_idempotent]

theorem strip_stripEnd (t : Text) : strip (stripEnd t) = strip t := by
  by_cases blank : ∀ c ∈ t, isBlank c = true
  · have none : t.dropWhile isBlank = [] := List.dropWhile_eq_nil_iff.2 blank
    have none' : t.reverse.dropWhile isBlank = [] :=
      List.dropWhile_eq_nil_iff.2 fun c member => blank c (List.mem_reverse.1 member)
    simp [strip, stripEnd, trimBoth, trimEnd, none, none']
  · obtain ⟨c, member, solid⟩ : ∃ c ∈ t, isBlank c = false := by simpa using blank
    obtain ⟨before, after, rfl⟩ := List.append_of_mem member
    have cut : stripEnd (before ++ c :: after) = before ++ c :: stripEnd after :=
      trimEnd_append_cons isBlank solid before after
    rw [cut, strip_append_cons solid, strip_append_cons solid, stripEnd_stripEnd]

end Text

/-! ## Braces -/

namespace TypeExpression

theorem closing_open (depth : Nat) (t : Text) :
    closing depth ('{' :: t) = (closing (depth + 1) t).map (Prod.map ('{' :: ·) id) := by
  simp only [closing, if_true]
  rfl

theorem closing_close (depth : Nat) (t : Text) :
    closing (depth + 1) ('}' :: t) = (closing depth t).map (Prod.map ('}' :: ·) id) := by
  simp only [closing, show ¬ '}' = '{' by decide, if_true, if_false]
  rfl

theorem closing_other {c : Char} (opens : c ≠ '{') (closes : c ≠ '}') (depth : Nat) (t : Text) :
    closing depth (c :: t) = (closing depth t).map (Prod.map (c :: ·) id) := by
  simp only [closing, opens, closes, if_false]
  rfl

/-- A stretch that never closes more than is open is read over, and leaves open what it opened. -/
theorem closing_append (t rest : Text) : ∀ depth : Nat,
    (∀ start : Text, start <+: t → start.count '}' ≤ depth + start.count '{') →
    closing depth (t ++ rest) =
      (closing (depth + t.count '{' - t.count '}') rest).map (Prod.map (t ++ ·) id) := by
  induction t with
  | nil =>
      intro depth _
      exact Option.map_id'.symm
  | cons c t ih =>
      intro depth sane
      have later : ∀ start : Text, start <+: t →
          (c :: start).count '}' ≤ depth + (c :: start).count '{' := fun start isStart =>
        sane (c :: start) (List.cons_prefix_cons.2 ⟨rfl, isStart⟩)
      by_cases opens : c = '{'
      · subst opens
        have reads := ih (depth + 1) fun start isStart => by
          have bound := later start isStart
          simp only [List.count_cons_self, List.count_cons_of_ne (by decide : '{' ≠ '}')] at bound
          omega
        have left : depth + 1 + t.count '{' = depth + ('{' :: t).count '{' := by
          rw [List.count_cons_self]
          omega
        rw [List.cons_append, closing_open, reads, left, Option.map_map,
          List.count_cons_of_ne (by decide : '{' ≠ '}')]
        rfl
      · by_cases closes : c = '}'
        · subst closes
          obtain ⟨outer, rfl⟩ : ∃ outer, depth = outer + 1 := by
            have bound := later [] List.nil_prefix
            have some : 1 ≤ depth := by simpa using bound
            exact ⟨depth - 1, by omega⟩
          have reads := ih outer fun start isStart => by
            have bound := later start isStart
            simp only [List.count_cons_self, List.count_cons_of_ne (by decide : '}' ≠ '{')] at bound
            omega
          have left : outer + t.count '{' - t.count '}' =
              outer + 1 + t.count '{' - ('}' :: t).count '}' := by
            rw [List.count_cons_self]
            omega
          rw [List.cons_append, closing_close, reads, left, Option.map_map,
            List.count_cons_of_ne (by decide : '}' ≠ '{')]
          rfl
        · simp only [List.count_cons_of_ne opens, List.count_cons_of_ne closes] at later ⊢
          rw [List.cons_append, closing_other opens closes, ih depth later, Option.map_map]
          rfl

theorem closing_balanced {t : Text} (balanced : t.Balanced) (rest : Text) :
    closing 0 (t ++ '}' :: rest) = some (t, rest) := by
  have sane : ∀ start : Text, start <+: t → start.count '}' ≤ 0 + start.count '{' := by
    simpa using balanced.sane
  rw [closing_append t _ 0 sane, balanced.settled, Nat.zero_add, Nat.sub_self]
  simp [closing]

/-- **A balanced type in braces is split off whole.** -/
theorem split_braces {t : Text} (balanced : t.Balanced) (rest : Text) :
    split ('{' :: (t ++ '}' :: rest)) = (Text.strip t, Text.strip rest) := by
  have stripped : Text.strip ('{' :: (t ++ '}' :: rest)) =
      '{' :: (t ++ '}' :: Text.stripEnd rest) := by
    have opening : ('{' :: t).dropWhile Text.isBlank = '{' :: t :=
      List.dropWhile_cons_of_neg (by decide)
    have closes := Text.strip_append_cons (c := '}') (by decide) ('{' :: t) rest
    rwa [opening] at closes
  simp only [split, stripped, closing_balanced balanced, Text.strip_stripEnd]

/-! ## What the reader finds -/

/-- A step of the reader: it stops at a brace that closes more than is open, and else goes on with
as many braces open as there are then. -/
theorem closing_cons {c : Char} {t inside rest : Text} {depth : Nat}
    (found : closing depth (c :: t) = some (inside, rest)) :
    (c = '}' ∧ depth = 0 ∧ inside = [] ∧ rest = t) ∨
    ∃ next later, closing next t = some (later, rest) ∧ inside = c :: later ∧
      next + [c].count '}' = depth + [c].count '{' := by
  have goesOn : ∀ {next : Nat},
      (closing next t).map (Prod.map (c :: ·) id) = some (inside, rest) →
      ∃ later, closing next t = some (later, rest) ∧ inside = c :: later := by
    intro next found
    obtain ⟨⟨later, after⟩, reads, same⟩ := Option.map_eq_some_iff.1 found
    obtain ⟨rfl, rfl⟩ : c :: later = inside ∧ after = rest := by simpa using same
    exact ⟨later, reads, rfl⟩
  by_cases opens : c = '{'
  · subst opens
    rw [closing_open] at found
    obtain ⟨later, reads, same⟩ := goesOn found
    exact .inr ⟨depth + 1, later, reads, same, rfl⟩
  · by_cases closes : c = '}'
    · subst closes
      cases depth with
      | zero =>
          obtain ⟨rfl, rfl⟩ : [] = inside ∧ t = rest := by simpa [closing] using found
          exact .inl ⟨rfl, rfl, rfl, rfl⟩
      | succ depth =>
          rw [closing_close] at found
          obtain ⟨later, reads, same⟩ := goesOn found
          exact .inr ⟨depth, later, reads, same, rfl⟩
    · rw [closing_other opens closes] at found
      obtain ⟨later, reads, same⟩ := goesOn found
      have uncounted : [c].count '}' = [c].count '{' := by simp [opens, closes]
      exact .inr ⟨depth, later, reads, same, by rw [uncounted]⟩

/-- What is read closes all that was open, and no beginning of it closes more. -/
theorem closing_stops (t : Text) : ∀ {depth : Nat} {inside rest : Text},
    closing depth t = some (inside, rest) →
    t = inside ++ '}' :: rest ∧
      inside.count '}' = depth + inside.count '{' ∧
      ∀ start : Text, start <+: inside → start.count '}' ≤ depth + start.count '{' := by
  induction t with
  | nil =>
      intro depth inside rest found
      cases found
  | cons c t ih =>
      intro depth inside rest found
      rcases closing_cons found with ⟨rfl, rfl, rfl, rfl⟩ | ⟨next, later, reads, rfl, opened⟩
      · refine ⟨rfl, rfl, ?_⟩
        intro start isStart
        rw [List.prefix_nil.1 isStart]
        exact Nat.zero_le _
      · obtain ⟨whole, settled, sane⟩ := ih reads
        have counted : ∀ (brace : Char) (further : Text),
            (c :: further).count brace = [c].count brace + further.count brace := by
          intro brace further
          show ([c] ++ further).count brace = _
          exact List.count_append
        refine ⟨by rw [whole, List.cons_append], ?_, ?_⟩
        · rw [counted '}' later, counted '{' later]
          omega
        · intro start isStart
          rcases List.prefix_cons_iff.1 isStart with rfl | ⟨further, rfl, isFurther⟩
          · exact Nat.zero_le _
          · have bound := sane further isFurther
            rw [counted '}' further, counted '{' further]
            omega

/-- **The reader finds just the balanced beginnings before a closing brace.** -/
theorem closing_eq_some_iff {t inside rest : Text} :
    closing 0 t = some (inside, rest) ↔ t = inside ++ '}' :: rest ∧ inside.Balanced := by
  constructor
  · intro found
    obtain ⟨whole, settled, sane⟩ := closing_stops t found
    simp only [Nat.zero_add] at settled sane
    exact ⟨whole, settled.symm, sane⟩
  · rintro ⟨rfl, balanced⟩
    exact closing_balanced balanced rest

/-- The text is a balanced type in braces, and what follows it. -/
structure IsTyped (body type rest : Text) : Prop where
  whole : body = '{' :: (type ++ '}' :: rest)
  balanced : type.Balanced

theorem isTyped_iff_closing {inner type rest : Text} :
    IsTyped ('{' :: inner) type rest ↔ closing 0 inner = some (type, rest) := by
  rw [closing_eq_some_iff]
  constructor
  · rintro ⟨whole, balanced⟩
    exact ⟨(List.cons.inj whole).2, balanced⟩
  · rintro ⟨rfl, balanced⟩
    exact ⟨rfl, balanced⟩

/-- A text begins with a balanced type in at most one way. -/
theorem IsTyped.unique {body type rest type' rest' : Text} (typed : IsTyped body type rest)
    (typed' : IsTyped body type' rest') : type' = type ∧ rest' = rest := by
  obtain rfl := typed.whole
  have found := isTyped_iff_closing.1 typed
  rw [isTyped_iff_closing.1 typed'] at found
  simpa using found

/-- **A balanced type in braces at the start of a text is split off whole, and a text without one
stays whole.**  White space at the ends of the text does not count, the type can nest to any depth,
and there is at most one way to read it. -/
theorem split_balanced_or_whole (t : Text) :
    (∀ type rest, IsTyped (Text.strip t) type rest →
      split t = (Text.strip type, Text.strip rest) ∧
        ∀ type' rest', IsTyped (Text.strip t) type' rest' → type' = type ∧ rest' = rest) ∧
    ((∀ type rest, ¬ IsTyped (Text.strip t) type rest) → split t = ([], Text.strip t)) := by
  constructor
  · intro type rest typed
    refine ⟨?_, fun type' rest' typed' => typed.unique typed'⟩
    have body := typed.whole
    rw [body] at typed
    simp only [split, body, isTyped_iff_closing.1 typed]
  · intro untyped
    simp only [split]
    split
    · rename_i inner body
      split
      · rename_i type rest found
        rw [body] at untyped
        exact absurd (isTyped_iff_closing.2 found) (untyped type rest)
      · rfl
    · rfl

/-- Two groups of braces beside each other, and one that is not closed. -/
theorem split_balanced_or_whole_of_groups :
    IsTyped (Text.strip " \x7b a: \x7bb\x7d \x7d \x7bc\x7d d ".toList)
        " a: \x7bb\x7d ".toList " \x7bc\x7d d".toList ∧
      split " \x7b a: \x7bb\x7d \x7d \x7bc\x7d d ".toList =
        ("a: \x7bb\x7d".toList, "\x7bc\x7d d".toList) ∧
    (∀ type rest, ¬ IsTyped (Text.strip "\x7ba: \x7bb\x7d ".toList) type rest) ∧
      split "\x7ba: \x7bb\x7d ".toList = ([], "\x7ba: \x7bb\x7d".toList) := by
  have typed : IsTyped (Text.strip " \x7b a: \x7bb\x7d \x7d \x7bc\x7d d ".toList)
      " a: \x7bb\x7d ".toList " \x7bc\x7d d".toList := ⟨by decide, by decide⟩
  have untyped : ∀ type rest, ¬ IsTyped (Text.strip "\x7ba: \x7bb\x7d ".toList) type rest := by
    intro type rest typed
    have found : closing 0 "a: \x7bb\x7d".toList = some (type, rest) := isTyped_iff_closing.1 typed
    have none : closing 0 "a: \x7bb\x7d".toList = none := by decide
    rw [none] at found
    cases found
  exact ⟨typed, ((split_balanced_or_whole _).1 _ _ typed).1,
    untyped, (split_balanced_or_whole _).2 untyped⟩

end TypeExpression

end ExportDocs
