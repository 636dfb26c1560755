/-
# ExportDocs.Proofs.Text -- cutting texts

The pieces of a text between the occurrences of a character are free of it, and a text that is put
together from such pieces falls into them again.  What is cut off the ends of a text stops at the
first and at the last character that is kept (`Solid.trimBoth`).  The order of texts is a linear
one.
-/
import ExportDocs.Text.Blank

namespace ExportDocs.Text

set_option autoImplicit false

theorem splitAtChar_free (c : Char) (t : Text) : ∀ piece ∈ splitAtChar c t, c ∉ piece := by
  induction t with
  | nil => simp [splitAtChar]
  | cons d t ih =>
      unfold splitAtChar
      by_cases same : d = c
      · simpa [same] using ih
      · cases pieces : splitAtChar c t with
        | nil => simpa [same] using Ne.symm same
        | cons first rest =>
            rw [pieces] at ih
            have inFirst : c ∉ first := ih first (by simp)
            simp only [same, if_false]
            refine List.forall_mem_cons.2 ⟨?_, fun piece member => ih piece (by simp [member])⟩
            simp [Ne.symm same, inFirst]

theorem splitAtChar_ne_nil (c : Char) (t : Text) : splitAtChar c t ≠ [] := by
  cases t with
  | nil => simp [splitAtChar]
  | cons d t =>
      unfold splitAtChar
      split
      · simp
      · split <;> simp

/-- An occurrence of the character divides the pieces. -/
theorem splitAtChar_append_cons (c : Char) (t rest : Text) :
    splitAtChar c (t ++ c :: rest) = splitAtChar c t ++ splitAtChar c rest := by
  induction t with
  | nil => simp [splitAtChar]
  | cons d t ih =>
      rw [List.cons_append, splitAtChar, splitAtChar, ih]
      by_cases same : d = c
      · rw [if_pos same, if_pos same, List.cons_append]
      · rw [if_neg same, if_neg same]
        obtain ⟨piece, pieces, first⟩ := List.exists_cons_of_ne_nil (splitAtChar_ne_nil c t)
        simp only [first, List.cons_append]

theorem splitAtChar_eq_singleton {c : Char} {t : Text} (free : c ∉ t) : splitAtChar c t = [t] := by
  induction t with
  | nil => rfl
  | cons d t ih =>
      simp only [List.mem_cons, not_or] at free
      rw [splitAtChar, if_neg (Ne.symm free.1), ih free.2]

theorem splitAtChar_append {c : Char} {t : Text} (free : c ∉ t) (rest : Text) :
    splitAtChar c (t ++ c :: rest) = t :: splitAtChar c rest := by
  rw [splitAtChar_append_cons, splitAtChar_eq_singleton free, List.singleton_append]

/-- Every part but the last is followed by the separator. -/
theorem joinWith_concat (separator last : Text) (front : List Text) :
    joinWith separator (front ++ [last]) = front.flatMap (· ++ separator) ++ last := by
  induction front with
  | nil => rfl
  | cons first front ih =>
      have second : ∃ next rest, front ++ [last] = next :: rest := by
        cases front with
        | nil => exact ⟨last, [], rfl⟩
        | cons next rest => exact ⟨next, rest ++ [last], rfl⟩
      obtain ⟨next, rest, split⟩ := second
      rw [List.cons_append, split, joinWith, ← split, ih]
      simp

theorem trimEnd_append_cons (drop : Char → Bool) {c : Char} (kept : drop c = false)
    (before after : Text) :
    trimEnd drop (before ++ c :: after) = before ++ c :: trimEnd drop after := by
  have tail : (c :: before.reverse).dropWhile drop = c :: before.reverse := by simp [kept]
  simp only [trimEnd, List.reverse_append, List.reverse_cons, List.append_assoc,
    List.singleton_append, List.dropWhile_append, tail]
  split
  · rename_i none
    simp [List.isEmpty_iff.1 none]
  · simp

/-- Cutting back to a character cuts off what follows its last occurrence. -/
theorem trimEnd_ne_append {c : Char} {after : Text} (free : c ∉ after) (before : Text) :
    trimEnd (· != c) (before ++ c :: after) = before ++ [c] := by
  have dropped : (after.reverse ++ []).dropWhile (· != c) = [] := by
    refine List.dropWhile_append_of_pos fun d member => ?_
    have other : d ≠ c := fun same => free (same ▸ List.mem_reverse.1 member)
    simpa using other
  rw [trimEnd_append_cons _ (by simp), trimEnd, ← List.append_nil after.reverse, dropped,
    List.reverse_nil]

/-- An end without a character is an end of what follows its last occurrence. -/
theorem endsWith_append_cons {c : Char} {tail : Text} (free : c ∉ tail) (before after : Text) :
    endsWith (before ++ c :: after) tail = endsWith after tail := by
  rw [endsWith, endsWith, Bool.eq_iff_iff, List.isSuffixOf_iff_suffix, List.isSuffixOf_iff_suffix]
  constructor
  · rintro ⟨start, whole⟩
    rcases List.append_eq_append_iff.1 whole with ⟨middle, -, rest⟩ | ⟨middle, -, rest⟩
    · exact absurd (by simp [rest]) free
    · cases middle with
      | nil =>
          have same : tail = c :: after := rest.symm
          exact absurd (by simp [same]) free
      | cons d middle => exact ⟨middle, (List.cons.inj rest).2.symm⟩
  · exact fun suffix => (suffix.trans (List.suffix_cons c after)).trans (List.suffix_append _ _)

/-! ## The order of texts -/

theorem le_cons {c d : Char} {t u : Text} :
    le (c :: t) (d :: u) = true ↔ c.toNat < d.toNat ∨ c = d ∧ le t u = true := by
  simp [le]

theorem le_total (t : Text) : ∀ u : Text, le t u = true ∨ le u t = true := by
  induction t with
  | nil => exact fun u => .inl rfl
  | cons c t ih =>
      intro u
      cases u with
      | nil => exact .inr rfl
      | cons d u =>
          rw [le_cons, le_cons]
          rcases Nat.lt_trichotomy c.toNat d.toNat with before | same | after
          · exact .inl (.inl before)
          · have same : c = d := Char.toNat_inj.1 same
            rcases ih u with first | second
            · exact .inl (.inr ⟨same, first⟩)
            · exact .inr (.inr ⟨same.symm, second⟩)
          · exact .inr (.inl after)

theorem le_trans {t : Text} : ∀ {u v : Text}, le t u = true → le u v = true → le t v = true := by
  induction t with
  | nil => exact fun _ _ => rfl
  | cons c t ih =>
      intro u v first second
      cases u with
      | nil => cases first
      | cons d u =>
          cases v with
          | nil => cases second
          | cons e v =>
              rw [le_cons] at first second ⊢
              rcases first with before | ⟨rfl, first⟩
              · rcases second with further | ⟨rfl, -⟩
                · exact .inl (Nat.lt_trans before further)
                · exact .inl before
              · rcases second with further | ⟨rfl, second⟩
                · exact .inl further
                · exact .inr ⟨rfl, ih first second⟩

theorem le_antisymm {t : Text} : ∀ {u : Text}, le t u = true → le u t = true → t = u := by
  induction t with
  | nil =>
      intro u _ second
      cases u with
      | nil => rfl
      | cons d u => cases second
  | cons c t ih =>
      intro u first second
      cases u with
      | nil => cases first
      | cons d u =>
          rw [le_cons] at first second
          rcases first with before | ⟨rfl, first⟩
          · rcases second with after | ⟨rfl, -⟩
            · omega
            · omega
          · rcases second with after | ⟨-, second⟩
            · omega
            · rw [ih first second]

/-! ## Beginnings -/

theorem dropHead?_eq_some {head t rest : Text} :
    dropHead? head t = some rest ↔ t = head ++ rest := by
  induction head generalizing t with
  | nil => simp [dropHead?]
  | cons c head ih =>
      cases t with
      | nil => simp [dropHead?]
      | cons d t =>
          by_cases same : c = d
          · simp [dropHead?, same, ih]
          · simp [dropHead?, same, Ne.symm same]

/-! ## White space at the ends -/

theorem dropWhile_append_cons (drop : Char → Bool) {c : Char} (kept : drop c = false)
    (before after : Text) :
    (before ++ c :: after).dropWhile drop = before.dropWhile drop ++ c :: after := by
  rw [List.dropWhile_append]
  split
  · rename_i none
    simp [List.isEmpty_iff.1 none, kept]
  · rfl

theorem ne_newline_of_solid {c : Char} (solid : isBlank c = false) : (c == '\n') = false := by
  simp only [beq_eq_false_iff_ne]
  rintro rfl
  exact absurd solid (by decide)

/-- A text with no white space at its ends. -/
structure Solid (t : Text) : Prop where
  first : ∃ c rest, t = c :: rest ∧ isBlank c = false
  last : ∃ front c, t = front ++ [c] ∧ isBlank c = false

/-- Trimming white space stops at a solid text. -/
theorem Solid.trimBoth {t : Text} (solid : Solid t) {drop : Char → Bool}
    (blank : ∀ c, drop c = true → isBlank c = true) {before after : Text}
    (dropped : ∀ c ∈ before, drop c = true) (dropped' : ∀ c ∈ after, drop c = true) :
    Text.trimBoth drop (before ++ t ++ after) = t := by
  have keeps : ∀ {c : Char}, isBlank c = false → drop c = false := by
    intro c solid
    refine Bool.eq_false_iff.2 fun drops => ?_
    rw [blank c drops] at solid
    cases solid
  obtain ⟨c, rest, head, first⟩ := solid.first
  obtain ⟨front, d, tail, last⟩ := solid.last
  have start : (before ++ t ++ after).dropWhile drop = t ++ after := by
    rw [List.append_assoc, List.dropWhile_append_of_pos dropped, head, List.cons_append,
      List.dropWhile_cons_of_neg (by simp [keeps first])]
  have stop : trimEnd drop after = [] := by
    have all : (after.reverse ++ []).dropWhile drop = [] :=
      List.dropWhile_append_of_pos fun c member => dropped' c (List.mem_reverse.1 member)
    rw [List.append_nil] at all
    rw [trimEnd, all, List.reverse_nil]
  rw [Text.trimBoth, start, tail, List.append_assoc, List.singleton_append]
  change trimEnd drop _ = _
  rw [trimEnd_append_cons drop (keeps last), stop]

theorem Solid.strip {t : Text} (solid : Solid t) : Text.strip t = t := by
  have trimmed : Text.trimBoth isBlank ([] ++ t ++ []) = t :=
    solid.trimBoth (fun _ blank => blank) (by simp) (by simp)
  rwa [List.nil_append, List.append_nil] at trimmed

end ExportDocs.Text
