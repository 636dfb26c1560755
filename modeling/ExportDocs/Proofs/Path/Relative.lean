/-
# ExportDocs.Proofs.Path.Relative -- written paths, and the way from one place to another

A well-formed path is read back from its text (`ofText_toText`), and the directory of a file is its
path without the last part (`folderOf_toText`).

The way from a directory to a path goes up to what the two have in common, and down from there.
Taken from the directory, it leads to the path (`normalize_join_relativeTo`).

The parts below a directory are the same wherever the directory lies (`under`): the way to them is
their own text, and a path that goes on from them without climbing above the directory stays at the
same parts below it (`normalize_under`).
-/
import ExportDocs.Proofs.Path

namespace ExportDocs.Path

set_option autoImplicit false

/-! ## Written paths are read back -/

theorem partsOf_rootText (root : Root) (t : Text) : partsOf (rootText root ++ t) = partsOf t := by
  cases root <;> simp [rootText, partsOf, Text.splitAtChar]

theorem partsOf_singleton {part : Text} (formed : part ≠ [] ∧ part ≠ ['.'] ∧ '/' ∉ part) :
    partsOf part = [part] := by
  obtain ⟨nonempty, notDot, free⟩ := formed
  simp [partsOf, Text.splitAtChar_eq_singleton free, nonempty, notDot]

/-- Parts that are each followed by a slash are read one after another. -/
theorem partsOf_steps {parts : List Text}
    (formed : ∀ part ∈ parts, part ≠ [] ∧ part ≠ ['.'] ∧ '/' ∉ part) (t : Text) :
    partsOf (parts.flatMap (· ++ ['/']) ++ t) = parts ++ partsOf t := by
  induction parts with
  | nil => rfl
  | cons part rest ih =>
      obtain ⟨⟨nonempty, notDot, free⟩, later⟩ := List.forall_mem_cons.1 formed
      have text : (part :: rest).flatMap (· ++ ['/']) ++ t =
          part ++ '/' :: (rest.flatMap (· ++ ['/']) ++ t) := by simp
      have further := ih later
      rw [partsOf] at further
      rw [text, partsOf, Text.splitAtChar_append free, List.filter_cons_of_pos (by
        simp [nonempty, notDot]), further]
      rfl

theorem toText_concat (root : Root) (front : List Text) (last : Text) :
    toText { root, parts := front ++ [last] } =
      rootText root ++ (front.flatMap (· ++ ['/']) ++ last) := by
  unfold toText
  split
  · rename_i none
    simp at none
  · rw [Text.joinWith_concat]

/-- Text after a path goes on with its last part. -/
theorem toText_append (root : Root) (front : List Text) (last tail : Text) :
    toText { root, parts := front ++ [last] } ++ tail =
      toText { root, parts := front ++ [last ++ tail] } := by
  simp [toText_concat]

/-- **A well-formed path is read back from its text.** -/
theorem ofText_toText {path : Path} (formed : path.WellFormed) : ofText path.toText = path := by
  have sameRoot : (ofText path.toText).root = path.root := by
    simpa using ofText_toText_append_root formed (List.takeWhile_nil : [].takeWhile _ = [])
  have sameParts : (ofText path.toText).parts = path.parts := by
    obtain ⟨root, parts⟩ := path
    rcases List.eq_nil_or_concat parts with rfl | ⟨front, last, rfl⟩
    · cases root <;> rfl
    · have formedFront : ∀ part ∈ front, part ≠ [] ∧ part ≠ ['.'] ∧ '/' ∉ part :=
        fun part member => formed part (by simp [member])
      change partsOf _ = _
      rw [List.concat_eq_append, toText_concat, partsOf_rootText, partsOf_steps formedFront,
        partsOf_singleton (formed last (by simp))]
  cases read : ofText path.toText
  cases path
  simp_all

/-- What stands before the last part of a path with a root ends with a slash. -/
theorem exists_slash_before {root : Root} (rooted : root ≠ .current) (front : List Text) :
    ∃ before, rootText root ++ front.flatMap (· ++ ['/']) = before ++ ['/'] := by
  rcases List.eq_nil_or_concat front with rfl | ⟨front, last, rfl⟩
  · cases root with
    | current => exact absurd rfl rooted
    | absolute => exact ⟨[], rfl⟩
    | network => exact ⟨['/'], rfl⟩
  · exact ⟨rootText root ++ front.flatMap (· ++ ['/']) ++ last, by simp⟩

/-- The directory of a file is its path without the last part. -/
theorem folderOf_toText {root : Root} (rooted : root ≠ .current) {front : List Text} {last : Text}
    (formed : WellFormed { root, parts := front ++ [last] }) :
    folderOf (toText { root, parts := front ++ [last] }) = { root, parts := front } := by
  have free : '/' ∉ last := (formed last (by simp)).2.2
  have formedFront : ∀ part ∈ front, part ≠ [] ∧ part ≠ ['.'] ∧ '/' ∉ part :=
    fun part member => formed part (by simp [member])
  have sameRoot : (folderOf (toText { root, parts := front ++ [last] })).root = root := by
    rw [folderOf_root, ofText_toText formed]
  have sameParts : (folderOf (toText { root, parts := front ++ [last] })).parts = front := by
    obtain ⟨before, ends⟩ := exists_slash_before rooted front
    have text : toText { root, parts := front ++ [last] } = before ++ '/' :: last := by
      rw [toText_concat, ← List.append_assoc, ends, List.append_assoc, List.singleton_append]
    change partsOf (Text.trimEnd (· != '/') _) = front
    rw [text, Text.trimEnd_ne_append free, ← ends, partsOf_rootText]
    simpa [partsOf, Text.splitAtChar] using partsOf_steps formedFront []
  cases folder : folderOf (toText { root, parts := front ++ [last] })
  simp_all

/-! ## Normal forms -/

theorem foldl_take_of_no_up (root : Root) (parts : List Text) (clean : up ∉ parts) :
    ∀ reversed, parts.foldl (take root) reversed = parts.reverse ++ reversed := by
  induction parts with
  | nil => simp
  | cons part rest ih =>
      intro reversed
      simp only [List.mem_cons, not_or] at clean
      have taken : take root reversed part = part :: reversed := by simp [take, Ne.symm clean.1]
      rw [List.foldl_cons, taken, ih clean.2]
      simp

/-- A path without double dots is its own normal form. -/
theorem normalize_of_no_up {path : Path} (clean : up ∉ path.parts) : path.normalize = path := by
  simp [normalize, foldl_take_of_no_up path.root path.parts clean]

/-- Going up from a path with a root takes parts away, as long as there are any. -/
theorem foldl_take_ups {root : Root} (rooted : root ≠ .current) (n : Nat) :
    ∀ reversed : List Text, up ∉ reversed →
      (List.replicate n up).foldl (take root) reversed = reversed.drop n := by
  induction n with
  | zero => simp
  | succ n ih =>
      intro reversed clean
      rw [List.replicate_succ, List.foldl_cons]
      cases reversed with
      | nil =>
          have stays : take root [] up = [] := by simp [take, rooted]
          rw [stays, ih [] (by simp)]
          simp
      | cons last rest =>
          simp only [List.mem_cons, not_or] at clean
          have removed : take root (last :: rest) up = rest := by simp [take, Ne.symm clean.1]
          rw [removed, ih rest clean.2]
          rfl

/-- Up to what is kept of a path with a root, and down from there. -/
theorem normalize_up_down {root : Root} (rooted : root ≠ .current) {common ups downs : List Text}
    (cleanStart : up ∉ common ++ ups) (cleanDowns : up ∉ downs) :
    normalize { root, parts := common ++ ups ++ (List.replicate ups.length up ++ downs) } =
      { root, parts := common ++ downs } := by
  have start := foldl_take_of_no_up root (common ++ ups) cleanStart []
  have climbed := foldl_take_ups rooted ups.length (common ++ ups).reverse
    (mt List.mem_reverse.1 cleanStart)
  have top : (common ++ ups).reverse.drop ups.length = common.reverse := by
    rw [List.reverse_append, List.drop_left' (List.length_reverse ..)]
  rw [normalize, List.foldl_append, start, List.append_nil, List.foldl_append, climbed, top,
    foldl_take_of_no_up root downs cleanDowns]
  simp

/-- The absolute form of a path with a root is its normal form. -/
theorem absoluteParts_of_rooted {path : Path} (rooted : path.root ≠ .current)
    (current : List Text) : path.absoluteParts current = path.normalize.parts := by
  have sameTake : take .absolute = take path.root := by
    funext reversed part
    simp [take, rooted]
  obtain ⟨root, parts⟩ := path
  cases root with
  | current => exact absurd rfl rooted
  | absolute => rfl
  | network => simp only [absoluteParts, normalize, sameTake]

/-! ## The way from one place to another -/

theorem dropCommon_spec (first second : List Text) : ∃ common,
    first = common ++ (dropCommon first second).1 ∧
      second = common ++ (dropCommon first second).2 := by
  fun_induction dropCommon first second with
  | case1 first part second ih =>
      obtain ⟨common, sameFirst, sameSecond⟩ := ih
      refine ⟨part :: common, ?_, ?_⟩
      · rw [List.cons_append, ← sameFirst]
      · rw [List.cons_append, ← sameSecond]
  | case2 => exact ⟨[], rfl, rfl⟩
  | case3 => exact ⟨[], rfl, rfl⟩

/-- **The way from a directory to a path leads there.** -/
theorem normalize_join_relativeTo {start path : Path} (from' : start.IsRooted)
    (rooted : path.root ≠ .current) (formed : path.WellFormed) (current : List Text) :
    (start.join (ofText (relativeTo current path start))).normalize =
      { root := start.root, parts := path.normalize.parts } := by
  obtain ⟨startRooted, cleanStart⟩ := from'
  have startParts : start.absoluteParts current = start.parts := by
    rw [absoluteParts_of_rooted startRooted, normalize_of_no_up cleanStart]
  obtain ⟨common, sameStart, samePath⟩ := dropCommon_spec start.parts path.normalize.parts
  generalize ways : dropCommon start.parts path.normalize.parts = way at sameStart samePath
  obtain ⟨ups, downs⟩ := way
  simp only at sameStart samePath
  have text : relativeTo current path start =
      toText { root := .current, parts := List.replicate ups.length up ++ downs } := by
    simp only [relativeTo, startParts, absoluteParts_of_rooted rooted, ways]
  have formedWay :
      WellFormed { root := .current, parts := List.replicate ups.length up ++ downs } := by
    intro part member
    rcases List.mem_append.1 member with inUps | inDowns
    · rw [List.eq_of_mem_replicate inUps]
      decide
    · exact formed.normalize part (by simp [samePath, inDowns])
  have cleanDowns : up ∉ downs := fun member =>
    normalize_no_up rooted (samePath ▸ List.mem_append_right common member)
  have joined : start.join { root := .current, parts := List.replicate ups.length up ++ downs } =
      { root := start.root
        parts := common ++ ups ++ (List.replicate ups.length up ++ downs) } := by
    simp only [join, sameStart]
  rw [text, ofText_toText formedWay, joined,
    normalize_up_down startRooted (sameStart ▸ cleanStart) cleanDowns, ← samePath]

/-- Files whose ways from a directory are the same are the same. -/
theorem relativeTo_injective {first second start : Path} {root : Root} {current : List Text}
    (ofFirst : first.IsFrom root) (ofSecond : second.IsFrom root) (rooted : root ≠ .current)
    (same : relativeTo current first start = relativeTo current second start) :
    first = second := by
  -- The way depends on the absolute form of the directory only.
  let place : Path := { root := .absolute, parts := start.absoluteParts current }
  have clean : up ∉ place.parts := normalize_no_up (by simp)
  have ofPlace : place.IsRooted := ⟨by simp [place], clean⟩
  have way : ∀ path, relativeTo current path start = relativeTo current path place := by
    intro path
    have absolute : place.absoluteParts current = start.absoluteParts current := by
      rw [absoluteParts_of_rooted ofPlace.1, normalize_of_no_up clean]
    simp only [relativeTo, absolute]
  have leads : ∀ path : Path, path.IsFrom root →
      (place.join (ofText (relativeTo current path start))).normalize.parts = path.parts := by
    rintro path ⟨rfl, formed, cleanPath⟩
    rw [way, normalize_join_relativeTo ofPlace rooted formed, normalize_of_no_up cleanPath]
  have sameParts : first.parts = second.parts := by
    rw [← leads first ofFirst, same, leads second ofSecond]
  obtain ⟨firstRoot, firstParts⟩ := first
  obtain ⟨secondRoot, secondParts⟩ := second
  obtain rfl : firstRoot = root := ofFirst.1
  obtain rfl : secondRoot = firstRoot := ofSecond.1
  obtain rfl : firstParts = secondParts := sameParts
  rfl

/-! ## Paths below a directory -/

/-- The path of the given parts below a directory. -/
def under (directory : Path) (place : List Text) : Path :=
  { directory with parts := directory.parts ++ place }

@[simp] theorem under_root (directory : Path) (place : List Text) :
    (directory.under place).root = directory.root := rfl

@[simp] theorem under_parts (directory : Path) (place : List Text) :
    (directory.under place).parts = directory.parts ++ place := rfl

theorem under_injective (directory : Path) {place other : List Text}
    (same : directory.under place = directory.under other) : place = other := by
  simpa [under] using same

theorem dropCommon_append (start rest : List Text) :
    dropCommon start (start ++ rest) = ([], rest) := by
  induction start with
  | nil => cases rest <;> rfl
  | cons part start ih => simpa [dropCommon] using ih

/-- The way from a directory to a path below it is written as the parts below it. -/
theorem relativeTo_under {directory : Path} (isRooted : directory.IsRooted) {place : List Text}
    (clean : up ∉ place) (current : List Text) :
    relativeTo current (directory.under place) directory =
      toText { root := .current, parts := place } := by
  obtain ⟨rooted, cleanDirectory⟩ := isRooted
  have cleanPath : up ∉ (directory.under place).parts := by simp [cleanDirectory, clean]
  have rootedPath : (directory.under place).root ≠ .current := rooted
  simp only [relativeTo, absoluteParts_of_rooted rooted, absoluteParts_of_rooted rootedPath,
    normalize_of_no_up cleanDirectory, normalize_of_no_up cleanPath, under_parts, dropCommon_append]
  rfl

/-- A relative path that has climbed above its start never comes back to it. -/
theorem up_mem_foldl_take (parts : List Text) : ∀ reversed : List Text, up ∈ reversed →
    up ∈ parts.foldl (take .current) reversed := by
  induction parts with
  | nil => exact fun _ climbed => climbed
  | cons part rest ih =>
      intro reversed climbed
      refine ih _ ?_
      unfold take
      cases reversed <;> grind

/-- As long as a relative path does not climb above its start, what lies above the start does not
matter. -/
theorem foldl_take_above (root : Root) (parts above : List Text) : ∀ reversed : List Text,
    up ∉ reversed → up ∉ parts.foldl (take .current) reversed →
      parts.foldl (take root) (reversed ++ above) =
        parts.foldl (take .current) reversed ++ above := by
  induction parts with
  | nil => exact fun _ _ _ => rfl
  | cons part rest ih =>
      intro reversed clean stays
      rw [List.foldl_cons] at stays ⊢
      have next : take root (reversed ++ above) part = take .current reversed part ++ above := by
        by_cases climbs : part = up
        · cases reversed with
          | nil =>
              -- The first step above the start would be seen in the result.
              have climbed : up ∈ take .current [] part := by simp [take, climbs]
              exact absurd (up_mem_foldl_take rest _ climbed) stays
          | cons last reversed =>
              simp only [List.mem_cons, not_or] at clean
              simp [take, climbs, Ne.symm clean.1]
        · simp [take, climbs]
      have further : up ∉ take .current reversed part := fun climbed =>
        stays (up_mem_foldl_take rest _ climbed)
      rw [next, ih _ further stays, List.foldl_cons]

/-- **A path that does not climb above a directory comes to the same parts below it, wherever the
directory lies.** -/
theorem normalize_under {directory : Path} (cleanDirectory : up ∉ directory.parts)
    {parts : List Text} (stays : up ∉ (normalize { root := .current, parts }).parts) :
    (directory.under parts).normalize =
      directory.under (normalize { root := .current, parts }).parts := by
  have staysReversed : up ∉ parts.foldl (take .current) [] := by simpa [normalize] using stays
  have above := foldl_take_above directory.root parts directory.parts.reverse [] (by simp)
    staysReversed
  have start := foldl_take_of_no_up directory.root directory.parts cleanDirectory []
  simp only [normalize, under, List.foldl_append, start]
  rw [List.append_nil, ← List.nil_append directory.parts.reverse, above]
  simp

end ExportDocs.Path
