/-
# ExportDocs.Proofs.Imports.Resolution -- the walk that a specifier takes from a file

A specifier is followed from the root of the file tree: over the pieces of the directory of the
file, and then over its own, up at a double dot and down at every other piece (`Path.walk`).
Joining the two and normalizing the result comes to the same place (`target_eq_walk`).

What is tried there is the place itself, the place with the extension, and the index file in it
(`alternatives`).  All of them are normal forms, and a place has one normal form only; so files can
be told apart by the paths under which they are reached (`resolve_follows_walk`).
-/
import ExportDocs.Imports.Resolution
import ExportDocs.Proofs.Path.Relative
import Mathlib.Data.List.Induction

namespace ExportDocs

set_option autoImplicit false

/-! ## Walks -/

namespace Path

/-- The pieces of a text between slashes. -/
def components (t : Text) : List Text := Text.splitAtChar '/' t

/-- One step of a walk.  An empty piece and a dot lead nowhere, a double dot leads up, or nowhere at
the root. -/
def visit (here : List Text) (component : Text) : List Text :=
  if component = [] ∨ component = ['.'] then here
  else if component = up then here.dropLast
  else here ++ [component]

/-- Where a walk from the root ends. -/
def walk (components : List Text) : List Text := components.foldl visit []

/-- The directory of a file as text: what stands before the last slash, without slashes at its end
unless there is nothing else. -/
def folderText (t : Text) : Text :=
  let before := Text.trimEnd (· != '/') t
  let trimmed := Text.trimEnd (· == '/') before
  if trimmed.isEmpty then before else trimmed

theorem partsOf_append_slash (t rest : Text) :
    partsOf (t ++ '/' :: rest) = partsOf t ++ partsOf rest := by
  rw [partsOf, Text.splitAtChar_append_cons, List.filter_append, partsOf, partsOf]

/-- Slashes at the end of a path add no parts. -/
theorem partsOf_trimEnd (t : Text) : partsOf (Text.trimEnd (· == '/') t) = partsOf t := by
  induction t using List.reverseRecOn with
  | nil => rfl
  | append_singleton t c ih =>
      by_cases slash : c = '/'
      · subst slash
        have trimmed : Text.trimEnd (· == '/') (t ++ ['/']) = Text.trimEnd (· == '/') t := by
          simp [Text.trimEnd]
        rw [trimmed, ih, partsOf_append_slash]
        exact (List.append_nil _).symm
      · have kept : Text.trimEnd (· == '/') (t ++ [c]) = t ++ [c] := by
          simp [Text.trimEnd, slash]
        rw [kept]

theorem partsOf_folderText (t : Text) : partsOf (folderText t) = (folderOf t).parts := by
  simp only [folderText]
  split
  · rfl
  · rw [partsOf_trimEnd]
    rfl

/-- A walk takes the steps of a normal form, with the last part at the other end. -/
theorem foldl_visit (components : List Text) : ∀ here : List Text, up ∉ here →
    components.foldl visit here =
      ((components.filter fun part => !part.isEmpty && part != ['.']).foldl
        (take .absolute) here.reverse).reverse := by
  induction components with
  | nil => simp
  | cons component components ih =>
      intro here clean
      rw [List.foldl_cons]
      by_cases idle : component = [] ∨ component = ['.']
      · have stays : visit here component = here := by rw [visit, if_pos idle]
        have dropped : (!component.isEmpty && component != ['.']) = false := by
          rcases idle with rfl | rfl <;> rfl
        rw [stays, ih here clean, List.filter_cons, if_neg (by simp [dropped])]
      · have kept : (!component.isEmpty && component != ['.']) = true := by simpa using idle
        rw [List.filter_cons, if_pos kept, List.foldl_cons]
        by_cases climbs : component = up
        · have leads : visit here component = here.dropLast := by
            rw [visit, if_neg idle, if_pos climbs]
          have taken : take .absolute here.reverse component = here.dropLast.reverse := by
            rcases List.eq_nil_or_concat here with rfl | ⟨front, last, rfl⟩
            · simp [take, climbs]
            · have other : last ≠ up := fun same => clean (by simp [same])
              simp [take, climbs, other]
          rw [leads, taken, ih _ fun member => clean (List.dropLast_subset _ member)]
        · have leads : visit here component = here ++ [component] := by
            rw [visit, if_neg idle, if_neg climbs]
          have taken : take .absolute here.reverse component = (here ++ [component]).reverse := by
            simp [take, climbs]
          have cleanNext : up ∉ here ++ [component] := by simp [clean, Ne.symm climbs]
          rw [leads, taken, ih _ cleanNext]

theorem walk_eq_normalize (components : List Text) :
    walk components = (normalize
      { root := .absolute
        parts := components.filter fun part => !part.isEmpty && part != ['.'] }).parts :=
  foldl_visit components [] (by simp)

/-- A walk along an absolute normal path leads to its parts. -/
theorem walk_toText {path : Path} (isFrom : path.IsFrom .absolute) :
    walk (components path.toText) = path.parts := by
  obtain ⟨absolute, formed, clean⟩ := isFrom
  have parts : (components path.toText).filter (fun part => !part.isEmpty && part != ['.']) =
      path.parts := congrArg Path.parts (ofText_toText formed)
  rw [walk_eq_normalize, parts, ← absolute]
  exact congrArg Path.parts (normalize_of_no_up clean)

/-- Text at the end of a path with a root goes to its last part. -/
theorem toText_append_of_rooted {path : Path} (rooted : path.root ≠ .current) (tail : Text) :
    path.toText ++ tail =
      toText { path with parts := path.parts.dropLast ++ [path.parts.getLastD [] ++ tail] } := by
  obtain ⟨root, parts⟩ := path
  rcases List.eq_nil_or_concat parts with rfl | ⟨front, last, rfl⟩
  · cases root with
    | current => exact absurd rfl rooted
    | absolute => rfl
    | network => rfl
  · rw [List.concat_eq_append, toText_append, List.dropLast_concat, List.getLastD_concat]

end Path

/-- The parts of a path below a directory: at least one, well-formed, and no double dots. -/
structure IsPlace (place : List Text) : Prop where
  nonempty : place ≠ []
  clean : Path.up ∉ place
  formed : ∀ part ∈ place, part ≠ [] ∧ part ≠ ['.'] ∧ '/' ∉ part

/-! ## What is tried -/

namespace Resolution

theorem search_found_cons (isThere : Path → Bool) (path : Path) (rest : List Path) :
    (search isThere (path :: rest)).found =
      if isThere path then some path else (search isThere rest).found := by
  rw [search]
  split <;> rfl

theorem search_found_mem {isThere : Path → Bool} {path : Path} {paths : List Path}
    (found : (search isThere paths).found = some path) : path ∈ paths := by
  induction paths with
  | nil => cases found
  | cons first rest ih =>
      rw [search_found_cons] at found
      split at found
      · cases found
        exact List.mem_cons_self ..
      · exact List.mem_cons_of_mem _ (ih found)

theorem resolve_eq_ok_iff {extension indexName base specifier : Text} {isThere : Path → Bool}
    {path : Path} :
    resolve extension indexName isThere base specifier = .ok path ↔
      (lookup extension indexName isThere base specifier).found = some path := by
  unfold resolve
  split
  · rename_i found
    simp [found]
  · rename_i missing
    simp [missing]

/-- The places that may stand for a way, in the order in which they are tried. -/
def alternatives (way : List Text) : List (List Text) :=
  [way.dropLast ++ [way.getLastD [] ++ ({} : Settings).sourceExtension],
    way ++ [({} : Settings).indexName ++ ({} : Settings).sourceExtension]]

theorem extended_formed {last : Text} (free : '/' ∉ last) :
    let part := last ++ ({} : Settings).sourceExtension
    (part ≠ [] ∧ part ≠ ['.'] ∧ '/' ∉ part) ∧ part ≠ Path.up := by
  have ends : ∀ t : Text, t.getLast? ≠ some 's' → last ++ ({} : Settings).sourceExtension ≠ t := by
    rintro t other rfl
    exact other (by simp)
  refine ⟨⟨ends _ (by decide), ends _ (by decide), ?_⟩, ends _ (by decide)⟩
  simpa using free

theorem indexFile_eq :
    Path.ofText (({} : Settings).indexName ++ ({} : Settings).sourceExtension) =
      { root := .current
        parts := [({} : Settings).indexName ++ ({} : Settings).sourceExtension] } := by
  decide

theorem alternatives_isPlace {way : List Text} (clean : Path.up ∉ way)
    (formed : ∀ part ∈ way, part ≠ [] ∧ part ≠ ['.'] ∧ '/' ∉ part) :
    ∀ place ∈ alternatives way, IsPlace place := by
  have free : '/' ∉ way.getLastD [] := by
    rcases List.eq_nil_or_concat way with rfl | ⟨front, last, rfl⟩
    · simp
    · rw [List.concat_eq_append, List.getLastD_concat]
      exact (formed last (by simp)).2.2
  obtain ⟨formedLast, notUp⟩ := extended_formed free
  intro place alternative
  simp only [alternatives, List.mem_cons, List.not_mem_nil, or_false] at alternative
  rcases alternative with rfl | rfl
  · refine ⟨by simp, ?_, fun part member => ?_⟩
    · rw [List.mem_append, not_or]
      exact ⟨fun member => clean (List.dropLast_subset _ member),
        fun same => notUp (List.mem_singleton.1 same).symm⟩
    · rcases List.mem_append.1 member with inFront | isLast
      · exact formed part (List.dropLast_subset _ inFront)
      · rw [List.mem_singleton.1 isLast]
        exact formedLast
  · refine ⟨by simp, ?_, fun part member => ?_⟩
    · rw [List.mem_append, not_or]
      exact ⟨clean, by decide⟩
    · rcases List.mem_append.1 member with inWay | isIndex
      · exact formed part inWay
      · rw [List.mem_singleton.1 isIndex]
        decide

/-- By default the candidates are the alternatives to the parts of the target. -/
theorem candidates_eq {path : Path} (rooted : path.root ≠ .current) (formed : path.WellFormed)
    (clean : Path.up ∉ path.parts) :
    candidates ({} : Settings).sourceExtension ({} : Settings).indexName path =
      (alternatives path.parts).map fun parts => { path with parts } := by
  have isPlace := alternatives_isPlace clean formed
    (path.parts.dropLast ++ [path.parts.getLastD [] ++ ({} : Settings).sourceExtension])
    (by simp [alternatives])
  have extended : Path.ofText (path.toText ++ ({} : Settings).sourceExtension) =
      { path with parts :=
          path.parts.dropLast ++ [path.parts.getLastD [] ++ ({} : Settings).sourceExtension] } := by
    rw [Path.toText_append_of_rooted rooted]
    exact Path.ofText_toText isPlace.formed
  rw [candidates, extended, indexFile_eq]
  rfl

/-! ## Imports from the root -/

/-- A file with one slash at the start of its path, and a specifier with none. -/
structure FromRoot (base specifier : Text) : Prop where
  oneSlash : base.takeWhile (· == '/') = ['/']
  noSlash : specifier.head? ≠ some '/'

/-- The walk over the directory of a file and then over a specifier. -/
def way (base specifier : Text) : List Text :=
  Path.walk (Path.components (Path.folderText base) ++ Path.components specifier)

/-- The path with one slash at its start. -/
def placed (parts : List Text) : Path := { root := .absolute, parts }

variable {base specifier : Text}

/-- **A specifier leads where the walk ends.** -/
theorem target_eq_walk (fromRoot : FromRoot base specifier) :
    target base specifier = placed (way base specifier) := by
  have folderRoot : (Path.folderOf base).root = .absolute := by
    rw [Path.folderOf_root]
    simp [Path.ofText, fromRoot.oneSlash, Path.rootOf]
  have noRoot : (Path.ofText specifier).root = .current := by
    have none : specifier.takeWhile (· == '/') = [] := by
      cases specifier with
      | nil => rfl
      | cons c rest =>
          have other : c ≠ '/' := fun same => fromRoot.noSlash (by simp [same])
          simp [other]
    simp [Path.ofText, none, Path.rootOf]
  have joined : (Path.folderOf base).join (Path.ofText specifier) =
      placed (Path.partsOf (Path.folderText base) ++ Path.partsOf specifier) := by
    simp only [Path.join, noRoot, folderRoot, Path.partsOf_folderText]
    rfl
  have walked : way base specifier =
      (placed (Path.partsOf (Path.folderText base) ++ Path.partsOf specifier)).normalize.parts := by
    rw [way, Path.walk_eq_normalize, List.filter_append]
    rfl
  rw [target, joined, walked]
  rfl

theorem placed_way_isFrom (fromRoot : FromRoot base specifier) :
    (placed (way base specifier)).IsFrom .absolute := by
  have formed : (target base specifier).WellFormed :=
    ((Path.ofText_wellFormed _).join (Path.ofText_wellFormed _)).normalize
  rw [target_eq_walk fromRoot] at formed
  refine ⟨rfl, formed, ?_⟩
  rw [placed, way, Path.walk_eq_normalize]
  exact Path.normalize_no_up (by simp)

/-- What a specifier names: the end of the walk, or the first alternative to it that exists. -/
theorem lookup_found_eq (fromRoot : FromRoot base specifier) (isThere : Path → Bool) :
    (lookup ({} : Settings).sourceExtension ({} : Settings).indexName isThere base
      specifier).found =
      if (placed (way base specifier)).toText.endsWith ({} : Settings).sourceExtension then
        some (placed (way base specifier))
      else (search isThere ((alternatives (way base specifier)).map placed)).found := by
  obtain ⟨-, formed, clean⟩ := placed_way_isFrom fromRoot
  have tried : candidates ({} : Settings).sourceExtension ({} : Settings).indexName
      (placed (way base specifier)) = (alternatives (way base specifier)).map placed :=
    candidates_eq (by simp [placed]) formed clean
  simp only [lookup, target_eq_walk fromRoot, tried]
  split <;> rfl

/-- The file that a specifier names has an absolute normal path. -/
theorem isFrom_of_found {isThere : Path → Bool} {path : Path}
    (fromRoot : FromRoot base specifier)
    (found : (lookup ({} : Settings).sourceExtension ({} : Settings).indexName isThere base
      specifier).found = some path) : path.IsFrom .absolute := by
  have ofWay := placed_way_isFrom fromRoot
  rw [lookup_found_eq fromRoot] at found
  split at found
  · cases found
    exact ofWay
  · obtain ⟨place, alternative, rfl⟩ := List.mem_map.1 (search_found_mem found)
    have isPlace := alternatives_isPlace ofWay.2.2 ofWay.2.1 place alternative
    exact ⟨rfl, isPlace.formed, isPlace.clean⟩

/-- The outcome of resolving a specifier is read off the end of its walk. -/
theorem resolve_eq (fromRoot : FromRoot base specifier) {place : List Text}
    (ends : way base specifier = place) (isThere : Path → Bool) :
    resolve ({} : Settings).sourceExtension ({} : Settings).indexName isThere base specifier =
      if (placed place).toText.endsWith ({} : Settings).sourceExtension then .ok (placed place)
      else if isThere (placed
          (place.dropLast ++ [place.getLastD [] ++ ({} : Settings).sourceExtension])) then
        .ok (placed (place.dropLast ++ [place.getLastD [] ++ ({} : Settings).sourceExtension]))
      else if isThere (placed
          (place ++ [({} : Settings).indexName ++ ({} : Settings).sourceExtension])) then
        .ok (placed (place ++ [({} : Settings).indexName ++ ({} : Settings).sourceExtension]))
      else .error (.unresolvedImport (Path.ofText base) specifier) := by
  rw [resolve, lookup_found_eq fromRoot, ends]
  by_cases whole : (placed place).toText.endsWith ({} : Settings).sourceExtension
  · rw [if_pos whole, if_pos whole]
  · rw [if_neg whole, if_neg whole, alternatives, List.map_cons, List.map_singleton,
      search_found_cons, search_found_cons]
    by_cases first : isThere (placed
        (place.dropLast ++ [place.getLastD [] ++ ({} : Settings).sourceExtension]))
    · rw [if_pos first, if_pos first]
    · rw [if_neg first, if_neg first]
      by_cases second : isThere (placed
          (place ++ [({} : Settings).indexName ++ ({} : Settings).sourceExtension]))
      · rw [if_pos second, if_pos second]
      · rw [if_neg second, if_neg second]
        rfl

/-- **A specifier is followed step by step from the root.**  The file at the end of the walk is
taken if it has the extension; otherwise the one with the extension is, if it exists, and else the
index file in it, if that exists; and if none exists, the failure names the file and the specifier.
What is found has an absolute path in normal form.  So two imports with one walk find the same file,
and two that are found at one place are found under one path. -/
theorem resolve_follows_walk (files : FileTree) {base specifier : Text}
    (fromRoot : FromRoot base specifier) :
    let extension := ({} : Settings).sourceExtension
    let named := resolve extension ({} : Settings).indexName files.hasPath
    let here := placed (way base specifier)
    let extended := Path.ofText (here.toText ++ extension)
    let index := placed (way base specifier ++ [({} : Settings).indexName ++ extension])
    named base specifier =
      (if here.toText.endsWith extension then .ok here
      else if files.hasPath extended then .ok extended
      else if files.hasPath index then .ok index
      else .error (.unresolvedImport (Path.ofText base) specifier)) ∧
    extended.toText = here.toText ++ extension ∧
    (∀ path, named base specifier = .ok path →
      path.root = .absolute ∧ path.normalize = path ∧ Path.ofText path.toText = path) ∧
    ∀ base' specifier', FromRoot base' specifier' →
      (way base' specifier' = way base specifier →
        (named base' specifier').toOption = (named base specifier).toOption) ∧
      ∀ path path', named base specifier = .ok path → named base' specifier' = .ok path' →
        Path.walk (Path.components path'.toText) = Path.walk (Path.components path.toText) →
        path' = path := by
  intro extension named here extended index
  obtain ⟨-, formed, clean⟩ := placed_way_isFrom fromRoot
  have isPlace := alternatives_isPlace clean formed
    ((way base specifier).dropLast ++ [(way base specifier).getLastD [] ++ extension])
    (List.mem_cons_self ..)
  have written : here.toText ++ extension =
      (placed ((way base specifier).dropLast ++
        [(way base specifier).getLastD [] ++ extension])).toText :=
    Path.toText_append_of_rooted (by simp [here, placed]) extension
  have isExtended : extended = placed ((way base specifier).dropLast ++
      [(way base specifier).getLastD [] ++ extension]) := by
    show Path.ofText (here.toText ++ extension) = _
    rw [written]
    exact Path.ofText_toText isPlace.formed
  have isFrom : ∀ {base specifier path}, FromRoot base specifier →
      named base specifier = .ok path → path.IsFrom .absolute :=
    fun fromRoot found => isFrom_of_found fromRoot (resolve_eq_ok_iff.1 found)
  refine ⟨?_, ?_, ?_, ?_⟩
  · rw [isExtended]
    exact resolve_eq fromRoot rfl files.hasPath
  · rw [isExtended, written]
  · intro path found
    obtain ⟨absolute, formed, clean⟩ := isFrom fromRoot found
    exact ⟨absolute, Path.normalize_of_no_up clean, Path.ofText_toText formed⟩
  · intro base' specifier' fromRoot'
    constructor
    · intro sameWay
      -- The outcomes differ at most in what a failure names.
      show (resolve extension ({} : Settings).indexName files.hasPath base' specifier').toOption =
        (resolve extension ({} : Settings).indexName files.hasPath base specifier).toOption
      rw [resolve_eq fromRoot rfl, resolve_eq fromRoot' sameWay]
      simp only [apply_ite Except.toOption]
      rfl
    · intro path path' found found' samePlace
      have ofPath := isFrom fromRoot found
      have ofPath' := isFrom fromRoot' found'
      rw [Path.walk_toText ofPath, Path.walk_toText ofPath'] at samePlace
      cases path
      cases path'
      cases ofPath.1
      cases ofPath'.1
      cases samePlace
      rfl

/-- An import that climbs above the root and one that does not come to the same index file. -/
theorem resolve_follows_walk_above_root :
    let files : FileTree :=
      { files := [(["p".toList, "lib".toList, "index.js".toList], .text [])] }
    let named := resolve ({} : Settings).sourceExtension ({} : Settings).indexName files.hasPath
    FromRoot "/p//src/./a.js".toList "../../../p/lib/.".toList ∧
    named "/p//src/./a.js".toList "../../../p/lib/.".toList =
      .ok (placed ["p".toList, "lib".toList, "index.js".toList]) ∧
    FromRoot "/p/b.js".toList "./lib".toList ∧
    (named "/p/b.js".toList "./lib".toList).toOption =
      (named "/p//src/./a.js".toList "../../../p/lib/.".toList).toOption := by
  intro files named
  have fromRoot : FromRoot "/p//src/./a.js".toList "../../../p/lib/.".toList :=
    ⟨by decide, by decide⟩
  have fromRoot' : FromRoot "/p/b.js".toList "./lib".toList := ⟨by decide, by decide⟩
  obtain ⟨found, -, -, agree⟩ := resolve_follows_walk files fromRoot
  exact ⟨fromRoot, found.trans (by decide), fromRoot', (agree _ _ fromRoot').1 (by decide)⟩

end Resolution

end ExportDocs
