/-
# ExportDocs.Proofs.Imports.Relocation -- a project that is moved to another directory

Symbols carry paths relative to the root of their project, and specifiers are relative to their
files.  So a project that is moved as a whole comes to the same symbols, tokens and statements
(`process_movedTo`), as long as no specifier climbs above the root on its way (`StaysBelow`).  One
that climbs and comes back by the name of the root breaks when that name changes
(`moving_breaks_return_by_name`).

The proof follows the places below the root: resolving a specifier is a function of the place of the
file and of what exists below the root (`lookup_found_under`), and the plain recursion over files
(`outcome`) takes the same steps in both projects.
-/
import ExportDocs.Proofs.FileTree.Moved
import ExportDocs.Proofs.Imports.Account
import ExportDocs.Proofs.Imports.Resolution
import ExportDocs.Proofs.Path.Relative
import Mathlib.Data.List.Find

namespace ExportDocs

set_option autoImplicit false

/-! ## Specifiers below a directory -/

namespace Resolution

/-- Where a specifier leads from the file at a place, both seen from the directory that the place
lies below. -/
def wayFrom (place : List Text) (specifier : Text) : List Text :=
  (Path.join { root := .current, parts := place.dropLast } (Path.ofText specifier)).normalize.parts

/-- The place of the file that a way names, where `isThere` tells which places exist. -/
def placeFor (isThere : List Text → Bool) (way : List Text) : Option (List Text) :=
  if (way.getLastD []).endsWith ({} : Settings).sourceExtension then some way
  else (alternatives way).find? isThere

variable {directory : Path} {place way : List Text} {specifier : Text}

theorem wayFrom_formed (formed : ∀ part ∈ place, part ≠ [] ∧ part ≠ ['.'] ∧ '/' ∉ part)
    (specifier : Text) : ∀ part ∈ wayFrom place specifier,
      part ≠ [] ∧ part ≠ ['.'] ∧ '/' ∉ part := by
  have folder : Path.WellFormed { root := .current, parts := place.dropLast } :=
    fun part member => formed part (List.dropLast_subset _ member)
  exact (folder.join (Path.ofText_wellFormed specifier)).normalize

/-- A specifier that does not climb above a directory leads to its way below it. -/
theorem target_under (ofDirectory : directory.IsFrom .absolute) (ofPlace : IsPlace place)
    (noRoot : (Path.ofText specifier).root = .current)
    (stays : Path.up ∉ wayFrom place specifier) :
    target (directory.under place).toText specifier =
      directory.under (wayFrom place specifier) := by
  obtain ⟨absolute, formed, clean⟩ := ofDirectory
  obtain ⟨front, last, rfl⟩ := (List.eq_nil_or_concat place).resolve_left ofPlace.nonempty
  rw [List.concat_eq_append] at ofPlace stays ⊢
  have rooted : directory.root ≠ .current := by simp [absolute]
  have file : directory.under (front ++ [last]) =
      { root := directory.root, parts := (directory.parts ++ front) ++ [last] } := by
    simp [Path.under]
  have fileFormed : Path.WellFormed
      { root := directory.root, parts := (directory.parts ++ front) ++ [last] } := by
    intro part member
    rw [List.append_assoc] at member
    rcases List.mem_append.1 member with inDirectory | inPlace
    · exact formed part inDirectory
    · exact ofPlace.formed part inPlace
  have way : wayFrom (front ++ [last]) specifier = (Path.normalize
      { root := .current, parts := front ++ (Path.ofText specifier).parts }).parts := by
    simp [wayFrom, Path.join, noRoot]
  rw [way] at stays ⊢
  rw [target, file, Path.folderOf_toText rooted fileFormed, ← Path.normalize_under clean stays]
  simp [Path.join, noRoot, Path.under]

/-- Whether a path ends with the extension is seen at its last part. -/
theorem endsWith_under (ofDirectory : directory.IsFrom .absolute) (front : List Text)
    (last : Text) :
    (directory.under (front ++ [last])).toText.endsWith ({} : Settings).sourceExtension =
      last.endsWith ({} : Settings).sourceExtension := by
  have rooted : directory.root ≠ .current := by simp [ofDirectory.1]
  obtain ⟨before, ends⟩ := Path.exists_slash_before rooted (directory.parts ++ front)
  have text : (directory.under (front ++ [last])).toText = before ++ '/' :: last := by
    rw [Path.under, ← List.append_assoc, Path.toText_concat, ← List.append_assoc, ends,
      List.append_assoc, List.singleton_append]
  rw [text, Text.endsWith_append_cons (by decide)]

/-- What a way names is a place. -/
theorem placeFor_isPlace {isThere : List Text → Bool} {found : List Text} (ofWay : IsPlace way)
    (named : placeFor isThere way = some found) : IsPlace found := by
  unfold placeFor at named
  split at named
  · cases named
    exact ofWay
  · exact alternatives_isPlace ofWay.clean ofWay.formed found (List.mem_of_find?_eq_some named)

/-- Only places are looked at when a way is resolved. -/
theorem placeFor_congr {isThere isThere' : List Text → Bool} (ofWay : IsPlace way)
    (same : ∀ place, IsPlace place → isThere place = isThere' place) :
    placeFor isThere way = placeFor isThere' way := by
  have alike : (alternatives way).find? isThere = (alternatives way).find? isThere' :=
    List.find?_congr fun place member =>
      same place (alternatives_isPlace ofWay.clean ofWay.formed place member)
  rw [placeFor, placeFor, alike]

theorem search_map_found (isThere : Path → Bool) (f : List Text → Path)
    (places : List (List Text)) :
    (search isThere (places.map f)).found =
      (places.find? fun place => isThere (f place)).map f := by
  induction places with
  | nil => rfl
  | cons place rest ih =>
      rw [List.map_cons, search_found_cons, List.find?_cons]
      cases isThere (f place) with
      | true => rfl
      | false => exact ih

/-- **What a specifier names depends on the place of the file and on what exists below the
directory.** -/
theorem lookup_found_under (ofDirectory : directory.IsFrom .absolute) (ofPlace : IsPlace place)
    (isLocal : ({} : Settings).isLocal specifier) (ofWay : IsPlace (wayFrom place specifier))
    (isThere : Path → Bool) :
    (lookup ({} : Settings).sourceExtension ({} : Settings).indexName isThere
      (directory.under place).toText specifier).found =
      (placeFor (fun place => isThere (directory.under place)) (wayFrom place specifier)).map
        directory.under := by
  have leads := target_under ofDirectory ofPlace (local_root isLocal) ofWay.clean
  generalize wayFrom place specifier = way at leads ofWay
  obtain ⟨front, last, rfl⟩ := (List.eq_nil_or_concat way).resolve_left ofWay.nonempty
  rw [List.concat_eq_append] at leads ofWay ⊢
  have isFrom : (directory.under (front ++ [last])).IsFrom .absolute := by
    obtain ⟨absolute, formed, clean⟩ := ofDirectory
    refine ⟨absolute, fun part member => ?_, ?_⟩
    · rcases List.mem_append.1 member with inDirectory | inPlace
      · exact formed part inDirectory
      · exact ofWay.formed part inPlace
    · rw [Path.under_parts, List.mem_append, not_or]
      exact ⟨clean, ofWay.clean⟩
  have tried : candidates ({} : Settings).sourceExtension ({} : Settings).indexName
      (directory.under (front ++ [last])) =
        (alternatives (front ++ [last])).map directory.under := by
    obtain ⟨-, formed, clean⟩ := isFrom
    rw [candidates_eq (by simp [ofDirectory.1]) formed clean, Path.under_parts, ← List.append_assoc]
    simp [alternatives, Path.under]
  simp only [lookup, leads, endsWith_under ofDirectory, placeFor, List.getLastD_concat]
  split
  · rfl
  · rw [tried, search_map_found]

end Resolution

/-! ## Moving a project -/

namespace Project

open Resolution (wayFrom placeFor)

/-- The project moved to another directory, with everything below its root. -/
def movedTo (project : Project) (target : Path) : Project :=
  { project with files := project.files.moved project.root.parts target.parts, root := target }

/-- A project under the default settings that lies below its root, and a directory it may be moved
to. -/
structure Movable (project : Project) (target : Path) : Prop where
  defaults : project.settings = {}
  modules : project.ReadsModules
  below : project.files.LiesBelow project.root.parts
  ofRoot : project.root.IsFrom .absolute
  ofTarget : target.IsFrom .absolute
  validRoot : FileTree.isValid project.root
  validTarget : FileTree.isValid target

/-- A specifier stays below a directory: seen from there it never climbs above the directory, and it
leads to something in it. -/
def StaysBelow (directory file : Path) (specifier : Text) : Prop :=
  let way := wayFrom (file.parts.drop directory.parts.length) specifier
  Path.up ∉ way ∧ way ≠ []

instance (directory file : Path) (specifier : Text) :
    Decidable (StaysBelow directory file specifier) :=
  inferInstanceAs (Decidable (_ ∧ _))

/-- The local specifiers of the files that were handed to the engine, each with its file. -/
def resolvedIn (project : Project) (events : List Event) : List (Path × Text) :=
  events.flatMap fun
    | .handed file _ => ((project.requests file).filter project.settings.isLocal).map (file, ·)
    | _ => []

variable {project : Project} {target : Path} {place : List Text} {specifier : Text}

theorem mem_resolvedIn {events : List Event} {file : Path} {relative : Text}
    (handed : .handed file relative ∈ events) (asked : specifier ∈ project.requests file)
    (isLocal : project.settings.isLocal specifier) :
    (file, specifier) ∈ project.resolvedIn events :=
  List.mem_flatMap.2 ⟨_, handed, List.mem_map.2 ⟨_, List.mem_filter.2 ⟨asked, isLocal⟩, rfl⟩⟩

theorem StaysBelow.isPlace (stays : StaysBelow project.root (project.root.under place) specifier)
    (ofPlace : IsPlace place) : IsPlace (wayFrom place specifier) := by
  simp only [StaysBelow, Path.under_parts, List.drop_left] at stays
  exact ⟨stays.2, stays.1, Resolution.wayFrom_formed ofPlace.formed specifier⟩

namespace Movable

variable (movable : project.Movable target)

include movable

theorem holds? (clean : Path.up ∉ place) :
    ((project.movedTo target).files.locate (target.under place)).holds? =
      (project.files.locate (project.root.under place)).holds? :=
  FileTree.holds?_moved movable.below movable.ofRoot.2.2 movable.ofTarget.2.2 clean
    (by simp [movable.ofRoot.1]) (by simp [movable.ofTarget.1])

theorem isValid (place : List Text) :
    FileTree.isValid (target.under place) = FileTree.isValid (project.root.under place) := by
  have ofTarget := FileTree.isValid_append target.root target.parts place
  have ofRoot := FileTree.isValid_append project.root.root project.root.parts place
  rw [show FileTree.isValid { root := target.root, parts := target.parts } = true from
    movable.validTarget, Bool.true_and] at ofTarget
  rw [show FileTree.isValid { root := project.root.root, parts := project.root.parts } = true from
    movable.validRoot, Bool.true_and] at ofRoot
  exact ofTarget.trans ofRoot.symm

theorem hasPath (ofPlace : IsPlace place) :
    (project.movedTo target).files.hasPath (target.under place) =
      project.files.hasPath (project.root.under place) := by
  rw [FileTree.hasPath_eq, FileTree.hasPath_eq, movable.isValid, movable.holds? ofPlace.clean]

theorem read (ofPlace : IsPlace place) {source : Text}
    (read : project.files.read (project.root.under place) = .ok source) :
    (project.movedTo target).files.read (target.under place) = .ok source := by
  rw [FileTree.read_eq_ok_iff] at read ⊢
  rwa [movable.isValid, movable.holds? ofPlace.clean]

theorem relative (ofPlace : IsPlace place) :
    (project.movedTo target).relative (target.under place) =
      project.relative (project.root.under place) := by
  have ofTarget : target.IsRooted := ⟨by simp [movable.ofTarget.1], movable.ofTarget.2.2⟩
  have ofRoot : project.root.IsRooted := ⟨by simp [movable.ofRoot.1], movable.ofRoot.2.2⟩
  rw [Project.relative, Project.relative, Path.relativeTo_under ofRoot ofPlace.clean]
  exact Path.relativeTo_under ofTarget ofPlace.clean _

/-- A file yields the same after it was moved. -/
theorem yields (ofPlace : IsPlace place) {answers : Text → List Symbol} {extraction : Extraction}
    (yields : project.Yields (project.root.under place) answers extraction) :
    (project.movedTo target).Yields (target.under place) answers extraction := by
  obtain ⟨source, read, extracted⟩ := yields
  refine ⟨source, movable.read ofPlace read, ?_⟩
  rw [movable.relative ofPlace]
  exact extracted

theorem requests (ofPlace : IsPlace place) {source : Text}
    (read : project.files.read (project.root.under place) = .ok source) :
    (project.movedTo target).requests (target.under place) =
      project.requests (project.root.under place) := by
  rw [requests_of_read read, requests_of_read (movable.read ofPlace read), movable.relative ofPlace]
  rfl

/-- A specifier that stays below the root names the same place after the move. -/
theorem resolve (ofPlace : IsPlace place) (isLocal : project.settings.isLocal specifier)
    (stays : StaysBelow project.root (project.root.under place) specifier) {path : Path}
    (resolved : project.resolve (project.root.under place) specifier = .ok path) :
    ∃ found, IsPlace found ∧ path = project.root.under found ∧
      (project.movedTo target).resolve (target.under place) specifier =
        .ok (target.under found) := by
  have ofWay := stays.isPlace ofPlace
  rw [movable.defaults] at isLocal
  have before := Resolution.lookup_found_under movable.ofRoot ofPlace isLocal ofWay
    project.files.hasPath
  have after := Resolution.lookup_found_under movable.ofTarget ofPlace isLocal ofWay
    (project.movedTo target).files.hasPath
  rw [Resolution.placeFor_congr ofWay fun place ofPlace => movable.hasPath ofPlace] at after
  rw [resolve_eq_ok_iff, lookup, movable.defaults, before] at resolved
  obtain ⟨found, named, rfl⟩ := Option.map_eq_some_iff.1 resolved
  refine ⟨found, Resolution.placeFor_isPlace ofWay named, rfl, ?_⟩
  rw [named] at after
  rw [resolve_eq_ok_iff, lookup, show (project.movedTo target).settings = {} from movable.defaults,
    after]
  rfl

/-- **The plain recursion takes the same steps after the move.** -/
theorem outcome (limit : Nat) : ∀ (stack : List (List Text)) (place : List Text)
    (result : FileResult), IsPlace place →
    project.outcome limit (stack.map project.root.under) (project.root.under place) = .ok result →
    (∀ reached, project.Reaches (project.root.under place) reached →
      ∀ specifier ∈ project.requests reached, project.settings.isLocal specifier →
        StaysBelow project.root reached specifier) →
    (project.movedTo target).outcome limit (stack.map target.under) (target.under place) =
      .ok { result with path := target.under place } := by
  have modules := movable.modules
  have modulesMoved : (project.movedTo target).ReadsModules := modules
  induction limit with
  | zero => simp [Project.outcome]
  | succ limit ih =>
      intro stack place result ofPlace ok stays
      obtain ⟨fresh, answers, extraction, each, yields, same⟩ := (outcome_eq_ok_iff modules).1 ok
      obtain ⟨source, read, -⟩ := id yields
      refine (outcome_eq_ok_iff modulesMoved).2 ⟨?_, answers, extraction, fun specifier asked => ?_,
        movable.yields ofPlace yields, by rw [← same]; rfl⟩
      · rw [List.mem_map_of_injective fun _ _ => Path.under_injective _] at fresh ⊢
        exact fresh
      · rw [movable.requests ofPlace read] at asked
        have answered := each specifier asked
        by_cases isLocal : project.settings.isLocal specifier
        · obtain ⟨path, resolved, found, ran, symbols⟩ :=
            (answer_local_eq_ok_iff isLocal).1 answered
          obtain ⟨foundPlace, ofFound, rfl, resolvedMoved⟩ := movable.resolve ofPlace isLocal
            (stays _ .refl specifier asked isLocal) resolved
          have cleanFound : Path.up ∉ (project.root.under foundPlace).parts := by
            simp [movable.ofRoot.2.2, ofFound.clean]
          have cleanMoved : Path.up ∉ (target.under foundPlace).parts := by
            simp [movable.ofTarget.2.2, ofFound.clean]
          have imports : project.Imports (project.root.under place)
              (project.root.under foundPlace) :=
            ⟨specifier, asked, isLocal, _, resolved, Path.normalize_of_no_up cleanFound⟩
          rw [Path.normalize_of_no_up cleanFound] at ran
          have isLocalMoved : (project.movedTo target).settings.isLocal specifier := isLocal
          refine (answer_local_eq_ok_iff isLocalMoved).2
            ⟨_, resolvedMoved, { found with path := target.under foundPlace }, ?_, symbols⟩
          rw [Path.normalize_of_no_up cleanMoved]
          exact ih (place :: stack) foundPlace found ofFound ran
            fun reached reaches => stays reached (.head imports reaches)
        · rw [answer_package isLocal] at answered
          rw [← answered]
          exact answer_package isLocal

end Movable

/-- **A project may be moved.**  A project lies below its root, and a run from one of its files
succeeds in which no specifier climbs above the root.  Then the run from the same file succeeds
after the project was moved, and comes to the same symbols, tokens and statements. -/
theorem process_movedTo (files : FileTree) (root target : Path) (verbosity : Nat)
    (entry : List Text)
    (below : files.LiesBelow root.parts) (ofEntry : (root.under entry).IsFrom .absolute)
    (ofTarget : target.IsFrom .absolute) (validTarget : FileTree.isValid target)
    (result : FileResult) (walk : Walk) :
    let project := ofModules {} files root verbosity
    (project.process (root.under entry)).runFrom {} = (.ok result, walk) →
    (∀ request ∈ project.resolvedIn walk.events, StaysBelow root request.1 request.2) →
    (((project.movedTo target).process (target.under entry)).runFrom {}).1 =
      .ok { result with path := target.under entry } := by
  intro project ran stays
  have modules : project.ReadsModules := rfl
  obtain ⟨absolute, formed, clean⟩ := ofEntry
  rw [Path.under_root] at absolute
  rw [Path.under_parts, List.mem_append, not_or] at clean
  have normal : (root.under entry).normalize = root.under entry :=
    Path.normalize_of_no_up (by simp [clean])
  have normalMoved : (target.under entry).normalize = target.under entry :=
    Path.normalize_of_no_up (by simp [clean, ofTarget.2.2])
  -- The run comes to what the plain recursion gives, and handed over every file it reached.
  have follows := processWith_follows modules (bounded_of_rooted project) project.limit
    (root.under entry) {} (project.hasRoom_start (by simp [absolute])) .start
  have settles := processWith_settles modules project.limit (root.under entry) {} .start
  rw [show (project.processWith project.limit (root.under entry)).runFrom {} = _ from ran, normal]
    at follows settles
  have comes := settles.means result rfl
  obtain ⟨source, read⟩ := comes.exists_read
  have valid : FileTree.isValid (root.under entry) = _ :=
    FileTree.isValid_append root.root root.parts entry
  rw [(FileTree.read_eq_ok_iff.1 read).1, eq_comm, Bool.and_eq_true] at valid
  have movable : project.Movable target :=
    ⟨rfl, modules, below, ⟨absolute, fun part member => formed part (List.mem_append_left _ member),
      clean.1⟩, ofTarget, valid.1, validTarget⟩
  have ofPlace : IsPlace entry :=
    ⟨below.ne_nil_of_read clean.1 (by simp [absolute]) read, clean.2,
      fun part member => formed part (List.mem_append_right _ member)⟩
  have moved := movable.outcome project.limit [] entry result ofPlace follows.outcome.symm
    fun reached reaches specifier asked isLocal =>
      stays _ (mem_resolvedIn (comes.handed_of_reaches reaches) asked isLocal)
  -- There are as many files as before, so the recursion may go as deep.
  have sameLimit : (project.movedTo target).limit = project.limit := by
    simp [limit, movedTo, FileTree.moved]
  have modulesMoved : (project.movedTo target).ReadsModules := modules
  have followsMoved := processWith_follows modulesMoved (bounded_of_rooted _) _ (target.under entry)
    {} (hasRoom_start _ (by simp [ofTarget.1])) .start
  rw [normalMoved, sameLimit] at followsMoved
  rw [process, sameLimit]
  exact followsMoved.outcome.trans moved

/-- Two files below `/p`, of which the first imports the second. -/
def pairBelow (first second : List Text) (source : String) : Project :=
  ofModules {} { files :=
    [("p".toList :: first, .text source.toList),
      ("p".toList :: second, .text "export const one = 1".toList)] } (Path.ofText "/p".toList) 0

/-- In directories beside each other. -/
def pairApart : Project :=
  pairBelow ["src".toList, "e.js".toList] ["lib".toList, "a.js".toList] "export * from '../lib/a'"

/-- In one directory, which the specifier leaves and enters again by its name. -/
def pairByName : Project := pairBelow ["e.js".toList] ["a.js".toList] "export * from '../p/a.js'"

theorem pairBelow_liesBelow {first second : List Text} (source : String) (some : first ≠ [])
    (other : second ≠ []) : (pairBelow first second source).files.LiesBelow ["p".toList] :=
  ⟨by simp [pairBelow, ofModules], List.forall_mem_cons.2 ⟨⟨first, some, rfl⟩,
    List.forall_mem_singleton.2 ⟨second, other, rfl⟩⟩, by simp [pairBelow, ofModules]⟩

/-- What a specifier leads to lies below a directory, by whatever way. -/
def LeadsBelow (directory file : Path) (specifier : Text) : Prop :=
  let target := Resolution.target file.toText specifier
  target.root = directory.root ∧ directory.parts <+: target.parts ∧ target.parts ≠ directory.parts

instance (directory file : Path) (specifier : Text) :
    Decidable (LeadsBelow directory file specifier) :=
  inferInstanceAs (Decidable (_ ∧ _ ∧ _))

theorem pairs_run :
    let run := (pairApart.process (pairApart.root.under ["src".toList, "e.js".toList])).runFrom {}
    let run' := (pairByName.process (pairByName.root.under ["e.js".toList])).runFrom {}
    let moved := pairByName.movedTo (Path.ofText "/q".toList)
    (run.1.isOk ∧ ∀ request ∈ pairApart.resolvedIn run.2.events,
      StaysBelow pairApart.root request.1 request.2) ∧
    (run'.1.isOk ∧ ∀ request ∈ pairByName.resolvedIn run'.2.events,
      LeadsBelow pairByName.root request.1 request.2) ∧
    ¬ ((moved.process (moved.root.under ["e.js".toList])).runFrom {}).1.isOk := by
  decide +kernel

/-- The directories beside each other are moved, and one level down. -/
theorem process_movedTo_one_level_down :
    let target := Path.ofText "/x/y".toList
    let entry := ["src".toList, "e.js".toList]
    pairApart.files.LiesBelow pairApart.root.parts ∧ (pairApart.root.under entry).IsFrom .absolute ∧
    target.IsFrom .absolute ∧ FileTree.isValid target ∧ ∃ result walk,
      (pairApart.process (pairApart.root.under entry)).runFrom {} = (.ok result, walk) ∧
      (∀ request ∈ pairApart.resolvedIn walk.events,
        StaysBelow pairApart.root request.1 request.2) ∧
      (((pairApart.movedTo target).process (target.under entry)).runFrom {}).1 =
        .ok { result with path := target.under entry } := by
  have below : pairApart.files.LiesBelow pairApart.root.parts :=
    pairBelow_liesBelow _ (by simp) (by simp)
  have ofEntry : (pairApart.root.under ["src".toList, "e.js".toList]).IsFrom .absolute :=
    ⟨rfl, Path.ofText_wellFormed "/p/src/e.js".toList, by decide⟩
  have ofTarget : (Path.ofText "/x/y".toList).IsFrom .absolute :=
    ⟨rfl, Path.ofText_wellFormed _, by decide⟩
  obtain ⟨ok, stays⟩ := pairs_run.1
  obtain ⟨result, walk, ran⟩ := WalkM.exists_run_of_isOk ok
  rw [ran] at stays
  exact ⟨below, ofEntry, ofTarget, by decide, result, walk, ran, stays,
    process_movedTo _ _ _ _ _ below ofEntry ofTarget (by decide) result walk ran stays⟩

/-- **A specifier that leaves the root and enters it again by its name does not survive a move.**
It leads below the root, but not when the root has another name. -/
theorem moving_breaks_return_by_name :
    let target := Path.ofText "/q".toList
    let entry := ["e.js".toList]
    pairByName.files.LiesBelow pairByName.root.parts ∧
    (pairByName.root.under entry).IsFrom .absolute ∧ target.IsFrom .absolute ∧
    FileTree.isValid target ∧ ∃ result walk,
      (pairByName.process (pairByName.root.under entry)).runFrom {} = (.ok result, walk) ∧
      (∀ request ∈ pairByName.resolvedIn walk.events,
        LeadsBelow pairByName.root request.1 request.2) ∧
      ¬ (((pairByName.movedTo target).process (target.under entry)).runFrom {}).1.isOk := by
  obtain ⟨ok, leads⟩ := pairs_run.2.1
  obtain ⟨result, walk, ran⟩ := WalkM.exists_run_of_isOk ok
  rw [ran] at leads
  exact ⟨pairBelow_liesBelow _ (by simp) (by simp),
    ⟨rfl, Path.ofText_wellFormed "/p/e.js".toList, by decide⟩,
    ⟨rfl, Path.ofText_wellFormed _, by decide⟩, by decide, result, walk, ran, leads, pairs_run.2.2⟩

end Project

end ExportDocs
