/-
# ExportDocs.Proofs.Imports.Once -- with reuse, no file is processed twice

In a run without failures the files handed to the engine are the files on the stack and the files
with a kept result, each once, and each was read when it was handed over (`Tally`).  They lie in
every set of files that contains the called ones and what its files import (`Course.handsOnly`).

For files that are processed one after another in one walk (`Calls`), this and what is known about
completed files come together in `each_file_once`.
-/
import ExportDocs.Proofs.Imports.Account
import ExportDocs.Proofs.Imports.Completion
import ExportDocs.Proofs.Path.Relative

namespace ExportDocs

set_option autoImplicit false

/-- The file that is read. -/
def Event.read? : Event → Option Path
  | .read file => some file
  | _ => none

/-- The file that is handed to the engine. -/
def Event.handed? : Event → Option Path
  | .handed file _ => some file
  | _ => none

theorem mem_filterMap_handed? {events : List Event} {file : Path} :
    file ∈ events.filterMap Event.handed? ↔ ∃ relative, .handed file relative ∈ events := by
  rw [List.mem_filterMap]
  constructor
  · rintro ⟨event, member, same⟩
    cases event with
    | handed other relative =>
        cases same
        exact ⟨relative, member⟩
    | _ => cases same
  · exact fun ⟨relative, member⟩ => ⟨_, member, rfl⟩

namespace Project

open Trace

variable {project : Project} {errand : Errand} {before after walk : Walk} {ok : Bool} {file : Path}

/-- What entering a file records, apart from messages. -/
theorem filterMap_entering {f : Event → Option Path} (aside : ∀ entry, f (.logged entry) = none) :
    (project.entering walk file).events.filterMap f =
      List.filterMap f
          [.handed file (project.relative file), .stacked (file :: walk.stack), .read file] ++
        walk.events.filterMap f := by
  change List.filterMap f (([.handed file (project.relative file)] ++ project.logEvents .debug _) ++
    ([.stacked (file :: walk.stack), .read file] ++ walk.events)) = _
  rw [List.filterMap_append, List.filterMap_append, List.filterMap_append,
    project.filterMap_logEvents aside, List.append_nil, ← List.append_assoc,
    ← List.filterMap_append]
  rfl

/-! ## A run without failures -/

/-- Every file that was read was handed to the engine, once; these are the files on the stack and
the files with a kept result. -/
structure Tally (walk : Walk) : Prop where
  reads : walk.events.filterMap Event.read? = walk.events.filterMap Event.handed?
  held : (walk.events.filterMap Event.handed?).Perm (walk.stack ++ walk.cache.map Prod.fst)
  once : (walk.events.filterMap Event.handed?).Nodup

namespace Tally

theorem noted_aside (tally : Tally walk) {events : List Event}
    (aside : ∀ event ∈ events, event.visited? = none) : Tally (walk.noted events) := by
  have noRead : events.filterMap Event.read? = [] := by
    refine List.filterMap_eq_nil_iff.2 fun event member => ?_
    have := aside event member
    cases event <;> simp_all [Event.visited?, Event.read?]
  have noHanded : events.filterMap Event.handed? = [] := by
    refine List.filterMap_eq_nil_iff.2 fun event member => ?_
    have := aside event member
    cases event <;> simp_all [Event.visited?, Event.handed?]
  obtain ⟨reads, held, once⟩ := tally
  refine ⟨?_, ?_, ?_⟩ <;>
    simpa only [Walk.noted_events, List.filterMap_append, noRead, noHanded, List.nil_append]

theorem entering (tally : Tally walk) (reuse : project.reuse)
    (miss : project.kept walk file = none) (fresh : file ∉ walk.stack) :
    Tally (project.entering walk file) := by
  have reads : (project.entering walk file).events.filterMap Event.read? =
      file :: walk.events.filterMap Event.read? := filterMap_entering fun _ => rfl
  have handed : (project.entering walk file).events.filterMap Event.handed? =
      file :: walk.events.filterMap Event.handed? := filterMap_entering fun _ => rfl
  have unkept : file ∉ walk.cache.map Prod.fst := by
    rw [Project.kept, if_pos reuse, List.lookup_eq_none_iff] at miss
    intro member
    obtain ⟨entry, inCache, rfl⟩ := List.mem_map.1 member
    simpa using miss entry inCache
  refine ⟨?_, ?_, ?_⟩
  · rw [reads, handed, tally.reads]
  · rw [handed]
    exact tally.held.cons file
  · rw [handed]
    refine List.nodup_cons.2 ⟨fun member => ?_, tally.once⟩
    rcases List.mem_append.1 (tally.held.mem_iff.1 member) with onStack | inCache
    · exact fresh onStack
    · exact unkept inCache

theorem finished (tally : Tally walk) (reuse : project.reuse) {outer : Stack} {result : FileResult}
    (top : walk.stack = result.path :: outer) :
    Tally (project.keeping (walk.restack outer) result) := by
  have kept : (project.keeping (walk.restack outer) result).cache =
      (result.path, result) :: walk.cache := by
    simp [Project.keeping, reuse]
  have held := tally.held
  rw [top, List.cons_append] at held
  refine ⟨?_, ?_, ?_⟩
  · rw [keeping_events]
    exact tally.reads
  · rw [keeping_stack, kept, keeping_events]
    exact held.trans List.perm_middle.symm
  · rw [keeping_events]
    exact tally.once

end Tally

theorem Course.kept_of_processed (course : project.Course (.process file) before true after)
    (reuse : project.reuse) : (project.kept after file).isSome := by
  cases course with
  | reused held => exact held
  | finished => simp [kept_keeping, reuse, resultOf]

/-- A course without failures keeps the tally. -/
theorem Course.tally (course : project.Course errand before ok after) (reuse : project.reuse)
    (succeeds : ok) (tally : Tally before) : Tally after := by
  induction course with
  | tooDeep => cases succeeds
  | reused => exact tally.noted_aside (by simp [Event.visited?])
  | unread => cases succeeds
  | refused => cases succeeds
  | failed => cases succeeds
  | @finished file walk after outcome extraction miss fresh asks ended ih =>
      have asksOk : outcome.isOk := by
        by_contra failed
        have fails := (project.verdict_fails_iff file outcome).2 (.inl (by simpa using failed))
        rw [ended] at fails
        cases fails
      exact ((ih asksOk (tally.entering reuse miss fresh)).noted_aside
        (verdictEvents_visited outcome)).finished reuse asks.stack_eq
  | answeredAll => exact tally
  | package _ ih => exact ih succeeds tally
  | unresolved => cases succeeds
  | unanswered => cases succeeds
  | answered _ _ _ _ ihFirst ihRest =>
      exact ihRest succeeds (ihFirst rfl (tally.noted_aside (searchEvents_visited _ _)))

/-! ## Which files are handed over -/

/-- The file that a call is about. -/
def Errand.about : Errand → Path
  | .process file => file
  | .ask file _ => file

/-- The specifiers of a call are among those that the file asks for. -/
def Errand.IsAsked (project : Project) : Errand → Prop
  | .process _ => True
  | .ask file specifiers => specifiers ⊆ project.requests file

/-- Every file handed to the engine is among the given ones, and is reported relative to the
root. -/
def HandsOnly (project : Project) (Among : Path → Prop) (events : List Event) : Prop :=
  ∀ file relative, .handed file relative ∈ events → Among file ∧ relative = project.relative file

section Among

variable {Among : Path → Prop}

theorem HandsOnly.append_aside {events later : List Event}
    (only : project.HandsOnly Among events) (aside : ∀ event ∈ later, event.visited? = none) :
    project.HandsOnly Among (later ++ events) := by
  intro file relative member
  rcases List.mem_append.1 member with inLater | inEvents
  · cases aside _ inLater
  · exact only file relative inEvents

theorem HandsOnly.entering (only : project.HandsOnly Among walk.events) (among : Among file) :
    project.HandsOnly Among (project.entering walk file).events := by
  intro other relative member
  simp only [Project.entering, handing, Walk.noted_events, Walk.restack_events, List.mem_append,
    List.mem_cons, mem_logEvents, Event.handed.injEq, reduceCtorEq, and_false, false_or,
    List.not_mem_nil, or_false] at member
  rcases member with ⟨rfl, rfl⟩ | earlier
  · exact ⟨among, rfl⟩
  · exact only other relative earlier

/-- A course stays among files that import only one another. -/
theorem Course.handsOnly (course : project.Course errand before ok after)
    (closed : ∀ file target, Among file → project.Imports file target → Among target)
    (asked : errand.IsAsked project) (among : Among errand.about)
    (only : project.HandsOnly Among before.events) : project.HandsOnly Among after.events := by
  induction course with
  | tooDeep => exact only.append_aside (by simp [Event.visited?])
  | reused => exact only.append_aside (by simp [Event.visited?])
  | unread => simpa [HandsOnly] using only
  | refused => simpa [HandsOnly] using only
  | failed _ _ _ _ ih =>
      have inside := ih (List.Subset.refl _) among (only.entering among)
      simpa [HandsOnly] using inside.append_aside (verdictEvents_visited _)
  | finished _ _ _ _ ih =>
      have inside := ih (List.Subset.refl _) among (only.entering among)
      simpa [HandsOnly] using inside.append_aside (verdictEvents_visited _)
  | answeredAll => exact only
  | package _ ih => exact ih (List.subset_of_cons_subset asked) among only
  | unresolved => exact only.append_aside (searchEvents_visited _ _)
  | unanswered isLocal found _ ih =>
      have imports := Imports.of_found (asked List.mem_cons_self) isLocal found
      exact ih trivial (closed _ _ among imports) (only.append_aside (searchEvents_visited _ _))
  | answered isLocal found _ _ ihFirst ihRest =>
      have imports := Imports.of_found (asked List.mem_cons_self) isLocal found
      exact ihRest (List.subset_of_cons_subset asked) among (ihFirst trivial
        (closed _ _ among imports) (only.append_aside (searchEvents_visited _ _)))

end Among

/-! ## One call after another -/

/-- Files are processed one after another, each from the state that the one before it left. -/
inductive Calls (project : Project) :
    List Path → Walk → List (Except Error FileResult) → Walk → Prop
  | done {walk : Walk} : Calls project [] walk [] walk
  | call {path : Path} {paths : List Path} {walk after : Walk}
      {outcomes : List (Except Error FileResult)}
      (rest : Calls project paths ((project.process path).runFrom walk).2 outcomes after) :
      Calls project (path :: paths) walk (((project.process path).runFrom walk).1 :: outcomes) after

theorem calls_run (project : Project) (paths : List Path) : ∀ walk : Walk,
    let run := (paths.mapM fun path => (project.process path).run).run walk
    project.Calls paths walk run.1 run.2 := by
  induction paths with
  | nil => exact fun walk => .done
  | cons path paths ih =>
      intro walk
      rw [List.mapM_cons]
      exact .call (ih ((project.process path).runFrom walk).2)

namespace Calls

variable {paths : List Path} {outcomes : List (Except Error FileResult)}

theorem remembers (calls : project.Calls paths before outcomes after)
    (modules : project.ReadsModules) (reuse : project.reuse)
    (remembers : project.Remembers before) : project.Remembers after := by
  induction calls with
  | done => exact remembers
  | call _ ih => exact ih ((processWith_takes modules _ _ _).remembers reuse remembers)

theorem grows (calls : project.Calls paths before outcomes after)
    (modules : project.ReadsModules) : before.events <:+ after.events := by
  induction calls with
  | done => exact List.suffix_rfl
  | @call path paths walk after outcomes _ ih =>
      obtain ⟨trace, first⟩ := (processWith_takes modules project.limit path walk).records
      exact List.IsSuffix.trans ⟨trace, first.events.symm⟩ ih

theorem stack_eq (calls : project.Calls paths before outcomes after)
    (modules : project.ReadsModules) : after.stack = before.stack := by
  induction calls with
  | done => rfl
  | call _ ih => exact ih.trans (processWith_takes modules _ _ _).stack_eq

/-- A file whose call gave a result is completed. -/
theorem completed (calls : project.Calls paths before outcomes after)
    (modules : project.ReadsModules) (reuse : project.reuse)
    (remembers : project.Remembers before) :
    ∀ call ∈ paths.zip outcomes, call.2.isOk → Completed call.1.normalize after.events := by
  induction calls with
  | done => simp
  | @call path paths walk after outcomes rest ih =>
      have course := processWith_takes modules project.limit path walk
      have remembered := course.remembers reuse remembers
      refine List.forall_mem_cons.2 ⟨fun ok => ?_, ih remembered⟩
      obtain ⟨later, grown⟩ := rest.grows modules
      rw [← grown]
      refine Completed.mono ((remembered.kept _).2 ?_) later
      change ((project.processWith project.limit path).runFrom walk).1.isOk = true at ok
      rw [TakesCourse, ok] at course
      exact course.kept_of_processed reuse

theorem tally (calls : project.Calls paths before outcomes after)
    (modules : project.ReadsModules) (reuse : project.reuse)
    (succeed : ∀ outcome ∈ outcomes, outcome.isOk) (tally : Tally before) : Tally after := by
  induction calls with
  | done => exact tally
  | call _ ih =>
      obtain ⟨first, others⟩ := List.forall_mem_cons.1 succeed
      exact ih others ((processWith_takes modules _ _ _).tally reuse first tally)

theorem handsOnly {Among : Path → Prop} (calls : project.Calls paths before outcomes after)
    (modules : project.ReadsModules)
    (closed : ∀ file target, Among file → project.Imports file target → Among target)
    (among : ∀ path ∈ paths, Among path.normalize)
    (only : project.HandsOnly Among before.events) : project.HandsOnly Among after.events := by
  induction calls with
  | done => exact only
  | call _ ih =>
      obtain ⟨first, others⟩ := List.forall_mem_cons.1 among
      exact ih others ((processWith_takes modules _ _ _).handsOnly closed trivial first only)

theorem handed_of_reaches (calls : project.Calls paths before outcomes after)
    (modules : project.ReadsModules) (succeed : ∀ outcome ∈ outcomes, outcome.isOk)
    (sound : project.Sound before) : ∀ path ∈ paths, ∀ file, project.Reaches path.normalize file →
      .handed file (project.relative file) ∈ after.events := by
  induction calls with
  | done => simp
  | @call path paths walk after outcomes rest ih =>
      obtain ⟨first, others⟩ := List.forall_mem_cons.1 succeed
      have settles := processWith_settles modules project.limit path walk sound
      refine List.forall_mem_cons.2 ⟨fun file reaches => ?_, ih others settles.sound⟩
      obtain ⟨result, middle, ran⟩ := WalkM.exists_run_of_isOk first
      rw [show (project.processWith project.limit path).runFrom walk = _ from ran] at settles
      rw [ran] at rest
      exact (rest.grows modules).subset ((settles.means result rfl).handed_of_reaches reaches)

end Calls

theorem filesRead_eq (walk : Walk) :
    walk.filesRead = (walk.events.filterMap Event.read?).length := by
  rw [List.length_filterMap_eq_countP, Walk.filesRead]
  congr 1
  funext event
  cases event <;> rfl

/-- The engine is told the files relative to the root. -/
theorem HandsOnly.handed_eq {Among : Path → Prop} (only : project.HandsOnly Among walk.events) :
    walk.handed = (walk.events.filterMap Event.handed?).reverse.map project.relative := by
  rw [Walk.handed, List.filterMap_reverse, List.map_reverse, List.map_filterMap]
  congr 1
  refine List.filterMap_congr fun event member => ?_
  cases event with
  | handed file relative => simp [Event.handed?, (only file relative member).2]
  | _ => rfl

/-- **With reuse, every file is processed once.**  Files are processed one after another in one
walk.  Whatever fails, a file that was completed is never looked at again, and every call that gave
a result completed its file.  If nothing fails, the files handed to the engine are those that the
called files reach, each once; as many were read, and as many results are kept.  They are handed
over relative to the root, which tells them apart if all called paths have one leading slash. -/
theorem each_file_once (settings : Settings) (files : FileTree) (root : Path) (verbosity : Nat)
    (paths : List Path) :
    let project := (ofModules settings files root verbosity).withReuse true
    let run := (paths.mapM fun path => (project.process path).run).run {}
    let handed := run.2.events.filterMap Event.handed?
    NeverRevisits run.2.events ∧
    (∀ call ∈ paths.zip run.1, call.2.isOk → Completed call.1.normalize run.2.events) ∧
    run.2.handed = handed.reverse.map project.relative ∧
    ((∀ outcome ∈ run.1, outcome.isOk) →
      handed.Nodup ∧ run.2.filesRead = handed.length ∧ run.2.cache.length = handed.length ∧
      (∀ file, file ∈ handed ↔ ∃ path ∈ paths, project.Reaches path.normalize file) ∧
      (settings = {} → (∀ path ∈ paths, path.root = .absolute ∧ path.WellFormed) →
        run.2.handed.Nodup)) := by
  intro project run handed
  have modules : project.ReadsModules := rfl
  have calls : project.Calls paths {} run.1 run.2 := project.calls_run paths {}
  have remembers := calls.remembers modules rfl .start
  have only : project.HandsOnly (fun file => ∃ path ∈ paths, project.Reaches path.normalize file)
      run.2.events :=
    calls.handsOnly modules (fun file target ⟨path, called, reaches⟩ imports =>
      ⟨path, called, reaches.tail imports⟩) (fun path called => ⟨path, called, .refl⟩)
      (by simp [HandsOnly])
  refine ⟨remembers.never, calls.completed modules rfl .start, only.handed_eq, fun succeed => ?_⟩
  obtain ⟨reads, held, once⟩ := calls.tally modules rfl succeed ⟨rfl, .nil, .nil⟩
  have reached : ∀ file, file ∈ handed ↔ ∃ path ∈ paths, project.Reaches path.normalize file := by
    intro file
    rw [mem_filterMap_handed?]
    exact ⟨fun ⟨relative, member⟩ => (only file relative member).1,
      fun ⟨path, called, reaches⟩ =>
        ⟨_, calls.handed_of_reaches modules succeed .start path called file reaches⟩⟩
  have idle : run.2.stack = [] := calls.stack_eq modules
  refine ⟨once, by rw [filesRead_eq, reads], ?_, reached, fun defaults absolute => ?_⟩
  · rw [idle, List.nil_append] at held
    simpa using held.length_eq.symm
  · have onlyAbsolute : project.HandsOnly (Path.IsFrom .absolute) run.2.events :=
      calls.handsOnly modules (project.bounded_of_defaults defaults (by simp)).imports
        (fun path called => by
          obtain ⟨rooted, formed⟩ := absolute path called
          exact rooted ▸ Path.isFrom_normalize formed (by simp [rooted])) (by simp [HandsOnly])
    have absoluteHanded : ∀ file ∈ handed, file.IsFrom .absolute := fun file member => by
      obtain ⟨relative, handedOver⟩ := mem_filterMap_handed?.1 member
      exact (onlyAbsolute file relative handedOver).1
    rw [only.handed_eq]
    refine List.Nodup.map_on (fun first inFirst second inSecond same => ?_)
      (List.nodup_reverse.2 once)
    exact Path.relativeTo_injective (absoluteHanded first (List.mem_reverse.1 inFirst))
      (absoluteHanded second (List.mem_reverse.1 inSecond)) (by simp) same

/-- Three files, the last of which is imported by both others. -/
def diamondFiles : FileTree := { files :=
  [(["a.js".toList], .text "export * from './b'; export * from './c'".toList),
    (["b.js".toList], .text "export * from './c'".toList),
    (["c.js".toList], .text "export const one = 1".toList)] }

def diamond : Project := (ofModules {} diamondFiles (Path.ofText ['/']) 0).withReuse true

def diamondPaths : List Path := ["/b.js".toList, "/a.js".toList, "/c.js".toList].map Path.ofText

/-- The calls of a walk in which one file is missing. -/
def brokenPaths : List Path := ["/c.js".toList, "/d.js".toList, "/a.js".toList].map Path.ofText

theorem diamond_runs :
    (∀ outcome ∈ ((diamondPaths.mapM fun path => (diamond.process path).run).run {}).1,
      outcome.isOk) ∧
    ((brokenPaths.mapM fun path => (diamond.process path).run).run {}).1.map Except.isOk =
      [true, false, true] := by
  decide +kernel

/-- All files are called in turn; and the same with a file in between that is missing. -/
theorem each_file_once_in_diamond :
    (let run := (diamondPaths.mapM fun path => (diamond.process path).run).run {}
    let handed := run.2.events.filterMap Event.handed?
    (∀ outcome ∈ run.1, outcome.isOk) ∧ handed.Nodup ∧ run.2.filesRead = handed.length ∧
      run.2.cache.length = handed.length ∧ run.2.handed.Nodup ∧
      ∀ file, file ∈ handed ↔ ∃ path ∈ diamondPaths, diamond.Reaches path.normalize file) ∧
    (let run := (brokenPaths.mapM fun path => (diamond.process path).run).run {}
    run.1.map Except.isOk = [true, false, true] ∧
      Completed (Path.ofText "/c.js".toList) run.2.events ∧ NeverRevisits run.2.events) := by
  obtain ⟨succeed, broken⟩ := diamond_runs
  obtain ⟨-, -, -, whole⟩ := each_file_once {} diamondFiles (Path.ofText ['/']) 0 diamondPaths
  obtain ⟨never, completed, -⟩ := each_file_once {} diamondFiles (Path.ofText ['/']) 0 brokenPaths
  obtain ⟨once, reads, kept, reached, apart⟩ := whole succeed
  have absolute : ∀ path ∈ diamondPaths, path.root = .absolute ∧ path.WellFormed := by
    intro path member
    obtain ⟨text, inTexts, rfl⟩ := List.mem_map.1 member
    refine ⟨?_, Path.ofText_wellFormed text⟩
    simp only [List.mem_cons, List.not_mem_nil, or_false] at inTexts
    rcases inTexts with rfl | rfl | rfl <;> rfl
  refine ⟨⟨succeed, once, reads, kept, apart rfl absolute, reached⟩, broken, ?_, never⟩
  obtain ⟨first, others, outcomes, ok, -⟩ := List.map_eq_cons_iff.1 broken
  have called : (Path.ofText "/c.js".toList, first) ∈ brokenPaths.zip (first :: others) :=
    List.mem_cons_self
  exact completed _ (outcomes ▸ called) ok

end Project

end ExportDocs
