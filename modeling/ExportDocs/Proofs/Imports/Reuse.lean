/-
# ExportDocs.Proofs.Imports.Reuse -- kept results are the results

A result is kept under one stack and used again under another, also after a failure left some files
kept and others not.  It is the right one because of what a walk keeps (`Coherent`): every kept
result is one that the file has somewhere, everything that a kept file imports is kept too, and no
file in flight is kept.  So nothing that a kept file reaches is in flight, and processing it again
would meet no cycle that was not there the first time.

* `processWith_follows`: a walk gives each file the outcome that the plain recursion gives it.
* `reuse_is_invisible`: files processed one after another, with reuse or without, come to what each
  of them comes to on its own.
-/
import ExportDocs.Proofs.Imports.Outcome

namespace ExportDocs.Project

set_option autoImplicit false

variable {project : Project} {walk : Walk}

/-! ## What is kept -/

theorem kept_keeping (result : FileResult) (file : Path) :
    project.kept (project.keeping walk result) file =
      if project.reuse ∧ file = result.path then some result else project.kept walk file := by
  unfold kept keeping
  cases project.reuse with
  | false => simp
  | true =>
      by_cases same : file = result.path
      · simp [same]
      · have other : (file == result.path) = false := beq_eq_false_iff_ne.2 same
        simp [same, List.lookup_cons, other]

/-- What holds of the results that a walk keeps. -/
structure Coherent (project : Project) (walk : Walk) : Prop where
  sound : ∀ file result, project.kept walk file = some result →
    ∃ limit stack, project.outcome limit stack file = .ok result
  closed : ∀ file target, (project.kept walk file).isSome → project.Imports file target →
    (project.kept walk target).isSome
  apart : ∀ file ∈ walk.stack, project.kept walk file = none

namespace Coherent

theorem start : project.Coherent {} where
  sound := by simp [kept]
  closed := by simp [kept]
  apart := by simp

theorem noted (coherent : project.Coherent walk) (events : List Event) :
    project.Coherent (walk.noted events) :=
  ⟨coherent.sound, coherent.closed, coherent.apart⟩

theorem restack (coherent : project.Coherent walk) {stack : Stack}
    (apart : ∀ file ∈ stack, project.kept walk file = none) :
    project.Coherent (walk.restack stack) :=
  ⟨coherent.sound, coherent.closed, apart⟩

theorem keeping (coherent : project.Coherent walk) {result : FileResult} {limit : Nat}
    {stack : Stack} (sound : project.outcome limit stack result.path = .ok result)
    (left : result.path ∉ walk.stack)
    (closed : project.reuse → ∀ target, project.Imports result.path target →
      (project.kept walk target).isSome) :
    project.Coherent (project.keeping walk result) where
  sound := by
    intro file kept held
    rw [kept_keeping] at held
    split at held
    · rename_i here
      cases held
      exact ⟨limit, stack, here.2 ▸ sound⟩
    · exact coherent.sound file kept held
  closed := by
    intro file target held imports
    rw [kept_keeping] at held ⊢
    split
    · rfl
    · split at held
      · rename_i here
        exact closed here.1 target (here.2 ▸ imports)
      · exact coherent.closed file target held imports
  apart := by
    intro file inFlight
    rw [keeping_stack] at inFlight
    have other : file ≠ result.path := fun same => left (same ▸ inFlight)
    rw [kept_keeping, if_neg (fun here => other here.2)]
    exact coherent.apart file inFlight

/-- Nothing that a kept file reaches is in flight, not intact or on a cycle. -/
theorem clear (modules : project.ReadsModules) (coherent : project.Coherent walk) {file : Path}
    (held : (project.kept walk file).isSome) : project.Clear walk.stack file := by
  intro target reaches
  have heldTarget : (project.kept walk target).isSome := by
    induction reaches with
    | refl => exact held
    | tail _ imports ih => exact coherent.closed _ _ ih imports
  obtain ⟨result, kept⟩ := Option.isSome_iff_exists.1 heldTarget
  obtain ⟨limit, stack, ok⟩ := coherent.sound target result kept
  obtain ⟨intact, -, acyclic⟩ :=
    clear_of_outcome modules limit stack target ⟨result, ok⟩ target .refl
  refine ⟨intact, fun inFlight => ?_, acyclic⟩
  rw [coherent.apart target inFlight] at kept
  cases kept

end Coherent

/-! ## Steps -/

/-- A step has the expected outcome, leaves a coherent walk with the same stack, forgets no result
and, if it succeeds, keeps the results of the files it needed. -/
structure Follows {α : Type} (project : Project) (walk : Walk) (expected : Except Error α)
    (Needed : Path → Prop) (run : Except Error α × Walk) : Prop where
  outcome : run.1 = expected
  stack : run.2.stack = walk.stack
  coherent : project.Coherent run.2
  grows : ∀ file, (project.kept walk file).isSome → (project.kept run.2 file).isSome
  keeps : project.reuse → ∀ a, run.1 = .ok a → ∀ file, Needed file →
    (project.kept run.2 file).isSome

namespace Follows

variable {α β : Type} {Needed : Path → Prop}

/-- Nothing but events. -/
theorem of_noted (coherent : project.Coherent walk) {outcome : Except Error α}
    (kept : project.reuse → ∀ a, outcome = .ok a → ∀ file, Needed file →
      (project.kept walk file).isSome) (events : List Event) :
    project.Follows walk outcome Needed (outcome, walk.noted events) :=
  ⟨rfl, rfl, coherent.noted events, fun _ held => held, kept⟩

theorem map {expected : Except Error α} {run : Except Error α × Walk}
    (follows : project.Follows walk expected Needed run) (f : α → β) :
    project.Follows walk (expected.map f) Needed (run.1.map f, run.2) := by
  refine ⟨by rw [follows.outcome], follows.stack, follows.coherent, follows.grows, ?_⟩
  intro reuse b ok
  obtain ⟨a, ok, -⟩ := map_eq_ok_iff.1 ok
  exact follows.keeps reuse a ok

theorem mapM {stack : Stack} {f : α → WalkM β} {answer : α → Except Error β}
    {NeededFor : α → Path → Prop} (questions : List α)
    (each : ∀ question ∈ questions, ∀ walk : Walk, walk.stack = stack → project.Coherent walk →
      project.Follows walk (answer question) (NeededFor question) ((f question).runFrom walk)) :
    ∀ walk : Walk, walk.stack = stack → project.Coherent walk →
      project.Follows walk (questions.mapM answer)
        (fun file => ∃ question ∈ questions, NeededFor question file)
        ((questions.mapM f).runFrom walk) := by
  induction questions with
  | nil => exact fun walk _ coherent => of_noted coherent (by simp) []
  | cons question rest ih =>
      intro walk here coherent
      have first := each question (by simp) walk here coherent
      rw [List.mapM_cons, List.mapM_cons, WalkM.runFrom_bind, ← first.outcome]
      rcases ran : (f question).runFrom walk with ⟨error | a, after⟩
      · rw [ran] at first
        exact ⟨rfl, first.stack, first.coherent, first.grows, by simp⟩
      · rw [ran] at first
        have further := ih (fun question member => each question (by simp [member])) after
          (first.stack.trans here) first.coherent
        simp only [bind_pure_comp, WalkM.runFrom_map]
        have both := further.map (List.cons a)
        refine ⟨both.outcome, both.stack.trans first.stack, both.coherent,
          fun file held => both.grows file (first.grows file held), ?_⟩
        rintro reuse results ok file ⟨asked, member, needed⟩
        rcases List.mem_cons.1 member with rfl | member
        · exact both.grows file (first.keeps reuse a rfl file needed)
        · exact both.keeps reuse results ok file ⟨asked, member, needed⟩

end Follows

/-- Asking for a module follows the plain recursion if processing its file does. -/
theorem importSymbols_follows {process : Path → WalkM FileResult}
    {expected : Path → Except Error FileResult} {specifier : Text} {base : Path} {outer : Stack}
    (top : walk.stack = base :: outer) (coherent : project.Coherent walk)
    (processes : ∀ path, project.settings.isLocal specifier →
      (project.lookup base specifier).found = some path → ∀ walk' : Walk,
      walk'.stack = walk.stack → project.Coherent walk' →
      project.Follows walk' (expected path.normalize) (· = path.normalize)
        ((process path).runFrom walk')) :
    project.Follows walk (project.answer expected base specifier)
      (fun target => project.settings.isLocal specifier ∧
        ∃ path, project.resolve base specifier = .ok path ∧ path.normalize = target)
      ((project.importSymbols process specifier).runFrom walk) := by
  by_cases isLocal : project.settings.isLocal specifier
  · cases found : (project.lookup base specifier).found with
    | none =>
        rw [runFrom_importSymbols_unresolved isLocal top found]
        simp only [answer, isLocal, if_true, found, Option.elim_none]
        exact .of_noted coherent (by simp) _
    | some path =>
        rw [runFrom_importSymbols_found isLocal top found]
        have processed := processes path isLocal found
          (walk.noted (project.searchEvents base specifier)) rfl (coherent.noted _)
        have mapped := processed.map FileResult.symbols
        simp only [answer, isLocal, if_true, found, Option.elim_some]
        refine ⟨mapped.outcome, mapped.stack, mapped.coherent, mapped.grows, ?_⟩
        rintro reuse symbols ok target ⟨-, path', resolved, rfl⟩
        rw [resolve_eq_ok_iff, found] at resolved
        cases resolved
        exact mapped.keeps reuse symbols ok _ rfl
  · rw [runFrom_importSymbols_package _ (by simpa using isLocal), answer_package isLocal]
    exact .of_noted coherent (by simp [isLocal]) []

section Entered

variable {resolve : Text → WalkM (List Symbol)} {answers : Text → Except Error (List Symbol)}
  {path : Path} {source : Text}

/-- Every question that a file asks while it is on top of the stack follows the answers. -/
def AsksAlong (project : Project) (resolve : Text → WalkM (List Symbol))
    (answers : Text → Except Error (List Symbol)) (path : Path) (stack : Stack) : Prop :=
  ∀ specifier ∈ project.requests path, ∀ walk : Walk, walk.stack = stack → project.Coherent walk →
    project.Follows walk (answers specifier)
      (fun target => project.settings.isLocal specifier ∧
        ∃ found, project.resolve path specifier = .ok found ∧ found.normalize = target)
      ((resolve specifier).runFrom walk)

/-- An extraction keeps the results of everything that the file imports. -/
theorem extractFile_follows (modules : project.ReadsModules) (coherent : project.Coherent walk)
    (read : project.files.read path = .ok source)
    (asks : project.AsksAlong resolve answers path walk.stack) :
    project.Follows walk
      (verdict path (project.engine.run (project.relative path) source answers))
      (project.Imports path) ((project.extractFile resolve path source).runFrom walk) := by
  obtain ⟨compose, factors⟩ := modules.asks (project.relative path) source
  rw [runFrom_extractFile, factors WalkM, factors (Except Error), ← requests_of_read read]
  simp only [WalkM.runFrom_map]
  have asked := (Follows.mapM (project.requests path) asks
    (walk.noted (project.handing path walk.stack)) rfl (coherent.noted _)).map compose
  refine ⟨congrArg (verdict path) asked.outcome, asked.stack, asked.coherent.noted _,
    asked.grows, ?_⟩
  rintro reuse extraction ok target ⟨specifier, member, needed⟩
  exact asked.keeps reuse _ (verdict_eq_ok_iff.1 ok) target ⟨specifier, member, needed⟩

/-- A file that is entered follows the plain recursion if its questions do. -/
theorem processNormal_follows_entered {limit : Nat} (modules : project.ReadsModules)
    (coherent : project.Coherent walk) (miss : project.kept walk path = none)
    (read : project.files.read path = .ok source) (fresh : path ∉ walk.stack)
    (asks : project.AsksAlong resolve
      (project.answer (project.outcome limit (path :: walk.stack)) path) path
      (path :: walk.stack)) :
    project.Follows walk (project.outcome (limit + 1) walk.stack path) (· = path)
      ((project.processNormal resolve path).runFrom walk) := by
  have inside : project.Coherent ((walk.noted [.read path]).restack (path :: walk.stack)) :=
    (coherent.noted _).restack (List.forall_mem_cons.2 ⟨miss, coherent.apart⟩)
  have extracted := extractFile_follows modules inside read asks
  have unfolded : project.outcome (limit + 1) walk.stack path =
      (verdict path (project.engine.run (project.relative path) source
        (project.answer (project.outcome limit (path :: walk.stack)) path))).map
          (resultOf path) := by
    simp only [outcome, read, fresh, if_false]
  rw [← extracted.outcome] at unfolded
  rw [runFrom_processNormal_entered _ miss read fresh extracted.stack]
  rcases ran : (project.extractFile resolve path source).runFrom
    ((walk.noted [.read path]).restack (path :: walk.stack)) with ⟨error | extraction, after⟩
  all_goals
    rw [ran] at extracted unfolded
    have apart : ∀ file ∈ walk.stack, project.kept after file = none := fun file member =>
      extracted.coherent.apart file (by rw [extracted.stack]; exact List.mem_cons_of_mem _ member)
  · exact ⟨unfolded.symm, rfl, extracted.coherent.restack apart, extracted.grows, by simp⟩
  · have closed : project.reuse → ∀ target, project.Imports path target →
        (project.kept (after.restack walk.stack) target).isSome :=
      fun reuse => extracted.keeps reuse extraction rfl
    refine ⟨unfolded.symm, by simp, ?_, fun file held => ?_, fun reuse _ _ file same => ?_⟩
    · exact (extracted.coherent.restack apart).keeping unfolded fresh closed
    · rw [kept_keeping]
      split
      · rfl
      · exact extracted.grows file held
    · rw [kept_keeping, if_pos ⟨reuse, same⟩]
      rfl

end Entered

/-- **A walk gives each file the outcome that the plain recursion gives it.** -/
theorem processWith_follows {Proper : Path → Prop} {bound : Nat} (modules : project.ReadsModules)
    (bounded : project.Bounded Proper bound) (limit : Nat) :
    ∀ (path : Path) (walk : Walk), project.HasRoom Proper bound limit walk.stack path.normalize →
      project.Coherent walk →
      project.Follows walk (project.outcome limit walk.stack path.normalize) (· = path.normalize)
        ((project.processWith limit path).runFrom walk) := by
  induction limit with
  | zero => exact fun _ _ room _ => absurd (room.limit_pos bounded) (lt_irrefl 0)
  | succ limit ih =>
      intro path walk room coherent
      rw [processWith]
      cases kept : project.kept walk path.normalize with
      | some result =>
          have held : (project.kept walk path.normalize).isSome := by simp [kept]
          have clear := coherent.clear modules held
          obtain ⟨again, ok⟩ := (outcome_ok_iff modules bounded _ _ _ room).2 clear
          obtain ⟨limit', stack', sound⟩ := coherent.sound _ _ kept
          cases outcome_agree modules _ _ _ _ _ _ _ ok sound
          rw [runFrom_processNormal_kept _ kept, ok]
          refine .of_noted coherent ?_ _
          rintro - - - file rfl
          exact held
      | none =>
          cases read : project.files.read path.normalize with
          | error fault =>
              rw [runFrom_processNormal_unread _ kept read, outcome, read]
              exact .of_noted coherent (by simp) _
          | ok source =>
              by_cases inFlight : path.normalize ∈ walk.stack
              · rw [runFrom_processNormal_refused _ kept read inFlight, outcome, read]
                simp only [inFlight, if_true]
                exact .of_noted coherent (by simp) _
              · refine processNormal_follows_entered modules coherent kept read inFlight ?_
                intro specifier asked inner here coherentInner
                refine importSymbols_follows here coherentInner
                  fun target isLocal found walk' same coherent' => ?_
                have imports := Imports.of_found asked isLocal found
                have stack : walk'.stack = path.normalize :: walk.stack := same.trans here
                rw [← stack]
                exact ih target walk' (stack ▸ room.imports bounded inFlight imports) coherent'

/-! ## Whole runs -/

/-- An absolute path has room on an empty stack. -/
theorem hasRoom_start (project : Project) {path : Path} (absolute : path.root ≠ .current) :
    project.HasRoom Path.IsRooted (2 * project.files.names.card) project.limit []
      path.normalize := by
  refine ⟨.nil, Path.isRooted_normalize absolute, ?_⟩
  have few := project.files.names_card_le
  rw [limit, List.length_nil]
  omega

/-- The plain recursion knows no reuse. -/
theorem outcome_withReuse (reuse : Bool) (limit : Nat) :
    ∀ (stack : Stack) (path : Path),
      (project.withReuse reuse).outcome limit stack path = project.outcome limit stack path := by
  induction limit with
  | zero => exact fun _ _ => rfl
  | succ limit ih =>
      intro stack path
      have inner : (project.withReuse reuse).outcome limit (path :: stack) =
          project.outcome limit (path :: stack) := funext (ih (path :: stack))
      rw [outcome, outcome, inner]
      rfl

/-- Files processed one after another in one walk come to what the plain recursion gives. -/
theorem run_mapM_process (modules : project.ReadsModules) (paths : List Path) :
    ∀ walk : Walk, walk.stack = [] → project.Coherent walk →
      (∀ path ∈ paths, path.root ≠ .current) →
      ((paths.mapM fun path => (project.process path).run).run walk).1 =
        paths.map fun path => project.outcome project.limit [] path.normalize := by
  induction paths with
  | nil => exact fun _ _ _ _ => rfl
  | cons path rest ih =>
      intro walk empty coherent absolute
      have room := project.hasRoom_start (absolute path (by simp))
      have follows := processWith_follows modules project.bounded_of_rooted project.limit path walk
        (empty ▸ room) coherent
      have further := ih ((project.process path).runFrom walk).2 (follows.stack.trans empty)
        follows.coherent fun path member => absolute path (by simp [member])
      have outcome := follows.outcome
      rw [empty] at outcome
      rw [List.mapM_cons, List.map_cons, ← outcome, ← further]
      rfl

/-- **Reuse is invisible.**  Files with absolute paths, processed one after another in one walk,
with reuse or without and whether or not some of them fail, come to the same results and the same
failures as each of them processed on its own in a fresh walk without reuse. -/
theorem reuse_is_invisible (settings : Settings) (files : FileTree) (root : Path)
    (verbosity : Nat) (reuse : Bool) (paths : List Path)
    (absolute : ∀ path ∈ paths, path.root ≠ .current) :
    let project := ofModules settings files root verbosity
    ((paths.mapM fun path => ((project.withReuse reuse).process path).run).run {}).1 =
      paths.map fun path => (((project.withReuse false).process path).runFrom {}).1 := by
  intro project
  have modules : ∀ reuse, (project.withReuse reuse).ReadsModules := fun _ => rfl
  rw [run_mapM_process (modules reuse) paths {} rfl .start absolute]
  refine List.map_congr_left fun path member => ?_
  have alone := processWith_follows (modules false) (bounded_of_rooted _) _ path {}
    (hasRoom_start _ (absolute path member)) .start
  exact (outcome_withReuse reuse _ _ _).trans
    ((outcome_withReuse false _ _ _).symm.trans alone.outcome.symm)

/-- Two files that import each other, processed before and after a file that one of them imports. -/
theorem reuse_is_invisible_around_cycle :
    let files : FileTree := { files :=
      [(["a.js".toList], .text "export * from './c'; export * from './b'".toList),
        (["b.js".toList], .text "export * from './a'".toList),
        (["c.js".toList], .text "export const one = 1".toList)] }
    let project := ofModules {} files (Path.ofText ['/']) 0
    let paths := ["/a.js".toList, "/c.js".toList, "/b.js".toList].map Path.ofText
    (∀ path ∈ paths, path.root ≠ .current) ∧
    ((paths.mapM fun path => ((project.withReuse true).process path).run).run {}).1 =
      paths.map fun path => (((project.withReuse false).process path).runFrom {}).1 := by
  intro files project paths
  have absolute : ∀ path ∈ paths, path.root ≠ .current := by decide
  exact ⟨absolute, reuse_is_invisible {} files (Path.ofText ['/']) 0 true paths absolute⟩

end ExportDocs.Project
