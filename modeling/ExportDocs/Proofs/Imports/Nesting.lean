/-
# ExportDocs.Proofs.Imports.Nesting -- how deep files are processed inside one another

The walk carries a limit to its nesting.  This module shows that it is never met where paths are
bounded: the files on the stack are readable, proper and different, so there are at most as many as
the bound, and every file that is processed inside others spends one more of them.

* `processWith_limit_irrelevant`: all limits beyond the bound give the same run.
* `process_ends`: under the default settings and from an absolute path the stack never holds more
  files than there are, one more is the deepest nesting, and no limit is needed.
-/
import ExportDocs.Proofs.Imports.Names
import ExportDocs.Proofs.Imports.StackDiscipline

namespace ExportDocs

set_option autoImplicit false

open Trace

/-- Two resolvers that agree on every question, and restore the stack, give the same answers. -/
theorem WalkM.runFrom_mapM_congr {α β : Type} {stack : Stack} {f g : α → WalkM β}
    (questions : List α)
    (agree : ∀ question ∈ questions, ∀ walk : Walk, walk.stack = stack →
      (f question).runFrom walk = (g question).runFrom walk ∧
        ((f question).runFrom walk).2.stack = stack) :
    ∀ walk : Walk, walk.stack = stack →
      (questions.mapM f).runFrom walk = (questions.mapM g).runFrom walk := by
  induction questions with
  | nil => exact fun _ _ => rfl
  | cons question rest ih =>
      intro walk here
      obtain ⟨same, restored⟩ := agree question (by simp) walk here
      have further := ih (fun question member => agree question (by simp [member]))
      rw [List.mapM_cons, List.mapM_cons, runFrom_bind, runFrom_bind, ← same]
      rcases ran : (f question).runFrom walk with ⟨error | answer, after⟩
      · rfl
      · rw [ran] at restored
        simp only [bind_pure_comp, runFrom_map, further after restored]

namespace Project

variable {project : Project} {Proper : Path → Prop} {bound : Nat}

/-! ## Files in flight -/

/-- The files on a stack are different, proper and readable. -/
def Held (project : Project) (Proper : Path → Prop) (stack : Stack) : Prop :=
  stack.Nodup ∧ ∀ file ∈ stack, Proper file ∧ ∃ source, project.files.read file = .ok source

theorem Held.nil : project.Held Proper [] := ⟨List.nodup_nil, by simp⟩

theorem Held.cons {stack : Stack} {path : Path} {source : Text} (held : project.Held Proper stack)
    (proper : Proper path) (read : project.files.read path = .ok source) (fresh : path ∉ stack) :
    project.Held Proper (path :: stack) :=
  ⟨List.nodup_cons.2 ⟨fresh, held.1⟩, List.forall_mem_cons.2 ⟨⟨proper, source, read⟩, held.2⟩⟩

theorem Bounded.length_le_of_held {stack : Stack} (bounded : project.Bounded Proper bound)
    (held : project.Held Proper stack) : stack.length ≤ bound :=
  bounded.length_le stack held.1 held.2

theorem Imports.read {file target : Path} (imports : project.Imports file target) :
    ∃ source, project.files.read file = .ok source := by
  obtain ⟨specifier, asked, -⟩ := imports
  cases read : project.files.read file with
  | ok source => exact ⟨source, rfl⟩
  | error fault => simp [requests, read] at asked

/-- A file may be processed if the stack and the limit together exceed the bound. -/
def HasRoom (project : Project) (Proper : Path → Prop) (bound limit : Nat) (stack : Stack)
    (path : Path) : Prop :=
  project.Held Proper stack ∧ Proper path ∧ bound < limit + stack.length

theorem HasRoom.imports {limit : Nat} {stack : Stack} {path target : Path}
    (bounded : project.Bounded Proper bound)
    (room : project.HasRoom Proper bound (limit + 1) stack path) (fresh : path ∉ stack)
    (imports : project.Imports path target) :
    project.HasRoom Proper bound limit (path :: stack) target := by
  obtain ⟨held, proper, exceeds⟩ := room
  obtain ⟨source, read⟩ := imports.read
  refine ⟨held.cons proper read fresh, bounded.imports path target proper imports, ?_⟩
  rw [List.length_cons]
  omega

theorem HasRoom.limit_pos {limit : Nat} {stack : Stack} {path : Path}
    (bounded : project.Bounded Proper bound)
    (room : project.HasRoom Proper bound limit stack path) : 0 < limit := by
  have short := bounded.length_le_of_held room.1
  have exceeds := room.2.2
  omega

/-! ## The stack is short and the limit is not met -/

/-- The law of a run within a bound. -/
def boundLaw (bound : Nat) (_ : Stack) : Event → Prop
  | .stacked next => next.length ≤ bound
  | .raised (.uncaught .tooDeep) => False
  | _ => True

theorem bound_discipline (bounded : project.Bounded Proper bound) :
    project.Discipline (boundLaw bound) (project.HasRoom Proper bound) where
  quiet := by
    intro stack event quiet
    cases event with
    | stacked next => simp [Event.isQuiet] at quiet
    | raised error =>
        cases error with
        | uncaught cause => cases cause <;> simp_all [boundLaw, Event.isQuiet]
        | _ => trivial
    | _ => trivial
  tooDeep := fun _ _ room => absurd (room.limit_pos bounded) (lt_irrefl 0)
  cycle := fun _ _ _ _ _ => trivial
  enters := by
    rintro limit stack path source ⟨held, proper, -⟩ read fresh
    exact ⟨bounded.length_le_of_held (held.cons proper read fresh),
      bounded.length_le_of_held held⟩
  imports := fun _ _ _ _ room fresh imports => room.imports bounded fresh imports

/-! ## The limit is irrelevant -/

theorem importSymbols_congr {process process' : Path → WalkM FileResult} {specifier : Text}
    {walk : Walk} {base : Path} {outer : Stack} (top : walk.stack = base :: outer)
    (same : ∀ path, project.settings.isLocal specifier →
      (project.lookup base specifier).found = some path →
      ∀ walk' : Walk, walk'.stack = walk.stack →
        (process path).runFrom walk' = (process' path).runFrom walk') :
    (project.importSymbols process specifier).runFrom walk =
      (project.importSymbols process' specifier).runFrom walk := by
  by_cases isLocal : project.settings.isLocal specifier
  · cases found : (project.lookup base specifier).found with
    | none =>
        rw [runFrom_importSymbols_unresolved isLocal top found,
          runFrom_importSymbols_unresolved isLocal top found]
    | some path =>
        rw [runFrom_importSymbols_found isLocal top found,
          runFrom_importSymbols_found isLocal top found,
          same path isLocal found (walk.noted _) (Walk.noted_stack _ _)]
  · have package : project.settings.isLocal specifier = false := by simpa using isLocal
    rw [runFrom_importSymbols_package _ package, runFrom_importSymbols_package _ package]

/-- How a file is processed depends only on the answers to the questions that it asks while it is
on top of the stack. -/
theorem processNormal_congr (modules : project.ReadsModules)
    {resolve resolve' : Text → WalkM (List Symbol)} {path : Path} {walk : Walk}
    (agree : path ∉ walk.stack → ∀ specifier ∈ project.requests path, ∀ inner : Walk,
      inner.stack = path :: walk.stack →
        (resolve specifier).runFrom inner = (resolve' specifier).runFrom inner ∧
          ((resolve specifier).runFrom inner).2.stack = path :: walk.stack) :
    (project.processNormal resolve path).runFrom walk =
      (project.processNormal resolve' path).runFrom walk := by
  cases kept : project.kept walk path with
  | some result => rw [runFrom_processNormal_kept _ kept, runFrom_processNormal_kept _ kept]
  | none =>
      cases read : project.files.read path with
      | error fault =>
          rw [runFrom_processNormal_unread _ kept read, runFrom_processNormal_unread _ kept read]
      | ok source =>
          by_cases inFlight : path ∈ walk.stack
          · rw [runFrom_processNormal_refused _ kept read inFlight,
              runFrom_processNormal_refused _ kept read inFlight]
          · obtain ⟨compose, factors⟩ := modules.asks (project.relative path) source
            have answers := WalkM.runFrom_mapM_congr (project.requests path) (agree inFlight)
            rw [requests_of_read read] at answers
            rw [runFrom_processNormal_fresh _ kept read inFlight,
              runFrom_processNormal_fresh _ kept read inFlight, runFrom_extractFile,
              runFrom_extractFile, factors WalkM resolve, factors WalkM resolve']
            simp only [WalkM.runFrom_map]
            rw [answers _ rfl]

/-- **All limits that leave room give the same run.** -/
theorem processWith_limit_irrelevant (modules : project.ReadsModules)
    (bounded : project.Bounded Proper bound) (limit : Nat) :
    ∀ (limit' : Nat) (path : Path) (walk : Walk),
      project.HasRoom Proper bound limit walk.stack path.normalize →
      project.HasRoom Proper bound limit' walk.stack path.normalize →
      (project.processWith limit path).runFrom walk =
        (project.processWith limit' path).runFrom walk := by
  induction limit with
  | zero => exact fun _ _ _ room _ => absurd (room.limit_pos bounded) (lt_irrefl 0)
  | succ limit ih =>
      intro limit' path walk room room'
      obtain ⟨limit', rfl⟩ := Nat.exists_eq_add_one.2 (room'.limit_pos bounded)
      rw [processWith, processWith]
      refine processNormal_congr modules fun fresh specifier asked inner here => ⟨?_, ?_⟩
      · refine importSymbols_congr here fun target isLocal found walk' same => ?_
        have imports := Imports.of_found asked isLocal found
        have stack : walk'.stack = path.normalize :: walk.stack := same.trans here
        exact ih limit' target walk' (stack ▸ room.imports bounded fresh imports)
          (stack ▸ room'.imports bounded fresh imports)
      · exact (importSymbols_restores modules limit specifier inner).1.trans here

/-! ## Default settings -/

/-- **Processing an absolute path ends by itself.**  Under the default settings, with or without
reuse and whatever results are kept, the stack is at no moment longer than the number of files.
Files are processed at most one deeper inside one another: no larger limit is ever met, all such
limits give this run, and so the run obeys the recursion without a limit.  Each file asks the
fixed list of questions that its source requests. -/
theorem process_ends (files : FileTree) (root : Path) (verbosity : Nat) (reuse : Bool)
    (text : Text) (absolute : (Path.ofText text).root ≠ .current)
    (cache : List (Path × FileResult)) :
    let project := (ofModules {} files root verbosity).withReuse reuse
    let path := Path.ofText text
    let run := (project.process path).runFrom { cache }
    (∀ moment, moment <:+ run.2.events → (stackFrom [] moment).length ≤ files.names.card) ∧
    .raised (.uncaught .tooDeep) ∉ run.2.events ∧
    (∀ limit, files.names.card + 1 ≤ limit →
      (project.processWith limit path).runFrom { cache } = run) ∧
    run = (project.processNormal (project.importSymbols project.process) path.normalize).runFrom
      { cache } ∧
    ∀ reported source, Asks (requested reported project.settings.undocumented source)
      fun _ _ resolve => project.engine.run reported source resolve := by
  intro project path run
  have modules : project.ReadsModules := rfl
  have bounded := project.bounded_of_defaults rfl absolute
  have room : ∀ limit, files.names.card + 1 ≤ limit →
      project.HasRoom (Path.IsFrom path.root) files.names.card limit [] path.normalize :=
    fun limit enough =>
      ⟨.nil, Path.isFrom_normalize (Path.ofText_wellFormed text) absolute, enough⟩
  have limitEnough : files.names.card + 1 ≤ project.limit := by
    have := files.names_card_le
    change _ ≤ 3 * files.files.length + 1
    omega
  have irrelevant : ∀ limit, files.names.card + 1 ≤ limit →
      (project.processWith limit path).runFrom { cache } = run := fun limit enough =>
    processWith_limit_irrelevant modules bounded limit project.limit path { cache }
      (room limit enough) (room _ limitEnough)
  obtain ⟨trace, passes⟩ := processWith_passes modules (bound_discipline bounded) project.limit path
    { cache } (room _ limitEnough)
  refine ⟨fun moment here => ?_, fun met => ?_, irrelevant, ?_, fun reported source => ?_⟩
  · exact passes.stackFrom_from_start (Nat.zero_le _) (fun _ _ short => short) here
  · obtain ⟨later, earlier, split⟩ := List.append_of_mem met
    exact passes.allowed_from_start ⟨later, split.symm⟩
  · exact (irrelevant (project.limit + 1) (by omega)).symm
  · exact Engine.modules_asks _ reported source

/-- A file that imports itself is never on the stack with another, and nests two deep at most. -/
theorem process_ends_on_self_import :
    let files : FileTree := { files := [(["a.js".toList], .text "export * from './a'".toList)] }
    let project := (ofModules {} files (Path.ofText ['/']) 0).withReuse true
    let path := Path.ofText "/a.js".toList
    let run := (project.process path).runFrom {}
    path.root ≠ .current ∧ files.names.card = 1 ∧
      (∀ moment, moment <:+ run.2.events → (stackFrom [] moment).length ≤ 1) ∧
      .raised (.uncaught .tooDeep) ∉ run.2.events ∧
      (project.processWith 2 path).runFrom {} = run := by
  intro files project path run
  have absolute : path.root ≠ .current := by decide
  have single : files.names.card = 1 := by decide
  obtain ⟨short, unmet, same, -⟩ :=
    process_ends files (Path.ofText ['/']) 0 true "/a.js".toList absolute []
  rw [single] at short same
  exact ⟨absolute, single, short, unmet, same 2 (le_refl 2)⟩

end Project

end ExportDocs
