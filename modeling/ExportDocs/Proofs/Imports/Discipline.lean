/-
# ExportDocs.Proofs.Imports.Discipline -- one induction for all laws of the walk

A `Discipline` is a law of traces together with a condition under which a file may be processed:
the law allows what processing the file does to the stack, and the condition passes on to every
file that it imports.  `processWith_passes` is the one induction over a walk: whatever the
discipline, processing a file obeys its law, and so does everything that happens inside.
-/
import ExportDocs.Proofs.Imports.Graph
import ExportDocs.Proofs.Imports.Trace

namespace ExportDocs.Project

set_option autoImplicit false

/-- The project reads its files with the engine for modules. -/
def ReadsModules (project : Project) : Prop :=
  project.engine = .modules project.settings.undocumented

theorem ReadsModules.asks {project : Project} (modules : project.ReadsModules)
    (path source : Text) :
    ∃ compose : List (List Symbol) → Except Cause Extraction,
      ∀ (m : Type → Type) [Monad m] [LawfulMonad m] (resolve : Text → m (List Symbol)),
        project.engine.run path source resolve =
          compose <$> (requested path project.settings.undocumented source).mapM resolve := by
  rw [modules]
  exact Engine.modules_asks _ path source

/-- A law of traces, and when a file may be processed at a stack under a limit. -/
structure Discipline (project : Project) (law : Stack → Event → Prop)
    (may : Nat → Stack → Path → Prop) : Prop where
  quiet : ∀ stack event, event.isQuiet → law stack event
  tooDeep : ∀ stack path, may 0 stack path → law stack (.raised (.uncaught .tooDeep))
  cycle : ∀ limit stack path, may (limit + 1) stack path → path ∈ stack →
    law stack (.raised (.importCycle path stack.reverse))
  enters : ∀ limit stack path source, may (limit + 1) stack path →
    project.files.read path = .ok source → path ∉ stack →
    law stack (.stacked (path :: stack)) ∧ law (path :: stack) (.stacked stack)
  imports : ∀ limit stack path target, may (limit + 1) stack path → path ∉ stack →
    project.Imports path target → may limit (path :: stack) target

variable {project : Project} {law : Stack → Event → Prop}

theorem searchEvents_quiet (base : Path) (specifier : Text) :
    ∀ event ∈ project.searchEvents base specifier, event.isQuiet := by
  intro event member
  simp only [searchEvents, List.mem_append, List.mem_reverse, List.mem_map] at member
  rcases member with ending | ⟨path, -, rfl⟩
  · split at ending
    · simp_all [Event.isQuiet]
    · split at ending <;> simp_all [Event.isQuiet]
  · rfl

theorem readError_quiet (path : Path) (fault : FileFault) :
    (Event.raised (readError path fault)).isQuiet := by
  cases fault <;> rfl

/-- Asking for a module obeys the law if processing the file that it names does. -/
theorem importSymbols_passes (quiet : ∀ stack event, event.isQuiet → law stack event)
    {process : Path → WalkM FileResult} {specifier : Text} {walk : Walk}
    (processes : ∀ base outer path, walk.stack = base :: outer →
      project.settings.isLocal specifier → (project.lookup base specifier).found = some path →
      ∀ walk' : Walk, walk'.stack = walk.stack →
        ∃ trace, Passes law walk' trace ((process path).runFrom walk')) :
    ∃ trace, Passes law walk trace ((project.importSymbols process specifier).runFrom walk) := by
  by_cases isLocal : project.settings.isLocal specifier
  · cases top : walk.stack with
    | nil =>
        rw [runFrom_importSymbols_empty isLocal top]
        exact ⟨_, .of_quiet quiet (by simp [Event.isQuiet]) (by simp)⟩
    | cons base outer =>
        cases found : (project.lookup base specifier).found with
        | none =>
            rw [runFrom_importSymbols_unresolved isLocal top found]
            exact ⟨_, .of_quiet quiet (searchEvents_quiet base specifier)
              (by simp [searchEvents, found])⟩
        | some path =>
            rw [runFrom_importSymbols_found isLocal top found]
            have searched : Passes law walk (project.searchEvents base specifier)
                ((.ok () : Except Error Unit), walk.noted (project.searchEvents base specifier)) :=
              .of_quiet quiet (searchEvents_quiet base specifier) (by simp)
            obtain ⟨trace, passes⟩ := processes base outer path top isLocal found
              (walk.noted (project.searchEvents base specifier)) rfl
            exact ⟨_, searched.trans (passes.map _)⟩
  · rw [runFrom_importSymbols_package _ (by simpa using isLocal)]
    exact ⟨[], .of_ok []⟩

/-- What the engine did is reported lawfully; a failure of another file is passed on. -/
theorem conclude_passes (quiet : ∀ stack event, event.isQuiet → law stack event) {walk : Walk}
    {trace : Trace} {run : Except Error (Except Cause Extraction) × Walk}
    (passes : Passes law walk trace run) (path : Path) :
    ∃ trace, Passes law walk trace
      (verdict path run.1, run.2.noted (project.verdictEvents path run.1)) := by
  rcases run with ⟨outcome, after⟩
  have reports : ∀ verdictOutcome : Except Error Extraction,
      (∀ event ∈ project.verdictEvents path outcome, event.isQuiet) →
      (∀ error, verdictOutcome = .error error →
        .raised error ∈ project.verdictEvents path outcome) →
      ∃ trace, Passes law walk trace
        (verdictOutcome, after.noted (project.verdictEvents path outcome)) :=
    fun _ quietEvents raised => ⟨_, passes.trans (.of_quiet quiet quietEvents raised)⟩
  rcases outcome with error | (cause | extraction)
  · cases error with
    | uncaught cause => exact reports _ (by simp [verdictEvents, Event.isQuiet]) (by
        simp [verdict, verdictEvents])
    | _ => exact ⟨trace, passes.of_result (by simp [verdict])⟩
  · exact reports _ (by simp [verdictEvents, Event.isQuiet]) (by simp [verdict, verdictEvents])
  · refine reports _ (fun event member => ?_) (by simp [verdict])
    simp only [verdictEvents] at member
    split at member <;> simp_all [Event.isQuiet]

/-- Every question that a file asks obeys the law while the file is on top of the stack. -/
def AsksLawfully (project : Project) (law : Stack → Event → Prop)
    (resolve : Text → WalkM (List Symbol)) (path : Path) (stack : Stack) : Prop :=
  ∀ specifier ∈ project.requests path, ∀ walk : Walk, walk.stack = stack →
    ∃ trace, Passes law walk trace ((resolve specifier).runFrom walk)

variable {resolve : Text → WalkM (List Symbol)} {path : Path} {source : Text} {walk : Walk}

/-- The engine obeys the law on a file if every question that it asks does. -/
theorem extractFile_passes (modules : project.ReadsModules)
    (quiet : ∀ stack event, event.isQuiet → law stack event)
    (read : project.files.read path = .ok source)
    (asks : project.AsksLawfully law resolve path walk.stack) :
    ∃ trace, Passes law walk trace ((project.extractFile resolve path source).runFrom walk) := by
  obtain ⟨compose, factors⟩ := modules.asks (project.relative path) source
  rw [runFrom_extractFile, factors WalkM resolve, ← requests_of_read read]
  simp only [WalkM.runFrom_map]
  have handing : Passes law walk (project.handing path walk.stack)
      ((.ok () : Except Error Unit), walk.noted (project.handing path walk.stack)) :=
    .of_quiet quiet (by simp [Project.handing, Event.isQuiet]) (by simp)
  obtain ⟨trace, asked⟩ := Passes.mapM _ asks (walk.noted (project.handing path walk.stack)) rfl
  exact conclude_passes quiet (handing.trans (asked.map compose)) path

/-- A file that is entered obeys the law if entering, leaving and every question do. -/
theorem processNormal_passes_entered (modules : project.ReadsModules)
    (quiet : ∀ stack event, event.isQuiet → law stack event)
    (miss : project.kept walk path = none) (read : project.files.read path = .ok source)
    (fresh : path ∉ walk.stack) (enters : law walk.stack (.stacked (path :: walk.stack)))
    (leaves : law (path :: walk.stack) (.stacked walk.stack))
    (asks : project.AsksLawfully law resolve path (path :: walk.stack)) :
    ∃ trace, Passes law walk trace ((project.processNormal resolve path).runFrom walk) := by
  have reads : Passes law walk [.read path]
      ((.ok () : Except Error Unit), walk.noted [.read path]) :=
    .of_quiet quiet (by simp [Event.isQuiet]) (by simp)
  obtain ⟨trace, extracts⟩ : ∃ trace, Passes law _ trace
      ((project.extractFile resolve path source).runFrom
        ((walk.noted [.read path]).restack (path :: walk.stack))) :=
    extractFile_passes modules quiet read asks
  rw [runFrom_processNormal_entered _ miss read fresh extracts.stack]
  rcases ran : (project.extractFile resolve path source).runFrom
    ((walk.noted [.read path]).restack (path :: walk.stack)) with ⟨error | extraction, after⟩
  · rw [ran] at extracts
    exact ⟨_, (reads.trans (extracts.entered enters leaves)).of_result (by simp)⟩
  · rw [ran] at extracts
    have inside := reads.trans (extracts.entered enters leaves)
    exact ⟨_, by simp, by simpa using inside.events, inside.closed,
      inside.lawful, by simp⟩

/-- **Processing a file obeys every discipline of the project.** -/
theorem processWith_passes (modules : project.ReadsModules)
    {may : Nat → Stack → Path → Prop} (discipline : project.Discipline law may) :
    ∀ (limit : Nat) (path : Path) (walk : Walk), may limit walk.stack path.normalize →
      ∃ trace, Passes law walk trace ((project.processWith limit path).runFrom walk)
  | 0, path, walk, may => by
      refine ⟨[.raised (.uncaught .tooDeep)], rfl, rfl, rfl, ⟨trivial, ?_⟩, by
        simp [processWith]⟩
      exact discipline.tooDeep walk.stack _ may
  | limit + 1, path, walk, may => by
      have quiet := discipline.quiet
      rw [processWith]
      cases kept : project.kept walk path.normalize with
      | some result =>
          rw [runFrom_processNormal_kept _ kept]
          exact ⟨_, .of_quiet quiet (by simp [Event.isQuiet]) (by simp)⟩
      | none =>
          cases read : project.files.read path.normalize with
          | error fault =>
              rw [runFrom_processNormal_unread _ kept read]
              exact ⟨_, .of_quiet quiet
                (List.forall_mem_cons.2 ⟨readError_quiet _ _, by simp [Event.isQuiet]⟩) (by simp)⟩
          | ok source =>
              by_cases inFlight : path.normalize ∈ walk.stack
              · rw [runFrom_processNormal_refused _ kept read inFlight]
                have cycle := discipline.cycle limit walk.stack _ may inFlight
                exact ⟨_, rfl, rfl, rfl, ⟨⟨trivial, quiet _ _ rfl⟩, cycle⟩, by simp⟩
              · obtain ⟨enters, leaves⟩ :=
                  discipline.enters limit walk.stack _ source may read inFlight
                refine processNormal_passes_entered modules quiet kept read inFlight enters
                  leaves ?_
                intro specifier asked walk' here
                refine importSymbols_passes quiet
                  fun base outer target top isLocal found walk'' same => ?_
                -- The file is on top while the engine asks, so it is the one that imports.
                obtain ⟨rfl, rfl⟩ := List.cons.inj (top.symm.trans here)
                refine processWith_passes modules discipline limit target walk'' ?_
                rw [same, here]
                exact discipline.imports limit _ _ _ may inFlight (.of_found asked isLocal found)

end ExportDocs.Project
