/-
# ExportDocs.Proofs.Imports.Course -- the course of a walk

A walk is a tree of calls: a file is processed, which asks for its specifiers one after another,
each of which has a file processed.  `Course` is that tree as a relation between the state before a
call and the state after it, with one rule for each way in which a call can go on or end, and with
whether it succeeds.  Every call takes its course (`processWith_takes`), so what holds of all
courses is shown by one induction over the rules, whatever it says about cache, stack and events.

The first such fact is `Course.records`: a call leaves the stack as it found it, only puts more onto
it in between, and records a failure if and only if it ends with one.
-/
import ExportDocs.Proofs.Imports.Discipline

namespace ExportDocs.Project

set_option autoImplicit false

/-! ## Courses -/

/-- What a call is for: to process a file, by the normal form of its path, or to answer the
specifiers that the file on top of the stack asks for. -/
inductive Errand where
  | process (file : Path)
  | ask (file : Path) (specifiers : List Text)

/-- The walk when the engine begins its work on a file. -/
def entering (project : Project) (walk : Walk) (file : Path) : Walk :=
  ((walk.noted [.read file]).restack (file :: walk.stack)).noted
    (project.handing file (file :: walk.stack))

/-- A call leads from one state to another, and succeeds or not. -/
inductive Course (project : Project) : Errand → Walk → Bool → Walk → Prop
  | tooDeep {file : Path} {walk : Walk} :
      Course project (.process file) walk false (walk.noted [.raised (.uncaught .tooDeep)])
  | reused {file : Path} {walk : Walk} {level : Level} {message : Text}
      (held : (project.kept walk file).isSome) :
      Course project (.process file) walk true (walk.noted (project.logEvents level message))
  | unread {file : Path} {walk : Walk} {error : Error} (miss : project.kept walk file = none) :
      Course project (.process file) walk false (walk.noted [.raised error, .unread file])
  | refused {file : Path} {walk : Walk} {error : Error} (miss : project.kept walk file = none)
      (inFlight : file ∈ walk.stack) :
      Course project (.process file) walk false (walk.noted [.raised error, .read file])
  | failed {file : Path} {walk after : Walk} {outcome : Except Error (Except Cause Extraction)}
      {error : Error} (miss : project.kept walk file = none) (fresh : file ∉ walk.stack)
      (asks : Course project (.ask file (project.requests file)) (project.entering walk file)
        outcome.isOk after)
      (ended : verdict file outcome = .error error) :
      Course project (.process file) walk false
        ((after.noted (project.verdictEvents file outcome)).restack walk.stack)
  | finished {file : Path} {walk after : Walk} {outcome : Except Error (Except Cause Extraction)}
      {extraction : Extraction} (miss : project.kept walk file = none) (fresh : file ∉ walk.stack)
      (asks : Course project (.ask file (project.requests file)) (project.entering walk file)
        outcome.isOk after)
      (ended : verdict file outcome = .ok extraction) :
      Course project (.process file) walk true
        (project.keeping ((after.noted (project.verdictEvents file outcome)).restack walk.stack)
          (resultOf file extraction))
  | answeredAll {file : Path} {walk : Walk} : Course project (.ask file []) walk true walk
  | package {file : Path} {specifier : Text} {specifiers : List Text} {walk after : Walk}
      {ok : Bool} (rest : Course project (.ask file specifiers) walk ok after) :
      Course project (.ask file (specifier :: specifiers)) walk ok after
  | unresolved {file : Path} {specifier : Text} {specifiers : List Text} {walk : Walk}
      (missing : (project.lookup file specifier).found = none) :
      Course project (.ask file (specifier :: specifiers)) walk false
        (walk.noted (project.searchEvents file specifier))
  | unanswered {file path : Path} {specifier : Text} {specifiers : List Text} {walk after : Walk}
      (isLocal : project.settings.isLocal specifier)
      (found : (project.lookup file specifier).found = some path)
      (first : Course project (.process path.normalize)
        (walk.noted (project.searchEvents file specifier)) false after) :
      Course project (.ask file (specifier :: specifiers)) walk false after
  | answered {file path : Path} {specifier : Text} {specifiers : List Text}
      {walk middle after : Walk} {ok : Bool} (isLocal : project.settings.isLocal specifier)
      (found : (project.lookup file specifier).found = some path)
      (first : Course project (.process path.normalize)
        (walk.noted (project.searchEvents file specifier)) true middle)
      (rest : Course project (.ask file specifiers) middle ok after) :
      Course project (.ask file (specifier :: specifiers)) walk ok after

variable {project : Project} {errand : Errand} {before after walk : Walk} {ok : Bool}

theorem Course.stack_eq (course : project.Course errand before ok after) :
    after.stack = before.stack := by
  induction course with
  | package _ ih => exact ih
  | unanswered _ _ _ ih => exact ih
  | answered _ _ _ _ ihFirst ihRest => exact ihRest.trans ihFirst
  | finished => simp
  | _ => rfl

/-! ## Every call takes its course -/

/-- A run is a course of the errand. -/
def TakesCourse {α : Type} (project : Project) (errand : Errand) (walk : Walk)
    (run : Except Error α × Walk) : Prop :=
  project.Course errand walk run.1.isOk run.2

theorem isOk_map {α β : Type} (f : α → β) (outcome : Except Error α) :
    (outcome.map f).isOk = outcome.isOk := by
  cases outcome <;> rfl

theorem mapM_importSymbols_takes {process : Path → WalkM FileResult} {file : Path} {outer : Stack}
    (processes : ∀ path (walk : Walk),
      project.TakesCourse (.process path.normalize) walk ((process path).runFrom walk))
    (specifiers : List Text) : ∀ walk : Walk, walk.stack = file :: outer →
      project.TakesCourse (.ask file specifiers) walk
        ((specifiers.mapM (project.importSymbols process)).runFrom walk) := by
  induction specifiers with
  | nil => exact fun walk _ => .answeredAll
  | cons specifier specifiers ih =>
      intro walk top
      have mapped : ∀ {walk' : Walk} (f : List (List Symbol) → List (List Symbol)),
          walk'.stack = file :: outer → project.TakesCourse (.ask file specifiers) walk'
            ((f <$> specifiers.mapM (project.importSymbols process)).runFrom walk') := by
        intro walk' f top'
        rw [TakesCourse, WalkM.runFrom_map, isOk_map]
        exact ih walk' top'
      rw [List.mapM_cons, WalkM.runFrom_bind]
      by_cases isLocal : project.settings.isLocal specifier
      · cases found : (project.lookup file specifier).found with
        | none =>
            rw [runFrom_importSymbols_unresolved isLocal top found]
            exact .unresolved found
        | some path =>
            rw [runFrom_importSymbols_found isLocal top found]
            have first := processes path (walk.noted (project.searchEvents file specifier))
            generalize (process path).runFrom (walk.noted (project.searchEvents file specifier)) =
              run at first
            obtain ⟨error | result, middle⟩ := run
            · exact .unanswered isLocal found first
            · simp only [Except.map, bind_pure_comp]
              exact .answered isLocal found first (mapped _ (first.stack_eq.trans top))
      · rw [runFrom_importSymbols_package _ (by simpa using isLocal)]
        simp only [bind_pure_comp]
        exact .package (mapped _ top)

/-- A file that is entered takes its course if the requests of its engine do. -/
theorem processNormal_takes_entered {resolve : Text → WalkM (List Symbol)} {file : Path}
    {source : Text} (modules : project.ReadsModules) (miss : project.kept walk file = none)
    (read : project.files.read file = .ok source) (fresh : file ∉ walk.stack)
    (asks : project.TakesCourse (.ask file (project.requests file)) (project.entering walk file)
      (((project.requests file).mapM resolve).runFrom (project.entering walk file))) :
    project.TakesCourse (.process file) walk
      ((project.processNormal resolve file).runFrom walk) := by
  obtain ⟨compose, factors⟩ := modules.asks (project.relative file) source
  generalize ran : ((project.requests file).mapM resolve).runFrom (project.entering walk file) =
    run at asks
  have extracts : (project.extractFile resolve file source).runFrom
      ((walk.noted [.read file]).restack (file :: walk.stack)) =
        (verdict file (run.1.map compose),
          run.2.noted (project.verdictEvents file (run.1.map compose))) := by
    rw [runFrom_extractFile, factors WalkM, ← requests_of_read read, WalkM.runFrom_map, ← ran]
    rfl
  rw [TakesCourse, ← isOk_map compose] at asks
  have back : run.2.stack = file :: walk.stack := asks.stack_eq
  rw [runFrom_processNormal_entered _ miss read fresh (by rw [extracts]; exact back), extracts]
  cases ended : verdict file (run.1.map compose) with
  | error error => exact .failed miss fresh asks ended
  | ok extraction => exact .finished miss fresh asks ended

/-- **Every call takes its course.** -/
theorem processWith_takes (modules : project.ReadsModules) (limit : Nat) :
    ∀ (path : Path) (walk : Walk), project.TakesCourse (.process path.normalize) walk
      ((project.processWith limit path).runFrom walk) := by
  induction limit with
  | zero => exact fun path walk => .tooDeep
  | succ limit ih =>
      intro path walk
      rw [processWith]
      generalize path.normalize = file
      cases kept : project.kept walk file with
      | some result =>
          rw [runFrom_processNormal_kept _ kept]
          exact .reused (by simp [kept])
      | none =>
          cases read : project.files.read file with
          | error fault =>
              rw [runFrom_processNormal_unread _ kept read]
              exact .unread kept
          | ok source =>
              by_cases inFlight : file ∈ walk.stack
              · rw [runFrom_processNormal_refused _ kept read inFlight]
                exact .refused kept inFlight
              · exact processNormal_takes_entered modules kept read inFlight
                  (mapM_importSymbols_takes ih _ _ rfl)

/-! ## What a course records -/

/-- A course that recorded `trace` left the stack as it found it, had the stack extend it at every
change, and raised a failure if and only if it failed. -/
structure Records (before : Walk) (ok : Bool) (after : Walk) (trace : Trace) : Prop where
  stack : after.stack = before.stack
  events : after.events = trace ++ before.events
  above : ∀ stack, .stacked stack ∈ trace → before.stack <:+ stack
  raises : (∃ error, .raised error ∈ trace) ↔ ok = false

namespace Records

variable {trace later : Trace}

theorem of_noted (steady : ∀ stack, .stacked stack ∉ trace)
    (raises : (∃ error, .raised error ∈ trace) ↔ ok = false) :
    Records walk ok (walk.noted trace) trace :=
  ⟨rfl, rfl, fun stack member => absurd member (steady stack), raises⟩

theorem trans {middle : Walk} (first : Records before true middle trace)
    (second : Records middle ok after later) : Records before ok after (later ++ trace) := by
  refine ⟨second.stack.trans first.stack, ?_, fun stack member => ?_, ?_⟩
  · rw [second.events, first.events, List.append_assoc]
  · rcases List.mem_append.1 member with inLater | inTrace
    · exact first.stack ▸ second.above stack inLater
    · exact first.above stack inTrace
  · have silent : ¬ ∃ error, .raised error ∈ trace := by simp [first.raises]
    simp only [List.mem_append, exists_or, silent, or_false]
    exact second.raises

end Records

theorem searchEvents_steady (file : Path) (specifier : Text) (stack : Stack) :
    .stacked stack ∉ project.searchEvents file specifier :=
  fun member => by simpa [Event.isQuiet] using searchEvents_quiet file specifier _ member

theorem searchEvents_raises (file : Path) (specifier : Text) :
    (∃ error, .raised error ∈ project.searchEvents file specifier) ↔
      (project.lookup file specifier).found = none := by
  simp only [searchEvents, List.mem_append, List.mem_reverse, List.mem_map]
  cases (project.lookup file specifier).found with
  | none => simp
  | some path => cases (project.lookup file specifier).probed.isEmpty <;> simp

theorem Records.searched {file path : Path} {specifier : Text}
    (found : (project.lookup file specifier).found = some path) :
    Records walk true (walk.noted (project.searchEvents file specifier))
      (project.searchEvents file specifier) :=
  .of_noted (searchEvents_steady file specifier) (by simp [searchEvents_raises, found])

theorem verdictEvents_steady (project : Project) (file : Path)
    (outcome : Except Error (Except Cause Extraction)) (stack : Stack) :
    .stacked stack ∉ project.verdictEvents file outcome := by
  rcases outcome with error | (cause | extraction)
  · cases error <;> simp [verdictEvents]
  · simp [verdictEvents]
  · simp only [verdictEvents]
    split <;> simp

/-- A file fails if the engine fails with what another file raised, or if its own failure is
raised. -/
theorem verdict_fails_iff (project : Project) (file : Path)
    (outcome : Except Error (Except Cause Extraction)) :
    (verdict file outcome).isOk = false ↔
      outcome.isOk = false ∨ ∃ error, .raised error ∈ project.verdictEvents file outcome := by
  rcases outcome with error | (cause | extraction)
  · cases error <;> simp [verdict, Except.isOk, Except.toBool]
  · simp [verdict, verdictEvents, Except.isOk, Except.toBool]
  · simp only [verdict, verdictEvents]
    split <;> simp [Except.isOk, Except.toBool]

/-- What happened since a file was entered, once the engine is done with it: the file stayed on the
stack, and a failure was raised if and only if the file fails. -/
theorem Records.exists_inside {file : Path} {outcome : Except Error (Except Cause Extraction)}
    {trace : Trace} (asked : Records (project.entering walk file) outcome.isOk after trace) :
    ∃ inside : Trace, (after.noted (project.verdictEvents file outcome)).events =
        inside ++ .stacked (file :: walk.stack) :: .read file :: walk.events ∧
      (∀ stack, .stacked stack ∈ inside → file :: walk.stack <:+ stack) ∧
      ((∃ error, .raised error ∈ inside) ↔ (verdict file outcome).isOk = false) := by
  refine ⟨project.verdictEvents file outcome ++ trace ++ project.handing file (file :: walk.stack),
    by simp [asked.events, entering], fun stack member => ?_, ?_⟩
  · have steady := project.verdictEvents_steady file outcome stack
    simp only [List.mem_append, steady, false_or, handing] at member
    exact asked.above stack (by simpa using member)
  · rw [project.verdict_fails_iff, ← asked.raises]
    simp [handing, exists_or, or_comm]

/-- A file is entered, worked on and left again. -/
theorem Records.entered {file : Path} {outcome : Except Error (Except Cause Extraction)}
    {trace : Trace} (asked : Records (project.entering walk file) outcome.isOk after trace) :
    ∃ trace, Records walk (verdict file outcome).isOk
      ((after.noted (project.verdictEvents file outcome)).restack walk.stack) trace := by
  obtain ⟨inside, events, above, raises⟩ := asked.exists_inside
  refine ⟨.stacked walk.stack :: (inside ++ [.stacked (file :: walk.stack), .read file]), rfl, ?_,
    fun stack member => ?_, ?_⟩
  · rw [Walk.restack_events, events]
    simp
  · simp only [List.mem_cons, List.mem_append, Event.stacked.injEq, reduceCtorEq, List.not_mem_nil,
      or_false] at member
    rcases member with rfl | inInside | rfl
    · exact List.suffix_rfl
    · exact (List.suffix_cons file _).trans (above stack inInside)
    · exact List.suffix_cons file _
  · simpa using raises

/-- **A course leaves the stack as it found it and raises a failure exactly if it fails.** -/
theorem Course.records (course : project.Course errand before ok after) :
    ∃ trace, Records before ok after trace := by
  induction course with
  | tooDeep => exact ⟨_, .of_noted (by simp) (by simp)⟩
  | reused => exact ⟨_, .of_noted (by simp) (by simp)⟩
  | unread => exact ⟨_, .of_noted (by simp) (by simp)⟩
  | refused => exact ⟨_, .of_noted (by simp) (by simp)⟩
  | failed _ _ _ ended ih =>
      obtain ⟨trace, asked⟩ := ih
      have entered := asked.entered
      rw [ended] at entered
      exact entered
  | finished _ _ _ ended ih =>
      obtain ⟨trace, asked⟩ := ih
      obtain ⟨whole, entered⟩ := asked.entered
      rw [ended] at entered
      exact ⟨whole, by simp, by simpa using entered.events, entered.above, entered.raises⟩
  | answeredAll => exact ⟨[], rfl, rfl, by simp, by simp⟩
  | package _ ih => exact ih
  | unresolved missing =>
      exact ⟨_, .of_noted (searchEvents_steady _ _) (by simp [searchEvents_raises, missing])⟩
  | unanswered _ found _ ih =>
      obtain ⟨trace, first⟩ := ih
      exact ⟨_, (Records.searched found).trans first⟩
  | answered _ found _ _ ihFirst ihRest =>
      obtain ⟨trace, first⟩ := ihFirst
      obtain ⟨later, rest⟩ := ihRest
      exact ⟨_, ((Records.searched found).trans first).trans rest⟩

end ExportDocs.Project
