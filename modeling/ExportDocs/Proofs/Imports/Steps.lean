/-
# ExportDocs.Proofs.Imports.Steps -- what each step of a walk does

One equation for each step: the outcome of the step from a state, and the state after it.  The
steps of an import walk are then read off these equations and never unfolded again.

`Walk.noted` adds events and leaves stack and cache alone; `Walk.restack` replaces the stack and
records it.  These two, and the entry of a result into the cache, are all that ever happens to a
walk.
-/
import ExportDocs.Imports.Walk

namespace ExportDocs

set_option autoImplicit false

/-! ## States -/

namespace Walk

/-- The walk after more events, last first. -/
def noted (walk : Walk) (events : List Event) : Walk :=
  { walk with events := events ++ walk.events }

/-- The walk after a change of the stack. -/
def restack (walk : Walk) (stack : Stack) : Walk :=
  { walk with stack, events := .stacked stack :: walk.events }

@[simp] theorem noted_stack (walk : Walk) (events : List Event) :
    (walk.noted events).stack = walk.stack := rfl

@[simp] theorem noted_cache (walk : Walk) (events : List Event) :
    (walk.noted events).cache = walk.cache := rfl

@[simp] theorem noted_events (walk : Walk) (events : List Event) :
    (walk.noted events).events = events ++ walk.events := rfl

@[simp] theorem noted_nil (walk : Walk) : walk.noted [] = walk := rfl

@[simp] theorem noted_noted (walk : Walk) (events later : List Event) :
    (walk.noted events).noted later = walk.noted (later ++ events) := by
  simp [noted]

@[simp] theorem restack_stack (walk : Walk) (stack : Stack) :
    (walk.restack stack).stack = stack := rfl

@[simp] theorem restack_cache (walk : Walk) (stack : Stack) :
    (walk.restack stack).cache = walk.cache := rfl

@[simp] theorem restack_events (walk : Walk) (stack : Stack) :
    (walk.restack stack).events = .stacked stack :: walk.events := rfl

end Walk

/-! ## The monad of steps -/

namespace WalkM

variable {α β : Type}

@[simp] theorem runFrom_pure (a : α) (walk : Walk) :
    (pure a : WalkM α).runFrom walk = (.ok a, walk) := rfl

@[simp] theorem runFrom_throw (error : Error) (walk : Walk) :
    (throw error : WalkM α).runFrom walk = (.error error, walk) := rfl

@[simp] theorem runFrom_get (walk : Walk) :
    (get : WalkM Walk).runFrom walk = (.ok walk, walk) := rfl

@[simp] theorem runFrom_modify (f : Walk → Walk) (walk : Walk) :
    (modify f : WalkM Unit).runFrom walk = (.ok (), f walk) := rfl

@[simp] theorem runFrom_lift (step : WalkM α) (walk : Walk) :
    runFrom (ExceptT.lift step.run) walk =
      (.ok (step.runFrom walk).1, (step.runFrom walk).2) := rfl

@[simp] theorem runFrom_mk (outcome : Except Error α) (walk : Walk) :
    runFrom (ExceptT.mk (pure outcome)) walk = (outcome, walk) := rfl

theorem runFrom_bind (step : WalkM α) (next : α → WalkM β) (walk : Walk) :
    (step >>= next).runFrom walk =
      match step.runFrom walk with
      | (.ok a, after) => (next a).runFrom after
      | (.error error, after) => (.error error, after) := by
  change (match step walk with
    | (outcome, after) => (ExceptT.bindCont next outcome) after) = _
  unfold runFrom
  change _ = match step walk with
    | (.ok a, after) => (next a).run.run after
    | (.error error, after) => (.error error, after)
  rcases step walk with ⟨outcome, after⟩
  cases outcome <;> rfl

theorem runFrom_bind_ok {step : WalkM α} {walk after : Walk} {a : α}
    (ran : step.runFrom walk = (.ok a, after)) (next : α → WalkM β) :
    (step >>= next).runFrom walk = (next a).runFrom after := by
  rw [runFrom_bind, ran]

@[simp] theorem runFrom_map (f : α → β) (step : WalkM α) (walk : Walk) :
    (f <$> step).runFrom walk = ((step.runFrom walk).1.map f, (step.runFrom walk).2) := by
  rw [map_eq_pure_bind, runFrom_bind]
  rcases step.runFrom walk with ⟨_ | _, after⟩ <;> rfl

@[simp] theorem runFrom_note (event : Event) (walk : Walk) :
    (note event).runFrom walk = (.ok (), walk.noted [event]) := rfl

@[simp] theorem runFrom_raise (error : Error) (walk : Walk) :
    (raise error : WalkM α).runFrom walk = (.error error, walk.noted [.raised error]) := rfl

@[simp] theorem runFrom_setStack (stack : Stack) (walk : Walk) :
    (setStack stack).runFrom walk = (.ok (), walk.restack stack) := rfl

theorem exists_run_of_isOk {run : Except Error α × Walk} (ok : run.1.isOk) :
    ∃ a walk, run = (.ok a, walk) := by
  obtain ⟨_ | a, walk⟩ := run
  · cases ok
  · exact ⟨a, walk, rfl⟩

theorem runFrom_forM_note (event : Path → Event) (paths : List Path) (walk : Walk) :
    (paths.forM fun path => note (event path)).runFrom walk =
      (.ok (), walk.noted (paths.map event).reverse) := by
  induction paths generalizing walk with
  | nil => rfl
  | cons path rest ih =>
      change (note (event path) >>= fun _ =>
        rest.forM fun path => note (event path)).runFrom walk = _
      rw [runFrom_bind_ok (runFrom_note _ _), ih]
      simp

/-- A file is refused if it is on the stack; otherwise it is there while the step runs. -/
theorem runFrom_within (path : Path) (step : WalkM α) (walk : Walk) :
    (within path step).runFrom walk =
      if path ∈ walk.stack then
        (.error (.importCycle path walk.stack.reverse),
          walk.noted [.raised (.importCycle path walk.stack.reverse)])
      else
        let run := step.runFrom (walk.restack (path :: walk.stack))
        (run.1, run.2.restack run.2.stack.leave) := by
  unfold within
  rw [runFrom_bind_ok (runFrom_get walk)]
  by_cases refused : path ∈ walk.stack
  · simp [Stack.enter, refused, ofExcept, runFrom_bind]
  · simp [Stack.enter, refused, ofExcept, runFrom_bind]

end WalkM

/-! ## The steps of a project -/

namespace Project

variable (project : Project)

/-- What is recorded of a message. -/
def logEvents (level : Level) (message : Text) : List Event :=
  if level.isShown project.verbosity then [.logged { level, message }] else []

@[simp] theorem mem_logEvents {level : Level} {message : Text} {event : Event} :
    event ∈ project.logEvents level message ↔
      level.isShown project.verbosity ∧ event = .logged { level, message } := by
  unfold logEvents
  split <;> simp_all

theorem filterMap_logEvents {α : Type} {f : Event → Option α}
    (aside : ∀ entry, f (.logged entry) = none)
    (level : Level) (message : Text) : (project.logEvents level message).filterMap f = [] := by
  unfold logEvents
  split <;> simp [aside]

@[simp] theorem runFrom_log (level : Level) (message : Text) (walk : Walk) :
    (project.log level message).runFrom walk =
      (.ok (), walk.noted (project.logEvents level message)) := by
  unfold log logEvents
  split <;> rfl

/-- The failure to read a file. -/
def readError (path : Path) : FileFault → Error
  | .nullCharacter => .uncaught (.file .nullCharacter)
  | fault => .unreadableFile path (.file fault)

theorem runFrom_readSource (path : Path) (walk : Walk) :
    (project.readSource path).runFrom walk =
      match project.files.read path with
      | .ok source => (.ok source, walk.noted [.read path])
      | .error fault =>
        (.error (readError path fault),
          walk.noted [.raised (readError path fault), .unread path]) := by
  unfold readSource
  cases project.files.read path with
  | ok source => rfl
  | error fault => cases fault <;> rfl

/-- What is recorded about a search: the paths that were probed, and how it ended. -/
def searchEvents (base : Path) (specifier : Text) : List Event :=
  let search := project.lookup base specifier
  (match search.found with
    | none => [.raised (.unresolvedImport base specifier)]
    | some path =>
      if search.probed.isEmpty then []
      else project.logEvents .trace
        ("Resolved ".toList ++ specifier ++ " -> ".toList ++ path.toText)) ++
    (search.probed.map Event.probed).reverse

theorem runFrom_resolveImport {walk : Walk} {base : Path} {outer : Stack}
    (top : walk.stack = base :: outer) (specifier : Text) :
    (project.resolveImport specifier).runFrom walk =
      ((project.lookup base specifier).found.elim (.error (.unresolvedImport base specifier)) .ok,
        walk.noted (project.searchEvents base specifier)) := by
  unfold resolveImport
  rw [WalkM.runFrom_bind_ok (WalkM.runFrom_get walk), top]
  simp only [Stack.top, WalkM.ofExcept, pure_bind]
  rw [WalkM.runFrom_bind_ok (WalkM.runFrom_forM_note _ _ _)]
  simp only [searchEvents]
  cases (project.lookup base specifier).found with
  | none => simp
  | some path =>
      by_cases direct : (project.lookup base specifier).probed.isEmpty <;> simp [direct, Except.map]

/-- A package contributes nothing, and nothing happens. -/
theorem runFrom_importSymbols_package {specifier : Text}
    (package : project.settings.isLocal specifier = false) (process : Path → WalkM FileResult)
    (walk : Walk) : (project.importSymbols process specifier).runFrom walk = (.ok [], walk) := by
  simp [importSymbols, package]

/-- Without a file being processed there is nothing to resolve against. -/
theorem runFrom_importSymbols_empty {project : Project} {specifier : Text} {walk : Walk}
    (isLocal : project.settings.isLocal specifier) (empty : walk.stack = [])
    (process : Path → WalkM FileResult) :
    (project.importSymbols process specifier).runFrom walk =
      (.error (.uncaught .emptyStack), walk.noted [.raised (.uncaught .emptyStack)]) := by
  unfold importSymbols resolveImport
  rw [if_pos isLocal]
  simp [WalkM.runFrom_bind, empty, Stack.top, WalkM.ofExcept]

theorem runFrom_importSymbols_unresolved {project : Project} {specifier : Text} {walk : Walk}
    {base : Path} {outer : Stack} (isLocal : project.settings.isLocal specifier)
    (top : walk.stack = base :: outer) (missing : (project.lookup base specifier).found = none)
    (process : Path → WalkM FileResult) :
    (project.importSymbols process specifier).runFrom walk =
      (.error (.unresolvedImport base specifier),
        walk.noted (project.searchEvents base specifier)) := by
  unfold importSymbols
  rw [if_pos isLocal, WalkM.runFrom_bind, project.runFrom_resolveImport top]
  simp only [missing, Option.elim_none]

/-- A module of the project is resolved against the file on top of the stack and processed. -/
theorem runFrom_importSymbols_found {project : Project} {specifier : Text} {walk : Walk}
    {base path : Path} {outer : Stack} (isLocal : project.settings.isLocal specifier)
    (top : walk.stack = base :: outer) (found : (project.lookup base specifier).found = some path)
    (process : Path → WalkM FileResult) :
    (project.importSymbols process specifier).runFrom walk =
      let run := (process path).runFrom (walk.noted (project.searchEvents base specifier))
      (run.1.map FileResult.symbols, run.2) := by
  unfold importSymbols
  rw [if_pos isLocal, WalkM.runFrom_bind, project.runFrom_resolveImport top]
  simp only [found, Option.elim_some, bind_pure_comp, WalkM.runFrom_map]

/-- The failure or the extraction that the work of the engine on a file comes to. -/
def verdict (path : Path) : Except Error (Except Cause Extraction) → Except Error Extraction
  | .ok (.ok extraction) => .ok extraction
  | .ok (.error cause) => .error (.failedExtraction path cause)
  | .error (.uncaught cause) => .error (.failedExtraction path cause)
  | .error error => .error error

/-- What is recorded about the work of the engine on a file. -/
def verdictEvents (path : Path) : Except Error (Except Cause Extraction) → List Event
  | .ok (.ok extraction) =>
    if project.engine.counts then
      project.logEvents .trace (project.relative path ++ ": ".toList ++
        Text.ofNat extraction.symbols.length ++ " exported symbols".toList)
    else []
  | .ok (.error cause) => [.raised (.failedExtraction path cause)]
  | .error (.uncaught cause) => [.raised (.failedExtraction path cause)]
  | .error _ => []

theorem runFrom_conclude (path : Path) (outcome : Except Error (Except Cause Extraction))
    (walk : Walk) :
    (project.conclude path outcome).runFrom walk =
      (verdict path outcome, walk.noted (project.verdictEvents path outcome)) := by
  rcases outcome with error | (cause | extraction)
  · cases error <;> rfl
  · rfl
  · simp only [conclude, verdict, verdictEvents]
    split <;> simp [Except.map]

/-- What is recorded before a file is handed to the engine. -/
def handing (path : Path) (stack : Stack) : List Event :=
  .handed path (project.relative path) ::
    project.logEvents .debug (List.replicate (2 * (stack.length - 1)) ' ' ++
      "Processing ".toList ++ project.relative path)

theorem runFrom_extractFile (resolve : Text → WalkM (List Symbol)) (path : Path) (source : Text)
    (walk : Walk) :
    (project.extractFile resolve path source).runFrom walk =
      let run := (project.engine.run (project.relative path) source resolve).runFrom
        (walk.noted (project.handing path walk.stack))
      (verdict path run.1, run.2.noted (project.verdictEvents path run.1)) := by
  unfold extractFile
  rw [WalkM.runFrom_bind_ok (WalkM.runFrom_get walk),
    WalkM.runFrom_bind_ok (runFrom_log ..), WalkM.runFrom_bind_ok (WalkM.runFrom_note ..),
    WalkM.runFrom_bind_ok (WalkM.runFrom_lift ..), runFrom_conclude, Walk.noted_noted]
  rfl

/-- The walk after a result was kept, if results are reused. -/
def keeping (walk : Walk) (result : FileResult) : Walk :=
  if project.reuse then { walk with cache := (result.path, result) :: walk.cache } else walk

@[simp] theorem keeping_stack (walk : Walk) (result : FileResult) :
    (project.keeping walk result).stack = walk.stack := by
  unfold keeping
  split <;> rfl

@[simp] theorem keeping_events (walk : Walk) (result : FileResult) :
    (project.keeping walk result).events = walk.events := by
  unfold keeping
  split <;> rfl

theorem runFrom_keep (result : FileResult) (walk : Walk) :
    (project.keep result).runFrom walk = (.ok result, project.keeping walk result) := by
  unfold keep keeping
  split <;> simp [Except.map]

/-- The result of a file that was extracted. -/
def resultOf (path : Path) (extraction : Extraction) : FileResult :=
  { path, symbols := extraction.symbols, tokens := extraction.tokens
    statements := extraction.statements }

section ProcessNormal

variable {project} {walk : Walk} {path : Path} (resolve : Text → WalkM (List Symbol))

theorem runFrom_processNormal_kept {result : FileResult}
    (hit : project.kept walk path = some result) :
    (project.processNormal resolve path).runFrom walk =
      (.ok result, walk.noted
        (project.logEvents .debug ("Reusing ".toList ++ path.toText))) := by
  unfold processNormal
  rw [WalkM.runFrom_bind_ok (WalkM.runFrom_get walk), hit]
  simp [Except.map]

theorem runFrom_processNormal_unread {fault : FileFault} (miss : project.kept walk path = none)
    (unread : project.files.read path = .error fault) :
    (project.processNormal resolve path).runFrom walk =
      (.error (readError path fault),
        walk.noted [.raised (readError path fault), .unread path]) := by
  unfold processNormal
  rw [WalkM.runFrom_bind_ok (WalkM.runFrom_get walk), miss]
  simp only
  rw [WalkM.runFrom_bind, runFrom_readSource, unread]

theorem runFrom_processNormal_refused {source : Text} (miss : project.kept walk path = none)
    (read : project.files.read path = .ok source) (inFlight : path ∈ walk.stack) :
    (project.processNormal resolve path).runFrom walk =
      (.error (.importCycle path walk.stack.reverse),
        walk.noted [.raised (.importCycle path walk.stack.reverse), .read path]) := by
  unfold processNormal
  rw [WalkM.runFrom_bind_ok (WalkM.runFrom_get walk), miss]
  simp only
  rw [WalkM.runFrom_bind, runFrom_readSource, read]
  simp [WalkM.runFrom_bind, WalkM.runFrom_within, inFlight]

/-- A file that is entered is handed to the engine with itself on top of the stack; afterwards the
top of the stack is dropped, and a result is kept. -/
theorem runFrom_processNormal_fresh {source : Text} (miss : project.kept walk path = none)
    (read : project.files.read path = .ok source) (fresh : path ∉ walk.stack) :
    (project.processNormal resolve path).runFrom walk =
      let run := (project.extractFile resolve path source).runFrom
        ((walk.noted [.read path]).restack (path :: walk.stack))
      match run.1 with
      | .ok extraction => (.ok (resultOf path extraction),
          project.keeping (run.2.restack run.2.stack.leave) (resultOf path extraction))
      | .error error => (.error error, run.2.restack run.2.stack.leave) := by
  unfold processNormal
  rw [WalkM.runFrom_bind_ok (WalkM.runFrom_get walk), miss]
  simp only
  rw [WalkM.runFrom_bind, runFrom_readSource, read]
  simp only [WalkM.runFrom_bind, WalkM.runFrom_within, Walk.noted_stack, fresh, if_false]
  generalize (project.extractFile resolve path source).runFrom _ = run
  rcases run with ⟨_ | extraction, after⟩
  · rfl
  · exact project.runFrom_keep _ _

/-- If the engine leaves the stack as it found it, the stack is again what it was before. -/
theorem runFrom_processNormal_entered {source : Text} (miss : project.kept walk path = none)
    (read : project.files.read path = .ok source) (fresh : path ∉ walk.stack)
    (back : ((project.extractFile resolve path source).runFrom
      ((walk.noted [.read path]).restack (path :: walk.stack))).2.stack = path :: walk.stack) :
    (project.processNormal resolve path).runFrom walk =
      let run := (project.extractFile resolve path source).runFrom
        ((walk.noted [.read path]).restack (path :: walk.stack))
      match run.1 with
      | .ok extraction => (.ok (resultOf path extraction),
          project.keeping (run.2.restack walk.stack) (resultOf path extraction))
      | .error error => (.error error, run.2.restack walk.stack) := by
  rw [runFrom_processNormal_fresh resolve miss read fresh]
  simp only [back]
  rfl

end ProcessNormal

end Project

end ExportDocs
