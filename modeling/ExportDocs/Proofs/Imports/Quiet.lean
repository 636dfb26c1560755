/-
# ExportDocs.Proofs.Imports.Quiet -- walks at two verbosities

A message is recorded only if the verbosity reaches its level, so walks at two verbosities record
different events from the first message on.  They still go the same way: the quieter walk has the
stack and the kept results of the louder one, and of its events those that are no message or a
message that the lower verbosity shows (`Walk.Quieter`).  This is kept by every step, and so by
whole walks (`processWith_quietly`).
-/
import ExportDocs.Proofs.Imports.Discipline
import ExportDocs.Proofs.Run.Lockstep

namespace ExportDocs

set_option autoImplicit false

/-! ## Messages -/

namespace Level

theorem isShown_iff {verbosity : Nat} {level : Level} :
    level.isShown verbosity = true ↔ level.number ≤ verbosity := by
  simp [isShown]

/-- What a lower verbosity shows, a higher one shows too. -/
theorem isShown_mono {few many : Nat} (fewer : few ≤ many) {level : Level}
    (shown : level.isShown few = true) : level.isShown many = true :=
  isShown_iff.2 (Nat.le_trans (isShown_iff.1 shown) fewer)

end Level

/-- The messages that a verbosity shows: those up to its level. -/
def shown (verbosity : Nat) (log : List LogEntry) : List LogEntry :=
  log.filter fun entry => entry.level.number ≤ verbosity

/-! ## Walks -/

/-- Whether an event stays if only some messages are shown. -/
def Event.staysAt (verbosity : Nat) : Event → Bool
  | .logged entry => entry.level.number ≤ verbosity
  | _ => true

namespace Walk

/-- The same walk at a lower verbosity. -/
structure Quieter (few : Nat) (quiet loud : Walk) : Prop where
  stack : quiet.stack = loud.stack
  cache : quiet.cache = loud.cache
  events : quiet.events = loud.events.filter (Event.staysAt few)

theorem Quieter.log {few : Nat} {quiet loud : Walk} (related : Quieter few quiet loud) :
    quiet.log = shown few loud.log := by
  unfold Walk.log shown
  rw [related.events, ← List.filter_reverse, List.filterMap_filter, List.filter_filterMap]
  congr 1
  funext event
  cases event <;> simp [Event.staysAt, Option.filter]

/-- The same step at two verbosities. -/
abbrev Quietly {α : Type} (few : Nat) (step step' : WalkM α) : Prop :=
  Lockstep (Quieter few) step step'

namespace Quietly

variable {α : Type} {few : Nat}

theorem note {event : Event} (stays : event.staysAt few) :
    Quietly few (WalkM.note event) (WalkM.note event) :=
  .of_modify fun _ _ related =>
    ⟨related.stack, related.cache, by simp [stays, related.events]⟩

/-- A message that only the louder walk records. -/
theorem pure_note {event : Event} (leaves : event.staysAt few = false) :
    Quietly few (pure ()) (WalkM.note event) :=
  .of_pure_modify fun _ _ related =>
    ⟨related.stack, related.cache, by simpa [leaves] using related.events⟩

theorem raise (error : Error) : Quietly few (WalkM.raise error : WalkM α) (WalkM.raise error) :=
  .bind (note rfl) fun _ => .of_throw error

theorem ofExcept (outcome : Except Error α) :
    Quietly few (WalkM.ofExcept outcome) (WalkM.ofExcept outcome) := by
  cases outcome with
  | ok a => exact .of_pure a
  | error error => exact raise error

theorem setStack (stack : Stack) : Quietly few (WalkM.setStack stack) (WalkM.setStack stack) :=
  .bind (.of_modify fun _ _ related => ⟨rfl, related.cache, related.events⟩) fun _ => note rfl

theorem within {step step' : WalkM α} (steps : Quietly few step step') (path : Path) :
    Quietly few (WalkM.within path step) (WalkM.within path step') := by
  refine .get_bind fun quiet loud related => ?_
  rw [related.stack]
  refine .bind (ofExcept _) fun stack => .bind (setStack stack) fun _ => ?_
  refine .bind (Lockstep.lift steps) fun outcome => .get_bind fun quiet loud related => ?_
  rw [related.stack]
  exact .bind (setStack _) fun _ => .of_outcome outcome

end Quietly

end Walk

/-! ## The steps of a project -/

namespace Project

open Walk (Quieter Quietly)

/-- The project at another verbosity. -/
def withVerbosity (project : Project) (verbosity : Nat) : Project := { project with verbosity }

variable {project : Project} {few many : Nat} (fewer : few ≤ many)

include fewer

/-- A message is recorded by both walks, by the louder one, or by none. -/
theorem log_quietly (level : Level) (message : Text) :
    Quietly few ((project.withVerbosity few).log level message)
      ((project.withVerbosity many).log level message) := by
  change Quietly few (if level.isShown few then _ else _) (if level.isShown many then _ else _)
  by_cases quiet : level.isShown few = true
  · rw [if_pos quiet, if_pos (Level.isShown_mono fewer quiet)]
    exact Quietly.note (by simpa [Event.staysAt] using Level.isShown_iff.1 quiet)
  · rw [if_neg quiet]
    split
    · exact Quietly.pure_note (by simpa [Event.staysAt] using mt Level.isShown_iff.2 quiet)
    · exact .of_pure ()

theorem resolveImport_quietly (specifier : Text) :
    Quietly few ((project.withVerbosity few).resolveImport specifier)
      ((project.withVerbosity many).resolveImport specifier) := by
  refine .get_bind fun quiet loud related => ?_
  rw [related.stack]
  refine .bind (Quietly.ofExcept _) fun base => ?_
  have same : ∀ verbosity, (project.withVerbosity verbosity).lookup base specifier =
      project.lookup base specifier := fun _ => rfl
  dsimp only
  rw [same, same]
  refine .bind (.forM (fun path => Quietly.note rfl) _) fun _ => ?_
  cases (project.lookup base specifier).found with
  | none => exact Quietly.raise _
  | some path =>
      dsimp only
      split
      · exact .bind (log_quietly fewer _ _) fun _ => .of_pure path
      · exact .of_pure path

theorem importSymbols_quietly {process process' : Path → WalkM FileResult}
    (processes : ∀ path, Quietly few (process path) (process' path)) (specifier : Text) :
    Quietly few ((project.withVerbosity few).importSymbols process specifier)
      ((project.withVerbosity many).importSymbols process' specifier) := by
  unfold importSymbols
  change Quietly few (if project.settings.isLocal specifier then _ else _)
    (if project.settings.isLocal specifier then _ else _)
  split
  · exact .bind (resolveImport_quietly fewer specifier) fun path =>
      .bind (processes path) fun result => .of_pure result.symbols
  · exact .of_pure []

theorem conclude_quietly (path : Path) (outcome : Except Error (Except Cause Extraction)) :
    Quietly few ((project.withVerbosity few).conclude path outcome)
      ((project.withVerbosity many).conclude path outcome) := by
  unfold conclude
  split
  · change Quietly few (if project.engine.counts then _ else _)
      (if project.engine.counts then _ else _)
    split
    · exact .bind (log_quietly fewer _ _) fun _ => .of_pure _
    · exact .of_pure _
  · exact Quietly.raise _
  · exact Quietly.raise _
  · exact .of_throw _

theorem extractFile_quietly (modules : project.ReadsModules)
    {resolve resolve' : Text → WalkM (List Symbol)}
    (resolves : ∀ specifier, Quietly few (resolve specifier) (resolve' specifier)) (path : Path)
    (source : Text) :
    Quietly few ((project.withVerbosity few).extractFile resolve path source)
      ((project.withVerbosity many).extractFile resolve' path source) := by
  obtain ⟨compose, factors⟩ := modules.asks (project.relative path) source
  have asks : Quietly few (project.engine.run (project.relative path) source resolve)
      (project.engine.run (project.relative path) source resolve') := by
    rw [factors WalkM resolve, factors WalkM resolve']
    exact (Lockstep.mapM resolves _).map compose
  refine .get_bind fun quiet loud related => ?_
  dsimp only
  rw [related.stack]
  refine .bind (log_quietly fewer _ _) fun _ => .bind (Quietly.note rfl) fun _ => ?_
  exact .bind asks.lift fun outcome => conclude_quietly fewer path outcome

omit fewer in
theorem readSource_quietly (path : Path) :
    Quietly few ((project.withVerbosity few).readSource path)
      ((project.withVerbosity many).readSource path) := by
  change Quietly few (project.readSource path) (project.readSource path)
  unfold readSource
  split
  · exact .bind (Quietly.note rfl) fun _ => .of_pure _
  · exact .bind (Quietly.note rfl) fun _ => Quietly.raise _
  · exact .bind (Quietly.note rfl) fun _ => Quietly.raise _

theorem processNormal_quietly (modules : project.ReadsModules)
    {resolve resolve' : Text → WalkM (List Symbol)}
    (resolves : ∀ specifier, Quietly few (resolve specifier) (resolve' specifier)) (path : Path) :
    Quietly few ((project.withVerbosity few).processNormal resolve path)
      ((project.withVerbosity many).processNormal resolve' path) := by
  refine .get_bind fun quiet loud related => ?_
  have same : (project.withVerbosity few).kept quiet path =
      (project.withVerbosity many).kept loud path := by
    rw [kept, kept, related.cache]
    rfl
  rw [same]
  cases (project.withVerbosity many).kept loud path with
  | some result => exact .bind (log_quietly fewer _ _) fun _ => .of_pure result
  | none =>
      refine .bind (readSource_quietly path) fun source => ?_
      refine .bind ((extractFile_quietly fewer modules resolves path source).within path)
        fun extraction => ?_
      change Quietly few (if project.reuse then _ else _) (if project.reuse then _ else _)
      split
      · exact .bind (.of_modify fun _ _ related =>
          ⟨related.stack, congrArg (List.cons _) related.cache, related.events⟩) fun _ => .of_pure _
      · exact .of_pure _

/-- **Walks at two verbosities go the same way.** -/
theorem processWith_quietly (modules : project.ReadsModules) (limit : Nat) : ∀ path : Path,
    Quietly few ((project.withVerbosity few).processWith limit path)
      ((project.withVerbosity many).processWith limit path) := by
  induction limit with
  | zero => exact fun _ => Quietly.raise _
  | succ limit ih =>
      exact fun path => processNormal_quietly fewer modules
        (fun specifier => importSymbols_quietly fewer ih specifier) path.normalize

/-- A walk comes to the same at two verbosities, and its messages at the lower one are those of the
higher one that the lower one shows. -/
theorem process_quietly (settings : Settings) (files : FileTree) (root path : Path) :
    (((ofModules settings files root few).process path).runFrom {}).1 =
        (((ofModules settings files root many).process path).runFrom {}).1 ∧
      (((ofModules settings files root few).process path).runFrom {}).2.log =
        shown few (((ofModules settings files root many).process path).runFrom {}).2.log := by
  let project := ofModules settings files root 0
  have walks := (processWith_quietly fewer (rfl : project.ReadsModules) project.limit path).run {} {}
    ⟨rfl, rfl, rfl⟩
  exact ⟨walks.1, walks.2.log⟩

end Project

end ExportDocs
