/-
# ExportDocs.Proofs.Imports.Trace -- the moments of a walk

The events of a walk are its moments: the stack changes only where a change is recorded, so the
stack at a moment is read off the events up to it (`Trace.stackFrom`).  A law says which events may
happen at which stack, and a trace is `Lawful` if every event of it was allowed at its moment.

`Passes` is what is shown of every step of a walk, however it ends: it leaves the stack as it found
it, what it recorded is lawful, and a failure it ends with is one that was raised in it.
-/
import ExportDocs.Proofs.Imports.Steps

namespace ExportDocs

set_option autoImplicit false

/-- Whether an event neither changes the stack nor reports a cycle or too deep a nesting. -/
def Event.isQuiet : Event → Bool
  | .stacked _ => false
  | .raised (.importCycle ..) => false
  | .raised (.uncaught .tooDeep) => false
  | _ => true

/-- Events, last first. -/
abbrev Trace := List Event

namespace Trace

/-- The stack after a trace that began with the stack `start`. -/
def stackFrom (start : Stack) : Trace → Stack
  | [] => start
  | .stacked stack :: _ => stack
  | _ :: earlier => stackFrom start earlier

/-- Every event was allowed by the law at the stack of its moment. -/
def Lawful (law : Stack → Event → Prop) (start : Stack) : Trace → Prop
  | [] => True
  | event :: earlier => Lawful law start earlier ∧ law (stackFrom start earlier) event

variable {law : Stack → Event → Prop} {start : Stack} {trace : Trace}

theorem stackFrom_append (later earlier : Trace) :
    stackFrom start (later ++ earlier) = stackFrom (stackFrom start earlier) later := by
  induction later with
  | nil => rfl
  | cons event later ih => cases event <;> simp [stackFrom, ih]

theorem lawful_append {later earlier : Trace} :
    Lawful law start (later ++ earlier) ↔
      Lawful law start earlier ∧ Lawful law (stackFrom start earlier) later := by
  induction later with
  | nil => simp [Lawful]
  | cons event later ih => simp [Lawful, ih, stackFrom_append, and_assoc]

theorem stackFrom_of_quiet (quiet : ∀ event ∈ trace, event.isQuiet) :
    stackFrom start trace = start := by
  induction trace with
  | nil => rfl
  | cons event earlier ih =>
      have earlierQuiet := ih fun event member => quiet event (by simp [member])
      cases event <;> simp_all [stackFrom, Event.isQuiet]

theorem lawful_of_quiet (allowed : ∀ stack event, event.isQuiet → law stack event)
    (quiet : ∀ event ∈ trace, event.isQuiet) : Lawful law start trace := by
  induction trace with
  | nil => trivial
  | cons event earlier ih =>
      exact ⟨ih fun event member => quiet event (by simp [member]),
        allowed _ _ (quiet event (by simp))⟩

/-- Every event of a lawful trace was allowed at its moment. -/
theorem Lawful.allowed (lawful : Lawful law start trace) {event : Event} {moment : Trace}
    (here : event :: moment <:+ trace) : law (stackFrom start moment) event := by
  obtain ⟨later, rfl⟩ := here
  exact (lawful_append.1 lawful).1.2

/-- What holds of the first stack and of every stack that the law allows holds at every moment. -/
theorem Lawful.stackFrom_of {good : Stack → Prop} (first : good start)
    (allowed : ∀ stack next, law stack (.stacked next) → good next)
    (lawful : Lawful law start trace) : good (stackFrom start trace) := by
  induction trace with
  | nil => exact first
  | cons event earlier ih =>
      cases event with
      | stacked stack => exact allowed _ _ lawful.2
      | _ => exact ih lawful.1

theorem Lawful.of_suffix {moment : Trace} (lawful : Lawful law start trace)
    (here : moment <:+ trace) : Lawful law start moment := by
  obtain ⟨later, rfl⟩ := here
  exact (lawful_append.1 lawful).1

end Trace

open Trace

/-- A step that recorded `trace` left the stack as it found it, obeyed the law at every moment, and
failed only with what was raised in it. -/
structure Passes {α : Type} (law : Stack → Event → Prop) (before : Walk) (trace : Trace)
    (run : Except Error α × Walk) : Prop where
  stack : run.2.stack = before.stack
  events : run.2.events = trace ++ before.events
  closed : stackFrom before.stack trace = before.stack
  lawful : Lawful law before.stack trace
  raised : ∀ error, run.1 = .error error → .raised error ∈ trace

namespace Passes

variable {α β : Type} {law : Stack → Event → Prop} {before after : Walk} {trace later : Trace}

theorem of_ok (a : α) : Passes law before [] (.ok a, before) :=
  ⟨rfl, rfl, rfl, trivial, by simp⟩

/-- Recording quiet events. -/
theorem of_quiet (allowed : ∀ stack event, event.isQuiet → law stack event)
    (quiet : ∀ event ∈ trace, event.isQuiet) {outcome : Except Error α}
    (raised : ∀ error, outcome = .error error → .raised error ∈ trace) :
    Passes law before trace (outcome, before.noted trace) :=
  ⟨rfl, rfl, stackFrom_of_quiet quiet, lawful_of_quiet allowed quiet, raised⟩

/-- One step after another. -/
theorem trans {outcome : Except Error α} {run : Except Error β × Walk}
    (first : Passes law before trace (outcome, after)) (second : Passes law after later run) :
    Passes law before (later ++ trace) run := by
  have middle : after.stack = before.stack := first.stack
  refine ⟨second.stack.trans middle, ?_, ?_, ?_, fun error failed => ?_⟩
  · rw [second.events, show after.events = trace ++ before.events from first.events,
      List.append_assoc]
  · rw [stackFrom_append, first.closed, ← middle, second.closed]
  · rw [lawful_append, first.closed, ← middle]
    exact ⟨middle ▸ first.lawful, second.lawful⟩
  · exact List.mem_append_left _ (second.raised error failed)

/-- Another outcome in place of a result. -/
theorem of_result {run : Except Error α × Walk} (passes : Passes law before trace run)
    {outcome : Except Error β} (kept : ∀ error, outcome = .error error → run.1 = .error error) :
    Passes law before trace (outcome, run.2) :=
  ⟨passes.stack, passes.events, passes.closed, passes.lawful,
    fun error failed => passes.raised error (kept error failed)⟩

theorem map {run : Except Error α × Walk} (passes : Passes law before trace run) (f : α → β) :
    Passes law before trace (run.1.map f, run.2) := by
  refine passes.of_result fun error failed => ?_
  revert failed
  cases run.1 <;> simp [Except.map]

theorem mapM {stack : Stack} {f : α → WalkM β} (questions : List α)
    (each : ∀ question ∈ questions, ∀ walk : Walk, walk.stack = stack →
      ∃ trace, Passes law walk trace ((f question).runFrom walk)) :
    ∀ walk : Walk, walk.stack = stack →
      ∃ trace, Passes law walk trace ((questions.mapM f).runFrom walk) := by
  induction questions with
  | nil => exact fun walk _ => ⟨[], of_ok []⟩
  | cons question rest ih =>
      intro walk here
      obtain ⟨trace, passes⟩ := each question (by simp) walk here
      rw [List.mapM_cons, WalkM.runFrom_bind]
      rcases ran : (f question).runFrom walk with ⟨error | answer, after⟩
      · rw [ran] at passes
        exact ⟨trace, passes.of_result (by simp)⟩
      · rw [ran] at passes
        obtain ⟨later, passesRest⟩ := ih (fun question member => each question (by simp [member]))
          after (passes.stack.trans here)
        simp only [bind_pure_comp, WalkM.runFrom_map]
        exact ⟨later ++ trace, passes.trans (passesRest.map _)⟩

/-- A file entered and left again around a step. -/
theorem entered {path : Path} {run : Except Error α × Walk}
    (enters : law before.stack (.stacked (path :: before.stack)))
    (leaves : law (path :: before.stack) (.stacked before.stack))
    (inside : Passes law (before.restack (path :: before.stack)) trace run) :
    Passes law before (.stacked before.stack :: (trace ++ [.stacked (path :: before.stack)]))
      (run.1, run.2.restack before.stack) := by
  have innerStack : stackFrom (path :: before.stack) trace = path :: before.stack := inside.closed
  refine ⟨rfl, ?_, rfl, ⟨?_, ?_⟩, fun error failed => ?_⟩
  · simp [inside.events]
  · exact lawful_append.2 ⟨⟨trivial, enters⟩, inside.lawful⟩
  · rw [stackFrom_append]
    change law (stackFrom (path :: before.stack) trace) _
    rw [innerStack]
    exact leaves
  · have inTrace := inside.raised error failed
    simp [inTrace]

section FromStart

variable {cache : List (Path × FileResult)} {run : Except Error α × Walk} {moment : Trace}

theorem events_from_start (passes : Passes law { cache } trace run) : run.2.events = trace :=
  passes.events.trans (List.append_nil trace)

/-- Every event of a run from an empty stack was allowed at its moment. -/
theorem allowed_from_start (passes : Passes law { cache } trace run) {event : Event}
    (here : event :: moment <:+ run.2.events) : law (stackFrom [] moment) event := by
  rw [passes.events_from_start] at here
  exact passes.lawful.allowed here

/-- What holds of the empty stack and of every stack that the law allows holds at every moment of
a run from an empty stack. -/
theorem stackFrom_from_start (passes : Passes law { cache } trace run) {good : Stack → Prop}
    (first : good []) (allowed : ∀ stack next, law stack (.stacked next) → good next)
    (here : moment <:+ run.2.events) : good (stackFrom [] moment) := by
  rw [passes.events_from_start] at here
  exact (passes.lawful.of_suffix here).stackFrom_of first allowed

end FromStart

end Passes

end ExportDocs
