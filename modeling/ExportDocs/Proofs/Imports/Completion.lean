/-
# ExportDocs.Proofs.Imports.Completion -- the results that are kept are those of completed files

A file is `Completed` at a moment of a run if it was put on the stack, no failure arose before it
was taken off again, and that was before the moment.  This is read off the events alone; no cache
enters into it.

With the reuse of results, the files with a kept result are exactly the completed ones.  So a
completed file is neither read nor handed to the engine again, whatever fails before or after it
(`Course.remembers`).
-/
import ExportDocs.Proofs.Imports.Course
import ExportDocs.Proofs.Imports.Reuse

namespace ExportDocs

set_option autoImplicit false

/-- The file that an event looks at: one that is read, cannot be read, or is handed to the
engine. -/
def Event.visited? : Event → Option Path
  | .read file | .unread file | .handed file _ => some file
  | _ => none

namespace Trace

/-! ## Completed files -/

/-- A file was put on top of `outer`, has been on the stack since, and no failure was raised in the
meantime. -/
def Underway (file : Path) (outer : Stack) (trace : Trace) : Prop :=
  ∃ inside earlier, trace = inside ++ .stacked (file :: outer) :: earlier ∧
    stackFrom [] earlier = outer ∧ (∀ error, .raised error ∉ inside) ∧
    ∀ stack, .stacked stack ∈ inside → file :: outer <:+ stack

/-- A file was put on the stack and taken off it again, and no failure was raised in between. -/
def Completed (file : Path) (trace : Trace) : Prop :=
  ∃ outer later earlier, trace = later ++ .stacked outer :: earlier ∧ Underway file outer earlier

variable {file : Path} {outer stack : Stack} {trace earlier : Trace}

theorem Completed.mono (completed : Completed file earlier) (later : Trace) :
    Completed file (later ++ earlier) := by
  obtain ⟨outer, between, before, rfl, underway⟩ := completed
  exact ⟨outer, later ++ between, before, by simp, underway⟩

/-- Only leaving a file that is underway completes one. -/
theorem completed_cons {event : Event} : Completed file (event :: trace) ↔
    Completed file trace ∨ ∃ outer, event = .stacked outer ∧ Underway file outer trace := by
  constructor
  · rintro ⟨outer, _ | ⟨_, later⟩, earlier, whole, underway⟩
    · obtain ⟨rfl, rfl⟩ := List.cons.inj whole
      exact .inr ⟨outer, rfl, underway⟩
    · obtain ⟨rfl, rfl⟩ := List.cons.inj whole
      exact .inl ⟨outer, later, earlier, rfl, underway⟩
  · rintro (completed | ⟨outer, rfl, underway⟩)
    · exact completed.mono [event]
    · exact ⟨outer, [], trace, rfl, underway⟩

theorem suffix_stackFrom (first : stack <:+ outer)
    (above : ∀ next, .stacked next ∈ trace → stack <:+ next) : stack <:+ stackFrom outer trace := by
  induction trace with
  | nil => exact first
  | cons event earlier ih =>
      have further := ih fun next member => above next (by simp [member])
      cases event with
      | stacked next => exact above next (by simp)
      | _ => exact further

/-- A file that is underway is on the stack. -/
theorem Underway.suffix (underway : Underway file outer trace) :
    file :: outer <:+ stackFrom [] trace := by
  obtain ⟨inside, earlier, rfl, -, -, above⟩ := underway
  rw [stackFrom_append]
  exact suffix_stackFrom List.suffix_rfl above

/-- A file in which a failure was raised since it was entered is not underway. -/
theorem not_underway {inside : Trace} {error : Error} (raised : .raised error ∈ inside)
    (above : ∀ stack, .stacked stack ∈ inside → file :: outer <:+ stack) :
    ¬ Underway file outer (inside ++ .stacked (file :: outer) :: earlier) := by
  rintro ⟨inside', earlier', whole, start, silent, -⟩
  rcases List.append_eq_append_iff.1 whole with ⟨more, rfl, -⟩ | ⟨more, rfl, rest⟩
  · exact silent error (by simp [raised])
  · cases more with
    | nil => exact silent error (by simpa using raised)
    | cons event more =>
        -- The file would have been entered once more while it was on the stack.
        obtain ⟨rfl, same⟩ := List.cons.inj rest
        have again : file :: outer <:+ stackFrom [] earlier' := by
          rw [same, List.append_eq, stackFrom_append]
          exact suffix_stackFrom List.suffix_rfl fun next member => above next (by simp [member])
        rw [start] at again
        exact absurd again.length_le (by simp)

/-- A completed file is not looked at again. -/
def NeverRevisits (trace : Trace) : Prop :=
  ∀ file event moment, event :: moment <:+ trace → Completed file moment →
    event.visited? ≠ some file

theorem neverRevisits_cons {event : Event} : NeverRevisits (event :: trace) ↔
    NeverRevisits trace ∧ ∀ file, Completed file trace → event.visited? ≠ some file := by
  constructor
  · intro never
    refine ⟨fun file other moment here => ?_, fun file => never file event trace List.suffix_rfl⟩
    exact never file other moment (here.trans (List.suffix_cons _ _))
  · rintro ⟨never, now⟩ file other moment here
    rcases List.suffix_cons_iff.1 here with same | earlier
    · obtain ⟨rfl, rfl⟩ := List.cons.inj same
      exact now file
    · exact never file other moment earlier

end Trace

namespace Project

open Trace

variable {project : Project} {errand : Errand} {before after walk : Walk} {ok : Bool} {file : Path}

/-! ## Kept results are those of completed files -/

/-- The kept results are those of the completed files, and none of these was looked at again. -/
structure Remembers (project : Project) (walk : Walk) : Prop where
  stack : stackFrom [] walk.events = walk.stack
  kept : ∀ file, Completed file walk.events ↔ (project.kept walk file).isSome
  never : NeverRevisits walk.events

@[simp] theorem kept_noted (events : List Event) (file : Path) :
    project.kept (walk.noted events) file = project.kept walk file := rfl

@[simp] theorem kept_restack (stack : Stack) (file : Path) :
    project.kept (walk.restack stack) file = project.kept walk file := rfl

namespace Remembers

theorem start : project.Remembers {} where
  stack := rfl
  kept := by
    intro file
    simp [Completed, Project.kept]
  never := by
    intro file event moment here
    simp at here

/-- Recording events that neither change the stack nor look at a file with a kept result. -/
theorem noted (remembers : project.Remembers walk) {events : List Event}
    (steady : ∀ stack, .stacked stack ∉ events)
    (misses : ∀ event ∈ events, ∀ file, event.visited? = some file →
      project.kept walk file = none) : project.Remembers (walk.noted events) := by
  induction events with
  | nil => exact remembers
  | cons event events ih =>
      obtain ⟨stack, kept, never⟩ := ih (fun stack member => steady stack (by simp [member]))
        fun event member => misses event (by simp [member])
      have noStack : ∀ stack, event ≠ .stacked stack := fun stack same =>
        steady stack (by simp [same])
      refine ⟨?_, fun file => ?_, ?_⟩
      · cases event with
        | stacked next => exact absurd rfl (noStack next)
        | _ => exact stack
      · refine Iff.trans ?_ (kept file)
        rw [Walk.noted_events, List.cons_append, completed_cons]
        simp [noStack]
      · refine neverRevisits_cons.2 ⟨never, fun file completed visited => ?_⟩
        have held := (kept file).1 completed
        rw [kept_noted, misses event (by simp) file visited] at held
        cases held

/-- Recording events that neither change the stack nor look at a file. -/
theorem noted_aside (remembers : project.Remembers walk) {events : List Event}
    (steady : ∀ stack, .stacked stack ∉ events)
    (aside : ∀ event ∈ events, event.visited? = none) : project.Remembers (walk.noted events) := by
  refine remembers.noted steady fun event member file visited => ?_
  rw [aside event member] at visited
  cases visited

theorem entering (remembers : project.Remembers walk) (miss : project.kept walk file = none) :
    project.Remembers (project.entering walk file) := by
  have read : project.Remembers (walk.noted [.read file]) :=
    remembers.noted (by simp) (by simp [Event.visited?, miss])
  have entered : project.Remembers ((walk.noted [.read file]).restack (file :: walk.stack)) := by
    refine ⟨rfl, fun other => ?_, neverRevisits_cons.2 ⟨read.never, by simp [Event.visited?]⟩⟩
    refine Iff.trans ?_ (read.kept other)
    rw [Walk.restack_events, completed_cons]
    refine or_iff_left ?_
    rintro ⟨outer, same, underway⟩
    obtain rfl := Event.stacked.inj same
    -- The stack is shorter than it would be around a file that is underway.
    have longer := underway.suffix.length_le
    rw [read.stack] at longer
    simp only [List.length_cons, Walk.noted_stack] at longer
    omega
  exact entered.noted (by simp [handing]) (by simp [handing, Event.visited?, miss])

/-- Leaving the file on top completes that file, if it is underway, and no other one. -/
theorem completed_left (remembers : project.Remembers walk) {outer : Stack}
    (top : walk.stack = file :: outer) (other : Path) :
    Completed other (.stacked outer :: walk.events) ↔
      (project.kept walk other).isSome ∨ other = file ∧ Underway file outer walk.events := by
  rw [completed_cons, remembers.kept]
  refine or_congr_right ⟨?_, fun ⟨same, underway⟩ => ⟨outer, rfl, same ▸ underway⟩⟩
  rintro ⟨_, same, underway⟩
  obtain rfl := Event.stacked.inj same
  have suffix := underway.suffix
  rw [remembers.stack, top] at suffix
  obtain ⟨rfl, -⟩ := List.cons.inj (suffix.eq_of_length rfl)
  exact ⟨rfl, underway⟩

theorem failed (remembers : project.Remembers walk) {outer : Stack}
    (top : walk.stack = file :: outer) (ended : ¬ Underway file outer walk.events) :
    project.Remembers (walk.restack outer) := by
  refine ⟨rfl, fun other => ?_, neverRevisits_cons.2 ⟨remembers.never, by simp [Event.visited?]⟩⟩
  rw [Walk.restack_events, remembers.completed_left top]
  simp [ended]

theorem finished (remembers : project.Remembers walk) {outer : Stack} {result : FileResult}
    (reuse : project.reuse) (top : walk.stack = result.path :: outer)
    (underway : Underway result.path outer walk.events) :
    project.Remembers (project.keeping (walk.restack outer) result) := by
  have never : NeverRevisits (walk.restack outer).events :=
    neverRevisits_cons.2 ⟨remembers.never, by simp [Event.visited?]⟩
  refine ⟨by simp [stackFrom], fun other => ?_, by simpa using never⟩
  rw [keeping_events, Walk.restack_events, remembers.completed_left top, kept_keeping]
  by_cases same : other = result.path
  · simp [same, reuse, underway]
  · simp [same]

end Remembers

theorem searchEvents_visited (file : Path) (specifier : Text) :
    ∀ event ∈ project.searchEvents file specifier, event.visited? = none := by
  intro event member
  simp only [searchEvents, List.mem_append, List.mem_reverse, List.mem_map] at member
  rcases member with ending | ⟨path, -, rfl⟩
  · split at ending
    · simp_all [Event.visited?]
    · split at ending <;> simp_all [Event.visited?]
  · rfl

theorem verdictEvents_visited (outcome : Except Error (Except Cause Extraction)) :
    ∀ event ∈ project.verdictEvents file outcome, event.visited? = none := by
  intro event member
  unfold verdictEvents at member
  split at member
  · split at member <;> simp_all [Event.visited?]
  all_goals simp_all [Event.visited?]

theorem Remembers.searched (remembers : project.Remembers walk) (file : Path) (specifier : Text) :
    project.Remembers (walk.noted (project.searchEvents file specifier)) :=
  remembers.noted_aside (searchEvents_steady file specifier) (searchEvents_visited file specifier)

/-- When the engine is done with a file, the file is underway if and only if it did not fail. -/
theorem Records.underway_iff {outcome : Except Error (Except Cause Extraction)} {trace : Trace}
    (asked : Records (project.entering walk file) outcome.isOk after trace)
    (stack : stackFrom [] walk.events = walk.stack) :
    Underway file walk.stack (after.noted (project.verdictEvents file outcome)).events ↔
      (verdict file outcome).isOk := by
  obtain ⟨inside, events, above, raises⟩ := asked.exists_inside
  rw [events]
  cases ended : (verdict file outcome).isOk with
  | false =>
      obtain ⟨error, raised⟩ := raises.2 ended
      simpa using not_underway raised above
  | true =>
      have silent : ∀ error, .raised error ∉ inside := fun error raised => by
        simp [raises.1 ⟨error, raised⟩] at ended
      exact iff_of_true ⟨inside, .read file :: walk.events, rfl, stack, silent, above⟩ rfl

/-- **With reuse, every course remembers what it completed, however it ends.** -/
theorem Course.remembers (course : project.Course errand before ok after) (reuse : project.reuse)
    (remembers : project.Remembers before) : project.Remembers after := by
  induction course with
  | tooDeep => exact remembers.noted_aside (by simp) (by simp [Event.visited?])
  | reused => exact remembers.noted_aside (by simp) (by simp [Event.visited?])
  | unread miss => exact remembers.noted (by simp) (by simp [Event.visited?, miss])
  | refused miss => exact remembers.noted (by simp) (by simp [Event.visited?, miss])
  | failed miss fresh asks ended ih =>
      obtain ⟨trace, asked⟩ := asks.records
      refine ((ih (remembers.entering miss)).noted_aside (project.verdictEvents_steady _ _)
        (verdictEvents_visited _)).failed (asks.stack_eq) ?_
      rw [asked.underway_iff remembers.stack, ended]
      simp [Except.isOk, Except.toBool]
  | finished miss fresh asks ended ih =>
      obtain ⟨trace, asked⟩ := asks.records
      refine ((ih (remembers.entering miss)).noted_aside (project.verdictEvents_steady _ _)
        (verdictEvents_visited _)).finished reuse (asks.stack_eq) ?_
      refine (asked.underway_iff remembers.stack).2 ?_
      rw [ended]
      rfl
  | answeredAll => exact remembers
  | package _ ih => exact ih remembers
  | unresolved => exact remembers.searched _ _
  | unanswered _ _ _ ih => exact ih (remembers.searched _ _)
  | answered _ _ _ _ ihFirst ihRest => exact ihRest (ihFirst (remembers.searched _ _))

end Project

end ExportDocs
