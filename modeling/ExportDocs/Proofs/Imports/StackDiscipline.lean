/-
# ExportDocs.Proofs.Imports.StackDiscipline -- the stack is always the way to the file on top

Whatever a call does and however it ends, it leaves the stack as it found it, and in between the
stack only grows on top of what the call found (`Restores`).  In a run from an empty stack the stack
is at every moment a way through the import graph without repetition (`IsWay`), and a reported
cycle is one: the stack from the file on, and back to it.

Both are disciplines in the sense of `processWith_passes`: the first for the stack that a call
found, the second for ways.
-/
import ExportDocs.Proofs.Imports.Discipline
import Mathlib.Data.List.Chain

namespace ExportDocs.Project

set_option autoImplicit false

open Trace

/-- The stack after a call is the one before it, and at every moment of the call the stack extends
it.  The trace of the call tells the stack at each of its moments. -/
def Restores (before after : Walk) : Prop :=
  after.stack = before.stack ∧
    ∃ trace : Trace, after.events = trace ++ before.events ∧
      stackFrom before.stack trace = after.stack ∧
      ∀ moment, moment <:+ trace → before.stack <:+ stackFrom before.stack moment

/-- A stack is a way through the import graph that meets no file twice. -/
def IsWay (project : Project) (stack : Stack) : Prop :=
  stack.Nodup ∧ stack.IsChain fun inner outer => project.Imports outer inner

/-- The files from `file` to the end of the chain, and back to `file`, import one another. -/
def ClosesCycle (project : Project) (file : Path) (chain : List Path) : Prop :=
  file ∈ chain ∧ (chain.dropWhile (· ≠ file) ++ [file]).IsChain project.Imports

variable {project : Project}

/-! ## A call leaves the stack as it found it -/

/-- The law of a call that found the stack `base`. -/
def extendsLaw (base : Stack) (_ : Stack) : Event → Prop
  | .stacked next => base <:+ next
  | _ => True

theorem extends_discipline (base : Stack) :
    project.Discipline (extendsLaw base) fun _ stack _ => base <:+ stack where
  quiet := by
    intro stack event quiet
    cases event with
    | stacked next => simp [Event.isQuiet] at quiet
    | _ => trivial
  tooDeep := fun _ _ _ => trivial
  cycle := fun _ _ _ _ _ => trivial
  enters := fun _ _ path _ above _ _ => ⟨above.trans (List.suffix_cons path _), above⟩
  imports := fun _ _ path _ above _ _ => above.trans (List.suffix_cons path _)

theorem Restores.of_passes {α : Type} {before : Walk} {trace : Trace}
    {run : Except Error α × Walk} (passes : Passes (extendsLaw before.stack) before trace run) :
    Restores before run.2 := by
  refine ⟨passes.stack, trace, passes.events, passes.closed.trans passes.stack.symm, ?_⟩
  intro moment here
  exact (passes.lawful.of_suffix here).stackFrom_of List.suffix_rfl fun _ _ above => above

theorem processWith_restores (modules : project.ReadsModules) (limit : Nat) (path : Path)
    (walk : Walk) : Restores walk ((project.processWith limit path).runFrom walk).2 := by
  obtain ⟨trace, passes⟩ := processWith_passes modules (extends_discipline walk.stack) limit path
    walk List.suffix_rfl
  exact .of_passes passes

theorem importSymbols_restores (modules : project.ReadsModules) (limit : Nat) (specifier : Text)
    (walk : Walk) :
    Restores walk
      ((project.importSymbols (project.processWith limit) specifier).runFrom walk).2 := by
  have discipline : project.Discipline (extendsLaw walk.stack) _ := extends_discipline walk.stack
  obtain ⟨trace, passes⟩ : ∃ trace, Passes (extendsLaw walk.stack) walk trace
      ((project.importSymbols (project.processWith limit) specifier).runFrom walk) := by
    refine importSymbols_passes discipline.quiet fun base outer target _ _ _ inner same => ?_
    exact processWith_passes modules discipline limit target inner (same ▸ List.suffix_rfl)
  exact .of_passes passes

/-! ## The stack of a run is a way, and a reported cycle is one -/

/-- The law of a run: the stack stays a way, and a cycle is reported with the stack that closes
it. -/
def wayLaw (project : Project) (stack : Stack) : Event → Prop
  | .stacked next => project.IsWay next
  | .raised (.importCycle file chain) => chain = stack.reverse ∧ project.ClosesCycle file chain
  | _ => True

/-- A way that leads to a file goes on to it, unless it has been there. -/
theorem IsWay.cons {stack : Stack} {path : Path} (way : project.IsWay stack)
    (leads : ∀ top ∈ stack.head?, project.Imports top path) (fresh : path ∉ stack) :
    project.IsWay (path :: stack) :=
  ⟨List.nodup_cons.2 ⟨fresh, way.1⟩, List.isChain_cons.2 ⟨leads, way.2⟩⟩

/-- A way that leads back to one of its files closes a cycle. -/
theorem IsWay.closesCycle {stack : Stack} {path : Path} (way : project.IsWay stack)
    (leads : ∀ top ∈ stack.head?, project.Imports top path) (inFlight : path ∈ stack) :
    project.ClosesCycle path stack.reverse := by
  refine ⟨List.mem_reverse.2 inFlight, ?_⟩
  have around : (stack.reverse ++ [path]).IsChain project.Imports := by
    rw [← List.reverse_cons, List.isChain_reverse]
    exact List.isChain_cons.2 ⟨leads, way.2⟩
  have suffix : stack.reverse.dropWhile (· ≠ path) ++ [path] <:+ stack.reverse ++ [path] := by
    obtain ⟨front, split⟩ := List.dropWhile_suffix (l := stack.reverse) (· ≠ path)
    exact ⟨front, by rw [← List.append_assoc, split]⟩
  exact around.suffix suffix

theorem way_discipline :
    project.Discipline (wayLaw project) fun _ stack path =>
      project.IsWay stack ∧ ∀ top ∈ stack.head?, project.Imports top path where
  quiet := by
    intro stack event quiet
    cases event with
    | stacked next => simp [Event.isQuiet] at quiet
    | raised error =>
        cases error with
        | importCycle file chain => simp [Event.isQuiet] at quiet
        | _ => trivial
    | _ => trivial
  tooDeep := fun _ _ _ => trivial
  cycle := fun _ _ _ ⟨way, leads⟩ inFlight => ⟨rfl, way.closesCycle leads inFlight⟩
  enters := fun _ _ _ _ ⟨way, leads⟩ _ fresh => ⟨way.cons leads fresh, way⟩
  imports := by
    intro limit stack path target ⟨way, leads⟩ fresh imports
    refine ⟨way.cons leads fresh, ?_⟩
    simpa using imports

theorem processWith_wayLaw (modules : project.ReadsModules) (limit : Nat) (path : Path)
    (cache : List (Path × FileResult)) :
    ∃ trace, Passes (wayLaw project) { cache } trace
      ((project.processWith limit path).runFrom { cache }) :=
  processWith_passes modules way_discipline limit path { cache }
    ⟨⟨List.nodup_nil, .nil⟩, by simp⟩

/-- **The stack discipline.**  Under any limit to the nesting, every call that processes a file or
asks for a module, from whatever state, restores the stack that it found and only extends it in
between.  In every run from an empty stack, with whatever results kept, the stack is a way through
the import graph at every moment; a cycle is reported with the stack of that moment, which closes
it; and a run that ends with a cycle reported it. -/
theorem stack_discipline (settings : Settings) (files : FileTree) (root : Path)
    (verbosity : Nat) (reuse : Bool) (limit : Nat) :
    let project := (ofModules settings files root verbosity).withReuse reuse
    (∀ path walk, Restores walk ((project.processWith limit path).runFrom walk).2) ∧
    (∀ specifier walk, Restores walk
      ((project.importSymbols (project.processWith limit) specifier).runFrom walk).2) ∧
    ∀ path cache,
      let run := (project.processWith limit path).runFrom { cache }
      (∀ moment, moment <:+ run.2.events → project.IsWay (stackFrom [] moment)) ∧
      (∀ file chain moment, .raised (.importCycle file chain) :: moment <:+ run.2.events →
        chain = (stackFrom [] moment).reverse ∧ project.ClosesCycle file chain) ∧
      ∀ file chain, run.1 = .error (.importCycle file chain) →
        .raised (.importCycle file chain) ∈ run.2.events := by
  intro project
  have modules : project.ReadsModules := rfl
  refine ⟨processWith_restores modules limit, importSymbols_restores modules limit, ?_⟩
  intro path cache
  obtain ⟨trace, passes⟩ := processWith_wayLaw modules limit path cache
  refine ⟨fun moment here => ?_, fun file chain moment here => ?_, fun file chain failed => ?_⟩
  · exact passes.stackFrom_from_start ⟨List.nodup_nil, .nil⟩ (fun _ _ way => way) here
  · exact passes.allowed_from_start here
  · rw [passes.events_from_start]
    exact passes.raised _ failed

end ExportDocs.Project
