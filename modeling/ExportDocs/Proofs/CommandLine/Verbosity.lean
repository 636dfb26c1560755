/-
# ExportDocs.Proofs.CommandLine.Verbosity -- verbosity is only observation

Flags are taken out of a command line as it is written (`withoutFlags`), and sorting what remains
gives what was sorted, without its flags (`Sorts.withoutFlags`).  So two command lines that are the
same without their flags ask for the same, at two verbosities.  Runs at two verbosities keep in
step (`perform_quietly`): they end alike, and the quieter one logs what the louder one logs up to
its own verbosity (`verbosity_is_observation`).

This needs that each flag stands apart from what it could disturb, or that the two command lines
are both accepted or both refused; and that formatters do not look at the verbosity.
-/
import ExportDocs.Proofs.CommandLine.Flags
import ExportDocs.Proofs.Run.Quiet

namespace ExportDocs

set_option autoImplicit false

/-! ## Command lines -/

namespace CommandLine

open Argument (sort)

/-- How much a text raises the verbosity, as an argument. -/
def flagsIn (text : Text) : Nat := ((Argument.ofText text).map Argument.flags).getD 0

/-- The number of flags that raise the verbosity: those before two dashes that stand alone. -/
def verbosityFlags : List Text → Nat
  | [] => 0
  | text :: rest => if text = ['-', '-'] then 0 else flagsIn text + verbosityFlags rest

/-- The command line without these flags. -/
def withoutFlags : List Text → List Text
  | [] => []
  | text :: rest =>
    if text = ['-', '-'] then text :: rest
    else if flagsIn text = 0 then text :: withoutFlags rest
    else withoutFlags rest

/-- No flag stands where the value of an option should be, or directly before two dashes that stand
alone. -/
def FlagsApart (arguments : List Text) : Prop :=
  ∀ sorted ∈ sort arguments, sorted.IsChain Argument.Apart

instance (arguments : List Text) : Decidable (FlagsApart arguments) :=
  inferInstanceAs (Decidable (∀ sorted ∈ sort arguments, sorted.IsChain Argument.Apart))

/-- How the arguments of a command line are sorted. -/
inductive Sorts : List Text → List Argument → Prop
  | done : Sorts [] []
  | separated (rest : List Text) :
      Sorts (['-', '-'] :: rest) (.separator :: rest.map .place)
  | argument {text : Text} {argument : Argument} {rest : List Text} {sorted : List Argument}
      (plain : text ≠ ['-', '-']) (read : Argument.ofText text = some argument)
      (later : Sorts rest sorted) : Sorts (text :: rest) (argument :: sorted)

theorem sort_eq_some_iff {arguments : List Text} {sorted : List Argument} :
    sort arguments = some sorted ↔ Sorts arguments sorted := by
  constructor
  · intro sorts
    induction arguments generalizing sorted with
    | nil =>
        cases sorts
        exact .done
    | cons text rest ih =>
        rw [sort] at sorts
        split at sorts
        · rename_i separator
          cases sorts
          rw [separator]
          exact .separated rest
        · rename_i plain
          simp only [Option.bind_eq_bind, Option.pure_def, Option.bind_eq_some_iff,
            Option.some.injEq] at sorts
          obtain ⟨argument, read, others, later, rfl⟩ := sorts
          exact .argument plain read (ih later)
  · intro sorts
    induction sorts with
    | done => rfl
    | separated rest => rfl
    | argument plain read _ ih =>
        rw [sort, if_neg plain, read, ih]
        rfl

/-- A text that is read as an argument is no separator, and its letters begin with an option. -/
theorem ofText_eq_some {text : Text} {argument : Argument}
    (read : Argument.ofText text = some argument) :
    argument ≠ .separator ∧ argument.IsLettered := by
  have orPlace : ∀ {text : Text}, some (Argument.orPlace text) = some argument →
      argument ≠ .separator ∧ argument.IsLettered := by
    rintro text ⟨⟩
    unfold Argument.orPlace
    split <;> exact ⟨by simp, trivial⟩
  revert read
  fun_cases Argument.ofText text with
  | case1 => exact orPlace
  | case2 =>
      rintro ⟨⟩
      exact ⟨by simp, trivial⟩
  | case3 => rintro ⟨⟩
  | case4 c _ _ _ letter =>
      rintro ⟨⟩
      exact ⟨by simp, c, letter⟩
  | case5 => exact orPlace
  | case6 =>
      rintro ⟨⟩
      exact ⟨by simp, trivial⟩

namespace Sorts

variable {arguments : List Text} {sorted : List Argument}

theorem places_of_separated {rest : List Text} {argument : Argument}
    (member : argument ∈ rest.map Argument.place) : argument.isFlag = false := by
  obtain ⟨text, -, rfl⟩ := List.mem_map.1 member
  rfl

theorem flagsOf_eq (sorts : Sorts arguments sorted) :
    Argument.flagsOf sorted = verbosityFlags arguments := by
  induction sorts with
  | done => rfl
  | separated rest =>
      rw [verbosityFlags, if_pos rfl, Argument.flagsOf_cons_other rfl]
      exact (Command.plain_of_no_flags fun _ => places_of_separated).2
  | argument plain read _ ih =>
      rw [verbosityFlags, if_neg plain, Argument.flagsOf, ih, flagsIn, read]
      rfl

theorem withoutFlags (sorts : Sorts arguments sorted) :
    Sorts (withoutFlags arguments) (Argument.plain sorted) := by
  induction sorts with
  | done => exact .done
  | separated rest =>
      rw [CommandLine.withoutFlags, if_pos rfl, Argument.plain_cons_other rfl,
        (Command.plain_of_no_flags fun _ => places_of_separated).1]
      exact .separated rest
  | @argument text argument rest sorted plain read _ ih =>
      have flags : flagsIn text = argument.flags := by
        rw [flagsIn, read]
        rfl
      rw [CommandLine.withoutFlags, if_neg plain, flags]
      by_cases other : argument.flags = 0
      · rw [if_pos other, Argument.plain_cons_other (by simp [Argument.isFlag, other])]
        exact .argument plain read ih
      · rw [if_neg other, Argument.plain_cons_flag (by simp [Argument.isFlag, other])]
        exact ih

theorem separatorEnds (sorts : Sorts arguments sorted) : Command.SeparatorEnds sorted := by
  induction sorts with
  | done => simp [Command.SeparatorEnds]
  | separated rest =>
      intro after suffix argument member
      rcases List.suffix_cons_iff.1 suffix with same | later
      · cases same
        exact places_of_separated member
      · exact places_of_separated (later.subset (List.mem_cons_of_mem _ member))
  | argument _ read _ ih =>
      intro after suffix
      rcases List.suffix_cons_iff.1 suffix with same | later
      · cases same
        exact absurd rfl (ofText_eq_some read).1
      · exact ih after later

theorem isLettered (sorts : Sorts arguments sorted) :
    ∀ argument ∈ sorted, argument.IsLettered := by
  induction sorts with
  | done => simp
  | separated rest => simp [Argument.IsLettered]
  | argument _ read _ ih => exact List.forall_mem_cons.2 ⟨(ofText_eq_some read).2, ih⟩

theorem isPlain (sorts : Sorts arguments sorted) :
    ∀ argument ∈ Argument.plain sorted, Command.IsPlain argument := by
  intro argument member
  obtain ⟨among, other⟩ := List.mem_filter.1 member
  exact ⟨by simpa using other, sorts.isLettered argument among⟩

end Sorts

/-- Leaving out flags does not help where an argument is the beginning of several options. -/
theorem sort_withoutFlags {arguments : List Text} (unsorted : sort arguments = none) :
    sort (withoutFlags arguments) = none := by
  induction arguments with
  | nil => cases unsorted
  | cons text rest ih =>
      rw [sort] at unsorted
      split at unsorted
      · cases unsorted
      · rename_i plain
        rw [withoutFlags, if_neg plain]
        cases read : Argument.ofText text with
        | none => simp [flagsIn, read, sort, plain]
        | some argument =>
            rw [read] at unsorted
            have later : sort rest = none := by
              cases h : sort rest with
              | none => rfl
              | some sorted => simp [h] at unsorted
            split
            · simp [sort, plain, ih later]
            · exact ih later

end CommandLine

namespace Request

theorem withVerbosity_of_ne_run {request : Request} (noRun : ∀ options, request ≠ .run options)
    (verbosity : Nat) : request.withVerbosity verbosity = request := by
  cases request with
  | run options => exact absurd rfl (noRun options)
  | _ => rfl

end Request

namespace Command

theorem toRequest_louder {command : Command} (first : command.stray = false → command.verbosity = 1)
    (flags : Nat) :
    (command.louder flags).toRequest = command.toRequest.withVerbosity (1 + flags) := by
  unfold toRequest
  simp only [louder]
  split
  · rename_i understood
    rw [first understood]
    rfl
  · rfl

end Command

namespace CommandLine

theorem read_of_sorts {arguments : List Text} {sorted : List Argument}
    (sorts : Sorts arguments sorted) :
    read arguments = Command.requestOf (({} : Command).take false sorted) := by
  rw [read, sort_eq_some_iff.2 sorts]
  rfl

/-- A command line asks for the same without its flags, but for the verbosity. -/
theorem read_withoutFlags {arguments : List Text}
    (apart : FlagsApart arguments ∨ read arguments ≠ .unusable) :
    read arguments =
      (read (withoutFlags arguments)).withVerbosity (1 + verbosityFlags arguments) := by
  cases sorted? : Argument.sort arguments with
  | none =>
      rw [read, read, sorted?, sort_withoutFlags sorted?]
      rfl
  | some sorted =>
      have sorts := sort_eq_some_iff.1 sorted?
      rw [read_of_sorts sorts] at apart
      rw [read_of_sorts sorts, read_of_sorts sorts.withoutFlags, ← sorts.flagsOf_eq]
      rcases Command.take_plain sorted {} false sorts.separatorEnds id with same | ⟨joined, refused⟩
      · rw [same]
        cases taken : ({} : Command).take false (Argument.plain sorted) with
        | error request =>
            refine (Request.withVerbosity_of_ne_run ?_ _).symm
            rintro options rfl
            exact Command.take_ne_run _ _ _ _ taken
        | ok final =>
            refine Command.toRequest_louder (fun understood => ?_) _
            exact (Command.verbosity_of_plain sorts.isPlain taken understood).2
      · rcases apart with apart | accepted
        · exact absurd (apart sorted sorted?) joined
        · exact absurd refused accepted

/-- **Verbosity is only observation.**  Two command lines that are the same without their flags end
in the same way, print the same and leave the same files; the one with fewer flags logs the messages
of the other up to its own verbosity. -/
theorem verbosity_is_observation (host : Host) (ignores : host.IgnoresVerbosity)
    (settings : Settings) (files : FileTree) {first second : List Text}
    (same : withoutFlags first = withoutFlags second)
    (fewer : verbosityFlags first ≤ verbosityFlags second)
    (apart : FlagsApart first ∧ FlagsApart second ∨
      (read first = .unusable ↔ read second = .unusable)) :
    let quiet := run host settings files first
    let loud := run host settings files second
    quiet.ending = loud.ending ∧ quiet.world.output = loud.world.output ∧
      quiet.world.files = loud.world.files ∧ quiet.log = shown (1 + verbosityFlags first) loud.log := by
  obtain ⟨request, readFirst, readSecond⟩ : ∃ request : Request,
      read first = request.withVerbosity (1 + verbosityFlags first) ∧
        read second = request.withVerbosity (1 + verbosityFlags second) := by
    rcases apart with ⟨apartFirst, apartSecond⟩ | both
    · exact ⟨_, read_withoutFlags (.inl apartFirst), same ▸ read_withoutFlags (.inl apartSecond)⟩
    · by_cases refused : read first = .unusable
      -- What is refused has no verbosity, wherever the flags stand.
      · exact ⟨.unusable, refused, both.1 refused⟩
      · exact ⟨_, read_withoutFlags (.inr refused),
          same ▸ read_withoutFlags (.inr fun other => refused (both.2 other))⟩
  have observed := perform_quietly ignores (Nat.add_le_add_left fewer 1) settings files request
  simp only [run, readFirst, readSecond]
  revert observed
  rcases (perform host settings (request.withVerbosity (1 + verbosityFlags first))).run.run { files }
    with ⟨result, quiet⟩
  rcases (perform host settings (request.withVerbosity (1 + verbosityFlags second))).run.run { files }
    with ⟨_, loud⟩
  rintro ⟨rfl, left, printed, messages⟩
  refine ⟨rfl, printed, left, ?_⟩
  rw [Outcome.log, Outcome.log, World.log, World.log, shown, List.filter_reverse]
  exact congrArg List.reverse messages

/-- One source with one export. -/
def oneExport : FileTree :=
  { files := [(["in".toList, "a.js".toList], .text "export const x = 1;\n".toList)] }

/-- A host whose formatters log a message and return an empty report. -/
def loggingHost : Host where
  loads _ := true
  cachePlace _ := none
  compiled _ _ _ := none
  execute _ _ := return some fun _ _ _ _ => do
    modify (World.logged .debug "formatting".toList)
    return .string []
  merge _ _ _ _ := .ok none

theorem loggingHost_ignoresVerbosity : loggingHost.IgnoresVerbosity where
  execute _ _ _ _ _ := .of_pure _
  format := by
    rintro formatter ⟨path, content, world, defined⟩ root document symbols heading few many fewer
    cases defined
    exact .bind (.of_modify fun _ _ related => related.logged fewer _ _) fun _ => .of_pure _

/-- Flags in other places, and more of them; with a formatter. -/
theorem verbosity_is_observation_of_export :
    let first := ["-v", "--inputFile", "a.js", "--formatter=a.js", "/in", "/out"].map String.toList
    let second :=
      ["--inputFile", "a.js", "-vv", "--formatter=a.js", "/in", "--verb", "/out"].map String.toList
    (verbosityFlags first = 1 ∧ verbosityFlags second = 3) ∧
      (run loggingHost {} oneExport first).ending = (run loggingHost {} oneExport second).ending ∧
      (run loggingHost {} oneExport first).world.output =
        (run loggingHost {} oneExport second).world.output ∧
      (run loggingHost {} oneExport first).world.files =
        (run loggingHost {} oneExport second).world.files ∧
      (run loggingHost {} oneExport first).log =
        shown 2 (run loggingHost {} oneExport second).log :=
  ⟨by decide, verbosity_is_observation loggingHost loggingHost_ignoresVerbosity {} oneExport
    (by decide) (by decide) (.inl (by decide))⟩

/-- A flag between the places and two dashes that stand alone is refused. -/
theorem flag_before_separator_is_refused :
    let first := ["--inputFile", "a.js", "/in", "/out", "--"].map String.toList
    let second := ["--inputFile", "a.js", "/in", "/out", "-v", "--"].map String.toList
    withoutFlags first = withoutFlags second ∧ verbosityFlags first ≤ verbosityFlags second ∧
      (run .bare {} oneExport first).ending = .exit 0 ∧
      (run .bare {} oneExport second).ending = .exit 2 := by
  decide +kernel

end CommandLine

end ExportDocs
