/-
# ExportDocs.Proofs.CommandLine.Take -- taking arguments from left to right

One equation for each kind of argument says what taking it does, so that later proofs need not open
the recursion.  A change of the command that no later argument meets may as well be made after all
of them (`IsAside.take`): raising the verbosity is one, and so is finding something that could not
be understood.
-/
import ExportDocs.CommandLine

namespace ExportDocs

set_option autoImplicit false

namespace Command

/-! ## One equation for each kind of argument -/

/-- The command, with something that could not be understood if `stray` says so. -/
def strayIf (command : Command) (stray : Bool) : Command :=
  { command with stray := command.stray || stray }

section Take

variable (command : Command) (afterPlace : Bool) (rest : List Argument)

theorem take_separator : command.take afterPlace (.separator :: rest) =
    (command.strayIf !(afterPlace || (command.places.length < placesWanted && !rest.isEmpty))).take
      false rest := rfl

theorem take_unknown :
    command.take afterPlace (.unknown :: rest) = (command.strayIf true).take false rest := by
  simp [Command.take, strayIf]

theorem take_letters {first : Switch} {letters : Text} {switches : List Switch} {stray : Bool}
    (meant : switchesOf first letters = some (switches, stray)) :
    command.take afterPlace (.letters first letters :: rest) =
      switches.foldlM setFlag command >>= fun next => (next.strayIf stray).take false rest := by
  simp only [Command.take, meant]
  rfl

theorem take_letters_none {first : Switch} {letters : Text}
    (meant : switchesOf first letters = none) :
    command.take afterPlace (.letters first letters :: rest) = .error .unusable := by
  simp only [Command.take, meant]

theorem take_value {switch : Switch} (hasValue : switch.hasValue) (value : Text) :
    command.take afterPlace (.long switch (some value) :: rest) =
      (command.setValue value switch).take false rest := by
  simp [Command.take, hasValue]

theorem take_next_value {switch : Switch} (hasValue : switch.hasValue) (value : Text) :
    command.take afterPlace (.long switch none :: .place value :: rest) =
      (command.setValue value switch).take false rest := by
  simp [Command.take, hasValue]

variable {rest} in
theorem take_no_value {switch : Switch} (hasValue : switch.hasValue)
    (noPlace : ∀ value later, rest ≠ .place value :: later) :
    command.take afterPlace (.long switch none :: rest) = .error .unusable := by
  rw [Command.take, if_pos hasValue]
  exact noPlace

theorem take_needless_value {switch : Switch} (noValue : ¬ switch.hasValue) (value : Text) :
    command.take afterPlace (.long switch (some value) :: rest) = .error .unusable := by
  simp [Command.take, noValue]

theorem take_flag {switch : Switch} (noValue : ¬ switch.hasValue) :
    command.take afterPlace (.long switch none :: rest) =
      command.setFlag switch >>= fun next => next.take false rest := by
  rw [Command.take.eq_def]
  simp [noValue]

end Take

/-- Whether a place was just taken matters only before a separator. -/
theorem take_afterPlace {arguments : List Argument} (first : arguments.head? ≠ some .separator)
    (command : Command) (afterPlace : Bool) :
    command.take false arguments = command.take afterPlace arguments := by
  cases arguments with
  | nil => rfl
  | cons argument rest =>
      cases argument with
      | separator => simp at first
      | long switch value => rw [Command.take.eq_def, Command.take.eq_def _ afterPlace]
      | _ => rfl

/-! ## Changes that what is taken later does not meet -/

/-- What is taken later neither sees the change nor undoes it. -/
structure IsAside (change : Command → Command) : Prop where
  places : ∀ command, (change command).places = command.places
  addPlace : ∀ command text, (change command).addPlace text = change (command.addPlace text)
  setValue : ∀ command value switch,
    (change command).setValue value switch = change (command.setValue value switch)
  setFlag : ∀ command switch,
    (change command).setFlag switch = (command.setFlag switch).map change
  strayIf : ∀ command stray, (change command).strayIf stray = change (command.strayIf stray)

variable {change : Command → Command}

theorem IsAside.foldlM_setFlag (aside : IsAside change) (switches : List Switch) :
    ∀ command, switches.foldlM Command.setFlag (change command) =
      (switches.foldlM Command.setFlag command).map change := by
  induction switches with
  | nil => exact fun _ => rfl
  | cons switch switches ih =>
      intro command
      rw [List.foldlM_cons, List.foldlM_cons, aside.setFlag]
      cases command.setFlag switch with
      | error request => rfl
      | ok next => exact ih next

/-- Such a change may as well be made at the end. -/
theorem IsAside.take (aside : IsAside change) (command : Command) (afterPlace : Bool)
    (arguments : List Argument) :
    (change command).take afterPlace arguments =
      (command.take afterPlace arguments).map change := by
  fun_induction Command.take command afterPlace arguments with
  | case1 => rfl
  | case2 command _ text rest ih => rw [Command.take, aside.addPlace, aside.places, ih]
  | case3 command afterPlace rest allowed ih =>
      rw [take_separator, aside.places, aside.strayIf]
      exact ih
  | case4 command _ rest ih =>
      rw [take_unknown, aside.strayIf, ← ih]
      simp [Command.strayIf]
  | case5 _ _ _ _ _ meant =>
      rw [take_letters_none _ _ _ meant]
      rfl
  | case6 command _ _ _ rest switches stray meant ih =>
      rw [take_letters _ _ _ meant, aside.foldlM_setFlag]
      cases switches.foldlM Command.setFlag command with
      | error request => rfl
      | ok next =>
          change ((change next).strayIf stray).take false rest = _
          rw [aside.strayIf]
          exact ih next
  | case7 command _ switch hasValue value rest ih =>
      rw [take_value _ _ _ hasValue, aside.setValue, ih]
  | case8 command _ switch hasValue value rest ih =>
      rw [take_next_value _ _ _ hasValue, aside.setValue, ih]
  | case9 command _ switch rest hasValue noPlace =>
      rw [take_no_value _ _ hasValue noPlace]
      rfl
  | case10 command _ switch value rest noValue given =>
      obtain ⟨value, rfl⟩ := Option.isSome_iff_exists.1 given
      rw [take_needless_value _ _ _ noValue]
      rfl
  | case11 command _ switch value rest noValue given ih =>
      rw [Option.not_isSome_iff_eq_none] at given
      rw [given, take_flag _ _ _ noValue, aside.setFlag]
      cases command.setFlag switch with
      | error request => rfl
      | ok next => exact ih next

/-- The command with a verbosity that is raised by a number. -/
def louder (flags : Nat) (command : Command) : Command :=
  { command with verbosity := command.verbosity + flags }

/-- The command with something that could not be understood. -/
def strayed (command : Command) : Command := { command with stray := true }

theorem louder_isAside (flags : Nat) : IsAside (louder flags) where
  places _ := rfl
  addPlace command text := by
    simp only [Command.addPlace, apply_ite (louder flags)]
    rfl
  setValue command value switch := by cases switch <;> rfl
  setFlag command switch := by
    cases switch with
    | verbosity => simp [Command.setFlag, louder, Except.map, Nat.add_right_comm]
    | _ => rfl
  strayIf _ _ := rfl

theorem strayed_isAside : IsAside strayed where
  places _ := rfl
  addPlace command text := by
    simp only [Command.addPlace, apply_ite strayed]
    rfl
  setValue command value switch := by cases switch <;> rfl
  setFlag command switch := by cases switch <;> rfl
  strayIf _ _ := rfl

/-- Right after a place a separator is let pass. -/
theorem take_separator_after (command : Command) (rest : List Argument) :
    command.take true (.separator :: rest) = command.take false rest := by
  rw [take_separator]
  simp [Command.strayIf]

/-- A separator is let pass, or it could not be understood. -/
theorem take_separator_cases (command : Command) (afterPlace : Bool) (rest : List Argument) :
    command.take afterPlace (.separator :: rest) = command.take false rest ∨
      command.take afterPlace (.separator :: rest) = (command.take false rest).map strayed := by
  rw [take_separator, ← strayed_isAside.take]
  cases !(afterPlace || (command.places.length < placesWanted && !rest.isEmpty)) with
  | false => simp [Command.strayIf]
  | true => simp [Command.strayIf, strayed]

end Command

end ExportDocs
