/-
# ExportDocs.Proofs.CommandLine.Flags -- flags that raise the verbosity

A flag does nothing but raise the verbosity, with one exception: it stands between what was taken
before it and what comes after it.  An option does not find its value behind a flag, and a
separator is let pass only right after a place.  Flags that stand apart from both can be left out,
and only the verbosity of what is asked for changes (`take_plain`).

Without flags the verbosity is the first one, whatever else is asked for (`verbosity_of_plain`).
-/
import ExportDocs.Proofs.CommandLine.Take
import Mathlib.Data.List.Chain

namespace ExportDocs

set_option autoImplicit false

/-! ## Flags that raise the verbosity -/

namespace Argument

/-- How much an argument raises the verbosity that does nothing else. -/
def flags : Argument → Nat
  | .letters .verbosity more => if more.all (· == 'v') then more.length + 1 else 0
  | .long .verbosity none => 1
  | _ => 0

/-- Whether an argument does nothing but raise the verbosity. -/
def isFlag (argument : Argument) : Bool := argument.flags != 0

theorem isFlag_iff {argument : Argument} : argument.isFlag ↔
    argument = .long .verbosity none ∨
      ∃ more : Text, argument = .letters .verbosity more ∧ more.all (· == 'v') := by
  unfold isFlag
  fun_cases flags argument with
  | case1 more all => exact iff_of_true (by simp) (.inr ⟨more, rfl, all⟩)
  | case2 more other =>
      refine iff_of_false (by simp) ?_
      rintro (same | ⟨_, same, all⟩)
      · cases same
      · cases same
        exact other all
  | case3 => simp
  | case4 argument notLetters notLong =>
      refine iff_of_false (by simp) ?_
      rintro (rfl | ⟨more, rfl, -⟩)
      · exact notLong rfl
      · exact notLetters more rfl

/-- Whether an argument takes the next one as its value. -/
def wantsValue : Argument → Bool
  | .long switch none => switch.hasValue
  | _ => false

/-- Two arguments may follow each other: a flag does not stand where a value is wanted, nor before
the separator. -/
def Apart (argument next : Argument) : Prop :=
  ¬ (argument.wantsValue ∧ next.isFlag) ∧ ¬ (argument.isFlag ∧ next = .separator)

instance (argument next : Argument) : Decidable (Apart argument next) :=
  inferInstanceAs (Decidable (¬ (argument.wantsValue ∧ next.isFlag) ∧
    ¬ (argument.isFlag ∧ next = .separator)))

/-- Letters begin with an option that has a letter. -/
def IsLettered : Argument → Prop
  | .letters first _ => ∃ c, Switch.ofLetter? c = some first
  | _ => True

/-- How much arguments raise the verbosity. -/
def flagsOf : List Argument → Nat
  | [] => 0
  | argument :: rest => argument.flags + flagsOf rest

/-- The arguments without the flags. -/
def plain (arguments : List Argument) : List Argument :=
  arguments.filter fun argument => !argument.isFlag

theorem plain_cons_flag {argument : Argument} (flag : argument.isFlag) (rest : List Argument) :
    plain (argument :: rest) = plain rest :=
  List.filter_cons_of_neg (by simp [flag])

theorem plain_cons_other {argument : Argument} (other : argument.isFlag = false)
    (rest : List Argument) : plain (argument :: rest) = argument :: plain rest :=
  List.filter_cons_of_pos (by simp [other])

theorem flagsOf_cons_other {argument : Argument} (other : argument.isFlag = false)
    (rest : List Argument) : flagsOf (argument :: rest) = flagsOf rest := by
  have none : argument.flags = 0 := by simpa [isFlag] using other
  rw [flagsOf, none, Nat.zero_add]

end Argument

namespace Command

open Argument

theorem foldlM_setFlag_verbosity (flags : Nat) : ∀ command : Command,
    (List.replicate flags Switch.verbosity).foldlM setFlag command =
      .ok (command.louder flags) := by
  induction flags with
  | zero => exact fun _ => rfl
  | succ flags ih =>
      intro command
      rw [List.replicate_succ, List.foldlM_cons]
      change (List.replicate flags Switch.verbosity).foldlM setFlag (command.louder 1) = _
      rw [ih]
      simp [louder, Nat.add_assoc, Nat.add_comm 1]

theorem switchesOf_of_all {more : Text} (all : more.all (· == 'v')) :
    switchesOf .verbosity more =
      some (List.replicate (more.length + 1) .verbosity, false) := by
  induction more with
  | nil => rfl
  | cons c more ih =>
      simp only [List.all_cons, Bool.and_eq_true, beq_iff_eq] at all
      obtain ⟨rfl, others⟩ := all
      simp only [switchesOf, Switch.ofLetter?, ih others]
      rfl

/-- A flag raises the verbosity, and no place was just taken. -/
theorem take_isFlag {argument : Argument} (flag : argument.isFlag) (command : Command)
    (afterPlace : Bool) (rest : List Argument) :
    command.take afterPlace (argument :: rest) =
      (command.louder argument.flags).take false rest := by
  rcases isFlag_iff.1 flag with rfl | ⟨more, rfl, all⟩
  · rw [take_flag _ _ _ (by decide)]
    rfl
  · rw [take_letters _ _ _ (switchesOf_of_all all), foldlM_setFlag_verbosity, flags, if_pos all]
    simp [strayIf, bind, Except.bind]

/-! ## A command line without its flags -/

/-- What is asked for by what was taken. -/
def requestOf : Except Request Command → Request
  | .error request => request
  | .ok command => command.toRequest

/-- What is asked for is the same but for the verbosity; or it is refused, for a reason. -/
def Agrees (reason : Prop) (outcome other : Except Request Command) (flags : Nat) : Prop :=
  requestOf outcome = requestOf (other.map (louder flags)) ∨
    reason ∧ requestOf outcome = .unusable

/-- Something that could not be understood matters only if nothing was asked for at once. -/
theorem requestOf_strayed (outcome : Except Request Command) (flags : Nat) :
    requestOf ((outcome.map strayed).map (louder flags)) = requestOf (outcome.map (louder flags)) ∨
      requestOf ((outcome.map strayed).map (louder flags)) = .unusable := by
  cases outcome with
  | error request => exact .inl rfl
  | ok command =>
      right
      change (louder flags (strayed command)).toRequest = .unusable
      simp [toRequest, louder, strayed]

variable {reason : Prop} {outcome other : Except Request Command} {command : Command}
  {arguments : List Argument}

theorem Agrees.same (outcome : Except Request Command) : Agrees reason outcome outcome 0 := by
  left
  cases outcome <;> rfl

theorem Agrees.of_louder {flags more : Nat} {afterPlace : Bool}
    (agrees : Agrees reason outcome ((command.louder flags).take afterPlace arguments) more) :
    Agrees reason outcome (command.take afterPlace arguments) (flags + more) := by
  refine agrees.imp_left fun same => ?_
  rw [same, (louder_isAside flags).take]
  cases command.take afterPlace arguments with
  | error request => rfl
  | ok next => simp [Except.map, louder, Nat.add_assoc]

/-- Where no place was just taken a separator may be refused, and nothing else changes. -/
theorem Agrees.of_false {flags : Nat}
    (agrees : Agrees reason outcome (command.take false arguments) flags)
    (misplaced : arguments.head? = some .separator → reason) (afterPlace : Bool) :
    Agrees reason outcome (command.take afterPlace arguments) flags := by
  by_cases first : arguments.head? = some .separator
  · obtain ⟨rest, rfl⟩ := List.head?_eq_some_iff.1 first
    refine agrees.elim (fun same => ?_) .inr
    cases afterPlace with
    | false => exact .inl same
    | true =>
        rw [take_separator_after]
        rcases take_separator_cases command false rest with passes | strays
        · rw [passes] at same
          exact .inl same
        · rw [strays] at same
          exact (requestOf_strayed _ _).imp same.trans
            fun refused => ⟨misplaced first, same.trans refused⟩
  · rwa [← take_afterPlace first command]

/-- If the first of the remaining arguments is a separator, a flag stands right before it. -/
theorem not_isChain_of_head_plain {flag : Argument} (isFlag : flag.isFlag) :
    (plain arguments).head? = some .separator → ¬ (flag :: arguments).IsChain Apart := by
  induction arguments generalizing flag with
  | nil => simp [plain]
  | cons argument rest ih =>
      intro first chain
      obtain ⟨apart, later⟩ := List.isChain_cons_cons.1 chain
      cases here : argument.isFlag with
      | true =>
          rw [plain_cons_flag here] at first
          exact ih here first later
      | false =>
          rw [plain_cons_other here, List.head?_cons, Option.some.injEq] at first
          exact apart.2 ⟨isFlag, first⟩

/-- After a separator there are no flags. -/
def SeparatorEnds (arguments : List Argument) : Prop :=
  ∀ rest, .separator :: rest <:+ arguments → ∀ argument ∈ rest, argument.isFlag = false

theorem SeparatorEnds.of_cons {argument : Argument} (ends : SeparatorEnds (argument :: arguments)) :
    SeparatorEnds arguments :=
  fun rest here => ends rest (here.trans (List.suffix_cons _ _))

theorem plain_of_no_flags (none : ∀ argument ∈ arguments, argument.isFlag = false) :
    plain arguments = arguments ∧ flagsOf arguments = 0 := by
  induction arguments with
  | nil => exact ⟨rfl, rfl⟩
  | cons argument rest ih =>
      obtain ⟨here, later⟩ := List.forall_mem_cons.1 none
      rw [plain_cons_other here, flagsOf_cons_other here, (ih later).1]
      exact ⟨rfl, (ih later).2⟩

/-- An option takes the same value without the flags, unless a flag stands where the value should
be. -/
theorem agrees_of_wantsValue {switch : Switch} (hasValue : switch.hasValue) (afterPlace : Bool)
    {rest : List Argument} (apart : ¬ (Argument.long switch none :: rest).IsChain Apart → reason)
    (further : ∀ text later, rest = .place text :: later → ∀ next : Command,
      Agrees reason (next.take false later) (next.take false (plain later)) (flagsOf later)) :
    Agrees reason (command.take afterPlace (.long switch none :: rest))
      (command.take afterPlace (.long switch none :: plain rest)) (flagsOf rest) := by
  have refused : ∀ {others : List Argument}, (∀ value later, others ≠ .place value :: later) →
      command.take afterPlace (.long switch none :: others) = .error .unusable :=
    fun noPlace => take_no_value _ _ hasValue noPlace
  cases rest with
  | nil => exact .same _
  | cons next later =>
      cases flag : next.isFlag with
      | true =>
          refine .inr ⟨apart fun chain => (List.isChain_cons_cons.1 chain).1.1 ⟨hasValue, flag⟩, ?_⟩
          rw [refused]
          · rfl
          · rintro value _ ⟨⟩
            cases flag
      | false =>
          rw [plain_cons_other flag, flagsOf_cons_other flag]
          cases next with
          | place text =>
              rw [take_next_value _ _ _ hasValue, take_next_value _ _ _ hasValue]
              exact further text later rfl _
          | _ =>
              rw [refused (by simp), refused (by simp)]
              exact .inl rfl

/-- **Flags only raise the verbosity, if they stand apart.** -/
theorem take_plain : ∀ (arguments : List Argument) (command : Command) (afterPlace : Bool),
    SeparatorEnds arguments → (¬ arguments.IsChain Apart → reason) →
    Agrees reason (command.take afterPlace arguments) (command.take afterPlace (plain arguments))
      (flagsOf arguments)
  | [], command, afterPlace, _, _ => .same _
  | argument :: rest, command, afterPlace, ends, apart => by
      have apartRest : ¬ rest.IsChain Apart → reason := fun no => apart fun chain => no chain.tail
      have further := take_plain rest
      cases flag : argument.isFlag with
      | true =>
          -- The flag ends being right after a place; without it a separator may still be let pass.
          rw [take_isFlag flag, plain_cons_flag flag, flagsOf]
          refine ((further _ false ends.of_cons apartRest).of_louder).of_false ?_ afterPlace
          exact fun first => apart (not_isChain_of_head_plain flag first)
      | false =>
          rw [plain_cons_other flag, flagsOf_cons_other flag]
          cases argument with
          | place text => exact further _ _ ends.of_cons apartRest
          | separator =>
              obtain ⟨same, none⟩ := plain_of_no_flags (ends rest List.suffix_rfl)
              rw [same, none]
              exact .same _
          | unknown =>
              rw [take_unknown, take_unknown]
              exact further _ _ ends.of_cons apartRest
          | letters first more =>
              cases meant : switchesOf first more with
              | none =>
                  rw [take_letters_none _ _ _ meant, take_letters_none _ _ _ meant]
                  exact .inl rfl
              | some found =>
                  obtain ⟨switches, stray⟩ := found
                  rw [take_letters _ _ _ meant, take_letters _ _ _ meant]
                  cases switches.foldlM setFlag command with
                  | error request => exact .inl rfl
                  | ok next => exact further _ _ ends.of_cons apartRest
          | long switch value =>
              by_cases hasValue : switch.hasValue
              · cases value with
                | some value =>
                    rw [take_value _ _ _ hasValue, take_value _ _ _ hasValue]
                    exact further _ _ ends.of_cons apartRest
                | none =>
                    refine agrees_of_wantsValue hasValue afterPlace apart ?_
                    rintro text later rfl next
                    exact take_plain later next false ends.of_cons.of_cons
                      fun no => apartRest fun chain => no chain.tail
              · cases value with
                | some value =>
                    rw [take_needless_value _ _ _ hasValue, take_needless_value _ _ _ hasValue]
                    exact .inl rfl
                | none =>
                    rw [take_flag _ _ _ hasValue, take_flag _ _ _ hasValue]
                    cases command.setFlag switch with
                    | error request => exact .inl rfl
                    | ok next => exact further _ _ ends.of_cons apartRest
  termination_by arguments => arguments.length

/-! ## What is asked for without flags has the first verbosity -/

theorem ofLetter?_cases {c : Char} {switch : Switch} (letter : Switch.ofLetter? c = some switch) :
    c = 'v' ∧ switch = .verbosity ∨ switch = .version ∨ switch = .help := by
  unfold Switch.ofLetter? at letter
  split at letter <;> cases letter <;> simp

theorem switchesOf_cases {first : Switch} {c : Char} {more : Text} {switches : List Switch}
    {stray : Bool} (meant : switchesOf first (c :: more) = some (switches, stray)) :
    switches = [first] ∧ stray = true ∨ ∃ next rest, Switch.ofLetter? c = some next ∧
      switchesOf next more = some (rest, stray) ∧ switches = first :: rest := by
  rw [switchesOf] at meant
  split at meant
  · cases meant
  · cases letter : Switch.ofLetter? c with
    | none =>
        rw [letter] at meant
        cases meant
        exact .inl ⟨rfl, rfl⟩
    | some next =>
        rw [letter] at meant
        obtain ⟨⟨rest, stray'⟩, further, same⟩ := Option.map_eq_some_iff.1 meant
        cases same
        exact .inr ⟨next, rest, rfl, further, rfl⟩

/-- Letters that begin with a request ask for it at once. -/
theorem foldlM_switchesOf_ne_ok {first : Switch} {more : Text} {switches : List Switch}
    {stray : Bool} {request : Request} (meant : switchesOf first more = some (switches, stray))
    (asks : ∀ command : Command, command.setFlag first = .error request) (next : Command) :
    switches.foldlM setFlag command ≠ .ok next := by
  have begins : ∃ rest, switches = first :: rest := by
    cases more with
    | nil =>
        cases meant
        exact ⟨[], rfl⟩
    | cons c more =>
        rcases switchesOf_cases meant with ⟨same, -⟩ | ⟨_, rest, -, -, same⟩
        · exact ⟨[], same⟩
        · exact ⟨rest, same⟩
  obtain ⟨rest, rfl⟩ := begins
  rw [List.foldlM_cons, asks]
  rintro ⟨⟩

/-- Letters that are no flag and ask for nothing at once hold a stray letter. -/
theorem stray_of_other {more : Text} (other : ¬ more.all (· == 'v')) {switches : List Switch}
    {stray : Bool} (meant : switchesOf .verbosity more = some (switches, stray)) {next : Command}
    (taken : switches.foldlM setFlag command = .ok next) : stray = true := by
  induction more generalizing switches command with
  | nil => simp at other
  | cons c more ih =>
      rcases switchesOf_cases meant with ⟨-, isStray⟩ | ⟨second, rest, letter, further, rfl⟩
      · exact isStray
      · change rest.foldlM setFlag (command.louder 1) = .ok next at taken
        rcases ofLetter?_cases letter with ⟨rfl, rfl⟩ | rfl | rfl
        · exact ih (by simpa using other) further taken
        · exact absurd taken (foldlM_switchesOf_ne_ok further (fun _ => rfl) next)
        · exact absurd taken (foldlM_switchesOf_ne_ok further (fun _ => rfl) next)

theorem foldlM_setFlag_ne_run (switches : List Switch) (options : Options) :
    ∀ command : Command, switches.foldlM setFlag command ≠ .error (.run options) := by
  induction switches with
  | nil => rintro command ⟨⟩
  | cons switch switches ih =>
      intro command
      rw [List.foldlM_cons]
      cases switch with
      | version => rintro ⟨⟩
      | help => rintro ⟨⟩
      | _ => exact ih _

/-- An argument that is no flag, and that begins with a letter if it has letters. -/
def IsPlain (argument : Argument) : Prop :=
  argument.isFlag = false ∧ argument.IsLettered

theorem IsPlain.stray {first : Switch} {more : Text} (isPlain : IsPlain (.letters first more))
    {switches : List Switch} {stray : Bool}
    (meant : switchesOf first more = some (switches, stray)) {next : Command}
    (taken : switches.foldlM setFlag command = .ok next) : stray = true := by
  obtain ⟨other, c, letter⟩ := isPlain
  rcases ofLetter?_cases letter with ⟨rfl, rfl⟩ | rfl | rfl
  · refine stray_of_other (fun all => ?_) meant taken
    rw [isFlag_iff.2 (.inr ⟨more, rfl, all⟩)] at other
    cases other
  · exact absurd taken (foldlM_switchesOf_ne_ok meant (fun _ => rfl) next)
  · exact absurd taken (foldlM_switchesOf_ne_ok meant (fun _ => rfl) next)

theorem IsPlain.setFlag {switch : Switch} (isPlain : IsPlain (.long switch none)) {next : Command}
    (taken : command.setFlag switch = .ok next) :
    next.verbosity = command.verbosity ∧ next.stray = command.stray := by
  obtain ⟨other, -⟩ := isPlain
  cases switch with
  | verbosity => cases other
  | version => cases taken
  | help => cases taken
  | _ =>
      cases taken
      exact ⟨rfl, rfl⟩

theorem addPlace_verbosity (text : Text) :
    (command.addPlace text).verbosity = command.verbosity ∧
      ((command.addPlace text).stray = false → command.stray = false) := by
  unfold addPlace
  split <;> simp

theorem setValue_verbosity (value : Text) (switch : Switch) :
    (command.setValue value switch).verbosity = command.verbosity ∧
      (command.setValue value switch).stray = command.stray := by
  cases switch <;> exact ⟨rfl, rfl⟩

/-- If plain arguments are understood, then so is all before them, and the verbosity stays what it
was. -/
theorem verbosity_of_plain {afterPlace : Bool} {final : Command}
    (plain : ∀ argument ∈ arguments, IsPlain argument)
    (taken : command.take afterPlace arguments = .ok final) (understood : final.stray = false) :
    command.stray = false ∧ final.verbosity = command.verbosity := by
  have strayIf_stray : ∀ {command : Command} {stray : Bool},
      (command.strayIf stray).stray = false → command.stray = false ∧ stray = false :=
    fun none => Bool.or_eq_false_iff.1 none
  fun_induction Command.take command afterPlace arguments with
  | case1 command =>
      cases taken
      exact ⟨understood, rfl⟩
  | case2 command _ text rest ih =>
      obtain ⟨before, same⟩ := ih (List.forall_mem_cons.1 plain).2 taken
      obtain ⟨verbosity, stray⟩ := command.addPlace_verbosity text
      exact ⟨stray before, same.trans verbosity⟩
  | case3 command afterPlace rest allowed ih =>
      obtain ⟨before, same⟩ := ih (List.forall_mem_cons.1 plain).2 taken
      exact ⟨(strayIf_stray before).1, same⟩
  | case4 command _ rest ih =>
      obtain ⟨before, -⟩ := ih (List.forall_mem_cons.1 plain).2 taken
      cases before
  | case5 => cases taken
  | case6 command _ first more rest switches stray meant ih =>
      obtain ⟨here, later⟩ := List.forall_mem_cons.1 plain
      cases set : switches.foldlM setFlag command with
      | error request =>
          rw [set] at taken
          cases taken
      | ok next =>
          rw [set] at taken
          -- Letters that are no flag are never understood: a stray one is among them.
          obtain ⟨before, -⟩ := ih next later taken
          rw [here.stray meant set] at before
          cases (strayIf_stray before).2
  | case7 command _ switch hasValue value rest ih =>
      obtain ⟨before, same⟩ := ih (List.forall_mem_cons.1 plain).2 taken
      obtain ⟨verbosity, stray⟩ := command.setValue_verbosity value switch
      exact ⟨stray.symm.trans before, same.trans verbosity⟩
  | case8 command _ switch hasValue value rest ih =>
      obtain ⟨before, same⟩ :=
        ih (List.forall_mem_cons.1 (List.forall_mem_cons.1 plain).2).2 taken
      obtain ⟨verbosity, stray⟩ := command.setValue_verbosity value switch
      exact ⟨stray.symm.trans before, same.trans verbosity⟩
  | case9 => cases taken
  | case10 => cases taken
  | case11 command _ switch value rest noValue given ih =>
      obtain ⟨here, later⟩ := List.forall_mem_cons.1 plain
      rw [Option.not_isSome_iff_eq_none] at given
      subst given
      cases set : command.setFlag switch with
      | error request =>
          rw [set] at taken
          cases taken
      | ok next =>
          rw [set] at taken
          obtain ⟨before, same⟩ := ih next later taken
          obtain ⟨verbosity, stray⟩ := here.setFlag set
          exact ⟨stray.symm.trans before, same.trans verbosity⟩

/-- Whatever is asked for at once, it is no run. -/
theorem take_ne_run (command : Command) (afterPlace : Bool) (arguments : List Argument)
    (options : Options) : command.take afterPlace arguments ≠ .error (.run options) := by
  fun_induction Command.take command afterPlace arguments with
  | case1 | case5 | case9 | case10 => simp
  | case2 _ _ _ _ ih | case3 _ _ _ _ ih | case4 _ _ _ ih | case7 _ _ _ _ _ _ ih
  | case8 _ _ _ _ _ _ ih => exact ih
  | case6 command _ _ _ _ switches _ _ ih =>
      cases set : switches.foldlM setFlag command with
      | error request =>
          rintro ⟨⟩
          exact foldlM_setFlag_ne_run switches options command set
      | ok next => exact ih next
  | case11 command _ switch _ _ _ _ ih =>
      cases set : command.setFlag switch with
      | error request =>
          rintro ⟨⟩
          cases switch <;> cases set
      | ok next => exact ih next

end Command

end ExportDocs
