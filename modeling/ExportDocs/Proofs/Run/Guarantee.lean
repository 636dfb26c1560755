/-
# ExportDocs.Proofs.Run.Guarantee -- what a step guarantees about the files

A step of a run returns or ends early, and leaves files either way.  `Guarantees` says what holds of
the files before the step, after it returns and after it ends early; one rule for each way that
steps are put together carries it from the actions on files to the stages of a run.
-/
import ExportDocs.Run
import ExportDocs.Proofs.FileTree

namespace ExportDocs

set_option autoImplicit false

variable {α β ε : Type}

/-- From files with `pre`, the step returns and leaves files with `post`, or ends and leaves files
with `stop`. -/
structure Guarantees (pre : FileTree → Prop) (step : ExceptT ε (StateM World) α)
    (post : α → FileTree → Prop) (stop : ε → FileTree → Prop) : Prop where
  run : ∀ world, pre world.files →
    match step.run.run world with
    | (.ok a, after) => post a after.files
    | (.error e, after) => stop e after.files

/-- A step and the next one, from a state of any kind. -/
theorem Guarantees.run_bind {σ : Type} (step : ExceptT ε (StateM σ) α) (next : α → ExceptT ε (StateM σ) β)
    (before : σ) :
    (step >>= next).run.run before =
      match step.run.run before with
      | (.ok a, after) => (next a).run.run after
      | (.error e, after) => (.error e, after) := by
  change (match step.run.run before with
    | (outcome, after) => (ExceptT.bindCont next outcome) after) = _
  rcases step.run.run before with ⟨_ | _, after⟩ <;> rfl

namespace Guarantees

variable {pre : FileTree → Prop} {step : ExceptT ε (StateM World) α}
  {next : α → ExceptT ε (StateM World) β} {middle : α → FileTree → Prop}
  {post : β → FileTree → Prop} {stop : ε → FileTree → Prop}

theorem bind (first : Guarantees pre step middle stop)
    (rest : ∀ a, Guarantees (middle a) (next a) post stop) :
    Guarantees pre (step >>= next) post stop := by
  refine ⟨fun world holds => ?_⟩
  have ran := first.run world holds
  rw [run_bind]
  revert ran
  rcases step.run.run world with ⟨e | a, after⟩
  · exact id
  · exact (rest a).run after

theorem of_pure {a : α} (holds : ∀ tree, pre tree → middle a tree) :
    Guarantees pre (pure a) middle stop :=
  ⟨fun world => holds world.files⟩

theorem of_throw {e : ε} (holds : ∀ tree, pre tree → stop e tree) :
    Guarantees pre (throw e) middle stop :=
  ⟨fun world => holds world.files⟩

theorem of_get : Guarantees pre get (fun _ => pre) stop := ⟨fun _ holds => holds⟩

theorem of_get_fact {fact : World → Prop} (known : ∀ world, pre world.files → fact world) :
    Guarantees pre get (fun world tree => fact world ∧ pre tree) stop :=
  ⟨fun world holds => ⟨known world holds, holds⟩⟩

theorem of_modify {f : World → World} (files : ∀ world, (f world).files = world.files) :
    Guarantees pre (modify f) (fun _ => pre) stop := by
  refine ⟨fun world holds => ?_⟩
  change pre (f world).files
  rwa [files]

theorem of_fact {fact : Prop} (does : fact → Guarantees pre step middle stop) :
    Guarantees (fun tree => fact ∧ pre tree) step middle stop :=
  ⟨fun world given => (does given.1).run world given.2⟩

theorem of_true (step : ExceptT ε (StateM World) α) :
    Guarantees pre step (fun _ _ => True) fun _ _ => True := by
  refine ⟨fun world _ => ?_⟩
  rcases step.run.run world with ⟨e | a, after⟩ <;> trivial

theorem of_absurd : Guarantees (fun _ => False) step middle stop := ⟨fun _ absurd => absurd.elim⟩

theorem weaken {returned : α → FileTree → Prop} {stopped : ε → FileTree → Prop}
    (does : Guarantees pre step middle stop) (returns : ∀ a tree, middle a tree → returned a tree)
    (stops : ∀ e tree, stop e tree → stopped e tree) : Guarantees pre step returned stopped := by
  refine ⟨fun world given => ?_⟩
  have ran := does.run world given
  revert ran
  rcases step.run.run world with ⟨e | a, after⟩
  · exact stops e after.files
  · exact returns a after.files

theorem mapM {f : α → ExceptT ε (StateM World) β} (items : List α)
    (each : ∀ item ∈ items, Guarantees pre (f item) (fun _ => pre) stop) :
    Guarantees pre (items.mapM f) (fun _ => pre) stop := by
  induction items with
  | nil => exact of_pure fun _ holds => holds
  | cons item items ih =>
      rw [List.mapM_cons]
      refine .bind (each item (by simp)) fun _ => ?_
      refine .bind (ih fun other member => each other (by simp [member])) fun _ => ?_
      exact of_pure fun _ holds => holds

theorem forM {f : α → ExceptT ε (StateM World) Unit} (items : List α)
    (each : ∀ item ∈ items, Guarantees pre (f item) (fun _ => pre) stop) :
    Guarantees pre (items.forM f) (fun _ => pre) stop := by
  induction items with
  | nil => exact of_pure fun _ holds => holds
  | cons item items ih =>
      rw [List.forM_eq_forM, List.forM_cons]
      refine .bind (each item (by simp)) fun _ => ?_
      exact ih fun other member => each other (by simp [member])

end Guarantees

/-! ## Actions -/

@[simp] theorem World.logged_files (level : Level) (message : Text) (world : World) :
    (world.logged level message).files = world.files := by
  unfold World.logged
  split <;> rfl

namespace Action

variable {pre : FileTree → Prop} {stop : Error → FileTree → Prop} {base : FileTree}
  {places : List (List Text)}

theorem guarantees_log (level : Level) (message : Text) :
    Guarantees pre (Action.log level message) (fun _ => pre) stop :=
  .of_modify (World.logged_files level message)

theorem guarantees_ofExcept {cause : ε → Cause} {result : Except ε α}
    (failed : ∀ e tree, pre tree → stop (.uncaught (cause e)) tree) :
    Guarantees pre (Action.ofExcept cause result) (fun _ => pre) stop := by
  cases result with
  | ok a => exact .of_pure fun _ holds => holds
  | error e => exact .of_throw (failed e)

theorem guarantees_read {path : Path}
    (failed : ∀ fault tree, pre tree → stop (.uncaught (.file fault)) tree) :
    Guarantees pre (Action.read path) (fun _ => pre) stop :=
  .bind .of_get fun _ => guarantees_ofExcept failed

/-- An operation on the file tree that fails changes nothing. -/
theorem run_update (update : FileTree → Except FileFault FileTree) (world : World) :
    (do let files ← Action.ofExcept .file (update (← get).files)
        modify fun world => { world with files } : Action Unit).run.run world =
      match update world.files with
      | .ok files => (.ok (), { world with files })
      | .error fault => (.error (.uncaught (.file fault)), world) := by
  change (Action.ofExcept .file (update world.files) >>= fun files =>
    (modify fun world => { world with files } : Action Unit)).run.run world = _
  cases update world.files <;> rfl

theorem guarantees_write {path : Path} {text : Text}
    (failed : ∀ fault tree, base.KeptOutside places tree → stop (.uncaught (.file fault)) tree) :
    Guarantees (base.KeptOutside places) (Action.write path text)
      (fun _ => base.KeptOutside (base.placeOf path :: places)) stop := by
  refine ⟨fun world kept => ?_⟩
  rw [Action.write, run_update fun files => files.write path text]
  cases written : world.files.write path text with
  | ok files => exact kept.write written
  | error fault => exact failed fault _ kept

/-- A string that is no text leaves the file empty. -/
theorem guarantees_writeString {path : Path} {string : HostString}
    (failed : ∀ fault tree, base.KeptOutside places tree → stop (.uncaught (.file fault)) tree)
    (emptied : ∀ codes, string = .unencodable codes → ∀ fault tree,
      base.LeftEmpty places path tree → stop (.uncaught (.unencodable fault)) tree) :
    Guarantees (base.KeptOutside places) (Action.writeString path string)
      (fun _ => base.KeptOutside (base.placeOf path :: places)) stop := by
  cases string with
  | text text => exact .bind (guarantees_write failed) fun _ => .of_pure fun _ kept => kept
  | unencodable codes =>
      have opened : Guarantees (base.KeptOutside places) (Action.write path [])
          (fun _ => base.LeftEmpty places path) stop := by
        refine ⟨fun world kept => ?_⟩
        rw [Action.write, run_update fun files => files.write path []]
        cases written : world.files.write path [] with
        | ok files => exact kept.emptied written
        | error fault => exact failed fault _ kept
      exact .bind opened fun _ => .of_throw fun tree left => emptied codes rfl _ tree left

theorem guarantees_makeDirectory {path : Path}
    (failed : ∀ fault tree, base.KeptOutside places tree → stop (.uncaught (.file fault)) tree) :
    Guarantees (base.KeptOutside places) (Action.makeDirectory path)
      (fun _ => base.KeptOutside places) stop := by
  refine ⟨fun world kept => ?_⟩
  rw [Action.makeDirectory, run_update fun files => files.makeDirectory path]
  cases made : world.files.makeDirectory path with
  | ok files => exact kept.makeDirectory made
  | error fault => exact failed fault _ kept

end Action

/-! ## Steps of a run -/

/-- How a failure ends a run. -/
def Stop.ofError (error : Error) : Stop :=
  if error.isReported then .exit 1 else .failure error

namespace RunM

variable {pre : FileTree → Prop} {stop : Stop → FileTree → Prop}

theorem guarantees_print (line : Text) : Guarantees pre (RunM.print line) (fun _ => pre) stop :=
  .of_modify fun _ => rfl

theorem guarantees_log (level : Level) (message : Text) :
    Guarantees pre (RunM.log level message) (fun _ => pre) stop :=
  .of_modify (World.logged_files level message)

theorem guarantees_connect (verbosity : Nat) :
    Guarantees pre (RunM.connect verbosity) (fun _ => pre) stop :=
  .of_modify fun _ => rfl

theorem guarantees_exitWith {status : Nat} {line : Text} {post : α → FileTree → Prop}
    (holds : ∀ tree, pre tree → stop (.exit status) tree) :
    Guarantees pre (RunM.exitWith status line) post stop :=
  (guarantees_print line).bind fun _ => .of_throw holds

theorem guarantees_fail {error : Error} {post : α → FileTree → Prop}
    (holds : ∀ tree, pre tree → stop (.ofError error) tree) :
    Guarantees pre (RunM.fail error) post stop := by
  unfold RunM.fail
  unfold Stop.ofError at holds
  split <;> rename_i reported
  · exact (guarantees_print _).bind fun _ => .of_throw (by simpa [reported] using holds)
  · exact .of_throw (by simpa [reported] using holds)

theorem guarantees_act {action : Action α} {post : α → FileTree → Prop}
    (acts : Guarantees pre action post fun error => stop (.ofError error)) :
    Guarantees pre (RunM.act action) post stop := by
  have lifted : Guarantees pre (ExceptT.lift action.run : RunM (Except Error α))
      (fun result tree => (∀ a, result = .ok a → post a tree) ∧
        ∀ error, result = .error error → stop (.ofError error) tree) stop := by
    refine ⟨fun world holds => ?_⟩
    have acted := acts.run world holds
    change (∀ a, (action.run.run world).1 = .ok a → post a (action.run.run world).2.files) ∧
      ∀ error, (action.run.run world).1 = .error error →
        stop (.ofError error) (action.run.run world).2.files
    revert acted
    rcases action.run.run world with ⟨error | a, after⟩
    · intro stopped
      refine ⟨fun a eq => (by cases eq), fun other eq => ?_⟩
      obtain rfl := Except.error.inj eq
      exact stopped
    · intro acted
      refine ⟨fun b eq => ?_, fun error eq => (by cases eq)⟩
      obtain rfl := Except.ok.inj eq
      exact acted
  refine lifted.bind fun result => ?_
  cases result with
  | ok a => exact .of_pure fun _ holds => holds.1 a rfl
  | error error => exact guarantees_fail fun _ holds => holds.2 error rfl

end RunM

end ExportDocs
