/-
# ExportDocs.Proofs.Imports.Sight -- a walk depends on what it looks at

A walk records the files that it reads or fails to read and the paths that it probes.  Two file trees
look alike to it (`LooksAlike`) if they give the same answers there; which answers these are is
decided by the walk itself, on the first tree.  The walk on the second tree is then the same run:
result or failure, kept results, stack and events.

One relation carries the argument.  A step on one tree mirrors a step on another (`Mirrors`) if it
only adds events, and if the two come to the same whenever the trees look alike to the events of the
first.  Steps in sequence mirror each other because the events of the first step are still there at
the end.
-/
import ExportDocs.Proofs.FileTree.Aside
import ExportDocs.Proofs.Imports.Reuse

namespace ExportDocs

set_option autoImplicit false

open Relation (ReflTransGen)

/-! ## Trees that look alike -/

/-- The path that an event tells something about. -/
def Event.looked? : Event → Option Path
  | .read path | .unread path | .probed path => some path
  | _ => none

/-- The paths that a walk has looked at. -/
def Walk.looked (walk : Walk) : List Path := walk.events.filterMap Event.looked?

/-- Two trees give the same answer to the question that an event records: what is read at a path, or
whether something is there. -/
def Event.AnsweredAlike (before after : FileTree) : Event → Prop
  | .read path | .unread path => after.read path = before.read path
  | .probed path => after.hasPath path = before.hasPath path
  | _ => True

/-- Two trees look alike to a walk. -/
structure LooksAlike (before after : FileTree) (walk : Walk) : Prop where
  current : after.current = before.current
  answers : ∀ event ∈ walk.events, event.AnsweredAlike before after

variable {before after : FileTree}

theorem looksAlike_of_changes {walk : Walk}
    (changes : ReflTransGen (FileTree.ChangedAside walk.looked) before after) :
    LooksAlike before after walk := by
  obtain ⟨current, same⟩ := FileTree.sameAt_of_changes changes
  refine ⟨current, fun event member => ?_⟩
  have seen : ∀ path, event.looked? = some path → before.SameAt after path := fun path looked =>
    same path (List.mem_filterMap.2 ⟨event, member, looked⟩)
  cases event with
  | read path => exact (seen path rfl).read
  | unread path => exact (seen path rfl).read
  | probed path => exact (seen path rfl).hasPath
  | _ => trivial

/-! ## Steps that mirror each other -/

namespace WalkM

variable {α β : Type}

/-- A step on one tree and a step on another, as far as events tell the trees apart. -/
structure Mirrors (before after : FileTree) (step step' : WalkM α) : Prop where
  grows : ∀ walk, walk.events <:+ (step.runFrom walk).2.events
  same : ∀ walk, (∀ event ∈ (step.runFrom walk).2.events, event.AnsweredAlike before after) →
    step'.runFrom walk = step.runFrom walk

namespace Mirrors

/-- A step that does not look at the files mirrors itself. -/
theorem refl {step : WalkM α} (grows : ∀ walk, walk.events <:+ (step.runFrom walk).2.events) :
    Mirrors before after step step :=
  ⟨grows, fun _ _ => rfl⟩

theorem of_noted {step : WalkM α} (events : Walk → List Event)
    (notes : ∀ walk, (step.runFrom walk).2 = walk.noted (events walk)) :
    Mirrors before after step step :=
  refl fun walk => by
    rw [notes, Walk.noted_events]
    exact List.suffix_append _ _

theorem pure (a : α) : Mirrors before after (Pure.pure a : WalkM α) (Pure.pure a) :=
  .of_noted (fun _ => []) fun _ => rfl

theorem get : Mirrors before after (MonadState.get : WalkM Walk) MonadState.get :=
  .of_noted (fun _ => []) fun _ => rfl

theorem note (event : Event) : Mirrors before after (WalkM.note event) (WalkM.note event) :=
  .of_noted (fun _ => [event]) fun _ => rfl

theorem raise (error : Error) :
    Mirrors before after (WalkM.raise error : WalkM α) (WalkM.raise error) :=
  .of_noted (fun _ => [.raised error]) fun _ => rfl

theorem ofExcept (outcome : Except Error α) :
    Mirrors before after (WalkM.ofExcept outcome) (WalkM.ofExcept outcome) := by
  cases outcome with
  | ok a => exact pure a
  | error error => exact raise error

/-- The first step's events are among those at the end, so the first steps come to the same, and the
second steps start from there. -/
theorem bind {step step' : WalkM α} {next next' : α → WalkM β}
    (first : Mirrors before after step step')
    (second : ∀ a, Mirrors before after (next a) (next' a)) :
    Mirrors before after (step >>= next) (step' >>= next') where
  grows walk := by
    have earlier := first.grows walk
    rw [runFrom_bind]
    rcases ran : step.runFrom walk with ⟨error | a, middle⟩
    · rwa [ran] at earlier
    · rw [ran] at earlier
      exact earlier.trans ((second a).grows middle)
  same walk alike := by
    have earlier := first.same walk
    rw [runFrom_bind] at alike ⊢
    rw [runFrom_bind]
    rcases ran : step.runFrom walk with ⟨error | a, middle⟩
    · rw [ran] at alike earlier
      rw [earlier alike]
    · rw [ran] at alike earlier
      rw [earlier fun event member => alike event (((second a).grows middle).subset member)]
      exact (second a).same middle alike

theorem map {step step' : WalkM α} (mirrors : Mirrors before after step step') (f : α → β) :
    Mirrors before after (f <$> step) (f <$> step') := by
  rw [map_eq_pure_bind, map_eq_pure_bind]
  exact mirrors.bind fun a => pure (f a)

theorem mapM {f f' : α → WalkM β} (each : ∀ a, Mirrors before after (f a) (f' a))
    (questions : List α) : Mirrors before after (questions.mapM f) (questions.mapM f') := by
  induction questions with
  | nil => exact pure []
  | cons question rest ih =>
      rw [List.mapM_cons, List.mapM_cons]
      exact (each question).bind fun a => ih.bind fun results => pure (a :: results)

theorem lift {step step' : WalkM α} (mirrors : Mirrors before after step step') :
    Mirrors before after (ExceptT.lift step.run : WalkM (Except Error α))
      (ExceptT.lift step'.run) where
  grows walk := mirrors.grows walk
  same walk alike := by
    rw [runFrom_lift, runFrom_lift, mirrors.same walk alike]

theorem within {step step' : WalkM α} (mirrors : Mirrors before after step step') (path : Path) :
    Mirrors before after (WalkM.within path step) (WalkM.within path step') := by
  have restacks : ∀ stack, Mirrors before after (setStack stack) (setStack stack) := fun stack =>
    refl fun walk => List.suffix_cons _ _
  refine get.bind fun walk => (ofExcept _).bind fun stack => (restacks stack).bind fun _ => ?_
  refine mirrors.lift.bind fun outcome => get.bind fun left => (restacks _).bind fun _ => ?_
  exact .of_noted (fun _ => []) fun _ => rfl

end Mirrors

end WalkM

/-! ## The steps of a project -/

/-- The first candidate that exists is the same one if the candidates that were tried exist alike. -/
theorem Resolution.search_congr {isThere isThere' : Path → Bool} : ∀ {paths : List Path},
    (∀ path ∈ (search isThere paths).probed, isThere' path = isThere path) →
    search isThere' paths = search isThere paths
  | [], _ => rfl
  | path :: rest, alike => by
      rw [search] at alike ⊢
      rw [search]
      cases there : isThere path with
      | true =>
          have here : isThere' path = isThere path := alike path (by simp [there])
          simp only [here, there, if_true]
      | false =>
          simp only [there, Bool.false_eq_true, if_false, List.forall_mem_cons] at alike
          simp only [alike.1, search_congr alike.2]

namespace Project

/-- The project with other files. -/
def withFiles (project : Project) (files : FileTree) : Project := { project with files }

variable {project : Project}

theorem log_mirrors (level : Level) (message : Text) :
    WalkM.Mirrors project.files after (project.log level message)
      ((project.withFiles after).log level message) :=
  .of_noted (fun _ => project.logEvents level message) fun walk => by rw [runFrom_log]

theorem relative_withFiles (current : after.current = project.files.current) (path : Path) :
    (project.withFiles after).relative path = project.relative path := by
  rw [relative, relative, withFiles, current]

theorem lookup_withFiles {base : Path} {specifier : Text}
    (alike : ∀ path ∈ (project.lookup base specifier).probed,
      after.hasPath path = project.files.hasPath path) :
    (project.withFiles after).lookup base specifier = project.lookup base specifier := by
  unfold lookup Resolution.lookup at alike ⊢
  dsimp only [withFiles] at alike ⊢
  split at alike
  · rename_i direct
    simp only [direct, if_true]
  · rename_i direct
    simp only [direct]
    exact Resolution.search_congr alike

theorem readSource_mirrors (path : Path) :
    WalkM.Mirrors project.files after (project.readSource path)
      ((project.withFiles after).readSource path) where
  grows walk := by
    rw [runFrom_readSource]
    cases project.files.read path with
    | ok source => exact List.suffix_append _ _
    | error fault => exact List.suffix_append _ _
  same walk alike := by
    -- Whether the file is read or not, the event names the path.
    have answered : (project.withFiles after).files.read path = project.files.read path := by
      rw [runFrom_readSource] at alike
      cases read : project.files.read path with
      | ok source =>
          rw [read] at alike
          exact (alike (.read path) (by simp)).trans read
      | error fault =>
          rw [read] at alike
          exact (alike (.unread path) (by simp)).trans read
    rw [runFrom_readSource, runFrom_readSource, answered]

theorem probed_mem_searchEvents {base path : Path} {specifier : Text}
    (probed : path ∈ (project.lookup base specifier).probed) :
    .probed path ∈ project.searchEvents base specifier := by
  simp [searchEvents, probed]

theorem resolveImport_mirrors (specifier : Text) :
    WalkM.Mirrors project.files after (project.resolveImport specifier)
      ((project.withFiles after).resolveImport specifier) := by
  have unfolded : ∀ (project : Project) (walk : Walk), walk.stack = [] →
      (project.resolveImport specifier).runFrom walk =
        (.error (.uncaught .emptyStack), walk.noted [.raised (.uncaught .emptyStack)]) := by
    intro project walk empty
    simp [resolveImport, WalkM.runFrom_bind, empty, Stack.top, WalkM.ofExcept]
  constructor
  · intro walk
    cases top : walk.stack with
    | nil =>
        rw [unfolded project walk top]
        exact List.suffix_append _ _
    | cons base outer =>
        rw [project.runFrom_resolveImport top]
        exact List.suffix_append _ _
  · intro walk alike
    cases top : walk.stack with
    | nil => rw [unfolded _ walk top, unfolded _ walk top]
    | cons base outer =>
        rw [project.runFrom_resolveImport top] at alike ⊢
        rw [(project.withFiles after).runFrom_resolveImport top]
        have same : (project.withFiles after).lookup base specifier =
            project.lookup base specifier := lookup_withFiles fun path probed =>
          alike (.probed path) (List.mem_append_left _ (probed_mem_searchEvents probed))
        simp only [searchEvents, same]
        rfl

theorem importSymbols_mirrors {process process' : Path → WalkM FileResult}
    (processes : ∀ path, WalkM.Mirrors project.files after (process path) (process' path))
    (specifier : Text) :
    WalkM.Mirrors project.files after (project.importSymbols process specifier)
      ((project.withFiles after).importSymbols process' specifier) := by
  unfold importSymbols
  change WalkM.Mirrors _ _ _ (if project.settings.isLocal specifier then _ else _)
  split
  · exact (resolveImport_mirrors specifier).bind fun path =>
      (processes path).bind fun result => .pure result.symbols
  · exact .pure []

theorem conclude_mirrors (current : after.current = project.files.current) (path : Path)
    (outcome : Except Error (Except Cause Extraction)) :
    WalkM.Mirrors project.files after (project.conclude path outcome)
      ((project.withFiles after).conclude path outcome) where
  grows walk := by
    rw [runFrom_conclude]
    exact List.suffix_append _ _
  same walk _ := by
    rw [runFrom_conclude, runFrom_conclude]
    have same : (project.withFiles after).verdictEvents path outcome =
        project.verdictEvents path outcome := by
      unfold verdictEvents
      rw [relative_withFiles current]
      rfl
    rw [same]

theorem extractFile_mirrors (modules : project.ReadsModules)
    (current : after.current = project.files.current) {resolve resolve' : Text → WalkM (List Symbol)}
    (resolves : ∀ specifier, WalkM.Mirrors project.files after (resolve specifier)
      (resolve' specifier)) (path : Path) (source : Text) :
    WalkM.Mirrors project.files after (project.extractFile resolve path source)
      ((project.withFiles after).extractFile resolve' path source) := by
  obtain ⟨compose, factors⟩ := modules.asks (project.relative path) source
  have asks : WalkM.Mirrors project.files after
      (project.engine.run (project.relative path) source resolve)
      (project.engine.run (project.relative path) source resolve') := by
    rw [factors WalkM resolve, factors WalkM resolve']
    exact (WalkM.Mirrors.mapM resolves _).map compose
  unfold extractFile
  rw [relative_withFiles current]
  exact .bind .get fun walk => .bind (log_mirrors _ _) fun _ => .bind (.note _) fun _ =>
    .bind asks.lift fun outcome => conclude_mirrors current path outcome

theorem processNormal_mirrors (modules : project.ReadsModules)
    (current : after.current = project.files.current) {resolve resolve' : Text → WalkM (List Symbol)}
    (resolves : ∀ specifier, WalkM.Mirrors project.files after (resolve specifier)
      (resolve' specifier)) (path : Path) :
    WalkM.Mirrors project.files after (project.processNormal resolve path)
      ((project.withFiles after).processNormal resolve' path) := by
  refine .bind .get fun walk => ?_
  have same : (project.withFiles after).kept walk path = project.kept walk path := rfl
  simp only [same]
  cases project.kept walk path with
  | some result => exact .bind (log_mirrors _ _) fun _ => .pure result
  | none =>
      refine .bind (readSource_mirrors path) fun source => .bind
        ((extractFile_mirrors modules current resolves path source).within path)
        fun extraction => .refl fun walk => ?_
      rw [runFrom_keep, keeping_events]

/-- **A walk on one tree mirrors the walk on another.** -/
theorem processWith_mirrors (modules : project.ReadsModules)
    (current : after.current = project.files.current) (limit : Nat) : ∀ path : Path,
    WalkM.Mirrors project.files after (project.processWith limit path)
      ((project.withFiles after).processWith limit path) := by
  induction limit with
  | zero => exact fun _ => .raise _
  | succ limit ih =>
      exact fun path => processNormal_mirrors modules current
        (fun specifier => importSymbols_mirrors ih specifier) path.normalize

theorem HasRoom.mono {Proper : Path → Prop} {bound limit more : Nat} {stack : Stack} {path : Path}
    (room : project.HasRoom Proper bound limit stack path) (enough : limit ≤ more) :
    project.HasRoom Proper bound more stack path :=
  ⟨room.1, room.2.1, Nat.lt_of_lt_of_le room.2.2 (Nat.add_le_add_right enough _)⟩

/-- The limits of two projects differ with their files, but a path with a root does not meet them. -/
theorem process_eq_processWith (modules : project.ReadsModules) {entry : Path}
    (rooted : entry.root ≠ .current) (cache : List (Path × FileResult)) {limit : Nat}
    (enough : project.limit ≤ limit) :
    (project.process entry).runFrom { cache } =
      (project.processWith limit entry).runFrom { cache } :=
  processWith_limit_irrelevant modules project.bounded_of_rooted _ _ _ _
    (project.hasRoom_start rooted) ((project.hasRoom_start rooted).mono enough)

/-- **A walk depends only on what it looks at.**  Let another tree look alike to the walk of an entry:
wherever the walk read a file or failed to, the same is read or the same failure met, and wherever it
probed a path, the same is found.  Or let the other tree be what is left after files were added,
edited and deleted aside from the paths that the walk looked at.  Then the walk on the other tree is
the same in all respects, with reuse or without, also where it fails: under any one limit to the
nesting, and for an entry with a root under the limits of the projects themselves. -/
theorem process_depends_on_sight (settings : Settings) (files after : FileTree) (root entry : Path)
    (verbosity : Nat) (reuse : Bool) (cache : List (Path × FileResult)) :
    let project := (ofModules settings files root verbosity).withReuse reuse
    let project' := (ofModules settings after root verbosity).withReuse reuse
    (∀ limit,
      LooksAlike files after ((project.processWith limit entry).runFrom { cache }).2 ∨
        ReflTransGen (FileTree.ChangedAside
          ((project.processWith limit entry).runFrom { cache }).2.looked) files after →
      (project'.processWith limit entry).runFrom { cache } =
        (project.processWith limit entry).runFrom { cache }) ∧
    (entry.root ≠ .current →
      LooksAlike files after ((project.process entry).runFrom { cache }).2 ∨
        ReflTransGen (FileTree.ChangedAside
          ((project.process entry).runFrom { cache }).2.looked) files after →
      (project'.process entry).runFrom { cache } = (project.process entry).runFrom { cache }) := by
  intro project project'
  have modules : project.ReadsModules := rfl
  have modules' : project'.ReadsModules := rfl
  have agree : ∀ limit,
      LooksAlike files after ((project.processWith limit entry).runFrom { cache }).2 →
      (project'.processWith limit entry).runFrom { cache } =
        (project.processWith limit entry).runFrom { cache } := fun limit alike =>
    (processWith_mirrors modules alike.current limit entry).same _ alike.answers
  refine ⟨fun limit unseen => agree limit (unseen.elim id looksAlike_of_changes),
    fun rooted unseen => ?_⟩
  -- One limit that leaves room on both trees.
  have enough : project.limit ≤ max project.limit project'.limit := le_max_left _ _
  have enough' : project'.limit ≤ max project.limit project'.limit := le_max_right _ _
  have alike := unseen.elim id looksAlike_of_changes
  rw [process_eq_processWith modules rooted cache enough] at alike ⊢
  rw [process_eq_processWith modules' rooted cache enough']
  exact agree _ alike

/-- The files of a small project below `/p`. -/
def filesBelow (files : List (List String × String)) : FileTree where
  files := files.map fun file => ("p".toList :: file.1.map String.toList, .text file.2.toList)

/-- A module that imports another for its own use, and re-exports a package and a third one. -/
def forwarding : FileTree := filesBelow
  [(["b.js"], "import './z'; export * from 'q'; export * from './a'"),
    (["a.js"], "export const one = 1"), (["z.js"], "export const two = 2")]

/-- A module that re-exports a directory. -/
def folder : FileTree := filesBelow [(["b.js"], "export * from './x'"), (["x", "index.js"], "")]

/-- The walk of the first module of such a project. -/
def walkFrom (files : FileTree) : Except Error FileResult × Walk :=
  (((ofModules {} files (Path.ofText "/p".toList) 0).withReuse true).process
    (Path.ofText "/p/b.js".toList)).runFrom {}

theorem small_walks :
    let deep := ["p", "x.js", "deep.js"].map String.toList
    ((walkFrom forwarding).1.isOk ∧ (walkFrom forwarding).2.looked =
      ["/p/a.js", "/p/a.js", "/p/b.js"].map fun path => Path.ofText path.toList) ∧
    (walkFrom folder).1.isOk ∧
    (∀ path ∈ (walkFrom folder).2.looked, folder.placeOf path ≠ deep) ∧
    (walkFrom (folder.setFile deep (.text []))).1 =
      .error (.unreadableFile (Path.ofText "/p/x.js".toList)
        (.file (.isDirectory "/p/x.js".toList))) := by
  decide +kernel

/-- The module that is imported but not re-exported is edited and deleted, and the package is
installed. -/
theorem process_depends_on_sight_of_relay :
    let unused := ["p", "z.js"].map String.toList
    let package := ["p", "node_modules", "q", "index.js"].map String.toList
    let after := ((forwarding.setFile unused (.text ['{'])).removeFile unused).setFile package
      (.text "export const three = 3".toList)
    (walkFrom forwarding).1.isOk ∧
    ReflTransGen (FileTree.ChangedAside (walkFrom forwarding).2.looked) forwarding after ∧
    walkFrom after = walkFrom forwarding := by
  intro unused package after
  have changes :
      ReflTransGen (FileTree.ChangedAside (walkFrom forwarding).2.looked) forwarding after := by
    rw [small_walks.1.2]
    refine .tail (.tail (.single (.edited unused (.text ['{']) ?_ ?_)) (.deleted unused ?_ ?_))
      (.added package _ ?_ ?_)
    all_goals decide
  exact ⟨small_walks.1.1, changes,
    (process_depends_on_sight {} forwarding after _ _ 0 true []).2 (by decide) (.inr changes)⟩

/-- **A file that is neither read nor probed can still show.**  It stands below the first candidate
for a directory that is re-exported, which is then there itself, is taken and cannot be read. -/
theorem file_below_candidate_shows :
    let deep := ["p", "x.js", "deep.js"].map String.toList
    (walkFrom folder).1.isOk ∧
    (∀ path ∈ (walkFrom folder).2.looked, folder.placeOf path ≠ deep) ∧
    (walkFrom (folder.setFile deep (.text []))).1 =
      .error (.unreadableFile (Path.ofText "/p/x.js".toList)
        (.file (.isDirectory "/p/x.js".toList))) :=
  small_walks.2

end Project

end ExportDocs
