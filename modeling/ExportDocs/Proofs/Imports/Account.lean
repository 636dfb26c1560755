/-
# ExportDocs.Proofs.Imports.Account -- what a successful walk stands for

What a file comes to, as a relation without limit, stack and cache: it is what its extraction gives
if it is told what the files that it imports come to (`Comes`).  The relation also says of every
file on the way that it was handed to the engine.

A walk keeps only results of which this is so (`Sound`), and whatever processing a file gives is
such a result, under any limit, with reuse or without (`processWith_settles`).  Nothing is said
about failures, so neither room on the stack nor an absolute path is needed.
-/
import ExportDocs.Proofs.Imports.Reuse

namespace ExportDocs.Project

set_option autoImplicit false

/-! ## Results without a walk -/

/-- What a file comes to.  It and everything that it leads to were handed to the engine. -/
inductive Comes (project : Project) (events : List Event) : Path → FileResult → Prop
  | intro {file : Path} {results : Path → FileResult} {extraction : Extraction}
      (handed : .handed file (project.relative file) ∈ events)
      (imported : ∀ target, project.Imports file target →
        Comes project events target (results target))
      (yields : project.Yields file
        (project.answersBy (fun target => (results target).symbols) file) extraction) :
      Comes project events file (resultOf file extraction)

variable {project : Project} {events later : List Event} {file : Path} {result : FileResult}

namespace Comes

theorem mono (comes : project.Comes events file result) (more : events ⊆ later) :
    project.Comes later file result := by
  induction comes with
  | intro handed _ yields ih => exact .intro (more handed) ih yields

theorem path_eq (comes : project.Comes events file result) : result.path = file := by
  cases comes
  rfl

theorem exists_read (comes : project.Comes events file result) :
    ∃ source, project.files.read file = .ok source := by
  obtain ⟨-, -, source, read, -⟩ := comes
  exact ⟨source, read⟩

/-- Everything that the file reaches was handed to the engine. -/
theorem handed_of_reaches (comes : project.Comes events file result) :
    ∀ {target : Path}, project.Reaches file target →
      .handed target (project.relative target) ∈ events := by
  induction comes with
  | intro handed _ _ ih =>
      intro target reaches
      rcases reaches.cases_head with rfl | ⟨next, imports, further⟩
      · exact handed
      · exact ih next imports further

/-- A file comes to one result, whichever files were handed over. -/
theorem unique (comes : project.Comes events file result) :
    ∀ {later : List Event} {other : FileResult}, project.Comes later file other →
      result = other := by
  induction comes with
  | intro _ _ yields ih =>
      intro later other comes'
      cases comes' with
      | intro _ imported' yields' =>
          have same := yields.of_answersBy fun target imports =>
            congrArg FileResult.symbols (ih target imports (imported' target imports))
          rw [same.unique yields']

end Comes

/-! ## What is kept -/

/-- Every kept result is what the file comes to. -/
def Sound (project : Project) (walk : Walk) : Prop :=
  ∀ file result, project.kept walk file = some result → project.Comes walk.events file result

variable {walk : Walk}

namespace Sound

theorem start : project.Sound {} := by
  simp [Sound, kept]

theorem noted (sound : project.Sound walk) (events : List Event) :
    project.Sound (walk.noted events) :=
  fun file result held => (sound file result held).mono (List.subset_append_right _ _)

theorem restack (sound : project.Sound walk) (stack : Stack) : project.Sound (walk.restack stack) :=
  fun file result held => (sound file result held).mono (List.subset_cons_self _ _)

theorem keeping (sound : project.Sound walk)
    (comes : project.Comes walk.events result.path result) :
    project.Sound (project.keeping walk result) := by
  intro file other held
  rw [kept_keeping] at held
  rw [keeping_events]
  split at held
  · rename_i here
    cases held
    exact here.2 ▸ comes
  · exact sound file other held

end Sound

/-! ## Steps -/

theorem exists_of_forall₂ {α β : Type} {R : α → β → Prop} {list : List α} {others : List β}
    (related : List.Forall₂ R list others) : ∀ a ∈ list, ∃ b, R a b := by
  induction related with
  | nil => simp
  | cons here _ ih => exact List.forall_mem_cons.2 ⟨⟨_, here⟩, ih⟩

/-- A step leaves the stack as it was and a sound walk with more events, and what it gives has a
meaning by these events. -/
structure Settles {α : Type} (project : Project) (walk : Walk) (Means : List Event → α → Prop)
    (run : Except Error α × Walk) : Prop where
  stack : run.2.stack = walk.stack
  grows : walk.events ⊆ run.2.events
  sound : project.Sound run.2
  means : ∀ a, run.1 = .ok a → Means run.2.events a

namespace Settles

variable {α β : Type} {Means : List Event → α → Prop}

/-- Nothing but events. -/
theorem of_noted (sound : project.Sound walk) {outcome : Except Error α} (events : List Event)
    (means : ∀ a, outcome = .ok a → Means (walk.noted events).events a) :
    project.Settles walk Means (outcome, walk.noted events) :=
  ⟨rfl, List.subset_append_right _ _, sound.noted events, means⟩

theorem map {Means' : List Event → β → Prop} {run : Except Error α × Walk}
    (settles : project.Settles walk Means run) {f : α → β}
    (image : ∀ events a, Means events a → Means' events (f a)) :
    project.Settles walk Means' (run.1.map f, run.2) := by
  refine ⟨settles.stack, settles.grows, settles.sound, fun b ok => ?_⟩
  obtain ⟨a, gave, rfl⟩ := map_eq_ok_iff.1 ok
  exact image _ a (settles.means a gave)

/-- Questions that are asked one after another. -/
theorem mapM {stack : Stack} {f : α → WalkM β} {Means : α → List Event → β → Prop}
    (mono : ∀ question events later b, events ⊆ later → Means question events b →
      Means question later b) (questions : List α)
    (each : ∀ question ∈ questions, ∀ walk : Walk, walk.stack = stack → project.Sound walk →
      project.Settles walk (Means question) ((f question).runFrom walk)) :
    ∀ walk : Walk, walk.stack = stack → project.Sound walk →
      project.Settles walk
        (fun events answers => List.Forall₂ (Means · events) questions answers)
        ((questions.mapM f).runFrom walk) := by
  induction questions with
  | nil =>
      refine fun walk _ sound => of_noted sound [] fun answers ok => ?_
      cases ok
      exact .nil
  | cons question rest ih =>
      intro walk here sound
      have first := each question (by simp) walk here sound
      rw [List.mapM_cons, WalkM.runFrom_bind]
      rcases ran : (f question).runFrom walk with ⟨error | a, after⟩
      · rw [ran] at first
        exact ⟨first.stack, first.grows, first.sound, by simp⟩
      · rw [ran] at first
        have further := ih (fun question member => each question (by simp [member])) after
          (first.stack.trans here) first.sound
        simp only [bind_pure_comp, WalkM.runFrom_map]
        refine ⟨further.stack.trans first.stack, List.Subset.trans first.grows further.grows,
          further.sound, fun answers ok => ?_⟩
        obtain ⟨others, gave, rfl⟩ := map_eq_ok_iff.1 ok
        exact .cons (mono question _ _ a further.grows (first.means a rfl))
          (further.means others gave)

end Settles

/-- What a file is told when it asks for a module: what the file that the specifier names comes to,
and nothing about a package. -/
def IsTold (project : Project) (file : Path) (specifier : Text) (events : List Event)
    (symbols : List Symbol) : Prop :=
  if project.settings.isLocal specifier then
    ∃ path result, project.resolve file specifier = .ok path ∧
      project.Comes events path.normalize result ∧ result.symbols = symbols
  else symbols = []

theorem IsTold.mono {specifier : Text} {symbols : List Symbol} (more : events ⊆ later)
    (told : project.IsTold file specifier events symbols) :
    project.IsTold file specifier later symbols := by
  unfold IsTold at told ⊢
  split
  · rename_i isLocal
    rw [if_pos isLocal] at told
    obtain ⟨path, result, resolved, comes, same⟩ := told
    exact ⟨path, result, resolved, comes.mono more, same⟩
  · rename_i package
    rwa [if_neg package] at told

theorem importSymbols_settles {process : Path → WalkM FileResult} {specifier : Text} {base : Path}
    {outer : Stack} (top : walk.stack = base :: outer) (sound : project.Sound walk)
    (processes : ∀ path (walk' : Walk), project.Sound walk' →
      project.Settles walk' (project.Comes · path.normalize) ((process path).runFrom walk')) :
    project.Settles walk (project.IsTold base specifier)
      ((project.importSymbols process specifier).runFrom walk) := by
  by_cases isLocal : project.settings.isLocal specifier
  · cases found : (project.lookup base specifier).found with
    | none =>
        rw [runFrom_importSymbols_unresolved isLocal top found]
        exact .of_noted sound _ (by simp)
    | some path =>
        rw [runFrom_importSymbols_found isLocal top found]
        have processed := processes path (walk.noted (project.searchEvents base specifier))
          (sound.noted _)
        have told : project.Settles _ (project.IsTold base specifier) _ :=
          processed.map fun events result comes => by
            rw [IsTold, if_pos isLocal]
            exact ⟨path, result, resolve_eq_ok_iff.2 found, comes, rfl⟩
        exact ⟨told.stack, List.Subset.trans (List.subset_append_right _ _) told.grows, told.sound,
          told.means⟩
  · rw [runFrom_importSymbols_package _ (by simpa using isLocal)]
    refine .of_noted sound [] fun symbols ok => ?_
    cases ok
    simp [IsTold, isLocal]

/-- The answers that a file got are those that results of the files it imports give it. -/
theorem exists_results_of_told {answers : List (List Symbol)}
    (told : List.Forall₂ (project.IsTold file · events) (project.requests file) answers) :
    ∃ results : Path → FileResult,
      (∀ target, project.Imports file target → project.Comes events target (results target)) ∧
      (project.requests file).map
        (project.answersBy (fun target => (results target).symbols) file) = answers := by
  have exists_result : ∀ target, (∃ result, project.Comes events target result) →
      ∃ result, project.Comes events target result := fun _ some => some
  choose! results comes using exists_result
  refine ⟨results, ?_, ?_⟩
  · rintro target ⟨specifier, asked, isLocal, path, resolved, rfl⟩
    obtain ⟨symbols, answered⟩ := exists_of_forall₂ told specifier asked
    rw [IsTold, if_pos isLocal] at answered
    obtain ⟨path', result, resolved', here, -⟩ := answered
    cases resolved.symm.trans resolved'
    exact comes _ ⟨result, here⟩
  · rw [← List.forall₂_eq_eq_eq, List.forall₂_map_left_iff]
    refine told.imp fun specifier symbols answered => ?_
    unfold IsTold at answered
    unfold answersBy
    split at answered
    · rename_i isLocal
      obtain ⟨path, result, resolved, here, same⟩ := answered
      simp only [isLocal, if_true, resolved]
      rw [← same, (comes _ ⟨result, here⟩).unique here]
    · rename_i package
      rw [if_neg package, answered]

/-! ## Whole files -/

section Entered

variable {resolve : Text → WalkM (List Symbol)} {path : Path} {source : Text}

/-- Every question that a file asks while it is on top of the stack settles what it is told. -/
def AsksTruly (project : Project) (resolve : Text → WalkM (List Symbol)) (path : Path)
    (stack : Stack) : Prop :=
  ∀ specifier ∈ project.requests path, ∀ walk : Walk, walk.stack = stack → project.Sound walk →
    project.Settles walk (project.IsTold path specifier) ((resolve specifier).runFrom walk)

theorem extractFile_settles (modules : project.ReadsModules) (sound : project.Sound walk)
    (read : project.files.read path = .ok source)
    (asks : project.AsksTruly resolve path walk.stack) :
    project.Settles walk
      (fun events extraction => project.Comes events path (resultOf path extraction))
      ((project.extractFile resolve path source).runFrom walk) := by
  obtain ⟨compose, factors⟩ := modules.asks (project.relative path) source
  rw [runFrom_extractFile, factors WalkM, ← requests_of_read read]
  simp only [WalkM.runFrom_map]
  have asked := Settles.mapM (fun _ _ _ _ more told => told.mono more) (project.requests path)
    asks (walk.noted (project.handing path walk.stack)) rfl (sound.noted _)
  generalize ((project.requests path).mapM resolve).runFrom _ = run at asked ⊢
  have grows : walk.events ⊆ run.2.events :=
    List.Subset.trans (List.subset_append_right _ _) asked.grows
  have handed : .handed path (project.relative path) ∈ run.2.events :=
    asked.grows (by simp [handing])
  refine ⟨asked.stack, List.Subset.trans grows (List.subset_append_right _ _), asked.sound.noted _,
    fun extraction ok => ?_⟩
  obtain ⟨answers, gave, composed⟩ := map_eq_ok_iff.1 (verdict_eq_ok_iff.1 ok)
  obtain ⟨results, imported, rfl⟩ := exists_results_of_told (asked.means answers gave)
  have comes : project.Comes run.2.events path (resultOf path extraction) := by
    refine .intro handed imported ((yields_iff modules read).2 ?_)
    rw [← composed, requests_of_read read]
    exact (factors Id _).trans (congrArg compose List.idRun_mapM)
  exact comes.mono (List.subset_append_right _ _)

/-- A file that is entered settles its result if its questions settle what it is told. -/
theorem processNormal_settles_entered (modules : project.ReadsModules) (sound : project.Sound walk)
    (miss : project.kept walk path = none) (read : project.files.read path = .ok source)
    (fresh : path ∉ walk.stack) (asks : project.AsksTruly resolve path (path :: walk.stack)) :
    project.Settles walk (project.Comes · path)
      ((project.processNormal resolve path).runFrom walk) := by
  have inside : project.Sound ((walk.noted [.read path]).restack (path :: walk.stack)) :=
    (sound.noted _).restack _
  have extracted := extractFile_settles modules inside read asks
  rw [runFrom_processNormal_entered _ miss read fresh extracted.stack]
  have before : walk.events ⊆ ((walk.noted [.read path]).restack (path :: walk.stack)).events := by
    simp
  rcases ran : (project.extractFile resolve path source).runFrom
    ((walk.noted [.read path]).restack (path :: walk.stack)) with ⟨error | extraction, after⟩
  all_goals
    rw [ran] at extracted
    have grows : walk.events ⊆ (after.restack walk.stack).events :=
      List.Subset.trans before (List.Subset.trans extracted.grows (List.subset_cons_self _ _))
    have left := extracted.sound.restack walk.stack
  · exact ⟨rfl, grows, left, by simp⟩
  · have comes : project.Comes (after.restack walk.stack).events path (resultOf path extraction) :=
      (extracted.means extraction rfl).mono (List.subset_cons_self _ _)
    refine ⟨by simp, by simpa using grows, left.keeping comes, fun result ok => ?_⟩
    cases ok
    rwa [keeping_events]

end Entered

/-- **What processing a file gives is what the file comes to.** -/
theorem processWith_settles (modules : project.ReadsModules) (limit : Nat) :
    ∀ (path : Path) (walk : Walk), project.Sound walk →
      project.Settles walk (project.Comes · path.normalize)
        ((project.processWith limit path).runFrom walk) := by
  induction limit with
  | zero =>
      intro path walk sound
      rw [processWith, WalkM.runFrom_raise]
      exact .of_noted sound _ (by simp)
  | succ limit ih =>
      intro path walk sound
      rw [processWith]
      cases kept : project.kept walk path.normalize with
      | some result =>
          rw [runFrom_processNormal_kept _ kept]
          refine .of_noted sound _ fun again ok => ?_
          cases ok
          exact sound.noted _ _ _ kept
      | none =>
          cases read : project.files.read path.normalize with
          | error fault =>
              rw [runFrom_processNormal_unread _ kept read]
              exact .of_noted sound _ (by simp)
          | ok source =>
              by_cases inFlight : path.normalize ∈ walk.stack
              · rw [runFrom_processNormal_refused _ kept read inFlight]
                exact .of_noted sound _ (by simp)
              · exact processNormal_settles_entered modules sound kept read inFlight
                  fun specifier _ inner here soundInner => importSymbols_settles here soundInner ih

end ExportDocs.Project
