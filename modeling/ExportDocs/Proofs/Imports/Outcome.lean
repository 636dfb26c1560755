/-
# ExportDocs.Proofs.Imports.Outcome -- what a file comes to

The outcome of a file as a plain recursion over the files of a project.  There is no walk, no cache
and no record of events; a specifier is resolved against the file that requests it, and the stack is
an argument that serves to notice cycles only.

* `outcome_ok_iff`: a file has a result if and only if everything that it reaches is intact, off the
  stack and on no cycle.
* `outcome_agree`: the result depends neither on the stack nor on the limit.
-/
import ExportDocs.Proofs.Imports.Nesting
import Mathlib.Logic.Relation

namespace ExportDocs

set_option autoImplicit false

open Relation (ReflTransGen TransGen)

/-- A list of questions is answered if each question is, whichever function gives the answers. -/
theorem mapM_eq_ok_iff {ε α β : Type} [Inhabited β] {f : α → Except ε β} (questions : List α) :
    ∀ results : List β, questions.mapM f = .ok results ↔
      ∃ answers : α → β, (∀ question ∈ questions, f question = .ok (answers question)) ∧
        results = questions.map answers := by
  have answered : ∀ answers : α → β, (∀ question ∈ questions, f question = .ok (answers question)) →
      questions.mapM f = .ok (questions.map answers) := by
    intro answers each
    induction questions with
    | nil => rfl
    | cons question rest ih =>
        rw [List.mapM_cons, each question (by simp),
          ih fun other member => each other (by simp [member])]
        rfl
  intro results
  refine ⟨fun ok => ?_, fun ⟨answers, each, same⟩ => same ▸ answered answers each⟩
  -- Each answer can be read off the question.
  let answers (question : α) : β := (f question).toOption.getD default
  have each : ∀ question ∈ questions, f question = .ok (answers question) := by
    clear answered
    induction questions generalizing results with
    | nil => simp
    | cons question rest ih =>
        rw [List.mapM_cons] at ok
        cases first : f question with
        | error fault => simp [first, bind, Except.bind] at ok
        | ok answer =>
            cases further : rest.mapM f with
            | error fault => simp [first, further, bind, Except.bind] at ok
            | ok later =>
                have here : f question = .ok (answers question) := by
                  simp [answers, first, Except.toOption]
                exact List.forall_mem_cons.2 ⟨here, ih later further⟩
  exact ⟨answers, each, Except.ok.inj (ok.symm.trans (answered answers each))⟩

theorem map_eq_ok_iff {ε α β : Type} {f : α → β} {outcome : Except ε α} {b : β} :
    outcome.map f = .ok b ↔ ∃ a, outcome = .ok a ∧ f a = b := by
  cases outcome <;> simp [Except.map]

namespace Project

/-! ## The recursion -/

/-- The symbols that a specifier stands for in a file, where `process` says what each file comes
to. -/
def answer (project : Project) (process : Path → Except Error FileResult) (base : Path)
    (specifier : Text) : Except Error (List Symbol) :=
  if project.settings.isLocal specifier then
    (project.lookup base specifier).found.elim (.error (.unresolvedImport base specifier))
      fun path => (process path.normalize).map FileResult.symbols
  else .ok []

/-- What a file comes to with the given files around it. -/
def outcome (project : Project) : Nat → Stack → Path → Except Error FileResult
  | 0, _, _ => .error (.uncaught .tooDeep)
  | limit + 1, stack, path =>
    match project.files.read path with
    | .error fault => .error (readError path fault)
    | .ok source =>
      if path ∈ stack then .error (.importCycle path stack.reverse)
      else
        (verdict path (project.engine.run (project.relative path) source
          (project.answer (project.outcome limit (path :: stack)) path))).map (resultOf path)

/-- A file yields this extraction if its questions are answered so. -/
def Yields (project : Project) (file : Path) (answers : Text → List Symbol)
    (extraction : Extraction) : Prop :=
  ∃ source, project.files.read file = .ok source ∧
    Id.run (extract (project.relative file) project.settings.undocumented source answers) =
      .ok extraction

variable {project : Project} {file : Path} {stack : Stack} {limit : Nat}

/-! ## Extractions -/

theorem Yields.unique {answers : Text → List Symbol} {extraction other : Extraction}
    (yields : project.Yields file answers extraction)
    (yields' : project.Yields file answers other) : extraction = other := by
  obtain ⟨source, read, extracted⟩ := yields
  obtain ⟨source', read', extracted'⟩ := yields'
  cases read.symm.trans read'
  exact Except.ok.inj (extracted.symm.trans extracted')

/-- Only the answers to what the file requests matter. -/
theorem Yields.congr {answers answers' : Text → List Symbol} {extraction : Extraction}
    (yields : project.Yields file answers extraction)
    (same : ∀ specifier ∈ project.requests file, answers specifier = answers' specifier) :
    project.Yields file answers' extraction := by
  obtain ⟨source, read, extracted⟩ := yields
  refine ⟨source, read, ?_⟩
  obtain ⟨compose, factors⟩ :=
    requested_asks (project.relative file) project.settings.undocumented source
  rw [requests_of_read read] at same
  have mapped : ∀ given : Text → List Symbol,
      Id.run (extract (project.relative file) project.settings.undocumented source given) =
        compose ((requested (project.relative file) project.settings.undocumented source).map
          given) := by
    intro given
    exact (factors Id given).trans (congrArg compose List.idRun_mapM)
  rw [mapped] at extracted ⊢
  rwa [← List.map_congr_left same]

/-- Whether a file can be extracted does not depend on the answers. -/
theorem Yields.of_any {answers : Text → List Symbol} {extraction : Extraction}
    (yields : project.Yields file answers extraction) (answers' : Text → List Symbol) :
    ∃ other, project.Yields file answers' other := by
  obtain ⟨source, read, extracted⟩ := yields
  unfold extract at extracted
  cases outlined : Outline.ofSource (project.relative file) project.settings.undocumented
    source with
  | error fault =>
      rw [outlined] at extracted
      cases extracted
  | ok outline =>
      exact ⟨_, source, read, by rw [extract, outlined]; rfl⟩

/-! ## One step of the recursion -/

theorem answer_local_eq_ok_iff {process : Path → Except Error FileResult} {specifier : Text}
    (isLocal : project.settings.isLocal specifier) {symbols : List Symbol} :
    project.answer process file specifier = .ok symbols ↔
      ∃ path, project.resolve file specifier = .ok path ∧
        ∃ result, process path.normalize = .ok result ∧ result.symbols = symbols := by
  simp only [answer, isLocal, if_true, resolve_eq_ok_iff]
  cases (project.lookup file specifier).found with
  | none => simp
  | some path => simp [map_eq_ok_iff]

theorem answer_package {process : Path → Except Error FileResult} {specifier : Text}
    (package : ¬ project.settings.isLocal specifier) :
    project.answer process file specifier = .ok [] := by
  simp [answer, package]

theorem verdict_eq_ok_iff {path : Path} {outcome : Except Error (Except Cause Extraction)}
    {extraction : Extraction} :
    verdict path outcome = .ok extraction ↔ outcome = .ok (.ok extraction) := by
  rcases outcome with error | (cause | found)
  · cases error <;> simp [verdict]
  · simp [verdict]
  · simp [verdict]

/-- The engine for modules extracts a file that yields something. -/
theorem yields_iff (modules : project.ReadsModules) {source : Text}
    (read : project.files.read file = .ok source) {answers : Text → List Symbol}
    {extraction : Extraction} :
    project.Yields file answers extraction ↔
      Id.run (project.engine.run (project.relative file) source answers) = .ok extraction := by
  have extracted : project.Yields file answers extraction ↔
      Id.run (extract (project.relative file) project.settings.undocumented source answers) =
        .ok extraction :=
    ⟨fun ⟨_, read', extracts⟩ => by cases read.symm.trans read'; exact extracts,
      fun extracts => ⟨source, read, extracts⟩⟩
  rw [extracted, modules]
  simp only [Engine.modules, Id.run_bind]
  cases Id.run (extract (project.relative file) project.settings.undocumented source answers) <;>
    simp

/-- A file has a result if it is not in flight, its questions are answered, and it can be extracted
with these answers. -/
theorem outcome_eq_ok_iff (modules : project.ReadsModules) {result : FileResult} :
    project.outcome (limit + 1) stack file = .ok result ↔
      file ∉ stack ∧ ∃ answers extraction,
        (∀ specifier ∈ project.requests file,
          project.answer (project.outcome limit (file :: stack)) file specifier =
            .ok (answers specifier)) ∧
        project.Yields file answers extraction ∧ resultOf file extraction = result := by
  rw [outcome]
  cases read : project.files.read file with
  | error fault => simp [Yields, read]
  | ok source =>
      obtain ⟨compose, factors⟩ := modules.asks (project.relative file) source
      have composed : ∀ answers : Text → List Symbol,
          Id.run (project.engine.run (project.relative file) source answers) =
            compose ((project.requests file).map answers) := by
        intro answers
        rw [requests_of_read read]
        exact (factors Id answers).trans (congrArg compose List.idRun_mapM)
      by_cases inFlight : file ∈ stack
      · simp [inFlight]
      · simp only [inFlight, if_false, not_false_iff, true_and, map_eq_ok_iff, verdict_eq_ok_iff,
          factors (Except Error), ← requests_of_read read, yields_iff modules read, composed]
        constructor
        · rintro ⟨extraction, ran, same⟩
          obtain ⟨results, asked, found⟩ := map_eq_ok_iff.1 ran
          obtain ⟨answers, each, rfl⟩ := (mapM_eq_ok_iff _ _).1 asked
          exact ⟨answers, extraction, each, found, same⟩
        · rintro ⟨answers, extraction, each, found, same⟩
          have asked := (mapM_eq_ok_iff _ _).2 ⟨answers, each, rfl⟩
          exact ⟨extraction, map_eq_ok_iff.2 ⟨_, asked, found⟩, same⟩

/-! ## When there is a result -/

/-- A file that can be read and extracted and all of whose local requests name a file. -/
structure Intact (project : Project) (file : Path) : Prop where
  extracts : ∀ answers, ∃ extraction, project.Yields file answers extraction
  resolves : ∀ specifier ∈ project.requests file, project.settings.isLocal specifier →
    ∃ path, project.resolve file specifier = .ok path

/-- One file leads to another over imports. -/
abbrev Reaches (project : Project) : Path → Path → Prop := ReflTransGen project.Imports

/-- Everything that a file reaches is intact, off the stack and on no cycle. -/
def Clear (project : Project) (stack : Stack) (file : Path) : Prop :=
  ∀ target, project.Reaches file target →
    project.Intact target ∧ target ∉ stack ∧ ¬ TransGen project.Imports target target

/-- A file is clear of a stack if it is intact and off the stack, and what it imports is clear of
the stack with it on top. -/
theorem clear_iff : project.Clear stack file ↔
    project.Intact file ∧ file ∉ stack ∧
      ∀ target, project.Imports file target → project.Clear (file :: stack) target := by
  constructor
  · intro clear
    obtain ⟨intact, fresh, acyclic⟩ := clear file .refl
    refine ⟨intact, fresh, fun target imports further reaches => ?_⟩
    obtain ⟨intact', fresh', acyclic'⟩ := clear further (.head imports reaches)
    refine ⟨intact', fun member => ?_, acyclic'⟩
    rcases List.mem_cons.1 member with rfl | member
    · exact acyclic (TransGen.head'_iff.2 ⟨target, imports, reaches⟩)
    · exact fresh' member
  · rintro ⟨intact, fresh, imported⟩ target reaches
    rcases reaches.cases_head with rfl | ⟨next, imports, further⟩
    · refine ⟨intact, fresh, fun cycle => ?_⟩
      obtain ⟨next, imports, back⟩ := TransGen.head'_iff.1 cycle
      exact (imported next imports file back).2.1 (by simp)
    · obtain ⟨intact', fresh', acyclic'⟩ := imported next imports target further
      exact ⟨intact', fun member => fresh' (by simp [member]), acyclic'⟩

/-- A file has a result if and only if it is intact and off the stack and what it imports has. -/
theorem exists_outcome_succ_iff (modules : project.ReadsModules) :
    (∃ result, project.outcome (limit + 1) stack file = .ok result) ↔
      project.Intact file ∧ file ∉ stack ∧ ∀ target, project.Imports file target →
        ∃ result, project.outcome limit (file :: stack) target = .ok result := by
  simp only [outcome_eq_ok_iff modules]
  constructor
  · rintro ⟨result, fresh, answers, extraction, each, yields, -⟩
    refine ⟨⟨yields.of_any, fun specifier asked isLocal => ?_⟩, fresh, ?_⟩
    · obtain ⟨path, resolved, -⟩ := (answer_local_eq_ok_iff isLocal).1 (each specifier asked)
      exact ⟨path, resolved⟩
    · rintro target ⟨specifier, asked, isLocal, path, resolved, rfl⟩
      obtain ⟨path', resolved', result', found, -⟩ :=
        (answer_local_eq_ok_iff isLocal).1 (each specifier asked)
      cases resolved.symm.trans resolved'
      exact ⟨result', found⟩
  · rintro ⟨intact, fresh, imported⟩
    have each : ∀ specifier ∈ project.requests file, ∃ symbols,
        project.answer (project.outcome limit (file :: stack)) file specifier = .ok symbols := by
      intro specifier asked
      by_cases isLocal : project.settings.isLocal specifier
      · obtain ⟨path, resolved⟩ := intact.resolves specifier asked isLocal
        obtain ⟨result, found⟩ := imported path.normalize
          ⟨specifier, asked, isLocal, path, resolved, rfl⟩
        exact ⟨_, (answer_local_eq_ok_iff isLocal).2 ⟨path, resolved, result, found, rfl⟩⟩
      · exact ⟨[], answer_package isLocal⟩
    choose! answers each using each
    obtain ⟨extraction, yields⟩ := intact.extracts answers
    exact ⟨_, fresh, answers, extraction, each, yields, rfl⟩

/-- What a file with a result imports has a result inside it. -/
theorem outcome_of_imports (modules : project.ReadsModules) {result : FileResult} {target : Path}
    (ok : project.outcome (limit + 1) stack file = .ok result)
    (imports : project.Imports file target) :
    ∃ found, project.outcome limit (file :: stack) target = .ok found :=
  ((exists_outcome_succ_iff modules).1 ⟨result, ok⟩).2.2 target imports

theorem clear_of_outcome (modules : project.ReadsModules) (limit : Nat) :
    ∀ (stack : Stack) (file : Path),
      (∃ result, project.outcome limit stack file = .ok result) → project.Clear stack file := by
  induction limit with
  | zero => simp [outcome]
  | succ limit ih =>
      intro stack file ok
      obtain ⟨intact, fresh, imported⟩ := (exists_outcome_succ_iff modules).1 ok
      exact clear_iff.2 ⟨intact, fresh, fun target imports => ih _ _ (imported target imports)⟩

/-- **A file with room around it has a result if and only if it is clear of the stack.** -/
theorem outcome_ok_iff {Proper : Path → Prop} {bound : Nat} (modules : project.ReadsModules)
    (bounded : project.Bounded Proper bound) (limit : Nat) :
    ∀ (stack : Stack) (file : Path), project.HasRoom Proper bound limit stack file →
      ((∃ result, project.outcome limit stack file = .ok result) ↔ project.Clear stack file) := by
  induction limit with
  | zero => exact fun _ _ room => absurd (room.limit_pos bounded) (lt_irrefl 0)
  | succ limit ih =>
      refine fun stack file room => ⟨clear_of_outcome modules _ stack file, fun clear => ?_⟩
      obtain ⟨intact, fresh, imported⟩ := clear_iff.1 clear
      refine (exists_outcome_succ_iff modules).2 ⟨intact, fresh, fun target imports => ?_⟩
      exact (ih _ _ (room.imports bounded fresh imports)).2 (imported target imports)

/-! ## Which result -/

/-- The answers to what a file asks, where `symbols` says what each file exports.  A specifier is
resolved against the file that asks, and a package exports nothing. -/
def answersBy (project : Project) (symbols : Path → List Symbol) (file : Path)
    (specifier : Text) : List Symbol :=
  if project.settings.isLocal specifier then
    match project.resolve file specifier with
    | .ok path => symbols path.normalize
    | .error _ => []
  else []

/-- Only the symbols of imported files matter. -/
theorem Yields.of_answersBy {symbols symbols' : Path → List Symbol} {extraction : Extraction}
    (yields : project.Yields file (project.answersBy symbols file) extraction)
    (same : ∀ target, project.Imports file target → symbols target = symbols' target) :
    project.Yields file (project.answersBy symbols' file) extraction := by
  refine yields.congr fun specifier asked => ?_
  unfold answersBy
  by_cases isLocal : project.settings.isLocal specifier
  · simp only [isLocal, if_true]
    cases resolved : project.resolve file specifier with
    | error fault => rfl
    | ok path => exact same _ ⟨specifier, asked, isLocal, path, resolved, rfl⟩
  · simp [isLocal]

/-- The symbols of a file with the given files around it; none without a result. -/
def symbolsIn (project : Project) (limit : Nat) (stack : Stack) (file : Path) : List Symbol :=
  match project.outcome limit stack file with
  | .ok result => result.symbols
  | .error _ => []

theorem symbolsIn_of_outcome {result : FileResult}
    (ok : project.outcome limit stack file = .ok result) :
    project.symbolsIn limit stack file = result.symbols := by
  simp only [symbolsIn, ok]

/-- The result of a file is extracted with the symbols that the files it imports have inside it. -/
theorem yields_of_outcome (modules : project.ReadsModules) {result : FileResult}
    (ok : project.outcome (limit + 1) stack file = .ok result) :
    ∃ extraction, resultOf file extraction = result ∧
      project.Yields file (project.answersBy (project.symbolsIn limit (file :: stack)) file)
        extraction := by
  obtain ⟨-, answers, extraction, each, yields, same⟩ := (outcome_eq_ok_iff modules).1 ok
  refine ⟨extraction, same, yields.congr fun specifier asked => ?_⟩
  have answered := each specifier asked
  unfold answersBy
  by_cases isLocal : project.settings.isLocal specifier
  · obtain ⟨path, resolved, found, ran, symbols⟩ := (answer_local_eq_ok_iff isLocal).1 answered
    simp only [isLocal, if_true, resolved, symbolsIn_of_outcome ran, symbols]
  · rw [answer_package isLocal] at answered
    simpa [isLocal] using (Except.ok.inj answered).symm

/-- **The result of a file depends neither on the limit nor on the stack.** -/
theorem outcome_agree (modules : project.ReadsModules) (limit : Nat) :
    ∀ (limit' : Nat) (stack stack' : Stack) (file : Path) (result result' : FileResult),
      project.outcome limit stack file = .ok result →
      project.outcome limit' stack' file = .ok result' → result = result' := by
  induction limit with
  | zero => simp [outcome]
  | succ limit ih =>
      intro limit' stack stack' file result result' ok ok'
      cases limit' with
      | zero => simp [outcome] at ok'
      | succ limit' =>
          obtain ⟨extraction, rfl, yields⟩ := yields_of_outcome modules ok
          obtain ⟨extraction', rfl, yields'⟩ := yields_of_outcome modules ok'
          have same : ∀ target, project.Imports file target →
              project.symbolsIn limit (file :: stack) target =
                project.symbolsIn limit' (file :: stack') target := by
            intro target imports
            obtain ⟨found, ran⟩ := outcome_of_imports modules ok imports
            obtain ⟨found', ran'⟩ := outcome_of_imports modules ok' imports
            rw [symbolsIn_of_outcome ran, symbolsIn_of_outcome ran',
              ih limit' _ _ _ found found' ran ran']
          rw [(yields.of_answersBy same).unique yields']

end Project

end ExportDocs
