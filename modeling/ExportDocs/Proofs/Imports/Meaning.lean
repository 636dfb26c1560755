/-
# ExportDocs.Proofs.Imports.Meaning -- what a project says about a file

The symbols of the files of a project are given by one equation for each file: what its extraction
yields if each of its local requests is answered with the symbols of the file that it names.  This
module shows that processing a file succeeds exactly where these equations determine its symbols,
and then gives them.

* `process_meaning`: a file is processed if and only if everything that it reaches is intact and
  there is no cycle in it, and its symbols are the one solution of the equations.
-/
import ExportDocs.Proofs.Imports.Reuse

namespace ExportDocs.Project

set_option autoImplicit false

open Relation (TransGen)

/-- The symbols solve the equation of a file. -/
def Solves (project : Project) (symbols : Path → List Symbol) (file : Path) : Prop :=
  ∃ extraction, project.Yields file (project.answersBy symbols file) extraction ∧
    symbols file = extraction.symbols

variable {project : Project} {Proper : Path → Prop} {bound : Nat}

/-- A result has the symbols of every solution. -/
theorem symbols_eq_of_solves (modules : project.ReadsModules) {symbols : Path → List Symbol}
    (limit : Nat) : ∀ (stack : Stack) (file : Path) (result : FileResult),
      project.outcome limit stack file = .ok result →
      (∀ target, project.Reaches file target → project.Solves symbols target) →
      result.symbols = symbols file := by
  induction limit with
  | zero => simp [outcome]
  | succ limit ih =>
      intro stack file result ok solves
      obtain ⟨extraction, rfl, yields⟩ := yields_of_outcome modules ok
      have same : ∀ target, project.Imports file target →
          project.symbolsIn limit (file :: stack) target = symbols target := by
        intro target imports
        obtain ⟨found, ran⟩ := outcome_of_imports modules ok imports
        rw [symbolsIn_of_outcome ran]
        exact ih _ _ found ran fun further reaches => solves further (.head imports reaches)
      obtain ⟨extraction', yields', solution⟩ := solves file .refl
      rw [solution, ← (yields.of_answersBy same).unique yields']
      rfl

theorem Clear.reaches {stack : Stack} {file target : Path} (clear : project.Clear stack file)
    (reaches : project.Reaches file target) : project.Clear stack target :=
  fun further onward => clear further (reaches.trans onward)

theorem clear_nil_iff {file : Path} : project.Clear [] file ↔
    (∀ target, project.Reaches file target → project.Intact target) ∧
      ∀ target, project.Reaches file target → ¬ TransGen project.Imports target target := by
  constructor
  · intro clear
    exact ⟨fun target reaches => (clear target reaches).1,
      fun target reaches => (clear target reaches).2.2⟩
  · rintro ⟨intact, acyclic⟩ target reaches
    exact ⟨intact target reaches, List.not_mem_nil, acyclic target reaches⟩

theorem HasRoom.reaches {limit : Nat} {stack : Stack} {file target : Path}
    (bounded : project.Bounded Proper bound)
    (room : project.HasRoom Proper bound limit stack file)
    (reaches : project.Reaches file target) : project.HasRoom Proper bound limit stack target := by
  induction reaches with
  | refl => exact room
  | tail _ imports ih => exact ⟨ih.1, bounded.imports _ _ ih.2.1 imports, ih.2.2⟩

/-- The symbols of the results solve the equations. -/
theorem solves_symbolsIn {limit : Nat} {file : Path} (modules : project.ReadsModules)
    (bounded : project.Bounded Proper bound) (room : project.HasRoom Proper bound limit [] file)
    (clear : project.Clear [] file) : project.Solves (project.symbolsIn limit []) file := by
  obtain ⟨limit, rfl⟩ := Nat.exists_eq_add_one.2 (room.limit_pos bounded)
  obtain ⟨result, ok⟩ := (outcome_ok_iff modules bounded _ _ _ room).2 clear
  obtain ⟨extraction, rfl, yields⟩ := yields_of_outcome modules ok
  refine ⟨extraction, yields.of_answersBy fun target imports => ?_, symbolsIn_of_outcome ok⟩
  -- Inside the file an import has the result that it has on its own.
  obtain ⟨inside, ran⟩ := outcome_of_imports modules ok imports
  obtain ⟨alone, ran'⟩ := (outcome_ok_iff modules bounded _ _ _
    (room.reaches bounded (.single imports))).2 (clear.reaches (.single imports))
  rw [symbolsIn_of_outcome ran, symbolsIn_of_outcome ran',
    outcome_agree modules _ _ _ _ _ _ _ ran ran']

/-- **Processing a file gives the one solution of its equations, exactly where nothing is wrong.**
Without reuse, a file with an absolute path is processed successfully if and only if every file that
it reaches can be read and extracted and finds what it requests locally, and none of them lies on a
cycle.  There is then one way to give each reached file symbols such that those of every file are
what its extraction yields with the symbols of the files that it imports, each resolved against the
file itself; and the result has these symbols. -/
theorem process_meaning (settings : Settings) (files : FileTree) (root entry : Path)
    (verbosity : Nat) (absolute : entry.root ≠ .current) :
    let project := (ofModules settings files root verbosity).withReuse false
    let outcome := ((project.process entry).runFrom {}).1
    ((∃ result, outcome = .ok result) ↔
      (∀ file, project.Reaches entry.normalize file → project.Intact file) ∧
      ∀ file, project.Reaches entry.normalize file → ¬ TransGen project.Imports file file) ∧
    ∀ result, outcome = .ok result → ∃ symbols : Path → List Symbol,
      (∀ file, project.Reaches entry.normalize file → project.Solves symbols file) ∧
      result.symbols = symbols entry.normalize ∧
      ∀ symbols' : Path → List Symbol,
        (∀ file, project.Reaches entry.normalize file → project.Solves symbols' file) →
        ∀ file, project.Reaches entry.normalize file → symbols' file = symbols file := by
  intro project outcome
  have modules : project.ReadsModules := rfl
  have bounded := project.bounded_of_rooted
  have room := project.hasRoom_start absolute
  have runs : outcome = project.outcome project.limit [] entry.normalize :=
    (processWith_follows modules bounded project.limit entry {} room .start).outcome
  have succeeds := outcome_ok_iff modules bounded project.limit [] entry.normalize room
  rw [runs]
  refine ⟨succeeds.trans clear_nil_iff, fun result ok => ?_⟩
  have clear := succeeds.1 ⟨result, ok⟩
  refine ⟨project.symbolsIn project.limit [], fun file reaches => ?_,
    (symbolsIn_of_outcome ok).symm, fun symbols' solves file reaches => ?_⟩
  · exact solves_symbolsIn modules bounded (room.reaches bounded reaches) (clear.reaches reaches)
  · obtain ⟨found, ran⟩ := (outcome_ok_iff modules bounded _ _ _
      (room.reaches bounded reaches)).2 (clear.reaches reaches)
    rw [symbolsIn_of_outcome ran]
    exact (symbols_eq_of_solves modules _ _ _ found ran
      fun target onward => solves target (reaches.trans onward)).symm

/-- A chain through a directory: each specifier is resolved against its own file. -/
theorem process_meaning_of_chain :
    let files : FileTree := { files :=
      [(["index.js".toList], .text "export * from './lib/a.js'".toList),
        (["lib".toList, "a.js".toList], .text "export * from './b'".toList),
        (["lib".toList, "b.js".toList], .text "export const one = 1".toList)] }
    let project := (ofModules {} files (Path.ofText ['/']) 0).withReuse false
    let entry := Path.ofText "/index.js".toList
    entry.root ≠ .current ∧ ∃ result symbols,
      ((project.process entry).runFrom {}).1 = .ok result ∧
      (∀ file, project.Reaches entry.normalize file → project.Solves symbols file) ∧
      result.symbols = symbols entry.normalize ∧
      result.symbols.map Symbol.name = ["one".toList] ∧
      ¬ TransGen project.Imports entry.normalize entry.normalize := by
  intro files project entry
  have absolute : entry.root ≠ .current := by decide
  have returned : ((project.process entry).runFrom {}).1.toOption.map
      (fun result => result.symbols.map Symbol.name) = some ["one".toList] := by decide +kernel
  obtain ⟨succeeds, meaning⟩ := process_meaning {} files (Path.ofText ['/']) entry 0 absolute
  cases ran : ((project.process entry).runFrom {}).1 with
  | error error =>
      rw [ran] at returned
      cases returned
  | ok result =>
      rw [ran] at returned
      obtain ⟨symbols, solves, same, -⟩ := meaning result ran
      exact ⟨absolute, result, symbols, rfl, solves, same, Option.some.inj returned,
        (succeeds.1 ⟨result, ran⟩).2 _ .refl⟩

end ExportDocs.Project
