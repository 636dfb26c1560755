/-
# ExportDocs.Proofs.Imports.Provenance -- where symbols come from, and what they keep on the way

A symbol can be exported again by any number of files, under any names.  Two things stay true of it:
it stands in one of the files that were handed to the engine (`symbols_stand_in_handed_files`), and
along a chain of files of which each takes it from the one before, its documentation is the one that
it had at the start (`documentation_survives_reexports`).  How a file takes a name is said about its
tokens (`Clause.Hop`), for imports that are read as they are written; one that is misread loses the
documentation (`misread_imports_lose_documentation`).

Both are about results of the running program, which are what the files come to (`Comes`): the first
is an induction over that relation, the second one over the chain.
-/
import ExportDocs.Proofs.Exports.Hop
import ExportDocs.Proofs.Exports.Places
import ExportDocs.Proofs.Imports.Account

namespace ExportDocs.Project

set_option autoImplicit false

variable {project : Project} {events : List Event} {file : Path} {result : FileResult}

/-- A file with an outline is extracted, whatever it is told. -/
theorem yields_of_outline {source : Text} {outline : Outline}
    (read : project.files.read file = .ok source)
    (outlined : Outline.ofSource (project.relative file) project.settings.undocumented source =
      .ok outline) (answers : Text → List Symbol) :
    project.Yields file answers
      { symbols := Id.run (outline.document answers), tokens := outline.dump
        statements := outline.statements } :=
  ⟨source, read, by rw [extract, outlined]; rfl⟩

theorem exists_outline_of_yields {answers : Text → List Symbol} {extraction : Extraction}
    (yields : project.Yields file answers extraction) :
    ∃ source outline, project.files.read file = .ok source ∧
      Outline.ofSource (project.relative file) project.settings.undocumented source =
        .ok outline ∧ project.requests file = outline.requests := by
  obtain ⟨source, read, extracted⟩ := yields
  cases outlined : Outline.ofSource (project.relative file) project.settings.undocumented
    source with
  | error fault =>
      rw [extract, outlined] at extracted
      cases extracted
  | ok outline =>
      refine ⟨source, outline, read, outlined, ?_⟩
      rw [requests_of_read read, requested_eq, requestsOf, outlined]

/-! ## Origins -/

/-- A symbol stands in a file: it has the path of the file, starts on the line of one of its
statements, and its lines are lines of the file. -/
structure StandsIn (project : Project) (file : Path) (symbol : Symbol) : Prop where
  path : symbol.path = project.relative file
  statement : ∀ answers, ∃ extraction, project.Yields file answers extraction ∧
    ∃ statement ∈ extraction.statements, statement.line = symbol.firstLine
  lines : ∃ source, project.files.read file = .ok source ∧ 1 ≤ symbol.firstLine ∧
    symbol.firstLine ≤ symbol.lastLine ∧ symbol.lastLine ≤ 1 + Text.newlines source

namespace StandsIn

/-- Another name does not change where a symbol stands. -/
theorem renamed {symbol : Symbol} (stands : project.StandsIn file symbol) (name : Text)
    (isDefault : Bool) : project.StandsIn file (symbol.renamed name isDefault) :=
  ⟨stands.path, stands.statement, stands.lines⟩

theorem of_places {source : Text} {outline : Outline}
    (read : project.files.read file = .ok source)
    (outlined : Outline.ofSource (project.relative file) project.settings.undocumented source =
      .ok outline) {symbol : Symbol} (places : outline.Places (1 + Text.newlines source) symbol) :
    project.StandsIn file symbol := by
  obtain ⟨samePath, -⟩ := Outline.reads_of_ofSource outlined
  refine ⟨places.path.trans samePath, fun answers => ?_,
    source, read, places.positive, places.order, by simpa using places.inside⟩
  exact ⟨_, yields_of_outline read outlined answers, places.statement⟩

end StandsIn

/-- The answers of imported files have a property if what these files come to has it. -/
theorem forall_answersBy {P : Symbol → Prop} {results : Path → FileResult}
    (each : ∀ target, project.Imports file target → ∀ symbol ∈ (results target).symbols, P symbol)
    {specifier : Text} (asked : specifier ∈ project.requests file) :
    ∀ symbol ∈ project.answersBy (fun target => (results target).symbols) file specifier,
      P symbol := by
  intro symbol member
  unfold answersBy at member
  split at member
  · rename_i isLocal
    cases resolved : project.resolve file specifier with
    | error error => simp [resolved] at member
    | ok path =>
        rw [resolved] at member
        exact each _ ⟨specifier, asked, isLocal, path, resolved, rfl⟩ symbol member
  · cases member

/-- Every symbol of what a file comes to stands in a file that was handed to the engine. -/
theorem Comes.standsIn (comes : project.Comes events file result) :
    ∀ symbol ∈ result.symbols, ∃ origin,
      .handed origin (project.relative origin) ∈ events ∧ project.StandsIn origin symbol := by
  induction comes with
  | @intro file results extraction handed _ yields ih =>
      obtain ⟨source, outline, read, outlined, -⟩ := exists_outline_of_yields yields
      -- What is not requested is not answered either, and so needs no origin.
      have quiet : project.Yields file (fun specifier =>
          if specifier ∈ project.requests file then
            project.answersBy (fun target => (results target).symbols) file specifier
          else []) extraction :=
        yields.congr fun specifier asked => (if_pos asked).symm
      cases quiet.unique (yields_of_outline read outlined _)
      refine Outline.forall_document ?_ (fun record member => ?_) fun specifier => ?_
      · rintro symbol name isDefault ⟨origin, there, stands⟩
        exact ⟨origin, there, stands.renamed name isDefault⟩
      · obtain ⟨made, placeholder⟩ := Outline.places_of_ofSource outlined member
        refine ⟨fun symbol inRecord => ?_, fun statement stated name kind => ?_⟩
        · exact ⟨file, handed, .of_places read outlined (made symbol inRecord)⟩
        · exact ⟨file, handed, .of_places read outlined (placeholder statement stated name kind)⟩
      · split
        · rename_i asked
          exact forall_answersBy ih asked
        · simp

/-- **Every symbol stands in a file of the run.**  Whatever a file exports after a successful run,
under whatever name and over however many files: it has the path of a file that was handed to the
engine in this run, it starts on the line of one of that file's statements, and it ends within that
file. -/
theorem symbols_stand_in_handed_files (settings : Settings) (files : FileTree) (root : Path)
    (verbosity : Nat) (reuse : Bool) (entry : Path) (result : FileResult) (walk : Walk) :
    let project := (ofModules settings files root verbosity).withReuse reuse
    (project.process entry).runFrom {} = (.ok result, walk) →
    ∀ symbol ∈ result.symbols, ∃ file,
      .handed file (project.relative file) ∈ walk.events ∧ project.StandsIn file symbol := by
  intro project ran
  have modules : project.ReadsModules := rfl
  have settles := processWith_settles modules project.limit entry {} .start
  rw [show (project.processWith project.limit entry).runFrom {} = _ from ran] at settles
  exact (settles.means result rfl).standsIn

/-! Four files, of which each takes the export of the one before it in another way. -/

def relaySource : Nat → Text
  | 0 => "/** One. */\nexport default function one() {}".toList
  | 1 => "import x from './a'; export { x as two }".toList
  | 2 => "export * from './b'".toList
  | _ => "export { two as default } from './c'".toList

def relayFiles : FileTree := { files :=
  [(["a.js".toList], .text (relaySource 0)), (["b.js".toList], .text (relaySource 1)),
    (["c.js".toList], .text (relaySource 2)), (["d.js".toList], .text (relaySource 3))] }

def relay : Project := (ofModules {} relayFiles (Path.ofText ['/']) 0).withReuse true

def relayPath : Nat → Path
  | 0 => Path.ofText "/a.js".toList
  | 1 => Path.ofText "/b.js".toList
  | 2 => Path.ofText "/c.js".toList
  | _ => Path.ofText "/d.js".toList

/-- What each of the files exports. -/
def relaySymbol (i : Nat) : Symbol :=
  { path := "a.js".toList, kind := .function, description := "One.".toList
    firstLine := 2, lastLine := 2, isDefault := i == 0 || i == 3
    name := match i with
      | 0 => "one".toList
      | 1 | 2 => "two".toList
      | _ => "default".toList }

section RelayTokens

open Clause

/-- A word of code in the first line. -/
def relayCode (type : TokenClass) (word : String)
    (code : type.isString = false ∧ type ≠ .punctuation) : Code word :=
  ⟨⟨type, word.toList, 1⟩, code.1, by simpa [Token.isPunctuation] using code.2, by simp [Token.spells]⟩

/-- The local name of the second file. -/
def relayWord : Word := ⟨⟨.identifier, ['x'], 1⟩, by decide⟩

/-- The name under which the second and the third file export. -/
def relayName : Name := .word ⟨⟨.identifier, "two".toList, 1⟩, by decide⟩

def relayBraces (name newName : Name) : Braces where
  opener := Declaration.markOf '{'
  separated := []
  last := some ⟨name, some (relayCode .reserved "as" (by decide), newName)⟩
  trailing := none
  closer := Declaration.markOf '}'

def relayLink : Code "from" := relayCode .reserved "from" (by decide)

def relayExport : Code "export" := relayCode .keyword "export" (by decide)

/-- The import of the second file. -/
def relayImport : List Token :=
  importTokens (relayCode .keyword "import" (by decide)) (defaultTokens relayWord none) relayLink
    ⟨false, "./a".toList, 1⟩

/-- The statements that export in the second to the fourth file. -/
def relayBody : Nat → Body
  | 1 => .exportsNamed relayExport (relayBraces (.word relayWord) relayName) none
  | 2 => .exportsAll relayExport (relayCode .operator "*" (by decide)) none relayLink
      ⟨false, "./b".toList, 1⟩
  | _ => .exportsNamed relayExport
      (relayBraces relayName (.word ⟨⟨.keyword, "default".toList, 1⟩, by decide⟩))
      (some (relayLink, ⟨false, "./c".toList, 1⟩))

def relayTokens (i : Nat) : List Token :=
  (if i = 1 then relayImport ++ [(Declaration.markOf ';').1] else []) ++ (relayBody i).written

end RelayTokens

theorem relay_runs : ∀ i ≤ 3,
    ((relay.process (relayPath i)).runFrom {}).1.toOption.map
      (fun result => (result.path, result.symbols)) = some (relayPath i, [relaySymbol i]) ∧
    relay.files.read (relayPath i) = .ok (relaySource i) ∧
    (0 < i → Lexer.tokens (relaySource i) = relayTokens i) := by
  decide +kernel

theorem exists_relay_result {i : Nat} (le : i ≤ 3) : ∃ result,
    ((relay.process (relayPath i)).runFrom {}).1 = .ok result ∧ result.path = relayPath i ∧
    result.symbols = [relaySymbol i] := by
  have runs := (relay_runs i le).1
  cases ran : ((relay.process (relayPath i)).runFrom {}).1 with
  | error error => simp [ran, Except.toOption] at runs
  | ok result =>
      rw [ran] at runs
      simpa [Except.toOption] using runs

/-- The symbol of the last of the four files. -/
theorem relayed_symbol_stands_in_handed_file : ∃ result walk,
    (relay.process (relayPath 3)).runFrom {} = (.ok result, walk) ∧
    result.symbols = [relaySymbol 3] ∧
    ∃ file, .handed file (relay.relative file) ∈ walk.events ∧
      relay.StandsIn file (relaySymbol 3) := by
  obtain ⟨result, ran, -, symbols⟩ := exists_relay_result (show 3 ≤ 3 by decide)
  refine ⟨result, _, Prod.ext ran rfl, symbols, ?_⟩
  exact symbols_stand_in_handed_files {} relayFiles (Path.ofText ['/']) 0 true _ result _
    (Prod.ext ran rfl) _ (by simp [symbols])

/-! ## Chains of re-exports -/

/-- The states in which a file may come to be processed: that of a fresh walk, and what events,
changes of the stack and the processing of files make of such a state.  They include those in which
a run processes the files that it imports. -/
inductive Arises (project : Project) : Walk → Prop
  | start : Arises project {}
  | noted {walk : Walk} (events : List Event) : Arises project walk →
      Arises project (walk.noted events)
  | restack {walk : Walk} (stack : Stack) : Arises project walk →
      Arises project (walk.restack stack)
  | processed {walk : Walk} (limit : Nat) (path : Path) : Arises project walk →
      Arises project ((project.processWith limit path).runFrom walk).2

/-- The processing of a file gives this result, at whatever point of whatever run. -/
def Gives (project : Project) (result : FileResult) : Prop :=
  ∃ limit path walk, project.Arises walk ∧
    ((project.processWith limit path).runFrom walk).1 = .ok result

/-- The text of a file takes a name from another file, under a new name. -/
def TakesFrom (project : Project) (importer file : Path) (name newName : Text) : Prop :=
  ∃ source specifier path, project.files.read importer = .ok source ∧
    project.settings.isLocal specifier ∧ project.resolve importer specifier = .ok path ∧
    path.normalize = file ∧ Clause.Hop (Lexer.tokens source) specifier name newName

theorem Arises.sound (modules : project.ReadsModules) {walk : Walk} (arises : project.Arises walk) :
    project.Sound walk := by
  induction arises with
  | start => exact .start
  | noted events _ ih => exact ih.noted events
  | restack stack _ ih => exact ih.restack stack
  | processed limit path _ ih => exact (processWith_settles modules limit path _ ih).sound

theorem Gives.comes (modules : project.ReadsModules) (gives : project.Gives result) :
    ∃ events, project.Comes events result.path result := by
  obtain ⟨limit, path, walk, arises, ran⟩ := gives
  have settles := processWith_settles modules limit path walk (arises.sound modules)
  have comes := settles.means result ran
  exact ⟨_, comes.path_eq ▸ comes⟩

/-- One hop: a name that is taken from a file keeps its documentation. -/
theorem Comes.documentation_of_takes {later : List Event} {importer : FileResult}
    {name newName : Text} {symbol entry : Symbol} (comes : project.Comes events result.path result)
    (importing : project.Comes later importer.path importer)
    (takes : project.TakesFrom importer.path result.path name newName)
    (only : Symbol.IsOnly result.symbols name symbol)
    (onlyEntry : Symbol.IsOnly importer.symbols newName entry) :
    entry.documentation = symbol.documentation := by
  obtain ⟨text, specifier, path, held, isLocal, resolved, same, hop⟩ := takes
  generalize base : importer.path = file at importing resolved held
  cases importing with
  | @intro _ results extraction handed imported yields =>
      obtain ⟨source, outline, read, outlined, requests⟩ := exists_outline_of_yields yields
      cases yields.unique (yields_of_outline read outlined _)
      rw [held] at read
      cases read
      have takes := hop.takes outlined
      have asked : specifier ∈ project.requests file := requests ▸ takes.asked outlined
      have told : project.answersBy (fun target => (results target).symbols) file specifier =
          result.symbols := by
        have there := imported _ ⟨specifier, asked, isLocal, path, resolved, same⟩
        simp only [answersBy, isLocal, if_true, resolved, same]
        rw [there.unique comes]
      obtain ⟨found, member, called, documented⟩ := takes.documents outlined (told ▸ only)
      rw [← onlyEntry.eq member called]
      exact documented

/-- **Documentation survives re-exports.**  Take results that the processing of files gave, and in
each of them the only symbol with some exported name, such that the text of each file takes this name
from the file before.  Then the last symbol has the documentation of the first one. -/
theorem documentation_survives_reexports (settings : Settings) (files : FileTree) (root : Path)
    (verbosity : Nat) (reuse : Bool) (k : Nat) (result : Nat → FileResult) (name : Nat → Text)
    (symbol : Nat → Symbol) :
    let project := (ofModules settings files root verbosity).withReuse reuse
    (∀ i ≤ k, project.Gives (result i)) →
    (∀ i ≤ k, Symbol.IsOnly (result i).symbols (name i) (symbol i)) →
    (∀ i < k, project.TakesFrom (result (i + 1)).path (result i).path (name i) (name (i + 1))) →
    (symbol k).documentation = (symbol 0).documentation := by
  intro project gives only takes
  have modules : project.ReadsModules := rfl
  induction k with
  | zero => rfl
  | succ k ih =>
      have before := ih (fun i le => gives i (by omega)) (fun i le => only i (by omega))
        fun i lt => takes i (by omega)
      obtain ⟨_, comes⟩ := (gives k (by omega)).comes modules
      obtain ⟨_, importing⟩ := (gives (k + 1) (by omega)).comes modules
      have hop := comes.documentation_of_takes importing (takes k (by omega)) (only k (by omega))
        (only (k + 1) (by omega))
      exact hop.trans before

section RelayHops

open Clause

theorem relay_stands : StandsAt relayImport (relayTokens 1) ⟨0, 4⟩ ∧
    StandsAt (relayBody 1).written (relayTokens 1) ⟨5, 10⟩ ∧
    StandsAt (relayBody 2).written (relayTokens 2) ⟨0, 3⟩ ∧
    StandsAt (relayBody 3).written (relayTokens 3) ⟨0, 7⟩ :=
  ⟨⟨by decide +kernel, some (Declaration.markOf ';'), by decide⟩, ⟨by decide +kernel, none, by decide⟩,
    ⟨by decide +kernel, none, by decide⟩, ⟨by decide +kernel, none, by decide⟩⟩

theorem relay_hop {i : Nat} (lt : i < 3) : Hop (relayTokens (i + 1))
    (["./a".toList, "./b".toList, "./c".toList].getD i []) (relaySymbol i).exportedName
    (relaySymbol (i + 1)).exportedName := by
  obtain ⟨importing, first, second, third⟩ := relay_stands
  have last : IsLastImport (relayTokens 1) ⟨0, 4⟩ ['x'] := ⟨by decide +kernel, by decide +kernel⟩
  obtain rfl | rfl | rfl : i = 0 ∨ i = 1 ∨ i = 2 := by omega
  · refine .imported ['x'] ⟨0, 4⟩ ?_ last ⟨_, _, _, first, List.mem_cons_self⟩
    exact .byDefault _ relayWord none _ _ importing rfl rfl rfl (by decide) List.not_mem_nil
  · exact .whole _ _ _ _ _ second rfl (by decide) rfl
  · exact .named _ _ _ _ _ third rfl List.mem_cons_self

end RelayHops

/-- A default import that is exported again, an export of everything, and a named export. -/
theorem documentation_survives_relay : ∃ result : Nat → FileResult,
    (∀ i ≤ 3, relay.Gives (result i)) ∧
    (∀ i ≤ 3, Symbol.IsOnly (result i).symbols (relaySymbol i).exportedName (relaySymbol i)) ∧
    (∀ i < 3, relay.TakesFrom (result (i + 1)).path (result i).path (relaySymbol i).exportedName
      (relaySymbol (i + 1)).exportedName) ∧
    (relaySymbol 3).documentation = (relaySymbol 0).documentation := by
  have each : ∀ i ≤ 3, _ := fun i le => exists_relay_result le
  choose! result ran path symbols using each
  have gives : ∀ i ≤ 3, relay.Gives (result i) := fun i le => ⟨_, _, _, .start, ran i le⟩
  have only : ∀ i ≤ 3,
      Symbol.IsOnly (result i).symbols (relaySymbol i).exportedName (relaySymbol i) := by
    intro i le
    rw [symbols i le]
    simp [Symbol.IsOnly]
  have takes : ∀ i < 3, relay.TakesFrom (result (i + 1)).path (result i).path
      (relaySymbol i).exportedName (relaySymbol (i + 1)).exportedName := by
    intro i lt
    have hop := relay_hop lt
    rw [path i (by omega), path (i + 1) (by omega)]
    obtain ⟨-, held, written⟩ := relay_runs (i + 1) (by omega)
    rw [← written (by omega)] at hop
    refine ⟨_, _, relayPath i, held, ?_, ?_, ?_, hop⟩
    all_goals
      obtain rfl | rfl | rfl : i = 0 ∨ i = 1 ∨ i = 2 := by omega
      all_goals decide +kernel
  exact ⟨result, gives, only, takes, documentation_survives_reexports {} relayFiles
    (Path.ofText ['/']) 0 true 3 result _ _ gives only takes⟩

/-! ## Imports that are misread -/

/-- Three files take the default export of the first one: under the name `type`, under a name outside
ASCII, and under a name that also stands as the default value of a declaration. -/
def misreadFiles : FileTree := { files :=
  [(["a.js".toList], .text "/** One. */\nexport default function one() {}".toList),
    (["b.js".toList], .text "import type from './a.js'; export { type as y };".toList),
    (["c.js".toList], .text "import é from './a.js'; export { é as y };".toList),
    (["d.js".toList], .text
      "import { default as b } from './a.js'; const { a = b } = o; export { b as y };".toList)] }

/-- What is made of an import that is misread: a symbol without a description, at its own place. -/
def misreadSymbol (path : String) (kind : Kind) : Symbol :=
  { path := path.toList, name := ['y'], kind, description := "Undocumented declaration.".toList
    firstLine := 1, lastLine := 1 }

/-- **An import that is misread loses the documentation.**  The first file exports a documented
function by default; each of the others imports it and exports it as `y`, and has another symbol
instead.  The first two imports are left out, the last one is taken for a declaration. -/
theorem misread_imports_lose_documentation :
    let project := (ofModules {} misreadFiles (Path.ofText ['/']) 0).withReuse true
    let symbols := fun file : String =>
      ((project.process (Path.ofText file.toList)).runFrom {}).1.toOption.map (·.symbols)
    symbols "/a.js" = some [{ path := "a.js".toList, name := "one".toList, kind := .function
                              description := "One.".toList, firstLine := 2, lastLine := 2
                              isDefault := true }] ∧
    symbols "/b.js" = some [misreadSymbol "b.js" .unknown] ∧
    symbols "/c.js" = some [misreadSymbol "c.js" .unknown] ∧
    symbols "/d.js" = some [misreadSymbol "d.js" .binding] := by
  decide +kernel

end ExportDocs.Project
