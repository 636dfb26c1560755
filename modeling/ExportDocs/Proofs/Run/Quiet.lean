/-
# ExportDocs.Proofs.Run.Quiet -- runs at two verbosities

A run at a lower verbosity has at every point the files and the output of the run at a higher one,
and of its messages those that the lower verbosity shows (`World.Quieter`).  Stages do look at the
verbosity: a message is dropped where it is logged, and the title is not even offered to the log of
a quiet run.  So the law is proved step by step, for every stage (`Stage.run_quietly`).

Formatters are code of the host.  They may log; what is assumed of them is that they go the same way
at all verbosities (`Host.IgnoresVerbosity`).
-/
import ExportDocs.CommandLine
import ExportDocs.Proofs.Imports.Quiet
import ExportDocs.Proofs.Run.Host

namespace ExportDocs

set_option autoImplicit false

/-! ## Worlds and actions -/

namespace World

/-- The same world at a lower verbosity. -/
structure Quieter (few many : Nat) (quiet loud : World) : Prop where
  files : quiet.files = loud.files
  output : quiet.output = loud.output
  messages : quiet.messages = shown few loud.messages
  few : quiet.verbosity = few
  many : loud.verbosity = many

/-- Two steps of runs at two verbosities. -/
abbrev Quietly {α ε : Type} (few many : Nat) (step step' : ExceptT ε (StateM World) α) : Prop :=
  Lockstep (Quieter few many) step step'

variable {few many : Nat}

/-- A message that the lower verbosity does not show may be logged by the louder run alone. -/
theorem Quieter.logged_loud {quiet loud : World} (related : Quieter few many quiet loud)
    {level : Level} (hidden : ¬ level.isShown few = true) (message : Text) :
    Quieter few many quiet (loud.logged level message) := by
  have hides := mt Level.isShown_iff.2 hidden
  unfold World.logged
  split
  · exact ⟨related.files, related.output, by simp [shown, hides, related.messages], related.few,
      related.many⟩
  · exact related

/-- A message is logged by both runs, by the louder one, or by none. -/
theorem Quieter.logged (fewer : few ≤ many) {quiet loud : World}
    (related : Quieter few many quiet loud) (level : Level) (message : Text) :
    Quieter few many (quiet.logged level message) (loud.logged level message) := by
  by_cases shows : level.isShown few = true
  · have within := Level.isShown_iff.1 shows
    have quietly : level.isShown quiet.verbosity = true := by rw [related.few, shows]
    have loudly : level.isShown loud.verbosity = true := by
      rw [related.many, Level.isShown_mono fewer shows]
    rw [World.logged, World.logged, if_pos quietly, if_pos loudly]
    exact ⟨related.files, related.output, by simp [shown, within, related.messages], related.few,
      related.many⟩
  · have dropped : quiet.logged level message = quiet := if_neg (by rwa [related.few])
    rw [dropped]
    exact related.logged_loud shows message

/-- Changing the files in the same way. -/
theorem Quieter.withFiles {quiet loud : World} (related : Quieter few many quiet loud)
    (files : FileTree) : Quieter few many { quiet with files } { loud with files } :=
  ⟨rfl, related.output, related.messages, related.few, related.many⟩

end World

open World (Quieter Quietly)

namespace Action

variable {few many : Nat} {α ε : Type}

theorem log_quietly (fewer : few ≤ many) (level : Level) (message : Text) :
    Quietly few many (Action.log level message) (Action.log level message) :=
  .of_modify fun _ _ related => related.logged fewer level message

theorem ofExcept_quietly (cause : ε → Cause) (result : Except ε α) :
    Quietly few many (Action.ofExcept cause result) (Action.ofExcept cause result) := by
  cases result with
  | ok a => exact .of_pure a
  | error e => exact .of_throw _

theorem read_quietly (path : Path) : Quietly few many (Action.read path) (Action.read path) := by
  refine .get_bind fun quiet loud related => ?_
  rw [related.files]
  exact ofExcept_quietly _ _

theorem update_quietly (update : FileTree → Except FileFault FileTree) :
    let step : Action Unit := do
      let files ← Action.ofExcept .file (update (← get).files)
      modify fun world => { world with files }
    Quietly few many step step := by
  refine .get_bind fun quiet loud related => ?_
  rw [related.files]
  exact .bind (ofExcept_quietly _ _) fun files => .of_modify fun _ _ related =>
    related.withFiles files

theorem write_quietly (path : Path) (text : Text) :
    Quietly few many (Action.write path text) (Action.write path text) :=
  update_quietly fun files => files.write path text

theorem makeDirectory_quietly (path : Path) :
    Quietly few many (Action.makeDirectory path) (Action.makeDirectory path) :=
  update_quietly fun files => files.makeDirectory path

theorem writeString_quietly (path : Path) (string : HostString) :
    Quietly few many (Action.writeString path string) (Action.writeString path string) := by
  cases string with
  | text text => exact .bind (write_quietly path text) fun _ => .of_pure text
  | unencodable codes => exact .bind (write_quietly path []) fun _ => .of_throw _

end Action

/-! ## Code of the host -/

namespace Host

/-- Code of formatters goes the same way at all verbosities: it neither looks at the verbosity and
the log nor changes the verbosity.  It may log messages. -/
structure IgnoresVerbosity (host : Host) : Prop where
  execute : ∀ path content few many, few ≤ many →
    Quietly few many (host.execute path content) (host.execute path content)
  format : ∀ formatter, host.Defines formatter → ∀ root document symbols heading few many,
    few ≤ many → Quietly few many (formatter root document symbols heading)
      (formatter root document symbols heading)

variable {few many : Nat} {α : Type}

theorem act_quietly {code code' : HostM α} (codes : Quietly few many code code') (path : Path) :
    Quietly few many (HostM.act path code) (HostM.act path code') := by
  refine .bind codes.lift fun outcome => ?_
  split
  · exact .of_pure _
  · exact .of_throw _
  · exact .of_throw _

theorem keepCompiled_quietly (host : Host) (path : Path) (content : Content) :
    Quietly few many (host.keepCompiled path content) (host.keepCompiled path content) := by
  refine .get_bind fun quiet loud related => ?_
  rw [related.files]
  split
  · exact .of_modify fun _ _ related => by
      rw [related.files]
      exact related.withFiles _
  · exact .of_pure ()

variable {host : Host} (ignores : host.IgnoresVerbosity) (fewer : few ≤ many)

include ignores fewer

theorem load_quietly (path : Path) : Quietly few many (host.load path) (host.load path) := by
  unfold load
  dsimp only
  split
  · exact .of_throw _
  refine .get_bind fun quiet loud related => ?_
  rw [related.files]
  split
  · exact .of_throw _
  · refine .bind (keepCompiled_quietly host _ _) fun _ => ?_
    refine .bind (act_quietly (ignores.execute _ _ few many fewer) path) fun defined => ?_
    cases defined with
    | none => exact .of_throw _
    | some formatter => exact .of_pure formatter

theorem renderCustom_quietly (path : Path) (place : Report.Place) (symbols : Option (List Symbol))
    (heading : Option Text) :
    Quietly few many (Report.renderCustom host path place symbols heading)
      (Report.renderCustom host path place symbols heading) := by
  refine .bind_returned (load_quietly ignores fewer path) fun formatter loaded => ?_
  obtain ⟨world, loaded⟩ := loaded
  have codes := ignores.format formatter (load_defines loaded) place.root place.document symbols
    heading few many fewer
  refine .bind (Action.log_quietly fewer _ _) fun _ => .bind (act_quietly codes path)
    fun value => ?_
  cases value with
  | string codes => exact .of_pure _
  | other type => exact .of_throw _

end Host

/-! ## Stages -/

section Stages

variable {few many : Nat} (fewer : few ≤ many) {α : Type}

theorem RunM.print_quietly (line : Text) :
    Quietly few many (RunM.print line) (RunM.print line) :=
  .of_modify fun _ _ related => ⟨related.files, by rw [related.output], related.messages,
    related.few, related.many⟩

theorem RunM.fail_quietly (error : Error) :
    Quietly few many (RunM.fail error : RunM α) (RunM.fail error) := by
  unfold RunM.fail
  split
  · exact .bind (RunM.print_quietly _) fun _ => .of_throw _
  · exact .of_throw _

theorem RunM.fail_stops {error : Error} {a : α} {world : World} :
    ((RunM.fail error : RunM α).run.run world).1 ≠ .ok a := by
  intro returned
  unfold RunM.fail at returned
  split at returned <;> cases returned

theorem RunM.exitWith_quietly (status : Nat) (line : Text) :
    Quietly few many (RunM.exitWith status line : RunM α) (RunM.exitWith status line) :=
  .bind (RunM.print_quietly line) fun _ => .of_throw _

theorem RunM.act_quietly {action action' : Action α} (actions : Quietly few many action action') :
    Quietly few many (RunM.act action) (RunM.act action') := by
  refine .bind actions.lift fun outcome => ?_
  cases outcome with
  | ok a => exact .of_pure a
  | error error => exact RunM.fail_quietly error

include fewer

theorem RunM.log_quietly (level : Level) (message : Text) :
    Quietly few many (RunM.log level message) (RunM.log level message) :=
  .of_modify fun _ _ related => related.logged fewer level message

theorem Document.append_quietly (settings : Settings) (path : Path) (token content : Text)
    (output : Path) :
    Quietly few many (Document.append settings path token content output)
      (Document.append settings path token content output) := by
  refine .bind (Action.read_quietly path) fun text => ?_
  dsimp only
  split
  · exact .of_throw _
  · refine .bind (Action.log_quietly fewer _ _) fun _ => ?_
    refine .bind (Action.write_quietly _ _) fun _ => ?_
    exact .bind (Action.log_quietly fewer _ _) fun _ => .of_pure _

theorem Document.appendString_quietly (host : Host) (settings : Settings) (path : Path)
    (token : Text) (content : HostString) (output : Path) :
    Quietly few many (Document.appendString host settings path token content output)
      (Document.appendString host settings path token content output) := by
  cases content with
  | text content => exact Document.append_quietly fewer settings path token content output
  | unencodable codes =>
      refine .bind (Action.read_quietly path) fun text => ?_
      split
      · exact .of_throw _
      · exact .of_throw _
      · refine .bind (Action.log_quietly fewer _ _) fun _ => ?_
        refine .bind (Action.writeString_quietly _ _) fun _ => ?_
        exact .bind (Action.log_quietly fewer _ _) fun _ => .of_pure _

namespace Task

/-- The task at another verbosity. -/
def withVerbosity (task : Task) (verbosity : Nat) : Task :=
  { task with options := { task.options with verbosity } }

variable (task : Task)

/-- The title is a message of a level: where it is left out, it would have been dropped. -/
theorem showTitle_quietly :
    Quietly few many (task.withVerbosity few).showTitle (task.withVerbosity many).showTitle := by
  unfold showTitle
  change Quietly few many (if few ≥ 2 then _ else _) (if many ≥ 2 then _ else _)
  by_cases quiet : few ≥ 2
  · rw [if_pos quiet, if_pos (Nat.le_trans quiet fewer)]
    exact RunM.log_quietly fewer _ _
  · rw [if_neg quiet]
    split
    · exact .of_pure_modify fun _ _ related =>
        related.logged_loud (mt Level.isShown_iff.1 (by simpa [Level.number] using quiet)) title
    · exact .of_pure ()

omit fewer in
theorem checkPattern_quietly : Quietly few many task.checkPattern task.checkPattern := by
  unfold checkPattern
  split
  · exact .of_pure ()
  split
  · exact .of_pure ()
  · exact RunM.exitWith_quietly _ _

theorem checkEnvironment_quietly (progress : Progress) :
    Quietly few many ((task.withVerbosity few).checkEnvironment progress)
      ((task.withVerbosity many).checkEnvironment progress) := by
  refine .bind (showTitle_quietly fewer task) fun _ => .bind (RunM.log_quietly fewer _ _) fun _ => ?_
  refine .get_bind fun quiet loud related => ?_
  rw [related.files]
  dsimp only [withVerbosity, Options.stem]
  split
  · exact .bind_returned (RunM.fail_quietly _) fun _ ⟨_, returned⟩ => absurd returned RunM.fail_stops
  split
  · exact .bind_returned (RunM.exitWith_quietly _ _) fun _ ⟨_, returned⟩ => nomatch returned
  refine .bind (RunM.log_quietly fewer _ _) fun _ => .bind (checkPattern_quietly task) fun _ => ?_
  refine .bind (RunM.act_quietly (Action.makeDirectory_quietly _)) fun _ => ?_
  exact .bind (RunM.log_quietly fewer _ _) fun _ => .of_pure _

theorem processSource_quietly (progress : Progress) :
    Quietly few many ((task.withVerbosity few).processSource progress)
      ((task.withVerbosity many).processSource progress) := by
  refine .bind (RunM.log_quietly fewer _ _) fun _ => .get_bind fun quiet loud related => ?_
  have walks := Project.process_quietly fewer task.settings loud.files progress.inputDirectory
    progress.source
  rw [related.files, related.few, related.many]
  dsimp only [withVerbosity]
  revert walks
  generalize ((Project.ofModules _ _ _ few).process _).runFrom {} = quietRun
  generalize ((Project.ofModules _ _ _ many).process _).runFrom {} = loudRun
  rintro ⟨same, log⟩
  refine .bind (.of_modify fun quiet loud related => ?_) fun _ => ?_
  · refine ⟨related.files, related.output, ?_, related.few, related.many⟩
    rw [shown, List.filter_append, List.filter_reverse]
    exact congrArg₂ (· ++ ·) (congrArg List.reverse log) related.messages
  · rw [same]
    cases loudRun.1 with
    | error error => exact RunM.fail_quietly error
    | ok result => exact .bind (RunM.log_quietly fewer _ _) fun _ => .of_pure _

omit fewer in
theorem resultOf_quietly (progress : Progress) :
    Quietly few many (resultOf progress) (resultOf progress) := by
  unfold resultOf
  split
  · exact .of_pure _
  · exact .of_throw _

theorem filterSymbols_quietly (progress : Progress) :
    Quietly few many (task.filterSymbols progress) (task.filterSymbols progress) := by
  refine .bind (resultOf_quietly progress) fun result => ?_
  dsimp only
  split
  · exact .bind (RunM.print_quietly _) fun _ => RunM.exitWith_quietly _ _
  split
  · exact .bind (RunM.log_quietly fewer _ _) fun _ => .of_pure _
  · exact .of_pure _

theorem renderReport_quietly (ignores : task.host.IgnoresVerbosity) (progress : Progress)
    (heading : Option Text) :
    Quietly few many (task.renderReport progress heading) (task.renderReport progress heading) := by
  refine .get_bind fun quiet loud related => ?_
  rw [related.files]
  dsimp only
  split
  · exact .of_throw _
  · exact .of_pure _
  · exact Host.renderCustom_quietly ignores fewer _ _ _ _

theorem appendReport_quietly (ignores : task.host.IgnoresVerbosity) (progress : Progress)
    (token : Text) :
    Quietly few many (task.appendReport progress token) (task.appendReport progress token) := by
  refine .bind (RunM.log_quietly fewer _ _) fun _ => .get_bind fun quiet loud related => ?_
  rw [related.files]
  dsimp only
  generalize (if loud.files.hasFile progress.document then progress.document else _) = existing
  split
  · exact RunM.exitWith_quietly _ _
  · refine .bind (RunM.act_quietly (renderReport_quietly fewer task ignores progress none))
      fun report => ?_
    exact RunM.act_quietly (Document.appendString_quietly fewer _ _ _ _ report _)

theorem writeDocument_quietly (ignores : task.host.IgnoresVerbosity) (progress : Progress) :
    Quietly few many (task.writeDocument progress) (task.writeDocument progress) := by
  unfold writeDocument
  split
  · exact .bind (appendReport_quietly fewer task ignores progress _) fun _ => .of_pure _
  · refine .bind (RunM.log_quietly fewer _ _) fun _ => ?_
    refine .bind (RunM.act_quietly (renderReport_quietly fewer task ignores progress _))
      fun report => ?_
    exact .bind (RunM.act_quietly (Action.writeString_quietly _ report)) fun _ => .of_pure _

theorem dumpResult_quietly (progress : Progress) :
    Quietly few many (task.dumpResult progress) (task.dumpResult progress) := by
  unfold dumpResult
  split
  · refine .bind (resultOf_quietly progress) fun result => ?_
    refine .bind (.mapM (fun dump => ?_) _) fun dumps => .of_pure _
    refine .bind (RunM.act_quietly (Action.write_quietly _ _)) fun _ => ?_
    exact .bind (RunM.log_quietly fewer _ _) fun _ => .of_pure _
  · exact .of_pure _

theorem reportResults_quietly (progress : Progress) :
    Quietly few many (reportResults progress) (reportResults progress) := by
  unfold reportResults
  split
  · exact RunM.exitWith_quietly _ _
  · refine .bind (RunM.log_quietly fewer _ _) fun _ => .bind (RunM.log_quietly fewer _ _) fun _ => ?_
    refine .bind (RunM.log_quietly fewer _ _) fun _ => ?_
    exact .bind (.forM (fun dump => RunM.log_quietly fewer _ _) _) fun _ => .of_pure _

end Task

/-- Every stage goes the same way at both verbosities. -/
theorem Stage.run_quietly (task : Task) (ignores : task.host.IgnoresVerbosity) (progress : Progress)
    (stage : Stage) :
    Quietly few many (Stage.run (task.withVerbosity few) progress stage)
      (Stage.run (task.withVerbosity many) progress stage) := by
  cases stage with
  | checkEnvironment => exact Task.checkEnvironment_quietly fewer task progress
  | processSource => exact Task.processSource_quietly fewer task progress
  | filterSymbols => exact Task.filterSymbols_quietly fewer task progress
  | writeDocument => exact Task.writeDocument_quietly fewer task ignores progress
  | dumpResult => exact Task.dumpResult_quietly fewer task progress
  | reportResults => exact Task.reportResults_quietly fewer progress

theorem Stage.runAll_quietly (task : Task) (ignores : task.host.IgnoresVerbosity)
    (stages : List Stage) :
    Quietly few many (Stage.runAll (task.withVerbosity few) stages)
      (Stage.runAll (task.withVerbosity many) stages) :=
  .foldlM (Stage.run_quietly fewer task ignores) stages _

end Stages

/-! ## Whole runs -/

/-- The request with a verbosity, if it asks for a run. -/
def Request.withVerbosity (verbosity : Nat) : Request → Request
  | .run options => .run { options with verbosity }
  | request => request

namespace CommandLine

variable {few many : Nat}

theorem prepare_quietly (options : Options) :
    Quietly few many (prepare options) (prepare options) := by
  refine .get_bind fun quiet loud related => ?_
  rw [related.files]
  dsimp only
  split
  · exact .of_throw _
  split
  · exact .of_throw _
  · exact RunM.act_quietly (Action.makeDirectory_quietly _)

/-- Nothing is logged before a run is connected to its verbosity. -/
theorem messages_prepare (options : Options) (files : FileTree) :
    ((prepare options).run.run { files }).2.messages = [] := by
  have alone := ((prepare_quietly options).run { files } { files }
    (⟨rfl, rfl, rfl, rfl, rfl⟩ : Quieter 0 0 _ _)).2.messages
  rw [alone]
  refine List.filter_eq_nil_iff.2 fun entry _ => ?_
  cases entry.level <;> simp [Level.number]

/-- A request is performed in the same way at two verbosities. -/
theorem perform_quietly {host : Host} (ignores : host.IgnoresVerbosity) (fewer : few ≤ many)
    (settings : Settings) (files : FileTree) (request : Request) :
    let quiet := (perform host settings (request.withVerbosity few)).run.run { files }
    let loud := (perform host settings (request.withVerbosity many)).run.run { files }
    quiet.1 = loud.1 ∧ quiet.2.files = loud.2.files ∧ quiet.2.output = loud.2.output ∧
      quiet.2.messages = shown few loud.2.messages := by
  cases request with
  | run options =>
      dsimp only [Request.withVerbosity, perform]
      have unlogged := messages_prepare options files
      have same : ∀ verbosity, prepare { options with verbosity } = prepare options := fun _ => rfl
      rw [same few, same many, Guarantees.run_bind, Guarantees.run_bind]
      revert unlogged
      rcases (prepare options).run.run { files } with ⟨stop | _, after⟩ <;> intro unlogged
      · exact ⟨rfl, rfl, rfl, by rw [unlogged]; rfl⟩
      · have connected : Quieter few many { after with verbosity := few }
            { after with verbosity := many } :=
          ⟨rfl, rfl, by rw [unlogged]; rfl, rfl, rfl⟩
        have stages := (Stage.runAll_quietly fewer { host, settings, options } ignores Stage.all).map
          (Function.const Progress ())
        have ran := stages.run _ _ connected
        exact ⟨ran.1, ran.2.files, ran.2.output, ran.2.messages⟩
  | _ => exact ⟨rfl, rfl, rfl, rfl⟩

end CommandLine

end ExportDocs
