/-
# ExportDocs.Proofs.Run.Footprint -- the files that a run may change

A run writes its document last, after everything that can fail has been done, and then only its
dumps.  So a run that ends early has changed no file, but for one whose dumps cannot be written
(`run_footprint`).  Each stage has one lemma about the files that it keeps.

This is so for a plain host.  Another one stores the compiled form of a formatter when it loads it,
also in a run that fails; and if its formatter returns a string that is no text, the document is
emptied before that is found out.  `run_footprint` says so too.
-/
import ExportDocs.CommandLine
import ExportDocs.Proofs.Run.Host

namespace ExportDocs

set_option autoImplicit false

/-! ## Stages -/

section Stages

variable {base : FileTree} {places : List (List Text)}

theorem CommandLine.guarantees_prepare (options : Options) :
    Guarantees (base.KeptOutside places) (prepare options) (fun _ => base.KeptOutside places)
      fun _ => base.KeptOutside places := by
  refine .bind .of_get fun world => ?_
  dsimp only
  split
  · exact .of_throw fun _ kept => kept
  split
  · exact .of_throw fun _ kept => kept
  · exact RunM.guarantees_act (Action.guarantees_makeDirectory fun _ _ kept => kept)

namespace Options

/-- Where the document is written. -/
def documentPath (options : Options) : Path :=
  options.outputDirectory.join
    (Path.ofText ((given options.output).getD (options.stem ++ "-api.md".toList)))

/-- Where a dump is written. -/
def dumpPath (options : Options) (dump : Dump) : Path :=
  options.outputDirectory.join (Path.ofText (options.stem ++ dump.fileEnd))

/-- The places that a run with these options may write to. -/
def footprint (options : Options) (files : FileTree) : List (List Text) :=
  files.placeOf options.documentPath ::
    if options.debug then Dump.all.map fun dump => files.placeOf (options.dumpPath dump) else []

/-- Where a host stores the compiled form of the formatter, if there is one. -/
def cachePlaces (host : Host) (options : Options) (files : FileTree) : List (List Text) :=
  match given options.formatter with
  | none => []
  | some name =>
    host.cachePlaces files
      ((Task.absolute files options.inputDirectory).join (Path.ofText name))

theorem cachePlaces_eq_nil {host : Host} (plain : host.IsPlain) (options : Options)
    (files : FileTree) : options.cachePlaces host files = [] := by
  unfold cachePlaces
  split
  · rfl
  · rw [Host.cachePlaces, plain.uncached, Option.toList_none]

end Options

namespace Task

/-- Where the compiled form of the formatter is stored. -/
abbrev cachePlaces (task : Task) (files : FileTree) : List (List Text) :=
  task.options.cachePlaces task.host files

theorem guarantees_checkPattern (task : Task) :
    Guarantees (base.KeptOutside places) task.checkPattern (fun _ => base.KeptOutside places)
      fun _ => base.KeptOutside places := by
  unfold checkPattern
  split
  · exact .of_pure fun _ kept => kept
  split
  · exact .of_pure fun _ kept => kept
  · exact RunM.guarantees_exitWith fun _ kept => kept

/-- What is known of a run once its environment has been checked. -/
structure IsPlaced (task : Task) (base : FileTree) (progress : Progress) : Prop where
  document : progress.document = task.options.documentPath
  inputDirectory : progress.inputDirectory = absolute base task.options.inputDirectory

theorem guarantees_showTitle (task : Task) {pre : FileTree → Prop} {stop : Stop → FileTree → Prop} :
    Guarantees pre task.showTitle (fun _ => pre) stop := by
  unfold showTitle
  split
  · exact RunM.guarantees_log _ _
  · exact .of_pure fun _ holds => holds

theorem guarantees_checkEnvironment (task : Task) {progress : Progress}
    (start : progress.inputDirectory = task.options.inputDirectory) :
    Guarantees (base.KeptOutside places) (task.checkEnvironment progress)
      (fun checked tree => task.IsPlaced base checked ∧ base.KeptOutside places tree)
      fun _ => base.KeptOutside places := by
  unfold checkEnvironment
  refine .bind task.guarantees_showTitle fun _ => .bind (RunM.guarantees_log _ _) fun _ => ?_
  refine .bind (Guarantees.of_get_fact fun world kept => kept.current) fun world =>
    .of_fact fun current => ?_
  have here : absolute world.files progress.inputDirectory =
      absolute base task.options.inputDirectory := by
    rw [start, absolute, absolute, current]
  dsimp only
  split
  · exact .bind (RunM.guarantees_fail fun _ kept => kept) fun _ => .of_absurd
  split
  · exact .bind (RunM.guarantees_exitWith fun _ kept => kept) fun _ => .of_absurd
  refine .bind (RunM.guarantees_log _ _) fun _ => .bind (guarantees_checkPattern task) fun _ => ?_
  refine .bind (RunM.guarantees_act (Action.guarantees_makeDirectory fun _ _ kept => kept))
    fun _ => ?_
  refine .bind (RunM.guarantees_log _ _) fun _ => ?_
  exact .of_pure fun _ kept => ⟨⟨rfl, here⟩, kept⟩

theorem guarantees_processSource (task : Task) {progress : Progress}
    (placed : task.IsPlaced base progress) :
    Guarantees (base.KeptOutside places) (task.processSource progress)
      (fun processed tree => (task.IsPlaced base processed ∧ processed.result.isSome) ∧
        base.KeptOutside places tree)
      fun _ => base.KeptOutside places := by
  unfold processSource
  refine .bind (RunM.guarantees_log _ _) fun _ => .bind .of_get fun world => ?_
  dsimp only
  refine .bind (Guarantees.of_modify fun _ => rfl) fun _ => ?_
  split
  · exact RunM.guarantees_fail fun _ kept => kept
  · refine .bind (RunM.guarantees_log _ _) fun _ => ?_
    exact .of_pure fun _ kept => ⟨⟨⟨placed.document, placed.inputDirectory⟩, rfl⟩, kept⟩

theorem guarantees_resultOf {progress : Progress} (known : progress.result.isSome)
    {pre : FileTree → Prop} {stop : Stop → FileTree → Prop} :
    Guarantees pre (resultOf progress) (fun _ => pre) stop := by
  unfold resultOf
  obtain ⟨result, known⟩ := Option.isSome_iff_exists.1 known
  rw [known]
  exact .of_pure fun _ holds => holds

theorem guarantees_filterSymbols (task : Task) {progress : Progress}
    (placed : task.IsPlaced base progress) (known : progress.result.isSome) :
    Guarantees (base.KeptOutside places) (task.filterSymbols progress)
      (fun filtered tree => (task.IsPlaced base filtered ∧ filtered.result.isSome) ∧
        base.KeptOutside places tree)
      fun _ => base.KeptOutside places := by
  have found : ∀ kept, task.IsPlaced base { progress with kept := some kept } := fun _ =>
    ⟨placed.document, placed.inputDirectory⟩
  unfold filterSymbols
  refine .bind (guarantees_resultOf known) fun result => ?_
  dsimp only
  split
  · refine .bind (RunM.guarantees_print _) fun _ => ?_
    exact RunM.guarantees_exitWith fun _ kept => kept
  split
  · refine .bind (RunM.guarantees_log _ _) fun _ => ?_
    exact .of_pure fun _ kept => ⟨⟨found _, known⟩, kept⟩
  · exact .of_pure fun _ kept => ⟨⟨found _, known⟩, kept⟩

theorem guarantees_renderReport {task : Task} (keeps : task.host.KeepsFiles) {progress : Progress}
    (placed : task.IsPlaced base progress) (heading : Option Text) :
    Guarantees (base.KeptOutside []) (task.renderReport progress heading)
      (fun report tree => (task.host.ReturnsTexts → report.IsText) ∧
        base.KeptOutside (task.cachePlaces base) tree)
      fun _ => base.KeptOutside (task.cachePlaces base) := by
  unfold renderReport
  refine .bind .of_get fun world => ?_
  dsimp only
  split
  · exact .of_throw fun _ kept => kept.mono (List.nil_subset _)
  · exact .of_pure fun _ kept => ⟨fun _ => trivial, kept.mono (List.nil_subset _)⟩
  · rename_i name formatter
    have stored : task.cachePlaces base = task.host.cachePlaces base
        (progress.inputDirectory.join (Path.ofText name)) ++ [] := by
      simp only [cachePlaces, Options.cachePlaces, formatter, placed.inputDirectory, List.append_nil]
    rw [stored]
    exact Report.guarantees_renderCustom keeps _ _ _ heading

theorem guarantees_append (settings : Settings) (path : Path) (token content : Text)
    (output : Path) :
    Guarantees (base.KeptOutside places) (Document.append settings path token content output)
      (fun _ => base.KeptOutside (base.placeOf output :: places))
      fun _ => base.KeptOutside places := by
  unfold Document.append
  refine .bind (Action.guarantees_read fun _ _ kept => kept) fun text => ?_
  dsimp only
  split
  · exact .of_throw fun _ kept => kept
  · refine .bind (Action.guarantees_log _ _) fun _ => ?_
    refine .bind (Action.guarantees_write fun _ _ kept => kept) fun _ => ?_
    refine .bind (Action.guarantees_log _ _) fun _ => ?_
    exact .of_pure fun _ kept => kept

/-- A run that ended while it wrote its document: the report was no text, and the document is left
empty. -/
structure EndedEmpty (task : Task) (base : FileTree) (stop : Stop) (tree : FileTree) : Prop where
  broken : ¬ task.host.ReturnsTexts
  failure : ∃ fault, stop = .failure (.uncaught (.unencodable fault))
  left : base.LeftEmpty (task.cachePlaces base) task.options.documentPath tree

/-- A run that ended before its document was written, or while it was. -/
def EndedEarly (task : Task) (base : FileTree) (stop : Stop) (tree : FileTree) : Prop :=
  base.KeptOutside (task.cachePlaces base) tree ∨ task.EndedEmpty base stop tree

theorem EndedEarly.kept {task : Task} {stop : Stop} {tree : FileTree}
    (early : task.EndedEarly base stop tree) :
    base.KeptOutside (task.options.footprint base ++ task.cachePlaces base) tree := by
  rcases early with kept | ended
  · exact kept.mono (List.subset_append_right _ _)
  · exact ended.left.kept.mono <| List.cons_subset.2
      ⟨List.mem_append_left _ List.mem_cons_self, List.subset_append_right _ _⟩

/-- With a plain host, a run that ended early has changed no file. -/
theorem EndedEarly.unchanged {task : Task} (plain : task.host.IsPlain) {stop : Stop}
    {tree : FileTree} (early : task.EndedEarly base stop tree) : base.KeptOutside [] tree := by
  rcases early with kept | ended
  · rwa [cachePlaces, Options.cachePlaces_eq_nil plain] at kept
  · exact absurd plain.texts ended.broken

theorem guarantees_writeString {task : Task} {report : HostString}
    (text : task.host.ReturnsTexts → report.IsText) :
    Guarantees (base.KeptOutside (task.cachePlaces base))
      (Action.writeString task.options.documentPath report)
      (fun _ => base.KeptOutside (base.placeOf task.options.documentPath :: task.cachePlaces base))
      fun error => task.EndedEarly base (.ofError error) := by
  refine Action.guarantees_writeString (fun _ _ kept => .inl kept) ?_
  rintro codes rfl fault tree left
  exact .inr ⟨text, ⟨fault, rfl⟩, left⟩

theorem guarantees_appendString {task : Task} {report : HostString}
    (text : task.host.ReturnsTexts → report.IsText) (existing : Path) (token : Text) :
    Guarantees (base.KeptOutside (task.cachePlaces base))
      (Document.appendString task.host task.settings existing token report task.options.documentPath)
      (fun _ => base.KeptOutside (base.placeOf task.options.documentPath :: task.cachePlaces base))
      fun error => task.EndedEarly base (.ofError error) := by
  cases report with
  | text report =>
      exact (guarantees_append _ _ _ _ _).weaken (fun _ _ kept => kept) fun _ _ => .inl
  | unencodable codes =>
      unfold Document.appendString Document.appendUnencodable
      refine .bind (Action.guarantees_read fun _ _ kept => .inl kept) fun document => ?_
      split
      · exact .of_throw fun _ kept => .inl kept
      · exact .of_throw fun _ kept => .inl kept
      · refine .bind (Action.guarantees_log _ _) fun _ => ?_
        refine .bind (guarantees_writeString fun texts => (text texts).elim) fun _ => ?_
        refine .bind (Action.guarantees_log _ _) fun _ => ?_
        exact .of_pure fun _ kept => kept

/-- The document is written last: once it is, the stage does not end early. -/
theorem guarantees_writeDocument {task : Task} (keeps : task.host.KeepsFiles) {progress : Progress}
    (placed : task.IsPlaced base progress) :
    Guarantees (base.KeptOutside []) (task.writeDocument progress)
      (fun written tree => (written.contents.isSome ∧ written.result = progress.result) ∧
        base.KeptOutside (base.placeOf task.options.documentPath :: task.cachePlaces base) tree)
      (task.EndedEarly base) := by
  have rendered : ∀ heading, Guarantees (base.KeptOutside [])
      (RunM.act (task.renderReport progress heading))
      (fun report tree => (task.host.ReturnsTexts → report.IsText) ∧
        base.KeptOutside (task.cachePlaces base) tree) (task.EndedEarly base) := fun heading =>
    RunM.guarantees_act <| (guarantees_renderReport keeps placed heading).weaken
      (fun _ _ kept => kept) fun _ _ => .inl
  unfold writeDocument appendReport
  rw [placed.document]
  split
  · refine .bind (.bind (RunM.guarantees_log _ _) fun _ => .bind .of_get fun world => ?_)
      fun contents => .of_pure fun _ kept => ⟨⟨rfl, rfl⟩, kept⟩
    dsimp only
    generalize (if world.files.hasFile task.options.documentPath
      then task.options.documentPath else _) = existing
    split
    · exact RunM.guarantees_exitWith fun _ kept => .inl (kept.mono (List.nil_subset _))
    · refine .bind (rendered _) fun report => .of_fact fun text => ?_
      exact RunM.guarantees_act (guarantees_appendString text existing _)
  · refine .bind (RunM.guarantees_log _ _) fun _ => ?_
    refine .bind (rendered _) fun report => .of_fact fun text => ?_
    refine .bind (RunM.guarantees_act (guarantees_writeString text)) fun contents => ?_
    exact .of_pure fun _ kept => ⟨⟨rfl, rfl⟩, kept⟩

/-- A run that ended while it wrote its dumps: one of them could not be written. -/
structure EndedInDumps (task : Task) (base : FileTree) (places : List (List Text)) (stop : Stop)
    (tree : FileTree) : Prop where
  debug : task.options.debug
  failure : ∃ fault, stop = .failure (.uncaught (.file fault))
  kept : base.KeptOutside places tree

theorem guarantees_writeDump {task : Task} (debug : task.options.debug) {dump : Dump}
    (member : base.placeOf (task.options.dumpPath dump) ∈ places) (result : FileResult) :
    Guarantees (base.KeptOutside places) (task.writeDump result dump)
      (fun _ => base.KeptOutside places) (task.EndedInDumps base places) := by
  have written : ∀ text, Guarantees (base.KeptOutside places)
      (RunM.act (Action.write (task.options.dumpPath dump) text)) (fun _ => base.KeptOutside places)
      (task.EndedInDumps base places) := fun text =>
    RunM.guarantees_act <|
      (Action.guarantees_write fun _ _ kept => ⟨debug, ⟨_, rfl⟩, kept⟩).weaken
        (fun _ _ kept => kept.mono (List.cons_subset.2 ⟨member, List.Subset.refl places⟩))
        fun _ _ ended => ended
  refine .bind (written _) fun _ => .bind (RunM.guarantees_log _ _) fun _ => ?_
  exact .of_pure fun _ kept => kept

theorem guarantees_dumpResult {task : Task} {progress : Progress}
    (known : progress.result.isSome)
    (member : task.options.debug →
      ∀ dump ∈ Dump.all, base.placeOf (task.options.dumpPath dump) ∈ places) :
    Guarantees (base.KeptOutside places) (task.dumpResult progress)
      (fun dumped tree => dumped.contents = progress.contents ∧ base.KeptOutside places tree)
      (task.EndedInDumps base places) := by
  unfold dumpResult
  split
  · rename_i debug
    refine .bind (guarantees_resultOf known) fun result => ?_
    refine .bind (Guarantees.mapM _ fun dump all => ?_) fun dumps => ?_
    · exact guarantees_writeDump debug (member debug dump all) result
    · exact .of_pure fun _ kept => ⟨rfl, kept⟩
  · exact .of_pure fun _ kept => ⟨rfl, kept⟩

/-- A report about a document that has been written does not end the run. -/
theorem guarantees_reportResults {progress : Progress} (written : progress.contents.isSome)
    {stop : Stop → FileTree → Prop} :
    Guarantees (base.KeptOutside places) (reportResults progress)
      (fun _ => base.KeptOutside places) stop := by
  unfold reportResults
  rw [if_neg (by simpa using Option.isSome_iff_ne_none.1 written)]
  refine .bind (RunM.guarantees_log _ _) fun _ => .bind (RunM.guarantees_log _ _) fun _ => ?_
  refine .bind (RunM.guarantees_log _ _) fun _ => ?_
  refine .bind (Guarantees.forM _ fun dump _ => RunM.guarantees_log _ _) fun _ => ?_
  exact .of_pure fun _ kept => kept

end Task

end Stages

/-! ## Runs -/

namespace Stage

/-- The stages before the one that writes the document. -/
def beforeDocument : List Stage := [checkEnvironment, processSource, filterSymbols]

/-- The stages up to the one that writes the document. -/
def upToDocument : List Stage := beforeDocument ++ [writeDocument]

/-- The stages after the document is written. -/
def afterDocument : List Stage := [dumpResult, reportResults]

end Stage

namespace CommandLine

/-- Goes through stages, after the check of the directories. -/
def through (task : Task) (stages : List Stage) : RunM Progress := do
  prepare task.options
  RunM.connect task.options.verbosity
  Stage.runAll task stages

theorem through_append (task : Task) (first second : List Stage) :
    through task (first ++ second) =
      through task first >>= second.foldlM (Stage.run task) := by
  simp [through, Stage.runAll]

theorem perform_run (host : Host) (settings : Settings) (options : Options) :
    perform host settings (.run options) =
      through { host, settings, options } Stage.all >>= fun _ => pure () := by
  simp [perform, through, discard, Functor.discard, map_const]

/-- Before the document is written no file changes. -/
theorem guarantees_beforeDocument (task : Task) (base : FileTree) :
    Guarantees (base.KeptOutside []) (through task Stage.beforeDocument)
      (fun filtered tree => (task.IsPlaced base filtered ∧ filtered.result.isSome) ∧
        base.KeptOutside [] tree)
      fun _ => base.KeptOutside [] := by
  unfold through Stage.runAll Stage.beforeDocument
  simp only [List.foldlM_cons, List.foldlM_nil, Stage.run]
  refine .bind (guarantees_prepare task.options) fun _ => ?_
  refine .bind (RunM.guarantees_connect _) fun _ => ?_
  refine .bind (task.guarantees_checkEnvironment rfl) fun checked => .of_fact fun placed => ?_
  refine .bind (task.guarantees_processSource placed) fun processed => .of_fact fun source => ?_
  refine .bind (task.guarantees_filterSymbols source.1 source.2) fun filtered => ?_
  exact .of_pure fun _ kept => kept

/-- Then only the document and the compiled form of the formatter do. -/
theorem guarantees_upToDocument {task : Task} (keeps : task.host.KeepsFiles) (base : FileTree) :
    Guarantees (base.KeptOutside []) (through task Stage.upToDocument)
      (fun written tree => (written.contents.isSome ∧ written.result.isSome) ∧
        base.KeptOutside (base.placeOf task.options.documentPath :: task.cachePlaces base) tree)
      (task.EndedEarly base) := by
  unfold Stage.upToDocument
  rw [through_append]
  refine ((guarantees_beforeDocument task base).weaken (fun _ _ kept => kept)
    fun _ _ kept => .inl (kept.mono (List.nil_subset _))).bind fun filtered =>
    .of_fact fun known => ?_
  simp only [List.foldlM_cons, List.foldlM_nil, Stage.run]
  refine .bind (Task.guarantees_writeDocument keeps known.1) fun written =>
    .of_fact fun contents => ?_
  exact .of_pure fun _ kept => ⟨⟨contents.1, contents.2 ▸ known.2⟩, kept⟩

/-- After the document is written only a dump that cannot be written ends the run. -/
theorem guarantees_afterDocument {task : Task} {progress : Progress} {base : FileTree}
    {places : List (List Text)} (covered : task.options.footprint base ⊆ places)
    (contents : progress.contents.isSome) (known : progress.result.isSome) :
    Guarantees (base.KeptOutside places) (Stage.afterDocument.foldlM (Stage.run task) progress)
      (fun _ => base.KeptOutside places) (task.EndedInDumps base places) := by
  unfold Stage.afterDocument
  simp only [List.foldlM_cons, List.foldlM_nil, Stage.run]
  refine .bind (Task.guarantees_dumpResult known ?_) fun dumped => .of_fact fun same => ?_
  · intro debug dump member
    refine covered ?_
    rw [Options.footprint, if_pos debug]
    exact List.mem_cons_of_mem _ (List.mem_map_of_mem member)
  · refine .bind (Task.guarantees_reportResults (same ▸ contents)) fun reported => ?_
    exact .of_pure fun _ kept => kept

/-- A run through all stages ends early, ends in its dumps, or returns. -/
theorem guarantees_all {task : Task} (keeps : task.host.KeepsFiles) (base : FileTree) :
    Guarantees (base.KeptOutside []) (through task Stage.all)
      (fun _ => base.KeptOutside (task.options.footprint base ++ task.cachePlaces base))
      fun stop tree => task.EndedEarly base stop tree ∨
        task.EndedInDumps base (task.options.footprint base ++ task.cachePlaces base) stop tree := by
  change Guarantees _ (through task (Stage.upToDocument ++ Stage.afterDocument)) _ _
  rw [through_append]
  have wider : base.placeOf task.options.documentPath :: task.cachePlaces base ⊆
      task.options.footprint base ++ task.cachePlaces base :=
    List.cons_subset.2 ⟨List.mem_append_left _ List.mem_cons_self, List.subset_append_right _ _⟩
  refine ((guarantees_upToDocument keeps base).weaken
    (fun _ _ given => And.intro given.1 (given.2.mono wider)) fun _ _ => .inl).bind
    fun written => .of_fact fun known => ?_
  exact (guarantees_afterDocument (List.subset_append_left _ _) known.1 known.2).weaken
    (fun _ _ kept => kept) fun _ _ => .inr

/-- How a run ends and what it leaves, from what its stages do. -/
theorem run_through (host : Host) (settings : Settings) (files : FileTree) {arguments : List Text}
    {options : Options} (asked : read arguments = .run options) :
    let ran := (through { host, settings, options } Stage.all).run.run { files }
    let outcome := run host settings files arguments
    outcome.ending = (match ran.1 with
      | .ok _ => .exit 0
      | .error stop => stop) ∧ outcome.world = ran.2 := by
  simp only [run, asked, perform_run, Guarantees.run_bind]
  rcases (through { host, settings, options } Stage.all).run.run { files } with ⟨_ | _, after⟩ <;>
    exact ⟨rfl, rfl⟩

/-- What ends the first stages ends the run. -/
theorem run_of_stop {host : Host} {settings : Settings} {files : FileTree} {arguments : List Text}
    {options : Options} {first second : List Stage} {stop : Stop} {after : World}
    (asked : read arguments = .run options) (parts : Stage.all = first ++ second)
    (stopped : (through { host, settings, options } first).run.run { files } =
      (.error stop, after)) :
    (run host settings files arguments).ending = stop ∧
      (run host settings files arguments).world = after := by
  have whole : (through { host, settings, options } Stage.all).run.run { files } =
      (.error stop, after) := by
    rw [parts, through_append, Guarantees.run_bind, stopped]
  obtain ⟨ending, world⟩ := run_through host settings files asked
  rw [whole] at ending world
  exact ⟨ending, world⟩

/-- What the first stages guarantee where they end the run, the run leaves. -/
theorem run_of_guaranteed_stop {host : Host} {settings : Settings} {files : FileTree}
    {arguments : List Text} {options : Options} {first second : List Stage} {stop : Stop}
    {after : World} {returned : Progress → FileTree → Prop} {stopped : Stop → FileTree → Prop}
    (asked : read arguments = .run options) (parts : Stage.all = first ++ second)
    (guarantee : Guarantees (files.KeptOutside []) (through { host, settings, options } first)
      returned stopped)
    (ran : (through { host, settings, options } first).run.run { files } = (.error stop, after)) :
    (run host settings files arguments).ending = stop ∧
      stopped stop (run host settings files arguments).world.files := by
  have left := guarantee.run { files } (.refl files)
  rw [ran] at left
  obtain ⟨ending, world⟩ := run_of_stop asked parts ran
  exact ⟨ending, world ▸ left⟩

/-- The entry file is processed, and exports nothing. -/
def ExportsNothing (task : Task) (files : FileTree) : Prop :=
  let processed := (through task [.checkEnvironment, .processSource]).run.run { files }
  (processed.1.toOption.bind Progress.result).map FileResult.symbols = some []

instance (task : Task) (files : FileTree) : Decidable (ExportsNothing task files) :=
  inferInstanceAs (Decidable (_ = _))

theorem ExportsNothing.stops {task : Task} {files : FileTree} (none : ExportsNothing task files) :
    ∃ after, (through task Stage.beforeDocument).run.run { files } = (.error (.exit 0), after) := by
  unfold ExportsNothing at none
  rcases processed : (through task [.checkEnvironment, .processSource]).run.run { files } with
    ⟨stop | progress, world⟩
  · simp [processed, Except.toOption] at none
  obtain ⟨result, known, nothing⟩ : ∃ result, progress.result = some result ∧
      result.symbols = [] := by
    simpa [processed, Except.toOption] using none
  have filtered : ∃ after, (task.filterSymbols progress).run.run world =
      (.error (.exit 0), after) := by
    unfold Task.filterSymbols Task.resultOf
    rw [known]
    change ∃ after, (if result.symbols.isEmpty then _ else _ : RunM Progress).run.run world = _
    rw [if_pos (by simp [nothing])]
    exact ⟨_, rfl⟩
  obtain ⟨after, filtered⟩ := filtered
  change ∃ after, (through task ([.checkEnvironment, .processSource] ++
    [.filterSymbols])).run.run _ = _
  rw [through_append, Guarantees.run_bind, processed]
  simp only [List.foldlM_cons, Stage.run, Guarantees.run_bind, filtered]
  exact ⟨after, rfl⟩

end CommandLine

/-- The endings of a run that has written nothing: a status other than zero, or a failure.  While
dumps are on, the failure of a file may be that of a dump, after the document is written. -/
def Stop.BeforeWriting (debug : Bool) : Stop → Prop
  | .exit status => status ≠ 0
  | .failure error => debug = false ∨ ∀ fault, error ≠ .uncaught (.file fault)

namespace Request

/-- The places that a request may write to. -/
def footprint (files : FileTree) : Request → List (List Text)
  | run options => options.footprint files
  | _ => []

/-- Where a host stores the compiled form of the formatter. -/
def cachePlaces (host : Host) (files : FileTree) : Request → List (List Text)
  | run options => options.cachePlaces host files
  | _ => []

/-- Whether a request asks for dumps. -/
def debug : Request → Bool
  | run options => options.debug
  | _ => false

/-- A run that ended before its document was written, or while it was. -/
def EndedEarly (host : Host) (settings : Settings) (files : FileTree) :
    Request → Stop → FileTree → Prop
  | run options => Task.EndedEarly { host, settings, options } files
  | _ => fun _ => files.KeptOutside []

end Request

namespace CommandLine

variable {host : Host} {settings : Settings} {files : FileTree} {arguments : List Text}
  {options : Options}

/-- A request for nothing to be run changes no file. -/
theorem guarantees_perform_other {request : Request} (other : ∀ options, request ≠ .run options) :
    Guarantees (files.KeptOutside []) (perform host settings request)
      (fun _ => files.KeptOutside []) fun _ => files.KeptOutside [] := by
  cases request with
  | unusable => exact .of_throw fun _ kept => kept
  | version => exact RunM.guarantees_print _
  | help => exact RunM.guarantees_print _
  | run options => exact absurd rfl (other options)

theorem run_other (other : ∀ options, read arguments ≠ .run options) :
    files.KeptOutside [] (run host settings files arguments).world.files := by
  have ran := (@guarantees_perform_other host settings files _ other).run { files } (.refl files)
  change files.KeptOutside [] ((perform host settings (read arguments)).run.run { files }).2.files
  revert ran
  rcases (perform host settings (read arguments)).run.run { files } with ⟨_ | _, after⟩ <;> exact id

/-- A run with all stages leaves the files as they were, outside its footprint, and all of them if
it ends before it writes, but for the compiled form and for a document that is left empty. -/
theorem run_kept (keeps : host.KeepsFiles) (asked : read arguments = .run options) :
    let outcome := run host settings files arguments
    files.KeptOutside (options.footprint files ++ options.cachePlaces host files)
        outcome.world.files ∧
      (outcome.ending.BeforeWriting options.debug →
        Task.EndedEarly { host, settings, options } files outcome.ending outcome.world.files) := by
  intro outcome
  let task : Task := { host, settings, options }
  obtain ⟨ending, world⟩ := run_through host settings files asked
  have ran := (@guarantees_all task keeps files).run { files } (.refl files)
  change outcome.ending = _ at ending
  change outcome.world = _ at world
  rw [ending, world]
  revert ran
  rcases (through task Stage.all).run.run { files } with ⟨stop | progress, after⟩
  · rintro (early | ended)
    · exact ⟨early.kept, fun _ => early⟩
    · obtain ⟨fault, rfl⟩ := ended.failure
      refine ⟨ended.kept, fun before => ?_⟩
      rcases before with silent | apart
      · exact absurd ended.debug (by simp [task, silent])
      · exact absurd rfl (apart fault)
  · exact fun kept => ⟨kept, fun zero => absurd rfl zero⟩

/-- A source without exports, and a document. -/
def exportless : FileTree where
  files :=
    [(["in".toList, "shapes.js".toList], .text []),
     (["out".toList, "shapes-api.md".toList], .text "# Shapes".toList)]

/-- What is asked for of such a source. -/
def exportlessOptions : Options where
  inputDirectory := Path.ofText "/in".toList
  outputDirectory := Path.ofText "/out".toList
  inputFile := "shapes.js".toList
  debug := true

/-- A host that stores what it loads, and whose formatters return a string that is no text. -/
def surrogateHost : Host where
  loads _ := true
  cachePlace _ := some ["cache".toList]
  compiled _ _ content := some content
  execute _ _ := return some fun _ _ _ _ => return .string [0xd800]
  merge _ _ _ _ := .ok none

theorem surrogateHost_keepsFiles : surrogateHost.KeepsFiles where
  execute _ _ _ := rfl
  format := by
    rintro formatter ⟨path, content, world, defined⟩
    cases defined
    intros
    rfl

/-- A source with an export, a formatter and a document. -/
def formatted : FileTree where
  files :=
    [(["in".toList, "shapes.js".toList], .text "export default 1".toList),
     (["in".toList, "format.py".toList], .text []),
     (["out".toList, "shapes-api.md".toList], .text "# Shapes".toList)]

end CommandLine

end ExportDocs
