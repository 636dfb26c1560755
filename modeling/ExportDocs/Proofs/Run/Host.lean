/-
# ExportDocs.Proofs.Run.Host -- what may be assumed of a host

Code of a host may do anything.  What a theorem assumes of it is named here: that it changes no file
(`KeepsFiles`), that its strings are texts and no compiled forms are stored (`IsPlain`).  Even if no
code changes a file, loading a formatter may: the compiled form of its file is stored
(`Host.cachePlaces`).
-/
import ExportDocs.Report.Custom
import ExportDocs.Proofs.Run.Guarantee

namespace ExportDocs

set_option autoImplicit false

/-! ## Assumptions -/

namespace Host

/-- Some file defines the formatter. -/
def Defines (host : Host) (formatter : HostFormatter) : Prop :=
  ∃ path content world, ((host.execute path content).run.run world).1 = .ok (some formatter)

/-- No code of formatters changes a file. -/
structure KeepsFiles (host : Host) : Prop where
  execute : ∀ path content world,
    ((host.execute path content).run.run world).2.files = world.files
  format : ∀ formatter, host.Defines formatter → ∀ root document symbols heading world,
    ((formatter root document symbols heading).run.run world).2.files = world.files

/-- All strings that formatters return are texts. -/
def ReturnsTexts (host : Host) : Prop :=
  ∀ formatter, host.Defines formatter → ∀ root document symbols heading world codes,
    ((formatter root document symbols heading).run.run world).1 = .ok (.string codes) →
      (Text.ofCodes? codes).isSome

/-- No compiled forms are stored, and all strings are texts. -/
structure IsPlain (host : Host) : Prop where
  uncached : ∀ path, host.cachePlace path = none
  texts : host.ReturnsTexts

/-- Where the compiled form of a file is stored, if at all. -/
def cachePlaces (host : Host) (files : FileTree) (path : Path) : List (List Text) :=
  (host.cachePlace (locationOf files path)).toList

theorem bare_keepsFiles : bare.KeepsFiles where
  execute _ _ _ := rfl
  format := by
    rintro formatter ⟨path, content, world, defined⟩
    cases defined

theorem bare_isPlain : bare.IsPlain where
  uncached _ := rfl
  texts := by
    rintro formatter ⟨path, content, world, defined⟩
    cases defined

end Host

/-! ## Reports by a formatter -/

/-- A string that can be encoded. -/
def HostString.IsText : HostString → Prop
  | .text _ => True
  | .unencodable _ => False

theorem HostString.ofCodes_isText {codes : List Nat} (text : (Text.ofCodes? codes).isSome) :
    (HostString.ofCodes codes).IsText := by
  unfold HostString.ofCodes
  obtain ⟨t, decoded⟩ := Option.isSome_iff_exists.1 text
  rw [decoded]
  trivial

section Loading

variable {α : Type} {base : FileTree} {places : List (List Text)} {pre : FileTree → Prop}
  {stop : Error → FileTree → Prop}

/-- What code keeps, however it ends. -/
theorem HostM.guarantees_act {code : HostM α}
    (keeps : ∀ world, pre world.files → pre (code.run.run world).2.files)
    (failed : ∀ error tree, pre tree → stop error tree) (path : Path) :
    Guarantees pre (HostM.act path code)
      (fun a tree => (∃ world, (code.run.run world).1 = .ok a) ∧ pre tree) stop := by
  have lifted : Guarantees pre (ExceptT.lift code.run : Action (Except HostFault α))
      (fun result tree => (∃ world, (code.run.run world).1 = result) ∧ pre tree) stop :=
    ⟨fun world holds => ⟨⟨world, rfl⟩, keeps world holds⟩⟩
  refine lifted.bind fun result => ?_
  cases result with
  | ok a => exact .of_pure fun _ ran => ran
  | error fault => cases fault <;> exact .of_throw fun tree ran => failed _ tree ran.2

theorem Host.guarantees_keepCompiled (host : Host) (path : Path) (content : Content) :
    Guarantees (base.KeptOutside places) (host.keepCompiled path content)
      (fun _ => base.KeptOutside ((host.cachePlace path).toList ++ places)) stop := by
  unfold Host.keepCompiled
  refine .bind .of_get fun world => ?_
  cases place : host.cachePlace path with
  | none => exact .of_pure fun _ kept => kept
  | some place =>
      cases host.compiled world.files path content with
      | none => exact .of_pure fun _ kept => kept.mono (List.subset_append_right _ _)
      | some form => exact ⟨fun _ kept => kept.setFile _ _⟩

variable {host : Host}

/-- What is loaded is defined by some file. -/
theorem Host.load_defines {path : Path} {formatter : HostFormatter} {world : World}
    (loaded : ((host.load path).run.run world).1 = .ok formatter) : host.Defines formatter := by
  have guarantee : Guarantees (fun _ => True) (host.load path)
      (fun formatter _ => host.Defines formatter) fun _ _ => True := by
    unfold Host.load
    dsimp only
    split
    · exact .of_throw fun _ _ => trivial
    refine .bind .of_get fun world => ?_
    split
    · exact .of_throw fun _ _ => trivial
    · rename_i content _
      refine .bind (Guarantees.of_true _) fun _ => ?_
      refine .bind (HostM.guarantees_act (fun _ _ => trivial) (fun _ _ _ => trivial) path)
        fun defined => .of_fact fun ran => ?_
      cases defined with
      | none => exact .of_throw fun _ _ => trivial
      | some formatter => exact .of_pure fun _ _ => ⟨_, content, ran⟩
  have ran := guarantee.run world trivial
  revert ran loaded
  rcases (host.load path).run.run world with ⟨error | other, after⟩
  · rintro ⟨⟩
  · rintro ⟨⟩ defines
    exact defines

variable (keeps : host.KeepsFiles)

include keeps

theorem Host.guarantees_load (path : Path) :
    Guarantees (base.KeptOutside places) (host.load path)
      (fun formatter tree => host.Defines formatter ∧
        base.KeptOutside (host.cachePlaces base path ++ places) tree)
      fun _ => base.KeptOutside (host.cachePlaces base path ++ places) := by
  have wider : places ⊆ host.cachePlaces base path ++ places := List.subset_append_right _ _
  unfold Host.load
  dsimp only
  split
  · exact .of_throw fun _ kept => kept.mono wider
  refine .bind (Guarantees.of_get_fact
    fun world kept => kept.current) fun world => .of_fact fun current => ?_
  have located : Host.locationOf world.files path = Host.locationOf base path := by
    simp only [Host.locationOf, current]
  rw [located]
  split
  · exact .of_throw fun _ kept => kept.mono wider
  · rename_i content _
    refine .bind (host.guarantees_keepCompiled _ content) fun _ => ?_
    refine .bind (HostM.guarantees_act (fun world kept => (keeps.execute _ content world).symm ▸ kept)
      (fun _ _ kept => kept) path)
      fun defined => .of_fact fun ran => ?_
    cases defined with
    | none => exact .of_throw fun _ kept => kept
    | some formatter => exact .of_pure fun _ kept => ⟨⟨_, content, ran⟩, kept⟩

/-- A report by a formatter leaves all files as they are, but for the compiled form. -/
theorem Report.guarantees_renderCustom (path : Path) (place : Place)
    (symbols : Option (List Symbol)) (heading : Option Text) :
    Guarantees (base.KeptOutside places) (renderCustom host path place symbols heading)
      (fun report tree => (host.ReturnsTexts → report.IsText) ∧
        base.KeptOutside (host.cachePlaces base path ++ places) tree)
      fun _ => base.KeptOutside (host.cachePlaces base path ++ places) := by
  unfold renderCustom
  refine .bind (Host.guarantees_load keeps path) fun formatter => .of_fact fun defined => ?_
  refine .bind (Action.guarantees_log _ _) fun _ => ?_
  refine .bind (HostM.guarantees_act
    (fun world kept => (keeps.format formatter defined _ _ _ _ world).symm ▸ kept)
    (fun _ _ kept => kept) path) fun value => .of_fact fun ⟨world, ran⟩ => ?_
  cases value with
  | string codes =>
      refine .of_pure fun _ kept => ⟨fun texts => ?_, kept⟩
      exact HostString.ofCodes_isText (texts formatter defined _ _ _ _ world codes ran)
  | other type => exact .of_throw fun _ kept => kept

end Loading

end ExportDocs
