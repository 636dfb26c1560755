/-
# ExportDocs.Proofs.Run.Lockstep -- two runs that go the same way

Two steps keep in step (`Lockstep`) if from related states they come to the same result, or fail in
the same way, and leave related states.  The relation says what may differ between the two runs.
There is one rule for each way that steps are put together; what is left to prove of a program is
that each change of the state respects the relation.
-/
import ExportDocs.Proofs.Run.Guarantee

namespace ExportDocs

set_option autoImplicit false

variable {α β ε σ : Type}

/-- From related states the two steps come to the same and leave related states. -/
structure Lockstep (Related : σ → σ → Prop) (step step' : ExceptT ε (StateM σ) α) : Prop where
  run : ∀ s s', Related s s' →
    (step.run.run s).1 = (step'.run.run s').1 ∧ Related (step.run.run s).2 (step'.run.run s').2

namespace Lockstep

variable {Related : σ → σ → Prop} {step step' : ExceptT ε (StateM σ) α}

theorem of_pure (a : α) : Lockstep Related (pure a : ExceptT ε (StateM σ) α) (pure a) :=
  ⟨fun _ _ related => ⟨rfl, related⟩⟩

theorem of_throw (e : ε) : Lockstep Related (throw e : ExceptT ε (StateM σ) α) (throw e) :=
  ⟨fun _ _ related => ⟨rfl, related⟩⟩

theorem of_outcome (outcome : Except ε α) :
    Lockstep Related (ExceptT.mk (pure outcome)) (ExceptT.mk (pure outcome)) :=
  ⟨fun _ _ related => ⟨rfl, related⟩⟩

theorem of_modify {f f' : σ → σ} (respects : ∀ s s', Related s s' → Related (f s) (f' s')) :
    Lockstep Related (modify f : ExceptT ε (StateM σ) Unit) (modify f') :=
  ⟨fun s s' related => ⟨rfl, respects s s' related⟩⟩

/-- A change of the state that only the second of two steps makes. -/
theorem of_pure_modify {f : σ → σ} (respects : ∀ s s', Related s s' → Related s (f s')) :
    Lockstep Related (pure () : ExceptT ε (StateM σ) Unit) (modify f) :=
  ⟨fun s s' related => ⟨rfl, respects s s' related⟩⟩

/-- What follows keeps in step for the results that the first step can have. -/
theorem bind_returned {next next' : α → ExceptT ε (StateM σ) β}
    (first : Lockstep Related step step')
    (rest : ∀ a, (∃ s, (step.run.run s).1 = .ok a) → Lockstep Related (next a) (next' a)) :
    Lockstep Related (step >>= next) (step' >>= next') := by
  refine ⟨fun s s' related => ?_⟩
  have ran := first.run s s' related
  rw [Guarantees.run_bind, Guarantees.run_bind]
  rcases here : step.run.run s with ⟨e | a, after⟩ <;>
    rcases there : step'.run.run s' with ⟨e' | a', after'⟩ <;>
    rw [here, there] at ran <;> obtain ⟨same, related⟩ := ran <;> cases same
  · exact ⟨rfl, related⟩
  · exact (rest a ⟨s, congrArg Prod.fst here⟩).run after after' related

theorem bind {next next' : α → ExceptT ε (StateM σ) β} (first : Lockstep Related step step')
    (rest : ∀ a, Lockstep Related (next a) (next' a)) :
    Lockstep Related (step >>= next) (step' >>= next') :=
  first.bind_returned fun a _ => rest a

/-- Two steps that look at the state see related states. -/
theorem get_bind {next next' : σ → ExceptT ε (StateM σ) β}
    (rest : ∀ s s', Related s s' → Lockstep Related (next s) (next' s')) :
    Lockstep Related (get >>= next) (get >>= next') :=
  ⟨fun s s' related => (rest s s' related).run s s' related⟩

theorem lift {ε' : Type} (steps : Lockstep Related step step') :
    Lockstep Related (ExceptT.lift step.run : ExceptT ε' (StateM σ) (Except ε α))
      (ExceptT.lift step'.run) := by
  refine ⟨fun s s' related => ?_⟩
  have ran := steps.run s s' related
  exact ⟨congrArg Except.ok ran.1, ran.2⟩

theorem map (steps : Lockstep Related step step') (f : α → β) :
    Lockstep Related (f <$> step) (f <$> step') := by
  rw [map_eq_pure_bind, map_eq_pure_bind]
  exact steps.bind fun a => of_pure (f a)

theorem mapM {f f' : α → ExceptT ε (StateM σ) β} (each : ∀ a, Lockstep Related (f a) (f' a))
    (items : List α) : Lockstep Related (items.mapM f) (items.mapM f') := by
  induction items with
  | nil => exact of_pure []
  | cons item items ih =>
      rw [List.mapM_cons, List.mapM_cons]
      exact (each item).bind fun b => ih.bind fun results => of_pure (b :: results)

theorem forM {f f' : α → ExceptT ε (StateM σ) Unit} (each : ∀ a, Lockstep Related (f a) (f' a))
    (items : List α) : Lockstep Related (items.forM f) (items.forM f') := by
  induction items with
  | nil => exact of_pure ()
  | cons item items ih =>
      rw [List.forM_eq_forM, List.forM_cons, List.forM_cons]
      exact (each item).bind fun _ => ih

theorem foldlM {f f' : β → α → ExceptT ε (StateM σ) β}
    (each : ∀ b a, Lockstep Related (f b a) (f' b a)) (items : List α) (b : β) :
    Lockstep Related (items.foldlM f b) (items.foldlM f' b) := by
  induction items generalizing b with
  | nil => exact of_pure b
  | cons item items ih =>
      rw [List.foldlM_cons, List.foldlM_cons]
      exact (each b item).bind fun next => ih next

end Lockstep

end ExportDocs
