import ActivityLog.Facade
import ActivityLog.Proofs.Traffic.Transparency

/-!
# The first request of an application

A facade builds its core and its pipeline when the first request needs them, before there is anything that could note a
failure. So what comes next is reached just if the pipeline is there or can be built
(`Facade.logNetwork_transparent_iff`): a new core needs settings, a logging configuration and fields
(`StructuredCore.succeeds_create_iff`), a new pipeline a core that tells its fields (`Pipeline.succeeds_create_iff`).
`Facade.not_logNetwork_transparent` is a core that does not.
-/

namespace ActivityLog

open Act

namespace Act

variable {α β : Type} {w : World}

/-- A step that gives a result. -/
def Succeeds (x : Act α) (w : World) : Prop := ∃ a, (x.perform w).1 = .ok a

theorem succeeds_pure (a : α) (w : World) : (pure a : Act α).Succeeds w := ⟨a, rfl⟩

theorem succeeds_bind_iff {x : Act α} {g : α → Act β} :
    (x >>= g).Succeeds w ↔ ∃ a w', x.perform w = (.ok a, w') ∧ (g a).Succeeds w' := by
  constructor
  · rintro ⟨b, hb⟩
    obtain ⟨a, ha, hb, -⟩ := of_perform_bind_ok hb
    exact ⟨a, _, Prod.ext ha rfl, b, hb⟩
  · rintro ⟨a, w', ha, b, hb⟩
    exact ⟨b, by rw [perform_bind_ok ha, hb]⟩

/-- What follows is of no matter if it cannot fail. -/
theorem succeeds_bind_iff_of_succeeds {x : Act α} {g : α → Act β} (hg : ∀ a w', (g a).Succeeds w') :
    (x >>= g).Succeeds w ↔ x.Succeeds w := by
  rw [succeeds_bind_iff]
  constructor
  · rintro ⟨a, w', ha, -⟩
    exact ⟨a, congrArg Prod.fst ha⟩
  · rintro ⟨a, ha⟩
    exact ⟨a, _, Prod.ext ha rfl, hg _ _⟩

theorem perform_facade {f : Facade} {id : Nat} (hf : w.facades.get? id = some f) :
    (facade id).perform w = (.ok f, w) := by simp [facade, perform_bind, hf]

theorem succeeds_facade_bind_iff {f : Facade} {id : Nat} (hf : w.facades.get? id = some f) {g : Facade → Act β} :
    (facade id >>= g).Succeeds w ↔ (g f).Succeeds w := by
  unfold Succeeds
  rw [perform_bind_ok (perform_facade hf)]

end Act

variable {env : Surroundings} {w : World}

/-! ## New cores and new pipelines -/

/-- **What a new core needs**: settings that can be read, that logging can be configured with, and whose fields can be
had. -/
theorem StructuredCore.succeeds_create_iff {resolve : Document.Resolver Act} {config : Option FieldConfig} :
    (create resolve config).Succeeds w ↔ ∃ s w₁, Act.settings.perform w = (.ok s, w₁) ∧
      ∃ u w₂, (configureLogging s).perform w₁ = (.ok u, w₂) ∧ (chooseFields resolve config s.network).Succeeds w₂ := by
  have hadd (fields : FieldConfig) (w : World) : (addCore (.structured { config := fields })).Succeeds w := ⟨_, rfl⟩
  unfold create
  simp only [succeeds_bind_iff (α := Settings), succeeds_bind_iff (α := Unit), succeeds_bind_iff_of_succeeds hadd]

/-- **What a new pipeline needs**: fields, or a core that tells them. -/
theorem Pipeline.succeeds_create_iff {core : Nat} {config : Option FieldConfig} :
    (create env core config).Succeeds w ↔ config.isSome ∨ ∃ pre w₁,
      (env.core core).preFields.perform w = (.ok pre, w₁) ∧ (env.core core).postFields.Succeeds w₁ := by
  unfold create
  cases config with
  | some config => exact iff_of_true ⟨_, rfl⟩ (.inl rfl)
  | none =>
    have hadd (pre post : List Descriptor) (w : World) : (addPipeline ⟨core, ⟨pre, post⟩, defaultLevel⟩).Succeeds w :=
      ⟨_, rfl⟩
    rw [or_iff_right (by simp), succeeds_bind_iff]
    exact exists_congr fun pre => exists_congr fun w₁ => and_congr_right fun _ =>
      succeeds_bind_iff_of_succeeds fun post w' => hadd pre post w'

namespace Facade

variable {id : Nat} {f : Facade}

/-- A facade has a core, or can make one. -/
theorem succeeds_demandCore_iff (hf : w.facades.get? id = some f) : (demandCore env id).Succeeds w ↔
    f.core.isSome ∨ (StructuredCore.create env.resolve f.config).Succeeds w := by
  unfold demandCore
  rw [succeeds_facade_bind_iff hf]
  cases f.core with
  | some c => exact iff_of_true (succeeds_pure c w) (.inl rfl)
  | none =>
    rw [or_iff_right (by simp)]
    exact succeeds_bind_iff_of_succeeds fun c _ => ⟨c, rfl⟩

/-- A facade has a pipeline, or has a core and can make one. -/
theorem succeeds_demandPipeline_iff (hf : w.facades.get? id = some f) : (demandPipeline env id).Succeeds w ↔
    f.pipeline.isSome ∨ ∃ c w₁, (demandCore env id).perform w = (.ok c, w₁) ∧
      (Pipeline.create env c f.config).Succeeds w₁ := by
  unfold demandPipeline
  rw [succeeds_facade_bind_iff hf]
  cases f.pipeline with
  | some p => exact iff_of_true (succeeds_pure p w) (.inl rfl)
  | none =>
    rw [or_iff_right (by simp), succeeds_bind_iff]
    exact exists_congr fun c => exists_congr fun w₁ => and_congr_right fun _ =>
      succeeds_bind_iff_of_succeeds fun p _ => ⟨p, rfl⟩

/-- **What comes next is reached just if the pipeline is there or can be built.** Then it is performed once, from where
the arrival ends, and what it gives or fails with is all that there is. Else the failure to build the pipeline is all
that there is, whatever was to come next.

The pipeline can be built just if the fields are given or the core tells them, and the core can be made, if it is not
there, just if the settings can be read, logging can be configured with them, and the fields of the core can be had: if
they are given, built in, or in a file that can be loaded. -/
theorem logNetwork_transparent_iff (hf : w.facades.get? id = some f) (request response : Nat) :
    (∀ p w₁, (demandPipeline env id).perform w = (.ok p, w₁) → ∀ (α : Type) (next : Act α),
      (logNetwork env id request response next).perform w =
        next.perform ((Pipeline.start env p request response).after .startFailed w₁)) ∧
    (∀ e w₁, (demandPipeline env id).perform w = (.error e, w₁) → ∀ (α : Type) (next : Act α),
      (logNetwork env id request response next).perform w = (.error e, w₁)) ∧
    ((demandPipeline env id).Succeeds w ↔ f.pipeline.isSome ∨ ∃ c w₁, (demandCore env id).perform w = (.ok c, w₁) ∧
      (f.config.isSome ∨ ∃ pre w₂, (env.core c).preFields.perform w₁ = (.ok pre, w₂) ∧
        (env.core c).postFields.Succeeds w₂)) ∧
    ((demandCore env id).Succeeds w ↔ f.core.isSome ∨ ∃ s w₁, Act.settings.perform w = (.ok s, w₁) ∧
      ∃ u w₂, (StructuredCore.configureLogging s).perform w₁ = (.ok u, w₂) ∧
        (StructuredCore.chooseFields env.resolve f.config s.network).Succeeds w₂) := by
  refine ⟨fun p w₁ hp α next => ?_, fun e w₁ he α next => ?_, ?_, ?_⟩
  · unfold logNetwork
    rw [perform_bind_ok hp, Pipeline.perform_handle]
  · exact perform_bind_error he _
  · rw [succeeds_demandPipeline_iff hf]
    simp only [Pipeline.succeeds_create_iff]
  · rw [succeeds_demandCore_iff hf, StructuredCore.succeeds_create_iff]

/-- An application with a facade for a core of its own, which may fail to tell its fields. -/
def unserved (failures : OrderedMap Failure) : World :=
  { hosts := ⟨[{ nature := .dict }, { nature := .dict }]⟩
    cores := ⟨[.recording { failures }]⟩
    facades := ⟨[{ core := some 0 }]⟩ }

/-- With a core that tells its fields what comes next is reached, though the core fails otherwise. -/
theorem logNetwork_transparent_iff_outage :
    let env := Application.surroundings
    let w := unserved ⟨[("init_log", .fault .runtime "down")]⟩
    w.facades.get? 0 = some { core := some 0 } ∧ (demandPipeline env 0).Succeeds w ∧
      ((logNetwork env 0 0 1 (pure 7)).perform w).1 = .ok 7 := by
  intro env w
  have hf : w.facades.get? 0 = some { core := some 0 } := rfl
  obtain ⟨hreached, -, hpipeline, -⟩ := @logNetwork_transparent_iff env w 0 _ hf 0 1
  obtain ⟨p, hp⟩ := hpipeline.2 (.inr ⟨0, w, rfl, .inr ⟨[], _, rfl, [], rfl⟩⟩)
  refine ⟨hf, ⟨p, hp⟩, ?_⟩
  rw [hreached p _ (Prod.ext hp rfl)]
  rfl

/-- With a core that fails to tell its fields nothing that was to come next is reached. -/
theorem not_logNetwork_transparent :
    let w := unserved ⟨[("get_pre_log_config", .fault .runtime "down")]⟩
    w.facades.get? 0 = some { core := some 0 } ∧ ∀ (α : Type) (next : Act α),
      ((logNetwork Application.surroundings 0 0 1 next).perform w).1 = .error (.fault .runtime "down") :=
  ⟨rfl, fun _ _ => rfl⟩

end Facade

end ActivityLog
