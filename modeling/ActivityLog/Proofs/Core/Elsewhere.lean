import ActivityLog.Proofs.Core.Aside

/-!
# What is none of a facade's business

Most of what happens to an application concerns neither its logs nor its facades: `Elsewhere` is such a step. It may
change hosts, contexts, lines, settings, and of cores anything but the fields that they have of their own
(`World.fieldsOf?`). Main statements: whatever the cores of an application are asked for happens elsewhere
(`Standard.elsewhere_bindLogFunctions` and its companions), and a core that is asked for fields tells those that it has
(`Standard.fields_of_told`).
-/

namespace ActivityLog

open Act

/-- The fields that the core with a number has of its own. -/
def World.fieldsOf? (w : World) (core : Nat) : Option FieldConfig := (w.cores.get? core).map CoreData.fields

/-- The fields of a phase that a core tells. -/
def LoggingCore.told (c : LoggingCore) : Phase → Act (List Descriptor)
  | .pre => c.preFields
  | .post => c.postFields

/-- The same logs, pipelines and facades, cores with the same fields, and no record handed over. -/
structure Elsewhere (w w' : World) : Prop where
  lifecycles : w'.lifecycles = w.lifecycles
  pipelines : w'.pipelines = w.pipelines
  facades : w'.facades = w.facades
  ownFacade : w'.ownFacade = w.ownFacade
  fields : ∀ c, w'.fieldsOf? c = w.fieldsOf? c
  emissions : w'.emissions = w.emissions

variable {fs : FieldFunction → Prop} {busy : Option Nat} {w w' : World} {id : Nat}

namespace Elsewhere

instance : IsPreorder World Elsewhere where
  refl _ := ⟨rfl, rfl, rfl, rfl, fun _ => rfl, rfl⟩
  trans _ _ _ h h' := ⟨h'.lifecycles.trans h.lifecycles, h'.pipelines.trans h.pipelines, h'.facades.trans h.facades,
    h'.ownFacade.trans h.ownFacade, fun c => (h'.fields c).trans (h.fields c), h'.emissions.trans h.emissions⟩

theorem quiet (h : Elsewhere w w') : Quiet fs busy w w' := ⟨Steady.of_same h.pipelines h.lifecycles, h.emissions⟩

theorem hosts (w : World) (t : Table Host) : Elsewhere w { w with hosts := t } :=
  ⟨rfl, rfl, rfl, rfl, fun _ => rfl, rfl⟩

theorem diagnostics (w : World) (ds : List Diagnostic) : Elsewhere w { w with diagnostics := ds } :=
  ⟨rfl, rfl, rfl, rfl, fun _ => rfl, rfl⟩

/-- A core gets other data, but keeps its fields. -/
theorem setCore {c d : CoreData} (hd : w.cores.get? id = some d) (hc : c.fields = d.fields) :
    Elsewhere w { w with cores := w.cores.set id c } := by
  refine ⟨rfl, rfl, rfl, rfl, fun n => ?_, rfl⟩
  unfold World.fieldsOf?
  by_cases hn : n = id
  · subst hn
    rw [Table.get?_set_self hd, hd, Option.map_some, Option.map_some, hc]
  · rw [Table.get?_set, if_neg hn]

theorem setHost (id : Nat) (h : Host) : Keeps Elsewhere (Act.setHost id h) := fun w => hosts w _

theorem look (id : Nat) (name : String) : Keeps Elsewhere (Act.look id name) := Keeps.look (fun w _ => hosts w _) name

theorem adapter (id : Nat) : Keeps Elsewhere (Act.adapter id) := Keeps.adapter fun w _ => hosts w _

theorem diagnose (ds : List Diagnostic) : Keeps Elsewhere (Act.diagnose ds) := fun w => diagnostics w _

end Elsewhere

theorem Aside.elsewhere (h : Aside w w') : Elsewhere w w' := by
  refine ⟨h.lifecycles, h.pipelines, h.facades, h.ownFacade, fun c => ?_, ?_⟩
  · rw [World.fieldsOf?, World.fieldsOf?, h.cores]
  · rw [World.emissions, World.emissions, h.calls]

/-! ## Kinds of cores -/

namespace StructuredCore

theorem elsewhere_bindLogFunctions (target : Nat) : Keeps Elsewhere (bindLogFunctions target) := by
  have host (w : World) (h : Host) : Elsewhere w { w with hosts := w.hosts.set target h } := Elsewhere.hosts w _
  exact keeps_bindLogFunctions (fun _ _ => Aside.elsewhere) (Keeps.readStored host _)
    (fun _ ha => Keeps.readHeader host ha _) (Elsewhere.adapter target)
    fun _ _ _ => Keeps.writeField host Elsewhere.diagnostics _ _

/-- The chain that records go through is settled. -/
theorem elsewhere_useChain {c : StructuredCore} (hc : w.cores.get? id = some (.structured c)) :
    Elsewhere w ((useChain id c).perform w).2 := Elsewhere.setCore hc rfl

end StructuredCore

/-! ## The cores of an application -/

namespace Standard

variable (id : Nat)

/-- A recording core's notes are no emissions. -/
theorem elsewhere_note (call : List Value) (hcall : Emission.ofCall? call = none) :
    Keeps Elsewhere (Act.note call) := by
  intro w
  have hstill : Still {} w ((Act.note call).perform w).2 := still_note call hcall w
  exact ⟨rfl, rfl, rfl, rfl, fun _ => rfl, hstill.emissions⟩

theorem elsewhere_initLog : Keeps Elsewhere (core id).initLog := keeps_initLog id elsewhere_note

theorem elsewhere_bindLogFunctions (target : Nat) : Keeps Elsewhere ((core id).bindLogFunctions target) :=
  keeps_bindLogFunctions id elsewhere_note (StructuredCore.elsewhere_bindLogFunctions target)

theorem elsewhere_writeStaticFields (record : Record) (w : World) :
    Elsewhere w ((core id).writeStaticFields record w).2.2 := keeps_writeStaticFields id elsewhere_note record w

theorem elsewhere_sendLog (level : Value) (record : Record) : Keeps Elsewhere ((core id).sendLog level record) :=
  keeps_sendLog id elsewhere_note (fun w ls => (Logger.aside_lines w ls).elsewhere)
    (fun _ _ hc => StructuredCore.elsewhere_useChain hc) level record

theorem elsewhere_setLoggingLevel (level : Value) : Keeps Elsewhere ((core id).setLoggingLevel level) :=
  keeps_setLoggingLevel id elsewhere_note (fun _ _ => Aside.elsewhere) level

theorem elsewhere_setLogPattern (pattern : Value) : Keeps Elsewhere ((core id).setLogPattern pattern) :=
  keeps_setLogPattern id elsewhere_note (fun _ _ => Aside.elsewhere) pattern

theorem elsewhere_overrideField (name : String) (value : Value) :
    Keeps Elsewhere ((core id).overrideField name value) :=
  keeps_overrideField id elsewhere_note (fun _ _ _ hd hfields => Elsewhere.setCore hd hfields) name value

theorem elsewhere_logMessage (level message : Value) (fields : Record) :
    Keeps Elsewhere ((core id).logMessage level message fields) :=
  keeps_logMessage id elsewhere_note (fun _ _ => Aside.elsewhere) level message fields

/-! ## The fields that a core tells -/

/-- A core is asked for its fields as it is now. -/
theorem told_eq (phase : Phase) : (core id).told phase = current id >>= fun c => c.told phase := by cases phase <;> rfl

/-- To tell its fields a core at most takes a note. -/
theorem keeps_told {R : World → World → Prop} [IsPreorder World R]
    (notes : ∀ call, Emission.ofCall? call = none → Keeps R (Act.note call)) (phase : Phase) :
    Keeps R ((core id).told phase) := by
  have hrecording (c : RecordingCore) (phase : Phase) : Keeps R ((c.toCore id).told phase) := by
    cases phase with
    | pre => exact Keeps.bind (keeps_enter notes c rfl) fun _ => Keeps.pure _
    | post => exact Keeps.bind (keeps_enter notes c rfl) fun _ => Keeps.pure _
  rw [told_eq]
  refine keeps_current id fun d w _ => ?_
  cases d with
  | recording c => exact hrecording c phase w
  | structured c => cases phase <;> exact refl_of R w

theorem elsewhere_told (phase : Phase) : Keeps Elsewhere ((core id).told phase) := keeps_told id elsewhere_note phase

/-- **A core tells its own fields**, if it does not fail. -/
theorem fields_of_told {phase : Phase} {ds : List Descriptor} (h : (((core id).told phase).perform w).1 = .ok ds) :
    ∃ fields, w.fieldsOf? id = some fields ∧ ds = fields.phase phase := by
  rw [told_eq] at h
  cases hd : w.cores.get? id with
  | none =>
    obtain ⟨f, hf⟩ := perform_current_none hd
    rw [perform_bind_error hf] at h
    cases h
  | some d =>
    refine ⟨d.fields, by rw [World.fieldsOf?, hd, Option.map_some], ?_⟩
    rw [perform_bind_ok (perform_current hd)] at h
    cases d with
    | recording c =>
      cases phase <;>
        obtain ⟨_, _, h, -⟩ := of_perform_bind_ok h <;>
        exact (Except.ok.inj h).symm
    | structured c => cases phase <;> exact (Except.ok.inj h).symm

end Standard

end ActivityLog
