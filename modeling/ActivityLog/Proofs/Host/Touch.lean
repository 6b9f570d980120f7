import ActivityLog.Pipeline
import ActivityLog.Proofs.Host.Storage

/-!
# What pipelines and cores do to a request

They store the record and what goes with it under names of their own, and look at the state and the headers
(`Host.Touched`). A preorder that is kept wherever a host is touched is kept by all their steps (the lemmas of
`Touching`). A host as far as that is of no matter is `World.untouched`: hosts that come from each other by such steps
are the same there (`Undisturbed`). What an item or attribute of another name holds is part of it
(`Host.member_touched`).
-/

namespace ActivityLog

open Act

/-- The names under which pipelines and cores store things on requests. -/
def storedNames : List String := [recordField, "correlation_id", "log_context", "logger"]

/-- The names of what pipelines and cores look at on requests. -/
def lookedNames : List String := ["state", "headers"]

/-- What a pipeline or a core does to a host. -/
inductive Host.Touched : Host → Host → Prop where
  | store {h h' : Host} {name : String} {v : Value} (hname : name ∈ storedNames)
      (hdone : h.writeField name v = .done h') : Touched h h'
  | look {name : String} (h : Host) (hname : name ∈ lookedNames) : Touched h (h.seen name)

/-! ## Steps that touch a host -/

namespace Touching

variable {R : World → World → Prop} [IsPreorder World R] {id : Nat}
  (touched : ∀ w h h', w.hosts.get? id = some h → h.Touched h' → R w { w with hosts := w.hosts.set id h' })
  (notes : ∀ w ds, R w { w with diagnostics := ds })

include touched

theorem look {name : String} (hname : name ∈ lookedNames) : Keeps R (Act.look id name) := by
  intro w
  cases hw : w.hosts.get? id with
  | none =>
    obtain ⟨f, hf⟩ := perform_host_none hw
    have hlook : (Act.look id name).perform w = (.error f, w) := perform_bind_error hf _
    rw [hlook]
    exact refl_of R w
  | some h =>
    rw [perform_look hw]
    exact touched w h _ hw (.look h hname)

theorem readStored (name : String) : Keeps R (Act.readStored id name) :=
  Keeps.bind (look touched (by decide)) fun _ => Keeps.ofExcept _

theorem adapter : Keeps R (Act.adapter id) := by
  refine Keeps.bind (Keeps.host id) fun h => ?_
  dsimp only
  split
  · exact Keeps.bind (look touched (by decide)) fun _ => Keeps.ofExcept _
  · exact Keeps.bind (Keeps.host id) fun _ => Keeps.ofExcept _

theorem readHeader {a : Adapter} (ha : a.target = id) (name : String) : Keeps R (Act.readHeader a name) := by
  subst ha
  intro w
  unfold Act.readHeader
  cases hw : w.hosts.get? a.target with
  | none =>
    obtain ⟨f, hf⟩ := perform_host_none hw
    rw [perform_bind_error hf]
    exact refl_of R w
  | some h =>
    rw [perform_bind_ok (perform_host hw)]
    refine trans_of R ?_ (Keeps.ofExcept _ { w with hosts := w.hosts.set a.target (a.looked h) })
    unfold Adapter.looked
    split
    · exact touched w h _ hw (.look h (by decide))
    · rw [Table.set_self hw]
      exact refl_of R w

include notes

theorem writeField {name : String} (hname : name ∈ storedNames) (v : Value) : Keeps R (Act.writeField id name v) := by
  intro w
  unfold Act.writeField
  have hlook : R w ((Act.look id "state").perform w).2 := look touched (by decide) w
  cases hw : w.hosts.get? id with
  | none =>
    obtain ⟨f, hf⟩ := perform_host_none hw
    have hnone : (Act.look id "state").perform w = (.error f, w) := perform_bind_error hf _
    rw [perform_bind_error hnone]
    exact refl_of R w
  | some h =>
    rw [perform_look hw] at hlook
    rw [perform_bind_ok (perform_look hw _)]
    refine trans_of R hlook ?_
    cases hdone : (h.seen "state").writeField name v with
    | refused => exact notes _ _
    | failed f => exact refl_of R _
    | done h' => exact touched _ _ _ (Table.get?_set_self hw _) (.store hname hdone)

end Touching

/-! ## Hosts as far as they are not touched -/

/-- A host, if it is there, as far as pipelines and cores do not touch it. -/
def World.untouched (w : World) (id : Nat) : Option (Quot Host.Touched) := (w.hosts.get? id).map (Quot.mk _)

/-- The host is the same as far as pipelines and cores do not touch it. -/
def Undisturbed (id : Nat) (w w' : World) : Prop := w'.untouched id = w.untouched id

namespace Undisturbed

variable {id : Nat} {w w' : World}

instance : IsPreorder World (Undisturbed id) where
  refl _ := rfl
  trans _ _ _ h h' := Eq.trans h' h

theorem of_hosts (h : w'.hosts.get? id = w.hosts.get? id) : Undisturbed id w w' := by
  unfold Undisturbed World.untouched
  rw [h]

/-- A host is replaced by what a touch makes of it. -/
theorem of_touched {h h' : Host} (hw : w.hosts.get? id = some h) (ht : h.Touched h') :
    Undisturbed id w { w with hosts := w.hosts.set id h' } := by
  unfold Undisturbed World.untouched
  dsimp only
  rw [Table.get?_set_self hw, hw]
  exact congrArg some (Quot.sound ht).symm

theorem readStored (name : String) : Keeps (Undisturbed id) (Act.readStored id name) :=
  Touching.readStored (fun _ _ _ => of_touched) name

theorem adapter : Keeps (Undisturbed id) (Act.adapter id) := Touching.adapter fun _ _ _ => of_touched

theorem readHeader {a : Adapter} (ha : a.target = id) (name : String) :
    Keeps (Undisturbed id) (Act.readHeader a name) := Touching.readHeader (fun _ _ _ => of_touched) ha name

theorem writeField {name : String} (hname : name ∈ storedNames) (v : Value) :
    Keeps (Undisturbed id) (Act.writeField id name v) :=
  Touching.writeField (fun _ _ _ => of_touched) (fun _ _ => of_hosts rfl) hname v

end Undisturbed

/-! ## What a touch leaves alone -/

namespace Host

variable {h h' : Host} {name other : String}

/-- The names of what a touch may change. -/
def touchedNames : List String := storedNames ++ lookedNames ++ ["_state", "__dict__", "response", "_headers"]

theorem member_withAttr (a : Attribute) (hn : name ≠ other) (hd : name ≠ "__dict__") (hget : other ≠ "get") :
    (h.withAttr other a).member name = h.member name := by
  have hask : (h.withAttr other a).ask name = h.ask name := by
    unfold ask
    rw [get?_withAttr_of_ne a hget.symm]
    rfl
  have hattr : (h.withAttr other a).attr name = h.attr name := by
    unfold attr
    rw [content_withAttr_of_ne a hn hd]
    rfl
  unfold member
  rw [hask, hattr]
  rfl

theorem member_withItem (v : Value) (hn : name ≠ other) (hmap : h.isMapping = true) :
    (h.withItem other v).member name = h.member name := by
  have hitem : (h.withItem other v).item name = h.item name := by
    simp only [item, withItem, OrderedMap.value, OrderedMap.get?_insert_of_ne _ _ hn]
  have hmap' : (h.withItem other v).isMapping = true := hmap
  unfold member ask
  rw [if_pos hmap, if_pos hmap', hitem]
  rfl

/-- A stand-in has under a name what it had as long as it passes the same on. -/
theorem member_standIn {s s' : Handle} (hn : h.nature = .handle s) (hd : name ≠ "__dict__")
    (hs : standInAttr? s' name = standInAttr? s name) :
    ({ h with nature := .handle s' } : Host).member name = h.member name := by
  obtain ⟨number, nature, attributes, items, listeners, itemFault⟩ := h
  cases hn
  have hnatural : natural? ⟨number, .handle s', attributes, items, listeners, itemFault⟩ name =
      natural? ⟨number, .handle s, attributes, items, listeners, itemFault⟩ name := by
    unfold natural?
    simp only [if_neg hd, hs]
    rfl
  unfold member attr content find?
  rw [hnatural]
  rfl

/-- An object with another state has under other names what it had. -/
theorem attribute?_withState (kind : ObjectKind) (attributes : List (String × Value)) (state : Value)
    (hs : name ≠ "state") (hd : name ≠ "__dict__") :
    Value.attribute? (.object kind ((OrderedMap.mk attributes).insert "state" state).entries) name =
      Value.attribute? (.object kind attributes) name := by
  have hattr : Value.attr? (.object kind ((OrderedMap.mk attributes).insert "state" state).entries) name =
      Value.attr? (.object kind attributes) name :=
    OrderedMap.get?_insert_of_ne (OrderedMap.mk attributes) state hs
  unfold Value.attribute?
  rw [hattr]
  cases kind <;> simp only [Attribute.part?, Attribute.ofBag?, if_neg hd] <;> rfl

theorem member_withState (state : Value) (hs : name ≠ "state") (hd : name ≠ "__dict__") (hr : name ≠ "response") :
    (h.withState state).member name = h.member name := by
  have hvalue : h.withValue "state" state = h.withAttr "state" (.value state) := by
    unfold withValue
    split <;> rfl
  unfold withState
  split
  · next kind attributes listeners hnature _ =>
    refine member_standIn hnature hd ?_
    unfold standInAttr?
    rw [if_neg hr, if_neg hr]
    split
    · rfl
    · exact attribute?_withState kind attributes state hs hd
  · rw [hvalue]
    exact member_withAttr _ hs hd (by decide)

theorem member_writeState {state v : Value} (hdone : h.writeState state other v = .done h') (hs : name ≠ "state")
    (hd : name ≠ "__dict__") (hr : name ≠ "response") : h'.member name = h.member name := by
  unfold writeState at hdone
  split at hdone
  · exact absurd hdone (refusal_ne_done _)
  · split at hdone
    · cases hdone
    · cases hdone
      exact member_withState _ hs hd hr
  · cases hdone
    exact member_withState _ hs hd hr
  · cases hdone

theorem member_seen_state (hs : name ≠ "state") (hk : name ≠ "_state") (hd : name ≠ "__dict__") :
    (h.seen "state").member name = h.member name := by
  rcases h.seen_state_eq with ⟨hsame, -⟩ | ⟨keeps, u, hn, hseen⟩
  · rw [hsame]
  · have hmap : (h.withAttr "_state" (.value u)).isMapping = true := by simp [isMapping, withAttr, hn]
    have hkept : (h.withAttr "_state" (.value u)).member name = h.member name := member_withAttr _ hk hd (by decide)
    rw [hseen]
    split
    · exact hkept
    · exact (member_withItem _ hs hmap).trans hkept

/-- Only stand-ins with a response are changed by a look at their headers: the response keeps them. -/
theorem member_seen_headers (hk : name ≠ "_headers") (hd : name ≠ "__dict__") :
    (h.seen "headers").member name = h.member name := by
  unfold seen
  split
  · split <;> rfl
  · next r listeners hn =>
    split
    · refine member_standIn hn hd ?_
      simp only [standInAttr?, Option.bind_some, Option.map_some, Bound.attr?, Response.attr?, if_neg hk]
      rfl
    · rfl
  · rfl

/-- **A touch leaves alone what an item or attribute of another name holds.** -/
theorem member_touched (ht : h.Touched h') (hn : name ∉ touchedNames) : h'.member name = h.member name := by
  have hne (other : String) (ho : other ∈ touchedNames) : name ≠ other := by
    rintro rfl
    exact hn ho
  have hd : name ≠ "__dict__" := hne _ (by decide)
  have hs : name ≠ "state" := hne _ (by decide)
  cases ht with
  | look _ hname =>
    simp only [lookedNames, List.mem_cons, List.not_mem_nil, or_false] at hname
    rcases hname with rfl | rfl
    · exact member_seen_state hs (hne _ (by decide)) hd
    · exact member_seen_headers (hne _ (by decide)) hd
  | @store _ _ other v hname hdone =>
    have hother : name ≠ other := hne _ (List.mem_append_left _ (List.mem_append_left _ hname))
    have hfree : ∀ stored ∈ storedNames, ∀ free ∈ ["get", "__dict__", "response", "_listeners"], stored ≠ free := by
      decide
    have hstored (free : String) (h : free ∈ ["get", "__dict__", "response", "_listeners"]) : other ≠ free :=
      hfree other hname free h
    unfold writeField at hdone
    split at hdone
    · next hm =>
      obtain rfl := writeItem_done hdone
      exact member_withItem v hother (isMapping_of_isMutableMapping hm)
    split at hdone
    · cases hdone
    · rw [writeAttr_done_of_free (hstored _ (by decide)) (fun _ _ => ⟨hstored _ (by decide), hstored _ (by decide)⟩)
        hdone]
      exact member_withAttr _ hother hd (hstored _ (by decide))
    · exact member_writeState hdone hs hd (hne _ (by decide))

/-- A look under another name changes nothing but mappings. -/
theorem seen_of_not_touched (hmap : h.isMapping = false) (hn : name ∉ touchedNames) : h.seen name = h := by
  have hh : name ≠ "headers" := by
    rintro rfl
    exact hn (by decide)
  unfold seen
  split
  · next hnature => simp [isMapping, hnature] at hmap
  · simp [hh]
  · rfl

end Host

/-- What an item or attribute holds that is not touched is part of a host as far as it is not touched. -/
theorem World.member_untouched {w w' : World} {id : Nat} {name : String} (h : w.untouched id = w'.untouched id)
    (hn : name ∉ Host.touchedNames) : (w.hostOf id).member name = (w'.hostOf id).member name := by
  let member : Quot Host.Touched → Except Failure Value :=
    Quot.lift (fun host => host.member name) fun _ _ ht => (Host.member_touched ht hn).symm
  have hof (w : World) : (w.hostOf id).member name = ((w.untouched id).map member).getD (Host.bare.member name) := by
    unfold World.hostOf World.untouched
    cases w.hosts.get? id <;> rfl
  rw [hof, hof, h]

end ActivityLog
