import ActivityLog.Proofs.Act
import ActivityLog.Proofs.Record

/-!
# What is stored on a host

A value is written to one of three places: the items of a host whose items can be written, else its state if it has
one, else its attributes. It is read back from the state if there is one, else from the items of a mapping, else from
the attributes. The two orders differ, and so do the places for some hosts.

- `Host.RoundTrips`: when a stored value is read back, in terms of the host before the write, place by place
  (`items_roundTrip`, `state_roundTrip`, `attributes_roundTrip`).
- `readStored_after_writeField`: the same of a write and a read one after the other, each of which looks at the state
  first; `not_readStored_after_writeField` is a value that gets lost.
-/

namespace ActivityLog

namespace Host

variable {h h' : Host} {name : String} {v : Value}

/-! ## Names that are taken -/

/-- A name that comes with what the host is. A stand-in passes further names on to its response; these are not its
own. -/
def isBuiltin (h : Host) (name : String) : Bool :=
  name == "__dict__" || match h.nature with
    | .handle s => ["response", "_listeners"].contains name || ((methods (.handle s)).lookup name).isSome ||
        (standInType.common? name).isSome
    | _ => (h.natural? name).isSome

/-- A name that comes with the type of a state object. -/
def isStateBuiltin (state : Value) (name : String) : Bool :=
  match state with
  | .object (.typed _ _ _ _) _ => (stateAttr? .null name).isSome
  | _ => false

/-- When a value that has been stored is read back, by what the host was before the write:

- without a state, items are read back as long as the mapping has its own way to look them up, and attributes are read
  back of hosts that are no mappings, unless what was stored is a state, which is then asked itself;
- with a state, only what was stored on it is read back, under a name that does not come with its type.

In all other cases the write is not seen: what is read is what was read before. -/
def RoundTrips (h : Host) (name : String) (v : Value) : Prop :=
  match h.content "state" with
  | .error _ => False
  | .ok state =>
    if state.isNull then
      if h.isMutableMapping then ∀ u, h.attributes.get? "get" ≠ some (.value u)
      else if name = "state" ∧ v.isNull = false then h.stateAttr v name = v
      else h.isMapping → h.readStored name = .ok v
    else h.isMutableMapping ∨ isStateBuiltin state name → h.readStored name = .ok v

/-! ## The places -/

theorem get?_withAttr_self (a : Attribute) : (h.withAttr name a).attributes.get? name = some a :=
  OrderedMap.get?_insert_self _ _ _

theorem get?_withAttr_of_ne (a : Attribute) {other : String} (hn : other ≠ name) :
    (h.withAttr name a).attributes.get? other = h.attributes.get? other :=
  OrderedMap.get?_insert_of_ne _ _ hn

/-- What a host has by nature does not depend on its attributes, but for the table of them. -/
theorem natural?_withAttr (a : Attribute) {other : String} (hn : other ≠ "__dict__") :
    (h.withAttr name a).natural? other = h.natural? other := by
  obtain ⟨number, nature, attributes, items, listeners, itemFault⟩ := h
  unfold natural? withAttr
  cases nature <;> simp only [plainAttr?, Attribute.ofBag?, if_neg hn]

theorem content_withAttr_self (v : Value) : (h.withAttr name (.value v)).content name = .ok v := by
  simp [content, find?, get?_withAttr_self]

theorem content_withAttr_of_ne (a : Attribute) {other : String} (hn : other ≠ name) (hd : other ≠ "__dict__") :
    (h.withAttr name a).content other = h.content other := by
  simp only [content, find?, get?_withAttr_of_ne a hn, natural?_withAttr a hd]

theorem content_state_withItem : (h.withItem name v).content "state" = h.content "state" := by
  obtain ⟨number, nature, attributes, items, listeners, itemFault⟩ := h
  cases nature <;> rfl

theorem content_withValue_state (v : Value) : (h.withValue "state" v).content "state" = .ok v := by
  unfold withValue
  split
  · exact content_withAttr_self v
  · exact content_withAttr_self v

/-- What all objects of a type have in common are functions and texts. -/
theorem common?_cases {t : Attribute.DefinedType} {a : Value} (h : t.common? name = some a) :
    (∃ f, a = .function f) ∨ ∃ s, a = .text s := by
  unfold Attribute.DefinedType.common? at h
  split at h
  · cases h; exact .inl ⟨_, rfl⟩
  split at h
  · cases h; exact .inl ⟨_, rfl⟩
  split at h
  · cases h; exact .inl ⟨_, rfl⟩
  split at h
  · cases h; exact .inl ⟨_, rfl⟩
  split at h
  · cases h; exact .inr ⟨_, rfl⟩
  split at h
  · obtain ⟨s, -, rfl⟩ := Option.map_eq_some_iff.1 h
    exact .inr ⟨s, rfl⟩
  · cases h

/-- A stand-in has its state from what it passes reads on to. -/
theorem natural?_state_of_handle {s : Handle} (hn : h.nature = .handle s) : h.natural? "state" =
    (standInType.common? "state").or (s.response.bind fun b => b.attr? "state") := by
  have hmethod : (methods (.handle s)).lookup "state" = none := rfl
  have htype : ((typeOf? (.handle s)).bind fun t => t.common? "state") = standInType.common? "state" := rfl
  unfold natural?
  rw [hn, hmethod, htype]
  cases standInType.common? "state" <;> rfl

/-- A host has the state that it gets. -/
theorem content_withState {kind : ObjectKind} {values : List (String × Value)}
    (hs : h.content "state" = .ok (.object kind values)) (state : Value) :
    (h.withState state).content "state" = .ok state := by
  unfold withState
  split
  · next kind attributes listeners hnature hown =>
    have hnone : h.attributes.get? "state" = none := by
      rw [OrderedMap.get?_eq_none_iff, ← OrderedMap.contains_iff, hown]
      exact Bool.false_ne_true
    have hcommon : standInType.common? "state" = none := by
      cases hc : standInType.common? "state" with
      | none => rfl
      | some a =>
        simp only [content, find?, hnone, natural?_state_of_handle hnature, hc] at hs
        cases hs
        rcases common?_cases hc with ⟨f, hf⟩ | ⟨s, hf⟩ <;> cases hf
    have hnatural : natural? { h with nature := .handle ⟨some (.value (.object kind
        ((OrderedMap.mk attributes).insert "state" state).entries)), listeners⟩ } "state" = some state := by
      rw [natural?_state_of_handle rfl, hcommon]
      exact Value.attribute?_of_attr? (OrderedMap.get?_insert_self _ _ _)
    simp only [content, find?, hnone, hnatural]
    rfl
  · exact content_withValue_state state

/-! ## Reading back -/

theorem readStored_of_error {f : Failure} (hs : h.content "state" = .error f) : h.readStored name = .error f := by
  unfold readStored
  rw [hs]

theorem readStored_of_null (hs : h.content "state" = .ok .null) :
    h.readStored name = if h.isMapping then h.ask name else h.attr name := by
  unfold readStored
  rw [hs]

theorem readStored_of_state {state : Value} (hs : h.content "state" = .ok state) (hn : state.isNull = false) :
    h.readStored name = .ok (h.stateAttr state name) := by
  unfold readStored
  rw [hs]
  cases state <;> first
    | rfl
    | cases hn

theorem isMapping_of_isMutableMapping (hm : h.isMutableMapping = true) : h.isMapping = true := by
  unfold isMutableMapping at hm
  unfold isMapping
  cases hn : h.nature <;> rw [hn] at hm <;> first
    | rfl
    | cases hm

theorem ask_withItem : (h.withItem name v).ask name = .ok v ↔ ∀ u, h.attributes.get? "get" ≠ some (.value u) := by
  have hitem : (h.withItem name v).item name = v := by
    simp [item, withItem, OrderedMap.value, OrderedMap.get?_insert_self]
  have hattributes : (h.withItem name v).attributes = h.attributes := rfl
  unfold ask
  rw [hitem, hattributes]
  split
  · next u hu => simp [hu]
  · next hu => exact ⟨fun _ u heq => hu u heq, fun _ => rfl⟩

theorem changeItems_ok {items : OrderedMap Value} (hok : h.changeItems items = .ok h') : h' = { h with items } := by
  unfold changeItems at hok
  split at hok <;> cases hok
  rfl

/-- An item that a mapping takes changes nothing else. -/
theorem writeItem_done (hdone : h.writeItem name v = .done h') : h' = h.withItem name v := by
  unfold writeItem at hdone
  split at hdone <;> cases hdone
  exact changeItems_ok ‹_›

/-- An item is read back unless there is a state, or the look-up has been replaced. -/
theorem items_roundTrip (hm : h.isMutableMapping = true) :
    (h.withItem name v).readStored name = .ok v ↔ h.RoundTrips name v := by
  unfold RoundTrips
  cases hs : h.content "state" with
  | error f => simp [readStored_of_error (content_state_withItem.trans hs)]
  | ok state =>
    cases hn : state.isNull with
    | true =>
      obtain rfl := Value.isNull_iff.1 hn
      have hmap : (h.withItem name v).isMapping = true := isMapping_of_isMutableMapping hm
      simp only [hm, hn, if_true]
      rw [readStored_of_null (content_state_withItem.trans hs), if_pos hmap, ask_withItem]
    | false =>
      have hsame : (h.withItem name v).readStored name = h.readStored name := by
        rw [readStored_of_state (content_state_withItem.trans hs) hn, readStored_of_state hs hn]
        rfl
      simp [hsame, hm, hn]

theorem isSome_stateAttr? (entries : Value) (name : String) :
    (stateAttr? entries name).isSome = (stateAttr? .null name).isSome := by
  unfold stateAttr?
  split
  · rfl
  split
  · rfl
  split
  · rfl
  · rfl

theorem number_withValue (v : Value) : (h.withValue name v).number = h.number := by
  unfold withValue
  repeat' split
  all_goals rfl

theorem number_withState (state : Value) : (h.withState state).number = h.number := by
  unfold withState
  split
  · rfl
  · exact number_withValue state

theorem refusal_ne_done (kind : FaultKind) : refusal kind ≠ .done h := by
  intro hdone
  cases kind <;> cases hdone

theorem stateAttr_plain {entries : List (String × Value)} (hget : entries.lookup name = some v) :
    h.stateAttr (.object .plain entries) name = v := by
  have hattr : (Value.object .plain entries).attr? name = some v := hget
  unfold stateAttr
  dsimp only
  rw [Value.attribute?_of_attr? hattr]
  rfl

theorem stateAttr_openState {entries : List (String × Value)} (hget : entries.lookup name = some v) :
    h.stateAttr (openState entries) name = (stateAttr? (.shared (.stateEntries h.number) false) name).getD v := by
  unfold stateAttr openState
  dsimp only
  rw [Value.attr, Value.attr?, hget]
  rfl

/-- What has been stored on a state is read back, unless the name comes with the state's type. -/
theorem state_roundTrip {state : Value} (hm : h.isMutableMapping = false) (hs : h.content "state" = .ok state)
    (hdone : h.writeState state name v = .done h') : h'.readStored name = .ok v ↔ h.RoundTrips name v := by
  cases state with
  | object kind values =>
    have hget : ((OrderedMap.mk values).insert name v).entries.lookup name = some v :=
      OrderedMap.get?_insert_self _ _ _
    cases kind with
    | refusing type fault => exact absurd hdone (refusal_ne_done _)
    | plain =>
      unfold writeState at hdone
      dsimp only at hdone
      split at hdone
      · cases hdone
      · cases hdone
        rw [readStored_of_state (content_withState hs _) rfl]
        simp [RoundTrips, hs, hm, isStateBuiltin, Value.isNull, withValues, stateAttr_plain hget]
    | typed type shown text isEmpty =>
      cases hdone
      rw [readStored_of_state (content_withState hs _) rfl]
      simp only [RoundTrips, hs, hm, isStateBuiltin, Value.isNull, withValues, stateAttr_openState hget]
      rw [number_withState, ← isSome_stateAttr? (.shared (.stateEntries h.number) false)]
      cases hb : stateAttr? (.shared (.stateEntries h.number) false) name with
      | none => simp
      | some b => simp [readStored_of_state hs rfl, stateAttr, hb]
  | _ => cases hdone

/-! ## Attributes of the host itself -/

/-- With a name that no stand-in keeps apart an attribute is kept as it is. -/
theorem writeAttr_done_of_free (hdict : name ≠ "__dict__")
    (hfree : ∀ s, h.nature = .handle s → name ≠ "response" ∧ name ≠ "_listeners")
    (hdone : h.writeAttr name v = .done h') : h' = h.withAttr name (.value v) := by
  have hopen (isBag : Bool) (hdone : h.writeOpen isBag name v = .done h') : h' = h.withAttr name (.value v) := by
    unfold writeOpen at hdone
    rw [if_neg hdict] at hdone
    split at hdone
    · cases hdone
    cases hdone
    unfold withValue
    split
    · next s hn => rw [if_neg (hfree s hn).1, if_neg (hfree s hn).2]
    · rfl
  unfold writeAttr at hdone
  split at hdone
  · exact absurd hdone (refusal_ne_done _)
  · cases hdone
  · cases hdone
  · exact hopen true hdone
  · exact hopen false hdone

/-- With a name of its own an attribute is kept as it is. -/
theorem writeAttr_done (hname : h.isBuiltin name = false) (hdone : h.writeAttr name v = .done h') :
    h' = h.withAttr name (.value v) := by
  refine writeAttr_done_of_free ?_ (fun s hn => ?_) hdone
  · rintro rfl
    cases hname
  · simp only [isBuiltin, hn, Bool.or_eq_false_iff] at hname
    have hfree := hname.2.1.1
    simp only [List.contains_cons, Bool.or_eq_false_iff, beq_eq_false_iff_ne] at hfree
    exact ⟨hfree.1, hfree.2.1⟩

theorem natural?_get_of_isMapping (hm : h.isMutableMapping = false) (hmap : h.isMapping = true) :
    (h.natural? "get").isSome = true := by
  obtain ⟨number, nature, attributes, items, listeners, itemFault⟩ := h
  cases nature <;> first
    | rfl
    | exact absurd hmap Bool.false_ne_true
    | exact absurd hm.symm Bool.false_ne_true

theorem ne_get_of_not_isBuiltin (hname : h.isBuiltin name = false) (hm : h.isMutableMapping = false)
    (hmap : h.isMapping = true) : name ≠ "get" := by
  rintro rfl
  have hget := natural?_get_of_isMapping hm hmap
  unfold isBuiltin at hname
  unfold isMapping at hmap
  cases hn : h.nature <;> rw [hn] at hmap hname <;> first
    | exact absurd hmap Bool.false_ne_true
    | simp [hget] at hname

/-- An attribute of a host that is no mapping holds what has been stored in it. -/
theorem attr_withAttr_self (hmap : h.isMapping = false) (hv : name = "state" → v.isNull = true) :
    (h.withAttr name (.value v)).attr name = .ok v := by
  have hopen : ¬(name = "state" ∧ isOpenState v = true) := by
    rintro ⟨hn, ho⟩
    rw [Value.isNull_iff.1 (hv hn)] at ho
    cases ho
  have hnature : (h.withAttr name (.value v)).nature = h.nature := rfl
  unfold attr
  rw [content_withAttr_self, hnature]
  simp only [Except.map, Bool.and_eq_true, decide_eq_true_eq, if_neg hopen]
  unfold isMapping at hmap
  split
  · next hn => rw [hn] at hmap; cases hmap
  · rfl

/-- What has been stored among the attributes is read back unless items are asked first, or the state that was stored
is. -/
theorem attributes_roundTrip (hname : h.isBuiltin name = false) (hm : h.isMutableMapping = false)
    (hs : h.content "state" = .ok .null) (hdone : h.writeAttr name v = .done h') :
    h'.readStored name = .ok v ↔ h.RoundTrips name v := by
  obtain rfl := writeAttr_done hname hdone
  have hround : h.RoundTrips name v ↔ if name = "state" ∧ v.isNull = false then h.stateAttr v name = v
      else h.isMapping → h.readStored name = .ok v := by
    have hnull : Value.null.isNull = true := rfl
    simp only [RoundTrips, hs, hm, hnull, if_true, if_neg Bool.false_ne_true]
  rw [hround]
  by_cases hasked : name = "state" ∧ v.isNull = false
  · obtain ⟨rfl, hv⟩ := hasked
    rw [if_pos ⟨rfl, hv⟩, readStored_of_state (content_withAttr_self v) hv, Except.ok.injEq]
    rfl
  · have hv (hn : name = "state") : v.isNull = true := by simpa [hn] using hasked
    have hs' : (h.withAttr name (.value v)).content "state" = .ok .null := by
      by_cases hn : name = "state"
      · rw [hn, content_withAttr_self, Value.isNull_iff.1 (hv hn)]
      · rw [content_withAttr_of_ne _ (Ne.symm hn) (by decide), hs]
    have hsame : (h.withAttr name (.value v)).isMapping = h.isMapping := rfl
    rw [if_neg hasked, readStored_of_null hs', hsame]
    cases hmap : h.isMapping with
    | false =>
      rw [if_neg Bool.false_ne_true, attr_withAttr_self hmap hv]
      exact ⟨fun _ h => absurd h Bool.false_ne_true, fun _ => rfl⟩
    | true =>
      have hask : (h.withAttr name (.value v)).ask name = h.ask name := by
        unfold ask
        rw [get?_withAttr_of_ne _ (ne_get_of_not_isBuiltin hname hm hmap).symm]
        rfl
      rw [if_pos rfl, hask, readStored_of_null hs, hmap, if_pos rfl]
      exact ⟨fun h _ => h, fun h => h rfl⟩

/-- **A stored value is read back exactly if it round-trips.** -/
theorem readStored_iff_roundTrips (hname : h.isBuiltin name = false) (hdone : h.writeField name v = .done h') :
    h'.readStored name = .ok v ↔ h.RoundTrips name v := by
  unfold writeField at hdone
  split at hdone
  · next hm =>
    obtain rfl := writeItem_done hdone
    exact items_roundTrip hm
  · next hm =>
    rw [Bool.not_eq_true] at hm
    split at hdone
    · cases hdone
    · next hs => exact attributes_roundTrip hname hm hs hdone
    · next state hs => exact state_roundTrip hm hs hdone

/-! ## Looking at the state first -/

/-- Which names come with a host is a matter of what it is. -/
theorem isBuiltin_congr (hn : h'.nature = h.nature) (name : String) : h'.isBuiltin name = h.isBuiltin name := by
  obtain ⟨number, nature, attributes, items, listeners, itemFault⟩ := h
  obtain ⟨number', nature', attributes', items', listeners', itemFault'⟩ := h'
  obtain rfl : nature' = nature := hn
  unfold isBuiltin
  by_cases hd : name = "__dict__"
  · simp [hd]
  · have hnatural : (natural? ⟨number', nature', attributes', items', listeners', itemFault'⟩ name).isSome =
        (natural? ⟨number, nature', attributes, items, listeners, itemFault⟩ name).isSome := by
      unfold natural?
      dsimp only
      split
      · rfl
      split
      · rfl
      cases nature' <;> simp only [plainAttr?, Attribute.ofBag?, if_neg hd]
      split <;> rfl
    cases nature' <;> simp only [hnatural]

/-- Only web requests are changed by a look at their state: they keep it, and put it into the description of the
call. -/
theorem seen_state_eq (h : Host) :
    (h.seen "state" = h ∧ ∀ keeps, h.nature = .webRequest keeps → ∃ f, h.content "state" = .error f) ∨
    ∃ keeps u, h.nature = .webRequest keeps ∧ h.seen "state" =
      if h.items.contains "state" then h.withAttr "_state" (.value u)
      else (h.withAttr "_state" (.value u)).withItem "state" (.shared (.stateEntries h.number) false) := by
  unfold seen
  split
  · next keeps hn =>
    cases hs : h.content "state" with
    | error f =>
      left
      exact ⟨by simp [attr, hs, Except.map], fun _ _ => ⟨f, rfl⟩⟩
    | ok v =>
      right
      obtain ⟨u, hu⟩ : ∃ u, h.attr "state" = .ok u := ⟨_, by rw [attr, hs]; rfl⟩
      have hkept : h.withValue ("_" ++ "state") u = h.withAttr "_state" (.value u) := by
        unfold withValue
        rw [hn]
        rfl
      refine ⟨keeps, u, hn, ?_⟩
      have hkeeps : kept.contains "state" = true := rfl
      simp only [hu, hkeeps, if_true, hkept]
      have hsame : (h.withAttr "_state" (.value u)).items.contains "state" = h.items.contains "state" := rfl
      cases hi : h.items.contains "state" <;> simp only [hsame, hi] <;> rfl
  · next hn =>
    left
    exact ⟨by simp, fun keeps hk => by rw [hn] at hk; cases hk⟩
  · next hn _ => exact .inl ⟨rfl, fun keeps hk => absurd hk (hn keeps)⟩

/-- After a look at the state another one does not change what is read. -/
theorem readStored_seen (hi : ∀ keeps, h.nature = .webRequest keeps → h.items.contains "state" = true) :
    (h.seen "state").readStored name = h.readStored name := by
  rcases h.seen_state_eq with ⟨hsame, -⟩ | ⟨keeps, u, hn, hseen⟩
  · rw [hsame]
  · rw [hi keeps hn, if_pos rfl] at hseen
    have hs' : (h.withAttr "_state" (.value u)).content "state" = h.content "state" :=
      content_withAttr_of_ne _ (by decide) (by decide)
    have hask : (h.withAttr "_state" (.value u)).ask name = h.ask name := by
      unfold ask
      rw [get?_withAttr_of_ne _ (by decide)]
      rfl
    have hmap : h.isMapping = true := by simp [isMapping, hn]
    have hmap' : (h.withAttr "_state" (.value u)).isMapping = true := hmap
    unfold readStored
    rw [hseen, hs', hask, hmap, hmap']
    rfl

theorem nature_seen : (h.seen "state").nature = h.nature := by
  rcases h.seen_state_eq with ⟨hsame, -⟩ | ⟨keeps, u, hn, hseen⟩
  · rw [hsame]
  · rw [hseen]
    split <;> rfl

theorem withState_of_webRequest {keeps : Bool} (hn : h.nature = .webRequest keeps) (state : Value) :
    h.withState state = h.withAttr "state" (.value state) := by
  unfold withState withValue
  rw [hn]

/-- A write to a web request changes one attribute of it. -/
theorem writeField_of_webRequest {keeps : Bool} (hn : h.nature = .webRequest keeps) (hname : h.isBuiltin name = false)
    (hdone : h.writeField name v = .done h') :
    (∃ state, h.content "state" = .ok state) ∧ ∃ n a, h' = h.withAttr n a := by
  have hm : h.isMutableMapping = false := by simp [isMutableMapping, hn]
  unfold writeField at hdone
  rw [hm, if_neg Bool.false_ne_true] at hdone
  split at hdone
  · cases hdone
  · next hs => exact ⟨⟨_, hs⟩, _, _, writeAttr_done hname hdone⟩
  · next state hs =>
    refine ⟨⟨_, hs⟩, "state", ?_⟩
    unfold writeState at hdone
    split at hdone
    · exact absurd hdone (refusal_ne_done _)
    · split at hdone
      · cases hdone
      · cases hdone
        exact ⟨_, withState_of_webRequest hn _⟩
    · cases hdone
      exact ⟨_, withState_of_webRequest hn _⟩
    · cases hdone

theorem nature_withState {keeps : Bool} {state : Value} (hn : (h.withState state).nature = .webRequest keeps) :
    h.nature = .webRequest keeps := by
  unfold withState at hn
  split at hn
  · cases hn
  · unfold withValue at hn
    split at hn <;> exact hn

/-- Nothing becomes a web request by a write. -/
theorem nature_of_writeField {keeps : Bool} (hname : h.isBuiltin name = false) (hdone : h.writeField name v = .done h')
    (hn : h'.nature = .webRequest keeps) : h.nature = .webRequest keeps := by
  unfold writeField at hdone
  split at hdone
  · obtain rfl := writeItem_done hdone
    exact hn
  split at hdone
  · cases hdone
  · rw [writeAttr_done hname hdone] at hn
    exact hn
  · unfold writeState at hdone
    split at hdone
    · exact absurd hdone (refusal_ne_done _)
    · split at hdone
      · cases hdone
      · cases hdone
        exact nature_withState hn
    · cases hdone
      exact nature_withState hn
    · cases hdone

/-- The look before a read does not change what is read, since there was one before the write. -/
theorem readStored_seen_of_writeField (hname : h.isBuiltin name = false)
    (hdone : (h.seen "state").writeField name v = .done h') :
    (h'.seen "state").readStored name = h'.readStored name := by
  have hname' : (h.seen "state").isBuiltin name = false := by rw [isBuiltin_congr nature_seen, hname]
  refine readStored_seen fun keeps hn => ?_
  have hn' := nature_of_writeField hname' hdone hn
  obtain ⟨⟨state, hs⟩, n, a, rfl⟩ := writeField_of_webRequest hn' hname' hdone
  rcases h.seen_state_eq with ⟨hsame, hfails⟩ | ⟨_, u, _, hseen⟩
  · obtain ⟨f, hf⟩ := hfails keeps (nature_seen ▸ hn')
    rw [hsame, hf] at hs
    cases hs
  · show (h.seen "state").items.contains "state" = true
    rw [hseen]
    split
    · next hi => exact hi
    · rw [OrderedMap.contains_iff]
      exact Decidable.not_not.1 fun hk => by
        have hnone := OrderedMap.get?_eq_none_iff.2 hk
        simp [withItem, OrderedMap.get?_insert_self] at hnone

end Host

/-! ## On a host of an application -/

open Act in
/-- **What is written to a host is read back exactly if it round-trips.** The host may be of any kind and have any
state; the name is none that comes with it, and the write is not refused: it neither fails nor is there a word about
it. -/
theorem readStored_after_writeField {w : World} {id : Nat} {h : Host} {name : String} {v : Value}
    (hh : w.hosts.get? id = some h) (hname : h.isBuiltin name = false)
    (hok : ((writeField id name v).perform w).1 = .ok ())
    (hquiet : ((writeField id name v).perform w).2.diagnostics = w.diagnostics) :
    ((readStored id name).perform ((writeField id name v).perform w).2).1 = .ok v ↔
      (h.seen "state").RoundTrips name v := by
  have hname' : (h.seen "state").isBuiltin name = false := by rw [Host.isBuiltin_congr Host.nature_seen, hname]
  unfold writeField at hok hquiet ⊢
  rw [perform_bind_ok (perform_look hh "state")] at hok hquiet ⊢
  cases hdone : (h.seen "state").writeField name v with
  | refused => simp [hdone] at hquiet
  | failed f =>
    rw [hdone] at hok
    cases hok
  | done h' =>
    let w₁ : World := { w with hosts := w.hosts.set id (h.seen "state") }
    have hw₁ : w₁.hosts.get? id = some (h.seen "state") := Table.get?_set_self hh _
    have hw₂ : ({ w₁ with hosts := w₁.hosts.set id h' } : World).hosts.get? id = some h' := Table.get?_set_self hw₁ h'
    show ((readStored id name).perform { w₁ with hosts := w₁.hosts.set id h' }).1 = .ok v ↔ _
    unfold readStored
    rw [perform_bind_ok (perform_look hw₂ "state"), perform_ofExcept]
    show (h'.seen "state").readStored name = .ok v ↔ _
    rw [Host.readStored_seen_of_writeField hname hdone]
    exact Host.readStored_iff_roundTrips hname' hdone

/-- A dictionary without a state gives back what is put into it. -/
theorem readStored_after_writeField_dictionary :
    let w : World := { hosts := ⟨[{ nature := .dict }]⟩ }
    let write := (Act.writeField 0 "log_record" (.int 1)).perform w
    ({ nature := .dict } : Host).isBuiltin "log_record" = false ∧ write.1 = .ok () ∧
      write.2.diagnostics = w.diagnostics ∧ ((Act.readStored 0 "log_record").perform write.2).1 = .ok (.int 1) := by
  intro w write
  have hh : w.hosts.get? 0 = some { nature := .dict } := rfl
  exact ⟨rfl, rfl, rfl, (readStored_after_writeField hh rfl rfl rfl).2 fun _ hu => by cases hu⟩

/-- A dictionary that has a state, too. -/
def dictionaryWithState : Host :=
  { nature := .dict, attributes := ⟨[("state", .value (.object .plain []))]⟩ }

/-- What is put into a dictionary that has a state is not given back: it goes to the items, and the state is asked for
it. -/
theorem not_readStored_after_writeField :
    let w : World := { hosts := ⟨[dictionaryWithState]⟩ }
    let write := (Act.writeField 0 "log_record" (.int 1)).perform w
    dictionaryWithState.isBuiltin "log_record" = false ∧ write.1 = .ok () ∧ write.2.diagnostics = w.diagnostics ∧
      ((Act.readStored 0 "log_record").perform write.2).1 ≠ .ok (.int 1) := by
  intro w write
  refine ⟨rfl, rfl, rfl, ?_⟩
  -- What a bag of attributes has under a name of its type is a function or a text, if anything.
  have hread : ((Act.readStored 0 "log_record").perform write.2).1 =
      .ok (((Attribute.DefinedType.mk "types" Attribute.bagType (Documentation.ofType? Attribute.bagType)).common?
        "log_record").getD .null) := rfl
  rw [hread]
  intro heq
  cases hc : (Attribute.DefinedType.mk "types" Attribute.bagType (Documentation.ofType? Attribute.bagType)).common?
      "log_record" with
  | none => simp [hc] at heq
  | some a =>
    rw [hc, Except.ok.injEq, Option.getD_some] at heq
    subst heq
    rcases Host.common?_cases hc with ⟨f, hf⟩ | ⟨s, hf⟩ <;> cases hf

end ActivityLog
