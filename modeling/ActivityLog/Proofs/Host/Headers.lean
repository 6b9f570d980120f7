import ActivityLog.Proofs.Host.Touch

/-!
# Headers of a host

What a header of a host reads as (`Host.header`), in the way that the host offers to read them. It depends on a few
attributes and items only (`Host.LooksAlike`), and nothing that pipelines and cores do to a host changes these
(`Host.looksAlike_touched`). So an adapter goes on to read what the host gave when the adapter was made
(`of_perform_readHeader`).
-/

namespace ActivityLog

open Act OrderedMap

namespace Host

variable {h h' : Host} {name other : String}

/-- A header of the host, read in the way that the host offers. -/
def header (h : Host) (name : String) : Except Failure Value := do
  (⟨h.number, ← Adapter.detectReader h, none⟩ : Adapter).readHeader h name

/-- The value of a header, if there is one that can be read. -/
def header? (h : Host) (name : String) : Option Value := (h.header name).toOption.bind Value.toOption

/-- Whether the host is a stand-in for a response. -/
def isStandIn (h : Host) : Bool :=
  match h.nature with
  | .handle _ => true
  | _ => false

/-- The names of the attributes by which headers are found. -/
def headerNames : List String := ["header", "get_header", "headers"]

/-- Two hosts that offer the same ways to read headers, and the same headers. -/
structure LooksAlike (h h' : Host) : Prop where
  standIn : h'.isStandIn = h.isStandIn
  mapping : h'.isMapping = h.isMapping
  own : h'.attributes.get? "header" = h.attributes.get? "header"
  found : ∀ name ∈ headerNames, h'.find? name = h.find? name
  asked : h'.ask "headers" = h.ask "headers"
  bound : ∀ name, Adapter.readBound h' name = Adapter.readBound h name

theorem LooksAlike.refl (h : Host) : LooksAlike h h := ⟨rfl, rfl, rfl, fun _ _ => rfl, rfl, fun _ => rfl⟩

theorem LooksAlike.trans {h'' : Host} (h₁ : LooksAlike h h') (h₂ : LooksAlike h' h'') : LooksAlike h h'' where
  standIn := h₂.standIn.trans h₁.standIn
  mapping := h₂.mapping.trans h₁.mapping
  own := h₂.own.trans h₁.own
  found name hn := (h₂.found name hn).trans (h₁.found name hn)
  asked := h₂.asked.trans h₁.asked
  bound name := (h₂.bound name).trans (h₁.bound name)

/-! ## What an adapter reads -/

theorem detectReader_eq (h : Host) : Adapter.detectReader h =
    if h.isStandIn && !h.attributes.contains "header" then .ok .ofHandle
    else match Adapter.accessorReader (h.find? "header"), Adapter.accessorReader (h.find? "get_header") with
      | some r, _ => .ok r
      | none, some r => .ok r
      | none, none => Adapter.headersReader h := by
  unfold Adapter.detectReader isStandIn
  cases h.nature <;> cases h.attributes.contains "header" <;> rfl

theorem LooksAlike.detectReader (hh : LooksAlike h h') : Adapter.detectReader h' = Adapter.detectReader h := by
  have hcontains : h'.attributes.contains "header" = h.attributes.contains "header" := by
    rw [contains, contains, hh.own]
  have hheaders : Adapter.headersReader h' = Adapter.headersReader h := by
    unfold Adapter.headersReader content
    rw [hh.found "headers" (by decide), hh.mapping, hh.asked]
  rw [detectReader_eq, detectReader_eq, hh.standIn, hcontains, hh.found "header" (by decide),
    hh.found "get_header" (by decide), hheaders]

/-- **An adapter of a host reads what any host gives that offers the same.** -/
theorem LooksAlike.readHeader (hh : LooksAlike h h') {a : Adapter} (ha : Adapter.detectReader h = .ok a.reader)
    (name : String) : a.readHeader h' name = h.header name := by
  obtain ⟨target, reader, registrar⟩ := a
  rw [header, ha]
  cases reader with
  | ofHandle => exact hh.bound name
  | _ => rfl

theorem LooksAlike.header_eq (hh : LooksAlike h h') (name : String) : h'.header name = h.header name := by
  cases ha : Adapter.detectReader h with
  | error f => rw [header, header, hh.detectReader, ha]; rfl
  | ok r =>
    have hread := hh.readHeader (a := ⟨h'.number, r, none⟩) ha name
    rw [← hread, header, hh.detectReader, ha]
    rfl

theorem LooksAlike.header?_eq (hh : LooksAlike h h') (name : String) : h'.header? name = h.header? name := by
  rw [header?, header?, hh.header_eq]

theorem header?_eq_some_iff {v : Value} : h.header? name = some v ↔ h.header name = .ok v ∧ v ≠ .null := by
  unfold header?
  rcases h.header name with f | u
  · exact iff_of_false nofun fun ⟨hu, _⟩ => nomatch hu
  · by_cases hu : u = .null
    · subst hu
      exact iff_of_false nofun fun ⟨hv, hnull⟩ => hnull (Except.ok.inj hv).symm
    · rw [Except.toOption, Option.bind_some, Value.toOption_of_ne hu, Option.some.injEq, Except.ok.injEq]
      exact ⟨fun h => ⟨h, h ▸ hu⟩, fun h => h.1⟩

/-! ## What changes nothing about headers -/

theorem find?_withAttr (a : Attribute) (hn : name ≠ other) (hd : name ≠ "__dict__") :
    (h.withAttr other a).find? name = h.find? name := by
  simp only [find?, get?_withAttr_of_ne a hn, natural?_withAttr a hd]

theorem looksAlike_withAttr (a : Attribute) (ho : other ∉ "get" :: headerNames) : LooksAlike h (h.withAttr other a) := by
  have hne (free : String) (hf : free ∈ "get" :: headerNames) : free ≠ other := by
    rintro rfl
    exact ho hf
  have hasked : (h.withAttr other a).ask "headers" = h.ask "headers" := by
    unfold ask
    rw [get?_withAttr_of_ne a (hne _ (by decide))]
    rfl
  have hdict : ∀ free ∈ headerNames, free ≠ "__dict__" := by decide
  exact ⟨rfl, rfl, get?_withAttr_of_ne a (hne _ (by decide)),
    fun free hf => find?_withAttr a (hne free (List.mem_cons_of_mem _ hf)) (hdict free hf), hasked, fun _ => rfl⟩

theorem looksAlike_withItem (v : Value) (ho : other ≠ "headers") (hmap : h.isMapping = true) :
    LooksAlike h (h.withItem other v) := by
  have hnatural : ∀ free ∈ headerNames, (h.withItem other v).natural? free = h.natural? free := by
    obtain ⟨number, nature, attributes, items, listeners, itemFault⟩ := h
    have hscope : ∀ free ∈ headerNames, free ≠ "scope" := by decide
    intro free hf
    cases nature <;> first
      | rfl
      | simp only [natural?, withItem, if_neg (hscope free hf)]
        rfl
  have hfound : ∀ free ∈ headerNames, (h.withItem other v).find? free = h.find? free := by
    intro free hf
    rw [find?, hnatural free hf]
    rfl
  have hasked : (h.withItem other v).ask "headers" = h.ask "headers" := by
    have hitem : (h.withItem other v).item "headers" = h.item "headers" := by
      simp only [item, withItem, OrderedMap.value, get?_insert_of_ne _ _ ho.symm]
    unfold ask
    rw [hitem]
    rfl
  exact ⟨rfl, rfl, rfl, hfound, hasked, fun _ => rfl⟩

/-- A stand-in that passes reads on to something that offers the same headers. -/
theorem looksAlike_standIn {s s' : Handle} (hn : h.nature = .handle s)
    (hattr : ∀ name ∈ headerNames, standInAttr? s' name = standInAttr? s name)
    (hbound : s'.response.map Bound.headers = s.response.map Bound.headers) :
    LooksAlike h { h with nature := .handle s' } := by
  obtain ⟨number, nature, attributes, items, listeners, itemFault⟩ := h
  cases hn
  have hdict : ∀ free ∈ headerNames, free ≠ "__dict__" := by decide
  have hnatural : ∀ free ∈ headerNames, natural? ⟨number, .handle s', attributes, items, listeners, itemFault⟩ free =
      natural? ⟨number, .handle s, attributes, items, listeners, itemFault⟩ free := by
    intro free hf
    unfold natural?
    simp only [if_neg (hdict free hf), hattr free hf]
    rfl
  refine ⟨rfl, rfl, rfl, fun free hf => ?_, rfl, fun header => ?_⟩
  · rw [find?, hnatural free hf]
    rfl
  · obtain ⟨response, waiting⟩ := s
    obtain ⟨response', waiting'⟩ := s'
    dsimp only at hbound
    cases response <;> cases response' <;> simp_all [Adapter.readBound]

theorem looksAlike_withState (state : Value) : LooksAlike h (h.withState state) := by
  have hvalue : h.withValue "state" state = h.withAttr "state" (.value state) := by
    unfold withValue
    split <;> rfl
  unfold withState
  split
  · next kind attributes listeners hnature _ =>
    refine looksAlike_standIn hnature (fun free hf => ?_) ?_
    · have hfree : ∀ free ∈ headerNames, free ≠ "state" ∧ free ≠ "__dict__" ∧ free ≠ "response" := by decide
      obtain ⟨hs, hd, hr⟩ := hfree free hf
      unfold standInAttr?
      rw [if_neg hr, if_neg hr]
      split
      · rfl
      · exact attribute?_withState kind attributes state hs hd
    · have hheaders : Value.attribute? (.object kind ((OrderedMap.mk attributes).insert "state" state).entries)
          "headers" = Value.attribute? (.object kind attributes) "headers" :=
        attribute?_withState kind attributes state (by decide) (by decide)
      simp only [Option.map_some, Bound.headers, hheaders]
      cases kind <;> rfl
  · rw [hvalue]
    exact looksAlike_withAttr _ (by decide)

/-- A look at a host changes nothing about its headers. -/
theorem looksAlike_seen (h : Host) (name : String) : LooksAlike h (h.seen name) := by
  unfold seen
  split
  · next keeps hn =>
    have hkept (v : Value) (hk : kept.contains name = true) : LooksAlike h (h.withValue ("_" ++ name) v) := by
      have hvalue : h.withValue ("_" ++ name) v = h.withAttr ("_" ++ name) (.value v) := by
        unfold withValue
        rw [hn]
      rw [hvalue]
      refine looksAlike_withAttr _ ?_
      have hfree : ∀ n ∈ kept, "_" ++ n ∉ "get" :: headerNames := by decide
      exact hfree name (List.contains_iff_mem.1 hk)
    split
    · exact .refl h
    · next v _ =>
      have hfirst : LooksAlike h (if kept.contains name then h.withValue ("_" ++ name) v else h) := by
        split
        · next hk => exact hkept v hk
        · exact .refl h
      have hmap : h.isMapping = true := by simp [isMapping, hn]
      dsimp only
      generalize (if kept.contains name then h.withValue ("_" ++ name) v else h) = h₁ at hfirst ⊢
      split
      · exact hfirst.trans (looksAlike_withItem _ (by decide) (hfirst.mapping.trans hmap))
      · exact hfirst
  · next r listeners hn =>
    split
    · refine looksAlike_standIn hn (fun free hf => ?_) rfl
      have hfree : ∀ free ∈ headerNames, free ≠ "_headers" := by decide
      simp only [standInAttr?, Option.bind_some, Option.map_some, Bound.attr?, Response.attr?, if_neg (hfree free hf)]
      rfl
    · exact .refl h
  · exact .refl h

/-- What pipelines and cores do to a host changes nothing about its headers. -/
theorem looksAlike_touched (ht : h.Touched h') : LooksAlike h h' := by
  cases ht with
  | look _ _ => exact looksAlike_seen h _
  | @store _ _ stored v hname hdone =>
    have hfree : ∀ stored ∈ storedNames, stored ∉ "get" :: headerNames ∧
        ∀ free ∈ ["__dict__", "response", "_listeners", "headers"], stored ≠ free := by decide
    obtain ⟨hstored, hne⟩ := hfree stored hname
    unfold writeField at hdone
    split at hdone
    · next hm =>
      obtain rfl := writeItem_done hdone
      exact looksAlike_withItem v (hne _ (by decide)) (isMapping_of_isMutableMapping hm)
    split at hdone
    · cases hdone
    · rw [writeAttr_done_of_free (hne _ (by decide)) (fun _ _ => ⟨hne _ (by decide), hne _ (by decide)⟩) hdone]
      exact looksAlike_withAttr _ hstored
    · unfold writeState at hdone
      split at hdone
      · exact absurd hdone (refusal_ne_done _)
      · split at hdone
        · cases hdone
        · cases hdone
          exact looksAlike_withState _
      · cases hdone
        exact looksAlike_withState _
      · cases hdone

/-- An adapter that reads a header looks at the host at most. -/
theorem looksAlike_looked (a : Adapter) (h : Host) : LooksAlike h (a.looked h) := by
  unfold Adapter.looked
  split
  · exact looksAlike_seen h _
  · exact .refl h

end Host

open Host

/-! ## On a host of an application -/

variable {w w' : World} {id : Nat}

theorem of_perform_host {h : Host} (hh : ((host id).perform w).1 = .ok h) : w.hosts.get? id = some h := by
  cases hw : w.hosts.get? id with
  | none =>
    obtain ⟨f, hf⟩ := perform_host_none hw
    rw [hf] at hh
    cases hh
  | some h' =>
    rw [perform_host hw] at hh
    rw [Except.ok.inj hh]

/-- An adapter reads headers in the way that the host offered when it was made. -/
theorem detectReader_of_adapter {a : Adapter} (ha : ((adapter id).perform w).1 = .ok a) :
    Adapter.detectReader (w.hostOf id) = .ok a.reader := by
  have hmake {h : Host} (hh : LooksAlike (w.hostOf id) h) (hmade : Adapter.make id h = .ok a) :
      Adapter.detectReader (w.hostOf id) = .ok a.reader := by
    rw [← hh.detectReader]
    unfold Adapter.make at hmade
    cases hr : Adapter.detectReader h <;> rw [hr] at hmade <;> cases hmade
    rfl
  unfold adapter at ha
  obtain ⟨h, hh, ha, -⟩ := of_perform_bind_ok ha
  have hw := of_perform_host hh
  have hof : w.hostOf id = h := by rw [World.hostOf, hw]; rfl
  rw [perform_host hw] at ha
  dsimp only at ha
  split at ha
  · obtain ⟨seen, hseen, ha, -⟩ := of_perform_bind_ok ha
    rw [perform_look hw] at hseen
    cases hseen
    rw [perform_ofExcept] at ha
    exact hmake (hof ▸ looksAlike_seen h "headers") ha
  · obtain ⟨h', hh', ha, -⟩ := of_perform_bind_ok ha
    rw [perform_host hw] at hh'
    cases hh'
    rw [perform_ofExcept] at ha
    exact hmake (hof ▸ .refl h) ha

/-- **What an adapter reads as a header** of a host that has only been touched since: what the host gave for it. -/
theorem of_perform_readHeader {a : Adapter} {v : Value}
    (ha : Adapter.detectReader (w.hostOf a.target) = .ok a.reader)
    (hh : LooksAlike (w.hostOf a.target) (w'.hostOf a.target)) (name : String)
    (hread : ((readHeader a name).perform w').1 = .ok v) : (w.hostOf a.target).header name = .ok v := by
  unfold readHeader at hread
  obtain ⟨h, hhost, hread, -⟩ := of_perform_bind_ok hread
  have hw := of_perform_host hhost
  have hof : w'.hostOf a.target = h := by rw [World.hostOf, hw]; rfl
  rw [hof] at hh
  rw [perform_host hw] at hread
  obtain ⟨_, -, hread, -⟩ := of_perform_bind_ok hread
  rw [perform_ofExcept] at hread
  exact ((hh.trans (looksAlike_looked a h)).readHeader ha name).symm.trans hread

end ActivityLog
