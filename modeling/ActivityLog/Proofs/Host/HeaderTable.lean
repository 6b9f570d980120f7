import ActivityLog.Proofs.Host.Headers

/-!
# Header tables

A host may offer its headers as a table (`Host.OffersTable`): entries in some order, under names that are texts or
anything else. A header is looked for under its exact name first, then in any case. As long as no two names of the
table are the same in small letters (`Headers.smallNames`), the scan finds the only entry whose name matches
(`anyCase?_of_mem`), and an exact match is the same entry (`anyCase?_of_named?`); so the exact look-up makes no
difference (`look_eq_anyCase?`), and the case of a name makes none either. `perform_readHeader_anyCase` says this of
the adapters of such hosts.
-/

namespace ActivityLog

open Act

namespace Headers

/-- The entries of a table of headers. -/
def tableOf? : Value → Option (List (Value × Value))
  | .dict entries => some (entries.map fun e => (.text e.1, e.2))
  | .headers .table entries => some entries
  | .headers .mapping entries => some entries
  | _ => none

/-- The names of a table in small letters; those that are no texts are left out. -/
def smallNames (entries : List (Value × Value)) : List String := entries.filterMap fun e => e.1.text?.map Text.lower

variable {entries : List (Value × Value)} {name s : String} {u v : Value}

theorem readerOf_of_tableOf? (h : tableOf? v = some entries) : readerOf v = .table entries := by
  unfold tableOf? at h
  split at h <;> cases h <;> rfl

/-- Nothing is no table. -/
theorem ne_null_of_tableOf? (h : tableOf? v = some entries) : v ≠ .null := by
  rintro rfl
  cases h

/-! ## The scan -/

theorem mem_smallNames_of_mem (h : (.text s, v) ∈ entries) : Text.lower s ∈ smallNames entries :=
  List.mem_filterMap.2 ⟨_, h, rfl⟩

/-- The scan tries the first entry first. -/
theorem anyCase?_cons (e : Value × Value) (entries : List (Value × Value)) (name : String) :
    anyCase? (e :: entries) name =
      if e.1.text?.map Text.lower = some (Text.lower name) then some e.2 else anyCase? entries name := by
  obtain ⟨k, v⟩ := e
  unfold anyCase?
  rw [List.findSome?_cons]
  cases k with
  | text s => by_cases h : Text.lower s = Text.lower name <;> simp [Value.text?, h]
  | _ => rfl

/-- The scan finds an entry whose name matches in any case, if it is the only one. -/
theorem anyCase?_of_mem (hnames : (smallNames entries).Nodup) (hmem : (.text s, v) ∈ entries)
    (hname : Text.lower s = Text.lower name) : anyCase? entries name = some v := by
  induction entries with
  | nil => cases hmem
  | cons e rest ih =>
    rw [anyCase?_cons]
    rcases List.mem_cons.1 hmem with rfl | hrest
    · exact if_pos (congrArg some hname)
    · -- An earlier entry does not match: its name would stand twice.
      cases htext : e.1.text? with
      | none =>
        rw [smallNames, List.filterMap_cons_none (by rw [htext]; rfl)] at hnames
        rw [if_neg (by simp)]
        exact ih hnames hrest
      | some t =>
        rw [smallNames, List.filterMap_cons_some (by rw [htext]; rfl), List.nodup_cons] at hnames
        have hother : Text.lower t ≠ Text.lower name := by
          intro heq
          apply hnames.1
          rw [heq, ← hname]
          exact mem_smallNames_of_mem hrest
        rw [Option.map_some, if_neg (by simpa using hother)]
        exact ih hnames.2 hrest

/-- The scan finds nothing where no name matches. -/
theorem anyCase?_eq_none (h : ∀ s v, (.text s, v) ∈ entries → Text.lower s ≠ Text.lower name) :
    anyCase? entries name = none := by
  unfold anyCase?
  rw [List.findSome?_eq_none_iff]
  rintro ⟨k, v⟩ hmem
  cases k with
  | text s => exact if_neg (h s v hmem)
  | _ => rfl

/-- What the exact look-up finds stands under the name. -/
theorem exists_of_named? (h : named? entries name = some v) : (.text name, v) ∈ entries := by
  obtain ⟨⟨k, u⟩, hmem, hfound⟩ := List.exists_of_findSome?_eq_some h
  cases k with
  | text s =>
    dsimp only at hfound
    split at hfound
    · next hs => exact hs ▸ Option.some.inj hfound ▸ hmem
    · cases hfound
  | _ => cases hfound

/-- An exact match is what the scan finds. -/
theorem anyCase?_of_named? (hnames : (smallNames entries).Nodup) (h : named? entries name = some v) :
    anyCase? entries name = some v :=
  anyCase?_of_mem hnames (exists_of_named? h) rfl

/-- **The exact look-up makes no difference.** -/
theorem look_eq_anyCase? (hnames : (smallNames entries).Nodup) (name : String) :
    look entries name = (anyCase? entries name).getD .null := by
  unfold look
  cases h : named? entries name with
  | none => rfl
  | some v => rw [anyCase?_of_named? hnames h]; rfl

/-- Names that are the same in small letters have the same header. -/
theorem anyCase?_congr {other : String} (h : Text.lower other = Text.lower name) :
    anyCase? entries other = anyCase? entries name := by
  unfold anyCase?
  rw [h]

end Headers

namespace Host

/-- A host whose headers are a table, in its attribute or, if it is a mapping without such an attribute, in its item,
and that has no other way to read them. -/
structure OffersTable (h : Host) (entries : List (Value × Value)) : Prop where
  noStandIn : h.isStandIn = false
  noAccessor : ∀ name ∈ ["header", "get_header"], Adapter.accessorReader (h.find? name) = none
  headers : ∃ v, Headers.tableOf? v = some entries ∧
    (h.content "headers" = .ok v ∨ h.content "headers" = .ok .null ∧ h.isMapping = true ∧ h.ask "headers" = .ok v)

variable {h : Host} {entries : List (Value × Value)}

theorem OffersTable.detectReader (ho : h.OffersTable entries) : Adapter.detectReader h = .ok (.table entries) := by
  rw [detectReader_eq, ho.noStandIn, ho.noAccessor _ (by decide), ho.noAccessor _ (by decide)]
  obtain ⟨v, hv, hplace⟩ := ho.headers
  show Adapter.headersReader h = _
  unfold Adapter.headersReader
  rcases hplace with hattr | ⟨hattr, hmap, hitem⟩
  · have hnull := Headers.ne_null_of_tableOf? hv
    rw [hattr, ← Headers.readerOf_of_tableOf? hv]
    cases v <;> first
      | rfl
      | contradiction
  · rw [hattr, if_pos hmap, hitem, ← Headers.readerOf_of_tableOf? hv]
    rfl

theorem OffersTable.looksAtHeaders (ho : h.OffersTable entries) : Adapter.looksAtHeaders h = true := by
  have hstand := ho.noStandIn
  unfold Adapter.looksAtHeaders
  rw [ho.noAccessor _ (by decide), ho.noAccessor _ (by decide)]
  unfold isStandIn at hstand
  split
  · next hn _ => rw [hn] at hstand; cases hstand
  · rfl

/-- A look at the headers themselves changes nothing. -/
theorem OffersTable.seen (ho : h.OffersTable entries) : h.seen "headers" = h := by
  have hstand := ho.noStandIn
  unfold isStandIn at hstand
  unfold Host.seen
  split
  · split <;> rfl
  · next hn => rw [hn] at hstand; cases hstand
  · rfl

/-- The adapter of such a host reads from the table. -/
theorem OffersTable.perform_adapter {w : World} {id : Nat} (ho : h.OffersTable entries)
    (hhost : w.hosts.get? id = some h) :
    (adapter id).perform w = (.ok ⟨id, .table entries, Adapter.detectRegistrar h⟩, w) := by
  unfold adapter
  rw [perform_bind_ok (perform_host hhost), if_pos ho.looksAtHeaders, perform_bind_ok (perform_look hhost "headers"),
    ho.seen, Table.set_self hhost, perform_ofExcept, Adapter.make, ho.detectReader]
  rfl

end Host

/-- Reading from a table does nothing else. -/
theorem perform_readHeader_table {w : World} {id : Nat} {h : Host} (entries : List (Value × Value))
    (registrar : Option Registrar) (hhost : w.hosts.get? id = some h) (name : String) :
    (readHeader ⟨id, .table entries, registrar⟩ name).perform w = (.ok (Headers.look entries name), w) := by
  have hset : (setHost id h).perform w = (.ok (), w) := by
    show (Except.ok (), { w with hosts := w.hosts.set id h }) = _
    rw [Table.set_self hhost]
  unfold readHeader
  rw [perform_bind_ok (perform_host hhost)]
  exact perform_bind_ok hset _

/-- **The case of a header's name does not matter.** A host offers a table of headers in which no two names are the same
in small letters. Then an adapter is made of it, and from then on reads every name, without doing anything else, as

- the value of the entry whose name is the same in small letters, and as absent if there is none;
- what a scan in any case gives alone;
- what it reads every name as that is the same in small letters. -/
theorem perform_readHeader_anyCase {w : World} {id : Nat} {h : Host} {entries : List (Value × Value)}
    (hhost : w.hosts.get? id = some h) (ho : h.OffersTable entries) (hnames : (Headers.smallNames entries).Nodup) :
    ∃ a, (adapter id).perform w = (.ok a, w) ∧ ∀ (w' : World) (h' : Host), w'.hosts.get? id = some h' → ∀ name,
      ∃ v, (readHeader a name).perform w' = (.ok v, w') ∧
        (∀ s u, (.text s, u) ∈ entries → Text.lower s = Text.lower name → v = u) ∧
        ((∀ s u, (.text s, u) ∈ entries → Text.lower s ≠ Text.lower name) → v = .null) ∧
        v = (Headers.anyCase? entries name).getD .null ∧
        ∀ other, Text.lower other = Text.lower name → (readHeader a other).perform w' = (.ok v, w') := by
  refine ⟨_, ho.perform_adapter hhost, fun w' h' hhost' name => ?_⟩
  have hread (name : String) := perform_readHeader_table entries (Adapter.detectRegistrar h) hhost' name
  refine ⟨_, hread name, fun s u hmem hs => ?_, fun hnone => ?_, Headers.look_eq_anyCase? hnames name,
    fun other hother => ?_⟩
  · rw [Headers.look_eq_anyCase? hnames, Headers.anyCase?_of_mem hnames hmem hs]
    rfl
  · rw [Headers.look_eq_anyCase? hnames, Headers.anyCase?_eq_none hnone]
    rfl
  · rw [hread other, Headers.look_eq_anyCase? hnames, Headers.look_eq_anyCase? hnames, Headers.anyCase?_congr hother]

/-- A host whose headers are a table that has names which are no texts, too. -/
def namedByNumbers : Host :=
  { attributes := ⟨[("headers", .value (.headers .mapping [(.int 1, .text "one"), (.text "Accept", .text "*/*"),
      (.null, .text "none"), (.text "X-Id", .text "a")]))]⟩ }

/-- A header read under other spellings of its name. -/
theorem perform_readHeader_anyCase_numbered :
    let w : World := { hosts := ⟨[namedByNumbers]⟩ }
    let entries : List (Value × Value) :=
      [(.int 1, .text "one"), (.text "Accept", .text "*/*"), (.null, .text "none"), (.text "X-Id", .text "a")]
    w.hosts.get? 0 = some namedByNumbers ∧ namedByNumbers.OffersTable entries ∧ (Headers.smallNames entries).Nodup ∧
      ∃ a, (adapter 0).perform w = (.ok a, w) ∧ (readHeader a "x-iD").perform w = (.ok (.text "a"), w) ∧
        (readHeader a "X-Id").perform w = (.ok (.text "a"), w) ∧ (readHeader a "1").perform w = (.ok .null, w) := by
  intro w entries
  have hoffers : namedByNumbers.OffersTable entries := ⟨rfl, by decide +kernel, _, rfl, .inl rfl⟩
  have hnames : (Headers.smallNames entries).Nodup := by decide +kernel
  have hhost : w.hosts.get? 0 = some namedByNumbers := rfl
  have hsame : Text.lower "X-Id" = Text.lower "x-iD" := by decide +kernel
  obtain ⟨a, ha, hreads⟩ := perform_readHeader_anyCase hhost hoffers hnames
  obtain ⟨v, hread, hvalue, -, -, hother⟩ := hreads w _ hhost "x-iD"
  obtain rfl : v = .text "a" := hvalue "X-Id" _ (by simp [entries]) hsame
  obtain ⟨u, hmissing, -, hnone, -, -⟩ := hreads w _ hhost "1"
  have hnumber : Text.lower "1" ∉ Headers.smallNames entries := by decide +kernel
  obtain rfl : u = .null := hnone fun s u hmem heq => hnumber (heq ▸ Headers.mem_smallNames_of_mem hmem)
  exact ⟨hhost, hoffers, hnames, a, ha, hread, hother "X-Id" hsame, hmissing⟩

end ActivityLog
