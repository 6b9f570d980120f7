import ActivityLog.Proofs.Host.Storage

/-!
# Refused writes

A host may refuse what is stored on it. The refusal of an attribute is put up with if it is of the two kinds that
objects without attributes have; all others, and those of items, are failures of the write. `Host.writeFault?` reads off
the host what a write fails with: `fault?_writeField` says so of the host, `perform_writeField_outcome` of a host of an
application. Neither depends on what is stored, nor under which name.
-/

namespace ActivityLog

namespace Host

variable {h h' : Host} {name : String} {v : Value}

/-- What a write fails with. -/
def Write.fault? : Write → Option Failure
  | .failed f => some f
  | .done _ | .refused => none

/-- What the refusal of an attribute fails with, if it is not put up with. -/
def refusalFault? : FaultKind → Option Failure
  | .attribute | .type => none
  | kind => some (readOnly kind)

/-- What writing an attribute of the host itself fails with. -/
def attrFault? (h : Host) : Option Failure :=
  match h.nature with
  | .sealed kind => refusalFault? kind
  | _ => none

/-- What writing an attribute of a state fails with. -/
def stateFault? : Value → Option Failure
  | .object (.refusing _ fault) _ => refusalFault? (.ofName fault)
  | _ => none

/-- What storing something on the host fails with: the refusal of an item where items can be written; else a state that
cannot be read, or the refusal of the state, or without a state that of the host itself. -/
def writeFault? (h : Host) : Option Failure :=
  if h.isMutableMapping then h.itemFault
  else match h.content "state" with
    | .error f => some f
    | .ok .null => h.attrFault?
    | .ok state => stateFault? state

/-! ## One place after the other -/

theorem fault?_refusal (kind : FaultKind) : (refusal kind).fault? = refusalFault? kind := by cases kind <;> rfl

theorem fault?_writeItem : (h.writeItem name v).fault? = h.itemFault := by
  unfold writeItem changeItems
  cases h.itemFault <;> rfl

theorem fault?_writeOpen (isBag : Bool) : (h.writeOpen isBag name v).fault? = none := by
  unfold writeOpen
  repeat' split
  all_goals rfl

theorem fault?_writeAttr : (h.writeAttr name v).fault? = h.attrFault? := by
  unfold writeAttr attrFault?
  cases h.nature with
  | sealed kind => exact fault?_refusal kind
  | value v => rfl
  | bare => rfl
  | bag => exact fault?_writeOpen true
  | _ => exact fault?_writeOpen false

theorem fault?_writeState (state : Value) : (h.writeState state name v).fault? = stateFault? state := by
  cases state with
  | object kind values =>
    cases kind with
    | refusing type fault => exact fault?_refusal _
    | plain =>
      unfold writeState
      dsimp only
      split <;> rfl
    | typed type shown text isEmpty => rfl
  | _ => rfl

/-- **A write fails with just what the host says.** -/
theorem fault?_writeField : (h.writeField name v).fault? = h.writeFault? := by
  unfold writeField writeFault?
  split
  · exact fault?_writeItem
  cases hs : h.content "state" with
  | error f => rfl
  | ok state =>
    cases state with
    | null => exact fault?_writeAttr
    | _ => exact fault?_writeState _

/-! ## Looking at the host first -/

/-- What a write fails with depends on what the host is, on its items' refusal and on its state. -/
theorem writeFault?_congr (hn : h'.nature = h.nature) (hi : h'.itemFault = h.itemFault)
    (hs : h'.content "state" = h.content "state") : h'.writeFault? = h.writeFault? := by
  unfold writeFault? isMutableMapping attrFault?
  rw [hn, hi, hs]

theorem writeFault?_withAttr (a : Attribute) (hname : "state" ≠ name) :
    (h.withAttr name a).writeFault? = h.writeFault? :=
  writeFault?_congr rfl rfl (content_withAttr_of_ne a hname (by decide))

theorem writeFault?_withItem : (h.withItem name v).writeFault? = h.writeFault? :=
  writeFault?_congr rfl rfl content_state_withItem

/-- A response keeps its headers, which is of no matter for a state that the stand-in has from it. -/
theorem writeFault?_of_response {r : Response} {listeners : List Listener} (hn : h.nature = .handle ⟨some (.response r),
    listeners⟩) : writeFault? { h with nature := .handle ⟨some (.response { r with looked := true }), listeners⟩ } =
      h.writeFault? := by
  have hnatural : natural? { h with nature := .handle ⟨some (.response { r with looked := true }), listeners⟩ } "state" =
      h.natural? "state" := by
    rw [natural?_state_of_handle rfl, natural?_state_of_handle hn]
    rfl
  unfold writeFault? isMutableMapping attrFault? content find?
  rw [hn, hnatural]

/-- **A look at a host does not change what a write fails with.** -/
theorem writeFault?_seen (h : Host) (name : String) : (h.seen name).writeFault? = h.writeFault? := by
  have hname : "state" ≠ "_" ++ name := by
    intro heq
    have hheads := congrArg String.toList heq
    simp at hheads
  unfold seen
  split
  · next keeps hn =>
    split
    · rfl
    · next v _ =>
      have hkept : (if kept.contains name then h.withValue ("_" ++ name) v else h).writeFault? = h.writeFault? := by
        split
        · have hvalue : h.withValue ("_" ++ name) v = h.withAttr ("_" ++ name) (.value v) := by
            unfold withValue
            rw [hn]
          rw [hvalue, writeFault?_withAttr _ hname]
        · rfl
      dsimp only
      generalize (if kept.contains name then h.withValue ("_" ++ name) v else h) = h₁ at hkept ⊢
      split
      · rw [writeFault?_withItem, hkept]
      · exact hkept
  · next r listeners hn =>
    split
    · exact writeFault?_of_response hn
    · rfl
  · rfl

end Host

/-- **What storing something on a host amounts to**: a failure if the host has one for it, else success. -/
theorem Act.perform_writeField_outcome {w : World} {id : Nat} {h : Host} (hh : w.hosts.get? id = some h) (name : String)
    (v : Value) : ((Act.writeField id name v).perform w).1 = h.writeFault?.elim (.ok ()) .error := by
  have hfault : ((h.seen "state").writeField name v).fault? = h.writeFault? :=
    Host.fault?_writeField.trans (h.writeFault?_seen "state")
  unfold Act.writeField
  rw [perform_bind_ok (perform_look hh "state"), ← hfault]
  cases (h.seen "state").writeField name v <;> rfl

end ActivityLog
