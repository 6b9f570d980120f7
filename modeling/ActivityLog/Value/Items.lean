import ActivityLog.Failure

/-!
# Items of values

Looking items up in a value, writing them, and walking through a value: rows take whole numbers, counted from the end
if negative, tables take what can be looked up by. Main statements: what was written is found again
(`item_withItem_dict`), and a walk through a row gives its items (`elements_list`).
-/

namespace ActivityLog

namespace Failure

/-- The fault of a value that cannot be walked through. -/
def notIterable (v : Value) : Failure := .fault .type ("'" ++ v.qualifiedTypeName ++ "' object is not iterable")

/-- The fault of a value that takes no items. -/
def noItemAssignment (v : Value) : Failure :=
  .fault .type ("'" ++ v.qualifiedTypeName ++ "' object does not support item assignment")

/-- The fault of something that is not in a table. -/
def missingKey (key : Value) : Failure := .fault .key key.shown

end Failure

namespace Value

/-- A value as a place in a row: a whole number or a truth value. -/
def place? : Value → Option Int
  | .bool b => some (if b then 1 else 0)
  | .int n => some n
  | _ => none

/-- The item of a row that a number stands for, with its place. -/
def inRow? {α : Type} (row : List α) (n : Int) : Option (Nat × α) :=
  let i := if n < 0 then n + row.length else n
  if i < 0 then none else row[i.toNat]?.map fun a => (i.toNat, a)

/-- The fault of a number that is too large for any row. -/
def tooLarge : Failure := .fault (.other "IndexError") "cannot fit 'int' into an index-sized integer"

/-- The place of a key in a row with its item; `what` names the row in the faults. -/
def rowItem {α : Type} (row : List α) (what outside : String) (key : Value) : Except Failure (Nat × α) :=
  match key.place? with
  | none => .error (.fault .type what)
  | some n =>
    if n < -bound64 || bound64 ≤ n then .error tooLarge
    else match inRow? row n with
      | some found => .ok found
      | none => .error (.fault (.other "IndexError") outside)

/-- The value under a key of a table. -/
def tableItem (entries : List (String × Value)) (key : Value) : Except Failure Value :=
  match key with
  | .text name =>
    match entries.lookup name with
    | some v => .ok v
    | none => .error (.missingKey key)
  | key => .error (if key.isHashable then .missingKey key else .unhashable key)

/-- The wording of a key that is no place in a row of a kind. -/
def noPlace (row : String) (key : Value) : String :=
  row ++ " indices must be integers or slices, not " ++ key.qualifiedTypeName

/-- The texts of the code points of a text. -/
def letters (s : String) : List Value := (Text.pointsOf s).map fun p => .text (Text.single p)

/-- The item of a value under a key. -/
def item (v key : Value) : Except Failure Value :=
  match v with
  | .dict entries => tableItem entries key
  | .list items => (rowItem items (noPlace "list" key) "list index out of range" key).map Prod.snd
  | .tuple _ fields =>
    (rowItem fields (noPlace "tuple" key) "tuple index out of range" key).map fun found => found.2.2
  | .text s =>
    let what := "string indices must be integers, not '" ++ key.qualifiedTypeName ++ "'"
    (rowItem (letters s) what "string index out of range" key).map Prod.snd
  | .bytes b => (rowItem b (noPlace "byte" key) "index out of range" key).map fun found => .int found.2.toNat
  | v => .error (.fault .type ("'" ++ v.qualifiedTypeName ++ "' object is not subscriptable"))

/-- The value with an item under a key. -/
def withItem (v key new : Value) : Except Failure Value :=
  match v with
  | .dict entries =>
    if key.isHashable then .ok (.dict ((OrderedMap.mk entries).insert key.display new).entries)
    else .error (.unhashable key)
  | .list items =>
    (rowItem items (noPlace "list" key) "list assignment index out of range" key).map fun found =>
      .list (items.set found.1 new)
  | v => .error (.noItemAssignment v)

/-- The value without the item under a key, which is there. -/
def withoutItem (v key : Value) : Except Failure Value :=
  match v with
  | .dict entries => .ok (.dict ((OrderedMap.mk entries).erase key.display).entries)
  | .list items =>
    (rowItem items (noPlace "list" key) "list assignment index out of range" key).map fun found =>
      .list (items.eraseIdx found.1)
  | v => .error (.fault .type ("'" ++ v.qualifiedTypeName ++ "' object doesn't support item deletion"))

/-- What a walk through a value gives. -/
def elements : Value → Except Failure (List Value)
  | .text s => .ok (letters s)
  | .bytes b => .ok (b.map fun n => .int n.toNat)
  | .list items => .ok items
  | .tuple _ fields => .ok (fields.map Prod.snd)
  | .dict entries => .ok (entries.map fun e => .text e.1)
  | v => .error (.notIterable v)

/-- A row of two, as a table is made of. -/
def pairAt (place : Nat) (v : Value) : Except Failure (Value × Value) :=
  let number := "#" ++ toString place
  match v with
  | .int _ | .null | .bool _ | .float _ | .object _ _ | .function _ =>
    .error (.fault .type ("cannot convert dictionary update sequence element " ++ number ++ " to a sequence"))
  | v => do
    match ← v.elements with
    | [a, b] => return (a, b)
    | others => throw (.fault .value ("dictionary update sequence element " ++ number ++ " has length " ++
        toString others.length ++ "; 2 is required"))

/-- A new table of what is in a value: its entries, or the pairs that it gives. -/
def asTable (v : Value) : Except Failure (OrderedMap Value) :=
  match v with
  | .dict entries => .ok ⟨entries⟩
  | v => do
    let pairs ← (← v.elements).zipIdx.mapM fun (e, i) => do
      let (key, value) ← pairAt i e
      if key.isHashable then return (key.display, value) else throw (.unhashable key)
    return .ofList pairs

/-- The value with an attribute; nothing if it takes none. Functions take attributes that nobody sees. -/
def withAttribute? (v : Value) (name : String) (new : Value) : Option Value :=
  match v with
  | .object .plain attributes => some (.object .plain ((OrderedMap.mk attributes).insert name new).entries)
  | .function f => some (.function f)
  | _ => none

theorem elements_list (items : List Value) : (Value.list items).elements = .ok items := rfl

theorem item_withItem_dict (entries : List (String × Value)) (name : String) (new : Value) :
    ((Value.dict entries).withItem (.text name) new).bind (·.item (.text name)) = .ok new := by
  have h := OrderedMap.get?_insert (OrderedMap.mk entries) name name new
  simp only [OrderedMap.get?] at h
  simp [withItem, isHashable, item, tableItem, display, Except.bind, h]

end Value

end ActivityLog
