import ActivityLog.Failure.Encoding
import ActivityLog.Text.LowerCase
import ActivityLog.Value.Attribute
import ActivityLog.Value.Items

/-!
# Hosts

A host is the object of a web framework that stands for a request or a response. Hosts differ in what they are (plain
objects, dictionaries, other mappings, web requests, sealed objects, stand-ins for a response still to come) and in what
they carry: attributes, items, accessors for headers, ways to register for completion. Some of it may change while
values refer to it: a state object, and the description of a web request's call.
-/

namespace ActivityLog

/-- What is told of a completion: a request's lifecycle, an observer that only takes note, or something that cannot be
told. -/
inductive Listener where
  | lifecycle (id : Nat)
  | observer (tag : String)
  | other (v : Value)

/-- Work that runs after a response has been sent. -/
inductive Background where
  /-- A task of the application's own. -/
  | task (text : String)
  /-- First tells the listeners of the stand-in, then runs what was there before. -/
  | completion (inner : Option Background)
  /-- Work that fails. -/
  | failing (f : Failure)

/-- A response. Header names are in small letters. -/
structure Response where
  status : Int
  headers : List (String × String)
  /-- The bytes of the body, unless they are still to come. -/
  body : Option (List UInt8) := some []
  background : Option Background := none
  /-- Whether its headers have been looked at, which it keeps as a collection from then on. -/
  looked : Bool := false

/-- What a stand-in passes reads on to. -/
inductive Bound where
  | response (r : Response)
  /-- Something else, put there by hand. -/
  | value (v : Value)

/-- A stand-in for a response: the response once there is one, and who waits for its completion. -/
structure Handle where
  response : Option Bound := none
  listeners : List Listener := []

/-- What a host is. -/
inductive Nature where
  /-- An object whose attributes can be written. -/
  | object
  /-- A bag of attributes, open to writes. -/
  | bag
  /-- An object without attributes that takes none. -/
  | bare
  /-- A dictionary. -/
  | dict
  /-- A mapping that is no dictionary and whose items cannot be written. -/
  | mapping
  /-- A mapping that is no dictionary and whose items can be written. -/
  | mutableMapping
  /-- A web framework's request: a mapping over the server's description of the call, with a state. It may be a
  middleware's own, which keeps the body. -/
  | webRequest (keeps : Bool)
  /-- An object that refuses writes with a kind of fault. -/
  | sealed (kind : FaultKind)
  /-- A plain value; it has no attributes of its own and takes none. -/
  | value (v : Value)
  /-- A stand-in for a response. -/
  | handle (h : Handle)

/-- What an attribute of a host holds. -/
inductive Attribute where
  | value (v : Value)
  /-- A function that looks names up exactly. -/
  | lookup (items : List (String × Value))
  /-- A function that fails. -/
  | failing (f : Failure)
  /-- A function that registers for completion, by the event's name or without one. -/
  | subscribe (byEvent : Bool)
  /-- An attribute that cannot be read. -/
  | broken (f : Failure)

/-- An attribute that holds a value, or cannot be read. -/
def Attribute.ofExcept : Except Failure Value → Attribute
  | .ok v => .value v
  | .error f => .broken f

/-- A host. -/
structure Host where
  /-- The number by which values refer to the host. -/
  number : Nat := 0
  nature : Nature := .object
  attributes : OrderedMap Attribute := {}
  items : OrderedMap Value := {}
  /-- Who has registered, and for which event if by name. -/
  listeners : List (Option String × Listener) := []
  /-- What a mapping fails with when one of its items is written or taken out, if it refuses that. -/
  itemFault : Option Failure := none

/-- Whole numbers of which there is only one. -/
def isSingleInt (n : Int) : Bool := decide (-5 ≤ n) && decide (n ≤ 256)

/-- Texts of which there is only one: the empty one, and the characters of Latin-1. -/
def isSingleText (s : String) : Bool :=
  match s.toList with
  | [] => true
  | [c] => Nat.blt c.toNat 256
  | _ => false

/-- Whether two values that came about apart from each other are one and the same, as small values are. -/
def Value.isIdentical : Value → Value → Bool
  | .null, .null => true
  | .bool a, .bool b => a == b
  | .int m, .int n => isSingleInt m && m == n
  | .text s, .text t => isSingleText s && s == t
  | .bytes a, .bytes b => Nat.ble a.length 1 && a == b
  | _, _ => false

/-- Values that are one and the same are equal. -/
theorem Value.eq_of_isIdentical {a b : Value} (h : a.isIdentical b) : a = b := by
  unfold Value.isIdentical at h
  split at h <;> simp_all

/-- The methods of a type of some module, as values. -/
def methodsOf (module : String) (types : List (String × List String)) : List (String × Value) :=
  types.flatMap fun (type, names) => names.map fun name =>
    let qualified := type ++ "." ++ name
    (name, .function (.named ⟨module, qualified⟩ (.foreign (Attribute.unsuited qualified))))

namespace Response

/-- The first value of a header, whatever the case of its name. -/
def header? (r : Response) (lowerName : String) : Option String := r.headers.lookup lowerName

/-- The headers as a collection. -/
def headerValue (r : Response) : Value :=
  .headers (.collection true) (r.headers.map fun (k, v) => (.text k, .text v))

/-- The headers as the bytes that are sent. -/
def rawHeaders (r : Response) : Value :=
  let sent (s : String) : Value := .bytes ((Latin1.encode s).toOption.getD s.toUTF8.toList)
  .list (r.headers.map fun (k, v) => .ofList [sent k, sent v])

/-- The name of the type of responses whose body is still to come. -/
def streamingType : String := "_StreamingResponse"

/-- The response itself as an object. -/
def toValue (r : Response) : Value := .ofType (if r.body.isSome then "Response" else streamingType) []

/-- A response with an empty body, its headers given as texts, which Latin-1 has to be able to write. -/
def received (status : Int) (headers : List (String × String)) : Except Failure Response := do
  let headers ← headers.mapM fun (k, v) => do
    let k := Text.lower k
    let _ ← Latin1.bytes k
    let _ ← Latin1.bytes v
    return (k, v)
  return { status, headers }

/-- The methods of a response. One whose body is still to come is sent in a way of its own. -/
def methods (streaming : Bool) : List (String × Value) :=
  methodsOf "starlette.responses" [("Response", ["render", "init_headers", "set_cookie", "delete_cookie",
    "_wrap_websocket_denial_send"])] ++
    (if streaming then methodsOf "starlette.middleware.base" [(streamingType, ["__call__"])]
      else methodsOf "starlette.responses" [("Response", ["__call__"])])

/-- An attribute of a response. -/
def attr? (r : Response) (name : String) : Option Value :=
  if name = "status_code" then some (.int r.status)
  else if name = "headers" then some r.headerValue
  else if name = "_headers" then if r.looked then some r.headerValue else none
  else if name = "raw_headers" then some r.rawHeaders
  else if name = "media_type" then some .null
  else if name = "charset" then some (.text "utf-8")
  else if name = "body" then r.body.map .bytes
  else if name = "body_iterator" then if r.body.isSome then none else some (.ofType "async_generator" [])
  else if name = "background" then
    some (if r.background.isSome then .ofType "BackgroundTask" [] else .null)
  else (methods r.body.isNone).lookup name

/-- The bare response to a request whose handler failed. -/
def serverError : Response := { status := 500, headers := [("content-length", "0")] }

end Response

namespace Bound

/-- What a stand-in passes reads on to, as a value. -/
def toValue : Bound → Value
  | .response r => r.toValue
  | .value v => v

/-- An attribute of what a stand-in passes reads on to. -/
def attr? : Bound → String → Option Value
  | .response r, name => r.attr? name
  | .value v, name => v.attribute? name

/-- The headers of what a stand-in passes reads on to. -/
def headers : Bound → Except Failure Value
  | .response r => .ok r.headerValue
  | .value v =>
    match v.attribute? "headers" with
    | some h => .ok h
    | none => .error (.noAttribute v "headers")

end Bound

/-- A listener as a value. -/
def Listener.toValue : Listener → Value
  | .lifecycle _ =>
    .function (.named ⟨"netlog.core.pipeline", "RequestLifecycle.complete"⟩
      (.foreign (Attribute.unsuited "RequestLifecycle.complete")))
  | .observer _ => .ofType "function" []
  | .other v => v

namespace Handle

/-- Registers a listener. -/
def register (h : Handle) (l : Listener) : Handle := { h with listeners := h.listeners ++ [l] }

/-- Attaches a response. With listeners waiting, its background tells them before it does its own work. -/
def bind (h : Handle) (r : Response) : Handle :=
  { h with response := some (.response (if h.listeners.isEmpty then r
      else { r with background := some (.completion r.background) })) }

/-- Takes the listeners out: who is to be told, and the stand-in afterwards. -/
def release (h : Handle) : List Listener × Handle := (h.listeners, { h with listeners := [] })

/-- The work that follows the response. -/
def background? (h : Handle) : Option Background :=
  match h.response with
  | some (.response r) => r.background
  | _ => none

end Handle

namespace Host

/-- A value as a host. A dictionary is a host with items, an object one with attributes. -/
def ofValue (v : Value) : Host :=
  match v with
  | .dict entries => { nature := .dict, items := ⟨entries⟩ }
  | .object .plain attributes => { nature := .bag, attributes := (OrderedMap.mk attributes).map .value }
  | v => { nature := .value v }

/-- An object without attributes that refuses writes. -/
def bare : Host := { nature := .bare }

/-- Whether two hosts with numbers of their own are the same: only plain values can be. -/
def isSame (h other : Host) : Bool :=
  match h.nature, other.nature with
  | .value a, .value b => a.isIdentical b
  | _, _ => false

/-- A stand-in for a response. -/
def ofHandle (h : Handle) : Host := { nature := .handle h }

/-- The type of plain hosts. -/
def plainType : String := "HostObject"

/-- The type of hosts and states that refuse writes. -/
def sealedType : String := "FrozenHost"

/-- The types of mappings that are no dictionaries, without and with items that can be written. -/
def mappingType (isMutable : Bool) : String := if isMutable then "PlainMutableMapping" else "PlainMapping"

/-- The methods of mappings, and the further ones of those whose items can be written. -/
def mappingMethods : List (String × List String) :=
  [("Mapping", ["keys", "items", "values", "get"]),
    ("MutableMapping", ["pop", "popitem", "clear", "update", "setdefault"])]

/-- The type of stand-ins. -/
def standInType : Attribute.DefinedType where
  module := "netlog.api.middleware.logging"
  name := "ResponseHandle"
  documentation := some ("\n    Stand-in for the response while downstream handlers are still running.\n\n    Field " ++
    "reads are delegated to the real response once it is bound;\n    before that every field and header reads as " ++
    "absent. Completion\n    listeners run after the response body has been sent.\n    ")

/-- The types of web requests: the framework's, and that of its middleware. -/
def requestType (keeps : Bool) : Attribute.DefinedType :=
  if keeps then {
    module := "starlette.middleware.base"
    name := "_CachedRequest"
    documentation := some ("\n    If the user calls Request.body() from their dispatch function\n    we cache the " ++
      "entire request body in memory and pass that to downstream middlewares,\n    but if they call Request.stream" ++
      "() then all we do is send an\n    empty body so that downstream things don't hang forever.\n    ") }
  else { module := "starlette.requests", name := "Request" }

/-- The type of a host, if it is known. -/
def typeOf? : Nature → Option Attribute.DefinedType
  | .webRequest keeps => some (requestType keeps)
  | .handle _ => some standInType
  | _ => none

/-- Further things that come with mappings and cannot be changed. -/
def mappingParts : List (String × Value) :=
  [("__slots__", .ofList []), ("__abstractmethods__", .ofType "frozenset" []), ("_abc_impl", .ofType "_abc_data" []),
    ("__class_getitem__",
      .function (.named ⟨"types", "GenericAlias"⟩ (.foreign (Attribute.unsuited "GenericAlias"))))] ++
    methodsOf "collections.abc" [("Mapping", ["__contains__"]), ("Collection", ["__subclasshook__"])]

/-- What mappings that are not the framework's have beside that: they are equal by their items. -/
def plainMappingParts : List (String × Value) :=
  mappingParts ++ methodsOf "collections.abc" [("Mapping", ["__eq__"])] ++
    [("__hash__", .null), ("__reversed__", .null)]

/-- What the type of web requests tells of what it is made from; a middleware's own has no parameters left. -/
def requestParts (keeps : Bool) : List (String × Value) :=
  [("__annotations__", .dict [("_form", .text "FormData | None")]), ("_is_protocol", .bool false),
    ("__parameters__", .ofList (if keeps then [] else [.ofType "TypeVar" []])),
    ("__orig_bases__", .ofList [.ofType "GenericAlias" []])] ++
    methodsOf "starlette.requests" [("Request", ["_get_form"])] ++
    methodsOf "typing" [("Generic", ["__init_subclass__"])]

/-- The methods that come with what a host is. -/
def methods : Nature → List (String × Value)
  | .mapping => methodsOf "collections.abc" (mappingMethods.take 1) ++ plainMappingParts
  | .webRequest keeps => methodsOf "collections.abc" (mappingMethods.take 1) ++ mappingParts ++ requestParts keeps
  | .mutableMapping => methodsOf "collections.abc" mappingMethods ++ plainMappingParts ++
      [("_MutableMapping__marker", .ofType "object" [])]
  | .handle _ => methodsOf standInType.module
      [(standInType.name, ["header", "on_completion", "bind", "fire_completion", "_after_response", "__init__",
        "__getattr__"])]
  | _ => []

/-- Whether the host is a mapping of any kind. -/
def isMapping (h : Host) : Bool :=
  match h.nature with
  | .dict | .mapping | .mutableMapping | .webRequest _ => true
  | _ => false

/-- Whether items can be written. -/
def isMutableMapping (h : Host) : Bool :=
  match h.nature with
  | .dict | .mutableMapping => true
  | _ => false

/-! ## Attributes -/

/-- An attribute of a stand-in, beside its methods. -/
def standInAttr? (stand : Handle) (name : String) : Option Value :=
  if name = "response" then some ((stand.response.map (·.toValue)).getD .null)
  else if name = "_listeners" then some (.list (stand.listeners.map (·.toValue)))
  else stand.response.bind (·.attr? name)

/-- A function as a value to be shown. -/
def functionValue : Value := .ofType "function" []

/-- The attributes that the host was given, as values. -/
def given (h : Host) : List (String × Value) :=
  h.attributes.entries.map fun (name, a) => (name, match a with
    | .value v => v
    | _ => functionValue)

/-- The table of all that a stand-in has of its own. -/
def standInTable (h : Host) (stand : Handle) : Value :=
  .dict ((OrderedMap.ofList (["response", "_listeners"].map fun name =>
    (name, (standInAttr? stand name).getD .null))).insertAll h.given).entries

/-- The table of all that a web request has of its own: what it was made from, and what was looked at. -/
def requestTable (h : Host) : Value :=
  let isOwn (name : String) : Bool := name.toList.head? == some '_' && name.toList[1]? != some '_'
  .dict (("scope", .shared (.scope h.number) false) :: h.given.filter fun e => isOwn e.1)

/-- What a host of a type has in common with all objects, apart from what its type defines in a way of its own. -/
def commonAttr? (type : String) (own : List String) (name : String) : Option Value :=
  if name = "__class__" || name = "__module__" || own.contains name then none
  else (Attribute.DefinedType.mk "" type none).common? name

/-- An attribute that a plain host has without being given it. -/
def plainAttr? (h : Host) (name : String) : Option Value :=
  if name = "__dict__" then some (.dict h.given) else commonAttr? plainType [] name

/-- An attribute that a host has because of what it is; a stand-in passes on to its response. -/
def natural? (h : Host) (name : String) : Option Value :=
  match (methods h.nature).lookup name with
  | some m => some m
  | none =>
    match (typeOf? h.nature).bind fun t => t.common? name with
    | some a => some a
    | none =>
      match h.nature with
      | .object => h.plainAttr? name
      | .bag => Attribute.ofBag? h.given name
      | .mapping => commonAttr? (mappingType false) ["__init__"] name
      | .mutableMapping => commonAttr? (mappingType true) ["__init__"] name
      | .sealed _ => commonAttr? sealedType ["__init__", "__setattr__"] name
      | .bare => Attribute.ofAnything? name
      | .handle stand => if name = "__dict__" then some (h.standInTable stand) else standInAttr? stand name
      | .value v => v.attribute? name
      | .webRequest _ =>
        if name = "scope" then some (.dict h.items.entries)
        else if name = "__dict__" then some h.requestTable
        else none
      | _ => none

/-- An attribute of the host: one that was given to it, or else one that comes with what it is. -/
def find? (h : Host) (name : String) : Option Attribute :=
  match h.attributes.get? name with
  | some a => some a
  | none => (h.natural? name).map .value

/-- What an attribute of the host holds by now; absent when there is none. -/
def content (h : Host) (name : String) : Except Failure Value :=
  match h.find? name with
  | none => .ok .null
  | some (.value v) => .ok v
  | some (.broken f) => .error f
  | some _ => .ok functionValue

/-- The type of the state objects that are made for web requests. -/
def stateType : Attribute.DefinedType where
  module := "starlette.datastructures"
  name := "State"
  documentation := some ("\n    An object that can be used to store arbitrary state.\n\n    Used for " ++
    "`request.state` and `app.state`.\n    ")

/-- Whether a value is a state object that can be written to. -/
def isOpenState : Value → Bool
  | .object .plain _ => true
  | .object (.typed typeName _ _ _) _ => typeName == stateType.name
  | _ => false

/-- The value of an attribute; absent when there is none. What may change is referred to. -/
def attr (h : Host) (name : String) : Except Failure Value :=
  (h.content name).map fun v =>
    if name = "state" && isOpenState v then .shared (.state h.number) false
    else match h.nature with
      | .webRequest _ => if name = "scope" then .shared (.scope h.number) false else v
      | _ => v

/-- The value of an item; absent when there is none. -/
def item (h : Host) (name : String) : Value := h.items.value name

/-- Asks a mapping for an item by its method for that, which may have been replaced by something else. -/
def ask (h : Host) (name : String) : Except Failure Value :=
  match h.attributes.get? "get" with
  | some (.value v) => .error (.notCallable v)
  | _ => .ok (h.item name)

/-- An item of a mapping, an attribute of anything else. -/
def member (h : Host) (name : String) : Except Failure Value :=
  if h.isMapping then h.ask name else h.attr name

/-- The host with an attribute. -/
def withAttr (h : Host) (name : String) (a : Attribute) : Host := { h with attributes := h.attributes.insert name a }

/-- The host with an attribute that holds a value. A stand-in keeps its response and its listeners apart. -/
def withValue (h : Host) (name : String) (v : Value) : Host :=
  match h.nature with
  | .handle stand =>
    if name = "response" then
      { h with nature := .handle { stand with response := if v.isNull then none else some (.value v) } }
    else if name = "_listeners" then
      match v with
      | .list items =>
        { h with nature := .handle { stand with listeners := items.map .other },
                 attributes := h.attributes.erase name }
      | v => h.withAttr name (.value v)
    else h.withAttr name (.value v)
  | _ => h.withAttr name (.value v)

/-- The host with an item. -/
def withItem (h : Host) (name : String) (v : Value) : Host := { h with items := h.items.insert name v }

/-- A mapping with other items, unless it refuses that. -/
def changeItems (h : Host) (items : OrderedMap Value) : Except Failure Host :=
  match h.itemFault with
  | some f => .error f
  | none => .ok { h with items }

/-- The host with headers, in the attribute or in the item of that name. -/
def withHeaders (h : Host) (asItem : Bool) (v : Value) : Host :=
  if asItem then h.withItem "headers" v else h.withValue "headers" v

/-- An object that stands for a mapping, which may be without items. -/
def mappingValue (h : Host) (type : String) : Value :=
  .object (.typed type ("<" ++ type ++ ">") ("<" ++ type ++ ">") h.items.entries.isEmpty) []

/-- The host as a value: what it is, and what it carries as far as that can be seen. -/
def toValue (h : Host) : Value :=
  match h.nature with
  | .value v => v
  | .dict => .dict h.items.entries
  | .object => .ofType plainType h.given
  | .bag => .object .plain h.given
  | .bare => .ofType "object" []
  | .mapping => h.mappingValue (mappingType false)
  | .mutableMapping => h.mappingValue (mappingType true)
  | .webRequest keeps => h.mappingValue (requestType keeps).name
  | .sealed kind => .object (.refusing sealedType kind.name) h.given
  | .handle _ => .ofType standInType.name []

/-- The fault of a host that lacks an attribute. A stand-in passes the question on. -/
def missing (h : Host) (name : String) : Failure :=
  match h.nature with
  | .handle ⟨none, _⟩ => .fault .attribute name
  | .handle ⟨some bound, _⟩ => .noAttribute bound.toValue name
  | _ => .noAttribute h.toValue name

/-- The item of a host under a key. -/
def itemAt (h : Host) (key : Value) : Except Failure Value :=
  if h.isMapping then Value.tableItem h.items.entries key else h.toValue.item key

/-- What a walk through a host gives. -/
def elements (h : Host) : Except Failure (List Value) :=
  if h.isMapping then .ok (h.items.keys.map .text) else h.toValue.elements

/-! ## States -/

/-- An object's state, which downstream code may write to. -/
def openState (values : List (String × Value)) : Value :=
  let shown := "<" ++ stateType.name ++ ">"
  .object (.typed stateType.name shown shown values.isEmpty) values

/-- The name under which a state object has its own entries. -/
def entriesName : String := "_state"

/-- What a state object has under a name because of what it is, given its entries. -/
def stateAttr? (entries : Value) (name : String) : Option Value :=
  let methods := methodsOf stateType.module [(stateType.name, ["__init__", "__getattr__", "__setattr__",
    "__delattr__", "__getitem__", "__setitem__", "__delitem__", "__iter__", "__len__"])]
  if name = entriesName then some entries
  else if name = "__dict__" then some (.dict [(entriesName, entries)])
  else if name = "__annotations__" then some (.dict [(entriesName, .text "dict[str, Any]")])
  else match methods.lookup name with
    | some m => some m
    | none => stateType.common? name

/-- A state that refuses writes. -/
def sealedState (fault : String) (values : List (String × Value)) : Value :=
  .object (.refusing sealedType fault) values

/-- The values of a state object. -/
def stateValues : Value → List (String × Value)
  | .object _ values => values
  | _ => []

/-- A state object with other values. -/
def withValues (state : Value) (values : List (String × Value)) : Value :=
  match state with
  | .object (.typed _ _ _ _) _ => openState values
  | .object kind _ => .object kind values
  | v => v

/-- The state object of the host as it is by now. -/
def state (h : Host) : Value := (h.content "state").toOption.getD .null

/-- The host with another state. A stand-in may have its state from what it passes reads on to. -/
def withState (h : Host) (state : Value) : Host :=
  match h.nature, h.attributes.contains "state" with
  | .handle ⟨some (.value (.object kind attributes)), listeners⟩, false =>
    let attributes := ((OrderedMap.mk attributes).insert "state" state).entries
    { h with nature := .handle { response := some (.value (.object kind attributes)), listeners } }
  | _, _ => h.withValue "state" state

/-- What a web request keeps under another name once it has been looked at. -/
def kept : List String := ["url", "base_url", "query_params", "cookies", "state"]

/-- The host after an attribute has been looked at. A web request keeps some of what was looked at, and the first look
at its state puts that into the description of the call. A response that a stand-in passes reads on to keeps its
headers. -/
def seen (h : Host) (name : String) : Host :=
  match h.nature with
  | .webRequest _ =>
    match h.attr name with
    | .error _ => h
    | .ok v =>
      let h := if kept.contains name then h.withValue ("_" ++ name) v else h
      if name = "state" && !h.items.contains "state" then h.withItem "state" (.shared (.stateEntries h.number) false)
      else h
  | .handle ⟨some (.response r), listeners⟩ =>
    if name = "headers" && !h.attributes.contains name then
      { h with nature := .handle ⟨some (.response { r with looked := true }), listeners⟩ }
    else h
  | _ => h

/-! ## Headers -/

/-- What tells names of entries apart: numbers of all kinds are equal if their values are. -/
def entryKey : Value → String
  | .bool b => if b then "1" else "0"
  | .float x => match x.toInt? with
    | some n => toString n
    | none => x.text
  | v => v.shown

/-- Header entries as a table keeps them: of equal names the last value, under the first name. -/
def tableEntries (entries : List (Value × Value)) : Except Failure (List (Value × Value)) :=
  match entries.find? fun e => !e.1.isHashable with
  | some (name, _) => .error (.unhashable name)
  | none =>
    let add (table : OrderedMap (Value × Value)) (entry : Value × Value) : OrderedMap (Value × Value) :=
      let key := entryKey entry.1
      table.insert key (((table.get? key).map Prod.fst).getD entry.1, entry.2)
    .ok ((entries.foldl add {}).entries.map Prod.snd)

/-- Header entries as a collection keeps them, names in small letters. Only what Latin-1 can write is kept. -/
def collectionEntries (entries : List (Value × Value)) : Except Failure (List (Value × Value)) :=
  entries.mapM fun (k, v) => do
    return (.text (← headerText ((k.text?.map fun s => .text (Text.lower s)).getD k) "lower"),
      .text (← headerText v "encode"))
where
  headerText (v : Value) (method : String) : Except Failure String :=
    match v with
    | .text s => (Latin1.bytes s).map fun _ => s
    | v => .error (.noAttribute v method)

/-- The callbacks registered for an event, those for any event among them, in the order of registration. -/
def callbacks (h : Host) (event : String) : List Listener :=
  (h.listeners.filter fun l => l.1.all (· == event)).map Prod.snd

end Host

end ActivityLog
