import ActivityLog.Core.Standard
import ActivityLog.Operation

/-!
# Calls of field functions

A field function is a script, a built-in function or any other function that a configuration names; `call` calls it, and
`resolve` finds it, which may have to look at parts of the running application. A function may log a request by itself,
and the fields of that log have functions, too; making a part of the application may mean to read fields that name such
parts. `surroundingsWithin` bounds how deep this goes. Main statement: scripts are called alike at every depth
(`surroundingsWithin_call_script`).
-/

namespace ActivityLog

namespace Given

/-- Whether an argument is what a function wants. -/
def fits (g : Given) (argument : Argument) (fit : Fit) : Act Bool := do
  let v ← g.argument argument
  return match fit, v with
    | .absent, v => v.isNull
    | .truthy, v => v.truthy
    | .hashable, v => v.isHashable
    | .whole, .int _ | .whole, .bool _ => true
    | .between least greatest, .int n => decide (least ≤ n) && decide (n ≤ greatest)
    | .between _ _, .bool _ => true
    | .text, .text _ => true
    | .bytes, .bytes _ => true
    | .complete, .null | .complete, .bool _ | .complete, .int _ | .complete, .float _ => true
    | .complete, .text _ | .complete, .bytes _ => true
    | .ofType "int", .bool _ => true
    | .ofType name, v => v.isPlainData && v.typeName == name
    | .path, .text _ | .path, .bytes _ => true
    | .container, .list _ | .container, .tuple _ _ | .container, .dict _ => true
    | .container, .object (.typed type _ _ _) _ =>
      ["PlainMapping", "PlainMutableMapping", "Request", "_CachedRequest"].contains type
    | .entries n, .dict entries => entries.length == n
    | _, _ => false

end Given

namespace Naming

/-- How a fault names the type of a value. -/
def typeOf (naming : Naming) (v : Value) : String :=
  match naming, v with
  | .qualified, v => v.qualifiedTypeName
  | .plain, v => v.typeName
  | .byWord, .null => "None"
  | .byWord, v => v.qualifiedTypeName
  | .shown, v => v.shown

end Naming

namespace Answer

/-- An error of a class, with a text that shows its kind and a plain one. -/
def errorValue (className : String) (arguments : List Value) (plain : String) : Value :=
  let shown := className ++ Value.parenthesized (arguments.map Value.shown)
  .object (.typed className shown plain false) [("args", .ofList arguments)]

/-- Asks an argument for attributes, one after the other, and calls the last one. -/
def ask (g : Given) (argument : Argument) : List String → Act Value
  | [] => return .null
  | name :: rest => do
    let v ← match argument with
      | .request => Act.demand g.parties.request name
      | .response => Act.demand g.parties.response name
      | .record => Act.demandOf (.dict g.record.entries) name
    if rest.isEmpty then throw (.wrongCall v 3) else ask g argument rest

/-- What a function gives that answers in this way. -/
def give (env : Surroundings) (g : Given) : Answer → Act Value
  | .fails kind text => throw (.fault (.ofName kind) text)
  | .asks argument names => ask g argument names
  | .rejects argument kind before after naming => do
    throw (.fault (.ofName kind) (before ++ naming.typeOf (← g.argument argument) ++ after))
  | .nothing => return .null
  | .emptyTable => return .dict []
  | .givesText s => return .text s
  | .gives .record => return g.recordValue
  | .gives argument => g.argument argument
  | .makes typeName => return .ofType typeName []
  | .makesError className code => do
    let message ← g.request
    let response ← g.response
    let code := if response.truthy then response.display else code
    return errorValue className [message] ("[" ++ code ++ "] " ++ message.display)
  | .makesFault className arguments => do
    let arguments ← arguments.mapM g.argument
    let plain := match arguments with
      | [message] => message.display
      | several => Value.parenthesized (several.map Value.shown)
    return errorValue className arguments plain
  | .needs argument fit otherwise next => do
    if ← g.fits argument fit then give env g next else give env g otherwise
  | .performs op => op.run env g

/-- The record that a function leaves behind which answers in this way. -/
def recordAfter (w : World) (record : Record) : Answer → Record
  | .performs op => op.recordAfter w record
  | _ => record

end Answer

namespace Application

/-- The fault of calls that lie too deep in each other. -/
def tooDeep : Failure := .fault (.other "RecursionError") "maximum recursion depth exceeded"

/-- What becomes of a read where an object stands for a host: it is asked for what reads, which cannot be called so. -/
def plainRead (parties : Parties) (name : String) (phase : Phase) : Act Value := do
  let asked := match phase with
    | .pre => parties.request
    | .post => parties.response
  throw (.wrongCall (← Act.demand asked name) 1)

/-- The parties of a call where objects stand for hosts: what these have as their targets. -/
def plainParties (parties : Parties) : Act Parties := do
  let request ← Act.demand parties.request "target"
  let response ← Act.demand parties.response "target"
  return { parties with
    request := ← Act.addHost (.ofValue request), response := ← Act.addHost (.ofValue response) }

/-- What a pass reads and calls that gets objects where it wants hosts: it asks them for what a host seen for a request
has. -/
def plainSurface (env : Surroundings) (parties : Parties) : Surface World where
  header phase _ w := (plainRead parties "read_header" phase).run.run w
  field phase _ w := (plainRead parties "read_field" phase).run.run w
  call f record w :=
    match (plainParties parties).run.run w with
    | (.error failure, w) => (.error failure, record, w)
    | (.ok parties, w) => env.call parties f record w
  heard w := (w.diagnostics, { w with diagnostics := [] })

/-- Resolves the fields of a phase of the application's own pipeline into a record. -/
def runPass (env : Surroundings) (parties : Parties) (phase : Phase) (record : Record) (w : World) : Called :=
  match (do Act.pipeline (← Facade.demandPipeline env (← Facade.own)) : Act Pipeline).run.run w with
  | (.error f, w) => (.error f, record, w)
  | (.ok p, w) =>
    let result := resolvePass (plainSurface env parties) phase (p.config.phase phase) record w
    let w := { result.state with diagnostics := result.notes }
    (.ok (Given.recordValue ⟨parties, record, result.record⟩), result.record, w)

/-- Calls a field function. -/
def call (env : Surroundings) (parties : Parties) (f : FieldFunction) (record : Record) (w : World) : Called :=
  match f.body with
  | .script s => s.run parties record w
  | .builtin b => b.run parties record w
  | .foreign (.performs (.runPass phase)) => runPass env parties phase record w
  | .foreign answer =>
    let left := answer.recordAfter w record
    let (result, w) := (answer.give env ⟨parties, record, left⟩).run.run w
    (result, left, w)

/-- The name of the type of a core. -/
def coreType (id : Nat) : Act String := do
  match ← Act.core id with
  | .recording _ => return "RecordingCore"
  | .structured _ => return "StructlogLoggingCore"

/-- The name of the type of a part of the application, which is made if that is what looking at it does. -/
def look (env : Surroundings) (part : Live) : Act String := do
  let w ← get
  let own := w.ownFacade.bind w.facades.get?
  let ofThere (type : String) (isThere : Bool) : String := if isThere then type else Value.typeName .null
  match part with
  | .configuration => return ofThere "NetlogLogger" w.logging.isSome
  | .pattern => return Value.typeName ((w.logging.map (·.layout.pattern)).getD .null)
  | .settings => return ofThere "NetlogSettings" w.settings.isSome
  | .core => coreType (← Facade.demandCore env (← Facade.own))
  | .madeCore =>
    match own.bind (·.core) with
    | some id => coreType id
    | none => return ofThere "" false
  | .pipeline => do
    discard (Facade.demandPipeline env (← Facade.own))
    return "NetworkLogPipeline"
  | .madePipeline => return ofThere "NetworkLogPipeline" (own.bind (·.pipeline)).isSome
  | .fields => return ofThere "FieldConfig" (own.bind (·.config)).isSome

/-- Finds the function that a value is or refers to. -/
def resolve (env : Surroundings) (v : Value) : Act (Option FieldFunction) := do
  Reference.resolve ⟨(← get).catalogue, look env⟩ v

/-- What the application's pipelines work with, calls and references lying at most so deep in each other. -/
def surroundingsWithin : Nat → Surroundings
  | 0 => ⟨Standard.core, fun _ _ record w => (.error tooDeep, record, w), fun _ => throw tooDeep⟩
  | depth + 1 =>
    let inner := surroundingsWithin depth
    ⟨Standard.core, call inner, resolve inner⟩

/-- How deep calls and references may lie in each other. -/
def deepest : Nat := 100

/-- What the application's pipelines work with. -/
def surroundings : Surroundings := surroundingsWithin deepest

theorem surroundingsWithin_call_script (n : Nat) (parties : Parties) (s : Script Value) (record : Record)
    (w : World) : (surroundingsWithin (n + 1)).call parties (.script s) record w = s.run parties record w := rfl

end Application

end ActivityLog
