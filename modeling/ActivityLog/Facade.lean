import ActivityLog.Core.Structured
import ActivityLog.Pipeline

/-!
# The entry point of an application

A facade bundles a core and a pipeline behind the calls that an application makes. Both are built when they are first
needed. A new core or new fields lead to a new pipeline; requests under way stay with the one they started with.
-/

namespace ActivityLog.Facade

variable (env : Surroundings)

/-- The core, made if there is none. -/
def demandCore (id : Nat) : Act Nat := do
  let f ← Act.facade id
  match f.core with
  | some c => return c
  | none => do
    let c ← StructuredCore.create env.resolve f.config
    Act.changeFacade id fun f => { f with core := some c }
    return c

/-- The pipeline, built if there is none. -/
def demandPipeline (id : Nat) : Act Nat := do
  let f ← Act.facade id
  match f.pipeline with
  | some p => return p
  | none => do
    let c ← demandCore env id
    let p ← Pipeline.create env c f.config
    Act.changeFacade id fun f => { f with pipeline := some p }
    return p

/-- Uses another core for new requests. -/
def setCore (id core : Nat) : Act Unit := do
  Act.setFacade id { (← Act.facade id) with core := some core, pipeline := none }

/-- Uses other fields for new requests. -/
def setConfig (id : Nat) (config : FieldConfig) : Act Unit := do
  Act.setFacade id { (← Act.facade id) with config := some config, pipeline := none }

/-- Uses the fields that a document describes for new requests. One that cannot be read replaces nothing. -/
def setDocument (id : Nat) (v : Value) : Act Unit := do setConfig id (← FieldConfig.ofValue env.resolve v)

/-- Logs a request, then calls what comes next. -/
def logNetwork {α : Type} (id request response : Nat) (next : Act α) : Act α := do
  Pipeline.handle env (← demandPipeline env id) request response next

/-- The core as an interface, made if there is none. -/
def coreOf (id : Nat) : Act LoggingCore := do return env.core (← demandCore env id)

/-- Passes a message on to the core. -/
def logMessage (id : Nat) (level message : Value) (fields : Record) : Act Unit := do
  Act.ofExcept (refuseParameters "NetworkLogging.log_message" ["self", "level", "message"] fields.keys)
  (← coreOf env id).logMessage level message fields

/-- The entry point that the application has by itself. -/
def own : Act Nat := do
  match (← get).ownFacade with
  | some id => return id
  | none => do
    let id ← Act.addFacade {}
    modify fun w => { w with ownFacade := some id }
    return id

/-- How an entry point is reached: one that has been made, or the functions of the module, which pass on to the
application's own. -/
inductive Access where
  | made (id : Nat)
  | functions

/-- The entry point that is reached. -/
def Access.facade : Access → Act Nat
  | .made id => return id
  | .functions => own

/-- The pipeline, built if there is none. Among the functions of the module there is none that gives it. -/
def Access.pipeline : Access → Act Nat
  | .made id => demandPipeline env id
  | .functions => throw (.fault .attribute "module 'netlog.network' has no attribute 'pipeline'")

end ActivityLog.Facade
