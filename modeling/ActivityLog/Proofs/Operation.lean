import ActivityLog.Proofs.Facade.Demand
import ActivityLog.Proofs.Lifecycle.Scripts

/-!
# What functions do to facades

A configuration may name any function, and some of those that are no field functions do something when they are called
as one. Most of that happens elsewhere (`Operation.elsewhere_run`): on hosts, in the logging configuration, in contexts.
Three have to do with facades: one logs the request by the application's own facade, one reads the fields of a core, one
resolves the fields of the application's own pipeline. In orderly surroundings these make the application's own facade
grow, and no more. Main statement: so does every call of a function (`Application.call_evolves`).
-/

namespace ActivityLog

open Act

attribute [grind ←] Keeps.bind Keeps.pure Keeps.throw Keeps.get Keeps.ofExcept Keeps.row Keeps.host Keeps.forM
  Keeps.outcome Keeps.discard Elsewhere.setHost Elsewhere.look Elsewhere.adapter Elsewhere.diagnose
  Act.elsewhere_settings StructuredCore.elsewhere_configureLogging

variable {env : Surroundings}

/-! ## Reaching into hosts -/

namespace Act

@[grind ←] theorem elsewhere_valueOf (id : Nat) : Keeps Elsewhere (valueOf id) :=
  Keeps.bind (Keeps.host id) fun _ => Keeps.pure _

@[grind ←] theorem elsewhere_demand (id : Nat) (name : String) : Keeps Elsewhere (demand id name) := by
  refine Keeps.bind (Elsewhere.look id name) fun h => ?_
  exact Keeps.ite (Keeps.ofExcept _) (Keeps.throw _)

@[grind ←] theorem elsewhere_demandOf (v : Value) (name : String) : Keeps Elsewhere (demandOf v name) := by
  refine Keeps.bind Keeps.get fun w => ?_
  dsimp only
  split
  · exact Keeps.pure _
  · exact Keeps.throw _

@[grind ←] theorem elsewhere_setAttribute (id : Nat) (name : String) (v : Value) :
    Keeps Elsewhere (setAttribute id name v) := by
  refine Keeps.bind (Keeps.host id) fun h => ?_
  grind

@[grind ←] theorem elsewhere_setAttributes (id : Nat) (attributes : List (String × Value)) :
    Keeps Elsewhere (setAttributes id attributes) := Keeps.forM (fun _ => elsewhere_setAttribute id _ _) attributes

@[grind ←] theorem elsewhere_readItem (id : Nat) (key : Value) : Keeps Elsewhere (readItem id key) :=
  Keeps.bind (Keeps.host id) fun _ => Keeps.ofExcept _

@[grind ←] theorem elsewhere_replaceValue (id : Nat) (v : Value) : Keeps Elsewhere (replaceValue id v) :=
  Keeps.bind (Keeps.host id) fun _ => Elsewhere.setHost id _

@[grind ←] theorem elsewhere_writeItem (id : Nat) (key v : Value) : Keeps Elsewhere (writeItem id key v) := by
  refine Keeps.bind (Keeps.host id) fun h => ?_
  grind

@[grind ←] theorem elsewhere_eraseItem (id : Nat) (key : Value) : Keeps Elsewhere (eraseItem id key) := by
  refine Keeps.bind (Keeps.host id) fun h => ?_
  grind

@[grind ←] theorem elsewhere_configureApart (level : String) (layout : Layout) :
    Keeps Elsewhere (configureApart level layout) := by
  refine Keeps.bind (Keeps.ofExcept _) fun _ => Keeps.modify fun w => ?_
  split
  · exact ⟨rfl, rfl, rfl, rfl, fun _ => rfl, rfl⟩
  · exact refl_of Elsewhere w

@[grind ←] theorem elsewhere_configureLogging (level : String) (layout : Layout) :
    Keeps Elsewhere (configureLogging level layout) :=
  (aside_configureLogging level layout).mono fun _ _ h => h.elsewhere

theorem aside_makeContext (given : Option Value) (attributes : OrderedMap Value) (detached : Bool) :
    Keeps Aside (makeContext given attributes detached) := by
  have hadd (correlationId : Value) : Keeps Aside (makeContext.add attributes detached correlationId) := fun _ =>
    ⟨rfl, rfl, rfl, rfl, rfl, rfl, rfl⟩
  unfold makeContext
  split
  · exact hadd _
  · exact Keeps.bind aside_drawId fun _ => hadd _

end Act

/-! ## Functions that do something -/

namespace Given

variable (g : Given)

@[grind ←] theorem elsewhere_request : Keeps Elsewhere g.request := elsewhere_valueOf _

@[grind ←] theorem elsewhere_response : Keeps Elsewhere g.response := elsewhere_valueOf _

@[grind ←] theorem elsewhere_argument (argument : Argument) : Keeps Elsewhere (g.argument argument) := by
  cases argument with
  | request => exact g.elsewhere_request
  | response => exact g.elsewhere_response
  | record => exact Keeps.pure _

@[grind ←] theorem elsewhere_ask (name : String) : Keeps Elsewhere (g.ask name) := elsewhere_demand _ name

@[grind ←] theorem elsewhere_prepare (attributes : List (String × Value)) : Keeps Elsewhere (g.prepare attributes) :=
  elsewhere_setAttributes _ attributes

@[grind ←] theorem elsewhere_nothing {x : Act Unit} (h : Keeps Elsewhere x) : Keeps Elsewhere (nothing x) :=
  Keeps.bind h fun _ => Keeps.pure _

theorem elsewhere_storeValue : Keeps Elsewhere g.storeValue := by
  unfold storeValue
  grind

theorem elsewhere_preparePass : Keeps Elsewhere g.preparePass := by
  unfold preparePass
  grind

theorem elsewhere_noteFailure : Keeps Elsewhere g.noteFailure := by
  refine elsewhere_nothing (Keeps.bind g.elsewhere_response fun name => ?_)
  grind

theorem elsewhere_writeField : Keeps Elsewhere g.writeField := by
  refine elsewhere_nothing (Keeps.bind Keeps.get fun w => Keeps.bind (g.elsewhere_ask "target") fun target => ?_)
  grind

theorem elsewhere_walk (name : String) : Keeps Elsewhere (g.walk name) := by
  refine Keeps.bind (elsewhere_demand _ name) fun v => Keeps.bind Keeps.get fun w => ?_
  exact Keeps.discard (Keeps.ofExcept _)

theorem elsewhere_makePipeline : Keeps Elsewhere g.makePipeline := by
  have hmade : Keeps Elsewhere (do g.walk "pre"; g.walk "post"; return made "NetworkLogPipeline") :=
    Keeps.bind (g.elsewhere_walk "pre") fun _ => Keeps.bind (g.elsewhere_walk "post") fun _ => Keeps.pure _
  refine Keeps.bind g.elsewhere_response fun response => ?_
  grind

theorem elsewhere_preparePipeline : Keeps Elsewhere g.preparePipeline := by
  unfold preparePipeline
  grind

theorem elsewhere_startPipeline : Keeps Elsewhere g.startPipeline := by
  refine Keeps.bind (Keeps.discard (Elsewhere.adapter _)) fun _ => ?_
  grind

theorem elsewhere_complete : Keeps Elsewhere g.complete := by
  unfold complete
  grind

theorem elsewhere_capitalLevel (id : Nat) : Keeps Elsewhere (capitalLevel id) := by
  unfold capitalLevel
  grind

theorem elsewhere_configureLogging (shared : Bool) : Keeps Elsewhere (g.configureLogging shared) := by
  refine Keeps.bind (elsewhere_capitalLevel _) fun level => ?_
  grind

theorem elsewhere_prepareConfiguration : Keeps Elsewhere g.prepareConfiguration := by
  refine Keeps.bind (elsewhere_capitalLevel _) fun level => ?_
  grind

theorem elsewhere_makeContext : Keeps Elsewhere g.makeContext := by
  refine Keeps.bind g.elsewhere_request fun request => ?_
  exact Keeps.bind ((aside_makeContext _ _ _).mono fun _ _ h => h.elsewhere) fun _ => Keeps.pure _

theorem elsewhere_prepareContext : Keeps Elsewhere g.prepareContext := by
  unfold prepareContext
  grind

theorem elsewhere_logByContext : Keeps Elsewhere g.logByContext := by
  refine Keeps.bind (g.elsewhere_ask "logger") fun logger => Keeps.bind g.elsewhere_response fun response => ?_
  grind

theorem elsewhere_overrideField : Keeps Elsewhere g.overrideField := by
  refine Keeps.bind (g.elsewhere_ask "_overrides") fun overrides => Keeps.bind Keeps.get fun w => ?_
  grind

theorem elsewhere_sendLog : Keeps Elsewhere g.sendLog := by
  unfold sendLog
  grind

theorem elsewhere_prepareFacade : Keeps Elsewhere g.prepareFacade := by
  unfold prepareFacade
  grind

theorem elsewhere_callCore (name : String) : Keeps Elsewhere (g.callCore name) := by
  unfold callCore
  grind

theorem elsewhere_makeMiddleware : Keeps Elsewhere g.makeMiddleware := by
  unfold makeMiddleware
  grind

theorem elsewhere_prepareMiddleware : Keeps Elsewhere g.prepareMiddleware := by
  unfold prepareMiddleware
  grind

theorem elsewhere_prepareTask : Keeps Elsewhere g.prepareTask := by
  unfold prepareTask
  grind

@[grind ←] theorem elsewhere_checkCall (id : Nat) (types : List String) : Keeps Elsewhere (checkCall id types) := by
  unfold checkCall
  grind

theorem elsewhere_prepareConnection : Keeps Elsewhere g.prepareConnection := by
  unfold prepareConnection
  grind

theorem elsewhere_makeRequest : Keeps Elsewhere g.makeRequest := by
  unfold makeRequest
  grind

@[grind ←] theorem elsewhere_checkContent (id : Nat) : Keeps Elsewhere (checkContent id) := by
  unfold checkContent
  grind

theorem elsewhere_makeResponse : Keeps Elsewhere g.makeResponse := by
  unfold makeResponse
  grind

theorem elsewhere_prepareResponse : Keeps Elsewhere g.prepareResponse := by
  unfold prepareResponse
  grind

theorem elsewhere_setCookie : Keeps Elsewhere g.setCookie := by
  refine Keeps.bind g.elsewhere_response fun name => ?_
  grind

@[grind ←] theorem elsewhere_found? : Keeps Elsewhere g.found? := by
  unfold found?
  grind

theorem elsewhere_lookUp : Keeps Elsewhere g.lookUp := Keeps.bind g.elsewhere_found? fun _ => Keeps.pure _

theorem elsewhere_takeOut (ofTable : Bool) : Keeps Elsewhere (g.takeOut ofTable) := by
  refine Keeps.bind g.elsewhere_found? fun found => ?_
  grind

theorem elsewhere_setDefault : Keeps Elsewhere g.setDefault := by
  refine Keeps.bind g.elsewhere_found? fun found => ?_
  grind

@[grind ←] theorem elsewhere_checkItems (id : Nat) : Keeps Elsewhere (checkItems id) := by
  unfold checkItems
  grind

theorem elsewhere_gather (type : Option String) : Keeps Elsewhere (g.gather type) := by
  unfold gather
  grind

theorem elsewhere_setAttribute : Keeps Elsewhere g.setAttribute := by
  refine elsewhere_nothing (Keeps.bind g.elsewhere_response fun name => ?_)
  grind

theorem elsewhere_render (layout : Layout) : Keeps Elsewhere (g.render layout) := by
  unfold render
  grind

theorem elsewhere_decode : Keeps Elsewhere g.decode := by
  unfold decode
  grind

/-- Logging by the logger of records settles the chain of the application's own core. -/
theorem elsewhere_logBeside (level : Level) : Keeps Elsewhere (g.logBeside level) := by
  have hwrite (event : Value) (fields : Record) (chain : Option Chain) :
      Keeps Elsewhere (Logger.write StructuredCore.loggerName {} level event fields chain) :=
    (Logger.keeps_write Logger.aside_lines _ _ _ _ _ _).mono fun _ _ h => h.elsewhere
  have hlog (chain : Option Chain) : Keeps Elsewhere (do
      let fields : Record := .ofList [("positional_args", .ofList [← g.response, g.recordValue])]
      Logger.write StructuredCore.loggerName {} level (← g.request) fields chain) := by
    grind
  refine elsewhere_nothing (Keeps.bind Keeps.get fun w => ?_)
  dsimp only
  split
  · refine Keeps.core_bind fun d v hd => ?_
    cases d with
    | structured c => exact Keeps.bind_of v (StructuredCore.elsewhere_useChain hd) fun chain _ => hlog chain _
    | recording c => exact hlog none v
  · exact hlog none

end Given

/-- **What most functions do happens elsewhere.** -/
theorem Operation.elsewhere_run (g : Given) (op : Operation) (hcore : op ≠ .prepareCore) (hlog : op ≠ .logNetwork) :
    Keeps Elsewhere (op.run env g) := by
  cases op with
  | storeValue => exact g.elsewhere_storeValue
  | preparePass => exact g.elsewhere_preparePass
  | noteFailure => exact g.elsewhere_noteFailure
  | writeField => exact g.elsewhere_writeField
  | makePipeline => exact g.elsewhere_makePipeline
  | preparePipeline => exact g.elsewhere_preparePipeline
  | startPipeline => exact g.elsewhere_startPipeline
  | complete => exact g.elsewhere_complete
  | configureLogging shared => exact g.elsewhere_configureLogging shared
  | prepareConfiguration => exact g.elsewhere_prepareConfiguration
  | addCorrelation => exact Keeps.pure _
  | addTrace => exact Keeps.pure _
  | makeContext => exact g.elsewhere_makeContext
  | prepareContext => exact g.elsewhere_prepareContext
  | logByContext => exact g.elsewhere_logByContext
  | prepareCore => exact absurd rfl hcore
  | overrideField => exact g.elsewhere_overrideField
  | sendLog => exact g.elsewhere_sendLog
  | prepareFacade => exact g.elsewhere_prepareFacade
  | callCore name => exact g.elsewhere_callCore name
  | logNetwork => exact absurd rfl hlog
  | makeMiddleware => exact g.elsewhere_makeMiddleware
  | prepareMiddleware => exact g.elsewhere_prepareMiddleware
  | prepareTask => exact g.elsewhere_prepareTask
  | prepareConnection => exact g.elsewhere_prepareConnection
  | makeRequest => exact g.elsewhere_makeRequest
  | makeResponse => exact g.elsewhere_makeResponse
  | prepareResponse => exact g.elsewhere_prepareResponse
  | setCookie => exact g.elsewhere_setCookie
  | lookUp => exact g.elsewhere_lookUp
  | takeOut ofTable => exact g.elsewhere_takeOut ofTable
  | setDefault => exact g.elsewhere_setDefault
  | gather type => exact g.elsewhere_gather type
  | setAttribute => exact g.elsewhere_setAttribute
  | render => exact Keeps.bind Keeps.get fun _ => g.elsewhere_render _
  | renderAs console => exact g.elsewhere_render _
  | logBeside level => exact g.elsewhere_logBeside _
  | runPass phase => exact Keeps.pure _
  | decode => exact g.elsewhere_decode

/-! ## Functions that have to do with facades -/

@[grind ←] theorem Elsewhere.keeps_evolves {α : Type} {asked : Option Nat} {x : Act α} (h : Keeps Elsewhere x) :
    Keeps (Evolves asked) x := h.mono fun _ _ hk => hk.evolves

/-- Preparing a core reads the fields that it would have. -/
theorem Given.evolves_prepareCore (h : env.Orderly) (g : Given) : Keeps (Evolves none) (g.prepareCore env) := by
  have hchoose (s : Settings) : Keeps (Evolves none) (StructuredCore.chooseFields env.resolve none s.network) :=
    StructuredCore.keeps_chooseFields h.resolve none s.network
  have hprepare (attributes : List (String × Value)) : Keeps (Evolves none) (g.prepare attributes) :=
    Elsewhere.keeps_evolves (g.elsewhere_prepare attributes)
  unfold prepareCore
  dsimp only
  split
  · exact Keeps.bind (hprepare _) fun _ => Keeps.throw_bind _ _
  refine Keeps.bind (Elsewhere.keeps_evolves elsewhere_settings) fun s => ?_
  refine Keeps.bind (hprepare _) fun _ => ?_
  refine Keeps.bind (Elsewhere.keeps_evolves (StructuredCore.elsewhere_configureLogging s)) fun _ => ?_
  refine Keeps.bind (hprepare _) fun _ => ?_
  refine Keeps.bind (Elsewhere.keeps_evolves g.elsewhere_response) fun response => ?_
  grind

/-- **What functions do makes the application's own facade grow at most.** -/
theorem Operation.evolves_run (h : env.Orderly) (g : Given) (op : Operation) :
    Keeps (Evolves none) (op.run env g) := by
  by_cases hcore : op = .prepareCore
  · subst hcore
    exact g.evolves_prepareCore h
  by_cases hlog : op = .logNetwork
  · subst hlog
    exact Facade.own_bind fun n => h.logNetwork n _ _ (Keeps.throw _)
  · exact Elsewhere.keeps_evolves (elsewhere_run g op hcore hlog)

namespace Answer

theorem elsewhere_ask (g : Given) (argument : Argument) (names : List String) :
    Keeps Elsewhere (ask g argument names) := by
  induction names with
  | nil => exact Keeps.pure _
  | cons name rest ih =>
    unfold ask
    grind

/-- So does any answer to a call. -/
theorem evolves_give (h : env.Orderly) (g : Given) (answer : Answer) : Keeps (Evolves none) (give env g answer) := by
  have hargument (argument : Argument) : Keeps (Evolves none) (g.argument argument) :=
    Elsewhere.keeps_evolves (g.elsewhere_argument argument)
  induction answer with
  | fails kind text => exact Keeps.throw _
  | asks argument names => exact Elsewhere.keeps_evolves (elsewhere_ask g argument names)
  | rejects argument kind before after naming => exact Keeps.bind (hargument argument) fun _ => Keeps.throw _
  | nothing => exact Keeps.pure _
  | emptyTable => exact Keeps.pure _
  | givesText s => exact Keeps.pure _
  | gives argument =>
    cases argument with
    | record => exact Keeps.pure _
    | request => exact hargument .request
    | response => exact hargument .response
  | makes typeName => exact Keeps.pure _
  | makesError className code =>
    refine Keeps.bind (hargument .request) fun message => Keeps.bind (hargument .response) fun response => ?_
    exact Keeps.pure _
  | makesFault className arguments => exact Keeps.bind (Keeps.mapM hargument arguments) fun _ => Keeps.pure _
  | needs argument fit otherwise next ihotherwise ihnext =>
    refine Keeps.bind (Keeps.bind (hargument argument) fun _ => Keeps.pure _) fun fits => ?_
    exact Keeps.ite ihnext ihotherwise
  | performs op => exact op.evolves_run h g

end Answer

/-! ## Calls -/

namespace Application

theorem elsewhere_plainRead (parties : Parties) (name : String) (phase : Phase) :
    Keeps Elsewhere (plainRead parties name phase) := by
  refine Keeps.bind (elsewhere_demand _ name) fun _ => Keeps.throw _

theorem elsewhere_plainParties (parties : Parties) : Keeps Elsewhere (plainParties parties) := by
  have hadd (h : Host) : Keeps Elsewhere (addHost h) := fun w => Elsewhere.hosts w _
  refine Keeps.bind (elsewhere_demand _ _) fun request => Keeps.bind (elsewhere_demand _ _) fun response => ?_
  exact Keeps.bind (hadd _) fun _ => Keeps.bind (hadd _) fun _ => Keeps.pure _

/-- A pass that gets objects where it wants hosts asks them, and calls functions. -/
theorem keeps_plainSurface (h : env.Orderly) (parties : Parties) (fs : List FieldFunction) (w : World) :
    (plainSurface env parties).Keeps (Evolves none w) fs where
  header phase _ s hs := trans_of (Evolves none) hs (elsewhere_plainRead parties _ phase s).evolves
  field phase _ s hs := trans_of (Evolves none) hs (elsewhere_plainRead parties _ phase s).evolves
  call f _ record s hs := by
    refine trans_of (Evolves none) hs ?_
    have hparties := elsewhere_plainParties parties s
    unfold perform at hparties
    unfold plainSurface
    dsimp only
    rcases hr : (plainParties parties).run.run s with ⟨e | parties', v⟩ <;> rw [hr] at hparties
    · exact hparties.evolves
    · exact trans_of (Evolves none) hparties.evolves (h.call parties' f record v)
  heard s hs := trans_of (Evolves none) hs (Elsewhere.diagnostics s _).evolves

theorem runPass_evolves (h : env.Orderly) (parties : Parties) (phase : Phase) (record : Record) (w : World) :
    Evolves none w (runPass env parties phase record w).2.2 := by
  have hpipeline : Keeps (Evolves none) (do pipeline (← Facade.demandPipeline env (← Facade.own)) : Act Pipeline) :=
    Facade.own_bind fun n =>
      Keeps.bind (fun w => (Facade.demandPipeline_evolves h n w).1) fun _ => Keeps.pipeline _
  have hfound := hpipeline w
  unfold perform at hfound
  unfold runPass
  split
  · next hr =>
    rw [hr] at hfound
    exact hfound
  · next v hr =>
    rw [hr] at hfound
    have hpass (ds : List Descriptor) :=
      (keeps_plainSurface h parties (functionsOf ds) v).resolvePass phase record (refl_of (Evolves none) v)
    exact trans_of (Evolves none) hfound (trans_of (Evolves none) (hpass _) (Elsewhere.diagnostics _ _).evolves)

/-- **Every call of a function** makes the application's own facade grow at most. -/
theorem call_evolves (h : env.Orderly) (parties : Parties) (f : FieldFunction) (record : Record) (w : World) :
    Evolves none w (call env parties f record w).2.2 := by
  have hdrawn {w' : World} (hd : Drawn w w') : Evolves none w w' := by
    obtain ⟨hosts, clock, serial, counter, rfl, -⟩ := hd
    exact Elsewhere.evolves ⟨rfl, rfl, rfl, rfl, fun _ => rfl, rfl⟩
  unfold call
  split
  · exact hdrawn (drawn_script _ parties record w)
  · exact hdrawn (drawn_builtin _ parties record w)
  · exact runPass_evolves h parties _ record w
  · exact Answer.evolves_give h _ _ w

end Application

end ActivityLog
