import ActivityLog.Core.Structured
import ActivityLog.Proofs.Act
import ActivityLog.Proofs.Record

/-!
# Where settings come from

Each setting has a variable. Its value is what the variable means, if the environment has it, and its default otherwise.

- `Settings.Variable`: a setting by the name of its variable, its default and what a text means as its value.
- `Settings.ChosenFrom`: the settings that an environment chooses; `Settings.Invalid`: it sets one to what means
  nothing.
- `Act.settings_iff`: reading the settings gives those that the environment chooses, and fails exactly if it chooses an
  invalid value, or if the file of variables is no text. Nothing is kept of a failure. What the file holds for the
  variables of settings never counts: `Act.not_settings_from_file` is such a file.
-/

namespace ActivityLog

open Act OrderedMap

namespace Settings

open Document

/-! ## Variables of settings -/

/-- The value of a variable, whatever the case of its name. Of several such variables the last one counts. -/
def inForce? (environment : List (String × String)) (name : String) : Option String :=
  (environment.reverse.map fun e => (Text.lower e.1, e.2)).lookup (Text.lower name)

/-- A setting: the name of its variable, its value without one, and what a text means as its value, if anything. -/
structure Variable (α : Type) where
  name : String
  default : α
  meaning : String → Option α

namespace Variable

variable {α : Type}

/-- The value that an environment chooses: what the variable means there, or else the default. -/
def value (v : Variable α) (environment : List (String × String)) : Option α :=
  match inForce? environment v.name with
  | some text => v.meaning text
  | none => some v.default

/-- The environment has the variable, which means nothing there. -/
def Invalid (v : Variable α) (environment : List (String × String)) : Prop :=
  ∃ text, inForce? environment v.name = some text ∧ v.meaning text = none

theorem invalid_iff (v : Variable α) (environment : List (String × String)) :
    v.Invalid environment ↔ v.value environment = none := by
  unfold Invalid value
  cases inForce? environment v.name <;> simp

end Variable

/-- A setting that may be one of some words. -/
def oneOf (words : List String) (text : String) : Option String := if words.contains text then some text else none

/-- The level from which on there are lines, in any case. -/
def logLevel : Variable String :=
  ⟨"NETLOG_LOG_LEVEL", "INFO", fun t => oneOf ["DEBUG", "INFO", "WARNING", "ERROR", "CRITICAL"] (Text.upper t)⟩

/-- How lines are written. -/
def logFormat : Variable String := ⟨"NETLOG_LOG_FORMAT", "json", oneOf ["json", "console"]⟩

/-- The pattern of lines. -/
def logPattern : Variable (Option String) := ⟨"NETLOG_LOG_PATTERN", none, fun t => some (some t)⟩

/-- Whether the network is recorded at all: one of twelve words. -/
def enabled : Variable Bool :=
  ⟨"NETLOG_NETWORK_ENABLED", true, fun t => if Text.hasHalves t then none else truthWord? t⟩

/-- The level of records. -/
def networkLevel : Variable String := ⟨"NETLOG_NETWORK_LEVEL", "info", some⟩

/-- The file that describes the fields of records. -/
def fieldConfigPath : Variable (Option String) := ⟨"NETLOG_NETWORK_FIELD_CONFIG_PATH", none, fun t => some (some t)⟩

/-- The name of the component. -/
def componentName : Variable String := ⟨"NETLOG_NETWORK_COMPONENT_NAME", "netlog", some⟩

/-- The name of the layer. -/
def layer : Variable String := ⟨"NETLOG_NETWORK_LAYER", "[PY] NET", some⟩

/-- The settings are those that an environment chooses. -/
structure ChosenFrom (environment : List (String × String)) (s : Settings) : Prop where
  logLevel : logLevel.value environment = some s.logging.level
  logFormat : logFormat.value environment = some s.logging.format
  logPattern : logPattern.value environment = some s.logging.pattern
  enabled : enabled.value environment = some s.network.enabled
  networkLevel : networkLevel.value environment = some s.network.level
  fieldConfigPath : fieldConfigPath.value environment = some s.network.fieldConfigPath
  componentName : componentName.value environment = some s.network.componentName
  layer : layer.value environment = some s.network.layer

/-- Some setting has an invalid value in an environment. -/
def Invalid (environment : List (String × String)) : Prop :=
  ∃ invalid ∈ [logLevel.Invalid environment, logFormat.Invalid environment, logPattern.Invalid environment,
    enabled.Invalid environment, networkLevel.Invalid environment, fieldConfigPath.Invalid environment,
    componentName.Invalid environment, layer.Invalid environment], invalid

variable {environment : List (String × String)} {files : Files}

/-- Settings can be chosen unless one has an invalid value. -/
theorem exists_chosenFrom_iff : (∃ s, ChosenFrom environment s) ↔ ¬Invalid environment := by
  constructor
  · rintro ⟨s, hs⟩ ⟨invalid, hmem, hinvalid⟩
    have hcontra {α : Type} {v : Variable α} {a : α} (hv : v.value environment = some a) (h : v.Invalid environment) :
        False := by
      cases ((v.invalid_iff environment).1 h).symm.trans hv
    simp only [List.mem_cons, List.not_mem_nil, or_false] at hmem
    rcases hmem with rfl | rfl | rfl | rfl | rfl | rfl | rfl | rfl
    · exact hcontra hs.logLevel hinvalid
    · exact hcontra hs.logFormat hinvalid
    · exact hcontra hs.logPattern hinvalid
    · exact hcontra hs.enabled hinvalid
    · exact hcontra hs.networkLevel hinvalid
    · exact hcontra hs.fieldConfigPath hinvalid
    · exact hcontra hs.componentName hinvalid
    · exact hcontra hs.layer hinvalid
  · intro hvalid
    have hvalue {α : Type} (v : Variable α) (hv : v.Invalid environment → Invalid environment) :
        ∃ a, v.value environment = some a :=
      Option.ne_none_iff_exists'.1 fun hnone => hvalid (hv ((v.invalid_iff environment).2 hnone))
    obtain ⟨level, hlevel⟩ := hvalue logLevel fun h => ⟨_, by simp, h⟩
    obtain ⟨format, hformat⟩ := hvalue logFormat fun h => ⟨_, by simp, h⟩
    obtain ⟨pattern, hpattern⟩ := hvalue logPattern fun h => ⟨_, by simp, h⟩
    obtain ⟨on, hon⟩ := hvalue enabled fun h => ⟨_, by simp, h⟩
    obtain ⟨records, hrecords⟩ := hvalue networkLevel fun h => ⟨_, by simp, h⟩
    obtain ⟨path, hpath⟩ := hvalue fieldConfigPath fun h => ⟨_, by simp, h⟩
    obtain ⟨component, hcomponent⟩ := hvalue componentName fun h => ⟨_, by simp, h⟩
    obtain ⟨layerName, hlayer⟩ := hvalue layer fun h => ⟨_, by simp, h⟩
    exact ⟨⟨⟨level, format, pattern⟩, ⟨on, records, path, component, layerName⟩⟩, hlevel, hformat, hpattern, hon,
      hrecords, hpath, hcomponent, hlayer⟩

/-! ## Variables of groups -/

theorem get?_ofList {β : Type} (entries : List (String × β)) (name : String) :
    (OrderedMap.ofList entries).get? name = entries.reverse.lookup name :=
  (get?_insertAll entries _ name).trans Option.or_none

/-- What an index says about a name is the value of the variable. -/
theorem get?_index {s : Sources} (hcase : s.exactCase = false) (hempty : s.ignoreEmpty = false)
    (environment : List (String × String)) (name : String) :
    ((s.index (environment.map fun e => (e.1, some e.2))).get? (Text.lower name)).join =
      inForce? environment name := by
  have hlookup (entries : List (String × String)) (name : String) :
      ((entries.map fun e => (Text.lower e.1, some e.2)).lookup name).join =
        (entries.map fun e => (Text.lower e.1, e.2)).lookup name := by
    induction entries with
    | nil => rfl
    | cons e rest ih =>
      rw [List.map_cons, List.map_cons, lookup_cons_ite, lookup_cons_ite]
      split
      · rfl
      · exact ih
  have hindex : s.index (environment.map fun e => (e.1, some e.2)) =
      .ofList (environment.map fun e => (Text.lower e.1, some e.2)) := by
    have hfold : s.fold = Text.lower := by
      funext name
      rw [Sources.fold, hcase, if_neg Bool.false_ne_true]
    have hall (entries : List (String × Option String)) :
        entries.filter (fun e => !(false && e.2 == some "")) = entries := List.filter_eq_self.2 fun _ _ => rfl
    unfold Sources.index
    rw [hempty, hfold, hall, List.map_map]
    rfl
  rw [hindex, get?_ofList, ← List.map_reverse, hlookup]
  rfl

/-- What is found for one of some fields stands under its name. -/
theorem lookup_filterMap {β : Type} (find : String → Option β) (fields : List String) (field : String) :
    (fields.filterMap fun f => (find f).map fun b => (f, b)).lookup field =
      if field ∈ fields then find field else none := by
  induction fields with
  | nil => rfl
  | cons f rest ih =>
    rw [List.filterMap_cons]
    cases hf : find f with
    | none =>
      rw [Option.map_none, ih]
      by_cases heq : field = f
      · subst heq
        simp [hf]
      · simp [heq]
    | some b =>
      rw [Option.map_some, lookup_cons_ite, ih]
      by_cases heq : field = f
      · subst heq
        simp [hf]
      · simp [heq]

/-- The variables of a group without options are named by its stem. -/
theorem pick_ofGroup (g : Group) (place : String) (find : String → Option String) :
    (Sources.ofGroup g).pick g place find =
      .ok (g.fields.filterMap fun f => (find (Text.lower (g.stem ++ f))).map fun t => (f, Value.text t)) := by
  have hnames : (g.fields.mapM fun f => ((Sources.ofGroup g).nameOf? f).map fun name => (f, name)) =
      some (g.fields.map fun f => (f, Text.lower (g.stem ++ f))) := List.mapM_pure
  unfold Sources.pick
  rw [hnames]
  dsimp only
  rw [List.filterMap_map]
  rfl

/-- The fields of a group have the values of their variables in the environment, and no others. -/
theorem exists_groupValues (g : Group) (environment : List (String × String)) (files : Files) :
    ∃ values, groupValues g environment files [] = .ok values ∧
      ∀ field ∈ g.fields, values.entries.lookup field = (inForce? environment (g.stem ++ field)).map Value.text := by
  let s : Sources := Sources.ofGroup g
  let find (name : String) : Option String :=
    ((s.index (environment.map fun e => (e.1, some e.2))).get? name).join
  let strong := g.fields.filterMap fun f => (find (Text.lower (g.stem ++ f))).map fun t => (f, Value.text t)
  have hfound (field : String) : find (Text.lower (g.stem ++ field)) = inForce? environment (g.stem ++ field) :=
    get?_index rfl rfl environment _
  have hgather : groupValues g environment files [] = (do
      let strong ← s.pick g "EnvSettingsSource" find
      let weak ← s.pick g "DotEnvSettingsSource" fun _ => none
      let weak ← s.further g {} (.ofList weak)
      return ((((OrderedMap.ofList []).insertAll weak.entries).insertAll strong).insertAll []).insertAll []) := rfl
  have hstrong : s.pick g "EnvSettingsSource" find = .ok strong := pick_ofGroup g _ find
  have hweak : s.pick g "DotEnvSettingsSource" (fun _ => none) = .ok [] := Sources.pick_none rfl g _
  refine ⟨(OrderedMap.ofList []).insertAll strong, ?_, fun field hfield => ?_⟩
  · rw [hgather, hstrong, hweak]
    rfl
  · show ((OrderedMap.ofList []).insertAll strong).get? field = _
    have hvalues : (fun f => (find (Text.lower (g.stem ++ f))).map fun t => (f, Value.text t)) =
        fun f => ((inForce? environment (g.stem ++ f)).map Value.text).map fun v => (f, v) := by
      funext f
      rw [hfound, Option.map_map]
      rfl
    have hreverse : strong.reverse = g.fields.reverse.filterMap fun f =>
        ((inForce? environment (g.stem ++ f)).map Value.text).map fun v => (f, v) := by
      rw [← hvalues, List.filterMap_reverse]
    rw [get?_insertAll, hreverse, lookup_filterMap, if_pos (List.mem_reverse.2 hfield)]
    exact Option.or_none

/-! ## Values of fields -/

theorem within_eq_ok_iff {α : Type} {outer : List Place} {r : Checked α} {a : α} :
    r.within outer = .ok a ↔ r = .ok a := by
  cases r <;> simp [Checked.within]

theorem both_eq_ok_iff {α β γ : Type} {f : α → β → γ} {r : Checked α} {r' : Checked β} {c : γ} :
    Checked.both f r r' = .ok c ↔ ∃ a b, r = .ok a ∧ r' = .ok b ∧ f a b = c := by
  cases r <;> cases r' <;> simp [Checked.both]

/-- A reading takes texts for what they mean as values of a setting. -/
def Variable.ReadBy {α : Type} (v : Variable α) (read : Value → Checked α) : Prop :=
  ∀ t a, read (.text t) = .ok a ↔ v.meaning t = some a

theorem word_eq_ok_iff {words : List String} (hwords : ∀ w ∈ words, Text.hasHalves w = false) (kind t a : String) :
    word kind words (.text t) = .ok a ↔ oneOf words t = some a := by
  unfold word oneOf
  dsimp only
  by_cases ht : words.contains t = true
  · rw [hwords t (List.contains_iff_mem.1 ht), if_neg Bool.false_ne_true, if_pos ht, if_pos ht]
    simp
  · rw [if_neg ht, if_neg ht]
    split <;> simp [notUnicode, issue]

theorem readBy_logLevel : logLevel.ReadBy levelWord :=
  fun t a => word_eq_ok_iff (by decide +kernel) _ (Text.upper t) a

theorem readBy_logFormat : logFormat.ReadBy (word "Input should be 'json' or 'console'" ["json", "console"]) :=
  fun t a => word_eq_ok_iff (by decide +kernel) _ t a

theorem readBy_enabled : enabled.ReadBy truth := by
  intro t a
  unfold truth enabled
  dsimp only
  split
  · simp [notUnicode, issue]
  · cases truthWord? t <;> simp [badTruth, issue]

/-- A setting that is any text. -/
theorem readBy_text {v : Variable String} (h : v.meaning = some) : v.ReadBy text := by
  intro t a
  rw [h]
  exact ⟨fun ht => congrArg some (Except.ok.inj ht), fun ht => congrArg Except.ok (Option.some.inj ht)⟩

/-- A setting that is any text, or none. -/
theorem readBy_optionalText {v : Variable (Option String)} (h : v.meaning = fun t => some (some t)) :
    v.ReadBy optionalText := by
  intro t a
  rw [h]
  exact ⟨fun ht => congrArg some (Except.ok.inj ht), fun ht => congrArg Except.ok (Option.some.inj ht)⟩

/-- The fields of a group have the values of their variables. -/
def Filled (g : Group) (environment : List (String × String)) (values : OrderedMap Value) : Prop :=
  ∀ field ∈ g.fields, values.entries.lookup field = (inForce? environment (g.stem ++ field)).map Value.text

/-- **The value of a field** is the one that the environment chooses for its setting. -/
theorem Filled.optional_eq_ok_iff {α : Type} {g : Group} {values : OrderedMap Value} (h : Filled g environment values)
    {v : Variable α} {read : Value → Checked α} (hread : v.ReadBy read) {field : String} (hfield : field ∈ g.fields)
    (hname : Text.lower (g.stem ++ field) = Text.lower v.name) (a : α) :
    Checked.optional values.entries field v.default read = .ok a ↔ v.value environment = some a := by
  have hentry : values.entries.lookup field = (inForce? environment v.name).map Value.text := by
    rw [h field hfield, inForce?, hname]
    rfl
  unfold Checked.optional Variable.value
  rw [hentry]
  cases inForce? environment v.name with
  | none => simp
  | some t =>
    dsimp only [Option.map_some]
    rw [within_eq_ok_iff, hread]

theorem readLogging_eq_ok_iff {values : OrderedMap Value} (h : Filled loggingGroup environment values)
    {l : LoggingSettings} :
    readLogging values = .ok l ↔ logLevel.value environment = some l.level ∧
      logFormat.value environment = some l.format ∧ logPattern.value environment = some l.pattern := by
  have hlevel := h.optional_eq_ok_iff readBy_logLevel (by decide : "level" ∈ _) (by decide +kernel)
  have hformat := h.optional_eq_ok_iff readBy_logFormat (by decide : "format" ∈ _) (by decide +kernel)
  have hpattern := h.optional_eq_ok_iff (v := logPattern) (readBy_optionalText rfl) (by decide : "pattern" ∈ _)
    (by decide +kernel)
  unfold readLogging
  dsimp only
  constructor
  · intro hread
    obtain ⟨⟨level, format⟩, pattern, hfirst, hp, rfl⟩ := both_eq_ok_iff.1 hread
    obtain ⟨_, _, hl, hf, heq⟩ := both_eq_ok_iff.1 hfirst
    cases heq
    exact ⟨(hlevel _).1 hl, (hformat _).1 hf, (hpattern _).1 hp⟩
  · rintro ⟨hl, hf, hp⟩
    exact both_eq_ok_iff.2 ⟨(l.level, l.format), l.pattern,
      both_eq_ok_iff.2 ⟨_, _, (hlevel _).2 hl, (hformat _).2 hf, rfl⟩, (hpattern _).2 hp, rfl⟩

theorem readNetwork_eq_ok_iff {values : OrderedMap Value} (h : Filled networkGroup environment values)
    {n : NetworkSettings} :
    readNetwork values = .ok n ↔ enabled.value environment = some n.enabled ∧
      networkLevel.value environment = some n.level ∧ fieldConfigPath.value environment = some n.fieldConfigPath ∧
      componentName.value environment = some n.componentName ∧ layer.value environment = some n.layer := by
  have henabled := h.optional_eq_ok_iff readBy_enabled (by decide : "enabled" ∈ _) (by decide +kernel)
  have hlevel := h.optional_eq_ok_iff (v := networkLevel) (readBy_text rfl)
    (by decide : "level" ∈ _) (by decide +kernel)
  have hpath := h.optional_eq_ok_iff (v := fieldConfigPath) (readBy_optionalText rfl)
    (by decide : "field_config_path" ∈ _) (by decide +kernel)
  have hcomponent := h.optional_eq_ok_iff (v := componentName) (readBy_text rfl) (by decide : "component_name" ∈ _)
    (by decide +kernel)
  have hlayer := h.optional_eq_ok_iff (v := layer) (readBy_text rfl) (by decide : "layer" ∈ _) (by decide +kernel)
  unfold readNetwork
  dsimp only
  constructor
  · intro hread
    obtain ⟨⟨on, level⟩, ⟨path, component, name⟩, hfirst, hsecond, rfl⟩ := both_eq_ok_iff.1 hread
    obtain ⟨_, _, he, hl, heq⟩ := both_eq_ok_iff.1 hfirst
    cases heq
    obtain ⟨_, _, hp, hrest, heq⟩ := both_eq_ok_iff.1 hsecond
    cases heq
    obtain ⟨_, _, hc, hy, heq⟩ := both_eq_ok_iff.1 hrest
    cases heq
    exact ⟨(henabled _).1 he, (hlevel _).1 hl, (hpath _).1 hp, (hcomponent _).1 hc, (hlayer _).1 hy⟩
  · rintro ⟨he, hl, hp, hc, hy⟩
    exact both_eq_ok_iff.2 ⟨(n.enabled, n.level), (n.fieldConfigPath, n.componentName, n.layer),
      both_eq_ok_iff.2 ⟨_, _, (henabled _).2 he, (hlevel _).2 hl, rfl⟩,
      both_eq_ok_iff.2 ⟨_, _, (hpath _).2 hp, both_eq_ok_iff.2 ⟨_, _, (hcomponent _).2 hc, (hlayer _).2 hy, rfl⟩, rfl⟩,
      rfl⟩

/-! ## Groups -/

/-- The file of variables, if there is one, is a text. -/
def Readable (files : Files) : Prop :=
  ∀ bytes, files.lookup variablesFile = some bytes → ∃ text, Utf8.decode bytes = .ok text

/-- Neither the environment nor the file of variables has a variable that is named like a group. -/
structure Ungrouped (environment : List (String × String)) (files : Files) : Prop where
  unset : ∀ g ∈ [loggingGroup, networkGroup], inForce? environment g.name = none
  unfiled : ∀ bytes text, files.lookup variablesFile = some bytes → Utf8.decode bytes = .ok text →
    ∀ e ∈ DotEnv.bindings environment text, Text.lower e.1 ∉ [loggingGroup.name, networkGroup.name]

/-- Where the variables are that are named like groups. -/
def ungrouped : Sources := { stem := some "", files := .text variablesFile }

/-- The names in a file that is indexed, in small letters. -/
theorem exists_of_mem_keys_index {entries : List (String × Option String)} {name : String}
    (h : name ∈ (OrderedMap.ofList (ungrouped.index (OrderedMap.ofList entries).entries).entries).keys) :
    ∃ e ∈ entries, Text.lower e.1 = name := by
  have hindex : name ∈ (ungrouped.index (OrderedMap.ofList entries).entries).keys := mem_keys_ofList.1 h
  obtain ⟨e, he, rfl⟩ := List.mem_map.1 (mem_keys_ofList.1 hindex)
  obtain ⟨e', he', rfl⟩ := List.mem_map.1 he
  have hkey : e'.1 ∈ (OrderedMap.ofList entries).keys := List.mem_map_of_mem (List.mem_filter.1 he').1
  obtain ⟨first, hfirst, hsame⟩ := List.mem_map.1 (mem_keys_ofList.1 hkey)
  exact ⟨first, hfirst, congrArg Text.lower hsame⟩

/-- What the file says about groups: nothing, if it can be read. -/
theorem filed_cases (h : Ungrouped environment files) :
    (Readable files ∧ ∃ filed, ungrouped.filed environment files = .ok filed ∧
      ∀ g ∈ [loggingGroup, networkGroup], filed.get? g.name = none) ∨
    (¬Readable files ∧ ∃ e, ungrouped.filed environment files = .error (.unreadable e)) := by
  have hname : ConfigFile.normalize variablesFile = variablesFile := by decide +kernel
  have hfiled : ungrouped.filed environment files = (files.lookup variablesFile).elim (.ok {}) fun bytes =>
      (Utf8.text bytes).map fun text =>
        .ofList (ungrouped.index (OrderedMap.ofList (DotEnv.bindings environment text)).entries).entries := by
    have hpaths : paths ungrouped.files = .ok [variablesFile] := rfl
    unfold Sources.filed
    rw [hpaths]
    simp only [bind, Except.bind, List.filterMapM_cons, List.filterMapM_nil, hname]
    cases files.lookup variablesFile with
    | none => rfl
    | some bytes =>
      have hdecode : decode ungrouped.encoding bytes = Utf8.text bytes := rfl
      rw [Option.elim_some]
      dsimp only
      rw [hdecode]
      cases Utf8.text bytes with
      | error f => rfl
      | ok text => simp [Except.map, pure, Except.pure]
  rw [hfiled]
  cases hfile : files.lookup variablesFile with
  | none =>
    refine .inl ⟨fun bytes hbytes => ?_, _, rfl, fun g _ => rfl⟩
    cases hfile.symm.trans hbytes
  | some bytes =>
    rw [Option.elim_some, Utf8.text]
    cases hdecode : Utf8.decode bytes with
    | error e =>
      refine .inr ⟨fun hreadable => ?_, e, rfl⟩
      obtain ⟨text, htext⟩ := hreadable bytes hfile
      cases hdecode.symm.trans htext
    | ok text =>
      refine .inl ⟨fun bytes' hbytes => ?_, _, rfl, fun g hg => ?_⟩
      · obtain rfl := Option.some.inj (hfile.symm.trans hbytes)
        exact ⟨text, hdecode⟩
      · rw [get?_eq_none_iff]
        intro hmem
        obtain ⟨e, he, hkey⟩ := exists_of_mem_keys_index hmem
        exact h.unfiled bytes text hfile hdecode e he (hkey ▸ List.mem_map_of_mem hg)

/-- A group without a value of its own has what its variables give it. What is wrong is reported for it by itself. -/
theorem readGroup_null {α : Type} {g : Group} {values : OrderedMap Value}
    (h : groupValues g environment files [] = .ok values) (read : OrderedMap Value → Checked α) :
    readGroup g environment files .null read = match read values with
      | .ok a => .ok (.ok a)
      | .error issues => .error (.invalid g.model issues) := by
  unfold readGroup
  dsimp only
  rw [h]
  cases hread : read values <;> simp [hread, Except.bind, Except.map, orFail, orThrow, bind, pure, Except.pure, throw,
    throwThe, MonadExceptOf.throw]

/-- Without variables that are named like groups, these are read from single variables alone. -/
theorem gather_of_ungrouped (h : Ungrouped environment files) :
    gather environment files = (do
      let _ ← ungrouped.filed environment files
      orFail "NetlogSettings" (both Settings.mk (readGroup loggingGroup environment files .null readLogging)
        (readGroup networkGroup environment files .null readNetwork))) := by
  let set := ungrouped.index (environment.map fun e => (e.1, some e.2))
  let own (filed : OrderedMap (Option String)) (g : Group) : Except Failure Value := do
    let strong ← groupJson g ((set.get? g.name).getD none)
    let weak ← groupJson g ((filed.get? g.name).getD none)
    return if strong.isNull then weak else merge weak strong
  have hgather : gather environment files = (do
      let filed ← ungrouped.filed environment files
      let logging ← own filed loggingGroup
      let network ← own filed networkGroup
      orFail "NetlogSettings" (both Settings.mk (readGroup loggingGroup environment files logging readLogging)
        (readGroup networkGroup environment files network readNetwork))) := rfl
  rw [hgather]
  rcases filed_cases h with ⟨-, filed, hfiled, hnone⟩ | ⟨-, e, hfiled⟩
  · have hown (g : Group) (hg : g ∈ [loggingGroup, networkGroup]) (hname : Text.lower g.name = g.name) :
        own filed g = .ok .null := by
      have hset : (set.get? g.name).getD none = none := by
        have hjoin : (set.get? g.name).join = none := by
          rw [← hname]
          exact (get?_index rfl rfl environment g.name).trans (h.unset g hg)
        cases hv : set.get? g.name with
        | none => rfl
        | some v =>
          rw [hv] at hjoin
          exact hjoin
      unfold own
      rw [hset, hnone g hg]
      rfl
    have hlogging : own filed loggingGroup = .ok .null := hown loggingGroup (by simp) (by decide +kernel)
    have hnetwork : own filed networkGroup = .ok .null := hown networkGroup (by simp) (by decide +kernel)
    rw [hfiled]
    show (own filed loggingGroup >>= fun logging => own filed networkGroup >>= fun network => _) = _
    rw [hlogging, hnetwork]
    rfl
  · rw [hfiled]
    rfl

/-- **What comes of gathering settings.** -/
theorem gather_cases (h : Ungrouped environment files) :
    (¬Readable files ∧ ∃ e, gather environment files = .error (.unreadable e)) ∨
    (Readable files ∧ Invalid environment ∧ ∃ model issues, gather environment files = .error (.invalid model issues)) ∨
    (Readable files ∧ ∃ s, ChosenFrom environment s ∧ gather environment files = .ok s) := by
  rw [gather_of_ungrouped h]
  rcases filed_cases h with ⟨hreadable, filed, hfiled, -⟩ | ⟨hunreadable, e, hfiled⟩
  · refine .inr ?_
    obtain ⟨values, hvalues, hfilled⟩ := exists_groupValues loggingGroup environment files
    obtain ⟨values', hvalues', hfilled'⟩ := exists_groupValues networkGroup environment files
    rw [hfiled, readGroup_null hvalues, readGroup_null hvalues']
    cases hl : readLogging values with
    | error issues =>
      refine .inl ⟨hreadable, ?_, _, issues, rfl⟩
      refine Classical.not_not.1 fun hvalid => ?_
      obtain ⟨s, hs⟩ := exists_chosenFrom_iff.2 hvalid
      cases hl.symm.trans ((readLogging_eq_ok_iff hfilled).2 ⟨hs.logLevel, hs.logFormat, hs.logPattern⟩)
    | ok l =>
      obtain ⟨hlevel, hformat, hpattern⟩ := (readLogging_eq_ok_iff hfilled).1 hl
      cases hn : readNetwork values' with
      | error issues =>
        refine .inl ⟨hreadable, ?_, _, issues, rfl⟩
        refine Classical.not_not.1 fun hvalid => ?_
        obtain ⟨s, hs⟩ := exists_chosenFrom_iff.2 hvalid
        cases hn.symm.trans ((readNetwork_eq_ok_iff hfilled').2
          ⟨hs.enabled, hs.networkLevel, hs.fieldConfigPath, hs.componentName, hs.layer⟩)
      | ok n =>
        obtain ⟨hon, hrecords, hpath, hcomponent, hlayer⟩ := (readNetwork_eq_ok_iff hfilled').1 hn
        exact .inr ⟨hreadable, ⟨l, n⟩, ⟨hlevel, hformat, hpattern, hon, hrecords, hpath, hcomponent, hlayer⟩, rfl⟩
  · rw [hfiled]
    exact .inl ⟨hunreadable, e, rfl⟩

/-- An environment chooses at most one value for each setting. -/
theorem ChosenFrom.unique {s s' : Settings} (h : ChosenFrom environment s) (h' : ChosenFrom environment s') :
    s = s' := by
  obtain ⟨⟨level, format, pattern⟩, ⟨on, records, path, component, name⟩⟩ := s
  have hsame {α : Type} {v : Variable α} {a a' : α} (ha : v.value environment = some a)
      (ha' : v.value environment = some a') : a = a' := Option.some.inj (ha.symm.trans ha')
  obtain rfl := hsame h.logLevel h'.logLevel
  obtain rfl := hsame h.logFormat h'.logFormat
  obtain rfl := hsame h.logPattern h'.logPattern
  obtain rfl := hsame h.enabled h'.enabled
  obtain rfl := hsame h.networkLevel h'.networkLevel
  obtain rfl := hsame h.fieldConfigPath h'.fieldConfigPath
  obtain rfl := hsame h.componentName h'.componentName
  obtain rfl := hsame h.layer h'.layer
  rfl

theorem exists_initError (cause : Failure) :
    ∃ e, initError cause = .configuration e ∧ e.errorClass = .configuration ∧ e.code = "SETTINGS_INIT_ERROR" := by
  have hcode : "SETTINGS_INIT_ERROR".isEmpty = false := by decide +kernel
  refine ⟨_, rfl, rfl, ?_⟩
  dsimp only [ConfigError.make]
  rw [hcode, if_neg Bool.false_ne_true]

/-- Settings that are read are those that are chosen, and reading fails where there are none, or no text of the file. -/
theorem read_cases (h : Ungrouped environment files) :
    ((¬Readable files ∨ Invalid environment) ∧ ∃ cause, read environment files = .error (initError cause)) ∨
    (Readable files ∧ ∃ s, ChosenFrom environment s ∧ read environment files = .ok s) := by
  unfold read
  rcases gather_cases h with
    ⟨hunreadable, e, hgather⟩ | ⟨-, hinvalid, model, issues, hgather⟩ | ⟨hreadable, s, hs, hgather⟩
  · rw [hgather]
    exact .inl ⟨.inl hunreadable, _, rfl⟩
  · rw [hgather]
    exact .inl ⟨.inr hinvalid, _, rfl⟩
  · rw [hgather]
    exact .inr ⟨hreadable, s, hs, rfl⟩

end Settings

namespace Act

open Settings

/-- Settings that have not been read yet are read, and kept unless that fails. -/
theorem perform_settings_unread {w : World} (hnone : w.settings = none) :
    settings.perform w = match read w.environment w.files with
      | .ok s => (.ok s, { w with settings := some s })
      | .error f => (.error f, w) := by
  unfold settings
  rw [perform_bind_ok (perform_get w), hnone]
  cases read w.environment w.files <;> rfl

/-- **Where settings come from.** Neither the environment nor the file of variables has a variable that is named like a
group of settings. Where the settings have not been read yet,

- reading them gives the settings that the environment chooses, whatever the file holds for the variables of settings:
  each is what its variable means in the environment, or else its default;
- they are kept, and given by each later reading;
- reading fails exactly if the environment has a variable that means nothing, or if the file is no text;
- then the failure is an error with the code `SETTINGS_INIT_ERROR`, and nothing is kept: the next reading starts from
  the same state. -/
theorem settings_iff {w : World} (hnone : w.settings = none) (h : Ungrouped w.environment w.files) :
    (∀ s v, settings.perform w = (.ok s, v) ↔
      Readable w.files ∧ ChosenFrom w.environment s ∧ v = { w with settings := some s }) ∧
    (∀ s v, settings.perform w = (.ok s, v) → settings.perform v = (.ok s, v)) ∧
    ((∃ f v, settings.perform w = (.error f, v)) ↔ ¬Readable w.files ∨ Invalid w.environment) ∧
    (∀ f v, settings.perform w = (.error f, v) →
      (∃ e, f = .configuration e ∧ e.errorClass = .configuration ∧ e.code = "SETTINGS_INIT_ERROR") ∧ v = w) := by
  rcases read_cases h with ⟨hwrong, cause, hread⟩ | ⟨hreadable, s, hs, hread⟩
  · obtain ⟨e, he, hclass, hcode⟩ := exists_initError cause
    have hfails : settings.perform w = (.error (.configuration e), w) := by
      rw [perform_settings_unread hnone, hread, he]
    have hnot : ¬∃ s v, settings.perform w = (.ok s, v) := by
      rintro ⟨s, v, hok⟩
      cases hfails.symm.trans hok
    refine ⟨fun s v => ⟨fun hok => absurd ⟨s, v, hok⟩ hnot, ?_⟩, fun s v hok => absurd ⟨s, v, hok⟩ hnot,
      ⟨fun _ => hwrong, fun _ => ⟨_, _, hfails⟩⟩, fun f v hf => ?_⟩
    · rintro ⟨hreadable, hs, -⟩
      have hinvalid := hwrong.resolve_left (not_not_intro hreadable)
      exact absurd hinvalid (exists_chosenFrom_iff.1 ⟨s, hs⟩)
    · cases hfails.symm.trans hf
      exact ⟨⟨e, rfl, hclass, hcode⟩, rfl⟩
  · have hreads : settings.perform w = (.ok s, { w with settings := some s }) := by
      rw [perform_settings_unread hnone, hread]
    have hnot : ¬∃ f v, settings.perform w = (.error f, v) := by
      rintro ⟨f, v, hf⟩
      cases hreads.symm.trans hf
    refine ⟨fun s' v => ⟨fun hok => ?_, ?_⟩, fun s' v hok => ?_, ⟨fun hf => absurd hf hnot, ?_⟩,
      fun f v hf => absurd ⟨f, v, hf⟩ hnot⟩
    · cases hreads.symm.trans hok
      exact ⟨hreadable, hs, rfl⟩
    · rintro ⟨-, hs', rfl⟩
      rw [hreads, hs.unique hs']
    · cases hreads.symm.trans hok
      rfl
    · rintro (hunreadable | hinvalid)
      · exact absurd hreadable hunreadable
      · exact absurd hinvalid (exists_chosenFrom_iff.1 ⟨s, hs⟩)

/-- A file of variables that asks for all lines. -/
def verboseFile : String := "NETLOG_LOG_LEVEL=DEBUG\n"

/-- Its bytes. -/
def verboseBytes : List UInt8 :=
  [78, 69, 84, 76, 79, 71, 95, 76, 79, 71, 95, 76, 69, 86, 69, 76, 61, 68, 69, 66, 85, 71, 10]

/-- A result that is there is one that did not fail. -/
theorem eq_ok_of_toOption {ε α : Type} {r : Except ε α} {a : α} (h : r.toOption = some a) : r = .ok a := by
  cases r with
  | error e => cases h
  | ok b => exact congrArg Except.ok (Option.some.inj h)

theorem decode_verboseBytes : Utf8.decode verboseBytes = .ok verboseFile :=
  eq_ok_of_toOption (by decide +kernel)

/-- An application with that file and some variables in its environment. -/
def beside (environment : List (String × String)) : World := { environment, files := [(".env", verboseBytes)] }

theorem readable_beside (environment : List (String × String)) : Readable (beside environment).files := by
  intro bytes hbytes
  obtain rfl : verboseBytes = bytes := Option.some.inj hbytes
  exact ⟨verboseFile, decode_verboseBytes⟩

/-- The file has no variable that is named like a group. -/
theorem ungrouped_beside {environment : List (String × String)}
    (hunset : ∀ g ∈ [loggingGroup, networkGroup], inForce? environment g.name = none)
    (hunfiled : ∀ e ∈ DotEnv.bindings environment verboseFile,
      Text.lower e.1 ∉ [loggingGroup.name, networkGroup.name]) :
    Ungrouped environment (beside environment).files := by
  refine ⟨hunset, fun bytes text hbytes htext => ?_⟩
  obtain rfl : verboseBytes = bytes := Option.some.inj hbytes
  obtain rfl := Except.ok.inj (decode_verboseBytes.symm.trans htext)
  exact hunfiled

/-- A variable of the environment counts, and one of the file does not. -/
theorem settings_iff_disabled :
    let w := beside [("Netlog_Network_Enabled", "off")]
    w.settings = none ∧ Ungrouped w.environment w.files ∧
    ∃ s v, settings.perform w = (.ok s, v) ∧ s.network.enabled = false ∧ s.logging.level = "INFO" := by
  intro w
  have hungrouped : Ungrouped w.environment w.files := ungrouped_beside (by decide +kernel) (by decide +kernel)
  obtain ⟨hreads, -, hfails, -⟩ := settings_iff rfl hungrouped
  have hchosen : ChosenFrom w.environment { network := { enabled := false } } := by
    constructor <;> decide +kernel
  exact ⟨rfl, hungrouped, _, _, (hreads _ _).2 ⟨readable_beside _, hchosen, rfl⟩, rfl, rfl⟩

/-- **The file of variables does not set the level**, although it holds the variable with a level, and the environment
holds no variable at all. -/
theorem not_settings_from_file :
    let w := beside []
    Ungrouped w.environment w.files ∧ DotEnv.bindings w.environment verboseFile = [("NETLOG_LOG_LEVEL", some "DEBUG")] ∧
    logLevel.meaning "DEBUG" = some "DEBUG" ∧ (settings.perform w).1 = .ok {} ∧
    ({} : Settings).logging.level = "INFO" := by
  intro w
  have hungrouped : Ungrouped w.environment w.files := ungrouped_beside (by decide +kernel) (by decide +kernel)
  have hread : read w.environment w.files = .ok {} := eq_ok_of_toOption (by decide +kernel)
  refine ⟨hungrouped, by decide +kernel, by decide +kernel, ?_, rfl⟩
  rw [perform_settings_unread rfl, hread]

end Act

end ActivityLog
