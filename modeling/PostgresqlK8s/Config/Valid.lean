import PostgresqlK8s.Config.ParameterNames

/-!
# Config.Valid

The configurations that no extension is enabled in.  They are given by the other
options, and are valid when these have values that their fields accept.
-/

namespace PostgresqlK8s.Config

/-! ## the fields -/

/-- The fields of the options that do not enable an extension. -/
def plainFields : List Field :=
  parameterFields ++ synchronousFields ++ experimentalFields ++ ldapFields ++ profileFields

theorem mem_fields_iff {field : Field} :
    field ∈ fields ↔ field ∈ plainFields ∨ field ∈ pluginFields := by
  simp only [fields, plainFields, parameterFields, List.mem_append]
  grind

/-- The keys of the plugins are the names of the options of the group `plugin`. -/
theorem pluginKeys_eq :
    Extensions.pluginKeys = ((otherTable.lookup "plugin").getD []).map (optionName "plugin") := by
  rfl

/-- Different fields of a group have different names. -/
theorem optionName_injective (group : String) : Function.Injective (optionName group) := by
  intro name name' h
  have hlist := congrArg String.toList h
  exact String.toList_inj.mp (by simpa [optionName] using hlist)

theorem nodup_pluginKeys : Extensions.pluginKeys.Nodup := by
  rw [pluginKeys_eq]
  exact List.Nodup.map (optionName_injective "plugin") (by decide)

/-- Every plugin key starts with `plugin`. -/
theorem startsWith_of_mem_pluginKeys {key : String} (h : key ∈ Extensions.pluginKeys) :
    startsWith key "plugin" = true := by
  rw [pluginKeys_eq] at h
  obtain ⟨name, -, rfl⟩ := List.mem_map.mp h
  rw [startsWith_append_iff (by decide)]
  decide

/-- No group of the parameter table starts like the plugins. -/
theorem startsWith_parameterTable : ∀ group ∈ parameterTable.map Prod.fst,
    startsWith group "plugin" = false := by
  decide

/-- Nor does the name of an option that belongs to no group. -/
theorem startsWith_unprefixed : ∀ field ∈ synchronousFields ++ experimentalFields ++ ldapFields ++
    profileFields, startsWith field.name "plugin" = false := by
  decide

/-- The name of a plain field is no plugin key. -/
theorem not_mem_pluginKeys {field : Field} (h : field ∈ plainFields) :
    field.name ∉ Extensions.pluginKeys := by
  intro hplugin
  have hstart := startsWith_of_mem_pluginKeys hplugin
  simp only [plainFields, List.append_assoc] at h
  rcases List.mem_append.mp h with hparameter | hother
  · have hname : field.name ∈ optionNames parameterTable :=
      names_parameterFields ▸ List.mem_map_of_mem hparameter
    obtain ⟨group, hgroup, hname⟩ := List.mem_flatMap.mp hname
    obtain ⟨name, -, hname⟩ := List.mem_map.mp hname
    rw [← hname, startsWith_append_iff (by decide),
      startsWith_parameterTable group.1 (List.mem_map_of_mem hgroup)] at hstart
    cases hstart
  · rw [startsWith_unprefixed field (by simpa using hother)] at hstart
    cases hstart

/-- What the model accepts is of the type that Juju declares for the option. -/
theorem hasJujuType_of_accepts {type : FieldType} {value : Value} (h : type.accepts value = true) :
    type.HasJujuType value := by
  cases type <;> cases value <;> trivial

/-! ## the configurations -/

/-- The check of a field, against a list of options. -/
def Field.passes (options : List (String × Value)) (field : Field) : Bool :=
  match (options.find? fun option => option.1 = field.name).map Prod.snd with
  | none => !field.required
  | some value => field.type.accepts value

/-- The options that do not enable an extension, with values that are accepted. -/
structure PlainOptions where
  options : List (String × Value)
  nodup : (options.map Prod.fst).Nodup
  accepted : ∀ option ∈ options, ∃ field ∈ plainFields,
    field.name = option.1 ∧ field.type.accepts option.2 = true
  passes : ∀ field ∈ plainFields, field.passes options = true

def disabledPlugins : List (String × Value) :=
  Extensions.pluginKeys.map fun key => (key, .bool false)

/-- The disabled plugins are all of them. -/
theorem keys_disabledPlugins : disabledPlugins.map Prod.fst = Extensions.pluginKeys := by
  simp [disabledPlugins, Function.comp_def]

namespace PlainOptions

variable (plain : PlainOptions)

/-- The configuration, in which every extension is disabled. -/
def config : ModelConfig where
  options.entries := plain.options ++ disabledPlugins
  options.nodup := by
    rw [List.map_append, keys_disabledPlugins]
    refine plain.nodup.append nodup_pluginKeys fun key hkey hplugin => ?_
    obtain ⟨option, hoption, rfl⟩ := List.mem_map.mp hkey
    obtain ⟨field, hfield, hname, -⟩ := plain.accepted option hoption
    exact not_mem_pluginKeys hfield (hname ▸ hplugin)
  hasJujuType := by
    intro option hoption
    rcases List.mem_append.mp hoption with hplain | hplugin
    · obtain ⟨field, hfield, hname, haccepts⟩ := plain.accepted option hplain
      exact ⟨field, mem_fields_iff.mpr (.inl hfield), hname, hasJujuType_of_accepts haccepts⟩
    · obtain ⟨key, hkey, rfl⟩ := List.mem_map.mp hplugin
      exact ⟨required key .bool, mem_fields_iff.mpr (.inr (List.mem_map_of_mem hkey)), rfl, trivial⟩

/-- Apart from the plugins, the configuration has the given options. -/
theorem get?_config {key : String} (h : key ∉ Extensions.pluginKeys) :
    plain.config.options.get? key =
      (plain.options.find? fun option => option.1 = key).map Prod.snd := by
  have hnone : disabledPlugins.find? (fun option => option.1 = key) = none := by
    rw [List.find?_eq_none]
    intro option hoption hkey
    obtain ⟨plugin, hplugin, rfl⟩ := List.mem_map.mp hoption
    exact h (of_decide_eq_true hkey ▸ hplugin)
  rw [Dict.get?, config, List.find?_append, hnone, Option.or_none]

/-- An option of another group is read from the given options. -/
theorem get?_config_of_startsWith {key : String} (h : startsWith key "plugin" = false) :
    plain.config.options.get? key =
      (plain.options.find? fun option => option.1 = key).map Prod.snd := by
  refine plain.get?_config fun hplugin => ?_
  rw [startsWith_of_mem_pluginKeys hplugin] at h
  cases h

/-- The model finds no fault with the configuration. -/
theorem validationErrors_config : validationErrors plain.config = [] := by
  refine List.filterMap_eq_nil_iff.mpr fun field hfield => ?_
  rcases mem_fields_iff.mp hfield with hplain | hplugin
  · have hpasses := plain.passes field hplain
    rw [Field.passes] at hpasses
    rw [Field.check, plain.get?_config (not_mem_pluginKeys hplain)]
    cases hvalue : (plain.options.find? fun option => option.1 = field.name).map Prod.snd with
    | none =>
        rw [hvalue] at hpasses
        simpa using hpasses
    | some value =>
        rw [hvalue] at hpasses
        exact if_pos hpasses
  · obtain ⟨key, hkey, rfl⟩ := List.mem_map.mp hplugin
    have hvalue : plain.config.options.get? key = some (.bool false) :=
      (Dict.get?_eq_some_iff _).mpr
        (List.mem_append_right plain.options (List.mem_map_of_mem hkey))
    simp [Field.check, required, hvalue, FieldType.accepts]

end PlainOptions

/-- Shared buffers of eight gigabytes, and two values for `track_functions`. -/
def largeBuffers : PlainOptions where
  options :=
    [("synchronous_node_count", .str "all"),
      ("instance_default_text_search_config", .str "pg_catalog.simple"),
      ("logging_track_functions", .str "all"),
      ("memory_shared_buffers", .int 1000000),
      ("optimizer_pg_stat_statements_track", .str "top"),
      ("optimizer_pg_stat_statements_track_utility", .bool true),
      ("optimizer_pg_stat_statements_save", .bool true),
      ("optimizer_track_io_timing", .bool false),
      ("optimizer_track_wal_io_timing", .bool false),
      ("optimizer_track_functions", .str "none"),
      ("profile", .str "production"),
      ("request_date_style", .str "ISO, MDY"),
      ("request_time_zone", .str "UTC"),
      ("storage_default_table_access_method", .str "heap")]
  nodup := by decide
  accepted := by decide +kernel
  passes := by decide +kernel

end PostgresqlK8s.Config
