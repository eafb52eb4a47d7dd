import PostgresqlK8s.Config.Parameters
import Mathlib.Data.List.Pairwise

/-!
# Config.ParameterNames

The names of the options and of the parameters.  No two options are written as
one parameter, but for `logging_track_functions` and `optimizer_track_functions`.
-/

namespace PostgresqlK8s.Config

/-! ## the names after the prefix -/

/-- The options that are parameters: the prefixes, and the names after them. -/
def parameterTable : List (String × List String) :=
  [("connection", ["authentication_timeout", "statement_timeout"]),
    ("cpu", ["max_logical_replication_workers", "max_parallel_maintenance_workers",
      "max_parallel_workers", "max_sync_workers_per_subscription", "max_worker_processes",
      "parallel_leader_participation", "wal_compression"]),
    ("durability", ["maximum_lag_on_failover", "synchronous_commit", "wal_keep_size"]),
    ("instance", ["default_text_search_config", "max_locks_per_transaction",
      "password_encryption", "synchronize_seqscans"]),
    ("logging", ["client_min_messages", "log_connections", "log_disconnections",
      "log_lock_waits", "log_min_duration_statement", "track_functions"]),
    ("memory", ["maintenance_work_mem", "max_prepared_transactions", "shared_buffers",
      "temp_buffers", "work_mem"]),
    ("optimizer", ["constraint_exclusion", "cpu_index_tuple_cost", "cpu_operator_cost",
      "cpu_tuple_cost", "cursor_tuple_fraction", "default_statistics_target",
      "enable_async_append", "enable_bitmapscan", "enable_gathermerge", "enable_hashagg",
      "enable_hashjoin", "enable_incremental_sort", "enable_indexonlyscan",
      "enable_indexscan", "enable_material", "enable_memoize", "enable_mergejoin",
      "enable_nestloop", "enable_parallel_append", "enable_parallel_hash",
      "enable_partition_pruning", "enable_partitionwise_aggregate",
      "enable_partitionwise_join", "enable_seqscan", "enable_sort", "enable_tidscan",
      "from_collapse_limit", "geqo", "geqo_effort", "geqo_generations", "geqo_pool_size",
      "geqo_seed", "geqo_selection_bias", "geqo_threshold", "jit", "jit_above_cost",
      "jit_inline_above_cost", "jit_optimize_above_cost", "join_collapse_limit",
      "min_parallel_index_scan_size", "min_parallel_table_scan_size", "parallel_setup_cost",
      "parallel_tuple_cost", "pg_stat_statements_track", "pg_stat_statements_track_utility",
      "pg_stat_statements_save", "track_io_timing", "track_wal_io_timing", "track_functions"]),
    ("request", ["array_nulls", "backslash_quote", "date_style", "deadlock_timeout",
      "default_transaction_deferrable", "default_transaction_isolation",
      "default_transaction_read_only", "escape_string_warning", "lock_timeout",
      "standard_conforming_strings", "time_zone", "track_activity_query_size",
      "transform_null_equals", "xmlbinary", "xmloption"]),
    ("response", ["bytea_output", "exit_on_error", "extra_float_digits",
      "gin_fuzzy_search_limit", "lc_monetary", "lc_numeric", "lc_time"]),
    ("session", ["idle_in_transaction_session_timeout"]),
    ("storage", ["bgwriter_lru_maxpages", "bgwriter_lru_multiplier",
      "default_table_access_method", "gin_pending_list_limit", "hot_standby_feedback",
      "old_snapshot_threshold"]),
    ("vacuum", ["autovacuum_analyze_scale_factor", "autovacuum_analyze_threshold",
      "autovacuum_freeze_max_age", "autovacuum_naptime", "autovacuum_vacuum_cost_delay",
      "autovacuum_vacuum_cost_limit", "autovacuum_vacuum_insert_scale_factor",
      "autovacuum_vacuum_insert_threshold", "autovacuum_vacuum_scale_factor",
      "autovacuum_vacuum_threshold", "vacuum_cost_delay", "vacuum_cost_limit",
      "vacuum_cost_page_dirty", "vacuum_cost_page_hit", "vacuum_cost_page_miss",
      "vacuum_failsafe_age", "vacuum_freeze_min_age", "vacuum_freeze_table_age",
      "vacuum_multixact_failsafe_age", "vacuum_multixact_freeze_min_age",
      "vacuum_multixact_freeze_table_age"])]

/-- The other options, without `profile`. -/
def otherTable : List (String × List String) :=
  [("synchronous", ["node_count", "mode_strict"]),
    ("experimental", ["max_connections"]),
    ("ldap", ["map", "search_filter"]),
    ("plugin", ["address_standardizer_data_us_enable", "address_standardizer_enable",
      "audit_enable", "bloom_enable", "bool_plperl_enable", "btree_gin_enable",
      "btree_gist_enable", "citext_enable", "cube_enable", "debversion_enable",
      "dict_int_enable", "dict_xsyn_enable", "earthdistance_enable", "fuzzystrmatch_enable",
      "hll_enable", "hstore_enable", "hypopg_enable", "icu_ext_enable", "intarray_enable",
      "ip4r_enable", "isn_enable", "jsonb_plperl_enable", "lo_enable", "ltree_enable",
      "old_snapshot_enable", "orafce_enable", "pg_freespacemap_enable",
      "pg_similarity_enable", "pg_trgm_enable", "pg_visibility_enable", "pgrowlocks_enable",
      "pgstattuple_enable", "pg_stat_statements_enable", "plperl_enable", "plpython3u_enable",
      "pltcl_enable", "postgis_enable", "postgis_raster_enable",
      "postgis_tiger_geocoder_enable", "postgis_topology_enable", "prefix_enable",
      "rdkit_enable", "seg_enable", "spi_enable", "tablefunc_enable", "tcn_enable",
      "tds_fdw_enable", "timescaledb_enable", "tsm_system_rows_enable",
      "tsm_system_time_enable", "unaccent_enable", "uuid_ossp_enable", "vector_enable"])]

/-- The name of an option. -/
def optionName (group name : String) : String := group ++ "_" ++ name

/-- The options of a table. -/
def optionNames (table : List (String × List String)) : List String :=
  table.flatMap fun group => group.2.map (optionName group.1)

/-- The fields of the options that are parameters. -/
def parameterFields : List Field :=
  connectionFields ++ cpuFields ++ durabilityFields ++ instanceFields ++ loggingFields ++
    memoryFields ++ optimizerFields ++ requestFields ++ responseFields ++ sessionFields ++
    storageFields ++ vacuumFields

/-- The fields of the others. -/
def otherFields : List Field :=
  synchronousFields ++ experimentalFields ++ ldapFields ++ pluginFields ++ profileFields

/-- The fields that are parameters are the options of the table. -/
theorem names_parameterFields : parameterFields.map (·.name) = optionNames parameterTable := by
  rfl

/-- The other fields are the options of the other groups, and those of the profile. -/
theorem names_otherFields :
    otherFields.map (·.name) = optionNames otherTable ++ ["profile", "profile_limit_memory"] := by
  rfl

/-! ## the parameter of an option -/

/-- A word without underscores begins an option exactly when it begins the group. -/
theorem startsWith_append_iff {word start : String} (hstart : '_' ∉ start.toList) (name : String) :
    startsWith (optionName word name) start = startsWith word start := by
  have hname : (optionName word name).toList = word.toList ++ '_' :: name.toList := by
    simp [optionName]
  rw [startsWith, startsWith, hname]
  refine decide_eq_decide.mpr ⟨fun h => ?_, fun h => h.trans (List.prefix_append _ _)⟩
  rcases List.prefix_or_prefix_of_prefix h (List.prefix_append word.toList _) with hle | hge
  · exact hle
  · obtain ⟨rest, hrest⟩ := hge
    rw [← hrest, List.prefix_append_right_inj] at h
    cases rest with
    | nil => simp [← hrest]
    | cons c rest =>
        rw [List.cons_prefix_cons] at h
        simp [← hrest, h.1] at hstart

/-- The first part of an option is its group. -/
theorem split_optionName {word : String} (hword : '_' ∉ word.toList) (name : String) :
    Text.split '_' (optionName word name) = word :: Text.split '_' name := by
  have hname : (optionName word name).toList = word.toList ++ '_' :: name.toList := by
    simp [optionName]
  rw [Text.split, Text.split, hname, List.splitOn_append_cons_self_of_not_mem hword, List.map_cons,
    String.ofList_toList]

theorem underscore_not_mem_of_mem_prefixes : ∀ start ∈ parameterPrefixes, '_' ∉ start.toList := by
  simp [parameterPrefixes]

/-- Only the first word decides whether an option is a parameter. -/
theorem any_startsWith_optionName (group name : String) :
    parameterPrefixes.any (startsWith (optionName group name)) =
      parameterPrefixes.any (startsWith group) := by
  rw [Bool.eq_iff_iff, List.any_eq_true, List.any_eq_true]
  refine exists_congr fun start => and_congr_right fun hstart => ?_
  rw [startsWith_append_iff (underscore_not_mem_of_mem_prefixes start hstart)]

/-- The groups of the table are parameter groups. -/
theorem parameterTable_groups : ∀ group ∈ parameterTable.map Prod.fst,
    '_' ∉ group.toList ∧ parameterPrefixes.any (startsWith group) = true := by
  decide

/-- The other groups are not. -/
theorem otherTable_groups : ∀ group ∈ otherTable.map Prod.fst,
    parameterPrefixes.any (startsWith group) = false := by
  decide

theorem any_startsWith_profile : ∀ key ∈ ["profile", "profile_limit_memory"],
    parameterPrefixes.any (startsWith key) = false := by
  decide

/-- No field of another group is taken for a parameter. -/
theorem any_startsWith_of_mem_otherFields {field : Field} (h : field ∈ otherFields) :
    parameterPrefixes.any (startsWith field.name) = false := by
  have hname : field.name ∈ optionNames otherTable ++ ["profile", "profile_limit_memory"] :=
    names_otherFields ▸ List.mem_map_of_mem h
  rcases List.mem_append.mp hname with htable | hprofile
  · obtain ⟨group, hgroup, hname⟩ := List.mem_flatMap.mp htable
    obtain ⟨name, -, hname⟩ := List.mem_map.mp hname
    rw [← hname, any_startsWith_optionName,
      otherTable_groups group.1 (List.mem_map_of_mem hgroup)]
  · exact any_startsWith_profile _ hprofile

/-- The rest of the name decides which parameter it is. -/
theorem parameterOf_optionName {group : String} (hgroup : group ∈ parameterTable.map Prod.fst)
    (name : String) : parameterOf (optionName group name) = renamed name := by
  obtain ⟨hword, hstarts⟩ := parameterTable_groups group hgroup
  rw [parameterOf, any_startsWith_optionName, if_pos hstarts, split_optionName hword,
    List.tail_cons, Text.join_split]

/-- An option with a prefix is in the table. -/
theorem exists_optionName {key : String} (hkey : key ∈ keys)
    (hstarts : parameterPrefixes.any (startsWith key) = true) :
    ∃ group ∈ parameterTable, ∃ name ∈ group.2, key = optionName group.1 name := by
  obtain ⟨field, hfield, rfl⟩ := List.mem_map.mp hkey
  have hsides : field ∈ parameterFields ∨ field ∈ otherFields := by
    simp only [fields, parameterFields, otherFields, List.mem_append] at hfield ⊢
    grind
  rcases hsides with hparameter | hother
  · have hname : field.name ∈ optionNames parameterTable :=
      names_parameterFields ▸ List.mem_map_of_mem hparameter
    obtain ⟨group, hgroup, hname⟩ := List.mem_flatMap.mp hname
    obtain ⟨name, hmem, hname⟩ := List.mem_map.mp hname
    exact ⟨group, hgroup, name, hmem, hname.symm⟩
  · rw [any_startsWith_of_mem_otherFields hother] at hstarts
    cases hstarts

/-! ## the options of one parameter -/

/-- The names that do not stay as they are. -/
def renames : List (String × Option String) :=
  [("date_style", some "DateStyle"), ("time_zone", some "TimeZone"),
    ("maximum_lag_on_failover", none),
    ("pg_stat_statements_track", some "pg_stat_statements.track"),
    ("pg_stat_statements_track_utility", some "pg_stat_statements.track_utility"),
    ("pg_stat_statements_save", some "pg_stat_statements.save")]

/-- The parameter of a name of the table. -/
def tableParameter (name : String) : Option String := (renames.lookup name).getD (some name)

/-- The names of the table. -/
def tableNames : List String := parameterTable.flatMap Prod.snd

/-- The code renames as the table does, where the table renames. -/
theorem renamed_renames : ∀ rename ∈ renames, renamed rename.1 = rename.2 := by
  decide

theorem startsWith_ofList (text start : List Char) :
    startsWith (String.ofList text) (String.ofList start) = decide (start <+: text) := by
  rw [startsWith, String.toList_ofList, String.toList_ofList]

theorem not_startsWith_ofList {text start : List Char} (h : ¬ start <+: text) {p : Prop} :
    startsWith (String.ofList text) (String.ofList start) = true → p := by
  rw [startsWith_ofList, decide_eq_true_iff]
  exact fun hstart => absurd hstart h

/-- The parameters of an extension are all in the table of renames. -/
theorem mem_renames_of_startsWith : ∀ name ∈ tableNames,
    startsWith name "pg_stat_statements" = true → name ∈ renames.map Prod.fst := by
  simp only [tableNames, parameterTable, List.flatMap_cons, List.flatMap_nil, List.append_nil,
    List.cons_append, List.nil_append, List.forall_mem_cons]
  and_intros
  all_goals first
    | exact not_startsWith_ofList (by decide)
    | exact fun _ => by decide
    | exact fun _ h => absurd h List.not_mem_nil

/-- The parameter of a renamed option. -/
theorem tableParameter_renames : ∀ rename ∈ renames, tableParameter rename.1 = rename.2 := by
  decide

/-- **Renaming**: the code's renaming of an option is the table's. -/
theorem renamed_eq_tableParameter {name : String} (h : name ∈ tableNames) :
    renamed name = tableParameter name := by
  by_cases hrename : name ∈ renames.map Prod.fst
  · obtain ⟨rename, hmem, rfl⟩ := List.mem_map.mp hrename
    rw [renamed_renames rename hmem, tableParameter_renames rename hmem]
  · have hstart : ¬ startsWith name "pg_stat_statements" = true :=
      fun hstart => hrename (mem_renames_of_startsWith name h hstart)
    have hlookup : renames.lookup name = none := by
      rw [List.lookup_eq_none_iff]
      intro rename hmem
      rw [bne_iff_ne]
      rintro rfl
      exact hrename (List.mem_map_of_mem hmem)
    simp only [renames, List.map_cons, List.mem_cons, not_or] at hrename
    obtain ⟨hdate, htime, hlag, -⟩ := hrename
    rw [renamed, tableParameter, hlookup, if_neg (not_or.mpr ⟨hdate, htime⟩), if_neg hstart,
      if_neg hlag, Option.getD_none]

/-- The names of the table come to parameters of their own, but for one. -/
theorem pairwise_tableParameter : (tableNames.filterMap tableParameter).Pairwise
    fun p p' => p = p' → p = "track_functions" := by
  decide +kernel

/-- The names of the table, with their prefixes. -/
def tablePairs : List (String × String) :=
  parameterTable.flatMap fun group => group.2.map fun name => (group.1, name)

theorem mem_tablePairs {group : String × List String} {name : String}
    (hgroup : group ∈ parameterTable) (hname : name ∈ group.2) : (group.1, name) ∈ tablePairs :=
  List.mem_flatMap.mpr ⟨group, hgroup, List.mem_map_of_mem hname⟩

/-- Both names come to a parameter only if it is `track_functions`. -/
def ShareTrackFunctions (pair pair' : String × String) : Prop :=
  ∀ parameter, tableParameter pair.2 = some parameter → tableParameter pair'.2 = some parameter →
    parameter = "track_functions"

instance : Std.Symm ShareTrackFunctions where
  symm _ _ h parameter hpair hpair' := h parameter hpair' hpair

/-- No two options come to one parameter, but for `track_functions`. -/
theorem pairwise_tablePairs : tablePairs.Pairwise ShareTrackFunctions := by
  have hnames : tablePairs.map Prod.snd = tableNames := by
    simp [tablePairs, tableNames, List.map_flatMap, Function.comp_def]
  have hpairwise := pairwise_tableParameter
  rw [← hnames, List.pairwise_filterMap, List.pairwise_map] at hpairwise
  exact hpairwise.imp fun h parameter hpair hpair' => h parameter hpair parameter hpair' rfl

/-- An option with a prefix, as the table has it. -/
theorem exists_tablePair {key : String} (hkey : key ∈ keys)
    (hstarts : parameterPrefixes.any (startsWith key) = true) : ∃ pair ∈ tablePairs,
      key = optionName pair.1 pair.2 ∧ parameterOf key = tableParameter pair.2 := by
  obtain ⟨group, hgroup, name, hname, rfl⟩ := exists_optionName hkey hstarts
  refine ⟨(group.1, name), mem_tablePairs hgroup hname, rfl, ?_⟩
  rw [parameterOf_optionName (List.mem_map_of_mem hgroup),
    renamed_eq_tableParameter (List.mem_flatMap.mpr ⟨group, hgroup, hname⟩)]

/-- The name that PostgreSQL has for what an option sets, by the table. -/
def postgresqlName (key : String) : Option String :=
  (tablePairs.find? fun pair => optionName pair.1 pair.2 = key).bind fun pair =>
    tableParameter pair.2

/-- **Every option is written under the name of PostgreSQL.** -/
theorem parameterOf_eq_postgresqlName {key : String} (hkey : key ∈ keys)
    (hstarts : parameterPrefixes.any (startsWith key) = true) :
    parameterOf key = postgresqlName key := by
  obtain ⟨pair, hpair, heq, -⟩ := exists_tablePair hkey hstarts
  rw [postgresqlName]
  cases hfind : tablePairs.find? fun pair => optionName pair.1 pair.2 = key with
  | none =>
      have hne := List.find?_eq_none.mp hfind pair hpair
      simp [heq] at hne
  | some pair' =>
      have hkey' : optionName pair'.1 pair'.2 = key := by simpa using List.find?_some hfind
      obtain ⟨group, hgroup, hname⟩ := List.mem_flatMap.mp (List.mem_of_find?_eq_some hfind)
      obtain ⟨name, hmem, rfl⟩ := List.mem_map.mp hname
      rw [← hkey', parameterOf_optionName (List.mem_map_of_mem hgroup), Option.bind_some,
        renamed_eq_tableParameter (List.mem_flatMap.mpr ⟨group, hgroup, hmem⟩)]

/-- Only the options of parameter groups come to a parameter. -/
theorem any_startsWith_of_parameterOf {key parameter : String}
    (h : parameterOf key = some parameter) : parameterPrefixes.any (startsWith key) = true := by
  rw [parameterOf] at h
  split at h
  · assumption
  · cases h

/-- An option that is a parameter, as the table has it. -/
theorem exists_tablePair_of_parameterOf {key parameter : String} (hkey : key ∈ keys)
    (h : parameterOf key = some parameter) : ∃ pair ∈ tablePairs,
      key = optionName pair.1 pair.2 ∧ tableParameter pair.2 = some parameter := by
  obtain ⟨pair, hpair, heq, hparameter⟩ := exists_tablePair hkey (any_startsWith_of_parameterOf h)
  exact ⟨pair, hpair, heq, hparameter ▸ h⟩

/-- Two options that are written as one parameter set `track_functions`. -/
theorem eq_or_trackFunctions_of_parameterOf {key key' parameter : String} (hkey : key ∈ keys)
    (hkey' : key' ∈ keys) (h : parameterOf key = some parameter)
    (h' : parameterOf key' = some parameter) : key = key' ∨ parameter = "track_functions" := by
  obtain ⟨pair, hpair, rfl, hparameter⟩ := exists_tablePair_of_parameterOf hkey h
  obtain ⟨pair', hpair', rfl, hparameter'⟩ := exists_tablePair_of_parameterOf hkey' h'
  by_cases heq : pair = pair'
  · exact .inl (heq ▸ rfl)
  · exact .inr (pairwise_tablePairs.forall hpair hpair' heq parameter hparameter hparameter')

/-- Two options come to `track_functions`. -/
theorem tablePairs_trackFunctions : ∀ pair ∈ tablePairs,
    tableParameter pair.2 = some "track_functions" →
      optionName pair.1 pair.2 = "logging_track_functions" ∨
        optionName pair.1 pair.2 = "optimizer_track_functions" := by
  decide +kernel

/-- The same for the keys of a configuration. -/
theorem eq_of_parameterOf_trackFunctions {key : String} (hkey : key ∈ keys)
    (h : parameterOf key = some "track_functions") :
    key = "logging_track_functions" ∨ key = "optimizer_track_functions" := by
  obtain ⟨pair, hpair, rfl, hparameter⟩ := exists_tablePair_of_parameterOf hkey h
  exact tablePairs_trackFunctions pair hpair hparameter

theorem parameterOf_trackFunctions :
    parameterOf "logging_track_functions" = some "track_functions" ∧
      parameterOf "optimizer_track_functions" = some "track_functions" := by
  decide

end PostgresqlK8s.Config
