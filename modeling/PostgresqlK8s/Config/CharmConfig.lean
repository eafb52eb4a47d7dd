import PostgresqlK8s.Extensions.PluginConfig
import PostgresqlK8s.Lib.Dict
import PostgresqlK8s.Lib.IntText
import Mathlib.Data.Rat.Defs

/-!
# Config.CharmConfig

The options of the charm, and what their values have to be.  Juju gives every
value the type that is declared for the option; the validation checks that a text
is one of those that are allowed, and reads the number that some options hold as a
text.  The ranges of the numbers are declared, but not checked
(`accepts_of_not_inBounds`).
-/

namespace PostgresqlK8s.Config

/-! ## values and types -/

/-- The value of an option. -/
inductive Value
  | int (n : Int)
  | str (s : String)
  | bool (b : Bool)
  | float (q : ℚ)
deriving DecidableEq, Repr

/-- The type of a field.  An `Annotated` type is a member of a union with `None`, and
there pydantic 1 takes the type without its bounds. -/
inductive FieldType
  | bool
  | str
  /-- One of some texts: a `Literal`, or a validator with its message. -/
  | values (allowed : List String) (message : Option String)
  | int
  | nonNegativeInt
  | annotatedInt (ge le : Int)
  | annotatedFloat (ge : ℚ) (le : Option ℚ)
  /-- A literal, or the text of a positive number. -/
  | literalOrPositiveInt (literals : List String)
  /-- A literal, or the text of a number. -/
  | literalOrAnnotatedInt (literals : List String) (ge : Int)
deriving Repr

namespace FieldType

/-- The value has the type that Juju gives it. -/
def HasJujuType : FieldType → Value → Prop
  | .bool, .bool _ => True
  | .str, .str _ | .values _ _, .str _ => True
  | .literalOrPositiveInt _, .str _ | .literalOrAnnotatedInt _ _, .str _ => True
  | .int, .int _ | .nonNegativeInt, .int _ | .annotatedInt _ _, .int _ => True
  | .annotatedFloat _ _, .float _ => True
  | _, _ => False

/-- The value passes the validation. -/
def accepts : FieldType → Value → Bool
  | .bool, .bool _ => true
  | .str, .str _ => true
  | .values allowed _, .str s => allowed.contains s
  | .int, .int _ => true
  | .nonNegativeInt, .int n => 0 ≤ n
  | .annotatedInt _ _, .int _ => true
  | .annotatedFloat _ _, .float _ => true
  | .literalOrPositiveInt literals, .str s =>
      literals.contains s || (IntText.readInt s).any (1 ≤ ·)
  | .literalOrAnnotatedInt literals _, .str s =>
      literals.contains s || (IntText.readInt s).isSome
  | _, _ => false

/-- The bounds of an `Annotated` type, where it has any. -/
def InBounds : FieldType → Value → Prop
  | .annotatedInt ge le, .int n => ge ≤ n ∧ n ≤ le
  | .annotatedFloat ge le, .float q => ge ≤ q ∧ ∀ bound, le = some bound → q ≤ bound
  | .literalOrAnnotatedInt _ ge, .str s => ∀ n, IntText.readInt s = some n → ge ≤ n
  | _, _ => True

/-- **No bound is checked**: a value that is out of the bounds of its type passes. -/
theorem accepts_of_not_inBounds {type : FieldType} {value : Value} (h : type.HasJujuType value)
    (hout : ¬ type.InBounds value) : type.accepts value = true := by
  cases type with
  | annotatedInt ge le => cases value <;> first | rfl | cases h
  | annotatedFloat ge le => cases value <;> first | rfl | cases h
  | literalOrAnnotatedInt literals ge =>
      cases value with
      | str s =>
          simp only [InBounds, not_forall] at hout
          obtain ⟨n, hn, -⟩ := hout
          simp [accepts, hn]
      | int _ | bool _ | float _ => cases h
  | bool | str | values _ _ | int | nonNegativeInt | literalOrPositiveInt _ =>
      cases value <;> exact absurd trivial hout

/-- The message of the validator. -/
def message : FieldType → Option String
  | .values _ message => message
  | _ => none

end FieldType

-- The ranges of PostgreSQL; as a float, 1.80e308 is infinite.
def pgIntMax : FieldType := .annotatedInt 0 2147483647
def pgPositiveIntMax : FieldType := .annotatedInt 1 2147483647
def pgSignedIntMax : FieldType := .annotatedInt (-1) 2147483647
def percentFloat : FieldType := .annotatedFloat 0 (some 100)
def unitIntervalFloat : FieldType := .annotatedFloat 0 (some 1)
def pgHugeFloat : FieldType := .annotatedFloat 0 none
def pgSignedHugeFloat : FieldType := .annotatedFloat (-1) none
def authTimeoutInt : FieldType := .annotatedInt 1 600
def maxLocksPerTransactionInt : FieldType := .annotatedInt 64 2147483647
def maintenanceWorkMemInt : FieldType := .annotatedInt 1024 2147483647
def maxPreparedTransactionsInt : FieldType := .annotatedInt 0 262143
def sharedBuffersInt : FieldType := .annotatedInt 16 1073741823
def tempBuffersInt : FieldType := .annotatedInt 100 1073741823
def workMemInt : FieldType := .annotatedInt 64 2147483647
def statisticsTargetInt : FieldType := .annotatedInt 1 10000
def extraFloatDigitsInt : FieldType := .annotatedInt (-15) 3
def geqoEffortInt : FieldType := .annotatedInt 1 10
def geqoThresholdInt : FieldType := .annotatedInt 2 2147483647
def geqoSeedFloat : FieldType := .annotatedFloat 0 (some 1)
def geqoSelectionBiasFloat : FieldType := .annotatedFloat (3 / 2) (some 2)
def parallelScanSizeInt : FieldType := .annotatedInt 0 715827882
def oldSnapshotThresholdInt : FieldType := .annotatedInt (-1) 86400
def bgwriterLruMaxpagesInt : FieldType := .annotatedInt 0 1073741823
def bgwriterLruMultiplierFloat : FieldType := .annotatedFloat 0 (some 10)
def trackActivityQuerySizeInt : FieldType := .annotatedInt 100 1048576
def ginPendingListLimitInt : FieldType := .annotatedInt 64 2147483647
def autoVacuumCostDelayFloat : FieldType := .annotatedFloat (-1) (some 100)
def autoVacuumCostLimitInt : FieldType := .annotatedInt (-1) 10000
def vacuumCostDelayFloat : FieldType := .annotatedFloat 0 (some 100)
def vacuumCostLimitInt : FieldType := .annotatedInt 1 10000
def vacuumCostInt : FieldType := .annotatedInt 0 10000
def freezeMaxAgeInt : FieldType := .annotatedInt 100000 2000000000
def freezeTableAgeInt : FieldType := .annotatedInt 0 2000000000
def failsafeAgeInt : FieldType := .annotatedInt 0 2100000000
def freezeMinAgeInt : FieldType := .annotatedInt 0 1000000000
def autovacuumNapTimeInt : FieldType := .annotatedInt 1 2147483
def deadlockTimeoutInt : FieldType := .annotatedInt 1 2147483647
def profileLimitMemoryInt : FieldType := .annotatedInt 128 9999999

/-! ## the fields -/

structure Field where
  name : String
  type : FieldType
  /-- There is no default. -/
  required : Bool
deriving Repr

def required (name : String) (type : FieldType) : Field := ⟨name, type, true⟩

def optional (name : String) (type : FieldType) : Field := ⟨name, type, false⟩

/-- The options `synchronous_…`. -/
def synchronousFields : List Field :=
  [required "synchronous_node_count" (.literalOrPositiveInt ["all", "majority"]),
    optional "synchronous_mode_strict" .bool]

/-- The options `connection_…`. -/
def connectionFields : List Field :=
  [optional "connection_authentication_timeout" authTimeoutInt,
    optional "connection_statement_timeout" pgIntMax]

/-- The options `cpu_…`. -/
def cpuFields : List Field :=
  [optional "cpu_max_logical_replication_workers" (.literalOrAnnotatedInt ["auto"] 2),
    optional "cpu_max_parallel_maintenance_workers" (.literalOrAnnotatedInt ["auto"] 2),
    optional "cpu_max_parallel_workers" (.literalOrAnnotatedInt ["auto"] 2),
    optional "cpu_max_sync_workers_per_subscription" (.literalOrAnnotatedInt ["auto"] 2),
    optional "cpu_max_worker_processes" (.literalOrAnnotatedInt ["auto"] 2),
    optional "cpu_parallel_leader_participation" .bool,
    optional "cpu_wal_compression" .bool]

/-- The options `durability_…`. -/
def durabilityFields : List Field :=
  [optional "durability_maximum_lag_on_failover" .nonNegativeInt,
    optional "durability_synchronous_commit" (.values ["on", "remote_apply", "remote_write"] (some
      "Value not one of 'on', 'remote_apply' or 'remote_write'")),
    optional "durability_wal_keep_size" pgIntMax]

def experimentalFields : List Field :=
  [optional "experimental_max_connections" .int]

/-- The options `instance_…`. -/
def instanceFields : List Field :=
  [optional "instance_default_text_search_config" .str,
    optional "instance_max_locks_per_transaction" maxLocksPerTransactionInt,
    optional "instance_password_encryption" (.values ["md5", "scram-sha-256"] (some
      "Value not one of 'md5' or 'scram-sha-256'")),
    optional "instance_synchronize_seqscans" .bool]

/-- The options `ldap_…`. -/
def ldapFields : List Field :=
  [optional "ldap_map" .str,
    optional "ldap_search_filter" .str]

/-- The options `logging_…`. -/
def loggingFields : List Field :=
  [optional "logging_client_min_messages" (.values ["debug5", "debug4", "debug3", "debug2",
      "debug1", "log", "notice", "warning", "error"] (some
      "Value not one of 'debug5', 'debug4', 'debug3', 'debug2', 'debug1', 'log', 'notice', 'warning' or 'error'.")),
    optional "logging_log_connections" .bool,
    optional "logging_log_disconnections" .bool,
    optional "logging_log_lock_waits" .bool,
    optional "logging_log_min_duration_statement" pgSignedIntMax,
    optional "logging_track_functions" (.values ["none", "pl", "all"] (some
      "Value not one of 'none', 'pl', 'all'."))]

/-- The options `memory_…`. -/
def memoryFields : List Field :=
  [optional "memory_maintenance_work_mem" maintenanceWorkMemInt,
    optional "memory_max_prepared_transactions" maxPreparedTransactionsInt,
    optional "memory_shared_buffers" sharedBuffersInt,
    optional "memory_temp_buffers" tempBuffersInt,
    optional "memory_work_mem" workMemInt]

/-- The options `optimizer_…`. -/
def optimizerFields : List Field :=
  [optional "optimizer_constraint_exclusion" (.values ["on", "off", "partition"] (some
      "Value not one of 'on', 'off' or 'partition'")),
    optional "optimizer_cpu_index_tuple_cost" pgHugeFloat,
    optional "optimizer_cpu_operator_cost" pgHugeFloat,
    optional "optimizer_cpu_tuple_cost" pgHugeFloat,
    optional "optimizer_cursor_tuple_fraction" unitIntervalFloat,
    optional "optimizer_default_statistics_target" statisticsTargetInt,
    optional "optimizer_enable_async_append" .bool,
    optional "optimizer_enable_bitmapscan" .bool,
    optional "optimizer_enable_gathermerge" .bool,
    optional "optimizer_enable_hashagg" .bool,
    optional "optimizer_enable_hashjoin" .bool,
    optional "optimizer_enable_incremental_sort" .bool,
    optional "optimizer_enable_indexonlyscan" .bool,
    optional "optimizer_enable_indexscan" .bool,
    optional "optimizer_enable_material" .bool,
    optional "optimizer_enable_memoize" .bool,
    optional "optimizer_enable_mergejoin" .bool,
    optional "optimizer_enable_nestloop" .bool,
    optional "optimizer_enable_parallel_append" .bool,
    optional "optimizer_enable_parallel_hash" .bool,
    optional "optimizer_enable_partition_pruning" .bool,
    optional "optimizer_enable_partitionwise_aggregate" .bool,
    optional "optimizer_enable_partitionwise_join" .bool,
    optional "optimizer_enable_seqscan" .bool,
    optional "optimizer_enable_sort" .bool,
    optional "optimizer_enable_tidscan" .bool,
    optional "optimizer_from_collapse_limit" pgPositiveIntMax,
    optional "optimizer_geqo" .bool,
    optional "optimizer_geqo_effort" geqoEffortInt,
    optional "optimizer_geqo_generations" pgIntMax,
    optional "optimizer_geqo_pool_size" pgIntMax,
    optional "optimizer_geqo_seed" geqoSeedFloat,
    optional "optimizer_geqo_selection_bias" geqoSelectionBiasFloat,
    optional "optimizer_geqo_threshold" geqoThresholdInt,
    optional "optimizer_jit" .bool,
    optional "optimizer_jit_above_cost" pgSignedHugeFloat,
    optional "optimizer_jit_inline_above_cost" pgSignedHugeFloat,
    optional "optimizer_jit_optimize_above_cost" pgSignedHugeFloat,
    optional "optimizer_join_collapse_limit" pgPositiveIntMax,
    optional "optimizer_min_parallel_index_scan_size" parallelScanSizeInt,
    optional "optimizer_min_parallel_table_scan_size" parallelScanSizeInt,
    optional "optimizer_parallel_setup_cost" pgHugeFloat,
    optional "optimizer_parallel_tuple_cost" pgHugeFloat,
    required "optimizer_pg_stat_statements_track" (.values ["none", "top", "all"] none),
    required "optimizer_pg_stat_statements_track_utility" .bool,
    required "optimizer_pg_stat_statements_save" .bool,
    required "optimizer_track_io_timing" .bool,
    required "optimizer_track_wal_io_timing" .bool,
    required "optimizer_track_functions" (.values ["none", "pl", "all"] none)]

/-- The options `profile_…`. -/
def profileFields : List Field :=
  [required "profile" (.values ["testing", "production"] (some
      "Value not one of 'testing' or 'production'")),
    optional "profile_limit_memory" profileLimitMemoryInt]

/-- The options `request_…`. -/
def requestFields : List Field :=
  [optional "request_array_nulls" .bool,
    optional "request_backslash_quote" (.values ["safe_encoding", "on", "off"] (some
      "Value not one of `safe_encoding` or `on` or 'off'")),
    optional "request_date_style" .str,
    optional "request_deadlock_timeout" deadlockTimeoutInt,
    optional "request_default_transaction_deferrable" .bool,
    optional "request_default_transaction_isolation" (.values ["serializable", "repeatable read",
      "read committed", "read uncommitted"] (some
      "Value not one of 'serializable', 'repeatable read', 'read committed', 'read uncommitted'.")),
    optional "request_default_transaction_read_only" .bool,
    optional "request_escape_string_warning" .bool,
    optional "request_lock_timeout" pgIntMax,
    optional "request_standard_conforming_strings" .bool,
    optional "request_time_zone" .str,
    optional "request_track_activity_query_size" trackActivityQuerySizeInt,
    optional "request_transform_null_equals" .bool,
    optional "request_xmlbinary" (.values ["base64", "hex"] (some "Value not 'base64' or 'hex'.")),
    optional "request_xmloption" (.values ["content", "document"] (some
      "Value not 'content' or 'document'."))]

/-- The options `response_…`. -/
def responseFields : List Field :=
  [optional "response_bytea_output" (.values ["escape", "hex"] (some
      "Value not one of 'escape' or 'hex'")),
    optional "response_exit_on_error" .bool,
    optional "response_extra_float_digits" extraFloatDigitsInt,
    optional "response_gin_fuzzy_search_limit" pgIntMax,
    optional "response_lc_monetary" .str,
    optional "response_lc_numeric" .str,
    optional "response_lc_time" .str]

def sessionFields : List Field :=
  [optional "session_idle_in_transaction_session_timeout" pgIntMax]

/-- The options `storage_…`. -/
def storageFields : List Field :=
  [optional "storage_bgwriter_lru_maxpages" bgwriterLruMaxpagesInt,
    optional "storage_bgwriter_lru_multiplier" bgwriterLruMultiplierFloat,
    optional "storage_default_table_access_method" .str,
    optional "storage_gin_pending_list_limit" ginPendingListLimitInt,
    optional "storage_hot_standby_feedback" .bool,
    optional "storage_old_snapshot_threshold" oldSnapshotThresholdInt]

/-- The options `vacuum_…`. -/
def vacuumFields : List Field :=
  [optional "vacuum_autovacuum_analyze_scale_factor" percentFloat,
    optional "vacuum_autovacuum_analyze_threshold" pgIntMax,
    optional "vacuum_autovacuum_freeze_max_age" freezeMaxAgeInt,
    optional "vacuum_autovacuum_naptime" autovacuumNapTimeInt,
    optional "vacuum_autovacuum_vacuum_cost_delay" autoVacuumCostDelayFloat,
    optional "vacuum_autovacuum_vacuum_cost_limit" autoVacuumCostLimitInt,
    optional "vacuum_autovacuum_vacuum_insert_scale_factor" percentFloat,
    optional "vacuum_autovacuum_vacuum_insert_threshold" pgSignedIntMax,
    optional "vacuum_autovacuum_vacuum_scale_factor" percentFloat,
    optional "vacuum_autovacuum_vacuum_threshold" pgIntMax,
    optional "vacuum_vacuum_cost_delay" vacuumCostDelayFloat,
    optional "vacuum_vacuum_cost_limit" vacuumCostLimitInt,
    optional "vacuum_vacuum_cost_page_dirty" vacuumCostInt,
    optional "vacuum_vacuum_cost_page_hit" vacuumCostInt,
    optional "vacuum_vacuum_cost_page_miss" vacuumCostInt,
    optional "vacuum_vacuum_failsafe_age" failsafeAgeInt,
    optional "vacuum_vacuum_freeze_min_age" freezeMinAgeInt,
    optional "vacuum_vacuum_freeze_table_age" freezeTableAgeInt,
    optional "vacuum_vacuum_multixact_failsafe_age" failsafeAgeInt,
    optional "vacuum_vacuum_multixact_freeze_min_age" freezeMinAgeInt,
    optional "vacuum_vacuum_multixact_freeze_table_age" freezeTableAgeInt]

/-- The options `plugin_…`. -/
def pluginFields : List Field := Extensions.pluginKeys.map (required · .bool)

/-- The fields of `CharmConfig`. -/
def fields : List Field :=
  synchronousFields ++ connectionFields ++ cpuFields ++ durabilityFields ++ experimentalFields ++
    instanceFields ++ ldapFields ++ loggingFields ++ memoryFields ++ optimizerFields ++
    pluginFields ++ profileFields ++ requestFields ++ responseFields ++ sessionFields ++
    storageFields ++ vacuumFields

/-- `CharmConfig.keys()`. -/
def keys : List String := fields.map (·.name)

/-! ## the configuration -/

/-- `self.model.config`: the options that have a value, in any order. -/
structure ModelConfig where
  options : Dict String Value
  hasJujuType : ∀ option ∈ options.entries, ∃ field ∈ fields, field.name = option.1 ∧
    field.type.HasJujuType option.2

/-- What is wrong with a field. -/
structure FieldError where
  field : String
  message : Option String
deriving DecidableEq, Repr

/-- The validation of one field. -/
def Field.check (field : Field) (config : ModelConfig) : Option FieldError :=
  match config.options.get? field.name with
  | none => if field.required then some ⟨field.name, some "field required"⟩ else none
  | some value =>
      if field.type.accepts value then none else some ⟨field.name, field.type.message⟩

/-- The errors of `CharmConfig(**config)`, which raises `ValidationError` if there
are any. -/
def validationErrors (config : ModelConfig) : List FieldError := fields.filterMap (·.check config)

/-- Every error names the field that it checks. -/
theorem field_of_mem_validationErrors {config : ModelConfig} {e : FieldError}
    (h : e ∈ validationErrors config) : e.field ∈ keys := by
  obtain ⟨field, hfield, hcheck⟩ := List.mem_filterMap.mp h
  have hname : e.field = field.name := by
    rw [Field.check] at hcheck
    split at hcheck <;> split at hcheck <;> cases hcheck <;> rfl
  rw [hname]
  exact List.mem_map_of_mem hfield

/-- A valid configuration has an accepted value under every field that is set. -/
theorem accepts_of_valid {config : ModelConfig} (h : validationErrors config = []) {field : Field}
    (hfield : field ∈ fields) {value : Value}
    (hvalue : config.options.get? field.name = some value) : field.type.accepts value = true := by
  have hnone := List.filterMap_eq_nil_iff.mp h field hfield
  simpa [Field.check, hvalue] using hnone

end PostgresqlK8s.Config
