import PostgresqlK8s.Config.Memory

/-!
# Config.Kept

No option is lost among the parameters, as long as no two options are written as
the same one.
-/

namespace PostgresqlK8s.Config

/-! ## what the options become -/

/-- The options that are handled on their own. -/
def specialOptions : List String :=
  ["cpu_max_logical_replication_workers", "cpu_max_parallel_maintenance_workers",
    "cpu_max_parallel_workers", "cpu_max_sync_workers_per_subscription",
    "cpu_max_worker_processes", "cpu_wal_compression", "durability_maximum_lag_on_failover"]

/-- The parameters that are written over what the options become. -/
def writtenOver : List String :=
  ["max_logical_replication_workers", "max_parallel_maintenance_workers",
    "max_parallel_workers", "max_sync_workers_per_subscription", "max_worker_processes",
    "wal_compression"]

/-- Every option that is a parameter has its value there, under the name of PostgreSQL. -/
def Kept (config : ModelConfig) (parameters : Dict String Value) : Prop :=
  ∀ key value, config.options.get? key = some value →
    parameterPrefixes.any (startsWith key) = true → key ∉ specialOptions →
      ∃ parameter, postgresqlName key = some parameter ∧ parameters.get? parameter = some value

/-- No two options are written as the same parameter. -/
def OneEach (config : ModelConfig) : Prop :=
  ∀ key ∈ config.options.keys, ∀ key' ∈ config.options.keys, ∀ parameter,
    parameterOf key = some parameter → parameterOf key' = some parameter → key = key'

/-- What is written over is one of the special options. -/
theorem mem_specialOptions_of_writtenOver : ∀ pair ∈ tablePairs,
    ∀ parameter ∈ writtenOver, tableParameter pair.2 = some parameter →
      optionName pair.1 pair.2 ∈ specialOptions := by
  decide +kernel

/-- No option comes to the cache. -/
theorem tableParameter_ne_effective_cache_size : ∀ pair ∈ tablePairs,
    tableParameter pair.2 ≠ some "effective_cache_size" := by
  decide +kernel

/-- An option without a parameter is a special one. -/
theorem mem_specialOptions_of_none : ∀ pair ∈ tablePairs,
    tableParameter pair.2 = none → optionName pair.1 pair.2 ∈ specialOptions := by
  decide +kernel

/-- An option that is not handled on its own becomes a parameter that nothing else
is written over. -/
theorem exists_parameter {key : String} (hkey : key ∈ keys)
    (hstarts : parameterPrefixes.any (startsWith key) = true) (hspecial : key ∉ specialOptions) :
    ∃ parameter, parameterOf key = some parameter ∧ parameter ∉ writtenOver ∧
      parameter ≠ "effective_cache_size" := by
  obtain ⟨pair, hpair, rfl, heq⟩ := exists_tablePair hkey hstarts
  cases hparameter : tableParameter pair.2 with
  | none => exact absurd (mem_specialOptions_of_none pair hpair hparameter) hspecial
  | some parameter =>
      refine ⟨parameter, heq.trans hparameter, fun hover => hspecial ?_, ?_⟩
      · exact mem_specialOptions_of_writtenOver pair hpair parameter hover hparameter
      · rintro rfl
        exact tableParameter_ne_effective_cache_size pair hpair hparameter

/-! ## what the options become, in the end -/

/-- The production profile keeps every parameter but the cache, and unset buffers. -/
theorem get?_productionParameters {memory : Int} {sharedBuffers : Option ℚ}
    {parameters : Dict String Value} {parameter : String} {value : Value}
    (hne : parameter ≠ "effective_cache_size")
    (hnone : sharedBuffers = none → parameter ≠ "shared_buffers")
    (hget : parameters.get? parameter = some value) :
    (productionParameters memory sharedBuffers parameters).get? parameter = some value := by
  cases sharedBuffers with
  | none =>
      rw [productionParameters, Dict.get?_set_of_ne _ _ hne, Dict.get?_set_of_ne _ _ (hnone rfl),
        hget]
  | some buffers => rw [productionParameters, Dict.get?_set_of_ne _ _ hne, hget]

/-- The calculation of the memory parameters writes over no other. -/
theorem get?_of_buildPostgresqlParameters {configOptions parameters : Dict String Value}
    {availableMemory : Int} {limitMemory : Option Int}
    (h : buildPostgresqlParameters configOptions availableMemory limitMemory = .ok parameters)
    {parameter : String} {value : Value} (hne : parameter ≠ "effective_cache_size")
    (hget : (parametersOf configOptions).get? parameter = some value) :
    parameters.get? parameter = some value := by
  unfold buildPostgresqlParameters at h
  dsimp only at h
  split at h
  · split at h
    · split at h
      · cases h
      · split at h
        · cases h
          refine get?_productionParameters hne (fun hnone => ?_) hget
          rintro rfl
          rw [hget] at hnone
          cases hnone
        · cases h
          exact hget
    · cases h
  · cases h

/-- The limits of the worker processes are written under names of their own. -/
theorem mem_writtenOver_of_calculate {options : WorkerOptions} {cpuCores : Nat}
    {result : Dict String String}
    (h : calculateWorkerProcessConfig options cpuCores = .ok result) {key : String}
    (hkey : key ∈ result.keys) : key ∈ writtenOver := by
  obtain ⟨-, rfl⟩ := calculateWorkerProcessConfig_eq_ok.mp h
  refine List.foldlRecOn
    (motive := fun result : Dict String String => ∀ key ∈ result.keys, key ∈ writtenOver)
    options.limits _ (by simp) (fun result hresult limit hlimit key hkey => ?_) key hkey
  have hname : limit.1 ∈ writtenOver := by
    simp only [WorkerOptions.limits, List.mem_cons, List.not_mem_nil, or_false] at hlimit
    rcases hlimit with rfl | rfl | rfl | rfl | rfl <;> simp [writtenOver]
  cases htext : Workers.text (options.limit cpuCores limit.1) limit.2 with
  | none => exact hresult key (by simpa [writeLimit, htext] using hkey)
  | some text =>
      rw [htext, writeLimit, Option.elim_some, Dict.mem_keys_set] at hkey
      rcases hkey with rfl | hkey
      · exact hname
      · exact hresult key hkey

/-- With limits that are not exceeded, the charm's parameters are built from these. -/
theorem exists_buildCharmParameters {config : ModelConfig} {availableCpuCores : Nat}
    {availableMemory : Int} {pgParameters : Dict String Value}
    (hvalid : validationErrors config = [])
    (hpg : buildPostgresqlParameters config.options availableMemory config.limitMemory =
      .ok pgParameters)
    (hlimits : ∀ limit ∈ config.workerOptions.limits,
      ¬ Workers.Exceeds availableCpuCores limit.2) :
    ∃ parameters, buildCharmParameters config availableCpuCores availableMemory =
      .ok parameters := by
  have hworkers := calculateWorkerProcessConfig_eq_ok.mpr ⟨hlimits, rfl⟩
  rw [buildCharmParameters, if_neg (not_not.mpr hvalid), hpg, hworkers]
  exact ⟨_, rfl⟩

/-- A parameter that nothing is written over has the value that it got first. -/
theorem get?_of_buildCharmParameters {config : ModelConfig} {availableCpuCores : Nat}
    {availableMemory : Int} {parameters : Dict String Value}
    (h : buildCharmParameters config availableCpuCores availableMemory = .ok parameters)
    {parameter : String} {value : Value} (hover : parameter ∉ writtenOver)
    (hne : parameter ≠ "effective_cache_size")
    (hget : (parametersOf config.options).get? parameter = some value) :
    parameters.get? parameter = some value := by
  rw [buildCharmParameters] at h
  split at h
  · cases h
  · obtain ⟨pgParameters, hpg, h⟩ := Except.bind_eq_ok.mp h
    obtain ⟨workerConfigs, hworkers, h⟩ := Except.bind_eq_ok.mp h
    cases h
    have hwal : parameter ≠ "wal_compression" := by
      rintro rfl
      simp [writtenOver] at hover
    have hkeys : parameter ∉ (workerConfigs.entries.map fun entry =>
        (entry.1, Value.str entry.2)).map Prod.fst := by
      rw [List.map_map]
      exact fun hmem =>
        hover (mem_writtenOver_of_calculate (Except.mapError_eq_ok.mp hworkers) hmem)
    rw [Dict.get?_set_of_ne _ _ hwal, Dict.get?_update_of_not_mem _ hkeys]
    exact get?_of_buildPostgresqlParameters hpg hne hget

/-! ## no option is lost -/

/-- The options are two for one parameter only where both `track_functions` are set. -/
theorem oneEach_iff (config : ModelConfig) :
    OneEach config ↔ ¬ ("logging_track_functions" ∈ config.options.keys ∧
      "optimizer_track_functions" ∈ config.options.keys) := by
  obtain ⟨hlogging, hoptimizer⟩ := parameterOf_trackFunctions
  constructor
  · rintro h ⟨hl, ho⟩
    exact absurd (h _ hl _ ho _ hlogging hoptimizer) (by decide)
  · intro hnot key hkey key' hkey' parameter h h'
    rcases eq_or_trackFunctions_of_parameterOf (config.mem_keys hkey) (config.mem_keys hkey') h h'
      with heq | rfl
    · exact heq
    · rcases eq_of_parameterOf_trackFunctions (config.mem_keys hkey) h with rfl | rfl <;>
        rcases eq_of_parameterOf_trackFunctions (config.mem_keys hkey') h' with rfl | rfl
      · rfl
      · exact absurd ⟨hkey, hkey'⟩ hnot
      · exact absurd ⟨hkey', hkey⟩ hnot
      · rfl

/-- Where every parameter comes from one option, no value is lost. -/
theorem kept_of_oneEach {config : ModelConfig} {availableCpuCores : Nat} {availableMemory : Int}
    {parameters : Dict String Value} (hone : OneEach config)
    (h : buildCharmParameters config availableCpuCores availableMemory = .ok parameters) :
    Kept config parameters := by
  intro key value hvalue hstarts hspecial
  have hkey : key ∈ config.options.keys := Dict.exists_get?_iff.mp ⟨value, hvalue⟩
  obtain ⟨parameter, hparameter, hover, hne⟩ :=
    exists_parameter (config.mem_keys hkey) hstarts hspecial
  have hget : (parametersOf config.options).get? parameter = some value := by
    rw [get?_parametersOf hparameter fun key' hkey' h' => hone _ hkey' _ hkey _ h' hparameter,
      hvalue]
  refine ⟨parameter, ?_, get?_of_buildCharmParameters h hover hne hget⟩
  rw [← parameterOf_eq_postgresqlName (config.mem_keys hkey) hstarts, hparameter]

/-- **No option is lost** exactly when `logging_track_functions` and
`optimizer_track_functions` are not both set. -/
theorem buildCharmParameters_keeps_iff (config : ModelConfig) (availableCpuCores : Nat)
    (availableMemory : Int) :
    ((∀ parameters, buildCharmParameters config availableCpuCores availableMemory =
        .ok parameters → Kept config parameters) ∧ OneEach config) ↔
      ¬ ("logging_track_functions" ∈ config.options.keys ∧
        "optimizer_track_functions" ∈ config.options.keys) := by
  rw [← oneEach_iff]
  exact ⟨And.right, fun hone => ⟨fun _ => kept_of_oneEach hone, hone⟩⟩

theorem postgresqlName_trackFunctions :
    postgresqlName "logging_track_functions" = some "track_functions" ∧
      postgresqlName "optimizer_track_functions" = some "track_functions" := by
  decide +kernel

/-- Two values for `track_functions` cannot both be kept. -/
theorem not_kept_of_ne {config : ModelConfig} {parameters : Dict String Value}
    {value value' : Value}
    (hlogging : config.options.get? "logging_track_functions" = some value)
    (hoptimizer : config.options.get? "optimizer_track_functions" = some value')
    (hne : value ≠ value') : ¬ Kept config parameters := by
  intro hkept
  obtain ⟨parameter, hparameter, hget⟩ := hkept _ _ hlogging
    (any_startsWith_of_parameterOf parameterOf_trackFunctions.1) (by decide)
  obtain ⟨parameter', hparameter', hget'⟩ := hkept _ _ hoptimizer
    (any_startsWith_of_parameterOf parameterOf_trackFunctions.2) (by decide)
  rw [postgresqlName_trackFunctions.1, Option.some.injEq] at hparameter
  rw [postgresqlName_trackFunctions.2, Option.some.injEq] at hparameter'
  rw [← hparameter] at hget
  rw [← hparameter', hget, Option.some.injEq] at hget'
  exact hne hget'

/-- Both are set in `largeBuffers`. -/
theorem largeBuffers_trackFunctions :
    largeBuffers.config.options.get? "logging_track_functions" = some (.str "all") ∧
      largeBuffers.config.options.get? "optimizer_track_functions" = some (.str "none") := by
  constructor
  · rw [largeBuffers.get?_config_of_startsWith (by decide)]
    decide
  · rw [largeBuffers.get?_config_of_startsWith (by decide)]
    decide

theorem largeBuffers_workerOptions :
    ∀ limit ∈ largeBuffers.config.workerOptions.limits, limit.2 = none := by
  simp only [WorkerOptions.limits, ModelConfig.workerOptions]
  repeat rw [largeBuffers.get?_config_of_startsWith (by decide)]
  decide

/-- There, one of the two values is lost. -/
theorem buildCharmParameters_not_keeps :
    ¬ ∀ (config : ModelConfig) (availableCpuCores : Nat) (availableMemory : Int),
      (∀ parameters, buildCharmParameters config availableCpuCores availableMemory =
        .ok parameters → Kept config parameters) ∧ OneEach config := by
  intro h
  obtain ⟨hlogging, hoptimizer⟩ := largeBuffers_trackFunctions
  have hlimits : ∀ limit ∈ largeBuffers.config.workerOptions.limits,
      ¬ Workers.Exceeds 4 limit.2 := by
    intro limit hlimit
    rw [largeBuffers_workerOptions limit hlimit]
    exact id
  obtain ⟨parameters, hbuild⟩ := exists_buildCharmParameters
    largeBuffers.validationErrors_config buildPostgresqlParameters_largeBuffers hlimits
  exact not_kept_of_ne hlogging hoptimizer (by decide) ((h _ _ _).1 parameters hbuild)

end PostgresqlK8s.Config
