import PostgresqlK8s.Config.CharmConfig
import PostgresqlK8s.Lib.Decimal
import PostgresqlK8s.Lib.StateExcept
import Mathlib.Order.Lattice

/-!
# Config.WorkerProcesses

The limits of the worker processes.  An option is unset, `auto` or a number; that
it is at least two is declared, but not checked.  A number above ten for each core
is refused; `max_parallel_workers` is cut down to `max_worker_processes`, the other
limits are not.
-/

namespace PostgresqlK8s.Config

/-! ## the options -/

/-- What an option asks for. -/
inductive Workers
  | auto
  | value (n : Int)
deriving DecidableEq, Repr

/-- The five options; an option that is unset has no value. -/
structure WorkerOptions where
  maxLogicalReplicationWorkers : Option Workers
  maxParallelMaintenanceWorkers : Option Workers
  maxParallelWorkers : Option Workers
  maxSyncWorkersPerSubscription : Option Workers
  maxWorkerProcesses : Option Workers

/-- The validated value of an option. -/
def Workers.ofValue : Value → Option Workers
  | .str "auto" => some .auto
  | .str s => (IntText.readInt s).map .value
  | _ => none

/-- The options of the charm. -/
def ModelConfig.workerOptions (config : ModelConfig) : WorkerOptions where
  maxLogicalReplicationWorkers :=
    (config.options.get? "cpu_max_logical_replication_workers").bind Workers.ofValue
  maxParallelMaintenanceWorkers :=
    (config.options.get? "cpu_max_parallel_maintenance_workers").bind Workers.ofValue
  maxParallelWorkers := (config.options.get? "cpu_max_parallel_workers").bind Workers.ofValue
  maxSyncWorkersPerSubscription :=
    (config.options.get? "cpu_max_sync_workers_per_subscription").bind Workers.ofValue
  maxWorkerProcesses := (config.options.get? "cpu_max_worker_processes").bind Workers.ofValue

/-- `ValueError`. -/
structure ValueError where
  message : String
deriving DecidableEq, Repr

/-! ## the calculation -/

/-- The number is above the maximum. -/
def exceedsMaximum (paramName : String) (value : Int) (cap : Nat) : ValueError where
  message := s!"{paramName} value {value} exceeds maximum allowed of {cap} (10 * vCores). " ++
    s!"Please set a value <= {cap}."

/-- `_calculate_max_worker_processes`. -/
def calculateMaxWorkerProcesses (options : WorkerOptions) (cpuCores : Nat) :
    Except ValueError (Option String) :=
  match options.maxWorkerProcesses with
  | some .auto => .ok (some (toString (min 8 (2 * cpuCores : Int))))
  | some (.value value) =>
      if value > 10 * cpuCores then
        .error (exceedsMaximum "cpu_max_worker_processes" value (10 * cpuCores))
      else .ok (some (toString value))
  | none => .ok none

/-- `_validate_worker_config_value`. -/
def validateWorkerConfigValue (paramName : String) (value : Int) (cpuCores : Nat) :
    Except ValueError String :=
  if value > 10 * cpuCores then .error (exceedsMaximum paramName value (10 * cpuCores))
  else .ok (toString value)

/-- `_calculate_max_parallel_workers`. -/
def calculateMaxParallelWorkers (options : WorkerOptions) (baseMaxWorkers : Int)
    (cpuCores : Nat) : Except ValueError (Option String) :=
  match options.maxParallelWorkers with
  | some .auto => .ok (some (toString baseMaxWorkers))
  | some (.value value) => do
      let text ← validateWorkerConfigValue "cpu_max_parallel_workers" value cpuCores
      return some (toString (min (Decimal.readSigned text) baseMaxWorkers))
  | none => .ok none

/-- A limit that is not cut down. -/
def calculateUncapped (paramName : String) (option : Option Workers)
    (baseMaxWorkers : Int) (cpuCores : Nat) : Except ValueError (Option String) :=
  match option with
  | some .auto => .ok (some (toString baseMaxWorkers))
  | some (.value value) => some <$> validateWorkerConfigValue paramName value cpuCores
  | none => .ok none

/-- `_calculate_max_parallel_maintenance_workers`. -/
def calculateMaxParallelMaintenanceWorkers (options : WorkerOptions) :=
  calculateUncapped "cpu_max_parallel_maintenance_workers" options.maxParallelMaintenanceWorkers

/-- `_calculate_max_logical_replication_workers`. -/
def calculateMaxLogicalReplicationWorkers (options : WorkerOptions) :=
  calculateUncapped "cpu_max_logical_replication_workers" options.maxLogicalReplicationWorkers

/-- `_calculate_max_sync_workers_per_subscription`. -/
def calculateMaxSyncWorkersPerSubscription (options : WorkerOptions) :=
  calculateUncapped "cpu_max_sync_workers_per_subscription" options.maxSyncWorkersPerSubscription

/-- Write a limit that is there. -/
def writeLimit (result : Dict String String) (key : String) (limit : Option String) :
    Dict String String :=
  limit.elim result (result.set key)

/-- `_calculate_worker_process_config`. -/
def calculateWorkerProcessConfig (options : WorkerOptions) (cpuCores : Nat) :
    Except ValueError (Dict String String) := do
  let processes ← calculateMaxWorkerProcesses options cpuCores
  let result := writeLimit ∅ "max_worker_processes" processes
  let baseMaxWorkers := Decimal.readSigned ((result.get? "max_worker_processes").getD "8")
  let parallel ← calculateMaxParallelWorkers options baseMaxWorkers cpuCores
  let result := writeLimit result "max_parallel_workers" parallel
  let maintenance ← calculateMaxParallelMaintenanceWorkers options baseMaxWorkers cpuCores
  let result := writeLimit result "max_parallel_maintenance_workers" maintenance
  let logical ← calculateMaxLogicalReplicationWorkers options baseMaxWorkers cpuCores
  let result := writeLimit result "max_logical_replication_workers" logical
  let sync ← calculateMaxSyncWorkersPerSubscription options baseMaxWorkers cpuCores
  return writeLimit result "max_sync_workers_per_subscription" sync

/-! ## what the limits come to -/

namespace Workers

/-- The option is a number above the maximum. -/
def Exceeds (cpuCores : Nat) : Option Workers → Prop
  | some (.value n) => 10 * cpuCores < n
  | _ => False

instance (cpuCores : Nat) : (option : Option Workers) → Decidable (Exceeds cpuCores option)
  | some (.value n) => inferInstanceAs (Decidable (10 * (cpuCores : Int) < n))
  | some .auto | none => inferInstanceAs (Decidable False)

/-- What `max_worker_processes` comes to. -/
def processes (cpuCores : Nat) : Option Workers → Int
  | some .auto => min 8 (2 * cpuCores)
  | some (.value n) => n
  | none => 8

/-- What a limit that is not cut down comes to. -/
def uncapped (base : Int) : Option Workers → Int
  | some .auto => base
  | some (.value n) => n
  | none => 8

/-- What `max_parallel_workers` comes to. -/
def parallel (base : Int) : Option Workers → Int
  | some .auto => base
  | some (.value n) => min n base
  | none => 8

/-- The text of a limit, if the option is set. -/
def text (limit : Option Workers → Int) (option : Option Workers) : Option String :=
  option.map fun workers => toString (limit (some workers))

end Workers

/-- The value that PostgreSQL runs with: the one that is written, or its default. -/
def effective (result : Dict String String) (key : String) : Int :=
  ((result.get? key).map Decimal.readSigned).getD 8

/-- A limit is written under its own key, if there is one. -/
theorem get?_writeLimit (result : Dict String String) (key key' : String)
    (limit : Option String) : (writeLimit result key limit).get? key' =
      if key' = key then limit <|> result.get? key' else result.get? key' := by
  cases limit with
  | none => simp [writeLimit]
  | some text =>
      by_cases h : key' = key
      · subst h
        simp [writeLimit]
      · simp [writeLimit, h]

section

variable {cpuCores : Nat} {base : Int} {text : Option String}

/-- The worker processes, unless the value is above ten times the cores. -/
theorem calculateMaxWorkerProcesses_eq_ok {options : WorkerOptions} :
    calculateMaxWorkerProcesses options cpuCores = .ok text ↔
      ¬ Workers.Exceeds cpuCores options.maxWorkerProcesses ∧
        text = Workers.text (Workers.processes cpuCores) options.maxWorkerProcesses := by
  rw [calculateMaxWorkerProcesses]
  rcases options.maxWorkerProcesses with _ | _ | n
  · simp [Workers.Exceeds, Workers.text, eq_comm]
  · simp [Workers.Exceeds, Workers.text, Workers.processes, eq_comm]
  · by_cases h : 10 * cpuCores < n
    · simp [Workers.Exceeds, h]
    · simp [Workers.Exceeds, Workers.text, Workers.processes, h, eq_comm]

/-- The parallel workers, with the worker processes as their default. -/
theorem calculateMaxParallelWorkers_eq_ok {options : WorkerOptions} :
    calculateMaxParallelWorkers options base cpuCores = .ok text ↔
      ¬ Workers.Exceeds cpuCores options.maxParallelWorkers ∧
        text = Workers.text (Workers.parallel base) options.maxParallelWorkers := by
  rw [calculateMaxParallelWorkers]
  rcases options.maxParallelWorkers with _ | _ | n
  · simp [Workers.Exceeds, Workers.text, eq_comm]
  · simp [Workers.Exceeds, Workers.text, Workers.parallel, eq_comm]
  · by_cases h : 10 * cpuCores < n
    · simp [Workers.Exceeds, validateWorkerConfigValue, h, bind, Except.bind]
    · simp [Workers.Exceeds, Workers.text, Workers.parallel, validateWorkerConfigValue, h, bind,
        Except.bind, pure, Except.pure, eq_comm]

/-- The limits that are calculated without a cap. -/
theorem calculateUncapped_eq_ok {paramName : String} {option : Option Workers} :
    calculateUncapped paramName option base cpuCores = .ok text ↔
      ¬ Workers.Exceeds cpuCores option ∧
        text = Workers.text (Workers.uncapped base) option := by
  rcases option with _ | _ | n
  · simp [calculateUncapped, Workers.Exceeds, Workers.text, eq_comm]
  · simp [calculateUncapped, Workers.Exceeds, Workers.text, Workers.uncapped, eq_comm]
  · by_cases h : 10 * cpuCores < n
    · simp [calculateUncapped, Workers.Exceeds, validateWorkerConfigValue, h, Functor.map,
        Except.map]
    · simp [calculateUncapped, Workers.Exceeds, Workers.text, Workers.uncapped,
        validateWorkerConfigValue, h, Functor.map, Except.map, eq_comm]

end

/-- The parameters, with the options that they are calculated from. -/
def WorkerOptions.limits (options : WorkerOptions) : List (String × Option Workers) :=
  [("max_worker_processes", options.maxWorkerProcesses),
    ("max_parallel_workers", options.maxParallelWorkers),
    ("max_parallel_maintenance_workers", options.maxParallelMaintenanceWorkers),
    ("max_logical_replication_workers", options.maxLogicalReplicationWorkers),
    ("max_sync_workers_per_subscription", options.maxSyncWorkersPerSubscription)]

/-- What a parameter comes to. -/
def WorkerOptions.limit (options : WorkerOptions) (cpuCores : Nat) (key : String) :
    Option Workers → Int :=
  if key = "max_worker_processes" then Workers.processes cpuCores
  else if key = "max_parallel_workers" then
    Workers.parallel (Workers.processes cpuCores options.maxWorkerProcesses)
  else Workers.uncapped (Workers.processes cpuCores options.maxWorkerProcesses)

/-- The base of the other limits is read back from the text that is written. -/
theorem read_max_worker_processes (options : WorkerOptions) (cpuCores : Nat) :
    Decimal.readSigned (((writeLimit ∅ "max_worker_processes" (Workers.text (Workers.processes cpuCores)
      options.maxWorkerProcesses)).get? "max_worker_processes").getD "8") =
        Workers.processes cpuCores options.maxWorkerProcesses := by
  cases options.maxWorkerProcesses with
  | none => exact Decimal.readSigned_toString 8
  | some o => simp [get?_writeLimit, Workers.text]

/-- The calculation succeeds when no number is above the maximum, and then writes
the limits of the options that are set. -/
theorem calculateWorkerProcessConfig_eq_ok {options : WorkerOptions} {cpuCores : Nat}
    {result : Dict String String} :
    calculateWorkerProcessConfig options cpuCores = .ok result ↔
      (∀ limit ∈ options.limits, ¬ Workers.Exceeds cpuCores limit.2) ∧
        result = options.limits.foldl (fun result limit => writeLimit result limit.1
          (Workers.text (options.limit cpuCores limit.1) limit.2)) ∅ := by
  simp only [calculateWorkerProcessConfig, Except.bind_eq_ok, calculateMaxWorkerProcesses_eq_ok,
    calculateMaxParallelWorkers_eq_ok, calculateMaxParallelMaintenanceWorkers,
    calculateMaxLogicalReplicationWorkers, calculateMaxSyncWorkersPerSubscription,
    calculateUncapped_eq_ok]
  constructor
  · rintro ⟨_, ⟨hprocesses, rfl⟩, _, ⟨hparallel, rfl⟩, _, ⟨hmaintenance, rfl⟩, _,
      ⟨hlogical, rfl⟩, _, ⟨hsync, rfl⟩, hresult⟩
    rw [read_max_worker_processes] at hresult
    refine ⟨by simp [WorkerOptions.limits, *], ?_⟩
    cases hresult
    rfl
  · rintro ⟨hlimits, rfl⟩
    simp only [WorkerOptions.limits, List.forall_mem_cons] at hlimits
    obtain ⟨hprocesses, hparallel, hmaintenance, hlogical, hsync, -⟩ := hlimits
    refine ⟨_, ⟨hprocesses, rfl⟩, _, ⟨hparallel, rfl⟩, _, ⟨hmaintenance, rfl⟩, _,
      ⟨hlogical, rfl⟩, _, ⟨hsync, rfl⟩, ?_⟩
    rw [read_max_worker_processes]
    rfl

/-- Without the option, PostgreSQL's default of 8 is in effect. -/
theorem limit_none (options : WorkerOptions) (cpuCores : Nat) (key : String) :
    options.limit cpuCores key none = 8 := by
  simp only [WorkerOptions.limit]
  split
  · rfl
  · split <;> rfl

/-- A limit that is written is in effect. -/
theorem effective_of_get? {result : Dict String String} {key : String}
    {limit : Option Workers → Int} {option : Option Workers} (hnone : limit none = 8)
    (h : result.get? key = Workers.text limit option) : effective result key = limit option := by
  rw [effective, h]
  cases option with
  | none => exact hnone.symm
  | some workers => simp [Workers.text]

/-- A parameter takes the value that its option asks for. -/
theorem effective_of_eq_ok {options : WorkerOptions} {cpuCores : Nat}
    {result : Dict String String}
    (h : calculateWorkerProcessConfig options cpuCores = .ok result)
    {limit : String × Option Workers} (hlimit : limit ∈ options.limits) :
    effective result limit.1 = options.limit cpuCores limit.1 limit.2 := by
  obtain ⟨-, rfl⟩ := calculateWorkerProcessConfig_eq_ok.mp h
  apply effective_of_get? (limit_none options cpuCores limit.1)
  simp only [WorkerOptions.limits, List.mem_cons, List.not_mem_nil, or_false] at hlimit
  rcases hlimit with rfl | rfl | rfl | rfl | rfl <;>
    simp [WorkerOptions.limits, get?_writeLimit]

/-- The limits that are written are texts of numbers. -/
def Numeric (result : Dict String String) : Prop :=
  ∀ entry ∈ result.entries, ∃ n : Int, entry.2 = toString n

/-- Numbers are written, and nothing else. -/
theorem numeric_writeLimit {result : Dict String String} (h : Numeric result) (key : String)
    (limit : Option Workers → Int) (option : Option Workers) :
    Numeric (writeLimit result key (Workers.text limit option)) := by
  cases option with
  | none => exact h
  | some workers =>
      rintro ⟨key', text⟩ hentry
      rcases Dict.mem_entries_set.mp hentry with ⟨-, rfl⟩ | ⟨-, hmem⟩
      · exact ⟨limit (some workers), rfl⟩
      · exact h _ hmem

/-- So all limits of the result are numbers. -/
theorem numeric_of_eq_ok {options : WorkerOptions} {cpuCores : Nat} {result : Dict String String}
    (h : calculateWorkerProcessConfig options cpuCores = .ok result) : Numeric result := by
  obtain ⟨-, rfl⟩ := calculateWorkerProcessConfig_eq_ok.mp h
  refine List.foldlRecOn (motive := Numeric) options.limits _ ?_ ?_
  · rintro entry ⟨⟩
  · exact fun result hresult limit _ => numeric_writeLimit hresult _ _ _

theorem toString_ne_auto (n : Int) : toString n ≠ "auto" := by
  intro h
  have hletter : 'a' ∈ (toString n).toList := by simp [h]
  exact absurd hletter (Decimal.not_mem_toString_int rfl (by decide) n)

/-! ## the consistency of the limits -/

/-- What the limits have to satisfy. -/
structure Consistent (options : WorkerOptions) (cpuCores : Nat) (result : Dict String String) :
    Prop where
  maintenance_le : effective result "max_parallel_maintenance_workers" ≤
    effective result "max_parallel_workers"
  parallel_le : effective result "max_parallel_workers" ≤ effective result "max_worker_processes"
  /-- A number that is configured, and what is written for it. -/
  configured_le : ∀ limit ∈ options.limits, ∀ n, limit.2 = some (.value n) →
    n ≤ 10 * cpuCores ∧ effective result limit.1 ≤ 10 * cpuCores
  ne_auto : ∀ entry ∈ result.entries, entry.2 ≠ "auto"

/-- The option `max_worker_processes` leaves room for `k` processes. -/
def LeavesRoom (cpuCores : Nat) (k : Int) : Option Workers → Prop
  | none => k ≤ 8
  | some .auto => k ≤ 8 ∧ k ≤ 2 * cpuCores
  | some (.value n) => k ≤ n

/-- The option `max_worker_processes` asks for `k` processes or fewer. -/
def AsksAtMost (cpuCores : Nat) (k : Int) : Option Workers → Prop
  | none => 8 ≤ k
  | some .auto => 8 ≤ k ∨ 2 * cpuCores ≤ k
  | some (.value n) => n ≤ k

/-- An unset `max_parallel_workers` leaves the default of 8, which is not cut down. -/
def ParallelFits (cpuCores : Nat) (processes parallel : Option Workers) : Prop :=
  parallel = none → LeavesRoom cpuCores 8 processes

/-- The limit of the maintenance workers is not cut down either. -/
def MaintenanceFits (cpuCores : Nat) (processes : Option Workers) :
    (parallel maintenance : Option Workers) → Prop
  | none, none | some .auto, some .auto => True
  | none, some .auto => AsksAtMost cpuCores 8 processes
  | none, some (.value m) => m ≤ 8
  | some .auto, none => LeavesRoom cpuCores 8 processes
  | some .auto, some (.value m) => LeavesRoom cpuCores m processes
  | some (.value p), none => 8 ≤ p ∧ LeavesRoom cpuCores 8 processes
  | some (.value p), some .auto => AsksAtMost cpuCores p processes
  | some (.value p), some (.value m) => m ≤ p ∧ LeavesRoom cpuCores m processes

/-- The parallel workers fit when they are at most the worker processes. -/
theorem parallelFits_iff {cpuCores : Nat} {processes parallel : Option Workers} :
    ParallelFits cpuCores processes parallel ↔
      Workers.parallel (Workers.processes cpuCores processes) parallel ≤
        Workers.processes cpuCores processes := by
  rcases parallel with _ | _ | p <;> rcases processes with _ | _ | n <;>
    simp [ParallelFits, LeavesRoom, Workers.parallel, Workers.processes]

/-- The maintenance workers fit when they are at most the parallel workers. -/
theorem maintenanceFits_iff {cpuCores : Nat} {processes parallel maintenance : Option Workers} :
    MaintenanceFits cpuCores processes parallel maintenance ↔
      Workers.uncapped (Workers.processes cpuCores processes) maintenance ≤
        Workers.parallel (Workers.processes cpuCores processes) parallel := by
  rcases parallel with _ | _ | p <;> rcases maintenance with _ | _ | m <;>
    rcases processes with _ | _ | n <;>
    simp [MaintenanceFits, LeavesRoom, AsksAtMost, Workers.parallel, Workers.uncapped,
      Workers.processes]

/-- The configured numbers are within the maximum in any case. -/
theorem limit_le {options : WorkerOptions} {cpuCores : Nat} {n : Int}
    {limit : String × Option Workers} (hvalue : limit.2 = some (.value n))
    (h : ¬ Workers.Exceeds cpuCores limit.2) :
    n ≤ 10 * cpuCores ∧ options.limit cpuCores limit.1 limit.2 ≤ 10 * cpuCores := by
  rw [hvalue] at h ⊢
  have hn : n ≤ 10 * cpuCores := not_lt.mp h
  refine ⟨hn, le_trans ?_ hn⟩
  simp only [WorkerOptions.limit]
  split
  · exact le_rfl
  · split
    · exact min_le_left _ _
    · exact le_rfl

/-- The limits are consistent when both fit. -/
theorem consistent_iff_of_eq_ok {options : WorkerOptions} {cpuCores : Nat}
    {result : Dict String String}
    (h : calculateWorkerProcessConfig options cpuCores = .ok result) :
    Consistent options cpuCores result ↔
      ParallelFits cpuCores options.maxWorkerProcesses options.maxParallelWorkers ∧
        MaintenanceFits cpuCores options.maxWorkerProcesses options.maxParallelWorkers
          options.maxParallelMaintenanceWorkers := by
  have heffective : ∀ limit ∈ options.limits,
      effective result limit.1 = options.limit cpuCores limit.1 limit.2 :=
    fun _ hlimit => effective_of_eq_ok h hlimit
  have hprocesses := heffective ("max_worker_processes", options.maxWorkerProcesses)
    (by simp [WorkerOptions.limits])
  have hparallel := heffective ("max_parallel_workers", options.maxParallelWorkers)
    (by simp [WorkerOptions.limits])
  have hmaintenance := heffective
    ("max_parallel_maintenance_workers", options.maxParallelMaintenanceWorkers)
    (by simp [WorkerOptions.limits])
  simp only [WorkerOptions.limit, reduceIte, String.reduceEq] at hprocesses hparallel hmaintenance
  rw [parallelFits_iff, maintenanceFits_iff, ← hmaintenance, ← hparallel, ← hprocesses]
  constructor
  · exact fun hconsistent => ⟨hconsistent.parallel_le, hconsistent.maintenance_le⟩
  · rintro ⟨hparallel_le, hmaintenance_le⟩
    obtain ⟨hlimits, -⟩ := calculateWorkerProcessConfig_eq_ok.mp h
    refine ⟨hmaintenance_le, hparallel_le, ?_, ?_⟩
    · intro limit hlimit n hvalue
      rw [heffective limit hlimit]
      exact limit_le hvalue (hlimits limit hlimit)
    · intro entry hentry
      obtain ⟨n, hn⟩ := numeric_of_eq_ok h entry hentry
      rw [hn]
      exact toString_ne_auto n

/-- **The limits are consistent** whenever the calculation succeeds, exactly when
a number is above the maximum, so that it fails, or the limits of the parallel
workers and of the maintenance workers fit as they are. -/
theorem calculateWorkerProcessConfig_consistent_iff (options : WorkerOptions) (cpuCores : Nat) :
    (∀ result, calculateWorkerProcessConfig options cpuCores = .ok result →
      Consistent options cpuCores result) ↔
        (∃ limit ∈ options.limits, Workers.Exceeds cpuCores limit.2) ∨
          (ParallelFits cpuCores options.maxWorkerProcesses options.maxParallelWorkers ∧
            MaintenanceFits cpuCores options.maxWorkerProcesses options.maxParallelWorkers
              options.maxParallelMaintenanceWorkers) := by
  by_cases hexceeds : ∃ limit ∈ options.limits, Workers.Exceeds cpuCores limit.2
  · refine iff_of_true (fun result h => absurd hexceeds ?_) (.inl hexceeds)
    rintro ⟨limit, hlimit, habove⟩
    exact (calculateWorkerProcessConfig_eq_ok.mp h).1 limit hlimit habove
  · have hlimits : ∀ limit ∈ options.limits, ¬ Workers.Exceeds cpuCores limit.2 :=
      fun limit hlimit habove => hexceeds ⟨limit, hlimit, habove⟩
    obtain ⟨result, hok⟩ : ∃ result, calculateWorkerProcessConfig options cpuCores = .ok result :=
      ⟨_, calculateWorkerProcessConfig_eq_ok.mpr ⟨hlimits, rfl⟩⟩
    rw [or_iff_right hexceeds, ← consistent_iff_of_eq_ok hok]
    constructor
    · exact fun h => h result hok
    · intro hconsistent result' hok'
      cases hok.symm.trans hok'
      exact hconsistent

/-- Four workers of eight are parallel, and `auto` gives the maintenance all eight. -/
def fourParallelWorkers : WorkerOptions where
  maxLogicalReplicationWorkers := some .auto
  maxParallelMaintenanceWorkers := some .auto
  maxParallelWorkers := some (.value 4)
  maxSyncWorkersPerSubscription := some .auto
  maxWorkerProcesses := some .auto

/-- Parallel workers below the maintenance workers are accepted. -/
theorem calculateWorkerProcessConfig_maintenance_above_parallel :
    ¬ ∀ options cpuCores, 1 ≤ cpuCores → ∀ result,
      calculateWorkerProcessConfig options cpuCores = .ok result →
        Consistent options cpuCores result := by
  intro h
  have hlimits : ∀ limit ∈ fourParallelWorkers.limits, ¬ Workers.Exceeds 4 limit.2 := by decide
  have hok := calculateWorkerProcessConfig_eq_ok.mpr ⟨hlimits, rfl⟩
  have hfits := (consistent_iff_of_eq_ok hok).mp (h fourParallelWorkers 4 (by decide) _ hok)
  exact absurd hfits.2 (by simp [fourParallelWorkers, MaintenanceFits, AsksAtMost])

end PostgresqlK8s.Config
