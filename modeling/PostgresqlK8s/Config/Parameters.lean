import PostgresqlK8s.Config.WorkerProcesses
import PostgresqlK8s.Lib.Trunc

/-!
# Config.Parameters

The parameters of PostgreSQL.  An option of the charm that carries the prefix of
a group becomes the parameter that it is named after; the memory parameters are
calculated from the memory of the unit, and the limits of the worker processes
and the compression of the WAL are written over the result.
-/

namespace PostgresqlK8s.Config

/-- What the parameters are not built for. -/
inductive Failure
  | keyError (key : String)
  | typeError
  /-- `Exception` itself. -/
  | exception (message : String)
  | valueError (error : ValueError)
  /-- `ValidationError`, which is a `ValueError`. -/
  | validationError (errors : List FieldError)
  /-- `psycopg2.OperationalError`. -/
  | operationalError
deriving DecidableEq, Repr

/-! ## the names -/

/-- The prefixes of the options that are parameters. -/
def parameterPrefixes : List String :=
  ["connection", "cpu", "durability", "instance", "logging", "memory", "optimizer", "request",
    "response", "session", "storage", "vacuum"]

/-- `str.startswith`. -/
def startsWith (text start : String) : Bool := decide (start.toList <+: text.toList)

/-- `str.capitalize`, of a text in ASCII. -/
def capitalize (text : String) : String :=
  match text.toList with
  | [] => ""
  | c :: cs => String.ofList (c.toUpper :: cs.map Char.toLower)

/-- The parameter of a name without its prefix. -/
def renamed (parameter : String) : Option String :=
  if parameter = "date_style" ∨ parameter = "time_zone" then
    some (String.join ((Text.split '_' parameter).map capitalize))
  else if startsWith parameter "pg_stat_statements" then
    some ("pg_stat_statements." ++
      if startsWith parameter "pg_stat_statements_" then
        String.ofList (parameter.toList.drop "pg_stat_statements_".length)
      else parameter)
  else if parameter = "maximum_lag_on_failover" then none
  else some parameter

/-- The parameter that an option is written under. -/
def parameterOf (config : String) : Option String :=
  if parameterPrefixes.any (startsWith config) then
    renamed (Text.join '_' (Text.split '_' config).tail)
  else none

/-- Write an option that is a parameter. -/
def writeParameter (parameters : Dict String Value) (option : String × Value) :
    Dict String Value :=
  match parameterOf option.1 with
  | some parameter => parameters.set parameter option.2
  | none => parameters

/-- The options that are parameters, one after the other. -/
def parametersOf (configOptions : Dict String Value) : Dict String Value :=
  configOptions.entries.foldl writeParameter ∅

/-- An option writes its own parameter. -/
theorem get?_writeParameter (parameters : Dict String Value) (option : String × Value)
    (parameter : String) : (writeParameter parameters option).get? parameter =
      if parameterOf option.1 = some parameter then some option.2
      else parameters.get? parameter := by
  rw [writeParameter]
  cases hparameter : parameterOf option.1 with
  | none => simp
  | some parameter' =>
      by_cases heq : parameter = parameter'
      · simp [heq]
      · rw [Dict.get?_set_of_ne _ _ heq, if_neg fun h => heq (Option.some.inj h).symm]

/-- **Loop**: a parameter that one option writes has its value in the end. -/
theorem get?_foldl_writeParameter {key parameter : String} (hkey : parameterOf key = some parameter)
    {options : List (String × Value)} (hnodup : (options.map Prod.fst).Nodup)
    (hunique : ∀ option ∈ options, parameterOf option.1 = some parameter → option.1 = key)
    (parameters : Dict String Value) : (options.foldl writeParameter parameters).get? parameter =
      (((options.find? fun option => option.1 = key).map Prod.snd) <|>
        parameters.get? parameter) := by
  induction options generalizing parameters with
  | nil => simp
  | cons option options ih =>
      rw [List.map_cons, List.nodup_cons] at hnodup
      rw [List.foldl_cons, ih hnodup.2 fun o ho => hunique o (List.mem_cons_of_mem _ ho),
        get?_writeParameter]
      by_cases heq : option.1 = key
      · have hnone : options.find? (fun o => o.1 = key) = none := by
          rw [List.find?_eq_none]
          rintro o ho hkey'
          exact hnodup.1 (heq ▸ (of_decide_eq_true hkey') ▸ List.mem_map_of_mem ho)
        simp [heq, hnone, hkey]
      · have hne : parameterOf option.1 ≠ some parameter :=
          fun h => heq (hunique option List.mem_cons_self h)
        simp [heq, hne]

/-- A parameter that only one option is written as has the value of the option. -/
theorem get?_parametersOf {configOptions : Dict String Value} {key parameter : String}
    (hkey : parameterOf key = some parameter)
    (hunique : ∀ key' ∈ configOptions.keys, parameterOf key' = some parameter → key' = key) :
    (parametersOf configOptions).get? parameter = configOptions.get? key := by
  rw [parametersOf, get?_foldl_writeParameter hkey configOptions.nodup
    fun option hoption => hunique option.1 (List.mem_map_of_mem hoption)]
  simp [Dict.get?]

/-! ## the memory -/

/-- What a value is in a calculation. -/
def Value.number : Value → Option ℚ
  | .int n => some n
  | .bool b => some (if b then 1 else 0)
  | .float q => some q
  | .str _ => none

/-- The memory that can be used; a limit of zero is none. -/
def usableMemory (availableMemory : Int) (limitMemory : Option Int) : Int :=
  match limitMemory with
  | some limit => if limit = 0 then availableMemory else min availableMemory limit
  | none => availableMemory

def sharedBuffersMaxValueInMb (availableMemory : Int) : Int :=
  trunc (availableMemory * (2 / 5) / 10 ^ 6)

def sharedBuffersMaxValue (availableMemory : Int) : Int :=
  trunc (sharedBuffersMaxValueInMb availableMemory * 10 ^ 3 / 8)

def sharedBuffersError (availableMemory : Int) : Failure :=
  .exception <| "Shared buffers config option should be at most 40% of the available memory, " ++
    s!"which is {sharedBuffersMaxValueInMb availableMemory}MB"

/-- The default of the shared buffers, in bytes. -/
def defaultSharedBuffers (availableMemory : Int) : Int := trunc (availableMemory * (1 / 4))

/-- `shared_buffers`, from a number of bytes. -/
def sharedBuffersText (sharedBuffers : Int) : Value :=
  .str (toString (trunc (sharedBuffers * 128 / 10 ^ 6)))

/-- `effective_cache_size`: what the shared buffers leave, in bytes. -/
def effectiveCacheSizeText (availableMemory : Int) (sharedBuffers : ℚ) : Value :=
  .str (toString (trunc (trunc (availableMemory - sharedBuffers) / 10 ^ 6) * 128))

/-- The memory parameters of the profile `production`. -/
def productionParameters (availableMemory : Int) (sharedBuffers : Option ℚ)
    (parameters : Dict String Value) : Dict String Value :=
  match sharedBuffers with
  | some buffers =>
      -- In bytes; a buffer of 8 kB is counted as 8000.
      parameters.set "effective_cache_size"
        (effectiveCacheSizeText availableMemory (buffers * 8 * 10 ^ 3))
  | none =>
      let buffers := defaultSharedBuffers availableMemory
      (parameters.set "shared_buffers" (sharedBuffersText buffers)).set "effective_cache_size"
        (effectiveCacheSizeText availableMemory buffers)

/-- `build_postgresql_parameters`. -/
def buildPostgresqlParameters (configOptions : Dict String Value) (availableMemory : Int)
    (limitMemory : Option Int) : Except Failure (Dict String Value) := do
  let availableMemory := usableMemory availableMemory limitMemory
  let some profile := configOptions.get? "profile" | .error (.keyError "profile")
  let parameters := parametersOf configOptions
  let sharedBuffers := parameters.get? "shared_buffers"
  let some requested := (sharedBuffers.getD (.int 0)).number | .error .typeError
  if requested > sharedBuffersMaxValue availableMemory then
    .error (sharedBuffersError availableMemory)
  else if profile = .str "production" then
    return productionParameters availableMemory (sharedBuffers.map fun _ => requested) parameters
  else return parameters

/-! ## the parameters of the charm -/

/-- `self.config.profile_limit_memory`, in bytes. -/
def ModelConfig.limitMemory (config : ModelConfig) : Option Int :=
  match config.options.get? "profile_limit_memory" with
  | some (.int n) => if n = 0 then none else some (n * 10 ^ 6)
  | _ => none

/-- The compression of the WAL is on by default. -/
def ModelConfig.walCompression (config : ModelConfig) : String :=
  match config.options.get? "cpu_wal_compression" with
  | some (.bool b) => if b then "on" else "off"
  | _ => "on"

/-- `_build_postgresql_parameters`, whose first step reads the validated options. -/
def buildCharmParameters (config : ModelConfig) (availableCpuCores : Nat)
    (availableMemory : Int) : Except Failure (Dict String Value) := do
  if validationErrors config ≠ [] then .error (.validationError (validationErrors config))
  else
    let pgParameters ←
      buildPostgresqlParameters config.options availableMemory config.limitMemory
    let workerConfigs ← (calculateWorkerProcessConfig config.workerOptions
      availableCpuCores).mapError Failure.valueError
    return (pgParameters.update (workerConfigs.entries.map fun entry =>
      (entry.1, .str entry.2))).set "wal_compression" (.str config.walCompression)

end PostgresqlK8s.Config
