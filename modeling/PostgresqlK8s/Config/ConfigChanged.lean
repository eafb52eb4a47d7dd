import PostgresqlK8s.Config.Kept
import PostgresqlK8s.Hba.UserMap

/-!
# Config.ConfigChanged

The handler of a change of the configuration.  It validates the options against
the database and the system, builds the parameters and applies them.  What the
database fails with defers the event, a `ValueError` blocks the unit, and every
other exception leaves the handler.
-/

namespace PostgresqlK8s.Config

/-! ## what the handler finds -/

/-- The unit, its configuration and what it is told when it asks; nothing where
the database raises `psycopg2.OperationalError`. -/
structure Environment where
  isClusterInitialised : Bool
  upgradeIdle : Bool
  config : ModelConfig
  textSearchConfigs : Option (List String)
  /-- Whether a role exists. -/
  roleExists : String → Option Bool
  /-- Whether the date style can be tried. -/
  connects : Bool
  setsDateStyle : String → Bool
  timezones : Option (List String)
  tableAccessMethods : Option (List String)
  /-- `locale -a`. -/
  locales : List String
  availableCpuCores : Nat
  availableMemory : Nat

/-- The value of a text option. -/
def ModelConfig.text (config : ModelConfig) (key : String) : Option String :=
  match config.options.get? key with
  | some (.str text) => some text
  | _ => none

/-! ## the validation -/

def invalidValue (key : String) : Failure :=
  .valueError ⟨s!"{key} config option has an invalid value"⟩

/-- The value has to be one of those that the database lists. -/
def checkListed (key : String) (value : Option String) (listed : Option (List String)) :
    Except Failure Unit :=
  match listed with
  | none => .error .operationalError
  | some values => if value.any values.contains then .ok () else .error (invalidValue key)

/-- A question that the database answers about a value. -/
def checkHolds (key : String) (holds : Except Failure Bool) : Except Failure Unit := do
  if ← holds then .ok () else .error (invalidValue key)

/-- `build_postgresql_group_map`; nothing where it raises `ValueError`. -/
def buildPostgresqlGroupMap (groupMap : String) : Option (List (String × String)) :=
  ((Text.split ',' groupMap).map (Text.strip IntText.isSpace)).foldlM (fun groups mapping =>
    match Text.split '=' mapping with
    | [ldapGroup, psqlGroup] =>
        if psqlGroup ∈ Hba.accessGroups ++ ["admin"] then some groups
        else some (groups ++ [(ldapGroup, psqlGroup)])
    | _ => none) []

/-- Whether every group is a role. -/
def rolesExist (env : Environment) : List (String × String) → Except Failure Bool
  | [] => .ok true
  | (_, psqlGroup) :: groups =>
      match env.roleExists psqlGroup with
      | none => .error .operationalError
      | some false => .ok false
      | some true => rolesExist env groups

/-- `validate_group_map`. -/
def validateGroupMap (env : Environment) (groupMap : Option String) : Except Failure Bool :=
  match groupMap with
  | none => .ok true
  | some text =>
      match buildPostgresqlGroupMap text with
      | none => .ok false
      | some groups => rolesExist env groups

/-- `validate_date_style`, which catches what the database fails with, but not what
`Identifier` fails with. -/
def validateDateStyle (env : Environment) (dateStyle : Option String) : Except Failure Bool :=
  if env.connects then
    match dateStyle with
    | some style => .ok (env.setsDateStyle style)
    | none => .error .typeError
  else .ok false

/-- The locales of the system. -/
def checkLocale (env : Environment) (parameter : String) : Except Failure Unit :=
  if (env.config.text parameter).all env.locales.contains then .ok ()
  else .error (.valueError
    ⟨s!"Value for {parameter} not one of the locales available in the system"⟩)

/-- `_validate_config_options`, whose first step reads the validated options. -/
def validateConfigOptions (env : Environment) : Except Failure Unit := do
  if validationErrors env.config ≠ [] then
    .error (.validationError (validationErrors env.config))
  else
    checkListed "instance_default_text_search_config"
      (env.config.text "instance_default_text_search_config") env.textSearchConfigs
    checkHolds "ldap_map" (validateGroupMap env (env.config.text "ldap_map"))
    checkHolds "request_date_style" (validateDateStyle env (env.config.text "request_date_style"))
    checkListed "request_time_zone" (env.config.text "request_time_zone") env.timezones
    checkListed "storage_default_table_access_method"
      (env.config.text "storage_default_table_access_method") env.tableAccessMethods
    checkLocale env "response_lc_monetary"
    checkLocale env "response_lc_numeric"
    checkLocale env "response_lc_time"

/-! ## the handler -/

/-- How the handler ends. -/
inductive Outcome
  | deferred
  | blocked (message : String)
  /-- The parameters are rendered and applied. -/
  | applied (parameters : Dict String Value)
  /-- An exception leaves the handler. -/
  | raised (failure : Failure)

/-- The `except` clauses. -/
def concluded : Except Failure (Dict String Value) → Outcome
  | .ok parameters => .applied parameters
  | .error .operationalError => .deferred
  | .error (.valueError _) | .error (.validationError _) =>
      .blocked "Configuration Error. Please check the logs"
  | .error failure => .raised failure

/-- `_on_config_changed`. -/
def onConfigChanged (env : Environment) : Outcome :=
  if !env.isClusterInitialised then .deferred
  else if !env.upgradeIdle then .deferred
  else concluded do
    validateConfigOptions env
    buildCharmParameters env.config env.availableCpuCores env.availableMemory

/-! ## what the handler does not catch -/

/-- The handler has a clause for the exception. -/
def Failure.Caught : Failure → Prop
  | .operationalError | .valueError _ | .validationError _ => True
  | _ => False

/-- It ends in an exception that the handler has no clause for. -/
def Escapes {α : Type} (result : Except Failure α) : Prop :=
  ∃ failure, result = .error failure ∧ ¬ failure.Caught

section

variable {α β : Type}

@[simp] theorem not_escapes_ok (a : α) : ¬ Escapes (.ok a) := by
  rintro ⟨failure, h, -⟩
  cases h

@[simp] theorem escapes_error_iff {failure : Failure} :
    Escapes (.error failure : Except Failure α) ↔ ¬ failure.Caught := by
  simp [Escapes]

/-- A failure escapes from a sequence where it escapes from the first step that fails. -/
theorem escapes_bind_iff {x : Except Failure α} {f : α → Except Failure β} :
    Escapes (x >>= f) ↔ Escapes x ∨ ∃ a, x = .ok a ∧ Escapes (f a) := by
  cases x with
  | ok a => simp [bind, Except.bind]
  | error failure => simp [bind, Except.bind]

/-- A check, and what comes after it. -/
theorem escapes_check_iff {x : Except Failure Unit} {f : Unit → Except Failure β} :
    Escapes (x >>= f) ↔ Escapes x ∨ x = .ok () ∧ Escapes (f ()) := by
  rw [escapes_bind_iff]
  exact or_congr_right ⟨fun ⟨_, h⟩ => h, fun h => ⟨(), h⟩⟩

/-- A check that passes hands over to what follows. -/
theorem check_eq_ok {x : Except Failure Unit} {f : Unit → Except Failure β} {b : β} :
    (x >>= f) = .ok b ↔ x = .ok () ∧ f () = .ok b := by
  rw [Except.bind_eq_ok]
  exact ⟨fun ⟨_, h⟩ => h, fun h => ⟨(), h⟩⟩

/-- The handler raises exactly what escapes from the validation. -/
theorem raised_concluded_iff {result : Except Failure (Dict String Value)} :
    (∃ failure, concluded result = .raised failure) ↔ Escapes result := by
  rcases result with failure | parameters
  · cases failure <;> simp [concluded, Failure.Caught]
  · simp [concluded]

end

section

variable {env : Environment} {key : String} {value : Option String}
  {listed : Option (List String)}

/-- A value that the database does not list ends in a `ValueError`. -/
theorem not_escapes_checkListed : ¬ Escapes (checkListed key value listed) := by
  cases listed with
  | none => simp [checkListed, Failure.Caught]
  | some values =>
      rw [checkListed]
      split <;> simp [invalidValue, Failure.Caught]

/-- A value passes when the database lists it. -/
theorem checkListed_eq_ok : checkListed key value listed = .ok () ↔
    ∃ values, listed = some values ∧ ∃ text ∈ values, value = some text := by
  cases listed with
  | none => simp [checkListed]
  | some values => cases value <;> simp [checkListed]

/-- A locale that the system does not know ends in a `ValueError`. -/
theorem not_escapes_checkLocale {parameter : String} : ¬ Escapes (checkLocale env parameter) := by
  rw [checkLocale]
  split <;> simp [Failure.Caught]

/-- A locale passes when it is unset or one of the system's. -/
theorem checkLocale_eq_ok {parameter : String} : checkLocale env parameter = .ok () ↔
    ∀ locale, env.config.text parameter = some locale → locale ∈ env.locales := by
  rw [checkLocale]
  cases env.config.text parameter <;> simp

/-- Asking for the roles raises only what is caught. -/
theorem not_escapes_rolesExist (groups : List (String × String)) :
    ¬ Escapes (rolesExist env groups) := by
  induction groups with
  | nil => simp [rolesExist]
  | cons group groups ih =>
      rw [rolesExist]
      split
      · simp [Failure.Caught]
      · simp
      · exact ih

/-- All roles exist when the database answers so for each of them. -/
theorem rolesExist_eq_ok (groups : List (String × String)) :
    rolesExist env groups = .ok true ↔ ∀ group ∈ groups, env.roleExists group.2 = some true := by
  induction groups with
  | nil => simp [rolesExist]
  | cons group groups ih =>
      rw [rolesExist, List.forall_mem_cons]
      cases hrole : env.roleExists group.2 with
      | none => simp
      | some holds => cases holds <;> simp [ih]

/-- Asserting the answer of a check adds no failure that escapes. -/
theorem escapes_checkHolds_iff {holds : Except Failure Bool} :
    Escapes (checkHolds key holds) ↔ Escapes holds := by
  rw [checkHolds, escapes_bind_iff]
  refine or_iff_left ?_
  rintro ⟨holds, -, h⟩
  cases holds <;> simp [invalidValue, Failure.Caught] at h

/-- The assertion passes when the answer is `True`. -/
theorem checkHolds_eq_ok {holds : Except Failure Bool} :
    checkHolds key holds = .ok () ↔ holds = .ok true := by
  rw [checkHolds, Except.bind_eq_ok]
  constructor
  · rintro ⟨holds, rfl, h⟩
    cases holds with
    | false => simp at h
    | true => rfl
  · rintro rfl
    exact ⟨true, rfl, rfl⟩

/-- Nothing escapes from the check of a group map. -/
theorem not_escapes_validateGroupMap {groupMap : Option String} :
    ¬ Escapes (validateGroupMap env groupMap) := by
  cases groupMap with
  | none => simp [validateGroupMap]
  | some text =>
      rw [validateGroupMap]
      cases buildPostgresqlGroupMap text with
      | none => simp
      | some groups => exact not_escapes_rolesExist groups

/-- A group map passes when it can be read and all of its roles exist. -/
theorem validateGroupMap_eq_ok {groupMap : Option String} :
    validateGroupMap env groupMap = .ok true ↔ ∀ text, groupMap = some text →
      ∃ groups, buildPostgresqlGroupMap text = some groups ∧
        ∀ group ∈ groups, env.roleExists group.2 = some true := by
  cases groupMap with
  | none => simp [validateGroupMap]
  | some text =>
      cases hgroups : buildPostgresqlGroupMap text with
      | none => simp [validateGroupMap, hgroups]
      | some groups => simpa [validateGroupMap, hgroups] using rolesExist_eq_ok groups

/-- An unset date style escapes as a `TypeError`, once there is a connection. -/
theorem escapes_validateDateStyle_iff {dateStyle : Option String} :
    Escapes (validateDateStyle env dateStyle) ↔ env.connects = true ∧ dateStyle = none := by
  cases hconnects : env.connects with
  | false => simp [validateDateStyle, hconnects]
  | true => cases dateStyle <;> simp [validateDateStyle, hconnects, Failure.Caught]

/-- A date style passes when the database accepts it. -/
theorem validateDateStyle_eq_ok {dateStyle : Option String} :
    validateDateStyle env dateStyle = .ok true ↔ env.connects = true ∧
      ∃ style, dateStyle = some style ∧ env.setsDateStyle style = true := by
  cases hconnects : env.connects with
  | false => simp [validateDateStyle, hconnects]
  | true => cases dateStyle <;> simp [validateDateStyle, hconnects]

end

/-- The one failure of the parameters that escapes is that of the buffers. -/
theorem escapes_buildPostgresqlParameters_iff {config : ModelConfig}
    (hvalid : validationErrors config = []) (availableMemory : Nat) :
    Escapes (buildPostgresqlParameters config.options availableMemory config.limitMemory) ↔
      SharedBuffersRefused config (usableMemory availableMemory config.limitMemory) := by
  generalize hmemory : usableMemory availableMemory config.limitMemory = memory
  obtain ⟨profile, hprofile⟩ := exists_profile hvalid
  have hshared := get?_shared_buffers config
  rw [SharedBuffersRefused, ModelConfig.requestedBuffers]
  cases hbuffers : config.options.get? "memory_shared_buffers" with
  | none =>
      rw [hbuffers] at hshared
      rw [buildPostgresqlParameters_of_none hmemory hprofile hshared]
      by_cases hrefused : 125 * (2 * memory).tdiv 5000000 < 0
      · rw [if_pos hrefused]
        exact iff_of_true ⟨_, rfl, id⟩ hrefused
      · rw [if_neg hrefused]
        exact iff_of_false (by split <;> simp) hrefused
  | some value =>
      obtain ⟨pages, rfl⟩ := exists_int_of_shared_buffers hvalid hbuffers
      rw [hbuffers] at hshared
      rw [buildPostgresqlParameters_of_some hmemory hprofile hshared]
      by_cases hrefused : 125 * (2 * memory).tdiv 5000000 < pages
      · rw [if_pos hrefused]
        exact iff_of_true ⟨_, rfl, id⟩ hrefused
      · rw [if_neg hrefused]
        exact iff_of_false (by split <;> simp) hrefused

/-- The worker processes add none, since theirs is a `ValueError`. -/
theorem escapes_buildCharmParameters_iff {config : ModelConfig}
    (hvalid : validationErrors config = []) (availableCpuCores availableMemory : Nat) :
    Escapes (buildCharmParameters config availableCpuCores availableMemory) ↔
      SharedBuffersRefused config (usableMemory availableMemory config.limitMemory) := by
  rw [buildCharmParameters, if_neg (not_not.mpr hvalid), escapes_bind_iff,
    escapes_buildPostgresqlParameters_iff hvalid]
  refine or_iff_left ?_
  rintro ⟨pgParameters, -, hworkers⟩
  rw [escapes_bind_iff] at hworkers
  cases hcalculate : calculateWorkerProcessConfig config.workerOptions availableCpuCores with
  | ok workerConfigs => simp [hcalculate, Except.mapError, pure, Except.pure] at hworkers
  | error error => simp [hcalculate, Except.mapError, Failure.Caught] at hworkers

/-! ## the handler always ends well -/

/-- The validation comes as far as the date style. -/
structure ReachesDateStyle (env : Environment) : Prop where
  isClusterInitialised : env.isClusterInitialised = true
  upgradeIdle : env.upgradeIdle = true
  valid : validationErrors env.config = []
  textSearchConfig : ∃ values, env.textSearchConfigs = some values ∧ ∃ text ∈ values,
    env.config.text "instance_default_text_search_config" = some text
  groupMap : ∀ text, env.config.text "ldap_map" = some text →
    ∃ groups, buildPostgresqlGroupMap text = some groups ∧
      ∀ group ∈ groups, env.roleExists group.2 = some true
  connects : env.connects = true

/-- The checks after it pass. -/
structure PassesTheRest (env : Environment) : Prop where
  dateStyle : ∃ style, env.config.text "request_date_style" = some style ∧
    env.setsDateStyle style = true
  timezone : ∃ values, env.timezones = some values ∧ ∃ text ∈ values,
    env.config.text "request_time_zone" = some text
  tableAccessMethod : ∃ values, env.tableAccessMethods = some values ∧ ∃ text ∈ values,
    env.config.text "storage_default_table_access_method" = some text
  locales : ∀ parameter ∈ ["response_lc_monetary", "response_lc_numeric", "response_lc_time"],
    ∀ locale, env.config.text parameter = some locale → locale ∈ env.locales

/-- The handler applies the parameters, defers the event or blocks the unit. -/
def EndsWell (outcome : Outcome) : Prop :=
  (∃ parameters, outcome = .applied parameters) ∨ outcome = .deferred ∨
    outcome = .blocked "Configuration Error. Please check the logs"

/-- The handler ends well when it raises nothing. -/
theorem endsWell_iff (env : Environment) :
    EndsWell (onConfigChanged env) ↔ ¬ ∃ failure, onConfigChanged env = .raised failure := by
  have hblocked : ∀ message, onConfigChanged env = .blocked message →
      message = "Configuration Error. Please check the logs" := by
    intro message h
    rw [onConfigChanged] at h
    split at h
    · cases h
    · split at h
      · cases h
      · unfold concluded at h
        split at h <;> cases h <;> rfl
  cases houtcome : onConfigChanged env with
  | deferred => simp [EndsWell]
  | blocked message => simp [EndsWell, hblocked message houtcome]
  | applied parameters => simp [EndsWell]
  | raised failure => simp [EndsWell]

/-- What leaves the validation is what the date style fails with when it is unset. -/
theorem escapes_validateConfigOptions_iff {env : Environment}
    (hvalid : validationErrors env.config = []) :
    Escapes (validateConfigOptions env) ↔
      (∃ values, env.textSearchConfigs = some values ∧ ∃ text ∈ values,
        env.config.text "instance_default_text_search_config" = some text) ∧
      (∀ text, env.config.text "ldap_map" = some text →
        ∃ groups, buildPostgresqlGroupMap text = some groups ∧
          ∀ group ∈ groups, env.roleExists group.2 = some true) ∧
      env.connects = true ∧ env.config.text "request_date_style" = none := by
  simp only [validateConfigOptions, if_neg (not_not.mpr hvalid), escapes_check_iff,
    not_escapes_checkListed, not_escapes_checkLocale, escapes_checkHolds_iff,
    not_escapes_validateGroupMap, escapes_validateDateStyle_iff, checkListed_eq_ok,
    checkHolds_eq_ok, validateGroupMap_eq_ok, false_or, or_false, and_false]

/-- The validation passes when every check does. -/
theorem validateConfigOptions_eq_ok {env : Environment}
    (hvalid : validationErrors env.config = []) :
    validateConfigOptions env = .ok () ↔
      (∃ values, env.textSearchConfigs = some values ∧ ∃ text ∈ values,
        env.config.text "instance_default_text_search_config" = some text) ∧
      (∀ text, env.config.text "ldap_map" = some text →
        ∃ groups, buildPostgresqlGroupMap text = some groups ∧
          ∀ group ∈ groups, env.roleExists group.2 = some true) ∧
      env.connects = true ∧ PassesTheRest env := by
  simp only [validateConfigOptions, if_neg (not_not.mpr hvalid), check_eq_ok, checkListed_eq_ok,
    checkLocale_eq_ok, checkHolds_eq_ok, validateGroupMap_eq_ok, validateDateStyle_eq_ok]
  constructor
  · rintro ⟨htext, hgroups, ⟨hconnects, hstyle⟩, htimezone, hmethod, hmonetary, hnumeric, htime⟩
    exact ⟨htext, hgroups, hconnects, hstyle, htimezone, hmethod,
      by simp only [List.forall_mem_cons]; exact ⟨hmonetary, hnumeric, htime, by simp⟩⟩
  · rintro ⟨htext, hgroups, hconnects, hrest⟩
    exact ⟨htext, hgroups, ⟨hconnects, hrest.dateStyle⟩, hrest.timezone, hrest.tableAccessMethod,
      hrest.locales _ (by simp), hrest.locales _ (by simp), hrest.locales _ (by simp)⟩

/-- An invalid configuration is caught. -/
theorem not_escapes_of_not_valid {env : Environment} (h : validationErrors env.config ≠ []) :
    ¬ Escapes (validateConfigOptions env) ∧ validateConfigOptions env ≠ .ok () := by
  rw [validateConfigOptions, if_pos h]
  simp [Failure.Caught]

/-- **The handler ends well** unless the validation comes to an unset date style,
or passes and the shared buffers are refused. -/
theorem onConfigChanged_endsWell_iff (env : Environment) :
    EndsWell (onConfigChanged env) ↔
      ¬ (ReachesDateStyle env ∧ (env.config.text "request_date_style" = none ∨
        PassesTheRest env ∧ SharedBuffersRefused env.config
          (usableMemory env.availableMemory env.config.limitMemory))) := by
  rw [endsWell_iff, not_iff_not, onConfigChanged]
  cases hinitialised : env.isClusterInitialised with
  | false => exact iff_of_false (by simp) fun h => by simp [h.1.isClusterInitialised] at hinitialised
  | true =>
      cases hidle : env.upgradeIdle with
      | false => exact iff_of_false (by simp) fun h => by simp [h.1.upgradeIdle] at hidle
      | true =>
          rw [if_neg (by simp), if_neg (by simp), raised_concluded_iff, escapes_check_iff]
          by_cases hvalid : validationErrors env.config = []
          · rw [escapes_validateConfigOptions_iff hvalid, validateConfigOptions_eq_ok hvalid,
              escapes_buildCharmParameters_iff hvalid]
            constructor
            · rintro (⟨htext, hgroups, hconnects, hstyle⟩ |
                ⟨⟨htext, hgroups, hconnects, hrest⟩, hrefused⟩)
              · exact ⟨⟨hinitialised, hidle, hvalid, htext, hgroups, hconnects⟩, .inl hstyle⟩
              · exact ⟨⟨hinitialised, hidle, hvalid, htext, hgroups, hconnects⟩,
                  .inr ⟨hrest, hrefused⟩⟩
            · rintro ⟨hreaches, hstyle | ⟨hrest, hrefused⟩⟩
              · exact .inl ⟨hreaches.textSearchConfig, hreaches.groupMap, hreaches.connects, hstyle⟩
              · exact .inr ⟨⟨hreaches.textSearchConfig, hreaches.groupMap, hreaches.connects,
                  hrest⟩, hrefused⟩
          · obtain ⟨hescapes, hok⟩ := not_escapes_of_not_valid hvalid
            exact iff_of_false (fun h => h.elim hescapes fun h => hok h.1)
              fun h => hvalid h.1.valid

/-- A unit with eight gigabytes of memory, whose database accepts every value. -/
def eightGigabytes : Environment where
  isClusterInitialised := true
  upgradeIdle := true
  config := largeBuffers.config
  textSearchConfigs := some ["pg_catalog.simple"]
  roleExists _ := some true
  connects := true
  setsDateStyle _ := true
  timezones := some ["UTC"]
  tableAccessMethods := some ["heap"]
  locales := ["C"]
  availableCpuCores := 4
  availableMemory := 8 * 10 ^ 9

/-- The options of `largeBuffers` that are texts. -/
theorem text_largeBuffers {key : String} (h : startsWith key "plugin" = false) :
    largeBuffers.config.text key =
      match (largeBuffers.options.find? fun option => option.1 = key).map Prod.snd with
      | some (.str text) => some text
      | _ => none := by
  rw [ModelConfig.text, largeBuffers.get?_config_of_startsWith h]

/-- The texts that the database is asked about. -/
theorem largeBuffers_texts :
    largeBuffers.config.text "instance_default_text_search_config" = some "pg_catalog.simple" ∧
      largeBuffers.config.text "request_date_style" = some "ISO, MDY" ∧
      largeBuffers.config.text "request_time_zone" = some "UTC" ∧
      largeBuffers.config.text "storage_default_table_access_method" = some "heap" := by
  refine ⟨?_, ?_, ?_, ?_⟩
  all_goals
    rw [text_largeBuffers (by decide)]
    decide

/-- The texts that are unset. -/
theorem largeBuffers_no_texts :
    ∀ key ∈ ["ldap_map", "response_lc_monetary", "response_lc_numeric", "response_lc_time"],
      largeBuffers.config.text key = none := by
  simp only [List.forall_mem_cons]
  refine ⟨?_, ?_, ?_, ?_, by simp⟩
  all_goals
    rw [text_largeBuffers (by decide)]
    decide

/-- The database accepts all of them. -/
theorem validateConfigOptions_eightGigabytes : validateConfigOptions eightGigabytes = .ok () := by
  have hvalid : validationErrors eightGigabytes.config = [] := largeBuffers.validationErrors_config
  obtain ⟨htext, hstyle, htimezone, hmethod⟩ := largeBuffers_texts
  have hlocales := largeBuffers_no_texts
  rw [validateConfigOptions_eq_ok hvalid]
  refine ⟨⟨["pg_catalog.simple"], rfl, _, by simp, htext⟩, fun text h => ?_, rfl,
    ⟨_, hstyle, rfl⟩, ⟨["UTC"], rfl, _, by simp, htimezone⟩, ⟨["heap"], rfl, _, by simp, hmethod⟩,
    fun parameter hparameter locale h => ?_⟩
  · cases (hlocales "ldap_map" (by simp)).symm.trans h
  · cases (hlocales parameter (List.mem_cons_of_mem _ hparameter)).symm.trans h

/-- A million pages are more than two fifths of 8 GB, as the code counts them. -/
theorem sharedBuffersRefused_eightGigabytes : SharedBuffersRefused largeBuffers.config
    (usableMemory eightGigabytes.availableMemory largeBuffers.config.limitMemory) := by
  obtain ⟨hlimit, hbuffers, -⟩ := largeBuffers_options
  rw [hlimit, usableMemory, SharedBuffersRefused, ModelConfig.requestedBuffers, hbuffers]
  decide

/-- With a million pages of buffers on 8 GB, the exception leaves the handler. -/
theorem onConfigChanged_sharedBuffers_raised :
    ¬ ∀ env : Environment, env.isClusterInitialised = true → env.upgradeIdle = true →
      EndsWell (onConfigChanged env) := by
  intro h
  refine (endsWell_iff _).mp (h eightGigabytes rfl rfl) ?_
  rw [onConfigChanged, if_neg (by decide), if_neg (by decide), raised_concluded_iff,
    escapes_check_iff]
  exact .inr ⟨validateConfigOptions_eightGigabytes, (escapes_buildCharmParameters_iff
    largeBuffers.validationErrors_config _ _).mpr sharedBuffersRefused_eightGigabytes⟩

end PostgresqlK8s.Config
