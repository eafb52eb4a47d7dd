import Mathlib.Data.List.Nodup
import PostgresqlK8s.Status
import PostgresqlK8s.Lib.EarlyExit
import PostgresqlK8s.LegacyDb.Relation
import PostgresqlK8s.Extensions.PluginConfig

/-!
# LegacyDb.DbProvides

The handlers of the legacy endpoints `db` and `db-admin`, and the part of the
configuration handler that sets their relations up again.

There is one `DbProvides` object for each endpoint.  They differ in the flag
`admin`, which decides whether the user of a relation is created as a
superuser, and both are handed any relation.  What the handlers find out about
the cluster is part of their answers; an exception that none of them catches
drops what was written to the databags, but neither the users in the database
nor the status of the unit.
-/

namespace PostgresqlK8s.LegacyDb

open Extensions (PluginConfig)
open EarlyExit (reached reached_cons_of_pos reached_cons_of_neg reached_congr mem_of_mem_reached)

/-- `EXTENSIONS_BLOCKING_MESSAGE`. -/
def extensionsBlockingMessage : String := "extensions requested through relation"

/-- `ROLES_BLOCKING_MESSAGE`. -/
def rolesBlockingMessage : String :=
  "roles requested through relation, use postgresql_client interface instead"

/-- `ENDPOINT_SIMULTANEOUSLY_BLOCKING_MESSAGE`. -/
def endpointSimultaneouslyBlockingMessage : String :=
  "Please choose one endpoint to use. No need to relate all of them simultaneously!"

/-- The message of a unit with an invalid configuration. -/
def configurationErrorMessage : String := "Configuration Error. Please check the logs"

/-- `DATABASE_PORT`. -/
def databasePort : String := "5432"

/-- The charm, as far as its legacy relations go. -/
structure Charm where
  /-- `app.name`. -/
  app : String
  config : PluginConfig
  unitStatus : Status
  /-- There are relations on the endpoint `database`. -/
  databaseRelated : Bool
  /-- `model.relations["db"]`. -/
  db : List Nat
  /-- `model.relations["db-admin"]`. -/
  dbAdmin : List Nat
  nodup : (db ++ dbAdmin).Nodup
  relation : Nat → LegacyRelation
  /-- The users `relation_id_…` that exist, and whether they are superusers. -/
  users : Nat → Option Bool
  /-- `departing` in the peer databag of this unit. -/
  departing : Bool

/-! ## what the handlers find out -/

/-- What is passed to `ConnectionString`. -/
structure ConnectionParameters where
  host : String
  dbname : String
  port : String
  user : String
  password : String
  fallbackApplicationName : String

/-- How `create_user` ends. -/
inductive CreateUserAnswer
  | created
  /-- The role was created, granting it another role failed. -/
  | notGranted
  | failed
deriving DecidableEq, Repr

/-- How `update_config` ends. -/
inductive UpdateConfigAnswer
  | updated
  /-- A restart was requested, which leaves a status of its own. -/
  | restarted (status : Status) (foreign : status.message ≠ extensionsBlockingMessage)
  /-- The access to the resources of the cluster is not authorised. -/
  | refused
  /-- An exception that is not caught. -/
  | raised

/-- What `set_up_relation` finds out. -/
structure SetUpAnswers where
  /-- `new_password()`. -/
  newPassword : String
  createUser : CreateUserAnswer
  databaseCreated : Bool
  endpoint : String
  primaryEndpoint : String
  replicasEndpoint : String
  /-- `str(ConnectionString(…))`. -/
  connectionString : ConnectionParameters → String
  /-- The version of PostgreSQL, unless it cannot be retrieved. -/
  postgresqlVersion : Option String
  updateConfig : UpdateConfigAnswer

/-- How `set_up_relation` ends. -/
inductive SetUpResult
  /-- `True` is returned. -/
  | completed
  /-- `False` is returned. -/
  | refused
  /-- An exception that is not caught. -/
  | raised
deriving DecidableEq, Repr

/-- How `set_up_relation` ends, where `update_config` is the last thing it
calls. -/
def UpdateConfigAnswer.result : UpdateConfigAnswer → SetUpResult
  | .raised => .raised
  | _ => .completed

/-! ## the steps of set_up_relation -/

namespace LegacyRelation

/-- Write the same values to both databags. -/
def publish (updates : List (String × String)) (r : LegacyRelation) : LegacyRelation :=
  { r with
    localAppData := r.localAppData.update updates
    localUnitData := r.localUnitData.update updates }

@[simp] theorem localAppData_publish (updates : List (String × String)) (r : LegacyRelation) :
    (r.publish updates).localAppData = r.localAppData.update updates := rfl

@[simp] theorem localUnitData_publish (updates : List (String × String)) (r : LegacyRelation) :
    (r.publish updates).localUnitData = r.localUnitData.update updates := rfl

/-- Why a relation is not set up, or the database it asks for. -/
inductive Admission
  | extensionsDisabled
  | rolesRequested
  | noDatabase
  | admitted (database : String)
deriving DecidableEq, Repr

/-- The checks before anything is created. -/
def admission (config : PluginConfig) (r : LegacyRelation) : Admission :=
  if (r.getExtensions config.pluginEnabled).2 ≠ [] then .extensionsDisabled
  else if r.getRoles then .rolesRequested
  else match r.database with
    | none => .noDatabase
    | some database => .admitted database

/-- The password that is published, or a new one. -/
def password (a : SetUpAnswers) (r : LegacyRelation) : String :=
  (r.localUnitData.get "password").getD a.newPassword

/-- The connection string to a host. -/
def connectionString (a : SetUpAnswers) (id : Nat) (database host : String) (r : LegacyRelation) :
    String :=
  a.connectionString {
    host := host
    dbname := database
    port := databasePort
    user := "relation_id_" ++ toString id
    password := r.password a
    fallbackApplicationName := r.app }

/-- The version is published when it is known. -/
def versionUpdates (a : SetUpAnswers) : List (String × String) :=
  match a.postgresqlVersion with
  | some version => if version ≠ "" then [("version", version)] else []
  | none => []

/-- `updates`. -/
def updates (app : String) (a : SetUpAnswers) (id : Nat) (database : String)
    (r : LegacyRelation) : List (String × String) :=
  [("allowed-subnets", r.getAllowedSubnets app),
    ("allowed-units", r.getAllowedUnits app),
    ("host", a.endpoint),
    ("master", r.connectionString a id database a.primaryEndpoint),
    ("port", databasePort),
    ("standbys", r.connectionString a id database a.replicasEndpoint),
    ("user", "relation_id_" ++ toString id),
    ("password", r.password a),
    ("database", database),
    ("extensions", Text.join ',' r.requiredExtensions)] ++ versionUpdates a

/-- The databags hold extensions or roles. -/
def asksFor (r : LegacyRelation) : Bool :=
  r.databags.any fun data => data.contains "extensions" || data.contains "roles"

end LegacyRelation

namespace Charm

/-- The relations, in the order of the endpoints. -/
def relationIds (c : Charm) : List Nat := c.db ++ c.dbAdmin

/-- The relation is one on the endpoint `db-admin`. -/
def isAdmin (c : Charm) (id : Nat) : Bool := id ∈ c.dbAdmin

def setStatus (c : Charm) (status : Status) : Charm := { c with unitStatus := status }

/-- Change the data of one relation. -/
def modifyRelation (c : Charm) (id : Nat) (f : LegacyRelation → LegacyRelation) : Charm :=
  { c with relation := Function.update c.relation id (f (c.relation id)) }

@[simp] theorem relation_modifyRelation_self (c : Charm) (id : Nat)
    (f : LegacyRelation → LegacyRelation) :
    (c.modifyRelation id f).relation id = f (c.relation id) := Function.update_self _ _ _

@[simp] theorem relation_modifyRelation_of_ne (c : Charm) {id id' : Nat}
    (f : LegacyRelation → LegacyRelation) (h : id' ≠ id) :
    (c.modifyRelation id f).relation id' = c.relation id' := Function.update_of_ne h _ _

/-- `create_user`: an existing role is altered, which takes no right from it.
Whether the role exists afterwards, with the error or without. -/
def createUser (admin : Bool) (answer : CreateUserAnswer) (id : Nat) (c : Charm) : Charm :=
  match answer with
  | .failed => c
  | .created | .notGranted =>
      { c with users := Function.update c.users id (some ((c.users id).getD false || admin)) }

/-- `_check_for_blocking_relations`. -/
def checkForBlockingRelations (c : Charm) (id : Nat) : Bool :=
  c.relationIds.any fun id' => id' != id && (c.relation id').asksFor

/-- `_check_multiple_endpoints`. -/
def checkMultipleEndpoints (c : Charm) : Bool :=
  c.databaseRelated && (c.db != [] || c.dbAdmin != [])

/-- `_update_unit_status_on_blocking_endpoint_simultaneously`. -/
def updateUnitStatusOnBlockingEndpointSimultaneously (c : Charm) : Charm :=
  if c.unitStatus.isBlocked && c.unitStatus.message == endpointSimultaneouslyBlockingMessage &&
    !c.checkMultipleEndpoints then c.setStatus .active else c

/-- `_update_unit_status`. -/
def updateUnitStatus (id : Nat) (c : Charm) : Charm :=
  let c := if c.unitStatus.isBlocked &&
      (c.unitStatus.message == extensionsBlockingMessage ||
        c.unitStatus.message == rolesBlockingMessage) &&
      !c.checkForBlockingRelations id then c.setStatus .active else c
  c.updateUnitStatusOnBlockingEndpointSimultaneously

/-- The status of `on_deployed_without_trust`. -/
def deployedWithoutTrust (app : String) : Status :=
  .blocked ("Insufficient permissions, try: `juju trust " ++ app ++ " --scope=cluster`")

/-- `update_config`, by the status that it leaves. -/
def updateConfig (a : UpdateConfigAnswer) (c : Charm) : Charm :=
  match a with
  | .updated | .raised => c
  | .restarted status _ => c.setStatus status
  | .refused => c.setStatus (deployedWithoutTrust c.app)

/-- `Failed to initialize … relation`. -/
def failedMessage (admin : Bool) : String :=
  "Failed to initialize " ++ (if admin then "db-admin" else "db") ++ " relation"

/-- `set_up_relation` of the object with the flag `admin`. -/
def setUpRelation (admin : Bool) (a : SetUpAnswers) (id : Nat) (c : Charm) : SetUpResult × Charm :=
  let r := c.relation id
  match r.admission c.config with
  | .extensionsDisabled => (.refused, c.setStatus (.blocked extensionsBlockingMessage))
  | .rolesRequested => (.refused, c.setStatus (.blocked rolesBlockingMessage))
  | .noDatabase => (.refused, c)
  | .admitted database =>
      let c := c.createUser admin a.createUser id
      if a.createUser ≠ .created ∨ !a.databaseCreated then
        (.refused, c.setStatus (.blocked (failedMessage admin)))
      else
        let c := c.modifyRelation id (.publish (r.updates c.app a id database))
        (a.updateConfig.result, (c.updateUnitStatus id).updateConfig a.updateConfig)

/-- What the handler that raised leaves of what it did. -/
def dropWrites (before after : Charm) : Charm := { after with relation := before.relation }

/-- Set up one relation after the other, until one is refused. -/
def setUpRelations (admin : Bool) (a : Nat → SetUpAnswers) : List Nat → Charm → SetUpResult × Charm
  | [], c => (.completed, c)
  | id :: ids, c =>
      match c.setUpRelation admin (a id) id with
      | (.completed, c) => setUpRelations admin a ids c
      | (result, c) => (result, c)

/-- `_unblock_extensions`; the object is the one of the endpoint `db`. -/
def unblockExtensions (a : Nat → SetUpAnswers) (c : Charm) : SetUpResult × Charm :=
  if c.unitStatus.message = extensionsBlockingMessage then
    c.setUpRelations false a c.relationIds
  else (.completed, c)

end Charm

/-! ## when a set-up is completed -/

/-- The relation is admitted, and nothing that `set_up_relation` does fails. -/
def LegacyRelation.completes (config : PluginConfig) (a : SetUpAnswers) (r : LegacyRelation) :
    Bool :=
  match r.admission config with
  | .admitted _ => a.createUser = .created && a.databaseCreated && a.updateConfig.result = .completed
  | _ => false

/-- The user of the relation exists after `set_up_relation`, whatever else
fails. -/
def LegacyRelation.creates (config : PluginConfig) (a : SetUpAnswers) (r : LegacyRelation) : Bool :=
  match r.admission config with
  | .admitted _ => a.createUser ≠ .failed
  | _ => false

/-- The relation once `set_up_relation` has published what it publishes. -/
def LegacyRelation.published (app : String) (config : PluginConfig) (a : SetUpAnswers) (id : Nat)
    (r : LegacyRelation) : LegacyRelation :=
  match r.admission config with
  | .admitted database =>
      if a.createUser = .created ∧ a.databaseCreated then r.publish (r.updates app a id database)
      else r
  | _ => r

namespace LegacyRelation

variable {r : LegacyRelation} {app : String} {config : PluginConfig} {a : SetUpAnswers} {id : Nat}

theorem eq_of_mem_versionUpdates {k : String} (h : k ∈ (versionUpdates a).map Prod.fst) :
    k = "version" := by
  unfold versionUpdates at h
  split at h
  · split at h
    · simpa using h
    · contradiction
  · contradiction

/-- A completed set-up publishes the updates for the database asked for. -/
theorem published_of_completes (app : String) (id : Nat) (h : r.completes config a = true) :
    ∃ database, r.published app config a id = r.publish (r.updates app a id database) := by
  unfold completes at h
  unfold published
  cases hadmission : r.admission config with
  | admitted database =>
      rw [hadmission] at h
      simp only [Bool.and_eq_true, decide_eq_true_eq] at h
      exact ⟨database, if_pos h.1⟩
  | extensionsDisabled => simp [hadmission] at h
  | rolesRequested => simp [hadmission] at h
  | noDatabase => simp [hadmission] at h

end LegacyRelation

namespace Charm

variable {admin : Bool} {a : SetUpAnswers} {id : Nat} {c : Charm}

/-- What follows the publication changes the status only. -/
theorem updateConfig_updateUnitStatus_eq (answer : UpdateConfigAnswer) (id : Nat) (c : Charm) :
    ∃ status, (c.updateUnitStatus id).updateConfig answer = c.setStatus status := by
  have hunit : ∃ status, c.updateUnitStatus id = c.setStatus status := by
    unfold updateUnitStatus updateUnitStatusOnBlockingEndpointSimultaneously
    dsimp only
    split
    · split
      · exact ⟨_, rfl⟩
      · exact ⟨_, rfl⟩
    · split
      · exact ⟨_, rfl⟩
      · exact ⟨c.unitStatus, rfl⟩
  obtain ⟨status, hstatus⟩ := hunit
  rw [hstatus]
  cases answer with
  | updated => exact ⟨status, rfl⟩
  | raised => exact ⟨status, rfl⟩
  | restarted status' _ => exact ⟨status', rfl⟩
  | refused => exact ⟨_, rfl⟩

/-- The rights of the user once it is created, or altered. -/
def createdUsers (admin : Bool) (a : SetUpAnswers) (id : Nat) (c : Charm) : Nat → Option Bool :=
  if (c.relation id).creates c.config a then
    Function.update c.users id (some ((c.users id).getD false || admin))
  else c.users

theorem createdUsers_self : c.createdUsers admin a id id =
    if (c.relation id).creates c.config a then some ((c.users id).getD false || admin)
    else c.users id := by
  unfold createdUsers
  split
  · exact Function.update_self _ _ _
  · rfl

theorem createdUsers_of_ne {id' : Nat} (hne : id' ≠ id) :
    c.createdUsers admin a id id' = c.users id' := by
  unfold createdUsers
  split
  · exact Function.update_of_ne hne _ _
  · rfl

/-- What a set-up changes: the status, the user of the relation and the data
in it. -/
theorem setUpRelation_snd (admin : Bool) (a : SetUpAnswers) (id : Nat) (c : Charm) :
    ∃ status, (c.setUpRelation admin a id).2 = { c with
      unitStatus := status
      users := c.createdUsers admin a id
      relation := Function.update c.relation id
        ((c.relation id).published c.app c.config a id) } := by
  unfold setUpRelation createdUsers LegacyRelation.creates LegacyRelation.published
  dsimp only
  cases hadmission : (c.relation id).admission c.config with
  | extensionsDisabled => exact ⟨.blocked extensionsBlockingMessage, by simp [setStatus]⟩
  | rolesRequested => exact ⟨.blocked rolesBlockingMessage, by simp [setStatus]⟩
  | noDatabase => exact ⟨c.unitStatus, by simp⟩
  | admitted database =>
      dsimp only
      cases huser : a.createUser with
      | failed => exact ⟨.blocked (failedMessage admin), by simp [createUser, setStatus]⟩
      | notGranted => exact ⟨.blocked (failedMessage admin), by simp [createUser, setStatus]⟩
      | created =>
          by_cases hdatabase : a.databaseCreated
          · rw [if_neg (by simp [hdatabase])]
            obtain ⟨status, hstatus⟩ := updateConfig_updateUnitStatus_eq a.updateConfig id
              ((c.createUser admin .created id).modifyRelation id
                (.publish ((c.relation id).updates (c.createUser admin .created id).app a id
                  database)))
            refine ⟨status, ?_⟩
            dsimp only
            rw [hstatus]
            simp [hdatabase, createUser, setStatus, modifyRelation]
          · exact ⟨.blocked (failedMessage admin), by simp [hdatabase, createUser, setStatus]⟩

/-- The result is `True` exactly where nothing fails. -/
theorem setUpRelation_fst (admin : Bool) (a : SetUpAnswers) (id : Nat) (c : Charm) :
    (c.setUpRelation admin a id).1 = .completed ↔
      (c.relation id).completes c.config a = true := by
  unfold setUpRelation LegacyRelation.completes
  dsimp only
  cases hadmission : (c.relation id).admission c.config with
  | extensionsDisabled => simp
  | rolesRequested => simp
  | noDatabase => simp
  | admitted database =>
      dsimp only
      by_cases hcreated : a.createUser ≠ .created ∨ !a.databaseCreated
      · rw [if_pos hcreated]
        rcases hcreated with huser | hdatabase
        · simp [huser]
        · rw [Bool.not_eq_true'] at hdatabase
          simp [hdatabase]
      · rw [if_neg hcreated]
        simp only [not_or, not_not, Bool.not_eq_true', Bool.not_eq_false] at hcreated
        simp [hcreated]

/-- Where `False` is returned nothing is published. -/
theorem published_of_refused (h : (c.setUpRelation admin a id).1 = .refused) :
    (c.relation id).published c.app c.config a id = c.relation id := by
  unfold setUpRelation at h
  unfold LegacyRelation.published
  dsimp only at h
  cases hadmission : (c.relation id).admission c.config with
  | extensionsDisabled => rfl
  | rolesRequested => rfl
  | noDatabase => rfl
  | admitted database =>
      rw [hadmission] at h
      dsimp only at h ⊢
      split at h
      · next hcreated =>
          refine if_neg fun hboth => ?_
          simp [hboth.1, hboth.2] at hcreated
      · cases hupdate : a.updateConfig <;> rw [hupdate] at h <;> cases h

/-- The set-up of a relation is completed. -/
def completes (c : Charm) (a : Nat → SetUpAnswers) (id : Nat) : Bool :=
  (c.relation id).completes c.config (a id)

/-- The loop goes on after a completed set-up. -/
theorem setUpRelations_of_completes (admin : Bool) {a : Nat → SetUpAnswers} (ids : List Nat)
    (h : c.completes a id = true) : c.setUpRelations admin a (id :: ids) =
      (c.setUpRelation admin (a id) id).2.setUpRelations admin a ids := by
  have hfst : (c.setUpRelation admin (a id) id).1 = .completed :=
    (setUpRelation_fst admin (a id) id c).mpr h
  have hsplit : c.setUpRelation admin (a id) id =
      (.completed, (c.setUpRelation admin (a id) id).2) := Prod.ext hfst rfl
  rw [setUpRelations, hsplit]

/-- And ends with any other. -/
theorem setUpRelations_of_not_completes {a : Nat → SetUpAnswers} (ids : List Nat)
    (h : ¬ c.completes a id = true) :
    c.setUpRelations admin a (id :: ids) = c.setUpRelation admin (a id) id := by
  have hsplit : c.setUpRelation admin (a id) id =
      ((c.setUpRelation admin (a id) id).1, (c.setUpRelation admin (a id) id).2) := rfl
  rw [setUpRelations, hsplit]
  cases hfst : (c.setUpRelation admin (a id) id).1 with
  | completed => exact absurd ((setUpRelation_fst admin (a id) id c).mp hfst) h
  | refused => rfl
  | raised => rfl

/-- The set-up of one relation, as the loop over that relation alone. -/
theorem setUpRelation_snd_singleton (admin : Bool) (a : Nat → SetUpAnswers) (id : Nat) (c : Charm) :
    ∃ status, (c.setUpRelation admin (a id) id).2 = { c with
      unitStatus := status
      users := fun id' => if id' ∈ [id] then c.createdUsers admin (a id') id' id' else c.users id'
      relation := fun id' => if id' ∈ [id]
        then (c.relation id').published c.app c.config (a id') id' else c.relation id' } := by
  obtain ⟨status, hset⟩ := setUpRelation_snd admin (a id) id c
  refine ⟨status, ?_⟩
  rw [hset]
  congr 1
  · funext id'
    by_cases h : id' = id
    · subst h
      rw [if_pos List.mem_cons_self, Function.update_self]
    · rw [if_neg (by simpa using h), Function.update_of_ne h]
  · funext id'
    by_cases h : id' = id
    · subst h
      rw [if_pos List.mem_cons_self]
    · rw [if_neg (by simpa using h), createdUsers_of_ne h]

/-- The loop does to every relation that it reaches what the set-up of that
relation alone does. -/
theorem setUpRelations_snd (admin : Bool) (a : Nat → SetUpAnswers) {ids : List Nat} (c : Charm)
    (hnodup : ids.Nodup) : ∃ status, (c.setUpRelations admin a ids).2 = { c with
      unitStatus := status
      users := fun id => if id ∈ reached (c.completes a) ids
        then c.createdUsers admin (a id) id id else c.users id
      relation := fun id => if id ∈ reached (c.completes a) ids
        then (c.relation id).published c.app c.config (a id) id else c.relation id } := by
  induction ids generalizing c with
  | nil => exact ⟨c.unitStatus, by simp [setUpRelations, reached]⟩
  | cons id ids ih =>
      rw [List.nodup_cons] at hnodup
      have hne {id' : Nat} (hid' : id' ∈ ids) : id' ≠ id := by
        rintro rfl
        exact hnodup.1 hid'
      by_cases hcompletes : c.completes a id = true
      · obtain ⟨status, hset⟩ := setUpRelation_snd admin (a id) id c
        rw [setUpRelations_of_completes admin ids hcompletes, reached_cons_of_pos ids hcompletes]
        generalize (c.setUpRelation admin (a id) id).2 = c₁ at hset
        have hrest {id' : Nat} (hid' : id' ≠ id) : c₁.relation id' = c.relation id' := by
          rw [hset]
          exact Function.update_of_ne hid' _ _
        have huser {id' : Nat} (hid' : id' ≠ id) : c₁.users id' = c.users id' := by
          rw [hset]
          exact createdUsers_of_ne hid'
        have hreached : reached (c₁.completes a) ids = reached (c.completes a) ids := by
          refine reached_congr fun id' hid' => ?_
          rw [completes, completes, hrest (hne hid'), hset]
        obtain ⟨status', hrun⟩ := ih c₁ hnodup.2
        refine ⟨status', ?_⟩
        rw [hrun, hreached, Charm.mk.injEq]
        refine ⟨by rw [hset], by rw [hset], rfl, by rw [hset], by rw [hset], by rw [hset],
          funext fun id' => ?_, funext fun id' => ?_, by rw [hset]⟩
        · by_cases h : id' = id
          · subst h
            rw [if_neg fun hmem => hne (mem_of_mem_reached hmem) rfl, if_pos List.mem_cons_self,
              hset]
            exact Function.update_self _ _ _
          · simp only [hrest h, List.mem_cons, or_iff_right h]
            rw [hset]
        · by_cases h : id' = id
          · subst h
            rw [if_neg fun hmem => hne (mem_of_mem_reached hmem) rfl, if_pos List.mem_cons_self,
              hset]
          · simp only [createdUsers_self, hrest h, huser h, List.mem_cons, or_iff_right h]
            rw [hset]
      · rw [setUpRelations_of_not_completes ids hcompletes, reached_cons_of_neg ids hcompletes]
        exact setUpRelation_snd_singleton admin a id c

end Charm

end PostgresqlK8s.LegacyDb
