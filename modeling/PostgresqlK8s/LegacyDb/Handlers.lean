import PostgresqlK8s.Lib.Run
import PostgresqlK8s.Lib.Words
import PostgresqlK8s.LegacyDb.DbProvides

/-!
# LegacyDb.Handlers

The events of the legacy relations and of the configuration, and the runs they
make up.

Juju delivers what the other applications write before it runs the handler, and
a handler that defers is run again later.  Both are events of their own here,
so a run may have any of them in any order.
-/

namespace PostgresqlK8s.LegacyDb

open Extensions (PluginConfig EnableDisableAnswers setActiveStatus)

/-- What `_on_relation_changed` finds out. -/
structure RelationChangedAnswers where
  isClusterInitialised : Bool
  primaryEndpointReady : Bool
  isLeader : Bool
  memberStarted : Bool
  /-- The user is among those that `list_users` returns. -/
  userListed : Bool
  setUp : SetUpAnswers
  updateConfig : UpdateConfigAnswer

/-- The unit that departs. -/
inductive Departing
  /-- This unit. -/
  | self
  /-- Another unit of this application. -/
  | ownApp
  | remote (u : UnitName)

/-- What `_on_relation_departed` finds out. -/
structure DepartedAnswers where
  isClusterInitialised : Bool
  memberStarted : Bool
  isLeader : Bool
  /-- The order in which a set of names is iterated. -/
  setOrder : List String → List String
  perm : ∀ names, (setOrder names).Perm names

/-- How validating the configuration and applying it ends. -/
inductive ConfigValidation
  /-- The database cannot be reached. -/
  | unreachable
  | invalid
  | valid (updateConfig : UpdateConfigAnswer)

/-- What `_on_config_changed` finds out. -/
structure ConfigChangedAnswers where
  isClusterInitialised : Bool
  upgradeIdle : Bool
  validation : ConfigValidation
  isLeader : Bool
  enableDisable : EnableDisableAnswers
  setUp : Nat → SetUpAnswers

namespace Charm

/-- `_on_relation_changed` of the endpoint of the relation. -/
def onRelationChanged (a : RelationChangedAnswers) (id : Nat) (c : Charm) : Charm :=
  if !a.isClusterInitialised || !a.primaryEndpointReady then c
  else if !a.isLeader then
    if !a.memberStarted || !a.userListed then c else c.updateConfig a.updateConfig
  else if c.checkMultipleEndpoints then
    c.setStatus (.blocked endpointSimultaneouslyBlockingMessage)
  else match c.setUpRelation (c.isAdmin id) a.setUp id with
    | (.raised, c') => dropWrites c c'
    | (_, c') => c'

/-- The names that are left of `allowed_units`. -/
def remainingUnits (a : DepartedAnswers) (u : UnitName) (data : Databag String) : String :=
  Text.join ' ' (a.setOrder ((((Words.words Hba.isSpace (data.getD "allowed_units" "").toList).map
    String.ofList).filter (· ≠ u.name)).dedup))

/-- `_on_relation_departed`. -/
def onRelationDeparted (a : DepartedAnswers) (id : Nat) (departing : Departing) (c : Charm) :
    Charm :=
  if !a.isClusterInitialised || !a.memberStarted then c
  else match departing with
    | .self => { c with departing := true }
    | .ownApp => c
    | .remote u =>
        if !a.isLeader then c
        else
          let names := remainingUnits a u (c.relation id).localUnitData
          c.modifyRelation id fun r => { r with
            localAppData := r.localAppData.set "allowed_units" names
            localUnitData := r.localUnitData.set "allowed_units" names }

/-- Clear the message of an invalid configuration. -/
def clearConfigurationError (a : ConfigChangedAnswers) (c : Charm) : Charm :=
  if c.unitStatus.isBlocked && Text.occursIn "Configuration Error" c.unitStatus.message then
    c.setStatus (setActiveStatus a.enableDisable.active c.unitStatus)
  else c

/-- `enable_disable_extensions`. -/
def enableDisableExtensions (a : EnableDisableAnswers) (c : Charm) : Charm :=
  c.setStatus (c.config.enableDisableExtensions a c.unitStatus)

/-- `_on_config_changed`, once the configuration is applied. -/
def afterUpdateConfig (a : ConfigChangedAnswers) (c : Charm) : Charm :=
  let c := c.clearConfigurationError a
  if !a.isLeader then c
  else
    let c := c.enableDisableExtensions a.enableDisable
    match c.unblockExtensions a.setUp with
    | (.raised, c') => dropWrites c c'
    | (_, c') => c'

/-- `_on_config_changed`. -/
def onConfigChanged (a : ConfigChangedAnswers) (c : Charm) : Charm :=
  if !a.isClusterInitialised || !a.upgradeIdle then c
  else match a.validation with
    | .unreachable => c
    | .invalid => c.setStatus (.blocked configurationErrorMessage)
    | .valid update =>
        if update.result = .raised then c else (c.updateConfig update).afterUpdateConfig a

end Charm

/-- What happens. -/
inductive Event
  /-- The other application's units, and what it wrote to its databags, reach
  this unit. -/
  | delivered (id : Nat) (units : List UnitName) (appData : Databag String)
      (unitData : UnitName → Databag String)
  /-- The operator changes the configuration. -/
  | configured (config : PluginConfig)
  | relationChanged (id : Nat) (a : RelationChangedAnswers)
  | relationDeparted (id : Nat) (departing : Departing) (a : DepartedAnswers)
  | configChanged (a : ConfigChangedAnswers)

/-- The charm after an event. -/
def step (c : Charm) : Event → Charm
  | .delivered id units appData unitData =>
      c.modifyRelation id fun r => { r with units, appData, unitData }
  | .configured config => { c with config }
  | .relationChanged id a => c.onRelationChanged a id
  | .relationDeparted id departing a => c.onRelationDeparted a id departing
  | .configChanged a => c.onConfigChanged a

/-! ## when the handler of a relation sets it up -/

namespace Charm

variable {a : RelationChangedAnswers} {c : Charm}

/-- The leader comes to the set-up of the relation. -/
def ReachesSetUp (a : RelationChangedAnswers) (c : Charm) : Prop :=
  a.isClusterInitialised = true ∧ a.primaryEndpointReady = true ∧ a.isLeader = true ∧
    c.checkMultipleEndpoints = false

instance : Decidable (c.ReachesSetUp a) := inferInstanceAs (Decidable (_ ∧ _ ∧ _ ∧ _))

theorem onRelationChanged_of_reachesSetUp (h : c.ReachesSetUp a) (id : Nat) :
    c.onRelationChanged a id = match c.setUpRelation (c.isAdmin id) a.setUp id with
      | (.raised, c') => dropWrites c c'
      | (_, c') => c' := by
  obtain ⟨hinitialised, hready, hleader, hendpoints⟩ := h
  unfold onRelationChanged
  rw [if_neg (by simp [hinitialised, hready]), if_neg (by simp [hleader]),
    if_neg (by simp [hendpoints])]

/-- Where the set-up is not come to, only the status changes. -/
theorem onRelationChanged_of_not_reachesSetUp (h : ¬ c.ReachesSetUp a) (id : Nat) :
    ∃ status, c.onRelationChanged a id = c.setStatus status := by
  unfold onRelationChanged
  split
  · exact ⟨c.unitStatus, rfl⟩
  · next hready =>
      simp only [Bool.or_eq_true, Bool.not_eq_true', not_or, Bool.not_eq_false] at hready
      split
      · split
        · exact ⟨c.unitStatus, rfl⟩
        · cases a.updateConfig with
          | updated => exact ⟨c.unitStatus, rfl⟩
          | restarted status _ => exact ⟨status, rfl⟩
          | refused => exact ⟨_, rfl⟩
          | raised => exact ⟨c.unitStatus, rfl⟩
      · next hleader =>
          split
          · exact ⟨_, rfl⟩
          · next hendpoints =>
              exact absurd ⟨hready.1, hready.2, by simpa using hleader, by simpa using hendpoints⟩ h

end Charm

/-! ## when the configuration handler unblocks the unit -/

/-- The configuration handler comes to the loop over the legacy relations: the
message is there, and nothing on the way replaces it. -/
structure Charm.Unblocks (a : ConfigChangedAnswers) (c : Charm) : Prop where
  initialised : a.isClusterInitialised = true
  idle : a.upgradeIdle = true
  updated : a.validation = .valid .updated
  leader : a.isLeader = true
  blocked : c.unitStatus.message = extensionsBlockingMessage
  extensions : a.enableDisable.hasPrimary = false ∨
    (Extensions.collectExtensions c.config).isSome ∧
      a.enableDisable.outcome ≠ .dependentObjectsStillExist

section Blocked

open Extensions (ActiveAnswers)

/-- No message of the stanza initialisation is the beginning of this one. -/
theorem not_prefix_extensionsBlockingMessage :
    ∀ m ∈ Backups.s3BlockMessages, ¬ m.toList <+: extensionsBlockingMessage.toList := by
  decide

/-- `_set_active_status` never writes the message. -/
theorem message_setActiveStatus (a : ActiveAnswers) (status : Status)
    (h : (setActiveStatus a status).message = extensionsBlockingMessage) :
    status.message = extensionsBlockingMessage := by
  unfold setActiveStatus at h
  split at h
  · exact h
  · split at h
    · next message hint _ =>
        have happend : (message : String) ++ hint = extensionsBlockingMessage := h
        refine absurd ?_ (not_prefix_extensionsBlockingMessage message message.2)
        rw [← happend, String.toList_append]
        exact List.prefix_append _ _
    · split at h
      · exact h
      · split at h
        · next standbyLeader degraded _ =>
            cases standbyLeader <;> cases degraded <;> exact absurd h (by decide)
        · exact absurd h (by decide)
        · exact h
        · exact h

theorem message_handleEnableDisableExtensions (a : EnableDisableAnswers) (originalStatus : Status)
    (h : (Extensions.handleEnableDisableExtensions a originalStatus).message =
      extensionsBlockingMessage) :
    originalStatus.message = extensionsBlockingMessage ∧
      a.outcome ≠ .dependentObjectsStillExist := by
  unfold Extensions.handleEnableDisableExtensions at h
  dsimp only at h
  split at h
  · exact absurd h (by decide)
  · next houtcome =>
      refine ⟨?_, houtcome⟩
      split at h
      · next hobject =>
          have hinner := message_setActiveStatus _ _ h
          split at hinner
          · rw [hobject] at hinner
            exact absurd hinner (by decide)
          · exact absurd hinner (by decide)
      · exact h

/-- `enable_disable_extensions` keeps the message unless the dependencies are
not satisfied, or existing objects depend on an extension. -/
theorem message_enableDisableExtensions (config : PluginConfig) (a : EnableDisableAnswers)
    (status : Status)
    (h : (config.enableDisableExtensions a status).message = extensionsBlockingMessage) :
    status.message = extensionsBlockingMessage ∧ (a.hasPrimary = false ∨
      (Extensions.collectExtensions config).isSome ∧ a.outcome ≠ .dependentObjectsStillExist) := by
  unfold PluginConfig.enableDisableExtensions at h
  split at h
  · next hprimary => exact ⟨h, .inl (by simpa using hprimary)⟩
  · split at h
    · exact absurd h (by decide)
    · next hcollect =>
        obtain ⟨horiginal, houtcome⟩ := message_handleEnableDisableExtensions _ _ h
        refine ⟨?_, .inr ⟨by rw [hcollect]; rfl, houtcome⟩⟩
        split at horiginal
        · exact message_setActiveStatus _ _ horiginal
        · exact horiginal

/-- Where nothing replaces the message, the status is as it was. -/
theorem enableDisableExtensions_of_message (config : PluginConfig) (a : EnableDisableAnswers)
    (status : Status) (hmessage : status.message = extensionsBlockingMessage)
    (h : a.hasPrimary = false ∨
      (Extensions.collectExtensions config).isSome ∧ a.outcome ≠ .dependentObjectsStillExist) :
    config.enableDisableExtensions a status = status := by
  unfold PluginConfig.enableDisableExtensions
  rcases h with hprimary | ⟨hcollect, houtcome⟩
  · simp [hprimary]
  · obtain ⟨extensions, hextensions⟩ := Option.isSome_iff_exists.mp hcollect
    have hdependency : extensionsBlockingMessage ≠ Restore.extensionsDependencyMessage := by decide
    have hobject : extensionsBlockingMessage ≠ Restore.extensionObjectMessage := by decide
    simp [hextensions, hmessage, Extensions.handleEnableDisableExtensions, houtcome, hdependency,
      hobject]

end Blocked

namespace Charm

theorem message_deployedWithoutTrust (app : String) :
    (deployedWithoutTrust app).message ≠ extensionsBlockingMessage := by
  intro h
  have hlist := congrArg String.toList h
  simp [deployedWithoutTrust, Status.blocked, extensionsBlockingMessage] at hlist

variable {a : ConfigChangedAnswers} {c : Charm}

/-- On the way to the loop nothing changes. -/
theorem onConfigChanged_of_unblocks (h : c.Unblocks a) : c.onConfigChanged a =
    match c.setUpRelations false a.setUp c.relationIds with
    | (.raised, c') => dropWrites c c'
    | (_, c') => c' := by
  have hclear : c.clearConfigurationError a = c := by
    have hnot : Text.occursIn "Configuration Error" extensionsBlockingMessage = false := by decide
    rw [clearConfigurationError, h.blocked, hnot, Bool.and_false, if_neg Bool.false_ne_true]
  have hextensions : c.enableDisableExtensions a.enableDisable = c := by
    rw [enableDisableExtensions, enableDisableExtensions_of_message _ _ _ h.blocked h.extensions]
    rfl
  unfold onConfigChanged
  rw [if_neg (by simp [h.initialised, h.idle]), h.updated]
  show c.afterUpdateConfig a = _
  rw [afterUpdateConfig, hclear, if_neg (by simp [h.leader])]
  dsimp only
  rw [hextensions, unblockExtensions, if_pos h.blocked]

/-- Applying the configuration changes the status only, and keeps the message
only where it leaves the status as it is. -/
theorem clearConfigurationError_updateConfig {update : UpdateConfigAnswer}
    (h : update.result ≠ .raised) : ∃ status,
      (c.updateConfig update).clearConfigurationError a = c.setStatus status ∧
        (status.message = extensionsBlockingMessage →
          update = .updated ∧ c.unitStatus.message = extensionsBlockingMessage) := by
  have hupdate : ∃ status, c.updateConfig update = c.setStatus status ∧
      (status.message = extensionsBlockingMessage →
        update = .updated ∧ c.unitStatus.message = extensionsBlockingMessage) := by
    cases update with
    | updated => exact ⟨c.unitStatus, rfl, fun hmessage => ⟨rfl, hmessage⟩⟩
    | raised => exact absurd rfl h
    | restarted status hforeign => exact ⟨status, rfl, fun hmessage => absurd hmessage hforeign⟩
    | refused => exact ⟨_, rfl, fun hmessage => absurd hmessage (message_deployedWithoutTrust _)⟩
  obtain ⟨status, hstatus, hmessage⟩ := hupdate
  rw [hstatus]
  unfold clearConfigurationError
  split
  · exact ⟨_, rfl, fun hactive => hmessage (message_setActiveStatus _ _ hactive)⟩
  · exact ⟨status, rfl, hmessage⟩

/-- Where the loop is not come to, only the status changes, and a handler that
has run to its end leaves another message. -/
theorem onConfigChanged_of_not_unblocks (h : ¬ c.Unblocks a) :
    ∃ status, c.onConfigChanged a = c.setStatus status ∧
      (a.isClusterInitialised = true → a.upgradeIdle = true → a.isLeader = true →
        a.validation ≠ .unreachable → a.validation ≠ .valid .raised →
          status.message ≠ extensionsBlockingMessage) := by
  unfold onConfigChanged
  split
  · next hearly =>
      refine ⟨c.unitStatus, rfl, fun hinitialised hidle _ _ _ => ?_⟩
      simp [hinitialised, hidle] at hearly
  · next hearly =>
      simp only [Bool.or_eq_true, Bool.not_eq_true', not_or, Bool.not_eq_false] at hearly
      cases hvalidation : a.validation with
      | unreachable => exact ⟨c.unitStatus, rfl, fun _ _ _ hne => absurd rfl hne⟩
      | invalid => exact ⟨_, rfl, fun _ _ _ _ _ => by decide⟩
      | valid update =>
          dsimp only
          split
          · next hraised =>
              refine ⟨c.unitStatus, rfl, fun _ _ _ _ hne => ?_⟩
              cases update with
              | raised => exact absurd rfl hne
              | updated => cases hraised
              | restarted => cases hraised
              | refused => cases hraised
          · next hraised =>
              obtain ⟨status, hstatus, hmessage⟩ := clearConfigurationError_updateConfig
                (c := c) (a := a) hraised
              rw [afterUpdateConfig, hstatus]
              dsimp only
              split
              · next hleader =>
                  exact ⟨status, rfl, fun _ _ hyes _ _ => by simp [hyes] at hleader⟩
              · next hleader =>
                  have hother : (c.config.enableDisableExtensions a.enableDisable status).message ≠
                      extensionsBlockingMessage := by
                    intro hextensions
                    obtain ⟨hblocked, hok⟩ := message_enableDisableExtensions _ _ _ hextensions
                    obtain ⟨rfl, hblocked⟩ := hmessage hblocked
                    exact h ⟨hearly.1, hearly.2, hvalidation, by simpa using hleader, hblocked, hok⟩
                  refine ⟨_, ?_, fun _ _ _ _ _ => hother⟩
                  have hnot : (enableDisableExtensions a.enableDisable
                      (c.setStatus status)).unitStatus.message ≠ extensionsBlockingMessage := hother
                  rw [unblockExtensions, if_neg hnot]
                  rfl

end Charm

/-! ## a charm whose relations ask for an extension -/

/-- A relation that asks for a database and for `hstore`. -/
def hstoreRelation : LegacyRelation where
  app := "client"
  appData := (∅ : Databag String).update [("database", "clients"), ("extensions", "hstore")]
  units := []
  unitData _ := ∅
  localAppData := ∅
  localUnitData := ∅

/-- Relations that ask for `hstore`, before any of their events; no extension
is enabled. -/
def hstoreCharm (db dbAdmin : List Nat) (nodup : (db ++ dbAdmin).Nodup) : Charm where
  app := "postgresql-k8s"
  config _ := false
  unitStatus := .active
  databaseRelated := false
  db := db
  dbAdmin := dbAdmin
  nodup := nodup
  relation _ := hstoreRelation
  users _ := none
  departing := false

/-- Nothing fails while a relation is set up. -/
def setUpAnswers : SetUpAnswers where
  newPassword := "password"
  createUser := .created
  databaseCreated := true
  endpoint := "postgresql-k8s-0"
  primaryEndpoint := "postgresql-k8s-primary"
  replicasEndpoint := "postgresql-k8s-replicas"
  connectionString c := "host=" ++ c.host ++ " dbname=" ++ c.dbname
  postgresqlVersion := some "14"
  updateConfig := .updated

/-- The leader handles a relation that changed. -/
def relationChangedAnswers : RelationChangedAnswers where
  isClusterInitialised := true
  primaryEndpointReady := true
  isLeader := true
  memberStarted := true
  userListed := true
  setUp := setUpAnswers
  updateConfig := .updated

/-- The leader handles a change of the configuration. -/
def configChangedAnswers : ConfigChangedAnswers where
  isClusterInitialised := true
  upgradeIdle := true
  validation := .valid .updated
  isLeader := true
  enableDisable := {
    hasPrimary := true
    outcome := .returned
    active := {
      isLeader := true
      s3Block := none
      upgradeIdle := true
      role := .primary false false } }
  setUp _ := setUpAnswers

/-- Only `hstore` is enabled. -/
def hstoreConfig : PluginConfig := fun plugin => plugin = "plugin_hstore_enable"

/-- A relation asks for `hstore`, and the operator enables it then. -/
def enableHstore (id : Nat) : List Event :=
  [.relationChanged id relationChangedAnswers, .configured hstoreConfig,
    .configChanged configChangedAnswers]

end PostgresqlK8s.LegacyDb
