import PostgresqlK8s.Restore.Charm
import PostgresqlK8s.Lib.Run

/-!
# Restore.Handlers

The restore action, and the two handlers that check on a restore:
`update-status` and `peer-relation-changed`, in an initialised cluster.

A handler that ends with an exception has changed the unit status, the Pebble
plan and the log, but Juju drops what it wrote to the databags.
-/

namespace PostgresqlK8s.Restore

open Backups

/-! ## the restore action -/

/-- What a restore action meets: its parameters, the answers of the checks,
and the exceptions of the steps that follow them. -/
structure RestoreAction where
  backupId : Option String
  restoreToTime : Option String
  settings : BackupSettings
  canConnect : Bool
  plannedUnits : Nat
  /-- A relation of the asynchronous replication. -/
  replicating : Bool
  leader : Bool
  repository : RepositoryAnswers
  /-- The update of the Pebble plan. -/
  layers : Option PyError
  /-- Stopping the database service. -/
  stop : Option PyError
  /-- Deleting the endpoints of the previous cluster. -/
  deletion : Option PyError
  /-- `rm -r` of the data directory. -/
  emptyData : CommandOutcome String
  createPgdata : Option PyError
  updateConfig : Option PyError
  /-- Starting the database service. -/
  start : Option PyError

/-- The status gate of `_pre_restore_checks`. -/
def statusGateAdmits (status : Status) : Bool :=
  !status.isBlocked || status.message ∈ [anotherClusterRepositoryErrorMessage, cannotRestorePitr]

/-- The check of the format of `restore-to-time`, for a value that has one. -/
def badRestoreToTime (restoreToTime : Option String) : Except PyError Bool :=
  if restoreToTime.getD "" ≠ "" ∧ restoreToTime ≠ some "latest" then do
    let valid ← isPsqlTimestamp (restoreToTime.getD "")
    return !valid
  else .ok false

/-- `_pre_restore_checks`: the message of a check that fails. -/
def preRestoreChecks (env : RestoreAction) (status : Status) : Except PyError (Option String) :=
  match env.settings.validationMessage with
  | some message => .ok (some message)
  | none =>
      if env.backupId.getD "" = "" ∧ env.restoreToTime = none then
        .ok (some ("Either backup-id or restore-to-time parameters need to be provided " ++
          "to be able to do restore"))
      else do
        let bad ← badRestoreToTime env.restoreToTime
        if bad then return some "Bad restore-to-time format"
        else if !env.canConnect then return some "Workload container not ready yet!"
        else if !statusGateAdmits status then return some "Cluster or unit is in a blocking state"
        else if 1 < env.plannedUnits then
          return some "Unit cannot restore backup as there are more than one unit in the cluster"
        else if env.replicating then
          return some ("Unit cannot restore backup as the cluster is replicating data " ++
            "to a standby cluster")
        else if !env.leader then
          return some "Unit cannot restore backup as it was not elected the leader unit yet"
        else return none

/-- `_restart_database`. -/
def restartDatabase (env : RestoreAction) : Handler Charm Unit := do
  modify fun s => { s with app := s.app.update [(.restoringBackup, ""), (.restoreToTime, "")] }
  attempt env.updateConfig
  attempt env.start

/-- `_empty_data_files`: a directory that is not there is empty. -/
def emptyDataFiles : CommandOutcome String → Option PyError
  | .exited _ _ => none
  | .failed text stdout stderr =>
      if isPartOf "No such file or directory" stderr then none
      else some (.execError text (some stdout) (some stderr))
  | .changeError text => some (.changeError text)
  | .raised name => some (.other name)

/-- The flags of a restore. -/
def Charm.flagRestore (label : String) (target : RestoreTarget) (s : Charm) : Charm :=
  { s with
    app := s.app.update [(.restoringBackup, label), (.restoreStanza, target.stanzaTimeline.1),
      (.restoreTimeline, if target.restoreToTime ≠ "" then target.stanzaTimeline.2 else ""),
      (.restoreToTime, target.restoreToTime), (.s3InitializationBlockMessage, "")]
    launchedAt := s.log.length
    pitrReported := false }

/-- The last part of the action: the flags, and the start of the database. -/
def launchRestore (env : RestoreAction) (target : RestoreTarget) : Handler Charm Unit := do
  attempt env.createPgdata
  let label ← MonadExcept.ofExcept (restoringBackup env.repository target)
  modify (Charm.flagRestore label target)
  attempt env.updateConfig
  attempt env.start
  modify fun s => { s with results := some [("restore-status", "restore started")] }

/-- The removal of the data. -/
def removeData (env : RestoreAction) (target : RestoreTarget) : Handler Charm Unit :=
  match emptyDataFiles env.emptyData with
  | none => launchRestore env target
  | some (.execError text _ _) => do
      modify (.fail ("Failed to remove contents of the data directory with error: " ++ text))
      restartDatabase env
  | some e => throw e

/-- The removal of the endpoints that track the previous cluster; after a
failed point-in-time restore there are none. -/
def removeClusterInformation (env : RestoreAction) (target : RestoreTarget) :
    Handler Charm Unit :=
  match env.deletion with
  | none => removeData env target
  | some (.apiError text) => do
      let s ← get
      if s.isClusterRestoringToTime then removeData env target
      else do
        modify (.fail ("Failed to remove previous cluster information with error: " ++ text))
        restartDatabase env
  | some e => throw e

/-- The action behind the override of the on-failure condition. -/
def performRestore (env : RestoreAction) (target : RestoreTarget) : Handler Charm Unit :=
  match env.stop with
  | none => removeClusterInformation env target
  | some (.changeError text) =>
      modify (.fail ("Failed to stop database service with error: " ++ text))
  | some e => throw e

/-- The action behind the validation of its parameters. -/
def startRestore (env : RestoreAction) (target : RestoreTarget) : Handler Charm Unit := do
  modify (Charm.setStatus (.maintenance "restoring backup"))
  let overridden ← overridePatroniOnFailureCondition env.layers "ignore" "restore-backup"
  if overridden then performRestore env target
  else modify (.fail "Failed to override Patroni on-failure condition")

/-- `_on_restore_action`. -/
def onRestoreAction (env : RestoreAction) : Handler Charm Unit := do
  let s ← get
  match preRestoreChecks env s.status with
  | .error e => throw e
  | .ok (some message) => modify (.fail message)
  | .ok none => do
      let target ← MonadExcept.ofExcept
        (restoreTarget env.repository (env.backupId.getD "") (env.restoreToTime.getD ""))
      match target with
      | .inl message => modify (.fail message)
      | .inr target => startRestore env target

/-! ## the S3 fields -/

/-- What the leader publishes of the outcome of an S3 initialisation. -/
def Charm.publishStanza (stanza blockMessage : String) (s : Charm) : Charm :=
  { s with app := s.app.update [(.stanza, stanza), (.s3InitializationBlockMessage, blockMessage),
    (.s3InitializationStart, ""), (.s3InitializationDone, "True")] }

/-- `coordinate_stanza_fields` in a cluster of one unit: its databag comes
before the one of the application. -/
def coordinateStanzaFields (leader : Bool) (updateConfig : Option PyError) :
    Handler Charm Unit := do
  let s ← get
  if !leader || !s.app.contains .s3InitializationStart then pure ()
  else if s.unit.contains .s3InitializationDone then do
    modify (Charm.publishStanza (s.unit.getD .stanza "")
      (s.unit.getD .s3InitializationBlockMessage ""))
    attempt updateConfig
  else if s.app.contains .s3InitializationDone then do
    modify (Charm.publishStanza (s.app.getD .stanza "")
      (s.app.getD .s3InitializationBlockMessage ""))
    attempt updateConfig
  else pure ()

/-- The step of an S3 initialisation that fails: the ones before the stanza set
no status of their own. -/
inductive S3Step
  | repository
  | initialisingStanza
  | checkingStanza
deriving DecidableEq, Repr

def Charm.enterStep (step : S3Step) (s : Charm) : Charm :=
  match step with
  | .repository => s
  | .initialisingStanza => s.setStatus (.maintenance "initialising stanza")
  | .checkingStanza => s.setStatus (.maintenance "checking stanza")

/-- How `_on_s3_credential_changed_primary` ends: with an exception, deferred
by a blocked unit, with a failure, or with a stanza. -/
inductive S3Outcome
  | raised (e : PyError)
  | deferred
  | failed (step : S3Step) (blockMessage : String)
  | initialised (stanza : String)

/-- `_on_s3_credential_changed_primary`. -/
def onS3CredentialChangedPrimary (leader upgradeIdle : Bool) (role : MemberRole) :
    S3Outcome → Handler Charm Bool
  | .raised e => throw e
  | .deferred => return false
  | .failed step blockMessage => do
      modify (Charm.enterStep step)
      if leader then do
        modify fun s => Charm.setActiveStatus leader upgradeIdle role { s with
          app := s.app.update [(.s3InitializationBlockMessage, blockMessage),
            (.s3InitializationStart, ""), (.stanza, "")] }
        return false
      else do
        modify fun s => { s with unit := s.unit.update [
          (.s3InitializationBlockMessage, blockMessage), (.s3InitializationDone, "True"),
          (.stanza, "")] }
        return false
  | .initialised stanza => do
      modify fun s => (s.enterStep .checkingStanza).setActiveStatus leader upgradeIdle role
      if leader then do
        modify fun s => { s with app := s.app.update [(.stanza, stanza),
          (.s3InitializationStart, "")] }
        return true
      else do
        modify fun s => { s with unit := s.unit.update [(.stanza, stanza),
          (.s3InitializationDone, "True")] }
        return true

/-! ## update-status -/

/-- How `enable_disable_extensions` ends. -/
inductive ExtensionsOutcome
  | noPrimary
  | dependencyMissing
  | objectsExist
  | done
deriving DecidableEq, Repr

/-- What an `update-status` event meets. -/
structure UpdateStatus where
  upgradeIdle : Bool
  canConnect : Bool
  leader : Bool
  disk : DiskReading
  /-- What Patroni says when the disk has space again. -/
  roleAtDisk : MemberRole
  extensions : ExtensionsOutcome
  headlessService : Option PyError
  /-- Whether the database service is active, if Pebble knows it. -/
  service : Option Bool
  /-- What escapes from restarting an inactive service (a `ChangeError` is
  caught), and whether the service recovers. -/
  restart : Option PyError
  recovers : Bool
  check : RestoreCheck
  asyncReplication : Option PyError
  stanzaConfig : Option PyError
  role : MemberRole

/-- `enable_disable_extensions`, on a unit that could not disable a plugin. -/
def Charm.enableDisableExtensions (env : UpdateStatus) (s : Charm) : Charm :=
  match env.extensions with
  | .noPrimary => s
  | .dependencyMissing => s.setStatus (.blocked extensionsDependencyMessage)
  | .objectsExist => s.setStatus (.blocked extensionObjectMessage)
  | .done => (s.setStatus (.waiting "Updating extensions")).setActiveStatus env.leader
      env.upgradeIdle env.role

/-- The status holds the handler back: blocked, but not by S3, or waiting, but
not for a restore. -/
def Charm.isHeldBack (s : Charm) : Bool :=
  s.status.isBlocked && !isS3BlockMessage s.status.message ||
    s.status.isWaiting && !s.isRestoring

/-- `_on_update_status_early_exit_checks`. -/
def onUpdateStatusEarlyExitChecks (env : UpdateStatus) : Handler Charm Bool := do
  if !env.upgradeIdle then return false
  else if !env.canConnect then return false
  else do
    modify (Charm.checkPgdataStorageSize env.disk env.leader env.upgradeIdle env.roleAtDisk)
    let s ← get
    if s.isHeldBack then
      if s.status.message = extensionObjectMessage then do
        modify (Charm.enableDisableExtensions env)
        return true
      else return false
    else return true

/-- The restart of an inactive service: whether the handler goes on. -/
def restartInactiveService (env : UpdateStatus) (serviceActive : Bool) : Handler Charm Bool := do
  let s ← get
  if !s.isRestoring && !s.isUnitStopped && !serviceActive then do
    attempt env.restart
    if env.recovers then return true
    else do
      modify (Charm.setStatus (.maintenance "Database service inactive, restarting"))
      return false
  else return true

/-- The check of a restore, if there is one: whether the handler goes on. -/
def checkRestore (check : RestoreCheck) (serviceActive : Bool) : Handler Charm Bool := do
  let s ← get
  if s.isRestoring then wasRestoreSuccessful check serviceActive else return true

/-- The end of `_on_update_status`. -/
def finishUpdateStatus (env : UpdateStatus) : Handler Charm Unit := do
  attempt env.asyncReplication
  coordinateStanzaFields env.leader env.stanzaConfig
  modify (Charm.setActiveStatus env.leader env.upgradeIdle env.role)

/-- `_on_update_status`. -/
def onUpdateStatus (env : UpdateStatus) : Handler Charm Unit := do
  let proceeds ← onUpdateStatusEarlyExitChecks env
  if proceeds then do
    attempt env.headlessService
    match env.service with
    | none => pure ()
    | some serviceActive => do
        let recovered ← restartInactiveService env serviceActive
        if recovered then do
          let restored ← checkRestore env.check serviceActive
          if restored then finishUpdateStatus env else pure ()
        else pure ()
  else pure ()

/-! ## peer-relation-changed -/

/-- What `_add_members` does to the status, and the error of a pod that could
not be patched. -/
inductive MembersOutcome
  | unchanged
  | reconfigured
  | patchFailed (error : String)
  | raised (e : PyError)

/-- What a `peer-relation-changed` event meets. -/
structure PeerRelationChanged where
  leader : Bool
  members : MembersOutcome
  /-- Whether the endpoint of the unit is among those of the cluster. -/
  isMember : Bool
  canConnect : Bool
  updateConfig : Option PyError
  service : Option Bool
  check : RestoreCheck
  headlessService : Option PyError
  memberStarted : Bool
  /-- `start_stop_pgbackrest_service`. -/
  tlsServer : Bool
  stanzaConfig : Option PyError
  primary : Bool
  s3 : S3Outcome
  upgradeIdle : Bool
  roleAtS3 : MemberRole
  role : MemberRole

/-- `_add_members`, as far as the status goes. -/
def addMembers (leader : Bool) (members : MembersOutcome) : Handler Charm Unit :=
  if leader then
    match members with
    | .unchanged => pure ()
    | .reconfigured => modify (Charm.setStatus (.maintenance "reconfiguring cluster"))
    | .patchFailed error =>
        modify (Charm.setStatus (.blocked ("failed to patch pod with error " ++ error)))
    | .raised e => throw e
  else pure ()

/-- The clean-up behind an S3 initialisation. -/
def Charm.cleanUpInitialisation (leader : Bool) (s : Charm) : Charm :=
  if s.app.contains .s3InitializationDone && !leader then
    { s with unit := s.unit.update [(.stanza, ""), (.s3InitializationBlockMessage, ""),
      (.s3InitializationDone, ""), (.s3InitializationStart, "")] }
  else s

/-- `handle_read_only_mode`, as far as the unit status goes. -/
def Charm.handleReadOnlyMode (env : PeerRelationChanged) (s : Charm) : Charm :=
  if s.status.isBlocked then s else s.setActiveStatus env.leader env.upgradeIdle env.role

/-- The end of `_on_peer_relation_changed`. -/
def finishPeerRelationChanged (env : PeerRelationChanged) : Handler Charm Unit := do
  attempt env.headlessService
  if !env.memberStarted then
    modify (Charm.setStatus (.waiting "awaiting for member to start"))
  else if !env.tlsServer then pure ()
  else do
    coordinateStanzaFields env.leader env.stanzaConfig
    let s ← get
    if s.app.contains .s3InitializationStart && !s.unit.contains .s3InitializationDone &&
        env.primary then do
      let initialised ← onS3CredentialChangedPrimary env.leader env.upgradeIdle env.roleAtS3 env.s3
      if initialised then
        modify fun s => (s.cleanUpInitialisation env.leader).handleReadOnlyMode env
      else pure ()
    else modify fun s => (s.cleanUpInitialisation env.leader).handleReadOnlyMode env

/-- `_on_peer_relation_changed`. -/
def onPeerRelationChanged (env : PeerRelationChanged) : Handler Charm Unit := do
  addMembers env.leader env.members
  if !env.isMember || !env.canConnect then pure ()
  else match env.updateConfig with
    | some (.valueError _) =>
        modify (Charm.setStatus (.blocked "Configuration Error. Please check the logs"))
    | some e => throw e
    | none => do
        let s ← get
        if s.status.isBlocked then pure ()
        else match env.service with
          | none => finishPeerRelationChanged env
          | some serviceActive => do
              let restored ← checkRestore env.check serviceActive
              if restored then finishPeerRelationChanged env else pure ()

/-! ## runs -/

/-- An event, with everything its handler meets; between two events the
services write to the log. -/
inductive Event
  | restore (env : RestoreAction)
  | updateStatus (env : UpdateStatus)
  | peerRelationChanged (env : PeerRelationChanged)
  | logged (lines : List String)

/-- The state behind a handler: after an exception the databags, and what is
recorded with them, are as they were. -/
def Charm.commit (s : Charm) : EStateM.Result PyError Charm Unit → Charm
  | .ok _ t => t
  | .error _ t => { t with
      app := s.app
      unit := s.unit
      launchedAt := s.launchedAt
      pitrReported := s.pitrReported }

@[simp] theorem commit_ok (s t : Charm) (a : Unit) : s.commit (.ok a t) = t := rfl

/-- The state behind an event. -/
def Charm.step (s : Charm) : Event → Charm
  | .restore env => s.commit ((onRestoreAction env).run { s with failure := none, results := none })
  | .updateStatus env => s.commit ((onUpdateStatus env).run s)
  | .peerRelationChanged env => s.commit ((onPeerRelationChanged env).run s)
  | .logged lines => { s with log := s.log ++ lines }

end PostgresqlK8s.Restore
