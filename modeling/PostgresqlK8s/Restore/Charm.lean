import PostgresqlK8s.Restore.Target
import PostgresqlK8s.Lib.Databag
import PostgresqlK8s.Lib.StateExcept

/-!
# Restore.Charm

The state that the restore action shares with the handlers that wait for the
end of a restore: the two databags, the unit status, the on-failure condition
of the database service in the Pebble plan, and the log of that service.

Beside them the state records what they do not say: where the log stood when
the flagged restore was launched, what every report of a failed
point-in-time restore could have seen since then, and whether a reported
failure still stands.
-/

namespace PostgresqlK8s.Restore

open Backups

/-- The keys of the application databag. -/
inductive AppKey
  | restoringBackup
  | restoreStanza
  | restoreTimeline
  | restoreToTime
  | stanza
  | s3InitializationStart
  | s3InitializationDone
  | s3InitializationBlockMessage
deriving DecidableEq, Repr

/-- The keys of the unit databag. -/
inductive UnitKey
  | patroniOnFailureConditionOverride
  | overriddenPatroniOnFailureConditionRepeatCause
  | lastPitrFailId
  | stopped
  | stanza
  | s3InitializationStart
  | s3InitializationDone
  | s3InitializationBlockMessage
deriving DecidableEq, Repr

structure Charm where
  app : Databag AppKey
  unit : Databag UnitKey
  status : Status
  /-- The on-failure condition of the service in the Pebble plan. -/
  onFailure : String
  /-- The lines of the service log. -/
  log : List String
  /-- Whether Pebble has the command `pebble logs`; in Juju 2 it does not. -/
  pebbleLogs : Bool
  /-- `event.fail`, and `event.set_results`, of the last action. -/
  failure : Option String
  results : Option (List (String × String))
  /-- The length of the log when the flagged restore was launched. -/
  launchedAt : Nat
  /-- For every reported failure, the log since the launch. -/
  reports : List (List String)
  /-- A failure was reported, and no restore launched since. -/
  pitrReported : Bool

/-- `INSUFFICIENT_SIZE_WARNING`. -/
def insufficientSizeWarning : String := "<10% free space on pgdata volume."

/-- `EXTENSION_OBJECT_MESSAGE`. -/
def extensionObjectMessage : String :=
  "Cannot disable plugins: Existing objects depend on it. See logs"

/-- `EXTENSIONS_DEPENDENCY_MESSAGE`. -/
def extensionsDependencyMessage : String := "Unsatisfied plugin dependencies. Please check the logs"

/-- `ORIGINAL_PATRONI_ON_FAILURE_CONDITION`. -/
def originalPatroniOnFailureCondition : String := "restart"

/-- A call that raises, or returns nothing of interest. -/
def attempt (raised : Option PyError) : Handler Charm Unit :=
  match raised with
  | some e => throw e
  | none => pure ()

namespace Charm

/-- `is_cluster_restoring_backup`. -/
def isClusterRestoringBackup (s : Charm) : Bool := s.app.contains .restoringBackup

/-- `is_cluster_restoring_to_time`. -/
def isClusterRestoringToTime (s : Charm) : Bool := s.app.contains .restoreToTime

/-- A restore is in progress. -/
def isRestoring (s : Charm) : Bool := s.isClusterRestoringBackup || s.isClusterRestoringToTime

/-- `is_unit_stopped`. -/
def isUnitStopped (s : Charm) : Bool := s.unit.contains .stopped

/-- The on-failure condition is overridden. -/
def isOverridden (s : Charm) : Bool := s.unit.contains .patroniOnFailureConditionOverride

def setStatus (status : Status) (s : Charm) : Charm := { s with status }

def fail (message : String) (s : Charm) : Charm := { s with failure := some message }

end Charm

/-! ## the on-failure condition -/

/-- The on-failure condition of `_postgresql_layer`. -/
def Charm.onFailureCondition (s : Charm) : String :=
  s.unit.getD .patroniOnFailureConditionOverride originalPatroniOnFailureCondition

/-- `_update_pebble_layers(False)`: the plan follows the unit databag. -/
def updatePebbleLayers (raised : Option PyError) : Handler Charm Unit := do
  attempt raised
  modify fun s => { s with onFailure := s.onFailureCondition }

/-- `override_patroni_on_failure_condition`. -/
def overridePatroniOnFailureCondition (layers : Option PyError) (newCondition repeatCause : String) :
    Handler Charm Bool := do
  let s ← get
  if s.isOverridden then
    if s.unit.get .overriddenPatroniOnFailureConditionRepeatCause ≠ some repeatCause then
      return false
    else do
      modify fun s => { s with
        unit := s.unit.set .patroniOnFailureConditionOverride newCondition }
      updatePebbleLayers layers
      return true
  else do
    modify fun s => { s with unit := s.unit.update [
      (.patroniOnFailureConditionOverride, newCondition),
      (.overriddenPatroniOnFailureConditionRepeatCause, repeatCause)] }
    updatePebbleLayers layers
    return true

/-- `restore_patroni_on_failure_condition`. -/
def restorePatroniOnFailureCondition (layers : Option PyError) : Handler Charm Unit := do
  let s ← get
  if s.isOverridden then
    modify fun s => { s with unit := s.unit.update [
      (.patroniOnFailureConditionOverride, ""),
      (.overriddenPatroniOnFailureConditionRepeatCause, "")] }
    updatePebbleLayers layers
  else pure ()

/-! ## failures in the service log -/

/-- The stamp of a line that reports a failed bootstrap in `pebble logs`. -/
def pebbleFailureStamp (line : List Char) : Option (List Char) :=
  let isStamp := fun c : Char => c.isDigit || c ∈ ['-', ':', 'T', 'Z', '.']
  let stamp := line.takeWhile isStamp
  if stamp ≠ [] ∧ line.dropWhile isStamp = (" [postgresql] patroni.exceptions." ++
      "PatroniFatalException: Failed to bootstrap cluster").toList then some stamp
  else none

/-- The stamp of a line that reports a failed bootstrap in the log of Patroni. -/
def patroniFailureStamp (line : List Char) : Option (List Char) :=
  let isStamp := fun c : Char => c.isDigit || c ∈ ['-', ' ', ':']
  let stamp := line.takeWhile isStamp
  let process := (line.dropWhile isStamp).drop 5
  let text := "]: INFO: removing initialize key after failed attempt to bootstrap the cluster".toList
  if stamp.dropLast ≠ [] ∧ stamp.getLast? = some ' ' ∧
      "UTC [".toList.isPrefixOf (line.dropWhile isStamp) ∧ process.takeWhile Char.isDigit ≠ [] ∧
      text.isPrefixOf (process.dropWhile Char.isDigit) then
    some stamp.dropLast
  else none

/-- The stamp of a line that reports a failed bootstrap. -/
def failureStamp (pebbleLogs : Bool) (line : String) : Option String :=
  (if pebbleLogs then pebbleFailureStamp line.toList else patroniFailureStamp line.toList).map
    String.ofList

/-- The failed bootstraps in the log, by their stamps. -/
def patroniExceptions (pebbleLogs : Bool) (log : List String) : List String :=
  log.filterMap (failureStamp pebbleLogs)

/-- `is_pitr_failed`: whether a bootstrap failed, and whether the failure is a
new one; the last failure is remembered. -/
def Charm.isPitrFailed (s : Charm) : (Bool × Bool) × Charm :=
  match (patroniExceptions s.pebbleLogs s.log).getLast? with
  | none => ((false, false), s)
  | some failure =>
      ((true, s.unit.get .lastPitrFailId ≠ some failure),
        { s with unit := s.unit.set .lastPitrFailId failure })

/-- `is_cluster_restoring_to_time and all(is_pitr_failed(container))`. -/
def Charm.isNewPitrFailure (s : Charm) : Bool × Charm :=
  if s.isClusterRestoringToTime then
    (s.isPitrFailed.1.1 && s.isPitrFailed.1.2, s.isPitrFailed.2)
  else (false, s)

/-! ## the unit status -/

/-- What Patroni says about this unit when the status is set. -/
inductive MemberRole
  | unreachable
  | primary (standbyLeader degraded : Bool)
  | started
  | other
deriving DecidableEq, Repr

/-- `_set_active_status`. -/
def Charm.setActiveStatus (leader upgradeIdle : Bool) (role : MemberRole) (s : Charm) : Charm :=
  if s.status.message = insufficientSizeWarning then s
  else if leader && s.app.contains .s3InitializationBlockMessage then
    s.setStatus (.blocked (s.app.getD .s3InitializationBlockMessage ""))
  else if !upgradeIdle then s
  else match role with
    | .primary standbyLeader degraded =>
        s.setStatus (.active ((if standbyLeader then "Standby" else "Primary") ++
          (if degraded then " (degraded)" else "")))
    | .started => s.setStatus .active
    | .unreachable | .other => s

/-- What `disk_usage` says about the volume of the data directory. -/
inductive DiskReading
  | missing
  | short
  | enough
deriving DecidableEq, Repr

/-- `_check_pgdata_storage_size`. -/
def Charm.checkPgdataStorageSize (disk : DiskReading) (leader upgradeIdle : Bool)
    (role : MemberRole) (s : Charm) : Charm :=
  match disk with
  | .missing => s
  | .short => s.setStatus (.blocked insufficientSizeWarning)
  | .enough =>
      if s.status.message = insufficientSizeWarning then
        (s.setStatus .active).setActiveStatus leader upgradeIdle role
      else s

/-! ## the end of a restore -/

/-- What the check of a restore meets: the exception of reading the PostgreSQL
logs, Patroni, the current timeline, `update_config`, the Pebble plan and
`can_use_s3_repository` with its validation message. -/
structure RestoreCheck where
  postgresqlLogs : Option PyError
  memberStarted : Bool
  currentTimeline : Bool
  updateConfig : Option PyError
  layers : Option PyError
  repository : Except PyError (Option String)

/-- What the check of a restore says when the database could not be started. -/
def failedToRestoreBackup : String := "Failed to restore backup"

/-- A failed point-in-time restore is reported. -/
def Charm.reportPitrFailure (s : Charm) : Charm :=
  { s with
    status := .blocked cannotRestorePitr
    reports := s.log.drop s.launchedAt :: s.reports
    pitrReported := true }

/-- The part of `_was_restore_successful` that ends the restore. -/
def completeRestore (check : RestoreCheck) : Handler Charm Unit := do
  let s ← get
  modify fun s => { s with app := s.app.update [(.restoringBackup, ""), (.restoreStanza, ""),
    (.restoreToTime, ""), (.restoreTimeline, "")] }
  attempt check.updateConfig
  restorePatroniOnFailureCondition check.layers
  -- the log line names the backup by its id
  let _ ← MonadExcept.ofExcept ((s.app.get .restoringBackup).elim (.ok ("", "")) parseBackupId)
  let validationMessage ← MonadExcept.ofExcept check.repository
  match validationMessage with
  | none => pure ()
  | some message =>
      modify fun s => { s with app := s.app.update [(.stanza, ""), (.s3InitializationStart, ""),
        (.s3InitializationDone, ""), (.s3InitializationBlockMessage, message)] }

/-- `_was_restore_successful`. -/
def wasRestoreSuccessful (check : RestoreCheck) (serviceActive : Bool) : Handler Charm Bool := do
  let s ← get
  set s.isNewPitrFailure.2
  if s.isNewPitrFailure.1 then do
    attempt check.postgresqlLogs
    modify Charm.reportPitrFailure
    return false
  else if !serviceActive && s.status.message ≠ cannotRestorePitr then do
    modify (Charm.setStatus (.blocked failedToRestoreBackup))
    return false
  else if !check.memberStarted || !check.currentTimeline then return false
  else do
    completeRestore check
    return true

end PostgresqlK8s.Restore
