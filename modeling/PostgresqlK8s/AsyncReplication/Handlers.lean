import Mathlib.Logic.Function.Basic
import PostgresqlK8s.Status
import PostgresqlK8s.AsyncReplication.Election

/-!
# AsyncReplication.Handlers

The handlers of the replication relation and the two promotion actions, over
the state of one cluster.

A cluster is its election data, the peer databags of the application and of
its units, and whether each unit's database service runs.  What a handler
asks of Patroni, of the workload container and of Juju is in `Answers`: a
handler may find anything there.  A handler that defers its event is run
again later, and an uncaught exception makes Juju drop the databag writes of
the run, so both need no result of their own.

Each handler changes the election data in one way only, which the lemmas
named `toElection_…` state: the relation-changed handler never touches it,
and a promotion only writes this side's counter.
-/

namespace PostgresqlK8s.AsyncReplication

/-- `READ_ONLY_MODE_BLOCKING_MESSAGE`. -/
def readOnlyModeBlockingMessage : String := "Standalone read-only cluster"

/-- What one run of a handler or an action is told by Patroni, by the
workload container, by the operator and by Juju. -/
structure Answers where
  /-- `member_started`. -/
  memberStarted : Bool
  /-- `get_standby_leader() is not None`. -/
  standbyLeader : Bool
  /-- `get_standby_leader(check_whether_is_running=True)` named a member. -/
  standbyLeaderRunning : Bool
  /-- A promoted standby leader became the primary within the retries. -/
  standbyPromoted : Bool
  /-- `container.can_connect()`. -/
  canConnect : Bool
  /-- The postgresql service has been added to the Pebble plan. -/
  serviceAdded : Bool
  /-- `container.exists(POSTGRESQL_DATA_PATH)`. -/
  pgdataExists : Bool
  /-- The relation secret was found. -/
  secretFound : Bool
  /-- `get_system_identifier` returned no error. -/
  systemIdentifierFound : Bool
  /-- The leader annotation was missing and has been added again. -/
  leaderAnnotationFixed : Bool
  /-- For each remote unit, whether it has published its `unit-address`. -/
  unitAddresses : List Bool
  /-- The primary of the other cluster answered. -/
  primaryReachable : Bool
deriving Repr

/-- A unit: the two keys of its peer databag that the handlers use, and
whether its database service runs. -/
structure UnitData where
  /-- `"stopped"` is in the unit databag. -/
  stopped : Bool := false
  /-- `"unit-promoted-cluster-counter"`, if present. -/
  unitPromotedClusterCounter : Option Nat := none
  /-- The postgresql service runs. -/
  running : Bool := true
deriving DecidableEq, Repr

/-- One cluster: the election data, the application's peer databag and
status, and its units. -/
structure Cluster (App : Type) extends Election App where
  /-- The unit that is the leader. -/
  leader : Nat
  /-- All units of the application, the leader included. -/
  units : List Nat
  /-- `"cluster_initialised"` is in the application databag. -/
  clusterInitialised : Bool
  /-- The status of the application. -/
  appStatus : Status
  unit : Nat → UnitData

namespace Cluster

variable {App : Type} [DecidableEq App]

/-- `self.charm.unit.is_leader()`, in the unit `u`. -/
def isLeader (c : Cluster App) (u : Nat) : Bool := u == c.leader

/-- The units `self.charm._peers.units` of the unit `u`. -/
def peerUnits (c : Cluster App) (u : Nat) : List Nat := c.units.filter (· ≠ u)

/-- Change one unit. -/
def updateUnit (c : Cluster App) (u : Nat) (f : UnitData → UnitData) : Cluster App :=
  { c with unit := Function.update c.unit u (f (c.unit u)) }

/-- Write this side's counter in the relation and in the peer databag, as
`_update_primary_cluster_data` does. -/
def updatePrimaryClusterData (c : Cluster App) (promotedClusterCounter : Nat) : Cluster App :=
  let publish (r : AsyncRelation App) : AsyncRelation App :=
    { r with promotedClusterCounter := some promotedClusterCounter }
  { c with
    promotedClusterCounter := some promotedClusterCounter
    offer := c.offer.map publish
    consumer := if c.offer.isSome then c.consumer else c.consumer.map publish }

/-- `_set_app_status`. -/
def setAppStatus (c : Cluster App) : Cluster App :=
  if c.promotedClusterCounter = some 0 then
    { c with appStatus := .blocked readOnlyModeBlockingMessage }
  else if c.relation.isNone then
    { c with appStatus := .active }
  else match c.getPrimaryCluster with
    | none => { c with appStatus := .active }
    | some primary =>
        { c with appStatus := .active (if c.app = primary then "Primary" else "Standby") }

/-- `_is_following_promoted_cluster`, in the unit `u`. -/
def isFollowingPromotedCluster (c : Cluster App) (u : Nat) : Bool :=
  if c.getPrimaryCluster.isNone then false
  else (c.unit u).unitPromotedClusterCounter ==
    some c.getHighestPromotedClusterCounterValue

/-! ## The relation-changed handler -/

/-- `_configure_primary_cluster`: whether the event needs nothing more, and
the new state.  The counter is not written when the standby cluster that was
just promoted has no primary yet; the event is deferred then. -/
def configurePrimaryCluster (a : Answers) (u : Nat) (c : Cluster App) (primary : App) :
    Bool × Cluster App :=
  if c.app = primary then
    if c.isPrimaryCluster && c.isLeader u && a.standbyLeader && !a.standbyPromoted then
      (true, c)
    else
      (true, c.updateUnit u fun d =>
        { d with unitPromotedClusterCounter := some c.getHighestPromotedClusterCounterValue })
  else (false, c)

/-- `_configure_standby_cluster`: its result, or `none` when it raises. -/
def configureStandbyCluster (a : Answers) (c : Cluster App) : Option Bool :=
  match c.relation with
  | none => none
  | some r =>
      if r.name = .replication && !a.secretFound then some false
      else if !a.systemIdentifierFound then none
      else some true

/-- `_stop_database`: whether the handler goes on, and the new state.  An
exception while the standby cluster is configured leaves the service stopped
and the databags as they were. -/
def stopDatabase (a : Answers) (u : Nat) (c : Cluster App) : Bool × Cluster App :=
  if !(c.unit u).stopped && !c.isFollowingPromotedCluster u then
    if !c.isLeader u && !a.pgdataExists then (false, c)
    else
      let c := c.updateUnit u fun d => { d with running := false }
      if c.isLeader u then
        match c.configureStandbyCluster a with
        | none => (false, c)
        | some false => (false, { c with clusterInitialised := false })
        | some true =>
            (true, { c with clusterInitialised := false }.updateUnit u fun d =>
              { d with stopped := true })
      else (true, c.updateUnit u fun d => { d with stopped := true })
  else (true, c)

/-- `_handle_database_start`. -/
def handleDatabaseStart (a : Answers) (u : Nat) (c : Cluster App) : Cluster App :=
  if a.memberStarted then
    let highest := c.getHighestPromotedClusterCounterValue
    let c := c.updateUnit u fun d =>
      { d with stopped := false, unitPromotedClusterCounter := some highest }
    if c.isLeader u && (u :: c.peerUnits u).all
        (fun v => (c.unit v).unitPromotedClusterCounter == some highest) then
      { c with clusterInitialised := true }
    else c
  else if c.isLeader u && a.leaderAnnotationFixed then { c with clusterInitialised := false }
  else c

/-- Every other unit is stopped or already follows the promoted cluster. -/
def peersStopped (c : Cluster App) (u : Nat) : Bool :=
  (c.peerUnits u).all fun v => (c.unit v).stopped ||
    (c.unit v).unitPromotedClusterCounter == some c.getHighestPromotedClusterCounterValue

/-- The part of `_on_async_relation_changed` after the database was stopped:
wait for the other units and for the standby leader, then start it again. -/
def startDatabase (a : Answers) (u : Nat) (c : Cluster App) : Cluster App :=
  if !((c.unit u).stopped || c.isFollowingPromotedCluster u) || !c.peersStopped u then c
  else if !c.isLeader u && !a.standbyLeaderRunning then c
  else if !a.canConnect || !a.serviceAdded then c
  else (c.updateUnit u fun d => { d with running := true }).handleDatabaseStart a u

/-- The first lines of `_on_async_relation_changed`: the leader refreshes the
status of the application. -/
def refreshAppStatus (u : Nat) (c : Cluster App) : Cluster App :=
  if c.isLeader u then c.setAppStatus else c

/-- `_on_async_relation_changed` after these lines. -/
def followPrimaryCluster (a : Answers) (u : Nat) (c : Cluster App) : Cluster App :=
  match c.getPrimaryCluster with
  | none => c
  | some primary =>
      let (configured, c) := c.configurePrimaryCluster a u primary
      if configured then c
      else if !c.isLeader u && c.isFollowingPromotedCluster u then c
      else
        let (goesOn, c) := c.stopDatabase a u
        if goesOn then c.startDatabase a u else c

/-- `_on_async_relation_changed`, in the unit `u`. -/
def onAsyncRelationChanged (a : Answers) (u : Nat) (c : Cluster App) : Cluster App :=
  (c.refreshAppStatus u).followPrimaryCluster a u

/-! ## The other relation handlers -/

/-- `_on_async_relation_created`, in the unit `u`. -/
def onAsyncRelationCreated (u : Nat) (c : Cluster App) : Cluster App :=
  if c.getHighestPromotedClusterCounterValue ≠ 0 then
    c.updateUnit u fun d =>
      { d with unitPromotedClusterCounter := some c.getHighestPromotedClusterCounterValue }
  else c

/-- `_on_async_relation_broken`, once every unit has handled it: the relation
is gone, and the leader resets the counter. -/
def onAsyncRelationBroken (a : Answers) (c : Cluster App) : Cluster App :=
  let c := { c with
    offer := none
    consumer := none
    unit := fun u => { c.unit u with stopped := false, unitPromotedClusterCounter := none } }
  if a.standbyLeader then { c with promotedClusterCounter := some 0 }.setAppStatus
  else { c with promotedClusterCounter := none }

/-! ## The promotion actions -/

/-- `_handle_forceful_promotion`; the endpoints that are asked for the primary
are those of the remote units that published an address, and none when this
cluster sees no other primary cluster. -/
def handleForcefulPromotion (force : Bool) (a : Answers) (c : Cluster App) : Bool :=
  force || c.getPrimaryCluster.isNone || c.isPrimaryCluster || !a.unitAddresses.any id ||
    a.primaryReachable

/-- `_can_promote_cluster`: whether the promotion may go on, and the new
state, which differs only when a cluster without a relation leaves the
read-only mode. -/
def canPromoteCluster (force : Bool) (a : Answers) (c : Cluster App) : Bool × Cluster App :=
  if !c.clusterInitialised then (false, c)
  else if c.relation.isNone then
    if a.standbyLeader && a.standbyPromoted &&
        c.appStatus.message = readOnlyModeBlockingMessage then
      (false, { c with promotedClusterCounter := none }.setAppStatus)
    else (false, c)
  else if c.isPrimaryCluster then (false, c)
  else (c.handleForcefulPromotion force a, c)

/-- `_handle_replication_change`.  Without a remote unit the event cannot be
emitted again; the action fails then and its writes are dropped. -/
def handleReplicationChange (force : Bool) (a : Answers) (c : Cluster App) : Cluster App :=
  let (canPromote, c) := c.canPromoteCluster force a
  if !canPromote then c
  else if !a.unitAddresses.all id then c
  else if !a.systemIdentifierFound then c
  else if a.unitAddresses.isEmpty then c
  else (c.updatePrimaryClusterData (c.getHighestPromotedClusterCounterValue + 1)
    ).onAsyncRelationChanged a c.leader

/-- `_on_create_replication`. -/
def onCreateReplication (a : Answers) (c : Cluster App) : Cluster App :=
  if c.getPrimaryCluster.isSome then c
  else if c.relation.all (·.name = .replication) then c
  else c.handleReplicationChange false a

/-- `promote_to_primary`. -/
def promoteToPrimary (force : Bool) (a : Answers) (c : Cluster App) : Cluster App :=
  if c.appStatus.message ≠ readOnlyModeBlockingMessage && c.getPrimaryCluster.isNone then c
  else c.handleReplicationChange force a

/-! ## What the handlers leave alone -/

omit [DecidableEq App] in
@[simp] theorem toElection_updateUnit (c : Cluster App) (u : Nat) (f : UnitData → UnitData) :
    (c.updateUnit u f).toElection = c.toElection := rfl

@[simp] theorem toElection_setAppStatus (c : Cluster App) :
    c.setAppStatus.toElection = c.toElection := by
  unfold setAppStatus
  split
  · rfl
  · split
    · rfl
    · split <;> rfl

@[simp] theorem toElection_configurePrimaryCluster (a : Answers) (u : Nat) (c : Cluster App)
    (primary : App) : (c.configurePrimaryCluster a u primary).2.toElection = c.toElection := by
  unfold configurePrimaryCluster
  split
  · split <;> rfl
  · rfl

omit [DecidableEq App] in
@[simp] theorem toElection_stopDatabase (a : Answers) (u : Nat) (c : Cluster App) :
    (c.stopDatabase a u).2.toElection = c.toElection := by
  unfold stopDatabase
  split
  · split
    · rfl
    · dsimp only
      split
      · split <;> rfl
      · rfl
  · rfl

omit [DecidableEq App] in
@[simp] theorem toElection_handleDatabaseStart (a : Answers) (u : Nat) (c : Cluster App) :
    (c.handleDatabaseStart a u).toElection = c.toElection := by
  unfold handleDatabaseStart
  split
  · dsimp only
    split <;> rfl
  · split <;> rfl

omit [DecidableEq App] in
@[simp] theorem toElection_startDatabase (a : Answers) (u : Nat) (c : Cluster App) :
    (c.startDatabase a u).toElection = c.toElection := by
  unfold startDatabase
  split
  · rfl
  · split
    · rfl
    · split
      · rfl
      · simp

@[simp] theorem toElection_refreshAppStatus (u : Nat) (c : Cluster App) :
    (c.refreshAppStatus u).toElection = c.toElection := by
  unfold refreshAppStatus
  split <;> simp

@[simp] theorem toElection_followPrimaryCluster (a : Answers) (u : Nat) (c : Cluster App) :
    (c.followPrimaryCluster a u).toElection = c.toElection := by
  unfold followPrimaryCluster
  dsimp only
  split
  · rfl
  · split
    · simp
    · split
      · simp
      · split <;> simp

/-- The relation-changed handler never touches what decides the primary
cluster. -/
@[simp] theorem toElection_onAsyncRelationChanged (a : Answers) (u : Nat) (c : Cluster App) :
    (c.onAsyncRelationChanged a u).toElection = c.toElection := by
  simp [onAsyncRelationChanged]

omit [DecidableEq App] in
@[simp] theorem toElection_onAsyncRelationCreated (u : Nat) (c : Cluster App) :
    (c.onAsyncRelationCreated u).toElection = c.toElection := by
  unfold onAsyncRelationCreated
  split <;> rfl

/-! ## When a promotion goes through -/

/-- The checks of `_handle_replication_change`. -/
def acceptsReplicationChange (force : Bool) (a : Answers) (c : Cluster App) : Bool :=
  c.clusterInitialised && c.relation.isSome && !c.isPrimaryCluster &&
    c.handleForcefulPromotion force a && a.unitAddresses.all id && a.systemIdentifierFound &&
    !a.unitAddresses.isEmpty

/-- The checks of `_on_create_replication`. -/
def acceptsCreateReplication (a : Answers) (c : Cluster App) : Bool :=
  c.getPrimaryCluster.isNone && !c.relation.all (·.name = .replication) &&
    c.acceptsReplicationChange false a

/-- The checks of `promote_to_primary`. -/
def acceptsPromoteToPrimary (force : Bool) (a : Answers) (c : Cluster App) : Bool :=
  (c.appStatus.message = readOnlyModeBlockingMessage || c.getPrimaryCluster.isSome) &&
    c.acceptsReplicationChange force a

/-- A promotion that passes its checks writes the next counter, and the
leader then handles the relation-changed event. -/
def promote (a : Answers) (c : Cluster App) : Cluster App :=
  (c.updatePrimaryClusterData (c.getHighestPromotedClusterCounterValue + 1)
    ).onAsyncRelationChanged a c.leader

/-- A promotion that is refused changes nothing, or clears the counter of a
cluster without a relation. -/
def refuse (force : Bool) (a : Answers) (c : Cluster App) : Cluster App :=
  if c.relation.isNone then (c.canPromoteCluster force a).2 else c

/-- The change is made where it is accepted, and refused elsewhere. -/
theorem handleReplicationChange_eq (force : Bool) (a : Answers) (c : Cluster App) :
    c.handleReplicationChange force a =
      if c.acceptsReplicationChange force a then c.promote a else c.refuse force a := by
  unfold handleReplicationChange acceptsReplicationChange refuse canPromoteCluster promote
  cases hrel : c.relation with
  | none =>
      cases c.clusterInitialised
      · simp
      · by_cases hstandby : (a.standbyLeader && a.standbyPromoted &&
          decide (c.appStatus.message = readOnlyModeBlockingMessage)) = true
        · simp [hstandby]
        · simp [hstandby]
  | some r =>
      cases c.clusterInitialised <;> cases c.isPrimaryCluster <;>
        cases c.handleForcefulPromotion force a <;> cases a.unitAddresses.all id <;>
        cases a.systemIdentifierFound <;> cases a.unitAddresses.isEmpty <;> simp

/-- What `create-replication` does. -/
theorem onCreateReplication_eq (a : Answers) (c : Cluster App) :
    c.onCreateReplication a = if c.acceptsCreateReplication a then c.promote a else c := by
  unfold onCreateReplication acceptsCreateReplication
  rw [handleReplicationChange_eq]
  cases hprimary : c.getPrimaryCluster with
  | some primary => simp
  | none =>
      cases hname : c.relation.all (·.name = .replication) with
      | true => simp
      | false =>
          have hrel : c.relation.isNone = false := by
            cases hr : c.relation with
            | none => simp [hr] at hname
            | some r => rfl
          simp [refuse, hrel]

/-- What `promote-to-primary` does. -/
theorem promoteToPrimary_eq (force : Bool) (a : Answers) (c : Cluster App) :
    c.promoteToPrimary force a =
      if c.acceptsPromoteToPrimary force a then c.promote a
      else if c.appStatus.message = readOnlyModeBlockingMessage then c.refuse force a
      else c := by
  unfold promoteToPrimary acceptsPromoteToPrimary
  rw [handleReplicationChange_eq]
  by_cases hstatus : c.appStatus.message = readOnlyModeBlockingMessage
  · simp [hstatus]
  · cases hprimary : c.getPrimaryCluster with
    | none => simp [hstatus]
    | some primary =>
        have hrel : c.relation.isNone = false := by
          cases hr : c.relation with
          | none => simp [Election.getPrimaryCluster_of_relation_none hr] at hprimary
          | some r => rfl
        simp [hstatus, refuse, hrel]

end Cluster

end PostgresqlK8s.AsyncReplication
