import PostgresqlK8s.Lib.Run
import PostgresqlK8s.AsyncReplication.Handlers

/-!
# AsyncReplication.SystemIdentifier

What becomes of the system identifier that a promotion records, and what the
standby cluster makes of it.

The promoted cluster writes its identifier into the JSON value under
`primary-cluster-data` of its databag in the relation.  Every refresh builds
that value anew and leaves the identifier out (`systemId_refresh`).  The
standby cluster, before it follows, compares its own identifier with the
value under a key `system-id` of that databag, which nothing ever writes
(`get_systemId_run`), so it always archives its data
(`configureStandbyCluster_eq`).
-/

namespace PostgresqlK8s.AsyncReplication

/-! ## the databag of the promoted cluster -/

/-- `primary_cluster_data`: the object that is written as JSON. -/
structure PrimaryClusterData where
  endpoint : String
  secretId : Option String
  systemId : Option String
deriving DecidableEq, Repr

/-- A value of the databag: a plain text, or the JSON of the data above. -/
inductive DatabagValue
  | text (s : String)
  | json (data : PrimaryClusterData)
deriving DecidableEq, Repr

/-- The application's databag in the replication relation. -/
abbrev RelationDatabag := String → Option DatabagValue

/-- What one update of the databag finds: the endpoint of the relation, whether
this cluster is the primary one and this unit its leader, what
`_primary_cluster_endpoint` names and the id of the shared secret. -/
structure RefreshAnswers where
  relationName : RelationName
  isPrimaryCluster : Bool
  isLeader : Bool
  primaryClusterEndpoint : String
  secretId : String
deriving Repr

/-- `_update_primary_cluster_data`. -/
def updatePrimaryClusterData (a : RefreshAnswers) (promotedClusterCounter : Option Nat)
    (systemIdentifier : Option String) (d : RelationDatabag) : RelationDatabag :=
  let d := match promotedClusterCounter with
    | some n => Function.update d "promoted-cluster-counter" (some (.text (toString n)))
    | none => d
  let data : PrimaryClusterData :=
    { endpoint := a.primaryClusterEndpoint
      secretId := if a.relationName = .replicationOffer then some a.secretId else none
      systemId := systemIdentifier }
  Function.update d "primary-cluster-data" (some (.json data))

/-- The later updates of the databag. -/
inductive Refresh
  /-- `update_async_replication_data`. -/
  | updateAsyncReplicationData
  /-- `_configure_primary_cluster`, where this application is the primary cluster. -/
  | configurePrimaryCluster
  /-- `_on_secret_changed`, for the internal secret. -/
  | secretChanged
deriving DecidableEq, Repr

/-- What the primary cluster does on a refresh. -/
def refresh (a : RefreshAnswers) (d : RelationDatabag) : Refresh → RelationDatabag
  | .updateAsyncReplicationData | .configurePrimaryCluster =>
      if a.isPrimaryCluster && a.isLeader then updatePrimaryClusterData a none none d else d
  | .secretChanged =>
      if a.relationName = .replicationOffer then
        Function.update d "primary-cluster-data"
          (some (.json ⟨a.primaryClusterEndpoint, some a.secretId, none⟩))
      else d

/-- Everything that writes the databag. -/
inductive DatabagEvent
  /-- `_handle_replication_change`: the action writes the next counter and the
  system identifier. -/
  | promote (a : RefreshAnswers) (promotedClusterCounter : Nat) (systemIdentifier : String)
  /-- `_on_create_replication` sets the name of the replication. -/
  | setName (name : String)
  | refresh (a : RefreshAnswers) (r : Refresh)

/-- One write. -/
def writeDatabag (d : RelationDatabag) : DatabagEvent → RelationDatabag
  | .promote a n systemIdentifier => updatePrimaryClusterData a (some n) (some systemIdentifier) d
  | .setName name => Function.update d "name" (some (.text name))
  | .refresh a r => refresh a d r

/-! ## the standby cluster -/

/-- How a run of `_configure_standby_cluster` ends. -/
inductive StandbyConfiguration
  /-- The shared secret was not found; the event is deferred. -/
  | deferred
  /-- `get_system_identifier` returned an error. -/
  | raised
  /-- The previous cluster's information is removed, after the data folder has
  been archived or not. -/
  | configured (archived : Bool)
deriving DecidableEq, Repr

/-- The data folder was archived. -/
def StandbyConfiguration.archives : StandbyConfiguration → Bool
  | .configured archived => archived
  | _ => false

/-- `_configure_standby_cluster`, with the result of `get_system_identifier`
and the remote application's databag. -/
def configureStandbyCluster (relationName : RelationName) (secretFound : Bool)
    (systemIdentifier : Except String String) (remote : RelationDatabag) :
    StandbyConfiguration :=
  if relationName = .replication && !secretFound then .deferred
  else match systemIdentifier with
    | .error _ => .raised
    | .ok systemIdentifier =>
        .configured (decide (some (.text systemIdentifier) ≠ remote "system-id"))

/-- The result that `_stop_database` goes by is the one of the model of the
handlers. -/
theorem configureStandbyCluster_handlers {App : Type} (a : Answers) (c : Cluster App)
    {r : AsyncRelation App} (hrel : c.relation = some r) (systemIdentifier : Except String String)
    (hfound : systemIdentifier.isOk = a.systemIdentifierFound) (remote : RelationDatabag) :
    c.configureStandbyCluster a =
      match configureStandbyCluster r.name a.secretFound systemIdentifier remote with
      | .deferred => some false
      | .raised => none
      | .configured _ => some true := by
  unfold Cluster.configureStandbyCluster configureStandbyCluster
  rw [hrel, ← hfound]
  cases hsecret : (decide (r.name = .replication) && !a.secretFound) with
  | true => simp [hsecret]
  | false =>
      cases systemIdentifier with
      | error e => simp [hsecret, Except.isOk, Except.toBool]
      | ok s => simp [hsecret, Except.isOk, Except.toBool]

/-! ## the identifier is lost -/

/-- After a refresh that wrote it, the JSON value holds no identifier. -/
theorem systemId_refresh (a : RefreshAnswers) (d : RelationDatabag) (r : Refresh) :
    refresh a d r = d ∨
      ∃ data, refresh a d r "primary-cluster-data" = some (.json data) ∧ data.systemId = none := by
  cases r with
  | secretChanged =>
      by_cases hname : a.relationName = .replicationOffer
      · exact .inr ⟨_, by rw [refresh, if_pos hname, Function.update_self], rfl⟩
      · exact .inl (by rw [refresh, if_neg hname])
  | updateAsyncReplicationData =>
      by_cases hacts : (a.isPrimaryCluster && a.isLeader) = true
      · exact .inr ⟨_, by rw [refresh, if_pos hacts, updatePrimaryClusterData,
          Function.update_self], rfl⟩
      · exact .inl (by rw [refresh, if_neg hacts])
  | configurePrimaryCluster =>
      by_cases hacts : (a.isPrimaryCluster && a.isLeader) = true
      · exact .inr ⟨_, by rw [refresh, if_pos hacts, updatePrimaryClusterData,
          Function.update_self], rfl⟩
      · exact .inl (by rw [refresh, if_neg hacts])

theorem get_systemId_updatePrimaryClusterData (a : RefreshAnswers) (n : Option Nat)
    (systemIdentifier : Option String) (d : RelationDatabag) :
    updatePrimaryClusterData a n systemIdentifier d "system-id" = d "system-id" := by
  unfold updatePrimaryClusterData
  rw [Function.update_of_ne (by decide)]
  cases n with
  | none => rfl
  | some n => exact Function.update_of_ne (by decide) _ _

theorem get_systemId_refresh (a : RefreshAnswers) (d : RelationDatabag) (r : Refresh) :
    refresh a d r "system-id" = d "system-id" := by
  cases r with
  | secretChanged =>
      rw [refresh]
      split
      · exact Function.update_of_ne (by decide) _ d
      · rfl
  | updateAsyncReplicationData =>
      rw [refresh]
      split
      · exact get_systemId_updatePrimaryClusterData a none none d
      · rfl
  | configurePrimaryCluster =>
      rw [refresh]
      split
      · exact get_systemId_updatePrimaryClusterData a none none d
      · rfl

/-- No write touches the key that the standby cluster reads. -/
theorem get_systemId_writeDatabag (d : RelationDatabag) (e : DatabagEvent) :
    writeDatabag d e "system-id" = d "system-id" := by
  cases e with
  | promote a n systemIdentifier =>
      rw [writeDatabag, get_systemId_updatePrimaryClusterData]
  | setName name =>
      rw [writeDatabag]
      exact Function.update_of_ne (by decide) _ d
  | refresh a r => rw [writeDatabag, get_systemId_refresh]

/-- The databag of a relation never gets that key. -/
theorem get_systemId_run (es : List DatabagEvent) :
    Machine.run writeDatabag (fun _ => none) es "system-id" = none := by
  have hstep (d : RelationDatabag) (e : DatabagEvent) (hd : d "system-id" = none) :
      writeDatabag d e "system-id" = none := by
    rw [get_systemId_writeDatabag, hd]
  exact Machine.run_of_step (fun d : RelationDatabag => d "system-id" = none) hstep es rfl

/-- A standby cluster that is configured archives its data, whatever has been
published. -/
theorem configureStandbyCluster_eq (relationName : RelationName) (secretFound : Bool)
    (systemIdentifier : String) (es : List DatabagEvent) :
    configureStandbyCluster relationName secretFound (.ok systemIdentifier)
        (Machine.run writeDatabag (fun _ => none) es) =
      if relationName = .replication && !secretFound then .deferred else .configured true := by
  unfold configureStandbyCluster
  rw [get_systemId_run]
  simp

/-- **When the standby cluster archives its data exactly when it must.**  A
promotion records `s_p` and any refreshes follow; the standby cluster, with
the identifier `s_l`, archives its data if and only if the two differ, if and
only if they do differ and it goes through, or they do not and it is deferred
for want of the shared secret. -/
theorem archives_iff (before : List DatabagEvent) (a : RefreshAnswers) (n : Nat) (s_p : String)
    (refreshes : List (RefreshAnswers × Refresh)) (relationName : RelationName)
    (secretFound : Bool) (s_l : String) :
    ((configureStandbyCluster relationName secretFound (.ok s_l)
        (Machine.run writeDatabag (fun _ => none)
          (before ++ .promote a n s_p :: refreshes.map fun r => .refresh r.1 r.2))).archives
      ↔ s_l ≠ s_p) ↔
    if relationName = .replication && !secretFound then s_l = s_p else s_l ≠ s_p := by
  rw [configureStandbyCluster_eq]
  split
  · simp [StandbyConfiguration.archives]
  · simp [StandbyConfiguration.archives]

/-- A standby cluster with the identifier that the promotion recorded. -/
theorem archives_same_identifier :
    ¬ ((configureStandbyCluster .replication true (.ok "7012345678901234567")
        (Machine.run writeDatabag (fun _ => none)
          [.promote ⟨.replicationOffer, true, true, "10.1.2.3", "secret:1"⟩ 1
            "7012345678901234567"])).archives
      ↔ ("7012345678901234567" : String) ≠ "7012345678901234567") := by
  rw [configureStandbyCluster_eq]
  simp [StandbyConfiguration.archives]

end PostgresqlK8s.AsyncReplication
