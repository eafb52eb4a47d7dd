import PostgresqlK8s.Lib.Run
import PostgresqlK8s.Members.Names
import PostgresqlK8s.Status
import Mathlib.Data.List.Dedup

/-!
# Members.Endpoints

The list of cluster members that the leader keeps in the application databag.

The leader adds the endpoint of every host that Patroni does not know as a
member, without looking whether it is in the list already, and removes the
endpoints of hosts that have left, one occurrence each.  A host that Patroni
has not registered since it was added is added again.  `faithful_iff` says
that these are the only steps after which the list is not faithful.
-/

namespace PostgresqlK8s.Members

/-- The order in which a set is iterated over. -/
structure SetOrder where
  order : List String → List String
  perm : ∀ l, (order l).Perm l

/-- What `_add_members` meets. -/
structure AddAnswers where
  /-- `cluster_members` when it is compared with the hosts; `none` is a
  `RetryError`. -/
  clusterMembers : Option (List String)
  /-- `cluster_members` when the missing ones are computed. -/
  clusterMembersAgain : Option (List String)
  setOrder : SetOrder
  /-- `are_all_members_ready()` before the member is added. -/
  allMembersReady : String → Bool
  /-- `_patch_pod_labels`, or the error it fails with. -/
  patchPodLabels : String → Option String

/-- What the handlers meet. -/
structure MemberAnswers where
  /-- Nothing raises an exception that the handler does not catch. -/
  completes : Bool
  /-- `fix_leader_annotation()`. -/
  leaderAnnotation : Bool
  /-- The annotation was missing and has been added again. -/
  leaderAnnotationFixed : Bool
  /-- `_create_services`, unless an upgrade is in progress. -/
  servicesCreated : Bool
  /-- `_initialize_cluster` marks the cluster as initialised. -/
  clusterInitialised : Bool
  /-- `updated_synchronous_node_count()`. -/
  synchronousNodeCount : Bool
  /-- The unit was the primary and a switchover has succeeded. -/
  switchedOver : Bool
  setOrder : SetOrder
  add : AddAnswers

/-- The cluster as its leader sees it. -/
structure MemberState where
  /-- `endpoints` in the application databag. -/
  endpoints : List String
  /-- The Juju hosts. -/
  hosts : List Nat
  leader : Option Nat
  clusterInitialised : Bool
  /-- The status of the leader. -/
  status : Status
  /-- The units whose departure no leader has handled yet. -/
  departed : List Nat

namespace MemberState

variable (app : String)

/-- `_hosts`. -/
def hostNames (s : MemberState) : List String := s.hosts.map (unitNameToPodName app)

/-- `_add_to_endpoints`. -/
def addToEndpoints (e : String) (s : MemberState) : MemberState :=
  { s with endpoints := s.endpoints ++ [e] }

/-- `_remove_from_endpoints`: one occurrence of each. -/
def removeFromEndpoints (es : List String) (s : MemberState) : MemberState :=
  { s with endpoints := s.endpoints.diff es }

/-- `_get_endpoints_to_remove`. -/
def getEndpointsToRemove (o : SetOrder) (s : MemberState) : List String :=
  o.order (s.endpoints.dedup.filter fun e =>
    !((s.hostNames app).map (getHostnameFromUnit app)).contains e)

/-- The endpoints of the hosts that have left are removed. -/
def removeDeparted (o : SetOrder) (s : MemberState) : MemberState :=
  { s.removeFromEndpoints (s.getEndpointsToRemove app o) with departed := [] }

/-- `add_cluster_member`; `none` is `NotReadyError`. -/
def addClusterMember (a : AddAnswers) (member : String) (s : MemberState) : Option MemberState :=
  if !a.allMembersReady member then none
  else
    let s := s.addToEndpoints (getHostnameFromUnit app member)
    match a.patchPodLabels member with
    | some error => some { s with status := .blocked ("failed to patch pod with error " ++ error) }
    | none => some s

/-- The loop of `_add_members`, which ends with the first member that is not
ready. -/
def addClusterMembers (a : AddAnswers) : List String → MemberState → MemberState
  | [], s => s
  | member :: members, s =>
      match s.addClusterMember app a member with
      | none => s
      | some s => addClusterMembers a members s

/-- `self._hosts - self._patroni.cluster_members`. -/
def missingMembers (a : AddAnswers) (clusterMembers : List String) (s : MemberState) :
    List String :=
  a.setOrder.order ((s.hostNames app).filter fun h => !clusterMembers.contains h)

/-- The comparison of two sets. -/
def sameMembers (l m : List String) : Bool := l.all m.contains && m.all l.contains

/-- `_add_members`. -/
def addMembers (a : AddAnswers) (s : MemberState) : MemberState :=
  if !s.clusterInitialised then s
  else match a.clusterMembers with
    | none => s
    | some clusterMembers =>
        if sameMembers clusterMembers (s.hostNames app) then s
        else
          let s := { s with status := .maintenance "reconfiguring cluster" }
          match a.clusterMembersAgain with
          | none => s
          | some clusterMembers =>
              s.addClusterMembers app a (s.missingMembers app a clusterMembers)

/-- The first lines of `_on_leader_elected`: the leader is a member. -/
def addLeader (u : Nat) (s : MemberState) : MemberState :=
  let s := { s with leader := some u }
  if endpoint app u ∈ s.endpoints then s else s.addToEndpoints (endpoint app u)

/-- `fix_leader_annotation`. -/
def fixLeaderAnnotation (a : MemberAnswers) (s : MemberState) : MemberState :=
  if a.leaderAnnotationFixed then { s with clusterInitialised := false } else s

/-- `_on_leader_elected`, in the unit `u`. -/
def onLeaderElected (u : Nat) (a : MemberAnswers) (s : MemberState) : MemberState :=
  let s := fixLeaderAnnotation a (s.addLeader app u)
  if !a.leaderAnnotation then s
  else if !a.servicesCreated then { s with status := .blocked "failed to create k8s services" }
  else (s.removeDeparted app a.setOrder).addMembers app a.add

/-- `_on_peer_relation_changed`, in the leader. -/
def onPeerRelationChanged (a : MemberAnswers) (s : MemberState) : MemberState :=
  if !s.clusterInitialised then
    if a.clusterInitialised then { s with clusterInitialised := true } else s
  else s.addMembers app a.add

/-- `_on_peer_relation_departed`, in the leader. -/
def onPeerRelationDeparted (departing : Nat) (a : MemberAnswers) (s : MemberState) :
    MemberState :=
  if s.leader = some departing then s
  else if !s.clusterInitialised || !a.synchronousNodeCount then s
  else s.removeDeparted app a.setOrder

/-- `_on_pgdata_storage_detaching`, in the leader. -/
def onPgdataStorageDetaching (a : MemberAnswers) (s : MemberState) : MemberState :=
  if !a.switchedOver then s else s.removeDeparted app a.setOrder

end MemberState

/-- The events of a run. -/
inductive MemberEvent
  | hostJoins (u : Nat)
  | hostLeaves (u : Nat)
  | leaderElected (u : Nat) (a : MemberAnswers)
  | peerRelationChanged (a : MemberAnswers)
  | peerRelationDeparted (departing : Nat) (a : MemberAnswers)
  | storageDetaching (a : MemberAnswers)

namespace MemberState

variable (app : String)

/-- One event.  A handler runs in a unit that is a host, and its writes are
dropped when it raises. -/
def step (s : MemberState) : MemberEvent → MemberState
  | .hostJoins u => if u ∈ s.hosts then s else { s with hosts := s.hosts ++ [u] }
  | .hostLeaves u =>
      if u ∈ s.hosts then
        { s with
          hosts := s.hosts.erase u
          leader := if s.leader = some u then none else s.leader
          departed := u :: s.departed }
      else s
  | .leaderElected u a =>
      if u ∈ s.hosts && a.completes then s.onLeaderElected app u a else s
  | .peerRelationChanged a =>
      if s.leader.isSome && a.completes then s.onPeerRelationChanged app a else s
  | .peerRelationDeparted departing a =>
      if s.leader.isSome && a.completes then s.onPeerRelationDeparted app departing a else s
  | .storageDetaching a =>
      if s.leader.isSome && a.completes then s.onPgdataStorageDetaching app a else s

/-- The cluster before its first leader. -/
structure Initial (s : MemberState) : Prop where
  endpoints : s.endpoints = []
  hosts : s.hosts.Nodup

/-- The list has no entry twice, and only entries of hosts and of units whose
departure was not handled yet. -/
structure Faithful (s : MemberState) : Prop where
  nodup : s.endpoints.Nodup
  known : ∀ e ∈ s.endpoints, ∃ u, e = endpoint app u ∧ (u ∈ s.hosts ∨ u ∈ s.departed)

/-- The hosts that `_add_members` adds. -/
def addedMembers (a : AddAnswers) (s : MemberState) : List String :=
  if !s.clusterInitialised then []
  else match a.clusterMembers with
    | none => []
    | some clusterMembers =>
        if sameMembers clusterMembers (s.hostNames app) then []
        else match a.clusterMembersAgain with
          | none => []
          | some clusterMembers =>
              (s.missingMembers app a clusterMembers).takeWhile a.allMembersReady

/-- The hosts that `_add_members` adds are not in the list yet. -/
def AddsNew (a : AddAnswers) (s : MemberState) : Prop :=
  ∀ member ∈ s.addedMembers app a, getHostnameFromUnit app member ∉ s.endpoints

/-- No event adds a host whose endpoint is in the list. -/
def NothingTwice (s : MemberState) : MemberEvent → Prop
  | .leaderElected u a =>
      (u ∈ s.hosts && a.completes && a.leaderAnnotation && a.servicesCreated) = true →
        AddsNew app a.add
          (( fixLeaderAnnotation a (s.addLeader app u)).removeDeparted app a.setOrder)
  | .peerRelationChanged a =>
      (s.leader.isSome && a.completes && s.clusterInitialised) = true → AddsNew app a.add s
  | _ => True

instance (a : AddAnswers) (s : MemberState) : Decidable (AddsNew app a s) := by
  unfold AddsNew
  infer_instance

instance (s : MemberState) (e : MemberEvent) : Decidable (NothingTwice app s e) := by
  unfold NothingTwice
  split <;> infer_instance

/-! ## What the handlers do to the list -/

section Handlers

variable {app} {s : MemberState}

/-- The members are the pods of the hosts. -/
theorem mem_hostNames {member : String} (h : member ∈ s.hostNames app) :
    ∃ u ∈ s.hosts, getHostnameFromUnit app member = endpoint app u := by
  obtain ⟨u, hu, rfl⟩ := List.mem_map.mp h
  exact ⟨u, hu, rfl⟩

theorem nodup_hostNames (h : s.hosts.Nodup) : (s.hostNames app).Nodup :=
  h.map (unitNameToPodName_injective app)

/-- The endpoints to remove are those of no host. -/
theorem mem_getEndpointsToRemove {o : SetOrder} {e : String} :
    e ∈ s.getEndpointsToRemove app o ↔ e ∈ s.endpoints ∧ e ∉ s.hosts.map (endpoint app) := by
  have hcurrent : (s.hostNames app).map (getHostnameFromUnit app) = s.hosts.map (endpoint app) := by
    rw [hostNames, List.map_map]
    rfl
  rw [getEndpointsToRemove, (o.perm _).mem_iff, List.mem_filter, List.mem_dedup, hcurrent]
  simp

/-- Without duplicates the removal keeps the endpoints of the hosts. -/
theorem mem_removeDeparted (h : s.endpoints.Nodup) {o : SetOrder} {e : String} :
    e ∈ (s.removeDeparted app o).endpoints ↔
      e ∈ s.endpoints ∧ e ∈ s.hosts.map (endpoint app) := by
  rw [removeDeparted, removeFromEndpoints, h.mem_sdiff_iff, mem_getEndpointsToRemove]
  tauto

/-- Removing the departed keeps the endpoints faithful. -/
theorem faithful_removeDeparted (h : Faithful app s) (o : SetOrder) :
    Faithful app (s.removeDeparted app o) := by
  refine ⟨h.nodup.diff, fun e he => ?_⟩
  obtain ⟨-, hhost⟩ := (mem_removeDeparted h.nodup).mp he
  obtain ⟨u, hu, rfl⟩ := List.mem_map.mp hhost
  exact ⟨u, rfl, .inl hu⟩

/-- Members are added up to the first for which the others are not ready. -/
theorem endpoints_addClusterMembers (a : AddAnswers) (members : List String) (s : MemberState) :
    (s.addClusterMembers app a members).endpoints =
        s.endpoints ++ (members.takeWhile a.allMembersReady).map (getHostnameFromUnit app) ∧
      (s.addClusterMembers app a members).hosts = s.hosts ∧
      (s.addClusterMembers app a members).departed = s.departed := by
  induction members generalizing s with
  | nil => simp [addClusterMembers]
  | cons member members ih =>
      rw [addClusterMembers]
      cases hready : a.allMembersReady member with
      | false => simp [addClusterMember, hready]
      | true =>
          cases hpatch : a.patchPodLabels member with
          | none =>
              simp only [addClusterMember, hready, hpatch, Bool.not_true, Bool.false_eq_true,
                if_false]
              obtain ⟨hendpoints, hhosts, hdeparted⟩ :=
                ih (s.addToEndpoints (getHostnameFromUnit app member))
              refine ⟨?_, hhosts, hdeparted⟩
              rw [hendpoints]
              simp [addToEndpoints, hready]
          | some error =>
              simp only [addClusterMember, hready, hpatch, Bool.not_true, Bool.false_eq_true,
                if_false]
              obtain ⟨hendpoints, hhosts, hdeparted⟩ :=
                ih { s.addToEndpoints (getHostnameFromUnit app member) with
                  status := .blocked ("failed to patch pod with error " ++ error) }
              refine ⟨?_, hhosts, hdeparted⟩
              rw [hendpoints]
              simp [addToEndpoints, hready]

/-- `_add_members` appends the endpoints of the hosts it adds. -/
theorem endpoints_addMembers (a : AddAnswers) (s : MemberState) :
    (s.addMembers app a).endpoints =
        s.endpoints ++ (s.addedMembers app a).map (getHostnameFromUnit app) ∧
      (s.addMembers app a).hosts = s.hosts ∧ (s.addMembers app a).departed = s.departed := by
  unfold addMembers addedMembers
  split
  · simp
  · split
    · simp
    · split
      · simp
      · dsimp only
        split
        · simp
        · exact endpoints_addClusterMembers a _ _

/-- The hosts that are added are distinct hosts. -/
theorem addedMembers_spec (a : AddAnswers) (h : s.hosts.Nodup) :
    (s.addedMembers app a).Nodup ∧ ∀ member ∈ s.addedMembers app a, member ∈ s.hostNames app := by
  unfold addedMembers
  split
  · simp
  · split
    · simp
    · split
      · simp
      · split
        · simp
        · next clusterMembers _ =>
            have hperm := a.setOrder.perm
              ((s.hostNames app).filter fun h => !clusterMembers.contains h)
            have hmissing : (s.missingMembers app a clusterMembers).Nodup :=
              hperm.nodup_iff.mpr ((nodup_hostNames h).filter _)
            refine ⟨hmissing.sublist (List.takeWhile_sublist _), fun member hmember => ?_⟩
            have hmem := (List.takeWhile_sublist _).subset hmember
            exact List.mem_of_mem_filter (hperm.mem_iff.mp hmem)

/-- `_add_members` leaves the list faithful exactly when it adds what is not
in it. -/
theorem faithful_addMembers_iff (h : Faithful app s) (hhosts : s.hosts.Nodup) (a : AddAnswers) :
    Faithful app (s.addMembers app a) ↔ AddsNew app a s := by
  obtain ⟨hendpoints, hsame, hdeparted⟩ := endpoints_addMembers a s
  obtain ⟨hdistinct, hadded⟩ := addedMembers_spec a hhosts
  constructor
  · intro hfaithful member hmember hmem
    have hnodup := hfaithful.nodup
    rw [hendpoints, List.nodup_append] at hnodup
    exact hnodup.2.2 _ hmem _ (List.mem_map_of_mem hmember) rfl
  · intro hnew
    refine ⟨?_, fun e he => ?_⟩
    · rw [hendpoints, List.nodup_append]
      refine ⟨h.nodup, hdistinct.map_on ?_, ?_⟩
      · intro m hm m' hm' heq
        obtain ⟨u, -, rfl⟩ := List.mem_map.mp (hadded m hm)
        obtain ⟨v, -, rfl⟩ := List.mem_map.mp (hadded m' hm')
        rw [endpoint_injective app heq]
      · rintro e he e' he' rfl
        obtain ⟨member, hmember, rfl⟩ := List.mem_map.mp he'
        exact hnew member hmember he
    · rw [hendpoints, List.mem_append] at he
      rw [hsame, hdeparted]
      rcases he with hold | hnewMember
      · exact h.known e hold
      · obtain ⟨member, hmember, rfl⟩ := List.mem_map.mp hnewMember
        obtain ⟨u, hu, heq⟩ := mem_hostNames (hadded member hmember)
        exact ⟨u, heq, .inl hu⟩

/-- Adding the leader, if it is a host, keeps them faithful. -/
theorem faithful_addLeader (h : Faithful app s) {u : Nat} (hu : u ∈ s.hosts) :
    Faithful app (s.addLeader app u) := by
  unfold addLeader
  dsimp only
  split
  · exact ⟨h.nodup, h.known⟩
  · next hnot =>
      refine ⟨?_, fun e he => ?_⟩
      · rw [addToEndpoints, List.nodup_append]
        refine ⟨h.nodup, List.nodup_singleton _, ?_⟩
        rintro e he e' he' rfl
        rw [List.mem_singleton] at he'
        exact hnot (he' ▸ he)
      · rw [addToEndpoints, List.mem_append, List.mem_singleton] at he
        rcases he with hold | rfl
        · exact h.known e hold
        · exact ⟨u, rfl, .inl hu⟩

theorem hosts_addLeader (u : Nat) : (s.addLeader app u).hosts = s.hosts := by
  unfold addLeader
  dsimp only
  split <;> rfl

/-- So does the annotation of the leader. -/
theorem faithful_fixLeader (h : Faithful app s) (a : MemberAnswers) :
    Faithful app ( fixLeaderAnnotation a s) := by
  unfold fixLeaderAnnotation
  split
  · exact ⟨h.nodup, h.known⟩
  · exact h

theorem hosts_fixLeader (a : MemberAnswers) :
    ( fixLeaderAnnotation a s).hosts = s.hosts := by
  unfold fixLeaderAnnotation
  split <;> rfl

end Handlers

/-! ## Runs -/

section Runs

variable {app} {s : MemberState}

/-- What holds between the events. -/
structure Inv (app : String) (s : MemberState) : Prop where
  faithful : Faithful app s
  hosts : s.hosts.Nodup

theorem hosts_onLeaderElected (u : Nat) (a : MemberAnswers) :
    (s.onLeaderElected app u a).hosts = s.hosts := by
  unfold onLeaderElected
  dsimp only
  split
  · rw [hosts_fixLeader, hosts_addLeader]
  · split
    · exact (hosts_fixLeader a).trans (hosts_addLeader u)
    · rw [(endpoints_addMembers a.add _).2.1]
      exact (hosts_fixLeader a).trans (hosts_addLeader u)

/-- The leader-elected handler, past its early exits, adds what is not in the
list exactly when it leaves the list faithful. -/
theorem faithful_onLeaderElected_iff (h : Inv app s) {u : Nat} (hu : u ∈ s.hosts)
    (a : MemberAnswers) :
    Faithful app (s.onLeaderElected app u a) ↔
      ((a.leaderAnnotation && a.servicesCreated) = true → AddsNew app a.add
        (( fixLeaderAnnotation a (s.addLeader app u)).removeDeparted app a.setOrder)) := by
  have hleader := faithful_fixLeader (faithful_addLeader h.faithful hu) a
  have hhosts : ( fixLeaderAnnotation a (s.addLeader app u)).hosts.Nodup := by
    rw [hosts_fixLeader, hosts_addLeader]
    exact h.hosts
  unfold onLeaderElected
  dsimp only
  split
  · next hnoted =>
      refine iff_of_true hleader fun hgoes => ?_
      simp only [Bool.and_eq_true] at hgoes
      simp [hgoes.1] at hnoted
  · next hnoted =>
      split
      · next hservices =>
          refine iff_of_true ⟨hleader.nodup, hleader.known⟩ fun hgoes => ?_
          simp only [Bool.and_eq_true] at hgoes
          simp [hgoes.2] at hservices
      · next hservices =>
          rw [faithful_addMembers_iff (faithful_removeDeparted hleader a.setOrder) hhosts]
          constructor
          · exact fun hnew _ => hnew
          · refine fun hnew => hnew ?_
            rw [Bool.not_eq_true, Bool.not_eq_false'] at hnoted hservices
            rw [hnoted, hservices, Bool.and_self]

/-- The peer-relation-changed handler adds what is not in the list exactly when
it leaves the list faithful. -/
theorem faithful_onPeerRelationChanged_iff (h : Inv app s) (a : MemberAnswers) :
    Faithful app (s.onPeerRelationChanged app a) ↔
      (s.clusterInitialised = true → AddsNew app a.add s) := by
  unfold onPeerRelationChanged
  cases hinit : s.clusterInitialised with
  | false =>
      refine iff_of_true ?_ nofun
      simp only [Bool.not_false, if_true]
      split
      · exact ⟨h.faithful.nodup, h.faithful.known⟩
      · exact h.faithful
  | true =>
      simp only [Bool.not_true, Bool.false_eq_true, if_false, forall_const]
      exact faithful_addMembers_iff h.faithful h.hosts a.add

/-- A departure keeps them faithful. -/
theorem faithful_onPeerRelationDeparted (h : Faithful app s) (departing : Nat)
    (a : MemberAnswers) : Faithful app (s.onPeerRelationDeparted app departing a) := by
  unfold onPeerRelationDeparted
  split
  · exact h
  · split
    · exact h
    · exact faithful_removeDeparted h a.setOrder

/-- So does a storage that is detached. -/
theorem faithful_onPgdataStorageDetaching (h : Faithful app s) (a : MemberAnswers) :
    Faithful app (s.onPgdataStorageDetaching app a) := by
  unfold onPgdataStorageDetaching
  split
  · exact h
  · exact faithful_removeDeparted h a.setOrder

/-- Every event keeps the hosts distinct. -/
theorem hosts_step (h : s.hosts.Nodup) (e : MemberEvent) : (s.step app e).hosts.Nodup := by
  cases e with
  | hostJoins u =>
      simp only [step]
      split
      · exact h
      · next hu =>
          rw [List.nodup_append]
          refine ⟨h, List.nodup_singleton u, ?_⟩
          rintro v hv w hw rfl
          rw [List.mem_singleton] at hw
          exact hu (hw ▸ hv)
  | hostLeaves u =>
      simp only [step]
      split
      · exact h.erase u
      · exact h
  | leaderElected u a =>
      simp only [step]
      split
      · rw [hosts_onLeaderElected]
        exact h
      · exact h
  | peerRelationChanged a =>
      simp only [step, onPeerRelationChanged]
      split
      · split
        · split <;> exact h
        · rw [(endpoints_addMembers a.add s).2.1]
          exact h
      · exact h
  | peerRelationDeparted departing a =>
      simp only [step, onPeerRelationDeparted]
      split
      · split
        · exact h
        · split <;> exact h
      · exact h
  | storageDetaching a =>
      simp only [step, onPgdataStorageDetaching]
      split
      · split <;> exact h
      · exact h

/-- **One event** leaves the list faithful exactly when it adds nothing
twice. -/
theorem faithful_step_iff (h : Inv app s) (e : MemberEvent) :
    Faithful app (s.step app e) ↔ NothingTwice app s e := by
  cases e with
  | hostJoins u =>
      refine iff_of_true ?_ trivial
      simp only [step]
      split
      · exact h.faithful
      · refine ⟨h.faithful.nodup, fun e he => ?_⟩
        obtain ⟨v, rfl, hv⟩ := h.faithful.known e he
        exact ⟨v, rfl, hv.imp_left (List.mem_append_left _)⟩
  | hostLeaves u =>
      refine iff_of_true ?_ trivial
      simp only [step]
      split
      · refine ⟨h.faithful.nodup, fun e he => ?_⟩
        obtain ⟨v, rfl, hv⟩ := h.faithful.known e he
        refine ⟨v, rfl, ?_⟩
        by_cases hvu : v = u
        · exact .inr (List.mem_cons.mpr (.inl hvu))
        · exact hv.imp (List.mem_erase_of_ne hvu).mpr (List.mem_cons_of_mem u)
      · exact h.faithful
  | leaderElected u a =>
      simp only [step, NothingTwice]
      split
      · next hruns =>
          have hu : u ∈ s.hosts := by
            simp only [Bool.and_eq_true, decide_eq_true_eq] at hruns
            exact hruns.1
          rw [faithful_onLeaderElected_iff h hu a, hruns, Bool.true_and]
      · next hruns =>
          refine iff_of_true h.faithful fun hgoes => ?_
          rw [Bool.eq_false_iff.mpr hruns] at hgoes
          contradiction
  | peerRelationChanged a =>
      simp only [step, NothingTwice]
      split
      · next hruns => rw [faithful_onPeerRelationChanged_iff h a, hruns, Bool.true_and]
      · next hruns =>
          refine iff_of_true h.faithful fun hgoes => ?_
          rw [Bool.eq_false_iff.mpr hruns] at hgoes
          contradiction
  | peerRelationDeparted departing a =>
      refine iff_of_true ?_ trivial
      simp only [step]
      split
      · exact faithful_onPeerRelationDeparted h.faithful departing a
      · exact h.faithful
  | storageDetaching a =>
      refine iff_of_true ?_ trivial
      simp only [step]
      split
      · exact faithful_onPgdataStorageDetaching h.faithful a
      · exact h.faithful

/-- **The member list stays faithful**, after every event of a run, if and only
if no event adds a host whose endpoint is in the list. -/
theorem faithful_iff (hinit : Initial s) (es : List MemberEvent) :
    Machine.Along (step app) (fun t e => Faithful app (step app t e)) s es ↔
      Machine.Along (step app) (NothingTwice app) s es := by
  have hstart : Inv app s := by
    refine ⟨⟨?_, ?_⟩, hinit.hosts⟩
    · rw [hinit.endpoints]
      exact List.nodup_nil
    · rw [hinit.endpoints]
      nofun
  exact Machine.along_congr (Inv app)
    (fun t e h he => ⟨(faithful_step_iff h e).mpr he, hosts_step h.hosts e⟩)
    (fun t e h => faithful_step_iff h e) hstart

/-- Two hosts before the first leader. -/
def twoHosts : MemberState where
  endpoints := []
  hosts := [0, 1]
  leader := none
  clusterInitialised := false
  status := .active
  departed := []

/-- Everything works; Patroni knows the given members. -/
def memberAnswers (members : List String) : MemberAnswers where
  completes := true
  leaderAnnotation := true
  leaderAnnotationFixed := false
  servicesCreated := true
  clusterInitialised := true
  synchronousNodeCount := true
  switchedOver := false
  setOrder := ⟨id, fun _ => List.Perm.refl _⟩
  add :=
    { clusterMembers := some members, clusterMembersAgain := some members,
      setOrder := ⟨id, fun _ => List.Perm.refl _⟩, allMembersReady := fun _ => true,
      patchPodLabels := fun _ => none }

/-- The unit 0 is the leader and adds the unit 1 once Patroni knows only
itself. -/
def secondMember : List MemberEvent :=
  [.leaderElected 0 (memberAnswers []), .peerRelationChanged (memberAnswers []),
    .peerRelationChanged (memberAnswers ["postgresql-k8s-0"])]

theorem twoHosts_initial : Initial twoHosts := ⟨rfl, by decide⟩

/-- A second member joins, and the endpoints stay faithful. -/
theorem faithful_iff_secondMember :
    Machine.Along (step "postgresql-k8s")
      (fun t e => Faithful "postgresql-k8s" (step "postgresql-k8s" t e)) twoHosts secondMember :=
  (faithful_iff twoHosts_initial secondMember).mpr (by decide)

/-- Before Patroni has registered the unit 1 the leader handles the event once
more; then the unit leaves. -/
def addedTwice : List MemberEvent :=
  secondMember ++ [.peerRelationChanged (memberAnswers ["postgresql-k8s-0"]), .hostLeaves 1,
    .peerRelationDeparted 1 (memberAnswers ["postgresql-k8s-0"])]

/-- The unit 1 is in the list twice, and stays there after its departure was
handled. -/
theorem addedTwice_not_faithful :
    Initial twoHosts ∧
      (Machine.run (step "postgresql-k8s") twoHosts (addedTwice.take 4)).endpoints =
        ["postgresql-k8s-0.postgresql-k8s-endpoints", "postgresql-k8s-1.postgresql-k8s-endpoints",
          "postgresql-k8s-1.postgresql-k8s-endpoints"] ∧
      (Machine.run (step "postgresql-k8s") twoHosts addedTwice).endpoints =
        ["postgresql-k8s-0.postgresql-k8s-endpoints",
          "postgresql-k8s-1.postgresql-k8s-endpoints"] ∧
      (Machine.run (step "postgresql-k8s") twoHosts addedTwice).hosts = [0] ∧
      (Machine.run (step "postgresql-k8s") twoHosts addedTwice).departed = [] := by
  refine ⟨twoHosts_initial, ?_, ?_, ?_, ?_⟩ <;> decide

end Runs

end MemberState

end PostgresqlK8s.Members
