import PostgresqlK8s.Lib.Run
import PostgresqlK8s.Upgrade.PreUpgradeCheck
import Mathlib.Data.List.MinMax

/-!
# Upgrade.RollingUpgrade

The upgrade of an application on Kubernetes.  The units share the `upgrade`
peer relation: each has its state there, and the application has the stack of
the units that are still to be upgraded.  The stateful set replaces the pod of
a unit once the partition of its rolling update has come down to the unit, and
a unit whose upgrade is complete moves the partition to the next one.

The units are `0` to `n - 1` for `n` planned units, all of which have joined
the relation.  A hook runs as a whole, with one event, so the stack that it
works on is the one of the databag.  What Patroni, Kubernetes and the operator
answer is part of the event.
-/

namespace PostgresqlK8s.Upgrade

/-! ## the databags -/

/-- `DataUpgrade.STATES`, in their order. -/
inductive UnitState
  | recovery | failed | idle | ready | upgrading | completed
deriving DecidableEq, Repr

/-- `STATES.index`. -/
def UnitState.index : UnitState → Nat
  | .recovery => 0
  | .failed => 1
  | .idle => 2
  | .ready => 3
  | .upgrading => 4
  | .completed => 5

/-- What the relation, the stateful set and its pods hold. -/
structure RollingUpgrade where
  /-- `state` in the databag of each unit. -/
  state : Nat → UnitState
  /-- `upgrade-stack`, with the first unit to upgrade at the front; the databag
  has it at the end. -/
  stack : List Nat
  /-- `spec.updateStrategy.rollingUpdate.partition`. -/
  partition : Int
  /-- The revision that pods are created from. -/
  revision : Nat
  /-- The revision that the pod of each unit was created from. -/
  pod : Nat → Nat
  /-- The unit has had the `upgrade-charm` event of its pod. -/
  told : Nat → Bool
  leader : Nat

/-- The stack of all units below `k`. -/
def stackBelow (k : Nat) : List Nat := (List.range k).reverse

@[simp] theorem stackBelow_zero : stackBelow 0 = [] := rfl

@[simp] theorem stackBelow_succ (k : Nat) : stackBelow (k + 1) = k :: stackBelow k := by
  rw [stackBelow, List.range_succ, List.reverse_append]
  rfl

@[simp] theorem length_stackBelow (k : Nat) : (stackBelow k).length = k := by
  rw [stackBelow, List.length_reverse, List.length_range]

@[simp] theorem mem_stackBelow {k u : Nat} : u ∈ stackBelow k ↔ u < k := by
  rw [stackBelow, List.mem_reverse, List.mem_range]

@[simp] theorem stackBelow_eq_nil {k : Nat} : stackBelow k = [] ↔ k = 0 := by
  rw [stackBelow, List.reverse_eq_nil_iff, List.range_eq_nil]

namespace RollingUpgrade

/-- The state that is written to the databag of a unit. -/
def setState (s : RollingUpgrade) (u : Nat) (state : UnitState) : RollingUpgrade :=
  { s with state := Function.update s.state u state }

/-- `cluster_state`: `sorted(self.unit_states, key=self.STATES.index)[0]`. -/
def clusterState (s : RollingUpgrade) (n : Nat) : Option UnitState :=
  ((List.range n).map s.state).argmin UnitState.index

/-! ## the handlers -/

/-- `set_unit_failed`. -/
def setUnitFailed (s : RollingUpgrade) (u : Nat) : RollingUpgrade := s.setState u .failed

/-- `on_upgrade_changed` at unit `u`, with the stack as the hook has it. -/
def onUpgradeChangedWith (n u : Nat) : List Nat → RollingUpgrade → RollingUpgrade
  | [], s =>
    if s.clusterState n = some .failed then s
    else if s.state u = .completed ∧
        (s.clusterState n = some .idle ∨ s.clusterState n = some .completed) then
      s.setState u .idle
    else s
  | top :: stack, s =>
    if s.clusterState n = some .failed then s
    else
      let topState := s.state top
      let s :=
        if s.leader = u ∧ topState = .completed then
          -- the leader goes on with the stack that it has just written
          onUpgradeChangedWith n u stack { s with stack := stack }
        else s
      -- `upgrade_granted` does nothing on Kubernetes
      if u = top ∧ (topState = .ready ∨ topState = .upgrading) ∧
          s.clusterState n = some .ready ∧ ∀ v < n, v ≠ u → s.state v ≠ .upgrading then
        s.setState u .upgrading
      else s

/-- `on_upgrade_changed`. -/
def onUpgradeChanged (s : RollingUpgrade) (n u : Nat) : RollingUpgrade :=
  onUpgradeChangedWith n u s.stack s

/-- `_on_upgrade_finished`; `patched` says whether the patch of the stateful set
succeeds. -/
def onUpgradeFinished (s : RollingUpgrade) (n u : Nat) (patched : Bool) : RollingUpgrade :=
  let s := if s.leader = u then s.onUpgradeChanged n u else s
  -- unit_number == len(self.peer_relation.units)
  if u = n - 1 then s
  else if u = 0 then s
  else if patched then { s with partition := (u : Int) - 1 }
  else s.setUnitFailed u

/-- `set_unit_completed`. -/
def setUnitCompleted (s : RollingUpgrade) (n u : Nat) (patched : Bool) : RollingUpgrade :=
  (s.setState u .completed).onUpgradeFinished n u patched

end RollingUpgrade

/-- What an attempt of `_on_postgresql_pebble_ready` finds. -/
structure Attempt where
  inCluster : Bool
  replicationHealthy : Bool
  /-- `_handle_label_change` does not raise. -/
  labelChanged : Bool
deriving DecidableEq

/-- The attempt ends without an exception. -/
def Attempt.passes (attempt : Attempt) : Bool :=
  attempt.inCluster && attempt.replicationHealthy && attempt.labelChanged

/-- What `_on_postgresql_pebble_ready` is answered. -/
structure Readiness where
  memberStarted : Bool
  primaryEndpointReady : Bool
  /-- The leader's calls for a legacy application do not raise. -/
  legacySetUp : Bool
  attempts : Fin 6 → Attempt
  patched : Bool

/-- `RetryError` is not raised. -/
def Readiness.healthy (r : Readiness) : Bool := decide (∃ i, (r.attempts i).passes = true)

namespace RollingUpgrade

/-- `_on_postgresql_pebble_ready`. -/
def onPostgresqlPebbleReady (s : RollingUpgrade) (n u : Nat) (r : Readiness) : RollingUpgrade :=
  if s.state u ≠ .upgrading ∧ s.state u ≠ .recovery then s
  -- deferred, or the hook fails
  else if !r.memberStarted then s
  else if s.leader = u ∧ !(r.primaryEndpointReady && r.legacySetUp) then s
  else if r.healthy then s.setUnitCompleted n u r.patched
  else s.setUnitFailed u

/-- `_on_upgrade_charm`; `compatible` says whether `_upgrade_supported_check`
passes. -/
def onUpgradeCharm (s : RollingUpgrade) (n u : Nat) (compatible : Bool) : RollingUpgrade :=
  if s.stack = [] then s
  else if u = n - 1 ∧ !compatible then s.setUnitFailed u
  else s.setState u .upgrading

/-- `new_stack.insert(-1, unit_id)` for a unit that is not on the stack: right
below the top. -/
def reinsert (stack : List Nat) (v : Nat) : List Nat :=
  if v ∈ stack then stack else stack.take 1 ++ v :: stack.drop 1

/-- `_repair_upgrade_stack` at the leader, which goes over the units in the
order of a set. -/
def repairUpgradeStack (s : RollingUpgrade) (n : Nat) (appUnits : List Nat) : RollingUpgrade :=
  if s.stack ≠ [] ∧ s.stack.length ≠ n then
    { s with stack := appUnits.foldl reinsert s.stack }
  else s

/-- `_on_pre_upgrade_check_action` at the leader. -/
def onPreUpgradeCheckAction (s : RollingUpgrade) (app : Application) (appUnits : List Nat)
    (a : Answers) : RollingUpgrade :=
  if s.clusterState app.plannedUnits = some .failed then
    (s.repairUpgradeStack app.plannedUnits appUnits).setState s.leader .recovery
  else if s.clusterState app.plannedUnits ≠ some .idle then s
  else
    match (preUpgradeCheck app a).run ⟨none, [], []⟩ with
    | .ok _ rollout =>
      { s with
        partition := rollout.partitions.getLastD s.partition
        stack := stackBelow app.plannedUnits }
    | .error _ rollout => { s with partition := rollout.partitions.getLastD s.partition }

/-- `_on_resume_upgrade_action` at the leader. -/
def onResumeUpgradeAction (s : RollingUpgrade) (n : Nat) (patched : Bool) : RollingUpgrade :=
  match s.stack with
  | [] => s
  | top :: _ =>
    if s.stack.length ≠ n - 1 then s
    else if patched then { s with partition := top }
    else s

end RollingUpgrade

/-! ## the events -/

/-- What happens to an application that is upgraded. -/
inductive UpgradeEvent
  | preUpgradeCheck (appUnits : List Nat) (a : Answers)
  /-- `juju refresh`: a new revision of the stateful set. -/
  | refresh
  /-- The stateful set replaces a pod. -/
  | replacePod (u : Nat)
  | upgradeCharm (u : Nat) (compatible : Bool)
  | pebbleReady (u : Nat) (r : Readiness)
  | relationChanged (u : Nat)
  | resumeUpgrade (patched : Bool)
  | leaderElected (u : Nat)

namespace RollingUpgrade

/-- The stateful set replaces the pod of the unit: it is at or above the
partition, and not of the current revision. -/
def Replaces (s : RollingUpgrade) (n u : Nat) : Prop :=
  u < n ∧ s.partition ≤ u ∧ s.pod u ≠ s.revision

instance (s : RollingUpgrade) (n u : Nat) : Decidable (s.Replaces n u) :=
  inferInstanceAs (Decidable (_ ∧ _ ∧ _))

/-- The application after an event. -/
def next (app : Application) (s : RollingUpgrade) : UpgradeEvent → RollingUpgrade
  | .preUpgradeCheck appUnits a => s.onPreUpgradeCheckAction app appUnits a
  | .refresh => { s with revision := s.revision + 1 }
  | .replacePod u =>
    if s.Replaces app.plannedUnits u then
      { s with
        pod := Function.update s.pod u s.revision
        told := Function.update s.told u false }
    else s
  | .upgradeCharm u compatible =>
    if u < app.plannedUnits ∧ s.told u = false then
      { s.onUpgradeCharm app.plannedUnits u compatible with
        told := Function.update s.told u true }
    else s
  | .pebbleReady u r =>
    if u < app.plannedUnits then s.onPostgresqlPebbleReady app.plannedUnits u r else s
  | .relationChanged u =>
    if u < app.plannedUnits then s.onUpgradeChanged app.plannedUnits u else s
  | .resumeUpgrade patched => s.onResumeUpgradeAction app.plannedUnits patched
  | .leaderElected u => if u < app.plannedUnits then { s with leader := u } else s

/-! ## the state of a unit -/

variable {s : RollingUpgrade} {n u v : Nat} {state : UnitState}

@[simp] theorem setState_state : (s.setState u state).state = Function.update s.state u state := rfl
@[simp] theorem setState_stack : (s.setState u state).stack = s.stack := rfl
@[simp] theorem setState_partition : (s.setState u state).partition = s.partition := rfl
@[simp] theorem setState_revision : (s.setState u state).revision = s.revision := rfl
@[simp] theorem setState_pod : (s.setState u state).pod = s.pod := rfl
@[simp] theorem setState_told : (s.setState u state).told = s.told := rfl
@[simp] theorem setState_leader : (s.setState u state).leader = s.leader := rfl

/-- The state of the cluster is that of some unit, and no unit is behind it. -/
theorem clusterState_eq_some (h : s.clusterState n = some state) :
    (∃ u < n, s.state u = state) ∧ ∀ u < n, state.index ≤ (s.state u).index := by
  rw [clusterState, List.argmin_eq_some_iff] at h
  obtain ⟨hmem, hle, -⟩ := h
  obtain ⟨u, hu, hstate⟩ := List.mem_map.mp hmem
  refine ⟨⟨u, List.mem_range.mp hu, hstate⟩, fun v hv => ?_⟩
  exact hle _ (List.mem_map_of_mem (List.mem_range.mpr hv))

/-- The order of the states tells them apart. -/
theorem index_injective : Function.Injective UnitState.index := by
  intro a b h
  cases a <;> cases b <;> first | rfl | cases h

/-- The state of a unit that no unit is behind is that of the cluster. -/
theorem clusterState_of_le (hu : u < n) (h : ∀ v < n, (s.state u).index ≤ (s.state v).index) :
    s.clusterState n = some (s.state u) := by
  cases hcluster : s.clusterState n with
  | none =>
      rw [clusterState, List.argmin_eq_none, List.map_eq_nil_iff, List.range_eq_nil] at hcluster
      omega
  | some state =>
      obtain ⟨⟨v, hv, rfl⟩, hle⟩ := clusterState_eq_some hcluster
      exact congrArg some (index_injective (le_antisymm (hle u hu) (h v hv)))

/-! ## what a handler does -/

/-- The check of a cluster that has not failed opens the rolling update for the
last unit, or it changes nothing. -/
theorem onPreUpgradeCheckAction_cases {app : Application} (appUnits : List Nat) (a : Answers)
    (hfailed : s.clusterState app.plannedUnits ≠ some .failed) :
    s.onPreUpgradeCheckAction app appUnits a = s ∨
      s.clusterState app.plannedUnits = some .idle ∧ Opens app a ∧
        s.onPreUpgradeCheckAction app appUnits a =
          { s with partition := app.plannedUnits - 1, stack := stackBelow app.plannedUnits } := by
  rw [onPreUpgradeCheckAction, if_neg hfailed]
  by_cases hidle : s.clusterState app.plannedUnits = some .idle
  · rw [if_neg (not_not_intro hidle)]
    cases hcheck : (preUpgradeCheck app a).run ⟨none, [], []⟩ with
    | ok _ rollout =>
        obtain ⟨hopens, hpartitions, -⟩ := of_preUpgradeCheck_ok hcheck
        refine .inr ⟨hidle, hopens, ?_⟩
        simp only [hpartitions]
        rfl
    | error _ rollout =>
        refine .inl ?_
        have hsame := @triple_preUpgradeCheck app a _ ⟨none, [], []⟩ rfl
        rw [hcheck] at hsame
        have hnone : rollout.partitions = [] := hsame
        simp only [hnone]
        rfl
  · exact .inl (if_pos hidle)

/-- The leader takes completed units off the stack, and a completed unit becomes
idle where none is left. -/
theorem onUpgradeChanged_cases {k : Nat} (hready : s.clusterState n ≠ some .ready)
    (hstack : s.stack = stackBelow k) :
    (∃ j ≤ k, s.onUpgradeChanged n u = { s with stack := stackBelow j } ∧
      ∀ v, j ≤ v → v < k → s.state v = .completed) ∨
    s.onUpgradeChanged n u = { s with stack := [] }.setState u .idle ∧
      s.state u = .completed ∧ ∀ v < k, s.state v = .completed := by
  rw [onUpgradeChanged, hstack]
  induction k generalizing s with
  | zero =>
    have hself : ({ s with stack := stackBelow 0 } : RollingUpgrade) = s := by rw [← hstack]
    have hself' : ({ s with stack := [] } : RollingUpgrade) = s := hself
    rw [stackBelow_zero, onUpgradeChangedWith]
    split
    · exact .inl ⟨0, le_refl 0, hself.symm, by omega⟩
    · split
      · next h => exact .inr ⟨by rw [hself'], h.1, by omega⟩
      · exact .inl ⟨0, le_refl 0, hself.symm, by omega⟩
  | succ k ih =>
    have hself : ({ s with stack := stackBelow (k + 1) } : RollingUpgrade) = s := by rw [← hstack]
    rw [stackBelow_succ, onUpgradeChangedWith]
    split
    · exact .inl ⟨k + 1, le_refl _, hself.symm, by omega⟩
    by_cases htop : s.leader = u ∧ s.state k = .completed
    · have hnot : ¬ (s.state k = .ready ∨ s.state k = .upgrading) := by simp [htop.2]
      simp only [if_pos htop, hnot, false_and, and_false, if_false]
      obtain ⟨j, hj, heq, hpopped⟩ | ⟨heq, hu, hpopped⟩ :=
        ih (s := { s with stack := stackBelow k }) hready rfl
      · refine .inl ⟨j, by omega, heq, fun v hjv hv => ?_⟩
        rcases Nat.lt_succ_iff_lt_or_eq.mp hv with hv | rfl
        · exact hpopped v hjv hv
        · exact htop.2
      · refine .inr ⟨heq, hu, fun v hv => ?_⟩
        rcases Nat.lt_succ_iff_lt_or_eq.mp hv with hv | rfl
        · exact hpopped v hv
        · exact htop.2
    · simp only [if_neg htop, hready, false_and, and_false, if_false]
      exact .inl ⟨k + 1, le_refl _, hself.symm, by omega⟩

/-- The check of a cluster that is ready opens the rolling update. -/
theorem onPreUpgradeCheckAction_of_opens {app : Application} {a : Answers} (appUnits : List Nat)
    (hidle : s.clusterState app.plannedUnits = some .idle) (hopens : Opens app a) :
    s.onPreUpgradeCheckAction app appUnits a =
      { s with partition := app.plannedUnits - 1, stack := stackBelow app.plannedUnits } := by
  obtain ⟨rollout, hcheck⟩ := exists_preUpgradeCheck_ok hopens ⟨none, [], []⟩
  obtain ⟨-, hpartitions, -⟩ := of_preUpgradeCheck_ok hcheck
  rw [onPreUpgradeCheckAction, if_neg (by simp [hidle]), if_neg (not_not_intro hidle), hcheck]
  simp only [hpartitions]
  rfl

/-- In a cluster that has not failed, the leader takes all completed units off
the stack down to one that is not. -/
theorem onUpgradeChanged_leader {k m : Nat} (hu : s.leader = u)
    (hfailed : s.clusterState n ≠ some .failed) (hready : s.clusterState n ≠ some .ready)
    (hkm : k + 1 ≤ m)
    (hcompleted : ∀ v, k + 1 ≤ v → v < m → s.state v = .completed)
    (hk : s.state k ≠ .completed) (hstack : s.stack = stackBelow m) :
    s.onUpgradeChanged n u = { s with stack := stackBelow (k + 1) } := by
  rw [onUpgradeChanged, hstack]
  induction m, hkm using Nat.le_induction generalizing s with
  | base =>
    have hself : ({ s with stack := stackBelow (k + 1) } : RollingUpgrade) = s := by rw [← hstack]
    rw [hself, stackBelow_succ, onUpgradeChangedWith, if_neg hfailed]
    simp only [hk, hready, and_false, false_and, if_false]
  | succ m hkm ih =>
    have htop : s.state m = .completed := hcompleted m hkm (Nat.lt_succ_self m)
    have hnot : ¬(s.state m = .ready ∨ s.state m = .upgrading) := by simp [htop]
    rw [stackBelow_succ, onUpgradeChangedWith, if_neg hfailed]
    simp only [if_pos (And.intro hu htop), hnot, false_and, and_false, if_false]
    exact ih (s := { s with stack := stackBelow m }) hu hfailed hready
      (fun v hv hvm => hcompleted v hv (Nat.lt_succ_of_lt hvm)) hk rfl

/-- A unit that is not the leader leaves a stack as it is. -/
theorem onUpgradeChanged_of_not_leader (hready : s.clusterState n ≠ some .ready)
    (hstack : s.stack ≠ []) (hu : s.leader ≠ u) : s.onUpgradeChanged n u = s := by
  rw [onUpgradeChanged]
  cases hlist : s.stack with
  | nil => exact absurd hlist hstack
  | cons top stack =>
      rw [onUpgradeChangedWith]
      simp only [hu, hready, and_false, false_and, if_false, ite_self]

/-- The action moves the partition at most. -/
theorem onResumeUpgradeAction_frame (s : RollingUpgrade) (n : Nat) (patched : Bool) :
    ∃ partition, s.onResumeUpgradeAction n patched = { s with partition := partition } := by
  unfold onResumeUpgradeAction
  split
  · exact ⟨s.partition, rfl⟩
  · next top _ _ =>
      split
      · exact ⟨s.partition, rfl⟩
      split
      · exact ⟨top, rfl⟩
      · exact ⟨s.partition, rfl⟩

/-- The action asks for a stack that lacks one unit. -/
theorem onResumeUpgradeAction_of_length {patched : Bool} (h : s.stack.length ≠ n - 1) :
    s.onResumeUpgradeAction n patched = s := by
  unfold onResumeUpgradeAction
  split
  · rfl
  · exact if_pos h

end RollingUpgrade

end PostgresqlK8s.Upgrade
