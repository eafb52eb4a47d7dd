import Mathlib.Tactic.Common

/-!
# Patroni.SynchronousNodes

How many synchronous nodes Patroni is asked to keep.  The number is computed
from the configured one and from two sizes of the cluster: the units that are
planned and the member endpoints that are registered.  While the application
scales the two sizes differ, in either direction and by any number.

What the number should be is stated over one size only, that of the cluster to
come: a cluster of `p` units has `p - 1` nodes beside its primary, and a
configured number asks for that many of them.
-/

namespace PostgresqlK8s.Patroni

/-! ## the configuration and the sizes -/

/-- The `synchronous_node_count` option; a number is a `PositiveInt`. -/
inductive SynchronousNodeCount where
  | all
  | majority
  | number (n : { n : Nat // 0 < n })
deriving DecidableEq, Repr

/-- What the synchronous configuration is computed from. -/
structure ClusterSizes where
  plannedUnits : Nat
  /-- `_members_count`, the number of endpoints -/
  membersCount : Nat
deriving DecidableEq, Repr

/-! ## the synchronous configuration -/

/-- `_synchronous_node_count`. -/
def synchronousNodeCount (config : SynchronousNodeCount) (sizes : ClusterSizes) : Int :=
  match config with
  | .all => sizes.plannedUnits - 1
  | .majority => sizes.plannedUnits / 2
  | .number n =>
    if (n : Int) < sizes.membersCount - 1 then n else sizes.plannedUnits - 1

/-- The keys that `synchronous_configuration` sends to Patroni. -/
structure SynchronousConfiguration where
  synchronousNodeCount : Int
  synchronousModeStrict : Bool
deriving DecidableEq, Repr

/-- `synchronous_configuration`, with the `synchronous_mode_strict` option. -/
def synchronousConfiguration (config : SynchronousNodeCount) (strict : Bool)
    (sizes : ClusterSizes) : SynchronousConfiguration where
  synchronousNodeCount := synchronousNodeCount config sizes
  synchronousModeStrict :=
    sizes.membersCount > 1 && strict && synchronousNodeCount config sizes > 0

/-! ## what is asked for -/

/-- The nodes of a cluster beside its primary. -/
def ClusterSizes.standbys (sizes : ClusterSizes) : Nat := sizes.plannedUnits - 1

/-- A synchronous configuration that the planned cluster can keep and that
asks for no more nodes than the option does. -/
structure WithinCluster (config : SynchronousNodeCount) (sizes : ClusterSizes)
    (c : SynchronousConfiguration) : Prop where
  nonneg : 0 ≤ c.synchronousNodeCount
  le_standbys : c.synchronousNodeCount ≤ sizes.standbys
  requested : ∀ n, config = .number n → c.synchronousNodeCount = min n.val sizes.standbys
  strict : c.synchronousModeStrict = true → 0 < c.synchronousNodeCount

/-- The sizes at which the option is met: some unit is planned, unless a
majority is asked for, and for a number `n` the planned and the registered
members are on the same side of `n + 1`. -/
def SizesAgree (config : SynchronousNodeCount) (sizes : ClusterSizes) : Prop :=
  match config with
  | .all => 1 ≤ sizes.plannedUnits
  | .majority => True
  | .number n =>
    if n.val + 1 < sizes.membersCount then n.val + 1 ≤ sizes.plannedUnits
    else 1 ≤ sizes.plannedUnits ∧ sizes.plannedUnits ≤ n.val + 1

/-! ## the configuration is met where the sizes agree -/

/-- Strict mode is only turned on with a positive count, whatever the sizes. -/
theorem synchronousModeStrict_pos (config : SynchronousNodeCount) (strict : Bool)
    (sizes : ClusterSizes)
    (h : (synchronousConfiguration config strict sizes).synchronousModeStrict = true) :
    0 < (synchronousConfiguration config strict sizes).synchronousNodeCount := by
  simp only [synchronousConfiguration, Bool.and_eq_true, decide_eq_true_eq] at h ⊢
  exact h.2

theorem synchronousNodeCount_all (sizes : ClusterSizes) :
    (0 ≤ synchronousNodeCount .all sizes ∧ synchronousNodeCount .all sizes ≤ sizes.standbys) ↔
      1 ≤ sizes.plannedUnits := by
  simp only [synchronousNodeCount, ClusterSizes.standbys]
  omega

theorem synchronousNodeCount_majority (sizes : ClusterSizes) :
    0 ≤ synchronousNodeCount .majority sizes ∧
      synchronousNodeCount .majority sizes ≤ sizes.standbys := by
  simp only [synchronousNodeCount, ClusterSizes.standbys]
  omega

theorem synchronousNodeCount_number (n : { n : Nat // 0 < n }) (sizes : ClusterSizes) :
    synchronousNodeCount (.number n) sizes = min n.val sizes.standbys ↔
      SizesAgree (.number n) sizes := by
  have hn := n.2
  simp only [synchronousNodeCount, SizesAgree, ClusterSizes.standbys]
  by_cases h : n.val + 1 < sizes.membersCount
  · have hlt : (n.val : Int) < sizes.membersCount - 1 := by omega
    rw [if_pos hlt, if_pos h]
    omega
  · have hge : ¬(n.val : Int) < sizes.membersCount - 1 := by omega
    rw [if_neg hge, if_neg h]
    omega

/-- The synchronous configuration is the requested one, within the planned
cluster, exactly when the two sizes agree on the option. -/
theorem withinCluster_iff (config : SynchronousNodeCount) (strict : Bool)
    (sizes : ClusterSizes) :
    WithinCluster config sizes (synchronousConfiguration config strict sizes) ↔
      SizesAgree config sizes := by
  have hstrict := synchronousModeStrict_pos config strict sizes
  cases config with
  | all =>
    have hall := synchronousNodeCount_all sizes
    constructor
    · intro h
      exact hall.1 ⟨h.nonneg, h.le_standbys⟩
    · intro h
      have hb := hall.2 h
      exact { nonneg := hb.1, le_standbys := hb.2, requested := by simp, strict := hstrict }
  | majority =>
    have hb := synchronousNodeCount_majority sizes
    constructor
    · simp [SizesAgree]
    · intro _
      exact { nonneg := hb.1, le_standbys := hb.2, requested := by simp, strict := hstrict }
  | number n =>
    have hnum := synchronousNodeCount_number n sizes
    constructor
    · intro h
      exact hnum.1 (h.requested n rfl)
    · intro h
      have heq := hnum.2 h
      have hcount : (synchronousConfiguration (.number n) strict sizes).synchronousNodeCount =
          min n.val sizes.standbys := heq
      exact {
        nonneg := by omega
        le_standbys := by omega
        requested := by
          intro k hk
          cases hk
          exact hcount
        strict := hstrict }

/-- One synchronous node asked for, one of three planned units registered:
two synchronous nodes are demanded. -/
theorem not_withinCluster_scaling_up :
    ¬∀ (config : SynchronousNodeCount) (strict : Bool) (sizes : ClusterSizes),
      1 ≤ sizes.membersCount →
      WithinCluster config sizes (synchronousConfiguration config strict sizes) := by
  intro h
  have hreq := (h (.number ⟨1, by decide⟩) true ⟨3, 1⟩ (by decide)).requested ⟨1, by decide⟩ rfl
  revert hreq
  decide

/-! ## a settled cluster -/

/-- A cluster of which every planned unit is registered is asked for what the
option says. -/
theorem withinCluster_settled (config : SynchronousNodeCount) (strict : Bool) {p : Nat}
    (hp : 1 ≤ p) : WithinCluster config ⟨p, p⟩ (synchronousConfiguration config strict ⟨p, p⟩) := by
  refine (withinCluster_iff config strict ⟨p, p⟩).2 ?_
  cases config with
  | all => exact hp
  | majority => trivial
  | number n =>
    simp only [SizesAgree]
    split <;> omega

end PostgresqlK8s.Patroni
