import PostgresqlK8s.AsyncReplication.Agreement

/-!
# AsyncReplication.ReadOnly

The status of the application, after the leader has refreshed it: a cluster
that follows the other one shows `Standby`, and only a cluster that follows
none is blocked as a standalone read-only one.

A standby cluster that loses its relation writes the counter `"0"`, and the
status reads that counter before anything else.  The status is therefore
wrong from the moment a counter above zero reaches a related side that still
holds the `"0"` (`truthful_iff`), and right on every run where this does not
happen.
-/

namespace PostgresqlK8s.AsyncReplication

open Contest

namespace Cluster

variable {App : Type} [DecidableEq App]

/-- The cluster has a replication relation whose primary it follows. -/
def FollowsPrimary (c : Cluster App) : Prop :=
  ∃ primary, c.getPrimaryCluster = some primary ∧ primary ≠ c.app

/-- The status of the application tells the truth. -/
structure TruthfulStatus (c : Cluster App) : Prop where
  blocked : c.appStatus = .blocked readOnlyModeBlockingMessage → ¬ c.FollowsPrimary
  standby : c.FollowsPrimary → c.appStatus = .active "Standby"

omit [DecidableEq App] in
theorem followsPrimary_of_toElection {c d : Cluster App} (h : c.toElection = d.toElection) :
    c.FollowsPrimary ↔ d.FollowsPrimary := by
  unfold FollowsPrimary
  rw [h]

/-- The leader writes a wrong status exactly when the counter is the `"0"` of a
lost relation although the cluster follows a primary. -/
theorem truthfulStatus_setAppStatus (c : Cluster App) :
    c.setAppStatus.TruthfulStatus ↔
      (c.promotedClusterCounter = some 0 → ¬ c.FollowsPrimary) := by
  have hfollows := followsPrimary_of_toElection c.toElection_setAppStatus
  by_cases hzero : c.promotedClusterCounter = some 0
  · have hstatus : c.setAppStatus.appStatus = .blocked readOnlyModeBlockingMessage := by
      rw [setAppStatus, if_pos hzero]
    constructor
    · intro h _
      rw [← hfollows]
      exact h.blocked hstatus
    · intro h
      have hnot : ¬ c.setAppStatus.FollowsPrimary := by
        rw [hfollows]
        exact h hzero
      exact ⟨fun _ => hnot, fun hf => absurd hf hnot⟩
  · have hstandby : c.FollowsPrimary → c.setAppStatus.appStatus = .active "Standby" := by
      intro ⟨primary, hprimary, hne⟩
      have hrel : c.relation.isNone = false := by
        cases hr : c.relation with
        | none => simp [Election.getPrimaryCluster_of_relation_none hr] at hprimary
        | some r => rfl
      simp [setAppStatus, hzero, hrel, hprimary, Ne.symm hne]
    refine ⟨fun _ h => absurd h hzero, fun _ => ⟨?_, ?_⟩⟩
    · intro hblocked hf
      rw [hstandby (hfollows.mp hf)] at hblocked
      cases hblocked
    · intro hf
      exact hstandby (hfollows.mp hf)

end Cluster

namespace System

/-- Whichever side has seen the latest counter of the other one, its status is
truthful once its leader has refreshed it. -/
def Truthful (s : System) : Prop :=
  ∀ X, HasSeenLatest s X → (s X).setAppStatus.TruthfulStatus

/-- No counter above zero is delivered to a related side that still has the
counter `"0"` of a relation it lost as a standby. -/
def NotWhileReadOnly (s : System) : Event → Prop
  | .deliver X =>
      (s X).promotedClusterCounter = some 0 → (s X).relation.isSome →
        ∀ r ∈ (s X.other).relation, r.promotedClusterCounter.getD 0 = 0
  | _ => True

instance (s : System) (e : Event) : Decidable (NotWhileReadOnly s e) := by
  unfold NotWhileReadOnly
  split <;> infer_instance

/-- The clusters have their shape, and a side with the counter `"0"` has not
seen another one. -/
structure ReadOnlyInv (s : System) : Prop where
  shape : WellShaped s
  seen : ∀ X, (s X).promotedClusterCounter = some 0 → (s X).seenCounter = 0

theorem Initial.readOnlyInv {s : System} (h : Initial s) : ReadOnlyInv s := by
  refine ⟨h.wellShaped, fun X hzero => ?_⟩
  rw [h.counter X] at hzero
  contradiction

/-! ## what a cluster with the counter `"0"` sees -/

section Seen

variable {X : Side} {c : Cluster Side}

theorem seenCounter_of_relation_none (h : c.relation = none) : c.seenCounter = 0 := by
  simp [Election.seenCounter, h]

/-- A side without a counter above zero follows the other one as soon as it has
seen one. -/
theorem followsPrimary_iff_of_ownCounter (h : Shape X c.toElection) (hown : c.ownCounter = 0) :
    c.FollowsPrimary ↔ c.seenCounter ≠ 0 := by
  cases hrel : c.relation with
  | none =>
      simp [Cluster.FollowsPrimary, Election.getPrimaryCluster_of_relation_none hrel,
        seenCounter_of_relation_none hrel]
  | some r =>
      obtain ⟨hone, happ, -⟩ := h.oneRelation hrel
      have hne : r.app ≠ c.app := by
        rw [happ, h.app]
        cases X <;> decide
      unfold Cluster.FollowsPrimary
      rw [hone.getPrimaryCluster_eq, hown]
      by_cases hseen : 0 < c.seenCounter
      · simp [hseen, hne]
        omega
      · simp [hseen]
        omega

theorem ownCounter_of_some_zero (h : c.promotedClusterCounter = some 0) : c.ownCounter = 0 := by
  simp [Election.ownCounter, h]

/-- A promotion counts past `"0"`. -/
theorem promotedClusterCounter_promote (a : Answers) (c : Cluster Side) :
    (c.promote a).promotedClusterCounter ≠ some 0 := by
  rw [Cluster.promote, Cluster.toElection_onAsyncRelationChanged]
  simp [Cluster.updatePrimaryClusterData]

/-- A refused promotion either ends the read-only mode or leaves the election
as it was. -/
theorem toElection_refuse (force : Bool) (a : Answers) (c : Cluster Side) :
    (c.refuse force a).promotedClusterCounter = none ∨
      (c.refuse force a).toElection = c.toElection := by
  unfold Cluster.refuse Cluster.canPromoteCluster
  split
  · split
    · exact .inr rfl
    · split
      · left
        rw [Cluster.toElection_setAppStatus]
      · exact .inr rfl
  · exact .inr rfl

theorem seenCounter_refuse (force : Bool) (a : Answers)
    (h : c.promotedClusterCounter = some 0 → c.seenCounter = 0)
    (hzero : (c.refuse force a).promotedClusterCounter = some 0) :
    (c.refuse force a).seenCounter = 0 := by
  rcases toElection_refuse force a c with hnone | hsame
  · rw [hnone] at hzero
    contradiction
  · rw [hsame] at hzero ⊢
    exact h hzero

theorem seenCounter_onAsyncRelationBroken (a : Answers) (c : Cluster Side) :
    (c.onAsyncRelationBroken a).seenCounter = 0 := by
  unfold Cluster.onAsyncRelationBroken
  dsimp only
  split
  · rw [Cluster.toElection_setAppStatus]
    rfl
  · rfl

theorem seenCounter_created (offerer : Side) (hrel : c.relation = none) :
    (created X offerer c).seenCounter = 0 := by
  obtain ⟨name, hone⟩ := oneRelation_relate (X := X) offerer hrel
  rw [toElection_created, hone.seenCounter_eq]
  rfl

theorem seenCounter_receive (h : Shape X c.toElection) (counter : Option Nat) :
    (receive counter c).seenCounter = if c.relation.isSome then counter.getD 0 else 0 := by
  rcases h.relation with ⟨h₁, h₂, -⟩ | ⟨r, hone, -, -⟩
  · have hrel : c.relation = none := Election.relation_eq_none_iff.mpr ⟨h₁, h₂⟩
    simp [receive, Election.seenCounter, Election.relation, h₁, h₂]
  · rw [(oneRelation_receive hone counter).seenCounter_eq, hone.relation_eq]
    rfl

end Seen

/-- Changing one cluster keeps the invariant if it keeps that cluster's. -/
theorem seen_update {s : System}
    (h : ∀ X, (s X).promotedClusterCounter = some 0 → (s X).seenCounter = 0) {X : Side}
    {c : Cluster Side} (hc : c.promotedClusterCounter = some 0 → c.seenCounter = 0) (Y : Side) :
    (Function.update s X c Y).promotedClusterCounter = some 0 →
      (Function.update s X c Y).seenCounter = 0 := by
  by_cases hY : Y = X
  · subst hY
    simpa using hc
  · simpa [hY] using h Y

/-- One event keeps the invariant, unless it delivers a counter to a read-only
cluster. -/
theorem readOnlyInv_step {s : System} (h : ReadOnlyInv s) {e : Event}
    (he : NotWhileReadOnly s e) : ReadOnlyInv (step s e) := by
  refine ⟨wellShaped_step h.shape e, ?_⟩
  cases e with
  | created offerer =>
      simp only [step]
      split
      · next hnone =>
          simp only [Bool.and_eq_true, Option.isNone_iff_eq_none] at hnone
          have hrel : ∀ X, (s X).relation = none := Side.forall_iff.mpr hnone
          intro X _
          exact seenCounter_created offerer (hrel X)
      · exact h.seen
  | broken X a => exact seen_update h.seen fun _ => seenCounter_onAsyncRelationBroken a (s X)
  | createReplication X a =>
      refine seen_update h.seen ?_
      rw [Cluster.onCreateReplication_eq]
      split
      · intro hzero
        exact absurd hzero (promotedClusterCounter_promote a (s X))
      · exact h.seen X
  | promoteToPrimary X force a =>
      refine seen_update h.seen ?_
      rw [Cluster.promoteToPrimary_eq]
      split
      · intro hzero
        exact absurd hzero (promotedClusterCounter_promote a (s X))
      · split
        · exact seenCounter_refuse force a (h.seen X)
        · exact h.seen X
  | deliver X =>
      simp only [step]
      cases hother : (s X.other).relation with
      | none => exact h.seen
      | some r =>
          refine seen_update h.seen fun hzero => ?_
          rw [seenCounter_receive (h.shape X)]
          split
          · next hrel => exact he hzero hrel r hother
          · rfl
  | changed X u a =>
      refine seen_update h.seen ?_
      rw [Cluster.toElection_onAsyncRelationChanged]
      exact h.seen X

/-- The invariant makes the status truthful. -/
theorem ReadOnlyInv.truthful {s : System} (h : ReadOnlyInv s) : Truthful s := by
  intro X _
  rw [Cluster.truthfulStatus_setAppStatus]
  intro hzero hfollows
  have hown := ownCounter_of_some_zero hzero
  exact (followsPrimary_iff_of_ownCounter (h.shape X) hown).mp hfollows (h.seen X hzero)

/-- A counter above zero that reaches a read-only cluster makes its status
wrong. -/
theorem not_truthful_of_delivered {s : System} (h : ReadOnlyInv s) {e : Event}
    (he : ¬ NotWhileReadOnly s e) : ¬ Truthful (step s e) := by
  cases e with
  | deliver X =>
      simp only [NotWhileReadOnly, not_forall] at he
      obtain ⟨hzero, hrel, r, hother, hcounter⟩ := he
      have hother' : (s X.other).relation = some r := hother
      have hstep : step s (.deliver X) =
          Function.update s X (receive r.promotedClusterCounter (s X)) := by
        simp only [step, hother']
      have hX : X.other ≠ X := by cases X <;> decide
      obtain ⟨r₀, hr₀⟩ := Option.isSome_iff_exists.mp hrel
      obtain ⟨hone, -, -⟩ := (h.shape X).oneRelation hr₀
      have hseen : HasSeenLatest (step s (.deliver X)) X := by
        unfold HasSeenLatest
        rw [hstep, Function.update_self, Function.update_of_ne hX, hother',
          (oneRelation_receive hone r.promotedClusterCounter).relation_eq]
      have hcluster : step s (.deliver X) X = receive r.promotedClusterCounter (s X) := by
        rw [hstep, Function.update_self]
      intro htruthful
      have hstatus := htruthful X hseen
      rw [Cluster.truthfulStatus_setAppStatus, hcluster] at hstatus
      have hfollows : (receive r.promotedClusterCounter (s X)).FollowsPrimary := by
        have hown : (receive r.promotedClusterCounter (s X)).ownCounter = 0 :=
          ownCounter_of_some_zero hzero
        rw [followsPrimary_iff_of_ownCounter (shape_receive _ (h.shape X)) hown,
          seenCounter_receive (h.shape X), if_pos hrel]
        exact hcounter
      exact hstatus hzero hfollows
  | created offerer => exact absurd trivial he
  | broken X a => exact absurd trivial he
  | createReplication X a => exact absurd trivial he
  | promoteToPrimary X force a => exact absurd trivial he
  | changed X u a => exact absurd trivial he

/-- **The status of the application tells the truth** in every state of a run
if and only if no counter above zero is delivered to a cluster that is still
read-only from the relation it lost. -/
theorem truthful_iff {s : System} (hinit : Initial s) (es : List Event) :
    Machine.Along step (fun t e => Truthful (step t e)) s es ↔
      Machine.Along step NotWhileReadOnly s es := by
  refine Machine.along_congr ReadOnlyInv (fun t e ht he => readOnlyInv_step ht he)
    (fun t e ht => ?_) hinit.readOnlyInv
  constructor
  · intro htruthful
    by_contra he
    exact not_truthful_of_delivered ht he htruthful
  · intro he
    exact (readOnlyInv_step ht he).truthful

/-- The status is right on the run of a switchover. -/
theorem truthful_iff_switchover :
    Machine.Along step (fun t e => Truthful (step t e)) newSystem switchover :=
  (truthful_iff newSystem_initial switchover).mpr (by decide)

/-- The right cluster follows the left one, loses the relation, is related
again and follows the left one again. -/
def relatedAgain : List Event :=
  [.created .left, .createReplication .left (answers false), .deliver .right,
    .changed .right 0 (answers false), .broken .left (answers false),
    .broken .right (answers true), .created .left, .createReplication .left (answers false),
    .deliver .right, .changed .right 0 (answers true)]

/-- After `relatedAgain` the right cluster follows the left one, with its only
unit running, and it is still blocked as a standalone read-only cluster. -/
theorem relatedAgain_blocked :
    Initial newSystem ∧
      HasSeenLatest (Machine.run step newSystem relatedAgain) .right ∧
      (Machine.run step newSystem relatedAgain .right).getPrimaryCluster = some .left ∧
      (Machine.run step newSystem relatedAgain .right).isFollowingPromotedCluster 0 = true ∧
      ((Machine.run step newSystem relatedAgain .right).unit 0).running = true ∧
      (Machine.run step newSystem relatedAgain .right).setAppStatus.appStatus =
        .blocked readOnlyModeBlockingMessage ∧
      ¬ Truthful (Machine.run step newSystem relatedAgain) := by
  have hseen : HasSeenLatest (Machine.run step newSystem relatedAgain) .right := by decide
  have hprimary : (Machine.run step newSystem relatedAgain .right).getPrimaryCluster =
      some .left := by decide
  have hstatus : (Machine.run step newSystem relatedAgain .right).setAppStatus.appStatus =
      .blocked readOnlyModeBlockingMessage := by decide
  refine ⟨newSystem_initial, hseen, hprimary, by decide, by decide, hstatus, ?_⟩
  intro htruthful
  refine (htruthful .right hseen).blocked hstatus ⟨.left, ?_, by decide⟩
  rw [Cluster.toElection_setAppStatus]
  exact hprimary

end System

end PostgresqlK8s.AsyncReplication
