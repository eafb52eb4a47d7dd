import PostgresqlK8s.AsyncReplication.Agreement

/-!
# AsyncReplication.Following

A unit that counts as following the promoted cluster is not left stopped.

A unit counts as following when its `unit-promoted-cluster-counter` equals
the highest counter.  In the standby cluster a unit is stopped first and the
counter is written when its database has started again, together with the
removal of the `stopped` flag.  In the primary cluster the counter is written
without looking at the flag.  The leader never gets there stopped, because a
cluster whose leader has stopped is not initialised and cannot be promoted;
any other unit does when its cluster is promoted back before the leader has
stopped.  These are the only steps that leave a following unit stopped
(`following_iff`).
-/

namespace PostgresqlK8s.AsyncReplication

open Contest

namespace Cluster

variable {App : Type} [DecidableEq App]

/-- No unit that counts as following the promoted cluster is stopped. -/
def Following (c : Cluster App) : Prop :=
  ∀ u, (c.unit u).unitPromotedClusterCounter = some c.getHighestPromotedClusterCounterValue →
    (c.unit u).stopped = false

/-- What holds between the handlers of one cluster. -/
structure Inv (c : Cluster App) : Prop where
  counter : ∀ u n, (c.unit u).unitPromotedClusterCounter = some n →
    0 < n ∧ n ≤ c.getHighestPromotedClusterCounterValue
  following : c.Following
  leader : (c.unit c.leader).stopped = true →
    c.clusterInitialised = false ∧ c.isPrimaryCluster = false

section Handlers

variable {c : Cluster App}

/-- Changing one unit keeps the invariant if the new unit fits in. -/
theorem inv_updateUnit (h : c.Inv) (u : Nat) (f : UnitData → UnitData)
    (hcounter : ∀ n, (f (c.unit u)).unitPromotedClusterCounter = some n →
      0 < n ∧ n ≤ c.getHighestPromotedClusterCounterValue)
    (hfollowing : (f (c.unit u)).unitPromotedClusterCounter =
      some c.getHighestPromotedClusterCounterValue → (f (c.unit u)).stopped = false)
    (hleader : u = c.leader → (f (c.unit u)).stopped = true →
      c.clusterInitialised = false ∧ c.isPrimaryCluster = false) :
    (c.updateUnit u f).Inv := by
  have hunit (v : Nat) : (c.updateUnit u f).unit v = if v = u then f (c.unit u) else c.unit v := by
    simp [updateUnit, Function.update_apply]
  refine ⟨fun v n hn => ?_, fun v hv => ?_, fun hstopped => ?_⟩
  · rw [hunit] at hn
    split at hn
    · exact hcounter n hn
    · exact h.counter v n hn
  · rw [hunit] at hv ⊢
    split at hv
    · next hvu =>
        rw [if_pos hvu]
        exact hfollowing hv
    · next hvu =>
        rw [if_neg hvu]
        exact h.following v hv
  · rw [hunit] at hstopped
    split at hstopped
    · next hvu => exact hleader hvu.symm hstopped
    · exact h.leader hstopped

/-- Starting or stopping the service of a unit. -/
theorem inv_running (h : c.Inv) (u : Nat) (b : Bool) :
    (c.updateUnit u fun d => { d with running := b }).Inv :=
  inv_updateUnit h u _ (h.counter u) (h.following u) fun hu hstopped => by
    subst hu
    exact h.leader hstopped

/-- The leader takes the initialised flag back. -/
theorem inv_uninitialise (h : c.Inv) : { c with clusterInitialised := false }.Inv :=
  ⟨h.counter, h.following, fun hstopped => ⟨rfl, (h.leader hstopped).2⟩⟩

/-- A unit that is not stopped is marked as following. -/
theorem inv_follow (h : c.Inv) (hprimary : c.getPrimaryCluster.isSome) (u : Nat)
    (f : UnitData → UnitData)
    (hcounter : (f (c.unit u)).unitPromotedClusterCounter =
      some c.getHighestPromotedClusterCounterValue)
    (hstopped : (f (c.unit u)).stopped = false) : (c.updateUnit u f).Inv := by
  have hpos := (Election.getPrimaryCluster_isSome_iff c.toElection).mp hprimary
  refine inv_updateUnit h u f (fun n hn => ?_) (fun _ => hstopped) fun _ hs => ?_
  · rw [hcounter, Option.some.injEq] at hn
    omega
  · rw [hstopped] at hs
    contradiction

/-- A unit that does not count as following is stopped by the standby
cluster, the leader together with the initialised flag. -/
theorem inv_stop (h : c.Inv) {u : Nat} (hfollow : c.isFollowingPromotedCluster u = false)
    (hprimary : c.getPrimaryCluster.isSome)
    (hleader : u = c.leader → c.clusterInitialised = false ∧ c.isPrimaryCluster = false) :
    (c.updateUnit u fun d => { d with stopped := true }).Inv := by
  refine inv_updateUnit h u _ (h.counter u) (fun hcounter => ?_) fun hu _ => hleader hu
  have hnone : c.getPrimaryCluster.isNone = false := by
    rw [Option.isNone_eq_false_iff]
    exact hprimary
  have hequal : (c.unit u).unitPromotedClusterCounter =
      some c.getHighestPromotedClusterCounterValue := hcounter
  simp [isFollowingPromotedCluster, hnone, hequal] at hfollow

theorem inv_refreshAppStatus (h : c.Inv) (u : Nat) : (c.refreshAppStatus u).Inv := by
  unfold refreshAppStatus
  split
  · unfold setAppStatus
    split
    · exact ⟨h.counter, h.following, h.leader⟩
    · split
      · exact ⟨h.counter, h.following, h.leader⟩
      · split <;> exact ⟨h.counter, h.following, h.leader⟩
  · exact h

theorem inv_configurePrimaryCluster (h : c.Inv) (a : Answers) {u : Nat} {primary : App}
    (hprimary : c.getPrimaryCluster = some primary)
    (hstopped : c.isPrimaryCluster = true → (c.unit u).stopped = false) :
    (c.configurePrimaryCluster a u primary).2.Inv := by
  unfold configurePrimaryCluster
  split
  · next happ =>
      have hown : c.isPrimaryCluster = true := by
        simp [Election.isPrimaryCluster, hprimary, happ]
      split
      · exact h
      · have hsome : c.getPrimaryCluster.isSome := by rw [hprimary]; rfl
        exact inv_follow h hsome u (fun d => { d with
          unitPromotedClusterCounter := some c.getHighestPromotedClusterCounterValue }) rfl
          (hstopped hown)
  · exact h

theorem inv_stopDatabase (h : c.Inv) (a : Answers) (u : Nat)
    (hprimary : c.getPrimaryCluster.isSome) (hstandby : c.isPrimaryCluster = false) :
    (c.stopDatabase a u).2.Inv := by
  unfold stopDatabase
  split
  · next hstop =>
      simp only [Bool.and_eq_true, Bool.not_eq_true'] at hstop
      split
      · exact h
      · have hoff := inv_running h u false
        have hfollow : (c.updateUnit u fun d => { d with running := false }
            ).isFollowingPromotedCluster u = false := by
          have hnot := hstop.2
          simp only [isFollowingPromotedCluster, updateUnit, Function.update_self] at hnot ⊢
          exact hnot
        dsimp only
        split
        · split
          · exact hoff
          · exact inv_uninitialise hoff
          · exact inv_stop (inv_uninitialise hoff) hfollow hprimary fun _ => ⟨rfl, hstandby⟩
        · next hnotLeader =>
            refine inv_stop hoff hfollow hprimary fun hu => ?_
            refine absurd ?_ hnotLeader
            rw [isLeader, hu]
            exact beq_self_eq_true _
  · exact h

theorem inv_handleDatabaseStart (h : c.Inv) (a : Answers) (u : Nat)
    (hprimary : c.getPrimaryCluster.isSome) : (c.handleDatabaseStart a u).Inv := by
  unfold handleDatabaseStart
  split
  · dsimp only
    have hstarted := inv_follow h hprimary u (fun d =>
      { d with
        stopped := false
        unitPromotedClusterCounter := some c.getHighestPromotedClusterCounterValue }) rfl rfl
    split
    · next hready =>
        simp only [Bool.and_eq_true] at hready
        refine ⟨hstarted.counter, hstarted.following, fun hstopped => ?_⟩
        have hu : u = c.leader := eq_of_beq hready.1
        subst hu
        simp [updateUnit] at hstopped
    · exact hstarted
  · split
    · exact inv_uninitialise h
    · exact h

theorem inv_startDatabase (h : c.Inv) (a : Answers) (u : Nat)
    (hprimary : c.getPrimaryCluster.isSome) : (c.startDatabase a u).Inv := by
  unfold startDatabase
  split
  · exact h
  · split
    · exact h
    · split
      · exact h
      · exact inv_handleDatabaseStart (inv_running h u true) a u hprimary

theorem inv_followPrimaryCluster (h : c.Inv) (a : Answers) {u : Nat}
    (hstopped : c.isPrimaryCluster = true → (c.unit u).stopped = false) :
    (c.followPrimaryCluster a u).Inv := by
  unfold followPrimaryCluster
  split
  · exact h
  · next primary hprimary =>
      have hconfigured := inv_configurePrimaryCluster h a hprimary hstopped
      have helection := toElection_configurePrimaryCluster a u c primary
      have hfirst : (c.configurePrimaryCluster a u primary).1 = decide (c.app = primary) := by
        unfold configurePrimaryCluster
        split
        · next happ => split <;> simp [happ]
        · next happ => simp [happ]
      dsimp only
      split
      · exact hconfigured
      · next hnot =>
          rw [hfirst, decide_eq_true_eq] at hnot
          have hstandby : c.isPrimaryCluster = false := by
            simp only [Election.isPrimaryCluster, hprimary, beq_eq_false_iff_ne, ne_eq,
              Option.some.injEq]
            exact fun h => hnot h.symm
          generalize (c.configurePrimaryCluster a u primary).2 = d at hconfigured helection
          have hsome : d.getPrimaryCluster.isSome := by
            rw [helection, hprimary]
            rfl
          have hdstandby : d.isPrimaryCluster = false := by rw [helection, hstandby]
          have hstop := inv_stopDatabase hconfigured a u hsome hdstandby
          split
          · exact hconfigured
          · split
            · refine inv_startDatabase hstop a u ?_
              rw [toElection_stopDatabase]
              exact hsome
            · exact hstop

/-- The relation-changed handler keeps the invariant, unless a stopped unit
of the primary cluster runs it. -/
theorem inv_onAsyncRelationChanged (h : c.Inv) (a : Answers) {u : Nat}
    (hstopped : c.isPrimaryCluster = true → (c.unit u).stopped = false) :
    (c.onAsyncRelationChanged a u).Inv := by
  have hunit : (c.refreshAppStatus u).unit = c.unit := by
    unfold refreshAppStatus
    split
    · unfold setAppStatus
      split
      · rfl
      · split
        · rfl
        · split <;> rfl
    · rfl
  refine inv_followPrimaryCluster (inv_refreshAppStatus h u) a ?_
  rw [toElection_refreshAppStatus, hunit]
  exact hstopped

end Handlers

end Cluster

namespace System

section Events

variable {X : Side} {c : Cluster Side}

/-- A change that keeps the units and the highest counter, and does not make
the cluster the primary one, keeps the invariant. -/
theorem inv_of_unit_eq {c d : Cluster Side} (h : c.Inv) (hunit : d.unit = c.unit)
    (hleader : d.leader = c.leader) (hinit : d.clusterInitialised = c.clusterInitialised)
    (hhighest : d.getHighestPromotedClusterCounterValue =
      c.getHighestPromotedClusterCounterValue)
    (hprimary : d.isPrimaryCluster = false) : d.Inv := by
  refine ⟨fun u n hn => ?_, fun u hu => ?_, fun hstopped => ?_⟩
  · rw [hhighest]
    rw [hunit] at hn
    exact h.counter u n hn
  · rw [hunit] at hu ⊢
    rw [hhighest] at hu
    exact h.following u hu
  · rw [hunit, hleader] at hstopped
    rw [hinit]
    exact ⟨(h.leader hstopped).1, hprimary⟩

theorem isPrimaryCluster_of_highest_eq_zero {e : Election Side}
    (h : e.getHighestPromotedClusterCounterValue = 0) : e.isPrimaryCluster = false := by
  have hnone : e.getPrimaryCluster = none := by
    by_contra hsome
    have := (Election.getPrimaryCluster_isSome_iff e).mp (Option.isSome_iff_ne_none.mpr hsome)
    omega
  simp [Election.isPrimaryCluster, hnone]

theorem getHighest_relate (offerer : Side) (h : Shape X c.toElection) (hrel : c.relation = none) :
    (relate X offerer c).getHighestPromotedClusterCounterValue = 0 := by
  obtain ⟨name, hone⟩ := oneRelation_relate (X := X) offerer hrel
  rw [hone.getHighest_eq, hone.seenCounter_eq, ownCounter_relate, h.ownCounter_eq_zero hrel]
  rfl

/-- While no cluster was promoted the units of a new relation keep their
databags. -/
theorem created_eq_relate (offerer : Side) (h : Shape X c.toElection) (hrel : c.relation = none) :
    created X offerer c = relate X offerer c := by
  have hzero := getHighest_relate offerer h hrel
  unfold created
  generalize relate X offerer c = d at hzero
  induction c.units with
  | nil => rfl
  | cons u us ih =>
      have hcreated : d.onAsyncRelationCreated u = d := by
        rw [Cluster.onAsyncRelationCreated, if_neg (by simpa using hzero)]
      rw [List.foldl_cons, hcreated, ih]

theorem inv_created (offerer : Side) (h : c.Inv) (hshape : Shape X c.toElection)
    (hrel : c.relation = none) : (created X offerer c).Inv := by
  have hzero := getHighest_relate offerer hshape hrel
  rw [created_eq_relate offerer hshape hrel]
  refine inv_of_unit_eq h ?_ ?_ ?_ ?_ (isPrimaryCluster_of_highest_eq_zero hzero)
  · unfold relate
    split <;> rfl
  · unfold relate
    split <;> rfl
  · unfold relate
    split <;> rfl
  · rw [hzero, Election.getHighest_of_relation_none hrel]

theorem inv_setAppStatus (h : c.Inv) : c.setAppStatus.Inv := by
  have hrefresh := Cluster.inv_refreshAppStatus h c.leader
  rwa [Cluster.refreshAppStatus, if_pos (by simp [Cluster.isLeader])] at hrefresh

/-- The end of a relation resets every unit. -/
theorem inv_onAsyncRelationBroken (a : Answers) (c : Cluster Side) :
    (c.onAsyncRelationBroken a).Inv := by
  unfold Cluster.onAsyncRelationBroken
  dsimp only
  split
  · exact inv_setAppStatus ⟨fun _ _ hn => by contradiction, fun _ _ => rfl, nofun⟩
  · exact ⟨fun _ _ hn => by contradiction, fun _ _ => rfl, nofun⟩

theorem inv_refuse (force : Bool) (a : Answers) (h : c.Inv) : (c.refuse force a).Inv := by
  unfold Cluster.refuse
  split
  · next hrel =>
      have hnone : c.relation = none := Option.isNone_iff_eq_none.mp hrel
      unfold Cluster.canPromoteCluster
      split
      · exact h
      · split
        · have hzero : Election.getHighestPromotedClusterCounterValue
              { c.toElection with promotedClusterCounter := none } = 0 :=
            Election.getHighest_of_relation_none hnone
          refine inv_setAppStatus (inv_of_unit_eq (d := { c with promotedClusterCounter := none })
            h rfl rfl rfl ?_ (isPrimaryCluster_of_highest_eq_zero hzero))
          rw [Election.getHighest_of_relation_none hnone]
          exact hzero
        · exact h
  · exact h

/-- A promotion raises the highest counter, so that no unit follows any more;
it needs an initialised cluster, whose leader is not stopped. -/
theorem inv_promote (a : Answers) (h : c.Inv) (hshape : Shape X c.toElection)
    (hinit : c.clusterInitialised = true) (hrel : c.relation.isSome) : (c.promote a).Inv := by
  obtain ⟨r, hr⟩ := Option.isSome_iff_exists.mp hrel
  obtain ⟨hone, -, -⟩ := hshape.oneRelation hr
  have hhighest := hone.getHighest_eq
  rw [hone.seenCounter_eq] at hhighest
  have hnew := oneRelation_updatePrimaryClusterData hone
    (c.getHighestPromotedClusterCounterValue + 1)
  have hnewHighest := hnew.getHighest_eq
  rw [hnew.seenCounter_eq] at hnewHighest
  have hown : (c.updatePrimaryClusterData (c.getHighestPromotedClusterCounterValue + 1)
      ).ownCounter = c.getHighestPromotedClusterCounterValue + 1 := rfl
  rw [hown] at hnewHighest
  simp only at hnewHighest
  have hleader : (c.unit c.leader).stopped = false := by
    by_contra hstopped
    have := (h.leader (by simpa using hstopped)).1
    rw [hinit] at this
    contradiction
  have hpromoted : (c.updatePrimaryClusterData
      (c.getHighestPromotedClusterCounterValue + 1)).Inv := by
    refine ⟨fun u n hn => ?_, fun u hu => ?_, fun hstopped => ?_⟩
    · obtain ⟨hpos, hle⟩ := h.counter u n hn
      exact ⟨hpos, by omega⟩
    · obtain ⟨-, hle⟩ := h.counter u _ hu
      omega
    · have hstopped' : (c.unit c.leader).stopped = true := hstopped
      rw [hleader] at hstopped'
      contradiction
  exact Cluster.inv_onAsyncRelationChanged hpromoted a fun _ => hleader

/-- A delivery never lowers the highest counter. -/
theorem inv_receive (h : c.Inv) (hshape : Shape X c.toElection) (counter : Option Nat)
    (hseen : c.relation.isSome → c.seenCounter ≤ counter.getD 0) : (receive counter c).Inv := by
  cases hrel : c.relation with
  | none =>
      obtain ⟨h₁, h₂⟩ := Election.relation_eq_none_iff.mp hrel
      have hsame : receive counter c = c := by
        obtain ⟨⟨app, own, offer, consumer⟩, _⟩ := c
        simp only at h₁ h₂
        rw [h₁, h₂]
        rfl
      rw [hsame]
      exact h
  | some r =>
      obtain ⟨hone, happ, -⟩ := hshape.oneRelation hrel
      have hle := hseen (by rw [hrel]; rfl)
      have hnew := oneRelation_receive hone counter
      have hhighest := hone.getHighest_eq
      have hnewHighest := hnew.getHighest_eq
      have hnewSeen : (receive counter c).seenCounter = counter.getD 0 := hnew.seenCounter_eq
      have hown : (receive counter c).ownCounter = c.ownCounter := rfl
      rw [hnewSeen, hown] at hnewHighest
      refine ⟨fun u n hn => ?_, fun u hu => ?_, fun hstopped => ?_⟩
      · obtain ⟨hpos, hcounter⟩ := h.counter u n hn
        exact ⟨hpos, by omega⟩
      · obtain ⟨-, hcounter⟩ := h.counter u _ hu
        refine h.following u (hu.trans (congrArg some ?_))
        omega
      · obtain ⟨hinit, hprimary⟩ := h.leader hstopped
        refine ⟨hinit, ?_⟩
        have hstandby : ¬ c.seenCounter < c.ownCounter := by
          intro hlt
          have hwas := hone.getPrimaryCluster_eq
          rw [if_pos hlt] at hwas
          simp [Election.isPrimaryCluster, hwas] at hprimary
        have hnow := hnew.getPrimaryCluster_eq
        rw [hnewSeen, hown, if_neg (by omega), happ] at hnow
        have happX : (receive counter c).app = X := hshape.app
        rw [Election.isPrimaryCluster, hnow, happX]
        split <;> simp

end Events

/-! ## Runs -/

/-- No unit of either cluster that counts as following is stopped. -/
def Following (s : System) : Prop := ∀ X, (s X).Following

/-- A stopped unit other than the leader does not run its relation-changed
handler while its own cluster is the primary one. -/
def RestartsFirst (s : System) : Event → Prop
  | .changed X u _ => (s X).isPrimaryCluster → u ≠ (s X).leader → ((s X).unit u).stopped = false
  | _ => True

instance (s : System) (e : Event) : Decidable (RestartsFirst s e) := by
  unfold RestartsFirst
  split <;> infer_instance

/-- What holds between the events of a run. -/
structure FollowingInv (s : System) : Prop where
  shape : WellShaped s
  notAhead : NotAhead (abs s)
  cluster : ∀ X, (s X).Inv

theorem Initial.followingInv {s : System} (h : Initial s) : FollowingInv s := by
  have hrel (X : Side) : (s X).relation = none :=
    Election.relation_eq_none_iff.mpr (h.unrelated X)
  refine ⟨h.wellShaped, fun X p q hp => ?_, fun X => ⟨fun u n hn => ?_, fun u _ => ?_, ?_⟩⟩
  · rw [abs_eq_none_iff.mpr (hrel X)] at hp
    contradiction
  · rw [h.units X u] at hn
    contradiction
  · rw [h.units X u]
  · rw [h.units X (s X).leader]
    nofun

theorem cluster_update {s : System} (h : ∀ X, (s X).Inv) {X : Side} {c : Cluster Side}
    (hc : c.Inv) (Y : Side) : (Function.update s X c Y).Inv := by
  by_cases hY : Y = X
  · subst hY
    rw [Function.update_self]
    exact hc
  · rw [Function.update_of_ne hY]
    exact h Y

/-- What a delivery shows is not behind what was seen before. -/
theorem seenCounter_le_published {s : System} (hs : WellShaped s) (h : NotAhead (abs s))
    {X : Side} {r : AsyncRelation Side} (hrel : (s X).relation.isSome)
    (hother : (s X.other).relation = some r) :
    (s X).seenCounter ≤ r.promotedClusterCounter.getD 0 := by
  obtain ⟨r', hr'⟩ := Option.isSome_iff_exists.mp hrel
  have hp : abs s X = some ⟨(s X).ownCounter, (s X).seenCounter⟩ := by
    rw [abs, Election.party, hr', Option.map_some]
  exact h X _ _ hp (abs_eq_some hs hother)

/-- **Step lemma**: an event that meets `RestartsFirst` keeps the invariant. -/
theorem followingInv_step {s : System} (h : FollowingInv s) {e : Event}
    (he : RestartsFirst s e) : FollowingInv (step s e) := by
  refine ⟨wellShaped_step h.shape e, ?_, ?_⟩
  · rw [abs_step s e h.shape]
    exact Machine.run_of_step NotAhead (fun t op ht => notAhead_step ht op) _ h.notAhead
  · cases e with
    | created offerer =>
        simp only [step]
        split
        · next hnone =>
            simp only [Bool.and_eq_true, Option.isNone_iff_eq_none] at hnone
            have hrel : ∀ X, (s X).relation = none := Side.forall_iff.mpr hnone
            intro X
            exact inv_created offerer (h.cluster X) (h.shape X) (hrel X)
        · exact h.cluster
    | broken X a => exact cluster_update h.cluster (inv_onAsyncRelationBroken a (s X))
    | createReplication X a =>
        refine cluster_update h.cluster ?_
        rw [Cluster.onCreateReplication_eq]
        split
        · next hacc =>
            simp only [Cluster.acceptsCreateReplication, Bool.and_eq_true] at hacc
            exact inv_promote a (h.cluster X) (h.shape X)
              (acceptsReplicationChange_initialised hacc.2)
              (acceptsReplicationChange_relation hacc.2).1
        · exact h.cluster X
    | promoteToPrimary X force a =>
        refine cluster_update h.cluster ?_
        rw [Cluster.promoteToPrimary_eq]
        split
        · next hacc =>
            simp only [Cluster.acceptsPromoteToPrimary, Bool.and_eq_true] at hacc
            exact inv_promote a (h.cluster X) (h.shape X)
              (acceptsReplicationChange_initialised hacc.2)
              (acceptsReplicationChange_relation hacc.2).1
        · split
          · exact inv_refuse force a (h.cluster X)
          · exact h.cluster X
    | deliver X =>
        cases hother : (s X.other).relation with
        | none =>
            simp only [step, hother]
            exact h.cluster
        | some r =>
            simp only [step, hother]
            refine cluster_update h.cluster (inv_receive (h.cluster X) (h.shape X) _ ?_)
            intro hrel
            exact seenCounter_le_published h.shape h.notAhead hrel hother
    | changed X u a =>
        refine cluster_update h.cluster (Cluster.inv_onAsyncRelationChanged (h.cluster X) a ?_)
        intro hprimary
        by_cases hu : u = (s X).leader
        · rw [hu]
          by_contra hstopped
          have := ((h.cluster X).leader (by simpa using hstopped)).2
          rw [hprimary] at this
          contradiction
        · exact he hprimary hu

/-- A stopped unit that is not the leader is marked as following, and stays
stopped, when it handles the relation-changed event in the primary cluster. -/
theorem not_following_of_stopped {s : System} {e : Event} (he : ¬ RestartsFirst s e) :
    ¬ Following (step s e) := by
  cases e with
  | changed X u a =>
      simp only [RestartsFirst, Classical.not_imp, Bool.not_eq_false] at he
      obtain ⟨hprimary, hu, hstopped⟩ := he
      have hleader : (s X).isLeader u = false := beq_eq_false_iff_ne.mpr hu
      have happ : (s X).getPrimaryCluster = some (s X).app := eq_of_beq hprimary
      intro hfollowing
      have hchanged : step s (.changed X u a) X = (s X).updateUnit u fun d =>
          { d with
            unitPromotedClusterCounter := some (s X).getHighestPromotedClusterCounterValue } := by
        rw [step, Function.update_self, Cluster.onAsyncRelationChanged, Cluster.refreshAppStatus,
          if_neg (Bool.eq_false_iff.mp hleader), Cluster.followPrimaryCluster]
        simp only [happ, Cluster.configurePrimaryCluster, hleader]
        simp
      have hu' := hfollowing X u
      rw [hchanged] at hu'
      simp [Cluster.updateUnit, hstopped] at hu'
  | created offerer => exact absurd trivial he
  | broken X a => exact absurd trivial he
  | createReplication X a => exact absurd trivial he
  | promoteToPrimary X force a => exact absurd trivial he
  | deliver X => exact absurd trivial he

/-- **A unit that counts as following is not left stopped**, after every
event of a run, if and only if no stopped unit other than the leader runs its
relation-changed handler while its own cluster is the primary one. -/
theorem following_iff {s : System} (hinit : Initial s) (es : List Event) :
    Machine.Along step (fun t e => Following (step t e)) s es ↔
      Machine.Along step RestartsFirst s es := by
  refine Machine.along_congr FollowingInv (fun t e ht he => followingInv_step ht he)
    (fun t e ht => ?_) hinit.followingInv
  constructor
  · intro hfollowing
    by_contra he
    exact not_following_of_stopped he hfollowing
  · intro he X
    exact ((followingInv_step ht he).cluster X).following

/-- Two clusters; the right one has a second unit. -/
def twoUnitSystem : System := fun X =>
  { newSystem X with units := match X with | .left => [0] | .right => [0, 1] }

/-- The second unit of the right cluster stops to follow the left one.  Before
its leader does, the right cluster is promoted back, and the stopped unit
handles the event again. -/
def promotedBack : List Event :=
  [.created .left, .createReplication .left (answers false), .deliver .right,
    .changed .right 1 (answers false), .promoteToPrimary .right false (answers false),
    .changed .right 1 (answers false)]

theorem twoUnitSystem_initial : Initial twoUnitSystem :=
  ⟨fun _ => rfl, fun _ => ⟨rfl, rfl⟩, fun _ => rfl, fun _ => rfl, fun _ _ => rfl⟩

/-- After `promotedBack` the second unit counts as following, and its database
is stopped. -/
theorem promotedBack_left_stopped :
    Initial twoUnitSystem ∧
      ((Machine.run step twoUnitSystem promotedBack .right).unit 1).unitPromotedClusterCounter =
        some (Machine.run step twoUnitSystem promotedBack
          .right).getHighestPromotedClusterCounterValue ∧
      ((Machine.run step twoUnitSystem promotedBack .right).unit 1).stopped = true ∧
      ((Machine.run step twoUnitSystem promotedBack .right).unit 1).running = false := by
  refine ⟨twoUnitSystem_initial, ?_, ?_, ?_⟩ <;> decide

/-- Without the last event the run is fine. -/
theorem following_iff_promotedBack :
    Machine.Along step (fun t e => Following (step t e)) twoUnitSystem
      (promotedBack.take 5) :=
  (following_iff twoUnitSystem_initial (promotedBack.take 5)).mpr (by decide)

end System

end PostgresqlK8s.AsyncReplication
