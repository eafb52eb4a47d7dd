import PostgresqlK8s.Lib.Contest
import PostgresqlK8s.AsyncReplication.Handlers

/-!
# AsyncReplication.System

Two clusters joined by a replication relation, and everything that happens
to them: the relation is created, broken and created again, either side runs
`create-replication` or `promote-to-primary`, a side receives what the other
one has published, and any unit runs its relation-changed handler, for the
first time or after it deferred the event.

Whatever happens, a cluster is either unrelated with no counter above zero,
or has one relation with the other side, in which it has published its
counter (`wellShaped_step`).
-/

namespace PostgresqlK8s.AsyncReplication

open Contest

/-- The two clusters. -/
abbrev System := Side → Cluster Side

/-- The events of a run, each with the cluster it happens in and with the
answers its handler is given. -/
inductive Event
  /-- The relation is created; the given side is the one that offers it. -/
  | created (offerer : Side)
  /-- The units of one side handle the end of the relation. -/
  | broken (X : Side) (a : Answers)
  | createReplication (X : Side) (a : Answers)
  | promoteToPrimary (X : Side) (force : Bool) (a : Answers)
  /-- One side receives what the other one has published. -/
  | deliver (X : Side)
  /-- The unit `u` of one side handles relation-changed. -/
  | changed (X : Side) (u : Nat) (a : Answers)

namespace System

/-- Put a relation on its endpoint. -/
def relate (X offerer : Side) (c : Cluster Side) : Cluster Side :=
  if X = offerer then { c with offer := some ⟨.replicationOffer, X.other, none, none⟩ }
  else { c with consumer := some ⟨.replication, X.other, none, none⟩ }

/-- The relation is created on one side, and every unit handles it. -/
def created (X offerer : Side) (c : Cluster Side) : Cluster Side :=
  c.units.foldl (fun c u => c.onAsyncRelationCreated u) (relate X offerer c)

/-- Record what the other side has published. -/
def receive (counter : Option Nat) (c : Cluster Side) : Cluster Side :=
  let see (r : AsyncRelation Side) : AsyncRelation Side :=
    { r with remotePromotedClusterCounter := counter }
  { c with offer := c.offer.map see, consumer := c.consumer.map see }

/-- One event.  A relation is created only between two unrelated clusters,
and nothing more is delivered once one side has left it. -/
def step (s : System) : Event → System
  | .created offerer =>
      if (s .left).relation.isNone && (s .right).relation.isNone then
        fun X => created X offerer (s X)
      else s
  | .broken X a => Function.update s X ((s X).onAsyncRelationBroken a)
  | .createReplication X a => Function.update s X ((s X).onCreateReplication a)
  | .promoteToPrimary X force a => Function.update s X ((s X).promoteToPrimary force a)
  | .deliver X =>
      match (s X.other).relation with
      | none => s
      | some r => Function.update s X (receive r.promotedClusterCounter (s X))
  | .changed X u a => Function.update s X ((s X).onAsyncRelationChanged a u)

/-- Two clusters before any replication was set up. -/
structure Initial (s : System) : Prop where
  app : ∀ X, (s X).app = X
  unrelated : ∀ X, (s X).offer = none ∧ (s X).consumer = none
  counter : ∀ X, (s X).promotedClusterCounter = none
  status : ∀ X, (s X).appStatus = .active
  units : ∀ X u, (s X).unit u = {}

/-- The side `X` has seen the latest counter of the other one, or neither
side is related. -/
def HasSeenLatest (s : System) (X : Side) : Prop :=
  match (s X).relation, (s X.other).relation with
  | some r, some r' =>
      r.remotePromotedClusterCounter.getD 0 = r'.promotedClusterCounter.getD 0
  | none, none => True
  | _, _ => False

instance (s : System) (X : Side) : Decidable (HasSeenLatest s X) := by
  unfold HasSeenLatest
  split <;> infer_instance

/-! ## The shape of the clusters -/

/-- A cluster is unrelated, with no counter above zero, or has one relation
with the other side, in which it has published its counter. -/
structure Shape (X : Side) (e : Election Side) : Prop where
  app : e.app = X
  relation : (e.offer = none ∧ e.consumer = none ∧ e.ownCounter = 0) ∨
    ∃ r, e.OneRelation r ∧ r.app = X.other ∧
      r.promotedClusterCounter.getD 0 = e.ownCounter

/-- Both clusters have their shape. -/
def WellShaped (s : System) : Prop := ∀ X, Shape X (s X).toElection

/-- The clusters are well shaped at first. -/
theorem Initial.wellShaped {s : System} (h : Initial s) : WellShaped s := fun X =>
  ⟨h.app X, .inl ⟨(h.unrelated X).1, (h.unrelated X).2, by
    simp [Election.ownCounter, h.counter X]⟩⟩

section Shape

variable {X : Side} {c : Cluster Side}

/-- An unrelated cluster has no counter above zero. -/
theorem Shape.ownCounter_eq_zero (h : Shape X c.toElection) (hrel : c.relation = none) :
    c.ownCounter = 0 := by
  rcases h.relation with ⟨-, -, h0⟩ | ⟨r, hr, -, -⟩
  · exact h0
  · rw [hr.relation_eq] at hrel
    contradiction

/-- A related cluster has exactly one relation. -/
theorem Shape.oneRelation (h : Shape X c.toElection) {r : AsyncRelation Side}
    (hrel : c.relation = some r) : c.OneRelation r ∧ r.app = X.other ∧
      r.promotedClusterCounter.getD 0 = c.ownCounter := by
  rcases h.relation with ⟨h₁, h₂, -⟩ | ⟨r', hr', happ, hpub⟩
  · simp [Election.relation, h₁, h₂] at hrel
  · rw [hr'.relation_eq, Option.some.injEq] at hrel
    subst hrel
    exact ⟨hr', happ, hpub⟩

/-- A promotion publishes the counter in the one relation. -/
theorem oneRelation_updatePrimaryClusterData {r : AsyncRelation Side} (h : c.OneRelation r)
    (n : Nat) : (c.updatePrimaryClusterData n).OneRelation
      { r with promotedClusterCounter := some n } := by
  rcases h with ⟨h₁, h₂⟩ | ⟨h₁, h₂⟩
  · exact .inl (by simp [Cluster.updatePrimaryClusterData, h₁, h₂])
  · exact .inr (by simp [Cluster.updatePrimaryClusterData, h₁, h₂])

/-- Receiving a counter changes the other side's counter in the relation. -/
theorem oneRelation_receive {r : AsyncRelation Side} (h : c.OneRelation r)
    (counter : Option Nat) :
    (receive counter c).OneRelation { r with remotePromotedClusterCounter := counter } := by
  rcases h with ⟨h₁, h₂⟩ | ⟨h₁, h₂⟩
  · exact .inl (by simp [receive, h₁, h₂])
  · exact .inr (by simp [receive, h₁, h₂])

/-- A new relation, in which nothing has been published. -/
theorem oneRelation_relate (offerer : Side) (h : c.relation = none) :
    ∃ name, (relate X offerer c).OneRelation ⟨name, X.other, none, none⟩ := by
  obtain ⟨h₁, h₂⟩ := Election.relation_eq_none_iff.mp h
  unfold relate
  split
  · exact ⟨.replicationOffer, .inl ⟨rfl, h₂⟩⟩
  · exact ⟨.replication, .inr ⟨h₁, rfl⟩⟩

/-- Relating changes no counter. -/
theorem ownCounter_relate (offerer : Side) : (relate X offerer c).ownCounter = c.ownCounter := by
  unfold relate
  split <;> rfl

/-- The status of the application has no part in the shape. -/
theorem shape_setAppStatus (h : Shape X c.toElection) : Shape X c.setAppStatus.toElection := by
  rwa [Cluster.toElection_setAppStatus]

/-- Publishing the own counter keeps the shape. -/
theorem shape_updatePrimaryClusterData (h : Shape X c.toElection) (hrel : c.relation.isSome)
    (n : Nat) : Shape X (c.updatePrimaryClusterData n).toElection := by
  obtain ⟨r, hr⟩ := Option.isSome_iff_exists.mp hrel
  obtain ⟨hone, happ, -⟩ := h.oneRelation hr
  exact ⟨h.app, .inr ⟨_, oneRelation_updatePrimaryClusterData hone n, happ, rfl⟩⟩

/-- A promotion keeps it. -/
theorem shape_promote (a : Answers) (h : Shape X c.toElection) (hrel : c.relation.isSome) :
    Shape X (c.promote a).toElection := by
  rw [Cluster.promote, Cluster.toElection_onAsyncRelationChanged]
  exact shape_updatePrimaryClusterData h hrel _

/-- So does a promotion that is refused. -/
theorem shape_refuse (force : Bool) (a : Answers) (h : Shape X c.toElection) :
    Shape X (c.refuse force a).toElection := by
  unfold Cluster.refuse
  split
  · next hrel =>
      have hnone : c.relation = none := Option.isNone_iff_eq_none.mp hrel
      obtain ⟨h₁, h₂⟩ := Election.relation_eq_none_iff.mp hnone
      unfold Cluster.canPromoteCluster
      split
      · exact h
      · split
        · refine shape_setAppStatus (c := { c with promotedClusterCounter := none })
            ⟨h.app, .inl ⟨h₁, h₂, rfl⟩⟩
        · exact h
  · exact h

/-- The end of the relation keeps it. -/
theorem shape_onAsyncRelationBroken (a : Answers) (h : Shape X c.toElection) :
    Shape X (c.onAsyncRelationBroken a).toElection := by
  unfold Cluster.onAsyncRelationBroken
  dsimp only
  split
  · exact shape_setAppStatus ⟨h.app, .inl ⟨rfl, rfl, rfl⟩⟩
  · exact ⟨h.app, .inl ⟨rfl, rfl, rfl⟩⟩

/-- In the election, the hook of a new relation only relates. -/
theorem toElection_created (X offerer : Side) (c : Cluster Side) :
    (created X offerer c).toElection = (relate X offerer c).toElection := by
  unfold created
  generalize relate X offerer c = d
  induction c.units generalizing d with
  | nil => rfl
  | cons u us ih => rw [List.foldl_cons, ih, Cluster.toElection_onAsyncRelationCreated]

/-- So does its beginning. -/
theorem shape_created (offerer : Side) (h : Shape X c.toElection) (hrel : c.relation = none) :
    Shape X (created X offerer c).toElection := by
  obtain ⟨name, hone⟩ := oneRelation_relate (X := X) offerer hrel
  have happ : (relate X offerer c).app = X := by
    unfold relate
    split <;> exact h.app
  have hown : (relate X offerer c).ownCounter = 0 := by
    rw [ownCounter_relate, h.ownCounter_eq_zero hrel]
  rw [toElection_created]
  exact ⟨happ, .inr ⟨_, hone, rfl, hown.symm⟩⟩

/-- So does what arrives through it. -/
theorem shape_receive (counter : Option Nat) (h : Shape X c.toElection) :
    Shape X (receive counter c).toElection := by
  refine ⟨h.app, ?_⟩
  rcases h.relation with ⟨h₁, h₂, h0⟩ | ⟨r, hone, happ, hpub⟩
  · exact .inl ⟨by simp [receive, h₁], by simp [receive, h₂], h0⟩
  · exact .inr ⟨_, oneRelation_receive hone counter, happ, hpub⟩

end Shape

/-- Changing one cluster keeps the shapes if it keeps that cluster's. -/
theorem wellShaped_update {s : System} (h : WellShaped s) {X : Side} {c : Cluster Side}
    (hc : Shape X c.toElection) : WellShaped (Function.update s X c) := by
  intro Y
  by_cases hY : Y = X
  · subst hY
    simpa using hc
  · simpa [hY] using h Y

/-- Only a related cluster that is not the primary one is promoted. -/
theorem acceptsReplicationChange_relation {c : Cluster Side} {force : Bool} {a : Answers}
    (h : c.acceptsReplicationChange force a = true) :
    c.relation.isSome = true ∧ c.isPrimaryCluster = false := by
  simp only [Cluster.acceptsReplicationChange, Bool.and_eq_true, Bool.not_eq_true'] at h
  exact ⟨h.1.1.1.1.1.2, h.1.1.1.1.2⟩

/-- Only an initialised cluster is promoted. -/
theorem acceptsReplicationChange_initialised {c : Cluster Side} {force : Bool} {a : Answers}
    (h : c.acceptsReplicationChange force a = true) : c.clusterInitialised = true := by
  simp only [Cluster.acceptsReplicationChange, Bool.and_eq_true] at h
  exact h.1.1.1.1.1.1

/-- Every event keeps the shapes. -/
theorem wellShaped_step {s : System} (h : WellShaped s) (e : Event) : WellShaped (step s e) := by
  cases e with
  | created offerer =>
      simp only [step]
      split
      · next hnone =>
          simp only [Bool.and_eq_true, Option.isNone_iff_eq_none] at hnone
          have hrel : ∀ X, (s X).relation = none := Side.forall_iff.mpr hnone
          intro X
          exact shape_created offerer (h X) (hrel X)
      · exact h
  | broken X a => exact wellShaped_update h (shape_onAsyncRelationBroken a (h X))
  | createReplication X a =>
      refine wellShaped_update h ?_
      rw [Cluster.onCreateReplication_eq]
      split
      · next hacc =>
          simp only [Cluster.acceptsCreateReplication, Bool.and_eq_true] at hacc
          exact shape_promote a (h X) (acceptsReplicationChange_relation hacc.2).1
      · exact h X
  | promoteToPrimary X force a =>
      refine wellShaped_update h ?_
      rw [Cluster.promoteToPrimary_eq]
      split
      · next hacc =>
          simp only [Cluster.acceptsPromoteToPrimary, Bool.and_eq_true] at hacc
          exact shape_promote a (h X) (acceptsReplicationChange_relation hacc.2).1
      · split
        · exact shape_refuse force a (h X)
        · exact h X
  | deliver X =>
      simp only [step]
      split
      · exact h
      · exact wellShaped_update h (shape_receive _ (h X))
  | changed X u a =>
      refine wellShaped_update h ?_
      rw [Cluster.toElection_onAsyncRelationChanged]
      exact h X

end System

end PostgresqlK8s.AsyncReplication
