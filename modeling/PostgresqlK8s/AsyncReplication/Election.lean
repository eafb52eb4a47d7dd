import Mathlib.Data.List.Basic
import Mathlib.Tactic.Common

/-!
# AsyncReplication.Election

Which of two related clusters is the primary one, as each side computes it.

Both clusters keep a `promoted-cluster-counter`: a cluster writes its own in
its peer databag and publishes it in the replication relation, where the
other cluster reads it.  The cluster with the highest counter is the primary
cluster.  A side reads the *other* counter from relation data and its *own*
from the peer databag, and replaces the best candidate only by a strictly
higher counter; the other application comes first in the loop.

A counter is a decimal string in the databags; it is a number here, `none`
where the key is absent (read as `"0"`) and `some 0` where the databag holds
`"0"`.
-/

namespace PostgresqlK8s.AsyncReplication

/-- The two endpoints a replication relation can be on. -/
inductive RelationName
  /-- `REPLICATION_OFFER_RELATION`. -/
  | replicationOffer
  /-- `REPLICATION_CONSUMER_RELATION`. -/
  | replication
deriving DecidableEq, Repr

/-- A replication relation as one side sees it. -/
structure AsyncRelation (App : Type) where
  name : RelationName
  /-- The remote application. -/
  app : App
  /-- The counter in the remote application's databag, as last delivered. -/
  remotePromotedClusterCounter : Option Nat
  /-- The counter this application has published. -/
  promotedClusterCounter : Option Nat
deriving Repr

/-- Everything the choice of the primary cluster depends on. -/
structure Election (App : Type) where
  /-- This application. -/
  app : App
  /-- The counter in this application's peer databag. -/
  promotedClusterCounter : Option Nat
  /-- The relation on the offer endpoint, if there is one. -/
  offer : Option (AsyncRelation App)
  /-- The relation on the consumer endpoint, if there is one. -/
  consumer : Option (AsyncRelation App)

namespace Election

variable {App : Type}

/-- `_relation`: the replication relation, the offer endpoint first. -/
def relation (e : Election App) : Option (AsyncRelation App) := e.offer <|> e.consumer

/-- The relations in the order the loops visit them. -/
def relations (e : Election App) : List (AsyncRelation App) :=
  e.offer.toList ++ e.consumer.toList

/-- This side's own counter, read as `"0"` where it is absent. -/
def ownCounter (e : Election App) : Nat := e.promotedClusterCounter.getD 0

/-- The applications and counters that one relation contributes, the remote
application first. -/
def candidates (e : Election App) (r : AsyncRelation App) : List (App × Nat) :=
  [(r.app, r.remotePromotedClusterCounter.getD 0), (e.app, e.ownCounter)]

/-- `_get_highest_promoted_cluster_counter_value`. -/
def getHighestPromotedClusterCounterValue (e : Election App) : Nat :=
  (e.relations.flatMap e.candidates).foldl
    (fun best c => if best < c.2 then c.2 else best) 0

/-- `get_primary_cluster`. -/
def getPrimaryCluster (e : Election App) : Option App :=
  ((e.relations.flatMap e.candidates).foldl
    (fun (best : Option App × Nat) c => if best.2 < c.2 then (some c.1, c.2) else best)
    (none, 0)).1

/-- `is_primary_cluster`. -/
def isPrimaryCluster [DecidableEq App] (e : Election App) : Bool :=
  e.getPrimaryCluster == some e.app

/-- The counter the other side has published, as last delivered. -/
def seenCounter (e : Election App) : Nat :=
  (e.relation.bind (·.remotePromotedClusterCounter)).getD 0

theorem relation_eq_none_iff {e : Election App} :
    e.relation = none ↔ e.offer = none ∧ e.consumer = none := by
  simp [relation]

/-- Without a relation no cluster is the primary one. -/
theorem getPrimaryCluster_of_relation_none {e : Election App} (h : e.relation = none) :
    e.getPrimaryCluster = none := by
  obtain ⟨app, own, offer, consumer⟩ := e
  cases offer <;> cases consumer <;> simp_all [relation, relations, getPrimaryCluster]

theorem getHighest_of_relation_none {e : Election App} (h : e.relation = none) :
    e.getHighestPromotedClusterCounterValue = 0 := by
  obtain ⟨app, own, offer, consumer⟩ := e
  cases offer <;> cases consumer <;>
    simp_all [relation, relations, getHighestPromotedClusterCounterValue]

/-- The two loops keep the same highest counter, and the loop that names an
application has one as soon as a counter is above zero. -/
theorem foldl_candidates (l : List (App × Nat)) (best : Option App) (n : Nat)
    (h : best.isSome ↔ 0 < n) :
    (l.foldl (fun (best : Option App × Nat) c =>
      if best.2 < c.2 then (some c.1, c.2) else best) (best, n)).1.isSome ↔
      0 < l.foldl (fun best c => if best < c.2 then c.2 else best) n := by
  induction l generalizing best n with
  | nil => exact h
  | cons c l ih =>
      simp only [List.foldl_cons]
      by_cases hc : n < c.2
      · rw [if_pos hc, if_pos hc]
        exact ih (some c.1) c.2 (by simp; omega)
      · rw [if_neg hc, if_neg hc]
        exact ih best n h

/-- A primary cluster is named exactly when some counter is above zero. -/
theorem getPrimaryCluster_isSome_iff (e : Election App) :
    e.getPrimaryCluster.isSome ↔ 0 < e.getHighestPromotedClusterCounterValue :=
  foldl_candidates (e.relations.flatMap e.candidates) none 0 (by simp)

/-! ## One relation -/

/-- There is one replication relation, on either endpoint. -/
def OneRelation (e : Election App) (r : AsyncRelation App) : Prop :=
  (e.offer = some r ∧ e.consumer = none) ∨ (e.offer = none ∧ e.consumer = some r)

section OneRelation

variable {e : Election App} {r : AsyncRelation App}

theorem OneRelation.relation_eq (h : e.OneRelation r) : e.relation = some r := by
  rcases h with ⟨h₁, h₂⟩ | ⟨h₁, h₂⟩ <;> simp [relation, h₁, h₂]

theorem OneRelation.relations_eq (h : e.OneRelation r) : e.relations = [r] := by
  rcases h with ⟨h₁, h₂⟩ | ⟨h₁, h₂⟩ <;> simp [relations, h₁, h₂]

theorem OneRelation.seenCounter_eq (h : e.OneRelation r) :
    e.seenCounter = r.remotePromotedClusterCounter.getD 0 := by
  simp [seenCounter, h.relation_eq]

/-- The highest counter is the higher one of the two. -/
theorem OneRelation.getHighest_eq (h : e.OneRelation r) :
    e.getHighestPromotedClusterCounterValue = max e.seenCounter e.ownCounter := by
  rw [h.seenCounter_eq]
  simp only [getHighestPromotedClusterCounterValue, h.relations_eq, List.flatMap_cons,
    List.flatMap_nil, candidates, List.append_nil, List.foldl_cons, List.foldl_nil]
  split <;> split <;> omega

/-- The primary cluster, by comparing the two counters: a tie goes to the
other application, and two zero counters name none. -/
theorem OneRelation.getPrimaryCluster_eq (h : e.OneRelation r) :
    e.getPrimaryCluster =
      if e.seenCounter < e.ownCounter then some e.app
      else if 0 < e.seenCounter then some r.app else none := by
  rw [h.seenCounter_eq]
  simp only [getPrimaryCluster, h.relations_eq, List.flatMap_cons, List.flatMap_nil,
    candidates, List.append_nil, List.foldl_cons, List.foldl_nil]
  by_cases hseen : 0 < r.remotePromotedClusterCounter.getD 0
  · simp only [if_pos hseen]
    split <;> rfl
  · have hzero : r.remotePromotedClusterCounter.getD 0 = 0 := by omega
    simp only [hzero, Nat.lt_irrefl, if_false]
    split <;> rfl

end OneRelation

end Election

end PostgresqlK8s.AsyncReplication
