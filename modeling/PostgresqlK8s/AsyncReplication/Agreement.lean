import PostgresqlK8s.AsyncReplication.System

/-!
# AsyncReplication.Agreement

The two clusters agree on the primary one, provided that every promotion is
made by a side that has seen the other's latest counter.

The system simulates a `Contest`: a related cluster takes part with its own
counter and the counter it has seen, an accepted promotion is a claim, and a
delivery refreshes a view (`abs_step`).  The side that a cluster names is the
winner in its view (`winner_abs`), so `Contest.inv_step` gives the agreement
on informed runs, and `Contest.tie_of_outdated_claim` the disagreement that
follows a promotion on an outdated view.
-/

namespace PostgresqlK8s.AsyncReplication

open Contest

/-- The part a cluster takes in the contest. -/
def Election.party {App : Type} (e : Election App) : Option Party :=
  e.relation.map fun _ => ⟨e.ownCounter, e.seenCounter⟩

theorem Election.party_of_relation_none {App : Type} {e : Election App}
    (h : e.relation = none) : e.party = none := by
  rw [Election.party, h, Option.map_none]

theorem Election.OneRelation.party_eq {App : Type} {e : Election App} {r : AsyncRelation App}
    (h : e.OneRelation r) :
    e.party = some ⟨e.ownCounter, r.remotePromotedClusterCounter.getD 0⟩ := by
  rw [Election.party, h.relation_eq, Option.map_some, h.seenCounter_eq]

namespace System

/-- The contest that the system is. -/
def abs (s : System) : State := fun X => (s X).party

/-- What an event is in the contest. -/
def label (s : System) : Event → List Op
  | .created _ =>
      if (s .left).relation.isNone && (s .right).relation.isNone then [.join] else []
  | .broken X _ => [.leave X]
  | .createReplication X a => if (s X).acceptsCreateReplication a then [.claim X] else []
  | .promoteToPrimary X force a =>
      if (s X).acceptsPromoteToPrimary force a then [.claim X] else []
  | .deliver X => [.see X]
  | .changed _ _ _ => []

/-- A promotion that goes through is made by a side that has seen the other's
latest counter. -/
def Informed (s : System) : Event → Prop
  | .createReplication X a =>
      (s X).acceptsCreateReplication a → (s X.other).relation.isSome → HasSeenLatest s X
  | .promoteToPrimary X force a =>
      (s X).acceptsPromoteToPrimary force a → (s X.other).relation.isSome → HasSeenLatest s X
  | _ => True

instance (s : System) (e : Event) : Decidable (Informed s e) := by
  unfold Informed
  split <;> infer_instance

/-- What agreement on the primary cluster means: the sides name the same one,
they do not both take themselves for it, nor both for its standby. -/
structure Agreement (s : System) : Prop where
  primary : (s .left).getPrimaryCluster = (s .right).getPrimaryCluster
  notBothPrimary : ¬((s .left).isPrimaryCluster ∧ (s .right).isPrimaryCluster)
  notBothStandby : ¬((s .left).getPrimaryCluster = some .right ∧
    (s .right).getPrimaryCluster = some .left)

/-! ## The simulation -/

section Party

variable {X : Side} {c : Cluster Side}

/-- A promotion counts one past both known counters. -/
theorem party_promote (a : Answers) (h : Shape X c.toElection) (hrel : c.relation.isSome) :
    (c.promote a).party = c.party.map Party.claim := by
  obtain ⟨r, hr⟩ := Option.isSome_iff_exists.mp hrel
  obtain ⟨hone, -, -⟩ := h.oneRelation hr
  have hhighest := hone.getHighest_eq
  rw [hone.seenCounter_eq] at hhighest
  rw [hone.party_eq, Cluster.promote, Cluster.toElection_onAsyncRelationChanged, hhighest]
  generalize hn : max (r.remotePromotedClusterCounter.getD 0) c.ownCounter + 1 = n
  rw [(oneRelation_updatePrimaryClusterData hone n).party_eq, Option.map_some, Party.claim]
  simp only [hn]
  rfl

/-- A refused promotion changes nothing in the contest. -/
theorem party_refuse (force : Bool) (a : Answers) (c : Cluster Side) :
    (c.refuse force a).party = c.party := by
  unfold Cluster.refuse
  split
  · next hrel =>
      have hnone : c.relation = none := Option.isNone_iff_eq_none.mp hrel
      rw [Election.party_of_relation_none hnone]
      refine Election.party_of_relation_none ?_
      unfold Cluster.canPromoteCluster
      split
      · exact hnone
      · split
        · rw [Cluster.toElection_setAppStatus]
          exact hnone
        · exact hnone
  · rfl

theorem party_onAsyncRelationBroken (a : Answers) (c : Cluster Side) :
    (c.onAsyncRelationBroken a).party = none := by
  refine Election.party_of_relation_none ?_
  unfold Cluster.onAsyncRelationBroken
  dsimp only
  split
  · rw [Cluster.toElection_setAppStatus]
    rfl
  · rfl

/-- A new relation starts a contest at zero. -/
theorem party_created (offerer : Side) (h : Shape X c.toElection) (hrel : c.relation = none) :
    (created X offerer c).party = some ⟨0, 0⟩ := by
  obtain ⟨name, hone⟩ := oneRelation_relate (X := X) offerer hrel
  rw [toElection_created, hone.party_eq, ownCounter_relate, h.ownCounter_eq_zero hrel]
  rfl

/-- A delivery changes what a side has seen. -/
theorem party_receive (counter : Option Nat) (h : Shape X c.toElection) :
    (receive counter c).party = c.party.map ({ · with seen := counter.getD 0 }) := by
  rcases h.relation with ⟨h₁, h₂, -⟩ | ⟨r, hone, -, -⟩
  · have hnone : c.relation = none := Election.relation_eq_none_iff.mpr ⟨h₁, h₂⟩
    rw [Election.party_of_relation_none hnone, Option.map_none]
    refine Election.party_of_relation_none (Election.relation_eq_none_iff.mpr ⟨?_, ?_⟩)
    · rw [receive, h₁, Option.map_none]
    · rw [receive, h₂, Option.map_none]
  · rw [hone.party_eq, (oneRelation_receive hone counter).party_eq, Option.map_some]
    rfl

end Party

theorem abs_update (s : System) (X : Side) (c : Cluster Side) :
    abs (Function.update s X c) = Function.update (abs s) X c.party := by
  funext Y
  by_cases hY : Y = X
  · subst hY
    simp [abs]
  · simp [abs, hY]

/-- A cluster whose part in the contest is the same leaves the contest as it
is. -/
theorem abs_update_of_party {s : System} {X : Side} {c : Cluster Side}
    (h : c.party = (s X).party) : abs (Function.update s X c) = abs s := by
  rw [abs_update, h]
  exact Function.update_eq_self X (abs s)

/-- An accepted promotion is a claim in the contest. -/
theorem abs_promote {s : System} (hs : WellShaped s) (X : Side) (a : Answers)
    (hrel : (s X).relation.isSome) :
    abs (Function.update s X ((s X).promote a)) = Contest.step (abs s) (.claim X) := by
  rw [abs_update, party_promote a (hs X) hrel]
  rfl

/-- Every event is matched by what it is in the contest. -/
theorem abs_step (s : System) (e : Event) (hs : WellShaped s) :
    abs (step s e) = Machine.run Contest.step (abs s) (label s e) := by
  cases e with
  | created offerer =>
      simp only [step, label]
      split
      · next hnone =>
          simp only [Bool.and_eq_true, Option.isNone_iff_eq_none] at hnone
          have hrel : ∀ X, (s X).relation = none := Side.forall_iff.mpr hnone
          have hout : ∀ X, abs s X = none := fun X =>
            Election.party_of_relation_none (hrel X)
          rw [Machine.run_cons, Machine.run_nil, Contest.step, if_pos ⟨hout _, hout _⟩]
          funext X
          exact party_created offerer (hs X) (hrel X)
      · rfl
  | broken X a =>
      rw [step, abs_update, party_onAsyncRelationBroken]
      rfl
  | createReplication X a =>
      rw [step, Cluster.onCreateReplication_eq, label]
      split
      · next hacc =>
          simp only [Cluster.acceptsCreateReplication, Bool.and_eq_true] at hacc
          exact abs_promote hs X a (acceptsReplicationChange_relation hacc.2).1
      · exact abs_update_of_party rfl
  | promoteToPrimary X force a =>
      rw [step, Cluster.promoteToPrimary_eq, label]
      split
      · next hacc =>
          simp only [Cluster.acceptsPromoteToPrimary, Bool.and_eq_true] at hacc
          exact abs_promote hs X a (acceptsReplicationChange_relation hacc.2).1
      · split
        · exact abs_update_of_party (party_refuse force a (s X))
        · exact abs_update_of_party rfl
  | deliver X =>
      simp only [step, label, Machine.run_cons, Machine.run_nil]
      cases hother : (s X.other).relation with
      | none =>
          have habs : abs s X.other = none := Election.party_of_relation_none hother
          simp only [Contest.step, habs]
          cases abs s X <;> rfl
      | some r =>
          obtain ⟨hone, -, hpub⟩ := (hs X.other).oneRelation hother
          have habs : abs s X.other = some ⟨(s X.other).ownCounter, (s X.other).seenCounter⟩ := by
            rw [abs, Election.party, hother, Option.map_some]
          rw [abs_update, party_receive _ (hs X), hpub, Contest.step, habs]
          cases hX : (s X).party with
          | none =>
              have habsX : abs s X = none := hX
              simp only [habsX, Option.map_none]
              rw [← habsX]
              exact Function.update_eq_self X (abs s)
          | some p =>
              have habsX : abs s X = some p := hX
              simp only [habsX, Option.map_some]
  | changed X u a =>
      refine abs_update_of_party ?_
      rw [Cluster.toElection_onAsyncRelationChanged]

/-! ## What the contest says about the clusters -/

/-- A cluster names the winner in its view. -/
theorem winner_abs {s : System} (hs : WellShaped s) (X : Side) :
    winner (abs s) X = (s X).getPrimaryCluster := by
  cases hrel : (s X).relation with
  | none =>
      have habs : abs s X = none := Election.party_of_relation_none hrel
      rw [Election.getPrimaryCluster_of_relation_none hrel, winner, habs]
      rfl
  | some r =>
      obtain ⟨hone, happ, -⟩ := (hs X).oneRelation hrel
      have habs : abs s X = some ⟨(s X).ownCounter, (s X).seenCounter⟩ := by
        rw [abs, Election.party, hrel, Option.map_some]
      rw [hone.getPrimaryCluster_eq, winner, habs, Option.bind_some, Party.winner, happ,
        (hs X).app]

/-- The counter a related cluster has published is the one it takes part
with. -/
theorem abs_eq_some {s : System} (hs : WellShaped s) {X : Side} {r : AsyncRelation Side}
    (hrel : (s X).relation = some r) :
    abs s X = some ⟨r.promotedClusterCounter.getD 0, r.remotePromotedClusterCounter.getD 0⟩ := by
  obtain ⟨hone, -, hpub⟩ := (hs X).oneRelation hrel
  rw [hpub]
  exact hone.party_eq

theorem abs_eq_none_iff {s : System} {X : Side} : abs s X = none ↔ (s X).relation = none := by
  rw [abs, Election.party, Option.map_eq_none_iff]

/-- Having seen the latest counter is being up to date in the contest, while
both sides are in it. -/
theorem upToDate_iff {s : System} (hs : WellShaped s) {X : Side}
    (hrel : (s X).relation.isSome) (hother : (s X.other).relation.isSome) :
    UpToDate (abs s) X ↔ HasSeenLatest s X := by
  obtain ⟨r, hr⟩ := Option.isSome_iff_exists.mp hrel
  obtain ⟨r', hr'⟩ := Option.isSome_iff_exists.mp hother
  simp only [UpToDate, abs_eq_some hs hr, abs_eq_some hs hr', HasSeenLatest, hr, hr',
    Option.some.injEq]
  constructor
  · intro h
    exact h _ _ rfl rfl
  · rintro h p q rfl rfl
    exact h

/-- A side that does not take itself for the primary cluster may claim. -/
theorem mayClaim_of_not_isPrimaryCluster {s : System} (hs : WellShaped s) {X : Side}
    (h : (s X).isPrimaryCluster = false) : MayClaim (abs s) X := by
  intro p hp
  by_contra hlt
  have hwin : winner (abs s) X = some X := by
    rw [winner, hp, Option.bind_some, Party.winner, if_pos (by omega)]
  rw [winner_abs hs] at hwin
  simp [Election.isPrimaryCluster, hwin, (hs X).app] at h

/-- What an informed event is in the contest is legal and informed there. -/
theorem along_label {s : System} {e : Event} (hs : WellShaped s) (he : Informed s e) :
    Machine.Along Contest.step (fun t op => Legal t op ∧ Contest.Informed t op)
      (abs s) (label s e) := by
  have hclaim (X : Side) (force : Bool) (a : Answers)
      (hacc : (s X).acceptsReplicationChange force a = true)
      (hseen : (s X.other).relation.isSome → HasSeenLatest s X) :
      Legal (abs s) (.claim X) ∧ Contest.Informed (abs s) (.claim X) := by
    obtain ⟨hrel, hprimary⟩ := acceptsReplicationChange_relation hacc
    refine ⟨mayClaim_of_not_isPrimaryCluster hs hprimary, ?_⟩
    cases hother : (s X.other).relation with
    | none =>
        intro p q _ hq
        rw [abs_eq_none_iff.mpr hother] at hq
        contradiction
    | some r =>
        have hsome : (s X.other).relation.isSome = true := by rw [hother]; rfl
        exact (upToDate_iff hs hrel hsome).mpr (hseen hsome)
  cases e with
  | created offerer =>
      simp only [label]
      split
      · exact ⟨⟨trivial, trivial⟩, trivial⟩
      · trivial
  | broken X a => exact ⟨⟨trivial, trivial⟩, trivial⟩
  | createReplication X a =>
      simp only [label]
      split
      · next hacc =>
          have hacc' := hacc
          simp only [Cluster.acceptsCreateReplication, Bool.and_eq_true] at hacc'
          exact ⟨hclaim X false a hacc'.2 (he hacc), trivial⟩
      · trivial
  | promoteToPrimary X force a =>
      simp only [label]
      split
      · next hacc =>
          have hacc' := hacc
          simp only [Cluster.acceptsPromoteToPrimary, Bool.and_eq_true] at hacc'
          exact ⟨hclaim X force a hacc'.2 (he hacc), trivial⟩
      · trivial
  | deliver X => exact ⟨⟨trivial, trivial⟩, trivial⟩
  | changed X u a => trivial

/-! ## Agreement -/

/-- The contest invariant holds after every informed run. -/
theorem inv_run {s : System} (hinit : Initial s) {es : List Event}
    (hinformed : Machine.Along step Informed s es) :
    WellShaped (Machine.run step s es) ∧ Inv (abs (Machine.run step s es)) := by
  have hshape := hinit.wellShaped
  refine ⟨Machine.run_of_step WellShaped (fun t e ht => wellShaped_step ht e) es hshape, ?_⟩
  have hstart : Inv (abs s) := by
    have hout : abs s = fun _ => none := by
      funext X
      exact abs_eq_none_iff.mpr (Election.relation_eq_none_iff.mpr (hinit.unrelated X))
    rw [hout]
    exact inv_init
  have htrace := Machine.along_trace (fun t e ht => wellShaped_step ht e) abs_step
    (fun t e ht he => along_label ht he) hshape hinformed
  rw [Machine.abs_run (fun t e ht => wellShaped_step ht e) abs_step es hshape]
  exact Machine.run_of_along Inv (fun t op ht hop => Contest.inv_step ht hop.1 hop.2) hstart
    htrace

/-- Sides that name the same primary cluster agree in every sense. -/
theorem Agreement.of_primary {s : System} (hs : WellShaped s)
    (h : (s .left).getPrimaryCluster = (s .right).getPrimaryCluster) : Agreement s := by
  refine ⟨h, ?_, ?_⟩
  · rintro ⟨hl, hr⟩
    simp only [Election.isPrimaryCluster, beq_iff_eq, (hs _).app] at hl hr
    rw [← h, hl] at hr
    exact absurd (Option.some.inj hr) (by decide)
  · rintro ⟨hl, hr⟩
    rw [← h, hl] at hr
    exact absurd (Option.some.inj hr) (by decide)

/-- Of two related sides with up-to-date views, agreement on the primary
cluster is the absence of a tie. -/
theorem getPrimaryCluster_agree_iff {s : System} (hs : WellShaped s)
    (hseen : ∀ X, HasSeenLatest s X) (hrel : ∀ X, (s X).relation.isSome) :
    (s .left).getPrimaryCluster = (s .right).getPrimaryCluster ↔ NoTie (abs s) := by
  obtain ⟨r, hr⟩ := Option.isSome_iff_exists.mp (hrel .left)
  obtain ⟨r', hr'⟩ := Option.isSome_iff_exists.mp (hrel .right)
  have hp := abs_eq_some hs hr
  have hq := abs_eq_some hs hr'
  have hl := (upToDate_iff hs (hrel .left) (hrel .right)).mpr (hseen .left)
  have hr := (upToDate_iff hs (hrel .right) (hrel .left)).mpr (hseen .right)
  rw [← winner_abs hs, ← winner_abs hs, winner_agree_iff hp hq hl hr, NoTie, hp, hq]
  simp only [Option.some.injEq]
  constructor
  · rintro h p q rfl rfl
    exact h
  · intro h
    exact h _ _ rfl rfl

/-- Sides that have seen the latest counters are both related or both
unrelated. -/
theorem HasSeenLatest.relation_isSome {s : System} {X : Side} (h : HasSeenLatest s X) :
    (s X).relation.isSome = (s X.other).relation.isSome := by
  unfold HasSeenLatest at h
  cases hX : (s X).relation <;> cases hother : (s X.other).relation <;> simp_all

/-- **Agreement on one primary cluster.**  Where every promotion is made by a
side that has seen the other's latest counter, two sides that have both seen
the latest counters agree. -/
theorem primary_agreement {s : System} (hinit : Initial s) (es : List Event)
    (hinformed : Machine.Along step Informed s es)
    (hseen : ∀ X, HasSeenLatest (Machine.run step s es) X) :
    Agreement (Machine.run step s es) := by
  obtain ⟨hshape, hinv⟩ := inv_run hinit hinformed
  refine Agreement.of_primary hshape ?_
  generalize Machine.run step s es = t at hshape hinv hseen
  have hsame : (t .left).relation.isSome = (t .right).relation.isSome :=
    (hseen .left).relation_isSome
  cases hleft : (t .left).relation.isSome with
  | true =>
      refine (getPrimaryCluster_agree_iff hshape hseen fun X => ?_).mpr hinv.noTie
      cases X
      · exact hleft
      · rw [← hsame, hleft]
  | false =>
      have hright : (t .right).relation.isSome = false := by rw [← hsame, hleft]
      rw [Election.getPrimaryCluster_of_relation_none (by simpa using hleft),
        Election.getPrimaryCluster_of_relation_none (by simpa using hright)]

/-- Two clusters of one unit each. -/
def newSystem : System := fun X =>
  { app := X
    promotedClusterCounter := none
    offer := none
    consumer := none
    leader := 0
    units := [0]
    clusterInitialised := true
    appStatus := .active
    unit := fun _ => {} }

/-- Everything is found and works; only a standby cluster has a standby
leader. -/
def answers (standbyLeader : Bool) : Answers where
  memberStarted := true
  standbyLeader := standbyLeader
  standbyLeaderRunning := true
  standbyPromoted := true
  canConnect := true
  serviceAdded := true
  pgdataExists := true
  secretFound := true
  systemIdentifierFound := true
  leaderAnnotationFixed := false
  unitAddresses := [true]
  primaryReachable := true

theorem newSystem_initial : Initial newSystem :=
  ⟨fun _ => rfl, fun _ => ⟨rfl, rfl⟩, fun _ => rfl, fun _ => rfl, fun _ _ => rfl⟩

/-- The left side becomes the primary cluster; then the right one is promoted
with its view up to date. -/
def switchover : List Event :=
  [.created .left, .createReplication .left (answers false), .deliver .right,
    .changed .right 0 (answers true), .promoteToPrimary .right false (answers true),
    .deliver .left]

/-- The clusters agree after the switchover. -/
theorem primary_agreement_switchover : Agreement (Machine.run step newSystem switchover) :=
  primary_agreement newSystem_initial switchover (by decide) (by decide)

/-- Left is the primary cluster and right follows it.  The relation is broken,
which leaves right in the read-only mode, and created again; left is promoted
a second time, and right, which may be promoted without a primary cluster
because of its status, before it has seen that. -/
def recreation : List Event :=
  [.created .left, .createReplication .left (answers false), .deliver .right,
    .changed .right 0 (answers true), .broken .left (answers false),
    .broken .right (answers true), .created .left, .createReplication .left (answers false),
    .promoteToPrimary .right false (answers true), .deliver .left, .deliver .right]

/-- After `recreation` both sides have seen the latest counter, and each takes
itself for the standby of the other. -/
theorem recreation_disagreement :
    Initial newSystem ∧ (∀ X, HasSeenLatest (Machine.run step newSystem recreation) X) ∧
      (Machine.run step newSystem recreation .left).getPrimaryCluster = some .right ∧
      (Machine.run step newSystem recreation .right).getPrimaryCluster = some .left := by
  refine ⟨newSystem_initial, ?_, ?_, ?_⟩ <;> decide

/-! ## Promotions on an outdated view -/

/-- A promotion that is not informed is a legal claim by a related side that
has not seen the counter of a related other side. -/
theorem label_of_not_informed {s : System} (hs : WellShaped s) {e : Event}
    (he : ¬ Informed s e) :
    ∃ X, label s e = [.claim X] ∧ MayClaim (abs s) X ∧ (s X).relation.isSome ∧
      (s X.other).relation.isSome ∧ ¬ HasSeenLatest s X := by
  cases e with
  | createReplication X a =>
      simp only [Informed, Classical.not_imp] at he
      obtain ⟨hacc, hother, hold⟩ := he
      have hchange := hacc
      simp only [Cluster.acceptsCreateReplication, Bool.and_eq_true] at hchange
      obtain ⟨hrel, hprimary⟩ := acceptsReplicationChange_relation hchange.2
      exact ⟨X, if_pos hacc, mayClaim_of_not_isPrimaryCluster hs hprimary, hrel, hother, hold⟩
  | promoteToPrimary X force a =>
      simp only [Informed, Classical.not_imp] at he
      obtain ⟨hacc, hother, hold⟩ := he
      have hchange := hacc
      simp only [Cluster.acceptsPromoteToPrimary, Bool.and_eq_true] at hchange
      obtain ⟨hrel, hprimary⟩ := acceptsReplicationChange_relation hchange.2
      exact ⟨X, if_pos hacc, mayClaim_of_not_isPrimaryCluster hs hprimary, hrel, hother, hold⟩
  | created offerer => exact absurd trivial he
  | broken X a => exact absurd trivial he
  | deliver X => exact absurd trivial he
  | changed X u a => exact absurd trivial he

/-- A related side takes part in the contest. -/
theorem exists_party {s : System} {X : Side} (h : (s X).relation.isSome) :
    ∃ p, abs s X = some p := by
  obtain ⟨r, hr⟩ := Option.isSome_iff_exists.mp h
  exact ⟨_, by rw [abs, Election.party, hr, Option.map_some]⟩

theorem relation_isSome_of_party {s : System} {X : Side} {p : Party} (h : abs s X = some p) :
    (s X).relation.isSome := by
  by_contra hnone
  rw [abs_eq_none_iff.mpr (by simpa using hnone)] at h
  contradiction

/-- Two sides that see each other have both seen the latest counters, and agree
unless these make a tie. -/
theorem latest_of_deliveries {t : System} (hshape : WellShaped t) {p q : Party}
    (hp : abs t .left = some p) (hq : abs t .right = some q) :
    (∀ X, HasSeenLatest (Machine.run step t [.deliver .left, .deliver .right]) X) ∧
      ((Machine.run step t [.deliver .left, .deliver .right] .left).getPrimaryCluster =
        (Machine.run step t [.deliver .left, .deliver .right] .right).getPrimaryCluster →
        NoTie (abs t)) := by
  have hdeliver : abs (Machine.run step t [.deliver .left, .deliver .right]) =
      Machine.run Contest.step (abs t) [.see .left, .see .right] :=
    Machine.abs_run (fun t e ht => wellShaped_step ht e) abs_step _ hshape
  have hshape' := Machine.run_of_step WellShaped (fun t e ht => wellShaped_step ht e)
    [.deliver .left, .deliver .right] hshape
  generalize Machine.run step t [.deliver .left, .deliver .right] = t' at hdeliver hshape'
  obtain ⟨hleft, hright⟩ := run_see_see hp hq
  rw [← hdeliver] at hleft hright
  have hrel (Y : Side) : (t' Y).relation.isSome := by
    cases Y
    · exact relation_isSome_of_party hleft
    · exact relation_isSome_of_party hright
  have hview (Y : Side) : HasSeenLatest t' Y := by
    refine (upToDate_iff hshape' (hrel Y) (hrel Y.other)).mp ?_
    intro a b ha hb
    cases Y
    · rw [hleft] at ha
      rw [Side.other, hright] at hb
      cases ha
      cases hb
      rfl
    · rw [hright] at ha
      rw [Side.other, hleft] at hb
      cases ha
      cases hb
      rfl
  refine ⟨hview, fun hagree => ?_⟩
  have hnoTie := (getPrimaryCluster_agree_iff hshape' hview hrel).mp hagree
  intro a b ha hb
  rw [hp] at ha
  rw [hq] at hb
  cases ha
  cases hb
  have hzero := hnoTie _ _ hleft hright
  exact hzero

/-- The first promotion of a run that is made on an outdated view leaves the
two sides in disagreement once both have seen the latest counters. -/
theorem disagreement_of_outdated_promotion {s : System} (hinit : Initial s) {es : List Event}
    (hinformed : Machine.Along step Informed s es) {e : Event}
    (he : ¬ Informed (Machine.run step s es) e) :
    (∀ X, HasSeenLatest (Machine.run step s (es ++ [e, .deliver .left, .deliver .right])) X) ∧
      (Machine.run step s (es ++ [e, .deliver .left, .deliver .right]) .left).getPrimaryCluster ≠
        (Machine.run step s (es ++ [e, .deliver .left, .deliver .right])
          .right).getPrimaryCluster := by
  obtain ⟨hshape, hinv⟩ := inv_run hinit hinformed
  rw [Machine.run_append]
  generalize Machine.run step s es = t at hshape hinv he
  obtain ⟨X, hlabel, hlegal, hX, hother, hold⟩ := label_of_not_informed hshape he
  obtain ⟨p, hp⟩ := exists_party hX
  obtain ⟨q, hq⟩ := exists_party hother
  have hseen : p.seen ≠ q.own := by
    intro h
    refine hold ((upToDate_iff hshape hX hother).mp ?_)
    intro p' q' hp' hq'
    rw [hp] at hp'
    rw [hq] at hq'
    cases hp'
    cases hq'
    exact h
  -- the claim makes a tie, and the two deliveries leave it
  have htie := not_noTie_of_outdated_claim hinv hp hq hlegal hseen
  have hclaim : abs (step t e) = Contest.step (abs t) (.claim X) := by
    rw [abs_step t e hshape, hlabel]
    rfl
  rw [← hclaim] at htie
  have hboth : ∃ p q, abs (step t e) .left = some p ∧ abs (step t e) .right = some q := by
    by_contra hnot
    exact htie fun p q hp hq => absurd ⟨p, q, hp, hq⟩ hnot
  obtain ⟨p₁, q₁, hp₁, hq₁⟩ := hboth
  rw [Machine.run_cons]
  obtain ⟨hview, hagree⟩ := latest_of_deliveries (wellShaped_step hshape e) hp₁ hq₁
  exact ⟨hview, fun h => htie (hagree h)⟩

end System

end PostgresqlK8s.AsyncReplication
