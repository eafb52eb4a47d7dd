import PostgresqlK8s.LegacyDb.Rights

/-!
# LegacyDb.AllowedUnits

The list of units that a legacy relation publishes, and what a departure makes
of it.

The list is written under `allowed-units` when a relation is set up, and the
departed handler removes the unit from another key, `allowed_units`, which
nothing else reads or writes.  So a departure leaves the published list as it
was, and it names the units that the relation had when its set-up was last
completed (`mem_allowedUnits_iff`), but for those of an application whose name
starts with this one's.  `follows_departure_iff` says when this happens to be
right after a departure.
-/

namespace PostgresqlK8s.LegacyDb

open EarlyExit (reached reached_cons_of_pos reached_cons_of_neg reached_congr mem_of_mem_reached)

/-! ## what is published -/

namespace LegacyRelation

variable {r : LegacyRelation} {app : String} {a : SetUpAnswers} {id : Nat} {database : String}

/-- Both databags publish the list of the units that `r₀` has. -/
def Lists (app : String) (r₀ r : LegacyRelation) : Prop :=
  r.localAppData.getD "allowed-units" "" = r₀.getAllowedUnits app ∧
    r.localUnitData.getD "allowed-units" "" = r₀.getAllowedUnits app

theorem getD_allowedUnits_update (data : Databag String) :
    (data.update (r.updates app a id database)).getD "allowed-units" "" =
      r.getAllowedUnits app := by
  have hkeys : "allowed-units" ∉ ((r.updates app a id database).drop 2).map Prod.fst := by
    have hdrop : (r.updates app a id database).drop 2 =
        ((r.updates app a id database).take 10).drop 2 ++ versionUpdates a := rfl
    rw [hdrop, List.map_append, List.mem_append, not_or]
    exact ⟨by simp [updates], fun hmem => absurd (eq_of_mem_versionUpdates hmem) (by decide)⟩
  have hsplit : r.updates app a id database = (r.updates app a id database).take 1 ++
      ("allowed-units", r.getAllowedUnits app) :: (r.updates app a id database).drop 2 := rfl
  rw [Databag.getD, hsplit, Databag.get_update_of_mem _ _ hkeys]
  split
  · next hempty => rw [hempty, Option.getD_none]
  · rfl

/-- A completed set-up publishes the list of the units that the relation has
then. -/
theorem lists_published {config : Extensions.PluginConfig} (h : r.completes config a = true) :
    Lists app r (r.published app config a id) := by
  obtain ⟨database, hpublished⟩ := published_of_completes app id h
  rw [hpublished, Lists, localAppData_publish, localUnitData_publish, getD_allowedUnits_update,
    getD_allowedUnits_update]
  exact ⟨rfl, rfl⟩

end LegacyRelation

namespace Charm

variable {c : Charm} {admin : Bool}

/-- A relation whose set-up the loop reaches and does not complete is not
published, unless the loop raises. -/
theorem published_of_reached {a : Nat → SetUpAnswers} {ids : List Nat} {id : Nat}
    (hnodup : ids.Nodup) (hresult : (c.setUpRelations admin a ids).1 ≠ .raised)
    (hreached : id ∈ reached (c.completes a) ids) (hnot : ¬ c.completes a id = true) :
    (c.relation id).published c.app c.config (a id) id = c.relation id := by
  induction ids generalizing c with
  | nil => contradiction
  | cons x ids ih =>
      rw [List.nodup_cons] at hnodup
      by_cases hx : c.completes a x = true
      · have hne {id' : Nat} (hid' : id' ∈ ids) : id' ≠ x := by
          rintro rfl
          exact hnodup.1 hid'
        obtain ⟨status, hset⟩ := setUpRelation_snd admin (a x) x c
        rw [setUpRelations_of_completes admin ids hx] at hresult
        generalize (c.setUpRelation admin (a x) x).2 = c₁ at hresult hset
        have hsame {id' : Nat} (hid' : id' ≠ x) : c₁.relation id' = c.relation id' := by
          rw [hset]
          exact Function.update_of_ne hid' _ _
        have hcompletes {id' : Nat} (hid' : id' ≠ x) : c₁.completes a id' = c.completes a id' := by
          rw [completes, completes, hsame hid', hset]
        rw [reached_cons_of_pos ids hx, List.mem_cons] at hreached
        rcases hreached with rfl | hreached
        · exact absurd hx hnot
        · have hid : id ≠ x := hne (mem_of_mem_reached hreached)
          rw [← reached_congr fun id' hid' => hcompletes (hne hid')] at hreached
          have hrest := ih hnodup.2 hresult hreached (by rwa [hcompletes hid])
          rw [hsame hid, hset] at hrest
          exact hrest
      · rw [reached_cons_of_neg ids hx, List.mem_singleton] at hreached
        subst hreached
        rw [setUpRelations_of_not_completes ids hx] at hresult
        cases hfst : (c.setUpRelation admin (a id) id).1 with
        | completed => exact absurd ((setUpRelation_fst admin (a id) id c).mp hfst) hx
        | refused => exact published_of_refused hfst
        | raised => exact absurd hfst hresult

end Charm

/-! ## the last completed set-up -/

instance (v : ConfigValidation) : Decidable (v = .valid .updated) :=
  match v with
  | .valid .updated => .isTrue rfl
  | .valid (.restarted _ _) => .isFalse (by simp)
  | .valid .refused => .isFalse (by simp)
  | .valid .raised => .isFalse (by simp)
  | .unreachable => .isFalse (by simp)
  | .invalid => .isFalse (by simp)

instance (a : ConfigChangedAnswers) (c : Charm) : Decidable (c.Unblocks a) :=
  decidable_of_iff
    (a.isClusterInitialised = true ∧ a.upgradeIdle = true ∧ a.validation = .valid .updated ∧
      a.isLeader = true ∧ c.unitStatus.message = extensionsBlockingMessage ∧
        (a.enableDisable.hasPrimary = false ∨
          (Extensions.collectExtensions c.config).isSome = true ∧
            a.enableDisable.outcome ≠ .dependentObjectsStillExist))
    ⟨fun ⟨h₁, h₂, h₃, h₄, h₅, h₆⟩ => ⟨h₁, h₂, h₃, h₄, h₅, h₆⟩,
      fun h => ⟨h.initialised, h.idle, h.updated, h.leader, h.blocked, h.extensions⟩⟩

/-- The relations whose set-up an event completes. -/
def setUps (c : Charm) : Event → List Nat
  | .relationChanged id a =>
      if c.ReachesSetUp a ∧ (c.relation id).completes c.config a.setUp = true then [id] else []
  | .configChanged a =>
      if c.Unblocks a ∧ (c.setUpRelations false a.setUp c.relationIds).1 ≠ .raised then
        (reached (c.completes a.setUp) c.relationIds).filter (c.completes a.setUp)
      else []
  | _ => []

/-- The charm with the units that each relation had when its set-up was last
completed, none before. -/
structure Observed where
  charm : Charm
  lastSetUp : Nat → List UnitName

namespace Observed

/-- Nothing was set up yet. -/
def start (c : Charm) : Observed := ⟨c, fun _ => []⟩

/-- The charm takes a step, and what it sets up is noted. -/
def step (o : Observed) (e : Event) : Observed where
  charm := LegacyDb.step o.charm e
  lastSetUp id := if id ∈ setUps o.charm e then (o.charm.relation id).units else o.lastSetUp id

/-- Every relation lists the units of its last completed set-up. -/
def Lists (o : Observed) : Prop :=
  ∀ id, ∃ r₀ : LegacyRelation, r₀.units = o.lastSetUp id ∧
    LegacyRelation.Lists o.charm.app r₀ (o.charm.relation id)

end Observed

/-! ## one step -/

section Step

variable {c : Charm}

/-- The handler of a relation publishes it if it completes its set-up, and
writes to no databag otherwise. -/
theorem relation_onRelationChanged (a : RelationChangedAnswers) (id : Nat) :
    (c.onRelationChanged a id).relation =
      if c.ReachesSetUp a ∧ (c.relation id).completes c.config a.setUp = true then
        Function.update c.relation id ((c.relation id).published c.app c.config a.setUp id)
      else c.relation := by
  by_cases hreaches : c.ReachesSetUp a
  · obtain ⟨status, hset⟩ := Charm.setUpRelation_snd (c.isAdmin id) a.setUp id c
    have hcompletes := Charm.setUpRelation_fst (c.isAdmin id) a.setUp id c
    have hrefused : (c.setUpRelation (c.isAdmin id) a.setUp id).1 = .refused →
        (c.relation id).published c.app c.config a.setUp id = c.relation id :=
      Charm.published_of_refused
    rw [Charm.onRelationChanged_of_reachesSetUp hreaches]
    cases hrun : c.setUpRelation (c.isAdmin id) a.setUp id with
    | mk result c' =>
        rw [hrun] at hset hcompletes hrefused
        dsimp only at hset hcompletes hrefused
        cases result with
        | completed =>
            rw [if_pos ⟨hreaches, hcompletes.mp rfl⟩, hset]
        | refused =>
            rw [if_neg fun h => absurd (hcompletes.mpr h.2) (by decide)]
            dsimp only
            rw [hset]
            dsimp only
            rw [hrefused rfl, Function.update_eq_self]
        | raised =>
            rw [if_neg fun h => absurd (hcompletes.mpr h.2) (by decide)]
            rfl
  · obtain ⟨status, heq⟩ := Charm.onRelationChanged_of_not_reachesSetUp hreaches id
    rw [heq, if_neg fun h => hreaches h.1]
    rfl

theorem mem_setUps_relationChanged {a : RelationChangedAnswers} {id id' : Nat} :
    id' ∈ setUps c (.relationChanged id a) ↔ id' = id ∧ c.ReachesSetUp a ∧
      (c.relation id).completes c.config a.setUp = true := by
  rw [setUps]
  split
  · next h => simp [h]
  · next h => simp [h]

theorem mem_setUps_configChanged {a : ConfigChangedAnswers} {id : Nat} :
    id ∈ setUps c (.configChanged a) ↔ c.Unblocks a ∧
      (c.setUpRelations false a.setUp c.relationIds).1 ≠ .raised ∧
        id ∈ reached (c.completes a.setUp) c.relationIds ∧ c.completes a.setUp id = true := by
  rw [setUps]
  split
  · next h => rw [List.mem_filter, ← and_assoc, iff_true_intro h, true_and]
  · next h => rw [← and_assoc, iff_false_intro h, false_and, iff_false_intro List.not_mem_nil]

/-- The configuration handler publishes the relations whose set-up it
completes, unless its loop raises, and writes to no other databag. -/
theorem relation_onConfigChanged (a : ConfigChangedAnswers) (id : Nat) :
    (c.onConfigChanged a).relation id = if id ∈ setUps c (.configChanged a)
      then (c.relation id).published c.app c.config (a.setUp id) id else c.relation id := by
  by_cases hunblocks : c.Unblocks a
  · have hnodup : c.relationIds.Nodup := c.nodup
    obtain ⟨status, hset⟩ := Charm.setUpRelations_snd false a.setUp c hnodup
    have hunpublished : (c.setUpRelations false a.setUp c.relationIds).1 ≠ .raised →
        id ∈ reached (c.completes a.setUp) c.relationIds → ¬ c.completes a.setUp id = true →
          (c.relation id).published c.app c.config (a.setUp id) id = c.relation id :=
      Charm.published_of_reached hnodup
    have hmem : id ∈ setUps c (.configChanged a) ↔ c.Unblocks a ∧
        (c.setUpRelations false a.setUp c.relationIds).1 ≠ .raised ∧
          id ∈ reached (c.completes a.setUp) c.relationIds ∧ c.completes a.setUp id = true :=
      mem_setUps_configChanged
    rw [Charm.onConfigChanged_of_unblocks hunblocks]
    cases hrun : c.setUpRelations false a.setUp c.relationIds with
    | mk result c' =>
        rw [hrun] at hset hunpublished hmem
        dsimp only at hset hunpublished hmem
        have hkept (hresult : result ≠ .raised) : c'.relation id =
            if id ∈ setUps c (.configChanged a)
              then (c.relation id).published c.app c.config (a.setUp id) id
              else c.relation id := by
          rw [hset]
          dsimp only
          by_cases hreached : id ∈ reached (c.completes a.setUp) c.relationIds
          · rw [if_pos hreached]
            by_cases hcompletes : c.completes a.setUp id = true
            · rw [if_pos (hmem.mpr ⟨hunblocks, hresult, hreached, hcompletes⟩)]
            · rw [if_neg fun h => hcompletes (hmem.mp h).2.2.2,
                hunpublished hresult hreached hcompletes]
          · rw [if_neg hreached, if_neg fun h => hreached (hmem.mp h).2.2.1]
        cases result with
        | completed => exact hkept (by decide)
        | refused => exact hkept (by decide)
        | raised =>
            rw [if_neg fun h => (hmem.mp h).2.1 rfl]
            rfl
  · obtain ⟨status, heq, -⟩ := Charm.onConfigChanged_of_not_unblocks hunblocks
    rw [heq, if_neg fun h => hunblocks (mem_setUps_configChanged.mp h).1]
    rfl

/-- Changing something else of a relation leaves the lists as they were. -/
theorem lists_modifyRelation {id id' : Nat} {f : LegacyRelation → LegacyRelation}
    {r₀ : LegacyRelation} (h : LegacyRelation.Lists c.app r₀ (c.relation id))
    (hf : ∀ r, LegacyRelation.Lists c.app r₀ r → LegacyRelation.Lists c.app r₀ (f r)) :
    LegacyRelation.Lists c.app r₀ ((c.modifyRelation id' f).relation id) := by
  by_cases hid : id = id'
  · subst hid
    rw [Charm.relation_modifyRelation_self]
    exact hf _ h
  · rw [Charm.relation_modifyRelation_of_ne c f hid]
    exact h

/-- The departed handler edits another key than the one that is published. -/
theorem lists_set_allowed_units {r₀ r : LegacyRelation} (names : String)
    (h : LegacyRelation.Lists c.app r₀ r) :
    LegacyRelation.Lists c.app r₀ { r with
      localAppData := r.localAppData.set "allowed_units" names
      localUnitData := r.localUnitData.set "allowed_units" names } := by
  have hkey : "allowed-units" ≠ "allowed_units" := by decide
  rw [LegacyRelation.Lists]
  dsimp only
  rw [Databag.getD_set_of_ne _ _ _ hkey, Databag.getD_set_of_ne _ _ _ hkey]
  exact h

/-- What an event makes of the list of a relation: a completed set-up replaces
it, and everything else leaves it as it was. -/
theorem lists_step (e : Event) (id : Nat) (r₀ : LegacyRelation)
    (h : LegacyRelation.Lists c.app r₀ (c.relation id)) :
    LegacyRelation.Lists c.app (if id ∈ setUps c e then c.relation id else r₀)
      ((step c e).relation id) := by
  cases e with
  | delivered id' units appData unitData =>
      have hmem : id ∉ setUps c (.delivered id' units appData unitData) := List.not_mem_nil
      rw [if_neg hmem, step]
      exact lists_modifyRelation h fun r hr => hr
  | configured config => exact h
  | relationChanged id' a =>
      rw [step, relation_onRelationChanged]
      simp only [mem_setUps_relationChanged]
      by_cases hdone : c.ReachesSetUp a ∧ (c.relation id').completes c.config a.setUp = true
      · rw [if_pos hdone]
        by_cases hid : id = id'
        · subst hid
          rw [if_pos ⟨rfl, hdone⟩, Function.update_self]
          exact LegacyRelation.lists_published hdone.2
        · rw [if_neg fun hboth => hid hboth.1, Function.update_of_ne hid]
          exact h
      · rw [if_neg hdone, if_neg fun hboth => hdone hboth.2]
        exact h
  | relationDeparted id' departing a =>
      have hmem : id ∉ setUps c (.relationDeparted id' departing a) := List.not_mem_nil
      rw [if_neg hmem, step]
      unfold Charm.onRelationDeparted
      split
      · exact h
      · cases departing with
        | self => exact h
        | ownApp => exact h
        | remote u =>
            dsimp only
            split
            · exact h
            · exact lists_modifyRelation h fun r hr => lists_set_allowed_units _ hr
  | configChanged a =>
      rw [step, relation_onConfigChanged]
      by_cases hmem : id ∈ setUps c (.configChanged a)
      · rw [if_pos hmem, if_pos hmem]
        exact LegacyRelation.lists_published (mem_setUps_configChanged.mp hmem).2.2.2
      · rw [if_neg hmem, if_neg hmem]
        exact h

end Step

namespace Observed

/-- One event keeps this. -/
theorem lists_step (o : Observed) (e : Event) (h : o.Lists) : (o.step e).Lists := by
  intro id
  obtain ⟨r₀, hunits, hlists⟩ := h id
  refine ⟨if id ∈ setUps o.charm e then o.charm.relation id else r₀, ?_, ?_⟩
  · rw [step]
    dsimp only
    split
    · rfl
    · exact hunits
  · have hnext := LegacyDb.lists_step e id r₀ hlists
    rw [← app_step o.charm e] at hnext
    exact hnext

/-- The published list of a relation names a unit exactly when the unit was in
the relation at its last completed set-up and its application's name does not
start with this one's. -/
theorem mem_allowedUnits_iff {o : Observed} (h : o.Lists) (id : Nat) (u : UnitName) :
    (u.name ∈ LegacyRelation.allowedUnits (o.charm.relation id).localAppData ↔
      u ∈ o.lastSetUp id ∧ u.startsWith o.charm.app = false) ∧
    (u.name ∈ LegacyRelation.allowedUnits (o.charm.relation id).localUnitData ↔
      u ∈ o.lastSetUp id ∧ u.startsWith o.charm.app = false) := by
  obtain ⟨r₀, hunits, happ, hunit⟩ := h id
  rw [LegacyRelation.allowedUnits, LegacyRelation.allowedUnits, happ, hunit,
    LegacyRelation.mem_split_getAllowedUnits, hunits]
  exact ⟨Iff.rfl, Iff.rfl⟩

/-- Neither databag of the relation lists the unit that departed, and both list
every unit that remains. -/
def Follows (o : Observed) (id : Nat) (u : UnitName) : Prop :=
  ∀ data ∈ [(o.charm.relation id).localAppData, (o.charm.relation id).localUnitData],
    u.name ∉ LegacyRelation.allowedUnits data ∧
      ∀ v ∈ (o.charm.relation id).units, v.name ∈ LegacyRelation.allowedUnits data

/-- The last completed set-up of the relation has seen the unit, and the unit
is not one of an application whose name starts with this one's. -/
def Seen (o : Observed) (id : Nat) (u : UnitName) : Prop :=
  u ∈ o.lastSetUp id ∧ u.startsWith o.charm.app = false

/-- A charm that has published no list lists the units of no set-up. -/
theorem lists_start {c : Charm}
    (hnew : ∀ id, (c.relation id).localAppData.get "allowed-units" = none ∧
      (c.relation id).localUnitData.get "allowed-units" = none) : (start c).Lists := by
  intro id
  refine ⟨{ c.relation id with units := [] }, rfl, ?_, ?_⟩
  · show (c.relation id).localAppData.getD "allowed-units" "" = _
    rw [Databag.getD, (hnew id).1]
    rfl
  · show (c.relation id).localUnitData.getD "allowed-units" "" = _
    rw [Databag.getD, (hnew id).2]
    rfl

/-- The departed handler does not change which units the relation has. -/
theorem units_onRelationDeparted (c : Charm) (a : DepartedAnswers) (id : Nat) (u : UnitName) :
    ((c.onRelationDeparted a id (.remote u)).relation id).units = (c.relation id).units := by
  unfold Charm.onRelationDeparted
  split
  · rfl
  · dsimp only
    split
    · rfl
    · rw [Charm.relation_modifyRelation_self]

instance (o : Observed) (id : Nat) (u : UnitName) : Decidable (o.Seen id u) :=
  inferInstanceAs (Decidable (_ ∧ _))

/-- **Departures**: after any run from a charm that has published no list, the
handling of a departure leaves the lists as they should be exactly when the
last completed set-up of the relation did not see the unit that departs and did
see every unit that remains. -/
theorem follows_departure_iff {c : Charm}
    (hnew : ∀ id, (c.relation id).localAppData.get "allowed-units" = none ∧
      (c.relation id).localUnitData.get "allowed-units" = none)
    (es : List Event) (id : Nat) (u : UnitName) (a : DepartedAnswers) :
    ((Machine.run step (start c) es).step (.relationDeparted id (.remote u) a)).Follows id u ↔
      ¬ (Machine.run step (start c) es).Seen id u ∧
        ∀ v ∈ ((Machine.run step (start c) es).charm.relation id).units,
          (Machine.run step (start c) es).Seen id v := by
  have hlists : (Machine.run step (start c) es).Lists :=
    Machine.run_of_step Lists (fun o e ho => lists_step o e ho) es (lists_start hnew)
  generalize Machine.run step (start c) es = o at hlists
  have hseen (v : UnitName) : v ∈ (o.step (.relationDeparted id (.remote u) a)).lastSetUp id ∧
      v.startsWith (o.step (.relationDeparted id (.remote u) a)).charm.app = false ↔
        o.Seen id v := by
    rw [step, app_step]
    exact Iff.rfl
  have hunits : ((o.step (.relationDeparted id (.remote u) a)).charm.relation id).units =
      (o.charm.relation id).units := units_onRelationDeparted o.charm a id u
  have hmem := mem_allowedUnits_iff (lists_step o (.relationDeparted id (.remote u) a) hlists) id
  rw [Follows, List.forall_mem_cons, List.forall_mem_singleton, hunits]
  simp only [(hmem _).1, (hmem _).2, hseen, and_self]

end Observed

/-! ## two units -/

/-- The units `client/0` and `client/1`. -/
def client (number : Nat) : UnitName := ⟨"client", number, by decide⟩

/-- The units of the relation 0 change. -/
def clients (units : List UnitName) : Event :=
  .delivered 0 units hstoreRelation.appData fun _ => ∅

theorem id_perm (names : List String) : (id names).Perm names := .rfl

/-- The leader handles a departure. -/
def departedAnswers : DepartedAnswers where
  isClusterInitialised := true
  memberStarted := true
  isLeader := true
  setOrder := id
  perm := id_perm

/-- A unit that joined after the last set-up departs. -/
theorem follows_departure_unseen :
    ((Machine.run Observed.step (.start (hstoreCharm [0] [] (by decide)))
      [.configured hstoreConfig, clients [client 1], .relationChanged 0 relationChangedAnswers,
        clients [client 1, client 0], clients [client 1]]).step
      (.relationDeparted 0 (.remote (client 0)) departedAnswers)).Follows 0 (client 0) :=
  (Observed.follows_departure_iff (fun _ => ⟨rfl, rfl⟩) _ 0 (client 0) departedAnswers).mpr
    ⟨by decide, by decide⟩

/-- A unit that the last set-up has listed departs, and stays on the list. -/
theorem follows_departure_listed :
    ¬ ((Machine.run Observed.step (.start (hstoreCharm [0] [] (by decide)))
      [.configured hstoreConfig, clients [client 0, client 1],
        .relationChanged 0 relationChangedAnswers, clients [client 1]]).step
      (.relationDeparted 0 (.remote (client 0)) departedAnswers)).Follows 0 (client 0) := by
  intro h
  refine (h _ List.mem_cons_self).1 ?_
  decide

end PostgresqlK8s.LegacyDb
