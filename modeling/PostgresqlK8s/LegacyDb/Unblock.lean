import PostgresqlK8s.LegacyDb.Rights

/-!
# LegacyDb.Unblock

Whether the unit is unblocked once the requested extensions are enabled.

Setting a relation up clears the message only if no other relation holds
extensions, and the loop over the relations makes this worse: what it publishes
for one relation repeats the extensions that it asked for.  So where two
relations ask for extensions, each keeps the message for the other.
`unblocked_iff` says when the message goes: something else replaces the status,
or the loop comes to a relation such that none before it asks for extensions
and none after it asks for or holds any.
-/

namespace PostgresqlK8s.LegacyDb

open EarlyExit (reached reached_of_forall)

namespace LegacyRelation

variable {r : LegacyRelation}

/-- The other application asks for extensions. -/
def requestsExtensions (r : LegacyRelation) : Bool :=
  r.remoteDatabags.any (·.contains "extensions")

/-- This charm has published extensions. -/
def holdsExtensions (r : LegacyRelation) : Bool :=
  r.localAppData.contains "extensions" || r.localUnitData.contains "extensions"

/-- No databag of the relation holds roles. -/
def NoRoles (r : LegacyRelation) : Prop := ∀ data ∈ r.databags, data.contains "roles" = false

instance : Decidable r.NoRoles :=
  inferInstanceAs (Decidable (∀ data ∈ r.databags, data.contains "roles" = false))

theorem asksFor_of_noRoles (h : r.NoRoles) :
    r.asksFor = (r.requestsExtensions || r.holdsExtensions) := by
  have hany : r.asksFor = r.databags.any (·.contains "extensions") := by
    rw [asksFor, Bool.eq_iff_iff, List.any_eq_true, List.any_eq_true]
    constructor
    · rintro ⟨data, hdata, hasks⟩
      rw [h data hdata, Bool.or_false] at hasks
      exact ⟨data, hdata, hasks⟩
    · rintro ⟨data, hdata, hasks⟩
      exact ⟨data, hdata, by rw [hasks, Bool.true_or]⟩
  rw [hany, databags, requestsExtensions, holdsExtensions, remoteDatabags]
  simp [Bool.or_assoc, Bool.or_comm, Bool.or_left_comm]

/-! ## what is published -/

/-- The required extensions are asked for, and none of them is empty. -/
theorem mem_addRequested {required requested : List String} {e : String}
    (h : e ∈ addRequested required requested) : e ∈ required ∨ e ∈ requested ∧ e ≠ "" := by
  induction requested generalizing required with
  | nil => exact .inl h
  | cons extension requested ih =>
      rw [addRequested, List.foldl_cons, ← addRequested] at h
      rcases ih h with hmem | ⟨hmem, hne⟩
      · split at hmem
        · next hnew =>
            rcases List.mem_append.mp hmem with hold | hlast
            · exact .inl hold
            · rw [List.mem_singleton] at hlast
              subst hlast
              exact .inr ⟨List.mem_cons_self, hnew.1⟩
        · exact .inl hmem
      · exact .inr ⟨List.mem_cons_of_mem _ hmem, hne⟩

/-- Extensions are required only if the other application asks for some. -/
theorem requestsExtensions_of_requiredExtensions (h : r.requiredExtensions ≠ []) :
    r.requestsExtensions = true := by
  obtain ⟨e, he⟩ := List.exists_mem_of_ne_nil _ h
  rcases mem_addRequested he with hnil | ⟨hmem, hne⟩
  · contradiction
  · obtain ⟨data, hdata, hpiece⟩ := List.mem_flatMap.mp hmem
    refine List.any_eq_true.mpr ⟨data, hdata, ?_⟩
    rw [Databag.contains]
    cases hget : data.get "extensions" with
    | some v => rfl
    | none =>
        rw [Databag.getD, hget, Option.getD_none, Text.split_empty, List.mem_singleton] at hpiece
        contradiction

variable {app : String} {a : SetUpAnswers} {id : Nat} {database : String}

/-- A databag holds extensions once they are published only if they are asked
for. -/
theorem requestsExtensions_of_contains_update (data : Databag String)
    (h : (data.update (r.updates app a id database)).contains "extensions" = true) :
    r.requestsExtensions = true := by
  refine requestsExtensions_of_requiredExtensions fun hnil => ?_
  have hversion : "extensions" ∉ (versionUpdates a).map Prod.fst :=
    fun hmem => absurd (eq_of_mem_versionUpdates hmem) (by decide)
  have hsplit : r.updates app a id database = (r.updates app a id database).take 9 ++
      ("extensions", Text.join ',' r.requiredExtensions) :: versionUpdates a := rfl
  rw [Databag.contains, hsplit, Databag.get_update_of_mem _ _ hversion, hnil, Text.join_nil,
    if_pos rfl] at h
  contradiction

/-- Publishing a relation writes no roles. -/
theorem contains_roles_update (data : Databag String) :
    (data.update (r.updates app a id database)).contains "roles" = data.contains "roles" := by
  have hkeys : "roles" ∉ (r.updates app a id database).map Prod.fst := by
    rw [updates, List.map_append, List.mem_append, not_or]
    exact ⟨by simp, fun hmem => absurd (eq_of_mem_versionUpdates hmem) (by decide)⟩
  rw [Databag.contains, Databag.contains, Databag.get_update_of_not_mem data hkeys]

/-- Once a relation is published, it holds extensions only if they are asked
for. -/
theorem asksFor_published {config : Extensions.PluginConfig} (hroles : r.NoRoles)
    (h : r.completes config a = true) :
    (r.published app config a id).asksFor = r.requestsExtensions := by
  obtain ⟨database, hpublished⟩ := published_of_completes app id h
  rw [hpublished]
  have hnoRoles : (r.publish (r.updates app a id database)).NoRoles := by
    have hlocal (data : Databag String) :
        (data.update (r.updates app a id database)).contains "roles" = data.contains "roles" :=
      contains_roles_update data
    intro data hdata
    simp only [databags, publish, List.mem_append, List.mem_cons, List.not_mem_nil, or_false]
      at hdata
    rcases hdata with (rfl | rfl | rfl) | hunit
    · exact hroles _ (by simp [databags])
    · rw [hlocal]
      exact hroles _ (by simp [databags])
    · rw [hlocal]
      exact hroles _ (by simp [databags])
    · exact hroles _ (by simp [databags, List.mem_map.mp hunit])
  rw [asksFor_of_noRoles hnoRoles]
  have hremote : (r.publish (r.updates app a id database)).requestsExtensions =
      r.requestsExtensions := rfl
  rw [hremote]
  cases hholds : (r.publish (r.updates app a id database)).holdsExtensions with
  | false => exact Bool.or_false _
  | true =>
      rw [holdsExtensions, localAppData_publish, localUnitData_publish, Bool.or_eq_true] at hholds
      rw [Bool.or_true, eq_comm]
      rcases hholds with happ | hunit
      · exact requestsExtensions_of_contains_update r.localAppData happ
      · exact requestsExtensions_of_contains_update r.localUnitData hunit

end LegacyRelation

/-- Nothing fails while a relation is set up. -/
def SetUpAnswers.Succeeds (a : SetUpAnswers) : Prop :=
  a.createUser = .created ∧ a.databaseCreated = true ∧ a.updateConfig.result = .completed

instance (a : SetUpAnswers) : Decidable a.Succeeds := inferInstanceAs (Decidable (_ ∧ _ ∧ _))

namespace Charm

variable {c : Charm} {id : Nat}

/-- The unit is blocked with the extensions message. -/
def IsBlocked (c : Charm) : Prop := c.unitStatus = .blocked extensionsBlockingMessage

instance : Decidable c.IsBlocked := inferInstanceAs (Decidable (_ = _))

/-! ## one relation -/

theorem not_isBlocked_active : ¬ (c.setStatus .active).IsBlocked := by
  intro h
  cases congrArg Status.name h

theorem isBlocked_updateUnitStatusOnBlockingEndpointSimultaneously :
    c.updateUnitStatusOnBlockingEndpointSimultaneously.IsBlocked ↔ c.IsBlocked := by
  unfold updateUnitStatusOnBlockingEndpointSimultaneously
  split
  · next h =>
      refine iff_of_false not_isBlocked_active fun hblocked => ?_
      simp only [Bool.and_eq_true, beq_iff_eq] at h
      have hmessage := h.1.2
      rw [hblocked] at hmessage
      exact absurd hmessage (by decide)
  · exact Iff.rfl

/-- `_update_unit_status` unblocks the unit unless another relation asks for
something. -/
theorem isBlocked_updateUnitStatus :
    (c.updateUnitStatus id).IsBlocked ↔ c.IsBlocked ∧ c.checkForBlockingRelations id = true := by
  rw [updateUnitStatus, isBlocked_updateUnitStatusOnBlockingEndpointSimultaneously]
  split
  · next h =>
      refine iff_of_false not_isBlocked_active fun hboth => ?_
      simp [hboth.2] at h
  · next h =>
      refine ⟨fun hblocked => ⟨hblocked, ?_⟩, And.left⟩
      by_contra hcheck
      rw [Bool.not_eq_true] at hcheck
      refine h ?_
      rw [hblocked, hcheck]
      decide

/-- `update_config` keeps the message only where it leaves the status as it
is. -/
theorem isBlocked_updateConfig {answer : UpdateConfigAnswer} (h : answer.result = .completed) :
    (c.updateConfig answer).IsBlocked ↔ c.IsBlocked ∧ answer = .updated := by
  cases answer with
  | updated => simp [updateConfig]
  | raised => cases h
  | restarted status hforeign =>
      simp only [reduceCtorEq, and_false, iff_false]
      intro hblocked
      exact hforeign (congrArg Status.message hblocked)
  | refused =>
      simp only [reduceCtorEq, and_false, iff_false]
      intro hblocked
      exact message_deployedWithoutTrust _ (congrArg Status.message hblocked)

theorem checkForBlockingRelations_iff : c.checkForBlockingRelations id = true ↔
    ∃ id' ∈ c.relationIds, id' ≠ id ∧ (c.relation id').asksFor = true := by
  rw [checkForBlockingRelations, List.any_eq_true]
  simp only [Bool.and_eq_true, bne_iff_ne]

/-- A completed set-up keeps the unit blocked exactly when another relation
asks for something and updating the configuration leaves the status. -/
theorem isBlocked_setUpRelation {admin : Bool} {a : SetUpAnswers}
    (h : (c.relation id).completes c.config a = true) :
    (c.setUpRelation admin a id).2.IsBlocked ↔
      c.IsBlocked ∧ a.updateConfig = .updated ∧ c.checkForBlockingRelations id = true := by
  unfold LegacyRelation.completes at h
  cases hadmission : (c.relation id).admission c.config with
  | extensionsDisabled => simp [hadmission] at h
  | rolesRequested => simp [hadmission] at h
  | noDatabase => simp [hadmission] at h
  | admitted database =>
      rw [hadmission] at h
      simp only [Bool.and_eq_true, decide_eq_true_eq] at h
      obtain ⟨⟨hcreated, hdatabase⟩, hresult⟩ := h
      unfold setUpRelation
      dsimp only
      rw [hadmission]
      dsimp only
      rw [if_neg (by simp [hcreated, hdatabase]), isBlocked_updateConfig hresult,
        isBlocked_updateUnitStatus, hcreated]
      generalize hc' : (c.createUser admin .created id).modifyRelation id _ = c'
      have hblocked : c'.IsBlocked ↔ c.IsBlocked := by
        rw [← hc']
        exact Iff.rfl
      have hcheck : c'.checkForBlockingRelations id = true ↔
          c.checkForBlockingRelations id = true := by
        have hids : c'.relationIds = c.relationIds := by
          rw [← hc']
          rfl
        have hrelation (id' : Nat) (hne : id' ≠ id) : c'.relation id' = c.relation id' := by
          rw [← hc']
          exact Function.update_of_ne hne _ _
        rw [checkForBlockingRelations_iff, checkForBlockingRelations_iff, hids]
        constructor
        · rintro ⟨id', hmem, hne, hasks⟩
          exact ⟨id', hmem, hne, hrelation id' hne ▸ hasks⟩
        · rintro ⟨id', hmem, hne, hasks⟩
          exact ⟨id', hmem, hne, (hrelation id' hne).symm ▸ hasks⟩
      rw [hblocked, hcheck, and_assoc, and_comm (a := a.updateConfig = .updated)]

/-! ## the loop -/

/-- The loop keeps the unit blocked exactly when each of its rounds does. -/
theorem isBlocked_setUpRelations {admin : Bool} {a : Nat → SetUpAnswers} {ids : List Nat}
    (hnodup : ids.Nodup) (h : ∀ id ∈ ids, c.completes a id = true) :
    (c.setUpRelations admin a ids).2.IsBlocked ↔ c.IsBlocked ∧
      ∀ front id rest, ids = front ++ id :: rest → (a id).updateConfig = .updated ∧
        (c.setUpRelations admin a front).2.checkForBlockingRelations id = true := by
  induction ids generalizing c with
  | nil =>
      refine ⟨fun hblocked => ⟨hblocked, fun front id rest heq => ?_⟩, And.left⟩
      simp at heq
  | cons id ids ih =>
      rw [List.nodup_cons] at hnodup
      rw [List.forall_mem_cons] at h
      have hgo (ids : List Nat) := setUpRelations_of_completes admin ids h.1
      have hrest : ∀ id' ∈ ids, (c.setUpRelation admin (a id) id).2.completes a id' = true := by
        intro id' hid'
        have hne : id' ≠ id := by
          rintro rfl
          exact hnodup.1 hid'
        obtain ⟨status, hset⟩ := setUpRelation_snd admin (a id) id c
        rw [hset, completes]
        dsimp only
        rw [Function.update_of_ne hne]
        exact h.2 id' hid'
      rw [hgo ids, ih hnodup.2 hrest, isBlocked_setUpRelation h.1]
      constructor
      · rintro ⟨⟨hblocked, hround⟩, hrounds⟩
        refine ⟨hblocked, fun front id' rest heq => ?_⟩
        cases front with
        | nil =>
            obtain ⟨rfl, rfl⟩ := List.cons.inj heq
            exact hround
        | cons x front =>
            obtain ⟨rfl, hids⟩ := List.cons.inj heq
            rw [hgo front]
            exact hrounds front id' rest hids
      · rintro ⟨hblocked, hrounds⟩
        refine ⟨⟨hblocked, hrounds [] id ids rfl⟩, fun front id' rest hids => ?_⟩
        rw [← hgo front]
        exact hrounds (id :: front) id' rest (by rw [hids]; rfl)

/-! ## the configuration handler -/

/-- Every relation asks for a database and no roles, and all extensions that
are asked for are enabled. -/
structure AllEnabled (c : Charm) : Prop where
  enabled : ∀ id ∈ c.relationIds, ((c.relation id).getExtensions c.config.pluginEnabled).2 = []
  noRoles : ∀ id ∈ c.relationIds, (c.relation id).NoRoles
  database : ∀ id ∈ c.relationIds, (c.relation id).database.isSome = true

/-- The loop comes to a relation that clears the message: updating the
configuration replaces the status, or no relation before it asks for extensions
and none after it asks for or holds any. -/
def Clears (a : ConfigChangedAnswers) (c : Charm) : Prop :=
  ∃ front id rest, c.relationIds = front ++ id :: rest ∧
    ((a.setUp id).updateConfig ≠ .updated ∨
      (∀ i ∈ front, (c.relation i).requestsExtensions = false) ∧
        ∀ i ∈ rest, (c.relation i).requestsExtensions = false ∧
          (c.relation i).holdsExtensions = false)

/-- When the loop comes to a relation, those before it hold what they ask for
and those after it what they held before. -/
theorem checkForBlockingRelations_setUpRelations {admin : Bool} {a : Nat → SetUpAnswers}
    {front rest : List Nat} (hids : c.relationIds = front ++ id :: rest)
    (hroles : ∀ i ∈ c.relationIds, (c.relation i).NoRoles)
    (h : ∀ i ∈ c.relationIds, c.completes a i = true) :
    (c.setUpRelations admin a front).2.checkForBlockingRelations id = true ↔
      (∃ i ∈ front, (c.relation i).requestsExtensions = true) ∨
        ∃ i ∈ rest, (c.relation i).requestsExtensions = true ∨
          (c.relation i).holdsExtensions = true := by
  have hnodup : (front ++ id :: rest).Nodup := hids ▸ c.nodup
  obtain ⟨hfrontNodup, hrestNodup, hdisjoint⟩ := List.nodup_append.mp hnodup
  rw [List.nodup_cons] at hrestNodup
  have hreached : reached (c.completes a) front = front :=
    reached_of_forall fun i hi => h i (hids ▸ List.mem_append_left _ hi)
  obtain ⟨status, hset⟩ := setUpRelations_snd admin a c hfrontNodup
  rw [hreached] at hset
  have hin (i : Nat) (hi : i ∈ front) : ((c.setUpRelations admin a front).2.relation i).asksFor =
      (c.relation i).requestsExtensions := by
    have hmem : i ∈ c.relationIds := hids ▸ List.mem_append_left _ hi
    rw [hset]
    dsimp only
    rw [if_pos hi, LegacyRelation.asksFor_published (hroles i hmem) (h i hmem)]
  have hout (i : Nat) (hi : i ∈ rest) : ((c.setUpRelations admin a front).2.relation i).asksFor =
      ((c.relation i).requestsExtensions || (c.relation i).holdsExtensions) := by
    have hmem : i ∈ c.relationIds :=
      hids ▸ List.mem_append_right _ (List.mem_cons_of_mem _ hi)
    have hnot : i ∉ front := fun hi' => hdisjoint i hi' i (List.mem_cons_of_mem _ hi) rfl
    rw [hset]
    dsimp only
    rw [if_neg hnot, LegacyRelation.asksFor_of_noRoles (hroles i hmem)]
  have hsame : (c.setUpRelations admin a front).2.relationIds = front ++ id :: rest := by
    rw [hset, ← hids]
    rfl
  rw [checkForBlockingRelations_iff, hsame]
  constructor
  · rintro ⟨i, hmem, hne, hasks⟩
    rcases List.mem_append.mp hmem with hi | hi
    · exact .inl ⟨i, hi, hin i hi ▸ hasks⟩
    · have hi := (List.mem_cons.mp hi).resolve_left hne
      rw [hout i hi, Bool.or_eq_true] at hasks
      exact .inr ⟨i, hi, hasks⟩
  · rintro (⟨i, hi, hasks⟩ | ⟨i, hi, hasks⟩)
    · exact ⟨i, List.mem_append_left _ hi, hdisjoint i hi id List.mem_cons_self,
        (hin i hi).trans hasks⟩
    · refine ⟨i, List.mem_append_right _ (List.mem_cons_of_mem _ hi), ?_, ?_⟩
      · rintro rfl
        exact hrestNodup.1 hi
      · rw [hout i hi, Bool.or_eq_true]
        exact hasks

/-- With everything enabled, a set-up that succeeds is completed. -/
theorem completes_of_succeeds {a : Nat → SetUpAnswers} (h : c.AllEnabled)
    (hmem : id ∈ c.relationIds) (hsucceeds : (a id).Succeeds) : c.completes a id = true := by
  obtain ⟨hcreated, hdatabase, hresult⟩ := hsucceeds
  obtain ⟨database, hsome⟩ := Option.isSome_iff_exists.mp (h.database id hmem)
  have hroles : (c.relation id).getRoles = false :=
    h.noRoles id hmem _ (by simp [LegacyRelation.databags])
  rw [completes, LegacyRelation.completes, LegacyRelation.admission,
    if_neg (by simp [h.enabled id hmem]), hroles, if_neg Bool.false_ne_true, hsome]
  simp [hcreated, hdatabase, hresult]

/-- The loop unblocks the unit exactly when a relation in it clears the
message. -/
theorem isBlocked_setUpRelations_relationIds {a : ConfigChangedAnswers} (hblocked : c.IsBlocked)
    (hroles : ∀ i ∈ c.relationIds, (c.relation i).NoRoles)
    (h : ∀ i ∈ c.relationIds, c.completes a.setUp i = true) :
    ¬ (c.setUpRelations false a.setUp c.relationIds).2.IsBlocked ↔ c.Clears a := by
  have hnodup : c.relationIds.Nodup := c.nodup
  rw [isBlocked_setUpRelations hnodup h]
  constructor
  · intro hnot
    by_contra hclears
    refine hnot ⟨hblocked, fun front id rest hids => ?_⟩
    obtain ⟨hupdated, hround⟩ := not_or.mp fun hclear => hclears ⟨front, id, rest, hids, hclear⟩
    refine ⟨not_not.mp hupdated, ?_⟩
    rw [checkForBlockingRelations_setUpRelations hids hroles h]
    by_contra hcheck
    rw [not_or] at hcheck
    refine hround ⟨fun i hi => ?_, fun i hi => ⟨?_, ?_⟩⟩
    · rw [← Bool.not_eq_true]
      exact fun hasks => hcheck.1 ⟨i, hi, hasks⟩
    · rw [← Bool.not_eq_true]
      exact fun hasks => hcheck.2 ⟨i, hi, .inl hasks⟩
    · rw [← Bool.not_eq_true]
      exact fun hholds => hcheck.2 ⟨i, hi, .inr hholds⟩
  · rintro ⟨front, id, rest, hids, hclear⟩ ⟨-, hrounds⟩
    obtain ⟨hupdated, hcheck⟩ := hrounds front id rest hids
    rw [checkForBlockingRelations_setUpRelations hids hroles h] at hcheck
    rcases hclear with hreplaced | ⟨hfront, hrest⟩
    · exact hreplaced hupdated
    · rcases hcheck with ⟨i, hi, hasks⟩ | ⟨i, hi, hasks | hholds⟩
      · exact absurd hasks (by simp [hfront i hi])
      · exact absurd hasks (by simp [(hrest i hi).1])
      · exact absurd hholds (by simp [(hrest i hi).2])

/-- **Unblocking**: once every requested extension is enabled and every set-up
succeeds, the unit is unblocked exactly when the status is replaced before the
loop, or a relation in it clears the message. -/
theorem unblocked_iff {a : ConfigChangedAnswers} (hblocked : c.IsBlocked)
    (hinitialised : a.isClusterInitialised = true) (hidle : a.upgradeIdle = true)
    (hleader : a.isLeader = true) (hreachable : a.validation ≠ .unreachable)
    (hraised : a.validation ≠ .valid .raised) (henabled : c.AllEnabled)
    (hsetUp : ∀ id ∈ c.relationIds, (a.setUp id).Succeeds) :
    ¬ (c.onConfigChanged a).IsBlocked ↔ ¬ c.Unblocks a ∨ c.Clears a := by
  by_cases hunblocks : c.Unblocks a
  · have hstatus : (c.onConfigChanged a).unitStatus =
        (c.setUpRelations false a.setUp c.relationIds).2.unitStatus := by
      rw [onConfigChanged_of_unblocks hunblocks]
      split
      · next hrun => rw [hrun, dropWrites]
      · next hrun => rw [hrun]
    rw [IsBlocked, hstatus, ← IsBlocked,
      isBlocked_setUpRelations_relationIds hblocked henabled.noRoles
        fun id hid => completes_of_succeeds henabled hid (hsetUp id hid)]
    exact (or_iff_right fun hnot => hnot hunblocks).symm
  · obtain ⟨status, heq, hmessage⟩ := onConfigChanged_of_not_unblocks hunblocks
    refine iff_of_true (fun hstill => ?_) (.inl hunblocks)
    rw [heq] at hstill
    exact hmessage hinitialised hidle hleader hreachable hraised (congrArg Status.message hstill)

/-- Each relation has asked for `hstore`, and the operator has enabled it. -/
def hstoreRequested (db dbAdmin : List Nat) (nodup : (db ++ dbAdmin).Nodup) : Charm :=
  Machine.run step (hstoreCharm db dbAdmin nodup)
    ((db ++ dbAdmin).map (.relationChanged · relationChangedAnswers) ++ [.configured hstoreConfig])

/-- With one relation the unit is unblocked. -/
theorem unblocked_oneRelation :
    ¬ ((hstoreRequested [0] [] (by decide)).onConfigChanged configChangedAnswers).IsBlocked := by
  have henabled : (hstoreRequested [0] [] (by decide)).AllEnabled :=
    ⟨by decide +kernel, by decide +kernel, by decide +kernel⟩
  refine (unblocked_iff (by decide +kernel) rfl rfl rfl (by simp [configChangedAnswers])
    (by simp [configChangedAnswers]) henabled (by decide +kernel)).mpr (.inr ?_)
  have hids : (hstoreRequested [0] [] (by decide)).relationIds = [] ++ 0 :: [] := by decide +kernel
  exact ⟨[], 0, [], hids, .inr ⟨by simp, by simp⟩⟩

/-- With two relations it stays blocked: each of them keeps the message for the
other. -/
theorem unblocked_twoRelations :
    (hstoreRequested [0, 1] [] (by decide)).IsBlocked ∧
      (hstoreRequested [0, 1] [] (by decide)).AllEnabled ∧
      (∀ id, (configChangedAnswers.setUp id).Succeeds) ∧
      ((hstoreRequested [0, 1] [] (by decide)).onConfigChanged configChangedAnswers).IsBlocked := by
  refine ⟨by decide +kernel, ⟨by decide +kernel, by decide +kernel, by decide +kernel⟩,
    fun id => ?_, by decide +kernel⟩
  exact ⟨rfl, rfl, rfl⟩

end Charm

end PostgresqlK8s.LegacyDb
