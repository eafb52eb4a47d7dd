import PostgresqlK8s.LegacyDb.Handlers

/-!
# LegacyDb.Rights

The rights of the relation users.

The user of a `db-admin` relation is to be a superuser, and the user of a `db`
relation is not.  A relation's own handler creates the user with the flag of
its endpoint.  The configuration handler sets the relations of both endpoints
up with the object of `db`, so a user that it is the first to create is no
superuser, whatever the endpoint; altering the role later never takes a right
away.  `rights_iff` says that the rights are right throughout a run exactly
when the configuration handler never creates the user of a `db-admin` relation.
-/

namespace PostgresqlK8s.LegacyDb

open EarlyExit (reached mem_of_mem_reached)

namespace Charm

/-- Every relation user that exists has the rights of its endpoint. -/
def Rights (c : Charm) : Prop :=
  ∀ id ∈ c.relationIds, ∀ superuser, c.users id = some superuser → superuser = c.isAdmin id

/-- The configuration handler creates the user of a `db-admin` relation: it
comes to the relation, which is admitted, and the statement does not fail. -/
def CreatesAdminUser (a : ConfigChangedAnswers) (c : Charm) : Prop :=
  c.Unblocks a ∧ ∃ id ∈ reached (c.completes a.setUp) c.relationIds,
    c.isAdmin id = true ∧ c.users id = none ∧
      (c.relation id).creates c.config (a.setUp id) = true

/-! ## what the handlers change -/

section Changes

variable {c : Charm}

/-- The handler of a relation creates or alters no user, or the one of that
relation, with the flag of its endpoint. -/
theorem onRelationChanged_eq (a : RelationChangedAnswers) (id : Nat) :
    ∃ status relation users, c.onRelationChanged a id =
      { c with unitStatus := status, users := users, relation := relation } ∧
        (users = c.users ∨ users = c.createdUsers (c.isAdmin id) a.setUp id) := by
  by_cases hreaches : c.ReachesSetUp a
  · rw [onRelationChanged_of_reachesSetUp hreaches]
    obtain ⟨status, hset⟩ := setUpRelation_snd (c.isAdmin id) a.setUp id c
    split
    · next c' hraised =>
        rw [hraised] at hset
        dsimp only at hset
        exact ⟨status, c.relation, _, by rw [hset]; rfl, .inr rfl⟩
    · next c' _ hresult =>
        rw [hresult] at hset
        exact ⟨status, _, _, hset, .inr rfl⟩
  · obtain ⟨status, heq⟩ := onRelationChanged_of_not_reachesSetUp hreaches id
    exact ⟨status, c.relation, c.users, heq, .inl rfl⟩

/-- The configuration handler that comes to its loop creates or alters the
users of the relations that it reaches, with the flag of `db`. -/
theorem onConfigChanged_eq_of_unblocks {a : ConfigChangedAnswers} (h : c.Unblocks a) :
    ∃ status relation, c.onConfigChanged a = { c with
      unitStatus := status
      users := fun id => if id ∈ reached (c.completes a.setUp) c.relationIds
        then c.createdUsers false (a.setUp id) id id else c.users id
      relation := relation } := by
  have hnodup : c.relationIds.Nodup := c.nodup
  obtain ⟨status, hset⟩ := setUpRelations_snd false a.setUp c hnodup
  rw [onConfigChanged_of_unblocks h]
  split
  · next c' hraised =>
      rw [hraised] at hset
      dsimp only at hset
      exact ⟨status, c.relation, by rw [hset]; rfl⟩
  · next c' _ hresult =>
      rw [hresult] at hset
      exact ⟨status, _, hset⟩

end Changes

/-! ## one step -/

section Step

variable {c : Charm}

/-- Creating or altering a user keeps its rights, if a new user gets the right
flag and the flag grants nothing that the endpoint does not. -/
theorem superuser_createdUsers {admin superuser : Bool} {a : SetUpAnswers} {id : Nat}
    (hrights : ∀ superuser, c.users id = some superuser → superuser = c.isAdmin id)
    (hnew : c.users id = none → (c.relation id).creates c.config a = true → admin = c.isAdmin id)
    (hle : admin = true → c.isAdmin id = true)
    (huser : c.createdUsers admin a id id = some superuser) : superuser = c.isAdmin id := by
  rw [createdUsers_self] at huser
  split at huser
  · next hcreates =>
      cases hexists : c.users id with
      | none =>
          rw [hexists] at huser
          have hadmin : admin = superuser := by simpa using huser
          rw [← hadmin, hnew hexists hcreates]
      | some b =>
          have hb := hrights b hexists
          rw [hexists] at huser
          have hor : (b || admin) = superuser := by simpa using huser
          rw [← hor, hb]
          cases hadmin : admin with
          | false => exact Bool.or_false _
          | true => rw [hle hadmin, Bool.or_true]
  · exact hrights superuser huser

/-- The handler of a relation keeps the rights. -/
theorem rights_onRelationChanged (h : c.Rights) (a : RelationChangedAnswers) (id : Nat) :
    (c.onRelationChanged a id).Rights := by
  obtain ⟨status, relation, users, heq, husers⟩ := onRelationChanged_eq (c := c) a id
  rw [heq]
  intro id' hid' superuser huser
  change users id' = some superuser at huser
  show superuser = c.isAdmin id'
  rcases husers with rfl | rfl
  · exact h id' hid' superuser huser
  · by_cases hself : id' = id
    · subst hself
      exact superuser_createdUsers (h id' hid') (fun _ _ => rfl) (fun hadmin => hadmin) huser
    · rw [createdUsers_of_ne hself] at huser
      exact h id' hid' superuser huser

/-- The configuration handler keeps the rights exactly when it creates no user
of a `db-admin` relation. -/
theorem rights_onConfigChanged (h : c.Rights) (a : ConfigChangedAnswers) :
    (c.onConfigChanged a).Rights ↔ ¬ c.CreatesAdminUser a := by
  by_cases hunblocks : c.Unblocks a
  · obtain ⟨status, relation, heq⟩ := onConfigChanged_eq_of_unblocks hunblocks
    rw [heq]
    constructor
    · rintro hrights ⟨-, id, hreached, hadmin, hnone, hcreates⟩
      have huser : c.createdUsers false (a.setUp id) id id = some false := by
        rw [createdUsers_self, if_pos hcreates, hnone]
        rfl
      have hfalse : false = c.isAdmin id :=
        hrights id (mem_of_mem_reached hreached) false ((if_pos hreached).trans huser)
      rw [hadmin] at hfalse
      contradiction
    · intro hnot id hid superuser huser
      show superuser = c.isAdmin id
      by_cases hreached : id ∈ reached (c.completes a.setUp) c.relationIds
      · have hcreated : c.createdUsers false (a.setUp id) id id = some superuser :=
          (if_pos hreached).symm.trans huser
        refine superuser_createdUsers (h id hid) (fun hnone hcreates => ?_) (by simp) hcreated
        rw [eq_comm, ← Bool.not_eq_true]
        intro hadmin
        exact hnot ⟨hunblocks, id, hreached, hadmin, hnone, hcreates⟩
      · exact h id hid superuser ((if_neg hreached).symm.trans huser)
  · obtain ⟨status, heq, -⟩ := onConfigChanged_of_not_unblocks hunblocks
    rw [heq]
    constructor
    · rintro - ⟨hyes, -⟩
      exact hunblocks hyes
    · intro _
      exact h

end Step

end Charm

/-- No event renames the application or changes which relations there are. -/
theorem frame_step (c : Charm) (e : Event) :
    (step c e).app = c.app ∧ (step c e).db = c.db ∧ (step c e).dbAdmin = c.dbAdmin := by
  cases e with
  | delivered id units appData unitData => exact ⟨rfl, rfl, rfl⟩
  | configured config => exact ⟨rfl, rfl, rfl⟩
  | relationChanged id a =>
      obtain ⟨status, relation, users, heq, -⟩ := Charm.onRelationChanged_eq (c := c) a id
      rw [step, heq]
      exact ⟨rfl, rfl, rfl⟩
  | relationDeparted id departing a =>
      rw [step]
      unfold Charm.onRelationDeparted
      split
      · exact ⟨rfl, rfl, rfl⟩
      · cases departing with
        | self => exact ⟨rfl, rfl, rfl⟩
        | ownApp => exact ⟨rfl, rfl, rfl⟩
        | remote u =>
            dsimp only
            split
            · exact ⟨rfl, rfl, rfl⟩
            · exact ⟨rfl, rfl, rfl⟩
  | configChanged a =>
      rw [step]
      by_cases hunblocks : c.Unblocks a
      · obtain ⟨status, relation, heq⟩ := Charm.onConfigChanged_eq_of_unblocks hunblocks
        rw [heq]
        exact ⟨rfl, rfl, rfl⟩
      · obtain ⟨status, heq, -⟩ := Charm.onConfigChanged_of_not_unblocks hunblocks
        rw [heq]
        exact ⟨rfl, rfl, rfl⟩

@[simp] theorem app_step (c : Charm) (e : Event) : (step c e).app = c.app := (frame_step c e).1

@[simp] theorem relationIds_step (c : Charm) (e : Event) :
    (step c e).relationIds = c.relationIds := by
  rw [Charm.relationIds, Charm.relationIds, (frame_step c e).2.1, (frame_step c e).2.2]

@[simp] theorem isAdmin_step (c : Charm) (e : Event) (id : Nat) :
    (step c e).isAdmin id = c.isAdmin id := by
  rw [Charm.isAdmin, Charm.isAdmin, (frame_step c e).2.2]

/-- The event creates the user of a `db-admin` relation through the object of
`db`. -/
def CreatesAdminUser (c : Charm) : Event → Prop
  | .configChanged a => c.CreatesAdminUser a
  | _ => False

/-- One event keeps the rights exactly when it creates no user of a `db-admin`
relation through the object of `db`. -/
theorem rights_step {c : Charm} (h : c.Rights) (e : Event) :
    (step c e).Rights ↔ ¬ CreatesAdminUser c e := by
  cases e with
  | delivered id units appData unitData => exact iff_of_true h not_false
  | configured config => exact iff_of_true h not_false
  | relationChanged id a => exact iff_of_true (Charm.rights_onRelationChanged h a id) not_false
  | relationDeparted id departing a =>
      refine iff_of_true ?_ not_false
      rw [step]
      unfold Charm.onRelationDeparted
      split
      · exact h
      · cases departing with
        | self => exact h
        | ownApp => exact h
        | remote u =>
            dsimp only
            split
            · exact h
            · exact h
  | configChanged a => exact Charm.rights_onConfigChanged h a

/-- **Rights of the relation users**: in every state of a run each relation
user has the rights of its endpoint, exactly when the configuration handler
never is the first to create the user of a `db-admin` relation. -/
theorem rights_iff {c : Charm} (h : c.Rights) (es : List Event) :
    Machine.Along step (fun c e => (step c e).Rights) c es ↔
      Machine.Along step (fun c e => ¬ CreatesAdminUser c e) c es :=
  Machine.along_congr Charm.Rights (fun _ _ hrights he => (rights_step hrights _).mpr he)
    (fun _ e hrights => rights_step hrights e) h

/-- The user of a `db` relation that the configuration handler creates has the
right rights. -/
theorem rights_iff_db :
    Machine.Along step (fun c e => (step c e).Rights) (hstoreCharm [0] [] (by decide))
      (enableHstore 0) := by
  have hnew : (hstoreCharm [0] [] (by decide)).Rights := by
    intro id _ superuser huser
    contradiction
  refine (rights_iff hnew (enableHstore 0)).mpr ⟨not_false, not_false, ?_, trivial⟩
  rintro ⟨-, id, -, hadmin, -⟩
  rw [isAdmin_step, isAdmin_step] at hadmin
  contradiction

/-- A `db-admin` relation that asks for an extension which the operator enables
afterwards gets a user that is no superuser. -/
theorem rights_dbAdmin :
    ¬ Machine.Along step (fun c e => (step c e).Rights) (hstoreCharm [] [0] (by decide))
      (enableHstore 0) := by
  intro h
  simp only [enableHstore, Machine.along_cons] at h
  have huser : (step (step (step (hstoreCharm [] [0] (by decide))
      (.relationChanged 0 relationChangedAnswers)) (.configured hstoreConfig))
      (.configChanged configChangedAnswers)).users 0 = some false := by
    decide +kernel
  have hright := h.2.2.1 0
  simp only [relationIds_step, isAdmin_step] at hright
  exact absurd (hright (by decide) false huser) (by decide)

end PostgresqlK8s.LegacyDb
