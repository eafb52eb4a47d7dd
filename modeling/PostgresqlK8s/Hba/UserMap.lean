import PostgresqlK8s.Lib.Decimal
import PostgresqlK8s.Lib.Dict

/-!
# Hba.UserMap

Which databases each user may connect to: the map from relation users to the
database each client asked for, and the map that the pg_hba rules are
rendered from, which adds what the database itself knows.
-/

namespace PostgresqlK8s.Hba

/-- The endpoints of client relations. -/
inductive ClientRelationName
  | database
  | db
  | dbAdmin
deriving DecidableEq, Repr

/-- A client relation: on the `database` endpoint the `database` field that
the client application wrote, on the legacy endpoints the one in this unit's
databag. -/
structure ClientRelation where
  id : Nat
  name : ClientRelationName
  database : Option String
deriving DecidableEq, Repr

/-- `client_relations`: the client relations, whose ids are distinct. -/
structure ClientRelations where
  relations : List ClientRelation
  nodup : (relations.map (·.id)).Nodup

/-- The name of the user of a relation. -/
def relationUser (id : Nat) : String := "relation_id_" ++ toString id

/-- `USER`, `REPLICATION_USER` and `REWIND_USER`, each with all databases. -/
def internalUsers : List (String × String) :=
  [("operator", "all"), ("replication", "all"), ("rewind", "all")]

/-- The users that `relations_user_databases_map` skips. -/
def skippedUsers : List String :=
  ["backup", "monitoring", "operator", "postgres", "replication", "rewind"]

/-- `ACCESS_GROUPS`. -/
def accessGroups : List String := ["identity_access", "internal_access", "relation_access"]

namespace ClientRelation

/-- The user and the database of a relation that asks for one. -/
def userDatabase (r : ClientRelation) : Option (String × String) :=
  match r.database with
  | some database => if database ≠ "" then some (relationUser r.id, database) else none
  | none => none

end ClientRelation

namespace ClientRelations

/-- `_collect_user_relations`. -/
def collectUserRelations (rs : ClientRelations) : Dict String String :=
  rs.relations.foldl
    (fun userDbPairs r => match r.userDatabase with
      | some (user, database) => userDbPairs.set user database
      | none => userDbPairs) ∅

end ClientRelations

/-- What the cluster and the database answer to `relations_user_databases_map`;
a query that fails is `none`. -/
structure DatabaseAnswers where
  clusterInitialised : Bool
  memberStarted : Bool
  listUsers : Option (List String)
  listAccessibleDatabasesForUser : String → Option (List String)
  listAccessGroups : Option (List String)

/-- The loop over the users of the database; `none` is an exception. -/
def addDatabaseUsers (a : DatabaseAnswers) :
    List String → Dict String String → Option (Dict String String)
  | [], m => some m
  | user :: users, m =>
      if user ∈ skippedUsers then addDatabaseUsers a users m
      else match a.listAccessibleDatabasesForUser user with
        | none => none
        | some databases =>
            if ",".intercalate databases ≠ "" then
              addDatabaseUsers a users (m.set user (",".intercalate databases))
            else addDatabaseUsers a users m

/-- `relations_user_databases_map`; `none` is an exception other than
`PostgreSQLListUsersError`, for which there is a map of the internal users. -/
def relationsUserDatabasesMap (rs : ClientRelations) (a : DatabaseAnswers) :
    Option (Dict String String) :=
  let userDatabaseMap := rs.collectUserRelations
  if !a.clusterInitialised || !a.memberStarted then some (userDatabaseMap.update internalUsers)
  else match a.listUsers with
    | none => some (Dict.update ∅ internalUsers)
    | some users => do
        let userDatabaseMap ← addDatabaseUsers a users userDatabaseMap
        let groups ← a.listAccessGroups
        if groups.all (· ∈ accessGroups) && accessGroups.all (· ∈ groups) then
          some userDatabaseMap
        else some (userDatabaseMap.update internalUsers)

/-! ## Relation users -/

/-- Different relations have different users. -/
theorem relationUser_injective : Function.Injective relationUser := by
  intro m n h
  have hlist := congrArg String.toList h
  simp only [relationUser, String.toList_append, List.append_cancel_left_eq] at hlist
  exact Decimal.toString_injective (String.toList_inj.mp hlist)

/-- No internal user is the user of a relation. -/
theorem relationUser_not_mem_internalUsers (id : Nat) :
    relationUser id ∉ internalUsers.map Prod.fst := by
  intro hmem
  have htake : (relationUser id).toList.take 12 = "relation_id_".toList := by
    rw [relationUser, String.toList_append]
    exact List.take_left' (by decide)
  have hother : ∀ user ∈ internalUsers.map Prod.fst,
      user.toList.take 12 ≠ "relation_id_".toList := by decide
  exact hother _ hmem htake

/-- A relation has an entry when it asks for a database with a name. -/
theorem ClientRelation.userDatabase_eq_some {r : ClientRelation} {e : String × String} :
    r.userDatabase = some e ↔
      e.1 = relationUser r.id ∧ r.database = some e.2 ∧ e.2 ≠ "" := by
  obtain ⟨user, database⟩ := e
  unfold userDatabase
  cases r.database with
  | none => simp
  | some name =>
      by_cases hname : name = ""
      · simp only [hname, ne_eq, not_true, if_false, reduceCtorEq, false_iff, not_and,
          Option.some.injEq, Decidable.not_not]
        intro _ h
        exact h.symm
      · simp only [ne_eq, hname, not_false_iff, if_true, Option.some.injEq, Prod.mk.injEq]
        constructor
        · rintro ⟨rfl, rfl⟩
          exact ⟨rfl, rfl, hname⟩
        · rintro ⟨rfl, rfl, -⟩
          exact ⟨rfl, rfl⟩

namespace ClientRelations

/-- The relation map is written entry by entry. -/
theorem collectUserRelations_eq_update (rs : ClientRelations) :
    rs.collectUserRelations = Dict.update ∅ (rs.relations.filterMap (·.userDatabase)) := by
  unfold collectUserRelations
  generalize (∅ : Dict String String) = d
  induction rs.relations generalizing d with
  | nil => rfl
  | cons r relations ih =>
      rw [List.foldl_cons, ih]
      cases h : r.userDatabase <;> simp [h]

theorem nodup_users (rs : ClientRelations) :
    ((rs.relations.filterMap (·.userDatabase)).map Prod.fst).Nodup := by
  obtain ⟨relations, hnodup⟩ := rs
  induction relations with
  | nil => exact List.nodup_nil
  | cons r relations ih =>
      rw [List.map_cons, List.nodup_cons] at hnodup
      have hrest := ih hnodup.2
      cases h : r.userDatabase with
      | none =>
          simp only [List.filterMap_cons, h]
          exact hrest
      | some e =>
          simp only [List.filterMap_cons, h, List.map_cons, List.nodup_cons]
          refine ⟨fun hmem => hnodup.1 ?_, hrest⟩
          simp only [List.mem_map, List.mem_filterMap] at hmem ⊢
          obtain ⟨e', ⟨r', hr', he'⟩, heq⟩ := hmem
          have huser : e.1 = relationUser r.id := (ClientRelation.userDatabase_eq_some.mp h).1
          have huser' : e'.1 = relationUser r'.id :=
            (ClientRelation.userDatabase_eq_some.mp he').1
          exact ⟨r', hr', relationUser_injective (by rw [← huser, ← huser', heq])⟩

/-- The relation map has one entry for each relation that asks for a
database, in the order of the relations. -/
theorem entries_collectUserRelations (rs : ClientRelations) :
    rs.collectUserRelations.entries = rs.relations.filterMap (·.userDatabase) := by
  rw [collectUserRelations_eq_update, Dict.entries_update_of_nodup rs.nodup_users (by simp)]
  rfl

end ClientRelations

/-- The users of the relation map are those of the relations that ask for a
database. -/
theorem ClientRelations.mem_keys_collectUserRelations {rs : ClientRelations} {user : String} :
    user ∈ rs.collectUserRelations.keys ↔
      ∃ r ∈ rs.relations, ∃ name, r.database = some name ∧ name ≠ "" ∧
        user = relationUser r.id := by
  rw [Dict.keys, rs.entries_collectUserRelations, List.mem_map]
  constructor
  · rintro ⟨e, he, rfl⟩
    obtain ⟨r, hr, hre⟩ := List.mem_filterMap.mp he
    obtain ⟨huser, hname, hne⟩ := ClientRelation.userDatabase_eq_some.mp hre
    exact ⟨r, hr, e.2, hname, hne, huser⟩
  · rintro ⟨r, hr, name, hname, hne, rfl⟩
    exact ⟨(relationUser r.id, name), List.mem_filterMap.mpr
      ⟨r, hr, ClientRelation.userDatabase_eq_some.mpr ⟨rfl, hname, hne⟩⟩, rfl⟩

/-- The loop over the users of the database takes no user out. -/
theorem mem_keys_addDatabaseUsers {a : DatabaseAnswers} {users : List String}
    {m m' : Dict String String} (h : addDatabaseUsers a users m = some m') {user : String}
    (hmem : user ∈ m.keys) : user ∈ m'.keys := by
  induction users generalizing m with
  | nil =>
      cases h
      exact hmem
  | cons u users ih =>
      rw [addDatabaseUsers] at h
      split at h
      · exact ih h hmem
      · split at h
        · contradiction
        · split at h
          · exact ih h (Dict.mem_keys_set.mpr (.inr hmem))
          · exact ih h hmem

/-- `PostgreSQLListUsersError` is not raised. -/
def DatabaseAnswers.usersListed (a : DatabaseAnswers) : Bool :=
  !a.clusterInitialised || !a.memberStarted || a.listUsers.isSome

/-- The map for the rules has every user of the relation map, unless the users
of the database cannot be listed: then it has none of them. -/
theorem mem_keys_relationsUserDatabasesMap {rs : ClientRelations} {a : DatabaseAnswers}
    {m : Dict String String} (h : relationsUserDatabasesMap rs a = some m) {user : String}
    (huser : user ∈ rs.collectUserRelations.keys) : user ∈ m.keys ↔ a.usersListed = true := by
  unfold relationsUserDatabasesMap at h
  dsimp only at h
  split at h
  · next hstart =>
      cases h
      rw [DatabaseAnswers.usersListed, hstart, Bool.true_or, Dict.mem_keys_update]
      exact iff_of_true (.inr huser) rfl
  · next hstart =>
      rw [DatabaseAnswers.usersListed, Bool.eq_false_iff.mpr hstart, Bool.false_or]
      split at h
      · next hlist =>
          cases h
          rw [hlist, Dict.mem_keys_update, Dict.keys_empty]
          obtain ⟨r, -, name, -, -, rfl⟩ := ClientRelations.mem_keys_collectUserRelations.mp huser
          have hinternal := relationUser_not_mem_internalUsers r.id
          simp [hinternal]
      · next users hlist =>
          rw [hlist]
          simp only [Option.bind_eq_bind, Option.bind_eq_some_iff] at h
          obtain ⟨m', hm', groups, -, h⟩ := h
          have hmem := mem_keys_addDatabaseUsers hm' huser
          split at h
          · cases h
            exact iff_of_true hmem rfl
          · cases h
            exact iff_of_true (Dict.mem_keys_update.mpr (.inr hmem)) rfl

/-- Until the database has started the map for the rules is the relation map,
followed by the internal users. -/
theorem entries_relationsUserDatabasesMap_of_not_started {rs : ClientRelations}
    {a : DatabaseAnswers} (h : (!a.clusterInitialised || !a.memberStarted) = true) :
    ∃ m, relationsUserDatabasesMap rs a = some m ∧
      m.entries = rs.collectUserRelations.entries ++ internalUsers := by
  refine ⟨rs.collectUserRelations.update internalUsers, ?_, ?_⟩
  · rw [relationsUserDatabasesMap, if_pos h]
  · refine Dict.entries_update_of_nodup (by decide) fun user hinternal hmem => ?_
    obtain ⟨r, -, name, -, -, rfl⟩ := ClientRelations.mem_keys_collectUserRelations.mp hmem
    exact relationUser_not_mem_internalUsers r.id hinternal

end PostgresqlK8s.Hba
