import PostgresqlK8s.Lib.Interrupted
import PostgresqlK8s.Lib.Ownership
import PostgresqlK8s.Users.CreateUser

/-!
# Users.DeleteUser

The deletion of a user.  What the user owns is handed over to the operator, one
database after the other, and its rights are taken back; then the role is
dropped.  Each database has a transaction of its own, so a deletion that stops
half-way has handed over a part, and the user is deleted again with the next
event.
-/

namespace PostgresqlK8s.Deletion

open Roles Ownership EStateM Interrupted
open Users (RoleCatalog)

/-! ## the server -/

/-- What `pg_database` has of a database. -/
structure DatabaseRow where
  isTemplate : Bool
  allowsConnections : Bool
deriving DecidableEq, Repr

structure Server where
  roles : RoleCatalog
  databases : List (String × DatabaseRow)
  objects : List (Object String String Nat)

namespace Server

variable (s : Server)

/-- The user is one of `pg_user`. -/
def LogsIn (user : String) : Prop := (s.roles.role user).any Attributes.login = true

instance (user : String) : Decidable (s.LogsIn user) := inferInstanceAs (Decidable (_ = true))

/-- The user can connect to the database. -/
def Accepts (user database : String) : Prop :=
  s.LogsIn user ∧ (s.databases.lookup database).any DatabaseRow.allowsConnections = true

instance (user database : String) : Decidable (s.Accepts user database) :=
  inferInstanceAs (Decidable (_ ∧ _))

/-- `SELECT datname FROM pg_database WHERE datistemplate = false`. -/
def listed : List String := (s.databases.filter fun row => !row.2.isTemplate).map Prod.fst

def reassignOwned (database old new : String) : Option Server :=
  if (s.roles.role old).isSome ∧ (s.roles.role new).isSome then
    some { s with objects := Ownership.reassignOwned database old new s.objects }
  else none

def dropOwned (database old : String) : Option Server :=
  if (s.roles.role old).isSome then
    some { s with objects := Ownership.dropOwned database old s.objects }
  else none

def dropRole (name : String) : Option Server :=
  if (s.roles.role name).isSome ∧ ∀ o ∈ s.objects, ¬o.DependsOn name then
    some { s with roles := s.roles.removeRole name }
  else none

end Server

/-! ## delete_user -/

/-- What ends the deletion of a user. -/
inductive DeleteUserFailure
  /-- `psycopg2.Error`. -/
  | database
  /-- `PostgreSQLListUsersError`. -/
  | listUsers
  /-- `PostgreSQLDeleteUserError`. -/
  | deleteUser
deriving DecidableEq, Repr

/-- `with self._connect_to_database(database)`. -/
def connected {α : Type} (user database : String) (x : Call DeleteUserFailure Server α) :
    Call DeleteUserFailure Server α :=
  session .database (fun s => s.Accepts user database) x

/-- What the class knows of the server. -/
structure PostgreSQL where
  user : String
  database : String

namespace PostgreSQL

variable (p : PostgreSQL)

/-- `list_users`, as whether it has the user. -/
def listsUser (user : String) : Call DeleteUserFailure Server Bool :=
  tryCatch (connected p.user p.database (query .database fun s => decide (s.LogsIn user)))
    fun _ => throw .listUsers

/-- The loop over the databases. -/
def reassignAll (user : String) : List String → Call DeleteUserFailure Server Unit
  | [] => pure ()
  | database :: databases => do
      connected p.user database do
        execute .database (·.reassignOwned database user p.user)
        execute .database (·.dropOwned database user)
      reassignAll user databases

/-- The `try` block of `delete_user`. -/
def dropUser (user : String) : Call DeleteUserFailure Server Unit := do
  let databases ← connected p.user p.database (query .database Server.listed)
  p.reassignAll user databases
  connected p.user p.database (execute .database (·.dropRole user))

/-- `delete_user`. -/
def deleteUser (user : String) : Call DeleteUserFailure Server Unit := do
  if ← p.listsUser user then
    tryCatch (p.dropUser user) fun _ => throw .deleteUser
  else pure ()

end PostgreSQL

/-! ## what the deletion is for -/

/-- The server without the user, whose objects are the operator's. -/
def Server.without (s : Server) (user operator : String) : Server where
  roles := s.roles.removeRole user
  databases := s.databases
  objects := s.objects.map (·.handOver user operator)

/-- Every database of the list can be connected to, and is enough to reach what
depends on the user. -/
structure Deletable (p : PostgreSQL) (user : String) (s : Server) : Prop where
  connects : s.Accepts p.user p.database
  listed : ∀ database ∈ s.listed, s.Accepts p.user database
  reached : ∀ o ∈ s.objects, o.DependsOn user → ∃ database ∈ s.listed, o.ReachedFrom database

/-! ## a deletion that is not stopped -/

section Complete

variable {p : PostgreSQL} {s : Server} {t : Attempt Server} {user database : String} {u : Unit}

theorem Server.isSome_of_logsIn (h : s.LogsIn user) : (s.roles.role user).isSome := by
  rw [Server.LogsIn] at h
  cases hrole : s.roles.role user with
  | none =>
    rw [hrole] at h
    cases h
  | some a => rfl

/-- A role is dropped when it exists and no object depends on it. -/
theorem dropRole_eq_some {t : Server} : s.dropRole user = some t ↔
    ((s.roles.role user).isSome ∧ ∀ o ∈ s.objects, ¬o.DependsOn user) ∧
      t = { s with roles := s.roles.removeRole user } := by
  rw [Server.dropRole]
  split
  · next h => rw [Option.some.injEq, and_iff_right h, eq_comm]
  · next h => exact iff_of_false nofun fun h' => h h'.1

/-- The server after the loop over the databases. -/
def Server.handOverIn (s : Server) (user operator : String) (databases : List String) : Server :=
  { s with objects := Ownership.handOverIn databases user operator s.objects }

/-- The statements of one transaction. -/
theorem reassign_drop_eq_some (hne : user ≠ p.user) {t : Server} :
    (s.reassignOwned database user p.user).bind (·.dropOwned database user) = some t ↔
      ((s.roles.role user).isSome ∧ (s.roles.role p.user).isSome) ∧
        t = s.handOverIn user p.user [database] := by
  rw [Server.reassignOwned]
  split
  · next h =>
    rw [Option.bind_some, Server.dropOwned, if_pos h.1, Option.some.injEq, and_iff_right h,
      Server.handOverIn, eq_comm]
    simp only [dropOwned_reassignOwned hne]
  · next h => exact iff_of_false (by rw [Option.bind_none]; nofun) fun h' => h h'.1

/-- **Loop**: the objects are handed over where the operator can connect to every database.
-/
theorem reassignAll_ok (hne : user ≠ p.user) (huser : (s.roles.role user).isSome)
    {databases : List String} : (p.reassignAll user databases).run ⟨s, none⟩ = .ok u t ↔
      (∀ database ∈ databases, s.Accepts p.user database) ∧
        t = ⟨s.handOverIn user p.user databases, none⟩ := by
  induction databases generalizing s with
  | nil =>
    rw [PostgreSQL.reassignAll, run_pure_ok, Server.handOverIn, handOverIn_nil]
    simp [eq_comm]
  | cons database databases ih =>
    have hrest : (s.handOverIn user p.user [database]).handOverIn user p.user databases =
        s.handOverIn user p.user (database :: databases) := by
      simp only [Server.handOverIn, handOverIn_handOverIn hne, List.singleton_append]
    simp only [PostgreSQL.reassignAll, connected, run_bind_ok, execute_execute_session_ok,
      List.forall_mem_cons]
    constructor
    · rintro ⟨-, -, ⟨haccepts, s₁, hs₁, rfl⟩, hrun⟩
      obtain ⟨-, rfl⟩ := (reassign_drop_eq_some hne).mp hs₁
      obtain ⟨hall, rfl⟩ := (ih (s := s.handOverIn user p.user [database]) huser).mp hrun
      exact ⟨⟨haccepts, hall⟩, by rw [hrest]⟩
    · rintro ⟨⟨haccepts, hall⟩, rfl⟩
      exact ⟨(), _, ⟨haccepts, _, (reassign_drop_eq_some hne).mpr
        ⟨⟨huser, Server.isSome_of_logsIn haccepts.1⟩, rfl⟩, rfl⟩,
        (ih (s := s.handOverIn user p.user [database]) huser).mpr ⟨hall, by rw [hrest]⟩⟩

/-- Undisturbed, the user is dropped exactly when it is deletable. -/
theorem dropUser_ok (hne : user ≠ p.user) (hlogin : s.LogsIn user) :
    (p.dropUser user).run ⟨s, none⟩ = .ok u t ↔
      Deletable p user s ∧ t = ⟨s.without user p.user, none⟩ := by
  have huser := Server.isSome_of_logsIn hlogin
  have hfree : (∀ o ∈ (s.handOverIn user p.user s.listed).objects, ¬o.DependsOn user) ↔
      ∀ o ∈ s.objects, o.DependsOn user → ∃ database ∈ s.listed, o.ReachedFrom database :=
    forall_mem_handOverIn hne
  have hwithout (h : ∀ o ∈ s.objects, o.DependsOn user →
      ∃ database ∈ s.listed, o.ReachedFrom database) :
      { s.handOverIn user p.user s.listed with roles := s.roles.removeRole user } =
        s.without user p.user := by
    simp only [Server.handOverIn, Server.without, handOverIn_eq_map h]
  simp only [PostgreSQL.dropUser, connected, run_bind_ok, query_session_ok]
  constructor
  · rintro ⟨databases, -, ⟨hconnects, rfl, rfl⟩, _, _, hloop, hdrop⟩
    obtain ⟨hlisted, rfl⟩ := (reassignAll_ok hne huser).mp hloop
    obtain ⟨-, s₁, hs₁, rfl⟩ := execute_session_ok.mp hdrop
    obtain ⟨⟨-, hnone⟩, rfl⟩ := dropRole_eq_some.mp hs₁
    have hreached := hfree.mp hnone
    exact ⟨⟨hconnects, hlisted, hreached⟩, congrArg (Attempt.mk · none) (hwithout hreached)⟩
  · rintro ⟨⟨hconnects, hlisted, hreached⟩, rfl⟩
    exact ⟨_, _, ⟨hconnects, rfl, rfl⟩, (), _, (reassignAll_ok hne huser).mpr ⟨hlisted, rfl⟩,
      execute_session_ok.mpr ⟨hconnects, _,
        dropRole_eq_some.mpr ⟨⟨huser, hfree.mpr hreached⟩, rfl⟩,
        congrArg (Attempt.mk · none) (hwithout hreached).symm⟩⟩

/-- Undisturbed, the users are listed as they are. -/
theorem listsUser_ok {b : Bool} : (p.listsUser user).run ⟨s, none⟩ = .ok b t ↔
    s.Accepts p.user p.database ∧ b = decide (s.LogsIn user) ∧ t = ⟨s, none⟩ := by
  rw [PostgreSQL.listsUser, run_tryCatch_ok fun e s a t h => by cases run_throw_ok.mp h]
  exact query_session_ok

/-- Undisturbed, a user that logs in is deleted if it is deletable, and another role is left
alone. -/
theorem deleteUser_ok (hne : user ≠ p.user) :
    (p.deleteUser user).run ⟨s, none⟩ = .ok u t ↔
      if s.LogsIn user then Deletable p user s ∧ t = ⟨s.without user p.user, none⟩
      else s.Accepts p.user p.database ∧ t = ⟨s, none⟩ := by
  rw [PostgreSQL.deleteUser, run_bind_ok]
  simp only [listsUser_ok]
  split
  · next hlogin =>
    constructor
    · rintro ⟨-, -, ⟨-, rfl, rfl⟩, hrun⟩
      rw [decide_eq_true hlogin, if_pos rfl,
        run_tryCatch_ok fun e s a t h => by cases run_throw_ok.mp h] at hrun
      exact (dropUser_ok hne hlogin).mp hrun
    · rintro ⟨hdeletable, rfl⟩
      refine ⟨_, _, ⟨hdeletable.connects, rfl, rfl⟩, ?_⟩
      rw [decide_eq_true hlogin, if_pos rfl,
        run_tryCatch_ok fun e s a t h => by cases run_throw_ok.mp h]
      exact (dropUser_ok hne hlogin).mpr ⟨hdeletable, rfl⟩
  · next hlogin =>
    constructor
    · rintro ⟨-, -, ⟨hconnects, rfl, rfl⟩, hrun⟩
      rw [decide_eq_false hlogin, if_neg Bool.false_ne_true, run_pure_ok] at hrun
      exact ⟨hconnects, hrun.2.symm⟩
    · rintro ⟨hconnects, rfl⟩
      refine ⟨_, _, ⟨hconnects, rfl, rfl⟩, ?_⟩
      rw [decide_eq_false hlogin, if_neg Bool.false_ne_true, run_pure_ok]
      exact ⟨rfl, rfl⟩

end Complete

/-- **Deletion**: a complete deletion returns where the databases that are listed
can be connected to and reach all that depends on the user.  Then the role is
gone, its objects are the operator's, and all else is as before. -/
theorem deleteUser_returns_iff {p : PostgreSQL} {s : Server} {user : String}
    (hlogin : s.LogsIn user) (hne : user ≠ p.user) :
    ((∃ t, (p.deleteUser user).run ⟨s, none⟩ = .ok () t) ↔ Deletable p user s) ∧
      ∀ t, (p.deleteUser user).run ⟨s, none⟩ = .ok () t →
        (∀ name, t.server.roles.role name = if name = user then none else s.roles.role name) ∧
        List.Forall₂ (fun o o' => o'.id = o.id ∧ o'.database = o.database ∧
          (o'.owner = if o.owner = user then p.user else o.owner) ∧
          ∀ name, name ∈ o'.granted ↔ name ∈ o.granted ∧ name ≠ user)
          s.objects t.server.objects := by
  have hok (t : Attempt Server) : (p.deleteUser user).run ⟨s, none⟩ = .ok () t ↔
      Deletable p user s ∧ t = ⟨s.without user p.user, none⟩ := by
    rw [deleteUser_ok hne, if_pos hlogin]
  refine ⟨⟨fun ⟨t, ht⟩ => ((hok t).mp ht).1, fun h => ⟨_, (hok _).mpr ⟨h, rfl⟩⟩⟩, fun t ht => ?_⟩
  obtain ⟨-, rfl⟩ := (hok t).mp ht
  refine ⟨fun name => ?_, ?_⟩
  · split
    · next hname =>
      subst hname
      exact Catalog.role_removeRole_self
    · next hname => exact Catalog.role_removeRole_of_ne hname
  · refine List.forall₂_map_right_iff.mpr (List.forall₂_same.mpr fun o _ => ?_)
    exact ⟨rfl, rfl, rfl, fun name => by simp [Object.handOver, Object.reassign, Object.revoke]⟩

/-- A client has a table in a database, and rights on another one. -/
def clientServer : Server where
  roles := {
    role := fun name =>
      if name = "operator" then some ⟨true, true, true, true, some "admin"⟩
      else if name = "relation_id_4" then some ⟨true, false, false, false, some "first"⟩ else none
    memberships := []
    isSome_of_mem := by simp }
  databases := [("postgres", ⟨false, true⟩), ("app", ⟨false, true⟩), ("template1", ⟨true, true⟩)]
  objects := [⟨0, none, "operator", ["relation_id_4"]⟩, ⟨1, some "app", "relation_id_4", []⟩,
    ⟨2, some "app", "operator", ["relation_id_4", "relation_id_5"]⟩]

/-- The connection of the charm. -/
def operatorConnection : PostgreSQL := ⟨"operator", "postgres"⟩

/-- The user of that client is deleted. -/
theorem deleteUser_returns_iff_client :
    ∃ t, (operatorConnection.deleteUser "relation_id_4").run ⟨clientServer, none⟩ = .ok () t :=
  (deleteUser_returns_iff (by decide) (by decide)).1.mpr ⟨by decide, by decide, by decide⟩

/-! ## what an attempt leaves behind -/

theorem unhindered_reassignAll (p : PostgreSQL) (user : String) (databases : List String) :
    Unhindered (p.reassignAll user databases) := by
  induction databases with
  | nil => exact unhindered_pure ()
  | cons database databases ih =>
    exact unhindered_bind (unhindered_session (unhindered_bind (unhindered_execute _ _) fun _ =>
      unhindered_execute _ _)) fun _ => ih

/-- What ends well in so many steps ends well in any number. -/
theorem unhindered_deleteUser (p : PostgreSQL) (user : String) :
    Unhindered (p.deleteUser user) := by
  have hlists : Unhindered (p.listsUser user) :=
    unhindered_tryCatch (unhindered_session (unhindered_query _ _))
  refine unhindered_bind hlists fun b => ?_
  split
  · exact unhindered_tryCatch (unhindered_bind (unhindered_session (unhindered_query _ _))
      fun databases => unhindered_bind (unhindered_reassignAll p user databases) fun _ =>
        unhindered_session (unhindered_execute _ _))
  · exact unhindered_pure ()

/-- The server after attempts that did not end well: the user is handed over in some
of the databases. -/
structure Stopped (p : PostgreSQL) (user : String) (s t : Server) : Prop where
  roles : t.roles = s.roles
  databases : t.databases = s.databases
  objects : ∃ ds, (∀ d ∈ ds, d ∈ s.listed) ∧
    t.objects = Ownership.handOverIn ds user p.user s.objects

section Stopped

variable {p : PostgreSQL} {s t : Server} {user : String}

namespace Stopped

theorem refl (s : Server) : Stopped p user s s :=
  ⟨rfl, rfl, [], by simp, handOverIn_nil.symm⟩

/-- A stopped attempt leaves the logins. -/
theorem logsIn_iff (h : Stopped p user s t) {name : String} : t.LogsIn name ↔ s.LogsIn name := by
  rw [Server.LogsIn, Server.LogsIn, h.roles]

/-- It leaves the connections. -/
theorem accepts_iff (h : Stopped p user s t) {name database : String} :
    t.Accepts name database ↔ s.Accepts name database := by
  rw [Server.Accepts, Server.Accepts, h.logsIn_iff, h.databases]

/-- It leaves the databases. -/
theorem listed (h : Stopped p user s t) : t.listed = s.listed := by
  rw [Server.listed, Server.listed, h.databases]

/-- It leaves the user as deletable as it was. -/
theorem deletable_iff (h : Stopped p user s t) (hne : user ≠ p.user) :
    Deletable p user t ↔ Deletable p user s := by
  have hreached : (∀ o ∈ t.objects, o.DependsOn user → ∃ d ∈ s.listed, o.ReachedFrom d) ↔
      ∀ o ∈ s.objects, o.DependsOn user → ∃ d ∈ s.listed, o.ReachedFrom d := by
    obtain ⟨ds, hds, hobjects⟩ := h.objects
    rw [hobjects, forall_reached_handOverIn hne hds]
  constructor
  · rintro ⟨hconnects, hlisted, hall⟩
    rw [h.listed] at hlisted hall
    exact ⟨h.accepts_iff.mp hconnects, fun d hd => h.accepts_iff.mp (hlisted d hd),
      hreached.mp hall⟩
  · rintro ⟨hconnects, hlisted, hall⟩
    refine ⟨h.accepts_iff.mpr hconnects, ?_, ?_⟩
    · rw [h.listed]
      exact fun d hd => h.accepts_iff.mpr (hlisted d hd)
    · rw [h.listed]
      exact hreached.mpr hall

/-- What is left in the end is the same as without it. -/
theorem without (h : Stopped p user s t) (hne : user ≠ p.user) :
    t.without user p.user = s.without user p.user := by
  obtain ⟨ds, -, hobjects⟩ := h.objects
  simp only [Server.without, h.roles, h.databases, hobjects, map_handOver_handOverIn hne]

/-- Every object is as it was, or handed over. -/
theorem forall₂ (h : Stopped p user s t) :
    List.Forall₂ (fun o o' => o' = o ∨ o' = o.handOver user p.user) s.objects t.objects := by
  obtain ⟨ds, -, hobjects⟩ := h.objects
  rw [hobjects]
  exact forall₂_handOverIn

/-- Handing over in one more database is a step of a stopped attempt. -/
theorem handOverIn (h : Stopped p user s t) (hne : user ≠ p.user) {database : String}
    (hdatabase : database ∈ s.listed) : Stopped p user s (t.handOverIn user p.user [database]) := by
  obtain ⟨ds, hds, hobjects⟩ := h.objects
  refine ⟨h.roles, h.databases, ds ++ [database], ?_, ?_⟩
  · rw [List.forall_mem_append, List.forall_mem_singleton]
    exact ⟨hds, hdatabase⟩
  · rw [Server.handOverIn, hobjects, handOverIn_handOverIn hne]

end Stopped

/-- A transaction hands over the user in one database more. -/
theorem triple_reassignAll (hne : user ≠ p.user) {databases : List String}
    (hlisted : ∀ database ∈ databases, database ∈ s.listed) :
    Triple (fun a => Stopped p user s a.server) (p.reassignAll user databases)
      (fun _ a => Stopped p user s a.server) fun a => Stopped p user s a.server := by
  induction databases with
  | nil => exact triple_pure fun _ h => h
  | cons database databases ih =>
    rw [List.forall_mem_cons] at hlisted
    refine triple_bind (triple_execute_execute_session (fun t t' ht ht' => ?_) fun _ h => h)
      fun _ => ih hlisted.2
    obtain ⟨-, rfl⟩ := (reassign_drop_eq_some hne).mp ht'
    exact ht.handOverIn hne hlisted.1

/-- Wherever dropping the user stops, it is a stopped attempt. -/
theorem triple_dropUser (hne : user ≠ p.user) :
    Triple (fun a => Stopped p user s a.server) (p.dropUser user) (fun _ _ => True)
      fun a => Stopped p user s a.server := by
  refine triple_bind (triple_query_session fun _ h => h) fun databases => ?_
  refine triple_bind (R := fun _ a => Stopped p user s a.server) (fun a ha => ?_) fun _ =>
    triple_execute_session (Q := fun _ => True) (fun _ _ _ _ => trivial) fun _ h => h
  obtain ⟨ha, hdatabases⟩ := ha
  rw [ha.listed] at hdatabases
  exact triple_reassignAll hne (fun database h => hdatabases ▸ h) a ha

/-- An attempt leaves the server as an attempt that stops does, or it ends well. -/
theorem triple_deleteUser (hne : user ≠ p.user) :
    Triple (fun a => Stopped p user s a.server) (p.deleteUser user) (fun _ _ => True)
      fun a => Stopped p user s a.server := by
  refine triple_bind (R := fun _ a => Stopped p user s a.server)
    (triple_tryCatch ?_ fun _ => triple_throw fun _ h => h) fun b => ?_
  · exact triple_conseq (triple_query_session fun _ h => h) (fun _ h => h) (fun _ _ h => h.1)
      fun _ h => h
  · split
    · exact triple_tryCatch (triple_dropUser hne) fun _ => triple_throw fun _ h => h
    · exact triple_pure fun _ _ => trivial

/-- An attempt does nothing where there is no such user. -/
theorem triple_deleteUser_of_not_logsIn (h : ¬s.LogsIn user) :
    Triple (fun a => a.server = s) (p.deleteUser user) (fun _ a => a.server = s)
      fun a => a.server = s := by
  have hlists : Triple (fun a => a.server = s) (p.listsUser user)
      (fun b a => a.server = s ∧ b = decide (a.server.LogsIn user)) fun a => a.server = s :=
    triple_tryCatch (triple_query_session (P := (· = s)) (E := (· = s)) fun _ h => h) fun _ =>
      triple_throw fun _ h => h
  refine triple_bind hlists fun b a ha => ?_
  obtain ⟨ha, rfl⟩ := ha
  rw [ha, decide_eq_false h, if_neg Bool.false_ne_true]
  exact ha

/-- The user that is gone does not log in. -/
theorem not_logsIn_without : ¬(s.without user p.user).LogsIn user := by
  rw [Server.LogsIn, Server.without, Catalog.role_removeRole_self]
  nofun

/-- The user is not deleted twice. -/
theorem deleteUser_again (hne : user ≠ p.user) (hlogin : s.LogsIn user) {u : Unit}
    {t : Attempt Server} (h : (p.deleteUser user).run ⟨s, none⟩ = .ok u t) :
    (p.deleteUser user).run t = .ok u t ∧
      ∀ remaining, leaves ((p.deleteUser user).run ⟨t.server, remaining⟩) = t.server := by
  rw [deleteUser_ok hne, if_pos hlogin] at h
  obtain ⟨hdeletable, rfl⟩ := h
  refine ⟨?_, leaves_of_triple (P := (· = s.without user p.user)) (Q := (· = s.without user p.user))
    (triple_deleteUser_of_not_logsIn not_logsIn_without) rfl⟩
  have hrole : (s.without user p.user).roles.role p.user = s.roles.role p.user :=
    Catalog.role_removeRole_of_ne hne.symm
  rw [deleteUser_ok hne, if_neg not_logsIn_without, Server.Accepts, Server.LogsIn, hrole]
  exact ⟨hdeletable.connects, rfl⟩

/-- After a stopped attempt a complete one ends as it would have at first. -/
theorem Stopped.run_iff (h : Stopped p user s t) (hne : user ≠ p.user) (hlogin : s.LogsIn user)
    (u : Unit) (a : Attempt Server) : (p.deleteUser user).run ⟨t, none⟩ = .ok u a ↔
      (p.deleteUser user).run ⟨s, none⟩ = .ok u a := by
  rw [deleteUser_ok hne, deleteUser_ok hne, if_pos hlogin, if_pos (h.logsIn_iff.mpr hlogin),
    h.deletable_iff hne, h.without hne]

/-- **Attempts again**: however many attempts have stopped half-way, a complete one
ends as it would have ended at first.  Until then every object is as it was, or the
operator's. -/
theorem deleteUser_resumes {p : PostgreSQL} {s : Server} {user : String} (hne : user ≠ p.user)
    (budgets : List (Option Nat)) {t : Attempt Server} :
    ((p.deleteUser user).run ⟨attempts (p.deleteUser user) s budgets, none⟩ = .ok () t ↔
      (p.deleteUser user).run ⟨s, none⟩ = .ok () t) ∧
    List.Forall₂ (fun o o' => o' = o ∨ o' = o.handOver user p.user) s.objects
      (attempts (p.deleteUser user) s budgets).objects := by
  by_cases hlogin : s.LogsIn user
  · refine ⟨run_attempts_iff (unhindered_deleteUser p user) (triple_deleteUser hne)
      (fun t ht => ht.run_iff hne hlogin) (fun u t h => deleteUser_again hne hlogin h)
      (.refl s), ?_⟩
    obtain hstopped | ⟨u, hcomplete⟩ := stopped_or_complete budgets
      (unhindered_deleteUser p user) (triple_deleteUser hne)
      (fun t ht u a => (ht.run_iff hne hlogin u a).mp)
      (fun u t h => (deleteUser_again hne hlogin h).2) (.refl s)
    · exact hstopped.forall₂
    · rw [deleteUser_ok hne, if_pos hlogin] at hcomplete
      have hwithout : attempts (p.deleteUser user) s budgets = s.without user p.user :=
        congrArg Attempt.server hcomplete.2
      rw [hwithout]
      exact List.forall₂_map_right_iff.mpr (List.forall₂_same.mpr fun _ _ => .inr rfl)
  · have hsame : attempts (p.deleteUser user) s budgets = s :=
      attempts_of_triple (P := (· = s)) (triple_deleteUser_of_not_logsIn hlogin) rfl
    rw [hsame]
    exact ⟨Iff.rfl, List.forall₂_same.mpr fun _ _ => .inl rfl⟩

end Stopped

/-- The first attempt stops after the first database, the second one in the next. -/
theorem deleteUser_resumes_client :
    List.Forall₂ (fun o o' => o' = o ∨ o' = o.handOver "relation_id_4" "operator")
      clientServer.objects (attempts (operatorConnection.deleteUser "relation_id_4") clientServer
        [some 10, some 13]).objects :=
  (deleteUser_resumes (t := ⟨clientServer, none⟩)
    (show "relation_id_4" ≠ operatorConnection.user by decide) [some 10, some 13]).2

end PostgresqlK8s.Deletion
