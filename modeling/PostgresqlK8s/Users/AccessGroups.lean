import PostgresqlK8s.Hba.UserMap
import PostgresqlK8s.Lib.Interrupted
import PostgresqlK8s.Lib.Like
import PostgresqlK8s.Users.CreateUser

/-!
# Users.AccessGroups

The groups that the rules for connections are written for.  The system users are
members of one, and the users of the relations of another.  A cluster is given
the groups when it is initialised, and one that had none when it is upgraded.  The
groups are created in one transaction and the system users become members in the
next one; whether there is anything to do is read off the groups, so a call that
stops between the two is not made up for.
-/

namespace PostgresqlK8s.AccessGroups

open Roles EStateM Interrupted Like
open Hba (accessGroups)
open Users (RoleCatalog rules accessGroupRelation)

/-! ## the server -/

/-- The roles, with the list of them. -/
structure Server where
  roles : RoleCatalog
  names : List String
  mem_names : ∀ name, (roles.role name).isSome ↔ name ∈ names

/-- `ACCESS_GROUP_INTERNAL`. -/
def accessGroupInternal : String := "internal_access"

/-- `SYSTEM_USERS`. -/
def systemUsers : List String := ["backup", "replication", "rewind", "operator", "monitoring"]

def likeText (pattern name : String) : Bool := like (parts pattern.toList) name.toList

/-- The names that `list_users_from_relation` looks for. -/
def relationPatterns : List String :=
  ["relation_id_%", "relation-%", "pgbouncer_auth_relation_%", "%_user_%_%"]

namespace Server

variable (s : Server)

/-- The role is one of `pg_user`. -/
def LogsIn (name : String) : Prop := (s.roles.role name).any Attributes.login = true

instance (name : String) : Decidable (s.LogsIn name) := inferInstanceAs (Decidable (_ = true))

/-- The role is one of `pg_group`. -/
def IsGroup (name : String) : Prop := (s.roles.role name).any (fun a => !a.login) = true

instance (name : String) : Decidable (s.IsGroup name) := inferInstanceAs (Decidable (_ = true))

/-- The rows of `list_access_groups`. -/
def accessGroupRows : List String :=
  s.names.filter fun name => s.IsGroup name ∧ likeText "%_access" name = true

/-- The user has a name of a relation. -/
def OfRelation (name : String) : Prop :=
  s.LogsIn name ∧ relationPatterns.any (likeText · name) = true

instance (name : String) : Decidable (s.OfRelation name) := inferInstanceAs (Decidable (_ ∧ _))

/-- The rows of `list_users_from_relation`. -/
def relationUserRows : List String := s.names.filter fun name => s.OfRelation name

/-- The rows of `list_users`, with a group. -/
def memberRows (group : String) : List String :=
  s.names.filter fun name =>
    s.LogsIn name ∧ s.IsGroup group ∧
      s.roles.memberships.any fun edge => edge.1 = name ∧ edge.2 = group

/-- `CREATE ROLE name NOLOGIN`. -/
def createGroup (name : String) : Option Server :=
  if h : rules.reserved name = false ∧ s.roles.role name = none then
    some {
      roles := s.roles.setRole name .initial
      names := name :: s.names
      mem_names := fun name' => by
        by_cases hname : name' = name
        · simp [hname]
        · simp [hname, s.mem_names] }
  else none

/-- `GRANT group TO member`. -/
def grant (group member : String) : Option Server :=
  if h : s.roles.Grantable rules group member then
    some ⟨s.roles.addMember group member h.isSome, s.names, s.mem_names⟩
  else none

/-- `GRANT group TO member, member`. -/
def grantAll (group : String) (members : List String) : Option Server :=
  members.foldlM (fun s member => s.grant group member) s

/-- The roles change as those of the catalogue do. -/
theorem roles_createGroup (name : String) :
    (s.createGroup name).map Server.roles = s.roles.createRole rules name [.login false] := by
  rw [createGroup, Catalog.createRole]
  split
  · next h =>
    rw [if_pos ⟨h.1, h.2, by decide⟩]
    rfl
  · next h => rw [if_neg fun h' => h ⟨h'.1, h'.2.1⟩, Option.map_none]

/-- The roles of the server follow the rules of memberships. -/
theorem roles_grant (group member : String) :
    (s.grant group member).map Server.roles = s.roles.grant rules group member := by
  rw [grant, Catalog.grant]
  split
  · rfl
  · rfl

end Server

/-! ## the calls -/

/-- What ends a call. -/
inductive Failure
  /-- `PostgreSQLListGroupsError`. -/
  | listGroups
  /-- `PostgreSQLListUsersError`. -/
  | listUsers
  /-- `PostgreSQLCreateGroupError`. -/
  | createGroup
  /-- `PostgreSQLAssignGroupError`. -/
  | assignGroup
deriving DecidableEq, Repr

/-- `with self._connect_to_database()`. -/
def connected {α : Type} (e : Failure) (x : Call Failure Server α) : Call Failure Server α :=
  session e (fun s => s.LogsIn "operator") x

/-- `list_access_groups`. -/
def listAccessGroups : Call Failure Server (List String) :=
  connected .listGroups (query .listGroups Server.accessGroupRows)

/-- `list_users_from_relation`. -/
def listUsersFromRelation : Call Failure Server (List String) :=
  connected .listUsers (query .listUsers Server.relationUserRows)

/-- `list_users`, with a group. -/
def listUsers (group : String) : Call Failure Server (List String) :=
  connected .listUsers (query .listUsers (·.memberRows group))

/-- The loop of `create_access_groups`. -/
def createMissing : List String → Call Failure Server Unit
  | [] => pure ()
  | group :: groups => do
      let present ← query .createGroup fun s => (s.roles.role group).isSome
      if present then createMissing groups
      else do
        execute .createGroup (·.createGroup group)
        createMissing groups

/-- `create_access_groups`. -/
def createAccessGroups : Call Failure Server Unit :=
  connected .createGroup (createMissing accessGroups)

/-- The loop of `grant_internal_access_group_memberships`. -/
def grantInternal : List String → Call Failure Server Unit
  | [] => pure ()
  | user :: users => do
      execute .assignGroup (·.grant accessGroupInternal user)
      grantInternal users

/-- `grant_internal_access_group_memberships`. -/
def grantInternalAccessGroupMemberships : Call Failure Server Unit :=
  connected .assignGroup (grantInternal systemUsers)

/-- `grant_relation_access_group_memberships`. -/
def grantRelationAccessGroupMemberships : Call Failure Server Unit := do
  let relUsers ← listUsersFromRelation
  if relUsers = [] then pure ()
  else connected .assignGroup (execute .assignGroup (·.grantAll accessGroupRelation relUsers))

/-- The two lists have the same elements. -/
def SameSet (xs ys : List String) : Prop := (∀ x ∈ xs, x ∈ ys) ∧ ∀ y ∈ ys, y ∈ xs

instance (xs ys : List String) : Decidable (SameSet xs ys) := inferInstanceAs (Decidable (_ ∧ _))

/-- The access groups of `_initialize_cluster`. -/
def initializeAccessGroups : Call Failure Server Unit := do
  let groups ← listAccessGroups
  if SameSet groups accessGroups then pure ()
  else do
    createAccessGroups
    grantInternalAccessGroupMemberships

/-- The users of the relations are the members of their group. -/
def relationUsersGrouped : Call Failure Server Bool := do
  let relUsers ← listUsersFromRelation
  let members ← listUsers accessGroupRelation
  return decide (SameSet relUsers members)

/-- What `_set_up_new_access_roles_for_legacy` asks first. -/
def accessRolesSetUp : Call Failure Server Bool := do
  let groups ← listAccessGroups
  if SameSet groups accessGroups then relationUsersGrouped else pure false

/-- `_set_up_new_access_roles_for_legacy`. -/
def setUpNewAccessRolesForLegacy : Call Failure Server Unit := do
  let setUp ← accessRolesSetUp
  if setUp then pure ()
  else do
    createAccessGroups
    grantInternalAccessGroupMemberships
    grantRelationAccessGroupMemberships

/-! ## what the calls leave alone -/

/-- The server with access groups and memberships of its users in them, and nothing
else. -/
structure Extends (s t : Server) : Prop where
  role : ∀ name, t.roles.role name = s.roles.role name ∨
    name ∈ accessGroups ∧ s.roles.role name = none ∧ t.roles.role name = some .initial
  kept : ∀ edge ∈ s.roles.memberships, edge ∈ t.roles.memberships
  granted : ∀ edge ∈ t.roles.memberships, edge ∈ s.roles.memberships ∨
    edge.2 = accessGroupInternal ∧ edge.1 ∈ systemUsers ∨
    edge.2 = accessGroupRelation ∧ s.OfRelation edge.1

variable {s t t' : Server} {name group user : String} {groups users : List String}

theorem Extends.refl (s : Server) : Extends s s :=
  ⟨fun _ => .inl rfl, fun _ h => h, fun _ h => .inl h⟩

/-- Roles stay. -/
theorem Extends.isSome (h : Extends s t) (hs : (s.roles.role name).isSome) :
    (t.roles.role name).isSome := by
  obtain hsame | ⟨-, -, hnew⟩ := h.role name
  · rwa [hsame]
  · rw [hnew]
    rfl

/-- A group that is created is not a user. -/
theorem Extends.logsIn_iff (h : Extends s t) : t.LogsIn name ↔ s.LogsIn name := by
  rw [Server.LogsIn, Server.LogsIn]
  obtain hsame | ⟨-, hnone, hnew⟩ := h.role name
  · rw [hsame]
  · rw [hnone, hnew]
    decide

/-- The users of relations stay the same. -/
theorem Extends.ofRelation_iff (h : Extends s t) : t.OfRelation name ↔ s.OfRelation name := by
  rw [Server.OfRelation, Server.OfRelation, h.logsIn_iff]

/-- Creating a group adds it, and no member. -/
theorem Extends.createGroup (h : Extends s t) (hname : name ∈ accessGroups)
    (ht : t.createGroup name = some t') : Extends s t' ∧ (t'.roles.role name).isSome ∧
      (∀ other, (t.roles.role other).isSome → (t'.roles.role other).isSome) ∧
      t'.roles.memberships = t.roles.memberships := by
  rw [Server.createGroup] at ht
  split at ht
  · next hfree =>
    cases ht
    refine ⟨⟨fun other => ?_, h.kept, h.granted⟩, by simp, fun other hother => ?_, rfl⟩
    · by_cases hne : other = name
      · subst hne
        refine .inr ⟨hname, ?_, by simp⟩
        obtain hsame | ⟨-, hnone, -⟩ := h.role other
        · rw [← hsame, hfree.2]
        · exact hnone
      · rw [Catalog.role_setRole_of_ne hne]
        exact h.role other
    · by_cases hne : other = name
      · simp [hne]
      · rwa [Catalog.role_setRole_of_ne hne]
  · cases ht

/-- A membership that is granted is the only one that is new. -/
theorem of_grant (ht : t.grant group user = some t') : t'.roles.role = t.roles.role ∧
    ∀ edge, edge ∈ t'.roles.memberships ↔ edge = (user, group) ∨ edge ∈ t.roles.memberships := by
  rw [Server.grant] at ht
  split at ht
  · next hgrantable =>
    cases ht
    exact ⟨rfl, fun edge => Catalog.mem_addMember (h := hgrantable.isSome)⟩
  · cases ht

/-- Only memberships that the access groups are for are granted. -/
theorem Extends.grant (h : Extends s t) (hedge : group = accessGroupInternal ∧ user ∈ systemUsers ∨
    group = accessGroupRelation ∧ s.OfRelation user) (ht : t.grant group user = some t') :
    Extends s t' := by
  obtain ⟨hrole, hmem⟩ := of_grant ht
  refine ⟨by simpa only [hrole] using h.role, fun edge he => ?_, fun edge he => ?_⟩
  · exact (hmem edge).mpr (.inr (h.kept edge he))
  · obtain rfl | he := (hmem edge).mp he
    · exact .inr hedge
    · exact h.granted edge he

/-- One statement for several users. -/
theorem Extends.grantAll (h : Extends s t) (husers : ∀ user ∈ users, s.OfRelation user)
    (ht : t.grantAll accessGroupRelation users = some t') : Extends s t' ∧
      t'.roles.role = t.roles.role ∧ (∀ edge ∈ t.roles.memberships, edge ∈ t'.roles.memberships) ∧
      ∀ user ∈ users, (user, accessGroupRelation) ∈ t'.roles.memberships := by
  induction users generalizing t with
  | nil =>
    cases ht
    exact ⟨h, rfl, fun _ he => he, by simp⟩
  | cons user users ih =>
    rw [List.forall_mem_cons] at husers
    rw [Server.grantAll, List.foldlM_cons, Option.bind_eq_bind, Option.bind_eq_some_iff] at ht
    obtain ⟨t₁, ht₁, hrest⟩ := ht
    obtain ⟨hrole, hmem⟩ := of_grant ht₁
    obtain ⟨hext, hrole', hkept, hall⟩ := ih (h.grant (.inr ⟨rfl, husers.1⟩) ht₁) husers.2 hrest
    refine ⟨hext, hrole'.trans hrole, fun edge he => hkept edge ((hmem edge).mpr (.inr he)), ?_⟩
    rw [List.forall_mem_cons]
    exact ⟨hkept _ ((hmem _).mpr (.inl rfl)), hall⟩

/-! ## what the calls do -/

/-- The groups are there. -/
def HasGroups (groups : List String) (t : Server) : Prop :=
  ∀ group ∈ groups, (t.roles.role group).isSome

/-- The users are members of the group. -/
def HasMembers (group : String) (users : List String) (t : Server) : Prop :=
  ∀ user ∈ users, (user, group) ∈ t.roles.memberships

section Triples

variable {P E : Server → Prop} (hE : ∀ s, P s → E s)
include hE

theorem triple_listAccessGroups : Triple (fun a => P a.server) listAccessGroups
    (fun rows a => P a.server ∧ rows = a.server.accessGroupRows) fun a => E a.server :=
  triple_query_session hE

theorem triple_listUsersFromRelation : Triple (fun a => P a.server) listUsersFromRelation
    (fun rows a => P a.server ∧ rows = a.server.relationUserRows) fun a => E a.server :=
  triple_query_session hE

theorem triple_listUsers : Triple (fun a => P a.server) (listUsers group)
    (fun rows a => P a.server ∧ rows = a.server.memberRows group) fun a => E a.server :=
  triple_query_session hE

end Triples

variable {edges : List (String × String)}

/-- **Loop**: the groups that are missing are created, without members. -/
theorem triple_createMissing (present : List String)
    (hgroups : ∀ group ∈ groups, group ∈ accessGroups) :
    Triple (fun a => Extends s a.server ∧ HasGroups present a.server ∧
        a.server.roles.memberships = edges) (createMissing groups)
      (fun _ a => Extends s a.server ∧ HasGroups present a.server ∧ HasGroups groups a.server ∧
        a.server.roles.memberships = edges) fun _ => True := by
  induction groups generalizing present with
  | nil => exact triple_pure fun _ h => ⟨h.1, h.2.1, by simp [HasGroups], h.2.2⟩
  | cons group groups ih =>
    rw [List.forall_mem_cons] at hgroups
    have hrest : Triple (fun a => Extends s a.server ∧ HasGroups (group :: present) a.server ∧
          a.server.roles.memberships = edges) (createMissing groups)
        (fun _ a => Extends s a.server ∧ HasGroups present a.server ∧
          HasGroups (group :: groups) a.server ∧ a.server.roles.memberships = edges)
        fun _ => True := by
      refine triple_conseq (ih (group :: present) hgroups.2) (fun _ h => h) (fun _ a h => ?_)
        fun _ h => h
      obtain ⟨hext, hpresent, hall, hedges⟩ := h
      obtain ⟨hgroup, hpresent⟩ := List.forall_mem_cons.mp hpresent
      exact ⟨hext, hpresent, List.forall_mem_cons.mpr ⟨hgroup, hall⟩, hedges⟩
    refine triple_bind (triple_query (P := fun t => Extends s t ∧ HasGroups present t ∧
      t.roles.memberships = edges) (E := fun _ => True) fun _ _ => trivial) fun present' => ?_
    split
    · next hpresent =>
      refine triple_conseq hrest (fun a ha => ?_) (fun _ _ h => h) fun _ h => h
      obtain ⟨⟨hext, hall, hedges⟩, rfl⟩ := ha
      exact ⟨hext, List.forall_mem_cons.mpr ⟨hpresent, hall⟩, hedges⟩
    · refine triple_bind (triple_execute (P := fun t => (Extends s t ∧ HasGroups present t ∧
        t.roles.memberships = edges) ∧ present' = (t.roles.role group).isSome)
        (Q := fun t => Extends s t ∧ HasGroups (group :: present) t ∧ t.roles.memberships = edges)
        (E := fun _ => True) (fun t t' ht ht' => ?_) fun _ _ => trivial) fun _ => hrest
      obtain ⟨⟨hext, hall, hedges⟩, -⟩ := ht
      obtain ⟨hext', hnew, hkept, hsame⟩ := hext.createGroup hgroups.1 ht'
      exact ⟨hext', List.forall_mem_cons.mpr
        ⟨hnew, fun other hother => hkept other (hall other hother)⟩, hsame.trans hedges⟩

/-- **Loop**: the system users become members of `internal_access`. -/
theorem triple_grantInternal (members : List String)
    (husers : ∀ user ∈ users, user ∈ systemUsers) :
    Triple (fun a => Extends s a.server ∧ HasGroups accessGroups a.server ∧
        HasMembers accessGroupInternal members a.server) (grantInternal users)
      (fun _ a => Extends s a.server ∧ HasGroups accessGroups a.server ∧
        HasMembers accessGroupInternal members a.server ∧
        HasMembers accessGroupInternal users a.server) fun _ => True := by
  induction users generalizing members with
  | nil => exact triple_pure fun _ h => ⟨h.1, h.2.1, h.2.2, by simp [HasMembers]⟩
  | cons user users ih =>
    rw [List.forall_mem_cons] at husers
    refine triple_bind (triple_execute (P := fun t => Extends s t ∧ HasGroups accessGroups t ∧
        HasMembers accessGroupInternal members t) (Q := fun t => Extends s t ∧
        HasGroups accessGroups t ∧ HasMembers accessGroupInternal (user :: members) t)
        (E := fun _ => True) (fun t t' ht ht' => ?_) fun _ _ => trivial) fun _ =>
      triple_conseq (ih (user :: members) husers.2) (fun _ h => h) (fun _ a h => ?_) fun _ h => h
    · obtain ⟨hext, hgroups, hmembers⟩ := ht
      obtain ⟨hrole, hmem⟩ := of_grant ht'
      refine ⟨hext.grant (.inl ⟨rfl, husers.1⟩) ht', fun group hgroup => ?_, ?_⟩
      · rw [hrole]
        exact hgroups group hgroup
      · exact List.forall_mem_cons.mpr ⟨(hmem _).mpr (.inl rfl),
          fun other hother => (hmem _).mpr (.inr (hmembers other hother))⟩
    · obtain ⟨hext, hgroups, hmembers, hall⟩ := h
      obtain ⟨huser, hmembers⟩ := List.forall_mem_cons.mp hmembers
      exact ⟨hext, hgroups, hmembers, List.forall_mem_cons.mpr ⟨huser, hall⟩⟩

section Sessions

variable {E : Server → Prop}

/-- Afterwards all groups exist, with the memberships of before. -/
theorem triple_createAccessGroups {P : Server → Prop} (edges : List (String × String))
    (hE : ∀ t, P t → E t) (hP : ∀ t, P t → Extends s t ∧ t.roles.memberships = edges) :
    Triple (fun a => P a.server) createAccessGroups (fun _ a => Extends s a.server ∧
      HasGroups accessGroups a.server ∧ a.server.roles.memberships = edges)
      fun a => E a.server := by
  refine triple_session (R := fun _ t => Extends s t ∧ HasGroups accessGroups t ∧
    t.roles.memberships = edges) ?_ hE
  refine triple_conseq (triple_createMissing [] fun _ h => h) (fun a ha => ?_)
    (fun _ _ h => ⟨h.1, h.2.2⟩) fun _ h => h
  obtain ⟨hext, hedges⟩ := hP _ ha
  exact ⟨hext, by simp [HasGroups], hedges⟩

/-- Afterwards every system user is in `internal_access`. -/
theorem triple_grantInternalAccessGroupMemberships
    (hE : ∀ t, Extends s t ∧ HasGroups accessGroups t ∧ t.roles.memberships = edges → E t) :
    Triple (fun a => Extends s a.server ∧ HasGroups accessGroups a.server ∧
        a.server.roles.memberships = edges) grantInternalAccessGroupMemberships
      (fun _ a => Extends s a.server ∧ HasGroups accessGroups a.server ∧
        HasMembers accessGroupInternal systemUsers a.server) fun a => E a.server := by
  refine triple_session (P := fun t => Extends s t ∧ HasGroups accessGroups t ∧
    t.roles.memberships = edges) (R := fun _ t => Extends s t ∧ HasGroups accessGroups t ∧
    HasMembers accessGroupInternal systemUsers t) ?_ hE
  exact triple_conseq (triple_grantInternal [] fun _ h => h)
    (fun _ h => ⟨h.1, h.2.1, by simp [HasMembers]⟩) (fun _ _ h => ⟨h.1, h.2.1, h.2.2.2⟩)
    fun _ h => h

/-- The rows of the relation users are those users. -/
theorem Server.mem_relationUserRows : user ∈ t.relationUserRows ↔ t.OfRelation user := by
  rw [relationUserRows, List.mem_filter, decide_eq_true_eq, and_iff_right_iff_imp]
  intro h
  rw [← t.mem_names]
  cases hrole : t.roles.role user with
  | none =>
    rw [OfRelation, LogsIn, hrole] at h
    cases h.1
  | some a => rfl

/-- Afterwards every user of a relation is in `relation_access`. -/
theorem triple_grantRelationAccessGroupMemberships
    (hE : ∀ t, Extends s t ∧ HasGroups accessGroups t ∧
      HasMembers accessGroupInternal systemUsers t → E t) :
    Triple (fun a => Extends s a.server ∧ HasGroups accessGroups a.server ∧
        HasMembers accessGroupInternal systemUsers a.server) grantRelationAccessGroupMemberships
      (fun _ a => (Extends s a.server ∧ HasGroups accessGroups a.server ∧
        HasMembers accessGroupInternal systemUsers a.server) ∧
        ∀ user, s.OfRelation user → (user, accessGroupRelation) ∈ a.server.roles.memberships)
      fun a => E a.server := by
  refine triple_bind (triple_listUsersFromRelation (P := fun t => Extends s t ∧
    HasGroups accessGroups t ∧ HasMembers accessGroupInternal systemUsers t) hE) fun rows => ?_
  split
  · next hrows =>
    refine triple_pure fun a ha => ⟨ha.1, fun user huser => ?_⟩
    rw [← ha.1.1.ofRelation_iff, ← Server.mem_relationUserRows, ← ha.2, hrows] at huser
    cases huser
  · refine triple_conseq (triple_execute_session (P := fun t => (Extends s t ∧
      HasGroups accessGroups t ∧ HasMembers accessGroupInternal systemUsers t) ∧
      rows = t.relationUserRows) (Q := fun t => (Extends s t ∧ HasGroups accessGroups t ∧
      HasMembers accessGroupInternal systemUsers t) ∧
      ∀ user, s.OfRelation user → (user, accessGroupRelation) ∈ t.roles.memberships)
      (fun t t' ht ht' => ?_) fun t ht => hE t ht.1) (fun _ h => h) (fun _ _ h => h) fun _ h => h
    obtain ⟨⟨hext, hgroups, hmembers⟩, rfl⟩ := ht
    have hrows (user : String) (huser : user ∈ t.relationUserRows) : s.OfRelation user :=
      hext.ofRelation_iff.mp (Server.mem_relationUserRows.mp huser)
    obtain ⟨hext', hrole, hkept, hall⟩ := hext.grantAll hrows ht'
    refine ⟨⟨hext', fun group hgroup => ?_, fun user huser => hkept _ (hmembers user huser)⟩,
      fun user huser => hall user (Server.mem_relationUserRows.mpr (hext.ofRelation_iff.mpr huser))⟩
    rw [hrole]
    exact hgroups group hgroup

end Sessions

/-! ## the groups of a cluster that is upgraded -/

/-- The rows of the access groups are the groups whose names match the pattern. -/
theorem Server.mem_accessGroupRows : name ∈ t.accessGroupRows ↔
    t.IsGroup name ∧ likeText "%_access" name = true := by
  rw [accessGroupRows, List.mem_filter, decide_eq_true_eq, and_iff_right_iff_imp]
  intro h
  rw [← t.mem_names]
  cases hrole : t.roles.role name with
  | none =>
    rw [IsGroup, hrole] at h
    cases h.1
  | some a => rfl

/-- A row of a group is a member of it. -/
theorem Server.mem_of_mem_memberRows (h : user ∈ t.memberRows group) :
    (user, group) ∈ t.roles.memberships := by
  rw [memberRows, List.mem_filter, decide_eq_true_eq, List.any_eq_true] at h
  obtain ⟨-, -, -, ⟨_, _⟩, hmem, hedge⟩ := h
  rw [decide_eq_true_eq] at hedge
  obtain ⟨rfl, rfl⟩ := hedge
  exact hmem

/-- Where the rows are the three groups, the groups exist. -/
theorem hasGroups_of_sameSet (h : SameSet t.accessGroupRows accessGroups) :
    HasGroups accessGroups t := by
  intro group hgroup
  have hrow := (Server.mem_accessGroupRows.mp (h.2 group hgroup)).1
  cases hrole : t.roles.role group with
  | none =>
    rw [Server.IsGroup, hrole] at hrow
    cases hrow
  | some a => rfl

/-- The relation users that the charm names after their relation. -/
theorem ofRelation_of_logsIn {suffix : String} (h : t.LogsIn ("relation_id_" ++ suffix)) :
    t.OfRelation ("relation_id_" ++ suffix) := by
  have hname : like (parts "relation_id_".toList) "relation_id_".toList = true := by decide
  have hlike : likeText "relation_id_%" ("relation_id_" ++ suffix) = true := by
    rw [likeText, String.toList_append]
    exact like_append_text hname suffix.toList
  refine ⟨h, List.any_eq_true.mpr ⟨_, List.mem_cons_self, hlike⟩⟩

/-- The roles are set up. -/
def SetUp (t : Server) : Prop :=
  SameSet t.accessGroupRows accessGroups ∧
    SameSet t.relationUserRows (t.memberRows accessGroupRelation)

/-- The check of an upgrade answers for the server and changes nothing. -/
theorem triple_accessRolesSetUp {P E : Server → Prop} (hE : ∀ t, P t → E t) :
    Triple (fun a => P a.server) accessRolesSetUp
      (fun setUp a => P a.server ∧ (setUp = true ↔ SetUp a.server)) fun a => E a.server := by
  refine triple_bind (triple_listAccessGroups hE) fun groups => ?_
  split
  · next hgroups =>
    refine triple_bind (triple_listUsersFromRelation (P := fun t => P t ∧
      groups = t.accessGroupRows) fun t ht => hE t ht.1) fun relUsers => ?_
    refine triple_bind (triple_listUsers (P := fun t => (P t ∧ groups = t.accessGroupRows) ∧
      relUsers = t.relationUserRows) fun t ht => hE t ht.1.1) fun members => ?_
    refine triple_pure fun a ha => ?_
    obtain ⟨⟨⟨hP, rfl⟩, rfl⟩, rfl⟩ := ha
    refine ⟨hP, ?_⟩
    rw [decide_eq_true_eq, SetUp, and_iff_right hgroups]
  · next hgroups =>
    refine triple_pure fun a ha => ⟨ha.1, iff_of_false nofun fun h => hgroups ?_⟩
    rw [ha.2]
    exact h.1

/-- **The upgrade**: it found nothing to do, or it ends with every user in its group; and
wherever it stops, the server has only gained groups and memberships. -/
theorem triple_setUpNewAccessRolesForLegacy (h : Extends s t) :
    Triple (fun a => a.server = t) setUpNewAccessRolesForLegacy
      (fun _ a => (Extends s a.server ∧ HasGroups accessGroups a.server ∧
        ∀ user, s.OfRelation user → (user, accessGroupRelation) ∈ a.server.roles.memberships) ∧
        (a.server = t ∨ HasMembers accessGroupInternal systemUsers a.server))
      fun a => Extends s a.server := by
  have hE (t' : Server) (ht' : t' = t) : Extends s t' := ht' ▸ h
  refine triple_bind (triple_accessRolesSetUp hE) fun setUp => ?_
  split
  · next htrue =>
    refine triple_pure fun a ha => ?_
    obtain ⟨rfl, hsetUp⟩ := ha
    obtain ⟨hgroups, husers, -⟩ := hsetUp.mp htrue
    refine ⟨⟨h, hasGroups_of_sameSet hgroups, fun user huser => ?_⟩, .inl rfl⟩
    exact Server.mem_of_mem_memberRows
      (husers user (Server.mem_relationUserRows.mpr (h.ofRelation_iff.mpr huser)))
  · refine triple_bind (triple_createAccessGroups (s := s) t.roles.memberships
      (P := fun t' => t' = t ∧ (setUp = true ↔ SetUp t')) (fun t' ht' => hE t' ht'.1)
      fun t' ht' => ?_) fun _ =>
        triple_bind (triple_grantInternalAccessGroupMemberships fun _ h => h.1) fun _ =>
          triple_conseq (triple_grantRelationAccessGroupMemberships fun _ h => h.1)
            (fun _ h => h) (fun _ a ha => ?_) fun _ h => h
    · rw [ht'.1]
      exact ⟨h, rfl⟩
    · obtain ⟨⟨hext, hgroups, hmembers⟩, hall⟩ := ha
      exact ⟨⟨hext, hgroups, hall⟩, .inr hmembers⟩

/-- **Upgrades of a cluster without the groups**: however many attempts have stopped,
the server has got access groups and memberships of its users in them and nothing
else.  An attempt that ends well leaves all the groups and has every relation user
in theirs; it has the system users in theirs too, unless it found nothing to do. -/
theorem access_groups_set_up (s : Server) (budgets : List (Option Nat)) :
    Extends s (attempts setUpNewAccessRolesForLegacy s budgets) ∧
    ∀ remaining (a : Attempt Server), setUpNewAccessRolesForLegacy.run
        ⟨attempts setUpNewAccessRolesForLegacy s budgets, remaining⟩ = .ok () a →
      Extends s a.server ∧
      (∀ group ∈ accessGroups, (a.server.roles.role group).isSome) ∧
      (∀ user, s.OfRelation user → (user, accessGroupRelation) ∈ a.server.roles.memberships) ∧
      (∀ suffix, s.LogsIn ("relation_id_" ++ suffix) →
        ("relation_id_" ++ suffix, accessGroupRelation) ∈ a.server.roles.memberships) ∧
      (a.server = attempts setUpNewAccessRolesForLegacy s budgets ∨
        ∀ user ∈ systemUsers, (user, accessGroupInternal) ∈ a.server.roles.memberships) := by
  have hattempts : Extends s (attempts setUpNewAccessRolesForLegacy s budgets) := by
    refine attempts_of_triple (fun b hb => ?_) (Extends.refl s)
    refine triple_conseq (triple_setUpNewAccessRolesForLegacy hb)
      (P := fun c => c.server = b.server) (fun _ h => h) (fun _ _ h => ?_) (fun _ h => h) b rfl
    exact h.1.1
  generalize attempts setUpNewAccessRolesForLegacy s budgets = t at hattempts ⊢
  refine ⟨hattempts, fun remaining a ha => ?_⟩
  have hrun := triple_setUpNewAccessRolesForLegacy hattempts ⟨t, remaining⟩ rfl
  rw [ha] at hrun
  obtain ⟨⟨hext, hgroups, hall⟩, hmembers⟩ := hrun
  exact ⟨hext, hgroups, hall, fun suffix hsuffix => hall _ (ofRelation_of_logsIn hsuffix), hmembers⟩

/-- The users of a cluster that was set up without the groups. -/
def legacyServer (clients : List String) : Server where
  roles := {
    role := fun name => if name = "operator" then some ⟨true, true, true, true, some "admin"⟩
      else if name ∈ clients ++ systemUsers then some ⟨true, false, false, false, none⟩ else none
    memberships := []
    isSome_of_mem := by simp }
  names := clients ++ systemUsers
  mem_names := fun name => by
    have hoperator : "operator" ∈ clients ++ systemUsers := List.mem_append_right _ (by decide)
    by_cases hname : name = "operator"
    · rw [hname]
      exact iff_of_true rfl hoperator
    · dsimp only
      rw [if_neg hname]
      split
      · next hmem => exact iff_of_true rfl hmem
      · next hmem => exact iff_of_false Bool.false_ne_true hmem

/-- The first attempt stops after it has created the groups. -/
theorem access_groups_set_up_legacy : ∃ a : Attempt Server, setUpNewAccessRolesForLegacy.run
      ⟨attempts setUpNewAccessRolesForLegacy (legacyServer ["relation_id_4"]) [some 11], none⟩ =
        .ok () a ∧
    ("relation_id_4", accessGroupRelation) ∈ a.server.roles.memberships := by
  have hok : (match setUpNewAccessRolesForLegacy.run
      ⟨attempts setUpNewAccessRolesForLegacy (legacyServer ["relation_id_4"]) [some 11], none⟩ with
    | .ok _ _ => true
    | .error _ _ => false) = true := by decide +kernel
  cases h : setUpNewAccessRolesForLegacy.run
      ⟨attempts setUpNewAccessRolesForLegacy (legacyServer ["relation_id_4"]) [some 11], none⟩ with
  | ok u a =>
    obtain ⟨-, hcomplete⟩ := access_groups_set_up (legacyServer ["relation_id_4"]) [some 11]
    obtain ⟨-, -, hclients, -⟩ := hcomplete none a h
    exact ⟨a, rfl, hclients "relation_id_4" (by decide)⟩
  | error e a =>
    rw [h] at hok
    cases hok

/-! ## the groups of a cluster that is initialised -/

/-- The places where the groups are set up. -/
inductive Place
  /-- `_initialize_cluster`. -/
  | initialization
  /-- `_set_up_new_access_roles_for_legacy`. -/
  | refresh
deriving DecidableEq, Repr

def Place.call : Place → Call Failure Server Unit
  | .initialization => initializeAccessGroups
  | .refresh => setUpNewAccessRolesForLegacy

/-- The server after calls, each of which stops after so many steps. -/
def later (s : Server) (calls : List (Place × Option Nat)) : Server :=
  calls.foldl (fun s call => leaves (call.1.call.run ⟨s, call.2⟩)) s

/-- What a call leaves behind, however it ends. -/
def Outcome (s t : Server) : Prop :=
  t = s ∨ Extends s t ∧ HasGroups accessGroups t ∧
    (t.roles.memberships = s.roles.memberships ∨ HasMembers accessGroupInternal systemUsers t)

/-- Either call, wherever it stops, has one of the outcomes. -/
theorem triple_call (place : Place) : Triple (fun a => a.server = s) place.call
    (fun _ a => Outcome s a.server) fun a => Outcome s a.server := by
  have hsame (t : Server) (h : t = s) : Outcome s t := .inl h
  have hcreate {P : Server → Prop} (hP : ∀ t, P t → t = s) : Triple (fun a => P a.server)
      createAccessGroups (fun _ a => Extends s a.server ∧ HasGroups accessGroups a.server ∧
        a.server.roles.memberships = s.roles.memberships) fun a => Outcome s a.server :=
    triple_createAccessGroups _ (fun t ht => hsame t (hP t ht)) fun t ht => by
      rw [hP t ht]
      exact ⟨.refl s, rfl⟩
  have hgrant : Triple (fun a => Extends s a.server ∧ HasGroups accessGroups a.server ∧
        a.server.roles.memberships = s.roles.memberships) grantInternalAccessGroupMemberships
      (fun _ a => Extends s a.server ∧ HasGroups accessGroups a.server ∧
        HasMembers accessGroupInternal systemUsers a.server) fun a => Outcome s a.server :=
    triple_grantInternalAccessGroupMemberships fun t ht => .inr ⟨ht.1, ht.2.1, .inl ht.2.2⟩
  cases place with
  | initialization =>
    refine triple_bind (triple_listAccessGroups hsame) fun groups => ?_
    split
    · exact triple_pure fun a ha => hsame _ ha.1
    · refine triple_bind (hcreate (P := fun t => t = s ∧ groups = t.accessGroupRows)
        fun t ht => ht.1) fun _ => ?_
      exact triple_conseq hgrant (fun _ h => h) (fun _ a ha => .inr ⟨ha.1, ha.2.1, .inr ha.2.2⟩)
        fun _ h => h
  | refresh =>
    refine triple_bind (triple_accessRolesSetUp hsame) fun setUp => ?_
    split
    · exact triple_pure fun a ha => hsame _ ha.1
    · refine triple_bind (hcreate (P := fun t => t = s ∧ (setUp = true ↔ SetUp t))
        fun t ht => ht.1) fun _ => triple_bind hgrant fun _ => ?_
      have hcomplete (t : Server) (ht : Extends s t ∧ HasGroups accessGroups t ∧
          HasMembers accessGroupInternal systemUsers t) : Outcome s t :=
        .inr ⟨ht.1, ht.2.1, .inr ht.2.2⟩
      exact triple_conseq (triple_grantRelationAccessGroupMemberships hcomplete) (fun _ h => h)
        (fun _ a ha => hcomplete _ ha.1) fun _ h => h

/-- Where the roles are set up, a call does nothing. -/
theorem triple_call_of_setUp (h : SetUp s) (place : Place) : Triple (fun a => a.server = s)
    place.call (fun _ a => a.server = s) fun a => a.server = s := by
  cases place with
  | initialization =>
    refine triple_bind (triple_listAccessGroups (P := (· = s)) (E := (· = s)) fun _ h => h)
      fun groups => ?_
    split
    · exact triple_pure fun a ha => ha.1
    · next hgroups =>
      intro a ha
      obtain ⟨ha, rfl⟩ := ha
      exact absurd (ha ▸ h.1) hgroups
  | refresh =>
    refine triple_bind (triple_accessRolesSetUp (P := (· = s)) (E := (· = s)) fun _ h => h)
      fun setUp => ?_
    split
    · exact triple_pure fun a ha => ha.1
    · next hsetUp =>
      intro a ha
      exact absurd (ha.2.mpr (ha.1 ▸ h)) hsetUp

/-- A server before the groups are set up: there is no role that would be taken for
one of them, and no relation user. -/
structure Fresh (s : Server) : Prop where
  free : ∀ group ∈ accessGroups, s.roles.role group = none
  rows : s.accessGroupRows = []
  relationUsers : s.relationUserRows = []

namespace Fresh

variable (h : Fresh s)
include h

/-- A server without access groups has no members of them. -/
theorem not_mem_memberships (hgroup : group ∈ accessGroups) :
    (user, group) ∉ s.roles.memberships := by
  intro hmem
  have hsome := (s.roles.isSome_of_mem _ hmem).2
  rw [h.free group hgroup] at hsome
  cases hsome

theorem not_ofRelation (user : String) : ¬s.OfRelation user := by
  rw [← Server.mem_relationUserRows, h.relationUsers]
  exact List.not_mem_nil

/-- The groups, once they are there, are all that matters. -/
theorem setUp (hext : Extends s t) (hgroups : HasGroups accessGroups t) : SetUp t := by
  refine ⟨⟨fun name hname => ?_, fun group hgroup => ?_⟩, ⟨fun user huser => ?_,
    fun user huser => ?_⟩⟩
  · rw [Server.mem_accessGroupRows] at hname
    obtain hsame | ⟨hname, -, -⟩ := hext.role name
    · rw [Server.IsGroup, hsame, ← Server.IsGroup, ← Server.mem_accessGroupRows, h.rows] at hname
      cases hname
    · exact hname
  · obtain hsame | ⟨-, -, hnew⟩ := hext.role group
    · have hsome := hgroups group hgroup
      rw [hsame, h.free group hgroup] at hsome
      cases hsome
    · have hlike : ∀ group ∈ accessGroups, likeText "%_access" group = true := by decide
      rw [Server.mem_accessGroupRows, Server.IsGroup, hnew]
      exact ⟨rfl, hlike group hgroup⟩
  · rw [Server.mem_relationUserRows, hext.ofRelation_iff] at huser
    exact absurd huser (h.not_ofRelation user)
  · obtain hmem | ⟨hinternal, -⟩ | ⟨-, hrelation⟩ :=
      hext.granted _ (Server.mem_of_mem_memberRows huser)
    · exact absurd hmem (h.not_mem_memberships (by decide))
    · exact absurd hinternal (show accessGroupRelation ≠ accessGroupInternal by decide)
    · exact absurd hrelation (h.not_ofRelation user)

end Fresh

theorem later_of_setUp (h : SetUp s) (calls : List (Place × Option Nat)) : later s calls = s := by
  induction calls with
  | nil => rfl
  | cons call calls ih =>
    have hcall : leaves (call.1.call.run ⟨s, call.2⟩) = s :=
      leaves_of_triple (P := (· = s)) (Q := (· = s)) (triple_call_of_setUp h call.1) rfl call.2
    rw [later, List.foldl_cons, hcall]
    exact ih

/-- **Initialisation**: whatever calls are made, in whatever order, and wherever they
stop, the server is as it was until the groups are there.  From then on nothing
changes: either every system user is a member of their group, or none is, ever. -/
theorem members_with_groups {s : Server} (h : Fresh s) (calls : List (Place × Option Nat)) :
    later s calls = s ∨
      (∀ group ∈ accessGroups, ((later s calls).roles.role group).isSome) ∧
      ((∀ user ∈ systemUsers, (user, accessGroupInternal) ∈ (later s calls).roles.memberships) ∨
        ∀ user, (user, accessGroupInternal) ∉ (later s calls).roles.memberships) ∧
      ∀ calls', later (later s calls) calls' = later s calls := by
  induction calls with
  | nil => exact .inl rfl
  | cons call calls ih =>
    have hcall : Outcome s (leaves (call.1.call.run ⟨s, call.2⟩)) :=
      leaves_of_triple (P := (· = s)) (triple_call call.1) rfl call.2
    rw [later, List.foldl_cons, ← later]
    obtain hsame | ⟨hext, hgroups, hmembers⟩ := hcall
    · rw [hsame]
      exact ih
    · have hsetUp := h.setUp hext hgroups
      rw [later_of_setUp hsetUp]
      refine .inr ⟨hgroups, ?_, later_of_setUp hsetUp⟩
      obtain hedges | hall := hmembers
      · refine .inr fun user => ?_
        rw [hedges]
        exact h.not_mem_memberships (by decide)
      · exact .inl hall

theorem fresh_legacyServer : Fresh (legacyServer []) := ⟨by decide, by decide, by decide⟩

/-- After a complete initialisation nothing changes any more. -/
theorem members_with_groups_system :
    later (later (legacyServer []) [(.initialization, none)])
        [(.refresh, some 2), (.initialization, none)] =
      later (legacyServer []) [(.initialization, none)] := by
  obtain hsame | ⟨-, -, hlater⟩ := members_with_groups fresh_legacyServer [(.initialization, none)]
  · have hgroup : "internal_access" ∈
        (later (legacyServer []) [(.initialization, none)]).names := by decide +kernel
    rw [hsame] at hgroup
    exact absurd hgroup (by decide)
  · exact hlater [(.refresh, some 2), (.initialization, none)]

/-! ## a stop between the two transactions -/

theorem counted_createMissing (groups : List String) : Counted (createMissing groups) := by
  induction groups with
  | nil => exact counted_pure ()
  | cons group groups ih =>
    refine counted_bind (counted_query _ _) fun present => ?_
    split
    · exact ih
    · exact counted_bind (counted_execute _ _) fun _ => ih

theorem createMissing_ok (groups : List String)
    (hgroups : ∀ group ∈ groups, rules.reserved group = false) (s : Server) :
    ∃ t, (createMissing groups).run ⟨s, none⟩ = .ok () ⟨t, none⟩ := by
  induction groups generalizing s with
  | nil => exact ⟨s, rfl⟩
  | cons group groups ih =>
    rw [List.forall_mem_cons] at hgroups
    simp only [createMissing, run_bind_ok, query_ok]
    cases hrole : s.roles.role group with
    | some a =>
      obtain ⟨t, ht⟩ := ih hgroups.2 s
      exact ⟨t, true, ⟨s, none⟩, ⟨nofun, rfl, rfl⟩, ht⟩
    | none =>
      have hcreate : ∃ t, s.createGroup group = some t := by
        rw [Server.createGroup, dif_pos ⟨hgroups.1, hrole⟩]
        exact ⟨_, rfl⟩
      obtain ⟨t, ht⟩ := hcreate
      obtain ⟨t', ht'⟩ := ih hgroups.2 t
      refine ⟨t', false, ⟨s, none⟩, ⟨nofun, rfl, rfl⟩, ?_⟩
      rw [if_neg Bool.false_ne_true, run_bind_ok]
      exact ⟨(), _, execute_ok.mpr ⟨nofun, t, ht, rfl⟩, ht'⟩

theorem createAccessGroups_ok (hlogin : s.LogsIn "operator") :
    ∃ t, createAccessGroups.run ⟨s, none⟩ = .ok () ⟨t, none⟩ := by
  obtain ⟨t, ht⟩ := createMissing_ok accessGroups (by decide) s
  exact ⟨t, session_ok.mpr ⟨⟨nofun, hlogin⟩, _, ht, nofun, rfl⟩⟩

/-- **A stop at the wrong time**: there is a step after which an initialisation that
stops leaves the groups without members, and no later call makes up for it. -/
theorem internal_users_left_out {s : Server} (h : Fresh s) (hlogin : s.LogsIn "operator") :
    ∃ steps, (∀ group ∈ accessGroups,
        ((later s [(.initialization, some steps)]).roles.role group).isSome ∧
          ∀ user, (user, group) ∉ (later s [(.initialization, some steps)]).roles.memberships) ∧
      ∀ calls user, (user, accessGroupInternal) ∉
        (later s ((.initialization, some steps) :: calls)).roles.memberships := by
  obtain ⟨t, ht⟩ := createAccessGroups_ok hlogin
  have hlist : listAccessGroups.run ⟨s, none⟩ = .ok [] ⟨s, none⟩ :=
    query_session_ok.mpr ⟨hlogin, h.rows.symm, rfl⟩
  obtain ⟨n, hn⟩ : ∃ n, ∀ m, listAccessGroups.run ⟨s, some (n + m)⟩ = .ok [] ⟨s, some m⟩ :=
    (counted_session (counted_query _ _) s [] _ hlist).2
  obtain ⟨m, hm⟩ : ∃ m, ∀ k, createAccessGroups.run ⟨s, some (m + k)⟩ = .ok () ⟨t, some k⟩ :=
    (counted_session (counted_createMissing accessGroups) s () _ ht).2
  have hcreated : Extends s t ∧ HasGroups accessGroups t ∧
      t.roles.memberships = s.roles.memberships := by
    have hrun := triple_createAccessGroups (s := s) (P := (· = s)) (E := fun _ => True)
      s.roles.memberships (fun _ _ => trivial) (fun t ht => by
        rw [ht]
        exact ⟨.refl s, rfl⟩) ⟨s, none⟩ rfl
    rw [ht] at hrun
    exact hrun
  obtain ⟨hext, hgroups, hedges⟩ := hcreated
  have hstop : leaves (initializeAccessGroups.run ⟨s, some (n + m)⟩) = t := by
    have hempty : ¬SameSet [] accessGroups := by decide
    have hm : createAccessGroups.run ⟨s, some m⟩ = .ok () ⟨t, some 0⟩ := hm 0
    rw [initializeAccessGroups, run_bind_of_ok (hn m), if_neg hempty, run_bind_of_ok hm]
    exact leaves_session_zero t
  have hlater (calls : List (Place × Option Nat)) :
      later s ((.initialization, some (n + m)) :: calls) = t := by
    rw [later, List.foldl_cons, Place.call, hstop, ← later]
    exact later_of_setUp (h.setUp hext hgroups) calls
  refine ⟨n + m, fun group hgroup => ?_, fun calls user => ?_⟩
  · rw [hlater, hedges]
    exact ⟨hgroups group hgroup, fun user => h.not_mem_memberships hgroup⟩
  · rw [hlater, hedges]
    exact h.not_mem_memberships (by decide)

/-- There is such a step on a server with the system users. -/
theorem internal_users_left_out_system : ∃ steps,
    (∀ group ∈ accessGroups, ∀ user, (user, group) ∉
      (later (legacyServer []) [(.initialization, some steps)]).roles.memberships) ∧
    ∀ calls user, (user, accessGroupInternal) ∉
      (later (legacyServer []) ((.initialization, some steps) :: calls)).roles.memberships := by
  obtain ⟨steps, hstop, hlater⟩ := internal_users_left_out fresh_legacyServer (by decide)
  exact ⟨steps, fun group hgroup => (hstop group hgroup).2, hlater⟩

end PostgresqlK8s.AccessGroups
