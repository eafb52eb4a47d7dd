import PostgresqlK8s.Lib.Roles
import PostgresqlK8s.Lib.StateExcept
import PostgresqlK8s.Lib.Text
import PostgresqlK8s.Members.Endpoints

/-!
# Users.CreateUser

The creation of a user, which is called again with the same arguments on every
event of a relation and after a hook that failed.  The role is altered where it
is there already, and the options are the same; but `IN ROLE`, which makes an
administrator of the user, is an option of the creation only.
-/

namespace PostgresqlK8s.Users

open Roles Members EStateM

/-! ## the server -/

/-- What the server makes of the text between the quotes of a password, where
the statement is one. -/
structure Server where
  passwordOf : String → Option String
  passwordOf_plain : ∀ s : String, s.toList.all Char.isAlphanum = true → passwordOf s = some s

/-- The names of PostgreSQL, as they are stored. -/
def rules : Rules String where
  reserved name := name == "" || "pg_".toList.isPrefixOf name.toList || name == "public" ||
    name == "none" || name.toList.contains '\x00'
  closed name := name == "pg_database_owner"

/-- The roles of a cluster. -/
abbrev RoleCatalog := Catalog String String

/-! ## extra user roles -/

/-- `PERMISSIONS_GROUP_ADMIN`. -/
def permissionsGroupAdmin : String := "admin"

/-- `ACCESS_GROUP_RELATION`. -/
def accessGroupRelation : String := "relation_access"

/-- `INVALID_EXTRA_USER_ROLE_BLOCKING_MESSAGE`. -/
def invalidExtraUserRoleBlockingMessage : String := "invalid role(s) for extra user roles"

/-- `extra_user_roles`.  It is meant to be a list, but a text can be tested for
what it contains, and be iterated over, as well. -/
inductive ExtraUserRoles
  | absent
  | list (roles : List String)
  | text (s : String)
deriving DecidableEq, Repr

namespace ExtraUserRoles

/-- What an iteration gives. -/
def elements : ExtraUserRoles → List String
  | .absent => []
  | .list roles => roles
  | .text s => s.toList.map Char.toString

/-- `name in extra_user_roles`. -/
def contains (name : String) : ExtraUserRoles → Bool
  | .absent => false
  | .list roles => roles.contains name
  | .text s => Text.occursIn name s

end ExtraUserRoles

/-- What ends the creation of a user. -/
inductive CreateUserFailure
  /-- `psycopg2.Error`. -/
  | database
  /-- `PostgreSQLCreateUserError`. -/
  | createUser (message : Option String)
deriving DecidableEq, Repr

/-- The privileges of `list_valid_privileges_and_roles`. -/
def validPrivileges : List String := ["createdb", "createrole", "superuser"]

/-- The roles of `list_valid_privileges_and_roles`. -/
def validRoles (c : RoleCatalog) (name : String) : Bool := (c.role name).isSome && name != ""

/-- The extra user roles taken apart. -/
structure Separated where
  adminRole : Bool
  roles : List String
  /-- A set, in the order in which it is gone over. -/
  privileges : List String
deriving DecidableEq, Repr

/-- The roles among the extra user roles. -/
def ExtraUserRoles.roles (extraUserRoles : ExtraUserRoles) (valid : String → Bool) : List String :=
  extraUserRoles.elements.filter fun role => valid role && role != permissionsGroupAdmin

/-- The set of the others. -/
def ExtraUserRoles.privileges (o : SetOrder) (extraUserRoles : ExtraUserRoles)
    (valid : String → Bool) : List String :=
  o.order (extraUserRoles.elements.dedup.filter fun role =>
    !(extraUserRoles.roles valid).contains role && role != permissionsGroupAdmin)

/-- The first part of `create_user`. -/
def separate (o : SetOrder) (extraUserRoles : ExtraUserRoles) (valid : String → Bool) :
    Except CreateUserFailure Separated :=
  let privileges := extraUserRoles.privileges o valid
  let invalidPrivileges := privileges.filter fun privilege => !validPrivileges.contains privilege
  let skipped := invalidPrivileges.contains accessGroupRelation
  if (invalidPrivileges.filter (· != accessGroupRelation)).length > 0 then
    .error (.createUser (some invalidExtraUserRoleBlockingMessage))
  else .ok {
    adminRole := extraUserRoles.contains permissionsGroupAdmin
    roles := extraUserRoles.roles valid
    privileges := if skipped then privileges.filter (· != accessGroupRelation) else privileges }

/-! ## create_user -/

/-- A connection.  The call stops when the server has got as many statements as
remain, if that is limited. -/
structure Connection where
  session : Session String String
  remaining : Option Nat

/-- The connection is lost, and a transaction that is open with it. -/
def Connection.lose (s : Connection) : Connection := { s with session := s.session.rollback }

abbrev Call := EStateM CreateUserFailure Connection

/-- `cursor.execute` of a statement that writes. -/
def execute (run : Session String String → Option (Session String String)) : Call Unit := fun s =>
  if s.remaining = some 0 then .error .database s.lose
  else match run s.session with
    | some session => .ok () ⟨session, s.remaining.map (· - 1)⟩
    | none => .error .database s.lose

/-- `cursor.execute` of a statement that reads. -/
def query {α : Type} (read : RoleCatalog → α) : Call α := fun s =>
  if s.remaining = some 0 then .error .database s.lose
  else .ok (read s.session.visible) { s with remaining := s.remaining.map (· - 1) }

/-- The `except` block of `create_user`. -/
def raiseCreateUserError : CreateUserFailure → Call Unit
  | .database => throw (.createUser none)
  | .createUser message => throw (.createUser message)

/-- The option that a privilege is. -/
def keyword (privilege : String) : Option (RoleOption String String) :=
  if privilege = "createdb" then some (.createdb true)
  else if privilege = "createrole" then some (.createrole true)
  else if privilege = "superuser" then some (.superuser true)
  else none

/-- The arguments of `create_user`. -/
structure UserRequest where
  user : String
  password : Option String
  admin : Bool
  extraUserRoles : ExtraUserRoles
deriving DecidableEq, Repr

namespace UserRequest

variable (r : UserRequest)

/-- The password in the text of the statement. -/
def passwordText : String := r.password.getD "None"

/-- The options in the order of the statement:
`WITH LOGIN SUPERUSER ENCRYPTED PASSWORD '…'IN ROLE admin CREATEDB …`. -/
def options (password : String) (adminRole : Bool) (privileges : List String) :
    List (RoleOption String String) :=
  [.login (r.user != "admin")] ++ (if r.admin then [.superuser true] else []) ++
    [.encryptedPassword password] ++
    (if adminRole then [.inRole "admin", .createdb true] else []) ++ privileges.filterMap keyword

/-- `ALTER ROLE` or `CREATE ROLE`. -/
def defineUser (server : Server) (present adminRole : Bool) (privileges : List String)
    (c : RoleCatalog) : Option RoleCatalog :=
  (server.passwordOf r.passwordText).bind fun password =>
    if present then c.alterRole rules r.user (r.options password adminRole privileges)
    else c.createRole rules r.user (r.options password adminRole privileges)

/-- The `GRANT` statements. -/
def grantRoles : List String → Call Unit
  | [] => pure ()
  | role :: roles => do
      execute (·.write (·.grant rules role r.user))
      grantRoles roles

/-- The roles and privileges that are asked for. -/
def separateRoles (o : SetOrder) : Call Separated :=
  if r.extraUserRoles.elements = [] then pure ⟨false, [], []⟩
  else do
    let valid ← query validRoles
    MonadExcept.ofExcept (separate o r.extraUserRoles valid)

/-- The `try` block of `create_user`. -/
def createOrAlter (server : Server) (o : SetOrder) : Call Unit := do
  let separated ← r.separateRoles o
  let present ← query fun c => (c.role r.user).isSome
  execute fun s => some s.begin
  -- `SET LOCAL log_statement = 'none'`
  execute fun s => some s
  execute (·.write (r.defineUser server present separated.adminRole separated.privileges))
  execute fun s => some s.commit
  r.grantRoles separated.roles

/-- `create_user`. -/
def createUser (server : Server) (o : SetOrder) : Call Unit :=
  tryCatch (r.createOrAlter server o) raiseCreateUserError

/-- A call on its own connection. -/
def call (server : Server) (o : SetOrder) (remaining : Option Nat) (c : RoleCatalog) :
    EStateM.Result CreateUserFailure Connection Unit :=
  (r.createUser server o).run ⟨⟨c, none⟩, remaining⟩

end UserRequest

/-- The roles that are stored when a call has ended. -/
def leaves : EStateM.Result CreateUserFailure Connection Unit → RoleCatalog
  | .ok _ s | .error _ s => s.session.committed

/-! ## separating -/

/-- Every extra user role is a role, a privilege or an access group. -/
def Acceptable (extraUserRoles : ExtraUserRoles) (valid : String → Bool) : Prop :=
  ∀ role ∈ extraUserRoles.elements, valid role = true ∨ role = permissionsGroupAdmin ∨
    role = accessGroupRelation ∨ role ∈ validPrivileges

/-- What `separate` finds. -/
structure Separates (extraUserRoles : ExtraUserRoles) (valid : String → Bool) (x : Separated) :
    Prop where
  acceptable : Acceptable extraUserRoles valid
  adminRole : x.adminRole = extraUserRoles.contains permissionsGroupAdmin
  roles : x.roles = extraUserRoles.roles valid
  nodup : x.privileges.Nodup
  mem_privileges : ∀ role, role ∈ x.privileges ↔
    role ∈ extraUserRoles.elements ∧ valid role = false ∧ role ∈ validPrivileges

section Separate

variable {o : SetOrder} {extraUserRoles : ExtraUserRoles} {valid : String → Bool} {x : Separated}
  {role : String}

/-- What counts as a role: valid, and not the administrators' group. -/
theorem mem_roles : role ∈ extraUserRoles.roles valid ↔
    role ∈ extraUserRoles.elements ∧ valid role = true ∧ role ≠ permissionsGroupAdmin := by
  simp [ExtraUserRoles.roles]

/-- What counts as a privilege: all the rest but that group. -/
theorem mem_privileges : role ∈ extraUserRoles.privileges o valid ↔
    role ∈ extraUserRoles.elements ∧ valid role = false ∧ role ≠ permissionsGroupAdmin := by
  rw [ExtraUserRoles.privileges, (o.perm _).mem_iff, List.mem_filter, List.mem_dedup,
    Bool.and_eq_true, bne_iff_ne, Bool.not_eq_true', List.contains_eq_mem,
    decide_eq_false_iff_not, mem_roles]
  refine and_congr_right fun hmem => ?_
  cases valid role <;> simp [hmem]

/-- The privileges are a set, in one of its orders. -/
theorem nodup_privileges : (extraUserRoles.privileges o valid).Nodup :=
  (o.perm _).nodup_iff.mpr ((List.nodup_dedup _).filter _)

/-- The administrators' group is no privilege of the server. -/
theorem admin_notMem_validPrivileges : permissionsGroupAdmin ∉ validPrivileges := by decide

/-- Nor is the access group of the relations. -/
theorem accessGroupRelation_notMem_validPrivileges : accessGroupRelation ∉ validPrivileges := by
  decide

/-- Nothing invalid is left once the access group is skipped. -/
theorem no_invalid_iff :
    ¬ (((extraUserRoles.privileges o valid).filter fun privilege =>
        !validPrivileges.contains privilege).filter (· != accessGroupRelation)).length > 0 ↔
      Acceptable extraUserRoles valid := by
  rw [Nat.not_lt, Nat.le_zero, List.length_eq_zero_iff, List.filter_eq_nil_iff]
  simp only [List.mem_filter, mem_privileges, Bool.not_eq_true', List.contains_eq_mem,
    decide_eq_false_iff_not, bne_iff_ne, ne_eq, not_not, Acceptable]
  refine forall_congr' fun role => ?_
  cases valid role <;> grind

/-- What `separate` returns has the roles and privileges that were asked for. -/
theorem separates_of_separate (h : separate o extraUserRoles valid = .ok x) :
    Separates extraUserRoles valid x := by
  rw [separate] at h
  split at h
  · contradiction
  · next hinvalid =>
      have hacceptable := no_invalid_iff.mp hinvalid
      obtain rfl := Except.ok.inj h
      have hmem (role : String) : role ∈ extraUserRoles.privileges o valid ∧
            role ≠ accessGroupRelation ↔
          role ∈ extraUserRoles.elements ∧ valid role = false ∧ role ∈ validPrivileges := by
        rw [mem_privileges]
        have := hacceptable role
        have := admin_notMem_validPrivileges
        have := accessGroupRelation_notMem_validPrivileges
        grind
      refine ⟨hacceptable, rfl, rfl, ?_, fun role => ?_⟩
      · dsimp only
        split
        · exact nodup_privileges.filter _
        · exact nodup_privileges
      · rw [← hmem]
        dsimp only
        split
        · simp
        · next hskipped =>
            refine (and_iff_left_of_imp fun hrole => ?_).symm
            rintro rfl
            refine hskipped ?_
            simp [hrole, accessGroupRelation_notMem_validPrivileges]

/-- A list without invalid entries is separated, in whatever order its set is iterated. -/
theorem exists_separate (h : Acceptable extraUserRoles valid) (o : SetOrder) :
    ∃ x, separate o extraUserRoles valid = .ok x := by
  rw [separate, if_neg (no_invalid_iff.mpr h)]
  exact ⟨_, rfl⟩

end Separate

end PostgresqlK8s.Users
