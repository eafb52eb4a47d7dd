import PostgresqlK8s.Secrets.Missing
import PostgresqlK8s.Users.Convergence

/-!
# Upgrade.LegacyCredentials

The credentials that an older version of the charm did not have.  The missing
passwords are set; the monitoring user is created with the extra user roles
`"pg_monitor"`, a text where a list is expected, so that its letters are taken
as roles one by one.
-/

namespace PostgresqlK8s.Upgrade

open Roles Members Secrets Users

/-! ## the set-up -/

/-- `MONITORING_USER`. -/
def monitoringUser : String := "monitoring"

/-- `MONITORING_PASSWORD_KEY`. -/
def monitoringPasswordKey : Key := ⟨"monitoring-password", .inr (by decide)⟩

/-- `PATRONI_PASSWORD_KEY`. -/
def patroniPasswordKey : Key := ⟨"patroni-password", .inr (by decide)⟩

/-- What `new_password` draws: 16 letters and digits. -/
abbrev Password := {s : String // s.length = 16 ∧ s.toList.all Char.isAlphanum = true}

/-- The secrets of the application and the roles of the database. -/
structure Deployment where
  secrets : Store
  roles : RoleCatalog

/-- A password that is missing is set. -/
def setMissing (k : Key) (newPassword : Password) (σ : Store) : Store :=
  if σ.getSecret k = none then σ.setSecret k (some newPassword.1) else σ

/-- `list_users`: the view `pg_user` has the roles that can log in. -/
def listUsers (c : RoleCatalog) (name : String) : Bool := (c.role name).any (·.login)

/-- The call of `create_user`. -/
def monitoringRequest (password : Option String) : UserRequest where
  user := monitoringUser
  password
  admin := false
  extraUserRoles := .text "pg_monitor"

/-- The passwords are there. -/
def setMissingPasswords (newPassword : Key → Password) (σ : Store) : Store :=
  setMissing patroniPasswordKey (newPassword patroniPasswordKey)
    (setMissing monitoringPasswordKey (newPassword monitoringPasswordKey) σ)

/-- `_set_up_new_credentials_for_legacy`, where the database is reached. -/
def setUpNewCredentialsForLegacy (server : Server) (o : SetOrder) (newPassword : Key → Password)
    (s : Deployment) : EStateM.Result CreateUserFailure Deployment Unit :=
  let secrets := setMissingPasswords newPassword s.secrets
  if listUsers s.roles monitoringUser then .ok () { s with secrets }
  else match (monitoringRequest (secrets.getSecret monitoringPasswordKey)).call server o none
      s.roles with
    | .ok u t => .ok u ⟨secrets, t.session.committed⟩
    | .error e t => .error e ⟨secrets, t.session.committed⟩

/-! ## the passwords -/

section Passwords

variable {σ : Store} {newPassword : Key → Password}

theorem Password.ne_empty (p : Password) : p.1 ≠ "" := by
  intro h
  have := p.2.1
  rw [h] at this
  contradiction

theorem Password.ne_deletedLabel (p : Password) : p.1 ≠ deletedLabel := by
  intro h
  have := p.2.1
  rw [h] at this
  contradiction

theorem field_monitoringPasswordKey : monitoringPasswordKey.field.1 = monitoringPasswordKey.raw := by
  decide

theorem field_patroniPasswordKey : patroniPasswordKey.field.1 = patroniPasswordKey.raw := by decide

/-- A missing password is set, and one that is there stays. -/
theorem getSecret_setMissing_self {k : Key} (hraw : k.field.1 = k.raw) (p : Password) :
    (setMissing k p σ).getSecret k = some ((σ.getSecret k).getD p.1) := by
  rw [setMissing]
  split
  · next hmissing =>
      rw [Store.getSecret_setSecret_self hraw p.ne_empty p.ne_deletedLabel, hmissing,
        Option.getD_none]
  · next hpresent =>
      obtain ⟨v, hv⟩ := Option.ne_none_iff_exists'.mp hpresent
      rw [hv, Option.getD_some]

/-- The other passwords stay. -/
theorem getSecret_setMissing_of_ne {k k' : Key} (hraw : k.field.1 = k.raw)
    (hraw' : k'.field.1 = k'.raw) (hne : k.raw ≠ k'.raw) (p : Password) :
    (setMissing k' p σ).getSecret k = σ.getSecret k := by
  rw [setMissing]
  split
  · next hmissing => exact Store.getSecret_setSecret_of_ne hraw hraw' hne p.ne_empty hmissing
  · rfl

/-- The monitoring password afterwards. -/
theorem getSecret_monitoring :
    (setMissingPasswords newPassword σ).getSecret monitoringPasswordKey =
      some ((σ.getSecret monitoringPasswordKey).getD (newPassword monitoringPasswordKey).1) := by
  rw [setMissingPasswords, getSecret_setMissing_of_ne field_monitoringPasswordKey
    field_patroniPasswordKey (by decide), getSecret_setMissing_self field_monitoringPasswordKey]

/-- Patroni has a password afterwards. -/
theorem isSome_getSecret_patroni :
    ((setMissingPasswords newPassword σ).getSecret patroniPasswordKey).isSome = true := by
  rw [setMissingPasswords, getSecret_setMissing_self field_patroniPasswordKey]
  rfl

end Passwords

/-! ## what the set-up is for -/

/-- The credentials are complete: both passwords are set, and the monitoring
user is there with its password, as a member of `pg_monitor`. -/
structure Complete (t : Deployment) : Prop where
  monitoring : (t.secrets.getSecret monitoringPasswordKey).isSome = true
  patroni : (t.secrets.getSecret patroniPasswordKey).isSome = true
  user : ∃ a, t.roles.role monitoringUser = some a ∧ a.login = true ∧
    a.password = t.secrets.getSecret monitoringPasswordKey
  member : (monitoringUser, "pg_monitor") ∈ t.roles.memberships

/-- The set-up ends without raising, and completes the credentials. -/
def Succeeds (server : Server) (o : SetOrder) (newPassword : Key → Password) (s : Deployment) :
    Prop :=
  ∃ t, setUpNewCredentialsForLegacy server o newPassword s = .ok () t ∧ Complete t

/-- The monitoring password that is there, or that is drawn. -/
def monitoringPassword (newPassword : Key → Password) (s : Deployment) : String :=
  (s.secrets.getSecret monitoringPasswordKey).getD (newPassword monitoringPasswordKey).1

/-- The roles that the text `"pg_monitor"` asks for. -/
def letters : List String := (ExtraUserRoles.text "pg_monitor").elements

/-- What the set-up needs: the monitoring user is a member of `pg_monitor`
already.  Where it can log in, it has the monitoring password; where it cannot,
the password is one that the server reads, and each letter is a role that it can
become a member of. -/
structure Prepared (server : Server) (newPassword : Key → Password) (s : Deployment) : Prop where
  member : (monitoringUser, "pg_monitor") ∈ s.roles.memberships
  user : ∃ a, s.roles.role monitoringUser = some a ∧
    if a.login = true then a.password = some (monitoringPassword newPassword s)
    else server.passwordOf (monitoringPassword newPassword s) =
        some (monitoringPassword newPassword s) ∧
      ∀ letter ∈ letters, s.roles.Grantable rules letter monitoringUser

section Exact

variable {server : Server} {o : SetOrder} {newPassword : Key → Password} {s : Deployment}
  {c : RoleCatalog} {password : String}

/-- No letter is a name that `create_user` treats in its own way. -/
theorem letters_ne : ∀ letter ∈ letters, letter ≠ "" ∧ letter ≠ permissionsGroupAdmin ∧
    letter ≠ accessGroupRelation ∧ letter ∉ validPrivileges ∧ letter ≠ "pg_monitor" ∧
    letter ≠ monitoringUser := by
  decide

/-- The letters are accepted where they are all roles. -/
theorem separates_letters {x : Separated}
    (h : Separates (.text "pg_monitor") (validRoles c) x) :
    x = ⟨false, letters, []⟩ ∧ ∀ letter ∈ letters, (c.role letter).isSome = true := by
  have hvalid : ∀ letter ∈ letters, validRoles c letter = true := by
    intro letter hletter
    obtain ⟨-, hadmin, hrelation, hprivilege, -⟩ := letters_ne letter hletter
    obtain hvalid | heq | heq | hmem := h.acceptable letter hletter
    · exact hvalid
    · exact absurd heq hadmin
    · exact absurd heq hrelation
    · exact absurd hmem hprivilege
  have hroles : x.roles = letters := by
    rw [h.roles]
    refine List.filter_eq_self.mpr fun letter hletter => ?_
    rw [hvalid letter hletter, Bool.true_and, bne_iff_ne]
    exact (letters_ne letter hletter).2.1
  have hprivileges : x.privileges = [] := by
    refine List.eq_nil_iff_forall_not_mem.mpr fun role hrole => ?_
    obtain ⟨hletter, -, hprivilege⟩ := (h.mem_privileges role).mp hrole
    exact (letters_ne role hletter).2.2.2.1 hprivilege
  have hadmin : x.adminRole = false := h.adminRole.trans (by decide)
  refine ⟨?_, fun letter hletter => (Bool.and_eq_true_iff.mp (hvalid letter hletter)).1⟩
  obtain ⟨adminRole, roles, privileges⟩ := x
  obtain rfl : adminRole = false := hadmin
  obtain rfl : roles = letters := hroles
  obtain rfl : privileges = [] := hprivileges
  rfl

/-- The characters of the text are taken for the roles. -/
theorem exists_separateIn_letters (h : ∀ letter ∈ letters, (c.role letter).isSome = true) :
    (monitoringRequest (some password)).separateIn o c = .ok ⟨false, letters, []⟩ := by
  have hacceptable : Acceptable (monitoringRequest (some password)).extraUserRoles
      (validRoles c) := by
    intro letter hletter
    refine .inl ?_
    rw [validRoles, h letter hletter, Bool.true_and, bne_iff_ne]
    exact (letters_ne letter hletter).1
  obtain ⟨x, hx⟩ := exists_separateIn hacceptable o
  rw [hx, (separates_letters (separates_of_separateIn hx)).1]

/-- The role as the statement defines it. -/
theorem defineUser_letters {d : RoleCatalog} :
    (monitoringRequest (some password)).defineUser server (c.role monitoringUser).isSome false [] c =
        some d ↔
      ∃ p, server.passwordOf password = some p ∧ d = c.setRole monitoringUser
        { (c.role monitoringUser).getD .initial with login := true, password := some p } := by
  have hname : rules.reserved monitoringUser = false := by decide
  have happly (p : String) (a : Attributes String) :
      applyAll ((monitoringRequest (some password)).options p false []) a =
        { a with login := true, password := some p } := rfl
  have hconsistent (p : String) :
      Consistent ((monitoringRequest (some password)).options p false []) :=
    (consistent_options List.nodup_nil).mpr fun h => absurd h Bool.false_ne_true
  rw [UserRequest.defineUser, Option.bind_eq_some_iff]
  refine exists_congr fun p => and_congr_right fun _ => ?_
  cases hrole : c.role monitoringUser with
  | none =>
      rw [Option.isSome_none, if_neg Bool.false_ne_true,
        Catalog.createRole_of_groups groups_options, happly]
      exact and_iff_right ⟨hname, hrole, hconsistent p⟩
  | some a =>
      rw [Option.isSome_some, if_pos rfl, Catalog.alterRole_eq_some,
        and_iff_right ⟨hname, groups_options, hconsistent p⟩]
      constructor
      · rintro ⟨b, hb, rfl⟩
        obtain rfl := Option.some.inj (hrole.symm.trans hb)
        rw [happly]
        rfl
      · rintro rfl
        exact ⟨a, hrole, by rw [happly]; rfl⟩

/-- The call for the monitoring user, from what it needs to what it leaves. -/
theorem call_letters {t : Connection} {u : Unit} :
    (monitoringRequest (some password)).call server o none c = .ok u t ↔
      ∃ p e, server.passwordOf password = some p ∧
        (∀ letter ∈ letters, (c.setRole monitoringUser { (c.role monitoringUser).getD .initial with
          login := true, password := some p }).Grantable rules letter monitoringUser) ∧
        (c.setRole monitoringUser { (c.role monitoringUser).getD .initial with
          login := true, password := some p }).grantAll rules letters monitoringUser = some e ∧
        ⟨⟨e, none⟩, none⟩ = t := by
  rw [call_ok]
  constructor
  · rintro ⟨x, d, e, hx, hd, he, rfl⟩
    obtain ⟨rfl, -⟩ := separates_letters (separates_of_separateIn hx)
    obtain ⟨p, hp, rfl⟩ := defineUser_letters.mp hd
    exact ⟨p, e, hp, Catalog.exists_grantAll_iff.mp ⟨e, he⟩, he, rfl⟩
  · rintro ⟨p, e, hp, hgrantable, he, rfl⟩
    have hroles : ∀ letter ∈ letters, (c.role letter).isSome = true := by
      intro letter hletter
      have := (hgrantable letter hletter).isSome.2
      rwa [Catalog.role_setRole_of_ne (letters_ne letter hletter).2.2.2.2.2] at this
    exact ⟨⟨false, letters, []⟩, _, e, exists_separateIn_letters hroles,
      defineUser_letters.mpr ⟨p, hp, rfl⟩, he, rfl⟩

/-- A role that can log in is listed. -/
theorem listUsers_iff {name : String} :
    listUsers c name = true ↔ ∃ a, c.role name = some a ∧ a.login = true := by
  rw [listUsers, Option.any_eq_true]

/-- The password of the user is the one that is stored. -/
theorem setMissingPasswords_password : (setMissingPasswords newPassword s.secrets).getSecret
    monitoringPasswordKey = some (monitoringPassword newPassword s) := getSecret_monitoring

/-- What the call leaves was prepared, if it is complete. -/
theorem prepared_of_complete {p : String} {e : RoleCatalog}
    (hlogin : ∀ {a}, s.roles.role monitoringUser = some a → ¬ a.login = true)
    (hp : server.passwordOf (monitoringPassword newPassword s) = some p)
    (hgrantable : ∀ letter ∈ letters, (s.roles.setRole monitoringUser
      { (s.roles.role monitoringUser).getD .initial with
        login := true, password := some p }).Grantable rules letter monitoringUser)
    (he : (s.roles.setRole monitoringUser { (s.roles.role monitoringUser).getD .initial with
      login := true, password := some p }).grantAll rules letters monitoringUser = some e)
    (hcomplete : Complete ⟨setMissingPasswords newPassword s.secrets, e⟩) :
    Prepared server newPassword s := by
  have hmember : (monitoringUser, "pg_monitor") ∈ s.roles.memberships := by
    obtain hmember | ⟨-, hletter⟩ := (Catalog.mem_of_grantAll he).mp hcomplete.member
    · exact hmember
    · exact absurd rfl (letters_ne _ hletter).2.2.2.2.1
  have hsome := (Catalog.isSome_of_mem_memberships hmember).1
  obtain ⟨a, ha⟩ := Option.isSome_iff_exists.mp hsome
  refine ⟨hmember, a, ha, ?_⟩
  rw [if_neg (hlogin ha)]
  obtain ⟨b, hb, -, hpassword⟩ := hcomplete.user
  have hrole := (congrFun (Catalog.role_of_grantAll he) _).trans (Catalog.role_setRole_self _)
  obtain rfl := Option.some.inj (hb.symm.trans hrole)
  obtain rfl : p = monitoringPassword newPassword s :=
    Option.some.inj (hpassword.trans setMissingPasswords_password)
  exact ⟨hp, fun letter hletter =>
    (Catalog.grantable_setRole hsome (letters_ne letter hletter).2.2.2.2.2).mp
      (hgrantable letter hletter)⟩

/-- **The set-up** succeeds exactly where there is nothing to create: its own
call of `create_user` makes nobody a member of `pg_monitor`. -/
theorem setUpNewCredentialsForLegacy_succeeds_iff :
    Succeeds server o newPassword s ↔ Prepared server newPassword s := by
  rw [Succeeds, setUpNewCredentialsForLegacy, setMissingPasswords_password]
  by_cases hlisted : listUsers s.roles monitoringUser = true
  · obtain ⟨a, ha, hlogin⟩ := listUsers_iff.mp hlisted
    simp only [hlisted, if_true]
    constructor
    · rintro ⟨t, ht, hcomplete⟩
      obtain ⟨-, rfl⟩ := EStateM.Result.ok.inj ht
      obtain ⟨b, hb, -, hpassword⟩ := hcomplete.user
      obtain rfl := Option.some.inj (ha.symm.trans hb)
      refine ⟨hcomplete.member, a, ha, ?_⟩
      rw [if_pos hlogin, hpassword, setMissingPasswords_password]
    · rintro ⟨hmember, b, hb, hpassword⟩
      obtain rfl := Option.some.inj (ha.symm.trans hb)
      rw [if_pos hlogin] at hpassword
      refine ⟨_, rfl, ?_, isSome_getSecret_patroni, ⟨a, ha, hlogin, ?_⟩, hmember⟩
      · rw [setMissingPasswords_password]
        rfl
      · rw [hpassword, setMissingPasswords_password]
  · have hlogin {a : Attributes String} (ha : s.roles.role monitoringUser = some a) :
        ¬ a.login = true := fun hlogin => hlisted (listUsers_iff.mpr ⟨a, ha, hlogin⟩)
    rw [if_neg hlisted]
    constructor
    · rintro ⟨t, ht, hcomplete⟩
      split at ht
      · next u t' hcall =>
          obtain ⟨-, rfl⟩ := EStateM.Result.ok.inj ht
          obtain ⟨p, e, hp, hgrantable, he, rfl⟩ := call_letters.mp hcall
          exact prepared_of_complete hlogin hp hgrantable he hcomplete
      · contradiction
    · rintro ⟨hmember, a, ha, hready⟩
      rw [if_neg (hlogin ha)] at hready
      obtain ⟨hpassword, hletters⟩ := hready
      have hgrantable : ∀ letter ∈ letters, (s.roles.setRole monitoringUser
          { (s.roles.role monitoringUser).getD .initial with
            login := true, password := some (monitoringPassword newPassword s) }).Grantable rules
          letter monitoringUser := fun letter hletter =>
        (Catalog.grantable_setRole (by rw [ha]; rfl) (letters_ne letter hletter).2.2.2.2.2).mpr
          (hletters letter hletter)
      obtain ⟨e, he⟩ := Catalog.exists_grantAll_iff.mpr hgrantable
      have hcall := call_letters (o := o) (u := ()).mpr ⟨_, e, hpassword, hgrantable, he, rfl⟩
      have hrole := (congrFun (Catalog.role_of_grantAll he) _).trans
        (Catalog.role_setRole_self _)
      rw [hcall]
      refine ⟨_, rfl, ?_, isSome_getSecret_patroni, ⟨_, hrole, rfl, ?_⟩, ?_⟩
      · rw [setMissingPasswords_password]
        rfl
      · rw [setMissingPasswords_password]
      · exact (Catalog.mem_of_grantAll he).mpr (.inl hmember)

end Exact

/-! ## a legacy deployment -/

/-- The roles of an older version: the monitoring user did not exist. -/
def legacyRoles : RoleCatalog where
  role name := if name = "pg_monitor" ∨ name = "operator" then some .initial else none
  memberships := []
  isSome_of_mem := by simp

/-- No passwords yet. -/
def legacyDeployment : Deployment where
  secrets := { hasSecrets := true, isLeader := true, databag := ∅, secret := none, newSecrets := [] }
  roles := legacyRoles

def drawnPassword : Password := ⟨"0123456789abcdef", by decide⟩

/-- The letters of `pg_monitor` are no roles of the server. -/
theorem setUpNewCredentialsForLegacy_legacy : (legacyRoles.role "pg_monitor").isSome = true ∧
    ¬ Succeeds plainServer ⟨id, fun _ => .rfl⟩ (fun _ => drawnPassword) legacyDeployment ∧
    ∃ t, setUpNewCredentialsForLegacy plainServer ⟨id, fun _ => .rfl⟩ (fun _ => drawnPassword)
      legacyDeployment = .error (.createUser (some "invalid role(s) for extra user roles")) t := by
  have hraises : ∃ t, setUpNewCredentialsForLegacy plainServer ⟨id, fun _ => .rfl⟩
      (fun _ => drawnPassword) legacyDeployment =
        .error (.createUser (some "invalid role(s) for extra user roles")) t := ⟨_, rfl⟩
  refine ⟨by decide, ?_, hraises⟩
  rintro ⟨t, ht, -⟩
  obtain ⟨t', ht'⟩ := hraises
  rw [ht'] at ht
  contradiction

end PostgresqlK8s.Upgrade
