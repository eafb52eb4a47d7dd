import PostgresqlK8s.Users.CreateUser

/-!
# Users.Convergence

Calling `create_user` again with the same arguments: whatever is left of earlier
calls, it ends with the role that one call makes in a fresh database
(`Converges`).  An earlier call leaves the role as it was or with all its
attributes, and with some of its memberships (`Partial`); the last call adds the
others.  It fails for an administrator, for whom `IN ROLE` is said again.
-/

namespace PostgresqlK8s.Users

open Roles Members EStateM

variable {server : Server} {r : UserRequest} {c₀ c : RoleCatalog}

/-! ## what a call does -/

/-- A statement that is passed has been executed, and counts as one step. -/
theorem execute_ok {run : Session String String → Option (Session String String)}
    {s t : Connection} {u : Unit} : (execute run).run s = .ok u t ↔
      s.remaining ≠ some 0 ∧ ∃ session, run s.session = some session ∧
        ⟨session, s.remaining.map (· - 1)⟩ = t := by
  show execute run s = .ok u t ↔ _
  unfold execute
  split
  · next h => simp [h]
  · next h =>
      cases hrun : run s.session with
      | none => simp
      | some session => simp [h]

/-- A query that is passed reads what the session sees. -/
theorem query_ok {α : Type} {read : RoleCatalog → α} {s t : Connection} {a : α} :
    (query read).run s = .ok a t ↔ s.remaining ≠ some 0 ∧ read s.session.visible = a ∧
      { s with remaining := s.remaining.map (· - 1) } = t := by
  show query read s = .ok a t ↔ _
  unfold query
  split
  · next h => simp [h]
  · next h => simp [h]

/-- Undisturbed, all roles are granted. -/
theorem grantRoles_ok {roles : List String} {t : Connection} {u : Unit} :
    (r.grantRoles roles).run ⟨⟨c, none⟩, none⟩ = .ok u t ↔
      ∃ d, c.grantAll rules roles r.user = some d ∧ ⟨⟨d, none⟩, none⟩ = t := by
  induction roles generalizing c with
  | nil =>
      rw [UserRequest.grantRoles, run_pure_ok]
      simp
  | cons role roles ih =>
      rw [UserRequest.grantRoles, run_bind_ok]
      simp only [execute_ok, Session.write, Session.visible, Option.getD_none, Option.map_none,
        Option.map_eq_some_iff, Catalog.grant_eq_some, Catalog.grantAll_cons]
      constructor
      · rintro ⟨-, _, ⟨-, session, ⟨d, ⟨hgrantable, rfl⟩, rfl⟩, rfl⟩, hrest⟩
        obtain ⟨e, he, hend⟩ := ih.mp hrest
        exact ⟨e, ⟨hgrantable, he⟩, hend⟩
      · rintro ⟨e, ⟨hgrantable, he⟩, hend⟩
        exact ⟨(), _, ⟨by simp, _, ⟨_, ⟨hgrantable, rfl⟩, rfl⟩, rfl⟩, ih.mpr ⟨e, he, hend⟩⟩

/-- What is asked for, in a catalog. -/
def UserRequest.separateIn (r : UserRequest) (o : SetOrder) (c : RoleCatalog) :
    Except CreateUserFailure Separated :=
  if r.extraUserRoles.elements = [] then .ok ⟨false, [], []⟩
  else separate o r.extraUserRoles (validRoles c)

/-- Undisturbed, the roles are separated as the catalog says. -/
theorem separateRoles_ok {o : SetOrder} {t : Connection} {x : Separated} :
    (r.separateRoles o).run ⟨⟨c, none⟩, none⟩ = .ok x t ↔
      r.separateIn o c = .ok x ∧ ⟨⟨c, none⟩, none⟩ = t := by
  rw [UserRequest.separateRoles, UserRequest.separateIn]
  split
  · rw [run_pure_ok]
    simp
  · rw [run_bind_ok]
    simp only [query_ok, run_ofExcept_ok, Session.visible, Option.getD_none, Option.map_none]
    constructor
    · rintro ⟨_, _, ⟨-, rfl, rfl⟩, h⟩
      exact h
    · intro h
      exact ⟨_, _, ⟨by simp, rfl, rfl⟩, h⟩

/-- A call that is not stopped, statement by statement. -/
theorem call_ok {o : SetOrder} {t : Connection} {u : Unit} :
    r.call server o none c = .ok u t ↔ ∃ x d e, r.separateIn o c = .ok x ∧
      r.defineUser server (c.role r.user).isSome x.adminRole x.privileges c = some d ∧
      d.grantAll rules x.roles r.user = some e ∧ ⟨⟨e, none⟩, none⟩ = t := by
  have hraise (e : CreateUserFailure) (s : Connection) (a : Unit) (t : Connection) :
      (raiseCreateUserError e).run s ≠ .ok a t := by
    cases e <;> exact fun h => run_throw_ok.mp h
  rw [UserRequest.call, UserRequest.createUser, run_tryCatch_ok hraise,
    UserRequest.createOrAlter]
  simp only [run_bind_ok, separateRoles_ok, query_ok, execute_ok]
  constructor
  · rintro ⟨x, _, ⟨hx, rfl⟩, present, _, ⟨-, rfl, rfl⟩, -, _, ⟨-, _, hbegin, rfl⟩, -, _,
      ⟨-, _, hset, rfl⟩, -, _, ⟨-, _, hdefine, rfl⟩, -, _, ⟨-, _, hcommit, rfl⟩, hgrant⟩
    cases hbegin
    cases hset
    obtain ⟨d, hd, rfl⟩ := Option.map_eq_some_iff.mp hdefine
    cases hcommit
    obtain ⟨e, he, hend⟩ := grantRoles_ok.mp hgrant
    exact ⟨x, d, e, hx, hd, he, hend⟩
  · rintro ⟨x, d, e, hx, hd, he, hend⟩
    have hopen : (none : Option Nat) ≠ some 0 := by simp
    have hwrite : Session.write ⟨c, some c⟩ (r.defineUser server (c.role r.user).isSome
        x.adminRole x.privileges) = some ⟨c, some d⟩ := Option.map_eq_some_iff.mpr ⟨d, hd, rfl⟩
    exact ⟨x, ⟨⟨c, none⟩, none⟩, ⟨hx, rfl⟩, (c.role r.user).isSome, ⟨⟨c, none⟩, none⟩,
      ⟨hopen, rfl, rfl⟩, (), ⟨⟨c, some c⟩, none⟩, ⟨hopen, _, rfl, rfl⟩, (), ⟨⟨c, some c⟩, none⟩,
      ⟨hopen, _, rfl, rfl⟩, (), ⟨⟨c, some d⟩, none⟩, ⟨hopen, _, hwrite, rfl⟩, (),
      ⟨⟨d, none⟩, none⟩, ⟨hopen, _, rfl, rfl⟩, grantRoles_ok.mpr ⟨e, he, hend⟩⟩

/-! ## the options -/

/-- The privileges that are options of a role. -/
theorem keyword_eq_some {privilege : String} {o : RoleOption String String} :
    keyword privilege = some o ↔ privilege = "createdb" ∧ o = .createdb true ∨
      privilege = "createrole" ∧ o = .createrole true ∨
      privilege = "superuser" ∧ o = .superuser true := by
  rw [keyword]
  grind

/-- A privilege is about one thing, and no two are about the same. -/
theorem nodup_keyword_kinds {privileges : List String} (h : privileges.Nodup) :
    ((privileges.filterMap keyword).map RoleOption.kind).Nodup := by
  rw [List.map_filterMap]
  refine h.filterMap fun a b k ha hb => ?_
  simp only [Option.map_eq_some_iff, Option.mem_def, keyword_eq_some] at ha hb
  obtain ⟨o, ho, rfl⟩ := ha
  obtain ⟨o', ho', hkind⟩ := hb
  grind [RoleOption.kind]

/-- The kinds of the options are those of the privileges. -/
theorem mem_keyword_kinds {privileges : List String} {k : OptionKind} :
    k ∈ (privileges.filterMap keyword).map RoleOption.kind ↔
      "createdb" ∈ privileges ∧ k = .createdb ∨ "createrole" ∈ privileges ∧ k = .createrole ∨
        "superuser" ∈ privileges ∧ k = .superuser := by
  simp only [List.mem_map, List.mem_filterMap, keyword_eq_some]
  constructor
  · rintro ⟨o, ⟨p, hp, h⟩, rfl⟩
    grind [RoleOption.kind]
  · rintro (⟨hp, rfl⟩ | ⟨hp, rfl⟩ | ⟨hp, rfl⟩)
    · exact ⟨.createdb true, ⟨_, hp, by simp⟩, rfl⟩
    · exact ⟨.createrole true, ⟨_, hp, by simp⟩, rfl⟩
    · exact ⟨.superuser true, ⟨_, hp, by simp⟩, rfl⟩

/-- The options are consistent for a user that is no administrator, unless the
call makes a superuser of it in two ways. -/
theorem consistent_options {password : String} {privileges : List String} (h : privileges.Nodup) :
    Consistent (r.options password false privileges) ↔
      (r.admin = true → "superuser" ∉ privileges) := by
  have hkinds := nodup_keyword_kinds h
  rw [Consistent, UserRequest.options, if_neg Bool.false_ne_true]
  cases r.admin with
  | false =>
      have hlogin : OptionKind.login ∉ (privileges.filterMap keyword).map RoleOption.kind := by
        simp [mem_keyword_kinds]
      have hpassword : OptionKind.password ∉ (privileges.filterMap keyword).map RoleOption.kind := by
        simp [mem_keyword_kinds]
      simp only [if_neg Bool.false_ne_true, List.append_nil, List.cons_append, List.nil_append,
        List.map_cons, List.nodup_cons, List.mem_cons, RoleOption.kind]
      simp [hlogin, hpassword, hkinds]
  | true =>
      have hlogin : OptionKind.login ∉ (privileges.filterMap keyword).map RoleOption.kind := by
        simp [mem_keyword_kinds]
      have hpassword : OptionKind.password ∉ (privileges.filterMap keyword).map RoleOption.kind := by
        simp [mem_keyword_kinds]
      have hsuperuser : OptionKind.superuser ∈ (privileges.filterMap keyword).map RoleOption.kind ↔
          "superuser" ∈ privileges := by
        simp [mem_keyword_kinds]
      simp only [if_pos, List.append_nil, List.cons_append, List.nil_append,
        List.map_cons, List.nodup_cons, List.mem_cons, RoleOption.kind, hsuperuser]
      simp [hlogin, hpassword, hkinds]

theorem groups_options {password : String} {privileges : List String} :
    Catalog.groups (r.options password false privileges) = [] := by
  rw [Catalog.groups, List.filterMap_eq_nil_iff]
  intro o ho
  simp only [UserRequest.options, if_neg Bool.false_ne_true, List.append_nil, List.mem_append,
    List.mem_singleton, List.mem_filterMap, keyword_eq_some] at ho
  grind [RoleOption.group?]

/-- An administrator is made by `IN ROLE`. -/
theorem groups_options_admin {password : String} {privileges : List String} :
    Catalog.groups (r.options password true privileges) ≠ [] := by
  have hmem : "admin" ∈ Catalog.groups (r.options password true privileges) := by
    rw [Catalog.groups, List.mem_filterMap]
    exact ⟨.inRole "admin", by simp [UserRequest.options], rfl⟩
  exact List.ne_nil_of_mem hmem

/-! ## the roles that are asked for -/

theorem contains_of_elements_eq_nil {e : ExtraUserRoles} (h : e.elements = []) (name : String)
    (hname : name ≠ "") : e.contains name = false := by
  cases e with
  | absent => rfl
  | list roles =>
      obtain rfl : roles = [] := h
      rfl
  | text s =>
      have hs : s.toList = [] := List.map_eq_nil_iff.mp h
      have hname : name.toList ≠ [] := fun hnil => hname (String.toList_eq_nil_iff.mp hnil)
      simp [ExtraUserRoles.contains, Text.occursIn, hs, hname]

/-- What is separated has the roles and privileges that were asked for. -/
theorem separates_of_separateIn {o : SetOrder} {x : Separated} (h : r.separateIn o c = .ok x) :
    Separates r.extraUserRoles (validRoles c) x := by
  rw [UserRequest.separateIn] at h
  split at h
  · next hnil =>
      obtain rfl := Except.ok.inj h
      have hadmin := contains_of_elements_eq_nil hnil permissionsGroupAdmin (by decide)
      exact ⟨by simp [Acceptable, hnil], hadmin.symm, by simp [ExtraUserRoles.roles, hnil],
        List.nodup_nil, by simp [hnil]⟩
  · exact separates_of_separate h

/-- An acceptable request is separated. -/
theorem exists_separateIn (h : Acceptable r.extraUserRoles (validRoles c)) (o : SetOrder) :
    ∃ x, r.separateIn o c = .ok x := by
  rw [UserRequest.separateIn]
  split
  · exact ⟨_, rfl⟩
  · exact exists_separate h o

/-- Only what is a role among the extra user roles matters. -/
theorem Separates.congr {e : ExtraUserRoles} {valid valid' : String → Bool} {x : Separated}
    (h : Separates e valid x) (hvalid : ∀ role ∈ e.elements, valid role = valid' role) :
    Separates e valid' x where
  acceptable role hrole := hvalid role hrole ▸ h.acceptable role hrole
  adminRole := h.adminRole
  roles := h.roles.trans (List.filter_congr fun role hrole => by rw [hvalid role hrole])
  nodup := h.nodup
  mem_privileges role := by
    rw [h.mem_privileges]
    exact and_congr_right fun hrole => by rw [hvalid role hrole]

/-- Two separations differ in the order of the privileges only. -/
theorem Separates.privileges_perm {e : ExtraUserRoles} {valid : String → Bool} {x y : Separated}
    (hx : Separates e valid x) (hy : Separates e valid y) : x.privileges.Perm y.privileges :=
  (List.perm_ext_iff_of_nodup hx.nodup hy.nodup).mpr fun role => by
    rw [hx.mem_privileges, hy.mem_privileges]

/-! ## what earlier calls leave -/

/-- The roles when some calls have stopped: the user is missing or has its
attributes, and it is a member of some of the roles that are asked for. -/
structure Partial (r : UserRequest) (c₀ : RoleCatalog) (a : Attributes String) (c : RoleCatalog) :
    Prop where
  others : ∀ name, name ≠ r.user → c.role name = c₀.role name
  own : c.role r.user = none ∨ c.role r.user = some a
  edges : ∀ edge ∈ c.memberships, edge ∈ c₀.memberships ∨
    edge.1 = r.user ∧ edge.2 ∈ r.extraUserRoles.roles (validRoles c₀)

/-- What the convergence of a call needs: a name and a password that the server
takes, a list that names neither administrators, nor the user itself, nor a role
that has no members, and no two ways to make a superuser. -/
structure Convergent (server : Server) (r : UserRequest) (c₀ : RoleCatalog) : Prop where
  name : rules.reserved r.user = false
  password : (server.passwordOf r.passwordText).isSome = true
  notAdmin : permissionsGroupAdmin ∉ r.extraUserRoles.elements
  notSelf : r.user ∉ r.extraUserRoles.elements
  notOwner : "pg_database_owner" ∉ r.extraUserRoles.elements
  superuser : r.admin = true → "superuser" ∈ r.extraUserRoles.elements →
    (c₀.role "superuser").isSome = true

/-- The text is not what `create_user` expects. -/
def ExtraUserRoles.IsList (e : ExtraUserRoles) : Prop := ∀ s, e ≠ .text s

/-- In a list, `in` asks for the elements. -/
theorem ExtraUserRoles.IsList.contains_iff {e : ExtraUserRoles} (h : e.IsList) {name : String} :
    e.contains name = true ↔ name ∈ e.elements := by
  cases e with
  | absent => simp [contains, elements]
  | list roles => simp [contains, elements]
  | text s => exact absurd rfl (h s)

/-- A call that can converge, the password that it sets, and what it asks for. -/
structure Request (server : Server) (r : UserRequest) (c₀ : RoleCatalog) (password : String)
    (x : Separated) : Prop where
  convergent : Convergent server r c₀
  fresh : c₀.role r.user = none
  password : server.passwordOf r.passwordText = some password
  separates : Separates r.extraUserRoles (validRoles c₀) x
  adminRole : x.adminRole = false

namespace Request

variable {password : String} {x₀ x : Separated}

/-- The attributes of the role. -/
def attributes (r : UserRequest) (password : String) (x₀ : Separated) : Attributes String :=
  applyAll (r.options password false x₀.privileges) .initial

/-- A catalog without the user is a partial one. -/
theorem partial_fresh (h : Request server r c₀ password x₀) :
    Partial r c₀ (attributes r password x₀) c₀ :=
  ⟨fun _ _ => rfl, .inl h.fresh, fun _ hedge => .inl hedge⟩

variable (h : Request server r c₀ password x₀)
  (hc : Partial r c₀ (attributes r password x₀) c)

include h hc

/-- The extra user roles are taken apart as in the fresh database. -/
theorem separates_of_partial {o : SetOrder} (hx : r.separateIn o c = .ok x) :
    Separates r.extraUserRoles (validRoles c₀) x ∧ x.adminRole = false := by
  have hx : Separates r.extraUserRoles (validRoles c₀) x :=
    (separates_of_separateIn hx).congr fun role hrole => by
      rw [validRoles, validRoles, hc.others role fun heq => h.convergent.notSelf (heq ▸ hrole)]
  exact ⟨hx, hx.adminRole.trans (h.separates.adminRole.symm.trans h.adminRole)⟩

/-- A partial attempt does not make the request invalid. -/
theorem acceptable_of_partial : Acceptable r.extraUserRoles (validRoles c) := by
  intro role hrole
  rw [validRoles, hc.others role fun heq => h.convergent.notSelf (heq ▸ hrole)]
  exact h.separates.acceptable role hrole

omit hc in
/-- The options of the user are consistent. -/
theorem consistent (hx : Separates r.extraUserRoles (validRoles c₀) x) :
    Consistent (r.options password false x.privileges) := by
  refine (consistent_options hx.nodup).mpr fun hadmin hmem => ?_
  obtain ⟨helement, hvalid, -⟩ := (hx.mem_privileges _).mp hmem
  rw [validRoles, h.convergent.superuser hadmin helement] at hvalid
  contradiction

omit hc in
/-- The privileges are a set. -/
theorem applyAll_options (hx : Separates r.extraUserRoles (validRoles c₀) x)
    (a : Attributes String) : applyAll (r.options password false x.privileges) a =
      applyAll (r.options password false x₀.privileges) a := by
  have hperm := (hx.privileges_perm h.separates).filterMap keyword
  exact applyAll_perm (hperm.append_left _) (h.consistent hx) a

/-- Whether it creates or alters the role, a call gives it its attributes. -/
theorem partial_defineUser (hx : Separates r.extraUserRoles (validRoles c₀) x)
    {present : Bool} {d : RoleCatalog}
    (hd : r.defineUser server present false x.privileges c = some d) :
    Partial r c₀ (attributes r password x₀) d ∧
      d.role r.user = some (attributes r password x₀) := by
  have hset : d = c.setRole r.user (attributes r password x₀) := by
    rw [UserRequest.defineUser, h.password, Option.bind_some] at hd
    split at hd
    · obtain ⟨-, a, ha, rfl⟩ := Catalog.alterRole_eq_some.mp hd
      obtain hnone | hsome := hc.own
      · rw [hnone] at ha
        contradiction
      · obtain rfl := Option.some.inj (ha.symm.trans hsome)
        rw [h.applyAll_options hx, attributes, applyAll_applyAll (h.consistent h.separates)]
    · obtain ⟨-, rfl⟩ := (Catalog.createRole_of_groups groups_options).mp hd
      rw [h.applyAll_options hx, attributes]
  subst hset
  refine ⟨⟨fun name hname => ?_, .inr (Catalog.role_setRole_self _), hc.edges⟩,
    Catalog.role_setRole_self _⟩
  rw [Catalog.role_setRole_of_ne hname, hc.others name hname]

omit hc in
/-- The role can be created, or altered if it exists. -/
theorem exists_defineUser (hx : Separates r.extraUserRoles (validRoles c₀) x) :
    ∃ d, r.defineUser server (c.role r.user).isSome false x.privileges c = some d := by
  rw [UserRequest.defineUser, h.password, Option.bind_some]
  cases hown : c.role r.user with
  | none =>
      exact ⟨_, (Catalog.createRole_of_groups groups_options).mpr
        ⟨⟨h.convergent.name, hown, h.consistent hx⟩, rfl⟩⟩
  | some a =>
      exact ⟨_, Catalog.alterRole_eq_some.mpr
        ⟨⟨h.convergent.name, groups_options, h.consistent hx⟩, a, hown, rfl⟩⟩

/-- Nobody is a member of the user. -/
theorem notMem_memberships (name : String) : (name, r.user) ∉ c.memberships := by
  intro hedge
  obtain hedge | ⟨-, hrole⟩ := hc.edges _ hedge
  · have := (Catalog.isSome_of_mem_memberships hedge).2
    rw [h.fresh] at this
    contradiction
  · exact h.convergent.notSelf (mem_roles.mp hrole).1

/-- Every requested role can be granted to the user. -/
theorem grantable {role : String} (hown : (c.role r.user).isSome = true)
    (hrole : role ∈ r.extraUserRoles.roles (validRoles c₀)) :
    c.Grantable rules role r.user where
  isSome := by
    obtain ⟨helement, hvalid, -⟩ := mem_roles.mp hrole
    refine ⟨hown, ?_⟩
    rw [hc.others role fun heq => h.convergent.notSelf (heq ▸ helement)]
    exact (Bool.and_eq_true_iff.mp hvalid).1
  opened := beq_eq_false_iff_ne.mpr fun heq =>
    h.convergent.notOwner (heq ▸ (mem_roles.mp hrole).1)
  ne := fun heq => h.convergent.notSelf (heq ▸ (mem_roles.mp hrole).1)
  acyclic := Catalog.not_inheritsFrom (h.notMem_memberships hc)

omit h in
/-- Granting one of them is a step of a partial attempt. -/
theorem partial_grant {role : String} {d : RoleCatalog}
    (hrole : role ∈ r.extraUserRoles.roles (validRoles c₀))
    (hd : c.grant rules role r.user = some d) :
    Partial r c₀ (attributes r password x₀) d := by
  obtain ⟨hgrantable, rfl⟩ := Catalog.grant_eq_some.mp hd
  refine ⟨hc.others, hc.own, fun edge hedge => ?_⟩
  obtain rfl | hold := Catalog.mem_addMember.mp hedge
  · exact .inr ⟨rfl, hrole⟩
  · exact hc.edges edge hold

/-- A call that is not stopped makes the role, with all its memberships. -/
theorem exists_call (o : SetOrder) : ∃ d, r.call server o none c = .ok () ⟨⟨d, none⟩, none⟩ ∧
    d.role r.user = some (attributes r password x₀) ∧
    ∀ role, (r.user, role) ∈ d.memberships ↔ role ∈ r.extraUserRoles.roles (validRoles c₀) := by
  obtain ⟨x, hx⟩ := exists_separateIn (h.acceptable_of_partial hc) o
  obtain ⟨hseparates, hadmin⟩ := h.separates_of_partial hc hx
  obtain ⟨d, hd⟩ := h.exists_defineUser (c := c) hseparates
  obtain ⟨hdefined, hmade⟩ := h.partial_defineUser hc hseparates hd
  obtain ⟨e, he⟩ := Catalog.exists_grantAll_iff.mpr fun role hrole =>
    h.grantable hdefined (by rw [hmade]; rfl) (hseparates.roles ▸ hrole)
  have hmem (role : String) : (r.user, role) ∈ e.memberships ↔ _ := Catalog.mem_of_grantAll he
  refine ⟨e, call_ok.mpr ⟨x, d, e, hx, hadmin ▸ hd, he, rfl⟩,
    (congrFun (Catalog.role_of_grantAll he) _).trans hmade, fun role => ?_⟩
  rw [hmem, ← hseparates.roles]
  refine ⟨fun hedge => hedge.elim (fun hedge => ?_) And.right, fun hrole => .inr ⟨rfl, hrole⟩⟩
  obtain hold | ⟨-, hrole⟩ := hdefined.edges _ hedge
  · have := (Catalog.isSome_of_mem_memberships hold).1
    rw [h.fresh] at this
    contradiction
  · exact hseparates.roles ▸ hrole

end Request

/-! ## a call that stops -/

/-- A statement that fails loses the session. -/
theorem lose_of_execute_error {run : Session String String → Option (Session String String)}
    {s t : Connection} {e : CreateUserFailure} (h : (execute run).run s = .error e t) :
    t = s.lose := by
  replace h : execute run s = .error e t := h
  unfold execute at h
  split at h
  · exact (EStateM.Result.error.inj h).2.symm
  · split at h
    · contradiction
    · exact (EStateM.Result.error.inj h).2.symm

/-- So does a query. -/
theorem lose_of_query_error {α : Type} {read : RoleCatalog → α} {s t : Connection}
    {e : CreateUserFailure} (h : (query read).run s = .error e t) : t = s.lose := by
  replace h : query read s = .error e t := h
  unfold query at h
  split at h
  · exact (EStateM.Result.error.inj h).2.symm
  · contradiction

theorem triple_execute {P E : Connection → Prop} {Q : Unit → Connection → Prop}
    {run : Session String String → Option (Session String String)}
    (hok : ∀ s, P s → ∀ session, run s.session = some session →
      Q () ⟨session, s.remaining.map (· - 1)⟩) (herror : ∀ s, P s → E s.lose) :
    Triple P (execute run) Q E := by
  intro s hs
  cases hrun : (execute run).run s with
  | ok u t =>
      obtain ⟨-, session, hsession, rfl⟩ := execute_ok.mp hrun
      exact hok s hs session hsession
  | error e t =>
      rw [lose_of_execute_error hrun]
      exact herror s hs

theorem triple_query {α : Type} {P E : Connection → Prop} {Q : α → Connection → Prop}
    {read : RoleCatalog → α}
    (hok : ∀ s, P s → Q (read s.session.visible) { s with remaining := s.remaining.map (· - 1) })
    (herror : ∀ s, P s → E s.lose) : Triple P (query read) Q E := by
  intro s hs
  cases hrun : (query read).run s with
  | ok a t =>
      obtain ⟨-, rfl, rfl⟩ := query_ok.mp hrun
      exact hok s hs
  | error e t =>
      rw [lose_of_query_error hrun]
      exact herror s hs

/-- What the connection sees, and what it leaves, are left by stopped calls. -/
structure PartialSession (r : UserRequest) (c₀ : RoleCatalog) (a : Attributes String)
    (s : Connection) : Prop where
  committed : Partial r c₀ a s.session.committed
  visible : Partial r c₀ a s.session.visible

variable {a : Attributes String}

/-- What is lost is only what was not committed. -/
theorem PartialSession.lose {s : Connection} (h : PartialSession r c₀ a s) :
    PartialSession r c₀ a s.lose := ⟨h.committed, h.committed⟩

/-- A statement that writes, in a transaction or not. -/
theorem PartialSession.write {s : Connection} (h : PartialSession r c₀ a s) {remaining : Option Nat}
    {run : RoleCatalog → Option RoleCatalog} {session : Session String String}
    (hwrite : s.session.write run = some session)
    (hrun : ∀ d, run s.session.visible = some d → Partial r c₀ a d) :
    PartialSession r c₀ a ⟨session, remaining⟩ := by
  obtain ⟨d, hd, rfl⟩ := Option.map_eq_some_iff.mp hwrite
  cases htransaction : s.session.transaction with
  | none => exact ⟨hrun d hd, hrun d hd⟩
  | some _ => exact ⟨h.committed, hrun d hd⟩

namespace Request

variable {password : String} {x₀ x : Separated} (h : Request server r c₀ password x₀)
include h

/-- Separating the roles leaves the session as it is. -/
theorem triple_separateRoles (o : SetOrder) :
    Triple (PartialSession r c₀ (attributes r password x₀)) (r.separateRoles o)
      (fun x s => PartialSession r c₀ (attributes r password x₀) s ∧
        (Separates r.extraUserRoles (validRoles c₀) x ∧ x.adminRole = false))
      (PartialSession r c₀ (attributes r password x₀)) := by
  rw [UserRequest.separateRoles]
  split
  · next hnil =>
      refine triple_pure fun s hs => ⟨hs, h.separates_of_partial (o := o) hs.visible ?_⟩
      exact if_pos hnil
  · next hnil =>
      refine triple_bind (R := fun valid s => PartialSession r c₀ (attributes r password x₀) s ∧
        valid = validRoles s.session.visible) (triple_query (fun s hs => ⟨⟨hs.1, hs.2⟩, rfl⟩)
          fun s hs => hs.lose) fun valid => triple_ofExcept (fun x hx s hs => ⟨hs.1, ?_⟩)
        fun e _ s hs => hs.1
      obtain ⟨hs, rfl⟩ := hs
      exact h.separates_of_partial (o := o) hs.visible ((if_neg hnil).trans hx)

omit h in
/-- **Loop**: wherever granting stops, the attempt is a partial one. -/
theorem triple_grantRoles {roles : List String}
    (hroles : ∀ role ∈ roles, role ∈ r.extraUserRoles.roles (validRoles c₀)) :
    Triple (PartialSession r c₀ (attributes r password x₀)) (r.grantRoles roles)
      (fun _ => PartialSession r c₀ (attributes r password x₀))
      (PartialSession r c₀ (attributes r password x₀)) := by
  induction roles with
  | nil => exact triple_pure fun _ hs => hs
  | cons role roles ih =>
      rw [List.forall_mem_cons] at hroles
      refine triple_bind (triple_execute (fun s hs session hsession => ?_) fun s hs => hs.lose)
        fun _ => ih hroles.2
      exact hs.write hsession fun d hd => partial_grant hs.visible hroles.1 hd

omit h in
/-- `BEGIN`, `COMMIT` and a setting of the session. -/
theorem triple_execute_part {a : Attributes String}
    {run : Session String String → Session String String}
    (hrun : ∀ s : Connection, PartialSession r c₀ a s →
      Partial r c₀ a (run s.session).committed ∧ Partial r c₀ a (run s.session).visible) :
    Triple (PartialSession r c₀ a) (execute fun s => some (run s))
      (fun _ => PartialSession r c₀ a) (PartialSession r c₀ a) := by
  refine triple_execute (fun s hs session hsession => ?_) fun s hs => hs.lose
  obtain rfl := Option.some.inj hsession
  exact ⟨(hrun s hs).1, (hrun s hs).2⟩

/-- Every step of a call keeps the state partial, wherever it stops. -/
theorem triple_createUser (o : SetOrder) :
    Triple (PartialSession r c₀ (attributes r password x₀)) (r.createUser server o)
      (fun _ => PartialSession r c₀ (attributes r password x₀))
      (PartialSession r c₀ (attributes r password x₀)) := by
  refine triple_tryCatch ?_ fun e => by cases e <;> exact triple_throw fun _ hs => hs
  refine triple_bind (h.triple_separateRoles o) fun x => triple_of_fact fun hx => ?_
  refine triple_bind (R := fun _ => PartialSession r c₀ (attributes r password x₀))
    (triple_query (fun s hs => ⟨hs.committed, hs.visible⟩) fun s hs => hs.lose) fun present => ?_
  refine triple_bind (triple_execute_part fun s hs => ⟨hs.committed, hs.visible⟩) fun _ => ?_
  refine triple_bind (triple_execute_part fun s hs => ⟨hs.committed, hs.visible⟩) fun _ => ?_
  refine triple_bind (R := fun _ => PartialSession r c₀ (attributes r password x₀))
    (triple_execute (fun s hs session hsession => ?_) fun s hs => hs.lose) fun _ => ?_
  · refine hs.write hsession fun d hd => ?_
    rw [hx.2] at hd
    exact (h.partial_defineUser hs.visible hx.1 hd).1
  refine triple_bind (triple_execute_part fun s hs => ⟨hs.visible, hs.visible⟩) fun _ => ?_
  exact triple_grantRoles fun role hrole => hx.1.roles ▸ hrole

end Request

/-! ## convergence -/

/-- The roles of a database in which the user is missing, or which earlier calls
with the same arguments have left, wherever they stopped. -/
inductive Prior (server : Server) (r : UserRequest) (c₀ : RoleCatalog) : RoleCatalog → Prop
  | fresh : Prior server r c₀ c₀
  | stopped {c : RoleCatalog} (o : SetOrder) (remaining : Option Nat) (h : Prior server r c₀ c) :
      Prior server r c₀ (leaves (r.call server o remaining c))

/-- A call succeeds from every such state, and leaves the role with the
attributes and the memberships that one call gives it in the fresh database. -/
def Converges (server : Server) (r : UserRequest) (c₀ : RoleCatalog) : Prop :=
  ∀ c, Prior server r c₀ c → ∀ o o₀ : SetOrder, ∃ s s₀,
    r.call server o none c = .ok () s ∧ r.call server o₀ none c₀ = .ok () s₀ ∧
    s.session.committed.role r.user = s₀.session.committed.role r.user ∧
    ∀ role, (r.user, role) ∈ s.session.committed.memberships ↔
      (r.user, role) ∈ s₀.session.committed.memberships

/-- What prior attempts leave is partial. -/
theorem Request.partial_of_prior {password : String} {x₀ : Separated}
    (h : Request server r c₀ password x₀) (hc : Prior server r c₀ c) :
    Partial r c₀ (Request.attributes r password x₀) c := by
  induction hc with
  | fresh => exact h.partial_fresh
  | @stopped c o remaining _ ih =>
      have htriple := h.triple_createUser o ⟨⟨c, none⟩, remaining⟩ ⟨ih, ih⟩
      rw [UserRequest.call]
      cases hrun : (r.createUser server o).run ⟨⟨c, none⟩, remaining⟩ with
      | ok u s =>
          rw [hrun] at htriple
          exact htriple.committed
      | error e s =>
          rw [hrun] at htriple
          exact htriple.committed

/-! ## the condition -/

/-- `create_user` accepts what it is asked for. -/
def Accepts (r : UserRequest) (c₀ : RoleCatalog) : Prop :=
  Acceptable r.extraUserRoles (validRoles c₀)

section Necessary

variable {d : RoleCatalog} {x : Separated}

/-- A definition that succeeds: the password is read, and the name taken. -/
theorem of_defineUser {present adminRole : Bool} {privileges : List String}
    (h : r.defineUser server present adminRole privileges c = some d) :
    ∃ password, server.passwordOf r.passwordText = some password ∧
      rules.reserved r.user = false ∧ Consistent (r.options password adminRole privileges) ∧
      (present = true → adminRole = false) ∧ (d.role r.user).isSome = true := by
  obtain ⟨password, hpassword, hd⟩ := Option.bind_eq_some_iff.mp h
  refine ⟨password, hpassword, ?_⟩
  split at hd
  · obtain ⟨⟨hname, hgroups, hconsistent⟩, a, -, rfl⟩ := Catalog.alterRole_eq_some.mp hd
    refine ⟨hname, hconsistent, fun _ => ?_, by rw [Catalog.role_setRole_self]; rfl⟩
    cases adminRole with
    | false => rfl
    | true => exact absurd hgroups groups_options_admin
  · next hpresent =>
      obtain ⟨hname, -, hconsistent⟩ := Catalog.of_createRole_eq_some hd
      exact ⟨hname, hconsistent, fun h => absurd h hpresent, Catalog.isSome_of_createRole hd⟩

/-- The condition is necessary. -/
theorem convergent_of_converges (hlist : r.extraUserRoles.IsList) (haccepts : Accepts r c₀)
    (h : Converges server r c₀) (o : SetOrder) : Convergent server r c₀ := by
  obtain ⟨s, -, hcall, -⟩ := h c₀ .fresh o o
  have hprior : Prior server r c₀ (leaves (r.call server o none c₀)) := .stopped o none .fresh
  rw [hcall] at hprior
  obtain ⟨x, d, e, hx, hd, he, rfl⟩ := call_ok.mp hcall
  obtain ⟨t, -, hagain, -⟩ := h e hprior o o
  obtain ⟨y, d', e', hy, hd', he', rfl⟩ := call_ok.mp hagain
  have hx := separates_of_separateIn hx
  have hy := separates_of_separateIn hy
  obtain ⟨password, hpassword, hname, hconsistent, -, hmade⟩ := of_defineUser hd
  obtain ⟨-, -, -, -, hnotAdmin, -⟩ := of_defineUser hd'
  have hgranted := Catalog.exists_grantAll_iff.mp ⟨e, he⟩
  have hrole := congrFun (Catalog.role_of_grantAll he) r.user
  have hpresent : (e.role r.user).isSome = true := hrole ▸ hmade
  have hcontains := hnotAdmin hpresent
  have hadmin : permissionsGroupAdmin ∉ r.extraUserRoles.elements := by
    rw [hy.adminRole, Bool.eq_false_iff] at hcontains
    exact fun hmem => hcontains (hlist.contains_iff.mpr hmem)
  have hnotSelf : r.user ∉ r.extraUserRoles.elements := by
    intro hmem
    have hvalid : validRoles e r.user = true := by
      have hne : r.user ≠ "" := by
        intro heq
        rw [heq] at hname
        contradiction
      rw [validRoles, hpresent, Bool.true_and, bne_iff_ne]
      exact hne
    have hroles : r.user ∈ y.roles := by
      rw [hy.roles, mem_roles]
      exact ⟨hmem, hvalid, fun heq => hadmin (heq ▸ hmem)⟩
    exact (Catalog.exists_grantAll_iff.mp ⟨e', he'⟩ _ hroles).ne rfl
  refine ⟨hname, by rw [hpassword]; rfl, hadmin, hnotSelf, fun hmem => ?_, fun hflag hmem => ?_⟩
  · obtain hvalid | heq | heq | hprivilege := haccepts _ hmem
    · have hroles : "pg_database_owner" ∈ x.roles := by
        rw [hx.roles, mem_roles]
        exact ⟨hmem, hvalid, by decide⟩
      have := (hgranted _ hroles).opened
      contradiction
    · exact absurd heq (by decide)
    · exact absurd heq (by decide)
    · exact absurd hprivilege (by decide)
  · have hfalse : x.adminRole = false := by
      rw [hx.adminRole, Bool.eq_false_iff]
      exact fun hmem => hadmin (hlist.contains_iff.mp hmem)
    rw [hfalse, consistent_options hx.nodup] at hconsistent
    by_contra hnone
    refine hconsistent hflag ((hx.mem_privileges _).mpr ⟨hmem, ?_, by decide⟩)
    rw [validRoles, Bool.not_eq_true _ |>.mp hnone, Bool.false_and]

end Necessary

/-- **Convergence** of a call that `create_user` accepts: exactly where the
condition holds. -/
theorem createUser_converges_iff (hlist : r.extraUserRoles.IsList) (hfresh : c₀.role r.user = none)
    (haccepts : Accepts r c₀) : Converges server r c₀ ↔ Convergent server r c₀ := by
  refine ⟨fun h => convergent_of_converges hlist haccepts h ⟨id, fun _ => .rfl⟩, fun h => ?_⟩
  obtain ⟨password, hpassword⟩ := Option.isSome_iff_exists.mp h.password
  obtain ⟨x, hx⟩ := exists_separateIn haccepts ⟨id, fun _ => .rfl⟩
  have hx := separates_of_separateIn hx
  have hadmin : x.adminRole = false := by
    rw [hx.adminRole, Bool.eq_false_iff]
    exact fun hmem => h.notAdmin (hlist.contains_iff.mp hmem)
  have hrequest : Request server r c₀ password x := ⟨h, hfresh, hpassword, hx, hadmin⟩
  intro c hc o o₀
  obtain ⟨d, hd, hrole, hmem⟩ := hrequest.exists_call (hrequest.partial_of_prior hc) o
  obtain ⟨d₀, hd₀, hrole₀, hmem₀⟩ := hrequest.exists_call hrequest.partial_fresh o₀
  exact ⟨_, _, hd, hd₀, hrole.trans hrole₀.symm, fun role => (hmem role).trans (hmem₀ role).symm⟩

/-! ## a relation and an administrator -/

/-- A server that reads plain passwords only. -/
def plainServer : Server where
  passwordOf s := if s.toList.all Char.isAlphanum then some s else none
  passwordOf_plain _ h := if_pos h

/-- The groups of the charm, before the first relation. -/
def groupsOnly : RoleCatalog where
  role name := if name = "admin" ∨ name = "relation_access" then some .initial else none
  memberships := []
  isSome_of_mem := by simp

/-- What a relation asks for that wants no extra user roles. -/
def relationRequest : UserRequest where
  user := "relation_id_5"
  password := some "secret"
  admin := false
  extraUserRoles := .list ["relation_access"]

/-- What a relation asks for that wants an administrator. -/
def adminRequest : UserRequest :=
  { relationRequest with extraUserRoles := .list ["admin", "relation_access"] }

/-- The request of a relation, on a server with the groups only. -/
theorem createUser_converges_relation : Converges plainServer relationRequest groupsOnly :=
  (createUser_converges_iff (by simp [ExtraUserRoles.IsList, relationRequest]) (by decide)
    (by simp [Accepts, Acceptable, ExtraUserRoles.elements, relationRequest, accessGroupRelation])).mpr
    { name := by decide
      password := by decide
      notAdmin := by decide
      notSelf := by decide
      notOwner := by decide
      superuser := fun h => by contradiction }

/-- The second call of a request with `admin` is refused by the server. -/
theorem createUser_admin_not_converges : adminRequest.extraUserRoles.IsList ∧
    groupsOnly.role adminRequest.user = none ∧ Accepts adminRequest groupsOnly ∧
    ¬ Converges plainServer adminRequest groupsOnly := by
  have hlist : adminRequest.extraUserRoles.IsList := by
    simp [ExtraUserRoles.IsList, adminRequest]
  have haccepts : Accepts adminRequest groupsOnly := by
    simp [Accepts, Acceptable, ExtraUserRoles.elements, adminRequest, accessGroupRelation,
      permissionsGroupAdmin]
  refine ⟨hlist, by decide, haccepts, fun h => ?_⟩
  have hconvergent := convergent_of_converges hlist haccepts h ⟨id, fun _ => .rfl⟩
  exact hconvergent.notAdmin (by decide)

end PostgresqlK8s.Users
