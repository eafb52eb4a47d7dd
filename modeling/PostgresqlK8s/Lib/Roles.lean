import Mathlib.Data.List.Perm.Basic
import Mathlib.Data.List.Nodup
import Mathlib.Logic.Relation
import Mathlib.Logic.Function.Basic
import Mathlib.Tactic.Common

/-!
# Roles

The roles of an SQL server: their attributes, which of them are members of
which, and what `CREATE ROLE`, `ALTER ROLE` and `GRANT` make of them.  A
statement says a thing once (`Consistent`), so the order of its options does
not matter, and saying them again changes nothing (`applyAll_perm`,
`applyAll_applyAll`).  No role may become a member of itself through others,
which `inheritsFrom_iff` decides.
-/

namespace Roles

variable {ν π : Type}

/-! ## attributes and options -/

/-- What a role is allowed, and its password. -/
structure Attributes (π : Type) where
  login : Bool
  superuser : Bool
  createdb : Bool
  createrole : Bool
  password : Option π
deriving DecidableEq, Repr

/-- What a role has that is created without options. -/
def Attributes.initial : Attributes π := ⟨false, false, false, false, none⟩

/-- The options of a statement. -/
inductive RoleOption (ν π : Type)
  | login (value : Bool)
  | superuser (value : Bool)
  | createdb (value : Bool)
  | createrole (value : Bool)
  | encryptedPassword (password : π)
  /-- `IN ROLE`. -/
  | inRole (group : ν)
deriving DecidableEq, Repr

/-- What an option is about. -/
inductive OptionKind
  | login
  | superuser
  | createdb
  | createrole
  | password
  | inRole
deriving DecidableEq, Repr

namespace RoleOption

def kind : RoleOption ν π → OptionKind
  | .login _ => .login
  | .superuser _ => .superuser
  | .createdb _ => .createdb
  | .createrole _ => .createrole
  | .encryptedPassword _ => .password
  | .inRole _ => .inRole

def apply : RoleOption ν π → Attributes π → Attributes π
  | .login value, a => { a with login := value }
  | .superuser value, a => { a with superuser := value }
  | .createdb value, a => { a with createdb := value }
  | .createrole value, a => { a with createrole := value }
  | .encryptedPassword password, a => { a with password := some password }
  | .inRole _, a => a

/-- The group of `IN ROLE`. -/
def group? : RoleOption ν π → Option ν
  | .inRole group => some group
  | _ => none

theorem apply_apply (o : RoleOption ν π) (a : Attributes π) : o.apply (o.apply a) = o.apply a := by
  cases o <;> rfl

/-- Options about different things do not interfere. -/
theorem apply_comm {o o' : RoleOption ν π} (h : o.kind ≠ o'.kind) (a : Attributes π) :
    o.apply (o'.apply a) = o'.apply (o.apply a) := by
  cases o <;> cases o' <;> first | rfl | exact absurd rfl h

end RoleOption

/-- Nothing is said twice; else the server takes the options as conflicting or
redundant. -/
def Consistent (options : List (RoleOption ν π)) : Prop := (options.map RoleOption.kind).Nodup

instance (options : List (RoleOption ν π)) : Decidable (Consistent options) :=
  inferInstanceAs (Decidable (List.Nodup _))

/-- The options one after another. -/
def applyAll (options : List (RoleOption ν π)) (a : Attributes π) : Attributes π :=
  options.foldl (fun a o => o.apply a) a

/-- An option of another kind can be applied before or after. -/
theorem applyAll_apply {o : RoleOption ν π} {options : List (RoleOption ν π)}
    (h : o.kind ∉ options.map RoleOption.kind) (a : Attributes π) :
    applyAll options (o.apply a) = o.apply (applyAll options a) := by
  induction options generalizing a with
  | nil => rfl
  | cons o' options ih =>
      rw [List.map_cons, List.mem_cons, not_or] at h
      show applyAll options (o'.apply (o.apply a)) = o.apply (applyAll options (o'.apply a))
      rw [RoleOption.apply_comm (Ne.symm h.1), ih h.2]

/-- The same options once more change nothing. -/
theorem applyAll_applyAll {options : List (RoleOption ν π)} (h : Consistent options)
    (a : Attributes π) : applyAll options (applyAll options a) = applyAll options a := by
  induction options generalizing a with
  | nil => rfl
  | cons o options ih =>
      obtain ⟨hnotMem, hrest⟩ := List.nodup_cons.mp h
      show applyAll options (o.apply (applyAll options (o.apply a))) =
        applyAll options (o.apply a)
      rw [← applyAll_apply hnotMem, RoleOption.apply_apply, ih hrest]

/-- The order of the options does not matter. -/
theorem applyAll_perm {options options' : List (RoleOption ν π)} (h : options.Perm options')
    (hconsistent : Consistent options) (a : Attributes π) :
    applyAll options a = applyAll options' a := by
  refine h.foldl_eq' (fun o ho o' ho' a => ?_) a
  by_cases hkind : o.kind = o'.kind
  · rw [List.inj_on_of_nodup_map hconsistent ho ho' hkind]
  · exact RoleOption.apply_comm (Ne.symm hkind) a

/-- The order of the options does not matter. -/
theorem Consistent.perm {options options' : List (RoleOption ν π)} (h : options.Perm options') :
    Consistent options ↔ Consistent options' :=
  (h.map RoleOption.kind).nodup_iff

/-! ## membership through others -/

section Inherits

variable [DecidableEq ν]

/-- Whether a way leads from a member to a group.  A way does not come back to
where it started, so these edges are not tried again. -/
def reaches : Nat → List (ν × ν) → ν → ν → Bool
  | 0, _, _, _ => false
  | fuel + 1, edges, member, group => edges.any fun edge => edge.1 == member &&
      (edge.2 == group || reaches fuel (edges.filter (·.1 ≠ member)) edge.2 group)

/-- A way that passes a node can start with the last time it does. -/
theorem transGen_or_exit {r : ν → ν → Prop} {x y z : ν} (h : Relation.TransGen r x y) :
    Relation.TransGen (fun a b => r a b ∧ a ≠ z) x y ∨
      ∃ w, r z w ∧ (w = y ∨ Relation.TransGen (fun a b => r a b ∧ a ≠ z) w y) := by
  induction h using Relation.TransGen.head_induction_on with
  | @single x hxy =>
      by_cases hx : x = z
      · exact .inr ⟨y, hx ▸ hxy, .inl rfl⟩
      · exact .inl (.single ⟨hxy, hx⟩)
  | @head x _ hxw _ ih =>
      obtain ih | ih := ih
      · by_cases hx : x = z
        · exact .inr ⟨_, hx ▸ hxw, .inr ih⟩
        · exact .inl (.head ⟨hxw, hx⟩ ih)
      · exact .inr ih

/-- A path leaves its start for the last time. -/
theorem exists_exit {r : ν → ν → Prop} {x y : ν} (h : Relation.TransGen r x y) :
    ∃ w, r x w ∧ (w = y ∨ Relation.TransGen (fun a b => r a b ∧ a ≠ x) w y) := by
  obtain h | h := transGen_or_exit (z := x) h
  · obtain ⟨w, ⟨-, hne⟩, -⟩ := Relation.TransGen.head'_iff.mp h
    exact absurd rfl hne
  · exact h

/-- As many steps as there are edges are enough. -/
theorem reaches_iff {fuel : Nat} {edges : List (ν × ν)} {member group : ν}
    (h : edges.length ≤ fuel) : reaches fuel edges member group = true ↔
      Relation.TransGen (fun a b => (a, b) ∈ edges) member group := by
  induction fuel generalizing edges member with
  | zero =>
      rw [List.length_eq_zero_iff.mp (Nat.le_zero.mp h), reaches]
      refine iff_of_false Bool.false_ne_true fun hway => ?_
      obtain ⟨_, hedge, -⟩ := Relation.TransGen.head'_iff.mp hway
      exact List.not_mem_nil hedge
  | succ fuel ih =>
      have hrest (a b : ν) : (a, b) ∈ edges.filter (·.1 ≠ member) ↔ (a, b) ∈ edges ∧ a ≠ member := by
        rw [List.mem_filter, decide_eq_true_eq]
      have hshorter {w : ν} (hw : (member, w) ∈ edges) :
          (edges.filter (·.1 ≠ member)).length ≤ fuel := by
        have hlt : (edges.filter (·.1 ≠ member)).length < edges.length :=
          List.length_filter_lt_length_iff_exists.mpr ⟨(member, w), hw, by simp⟩
        omega
      have hstep : reaches (fuel + 1) edges member group = true ↔ ∃ w, (member, w) ∈ edges ∧
          (w = group ∨ reaches fuel (edges.filter (·.1 ≠ member)) w group = true) := by
        rw [reaches, List.any_eq_true]
        constructor
        · rintro ⟨⟨a, w⟩, hmem, hw⟩
          rw [Bool.and_eq_true, Bool.or_eq_true, beq_iff_eq, beq_iff_eq] at hw
          obtain ⟨rfl, hw⟩ := hw
          exact ⟨w, hmem, hw⟩
        · rintro ⟨w, hmem, hw⟩
          refine ⟨(member, w), hmem, ?_⟩
          rw [Bool.and_eq_true, Bool.or_eq_true, beq_iff_eq, beq_iff_eq]
          exact ⟨rfl, hw⟩
      rw [hstep]
      constructor
      · rintro ⟨w, hmem, rfl | hw⟩
        · exact .single hmem
        · rw [ih (hshorter hmem)] at hw
          exact .head hmem (Relation.TransGen.mono (fun a b hab => ((hrest a b).mp hab).1) _ _ hw)
      · intro hway
        obtain ⟨w, hmem, hw⟩ := exists_exit hway
        refine ⟨w, hmem, hw.imp id fun hw => (ih (hshorter hmem)).mpr ?_⟩
        exact Relation.TransGen.mono (fun a b hab => (hrest a b).mpr hab) _ _ hw

end Inherits

/-! ## the catalog -/

/-- The roles of a server, and who is a member of what.  Only roles are members,
and only of roles. -/
@[ext]
structure Catalog (ν π : Type) where
  role : ν → Option (Attributes π)
  /-- Members with their groups. -/
  memberships : List (ν × ν)
  isSome_of_mem : ∀ edge ∈ memberships, (role edge.1).isSome ∧ (role edge.2).isSome

/-- The names that the server treats in its own way. -/
structure Rules (ν : Type) where
  /-- Names that no role is created under, or altered. -/
  reserved : ν → Bool
  /-- Roles without members of their own. -/
  closed : ν → Bool

namespace Catalog

variable {c c' : Catalog ν π} {member group name : ν}

/-- Both ends of a membership are roles. -/
theorem isSome_of_mem_memberships (h : (member, group) ∈ c.memberships) :
    (c.role member).isSome ∧ (c.role group).isSome := c.isSome_of_mem _ h

/-- The role has its rights from the group, perhaps through others. -/
def InheritsFrom (c : Catalog ν π) : ν → ν → Prop :=
  Relation.TransGen fun member group => (member, group) ∈ c.memberships

/-- A role without members gives its rights to none. -/
theorem not_inheritsFrom (h : ∀ x, (x, group) ∉ c.memberships) : ¬ c.InheritsFrom member group := by
  intro hway
  obtain ⟨x, -, hx⟩ := Relation.TransGen.tail'_iff.mp hway
  exact h x hx

variable [DecidableEq ν]

instance (c : Catalog ν π) (member group : ν) : Decidable (c.InheritsFrom member group) :=
  decidable_of_iff (reaches c.memberships.length c.memberships member group = true)
    (reaches_iff (Nat.le_refl _))

/-- A role with new attributes. -/
def setRole (name : ν) (a : Attributes π) (c : Catalog ν π) : Catalog ν π where
  role := Function.update c.role name (some a)
  memberships := c.memberships
  isSome_of_mem := by
    have hset (x : ν) (hx : (c.role x).isSome) :
        (Function.update c.role name (some a) x).isSome := by
      by_cases hname : x = name
      · simp [hname]
      · rwa [Function.update_of_ne hname]
    intro edge hedge
    exact ⟨hset _ (c.isSome_of_mem edge hedge).1, hset _ (c.isSome_of_mem edge hedge).2⟩

@[simp] theorem role_setRole_self (a : Attributes π) : (c.setRole name a).role name = some a :=
  Function.update_self ..

@[simp] theorem role_setRole_of_ne {x : ν} (h : x ≠ name) (a : Attributes π) :
    (c.setRole name a).role x = c.role x :=
  Function.update_of_ne h ..

@[simp] theorem memberships_setRole (a : Attributes π) :
    (c.setRole name a).memberships = c.memberships := rfl

/-- A new member, unless it is one. -/
def addMember (c : Catalog ν π) (group member : ν)
    (h : (c.role member).isSome ∧ (c.role group).isSome) : Catalog ν π where
  role := c.role
  memberships := c.memberships.insert (member, group)
  isSome_of_mem := by
    intro edge hedge
    obtain rfl | hedge := List.mem_insert_iff.mp hedge
    · exact h
    · exact c.isSome_of_mem edge hedge

@[simp] theorem role_addMember {h : (c.role member).isSome ∧ (c.role group).isSome} :
    (c.addMember group member h).role = c.role := rfl

@[simp] theorem mem_addMember {h : (c.role member).isSome ∧ (c.role group).isSome}
    {edge : ν × ν} :
    edge ∈ (c.addMember group member h).memberships ↔ edge = (member, group) ∨ edge ∈ c.memberships :=
  List.mem_insert_iff

/-- A new member gets nothing from itself. -/
theorem inheritsFrom_of_addMember {h : (c.role member).isSome ∧ (c.role group).isSome} {x : ν}
    (hx : x ≠ member) (hway : (c.addMember group member h).InheritsFrom x member) :
    c.InheritsFrom x member := by
  have hmain : x = member ∨ c.InheritsFrom x member := by
    induction hway using Relation.TransGen.head_induction_on with
    | single hedge =>
        obtain heq | hold := mem_addMember.mp hedge
        · exact .inl (congrArg Prod.fst heq)
        · exact .inr (.single hold)
    | @head x w hedge _ ih =>
        obtain heq | hold := mem_addMember.mp hedge
        · exact .inl (congrArg Prod.fst heq)
        · by_cases hw : w = member
          · exact .inr (.single (hw ▸ hold))
          · exact .inr (.head hold ((ih hw).resolve_left hw))
  exact hmain.resolve_left hx

/-- A role less, and its memberships with it. -/
def removeRole (name : ν) (c : Catalog ν π) : Catalog ν π where
  role := Function.update c.role name none
  memberships := c.memberships.filter fun edge => edge.1 ≠ name ∧ edge.2 ≠ name
  isSome_of_mem := by
    intro edge hedge
    obtain ⟨hmem, hne⟩ := List.mem_filter.mp hedge
    obtain ⟨hmember, hgroup⟩ := of_decide_eq_true hne
    rw [Function.update_of_ne hmember, Function.update_of_ne hgroup]
    exact c.isSome_of_mem edge hmem

@[simp] theorem role_removeRole_self : (c.removeRole name).role name = none :=
  Function.update_self ..

@[simp] theorem role_removeRole_of_ne {x : ν} (h : x ≠ name) :
    (c.removeRole name).role x = c.role x :=
  Function.update_of_ne h ..

/-! ## statements -/

/-- What `GRANT` needs. -/
structure Grantable (rules : Rules ν) (group member : ν) (c : Catalog ν π) : Prop where
  isSome : (c.role member).isSome ∧ (c.role group).isSome
  opened : rules.closed group = false
  ne : group ≠ member
  acyclic : ¬ c.InheritsFrom group member

instance (rules : Rules ν) (group member : ν) (c : Catalog ν π) :
    Decidable (Grantable rules group member c) :=
  decidable_of_iff (((c.role member).isSome ∧ (c.role group).isSome) ∧
      rules.closed group = false ∧ group ≠ member ∧ ¬ c.InheritsFrom group member)
    ⟨fun h => ⟨h.1, h.2.1, h.2.2.1, h.2.2.2⟩, fun h => ⟨h.isSome, h.opened, h.ne, h.acyclic⟩⟩

/-- `GRANT group TO member`. -/
def grant (rules : Rules ν) (group member : ν) (c : Catalog ν π) : Option (Catalog ν π) :=
  if h : c.Grantable rules group member then some (c.addMember group member h.isSome) else none

/-- `GRANT` of several groups. -/
def grantAll (rules : Rules ν) (groups : List ν) (member : ν) (c : Catalog ν π) :
    Option (Catalog ν π) :=
  groups.foldlM (fun c group => c.grant rules group member) c

/-- The groups of `IN ROLE`. -/
def groups (options : List (RoleOption ν π)) : List ν := options.filterMap RoleOption.group?

/-- `CREATE ROLE name WITH options`. -/
def createRole (rules : Rules ν) (name : ν) (options : List (RoleOption ν π)) (c : Catalog ν π) :
    Option (Catalog ν π) :=
  if rules.reserved name = false ∧ c.role name = none ∧ Consistent options then
    (c.setRole name (applyAll options .initial)).grantAll rules (groups options) name
  else none

/-- `ALTER ROLE name WITH options`, which has no `IN ROLE`. -/
def alterRole (rules : Rules ν) (name : ν) (options : List (RoleOption ν π)) (c : Catalog ν π) :
    Option (Catalog ν π) :=
  if rules.reserved name = false ∧ groups options = [] ∧ Consistent options then
    (c.role name).map fun a => c.setRole name (applyAll options a)
  else none

/-- A membership is granted when the rules allow it. -/
theorem grant_eq_some {rules : Rules ν} : c.grant rules group member = some c' ↔
    ∃ h : c.Grantable rules group member, c' = c.addMember group member h.isSome := by
  rw [grant]
  split
  · next h => simp [h, eq_comm]
  · next h => simp [h]

/-- A role that becomes a member of one group can become one of the others as
before. -/
theorem grantable_addMember {rules : Rules ν} {group' : ν}
    {h : (c.role member).isSome ∧ (c.role group').isSome} :
    (c.addMember group' member h).Grantable rules group member ↔ c.Grantable rules group member := by
  constructor
  · intro ⟨hsome, hopened, hne, hacyclic⟩
    refine ⟨hsome, hopened, hne, fun hway => hacyclic ?_⟩
    exact Relation.TransGen.mono (fun _ _ hedge => mem_addMember.mpr (.inr hedge)) _ _ hway
  · intro ⟨hsome, hopened, hne, hacyclic⟩
    exact ⟨hsome, hopened, hne, fun hway => hacyclic (inheritsFrom_of_addMember hne hway)⟩

/-- Changing the member's own attributes allows no more and no less. -/
theorem grantable_setRole {rules : Rules ν} {a : Attributes π} (h : (c.role member).isSome)
    (hne : group ≠ member) :
    (c.setRole member a).Grantable rules group member ↔ c.Grantable rules group member := by
  have hmember : ((c.setRole member a).role member).isSome := by rw [role_setRole_self]; rfl
  have hgroup : (c.setRole member a).role group = c.role group := role_setRole_of_ne hne a
  constructor
  · intro ⟨hsome, hopened, hne, hacyclic⟩
    exact ⟨⟨h, hgroup ▸ hsome.2⟩, hopened, hne, hacyclic⟩
  · intro ⟨hsome, hopened, hne, hacyclic⟩
    exact ⟨⟨hmember, hgroup ▸ hsome.2⟩, hopened, hne, hacyclic⟩

section GrantAll

variable {rules : Rules ν} {groups : List ν}

@[simp] theorem grantAll_nil : c.grantAll rules [] member = some c := rfl

/-- Memberships are granted one after the other. -/
theorem grantAll_cons : c.grantAll rules (group :: groups) member = some c' ↔
    ∃ h : c.Grantable rules group member,
      (c.addMember group member h.isSome).grantAll rules groups member = some c' := by
  rw [grantAll, List.foldlM_cons, Option.bind_eq_bind, Option.bind_eq_some_iff]
  constructor
  · rintro ⟨d, hd, hrest⟩
    obtain ⟨h, rfl⟩ := grant_eq_some.mp hd
    exact ⟨h, hrest⟩
  · rintro ⟨h, hrest⟩
    exact ⟨_, grant_eq_some.mpr ⟨h, rfl⟩, hrest⟩

/-- Several groups are granted where each of them alone is. -/
theorem exists_grantAll_iff : (∃ d, c.grantAll rules groups member = some d) ↔
    ∀ group ∈ groups, c.Grantable rules group member := by
  induction groups generalizing c with
  | nil => simp
  | cons group groups ih =>
      simp only [grantAll_cons, List.forall_mem_cons]
      constructor
      · rintro ⟨d, h, hd⟩
        exact ⟨h, fun x hx => grantable_addMember.mp (ih.mp ⟨d, hd⟩ x hx)⟩
      · rintro ⟨h, hrest⟩
        obtain ⟨d, hd⟩ := ih.mpr fun x hx => grantable_addMember (h := h.isSome) |>.mpr (hrest x hx)
        exact ⟨d, h, hd⟩

/-- Granting changes no role. -/
theorem role_of_grantAll (h : c.grantAll rules groups member = some c') : c'.role = c.role := by
  induction groups generalizing c with
  | nil =>
      cases h
      rfl
  | cons group groups ih =>
      obtain ⟨hgrantable, hrest⟩ := grantAll_cons.mp h
      exact (ih hrest).trans role_addMember

/-- What is granted is all that is added. -/
theorem mem_of_grantAll (h : c.grantAll rules groups member = some c') {edge : ν × ν} :
    edge ∈ c'.memberships ↔ edge ∈ c.memberships ∨ edge.1 = member ∧ edge.2 ∈ groups := by
  induction groups generalizing c with
  | nil =>
      cases h
      simp
  | cons group groups ih =>
      obtain ⟨hgrantable, hrest⟩ := grantAll_cons.mp h
      rw [ih hrest, mem_addMember, List.mem_cons, Prod.ext_iff]
      tauto

end GrantAll

/-- Creating a role without memberships. -/
theorem createRole_of_groups {rules : Rules ν} {options : List (RoleOption ν π)}
    (h : groups options = []) : c.createRole rules name options = some c' ↔
      (rules.reserved name = false ∧ c.role name = none ∧ Consistent options) ∧
        c' = c.setRole name (applyAll options .initial) := by
  rw [createRole, h]
  split
  · next hcond => simp [hcond, eq_comm]
  · next hcond => simp [hcond]

/-- A role is created only under a new name that is not reserved. -/
theorem of_createRole_eq_some {rules : Rules ν} {options : List (RoleOption ν π)}
    (h : c.createRole rules name options = some c') :
    rules.reserved name = false ∧ c.role name = none ∧ Consistent options := by
  rw [createRole] at h
  split at h
  · assumption
  · contradiction

/-- Altering a role, which takes no memberships. -/
theorem alterRole_eq_some {rules : Rules ν} {options : List (RoleOption ν π)} :
    c.alterRole rules name options = some c' ↔
      (rules.reserved name = false ∧ groups options = [] ∧ Consistent options) ∧
        ∃ a, c.role name = some a ∧ c' = c.setRole name (applyAll options a) := by
  rw [alterRole]
  split
  · next hcond =>
      rw [Option.map_eq_some_iff, and_iff_right hcond]
      exact exists_congr fun a => and_congr_right fun _ => eq_comm
  · next hcond => simp [hcond]

/-- A role that is created exists. -/
theorem isSome_of_createRole {rules : Rules ν} {options : List (RoleOption ν π)}
    (h : c.createRole rules name options = some c') : (c'.role name).isSome := by
  rw [createRole, if_pos (of_createRole_eq_some h)] at h
  rw [role_of_grantAll h, role_setRole_self]
  rfl

end Catalog

/-! ## sessions -/

/-- What a session sees: the roles that are stored, and what an open transaction
made of them. -/
structure Session (ν π : Type) where
  committed : Catalog ν π
  transaction : Option (Catalog ν π)

namespace Session

variable (s : Session ν π)

def visible : Catalog ν π := s.transaction.getD s.committed

/-- `BEGIN`. -/
def begin : Session ν π := { s with transaction := some s.visible }

/-- `COMMIT`. -/
def commit : Session ν π := ⟨s.visible, none⟩

/-- What is left when the connection is lost. -/
def rollback : Session ν π := { s with transaction := none }

/-- A statement, in the open transaction or on its own. -/
def write (run : Catalog ν π → Option (Catalog ν π)) : Option (Session ν π) :=
  (run s.visible).map fun c => match s.transaction with
    | none => { s with committed := c }
    | some _ => { s with transaction := some c }

end Session

end Roles
