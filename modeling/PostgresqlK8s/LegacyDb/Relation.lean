import Mathlib.Data.List.Sort
import Mathlib.Data.String.Basic
import PostgresqlK8s.Lib.Text
import PostgresqlK8s.Lib.Databag
import PostgresqlK8s.Hba.Rules

/-!
# LegacyDb.Relation

A relation on one of the legacy endpoints, `db` or `db-admin`: what the other
application asks for in its databags, and what this charm publishes.
-/

namespace PostgresqlK8s.LegacyDb

open Hba (isSpace)

/-- The name of a unit.  Juju allows lower-case letters, digits and hyphens in
the name of an application. -/
structure UnitName where
  app : String
  number : Nat
  plain : (app.toList.all fun c => c != ',' && c != '/' && !isSpace c) = true
deriving DecidableEq

namespace UnitName

/-- `unit.name`. -/
def name (u : UnitName) : String := u.app ++ "/" ++ toString u.number

/-- `unit.name.startswith(app)`. -/
def startsWith (u : UnitName) (app : String) : Bool := app.toList.isPrefixOf u.name.toList

theorem toList_name (u : UnitName) :
    u.name.toList = u.app.toList ++ '/' :: (toString u.number).toList := by
  have hslash : "/".toList = ['/'] := by decide
  simp only [name, String.toList_append, hslash, List.append_assoc, List.cons_append,
    List.nil_append]

theorem plain_app (u : UnitName) {c : Char} (h : c ∈ u.app.toList) : c ≠ ',' ∧ c ≠ '/' := by
  have hall := List.all_eq_true.mp u.plain c h
  simp only [Bool.and_eq_true, bne_iff_ne] at hall
  exact hall.1

/-- No name holds the separator of the published lists. -/
theorem comma_not_mem (u : UnitName) : ',' ∉ u.name.toList := by
  rw [toList_name, List.mem_append, List.mem_cons, not_or, not_or]
  exact ⟨fun h => (u.plain_app h).1 rfl, by decide, Decimal.not_mem_toString rfl _⟩

theorem name_ne_empty (u : UnitName) : u.name ≠ "" := by
  intro h
  have hlist := u.toList_name
  rw [h] at hlist
  have hlength := congrArg List.length hlist
  simp at hlength

/-- Different units have different names. -/
theorem name_injective : Function.Injective name := by
  intro u v h
  have hlist : u.app.toList ++ '/' :: (toString u.number).toList =
      v.app.toList ++ '/' :: (toString v.number).toList := by
    rw [← toList_name, ← toList_name, h]
  have hfront (w : UnitName) : (w.app.toList ++ '/' :: (toString w.number).toList).takeWhile
      (· != '/') = w.app.toList := by
    rw [List.takeWhile_append_of_pos fun c hc => bne_iff_ne.mpr (w.plain_app hc).2,
      List.takeWhile_cons_of_neg (by decide), List.append_nil]
  have happ : u.app.toList = v.app.toList := by
    rw [← hfront u, ← hfront v, hlist]
  have hrest := List.append_cancel_left (happ ▸ hlist)
  have hnumber : (toString u.number).toList = (toString v.number).toList :=
    (List.cons.inj hrest).2
  have happ' := String.toList_inj.mp happ
  have hnumber' := Decimal.toString_injective (String.toList_inj.mp hnumber)
  obtain ⟨app, number, plain⟩ := u
  obtain ⟨app', number', plain'⟩ := v
  dsimp only at happ' hnumber'
  subst happ' hnumber'
  rfl

end UnitName

/-- A legacy relation, with the databags in it. -/
structure LegacyRelation where
  /-- `relation.app.name`. -/
  app : String
  /-- The databag of the remote application. -/
  appData : Databag String
  /-- The remote units. -/
  units : List UnitName
  unitData : UnitName → Databag String
  /-- This application's databag. -/
  localAppData : Databag String
  /-- This unit's databag. -/
  localUnitData : Databag String

namespace LegacyRelation

/-- `relation.data.values()`. -/
def databags (r : LegacyRelation) : List (Databag String) :=
  [r.appData, r.localAppData, r.localUnitData] ++ r.units.map r.unitData

/-- The databags that the other application writes. -/
def remoteDatabags (r : LegacyRelation) : List (Databag String) :=
  r.appData :: r.units.map r.unitData

/-! ## what is requested -/

/-- Append the extensions that are new and not empty. -/
def addRequested (required : List String) (requested : List String) : List String :=
  requested.foldl (fun required extension =>
    if extension ≠ "" ∧ extension ∉ required then required ++ [extension] else required) required

/-- The required extensions. -/
def requiredExtensions (r : LegacyRelation) : List String :=
  addRequested [] (r.remoteDatabags.flatMap fun data => Text.split ',' (data.getD "extensions" ""))

/-- `extension.split(":")[0]`. -/
def extensionName (extension : String) : String := (Text.split ':' extension).headD ""

/-- `_get_extensions`: the required extensions, and those of them that the
configuration does not enable. -/
def getExtensions (pluginEnabled : String → Bool) (r : LegacyRelation) :
    List String × List String :=
  (r.requiredExtensions,
    (r.requiredExtensions.map extensionName).filter fun extension => !pluginEnabled extension)

/-- `_get_roles`. -/
def getRoles (r : LegacyRelation) : Bool := r.appData.contains "roles"

/-- The database that is asked for, by the application or else by a unit. -/
def database (r : LegacyRelation) : Option String :=
  r.remoteDatabags.findSome? fun data => data.get "database"

/-! ## what is published -/

/-- The units that do not belong to an application whose name starts with
`app`. -/
def foreignUnits (app : String) (r : LegacyRelation) : List UnitName :=
  r.units.filter fun u => !u.startsWith app

/-- `_get_allowed_units`. -/
def getAllowedUnits (app : String) (r : LegacyRelation) : String :=
  Text.join ',' (((r.foreignUnits app).map UnitName.name).insertionSort (· ≤ ·))

/-- `_csplit`. -/
def csplit (s : String) : List String :=
  ((Text.split ',' s).map (Text.strip isSpace)).filter (· ≠ "")

/-- `_get_allowed_subnets`. -/
def getAllowedSubnets (app : String) (r : LegacyRelation) : String :=
  Text.join ',' ((((r.foreignUnits app).flatMap fun u =>
    csplit ((r.unitData u).getD "egress-subnets" "")).dedup).insertionSort (· ≤ ·))

/-- The units a databag lists under `allowed-units`, as the old library reads
them. -/
def allowedUnits (data : Databag String) : List String :=
  Text.split ',' (data.getD "allowed-units" "")

/-- What is published names the units of the relation, but for those of an
application whose name starts with this one's. -/
theorem mem_split_getAllowedUnits (app : String) (r : LegacyRelation) (u : UnitName) :
    u.name ∈ Text.split ',' (r.getAllowedUnits app) ↔
      u ∈ r.units ∧ u.startsWith app = false := by
  have hmem : u.name ∈ ((r.foreignUnits app).map UnitName.name).insertionSort (· ≤ ·) ↔
      u ∈ r.units ∧ u.startsWith app = false := by
    rw [List.mem_insertionSort, List.mem_map_of_injective UnitName.name_injective, foreignUnits,
      List.mem_filter, Bool.not_eq_true']
  rw [← hmem, getAllowedUnits]
  by_cases hnil : ((r.foreignUnits app).map UnitName.name).insertionSort (· ≤ ·) = []
  · rw [hnil, Text.join_nil, Text.split_empty, List.mem_singleton]
    constructor
    · intro h
      exact absurd h u.name_ne_empty
    · intro h
      contradiction
  · rw [Text.split_join _ hnil]
    intro s hs
    rw [List.mem_insertionSort, List.mem_map] at hs
    obtain ⟨v, -, rfl⟩ := hs
    exact v.comma_not_mem

end LegacyRelation

end PostgresqlK8s.LegacyDb
