import PostgresqlK8s.LegacyDb.Relation
import Mathlib.Data.List.Dedup

/-!
# LegacyDb.AllowedSubnets

What a legacy relation publishes about the units on the other side: their names
and their subnets.

The data of a relation has this unit in it as well, and it is left out by its
name: a unit is one of this application's if its name starts with the name of
the application.  So are the units of an application whose name goes on after
this one's, and none of these is published (`listsExactly_allowed_iff`).
-/

namespace PostgresqlK8s.LegacyDb

open Hba (isSpace)

/-! ## what is to be published -/

/-- The text has exactly the elements, in order and once each. -/
def ListsExactly (text : String) (IsElement : String → Prop) : Prop :=
  ∃ elements : List String, text = Text.join ',' elements ∧ elements.Pairwise (· < ·) ∧
    ∀ element, element ∈ elements ↔ IsElement element

theorem listsExactly_insertionSort {elements : List String} (h : elements.Nodup) :
    ListsExactly (Text.join ',' (elements.insertionSort (· ≤ ·))) fun element =>
      element ∈ elements := by
  refine ⟨_, rfl, ?_, fun element => List.mem_insertionSort _⟩
  have hsorted := List.pairwise_insertionSort (· ≤ ·) elements
  have hnodup := (List.perm_insertionSort (· ≤ ·) elements).nodup_iff.mpr h
  exact (hsorted.and hnodup).imp fun h => lt_of_le_of_ne h.1 h.2

/-- A part of the text between commas, trimmed and not empty. -/
def IsSubnet (text subnet : String) : Prop :=
  subnet ≠ "" ∧ ∃ part ∈ Text.split ',' text, Text.strip isSpace part = subnet

namespace LegacyRelation

variable {own : UnitName} {r : LegacyRelation}

theorem mem_csplit {text subnet : String} : subnet ∈ csplit text ↔ IsSubnet text subnet := by
  rw [csplit, List.mem_filter, List.mem_map, decide_eq_true_eq, and_comm]
  rfl

/-- `relation.data`, with this unit. -/
def withUnit (own : UnitName) (r : LegacyRelation) : LegacyRelation :=
  { r with
    units := own :: r.units
    unitData := Function.update r.unitData own r.localUnitData }

def IsUnit (r : LegacyRelation) (name : String) : Prop := ∃ u ∈ r.units, u.name = name

def IsUnitSubnet (r : LegacyRelation) (subnet : String) : Prop :=
  ∃ u ∈ r.units, IsSubnet ((r.unitData u).getD "egress-subnets" "") subnet

/-- The units are those of the other application, each of them once. -/
structure OneSided (r : LegacyRelation) : Prop where
  app : ∀ u ∈ r.units, u.app = r.app
  nodup : r.units.Nodup

/-! ## names that go on after another -/

/-- No name of an application goes on into the number of the unit. -/
theorem startsWith_iff (u : UnitName) (own : UnitName) :
    u.startsWith own.app = true ↔ own.app.toList <+: u.app.toList := by
  rw [UnitName.startsWith, List.isPrefixOf_iff_prefix, UnitName.toList_name]
  constructor
  · rintro ⟨rest, hrest⟩
    rcases List.append_eq_append_iff.mp hrest with ⟨tail, happ, -⟩ | ⟨tail, happ, htail⟩
    · exact ⟨tail, happ.symm⟩
    · cases tail with
      | nil => exact ⟨[], by simpa using happ⟩
      | cons c tail =>
          obtain rfl := (List.cons.inj htail).1
          have hslash : '/' ∈ own.app.toList := happ ▸ by simp
          exact absurd rfl (own.plain_app hslash).2
  · exact fun hstarts => hstarts.trans (List.prefix_append _ _)

/-- This unit is left out. -/
theorem foreignUnits_withUnit (own : UnitName) (r : LegacyRelation) :
    (r.withUnit own).foreignUnits own.app = r.foreignUnits own.app := by
  have hown : own.startsWith own.app = true :=
    (startsWith_iff own own).mpr (List.prefix_refl own.app.toList)
  rw [foreignUnits, withUnit, List.filter_cons_of_neg (by simp [hown]), foreignUnits]

/-- Where the names do not go on after this application's, no unit is left out. -/
theorem foreignUnits_eq (h : r.OneSided) (hstarts : ¬ own.app.toList <+: r.app.toList) :
    r.foreignUnits own.app = r.units := by
  rw [foreignUnits, List.filter_eq_self]
  intro u hu
  rw [Bool.not_eq_true', ← Bool.not_eq_true, startsWith_iff, h.app u hu]
  exact hstarts

theorem listsExactly_getAllowedUnits (h : r.OneSided)
    (hunits : r.foreignUnits own.app = r.units) :
    ListsExactly ((r.withUnit own).getAllowedUnits own.app) r.IsUnit := by
  have hnodup := h.nodup.map UnitName.name_injective
  rw [getAllowedUnits, foreignUnits_withUnit, hunits]
  obtain ⟨names, htext, hsorted, hmem⟩ := listsExactly_insertionSort hnodup
  exact ⟨names, htext, hsorted, fun name => (hmem name).trans List.mem_map⟩

theorem listsExactly_getAllowedSubnets (hown : own ∉ r.units)
    (hunits : r.foreignUnits own.app = r.units) :
    ListsExactly ((r.withUnit own).getAllowedSubnets own.app) r.IsUnitSubnet := by
  have hdata : (r.units.flatMap fun u =>
      csplit (((r.withUnit own).unitData u).getD "egress-subnets" "")) =
        r.units.flatMap fun u => csplit ((r.unitData u).getD "egress-subnets" "") := by
    refine List.flatMap_congr fun u hu => ?_
    have hne : u ≠ own := fun heq => hown (heq ▸ hu)
    have hdata : (r.withUnit own).unitData u = r.unitData u := Function.update_of_ne hne _ _
    rw [hdata]
  rw [getAllowedSubnets, foreignUnits_withUnit, hunits, hdata]
  obtain ⟨subnets, htext, hsorted, hmem⟩ := listsExactly_insertionSort (List.nodup_dedup
    (r.units.flatMap fun u => csplit ((r.unitData u).getD "egress-subnets" "")))
  refine ⟨subnets, htext, hsorted, fun subnet => (hmem subnet).trans ?_⟩
  simp only [List.mem_dedup, List.mem_flatMap, mem_csplit, IsUnitSubnet]

/-- A unit that the list has is one of those that are published. -/
theorem mem_units_of_listsExactly
    (h : ListsExactly ((r.withUnit own).getAllowedUnits own.app) r.IsUnit) {u : UnitName}
    (hu : u ∈ r.units) : u.startsWith own.app = false := by
  obtain ⟨names, htext, -, hmem⟩ := h
  have hname : u.name ∈ names := (hmem u.name).mpr ⟨u, hu, rfl⟩
  have hcomma : ∀ name ∈ names, ',' ∉ name.toList := by
    intro name hname
    obtain ⟨v, -, rfl⟩ := (hmem name).mp hname
    exact v.comma_not_mem
  have hsplit : Text.split ',' ((r.withUnit own).getAllowedUnits own.app) = names := by
    rw [htext, Text.split_join hcomma (List.ne_nil_of_mem hname)]
  exact ((mem_split_getAllowedUnits own.app (r.withUnit own) u).mp (hsplit ▸ hname)).2

/-- The published names and subnets are exactly those of the other side's units,
if and only if there are none or its name does not go on after this one's. -/
theorem listsExactly_allowed_iff (own : UnitName) (h : r.OneSided) :
    ListsExactly ((r.withUnit own).getAllowedUnits own.app) r.IsUnit ∧
        ListsExactly ((r.withUnit own).getAllowedSubnets own.app) r.IsUnitSubnet ↔
      r.units = [] ∨ ¬ own.app.toList <+: r.app.toList := by
  constructor
  · rintro ⟨hunits, -⟩
    cases hempty : r.units with
    | nil => exact .inl rfl
    | cons u units =>
        have hu : u ∈ r.units := hempty ▸ List.mem_cons_self
        have hstarts := mem_units_of_listsExactly hunits hu
        rw [← Bool.not_eq_true, startsWith_iff, h.app u hu] at hstarts
        exact .inr hstarts
  · intro hcondition
    have hunits : r.foreignUnits own.app = r.units := by
      rcases hcondition with hempty | hstarts
      · rw [foreignUnits, hempty, List.filter_nil]
      · exact foreignUnits_eq h hstarts
    have hown : own ∉ r.units := by
      rcases hcondition with hempty | hstarts
      · rw [hempty]
        exact List.not_mem_nil
      · intro hown
        exact hstarts (h.app own hown ▸ List.prefix_refl own.app.toList)
    exact ⟨listsExactly_getAllowedUnits h hunits, listsExactly_getAllowedSubnets hown hunits⟩

/-! ## two clients -/

/-- A relation with the units 0 and 1 of an application, on one subnet. -/
def twoUnits (app : String)
    (plain : (app.toList.all fun c => c != ',' && c != '/' && !isSpace c) = true) :
    LegacyRelation where
  app := app
  appData := ∅
  units := [⟨app, 0, plain⟩, ⟨app, 1, plain⟩]
  unitData _ := (∅ : Databag String).set "egress-subnets" "10.1.0.0/16, "
  localAppData := ∅
  localUnitData := ∅

theorem oneSided_twoUnits (app : String)
    (plain : (app.toList.all fun c => c != ',' && c != '/' && !isSpace c) = true) :
    (twoUnits app plain).OneSided where
  app u hu := by
    simp only [twoUnits, List.mem_cons, List.not_mem_nil, or_false] at hu
    rcases hu with rfl | rfl <;> rfl
  nodup := by simp [twoUnits]

def postgresql : UnitName := ⟨"postgresql", 0, by decide⟩

def weebl : LegacyRelation := twoUnits "weebl" (by decide)

def postgresqlClient : LegacyRelation := twoUnits "postgresql-client" (by decide)

/-- All units of `weebl` are published. -/
theorem listsExactly_allowed_weebl :
    ListsExactly ((weebl.withUnit postgresql).getAllowedUnits postgresql.app) weebl.IsUnit ∧
      ListsExactly ((weebl.withUnit postgresql).getAllowedSubnets postgresql.app)
        weebl.IsUnitSubnet :=
  (listsExactly_allowed_iff postgresql (oneSided_twoUnits "weebl" _)).mpr
    (.inr (by decide))

/-- None of the units of `postgresql-client` is published. -/
theorem not_listsExactly_allowed_postgresqlClient :
    postgresqlClient.app ≠ postgresql.app ∧ postgresqlClient.OneSided ∧
      (postgresqlClient.withUnit postgresql).getAllowedUnits postgresql.app = "" ∧
      ¬ ListsExactly ((postgresqlClient.withUnit postgresql).getAllowedUnits postgresql.app)
        postgresqlClient.IsUnit := by
  refine ⟨by decide, oneSided_twoUnits "postgresql-client" _, by decide, ?_⟩
  intro h
  have hstarts := mem_units_of_listsExactly h List.mem_cons_self
  exact absurd hstarts (by decide)

end LegacyRelation

end PostgresqlK8s.LegacyDb
