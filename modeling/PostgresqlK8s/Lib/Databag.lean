import Mathlib.Logic.Function.Basic

/-!
# Databag

A relation databag: string values under keys, where writing an empty value
deletes the key.  A databag never holds an empty value, which the structure
carries as a field, so "the key is present" and "its value is not empty" are
one statement.
-/

/-- A databag over the keys `κ`. -/
@[ext]
structure Databag (κ : Type*) where
  /-- The value under a key, if the key is present. -/
  get : κ → Option String
  /-- No key holds an empty value. -/
  get_ne_empty : ∀ k, get k ≠ some ""

namespace Databag

variable {κ : Type*}

/-- The databag without any key. -/
def empty : Databag κ := ⟨fun _ => none, fun _ => nofun⟩

instance : EmptyCollection (Databag κ) := ⟨empty⟩

instance : Inhabited (Databag κ) := ⟨∅⟩

/-- Whether the key is present. -/
def contains (d : Databag κ) (k : κ) : Bool := (d.get k).isSome

/-- The value under a key, or a default. -/
def getD (d : Databag κ) (k : κ) (default : String) : String := (d.get k).getD default

section Write

variable [DecidableEq κ]

/-- Write a value; the empty value deletes the key. -/
def set (d : Databag κ) (k : κ) (v : String) : Databag κ where
  get := Function.update d.get k (if v = "" then none else some v)
  get_ne_empty k' := by
    by_cases hk : k' = k
    · subst hk
      by_cases hv : v = "" <;> simp [hv]
    · rw [Function.update_of_ne hk]
      exact d.get_ne_empty k'

/-- Delete a key. -/
def pop (d : Databag κ) (k : κ) : Databag κ := d.set k ""

/-- Write several values, in order. -/
def update (d : Databag κ) (kvs : List (κ × String)) : Databag κ :=
  kvs.foldl (fun d kv => d.set kv.1 kv.2) d

@[simp] theorem update_nil (d : Databag κ) : d.update [] = d := rfl

@[simp] theorem update_cons (d : Databag κ) (k : κ) (v : String) (kvs : List (κ × String)) :
    d.update ((k, v) :: kvs) = (d.set k v).update kvs := rfl

/-- Reading after a write. -/
theorem get_set (d : Databag κ) (k k' : κ) (v : String) :
    (d.set k v).get k' = if k' = k then (if v = "" then none else some v) else d.get k' := by
  by_cases hk : k' = k
  · subst hk
    simp [set]
  · simp [set, hk]

@[simp] theorem get_set_self (d : Databag κ) (k : κ) (v : String) :
    (d.set k v).get k = if v = "" then none else some v := by
  rw [get_set, if_pos rfl]

@[simp] theorem get_set_of_ne (d : Databag κ) {k k' : κ} (v : String) (h : k' ≠ k) :
    (d.set k v).get k' = d.get k' := by
  rw [get_set, if_neg h]

/-- Reading after a deletion. -/
theorem get_pop (d : Databag κ) (k k' : κ) :
    (d.pop k).get k' = if k' = k then none else d.get k' := by
  rw [pop, get_set, if_pos rfl]

@[simp] theorem get_pop_self (d : Databag κ) (k : κ) : (d.pop k).get k = none := by
  rw [get_pop, if_pos rfl]

@[simp] theorem get_pop_of_ne (d : Databag κ) {k k' : κ} (h : k' ≠ k) :
    (d.pop k).get k' = d.get k' := by
  rw [get_pop, if_neg h]

@[simp] theorem contains_set_self (d : Databag κ) (k : κ) (v : String) :
    (d.set k v).contains k = decide (v ≠ "") := by
  by_cases hv : v = "" <;> simp [contains, hv]

@[simp] theorem contains_set_of_ne (d : Databag κ) {k k' : κ} (v : String) (h : k' ≠ k) :
    (d.set k v).contains k' = d.contains k' := by
  simp [contains, h]

/-- With the empty default, a write is read back whatever it wrote. -/
@[simp] theorem getD_set_self (d : Databag κ) (k : κ) (v : String) :
    (d.set k v).getD k "" = v := by
  by_cases hv : v = "" <;> simp [getD, hv]

@[simp] theorem getD_set_of_ne (d : Databag κ) {k k' : κ} (v default : String) (h : k' ≠ k) :
    (d.set k v).getD k' default = d.getD k' default := by
  rw [getD, getD, get_set_of_ne d v h]

theorem update_append (d : Databag κ) (kvs kvs' : List (κ × String)) :
    d.update (kvs ++ kvs') = (d.update kvs).update kvs' := List.foldl_append

/-- Writing other keys leaves a key as it is. -/
theorem get_update_of_not_mem (d : Databag κ) {kvs : List (κ × String)} {k : κ}
    (h : k ∉ kvs.map Prod.fst) : (d.update kvs).get k = d.get k := by
  induction kvs generalizing d with
  | nil => rfl
  | cons kv kvs ih =>
      rw [List.map_cons, List.mem_cons, not_or] at h
      rw [update_cons, ih _ h.2, get_set_of_ne d kv.2 h.1]

/-- The last write to a key counts. -/
theorem get_update_of_mem (d : Databag κ) {kvs kvs' : List (κ × String)} {k : κ} (v : String)
    (h : k ∉ kvs'.map Prod.fst) :
    (d.update (kvs ++ (k, v) :: kvs')).get k = if v = "" then none else some v := by
  rw [update_append, update_cons, get_update_of_not_mem _ h, get_set_self]

end Write

@[simp] theorem get_empty (k : κ) : (∅ : Databag κ).get k = none := rfl

@[simp] theorem contains_empty (k : κ) : (∅ : Databag κ).contains k = false := rfl

/-- A present key has a value, and it is not empty. -/
theorem contains_iff (d : Databag κ) (k : κ) :
    d.contains k = true ↔ ∃ v, v ≠ "" ∧ d.get k = some v := by
  constructor
  · intro h
    obtain ⟨v, hv⟩ := Option.isSome_iff_exists.mp h
    exact ⟨v, fun hempty => d.get_ne_empty k (by rw [hv, hempty]), hv⟩
  · rintro ⟨v, -, hv⟩
    simp [contains, hv]

end Databag
