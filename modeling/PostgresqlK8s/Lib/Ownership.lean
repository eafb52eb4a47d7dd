import PostgresqlK8s.Lib.Roles
import Mathlib.Data.List.Forall2

/-!
# Ownership

The objects of an SQL server: each is of one database, or shared by all of them,
is owned by a role, and grants rights to roles.  A role is dropped only where no
object depends on it, and a statement reaches the objects of one database and
the shared ones.  So a role is handed over to another database by database, and
`reassignOwned` and `dropOwned` together are `handOver` on what they reach
(`dropOwned_reassignOwned`), and what is left to reach can be reached later
(`handOverIn_handOverIn`).
-/

namespace Ownership

variable {ν δ ο : Type} [DecidableEq ν]

/-! ## objects -/

structure Object (ν δ ο : Type) where
  id : ο
  /-- The database of the object, unless it is shared. -/
  database : Option δ
  owner : ν
  /-- The roles that have rights on the object. -/
  granted : List ν
deriving DecidableEq, Repr

namespace Object

variable (o : Object ν δ ο)

/-- A session in the database reaches the object. -/
def ReachedFrom (d : δ) : Prop := o.database = none ∨ o.database = some d

instance [DecidableEq δ] (d : δ) : Decidable (o.ReachedFrom d) :=
  inferInstanceAs (Decidable (_ ∨ _))

/-- The role owns the object, or has rights on it. -/
def DependsOn (name : ν) : Prop := o.owner = name ∨ name ∈ o.granted

instance (name : ν) : Decidable (o.DependsOn name) := inferInstanceAs (Decidable (_ ∨ _))

/-- The object with another owner. -/
def reassign (old new : ν) : Object ν δ ο :=
  { o with owner := if o.owner = old then new else o.owner }

/-- The object without rights of a role. -/
def revoke (name : ν) : Object ν δ ο := { o with granted := o.granted.filter (· ≠ name) }

/-- The object after one role has been handed over to another. -/
def handOver (old new : ν) : Object ν δ ο := (o.reassign old new).revoke old

variable {o} {old new : ν}

theorem handOver_of_not_dependsOn (h : ¬o.DependsOn old) : o.handOver old new = o := by
  rw [DependsOn, not_or] at h
  have hgranted : o.granted.filter (· ≠ old) = o.granted :=
    List.filter_eq_self.mpr fun name hname => by
      rw [decide_eq_true_eq]
      rintro rfl
      exact h.2 hname
  simp only [handOver, reassign, revoke, if_neg h.1, hgranted]

theorem not_dependsOn_handOver (hne : old ≠ new) : ¬(o.handOver old new).DependsOn old := by
  simp only [DependsOn, handOver, reassign, revoke, List.mem_filter, ne_eq, not_true_eq_false,
    decide_false, Bool.false_eq_true, and_false, or_false]
  split
  · exact hne.symm
  · assumption

/-- What is handed over stays so. -/
theorem handOver_handOver (hne : old ≠ new) :
    (o.handOver old new).handOver old new = o.handOver old new :=
  handOver_of_not_dependsOn (not_dependsOn_handOver hne)

theorem owner_reassign_ne (hne : old ≠ new) : (o.reassign old new).owner ≠ old := by
  simp only [reassign]
  split
  · exact hne.symm
  · assumption

end Object

/-! ## what a statement makes of the objects -/

section Statements

variable [DecidableEq δ] (d : δ) (old new : ν) (objects : List (Object ν δ ο))

/-- `REASSIGN OWNED BY old TO new`, in the database `d`. -/
def reassignOwned : List (Object ν δ ο) :=
  objects.map fun o => if o.ReachedFrom d then o.reassign old new else o

/-- `DROP OWNED BY old`, in the database `d`. -/
def dropOwned : List (Object ν δ ο) :=
  (objects.filter fun o => ¬(o.database = some d ∧ o.owner = old)).map fun o =>
    if o.ReachedFrom d then o.revoke old else o

/-- The role is handed over in the databases. -/
def handOverIn (ds : List δ) (old new : ν) (objects : List (Object ν δ ο)) :
    List (Object ν δ ο) :=
  objects.map fun o => if ∃ d ∈ ds, o.ReachedFrom d then o.handOver old new else o

variable {d old new objects}

/-- No object is dropped where the role owns none. -/
theorem dropOwned_of_owner_ne (h : ∀ o ∈ objects, o.ReachedFrom d → o.owner ≠ old) :
    dropOwned d old objects = objects.map fun o => if o.ReachedFrom d then o.revoke old else o := by
  rw [dropOwned, List.filter_eq_self.mpr]
  intro o ho
  rw [decide_eq_true_eq]
  exact fun hlocal => h o ho (.inr hlocal.1) hlocal.2

theorem owner_ne_of_mem_reassignOwned (hne : old ≠ new) :
    ∀ o ∈ reassignOwned d old new objects, o.ReachedFrom d → o.owner ≠ old := by
  intro o ho
  obtain ⟨o', -, rfl⟩ := List.mem_map.mp ho
  split
  · exact fun _ => Object.owner_reassign_ne hne
  · next hreached => exact fun h => absurd h hreached

/-- **Handing over in one database**: nothing is dropped. -/
theorem dropOwned_reassignOwned (hne : old ≠ new) :
    dropOwned d old (reassignOwned d old new objects) = handOverIn [d] old new objects := by
  rw [dropOwned_of_owner_ne (owner_ne_of_mem_reassignOwned hne), reassignOwned, handOverIn,
    List.map_map]
  refine List.map_congr_left fun o _ => ?_
  by_cases hreached : o.ReachedFrom d
  · have hreached' : (o.reassign old new).ReachedFrom d := hreached
    simp only [Function.comp, if_pos hreached', List.exists_mem_cons_iff, hreached, true_or,
      if_true, Object.handOver]
  · simp [hreached]

theorem handOverIn_nil : handOverIn [] old new objects = objects := by
  simp [handOverIn]

theorem handOverIn_handOverIn (hne : old ≠ new) (ds es : List δ) :
    handOverIn es old new (handOverIn ds old new objects) =
      handOverIn (ds ++ es) old new objects := by
  rw [handOverIn, handOverIn, handOverIn, List.map_map]
  refine List.map_congr_left fun o _ => ?_
  have happend : (∃ d ∈ ds ++ es, o.ReachedFrom d) ↔
      (∃ d ∈ ds, o.ReachedFrom d) ∨ ∃ d ∈ es, o.ReachedFrom d := by
    simp only [List.mem_append, or_and_right, exists_or]
  by_cases hreached : ∃ d ∈ ds, o.ReachedFrom d
  · simp only [Function.comp, happend, hreached, true_or, if_true,
      Object.handOver_handOver hne, ite_self]
  · simp only [Function.comp, happend, hreached, false_or, if_false]

/-- No object depends on the role any more where every one that did is reached. -/
theorem forall_mem_handOverIn (hne : old ≠ new) {ds : List δ} :
    (∀ o ∈ handOverIn ds old new objects, ¬o.DependsOn old) ↔
      ∀ o ∈ objects, o.DependsOn old → ∃ d ∈ ds, o.ReachedFrom d := by
  rw [handOverIn, List.forall_mem_map]
  refine forall₂_congr fun o _ => ?_
  split
  · next hreached => exact iff_of_true (Object.not_dependsOn_handOver hne) fun _ => hreached
  · next hreached => exact ⟨fun h h' => absurd h' h, fun h h' => hreached (h h')⟩

/-- Then the role is handed over everywhere. -/
theorem handOverIn_eq_map {ds : List δ}
    (h : ∀ o ∈ objects, o.DependsOn old → ∃ d ∈ ds, o.ReachedFrom d) :
    handOverIn ds old new objects = objects.map (·.handOver old new) := by
  refine List.map_congr_left fun o ho => ?_
  split
  · rfl
  · next hreached => exact (Object.handOver_of_not_dependsOn fun h' => hreached (h o ho h')).symm

/-! ## a role that is handed over in part -/

/-- No object is dropped, and none is handed over by half. -/
theorem forall₂_handOverIn {ds : List δ} :
    List.Forall₂ (fun o o' => o' = o ∨ o' = o.handOver old new) objects
      (handOverIn ds old new objects) := by
  refine List.forall₂_map_right_iff.mpr (List.forall₂_same.mpr fun o _ => ?_)
  split
  · exact .inr rfl
  · exact .inl rfl

theorem map_handOver_handOverIn (hne : old ≠ new) {ds : List δ} :
    (handOverIn ds old new objects).map (·.handOver old new) =
      objects.map (·.handOver old new) := by
  rw [handOverIn, List.map_map]
  refine List.map_congr_left fun o _ => ?_
  dsimp only [Function.comp]
  split
  · exact Object.handOver_handOver hne
  · rfl

/-- The objects that no statement reaches depend on the role as before. -/
theorem forall_reached_handOverIn (hne : old ≠ new) {ds es : List δ} (hsub : ∀ d ∈ ds, d ∈ es) :
    (∀ o ∈ handOverIn ds old new objects, o.DependsOn old → ∃ d ∈ es, o.ReachedFrom d) ↔
      ∀ o ∈ objects, o.DependsOn old → ∃ d ∈ es, o.ReachedFrom d := by
  rw [handOverIn, List.forall_mem_map]
  refine forall₂_congr fun o _ => ?_
  split
  · next hreached =>
    obtain ⟨d, hd, hreached⟩ := hreached
    exact iff_of_true (fun h => absurd h (Object.not_dependsOn_handOver hne))
      fun _ => ⟨d, hsub d hd, hreached⟩
  · exact Iff.rfl

end Statements

end Ownership
