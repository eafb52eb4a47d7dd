import Mathlib.Data.List.Basic

/-!
# EarlyExit

Loops over a list that stop at the first element which does not pass.  The
elements that such a loop reaches are those that come after passing ones only,
so the one it stops at is among them.  A loop that reads its elements and
collects some of what it reads comes to an end exactly if it can read them all
(`foldlM_collects`).
-/

namespace EarlyExit

variable {α : Type*} {p q : α → Bool}

/-- The elements up to the first that does not pass, and that one. -/
def reached (p : α → Bool) : List α → List α
  | [] => []
  | x :: xs => x :: if p x then reached p xs else []

theorem reached_cons_of_pos {x : α} (xs : List α) (h : p x = true) :
    reached p (x :: xs) = x :: reached p xs := by
  rw [reached, if_pos h]

theorem reached_cons_of_neg {x : α} (xs : List α) (h : ¬ p x = true) :
    reached p (x :: xs) = [x] := by
  rw [reached, if_neg h]

/-- What comes before an element that is reached passes. -/
theorem mem_reached_iff {y : α} {xs : List α} :
    y ∈ reached p xs ↔ ∃ front rest, xs = front ++ y :: rest ∧ ∀ x ∈ front, p x = true := by
  induction xs with
  | nil => simp [reached]
  | cons x xs ih =>
      constructor
      · intro h
        rw [reached, List.mem_cons] at h
        rcases h with rfl | h
        · exact ⟨[], xs, rfl, by simp⟩
        · split at h
          · next hx =>
              obtain ⟨front, rest, rfl, hfront⟩ := ih.mp h
              exact ⟨x :: front, rest, rfl, List.forall_mem_cons.mpr ⟨hx, hfront⟩⟩
          · contradiction
      · rintro ⟨front, rest, heq, hfront⟩
        cases front with
        | nil =>
            rw [List.nil_append, List.cons.injEq] at heq
            rw [reached, heq.1]
            exact List.mem_cons_self
        | cons z front =>
            rw [List.cons_append, List.cons.injEq] at heq
            rw [List.forall_mem_cons] at hfront
            rw [heq.1, reached_cons_of_pos xs hfront.1]
            exact List.mem_cons_of_mem z (ih.mpr ⟨front, rest, heq.2, hfront.2⟩)

theorem mem_of_mem_reached {y : α} {xs : List α} (h : y ∈ reached p xs) : y ∈ xs := by
  obtain ⟨front, rest, rfl, -⟩ := mem_reached_iff.mp h
  simp

/-- A loop in which everything passes reaches everything. -/
theorem reached_of_forall {xs : List α} (h : ∀ x ∈ xs, p x = true) : reached p xs = xs := by
  induction xs with
  | nil => rfl
  | cons x xs ih =>
      rw [List.forall_mem_cons] at h
      rw [reached_cons_of_pos xs h.1, ih h.2]

theorem reached_congr {xs : List α} (h : ∀ x ∈ xs, p x = q x) :
    reached p xs = reached q xs := by
  induction xs with
  | nil => rfl
  | cons x xs ih =>
      rw [List.forall_mem_cons] at h
      rw [reached, reached, h.1, ih h.2]

/-- What is collected comes after what there is. -/
theorem foldlM_collects {β : Type*} {f : List β → α → Option (List β)} {read : α → Option β}
    {keep : β → Bool} (hf : ∀ ys x, f ys x = (read x).map fun y => ys ++ [y].filter keep)
    (ys : List β) (xs : List α) :
    xs.foldlM f ys = if xs.all fun x => (read x).isSome
      then some (ys ++ (xs.filterMap read).filter keep) else none := by
  induction xs generalizing ys with
  | nil => simp
  | cons x xs ih =>
      rw [List.foldlM_cons, hf, List.all_cons]
      cases hread : read x with
      | none => simp
      | some y =>
          rw [Option.map_some, Option.bind_eq_bind, Option.bind_some, ih, Option.isSome_some,
            Bool.true_and, List.filterMap_cons_some hread, List.append_assoc,
            ← List.filter_append, List.singleton_append]

end EarlyExit
