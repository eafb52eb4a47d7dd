import Mathlib.Order.Lattice

/-!
# Greatest

The greatest element of a list, found by going over it once.  The comparison
is a Boolean function that orders the elements by a key.
-/

namespace Greatest

variable {α κ : Type*} [LinearOrder κ] {lt : α → α → Bool} {key : α → κ}

/-- The greater of the elements seen so far and the next one, up to the end. -/
def pick (lt : α → α → Bool) (a : α) (as : List α) : α :=
  as.foldl (fun best b => if lt best b then b else best) a

theorem pick_mem (lt : α → α → Bool) (a : α) (as : List α) : pick lt a as ∈ a :: as := by
  induction as generalizing a with
  | nil => exact List.mem_cons_self
  | cons b as ih =>
    have hmem := ih (if lt a b then b else a)
    rw [List.mem_cons] at hmem ⊢
    rw [pick, List.foldl_cons]
    rcases hmem with heq | hmem
    · rw [pick] at heq
      rw [heq, List.mem_cons]
      split
      · exact .inr (.inl rfl)
      · exact .inl rfl
    · exact .inr (List.mem_cons_of_mem b hmem)

/-- No element has a greater key than the one that is picked. -/
theorem key_le_pick (hlt : ∀ a b, lt a b = true ↔ key a < key b) (a : α) (as : List α) :
    ∀ x ∈ a :: as, key x ≤ key (pick lt a as) := by
  induction as generalizing a with
  | nil =>
    intro x hx
    rw [List.mem_singleton] at hx
    rw [hx]
    exact le_refl _
  | cons b as ih =>
    have hrest := ih (if lt a b then b else a)
    have hbest := hrest _ List.mem_cons_self
    have hpick : pick lt a (b :: as) = pick lt (if lt a b then b else a) as := rfl
    rw [← hpick] at hrest hbest
    intro x hx
    rw [List.mem_cons, List.mem_cons] at hx
    by_cases hab : lt a b = true
    · rw [if_pos hab] at hrest hbest
      have hle := le_of_lt ((hlt a b).1 hab)
      rcases hx with rfl | rfl | hx
      · exact le_trans hle hbest
      · exact hbest
      · exact hrest x (List.mem_cons_of_mem b hx)
    · rw [if_neg hab] at hrest hbest
      have hle : key b ≤ key a := not_lt.1 fun h => hab ((hlt a b).2 h)
      rcases hx with rfl | rfl | hx
      · exact hbest
      · exact le_trans hle hbest
      · exact hrest x (List.mem_cons_of_mem a hx)

end Greatest
