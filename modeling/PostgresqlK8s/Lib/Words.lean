import Mathlib.Data.List.Basic

/-!
# Words

The words of a text: the maximal runs of elements that are no separators, for
any class `p` of separators.
-/

namespace Words

variable {α : Type*} {p : α → Bool}

/-- The words of `l`, in order. -/
def words (p : α → Bool) (l : List α) : List (List α) :=
  (l.splitOnP p).filter (!·.isEmpty)

@[simp] theorem words_nil : words p [] = [] := by
  simp [words]

/-- A separator ends the words before it. -/
theorem words_append_cons (l m : List α) {sep : α} (h : p sep = true) :
    words p (l ++ sep :: m) = words p l ++ words p m := by
  rw [words, List.splitOnP_append_cons l m h, List.filter_append]
  rfl

/-- A text without separators is one word. -/
theorem words_of_forall {l : List α} (hne : l ≠ []) (h : ∀ x ∈ l, p x = false) :
    words p l = [l] := by
  rw [words, List.splitOnP_eq_singleton h]
  simp [hne]

/-- The pieces between separators hold none. -/
theorem forall_of_mem_splitOnP {l w : List α} (h : w ∈ l.splitOnP p) : ∀ x ∈ w, p x = false := by
  induction l generalizing w with
  | nil =>
      rw [List.splitOnP_nil, List.mem_singleton] at h
      subst h
      nofun
  | cons a l ih =>
      rw [List.splitOnP_cons_eq_if_modifyHead] at h
      split at h
      · rcases List.mem_cons.mp h with rfl | hw
        · nofun
        · exact ih hw
      · next ha =>
          cases hsplit : l.splitOnP p with
          | nil => exact absurd hsplit (List.splitOnP_ne_nil p l)
          | cons u us =>
              rw [hsplit, List.modifyHead_cons] at h
              rcases List.mem_cons.mp h with rfl | hw
              · intro x hx
                rcases List.mem_cons.mp hx with rfl | hx
                · simpa using ha
                · exact ih (by rw [hsplit]; exact List.mem_cons_self) x hx
              · exact ih (by rw [hsplit]; exact List.mem_cons_of_mem u hw)

/-- No word holds a separator. -/
theorem forall_of_mem_words {l w : List α} (h : w ∈ words p l) : ∀ x ∈ w, p x = false :=
  forall_of_mem_splitOnP (List.mem_of_mem_filter h)

end Words
