import Mathlib.Data.List.Basic
import Mathlib.Data.List.Infix
import Mathlib.Tactic.Common

/-!
# Like

`LIKE` of SQL: `%` is any text and `_` is any character, also where a name was
meant that has an underscore.  Patterns are put together as the texts that they
are for (`like_append`).
-/

namespace Like

/-- A part of a pattern. -/
inductive Part
  /-- `%` -/
  | text
  /-- `_` -/
  | one
  | char (c : Char)
deriving DecidableEq, Repr

/-- The parts of a pattern; a backslash makes a character of what follows. -/
def parts : List Char → List Part
  | [] => []
  | '%' :: cs => .text :: parts cs
  | '_' :: cs => .one :: parts cs
  | '\\' :: c :: cs => .char c :: parts cs
  | c :: cs => .char c :: parts cs

def like : List Part → List Char → Bool
  | [], s => s.isEmpty
  | .text :: ps, s => s.tails.any (like ps)
  | .one :: ps, s => match s with
    | [] => false
    | _ :: s => like ps s
  | .char c :: ps, s => match s with
    | [] => false
    | c' :: s => c == c' && like ps s

variable {ps qs : List Part} {s t : List Char}

theorem like_text : like (.text :: ps) s = true ↔ ∃ t, t <:+ s ∧ like ps t = true := by
  rw [like, List.any_eq_true]
  simp only [List.mem_tails]

/-- What follows `%` is found where the text ends with it. -/
theorem like_text_append (h : like ps t = true) : like (.text :: ps) (s ++ t) = true :=
  like_text.mpr ⟨t, List.suffix_append s t, h⟩

theorem like_append (h : like ps s = true) (h' : like qs t = true) :
    like (ps ++ qs) (s ++ t) = true := by
  induction ps generalizing s with
  | nil =>
    obtain rfl : s = [] := List.isEmpty_iff.mp h
    exact h'
  | cons p ps ih =>
    cases p with
    | text =>
      obtain ⟨u, ⟨v, rfl⟩, hu⟩ := like_text.mp h
      rw [List.append_assoc]
      exact like_text_append (ih hu)
    | one =>
      cases s with
      | nil => cases h
      | cons c s => exact ih (s := s) h
    | char c =>
      cases s with
      | nil => cases h
      | cons c' s =>
        obtain ⟨hc, hs⟩ := Bool.and_eq_true_iff.mp h
        exact Bool.and_eq_true_iff.mpr ⟨hc, ih hs⟩

/-- A pattern that ends with `%` is for every text that begins as it does. -/
theorem like_append_text (h : like ps s = true) (t : List Char) :
    like (ps ++ [.text]) (s ++ t) = true :=
  like_append h (like_text.mpr ⟨[], List.nil_suffix, rfl⟩)

end Like
