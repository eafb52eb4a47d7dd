import Mathlib.Data.List.Basic

/-!
# Retry

A retry loop over what the outside world answers.  Each attempt reads one
input; an attempt that fails is made again unless the loop stops, by the
number of the attempt or by what the input says (the time that has passed,
say).  A loop that runs out of inputs is still waiting for one.

`retrying_returned` runs the loop to the first attempt that goes through, and
`returned_cases` says that a loop that returned has stopped there.
-/

namespace Retry

variable {ι ε α : Type*}

/-- How a retry loop ends. -/
inductive Outcome (ε α : Type*)
  /-- An attempt went through. -/
  | returned (a : α)
  /-- The last attempt failed with this error. -/
  | gaveUp (e : ε)
  /-- Another input is needed. -/
  | waiting
deriving DecidableEq, Repr

section Loop

variable (attempt : ι → Except ε α) (stop : Nat → ι → Bool)

/-- The loop from attempt `n` on, and the inputs it read. -/
def retrying : Nat → List ι → Outcome ε α × List ι
  | _, [] => (.waiting, [])
  | n, i :: is =>
      match attempt i with
      | .ok a => (.returned a, [i])
      | .error e =>
          if stop n i then (.gaveUp e, [i])
          else ((retrying (n + 1) is).1, i :: (retrying (n + 1) is).2)

/-- The attempts from `n` on all fail, and none of them ends the loop. -/
def Refuses : Nat → List ι → Prop
  | _, [] => True
  | n, i :: is => (∃ e, attempt i = .error e) ∧ stop n i = false ∧ Refuses (n + 1) is

end Loop

variable {attempt : ι → Except ε α} {stop : Nat → ι → Bool} {n : Nat} {is before after : List ι}
  {i : ι}

@[simp] theorem refuses_nil : Refuses attempt stop n [] := trivial

/-- Where the end of the loop does not depend on the number of the attempt,
refusing is a condition on each input. -/
theorem refuses_iff_forall {late : ι → Bool} (n : Nat) (is : List ι) :
    Refuses attempt (fun _ => late) n is ↔
      ∀ i ∈ is, (∃ e, attempt i = .error e) ∧ late i = false := by
  induction is generalizing n with
  | nil => simp
  | cons i is ih =>
      rw [List.forall_mem_cons, ← ih (n + 1)]
      exact (and_assoc).symm

/-- Where the loop ends after attempt `m`, refusing is a condition on each
input and on their number. -/
theorem refuses_iff_length {m : Nat} (n : Nat) (is : List ι) (h : n ≤ m) :
    Refuses attempt (fun k _ => decide (m ≤ k)) n is ↔
      (∀ i ∈ is, ∃ e, attempt i = .error e) ∧ n + is.length ≤ m := by
  induction is generalizing n with
  | nil => simpa using h
  | cons i is ih =>
      simp only [Refuses, List.forall_mem_cons, List.length_cons, decide_eq_false_iff_not]
      by_cases hn : m ≤ n
      · have hlen : ¬ n + (is.length + 1) ≤ m := by omega
        simp [hn, hlen]
      · rw [ih (n + 1) (by omega)]
        have hlen : n + 1 + is.length ≤ m ↔ n + (is.length + 1) ≤ m := by omega
        simp [hn, hlen, and_assoc]

/-- The loop runs past a front of failing attempts. -/
theorem retrying_of_refuses (h : Refuses attempt stop n before) (is : List ι) :
    retrying attempt stop n (before ++ is) =
      ((retrying attempt stop (n + before.length) is).1,
        before ++ (retrying attempt stop (n + before.length) is).2) := by
  induction before generalizing n with
  | nil => rfl
  | cons i before ih =>
      obtain ⟨⟨e, he⟩, hstop, hrest⟩ := h
      have hlen : n + (i :: before).length = n + 1 + before.length := by
        rw [List.length_cons]
        omega
      rw [List.cons_append, retrying, he]
      simp only [hstop, Bool.false_eq_true, if_false]
      rw [ih hrest, hlen, List.cons_append]

/-- The loop returns at the first attempt that goes through. -/
theorem retrying_returned (h : Refuses attempt stop n before) {a : α} (hi : attempt i = .ok a)
    (after : List ι) :
    retrying attempt stop n (before ++ i :: after) = (.returned a, before ++ [i]) := by
  rw [retrying_of_refuses h, retrying, hi]

/-- A loop that returned stopped at an attempt that went through, after
attempts that all failed. -/
theorem returned_cases {a : α} {read : List ι}
    (h : retrying attempt stop n is = (.returned a, read)) :
    ∃ before i after, is = before ++ i :: after ∧ read = before ++ [i] ∧
      Refuses attempt stop n before ∧ attempt i = .ok a := by
  induction is generalizing n read with
  | nil => simp [retrying] at h
  | cons i is ih =>
      rw [retrying] at h
      cases hi : attempt i with
      | ok b =>
          rw [hi, Prod.mk.injEq, Outcome.returned.injEq] at h
          obtain ⟨rfl, rfl⟩ := h
          exact ⟨[], i, is, rfl, rfl, trivial, hi⟩
      | error e =>
          simp only [hi] at h
          cases hstop : stop n i with
          | true => simp [hstop] at h
          | false =>
              simp only [hstop, Bool.false_eq_true, if_false, Prod.mk.injEq] at h
              have hloop : retrying attempt stop (n + 1) is =
                  (.returned a, (retrying attempt stop (n + 1) is).2) := Prod.ext h.1 rfl
              obtain ⟨before, j, after, his, hread, href, hj⟩ := ih hloop
              refine ⟨i :: before, j, after, by rw [his, List.cons_append], ?_,
                ⟨⟨e, hi⟩, hstop, href⟩, hj⟩
              rw [← h.2, hread, List.cons_append]

end Retry
