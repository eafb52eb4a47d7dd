import PostgresqlK8s.Lib.Run
import Mathlib.Data.Set.Subsingleton
import Mathlib.Tactic.Common

/-!
# CheckThenAct

Parties that first look whether a shared collection holds nothing but an entry of
their own, and later add that entry.  Nothing protects the time between the two.

* `run_subsingleton` — all entries are the same, where no party adds its entry while
  another one has looked and may still add its own;
* `check_refused` — two different entries are there for good, and no party that looks
  afterwards may add its entry.
-/

namespace CheckThenAct

open Machine

variable {ι κ : Type*}

/-- The entries, and what each party that has looked may add. -/
structure State (ι κ : Type*) where
  entries : Set κ
  passed : ι → Option κ

inductive Event (ι κ : Type*)
  | check (p : ι) (k : κ)
  | act (p : ι)
  | leave (p : ι)

variable [DecidableEq ι]

open Classical in
noncomputable def step (s : State ι κ) : Event ι κ → State ι κ
  | .check p k => { s with
      passed := Function.update s.passed p (if ∀ e ∈ s.entries, e = k then some k else none) }
  | .act p =>
      match s.passed p with
      | some k => ⟨insert k s.entries, Function.update s.passed p none⟩
      | none => s
  | .leave p => { s with passed := Function.update s.passed p none }

/-- A party adds its entry only while no other one may. -/
def Alone (s : State ι κ) : Event ι κ → Prop
  | .act p => ∀ q, (s.passed q).isSome → q = p
  | _ => True

/-- There is one entry at most, and what a party may add is no other. -/
structure Inv (s : State ι κ) : Prop where
  subsingleton : s.entries.Subsingleton
  passed : ∀ p k, s.passed p = some k → ∀ e ∈ s.entries, e = k

variable {s : State ι κ} {p : ι} {k : κ}

/-- Leaving adds nothing. -/
theorem inv_leave (hs : Inv s) : Inv (step s (.leave p)) := by
  refine ⟨hs.subsingleton, fun q k hq => ?_⟩
  simp only [step] at hq
  obtain rfl | hne := eq_or_ne q p
  · rw [Function.update_self] at hq
    cases hq
  · rw [Function.update_of_ne hne] at hq
    exact hs.passed q k hq

/-- Nor does passing the check. -/
theorem inv_check (hs : Inv s) : Inv (step s (.check p k)) := by
  refine ⟨hs.subsingleton, fun q k' hq => ?_⟩
  simp only [step] at hq
  obtain rfl | hne := eq_or_ne q p
  · rw [Function.update_self] at hq
    split at hq
    · next hentries =>
        cases hq
        exact hentries
    · cases hq
  · rw [Function.update_of_ne hne] at hq
    exact hs.passed q k' hq

/-- Acting alone adds the only entry. -/
theorem inv_act (hs : Inv s) (halone : Alone s (.act p)) : Inv (step s (.act p)) := by
  cases hp : s.passed p with
  | none =>
      simp only [step, hp]
      exact hs
  | some k =>
      simp only [step, hp]
      have hentries := hs.passed p k hp
      refine ⟨?_, fun q k' hq => ?_⟩
      · rintro x (rfl | hx) y (rfl | hy)
        · rfl
        · exact (hentries y hy).symm
        · exact hentries x hx
        · exact hs.subsingleton hx hy
      · dsimp only at hq
        obtain rfl | hne := eq_or_ne q p
        · rw [Function.update_self] at hq
          cases hq
        · -- no other party may add
          rw [Function.update_of_ne hne] at hq
          exact absurd (halone q (by rw [hq]; rfl)) hne

/-- **Step**: as long as nobody acts in between, at most one entry is there. -/
theorem inv_step (s : State ι κ) (e : Event ι κ) (hs : Inv s) (halone : Alone s e) :
    Inv (step s e) := by
  cases e with
  | check p k => exact inv_check hs
  | act p => exact inv_act hs halone
  | leave p => exact inv_leave hs

/-- **One entry**, where nobody adds between the look and the addition of another. -/
theorem run_subsingleton {es : List (Event ι κ)} (hs : Inv s) (halone : Along step Alone s es) :
    (run step s es).entries.Subsingleton :=
  (run_of_along Inv inv_step hs halone).subsingleton

/-- Entries stay. -/
theorem entries_step (s : State ι κ) (e : Event ι κ) : s.entries ⊆ (step s e).entries := by
  cases e with
  | check p k => exact Set.Subset.rfl
  | leave p => exact Set.Subset.rfl
  | act p =>
      simp only [step]
      split
      · exact Set.subset_insert _ _
      · exact Set.Subset.rfl

/-- Entries are never taken away. -/
theorem entries_run (s : State ι κ) (es : List (Event ι κ)) :
    s.entries ⊆ (run step s es).entries :=
  run_of_step (fun t => s.entries ⊆ t.entries)
    (fun t e ht => Set.Subset.trans ht (entries_step t e)) es Set.Subset.rfl

/-- **Two entries** let no party pass any more. -/
theorem check_refused (hs : ¬s.entries.Subsingleton) (es : List (Event ι κ)) (k : κ) :
    ¬∀ e ∈ (run step s es).entries, e = k := by
  intro hentries
  refine hs fun x hx y hy => ?_
  rw [hentries x (entries_run s es hx), hentries y (entries_run s es hy)]

end CheckThenAct
