import Mathlib.Logic.Function.Basic
import Mathlib.Data.List.Basic

/-!
# Run

Runs of a deterministic event-driven machine: a state type `σ`, an event type
`ε` and a step function `step : σ → ε → σ`.  Everything an event may observe
of the outside world is part of the event, so a run is determined by its
first state and its list of events.

* `run step s es` — the state reached from `s` by the events `es`;
* `Along step P s es` — `P` holds at every step of that run, of the state
  before the step and its event.

The rules are the two inductions every safety argument needs: an invariant
that each step satisfying a guard preserves holds after every run that
satisfies the guard throughout (`run_of_along`), and a fact that the
invariant gives at one step holds at all of them (`along_of_invariant`).
A fact that the guard characterises at one step holds along a run exactly when
the guard does (`along_congr`).  `abs_run` and `along_trace` carry both to an abstract machine that the
concrete one simulates.
-/

namespace Machine

variable {σ ε : Type*}

/-- The state reached from `s` by the events `es`, in order. -/
def run (step : σ → ε → σ) (s : σ) (es : List ε) : σ := es.foldl step s

/-- `P` holds at every step of the run of `es` from `s`. -/
def Along (step : σ → ε → σ) (P : σ → ε → Prop) : σ → List ε → Prop
  | _, [] => True
  | s, e :: es => P s e ∧ Along step P (step s e) es

section Basic

variable (step : σ → ε → σ) (P : σ → ε → Prop)

@[simp] theorem run_nil (s : σ) : run step s [] = s := rfl

@[simp] theorem run_cons (s : σ) (e : ε) (es : List ε) :
    run step s (e :: es) = run step (step s e) es := rfl

@[simp] theorem run_append (s : σ) (es fs : List ε) :
    run step s (es ++ fs) = run step (run step s es) fs := List.foldl_append

@[simp] theorem along_nil (s : σ) : Along step P s [] := trivial

@[simp] theorem along_cons (s : σ) (e : ε) (es : List ε) :
    Along step P s (e :: es) ↔ P s e ∧ Along step P (step s e) es := Iff.rfl

theorem along_append (s : σ) (es fs : List ε) :
    Along step P s (es ++ fs) ↔ Along step P s es ∧ Along step P (run step s es) fs := by
  induction es generalizing s with
  | nil => simp
  | cons e es ih => simp [ih, and_assoc]

theorem along_flatMap {β : Type*} (f : β → List ε) (s : σ) (xs : List β) :
    Along step P s (xs.flatMap f) ↔
      Along (fun s x => run step s (f x)) (fun s x => Along step P s (f x)) s xs := by
  induction xs generalizing s with
  | nil => simp
  | cons x xs ih => rw [List.flatMap_cons, along_append, along_cons, ih]

/-- What holds of every event holds along a run. -/
theorem along_and_of_forall {step : σ → ε → σ} {P : σ → ε → Prop} {Q : ε → Prop} {s : σ}
    {es : List ε} (h : Along step P s es) (hQ : ∀ e ∈ es, Q e) :
    Along step (fun s e => P s e ∧ Q e) s es := by
  induction es generalizing s with
  | nil => trivial
  | cons e es ih =>
      obtain ⟨he, hes⟩ := h
      rw [List.forall_mem_cons] at hQ
      exact ⟨⟨he, hQ.1⟩, ih hes hQ.2⟩

/-- What holds of every event in any state holds along a run. -/
theorem along_of_forall {step : σ → ε → σ} {P : σ → ε → Prop} {s : σ} {es : List ε}
    (h : ∀ e ∈ es, ∀ s, P s e) : Along step P s es := by
  induction es generalizing s with
  | nil => trivial
  | cons e es ih =>
      rw [List.forall_mem_cons] at h
      exact ⟨h.1 s, ih h.2⟩

/-- Whether a decidable predicate holds along a run can be computed. -/
instance decidableAlong [∀ s e, Decidable (P s e)] : ∀ (s : σ) (es : List ε),
    Decidable (Along step P s es)
  | _, [] => .isTrue trivial
  | s, e :: es =>
      have := decidableAlong (step s e) es
      inferInstanceAs (Decidable (P s e ∧ Along step P (step s e) es))

end Basic

section Invariants

variable {step : σ → ε → σ} (Inv : σ → Prop) {guard P : σ → ε → Prop}

/-- **Run rule**: an invariant that every guarded step preserves holds after
every run that satisfies the guard at each of its steps. -/
theorem run_of_along (hstep : ∀ s e, Inv s → guard s e → Inv (step s e))
    {s : σ} {es : List ε} (hs : Inv s) (hg : Along step guard s es) :
    Inv (run step s es) := by
  induction es generalizing s with
  | nil => exact hs
  | cons e es ih =>
      obtain ⟨he, hes⟩ := hg
      exact ih (hstep s e hs he) hes

/-- **Step rule**: what the invariant and the guard give at one step holds at
every step of a guarded run. -/
theorem along_of_invariant (hstep : ∀ s e, Inv s → guard s e → Inv (step s e))
    (hP : ∀ s e, Inv s → guard s e → P s e) {s : σ} {es : List ε} (hs : Inv s)
    (hg : Along step guard s es) : Along step P s es := by
  induction es generalizing s with
  | nil => trivial
  | cons e es ih =>
      obtain ⟨he, hes⟩ := hg
      exact ⟨hP s e hs he, ih (hstep s e hs he) hes⟩

/-- An invariant of every step needs no guard. -/
theorem run_of_step (hstep : ∀ s e, Inv s → Inv (step s e)) {s : σ} (es : List ε)
    (hs : Inv s) : Inv (run step s es) := by
  induction es generalizing s with
  | nil => exact hs
  | cons e es ih => exact ih (hstep s e hs)

/-- **Exactness rule**: a fact that the guard characterises at each step, under
an invariant that the guard preserves, holds along a run exactly when the
guard does. -/
theorem along_congr (hstep : ∀ s e, Inv s → guard s e → Inv (step s e))
    (hP : ∀ s e, Inv s → (P s e ↔ guard s e)) {s : σ} {es : List ε} (hs : Inv s) :
    Along step P s es ↔ Along step guard s es := by
  induction es generalizing s with
  | nil => exact Iff.rfl
  | cons e es ih =>
      rw [along_cons, along_cons, hP s e hs]
      constructor
      · rintro ⟨he, hes⟩
        exact ⟨he, (ih (hstep s e hs he)).mp hes⟩
      · rintro ⟨he, hes⟩
        exact ⟨he, (ih (hstep s e hs he)).mpr hes⟩

end Invariants

/-! ## Simulation -/

section Simulation

variable {τ δ : Type*} {step : σ → ε → σ} {step' : τ → δ → τ} {abs : σ → τ}
  {label : σ → ε → List δ} {Inv : σ → Prop} {guard : σ → ε → Prop} {guard' : τ → δ → Prop}

/-- The abstract events of a run, where one concrete event stands for the
list `label s e` of abstract ones. -/
def trace (step : σ → ε → σ) (label : σ → ε → List δ) : σ → List ε → List δ
  | _, [] => []
  | s, e :: es => label s e ++ trace step label (step s e) es

theorem trace_append (s : σ) (es fs : List ε) :
    trace step label s (es ++ fs) = trace step label s es ++ trace step label (run step s es) fs := by
  induction es generalizing s with
  | nil => rfl
  | cons e es ih => rw [List.cons_append, trace, trace, ih, List.append_assoc, run_cons]

/-- **Simulation rule**: if every step is matched by its abstract events, the
state a run reaches is the one its trace reaches. -/
theorem abs_run (hinv : ∀ s e, Inv s → Inv (step s e))
    (hsim : ∀ s e, Inv s → abs (step s e) = run step' (abs s) (label s e))
    {s : σ} (es : List ε) (hs : Inv s) :
    abs (run step s es) = run step' (abs s) (trace step label s es) := by
  induction es generalizing s with
  | nil => rfl
  | cons e es ih =>
      rw [run_cons, trace, run_append, ih (hinv s e hs), hsim s e hs]

/-- A guard that every step hands on to its abstract events holds along the
trace of a guarded run. -/
theorem along_trace (hinv : ∀ s e, Inv s → Inv (step s e))
    (hsim : ∀ s e, Inv s → abs (step s e) = run step' (abs s) (label s e))
    (hguard : ∀ s e, Inv s → guard s e → Along step' guard' (abs s) (label s e))
    {s : σ} {es : List ε} (hs : Inv s) (hg : Along step guard s es) :
    Along step' guard' (abs s) (trace step label s es) := by
  induction es generalizing s with
  | nil => trivial
  | cons e es ih =>
      obtain ⟨he, hes⟩ := hg
      rw [trace, along_append]
      refine ⟨hguard s e hs he, ?_⟩
      rw [← hsim s e hs]
      exact ih (hinv s e hs) hes

end Simulation

end Machine
