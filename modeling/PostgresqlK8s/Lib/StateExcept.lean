import Mathlib.Data.List.Forall2
import Mathlib.Tactic.Common

/-!
# StateExcept

Rules for programs over a state that may end with an exception, which keeps
what was written before it.  A program that reaches its end is taken apart
from the front: `run_bind_ok` for a sequence, and one rule for each primitive.

`Triple P x Q E` says what a program `x` that starts where `P` holds leaves
behind: `Q` of its result and the state, or `E` of the state when it ends with
an exception.  There is one rule for each way to build a program; the rule of
consequence is built into those for the primitives.
-/

namespace EStateM

variable {ε σ α β : Type}

/-- A sequence ends well exactly when both of its parts do. -/
theorem run_bind_ok {x : EStateM ε σ α} {f : α → EStateM ε σ β} {s s' : σ} {b : β} :
    (x >>= f).run s = .ok b s' ↔ ∃ a t, x.run s = .ok a t ∧ (f a).run t = .ok b s' := by
  show EStateM.bind x f s = .ok b s' ↔ ∃ a t, x s = .ok a t ∧ f a t = .ok b s'
  unfold EStateM.bind
  cases x s with
  | ok a t => simp
  | error e t => simp

/-- What follows a part that ends well. -/
theorem run_bind_of_ok {x : EStateM ε σ α} {f : α → EStateM ε σ β} {s t : σ} {a : α}
    (h : x.run s = .ok a t) : (x >>= f).run s = (f a).run t := by
  show EStateM.bind x f s = f a t
  unfold EStateM.bind
  rw [show x s = .ok a t from h]

/-- Nothing follows a part that raises. -/
theorem run_bind_of_error {x : EStateM ε σ α} {f : α → EStateM ε σ β} {s t : σ} {e : ε}
    (h : x.run s = .error e t) : (x >>= f).run s = .error e t := by
  show EStateM.bind x f s = .error e t
  unfold EStateM.bind
  rw [show x s = .error e t from h]

/-- There is nothing to catch in a part that ends well. -/
theorem run_tryCatch_of_ok {x : EStateM ε σ α} {handle : ε → EStateM ε σ α} {s t : σ} {a : α}
    (h : x.run s = .ok a t) : (tryCatch x handle).run s = .ok a t := by
  show EStateM.tryCatch x handle s = .ok a t
  unfold EStateM.tryCatch
  rw [show x s = .ok a t from h]

/-- A handler that raises again makes no good end. -/
theorem run_tryCatch_ok {x : EStateM ε σ α} {handle : ε → EStateM ε σ α} {s t : σ} {a : α}
    (hhandle : ∀ e s a t, (handle e).run s ≠ .ok a t) :
    (tryCatch x handle).run s = .ok a t ↔ x.run s = .ok a t := by
  show EStateM.tryCatch x handle s = .ok a t ↔ x s = .ok a t
  unfold EStateM.tryCatch
  cases x s with
  | ok b u => rfl
  | error e u => exact iff_of_false (hhandle e u a t) (by simp)

theorem run_pure_ok {a b : α} {s s' : σ} :
    (pure a : EStateM ε σ α).run s = .ok b s' ↔ a = b ∧ s = s' := by
  show (EStateM.Result.ok a s : EStateM.Result ε σ α) = .ok b s' ↔ _
  simp

theorem run_modify_ok {f : σ → σ} {s s' : σ} {u : PUnit} :
    (modify f : EStateM ε σ PUnit).run s = .ok u s' ↔ f s = s' := by
  show (EStateM.Result.ok PUnit.unit (f s) : EStateM.Result ε σ PUnit) = .ok u s' ↔ _
  simp

theorem run_get_ok {s s' t : σ} :
    (get : EStateM ε σ σ).run s = .ok t s' ↔ s = t ∧ s = s' := by
  show (EStateM.Result.ok s s : EStateM.Result ε σ σ) = .ok t s' ↔ _
  simp

/-- An exception is not an end. -/
theorem run_throw_ok {e : ε} {s s' : σ} {a : α} :
    (throw e : EStateM ε σ α).run s = .ok a s' ↔ False := by
  show (EStateM.Result.error e s : EStateM.Result ε σ α) = .ok a s' ↔ False
  simp

theorem run_ofExcept_ok {x : Except ε α} {s s' : σ} {a : α} :
    (MonadExcept.ofExcept x : EStateM ε σ α).run s = .ok a s' ↔ x = .ok a ∧ s = s' := by
  cases x with
  | ok b =>
      rw [MonadExcept.ofExcept, run_pure_ok]
      simp
  | error e =>
      rw [MonadExcept.ofExcept, run_throw_ok]
      simp

/-! ## triples -/

/-- From a state with `P` the program ends with `Q`, or with an exception and
`E`. -/
def Triple (P : σ → Prop) (x : EStateM ε σ α) (Q : α → σ → Prop) (E : σ → Prop) : Prop :=
  ∀ s, P s → match x.run s with
    | .ok a t => Q a t
    | .error _ t => E t

section Rules

variable {P : σ → Prop} {E : σ → Prop} {Q : α → σ → Prop}

theorem triple_pure {a : α} (h : ∀ s, P s → Q a s) :
    Triple P (pure a : EStateM ε σ α) Q E := h

theorem triple_throw {e : ε} (h : ∀ s, P s → E s) :
    Triple P (throw e : EStateM ε σ α) Q E := h

theorem triple_modify {f : σ → σ} {Q : PUnit → σ → Prop} (h : ∀ s, P s → Q ⟨⟩ (f s)) :
    Triple P (modify f : EStateM ε σ PUnit) Q E := h

theorem triple_set {t : σ} {Q : PUnit → σ → Prop} (h : ∀ s, P s → Q ⟨⟩ t) :
    Triple P (set t : EStateM ε σ PUnit) Q E := h

theorem triple_ofExcept {x : Except ε α} (hok : ∀ a, x = .ok a → ∀ s, P s → Q a s)
    (herror : ∀ e, x = .error e → ∀ s, P s → E s) :
    Triple P (MonadExcept.ofExcept x : EStateM ε σ α) Q E := by
  cases x with
  | ok a => exact hok a rfl
  | error e => exact herror e rfl

theorem triple_ofExcept_same (x : Except ε α) :
    Triple P (MonadExcept.ofExcept x : EStateM ε σ α) (fun _ => P) P :=
  triple_ofExcept (fun _ _ _ h => h) fun _ _ _ h => h

theorem triple_bind {R : α → σ → Prop} {x : EStateM ε σ α} {f : α → EStateM ε σ β}
    {Q : β → σ → Prop} (hx : Triple P x R E) (hf : ∀ a, Triple (R a) (f a) Q E) :
    Triple P (x >>= f) Q E := by
  intro s hs
  have hx := hx s hs
  show match EStateM.bind x f s with
    | .ok b t => Q b t
    | .error _ t => E t
  unfold EStateM.bind
  cases hrun : x s with
  | ok a t =>
      rw [show x.run s = x s from rfl, hrun] at hx
      exact hf a t hx
  | error e t =>
      rw [show x.run s = x s from rfl, hrun] at hx
      exact hx

/-- A program that writes and returns. -/
theorem triple_modify_return {f : σ → σ} {a : α} (h : ∀ s, P s → Q a (f s)) :
    Triple P (do modify f; return a : EStateM ε σ α) Q E :=
  triple_bind (R := fun _ => Q a) (triple_modify h) fun _ => triple_pure fun _ h => h

/-- From one state with `P`. -/
theorem triple_at {s : σ} {x : EStateM ε σ α} (hs : P s) (hx : Triple P x Q E) :
    Triple (fun t => t = s) x Q E := by
  intro t ht
  exact hx t (ht ▸ hs)

theorem triple_pure_at {s : σ} {a : α} (h : Q a s) :
    Triple (fun t => t = s) (pure a : EStateM ε σ α) Q E := by
  intro t ht
  exact (ht ▸ h : Q a t)

/-- A fact that does not depend on the state is one for the proof. -/
theorem triple_of_fact {c : Prop} {x : EStateM ε σ α} (h : c → Triple P x Q E) :
    Triple (fun s => P s ∧ c) x Q E :=
  fun s hs => h hs.2 s hs.1

/-- Reading the state names it in what follows. -/
theorem triple_get {f : σ → EStateM ε σ β} {Q : β → σ → Prop}
    (h : ∀ s, P s → Triple (fun t => t = s) (f s) Q E) :
    Triple P (get >>= f) Q E :=
  fun s hs => h s hs s rfl

theorem triple_ite {c : Prop} [Decidable c] {x y : EStateM ε σ α}
    (hpos : c → Triple P x Q E) (hneg : ¬ c → Triple P y Q E) :
    Triple P (if c then x else y) Q E := by
  split
  · exact hpos ‹_›
  · exact hneg ‹_›

/-- A loop keeps what each of its rounds keeps, of the state and of what the
rounds hand on. -/
theorem triple_foldlM {I : β → σ → Prop} {f : β → α → EStateM ε σ β} {xs : List α} {b : β}
    (hf : ∀ b, ∀ x ∈ xs, Triple (I b) (f b x) I E) : Triple (I b) (xs.foldlM f b) I E := by
  induction xs generalizing b with
  | nil => exact triple_pure fun _ h => h
  | cons x xs ih =>
      rw [List.foldlM_cons]
      exact triple_bind (hf b x List.mem_cons_self) fun c =>
        ih fun b y hy => hf b y (List.mem_cons_of_mem x hy)

/-- What handles an exception starts where the exception left off. -/
theorem triple_tryCatch {x : EStateM ε σ α} {handle : ε → EStateM ε σ α} {E' : σ → Prop}
    (hx : Triple P x Q E') (hhandle : ∀ e, Triple E' (handle e) Q E) :
    Triple P (tryCatch x handle) Q E := by
  intro s hs
  have hx := hx s hs
  show match EStateM.tryCatch x handle s with
    | .ok a t => Q a t
    | .error _ t => E t
  unfold EStateM.tryCatch
  cases hrun : x s with
  | ok a t =>
      rw [show x.run s = x s from rfl, hrun] at hx
      exact hx
  | error e t =>
      rw [show x.run s = x s from rfl, hrun] at hx
      exact hhandle e t hx

/-- What a program that ends well always leaves behind. -/
theorem triple_and_run {R : α → σ → Prop} {x : EStateM ε σ α} (hx : Triple P x Q E)
    (hR : ∀ s a t, x.run s = .ok a t → R a t) : Triple P x (fun a t => Q a t ∧ R a t) E := by
  intro s hs
  have hx := hx s hs
  cases hrun : x.run s with
  | ok a t =>
      rw [hrun] at hx
      exact ⟨hx, hR s a t hrun⟩
  | error e t =>
      rw [hrun] at hx
      exact hx

/-- A program that leaves the state as it was keeps what holds of it. -/
theorem triple_and_frame {R : σ → Prop} {x : EStateM ε σ α} (hx : Triple P x Q E)
    (hR : ∀ s a t, R s → x.run s = .ok a t → t = s) :
    Triple (fun s => P s ∧ R s) x (fun a t => Q a t ∧ R t) E := by
  intro s hs
  have hx := hx s hs.1
  cases hrun : x.run s with
  | ok a t =>
      rw [hrun] at hx
      exact ⟨hx, (hR s a t hs.2 hrun).symm ▸ hs.2⟩
  | error e t =>
      rw [hrun] at hx
      exact hx

theorem triple_conseq {P' : σ → Prop} {E' : σ → Prop} {Q' : α → σ → Prop} {x : EStateM ε σ α}
    (hx : Triple P' x Q' E') (hP : ∀ s, P s → P' s) (hQ : ∀ a s, Q' a s → Q a s)
    (hE : ∀ s, E' s → E s) : Triple P x Q E := by
  intro s hs
  have hx := hx s (hP s hs)
  cases hrun : x.run s with
  | ok a t =>
      rw [hrun] at hx
      exact hQ a t hx
  | error e t =>
      rw [hrun] at hx
      exact hE t hx

end Rules

end EStateM

namespace Except

variable {ε α β : Type}

theorem bind_eq_ok {x : Except ε α} {f : α → Except ε β} {b : β} :
    (x >>= f) = .ok b ↔ ∃ a, x = .ok a ∧ f a = .ok b := by
  cases x with
  | ok a => simp [bind, Except.bind]
  | error e => simp [bind, Except.bind]

theorem bind_eq_error {x : Except ε α} {f : α → Except ε β} {e : ε} :
    (x >>= f) = .error e ↔ x = .error e ∨ ∃ a, x = .ok a ∧ f a = .error e := by
  cases x with
  | ok a => simp [bind, Except.bind]
  | error e => simp [bind, Except.bind]

theorem map_eq_ok {x : Except ε α} {f : α → β} {b : β} :
    f <$> x = .ok b ↔ ∃ a, x = .ok a ∧ f a = b := by
  cases x with
  | ok a => simp [Functor.map, Except.map]
  | error e => simp [Functor.map, Except.map]

theorem mapError_eq_ok {ε' : Type*} {x : Except ε α} {f : ε → ε'} {a : α} :
    x.mapError f = .ok a ↔ x = .ok a := by
  cases x with
  | ok a => simp [Except.mapError]
  | error e => simp [Except.mapError]

theorem map_eq_error {x : Except ε α} {f : α → β} {e : ε} :
    f <$> x = .error e ↔ x = .error e := by
  cases x with
  | ok a => simp [Functor.map, Except.map]
  | error e => simp [Functor.map, Except.map]

/-- A loop over a list ends well exactly when each of its rounds does. -/
theorem mapM_eq_ok {f : α → Except ε β} {xs : List α} :
    (∃ ys, xs.mapM f = .ok ys) ↔ ∀ x ∈ xs, ∃ y, f x = .ok y := by
  induction xs with
  | nil => simp [pure, Except.pure]
  | cons x xs ih =>
      rw [List.forall_mem_cons, ← ih, List.mapM_cons]
      simp only [bind_eq_ok]
      constructor
      · rintro ⟨_, y, hy, ys, hys, -⟩
        exact ⟨⟨y, hy⟩, ys, hys⟩
      · rintro ⟨⟨y, hy⟩, ys, hys⟩
        exact ⟨y :: ys, y, hy, ys, hys, rfl⟩

/-- The results of a loop are those of its rounds. -/
theorem mapM_eq_ok_iff_forall₂ {f : α → Except ε β} {xs : List α} {ys : List β} :
    xs.mapM f = .ok ys ↔ List.Forall₂ (fun x y => f x = .ok y) xs ys := by
  induction xs generalizing ys with
  | nil =>
      rw [List.forall₂_nil_left_iff, List.mapM_nil]
      exact ⟨fun h => (Except.ok.inj h).symm, fun h => congrArg Except.ok h.symm⟩
  | cons x xs ih =>
      rw [List.mapM_cons, List.forall₂_cons_left_iff]
      simp only [bind_eq_ok, ih]
      constructor
      · rintro ⟨y, hy, ys', hys', h⟩
        exact ⟨y, ys', hy, hys', (Except.ok.inj h).symm⟩
      · rintro ⟨y, ys', hy, hys', rfl⟩
        exact ⟨y, hy, ys', hys', rfl⟩

/-- A loop without exceptions collects the results of its rounds. -/
theorem mapM_eq_ok_map {f : α → Except ε β} {g : α → β} {xs : List α}
    (h : ∀ x ∈ xs, f x = .ok (g x)) : xs.mapM f = .ok (xs.map g) := by
  induction xs with
  | nil => rfl
  | cons x xs ih =>
      rw [List.forall_mem_cons] at h
      rw [List.mapM_cons, h.1, ih h.2]
      rfl

/-- The exception of a loop is the exception of one of its rounds. -/
theorem exists_of_mapM_eq_error {f : α → Except ε β} {xs : List α} {e : ε}
    (h : xs.mapM f = .error e) : ∃ x ∈ xs, f x = .error e := by
  induction xs with
  | nil => cases h
  | cons x xs ih =>
      simp only [List.mapM_cons, bind_eq_error, pure, Except.pure, reduceCtorEq, and_false,
        exists_false, or_false] at h
      obtain h | ⟨y, -, h⟩ := h
      · exact ⟨x, List.mem_cons_self, h⟩
      · obtain ⟨x', hx', h'⟩ := ih h
        exact ⟨x', List.mem_cons_of_mem x hx', h'⟩

/-- The rounds of a loop leave one result each. -/
theorem length_of_mapM_eq_ok {f : α → Except ε β} {xs : List α} {ys : List β}
    (h : xs.mapM f = .ok ys) : ys.length = xs.length := by
  induction xs generalizing ys with
  | nil =>
      rw [List.mapM_nil] at h
      cases h
      rfl
  | cons x xs ih =>
      simp only [List.mapM_cons, bind_eq_ok] at h
      obtain ⟨y, -, ys', hys', h⟩ := h
      cases h
      rw [List.length_cons, List.length_cons, ih hys']

end Except
