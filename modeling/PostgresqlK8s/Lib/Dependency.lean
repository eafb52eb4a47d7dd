import Mathlib.Data.List.Nodup
import Mathlib.Logic.Function.Basic
import Mathlib.Tactic.Common

/-!
# Dependency

Installing and removing things of which some require others.  A table lists,
for a thing, the things it requires.  Installing fails while a requirement is
missing, removing fails while a dependent is installed, and doing what is
already done succeeds.

Where everything that is installed has its requirements (`Closed`), a change
succeeds exactly when it leaves this so (`apply_eq_some_iff`).  `applyAll_front`
is about changes to things that require nothing, `applyAll_rest` about changes
to things that nothing requires, and `applyAll_layered` about the first
followed by the second.
-/

namespace Dependency

variable {κ : Type*}

/-- `e` requires `d`. -/
def Requires (table : List (κ × List κ)) (e d : κ) : Prop := ∃ ds, (e, ds) ∈ table ∧ d ∈ ds

/-- Everything that is installed has its requirements. -/
def Closed (table : List (κ × List κ)) (installed : κ → Bool) : Prop :=
  ∀ e d, installed e = true → Requires table e d → installed d = true

section Table

variable [DecidableEq κ] (table : List (κ × List κ))

/-- What `e` requires. -/
def requirements (e : κ) : List κ := (table.filter (·.1 = e)).flatMap Prod.snd

/-- What requires `d`. -/
def dependents (d : κ) : List κ := (table.filter (d ∈ ·.2)).map Prod.fst

variable {table}

theorem mem_requirements {e d : κ} : d ∈ requirements table e ↔ Requires table e d := by
  simp only [requirements, List.mem_flatMap, List.mem_filter, decide_eq_true_eq, Requires]
  constructor
  · rintro ⟨⟨e', ds⟩, ⟨hmem, rfl⟩, hd⟩
    exact ⟨ds, hmem, hd⟩
  · rintro ⟨ds, hmem, hd⟩
    exact ⟨(e, ds), ⟨hmem, rfl⟩, hd⟩

theorem mem_dependents {e d : κ} : e ∈ dependents table d ↔ Requires table e d := by
  simp only [dependents, List.mem_map, List.mem_filter, decide_eq_true_eq, Requires]
  constructor
  · rintro ⟨⟨e', ds⟩, ⟨hmem, hd⟩, rfl⟩
    exact ⟨ds, hmem, hd⟩
  · rintro ⟨ds, hmem, hd⟩
    exact ⟨(e, ds), ⟨hmem, hd⟩, rfl⟩

end Table

/-! ## one change -/

section Apply

variable [DecidableEq κ] {table : List (κ × List κ)} {installed : κ → Bool}

/-- Install `e`, or remove it; nothing is returned when that fails. -/
def apply (table : List (κ × List κ)) (installed : κ → Bool) (change : κ × Bool) :
    Option (κ → Bool) :=
  if installed change.1 = change.2 then some installed
  else if change.2 then
    if (requirements table change.1).all installed then
      some (Function.update installed change.1 true)
    else none
  else if (dependents table change.1).any installed then none
  else some (Function.update installed change.1 false)

/-- What a change needs: the requirements of what is installed, and no
dependents of what is removed. -/
def Possible (table : List (κ × List κ)) (installed : κ → Bool) (change : κ × Bool) : Prop :=
  (change.2 = true → ∀ d, Requires table change.1 d → installed d = true) ∧
    (change.2 = false → ∀ e, Requires table e change.1 → installed e = false)

omit [DecidableEq κ] in
/-- In a closed state, what is there may be created, and what is not may be
dropped. -/
theorem possible_of_same (h : Closed table installed) {e : κ} {b : Bool}
    (hsame : installed e = b) : Possible table installed (e, b) := by
  refine ⟨fun hb d hd => h e d (hsame.trans hb) hd, fun hb e' he' => ?_⟩
  cases hinst : installed e' with
  | false => rfl
  | true =>
      have hcontra := h e' e hinst he'
      rw [hsame.trans hb] at hcontra
      contradiction

/-- Something new is created exactly when everything that it requires is
there. -/
theorem apply_create_eq_some_iff {e : κ} (hnew : installed e ≠ true) (final : κ → Bool) :
    apply table installed (e, true) = some final ↔
      (∀ d, Requires table e d → installed d = true) ∧
        final = Function.update installed e true := by
  have hall_iff : (requirements table e).all installed = true ↔
      ∀ d, Requires table e d → installed d = true := by
    simp only [List.all_eq_true, mem_requirements]
  rw [apply, if_neg hnew]
  simp only [if_true]
  split
  · next hall =>
      rw [Option.some.injEq]
      exact ⟨fun hf => ⟨hall_iff.mp hall, hf.symm⟩, fun hf => hf.2.symm⟩
  · next hall =>
      constructor
      · intro hf
        contradiction
      · intro hf
        exact absurd (hall_iff.mpr hf.1) hall

/-- Something that is there is dropped exactly when nothing that is there
requires it. -/
theorem apply_drop_eq_some_iff {e : κ} (hthere : installed e ≠ false) (final : κ → Bool) :
    apply table installed (e, false) = some final ↔
      (∀ e', Requires table e' e → installed e' = false) ∧
        final = Function.update installed e false := by
  have hany_iff : (dependents table e).any installed = true ↔
      ∃ e', Requires table e' e ∧ installed e' = true := by
    simp only [List.any_eq_true, mem_dependents]
  rw [apply, if_neg hthere]
  simp only [Bool.false_eq_true, if_false]
  split
  · next hany =>
      constructor
      · intro hf
        contradiction
      · intro hf
        obtain ⟨e', he', hinst⟩ := hany_iff.mp hany
        rw [hf.1 e' he'] at hinst
        contradiction
  · next hany =>
      rw [Option.some.injEq]
      refine ⟨fun hf => ⟨fun e' he' => ?_, hf.symm⟩, fun hf => hf.2.symm⟩
      by_contra hinst
      exact hany (hany_iff.mpr ⟨e', he', by simpa using hinst⟩)

/-- In a closed state a change succeeds exactly when it is possible, and does
what it says. -/
theorem apply_eq_some_iff (h : Closed table installed) (change : κ × Bool)
    (final : κ → Bool) :
    apply table installed change = some final ↔
      Possible table installed change ∧ final = Function.update installed change.1 change.2 := by
  obtain ⟨e, b⟩ := change
  by_cases hsame : installed e = b
  · have hupdate : Function.update installed e b = installed := by
      rw [← hsame, Function.update_eq_self]
    rw [apply, if_pos hsame, Option.some.injEq, hupdate]
    exact ⟨fun hfinal => ⟨possible_of_same h hsame, hfinal.symm⟩, fun hfinal => hfinal.2.symm⟩
  · cases b with
    | true =>
        rw [apply_create_eq_some_iff hsame]
        simp [Possible]
    | false =>
        rw [apply_drop_eq_some_iff hsame]
        simp [Possible]

/-- A possible change keeps the state closed. -/
theorem closed_update (h : Closed table installed) {change : κ × Bool}
    (hpossible : Possible table installed change) :
    Closed table (Function.update installed change.1 change.2) := by
  obtain ⟨e, b⟩ := change
  obtain ⟨hinstall, hremove⟩ := hpossible
  intro e' d he' hreq
  by_cases hd : d = e
  · subst hd
    rw [Function.update_self]
    cases b with
    | true => rfl
    | false =>
        by_cases hsame : e' = d
        · subst hsame
          simp at he'
        · rw [Function.update_of_ne hsame, hremove rfl e' hreq] at he'
          contradiction
  · rw [Function.update_of_ne hd]
    by_cases hsame : e' = e
    · subst hsame
      rw [Function.update_self] at he'
      exact hinstall he' d hreq
    · rw [Function.update_of_ne hsame] at he'
      exact h e' d he' hreq

end Apply

/-! ## a list of changes -/

section ApplyAll

variable [DecidableEq κ] {table : List (κ × List κ)} {installed final : κ → Bool}
  {changes front rest : List (κ × Bool)}

/-- Make the changes in order, until one fails. -/
def applyAll (table : List (κ × List κ)) (installed : κ → Bool) (changes : List (κ × Bool)) :
    Option (κ → Bool) :=
  changes.foldlM (apply table) installed

/-- The state in which the changes are made, whatever is installed. -/
def overwrite (installed : κ → Bool) (changes : List (κ × Bool)) : κ → Bool :=
  changes.foldl (fun installed c => Function.update installed c.1 c.2) installed

theorem applyAll_nil : applyAll table installed [] = some installed := rfl

theorem applyAll_cons (c : κ × Bool) (cs : List (κ × Bool)) :
    applyAll table installed (c :: cs) =
      (apply table installed c).bind fun installed => applyAll table installed cs := rfl

theorem applyAll_append (cs ds : List (κ × Bool)) :
    applyAll table installed (cs ++ ds) =
      (applyAll table installed cs).bind fun installed => applyAll table installed ds := by
  unfold applyAll
  rw [List.foldlM_append]
  rfl

/-- What succeeds keeps the state closed. -/
theorem closed_applyAll (hclosed : Closed table installed)
    (h : applyAll table installed changes = some final) : Closed table final := by
  induction changes generalizing installed with
  | nil =>
      rw [applyAll_nil, Option.some.injEq] at h
      rwa [← h]
  | cons c cs ih =>
      rw [applyAll_cons, Option.bind_eq_some_iff] at h
      obtain ⟨next, hnext, hrest⟩ := h
      obtain ⟨hpossible, hupdate⟩ := (apply_eq_some_iff hclosed c next).mp hnext
      rw [hupdate] at hrest
      exact ih (closed_update hclosed hpossible) hrest

theorem overwrite_of_not_mem {e : κ} (h : e ∉ changes.map Prod.fst) :
    overwrite installed changes e = installed e := by
  induction changes generalizing installed with
  | nil => rfl
  | cons c cs ih =>
      rw [List.map_cons, List.mem_cons, not_or] at h
      rw [overwrite, List.foldl_cons]
      exact (ih h.2).trans (Function.update_of_ne h.1 _ _)

/-- A change that is listed is made. -/
theorem overwrite_of_mem (hnodup : (changes.map Prod.fst).Nodup) {e : κ} {b : Bool}
    (h : (e, b) ∈ changes) : overwrite installed changes e = b := by
  induction changes generalizing installed with
  | nil => contradiction
  | cons c cs ih =>
      rw [List.map_cons, List.nodup_cons] at hnodup
      rw [overwrite, List.foldl_cons]
      rcases List.mem_cons.mp h with rfl | hmem
      · exact (overwrite_of_not_mem hnodup.1).trans (Function.update_self _ _ _)
      · exact ih hnodup.2 hmem

/-- Changes to things that require nothing succeed exactly when nothing
installed requires what they remove. -/
theorem applyAll_front (hclosed : Closed table installed)
    (hflat : ∀ c ∈ changes, ∀ d, ¬ Requires table c.1 d) :
    applyAll table installed changes = some final ↔
      (∀ c ∈ changes, c.2 = false → ∀ e, Requires table e c.1 → installed e = false) ∧
        final = overwrite installed changes := by
  induction changes generalizing installed with
  | nil =>
      rw [applyAll_nil, Option.some.injEq]
      constructor
      · intro h
        exact ⟨by simp, h.symm⟩
      · intro h
        exact h.2.symm
  | cons c cs ih =>
      rw [List.forall_mem_cons] at hflat
      rw [applyAll_cons, List.forall_mem_cons, Option.bind_eq_some_iff]
      have hpossible : Possible table installed c ↔
          (c.2 = false → ∀ e, Requires table e c.1 → installed e = false) := by
        constructor
        · intro h
          exact h.2
        · intro h
          exact ⟨fun _ d hd => absurd hd (hflat.1 d), h⟩
      -- what requires something is not itself changed here
      have hne (d e : κ) (he : Requires table e d) :
          Function.update installed c.1 c.2 e = installed e := by
        refine Function.update_of_ne ?_ _ _
        rintro rfl
        exact hflat.1 _ he
      have hkept : (∀ c' ∈ cs, c'.2 = false → ∀ e, Requires table e c'.1 →
          Function.update installed c.1 c.2 e = false) ↔
          (∀ c' ∈ cs, c'.2 = false → ∀ e, Requires table e c'.1 → installed e = false) := by
        refine forall₂_congr fun c' _ => forall_congr' fun _ => forall₂_congr fun e he => ?_
        rw [hne c'.1 e he]
      constructor
      · rintro ⟨next, hnext, hrest⟩
        obtain ⟨hc, rfl⟩ := (apply_eq_some_iff hclosed c next).mp hnext
        obtain ⟨hcs, hfinal⟩ := (ih (closed_update hclosed hc) hflat.2).mp hrest
        exact ⟨⟨hpossible.mp hc, hkept.mp hcs⟩, hfinal⟩
      · rintro ⟨⟨hc, hcs⟩, hfinal⟩
        have hc' := hpossible.mpr hc
        refine ⟨_, (apply_eq_some_iff hclosed c _).mpr ⟨hc', rfl⟩, ?_⟩
        exact (ih (closed_update hclosed hc') hflat.2).mpr ⟨hkept.mpr hcs, hfinal⟩

/-- Changes to things that nothing requires succeed when the requirements of
what they install are there. -/
theorem applyAll_rest (hclosed : Closed table installed)
    (hleaf : ∀ c ∈ changes, ∀ e, ¬ Requires table e c.1)
    (hthere : ∀ c ∈ changes, c.2 = true → ∀ d, Requires table c.1 d → installed d = true) :
    applyAll table installed changes = some (overwrite installed changes) := by
  induction changes generalizing installed with
  | nil => rfl
  | cons c cs ih =>
      rw [List.forall_mem_cons] at hleaf hthere
      have hpossible : Possible table installed c :=
        ⟨hthere.1, fun _ e he => absurd he (hleaf.1 e)⟩
      rw [applyAll_cons, (apply_eq_some_iff hclosed c _).mpr ⟨hpossible, rfl⟩, Option.bind_some]
      refine ih (closed_update hclosed hpossible) hleaf.2 fun c' hc' hb d hd => ?_
      have hne : d ≠ c.1 := by
        rintro rfl
        exact hleaf.1 _ hd
      rw [Function.update_of_ne hne]
      exact hthere.2 c' hc' hb d hd

/-- Changes to things that require nothing, then changes to things that nothing
requires: all succeed exactly when nothing installed requires what the first
ones remove. -/
theorem applyAll_layered (hclosed : Closed table installed)
    (hflat : ∀ c ∈ front, ∀ d, ¬ Requires table c.1 d)
    (hleaf : ∀ c ∈ rest, ∀ e, ¬ Requires table e c.1)
    (hthere : ∀ c ∈ rest, c.2 = true → ∀ d, Requires table c.1 d →
      overwrite installed front d = true) :
    applyAll table installed (front ++ rest) = some final ↔
      (∀ c ∈ front, c.2 = false → ∀ e, Requires table e c.1 → installed e = false) ∧
        final = overwrite installed (front ++ rest) := by
  have happend : overwrite installed (front ++ rest) =
      overwrite (overwrite installed front) rest := List.foldl_append
  rw [applyAll_append, Option.bind_eq_some_iff, happend]
  constructor
  · rintro ⟨middle, hfront, hrest⟩
    obtain ⟨hcondition, hmiddle⟩ := (applyAll_front hclosed hflat).mp hfront
    have hmiddle_closed := closed_applyAll hclosed hfront
    rw [hmiddle] at hrest hmiddle_closed
    rw [applyAll_rest hmiddle_closed hleaf hthere, Option.some.injEq] at hrest
    exact ⟨hcondition, hrest.symm⟩
  · rintro ⟨hcondition, rfl⟩
    have hfront : applyAll table installed front = some (overwrite installed front) :=
      (applyAll_front hclosed hflat).mpr ⟨hcondition, rfl⟩
    exact ⟨_, hfront, applyAll_rest (closed_applyAll hclosed hfront) hleaf hthere⟩

end ApplyAll

end Dependency
