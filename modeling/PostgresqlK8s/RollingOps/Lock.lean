import PostgresqlK8s.Lib.Run

/-!
# RollingOps.Lock

The lock that the units of an application share through a peer relation, so
that they restart one after the other.  A unit asks for the lock and gives it
back in its own databag; the leader grants it and takes it back in the databag
of the application.

A hook reads the databags as they were when it started, and what it writes is
seen by the others when it has ended.  Hooks of different units overlap, and
the callback runs while its hook does.
-/

namespace PostgresqlK8s.RollingOps

/-! ## the databags -/

/-- `LockState`. -/
inductive LockState
  | acquire | release | granted | idle
deriving DecidableEq, Repr

/-- The databags of the relation, as a hook has them. -/
structure LockData where
  /-- `state` in the databag of each unit. -/
  unit : Nat → LockState
  /-- The databag of the application, which has an entry for each unit. -/
  app : Nat → LockState

namespace LockData

/-- `Lock._state`. -/
def state (d : LockData) (u : Nat) : LockState :=
  if d.app u = .granted ∧ d.unit u = .release then .release
  else if d.app u = .idle ∧ d.unit u = .acquire then .acquire
  else d.app u

/-- `Lock.acquire`. -/
def acquire (d : LockData) (u : Nat) : LockData :=
  { d with unit := Function.update d.unit u .acquire }

/-- `Lock.release`. -/
def release (d : LockData) (u : Nat) : LockData :=
  { d with unit := Function.update d.unit u .release }

/-- `Lock.clear`. -/
def clear (d : LockData) (u : Nat) : LockData :=
  { d with app := Function.update d.app u .idle }

/-- `Lock.grant`. -/
def grant (d : LockData) (u : Nat) : LockData :=
  { d with app := Function.update d.app u .granted }

/-- `is_held`. -/
def IsHeld (d : LockData) (u : Nat) : Prop := d.state u = .granted

/-- `release_requested`. -/
def ReleaseRequested (d : LockData) (u : Nat) : Prop := d.state u = .release

/-- `is_pending`. -/
def IsPending (d : LockData) (u : Nat) : Prop := d.state u = .acquire

instance (d : LockData) (u : Nat) : Decidable (d.IsHeld u) := inferInstanceAs (Decidable (_ = _))
instance (d : LockData) (u : Nat) : Decidable (d.ReleaseRequested u) :=
  inferInstanceAs (Decidable (_ = _))
instance (d : LockData) (u : Nat) : Decidable (d.IsPending u) :=
  inferInstanceAs (Decidable (_ = _))

end LockData

/-! ## the handlers -/

/-- The loop of `_on_process_locks` at the unit `self`: the pending locks, or
nothing where it returns because a lock is held. -/
def processLoop (self : Nat) : List Nat → LockData → List Nat → LockData × Option (List Nat)
  | [], d, pending => (d, some pending)
  | u :: units, d, pending =>
    if d.IsHeld u then (d, none)
    else
      let d := if d.ReleaseRequested u then d.clear u else d
      let pending :=
        if d.IsPending u then
          if u = self then u :: pending else pending ++ [u]
        else pending
      processLoop self units d pending

/-- `_on_process_locks` at the leader, up to the grant, and the unit that gets
it: `pending[-1]`. -/
def processLocks (self : Nat) (units : List Nat) (d : LockData) : LockData × Option Nat :=
  match processLoop self units d [] with
  | (d, none) => (d, none)
  | (d, some pending) =>
    match pending.getLast? with
    | none => (d, none)
    | some u => (d.grant u, some u)

/-- `_on_run_with_lock`, after the callback.  The leader does not grant the lock
to itself there. -/
def onRunWithLock (isLeader : Bool) (self : Nat) (units : List Nat) (d : LockData) : LockData :=
  let d := d.release self
  if isLeader then (processLocks self units d).1 else d

/-- `_on_process_locks`, and whether the callback runs. -/
def onProcessLocks (isLeader : Bool) (self : Nat) (units : List Nat) (d : LockData) :
    LockData × Bool :=
  if !isLeader then (d, false)
  else
    match processLocks self units d with
    | (d, none) => (d, false)
    | (d, some u) => if u = self then (onRunWithLock isLeader self units d, true) else (d, false)

/-- `_on_relation_changed`. -/
def onRelationChanged (isLeader : Bool) (self : Nat) (units : List Nat) (d : LockData) :
    LockData × Bool :=
  if d.IsHeld self then
    let d := onRunWithLock isLeader self units d
    if isLeader then ((onProcessLocks isLeader self units d).1, true) else (d, true)
  else onProcessLocks isLeader self units d

/-- `_on_acquire_lock`, which emits `relation_changed`. -/
def onAcquireLock (isLeader : Bool) (self : Nat) (units : List Nat) (d : LockData) :
    LockData × Bool :=
  onRelationChanged isLeader self units (d.acquire self)

/-! ## the hooks -/

/-- The event that a hook handles. -/
inductive LockEvent
  | relationChanged
  | acquireLock
  | leaderElected
  /-- The event of the callback, which the callback deferred. -/
  | runWithLock
deriving DecidableEq

/-- What a hook does with the databags; `units` are the units of the relation and
then the unit itself. -/
def LockEvent.handle (isLeader : Bool) (self : Nat) (units : List Nat) (d : LockData) :
    LockEvent → LockData × Bool
  | .relationChanged => onRelationChanged isLeader self units d
  | .acquireLock => onAcquireLock isLeader self units d
  | .leaderElected => onProcessLocks isLeader self units d
  | .runWithLock => (onRunWithLock isLeader self units d, true)

/-- A hook that has not ended. -/
structure Hook where
  /-- The databags as the hook leaves them. -/
  data : LockData
  runsCallback : Bool
  isLeader : Bool

/-- The application. -/
structure Peers where
  data : LockData
  leader : Nat
  hook : Nat → Option Hook

inductive HookEvent
  /-- A hook of unit `u` starts; `others` are the units of the relation. -/
  | starts (u : Nat) (e : LockEvent) (others : List Nat)
  | ends (u : Nat)
  /-- The callback raises, and nothing is written. -/
  | fails (u : Nat)
  | elected (u : Nat)

namespace Peers

/-- What is seen of a hook that has ended: only the leader writes the databag of
the application. -/
def write (s : Peers) (u : Nat) (h : Hook) : LockData where
  unit := Function.update s.data.unit u (h.data.unit u)
  app := if h.isLeader then h.data.app else s.data.app

def next (n : Nat) (s : Peers) : HookEvent → Peers
  | .starts u e others =>
    if u < n ∧ s.hook u = none then
      let isLeader := decide (s.leader = u)
      let handled := e.handle isLeader u (others ++ [u]) s.data
      { s with hook := Function.update s.hook u (some ⟨handled.1, handled.2, isLeader⟩) }
    else s
  | .ends u =>
    match s.hook u with
    | none => s
    | some h => { s with data := s.write u h, hook := Function.update s.hook u none }
  | .fails u => { s with hook := Function.update s.hook u none }
  | .elected u => if u < n then { s with leader := u } else s

/-- The callback runs at the unit. -/
def Runs (s : Peers) (u : Nat) : Prop := ∃ h, s.hook u = some h ∧ h.runsCallback = true

end Peers

/-! ## what the state of a lock says -/

namespace LockData

/-- The entries of the application are `granted` or `idle`. -/
def AppOk (d : LockData) : Prop := ∀ u, d.app u = .granted ∨ d.app u = .idle

variable {d : LockData} {u v : Nat}

/-- A lock is held while it is granted and not yet given back. -/
theorem isHeld_iff : d.AppOk → (d.IsHeld u ↔ d.app u = .granted ∧ d.unit u ≠ .release) := by
  intro h
  unfold IsHeld state
  obtain happ | happ := h u <;> cases hunit : d.unit u <;> simp [happ]

/-- A lock that was granted and is given back is to be cleared. -/
theorem releaseRequested_iff :
    d.AppOk → (d.ReleaseRequested u ↔ d.app u = .granted ∧ d.unit u = .release) := by
  intro h
  unfold ReleaseRequested state
  obtain happ | happ := h u <;> cases hunit : d.unit u <;> simp [happ]

/-- A lock is pending while the unit asks and the application is silent. -/
theorem isPending_iff : d.AppOk → (d.IsPending u ↔ d.app u = .idle ∧ d.unit u = .acquire) := by
  intro h
  unfold IsPending state
  obtain happ | happ := h u <;> cases hunit : d.unit u <;> simp [happ]

@[simp] theorem acquire_app : (d.acquire u).app = d.app := rfl
@[simp] theorem release_app : (d.release u).app = d.app := rfl
@[simp] theorem clear_unit : (d.clear u).unit = d.unit := rfl
@[simp] theorem grant_unit : (d.grant u).unit = d.unit := rfl

@[simp] theorem acquire_unit_self : (d.acquire u).unit u = .acquire := Function.update_self ..
@[simp] theorem release_unit_self : (d.release u).unit u = .release := Function.update_self ..
@[simp] theorem clear_app_self : (d.clear u).app u = .idle := Function.update_self ..
@[simp] theorem grant_app_self : (d.grant u).app u = .granted := Function.update_self ..

theorem acquire_unit_of_ne (h : v ≠ u) : (d.acquire u).unit v = d.unit v :=
  Function.update_of_ne h ..

theorem release_unit_of_ne (h : v ≠ u) : (d.release u).unit v = d.unit v :=
  Function.update_of_ne h ..

theorem clear_app_of_ne (h : v ≠ u) : (d.clear u).app v = d.app v := Function.update_of_ne h ..

theorem grant_app_of_ne (h : v ≠ u) : (d.grant u).app v = d.app v := Function.update_of_ne h ..

/-- Clearing leaves the entries of the application well formed. -/
theorem AppOk.clear (h : d.AppOk) : (d.clear u).AppOk := by
  intro v
  obtain rfl | hne := eq_or_ne v u
  · exact .inr clear_app_self
  · rw [clear_app_of_ne hne]
    exact h v

/-- No unit holds the lock. -/
def Free (d : LockData) : Prop := ∀ u, d.app u = .granted → d.unit u = .release

/-- At most one unit is granted the lock. -/
def Single (d : LockData) : Prop := ∀ u v, d.app u = .granted → d.app v = .granted → u = v

/-- No unit holds a lock of a free relation. -/
theorem Free.not_isHeld (h : d.Free) (hok : d.AppOk) : ¬d.IsHeld u := by
  rw [isHeld_iff hok]
  exact fun hheld => hheld.2 (h u hheld.1)

end LockData

/-! ## what a pass over the locks does -/

section Pass

variable {d d' : LockData} {self u v : Nat} {units pending pending' : List Nat}

/-- A lock that is held ends the pass, which has not changed anything then. -/
theorem processLoop_of_isHeld (hok : d.AppOk) (hsingle : d.Single) (hu : u ∈ units)
    (hheld : d.IsHeld u) : processLoop self units d pending = (d, none) := by
  induction units generalizing pending with
  | nil => cases hu
  | cons v units ih =>
    rw [processLoop]
    split
    · rfl
    · next hv =>
        have hne : u ≠ v := by
          rintro rfl
          exact hv hheld
        have hrelease : ¬d.ReleaseRequested v := by
          rw [LockData.releaseRequested_iff hok]
          intro hrelease
          exact hne (hsingle u v ((LockData.isHeld_iff hok).mp hheld).1 hrelease.1)
        simp only [if_neg hrelease]
        exact ih ((List.mem_cons.mp hu).resolve_left hne)

variable (self units pending) in
/-- The entries of the application after a pass that no lock ends. -/
theorem processLoop_of_free (hok : d.AppOk) (hfree : d.Free) :
    ∃ d' pending', processLoop self units d pending = (d', some pending') ∧ d'.unit = d.unit ∧
      (∀ u, u ∈ units → d'.app u = .idle) ∧ (∀ u, u ∉ units → d'.app u = d.app u) ∧
      ∀ u, u ∈ pending' ↔ u ∈ pending ∨ u ∈ units ∧ d.IsPending u := by
  induction units generalizing d pending with
  | nil => exact ⟨d, pending, rfl, rfl, by simp, by simp, by simp⟩
  | cons v units ih =>
    rw [processLoop, if_neg (hfree.not_isHeld hok)]
    -- the lock of `v` is idle after its turn
    obtain ⟨d₁, hd₁, hunit₁, happ₁, hothers₁⟩ : ∃ d₁,
        (if d.ReleaseRequested v then d.clear v else d) = d₁ ∧ d₁.unit = d.unit ∧
          d₁.app v = .idle ∧ ∀ u, u ≠ v → d₁.app u = d.app u := by
      split
      · exact ⟨_, rfl, rfl, LockData.clear_app_self, fun u hu => LockData.clear_app_of_ne hu⟩
      · next hrelease =>
          refine ⟨d, rfl, rfl, ?_, fun _ _ => rfl⟩
          refine (hok v).resolve_left fun hgranted => hrelease ?_
          rw [LockData.releaseRequested_iff hok]
          exact ⟨hgranted, hfree v hgranted⟩
    have hok₁ : d₁.AppOk := by
      intro u
      obtain rfl | hne := eq_or_ne u v
      · exact .inr happ₁
      · rw [hothers₁ u hne]
        exact hok u
    have hfree₁ : d₁.Free := by
      intro u hu
      obtain rfl | hne := eq_or_ne u v
      · rw [happ₁] at hu
        cases hu
      · rw [hothers₁ u hne] at hu
        rw [hunit₁]
        exact hfree u hu
    have hpending₁ : ∀ u, d₁.IsPending u ↔ d.IsPending u := by
      intro u
      rw [LockData.isPending_iff hok₁, LockData.isPending_iff hok, hunit₁]
      obtain rfl | hne := eq_or_ne u v
      · rw [happ₁]
        refine ⟨fun h => ⟨(hok u).resolve_left fun hgranted => ?_, h.2⟩, fun h => ⟨rfl, h.2⟩⟩
        rw [hfree u hgranted] at h
        cases h.2
      · rw [hothers₁ u hne]
    simp only [hd₁]
    obtain ⟨d', pending', hloop, hunit, hidle, hkeep, hmem⟩ := ih
      (if d₁.IsPending v then if v = self then v :: pending else pending ++ [v] else pending)
      hok₁ hfree₁
    refine ⟨d', pending', hloop, hunit.trans hunit₁, fun u hu => ?_, fun u hu => ?_, fun u => ?_⟩
    · by_cases hmem' : u ∈ units
      · exact hidle u hmem'
      · obtain rfl := (List.mem_cons.mp hu).resolve_right hmem'
        rw [hkeep u hmem', happ₁]
    · rw [List.mem_cons, not_or] at hu
      rw [hkeep u hu.2, hothers₁ u hu.1]
    · simp only [hmem, hpending₁, List.mem_cons]
      split
      · next hpending =>
          have hturn : u ∈ (if v = self then v :: pending else pending ++ [v]) ↔
              u = v ∨ u ∈ pending := by
            split
            · exact List.mem_cons
            · rw [List.mem_append, List.mem_singleton, or_comm]
          rw [hturn]
          constructor
          · rintro ((rfl | hu) | hu)
            · exact .inr ⟨.inl rfl, hpending⟩
            · exact .inl hu
            · exact .inr ⟨.inr hu.1, hu.2⟩
          · rintro (hu | ⟨rfl | hu, hpending'⟩)
            · exact .inl (.inr hu)
            · exact .inl (.inl rfl)
            · exact .inr ⟨hu, hpending'⟩
      · next hpending =>
          constructor
          · rintro (hu | hu)
            · exact .inl hu
            · exact .inr ⟨.inr hu.1, hu.2⟩
          · rintro (hu | ⟨rfl | hu, hpending'⟩)
            · exact .inl hu
            · exact absurd hpending' hpending
            · exact .inr ⟨hu, hpending'⟩

/-- The own lock stands before the others. -/
def OwnFirst (self : Nat) (pending : List Nat) : Prop :=
  ∃ k others, pending = List.replicate k self ++ others ∧ self ∉ others

/-- The unit itself stays first, wherever the next one is put. -/
theorem OwnFirst.turn (h : OwnFirst self pending) (p : Prop) [Decidable p] :
    OwnFirst self (if p then if u = self then u :: pending else pending ++ [u] else pending) := by
  obtain ⟨k, others, heq, hself⟩ := h
  split
  · split
    · next hu => exact ⟨k + 1, others, by rw [heq, hu, List.replicate_succ]; rfl, hself⟩
    · next hu =>
        refine ⟨k, others ++ [u], by rw [heq, List.append_assoc], ?_⟩
        rw [List.mem_append, List.mem_singleton, not_or]
        exact ⟨hself, fun heq => hu heq.symm⟩
  · exact ⟨k, others, heq, hself⟩

/-- The loop collects the pending locks with the unit itself first. -/
theorem ownFirst_of_processLoop (hpending : OwnFirst self pending)
    (h : processLoop self units d pending = (d', some pending')) : OwnFirst self pending' := by
  induction units generalizing d pending with
  | nil =>
    cases h
    exact hpending
  | cons u units ih =>
    rw [processLoop] at h
    split at h
    · cases h
    · exact ih (hpending.turn _) h

/-- The own lock is at the end only where no other is pending. -/
theorem OwnFirst.getLast (h : OwnFirst self pending) (hlast : pending.getLast? = some self) :
    ∀ u ∈ pending, u = self := by
  obtain ⟨k, others, rfl, hself⟩ := h
  obtain rfl | ⟨us, u, rfl⟩ := others.eq_nil_or_concat'
  · intro u hu
    rw [List.append_nil] at hu
    exact List.eq_of_mem_replicate hu
  · rw [← List.append_assoc, List.getLast?_concat, Option.some.injEq] at hlast
    rw [hlast] at hself
    simp at hself

/-- While a unit holds its lock, nothing is granted. -/
theorem processLocks_of_isHeld (hok : d.AppOk) (hsingle : d.Single) (hu : u ∈ units)
    (hheld : d.IsHeld u) : processLocks self units d = (d, none) := by
  rw [processLocks, processLoop_of_isHeld hok hsingle hu hheld]

variable (self units) in
/-- **A pass over free locks** grants one that is pending, if there is any, and
the own one only where no other is. -/
theorem processLocks_of_free (hok : d.AppOk) (hfree : d.Free)
    (hunits : ∀ u, d.app u = .granted → u ∈ units) :
    ∃ d' granted, processLocks self units d = (d', granted) ∧ d'.unit = d.unit ∧ d'.AppOk ∧
      (∀ u, d'.app u = .granted ↔ granted = some u) ∧
      (∀ u, granted = some u → u ∈ units ∧ d.IsPending u) ∧
      (granted = some self → ∀ u ∈ units, d.IsPending u → u = self) ∧
      (granted = none → ∀ u ∈ units, ¬d.IsPending u) := by
  obtain ⟨d₁, pending, hloop, hunit, hidle, hkeep, hmem⟩ :=
    processLoop_of_free self units [] hok hfree
  have hown : OwnFirst self pending :=
    ownFirst_of_processLoop ⟨0, [], rfl, List.not_mem_nil⟩ hloop
  have hidle₁ : ∀ u, d₁.app u = .idle := by
    intro u
    by_cases hu : u ∈ units
    · exact hidle u hu
    · rw [hkeep u hu]
      exact (hok u).resolve_left fun hgranted => hu (hunits u hgranted)
  simp only [List.not_mem_nil, false_or] at hmem
  cases hlast : pending.getLast? with
  | none =>
    have hpass : processLocks self units d = (d₁, none) := by
      rw [processLocks, hloop]
      simp only [hlast]
    rw [List.getLast?_eq_none_iff] at hlast
    refine ⟨d₁, none, hpass, hunit, fun u => .inr (hidle₁ u), fun u => ?_, nofun, nofun,
      fun _ u hu hpending => ?_⟩
    · simp [hidle₁ u]
    · have hu := (hmem u).mpr ⟨hu, hpending⟩
      rw [hlast] at hu
      cases hu
  | some w =>
    have hpass : processLocks self units d = (d₁.grant w, some w) := by
      rw [processLocks, hloop]
      simp only [hlast]
    have hw := (hmem w).mp (List.mem_of_getLast? hlast)
    refine ⟨d₁.grant w, some w, hpass, hunit, fun u => ?_, fun u => ?_, ?_, ?_, nofun⟩
    · obtain rfl | hne := eq_or_ne u w
      · exact .inl LockData.grant_app_self
      · rw [LockData.grant_app_of_ne hne]
        exact .inr (hidle₁ u)
    · obtain rfl | hne := eq_or_ne u w
      · simp
      · simp [LockData.grant_app_of_ne hne, hidle₁ u, hne.symm]
    · rintro u ⟨⟩
      exact hw
    · rintro ⟨⟩ u hu hpending
      exact hown.getLast hlast u ((hmem u).mpr ⟨hu, hpending⟩)

end Pass

end PostgresqlK8s.RollingOps
