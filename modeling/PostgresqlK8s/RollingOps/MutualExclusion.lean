import PostgresqlK8s.RollingOps.Lock

/-!
# RollingOps.MutualExclusion

At most one unit runs the callback at a time, in any interleaving of the hooks,
where three things do not happen:

* a unit asks for the lock again after it has given it back and before the
  leader has taken it back: it still finds the lock granted;
* the callback defers its event, which is delivered again without the lock;
* the leader changes while the old or the new one is in a hook.
-/

namespace PostgresqlK8s.RollingOps

open Machine

/-! ## the outcome of a hook -/

/-- What the unit `me` has done to the databags `d`, and with its own state if
the callback has not run. -/
structure Outcome (isLeader : Bool) (me : Nat) (units : List Nat) (own : LockState)
    (d d' : LockData) (ran : Bool) : Prop where
  others : ∀ u, u ≠ me → d'.unit u = d.unit u
  own : d'.unit me = if ran then .release else own
  ok : d'.AppOk
  single : d'.Single
  runs : ran = true → d.IsHeld me ∨ isLeader = true ∧ d.Free
  kept : ∀ u, d.app u = .granted → d'.app u ≠ .granted →
    d.unit u = .release ∨ u = me ∧ ran = true
  new : ∀ u, d'.app u = .granted → d.app u ≠ .granted → u ≠ me ∧ u ∈ units ∧
    d.unit u = .acquire ∧ (d.Free ∨ ran = true ∧ d.IsHeld me)

variable {d d' d'' : LockData} {me u v n : Nat} {units : List Nat} {isLeader ran ran' : Bool}
  {own : LockState}

theorem Outcome.refl (hok : d.AppOk) (hsingle : d.Single) :
    Outcome isLeader me units (d.unit me) d d false where
  others _ _ := rfl
  own := rfl
  ok := hok
  single := hsingle
  runs := nofun
  kept _ h h' := absurd h h'
  new _ h h' := absurd h h'

/-- The lock of a pass has been granted to at most one unit. -/
theorem single_of_iff {granted : Option Nat} (h : ∀ u, d.app u = .granted ↔ granted = some u) :
    d.Single := by
  intro u v hu hv
  have heq := ((h u).mp hu).symm.trans ((h v).mp hv)
  exact Option.some.inj heq

/-- A lock is held, or all are free. -/
theorem isHeld_or_free (hok : d.AppOk) (hunits : ∀ u, d.app u = .granted → u ∈ units) :
    (∃ u ∈ units, d.IsHeld u) ∨ d.Free := by
  by_cases h : ∃ u ∈ units, d.IsHeld u
  · exact .inl h
  · refine .inr fun u hu => ?_
    by_contra hrelease
    exact h ⟨u, hunits u hu, (LockData.isHeld_iff hok).mpr ⟨hu, hrelease⟩⟩

/-- A unit that holds the lock gives it back. -/
theorem Outcome.release (hok : d.AppOk) (hsingle : d.Single) (hheld : d.IsHeld me) :
    Outcome isLeader me units own d (d.release me) true where
  others _ hu := LockData.release_unit_of_ne hu
  own := LockData.release_unit_self
  ok := hok
  single := hsingle
  runs _ := .inl hheld
  kept _ h h' := absurd h h'
  new _ h h' := absurd h h'

/-- The databags of a unit that has just run are free, and the pass that follows
does not grant it the lock. -/
theorem outcome_onRunWithLock (hok : d.AppOk) (hme : me ∈ units)
    (hgranted : ∀ u, d.app u = .granted → u = me) :
    ∃ d', onRunWithLock true me units d = d' ∧ d'.AppOk ∧ d'.Single ∧
      (∀ u, u ≠ me → d'.unit u = d.unit u) ∧ d'.unit me = .release ∧
      ∀ u, d'.app u = .granted → u ≠ me ∧ u ∈ units ∧ d.unit u = .acquire := by
  have hfree : (d.release me).Free := by
    intro u hu
    obtain rfl := hgranted u hu
    exact LockData.release_unit_self
  have hok' : (d.release me).AppOk := hok
  obtain ⟨d', granted, hpass, hunit, hok'', hiff, hmem, -⟩ :=
    processLocks_of_free me units hok' hfree fun u hu => by
      rw [hgranted u hu]
      exact hme
  refine ⟨d', ?_, hok'', single_of_iff hiff, fun u hu => ?_, ?_, fun u hu => ?_⟩
  · rw [onRunWithLock, if_pos rfl, hpass]
  · rw [hunit, LockData.release_unit_of_ne hu]
  · rw [hunit, LockData.release_unit_self]
  · obtain ⟨hu, hpending⟩ := hmem u ((hiff u).mp hu)
    obtain ⟨-, hacquire⟩ := (LockData.isPending_iff hok').mp hpending
    have hne : u ≠ me := by
      rintro rfl
      rw [LockData.release_unit_self] at hacquire
      cases hacquire
    rw [LockData.release_unit_of_ne hne] at hacquire
    exact ⟨hne, hu, hacquire⟩

/-- `_on_process_locks`. -/
theorem outcome_onProcessLocks (hok : d.AppOk) (hsingle : d.Single) (hme : me ∈ units)
    (hunits : ∀ u, d.app u = .granted → u ∈ units) :
    Outcome isLeader me units (d.unit me) d (onProcessLocks isLeader me units d).1
      (onProcessLocks isLeader me units d).2 := by
  cases isLeader with
  | false => exact .refl hok hsingle
  | true =>
    obtain ⟨u, hu, hheld⟩ | hfree := isHeld_or_free hok hunits
    · simp only [onProcessLocks, processLocks_of_isHeld hok hsingle hu hheld]
      exact .refl hok hsingle
    · obtain ⟨d₁, granted, hpass, hunit, hok₁, hiff, hmem, -⟩ :=
        processLocks_of_free me units hok hfree hunits
      -- what is granted was pending, and was not granted before
      have hnew : ∀ u, granted = some u → u ∈ units ∧ d.unit u = .acquire := fun u hu =>
        ⟨(hmem u hu).1, ((LockData.isPending_iff hok).mp (hmem u hu).2).2⟩
      simp only [onProcessLocks, hpass, Bool.not_true, Bool.false_eq_true, if_false]
      cases granted with
      | none =>
        refine ⟨fun u _ => congrFun hunit u, congrFun hunit me, hok₁, single_of_iff hiff, nofun,
          fun u hu _ => .inl (hfree u hu), fun u hu => ?_⟩
        cases (hiff u).mp hu
      | some w =>
        simp only
        split
        · next hw =>
          subst hw
          obtain ⟨d₂, hrun, hok₂, hsingle₂, hothers₂, hown₂, hgranted₂⟩ :=
            outcome_onRunWithLock hok₁ hme fun u hu => (Option.some.inj ((hiff u).mp hu)).symm
          rw [hrun]
          refine ⟨fun u hu => (hothers₂ u hu).trans (congrFun hunit u), hown₂, hok₂, hsingle₂,
            fun _ => .inr ⟨rfl, hfree⟩, fun u hu _ => .inl (hfree u hu), fun u hu _ => ?_⟩
          obtain ⟨hne, hu, hacquire⟩ := hgranted₂ u hu
          exact ⟨hne, hu, (congrFun hunit u).symm.trans hacquire, .inl hfree⟩
        · next hw =>
          refine ⟨fun u _ => congrFun hunit u, congrFun hunit me, hok₁, single_of_iff hiff, nofun,
            fun u hu _ => .inl (hfree u hu), fun u hu _ => ?_⟩
          obtain rfl := Option.some.inj ((hiff u).mp hu)
          exact ⟨hw, (hnew w rfl).1, (hnew w rfl).2, .inl hfree⟩

/-- A pass after a run. -/
theorem Outcome.trans (hheld : d.IsHeld me) (h : Outcome isLeader me units own d d' true)
    (h' : Outcome isLeader me units (d'.unit me) d' d'' ran) :
    Outcome isLeader me units own d d'' true where
  others u hu := (h'.others u hu).trans (h.others u hu)
  own := by
    rw [h'.own, h.own]
    cases ran <;> rfl
  ok := h'.ok
  single := h'.single
  runs _ := .inl hheld
  kept u hu hu' := by
    by_cases hmid : d'.app u = .granted
    · obtain hrelease | ⟨heq, -⟩ := h'.kept u hmid hu'
      · by_cases heq : u = me
        · exact .inr ⟨heq, rfl⟩
        · exact .inl ((h.others u heq).symm.trans hrelease)
      · exact .inr ⟨heq, rfl⟩
    · exact h.kept u hu hmid
  new u hu hu' := by
    by_cases hmid : d'.app u = .granted
    · exact h.new u hmid hu'
    · obtain ⟨hne, hunits, hacquire, -⟩ := h'.new u hu hmid
      exact ⟨hne, hunits, (h.others u hne).symm.trans hacquire, .inr ⟨rfl, hheld⟩⟩

variable (me isLeader) in
/-- `_on_relation_changed`. -/
theorem outcome_onRelationChanged (hok : d.AppOk) (hsingle : d.Single) (hme : me ∈ units)
    (hunits : ∀ u, d.app u = .granted → u ∈ units) :
    Outcome isLeader me units (d.unit me) d (onRelationChanged isLeader me units d).1
      (onRelationChanged isLeader me units d).2 := by
  unfold onRelationChanged
  split
  · next hheld =>
    have hgranted : ∀ u, d.app u = .granted → u = me := fun u hu =>
      hsingle u me hu ((LockData.isHeld_iff hok).mp hheld).1
    cases isLeader with
    | false => exact .release hok hsingle hheld
    | true =>
      obtain ⟨d₁, hrun, hok₁, hsingle₁, hothers₁, hown₁, hgranted₁⟩ :=
        outcome_onRunWithLock hok hme hgranted
      have hfirst : Outcome true me units (d.unit me) d d₁ true :=
        ⟨hothers₁, hown₁, hok₁, hsingle₁, fun _ => .inl hheld,
          fun u hu _ => .inr ⟨hgranted u hu, rfl⟩, fun u hu _ =>
            have hu := hgranted₁ u hu
            ⟨hu.1, hu.2.1, hu.2.2, .inr ⟨rfl, hheld⟩⟩⟩
      simp only [hrun, if_true]
      exact hfirst.trans hheld
        (outcome_onProcessLocks hok₁ hsingle₁ hme fun u hu => (hgranted₁ u hu).2.1)
  · exact outcome_onProcessLocks hok hsingle hme hunits

/-- `_on_acquire_lock` at a unit whose last lock has been taken back. -/
theorem outcome_onAcquireLock (hok : d.AppOk) (hsingle : d.Single) (hme : me ∈ units)
    (hunits : ∀ u, d.app u = .granted → u ∈ units)
    (hback : ¬(d.app me = .granted ∧ d.unit me = .release)) :
    Outcome isLeader me units .acquire d (onAcquireLock isLeader me units d).1
      (onAcquireLock isLeader me units d).2 := by
  have hok' : (d.acquire me).AppOk := hok
  have h := outcome_onRelationChanged me isLeader hok' hsingle hme hunits
  rw [LockData.acquire_unit_self] at h
  have hheld : (d.acquire me).IsHeld me → d.IsHeld me := by
    rw [LockData.isHeld_iff hok', LockData.isHeld_iff hok]
    exact fun hheld => ⟨hheld.1, fun hrelease => hback ⟨hheld.1, hrelease⟩⟩
  have hunit : ∀ u, u ≠ me → (d.acquire me).unit u = d.unit u := fun u hu =>
    LockData.acquire_unit_of_ne hu
  have hfree : (d.acquire me).Free → d.Free := by
    intro hfree u hu
    have hrelease := hfree u hu
    obtain rfl | hne := eq_or_ne u me
    · rw [LockData.acquire_unit_self] at hrelease
      cases hrelease
    · exact (hunit u hne).symm.trans hrelease
  refine ⟨fun u hu => (h.others u hu).trans (hunit u hu), h.own, h.ok, h.single,
    fun hran => (h.runs hran).imp hheld fun hr => ⟨hr.1, hfree hr.2⟩, fun u hu hu' => ?_,
    fun u hu hu' => ?_⟩
  · obtain hrelease | hran := h.kept u hu hu'
    · obtain rfl | hne := eq_or_ne u me
      · rw [LockData.acquire_unit_self] at hrelease
        cases hrelease
      · exact .inl ((hunit u hne).symm.trans hrelease)
    · exact .inr hran
  · obtain ⟨hne, hmem, hacquire, hwhy⟩ := h.new u hu hu'
    exact ⟨hne, hmem, (hunit u hne).symm.trans hacquire,
      hwhy.imp hfree fun hr => ⟨hr.1, hheld hr.2⟩⟩

/-! ## the invariant -/

namespace Peers

/-- The three things that do not happen, and the relation has every other
unit. -/
def Disciplined (n : Nat) (s : Peers) : HookEvent → Prop
  | .starts u e others =>
      ((∀ v ∈ others, v < n ∧ v ≠ u) ∧ ∀ v < n, v ≠ u → v ∈ others) ∧ e ≠ .runWithLock ∧
      (e = .acquireLock → ¬(s.data.app u = .granted ∧ s.data.unit u = .release))
  | .elected u => s.hook s.leader = none ∧ s.hook u = none
  | _ => True

instance (n : Nat) (s : Peers) (e : HookEvent) : Decidable (Disciplined n s e) := by
  cases e <;> simp only [Disciplined] <;> infer_instance

/-- What a hook that has not ended will do to the databags as they are now. -/
structure HookOk (n : Nat) (s : Peers) (u : Nat) (h : Hook) : Prop where
  lt : u < n
  leader : h.isLeader = decide (s.leader = u)
  runs : h.runsCallback = true → s.data.IsHeld u ∨ h.isLeader = true ∧ s.data.Free
  ran : h.runsCallback = true → h.data.unit u = .release
  own : h.runsCallback = false → h.data.unit u = s.data.unit u ∨
    h.data.unit u = .acquire ∧ ¬(s.data.app u = .granted ∧ s.data.unit u = .release)
  ok : h.data.AppOk
  single : h.data.Single
  bound : h.isLeader = true → ∀ v, h.data.app v = .granted → v < n
  kept : h.isLeader = true → ∀ v, s.data.app v = .granted → h.data.app v ≠ .granted →
    s.data.unit v = .release ∨ v = u ∧ h.runsCallback = true
  new : h.isLeader = true → ∀ v, h.data.app v = .granted → s.data.app v ≠ .granted →
    v ≠ u ∧ s.data.unit v = .acquire ∧
      (s.data.Free ∨ h.runsCallback = true ∧ s.data.IsHeld u)

/-- The other hooks do not matter. -/
theorem HookOk.of_hook {n u : Nat} {s : Peers} {h : Hook} (hh : HookOk n s u h)
    (hook : Nat → Option Hook) : HookOk n { s with hook := hook } u h :=
  ⟨hh.lt, hh.leader, hh.runs, hh.ran, hh.own, hh.ok, hh.single, hh.bound, hh.kept, hh.new⟩

structure LockInv (n : Nat) (s : Peers) : Prop where
  ok : s.data.AppOk
  single : s.data.Single
  bound : ∀ u, s.data.app u = .granted → u < n
  hooks : ∀ u h, s.hook u = some h → HookOk n s u h

/-- No unit has asked for the lock. -/
def initial (leader : Nat) : Peers := ⟨⟨fun _ => .idle, fun _ => .idle⟩, leader, fun _ => none⟩

variable {s : Peers} {e : HookEvent} {h k : Hook} {leader : Nat}

theorem initial_lockInv : LockInv n (initial leader) where
  ok _ := .inr rfl
  single _ _ h := nomatch h
  bound _ h := nomatch h
  hooks _ _ h := nomatch h

/-- At most one hook runs the callback. -/
theorem LockInv.runs_unique (hs : LockInv n s) (hu : s.Runs u) (hv : s.Runs v) : u = v := by
  obtain ⟨h, hh, hrun⟩ := hu
  obtain ⟨k, hk, krun⟩ := hv
  have hok := hs.hooks u h hh
  have kok := hs.hooks v k hk
  obtain hheld | ⟨hleader, hfree⟩ := hok.runs hrun
  · obtain kheld | ⟨-, kfree⟩ := kok.runs krun
    · exact hs.single u v ((LockData.isHeld_iff hs.ok).mp hheld).1
        ((LockData.isHeld_iff hs.ok).mp kheld).1
    · exact absurd hheld (kfree.not_isHeld hs.ok)
  · obtain kheld | ⟨kleader, -⟩ := kok.runs krun
    · exact absurd kheld (hfree.not_isHeld hs.ok)
    · rw [hok.leader, decide_eq_true_eq] at hleader
      rw [kok.leader, decide_eq_true_eq] at kleader
      exact hleader.symm.trans kleader

/-! ## a hook starts -/

theorem LockInv.starts {le : LockEvent} {others : List Nat} (hs : LockInv n s) (hu : u < n)
    (he : Disciplined n s (.starts u le others)) :
    HookOk n s u ⟨(le.handle (decide (s.leader = u)) u (others ++ [u]) s.data).1,
      (le.handle (decide (s.leader = u)) u (others ++ [u]) s.data).2, decide (s.leader = u)⟩ := by
  obtain ⟨hothers, hrun, hback⟩ := he
  have hme : u ∈ others ++ [u] := by simp
  have hbound : ∀ v, v ∈ others ++ [u] ↔ v < n := by
    intro v
    rw [List.mem_append, List.mem_singleton]
    constructor
    · rintro (hv | rfl)
      · exact (hothers.1 v hv).1
      · exact hu
    · intro hv
      obtain rfl | hne := eq_or_ne v u
      · exact .inr rfl
      · exact .inl (hothers.2 v hv hne)
  have hunits : ∀ v, s.data.app v = .granted → v ∈ others ++ [u] := fun v hv =>
    (hbound v).mpr (hs.bound v hv)
  -- each handler has an outcome, and the own state of two kinds
  obtain ⟨own, hown, hout⟩ : ∃ own, (own = s.data.unit u ∨
      own = .acquire ∧ ¬(s.data.app u = .granted ∧ s.data.unit u = .release)) ∧
      Outcome (decide (s.leader = u)) u (others ++ [u]) own s.data
        (le.handle (decide (s.leader = u)) u (others ++ [u]) s.data).1
        (le.handle (decide (s.leader = u)) u (others ++ [u]) s.data).2 := by
    cases le with
    | relationChanged =>
        exact ⟨_, .inl rfl, outcome_onRelationChanged _ _ hs.ok hs.single hme hunits⟩
    | acquireLock =>
        exact ⟨_, .inr ⟨rfl, hback rfl⟩,
          outcome_onAcquireLock hs.ok hs.single hme hunits (hback rfl)⟩
    | leaderElected =>
        exact ⟨_, .inl rfl, outcome_onProcessLocks hs.ok hs.single hme hunits⟩
    | runWithLock => exact absurd rfl hrun
  refine ⟨hu, rfl, hout.runs, fun hran => ?_, fun hran => ?_, hout.ok, hout.single,
    fun _ v hv => ?_, fun _ => hout.kept, fun _ v hv hv' => ?_⟩
  · exact hout.own.trans (if_pos hran)
  · have heq := hout.own.trans (if_neg (Bool.eq_false_iff.mp hran))
    exact hown.imp heq.trans fun hacquire => ⟨heq.trans hacquire.1, hacquire.2⟩
  · by_cases hgranted : s.data.app v = .granted
    · exact hs.bound v hgranted
    · exact (hbound v).mp (hout.new v hv hgranted).2.1
  · obtain ⟨hne, -, hacquire, hwhy⟩ := hout.new v hv hv'
    exact ⟨hne, hacquire, hwhy⟩

/-! ## a hook ends -/

/-- A unit that has given the lock back has not asked again. -/
theorem HookOk.stays_released (hh : HookOk n s u h) (hgranted : s.data.app u = .granted)
    (hrelease : s.data.unit u = .release) : h.data.unit u = .release := by
  cases hran : h.runsCallback with
  | true => exact hh.ran hran
  | false =>
    obtain hsame | ⟨-, hnot⟩ := hh.own hran
    · exact hsame.trans hrelease
    · exact absurd ⟨hgranted, hrelease⟩ hnot

theorem HookOk.stays_asking (hs : LockInv n s) (hh : HookOk n s u h)
    (hleader : h.isLeader = false) (hnot : s.data.app u ≠ .granted)
    (hacquire : s.data.unit u = .acquire) : h.data.unit u = .acquire := by
  cases hran : h.runsCallback with
  | true =>
    obtain hheld | ⟨htrue, -⟩ := hh.runs hran
    · exact absurd ((LockData.isHeld_iff hs.ok).mp hheld).1 hnot
    · rw [hleader] at htrue
      cases htrue
  | false =>
    obtain hsame | ⟨hsame, -⟩ := hh.own hran
    · exact hsame.trans hacquire
    · exact hsame

theorem write_unit_of_ne (hne : v ≠ u) : (s.write u h).unit v = s.data.unit v :=
  Function.update_of_ne hne ..

theorem write_unit_self : (s.write u h).unit u = h.data.unit u := Function.update_self ..

theorem write_app_of_leader (hleader : h.isLeader = true) : (s.write u h).app = h.data.app :=
  if_pos hleader

theorem write_app_of_not_leader (hleader : h.isLeader = false) :
    (s.write u h).app = s.data.app := by
  rw [write, hleader]
  rfl

/-- The databags are as before, but for the unit, when a hook of another unit
than the leader has ended. -/
theorem LockInv.ends_other (hs : LockInv n s) (hh : HookOk n s u h) (hleader : h.isLeader = false)
    (hv : s.hook v = some k) (hne : v ≠ u) {hook : Nat → Option Hook} :
    HookOk n { s with data := s.write u h, hook := hook } v k := by
  have hk := hs.hooks v k hv
  have happ := write_app_of_not_leader (s := s) (u := u) hleader
  have hok : (s.write u h).AppOk := by
    intro w
    rw [happ]
    exact hs.ok w
  have hheld : s.data.IsHeld v → (s.write u h).IsHeld v := by
    rw [LockData.isHeld_iff hs.ok, LockData.isHeld_iff hok, happ, write_unit_of_ne hne]
    exact id
  have hreleased : ∀ w, s.data.app w = .granted → s.data.unit w = .release →
      (s.write u h).unit w = .release := by
    intro w hw hrelease
    obtain rfl | hwu := eq_or_ne w u
    · rw [write_unit_self]
      exact hh.stays_released hw hrelease
    · rw [write_unit_of_ne hwu]
      exact hrelease
  have hfree : s.data.Free → (s.write u h).Free := by
    intro hfree w hw
    rw [happ] at hw
    exact hreleased w hw (hfree w hw)
  refine ⟨hk.lt, hk.leader, fun hran => (hk.runs hran).imp hheld fun hr => ⟨hr.1, hfree hr.2⟩,
    hk.ran, fun hran => ?_, hk.ok, hk.single, hk.bound, fun hl w hw hw' => ?_, fun hl w hw hw' => ?_⟩
  · simp only [happ, write_unit_of_ne hne]
    exact hk.own hran
  · simp only [happ] at hw ⊢
    exact (hk.kept hl w hw hw').imp_left (hreleased w hw)
  · simp only [happ] at hw'
    obtain ⟨hwv, hacquire, hwhy⟩ := hk.new hl w hw hw'
    refine ⟨hwv, ?_, hwhy.imp hfree fun hr => ⟨hr.1, hheld hr.2⟩⟩
    obtain rfl | hwu := eq_or_ne w u
    · exact write_unit_self.trans (hh.stays_asking hs hleader hw' hacquire)
    · exact (write_unit_of_ne hwu).trans hacquire

/-- The hook of the leader has ended, and the one of `v` has not. -/
theorem LockInv.ends_leader (hs : LockInv n s) (hh : HookOk n s u h) (hleader : h.isLeader = true)
    (hv : s.hook v = some k) (hne : v ≠ u) {hook : Nat → Option Hook} :
    HookOk n { s with data := s.write u h, hook := hook } v k := by
  have hk := hs.hooks v k hv
  have happ := write_app_of_leader (s := s) (u := u) hleader
  have hkl : k.isLeader = false := by
    rw [hk.leader, decide_eq_false_iff_not]
    rw [hh.leader, decide_eq_true_eq] at hleader
    exact fun heq => hne (heq.symm.trans hleader)
  have hok : (s.write u h).AppOk := by
    intro w
    rw [happ]
    exact hh.ok w
  have hheld : s.data.IsHeld v → (s.write u h).IsHeld v := by
    rw [LockData.isHeld_iff hs.ok, LockData.isHeld_iff hok, happ, write_unit_of_ne hne]
    rintro ⟨hgranted, hnot⟩
    refine ⟨?_, hnot⟩
    by_contra hgone
    obtain hrelease | ⟨heq, -⟩ := hh.kept hleader v hgranted hgone
    · exact hnot hrelease
    · exact hne heq
  have hnotleader : ∀ {p : Prop}, k.isLeader = true → p := fun htrue => by
    rw [hkl] at htrue
    cases htrue
  refine ⟨hk.lt, hk.leader, fun hran => .inl ?_, hk.ran, fun hran => ?_, hk.ok, hk.single, hk.bound,
    fun htrue => hnotleader htrue, fun htrue => hnotleader htrue⟩
  · exact (hk.runs hran).elim hheld fun hr => hnotleader hr.1
  · simp only [happ, write_unit_of_ne hne]
    refine (hk.own hran).imp_right fun hacquire => ⟨hacquire.1, fun hboth => ?_⟩
    by_cases hgranted : s.data.app v = .granted
    · exact hacquire.2 ⟨hgranted, hboth.2⟩
    · have hasking := (hh.new hleader v hboth.1 hgranted).2.1
      rw [hboth.2] at hasking
      cases hasking

theorem LockInv.ends (hs : LockInv n s) (hu : s.hook u = some h) :
    LockInv n { s with data := s.write u h, hook := Function.update s.hook u none } := by
  have hh := hs.hooks u h hu
  have hhooks : ∀ v k, Function.update s.hook u none v = some k →
      HookOk n { s with data := s.write u h, hook := Function.update s.hook u none } v k := by
    intro v k hv
    have hne : v ≠ u := by
      rintro rfl
      rw [Function.update_self] at hv
      cases hv
    rw [Function.update_of_ne hne] at hv
    cases hleader : h.isLeader with
    | true => exact hs.ends_leader hh hleader hv hne
    | false => exact hs.ends_other hh hleader hv hne
  cases hleader : h.isLeader with
  | true =>
    have happ := write_app_of_leader (s := s) (u := u) hleader
    refine ⟨fun v => ?_, fun v w => ?_, fun v => ?_, hhooks⟩
    · rw [happ]
      exact hh.ok v
    · rw [happ]
      exact hh.single v w
    · rw [happ]
      exact hh.bound hleader v
  | false =>
    have happ := write_app_of_not_leader (s := s) (u := u) hleader
    refine ⟨fun v => ?_, fun v w => ?_, fun v => ?_, hhooks⟩
    · rw [happ]
      exact hs.ok v
    · rw [happ]
      exact hs.single v w
    · rw [happ]
      exact hs.bound v

/-! ## a run -/

theorem LockInv.next (hs : LockInv n s) (he : Disciplined n s e) : LockInv n (next n s e) := by
  cases e with
  | starts u le others =>
    rw [Peers.next]
    split
    · next hu =>
      refine ⟨hs.ok, hs.single, hs.bound, fun v k hv => ?_⟩
      obtain rfl | hne := eq_or_ne v u
      · simp only [Function.update_self, Option.some.injEq] at hv
        rw [← hv]
        exact (hs.starts hu.1 he).of_hook _
      · simp only [Function.update_of_ne hne] at hv
        exact (hs.hooks v k hv).of_hook _
    · exact hs
  | ends u =>
    rw [Peers.next]
    cases hu : s.hook u with
    | none => exact hs
    | some h => exact hs.ends hu
  | fails u =>
    refine ⟨hs.ok, hs.single, hs.bound, fun v k hv => ?_⟩
    simp only [Peers.next, Function.update_apply] at hv
    split at hv
    · cases hv
    · exact (hs.hooks v k hv).of_hook _
  | elected u =>
    rw [Peers.next]
    split
    · refine ⟨hs.ok, hs.single, hs.bound, fun v k hv => ?_⟩
      have hk := hs.hooks v k hv
      refine ⟨hk.lt, ?_, hk.runs, hk.ran, hk.own, hk.ok, hk.single, hk.bound, hk.kept, hk.new⟩
      have hold : s.leader ≠ v := by
        rintro rfl
        rw [he.1] at hv
        cases hv
      have hnew : u ≠ v := by
        rintro rfl
        rw [he.2] at hv
        cases hv
      rw [hk.leader, decide_eq_false hold, decide_eq_false hnew]
    · exact hs

/-- **Mutual exclusion**: while the callback runs at a unit, it runs at no
other. -/
theorem callback_runs_alone {es : List HookEvent}
    (hes : Along (next n) (Disciplined n) (initial leader) es)
    (hu : (run (next n) (initial leader) es).Runs u) :
    ∀ v, v ≠ u → ¬(run (next n) (initial leader) es).Runs v := by
  have hinv := run_of_along (LockInv n) (fun _ _ hs he => hs.next he) initial_lockInv hes
  exact fun v hne hv => hne (hinv.runs_unique hv hu)

instance (s : Peers) (u : Nat) : Decidable (s.Runs u) :=
  decidable_of_iff (∃ h ∈ s.hook u, h.runsCallback = true) Iff.rfl

/-- Two units ask for the lock, and the leader grants it to the second. -/
def secondGranted : List HookEvent :=
  [.starts 1 .acquireLock [0, 2], .starts 2 .acquireLock [0, 1], .ends 2, .ends 1,
    .starts 0 .relationChanged [1, 2], .ends 0, .starts 1 .relationChanged [0, 2],
    .starts 2 .relationChanged [0, 1]]

/-- Then it does not run at the first. -/
theorem callback_runs_alone_second :
    ¬(run (next 3) (initial 0) secondGranted).Runs 1 :=
  callback_runs_alone (u := 2) (by decide) (by decide) 1 (by decide)

/-- A unit that asks again, before the leader has taken the lock back, runs the
callback while the next one does. -/
example : (run (next 3) (initial 0) (secondGranted ++ [.ends 1, .ends 2,
    .starts 0 .relationChanged [1, 2], .starts 2 .acquireLock [0, 1], .ends 0,
    .starts 1 .relationChanged [0, 2]])).Runs 1 ∧
  (run (next 3) (initial 0) (secondGranted ++ [.ends 1, .ends 2,
    .starts 0 .relationChanged [1, 2], .starts 2 .acquireLock [0, 1], .ends 0,
    .starts 1 .relationChanged [0, 2]])).Runs 2 := by decide

end Peers

end PostgresqlK8s.RollingOps
