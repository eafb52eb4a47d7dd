import PostgresqlK8s.Upgrade.RollingUpgrade

/-!
# Upgrade.RollingOrder

The order in which an upgrade goes over the units.  A roll begins with a
refresh of an application that has passed the check and whose units are all
idle, and no rollback is begun: the check is not run in a cluster that has
failed.  Everything else may happen at any time, with any answer: the check
may be run again while units are upgraded, the stateful set may be slow, the
leader may change.

The stateful set replaces a pod only after every unit above it has completed
its upgrade, so at most one unit is between the two; a unit that fails keeps
every other pod as it is.
-/

namespace PostgresqlK8s.Upgrade

open Machine

namespace RollingUpgrade

/-- The application between two upgrades. -/
structure Settled (n : Nat) (s : RollingUpgrade) : Prop where
  leader : s.leader < n
  stack : s.stack = []
  idle : ∀ u < n, s.state u = .idle
  pods : ∀ u < n, s.pod u = s.revision
  told : ∀ u < n, s.told u = true

/-- What is asked of the operator. -/
def Orderly (app : Application) (s : RollingUpgrade) : UpgradeEvent → Prop
  | .preUpgradeCheck _ _ => s.clusterState app.plannedUnits ≠ some .failed
  | .refresh => s.stack ≠ [] ∧ ∀ u < app.plannedUnits,
      s.state u = .idle ∧ s.pod u = s.revision ∧ s.told u = true
  | _ => True

instance (app : Application) (s : RollingUpgrade) (e : UpgradeEvent) :
    Decidable (Orderly app s e) := by
  cases e <;> simp only [Orderly] <;> infer_instance

/-- The unit runs the current revision and has completed its upgrade. -/
def Done (s : RollingUpgrade) (u : Nat) : Prop :=
  s.pod u = s.revision ∧ s.told u = true ∧ (s.state u = .idle ∨ s.state u = .completed)

/-- The pod of the unit has been replaced, and its upgrade is not complete. -/
def InFlight (s : RollingUpgrade) (u : Nat) : Prop := s.pod u = s.revision ∧ ¬s.Done u

/-! ## the invariant -/

/-- What holds of an application in every orderly run. -/
structure RollInv (n : Nat) (s : RollingUpgrade) : Prop where
  leader : s.leader < n
  states : ∀ u < n, s.state u ≠ .recovery ∧ s.state u ≠ .ready
  begun : ∀ u < n, s.state u ≠ .idle → s.pod u = s.revision ∧ s.told u = true
  untold : ∀ u < n, s.told u = false → s.pod u = s.revision
  stack : ∃ k ≤ n, s.stack = stackBelow k
  waiting : ∀ u < n, s.pod u ≠ s.revision ∨ s.told u = false → u ∈ s.stack
  popped : s.stack ≠ [] → n - 1 ∉ s.stack → s.state (n - 1) = .completed
  opened : s.stack ≠ [] → (∀ u < n, s.state u = .idle) → s.partition = n - 1
  allowed : ∀ u < n, s.partition ≤ u → ∀ v, u < v → v < n → s.Done v
  replaced : ∀ u < n, s.pod u = s.revision → ∀ v, u < v → v < n → s.Done v

variable {app : Application} {s t : RollingUpgrade} {n k u v : Nat} {state : UnitState}
  {e : UpgradeEvent}

theorem Settled.rollInv (h : Settled n s) : RollInv n s where
  leader := h.leader
  states u hu := by simp [h.idle u hu]
  begun u hu hstate := absurd (h.idle u hu) hstate
  untold u hu _ := h.pods u hu
  stack := ⟨0, Nat.zero_le n, h.stack⟩
  waiting u hu hnot := by simp [h.pods u hu, h.told u hu] at hnot
  popped hstack := absurd h.stack hstack
  opened hstack := absurd h.stack hstack
  allowed _ _ _ v _ hv := ⟨h.pods v hv, h.told v hv, .inl (h.idle v hv)⟩
  replaced _ _ _ v _ hv := ⟨h.pods v hv, h.told v hv, .inl (h.idle v hv)⟩

namespace RollInv

/-- A unit that is not done keeps the units below it from being replaced. -/
theorem blocks (h : RollInv n s) (hu : u < n) (hdone : ¬s.Done u) :
    ∀ w < u, ¬s.partition ≤ w ∧ s.pod w ≠ s.revision := by
  intro w hw
  exact ⟨fun hle => hdone (h.allowed w (by omega) hle u hw hu),
    fun hpod => hdone (h.replaced w (by omega) hpod u hw hu)⟩

theorem not_ready (h : RollInv n s) : s.clusterState n ≠ some .ready := by
  intro hready
  obtain ⟨⟨u, hu, hstate⟩, -⟩ := clusterState_eq_some hready
  exact (h.states u hu).2 hstate

/-- A unit that has begun is done once it is idle or completed. -/
theorem done_of_completed (h : RollInv n s) (hu : u < n) (hstate : s.state u = .completed) :
    s.Done u :=
  have ⟨hpod, htold⟩ := h.begun u hu (by simp [hstate])
  ⟨hpod, htold, .inr hstate⟩

theorem not_done_of_state (hidle : s.state u ≠ .idle) (hcompleted : s.state u ≠ .completed) :
    ¬s.Done u :=
  fun hdone => hdone.2.2.elim hidle hcompleted

/-- A unit that has begun writes a new state. -/
theorem setState (h : RollInv n s) (hu : u < n) (hpod : s.pod u = s.revision)
    (htold : s.told u = true) (hstate : state ≠ .recovery ∧ state ≠ .ready)
    (hdone : state = .idle ∨ state = .completed ∨
      ∀ w < u, ¬s.partition ≤ w ∧ s.pod w ≠ s.revision)
    (hstack : s.stack ≠ [] → state ≠ .idle)
    (hpopped : s.stack ≠ [] → n - 1 ∉ s.stack → u ≠ n - 1 ∨ state = .completed) :
    RollInv n (s.setState u state) := by
  -- what was done is still done, and `u` is done unless it blocks the rest
  have hkeep : ∀ w v, w < v → s.Done v → (s.partition ≤ w ∨ s.pod w = s.revision) →
      (s.setState u state).Done v := by
    intro w v hwv hv hw
    by_cases hvu : v = u
    · rw [hvu] at hwv ⊢
      refine ⟨hpod, htold, ?_⟩
      rw [setState_state, Function.update_self]
      rcases hdone with hidle | hcompleted | hblocks
      · exact .inl hidle
      · exact .inr hcompleted
      · exact absurd hw (by simp [hblocks w hwv])
    · refine ⟨hv.1, hv.2.1, ?_⟩
      rw [setState_state, Function.update_of_ne hvu]
      exact hv.2.2
  refine ⟨h.leader, fun v hv => ?_, fun v hv hidle => ?_, h.untold, h.stack, h.waiting,
    fun hne hnot => ?_, fun hne hidle => ?_, fun w hw hle v hwv hv => ?_,
    fun w hw hw' v hwv hv => ?_⟩
  · rw [setState_state, Function.update_apply]
    split
    · exact hstate
    · exact h.states v hv
  · by_cases hvu : v = u
    · rw [hvu]
      exact ⟨hpod, htold⟩
    · rw [setState_state, Function.update_of_ne hvu] at hidle
      exact h.begun v hv hidle
  · rw [setState_state, Function.update_apply]
    split
    · next heq =>
        exact (hpopped hne hnot).resolve_left (not_not_intro heq.symm)
    · exact h.popped hne hnot
  · have hself := hidle u hu
    rw [setState_state, Function.update_self] at hself
    exact absurd hself (hstack hne)
  · exact hkeep w v hwv (h.allowed w hw hle v hwv hv) (.inl hle)
  · exact hkeep w v hwv (h.replaced w hw hw' v hwv hv) (.inr hw')

/-- Completed units leave the stack. -/
theorem pop {j : Nat} (h : RollInv n s) (hstack : s.stack = stackBelow k) (hj : j ≤ k)
    (hcompleted : ∀ v, j ≤ v → v < k → s.state v = .completed) :
    RollInv n { s with stack := stackBelow j } := by
  obtain ⟨k', hk', hstack'⟩ := h.stack
  have hk : k = k' := by
    simpa using congrArg List.length (hstack.symm.trans hstack')
  subst hk
  refine ⟨h.leader, h.states, h.begun, h.untold, ⟨j, by omega, rfl⟩, fun v hv hnot => ?_,
    fun hne hnot => ?_, fun hne hidle => ?_, h.allowed, h.replaced⟩
  · have hmem := h.waiting v hv hnot
    rw [hstack, mem_stackBelow] at hmem
    rw [mem_stackBelow]
    by_contra hvj
    obtain ⟨hpod, htold⟩ := h.begun v hv (by simp [hcompleted v (by omega) hmem])
    simp [hpod, htold] at hnot
  · simp only [ne_eq, stackBelow_eq_nil, mem_stackBelow] at hne hnot
    by_cases hn : n - 1 < k
    · exact hcompleted (n - 1) (by omega) hn
    · refine h.popped ?_ ?_
      · rw [hstack, ne_eq, stackBelow_eq_nil]
        omega
      · rw [hstack, mem_stackBelow]
        exact hn
  · simp only [ne_eq, stackBelow_eq_nil] at hne
    by_cases hjk : j = k
    · subst hjk
      refine h.opened ?_ hidle
      rw [hstack, ne_eq, stackBelow_eq_nil]
      exact hne
    · have hj' := hcompleted j (le_refl j) (by omega)
      have hidle' := hidle j (by omega)
      simp only [hj'] at hidle'
      cases hidle'

/-- The partition moves right below a unit that is done. -/
theorem lower (h : RollInv n s) (hu : u < n) (hdone : s.Done u)
    (hbusy : s.stack ≠ [] → s.state u ≠ .idle) :
    RollInv n { s with partition := (u : Int) - 1 } where
  leader := h.leader
  states := h.states
  begun := h.begun
  untold := h.untold
  stack := h.stack
  waiting := h.waiting
  popped := h.popped
  opened hne hidle := absurd (hidle u hu) (hbusy hne)
  allowed w hw hle v hwv hv := by
    have hle' : (u : Int) - 1 ≤ w := hle
    obtain rfl | hlt : v = u ∨ u < v := by omega
    · exact hdone
    · exact h.replaced u hu hdone.1 v hlt hv
  replaced := h.replaced

/-! ## the handlers keep it -/

theorem onUpgradeChanged (h : RollInv n s) (hu : u < n) : RollInv n (s.onUpgradeChanged n u) := by
  obtain ⟨k, -, hstack⟩ := h.stack
  obtain ⟨j, hj, heq, hpopped⟩ | ⟨heq, hstate, hpopped⟩ :=
    onUpgradeChanged_cases (u := u) h.not_ready hstack
  · rw [heq]
    exact h.pop hstack hj hpopped
  · have hbegun := h.begun u hu (by simp [hstate])
    rw [heq]
    exact (h.pop hstack (Nat.zero_le k) fun v _ hv => hpopped v hv).setState hu hbegun.1 hbegun.2
      ⟨nofun, nofun⟩ (.inl rfl) (fun hne => absurd rfl hne) fun hne => absurd rfl hne

/-- What the handler leaves as it is. -/
theorem onUpgradeChanged_frame (h : RollInv n s) :
    (s.onUpgradeChanged n u).pod = s.pod ∧ (s.onUpgradeChanged n u).revision = s.revision ∧
      (s.onUpgradeChanged n u).told = s.told ∧
      (s.onUpgradeChanged n u).partition = s.partition := by
  obtain ⟨k, -, hstack⟩ := h.stack
  obtain ⟨j, -, heq, -⟩ | ⟨heq, -⟩ := onUpgradeChanged_cases (u := u) h.not_ready hstack
  · rw [heq]
    exact ⟨rfl, rfl, rfl, rfl⟩
  · rw [heq]
    exact ⟨rfl, rfl, rfl, rfl⟩

/-- The state of a completed unit after the handler. -/
theorem onUpgradeChanged_state (h : RollInv n s) (hstate : s.state u = .completed) :
    (s.onUpgradeChanged n u).state u = .completed ∨
      (s.onUpgradeChanged n u).state u = .idle ∧ (s.onUpgradeChanged n u).stack = [] := by
  obtain ⟨k, -, hstack⟩ := h.stack
  obtain ⟨j, -, heq, -⟩ | ⟨heq, -⟩ := onUpgradeChanged_cases (u := u) h.not_ready hstack
  · rw [heq]
    exact .inl hstate
  · rw [heq]
    exact .inr ⟨Function.update_self .., rfl⟩

theorem onUpgradeFinished {patched : Bool} (h : RollInv n s) (hu : u < n)
    (hstate : s.state u = .completed)
    (hblocks : ∀ w < u, ¬s.partition ≤ w ∧ s.pod w ≠ s.revision) :
    RollInv n (s.onUpgradeFinished n u patched) := by
  -- the leader has looked at the stack before the partition is moved
  obtain ⟨t, ht, hinv, hpod, hrevision, hpartition, hdone, hbusy⟩ :
      ∃ t, (if s.leader = u then s.onUpgradeChanged n u else s) = t ∧ RollInv n t ∧
        t.pod = s.pod ∧ t.revision = s.revision ∧ t.partition = s.partition ∧ t.Done u ∧
        (t.stack ≠ [] → t.state u ≠ .idle) := by
    refine ⟨_, rfl, ?_⟩
    split
    · obtain ⟨hpod, hrevision, htold, hpartition⟩ := h.onUpgradeChanged_frame (u := u)
      obtain ⟨hpodu, htoldu, -⟩ := h.done_of_completed hu hstate
      refine ⟨h.onUpgradeChanged hu, hpod, hrevision, hpartition, ⟨?_, ?_, ?_⟩, fun hne => ?_⟩
      · rw [hpod, hrevision, hpodu]
      · rw [htold, htoldu]
      · exact (h.onUpgradeChanged_state hstate).elim .inr fun hidle => .inl hidle.1
      · obtain hcompleted | ⟨-, hnil⟩ := h.onUpgradeChanged_state hstate
        · simp [hcompleted]
        · exact absurd hnil hne
    · exact ⟨h, rfl, rfl, rfl, h.done_of_completed hu hstate, fun _ => by simp [hstate]⟩
  simp only [RollingUpgrade.onUpgradeFinished, ht]
  split
  · exact hinv
  · next hlast =>
      split
      · exact hinv
      · split
        · exact hinv.lower hu hdone hbusy
        · refine hinv.setState hu hdone.1 hdone.2.1 ⟨nofun, nofun⟩ (.inr (.inr ?_)) (fun _ => nofun)
            fun _ _ => .inl hlast
          rw [hpod, hrevision, hpartition]
          exact hblocks

theorem onPostgresqlPebbleReady {r : Readiness} (h : RollInv n s) (hu : u < n) :
    RollInv n (s.onPostgresqlPebbleReady n u r) := by
  unfold RollingUpgrade.onPostgresqlPebbleReady
  split
  · exact h
  · next hstate =>
    have hupgrading : s.state u = .upgrading := by
      simpa [not_and_or, (h.states u hu).1] using hstate
    have hbegun := h.begun u hu (by simp [hupgrading])
    have hblocks := h.blocks hu (not_done_of_state (by simp [hupgrading]) (by simp [hupgrading]))
    have hpopped : s.stack ≠ [] → n - 1 ∉ s.stack → u ≠ n - 1 := by
      rintro hne hnot rfl
      simp [h.popped hne hnot] at hupgrading
    split
    · exact h
    split
    · exact h
    split
    · have hcompleted : RollInv n (s.setState u .completed) :=
        h.setState hu hbegun.1 hbegun.2 ⟨nofun, nofun⟩ (.inr (.inl rfl)) (fun _ => nofun)
          fun _ _ => .inr rfl
      exact hcompleted.onUpgradeFinished hu (Function.update_self ..) hblocks
    · exact h.setState hu hbegun.1 hbegun.2 ⟨nofun, nofun⟩ (.inr (.inr hblocks)) (fun _ => nofun)
        fun hne hnot => .inl (hpopped hne hnot)

theorem onPreUpgradeCheckAction {appUnits : List Nat} {a : Answers}
    (h : RollInv app.plannedUnits s) (hfailed : s.clusterState app.plannedUnits ≠ some .failed) :
    RollInv app.plannedUnits (s.onPreUpgradeCheckAction app appUnits a) := by
  obtain heq | ⟨-, -, heq⟩ := onPreUpgradeCheckAction_cases appUnits a hfailed
  · rw [heq]
    exact h
  · rw [heq]
    refine ⟨h.leader, h.states, h.begun, h.untold, ⟨_, le_refl _, rfl⟩,
      fun u hu _ => mem_stackBelow.mpr hu, fun _ hnot => ?_, fun _ _ => rfl,
      fun u hu hle v huv hv => ?_, h.replaced⟩
    · have hpos := h.leader
      exact absurd (mem_stackBelow.mpr (by omega)) hnot
    · have hle' : (app.plannedUnits : Int) - 1 ≤ u := hle
      omega

theorem onResumeUpgradeAction {patched : Bool} (h : RollInv n s) :
    RollInv n (s.onResumeUpgradeAction n patched) := by
  obtain ⟨k, hk, hstack⟩ := h.stack
  unfold RollingUpgrade.onResumeUpgradeAction
  cases k with
  | zero =>
    rw [stackBelow_zero] at hstack
    simp only [hstack]
    exact h
  | succ k =>
    rw [stackBelow_succ] at hstack
    simp only [hstack]
    split
    · exact h
    next hlength =>
    split
    · have hn : k + 2 = n := by
        simp only [List.length_cons, length_stackBelow, ne_eq, not_not] at hlength
        have := h.leader
        omega
      have hcompleted : s.state (n - 1) = .completed := by
        refine h.popped (by simp [hstack]) ?_
        rw [hstack, ← stackBelow_succ, mem_stackBelow]
        omega
      have hlow := h.lower (u := n - 1) (by omega) (h.done_of_completed (by omega) hcompleted)
        fun _ => by simp [hcompleted]
      have hcast : ((n - 1 : Nat) : Int) - 1 = k := by omega
      rw [hcast, hstack] at hlow
      exact hlow
    · exact h

/-- The stateful set replaces a pod. -/
theorem replacePod (h : RollInv n s) (hreplaces : s.Replaces n u) :
    RollInv n { s with
      pod := Function.update s.pod u s.revision
      told := Function.update s.told u false } := by
  obtain ⟨hu, hle, hold⟩ := hreplaces
  have hidle : s.state u = .idle := by
    by_contra hstate
    exact hold (h.begun u hu hstate).1
  -- a unit that is done has been replaced before
  have hkeep : ∀ v, s.Done v → Function.update s.pod u s.revision v = s.revision ∧
      Function.update s.told u false v = true ∧ (s.state v = .idle ∨ s.state v = .completed) := by
    intro v hdone
    have hvu : v ≠ u := by
      rintro rfl
      exact hold hdone.1
    rw [Function.update_of_ne hvu, Function.update_of_ne hvu]
    exact hdone
  refine ⟨h.leader, h.states, fun v hv hstate => ?_, fun v hv htold => ?_, h.stack,
    fun v hv hnot => ?_, h.popped, h.opened, fun w hw hle v hwv hv => ?_,
    fun w hw hpod v hwv hv => ?_⟩
  · have hvu : v ≠ u := by
      rintro rfl
      exact hstate hidle
    simp only [Function.update_of_ne hvu]
    exact h.begun v hv hstate
  · simp only [Function.update_apply] at htold ⊢
    split at htold
    · next heq => simp [heq]
    · next hne => simp [hne, h.untold v hv htold]
  · refine h.waiting v hv ?_
    by_cases hvu : v = u
    · rw [hvu]
      exact .inl hold
    · simpa only [Function.update_of_ne hvu] using hnot
  · exact hkeep v (h.allowed w hw hle v hwv hv)
  · by_cases hwu : w = u
    · rw [hwu] at hwv
      exact hkeep v (h.allowed u hu hle v hwv hv)
    · simp only [Function.update_of_ne hwu] at hpod
      exact hkeep v (h.replaced w hw hpod v hwv hv)

/-- The unit of a new pod is told. -/
theorem upgradeCharm {compatible : Bool} (h : RollInv n s) (hu : u < n)
    (htold : s.told u = false) :
    RollInv n { s.onUpgradeCharm n u compatible with told := Function.update s.told u true } := by
  have hpod := h.untold u hu htold
  have hmem := h.waiting u hu (.inr htold)
  have hdone : ¬s.Done u := fun hdone => by simp [hdone.2.1] at htold
  have hblocks := h.blocks hu hdone
  have hidle : s.state u = .idle := by
    by_contra hstate
    simp [(h.begun u hu hstate).2] at htold
  have hmono : ∀ v, s.told v = true → Function.update s.told u true v = true := by
    intro v hv
    rw [Function.update_apply]
    split
    · rfl
    · exact hv
  -- as if the unit had been told before it writes its state
  have htold' : RollInv n { s with told := Function.update s.told u true } := by
    refine ⟨h.leader, h.states, fun v hv hstate => ?_, fun v hv hnot => ?_, h.stack,
      fun v hv hnot => ?_, h.popped, h.opened, fun w hw hle v hwv hv => ?_,
      fun w hw hw' v hwv hv => ?_⟩
    · exact ⟨(h.begun v hv hstate).1, hmono v (h.begun v hv hstate).2⟩
    · refine h.untold v hv (Bool.eq_false_iff.mpr fun hv' => ?_)
      simp [hmono v hv'] at hnot
    · refine h.waiting v hv (hnot.imp_right fun hnot => Bool.eq_false_iff.mpr fun hv' => ?_)
      simp [hmono v hv'] at hnot
    · have hd := h.allowed w hw hle v hwv hv
      exact ⟨hd.1, hmono v hd.2.1, hd.2.2⟩
    · have hd := h.replaced w hw hw' v hwv hv
      exact ⟨hd.1, hmono v hd.2.1, hd.2.2⟩
  have hset : ∀ state, state ≠ .recovery ∧ state ≠ .ready → state ≠ .idle →
      RollInv n { s.setState u state with told := Function.update s.told u true } := by
    intro state hstate hidle
    exact htold'.setState hu hpod (Function.update_self ..) hstate (.inr (.inr hblocks))
      (fun _ => hidle) fun hne hnot => .inl fun heq => hnot (heq ▸ hmem)
  unfold RollingUpgrade.onUpgradeCharm
  rw [if_neg (List.ne_nil_of_mem hmem)]
  split
  · exact hset .failed ⟨nofun, nofun⟩ nofun
  · exact hset .upgrading ⟨nofun, nofun⟩ nofun

/-- A refresh of an application that is settled. -/
theorem refresh (h : RollInv n s) (hstack : s.stack ≠ [])
    (hsettled : ∀ u < n, s.state u = .idle ∧ s.pod u = s.revision ∧ s.told u = true) :
    RollInv n { s with revision := s.revision + 1 } := by
  have hlast : n - 1 ∈ s.stack := by
    by_contra hnot
    have hpos := h.leader
    have hidle := (hsettled (n - 1) (by omega)).1
    rw [h.popped hstack hnot] at hidle
    cases hidle
  refine ⟨h.leader, h.states, fun u hu hstate => absurd (hsettled u hu).1 hstate,
    fun u hu htold => ?_, h.stack, fun u hu _ => ?_, h.popped, h.opened, fun u hu hle v huv hv => ?_,
    fun u hu hpod => ?_⟩
  · simp [(hsettled u hu).2.2] at htold
  · obtain ⟨k, -, hk⟩ := h.stack
    rw [hk, mem_stackBelow] at hlast
    have hmem : u ∈ s.stack := by
      rw [hk, mem_stackBelow]
      omega
    exact hmem
  · have hopened := h.opened hstack fun u hu => (hsettled u hu).1
    simp only [hopened] at hle
    omega
  · simp [(hsettled u hu).2.1] at hpod

theorem next (h : RollInv app.plannedUnits s) (he : Orderly app s e) :
    RollInv app.plannedUnits (next app s e) := by
  cases e with
  | preUpgradeCheck appUnits a => exact h.onPreUpgradeCheckAction he
  | refresh => exact h.refresh he.1 he.2
  | replacePod u =>
      rw [RollingUpgrade.next]
      split
      · next hreplaces => exact h.replacePod hreplaces
      · exact h
  | upgradeCharm u compatible =>
      rw [RollingUpgrade.next]
      split
      · next hu => exact h.upgradeCharm hu.1 hu.2
      · exact h
  | pebbleReady u r =>
      rw [RollingUpgrade.next]
      split
      · next hu => exact h.onPostgresqlPebbleReady hu
      · exact h
  | relationChanged u =>
      rw [RollingUpgrade.next]
      split
      · next hu => exact h.onUpgradeChanged hu
      · exact h
  | resumeUpgrade patched => exact h.onResumeUpgradeAction
  | leaderElected u =>
      rw [RollingUpgrade.next]
      split
      · next hu => exact ⟨hu, h.states, h.begun, h.untold, h.stack, h.waiting, h.popped, h.opened,
          h.allowed, h.replaced⟩
      · exact h

end RollInv

/-- Every orderly run keeps the invariant. -/
theorem Settled.rollInv_run {es : List UpgradeEvent} (h : Settled app.plannedUnits s)
    (hes : Along (next app) (Orderly app) s es) :
    RollInv app.plannedUnits (run (next app) s es) :=
  run_of_along (RollInv app.plannedUnits) (fun _ _ hinv he => hinv.next he) h.rollInv hes

/-! ## the order of the units -/

/-- Three units, the first of which is the leader. -/
def settledUnits : RollingUpgrade where
  state _ := .idle
  stack := []
  partition := 0
  revision := 1
  pod _ := 1
  told _ := true
  leader := 0

/-- Every question of the check is answered well. -/
def readyAnswers : Answers := { unreadAnswers with backup := some threeMembers }

theorem settledUnits_settled : Settled threeUnits.plannedUnits settledUnits :=
  ⟨by decide, rfl, fun _ _ => rfl, fun _ _ => rfl, fun _ _ => rfl⟩

/-- The unit comes back, and its first attempt passes. -/
def goodReadiness : Readiness := ⟨true, true, true, fun _ => ⟨true, true, true⟩, true⟩

/-- The last unit is upgraded. -/
def lastUnitEvents : List UpgradeEvent :=
  [.preUpgradeCheck [0, 1, 2] readyAnswers, .refresh, .replacePod 2, .upgradeCharm 2 true,
    .pebbleReady 2 goodReadiness, .relationChanged 0, .resumeUpgrade true]

theorem RollInv.inFlight_unique (h : RollInv n s) (hu : u < n) (hv : v < n) (hfu : s.InFlight u)
    (hfv : s.InFlight v) : u = v := by
  rcases lt_trichotomy u v with hlt | heq | hlt
  · exact absurd (h.replaced u hu hfu.1 v hlt hv) hfv.2
  · exact heq
  · exact absurd (h.replaced v hv hfv.1 u hlt hu) hfu.2

instance (s : RollingUpgrade) (u : Nat) : Decidable (s.Done u) :=
  inferInstanceAs (Decidable (_ ∧ _ ∧ (_ ∨ _)))

instance (s : RollingUpgrade) (u : Nat) : Decidable (s.InFlight u) :=
  inferInstanceAs (Decidable (_ ∧ ¬_))

theorem RollInv.clusterState_failed (h : RollInv n s) (hu : u < n) (hfailed : s.state u = .failed) :
    s.clusterState n = some .failed := by
  rw [← hfailed]
  refine clusterState_of_le hu fun v hv => ?_
  have hv := (h.states v hv).1
  rw [hfailed]
  cases hstate : s.state v <;> simp [UnitState.index, hstate] at hv ⊢

theorem onUpgradeChanged_of_failed (h : s.clusterState n = some .failed) :
    s.onUpgradeChanged n u = s := by
  rw [onUpgradeChanged]
  cases s.stack with
  | nil => rw [onUpgradeChangedWith, if_pos h]
  | cons top stack => rw [onUpgradeChangedWith, if_pos h]

theorem RollInv.inFlight_of_state (h : RollInv n s) (hu : u < n) (hidle : s.state u ≠ .idle)
    (hcompleted : s.state u ≠ .completed) : s.InFlight u :=
  ⟨(h.begun u hu hidle).1, not_done_of_state hidle hcompleted⟩

/-- A unit stays failed, and no pod is replaced. -/
theorem RollInv.next_of_failed (h : RollInv app.plannedUnits s) (hu : u < app.plannedUnits)
    (hfailed : s.state u = .failed) (he : Orderly app s e) :
    (RollingUpgrade.next app s e).state u = .failed ∧
      (RollingUpgrade.next app s e).pod = s.pod := by
  have hcluster := h.clusterState_failed hu hfailed
  have hbegun := h.begun u hu (by simp [hfailed])
  have hflight := h.inFlight_of_state hu (by simp [hfailed]) (by simp [hfailed])
  cases e with
  | preUpgradeCheck appUnits a => exact absurd hcluster he
  | refresh =>
      have hidle := (he.2 u hu).1
      rw [hfailed] at hidle
      cases hidle
  | replacePod v =>
      rw [RollingUpgrade.next]
      split
      · next hreplaces =>
          obtain ⟨hv, hle, hold⟩ := hreplaces
          exfalso
          rcases lt_trichotomy u v with hlt | rfl | hlt
          · exact hold (h.replaced u hu hbegun.1 v hlt hv).1
          · exact hold hbegun.1
          · exact (h.blocks hu hflight.2 v hlt).1 hle
      · exact ⟨hfailed, rfl⟩
  | upgradeCharm v compatible =>
      rw [RollingUpgrade.next]
      split
      · next hv =>
          have huv : u ≠ v := by
            rintro rfl
            simp [hbegun.2] at hv
          have hset : ∀ state, (s.setState v state).state u = .failed := fun state => by
            rw [setState_state, Function.update_of_ne huv, hfailed]
          unfold onUpgradeCharm
          split
          · exact ⟨hfailed, rfl⟩
          split
          · exact ⟨hset _, rfl⟩
          · exact ⟨hset _, rfl⟩
      · exact ⟨hfailed, rfl⟩
  | pebbleReady v r =>
      rw [RollingUpgrade.next]
      split
      · next hv =>
          have hstate : s.state v ≠ .upgrading := by
            intro hupgrading
            have heq := h.inFlight_unique hu hv hflight
              (h.inFlight_of_state hv (by simp [hupgrading]) (by simp [hupgrading]))
            rw [heq, hupgrading] at hfailed
            cases hfailed
          rw [RollingUpgrade.onPostgresqlPebbleReady, if_pos ⟨hstate, (h.states v hv).1⟩]
          exact ⟨hfailed, rfl⟩
      · exact ⟨hfailed, rfl⟩
  | relationChanged v =>
      rw [RollingUpgrade.next, onUpgradeChanged_of_failed hcluster, ite_self]
      exact ⟨hfailed, rfl⟩
  | resumeUpgrade patched =>
      obtain ⟨partition, heq⟩ := s.onResumeUpgradeAction_frame app.plannedUnits patched
      rw [RollingUpgrade.next, heq]
      exact ⟨hfailed, rfl⟩
  | leaderElected v =>
      rw [RollingUpgrade.next]
      split
      · exact ⟨hfailed, rfl⟩
      · exact ⟨hfailed, rfl⟩

end RollingUpgrade

end PostgresqlK8s.Upgrade
