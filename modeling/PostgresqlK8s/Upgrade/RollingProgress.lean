import PostgresqlK8s.Upgrade.RollingOrder

/-!
# Upgrade.RollingProgress

How far an upgrade gets.  Where every unit comes back healthy, a roll goes over
all units and ends as it began, at the next revision.  Where the check is run
again between two units, after at least two have completed their upgrade, the
roll does not go on: the partition is back at the last unit, and the action
that would move it asks for a stack that lacks the last unit only.
-/

namespace PostgresqlK8s.Upgrade

open Machine

namespace RollingUpgrade

/-- Between two units of a roll: those from `k` on have completed their upgrade,
and the others have not begun it.  Where all have, some may be idle again. -/
structure MidRoll (n k : Nat) (s : RollingUpgrade) : Prop where
  leader : s.leader < n
  told : ∀ u < n, s.told u = true
  old : ∀ u < k, s.state u = .idle ∧ s.pod u ≠ s.revision
  new : ∀ u, k ≤ u → u < n →
    s.pod u = s.revision ∧ (s.state u = .completed ∨ k = 0 ∧ s.state u = .idle)

variable {app : Application} {s t : RollingUpgrade} {n k m u v : Nat}
  {e : UpgradeEvent} {a : Answers}

namespace MidRoll

theorem state (h : MidRoll n k s) (hu : u < n) :
    s.state u = .idle ∨ s.state u = .completed := by
  obtain hlt | hle := lt_or_ge u k
  · exact .inl (h.old u hlt).1
  · exact (h.new u hle hu).2.elim .inr fun hidle => .inl hidle.2

theorem completed (h : MidRoll n (k + 1) s) (hk : k + 1 ≤ u) (hu : u < n) :
    s.state u = .completed :=
  (h.new u hk hu).2.resolve_right fun hzero => Nat.succ_ne_zero k hzero.1

theorem clusterState (h : MidRoll n k s) :
    s.clusterState n = some .idle ∨ s.clusterState n = some .completed := by
  have hpos : 0 < n := Nat.zero_lt_of_lt h.leader
  cases hcluster : s.clusterState n with
  | none =>
      rw [RollingUpgrade.clusterState, List.argmin_eq_none, List.map_eq_nil_iff,
        List.range_eq_nil] at hcluster
      omega
  | some state =>
      obtain ⟨⟨u, hu, rfl⟩, -⟩ := clusterState_eq_some hcluster
      rw [Option.some.injEq, Option.some.injEq]
      exact h.state hu

theorem not_failed (h : MidRoll n k s) : s.clusterState n ≠ some .failed := by
  obtain hidle | hcompleted := h.clusterState
  · simp [hidle]
  · simp [hcompleted]

theorem not_ready (h : MidRoll n k s) : s.clusterState n ≠ some .ready := by
  obtain hidle | hcompleted := h.clusterState
  · simp [hidle]
  · simp [hcompleted]

/-- The leader takes the units that have completed their upgrade off the
stack. -/
theorem pops (h : MidRoll n (k + 1) s) (hkm : k + 1 ≤ m) (hmn : m ≤ n)
    (hstack : s.stack = stackBelow m) :
    s.onUpgradeChanged n s.leader = { s with stack := stackBelow (k + 1) } :=
  onUpgradeChanged_leader rfl h.not_failed h.not_ready hkm
    (fun v hv hvm => h.completed hv (by omega)) (by simp [(h.old k (Nat.lt_succ_self k)).1]) hstack

end MidRoll

/-! ## the check between two units -/

/-- The check has been run again after the units from `k` on had completed their
upgrade. -/
structure Wedged (n k : Nat) (s : RollingUpgrade) : Prop extends
    MidRoll n k s where
  pos : 0 < k
  two : k + 1 < n
  partition : s.partition = n - 1
  stack : s.stack = stackBelow k ∨ s.stack = stackBelow n

/-- No pod is replaced, and the application stays as it is but for the stack and
the leader. -/
theorem Wedged.next (h : Wedged app.plannedUnits k s) (he : Orderly app s e) :
    Wedged app.plannedUnits k (RollingUpgrade.next app s e) ∧
      (RollingUpgrade.next app s e).pod = s.pod := by
  obtain ⟨k, rfl⟩ : ∃ k', k = k' + 1 := ⟨k - 1, by have := h.pos; omega⟩
  have htwo := h.two
  have hself : Wedged app.plannedUnits (k + 1) s ∧ s.pod = s.pod := ⟨h, rfl⟩
  -- the stack is the only thing that a handler changes
  have hstacked : ∀ stack, stack = stackBelow (k + 1) ∨ stack = stackBelow app.plannedUnits →
      Wedged app.plannedUnits (k + 1) { s with stack := stack } :=
    fun stack hstack => ⟨⟨h.leader, h.told, h.old, h.new⟩, h.pos, h.two, h.partition, hstack⟩
  cases e with
  | preUpgradeCheck appUnits a =>
      obtain heq | ⟨-, -, heq⟩ := onPreUpgradeCheckAction_cases appUnits a he
      · rw [RollingUpgrade.next, heq]
        exact hself
      · rw [RollingUpgrade.next, heq, ← h.partition]
        exact ⟨hstacked _ (.inr rfl), rfl⟩
  | refresh =>
      have hidle := (he.2 (app.plannedUnits - 1) (by omega)).1
      rw [h.completed (by omega) (by omega)] at hidle
      cases hidle
  | replacePod u =>
      have hnot : ¬s.Replaces app.plannedUnits u := by
        rintro ⟨hu, hle, hold⟩
        rw [h.partition] at hle
        exact hold (h.new u (by omega) hu).1
      rw [RollingUpgrade.next, if_neg hnot]
      exact hself
  | upgradeCharm u compatible =>
      have hnot : ¬(u < app.plannedUnits ∧ s.told u = false) := by
        rintro ⟨hu, htold⟩
        rw [h.told u hu] at htold
        cases htold
      rw [RollingUpgrade.next, if_neg hnot]
      exact hself
  | pebbleReady u r =>
      rw [RollingUpgrade.next]
      split
      · next hu =>
          have hstate : s.state u ≠ .upgrading ∧ s.state u ≠ .recovery := by
            obtain hidle | hcompleted := h.toMidRoll.state hu
            · simp [hidle]
            · simp [hcompleted]
          rw [RollingUpgrade.onPostgresqlPebbleReady, if_pos hstate]
          exact hself
      · exact hself
  | relationChanged u =>
      rw [RollingUpgrade.next]
      split
      · by_cases hu : s.leader = u
        · have hpops : s.onUpgradeChanged app.plannedUnits s.leader =
              { s with stack := stackBelow (k + 1) } :=
            h.stack.elim (h.toMidRoll.pops (le_refl _) (by omega))
              (h.toMidRoll.pops (by omega) (le_refl _))
          rw [← hu, hpops]
          exact ⟨hstacked _ (.inl rfl), rfl⟩
        · have hne : s.stack ≠ [] := by
            obtain hstack | hstack := h.stack
            · simp [hstack]
            · rw [hstack, ne_eq, stackBelow_eq_nil]
              omega
          rw [onUpgradeChanged_of_not_leader h.not_ready hne hu]
          exact hself
      · exact hself
  | resumeUpgrade patched =>
      have hlength : s.stack.length ≠ app.plannedUnits - 1 := by
        obtain hstack | hstack := h.stack
        · rw [hstack, length_stackBelow]
          omega
        · rw [hstack, length_stackBelow]
          omega
      rw [RollingUpgrade.next, onResumeUpgradeAction_of_length hlength]
      exact hself
  | leaderElected u =>
      rw [RollingUpgrade.next]
      split
      · next hu =>
          exact ⟨⟨⟨hu, h.told, h.old, h.new⟩, h.pos, h.two, h.partition, h.stack⟩, rfl⟩
      · exact hself

/-- Two of three units have completed their upgrade. -/
def twoUnitsEvents : List UpgradeEvent :=
  lastUnitEvents ++ [.replacePod 1, .upgradeCharm 1 true, .pebbleReady 1 goodReadiness]

theorem readyAnswers_opens : Opens threeUnits readyAnswers := ⟨rfl, rfl, .inl rfl, rfl⟩

/-- A unit that comes back healthy. -/
structure ComesBack (r : Readiness) : Prop where
  memberStarted : r.memberStarted = true
  primaryEndpointReady : r.primaryEndpointReady = true
  legacySetUp : r.legacySetUp = true
  healthy : r.healthy = true
  patched : r.patched = true

/-- What happens to a unit whose turn it is. -/
def unitEvents (leader : Nat) (r : Readiness) (u : Nat) : List UpgradeEvent :=
  [.replacePod u, .upgradeCharm u true, .pebbleReady u r, .relationChanged leader]

/-- A roll over the units `0` to `n - 1`. -/
def rollEvents (n leader : Nat) (appUnits : List Nat) (a : Answers) (r : Readiness) :
    List UpgradeEvent :=
  .preUpgradeCheck appUnits a :: .refresh :: unitEvents leader r (n - 1) ++
    .resumeUpgrade true :: (stackBelow (n - 1)).flatMap (unitEvents leader r) ++
    (List.range n).map .relationChanged

variable {r : Readiness}

namespace MidRoll

/-- Where no unit is left on the stack, a unit becomes idle. -/
theorem settles (h : MidRoll n 0 s) (hstack : s.stack = []) (hu : u < n) :
    s.onUpgradeChanged n u = s.setState u .idle := by
  rw [onUpgradeChanged, hstack, onUpgradeChangedWith, if_neg h.not_failed]
  obtain hidle | hcompleted := h.state hu
  · rw [if_neg (by simp [hidle]), setState, ← hidle, Function.update_eq_self]
  · exact if_pos ⟨hcompleted, h.clusterState⟩

/-- The leader takes the last units off the stack and becomes idle. -/
theorem pops_last (h : MidRoll n 0 s) (hu : s.leader = u) (hun : u < n)
    (hcompleted : ∀ v < m, s.state v = .completed) (hstack : s.stack = stackBelow m) :
    s.onUpgradeChanged n u = ({ s with stack := [] }).setState u .idle := by
  induction m generalizing s with
  | zero =>
    have hself : ({ s with stack := [] } : RollingUpgrade) = s := by
      rw [← stackBelow_zero, ← hstack]
    rw [hself]
    exact h.settles hstack hun
  | succ m ih =>
    have htop := hcompleted m (Nat.lt_succ_self m)
    have hnot : ¬(s.state m = .ready ∨ s.state m = .upgrading) := by simp [htop]
    have hmid : MidRoll n 0 { s with stack := stackBelow m } := ⟨h.leader, h.told, h.old, h.new⟩
    rw [onUpgradeChanged, hstack, stackBelow_succ, onUpgradeChangedWith, if_neg h.not_failed]
    simp only [if_pos (And.intro hu htop), hnot, false_and, and_false, if_false]
    exact ih hmid hu (fun v hv => hcompleted v (Nat.lt_succ_of_lt hv)) rfl

theorem setIdle (h : MidRoll n 0 s) : MidRoll n 0 (s.setState u .idle) where
  leader := h.leader
  told := h.told
  old v hv := absurd hv (Nat.not_lt_zero v)
  new v hv hvn := by
    refine ⟨(h.new v hv hvn).1, ?_⟩
    rw [setState_state, Function.update_apply]
    split
    · exact .inr ⟨rfl, rfl⟩
    · exact (h.new v hv hvn).2

/-- What the leader does to the stack when a unit has completed its upgrade. -/
theorem leader_pops (h : MidRoll n k s) (hk : k < n) (hkm : m = k ∨ m = k + 1)
    (hstate : m = k + 1 → s.state k = .completed) (hstack : s.stack = stackBelow m) :
    ∃ t, s.onUpgradeChanged n s.leader = t ∧ MidRoll n k t ∧ t.stack = stackBelow k ∧
      t.leader = s.leader ∧ t.revision = s.revision ∧ t.partition = s.partition := by
  cases k with
  | zero =>
    have hpops := h.pops_last (m := m) rfl h.leader (fun v hv => by
      obtain rfl : v = 0 := by omega
      exact hstate (by omega)) hstack
    have hmid : MidRoll n 0 { s with stack := [] } := ⟨h.leader, h.told, h.old, h.new⟩
    exact ⟨_, hpops, hmid.setIdle, rfl, rfl, rfl, rfl⟩
  | succ k =>
    exact ⟨_, h.pops (by omega) (by omega) hstack, ⟨h.leader, h.told, h.old, h.new⟩, rfl, rfl, rfl,
      rfl⟩

end MidRoll

/-- The unit after its pod has been replaced and it has come back. -/
def complete (s : RollingUpgrade) (u : Nat) : RollingUpgrade :=
  { s with
    pod := Function.update s.pod u s.revision
    state := Function.update s.state u .completed }

theorem MidRoll.complete (h : MidRoll n (k + 1) s) : MidRoll n k (s.complete k) where
  leader := h.leader
  told := h.told
  old u hu := by
    simp only [RollingUpgrade.complete, Function.update_of_ne (Nat.ne_of_lt hu)]
    exact h.old u (Nat.lt_succ_of_lt hu)
  new u hku hu := by
    obtain rfl | hne := eq_or_ne u k
    · simp [RollingUpgrade.complete]
    · simp only [RollingUpgrade.complete, Function.update_of_ne hne]
      exact ⟨(h.new u (by omega) hu).1, .inl (h.completed (by omega) hu)⟩

theorem ne_nil_of_eq_stackBelow_succ (h : s.stack = stackBelow (k + 1)) : s.stack ≠ [] := by
  rw [h, stackBelow_succ]
  exact List.cons_ne_nil k _

/-- The pod of a unit is replaced, and the unit comes back. -/
theorem MidRoll.comesBack (h : MidRoll app.plannedUnits (k + 1) s) (hk : k < app.plannedUnits)
    (hstack : s.stack = stackBelow (k + 1)) (hpartition : s.partition ≤ k) (hr : ComesBack r) :
    run (next app) s [.replacePod k, .upgradeCharm k true, .pebbleReady k r] =
      (s.complete k).onUpgradeFinished app.plannedUnits k true := by
  have hreplaces : s.Replaces app.plannedUnits k :=
    ⟨hk, hpartition, (h.old k (Nat.lt_succ_self k)).2⟩
  have htold : Function.update (Function.update s.told k false) k true = s.told := by
    rw [Function.update_idem, ← h.told k hk, Function.update_eq_self]
  have hne := ne_nil_of_eq_stackBelow_succ hstack
  -- the unit is told, and upgrading
  have hupgrading : run (next app) s [.replacePod k, .upgradeCharm k true] =
      ({ s with pod := Function.update s.pod k s.revision } : RollingUpgrade).setState k
        .upgrading := by
    rw [run_cons, run_cons, run_nil, RollingUpgrade.next, if_pos hreplaces, RollingUpgrade.next,
      if_pos ⟨hk, Function.update_self ..⟩, onUpgradeCharm, if_neg hne, if_neg (by simp)]
    simp only [setState, htold]
  have hevents : ([.replacePod k, .upgradeCharm k true, .pebbleReady k r] : List UpgradeEvent) =
      [.replacePod k, .upgradeCharm k true] ++ [.pebbleReady k r] := rfl
  rw [hevents, run_append, hupgrading, run_cons, run_nil, RollingUpgrade.next, if_pos hk,
    onPostgresqlPebbleReady, if_neg (by simp), if_neg (by simp [hr.memberStarted]),
    if_neg (by simp [hr.primaryEndpointReady, hr.legacySetUp]), if_pos hr.healthy, hr.patched,
    setUnitCompleted]
  congr 1
  simp only [setState, RollingUpgrade.complete, Function.update_idem]

/-- The partition after the upgrade of a unit. -/
def partitionAfter (n u : Nat) (partition : Int) : Int :=
  if u = n - 1 then partition else if u = 0 then partition else u - 1

theorem onUpgradeFinished_eq (s : RollingUpgrade) (n u : Nat) :
    s.onUpgradeFinished n u true =
      { (if s.leader = u then s.onUpgradeChanged n u else s) with
        partition := partitionAfter n u
          (if s.leader = u then s.onUpgradeChanged n u else s).partition } := by
  rw [onUpgradeFinished, partitionAfter]
  simp only [if_true]
  split
  · rfl
  split
  · rfl
  · rfl

/-- The upgrade of a unit, from the replacement of its pod until the leader has
seen it complete. -/
theorem MidRoll.unitEvents (h : MidRoll app.plannedUnits (k + 1) s) (hk : k < app.plannedUnits)
    (hstack : s.stack = stackBelow (k + 1)) (hpartition : s.partition ≤ k) (hr : ComesBack r) :
    ∃ t, run (next app) s (unitEvents s.leader r k) = t ∧ MidRoll app.plannedUnits k t ∧
      t.stack = stackBelow k ∧ t.leader = s.leader ∧ t.revision = s.revision ∧
      t.partition = partitionAfter app.plannedUnits k s.partition := by
  have hcompleted : (s.complete k).state k = .completed := Function.update_self ..
  -- the leader may be the unit, and see the stack before the partition is moved
  obtain ⟨t, m, ht, hmid, hm, hstate, hstack', hleader, hrevision, hpartition'⟩ : ∃ t m,
      (if (s.complete k).leader = k then (s.complete k).onUpgradeChanged app.plannedUnits k
        else s.complete k) = t ∧ MidRoll app.plannedUnits k t ∧ (m = k ∨ m = k + 1) ∧
      (m = k + 1 → t.state k = .completed) ∧ t.stack = stackBelow m ∧ t.leader = s.leader ∧
      t.revision = s.revision ∧ t.partition = s.partition := by
    by_cases hu : (s.complete k).leader = k
    · obtain ⟨t, ht, hmid, hstack', hleader, hrevision, hpartition'⟩ :=
        h.complete.leader_pops hk (.inr rfl) (fun _ => hcompleted) hstack
      rw [hu] at ht
      exact ⟨t, k, by rw [if_pos hu, ht], hmid, .inl rfl, fun heq => absurd heq (by omega), hstack',
        hleader, hrevision, hpartition'⟩
    · exact ⟨s.complete k, k + 1, if_neg hu, h.complete, .inr rfl, fun _ => hcompleted, hstack, rfl,
        rfl, rfl⟩
  have hmid' : MidRoll app.plannedUnits k
      { t with partition := partitionAfter app.plannedUnits k t.partition } :=
    ⟨hmid.leader, hmid.told, hmid.old, hmid.new⟩
  obtain ⟨t', ht', hmid'', hstack'', hleader'', hrevision'', hpartition''⟩ :=
    hmid'.leader_pops hk hm hstate hstack'
  have hevents : RollingUpgrade.unitEvents s.leader r k =
      [.replacePod k, .upgradeCharm k true, .pebbleReady k r] ++ [.relationChanged s.leader] := rfl
  refine ⟨t', ?_, hmid'', hstack'', hleader''.trans hleader, hrevision''.trans hrevision, ?_⟩
  · rw [hevents, run_append, h.comesBack hk hstack hpartition hr, onUpgradeFinished_eq, ht,
      run_cons, run_nil, RollingUpgrade.next, if_pos h.leader, ← hleader]
    exact ht'
  · rw [hpartition'', ← hpartition']

/-- The units below `k`, one after the other. -/
theorem MidRoll.flatMap_unitEvents (h : MidRoll app.plannedUnits k s)
    (hk : k < app.plannedUnits) (hstack : s.stack = stackBelow k)
    (hpartition : k ≠ 0 → s.partition ≤ (k : Int) - 1) (hr : ComesBack r) :
    ∃ t, run (next app) s ((stackBelow k).flatMap (RollingUpgrade.unitEvents s.leader r)) = t ∧
      MidRoll app.plannedUnits 0 t ∧ t.stack = [] ∧ t.leader = s.leader ∧
      t.revision = s.revision := by
  induction k generalizing s with
  | zero => exact ⟨s, rfl, h, hstack, rfl, rfl⟩
  | succ k ih =>
    have hle := hpartition (Nat.succ_ne_zero k)
    obtain ⟨t, ht, hmid, hstack', hleader, hrevision, hpartition'⟩ :=
      h.unitEvents (by omega) hstack (by omega) hr
    have hnext : k ≠ 0 → t.partition ≤ (k : Int) - 1 := by
      intro hk
      rw [hpartition', partitionAfter, if_neg (by omega), if_neg hk]
    obtain ⟨t', ht', hmid', hstack'', hleader', hrevision'⟩ := ih hmid (by omega) hstack' hnext
    refine ⟨t', ?_, hmid', hstack'', hleader'.trans hleader, hrevision'.trans hrevision⟩
    rw [stackBelow_succ, List.flatMap_cons, run_append, ht, ← hleader]
    exact ht'

/-- Every unit becomes idle when it handles the change of the relation. -/
theorem MidRoll.relationChanged (h : MidRoll app.plannedUnits 0 s) (hstack : s.stack = [])
    {us : List Nat} (hus : ∀ u ∈ us, u < app.plannedUnits) :
    ∃ t, run (next app) s (us.map .relationChanged) = t ∧ MidRoll app.plannedUnits 0 t ∧
      t.stack = [] ∧ t.revision = s.revision ∧ (∀ u, s.state u = .idle → t.state u = .idle) ∧
      ∀ u ∈ us, t.state u = .idle := by
  induction us generalizing s with
  | nil => exact ⟨s, rfl, h, hstack, rfl, fun _ hu => hu, by simp⟩
  | cons u us ih =>
    rw [List.forall_mem_cons] at hus
    have hstep : RollingUpgrade.next app s (.relationChanged u) = s.setState u .idle := by
      rw [RollingUpgrade.next, if_pos hus.1, h.settles hstack hus.1]
    obtain ⟨t, ht, hmid, hnil, hrevision, hkeep, hidle⟩ := ih (h.setIdle (u := u)) hstack hus.2
    refine ⟨t, ?_, hmid, hnil, hrevision, fun v hv => hkeep v ?_, ?_⟩
    · rw [List.map_cons, run_cons, hstep, ht]
    · rw [setState_state, Function.update_apply]
      split
      · rfl
      · exact hv
    · rw [List.forall_mem_cons]
      refine ⟨hkeep u ?_, hidle⟩
      rw [setState_state, Function.update_self]

/-- The check and the refresh open a roll. -/
theorem Settled.opened (h : Settled app.plannedUnits s) (appUnits : List Nat)
    (hopens : Opens app a) :
    Along (next app) (Orderly app) s [.preUpgradeCheck appUnits a, .refresh] ∧
    ∃ t, run (next app) s [.preUpgradeCheck appUnits a, .refresh] = t ∧
      MidRoll app.plannedUnits app.plannedUnits t ∧ t.stack = stackBelow app.plannedUnits ∧
      t.leader = s.leader ∧ t.revision = s.revision + 1 ∧ t.partition = app.plannedUnits - 1 := by
  have hleader := h.leader
  have hidle : s.clusterState app.plannedUnits = some .idle := by
    rw [← h.idle s.leader hleader]
    refine clusterState_of_le hleader fun v hv => ?_
    rw [h.idle v hv, h.idle s.leader hleader]
  have hcheck : RollingUpgrade.next app s (.preUpgradeCheck appUnits a) =
      { s with partition := app.plannedUnits - 1, stack := stackBelow app.plannedUnits } :=
    onPreUpgradeCheckAction_of_opens appUnits hidle hopens
  rw [along_cons, along_cons, run_cons, run_cons, run_nil, hcheck]
  refine ⟨⟨?_, ⟨?_, fun u hu => ⟨h.idle u hu, h.pods u hu, h.told u hu⟩⟩, trivial⟩, _, rfl,
    ⟨hleader, h.told, fun u hu => ⟨h.idle u hu, ?_⟩, fun u hle hu => absurd hu (by omega)⟩, rfl,
    rfl, rfl, rfl⟩
  · simp [Orderly, hidle]
  · rw [ne_eq, stackBelow_eq_nil]
    omega
  · simp [RollingUpgrade.next, h.pods u hu]

/-- The operator resumes the upgrade after the last unit. -/
theorem MidRoll.resumes (h : MidRoll n k s) (hk : k + 1 = n) (hstack : s.stack = stackBelow k) :
    ∃ t, s.onResumeUpgradeAction n true = t ∧ MidRoll n k t ∧ t.stack = stackBelow k ∧
      t.leader = s.leader ∧ t.revision = s.revision ∧ (k ≠ 0 → t.partition ≤ (k : Int) - 1) := by
  cases k with
  | zero =>
    refine ⟨s, ?_, h, hstack, rfl, rfl, fun hne => absurd rfl hne⟩
    unfold onResumeUpgradeAction
    rw [hstack]
    rfl
  | succ k =>
    refine ⟨{ s with partition := k }, ?_, ⟨h.leader, h.told, h.old, h.new⟩, hstack, rfl, rfl, ?_⟩
    · unfold onResumeUpgradeAction
      rw [stackBelow_succ] at hstack
      rw [hstack]
      simp only [List.length_cons, length_stackBelow, if_true]
      rw [if_neg (by omega)]
    · intro _
      simp

/-- **Progress**: where the cluster passes the check and every unit comes back
healthy, the roll ends as it began, at the next revision. -/
theorem roll_completes (h : Settled app.plannedUnits s) (appUnits : List Nat)
    (hopens : Opens app a) (hr : ComesBack r) :
    Along (next app) (Orderly app) s (rollEvents app.plannedUnits s.leader appUnits a r) ∧
      Settled app.plannedUnits
        (run (next app) s (rollEvents app.plannedUnits s.leader appUnits a r)) ∧
      (run (next app) s (rollEvents app.plannedUnits s.leader appUnits a r)).revision =
        s.revision + 1 := by
  obtain ⟨n, hn⟩ : ∃ n, n + 1 = app.plannedUnits :=
    ⟨app.plannedUnits - 1, by have := h.leader; omega⟩
  have hevents : rollEvents app.plannedUnits s.leader appUnits a r =
      [.preUpgradeCheck appUnits a, .refresh] ++ (RollingUpgrade.unitEvents s.leader r n ++
        (.resumeUpgrade true :: ((stackBelow n).flatMap (RollingUpgrade.unitEvents s.leader r) ++
          (List.range app.plannedUnits).map .relationChanged))) := by
    simp [rollEvents, ← hn]
  obtain ⟨horderly, s₀, hs₀, hmid₀, hstack₀, hleader₀, hrevision₀, hpartition₀⟩ :=
    h.opened appUnits hopens
  constructor
  · rw [hevents, along_append]
    refine ⟨horderly, along_of_forall fun e he t => ?_⟩
    simp only [RollingUpgrade.unitEvents, List.mem_append, List.mem_cons, List.mem_flatMap,
      List.mem_map, List.not_mem_nil, or_false] at he
    rcases he with (rfl | rfl | rfl | rfl) | rfl | ⟨u, -, rfl | rfl | rfl | rfl⟩ | ⟨u, -, rfl⟩ <;>
      trivial
  -- the last unit, after which the operator resumes the upgrade
  have hlast : MidRoll app.plannedUnits (n + 1) s₀ := by
    rw [hn]
    exact hmid₀
  obtain ⟨t₁, ht₁, hmid₁, hstack₁, hleader₁, hrevision₁, -⟩ :=
    hlast.unitEvents (by omega) (by rw [hstack₀, hn]) (by omega) hr
  obtain ⟨t₂, ht₂, hmid₂, hstack₂, hleader₂, hrevision₂, hpartition₂⟩ := hmid₁.resumes hn hstack₁
  obtain ⟨t₃, ht₃, hmid₃, hstack₃, hleader₃, hrevision₃⟩ :=
    hmid₂.flatMap_unitEvents (by omega) hstack₂ hpartition₂ hr
  obtain ⟨t₄, ht₄, hmid₄, hstack₄, hrevision₄, -, hidle₄⟩ :=
    hmid₃.relationChanged hstack₃ fun u (hu : u ∈ List.range app.plannedUnits) =>
      List.mem_range.mp hu
  have hrun : run (next app) s (rollEvents app.plannedUnits s.leader appUnits a r) = t₄ := by
    rw [hleader₀] at ht₁
    rw [hleader₂, hleader₁, hleader₀] at ht₃
    rw [hevents, run_append, hs₀, run_append, ht₁, run_cons, RollingUpgrade.next, ht₂, run_append,
      ht₃, ht₄]
  rw [hrun]
  refine ⟨⟨hmid₄.leader, hstack₄, fun u hu => hidle₄ u (List.mem_range.mpr hu),
    fun u hu => (hmid₄.new u (Nat.zero_le u) hu).1, hmid₄.told⟩, ?_⟩
  rw [hrevision₄, hrevision₃, hrevision₂, hrevision₁, hrevision₀]

/-- Three units are upgraded. -/
theorem roll_completes_three :
    Along (next threeUnits) (Orderly threeUnits) settledUnits
        (rollEvents 3 0 [0, 1, 2] readyAnswers goodReadiness) ∧
      Settled 3 (run (next threeUnits) settledUnits
        (rollEvents 3 0 [0, 1, 2] readyAnswers goodReadiness)) ∧
      (run (next threeUnits) settledUnits
        (rollEvents 3 0 [0, 1, 2] readyAnswers goodReadiness)).revision = 2 :=
  roll_completes settledUnits_settled [0, 1, 2] readyAnswers_opens
    ⟨rfl, rfl, rfl, by decide, rfl⟩

end RollingUpgrade

end PostgresqlK8s.Upgrade
