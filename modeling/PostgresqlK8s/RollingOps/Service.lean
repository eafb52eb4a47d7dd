import PostgresqlK8s.RollingOps.MutualExclusion

/-!
# RollingOps.Service

What becomes of the requests.  In a round the leader handles a change of the
relation, and then every other unit does.  A round in which no lock is held at
first grants one that is pending, and its unit runs the callback in the same
round; as many rounds as there are requests serve each of them once, and that of
the leader last.
-/

namespace PostgresqlK8s.RollingOps

open Machine

namespace Peers

/-- The unit whose callback has run when the event is over. -/
def ranAt (s : Peers) : HookEvent → List Nat
  | .ends u => if (s.hook u).any (·.runsCallback) then [u] else []
  | _ => []

/-- The units at which the callback runs, in order. -/
def served (n : Nat) : Peers → List HookEvent → List Nat
  | _, [] => []
  | s, e :: es => s.ranAt e ++ served n (next n s e) es

theorem served_append (n : Nat) (s : Peers) (es fs : List HookEvent) :
    served n s (es ++ fs) = served n s es ++ served n (run (next n) s es) fs := by
  induction es generalizing s with
  | nil => rfl
  | cons e es ih => rw [List.cons_append, served, served, ih, run_cons, List.append_assoc]

/-- A unit handles a change of the relation; `order` has the units of the
relation in the order in which each unit goes over them. -/
def turn (order : Nat → List Nat) (u : Nat) : List HookEvent :=
  [.starts u .relationChanged (order u), .ends u]

/-- The leader handles a change of the relation, and then every other unit. -/
def round (order : Nat → List Nat) (leader : Nat) : List HookEvent :=
  turn order leader ++ (order leader).flatMap (turn order)

/-- The relation has every other unit. -/
def Complete (n : Nat) (order : Nat → List Nat) : Prop :=
  ∀ u, (∀ v ∈ order u, v < n ∧ v ≠ u) ∧ ∀ v < n, v ≠ u → v ∈ order u

/-- The units that ask for the lock. -/
def asking (n : Nat) (s : Peers) : List Nat :=
  (List.range n).filter fun u => s.data.unit u = .acquire

/-- No hook runs, and no unit holds the lock. -/
structure Resting (n : Nat) (s : Peers) : Prop where
  inv : LockInv n s
  leader : s.leader < n
  quiet : ∀ u, s.hook u = none
  free : s.data.Free

variable {s : Peers} {n u v w : Nat} {order : Nat → List Nat} {d : LockData}

theorem mem_asking : u ∈ asking n s ↔ u < n ∧ s.data.unit u = .acquire := by
  rw [asking, List.mem_filter, List.mem_range, decide_eq_true_eq]

/-- In a state without a held lock, the units that ask are those pending. -/
theorem isPending_iff_of_free (hok : d.AppOk) (hfree : d.Free) :
    d.IsPending u ↔ d.unit u = .acquire := by
  rw [LockData.isPending_iff hok]
  refine ⟨And.right, fun hacquire => ⟨(hok u).resolve_left fun hgranted => ?_, hacquire⟩⟩
  rw [hfree u hgranted] at hacquire
  cases hacquire

/-! ## the turn of a unit -/

variable (order) in
/-- What a turn does where no other hook runs. -/
theorem run_turn (hquiet : ∀ u, s.hook u = none) (hu : u < n) {d' : LockData} {ran : Bool}
    (h : onRelationChanged (decide (s.leader = u)) u (order u ++ [u]) s.data = (d', ran)) :
    run (next n) s (turn order u) =
        { s with data := s.write u ⟨d', ran, decide (s.leader = u)⟩ } ∧
      served n s (turn order u) = if ran then [u] else [] := by
  have hstart : next n s (.starts u .relationChanged (order u)) =
      { s with hook := Function.update s.hook u (some ⟨d', ran, decide (s.leader = u)⟩) } := by
    rw [next, if_pos ⟨hu, hquiet u⟩]
    simp only [LockEvent.handle, h]
  have hback : Function.update s.hook u none = s.hook := by
    rw [← hquiet u, Function.update_eq_self]
  constructor
  · rw [turn, run_cons, run_cons, run_nil, hstart]
    simp only [next, Function.update_self, Function.update_idem, hback]
    rfl
  · rw [turn, served, served, served, hstart]
    simp [ranAt]

variable (order) in
theorem turn_of_not_leader (hquiet : ∀ u, s.hook u = none) (hu : u < n) (hne : s.leader ≠ u) :
    run (next n) s (turn order u) =
        { s with data := if s.data.IsHeld u then s.data.release u else s.data } ∧
      served n s (turn order u) = if s.data.IsHeld u then [u] else [] := by
  have hleader := decide_eq_false hne
  by_cases hheld : s.data.IsHeld u
  · have hhandled : onRelationChanged (decide (s.leader = u)) u (order u ++ [u]) s.data =
        (s.data.release u, true) := by
      simp [onRelationChanged, onRunWithLock, hheld, hleader]
    obtain ⟨hrun, hserved⟩ := run_turn order hquiet hu hhandled
    rw [hrun, hserved, if_pos hheld, if_pos hheld, hleader]
    refine ⟨?_, rfl⟩
    simp only [write, LockData.release_unit_self]
    rfl
  · have hhandled : onRelationChanged (decide (s.leader = u)) u (order u ++ [u]) s.data =
        (s.data, false) := by
      simp [onRelationChanged, onProcessLocks, hheld, hleader]
    obtain ⟨hrun, hserved⟩ := run_turn order hquiet hu hhandled
    rw [hrun, hserved, if_neg hheld, if_neg hheld, hleader]
    refine ⟨?_, rfl⟩
    simp only [write, Function.update_eq_self]
    rfl

/-- The databags are what the leader makes of them. -/
theorem turn_of_leader (hs : LockInv n s) (hquiet : ∀ u, s.hook u = none) (hleader : s.leader < n)
    (horder : Complete n order) :
    run (next n) s (turn order s.leader) =
        { s with data :=
            (onRelationChanged true s.leader (order s.leader ++ [s.leader]) s.data).1 } ∧
      served n s (turn order s.leader) =
        if (onRelationChanged true s.leader (order s.leader ++ [s.leader]) s.data).2 then
          [s.leader] else [] := by
  have hmem : ∀ u, s.data.app u = .granted → u ∈ order s.leader ++ [s.leader] := by
    intro u hu
    rw [List.mem_append, List.mem_singleton]
    by_cases heq : u = s.leader
    · exact .inr heq
    · exact .inl ((horder s.leader).2 u (hs.bound u hu) heq)
  have hout := outcome_onRelationChanged s.leader true hs.ok hs.single
    (by simp) hmem
  have htrue : decide (s.leader = s.leader) = true := by simp
  obtain ⟨hrun, hserved⟩ := run_turn order hquiet hleader (by rw [htrue])
  refine ⟨hrun.trans ?_, hserved⟩
  rw [htrue, write]
  generalize onRelationChanged true s.leader (order s.leader ++ [s.leader]) s.data = out at hout ⊢
  have hunit : Function.update s.data.unit s.leader (out.1.unit s.leader) = out.1.unit := by
    funext v
    obtain rfl | hne := eq_or_ne v s.leader
    · exact Function.update_self ..
    · rw [Function.update_of_ne hne, hout.others v hne]
  simp only [hunit]
  rfl

/-! ## the turns of the others -/

variable (order) in
/-- Where no lock is held, nothing happens. -/
theorem turns_of_free (hquiet : ∀ u, s.hook u = none) (hok : s.data.AppOk) (hfree : s.data.Free)
    {us : List Nat} (hus : ∀ u ∈ us, u < n ∧ u ≠ s.leader) :
    run (next n) s (us.flatMap (turn order)) = s ∧ served n s (us.flatMap (turn order)) = [] := by
  induction us with
  | nil => exact ⟨rfl, rfl⟩
  | cons u us ih =>
    rw [List.forall_mem_cons] at hus
    obtain ⟨hrun, hserved⟩ := turn_of_not_leader order hquiet hus.1.1 hus.1.2.symm
    rw [if_neg (hfree.not_isHeld hok)] at hrun hserved
    rw [List.flatMap_cons, run_append, served_append, hrun, hserved]
    exact ih hus.2

variable (order) in
/-- Where one other unit holds the lock, it runs the callback and gives
the lock back, and nothing else happens. -/
theorem turns_of_held (hquiet : ∀ u, s.hook u = none) (hw : s.data.IsHeld w)
    (hothers : ∀ u, u ≠ w → s.data.app u ≠ .granted) (hok : s.data.AppOk) {us : List Nat}
    (hus : ∀ u ∈ us, u < n ∧ u ≠ s.leader) (hmem : w ∈ us) :
    run (next n) s (us.flatMap (turn order)) = { s with data := s.data.release w } ∧
      served n s (us.flatMap (turn order)) = [w] := by
  induction us with
  | nil => cases hmem
  | cons u us ih =>
    rw [List.forall_mem_cons] at hus
    obtain ⟨hrun, hserved⟩ := turn_of_not_leader order hquiet hus.1.1 hus.1.2.symm
    rw [List.flatMap_cons, run_append, served_append, hrun, hserved]
    obtain rfl | hne := eq_or_ne u w
    · rw [if_pos hw, if_pos hw]
      have hrest := turns_of_free (s := { s with data := s.data.release u }) (n := n) order
        hquiet hok ?_ hus.2
      · rw [hrest.1, hrest.2]
        exact ⟨rfl, rfl⟩
      · intro v hv
        obtain rfl | hvu := eq_or_ne v u
        · exact LockData.release_unit_self
        · exact absurd hv (hothers v hvu)
    · have hheld : ¬s.data.IsHeld u := by
        rw [LockData.isHeld_iff hok]
        exact fun hheld => hothers u hne hheld.1
      rw [if_neg hheld, if_neg hheld]
      exact ih hus.2 ((List.mem_cons.mp hmem).resolve_left hne.symm)

/-! ## a round -/

/-- The turns of a round are disciplined. -/
theorem disciplined_turn (horder : Complete n order) (u : Nat) :
    ∀ e ∈ turn order u, ∀ s, Disciplined n s e := by
  intro e he s
  rw [turn, List.mem_cons, List.mem_singleton] at he
  rcases he with rfl | rfl
  · exact ⟨horder u, nofun, nofun⟩
  · trivial

theorem along_round (horder : Complete n order) (leader : Nat) :
    Along (next n) (Disciplined n) s (round order leader) := by
  refine along_of_forall fun e he => ?_
  rw [round, List.mem_append, List.mem_flatMap] at he
  obtain he | ⟨u, -, he⟩ := he
  · exact disciplined_turn horder leader e he
  · exact disciplined_turn horder u e he

/-- What the leader does first in a round. -/
inductive LeaderTurn (n : Nat) (s : Peers) (d : LockData) : Bool → Prop
  | nobody (hasking : asking n s = []) (hgranted : ∀ u, d.app u ≠ .granted)
      (hunit : d.unit = s.data.unit) : LeaderTurn n s d false
  | grants (w : Nat) (hw : w ∈ asking n s) (hne : w ≠ s.leader)
      (hgranted : ∀ u, d.app u = .granted ↔ u = w) (hunit : d.unit = s.data.unit) :
      LeaderTurn n s d false
  | runs (hleader : s.leader ∈ asking n s) (honly : ∀ u ∈ asking n s, u = s.leader)
      (hgranted : ∀ u, d.app u ≠ .granted)
      (hunit : d.unit = Function.update s.data.unit s.leader .release) : LeaderTurn n s d true

theorem Resting.leaderTurn (hs : Resting n s) (horder : Complete n order) :
    ∃ d ran, run (next n) s (turn order s.leader) = { s with data := d } ∧
      served n s (turn order s.leader) = (if ran then [s.leader] else []) ∧ d.AppOk ∧
      LeaderTurn n s d ran := by
  have hmem : ∀ u, u ∈ order s.leader ++ [s.leader] ↔ u < n := by
    intro u
    rw [List.mem_append, List.mem_singleton]
    constructor
    · rintro (hu | rfl)
      · exact ((horder s.leader).1 u hu).1
      · exact hs.leader
    · intro hu
      obtain rfl | hne := eq_or_ne u s.leader
      · exact .inr rfl
      · exact .inl ((horder s.leader).2 u hu hne)
  have hask : ∀ u, u ∈ asking n s ↔ u ∈ order s.leader ++ [s.leader] ∧ s.data.IsPending u := by
    intro u
    rw [mem_asking, hmem, isPending_iff_of_free hs.inv.ok hs.free]
  obtain ⟨hrun, hserved⟩ := turn_of_leader hs.inv hs.quiet hs.leader horder
  obtain ⟨d, granted, hpass, hunit, hok, hiff, hasks, hlast, hnone⟩ :=
    processLocks_of_free s.leader (order s.leader ++ [s.leader]) hs.inv.ok hs.free
      fun u hu => (hmem u).mpr (hs.inv.bound u hu)
  have hnot := hs.free.not_isHeld (u := s.leader) hs.inv.ok
  simp only [onRelationChanged, if_neg hnot, onProcessLocks, hpass, Bool.not_true,
    Bool.false_eq_true, if_false] at hrun hserved
  cases granted with
  | none =>
    refine ⟨d, false, hrun, hserved, hok, .nobody ?_ (fun u hu => ?_) hunit⟩
    · rw [List.eq_nil_iff_forall_not_mem]
      exact fun u hu => hnone rfl u ((hask u).mp hu).1 ((hask u).mp hu).2
    · cases (hiff u).mp hu
  | some w =>
    have hw : w ∈ asking n s := (hask w).mpr (hasks w rfl)
    by_cases heq : w = s.leader
    · subst heq
      simp only [if_true] at hrun hserved
      have honly : ∀ u ∈ asking n s, u = s.leader := fun u hu =>
        hlast rfl u ((hask u).mp hu).1 ((hask u).mp hu).2
      obtain ⟨d', hd', hok', -, hothers, hown, hgranted⟩ :=
        outcome_onRunWithLock hok ((hmem s.leader).mpr hs.leader) fun u hu =>
          (Option.some.inj ((hiff u).mp hu)).symm
      rw [hd'] at hrun
      refine ⟨d', true, hrun, hserved, hok', .runs hw honly (fun u hu => ?_) ?_⟩
      · obtain ⟨hne, hu, hacquire⟩ := hgranted u hu
        rw [hunit] at hacquire
        exact hne (honly u (mem_asking.mpr ⟨(hmem u).mp hu, hacquire⟩))
      · funext u
        obtain rfl | hne := eq_or_ne u s.leader
        · rw [hown, Function.update_self]
        · rw [hothers u hne, hunit, Function.update_of_ne hne]
    · simp only [if_neg heq] at hrun hserved
      refine ⟨d, false, hrun, hserved, hok, .grants w hw heq (fun u => ?_) hunit⟩
      rw [hiff u, Option.some.injEq, eq_comm]

/-- The units that ask after one of them has been served. -/
theorem asking_of_release {t : Peers}
    (hunit : t.data.unit = Function.update s.data.unit w .release) :
    asking n t = (asking n s).filter (· ≠ w) := by
  rw [asking, asking, List.filter_filter]
  refine List.filter_congr fun u _ => ?_
  rw [hunit, Function.update_apply]
  by_cases hu : u = w
  · simp [hu]
  · simp [hu]

/-- **A round** serves one of the units that ask, if there is any, and the leader
only where no other asks. -/
theorem Resting.round (hs : Resting n s) (horder : Complete n order) :
    ∃ t, run (next n) s (round order s.leader) = t ∧ Resting n t ∧ t.leader = s.leader ∧
      (asking n s = [] ∧ served n s (Peers.round order s.leader) = [] ∧ asking n t = [] ∨
        ∃ w ∈ asking n s, served n s (Peers.round order s.leader) = [w] ∧
          (w = s.leader → ∀ u ∈ asking n s, u = w) ∧
          asking n t = (asking n s).filter (· ≠ w)) := by
  have hinv := run_of_along (LockInv n) (fun _ _ hs he => hs.next he) hs.inv
    (along_round horder s.leader)
  obtain ⟨d, ran, hrun, hserved, hok, hturn⟩ := hs.leaderTurn horder
  rw [Peers.round, run_append, hrun] at hinv
  rw [Peers.round, run_append, served_append, hrun, hserved]
  have hothers := (horder s.leader).1
  cases hturn with
  | nobody hasking hgranted hunit =>
    have hfree : d.Free := fun u hu => absurd hu (hgranted u)
    obtain ⟨hrest, hserved'⟩ := turns_of_free (n := n) (s := { s with data := d }) order
      hs.quiet hok hfree hothers
    rw [hrest] at hinv ⊢
    refine ⟨_, rfl, ⟨hinv, hs.leader, hs.quiet, hfree⟩, rfl, .inl ⟨hasking, hserved', ?_⟩⟩
    rw [← hasking, asking, asking, hunit]
  | grants w hw hne hgranted hunit =>
    obtain ⟨hwn, hacquire⟩ := mem_asking.mp hw
    have hheld : d.IsHeld w := by
      rw [LockData.isHeld_iff hok, hunit, hacquire]
      exact ⟨(hgranted w).mpr rfl, nofun⟩
    obtain ⟨hrest, hserved'⟩ := turns_of_held (n := n) (s := { s with data := d }) order
      hs.quiet hheld (fun u hu hu' => hu ((hgranted u).mp hu')) hok hothers
      ((horder s.leader).2 w hwn hne)
    rw [hrest] at hinv ⊢
    refine ⟨_, rfl, ⟨hinv, hs.leader, hs.quiet, fun u hu => ?_⟩, rfl,
      .inr ⟨w, hw, hserved', fun heq => absurd heq hne, asking_of_release ?_⟩⟩
    · obtain rfl := (hgranted u).mp hu
      exact LockData.release_unit_self
    · simp only [LockData.release, hunit]
  | runs hleader honly hgranted hunit =>
    have hfree : d.Free := fun u hu => absurd hu (hgranted u)
    obtain ⟨hrest, hserved'⟩ := turns_of_free (n := n) (s := { s with data := d }) order
      hs.quiet hok hfree hothers
    rw [hrest] at hinv ⊢
    refine ⟨_, rfl, ⟨hinv, hs.leader, hs.quiet, hfree⟩, rfl,
      .inr ⟨s.leader, hleader, ?_, fun _ => honly, asking_of_release hunit⟩⟩
    rw [hserved']
    rfl

/-! ## all requests -/

/-- As many rounds as there are requests. -/
def rounds (order : Nat → List Nat) (leader : Nat) (k : Nat) : List HookEvent :=
  (List.replicate k (round order leader)).flatten

theorem Resting.rounds (hs : Resting n s) (horder : Complete n order) {k : Nat}
    (hk : (asking n s).length = k) :
    (served n s (rounds order s.leader k)).Perm (asking n s) ∧
      (s.leader ∈ asking n s →
        (served n s (Peers.rounds order s.leader k)).getLast? = some s.leader) ∧
      asking n (run (next n) s (Peers.rounds order s.leader k)) = [] := by
  induction k generalizing s with
  | zero =>
    have hnil := List.length_eq_zero_iff.mp hk
    refine ⟨?_, fun hleader => ?_, hnil⟩
    · rw [hnil]
      exact .refl []
    · rw [hnil] at hleader
      cases hleader
  | succ k ih =>
    obtain ⟨t, hrun, ht, hleader, ⟨hnil, -⟩ | ⟨w, hw, hserved, hown, hasking⟩⟩ := hs.round horder
    · rw [hnil] at hk
      cases hk
    have hnodup : (asking n s).Nodup := List.nodup_range.filter _
    have herase : asking n t = (asking n s).erase w := by
      rw [hasking, hnodup.erase_eq_filter]
      refine List.filter_congr fun u _ => ?_
      by_cases hu : u = w <;> simp [hu]
    have hperm : (asking n s).Perm (w :: asking n t) := by
      rw [herase]
      exact List.perm_cons_erase hw
    have hlength : (asking n t).length = k := by
      have hlen := hperm.length_eq
      rw [hk, List.length_cons] at hlen
      omega
    obtain ⟨hserved', hlast', hnone'⟩ := ih ht hlength
    rw [hleader] at hserved' hlast' hnone'
    rw [Peers.rounds, List.replicate_succ, List.flatten_cons, served_append, run_append, hrun,
      hserved]
    refine ⟨(hserved'.cons w).trans hperm.symm, fun hmem => ?_, hnone'⟩
    by_cases hmem' : s.leader ∈ asking n t
    · have hlast := hlast' hmem'
      rw [List.singleton_append, List.getLast?_cons, Option.some.injEq]
      rw [Peers.rounds] at hlast
      rw [hlast]
      rfl
    · have hwl : w = s.leader := by
        by_contra hne
        refine hmem' ?_
        rw [hasking, List.mem_filter]
        exact ⟨hmem, by simpa using fun heq => hne heq.symm⟩
      have hempty : asking n t = [] := by
        rw [hasking, List.filter_eq_nil_iff]
        intro u hu
        simp [hown hwl u hu]
      rw [hempty] at hserved'
      rw [Peers.rounds] at hserved'
      rw [hserved'.eq_nil, hwl]
      rfl

/-- **Service**: where no hook runs and no lock is held, as many rounds as there
are requests run the callback once at each unit that asks, at the leader last,
and leave no request. -/
theorem every_request_is_served {es : List HookEvent} {leader : Nat}
    (hes : Along (next n) (Disciplined n) (initial leader) es)
    (hs : s = run (next n) (initial leader) es) (hleader : s.leader < n)
    (hquiet : ∀ u < n, s.hook u = none) (hfree : ∀ u < n, ¬s.data.IsHeld u)
    (horder : Complete n order) :
    (served n s (rounds order s.leader (asking n s).length)).Perm (asking n s) ∧
      (s.leader ∈ asking n s →
        (served n s (rounds order s.leader (asking n s).length)).getLast? = some s.leader) ∧
      asking n (run (next n) s (rounds order s.leader (asking n s).length)) = [] := by
  have hinv : LockInv n s := by
    rw [hs]
    exact run_of_along (LockInv n) (fun _ _ hs he => hs.next he) initial_lockInv hes
  refine Resting.rounds ⟨hinv, hleader, fun u => ?_, fun u hu => ?_⟩ horder rfl
  · by_contra hne
    obtain ⟨h, hh⟩ := Option.ne_none_iff_exists'.mp hne
    exact hne (hquiet u (hinv.hooks u h hh).lt)
  · by_contra hrelease
    exact hfree u (hinv.bound u hu) ((LockData.isHeld_iff hinv.ok).mpr ⟨hu, hrelease⟩)

/-- Two units ask for the lock. -/
def twoAsk : Peers :=
  run (next 3) (initial 0)
    [.starts 1 .acquireLock [0, 2], .starts 2 .acquireLock [0, 1], .ends 2, .ends 1]

/-- Each unit goes over the others in the order of their numbers. -/
def inOrder (n u : Nat) : List Nat := (List.range n).filter (· ≠ u)

theorem inOrder_complete (n : Nat) : Complete n (inOrder n) := by
  intro u
  constructor
  · intro v hv
    simpa [inOrder] using hv
  · intro v hv hne
    simp [inOrder, hv, hne]

/-- Two rounds serve both of them. -/
theorem every_request_is_served_two :
    (served 3 twoAsk (rounds (inOrder 3) 0 2)).Perm [1, 2] :=
  have hes : Along (next 3) (Disciplined 3) (initial 0)
      [.starts 1 .acquireLock [0, 2], .starts 2 .acquireLock [0, 1], .ends 2, .ends 1] := by decide
  (every_request_is_served (s := twoAsk) hes rfl (by decide) (by decide) (by decide)
    (inOrder_complete 3)).1

end Peers

end PostgresqlK8s.RollingOps
