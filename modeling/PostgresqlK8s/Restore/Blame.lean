import PostgresqlK8s.Restore.Override

/-!
# Restore.Blame

Which restore a reported failure belongs to.

The check of a point-in-time restore takes a failed bootstrap in the service
log for a new one when its stamp is not the one the last check remembered.
The launch of a restore does not look at the log.  So a failure is blamed on
the right restore as long as every restore is launched behind a check that
has seen the last failure of the restores before it.
-/

namespace PostgresqlK8s.Restore

open Backups EStateM Machine

/-! ## the service log -/

theorem patroniExceptions_append (pebbleLogs : Bool) (log lines : List String) :
    patroniExceptions pebbleLogs (log ++ lines) =
      patroniExceptions pebbleLogs log ++ patroniExceptions pebbleLogs lines :=
  List.filterMap_append

theorem failureStamp_ne_empty {pebbleLogs : Bool} {line stamp : String}
    (h : failureStamp pebbleLogs line = some stamp) : stamp ≠ "" := by
  obtain ⟨cs, hcs, rfl⟩ := Option.map_eq_some_iff.mp h
  have hne : cs ≠ [] := by
    split at hcs
    · unfold pebbleFailureStamp at hcs
      dsimp only at hcs
      split at hcs
      · next hstamp =>
          cases hcs
          exact hstamp.1
      · cases hcs
    · unfold patroniFailureStamp at hcs
      dsimp only at hcs
      split at hcs
      · next hstamp =>
          cases hcs
          exact hstamp.1
      · cases hcs
  intro hempty
  exact hne (by simpa using congrArg String.toList hempty)

/-- The failure that a check takes for the last one. -/
def RestoreView.lastFailure (v : RestoreView) : Option String :=
  (patroniExceptions v.pebbleLogs v.log).getLast?

/-- The failed bootstraps since the launch of the flagged restore. -/
def RestoreView.failuresSinceLaunch (v : RestoreView) : List String :=
  patroniExceptions v.pebbleLogs (v.log.drop v.launchedAt)

/-- A check has seen the last failure in the log, if there is one. -/
def RestoreView.Observed (v : RestoreView) : Prop :=
  v.lastFailure = none ∨ v.lastFailure = v.lastPitrFailId

theorem lastFailure_ne_empty {v : RestoreView} {failure : String}
    (h : v.lastFailure = some failure) : failure ≠ "" := by
  have hmem := List.mem_of_getLast? h
  obtain ⟨line, -, hline⟩ := List.mem_filterMap.mp hmem
  exact failureStamp_ne_empty hline

/-! ## reports -/

/-- Every report of a failure comes behind a bootstrap that failed since the
launch of the restore it blames. -/
def Charm.BlamesRight (s : Charm) : Prop :=
  ∀ linesSinceLaunch ∈ s.reports, patroniExceptions s.pebbleLogs linesSinceLaunch ≠ []

/-- No point-in-time restore is flagged, and none was reported. -/
structure Charm.Unblamed (s : Charm) : Prop where
  restoreToTime : s.isClusterRestoringToTime = false
  reports : s.reports = []

/-- A point-in-time restore is launched only when a check has seen the last
failure in the log. -/
def RestoreAction.LaunchesObserved (env : RestoreAction) (s : Charm) : Prop :=
  ∀ target, env.Attempts target s → env.Launches target s → target.restoreToTime ≠ "" →
    s.view.Observed

def Event.LaunchesObserved (s : Charm) : Event → Prop
  | .restore env => env.LaunchesObserved s
  | .updateStatus _ | .peerRelationChanged _ | .logged _ => True

/-- The reports are right, and as long as no bootstrap failed since the launch
of a flagged point-in-time restore, the last failure is an observed one. -/
structure BlameInv (v : RestoreView) : Prop where
  reports : ∀ linesSinceLaunch ∈ v.reports, patroniExceptions v.pebbleLogs linesSinceLaunch ≠ []
  launchedAt : v.restoreToTime.isSome = true → v.launchedAt ≤ v.log.length
  observed : v.restoreToTime.isSome = true → v.failuresSinceLaunch = [] → v.Observed

theorem Charm.Unblamed.inv {s : Charm} (h : s.Unblamed) : BlameInv s.view := by
  have hnone : s.view.restoreToTime.isSome ≠ true := Bool.eq_false_iff.mp h.restoreToTime
  refine ⟨?_, fun hsome => absurd hsome hnone, fun hsome => absurd hsome hnone⟩
  show ∀ linesSinceLaunch ∈ s.reports, _
  rw [h.reports]
  exact nofun

/-- More lines in the log. -/
theorem BlameInv.logged {v : RestoreView} (h : BlameInv v) (lines : List String) :
    BlameInv { v with log := v.log ++ lines } where
  reports := h.reports
  launchedAt hflagged := by
    have hle := h.launchedAt hflagged
    show v.launchedAt ≤ (v.log ++ lines).length
    rw [List.length_append]
    omega
  observed hflagged hnone := by
    have hdrop : (v.log ++ lines).drop v.launchedAt = v.log.drop v.launchedAt ++ lines :=
      List.drop_append_of_le_length (h.launchedAt hflagged)
    have hsince : v.failuresSinceLaunch ++ patroniExceptions v.pebbleLogs lines = [] := by
      have hnone : patroniExceptions v.pebbleLogs ((v.log ++ lines).drop v.launchedAt) = [] := hnone
      rw [hdrop, patroniExceptions_append] at hnone
      exact hnone
    obtain ⟨hbefore, hlines⟩ := List.append_eq_nil_iff.mp hsince
    have hlast : RestoreView.lastFailure { v with log := v.log ++ lines } = v.lastFailure := by
      show (patroniExceptions v.pebbleLogs (v.log ++ lines)).getLast? = _
      rw [patroniExceptions_append, hlines, List.append_nil]
      rfl
    rw [RestoreView.Observed, hlast]
    exact h.observed hflagged hbefore

/-! ## the check -/

theorem isPitrFailed_none {s : Charm} (h : s.view.lastFailure = none) :
    s.isPitrFailed = ((false, false), s) := by
  unfold Charm.isPitrFailed
  rw [show (patroniExceptions s.pebbleLogs s.log).getLast? = none from h]

theorem isPitrFailed_some {s : Charm} {failure : String} (h : s.view.lastFailure = some failure) :
    s.isPitrFailed = ((true, decide (s.view.lastPitrFailId ≠ some failure)),
      { s with unit := s.unit.set .lastPitrFailId failure }) := by
  unfold Charm.isPitrFailed
  rw [show (patroniExceptions s.pebbleLogs s.log).getLast? = some failure from h]
  rfl

/-- The check takes the last failure for a new one when it has not seen it. -/
theorem isNewPitrFailure_iff (s : Charm) :
    s.isNewPitrFailure.1 = true ↔ s.isClusterRestoringToTime = true ∧ ¬ s.view.Observed := by
  unfold Charm.isNewPitrFailure RestoreView.Observed
  by_cases hrestoring : s.isClusterRestoringToTime = true
  · rw [if_pos hrestoring]
    cases h : s.view.lastFailure with
    | none =>
        rw [isPitrFailed_none h]
        simp
    | some failure =>
        rw [isPitrFailed_some h, Bool.true_and, decide_eq_true_iff]
        constructor
        · intro hnew
          refine ⟨hrestoring, ?_⟩
          rintro (hnone | hobserved)
          · cases hnone
          · exact hnew hobserved.symm
        · rintro ⟨-, hnew⟩ hobserved
          exact hnew (.inr hobserved.symm)
  · rw [if_neg hrestoring]
    simp [hrestoring]

/-- Behind the check the last failure is an observed one. -/
theorem observed_isNewPitrFailure {s : Charm} (hrestoring : s.isClusterRestoringToTime = true) :
    s.isNewPitrFailure.2.view.Observed := by
  unfold Charm.isNewPitrFailure
  rw [if_pos hrestoring]
  cases h : s.view.lastFailure with
  | none =>
      rw [isPitrFailed_none h]
      exact .inl h
  | some failure =>
      rw [isPitrFailed_some h]
      refine .inr (h.trans ?_)
      show some failure = (s.unit.set .lastPitrFailId failure).get .lastPitrFailId
      rw [Databag.get_set_self, if_neg (lastFailure_ne_empty h)]

/-- Remembering the last failure keeps the invariant. -/
theorem BlameInv.remember {s : Charm} (h : BlameInv s.view) :
    BlameInv s.isNewPitrFailure.2.view := by
  obtain ⟨id, hview⟩ := view_isNewPitrFailure s
  refine ⟨?_, ?_, fun hflagged _ => ?_⟩
  · rw [hview]
    exact h.reports
  · rw [hview]
    exact h.launchedAt
  · rw [hview] at hflagged
    exact observed_isNewPitrFailure hflagged

/-- A report comes behind a failure since the launch. -/
theorem BlameInv.report {s : Charm} (h : BlameInv s.view) (hnew : s.isNewPitrFailure.1 = true) :
    BlameInv s.isNewPitrFailure.2.reportPitrFailure.view := by
  obtain ⟨hrestoring, hobserved⟩ := (isNewPitrFailure_iff s).mp hnew
  have hsince : s.view.failuresSinceLaunch ≠ [] :=
    fun hnone => hobserved (h.observed hrestoring hnone)
  obtain ⟨unit, hremembered, -⟩ := isNewPitrFailure_remembers s
  refine ⟨?_, h.remember.launchedAt, h.remember.observed⟩
  rw [hremembered]
  show ∀ linesSinceLaunch ∈ s.log.drop s.launchedAt :: s.reports,
    patroniExceptions s.pebbleLogs linesSinceLaunch ≠ []
  rw [List.forall_mem_cons]
  exact ⟨hsince, h.reports⟩

/-- The check of a restore keeps the invariant and the log. -/
theorem blameInv_wasRestoreSuccessful (check : RestoreCheck) (serviceActive : Bool) (s : Charm) :
    Triple (fun t => (BlameInv t.view ∧ t.log = s.log ∧ t.pebbleLogs = s.pebbleLogs) ∧
        t.isRestoring = true)
      (wasRestoreSuccessful check serviceActive)
      (fun _ t => BlameInv t.view ∧ t.log = s.log ∧ t.pebbleLogs = s.pebbleLogs)
      (fun t => t.BlamesRight ∧ t.log = s.log ∧ t.pebbleLogs = s.pebbleLogs) := by
  have hlogs : ∀ t : Charm, t.log = s.log ∧ t.pebbleLogs = s.pebbleLogs →
      t.isNewPitrFailure.2.log = s.log ∧ t.isNewPitrFailure.2.pebbleLogs = s.pebbleLogs := by
    intro t ht
    obtain ⟨unit, hremembered, -⟩ := isNewPitrFailure_remembers t
    rw [hremembered]
    exact ht
  refine triple_wasRestoreSuccessful ?_ ?_ ?_ ?_ ?_
  · rintro t ⟨⟨ht, hlog⟩, -⟩ _
    exact ⟨ht.remember.reports, hlogs t hlog⟩
  · rintro t ⟨⟨ht, hlog⟩, -⟩ hnew
    exact ⟨ht.report hnew, hlogs t hlog⟩
  · rintro t ⟨⟨ht, hlog⟩, -⟩ _ _ _
    exact ⟨ht.remember, hlogs t hlog⟩
  · rintro t ⟨⟨ht, hlog⟩, -⟩ _
    exact ⟨ht.remember, hlogs t hlog⟩
  · rintro t ⟨⟨ht, hlog⟩, -⟩ _ _ _
    refine triple_conseq (triple_completeRestore check t.isNewPitrFailure.2) (fun _ h => h) ?_ ?_
    · intro _ u hu
      obtain ⟨override, repeatCause, onFailure, hended⟩ :=
        endOverride_eq t.isNewPitrFailure.2.view.unflag
      have hview : u.view = _ := hu.view.trans hended
      have hlog' : u.log = s.log ∧ u.pebbleLogs = s.pebbleLogs :=
        ⟨(congrArg RestoreView.log hview).trans (hlogs t hlog).1,
          (congrArg RestoreView.pebbleLogs hview).trans (hlogs t hlog).2⟩
      rw [hview]
      exact ⟨⟨ht.remember.reports, nofun, nofun⟩, hlog'⟩
    · intro u hu
      refine ⟨?_, hu.log.trans (hlogs t hlog).1, hu.pebbleLogs.trans (hlogs t hlog).2⟩
      rw [Charm.BlamesRight, hu.pebbleLogs, hu.reports]
      exact ht.remember.reports

/-! ## one step -/

/-- A handler around the check of a restore keeps the invariant, also when it
raises. -/
theorem blameInv_commit {s : Charm} {check : RestoreCheck} {x : Handler Charm Unit}
    (hs : BlameInv s.view) (hx : AroundCheck check x) : BlameInv (s.commit (x.run s)).view := by
  let p := fun v => BlameInv v ∧ v.log = s.log ∧ v.pebbleLogs = s.pebbleLogs
  have hp : p s.view := ⟨hs, rfl, rfl⟩
  have htriple := hx p (fun t => t.BlamesRight ∧ t.log = s.log ∧ t.pebbleLogs = s.pebbleLogs)
    (fun t ht => ⟨ht.1.reports, ht.2⟩) (fun serviceActive =>
      blameInv_wasRestoreSuccessful check serviceActive s)
  refine commit_of_triple (P := fun t => BlameInv t.view)
    (triple_at (P := fun t => p t.view) hp htriple) (fun t ht => ht.1) ?_
  rintro e t ⟨hblames, hlog, hpebbleLogs⟩
  have hview : (s.commit (.error e t)).view =
      { s.view with onFailure := t.onFailure, reports := t.reports } := by
    simp [Charm.commit, Charm.view, hlog, hpebbleLogs]
  rw [hview]
  refine ⟨?_, hs.launchedAt, hs.observed⟩
  show ∀ linesSinceLaunch ∈ t.reports, patroniExceptions s.pebbleLogs linesSinceLaunch ≠ []
  rw [← hpebbleLogs]
  exact hblames

/-- The invariant does not depend on the on-failure condition. -/
theorem BlameInv.congr {v w : RestoreView} (h : BlameInv v)
    (hrestoreToTime : w.restoreToTime = v.restoreToTime)
    (hid : w.lastPitrFailId = v.lastPitrFailId) (hlog : w.log = v.log)
    (hpebbleLogs : w.pebbleLogs = v.pebbleLogs) (hlaunchedAt : w.launchedAt = v.launchedAt)
    (hreports : w.reports = v.reports) : BlameInv w where
  reports := by rw [hreports, hpebbleLogs]; exact h.reports
  launchedAt := by rw [hrestoreToTime, hlaunchedAt, hlog]; exact h.launchedAt
  observed := by
    unfold RestoreView.failuresSinceLaunch RestoreView.Observed RestoreView.lastFailure
    rw [hrestoreToTime, hlaunchedAt, hlog, hpebbleLogs, hid]
    exact h.observed

/-- A restore action whose launches are observed keeps the invariant. -/
theorem blameInv_restore {s : Charm} {env : RestoreAction} (hs : BlameInv s.view)
    (hguard : env.LaunchesObserved s) : BlameInv (s.step (.restore env)).view := by
  obtain ⟨r, hstep, hexit⟩ := step_restore_exit env s
  rw [hstep]
  cases hexit with
  | refused hview _ _ _ =>
      rw [commit_ok, hview]
      exact hs
  | raised _ _ hlog hpebbleLogs hreports _ =>
      exact hs.congr rfl rfl hlog hpebbleLogs rfl hreports
  | @performed target hattempts t hview happ hstatus r hexit =>
      have ht : BlameInv t.view := by
        rw [hview]
        exact hs.congr rfl rfl rfl rfl rfl rfl
      cases hexit with
      | stopFailed _ hview' _ _ =>
          rw [commit_ok, hview']
          exact ht
      | gaveUp _ hview' _ _ =>
          rw [commit_ok, hview']
          exact ⟨ht.reports, nofun, nofun⟩
      | @launched hlaunched label u _ hview' _ _ =>
          rw [commit_ok, hview']
          refine ⟨ht.reports, fun _ => Nat.le_refl _, fun hflagged _ => ?_⟩
          have hne : target.restoreToTime ≠ "" := by
            intro hempty
            rw [hempty] at hflagged
            cases hflagged
          have hobserved : s.view.Observed :=
            hguard target hattempts (hlaunched.of_app happ.symm) hne
          rw [hview]
          exact hobserved
      | @raised _ _ e u _ hlog hpebbleLogs hreports _ =>
          have hfields : t.log = s.log ∧ t.pebbleLogs = s.pebbleLogs ∧ t.reports = s.reports := by
            have hview : t.view = _ := hview
            exact ⟨congrArg RestoreView.log hview, congrArg RestoreView.pebbleLogs hview,
              congrArg RestoreView.reports hview⟩
          exact hs.congr rfl rfl (hlog.trans hfields.1) (hpebbleLogs.trans hfields.2.1) rfl
            (hreports.trans hfields.2.2)

/-- One event keeps the invariant. -/
theorem blameInv_step {s : Charm} {e : Event} (hs : BlameInv s.view)
    (hguard : e.LaunchesObserved s) : BlameInv (s.step e).view := by
  cases e with
  | restore env => exact blameInv_restore hs hguard
  | updateStatus env => exact blameInv_commit hs (aroundCheck_onUpdateStatus env)
  | peerRelationChanged env => exact blameInv_commit hs (aroundCheck_onPeerRelationChanged env)
  | logged lines => exact hs.logged lines

/-! ## a launch behind an unobserved failure -/

/-- An `update-status` event that comes to the check of a restore. -/
def earlyCheck : UpdateStatus where
  upgradeIdle := true
  canConnect := true
  leader := true
  disk := .missing
  roleAtDisk := .other
  extensions := .noPrimary
  headlessService := none
  service := some true
  restart := none
  recovers := true
  check := {
    postgresqlLogs := none
    memberStarted := false
    currentTimeline := false
    updateConfig := none
    layers := none
    repository := .ok none }
  asyncReplication := none
  stanzaConfig := none
  role := .other

/-- Behind a launch the check comes to the log. -/
theorem run_earlyCheck {s : Charm} (hstatus : s.status = .maintenance "restoring backup")
    (hnew : s.isNewPitrFailure.1 = true) :
    (onUpdateStatus earlyCheck).run s = .ok () s.isNewPitrFailure.2.reportPitrFailure := by
  have hrestoring : s.isRestoring = true := by
    rw [Charm.isRestoring, ((isNewPitrFailure_iff s).mp hnew).1, Bool.or_true]
  have hheld : s.isHeldBack = false := by
    rw [Charm.isHeldBack, hstatus]
    rfl
  have hearly : (onUpdateStatusEarlyExitChecks earlyCheck).run s = .ok true s := by
    show (if s.isHeldBack = true then _ else pure true : Handler Charm Bool).run s = _
    rw [if_neg (Bool.eq_false_iff.mp hheld), run_pure]
  have hrestart : (restartInactiveService earlyCheck true).run s = .ok true s := by
    show (if (!s.isRestoring && !s.isUnitStopped && !true) = true then _ else pure true :
      Handler Charm Bool).run s = _
    rw [hrestoring, if_neg (by simp), run_pure]
  have hcheck : (checkRestore earlyCheck.check true).run s =
      .ok false s.isNewPitrFailure.2.reportPitrFailure := by
    show (if s.isRestoring = true then _ else _ : Handler Charm Bool).run s = _
    rw [if_pos hrestoring]
    show (if s.isNewPitrFailure.1 = true then _ else _ : Handler Charm Bool).run
      s.isNewPitrFailure.2 = _
    rw [if_pos hnew]
    rfl
  show (onUpdateStatusEarlyExitChecks earlyCheck >>= _ : Handler Charm Unit).run s = _
  rw [run_bind_of_ok hearly]
  show (restartInactiveService earlyCheck true >>= _ : Handler Charm Unit).run s = _
  rw [run_bind_of_ok hrestart]
  show (checkRestore earlyCheck.check true >>= _ : Handler Charm Unit).run s = _
  rw [run_bind_of_ok hcheck]
  rfl

/-- A failure that was not observed before the launch is blamed on it by an
early check. -/
theorem blames_launch {s : Charm} {env : RestoreAction} (h : ¬ env.LaunchesObserved s) :
    ¬ ((s.step (.restore env)).step (.updateStatus earlyCheck)).BlamesRight := by
  simp only [RestoreAction.LaunchesObserved, not_forall] at h
  obtain ⟨target, hattempts, hlaunches, hne, hobserved⟩ := h
  obtain ⟨r, hstep, hexit⟩ := step_restore_exit env s
  rw [hstep]
  cases hexit with
  | refused _ _ hrefused _ => exact absurd hattempts (hrefused target)
  | raised hrefused _ _ _ _ _ => exact absurd hattempts (hrefused target)
  | @performed target' hperformed t hview happ hstatus r hexit =>
      have htarget : target' = target := hattempts.unique hperformed
      subst htarget
      have hlaunches : env.Launches target' t := hlaunches.of_app happ
      cases hexit with
      | stopFailed hstop _ _ _ => exact absurd hlaunches.reachesData.1 hstop
      | gaveUp hgaveUp _ _ _ => exact absurd hgaveUp hlaunches.not_givesUp
      | raised _ hnot _ _ _ _ _ => exact absurd hlaunches hnot
      | @launched _ label u _ hview' _ hstatus' =>
          have hu : u.view = s.view.ignoreFailures.flag label target'.restoreToTime := by
            rw [hview', hview]
          have hflagged : u.isClusterRestoringToTime = true := by
            show u.view.restoreToTime.isSome = true
            rw [hu]
            simp [RestoreView.flag, written, hne]
          have hnew : u.isNewPitrFailure.1 = true := by
            refine (isNewPitrFailure_iff u).mpr ⟨hflagged, ?_⟩
            rw [hu]
            exact hobserved
          have hrun := run_earlyCheck (hstatus'.trans hstatus) hnew
          have hsince : u.log.drop u.launchedAt = [] := by
            show u.view.log.drop u.view.launchedAt = []
            rw [hu]
            exact List.drop_length
          rw [commit_ok]
          show ¬ (u.commit ((onUpdateStatus earlyCheck).run u)).BlamesRight
          rw [hrun, commit_ok]
          intro hblames
          obtain ⟨unit, hremembered, -⟩ := isNewPitrFailure_remembers u
          refine hblames (u.log.drop u.launchedAt) ?_ ?_
          · rw [hremembered]
            exact List.mem_cons_self
          · rw [hsince]
            rfl

/-! ## runs -/

/-- **Failures are blamed on the right restore**, by the checks of a run and by
one more check behind any of its steps, if and only if every point-in-time
restore of the run is launched when a check has seen the last failure. -/
theorem blames_right_iff (s : Charm) (hs : s.Unblamed) (es : List Event) :
    Along Charm.step (fun s e => (s.step e).BlamesRight ∧
        ∀ env, ((s.step e).step (.updateStatus env)).BlamesRight) s es ↔
      Along Charm.step (fun s e => e.LaunchesObserved s) s es := by
  refine along_congr (fun s => BlameInv s.view) (fun _ e hs hguard => blameInv_step hs hguard)
    (fun s e hs => ⟨fun hblames => ?_, fun hguard => ?_⟩) hs.inv
  · cases e with
    | restore env =>
        show env.LaunchesObserved s
        by_contra hnot
        exact blames_launch hnot (hblames.2 earlyCheck)
    | updateStatus env | peerRelationChanged env | logged lines => trivial
  · have hstep : BlameInv (s.step e).view := blameInv_step hs hguard
    exact ⟨hstep.reports, fun env => (blameInv_step (e := .updateStatus env) hstep trivial).reports⟩

/-- The line that a failed bootstrap leaves in the log. -/
def failedBootstrap : String :=
  "2024-05-17T12:00:05.000Z [postgresql] patroni.exceptions." ++
    "PatroniFatalException: Failed to bootstrap cluster"

/-- A failed restore, a check, and the next restore. -/
theorem blames_right_iff_checkedRestore : runningUnit.Unblamed ∧
    Along Charm.step (fun s e => (s.step e).BlamesRight ∧
        ∀ env, ((s.step e).step (.updateStatus env)).BlamesRight) runningUnit
      [.restore pitrRestore, .logged [failedBootstrap], .updateStatus earlyCheck,
        .restore pitrRestore] := by
  have hunblamed : runningUnit.Unblamed := ⟨by decide, rfl⟩
  refine ⟨hunblamed, (blames_right_iff runningUnit hunblamed _).mpr ?_⟩
  have hseen : (runningUnit.step (.restore pitrRestore) |>.step (.logged [failedBootstrap])
      |>.step (.updateStatus earlyCheck)).view.Observed := .inr (by decide +kernel)
  exact ⟨fun _ _ _ _ => .inl rfl, trivial, trivial, fun _ _ _ _ => hseen, trivial⟩

/-- A restore fails, no check comes before the next one is launched, and the
check behind it blames the new restore. -/
theorem uncheckedRestore_blamed : runningUnit.Unblamed ∧
    ¬ Along Charm.step (fun s e => (s.step e).BlamesRight) runningUnit
      [.restore pitrRestore, .logged [failedBootstrap], .restore pitrRestore,
        .updateStatus earlyCheck] := by
  refine ⟨⟨by decide, rfl⟩, ?_⟩
  rintro ⟨-, -, -, hblames, -⟩
  exact hblames [] (by decide +kernel) rfl

end PostgresqlK8s.Restore
