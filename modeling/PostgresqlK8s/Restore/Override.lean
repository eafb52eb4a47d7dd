import PostgresqlK8s.Restore.Exits

/-!
# Restore.Override

How long the on-failure condition of the database service stays overridden.

A restore action overrides the condition before it sets the flags of a
restore, and the check of a restore ends the override together with the
flags.  Between them lie the exits of the action that set no flags: those are
the steps that a run must not take if the override is to last exactly as long
as a restore.
-/

namespace PostgresqlK8s.Restore

open Backups EStateM Machine

/-- The override is present only while a restore is in progress, and without
one the service has its original condition. -/
def Charm.OverrideLasts (s : Charm) : Prop :=
  (s.isOverridden = true → s.isRestoring = true) ∧
    (s.isRestoring = false → s.onFailure = originalPatroniOnFailureCondition)

/-- Nothing is being restored and nothing is overridden. -/
structure Charm.Idle (s : Charm) : Prop where
  restoring : s.isRestoring = false
  overridden : s.isOverridden = false
  onFailure : s.onFailure = originalPatroniOnFailureCondition

/-- The action does not leave its override behind: when it gets past the
override it launches the restore, or a restore was in progress already and the
action does not give up. -/
def RestoreAction.KeepsOverride (env : RestoreAction) (s : Charm) : Prop :=
  ∀ target, env.Attempts target s →
    env.Launches target s ∨ s.isRestoring = true ∧ ¬ env.GivesUp s

def Event.KeepsOverride (s : Charm) : Event → Prop
  | .restore env => env.KeepsOverride s
  | .updateStatus _ | .peerRelationChanged _ | .logged _ => True

/-! ## the invariant -/

/-- The override and the flags of a restore come and go together. -/
structure OverrideInv (v : RestoreView) : Prop where
  override : v.override.isSome = v.isRestoring
  onFailure : v.isRestoring = false → v.onFailure = originalPatroniOnFailureCondition

theorem OverrideInv.lasts {s : Charm} (h : OverrideInv s.view) : s.OverrideLasts :=
  ⟨fun hoverridden => h.override.symm.trans hoverridden, h.onFailure⟩

theorem Charm.Idle.inv {s : Charm} (h : s.Idle) : OverrideInv s.view where
  override := h.overridden.trans h.restoring.symm
  onFailure _ := h.onFailure

/-! ## the check of a restore -/

/-- Behind the end of a restore nothing is flagged, nor overridden. -/
theorem Completed.overrideInv {check : RestoreCheck} {s t : Charm} (h : Completed check s t)
    (hoverridden : s.isOverridden = true) : OverrideInv t.view := by
  have hsome : s.view.unflag.override.isSome = true := hoverridden
  rw [h.view, RestoreView.endOverride, if_pos hsome]
  exact ⟨rfl, fun _ => rfl⟩

/-- The check of a restore keeps the invariant. -/
theorem overrideInv_wasRestoreSuccessful (check : RestoreCheck) (serviceActive : Bool) :
    Triple (fun s => OverrideInv s.view ∧ s.isRestoring = true)
      (wasRestoreSuccessful check serviceActive) (fun _ s => OverrideInv s.view)
      fun _ => True := by
  have hremembered : ∀ s : Charm, OverrideInv s.view → OverrideInv s.isNewPitrFailure.2.view := by
    intro s hs
    obtain ⟨id, hview⟩ := view_isNewPitrFailure s
    rw [hview]
    exact ⟨hs.override, hs.onFailure⟩
  refine triple_wasRestoreSuccessful (fun _ _ _ => trivial) ?_ ?_ ?_ ?_
  · intro s hs _
    exact ⟨(hremembered s hs.1).override, (hremembered s hs.1).onFailure⟩
  · intro s hs _ _ _
    exact hremembered s hs.1
  · intro s hs _
    exact hremembered s hs.1
  · intro s ⟨hs, hrestoring⟩ _ _ _
    have hoverridden : s.isNewPitrFailure.2.isOverridden = true := by
      obtain ⟨unit, ht, hunit⟩ := isNewPitrFailure_remembers s
      have hget := hunit .patroniOnFailureConditionOverride (by decide)
      rw [Charm.isOverridden, ht, Databag.contains]
      show (unit.get _).isSome = true
      rw [hget]
      exact hs.override.trans hrestoring
    exact triple_conseq (triple_completeRestore check s.isNewPitrFailure.2) (fun _ h => h)
      (fun _ _ h => h.overrideInv hoverridden) fun _ _ => trivial

/-! ## one step -/

/-- A handler around the check of a restore keeps the invariant, also when it
raises. -/
theorem overrideInv_commit {s : Charm} {check : RestoreCheck} {x : Handler Charm Unit}
    (hs : OverrideInv s.view) (hx : AroundCheck check x) :
    OverrideInv (s.commit (x.run s)).view := by
  -- without a restore the condition is the original one wherever the handler raises
  let p := fun v => OverrideInv v ∧ (s.isRestoring = false → v.isRestoring = false)
  have hp : p s.view := ⟨hs, fun h => h⟩
  have htriple := hx p
    (fun t => s.isRestoring = false → t.onFailure = originalPatroniOnFailureCondition)
    (fun t ht hidle => ht.1.onFailure (ht.2 hidle)) (fun serviceActive => ?_)
  · exact commit_of_triple (P := fun t => OverrideInv t.view)
      (triple_at (P := fun t => p t.view) hp htriple) (fun t ht => ht.1)
      fun e t ht => ⟨hs.override, ht⟩
  · by_cases hidle : s.isRestoring = false
    · -- the check is not reached
      rintro t ⟨⟨-, hnot⟩, hrestoring⟩
      exact absurd hrestoring (Bool.eq_false_iff.mp (hnot hidle))
    · refine triple_conseq (overrideInv_wasRestoreSuccessful check serviceActive) ?_ ?_ ?_
      · rintro t ⟨⟨ht, -⟩, hrestoring⟩
        exact ⟨ht, hrestoring⟩
      · exact fun _ t ht => ⟨ht, fun h => absurd h hidle⟩
      · exact fun _ _ h => absurd h hidle

theorem overrideInv_of_restoring {v : RestoreView} (hoverride : v.override.isSome = true)
    (hrestoring : v.isRestoring = true) : OverrideInv v where
  override := hoverride.trans hrestoring.symm
  onFailure hidle := by
    rw [hrestoring] at hidle
    cases hidle

/-- An override without a restore does not last as it should. -/
theorem not_overrideLasts {u : Charm} (hoverride : u.view.override.isSome = true)
    (hidle : u.view.isRestoring = false) : ¬ u.OverrideLasts := by
  intro hlasts
  have hrestoring : u.view.isRestoring = true := hlasts.1 hoverride
  rw [hidle] at hrestoring
  cases hrestoring

/-- The condition of an action that attempts a restore. -/
theorem keepsOverride_iff {env : RestoreAction} {target : RestoreTarget} {s : Charm}
    (hattempts : env.Attempts target s) : env.KeepsOverride s ↔
      env.Launches target s ∨ s.isRestoring = true ∧ ¬ env.GivesUp s := by
  constructor
  · exact fun hkeeps => hkeeps target hattempts
  · intro h target' hattempts'
    rw [hattempts.unique hattempts']
    exact h

/-- The exits behind the override: the ones that keep the override keep the
invariant, and behind the others the override does not last as it should. -/
theorem override_performed {env : RestoreAction} {target : RestoreTarget} {s t : Charm}
    {r : Result PyError Charm Unit} (hs : OverrideInv s.view) (hattempts : env.Attempts target s)
    (hview : t.view = s.view.ignoreFailures) (happ : t.app = s.app)
    (hexit : RestoreExit env target t r) :
    env.KeepsOverride s ∧ OverrideInv (s.commit r).view ∨
      ¬ env.KeepsOverride s ∧ ¬ (s.commit r).OverrideLasts := by
  have hoverride : t.view.override.isSome = true := by
    rw [hview]
    rfl
  have hrestoring : t.view.isRestoring = s.isRestoring := by
    rw [hview]
    rfl
  rw [keepsOverride_iff hattempts]
  cases hexit with
  | @stopFailed hstop u hview' _ _ =>
      have hlaunched : ¬ env.Launches target s := fun h => hstop h.reachesData.1
      have hgaveUp : ¬ env.GivesUp s := by
        intro h
        obtain ⟨h, -⟩ | ⟨h, -⟩ := h.failure
        · exact hstop h
        · exact hstop h.1
      rw [commit_ok, hview']
      by_cases h : s.isRestoring = true
      · exact .inl ⟨.inr ⟨h, hgaveUp⟩, overrideInv_of_restoring hoverride (hrestoring.trans h)⟩
      · refine .inr ⟨?_, not_overrideLasts (by rw [hview']; exact hoverride) ?_⟩
        · rintro (hlaunches | ⟨hflagged, -⟩)
          · exact hlaunched hlaunches
          · exact h hflagged
        · rw [hview', hrestoring]
          exact Bool.eq_false_iff.mpr h
  | @gaveUp hgaveUp u hview' _ _ =>
      refine .inr ⟨?_, not_overrideLasts ?_ ?_⟩
      · rintro (hlaunches | ⟨-, hnot⟩)
        · exact (hlaunches.of_app happ).not_givesUp hgaveUp
        · exact hnot (hgaveUp.of_app happ.symm)
      · rw [commit_ok, hview']
        exact hoverride
      · rw [commit_ok, hview']
        rfl
  | @launched hlaunched label u hlabel hview' _ _ =>
      refine .inl ⟨.inl (hlaunched.of_app happ.symm), overrideInv_of_restoring ?_ ?_⟩
      · rw [commit_ok, hview']
        exact hoverride
      · rw [commit_ok, hview', RestoreView.isRestoring, RestoreView.flag]
        obtain h | h := hlabel <;> simp [written, h]
  | @raised hgaveUp hlaunched e u honFailure _ _ _ _ =>
      have hgaveUp : ¬ env.GivesUp s := fun h => hgaveUp (h.of_app happ)
      by_cases h : s.isRestoring = true
      · exact .inl ⟨.inr ⟨h, hgaveUp⟩, hs.override, fun hnot => absurd h (Bool.eq_false_iff.mp hnot)⟩
      · refine .inr ⟨?_, fun hlasts => ?_⟩
        · rintro (hlaunches | ⟨hflagged, -⟩)
          · exact hlaunched (hlaunches.of_app happ)
          · exact h hflagged
        · -- Juju drops the override, but not the plan
          have hignore : u.onFailure = "ignore" :=
            honFailure.trans (congrArg RestoreView.onFailure hview)
          have horiginal : u.onFailure = originalPatroniOnFailureCondition :=
            hlasts.2 (Bool.eq_false_iff.mpr h)
          rw [hignore] at horiginal
          exact absurd horiginal (by decide)

/-- What a restore action leaves of the invariant: its override lasts exactly
when the action keeps it, and then the invariant does too. -/
theorem override_restore {s : Charm} (env : RestoreAction) (hs : OverrideInv s.view) :
    ((s.step (.restore env)).OverrideLasts ↔ env.KeepsOverride s) ∧
      (env.KeepsOverride s → OverrideInv (s.step (.restore env)).view) := by
  suffices h : (env.KeepsOverride s ∧ OverrideInv (s.step (.restore env)).view) ∨
      ¬ env.KeepsOverride s ∧ ¬ (s.step (.restore env)).OverrideLasts by
    obtain ⟨hkeeps, hinv⟩ | ⟨hkeeps, hlasts⟩ := h
    · exact ⟨⟨fun _ => hkeeps, fun _ => hinv.lasts⟩, fun _ => hinv⟩
    · exact ⟨⟨fun h => absurd h hlasts, fun h => absurd h hkeeps⟩, fun h => absurd h hkeeps⟩
  obtain ⟨r, hstep, hexit⟩ := step_restore_exit env s
  rw [hstep]
  cases hexit with
  | refused hview happ hattempts hstatus =>
      refine .inl ⟨fun target h => absurd h (hattempts target), ?_⟩
      rw [commit_ok, hview]
      exact hs
  | raised hattempts honFailure hlog hpebbleLogs hreports hstatus =>
      refine .inl ⟨fun target h => absurd h (hattempts target), hs.override, ?_⟩
      exact fun h => honFailure.trans (hs.onFailure h)
  | performed hattempts hview happ hstatus hexit =>
      exact override_performed hs hattempts hview happ hexit

/-- One event: the override lasts as long as a restore exactly when the event
keeps it. -/
theorem override_step {s : Charm} (e : Event) (hs : OverrideInv s.view) :
    ((s.step e).OverrideLasts ↔ e.KeepsOverride s) ∧
      (e.KeepsOverride s → OverrideInv (s.step e).view) := by
  have hkept : ∀ {t : Charm}, OverrideInv t.view →
      (t.OverrideLasts ↔ True) ∧ (True → OverrideInv t.view) :=
    fun ht => ⟨iff_true_intro ht.lasts, fun _ => ht⟩
  cases e with
  | restore env => exact override_restore env hs
  | updateStatus env => exact hkept (overrideInv_commit hs (aroundCheck_onUpdateStatus env))
  | peerRelationChanged env =>
      exact hkept (overrideInv_commit hs (aroundCheck_onPeerRelationChanged env))
  | logged lines => exact hkept ⟨hs.override, hs.onFailure⟩

/-! ## runs -/

/-- **The override lasts exactly as long as a restore** in every state of a run
if and only if every restore action of the run keeps its override. -/
theorem override_lasts_iff (s : Charm) (hs : s.Idle) (es : List Event) :
    Along Charm.step (fun s e => (s.step e).OverrideLasts) s es ↔
      Along Charm.step (fun s e => e.KeepsOverride s) s es :=
  along_congr (fun s => OverrideInv s.view) (fun _ e hs => (override_step e hs).2)
    (fun _ e hs => (override_step e hs).1) hs.inv

/-- A unit with a running database and nothing to restore. -/
def runningUnit : Charm where
  app := (∅ : Databag AppKey).set .stanza "testbed.postgresql-k8s"
  unit := ∅
  status := .active "Primary"
  onFailure := originalPatroniOnFailureCondition
  log := []
  pebbleLogs := true
  failure := none
  results := none
  launchedAt := 0
  reports := []
  pitrReported := false

/-- What `pgbackrest info` says of a repository with one full backup. -/
def oneBackup : CommandOutcome InfoDocument :=
  .exited (some [⟨"testbed.postgresql-k8s",
    [⟨"20240517-103002F", some "000000010000000000000004", false⟩]⟩]) ""

/-- A restore of that backup up to a point in time, in which everything
works. -/
def pitrRestore : RestoreAction where
  backupId := some "2024-05-17T10:30:02Z"
  restoreToTime := some "2024-05-17 12:00:00"
  settings := ⟨true, []⟩
  canConnect := true
  plannedUnits := 1
  replicating := false
  leader := true
  repository := {
    info := oneBackup
    repoLs := .exited (some []) ""
    infoForNearest := oneBackup
    repoLsForNearest := .exited (some []) ""
    infoForLabel := oneBackup }
  layers := none
  stop := none
  deletion := none
  emptyData := .exited "" ""
  createPgdata := none
  updateConfig := none
  start := none

/-- The target of that restore. -/
def pitrTarget : RestoreTarget where
  backupId := some "2024-05-17T10:30:02Z"
  stanzaTimeline := ("testbed.postgresql-k8s", "1")
  restoreToTime := "2024-05-17 12:00:00"
  named := .inl nofun

/-- The override of that restore lasts. -/
theorem override_lasts_iff_pitrRestore : runningUnit.Idle ∧
    Along Charm.step (fun s e => (s.step e).OverrideLasts) runningUnit [.restore pitrRestore] := by
  have hidle : runningUnit.Idle := ⟨by decide, by decide, rfl⟩
  have hlaunches : pitrRestore.Launches pitrTarget runningUnit :=
    ⟨⟨rfl, .inl rfl⟩, rfl, rfl, ⟨"20240517-103002F", by decide⟩, rfl, rfl⟩
  refine ⟨hidle, (override_lasts_iff runningUnit hidle _).mpr ⟨fun target h => .inl ?_, trivial⟩⟩
  have hvalid : restoreTarget pitrRestore.repository "2024-05-17T10:30:02Z" "2024-05-17 12:00:00" =
      .ok (.inr pitrTarget) := by decide
  have htarget : target = pitrTarget := by
    have h := h.valid.symm.trans hvalid
    cases h
    rfl
  rw [htarget]
  exact hlaunches

/-- The same restore when the database service cannot be stopped. -/
def unstoppableRestore : RestoreAction :=
  { pitrRestore with stop := some (.changeError "cannot perform the following tasks") }

/-- The override outlives the action that failed to stop the database. -/
theorem unstoppableRestore_override_outlives : runningUnit.Idle ∧
    ¬ Along Charm.step (fun s e => (s.step e).OverrideLasts) runningUnit
      [.restore unstoppableRestore] := by
  refine ⟨⟨by decide, by decide, rfl⟩, ?_⟩
  rintro ⟨⟨hlasts, -⟩, -⟩
  have hrestoring := hlasts (by decide)
  exact absurd hrestoring (by decide)

end PostgresqlK8s.Restore
