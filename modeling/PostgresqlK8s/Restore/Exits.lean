import PostgresqlK8s.Restore.Frame

/-!
# Restore.Exits

How a restore action ends once its parameters are valid and the on-failure
condition is overridden: the stop of the database fails, the action gives up
and restarts the database, it launches the restore, or it raises.  Every
exit comes with the answers that lead to it and with what it leaves behind.
-/

namespace PostgresqlK8s.Restore

open Backups EStateM

/-! ## the answers behind an exit -/

namespace RestoreAction

/-- The endpoints of the previous cluster could not be deleted. -/
def DeletionFails (env : RestoreAction) : Prop := ∃ text, env.deletion = some (.apiError text)

/-- The contents of the data directory could not be removed. -/
def RemovalFails (env : RestoreAction) : Prop :=
  ∃ text stdout stderr, emptyDataFiles env.emptyData = some (.execError text stdout stderr)

/-- The action gets as far as the data directory. -/
def ReachesData (env : RestoreAction) (s : Charm) : Prop :=
  env.stop = none ∧
    (env.deletion = none ∨ env.DeletionFails ∧ s.isClusterRestoringToTime = true)

/-- The action gives up: a failure that it handles, behind which the database
is restarted. -/
structure GivesUp (env : RestoreAction) (s : Charm) : Prop where
  failure : env.stop = none ∧ env.DeletionFails ∧ s.isClusterRestoringToTime = false ∨
    env.ReachesData s ∧ env.RemovalFails
  updateConfig : env.updateConfig = none
  start : env.start = none

/-- The action launches the restore. -/
structure Launches (env : RestoreAction) (target : RestoreTarget) (s : Charm) : Prop where
  reachesData : env.ReachesData s
  emptyData : emptyDataFiles env.emptyData = none
  createPgdata : env.createPgdata = none
  label : ∃ label, restoringBackup env.repository target = .ok label
  updateConfig : env.updateConfig = none
  start : env.start = none

end RestoreAction

namespace RestoreAction

variable {env : RestoreAction} {target : RestoreTarget} {s t : Charm}

theorem ReachesData.of_app (h : env.ReachesData s) (happ : t.app = s.app) :
    env.ReachesData t := by
  have hrestoring : t.isClusterRestoringToTime = s.isClusterRestoringToTime := by
    rw [Charm.isClusterRestoringToTime, happ, Charm.isClusterRestoringToTime]
  exact ⟨h.1, by rw [hrestoring]; exact h.2⟩

theorem GivesUp.of_app (h : env.GivesUp s) (happ : t.app = s.app) : env.GivesUp t := by
  have hrestoring : t.isClusterRestoringToTime = s.isClusterRestoringToTime := by
    rw [Charm.isClusterRestoringToTime, happ, Charm.isClusterRestoringToTime]
  refine ⟨?_, h.updateConfig, h.start⟩
  obtain ⟨hstop, hfails, hnot⟩ | ⟨hreach, hfails⟩ := h.failure
  · exact .inl ⟨hstop, hfails, hrestoring.trans hnot⟩
  · exact .inr ⟨hreach.of_app happ, hfails⟩

theorem Launches.of_app (h : env.Launches target s) (happ : t.app = s.app) :
    env.Launches target t :=
  ⟨h.reachesData.of_app happ, h.emptyData, h.createPgdata, h.label, h.updateConfig, h.start⟩

/-- Where the action reaches the data directory, it gives up only there. -/
theorem ReachesData.removalFails (h : env.ReachesData s) (hgaveUp : env.GivesUp s) :
    env.RemovalFails := by
  obtain ⟨-, ⟨text, htext⟩, hnot⟩ | ⟨-, hfails⟩ := hgaveUp.failure
  · obtain ⟨-, hdeletion | ⟨-, hrestoring⟩⟩ := h
    · rw [hdeletion] at htext
      cases htext
    · rw [hnot] at hrestoring
      cases hrestoring
  · exact hfails

/-- An action that launches a restore does not give up. -/
theorem Launches.not_givesUp (h : env.Launches target s) : ¬ env.GivesUp s := by
  intro hgaveUp
  obtain ⟨text, stdout, stderr, hfails⟩ := h.reachesData.removalFails hgaveUp
  rw [h.emptyData] at hfails
  cases hfails

end RestoreAction

/-! ## the exits -/

/-- The view behind a launch. -/
def RestoreView.flag (label restoreToTime : String) (v : RestoreView) : RestoreView :=
  { v with
    restoringBackup := written label
    restoreToTime := written restoreToTime
    launchedAt := v.log.length
    pitrReported := false }

/-- The exits of an action that has overridden the on-failure condition. -/
inductive RestoreExit (env : RestoreAction) (target : RestoreTarget) (s : Charm) :
    Result PyError Charm Unit → Prop
  | stopFailed (hstop : env.stop ≠ none) {t : Charm} (hview : t.view = s.view)
      (happ : t.app = s.app) (hstatus : t.status = s.status) : RestoreExit env target s (.ok () t)
  | gaveUp (h : env.GivesUp s) {t : Charm} (hview : t.view = s.view.unflag)
      (hblock : t.app.get .s3InitializationBlockMessage = s.app.get .s3InitializationBlockMessage)
      (hstatus : t.status = s.status) : RestoreExit env target s (.ok () t)
  | launched (h : env.Launches target s) {label : String} {t : Charm}
      (hlabel : label ≠ "" ∨ target.restoreToTime ≠ "")
      (hview : t.view = s.view.flag label target.restoreToTime)
      (hblock : t.app.get .s3InitializationBlockMessage = none)
      (hstatus : t.status = s.status) : RestoreExit env target s (.ok () t)
  | raised (hgaveUp : ¬ env.GivesUp s) (hlaunched : ¬ env.Launches target s) {e : PyError}
      {t : Charm} (honFailure : t.onFailure = s.onFailure) (hlog : t.log = s.log)
      (hpebbleLogs : t.pebbleLogs = s.pebbleLogs) (hreports : t.reports = s.reports)
      (hstatus : t.status = s.status) : RestoreExit env target s (.error e t)

section Exits

variable {env : RestoreAction} {target : RestoreTarget} {s : Charm}

/-- A failure that the action handles ends in a restart, which may raise. -/
theorem restartDatabase_exit (message : String)
    (hfailure : env.stop = none ∧ env.DeletionFails ∧ s.isClusterRestoringToTime = false ∨
      env.ReachesData s ∧ env.RemovalFails) (hlaunched : ¬ env.Launches target s) :
    RestoreExit env target s ((do
      modify (Charm.fail message)
      restartDatabase env : Handler Charm Unit).run s) := by
  have hraised : env.updateConfig ≠ none ∨ env.start ≠ none → ¬ env.GivesUp s := by
    rintro (h | h) hgaveUp
    · exact h hgaveUp.updateConfig
    · exact h hgaveUp.start
  cases hconfig : env.updateConfig with
  | some e =>
      simp only [restartDatabase, attempt, hconfig, run_bind, run_modify, run_throw]
      exact .raised (hraised (.inl (by simp [hconfig]))) hlaunched rfl rfl rfl rfl rfl
  | none =>
      cases hstart : env.start with
      | some e =>
          simp only [restartDatabase, attempt, hconfig, hstart, run_bind, run_modify, run_throw,
            run_pure]
          exact .raised (hraised (.inr (by simp [hstart]))) hlaunched rfl rfl rfl rfl rfl
      | none =>
          simp only [restartDatabase, attempt, hconfig, hstart, run_bind, run_modify, run_pure]
          refine .gaveUp ⟨hfailure, hconfig, hstart⟩ ?_ ?_ rfl
          · simp [Charm.view, Charm.fail, RestoreView.unflag]
          · simp [Charm.fail]

/-- The last part raises or launches the restore. -/
theorem launchRestore_exit (hreach : env.ReachesData s)
    (hempty : emptyDataFiles env.emptyData = none) :
    RestoreExit env target s ((launchRestore env target).run s) := by
  have hgaveUp : ¬ env.GivesUp s := by
    intro h
    obtain ⟨text, stdout, stderr, hfails⟩ := hreach.removalFails h
    rw [hempty] at hfails
    cases hfails
  have hraised : env.createPgdata ≠ none ∨ (∃ e, restoringBackup env.repository target = .error e) ∨
      env.updateConfig ≠ none ∨ env.start ≠ none → ¬ env.Launches target s := by
    rintro (h | ⟨e, h⟩ | h | h) hlaunched
    · exact h hlaunched.createPgdata
    · obtain ⟨label, hlabel⟩ := hlaunched.label
      rw [h] at hlabel
      cases hlabel
    · exact h hlaunched.updateConfig
    · exact h hlaunched.start
  cases hpgdata : env.createPgdata with
  | some e =>
      simp only [launchRestore, attempt, hpgdata, run_bind, run_throw]
      exact .raised hgaveUp (hraised (.inl (by simp [hpgdata]))) rfl rfl rfl rfl rfl
  | none =>
  cases hlabel : restoringBackup env.repository target with
  | error e =>
      simp only [launchRestore, attempt, hpgdata, hlabel, run_bind, run_pure,
        MonadExcept.ofExcept]
      exact .raised hgaveUp (hraised (.inr (.inl ⟨e, hlabel⟩))) rfl rfl rfl rfl rfl
  | ok label =>
  cases hconfig : env.updateConfig with
  | some e =>
      simp only [launchRestore, attempt, hpgdata, hlabel, hconfig, run_bind, run_throw, run_pure,
        MonadExcept.ofExcept, run_modify]
      exact .raised hgaveUp (hraised (.inr (.inr (.inl (by simp [hconfig]))))) rfl rfl rfl rfl rfl
  | none =>
  cases hstart : env.start with
  | some e =>
      simp only [launchRestore, attempt, hpgdata, hlabel, hconfig, hstart, run_bind, run_throw,
        run_pure, MonadExcept.ofExcept, run_modify]
      exact .raised hgaveUp (hraised (.inr (.inr (.inr (by simp [hstart]))))) rfl rfl rfl rfl rfl
  | none =>
      simp only [launchRestore, attempt, hpgdata, hlabel, hconfig, hstart, run_bind, run_pure,
        MonadExcept.ofExcept, run_modify]
      have hnamed : label ≠ "" ∨ target.restoreToTime ≠ "" :=
        target.named.imp (restoringBackup_ne_empty hlabel) id
      refine .launched ⟨hreach, hempty, hpgdata, ⟨label, hlabel⟩, hconfig, hstart⟩ hnamed ?_ ?_ rfl
      · simp [Charm.view, Charm.flagRestore, RestoreView.flag, written]
      · simp [Charm.flagRestore]

theorem removeData_exit (hreach : env.ReachesData s) :
    RestoreExit env target s ((removeData env target).run s) := by
  unfold removeData
  split
  · next hempty => exact launchRestore_exit hreach hempty
  · next text stdout stderr hempty =>
      have hlaunched : ¬ env.Launches target s := by
        intro h
        rw [h.emptyData] at hempty
        cases hempty
      exact restartDatabase_exit _ (.inr ⟨hreach, text, stdout, stderr, hempty⟩) hlaunched
  · next e hnot hempty =>
      rw [run_throw]
      refine .raised ?_ ?_ rfl rfl rfl rfl rfl
      · intro h
        obtain ⟨text, stdout, stderr, hfails⟩ := hreach.removalFails h
        rw [hempty] at hfails
        cases hfails
        exact hnot _ _ _ rfl
      · intro h
        rw [h.emptyData] at hempty
        cases hempty

theorem removeClusterInformation_exit (hstop : env.stop = none) :
    RestoreExit env target s ((removeClusterInformation env target).run s) := by
  unfold removeClusterInformation
  split
  · next hdeletion => exact removeData_exit ⟨hstop, .inl hdeletion⟩
  · next text hdeletion =>
      rw [run_bind]
      show RestoreExit env target s (EStateM.run (if s.isClusterRestoringToTime = true then _
        else _) s)
      split
      · next hrestoring => exact removeData_exit ⟨hstop, .inr ⟨⟨text, hdeletion⟩, hrestoring⟩⟩
      · next hrestoring =>
          have hrestoring := Bool.eq_false_iff.mpr hrestoring
          refine restartDatabase_exit _ (.inl ⟨hstop, ⟨text, hdeletion⟩, hrestoring⟩) ?_
          rintro ⟨⟨-, h | ⟨-, h⟩⟩, -⟩
          · rw [hdeletion] at h
            cases h
          · rw [hrestoring] at h
            cases h
  · next e hnot hdeletion =>
      rw [run_throw]
      have hnone : env.deletion ≠ none := by simp [hdeletion]
      have hfails : ¬ env.DeletionFails := by
        rintro ⟨text, htext⟩
        rw [hdeletion] at htext
        cases htext
        exact hnot _ rfl
      refine .raised ?_ ?_ rfl rfl rfl rfl rfl
      · rintro ⟨⟨-, h, -⟩ | ⟨⟨-, h | ⟨h, -⟩⟩, -⟩, -, -⟩
        · exact hfails h
        · exact hnone h
        · exact hfails h
      · rintro ⟨⟨-, h | ⟨h, -⟩⟩, -⟩
        · exact hnone h
        · exact hfails h

/-- **The exits of a restore action** behind the override. -/
theorem performRestore_exit (env : RestoreAction) (target : RestoreTarget) (s : Charm) :
    RestoreExit env target s ((performRestore env target).run s) := by
  unfold performRestore
  split
  · next hstop => exact removeClusterInformation_exit hstop
  · next text hstop =>
      rw [run_modify]
      exact .stopFailed (by simp [hstop]) rfl rfl rfl
  · next e hnot hstop =>
      rw [run_throw]
      refine .raised ?_ ?_ rfl rfl rfl rfl rfl
      · rintro ⟨⟨h, -⟩ | ⟨⟨h, -⟩, -⟩, -, -⟩ <;> simp [hstop] at h
      · rintro ⟨⟨h, -⟩, -⟩
        simp [hstop] at h

end Exits

/-! ## the whole action -/

/-- The view behind the override of the on-failure condition. -/
def RestoreView.ignoreFailures (v : RestoreView) : RestoreView :=
  { v with
    override := some "ignore"
    repeatCause := some "restore-backup"
    onFailure := "ignore" }

/-- The action gets past its checks, its parameters name the target, and it
overrides the on-failure condition: an earlier override has the same cause,
and the Pebble plan takes the new one. -/
structure RestoreAction.Attempts (env : RestoreAction) (target : RestoreTarget) (s : Charm) :
    Prop where
  checks : preRestoreChecks env s.status = .ok none
  valid : restoreTarget env.repository (env.backupId.getD "") (env.restoreToTime.getD "") =
    .ok (.inr target)
  repeatCause : ¬ (s.isOverridden = true ∧
    s.unit.get .overriddenPatroniOnFailureConditionRepeatCause ≠ some "restore-backup")
  layers : env.layers = none

namespace RestoreAction.Attempts

variable {env : RestoreAction} {target target' : RestoreTarget} {s t : Charm}

/-- The parameters of an action name one target. -/
theorem unique (h : env.Attempts target s) (h' : env.Attempts target' t) : target' = target := by
  have hvalid := h'.valid.symm.trans h.valid
  cases hvalid
  rfl

/-- Only the status and the unit databag are checked. -/
theorem of_status_unit (h : env.Attempts target s) (hstatus : t.status = s.status)
    (hunit : t.unit = s.unit) : env.Attempts target t := by
  refine ⟨?_, h.valid, ?_, h.layers⟩
  · rw [hstatus]
    exact h.checks
  · rw [Charm.isOverridden, hunit]
    exact h.repeatCause

end RestoreAction.Attempts

/-- The exits of the action: it is refused by a check or by the override, it
raises before the override is in place, or it is performed. -/
inductive ActionExit (env : RestoreAction) (s : Charm) : Result PyError Charm Unit → Prop
  | refused {t : Charm} (hview : t.view = s.view) (happ : t.app = s.app)
      (hattempts : ∀ target, ¬ env.Attempts target s)
      (hstatus : t.status = s.status ∨ t.status = .maintenance "restoring backup") :
      ActionExit env s (.ok () t)
  | raised {e : PyError} {t : Charm} (hattempts : ∀ target, ¬ env.Attempts target s)
      (honFailure : t.onFailure = s.onFailure) (hlog : t.log = s.log)
      (hpebbleLogs : t.pebbleLogs = s.pebbleLogs) (hreports : t.reports = s.reports)
      (hstatus : t.status = s.status ∨ t.status = .maintenance "restoring backup") :
      ActionExit env s (.error e t)
  | performed {target : RestoreTarget} (hattempts : env.Attempts target s) {t : Charm}
      (hview : t.view = s.view.ignoreFailures) (happ : t.app = s.app)
      (hstatus : t.status = .maintenance "restoring backup") {r : Result PyError Charm Unit}
      (hexit : RestoreExit env target t r) : ActionExit env s r

section Action

variable {env : RestoreAction} {target : RestoreTarget} {s : Charm}

/-- The state behind the override of the on-failure condition. -/
def Charm.overrideOnFailure (s : Charm) : Charm :=
  { s with
    unit := s.unit.update [(.patroniOnFailureConditionOverride, "ignore"),
      (.overriddenPatroniOnFailureConditionRepeatCause, "restore-backup")]
    onFailure := "ignore" }

/-- The override keeps the repeat cause of an earlier one, so it has to be the
same. -/
theorem set_override_of_repeatCause (h : s.unit.get
      .overriddenPatroniOnFailureConditionRepeatCause = some "restore-backup") :
    s.unit.set .patroniOnFailureConditionOverride "ignore" = s.overrideOnFailure.unit := by
  ext k : 2
  cases k <;> simp [Charm.overrideOnFailure, h]

theorem run_override (layers : Option PyError) (s : Charm) :
    (overridePatroniOnFailureCondition layers "ignore" "restore-backup").run s =
      if s.isOverridden = true ∧ s.unit.get .overriddenPatroniOnFailureConditionRepeatCause ≠
          some "restore-backup" then .ok false s
      else match layers with
        | some e => .error e { s with unit := s.overrideOnFailure.unit }
        | none => .ok true s.overrideOnFailure := by
  have hlayers : ∀ t : Charm, t.unit = s.overrideOnFailure.unit →
      (do updatePebbleLayers layers; return true : Handler Charm Bool).run t =
        match layers with
        | some e => .error e t
        | none => .ok true { t with onFailure := "ignore" } := by
    intro t ht
    have hcondition : t.onFailureCondition = "ignore" := by
      rw [Charm.onFailureCondition, ht]
      simp [Charm.overrideOnFailure, Databag.getD]
    cases layers with
    | some e => rfl
    | none =>
        show Result.ok true { t with onFailure := t.onFailureCondition } = _
        rw [hcondition]
  unfold overridePatroniOnFailureCondition
  simp only [run_bind, run_get]
  by_cases hoverridden : s.isOverridden = true
  · by_cases hcause : s.unit.get .overriddenPatroniOnFailureConditionRepeatCause =
        some "restore-backup"
    · have hset := set_override_of_repeatCause hcause
      rw [if_pos hoverridden, if_neg (not_not.mpr hcause), if_neg (fun h => h.2 hcause), run_bind,
        run_modify]
      refine (hlayers _ hset).trans ?_
      rw [hset]
      cases layers <;> rfl
    · rw [if_pos hoverridden, if_pos hcause, if_pos ⟨hoverridden, hcause⟩, run_pure]
  · rw [if_neg hoverridden, if_neg (fun h => hoverridden h.1), run_bind, run_modify]
    refine (hlayers { s with unit := s.overrideOnFailure.unit } rfl).trans ?_
    cases layers <;> rfl

theorem startRestore_exit (hchecks : preRestoreChecks env s.status = .ok none)
    (hvalid : restoreTarget env.repository (env.backupId.getD "") (env.restoreToTime.getD "") =
      .ok (.inr target)) :
    ActionExit env s ((startRestore env target).run s) := by
  let s' := s.setStatus (.maintenance "restoring backup")
  have hrun : (startRestore env target).run s = (do
      let overridden ← overridePatroniOnFailureCondition env.layers "ignore" "restore-backup"
      if overridden then performRestore env target
      else modify (.fail "Failed to override Patroni on-failure condition") :
        Handler Charm Unit).run s' := rfl
  rw [hrun, run_bind, run_override]
  by_cases h : s'.isOverridden = true ∧
      s'.unit.get .overriddenPatroniOnFailureConditionRepeatCause ≠ some "restore-backup"
  · rw [if_pos h]
    exact .refused rfl rfl (fun _ hattempts => hattempts.repeatCause h) (.inr rfl)
  · rw [if_neg h]
    cases hlayers : env.layers with
    | some e =>
        refine .raised ?_ rfl rfl rfl rfl (.inr rfl)
        intro target hattempts
        have hnone := hattempts.layers
        rw [hlayers] at hnone
        cases hnone
    | none =>
        have hview : s'.overrideOnFailure.view = s.view.ignoreFailures := by
          simp [Charm.view, Charm.overrideOnFailure, RestoreView.ignoreFailures, s',
            Charm.setStatus]
        exact .performed (t := s'.overrideOnFailure) ⟨hchecks, hvalid, h, hlayers⟩ hview rfl rfl
          (performRestore_exit env target s'.overrideOnFailure)

/-- **The exits of a restore action.** -/
theorem onRestoreAction_exit (env : RestoreAction) (s : Charm) :
    ActionExit env s ((onRestoreAction env).run s) := by
  simp only [onRestoreAction, run_bind, run_get]
  cases hchecks : preRestoreChecks env s.status with
  | error e =>
      refine .raised ?_ rfl rfl rfl rfl (.inl rfl)
      intro target hattempts
      have hpass := hattempts.checks
      rw [hchecks] at hpass
      cases hpass
  | ok refusal =>
      cases refusal with
      | some message =>
          refine .refused rfl rfl ?_ (.inl rfl)
          intro target hattempts
          have hpass := hattempts.checks
          rw [hchecks] at hpass
          cases hpass
      | none =>
          cases hvalid : restoreTarget env.repository (env.backupId.getD "")
              (env.restoreToTime.getD "") with
          | error e =>
              refine .raised ?_ rfl rfl rfl rfl (.inl rfl)
              intro target hattempts
              have htarget := hattempts.valid
              rw [hvalid] at htarget
              cases htarget
          | ok answer =>
              cases answer with
              | inl message =>
                  refine .refused rfl rfl ?_ (.inl rfl)
                  intro target hattempts
                  have htarget := hattempts.valid
                  rw [hvalid] at htarget
                  cases htarget
              | inr target => exact startRestore_exit hchecks hvalid

/-- The exits of a restore event, which starts with an empty outcome. -/
theorem step_restore_exit (env : RestoreAction) (s : Charm) :
    ∃ r, s.step (.restore env) = s.commit r ∧ ActionExit env s r := by
  let s' : Charm := { s with failure := none, results := none }
  refine ⟨(onRestoreAction env).run s', rfl, ?_⟩
  have hexit := onRestoreAction_exit env s'
  generalize (onRestoreAction env).run s' = r at hexit
  cases hexit with
  | refused hview happ hattempts hstatus =>
      exact .refused hview happ (fun target h => hattempts target (h.of_status_unit rfl rfl)) hstatus
  | raised hattempts honFailure hlog hpebbleLogs hreports hstatus =>
      exact .raised (fun target h => hattempts target (h.of_status_unit rfl rfl)) honFailure hlog
        hpebbleLogs hreports hstatus
  | @performed target hattempts t hview happ hstatus r hexit =>
      have hattempts : env.Attempts target s := hattempts.of_status_unit rfl rfl
      exact .performed hattempts hview happ hstatus hexit

end Action

end PostgresqlK8s.Restore
