import PostgresqlK8s.Restore.Handlers

/-!
# Restore.Frame

Most of what the handlers do has nothing to do with a restore.  The view of a
state is the part that a restore reads and writes, and a program that keeps
the view is a frame.  What holds of the view before `update-status` or
`peer-relation-changed` holds after it as soon as the check of a restore
keeps it.
-/

namespace PostgresqlK8s.Restore

open Backups EStateM

/-- The part of the state that belongs to a restore. -/
structure RestoreView where
  restoringBackup : Option String
  restoreToTime : Option String
  override : Option String
  repeatCause : Option String
  lastPitrFailId : Option String
  onFailure : String
  log : List String
  pebbleLogs : Bool
  launchedAt : Nat
  reports : List (List String)
  pitrReported : Bool

namespace RestoreView

/-- A restore is in progress. -/
def isRestoring (v : RestoreView) : Bool := v.restoringBackup.isSome || v.restoreToTime.isSome

end RestoreView

def Charm.view (s : Charm) : RestoreView where
  restoringBackup := s.app.get .restoringBackup
  restoreToTime := s.app.get .restoreToTime
  override := s.unit.get .patroniOnFailureConditionOverride
  repeatCause := s.unit.get .overriddenPatroniOnFailureConditionRepeatCause
  lastPitrFailId := s.unit.get .lastPitrFailId
  onFailure := s.onFailure
  log := s.log
  pebbleLogs := s.pebbleLogs
  launchedAt := s.launchedAt
  reports := s.reports
  pitrReported := s.pitrReported

theorem view_isRestoring (s : Charm) : s.view.isRestoring = s.isRestoring := rfl

@[simp] theorem view_setStatus (status : Status) (s : Charm) : (s.setStatus status).view = s.view :=
  rfl

@[simp] theorem view_fail (message : String) (s : Charm) : (s.fail message).view = s.view := rfl

@[simp] theorem view_setActiveStatus (leader upgradeIdle : Bool) (role : MemberRole) (s : Charm) :
    (s.setActiveStatus leader upgradeIdle role).view = s.view := by
  unfold Charm.setActiveStatus
  split
  · rfl
  · split
    · rfl
    · split
      · rfl
      · cases role <;> rfl

@[simp] theorem view_checkPgdataStorageSize (disk : DiskReading) (leader upgradeIdle : Bool)
    (role : MemberRole) (s : Charm) :
    (s.checkPgdataStorageSize disk leader upgradeIdle role).view = s.view := by
  cases disk with
  | missing => rfl
  | short => rfl
  | enough =>
      unfold Charm.checkPgdataStorageSize
      dsimp only
      split
      · rw [view_setActiveStatus, view_setStatus]
      · rfl

@[simp] theorem view_enableDisableExtensions (env : UpdateStatus) (s : Charm) :
    (s.enableDisableExtensions env).view = s.view := by
  unfold Charm.enableDisableExtensions
  cases env.extensions <;> simp

@[simp] theorem view_enterStep (step : S3Step) (s : Charm) : (s.enterStep step).view = s.view := by
  cases step <;> rfl

@[simp] theorem view_publishStanza (stanza blockMessage : String) (s : Charm) :
    (s.publishStanza stanza blockMessage).view = s.view := by
  simp [Charm.view, Charm.publishStanza]

@[simp] theorem view_cleanUpInitialisation (leader : Bool) (s : Charm) :
    (s.cleanUpInitialisation leader).view = s.view := by
  unfold Charm.cleanUpInitialisation
  split <;> simp [Charm.view]

@[simp] theorem view_handleReadOnlyMode (env : PeerRelationChanged) (s : Charm) :
    (s.handleReadOnlyMode env).view = s.view := by
  unfold Charm.handleReadOnlyMode
  split <;> simp

/-! ## frames -/

theorem triple_attempt {P E : Charm → Prop} (raised : Option PyError) (hE : ∀ s, P s → E s) :
    Triple P (attempt raised) (fun _ => P) E := by
  cases raised with
  | none => exact triple_pure fun _ hs => hs
  | some e => exact triple_throw hE

/-- What follows an attempt did not raise. -/
theorem triple_attempted {P E : Charm → Prop} (raised : Option PyError) (hE : ∀ s, P s → E s) :
    Triple P (attempt raised) (fun _ s => P s ∧ raised = none) E := by
  cases raised with
  | none => exact triple_pure fun _ hs => ⟨hs, rfl⟩
  | some e => exact triple_throw hE

/-- A program that keeps the view, also when it raises. -/
def Frames {α : Type} (x : Handler Charm α) : Prop :=
  ∀ v, Triple (fun s => s.view = v) x (fun _ s => s.view = v) (fun s => s.view = v)

section Rules

variable {α β : Type}

theorem frames_pure (a : α) : Frames (pure a : Handler Charm α) :=
  fun _ => triple_pure fun _ hs => hs

theorem frames_throw (e : PyError) : Frames (throw e : Handler Charm α) :=
  fun _ => triple_throw fun _ hs => hs

theorem frames_modify {f : Charm → Charm} (hf : ∀ s, (f s).view = s.view) :
    Frames (modify f : Handler Charm PUnit) :=
  fun _ => triple_modify fun s hs => (hf s).trans hs

/-- A sequence of handlers that leave the view alone. -/
theorem frames_bind {x : Handler Charm α} {f : α → Handler Charm β} (hx : Frames x)
    (hf : ∀ a, Frames (f a)) : Frames (x >>= f) :=
  fun v => triple_bind (hx v) fun a => hf a v

theorem frames_get {f : Charm → Handler Charm β} (hf : ∀ s, Frames (f s)) :
    Frames (get >>= f) := by
  intro v
  refine triple_get fun s hs => ?_
  refine triple_conseq (hf s v) ?_ (fun _ _ h => h) (fun _ h => h)
  rintro t rfl
  exact hs

theorem frames_ite {c : Prop} [Decidable c] {x y : Handler Charm α} (hx : Frames x)
    (hy : Frames y) : Frames (if c then x else y) := by
  split
  · exact hx
  · exact hy

/-- Whatever is attempted, the view stays. -/
theorem frames_attempt (raised : Option PyError) : Frames (attempt raised) := by
  cases raised with
  | none => exact frames_pure ()
  | some e => exact frames_throw e

end Rules

/-- The early exits look at the status and the disk. -/
theorem frames_onUpdateStatusEarlyExitChecks (env : UpdateStatus) :
    Frames (onUpdateStatusEarlyExitChecks env) := by
  unfold onUpdateStatusEarlyExitChecks
  refine frames_ite (frames_pure false) (frames_ite (frames_pure false) ?_)
  refine frames_bind (frames_modify (by simp)) fun _ => frames_get fun s => ?_
  refine frames_ite (frames_ite ?_ (frames_pure false)) (frames_pure true)
  exact frames_bind (frames_modify (by simp)) fun _ => frames_pure true

/-- So does a restart of the service. -/
theorem frames_restartInactiveService (env : UpdateStatus) (serviceActive : Bool) :
    Frames (restartInactiveService env serviceActive) := by
  refine frames_get fun s => frames_ite ?_ (frames_pure true)
  refine frames_bind (frames_attempt env.restart) fun _ => frames_ite (frames_pure true) ?_
  exact frames_bind (frames_modify (by simp)) fun _ => frames_pure false

/-- The stanza fields are none of the restore's. -/
theorem frames_coordinateStanzaFields (leader : Bool) (updateConfig : Option PyError) :
    Frames (coordinateStanzaFields leader updateConfig) := by
  have hpublish : ∀ stanza blockMessage, Frames (do
      modify (Charm.publishStanza stanza blockMessage)
      attempt updateConfig) := fun stanza blockMessage =>
    frames_bind (frames_modify (by simp)) fun _ => frames_attempt updateConfig
  refine frames_get fun s => frames_ite (frames_pure ()) (frames_ite (hpublish _ _) ?_)
  exact frames_ite (hpublish _ _) (frames_pure ())

/-- What follows the check leaves the restore alone. -/
theorem frames_finishUpdateStatus (env : UpdateStatus) : Frames (finishUpdateStatus env) :=
  frames_bind (frames_attempt _) fun _ =>
    frames_bind (frames_coordinateStanzaFields _ _) fun _ => frames_modify (by simp)

/-- So does adding members. -/
theorem frames_addMembers (leader : Bool) (members : MembersOutcome) :
    Frames (addMembers leader members) := by
  refine frames_ite ?_ (frames_pure ())
  cases members with
  | unchanged => exact frames_pure ()
  | reconfigured => exact frames_modify (by simp)
  | patchFailed error => exact frames_modify (by simp)
  | raised e => exact frames_throw e

/-- So does the initialisation of the repository. -/
theorem frames_onS3CredentialChangedPrimary (leader upgradeIdle : Bool) (role : MemberRole)
    (outcome : S3Outcome) :
    Frames (onS3CredentialChangedPrimary leader upgradeIdle role outcome) := by
  cases outcome with
  | raised e => exact frames_throw e
  | deferred => exact frames_pure false
  | failed step blockMessage =>
      refine frames_bind (frames_modify (by simp)) fun _ => frames_ite ?_ ?_
      · refine frames_bind (frames_modify fun s => ?_) fun _ => frames_pure false
        rw [view_setActiveStatus]
        simp [Charm.view]
      · refine frames_bind (frames_modify ?_) fun _ => frames_pure false
        simp [Charm.view]
  | initialised stanza =>
      refine frames_bind (frames_modify (by simp)) fun _ => frames_ite ?_ ?_
      · refine frames_bind (frames_modify ?_) fun _ => frames_pure true
        simp [Charm.view]
      · refine frames_bind (frames_modify ?_) fun _ => frames_pure true
        simp [Charm.view]

/-- So does what follows the check in a changed peer relation. -/
theorem frames_finishPeerRelationChanged (env : PeerRelationChanged) :
    Frames (finishPeerRelationChanged env) := by
  have hfinish : Frames (modify fun s =>
      (s.cleanUpInitialisation env.leader).handleReadOnlyMode env) := frames_modify (by simp)
  refine frames_bind (frames_attempt _) fun _ => frames_ite (frames_modify (by simp)) ?_
  refine frames_ite (frames_pure ()) (frames_bind (frames_coordinateStanzaFields _ _) fun _ => ?_)
  refine frames_get fun s => frames_ite ?_ hfinish
  exact frames_bind (frames_onS3CredentialChangedPrimary _ _ _ _) fun _ =>
    frames_ite hfinish (frames_pure ())

/-! ## the end of a restore -/

/-- What a databag holds behind a write. -/
def written (value : String) : Option String := if value = "" then none else some value

/-- The view without a flagged restore. -/
def RestoreView.unflag (v : RestoreView) : RestoreView :=
  { v with restoringBackup := none, restoreToTime := none }

/-- The view behind the end of an override. -/
def RestoreView.endOverride (v : RestoreView) : RestoreView :=
  if v.override.isSome then
    { v with
      override := none
      repeatCause := none
      onFailure := originalPatroniOnFailureCondition }
  else v

/-- The state behind the end of an override. -/
def Charm.endOverride (s : Charm) : Charm :=
  if s.isOverridden then { s with
    unit := s.unit.update [(.patroniOnFailureConditionOverride, ""),
      (.overriddenPatroniOnFailureConditionRepeatCause, "")]
    onFailure := originalPatroniOnFailureCondition }
  else s

/-- Ending the override touches nothing but its three fields. -/
theorem endOverride_eq (v : RestoreView) : ∃ override repeatCause onFailure,
    v.endOverride = { v with override, repeatCause, onFailure } := by
  unfold RestoreView.endOverride
  split
  · exact ⟨_, _, _, rfl⟩
  · exact ⟨_, _, _, rfl⟩

theorem view_endOverride (s : Charm) : s.endOverride.view = s.view.endOverride := by
  unfold Charm.endOverride RestoreView.endOverride
  have hoverridden : s.view.override.isSome = s.isOverridden := rfl
  rw [hoverridden]
  split
  · simp [Charm.view]
  · rfl

/-- The application's fields are not among them. -/
theorem app_endOverride (s : Charm) : s.endOverride.app = s.app := by
  unfold Charm.endOverride
  split <;> rfl

/-- Nor is the status. -/
theorem status_endOverride (s : Charm) : s.endOverride.status = s.status := by
  unfold Charm.endOverride
  split <;> rfl

theorem get_unit_endOverride (s : Charm) {k : UnitKey} (hk : k ≠ .patroniOnFailureConditionOverride)
    (hk' : k ≠ .overriddenPatroniOnFailureConditionRepeatCause) :
    s.endOverride.unit.get k = s.unit.get k := by
  unfold Charm.endOverride
  split
  · simp [hk, hk']
  · rfl

/-- What an exception at the end of a restore leaves alone. -/
structure Interrupted (s t : Charm) : Prop where
  status : t.status = s.status
  log : t.log = s.log
  pebbleLogs : t.pebbleLogs = s.pebbleLogs
  reports : t.reports = s.reports

/-- The override is ended, or the layers could not be updated in between. -/
theorem triple_restorePatroniOnFailureCondition (layers : Option PyError) (s : Charm) :
    Triple (fun t => t = s) (restorePatroniOnFailureCondition layers)
      (fun _ t => t = s.endOverride) (Interrupted s) := by
  refine triple_get fun s' hs => ?_
  subst hs
  unfold Charm.endOverride
  by_cases hoverridden : s'.isOverridden = true
  · rw [if_pos hoverridden, if_pos hoverridden]
    refine triple_bind (R := fun _ t => t = { s' with
        unit := s'.unit.update [(.patroniOnFailureConditionOverride, ""),
          (.overriddenPatroniOnFailureConditionRepeatCause, "")] })
      (triple_modify (by rintro t rfl; rfl)) fun _ => ?_
    refine triple_bind (triple_attempt layers ?_) fun _ => triple_modify ?_
    · rintro t rfl
      exact ⟨rfl, rfl, rfl, rfl⟩
    · rintro t rfl
      simp [Charm.onFailureCondition, Databag.getD]
  · rw [if_neg hoverridden, if_neg hoverridden]
    exact triple_pure fun _ h => h

/-- The end of a restore leaves neither the flags nor the override behind, and
the message of a repository that cannot be used. -/
structure Completed (check : RestoreCheck) (s t : Charm) : Prop where
  updateConfig : check.updateConfig = none
  view : t.view = s.view.unflag.endOverride
  status : t.status = s.status
  unit : ∀ k, k ≠ .patroniOnFailureConditionOverride →
    k ≠ .overriddenPatroniOnFailureConditionRepeatCause → t.unit.get k = s.unit.get k
  repository :
    (t.app.get .s3InitializationStart = s.app.get .s3InitializationStart ∧
      t.app.get .s3InitializationBlockMessage = s.app.get .s3InitializationBlockMessage) ∨
    ∃ message, check.repository = .ok (some message) ∧ t.app.get .s3InitializationStart = none ∧
      t.app.get .s3InitializationBlockMessage = written message

/-- The end of a restore, also when it raises. -/
theorem triple_completeRestore (check : RestoreCheck) (s : Charm) :
    Triple (fun t => t = s) (completeRestore check) (fun _ t => Completed check s t)
      (Interrupted s) := by
  refine triple_get fun s' hs => ?_
  subst hs
  let u : Charm := { s' with app := s'.app.update [(.restoringBackup, ""), (.restoreStanza, ""),
    (.restoreToTime, ""), (.restoreTimeline, "")] }
  have huview : u.view = s'.view.unflag := by simp [u, Charm.view, RestoreView.unflag]
  have hview : u.endOverride.view = s'.view.unflag.endOverride := by
    rw [view_endOverride, huview]
  have hinterrupted : ∀ t, t = u.endOverride → Interrupted s' t := by
    rintro t rfl
    unfold Charm.endOverride
    split <;> exact ⟨rfl, rfl, rfl, rfl⟩
  refine triple_bind (R := fun _ t => t = u) (triple_modify (by rintro t rfl; rfl)) fun _ => ?_
  refine triple_bind (triple_attempted check.updateConfig ?_) fun _ => ?_
  · rintro t rfl
    exact ⟨rfl, rfl, rfl, rfl⟩
  let ended := fun t => t = u.endOverride ∧ check.updateConfig = none
  refine triple_bind (R := fun _ => ended) ?_ fun _ => ?_
  · rintro t ⟨rfl, hconfig⟩
    refine triple_conseq (triple_restorePatroniOnFailureCondition check.layers u) (fun _ h => h)
      (fun _ _ h => ⟨h, hconfig⟩) ?_ u rfl
    rintro t ⟨hstatus, hlog, hpebbleLogs, hreports⟩
    exact ⟨hstatus, hlog, hpebbleLogs, hreports⟩
  refine triple_bind (R := fun _ => ended)
    (triple_ofExcept (fun _ _ _ h => h) fun _ _ t h => hinterrupted t h.1) fun _ => ?_
  refine triple_bind (R := fun message t => check.repository = .ok message ∧ ended t)
    (triple_ofExcept (fun _ h _ ht => ⟨h, ht⟩) fun _ _ t h => hinterrupted t h.1) fun message => ?_
  cases message with
  | none =>
      refine triple_pure ?_
      rintro t ⟨-, rfl, hconfig⟩
      refine ⟨hconfig, hview, status_endOverride u, fun k => get_unit_endOverride u, .inl ?_⟩
      rw [app_endOverride]
      simp [u]
  | some message =>
      refine triple_modify ?_
      rintro t ⟨hmessage, rfl, hconfig⟩
      refine ⟨hconfig, ?_, status_endOverride u, fun k => get_unit_endOverride u,
        .inr ⟨message, hmessage, ?_, ?_⟩⟩
      · rw [← hview]
        simp [Charm.view]
      · simp
      · simp [written]

/-! ## the check of a restore -/

/-- Looking for a new failure remembers the last one, and nothing else. -/
theorem isNewPitrFailure_remembers (s : Charm) :
    ∃ unit, s.isNewPitrFailure.2 = { s with unit } ∧
      ∀ k ≠ .lastPitrFailId, unit.get k = s.unit.get k := by
  unfold Charm.isNewPitrFailure
  split
  · unfold Charm.isPitrFailed
    split
    · exact ⟨s.unit, rfl, fun _ _ => rfl⟩
    · exact ⟨_, rfl, fun k hk => Databag.get_set_of_ne _ _ hk⟩
  · exact ⟨s.unit, rfl, fun _ _ => rfl⟩

/-- Looking for a new failure remembers the last one, and no more. -/
theorem view_isNewPitrFailure (s : Charm) :
    ∃ id, s.isNewPitrFailure.2.view = { s.view with lastPitrFailId := id } := by
  obtain ⟨unit, hs, hunit⟩ := isNewPitrFailure_remembers s
  refine ⟨unit.get .lastPitrFailId, ?_⟩
  rw [hs]
  simp [Charm.view, hunit]

/-- The check of a restore, by its exits: it reports a new failure, it finds
that the database could not be started, it waits, or it ends the restore. -/
theorem triple_wasRestoreSuccessful {check : RestoreCheck} {serviceActive : Bool}
    {P E : Charm → Prop} {Q : Bool → Charm → Prop}
    (hraised : ∀ s, P s → s.isNewPitrFailure.1 = true → E s.isNewPitrFailure.2)
    (hreport : ∀ s, P s → s.isNewPitrFailure.1 = true →
      Q false s.isNewPitrFailure.2.reportPitrFailure)
    (hfailed : ∀ s, P s → s.isNewPitrFailure.1 = false → serviceActive = false →
      s.status.message ≠ cannotRestorePitr →
      Q false (s.isNewPitrFailure.2.setStatus (.blocked failedToRestoreBackup)))
    (hwait : ∀ s, P s → s.isNewPitrFailure.1 = false → Q false s.isNewPitrFailure.2)
    (hcomplete : ∀ s, P s → s.isNewPitrFailure.1 = false → check.memberStarted = true →
      check.currentTimeline = true → Triple (fun t => t = s.isNewPitrFailure.2)
        (completeRestore check) (fun _ t => Q true t) E) :
    Triple P (wasRestoreSuccessful check serviceActive) Q E := by
  refine triple_get fun s hs => ?_
  refine triple_bind (R := fun _ t => t = s.isNewPitrFailure.2) (triple_set fun _ _ => rfl)
    fun _ => triple_ite (fun hnew => ?_) fun hnew => ?_
  · refine triple_bind (triple_attempt check.postgresqlLogs ?_) fun _ => triple_modify_return ?_
    · rintro t rfl
      exact hraised s hs hnew
    · rintro t rfl
      exact hreport s hs hnew
  have hnew := Bool.eq_false_iff.mpr hnew
  refine triple_ite (fun hinactive => ?_) fun _ => triple_ite (fun _ => ?_) fun hready => ?_
  · simp only [Bool.and_eq_true, Bool.not_eq_true', decide_eq_true_eq] at hinactive
    refine triple_modify_return ?_
    rintro t rfl
    exact hfailed s hs hnew hinactive.1 hinactive.2
  · exact triple_pure_at (hwait s hs hnew)
  · simp only [Bool.or_eq_true, Bool.not_eq_true', not_or, Bool.not_eq_false] at hready
    exact triple_bind (hcomplete s hs hnew hready.1 hready.2) fun _ => triple_pure fun _ h => h

/-! ## the handlers around the check of a restore -/

/-- A handler is committed: what it leaves behind, also when it raises. -/
theorem commit_of_triple {s : Charm} {x : Handler Charm Unit} {P Q E : Charm → Prop}
    (hx : Triple (fun t => t = s) x (fun _ => Q) E) (hok : ∀ t, Q t → P t)
    (herror : ∀ e t, E t → P (s.commit (.error e t))) : P (s.commit (x.run s)) := by
  have hrun := hx s rfl
  cases hresult : x.run s with
  | ok a t =>
      rw [hresult] at hrun
      exact hok t hrun
  | error e t =>
      rw [hresult] at hrun
      exact herror e t hrun

section Handlers

variable {α : Type} {p : RestoreView → Prop} {E : Charm → Prop}

/-- What holds of the view holds behind a frame. -/
theorem Frames.triple {x : Handler Charm α} (hx : Frames x) (hE : ∀ s, p s.view → E s) :
    Triple (fun s => p s.view) x (fun _ s => p s.view) E := by
  intro s hs
  exact triple_conseq (hx s.view) (P := fun t => t.view = s.view) (fun _ h => h)
    (fun _ t ht => by rw [ht]; exact hs) (fun t ht => hE t (by rw [ht]; exact hs)) s rfl

variable {check : RestoreCheck}

/-- A handler that touches a restore only through its check: what holds of the
view is kept if the check keeps it. -/
def AroundCheck (check : RestoreCheck) (x : Handler Charm Unit) : Prop :=
  ∀ (p : RestoreView → Prop) (E : Charm → Prop), (∀ s, p s.view → E s) →
    (∀ serviceActive, Triple (fun s => p s.view ∧ s.isRestoring = true)
      (wasRestoreSuccessful check serviceActive) (fun _ s => p s.view) E) →
    Triple (fun s => p s.view) x (fun _ s => p s.view) E

theorem triple_checkRestore {serviceActive : Bool} (hcheck : Triple
      (fun s => p s.view ∧ s.isRestoring = true) (wasRestoreSuccessful check serviceActive)
      (fun _ s => p s.view) E) :
    Triple (fun s => p s.view) (checkRestore check serviceActive) (fun _ s => p s.view) E := by
  refine triple_get fun s hs => triple_ite (fun hrestoring => ?_) fun _ => triple_pure_at hs
  exact triple_at (P := fun s => p s.view ∧ s.isRestoring = true) ⟨hs, hrestoring⟩ hcheck

/-- In `update-status` the check is all that concerns the restore. -/
theorem aroundCheck_onUpdateStatus (env : UpdateStatus) :
    AroundCheck env.check (onUpdateStatus env) := by
  intro p E hE hcheck
  have hstop : Triple (fun s => p s.view) (pure () : Handler Charm Unit) (fun _ s => p s.view) E :=
    (frames_pure ()).triple hE
  refine triple_bind ((frames_onUpdateStatusEarlyExitChecks env).triple hE) fun proceeds =>
    triple_ite (fun _ => ?_) fun _ => hstop
  refine triple_bind ((frames_attempt _).triple hE) fun _ => ?_
  cases env.service with
  | none => exact hstop
  | some serviceActive =>
      refine triple_bind ((frames_restartInactiveService env serviceActive).triple hE)
        fun recovered => triple_ite (fun _ => ?_) fun _ => hstop
      refine triple_bind (triple_checkRestore (hcheck serviceActive)) fun restored =>
        triple_ite (fun _ => ?_) fun _ => hstop
      exact (frames_finishUpdateStatus env).triple hE

/-- So it is when the peer relation changes. -/
theorem aroundCheck_onPeerRelationChanged (env : PeerRelationChanged) :
    AroundCheck env.check (onPeerRelationChanged env) := by
  intro p E hE hcheck
  have hstop : Triple (fun s => p s.view) (pure () : Handler Charm Unit) (fun _ s => p s.view) E :=
    (frames_pure ()).triple hE
  have hfinish := (frames_finishPeerRelationChanged env).triple hE
  refine triple_bind ((frames_addMembers _ _).triple hE) fun _ =>
    triple_ite (fun _ => hstop) fun _ => ?_
  split
  · exact (frames_modify (by simp)).triple hE
  · exact (frames_throw _).triple hE
  · refine triple_get fun s hs => triple_at (P := fun t => p t.view) hs ?_
    refine triple_ite (fun _ => hstop) fun _ => ?_
    cases env.service with
    | none => exact hfinish
    | some serviceActive =>
        exact triple_bind (triple_checkRestore (hcheck serviceActive)) fun restored =>
          triple_ite (fun _ => hfinish) fun _ => hstop

end Handlers

end PostgresqlK8s.Restore
