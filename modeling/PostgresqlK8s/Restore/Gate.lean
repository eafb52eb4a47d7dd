import PostgresqlK8s.Restore.Blame

/-!
# Restore.Gate

Whether another restore is admitted behind a failed point-in-time restore.

The unit status is read back as state: by the status gate of the restore
action, by the early exits of `update-status`, and by the check of a restore,
which tells a failure that it has reported by its message.  The check of the
disk writes over that message and later takes its own back, so the check of
the restore can find the service down without knowing about the failure, and
blocks the unit with a message that the gate refuses.

Behind a reported failure the gate stays open as long as no handler does that,
and as long as the unit is not blocked for another reason: a pod that cannot
be patched, a configuration that is not valid, or an S3 initialisation that
fails.
-/

namespace PostgresqlK8s.Restore

open Backups EStateM Machine

/-- A reported failure of a point-in-time restore can be recovered from: unless
the disk is reported as short, the status gate admits another restore. -/
def Charm.Recoverable (s : Charm) : Prop :=
  s.pitrReported = true → s.status.message ≠ insufficientSizeWarning →
    statusGateAdmits s.status = true

/-- No point-in-time restore is flagged, and no reported failure stands. -/
structure Charm.Unreported (s : Charm) : Prop where
  restoreToTime : s.isClusterRestoringToTime = false
  pitrReported : s.pitrReported = false

/-! ## the steps that close the gate -/

/-- A point-in-time restore is flagged, or its reported failure stands. -/
def Charm.Stands (s : Charm) : Prop := s.pitrReported = true ∨ s.isClusterRestoringToTime = true

/-- A message that may come into the databag: none, or one that the gate
admits. -/
def Admitted (message : String) : Prop :=
  message = "" ∨ statusGateAdmits (.blocked message) = true

/-- The outcome of an S3 initialisation that waits in the unit databag, if
there is one, may be published. -/
def Charm.PublishesAdmitted (s : Charm) : Prop :=
  s.app.contains .s3InitializationStart = true → s.unit.contains .s3InitializationDone = true →
    ∀ m, s.unit.get .s3InitializationBlockMessage = some m → statusGateAdmits (.blocked m) = true

/-- The check ends the restore. -/
structure RestoreCheck.Ends (check : RestoreCheck) (s : Charm) : Prop where
  noFailure : s.isNewPitrFailure.1 = false
  memberStarted : check.memberStarted = true
  currentTimeline : check.currentTimeline = true
  updateConfig : check.updateConfig = none

/-- An `update-status` event gets past the early exits: the unit is not held
back, or by a plugin only, or the disk that held it back has space again. -/
structure UpdateStatus.Proceeds (env : UpdateStatus) (s : Charm) : Prop where
  upgradeIdle : env.upgradeIdle = true
  canConnect : env.canConnect = true
  disk : env.disk ≠ .short
  released : s.isHeldBack = false ∨ s.status.message = extensionObjectMessage ∨
    s.status.message = insufficientSizeWarning ∧ env.disk = .enough
  headlessService : env.headlessService = none

/-- What an `update-status` event that comes to its end has met. -/
structure UpdateStatus.Finishes (env : UpdateStatus) (s : Charm) : Prop where
  proceeds : env.Proceeds s
  restored : s.isRestoring = true → env.check.Ends s

/-- The leader comes to publish the outcome of an S3 initialisation. -/
def UpdateStatus.Publishes (env : UpdateStatus) (s : Charm) : Prop :=
  env.leader = true ∧ env.Finishes s

/-- An `update-status` event keeps the gate open. -/
structure UpdateStatus.KeepsOpen (env : UpdateStatus) (s : Charm) : Prop where
  service : s.pitrReported = true → env.Proceeds s → s.isRestoring = true →
    s.status.message ≠ cannotRestorePitr → s.isNewPitrFailure.1 = false → env.service ≠ some false
  repository : s.pitrReported = true → env.Finishes s → s.isRestoring = true →
    ∀ m, env.check.repository = .ok (some m) → Admitted m
  published : s.Stands → env.Publishes s → s.PublishesAdmitted

/-- A `peer-relation-changed` event gets past the members of the cluster. -/
structure PeerRelationChanged.Arrives (env : PeerRelationChanged) : Prop where
  members : ∀ e, env.leader = true → env.members ≠ .raised e
  isMember : env.isMember = true
  canConnect : env.canConnect = true

/-- The leader has written over the status that it found. -/
def PeerRelationChanged.Reconfigures (env : PeerRelationChanged) : Prop :=
  env.leader = true ∧ env.members = .reconfigured

/-- A `peer-relation-changed` event gets past the early exits. -/
structure PeerRelationChanged.Proceeds (env : PeerRelationChanged) (s : Charm) : Prop where
  arrives : env.Arrives
  updateConfig : env.updateConfig = none
  unblocked : env.Reconfigures ∨ s.status.isBlocked = false

/-- What a `peer-relation-changed` event that comes to its end has met; a
restore is not checked when Pebble does not know the service. -/
structure PeerRelationChanged.Finishes (env : PeerRelationChanged) (s : Charm) : Prop where
  proceeds : env.Proceeds s
  restored : s.isRestoring = true → env.service = none ∨ env.check.Ends s

/-- The leader comes to publish the outcome of an S3 initialisation. -/
def PeerRelationChanged.Publishes (env : PeerRelationChanged) (s : Charm) : Prop :=
  env.leader = true ∧ env.Finishes s

/-- A `peer-relation-changed` event keeps the gate open. -/
structure PeerRelationChanged.KeepsOpen (env : PeerRelationChanged) (s : Charm) : Prop where
  members : s.pitrReported = true → env.leader = true → ∀ error, env.members ≠ .patchFailed error
  updateConfig : s.pitrReported = true → env.Arrives →
    ∀ error, env.updateConfig ≠ some (.valueError error)
  service : s.pitrReported = true → env.Proceeds s → s.isRestoring = true →
    env.Reconfigures ∨ s.status.message ≠ cannotRestorePitr →
    s.isNewPitrFailure.1 = false → env.service ≠ some false
  repository : s.pitrReported = true → env.Finishes s → s.isRestoring = true →
    ∀ m, env.check.repository = .ok (some m) → Admitted m
  published : s.Stands → env.Publishes s → s.PublishesAdmitted
  s3 : s.Stands → env.Publishes s → env.primary = true →
    s.app.contains .s3InitializationStart = true →
    ∀ step m, env.s3 = .failed step m → Admitted m

def Event.KeepsOpen (s : Charm) : Event → Prop
  | .updateStatus env => env.KeepsOpen s
  | .peerRelationChanged env => env.KeepsOpen s
  | .restore _ | .logged _ => True

/-! ## statuses -/

/-- The disk is reported as short, or the gate is open; and no plugin holds
the unit back. -/
def StaysOpen (status : Status) : Prop :=
  status.message = insufficientSizeWarning ∨
    statusGateAdmits status = true ∧ status.message ≠ extensionObjectMessage

/-- The gate is open to a unit that is not blocked. -/
theorem staysOpen_of_not_blocked {status : Status} (hblocked : status.isBlocked = false)
    (hmessage : status.message ≠ extensionObjectMessage) : StaysOpen status := by
  refine .inr ⟨?_, hmessage⟩
  rw [statusGateAdmits, hblocked]
  rfl

theorem staysOpen_active {message : String} (h : message ≠ extensionObjectMessage) :
    StaysOpen (.active message) := staysOpen_of_not_blocked rfl h

/-- So it is to a message that it admits. -/
theorem staysOpen_of_admits {message : String}
    (h : statusGateAdmits (.blocked message) = true) : StaysOpen (.blocked message) := by
  refine .inr ⟨h, ?_⟩
  rintro rfl
  exact absurd h (by decide)

theorem StaysOpen.message_ne {status : Status} (h : StaysOpen status) :
    status.message ≠ extensionObjectMessage := by
  obtain h | ⟨-, h⟩ := h
  · rw [h]
    decide
  · exact h

/-- The active status leaves the gate open, where the message of S3 that it may show is
admitted. -/
theorem staysOpen_setActiveStatus {leader upgradeIdle : Bool} {role : MemberRole} {t : Charm}
    (ht : StaysOpen t.status) (hblock : ∀ m, t.app.get .s3InitializationBlockMessage = some m →
      statusGateAdmits (.blocked m) = true) :
    StaysOpen (t.setActiveStatus leader upgradeIdle role).status := by
  unfold Charm.setActiveStatus
  split
  · exact ht
  · split
    · next h =>
        obtain ⟨m, -, hm⟩ := (t.app.contains_iff .s3InitializationBlockMessage).mp
          (Bool.and_eq_true_iff.mp h).2
        rw [Databag.getD, hm]
        exact staysOpen_of_admits (hblock m hm)
    · split
      · exact ht
      · cases role with
        | unreachable | other => exact ht
        | started => exact staysOpen_active (by decide)
        | primary standbyLeader degraded =>
            exact staysOpen_active (by cases standbyLeader <;> cases degraded <;> decide)

/-- So does the check of the disk. -/
theorem staysOpen_checkPgdataStorageSize {disk : DiskReading} {leader upgradeIdle : Bool}
    {role : MemberRole} {t : Charm} (ht : StaysOpen t.status)
    (hblock : ∀ m, t.app.get .s3InitializationBlockMessage = some m →
      statusGateAdmits (.blocked m) = true) :
    StaysOpen (t.checkPgdataStorageSize disk leader upgradeIdle role).status := by
  unfold Charm.checkPgdataStorageSize
  cases disk with
  | missing => exact ht
  | short => exact .inl rfl
  | enough =>
      dsimp only
      split
      · exact staysOpen_setActiveStatus (staysOpen_active (by decide)) hblock
      · exact ht

/-- Setting the active status changes the status only. -/
theorem setActiveStatus_eq (leader upgradeIdle : Bool) (role : MemberRole) (t : Charm) :
    t.setActiveStatus leader upgradeIdle role =
      t.setStatus (t.setActiveStatus leader upgradeIdle role).status := by
  unfold Charm.setActiveStatus
  split
  · rfl
  · split
    · rfl
    · split
      · rfl
      · cases role <;> rfl

/-- What is written of an admitted message is admitted. -/
theorem Admitted.of_written {message m : String} (h : Admitted message)
    (hm : written message = some m) : statusGateAdmits (.blocked m) = true := by
  unfold written at hm
  split at hm
  · cases hm
  · next hne =>
      cases hm
      exact h.resolve_left hne

/-- The block message of a databag, if it has one, is admitted. -/
theorem admitted_getD {κ : Type} {d : Databag κ} {k : κ}
    (h : ∀ m, d.get k = some m → statusGateAdmits (.blocked m) = true) :
    Admitted (d.getD k "") := by
  unfold Databag.getD
  cases hm : d.get k with
  | none => exact .inl rfl
  | some m => exact .inr (h m hm)

/-! ## the invariant -/

/-- Behind a reported failure the status stays open, and while a point-in-time
restore is flagged or its failure stands, so does the block message that the
leader would set. -/
structure GateInv (s : Charm) : Prop where
  status : s.pitrReported = true → StaysOpen s.status
  blockMessage : s.Stands → ∀ m, s.app.get .s3InitializationBlockMessage = some m →
    statusGateAdmits (.blocked m) = true

/-- The invariant keeps a reported failure recoverable. -/
theorem GateInv.recoverable {s : Charm} (h : GateInv s) : s.Recoverable := by
  intro hreported hsize
  obtain hshort | ⟨hadmits, -⟩ := h.status hreported
  · exact absurd hshort hsize
  · exact hadmits

/-- Before a failure is reported, it holds. -/
theorem Charm.Unreported.inv {s : Charm} (h : s.Unreported) : GateInv s where
  status hreported := by
    rw [h.pitrReported] at hreported
    cases hreported
  blockMessage := by
    rintro (hreported | hrestoring)
    · rw [h.pitrReported] at hreported
      cases hreported
    · rw [h.restoreToTime] at hrestoring
      cases hrestoring

/-- The state of a handler that has not reported a failure, against the state
`s` that it started from; `publishes` says that the handler gets to publish the
outcome of an S3 initialisation. -/
structure InHandler (publishes : Prop) (s t : Charm) : Prop where
  inv : GateInv t
  pitrReported : t.pitrReported = s.pitrReported
  restoreToTime : t.isClusterRestoringToTime = true → s.isClusterRestoringToTime = true
  start : t.app.contains .s3InitializationStart = true →
    s.app.contains .s3InitializationStart = true
  published : t.Stands → publishes → t.PublishesAdmitted

/-- What an exception leaves of the invariant: the databags are dropped. -/
def Escapes (s t : Charm) : Prop := s.pitrReported = true → StaysOpen t.status

/-- Whether a failure stands is part of the view. -/
theorem stands_of_view {t u : Charm} (h : u.view = t.view) : u.Stands ↔ t.Stands := by
  show u.view.pitrReported = true ∨ u.view.restoreToTime.isSome = true ↔ _
  rw [h]
  rfl

namespace InHandler

variable {publishes : Prop} {s t u : Charm}

theorem refl (hs : GateInv s) (hpublished : s.Stands → publishes → s.PublishesAdmitted) :
    InHandler publishes s s :=
  ⟨hs, rfl, fun h => h, fun h => h, hpublished⟩

theorem stands (h : InHandler publishes s t) (ht : t.Stands) : s.Stands :=
  ht.imp h.pitrReported.symm.trans h.restoreToTime

theorem escapes (h : InHandler publishes s t) : Escapes s t :=
  fun hreported => h.inv.status (h.pitrReported.trans hreported)

/-- A status that leaves the gate open can be set. -/
theorem setStatus (h : InHandler publishes s t) {status : Status}
    (hstatus : s.pitrReported = true → StaysOpen status) : InHandler publishes s (t.setStatus status) :=
  ⟨⟨fun hreported => hstatus (h.pitrReported.symm.trans hreported), h.inv.blockMessage⟩,
    h.pitrReported, h.restoreToTime, h.start, h.published⟩

/-- A write to the databags that keeps what belongs to a restore. -/
theorem write (h : InHandler publishes s t) (hview : u.view = t.view) (hstatus : u.status = t.status)
    (hstart : u.app.contains .s3InitializationStart = true →
      t.app.contains .s3InitializationStart = true)
    (hblock : t.Stands → ∀ m, u.app.get .s3InitializationBlockMessage = some m →
      statusGateAdmits (.blocked m) = true)
    (hpublished : t.Stands → publishes → u.PublishesAdmitted) : InHandler publishes s u := by
  have hreported : u.pitrReported = t.pitrReported := congrArg RestoreView.pitrReported hview
  have hrestoreToTime : u.isClusterRestoringToTime = t.isClusterRestoringToTime :=
    congrArg (fun v : RestoreView => v.restoreToTime.isSome) hview
  refine ⟨⟨?_, ?_⟩, ?_, ?_, ?_, ?_⟩
  · rw [hreported, hstatus]
    exact h.inv.status
  · rw [stands_of_view hview]
    exact hblock
  · exact hreported.trans h.pitrReported
  · rw [hrestoreToTime]
    exact h.restoreToTime
  · exact fun hu => h.start (hstart hu)
  · rw [stands_of_view hview]
    exact hpublished

/-- So can the active one. -/
theorem setActiveStatus (h : InHandler publishes s t) {upgradeIdle : Bool} {role : MemberRole}
    {leader' : Bool} : InHandler publishes s (t.setActiveStatus leader' upgradeIdle role) := by
  have hopen : s.pitrReported = true →
      StaysOpen (t.setActiveStatus leader' upgradeIdle role).status := by
    intro hreported
    have hreported : t.pitrReported = true := h.pitrReported.trans hreported
    exact staysOpen_setActiveStatus (h.inv.status hreported) (h.inv.blockMessage (.inl hreported))
  rw [setActiveStatus_eq]
  exact h.setStatus hopen

/-- A message that is admitted can be published. -/
theorem publishStanza (h : InHandler publishes s t) {stanza message : String}
    (hmessage : t.Stands → Admitted message) :
    InHandler publishes s (t.publishStanza stanza message) := by
  have hstart : (t.publishStanza stanza message).app.contains .s3InitializationStart = false := by
    simp [Charm.publishStanza]
  refine h.write (view_publishStanza stanza message t) rfl ?_ ?_ ?_
  · intro hu
    rw [hstart] at hu
    cases hu
  · intro ht m hm
    have hwritten : written message = some m := by
      rw [← hm]
      simp [Charm.publishStanza, written]
    exact (hmessage ht).of_written hwritten
  · intro _ _ hu
    rw [hstart] at hu
    cases hu

end InHandler

/-! ## the S3 fields -/

section Fields

variable {publishes : Prop} {leader : Bool} {s : Charm}

/-- The leader publishes what is in the unit's databag. -/
theorem triple_coordinateStanzaFields (updateConfig : Option PyError)
    (hpublishes : leader = true → publishes) :
    Triple (InHandler publishes s) (coordinateStanzaFields leader updateConfig)
      (fun _ => InHandler publishes s) (Escapes s) := by
  have hpublish : ∀ stanza message (t : Charm), InHandler publishes s t →
      (t.Stands → Admitted message) → Triple (fun t' => t' = t) (do
        modify (Charm.publishStanza stanza message)
        attempt updateConfig) (fun _ => InHandler publishes s) (Escapes s) := by
    intro stanza message t ht hmessage
    refine triple_bind (R := fun _ => InHandler publishes s) (triple_modify ?_) fun _ =>
      triple_attempt updateConfig fun _ h => h.escapes
    rintro t' rfl
    exact ht.publishStanza hmessage
  refine triple_get fun t ht => triple_ite (fun _ => triple_pure_at ht) fun hstart => ?_
  simp only [Bool.or_eq_true, Bool.not_eq_true', not_or, Bool.not_eq_false] at hstart
  refine triple_ite (fun hdone => hpublish _ _ t ht fun hstands => ?_) fun _ =>
    triple_ite (fun _ => hpublish _ _ t ht fun hstands => ?_) fun _ => triple_pure_at ht
  · exact admitted_getD (ht.published hstands (hpublishes hstart.1) hstart.2 hdone)
  · exact admitted_getD (ht.inv.blockMessage hstands)

/-- The leader publishes the messages of its own initialisation. -/
theorem triple_onS3CredentialChangedPrimary {upgradeIdle : Bool} {role : MemberRole}
    {outcome : S3Outcome} (hleads : publishes → leader = true)
    (hs3 : s.Stands → leader = true → ∀ step m, outcome = .failed step m → Admitted m) :
    Triple (InHandler publishes s) (onS3CredentialChangedPrimary leader upgradeIdle role outcome)
      (fun _ => InHandler publishes s) (Escapes s) := by
  have henter : ∀ {t : Charm} (step : S3Step), InHandler publishes s t →
      InHandler publishes s (t.enterStep step) := by
    intro t step ht
    cases step with
    | repository => exact ht
    | initialisingStanza | checkingStanza =>
        exact ht.setStatus fun _ => staysOpen_of_not_blocked rfl (by decide)
  cases outcome with
  | raised e => exact triple_throw fun _ h => h.escapes
  | deferred => exact triple_pure fun _ h => h
  | failed step blockMessage =>
      refine triple_bind (R := fun _ => InHandler publishes s)
        (triple_modify fun _ h => henter step h) fun _ => triple_ite (fun hleader => ?_)
          fun hleader => ?_
      · refine triple_modify_return fun t ht => ?_
        apply InHandler.setActiveStatus
        refine ht.write ?_ rfl ?_ ?_ ?_
        · simp [Charm.view]
        · simp
        · intro hstands m hm
          have hwritten : written blockMessage = some m := by
            rw [← hm]
            simp [written]
          exact (hs3 (ht.stands hstands) hleader step blockMessage rfl).of_written hwritten
        · intro _ _ hstart
          simp at hstart
      · refine triple_modify_return fun t ht => ?_
        refine ht.write ?_ rfl (fun h => h) ht.inv.blockMessage fun _ hl => absurd (hleads hl) hleader
        simp [Charm.view]
  | initialised stanza =>
      refine triple_bind (R := fun _ => InHandler publishes s)
        (triple_modify fun _ h => (henter .checkingStanza h).setActiveStatus) fun _ =>
        triple_ite (fun _ => ?_) fun hleader => ?_
      · refine triple_modify_return fun t ht => ?_
        refine ht.write ?_ rfl ?_ ?_ ?_
        · simp [Charm.view]
        · simp
        · intro hstands m hm
          exact ht.inv.blockMessage hstands m (by simpa using hm)
        · intro _ _ hstart
          simp at hstart
      · refine triple_modify_return fun t ht => ?_
        refine ht.write ?_ rfl (fun h => h) ht.inv.blockMessage fun _ hl => absurd (hleads hl) hleader
        simp [Charm.view]

/-- The end of `update-status`. -/
theorem triple_finishUpdateStatus {env : UpdateStatus} (hfinishes : env.Finishes s) :
    Triple (InHandler (env.Publishes s) s) (finishUpdateStatus env)
      (fun _ => InHandler (env.Publishes s) s) (Escapes s) :=
  triple_bind (triple_attempt _ fun _ h => h.escapes) fun _ =>
    triple_bind (triple_coordinateStanzaFields _ fun hleader => ⟨hleader, hfinishes⟩) fun _ =>
      triple_modify fun _ h => h.setActiveStatus

theorem InHandler.cleanUpInitialisation {t : Charm} (hleads : publishes → leader = true)
    (h : InHandler publishes s t) :
    InHandler publishes s (t.cleanUpInitialisation leader) := by
  have hview := view_cleanUpInitialisation leader t
  unfold Charm.cleanUpInitialisation at hview ⊢
  split at hview
  · next hclean =>
      have hleader : leader = false := by simpa using (Bool.and_eq_true_iff.mp hclean).2
      rw [if_pos hclean]
      refine h.write hview rfl (fun h => h) h.inv.blockMessage fun _ hl => ?_
      rw [hleads hl] at hleader
      cases hleader
  · next hclean =>
      rw [if_neg hclean]
      exact h

/-- The end of `peer-relation-changed`. -/
theorem triple_finishPeerRelationChanged {env : PeerRelationChanged} (hguard : env.KeepsOpen s)
    (hfinishes : env.Finishes s) :
    Triple (InHandler (env.Publishes s) s) (finishPeerRelationChanged env)
      (fun _ => InHandler (env.Publishes s) s) (Escapes s) := by
  have hpublishes : env.leader = true → env.Publishes s := fun hleader => ⟨hleader, hfinishes⟩
  have hfinish : ∀ t, InHandler (env.Publishes s) s t → InHandler (env.Publishes s) s
      ((t.cleanUpInitialisation env.leader).handleReadOnlyMode env) := by
    intro t ht
    have hclean := ht.cleanUpInitialisation And.left
    unfold Charm.handleReadOnlyMode
    split
    · exact hclean
    · exact hclean.setActiveStatus
  refine triple_bind (triple_attempt _ fun _ h => h.escapes) fun _ =>
    triple_ite (fun _ => triple_modify fun t ht => ?_) fun _ =>
    triple_ite (fun _ => triple_pure fun _ h => h) fun _ => ?_
  · exact ht.setStatus fun _ => staysOpen_of_not_blocked rfl (by decide)
  refine triple_bind (triple_coordinateStanzaFields _ hpublishes) fun _ => triple_get fun t ht =>
    triple_ite (fun hprimary => ?_) fun _ => triple_modify ?_
  · simp only [Bool.and_eq_true] at hprimary
    have hs3 : s.Stands → env.leader = true → ∀ step m, env.s3 = .failed step m → Admitted m :=
      fun hstands hleader =>
        hguard.s3 hstands (hpublishes hleader) hprimary.2 (ht.start hprimary.1.1)
    exact triple_bind (triple_at ht (triple_onS3CredentialChangedPrimary And.left hs3)) fun _ =>
      triple_ite (fun _ => triple_modify hfinish) fun _ => triple_pure fun _ h => h
  · rintro t' rfl
    exact hfinish t' ht

end Fields

/-! ## the check of a restore -/

section Check

variable {publishes : Prop} {s : Charm}

theorem InHandler.remember {t : Charm} (h : InHandler publishes s t) :
    InHandler publishes s t.isNewPitrFailure.2 := by
  obtain ⟨unit, hremembered, hunit⟩ := isNewPitrFailure_remembers t
  rw [hremembered]
  refine ⟨⟨h.inv.status, h.inv.blockMessage⟩, h.pitrReported, h.restoreToTime, h.start,
    fun hstands hpublishes hstart hdone => ?_⟩
  have hdone : t.unit.contains .s3InitializationDone = true := by
    rw [Databag.contains, ← hunit .s3InitializationDone (by decide)]
    exact hdone
  show ∀ m, unit.get _ = some m → _
  rw [hunit .s3InitializationBlockMessage (by decide)]
  exact h.published hstands hpublishes hstart hdone

theorem InHandler.completed {t u : Charm} {check : RestoreCheck} (h : InHandler publishes s t)
    (hu : Completed check t u)
    (hrepository : s.pitrReported = true → ∀ m, check.repository = .ok (some m) → Admitted m) :
    InHandler publishes s u := by
  obtain ⟨override, repeatCause, onFailure, hended⟩ := endOverride_eq t.view.unflag
  have hview : u.view = _ := hu.view.trans hended
  have hreported : u.pitrReported = t.pitrReported := congrArg RestoreView.pitrReported hview
  have hrestoring : u.isClusterRestoringToTime = false :=
    congrArg (fun v : RestoreView => v.restoreToTime.isSome) hview
  have hstands : u.Stands → s.pitrReported = true := by
    rintro (hu | hu)
    · exact (h.pitrReported.symm.trans hreported.symm).trans hu
    · rw [hrestoring] at hu
      cases hu
  have ht : u.Stands → t.Stands := fun hu => .inl (h.pitrReported.trans (hstands hu))
  have hstart : u.app.contains .s3InitializationStart = true →
      t.app.contains .s3InitializationStart = true := by
    intro hustart
    obtain ⟨hsame, -⟩ | ⟨-, -, hnone, -⟩ := hu.repository
    · rw [Databag.contains, hsame] at hustart
      exact hustart
    · rw [Databag.contains, hnone] at hustart
      cases hustart
  refine ⟨⟨?_, ?_⟩, hreported.trans h.pitrReported, ?_, ?_, ?_⟩
  · rw [hreported, hu.status]
    exact h.inv.status
  · intro hustands m hm
    obtain ⟨-, hblock⟩ | ⟨message, hmessage, -, hblock⟩ := hu.repository
    · exact h.inv.blockMessage (ht hustands) m (hblock.symm.trans hm)
    · exact (hrepository (hstands hustands) message hmessage).of_written (hblock.symm.trans hm)
  · intro hu
    rw [hrestoring] at hu
    cases hu
  · exact fun hustart => h.start (hstart hustart)
  · intro hustands hpublishes hustart hdone
    have hdone : t.unit.contains .s3InitializationDone = true := by
      rw [Databag.contains, ← hu.unit .s3InitializationDone (by decide) (by decide)]
      exact hdone
    rw [hu.unit .s3InitializationBlockMessage (by decide) (by decide)]
    exact h.published (ht hustands) hpublishes (hstart hustart) hdone

/-- The state at the check of a restore: `unmarked` says that the status that
the handler came with does not tell of the failure. -/
structure AtCheck (publishes unmarked : Prop) (s t : Charm) : Prop where
  inHandler : InHandler publishes s t
  view : t.view = s.view
  unmarked : s.pitrReported = true → s.isRestoring = true →
    t.status.message ≠ cannotRestorePitr → unmarked

variable {unmarked : Prop}

/-- Whether a failure is new depends on the view. -/
theorem isNewPitrFailure_of_view {t : Charm} (h : t.view = s.view) :
    t.isNewPitrFailure.1 = s.isNewPitrFailure.1 := by
  have hrestoring : t.isClusterRestoringToTime = s.isClusterRestoringToTime :=
    congrArg (fun v : RestoreView => v.restoreToTime.isSome) h
  rw [Bool.eq_iff_iff, isNewPitrFailure_iff, isNewPitrFailure_iff, hrestoring, h]

/-- Reporting a failure opens the gate. -/
theorem InHandler.report {t : Charm} (h : InHandler publishes s t)
    (hrestoring : t.isClusterRestoringToTime = true) : GateInv t.reportPitrFailure where
  status _ := staysOpen_of_admits (by decide)
  blockMessage _ := h.inv.blockMessage (.inr hrestoring)

/-- A check that does not find the service down without a new failure leaves
the gate open, and when it ends the restore the handler goes on. -/
theorem triple_checkRestore_gate {check : RestoreCheck} {serviceActive : Bool}
    (hservice : s.pitrReported = true → s.isRestoring = true → unmarked →
      s.isNewPitrFailure.1 = false → serviceActive ≠ false)
    (hrepository : s.pitrReported = true → s.isRestoring = true → check.Ends s →
      ∀ m, check.repository = .ok (some m) → Admitted m) :
    Triple (AtCheck publishes unmarked s) (checkRestore check serviceActive)
      (fun restored t => GateInv t ∧ (restored = true →
        InHandler publishes s t ∧ (s.isRestoring = true → check.Ends s))) (Escapes s) := by
  refine triple_get fun t ht => ?_
  have hrestoring : t.isRestoring = s.isRestoring := by
    rw [← view_isRestoring, ht.view]
    rfl
  have hnew : t.isNewPitrFailure.1 = s.isNewPitrFailure.1 := isNewPitrFailure_of_view ht.view
  have hremember := ht.inHandler.remember
  rw [hrestoring]
  refine triple_ite (fun hs => ?_) fun hs =>
    triple_pure_at ⟨ht.inHandler.inv, fun _ => ⟨ht.inHandler, fun h => absurd h hs⟩⟩
  refine triple_wasRestoreSuccessful ?_ ?_ ?_ ?_ ?_
  · rintro u rfl _
    exact hremember.escapes
  · rintro u rfl hfailure
    obtain ⟨hflagged, -⟩ := (isNewPitrFailure_iff u).mp hfailure
    refine ⟨hremember.report ?_, nofun⟩
    obtain ⟨unit, hremembered, -⟩ := isNewPitrFailure_remembers u
    rw [hremembered]
    exact hflagged
  · -- the service is down: no failure has been reported
    rintro u rfl hfailure hinactive hmessage
    refine ⟨(hremember.setStatus fun hreported => ?_).inv, nofun⟩
    have hactive := hservice hreported hs (ht.unmarked hreported hs hmessage)
      (hnew.symm.trans hfailure)
    exact absurd hinactive hactive
  · rintro u rfl _
    exact ⟨hremember.inv, nofun⟩
  · rintro u rfl hfailure hstarted htimeline
    refine triple_conseq (triple_completeRestore check u.isNewPitrFailure.2) (fun _ h => h) ?_ ?_
    · intro _ v hv
      have hends : check.Ends s := ⟨hnew.symm.trans hfailure, hstarted, htimeline, hv.updateConfig⟩
      have hcompleted := hremember.completed hv fun hreported => hrepository hreported hs hends
      exact ⟨hcompleted.inv, fun _ => ⟨hcompleted, fun _ => hends⟩⟩
    · intro v hv hreported
      rw [hv.status]
      exact hremember.escapes hreported

end Check

/-! ## the handlers around the check -/

section Handlers

variable {s : Charm}

/-- The disk changes the status only. -/
theorem checkPgdataStorageSize_eq (disk : DiskReading) (leader upgradeIdle : Bool)
    (role : MemberRole) (t : Charm) :
    t.checkPgdataStorageSize disk leader upgradeIdle role =
      t.setStatus (t.checkPgdataStorageSize disk leader upgradeIdle role).status := by
  unfold Charm.checkPgdataStorageSize
  cases disk with
  | missing | short => rfl
  | enough =>
      dsimp only
      split
      · exact setActiveStatus_eq leader upgradeIdle role (t.setStatus .active)
      · rfl

/-- So do the extensions. -/
theorem enableDisableExtensions_eq (env : UpdateStatus) (t : Charm) :
    t.enableDisableExtensions env = t.setStatus (t.enableDisableExtensions env).status := by
  unfold Charm.enableDisableExtensions
  cases env.extensions with
  | noPrimary | dependencyMissing | objectsExist => rfl
  | done =>
      exact setActiveStatus_eq env.leader env.upgradeIdle env.role
        (t.setStatus (.waiting "Updating extensions"))

/-- A unit that goes on has space left. -/
theorem not_short_of_goesOn {env : UpdateStatus} {u : Charm}
    (hu : u = s.checkPgdataStorageSize env.disk env.leader env.upgradeIdle env.roleAtDisk)
    (hgoes : u.isHeldBack = false ∨ u.status.message = extensionObjectMessage) :
    env.disk ≠ .short := by
  intro hshort
  have hblocked : u.status = .blocked insufficientSizeWarning := by
    simp [hu, hshort, Charm.checkPgdataStorageSize, Charm.setStatus]
  have hheld : u.isHeldBack = true := by
    rw [Charm.isHeldBack, hblocked]
    rfl
  obtain h | h := hgoes
  · rw [hheld] at h
    cases h
  · rw [hblocked] at h
    exact absurd h (by decide)

/-- Where there is space left, and was before, the check changes nothing. -/
theorem checkPgdataStorageSize_eq_self {env : UpdateStatus} (hshort : env.disk ≠ .short)
    (hreleased : ¬ (s.status.message = insufficientSizeWarning ∧ env.disk = .enough)) :
    s.checkPgdataStorageSize env.disk env.leader env.upgradeIdle env.roleAtDisk = s := by
  unfold Charm.checkPgdataStorageSize
  cases hdisk : env.disk with
  | missing => rfl
  | short => exact absurd hdisk hshort
  | enough => exact if_neg fun hmessage => hreleased ⟨hmessage, hdisk⟩

/-- The early exits of `update-status`. -/
theorem triple_onUpdateStatusEarlyExitChecks {env : UpdateStatus} {publishes : Prop}
    (hs : InHandler publishes s s) :
    Triple (fun t => t = s) (onUpdateStatusEarlyExitChecks env)
      (fun proceeds t => InHandler publishes s t ∧ (proceeds = true →
        AtCheck publishes (s.status.message ≠ cannotRestorePitr) s t ∧
          (env.headlessService = none → env.Proceeds s))) (Escapes s) := by
  let u := s.checkPgdataStorageSize env.disk env.leader env.upgradeIdle env.roleAtDisk
  have hopen : s.pitrReported = true → StaysOpen u.status := fun hreported =>
    staysOpen_checkPgdataStorageSize (hs.inv.status hreported) (hs.inv.blockMessage (.inl hreported))
  have hview : u.view = s.view := view_checkPgdataStorageSize _ _ _ _ s
  have hu : InHandler publishes s u := by
    have hu := hs.setStatus hopen
    rw [← checkPgdataStorageSize_eq] at hu
    exact hu
  have hshort : u.isHeldBack = false ∨ u.status.message = extensionObjectMessage →
      env.disk ≠ .short := not_short_of_goesOn rfl
  have hsame : env.disk ≠ .short → ¬ (s.status.message = insufficientSizeWarning ∧
      env.disk = .enough) → u = s := checkPgdataStorageSize_eq_self
  have hproceeds : env.upgradeIdle = true → env.canConnect = true →
      u.isHeldBack = false ∨ u.status.message = extensionObjectMessage →
      env.headlessService = none → env.Proceeds s := by
    intro hidle hconnect hgoes hheadless
    by_cases hreleased : s.status.message = insufficientSizeWarning ∧ env.disk = .enough
    · exact ⟨hidle, hconnect, hshort hgoes, .inr (.inr hreleased), hheadless⟩
    · have hreleased := hsame (hshort hgoes) hreleased
      rw [hreleased] at hgoes
      exact ⟨hidle, hconnect, hshort (by rw [hreleased]; exact hgoes), hgoes.imp_right .inl, hheadless⟩
  unfold onUpdateStatusEarlyExitChecks
  refine triple_ite (fun _ => triple_pure_at ⟨hs, fun h => absurd h Bool.false_ne_true⟩)
    fun hidle => triple_ite (fun _ => triple_pure_at ⟨hs, fun h => absurd h Bool.false_ne_true⟩)
    fun hconnect => ?_
  simp only [Bool.not_eq_true', Bool.not_eq_false] at hidle hconnect
  refine triple_bind (R := fun _ t => t = u) (triple_modify (by rintro t rfl; rfl)) fun _ =>
    triple_get fun t ht => ?_
  subst ht
  refine triple_ite (fun hheld => triple_ite (fun hmessage => ?_) fun _ =>
    triple_pure_at ⟨hu, fun h => absurd h Bool.false_ne_true⟩) fun hheld =>
    triple_pure_at ⟨hu, fun _ => ⟨⟨hu, hview, ?_⟩, ?_⟩⟩
  · -- the message of a plugin does not come up behind a reported failure
    have hnot : s.pitrReported = true → False :=
      fun hreported => (hopen hreported).message_ne hmessage
    refine triple_modify_return ?_
    rintro t rfl
    have ht : InHandler publishes s (u.setStatus (Charm.enableDisableExtensions env u).status) :=
      hu.setStatus fun hreported => absurd hreported hnot
    rw [← enableDisableExtensions_eq] at ht
    refine ⟨ht, fun _ => ⟨⟨ht, ?_, fun hreported => absurd hreported hnot⟩, ?_⟩⟩
    · exact (view_enableDisableExtensions env u).trans hview
    · exact hproceeds hidle hconnect (.inr hmessage)
  · intro _ _ hmessage
    by_cases hreleased : s.status.message = insufficientSizeWarning ∧ env.disk = .enough
    · rw [hreleased.1]
      decide
    · rw [← hsame (hshort (.inl (Bool.eq_false_iff.mpr hheld))) hreleased]
      exact hmessage
  · exact hproceeds hidle hconnect (.inl (Bool.eq_false_iff.mpr hheld))

/-- A service is restarted only when nothing is being restored. -/
theorem triple_restartInactiveService {env : UpdateStatus} {serviceActive : Bool}
    {publishes unmarked : Prop} :
    Triple (AtCheck publishes unmarked s) (restartInactiveService env serviceActive)
      (fun _ => AtCheck publishes unmarked s) (Escapes s) := by
  refine triple_get fun t ht => triple_ite (fun hidle => ?_) fun _ => triple_pure_at ht
  simp only [Bool.and_eq_true, Bool.not_eq_true'] at hidle
  have hnot : s.isRestoring ≠ true := by
    rw [← view_isRestoring, ← ht.view]
    exact Bool.eq_false_iff.mp hidle.1.1
  have hopen : StaysOpen (.maintenance "Database service inactive, restarting") :=
    staysOpen_of_not_blocked rfl (by decide)
  refine triple_at ht (triple_bind (triple_attempt env.restart fun _ h => h.inHandler.escapes)
    fun _ => triple_ite (fun _ => triple_pure fun _ h => h) fun _ =>
    triple_modify_return fun u hu => ?_)
  exact ⟨hu.inHandler.setStatus fun _ => hopen, hu.view, fun _ h => absurd h hnot⟩

/-- An `update-status` event that keeps the gate open keeps the invariant. -/
theorem triple_onUpdateStatus_gate {env : UpdateStatus} (hs : GateInv s)
    (hguard : env.KeepsOpen s) :
    Triple (fun t => t = s) (onUpdateStatus env) (fun _ => GateInv) (Escapes s) := by
  have hrefl : InHandler (env.Publishes s) s s := .refl hs hguard.published
  refine triple_bind (triple_onUpdateStatusEarlyExitChecks hrefl) fun proceeds =>
    triple_ite (fun hproceeds => ?_) fun _ => triple_pure fun _ h => h.1.inv
  let R := AtCheck (env.Publishes s) (s.status.message ≠ cannotRestorePitr) s
  refine triple_bind (R := fun _ t => R t ∧ env.Proceeds s) ?_ fun _ =>
    triple_of_fact fun hproceeds => ?_
  · refine triple_conseq (triple_attempted env.headlessService fun _ h => h.1.escapes)
      (fun _ h => h) ?_ fun _ h => h
    rintro _ t ⟨⟨-, ht⟩, hheadless⟩
    exact ⟨(ht hproceeds).1, (ht hproceeds).2 hheadless⟩
  cases hservice : env.service with
  | none => exact triple_pure fun _ h => h.inHandler.inv
  | some serviceActive =>
      refine triple_bind triple_restartInactiveService fun recovered =>
        triple_ite (fun _ => ?_) fun _ => triple_pure fun _ h => h.inHandler.inv
      refine triple_bind (triple_checkRestore_gate ?_ ?_) fun restored =>
        triple_ite (fun hrestored => ?_) fun _ => triple_pure fun _ h => h.1
      · intro hreported hrestoring hmessage hnew hinactive
        exact hguard.service hreported hproceeds hrestoring hmessage hnew
          (hservice.trans (congrArg some hinactive))
      · intro hreported hrestoring hends
        exact hguard.repository hreported ⟨hproceeds, fun _ => hends⟩ hrestoring
      · rintro t ⟨-, ht⟩
        obtain ⟨ht, hends⟩ := ht hrestored
        exact triple_conseq (triple_finishUpdateStatus ⟨hproceeds, hends⟩) (fun _ h => h)
          (fun _ _ h => h.inv) (fun _ h => h) t ht

/-- The members of the cluster: the leader may write over the status. -/
theorem triple_addMembers {env : PeerRelationChanged} {publishes : Prop}
    (hs : InHandler publishes s s) (hguard : env.KeepsOpen s) :
    Triple (fun t => t = s) (addMembers env.leader env.members)
      (fun _ t => InHandler publishes s t ∧ t.view = s.view ∧
        (∀ e, env.leader = true → env.members ≠ .raised e) ∧
        (t.status.isBlocked = true ∨ env.Reconfigures ∨ t.status = s.status)) (Escapes s) := by
  refine triple_ite (fun hleader => ?_) fun hleader =>
    triple_pure_at ⟨hs, rfl, fun _ h => absurd h hleader, .inr (.inr rfl)⟩
  cases hmembers : env.members with
  | unchanged => exact triple_pure_at ⟨hs, rfl, fun _ _ => nofun, .inr (.inr rfl)⟩
  | reconfigured =>
      refine triple_modify ?_
      rintro t rfl
      exact ⟨hs.setStatus fun _ => staysOpen_of_not_blocked rfl (by decide), rfl,
        fun _ _ => nofun, .inr (.inl ⟨hleader, hmembers⟩)⟩
  | patchFailed error =>
      have hopen : s.pitrReported = true →
          StaysOpen (.blocked ("failed to patch pod with error " ++ error)) := fun hreported =>
        absurd hmembers (hguard.members hreported hleader error)
      refine triple_modify ?_
      rintro t rfl
      exact ⟨hs.setStatus hopen, rfl, fun _ _ => nofun, .inl rfl⟩
  | raised e =>
      refine triple_throw ?_
      rintro t rfl
      exact hs.escapes

/-- A `peer-relation-changed` event that keeps the gate open keeps the
invariant. -/
theorem triple_onPeerRelationChanged_gate {env : PeerRelationChanged} (hs : GateInv s)
    (hguard : env.KeepsOpen s) :
    Triple (fun t => t = s) (onPeerRelationChanged env) (fun _ => GateInv) (Escapes s) := by
  have hrefl : InHandler (env.Publishes s) s s := .refl hs hguard.published
  refine triple_bind (triple_addMembers hrefl hguard) fun _ =>
    triple_ite (fun _ => triple_pure fun _ h => h.1.inv) fun harrives => ?_
  simp only [Bool.or_eq_true, Bool.not_eq_true', not_or, Bool.not_eq_false] at harrives
  cases hconfig : env.updateConfig with
  | some e =>
      cases e with
      | valueError error =>
          refine triple_modify ?_
          rintro t ⟨ht, -, hraised, -⟩
          refine (ht.setStatus fun hreported => ?_).inv
          exact absurd hconfig
            (hguard.updateConfig hreported ⟨hraised, harrives.1, harrives.2⟩ error)
      | _ => exact triple_throw fun _ h => h.1.escapes
  | none =>
      refine triple_get fun t ⟨ht, hview, hraised, hstatus⟩ =>
        triple_ite (fun _ => triple_pure_at ht.inv) fun hblocked => ?_
      have hstatus := hstatus.resolve_left hblocked
      have hproceeds : env.Proceeds s := by
        refine ⟨⟨hraised, harrives.1, harrives.2⟩, hconfig, hstatus.imp_right fun h => ?_⟩
        rw [← h]
        exact Bool.eq_false_iff.mpr hblocked
      have hcheck : AtCheck (env.Publishes s)
          (env.Reconfigures ∨ s.status.message ≠ cannotRestorePitr) s t := by
        refine ⟨ht, hview, fun _ _ hmessage => hstatus.imp_right fun h => ?_⟩
        rw [← h]
        exact hmessage
      have hfinish : env.Finishes s → Triple (InHandler (env.Publishes s) s)
          (finishPeerRelationChanged env) (fun _ => GateInv) (Escapes s) := fun hfinishes =>
        triple_conseq (triple_finishPeerRelationChanged hguard hfinishes) (fun _ h => h)
          (fun _ _ h => h.inv) fun _ h => h
      cases hservice : env.service with
      | none => exact triple_at ht (hfinish ⟨hproceeds, fun _ => .inl hservice⟩)
      | some serviceActive =>
          refine triple_bind (triple_at hcheck (triple_checkRestore_gate ?_ ?_))
            fun restored => triple_ite (fun hrestored => ?_) fun _ => triple_pure fun _ h => h.1
          · intro hreported hrestoring hmessage hnew hinactive
            exact hguard.service hreported hproceeds hrestoring hmessage hnew
              (hservice.trans (congrArg some hinactive))
          · intro hreported hrestoring hends
            exact hguard.repository hreported ⟨hproceeds, fun _ => .inr hends⟩ hrestoring
          · rintro u ⟨-, hu⟩
            obtain ⟨hu, hends⟩ := hu hrestored
            exact hfinish ⟨hproceeds, fun h => .inr (hends h)⟩ u hu

end Handlers

/-! ## one step -/

/-- A handler keeps the invariant, also when it raises. -/
theorem gateInv_commit {s : Charm} {x : Handler Charm Unit} (hs : GateInv s)
    (hx : Triple (fun t => t = s) x (fun _ => GateInv) (Escapes s)) :
    GateInv (s.commit (x.run s)) :=
  commit_of_triple hx (fun _ ht => ht) fun _ _ ht => ⟨ht, hs.blockMessage⟩

/-- Another state behind the same report, with an open status. -/
theorem GateInv.congr {s t : Charm} (h : GateInv s) (hreported : t.pitrReported = s.pitrReported)
    (hrestoring : t.isClusterRestoringToTime = true → s.isClusterRestoringToTime = true)
    (hblock : t.app.get .s3InitializationBlockMessage = s.app.get .s3InitializationBlockMessage)
    (hstatus : s.pitrReported = true → StaysOpen t.status) : GateInv t where
  status ht := hstatus (hreported.symm.trans ht)
  blockMessage hstands m hm :=
    h.blockMessage (hstands.imp hreported.symm.trans hrestoring) m (hblock.symm.trans hm)

/-- The exits behind the override keep the invariant: the action has left the
blocked status behind, and a launch starts over. -/
theorem gateInv_performed {env : RestoreAction} {target : RestoreTarget} {s t : Charm}
    {r : Result PyError Charm Unit} (hs : GateInv s) (hview : t.view = s.view.ignoreFailures)
    (happ : t.app = s.app) (hstatus : t.status = .maintenance "restoring backup")
    (hexit : RestoreExit env target t r) : GateInv (s.commit r) := by
  have hreported : t.pitrReported = s.pitrReported := congrArg RestoreView.pitrReported hview
  have hopen : ∀ {u : Charm}, u.status = t.status → s.pitrReported = true → StaysOpen u.status := by
    intro u hu _
    rw [hu, hstatus]
    exact staysOpen_of_not_blocked rfl (by decide)
  cases hexit with
  | @stopFailed _ u hview' happ' hstatus' =>
      rw [commit_ok]
      refine hs.congr ((congrArg RestoreView.pitrReported hview').trans hreported) ?_ ?_
        (hopen hstatus')
      · rw [Charm.isClusterRestoringToTime, happ', happ]
        exact fun h => h
      · rw [happ', happ]
  | @gaveUp _ u hview' hblock hstatus' =>
      rw [commit_ok]
      refine hs.congr ((congrArg RestoreView.pitrReported hview').trans hreported) ?_ ?_
        (hopen hstatus')
      · intro h
        have hnone : u.view.restoreToTime.isSome = true := h
        rw [hview'] at hnone
        cases hnone
      · rw [hblock, happ]
  | @launched _ label u _ hview' hblock _ =>
      rw [commit_ok]
      refine ⟨fun h => ?_, fun _ m hm => ?_⟩
      · have hunreported : u.view.pitrReported = true := h
        rw [hview'] at hunreported
        cases hunreported
      · rw [hblock] at hm
        cases hm
  | raised _ _ _ _ _ _ hstatus' => exact ⟨hopen hstatus', hs.blockMessage⟩

/-- A restore action keeps the invariant. -/
theorem gateInv_restore {s : Charm} (env : RestoreAction) (hs : GateInv s) :
    GateInv (s.step (.restore env)) := by
  have hstarted : ∀ {t : Charm}, t.status = s.status ∨ t.status = .maintenance "restoring backup" →
      s.pitrReported = true → StaysOpen t.status := by
    rintro t (h | h) hreported
    · rw [h]
      exact hs.status hreported
    · rw [h]
      exact staysOpen_of_not_blocked rfl (by decide)
  obtain ⟨r, hstep, hexit⟩ := step_restore_exit env s
  rw [hstep]
  cases hexit with
  | @refused t hview happ _ hstatus =>
      rw [commit_ok]
      refine hs.congr (congrArg RestoreView.pitrReported hview) ?_ (by rw [happ])
        (hstarted hstatus)
      rw [Charm.isClusterRestoringToTime, happ]
      exact fun h => h
  | raised _ _ _ _ _ hstatus => exact ⟨hstarted hstatus, hs.blockMessage⟩
  | performed _ hview happ hstatus hexit => exact gateInv_performed hs hview happ hstatus hexit

/-- One event that keeps the gate open keeps the invariant. -/
theorem gateInv_step {s : Charm} {e : Event} (hs : GateInv s) (hguard : e.KeepsOpen s) :
    GateInv (s.step e) := by
  cases e with
  | restore env => exact gateInv_restore env hs
  | updateStatus env => exact gateInv_commit hs (triple_onUpdateStatus_gate hs hguard)
  | peerRelationChanged env =>
      exact gateInv_commit hs (triple_onPeerRelationChanged_gate hs hguard)
  | logged lines => exact ⟨hs.status, hs.blockMessage⟩

/-! ## runs -/

/-- An `update-status` event with a reading of the disk, and the state of the
service. -/
def lateCheck (disk : DiskReading) (serviceActive : Bool) : UpdateStatus :=
  { earlyCheck with disk, service := some serviceActive }

/-- A failed restore, and a disk that is short for a while. -/
def failedRestore : List Event :=
  [.restore pitrRestore, .logged [failedBootstrap], .updateStatus earlyCheck,
    .updateStatus (lateCheck .short false)]

end PostgresqlK8s.Restore
