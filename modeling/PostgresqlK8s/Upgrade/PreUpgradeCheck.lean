import PostgresqlK8s.Lib.StateExcept
import PostgresqlK8s.Patroni.ClusterStatus
import PostgresqlK8s.Patroni.Switchover

/-!
# Upgrade.PreUpgradeCheck

The check before an upgrade, which opens the rolling update for the last unit
when the cluster is ready and unit 0 is its primary.  Each question is a read of
its own: the cluster may change from one to the next, and a read may find no
unit.  The readiness of the members counts that as not ready; the question
whether a backup is being created counts it as no backup.
-/

namespace PostgresqlK8s.Upgrade

open EStateM Retry
open Patroni (startedStates label2name)

/-! ## what the cluster answers -/

/-- A member of the cluster, with its tags. -/
structure Member extends Patroni.MemberStatus where
  tags : Option (List (String × Bool))
deriving DecidableEq, Repr

/-- What `cluster_status` returns; nothing where it raises `RetryError`. -/
abbrev MembersAnswer := Option (List Member)

/-- The names and the roles. -/
def clusterStatus (answer : MembersAnswer) : Patroni.ClusterStatus :=
  answer.map fun members => members.map fun member => ⟨member.name, member.role⟩

/-- What ends the check. -/
inductive Failure
  /-- `ClusterNotReadyError`. -/
  | clusterNotReady (message cause : String) (resolution : Option String)
  | retryError
  | indexError
  /-- The switchover has not ended. -/
  | waiting
deriving DecidableEq, Repr

/-- `are_all_members_ready`. -/
def areAllMembersReady (answer : MembersAnswer) : Bool :=
  Patroni.areAllMembersReady (answer.map fun members => members.map (·.toMemberStatus))

/-- `"tags" in member and member["tags"].get("is_creating_backup")`. -/
def Member.isCreatingBackup (member : Member) : Bool :=
  (member.tags.bind (·.lookup "is_creating_backup")).getD false

/-- `is_creating_backup`. -/
def isCreatingBackup : MembersAnswer → Bool
  | none => false
  | some members => members.any (·.isCreatingBackup)

/-- The unit of a member. -/
def unitOfLabel (label : String) : Except Failure String :=
  (label2name label).elim (.error .indexError) .ok

/-- `get_primary(unit_name_pattern=True)`. -/
def getPrimaryUnit (answer : MembersAnswer) : Except Failure (Option String) :=
  match Patroni.getPrimary (clusterStatus answer) with
  | none => .ok none
  | some label => some <$> unitOfLabel label

/-- `get_sync_standby_names`. -/
def getSyncStandbyNames : MembersAnswer → Except Failure (List String)
  | none => .error .retryError
  | some members => (members.filter (·.role == "sync_standby")).mapM fun member =>
      unitOfLabel member.name

/-- `ApiError`. -/
structure ApiError where
  code : Nat
  text : String
deriving DecidableEq, Repr

/-- What a check is answered, in the order of its questions. -/
structure Answers where
  readiness : MembersAnswer
  /-- The status that was read before in the same event, and is kept. -/
  cachedClusterStatus : Option (List Member)
  backup : MembersAnswer
  primary : MembersAnswer
  syncStandbys : MembersAnswer
  /-- The requests of the switchover. -/
  attempts : List Patroni.Attempt
  /-- The statuses that it waits for. -/
  reads : List Patroni.StatusRead
  syncStandbysAgain : MembersAnswer
  /-- The error of Kubernetes, if the patch fails. -/
  patch : Option ApiError

/-- What the question about backups goes by. -/
def Answers.backupStatus (a : Answers) : MembersAnswer := a.cachedClusterStatus.or a.backup

/-! ## the check -/

/-- An application; its name has no slash. -/
structure Application where
  name : String
  noSlash : '/' ∉ name.toList
  plannedUnits : Nat

/-- `f"{self.charm.app.name}/0"`. -/
def Application.unitZero (app : Application) : String := app.name ++ "/0"

/-- What the check writes, and the statuses it has read, in order. -/
structure Rollout where
  /-- The list under `sync-standbys` in the databag of the application. -/
  syncStandbys : Option (List String)
  /-- The partitions that the rolling update was given. -/
  partitions : List Int
  statuses : List Patroni.ClusterStatus

abbrev Check := EStateM Failure Rollout

/-- Statuses are read. -/
def readStatuses (statuses : List Patroni.ClusterStatus) : Check Unit :=
  modify fun s => { s with statuses := s.statuses ++ statuses }

def writeSyncStandbys (names : Option (List String)) : Check Unit :=
  modify fun s => { s with syncStandbys := names }

/-- The default message of the check. -/
def defaultMessage : String := "Pre-upgrade check failed and cannot safely upgrade"

/-- `_set_first_rolling_update_partition`, with `_set_rolling_update_partition`. -/
def setFirstRollingUpdatePartition (app : Application) (patch : Option ApiError) : Check Unit :=
  match patch with
  | none => modify fun s => { s with partitions := s.partitions ++ [(app.plannedUnits : Int) - 1] }
  | some e => throw (.clusterNotReady "Kubernetes StatefulSet patch failed"
      (if e.code = 403 then "`juju trust` needed" else e.text) none)

/-- `_set_list_of_sync_standbys`. -/
def setListOfSyncStandbys (app : Application) (answer : MembersAnswer) : Check Unit :=
  if app.plannedUnits > 2 then do
    readStatuses [clusterStatus answer]
    let syncStandbys ← MonadExcept.ofExcept (getSyncStandbyNames answer)
    writeSyncStandbys (some (if app.unitZero ∈ syncStandbys then syncStandbys
      else syncStandbys.dropLast ++ [app.unitZero]))
  else pure ()

/-- What becomes of an error of the switchover; `SwitchoverNotSyncError` is a
`SwitchoverFailedError`. -/
def switchoverFailure (app : Application) : Patroni.SwitchoverError → Failure
  | .retryError => .retryError
  | .switchoverNotSyncError =>
      .clusterNotReady "" s!"try to switchover manually to {app.unitZero}" none
  | .switchoverFailedError message =>
      .clusterNotReady message s!"try to switchover manually to {app.unitZero}" none

/-- The `try` block around the switchover. -/
def switchoverToUnitZero (app : Application) (a : Answers) : Check Unit := do
  writeSyncStandbys none
  let switched := Patroni.switchover (some app.unitZero) true a.attempts a.reads
  readStatuses switched.statuses
  match switched.outcome with
  | .returned () => pure ()
  | .gaveUp e => throw (switchoverFailure app e)
  | .waiting => throw .waiting

/-- The sync-standbys are asked to include unit 0, and the check to be run
again. -/
def askForUnitZero (app : Application) (a : Answers) : Check Unit := do
  setListOfSyncStandbys app a.syncStandbysAgain
  let cause := s!"{app.unitZero} needs to be a synchronous standby in order to become the primary before the upgrade process can start"
  let resolution := s!"wait 30 seconds for {app.unitZero} to become a synchronous standby and run this action again"
  throw (.clusterNotReady s!"{cause} - {resolution}" cause (some resolution))

/-- What follows where unit 0 is not the primary. -/
def makeUnitZeroPrimary (app : Application) (a : Answers) : Check Unit := do
  readStatuses [clusterStatus a.syncStandbys]
  let syncStandbyNames ← MonadExcept.ofExcept (getSyncStandbyNames a.syncStandbys)
  if syncStandbyNames.length = 0 then
    throw (.clusterNotReady "invalid number of sync nodes" "no action!" none)
  if app.unitZero ∈ syncStandbyNames then do
    switchoverToUnitZero app a
    setFirstRollingUpdatePartition app a.patch
  else askForUnitZero app a

/-- `pre_upgrade_check`. -/
def preUpgradeCheck (app : Application) (a : Answers) : Check Unit := do
  readStatuses [clusterStatus a.readiness]
  if !areAllMembersReady a.readiness then
    throw (.clusterNotReady defaultMessage "not all members are ready yet"
      (some "wait for all units to become active/idle"))
  readStatuses (if a.cachedClusterStatus.isSome then [] else [clusterStatus a.backup])
  if isCreatingBackup a.backupStatus then
    throw (.clusterNotReady defaultMessage "a backup is being created"
      (some "wait for the backup creation to finish before starting the upgrade"))
  readStatuses [clusterStatus a.primary]
  let primaryUnitName ← MonadExcept.ofExcept (getPrimaryUnit a.primary)
  if primaryUnitName = some app.unitZero then do
    writeSyncStandbys none
    setFirstRollingUpdatePartition app a.patch
  else makeUnitZeroPrimary app a

/-! ## unit 0 -/

/-- The label of the pod of a unit is turned back into its name. -/
theorem unitOfLabel_unitZero (app : Application) :
    unitOfLabel (Patroni.podName app.unitZero) = .ok app.unitZero := by
  have hslash : "/0".toList = ['/', '0'] := by decide
  have hkept : app.name.toList.map (fun c => if c = '/' then '-' else c) = app.name.toList := by
    conv_rhs => rw [← List.map_id app.name.toList]
    refine List.map_congr_left fun c hc => if_neg ?_
    rintro rfl
    exact app.noSlash hc
  have hpod : Patroni.podName app.unitZero = app.name ++ String.singleton '-' ++ "0" := by
    apply String.toList_injective
    rw [Patroni.podName, Application.unitZero, String.toList_ofList, String.toList_append,
      List.map_append, hslash, hkept]
    simp
  have hunit : app.name ++ "/" ++ "0" = app.unitZero := by
    rw [Application.unitZero, String.append_assoc]
    rfl
  rw [unitOfLabel, hpod, Patroni.label2name_append (by decide), hunit]
  rfl

/-- The last leader that was reported is unit 0. -/
def LedByUnitZero (app : Application) (statuses : List Patroni.ClusterStatus) : Prop :=
  ∃ label, statuses.getLast?.bind Patroni.getPrimary = some label ∧
    unitOfLabel label = .ok app.unitZero

theorem ledByUnitZero_of_getPrimaryUnit {app : Application} {answer : MembersAnswer}
    {statuses : List Patroni.ClusterStatus} (h : getPrimaryUnit answer = .ok (some app.unitZero)) :
    LedByUnitZero app (statuses ++ [clusterStatus answer]) := by
  rw [LedByUnitZero, List.getLast?_concat, Option.bind_some]
  rw [getPrimaryUnit] at h
  cases hlabel : Patroni.getPrimary (clusterStatus answer) with
  | none =>
      rw [hlabel] at h
      cases h
  | some label =>
      rw [hlabel] at h
      obtain ⟨name, hname, heq⟩ := Except.map_eq_ok.mp h
      exact ⟨label, rfl, hname.trans (congrArg Except.ok (Option.some.inj heq))⟩

/-- A switchover to unit 0 that returns has seen it lead. -/
theorem ledByUnitZero_of_switchover {app : Application} {a : Answers}
    {statuses : List Patroni.ClusterStatus}
    (h : (Patroni.switchover (some app.unitZero) true a.attempts a.reads).outcome =
      .returned ()) :
    LedByUnitZero app
      (statuses ++ (Patroni.switchover (some app.unitZero) true a.attempts a.reads).statuses) := by
  have hhappened := (Patroni.happened_iff (some app.unitZero) a.attempts a.reads).mpr (.inl rfl)
  obtain ⟨leader, hleader, -, hcandidate⟩ := hhappened h
  obtain ⟨status, hlast, hprimary⟩ := Option.bind_eq_some_iff.mp hleader
  refine ⟨leader, ?_, ?_⟩
  · rw [List.getLast?_append, hlast]
    exact hprimary
  · rw [hcandidate _ rfl]
    exact unitOfLabel_unitZero app

/-! ## when the check opens the rollout -/

variable {app : Application} {a : Answers} {s t : Rollout} {u : Unit}

/-- Unit 0 leads, or it is a sync-standby that the switchover makes lead. -/
def BecomesPrimary (app : Application) (a : Answers) : Prop :=
  getPrimaryUnit a.primary = .ok (some app.unitZero) ∨
    (∃ primary, getPrimaryUnit a.primary = .ok primary ∧ primary ≠ some app.unitZero) ∧
      (∃ names, getSyncStandbyNames a.syncStandbys = .ok names ∧ app.unitZero ∈ names) ∧
      (Patroni.switchover (some app.unitZero) true a.attempts a.reads).outcome = .returned ()

/-- The answers with which the check returns. -/
structure Opens (app : Application) (a : Answers) : Prop where
  ready : areAllMembersReady a.readiness = true
  noBackup : isCreatingBackup a.backupStatus = false
  primary : BecomesPrimary app a
  patch : a.patch = none

/-- Reading the members is recorded. -/
theorem readStatuses_ok {statuses : List Patroni.ClusterStatus} :
    (readStatuses statuses).run s = .ok u t ↔ { s with statuses := s.statuses ++ statuses } = t :=
  run_modify_ok

/-- So is the list of standbys that is asked for. -/
theorem writeSyncStandbys_ok {names : Option (List String)} :
    (writeSyncStandbys names).run s = .ok u t ↔ { s with syncStandbys := names } = t :=
  run_modify_ok

/-- Nothing follows an exception. -/
theorem unless_eq {p : Prop} [Decidable p] (e : Failure) (x : Check Unit) :
    (do if p then throw e
        x : Check Unit) = if p then throw e else x := by
  by_cases hp : p
  · simp only [if_pos hp]
    rfl
  · simp only [if_neg hp]

/-- A check that passes raises nothing and goes on. -/
theorem run_unless_ok {p : Prop} [Decidable p] {e : Failure} {x : Check Unit} :
    (do if p then throw e
        x : Check Unit).run s = .ok u t ↔ ¬ p ∧ x.run s = .ok u t := by
  rw [unless_eq]
  by_cases hp : p
  · simp [hp]
  · simp [hp]

/-- The partition is set to the last unit, if the patch goes through. -/
theorem setFirstRollingUpdatePartition_ok {patch : Option ApiError} :
    (setFirstRollingUpdatePartition app patch).run s = .ok u t ↔
      patch = none ∧ { s with partitions := s.partitions ++ [(app.plannedUnits : Int) - 1] } = t := by
  cases patch with
  | none =>
      rw [setFirstRollingUpdatePartition, run_modify_ok]
      simp
  | some e =>
      rw [setFirstRollingUpdatePartition, run_throw_ok]
      simp

/-- The switchover passes when Patroni makes unit 0 the leader. -/
theorem switchoverToUnitZero_ok : (switchoverToUnitZero app a).run s = .ok u t ↔
    (Patroni.switchover (some app.unitZero) true a.attempts a.reads).outcome = .returned () ∧
      { s with
        syncStandbys := none
        statuses := s.statuses ++
          (Patroni.switchover (some app.unitZero) true a.attempts a.reads).statuses } = t := by
  rw [switchoverToUnitZero]
  simp only [run_bind_ok, writeSyncStandbys_ok, readStatuses_ok, exists_eq_left', exists_const]
  cases (Patroni.switchover (some app.unitZero) true a.attempts a.reads).outcome with
  | returned r =>
      cases r
      exact run_pure_ok.trans (by simp)
  | gaveUp e => exact run_throw_ok.trans (by simp)
  | waiting => exact run_throw_ok.trans (by simp)

/-- Asking for unit 0 ends with an exception. -/
theorem askForUnitZero_ok : (askForUnitZero app a).run s = .ok u t ↔ False := by
  rw [askForUnitZero, run_bind_ok]
  simp

/-- Unit 0 is made the primary when it is a synchronous standby and the switchover and the
patch go through. -/
theorem makeUnitZeroPrimary_ok : (makeUnitZeroPrimary app a).run s = .ok u t ↔
    (∃ names, getSyncStandbyNames a.syncStandbys = .ok names ∧ app.unitZero ∈ names) ∧
      (Patroni.switchover (some app.unitZero) true a.attempts a.reads).outcome = .returned () ∧
      a.patch = none ∧
      { s with
        syncStandbys := none
        partitions := s.partitions ++ [(app.plannedUnits : Int) - 1]
        statuses := s.statuses ++ [clusterStatus a.syncStandbys] ++
          (Patroni.switchover (some app.unitZero) true a.attempts a.reads).statuses } = t := by
  rw [makeUnitZeroPrimary]
  simp only [run_bind_ok, readStatuses_ok, run_ofExcept_ok, exists_eq_left', exists_const]
  constructor
  · rintro ⟨names, _, ⟨hnames, rfl⟩, h⟩
    obtain ⟨-, h⟩ := run_unless_ok.mp h
    split at h
    · next hmem =>
        rw [run_bind_ok] at h
        obtain ⟨_, _, hswitch, hpatch⟩ := h
        obtain ⟨houtcome, rfl⟩ := switchoverToUnitZero_ok.mp hswitch
        obtain ⟨hnone, rfl⟩ := setFirstRollingUpdatePartition_ok.mp hpatch
        exact ⟨⟨names, hnames, hmem⟩, houtcome, hnone, rfl⟩
    · exact (askForUnitZero_ok.mp h).elim
  · rintro ⟨⟨names, hnames, hmem⟩, houtcome, hnone, rfl⟩
    refine ⟨names, _, ⟨hnames, rfl⟩, run_unless_ok.mpr ⟨?_, ?_⟩⟩
    · rw [List.length_eq_zero_iff]
      exact List.ne_nil_of_mem hmem
    · rw [if_pos hmem, run_bind_ok]
      exact ⟨(), _, switchoverToUnitZero_ok.mpr ⟨houtcome, rfl⟩,
        setFirstRollingUpdatePartition_ok.mpr ⟨hnone, rfl⟩⟩

/-- A check that returns: what it was answered, and what it wrote. -/
theorem of_preUpgradeCheck_ok (h : (preUpgradeCheck app a).run s = .ok u t) :
    Opens app a ∧ t.partitions = s.partitions ++ [(app.plannedUnits : Int) - 1] ∧
      LedByUnitZero app t.statuses := by
  rw [preUpgradeCheck] at h
  simp only [run_bind_ok, readStatuses_ok, exists_eq_left', exists_const] at h
  obtain ⟨hready, h⟩ := run_unless_ok.mp h
  simp only [run_bind_ok, readStatuses_ok, exists_eq_left', exists_const] at h
  obtain ⟨hbackup, h⟩ := run_unless_ok.mp h
  simp only [run_bind_ok, readStatuses_ok, run_ofExcept_ok, exists_eq_left', exists_const] at h
  obtain ⟨primary, _, ⟨hprimary, rfl⟩, h⟩ := h
  have hready : areAllMembersReady a.readiness = true := by simpa using hready
  have hbackup : isCreatingBackup a.backupStatus = false := by simpa using hbackup
  split at h
  · next hzero =>
      simp only [run_bind_ok, writeSyncStandbys_ok, exists_eq_left', exists_const] at h
      obtain ⟨hpatch, rfl⟩ := setFirstRollingUpdatePartition_ok.mp h
      rw [hzero] at hprimary
      exact ⟨⟨hready, hbackup, .inl hprimary, hpatch⟩, rfl,
        ledByUnitZero_of_getPrimaryUnit hprimary⟩
  · next hzero =>
      obtain ⟨hnames, houtcome, hpatch, rfl⟩ := makeUnitZeroPrimary_ok.mp h
      exact ⟨⟨hready, hbackup, .inr ⟨⟨primary, hprimary, hzero⟩, hnames, houtcome⟩, hpatch⟩, rfl,
        ledByUnitZero_of_switchover houtcome⟩

/-- The last part of the check. -/
theorem exists_opened (h : Opens app a) (s : Rollout) : ∃ primary t,
    getPrimaryUnit a.primary = .ok primary ∧
      (if primary = some app.unitZero then do
        writeSyncStandbys none
        setFirstRollingUpdatePartition app a.patch
      else makeUnitZeroPrimary app a : Check Unit).run s = .ok () t := by
  obtain hzero | ⟨⟨primary, hprimary, hzero⟩, hnames, houtcome⟩ := h.primary
  · refine ⟨some app.unitZero, { s with
      syncStandbys := none
      partitions := s.partitions ++ [(app.plannedUnits : Int) - 1] }, hzero, ?_⟩
    rw [if_pos rfl, run_bind_ok]
    exact ⟨(), _, writeSyncStandbys_ok.mpr rfl,
      setFirstRollingUpdatePartition_ok.mpr ⟨h.patch, rfl⟩⟩
  · obtain ⟨t, ht⟩ : ∃ t, (makeUnitZeroPrimary app a).run s = .ok () t :=
      ⟨_, makeUnitZeroPrimary_ok.mpr ⟨hnames, houtcome, h.patch, rfl⟩⟩
    refine ⟨primary, t, hprimary, ?_⟩
    rw [if_neg hzero]
    exact ht

/-- Whatever opens the upgrade lets the check pass. -/
theorem exists_preUpgradeCheck_ok (h : Opens app a) (s : Rollout) :
    ∃ t, (preUpgradeCheck app a).run s = .ok () t := by
  obtain ⟨primary, t, hprimary, ht⟩ := exists_opened h
    { s with statuses := s.statuses ++ [clusterStatus a.readiness] ++
        (if a.cachedClusterStatus.isSome then [] else [clusterStatus a.backup]) ++
        [clusterStatus a.primary] }
  refine ⟨t, ?_⟩
  rw [preUpgradeCheck]
  simp only [run_bind_ok, readStatuses_ok, exists_eq_left', exists_const]
  refine run_unless_ok.mpr ⟨by simp [h.ready], ?_⟩
  simp only [run_bind_ok, readStatuses_ok, exists_eq_left', exists_const]
  refine run_unless_ok.mpr ⟨by simp [h.noBackup], ?_⟩
  simp only [run_bind_ok, readStatuses_ok, run_ofExcept_ok, exists_eq_left', exists_const]
  exact ⟨primary, _, ⟨hprimary, rfl⟩, ht⟩

/-! ## an exception leaves the partition -/

/-- The partitions that were set are the same. -/
def SamePartitions (partitions : List Int) (s : Rollout) : Prop := s.partitions = partitions

variable {partitions : List Int}

theorem triple_readStatuses (statuses : List Patroni.ClusterStatus) :
    Triple (SamePartitions partitions) (readStatuses statuses)
      (fun _ => SamePartitions partitions) (SamePartitions partitions) :=
  triple_modify fun _ hs => hs

theorem triple_writeSyncStandbys (names : Option (List String)) :
    Triple (SamePartitions partitions) (writeSyncStandbys names)
      (fun _ => SamePartitions partitions) (SamePartitions partitions) :=
  triple_modify fun _ hs => hs

/-- A patch that fails changes no partition. -/
theorem triple_setFirstRollingUpdatePartition (patch : Option ApiError) :
    Triple (SamePartitions partitions) (setFirstRollingUpdatePartition app patch)
      (fun _ _ => True) (SamePartitions partitions) := by
  cases patch with
  | none => exact triple_modify fun _ _ => trivial
  | some e => exact triple_throw fun _ hs => hs

/-- The switchover changes none. -/
theorem triple_switchoverToUnitZero :
    Triple (SamePartitions partitions) (switchoverToUnitZero app a)
      (fun _ => SamePartitions partitions) (SamePartitions partitions) := by
  refine triple_bind (triple_writeSyncStandbys none) fun _ => ?_
  refine triple_bind (triple_readStatuses _) fun _ => ?_
  cases (Patroni.switchover (some app.unitZero) true a.attempts a.reads).outcome with
  | returned r => exact triple_pure fun _ hs => hs
  | gaveUp e => exact triple_throw fun _ hs => hs
  | waiting => exact triple_throw fun _ hs => hs

/-- Nor does the list of standbys. -/
theorem triple_setListOfSyncStandbys (answer : MembersAnswer) :
    Triple (SamePartitions partitions) (setListOfSyncStandbys app answer)
      (fun _ => SamePartitions partitions) (SamePartitions partitions) := by
  rw [setListOfSyncStandbys]
  refine triple_ite (fun _ => ?_) fun _ => triple_pure fun _ hs => hs
  refine triple_bind (triple_readStatuses _) fun _ => ?_
  exact triple_bind (triple_ofExcept_same _) fun names => triple_writeSyncStandbys _

/-- Nor does asking for unit 0. -/
theorem triple_askForUnitZero :
    Triple (SamePartitions partitions) (askForUnitZero app a) (fun _ _ => True)
      (SamePartitions partitions) :=
  triple_bind (triple_setListOfSyncStandbys _) fun _ => triple_throw fun _ hs => hs

/-- A check that fails on its way to unit 0 changes none. -/
theorem triple_makeUnitZeroPrimary :
    Triple (SamePartitions partitions) (makeUnitZeroPrimary app a) (fun _ _ => True)
      (SamePartitions partitions) := by
  refine triple_bind (triple_readStatuses _) fun _ => ?_
  refine triple_bind (triple_ofExcept_same _) fun names => ?_
  rw [unless_eq]
  refine triple_ite (fun _ => triple_throw fun _ hs => hs) fun _ => triple_ite (fun _ => ?_)
    fun _ => triple_askForUnitZero
  exact triple_bind triple_switchoverToUnitZero fun _ => triple_setFirstRollingUpdatePartition _

/-- Whatever the check raises, it has not set the partition. -/
theorem triple_preUpgradeCheck :
    Triple (SamePartitions partitions) (preUpgradeCheck app a) (fun _ _ => True)
      (SamePartitions partitions) := by
  refine triple_bind (triple_readStatuses _) fun _ => ?_
  rw [unless_eq]
  refine triple_ite (fun _ => triple_throw fun _ hs => hs) fun _ => ?_
  refine triple_bind (triple_readStatuses _) fun _ => ?_
  rw [unless_eq]
  refine triple_ite (fun _ => triple_throw fun _ hs => hs) fun _ => ?_
  refine triple_bind (triple_readStatuses _) fun _ => ?_
  refine triple_bind (triple_ofExcept_same _) fun primaryUnitName => ?_
  refine triple_ite (fun _ => ?_) fun _ => triple_makeUnitZeroPrimary
  exact triple_bind (triple_writeSyncStandbys none) fun _ =>
    triple_setFirstRollingUpdatePartition _

/-! ## only on a safe cluster -/

/-- What a return of the check stands for. -/
structure SafeToOpen (app : Application) (a : Answers) (s t : Rollout) : Prop where
  /-- A status was read with every member running and a leader among them. -/
  ready : ∃ members, a.readiness = some members ∧
    (∀ member ∈ members, member.state ∈ startedStates) ∧
    ∃ member ∈ members, member.role = "leader" ∨ member.role = "standby_leader"
  /-- A status was read in which no member is creating a backup. -/
  noBackup : ∃ members, a.backupStatus = some members ∧
    ∀ member ∈ members, member.isCreatingBackup = false
  led : LedByUnitZero app t.statuses
  partition : t.partitions = s.partitions ++ [(app.plannedUnits : Int) - 1]

/-- The check opens the rollout on a safe cluster only, and does not touch the
partition where it raises. -/
def OpensOnlyIfSafe (app : Application) (a : Answers) (s : Rollout) : Prop :=
  match (preUpgradeCheck app a).run s with
  | .ok _ t => SafeToOpen app a s t
  | .error _ t => t.partitions = s.partitions

/-- No status was read for the question about backups, and nothing else keeps
the check from opening the rollout. -/
structure OpensUnread (app : Application) (a : Answers) : Prop where
  unread : a.backupStatus = none
  ready : areAllMembersReady a.readiness = true
  primary : BecomesPrimary app a
  patch : a.patch = none

/-- Ready members have been read, run, and have a leader among them. -/
theorem exists_of_areAllMembersReady {answer : MembersAnswer}
    (h : areAllMembersReady answer = true) :
    ∃ members, answer = some members ∧ (∀ member ∈ members, member.state ∈ startedStates) ∧
      ∃ member ∈ members, member.role = "leader" ∨ member.role = "standby_leader" := by
  cases answer with
  | none => contradiction
  | some members =>
      simp only [areAllMembersReady, Option.map_some, Patroni.areAllMembersReady, List.all_map,
        List.any_map, Bool.and_eq_true, List.all_eq_true, List.any_eq_true] at h
      refine ⟨members, rfl, fun member hmember => by simpa using h.1 member hmember, ?_⟩
      obtain ⟨member, hmember, hrole⟩ := h.2
      exact ⟨member, hmember, by simpa using hrole⟩

/-- **The check** opens the rollout only on a safe cluster, unless the question
about backups finds no unit where everything else is answered well. -/
theorem preUpgradeCheck_opensOnlyIfSafe_iff : OpensOnlyIfSafe app a s ↔ ¬ OpensUnread app a := by
  rw [OpensOnlyIfSafe]
  constructor
  · intro h hunread
    have hopens : Opens app a := ⟨hunread.ready, by rw [hunread.unread]; rfl, hunread.primary,
      hunread.patch⟩
    obtain ⟨t, ht⟩ := exists_preUpgradeCheck_ok hopens s
    rw [ht] at h
    obtain ⟨members, hmembers, -⟩ := h.noBackup
    rw [hunread.unread] at hmembers
    contradiction
  · intro h
    have hraises := @triple_preUpgradeCheck app a _ s (rfl : SamePartitions _ s)
    cases hrun : (preUpgradeCheck app a).run s with
    | error e t =>
        rw [hrun] at hraises
        exact hraises
    | ok u t =>
        obtain ⟨hopens, hpartition, hled⟩ := of_preUpgradeCheck_ok hrun
        refine ⟨exists_of_areAllMembersReady hopens.ready, ?_, hled, hpartition⟩
        cases hstatus : a.backupStatus with
        | none => exact absurd ⟨hstatus, hopens.ready, hopens.primary, hopens.patch⟩ h
        | some members =>
            have hbackup := hopens.noBackup
            rw [hstatus, isCreatingBackup, List.any_eq_false] at hbackup
            exact ⟨members, rfl, fun member hmember => by simpa using hbackup member hmember⟩

/-- Three units, of which the first is the primary. -/
def threeUnits : Application := ⟨"postgresql-k8s", by decide, 3⟩

def threeMembers : List Member :=
  [⟨⟨"postgresql-k8s-0", "leader", "running"⟩, none⟩,
    ⟨⟨"postgresql-k8s-1", "sync_standby", "streaming"⟩, none⟩,
    ⟨⟨"postgresql-k8s-2", "replica", "streaming"⟩, none⟩]

/-- No unit is reached when the check asks for backups. -/
def unreadAnswers : Answers where
  readiness := some threeMembers
  cachedClusterStatus := none
  backup := none
  primary := some threeMembers
  syncStandbys := none
  attempts := []
  reads := []
  syncStandbysAgain := none
  patch := none

/-- No unit answers whether a backup runs, and the check passes. -/
theorem preUpgradeCheck_unreadBackup :
    (∃ t, (preUpgradeCheck threeUnits unreadAnswers).run ⟨none, [], []⟩ = .ok () t ∧
      t.partitions = [2]) ∧
    ¬ OpensOnlyIfSafe threeUnits unreadAnswers ⟨none, [], []⟩ := by
  have hrun : ∃ t, (preUpgradeCheck threeUnits unreadAnswers).run ⟨none, [], []⟩ = .ok () t ∧
      t.partitions = [2] := ⟨_, rfl, rfl⟩
  refine ⟨hrun, fun h => ?_⟩
  obtain ⟨t, ht, -⟩ := hrun
  rw [OpensOnlyIfSafe, ht] at h
  obtain ⟨members, hmembers, -⟩ := h.noBackup
  contradiction

end PostgresqlK8s.Upgrade
