import PostgresqlK8s.Backups.Repository
import PostgresqlK8s.Lib.Databag
import PostgresqlK8s.Lib.StateExcept

/-!
# Backups.CreateBackup

The create-backup action.

On a replica the action first closes the database to clients, through the
unit databag and the Patroni configuration, and it opens it again after the
backup.  In between lies the attempt: the pgBackRest command and the listing
that names the new backup, with a handler for a command that failed, which
looks for a name to store the logs under.
-/

namespace PostgresqlK8s.Backups

/-! ## the state and the environment -/

/-- The keys of `BACKUP_TYPE_OVERRIDES`. -/
inductive BackupType
  | full
  | differential
  | incremental
deriving DecidableEq, Repr

namespace BackupType

def name : BackupType → String
  | full => "full"
  | differential => "differential"
  | incremental => "incremental"

/-- The backup type that a parameter of the action names. -/
def ofName? (name : String) : Option BackupType :=
  [full, differential, incremental].find? fun t => t.name == name

end BackupType

/-- The keys of the unit databag that the action touches. -/
inductive BackupKey
  | connectivity
  | tls
deriving DecidableEq, Repr

/-- What `render_patroni_yml_file` was last told. -/
structure RenderedConfig where
  connectivity : Bool
  isCreatingBackup : Bool
deriving DecidableEq, Repr

/-- An object put into the S3 repository. -/
structure Upload where
  content : String
  s3Path : String
deriving DecidableEq, Repr

structure BackupState where
  unitData : Databag BackupKey
  config : RenderedConfig
  status : Status
  /-- The uploads that were tried. -/
  uploads : List Upload
  /-- `event.set_results`. -/
  results : Option (List (String × String))
  /-- `event.fail`. -/
  failure : Option String

/-- What one call of `update_config` comes to: whether it gets as far as
rendering the file, the `tls` flag it writes if it stops early, and the
exception it ends with. -/
structure ConfigUpdate where
  rendered : Bool
  tls : Option String
  raised : Option PyError
deriving DecidableEq, Repr

/-- What the action meets outside of the charm. -/
structure BackupEnv where
  /-- `event.params.get("type", "full")`. -/
  backupType : String
  stanzaName : String
  modelName : String
  appName : String
  unitName : String
  jujuVersion : String
  now : DateTime
  /-- The listing of the checks. -/
  previousBackups : CommandOutcome InfoDocument
  isBlocked : Bool
  plannedUnits : Nat
  memberStarted : Bool
  stanzaInitialised : Bool
  settings : BackupSettings
  /-- `is_primary`, as the checks read it, as the action reads it to close
  the database, and as it reads it for the command; `none` when Patroni does
  not answer. -/
  primaryForChecks : Option Bool
  primaryForConnectivity : Option Bool
  primaryForCommand : Option Bool
  metadataUploaded : Bool
  logsUploaded : Bool
  /-- The four calls of `update_config`. -/
  disableConfig : ConfigUpdate
  startConfig : ConfigUpdate
  enableConfig : ConfigUpdate
  finalConfig : ConfigUpdate
  /-- `pgbackrest backup`. -/
  backup : CommandOutcome String
  /-- The listing that follows the backup. -/
  newBackups : CommandOutcome InfoDocument
  /-- The listing for a substitute backup id. -/
  earlierBackups : CommandOutcome InfoDocument

/-! ## the steps -/

def BackupState.fail (message : String) (s : BackupState) : BackupState :=
  { s with failure := some message }

/-- `is_primary`. -/
def isPrimary : Option Bool → Except PyError Bool
  | some isPrimary => .ok isPrimary
  | none => .error .retryError

/-- `is_connectivity_enabled`. -/
def BackupState.isConnectivityEnabled (s : BackupState) : Bool :=
  s.unitData.getD .connectivity "on" == "on"

/-- `update_config(is_creating_backup)`. -/
def updateConfig (u : ConfigUpdate) (isCreatingBackup : Bool) : Handler BackupState Unit := do
  if u.rendered then
    modify fun s => { s with config := ⟨s.isConnectivityEnabled, isCreatingBackup⟩ }
  match u.tls with
  | some tls => modify fun s => { s with unitData := s.unitData.set .tls tls }
  | none => pure ()
  match u.raised with
  | some e => throw e
  | none => pure ()

/-- `_change_connectivity_to_database`. -/
def changeConnectivityToDatabase (u : ConfigUpdate) (connectivity : Bool) :
    Handler BackupState Unit := do
  modify fun s => { s with
    unitData := s.unitData.set .connectivity (if connectivity then "on" else "off") }
  updateConfig u true

/-- `_upload_content_to_s3`, which answers whether it worked. -/
def uploadContentToS3 (uploaded : Bool) (content s3Path : String) :
    Handler BackupState Bool := do
  modify fun s => { s with uploads := s.uploads ++ [⟨content, s3Path⟩] }
  return uploaded

/-! ## a substitute backup id -/

/-- The rest of a text behind a prefix. -/
def dropPrefix? : List Char → List Char → Option (List Char)
  | [], cs => some cs
  | _ :: _, [] => none
  | p :: ps, c :: cs => if p = c then dropPrefix? ps cs else none

/-- The label that a line `new backup label = ...` ends with, if the text
starts with one: eight digits, a dash, six digits and an `F`. -/
def labelAt (cs : List Char) : Option (List Char) :=
  match dropPrefix? "new backup label = ".toList cs with
  | none => none
  | some rest =>
      let label := rest.take 16
      if label.length = 16 ∧ (label.take 8).all Char.isDigit ∧ label[8]? = some '-' ∧
          ((label.drop 9).take 6).all Char.isDigit ∧ label[15]? = some 'F' ∧
          ((rest.drop 16).head?.all (· == '\n')) then
        some label
      else none

/-- The first backup label in the output of pgBackRest. -/
def findBackupLabel : List Char → Option (List Char)
  | [] => none
  | c :: cs => (labelAt (c :: cs)).or (findBackupLabel cs)

/-- `_generate_fake_backup_id`.  The keys of a dictionary are neither sliced
nor indexed. -/
def generateFakeBackupId (now : DateTime) (backups : CommandOutcome InfoDocument) :
    BackupType → Except PyError String
  | .full => .ok (DateTime.strftime labelFormat now ++ "F")
  | .differential => do
      let _ ← listBackups backups false false
      throw (.typeError "'dict_keys' object is not subscriptable")
  | .incremental => do
      let dict ← listBackups backups false false
      if dict.keys.isEmpty then
        throw (.typeError "Incremental backup requested but no previous successful backup")
      else throw (.typeError "'dict_keys' object is not subscriptable")

/-- The backup id under which the logs of a failed backup are stored. -/
def recoverBackupId (env : BackupEnv) (type : BackupType) (stdout : Option String) :
    Except PyError String :=
  match stdout with
  | none => .error (.typeError "expected string or bytes-like object, got 'NoneType'")
  | some stdout =>
      match findBackupLabel stdout.toList with
      | some label => .ok (String.ofList label)
      | none => generateFakeBackupId env.now env.earlierBackups type

/-! ## the action -/

/-- The output of the backup command, and the id of the new backup. -/
structure Attempt where
  stdout : Option String
  stderr : Option String
  backupId : String
deriving DecidableEq, Repr

/-- `list(backups.keys())[-1]`. -/
def newestBackup (backups : Dict String (String × String)) : Except PyError String :=
  match backups.keys.getLast? with
  | some backupId => .ok backupId
  | none => .error .indexError

/-- The `try` block: the command, then the listing whose last key is the new
backup. -/
def attemptBackup (env : BackupEnv) : Except PyError Attempt := do
  let _ ← isPrimary env.primaryForCommand
  let (stdout, stderr) ← executeCommandStream env.backup
  let backups ← listBackups env.newBackups true true
  let backupId ← newestBackup backups
  return ⟨stdout, stderr, backupId⟩

/-- A text as Python formats it. -/
def pyText : Option String → String
  | some text => text
  | none => "None"

/-- The logs as they are stored. -/
def backupLogs (stdout stderr : Option String) : String :=
  "Stdout:\n" ++ pyText stdout ++ "\n\nStderr:\n" ++ pyText stderr ++ "\n"

def logsPath (env : BackupEnv) (backupId : String) : String :=
  "backup/" ++ env.stanzaName ++ "/" ++ backupId ++ "/backup.log"

/-- The `except` and `else` blocks. -/
def concludeBackup (env : BackupEnv) (type : BackupType) :
    Except PyError Attempt → Handler BackupState Unit
  | .error (.execError text stdout stderr) => do
      let backupId ← MonadExcept.ofExcept (recoverBackupId env type stdout)
      let _ ← uploadContentToS3 env.logsUploaded (backupLogs stdout stderr)
        (logsPath env backupId)
      modify (.fail ("Failed to backup PostgreSQL with error: " ++ text))
  | .error e => throw e
  | .ok attempt => do
      let uploaded ← uploadContentToS3 env.logsUploaded (backupLogs attempt.stdout attempt.stderr)
        (logsPath env attempt.backupId)
      if uploaded then
        modify fun s => { s with results := some [("backup-status", "backup created")] }
      else modify (.fail "Error uploading logs to S3")

/-- `_can_unit_perform_backup`: the validation message of a unit that cannot. -/
def canUnitPerformBackup (env : BackupEnv) (tlsEnabled : Bool) : Option String :=
  if env.isBlocked then some "Unit is in a blocking state"
  else match env.primaryForChecks with
    | none => some "Unit cannot perform backups as the database seems to be offline"
    | some isPrimary =>
        if isPrimary && 1 < env.plannedUnits && tlsEnabled then
          some "Unit cannot perform backups as it is the cluster primary"
        else if !isPrimary && !tlsEnabled then
          some "Unit cannot perform backups as TLS is not enabled"
        else if !env.memberStarted then
          some "Unit cannot perform backups as it's not in running state"
        else if !env.stanzaInitialised then some "Stanza was not initialised"
        else env.settings.validationMessage

/-- The metadata that tests the credentials. -/
def backupMetadata (env : BackupEnv) : String :=
  "Date Backup Requested: " ++ DateTime.strftime backupIdFormat env.now ++
  "\nModel Name: " ++ env.modelName ++ "\nApplication Name: " ++ env.appName ++
  "\nUnit Name: " ++ env.unitName ++ "\nJuju Version: " ++ env.jujuVersion ++ "\n"

/-- A differential or incremental backup needs an earlier one. -/
def checkPreviousBackups (env : BackupEnv) (type : BackupType) :
    Except PyError (Option String) :=
  if type = .full then return none
  else do
    let previous ← listBackups env.previousBackups false true
    return if previous.keys.isEmpty then
      some ("Invalid backup type: " ++ type.name ++ ". No previous full backup to reference.")
    else none

/-- The checks of the action: the message it fails with, if one of them fails. -/
def checkBackup (env : BackupEnv) (type : BackupType) : Handler BackupState (Option String) := do
  match ← MonadExcept.ofExcept (checkPreviousBackups env type) with
  | some message => return some message
  | none =>
      let s ← get
      match canUnitPerformBackup env (s.unitData.contains .tls) with
      | some message => return some message
      | none =>
          let uploaded ← uploadContentToS3 env.metadataUploaded (backupMetadata env)
            ("backup/" ++ env.stanzaName ++ "/latest")
          return if uploaded then none else some "Failed to upload metadata to provided S3"

/-- The change of connectivity on a replica: whether it was made. -/
def closeDatabase (env : BackupEnv) : Handler BackupState Bool := do
  match ← MonadExcept.ofExcept (isPrimary env.primaryForConnectivity) with
  | true => return false
  | false =>
      changeConnectivityToDatabase env.disableConfig false
      return true

/-- The change back. -/
def openDatabase (env : BackupEnv) (disabledConnectivity : Bool) : Handler BackupState Unit :=
  if disabledConnectivity then changeConnectivityToDatabase env.enableConfig true else pure ()

/-- The part of the action behind its checks and the change of connectivity. -/
def performBackup (env : BackupEnv) (type : BackupType) (disabledConnectivity : Bool) :
    Handler BackupState Unit := do
  modify fun s => { s with status := .maintenance "creating backup" }
  updateConfig env.startConfig true
  concludeBackup env type (attemptBackup env)
  openDatabase env disabledConnectivity
  updateConfig env.finalConfig false
  modify fun s => { s with status := .active }

/-- `_on_create_backup_action`. -/
def onCreateBackupAction (env : BackupEnv) : Handler BackupState Unit := do
  match BackupType.ofName? env.backupType with
  | none =>
      modify (.fail ("Invalid backup type: " ++ env.backupType ++
        ". Possible values: full, differential, incremental."))
  | some type =>
      match ← checkBackup env type with
      | some message => modify (.fail message)
      | none =>
          let disabledConnectivity ← closeDatabase env
          performBackup env type disabledConnectivity

/-! ## what the action leaves behind -/

/-- The action set results or failed. -/
def BackupState.Answered (s : BackupState) : Prop := s.results.isSome ∨ s.failure.isSome

/-- The preparation is undone: no exception came out, the action is answered,
clients are let in, and the configuration is not one of a running backup. -/
def Undone (r : EStateM.Result PyError BackupState Unit) : Prop :=
  ∃ s, r = .ok () s ∧ s.Answered ∧ s.isConnectivityEnabled = true ∧
    s.config.isCreatingBackup = false

/-- The action passed its checks and changed connectivity where it has to. -/
def Prepared (env : BackupEnv) (type : BackupType) (s : BackupState) : Prop :=
  BackupType.ofName? env.backupType = some type ∧
    ∃ s₁ disabledConnectivity s₂, (checkBackup env type).run s = .ok none s₁ ∧
      (closeDatabase env).run s₁ = .ok disabledConnectivity s₂

/-- The attempt ends in an answer: the command is not one that failed, and
the listing behind it either names a backup, or fails itself with an output
(or a backup type) that a substitute backup id comes out of. -/
structure AttemptAnswered (env : BackupEnv) (type : BackupType) : Prop where
  primary : env.primaryForCommand ≠ none
  command : ∃ output, executeCommandStream env.backup = .ok output
  listing : (∃ document stderr, env.newBackups = .exited document stderr ∧ document.Named) ∨
    ∃ text stdout stderr, env.newBackups = .failed text stdout stderr ∧
      ((findBackupLabel stdout.toList).isSome ∨ type = .full)

/-- The unit is a replica, as the action finds when it closes the database. -/
def BackupEnv.OnReplica (env : BackupEnv) : Prop := env.primaryForConnectivity = some false

/-- When the action undoes its preparation: its attempt ends in an answer, the
calls of `update_config` return and the last one renders the file (or none of
them does, on a configuration that was clean before), and a primary was open
to clients before. -/
structure CleansUp (env : BackupEnv) (type : BackupType) (s : BackupState) : Prop where
  attempt : AttemptAnswered env type
  start : env.startConfig.raised = none
  enable : env.OnReplica → env.enableConfig.raised = none
  final : env.finalConfig.raised = none
  opened : env.OnReplica ∨ s.isConnectivityEnabled = true
  rendered : env.finalConfig.rendered = true ∨ s.config.isCreatingBackup = false ∧
    env.startConfig.rendered = false ∧ (env.OnReplica →
      env.disableConfig.rendered = false ∧ env.enableConfig.rendered = false)

/-! ## the steps, one by one -/

/-- What a call of `update_config` that returns makes of the state. -/
def ConfigUpdate.apply (u : ConfigUpdate) (isCreatingBackup : Bool) (s : BackupState) :
    BackupState :=
  let s := if u.rendered then { s with config := ⟨s.isConnectivityEnabled, isCreatingBackup⟩ } else s
  match u.tls with
  | some tls => { s with unitData := s.unitData.set .tls tls }
  | none => s

@[simp] theorem run_updateConfig_ok {u : ConfigUpdate} {b : Bool} {s s' : BackupState} {a : Unit} :
    (updateConfig u b).run s = .ok a s' ↔ u.raised = none ∧ u.apply b s = s' := by
  obtain ⟨rendered, tls, raised⟩ := u
  cases rendered <;> cases tls <;> cases raised <;>
    simp [updateConfig, ConfigUpdate.apply]

@[simp] theorem apply_isConnectivityEnabled (u : ConfigUpdate) (b : Bool) (s : BackupState) :
    (u.apply b s).isConnectivityEnabled = s.isConnectivityEnabled := by
  obtain ⟨rendered, tls, raised⟩ := u
  cases rendered <;> cases tls <;> simp [ConfigUpdate.apply, BackupState.isConnectivityEnabled]

@[simp] theorem apply_isCreatingBackup (u : ConfigUpdate) (b : Bool) (s : BackupState) :
    (u.apply b s).config.isCreatingBackup =
      if u.rendered then b else s.config.isCreatingBackup := by
  obtain ⟨rendered, tls, raised⟩ := u
  cases rendered <;> cases tls <;> simp [ConfigUpdate.apply]

@[simp] theorem apply_answered (u : ConfigUpdate) (b : Bool) (s : BackupState) :
    (u.apply b s).Answered ↔ s.Answered := by
  obtain ⟨rendered, tls, raised⟩ := u
  cases rendered <;> cases tls <;> simp [ConfigUpdate.apply, BackupState.Answered]

/-! ## the attempt and its conclusion -/

theorem isPrimary_eq_ok {primary : Option Bool} {b : Bool} :
    isPrimary primary = .ok b ↔ primary = some b := by
  cases primary <;> simp [isPrimary]

theorem isPrimary_ne_execError {primary : Option Bool} {text : String}
    {stdout stderr : Option String} : isPrimary primary ≠ .error (.execError text stdout stderr) := by
  cases primary <;> simp [isPrimary]

theorem newestBackup_eq_ok {backups : Dict String (String × String)} {key : String} :
    newestBackup backups = .ok key ↔ backups.keys.getLast? = some key := by
  unfold newestBackup
  cases backups.keys.getLast? <;> simp

theorem newestBackup_ne_execError {backups : Dict String (String × String)} {text : String}
    {stdout stderr : Option String} :
    newestBackup backups ≠ .error (.execError text stdout stderr) := by
  unfold newestBackup
  cases backups.keys.getLast? <;> simp

/-- The attempt names a backup when all of its steps work. -/
theorem exists_attemptBackup_ok (env : BackupEnv) :
    (∃ attempt, attemptBackup env = .ok attempt) ↔ env.primaryForCommand ≠ none ∧
      (∃ output, executeCommandStream env.backup = .ok output) ∧
      ∃ document stderr, env.newBackups = .exited document stderr ∧ document.Named := by
  rw [← exists_newest_iff, Option.ne_none_iff_exists']
  simp only [attemptBackup, Except.bind_eq_ok, isPrimary_eq_ok, newestBackup_eq_ok]
  constructor
  · rintro ⟨_, b, hb, output, houtput, backups, hbackups, key, hkey, -⟩
    exact ⟨⟨b, hb⟩, ⟨output, houtput⟩, backups, hbackups, key, hkey⟩
  · rintro ⟨⟨b, hb⟩, ⟨output, houtput⟩, backups, hbackups, key, hkey⟩
    exact ⟨_, b, hb, output, houtput, backups, hbackups, key, hkey, rfl⟩

/-- The exceptions that the handler of the attempt sees: a failed command, or
a failed listing. -/
theorem attemptBackup_execError {env : BackupEnv} {text : String} {stdout stderr : Option String} :
    attemptBackup env = .error (.execError text stdout stderr) ↔ env.primaryForCommand ≠ none ∧
      (executeCommandStream env.backup = .error (.execError text stdout stderr) ∨
        (∃ output, executeCommandStream env.backup = .ok output) ∧
          listBackups env.newBackups true true = .error (.execError text stdout stderr)) := by
  rw [Option.ne_none_iff_exists']
  simp only [attemptBackup, Except.bind_eq_error, isPrimary_eq_ok, isPrimary_ne_execError,
    newestBackup_ne_execError, pure, Except.pure, reduceCtorEq, and_false, exists_false,
    or_false, false_or]
  constructor
  · rintro ⟨b, hb, h | ⟨output, houtput, h⟩⟩
    · exact ⟨⟨b, hb⟩, .inl h⟩
    · exact ⟨⟨b, hb⟩, .inr ⟨⟨output, houtput⟩, h⟩⟩
  · rintro ⟨⟨b, hb⟩, h | ⟨⟨output, houtput⟩, h⟩⟩
    · exact ⟨b, hb, .inl h⟩
    · exact ⟨b, hb, .inr ⟨output, houtput, h⟩⟩

/-- A substitute backup id comes out only of a full backup. -/
theorem exists_generateFakeBackupId_ok {now : DateTime} {backups : CommandOutcome InfoDocument}
    {type : BackupType} :
    (∃ id, generateFakeBackupId now backups type = .ok id) ↔ type = .full := by
  cases type with
  | full => simp [generateFakeBackupId]
  | differential =>
      simp [generateFakeBackupId, Except.bind_eq_ok, throw, throwThe, MonadExceptOf.throw]
  | incremental =>
      simp only [generateFakeBackupId, Except.bind_eq_ok, throw, throwThe, MonadExceptOf.throw,
        reduceCtorEq, iff_false]
      rintro ⟨id, backups, -, h⟩
      split at h <;> cases h

/-- The handler needs the output of the failed command. -/
theorem exists_recoverBackupId_ok {env : BackupEnv} {type : BackupType} {stdout : Option String} :
    (∃ id, recoverBackupId env type stdout = .ok id) ↔
      ∃ text, stdout = some text ∧ ((findBackupLabel text.toList).isSome ∨ type = .full) := by
  cases stdout with
  | none => simp [recoverBackupId]
  | some text =>
      cases hlabel : findBackupLabel text.toList with
      | none => simp [recoverBackupId, hlabel, exists_generateFakeBackupId_ok]
      | some label => simp [recoverBackupId, hlabel]

theorem executeCommandStream_execError {α : Type} {command : CommandOutcome α} {text : String}
    {stdout stderr : Option String}
    (h : executeCommandStream command = .error (.execError text stdout stderr)) :
    stdout = none := by
  cases command <;> simp_all [executeCommandStream]

/-- What the handler of a failed command comes to, if it does not raise. -/
theorem run_concludeBackup_execError {env : BackupEnv} {type : BackupType} {s s' : BackupState}
    {text : String} {stdout stderr : Option String} :
    (concludeBackup env type (.error (.execError text stdout stderr))).run s = .ok () s' ↔
      ∃ backupId, recoverBackupId env type stdout = .ok backupId ∧ s' =
        .fail ("Failed to backup PostgreSQL with error: " ++ text) { s with
          uploads := s.uploads ++ [⟨backupLogs stdout stderr, logsPath env backupId⟩] } := by
  simp only [concludeBackup, uploadContentToS3, EStateM.run_bind_ok, EStateM.run_ofExcept_ok,
    EStateM.run_modify_ok, EStateM.run_pure_ok]
  constructor
  · rintro ⟨backupId, _, ⟨hid, rfl⟩, _, _, ⟨_, _, rfl, -, rfl⟩, rfl⟩
    exact ⟨backupId, hid, rfl⟩
  · rintro ⟨backupId, hid, rfl⟩
    exact ⟨backupId, s, ⟨hid, rfl⟩, env.logsUploaded, _, ⟨(), _, rfl, rfl, rfl⟩, rfl⟩

/-- What a backup that was made comes to. -/
theorem run_concludeBackup_attempt {env : BackupEnv} {type : BackupType} {s s' : BackupState}
    {attempt : Attempt} :
    (concludeBackup env type (.ok attempt)).run s = .ok () s' ↔ s' =
      let uploaded : BackupState := { s with uploads := s.uploads ++
        [⟨backupLogs attempt.stdout attempt.stderr, logsPath env attempt.backupId⟩] }
      if env.logsUploaded then
        { uploaded with results := some [("backup-status", "backup created")] }
      else uploaded.fail "Error uploading logs to S3" := by
  cases huploaded : env.logsUploaded <;>
    simp [concludeBackup, uploadContentToS3, huploaded, eq_comm]

/-- The conclusion of an attempt, if it does not raise, answers the action and
touches neither the unit databag nor the configuration. -/
theorem concludeBackup_spec {env : BackupEnv} {type : BackupType} {s s' : BackupState}
    {attempt : Except PyError Attempt}
    (h : (concludeBackup env type attempt).run s = .ok () s') :
    s'.Answered ∧ s'.unitData = s.unitData ∧ s'.config = s.config := by
  match attempt with
  | .ok attempt =>
      rw [run_concludeBackup_attempt] at h
      cases huploaded : env.logsUploaded <;>
        simp [h, huploaded, BackupState.Answered, BackupState.fail]
  | .error (.execError text stdout stderr) =>
      obtain ⟨backupId, -, rfl⟩ := run_concludeBackup_execError.mp h
      simp [BackupState.Answered, BackupState.fail]
  | .error (.apiError _) | .error (.changeError _) | .error .retryError | .error (.typeError _)
  | .error (.valueError _) | .error .indexError | .error (.other _) =>
      exact (EStateM.run_throw_ok.mp h).elim

/-- The conclusion does not raise when the attempt worked, or when it raised
an `ExecError` that a substitute backup id comes out of. -/
theorem exists_run_concludeBackup {env : BackupEnv} {type : BackupType} {s : BackupState}
    {attempt : Except PyError Attempt} :
    (∃ s', (concludeBackup env type attempt).run s = .ok () s') ↔
      (∃ a, attempt = .ok a) ∨ ∃ text stdout stderr,
        attempt = .error (.execError text stdout stderr) ∧
          ∃ id, recoverBackupId env type stdout = .ok id := by
  match attempt with
  | .ok attempt => simp only [run_concludeBackup_attempt]; simp
  | .error (.execError text stdout stderr) =>
      simp only [run_concludeBackup_execError]
      constructor
      · rintro ⟨_, id, hid, -⟩
        exact .inr ⟨text, stdout, stderr, rfl, id, hid⟩
      · rintro (⟨a, ha⟩ | ⟨_, _, _, h, id, hid⟩)
        · cases ha
        · cases h
          exact ⟨_, id, hid, rfl⟩
  | .error (.apiError _) | .error (.changeError _) | .error .retryError | .error (.typeError _)
  | .error (.valueError _) | .error .indexError | .error (.other _) =>
      simp [concludeBackup]

/-- Whether the attempt of the action ends in an answer. -/
theorem attemptAnswered_iff {env : BackupEnv} {type : BackupType} {s : BackupState} :
    (∃ s', (concludeBackup env type (attemptBackup env)).run s = .ok () s') ↔
      AttemptAnswered env type := by
  rw [exists_run_concludeBackup, exists_attemptBackup_ok]
  simp only [attemptBackup_execError, exists_recoverBackupId_ok, listBackups_execError]
  constructor
  · rintro (⟨hprimary, hcommand, hnamed⟩ | ⟨text, stdout, stderr, ⟨hprimary, h⟩, out, hout, hid⟩)
    · exact ⟨hprimary, hcommand, .inl hnamed⟩
    · obtain h | ⟨hcommand, out', err, hfailed, hout', -⟩ := h
      · rw [executeCommandStream_execError h] at hout
        cases hout
      · rw [hout'] at hout
        cases hout
        exact ⟨hprimary, hcommand, .inr ⟨text, _, err, hfailed, hid⟩⟩
  · rintro ⟨hprimary, hcommand, hnamed | ⟨text, out, err, hfailed, hid⟩⟩
    · exact .inl ⟨hprimary, hcommand, hnamed⟩
    · exact .inr ⟨text, some out, some err,
        ⟨hprimary, .inr ⟨hcommand, out, err, hfailed, rfl, rfl⟩⟩, out, rfl, hid⟩

/-! ## the whole action -/

/-- `_change_connectivity_to_database`, if it returns. -/
theorem run_changeConnectivity_ok {u : ConfigUpdate} {connectivity : Bool} {s s' : BackupState} :
    (changeConnectivityToDatabase u connectivity).run s = .ok () s' ↔ u.raised = none ∧
      u.apply true { s with
        unitData := s.unitData.set .connectivity (if connectivity then "on" else "off") } = s' := by
  simp only [changeConnectivityToDatabase, EStateM.run_bind_ok, EStateM.run_modify_ok,
    run_updateConfig_ok]
  simp

/-- The checks change neither the unit databag nor the configuration. -/
theorem checkBackup_frame {env : BackupEnv} {type : BackupType} {s s' : BackupState}
    {message : Option String} (h : (checkBackup env type).run s = .ok message s') :
    s'.unitData = s.unitData ∧ s'.config = s.config := by
  unfold checkBackup at h
  obtain ⟨previous, t, hprevious, h⟩ := EStateM.run_bind_ok.mp h
  obtain ⟨-, rfl⟩ := EStateM.run_ofExcept_ok.mp hprevious
  cases previous with
  | some message =>
      obtain ⟨-, rfl⟩ := EStateM.run_pure_ok.mp h
      exact ⟨rfl, rfl⟩
  | none =>
      obtain ⟨_, _, hget, h⟩ := EStateM.run_bind_ok.mp h
      obtain ⟨rfl, rfl⟩ := EStateM.run_get_ok.mp hget
      split at h
      · obtain ⟨-, rfl⟩ := EStateM.run_pure_ok.mp h
        exact ⟨rfl, rfl⟩
      · simp only [uploadContentToS3, EStateM.run_bind_ok, EStateM.run_modify_ok,
          EStateM.run_pure_ok] at h
        obtain ⟨_, _, ⟨_, _, rfl, -, rfl⟩, -, rfl⟩ := h
        exact ⟨rfl, rfl⟩

/-- What `closeDatabase` comes to: nothing on a primary, a closed database on a
replica. -/
theorem run_closeDatabase_ok {env : BackupEnv} {disabledConnectivity : Bool}
    {s s' : BackupState} :
    (closeDatabase env).run s = .ok disabledConnectivity s' ↔
      env.primaryForConnectivity = some true ∧ disabledConnectivity = false ∧ s' = s ∨
      env.OnReplica ∧ disabledConnectivity = true ∧
        (changeConnectivityToDatabase env.disableConfig false).run s = .ok () s' := by
  unfold closeDatabase BackupEnv.OnReplica
  simp only [EStateM.run_bind_ok, EStateM.run_ofExcept_ok, isPrimary_eq_ok]
  constructor
  · rintro ⟨b, _, ⟨hb, rfl⟩, h⟩
    cases b with
    | true =>
        obtain ⟨rfl, rfl⟩ := EStateM.run_pure_ok.mp h
        exact .inl ⟨hb, rfl, rfl⟩
    | false =>
        obtain ⟨_, t, hchange, h⟩ := EStateM.run_bind_ok.mp h
        obtain ⟨rfl, rfl⟩ := EStateM.run_pure_ok.mp h
        exact .inr ⟨hb, rfl, hchange⟩
  · rintro (⟨hb, rfl, rfl⟩ | ⟨hb, rfl, h⟩)
    · exact ⟨true, s', ⟨hb, rfl⟩, EStateM.run_pure_ok.mpr ⟨rfl, rfl⟩⟩
    · exact ⟨false, s, ⟨hb, rfl⟩,
        EStateM.run_bind_ok.mpr ⟨(), s', h, EStateM.run_pure_ok.mpr ⟨rfl, rfl⟩⟩⟩

/-- The part behind the preparation returns exactly when the attempt is
answered and the calls of `update_config` return. -/
theorem run_performBackup_ok {env : BackupEnv} {type : BackupType} {disabled : Bool}
    {s s' : BackupState} :
    (performBackup env type disabled).run s = .ok () s' ↔ ∃ s₁ s₂,
      env.startConfig.raised = none ∧
      (concludeBackup env type (attemptBackup env)).run (env.startConfig.apply true
        { s with status := .maintenance "creating backup" }) = .ok () s₁ ∧
      (openDatabase env disabled).run s₁ = .ok () s₂ ∧ env.finalConfig.raised = none ∧
      s' = { env.finalConfig.apply false s₂ with status := .active } := by
  simp only [performBackup, EStateM.run_bind_ok, EStateM.run_modify_ok, run_updateConfig_ok]
  constructor
  · rintro ⟨_, _, rfl, _, _, ⟨hstart, rfl⟩, _, s₁, hconclude, _, s₂, hopen, _, _, ⟨hfinal, rfl⟩, rfl⟩
    exact ⟨s₁, s₂, hstart, hconclude, hopen, hfinal, rfl⟩
  · rintro ⟨s₁, s₂, hstart, hconclude, hopen, hfinal, rfl⟩
    exact ⟨(), _, rfl, (), _, ⟨hstart, rfl⟩, (), s₁, hconclude, (), s₂, hopen, (), _,
      ⟨hfinal, rfl⟩, rfl⟩

theorem run_openDatabase_ok {env : BackupEnv} {disabled : Bool} {s s' : BackupState} :
    (openDatabase env disabled).run s = .ok () s' ↔
      (disabled = true → env.enableConfig.raised = none) ∧ s' = if disabled then
        env.enableConfig.apply true { s with unitData := s.unitData.set .connectivity "on" }
        else s := by
  cases disabled with
  | true =>
      have h : (changeConnectivityToDatabase env.enableConfig true).run s = .ok () s' ↔ _ :=
        run_changeConnectivity_ok
      simp only [if_true] at h
      simp [openDatabase, h, eq_comm]
  | false =>
      simp only [openDatabase, Bool.false_eq_true, if_false, EStateM.run_pure_ok]
      simp [eq_comm]

/-- What the part behind the preparation leaves, if it returns. -/
theorem performBackup_spec {env : BackupEnv} {type : BackupType} {disabled : Bool}
    {s s' : BackupState} (h : (performBackup env type disabled).run s = .ok () s') :
    s'.Answered ∧ s'.isConnectivityEnabled = (disabled || s.isConnectivityEnabled) ∧
      s'.config.isCreatingBackup = (!env.finalConfig.rendered &&
        (disabled && env.enableConfig.rendered || env.startConfig.rendered ||
          s.config.isCreatingBackup)) := by
  obtain ⟨s₁, s₂, -, hconclude, hopen, -, rfl⟩ := run_performBackup_ok.mp h
  obtain ⟨hanswered, hdata, hconfig⟩ := concludeBackup_spec hconclude
  obtain ⟨-, rfl⟩ := run_openDatabase_ok.mp hopen
  have henabled : s₁.isConnectivityEnabled = s.isConnectivityEnabled := by
    rw [BackupState.isConnectivityEnabled, hdata]
    exact apply_isConnectivityEnabled env.startConfig true _
  have hcreating : s₁.config.isCreatingBackup =
      (env.startConfig.rendered || s.config.isCreatingBackup) := by
    rw [hconfig, apply_isCreatingBackup]
    cases env.startConfig.rendered <;> rfl
  cases disabled with
  | true =>
      refine ⟨(apply_answered _ _ _).mpr ((apply_answered _ _ _).mpr hanswered), ?_, ?_⟩
      · show (env.finalConfig.apply false _).isConnectivityEnabled = _
        rw [apply_isConnectivityEnabled, if_pos rfl, apply_isConnectivityEnabled]
        simp [BackupState.isConnectivityEnabled, Databag.getD]
      · show (env.finalConfig.apply false _).config.isCreatingBackup = _
        rw [apply_isCreatingBackup, if_pos rfl, apply_isCreatingBackup, hcreating]
        cases env.finalConfig.rendered <;> cases env.enableConfig.rendered <;> rfl
  | false =>
      refine ⟨(apply_answered _ _ _).mpr hanswered, ?_, ?_⟩
      · show (env.finalConfig.apply false _).isConnectivityEnabled = _
        rw [apply_isConnectivityEnabled, if_neg Bool.false_ne_true, henabled]
        rfl
      · show (env.finalConfig.apply false _).config.isCreatingBackup = _
        rw [apply_isCreatingBackup, if_neg Bool.false_ne_true, hcreating]
        cases env.finalConfig.rendered <;> rfl

/-- The part behind the preparation returns exactly when the attempt is
answered and the calls of `update_config` return. -/
theorem exists_run_performBackup {env : BackupEnv} {type : BackupType} {disabled : Bool}
    {s : BackupState} :
    (∃ s', (performBackup env type disabled).run s = .ok () s') ↔
      AttemptAnswered env type ∧ env.startConfig.raised = none ∧
      (disabled = true → env.enableConfig.raised = none) ∧ env.finalConfig.raised = none := by
  simp only [run_performBackup_ok, run_openDatabase_ok]
  constructor
  · rintro ⟨_, s₁, _, hstart, hconclude, ⟨henable, -⟩, hfinal, -⟩
    exact ⟨attemptAnswered_iff.mp ⟨s₁, hconclude⟩, hstart, henable, hfinal⟩
  · rintro ⟨hattempt, hstart, henable, hfinal⟩
    obtain ⟨s₁, hconclude⟩ := attemptAnswered_iff.mpr hattempt
    exact ⟨_, s₁, _, hstart, hconclude, ⟨henable, rfl⟩, hfinal, rfl⟩

/-- Behind the preparation, in the terms of the state the preparation left. -/
theorem undone_performBackup_iff {env : BackupEnv} {type : BackupType} {disabled : Bool}
    {s : BackupState} :
    Undone ((performBackup env type disabled).run s) ↔
      AttemptAnswered env type ∧ env.startConfig.raised = none ∧
      (disabled = true → env.enableConfig.raised = none) ∧ env.finalConfig.raised = none ∧
      (disabled = true ∨ s.isConnectivityEnabled = true) ∧
      (env.finalConfig.rendered = true ∨ s.config.isCreatingBackup = false ∧
        env.startConfig.rendered = false ∧
          (disabled = true → env.enableConfig.rendered = false)) := by
  have hreturns : (∃ s', (performBackup env type disabled).run s = .ok () s') ↔ _ :=
    exists_run_performBackup
  constructor
  · rintro ⟨s', h, -, hopen, hconfig⟩
    obtain ⟨-, henabled, hcreating⟩ := performBackup_spec h
    obtain ⟨hattempt, hstart, henable, hfinal⟩ := hreturns.mp ⟨s', h⟩
    rw [henabled, Bool.or_eq_true] at hopen
    rw [hcreating] at hconfig
    exact ⟨hattempt, hstart, henable, hfinal, hopen, by grind⟩
  · rintro ⟨hattempt, hstart, henable, hfinal, hopen, hconfig⟩
    obtain ⟨s', h⟩ := hreturns.mpr ⟨hattempt, hstart, henable, hfinal⟩
    obtain ⟨hanswered, henabled, hcreating⟩ := performBackup_spec h
    rw [← Bool.or_eq_true, ← henabled] at hopen
    exact ⟨s', h, hanswered, hopen, by rw [hcreating]; grind⟩

/-- **Undoing the preparation**: an action that passed its checks and changed
connectivity undoes both exactly when `CleansUp` holds. -/
theorem undone_iff (env : BackupEnv) (type : BackupType) (s : BackupState)
    (hprepared : Prepared env type s) :
    Undone ((onCreateBackupAction env).run s) ↔ CleansUp env type s := by
  obtain ⟨htype, s₁, disabled, s₂, hchecks, hclose⟩ := hprepared
  have hrun : (onCreateBackupAction env).run s = (performBackup env type disabled).run s₂ := by
    unfold onCreateBackupAction
    rw [htype]
    dsimp only
    rw [EStateM.run_bind_of_ok hchecks, EStateM.run_bind_of_ok hclose]
  obtain ⟨hdata, hconfig⟩ := checkBackup_frame hchecks
  have henabled : s₁.isConnectivityEnabled = s.isConnectivityEnabled := by
    rw [BackupState.isConnectivityEnabled, hdata, BackupState.isConnectivityEnabled]
  rw [hrun, undone_performBackup_iff]
  obtain ⟨hprimary, rfl, rfl⟩ | ⟨hreplica, rfl, hchange⟩ := run_closeDatabase_ok.mp hclose
  · have hnot : ¬ env.OnReplica := by simp [BackupEnv.OnReplica, hprimary]
    rw [henabled, hconfig]
    constructor
    · rintro ⟨hattempt, hstart, -, hfinal, hopen, hrendered⟩
      exact ⟨hattempt, hstart, fun h => absurd h hnot, hfinal, .inr (by simpa using hopen), by
        simpa [hnot] using hrendered⟩
    · rintro ⟨hattempt, hstart, -, hfinal, hopen, hrendered⟩
      exact ⟨hattempt, hstart, nofun, hfinal, .inr (by simpa [hnot] using hopen), by
        simpa [hnot] using hrendered⟩
  · -- on a replica the call that closed the database may have rendered the file as well
    obtain ⟨-, rfl⟩ := run_changeConnectivity_ok.mp hchange
    have hcreating : (env.disableConfig.apply true { s₁ with
        unitData := s₁.unitData.set .connectivity "off" }).config.isCreatingBackup =
          (env.disableConfig.rendered || s.config.isCreatingBackup) := by
      rw [apply_isCreatingBackup, hconfig]
      cases env.disableConfig.rendered <;> rfl
    constructor
    · rintro ⟨hattempt, hstart, henable, hfinal, -, hrendered⟩
      refine ⟨hattempt, hstart, fun _ => henable rfl, hfinal, .inl hreplica, ?_⟩
      simp only [Bool.false_eq_true, if_false, hcreating] at hrendered
      grind
    · rintro ⟨hattempt, hstart, henable, hfinal, -, hrendered⟩
      refine ⟨hattempt, hstart, fun _ => henable hreplica, hfinal, .inl rfl, ?_⟩
      simp only [Bool.false_eq_true, if_false, hcreating]
      grind

/-- A full backup on a replica where everything works: the repository holds
the new backup afterwards. -/
def replicaBackup : BackupEnv where
  backupType := "full"
  stanzaName := "testbed.postgresql-k8s"
  modelName := "testbed"
  appName := "postgresql-k8s"
  unitName := "postgresql-k8s/1"
  jujuVersion := "3.6.1"
  now := ⟨2024, 5, 17, 10, 30, 0⟩
  previousBackups := .exited (some []) ""
  isBlocked := false
  plannedUnits := 3
  memberStarted := true
  stanzaInitialised := true
  settings := ⟨true, []⟩
  primaryForChecks := some false
  primaryForConnectivity := some false
  primaryForCommand := some false
  metadataUploaded := true
  logsUploaded := true
  disableConfig := ⟨true, none, none⟩
  startConfig := ⟨true, none, none⟩
  enableConfig := ⟨true, none, none⟩
  finalConfig := ⟨true, none, none⟩
  backup := .exited "new backup label = 20240517-103002F" ""
  newBackups := .exited (some [⟨"testbed.postgresql-k8s",
    [⟨"20240517-103002F", some "000000010000000000000004", false⟩]⟩]) ""
  earlierBackups := .exited (some []) ""

/-- A running replica with TLS. -/
def runningReplica : BackupState where
  unitData := (∅ : Databag BackupKey).set .tls "enabled"
  config := ⟨true, false⟩
  status := .active
  uploads := []
  results := none
  failure := none

/-- A backup of a replica with TLS is undone in the end. -/
theorem undone_iff_replicaBackup : Prepared replicaBackup .full runningReplica ∧
    Undone ((onCreateBackupAction replicaBackup).run runningReplica) := by
  have hprepared : Prepared replicaBackup .full runningReplica :=
    ⟨by decide, _, _, _, rfl, rfl⟩
  have hcleans : CleansUp replicaBackup .full runningReplica := {
    attempt := {
      primary := fun h => by cases h
      command := ⟨_, rfl⟩
      listing := .inl ⟨_, _, rfl, by
        simp only [InfoDocument.Named, List.mem_singleton, forall_eq]
        exact ⟨by decide, ("2024-05-17T10:30:02Z", "full"), by decide⟩⟩ }
    start := rfl
    enable := fun _ => rfl
    final := rfl
    opened := .inl rfl
    rendered := .inl rfl }
  exact ⟨hprepared, (undone_iff replicaBackup .full runningReplica hprepared).mpr hcleans⟩

/-- The same backup when pgBackRest fails. -/
def failedReplicaBackup : BackupEnv :=
  { replicaBackup with backup := .failed "non-zero exit code 49 executing ['pgbackrest']" "" "" }

/-- A command that fails leaves the replica closed to clients: the exception of
a streamed command has no output for the handler to search. -/
theorem failedReplicaBackup_not_undone : Prepared failedReplicaBackup .full runningReplica ∧
    ¬ Undone ((onCreateBackupAction failedReplicaBackup).run runningReplica) := by
  refine ⟨⟨by decide, _, _, _, rfl, rfl⟩, ?_⟩
  rintro ⟨s, h, -⟩
  cases h

end PostgresqlK8s.Backups
