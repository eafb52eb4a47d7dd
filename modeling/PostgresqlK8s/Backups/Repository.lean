import PostgresqlK8s.Backups.Messages
import PostgresqlK8s.Lib.DateTime
import PostgresqlK8s.Lib.Dict
import PostgresqlK8s.Lib.StateExcept
import Mathlib.Tactic.Common

/-!
# Backups.Repository

What the backup handlers read from the pgBackRest repository: commands in the
workload container and how they end, backup labels and the listing of the
backups.
-/

namespace PostgresqlK8s.Backups

/-- A Python exception: its class, and what a handler reads of it. -/
inductive PyError
  /-- The text of the exception, and the output it carries. -/
  | execError (text : String) (stdout stderr : Option String)
  | apiError (text : String)
  | changeError (text : String)
  | retryError
  | typeError (message : String)
  | valueError (message : String)
  | indexError
  | other (name : String)
deriving DecidableEq, Repr

/-- Handlers over a state `σ`: an exception keeps what was written before it. -/
abbrev Handler (σ : Type) := EStateM PyError σ

/-! ## commands -/

/-- How a command in the workload container ends: it exits, it fails with an
`ExecError`, Pebble refuses the change, or another exception comes up.  Its
output is a text, or the document that a text spells. -/
inductive CommandOutcome (α : Type)
  | exited (stdout : α) (stderr : String)
  | failed (text stdout stderr : String)
  | changeError (text : String)
  | raised (name : String)
deriving Repr

/-- `_execute_command(command)`, which waits for the output. -/
def executeCommand {α : Type} :
    CommandOutcome α → Except PyError (Option α × Option String)
  | .exited stdout stderr => .ok (some stdout, some stderr)
  | .failed text stdout stderr => .error (.execError text (some stdout) (some stderr))
  | .changeError _ => .ok (none, none)
  | .raised name => .error (.other name)

/-- `_execute_command(command, stream=True)`: the output was read before
`wait`, so the exception of a failed command carries none of it. -/
def executeCommandStream {α : Type} :
    CommandOutcome α → Except PyError (Option α × Option String)
  | .exited stdout stderr => .ok (some stdout, some stderr)
  | .failed text _ _ => .error (.execError text none none)
  | .changeError _ => .ok (none, none)
  | .raised name => .error (.other name)

/-! ## labels -/

/-- The format `%Y%m%d-%H%M%S` of a backup label. -/
def labelFormat : List DateTime.Directive :=
  [.field .year, .field .month, .field .day, .literal '-', .field .hour, .field .minute,
    .field .second]

/-- The format `%Y-%m-%dT%H:%M:%SZ` of a backup id. -/
def backupIdFormat : List DateTime.Directive :=
  [.field .year, .literal '-', .field .month, .literal '-', .field .day, .literal 'T',
    .field .hour, .literal ':', .field .minute, .literal ':', .field .second, .literal 'Z']

/-- `label.split("_")[1]`. -/
def labelTimestamp (label : String) : Except PyError String :=
  match (label.toList.splitOn '_')[1]? with
  | some timestamp => .ok (String.ofList timestamp)
  | none => .error .indexError

/-- The part of a label that holds its time, with the type letter, and the
backup type. -/
def labelParts (label : String) : Except PyError (String × String) :=
  match label.toList.getLast? with
  | none => .error .indexError
  | some 'F' => .ok (label, "full")
  | some 'D' => (·, "differential") <$> labelTimestamp label
  | some 'I' => (·, "incremental") <$> labelTimestamp label
  | some _ => .error (.valueError "Unknown label format for backup ID")

/-- `_parse_backup_id`: the backup id and the backup type of a label. -/
def parseBackupId (label : String) : Except PyError (String × String) := do
  let (timestamp, backupType) ← labelParts label
  match DateTime.strptime labelFormat (String.ofList timestamp.toList.dropLast) with
  | some t => return (DateTime.strftime backupIdFormat t, backupType)
  | none => throw (.valueError "time data does not match format")

/-! ## the listing -/

/-- A backup as `pgbackrest info` describes it. -/
structure BackupInfo where
  label : String
  /-- `backup["archive"]["start"]`, when it is there and not null. -/
  archiveStart : Option String
  error : Bool
deriving DecidableEq, Repr

structure RepositoryInfo where
  name : String
  backup : List BackupInfo
deriving DecidableEq, Repr

/-- The document that `pgbackrest info --output=json` prints, or `none` for a
text that is not one. -/
abbrev InfoDocument := Option (List RepositoryInfo)

/-- The timeline a backup started on. -/
def BackupInfo.timeline (b : BackupInfo) : String :=
  match b.archiveStart with
  | some start => String.ofList ((start.toList.take 8).dropWhile (· == '0'))
  | none => ""

/-- The entry of a backup in the listing. -/
def backupEntry (stanzaName : String) (parse : Bool) (b : BackupInfo) :
    Except PyError (String × (String × String)) := do
  let key ← if parse then (·.1) <$> parseBackupId b.label else .ok b.label
  return (key, (stanzaName, b.timeline))

/-- `json.loads(output)`. -/
def jsonLoads {α : Type} : Option (Option α) → Except PyError α
  | none => .error (.typeError "the JSON object must be str, bytes or bytearray, not NoneType")
  | some none => .error (.valueError "Expecting value")
  | some (some document) => .ok document

/-- `_list_backups`, over what `pgbackrest info` came to. -/
def listBackups (info : CommandOutcome InfoDocument) (showFailed parse : Bool) :
    Except PyError (Dict String (String × String)) := do
  let (output, _) ← executeCommand info
  match ← jsonLoads output with
  | [] => return ∅
  | repositoryInfo :: _ =>
      let backups := repositoryInfo.backup.filter fun b => showFailed || !b.error
      let entries ← backups.mapM (backupEntry repositoryInfo.name parse)
      return (∅ : Dict String (String × String)).update entries

/-- What a listing with all backups and their ids needs: the first stanza has
a backup, and every label of it is one. -/
def InfoDocument.Named : InfoDocument → Prop
  | some (repositoryInfo :: _) =>
      repositoryInfo.backup ≠ [] ∧ ∀ b ∈ repositoryInfo.backup, ∃ id, parseBackupId b.label = .ok id
  | _ => False

theorem backupEntry_parse_eq_ok {stanzaName : String} {b : BackupInfo} :
    (∃ entry, backupEntry stanzaName true b = .ok entry) ↔
      ∃ id, parseBackupId b.label = .ok id := by
  unfold backupEntry
  cases parseBackupId b.label with
  | ok id => simp [bind, Except.bind, pure, Except.pure, Functor.map, Except.map]
  | error e => simp [bind, Except.bind, Functor.map, Except.map]

/-- The last key of a dictionary exists as soon as entries were written to it. -/
theorem exists_getLast?_update {entries : List (String × (String × String))} :
    (∃ key, ((∅ : Dict String (String × String)).update entries).keys.getLast? = some key) ↔
      entries ≠ [] := by
  constructor
  · rintro ⟨key, hkey⟩ rfl
    simp at hkey
  · intro hne
    obtain ⟨entry, hentry⟩ := List.exists_mem_of_ne_nil entries hne
    have hmem : entry.1 ∈ ((∅ : Dict String (String × String)).update entries).keys :=
      Dict.mem_keys_update.mpr (.inl (List.mem_map_of_mem hentry))
    exact ⟨_, List.getLast?_eq_some_getLast (List.ne_nil_of_mem hmem)⟩

theorem listBackups_exited (repositoryInfo : RepositoryInfo) (rest : List RepositoryInfo)
    (stderr : String) :
    listBackups (.exited (some (repositoryInfo :: rest)) stderr) true true =
      repositoryInfo.backup.mapM (backupEntry repositoryInfo.name true) >>= fun entries =>
        .ok ((∅ : Dict String (String × String)).update entries) := by
  simp [listBackups, executeCommand, jsonLoads, bind, Except.bind, pure, Except.pure]

/-- The listing of all backups has a last key exactly when `pgbackrest info`
exits with a document that names one. -/
theorem exists_newest_iff (info : CommandOutcome InfoDocument) :
    (∃ backups, listBackups info true true = .ok backups ∧
        ∃ key, backups.keys.getLast? = some key) ↔
      ∃ document stderr, info = .exited document stderr ∧ document.Named := by
  cases info with
  | failed text stdout stderr => simp [listBackups, executeCommand, bind, Except.bind]
  | changeError text => simp [listBackups, executeCommand, jsonLoads, bind, Except.bind]
  | raised name => simp [listBackups, executeCommand, bind, Except.bind]
  | exited document stderr =>
      simp only [CommandOutcome.exited.injEq]
      match document with
      | none => simp [listBackups, executeCommand, jsonLoads, bind, Except.bind, InfoDocument.Named]
      | some [] =>
          simp [listBackups, executeCommand, jsonLoads, bind, Except.bind, pure, Except.pure,
            InfoDocument.Named]
      | some (repositoryInfo :: rest) =>
          have hnamed : (∃ entries, repositoryInfo.backup.mapM
              (backupEntry repositoryInfo.name true) = .ok entries) ↔
              ∀ b ∈ repositoryInfo.backup, ∃ id, parseBackupId b.label = .ok id := by
            rw [Except.mapM_eq_ok]
            simp only [backupEntry_parse_eq_ok]
          rw [listBackups_exited]
          simp only [Except.bind_eq_ok, Except.ok.injEq]
          constructor
          · rintro ⟨_, ⟨entries, hentries, rfl⟩, hkey⟩
            refine ⟨_, _, ⟨rfl, rfl⟩, ?_, hnamed.mp ⟨entries, hentries⟩⟩
            rintro hempty
            have hlen := Except.length_of_mapM_eq_ok hentries
            rw [hempty] at hlen
            exact exists_getLast?_update.mp hkey (List.eq_nil_of_length_eq_zero hlen)
          · rintro ⟨_, _, ⟨rfl, rfl⟩, hne, hparse⟩
            obtain ⟨entries, hentries⟩ := hnamed.mpr hparse
            have hlen := Except.length_of_mapM_eq_ok hentries
            refine ⟨_, ⟨entries, hentries, rfl⟩, exists_getLast?_update.mpr ?_⟩
            rintro rfl
            exact hne (List.eq_nil_of_length_eq_zero hlen.symm)

theorem labelTimestamp_ne_execError {label text : String} {stdout stderr : Option String} :
    labelTimestamp label ≠ .error (.execError text stdout stderr) := by
  unfold labelTimestamp
  split <;> simp

theorem labelParts_ne_execError {label text : String} {stdout stderr : Option String} :
    labelParts label ≠ .error (.execError text stdout stderr) := by
  intro h
  unfold labelParts at h
  split at h
  · cases h
  · cases h
  · exact labelTimestamp_ne_execError (Except.map_eq_error.mp h)
  · exact labelTimestamp_ne_execError (Except.map_eq_error.mp h)
  · cases h

/-- A label that is not one raises, but not an `ExecError`. -/
theorem parseBackupId_ne_execError {label text : String} {stdout stderr : Option String} :
    parseBackupId label ≠ .error (.execError text stdout stderr) := by
  intro h
  obtain h | ⟨⟨timestamp, type⟩, -, h⟩ := Except.bind_eq_error.mp h
  · exact labelParts_ne_execError h
  · dsimp only at h
    split at h <;> cases h

/-- A listing that raises an `ExecError` is one whose command failed; the
exception carries the output. -/
theorem listBackups_execError {info : CommandOutcome InfoDocument} {text : String}
    {stdout stderr : Option String} :
    listBackups info true true = .error (.execError text stdout stderr) ↔
      ∃ out err, info = .failed text out err ∧ stdout = some out ∧ stderr = some err := by
  cases info with
  | failed text' out err =>
      simp only [listBackups, executeCommand, bind, Except.bind, Except.error.injEq,
        PyError.execError.injEq, CommandOutcome.failed.injEq]
      grind
  | changeError text => simp [listBackups, executeCommand, jsonLoads, bind, Except.bind]
  | raised name => simp [listBackups, executeCommand, bind, Except.bind]
  | exited document err =>
      simp only [reduceCtorEq, false_and, exists_false, iff_false]
      intro h
      match document with
      | none => simp [listBackups, executeCommand, jsonLoads, bind, Except.bind] at h
      | some [] =>
          simp [listBackups, executeCommand, jsonLoads, bind, Except.bind, pure, Except.pure] at h
      | some (repositoryInfo :: rest) =>
          rw [listBackups_exited, Except.bind_eq_error] at h
          simp only [reduceCtorEq, and_false, exists_false, or_false] at h
          obtain ⟨b, -, hb⟩ := Except.exists_of_mapM_eq_error h
          simp only [backupEntry, if_true, Except.bind_eq_error, pure, Except.pure, reduceCtorEq,
            and_false, exists_false, or_false] at hb
          exact parseBackupId_ne_execError (Except.map_eq_error.mp hb)

/-! ## settings -/

/-- What `_are_backup_settings_ok` looks at: the relation with the S3
integrator and the required parameters that it lacks. -/
structure BackupSettings where
  related : Bool
  missingParameters : List String
deriving DecidableEq, Repr

/-- A list of texts as Python prints it. -/
def pyList (texts : List String) : String :=
  "[" ++ String.intercalate ", " (texts.map fun text => "'" ++ text ++ "'") ++ "]"

/-- `_are_backup_settings_ok`: the validation message of settings that are
not. -/
def BackupSettings.validationMessage (settings : BackupSettings) : Option String :=
  if !settings.related then
    some "Relation with s3-integrator charm missing, cannot create/restore backup."
  else if settings.missingParameters ≠ [] then
    some ("Missing S3 parameters: " ++ pyList settings.missingParameters)
  else none

end PostgresqlK8s.Backups
