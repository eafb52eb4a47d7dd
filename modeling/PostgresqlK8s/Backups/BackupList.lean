import PostgresqlK8s.Backups.Labels
import PostgresqlK8s.Hba.Rules
import PostgresqlK8s.Lib.Text
import PostgresqlK8s.Restore.Target
import Mathlib.Data.List.Sort
import Mathlib.Data.String.Basic

/-!
# Backups.BackupList

The table of the backups and the archived timelines.  Its rows come from the
list of backups that pgBackRest describes, and from the dictionary of the
history files by their times.
-/

namespace PostgresqlK8s.Backups

open Restore

/-! ## the S3 parameters -/

def requiredParameters : List String := ["bucket", "access-key", "secret-key"]

/-- `dict.setdefault`. -/
def setDefault (k v : String) (d : Dict String String) : Dict String String :=
  if k ∈ d.keys then d else d.set k v

/-- A parameter, changed in place. -/
def modifyParameter (k : String) (f : String → String) (d : Dict String String) :
    Dict String String :=
  match d.get? k with
  | some v => d.set k (f v)
  | none => d

/-- `_retrieve_s3_parameters`: the parameters, and those that are missing. -/
def retrieveS3Parameters (connectionInfo : Dict String String) :
    Dict String String × List String :=
  let missing := requiredParameters.filter (· ∉ connectionInfo.keys)
  if missing ≠ [] then (∅, missing)
  else
    let defaults := setDefault "delete-older-than-days" "9999999"
      (setDefault "s3-uri-style" "host"
        (setDefault "path" "" (setDefault "endpoint" "https://s3.amazonaws.com" connectionInfo)))
    let stripped := defaults.keys.foldl (fun d k => modifyParameter k (Text.strip Hba.isSpace) d)
      defaults
    let isSlash := (· == '/')
    (modifyParameter "bucket" (Text.strip isSlash)
      (modifyParameter "path" (fun path => "/" ++ Text.strip isSlash path)
        (modifyParameter "endpoint" (Text.rstrip isSlash) stripped)), [])

/-! ## the rows -/

/-- A backup with everything that the table shows of it. -/
structure BackupDescription extends BackupInfo where
  /-- `backup["error"]` as a text. -/
  errorText : String
  /-- The labels that the backup refers to; null is none. -/
  reference : List String
  lsnStart : String
  lsnStop : String
  timeStart : DateTime
  timeStop : DateTime
deriving DecidableEq, Repr

structure DescribedRepository where
  name : String
  backup : List BackupDescription
deriving DecidableEq, Repr

/-- What the listing of the backups reads of it. -/
def DescribedRepository.info (r : DescribedRepository) : RepositoryInfo :=
  ⟨r.name, r.backup.map (·.toBackupInfo)⟩

/-- A row of the table. -/
structure BackupRow where
  backupId : String
  backupAction : String
  backupStatus : String
  reference : String
  lsnStartStop : String
  start : String
  stop : String
  backupTimeline : String
  path : String
deriving DecidableEq, Repr

/-- The id of the backup that a backup refers to. -/
def referenceId (reference : List String) : Except PyError String :=
  match reference.getLast? with
  | some label => (·.1) <$> parseBackupId label
  | none => .ok "None"

/-- The row of a backup. -/
def backupRow (stanzaName : String) (b : BackupDescription) : Except PyError BackupRow := do
  let (backupId, backupType) ← parseBackupId b.label
  let reference ← referenceId b.reference
  return {
    backupId
    backupAction := backupType ++ " backup"
    backupStatus := if b.error then "failed: " ++ b.errorText else "finished"
    reference
    lsnStartStop := b.lsnStart ++ " / " ++ b.lsnStop
    start := DateTime.strftime backupIdFormat b.timeStart
    stop := DateTime.strftime backupIdFormat b.timeStop
    backupTimeline := b.timeline
    path := "/" ++ stanzaName ++ "/" ++ b.label }

/-- The row of an archived timeline. -/
def restoreRow (entry : String × StanzaTimeline) : BackupRow where
  backupId := entry.1
  backupAction := "restore"
  backupStatus := "finished"
  reference := "None"
  lsnStartStop := "n/a"
  start := entry.1
  stop := "n/a"
  backupTimeline := entry.2.2
  path := "n/a"

/-! ## the table -/

/-- `f"{text:<width}"` -/
def cell (width : Nat) (text : String) : String :=
  text ++ String.ofList (List.replicate (width - text.length) ' ')

def BackupRow.line (r : BackupRow) : String :=
  " | ".intercalate [cell 20 r.backupId, cell 19 r.backupAction, cell 8 r.backupStatus,
    cell 20 r.reference, cell 23 r.lsnStartStop, cell 20 r.start, cell 20 r.stop,
    cell 8 r.backupTimeline, r.path]

/-- The texts of the columns. -/
def BackupRow.cells (r : BackupRow) : List String :=
  [r.backupId, r.backupAction, r.backupStatus, r.reference, r.lsnStartStop, r.start, r.stop,
    r.backupTimeline, r.path]

/-- The line has the texts of the columns, with blanks after them and bars between them. -/
def BackupRow.ShownAs (r : BackupRow) (line : String) : Prop :=
  ∃ padded, List.Forall₂ (fun text cell => ∃ n, cell = text ++ String.ofList (List.replicate n ' '))
    r.cells padded ∧ line = " | ".intercalate padded

theorem BackupRow.shownAs_line (r : BackupRow) : r.ShownAs r.line := by
  have hcell (width : Nat) (text : String) :
      ∃ n, cell width text = text ++ String.ofList (List.replicate n ' ') := ⟨_, rfl⟩
  have hpath : ∃ n, r.path = r.path ++ String.ofList (List.replicate n ' ') := ⟨0, by simp⟩
  exact ⟨_, .cons (hcell ..) <| .cons (hcell ..) <| .cons (hcell ..) <| .cons (hcell ..) <|
    .cons (hcell ..) <| .cons (hcell ..) <| .cons (hcell ..) <| .cons (hcell ..) <|
    .cons hpath .nil, rfl⟩

/-- The headings of the columns. -/
def headings : BackupRow :=
  ⟨"backup-id", "action", "status", "reference-backup-id", "LSN start/stop", "start-time",
    "finish-time", "timeline", "backup-path"⟩

/-- `d[k]`. -/
def item (d : Dict String String) (k : String) : Except PyError String :=
  match d.get? k with
  | some v => .ok v
  | none => .error (.other "KeyError")

/-- `_format_backup_list`. -/
def formatBackupList (connectionInfo : Dict String String) (rows : List BackupRow) :
    Except PyError String := do
  let (s3Parameters, _) := retrieveS3Parameters connectionInfo
  let bucket ← item s3Parameters "bucket"
  let path ← item s3Parameters "path"
  return Text.join '\n' (["Storage bucket name: " ++ bucket,
    "Backups base path: " ++ path ++ "/backup/\n", headings.line,
    String.ofList (List.replicate headings.line.length '-')] ++ rows.map (·.line))

/-- What the list of backups is made of: the answer of the S3 integrator and
the outcomes of two commands. -/
structure BackupListAnswers where
  connectionInfo : Dict String String
  stanzaName : String
  info : CommandOutcome (Option (List DescribedRepository))
  repoLs : CommandOutcome TimelineDocument

/-- The rows of `_generate_backup_list_output`, in their order. -/
def backupList (a : BackupListAnswers) : Except PyError (List BackupRow) := do
  let (output, _) ← executeCommand a.info
  match ← jsonLoads output with
  | [] => throw .indexError
  | repository :: _ =>
      let backups ← repository.backup.mapM (backupRow a.stanzaName)
      let timelines ← listTimelines a.repoLs
      return (backups ++ timelines.entries.map restoreRow).insertionSort
        fun row row' => row.backupId ≤ row'.backupId

/-- `_generate_backup_list_output`. -/
def generateBackupListOutput (a : BackupListAnswers) : Except PyError String := do
  let rows ← backupList a
  formatBackupList a.connectionInfo rows

/-! ## the complete list -/

/-- A repository with a backup list: the S3 integrator gives the required
parameters, `_list_backups` accepts what pgBackRest describes, backups refer to
labels, and files are dated by the system clock. -/
structure ListedRepository where
  connectionInfo : Dict String String
  stanzaName : String
  repositories : List DescribedRepository
  infoStderr : String
  files : List TimelineFile
  repoLsStderr : String
  configured : (retrieveS3Parameters connectionInfo).2 = []
  accepted : ∃ d, listBackups (.exited (some (repositories.map (·.info))) infoStderr) true true =
    .ok d
  referenced : ∀ r ∈ repositories, ∀ b ∈ r.backup, ∀ label ∈ b.reference,
    ∃ id, parseBackupId label = .ok id
  files_printable : ∀ f ∈ files, f.time.Printable

namespace ListedRepository

variable (r : ListedRepository)

def answers : BackupListAnswers where
  connectionInfo := r.connectionInfo
  stanzaName := r.stanzaName
  info := .exited (some r.repositories) r.infoStderr
  repoLs := .exited (some r.files) r.repoLsStderr

/-- The backups of the first stanza, failed or not. -/
def backups : List BackupDescription := (r.repositories.headD ⟨"", []⟩).backup

/-- The history files of timelines. -/
def histories : List TimelineFile :=
  r.files.filter fun f => !"backup.history".toList.isSuffixOf f.path.toList

/-- One row for each backup and one for each history file, in ascending order of id. -/
structure OneRowEach (rows : List BackupRow) : Prop where
  each : ∃ backupRows, List.Forall₂ (fun b row => backupRow r.stanzaName b = .ok row)
      r.backups backupRows ∧
    rows.Perm (backupRows ++ r.histories.map fun f => restoreRow f.entry)
  ascending : rows.Pairwise fun row row' => row.backupId ≤ row'.backupId

/-- The text is the bucket, the path, the headings and a rule, and below them one line
for each of the rows. -/
def IsTable (rows : List BackupRow) (text : String) : Prop :=
  ∃ bucket path heading lines,
    (retrieveS3Parameters r.connectionInfo).1.get? "bucket" = some bucket ∧
      (retrieveS3Parameters r.connectionInfo).1.get? "path" = some path ∧
      headings.ShownAs heading ∧ List.Forall₂ BackupRow.ShownAs rows lines ∧
      text = Text.join '\n' (["Storage bucket name: " ++ bucket,
        "Backups base path: " ++ path ++ "/backup/\n", heading,
        String.ofList (List.replicate heading.length '-')] ++ lines)

/-- The list raises nothing, and is the table of one row for each backup and one for
each history file, in ascending order of id. -/
def Complete : Prop :=
  ∃ rows text, backupList r.answers = .ok rows ∧ r.OneRowEach rows ∧
    generateBackupListOutput r.answers = .ok text ∧ r.IsTable rows text

end ListedRepository

/-! ## the parameters of the table -/

theorem mem_keys_setDefault {k v k' : String} {d : Dict String String} :
    k' ∈ (setDefault k v d).keys ↔ k' = k ∨ k' ∈ d.keys := by
  rw [setDefault]
  split
  · next hk =>
    constructor
    · exact .inr
    · rintro (rfl | h)
      · exact hk
      · exact h
  · exact Dict.mem_keys_set

theorem mem_keys_modifyParameter {k k' : String} {f : String → String} {d : Dict String String} :
    k' ∈ (modifyParameter k f d).keys ↔ k' ∈ d.keys := by
  rw [modifyParameter]
  split
  · next v hv =>
    rw [Dict.mem_keys_set]
    constructor
    · rintro (rfl | h)
      · exact Dict.exists_get?_iff.1 ⟨v, hv⟩
      · exact h
    · exact .inr
  · rfl

theorem mem_keys_foldl_modifyParameter {k : String} {f : String → String} {ks : List String}
    {d : Dict String String} :
    k ∈ (ks.foldl (fun d k => modifyParameter k f d) d).keys ↔ k ∈ d.keys := by
  induction ks generalizing d with
  | nil => rfl
  | cons k' ks ih => rw [List.foldl_cons, ih, mem_keys_modifyParameter]

/-- The parameters that the table shows are there when none is missing. -/
theorem exists_bucket_path {connectionInfo : Dict String String}
    (h : (retrieveS3Parameters connectionInfo).2 = []) :
    ∃ bucket path, (retrieveS3Parameters connectionInfo).1.get? "bucket" = some bucket ∧
      (retrieveS3Parameters connectionInfo).1.get? "path" = some path := by
  have hmissing : requiredParameters.filter (· ∉ connectionInfo.keys) = [] := by
    by_contra hne
    rw [retrieveS3Parameters, if_pos hne] at h
    exact hne h
  have hbucket : "bucket" ∈ connectionInfo.keys := by
    have hmem := List.filter_eq_nil_iff.1 hmissing "bucket" (by decide)
    simpa using hmem
  have hretrieved : ∀ k, k = "bucket" ∨ k = "path" →
      k ∈ (retrieveS3Parameters connectionInfo).1.keys := by
    intro k hk
    rw [retrieveS3Parameters, if_neg (not_not.2 hmissing)]
    simp only [mem_keys_modifyParameter, mem_keys_foldl_modifyParameter, mem_keys_setDefault]
    rcases hk with rfl | rfl
    · simp [hbucket]
    · simp
  obtain ⟨bucket, hbucket⟩ := Dict.exists_get?_iff.2 (hretrieved "bucket" (.inl rfl))
  obtain ⟨path, hpath⟩ := Dict.exists_get?_iff.2 (hretrieved "path" (.inr rfl))
  exact ⟨bucket, path, hbucket, hpath⟩

/-! ## one row for each backup and each history file -/

namespace ListedRepository

variable (r : ListedRepository)

/-- The labels of the listing are labels. -/
theorem exists_id {b : BackupDescription} (hb : b ∈ r.backups) :
    ∃ id, parseBackupId b.label = .ok id := by
  rw [backups] at hb
  cases hrepositories : r.repositories with
  | nil =>
    rw [hrepositories] at hb
    cases hb
  | cons repository repositories =>
    rw [hrepositories] at hb
    obtain ⟨d, hd⟩ := r.accepted
    rw [hrepositories, List.map_cons, listBackups_exited] at hd
    obtain ⟨entries, hentries, -⟩ := Except.bind_eq_ok.mp hd
    have hmem : b.toBackupInfo ∈ repository.info.backup := List.mem_map_of_mem hb
    exact backupEntry_parse_eq_ok.mp (Except.mapM_eq_ok.mp ⟨entries, hentries⟩ _ hmem)

theorem exists_referenceId {b : BackupDescription} (hb : b ∈ r.backups) :
    ∃ id, referenceId b.reference = .ok id := by
  rw [referenceId]
  split
  · next label hlabel =>
    have hrepository : ∃ repository ∈ r.repositories, b ∈ repository.backup := by
      rw [backups] at hb
      cases hrepositories : r.repositories with
      | nil =>
        rw [hrepositories] at hb
        cases hb
      | cons repository repositories =>
        rw [hrepositories] at hb
        exact ⟨repository, List.mem_cons_self, hb⟩
    obtain ⟨repository, hmem, hb⟩ := hrepository
    obtain ⟨id, hid⟩ := r.referenced repository hmem b hb label (List.mem_of_getLast? hlabel)
    exact ⟨id.1, by rw [hid]; rfl⟩
  · exact ⟨_, rfl⟩

/-- Every backup has a row. -/
theorem exists_backupRows :
    ∃ backupRows, r.backups.mapM (backupRow r.stanzaName) = .ok backupRows := by
  rw [Except.mapM_eq_ok]
  intro b hb
  obtain ⟨id, hid⟩ := r.exists_id hb
  obtain ⟨reference, hreference⟩ := r.exists_referenceId hb
  rw [backupRow, hid, hreference]
  exact ⟨_, rfl⟩

/-- The entries of the dictionary of the history files. -/
def entries : List (String × StanzaTimeline) :=
  ((∅ : Dict String StanzaTimeline).update (r.histories.map (·.entry))).entries

/-- Without a stanza there is no list. -/
theorem backupList_of_nil (h : r.repositories = []) :
    backupList r.answers = .error .indexError := by
  rw [backupList, answers, h]
  rfl

/-- With one the rows are those of the backups and of the dictionary. -/
theorem backupList_of_ne_nil (h : r.repositories ≠ []) {backupRows : List BackupRow}
    (hrows : r.backups.mapM (backupRow r.stanzaName) = .ok backupRows) :
    backupList r.answers = .ok ((backupRows ++ r.entries.map restoreRow).insertionSort
      fun row row' => row.backupId ≤ row'.backupId) := by
  rw [backups] at hrows
  rw [backupList, answers]
  cases hrepositories : r.repositories with
  | nil => exact absurd hrepositories h
  | cons repository repositories =>
    rw [hrepositories] at hrows
    change (do
      let backups ← repository.backup.mapM (backupRow r.stanzaName)
      let timelines ← listTimelines (.exited (some r.files) r.repoLsStderr)
      return (backups ++ timelines.entries.map restoreRow).insertionSort
        fun row row' => row.backupId ≤ row'.backupId : Except PyError (List BackupRow)) = _
    change repository.backup.mapM (backupRow r.stanzaName) = _ at hrows
    rw [hrows]
    rfl

/-- The history files are all in the dictionary exactly when their times differ. -/
theorem nodup_ids_iff :
    ((r.histories.map (·.entry)).map Prod.fst).Nodup ↔ (r.histories.map (·.time)).Nodup := by
  have hprintable : ∀ f ∈ r.histories, f.time.Printable :=
    fun f hf => r.files_printable f (List.mem_filter.1 hf).1
  rw [List.map_map]
  constructor
  · intro h
    have htimes : (r.histories.map (·.time)).map (DateTime.strftime backupIdFormat) =
        r.histories.map (Prod.fst ∘ TimelineFile.entry) := List.map_map
    rw [← htimes] at h
    exact h.of_map
  · intro h
    rw [List.nodup_map_iff_inj_on h.of_map]
    intro f hf f' hf' heq
    have htime := (hprintable f hf).strftime_injective (hprintable f' hf') fill_backupIdFormat heq
    exact List.inj_on_of_nodup_map h hf hf' htime

/-- The rows are sorted. -/
theorem pairwise_sortRows (rows : List BackupRow) :
    (rows.insertionSort fun row row' => row.backupId ≤ row'.backupId).Pairwise
      fun row row' => row.backupId ≤ row'.backupId := by
  have htotal : Std.Total fun row row' : BackupRow => row.backupId ≤ row'.backupId :=
    ⟨fun row row' => le_total row.backupId row'.backupId⟩
  have htrans : IsTrans BackupRow fun row row' => row.backupId ≤ row'.backupId :=
    ⟨fun _ _ _ => le_trans⟩
  exact List.pairwise_insertionSort _ rows

/-- What is formatted is the table of the rows. -/
theorem exists_table (rows : List BackupRow) :
    ∃ text, formatBackupList r.connectionInfo rows = .ok text ∧ r.IsTable rows text := by
  obtain ⟨bucket, path, hbucket, hpath⟩ := exists_bucket_path r.configured
  refine ⟨_, ?_, bucket, path, headings.line, rows.map (·.line), hbucket, hpath,
    headings.shownAs_line, ?_, rfl⟩
  · simp only [formatBackupList, item, hbucket, hpath]
    rfl
  · rw [List.forall₂_map_right_iff, List.forall₂_same]
    exact fun row _ => row.shownAs_line

end ListedRepository

/-! ## a repository without a stanza -/

/-- pgBackRest describes no repository yet. -/
def withoutStanza : ListedRepository where
  connectionInfo := ⟨[("bucket", "b"), ("access-key", "a"), ("secret-key", "s")], by decide⟩
  stanzaName := "model.cluster"
  repositories := []
  infoStderr := ""
  files := []
  repoLsStderr := ""
  configured := by rfl
  accepted := ⟨∅, rfl⟩
  referenced := by simp
  files_printable := by simp

end PostgresqlK8s.Backups
