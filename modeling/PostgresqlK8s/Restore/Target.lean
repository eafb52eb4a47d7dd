import PostgresqlK8s.Restore.Timestamp

/-!
# Restore.Target

What a restore action is asked to restore: a backup, or the state at a point
in time on some timeline.  A target is validated against the backups and the
timelines of the repository before anything is touched.
-/

namespace PostgresqlK8s.Restore

open Backups

/-! ## timelines -/

/-- A history file as `pgbackrest repo-ls` describes it: its path and the
time of its last change. -/
structure TimelineFile where
  path : String
  time : DateTime
deriving DecidableEq, Repr

abbrev TimelineDocument := Option (List TimelineFile)

/-- The stanza and the timeline that a backup or a history file belongs to. -/
abbrev StanzaTimeline := String × String

/-- The entry of a history file in the listing. -/
def TimelineFile.entry (f : TimelineFile) : String × StanzaTimeline :=
  let path := f.path.toList.splitOn '/'
  let timeline := ((path.getLastD []).splitOn '.').headD []
  (DateTime.strftime backupIdFormat f.time,
    (String.ofList (path.headD []), String.ofList (timeline.dropWhile (· == '0'))))

/-- `_list_timelines`, over what `pgbackrest repo-ls` came to. -/
def listTimelines (repoLs : CommandOutcome TimelineDocument) :
    Except PyError (Dict String StanzaTimeline) := do
  let (output, _) ← executeCommand repoLs
  let files ← jsonLoads output
  let histories := files.filter fun f => !"backup.history".toList.isSuffixOf f.path.toList
  return (∅ : Dict String StanzaTimeline).update (histories.map TimelineFile.entry)

/-- The order of tuples. -/
def stanzaTimelineLt (a b : StanzaTimeline) : Bool :=
  a.1 < b.1 || a.1 == b.1 && a.2 < b.2

def entryLt (a b : String × StanzaTimeline) : Bool :=
  a.1 < b.1 || a.1 == b.1 && stanzaTimelineLt a.2 b.2

/-- `max` of a list that is not empty. -/
def maximum {α : Type} (lt : α → α → Bool) : List α → Option α
  | [] => none
  | a :: as => some (as.foldl (fun best b => if lt best b then b else best) a)

/-- Whether the entry of a listing is not after a point in time. -/
def notAfter (timestamp : String) (entry : String × StanzaTimeline) : Except PyError Bool :=
  match DateTime.strptime backupIdFormat entry.1 with
  | none => .error (.valueError "time data does not match format")
  | some t => do
      let instant ← parsePsqlTimestamp timestamp
      return t.toSeconds * 1000000 ≤ instant

/-- `_get_nearest_timeline`. -/
def nearestTimeline (backups timelines : Dict String StanzaTimeline) (timestamp : String) :
    Except PyError (Option StanzaTimeline) := do
  let entries := (backups.update timelines.entries).entries
  if timestamp = "latest" then return (maximum entryLt entries).map Prod.snd
  else do
    let flags ← entries.mapM (notAfter timestamp)
    let filtered := ((entries.zip flags).filter Prod.snd).map Prod.fst
    return (maximum entryLt filtered).map Prod.snd

/-! ## targets -/

/-- What the action reads of the repository: the two listings that validate
its parameters, the same two again for the nearest timeline, and the labels. -/
structure RepositoryAnswers where
  info : CommandOutcome InfoDocument
  repoLs : CommandOutcome TimelineDocument
  infoForNearest : CommandOutcome InfoDocument
  repoLsForNearest : CommandOutcome TimelineDocument
  infoForLabel : CommandOutcome InfoDocument

/-- A validated target: an existing backup, or a point in time. -/
structure RestoreTarget where
  /-- The id of a backup that the repository has. -/
  backupId : Option String
  stanzaTimeline : StanzaTimeline
  restoreToTime : String
  named : backupId ≠ none ∨ restoreToTime ≠ ""
deriving DecidableEq

/-- Whether a backup was made on the latest timeline. -/
def hasBaseBackup (backups timelines : Dict String StanzaTimeline) : Except PyError Bool :=
  let backupsList := backups.entries.map Prod.snd
  let candidates := if timelines.entries.isEmpty then backupsList.take 1
    else timelines.entries.map Prod.snd
  match maximum stanzaTimelineLt candidates with
  | none => .error .indexError
  | some latest => .ok (decide (latest ∈ backupsList))

/-- No timeline is before a point in time that is empty. -/
theorem nearestTimeline_ne_empty {backups timelines : Dict String StanzaTimeline}
    {timestamp : String} {stanzaTimeline : StanzaTimeline}
    (h : nearestTimeline backups timelines timestamp = .ok (some stanzaTimeline)) :
    timestamp ≠ "" := by
  rintro rfl
  have hparse : parsePsqlTimestamp "" = .error (.valueError "Invalid isoformat string") := rfl
  unfold nearestTimeline at h
  rw [if_neg (by decide)] at h
  obtain ⟨flags, hflags, h⟩ := Except.bind_eq_ok.mp h
  cases hentries : (backups.update timelines.entries).entries with
  | nil =>
      rw [hentries] at h
      cases h
  | cons entry entries =>
      obtain ⟨flag, hflag⟩ := Except.mapM_eq_ok.mp ⟨flags, hflags⟩ entry (by simp [hentries])
      rw [notAfter, hparse] at hflag
      split at hflag
      · cases hflag
      · cases hflag

/-- The target behind a point in time, or the message of a parameter that has
none. -/
def nearestTarget (a : RepositoryAnswers) (backups timelines : Dict String StanzaTimeline)
    (restoreToTime : String) : Except PyError (String ⊕ RestoreTarget) := do
  let based ← if restoreToTime = "latest" then hasBaseBackup backups timelines else .ok true
  if !based then return .inl "There is no base backup created from the latest timeline"
  else do
    let backups ← listBackups a.infoForNearest false true
    let timelines ← listTimelines a.repoLsForNearest
    match h : nearestTimeline backups timelines restoreToTime with
    | .error e => throw e
    | .ok none =>
        return .inl ("Can't find the nearest timeline before timestamp " ++ restoreToTime ++
          " to restore")
    | .ok (some stanzaTimeline) =>
        return .inr ⟨none, stanzaTimeline, restoreToTime, .inr (nearestTimeline_ne_empty h)⟩

/-- The validation of the parameters of the action: a target, or the message
of the parameters that name none.  A parameter that was not given is empty. -/
def restoreTarget (a : RepositoryAnswers) (backupId restoreToTime : String) :
    Except PyError (String ⊕ RestoreTarget) := do
  let backups ← listBackups a.info false true
  let timelines ← listTimelines a.repoLs
  if backupId = "" then nearestTarget a backups timelines restoreToTime
  else match backups.get? backupId, timelines.get? backupId with
    | some stanzaTimeline, _ =>
        return .inr ⟨some backupId, stanzaTimeline, restoreToTime, .inl nofun⟩
    | none, none => return .inl ("Invalid backup-id: " ++ backupId)
    | none, some stanzaTimeline =>
        if h : restoreToTime = "" then
          return .inl "Cannot restore to the timeline without restore-to-time parameter"
        else return .inr ⟨none, stanzaTimeline, restoreToTime, .inr h⟩

/-! ## the label of a backup -/

/-- `part in text`. -/
def isPartOf (part text : String) : Bool :=
  text.toList.tails.any fun suffix => part.toList.isPrefixOf suffix

/-- `_fetch_backup_from_id`: the first label that contains the time of the id. -/
def fetchBackupFromId (info : CommandOutcome InfoDocument) (backupId : String) :
    Except PyError (Option String) :=
  match DateTime.strptime backupIdFormat backupId with
  | none => .error (.valueError "time data does not match format")
  | some t => do
      let backups ← listBackups info false false
      let timestamp := DateTime.strftime labelFormat t
      return backups.keys.find? fun label => isPartOf timestamp label

/-- What `restoring-backup` is set to.  A databag does not take `None`. -/
def restoringBackup (a : RepositoryAnswers) (target : RestoreTarget) : Except PyError String :=
  match target.backupId with
  | none => .ok ""
  | some backupId => do
      match ← fetchBackupFromId a.infoForLabel backupId with
      | some label => return label
      | none => throw (.other "RelationDataTypeError")

theorem strftime_labelFormat_ne_empty (t : DateTime) : DateTime.strftime labelFormat t ≠ "" := by
  intro h
  have hmem : '-' ∈ (DateTime.strftime labelFormat t).toList := by
    simp [DateTime.strftime, labelFormat]
  rw [h] at hmem
  cases hmem

/-- Only the empty text is part of the empty text. -/
theorem eq_empty_of_isPartOf {part : String} (h : isPartOf part "" = true) : part = "" := by
  simpa [isPartOf] using h

/-- A backup that was found has a label. -/
theorem restoringBackup_ne_empty {a : RepositoryAnswers} {target : RestoreTarget} {label : String}
    (h : restoringBackup a target = .ok label) (hid : target.backupId ≠ none) : label ≠ "" := by
  rintro rfl
  unfold restoringBackup at h
  obtain ⟨backupId, hbackup⟩ := Option.ne_none_iff_exists'.mp hid
  rw [hbackup] at h
  obtain ⟨found, hfound, h⟩ := Except.bind_eq_ok.mp h
  cases found with
  | none => cases h
  | some label =>
      cases h
      unfold fetchBackupFromId at hfound
      split at hfound
      · cases hfound
      · next t _ =>
          obtain ⟨backups, -, hfound⟩ := Except.bind_eq_ok.mp hfound
          have hpart := List.find?_some (Except.ok.inj hfound)
          exact strftime_labelFormat_ne_empty t (eq_empty_of_isPartOf hpart)

end PostgresqlK8s.Restore
