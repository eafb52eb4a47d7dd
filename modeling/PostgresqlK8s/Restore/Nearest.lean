import PostgresqlK8s.Backups.Labels
import PostgresqlK8s.Restore.Latest
import PostgresqlK8s.Restore.TimestampExact

/-!
# Restore.Nearest

The timeline nearest to a point in time.  Backups and history files are
entries with a time and a timeline; the nearest one to a point in time is the
entry with the greatest time not after it, and the history file where a backup
has the same second.  The code merges the two listings into one dictionary and
takes the greatest pair of texts (`nearest_maximum`).
-/

namespace PostgresqlK8s.Restore

open Backups

/-! ## the nearest entry -/

/-- An entry of the repository. -/
structure DatedEntry where
  time : DateTime
  value : StanzaTimeline
deriving DecidableEq, Repr

/-- The value is that of the entry with the greatest admitted time, of the
last one if several have it.  There is none if no entry is admitted. -/
def IsNearest (admitted : DateTime → Prop) (entries : List DatedEntry) :
    Option StanzaTimeline → Prop
  | none => ∀ e ∈ entries, ¬admitted e.time
  | some value => ∃ front e rest, entries = front ++ e :: rest ∧ e.value = value ∧
      admitted e.time ∧
      (∀ e' ∈ front, admitted e'.time → e'.time.toSeconds ≤ e.time.toSeconds) ∧
      ∀ e' ∈ rest, admitted e'.time → e'.time.toSeconds < e.time.toSeconds

/-- `_get_nearest_timeline`, with the two listings that it makes. -/
def getNearestTimeline (info : CommandOutcome InfoDocument)
    (repoLs : CommandOutcome TimelineDocument) (timestamp : String) :
    Except PyError (Option StanzaTimeline) := do
  let backups ← listBackups info false true
  let timelines ← listTimelines repoLs
  nearestTimeline backups timelines timestamp

/-- The stanzas and the history files of a repository, dated by the system
clock. -/
structure DatedRepository where
  stanzas : List LabelledStanza
  infoStderr : String
  files : List TimelineFile
  repoLsStderr : String
  files_printable : ∀ f ∈ files, f.time.Printable

namespace DatedRepository

variable (r : DatedRepository)

/-- The successful backups. -/
def backups : List DatedEntry :=
  ((listedStanza r.stanzas).shown false).map fun b =>
    ⟨b.label.own, ((listedStanza r.stanzas).name, b.info.timeline)⟩

/-- The archived timelines. -/
def archived : List DatedEntry :=
  (r.files.filter fun f => !"backup.history".toList.isSuffixOf f.path.toList).map fun f =>
    ⟨f.time, f.entry.2⟩

def entries : List DatedEntry := r.backups ++ r.archived

/-- The answer of the code. -/
def nearest (timestamp : String) : Except PyError (Option StanzaTimeline) :=
  getNearestTimeline (answer r.stanzas r.infoStderr) (.exited (some r.files) r.repoLsStderr)
    timestamp

theorem printable {e : DatedEntry} (h : e ∈ r.entries) : e.time.Printable := by
  rw [entries, List.mem_append, backups, archived, List.mem_map, List.mem_map] at h
  rcases h with ⟨b, -, rfl⟩ | ⟨f, hf, rfl⟩
  · exact b.label.own.2
  · exact r.files_printable f (List.mem_filter.1 hf).1

end DatedRepository

/-! ## ids in the order of time -/

/-- The id of an entry and what it stands for. -/
def DatedEntry.listed (e : DatedEntry) : String × StanzaTimeline :=
  (DateTime.strftime backupIdFormat e.time, e.value)

section Order

variable {t t' : DateTime}

/-- Ids are ordered as the points in time that they are written from. -/
theorem strftime_backupId_lt_iff (h : t.Printable) (h' : t'.Printable) :
    DateTime.strftime backupIdFormat t < DateTime.strftime backupIdFormat t' ↔
      t.toSeconds < t'.toSeconds := by
  rw [h.strftime_lt_iff h', h.valid.toSeconds_lt_iff h'.valid]
  rfl

theorem strftime_backupId_le_iff (h : t.Printable) (h' : t'.Printable) :
    DateTime.strftime backupIdFormat t ≤ DateTime.strftime backupIdFormat t' ↔
      t.toSeconds ≤ t'.toSeconds := by
  rw [← not_lt, strftime_backupId_lt_iff h' h, not_lt]

theorem strftime_backupId_inj (h : t.Printable) (h' : t'.Printable) :
    DateTime.strftime backupIdFormat t = DateTime.strftime backupIdFormat t' ↔ t = t' := by
  constructor
  · exact h.strftime_injective h' fill_backupIdFormat
  · exact congrArg _

end Order

/-- An entry as an element of the order of tuples. -/
def entryKey (e : String × StanzaTimeline) : Lex (String × Lex (String × String)) :=
  toLex (e.1, stanzaTimelineKey e.2)

theorem entryLt_iff (a b : String × StanzaTimeline) :
    entryLt a b = true ↔ entryKey a < entryKey b := by
  rw [entryKey, entryKey, Prod.Lex.toLex_lt_toLex, entryLt, Bool.or_eq_true, Bool.and_eq_true,
    stanzaTimelineLt_iff]
  simp

theorem entryKey_le {a b : String × StanzaTimeline} (h : entryKey a ≤ entryKey b) :
    a.1 ≤ b.1 := by
  rw [entryKey, entryKey, Prod.Lex.toLex_le_toLex] at h
  rcases h with h | h
  · exact le_of_lt h
  · exact le_of_eq h.1

/-! ## the greatest of the merged entries -/

section Merged

variable {entries : List DatedEntry} (hprintable : ∀ e ∈ entries, e.time.Printable)
  {merged : List (String × StanzaTimeline)}
  (hmerged : ∀ k v, (k, v) ∈ merged ↔ Dict.IsLast k v (entries.map (·.listed)))
  {admitted : DateTime → Prop} {p : String × StanzaTimeline → Bool}
  (hp : ∀ e ∈ entries, p e.listed = true ↔ admitted e.time)
include hprintable hmerged hp

/-- An admitted entry, or a later one with its id, is kept. -/
theorem exists_mem_filter_merged {e : DatedEntry} (he : e ∈ entries) (hadmitted : admitted e.time) :
    ∃ v, (DateTime.strftime backupIdFormat e.time, v) ∈ merged.filter p := by
  have hkey : DateTime.strftime backupIdFormat e.time ∈
      (entries.map (·.listed)).map Prod.fst := by
    rw [List.map_map]
    exact List.mem_map.2 ⟨e, he, rfl⟩
  obtain ⟨v, hv⟩ := Dict.exists_isLast hkey
  obtain ⟨e', he', heq⟩ := List.mem_map.1 hv.mem
  have htime : e'.time = e.time :=
    (strftime_backupId_inj (hprintable e' he') (hprintable e he)).1 (congrArg Prod.fst heq)
  refine ⟨v, List.mem_filter.2 ⟨(hmerged _ _).2 hv, ?_⟩⟩
  rw [← heq, hp e' he', htime]
  exact hadmitted

/-- No admitted entry is later than the greatest one that is kept. -/
theorem toSeconds_le_of_maximum {m : String × StanzaTimeline}
    (hgreatest : ∀ x ∈ merged.filter p, entryKey x ≤ entryKey m) {e e' : DatedEntry}
    (he : e ∈ entries) (hid : DateTime.strftime backupIdFormat e.time = m.1) (he' : e' ∈ entries)
    (hadmitted : admitted e'.time) : e'.time.toSeconds ≤ e.time.toSeconds := by
  obtain ⟨v, hv⟩ := exists_mem_filter_merged hprintable hmerged hp he' hadmitted
  have hkey := entryKey_le (hgreatest _ hv)
  rw [← hid] at hkey
  exact (strftime_backupId_le_iff (hprintable e' he') (hprintable e he)).1 hkey

/-- The greatest of the entries that a filter keeps is the nearest one. -/
theorem nearest_maximum :
    IsNearest admitted entries ((maximum entryLt (merged.filter p)).map Prod.snd) := by
  cases hmax : maximum entryLt (merged.filter p) with
  | none =>
    intro e he hadmitted
    obtain ⟨v, hv⟩ := exists_mem_filter_merged hprintable hmerged hp he hadmitted
    obtain ⟨m, hm⟩ := maximum_isSome entryLt (List.ne_nil_of_mem hv)
    rw [hm] at hmax
    cases hmax
  | some m =>
    obtain ⟨hmem, hgreatest⟩ := maximum_spec entryLt_iff hmax
    obtain ⟨hmem, hpm⟩ := List.mem_filter.1 hmem
    obtain ⟨front, rest, heq, hrest⟩ := (hmerged m.1 m.2).1 hmem
    obtain ⟨front, tail, rfl, rfl, htail⟩ := List.map_eq_append_iff.1 heq
    obtain ⟨e, rest, rfl, he, rfl⟩ := List.map_eq_cons_iff.1 htail
    have hid : DateTime.strftime backupIdFormat e.time = m.1 := congrArg Prod.fst he
    have hlisted : e ∈ front ++ e :: rest := by simp
    refine ⟨front, e, rest, rfl, congrArg Prod.snd he, ?_, ?_, ?_⟩
    · rw [← hp e hlisted, he]
      exact hpm
    · intro e' he' hadmitted
      exact toSeconds_le_of_maximum hprintable hmerged hp hgreatest hlisted hid
        (List.mem_append_left _ he') hadmitted
    · intro e' he' hadmitted
      have hmem' : e' ∈ front ++ e :: rest := by simp [he']
      refine lt_of_le_of_ne (toSeconds_le_of_maximum hprintable hmerged hp hgreatest hlisted hid
        hmem' hadmitted) ?_
      -- an entry of the same second would have been the last with its id
      intro hseconds
      have htime := (hprintable e' hmem').valid.toSeconds_inj (hprintable e hlisted).valid hseconds
      apply hrest
      rw [List.map_map, ← hid, ← htime]
      exact List.mem_map.2 ⟨e', he', rfl⟩

end Merged

/-- The target of a restore to a point in time is the nearest timeline. -/
theorem getNearestTimeline_of_nearestTarget {a : RepositoryAnswers}
    {backups timelines : Dict String StanzaTimeline} {restoreToTime : String}
    {target : RestoreTarget}
    (h : nearestTarget a backups timelines restoreToTime = .ok (.inr target)) :
    getNearestTimeline a.infoForNearest a.repoLsForNearest restoreToTime =
      .ok (some target.stanzaTimeline) := by
  obtain ⟨backups', timelines', hbackups, htimelines, h⟩ : ∃ backups' timelines',
      listBackups a.infoForNearest false true = .ok backups' ∧
      listTimelines a.repoLsForNearest = .ok timelines' ∧
      nearestTimeline backups' timelines' restoreToTime = .ok (some target.stanzaTimeline) := by
    rw [nearestTarget] at h
    split at h
    all_goals
      obtain ⟨based, -, h⟩ := Except.bind_eq_ok.mp h
      cases based with
      | false => cases h
      | true =>
        obtain ⟨backups', hbackups, h⟩ := Except.bind_eq_ok.mp h
        obtain ⟨timelines', htimelines, h⟩ := Except.bind_eq_ok.mp h
        refine ⟨backups', timelines', hbackups, htimelines, ?_⟩
        split at h
        · cases h
        · cases h
        · next heq =>
          cases h
          exact heq
  rw [getNearestTimeline, hbackups, htimelines]
  exact h

/-! ## the entries that are not after a point in time -/

/-- The loop over the entries, where every entry can be compared. -/
theorem filter_zip_map {α : Type} (p : α → Bool) (l : List α) :
    ((l.zip (l.map p)).filter Prod.snd).map Prod.fst = l.filter p := by
  induction l with
  | nil => rfl
  | cons a l ih =>
    rw [List.map_cons, List.zip_cons_cons]
    by_cases ha : p a = true
    · rw [List.filter_cons_of_pos (by simpa using ha), List.filter_cons_of_pos ha, List.map_cons,
        ih]
    · rw [List.filter_cons_of_neg (by simpa using ha), List.filter_cons_of_neg ha, ih]

/-- What the comparison of an id comes to. -/
def idNotAfter (instant : Int) (entry : String × StanzaTimeline) : Bool :=
  match DateTime.strptime backupIdFormat entry.1 with
  | none => false
  | some t => decide (t.toSeconds * 1000000 ≤ instant)

section Comparison

variable {e : DatedEntry} (h : e.time.Printable)
include h

theorem strptime_listed : DateTime.strptime backupIdFormat e.listed.1 = some e.time :=
  strptime_backupId ⟨e.time, h⟩

/-- An id is compared by the time that it was written from. -/
theorem idNotAfter_listed (instant : Int) :
    idNotAfter instant e.listed = true ↔ e.time.toSeconds * 1000000 ≤ instant := by
  rw [idNotAfter, strptime_listed h]
  exact decide_eq_true_iff

theorem notAfter_listed {timestamp : String} {instant : Int}
    (hparse : parsePsqlTimestamp timestamp = .ok instant) :
    notAfter timestamp e.listed = .ok (idNotAfter instant e.listed) := by
  rw [notAfter, idNotAfter, strptime_listed h, hparse]
  rfl

end Comparison

namespace DatedRepository

variable (r : DatedRepository)

/-- The listings that the code merges. -/
def merged : List (String × StanzaTimeline) :=
  (((∅ : Dict String StanzaTimeline).update (r.backups.map (·.listed))).update
    ((∅ : Dict String StanzaTimeline).update (r.archived.map (·.listed))).entries).entries

theorem mem_merged (k : String) (v : StanzaTimeline) :
    (k, v) ∈ r.merged ↔ Dict.IsLast k v (r.entries.map (·.listed)) := by
  rw [merged, Dict.mem_entries_update_update, entries, List.map_append]

theorem nearest_eq (timestamp : String) :
    r.nearest timestamp =
      nearestTimeline ((∅ : Dict String StanzaTimeline).update (r.backups.map (·.listed)))
        ((∅ : Dict String StanzaTimeline).update (r.archived.map (·.listed))) timestamp := by
  have hbackups : listBackups (answer r.stanzas r.infoStderr) false true =
      .ok ((∅ : Dict String StanzaTimeline).update (r.backups.map (·.listed))) := by
    rw [listBackups_answer, backups, List.map_map]
    rfl
  have harchived : listTimelines (.exited (some r.files) r.repoLsStderr) =
      .ok ((∅ : Dict String StanzaTimeline).update (r.archived.map (·.listed))) := by
    rw [archived, List.map_map]
    rfl
  rw [nearest, getNearestTimeline, hbackups, harchived]
  rfl

/-- Without a point in time all entries are admitted. -/
theorem nearest_latest :
    ∃ nearest, r.nearest "latest" = .ok nearest ∧ IsNearest (fun _ => True) r.entries nearest := by
  have hnearest : IsNearest (fun _ => True) r.entries
      ((maximum entryLt (r.merged.filter fun _ => true)).map Prod.snd) :=
    nearest_maximum (fun _ => r.printable) r.mem_merged (by simp)
  rw [List.filter_eq_self.2 (fun _ _ => rfl)] at hnearest
  refine ⟨_, ?_, hnearest⟩
  rw [nearest_eq, nearestTimeline, if_pos rfl]
  rfl

/-- With one, those that are not after it. -/
theorem nearest_of_parse {timestamp : String} {instant : Int} (hne : timestamp ≠ "latest")
    (hparse : parsePsqlTimestamp timestamp = .ok instant) :
    ∃ nearest, r.nearest timestamp = .ok nearest ∧
      IsNearest (fun t => t.toSeconds * 1000000 ≤ instant) r.entries nearest := by
  have hnearest : IsNearest (fun t => t.toSeconds * 1000000 ≤ instant) r.entries
      ((maximum entryLt (r.merged.filter (idNotAfter instant))).map Prod.snd) :=
    nearest_maximum (fun _ => r.printable) r.mem_merged
      (fun _ he => idNotAfter_listed (r.printable he) instant)
  refine ⟨_, ?_, hnearest⟩
  have hflag : ∀ entry ∈ r.merged, notAfter timestamp entry = .ok (idNotAfter instant entry) := by
    intro entry hentry
    obtain ⟨e, he, heq⟩ := List.mem_map.1 ((r.mem_merged entry.1 entry.2).1 hentry).mem
    have hlisted : e.listed = entry := heq
    rw [← hlisted]
    exact notAfter_listed (r.printable he) hparse
  rw [nearest_eq, nearestTimeline, if_neg hne]
  change (do
    let flags ← r.merged.mapM (notAfter timestamp)
    return (maximum entryLt (((r.merged.zip flags).filter Prod.snd).map Prod.fst)).map Prod.snd :
      Except PyError (Option StanzaTimeline)) = _
  rw [Except.mapM_eq_ok_map hflag]
  change Except.ok ((maximum entryLt (((r.merged.zip (r.merged.map (idNotAfter instant))).filter
    Prod.snd).map Prod.fst)).map Prod.snd) = _
  rw [filter_zip_map]

/-- The selection is chronological: of all entries for `latest`, and of those
not after it for a point in time that the check of the parameter accepts. -/
structure SelectsNearest (r : DatedRepository) : Prop where
  latest : ∃ nearest, r.nearest "latest" = .ok nearest ∧
    IsNearest (fun _ => True) r.entries nearest
  before : ∀ timestamp, isPsqlTimestamp timestamp = .ok true →
    ∃ s nearest, HasForm timestamp s ∧ r.nearest timestamp = .ok nearest ∧
      IsNearest (fun t => t.toSeconds * 1000000 ≤ s.instant) r.entries nearest

end DatedRepository

/-- A point in time that the check accepts is read as what it denotes. -/
theorem parsePsqlTimestamp_of_isPsqlTimestamp {timestamp : String}
    (h : isPsqlTimestamp timestamp = .ok true) :
    ∃ s, HasForm timestamp s ∧ parsePsqlTimestamp timestamp = .ok s.instant := by
  by_cases hform : ∃ s, HasForm timestamp s
  · obtain ⟨s, hs⟩ := hform
    refine ⟨s, hs, ?_⟩
    by_cases hread : s.Readable
    · by_cases hrange : s.InRange
      · exact (TimestampText.outcome_of_inRange hs hread hrange).1
      · rw [(TimestampText.outcome_of_not_inRange hs hread hrange).2] at h
        cases h
    · rw [(TimestampText.outcome_of_not_readable hs hread).2] at h
      cases h
  · push Not at hform
    rw [isPsqlTimestamp_of_not_hasForm hform] at h
    cases h

namespace DatedRepository

/-- For every repository and every accepted point in time the nearest timeline
is that of the entry with the greatest time not after it. -/
theorem selectsNearest (r : DatedRepository) : r.SelectsNearest := by
  refine ⟨r.nearest_latest, fun timestamp haccepted => ?_⟩
  obtain ⟨s, hs, hparse⟩ := parsePsqlTimestamp_of_isPsqlTimestamp haccepted
  have hne : timestamp ≠ "latest" := by
    rintro rfl
    have hrejected : isPsqlTimestamp "latest" = .ok false := by decide
    rw [hrejected] at haccepted
    cases haccepted
  obtain ⟨nearest, hnearest, hchronological⟩ := r.nearest_of_parse hne hparse
  exact ⟨s, nearest, hs, hnearest, hchronological⟩

end DatedRepository

/-- An archived timeline wins over a backup of the same second, and an offset
is taken into account. -/
example :
    let r : DatedRepository :=
      ⟨[⟨"s", [⟨.full ⟨⟨2024, 1, 1, 0, 0, 0⟩, by decide⟩, some "000000010000000000000002",
        false⟩]⟩], "", [⟨"s/00000002.history", ⟨2024, 1, 1, 0, 0, 0⟩⟩], "", by decide⟩
    r.nearest "2024-01-01 02:00:00+02" = .ok (some ("s", "2")) := by
  decide

end PostgresqlK8s.Restore
