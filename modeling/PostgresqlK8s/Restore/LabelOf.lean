import PostgresqlK8s.Backups.Labels
import PostgresqlK8s.Restore.Target

/-!
# Restore.LabelOf

From a backup id back to the label of the backup.  The code takes the first
label that contains the time of the id.  The time of a full backup is part of
every label that depends on it, but in label order the full backup comes first
(`full_lt_dependent`).
-/

namespace PostgresqlK8s.Restore

open Backups Numerals

/-! ## listings in label order -/

/-- The backups of a repository, in the order of their labels and taken at
different times.  A backup depends on a full backup of the listing, or it was
at least taken after the one that it names. -/
structure LabelListing where
  stanzas : List LabelledStanza
  stderr : String
  sorted : (listedStanza stanzas).backups.Pairwise fun a b => a.label.text ≤ b.label.text
  distinct : ((listedStanza stanzas).backups.map fun b => b.label.own).Nodup
  dependents :
    (∀ b ∈ (listedStanza stanzas).backups, ∀ base own type, b.label = .dependent base own type →
      ∃ full ∈ (listedStanza stanzas).backups, full.label = .full base) ∨
    ∀ b ∈ (listedStanza stanzas).backups, ∀ base own type, b.label = .dependent base own type →
      base.1.toSeconds < own.1.toSeconds

namespace LabelListing

variable (l : LabelListing)

def backups : List LabelledBackup := (listedStanza l.stanzas).backups

def successful : List LabelledBackup := (listedStanza l.stanzas).shown false

/-- Ids of successful backups lead back to their labels, and different labels
have different ids. -/
structure RoundTrips : Prop where
  decodes : ∀ b ∈ l.successful, ∃ id backupType, parseBackupId b.label.text = .ok (id, backupType) ∧
    fetchBackupFromId (answer l.stanzas l.stderr) id = .ok (some b.label.text)
  injective : ∀ b ∈ l.successful, ∀ b' ∈ l.successful, ∀ id backupType backupType',
    parseBackupId b.label.text = .ok (id, backupType) →
      parseBackupId b'.label.text = .ok (id, backupType') → b.label.text = b'.label.text

end LabelListing

/-! ## label order -/

theorem isPartOf_iff {part text : String} :
    isPartOf part text = true ↔ part.toList <:+: text.toList := by
  rw [isPartOf, List.any_eq_true]
  constructor
  · rintro ⟨suffix, hsuffix, hpart⟩
    rw [List.isPrefixOf_iff_prefix] at hpart
    exact hpart.isInfix.trans ((List.mem_tails _ _).1 hsuffix).isInfix
  · rintro ⟨front, rest, heq⟩
    refine ⟨part.toList ++ rest, (List.mem_tails _ _).2 ⟨front, ?_⟩, ?_⟩
    · rw [← List.append_assoc]
      exact heq
    · rw [List.isPrefixOf_iff_prefix]
      exact List.prefix_append _ _

theorem stamp_lt_iff (t t' : ClockTime) :
    stamp t < stamp t' ↔ t.1.toSeconds < t'.1.toSeconds := by
  rw [← toList_strftime_labelFormat, ← toList_strftime_labelFormat, ← String.lt_iff_toList_lt,
    t.2.strftime_lt_iff t'.2, t.2.valid.toSeconds_lt_iff t'.2.valid]
  rfl

theorem text_lt_iff (a b : BackupLabel) : a.text < b.text ↔ a.chars < b.chars := by
  rw [String.lt_iff_toList_lt, BackupLabel.text, BackupLabel.text, String.toList_ofList,
    String.toList_ofList]

/-- A full backup comes before those that depend on it. -/
theorem full_lt_dependent (base own : ClockTime) (type : DependentType) :
    (BackupLabel.full base).text < (BackupLabel.dependent base own type).text := by
  rw [text_lt_iff]
  have hfull : (BackupLabel.full base).chars = (stamp base ++ ['F']) ++ [] := by
    rw [List.append_nil]
    rfl
  have hdependent : (BackupLabel.dependent base own type).chars =
      (stamp base ++ ['F']) ++ '_' :: (stamp own ++ [type.letter]) := by
    rw [List.append_assoc]
    rfl
  rw [hfull, hdependent, append_lt_append_iff rfl]
  exact .inr ⟨rfl, List.nil_lt_cons _ _⟩

/-- Dependent backups come in the order of the full backups that they name. -/
theorem base_le_of_text_le {base own base' own' : ClockTime} {type type' : DependentType}
    (h : (BackupLabel.dependent base own type).text ≤ (BackupLabel.dependent base' own' type').text) :
    base.1.toSeconds ≤ base'.1.toSeconds := by
  by_contra hlt
  rw [not_le, ← stamp_lt_iff] at hlt
  rw [← not_lt, text_lt_iff] at h
  apply h
  have hlength : (stamp base').length = (stamp base).length := by simp
  rw [BackupLabel.chars, BackupLabel.chars, append_lt_append_iff hlength]
  exact .inl hlt

/-! ## the first label that contains a time -/

namespace LabelListing

variable {l : LabelListing}

theorem mem_backups {b : LabelledBackup} (h : b ∈ l.successful) : b ∈ l.backups :=
  (List.mem_filter.1 h).1

/-- Backups are told apart by their times. -/
theorem eq_of_own {b b' : LabelledBackup} (h : b ∈ l.backups) (h' : b' ∈ l.backups)
    (heq : b.label.own = b'.label.own) : b = b' :=
  List.inj_on_of_nodup_map l.distinct h h' heq

/-- No backup before another one has the time of that one in its label. -/
theorem own_not_mem_times {b b' : LabelledBackup} (h : b ∈ l.backups) (h' : b' ∈ l.backups)
    (hne : b ≠ b') (hle : b.label.text ≤ b'.label.text) : b'.label.own ∉ b.label.times := by
  intro hmem
  have hown : b'.label.own ≠ b.label.own := fun heq => hne (eq_of_own h h' heq.symm)
  cases hlabel : b.label with
  | full own =>
    rw [hlabel] at hmem hown
    exact hown (List.mem_singleton.1 hmem)
  | dependent base own type =>
    rw [hlabel] at hmem hown hle
    have hbase : b'.label.own = base := by
      rcases List.mem_cons.1 hmem with heq | hmem
      · exact heq
      · exact absurd (List.mem_singleton.1 hmem) hown
    cases hlabel' : b'.label with
    | full own' =>
      rw [hlabel'] at hbase hle
      obtain rfl : own' = base := hbase
      exact absurd (full_lt_dependent own' own type) (not_lt.2 hle)
    | dependent base' own' type' =>
      rw [hlabel'] at hbase hle
      obtain rfl : own' = base := hbase
      rcases l.dependents with hlisted | hlater
      · obtain ⟨full, hfull, hlabel''⟩ := hlisted b h own' own type hlabel
        have heq : full = b' := by
          refine eq_of_own hfull h' ?_
          rw [hlabel'', hlabel']
          rfl
        rw [heq, hlabel'] at hlabel''
        cases hlabel''
      · have hbefore := base_le_of_text_le hle
        have hafter := hlater b' h' base' own' type' hlabel'
        omega

/-- A label tells when its backup was taken. -/
theorem own_eq_of_parseBackupId {a b : BackupLabel} {id backupType backupType' : String}
    (ha : parseBackupId a.text = .ok (id, backupType))
    (hb : parseBackupId b.text = .ok (id, backupType')) : a.own = b.own := by
  rw [BackupLabel.parseBackupId_text, Except.ok.injEq, Prod.mk.injEq] at ha hb
  have hid := ha.1.trans hb.1.symm
  exact Subtype.ext (a.own.2.strftime_injective b.own.2 fill_backupIdFormat hid)

/-- The keys of the listing are the labels of the successful backups. -/
theorem listBackups_labels (l : LabelListing) :
    ∃ d, listBackups (answer l.stanzas l.stderr) false false = .ok d ∧
      d.keys = l.successful.map fun b => b.label.text := by
  refine ⟨_, listBackups_answer l.stanzas l.stderr false false, ?_⟩
  have htexts : (l.successful.map fun b => b.label.text).Nodup := by
    refine List.Nodup.map_on ?_ ((List.Nodup.of_map _ l.distinct).filter _)
    intro b hb b' hb' heq
    refine eq_of_own (mem_backups hb) (mem_backups hb') ?_
    have hparse := b.label.parseBackupId_text
    have hparse' := hparse
    rw [heq] at hparse'
    exact own_eq_of_parseBackupId hparse hparse'
  rw [Dict.keys, Dict.entries_update_of_nodup]
  · rw [Dict.entries_empty, List.nil_append, List.map_map]
    rfl
  · rw [List.map_map]
    exact htexts
  · simp

/-- The first label with the time of a successful backup is its own. -/
theorem fetchBackupFromId_own {b : LabelledBackup} (h : b ∈ l.successful) :
    fetchBackupFromId (answer l.stanzas l.stderr) b.id = .ok (some b.label.text) := by
  obtain ⟨d, hlisted, hkeys⟩ := l.listBackups_labels
  have hread : DateTime.strptime backupIdFormat b.id = some b.label.own.1 :=
    strptime_backupId b.label.own
  have hpart (label : BackupLabel) :
      isPartOf (DateTime.strftime labelFormat b.label.own) label.text = true ↔
        stamp b.label.own <:+: label.chars := by
    rw [isPartOf_iff, toList_strftime_labelFormat, BackupLabel.text, String.toList_ofList]
  have hfind : d.keys.find? (fun label =>
      isPartOf (DateTime.strftime labelFormat b.label.own) label) = some b.label.text := by
    obtain ⟨front, rest, hfront⟩ := List.append_of_mem h
    rw [hkeys, hfront, List.find?_eq_some_iff_append]
    refine ⟨(hpart b.label).2 b.label.stamp_own_infix, front.map fun b => b.label.text,
      rest.map fun b => b.label.text, by simp, ?_⟩
    intro text htext
    obtain ⟨b', hb', rfl⟩ := List.mem_map.1 htext
    have hsublist : (front ++ b :: rest).Sublist l.backups := by
      rw [← hfront]
      exact List.filter_sublist
    have hpairs := (List.pairwise_append.1 (l.sorted.sublist hsublist)).2.2
    have hnodup := (List.nodup_append.1 ((List.Nodup.of_map _ l.distinct).sublist hsublist)).2.2
    rw [Bool.not_eq_true', ← Bool.not_eq_true, hpart]
    intro hinfix
    refine own_not_mem_times ?_ (mem_backups h) (hnodup b' hb' b List.mem_cons_self)
      (hpairs b' hb' b List.mem_cons_self) (BackupLabel.mem_times_of_infix hinfix)
    exact hsublist.subset (List.mem_append_left _ hb')
  rw [fetchBackupFromId, hread, hlisted]
  exact congrArg Except.ok hfind

/-- Ids lead back to labels. -/
theorem roundTrips (l : LabelListing) : l.RoundTrips := by
  refine ⟨fun b hb => ?_, fun b hb b' hb' id backupType backupType' hparse hparse' => ?_⟩
  · exact ⟨b.id, b.label.backupType, b.label.parseBackupId_text, fetchBackupFromId_own hb⟩
  · have hown := own_eq_of_parseBackupId hparse hparse'
    rw [eq_of_own (mem_backups hb) (mem_backups hb') hown]

end LabelListing

/-- The listing of a full backup that failed and of one that depends on it. -/
def twoBackups : LabelListing where
  stanzas := [⟨"s", [⟨.full ⟨⟨2024, 2, 1, 0, 0, 0⟩, by decide⟩, none, true⟩,
    ⟨.dependent ⟨⟨2024, 2, 1, 0, 0, 0⟩, by decide⟩ ⟨⟨2024, 2, 2, 0, 0, 0⟩, by decide⟩ .incremental,
      none, false⟩]⟩]
  stderr := ""
  sorted := by decide
  distinct := by decide
  dependents := by
    refine .inr fun b hb base own type hlabel => ?_
    simp [listedStanza] at hb
    rcases hb with rfl | rfl
    · cases hlabel
    · cases hlabel
      decide

/-- The dependent backup of `twoBackups` is listed, and its id leads back to it. -/
theorem roundTrips_twoBackups :
    ∃ b ∈ twoBackups.successful, b.label.text = "20240201-000000F_20240202-000000I" ∧
      ∃ id backupType, parseBackupId b.label.text = .ok (id, backupType) ∧
        fetchBackupFromId (answer twoBackups.stanzas twoBackups.stderr) id =
          .ok (some b.label.text) := by
  have hlisted : ⟨.dependent ⟨⟨2024, 2, 1, 0, 0, 0⟩, by decide⟩
      ⟨⟨2024, 2, 2, 0, 0, 0⟩, by decide⟩ .incremental, none, false⟩ ∈ twoBackups.successful := by
    decide
  exact ⟨_, hlisted, by decide, twoBackups.roundTrips.decodes _ hlisted⟩

end PostgresqlK8s.Restore
