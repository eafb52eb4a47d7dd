import PostgresqlK8s.Backups.Repository
import PostgresqlK8s.Lib.DateTimeText

/-!
# Backups.Labels

The labels of pgBackRest.  The label of a full backup is the time at which it
was taken; the label of a differential or incremental backup starts with the
label of the full backup that it depends on and ends with its own time.
-/

namespace PostgresqlK8s.Backups

open Numerals

/-- A time of the system clock, which labels and files are dated by: the
calendar has it, and its year has four digits. -/
abbrev ClockTime := {t : DateTime // t.Printable}

inductive DependentType
  | differential
  | incremental
deriving DecidableEq, Repr

namespace DependentType

def letter : DependentType → Char
  | differential => 'D'
  | incremental => 'I'

def name : DependentType → String
  | differential => "differential"
  | incremental => "incremental"

end DependentType

/-- A label, by the times in it. -/
inductive BackupLabel
  | full (own : ClockTime)
  | dependent (base own : ClockTime) (type : DependentType)
deriving DecidableEq

/-! ## the time in a label -/

/-- The digits of the date. -/
def dateDigits (t : DateTime) : List Char :=
  decimal.write 4 t.year ++ (decimal.write 2 t.month ++ decimal.write 2 t.day)

/-- The digits of the time of day. -/
def clockDigits (t : DateTime) : List Char :=
  decimal.write 2 t.hour ++ (decimal.write 2 t.minute ++ decimal.write 2 t.second)

/-- The time of a label. -/
def stamp (t : DateTime) : List Char := dateDigits t ++ '-' :: clockDigits t

@[simp] theorem length_dateDigits (t : DateTime) : (dateDigits t).length = 8 := by
  simp [dateDigits]

@[simp] theorem length_clockDigits (t : DateTime) : (clockDigits t).length = 6 := by
  simp [clockDigits]

@[simp] theorem length_stamp (t : DateTime) : (stamp t).length = 15 := by
  simp [stamp]

theorem isDigit_of_mem_dateDigits {t : DateTime} {c : Char} (h : c ∈ dateDigits t) :
    c.isDigit = true := by
  rw [dateDigits, List.mem_append, List.mem_append] at h
  rcases h with h | h | h
  · exact decimal.allDigits_write _ _ c h
  · exact decimal.allDigits_write _ _ c h
  · exact decimal.allDigits_write _ _ c h

theorem isDigit_of_mem_clockDigits {t : DateTime} {c : Char} (h : c ∈ clockDigits t) :
    c.isDigit = true := by
  rw [clockDigits, List.mem_append, List.mem_append] at h
  rcases h with h | h | h
  · exact decimal.allDigits_write _ _ c h
  · exact decimal.allDigits_write _ _ c h
  · exact decimal.allDigits_write _ _ c h

/-- A character that is neither a digit nor a dash is in no time of a label. -/
theorem not_mem_stamp {t : DateTime} {c : Char} (hdigit : c.isDigit = false) (hdash : c ≠ '-') :
    c ∉ stamp t := by
  intro h
  rw [stamp, List.mem_append, List.mem_cons] at h
  rcases h with h | h | h
  · rw [isDigit_of_mem_dateDigits h] at hdigit
    cases hdigit
  · exact hdash h
  · rw [isDigit_of_mem_clockDigits h] at hdigit
    cases hdigit

theorem toList_strftime_labelFormat (t : ClockTime) :
    (DateTime.strftime labelFormat t).toList = stamp t := by
  rw [t.2.toList_strftime]
  simp [labelFormat, DateTime.Directive.chars, DateTime.Field.width, DateTime.get, stamp,
    dateDigits, clockDigits]

/-- Both formats have all fields. -/
theorem fill_labelFormat (t : DateTime) : t.fill labelFormat ⟨1900, 1, 1, 0, 0, 0⟩ = t := rfl

theorem fill_backupIdFormat (t : DateTime) : t.fill backupIdFormat ⟨1900, 1, 1, 0, 0, 0⟩ = t := rfl

/-- A time is read back from the id of its backup. -/
theorem strptime_backupId (t : ClockTime) :
    DateTime.strptime backupIdFormat (DateTime.strftime backupIdFormat t) = some t.1 :=
  t.2.strptime_strftime (fill_backupIdFormat t)

theorem stamp_injective {t t' : ClockTime} (h : stamp t = stamp t') : t = t' := by
  rw [← toList_strftime_labelFormat, ← toList_strftime_labelFormat, String.toList_inj] at h
  exact Subtype.ext (t.2.strftime_injective t'.2 fill_labelFormat h)

/-! ## the text of a label -/

namespace BackupLabel

/-- The time at which the backup was taken. -/
def own : BackupLabel → ClockTime
  | full own => own
  | dependent _ own _ => own

def backupType : BackupLabel → String
  | full _ => "full"
  | dependent _ _ type => type.name

def chars : BackupLabel → List Char
  | full own => stamp own ++ ['F']
  | dependent base own type => stamp base ++ 'F' :: '_' :: (stamp own ++ [type.letter])

def text (l : BackupLabel) : String := String.ofList l.chars

theorem underscore_not_mem_stamp (t : DateTime) (letter : Char) (h : letter ≠ '_') :
    '_' ∉ stamp t ++ [letter] := by
  rw [List.mem_append, not_or, List.mem_singleton]
  exact ⟨not_mem_stamp (by decide) (by decide), Ne.symm h⟩

/-- The text of a label that depends on a full backup has two parts, and the
second one holds its own time. -/
theorem labelTimestamp_dependent (base own : ClockTime) (type : DependentType) :
    labelTimestamp (dependent base own type).text =
      .ok (String.ofList (stamp own ++ [type.letter])) := by
  have hletter : type.letter ≠ '_' := by
    cases type with
    | differential => decide
    | incremental => decide
  have hparts : ∀ part ∈ [stamp base ++ ['F'], stamp own ++ [type.letter]], '_' ∉ part := by
    rw [List.forall_mem_cons, List.forall_mem_singleton]
    exact ⟨underscore_not_mem_stamp base 'F' (by decide),
      underscore_not_mem_stamp own type.letter hletter⟩
  have hjoin : (dependent base own type).chars =
      ['_'].intercalate [stamp base ++ ['F'], stamp own ++ [type.letter]] := by
    simp [chars, List.intercalate]
  rw [labelTimestamp, text, String.toList_ofList, hjoin,
    List.splitOn_intercalate '_' hparts (List.cons_ne_nil _ _)]
  rfl

/-- The part that holds the time of the backup is the one that the code reads. -/
theorem labelParts_text (l : BackupLabel) :
    ∃ letter, labelParts l.text = .ok (String.ofList (stamp l.own ++ [letter]), l.backupType) := by
  cases l with
  | full own =>
    have hlast : (full own).text.toList.getLast? = some 'F' := by
      simp [text, chars]
    refine ⟨'F', ?_⟩
    rw [labelParts, hlast]
    rfl
  | dependent base own type =>
    have hlast : (dependent base own type).text.toList.getLast? = some type.letter := by
      rw [text, chars, String.toList_ofList, ← List.cons_append, ← List.cons_append,
        ← List.append_assoc]
      exact List.getLast?_concat
    refine ⟨type.letter, ?_⟩
    rw [labelParts, hlast, labelTimestamp_dependent]
    cases type with
    | differential => rfl
    | incremental => rfl

/-- A label is read back: the id of the backup, and its type. -/
theorem parseBackupId_text (l : BackupLabel) :
    parseBackupId l.text = .ok (DateTime.strftime backupIdFormat l.own, l.backupType) := by
  obtain ⟨letter, hparts⟩ := l.labelParts_text
  have hstamp : String.ofList (stamp l.own) = DateTime.strftime labelFormat l.own := by
    rw [← toList_strftime_labelFormat, String.ofList_toList]
  have hread : DateTime.strptime labelFormat (String.ofList (stamp l.own)) = some l.own.1 := by
    rw [hstamp]
    exact l.own.2.strptime_strftime (fill_labelFormat l.own)
  rw [parseBackupId, hparts]
  simp [bind, Except.bind, hread, pure, Except.pure]

/-! ## where a time occurs in a label -/

/-- The dash of a time is the only one in it. -/
theorem dash_of_stamp {t : DateTime} {cs : List Char} {i : Nat}
    (h : (stamp t ++ cs)[i]? = some '-') : i = 8 ∨ 15 ≤ i ∧ cs[i - 15]? = some '-' := by
  rw [stamp, List.append_assoc, List.cons_append] at h
  rcases lt_trichotomy i 8 with hi | hi | hi
  · rw [List.getElem?_append_left (by simpa using hi)] at h
    have hdigit := isDigit_of_mem_dateDigits (List.mem_of_getElem? h)
    cases hdigit
  · exact .inl hi
  · refine .inr ?_
    rw [List.getElem?_append_right (by simpa using le_of_lt hi), length_dateDigits] at h
    obtain ⟨n, rfl⟩ := Nat.exists_eq_add_of_lt hi
    have hn : 8 + n + 1 - 8 = n + 1 := by omega
    rw [hn, List.getElem?_cons_succ] at h
    rcases lt_or_ge n 6 with hlt | hge
    · rw [List.getElem?_append_left (by simpa using hlt)] at h
      have hdigit := isDigit_of_mem_clockDigits (List.mem_of_getElem? h)
      cases hdigit
    · rw [List.getElem?_append_right (by simpa using hge), length_clockDigits] at h
      have hn' : 8 + n + 1 - 15 = n - 6 := by omega
      rw [hn']
      exact ⟨by omega, h⟩

/-- The times in a label. -/
def times : BackupLabel → List ClockTime
  | full own => [own]
  | dependent base own _ => [base, own]

/-- Times of the same length stand where they are. -/
theorem eq_of_stamp_append {t t' : ClockTime} {cs cs' : List Char}
    (h : stamp t ++ cs = stamp t' ++ cs') : t = t' :=
  stamp_injective (List.append_inj h (by simp)).1

theorem stamp_own_infix (l : BackupLabel) : stamp l.own <:+: l.chars := by
  cases l with
  | full own => exact (List.prefix_append _ _).isInfix
  | dependent base own type =>
    refine ⟨stamp base ++ ['F', '_'], [type.letter], ?_⟩
    rw [List.append_assoc, List.append_assoc]
    rfl

/-- Only the times of a label occur in it. -/
theorem mem_times_of_infix {l : BackupLabel} {t : ClockTime} (h : stamp t <:+: l.chars) :
    t ∈ l.times := by
  obtain ⟨front, rest, heq⟩ := h
  have hdash : l.chars[front.length + 8]? = some '-' := by
    rw [← heq, stamp]
    simp
  rw [List.append_assoc] at heq
  cases l with
  | full own =>
    rcases dash_of_stamp hdash with hi | ⟨-, hrest⟩
    · have hfront : front = [] := List.eq_nil_of_length_eq_zero (by omega)
      rw [hfront] at heq
      rw [eq_of_stamp_append heq]
      exact List.mem_singleton_self own
    · cases List.mem_singleton.1 (List.mem_of_getElem? hrest)
  | dependent base own type =>
    rcases dash_of_stamp hdash with hi | ⟨hle, hrest⟩
    · have hfront : front = [] := List.eq_nil_of_length_eq_zero (by omega)
      rw [hfront] at heq
      rw [eq_of_stamp_append heq]
      exact List.mem_cons_self
    · -- behind the first time come `F_` and the second one
      have hsecond : front.length = 17 := by
        obtain ⟨k, hk⟩ : ∃ k, front.length + 8 = k + 15 := ⟨_, (Nat.sub_add_cancel hle).symm⟩
        rw [hk, Nat.add_sub_cancel] at hrest
        rcases k with _ | _ | k
        · cases hrest
        · cases hrest
        · rcases dash_of_stamp hrest with hi | ⟨-, hletter⟩
          · omega
          · have hdash := List.mem_singleton.1 (List.mem_of_getElem? hletter)
            cases type with
            | differential => cases hdash
            | incremental => cases hdash
      have hchars : (dependent base own type).chars =
          (stamp base ++ ['F', '_']) ++ (stamp own ++ [type.letter]) := by
        rw [List.append_assoc]
        rfl
      rw [hchars] at heq
      have hlength : front.length = (stamp base ++ ['F', '_']).length := by simp [hsecond]
      rw [eq_of_stamp_append (List.append_inj heq hlength).2]
      exact List.mem_cons_of_mem base (List.mem_singleton_self own)

end BackupLabel

/-! ## the listing of labelled backups -/

/-- A backup of `pgbackrest info`, its label by the times in it. -/
structure LabelledBackup where
  label : BackupLabel
  archiveStart : Option String
  error : Bool
deriving DecidableEq

def LabelledBackup.info (b : LabelledBackup) : BackupInfo := ⟨b.label.text, b.archiveStart, b.error⟩

/-- The id of a backup. -/
def LabelledBackup.id (b : LabelledBackup) : String := DateTime.strftime backupIdFormat b.label.own

structure LabelledStanza where
  name : String
  backups : List LabelledBackup
deriving DecidableEq

def LabelledStanza.info (s : LabelledStanza) : RepositoryInfo := ⟨s.name, s.backups.map (·.info)⟩

/-- The stanza that is listed; a repository without any has no backups. -/
def listedStanza (stanzas : List LabelledStanza) : LabelledStanza := stanzas.headD ⟨"", []⟩

/-- The backups that a listing shows. -/
def LabelledStanza.shown (s : LabelledStanza) (showFailed : Bool) : List LabelledBackup :=
  s.backups.filter fun b => showFailed || !b.error

/-- What `pgbackrest info` prints. -/
def answer (stanzas : List LabelledStanza) (stderr : String) : CommandOutcome InfoDocument :=
  .exited (some (stanzas.map (·.info))) stderr

/-- Labelled backups are listed without exception. -/
theorem listBackups_answer (stanzas : List LabelledStanza) (stderr : String)
    (showFailed parse : Bool) :
    listBackups (answer stanzas stderr) showFailed parse =
      .ok ((∅ : Dict String (String × String)).update
        (((listedStanza stanzas).shown showFailed).map fun b =>
          (if parse then b.id else b.label.text, ((listedStanza stanzas).name, b.info.timeline)))) := by
  cases stanzas with
  | nil => rfl
  | cons s stanzas =>
    have hentry : ∀ b ∈ s.shown showFailed,
        (backupEntry s.name parse ∘ LabelledBackup.info) b =
          .ok (if parse then b.id else b.label.text, (s.name, b.info.timeline)) := by
      intro b _
      cases parse with
      | false => rfl
      | true =>
        rw [Function.comp_apply, backupEntry, if_pos rfl, LabelledBackup.info,
          b.label.parseBackupId_text]
        rfl
    have hmap := Except.mapM_eq_ok_map hentry
    have hfilter : (s.backups.map (·.info)).filter (fun b => showFailed || !b.error) =
        (s.shown showFailed).map (·.info) := List.filter_map
    have hshown : ((s.backups.map (·.info)).filter fun b => showFailed || !b.error).mapM
        (backupEntry s.name parse) = .ok ((s.shown showFailed).map fun b =>
          (if parse then b.id else b.label.text, (s.name, b.info.timeline))) := by
      rw [hfilter, List.mapM_map]
      exact hmap
    change (do
      let entries ← ((s.backups.map (·.info)).filter (fun b => showFailed || !b.error)).mapM
        (backupEntry s.name parse)
      return (∅ : Dict String (String × String)).update entries : Except PyError _) = _
    rw [hshown]
    rfl

end PostgresqlK8s.Backups
