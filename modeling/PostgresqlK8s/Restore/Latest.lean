import PostgresqlK8s.Lib.Greatest
import PostgresqlK8s.Lib.Positional
import PostgresqlK8s.Restore.Target
import Mathlib.Data.Prod.Lex
import Mathlib.Data.String.Basic

/-!
# Restore.Latest

The guard of a restore to the latest point in time: there must be a backup on
the timeline that the restore is going to end on.

A timeline is a hexadecimal number, and the listings give it without the zeros
it starts with.  The guard looks for the greatest archived timeline in the
order of texts, where `F` comes after `10`, and asks whether a backup was made
on that one.  `guardsLatest_iff` says on which repositories this is the guard
it should be.
-/

namespace PostgresqlK8s.Restore

open Backups Numerals

/-! ## timelines as numbers -/

/-- A timeline as the listings give it: hexadecimal, and without the zeros in
front. -/
def IsTimelineId (timeline : String) : Prop :=
  hexadecimal.AllDigits timeline.toList ∧ timeline.toList.head? ≠ some '0'

instance (timeline : String) : Decidable (IsTimelineId timeline) := by
  unfold IsTimelineId
  infer_instance

def timelineNumber (timeline : String) : Nat := hexadecimal.value timeline.toList

/-! ## the repository -/

/-- A repository of one stanza, and a restore that reads it. -/
structure LatestRestore where
  answers : RepositoryAnswers
  stanza : String
  backups : Dict String StanzaTimeline
  timelines : Dict String StanzaTimeline
  backups_listed : listBackups answers.info false true = .ok backups
  timelines_listed : listTimelines answers.repoLs = .ok timelines
  backups_unchanged : listBackups answers.infoForNearest false true = .ok backups
  timelines_unchanged : listTimelines answers.repoLsForNearest = .ok timelines
  backups_stanza : ∀ e ∈ backups.entries, e.2.1 = stanza ∧ IsTimelineId e.2.2
  timelines_stanza : ∀ e ∈ timelines.entries, e.2.1 = stanza ∧ IsTimelineId e.2.2

namespace LatestRestore

/-- The timelines that a successful backup was made on. -/
def backedUp (r : LatestRestore) : List String := r.backups.entries.map (·.2.2)

/-- The timelines that have a history file. -/
def archived (r : LatestRestore) : List String := r.timelines.entries.map (·.2.2)

/-- A backup was made on the greatest timeline of the repository. -/
def HasLatestBackup (r : LatestRestore) : Prop :=
  ∃ b ∈ r.backedUp, ∀ t ∈ r.backedUp ++ r.archived, timelineNumber t ≤ timelineNumber b

/-- The answer to a request with only `restore-to-time=latest`. -/
def answer (r : LatestRestore) : Except PyError (String ⊕ RestoreTarget) :=
  restoreTarget r.answers "" "latest"

/-- The guard raises nothing, and refuses the restore exactly when no backup
was made on the greatest timeline. -/
structure Guarded (r : LatestRestore) : Prop where
  returns : ∃ target, r.answer = .ok target
  refused_iff : r.answer = .ok (.inl "There is no base backup created from the latest timeline") ↔
    ¬r.HasLatestBackup

/-- The repository is not empty, and the archived timeline that comes last in
the order of texts has a backup exactly when there is one on a timeline that
is not below any archived one. -/
structure LastAgrees (r : LatestRestore) : Prop where
  nonempty : r.backedUp ≠ [] ∨ r.archived ≠ []
  backed : ∀ t ∈ r.archived, (∀ t' ∈ r.archived, t' ≤ t) → t ∈ r.backedUp →
    ∃ b ∈ r.backedUp, ∀ t' ∈ r.archived, timelineNumber t' ≤ timelineNumber b
  unbacked : ∀ t ∈ r.archived, (∀ t' ∈ r.archived, t' ≤ t) → t ∉ r.backedUp →
    ∀ b ∈ r.backedUp, ∃ t' ∈ r.archived, timelineNumber b < timelineNumber t'

end LatestRestore

/-! ## the greatest element by the order of tuples -/

/-- A tuple as an element of the order of tuples. -/
def stanzaTimelineKey (a : StanzaTimeline) : Lex (String × String) := toLex a

theorem stanzaTimelineLt_iff (a b : StanzaTimeline) :
    stanzaTimelineLt a b = true ↔ stanzaTimelineKey a < stanzaTimelineKey b := by
  rw [stanzaTimelineKey, stanzaTimelineKey, Prod.Lex.toLex_lt_toLex]
  simp [stanzaTimelineLt]

theorem maximum_spec {κ : Type} [LinearOrder κ] {α : Type} {lt : α → α → Bool} {key : α → κ}
    (hlt : ∀ a b, lt a b = true ↔ key a < key b) {l : List α} {m : α}
    (h : maximum lt l = some m) : m ∈ l ∧ ∀ x ∈ l, key x ≤ key m := by
  cases l with
  | nil => cases h
  | cons a as =>
    cases h
    exact ⟨Greatest.pick_mem lt a as, Greatest.key_le_pick hlt a as⟩

theorem maximum_isSome {α : Type} (lt : α → α → Bool) {l : List α} (h : l ≠ []) :
    ∃ m, maximum lt l = some m := by
  cases l with
  | nil => exact absurd rfl h
  | cons a as => exact ⟨_, rfl⟩

/-- Some timeline of a list has the greatest number. -/
theorem exists_greatest {l : List String} (h : l ≠ []) :
    ∃ m ∈ l, ∀ t ∈ l, timelineNumber t ≤ timelineNumber m := by
  obtain ⟨m, hm⟩ := maximum_isSome (fun a b => timelineNumber a < timelineNumber b) h
  exact ⟨m, maximum_spec (fun _ _ => decide_eq_true_iff) hm⟩

namespace LatestRestore

variable (r : LatestRestore)

/-- Of the timelines of one stanza the greatest tuple is the one with the
timeline that comes last. -/
theorem hasBaseBackup_archived (h : r.archived ≠ []) :
    ∃ t ∈ r.archived, (∀ t' ∈ r.archived, t' ≤ t) ∧
      hasBaseBackup r.backups r.timelines = .ok (decide (t ∈ r.backedUp)) := by
  have hne : r.timelines.entries ≠ [] := by
    intro hnil
    rw [archived, hnil] at h
    exact h rfl
  have hvalues : r.timelines.entries.map Prod.snd ≠ [] := by simpa using hne
  obtain ⟨m, hm⟩ := maximum_isSome stanzaTimelineLt hvalues
  obtain ⟨hmem, hmax⟩ := maximum_spec stanzaTimelineLt_iff hm
  obtain ⟨e, he, rfl⟩ := List.mem_map.1 hmem
  have hstanza := (r.timelines_stanza e he).1
  refine ⟨e.2.2, List.mem_map.2 ⟨e, he, rfl⟩, ?_, ?_⟩
  · intro t' ht'
    obtain ⟨e', he', rfl⟩ := List.mem_map.1 ht'
    have hle := hmax e'.2 (List.mem_map.2 ⟨e', he', rfl⟩)
    rw [stanzaTimelineKey, stanzaTimelineKey, Prod.Lex.toLex_le_toLex,
      (r.timelines_stanza e' he').1, hstanza] at hle
    simpa using hle
  · have hbacked : e.2 ∈ r.backups.entries.map Prod.snd ↔ e.2.2 ∈ r.backedUp := by
      simp only [backedUp, List.mem_map]
      constructor
      · rintro ⟨b, hb, heq⟩
        exact ⟨b, hb, congrArg Prod.snd heq⟩
      · rintro ⟨b, hb, heq⟩
        exact ⟨b, hb, Prod.ext ((r.backups_stanza b hb).1.trans hstanza.symm) heq⟩
    have hempty : r.timelines.entries.isEmpty = false := by simpa using hne
    have hcandidates : (if r.timelines.entries.isEmpty then
        (r.backups.entries.map Prod.snd).take 1 else r.timelines.entries.map Prod.snd) =
          r.timelines.entries.map Prod.snd := by
      rw [hempty, if_neg Bool.false_ne_true]
    unfold hasBaseBackup
    simp only [hcandidates, hm]
    exact congrArg Except.ok (decide_eq_decide.2 hbacked)

/-- Without archived timelines the guard looks for the first backup. -/
theorem hasBaseBackup_not_archived (h : r.archived = []) :
    hasBaseBackup r.backups r.timelines =
      if r.backedUp = [] then .error .indexError else .ok true := by
  have hnil : r.timelines.entries = [] := by simpa [archived] using h
  cases hentries : r.backups.entries with
  | nil => simp [hasBaseBackup, hnil, hentries, maximum, backedUp]
  | cons b bs => simp [hasBaseBackup, hnil, hentries, maximum, backedUp]

/-! ## the answer of the guard -/

/-- The greatest timeline is asked for only where the listings name one. -/
theorem answer_of_hasBaseBackup {based : Bool}
    (h : hasBaseBackup r.backups r.timelines = .ok based) :
    (∃ target, r.answer = .ok target) ∧
      (r.answer = .ok (.inl "There is no base backup created from the latest timeline") ↔
        based = false) := by
  have hanswer : r.answer = nearestTarget r.answers r.backups r.timelines "latest" := by
    rw [answer, restoreTarget, r.backups_listed, r.timelines_listed]
    rfl
  rw [hanswer, nearestTarget, if_pos rfl, h]
  cases based with
  | false => exact ⟨⟨_, rfl⟩, iff_of_true rfl rfl⟩
  | true =>
    simp only [bind, Except.bind, Bool.not_true, Bool.false_eq_true, if_false,
      r.backups_unchanged, r.timelines_unchanged, Bool.true_eq_false, iff_false]
    split
    · next e heq =>
      -- the greatest entry is found without reading the point in time
      simp [nearestTimeline, pure, Except.pure] at heq
    · exact ⟨⟨_, rfl⟩, by decide⟩
    · exact ⟨⟨_, rfl⟩, nofun⟩

theorem answer_of_hasBaseBackup_error {e : PyError}
    (h : hasBaseBackup r.backups r.timelines = .error e) : r.answer = .error e := by
  rw [answer, restoreTarget, r.backups_listed, r.timelines_listed]
  change nearestTarget r.answers r.backups r.timelines "latest" = _
  rw [nearestTarget, if_pos rfl, h]
  rfl

/-! ## the greatest timeline -/

/-- The greatest timeline has a backup when some backup is not below any
archived timeline. -/
theorem hasLatestBackup_iff :
    r.HasLatestBackup ↔
      ∃ b ∈ r.backedUp, ∀ t ∈ r.archived, timelineNumber t ≤ timelineNumber b := by
  constructor
  · intro hlatest
    obtain ⟨b, hb, hmax⟩ := hlatest
    exact ⟨b, hb, fun t ht => hmax t (List.mem_append_right _ ht)⟩
  · intro hbacked
    obtain ⟨b, hb, hmax⟩ := hbacked
    obtain ⟨m, hm, hgreatest⟩ := exists_greatest (List.ne_nil_of_mem hb)
    refine ⟨m, hm, fun t ht => ?_⟩
    rw [List.mem_append] at ht
    rcases ht with ht | ht
    · exact hgreatest t ht
    · exact (hmax t ht).trans (hgreatest b hb)

/-- Without archived timelines the guard is right if there is a backup. -/
theorem guarded_of_archived_eq_nil (harchived : r.archived = []) :
    r.Guarded ↔ r.backedUp ≠ [] := by
  have hbase := r.hasBaseBackup_not_archived harchived
  by_cases hbacked : r.backedUp = []
  · rw [if_pos hbacked] at hbase
    have hanswer := r.answer_of_hasBaseBackup_error hbase
    refine iff_of_false ?_ (not_not.2 hbacked)
    intro h
    obtain ⟨target, htarget⟩ := h.returns
    rw [hanswer] at htarget
    cases htarget
  · rw [if_neg hbacked] at hbase
    obtain ⟨hreturns, hrefused⟩ := r.answer_of_hasBaseBackup hbase
    have hlatest : r.HasLatestBackup := by
      obtain ⟨b, hb, -⟩ := exists_greatest hbacked
      exact r.hasLatestBackup_iff.2 ⟨b, hb, by simp [harchived]⟩
    refine iff_of_true ⟨hreturns, ?_⟩ hbacked
    rw [hrefused]
    simpa using hlatest

/-- Otherwise it is right if the archived timeline whose id comes last has no
backup exactly where the greatest timeline has none. -/
theorem guarded_of_archived_ne_nil (harchived : r.archived ≠ []) :
    ∃ t ∈ r.archived, (∀ t' ∈ r.archived, t' ≤ t) ∧
      (r.Guarded ↔ (t ∉ r.backedUp ↔ ¬r.HasLatestBackup)) := by
  obtain ⟨t, ht, hlast, hbase⟩ := r.hasBaseBackup_archived harchived
  obtain ⟨hreturns, hrefused⟩ := r.answer_of_hasBaseBackup hbase
  refine ⟨t, ht, hlast, ?_⟩
  rw [decide_eq_false_iff_not] at hrefused
  rw [← hrefused]
  exact ⟨Guarded.refused_iff, fun h => ⟨hreturns, h⟩⟩

/-- The guard is right exactly on the repositories that are not empty and whose
last archived timeline in the order of texts has a backup when, and only when,
some backup is not below any archived timeline. -/
theorem guarded_iff : r.Guarded ↔ r.LastAgrees := by
  by_cases harchived : r.archived = []
  · rw [r.guarded_of_archived_eq_nil harchived]
    constructor
    · intro hbacked
      exact ⟨.inl hbacked, by simp [harchived], by simp [harchived]⟩
    · intro h
      exact h.nonempty.resolve_right (not_not.2 harchived)
  · obtain ⟨t, ht, hlast, hguarded⟩ := r.guarded_of_archived_ne_nil harchived
    -- the last timeline is the one that the guard has looked at
    have honly : ∀ t' ∈ r.archived, (∀ t'' ∈ r.archived, t'' ≤ t') → t' = t := by
      intro t' ht' hlast'
      exact le_antisymm (hlast t' ht') (hlast' t ht)
    rw [hguarded, hasLatestBackup_iff]
    constructor
    · intro h
      refine ⟨.inr harchived, ?_, ?_⟩
      · intro t' ht' hlast' hmem
        rw [honly t' ht' hlast'] at hmem
        by_contra hnone
        exact h.2 hnone hmem
      · intro t' ht' hlast' hmem b hb
        rw [honly t' ht' hlast'] at hmem
        have hnone := h.1 hmem
        push Not at hnone
        exact hnone b hb
    · intro h
      by_cases hmem : t ∈ r.backedUp
      · have hbacked := h.backed t ht hlast hmem
        exact iff_of_false (by simpa using hmem) (not_not.2 hbacked)
      · refine iff_of_true hmem ?_
        push Not
        exact h.unbacked t ht hlast hmem

/-- Timelines with one number of digits are in the order of their numbers, so
the guard is right there unless a backup is on a timeline that is above all
archived ones and is not archived itself. -/
theorem lastAgrees_of_length_eq (hne : r.archived ≠ [])
    (hlen : ∀ t ∈ r.archived, ∀ t' ∈ r.archived, t.toList.length = t'.toList.length)
    (hbacked : ∀ b ∈ r.backedUp, b ∈ r.archived ∨
      ∃ t ∈ r.archived, timelineNumber b < timelineNumber t) : r.LastAgrees := by
  have hid : ∀ t ∈ r.archived, IsTimelineId t := by
    intro t ht
    obtain ⟨e, he, rfl⟩ := List.mem_map.1 ht
    exact (r.timelines_stanza e he).2
  have hnumber : ∀ t ∈ r.archived, ∀ t' ∈ r.archived,
      t < t' ↔ timelineNumber t < timelineNumber t' := by
    intro t ht t' ht'
    rw [String.lt_iff_toList_lt]
    exact hexadecimal.lt_iff_value_lt (hid t ht).1 (hid t' ht').1 (hlen t ht t' ht')
  refine ⟨.inr hne, ?_, ?_⟩
  · intro t ht hlast hmem
    refine ⟨t, hmem, fun t' ht' => ?_⟩
    rw [← not_lt, ← hnumber t ht t' ht', not_lt]
    exact hlast t' ht'
  · intro t ht hlast hmem b hb
    rcases hbacked b hb with harchived | hbelow
    · refine ⟨t, ht, ?_⟩
      rw [← hnumber b harchived t ht]
      have hbt : b ≠ t := by
        rintro rfl
        exact hmem hb
      exact lt_of_le_of_ne (hlast b harchived) hbt
    · exact hbelow

end LatestRestore

/-! ## sixteen timelines -/

/-- The history files of the timelines 15 and 16, and a backup on the first. -/
def sixteenTimelines : RepositoryAnswers where
  info := .exited (some [⟨"s", [⟨"20240101-000000F", some "0000000F", false⟩]⟩]) ""
  repoLs := .exited (some [⟨"s/0000000F.history", ⟨2024, 1, 2, 0, 0, 0⟩⟩,
    ⟨"s/00000010.history", ⟨2024, 1, 3, 0, 0, 0⟩⟩]) ""
  infoForNearest := .exited (some [⟨"s", [⟨"20240101-000000F", some "0000000F", false⟩]⟩]) ""
  repoLsForNearest := .exited (some [⟨"s/0000000F.history", ⟨2024, 1, 2, 0, 0, 0⟩⟩,
    ⟨"s/00000010.history", ⟨2024, 1, 3, 0, 0, 0⟩⟩]) ""
  infoForLabel := .exited (some [⟨"s", [⟨"20240101-000000F", some "0000000F", false⟩]⟩]) ""

def sixteenTimelinesRestore : LatestRestore where
  answers := sixteenTimelines
  stanza := "s"
  backups := ⟨[("2024-01-01T00:00:00Z", ("s", "F"))], by decide⟩
  timelines := ⟨[("2024-01-02T00:00:00Z", ("s", "F")), ("2024-01-03T00:00:00Z", ("s", "10"))],
    by decide⟩
  backups_listed := by rfl
  timelines_listed := by rfl
  backups_unchanged := by rfl
  timelines_unchanged := by rfl
  backups_stanza := by
    decide
  timelines_stanza := by
    decide

/-- The restore is not refused: `F` comes after `10`. -/
theorem not_guarded_sixteenTimelines : ¬∀ r : LatestRestore, r.Guarded := by
  intro h
  have hlatest : ¬sixteenTimelinesRestore.HasLatestBackup := by
    rintro ⟨b, hb, hmax⟩
    obtain rfl : b = "F" := by simpa [LatestRestore.backedUp, sixteenTimelinesRestore] using hb
    have hlt : timelineNumber "F" < timelineNumber "10" := by decide
    have hle := hmax "10" (by decide)
    omega
  have hbase : hasBaseBackup sixteenTimelinesRestore.backups sixteenTimelinesRestore.timelines =
      .ok true := rfl
  have hpassed := sixteenTimelinesRestore.answer_of_hasBaseBackup hbase
  have hrefused := hpassed.2.1 ((h sixteenTimelinesRestore).refused_iff.2 hlatest)
  cases hrefused

end PostgresqlK8s.Restore
