import PostgresqlK8s.Lib.DateTime
import Mathlib.Data.List.Lex
import Mathlib.Order.Lattice.Nat
import Mathlib.Tactic.Common

/-!
# Calendar

Points in time are ordered as their fields are, from the year down to the
second, and the seconds up to them follow that order (`toSeconds_lt_iff`).
-/

namespace DateTime

/-! ## years and months -/

/-- The days before a year. -/
def yearStart (year : Nat) : Nat :=
  365 * (year - 1) + (year - 1) / 4 - (year - 1) / 100 + (year - 1) / 400

def daysInYear (year : Nat) : Nat := if isLeap year then 366 else 365

/-- The days of a year before a month. -/
def monthStart (year month : Nat) : Nat :=
  ((List.range (month - 1)).map fun m => daysInMonth year (m + 1)).sum

theorem ordinal_eq (t : DateTime) :
    t.ordinal = yearStart t.year + monthStart t.year t.month + t.day := rfl

/-- A quotient grows by one at the multiples of the divisor. -/
theorem succ_div_eq (n k : Nat) : (n + 1) / k = n / k + if (n + 1) % k = 0 then 1 else 0 := by
  rw [Nat.succ_div]
  simp only [Nat.dvd_iff_mod_eq_zero]

/-- A year begins where the one before ends. -/
theorem yearStart_succ {year : Nat} (h : 1 ≤ year) :
    yearStart (year + 1) = yearStart year + daysInYear year := by
  obtain ⟨n, rfl⟩ := Nat.exists_eq_add_of_le' h
  have hleap : isLeap (n + 1) = true ↔
      (n + 1) % 4 = 0 ∧ ¬(n + 1) % 100 = 0 ∨ (n + 1) % 400 = 0 := by
    simp [isLeap]
  have hbound : n / 100 ≤ 365 * n := by omega
  have h400 : (n + 1) % 400 = 0 → (n + 1) % 100 = 0 := by omega
  have h100 : (n + 1) % 100 = 0 → (n + 1) % 4 = 0 := by omega
  simp only [yearStart, daysInYear, hleap, Nat.add_sub_cancel, succ_div_eq n 4,
    succ_div_eq n 100, succ_div_eq n 400]
  -- only which of the three divide the next year matters from here on
  generalize (n + 1) % 4 = r4 at *
  generalize (n + 1) % 100 = r100 at *
  generalize (n + 1) % 400 = r400 at *
  by_cases hr400 : r400 = 0
  · have hr100 := h400 hr400
    have hr4 := h100 hr100
    simp only [hr400, hr100, hr4, if_true, or_true]
    omega
  · by_cases hr100 : r100 = 0
    · have hr4 := h100 hr100
      simp only [hr400, hr100, hr4, if_true, if_false, not_true_eq_false, and_false, or_false]
      omega
    · by_cases hr4 : r4 = 0
      · simp only [hr400, hr100, hr4, if_true, if_false, not_false_eq_true, and_true, or_false]
        omega
      · simp only [hr400, hr100, hr4, if_false, false_and, or_false]
        omega

/-- Years do not overlap. -/
theorem yearStart_add_daysInYear_le {year year' : Nat} (hyear : 1 ≤ year) (h : year < year') :
    yearStart year + daysInYear year ≤ yearStart year' := by
  induction year', h using Nat.le_induction with
  | base => rw [yearStart_succ hyear]
  | succ year' hle ih =>
    rw [yearStart_succ (by omega)]
    omega

/-- A month begins where the one before ends. -/
theorem monthStart_succ {year month : Nat} (h : 1 ≤ month) :
    monthStart year (month + 1) = monthStart year month + daysInMonth year month := by
  obtain ⟨m, rfl⟩ := Nat.exists_eq_add_of_le' h
  simp [monthStart, List.range_succ]

/-- The months of a year do not overlap. -/
theorem monthStart_add_daysInMonth_le (year : Nat) {month month' : Nat} (hmonth : 1 ≤ month)
    (h : month < month') :
    monthStart year month + daysInMonth year month ≤ monthStart year month' := by
  induction month', h using Nat.le_induction with
  | base => rw [monthStart_succ hmonth]
  | succ month' hle ih =>
    rw [monthStart_succ (by omega)]
    omega

/-- The months fill the year. -/
theorem monthStart_thirteen (year : Nat) : monthStart year 13 = daysInYear year := by
  simp only [monthStart, daysInYear, daysInMonth, List.range_succ, List.range_zero]
  by_cases h : isLeap year = true <;> simp [h]

/-! ## the order of the fields -/

def fields (t : DateTime) : List Nat := [t.year, t.month, t.day, t.hour, t.minute, t.second]

/-- What `isValid` checks. -/
structure Valid (t : DateTime) : Prop where
  year : 1 ≤ t.year
  one_le_month : 1 ≤ t.month
  month_le : t.month ≤ 12
  one_le_day : 1 ≤ t.day
  day_le : t.day ≤ daysInMonth t.year t.month
  hour : t.hour ≤ 23
  minute : t.minute ≤ 59
  second : t.second ≤ 59

/-- The check decides validity. -/
theorem isValid_iff {t : DateTime} : t.isValid = true ↔ t.Valid := by
  simp only [isValid, Bool.and_eq_true, decide_eq_true_eq]
  constructor
  · rintro ⟨⟨⟨⟨⟨⟨⟨hy, hm⟩, hm'⟩, hd⟩, hd'⟩, hh⟩, hmi⟩, hs⟩
    exact ⟨hy, hm, hm', hd, hd', hh, hmi, hs⟩
  · intro h
    exact ⟨⟨⟨⟨⟨⟨⟨h.1, h.2⟩, h.3⟩, h.4⟩, h.5⟩, h.6⟩, h.7⟩, h.8⟩

theorem Valid.day_le_31 {t : DateTime} (h : t.Valid) : t.day ≤ 31 := by
  have hday := h.day_le
  unfold daysInMonth at hday
  split at hday
  · split at hday <;> omega
  · split at hday <;> omega

/-- The day of a valid time lies in its year. -/
theorem Valid.ordinal_le {t : DateTime} (h : t.Valid) :
    yearStart t.year < t.ordinal ∧ t.ordinal ≤ yearStart t.year + daysInYear t.year := by
  have hday := h.one_le_day
  have hday' := h.day_le
  have hmonth := monthStart_add_daysInMonth_le t.year h.one_le_month
    (Nat.lt_succ_of_le h.month_le)
  rw [monthStart_thirteen] at hmonth
  rw [ordinal_eq]
  omega

/-- An earlier date has the smaller ordinal. -/
theorem Valid.ordinal_lt {t t' : DateTime} (h : t.Valid) (h' : t'.Valid)
    (hlt : t.year < t'.year ∨ t.year = t'.year ∧
      (t.month < t'.month ∨ t.month = t'.month ∧ t.day < t'.day)) :
    t.ordinal < t'.ordinal := by
  rcases hlt with hyear | ⟨hyear, hmonth | ⟨hmonth, hday⟩⟩
  · have hstart := yearStart_add_daysInYear_le h.year hyear
    have ht := h.ordinal_le
    have ht' := h'.ordinal_le
    omega
  · have hstart := monthStart_add_daysInMonth_le t.year h.one_le_month hmonth
    have hday := h.day_le
    have hday' := h'.one_le_day
    rw [ordinal_eq, ordinal_eq, ← hyear]
    omega
  · rw [ordinal_eq, ordinal_eq, ← hyear, ← hmonth]
    omega

/-- The fields are compared from the year on. -/
theorem fields_lt_iff {t t' : DateTime} : t.fields < t'.fields ↔
    t.year < t'.year ∨ t.year = t'.year ∧ (t.month < t'.month ∨ t.month = t'.month ∧
      (t.day < t'.day ∨ t.day = t'.day ∧ (t.hour < t'.hour ∨ t.hour = t'.hour ∧
        (t.minute < t'.minute ∨ t.minute = t'.minute ∧ t.second < t'.second)))) := by
  simp [fields, List.cons_lt_cons_iff]

/-- A time is determined by its fields. -/
theorem fields_injective : Function.Injective fields := by
  intro t t' h
  cases t
  cases t'
  simpa [fields] using h

/-- **Order**: of two valid times, the one with the lesser fields is the earlier. -/
theorem Valid.toSeconds_lt {t t' : DateTime} (h : t.Valid) (h' : t'.Valid)
    (hlt : t.fields < t'.fields) : t.toSeconds < t'.toSeconds := by
  have hhour := h.hour
  have hminute := h.minute
  have hsecond := h.second
  have hordinal : t.ordinal < t'.ordinal ∨ t.ordinal = t'.ordinal ∧
      (t.hour < t'.hour ∨ t.hour = t'.hour ∧
        (t.minute < t'.minute ∨ t.minute = t'.minute ∧ t.second < t'.second)) := by
    rw [fields_lt_iff] at hlt
    by_cases hdate : t.year = t'.year ∧ t.month = t'.month ∧ t.day = t'.day
    · obtain ⟨hy, hm, hd⟩ := hdate
      refine .inr ⟨by rw [ordinal_eq, ordinal_eq, hy, hm, hd], ?_⟩
      omega
    · refine .inl (h.ordinal_lt h' ?_)
      omega
  rw [toSeconds, toSeconds]
  omega

/-- The seconds up to two points in time are ordered as the points are. -/
theorem Valid.toSeconds_lt_iff {t t' : DateTime} (h : t.Valid) (h' : t'.Valid) :
    t.toSeconds < t'.toSeconds ↔ t.fields < t'.fields := by
  constructor
  · intro hlt
    rcases lt_trichotomy t.fields t'.fields with hf | hf | hf
    · exact hf
    · rw [fields_injective hf] at hlt
      omega
    · have hgt := h'.toSeconds_lt h hf
      omega
  · exact h.toSeconds_lt h'

/-- Different points in time are different seconds. -/
theorem Valid.toSeconds_inj {t t' : DateTime} (h : t.Valid) (h' : t'.Valid)
    (heq : t.toSeconds = t'.toSeconds) : t = t' := by
  rcases lt_trichotomy t.fields t'.fields with hf | hf | hf
  · have hlt := h.toSeconds_lt h' hf
    omega
  · exact fields_injective hf
  · have hgt := h'.toSeconds_lt h hf
    omega

/-- The points in time up to the end of the year 9999. -/
theorem Valid.toSeconds_bounds {t : DateTime} (h : t.Valid) (hyear : t.year ≤ 9999) :
    (DateTime.mk 1 1 1 0 0 0).toSeconds ≤ t.toSeconds ∧
      t.toSeconds ≤ (DateTime.mk 9999 12 31 23 59 59).toSeconds := by
  have hfirst : (DateTime.mk 1 1 1 0 0 0).Valid := isValid_iff.1 (by decide)
  have hlast : (DateTime.mk 9999 12 31 23 59 59).Valid := isValid_iff.1 (by decide)
  have hday := h.day_le_31
  have hfields := h
  obtain ⟨hy, hm, hm', hd, -, hh, hmi, hs⟩ := hfields
  rw [← not_lt, ← not_lt, h.toSeconds_lt_iff hfirst, hlast.toSeconds_lt_iff h, fields_lt_iff,
    fields_lt_iff]
  dsimp only
  constructor <;> omega

end DateTime
