import PostgresqlK8s.Lib.Calendar
import PostgresqlK8s.Lib.Positional
import Mathlib.Data.String.Basic
import Mathlib.Tactic.IntervalCases

/-!
# DateTimeText

The texts of points in time: what is read of a text in a fixed number of
digits, and that a point in time is read back from the text it was written as.
-/

namespace DateTime

open Numerals

/-! ## digits -/

theorem within_zero_nine (c : Char) : within '0' '9' c = c.isDigit := by
  rw [Bool.eq_iff_iff, Char.isDigit_iff_toNat, within, Bool.and_eq_true, decide_eq_true_eq,
    decide_eq_true_eq, ← not_lt, ← not_lt, char_lt_iff, char_lt_iff]
  omega

/-- As many digits as asked for are read as their number, and nothing else. -/
theorem readShape_replicate (ds rest : List Char) (n : Nat) :
    readShape (List.replicate ds.length (within '0' '9')) (ds ++ rest) n =
      if decimal.AllDigits ds then
        some (ds.foldl (fun n c => decimal.base * n + decimal.digit c) n, rest)
      else none := by
  induction ds generalizing n with
  | nil => simp [readShape, AllDigits]
  | cons d ds ih =>
    rw [List.length_cons, List.replicate_succ, List.cons_append, readShape, within_zero_nine]
    by_cases hd : d.isDigit = true
    · have hall : decimal.AllDigits (d :: ds) ↔ decimal.AllDigits ds := by
        simp only [AllDigits, List.forall_mem_cons]
        exact and_iff_right hd
      rw [if_pos hd, if_pos hd, ih]
      simp only [hall, List.foldl_cons]
      rfl
    · have hall : ¬decimal.AllDigits (d :: ds) := fun h => hd (h d List.mem_cons_self)
      rw [if_neg hd, if_neg hall]

/-- A number without leading zeros is written in as many digits as it has. -/
theorem toList_toString_eq_write {k n : Nat} (hlo : 10 ^ k ≤ n) (hhi : n < 10 ^ (k + 1)) :
    (toString n).toList = decimal.write (k + 1) n := by
  rw [Decimal.toList_toString]
  induction k generalizing n with
  | zero =>
    have hdigit : ∀ n < 10, 1 ≤ n → Nat.toDigits 10 n = decimal.write 1 n := by decide
    exact hdigit n hhi hlo
  | succ k ih =>
    have hpow : 10 ^ (k + 1) = 10 ^ k * 10 := Nat.pow_succ 10 k
    have hpow' : 10 ^ (k + 1 + 1) = 10 ^ (k + 1) * 10 := Nat.pow_succ 10 (k + 1)
    have hone : 1 ≤ 10 ^ k := Nat.one_le_pow k 10 (by decide)
    have hdigit : ∀ d < 10, Nat.digitChar d = decimal.char d := by decide
    have hrest : n % 10 < 10 := Nat.mod_lt n (by decide)
    rw [Nat.toDigits_of_base_le (by decide) (by omega), ih (by omega) (by omega),
      hdigit _ hrest]
    rfl

/-- A number of at most two digits, padded. -/
theorem toList_pad {n : Nat} (h : n < 100) : (pad n).toList = decimal.write 2 n := by
  have hpad : ∀ n < 100, (pad n).toList = decimal.write 2 n := by decide
  exact hpad n h

/-! ## the text of a point in time -/

/-- The digits of a field. -/
def Field.width : Field → Nat
  | .year => 4
  | _ => 2

/-- The fields are within the calendar, and the year has four digits. -/
structure Printable (t : DateTime) : Prop where
  valid : t.Valid
  one_le_year : 1000 ≤ t.year
  year_le : t.year ≤ 9999

theorem printable_iff {t : DateTime} :
    t.Printable ↔ t.isValid = true ∧ 1000 ≤ t.year ∧ t.year ≤ 9999 := by
  rw [isValid_iff]
  exact ⟨fun h => ⟨h.valid, h.one_le_year, h.year_le⟩, fun h => ⟨h.1, h.2.1, h.2.2⟩⟩

instance (t : DateTime) : Decidable t.Printable := decidable_of_iff _ printable_iff.symm

theorem Printable.get_lt {t : DateTime} (h : t.Printable) (f : Field) :
    t.get f < 10 ^ f.width := by
  have hvalid := h.valid
  have hday := hvalid.day_le_31
  have hyear := h.year_le
  cases f with
  | year => exact Nat.lt_succ_of_le hyear
  | month => exact (hvalid.month_le.trans (by decide : 12 ≤ 99)).trans_lt (by decide)
  | day => exact hday.trans_lt (by decide)
  | hour => exact hvalid.hour.trans_lt (by decide)
  | minute => exact hvalid.minute.trans_lt (by decide)
  | second => exact hvalid.second.trans_lt (by decide)

theorem Printable.toList_format {t : DateTime} (h : t.Printable) (f : Field) :
    (f.format (t.get f)).toList = decimal.write f.width (t.get f) := by
  have hlt := h.get_lt f
  cases f with
  | year => exact toList_toString_eq_write h.one_le_year hlt
  | month => exact toList_pad hlt
  | day => exact toList_pad hlt
  | hour => exact toList_pad hlt
  | minute => exact toList_pad hlt
  | second => exact toList_pad hlt

/-- The characters of a directive. -/
def Directive.chars (t : DateTime) : Directive → List Char
  | .field f => decimal.write f.width (t.get f)
  | .literal c => [c]

theorem Printable.toList_strftime {t : DateTime} (h : t.Printable) (fmt : List Directive) :
    (strftime fmt t).toList = fmt.flatMap (·.chars t) := by
  induction fmt with
  | nil => rfl
  | cons d fmt ih =>
    rw [List.flatMap_cons, ← ih]
    cases d with
    | field f =>
      have hformat := h.toList_format f
      change (f.format (t.get f) ++ strftime fmt t).toList = _
      rw [String.toList_append, hformat]
      rfl
    | literal c =>
      change (c.toString ++ strftime fmt t).toList = _
      rw [String.toList_append, Char.toString_eq_singleton, String.toList_singleton]
      rfl

/-! ## reading it back -/

/-- Two digits in their range are read by the first shape that fits them. -/
theorem head_readShapes_month {n : Nat} (hlo : 1 ≤ n) (hhi : n ≤ 12) (cs : List Char) :
    (Field.month.shapes.filterMap fun shape =>
      readShape shape (decimal.write 2 n ++ cs) 0).head? = some (n, cs) := by
  interval_cases n <;> rfl

theorem head_readShapes_day {n : Nat} (hlo : 1 ≤ n) (hhi : n ≤ 31) (cs : List Char) :
    (Field.day.shapes.filterMap fun shape =>
      readShape shape (decimal.write 2 n ++ cs) 0).head? = some (n, cs) := by
  interval_cases n <;> rfl

theorem head_readShapes_hour {n : Nat} (hhi : n ≤ 23) (cs : List Char) :
    (Field.hour.shapes.filterMap fun shape =>
      readShape shape (decimal.write 2 n ++ cs) 0).head? = some (n, cs) := by
  interval_cases n <;> rfl

theorem head_readShapes_minute {n : Nat} (hhi : n ≤ 59) (cs : List Char) :
    (Field.minute.shapes.filterMap fun shape =>
      readShape shape (decimal.write 2 n ++ cs) 0).head? = some (n, cs) := by
  interval_cases n <;> rfl

theorem head_readShapes_second {n : Nat} (hhi : n ≤ 59) (cs : List Char) :
    (Field.second.shapes.filterMap fun shape =>
      readShape shape (decimal.write 2 n ++ cs) 0).head? = some (n, cs) := by
  interval_cases n <;> rfl

/-- A field is read from its own digits first. -/
theorem Printable.head_readShapes {t : DateTime} (h : t.Printable) (f : Field) (cs : List Char) :
    (f.shapes.filterMap fun shape =>
      readShape shape (decimal.write f.width (t.get f) ++ cs) 0).head? = some (t.get f, cs) := by
  cases f with
  | year =>
    have hread := readShape_replicate (decimal.write 4 t.year) cs 0
    rw [if_pos (decimal.allDigits_write 4 t.year), length_write] at hread
    have hvalue : decimal.value (decimal.write 4 t.year) = t.year :=
      decimal.value_write (h.get_lt .year)
    have hshapes : Field.year.shapes = [List.replicate 4 (within '0' '9')] := rfl
    have hyear : readShape (List.replicate 4 (within '0' '9')) (decimal.write 4 t.year ++ cs) 0 =
        some (t.year, cs) := hread.trans (congrArg (fun n => some (n, cs)) hvalue)
    have hwidth : decimal.write Field.year.width (t.get .year) = decimal.write 4 t.year := rfl
    rw [hshapes, hwidth, List.filterMap_cons, hyear]
    rfl
  | month => exact head_readShapes_month h.valid.one_le_month h.valid.month_le cs
  | day => exact head_readShapes_day h.valid.one_le_day h.valid.day_le_31 cs
  | hour => exact head_readShapes_hour h.valid.hour cs
  | minute => exact head_readShapes_minute h.valid.minute cs
  | second => exact head_readShapes_second h.valid.second cs

/-- The fields of a format, put over a point in time. -/
def fill (t : DateTime) (fmt : List Directive) (u : DateTime) : DateTime :=
  fmt.foldl (fun u d => match d with
    | .field f => u.put (t.get f) f
    | .literal _ => u) u

/-- The first reading of the text of a point in time gives its fields. -/
theorem Printable.head_readings {t : DateTime} (h : t.Printable) (fmt : List Directive)
    (u : DateTime) (rest : List Char) :
    (readings fmt u (fmt.flatMap (·.chars t) ++ rest)).head? =
      some (t.fill fmt u, rest) := by
  induction fmt generalizing u with
  | nil => rfl
  | cons d fmt ih =>
    rw [List.flatMap_cons, List.append_assoc, fill, List.foldl_cons]
    cases d with
    | literal c =>
      change (readings (.literal c :: fmt) u (c :: (fmt.flatMap (·.chars t) ++ rest))).head? = _
      rw [readings, if_pos rfl, ih]
      rfl
    | field f =>
      have hhead := h.head_readShapes f (fmt.flatMap (·.chars t) ++ rest)
      change (readings (.field f :: fmt) u (decimal.write f.width (t.get f) ++
        (fmt.flatMap (·.chars t) ++ rest))).head? = _
      rw [readings]
      generalize (f.shapes.filterMap fun shape => readShape shape
        (decimal.write f.width (t.get f) ++ (fmt.flatMap (·.chars t) ++ rest)) 0) = rs at hhead ⊢
      cases rs with
      | nil => cases hhead
      | cons r rs =>
        rw [List.head?_cons, Option.some.injEq] at hhead
        rw [hhead, List.flatMap_cons, List.head?_append, ih]
        rfl

/-- **Round trip**: a point in time is read back from its text, if the format
has all its fields. -/
theorem Printable.strptime_strftime {t : DateTime} (h : t.Printable) {fmt : List Directive}
    (hfill : t.fill fmt ⟨1900, 1, 1, 0, 0, 0⟩ = t) : strptime fmt (strftime fmt t) = some t := by
  have hhead := h.head_readings fmt ⟨1900, 1, 1, 0, 0, 0⟩ []
  rw [List.append_nil, ← h.toList_strftime, hfill] at hhead
  rw [strptime]
  cases hreadings : readings fmt ⟨1900, 1, 1, 0, 0, 0⟩ (strftime fmt t).toList with
  | nil =>
    rw [hreadings] at hhead
    cases hhead
  | cons r rs =>
    rw [hreadings, List.head?_cons, Option.some.injEq] at hhead
    rw [hhead]
    exact if_pos (isValid_iff.2 h.valid)

/-! ## the order of texts -/

/-- The numbers of a format, in order. -/
def numbers (t : DateTime) (fmt : List Directive) : List Nat :=
  fmt.filterMap fun
    | .field f => some (t.get f)
    | .literal _ => none

/-- The texts of two points in time are ordered as the numbers in them. -/
theorem Printable.strftime_lt_iff {t t' : DateTime} (h : t.Printable) (h' : t'.Printable)
    (fmt : List Directive) :
    strftime fmt t < strftime fmt t' ↔ t.numbers fmt < t'.numbers fmt := by
  rw [String.lt_iff_toList_lt, h.toList_strftime, h'.toList_strftime]
  induction fmt with
  | nil => simp [numbers]
  | cons d fmt ih =>
    rw [List.flatMap_cons, List.flatMap_cons]
    cases d with
    | literal c =>
      change c :: fmt.flatMap (·.chars t) < c :: fmt.flatMap (·.chars t') ↔
        t.numbers fmt < t'.numbers fmt
      rw [cons_lt_cons_iff, ih]
      simp
    | field f =>
      have hlt := h.get_lt f
      have hlt' := h'.get_lt f
      have heq : decimal.write f.width (t.get f) = decimal.write f.width (t'.get f) ↔
          t.get f = t'.get f := by
        constructor
        · exact decimal.write_injective hlt hlt'
        · exact fun heq => congrArg _ heq
      change decimal.write f.width (t.get f) ++ fmt.flatMap (·.chars t) <
          decimal.write f.width (t'.get f) ++ fmt.flatMap (·.chars t') ↔
        t.get f :: t.numbers fmt < t'.get f :: t'.numbers fmt
      rw [append_lt_append_iff (by simp), decimal.write_lt_write_iff hlt hlt', heq, ih,
        List.cons_lt_cons_iff]

/-- Different points in time have different texts. -/
theorem Printable.strftime_injective {t t' : DateTime} (h : t.Printable) (h' : t'.Printable)
    {fmt : List Directive} (hfill : ∀ t : DateTime, t.fill fmt ⟨1900, 1, 1, 0, 0, 0⟩ = t)
    (heq : strftime fmt t = strftime fmt t') : t = t' := by
  have hread := h.strptime_strftime (hfill t)
  rw [heq, h'.strptime_strftime (hfill t')] at hread
  exact (Option.some.inj hread).symm

end DateTime
