import Mathlib.Data.List.TakeWhile
import PostgresqlK8s.Restore.TimestampNormal

/-!
# Restore.TimestampRead

What is read of the text that the substitutions leave: its fields, if its
digits are ASCII and no newline follows them (`fromIsoFormat_of_ascii`), and
otherwise nothing (`fromIsoFormat_of_not`).
-/

namespace PostgresqlK8s.Restore

open Backups Numerals Pattern

/-! ## what is read -/

/-- As many digits as asked for are read as their number, if they are ASCII. -/
theorem readDigits_append {n : Nat} {ds : List Char} (hlen : ds.length = n) (rest : List Char) :
    readDigits n (ds ++ rest) =
      if decimal.AllDigits ds then some (decimal.value ds, rest) else none := by
  rw [readDigits, ← hlen, DateTime.readShape_replicate]
  rfl

theorem readNumber_eq (ds : List Char) :
    readNumber ds = if decimal.AllDigits ds then some (decimal.value ds) else none := by
  have h : readDigits ds.length (ds ++ []) = _ := readDigits_append rfl []
  rw [List.append_nil] at h
  rw [readNumber, h]
  split <;> rfl

/-- `hh:mm:ss` and what is read of the fraction behind it. -/
theorem readIsoTime_append {hour minute second : List Char} (hhour : hour.length = 2)
    (hminute : minute.length = 2) (hsecond : second.length = 2) (tail : List Char) :
    readIsoTime (hour ++ ':' :: (minute ++ ':' :: (second ++ tail))) =
      if decimal.AllDigits hour ∧ decimal.AllDigits minute ∧ decimal.AllDigits second then
        (readIsoFraction tail).map fun microsecond =>
          ⟨decimal.value hour, decimal.value minute, decimal.value second, microsecond⟩
      else none := by
  rw [readIsoTime, readDigits_append hhour]
  by_cases h : decimal.AllDigits hour
  · rw [if_pos h]
    change readIsoMinutes (decimal.value hour) (':' :: (minute ++ ':' :: (second ++ tail))) = _
    rw [readIsoMinutes, readDigits_append hminute]
    by_cases hm : decimal.AllDigits minute
    · rw [if_pos hm]
      change readIsoSeconds (decimal.value hour) (decimal.value minute) (':' :: (second ++ tail)) = _
      rw [readIsoSeconds, readDigits_append hsecond]
      by_cases hs : decimal.AllDigits second
      · rw [if_pos hs, if_pos ⟨h, hm, hs⟩]
        cases hread : readIsoFraction tail <;> simp [hread]
      · rw [if_neg hs, if_neg fun hall => hs hall.2.2]
        rfl
    · rw [if_neg hm, if_neg fun hall => hm hall.2.1]
      rfl
  · rw [if_neg h, if_neg fun hall => h hall.1]
    rfl

/-- `hh:mm`, as it stands in an offset. -/
theorem readIsoTime_hours_minutes {hours minutes : List Char} (hhours : hours.length = 2)
    (hminutes : minutes.length = 2) :
    readIsoTime (hours ++ ':' :: minutes) =
      if decimal.AllDigits hours ∧ decimal.AllDigits minutes then
        some { hour := decimal.value hours, minute := decimal.value minutes }
      else none := by
  rw [readIsoTime, readDigits_append hhours]
  by_cases h : decimal.AllDigits hours
  · rw [if_pos h]
    have hread : readDigits 2 (minutes ++ []) = _ := readDigits_append hminutes []
    rw [List.append_nil] at hread
    change readIsoMinutes (decimal.value hours) (':' :: minutes) = _
    rw [readIsoMinutes, hread]
    by_cases hm : decimal.AllDigits minutes
    · rw [if_pos hm, if_pos ⟨h, hm⟩]
      rfl
    · rw [if_neg hm, if_neg fun hall => hm hall.2]
      rfl
  · rw [if_neg h, if_neg fun hall => h hall.1]
    rfl

theorem length_fillZeros {ds : List Char} (h : ds.length ≤ 6) : (fillZeros ds).length = 6 := by
  rw [fillZeros, List.length_append, List.length_replicate]
  omega

theorem allDigits_fillZeros {ds : List Char} :
    decimal.AllDigits (fillZeros ds) ↔ decimal.AllDigits ds := by
  have hzeros : ∀ n, decimal.AllDigits (List.replicate n '0') := by
    intro n c hc
    rw [List.eq_of_mem_replicate hc]
    decide
  simp only [fillZeros, AllDigits, List.mem_append]
  constructor
  · exact fun h c hc => h c (.inl hc)
  · intro h c hc
    exact hc.elim (h c) (hzeros _ c)

theorem value_fillZeros (ds : List Char) :
    decimal.value (fillZeros ds) = decimal.value ds * 10 ^ (6 - ds.length) := by
  have hzeros : ∀ n, decimal.value (List.replicate n '0') = 0 := by
    intro n
    induction n with
    | zero => rfl
    | succ n ih =>
      have hzero : decimal.digit '0' = 0 := rfl
      rw [List.replicate_succ, value_cons, ih, hzero, Nat.zero_mul]
  rw [fillZeros, value_append, hzeros, List.length_replicate]
  rfl

/-- A fraction of six digits is read, and nothing with a newline. -/
theorem readIsoFraction_text {f : Option (List Char)} (hf : ∀ ds ∈ f, ds.length ≤ 6)
    {nl : List Char} (hnl : nl = [] ∨ nl = ['\n']) :
    readIsoFraction (fractionText (f.map fillZeros) ++ nl) =
      if nl = [] ∧ ∀ ds ∈ f, decimal.AllDigits ds then
        some (fractionValue f)
      else none := by
  cases f with
  | none => rcases hnl with rfl | rfl <;> simp [fractionText, readIsoFraction, fractionValue]
  | some ds =>
    have hlen := length_fillZeros (hf ds rfl)
    simp only [Option.map_some, fractionText, List.cons_append, readIsoFraction,
      List.length_append, hlen, Option.mem_some_iff, forall_eq']
    rcases hnl with rfl | rfl
    · simp only [List.length_nil, List.append_nil, readNumber_eq, allDigits_fillZeros,
        value_fillZeros, true_and]
      rfl
    · simp

/-- What is read of the minutes of an offset. -/
theorem OffsetMinutes.normalText_spec {m : OffsetMinutes} (h : m.WellFormed isDecimal) :
    m.normalText.length = 2 ∧ (decimal.AllDigits m.normalText ↔ decimal.AllDigits m.chars) ∧
      decimal.value m.normalText = decimal.value m.chars := by
  cases m with
  | absent => exact ⟨rfl, by decide, rfl⟩
  | joined minutes => exact ⟨h.1, Iff.rfl, rfl⟩
  | afterColon minutes => exact ⟨h.1, Iff.rfl, rfl⟩

/-- The digits of an offset are ASCII. -/
def OffsetText.Ascii (o : OffsetText) : Prop :=
  decimal.AllDigits o.hours ∧ decimal.AllDigits o.minutes.chars

instance (o : OffsetText) : Decidable o.Ascii := inferInstanceAs (Decidable (_ ∧ _))

/-- An offset is read up to the end, and nothing with a newline. -/
theorem readIsoOffset_text {o : OffsetText} (ho : o.WellFormed isDecimal) {nl : List Char}
    (hnl : nl = [] ∨ nl = ['\n']) :
    readIsoOffset (normalOffsetText o ++ nl) =
      if nl = [] ∧ o.Ascii then some (some (o.value * 60000000)) else none := by
  obtain ⟨hlen, hascii, hvalue⟩ := OffsetMinutes.normalText_spec ho.minutes
  have htext : normalOffsetText o ++ nl =
      o.sign :: (o.hours ++ ':' :: (o.minutes.normalText ++ nl)) := by
    simp [normalOffsetText]
  rw [htext, readIsoOffset]
  rcases hnl with rfl | rfl
  · have hfive : (o.hours ++ ':' :: (o.minutes.normalText ++ [])).length = 5 := by
      simp [hlen, ho.hours.1]
    rw [if_pos (.inl hfive), List.append_nil, readIsoTime_hours_minutes ho.hours.1 hlen]
    by_cases h : o.Ascii
    · rw [if_pos ⟨h.1, hascii.2 h.2⟩, if_pos ⟨rfl, h⟩, hvalue]
      have hmicro : ((IsoTime.mk (decimal.value o.hours) (decimal.value o.minutes.chars) 0
          0).microseconds : Int) = (o.magnitude : Int) * 60000000 := by
        simp only [IsoTime.microseconds, OffsetText.magnitude, OffsetText.minuteValue]
        push_cast
        ring
      rw [Option.map_some, hmicro, OffsetText.value]
      by_cases hsign : o.sign = '-'
      · simp only [if_pos hsign, Int.neg_mul]
      · simp only [if_neg hsign]
    · rw [if_neg fun hall => h ⟨hall.1, hascii.1 hall.2⟩, if_neg fun hall => h hall.2]
      rfl
  · have hsix : (o.hours ++ ':' :: (o.minutes.normalText ++ ['\n'])).length = 6 := by
      simp [hlen, ho.hours.1]
    rw [if_neg (by omega), if_neg (by simp)]

namespace TimestampText

variable {s : TimestampText}

/-- The digits of the time, the fraction and the offset are ASCII. -/
structure AsciiClock (s : TimestampText) : Prop where
  hour : decimal.AllDigits s.hour
  minute : decimal.AllDigits s.minute
  second : decimal.AllDigits s.second
  fraction : ∀ ds ∈ s.fraction, decimal.AllDigits ds
  offset : ∀ o ∈ s.offset, o.Ascii

/-- The time of day that is read. -/
def isoTime (s : TimestampText) : IsoTime :=
  ⟨decimal.value s.hour, decimal.value s.minute, decimal.value s.second, s.microseconds⟩

/-- The offset that is read. -/
def isoOffset (s : TimestampText) : Option Int := s.offset.map fun o => o.value * 60000000

theorem mem_fillZeros {ds : List Char} (h : ∀ d ∈ ds, isDecimal d = true) :
    ∀ c ∈ fillZeros ds, isDecimal c = true := by
  intro c hc
  rw [fillZeros, List.mem_append] at hc
  rcases hc with hc | hc
  · exact h c hc
  · rw [List.eq_of_mem_replicate hc]
    decide

/-- The time that is read has no sign in it. -/
theorem WellFormed.not_isSign_time (h : s.WellFormed isDecimal) :
    ∀ c ∈ s.timeText ++ fractionText (s.fraction.map fillZeros), isSign c = false := by
  rw [List.forall_mem_append]
  refine ⟨h.not_isSign_timeText, not_isSign_fractionText fun ds hds => ?_⟩
  obtain ⟨ds', hds', rfl⟩ := Option.mem_map.1 hds
  exact mem_fillZeros (h.fraction ds' hds').2.2

/-- The time that is read, with its fraction. -/
theorem readIsoTime_text (h : s.WellFormed isDecimal) {nl : List Char}
    (hnl : nl = [] ∨ nl = ['\n']) :
    readIsoTime (s.timeText ++ (fractionText (s.fraction.map fillZeros) ++ nl)) =
      if (decimal.AllDigits s.hour ∧ decimal.AllDigits s.minute ∧ decimal.AllDigits s.second) ∧
        nl = [] ∧ ∀ ds ∈ s.fraction, decimal.AllDigits ds then some s.isoTime else none := by
  have htime : s.timeText ++ (fractionText (s.fraction.map fillZeros) ++ nl) =
      s.hour ++ ':' :: (s.minute ++ ':' :: (s.second ++
        (fractionText (s.fraction.map fillZeros) ++ nl))) := by
    simp [timeText]
  rw [htime, readIsoTime_append h.hour.1 h.minute.1 h.second.1,
    readIsoFraction_text (fun ds hds => (h.fraction ds hds).2.1) hnl]
  by_cases hdigits : decimal.AllDigits s.hour ∧ decimal.AllDigits s.minute ∧
      decimal.AllDigits s.second
  · rw [if_pos hdigits]
    by_cases hfraction : nl = [] ∧ ∀ ds ∈ s.fraction, decimal.AllDigits ds
    · rw [if_pos hfraction, if_pos ⟨hdigits, hfraction⟩]
      rfl
    · rw [if_neg hfraction, if_neg fun hall => hfraction hall.2]
      rfl
  · rw [if_neg hdigits, if_neg fun hall => hdigits hall.1]

/-- Behind the date the text is split at the sign of the offset. -/
theorem readIsoClock_append {time rest : List Char} (htime : ∀ c ∈ time, isSign c = false)
    (hrest : ∀ c ∈ rest.head?, isSign c = true) :
    readIsoClock (' ' :: (time ++ rest)) = (readIsoTime time).bind fun time =>
      (readIsoOffset rest).map fun offset => (time, offset) := by
  have hall : ∀ c ∈ time, (!isSign c) = true := by
    intro c hc
    rw [htime c hc]
    rfl
  have hsplit : rest.takeWhile (!isSign ·) = [] ∧ rest.dropWhile (!isSign ·) = rest := by
    cases rest with
    | nil => exact ⟨rfl, rfl⟩
    | cons c rest =>
      have hstop : (!isSign c) = false := by
        rw [hrest c rfl]
        rfl
      rw [List.takeWhile_cons_of_neg (by simp [hstop]),
        List.dropWhile_cons_of_neg (by simp [hstop])]
      exact ⟨rfl, rfl⟩
  rw [readIsoClock, List.takeWhile_append_of_pos hall, List.dropWhile_append_of_pos hall,
    hsplit.1, hsplit.2, List.append_nil]
  cases readIsoTime time with
  | none => rfl
  | some time =>
    cases readIsoOffset rest with
    | none => rfl
    | some offset => rfl

/-- What is read behind the date, with an offset and without one. -/
theorem readIsoClock_eq (h : s.WellFormed isDecimal) {nl : List Char}
    (hnl : nl = [] ∨ nl = ['\n']) :
    readIsoClock (' ' :: (s.timeText ++ (normalTailText s ++ nl))) =
      match s.offset with
      | none =>
        (readIsoTime (s.timeText ++ (fractionText (s.fraction.map fillZeros) ++ nl))).map
          fun time => (time, none)
      | some o =>
        (readIsoTime (s.timeText ++ (fractionText (s.fraction.map fillZeros) ++ []))).bind
          fun time => (readIsoOffset (normalOffsetText o ++ nl)).map
            fun offset => (time, offset) := by
  have hsign := h.not_isSign_time
  cases hoffset : s.offset with
  | none =>
    have htail : s.timeText ++ (normalTailText s ++ nl) =
        ((s.timeText ++ fractionText (s.fraction.map fillZeros)) ++ nl) ++ [] := by
      simp [normalTailText, hoffset]
    have hall : ∀ c ∈ (s.timeText ++ fractionText (s.fraction.map fillZeros)) ++ nl,
        isSign c = false := by
      rw [List.forall_mem_append]
      exact ⟨hsign, isSign_of_newline hnl⟩
    rw [htail, readIsoClock_append hall (by simp), List.append_assoc]
    cases readIsoTime (s.timeText ++ (fractionText (s.fraction.map fillZeros) ++ nl)) with
    | none => rfl
    | some time => rfl
  | some o =>
    have htail : s.timeText ++ (normalTailText s ++ nl) =
        (s.timeText ++ fractionText (s.fraction.map fillZeros)) ++ (normalOffsetText o ++ nl) := by
      simp [normalTailText, hoffset]
    have hhead : ∀ c ∈ (normalOffsetText o ++ nl).head?, isSign c = true := by
      intro c hc
      obtain rfl : o.sign = c := by simpa [normalOffsetText] using hc
      exact (h.offset o hoffset).sign
    rw [htail, readIsoClock_append hsign hhead]
    dsimp only
    rw [List.append_nil]

theorem readIsoClock_of_ascii (h : s.WellFormed isDecimal) (hascii : s.AsciiClock) :
    readIsoClock (' ' :: (s.timeText ++ (normalTailText s ++ []))) =
      some (s.isoTime, s.isoOffset) := by
  have hdigits : (decimal.AllDigits s.hour ∧ decimal.AllDigits s.minute ∧
      decimal.AllDigits s.second) ∧ ([] : List Char) = [] ∧
        ∀ ds ∈ s.fraction, decimal.AllDigits ds :=
    ⟨⟨hascii.hour, hascii.minute, hascii.second⟩, rfl, hascii.fraction⟩
  rw [readIsoClock_eq h (.inl rfl), readIsoTime_text h (.inl rfl), if_pos hdigits, isoOffset]
  cases hoffset : s.offset with
  | none => rfl
  | some o =>
    have hoffset' : readIsoOffset (normalOffsetText o ++ []) = some (some (o.value * 60000000)) := by
      rw [readIsoOffset_text (h.offset o hoffset) (.inl rfl),
        if_pos ⟨rfl, hascii.offset o hoffset⟩]
    simp only [hoffset']
    rfl

theorem readIsoClock_of_not (h : s.WellFormed isDecimal) {nl : List Char}
    (hnl : nl = [] ∨ nl = ['\n']) (hnot : ¬(s.AsciiClock ∧ nl = [])) :
    readIsoClock (' ' :: (s.timeText ++ (normalTailText s ++ nl))) = none := by
  rw [readIsoClock_eq h hnl]
  cases hoffset : s.offset with
  | none =>
    have hdigits : ¬((decimal.AllDigits s.hour ∧ decimal.AllDigits s.minute ∧
        decimal.AllDigits s.second) ∧ nl = [] ∧ ∀ ds ∈ s.fraction, decimal.AllDigits ds) := by
      rintro ⟨⟨hhour, hminute, hsecond⟩, hnil, hfraction⟩
      exact hnot ⟨⟨hhour, hminute, hsecond, hfraction, by simp [hoffset]⟩, hnil⟩
    simp only [readIsoTime_text h hnl]
    rw [if_neg hdigits]
    rfl
  | some o =>
    by_cases hoascii : nl = [] ∧ o.Ascii
    · have htime : readIsoTime (s.timeText ++ (fractionText (s.fraction.map fillZeros) ++ [])) =
          none := by
        rw [readIsoTime_text h (.inl rfl), if_neg]
        rintro ⟨⟨hhour, hminute, hsecond⟩, -, hfraction⟩
        refine hnot ⟨⟨hhour, hminute, hsecond, hfraction, ?_⟩, hoascii.1⟩
        intro o' ho'
        rw [hoffset, Option.mem_some_iff] at ho'
        exact ho' ▸ hoascii.2
      simp only [htime]
      rfl
    · have hread : readIsoOffset (normalOffsetText o ++ nl) = none := by
        rw [readIsoOffset_text (h.offset o hoffset) hnl, if_neg hoascii]
      simp only [hread]
      cases readIsoTime (s.timeText ++ (fractionText (s.fraction.map fillZeros) ++ [])) <;> rfl

theorem WellFormed.isDecimal (h : s.WellFormed Char.isDigit) : s.WellFormed isDecimal := by
  have hchars : ∀ {n l}, Chars Char.isDigit n l → Chars Pattern.isDecimal n l :=
    fun hl => ⟨hl.1, fun c hc => isDecimal_of_isDigit (hl.2 c hc)⟩
  refine ⟨hchars h.year, hchars h.month, hchars h.day, hchars h.hour, hchars h.minute,
    hchars h.second, ?_, ?_⟩
  · intro ds hds
    obtain ⟨hpos, hlen, hdigits⟩ := h.fraction ds hds
    exact ⟨hpos, hlen, fun d hd => isDecimal_of_isDigit (hdigits d hd)⟩
  · intro o ho
    have hwell := h.offset o ho
    obtain ⟨hform, hdigits⟩ := OffsetMinutes.wellFormed_iff.1 hwell.minutes
    exact ⟨hwell.sign, hchars hwell.hours,
      OffsetMinutes.wellFormed_iff.2 ⟨hform, fun c hc => isDecimal_of_isDigit (hdigits c hc)⟩⟩

/-- A text of the form is one in decimal digits that are all ASCII. -/
theorem wellFormed_isDigit_iff (h : s.WellFormed Pattern.isDecimal) :
    s.WellFormed Char.isDigit ↔ decimal.AllDigits s.year ∧ decimal.AllDigits s.month ∧
      decimal.AllDigits s.day ∧ s.AsciiClock := by
  constructor
  · intro hascii
    refine ⟨hascii.year.2, hascii.month.2, hascii.day.2, hascii.hour.2, hascii.minute.2,
      hascii.second.2, fun ds hds => (hascii.fraction ds hds).2.2, ?_⟩
    intro o ho
    have hwell := hascii.offset o ho
    exact ⟨hwell.hours.2, (OffsetMinutes.wellFormed_iff.1 hwell.minutes).2⟩
  · rintro ⟨hyear, hmonth, hday, hclock⟩
    refine ⟨⟨h.year.1, hyear⟩, ⟨h.month.1, hmonth⟩, ⟨h.day.1, hday⟩, ⟨h.hour.1, hclock.hour⟩,
      ⟨h.minute.1, hclock.minute⟩, ⟨h.second.1, hclock.second⟩, ?_, ?_⟩
    · intro ds hds
      obtain ⟨hpos, hlen, -⟩ := h.fraction ds hds
      exact ⟨hpos, hlen, hclock.fraction ds hds⟩
    · intro o ho
      have hwell := h.offset o ho
      obtain ⟨hhours, hminutes⟩ := hclock.offset o ho
      have hform := (OffsetMinutes.wellFormed_iff.1 hwell.minutes).1
      exact ⟨hwell.sign, ⟨hwell.hours.1, hhours⟩, OffsetMinutes.wellFormed_iff.2 ⟨hform, hminutes⟩⟩

theorem normalText_append (s : TimestampText) (nl : List Char) :
    s.normalText ++ nl = s.year ++ '-' :: (s.month ++ '-' :: (s.day ++
      ' ' :: (s.timeText ++ (normalTailText s ++ nl)))) := by
  simp [normalText, dateText]

/-- **What is read** of a text in ASCII digits. -/
theorem fromIsoFormat_of_ascii (h : s.WellFormed Char.isDigit) :
    fromIsoFormat (s.normalText ++ []) =
      if s.dateTime.isValid && offsetInDay s.isoOffset then
        some ⟨s.dateTime, s.microseconds, s.isoOffset⟩
      else none := by
  have hdecimal := h.isDecimal
  obtain ⟨hyear, hmonth, hday, hclock⟩ := (wellFormed_isDigit_iff hdecimal).1 h
  rw [normalText_append, fromIsoFormat, readDigits_append h.year.1, if_pos hyear]
  simp only [Option.bind_eq_bind, Option.bind_some, readChar, if_true]
  rw [readDigits_append h.month.1, if_pos hmonth]
  simp only [Option.bind_some, if_true]
  rw [readDigits_append h.day.1, if_pos hday]
  simp only [Option.bind_some]
  rw [readIsoClock_of_ascii hdecimal hclock]
  rfl

/-- Nothing is read of other digits, or of a text with a newline. -/
theorem fromIsoFormat_of_not (h : s.WellFormed Pattern.isDecimal) {nl : List Char}
    (hnl : nl = [] ∨ nl = ['\n']) (hnot : ¬(s.WellFormed Char.isDigit ∧ nl = [])) :
    fromIsoFormat (s.normalText ++ nl) = none := by
  rw [wellFormed_isDigit_iff h] at hnot
  rw [normalText_append, fromIsoFormat, readDigits_append h.year.1]
  by_cases hyear : decimal.AllDigits s.year
  · rw [if_pos hyear]
    simp only [Option.bind_eq_bind, Option.bind_some, readChar, if_true]
    rw [readDigits_append h.month.1]
    by_cases hmonth : decimal.AllDigits s.month
    · rw [if_pos hmonth]
      simp only [Option.bind_some, if_true]
      rw [readDigits_append h.day.1]
      by_cases hday : decimal.AllDigits s.day
      · rw [if_pos hday]
        simp only [Option.bind_some]
        rw [readIsoClock_of_not h hnl]
        · rfl
        · rintro ⟨hclock, hnil⟩
          exact hnot ⟨⟨hyear, hmonth, hday, hclock⟩, hnil⟩
      · rw [if_neg hday]
        rfl
    · rw [if_neg hmonth]
      rfl
  · rw [if_neg hyear]
    rfl

end TimestampText

end PostgresqlK8s.Restore
