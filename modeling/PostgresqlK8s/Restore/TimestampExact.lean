import PostgresqlK8s.Restore.TimestampRead

/-!
# Restore.TimestampExact

Which points in time a restore accepts.  A text has the form of a point in time
in one way only (`text_injective`), so that what it denotes decides what the
check and the parser come to.
-/

namespace PostgresqlK8s.Restore

open Backups Numerals Pattern

/-- A text is validated exactly: the check raises nothing, it accepts the text
if it denotes a point in time, and that is what is read of it. -/
structure ValidatedExactly (text : String) : Prop where
  returns : ∃ valid, isPsqlTimestamp text = .ok valid
  valid_iff : isPsqlTimestamp text = .ok true ↔ ∃ instant, Denotes text instant
  parses : ∀ instant, Denotes text instant → parsePsqlTimestamp text = .ok instant

/-- The point in time is within the years 1 to 9999 in UTC, and an offset of
less than a day has less than sixty minutes. -/
structure Representable (text : String) : Prop where
  inRange : ∀ s, HasForm text s → s.Valid →
    minMicroseconds ≤ s.instant ∧ s.instant < maxMicroseconds
  minutesInHour : ∀ s, HasForm text s → s.dateTime.isValid = true →
    s.offsetValue.natAbs < 24 * 60 → ∀ o ∈ s.offset, o.minuteValue ≤ 59

namespace TimestampText

variable {s : TimestampText}

/-! ## one text has one reading -/

theorem offsetText_injective {o o' : Option OffsetText}
    (ho : ∀ x ∈ o, x.WellFormed Char.isDigit) (ho' : ∀ x ∈ o', x.WellFormed Char.isDigit)
    (heq : offsetText o = offsetText o') : o = o' := by
  cases o with
  | none =>
    cases o' with
    | none => rfl
    | some x' => cases heq
  | some x =>
    cases o' with
    | none => cases heq
    | some x' =>
      obtain ⟨sign, hours, minutes⟩ := x
      obtain ⟨sign', hours', minutes'⟩ := x'
      obtain ⟨-, hhours, hminutes⟩ := ho _ rfl
      obtain ⟨-, hhours', hminutes'⟩ := ho' _ rfl
      obtain ⟨hsign, hrest⟩ := List.cons.inj heq
      obtain ⟨rfl, htext⟩ := List.append_inj hrest (hhours.1.trans hhours'.1.symm)
      have hcolon : ∀ {l l'}, Chars Char.isDigit 2 l → l = ':' :: l' → False := by
        rintro l l' hl rfl
        exact absurd (hl.2 ':' List.mem_cons_self) (by decide)
      obtain rfl : sign = sign' := hsign
      have hform : minutes = minutes' := by
        cases minutes <;> cases minutes'
        · rfl
        · next m => exact absurd (hminutes'.1) (by rw [← (show [] = m from htext)]; decide)
        · cases htext
        · next m => exact absurd (hminutes.1) (by rw [show m = [] from htext]; decide)
        · next m m' => rw [show m = m' from htext]
        · next m m' => exact (hcolon hminutes htext).elim
        · cases htext
        · next m m' => exact (hcolon hminutes' htext.symm).elim
        · next m m' => rw [(List.cons.inj htext).2]
      rw [hform]

/-- No digit starts an offset. -/
theorem not_isDigit_head_offsetText {o : Option OffsetText}
    (ho : ∀ x ∈ o, x.WellFormed Char.isDigit) : ∀ c ∈ (offsetText o).head?, c.isDigit = false := by
  cases o with
  | none => simp [offsetText]
  | some x =>
    intro c hc
    obtain rfl : x.sign = c := by simpa [offsetText, OffsetText.text] using hc
    have hsign := (ho x rfl).sign
    by_contra hd
    rw [Bool.not_eq_false] at hd
    rw [not_isSign_of_isDecimal (isDecimal_of_isDigit hd)] at hsign
    cases hsign

theorem takeWhile_digits {ds cs : List Char} (hds : ∀ d ∈ ds, d.isDigit = true)
    (hcs : ∀ c ∈ cs.head?, c.isDigit = false) : (ds ++ cs).takeWhile Char.isDigit = ds := by
  rw [List.takeWhile_append_of_pos hds]
  cases cs with
  | nil => simp
  | cons c cs => simp [hcs c rfl]

theorem fractionText_append_injective {f f' : Option (List Char)} {o o' : Option OffsetText}
    (hf : ∀ ds ∈ f, ∀ c ∈ ds, c.isDigit = true) (hf' : ∀ ds ∈ f', ∀ c ∈ ds, c.isDigit = true)
    (ho : ∀ x ∈ o, x.WellFormed Char.isDigit) (ho' : ∀ x ∈ o', x.WellFormed Char.isDigit)
    (heq : fractionText f ++ offsetText o = fractionText f' ++ offsetText o') :
    f = f' ∧ offsetText o = offsetText o' := by
  have hdot : ∀ {x : Option OffsetText} {l : List Char}, (∀ y ∈ x, y.WellFormed Char.isDigit) →
      offsetText x = '.' :: l → False := by
    intro x l hx htext
    cases x with
    | none => cases htext
    | some y =>
      have hsign := (hx y rfl).sign
      rw [(List.cons.inj htext).1] at hsign
      cases hsign
  cases f with
  | none =>
    cases f' with
    | none => exact ⟨rfl, heq⟩
    | some ds' => exact (hdot ho heq).elim
  | some ds =>
    cases f' with
    | none => exact (hdot ho' heq.symm).elim
    | some ds' =>
      have htail : ds ++ offsetText o = ds' ++ offsetText o' := (List.cons.inj heq).2
      have htake := congrArg (List.takeWhile Char.isDigit) htail
      rw [takeWhile_digits (hf ds rfl) (not_isDigit_head_offsetText ho),
        takeWhile_digits (hf' ds' rfl) (not_isDigit_head_offsetText ho')] at htake
      rw [htake] at htail ⊢
      exact ⟨rfl, List.append_cancel_left htail⟩

/-- A text is of the form in one way only. -/
theorem text_injective {s' : TimestampText} (h : s.WellFormed Char.isDigit)
    (h' : s'.WellFormed Char.isDigit) (heq : s.text = s'.text) : s = s' := by
  have hs := text_append s []
  have hs' := text_append s' []
  rw [List.append_nil, List.append_nil] at hs hs'
  rw [hs, hs'] at heq
  obtain ⟨hyear, heq⟩ := List.append_inj heq (h.year.1.trans h'.year.1.symm)
  obtain ⟨hmonth, heq⟩ := List.append_inj (List.cons.inj heq).2 (h.month.1.trans h'.month.1.symm)
  obtain ⟨hday, heq⟩ := List.append_inj (List.cons.inj heq).2 (h.day.1.trans h'.day.1.symm)
  obtain ⟨hhour, heq⟩ := List.append_inj (List.cons.inj heq).2 (h.hour.1.trans h'.hour.1.symm)
  obtain ⟨hminute, heq⟩ :=
    List.append_inj (List.cons.inj heq).2 (h.minute.1.trans h'.minute.1.symm)
  obtain ⟨hsecond, heq⟩ :=
    List.append_inj (List.cons.inj heq).2 (h.second.1.trans h'.second.1.symm)
  obtain ⟨hfraction, heq⟩ := fractionText_append_injective
    (fun ds hds => (h.fraction ds hds).2.2) (fun ds hds => (h'.fraction ds hds).2.2)
    h.offset h'.offset heq
  have hoffset := offsetText_injective h.offset h'.offset heq
  cases s
  cases s'
  simp only at hyear hmonth hday hhour hminute hsecond hfraction hoffset
  rw [hyear, hmonth, hday, hhour, hminute, hsecond, hfraction, hoffset]

/-! ## what a text of the form comes to -/

/-- A fraction is less than a second. -/
theorem microseconds_lt (h : s.WellFormed Char.isDigit) : s.microseconds < 1000000 := by
  rw [microseconds]
  cases hfraction : s.fraction with
  | none => decide
  | some ds =>
    obtain ⟨-, hlen, hds⟩ := h.fraction ds hfraction
    have hlt : decimal.value ds < 10 ^ ds.length := decimal.value_lt hds
    have hpow : 10 ^ ds.length * 10 ^ (6 - ds.length) = 1000000 := by
      rw [← Nat.pow_add, Nat.add_sub_cancel' hlen]
    rw [fractionValue, ← hpow]
    exact Nat.mul_lt_mul_of_pos_right hlt (Nat.pow_pos (by decide))

/-- Without an offset the point in time is within the years 1 to 9999. -/
theorem instant_bounds_of_offsetValue (h : s.WellFormed Char.isDigit)
    (hvalid : s.dateTime.isValid = true) (hoffset : s.offsetValue = 0) :
    minMicroseconds ≤ s.instant ∧ s.instant < maxMicroseconds := by
  have hyear : s.dateTime.year < 10 ^ s.year.length := decimal.value_lt h.year.2
  rw [h.year.1] at hyear
  have hbounds := (DateTime.isValid_iff.1 hvalid).toSeconds_bounds (by omega)
  have hmicro := s.microseconds_lt h
  rw [instant, hoffset, minMicroseconds, maxMicroseconds]
  omega

theorem offsetInDay_isoOffset (s : TimestampText) :
    offsetInDay s.isoOffset = true ↔ s.offsetValue.natAbs < 24 * 60 := by
  rw [isoOffset, offsetValue]
  cases s.offset with
  | none => simp [offsetInDay]
  | some o =>
    have habs : (o.value * 60000000).natAbs = o.value.natAbs * 60000000 := Int.natAbs_mul _ _
    rw [Option.map_some, Option.map_some, offsetInDay, decide_eq_true_eq, habs, dayMicroseconds,
      Option.getD_some]
    omega

theorem natAbs_offsetValue {o : OffsetText} (ho : s.offset = some o) :
    s.offsetValue.natAbs = decimal.value o.hours * 60 + o.minuteValue := by
  rw [offsetValue, ho, Option.map_some, Option.getD_some, OffsetText.value,
    ← OffsetText.magnitude]
  split <;> omega

/-- The fields of a valid point in time are those that are read. -/
theorem valid_iff (s : TimestampText) : s.Valid ↔ s.dateTime.isValid = true ∧
    s.offsetValue.natAbs < 24 * 60 ∧ ∀ o ∈ s.offset, o.minuteValue ≤ 59 := by
  cases hoffset : s.offset with
  | none =>
    have hzero : s.offsetValue = 0 := by rw [offsetValue, hoffset]; rfl
    constructor
    · intro h
      exact ⟨h.dateTime, by omega, by simp⟩
    · rintro ⟨hvalid, -, -⟩
      exact ⟨hvalid, by simp [hoffset], by simp [hoffset]⟩
  | some o =>
    have habs := natAbs_offsetValue hoffset
    simp only [Option.mem_some_iff, forall_eq']
    constructor
    · intro h
      have hhours := h.hours o hoffset
      have hminutes := h.minutes o hoffset
      exact ⟨h.dateTime, by omega, hminutes⟩
    · rintro ⟨hvalid, hlt, hminutes⟩
      refine ⟨hvalid, ?_, ?_⟩ <;> rw [hoffset] <;> rintro x ⟨⟩
      · omega
      · exact hminutes

/-- The fields are those of a point in time, and the offset is less than a
day. -/
def Readable (s : TimestampText) : Prop :=
  s.dateTime.isValid = true ∧ s.offsetValue.natAbs < 24 * 60

/-- The point in time is within the years 1 to 9999 in UTC. -/
def InRange (s : TimestampText) : Prop :=
  minMicroseconds ≤ s.instant ∧ s.instant < maxMicroseconds

section Outcomes

variable {text : String} (h : HasForm text s)
include h

theorem fromIsoFormat_eq : fromIsoFormat (normalise text.toList) =
    if s.dateTime.isValid && offsetInDay s.isoOffset then
      some ⟨s.dateTime, s.microseconds, s.isoOffset⟩
    else none := by
  have hnormal := s.normalise_text h.1.isDecimal (.inl rfl)
  rw [List.append_nil, ← h.2] at hnormal
  rw [hnormal, fromIsoFormat_of_ascii h.1]

theorem isMatch_of_hasForm : psqlTimestampPattern.isMatch text.toList = true :=
  isMatch_iff.2 ⟨s, [], h.1.isDecimal, .inl rfl, by rw [h.2, List.append_nil]⟩

/-- Nothing is read of other fields. -/
theorem outcome_of_not_readable (hread : ¬s.Readable) :
    parsePsqlTimestamp text = .error (.valueError "Invalid isoformat string") ∧
      isPsqlTimestamp text = .ok false := by
  have hparse : parsePsqlTimestamp text = .error (.valueError "Invalid isoformat string") := by
    rw [parsePsqlTimestamp, fromIsoFormat_eq h, if_neg]
    rw [Bool.and_eq_true, offsetInDay_isoOffset]
    exact hread
  refine ⟨hparse, ?_⟩
  rw [isPsqlTimestamp, isMatch_of_hasForm h, hparse]
  rfl

/-- What is read is moved to UTC, if it has an offset. -/
theorem parsePsqlTimestamp_of_readable (hread : s.Readable) :
    parsePsqlTimestamp text =
      if s.offsetValue = 0 then .ok s.instant
      else if minMicroseconds ≤ s.instant ∧ s.instant < maxMicroseconds then .ok s.instant
      else .error overflowError := by
  have hinstant : (IsoDateTime.mk s.dateTime s.microseconds s.isoOffset).instant = s.instant := by
    rw [IsoDateTime.instant, instant, offsetValue, isoOffset]
    cases s.offset <;> rfl
  have hzero : (s.isoOffset = none ∨ s.isoOffset = some 0) ↔ s.offsetValue = 0 := by
    rw [isoOffset, offsetValue]
    cases s.offset with
    | none => simp
    | some o =>
      simp only [Option.map_some, reduceCtorEq, Option.some.injEq, false_or, Option.getD_some]
      omega
  rw [parsePsqlTimestamp, fromIsoFormat_eq h, if_pos]
  · simp only [IsoDateTime.toUtc, hinstant, hzero]
  · rw [Bool.and_eq_true, offsetInDay_isoOffset]
    exact hread

theorem outcome_of_inRange (hread : s.Readable) (hrange : s.InRange) :
    parsePsqlTimestamp text = .ok s.instant ∧ isPsqlTimestamp text = .ok true := by
  have hparse : parsePsqlTimestamp text = .ok s.instant := by
    rw [InRange] at hrange
    rw [parsePsqlTimestamp_of_readable h hread, if_pos hrange, ite_self]
  refine ⟨hparse, ?_⟩
  rw [isPsqlTimestamp, isMatch_of_hasForm h, hparse]
  rfl

/-- A point in time that leaves the years 1 to 9999 in UTC raises. -/
theorem outcome_of_not_inRange (hread : s.Readable) (hrange : ¬s.InRange) :
    parsePsqlTimestamp text = .error overflowError ∧
      isPsqlTimestamp text = .error overflowError := by
  have hoffset : s.offsetValue ≠ 0 := by
    intro hzero
    exact hrange (s.instant_bounds_of_offsetValue h.1 hread.1 hzero)
  have hparse : parsePsqlTimestamp text = .error overflowError := by
    rw [InRange] at hrange
    rw [parsePsqlTimestamp_of_readable h hread, if_neg hoffset, if_neg hrange]
  refine ⟨hparse, ?_⟩
  rw [isPsqlTimestamp, isMatch_of_hasForm h, hparse]
  rfl

end Outcomes

end TimestampText

/-- A text of no such form is not accepted. -/
theorem isPsqlTimestamp_of_not_hasForm {text : String} (h : ∀ s, ¬HasForm text s) :
    isPsqlTimestamp text = .ok false := by
  rw [isPsqlTimestamp]
  by_cases hmatch : psqlTimestampPattern.isMatch text.toList = true
  · obtain ⟨s, nl, hdecimal, hnl, htext⟩ := isMatch_iff.1 hmatch
    have hnot : ¬(s.WellFormed Char.isDigit ∧ nl = []) := by
      rintro ⟨hascii, rfl⟩
      exact h s ⟨hascii, by rw [htext, List.append_nil]⟩
    have hparse : parsePsqlTimestamp text = .error (.valueError "Invalid isoformat string") := by
      rw [parsePsqlTimestamp, htext, s.normalise_text hdecimal hnl,
        TimestampText.fromIsoFormat_of_not hdecimal hnl hnot]
    rw [hmatch, hparse]
    rfl
  · rw [Bool.not_eq_true] at hmatch
    rw [hmatch]
    rfl

/-! ## the validation -/

namespace HasForm

variable {text : String} {s : TimestampText} (h : HasForm text s)
include h

theorem unique {s' : TimestampText} (h' : HasForm text s') : s' = s :=
  TimestampText.text_injective h'.1 h.1 (h'.2.symm.trans h.2)

/-- What the text denotes is decided by its fields. -/
theorem denotes_iff (instant : Int) : Denotes text instant ↔ s.Valid ∧ s.instant = instant := by
  constructor
  · intro ⟨s', hs', hvalid, hinstant⟩
    rw [h.unique hs'] at hvalid hinstant
    exact ⟨hvalid, hinstant⟩
  · intro hvalid
    exact ⟨s, h, hvalid⟩

theorem exists_denotes_iff : (∃ instant, Denotes text instant) ↔ s.Valid := by
  constructor
  · intro ⟨instant, hdenotes⟩
    exact ((h.denotes_iff instant).1 hdenotes).1
  · intro hvalid
    exact ⟨s.instant, (h.denotes_iff s.instant).2 ⟨hvalid, rfl⟩⟩

theorem representable_iff : Representable text ↔ (s.Valid → s.InRange) ∧
    (s.Readable → ∀ o ∈ s.offset, o.minuteValue ≤ 59) := by
  constructor
  · intro hrep
    exact ⟨hrep.inRange s h, fun hread => hrep.minutesInHour s h hread.1 hread.2⟩
  · intro hrep
    refine ⟨fun s' hs' => ?_, fun s' hs' => ?_⟩
    · rw [h.unique hs']
      exact hrep.1
    · rw [h.unique hs']
      exact fun hdate hoffset => hrep.2 ⟨hdate, hoffset⟩

theorem validates_iff : ValidatedExactly text ↔ (∃ valid, isPsqlTimestamp text = .ok valid) ∧
    (isPsqlTimestamp text = .ok true ↔ s.Valid) ∧
      (s.Valid → parsePsqlTimestamp text = .ok s.instant) := by
  constructor
  · intro hexact
    exact ⟨hexact.returns, hexact.valid_iff.trans h.exists_denotes_iff,
      fun hvalid => hexact.parses _ ((h.denotes_iff _).2 ⟨hvalid, rfl⟩)⟩
  · intro ⟨hreturns, hiff, hparses⟩
    refine ⟨hreturns, hiff.trans h.exists_denotes_iff.symm, fun instant hdenotes => ?_⟩
    obtain ⟨hvalid, rfl⟩ := (h.denotes_iff instant).1 hdenotes
    exact hparses hvalid

end HasForm

/-- A text is validated exactly when the point in time it denotes is within the
years 1 to 9999 in UTC, and its offset has less than sixty minutes where it is
less than a day. -/
theorem validatedExactly_iff (text : String) : ValidatedExactly text ↔ Representable text := by
  by_cases hform : ∃ s, HasForm text s
  · obtain ⟨s, hs⟩ := hform
    have hvalid : s.Valid ↔ s.Readable ∧ ∀ o ∈ s.offset, o.minuteValue ≤ 59 := by
      rw [s.valid_iff, TimestampText.Readable, and_assoc]
    rw [hs.validates_iff, hs.representable_iff, hvalid]
    by_cases hread : s.Readable
    · by_cases hrange : s.InRange
      · obtain ⟨hparse, his⟩ := TimestampText.outcome_of_inRange hs hread hrange
        rw [hparse, his]
        simp [hread, hrange]
      · obtain ⟨-, his⟩ := TimestampText.outcome_of_not_inRange hs hread hrange
        rw [his]
        refine iff_of_false (by simp) ?_
        intro ⟨hin, hminutes⟩
        exact hrange (hin ⟨hread, hminutes hread⟩)
    · obtain ⟨-, his⟩ := TimestampText.outcome_of_not_readable hs hread
      rw [his]
      exact iff_of_true ⟨⟨false, rfl⟩, by simp [hread], fun h => absurd h.1 hread⟩
        ⟨fun h => absurd h.1 hread, fun h => absurd h hread⟩
  · push Not at hform
    have hfalse := isPsqlTimestamp_of_not_hasForm hform
    refine iff_of_true ⟨⟨false, hfalse⟩, ?_, ?_⟩ ⟨?_, ?_⟩
    · rw [hfalse]
      simp [Denotes, hform]
    · intro instant ⟨s, hs, _⟩
      exact absurd hs (hform s)
    · exact fun s hs => absurd hs (hform s)
    · exact fun s hs => absurd hs (hform s)

/-- The first hour of the year 1, one hour ahead of UTC. -/
theorem not_validatedExactly_year_one : ¬∀ text, ValidatedExactly text := by
  intro h
  have hraises : isPsqlTimestamp "0001-01-01 00:00:00+01" = .error overflowError := by rfl
  obtain ⟨valid, hvalid⟩ := (h "0001-01-01 00:00:00+01").returns
  rw [hraises] at hvalid
  cases hvalid

end PostgresqlK8s.Restore
