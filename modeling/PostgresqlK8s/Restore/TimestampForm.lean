import PostgresqlK8s.Lib.DateTimeText
import PostgresqlK8s.Restore.Timestamp

/-!
# Restore.TimestampForm

The texts of points in time, and what they denote.  `TimestampText` holds the
characters of a point in time, field by field; it is written without the
regular expressions and substitutions of the code.

The regular expression accepts exactly such texts, over the decimal digits of
Unicode and with a newline at the end (`isMatch_iff`).
-/

namespace PostgresqlK8s.Restore

open Backups Numerals Pattern

/-! ## the texts of points in time -/

/-- The minutes of an offset: there are none, they follow the hours, or a
colon stands between the two. -/
inductive OffsetMinutes where
  | absent
  | joined (minutes : List Char)
  | afterColon (minutes : List Char)
deriving DecidableEq, Repr

structure OffsetText where
  sign : Char
  hours : List Char
  minutes : OffsetMinutes
deriving DecidableEq, Repr

/-- The characters of the fields of a point in time. -/
structure TimestampText where
  year : List Char
  month : List Char
  day : List Char
  hour : List Char
  minute : List Char
  second : List Char
  fraction : Option (List Char)
  offset : Option OffsetText
deriving DecidableEq, Repr

def OffsetMinutes.chars : OffsetMinutes → List Char
  | absent => []
  | joined minutes => minutes
  | afterColon minutes => minutes

def OffsetMinutes.text : OffsetMinutes → List Char
  | absent => []
  | joined minutes => minutes
  | afterColon minutes => ':' :: minutes

def OffsetText.text (o : OffsetText) : List Char := o.sign :: (o.hours ++ o.minutes.text)

/-- The date, with the blank behind it. -/
def TimestampText.dateText (s : TimestampText) : List Char :=
  s.year ++ '-' :: (s.month ++ '-' :: (s.day ++ [' ']))

def TimestampText.timeText (s : TimestampText) : List Char :=
  s.hour ++ ':' :: (s.minute ++ ':' :: s.second)

def fractionText : Option (List Char) → List Char
  | none => []
  | some ds => '.' :: ds

def offsetText : Option OffsetText → List Char
  | none => []
  | some o => o.text

/-- `YYYY-MM-DD hh:mm:ss[.ffffff][+hh[[:]mm]]` -/
def TimestampText.text (s : TimestampText) : List Char :=
  s.dateText ++ (s.timeText ++ (fractionText s.fraction ++ offsetText s.offset))

/-- So many characters of a class. -/
def Chars (p : Char → Bool) (n : Nat) (l : List Char) : Prop :=
  l.length = n ∧ ∀ c ∈ l, p c = true

def OffsetMinutes.WellFormed (p : Char → Bool) : OffsetMinutes → Prop
  | absent => True
  | joined minutes => Chars p 2 minutes
  | afterColon minutes => Chars p 2 minutes

/-- The minutes are absent, or two characters of the class. -/
theorem OffsetMinutes.wellFormed_iff {p : Char → Bool} {m : OffsetMinutes} :
    m.WellFormed p ↔ (m = .absent ∨ m.chars.length = 2) ∧ ∀ c ∈ m.chars, p c = true := by
  cases m <;> simp [WellFormed, chars, Chars]

structure OffsetText.WellFormed (p : Char → Bool) (o : OffsetText) : Prop where
  sign : isSign o.sign = true
  hours : Chars p 2 o.hours
  minutes : o.minutes.WellFormed p

/-- The fields are as long as the form says, in the digits of a class. -/
structure TimestampText.WellFormed (p : Char → Bool) (s : TimestampText) : Prop where
  year : Chars p 4 s.year
  month : Chars p 2 s.month
  day : Chars p 2 s.day
  hour : Chars p 2 s.hour
  minute : Chars p 2 s.minute
  second : Chars p 2 s.second
  fraction : ∀ ds ∈ s.fraction, 1 ≤ ds.length ∧ ds.length ≤ 6 ∧ ∀ c ∈ ds, p c = true
  offset : ∀ o ∈ s.offset, o.WellFormed p

/-! ## what they denote -/

/-- A fraction of a second in microseconds. -/
def fractionValue : Option (List Char) → Nat
  | none => 0
  | some ds => decimal.value ds * 10 ^ (6 - ds.length)

namespace TimestampText

def dateTime (s : TimestampText) : DateTime :=
  ⟨decimal.value s.year, decimal.value s.month, decimal.value s.day, decimal.value s.hour,
    decimal.value s.minute, decimal.value s.second⟩

def microseconds (s : TimestampText) : Nat := fractionValue s.fraction

end TimestampText

/-- The minutes that an offset adds to its hours. -/
def OffsetText.minuteValue (o : OffsetText) : Nat := decimal.value o.minutes.chars

/-- The hours and minutes of an offset, apart from its sign. -/
def OffsetText.magnitude (o : OffsetText) : Nat := decimal.value o.hours * 60 + o.minuteValue

/-- An offset in minutes. -/
def OffsetText.value (o : OffsetText) : Int :=
  if o.sign = '-' then -(o.magnitude : Int) else o.magnitude

namespace TimestampText

def offsetValue (s : TimestampText) : Int := (s.offset.map OffsetText.value).getD 0

/-- The point in time in UTC, in microseconds. -/
def instant (s : TimestampText) : Int :=
  s.dateTime.toSeconds * 1000000 + s.microseconds - s.offsetValue * 60000000

/-- A date and a time of the calendar, and an offset in hours and minutes. -/
structure Valid (s : TimestampText) : Prop where
  dateTime : s.dateTime.isValid = true
  hours : ∀ o ∈ s.offset, decimal.value o.hours ≤ 23
  minutes : ∀ o ∈ s.offset, o.minuteValue ≤ 59

end TimestampText

/-- The text is of the form of a point in time. -/
def HasForm (text : String) (s : TimestampText) : Prop :=
  s.WellFormed Char.isDigit ∧ text.toList = s.text

/-- The text denotes a point in time. -/
def Denotes (text : String) (instant : Int) : Prop :=
  ∃ s, HasForm text s ∧ s.Valid ∧ s.instant = instant

/-! ## what the regular expression accepts -/

theorem mem_rests_seqs_cons {P : Pattern} {Ps : List Pattern} {cs r : List Char} :
    r ∈ (seqs (P :: Ps)).rests cs ↔ ∃ m ∈ P.rests cs, r ∈ (seqs Ps).rests m := by
  rw [seqs, List.foldr_cons, mem_rests_seq]
  rfl

theorem mem_rests_digits {n : Nat} {cs r : List Char} :
    r ∈ (digits n).rests cs ↔ ∃ ds, Chars isDecimal n ds ∧ cs = ds ++ r := by
  rw [digits, mem_rests_times]
  simp only [Chars, and_assoc]

/-- What the pattern takes for a fraction. -/
theorem mem_rests_fractionPattern {cs r : List Char} :
    r ∈ fractionPattern.rests cs ↔ ∃ f : Option (List Char),
      (∀ ds ∈ f, 1 ≤ ds.length ∧ ds.length ≤ 6 ∧ ∀ c ∈ ds, isDecimal c = true) ∧
        cs = fractionText f ++ r := by
  rw [fractionPattern, mem_rests_opt]
  constructor
  · rintro (h | rfl)
    · simp only [mem_rests_seqs_cons, mem_rests_lit, mem_rests_char, mem_rests_atMost] at h
      obtain ⟨_, rfl, _, ⟨d, hd, rfl⟩, _, ⟨ds, hlen, hds, rfl⟩, h⟩ := h
      obtain rfl := mem_rests_empty.1 h
      refine ⟨some (d :: ds), fun l hl => ?_, rfl⟩
      rw [Option.mem_some_iff] at hl
      rw [← hl, List.length_cons, List.forall_mem_cons]
      exact ⟨by omega, by omega, hd, hds⟩
    · exact ⟨none, by simp, rfl⟩
  · rintro ⟨f, hf, rfl⟩
    cases f with
    | none => exact .inr rfl
    | some l =>
      obtain ⟨hpos, hlen, hl⟩ := hf l rfl
      cases l with
      | nil => simp at hpos
      | cons d ds =>
        rw [List.forall_mem_cons] at hl
        refine .inl ?_
        simp only [mem_rests_seqs_cons, mem_rests_lit, mem_rests_char, mem_rests_atMost]
        exact ⟨_, rfl, _, ⟨d, hl.1, rfl⟩, _, ⟨ds, Nat.le_of_succ_le_succ hlen, hl.2, rfl⟩,
          mem_rests_empty.2 rfl⟩

/-- Four digits are two and two. -/
theorem chars_append {p : Char → Bool} {n m : Nat} {l : List Char} :
    Chars p (n + m) l ↔ ∃ a b, Chars p n a ∧ Chars p m b ∧ l = a ++ b := by
  constructor
  · rintro ⟨hlen, hl⟩
    refine ⟨l.take n, l.drop n, ⟨?_, ?_⟩, ⟨?_, ?_⟩, (List.take_append_drop n l).symm⟩
    · rw [List.length_take]
      omega
    · exact fun c hc => hl c (List.mem_of_mem_take hc)
    · rw [List.length_drop]
      omega
    · exact fun c hc => hl c (List.mem_of_mem_drop hc)
  · rintro ⟨a, b, ⟨hlen, ha⟩, ⟨hlen', hb⟩, rfl⟩
    refine ⟨by rw [List.length_append, hlen, hlen'], ?_⟩
    intro c hc
    rw [List.mem_append] at hc
    exact hc.elim (ha c) (hb c)

/-- What may follow the sign of an offset. -/
theorem mem_rests_offsetDigits {cs r : List Char} :
    r ∈ (alt (digits 2) (alt (digits 4) (seqs [digits 2, lit ':', digits 2]))).rests cs ↔
      ∃ hours minutes, Chars isDecimal 2 hours ∧
        OffsetMinutes.WellFormed isDecimal minutes ∧ cs = hours ++ minutes.text ++ r := by
  rw [mem_rests_alt, mem_rests_alt, mem_rests_digits, mem_rests_digits]
  constructor
  · rintro (⟨hours, hhours, rfl⟩ | ⟨ds, hds, rfl⟩ | h)
    · exact ⟨hours, .absent, hhours, trivial, by simp [OffsetMinutes.text]⟩
    · have hfour : Chars isDecimal (2 + 2) ds := hds
      rw [chars_append] at hfour
      obtain ⟨hours, minutes, hhours, hminutes, rfl⟩ := hfour
      exact ⟨hours, .joined minutes, hhours, hminutes, rfl⟩
    · simp only [mem_rests_seqs_cons, mem_rests_digits, mem_rests_lit] at h
      obtain ⟨_, ⟨hours, hhours, rfl⟩, _, rfl, _, ⟨minutes, hminutes, rfl⟩, h⟩ := h
      obtain rfl := mem_rests_empty.1 h
      exact ⟨hours, .afterColon minutes, hhours, hminutes, by simp [OffsetMinutes.text]⟩
  · rintro ⟨hours, minutes, hhours, hminutes, rfl⟩
    cases minutes with
    | absent => exact .inl ⟨hours, hhours, by simp [OffsetMinutes.text]⟩
    | joined minutes =>
      refine .inr (.inl ⟨hours ++ minutes, ?_, rfl⟩)
      have hfour : Chars isDecimal (2 + 2) (hours ++ minutes) :=
        chars_append.2 ⟨hours, minutes, hhours, hminutes, rfl⟩
      exact hfour
    | afterColon minutes =>
      refine .inr (.inr ?_)
      simp only [mem_rests_seqs_cons, mem_rests_digits, mem_rests_lit]
      exact ⟨_, ⟨hours, hhours, List.append_assoc _ _ _⟩, _, rfl, r, ⟨minutes, hminutes, rfl⟩,
        mem_rests_empty.2 rfl⟩

/-- What the pattern takes for an offset. -/
theorem mem_rests_offsetPattern {cs r : List Char} :
    r ∈ offsetPattern.rests cs ↔ ∃ o : Option OffsetText,
      (∀ x ∈ o, x.WellFormed isDecimal) ∧ cs = offsetText o ++ r := by
  rw [offsetPattern, mem_rests_opt, mem_rests_seq]
  simp only [mem_rests_char, mem_rests_offsetDigits]
  constructor
  · rintro (⟨_, ⟨sign, hsign, rfl⟩, hours, minutes, hhours, hminutes, rfl⟩ | rfl)
    · refine ⟨some ⟨sign, hours, minutes⟩, ?_, rfl⟩
      intro x hx
      rw [Option.mem_some_iff] at hx
      rw [← hx]
      exact ⟨hsign, hhours, hminutes⟩
    · exact ⟨none, by simp, rfl⟩
  · rintro ⟨o, ho, rfl⟩
    cases o with
    | none => exact .inr rfl
    | some o =>
      have hwell := ho o rfl
      exact .inl ⟨_, ⟨o.sign, hwell.sign, rfl⟩, o.hours, o.minutes, hwell.hours, hwell.minutes, rfl⟩

theorem text_append (s : TimestampText) (rest : List Char) :
    s.text ++ rest = s.year ++ '-' :: (s.month ++ '-' :: (s.day ++ ' ' :: (s.hour ++ ':' ::
      (s.minute ++ ':' :: (s.second ++ (fractionText s.fraction ++
        (offsetText s.offset ++ rest))))))) := by
  simp [TimestampText.text, TimestampText.dateText, TimestampText.timeText]

/-- **The regular expression** accepts the texts of the form, in the decimal
digits of Unicode and with or without a newline behind them. -/
theorem isMatch_iff {cs : List Char} :
    psqlTimestampPattern.isMatch cs = true ↔ ∃ s nl, TimestampText.WellFormed isDecimal s ∧
      (nl = [] ∨ nl = ['\n']) ∧ cs = s.text ++ nl := by
  rw [Pattern.isMatch_iff, psqlTimestampPattern]
  simp only [mem_rests_seqs_cons, mem_rests_digits, mem_rests_lit, mem_rests_fractionPattern,
    mem_rests_offsetPattern, mem_rests_endOfText]
  constructor
  · rintro ⟨r, _, ⟨year, hyear, rfl⟩, _, rfl, _, ⟨month, hmonth, rfl⟩, _, rfl, _, ⟨day, hday, rfl⟩,
      _, rfl, _, ⟨hour, hhour, rfl⟩, _, rfl, _, ⟨minute, hminute, rfl⟩, _, rfl, _,
      ⟨second, hsecond, rfl⟩, _, ⟨fraction, hfraction, rfl⟩, _, ⟨offset, hoffset, rfl⟩, nl,
      ⟨rfl, hnl⟩, -⟩
    refine ⟨⟨year, month, day, hour, minute, second, fraction, offset⟩, _,
      ⟨hyear, hmonth, hday, hhour, hminute, hsecond, hfraction, hoffset⟩, hnl, ?_⟩
    rw [text_append]
  · rintro ⟨s, nl, h, hnl, rfl⟩
    rw [text_append]
    exact ⟨nl, _, ⟨s.year, h.year, rfl⟩, _, rfl, _, ⟨s.month, h.month, rfl⟩, _, rfl, _,
      ⟨s.day, h.day, rfl⟩, _, rfl, _, ⟨s.hour, h.hour, rfl⟩, _, rfl, _, ⟨s.minute, h.minute, rfl⟩,
      _, rfl, _, ⟨s.second, h.second, rfl⟩, _, ⟨s.fraction, h.fraction, rfl⟩, _,
      ⟨s.offset, h.offset, rfl⟩, nl, ⟨rfl, hnl⟩, mem_rests_empty.2 rfl⟩

end PostgresqlK8s.Restore
