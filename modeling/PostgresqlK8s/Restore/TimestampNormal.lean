import PostgresqlK8s.Restore.TimestampForm

/-!
# Restore.TimestampNormal

What the substitutions make of the text of a point in time: they act on the
offset and on the fraction and leave the rest alone (`normalise_text`).
-/

namespace PostgresqlK8s.Restore

open Backups Numerals Pattern

/-! ## what the substitutions do -/

def OffsetMinutes.normalText : OffsetMinutes → List Char
  | absent => ['0', '0']
  | joined minutes => minutes
  | afterColon minutes => minutes

/-- An offset in the form that is read. -/
def normalOffsetText (o : OffsetText) : List Char :=
  o.sign :: (o.hours ++ ':' :: o.minutes.normalText)

def normalTailText (s : TimestampText) : List Char :=
  fractionText (s.fraction.map fillZeros) ++ (s.offset.map normalOffsetText).getD []

/-- The text that is read. -/
def TimestampText.normalText (s : TimestampText) : List Char :=
  s.dateText ++ (s.timeText ++ normalTailText s)

theorem not_isSign_of_isDecimal {c : Char} (h : isDecimal c = true) : isSign c = false := by
  rw [isSign, Bool.or_eq_false_iff, beq_eq_false_iff_ne, beq_eq_false_iff_ne]
  constructor
  · rintro rfl
    exact absurd h (by decide)
  · rintro rfl
    exact absurd h (by decide)

theorem isDecimal_of_isSign {c : Char} (h : isSign c = true) : isDecimal c = false := by
  by_contra hd
  rw [Bool.not_eq_false] at hd
  rw [not_isSign_of_isDecimal hd] at h
  cases h

section Offsets

variable {f : List Char → List Char} {tail : List Pattern}

theorem offsetHoursPattern_eq :
    offsetHoursPattern = seqs (char isSign :: [digits 2, endOfText]) := rfl

theorem offsetMinutesPattern_eq :
    offsetMinutesPattern = seqs (char isSign :: [digits 2, digits 2, endOfText]) := rfl

/-- A match of an offset starts with a sign. -/
theorem rests_of_not_isSign {c : Char} {cs : List Char} (h : isSign c = false) :
    (seqs (char isSign :: tail)).rests (c :: cs) = [] := by
  rw [seqs, List.foldr_cons, rests, rests, if_neg (by simp [h]), List.flatMap_nil]

theorem length_of_mem_rests_offsetMinutes {cs r : List Char}
    (h : r ∈ offsetMinutesPattern.rests cs) : cs.length ≤ 6 := by
  simp only [offsetMinutesPattern, mem_rests_seqs_cons, mem_rests_char, mem_rests_digits,
    mem_rests_endOfText] at h
  obtain ⟨_, ⟨c, -, rfl⟩, _, ⟨a, ha, rfl⟩, _, ⟨b, hb, rfl⟩, m, ⟨rfl, hm⟩, -⟩ := h
  rcases hm with rfl | rfl <;> simp [ha.1, hb.1]

theorem length_of_mem_rests_offsetHours {cs r : List Char}
    (h : r ∈ offsetHoursPattern.rests cs) : cs.length ≤ 6 := by
  simp only [offsetHoursPattern, mem_rests_seqs_cons, mem_rests_char, mem_rests_digits,
    mem_rests_endOfText] at h
  obtain ⟨_, ⟨c, -, rfl⟩, _, ⟨a, ha, rfl⟩, m, ⟨rfl, hm⟩, -⟩ := h
  rcases hm with rfl | rfl <;> simp [ha.1]

/-- The offset is looked for behind the date, which is too far from the end,
and behind the time, which has no sign. -/
theorem sub_offset_text {P : Pattern} {date time rest : List Char}
    (hP : P = seqs (char isSign :: tail)) (hlen : ∀ cs r, r ∈ P.rests cs → cs.length ≤ 6)
    (htime : 6 ≤ time.length) (hsign : ∀ c ∈ time, isSign c = false) :
    P.sub f (date ++ (time ++ rest)) = date ++ (time ++ P.sub f rest) := by
  rw [sub_append_of_forall, sub_append_of_forall]
  · rintro l c l' rfl
    rw [hP]
    exact rests_of_not_isSign (hsign c (by simp))
  · rintro l c l' rfl
    rw [List.eq_nil_iff_forall_not_mem]
    intro r hr
    have hle := hlen _ r hr
    simp only [List.length_cons, List.length_append] at hle
    omega

theorem sub_offset_of_not_isSign {P : Pattern} {cs : List Char}
    (hP : P = seqs (char isSign :: tail)) (hsign : ∀ c ∈ cs, isSign c = false) :
    P.sub f cs = cs := by
  have h : P.sub f (cs ++ []) = cs ++ P.sub f [] := by
    apply sub_append_of_forall
    rintro l c l' rfl
    rw [hP]
    exact rests_of_not_isSign (hsign c (by simp))
  simpa using h

end Offsets

/-- Two characters of a class, one by one. -/
theorem chars_two {p : Char → Bool} {l : List Char} (h : Chars p 2 l) :
    ∃ a b, l = [a, b] ∧ p a = true ∧ p b = true := by
  obtain ⟨a, b, rfl⟩ := List.length_eq_two.1 h.1
  exact ⟨a, b, rfl, h.2 a (by simp), h.2 b (by simp)⟩

theorem rests_endOfText {nl : List Char} (h : nl = [] ∨ nl = ['\n']) :
    endOfText.rests nl = [nl] := by
  rw [rests, if_pos h]

theorem isSign_of_newline {nl : List Char} (h : nl = [] ∨ nl = ['\n']) :
    ∀ c ∈ nl, isSign c = false := by
  rcases h with rfl | rfl
  · exact List.forall_mem_nil _
  · exact List.forall_mem_singleton.mpr (by decide)

theorem rests_digits_two {a b : Char} (ha : isDecimal a = true) (hb : isDecimal b = true)
    (cs : List Char) : (digits 2).rests (a :: b :: cs) = [cs] := by
  simp [digits, times, rests, ha, hb]

theorem rests_digits_two_of_not {c : Char} (hc : isDecimal c = false) (cs : List Char) :
    (digits 2).rests (c :: cs) = [] := by
  simp [digits, times, rests, hc]

theorem rests_seqs_cons_of_eq {P : Pattern} {Ps : List Pattern} {cs r : List Char}
    (h : P.rests cs = [r]) : (seqs (P :: Ps)).rests cs = (seqs Ps).rests r := by
  rw [seqs, List.foldr_cons, rests, h, List.flatMap_singleton]
  rfl

theorem rests_seqs_cons_of_nil {P : Pattern} {Ps : List Pattern} {cs : List Char}
    (h : P.rests cs = []) : (seqs (P :: Ps)).rests cs = [] := by
  rw [seqs, List.foldr_cons, rests, h, List.flatMap_nil]

theorem rests_sign {c : Char} (h : isSign c = true) (cs : List Char) :
    (char isSign).rests (c :: cs) = [cs] := by
  rw [rests, if_pos h]

/-- Two digits and the end of the text have no sign. -/
theorem not_isSign_digits {c d : Char} (hc : isDecimal c = true) (hd : isDecimal d = true)
    {nl : List Char} (hnl : nl = [] ∨ nl = ['\n']) : ∀ e ∈ c :: d :: nl, isSign e = false := by
  rw [List.forall_mem_cons, List.forall_mem_cons]
  exact ⟨not_isSign_of_isDecimal hc, not_isSign_of_isDecimal hd, isSign_of_newline hnl⟩

section Hours

variable {sign a b : Char} (hsign : isSign sign = true) (ha : isDecimal a = true)
  (hb : isDecimal b = true)
include hsign ha hb

/-- Behind the hours the text must end. -/
theorem rests_offsetHours (cs : List Char) :
    offsetHoursPattern.rests (sign :: a :: b :: cs) = endOfText.rests cs := by
  rw [offsetHoursPattern, rests_seqs_cons_of_eq (rests_sign hsign _),
    rests_seqs_cons_of_eq (rests_digits_two ha hb _)]
  simp [seqs, rests]

theorem sub_offsetHours_of_rests {cs : List Char} (hcs : endOfText.rests cs = [])
    (hnone : ∀ c ∈ cs, isSign c = false) :
    offsetHoursPattern.sub appendMinutes (sign :: a :: b :: cs) = sign :: a :: b :: cs := by
  have hkept : ∀ c ∈ a :: b :: cs, isSign c = false := by
    rw [List.forall_mem_cons, List.forall_mem_cons]
    exact ⟨not_isSign_of_isDecimal ha, not_isSign_of_isDecimal hb, hnone⟩
  rw [sub_cons_of_rests ((rests_offsetHours hsign ha hb cs).trans hcs),
    sub_offset_of_not_isSign offsetHoursPattern_eq hkept]

end Hours

/-- The first substitution: `+hh` becomes `+hh:00`. -/
theorem sub_offsetHours (o : OffsetText) (ho : o.WellFormed isDecimal)
    {nl : List Char} (hnl : nl = [] ∨ nl = ['\n']) :
    offsetHoursPattern.sub appendMinutes (o.text ++ nl) =
      match o.minutes with
        | .absent => o.sign :: (o.hours ++ [':', '0', '0']) ++ nl
        | _ => o.text ++ nl := by
  obtain ⟨sign, hours, minutes⟩ := o
  obtain ⟨hsign, hhours, hminutes⟩ := ho
  obtain ⟨a, b, rfl, ha, hb⟩ := chars_two hhours
  cases minutes with
  | absent =>
    have htext : OffsetText.text ⟨sign, [a, b], .absent⟩ ++ nl = [sign, a, b] ++ nl := by
      simp [OffsetText.text, OffsetMinutes.text]
    have hhead : (offsetHoursPattern.rests ([sign, a, b] ++ nl)).head? = some nl := by
      change (offsetHoursPattern.rests (sign :: a :: b :: nl)).head? = some nl
      rw [rests_offsetHours hsign ha hb, rests_endOfText hnl]
      rfl
    rw [htext, sub_of_rests (by simp) hhead,
      sub_offset_of_not_isSign offsetHoursPattern_eq (isSign_of_newline hnl)]
    simp [appendMinutes]
  | joined minutes =>
    obtain ⟨c, d, rfl, hc, hd⟩ := chars_two hminutes
    have hend : endOfText.rests (c :: d :: nl) = [] := by
      simp [rests]
    exact sub_offsetHours_of_rests hsign ha hb hend (not_isSign_digits hc hd hnl)
  | afterColon minutes =>
    obtain ⟨c, d, rfl, hc, hd⟩ := chars_two hminutes
    have hend : endOfText.rests (':' :: c :: d :: nl) = [] := by
      simp [rests]
    have hnone : ∀ e ∈ ':' :: c :: d :: nl, isSign e = false := by
      rw [List.forall_mem_cons]
      exact ⟨by decide, not_isSign_digits hc hd hnl⟩
    exact sub_offsetHours_of_rests hsign ha hb hend hnone

/-- The second substitution: `+hhmm` becomes `+hh:mm`. -/
theorem sub_offsetMinutes {sign a b c d : Char} (hsign : isSign sign = true)
    (ha : isDecimal a = true) (hb : isDecimal b = true) (hc : isDecimal c = true)
    (hd : isDecimal d = true) {nl : List Char} (hnl : nl = [] ∨ nl = ['\n']) :
    offsetMinutesPattern.sub insertColon ([sign, a, b, c, d] ++ nl) =
      [sign, a, b, ':', c, d] ++ nl := by
  have hhead : (offsetMinutesPattern.rests ([sign, a, b, c, d] ++ nl)).head? = some nl := by
    change (offsetMinutesPattern.rests (sign :: a :: b :: c :: d :: nl)).head? = some nl
    rw [offsetMinutesPattern_eq, rests_seqs_cons_of_eq (rests_sign hsign _),
      rests_seqs_cons_of_eq (rests_digits_two ha hb _),
      rests_seqs_cons_of_eq (rests_digits_two hc hd _),
      rests_seqs_cons_of_eq (rests_endOfText hnl)]
    rfl
  rw [sub_of_rests (by simp) hhead,
    sub_offset_of_not_isSign offsetMinutesPattern_eq (isSign_of_newline hnl)]
  rfl

/-- It leaves an offset with a colon alone. -/
theorem sub_offsetMinutes_colon {sign a b : Char} (hsign : isSign sign = true)
    (ha : isDecimal a = true) (hb : isDecimal b = true) {cs : List Char}
    (hcs : ∀ c ∈ cs, isSign c = false) :
    offsetMinutesPattern.sub insertColon (sign :: a :: b :: ':' :: cs) =
      sign :: a :: b :: ':' :: cs := by
  have hcolon : (seqs [digits 2, endOfText]).rests (':' :: cs) = [] :=
    rests_seqs_cons_of_nil (rests_digits_two_of_not (by decide) cs)
  rw [sub_cons_of_rests, sub_offset_of_not_isSign offsetMinutesPattern_eq]
  · rw [List.forall_mem_cons, List.forall_mem_cons, List.forall_mem_cons]
    exact ⟨not_isSign_of_isDecimal ha, not_isSign_of_isDecimal hb, by decide, hcs⟩
  · rw [offsetMinutesPattern_eq, rests_seqs_cons_of_eq (rests_sign hsign _),
      rests_seqs_cons_of_eq (rests_digits_two ha hb _), hcolon]

/-- The two substitutions bring an offset into the form that is read. -/
theorem sub_offset (o : OffsetText) (ho : o.WellFormed isDecimal)
    {nl : List Char} (hnl : nl = [] ∨ nl = ['\n']) :
    offsetMinutesPattern.sub insertColon (offsetHoursPattern.sub appendMinutes (o.text ++ nl)) =
      normalOffsetText o ++ nl := by
  rw [sub_offsetHours o ho hnl]
  obtain ⟨sign, hours, minutes⟩ := o
  obtain ⟨hsign, hhours, hminutes⟩ := ho
  obtain ⟨a, b, rfl, ha, hb⟩ := chars_two hhours
  cases minutes with
  | absent =>
    have hzeros : ∀ c ∈ '0' :: '0' :: nl, isSign c = false :=
      not_isSign_digits (by decide) (by decide) hnl
    exact sub_offsetMinutes_colon hsign ha hb hzeros
  | joined minutes =>
    obtain ⟨c, d, rfl, hc, hd⟩ := chars_two hminutes
    exact sub_offsetMinutes hsign ha hb hc hd hnl
  | afterColon minutes =>
    obtain ⟨c, d, rfl, hc, hd⟩ := chars_two hminutes
    exact sub_offsetMinutes_colon hsign ha hb (not_isSign_digits hc hd hnl)

section Fraction

variable {f : List Char → List Char} {cs : List Char}

theorem ne_dot_of_isDecimal {c : Char} (h : isDecimal c = true) : c ≠ '.' := by
  rintro rfl
  exact absurd h (by decide)

/-- A text without a dot is kept. -/
theorem sub_dotDigits_append {front : List Char} (h : ∀ c ∈ front, c ≠ '.') :
    dotDigitsPattern.sub f (front ++ cs) = front ++ dotDigitsPattern.sub f cs := by
  apply sub_append_of_forall
  rintro l c l' rfl
  have hc : c ≠ '.' := h c (by simp)
  exact rests_seqs_cons_of_nil (by simp [lit, rests, hc])

theorem sub_dotDigits_of_forall (h : ∀ c ∈ cs, c ≠ '.') : dotDigitsPattern.sub f cs = cs := by
  have happend : dotDigitsPattern.sub f (cs ++ []) = cs ++ dotDigitsPattern.sub f [] :=
    sub_dotDigits_append h
  simpa using happend

/-- The third substitution: a fraction is filled to six digits. -/
theorem sub_dotDigits {ds : List Char} (hne : ds ≠ []) (hds : ∀ d ∈ ds, isDecimal d = true)
    (hhead : ∀ c ∈ cs.head?, isDecimal c = false) :
    dotDigitsPattern.sub fillFraction ('.' :: ds ++ cs) =
      '.' :: fillZeros ds ++ dotDigitsPattern.sub fillFraction cs := by
  have hrests : (dotDigitsPattern.rests ('.' :: ds ++ cs)).head? = some cs := by
    have hrun := head_rests_run hne hds hhead
    rw [List.cons_append, dotDigitsPattern, rests_seqs_cons_of_eq (r := ds ++ cs)
      (by simp [lit, rests])]
    simp only [seqs, List.foldr_cons, List.foldr_nil, rests, List.flatMap_singleton']
    exact hrun
  rw [sub_of_rests (by simp) hrests]
  rfl

end Fraction

/-- The texts of the fields have no dot. -/
theorem ne_dot_of_mem_offset {o : OffsetText} (ho : o.WellFormed isDecimal) :
    ∀ c ∈ normalOffsetText o, c ≠ '.' := by
  obtain ⟨sign, hours, minutes⟩ := o
  obtain ⟨hsign, hhours, hminutes⟩ := ho
  obtain ⟨a, b, rfl, ha, hb⟩ := chars_two hhours
  have hsigndot : sign ≠ '.' := by
    rintro rfl
    cases hsign
  have hadot := ne_dot_of_isDecimal ha
  have hbdot := ne_dot_of_isDecimal hb
  cases minutes with
  | absent => simp [normalOffsetText, OffsetMinutes.normalText, hsigndot, hadot, hbdot]
  | joined minutes =>
    obtain ⟨c, d, rfl, hc, hd⟩ := chars_two hminutes
    simp [normalOffsetText, OffsetMinutes.normalText, hsigndot, hadot, hbdot, ne_dot_of_isDecimal hc,
      ne_dot_of_isDecimal hd]
  | afterColon minutes =>
    obtain ⟨c, d, rfl, hc, hd⟩ := chars_two hminutes
    simp [normalOffsetText, OffsetMinutes.normalText, hsigndot, hadot, hbdot, ne_dot_of_isDecimal hc,
      ne_dot_of_isDecimal hd]

/-- A fraction has no sign. -/
theorem not_isSign_fractionText {f : Option (List Char)}
    (hf : ∀ ds ∈ f, ∀ d ∈ ds, isDecimal d = true) : ∀ c ∈ fractionText f, isSign c = false := by
  cases f with
  | none => exact List.forall_mem_nil _
  | some ds =>
    rw [fractionText, List.forall_mem_cons]
    exact ⟨by decide, fun c hc => not_isSign_of_isDecimal (hf ds rfl c hc)⟩

theorem isDecimal_of_newline {nl : List Char} (h : nl = [] ∨ nl = ['\n']) :
    ∀ c ∈ nl, isDecimal c = false := by
  rcases h with rfl | rfl
  · exact List.forall_mem_nil _
  · exact List.forall_mem_singleton.mpr (by decide)

theorem ne_dot_of_newline {nl : List Char} (h : nl = [] ∨ nl = ['\n']) : ∀ c ∈ nl, c ≠ '.' := by
  rcases h with rfl | rfl
  · exact List.forall_mem_nil _
  · exact List.forall_mem_singleton.mpr (by decide)

namespace TimestampText

variable {s : TimestampText}

/-- The date and the time are digits, but for what stands between the fields. -/
theorem WellFormed.mem_dateText (h : s.WellFormed isDecimal) :
    ∀ c ∈ s.dateText, isDecimal c = true ∨ c = '-' ∨ c = ' ' := by
  intro c hc
  simp only [dateText, List.mem_append, List.mem_cons, List.not_mem_nil, or_false] at hc
  rcases hc with hc | rfl | hc | rfl | hc | rfl
  · exact .inl (h.year.2 c hc)
  · exact .inr (.inl rfl)
  · exact .inl (h.month.2 c hc)
  · exact .inr (.inl rfl)
  · exact .inl (h.day.2 c hc)
  · exact .inr (.inr rfl)

theorem WellFormed.mem_timeText (h : s.WellFormed isDecimal) :
    ∀ c ∈ s.timeText, isDecimal c = true ∨ c = ':' := by
  intro c hc
  simp only [timeText, List.mem_append, List.mem_cons] at hc
  rcases hc with hc | rfl | hc | rfl | hc
  · exact .inl (h.hour.2 c hc)
  · exact .inr rfl
  · exact .inl (h.minute.2 c hc)
  · exact .inr rfl
  · exact .inl (h.second.2 c hc)

theorem WellFormed.not_isSign_timeText (h : s.WellFormed isDecimal) :
    ∀ c ∈ s.timeText, isSign c = false := by
  intro c hc
  rcases h.mem_timeText c hc with hd | rfl
  · exact not_isSign_of_isDecimal hd
  · decide

theorem WellFormed.ne_dot_dateText (h : s.WellFormed isDecimal) : ∀ c ∈ s.dateText, c ≠ '.' := by
  intro c hc
  rcases h.mem_dateText c hc with hd | rfl | rfl
  · exact ne_dot_of_isDecimal hd
  · decide
  · decide

theorem WellFormed.ne_dot_timeText (h : s.WellFormed isDecimal) : ∀ c ∈ s.timeText, c ≠ '.' := by
  intro c hc
  rcases h.mem_timeText c hc with hd | rfl
  · exact ne_dot_of_isDecimal hd
  · decide

theorem WellFormed.length_timeText (h : s.WellFormed isDecimal) : s.timeText.length = 8 := by
  simp [timeText, h.hour.1, h.minute.1, h.second.1]

/-- The offset of the text, normalised. -/
theorem sub_offsets (h : s.WellFormed isDecimal) {nl : List Char}
    (hnl : nl = [] ∨ nl = ['\n']) :
    offsetMinutesPattern.sub insertColon
        (offsetHoursPattern.sub appendMinutes (offsetText s.offset ++ nl)) =
      (s.offset.map normalOffsetText).getD [] ++ nl := by
  cases hoffset : s.offset with
  | none =>
    have hnone := isSign_of_newline hnl
    change offsetMinutesPattern.sub insertColon (offsetHoursPattern.sub appendMinutes nl) = nl
    rw [sub_offset_of_not_isSign offsetHoursPattern_eq hnone,
      sub_offset_of_not_isSign offsetMinutesPattern_eq hnone]
  | some o => exact sub_offset o (h.offset o hoffset) hnl

/-- What follows the fraction starts with no digit. -/
theorem WellFormed.isDecimal_head_offset (h : s.WellFormed isDecimal) {nl : List Char}
    (hnl : nl = [] ∨ nl = ['\n']) :
    ∀ c ∈ ((s.offset.map normalOffsetText).getD [] ++ nl).head?, isDecimal c = false := by
  intro c hc
  cases hoffset : s.offset with
  | none =>
    rw [hoffset] at hc
    exact isDecimal_of_newline hnl c (List.mem_of_mem_head? hc)
  | some o =>
    obtain rfl : o.sign = c := by simpa [hoffset, normalOffsetText] using hc
    exact isDecimal_of_isSign (h.offset o hoffset).sign

theorem WellFormed.ne_dot_offset (h : s.WellFormed isDecimal) {nl : List Char}
    (hnl : nl = [] ∨ nl = ['\n']) :
    ∀ c ∈ (s.offset.map normalOffsetText).getD [] ++ nl, c ≠ '.' := by
  rw [List.forall_mem_append]
  refine ⟨?_, ne_dot_of_newline hnl⟩
  cases hoffset : s.offset with
  | none => exact List.forall_mem_nil _
  | some o => exact ne_dot_of_mem_offset (h.offset o hoffset)

/-- The fraction of the text, normalised; what follows it starts with no
digit. -/
theorem sub_fraction (h : s.WellFormed isDecimal) {cs : List Char}
    (hhead : ∀ c ∈ cs.head?, isDecimal c = false) (hdot : ∀ c ∈ cs, c ≠ '.') :
    dotDigitsPattern.sub fillFraction (fractionText s.fraction ++ cs) =
      fractionText (s.fraction.map fillZeros) ++ cs := by
  cases hfraction : s.fraction with
  | none => exact sub_dotDigits_of_forall hdot
  | some ds =>
    obtain ⟨hpos, -, hds⟩ := h.fraction ds hfraction
    have hne : ds ≠ [] := by
      rintro rfl
      simp at hpos
    have hsub := sub_dotDigits hne hds hhead
    rw [sub_dotDigits_of_forall hdot] at hsub
    exact hsub

/-- **The substitutions** bring the offset and the fraction into the form that
is read, and keep everything else. -/
theorem normalise_text (h : s.WellFormed isDecimal) {nl : List Char}
    (hnl : nl = [] ∨ nl = ['\n']) : normalise (s.text ++ nl) = s.normalText ++ nl := by
  have htime : 6 ≤ (s.timeText ++ fractionText s.fraction).length := by
    rw [List.length_append, h.length_timeText]
    omega
  have hsign : ∀ c ∈ s.timeText ++ fractionText s.fraction, isSign c = false := by
    rw [List.forall_mem_append]
    exact ⟨h.not_isSign_timeText, not_isSign_fractionText fun ds hds => (h.fraction ds hds).2.2⟩
  have htext : s.text ++ nl = s.dateText ++ ((s.timeText ++ fractionText s.fraction) ++
      (offsetText s.offset ++ nl)) := by
    simp [text]
  rw [normalise, htext,
    sub_offset_text offsetHoursPattern_eq (fun _ _ => length_of_mem_rests_offsetHours) htime hsign,
    sub_offset_text offsetMinutesPattern_eq (fun _ _ => length_of_mem_rests_offsetMinutes) htime
      hsign, s.sub_offsets h hnl, List.append_assoc, sub_dotDigits_append h.ne_dot_dateText,
    sub_dotDigits_append h.ne_dot_timeText,
    sub_fraction h (h.isDecimal_head_offset hnl) (h.ne_dot_offset hnl)]
  simp [normalText, normalTailText]

end TimestampText

end PostgresqlK8s.Restore
