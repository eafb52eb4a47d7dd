import PostgresqlK8s.Resources.Quantities
import Mathlib.Algebra.Order.Round
import Mathlib.Tactic.Linarith
import Mathlib.Tactic.NormNum
import Mathlib.Tactic.Ring

/-!
# Resources.MemoryQuantities

The amounts of memory that Kubernetes writes, with what they mean, and which of
them `any_memory_to_bytes` reads so.

`Quantity` is the grammar: a sign, digits, a fraction, and a suffix or an
exponent; `Quantity.text` is its text and `Quantity.value` its meaning.
-/

namespace PostgresqlK8s.Resources

open IntText (readInt maxDigits)

/-! ## the grammar -/

inductive Sign where
  | plus
  | minus
  deriving DecidableEq, Repr

inductive Suffix where
  | milli
  | kilo
  | mega
  | giga
  | tera
  | peta
  | exa
  | kibi
  | mebi
  | gibi
  | tebi
  | pebi
  | exbi
  deriving DecidableEq, Repr

structure Exponent where
  upperCase : Bool
  sign : Option Sign
  digits : List (Fin 10)
  digits_ne_nil : digits ≠ []

inductive Ending where
  | none
  | suffix (s : Suffix)
  | exponent (e : Exponent)

/-- An amount of memory.  There is a digit before the point or after it. -/
structure Quantity where
  sign : Option Sign
  whole : List (Fin 10)
  fraction : Option (List (Fin 10))
  ending : Ending
  hasDigit : whole ≠ [] ∨ ∃ digits ∈ fraction, digits ≠ []

/-! ## the text -/

def signChars : Option Sign → List Char
  | none => []
  | some .plus => ['+']
  | some .minus => ['-']

def digitChars (digits : List (Fin 10)) : List Char := digits.map fun d : Fin 10 => Nat.digitChar d

def Suffix.chars : Suffix → List Char
  | .milli => ['m']
  | .kilo => ['k']
  | .mega => ['M']
  | .giga => ['G']
  | .tera => ['T']
  | .peta => ['P']
  | .exa => ['E']
  | .kibi => ['K', 'i']
  | .mebi => ['M', 'i']
  | .gibi => ['G', 'i']
  | .tebi => ['T', 'i']
  | .pebi => ['P', 'i']
  | .exbi => ['E', 'i']

def Exponent.chars (e : Exponent) : List Char :=
  (if e.upperCase then 'E' else 'e') :: (signChars e.sign ++ digitChars e.digits)

def Ending.chars : Ending → List Char
  | .none => []
  | .suffix s => s.chars
  | .exponent e => e.chars

def fractionChars : Option (List (Fin 10)) → List Char
  | none => []
  | some digits => '.' :: digitChars digits

def Quantity.chars (q : Quantity) : List Char :=
  signChars q.sign ++ (digitChars q.whole ++ (fractionChars q.fraction ++ q.ending.chars))

def Quantity.text (q : Quantity) : String := String.ofList q.chars

/-! ## the meaning -/

def number (digits : List (Fin 10)) : ℕ := digits.foldl (fun n d => 10 * n + d.val) 0

def signed (sign : Option Sign) (n : ℚ) : ℚ := if sign = some .minus then -n else n

def Suffix.scale : Suffix → ℚ
  | .milli => 1 / 10 ^ 3
  | .kilo => 10 ^ 3
  | .mega => 10 ^ 6
  | .giga => 10 ^ 9
  | .tera => 10 ^ 12
  | .peta => 10 ^ 15
  | .exa => 10 ^ 18
  | .kibi => 2 ^ 10
  | .mebi => 2 ^ 20
  | .gibi => 2 ^ 30
  | .tebi => 2 ^ 40
  | .pebi => 2 ^ 50
  | .exbi => 2 ^ 60

def Ending.scale : Ending → ℚ
  | .none => 1
  | .suffix s => s.scale
  | .exponent e =>
      if e.sign = some .minus then 1 / 10 ^ number e.digits else 10 ^ number e.digits

def fractionValue : Option (List (Fin 10)) → ℚ
  | none => 0
  | some digits => number digits / 10 ^ digits.length

/-- What the text means, in bytes. -/
def Quantity.value (q : Quantity) : ℚ :=
  signed q.sign (number q.whole + fractionValue q.fraction) * q.ending.scale

/-! ## the quantities that are read -/

/-- The suffixes that the table knows, in the case that Kubernetes writes. -/
def tableSuffixes : List Suffix := [.kilo, .mega, .giga, .tera, .kibi, .mebi, .gibi, .tebi]

/-- A number without a fraction, of no more digits than `int` takes; a suffix
only without a sign, and thousandths only of nothing. -/
def Quantity.Supported (q : Quantity) : Prop :=
  q.fraction = none ∧ q.whole.length ≤ maxDigits ∧
    match q.ending with
    | .none => True
    | .suffix s => q.sign = none ∧ (s ∈ tableSuffixes ∨ s = .milli ∧ number q.whole = 0)
    | .exponent _ => False

/-! ## characters -/

theorem isDigit_of_mem_digitChars {digits : List (Fin 10)} {c : Char} (h : c ∈ digitChars digits) :
    c.isDigit = true := by
  obtain ⟨d, -, rfl⟩ := List.mem_map.mp h
  rw [Nat.isDigit_digitChar, decide_eq_true_eq]
  exact d.isLt

/-- The characters of some digits are read as their number. -/
theorem ofDigitChars_digitChars (digits : List (Fin 10)) :
    Nat.ofDigitChars 10 (digitChars digits) 0 = number digits := by
  have hvalue (d : Fin 10) : (Nat.digitChar d).toNat - '0'.toNat = d :=
    Nat.toNat_digitChar_sub_48_of_lt_ten d.isLt
  simp only [Nat.ofDigitChars_eq_foldl, digitChars, List.foldl_map, number, hvalue]

theorem digitChars_eq_nil {digits : List (Fin 10)} : digitChars digits = [] ↔ digits = [] :=
  List.map_eq_nil_iff

/-- The letters at the front of an ending. -/
def endingLetters : List Char := ['m', 'k', 'M', 'G', 'T', 'P', 'E', 'K', 'e']

/-- Every suffix begins with a letter. -/
theorem suffix_chars_head (s : Suffix) : ∃ c ∈ endingLetters, s.chars.head? = some c := by
  cases s <;> simp [Suffix.chars, endingLetters]

/-- So does every exponent. -/
theorem mem_exponent_chars (e : Exponent) : (if e.upperCase then 'E' else 'e') ∈ endingLetters := by
  cases e.upperCase <;> simp [endingLetters]

/-- None of these letters can stand in what `int` reads. -/
theorem stray_of_mem_endingLetters : ∀ c ∈ endingLetters, Pattern.isDecimal c = false ∧
    IntText.isSpace c = false ∧ c ∉ ['_', '+', '-'] := by
  simp only [endingLetters, List.forall_mem_cons, List.not_mem_nil, false_imp_iff, implies_true]
  decide

/-- Where one of them stands, `int` raises. -/
theorem readInt_eq_none_of_letter {cs : List Char} {c : Char} (hmem : c ∈ cs)
    (hletter : c ∈ endingLetters) : readInt (String.ofList cs) = none := by
  obtain ⟨hdecimal, hspace, hsign⟩ := stray_of_mem_endingLetters c hletter
  exact IntText.readInt_eq_none hmem hdecimal hspace hsign

/-! ## each kind of text -/

section

variable {chars : Characters} {q : Quantity}

/-- A fraction is refused. -/
theorem anyMemoryToBytes_fraction (h : q.fraction ≠ none) (num : Int) :
    anyMemoryToBytes chars q.text ≠ .ok num := by
  obtain ⟨digits, hdigits⟩ := Option.ne_none_iff_exists'.mp h
  have hpoint : '.' ∈ q.chars := by simp [Quantity.chars, hdigits, fractionChars]
  have hread : readInt q.text = none :=
    IntText.readInt_eq_none hpoint (by decide) (by decide) (by decide)
  exact anyMemoryToBytes_ne_ok_of_stray hread hpoint (by decide)
    (chars.isWord_ascii '.' (by decide)) (by decide) num

/-- A sign before a number with a suffix is refused. -/
theorem anyMemoryToBytes_signed_suffix {s : Suffix} (hsign : q.sign ≠ none)
    (hending : q.ending = .suffix s) (num : Int) : anyMemoryToBytes chars q.text ≠ .ok num := by
  obtain ⟨c, hletter, hhead⟩ := suffix_chars_head s
  have hmem : c ∈ q.chars := by
    simp [Quantity.chars, hending, Ending.chars, List.mem_of_head? hhead]
  have hread : readInt q.text = none := readInt_eq_none_of_letter hmem hletter
  obtain ⟨sign, hsign⟩ := Option.ne_none_iff_exists'.mp hsign
  cases sign with
  | plus =>
      have hplus : '+' ∈ q.chars := by simp [Quantity.chars, hsign, signChars]
      exact anyMemoryToBytes_ne_ok_of_stray hread hplus (by decide)
        (chars.isWord_ascii '+' (by decide)) (by decide) num
  | minus =>
      have hminus : '-' ∈ q.chars := by simp [Quantity.chars, hsign, signChars]
      exact anyMemoryToBytes_ne_ok_of_stray hread hminus (by decide)
        (chars.isWord_ascii '-' (by decide)) (by decide) num

theorem ascii_of_mem_digitChars {digits : List (Fin 10)} {c : Char} (h : c ∈ digitChars digits) :
    c.toNat < 128 ∧ c.toUpper ∉ ['K', 'M', 'G', 'T'] := by
  obtain ⟨d, -, rfl⟩ := List.mem_map.mp h
  clear h
  revert d
  decide

theorem ascii_of_mem_signChars {sign : Option Sign} {c : Char} (h : c ∈ signChars sign) :
    c.toNat < 128 ∧ c.toUpper ∉ ['K', 'M', 'G', 'T'] := by
  rcases sign with - | - | - <;> simp only [signChars, List.mem_singleton, List.not_mem_nil] at h
  all_goals
    subst h
    decide

/-- An exponent is refused. -/
theorem anyMemoryToBytes_exponent {e : Exponent} (hfraction : q.fraction = none)
    (hending : q.ending = .exponent e) (num : Int) : anyMemoryToBytes chars q.text ≠ .ok num := by
  have hmark : (if e.upperCase then 'E' else 'e') ∈ q.chars := by
    simp [Quantity.chars, hending, Ending.chars, Exponent.chars]
  have hread : readInt q.text = none := readInt_eq_none_of_letter hmark (mem_exponent_chars e)
  refine anyMemoryToBytes_ne_ok_of_letters hread (fun c hc => ?_) num
  simp only [Quantity.chars, hfraction, hending, fractionChars, Ending.chars, Exponent.chars,
    List.nil_append, List.mem_append, List.mem_cons] at hc
  rcases hc with hc | hc | hc | hc | hc
  · exact ascii_of_mem_signChars hc
  · exact ascii_of_mem_digitChars hc
  · rw [hc]
    cases e.upperCase <;> decide
  · exact ascii_of_mem_signChars hc
  · exact ascii_of_mem_digitChars hc

/-- Without a fraction there is a digit before the ending. -/
theorem digitChars_whole_ne_nil (hfraction : q.fraction = none) : digitChars q.whole ≠ [] := by
  rcases q.hasDigit with hwhole | ⟨digits, hdigits, -⟩
  · exact mt digitChars_eq_nil.mp hwhole
  · rw [hfraction] at hdigits
    cases hdigits

/-- A quantity without an ending is read as `int` reads it. -/
theorem readInt_plain (hfraction : q.fraction = none) (hending : q.ending = .none) :
    readInt q.text = if q.whole.length ≤ maxDigits then some ⌊q.value⌋ else none := by
  have hne := digitChars_whole_ne_nil hfraction
  have hdigits : ∀ c ∈ digitChars q.whole, c.isDigit = true := fun c => isDigit_of_mem_digitChars
  have hlength : (digitChars q.whole).length = q.whole.length := List.length_map _
  have hvalue : q.value = signed q.sign (number q.whole) := by
    simp [Quantity.value, hfraction, hending, fractionValue, Ending.scale]
  have htext : q.text = String.ofList (signChars q.sign ++ digitChars q.whole) := by
    simp [Quantity.text, Quantity.chars, hfraction, hending, fractionChars, Ending.chars]
  rw [htext, hvalue]
  rcases q.sign with - | - | -
  · rw [signChars, List.nil_append, IntText.readInt_of_isDigit hne hdigits,
      ofDigitChars_digitChars, hlength]
    simp [signed]
  · rw [signChars, List.singleton_append, IntText.readInt_plus hne hdigits,
      ofDigitChars_digitChars, hlength]
    simp [signed]
  · rw [signChars, List.singleton_append, IntText.readInt_minus hne hdigits,
      ofDigitChars_digitChars, hlength]
    have hfloor : ⌊(-(number q.whole : ℚ))⌋ = -(number q.whole : Int) := by
      rw [← Int.cast_natCast, ← Int.cast_neg, Int.floor_intCast]
    simp [signed, hfloor]

/-- A plain number is read as what it is, if it is not too long. -/
theorem anyMemoryToBytes_plain (hfraction : q.fraction = none) (hending : q.ending = .none) :
    anyMemoryToBytes chars q.text = .ok ⌊q.value⌋ ↔ q.whole.length ≤ maxDigits := by
  by_cases hlength : q.whole.length ≤ maxDigits
  · refine iff_of_true ?_ hlength
    rw [anyMemoryToBytes, readInt_plain hfraction hending, if_pos hlength]
  · refine iff_of_false ?_ hlength
    have hread : readInt q.text = none := by
      rw [readInt_plain hfraction hending, if_neg hlength]
    refine anyMemoryToBytes_ne_ok_of_letters hread (fun c hc => ?_) ⌊q.value⌋
    simp only [Quantity.chars, hfraction, hending, fractionChars, Ending.chars,
      List.append_nil, List.mem_append] at hc
    rcases hc with hc | hc
    · exact ascii_of_mem_signChars hc
    · exact ascii_of_mem_digitChars hc

/-! ## numbers with a suffix -/

/-- What the table makes of a suffix.  In capitals thousandths are millions. -/
def Suffix.factor : Suffix → Option Int
  | .milli => some (10 ^ 6)
  | .kilo => some (10 ^ 3)
  | .mega => some (10 ^ 6)
  | .giga => some (10 ^ 9)
  | .tera => some (10 ^ 12)
  | .kibi => some 1024
  | .mebi => some 1048576
  | .gibi => some 1073741824
  | .tebi => some 1099511627776
  | .peta | .exa | .pebi | .exbi => none

/-- A suffix is a word. -/
theorem word_of_mem_suffix_chars (s : Suffix) : ∀ c ∈ s.chars,
    c.toNat < 128 ∧ (c.isAlphanum || c == '_') = true := by
  cases s <;>
    simp only [Suffix.chars, List.forall_mem_cons, List.not_mem_nil, false_imp_iff, implies_true] <;>
    decide

/-- What the table of units knows of a suffix, in upper case. -/
theorem lookup_units_suffix (chars : Characters) (s : Suffix) :
    units.lookup (String.ofList (s.chars.flatMap chars.upper)) = s.factor := by
  have hupper : s.chars.flatMap chars.upper = s.chars.map Char.toUpper := by
    rw [List.map_eq_flatMap]
    exact List.flatMap_congr fun c hc => chars.upper_ascii c (word_of_mem_suffix_chars s c hc).1
  rw [hupper]
  cases s <;> decide

/-- The pattern takes number and suffix apart. -/
theorem splitMem_suffix (hne : digitChars q.whole ≠ []) (s : Suffix) :
    splitMem chars (String.ofList (digitChars q.whole ++ s.chars)) =
      some (String.ofList (digitChars q.whole), String.ofList s.chars) := by
  obtain ⟨first, hletter, hhead⟩ := suffix_chars_head s
  apply splitMem_of_word hne
  · exact fun c hc => Pattern.isDecimal_of_isDigit (isDigit_of_mem_digitChars hc)
  · exact fun hnil => by simp [hnil] at hhead
  · intro c hc
    obtain ⟨hascii, hword⟩ := word_of_mem_suffix_chars s c hc
    rw [chars.isWord_ascii c hascii, hword]
  · intro c hc
    obtain rfl := Option.some.inj (hhead.symm.trans hc)
    exact (stray_of_mem_endingLetters first hletter).1

/-- The number before a suffix, times what the table has for it. -/
theorem anyMemoryToBytes_suffix {s : Suffix} (hfraction : q.fraction = none)
    (hsign : q.sign = none) (hending : q.ending = .suffix s) (num : Int) :
    anyMemoryToBytes chars q.text = .ok num ↔
      q.whole.length ≤ maxDigits ∧ ∃ factor ∈ s.factor, num = number q.whole * factor := by
  have hne := digitChars_whole_ne_nil hfraction
  have hdigits : ∀ c ∈ digitChars q.whole, c.isDigit = true := fun c => isDigit_of_mem_digitChars
  have hlength : (digitChars q.whole).length = q.whole.length := List.length_map _
  have htext : q.text = String.ofList (digitChars q.whole ++ s.chars) := by
    simp [Quantity.text, Quantity.chars, hfraction, hsign, hending, signChars, fractionChars,
      Ending.chars]
  have hread : readInt (String.ofList (digitChars q.whole ++ s.chars)) = none := by
    obtain ⟨c, hletter, hhead⟩ := suffix_chars_head s
    exact readInt_eq_none_of_letter (List.mem_append_right _ (List.mem_of_head? hhead)) hletter
  rw [htext, anyMemoryToBytes, hread, splitMem_suffix hne]
  dsimp only
  rw [String.toList_ofList, lookup_units_suffix, IntText.readInt_of_isDigit hne hdigits,
    ofDigitChars_digitChars, hlength]
  cases s.factor with
  | none => simp
  | some factor =>
      by_cases hmax : q.whole.length ≤ maxDigits
      · simp [hmax, eq_comm]
      · simp [hmax]

/-- A suffix of the table has the factor that Kubernetes gives it. -/
theorem scale_of_mem_tableSuffixes {s : Suffix} (h : s ∈ tableSuffixes) :
    ∃ factor ∈ s.factor, s.scale = (factor : Int) := by
  simp only [tableSuffixes, List.mem_cons, List.not_mem_nil, or_false] at h
  rcases h with rfl | rfl | rfl | rfl | rfl | rfl | rfl | rfl <;>
    refine ⟨_, rfl, ?_⟩ <;> norm_num [Suffix.scale]

/-- The others have none, but for the thousandths. -/
theorem not_mem_tableSuffixes {s : Suffix} (h : s ∉ tableSuffixes) (hmilli : s ≠ .milli) :
    s.factor = none := by
  cases s <;> first | rfl | exact absurd rfl hmilli | exact absurd (by decide) h

/-- Thousandths are read as mega, which is right for none but 0. -/
theorem floor_milli_eq_iff (n : ℕ) : ⌊(n : ℚ) * Suffix.milli.scale⌋ = n * 10 ^ 6 ↔ n = 0 := by
  have hscale : (n : ℚ) * Suffix.milli.scale = (n : ℚ) / (1000 : ℕ) := by
    norm_num [Suffix.scale]
    ring
  rw [hscale, Rat.floor_natCast_div_natCast]
  omega

/-- The table has the meaning of a suffix. -/
theorem floor_scale_iff (s : Suffix) (n : ℕ) :
    (∃ factor ∈ s.factor, ⌊(n : ℚ) * s.scale⌋ = n * factor) ↔
      s ∈ tableSuffixes ∨ s = .milli ∧ n = 0 := by
  by_cases htable : s ∈ tableSuffixes
  · obtain ⟨factor, hfactor, hscale⟩ := scale_of_mem_tableSuffixes htable
    refine iff_of_true ⟨factor, hfactor, ?_⟩ (.inl htable)
    rw [hscale, ← Int.cast_natCast, ← Int.cast_mul, Int.floor_intCast]
  · by_cases hmilli : s = .milli
    · subst hmilli
      simpa [Suffix.factor, htable] using floor_milli_eq_iff n
    · simp [not_mem_tableSuffixes htable hmilli, htable, hmilli]

/-- Which quantities are read with their meaning: whole numbers that `int`
takes, and whole numbers without a sign before a suffix of the table. -/
theorem anyMemoryToBytes_text_iff (chars : Characters) (q : Quantity) :
    anyMemoryToBytes chars q.text = .ok ⌊q.value⌋ ↔ q.Supported := by
  rw [Quantity.Supported]
  by_cases hfraction : q.fraction = none
  · rw [and_iff_right hfraction]
    cases hending : q.ending with
    | none => rw [anyMemoryToBytes_plain hfraction hending, and_true]
    | exponent e =>
        rw [and_false, iff_false]
        exact anyMemoryToBytes_exponent hfraction hending _
    | suffix s =>
        dsimp only
        by_cases hsign : q.sign = none
        · have hvalue : q.value = number q.whole * s.scale := by
            simp [Quantity.value, hfraction, hsign, hending, signed, fractionValue, Ending.scale]
          rw [anyMemoryToBytes_suffix hfraction hsign hending, hvalue, floor_scale_iff,
            and_iff_right hsign]
        · rw [iff_false_right fun h => hsign h.2.1]
          exact anyMemoryToBytes_signed_suffix hsign hending _
  · rw [iff_false_right fun h => hfraction h.1]
    exact anyMemoryToBytes_fraction hfraction _

/-- One and a half bytes. -/
def thousandths : Quantity where
  sign := none
  whole := [1, 5, 0, 0]
  fraction := none
  ending := .suffix .milli
  hasDigit := .inl (List.cons_ne_nil 1 [5, 0, 0])

/-- A byte and a half is read as 1.5 GB. -/
theorem anyMemoryToBytes_thousandths : thousandths.text = "1500m" ∧ ⌊thousandths.value⌋ = 1 ∧
    anyMemoryToBytes .ascii thousandths.text = .ok 1500000000 := by
  refine ⟨by decide +kernel, by decide +kernel, ?_⟩
  exact (anyMemoryToBytes_suffix rfl rfl rfl _).mpr ⟨by decide, 10 ^ 6, rfl, by decide⟩

end

end PostgresqlK8s.Resources
