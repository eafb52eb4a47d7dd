import PostgresqlK8s.Lib.Pattern
import PostgresqlK8s.Lib.Text

/-!
# IntText

Reading an integer from a text, as `int` does: whitespace around it, a sign,
and decimal digits of any script, with single underscores between them.  A text
of more than 4300 digits is refused.
-/

namespace IntText

/-- `str.isspace`, of a character. -/
def isSpace (c : Char) : Bool :=
  [0x20, 0x85, 0xa0, 0x1680, 0x2028, 0x2029, 0x202f, 0x205f, 0x3000].contains c.toNat ||
    (0x09 ≤ c.toNat && c.toNat ≤ 0x0d) || (0x1c ≤ c.toNat && c.toNat ≤ 0x1f) ||
    (0x2000 ≤ c.toNat && c.toNat ≤ 0x200a)

/-- What a decimal digit stands for. -/
def digitValue (c : Char) : Option Nat :=
  Pattern.decimalZeros.findSome? fun z =>
    if z ≤ c.toNat ∧ c.toNat < z + 10 then some (c.toNat - z) else none

/-- The digits after the first one. -/
def readDigits (n : Nat) : List Char → Option Nat
  | [] => some n
  | '_' :: c :: cs => (digitValue c).bind fun d => readDigits (10 * n + d) cs
  | c :: cs => (digitValue c).bind fun d => readDigits (10 * n + d) cs

/-- `sys.get_int_max_str_digits()`. -/
def maxDigits : Nat := 4300

def readUnsigned (cs : List Char) : Option Nat :=
  if (cs.filter (· != '_')).length ≤ maxDigits then
    match cs with
    | [] => none
    | c :: cs => (digitValue c).bind fun d => readDigits d cs
  else none

/-- `int(s)`; nothing where it raises. -/
def readInt (s : String) : Option Int :=
  match (Text.strip isSpace s).toList with
  | '+' :: cs => (readUnsigned cs).map fun n : Nat => (n : Int)
  | '-' :: cs => (readUnsigned cs).map fun n : Nat => -(n : Int)
  | cs => (readUnsigned cs).map fun n : Nat => (n : Int)

/-! ## what is read -/

theorem digitValue_of_isDigit {c : Char} (h : c.isDigit = true) :
    digitValue c = some (c.toNat - 48) := by
  obtain ⟨hlo, hhi⟩ := Char.isDigit_iff_toNat.mp h
  have hlt : c.toNat < 48 + 10 := Nat.lt_succ_of_le hhi
  rw [digitValue, Pattern.decimalZeros, List.findSome?_cons, if_pos ⟨hlo, hlt⟩]

theorem digitValue_eq_none {c : Char} (h : Pattern.isDecimal c = false) : digitValue c = none := by
  rw [digitValue, List.findSome?_eq_none_iff]
  intro z hz
  have hout := List.any_eq_false.mp h z hz
  rw [if_neg (by simpa using hout)]

theorem readDigits_cons {c : Char} (hne : c ≠ '_') (n : Nat) (cs : List Char) :
    readDigits n (c :: cs) = (digitValue c).bind fun d => readDigits (10 * n + d) cs := by
  rw [readDigits]
  rintro d ds rfl
  exact absurd rfl hne

/-- Digits are read from left to right. -/
theorem readDigits_of_isDigit {cs : List Char} (h : ∀ c ∈ cs, c.isDigit = true) (n : Nat) :
    readDigits n cs = some (Nat.ofDigitChars 10 cs n) := by
  induction cs generalizing n with
  | nil => rfl
  | cons c cs ih =>
      have hc := h c List.mem_cons_self
      have hne : c ≠ '_' := by
        rintro rfl
        exact absurd hc (by decide)
      rw [readDigits_cons hne, digitValue_of_isDigit hc, Option.bind_some,
        ih fun d hd => h d (List.mem_cons_of_mem c hd)]
      rfl

/-- A character that is no digit and no underscore is not read. -/
theorem readDigits_eq_none {cs : List Char} {c : Char} (hmem : c ∈ cs)
    (hdecimal : Pattern.isDecimal c = false) (hne : c ≠ '_') (n : Nat) :
    readDigits n cs = none := by
  have hnone := digitValue_eq_none hdecimal
  fun_induction readDigits n cs with
  | case1 => cases hmem
  | case2 n d cs ih =>
      rcases List.mem_cons.mp hmem with rfl | hmem
      · exact absurd rfl hne
      · rcases List.mem_cons.mp hmem with rfl | hmem
        · rw [hnone, Option.bind_none]
        · exact Option.bind_eq_none_iff.mpr fun v _ => ih v hmem
  | case3 n d cs hd ih =>
      rcases List.mem_cons.mp hmem with rfl | hmem
      · rw [hnone, Option.bind_none]
      · exact Option.bind_eq_none_iff.mpr fun v _ => ih v hmem

theorem readUnsigned_eq_none {cs : List Char} {c : Char} (hmem : c ∈ cs)
    (hdecimal : Pattern.isDecimal c = false) (hne : c ≠ '_') : readUnsigned cs = none := by
  unfold readUnsigned
  split
  · cases cs with
    | nil => rfl
    | cons d cs =>
        dsimp only
        rcases List.mem_cons.mp hmem with rfl | hmem
        · rw [digitValue_eq_none hdecimal, Option.bind_none]
        · exact Option.bind_eq_none_iff.mpr fun v _ => readDigits_eq_none hmem hdecimal hne v
  · rfl

/-- The number of a text of digits, if there are not too many of them. -/
theorem readUnsigned_of_isDigit {cs : List Char} (hcs : cs ≠ [])
    (h : ∀ c ∈ cs, c.isDigit = true) : readUnsigned cs =
      if cs.length ≤ maxDigits then some (Nat.ofDigitChars 10 cs 0) else none := by
  have hfilter : cs.filter (· != '_') = cs := by
    rw [List.filter_eq_self]
    intro c hc
    rw [bne_iff_ne]
    rintro rfl
    exact absurd (h _ hc) (by decide)
  unfold readUnsigned
  rw [hfilter]
  cases cs with
  | nil => exact absurd rfl hcs
  | cons c cs =>
      rw [List.forall_mem_cons] at h
      have hfirst : Nat.ofDigitChars 10 (c :: cs) 0 = Nat.ofDigitChars 10 cs (c.toNat - 48) := by
        simp [Nat.ofDigitChars]
      dsimp only
      rw [hfirst, digitValue_of_isDigit h.1, Option.bind_some, readDigits_of_isDigit h.2]

theorem isSpace_of_isDigit {c : Char} (h : c.isDigit = true) : isSpace c = false := by
  obtain ⟨hlo, hhi⟩ := Char.isDigit_iff_toNat.mp h
  have hlo : 48 ≤ c.toNat := hlo
  have hhi : c.toNat ≤ 57 := hhi
  simp [isSpace]
  omega

/-- There is no space around a text that begins with no space and ends in a digit. -/
theorem strip_of_digits {first : Char} {cs : List Char} (hfirst : isSpace first = false)
    (h : ∀ c ∈ cs, c.isDigit = true) :
    Text.strip isSpace (String.ofList (first :: cs)) = String.ofList (first :: cs) := by
  apply Text.strip_of_ends
  · intro c hc
    rw [String.toList_ofList, List.head?_cons, Option.some.injEq] at hc
    rw [← hc, hfirst]
  · intro c hc
    rw [String.toList_ofList] at hc
    rcases List.mem_cons.mp (List.mem_of_getLast? hc) with rfl | hmem
    · exact hfirst
    · exact isSpace_of_isDigit (h c hmem)

theorem readInt_of_isDigit {cs : List Char} (hcs : cs ≠ []) (h : ∀ c ∈ cs, c.isDigit = true) :
    readInt (String.ofList cs) =
      if cs.length ≤ maxDigits then some (Nat.ofDigitChars 10 cs 0 : Int) else none := by
  have hstrip : Text.strip isSpace (String.ofList cs) = String.ofList cs := by
    cases cs with
    | nil => exact absurd rfl hcs
    | cons c cs =>
        rw [List.forall_mem_cons] at h
        exact strip_of_digits (isSpace_of_isDigit h.1) h.2
  rw [readInt, hstrip, String.toList_ofList]
  split
  · exact absurd (h '+' List.mem_cons_self) (by decide)
  · exact absurd (h '-' List.mem_cons_self) (by decide)
  · rw [readUnsigned_of_isDigit hcs h]
    split <;> rfl

theorem readInt_minus {cs : List Char} (hcs : cs ≠ []) (h : ∀ c ∈ cs, c.isDigit = true) :
    readInt (String.ofList ('-' :: cs)) =
      if cs.length ≤ maxDigits then some (-(Nat.ofDigitChars 10 cs 0 : Int)) else none := by
  rw [readInt, strip_of_digits (by decide) h, String.toList_ofList]
  change (readUnsigned cs).map (fun n : Nat => -(n : Int)) = _
  rw [readUnsigned_of_isDigit hcs h]
  split <;> rfl

theorem readInt_plus {cs : List Char} (hcs : cs ≠ []) (h : ∀ c ∈ cs, c.isDigit = true) :
    readInt (String.ofList ('+' :: cs)) =
      if cs.length ≤ maxDigits then some (Nat.ofDigitChars 10 cs 0 : Int) else none := by
  rw [readInt, strip_of_digits (by decide) h, String.toList_ofList]
  change (readUnsigned cs).map (fun n : Nat => (n : Int)) = _
  rw [readUnsigned_of_isDigit hcs h]
  split <;> rfl

/-- A text with a character that neither stands in a number nor around it. -/
theorem readInt_eq_none {cs : List Char} {c : Char} (hmem : c ∈ cs)
    (hdecimal : Pattern.isDecimal c = false) (hspace : isSpace c = false)
    (hne : c ∉ ['_', '+', '-']) : readInt (String.ofList cs) = none := by
  simp only [List.mem_cons, List.not_mem_nil, or_false, not_or] at hne
  have hstrip : c ∈ (Text.strip isSpace (String.ofList cs)).toList :=
    Text.mem_strip (by rwa [String.toList_ofList]) hspace
  rw [readInt]
  split
  · next rest hrest =>
      rw [hrest, List.mem_cons, or_iff_right hne.2.1] at hstrip
      rw [readUnsigned_eq_none hstrip hdecimal hne.1, Option.map_none]
  · next rest hrest =>
      rw [hrest, List.mem_cons, or_iff_right hne.2.2] at hstrip
      rw [readUnsigned_eq_none hstrip hdecimal hne.1, Option.map_none]
  · rw [readUnsigned_eq_none hstrip hdecimal hne.1, Option.map_none]

end IntText
