import Mathlib.Logic.Function.Basic

/-!
# Decimal

The decimal text of a number: its characters are digits, and it determines
the number, which is read back from it.
-/

namespace Decimal

/-- A number is written with its decimal digits. -/
theorem toList_toString (n : Nat) : (toString n).toList = Nat.toDigits 10 n := by
  rw [Nat.toString_eq_repr]
  exact Nat.toList_repr

/-- Different numbers are written differently. -/
theorem toString_injective : Function.Injective (toString : Nat → String) := by
  intro m n h
  have hdigits := congrArg String.toList h
  rw [toList_toString, toList_toString] at hdigits
  rw [← Nat.ofDigitChars_ten_toDigits (n := m), hdigits, Nat.ofDigitChars_ten_toDigits]

/-- Nothing but digits is written. -/
theorem isDigit_of_mem {n : Nat} {c : Char} (h : c ∈ (toString n).toList) : c.isDigit := by
  rw [toList_toString] at h
  exact Nat.isDigit_of_mem_toDigits (by decide) (by decide) h

/-- No separator occurs in a number. -/
theorem not_mem_toString {c : Char} (hc : c.isDigit = false) (n : Nat) :
    c ∉ (toString n).toList := by
  intro hmem
  rw [isDigit_of_mem hmem] at hc
  cases hc

/-- The number that a text of digits stands for, with a minus before it where it
is negative. -/
def readSigned (text : String) : Int :=
  match text.toList with
  | '-' :: digits => -(Nat.ofDigitChars 10 digits 0 : Nat)
  | digits => (Nat.ofDigitChars 10 digits 0 : Nat)

/-- Without a sign, the number is read as it is. -/
theorem readSigned_toString (n : Nat) : readSigned (toString n) = n := by
  rw [readSigned]
  split
  · next digits hdigits =>
      have hminus : '-' ∈ (toString n).toList := hdigits ▸ List.mem_cons_self
      exact absurd hminus (not_mem_toString rfl n)
  · rw [toList_toString, Nat.ofDigitChars_ten_toDigits]

/-- A negative number has a minus before its digits. -/
theorem toList_toString_negSucc (n : Nat) :
    (toString (Int.negSucc n)).toList = '-' :: (toString (n + 1)).toList := by
  change ("-" ++ toString (n + 1)).toList = _
  simp

/-- Reading takes back writing, also for negative numbers. -/
theorem readSigned_toString_int (n : Int) : readSigned (toString n) = n := by
  cases n with
  | ofNat n => exact readSigned_toString n
  | negSucc n =>
      simp only [readSigned, toList_toString_negSucc]
      rw [toList_toString, Nat.ofDigitChars_ten_toDigits]
      rfl

@[simp] theorem readSigned_repr (n : Int) : readSigned n.repr = n := readSigned_toString_int n

/-- Nothing but digits and a minus is written. -/
theorem not_mem_toString_int {c : Char} (hc : c.isDigit = false) (hsign : c ≠ '-') (n : Int) :
    c ∉ (toString n).toList := by
  cases n with
  | ofNat n => exact not_mem_toString hc n
  | negSucc n =>
      rw [toList_toString_negSucc, List.mem_cons, not_or]
      exact ⟨hsign, not_mem_toString hc (n + 1)⟩

end Decimal
