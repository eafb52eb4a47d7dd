import Mathlib.Data.Char
import Mathlib.Data.List.Basic
import Mathlib.Data.List.Lex
import Mathlib.Tactic.Common
import Mathlib.Tactic.Ring

/-!
# Positional

Positional numerals: texts of digits, and the numbers they stand for.

* `Numerals.value` — the number of a text, most significant digit first;
* `Numerals.write k n` — the text of `n` in `k` digits.

The digits are ordered as their values are, so texts of one length are ordered
as their numbers are (`lt_iff_value_lt`).  Texts of different lengths need not
be.
-/

/-- Digits in a base, as elements of an ordered type. -/
structure Numerals (α : Type*) [LinearOrder α] where
  base : Nat
  one_lt_base : 1 < base
  isDigit : α → Bool
  digit : α → Nat
  char : Nat → α
  digit_lt : ∀ {c}, isDigit c → digit c < base
  lt_iff : ∀ {c d}, isDigit c → isDigit d → (c < d ↔ digit c < digit d)
  isDigit_char : ∀ {n}, n < base → isDigit (char n)
  digit_char : ∀ {n}, n < base → digit (char n) = n

namespace Numerals

variable {α : Type*} [LinearOrder α] (N : Numerals α)

/-- The number of a text. -/
def value (l : List α) : Nat := l.foldl (fun n c => N.base * n + N.digit c) 0

/-- The text of a number in `k` digits. -/
def write : Nat → Nat → List α
  | 0, _ => []
  | k + 1, n => write k (n / N.base) ++ [N.char (n % N.base)]

/-- All characters of a text are digits. -/
def AllDigits (l : List α) : Prop := ∀ c ∈ l, N.isDigit c = true

instance (l : List α) : Decidable (N.AllDigits l) :=
  inferInstanceAs (Decidable (∀ c ∈ l, N.isDigit c = true))

/-! ## the number of a text -/

@[simp] theorem value_nil : N.value [] = 0 := rfl

/-- Reading on from `n` is reading on from nothing, `n` places higher. -/
theorem foldl_eq (l : List α) (n : Nat) :
    l.foldl (fun n c => N.base * n + N.digit c) n = n * N.base ^ l.length + N.value l := by
  induction l generalizing n with
  | nil => simp
  | cons c l ih =>
    have hvalue : N.value (c :: l) = (N.base * 0 + N.digit c) * N.base ^ l.length + N.value l :=
      ih (N.base * 0 + N.digit c)
    rw [List.foldl_cons, ih, hvalue, List.length_cons, Nat.pow_succ]
    ring

/-- The value of a first digit is its place's. -/
theorem value_cons (c : α) (l : List α) :
    N.value (c :: l) = N.digit c * N.base ^ l.length + N.value l := by
  rw [value, List.foldl_cons, foldl_eq]
  simp

/-- The value of two texts, one after the other. -/
theorem value_append (l l' : List α) :
    N.value (l ++ l') = N.value l * N.base ^ l'.length + N.value l' := by
  rw [value, List.foldl_append, foldl_eq]
  rfl

/-- The value of `l` digits takes `l` places. -/
theorem value_lt {l : List α} (h : N.AllDigits l) : N.value l < N.base ^ l.length := by
  induction l with
  | nil => simp
  | cons c l ih =>
    have hc := N.digit_lt (h c List.mem_cons_self)
    have hl := ih fun d hd => h d (List.mem_cons_of_mem c hd)
    have hmul : (N.digit c + 1) * N.base ^ l.length ≤ N.base * N.base ^ l.length :=
      Nat.mul_le_mul_right _ hc
    rw [value_cons, List.length_cons, Nat.pow_succ, Nat.mul_comm _ N.base]
    rw [Nat.add_mul, Nat.one_mul] at hmul
    omega

/-! ## the order of texts -/

theorem cons_lt_cons_iff {c d : α} {l l' : List α} :
    c :: l < d :: l' ↔ c < d ∨ c = d ∧ l < l' := List.cons_lt_cons_iff

/-- Fronts of one length are compared first. -/
theorem append_lt_append_iff {a a' l l' : List α} (hlen : a.length = a'.length) :
    a ++ l < a' ++ l' ↔ a < a' ∨ a = a' ∧ l < l' := by
  induction a generalizing a' with
  | nil =>
    rw [List.eq_nil_of_length_eq_zero hlen.symm]
    simp
  | cons c a ih =>
    cases a' with
    | nil => simp at hlen
    | cons d a' =>
      have hlen' : a.length = a'.length := by simpa using hlen
      rw [List.cons_append, List.cons_append, cons_lt_cons_iff, cons_lt_cons_iff, ih hlen',
        List.cons.injEq]
      constructor
      · rintro (hcd | ⟨rfl, h | ⟨rfl, h⟩⟩)
        · exact .inl (.inl hcd)
        · exact .inl (.inr ⟨rfl, h⟩)
        · exact .inr ⟨⟨rfl, rfl⟩, h⟩
      · rintro ((hcd | ⟨rfl, h⟩) | ⟨⟨rfl, rfl⟩, h⟩)
        · exact .inl hcd
        · exact .inr ⟨rfl, .inl h⟩
        · exact .inr ⟨rfl, .inr ⟨rfl, h⟩⟩

/-- Texts of one length are ordered as their numbers are. -/
theorem lt_iff_value_lt {l l' : List α} (hl : N.AllDigits l) (hl' : N.AllDigits l')
    (hlen : l.length = l'.length) : l < l' ↔ N.value l < N.value l' := by
  induction l generalizing l' with
  | nil =>
    cases l' with
    | nil => simp
    | cons d l' => simp at hlen
  | cons c l ih =>
    cases l' with
    | nil => simp at hlen
    | cons d l' =>
      have hc := hl c List.mem_cons_self
      have hd := hl' d List.mem_cons_self
      have htail : N.AllDigits l := fun x hx => hl x (List.mem_cons_of_mem c hx)
      have htail' : N.AllDigits l' := fun x hx => hl' x (List.mem_cons_of_mem d hx)
      have hlen' : l.length = l'.length := by simpa using hlen
      have hlt := N.value_lt htail
      have hlt' := N.value_lt htail'
      rw [hlen'] at hlt
      rw [cons_lt_cons_iff, ih htail htail' hlen', value_cons, value_cons, hlen']
      rcases lt_trichotomy c d with h | h | h
      · -- the first digits decide, whatever follows them
        have hdigit := (N.lt_iff hc hd).1 h
        have hmul : (N.digit c + 1) * N.base ^ l'.length ≤ N.digit d * N.base ^ l'.length :=
          Nat.mul_le_mul_right _ hdigit
        rw [Nat.add_mul, Nat.one_mul] at hmul
        exact iff_of_true (.inl h) (by omega)
      · rw [h]
        simp
      · have hdigit := (N.lt_iff hd hc).1 h
        have hmul : (N.digit d + 1) * N.base ^ l'.length ≤ N.digit c * N.base ^ l'.length :=
          Nat.mul_le_mul_right _ hdigit
        rw [Nat.add_mul, Nat.one_mul] at hmul
        refine iff_of_false ?_ (by omega)
        rintro (hlt | ⟨heq, -⟩)
        · exact lt_asymm h hlt
        · exact ne_of_gt h heq

/-! ## the text of a number -/

@[simp] theorem length_write (k n : Nat) : (N.write k n).length = k := by
  induction k generalizing n with
  | zero => rfl
  | succ k ih => rw [write, List.length_append, ih, List.length_singleton]

/-- Only digits are written. -/
theorem allDigits_write (k n : Nat) : N.AllDigits (N.write k n) := by
  induction k generalizing n with
  | zero => simp [AllDigits, write]
  | succ k ih =>
    intro c hc
    rw [write, List.mem_append, List.mem_singleton] at hc
    rcases hc with hc | hc
    · exact ih (n / N.base) c hc
    · rw [hc]
      exact N.isDigit_char (Nat.mod_lt _ (Nat.zero_lt_of_lt N.one_lt_base))

/-- Reading takes back writing, where the number has room. -/
theorem value_write {k n : Nat} (h : n < N.base ^ k) : N.value (N.write k n) = n := by
  induction k generalizing n with
  | zero =>
    rw [Nat.pow_zero] at h
    simp [write]
    omega
  | succ k ih =>
    have hbase : 0 < N.base := Nat.zero_lt_of_lt N.one_lt_base
    have hdiv : n / N.base < N.base ^ k := by
      rw [Nat.div_lt_iff_lt_mul hbase]
      exact h
    rw [write, value_append, ih hdiv, value_cons]
    rw [N.digit_char (Nat.mod_lt _ hbase)]
    simp only [List.length_singleton, Nat.pow_one, List.length_nil, Nat.pow_zero, Nat.mul_one,
      value_nil, Nat.add_zero]
    exact Nat.div_add_mod' n N.base

/-- Different numbers of that room are written differently. -/
theorem write_injective {k n m : Nat} (hn : n < N.base ^ k) (hm : m < N.base ^ k)
    (h : N.write k n = N.write k m) : n = m := by
  rw [← N.value_write hn, h, N.value_write hm]

/-- Numbers that fit the width are ordered as their texts are. -/
theorem write_lt_write_iff {k n m : Nat} (hn : n < N.base ^ k) (hm : m < N.base ^ k) :
    N.write k n < N.write k m ↔ n < m := by
  rw [N.lt_iff_value_lt (N.allDigits_write k n) (N.allDigits_write k m) (by simp),
    N.value_write hn, N.value_write hm]

/-! ## decimal and hexadecimal digits -/

/-- Characters are ordered by their code points. -/
theorem char_lt_iff {c d : Char} : c < d ↔ c.toNat < d.toNat := by
  rw [Char.lt_def, UInt32.lt_iff_toNat_lt]
  rfl

/-- The code points of the digits. -/
theorem isDigit_iff {c : Char} : c.isDigit = true ↔ 48 ≤ c.toNat ∧ c.toNat ≤ 57 :=
  Char.isDigit_iff_toNat

/-- The digits `0` to `9`. -/
def decimal : Numerals Char where
  base := 10
  one_lt_base := by decide
  isDigit c := c.isDigit
  digit c := c.toNat - 48
  char n := Char.ofNat (48 + n)
  digit_lt := by
    intro c hc
    rw [isDigit_iff] at hc
    omega
  lt_iff := by
    intro c d hc hd
    rw [isDigit_iff] at hc hd
    rw [char_lt_iff]
    omega
  isDigit_char := by decide
  digit_char := by decide

/-- The digits `0` to `9` and `A` to `F`. -/
def hexadecimal : Numerals Char where
  base := 16
  one_lt_base := by decide
  isDigit c := c.isDigit || (65 ≤ c.toNat && c.toNat ≤ 70)
  digit c := if c.isDigit then c.toNat - 48 else c.toNat - 55
  char n := if n < 10 then Char.ofNat (48 + n) else Char.ofNat (55 + n)
  digit_lt := by
    intro c hc
    simp only [Bool.or_eq_true, Bool.and_eq_true, decide_eq_true_eq, isDigit_iff] at hc
    split
    · next h =>
      rw [isDigit_iff] at h
      omega
    · omega
  lt_iff := by
    intro c d hc hd
    simp only [Bool.or_eq_true, Bool.and_eq_true, decide_eq_true_eq, isDigit_iff] at hc hd
    rw [char_lt_iff]
    simp only [isDigit_iff]
    split <;> split <;> omega
  isDigit_char := by decide
  digit_char := by decide

end Numerals
