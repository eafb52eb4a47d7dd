import Mathlib.Data.List.Basic
import Mathlib.Tactic.Common

/-!
# Pattern

Regular expressions as a backtracking matcher reads them.

* `Pattern.rests P cs` — what every match of `P` at the front of `cs` leaves of
  it, in the order in which the matcher tries them: alternatives from left to
  right, and repetitions as long as they can be;
* `Pattern.isMatch P cs` — there is a match;
* `Pattern.sub P f cs` — every match from left to right is replaced by what
  `f` makes of it.

`mem_rests_…` says for each kind of pattern what its matches are;
`sub_append_of_forall` and `sub_of_rests` take a substitution over a text
apart, into a front without matches and a first match.
-/

/-- Patterns over characters. -/
inductive Pattern where
  /-- the empty text -/
  | empty
  /-- one character of a class -/
  | char (p : Char → Bool)
  /-- one or more characters of a class -/
  | run (p : Char → Bool)
  /-- `$`: the end, or a newline at the end -/
  | endOfText
  | seq (a b : Pattern)
  | alt (a b : Pattern)

namespace Pattern

/-! ## matching -/

/-- The rests after a run of characters, the one after the longest first. -/
def runRests (p : Char → Bool) : List Char → List (List Char)
  | [] => []
  | c :: cs => if p c then runRests p cs ++ [cs] else []

/-- The rests after the matches at the front of a text. -/
def rests : Pattern → List Char → List (List Char)
  | empty, cs => [cs]
  | char _, [] => []
  | char p, c :: cs => if p c then [cs] else []
  | run p, cs => runRests p cs
  | endOfText, cs => if cs = [] ∨ cs = ['\n'] then [cs] else []
  | seq a b, cs => (a.rests cs).flatMap b.rests
  | alt a b, cs => a.rests cs ++ b.rests cs

/-- The pattern matches at the front of the text. -/
def isMatch (P : Pattern) (cs : List Char) : Bool := !(P.rests cs).isEmpty

def lit (c : Char) : Pattern := char (· == c)

def seqs (Ps : List Pattern) : Pattern := Ps.foldr seq empty

def opt (P : Pattern) : Pattern := alt P empty

/-- `p{n}` -/
def times (p : Char → Bool) : Nat → Pattern
  | 0 => empty
  | n + 1 => seq (char p) (times p n)

/-- `p{0,n}` -/
def atMost (p : Char → Bool) : Nat → Pattern
  | 0 => empty
  | n + 1 => opt (seq (char p) (atMost p n))

/-- The zeros of the decimal digits of Unicode 13; the other nine follow each. -/
def decimalZeros : List Nat :=
  [0x30, 0x660, 0x6f0, 0x7c0, 0x966, 0x9e6, 0xa66, 0xae6, 0xb66, 0xbe6, 0xc66, 0xce6, 0xd66,
    0xde6, 0xe50, 0xed0, 0xf20, 0x1040, 0x1090, 0x17e0, 0x1810, 0x1946, 0x19d0, 0x1a80, 0x1a90,
    0x1b50, 0x1bb0, 0x1c40, 0x1c50, 0xa620, 0xa8d0, 0xa900, 0xa9d0, 0xa9f0, 0xaa50, 0xabf0,
    0xff10, 0x104a0, 0x10d30, 0x11066, 0x110f0, 0x11136, 0x111d0, 0x112f0, 0x11450, 0x114d0,
    0x11650, 0x116c0, 0x11730, 0x118e0, 0x11950, 0x11c50, 0x11d50, 0x11da0, 0x16a60, 0x16b50,
    0x1d7ce, 0x1d7d8, 0x1d7e2, 0x1d7ec, 0x1d7f6, 0x1e140, 0x1e2f0, 0x1e950, 0x1fbf0]

/-- `\d`, in a pattern over text. -/
def isDecimal (c : Char) : Bool := decimalZeros.any fun z => z ≤ c.toNat && c.toNat < z + 10

/-- The digits of ASCII are decimals of Unicode. -/
theorem isDecimal_of_isDigit {c : Char} (h : c.isDigit = true) : isDecimal c = true := by
  rw [Char.isDigit_iff_toNat] at h
  rw [isDecimal, List.any_eq_true]
  refine ⟨0x30, List.mem_cons_self, ?_⟩
  have hlo : 48 ≤ c.toNat := h.1
  have hhi : c.toNat ≤ 57 := h.2
  simp only [Bool.and_eq_true, decide_eq_true_eq]
  omega

/-! ## substitution -/

/-- `re.sub`, of a pattern that does not match the empty text.  The first
`skip` characters belong to a match that has been replaced. -/
def subFrom (P : Pattern) (f : List Char → List Char) : Nat → List Char → List Char
  | _, [] => []
  | skip + 1, _ :: cs => subFrom P f skip cs
  | 0, c :: cs =>
    match P.rests (c :: cs) with
    | [] => c :: subFrom P f 0 cs
    | rest :: _ =>
      let matched := (c :: cs).take ((c :: cs).length - rest.length)
      f matched ++ subFrom P f (matched.length - 1) cs

def sub (P : Pattern) (f : List Char → List Char) (cs : List Char) : List Char :=
  subFrom P f 0 cs

/-! ## the matches of a pattern -/

section Rests

variable {p : Char → Bool} {a b : Pattern} {cs r : List Char}

@[simp] theorem mem_rests_empty : r ∈ empty.rests cs ↔ cs = r := by
  rw [rests, List.mem_singleton]
  exact eq_comm

@[simp] theorem mem_rests_seq :
    r ∈ (seq a b).rests cs ↔ ∃ m ∈ a.rests cs, r ∈ b.rests m := by
  rw [rests, List.mem_flatMap]

@[simp] theorem mem_rests_alt :
    r ∈ (alt a b).rests cs ↔ r ∈ a.rests cs ∨ r ∈ b.rests cs := by
  rw [rests, List.mem_append]

@[simp] theorem mem_rests_char : r ∈ (char p).rests cs ↔ ∃ c, p c = true ∧ cs = c :: r := by
  cases cs with
  | nil => simp [rests]
  | cons c cs =>
    by_cases hc : p c = true
    · rw [rests, if_pos hc, List.mem_singleton]
      constructor
      · rintro rfl
        exact ⟨c, hc, rfl⟩
      · rintro ⟨d, -, heq⟩
        exact (List.cons.inj heq).2.symm
    · rw [rests, if_neg hc]
      constructor
      · intro hmem
        exact absurd hmem List.not_mem_nil
      · rintro ⟨d, hd, heq⟩
        rw [← (List.cons.inj heq).1] at hd
        exact absurd hd hc

@[simp] theorem mem_rests_lit {c : Char} : r ∈ (lit c).rests cs ↔ cs = c :: r := by
  rw [lit, mem_rests_char]
  simp

@[simp] theorem mem_rests_opt : r ∈ (opt a).rests cs ↔ r ∈ a.rests cs ∨ cs = r := by
  rw [opt, mem_rests_alt, mem_rests_empty]

@[simp] theorem mem_rests_endOfText :
    r ∈ endOfText.rests cs ↔ cs = r ∧ (r = [] ∨ r = ['\n']) := by
  rw [rests]
  split
  · next h =>
    rw [List.mem_singleton]
    constructor
    · intro heq
      exact ⟨heq.symm, heq ▸ h⟩
    · intro heq
      exact heq.1.symm
  · next h =>
    constructor
    · intro hmem
      exact absurd hmem List.not_mem_nil
    · intro heq
      exact absurd (heq.1 ▸ heq.2) h

/-- Exactly `n` characters of the class. -/
theorem mem_rests_times {n : Nat} : r ∈ (times p n).rests cs ↔
    ∃ ds, ds.length = n ∧ (∀ d ∈ ds, p d = true) ∧ cs = ds ++ r := by
  induction n generalizing cs with
  | zero =>
    rw [times, mem_rests_empty]
    constructor
    · intro h
      exact ⟨[], rfl, by simp, h⟩
    · rintro ⟨ds, hlen, -, h⟩
      rw [List.eq_nil_of_length_eq_zero hlen] at h
      exact h
  | succ n ih =>
    rw [times, mem_rests_seq]
    simp only [mem_rests_char, ih]
    constructor
    · rintro ⟨m, ⟨c, hc, rfl⟩, ds, hlen, hds, rfl⟩
      exact ⟨c :: ds, by simp [hlen], by simpa [hc] using hds, rfl⟩
    · rintro ⟨ds, hlen, hds, rfl⟩
      cases ds with
      | nil => simp at hlen
      | cons c ds =>
        rw [List.forall_mem_cons] at hds
        exact ⟨ds ++ r, ⟨c, hds.1, rfl⟩, ds, by simpa using hlen, hds.2, rfl⟩

/-- Up to `n` characters of the class. -/
theorem mem_rests_atMost {n : Nat} : r ∈ (atMost p n).rests cs ↔
    ∃ ds, ds.length ≤ n ∧ (∀ d ∈ ds, p d = true) ∧ cs = ds ++ r := by
  induction n generalizing cs with
  | zero =>
    rw [atMost, mem_rests_empty]
    constructor
    · intro h
      exact ⟨[], Nat.le_refl 0, by simp, h⟩
    · rintro ⟨ds, hlen, -, h⟩
      rw [List.eq_nil_of_length_eq_zero (Nat.le_zero.1 hlen)] at h
      exact h
  | succ n ih =>
    rw [atMost, mem_rests_opt, mem_rests_seq]
    simp only [mem_rests_char, ih]
    constructor
    · rintro (⟨m, ⟨c, hc, rfl⟩, ds, hlen, hds, rfl⟩ | rfl)
      · exact ⟨c :: ds, by simpa using hlen, by simpa [hc] using hds, rfl⟩
      · exact ⟨[], Nat.zero_le _, by simp, rfl⟩
    · rintro ⟨ds, hlen, hds, rfl⟩
      cases ds with
      | nil => exact .inr rfl
      | cons c ds =>
        rw [List.forall_mem_cons] at hds
        exact .inl ⟨ds ++ r, ⟨c, hds.1, rfl⟩, ds, by simpa using hlen, hds.2, rfl⟩

/-- One or more characters of the class. -/
theorem mem_rests_run : r ∈ (run p).rests cs ↔
    ∃ ds, ds ≠ [] ∧ (∀ d ∈ ds, p d = true) ∧ cs = ds ++ r := by
  change r ∈ runRests p cs ↔ _
  induction cs with
  | nil =>
      refine iff_of_false List.not_mem_nil ?_
      rintro ⟨ds, hne, -, heq⟩
      exact hne (List.append_eq_nil_iff.mp heq.symm).1
  | cons c cs ih =>
      rw [runRests]
      split
      · next hc =>
          rw [List.mem_append, ih, List.mem_singleton]
          constructor
          · rintro (⟨ds, -, hds, rfl⟩ | rfl)
            · exact ⟨c :: ds, List.cons_ne_nil c ds, List.forall_mem_cons.mpr ⟨hc, hds⟩, rfl⟩
            · exact ⟨[c], List.cons_ne_nil c [], by simpa using hc, rfl⟩
          · rintro ⟨ds, hne, hds, heq⟩
            cases ds with
            | nil => exact absurd rfl hne
            | cons d ds =>
                obtain ⟨rfl, rfl⟩ := List.cons.inj heq
                rw [List.forall_mem_cons] at hds
                cases ds with
                | nil => exact .inr rfl
                | cons e ds => exact .inl ⟨e :: ds, List.cons_ne_nil e ds, hds.2, rfl⟩
      · next hc =>
          refine iff_of_false List.not_mem_nil ?_
          rintro ⟨ds, hne, hds, heq⟩
          cases ds with
          | nil => exact hne rfl
          | cons d ds =>
              obtain ⟨rfl, -⟩ := List.cons.inj heq
              exact hc (hds c List.mem_cons_self)

/-- A run is read to its end first. -/
theorem head_rests_run {ds rest : List Char} (hne : ds ≠ []) (hds : ∀ d ∈ ds, p d = true)
    (hrest : ∀ c ∈ rest.head?, p c = false) :
    ((run p).rests (ds ++ rest)).head? = some rest := by
  change (runRests p (ds ++ rest)).head? = some rest
  induction ds with
  | nil => exact absurd rfl hne
  | cons d ds ih =>
    rw [List.forall_mem_cons] at hds
    rw [List.cons_append, runRests, if_pos hds.1]
    cases ds with
    | nil =>
      cases rest with
      | nil => rfl
      | cons c rest =>
        have hc : p c = false := hrest c rfl
        simp [runRests, hc]
    | cons e ds =>
      have hinner := ih (List.cons_ne_nil e ds) hds.2
      rw [List.head?_append, hinner]
      rfl

/-- A text matches if the pattern can leave some rest of it. -/
theorem isMatch_iff {P : Pattern} : P.isMatch cs = true ↔ ∃ r, r ∈ P.rests cs := by
  rw [isMatch, Bool.not_eq_true', List.isEmpty_eq_false_iff_exists_mem]

end Rests

/-! ## the substitution over a text -/

section Sub

variable {P : Pattern} {f : List Char → List Char}

/-- What was matched is skipped. -/
theorem subFrom_length (l cs : List Char) : subFrom P f l.length (l ++ cs) = subFrom P f 0 cs := by
  induction l with
  | nil => rfl
  | cons c l ih => rw [List.length_cons, List.cons_append, subFrom, ih]

@[simp] theorem sub_nil : sub P f [] = [] := rfl

/-- Where the pattern does not match, the character stays. -/
theorem sub_cons_of_rests {c : Char} {cs : List Char} (h : P.rests (c :: cs) = []) :
    sub P f (c :: cs) = c :: sub P f cs := by
  rw [sub, subFrom, h]
  rfl

/-- A front at none of whose characters a match starts is kept. -/
theorem sub_append_of_forall {front cs : List Char}
    (h : ∀ l c l', front = l ++ c :: l' → P.rests (c :: l' ++ cs) = []) :
    sub P f (front ++ cs) = front ++ sub P f cs := by
  induction front with
  | nil => rfl
  | cons c front ih =>
    have hc := h [] c front rfl
    rw [List.cons_append] at hc ⊢
    rw [sub_cons_of_rests hc, ih]
    · rfl
    · intro l d l' heq
      exact h (c :: l) d l' (by rw [heq, List.cons_append])

/-- A match at the front is replaced, and the substitution goes on behind it. -/
theorem sub_of_rests {matched rest : List Char} (hne : matched ≠ [])
    (h : (P.rests (matched ++ rest)).head? = some rest) :
    sub P f (matched ++ rest) = f matched ++ sub P f rest := by
  cases matched with
  | nil => exact absurd rfl hne
  | cons c l =>
    rw [List.cons_append] at h ⊢
    rw [sub, subFrom]
    cases hrests : P.rests (c :: (l ++ rest)) with
    | nil =>
      rw [hrests] at h
      cases h
    | cons r rs =>
      rw [hrests, List.head?_cons, Option.some.injEq] at h
      rw [h]
      have hlen : (c :: (l ++ rest)).length - rest.length = (c :: l).length := by
        simp only [List.length_cons, List.length_append]
        omega
      have htake : (c :: (l ++ rest)).take (c :: l).length = c :: l := by
        rw [← List.cons_append, List.take_left]
      simp only [hlen, htake]
      rw [List.length_cons, Nat.add_sub_cancel, subFrom_length]
      rfl

end Sub

end Pattern
