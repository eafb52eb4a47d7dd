import Mathlib.Data.List.Basic
import Mathlib.Tactic.Common

/-!
# Quoting

Texts between quotes, where a quote inside is written twice.  Reading undoes
writing (`readQuoted_escape`), and what is read was written so
(`eq_of_readQuoted`).
-/

namespace Quoting

variable {q : Char}

/-- The text between the quotes. -/
def escape (q : Char) (l : List Char) : List Char := l.flatMap fun c => if c = q then [q, q] else [c]

/-- A text in quotes. -/
def quote (q : Char) (l : List Char) : List Char := q :: (escape q l ++ [q])

/-- The text behind an opening quote up to the closing one, and the rest. -/
def readQuoted (q : Char) : List Char → Option (List Char × List Char)
  | [] => none
  | [c] => if c = q then some ([], []) else none
  | c :: d :: cs =>
      if c = q then
        if d = q then (fun r => (q :: r.1, r.2)) <$> readQuoted q cs else some ([], d :: cs)
      else (fun r => (c :: r.1, r.2)) <$> readQuoted q (d :: cs)

@[simp] theorem escape_nil : escape q [] = [] := rfl

theorem escape_cons_self (l : List Char) : escape q (q :: l) = q :: q :: escape q l := by
  simp [escape]

theorem escape_cons_of_ne {c : Char} (h : c ≠ q) (l : List Char) :
    escape q (c :: l) = c :: escape q l := by
  simp [escape, h]

/-- Every quote makes the text one longer. -/
theorem length_escape (l : List Char) : (escape q l).length = l.length + l.count q := by
  induction l with
  | nil => rfl
  | cons c l ih =>
    by_cases hc : c = q
    · rw [hc, escape_cons_self, List.length_cons, List.length_cons, List.length_cons, ih,
        List.count_cons_self]
      omega
    · rw [escape_cons_of_ne hc, List.length_cons, List.length_cons, ih, List.count_cons_of_ne hc]
      omega

theorem escape_of_not_mem {l : List Char} (h : q ∉ l) : escape q l = l := by
  induction l with
  | nil => rfl
  | cons c l ih =>
    rw [List.mem_cons, not_or] at h
    rw [escape_cons_of_ne (Ne.symm h.1), ih h.2]

theorem readQuoted_cons_of_ne {c : Char} (h : c ≠ q) (cs : List Char) :
    readQuoted q (c :: cs) = (fun r => (c :: r.1, r.2)) <$> readQuoted q cs := by
  cases cs with
  | nil => simp [readQuoted, h]
  | cons d cs => rw [readQuoted, if_neg h]

theorem readQuoted_quote_quote (cs : List Char) :
    readQuoted q (q :: q :: cs) = (fun r => (q :: r.1, r.2)) <$> readQuoted q cs := by
  rw [readQuoted, if_pos rfl, if_pos rfl]

/-- The closing quote is the one that no other follows. -/
theorem readQuoted_quote {rest : List Char} (h : rest.head? ≠ some q) :
    readQuoted q (q :: rest) = some ([], rest) := by
  cases rest with
  | nil => rw [readQuoted, if_pos rfl]
  | cons c rest =>
    have hc : c ≠ q := by
      rintro rfl
      exact h rfl
    rw [readQuoted, if_pos rfl, if_neg hc]

/-- A text is read back up to its closing quote. -/
theorem readQuoted_escape (l : List Char) {rest : List Char} (h : rest.head? ≠ some q) :
    readQuoted q (escape q l ++ q :: rest) = some (l, rest) := by
  induction l with
  | nil => exact readQuoted_quote h
  | cons c l ih =>
    by_cases hc : c = q
    · rw [hc, escape_cons_self, List.cons_append, List.cons_append, readQuoted_quote_quote, ih]
      rfl
    · rw [escape_cons_of_ne hc, List.cons_append, readQuoted_cons_of_ne hc, ih]
      rfl

/-- What is read was written so. -/
theorem eq_of_readQuoted {cs l rest : List Char} (h : readQuoted q cs = some (l, rest)) :
    cs = escape q l ++ q :: rest := by
  induction cs using readQuoted.induct q generalizing l with
  | case1 => cases h
  | case2 =>
    rw [readQuoted, if_pos rfl] at h
    cases h
    rfl
  | case3 c hc =>
    rw [readQuoted, if_neg hc] at h
    cases h
  | case4 cs ih =>
    rw [readQuoted_quote_quote] at h
    obtain ⟨r, hr, heq⟩ := Option.map_eq_some_iff.mp h
    cases heq
    rw [ih hr, escape_cons_self]
    rfl
  | case5 d cs hd =>
    rw [readQuoted, if_pos rfl, if_neg hd] at h
    cases h
    rfl
  | case6 c d cs hc ih =>
    rw [readQuoted, if_neg hc] at h
    obtain ⟨r, hr, heq⟩ := Option.map_eq_some_iff.mp h
    cases heq
    rw [ih hr, escape_cons_of_ne hc]
    rfl

/-- Texts without a character end at the first one that follows them. -/
theorem append_cons_injective {l l' rest rest' : List Char} (h : q ∉ l) (h' : q ∉ l')
    (heq : l ++ q :: rest = l' ++ q :: rest') : l = l' ∧ rest = rest' := by
  induction l generalizing l' with
  | nil =>
    cases l' with
    | nil => exact ⟨rfl, (List.cons.inj heq).2⟩
    | cons c l' => exact absurd ((List.cons.inj heq).1 ▸ List.mem_cons_self) h'
  | cons c l ih =>
    cases l' with
    | nil => exact absurd ((List.cons.inj heq).1 ▸ List.mem_cons_self) h
    | cons c' l' =>
      obtain ⟨hc, hl⟩ := List.cons.inj heq
      rw [List.mem_cons, not_or] at h h'
      obtain ⟨rfl, hrest⟩ := ih h.2 h'.2 hl
      exact ⟨by rw [hc], hrest⟩

end Quoting
