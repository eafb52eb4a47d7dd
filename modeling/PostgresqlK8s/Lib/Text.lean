import Mathlib.Data.List.Basic
import Mathlib.Data.List.Infix
import Mathlib.Data.List.TakeWhile

/-!
# Text

Splitting a text at a separator, joining texts with one, and stripping a class
of characters from both ends.  Splitting undoes joining where no text holds
the separator (`split_join`).
-/

namespace Text

/-- The pieces between the separators; an empty text is one empty piece. -/
def split (sep : Char) (s : String) : List String := (s.toList.splitOn sep).map String.ofList

/-- The texts with the separator between them. -/
def join (sep : Char) (ss : List String) : String :=
  String.ofList ([sep].intercalate (ss.map String.toList))

/-- The text without leading and trailing characters of a class. -/
def strip (p : Char → Bool) (s : String) : String :=
  String.ofList ((s.toList.dropWhile p).reverse.dropWhile p).reverse

/-- The text without trailing characters of a class. -/
def rstrip (p : Char → Bool) (s : String) : String :=
  String.ofList (s.toList.reverse.dropWhile p).reverse

/-- The text before the last separator and the text after it, if there is one. -/
def rsplitOnce (sep : Char) (s : String) : Option (String × String) :=
  match s.toList.reverse.dropWhile (· != sep) with
  | [] => none
  | _ :: front => some (String.ofList front.reverse,
      String.ofList (s.toList.reverse.takeWhile (· != sep)).reverse)

/-- `needle in s`. -/
def occursIn (needle s : String) : Bool := decide (needle.toList <:+: s.toList)

variable {sep : Char} {ss : List String}

theorem split_join (hsep : ∀ s ∈ ss, sep ∉ s.toList) (hne : ss ≠ []) :
    split sep (join sep ss) = ss := by
  have hlists : ∀ l ∈ ss.map String.toList, sep ∉ l := by
    intro l hl
    obtain ⟨s, hs, rfl⟩ := List.mem_map.mp hl
    exact hsep s hs
  have hne' : ss.map String.toList ≠ [] := by simpa using hne
  rw [split, join, String.toList_ofList, List.splitOn_intercalate sep hlists hne', List.map_map]
  conv_rhs => rw [← List.map_id ss]
  exact List.map_congr_left fun s _ => String.ofList_toList

theorem join_split (s : String) : join sep (split sep s) = s := by
  have hid : String.toList ∘ String.ofList = id := funext fun l => String.toList_ofList
  rw [join, split, List.map_map, hid, List.map_id, List.intercalate_splitOn, String.ofList_toList]

/-- There is a piece more than there are separators. -/
theorem length_split (s : String) : (split sep s).length = s.toList.count sep + 1 := by
  rw [split, List.length_map]
  induction s.toList with
  | nil => rfl
  | cons c cs ih =>
      rw [List.splitOn_cons_eq_if_modifyHead, List.count_cons]
      split
      · rw [List.length_cons, ih]
      · rw [List.length_modifyHead, ih, Nat.add_zero]

@[simp] theorem join_nil : join sep [] = "" := rfl

@[simp] theorem split_empty : split sep "" = [""] := rfl

/-- What stands after a separator and holds none is split off. -/
theorem rsplitOnce_append {front back : String} (h : sep ∉ back.toList) :
    rsplitOnce sep (front ++ String.singleton sep ++ back) = some (front, back) := by
  have hreverse : (front ++ String.singleton sep ++ back).toList.reverse =
      back.toList.reverse ++ sep :: front.toList.reverse := by
    simp
  have hback : ∀ c ∈ back.toList.reverse, (c != sep) = true := by
    intro c hc
    rw [bne_iff_ne]
    rintro rfl
    exact h (List.mem_reverse.mp hc)
  rw [rsplitOnce, hreverse, List.dropWhile_append_of_pos hback, List.takeWhile_append_of_pos hback,
    List.dropWhile_cons_of_neg (by simp), List.takeWhile_cons_of_neg (by simp)]
  simp

theorem dropWhile_of_head? {p : Char → Bool} {l : List Char}
    (h : ∀ c, l.head? = some c → p c = false) : l.dropWhile p = l := by
  cases l with
  | nil => rfl
  | cons c l =>
      have hc : ¬ p c = true := by simp [h c rfl]
      exact List.dropWhile_cons_of_neg hc

/-- Stripping takes off what stands around a text that neither begins nor ends
with such a character. -/
theorem strip_append {p : Char → Bool} {before s after : String}
    (hbefore : ∀ c ∈ before.toList, p c = true) (hafter : ∀ c ∈ after.toList, p c = true)
    (hhead : ∀ c, s.toList.head? = some c → p c = false)
    (hlast : ∀ c, s.toList.getLast? = some c → p c = false) :
    strip p (before ++ s ++ after) = s := by
  have hafter' : ∀ c ∈ after.toList.reverse, p c = true := fun c hc =>
    hafter c (List.mem_reverse.mp hc)
  have hreverse : s.toList.reverse.dropWhile p = s.toList.reverse := by
    apply dropWhile_of_head?
    intro c hc
    rw [List.head?_reverse] at hc
    exact hlast c hc
  have hfront : (s.toList ++ after.toList).dropWhile p =
      if s = "" then [] else s.toList ++ after.toList := by
    split
    · next hempty =>
        rw [hempty]
        exact List.dropWhile_eq_nil_iff.mpr hafter
    · next hne =>
        apply dropWhile_of_head?
        intro c hc
        rw [List.head?_append_of_ne_nil _ (by simpa using hne)] at hc
        exact hhead c hc
  rw [strip, String.toList_append, String.toList_append, List.append_assoc,
    List.dropWhile_append_of_pos hbefore, hfront]
  split
  · next hempty => rw [hempty]; rfl
  · rw [List.reverse_append, List.dropWhile_append_of_pos hafter', hreverse,
      List.reverse_reverse, String.ofList_toList]

/-- Stripping leaves a text that neither begins nor ends with such a
character. -/
theorem strip_of_ends {p : Char → Bool} {s : String}
    (hhead : ∀ c, s.toList.head? = some c → p c = false)
    (hlast : ∀ c, s.toList.getLast? = some c → p c = false) : strip p s = s := by
  have hnone : ∀ c ∈ "".toList, p c = true := by simp
  have hstrip := strip_append hnone hnone hhead hlast
  rwa [String.empty_append, String.append_empty] at hstrip

theorem count_dropWhile {p : Char → Bool} {l : List Char} {c : Char} (hc : p c = false) :
    (l.dropWhile p).count c = l.count c := by
  have hfront : (l.takeWhile p).count c = 0 := by
    rw [List.count_eq_zero]
    intro hmem
    rw [List.mem_takeWhile_imp hmem] at hc
    cases hc
  conv_rhs => rw [← List.takeWhile_append_dropWhile (p := p) (l := l), List.count_append, hfront,
    Nat.zero_add]

/-- Stripping keeps how often a character that is not of the class occurs. -/
theorem count_strip {p : Char → Bool} {s : String} {c : Char} (hc : p c = false) :
    (strip p s).toList.count c = s.toList.count c := by
  rw [strip, String.toList_ofList, List.count_reverse, count_dropWhile hc, List.count_reverse,
    count_dropWhile hc]

/-- Stripping keeps the characters that are not of the class. -/
theorem mem_strip {p : Char → Bool} {s : String} {c : Char} (h : c ∈ s.toList)
    (hc : p c = false) : c ∈ (strip p s).toList := by
  rw [← List.count_pos_iff, count_strip hc, List.count_pos_iff]
  exact h

end Text
