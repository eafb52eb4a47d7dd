import PostgresqlK8s.Lib.IntText
import Mathlib.Algebra.Order.Floor.Semiring
import Mathlib.Data.Rat.Floor

/-!
# Resources.Quantities

Reading the quantities of Kubernetes: amounts of memory and of CPU.
-/

namespace PostgresqlK8s.Resources

open IntText (readInt maxDigits)

/-! ## the characters -/

/-- What a pattern and `upper` make of the characters.  Beyond ASCII any of them
may belong to words. -/
structure Characters where
  /-- `\w` -/
  isWord : Char → Bool
  /-- `str.upper`, of a character -/
  upper : Char → List Char
  isWord_ascii : ∀ c : Char, c.toNat < 128 → isWord c = (c.isAlphanum || c == '_')
  upper_ascii : ∀ c : Char, c.toNat < 128 → upper c = [c.toUpper]

/-- Beyond ASCII there are no letters. -/
def Characters.ascii : Characters where
  isWord c := c.isAlphanum || c == '_'
  upper c := [c.toUpper]
  isWord_ascii _ _ := rfl
  upper_ascii _ _ := rfl

/-! ## memory -/

/-- The groups of `^(\d+)(\w+)$`. -/
def splitMem (chars : Characters) (memStr : String) : Option (String × String) :=
  ((Pattern.run Pattern.isDecimal).rests memStr.toList).findSome? fun rest =>
    (((Pattern.run chars.isWord).seq .endOfText).rests rest).head?.map fun tail =>
      (String.ofList (memStr.toList.take (memStr.length - rest.length)),
        String.ofList (rest.take (rest.length - tail.length)))

def units : List (String × Int) :=
  [("KI", 1024), ("K", 10 ^ 3), ("MI", 1048576), ("M", 10 ^ 6), ("GI", 1073741824),
    ("G", 10 ^ 9), ("TI", 1099511627776), ("T", 10 ^ 12)]

/-- What `int` says of a text with too many digits. -/
def tooManyDigits (digits : String) : String :=
  s!"Exceeds the limit ({maxDigits} digits) for integer string conversion: " ++
    s!"value has {digits.length} digits; " ++
    "use sys.set_int_max_str_digits() to increase the limit"

/-- `any_memory_to_bytes`, with the message of the `ValueError`. -/
def anyMemoryToBytes (chars : Characters) (memStr : String) : Except String Int :=
  match readInt memStr with
  | some num => .ok num
  | none =>
      match splitMem chars memStr with
      | none => .error s!"Invalid memory definition in '{memStr}'"
      | some (memory, unit) =>
          match units.lookup (String.ofList (unit.toList.flatMap chars.upper)) with
          | none => .error s!"Invalid memory definition in '{memStr}'"
          | some factor =>
              match readInt memory with
              | none => .error (tooManyDigits memory)
              | some num => .ok (num * factor)

/-! ## CPU -/

/-- `any_cpu_to_cores`; nothing where it raises `ValueError`. -/
def anyCpuToCores (cpuStr : String) : Option Int :=
  if cpuStr.toList.getLast? = some 'm' then
    (readInt (String.ofList cpuStr.toList.dropLast)).map (· / 1000)
  else readInt cpuStr

/-! ## the parts of a text of memory -/

section

variable {chars : Characters} {memStr memory unit : List Char}

/-- What follows the digits is read as a word. -/
theorem splitMem_of_word (hmemory : memory ≠ [])
    (hdigits : ∀ c ∈ memory, Pattern.isDecimal c = true) (hunit : unit ≠ [])
    (hword : ∀ c ∈ unit, chars.isWord c = true)
    (hfirst : ∀ c ∈ unit.head?, Pattern.isDecimal c = false) :
    splitMem chars (String.ofList (memory ++ unit)) =
      some (String.ofList memory, String.ofList unit) := by
  have hrests := Pattern.head_rests_run hmemory hdigits hfirst
  obtain ⟨rests, hrests⟩ := List.head?_eq_some_iff.mp hrests
  have hrun : ((Pattern.run chars.isWord).rests unit).head? = some [] := by
    rw [← List.append_nil unit]
    exact Pattern.head_rests_run hunit hword (by simp)
  obtain ⟨tails, hrun⟩ := List.head?_eq_some_iff.mp hrun
  have htail : (((Pattern.run chars.isWord).seq .endOfText).rests unit).head? = some [] := by
    rw [Pattern.rests, hrun, List.flatMap_cons, List.head?_append]
    rfl
  rw [splitMem, String.toList_ofList, hrests, List.findSome?_cons, htail]
  simp

/-- A character that stands in neither group. -/
theorem splitMem_eq_none {c : Char} (hmem : c ∈ memStr) (hdecimal : Pattern.isDecimal c = false)
    (hword : chars.isWord c = false) (hne : c ≠ '\n') :
    splitMem chars (String.ofList memStr) = none := by
  rw [splitMem, String.toList_ofList, List.findSome?_eq_none_iff]
  intro rest hrest
  obtain ⟨digits, -, hdigits, rfl⟩ := Pattern.mem_rests_run.mp hrest
  have hrest : c ∈ rest := by
    rcases List.mem_append.mp hmem with hdigit | hrest
    · rw [hdigits c hdigit] at hdecimal
      cases hdecimal
    · exact hrest
  rw [Option.map_eq_none_iff, List.head?_eq_none_iff, List.eq_nil_iff_forall_not_mem]
  intro tail htail
  obtain ⟨tail', hrun, hend⟩ := Pattern.mem_rests_seq.mp htail
  obtain ⟨rfl, hend⟩ := Pattern.mem_rests_endOfText.mp hend
  obtain ⟨word, -, hchars, rfl⟩ := Pattern.mem_rests_run.mp hrun
  rcases List.mem_append.mp hrest with hmem | hmem
  · rw [hchars c hmem] at hword
    cases hword
  · rcases hend with rfl | rfl
    · cases hmem
    · exact hne (List.mem_singleton.mp hmem)

/-- The unit is a part of the text. -/
theorem unit_of_splitMem {m u : String} (h : splitMem chars (String.ofList memStr) = some (m, u)) :
    u.toList ≠ [] ∧ ∀ c ∈ u.toList, c ∈ memStr := by
  rw [splitMem, String.toList_ofList] at h
  obtain ⟨rest, hrest, h⟩ := List.exists_of_findSome?_eq_some h
  obtain ⟨digits, -, -, rfl⟩ := Pattern.mem_rests_run.mp hrest
  obtain ⟨tail, htail, h⟩ := Option.map_eq_some_iff.mp h
  obtain ⟨tail', hrun, hend⟩ := Pattern.mem_rests_seq.mp (List.mem_of_head? htail)
  obtain ⟨rfl, -⟩ := Pattern.mem_rests_endOfText.mp hend
  obtain ⟨word, hword, -, rfl⟩ := Pattern.mem_rests_run.mp hrun
  obtain ⟨-, rfl⟩ := Prod.mk.inj h
  simp only [List.length_append, Nat.add_sub_cancel, List.take_left, String.toList_ofList]
  exact ⟨hword, fun c hc => List.mem_append_right digits (List.mem_append_left tail' hc)⟩

/-! ## what is not read -/

theorem head_of_mem_units : ∀ unit ∈ units, ∃ c ∈ ['K', 'M', 'G', 'T'],
    unit.1.toList.head? = some c := by
  simp [units]

/-- A unit is told by its first letter. -/
theorem lookup_units_eq_none {c : Char} (hfirst : unit.head? = some c) (hascii : c.toNat < 128)
    (hletter : c.toUpper ∉ ['K', 'M', 'G', 'T']) :
    units.lookup (String.ofList (unit.flatMap chars.upper)) = none := by
  rw [List.lookup_eq_none_iff]
  intro pair hpair
  rw [bne_iff_ne]
  intro heq
  obtain ⟨d, hd, hhead⟩ := head_of_mem_units pair hpair
  obtain ⟨rest, rfl⟩ := List.head?_eq_some_iff.mp hfirst
  rw [← heq, String.toList_ofList, List.flatMap_cons, chars.upper_ascii c hascii,
    List.singleton_append, List.head?_cons, Option.some.injEq] at hhead
  exact hletter (hhead ▸ hd)

theorem anyMemoryToBytes_ne_ok {text : String} (hread : readInt text = none)
    (hunit : ∀ m u, splitMem chars text = some (m, u) →
      units.lookup (String.ofList (u.toList.flatMap chars.upper)) = none) (num : Int) :
    anyMemoryToBytes chars text ≠ .ok num := by
  rw [anyMemoryToBytes, hread]
  dsimp only
  split
  · simp
  · next m u hsplit =>
      rw [hunit m u hsplit]
      simp

/-- A text without a letter of a unit. -/
theorem anyMemoryToBytes_ne_ok_of_letters (hread : readInt (String.ofList memStr) = none)
    (hletters : ∀ c ∈ memStr, c.toNat < 128 ∧ c.toUpper ∉ ['K', 'M', 'G', 'T']) (num : Int) :
    anyMemoryToBytes chars (String.ofList memStr) ≠ .ok num := by
  refine anyMemoryToBytes_ne_ok hread (fun m u hsplit => ?_) num
  obtain ⟨hne, hmem⟩ := unit_of_splitMem hsplit
  obtain ⟨hascii, hletter⟩ := hletters _ (hmem _ (List.head_mem hne))
  exact lookup_units_eq_none (List.head?_eq_some_head hne) hascii hletter

/-- A text with a character that stands in neither group, and that is no number. -/
theorem anyMemoryToBytes_ne_ok_of_stray {c : Char} (hread : readInt (String.ofList memStr) = none)
    (hmem : c ∈ memStr) (hdecimal : Pattern.isDecimal c = false)
    (hword : chars.isWord c = false) (hne : c ≠ '\n') (num : Int) :
    anyMemoryToBytes chars (String.ofList memStr) ≠ .ok num := by
  refine anyMemoryToBytes_ne_ok hread (fun m u hsplit => ?_) num
  rw [splitMem_eq_none hmem hdecimal hword hne] at hsplit
  cases hsplit

end

end PostgresqlK8s.Resources
