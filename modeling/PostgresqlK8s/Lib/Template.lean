import Mathlib.Data.List.Basic
import Mathlib.Tactic.Common

/-!
# Template

Texts with replacement fields between braces.  A brace that is written twice
stands for itself; any other one opens or closes a field.
-/

namespace Template

/-- A replacement field `{name!conversion:spec}`. -/
structure Field where
  name : List Char
  conversion : Option Char
  spec : List Char
deriving DecidableEq, Repr

/-- The name of a field, the character that ends it, and the rest.  Between
brackets every character belongs to the name. -/
def readName : Bool → List Char → Option (List Char × Char × List Char)
  | _, [] => none
  | true, c :: cs => (fun r => (c :: r.1, r.2)) <$> readName (c != ']') cs
  | false, c :: cs =>
      if c = '{' then none
      else if c = '}' ∨ c = ':' ∨ c = '!' then some ([], c, cs)
      else (fun r => (c :: r.1, r.2)) <$> readName (c == '[') cs

/-- The format of a field up to the brace that closes it; braces inside are
balanced. -/
def readSpec : Nat → List Char → Option (List Char × List Char)
  | _, [] => none
  | depth, c :: cs =>
      if c = '{' then (fun r => (c :: r.1, r.2)) <$> readSpec (depth + 1) cs
      else if c = '}' then
        match depth with
        | 0 => some ([], cs)
        | depth + 1 => (fun r => (c :: r.1, r.2)) <$> readSpec depth cs
      else (fun r => (c :: r.1, r.2)) <$> readSpec depth cs

/-- The field behind an opening brace, and the rest; there is none if the field
is malformed. -/
def readField (cs : List Char) : Option (Field × List Char) := do
  let (name, c, cs) ← readName false cs
  if c = '}' then return (⟨name, none, []⟩, cs)
  else if c = ':' then
    let (spec, cs) ← readSpec 0 cs
    return (⟨name, none, spec⟩, cs)
  else match cs with
    | conversion :: '}' :: cs => return (⟨name, some conversion, []⟩, cs)
    | conversion :: ':' :: cs => do
        let (spec, cs) ← readSpec 0 cs
        return (⟨name, some conversion, spec⟩, cs)
    | _ => none

/-- A field name takes characters. -/
theorem length_of_readName {inside : Bool} {cs : List Char} {r : List Char × Char × List Char}
    (h : readName inside cs = some r) : r.2.2.length < cs.length := by
  induction cs generalizing inside r with
  | nil =>
    cases inside with
    | false => cases h
    | true => cases h
  | cons c cs ih =>
    rw [List.length_cons]
    cases inside with
    | true =>
      rw [readName] at h
      obtain ⟨r', hr', rfl⟩ := Option.map_eq_some_iff.mp h
      have hlt := ih hr'
      dsimp only
      omega
    | false =>
      rw [readName] at h
      split at h
      · cases h
      · split at h
        · cases h
          exact Nat.lt_succ_self _
        · obtain ⟨r', hr', rfl⟩ := Option.map_eq_some_iff.mp h
          have hlt := ih hr'
          dsimp only
          omega

/-- So does a format. -/
theorem length_of_readSpec {depth : Nat} {cs : List Char} {r : List Char × List Char}
    (h : readSpec depth cs = some r) : r.2.length < cs.length := by
  induction cs generalizing depth r with
  | nil => cases h
  | cons c cs ih =>
    have hstep {depth : Nat} {r : List Char × List Char}
        (h : (fun r => (c :: r.1, r.2)) <$> readSpec depth cs = some r) :
        r.2.length < (c :: cs).length := by
      obtain ⟨r', hr', rfl⟩ := Option.map_eq_some_iff.mp h
      have hlt := ih hr'
      exact Nat.lt_succ_of_lt hlt
    rw [readSpec.eq_def] at h
    dsimp only at h
    split at h
    · exact hstep h
    · split at h
      · cases depth with
        | zero =>
          cases h
          exact Nat.lt_succ_self _
        | succ depth => exact hstep h
      · exact hstep h

/-- A field is at least the brace that closes it. -/
theorem length_of_readField {cs : List Char} {r : Field × List Char}
    (h : readField cs = some r) : r.2.length < cs.length := by
  rw [readField] at h
  obtain ⟨⟨name, c, rest⟩, hname, h⟩ := Option.bind_eq_some_iff.mp h
  have hlt : rest.length < cs.length := length_of_readName hname
  dsimp only at h
  split at h
  · cases h
    exact hlt
  · split at h
    · obtain ⟨⟨spec, rest'⟩, hspec, h⟩ := Option.bind_eq_some_iff.mp h
      have hlt' : rest'.length < rest.length := length_of_readSpec hspec
      cases h
      exact Nat.lt_trans hlt' hlt
    · split at h
      · cases h
        rw [List.length_cons, List.length_cons] at hlt
        dsimp only
        omega
      · obtain ⟨⟨spec, rest'⟩, hspec, h⟩ := Option.bind_eq_some_iff.mp h
        have hlt' := length_of_readSpec hspec
        cases h
        rw [List.length_cons, List.length_cons] at hlt
        dsimp only at hlt' ⊢
        omega
      · cases h

end Template
