import PostgresqlK8s.Lib.Text

/-!
# Secrets.Key

The names of the secrets that the charm keeps.

A name is used as it is in the databag of the peer relation, where older
versions kept the values, and translated in the Juju secret, whose keys Juju
restricts.  All names that the charm uses are such keys already, but for `ca`,
which is too short and has a translation of its own.
-/

namespace PostgresqlK8s.Secrets

/-- `SECRET_INTERNAL_LABEL`. -/
def secretInternalLabel : String := "internal-secret"

/-- `SECRET_KEY_OVERRIDES`. -/
def secretKeyOverrides : List (String × String) := [("ca", "cauth")]

/-- `_translate_field_to_secret_key`, where Juju has secrets. -/
def translateFieldToSecretKey (key : String) : String :=
  let key := (secretKeyOverrides.lookup key).getD key
  Text.strip (· == '-') (String.ofList (key.toList.map fun c => if c = '_' then '-' else c))

/-! ## the keys that Juju accepts -/

def isLowerOrDigit (c : Char) : Bool := c.isLower || c.isDigit

/-- How often `-?[a-z0-9]` matches, if nothing else is left. -/
def secretKeyGroups : List Char → Option Nat
  | [] => some 0
  | '-' :: c :: cs => if isLowerOrDigit c then (secretKeyGroups cs).map (· + 1) else none
  | c :: cs => if isLowerOrDigit c then (secretKeyGroups cs).map (· + 1) else none

/-- `^[a-z](-?[a-z0-9]){2,}$`. -/
def isSecretKey (s : String) : Bool :=
  match s.toList with
  | [] => false
  | c :: cs => c.isLower && (secretKeyGroups cs).any (2 ≤ ·)

/-- A key of the secret; the label of the secret itself is not one. -/
abbrev SecretField := {s : String // (isSecretKey s && s != secretInternalLabel) = true}

/-- A name that the charm uses. -/
structure Key where
  raw : String
  used : raw = "ca" ∨ (isSecretKey raw && raw != secretInternalLabel) = true
  deriving DecidableEq

/-- The only name that is translated. -/
def caKey : Key := ⟨"ca", .inl rfl⟩

/-! ## translating -/

theorem ne_of_isLowerOrDigit {c : Char} (h : isLowerOrDigit c = true) : c ≠ '_' ∧ c ≠ '-' := by
  constructor
  · rintro rfl
    contradiction
  · rintro rfl
    contradiction

theorem ends_cons {c : Char} {cs : List Char} (hc : isLowerOrDigit c = true)
    (hcs : '_' ∉ cs ∧ cs.getLast? ≠ some '-') : '_' ∉ c :: cs ∧ (c :: cs).getLast? ≠ some '-' := by
  obtain ⟨hunder, hhyphen⟩ := ne_of_isLowerOrDigit hc
  rw [List.mem_cons, not_or, List.getLast?_cons]
  refine ⟨⟨hunder.symm, hcs.1⟩, fun hlast => ?_⟩
  cases hrest : cs.getLast? with
  | none =>
      rw [hrest] at hlast
      exact hhyphen (Option.some.inj hlast)
  | some x =>
      rw [hrest] at hlast
      exact hcs.2 (hrest.trans hlast)

/-- Neither an underscore nor a hyphen at the end matches. -/
theorem ends_of_secretKeyGroups {cs : List Char} (h : (secretKeyGroups cs).isSome = true) :
    '_' ∉ cs ∧ cs.getLast? ≠ some '-' := by
  fun_induction secretKeyGroups cs with
  | case1 => simp
  | case2 c cs hc ih =>
      rw [Option.isSome_map] at h
      have hrest := ends_cons hc (ih h)
      refine ⟨by simpa using hrest.1, ?_⟩
      rw [List.getLast?_cons_cons]
      exact hrest.2
  | case3 => contradiction
  | case4 c cs hnot hc ih =>
      rw [Option.isSome_map] at h
      exact ends_cons hc (ih h)
  | case5 => contradiction

/-- A key that Juju accepts is its own translation. -/
theorem translate_of_isSecretKey {s : String} (h : isSecretKey s = true) :
    translateFieldToSecretKey s = s := by
  have hca : s ≠ "ca" := by
    rintro rfl
    revert h
    decide
  have hoverride : (secretKeyOverrides.lookup s).getD s = s := by
    have hbeq : (s == "ca") = false := beq_eq_false_iff_ne.mpr hca
    rw [secretKeyOverrides, List.lookup_cons, hbeq]
    rfl
  rw [translateFieldToSecretKey, hoverride]
  unfold isSecretKey at h
  cases hlist : s.toList with
  | nil => simp [hlist] at h
  | cons c cs =>
      rw [hlist] at h
      simp only [Bool.and_eq_true, Option.any_eq_true] at h
      obtain ⟨hlower, n, hgroups, -⟩ := h
      have hc : isLowerOrDigit c = true := by rw [isLowerOrDigit, hlower, Bool.true_or]
      have hgroups' : (secretKeyGroups cs).isSome = true := by rw [hgroups]; rfl
      obtain ⟨hunder, hlast⟩ := ends_cons hc (ends_of_secretKeyGroups hgroups')
      have hmap : (c :: cs).map (fun c => if c = '_' then '-' else c) = c :: cs := by
        conv_rhs => rw [← List.map_id (c :: cs)]
        refine List.map_congr_left fun c' hc' => if_neg ?_
        rintro rfl
        exact hunder hc'
      rw [hmap, ← hlist, String.ofList_toList]
      apply Text.strip_of_ends
      · intro c' hc'
        rw [hlist, List.head?_cons] at hc'
        rw [← Option.some.inj hc', beq_eq_false_iff_ne]
        exact (ne_of_isLowerOrDigit hc).2
      · intro c' hc'
        rw [beq_eq_false_iff_ne]
        rintro rfl
        exact hlast (hlist ▸ hc')

/-- What a name is translated to. -/
def Key.field (k : Key) : SecretField :=
  ⟨translateFieldToSecretKey k.raw, by
    rcases k.used with h | h
    · rw [h]
      decide
    · rw [translate_of_isSecretKey (Bool.and_eq_true_iff.mp h).1]
      exact h⟩

/-- A key of the secret is the name itself only if it is its translation. -/
theorem Key.eq_field_of_eq_raw (k : Key) {f : SecretField} (h : f.1 = k.raw) : f = k.field := by
  refine Subtype.ext ?_
  have hf : isSecretKey f.1 = true := (Bool.and_eq_true_iff.mp f.2).1
  show f.1 = translateFieldToSecretKey k.raw
  rw [← h, translate_of_isSecretKey hf]

end PostgresqlK8s.Secrets
