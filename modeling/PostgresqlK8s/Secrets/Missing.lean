import PostgresqlK8s.Secrets.RoundTrip

/-!
# Secrets.Missing

Setting a secret that is missing, under a name that needs no translation: it
reads as what was set, from wherever the library keeps it, and the other secrets
read as before.
-/

namespace PostgresqlK8s.Secrets.Store

variable {σ : Store} {k k' : Key} {value : String}

/-- A secret under such a name is read as a field of the library. -/
theorem getSecret_of_raw (hsecrets : σ.hasSecrets = true) (hraw : k.field.1 = k.raw) :
    σ.getSecret k = if σ.fallbackToDatabag then σ.databag.get k.field.1
      else (σ.secretValue k.field).or (σ.databag.get k.field.1) := by
  rw [← fetchMyRelationField_field hsecrets, getSecret, getPeerSecret_eq hsecrets, ← hraw]
  cases hfetch : σ.fetchMyRelationField k.field.1 with
  | none =>
      show (if k.field ∈ σ.currentSecretFields then none else none) = none
      rw [ite_self]
  | some v =>
      by_cases hempty : v = ""
      · have hmem := mem_currentSecretFields_of_fetch_empty hsecrets (hempty ▸ hfetch)
        show (if v ≠ "" then some v else _) = some v
        rw [if_neg (not_not.mpr hempty), if_pos hmem]
      · exact if_pos hempty

/-- What is written to the databag instead of the secret is preferred to it. -/
theorem fallbackToDatabag_withDatabag {τ : Store} (hfallback : τ.fallbackToDatabag = true)
    (hvalue : value ≠ "") (hmem : k.field ∈ τ.currentSecretFields) :
    (τ.withDatabag (τ.databag.set k.field.1 value)).fallbackToDatabag = true := by
  have hleader := (fallbackToDatabag_iff.mp hfallback).1
  rw [fallbackToDatabag_iff, isLeader_withDatabag, currentSecretFields_withDatabag,
    databag_withDatabag]
  refine ⟨hleader, k.field, hmem, ?_⟩
  rw [Databag.get_set_self, if_neg hvalue]
  exact Option.some_ne_none value

/-- A value that is set is read back, even where the databag is preferred. -/
theorem getSecret_setSecret_self (hraw : k.field.1 = k.raw) (hvalue : value ≠ "")
    (hlabel : value ≠ deletedLabel) : (σ.setSecret k (some value)).getSecret k = some value := by
  cases hsecrets : σ.hasSecrets with
  | false =>
      have hsecrets' := (hasSecrets_withDatabag ((σ.databag.pop k.raw).set k.raw value)).trans hsecrets
      rw [setSecret_of_not_hasSecrets hsecrets hvalue, getSecret_of_not_hasSecrets hsecrets',
        databag_withDatabag, Databag.get_set_self, if_neg hvalue]
  | true =>
      obtain ⟨τ, hτ, hset⟩ := exists_prepared (k := k) hsecrets hvalue
      rw [hset]
      split
      · next hfallback =>
          rw [hτ.getSecret hvalue hfallback, Option.filter_some, if_pos (by simpa using hlabel)]
      · next hfallback =>
          have hmem := (hτ.current k.field).mpr (.inl rfl)
          have hsecrets' := (hasSecrets_withDatabag (τ.databag.set k.field.1 value)).trans
            hτ.hasSecrets
          rw [getSecret_of_raw hsecrets' hraw,
            fallbackToDatabag_withDatabag (Bool.of_not_eq_false hfallback) hvalue hmem, if_pos rfl,
            databag_withDatabag, Databag.get_set_self, if_neg hvalue]

/-- Where a secret is missing, the databag is preferred for another one's sake. -/
theorem prefersDatabag_of_missing (hsecrets : σ.hasSecrets = true) (hraw : k.field.1 = k.raw)
    (hmissing : σ.getSecret k = none) : σ.fallbackToDatabag = true ↔ σ.PrefersDatabag k := by
  have hget : σ.databag.get k.field.1 = none := by
    rw [getSecret_of_raw hsecrets hraw] at hmissing
    split at hmissing
    · exact hmissing
    · exact (Option.or_eq_none_iff.mp hmissing).2
  rw [fallbackToDatabag_iff, PrefersDatabag]
  refine and_congr_right fun _ => exists_congr fun f => and_congr_right fun _ => ?_
  refine (and_iff_right_of_imp fun hf => ?_).symm
  rintro rfl
  exact hf hget

/-- Setting a missing secret leaves the others as they are. -/
theorem getSecret_setSecret_of_ne (hraw : k.field.1 = k.raw) (hraw' : k'.field.1 = k'.raw)
    (hne : k.raw ≠ k'.raw) (hvalue : value ≠ "") (hmissing : σ.getSecret k' = none) :
    (σ.setSecret k' (some value)).getSecret k = σ.getSecret k := by
  have hfield : k.field ≠ k'.field := by
    intro heq
    exact hne (hraw.symm.trans ((congrArg Subtype.val heq).trans hraw'))
  have hname : k.field.1 ≠ k'.field.1 := Subtype.coe_injective.ne hfield
  cases hsecrets : σ.hasSecrets with
  | false =>
      have hsecrets' := (hasSecrets_withDatabag ((σ.databag.pop k'.raw).set k'.raw value)).trans
        hsecrets
      rw [setSecret_of_not_hasSecrets hsecrets hvalue, getSecret_of_not_hasSecrets hsecrets,
        getSecret_of_not_hasSecrets hsecrets', databag_withDatabag,
        Databag.get_set_of_ne _ _ hne, Databag.get_pop_of_ne _ hne]
  | true =>
      obtain ⟨τ, hτ, hset⟩ := exists_prepared (k := k') hsecrets hvalue
      have hmem := (hτ.current k'.field).mpr (.inl rfl)
      have hprefers := (prefersDatabag_of_missing hsecrets hraw' hmissing).trans
        hτ.fallbackToDatabag.symm
      have hstored : τ.secretValue k.field = σ.secretValue k.field := by
        rw [secretValue, secretValue, hτ.secret]
      rw [hset, getSecret_of_raw hsecrets hraw]
      split
      · next hfallback =>
          have hsecrets' := (hasSecrets_withContent ((τ.secret.getD ∅).set k'.field value)).trans
            hτ.hasSecrets
          rw [getSecret_of_raw hsecrets' hraw,
            fallbackToDatabag_withContent _ hτ.hasSecrets rfl hmem hfallback,
            secretValue_withContent _ rfl, if_neg hfield, databag_withContent,
            hτ.others _ hfield, hstored, if_neg Bool.false_ne_true, if_neg]
          rw [hprefers, hfallback]
          exact Bool.false_ne_true
      · next hfallback =>
          have hfallback : τ.fallbackToDatabag = true := Bool.of_not_eq_false hfallback
          have hsecrets' := (hasSecrets_withDatabag (τ.databag.set k'.field.1 value)).trans
            hτ.hasSecrets
          rw [getSecret_of_raw hsecrets' hraw,
            fallbackToDatabag_withDatabag hfallback hvalue hmem, if_pos rfl,
            if_pos (hprefers.mpr hfallback), databag_withDatabag,
            Databag.get_set_of_ne _ _ hname, hτ.others _ hfield]

end PostgresqlK8s.Secrets.Store
