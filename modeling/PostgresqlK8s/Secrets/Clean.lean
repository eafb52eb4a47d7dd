import PostgresqlK8s.Secrets.RoundTrip

/-!
# Secrets.Clean

The store where nothing is left in the databag that belongs to the secret.

A unit that was deployed with this charm begins there and stays there, and the
store is a plain dictionary then: `getSecret_setSecret` says what is read after
a write, under the key that was written and under the others.
-/

namespace PostgresqlK8s.Secrets

namespace Store

variable {σ : Store} {k k' : Key} {keys : List Key} {f : SecretField}

/-- Where Juju has secrets, the databag has no value under the name of a
current field, nor under either name of a key that is in use. -/
structure Clean (keys : List Key) (σ : Store) : Prop where
  current : σ.hasSecrets = true → ∀ f ∈ σ.currentSecretFields, σ.databag.get f.1 = none
  raw : σ.hasSecrets = true → ∀ k ∈ keys, σ.databag.get k.raw = none
  field : σ.hasSecrets = true → ∀ k ∈ keys, σ.databag.get k.field.1 = none

/-- What is read after a write: not the empty value, and from the secret not
the deleted label. -/
def readable (hasSecrets : Bool) (value : Option String) : Option String :=
  value.filter fun v => v != "" && !(hasSecrets && v == deletedLabel)

/-! ## reading -/

/-- With secrets, no key of a clean store is read from the databag. -/
theorem Clean.not_prefersDatabag (h : σ.Clean keys) (hsecrets : σ.hasSecrets = true) :
    ¬ σ.PrefersDatabag k := by
  intro ⟨_, f, hf, _, hvalue⟩
  exact hvalue (h.current hsecrets f hf)

/-- Nor is the databag fallen back to. -/
theorem Clean.fallbackToDatabag (h : σ.Clean keys) (hsecrets : σ.hasSecrets = true) :
    σ.fallbackToDatabag = false := by
  rw [Bool.eq_false_iff, ne_eq, fallbackToDatabag_iff]
  intro ⟨_, f, hf, hvalue⟩
  exact hvalue (h.current hsecrets f hf)

/-- What is not current has no value. -/
theorem secretValue_of_not_mem (hsecrets : σ.hasSecrets = true)
    (hf : f ∉ σ.currentSecretFields) : σ.secretValue f = none := by
  rw [mem_currentSecretFields, not_and, not_or] at hf
  have hvalue := (hf hsecrets).1
  simpa using hvalue

/-- A secret is read from the secret. -/
theorem Clean.getSecret (h : σ.Clean keys) (hsecrets : σ.hasSecrets = true) (hk : k ∈ keys) :
    σ.getSecret k = σ.secretValue k.field := by
  have hfetch : σ.fetchMyRelationField k.field.1 = σ.secretValue k.field := by
    rw [fetchMyRelationField_field hsecrets, h.fallbackToDatabag hsecrets, h.field hsecrets k hk,
      Option.or_none]
    rfl
  have hpeer : σ.getPeerSecret k = σ.secretValue k.field := by
    rw [getPeerSecret_eq hsecrets, hfetch]
    by_cases hmem : k.field ∈ σ.currentSecretFields
    · exact if_pos hmem
    · rw [if_neg hmem, secretValue_of_not_mem hsecrets hmem]
  rw [Store.getSecret, hpeer]
  by_cases hraw : k.field.1 = k.raw
  · rw [← hraw, hfetch]
    cases hvalue : σ.secretValue k.field with
    | none => rfl
    | some v =>
        by_cases hv : v = ""
        · simp [hv]
        · simp [hv]
  · rw [fetchMyRelationField_raw hraw, h.raw hsecrets k hk]

/-! ## writing -/

/-- Writing a field of the secret keeps the store clean. -/
theorem Clean.withContent {content : Dict SecretField String} {value : String} (h : σ.Clean keys)
    (hsecret : σ.secret.getD ∅ = content) (hmem : f ∈ σ.currentSecretFields) :
    (σ.withContent (content.set f value)).Clean keys where
  current := fun hsecrets g hg =>
    h.current hsecrets g (mem_of_mem_withContent content hsecrets hsecret hmem hg)
  raw := h.raw
  field := h.field

/-- So does removing an entry of the databag. -/
theorem Clean.withDatabag_pop (h : σ.Clean keys) (name : String) :
    (σ.withDatabag (σ.databag.pop name)).Clean keys := by
  have hnone (name' : String) (hname : σ.databag.get name' = none) :
      (σ.databag.pop name).get name' = none := by
    rw [Databag.get_pop, hname, ite_self]
  constructor
  · intro hsecrets g hg
    exact hnone _ (h.current hsecrets g hg)
  · intro hsecrets k hk
    exact hnone _ (h.raw hsecrets k hk)
  · intro hsecrets k hk
    exact hnone _ (h.field hsecrets k hk)

/-- Preparing a key keeps the store clean. -/
theorem Prepared.clean {τ : Store} (hτ : Prepared k σ τ) (hsecrets : σ.hasSecrets = true)
    (h : σ.Clean keys) : τ.Clean keys where
  current := by
    intro _ f hf
    rcases (hτ.current f).mp hf with heq | hmem
    · rw [heq]
      exact hτ.field
    · exact hτ.absent f.1 (h.current hsecrets f hmem)
  raw := fun _ k hk => hτ.absent k.raw (h.raw hsecrets k hk)
  field := fun _ k hk => hτ.absent k.field.1 (h.field hsecrets k hk)

/-- What a write leaves: a store of the same kind, what was written under the
key, and under the other keys what was there. -/
structure Writes (keys : List Key) (k : Key) (value : Option String) (σ σ' : Store) : Prop where
  hasSecrets : σ'.hasSecrets = σ.hasSecrets
  clean : σ'.Clean keys
  same : σ'.getSecret k = readable σ.hasSecrets value
  others : ∀ k' ∈ keys, k' ≠ k → σ'.getSecret k' = σ.getSecret k'

/-- No two keys have one field. -/
def FieldsDistinct (keys : List Key) : Prop :=
  ∀ k ∈ keys, ∀ k' ∈ keys, k'.field = k.field → k' = k

section Writes

variable {value : Option String} {σ' : Store}

/-- A write to the secret is one to its key alone. -/
theorem Writes.of_secretValue (hkeys : FieldsDistinct keys) (hk : k ∈ keys)
    (hsecrets : σ.hasSecrets = true) (h : σ.Clean keys) (hsecrets' : σ'.hasSecrets = true)
    (h' : σ'.Clean keys) (hvalue : ∀ f, σ'.secretValue f =
      if f = k.field then readable true value else σ.secretValue f) :
    Writes keys k value σ σ' where
  hasSecrets := hsecrets'.trans hsecrets.symm
  clean := h'
  same := by rw [h'.getSecret hsecrets' hk, hvalue, if_pos rfl, hsecrets]
  others := by
    intro k' hk' hne
    have hfield : k'.field ≠ k.field := mt (hkeys k hk k' hk') hne
    rw [h'.getSecret hsecrets' hk', hvalue, if_neg hfield, h.getSecret hsecrets hk']

/-- So is a write to the databag, without secrets. -/
theorem Writes.of_databag {d : Databag String} (hkeys : FieldsDistinct keys) (hk : k ∈ keys)
    (hsecrets : σ.hasSecrets = false) (hvalue : ∀ name, d.get name =
      if name = k.raw then readable false value else σ.databag.get name) :
    Writes keys k value σ (σ.withDatabag d) where
  hasSecrets := rfl
  clean := by
    have hcontra : ¬ (σ.withDatabag d).hasSecrets = true := by
      rw [hasSecrets_withDatabag, hsecrets]
      exact Bool.false_ne_true
    exact ⟨fun h => absurd h hcontra, fun h => absurd h hcontra, fun h => absurd h hcontra⟩
  same := by
    rw [getSecret_of_not_hasSecrets ((hasSecrets_withDatabag d).trans hsecrets),
      databag_withDatabag, hvalue, if_pos rfl, hsecrets]
  others := by
    intro k' hk' hne
    have hraw : k'.raw ≠ k.raw := by
      intro heq
      apply hne (hkeys k hk k' hk' _)
      rw [Key.field, Key.field]
      simp only [heq]
    rw [getSecret_of_not_hasSecrets ((hasSecrets_withDatabag d).trans hsecrets),
      databag_withDatabag, hvalue, if_neg hraw, getSecret_of_not_hasSecrets hsecrets]

/-- Removing a secret removes it. -/
theorem writes_removeSecret (hkeys : FieldsDistinct keys) (hk : k ∈ keys) (h : σ.Clean keys) :
    Writes keys k none σ (σ.removeSecret k) := by
  cases hsecrets : σ.hasSecrets with
  | false =>
      rw [removeSecret_of_not_hasSecrets hsecrets]
      exact Writes.of_databag hkeys hk hsecrets fun name => Databag.get_pop _ _ _
  | true =>
      by_cases hdeletes : σ.DeletesField k
      · obtain ⟨content, hsecret, hremove⟩ := removeSecret_of_deletesField hdeletes
        rw [hremove]
        refine Writes.of_secretValue hkeys hk hsecrets h
          ((hasSecrets_withContent _).trans hsecrets) ?_ fun f => secretValue_deleted hsecret
        exact h.withContent (by rw [hsecret]; rfl) hdeletes.1
      · have hnone : σ.secretValue k.field = none := by
          by_cases hmem : k.field ∈ σ.currentSecretFields
          · have hsecret : σ.secret.isSome = false := by
              rw [Bool.eq_false_iff]
              exact fun hsome => hdeletes ⟨hmem, hsome, h.fallbackToDatabag hsecrets⟩
            rw [Option.isSome_eq_false_iff, Option.isNone_iff_eq_none] at hsecret
            rw [secretValue, hsecret]
            rfl
          · exact secretValue_of_not_mem hsecrets hmem
        rw [removeSecret_of_not_deletesField hsecrets hdeletes]
        refine Writes.of_secretValue hkeys hk hsecrets h
          ((hasSecrets_withDatabag _).trans hsecrets) (h.withDatabag_pop _) fun f => ?_
        by_cases hf : f = k.field
        · rw [if_pos hf, secretValue_withDatabag, hf, hnone]
          rfl
        · rw [if_neg hf, secretValue_withDatabag]

/-- **A write**: setting a secret changes it, and no other. -/
theorem writes_setSecret (hkeys : FieldsDistinct keys) (hk : k ∈ keys) (h : σ.Clean keys)
    (value : Option String) : Writes keys k value σ (σ.setSecret k value) := by
  cases value with
  | none => exact writes_removeSecret hkeys hk h
  | some value =>
      by_cases hvalue : value = ""
      · rw [hvalue]
        obtain ⟨hsecrets, hclean, hsame, hothers⟩ := writes_removeSecret hkeys hk h
        exact ⟨hsecrets, hclean, hsame, hothers⟩
      · cases hsecrets : σ.hasSecrets with
        | false =>
            rw [setSecret_of_not_hasSecrets hsecrets hvalue]
            refine Writes.of_databag hkeys hk hsecrets fun name => ?_
            by_cases hname : name = k.raw
            · rw [if_pos hname, hname, Databag.get_set_self, if_neg hvalue]
              simp [readable, Option.filter_some, hvalue]
            · rw [if_neg hname, Databag.get_set_of_ne _ _ hname, Databag.get_pop_of_ne _ hname]
        | true =>
            obtain ⟨τ, hτ, hset⟩ := exists_prepared (k := k) hsecrets hvalue
            have hfallback : τ.fallbackToDatabag = false := by
              rw [Bool.eq_false_iff]
              exact mt hτ.fallbackToDatabag.mp (h.not_prefersDatabag hsecrets)
            rw [hset, if_pos hfallback]
            refine Writes.of_secretValue hkeys hk hsecrets h
              ((hasSecrets_withContent _).trans hτ.hasSecrets) ?_ fun f => ?_
            · exact (hτ.clean hsecrets h).withContent rfl ((hτ.current _).mpr (.inl rfl))
            · have hsecret : τ.secretValue f = σ.secretValue f := by
                rw [secretValue, secretValue, hτ.secret]
              rw [secretValue_withContent _ rfl, hsecret]
              simp [readable, Option.filter_some, hvalue, bne]

end Writes

/-! ## the next run of the charm -/

/-- The store as the next run of the charm finds it: nothing is new, and
another unit may be the leader. -/
def newRun (isLeader : Bool) (σ : Store) : Store :=
  { σ with isLeader := isLeader, newSecrets := [] }

/-- A clean store is clean in the next run of the charm. -/
theorem Clean.newRun (h : σ.Clean keys) (isLeader : Bool) : (σ.newRun isLeader).Clean keys where
  current := by
    intro hsecrets f hf
    rcases (mem_currentSecretFields.mp hf).2 with hvalue | hnew
    · exact h.current hsecrets f (mem_currentSecretFields.mpr ⟨hsecrets, .inl hvalue⟩)
    · contradiction
  raw := h.raw
  field := h.field

/-- Its values are the same there. -/
theorem Clean.getSecret_newRun (h : σ.Clean keys) (hk : k ∈ keys) (isLeader : Bool) :
    (σ.newRun isLeader).getSecret k = σ.getSecret k := by
  have hsame : (σ.newRun isLeader).hasSecrets = σ.hasSecrets := rfl
  cases hsecrets : σ.hasSecrets with
  | false =>
      rw [getSecret_of_not_hasSecrets (hsame.trans hsecrets), getSecret_of_not_hasSecrets hsecrets]
      rfl
  | true =>
      rw [(h.newRun isLeader).getSecret (hsame.trans hsecrets) hk, h.getSecret hsecrets hk]
      rfl

end Store

end PostgresqlK8s.Secrets
