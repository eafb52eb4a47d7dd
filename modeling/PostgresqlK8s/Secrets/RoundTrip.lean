import PostgresqlK8s.Secrets.Store

/-!
# Secrets.RoundTrip

What is read back after a secret is set or removed.

Setting deletes the value under the old name from the databag, and removing
does not; the library deletes a field by writing the deleted label, so a secret
with that value reads as absent; and the leader writes to the databag, and
deletes from it only, as long as the databag has a value under the name of
another field of the secret.  `set_iff` and `remove_iff` say exactly which
states and values this spares, and `roundTrip_iff` puts them together.
-/

namespace PostgresqlK8s.Secrets

namespace Store

variable {σ : Store} {k : Key} {f : SecretField} {value : String}

/-! ## reading -/

/-- A field is current if the secret has a value for it, or if it was added in
this run. -/
theorem mem_currentSecretFields : f ∈ σ.currentSecretFields ↔
    σ.hasSecrets = true ∧ ((σ.secretValue f).isSome = true ∨ f ∈ σ.newSecrets) := by
  unfold currentSecretFields
  split
  · next h =>
      rw [List.mem_append, List.mem_filter, iff_true_intro h, true_and]
      refine or_congr_left (and_iff_right_of_imp fun hvalue => ?_)
      unfold secretValue at hvalue
      cases hsecret : σ.secret with
      | none => simp [hsecret] at hvalue
      | some content =>
          rw [hsecret, Option.bind_some] at hvalue
          cases hget : content.get? f with
          | none => simp [hget] at hvalue
          | some v => exact List.mem_map_of_mem (content.get?_eq_some_iff.mp hget)
  · next h => simp [h]

theorem fallbackToDatabag_iff : σ.fallbackToDatabag = true ↔
    σ.isLeader = true ∧ ∃ f ∈ σ.currentSecretFields, σ.databag.get f.1 ≠ none := by
  rw [fallbackToDatabag, Bool.and_eq_true, List.any_eq_true]
  simp only [Databag.contains, Option.isSome_iff_ne_none]

/-- A name that is no field is read from the databag. -/
theorem fetchMyRelationField_of_ne {name : String} (h : ∀ f ∈ σ.currentSecretFields, f.1 ≠ name) :
    σ.fetchMyRelationField name = σ.databag.get name := by
  have hfind : σ.currentSecretFields.find? (·.1 = name) = none :=
    List.find?_eq_none.mpr fun f hf => by simpa using h f hf
  rw [fetchMyRelationField, hfind]
  simp

/-- A field is read from the secret, unless it is not there or the databag has
a value under the name of some field. -/
theorem fetchMyRelationField_field (hsecrets : σ.hasSecrets = true) :
    σ.fetchMyRelationField f.1 =
      if σ.fallbackToDatabag then σ.databag.get f.1
      else (σ.secretValue f).or (σ.databag.get f.1) := by
  by_cases hmem : f ∈ σ.currentSecretFields
  · have hfind : σ.currentSecretFields.find? (·.1 = f.1) = some f := by
      cases hfind : σ.currentSecretFields.find? (·.1 = f.1) with
      | none => simpa using List.find?_eq_none.mp hfind f hmem
      | some g =>
          have hg : g.1 = f.1 := by simpa using List.find?_some hfind
          rw [Subtype.ext hg]
    rw [fetchMyRelationField, hfind]
    cases hfallback : σ.fallbackToDatabag with
    | true => rfl
    | false =>
        cases hvalue : σ.secretValue f with
        | none => simp [hvalue]
        | some v => simp [hvalue]
  · have hne : ∀ g ∈ σ.currentSecretFields, g.1 ≠ f.1 := by
      intro g hg heq
      exact hmem (Subtype.ext heq ▸ hg)
    have hvalue : σ.secretValue f = none := by
      rw [← Option.not_isSome_iff_eq_none]
      intro hsome
      exact hmem (mem_currentSecretFields.mpr ⟨hsecrets, .inl hsome⟩)
    rw [fetchMyRelationField_of_ne hne, hvalue, Option.none_or, ite_self]

/-- Where the name is not its own translation, it is read from the databag. -/
theorem fetchMyRelationField_raw (hne : k.field.1 ≠ k.raw) :
    σ.fetchMyRelationField k.raw = σ.databag.get k.raw := by
  refine fetchMyRelationField_of_ne fun f _ heq => hne ?_
  rw [← k.eq_field_of_eq_raw heq]
  exact heq

theorem getPeerSecret_eq (hsecrets : σ.hasSecrets = true) : σ.getPeerSecret k =
    if k.field ∈ σ.currentSecretFields then σ.fetchMyRelationField k.field.1 else none := by
  rw [getPeerSecret, secretKey, hsecrets]
  by_cases hmem : k.field ∈ σ.currentSecretFields
  · simp [hmem]
  · simp [hmem]

/-- An empty value comes from the secret. -/
theorem mem_currentSecretFields_of_fetch_empty (hsecrets : σ.hasSecrets = true)
    (h : σ.fetchMyRelationField f.1 = some "") : f ∈ σ.currentSecretFields := by
  rw [fetchMyRelationField_field hsecrets] at h
  split at h
  · exact absurd h (σ.databag.get_ne_empty f.1)
  · cases hvalue : σ.secretValue f with
    | none =>
        rw [hvalue, Option.none_or] at h
        exact absurd h (σ.databag.get_ne_empty f.1)
    | some v => exact mem_currentSecretFields.mpr ⟨hsecrets, .inl (by rw [hvalue]; rfl)⟩

/-- `get_secret` returns nothing exactly when neither name has a value. -/
theorem getSecret_eq_none_iff (hsecrets : σ.hasSecrets = true) : σ.getSecret k = none ↔
    (k.field.1 ≠ k.raw → σ.databag.get k.raw = none) ∧
      (k.field.1 = k.raw ∨ k.field ∈ σ.currentSecretFields →
        σ.fetchMyRelationField k.field.1 = none) := by
  rw [getSecret, getPeerSecret_eq hsecrets]
  by_cases hraw : k.field.1 = k.raw
  · rw [← hraw]
    simp only [ne_eq, not_true_eq_false, false_implies, true_and, true_or, forall_const]
    cases hfetch : σ.fetchMyRelationField k.field.1 with
    | none => simp
    | some v =>
        by_cases hv : v = ""
        · have hmem := mem_currentSecretFields_of_fetch_empty hsecrets (hv ▸ hfetch)
          simp [hv, hmem]
        · simp [hv]
  · rw [fetchMyRelationField_raw hraw]
    simp only [ne_eq, hraw, not_false_eq_true, forall_const, false_or]
    cases hget : σ.databag.get k.raw with
    | none => simp
    | some v =>
        have hv : v ≠ "" := by
          rintro rfl
          exact σ.databag.get_ne_empty _ hget
        simp [hv]

/-- A value that the secret has is returned, if none is under the old name. -/
theorem getSecret_eq_some (hsecrets : σ.hasSecrets = true) (hvalue : value ≠ "")
    (hraw : k.field.1 ≠ k.raw → σ.databag.get k.raw = none)
    (hmem : k.field ∈ σ.currentSecretFields)
    (hfetch : σ.fetchMyRelationField k.field.1 = some value) : σ.getSecret k = some value := by
  rw [getSecret, getPeerSecret_eq hsecrets, if_pos hmem]
  by_cases heq : k.field.1 = k.raw
  · rw [← heq, hfetch]
    exact if_pos hvalue
  · rw [fetchMyRelationField_raw heq, hraw heq]
    exact hfetch

/-! ## writing -/

def withDatabag (d : Databag String) (σ : Store) : Store := { σ with databag := d }

def withContent (content : Dict SecretField String) (σ : Store) : Store :=
  { σ with secret := some content }

def withNewSecrets (fields : List SecretField) (σ : Store) : Store := { σ with newSecrets := fields }

section With

variable (d : Databag String) (content : Dict SecretField String) (fields : List SecretField)

@[simp] theorem hasSecrets_withDatabag : (σ.withDatabag d).hasSecrets = σ.hasSecrets := rfl

@[simp] theorem hasSecrets_withContent : (σ.withContent content).hasSecrets = σ.hasSecrets := rfl

@[simp] theorem isLeader_withDatabag : (σ.withDatabag d).isLeader = σ.isLeader := rfl

@[simp] theorem databag_withDatabag : (σ.withDatabag d).databag = d := rfl

@[simp] theorem databag_withContent : (σ.withContent content).databag = σ.databag := rfl

@[simp] theorem newSecrets_withContent : (σ.withContent content).newSecrets = σ.newSecrets := rfl

@[simp] theorem secretValue_withDatabag : (σ.withDatabag d).secretValue f = σ.secretValue f := rfl

@[simp] theorem currentSecretFields_withDatabag :
    (σ.withDatabag d).currentSecretFields = σ.currentSecretFields := rfl

/-- A field that is written reads as what was written, but for the deleted
label, and the other fields stay. -/
theorem secretValue_withContent {g : SecretField} (h : σ.secret.getD ∅ = content) :
    (σ.withContent (content.set g value)).secretValue f =
      if f = g then (some value).filter (· != deletedLabel) else σ.secretValue f := by
  by_cases hf : f = g
  · simp [secretValue, withContent, hf]
  · rw [if_neg hf, secretValue, secretValue, ← h]
    cases hsecret : σ.secret with
    | none => simp [withContent, hf]
    | some content => simp [withContent, hf]

/-- Writing a field that is current makes no other field current. -/
theorem mem_of_mem_withContent {g : SecretField} (hsecrets : σ.hasSecrets = true)
    (h : σ.secret.getD ∅ = content) (hg : g ∈ σ.currentSecretFields)
    (hf : f ∈ (σ.withContent (content.set g value)).currentSecretFields) :
    f ∈ σ.currentSecretFields := by
  by_cases hfg : f = g
  · rw [hfg]
    exact hg
  · rw [mem_currentSecretFields, secretValue_withContent content h, if_neg hfg] at hf
    exact mem_currentSecretFields.mpr ⟨hsecrets, hf.2⟩

theorem fallbackToDatabag_withContent {g : SecretField} (hsecrets : σ.hasSecrets = true)
    (h : σ.secret.getD ∅ = content) (hg : g ∈ σ.currentSecretFields)
    (hfallback : σ.fallbackToDatabag = false) :
    (σ.withContent (content.set g value)).fallbackToDatabag = false := by
  rw [Bool.eq_false_iff, ne_eq, fallbackToDatabag_iff]
  intro ⟨hleader, f, hf, hvalue⟩
  have hmem := mem_of_mem_withContent content hsecrets h hg hf
  have hcontra : σ.fallbackToDatabag = true := fallbackToDatabag_iff.mpr ⟨hleader, f, hmem, hvalue⟩
  rw [hfallback] at hcontra
  contradiction

end With

/-- The leader prefers the databag, for the value that it has under the name of
another field. -/
def PrefersDatabag (k : Key) (σ : Store) : Prop :=
  σ.isLeader = true ∧ ∃ f ∈ σ.currentSecretFields, f ≠ k.field ∧ σ.databag.get f.1 ≠ none

/-! ## removing -/

/-- The deletion reaches the secret. -/
def DeletesField (k : Key) (σ : Store) : Prop :=
  k.field ∈ σ.currentSecretFields ∧ σ.secret.isSome = true ∧ σ.fallbackToDatabag = false

/-- What `remove_secret` needs to leave nothing: no value under the old name;
where the deletion reaches the secret, none in the databag; and elsewhere no
value in the secret, unless the databag is still preferred to it. -/
structure RemoveOk (k : Key) (σ : Store) : Prop where
  raw : k.field.1 ≠ k.raw → σ.databag.get k.raw = none
  deleted : σ.DeletesField k → k.field.1 = k.raw ∨ k.field ∈ σ.newSecrets →
    σ.databag.get k.field.1 = none
  kept : ¬ σ.DeletesField k → (σ.secretValue k.field).isSome = true → σ.PrefersDatabag k

/-- A deletion that does not reach the secret deletes from the databag. -/
theorem removeSecret_of_not_deletesField (hsecrets : σ.hasSecrets = true)
    (h : ¬ σ.DeletesField k) :
    σ.removeSecret k = σ.withDatabag (σ.databag.pop k.field.1) := by
  have hkey : σ.secretKey k = k.field.1 := if_pos hsecrets
  rw [removeSecret, deleteRelationData, hkey]
  split
  · next hboth =>
      cases hsecret : σ.secret with
      | none => rw [withDatabag, hsecret]
      | some content => exact absurd ⟨hboth.1, by rw [hsecret]; rfl, hboth.2⟩ h
  · rfl

/-- A deletion that reaches the secret writes the deleted label. -/
theorem removeSecret_of_deletesField (h : σ.DeletesField k) : ∃ content,
    σ.secret = some content ∧
      σ.removeSecret k = σ.withContent (content.set k.field deletedLabel) := by
  obtain ⟨hmem, hsome, hfallback⟩ := h
  obtain ⟨content, hsecret⟩ := Option.isSome_iff_exists.mp hsome
  refine ⟨content, hsecret, ?_⟩
  rw [removeSecret, deleteRelationData, if_pos ⟨hmem, hfallback⟩]
  simp only [hsecret]
  rfl

/-- The deleted label reads as no value. -/
theorem secretValue_deleted {content : Dict SecretField String} {g : SecretField}
    (hsecret : σ.secret = some content) :
    (σ.withContent (content.set g deletedLabel)).secretValue f =
      if f = g then none else σ.secretValue f := by
  have hfilter : (some deletedLabel).filter (· != deletedLabel) = none := by decide
  rw [secretValue_withContent content (by rw [hsecret]; rfl), hfilter]

/-- After a deletion from the secret, the library reads from the databag. -/
theorem getSecret_deleted {content : Dict SecretField String} (hsecrets : σ.hasSecrets = true)
    (hsecret : σ.secret = some content) (hfield : k.field ∈ σ.currentSecretFields)
    (hfallback : σ.fallbackToDatabag = false) :
    (σ.withContent (content.set k.field deletedLabel)).getSecret k = none ↔
      (k.field.1 ≠ k.raw → σ.databag.get k.raw = none) ∧
        (k.field.1 = k.raw ∨ k.field ∈ σ.newSecrets → σ.databag.get k.field.1 = none) := by
  have hfallback' :
      (σ.withContent (content.set k.field deletedLabel)).fallbackToDatabag = false :=
    fallbackToDatabag_withContent content hsecrets (by rw [hsecret]; rfl) hfield hfallback
  have hmem : k.field ∈ (σ.withContent (content.set k.field deletedLabel)).currentSecretFields ↔
      k.field ∈ σ.newSecrets := by
    rw [mem_currentSecretFields, secretValue_deleted hsecret, if_pos rfl]
    simp [hsecrets]
  have hsecrets' : (σ.withContent (content.set k.field deletedLabel)).hasSecrets = true :=
    (hasSecrets_withContent _).trans hsecrets
  rw [getSecret_eq_none_iff hsecrets', fetchMyRelationField_field hsecrets', hfallback', hmem,
    secretValue_deleted hsecret, if_pos rfl, Option.none_or, databag_withContent]
  simp

/-- Without its own value in the databag, a field makes the leader prefer the
databag only for the sake of another. -/
theorem fallbackToDatabag_popped :
    (σ.withDatabag (σ.databag.pop k.field.1)).fallbackToDatabag = true ↔ σ.PrefersDatabag k := by
  rw [fallbackToDatabag_iff, isLeader_withDatabag, currentSecretFields_withDatabag,
    databag_withDatabag, PrefersDatabag]
  refine and_congr_right fun _ => exists_congr fun f => and_congr_right fun _ => ?_
  by_cases hf : f = k.field
  · rw [hf, Databag.get_pop_self]
    simp only [ne_eq, not_true_eq_false, false_and]
  · rw [Databag.get_pop_of_ne _ (Subtype.coe_injective.ne hf)]
    exact (and_iff_right hf).symm

/-- After a deletion from the databag, the library reads from the secret, unless
it still prefers the databag. -/
theorem getSecret_popped (hsecrets : σ.hasSecrets = true) :
    (σ.withDatabag (σ.databag.pop k.field.1)).getSecret k = none ↔
      (k.field.1 ≠ k.raw → σ.databag.get k.raw = none) ∧
        ((σ.secretValue k.field).isSome = true → σ.PrefersDatabag k) := by
  have hsecrets' : (σ.withDatabag (σ.databag.pop k.field.1)).hasSecrets = true :=
    (hasSecrets_withDatabag _).trans hsecrets
  have hfetch : (σ.withDatabag (σ.databag.pop k.field.1)).fetchMyRelationField k.field.1 = none ↔
      ((σ.secretValue k.field).isSome = true → σ.PrefersDatabag k) := by
    rw [fetchMyRelationField_field hsecrets', databag_withDatabag, Databag.get_pop_self,
      Option.or_none, secretValue_withDatabag]
    by_cases hprefers : σ.PrefersDatabag k
    · rw [if_pos (fallbackToDatabag_popped.mpr hprefers)]
      simp [hprefers]
    · rw [if_neg (mt fallbackToDatabag_popped.mp hprefers)]
      simp [hprefers]
  rw [getSecret_eq_none_iff hsecrets', hfetch, databag_withDatabag, currentSecretFields_withDatabag]
  constructor
  · intro h
    refine ⟨fun hne => ?_, fun hvalue => ?_⟩
    · have hraw := h.1 hne
      rwa [Databag.get_pop_of_ne _ hne.symm] at hraw
    · exact h.2 (.inr (mem_currentSecretFields.mpr ⟨hsecrets, .inl hvalue⟩)) hvalue
  · intro h
    refine ⟨fun hne => ?_, fun _ => h.2⟩
    rw [Databag.get_pop_of_ne _ hne.symm]
    exact h.1 hne

/-- **Removing**: nothing is read back exactly where this holds. -/
theorem remove_iff (hsecrets : σ.hasSecrets = true) :
    (σ.removeSecret k).getSecret k = none ↔ σ.RemoveOk k := by
  by_cases hdeletes : σ.DeletesField k
  · obtain ⟨content, hsecret, hremove⟩ := removeSecret_of_deletesField hdeletes
    rw [hremove, getSecret_deleted hsecrets hsecret hdeletes.1 hdeletes.2.2]
    constructor
    · intro h
      exact ⟨h.1, fun _ => h.2, fun hnot => absurd hdeletes hnot⟩
    · intro h
      exact ⟨h.raw, h.deleted hdeletes⟩
  · rw [removeSecret_of_not_deletesField hsecrets hdeletes, getSecret_popped hsecrets]
    constructor
    · intro h
      exact ⟨h.1, fun hcontra => absurd hcontra hdeletes, fun _ => h.2⟩
    · intro h
      exact ⟨h.raw, h.kept hdeletes⟩

/-! ## Juju without secrets -/

theorem currentSecretFields_of_not_hasSecrets (hsecrets : σ.hasSecrets = false) :
    σ.currentSecretFields = [] := by
  rw [currentSecretFields, hsecrets, if_neg Bool.false_ne_true]

theorem legacyApplyOnUpdate_of_not_hasSecrets (hsecrets : σ.hasSecrets = false) (name : String) :
    σ.legacyApplyOnUpdate name = σ := by
  have hmoved : (σ.hasSecrets && σ.secret.isSome) = false := by
    rw [hsecrets, Bool.false_and]
  rw [legacyApplyOnUpdate, currentSecretFields_of_not_hasSecrets hsecrets]
  simp only [hmoved]
  rfl

/-- Where Juju has no secrets, everything is read from the databag. -/
theorem fetchMyRelationField_of_not_hasSecrets (hsecrets : σ.hasSecrets = false) (name : String) :
    σ.fetchMyRelationField name = σ.databag.get name := by
  apply fetchMyRelationField_of_ne
  rw [currentSecretFields_of_not_hasSecrets hsecrets]
  simp

theorem getSecret_of_not_hasSecrets (hsecrets : σ.hasSecrets = false) :
    σ.getSecret k = σ.databag.get k.raw := by
  have hkey : σ.secretKey k = k.raw := by
    rw [secretKey, hsecrets]
    rfl
  rw [getSecret, getPeerSecret, hkey, hsecrets, fetchMyRelationField_of_not_hasSecrets hsecrets]
  cases hget : σ.databag.get k.raw with
  | none => rfl
  | some v =>
      refine if_pos fun hempty => ?_
      rw [hempty] at hget
      exact σ.databag.get_ne_empty _ hget

/-- A value is deleted from the databag. -/
theorem removeSecret_of_not_hasSecrets (hsecrets : σ.hasSecrets = false) :
    σ.removeSecret k = σ.withDatabag (σ.databag.pop k.raw) := by
  rw [removeSecret, deleteRelationData, currentSecretFields_of_not_hasSecrets hsecrets, secretKey,
    withDatabag]
  simp [hsecrets]

/-- A value is kept in the databag. -/
theorem setSecret_of_not_hasSecrets (hsecrets : σ.hasSecrets = false) (hvalue : value ≠ "") :
    σ.setSecret k (some value) = σ.withDatabag ((σ.databag.pop k.raw).set k.raw value) := by
  have hset : σ.setSecret k (some value) =
      (σ.withDatabag (σ.databag.pop k.raw)).setPeerSecret k value := if_neg hvalue
  have hsecrets' : (σ.withDatabag (σ.databag.pop k.raw)).hasSecrets = false := hsecrets
  have hkey : (σ.withDatabag (σ.databag.pop k.raw)).secretKey k = k.raw := by
    rw [secretKey, hsecrets']
    rfl
  have hmem : k.field ∉ (σ.withDatabag (σ.databag.pop k.raw)).currentSecretFields := by
    rw [currentSecretFields_of_not_hasSecrets hsecrets']
    exact List.not_mem_nil
  rw [hset, setPeerSecret, hkey, legacyApplyOnUpdate_of_not_hasSecrets hsecrets', hsecrets',
    Bool.false_and, if_neg Bool.false_ne_true, updateRelationData, hkey,
    legacyApplyOnUpdate_of_not_hasSecrets hsecrets', if_neg fun h => hmem h.1, hkey]
  rfl

/-! ## setting -/

theorem SecretField.ne_secretInternalLabel (f : SecretField) : f.1 ≠ secretInternalLabel := by
  have h := (Bool.and_eq_true_iff.mp f.2).2
  simpa using h

/-- Deleting from the databag what moved to the secret deletes nothing else. -/
theorem get_legacyApplyOnUpdate_of_ne {name : String} (g : SecretField) (h : g.1 ≠ name) :
    (σ.legacyApplyOnUpdate name).databag.get g.1 = σ.databag.get g.1 := by
  have hpop : (if σ.currentSecretFields.any (·.1 = name) then σ.databag.pop name
      else σ.databag).get g.1 = σ.databag.get g.1 := by
    split
    · exact Databag.get_pop_of_ne _ h
    · rfl
  unfold legacyApplyOnUpdate
  dsimp only
  split
  · rw [Databag.get_pop_of_ne _ (SecretField.ne_secretInternalLabel g), hpop]
  · exact hpop

theorem get_legacyApplyOnUpdate_of_none {name name' : String} (h : σ.databag.get name' = none) :
    (σ.legacyApplyOnUpdate name).databag.get name' = none := by
  have hpop (d : Databag String) (name : String) (hd : d.get name' = none) :
      (d.pop name).get name' = none := by
    rw [Databag.get_pop, hd, ite_self]
  unfold legacyApplyOnUpdate
  dsimp only
  split
  · apply hpop
    split
    · exact hpop _ _ h
    · exact h
  · split
    · exact hpop _ _ h
    · exact h

theorem get_legacyApplyOnUpdate_self (h : f ∈ σ.currentSecretFields) :
    (σ.legacyApplyOnUpdate f.1).databag.get f.1 = none := by
  have hany : σ.currentSecretFields.any (·.1 = f.1) = true :=
    List.any_eq_true.mpr ⟨f, h, decide_eq_true rfl⟩
  unfold legacyApplyOnUpdate
  rw [hany, if_pos rfl]
  dsimp only
  split
  · rw [Databag.get_pop_of_ne _ (SecretField.ne_secretInternalLabel f), Databag.get_pop_self]
  · exact Databag.get_pop_self _ _

/-- The state in which a secret is written: the databag has no value of the
secret, and the field is a current one. -/
structure Prepared (k : Key) (σ τ : Store) : Prop where
  hasSecrets : τ.hasSecrets = true
  isLeader : τ.isLeader = σ.isLeader
  secret : τ.secret = σ.secret
  current : ∀ f, f ∈ τ.currentSecretFields ↔ f = k.field ∨ f ∈ σ.currentSecretFields
  raw : τ.databag.get k.raw = none
  field : τ.databag.get k.field.1 = none
  others : ∀ f, f ≠ k.field → τ.databag.get f.1 = σ.databag.get f.1
  absent : ∀ name, σ.databag.get name = none → τ.databag.get name = none

/-- The name under which the value was kept before, the name of the field and
the URI are all that is deleted from the databag. -/
theorem Prepared.legacyApplyOnUpdate {τ : Store} (hsecrets : τ.hasSecrets = true)
    (hleader : τ.isLeader = σ.isLeader) (hsecret : τ.secret = σ.secret)
    (hcurrent : ∀ f, f ∈ τ.currentSecretFields ↔ f = k.field ∨ f ∈ σ.currentSecretFields)
    (hdatabag : τ.databag =
      ((σ.withDatabag (σ.databag.pop k.raw)).legacyApplyOnUpdate k.field.1).databag) :
    Prepared k σ (τ.legacyApplyOnUpdate k.field.1) where
  hasSecrets := hsecrets
  isLeader := hleader
  secret := hsecret
  current := hcurrent
  raw := by
    apply get_legacyApplyOnUpdate_of_none
    rw [hdatabag]
    apply get_legacyApplyOnUpdate_of_none
    exact Databag.get_pop_self _ _
  field := get_legacyApplyOnUpdate_self ((hcurrent k.field).mpr (.inl rfl))
  others := by
    intro f hf
    have hfield : f.1 ≠ k.field.1 := Subtype.coe_injective.ne hf
    have hraw : f.1 ≠ k.raw := fun heq => hf (k.eq_field_of_eq_raw heq)
    rw [get_legacyApplyOnUpdate_of_ne f hfield, hdatabag, get_legacyApplyOnUpdate_of_ne f hfield,
      databag_withDatabag, Databag.get_pop_of_ne _ hraw]
  absent := by
    intro name hname
    apply get_legacyApplyOnUpdate_of_none
    rw [hdatabag]
    apply get_legacyApplyOnUpdate_of_none
    rw [databag_withDatabag, Databag.get_pop, hname, ite_self]

theorem mem_currentSecretFields_withNewSecrets (hsecrets : σ.hasSecrets = true) :
    f ∈ (σ.withNewSecrets (σ.newSecrets ++ [k.field])).currentSecretFields ↔
      f ∈ σ.currentSecretFields ∨ f = k.field := by
  have hnew : f ∈ (σ.withNewSecrets (σ.newSecrets ++ [k.field])).newSecrets ↔
      f ∈ σ.newSecrets ∨ f = k.field := by
    rw [withNewSecrets, List.mem_append, List.mem_singleton]
  have hvalue : (σ.withNewSecrets (σ.newSecrets ++ [k.field])).secretValue f = σ.secretValue f := rfl
  have hsecrets' : (σ.withNewSecrets (σ.newSecrets ++ [k.field])).hasSecrets = true := hsecrets
  rw [mem_currentSecretFields, mem_currentSecretFields, hnew, hvalue, hsecrets', hsecrets]
  simp only [true_and, or_assoc]

/-- The write of `update_relation_data`, where the field is a current one. -/
theorem updateRelationData_of_mem {τ : Store} (hsecrets : τ.hasSecrets = true)
    (hmem : k.field ∈ τ.currentSecretFields) :
    τ.updateRelationData k value =
      if (τ.legacyApplyOnUpdate k.field.1).fallbackToDatabag = false then
        (τ.legacyApplyOnUpdate k.field.1).withContent
          (((τ.legacyApplyOnUpdate k.field.1).secret.getD ∅).set k.field value)
      else (τ.legacyApplyOnUpdate k.field.1).withDatabag
        ((τ.legacyApplyOnUpdate k.field.1).databag.set k.field.1 value) := by
  have hkey (ρ : Store) (h : ρ.hasSecrets = true) : ρ.secretKey k = k.field.1 := if_pos h
  have hmem' : k.field ∈ (τ.legacyApplyOnUpdate k.field.1).currentSecretFields := hmem
  have hsecrets' : (τ.legacyApplyOnUpdate k.field.1).hasSecrets = true := hsecrets
  rw [updateRelationData, hkey τ hsecrets, hkey _ hsecrets']
  by_cases hfallback : (τ.legacyApplyOnUpdate k.field.1).fallbackToDatabag = false
  · rw [if_pos ⟨hmem', hfallback⟩, if_pos hfallback, withContent]
  · rw [if_neg fun h => hfallback h.2, if_neg hfallback, withDatabag]

/-- Where Juju has secrets, setting a field adds it, if it is not a current one,
and writes. -/
theorem exists_added (hsecrets : σ.hasSecrets = true) (k : Key) (value : String) :
    ∃ τ : Store, τ.hasSecrets = true ∧ τ.isLeader = σ.isLeader ∧ τ.secret = σ.secret ∧
      (∀ f, f ∈ τ.currentSecretFields ↔ f = k.field ∨ f ∈ σ.currentSecretFields) ∧
      τ.databag = (σ.legacyApplyOnUpdate k.field.1).databag ∧
      σ.setPeerSecret k value = τ.updateRelationData k value := by
  have hkey : σ.secretKey k = k.field.1 := if_pos hsecrets
  rw [setPeerSecret, hkey]
  generalize hmoved : σ.legacyApplyOnUpdate k.field.1 = ρ
  have hsecrets' : ρ.hasSecrets = true := by
    rw [← hmoved]
    exact hsecrets
  have hleader : ρ.isLeader = σ.isLeader := by
    rw [← hmoved]
    rfl
  have hsecret : ρ.secret = σ.secret := by
    rw [← hmoved]
    rfl
  have hcurrent : ρ.currentSecretFields = σ.currentSecretFields := by
    rw [← hmoved]
    rfl
  rw [hcurrent, hsecrets', Bool.true_and]
  by_cases hmem : k.field ∈ σ.currentSecretFields
  · rw [decide_eq_true hmem, Bool.not_true, if_neg Bool.false_ne_true]
    refine ⟨ρ, hsecrets', hleader, hsecret, fun f => ?_, rfl, rfl⟩
    rw [hcurrent]
    exact (or_iff_right_of_imp fun hf => hf ▸ hmem).symm
  · rw [decide_eq_false hmem, Bool.not_false, if_pos rfl]
    refine ⟨ρ.withNewSecrets (ρ.newSecrets ++ [k.field]), hsecrets', hleader, hsecret, fun f => ?_,
      rfl, ?_⟩
    · rw [← hcurrent, mem_currentSecretFields_withNewSecrets hsecrets', or_comm]
    · rw [withNewSecrets, hsecrets']

/-- Setting a secret prepares the databag and writes. -/
theorem exists_prepared (hsecrets : σ.hasSecrets = true) (hvalue : value ≠ "") :
    ∃ τ, Prepared k σ τ ∧ σ.setSecret k (some value) =
      if τ.fallbackToDatabag = false then
        τ.withContent ((τ.secret.getD ∅).set k.field value)
      else τ.withDatabag (τ.databag.set k.field.1 value) := by
  have hset : σ.setSecret k (some value) =
      (σ.withDatabag (σ.databag.pop k.raw)).setPeerSecret k value := if_neg hvalue
  have hpopped : (σ.withDatabag (σ.databag.pop k.raw)).hasSecrets = true :=
    (hasSecrets_withDatabag _).trans hsecrets
  obtain ⟨τ, hsecrets', hleader, hsecret, hcurrent, hdatabag, hwrite⟩ :=
    exists_added hpopped k value
  have hmem := (hcurrent k.field).mpr (.inl rfl)
  rw [hset, hwrite, updateRelationData_of_mem hsecrets' hmem]
  exact ⟨_, Prepared.legacyApplyOnUpdate hsecrets' hleader hsecret hcurrent hdatabag, rfl⟩

/-- The leader prefers the databag for the sake of another field only. -/
theorem Prepared.fallbackToDatabag {τ : Store} (h : Prepared k σ τ) :
    τ.fallbackToDatabag = true ↔ σ.PrefersDatabag k := by
  rw [fallbackToDatabag_iff, h.isLeader, PrefersDatabag]
  refine and_congr_right fun _ => exists_congr fun f => ?_
  rw [h.current]
  by_cases hf : f = k.field
  · rw [hf, h.field]
    simp
  · rw [h.others f hf]
    simp only [hf, false_or, ne_eq, not_false_eq_true, true_and]

/-- A value is read back once it is written to the secret, unless it is the
deleted label. -/
theorem Prepared.getSecret {τ : Store} (h : Prepared k σ τ) (hvalue : value ≠ "")
    (hfallback : τ.fallbackToDatabag = false) :
    (τ.withContent ((τ.secret.getD ∅).set k.field value)).getSecret k =
      (some value).filter (· != deletedLabel) := by
  have hfield := (h.current k.field).mpr (.inl rfl)
  have hsecrets : (τ.withContent ((τ.secret.getD ∅).set k.field value)).hasSecrets = true :=
    (hasSecrets_withContent _).trans h.hasSecrets
  have hfallback' :
      (τ.withContent ((τ.secret.getD ∅).set k.field value)).fallbackToDatabag = false :=
    fallbackToDatabag_withContent _ h.hasSecrets rfl hfield hfallback
  have hstored : (τ.withContent ((τ.secret.getD ∅).set k.field value)).secretValue k.field =
      (some value).filter (· != deletedLabel) := by
    rw [secretValue_withContent _ rfl, if_pos rfl]
  have hfetch := fetchMyRelationField_field (f := k.field) hsecrets
  rw [hfallback', hstored, databag_withContent, h.field, Option.or_none] at hfetch
  have hraw : (τ.withContent ((τ.secret.getD ∅).set k.field value)).databag.get k.raw = none :=
    h.raw
  by_cases hlabel : value = deletedLabel
  · have hnone : (some value).filter (· != deletedLabel) = none := by simp [hlabel]
    rw [hnone] at hfetch ⊢
    exact (getSecret_eq_none_iff hsecrets).mpr ⟨fun _ => hraw, fun _ => hfetch⟩
  · have hsome : (some value).filter (· != deletedLabel) = some value := by simp [hlabel]
    rw [hsome] at hfetch hstored ⊢
    have hmem : k.field ∈
        (τ.withContent ((τ.secret.getD ∅).set k.field value)).currentSecretFields :=
      mem_currentSecretFields.mpr ⟨hsecrets, .inl (by rw [hstored]; rfl)⟩
    exact getSecret_eq_some hsecrets hvalue (fun _ => hraw) hmem hfetch

/-- What `set_secret` is for: the value is read back, and the databag has none,
neither under the old name nor under the new one. -/
structure SetReadsBack (k : Key) (value : String) (σ : Store) : Prop where
  read : (σ.setSecret k (some value)).getSecret k = some value
  raw : (σ.setSecret k (some value)).databag.get k.raw = none
  field : (σ.setSecret k (some value)).databag.get k.field.1 = none

/-- What it needs for that. -/
structure SetOk (k : Key) (value : String) (σ : Store) : Prop where
  hasSecrets : σ.hasSecrets = true
  label : value ≠ deletedLabel
  secret : ¬ σ.PrefersDatabag k

/-- **Setting**: the value is read back, from the secret only, exactly where
this holds. -/
theorem set_iff (hvalue : value ≠ "") : σ.SetReadsBack k value ↔ σ.SetOk k value := by
  cases hsecrets : σ.hasSecrets with
  | false =>
      constructor
      · intro h
        have hraw := h.raw
        rw [setSecret_of_not_hasSecrets hsecrets hvalue, databag_withDatabag,
          Databag.get_set_self, if_neg hvalue] at hraw
        contradiction
      · intro h
        have hcontra := h.hasSecrets
        rw [hsecrets] at hcontra
        contradiction
  | true =>
      obtain ⟨τ, hτ, hset⟩ := exists_prepared (k := k) hsecrets hvalue
      by_cases hprefers : σ.PrefersDatabag k
      · have hfallback := hτ.fallbackToDatabag.mpr hprefers
        rw [if_neg (by rw [hfallback]; simp)] at hset
        constructor
        · intro h
          have hfield := h.field
          rw [hset, databag_withDatabag, Databag.get_set_self, if_neg hvalue] at hfield
          contradiction
        · intro h
          exact absurd hprefers h.secret
      · have hfallback : τ.fallbackToDatabag = false := by
          rw [Bool.eq_false_iff]
          exact mt hτ.fallbackToDatabag.mp hprefers
        rw [if_pos hfallback] at hset
        constructor
        · intro h
          refine ⟨hsecrets, ?_, hprefers⟩
          intro hlabel
          have hread := h.read
          rw [hset, hτ.getSecret hvalue hfallback, hlabel] at hread
          contradiction
        · intro h
          refine ⟨?_, ?_, ?_⟩
          · rw [hset, hτ.getSecret hvalue hfallback]
            simp [h.label]
          · rw [hset]
            exact hτ.raw
          · rw [hset]
            exact hτ.field

/-! ## the round trip -/

/-- What `remove_secret` is for, and `set_secret` with an empty value: nothing
is read back. -/
structure RemoveReadsBack (k : Key) (σ : Store) : Prop where
  removed : (σ.removeSecret k).getSecret k = none
  cleared : (σ.setSecret k none).getSecret k = none
  emptied : (σ.setSecret k (some "")).getSecret k = none

/-- Setting the empty value removes. -/
theorem removeReadsBack_iff :
    σ.RemoveReadsBack k ↔ (σ.hasSecrets = true → σ.RemoveOk k) := by
  have hall : σ.RemoveReadsBack k ↔ (σ.removeSecret k).getSecret k = none :=
    ⟨fun h => h.removed, fun h => ⟨h, h, h⟩⟩
  rw [hall]
  cases hsecrets : σ.hasSecrets with
  | false =>
      have hsecrets' : (σ.withDatabag (σ.databag.pop k.raw)).hasSecrets = false := hsecrets
      rw [removeSecret_of_not_hasSecrets hsecrets, getSecret_of_not_hasSecrets hsecrets',
        databag_withDatabag, Databag.get_pop_self]
      simp
  | true => simp [remove_iff hsecrets]

/-- **The round trip**: over every mixture of legacy values and stored secrets,
a value that is not empty is read back exactly where `SetOk` holds, and a
removed one is gone exactly where `RemoveOk` does. -/
theorem roundTrip_iff (σ : Store) (k : Key) {value : String} (hvalue : value ≠ "") :
    (σ.SetReadsBack k value ↔ σ.SetOk k value) ∧
      (σ.RemoveReadsBack k ↔ (σ.hasSecrets = true → σ.RemoveOk k)) :=
  ⟨set_iff hvalue, removeReadsBack_iff⟩

/-- A CA certificate that an older version left in the databag. -/
def legacyCa : Store where
  hasSecrets := true
  isLeader := true
  databag := (∅ : Databag String).set "ca" "a CA certificate"
  secret := none
  newSecrets := []

/-- Setting and removing the CA certificate over that one. -/
theorem roundTrip_legacyCa : "a new CA" ≠ "" ∧
    (legacyCa.SetReadsBack caKey "a new CA" ↔ legacyCa.SetOk caKey "a new CA") ∧
      (legacyCa.RemoveReadsBack caKey ↔ (legacyCa.hasSecrets = true → legacyCa.RemoveOk caKey)) :=
  ⟨by decide, roundTrip_iff legacyCa caKey (by decide)⟩

/-- The legacy CA certificate survives its removal. -/
theorem removeSecret_legacyCa : ¬ ∀ (σ : Store) (k : Key) (value : String), value ≠ "" →
    σ.SetReadsBack k value ∧ σ.RemoveReadsBack k := by
  intro h
  have hremoved := (h legacyCa caKey "a new CA" (by decide)).2.removed
  have hkept : (legacyCa.removeSecret caKey).getSecret caKey = some "a CA certificate" := by
    decide
  rw [hkept] at hremoved
  contradiction

end Store

end PostgresqlK8s.Secrets
