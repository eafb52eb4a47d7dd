import PostgresqlK8s.Tls.Certificates

/-!
# Tls.KeyMatch

That the certificate of a unit belongs to its private key.

A new key is stored together with a request for a certificate, while the
certificate for the old key stays where it is.  It is only safe to request a
new certificate where the unit has none, or for the same key.
`keyMatches_of_along` is about the runs that do no more than that, and
`keyMatches_newKey` about one that does.
-/

namespace PostgresqlK8s.Tls

open Secrets

variable {crypto : Crypto}

/-! ## the property -/

/-- The request was made from the key. -/
def Crypto.GeneratedFrom (crypto : Crypto) (csr key : String) : Prop :=
  ∃ subject, crypto.generateCsr key.toUTF8 subject = some csr

/-- Where the unit has a key, a CA and a certificate, the certificate was issued
for a request that was made from the key. -/
def Charm.KeyMatches (crypto : Crypto) (s : Charm) : Prop :=
  ∀ key ca cert, s.getTlsFiles = ⟨some key, some ca, some cert⟩ →
    ∃ csr, crypto.GeneratedFrom csr key ∧ crypto.IssuedFor cert (Text.strip Hba.isSpace csr)

/-- A certificate that is delivered was issued for the request that it answers. -/
def Event.Issued : Event crypto → Prop
  | .certificateAvailable event _ =>
      (∃ key subject csr, crypto.generateCsr key subject = some csr ∧
        Text.strip Hba.isSpace event.certificateSigningRequest = Text.strip Hba.isSpace csr) ∧
      (event.certificate ≠ "" → crypto.IssuedFor event.certificate
        (Text.strip Hba.isSpace event.certificateSigningRequest))
  | _ => True

/-! ## the condition -/

/-- The key for which a certificate is requested. -/
def newKey (crypto : Crypto) (param : Option String) (generated : ByteArray)
    (subject : crypto.Subject) : Option String := do
  let key ← param.elim (some generated) parseTlsFile
  let _ ← crypto.generateCsr key subject
  String.fromUTF8? key

/-- The key that an event stores. -/
def Event.newKey : Event crypto → Option String
  | .setTlsPrivateKey privateKey generated subject => Tls.newKey crypto privateKey generated subject
  | .tlsRelationJoined generated subject => Tls.newKey crypto none generated subject
  | _ => none

/-- The unit has a certificate and a CA. -/
def Charm.HasCertificate (s : Charm) : Prop :=
  s.getTlsFiles.ca.isSome = true ∧ s.getTlsFiles.cert.isSome = true

/-- A key is stored only where it is the one that is there, or the unit has no
certificate. -/
def Charm.KeepsKey (s : Charm) (d : Dispatch crypto) : Prop :=
  ∀ key, d.event.newKey = some key → s.get keyKey = some key ∨ ¬ s.HasCertificate

namespace Charm

/-- A unit that has no TLS files yet. -/
structure Initial (s : Charm) : Prop where
  clean : s.secrets.Clean tlsKeys
  absent : ∀ k ∈ tlsKeys, s.get k = none

/-- What holds throughout: the stored request was made from the stored key, and
so was the one for which the certificate was issued. -/
structure Inv (crypto : Crypto) (s : Charm) : Prop where
  clean : s.secrets.Clean tlsKeys
  csr : ∀ key csr, s.get keyKey = some key → s.get csrKey = some csr → crypto.GeneratedFrom csr key
  files : s.KeyMatches crypto

variable {s s' : Charm} {k : Key} {value : Option String}

/-! ## reading and writing -/

theorem fieldsDistinct_tlsKeys : Store.FieldsDistinct tlsKeys := by
  unfold Store.FieldsDistinct
  decide

theorem writes_set (h : s.secrets.Clean tlsKeys) (hk : k ∈ tlsKeys) (value : Option String) :
    Store.Writes tlsKeys k value s.secrets (s.set k value).secrets :=
  Store.writes_setSecret fieldsDistinct_tlsKeys hk h value

/-- What is read was written. -/
theorem eq_some_of_get_set (h : s.secrets.Clean tlsKeys) (hk : k ∈ tlsKeys) {v : String}
    (hget : (s.set k value).get k = some v) : value = some v := by
  rw [get, (writes_set h hk value).same, Store.readable] at hget
  exact (Option.filter_eq_some_iff.mp hget).1

/-- Only the secrets `ks` were written. -/
structure Wrote (ks : List Key) (s s' : Charm) : Prop where
  clean : s'.secrets.Clean tlsKeys
  others : ∀ k ∈ tlsKeys, k ∉ ks → s'.get k = s.get k

theorem Wrote.nil (h : s.secrets.Clean tlsKeys) : Wrote [] s s := ⟨h, fun _ _ _ => rfl⟩

theorem Wrote.set {ks : List Key} (h : Wrote ks s s') (hk : k ∈ tlsKeys) (value : Option String) :
    Wrote (k :: ks) s (s'.set k value) where
  clean := (writes_set h.clean hk value).clean
  others := by
    intro k' hk' hnot
    rw [List.mem_cons, not_or] at hnot
    rw [← h.others k' hk' hnot.2]
    exact (writes_set h.clean hk value).others k' hk' hnot.1

theorem get_dispatched (h : s.secrets.Clean tlsKeys) (hk : k ∈ tlsKeys) (d : Dispatch crypto) :
    (s.dispatched d).get k = s.get k :=
  h.getSecret_newRun hk d.isLeader

/-! ## what the handlers do -/

/-- A request for a certificate stores the key and the request made from it. -/
theorem requestCertificate_eq_some {param : Option String} {generated : ByteArray}
    {subject : crypto.Subject} (h : requestCertificate crypto param generated subject s = some s') :
    ∃ key csr, newKey crypto param generated subject = some key ∧
      crypto.generateCsr key.toUTF8 subject = some csr ∧
      s'.secrets = ((s.set keyKey (some key)).set csrKey (some csr)).secrets := by
  simp only [requestCertificate, Option.bind_eq_bind, Option.bind_eq_some_iff] at h
  obtain ⟨bytes, hbytes, csr, hcsr, key, hkey, h⟩ := h
  refine ⟨key, csr, ?_, ?_, ?_⟩
  · simp [newKey, hbytes, hcsr, hkey]
  · rw [encode_of_decode hkey]
    exact hcsr
  · split at h
    · simp only [requestCertificateCreation, Option.bind_eq_bind, Option.bind_eq_some_iff] at h
      obtain ⟨csrs, -, h⟩ := h
      cases h
      rfl
    · cases h
      rfl

/-- A renewal stores a request that is made from the stored key. -/
theorem onCertificateExpiring_eq_some {certificate : String} {subject : crypto.Subject}
    (h : onCertificateExpiring crypto certificate subject s = some s') :
    s' = s ∨ ∃ key csr, s.get keyKey = some key ∧
      crypto.generateCsr key.toUTF8 subject = some csr ∧
      s'.secrets = (s.set csrKey (some csr)).secrets := by
  rw [onCertificateExpiring] at h
  split at h
  · exact .inl (Option.some.inj h).symm
  · simp only [requestCertificateRenewal, requestCertificateCreation, Option.bind_eq_bind,
      Option.bind_eq_some_iff] at h
    obtain ⟨key, hkey, oldCsr, -, csr, hcsr, s₁, ⟨csrs, -, h₁⟩, h⟩ := h
    cases h₁
    cases h
    exact .inr ⟨key, csr, hkey, hcsr, rfl⟩

/-- A certificate is stored where it answers the stored request. -/
theorem onCertificateAvailable_eq_some {event : CertificateAvailable}
    {push : Except PushError Bool} (h : onCertificateAvailable event push s = some s') :
    s' = s ∨
      (Text.strip Hba.isSpace event.certificateSigningRequest = s.strip csrKey ∧
        event.certificate ≠ "" ∧
        s' = ((s.set chainKey (event.chain.map (Text.join '\n'))).set certKey
          (some event.certificate)).set caKey (some event.ca)) := by
  unfold onCertificateAvailable at h
  split at h
  · exact .inl (Option.some.inj h).symm
  · next hcsr =>
      split at h
      · exact .inl (Option.some.inj h).symm
      · next hcert =>
          refine .inr ⟨not_not.mp hcsr, hcert, ?_⟩
          split at h
          · exact (Option.some.inj h).symm
          · exact (Option.some.inj h).symm
          · contradiction

/-! ## the invariant -/

/-- The invariant is about the secrets. -/
theorem Inv.congr (h : s.Inv crypto) (hsecrets : s'.secrets = s.secrets) : s'.Inv crypto := by
  have hget (k : Key) : s'.get k = s.get k := by rw [get, hsecrets, get]
  refine ⟨?_, ?_, ?_⟩
  · rw [hsecrets]
    exact h.clean
  · intro key csr hkey hcsr
    rw [hget] at hkey hcsr
    exact h.csr key csr hkey hcsr
  · intro key ca cert hfiles
    simp only [getTlsFiles, hget] at hfiles
    exact h.files key ca cert hfiles

/-- The files depend on four of the secrets. -/
theorem getTlsFiles_congr (h : ∀ k ∈ [keyKey, certKey, caKey, chainKey], s'.get k = s.get k) :
    s'.getTlsFiles = s.getTlsFiles := by
  rw [getTlsFiles, getTlsFiles, h keyKey (by decide), h certKey (by decide), h caKey (by decide),
    h chainKey (by decide)]

/-- The invariant survives where neither the key, the request nor the files
change. -/
theorem Inv.of_get (h : s.Inv crypto) (hclean : s'.secrets.Clean tlsKeys)
    (hget : ∀ k ∈ tlsKeys, s'.get k = s.get k) : s'.Inv crypto := by
  refine ⟨hclean, ?_, ?_⟩
  · rw [hget keyKey (by decide), hget csrKey (by decide)]
    exact h.csr
  · have hfiles : s'.getTlsFiles = s.getTlsFiles := by
      apply getTlsFiles_congr
      intro k hk
      exact hget k ((by decide : ∀ k ∈ [keyKey, certKey, caKey, chainKey], k ∈ tlsKeys) k hk)
    rw [KeyMatches, hfiles]
    exact h.files

theorem Initial.inv (h : s.Initial) : s.Inv crypto where
  clean := h.clean
  csr := by
    intro key csr hkey
    rw [h.absent keyKey (by decide)] at hkey
    contradiction
  files := by
    intro key ca cert hfiles
    have hkey : s.get keyKey = some key := congrArg TlsFiles.key hfiles
    rw [h.absent keyKey (by decide)] at hkey
    contradiction

/-- A new key comes with a request made from it, and without a certificate,
unless it is the old key. -/
theorem Inv.requestCertificate {param : Option String} {generated : ByteArray}
    {subject : crypto.Subject} (hs : s.Inv crypto)
    (hkept : ∀ key, newKey crypto param generated subject = some key →
      s.get keyKey = some key ∨ ¬ s.HasCertificate)
    (h : requestCertificate crypto param generated subject s = some s') : s'.Inv crypto := by
  obtain ⟨key, csr, hnew, hcsr, hsecrets⟩ := requestCertificate_eq_some h
  refine Inv.congr ?_ hsecrets
  have hkey := (Wrote.nil hs.clean).set (k := keyKey) (by decide) (some key)
  have hboth := hkey.set (k := csrKey) (by decide) (some csr)
  have hstored (v : String)
      (hv : ((s.set keyKey (some key)).set csrKey (some csr)).get keyKey = some v) : v = key := by
    have hothers := ((Wrote.nil hkey.clean).set (k := csrKey) (by decide) (some csr)).others
    rw [hothers keyKey (by decide) (by decide)] at hv
    exact (Option.some.inj (eq_some_of_get_set hs.clean (by decide) hv)).symm
  refine ⟨hboth.clean, ?_, ?_⟩
  · intro key' csr' hkey' hcsr'
    have hsame := Option.some.inj (eq_some_of_get_set hkey.clean (by decide) hcsr')
    rw [hstored key' hkey', ← hsame]
    exact ⟨subject, hcsr⟩
  · intro key' ca cert hfiles
    have hsame : ((s.set keyKey (some key)).set csrKey (some csr)).getTlsFiles =
        ⟨((s.set keyKey (some key)).set csrKey (some csr)).get keyKey, s.getTlsFiles.ca,
          s.getTlsFiles.cert⟩ := by
      rw [getTlsFiles, getTlsFiles, hboth.others caKey (by decide) (by decide),
        hboth.others chainKey (by decide) (by decide),
        hboth.others certKey (by decide) (by decide)]
    rw [hsame, TlsFiles.mk.injEq] at hfiles
    obtain ⟨hkey', hca, hcert⟩ := hfiles
    have hhas : s.HasCertificate := ⟨by rw [hca]; rfl, by rw [hcert]; rfl⟩
    have hold := (hkept key hnew).resolve_right (not_not.mpr hhas)
    refine hs.files key' ca cert ?_
    rw [hstored key' hkey', ← hca, ← hcert, ← hold]
    rfl

/-- What answers the stored request answers one that was made from the stored
key. -/
theorem Inv.answered {key answer : String} (hs : s.Inv crypto) (hkey : s.get keyKey = some key)
    (hcsr : ∃ key subject csr, crypto.generateCsr key subject = some csr ∧
      Text.strip Hba.isSpace answer = Text.strip Hba.isSpace csr)
    (hanswers : Text.strip Hba.isSpace answer = s.strip csrKey) :
    ∃ csr, crypto.GeneratedFrom csr key ∧
      Text.strip Hba.isSpace answer = Text.strip Hba.isSpace csr := by
  cases hstored : s.get csrKey with
  | none =>
      obtain ⟨bytes, subject, csr, hgenerate, hstrip⟩ := hcsr
      have hnone : s.strip csrKey = "None" := by
        rw [strip, hstored]
        decide
      exact absurd (hstrip ▸ hanswers.trans hnone) (crypto.csr_text _ _ _ hgenerate).2
  | some csr =>
      refine ⟨csr, hs.csr key csr hkey hstored, ?_⟩
      rw [hanswers, strip, hstored]
      rfl

/-- A certificate that answers the stored request was issued for one made from
the stored key. -/
theorem Inv.onCertificateAvailable {event : CertificateAvailable} {push : Except PushError Bool}
    (hs : s.Inv crypto) (hissued : (Event.certificateAvailable event push : Event crypto).Issued)
    (h : onCertificateAvailable event push s = some s') : s'.Inv crypto := by
  obtain rfl | ⟨hanswers, hcert, rfl⟩ := onCertificateAvailable_eq_some h
  · exact hs
  · have hchain := (Wrote.nil hs.clean).set (k := chainKey) (by decide)
      (event.chain.map (Text.join '\n'))
    have hcertificate := hchain.set (k := certKey) (by decide) (some event.certificate)
    have hall := hcertificate.set (k := caKey) (by decide) (some event.ca)
    have hca := (Wrote.nil hcertificate.clean).set (k := caKey) (by decide) (some event.ca)
    refine ⟨hall.clean, ?_, ?_⟩
    · rw [hall.others keyKey (by decide) (by decide), hall.others csrKey (by decide) (by decide)]
      exact hs.csr
    · intro key ca cert hfiles
      have hkey := (hall.others keyKey (by decide) (by decide)).symm.trans
        (congrArg TlsFiles.key hfiles)
      have hcert' := (hca.others certKey (by decide) (by decide)).symm.trans
        (congrArg TlsFiles.cert hfiles)
      have hsame := Option.some.inj (eq_some_of_get_set hchain.clean (by decide) hcert')
      obtain ⟨csr, hgenerated, hstrip⟩ := hs.answered hkey hissued.1 hanswers
      refine ⟨csr, hgenerated, ?_⟩
      rw [← hsame, ← hstrip]
      exact hissued.2 hcert

/-- A renewed request is made from the stored key. -/
theorem Inv.onCertificateExpiring {certificate : String} {subject : crypto.Subject}
    (hs : s.Inv crypto) (h : onCertificateExpiring crypto certificate subject s = some s') :
    s'.Inv crypto := by
  obtain rfl | ⟨key, csr, hkey, hcsr, hsecrets⟩ := onCertificateExpiring_eq_some h
  · exact hs
  · refine Inv.congr ?_ hsecrets
    have hwrote := (Wrote.nil hs.clean).set (k := csrKey) (by decide) (some csr)
    refine ⟨hwrote.clean, ?_, ?_⟩
    · intro key' csr' hkey' hcsr'
      rw [hwrote.others keyKey (by decide) (by decide), hkey] at hkey'
      have hsame := Option.some.inj (eq_some_of_get_set hs.clean (by decide) hcsr')
      rw [← Option.some.inj hkey', ← hsame]
      exact ⟨subject, hcsr⟩
    · have hfiles : (s.set csrKey (some csr)).getTlsFiles = s.getTlsFiles := by
        apply getTlsFiles_congr
        intro k hk
        have hmem : ∀ k ∈ [keyKey, certKey, caKey, chainKey], k ∈ tlsKeys ∧ k ∉ [csrKey] := by
          decide
        exact hwrote.others k (hmem k hk).1 (hmem k hk).2
      rw [KeyMatches, hfiles]
      exact hs.files

/-- Without the relation there is no certificate. -/
theorem Inv.onTlsRelationBroken {update : Except PushError Bool} (hs : s.Inv crypto)
    (h : onTlsRelationBroken update s = some s') : s'.Inv crypto := by
  cases update with
  | error => contradiction
  | ok updated =>
      obtain rfl := Option.some.inj h
      have hca := (Wrote.nil hs.clean).set (k := caKey) (by decide) none
      have hcert := hca.set (k := certKey) (by decide) none
      have hall := hcert.set (k := chainKey) (by decide) none
      refine ⟨hall.clean, ?_, ?_⟩
      · rw [hall.others keyKey (by decide) (by decide), hall.others csrKey (by decide) (by decide)]
        exact hs.csr
      · intro key ca cert hfiles
        have hchain := (Wrote.nil hcert.clean).set (k := chainKey) (by decide) none
        have hcert' := (hchain.others certKey (by decide) (by decide)).symm.trans
          (congrArg TlsFiles.cert hfiles)
        have hcontra := eq_some_of_get_set hca.clean (by decide) hcert'
        contradiction

/-- A handler keeps the invariant, if no key is stored beside the certificate
for another. -/
theorem Inv.handle {event : Event crypto} (hs : s.Inv crypto) (hissued : event.Issued)
    (hkept : ∀ key, event.newKey = some key → s.get keyKey = some key ∨ ¬ s.HasCertificate)
    (h : handle event s = some s') : s'.Inv crypto := by
  cases event with
  | setTlsPrivateKey privateKey generated subject => exact hs.requestCertificate hkept h
  | tlsRelationJoined generated subject => exact hs.requestCertificate hkept h
  | tlsRelationBroken update => exact hs.onTlsRelationBroken h
  | certificateAvailable event push => exact hs.onCertificateAvailable hissued h
  | certificateExpiring certificate subject => exact hs.onCertificateExpiring h
  | certificateInvalidated certificate subject => exact hs.onCertificateExpiring h

theorem Inv.dispatched (hs : s.Inv crypto) (d : Dispatch crypto) : (s.dispatched d).Inv crypto :=
  hs.of_get (hs.clean.newRun d.isLeader) fun _ hk => get_dispatched hs.clean hk d

/-- The files are the same at the begin of a run of the charm. -/
theorem getTlsFiles_dispatched (h : s.secrets.Clean tlsKeys) (d : Dispatch crypto) :
    (s.dispatched d).getTlsFiles = s.getTlsFiles := by
  apply getTlsFiles_congr
  intro k hk
  exact get_dispatched h
    ((by decide : ∀ k ∈ [keyKey, certKey, caKey, chainKey], k ∈ tlsKeys) k hk) d

/-- **A step** that stores no key beside the certificate for another keeps the
invariant. -/
theorem Inv.step (hs : s.Inv crypto) {d : Dispatch crypto} (hissued : d.event.Issued)
    (hkept : s.KeepsKey d) : (s.step d).Inv crypto := by
  unfold Charm.step
  have hkept' : ∀ key, d.event.newKey = some key →
      (s.dispatched d).get keyKey = some key ∨ ¬ (s.dispatched d).HasCertificate := by
    rw [HasCertificate, getTlsFiles_dispatched hs.clean, get_dispatched hs.clean (by decide)]
    exact hkept
  cases hhandle : Charm.handle d.event (s.dispatched d) with
  | none => exact hs.dispatched d
  | some s' =>
      have hs' : s'.Inv crypto := (hs.dispatched d).handle hissued hkept' hhandle
      dsimp only
      split
      · exact hs'.congr rfl
      · exact hs'

end Charm

open Charm in
/-- **Key and certificate match** in every state of a run that stores no key
beside the certificate for another. -/
theorem keyMatches_of_along {s : Charm} {ds : List (Dispatch crypto)} (hs : s.Initial)
    (hissued : ∀ d ∈ ds, d.event.Issued) (hkept : Machine.Along step KeepsKey s ds) :
    ∀ es, es <+: ds → (Machine.run step s es).KeyMatches crypto := by
  rintro es ⟨fs, rfl⟩
  have hprefix := ((Machine.along_append step KeepsKey s es fs).mp hkept).1
  have hguard := Machine.along_and_of_forall hprefix
    fun d hd => hissued d (List.mem_append_left fs hd)
  have hinv := Machine.run_of_along (Inv crypto)
    (fun s d hs hd => hs.step hd.2 hd.1) hs.inv hguard
  exact hinv.files

/-! ## runs -/

instance (s : Charm) : Decidable s.HasCertificate := inferInstanceAs (Decidable (_ ∧ _))

instance (s : Charm) (d : Dispatch crypto) : Decidable (s.KeepsKey d) :=
  inferInstanceAs (Decidable (∀ key ∈ d.event.newKey, _))

/-- The text of a PEM file, without its last line. -/
def pem (label content : String) : String := "-----BEGIN " ++ label ++ "-----\n" ++ content ++ "\n"

def privateKey (holder : String) : String := pem "KEY" holder

def csr (holder : String) : String := pem "REQUEST" holder

def certificate (holder : String) : String := pem "CERTIFICATE" holder

/-- The cryptography of two keys. -/
def twoKeys : Crypto where
  Subject := PUnit
  generateCsr := fun key _ =>
    (["A", "B"].find? fun holder => String.fromUTF8? key == some (privateKey holder)).map csr
  IssuedFor := fun cert request =>
    ∃ holder ∈ ["A", "B"], cert = certificate holder ∧
      request = Text.strip Hba.isSpace (csr holder)
  csr_text := by
    have htext : ∀ holder ∈ ["A", "B"], Text.strip Hba.isSpace (csr holder) ≠ "" ∧
        Text.strip Hba.isSpace (csr holder) ≠ "None" := by
      decide
    intro key subject request h
    obtain ⟨holder, hfind, rfl⟩ := Option.map_eq_some_iff.mp h
    exact htext holder (List.mem_of_find?_eq_some hfind)

/-- A unit that was just deployed. -/
def deployed : Charm where
  secrets :=
    { hasSecrets := true, isLeader := false, databag := ∅, secret := none, newSecrets := [] }
  requirerCsrs := none

theorem initial_deployed : deployed.Initial where
  clean := ⟨fun _ _ _ => rfl, fun _ _ _ => rfl, fun _ _ _ => rfl⟩
  absent := by decide

def joined (holder : String) : Dispatch twoKeys :=
  ⟨false, .tlsRelationJoined (privateKey holder).toUTF8 ⟨⟩⟩

def available (holder : String) : Dispatch twoKeys :=
  ⟨false, .certificateAvailable
    ⟨Text.strip Hba.isSpace (csr holder), certificate holder, certificate "CA",
      some [certificate holder, certificate "CA"]⟩ (.ok true)⟩

def broken : Dispatch twoKeys := ⟨false, .tlsRelationBroken (.ok true)⟩

/-- A new key, while the certificate for the old one is stored. -/
def setPrivateKey (holder : String) : Dispatch twoKeys :=
  ⟨false, .setTlsPrivateKey (some (privateKey holder)) ByteArray.empty ⟨⟩⟩

theorem issued_available {holder : String} (h : holder ∈ ["A", "B"]) :
    (available holder).event.Issued := by
  have hgenerate : ∀ holder ∈ ["A", "B"],
      twoKeys.generateCsr (privateKey holder).toUTF8 ⟨⟩ = some (csr holder) := by
    decide
  have hstrip : ∀ holder ∈ ["A", "B"], Text.strip Hba.isSpace
      (Text.strip Hba.isSpace (csr holder)) = Text.strip Hba.isSpace (csr holder) := by
    decide
  exact ⟨⟨_, _, _, hgenerate holder h, hstrip holder h⟩,
    fun _ => ⟨holder, h, rfl, hstrip holder h⟩⟩

open Charm in
/-- The relation is broken and joined again. -/
theorem keyMatches_rejoined :
    (Machine.run step deployed [joined "A", available "A"]).HasCertificate ∧
      ∀ es, es <+: [joined "A", available "A", broken, joined "B", available "B"] →
        (Machine.run step deployed es).KeyMatches twoKeys := by
  refine ⟨by decide, keyMatches_of_along initial_deployed ?_ (by decide)⟩
  simp only [List.forall_mem_cons, List.not_mem_nil, false_implies, implies_true, and_true]
  exact ⟨trivial, issued_available (by simp), trivial, trivial, issued_available (by simp)⟩

open Charm in
/-- A new key is stored beside the certificate for the old one. -/
theorem keyMatches_newKey : ¬ ∀ (crypto : Crypto) (s : Charm) (ds : List (Dispatch crypto)),
    s.Initial → (∀ d ∈ ds, d.event.Issued) → (Machine.run step s ds).KeyMatches crypto := by
  intro h
  have hissued : ∀ d ∈ [joined "A", available "A", setPrivateKey "B"], d.event.Issued := by
    simp only [List.forall_mem_cons, List.not_mem_nil, false_implies, implies_true, and_true]
    exact ⟨trivial, issued_available (by simp), trivial⟩
  have hfiles : (Machine.run step deployed
      [joined "A", available "A", setPrivateKey "B"]).getTlsFiles =
        ⟨some (privateKey "B"), some (Text.join '\n' [certificate "A", certificate "CA"]),
          some (certificate "A")⟩ := by
    decide
  have hgenerate : twoKeys.generateCsr (privateKey "B").toUTF8 ⟨⟩ = some (csr "B") := by
    decide
  obtain ⟨request, ⟨subject, hrequest⟩, holder, hholder, hcert, hstrip⟩ :=
    h twoKeys deployed _ initial_deployed hissued _ _ _ hfiles
  obtain rfl := Option.some.inj (hgenerate.symm.trans hrequest)
  have hnone : ∀ holder ∈ ["A", "B"], ¬ (certificate "A" = certificate holder ∧
      Text.strip Hba.isSpace (csr "B") = Text.strip Hba.isSpace (csr holder)) := by
    decide
  exact hnone holder hholder ⟨hcert, hstrip⟩

end PostgresqlK8s.Tls
