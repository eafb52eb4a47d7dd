import PostgresqlK8s.Hba.Rules
import PostgresqlK8s.Lib.Run
import PostgresqlK8s.Secrets.Clean
import PostgresqlK8s.Tls.ParseFile

/-!
# Tls.Certificates

The TLS files of a unit, which it keeps as five secrets: the private key, the
request for a certificate (CSR), the certificate, the CA and the chain.

* `requestCertificate` — a private key was given, or the unit joined the
  relation with the TLS operator: a new key and a request made from it;
* `onCertificateAvailable` — a certificate for the stored request;
* `onCertificateExpiring` — the stored certificate expires, or is not valid any
  more: a new request, made from the stored key;
* `onTlsRelationBroken` — the relation is gone, and so is the certificate.

A handler that ends with an exception leaves the unit as it was, since Juju
discards what it wrote.  One that defers its event is run again later, which is
an event of its own here, as is a certificate that comes late or twice.
-/

namespace PostgresqlK8s.Tls

open Secrets

/-- What the unit needs of the cryptography: how a request is made, and for
which request a certificate was issued.  A request is exchanged without the
white space around it. -/
structure Crypto where
  /-- What a request is made from besides the key: the names of the unit, and
  an identifier that is new each time. -/
  Subject : Type
  /-- `generate_csr`, which fails for what is no private key. -/
  generateCsr : ByteArray → Subject → Option String
  /-- The certificate was issued for the request. -/
  IssuedFor : String → String → Prop
  /-- A request is a text of its own. -/
  csr_text : ∀ key subject csr, generateCsr key subject = some csr →
    Text.strip Hba.isSpace csr ≠ "" ∧ Text.strip Hba.isSpace csr ≠ "None"

/-! ## the secrets -/

def keyKey : Key := ⟨"key", .inr rfl⟩

def csrKey : Key := ⟨"csr", .inr rfl⟩

def certKey : Key := ⟨"cert", .inr rfl⟩

def chainKey : Key := ⟨"chain", .inr rfl⟩

def tlsKeys : List Key := [keyKey, csrKey, certKey, caKey, chainKey]

/-- A unit, as far as its TLS files go. -/
structure Charm where
  /-- The secrets of the scope `unit`. -/
  secrets : Store
  /-- `certificate_signing_requests` in the databag of the unit, if it has a
  relation with the TLS operator. -/
  requirerCsrs : Option (List String)

/-- The files that `push_tls_files_to_workload` puts on the storage. -/
structure TlsFiles where
  key : Option String
  ca : Option String
  cert : Option String
  deriving DecidableEq

/-- `CertificateAvailableEvent`. -/
structure CertificateAvailable where
  certificateSigningRequest : String
  certificate : String
  ca : String
  chain : Option (List String)

/-- How an attempt to push the files, or to update the configuration, fails. -/
inductive PushError
  /-- With a `PebbleConnectionError`, `PathError`, `ProtocolError` or
  `RetryError`. -/
  | listed
  | other

variable (crypto : Crypto)

/-- What happens at the unit. -/
inductive Event
  /-- The action `set-tls-private-key`, with the key that is generated if it
  has no parameter. -/
  | setTlsPrivateKey (privateKey : Option String) (generated : ByteArray)
      (subject : crypto.Subject)
  | tlsRelationJoined (generated : ByteArray) (subject : crypto.Subject)
  | tlsRelationBroken (update : Except PushError Bool)
  | certificateAvailable (event : CertificateAvailable) (push : Except PushError Bool)
  | certificateExpiring (certificate : String) (subject : crypto.Subject)
  | certificateInvalidated (certificate : String) (subject : crypto.Subject)

/-- A run of the charm: an event, and whether the unit is the leader. -/
structure Dispatch where
  isLeader : Bool
  event : Event crypto

variable {crypto}

namespace Charm

/-- `get_secret`. -/
def get (k : Key) (s : Charm) : Option String := s.secrets.getSecret k

/-- `set_secret`. -/
def set (k : Key) (value : Option String) (s : Charm) : Charm :=
  { s with secrets := s.secrets.setSecret k value }

/-- `str(self.charm.get_secret(SCOPE, …)).strip()`. -/
def strip (k : Key) (s : Charm) : String := Text.strip Hba.isSpace ((s.get k).getD "None")

/-! ## the relation with the TLS operator -/

/-- `_add_requirer_csr`. -/
def addRequirerCsr (csr : String) (csrs : List String) : List String :=
  if csr ∈ csrs then csrs else csrs ++ [csr]

/-- `request_certificate_creation`, which fails without a relation. -/
def requestCertificateCreation (csr : String) (s : Charm) : Option Charm := do
  let csrs ← s.requirerCsrs
  return { s with requirerCsrs := some (addRequirerCsr (Text.strip Hba.isSpace csr) csrs) }

/-- `request_certificate_revocation`, where a missing relation is logged. -/
def requestCertificateRevocation (csr : String) (s : Charm) : Charm :=
  { s with requirerCsrs := s.requirerCsrs.map (·.erase (Text.strip Hba.isSpace csr)) }

/-- `request_certificate_renewal`. -/
def requestCertificateRenewal (oldCsr newCsr : String) (s : Charm) : Option Charm :=
  (s.requestCertificateRevocation oldCsr).requestCertificateCreation newCsr

/-! ## the handlers -/

/-- `_request_certificate`. -/
def requestCertificate (crypto : Crypto) (param : Option String) (generated : ByteArray)
    (subject : crypto.Subject) (s : Charm) : Option Charm := do
  let key ← param.elim (some generated) parseTlsFile
  let csr ← crypto.generateCsr key subject
  let keyText ← String.fromUTF8? key
  let s := (s.set keyKey (some keyText)).set csrKey (some csr)
  if s.requirerCsrs.isSome then s.requestCertificateCreation csr else some s

/-- `_on_tls_relation_broken`. -/
def onTlsRelationBroken (update : Except PushError Bool) (s : Charm) : Option Charm :=
  match update with
  | .ok _ => some (((s.set caKey none).set certKey none).set chainKey none)
  | .error _ => none

/-- `_on_certificate_available`. -/
def onCertificateAvailable (event : CertificateAvailable) (push : Except PushError Bool)
    (s : Charm) : Option Charm :=
  if Text.strip Hba.isSpace event.certificateSigningRequest ≠ s.strip csrKey then some s
  else if event.certificate = "" then some s
  else
    match push with
    | .ok _ | .error .listed =>
        some (((s.set chainKey (event.chain.map (Text.join '\n'))).set certKey
          (some event.certificate)).set caKey (some event.ca))
    | .error .other => none

/-- `_on_certificate_expiring`. -/
def onCertificateExpiring (crypto : Crypto) (certificate : String) (subject : crypto.Subject)
    (s : Charm) : Option Charm :=
  if Text.strip Hba.isSpace certificate ≠ s.strip certKey then some s
  else do
    let key ← s.get keyKey
    let oldCsr ← s.get csrKey
    let newCsr ← crypto.generateCsr key.toUTF8 subject
    let s ← s.requestCertificateRenewal oldCsr newCsr
    return s.set csrKey (some newCsr)

/-- `get_tls_files`. -/
def getTlsFiles (s : Charm) : TlsFiles :=
  let chain := s.get chainKey
  { key := s.get keyKey
    ca := if chain.any (· ≠ "") then chain else s.get caKey
    cert := s.get certKey }

/-! ## the steps -/

/-- What a handler makes of the unit; nothing, where it ends with an
exception. -/
def handle : Event crypto → Charm → Option Charm
  | .setTlsPrivateKey privateKey generated subject =>
      requestCertificate crypto privateKey generated subject
  | .tlsRelationJoined generated subject => requestCertificate crypto none generated subject
  | .tlsRelationBroken update => onTlsRelationBroken update
  | .certificateAvailable event push => onCertificateAvailable event push
  | .certificateExpiring certificate subject
  | .certificateInvalidated certificate subject => onCertificateExpiring crypto certificate subject

/-- The unit as a run of the charm finds it: nothing was added to the secret
yet, and a relation that is joined is there. -/
def dispatched (d : Dispatch crypto) (s : Charm) : Charm where
  secrets := s.secrets.newRun d.isLeader
  requirerCsrs :=
    match d.event with
    | .tlsRelationJoined _ _ => some (s.requirerCsrs.getD [])
    | _ => s.requirerCsrs

/-- The unit after a run of the charm.  A relation that is broken is gone, once
its handler ends. -/
def step (s : Charm) (d : Dispatch crypto) : Charm :=
  match handle d.event (s.dispatched d) with
  | none => s.dispatched d
  | some s' =>
      match d.event with
      | .tlsRelationBroken _ => { s' with requirerCsrs := none }
      | _ => s'

end Charm

end PostgresqlK8s.Tls
