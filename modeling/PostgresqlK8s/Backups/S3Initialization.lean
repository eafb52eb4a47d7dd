import PostgresqlK8s.Lib.Run
import PostgresqlK8s.Lib.Databag
import PostgresqlK8s.Backups.Messages

/-!
# Backups.S3Initialization

The handshake in which the leader and the primary set up a new S3
repository.

When the credentials change the leader writes `s3-initialization-start` in
the application databag.  The primary initialises the stanza and leaves the
outcome with `s3-initialization-done` in its own databag, unless that flag is
already there.  The leader, on a later event, copies the outcome of any unit
that has the flag to the application databag and sets the flag there, and on
a still later event the primary cleans its own databag.

Beside the databags the state records what they do not say: with which
credentials the leader set the pending start, with which ones the primary ran
the initialisation that left its flag, and the outcome of every run.
-/

namespace PostgresqlK8s.Backups

/-- The keys of the handshake, in the application and in every unit databag. -/
inductive S3Key
  | stanza
  | s3InitializationStart
  | s3InitializationDone
  | s3InitializationBlockMessage
deriving DecidableEq, Repr

/-- An initialisation that ran to its end: the credentials it used, and the
stanza or the block message it came to. -/
structure InitialisationRun where
  credentials : Nat
  stanza : String
  blockMessage : String
deriving DecidableEq, Repr

/-- The leader and the primary are different units. -/
structure Deployment where
  leader : Nat
  primary : Nat
  leader_ne_primary : leader ≠ primary
  /-- `stanza_name`. -/
  stanzaName : String

structure S3State where
  /-- The version of the S3 credentials; each change makes a new one. -/
  credentials : Nat
  app : Databag S3Key
  unit : Nat → Databag S3Key
  /-- The credentials the leader last set a start with. -/
  startedWith : Nat
  /-- The credentials the primary last ran an initialisation with. -/
  initialisedWith : Nat
  history : List InitialisationRun

/-- What an initialisation meets: an absent `repository` is an exception, and
a failed command comes with the hint for its block message. -/
structure Initialisation where
  updateConfig : Bool
  bucket : Bool
  repository : Option (Option String)
  blocked : Bool
  stanzaCreate : Option String
  check : Option String
deriving Repr

/-- What a handler meets. -/
structure S3Answers where
  /-- `_on_s3_credentials_checks`, or the exits of `_on_peer_relation_changed`
  and `_on_update_status` before the stanza fields are coordinated. -/
  earlyExit : Bool
  /-- `time.asctime(time.gmtime())`. -/
  now : String
  /-- The units in the order in which their databags are visited. -/
  units : List Nat
  /-- Whether `update_config` works after the leader has published. -/
  updateConfig : Bool
  initialisation : Initialisation
deriving Repr

namespace S3State

variable (D : Deployment)

/-- Leave the outcome of an initialisation in a unit databag. -/
def finish (u : Nat) (d : Databag S3Key) (stanza blockMessage : String) (s : S3State) : S3State :=
  { s with
    unit := Function.update s.unit u d
    initialisedWith := s.credentials
    history := ⟨s.credentials, stanza, blockMessage⟩ :: s.history }

/-- `_s3_initialization_set_failure`. -/
def s3InitializationSetFailure (u : Nat) (blockMessage : String) (s : S3State) : S3State :=
  if u = D.leader then
    { s with
      app := s.app.update [(.s3InitializationBlockMessage, blockMessage),
        (.s3InitializationStart, ""), (.stanza, "")] }
  else
    s.finish u ((s.unit u).update [(.s3InitializationBlockMessage, blockMessage),
      (.s3InitializationDone, "True"), (.stanza, "")]) "" blockMessage

/-- `_initialise_stanza`. -/
def initialiseStanza (u : Nat) (i : Initialisation) (s : S3State) : Bool × S3State :=
  if i.blocked then (false, s)
  else match i.stanzaCreate with
    | some errorHint => (false, s.s3InitializationSetFailure D u (stanzaBlockMessage errorHint))
    | none =>
        if u = D.leader then (true, { s with app := s.app.update [(.stanza, D.stanzaName)] })
        else
          (true, { s with
            unit := Function.update s.unit u ((s.unit u).update [(.stanza, D.stanzaName)]) })

/-- `check_stanza`. -/
def checkStanza (u : Nat) (i : Initialisation) (s : S3State) : Bool × S3State :=
  match i.check with
  | some errorHint => (false, s.s3InitializationSetFailure D u (stanzaBlockMessage errorHint))
  | none =>
      if u = D.leader then
        (true, { s with app := s.app.update [(.s3InitializationStart, "")] })
      else
        (true, s.finish u ((s.unit u).update [(.s3InitializationDone, "True")]) D.stanzaName "")

/-- `_on_s3_credential_changed_primary`; `none` is an uncaught exception. -/
def onS3CredentialChangedPrimary (u : Nat) (i : Initialisation) (s : S3State) :
    Option (Bool × S3State) :=
  if !i.updateConfig then none
  else if !i.bucket then
    some (false, s.s3InitializationSetFailure D u failedToAccessCreateBucketErrorMessage)
  else match i.repository with
    | none => none
    | some (some validationMessage) =>
        some (false, s.s3InitializationSetFailure D u validationMessage)
    | some none =>
        let (initialised, s) := s.initialiseStanza D u i
        if !initialised then some (false, s) else some (s.checkStanza D u i)

/-- What the leader writes when the credentials have changed. -/
def start (now : String) (s : S3State) : S3State :=
  { s with
    startedWith := s.credentials
    app := s.app.update [(.s3InitializationBlockMessage, ""), (.s3InitializationStart, now),
      (.stanza, ""), (.s3InitializationDone, "")] }

/-- `_on_s3_credential_changed`, in the unit `u`. -/
def onS3CredentialChanged (u : Nat) (a : S3Answers) (s : S3State) : Option S3State :=
  if a.earlyExit then some s
  else
    let s := if u = D.leader then s.start a.now else s
    if u = D.primary && !(s.unit u).contains .s3InitializationDone then
      (s.onS3CredentialChangedPrimary D u a.initialisation).map (·.2)
    else some s

/-- What the leader publishes from a databag that has the flag. -/
def publish (d : Databag S3Key) (s : S3State) : S3State :=
  { s with
    app := s.app.update [(.stanza, d.getD .stanza ""),
      (.s3InitializationBlockMessage, d.getD .s3InitializationBlockMessage ""),
      (.s3InitializationStart, ""), (.s3InitializationDone, "True")] }

/-- `coordinate_stanza_fields`: the first databag that has the flag is
published; the databag of the application comes after those of the units. -/
def coordinateStanzaFields (u : Nat) (a : S3Answers) (s : S3State) : Option S3State :=
  if u ≠ D.leader || !s.app.contains .s3InitializationStart then some s
  else match (a.units.map s.unit ++ [s.app]).find? (·.contains .s3InitializationDone) with
    | none => some s
    | some d => if a.updateConfig then some (s.publish d) else none

/-- What a unit forgets once the leader has published. -/
def forget (u : Nat) (s : S3State) : S3State :=
  { s with
    unit := Function.update s.unit u ((s.unit u).update [(.stanza, ""),
      (.s3InitializationBlockMessage, ""), (.s3InitializationDone, ""),
      (.s3InitializationStart, "")]) }

/-- The clean-up at the end of `_on_peer_relation_changed`. -/
def cleanUp (u : Nat) (s : S3State) : S3State :=
  if s.app.contains .s3InitializationDone && u ≠ D.leader then s.forget u else s

/-- `_on_peer_relation_changed`, in the unit `u`. -/
def onPeerRelationChanged (u : Nat) (a : S3Answers) (s : S3State) : Option S3State :=
  if a.earlyExit then some s
  else do
    let s ← s.coordinateStanzaFields D u a
    if s.app.contains .s3InitializationStart && !(s.unit u).contains .s3InitializationDone &&
        u = D.primary then
      let (initialised, s) ← s.onS3CredentialChangedPrimary D u a.initialisation
      if initialised then s.cleanUp D u else s
    else s.cleanUp D u

/-- `_on_update_status`, in the unit `u`. -/
def onUpdateStatus (u : Nat) (a : S3Answers) (s : S3State) : Option S3State :=
  if a.earlyExit then some s else s.coordinateStanzaFields D u a

end S3State

end PostgresqlK8s.Backups
