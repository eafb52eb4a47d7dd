import PostgresqlK8s.Lib.Dict
import PostgresqlK8s.Lib.Databag
import PostgresqlK8s.Secrets.Key

/-!
# Secrets.Store

Where the charm keeps its secrets, for one scope: a databag of the peer
relation, and the Juju secret that goes with it.

`getSecret`, `setSecret` and `removeSecret` are the charm's; what they call of
the class `DataPeerData` of the data interfaces library comes before them.  The
library keeps a field that it deletes, with the deleted label as its value, and
falls back to the databag as long as the databag has a value under a name that
is also a field of the secret.
-/

namespace PostgresqlK8s.Secrets

/-- `SECRET_DELETED_LABEL`. -/
def deletedLabel : String := "None"

/-- The secrets of a scope, as one run of the charm sees them. -/
structure Store where
  /-- Juju has secrets. -/
  hasSecrets : Bool
  /-- This unit is the leader. -/
  isLeader : Bool
  /-- The databag of the application, or of the unit. -/
  databag : Databag String
  /-- The content of the Juju secret, found by a label or by the URI that an
  older version left in the databag. -/
  secret : Option (Dict SecretField String)
  /-- `_new_secrets`: the fields that were added in this run. -/
  newSecrets : List SecretField

namespace Store

/-! ## the library -/

/-- The value of a field of the secret, unless it is deleted
(`_get_group_secret_contents`). -/
def secretValue (f : SecretField) (σ : Store) : Option String :=
  (σ.secret.bind (·.get? f)).filter (· != deletedLabel)

/-- `current_secret_fields`. -/
def currentSecretFields (σ : Store) : List SecretField :=
  if σ.hasSecrets then
    ((σ.secret.elim [] Dict.keys).filter fun f => (σ.secretValue f).isSome) ++ σ.newSecrets
  else []

/-- The databag has a value under the name of a current field. -/
def fallbackToDatabag (σ : Store) : Bool :=
  σ.isLeader && σ.currentSecretFields.any fun f => σ.databag.contains f.1

/-- `fetch_my_relation_field`. -/
def fetchMyRelationField (field : String) (σ : Store) : Option String :=
  let fromSecret := if σ.fallbackToDatabag then none
    else (σ.currentSecretFields.find? (·.1 = field)).bind σ.secretValue
  match fromSecret with
  | some value => some value
  | none => σ.databag.get field

/-- `_legacy_apply_on_update`: what moved to the secret is deleted from the
databag, and so is the URI of the secret. -/
def legacyApplyOnUpdate (field : String) (σ : Store) : Store :=
  let databag := if σ.currentSecretFields.any (·.1 = field) then σ.databag.pop field
    else σ.databag
  { σ with databag := if σ.hasSecrets && σ.secret.isSome then databag.pop secretInternalLabel
      else databag }

/-- The name under which the library is asked for a secret. -/
def secretKey (k : Key) (σ : Store) : String := if σ.hasSecrets then k.field.1 else k.raw

/-- `update_relation_data`. -/
def updateRelationData (k : Key) (value : String) (σ : Store) : Store :=
  let σ := σ.legacyApplyOnUpdate (σ.secretKey k)
  if k.field ∈ σ.currentSecretFields ∧ σ.fallbackToDatabag = false then
    { σ with secret := some ((σ.secret.getD ∅).set k.field value) }
  else { σ with databag := σ.databag.set (σ.secretKey k) value }

/-- `DataPeerData.set_secret`. -/
def setPeerSecret (k : Key) (value : String) (σ : Store) : Store :=
  let σ := σ.legacyApplyOnUpdate (σ.secretKey k)
  let σ := if σ.hasSecrets && !decide (k.field ∈ σ.currentSecretFields) then
    { σ with newSecrets := σ.newSecrets ++ [k.field] } else σ
  σ.updateRelationData k value

/-- `DataPeerData.get_secret`. -/
def getPeerSecret (k : Key) (σ : Store) : Option String :=
  if σ.hasSecrets && !decide (k.field ∈ σ.currentSecretFields) then none
  else σ.fetchMyRelationField (σ.secretKey k)

/-- `delete_relation_data`. -/
def deleteRelationData (k : Key) (σ : Store) : Store :=
  if k.field ∈ σ.currentSecretFields ∧ σ.fallbackToDatabag = false then
    match σ.secret with
    | some content => { σ with secret := some (content.set k.field deletedLabel) }
    | none => { σ with databag := σ.databag.pop (σ.secretKey k) }
  else { σ with databag := σ.databag.pop (σ.secretKey k) }

/-! ## the charm -/

/-- `get_secret`. -/
def getSecret (k : Key) (σ : Store) : Option String :=
  match σ.fetchMyRelationField k.raw with
  | some value => if value ≠ "" then some value else σ.getPeerSecret k
  | none => σ.getPeerSecret k

/-- `remove_secret`. -/
def removeSecret (k : Key) (σ : Store) : Store := σ.deleteRelationData k

/-- `set_secret`. -/
def setSecret (k : Key) (value : Option String) (σ : Store) : Store :=
  match value with
  | none => σ.removeSecret k
  | some value =>
      if value = "" then σ.removeSecret k
      else setPeerSecret k value { σ with databag := σ.databag.pop k.raw }

end Store

end PostgresqlK8s.Secrets
