import PostgresqlK8s.Lib.Databag
import PostgresqlK8s.Lib.Decimal
import PostgresqlK8s.Lib.Dict
import PostgresqlK8s.Lib.StateExcept

/-!
# Relations.DataInterfaces

What the two sides of a client relation store, and how the providing side reads
and writes it.

A field that the client has asked for as a secret is stored in a secret of the
relation, one for each group of fields; any other field is stored in the databag
of the application.  A secret is found under a label that has the identifier of
the relation and the group in it, which no other relation has.

* `fetchRelationField`, `fetchMyRelationField` — a field of the client's side,
  and of the own side;
* `updateRelationData` — writing a field.

Which fields are secrets is read anew for each relation, but where the client's
list is no list, those of the relation before are kept.
-/

namespace PostgresqlK8s.Relations

open EStateM

/-! ## what is stored -/

inductive SecretGroup where
  | user
  | tls
  | mtls
  | entity
  | extra
  deriving DecidableEq, Repr

def SecretGroup.name : SecretGroup → String
  | .user => "user"
  | .tls => "tls"
  | .mtls => "mtls"
  | .entity => "entity"
  | .extra => "extra"

/-- `SECRET_LABEL_MAP` -/
def secretLabelMap : List (String × SecretGroup) :=
  [("username", .user), ("password", .user), ("uris", .user), ("read-only-uris", .user),
    ("tls", .tls), ("tls-ca", .tls), ("mtls-cert", .mtls), ("entity-name", .entity),
    ("entity-password", .entity)]

/-- The group of a field: those that the map does not have are together. -/
def groupOf (field : String) : SecretGroup := (secretLabelMap.lookup field).getD .extra

/-- `_generate_secret_field_name` -/
def secretFieldName (group : SecretGroup) : String := "secret-" ++ group.name

/-- `_generate_secret_label`, of the relations with the name `database` -/
def generateSecretLabel (id : Nat) (group : SecretGroup) : String :=
  s!"database.{id}.{group.name}.secret"

/-- A relation, as the providing side sees it. -/
structure Relation where
  /-- the databag of the client, if there is one -/
  app : Option (Databag String)
  localApp : Databag String

structure Interfaces where
  relations : Nat → Relation
  /-- the secrets, under their labels -/
  secrets : String → Option (Dict String String)
  localSecretFields : List String
  remoteSecretFields : List String
  /-- the read-only URIs that have been set, in order -/
  readOnlyUris : List (Nat × String)

inductive Failure where
  | keyError
  | jsonDecodeError
  | secretNotFoundError
  | prematureDataAccessError (message : String)
  deriving DecidableEq, Repr

/-- What `json.loads` makes of a text. -/
inductive Decoded where
  | invalid
  | notList
  | list (fields : List String)

/-- What the code runs in. -/
structure Juju where
  isLeader : Bool
  hasSecrets : Bool
  loads : String → Decoded
  /-- the identifier of a secret that is added -/
  secretId : Nat → SecretGroup → String

abbrev Hook := EStateM Failure Interfaces

/-! ## reading -/

section

variable (juju : Juju)

/-- `get_encoded_list`; nothing where it is no list. -/
def getEncodedList (app : Databag String) (field : String) : Except Failure (Option (List String)) :=
  match juju.loads (app.getD field "[]") with
  | .invalid => .error .jsonDecodeError
  | .notList => .ok none
  | .list fields => .ok (some fields)

/-- `_load_secrets_from_databag` -/
def loadSecretsFromDatabag (id : Nat) : Hook Unit := do
  let s ← get
  match (s.relations id).app with
  | none => throw .keyError
  | some app => do
      let requestedSecrets ← ofExcept (getEncodedList juju app "requested-secrets")
      let providedSecrets ← ofExcept (getEncodedList juju app "provided-secrets")
      modify fun s => { s with
        localSecretFields := requestedSecrets.getD s.localSecretFields
        remoteSecretFields := providedSecrets.getD s.remoteSecretFields }

/-- Whether `_process_secret_fields` takes a field for a secret.  A relation that
began on the databag stays there. -/
def isSecret (r : Relation) (reqSecretFields : List String) (field : String) : Bool :=
  let fallbackToDatabag := juju.isLeader && reqSecretFields.any r.localApp.contains
  juju.hasSecrets && !fallbackToDatabag && reqSecretFields.contains field

/-- `get_secret_uri` -/
def getSecretUri (s : Interfaces) (id : Nat) (group : SecretGroup) :
    Except Failure (Option String) :=
  let mySecretGroups := s.localSecretFields.filterMap fun field => secretLabelMap.lookup field
  if group ∈ mySecretGroups then .ok ((s.relations id).localApp.get (secretFieldName group))
  else
    match (s.relations id).app with
    | none => .error .keyError
    | some app => .ok (app.get (secretFieldName group))

/-- `_get_relation_secret`, with the content of the secret.  What the databag
names but the store does not have is not found. -/
def getRelationSecret (s : Interfaces) (id : Nat) (group : SecretGroup) :
    Except Failure (Option (Dict String String)) :=
  match s.secrets (generateSecretLabel id group) with
  | some content => .ok (some content)
  | none => do
      match ← getSecretUri s id group with
      | none => .ok none
      | some _ => .error .secretNotFoundError

/-- `_fetch_relation_data_with_secrets`, of one field.  A field that is not in
the secret has a second chance in the databag. -/
def fetchRelationDataWithSecrets (s : Interfaces) (id : Nat) (component : Databag String)
    (reqSecretFields : List String) (field : String) : Except Failure (Option String) := do
  if isSecret juju (s.relations id) reqSecretFields field then
    let content ← getRelationSecret s id (groupOf field)
    return (content.bind fun content => content.get? field).or (component.get field)
  else return component.get field

def fetchRelationField (id : Nat) (field : String) : Hook (Option String) := do
  match ((← get).relations id).app with
  | none => return none
  | some app => do
      loadSecretsFromDatabag juju id
      let s ← get
      ofExcept (fetchRelationDataWithSecrets juju s id app s.remoteSecretFields field)

def fetchMyRelationField (id : Nat) (field : String) : Hook (Option String) := do
  if juju.isLeader then
    loadSecretsFromDatabag juju id
    let s ← get
    ofExcept (fetchRelationDataWithSecrets juju s id (s.relations id).localApp s.localSecretFields
      field)
  else return none

/-! ## writing -/

/-- A field of the own databag is written. -/
def Interfaces.setLocalApp (s : Interfaces) (id : Nat) (field value : String) : Interfaces :=
  let r := s.relations id
  let written := { r with localApp := r.localApp.set field value }
  { s with relations := Function.update s.relations id written }

def Interfaces.setSecret (s : Interfaces) (id : Nat) (group : SecretGroup)
    (content : Dict String String) : Interfaces :=
  { s with secrets := Function.update s.secrets (generateSecretLabel id group) (some content) }

/-- `_add_or_update_relation_secrets`, of one field. -/
def addOrUpdateRelationSecrets (id : Nat) (field value : String) : Hook Unit := do
  let s ← get
  let group := groupOf field
  match ← ofExcept (getRelationSecret s id group) with
  | some content => set (s.setSecret id group (content.set field value))
  | none =>
      let added := s.setSecret id group ((∅ : Dict String String).set field value)
      set (added.setLocalApp id (secretFieldName group) (juju.secretId id group))

def prematureDataAccess : Failure :=
  .prematureDataAccessError <| "Premature access to relation data, " ++
    "update is forbidden before the connection is initialized."

/-- `_update_relation_data` of any side, of one field. -/
def storeRelationData (id : Nat) (field value : String) : Hook Unit := do
  loadSecretsFromDatabag juju id
  let s ← get
  if isSecret juju (s.relations id) s.localSecretFields field then
    addOrUpdateRelationSecrets juju id field value
  else set (s.setLocalApp id field value)

/-- `update_relation_data` of the providing side, of one field. -/
def updateRelationData (id : Nat) (field value : String) : Hook Unit := do
  if juju.isLeader then
    let database ← fetchRelationField juju id "database"
    if database = none ∧ field ∉ ["endpoints", "read-only-endpoints", "replset"] then
      throw prematureDataAccess
    else storeRelationData juju id field value

def setReadOnlyEndpoints (id : Nat) (connectionStrings : String) : Hook Unit :=
  updateRelationData juju id "read-only-endpoints" connectionStrings

def setReadOnlyUris (id : Nat) (uris : String) : Hook Unit := do
  updateRelationData juju id "read-only-uris" uris
  if juju.isLeader then
    modify fun s => { s with readOnlyUris := s.readOnlyUris ++ [(id, uris)] }

end

/-! ## labels -/

/-- Different groups have different names. -/
theorem SecretGroup.name_injective : Function.Injective SecretGroup.name := by
  intro group group' h
  cases group <;> cases group' <;> simp [SecretGroup.name] at h ⊢

theorem point_not_mem_name (group : SecretGroup) : '.' ∉ group.name.toList := by
  cases group <;> decide

/-- Another relation or another group has another label. -/
theorem generateSecretLabel_inj {id id' : Nat} {group group' : SecretGroup}
    (h : generateSecretLabel id group = generateSecretLabel id' group') :
    id = id' ∧ group = group' := by
  have hchars := congrArg String.toList h
  simp only [generateSecretLabel, String.toList_append] at hchars
  have hpoint : (toString ".").toList = ['.'] := rfl
  rw [List.append_left_inj, List.append_assoc, List.append_assoc, List.append_assoc,
    List.append_assoc, List.append_right_inj, hpoint, List.singleton_append, List.singleton_append]
    at hchars
  obtain ⟨hid, -, hname⟩ := (List.append_cons_inj_of_notMem (Decimal.not_mem_toString rfl id)
    (point_not_mem_name group)).mp hchars
  exact ⟨Decimal.toString_injective (String.toList_injective hid),
    SecretGroup.name_injective (String.toList_injective hname)⟩

/-! ## what a relation stores -/

/-- The field in the secret of its group. -/
def Interfaces.secret (s : Interfaces) (id : Nat) (field : String) : Option String :=
  (s.secrets (generateSecretLabel id (groupOf field))).bind fun content => content.get? field

/-- The own side of the relation has the value, in the databag or in a secret. -/
def Interfaces.Stores (s : Interfaces) (id : Nat) (field value : String) : Prop :=
  (s.relations id).localApp.get field = some value ∨ s.secret id field = some value

/-- The client's side has it. -/
def Interfaces.Requests (s : Interfaces) (id : Nat) (field value : String) : Prop :=
  (∃ app, (s.relations id).app = some app ∧ app.get field = some value) ∨
    s.secret id field = some value

@[simp] theorem Interfaces.secrets_setSecret (s : Interfaces) (id : Nat) (group : SecretGroup)
    (content : Dict String String) : (s.setSecret id group content).secrets =
      Function.update s.secrets (generateSecretLabel id group) (some content) := rfl

/-- The clients have written nothing, the fields are stored as they were, and
the URIs that have been set are allowed. -/
structure Keeps (fields : List String) (allowed : List (Nat × String) → Prop)
    (s₀ s : Interfaces) : Prop where
  app : ∀ id, (s.relations id).app = (s₀.relations id).app
  localApp : ∀ id, ∀ field ∈ fields,
    (s.relations id).localApp.get field = (s₀.relations id).localApp.get field
  secret : ∀ id, ∀ field ∈ fields, s.secret id field = s₀.secret id field
  uris : allowed s.readOnlyUris

section

variable {juju : Juju} {fields : List String} {allowed : List (Nat × String) → Prop}
  {s₀ s : Interfaces} {id : Nat} {field value : String}

theorem Keeps.refl (s : Interfaces) : Keeps fields (· = s.readOnlyUris) s s :=
  ⟨fun _ => rfl, fun _ _ _ => rfl, fun _ _ _ => rfl, rfl⟩

/-- Writing another field keeps these. -/
theorem Keeps.setLocalApp (h : Keeps fields allowed s₀ s) (hfield : field ∉ fields)
    (value : String) : Keeps fields allowed s₀ (s.setLocalApp id field value) where
  app i := by
    by_cases hi : i = id
    · subst hi
      simpa [Interfaces.setLocalApp] using h.app i
    · simpa [Interfaces.setLocalApp, hi] using h.app i
  localApp i kept hkept := by
    have hne : kept ≠ field := fun heq => hfield (heq ▸ hkept)
    by_cases hi : i = id
    · subst hi
      simpa [Interfaces.setLocalApp, hne] using h.localApp i kept hkept
    · simpa [Interfaces.setLocalApp, hi] using h.localApp i kept hkept
  secret := h.secret
  uris := h.uris

/-- The secret of a group is written with nothing else for the fields. -/
theorem Keeps.setSecret {group : SecretGroup} {content : Dict String String}
    (h : Keeps fields allowed s₀ s)
    (hcontent : ∀ kept ∈ fields, groupOf kept = group → content.get? kept = s.secret id kept) :
    Keeps fields allowed s₀ (s.setSecret id group content) where
  app := h.app
  localApp := h.localApp
  secret i kept hkept := by
    rw [← h.secret i kept hkept, Interfaces.secret, Interfaces.secrets_setSecret]
    by_cases hlabel : generateSecretLabel i (groupOf kept) = generateSecretLabel id group
    · obtain ⟨rfl, hgroup⟩ := generateSecretLabel_inj hlabel
      rw [hlabel, Function.update_self, Option.bind_some, hcontent kept hkept hgroup]
    · rw [Function.update_of_ne hlabel]
      rfl
  uris := h.uris

/-- Where nothing of the fields is asked for, they are as they were. -/
theorem Keeps.stores (h : Keeps fields allowed s₀ s) (hfield : field ∈ fields) :
    s.Stores id field value ↔ s₀.Stores id field value := by
  rw [Interfaces.Stores, Interfaces.Stores, h.localApp id field hfield, h.secret id field hfield]

/-- What a client asks for is kept. -/
theorem Keeps.requests (h : Keeps fields allowed s₀ s) (hfield : field ∈ fields) :
    s.Requests id field value ↔ s₀.Requests id field value := by
  rw [Interfaces.Requests, Interfaces.Requests, h.app id, h.secret id field hfield]

/-! ## what reading and writing leave -/

/-- The secret of a group is that of its label. -/
theorem secrets_of_getRelationSecret {group : SecretGroup}
    {content : Option (Dict String String)} (h : getRelationSecret s id group = .ok content) :
    s.secrets (generateSecretLabel id group) = content := by
  rw [getRelationSecret] at h
  cases hstored : s.secrets (generateSecretLabel id group) with
  | some stored =>
      rw [hstored] at h
      exact Except.ok.inj h
  | none =>
      rw [hstored] at h
      obtain ⟨uri, -, h⟩ := Except.bind_eq_ok.mp h
      cases uri with
      | none => exact Except.ok.inj h
      | some uri => cases h

/-- What is read stands in the databag or in the secret. -/
theorem mem_of_fetchRelationDataWithSecrets {component : Databag String}
    {reqSecretFields : List String}
    (h : fetchRelationDataWithSecrets juju s id component reqSecretFields field =
      .ok (some value)) :
    component.get field = some value ∨ s.secret id field = some value := by
  rw [fetchRelationDataWithSecrets] at h
  split at h
  · obtain ⟨content, hcontent, h⟩ := Except.bind_eq_ok.mp h
    rcases Option.or_eq_some_iff.mp (Except.ok.inj h) with hsecret | ⟨-, hbag⟩
    · right
      rw [Interfaces.secret, secrets_of_getRelationSecret hcontent]
      exact hsecret
    · exact .inl hbag
  · exact .inl (Except.ok.inj h)

/-- Loading the secrets of the databag keeps all fields. -/
theorem triple_loadSecretsFromDatabag :
    Triple (Keeps fields allowed s₀) (loadSecretsFromDatabag juju id)
      (fun _ => Keeps fields allowed s₀) (Keeps fields allowed s₀) := by
  refine triple_get fun s hs => ?_
  cases (s.relations id).app with
  | none => exact triple_at hs (triple_throw fun _ h => h)
  | some app =>
      refine triple_at hs ?_
      refine triple_bind (triple_ofExcept_same _) fun requested => ?_
      refine triple_bind (triple_ofExcept_same _) fun provided => ?_
      exact triple_modify fun s h => ⟨h.app, h.localApp, h.secret, h.uris⟩

/-- Reading a field of the client keeps them, and answers what it asks for. -/
theorem triple_fetchRelationField :
    Triple (Keeps fields allowed s₀) (fetchRelationField juju id field)
      (fun value s => Keeps fields allowed s₀ s ∧ ∀ v, value = some v → s.Requests id field v)
      (Keeps fields allowed s₀) := by
  refine triple_get fun s hs => ?_
  cases happ : (s.relations id).app with
  | none => exact triple_pure_at ⟨hs, fun v h => by cases h⟩
  | some app =>
      refine triple_bind (triple_at hs triple_loadSecretsFromDatabag) fun _ => ?_
      refine triple_get fun t ht => triple_ofExcept (fun value hread u hu => ?_) fun _ _ u hu => hu ▸ ht
      subst hu
      refine ⟨ht, fun v hv => ?_⟩
      subst hv
      have happ : (u.relations id).app = some app := (ht.app id).trans ((hs.app id).symm.trans happ)
      rcases mem_of_fetchRelationDataWithSecrets hread with hbag | hsecret
      · exact .inl ⟨app, happ, hbag⟩
      · exact .inr hsecret

/-- Reading an own field keeps them, and answers what is stored. -/
theorem triple_fetchMyRelationField :
    Triple (Keeps fields allowed s₀) (fetchMyRelationField juju id field)
      (fun value s => Keeps fields allowed s₀ s ∧ ∀ v, value = some v → s.Stores id field v)
      (Keeps fields allowed s₀) := by
  refine triple_ite (fun _ => ?_) fun _ => triple_pure fun s hs => ⟨hs, fun v h => by cases h⟩
  refine triple_bind triple_loadSecretsFromDatabag fun _ => ?_
  refine triple_get fun s hs => triple_ofExcept (fun value hread t ht => ?_) fun _ _ t ht => ht ▸ hs
  subst ht
  refine ⟨hs, fun v hv => ?_⟩
  subst hv
  exact mem_of_fetchRelationDataWithSecrets hread

/-- Writing a field keeps all others. -/
theorem triple_addOrUpdateRelationSecrets (hfield : field ∉ fields)
    (hnames : ∀ group, secretFieldName group ∉ fields) :
    Triple (Keeps fields allowed s₀) (addOrUpdateRelationSecrets juju id field value)
      (fun _ => Keeps fields allowed s₀) (Keeps fields allowed s₀) := by
  refine triple_get fun s hs => ?_
  refine triple_bind (R := fun found t => t = s ∧
      getRelationSecret s id (groupOf field) = .ok found)
    (triple_ofExcept (fun found hfound t ht => ⟨ht, hfound⟩) fun _ _ t ht => ht ▸ hs)
    fun found => triple_of_fact fun hfound => ?_
  have hsecret : ∀ kept, groupOf kept = groupOf field →
      s.secret id kept = found.bind fun content => content.get? kept := fun kept hgroup => by
    rw [Interfaces.secret, hgroup, secrets_of_getRelationSecret hfound]
  have hne : ∀ kept ∈ fields, kept ≠ field := fun kept hkept heq => hfield (heq ▸ hkept)
  cases found with
  | some content =>
      refine triple_set fun _ _ => hs.setSecret fun kept hkept hgroup => ?_
      rw [Dict.get?_set_of_ne _ _ (hne kept hkept), hsecret kept hgroup, Option.bind_some]
  | none =>
      refine triple_set fun _ _ => Keeps.setLocalApp (hs.setSecret fun kept hkept hgroup => ?_)
        (hnames _) _
      rw [Dict.get?_set_of_ne _ _ (hne kept hkept), hsecret kept hgroup, Option.bind_none]
      rfl

/-- Storing another field keeps these. -/
theorem triple_storeRelationData (hfield : field ∉ fields)
    (hnames : ∀ group, secretFieldName group ∉ fields) :
    Triple (Keeps fields allowed s₀) (storeRelationData juju id field value)
      (fun _ => Keeps fields allowed s₀) (Keeps fields allowed s₀) := by
  refine triple_bind triple_loadSecretsFromDatabag fun _ => triple_get fun s hs => ?_
  refine triple_ite (fun _ => ?_) fun _ => triple_set fun _ _ => hs.setLocalApp hfield value
  exact triple_at hs (triple_addOrUpdateRelationSecrets hfield hnames)

/-- So does updating it. -/
theorem triple_updateRelationData (hfield : field ∉ fields)
    (hnames : ∀ group, secretFieldName group ∉ fields) :
    Triple (Keeps fields allowed s₀) (updateRelationData juju id field value)
      (fun _ => Keeps fields allowed s₀) (Keeps fields allowed s₀) := by
  refine triple_ite (fun _ => ?_) fun _ => triple_pure fun _ h => h
  refine triple_bind triple_fetchRelationField fun database => ?_
  refine triple_ite (fun _ => triple_throw fun _ h => h.1) fun _ => ?_
  exact triple_conseq (triple_storeRelationData hfield hnames) (fun _ h => h.1) (fun _ _ h => h)
    fun _ h => h

/-- Setting a URI keeps the fields, and is logged. -/
theorem triple_setReadOnlyUris {uris : String} (hfield : "read-only-uris" ∉ fields)
    (hnames : ∀ group, secretFieldName group ∉ fields)
    (hallowed : ∀ published, allowed published → allowed (published ++ [(id, uris)])) :
    Triple (Keeps fields allowed s₀) (setReadOnlyUris juju id uris)
      (fun _ => Keeps fields allowed s₀) (Keeps fields allowed s₀) := by
  refine triple_bind (triple_updateRelationData hfield hnames) fun _ => ?_
  refine triple_ite (fun _ => ?_) fun _ => triple_pure fun _ h => h
  exact triple_modify fun _ h => ⟨h.app, h.localApp, h.secret, hallowed _ h.uris⟩

/-! ## reading again -/

theorem run_loadSecretsFromDatabag_ok {t : Interfaces} {u : Unit} :
    (loadSecretsFromDatabag juju id).run s = .ok u t ↔ ∃ app requested provided,
      (s.relations id).app = some app ∧
        getEncodedList juju app "requested-secrets" = .ok requested ∧
        getEncodedList juju app "provided-secrets" = .ok provided ∧
        { s with
          localSecretFields := requested.getD s.localSecretFields
          remoteSecretFields := provided.getD s.remoteSecretFields } = t := by
  rw [loadSecretsFromDatabag, run_bind_ok]
  simp only [run_get_ok]
  constructor
  · rintro ⟨_, _, ⟨rfl, rfl⟩, h⟩
    cases happ : (s.relations id).app with
    | none =>
        rw [happ] at h
        exact absurd h (by rw [run_throw_ok]; exact not_false)
    | some app =>
        rw [happ] at h
        simp only [run_bind_ok, run_ofExcept_ok, run_modify_ok] at h
        obtain ⟨requested, _, ⟨hrequested, rfl⟩, provided, _, ⟨hprovided, rfl⟩, h⟩ := h
        exact ⟨app, requested, provided, rfl, hrequested, hprovided, h⟩
  · rintro ⟨app, requested, provided, happ, hrequested, hprovided, h⟩
    refine ⟨s, s, ⟨rfl, rfl⟩, ?_⟩
    rw [happ]
    simp only [run_bind_ok, run_ofExcept_ok, run_modify_ok]
    exact ⟨requested, s, ⟨hrequested, rfl⟩, provided, s, ⟨hprovided, rfl⟩, h⟩

/-- Loading for the same relation again changes nothing. -/
theorem run_loadSecretsFromDatabag_again {t : Interfaces} {u : Unit}
    (h : (loadSecretsFromDatabag juju id).run s = .ok u t) :
    (loadSecretsFromDatabag juju id).run t = .ok u t := by
  obtain ⟨app, requested, provided, happ, hrequested, hprovided, rfl⟩ :=
    run_loadSecretsFromDatabag_ok.mp h
  refine run_loadSecretsFromDatabag_ok.mpr
    ⟨app, requested, provided, happ, hrequested, hprovided, ?_⟩
  cases requested <;> cases provided <;> rfl

theorem run_fetchRelationField_ok {t : Interfaces} {found : Option String} :
    (fetchRelationField juju id field).run s = .ok found t ↔
      (s.relations id).app = none ∧ none = found ∧ s = t ∨
        ∃ app, (s.relations id).app = some app ∧
          (loadSecretsFromDatabag juju id).run s = .ok () t ∧
            fetchRelationDataWithSecrets juju t id app t.remoteSecretFields field = .ok found := by
  rw [fetchRelationField, run_bind_ok]
  simp only [run_get_ok]
  constructor
  · rintro ⟨_, _, ⟨rfl, rfl⟩, h⟩
    cases happ : (s.relations id).app with
    | none =>
        rw [happ] at h
        obtain ⟨hfound, hstate⟩ := run_pure_ok.mp h
        exact .inl ⟨rfl, hfound, hstate⟩
    | some app =>
        rw [happ] at h
        simp only [run_bind_ok, run_get_ok, run_ofExcept_ok] at h
        obtain ⟨_, u, hload, _, _, ⟨rfl, rfl⟩, hread, rfl⟩ := h
        exact .inr ⟨app, rfl, hload, hread⟩
  · intro h
    refine ⟨s, s, ⟨rfl, rfl⟩, ?_⟩
    rcases h with ⟨happ, rfl, rfl⟩ | ⟨app, happ, hload, hread⟩
    · rw [happ]
      exact run_pure_ok.mpr ⟨rfl, rfl⟩
    · rw [happ]
      simp only [run_bind_ok, run_get_ok, run_ofExcept_ok]
      exact ⟨(), t, hload, t, t, ⟨rfl, rfl⟩, hread, rfl⟩

/-- A field that is fetched again is what it was. -/
theorem run_fetchRelationField_again {t : Interfaces} {found : Option String}
    (h : (fetchRelationField juju id field).run s = .ok found t) :
    (fetchRelationField juju id field).run t = .ok found t := by
  rcases run_fetchRelationField_ok.mp h with ⟨happ, hfound, rfl⟩ | ⟨app, happ, hload, hread⟩
  · exact h
  · have happ' : (t.relations id).app = some app := by
      obtain ⟨-, -, -, -, -, -, rfl⟩ := run_loadSecretsFromDatabag_ok.mp hload
      exact happ
    exact run_fetchRelationField_ok.mpr
      (.inr ⟨app, happ', run_loadSecretsFromDatabag_again hload, hread⟩)

/-- After a field of the client's side, one of the own side is read as it stands. -/
theorem eq_of_run_fetchMyRelationField {t : Interfaces} {found own : Option String}
    {field' : String} (hclient : (fetchRelationField juju id field).run s = .ok found s)
    (h : (fetchMyRelationField juju id field').run s = .ok own t) : t = s := by
  rw [fetchMyRelationField] at h
  split at h
  · simp only [run_bind_ok, run_get_ok, run_ofExcept_ok] at h
    obtain ⟨_, u, hload, _, _, ⟨rfl, rfl⟩, -, rfl⟩ := h
    rcases run_fetchRelationField_ok.mp hclient with ⟨happ, -, -⟩ | ⟨app, -, hloaded, -⟩
    · obtain ⟨app, -, -, happ', -⟩ := run_loadSecretsFromDatabag_ok.mp hload
      rw [happ] at happ'
      cases happ'
    · rw [hloaded] at hload
      exact (EStateM.Result.ok.inj hload).2.symm
  · exact (run_pure_ok.mp h).2.symm

/-- Nothing is written for a relation that has requested no database. -/
theorem triple_setReadOnlyUris_of_missing {uris : String} :
    Triple (fun s => Keeps fields allowed s₀ s ∧
        (fetchRelationField juju id "database").run s = .ok none s)
      (setReadOnlyUris juju id uris) (fun _ => Keeps fields allowed s₀)
      (Keeps fields allowed s₀) := by
  refine triple_bind (R := fun _ s => Keeps fields allowed s₀ s ∧ juju.isLeader = false) ?_
    fun _ => ?_
  · intro s ⟨hs, hmissing⟩
    by_cases hleader : juju.isLeader = true
    · have hrun : (updateRelationData juju id "read-only-uris" uris).run s =
          .error prematureDataAccess s := by
        rw [updateRelationData, if_pos hleader, run_bind_of_ok hmissing, if_pos (by decide)]
        rfl
      rw [hrun]
      exact hs
    · rw [updateRelationData, if_neg hleader]
      exact ⟨hs, Bool.eq_false_iff.mpr hleader⟩
  · refine triple_of_fact fun hleader => ?_
    rw [if_neg (by rw [hleader]; decide)]
    exact triple_pure fun _ h => h

end

end PostgresqlK8s.Relations
