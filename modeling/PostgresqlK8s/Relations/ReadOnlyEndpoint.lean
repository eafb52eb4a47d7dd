import PostgresqlK8s.Lib.Text
import PostgresqlK8s.Relations.DataInterfaces

/-!
# Relations.ReadOnlyEndpoint

The read-only endpoint of the database relations, and the URIs with credentials
that go with it.

The user, the password and the database are variables of the loop over the
relations.  Every round leaves them empty, and a round that finds one of them
empty reads all three for its own relation.
-/

namespace PostgresqlK8s.Relations

open EStateM

/-! ## the loop -/

def databasePort : String := "5432"

/-- What the charm answers. -/
structure Charm extends Juju where
  replicasEndpoint : String
  primaryEndpoint : String
  /-- the other units in the peer relation -/
  peerUnits : Nat
  /-- the database relations -/
  relations : List Nat

def Charm.endpoints (charm : Charm) : String :=
  if 0 < charm.peerUnits then s!"{charm.replicasEndpoint}:{databasePort}"
  else s!"{charm.primaryEndpoint}:{databasePort}"

structure Credentials where
  user : Option String
  password : Option String
  database : Option String

/-- How the three are reset. -/
def Credentials.none : Credentials := ⟨.none, .none, .none⟩

/-- The truth value of a text that may be missing. -/
def truthy (text : Option String) : Bool := text.any (· ≠ "")

def userOf (id : Nat) : String := s!"relation_id_{id}"

def readOnlyUri (user password endpoints : String) (database : Option String) : String :=
  let name := database.getD "None"
  s!"postgresql://{user}:{password}@{endpoints}/{name}"

section

variable (charm : Charm)

/-- The credentials of a round: what it was left, or its own. -/
def credentialsFor (id : Nat) (left : Credentials) : Hook Credentials := do
  if !truthy left.user || !truthy left.password || !truthy left.database then
    let database ← fetchRelationField charm.toJuju id "database"
    let password ← fetchMyRelationField charm.toJuju id "password"
    return ⟨some (userOf id), password, database⟩
  else return left

def setUris (id : Nat) (credentials : Credentials) : Hook Unit :=
  match credentials.user, credentials.password with
  | some user, some password =>
      if user ≠ "" ∧ password ≠ "" then
        setReadOnlyUris charm.toJuju id
          (readOnlyUri user password charm.endpoints credentials.database)
      else pure ()
  | _, _ => pure ()

/-- Only a URI that the client has asked for as a secret is set. -/
def updateUris (left : Credentials) (id : Nat) : Hook Unit := do
  let secretFields ← fetchRelationField charm.toJuju id "requested-secrets"
  if secretFields.any fun fields => Text.occursIn "read-only-uris" fields then
    let credentials ← credentialsFor charm id left
    setUris charm id credentials

/-- One round of the loop, which leaves the credentials to the next. -/
def updateRelation (left : Credentials) (id : Nat) : Hook Credentials := do
  setReadOnlyEndpoints charm.toJuju id charm.endpoints
  updateUris charm left id
  return .none

/-- `update_read_only_endpoint` -/
def updateReadOnlyEndpoint (event : Option Nat) (user password database : Option String) :
    Hook Unit := do
  if charm.isLeader then
    let relations := event.elim charm.relations fun id => [id]
    let left := if event.isNone then .none else ⟨user, password, database⟩
    let _ ← relations.foldlM (updateRelation charm) left

/-- How it is called: for a relation that has requested a database, with the
credentials made for it, and for all relations. -/
inductive Call where
  | databaseRequested (id : Nat) (user password : String)
  | allRelations

def Call.run : Call → Hook Unit
  | .databaseRequested id user password =>
      updateReadOnlyEndpoint charm (some id) (some user) (some password) none
  | .allRelations => updateReadOnlyEndpoint charm none none none none

end

/-! ## whose credentials they are -/

/-- The URI has the credentials of the relation: its user, a password that is
stored for it, and the database that it has requested. -/
def OwnUri (charm : Charm) (s : Interfaces) (id : Nat) (uri : String) : Prop :=
  ∃ password database, password ≠ "" ∧ s.Stores id "password" password ∧
    s.Requests id "database" database ∧
      uri = readOnlyUri (userOf id) password charm.endpoints (some database)

/-- Every URI has been set before, or has the credentials of its relation. -/
def OwnUris (charm : Charm) (s : Interfaces) (uris : List (Nat × String)) : Prop :=
  ∀ set ∈ uris, set ∈ s.readOnlyUris ∨ OwnUri charm s set.1 set.2

/-- One more URI of its own relation. -/
theorem OwnUris.append {charm : Charm} {s : Interfaces} {uris : List (Nat × String)} {id : Nat}
    {uri : String} (h : OwnUris charm s uris) (huri : OwnUri charm s id uri) :
    OwnUris charm s (uris ++ [(id, uri)]) := by
  intro set hset
  rcases List.mem_append.mp hset with hset | hset
  · exact h set hset
  · obtain rfl := List.mem_singleton.mp hset
    exact .inr huri

/-- The fields that make up the credentials. -/
def credentialFields : List String := ["password", "database"]

/-- No credential is called like a secret field. -/
theorem secretFieldName_not_mem (group : SecretGroup) :
    secretFieldName group ∉ credentialFields := by
  cases group <;> decide

/-- What a call keeps of the state `s₀` in which it begins. -/
abbrev Sound (charm : Charm) (s₀ : Interfaces) : Interfaces → Prop :=
  Keeps credentialFields (OwnUris charm s₀) s₀

/-- The credentials are those of the relation. -/
structure OwnCredentials (charm : Charm) (s : Interfaces) (id : Nat) (c : Credentials) : Prop where
  user : c.user = some (userOf id)
  password : ∀ p, c.password = some p → s.Stores id "password" p
  database : ∀ d, c.database = some d → s.Requests id "database" d
  fetched : (fetchRelationField charm.toJuju id "database").run s = .ok c.database s

section

variable {charm : Charm} {s₀ : Interfaces} {id : Nat}

/-- A round that was left no database reads the credentials of its relation. -/
theorem triple_credentialsFor {left : Credentials} (hleft : truthy left.database = false) :
    Triple (Sound charm s₀) (credentialsFor charm id left)
      (fun c s => Sound charm s₀ s ∧ OwnCredentials charm s id c) (Sound charm s₀) := by
  rw [credentialsFor, if_pos (by simp [hleft])]
  refine triple_bind (triple_and_run triple_fetchRelationField
    fun _ _ _ => run_fetchRelationField_again) fun database => ?_
  have hpassword : Triple
      (fun s => Sound charm s₀ s ∧ (∀ d, database = some d → s.Requests id "database" d) ∧
        (fetchRelationField charm.toJuju id "database").run s = .ok database s)
      (fetchMyRelationField charm.toJuju id "password") _ (Sound charm s₀) :=
    triple_and_frame triple_fetchMyRelationField fun _ _ _ h => eq_of_run_fetchMyRelationField h.2
  refine triple_bind (triple_conseq hpassword (fun _ h => ⟨h.1.1, h.1.2, h.2⟩) (fun _ _ h => h)
    fun _ h => h) fun password => ?_
  exact triple_pure fun s h => ⟨h.1.1, rfl, h.1.2, h.2.1, h.2.2⟩

/-- The URI of a round has the credentials of its relation. -/
theorem triple_setUris (c : Credentials) :
    Triple (fun s => Sound charm s₀ s ∧ OwnCredentials charm s id c) (setUris charm id c)
      (fun _ => Sound charm s₀) (Sound charm s₀) := by
  intro s ⟨hs, hown⟩
  rw [setUris, hown.user]
  cases hpassword : c.password with
  | none => exact hs
  | some password =>
      dsimp only
      by_cases hne : userOf id ≠ "" ∧ password ≠ ""
      · rw [if_pos hne]
        cases hdatabase : c.database with
        | none =>
            have hmissing := hdatabase ▸ hown.fetched
            exact triple_setReadOnlyUris_of_missing s ⟨hs, hmissing⟩
        | some database =>
            have huri : OwnUri charm s₀ id
                (readOnlyUri (userOf id) password charm.endpoints (some database)) :=
              ⟨password, database, hne.2,
                (hs.stores (by decide)).mp (hown.password password hpassword),
                (hs.requests (by decide)).mp (hown.database database hdatabase), rfl⟩
            exact triple_setReadOnlyUris (by decide) secretFieldName_not_mem
              (fun _ h => h.append huri) s hs
      · rw [if_neg hne]
        exact hs

/-- **Loop**: every URI that is set carries the credentials of its own relation. -/
theorem triple_updateUris {left : Credentials} (hleft : truthy left.database = false) :
    Triple (Sound charm s₀) (updateUris charm left id) (fun _ => Sound charm s₀)
      (Sound charm s₀) := by
  refine triple_bind triple_fetchRelationField fun secretFields => ?_
  refine triple_ite (fun _ => ?_) fun _ => triple_pure fun _ h => h.1
  exact triple_conseq (triple_bind (triple_credentialsFor hleft) triple_setUris) (fun _ h => h.1)
    (fun _ _ h => h) fun _ h => h

/-- A round that was left no database leaves none. -/
theorem triple_updateRelation {left : Credentials} (hleft : truthy left.database = false) :
    Triple (Sound charm s₀) (updateRelation charm left id)
      (fun left s => Sound charm s₀ s ∧ truthy left.database = false) (Sound charm s₀) := by
  refine triple_bind (triple_updateRelationData (by decide) secretFieldName_not_mem) fun _ => ?_
  refine triple_bind (triple_updateUris hleft) fun _ => ?_
  exact triple_pure fun _ h => ⟨h, rfl⟩

/-- The credentials of a call are left to its first round without a database. -/
theorem triple_updateReadOnlyEndpoint (event : Option Nat) (user password : Option String) :
    Triple (Sound charm s₀) (updateReadOnlyEndpoint charm event user password none)
      (fun _ => Sound charm s₀) (Sound charm s₀) := by
  refine triple_ite (fun _ => ?_) fun _ => triple_pure fun _ h => h
  have hloop (left : Credentials) (hleft : truthy left.database = false) (ids : List Nat) :
      Triple (Sound charm s₀) (ids.foldlM (updateRelation charm) left)
        (fun left s => Sound charm s₀ s ∧ truthy left.database = false) (Sound charm s₀) :=
    triple_conseq
      (triple_foldlM fun _ _ _ => triple_of_fact triple_updateRelation) (fun _ h => ⟨h, hleft⟩)
      (fun _ _ h => h) fun _ h => h
  refine triple_bind (hloop _ ?_ _) fun _ => triple_pure fun _ h => h.1
  cases event <;> rfl

/-- Whichever call it is, and however it ends: every URI that it sets for a
relation has the user, a stored password and the requested database of that
relation. -/
theorem triple_call_ownUris (charm : Charm) (call : Call) (s₀ : Interfaces) :
    Triple (fun s => s = s₀) (call.run charm) (fun _ s => OwnUris charm s₀ s.readOnlyUris)
      (fun s => OwnUris charm s₀ s.readOnlyUris) := by
  have hstart : Sound charm s₀ s₀ :=
    ⟨fun _ => rfl, fun _ _ _ => rfl, fun _ _ _ => rfl, fun _ h => .inl h⟩
  have hcall : Triple (Sound charm s₀) (call.run charm) (fun _ => Sound charm s₀)
      (Sound charm s₀) := by
    cases call with
    | databaseRequested id user password => exact triple_updateReadOnlyEndpoint _ _ _
    | allRelations => exact triple_updateReadOnlyEndpoint _ _ _
  exact triple_conseq hcall (fun _ h => h ▸ hstart) (fun _ _ h => h.uris) fun _ h => h.uris

end

/-! ## where the URIs are stored -/

/-- The URIs that a relation has in its databag or its secret were there before, or have
been set or are being set, and the last one of these is there. -/
structure StoredAreSet (s₀ : Interfaces) (setting : List (Nat × String)) (s : Interfaces) :
    Prop where
  origin : ∀ id uri, s.Stores id "read-only-uris" uri →
    s₀.Stores id "read-only-uris" uri ∨ (id, uri) ∈ s.readOnlyUris ++ setting
  last : ∀ id uri, (s.readOnlyUris ++ setting).reverse.lookup id = some uri →
    s.Stores id "read-only-uris" uri

/-- A URI is written for one relation, and none for the others. -/
structure WritesUri (id : Nat) (value : String) (s t : Interfaces) : Prop where
  uris : t.readOnlyUris = s.readOnlyUris
  own : t.Stores id "read-only-uris" value
  before : ∀ i uri, t.Stores i "read-only-uris" uri →
    s.Stores i "read-only-uris" uri ∨ i = id ∧ uri = value
  others : ∀ i uri, i ≠ id → s.Stores i "read-only-uris" uri → t.Stores i "read-only-uris" uri

section

variable {charm : Charm} {juju : Juju} {s₀ s t : Interfaces} {id : Nat} {name value : String}

/-- The databag of the relation is written. -/
theorem writesUri_setLocalApp (hvalue : value ≠ "") :
    WritesUri id value s (s.setLocalApp id "read-only-uris" value) where
  uris := rfl
  own := by
    left
    simp only [Interfaces.setLocalApp, Function.update_self, Databag.get_set_self, if_neg hvalue]
  before i uri huri := by
    obtain hbag | hsecret := huri
    · by_cases hi : i = id
      · subst hi
        simp only [Interfaces.setLocalApp, Function.update_self, Databag.get_set_self,
          if_neg hvalue, Option.some.injEq] at hbag
        exact .inr ⟨rfl, hbag.symm⟩
      · simp only [Interfaces.setLocalApp, Function.update_of_ne hi] at hbag
        exact .inl (.inl hbag)
    · exact .inl (.inr hsecret)
  others i uri hi huri := by
    obtain hbag | hsecret := huri
    · left
      simpa only [Interfaces.setLocalApp, Function.update_of_ne hi] using hbag
    · exact .inr hsecret

/-- The secret of the relation is written. -/
theorem writesUri_setSecret (content : Dict String String) :
    WritesUri id value s (s.setSecret id (groupOf "read-only-uris")
      (content.set "read-only-uris" value)) where
  uris := rfl
  own := by
    right
    rw [Interfaces.secret, Interfaces.secrets_setSecret, Function.update_self, Option.bind_some,
      Dict.get?_set_self]
  before i uri huri := by
    obtain hbag | hsecret := huri
    · exact .inl (.inl hbag)
    · rw [Interfaces.secret, Interfaces.secrets_setSecret] at hsecret
      by_cases hi : i = id
      · subst hi
        rw [Function.update_self, Option.bind_some, Dict.get?_set_self] at hsecret
        exact .inr ⟨rfl, (Option.some.inj hsecret).symm⟩
      · rw [Function.update_of_ne fun hlabel => hi (generateSecretLabel_inj hlabel).1] at hsecret
        exact .inl (.inr hsecret)
  others i uri hi huri := by
    obtain hbag | hsecret := huri
    · exact .inl hbag
    · right
      rwa [Interfaces.secret, Interfaces.secrets_setSecret,
        Function.update_of_ne fun hlabel => hi (generateSecretLabel_inj hlabel).1]

/-- What keeps the URIs afterwards keeps what was written. -/
theorem WritesUri.of_keeps {u : Interfaces} (h : WritesUri id value s t)
    (hkeeps : Keeps ["read-only-uris"] (· = t.readOnlyUris) t u) : WritesUri id value s u where
  uris := hkeeps.uris.trans h.uris
  own := (hkeeps.stores List.mem_cons_self).mpr h.own
  before i uri huri := h.before i uri ((hkeeps.stores List.mem_cons_self).mp huri)
  others i uri hi huri := (hkeeps.stores List.mem_cons_self).mpr (h.others i uri hi huri)

/-- What keeps the URIs keeps this. -/
theorem StoredAreSet.of_keeps (h : StoredAreSet s₀ [] s)
    (hkeeps : Keeps ["read-only-uris"] (· = s.readOnlyUris) s t) : StoredAreSet s₀ [] t where
  origin id uri huri := by
    rw [hkeeps.uris]
    exact h.origin id uri ((hkeeps.stores List.mem_cons_self).mp huri)
  last id uri huri := by
    rw [hkeeps.uris] at huri
    exact (hkeeps.stores List.mem_cons_self).mpr (h.last id uri huri)

/-- The URI that is written is the one that is being set. -/
theorem StoredAreSet.of_writesUri (h : StoredAreSet s₀ [] s) (hwrites : WritesUri id value s t) :
    StoredAreSet s₀ [(id, value)] t where
  origin i uri huri := by
    rw [hwrites.uris]
    obtain hbefore | ⟨rfl, rfl⟩ := hwrites.before i uri huri
    · refine (h.origin i uri hbefore).imp_right fun hset => List.mem_append_left _ ?_
      rwa [List.append_nil] at hset
    · exact .inr (List.mem_append_right _ List.mem_cons_self)
  last i uri huri := by
    rw [hwrites.uris, List.reverse_append, List.reverse_singleton, List.singleton_append] at huri
    by_cases hi : i = id
    · subst hi
      rw [List.lookup_cons_self, Option.some.injEq] at huri
      exact huri ▸ hwrites.own
    · rw [List.lookup_cons, beq_false_of_ne hi] at huri
      exact hwrites.others i uri hi (h.last i uri (by rwa [List.append_nil]))

/-- The URI that was being set is logged. -/
theorem StoredAreSet.logged (h : StoredAreSet s₀ [(id, value)] s) :
    StoredAreSet s₀ [] { s with readOnlyUris := s.readOnlyUris ++ [(id, value)] } where
  origin i uri huri := by
    rw [List.append_nil]
    exact h.origin i uri huri
  last i uri huri := by
    rw [List.append_nil] at huri
    exact h.last i uri huri

/-- What writes none of the URIs. -/
theorem triple_of_keeps {α : Type} {x : Hook α}
    (h : ∀ s, Triple (Keeps ["read-only-uris"] (· = s.readOnlyUris) s) x
      (fun _ => Keeps ["read-only-uris"] (· = s.readOnlyUris) s)
      (Keeps ["read-only-uris"] (· = s.readOnlyUris) s)) :
    Triple (StoredAreSet s₀ []) x (fun _ => StoredAreSet s₀ []) (StoredAreSet s₀ []) := by
  intro s hs
  exact triple_conseq (triple_at (.refl s) (h s)) (fun _ ht => ht) (fun _ _ ht => hs.of_keeps ht)
    (fun _ ht => hs.of_keeps ht) s rfl

/-- Reading a field of the client writes none. -/
theorem triple_fetchRelationField_stored : Triple (StoredAreSet s₀ [])
    (fetchRelationField juju id name) (fun _ => StoredAreSet s₀ []) (StoredAreSet s₀ []) :=
  triple_of_keeps fun _ =>
    triple_conseq triple_fetchRelationField (fun _ h => h) (fun _ _ h => h.1) fun _ h => h

/-- The secret has the URI, and the databag names the secret. -/
theorem triple_addOrUpdateUris : Triple (StoredAreSet s₀ [])
    (addOrUpdateRelationSecrets juju id "read-only-uris" value)
    (fun _ => StoredAreSet s₀ [(id, value)]) (StoredAreSet s₀ []) := by
  refine triple_get fun s hs => ?_
  refine triple_bind (R := fun _ t => t = s)
    (triple_ofExcept (fun _ _ t ht => ht) fun _ _ t ht => ht ▸ hs) fun found => ?_
  cases found with
  | some content => exact triple_set fun _ _ => hs.of_writesUri (writesUri_setSecret content)
  | none =>
      refine triple_set fun _ _ => hs.of_writesUri ((writesUri_setSecret ∅).of_keeps ?_)
      exact Keeps.setLocalApp (.refl _) (by decide) _

/-- The URI is stored in the databag or the secret, as the client asked. -/
theorem triple_storeUris (hvalue : value ≠ "") : Triple (StoredAreSet s₀ [])
    (storeRelationData juju id "read-only-uris" value)
    (fun _ => StoredAreSet s₀ [(id, value)]) (StoredAreSet s₀ []) := by
  refine triple_bind (triple_of_keeps fun _ => triple_loadSecretsFromDatabag) fun _ =>
    triple_get fun s hs => ?_
  refine triple_ite (fun _ => triple_at hs triple_addOrUpdateUris) fun _ => ?_
  exact triple_set fun _ _ => hs.of_writesUri (writesUri_setLocalApp hvalue)

/-- A URI that is set is stored and logged, and none is without the other. -/
theorem triple_setReadOnlyUris_stored (hvalue : value ≠ "") : Triple (StoredAreSet s₀ [])
    (setReadOnlyUris juju id value) (fun _ => StoredAreSet s₀ []) (StoredAreSet s₀ []) := by
  refine triple_bind (R := fun _ s => StoredAreSet s₀ (if juju.isLeader then [(id, value)] else [])
    s) ?_ fun _ => ?_
  · refine triple_ite (fun hleader => ?_) fun hleader => ?_
    · rw [if_pos hleader]
      refine triple_bind triple_fetchRelationField_stored fun database => ?_
      exact triple_ite (fun _ => triple_throw fun _ h => h) fun _ => triple_storeUris hvalue
    · rw [if_neg hleader]
      exact triple_pure fun _ h => h
  · refine triple_ite (fun hleader => ?_) fun hleader => ?_
    · rw [if_pos hleader]
      exact triple_modify fun _ h => h.logged
    · rw [if_neg hleader]
      exact triple_pure fun _ h => h

theorem triple_credentialsFor_stored {left : Credentials} :
    Triple (StoredAreSet s₀ []) (credentialsFor charm id left) (fun _ => StoredAreSet s₀ [])
      (StoredAreSet s₀ []) := by
  refine triple_ite (fun _ => ?_) fun _ => triple_pure fun _ h => h
  refine triple_bind triple_fetchRelationField_stored fun database => ?_
  refine triple_bind (triple_of_keeps fun _ =>
    triple_conseq triple_fetchMyRelationField (fun _ h => h) (fun _ _ h => h.1) fun _ h => h)
    fun password => ?_
  exact triple_pure fun _ h => h

/-- A URI is a text that begins with its scheme. -/
theorem readOnlyUri_ne_empty (user password endpoints : String) (database : Option String) :
    readOnlyUri user password endpoints database ≠ "" := by
  intro h
  -- the equation of the definition is too costly to generate
  delta readOnlyUri at h
  simp only [String.append_eq_empty_iff] at h
  have hscheme : toString "postgresql://" = "" := h.1.1.1.1.1.1.1
  exact absurd hscheme (by decide)

theorem triple_setUris_stored {c : Credentials} : Triple (StoredAreSet s₀ [])
    (setUris charm id c) (fun _ => StoredAreSet s₀ []) (StoredAreSet s₀ []) := by
  rw [setUris]
  split
  · exact triple_ite (fun _ => triple_setReadOnlyUris_stored (readOnlyUri_ne_empty _ _ _ _))
      fun _ => triple_pure fun _ h => h
  · exact triple_pure fun _ h => h

theorem triple_updateRelation_stored {left : Credentials} : Triple (StoredAreSet s₀ [])
    (updateRelation charm left id) (fun _ => StoredAreSet s₀ []) (StoredAreSet s₀ []) := by
  have hnames : ∀ group, secretFieldName group ∉ ["read-only-uris"] := by
    intro group
    cases group <;> decide
  refine triple_bind (triple_of_keeps fun _ => triple_updateRelationData (by decide) hnames)
    fun _ => ?_
  refine triple_bind ?_ fun _ => triple_pure fun _ h => h
  refine triple_bind triple_fetchRelationField_stored fun secretFields => ?_
  refine triple_ite (fun _ => ?_) fun _ => triple_pure fun _ h => h
  exact triple_bind triple_credentialsFor_stored fun _ => triple_setUris_stored

/-- **What is set is stored, and nothing else**: whichever call it is, and however it
ends, a URI that a relation has in its databag or its secret was there before, or is one
of those that were set for this relation, the last of which it has. -/
theorem triple_call_storedAreSet (charm : Charm) (call : Call) {s₀ : Interfaces}
    (hlog : s₀.readOnlyUris = []) :
    Triple (fun s => s = s₀) (call.run charm) (fun _ => StoredAreSet s₀ [])
      (StoredAreSet s₀ []) := by
  have hcall (event : Option Nat) (user password : Option String) : Triple (StoredAreSet s₀ [])
      (updateReadOnlyEndpoint charm event user password none) (fun _ => StoredAreSet s₀ [])
      (StoredAreSet s₀ []) := by
    refine triple_ite (fun _ => ?_) fun _ => triple_pure fun _ h => h
    refine triple_bind (triple_foldlM fun _ _ _ => triple_updateRelation_stored) fun _ => ?_
    exact triple_pure fun _ h => h
  have hstart : StoredAreSet s₀ [] s₀ :=
    ⟨fun _ _ h => .inl h, fun _ _ h => by rw [hlog] at h; cases h⟩
  refine triple_at hstart ?_
  cases call with
  | databaseRequested id user password => exact hcall _ _ _
  | allRelations => exact hcall _ _ _

end

/-! ## three clients -/

/-- Three clients that have requested databases of their own.  The first has no
password yet. -/
def threeClients : Interfaces where
  relations id := ⟨some ((∅ : Databag String).update [("database", s!"db{id}"),
    ("requested-secrets", "[password, read-only-uris]")]), ∅⟩
  secrets label :=
    [3, 9].findSome? fun id =>
      if label = generateSecretLabel id .user then
        some ((∅ : Dict String String).set "password" s!"p{id}")
      else none
  localSecretFields := []
  remoteSecretFields := []
  readOnlyUris := []

def charmOfThree : Charm where
  isLeader := true
  hasSecrets := true
  loads text := .list (if text = "[]" then [] else ["password", "read-only-uris"])
  secretId id group := s!"secret:{id}-{group.name}"
  replicasEndpoint := "replicas"
  primaryEndpoint := "primary"
  peerUnits := 1
  relations := [7, 3, 9]

example : (match (Call.allRelations.run charmOfThree).run threeClients with
    | .ok _ s | .error _ s => s.readOnlyUris) =
      [(3, "postgresql://relation_id_3:p3@replicas:5432/db3"),
        (9, "postgresql://relation_id_9:p9@replicas:5432/db9")] := by
  decide

end PostgresqlK8s.Relations
