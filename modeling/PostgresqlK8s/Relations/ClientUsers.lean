import PostgresqlK8s.Lib.Databag
import PostgresqlK8s.Lib.Run

/-!
# Relations.ClientUsers

The users of the client relations.  A client asks for a database in its databag;
the leader finds what has changed since it looked last, creates the user and
shares the password.  When the relation is removed every unit has an event, and
the leader deletes the user.  Handlers defer an event that they cannot handle
yet, and the unit that deferred it gets it again.

A hook that fails leaves the databags as they were, and the users as they are.
-/

namespace PostgresqlK8s.Relations.ClientUsers

/-! ## what has changed -/

/-- `Diff`. -/
structure Diff where
  added : String → Bool
  changed : String → Bool
  deleted : String → Bool

/-- `diff`, of the data that was stored and the data of the databag. -/
def diff (oldData newData : String → Option String) : Diff where
  added key := (newData key).isSome && (oldData key).isNone
  changed key := (newData key).isSome && (oldData key).isSome && oldData key != newData key
  deleted key := (oldData key).isSome && (newData key).isNone

/-! ## the relations -/

/-- A relation with a client. -/
structure Client where
  /-- The databag of the client. -/
  remote : Databag String
  /-- What is stored under `data` in the own databag. -/
  data : String → Option String
  /-- The password that is shared with the client. -/
  shared : Option String

/-- `event.relation.data[event.app]` without `data`. -/
def Client.newData (c : Client) (key : String) : Option String :=
  if key = "data" then none else c.remote.get key

structure Provider where
  leader : Nat
  /-- The relations that there are. -/
  client : Nat → Option Client
  /-- The password of the user of each relation, if there is the user. -/
  password : Nat → Option String
  /-- How many `database_requested` events of a relation a unit has deferred. -/
  deferred : Nat → Nat → Nat
  /-- The unit has the `relation_broken` event of a relation, and has not
  handled it. -/
  broken : Nat → Nat → Bool
  /-- The unit is being removed. -/
  departing : Nat → Bool

/-! ## database_requested -/

/-- How `create_user` ends. -/
inductive CreateUser
  | returns
  /-- It raises, and may have written the role before. -/
  | raises (written : Bool)
deriving DecidableEq

/-- How `create_database` ends. -/
inductive CreateDatabase
  | returns
  /-- `PostgreSQLCreateDatabaseError`. -/
  | raises
  /-- An exception that is not caught. -/
  | raisesOther
deriving DecidableEq

/-- What `_on_database_requested` meets. -/
structure RequestAnswers where
  /-- The cluster is initialised and the primary endpoint ready. -/
  clusterReady : Bool
  /-- The first `update_config` does not raise. -/
  configUpdated : Bool
  /-- Every other unit has the same `user_hash`. -/
  unitsSynced : Bool
  newPassword : String
  createUser : CreateUser
  createDatabase : CreateDatabase
  /-- `get_postgresql_version` returns. -/
  version : Bool
  /-- What follows does not raise. -/
  configUpdatedAgain : Bool
deriving DecidableEq

/-- How a handler ends. -/
inductive Ending
  | done | defers | raises
deriving DecidableEq

namespace Provider

def setPassword (s : Provider) (r : Nat) (password : Option String) : Provider :=
  { s with password := Function.update s.password r password }

def setClient (s : Provider) (r : Nat) (c : Option Client) : Provider :=
  { s with client := Function.update s.client r c }

/-- `set_credentials`, which is for the leader only.  Nothing is shared where the
relation is gone, or the client does not ask for a database any more. -/
def setCredentials (s : Provider) (u r : Nat) (password : String) : Option Provider :=
  if s.leader ≠ u then some s
  else
    match s.client r with
    | none => none
    | some c =>
      if c.remote.contains "database" then
        some (s.setClient r (some { c with shared := some password }))
      else none

/-- `_on_database_requested` at unit `u`, for relation `r`. -/
def onDatabaseRequested (s : Provider) (u r : Nat) (x : RequestAnswers) : Provider × Ending :=
  if !x.clusterReady then (s, .defers)
  else if !x.configUpdated then (s, .raises)
  else if !x.unitsSynced then (s, .defers)
  else
    match x.createUser with
    | .raises written => (if written then s.setPassword r (some x.newPassword) else s, .done)
    | .returns =>
      let s := s.setPassword r (some x.newPassword)
      match x.createDatabase with
      | .raises => (s, .done)
      | .raisesOther => (s, .raises)
      | .returns =>
        match s.setCredentials u r x.newPassword with
        | none => (s, .raises)
        | some s => if x.version && !x.configUpdatedAgain then (s, .raises) else (s, .done)

/-- What is left of a hook that fails. -/
def failHook (s t : Provider) : Provider := { s with password := t.password }

/-- The event is deferred. -/
def deferRequest (s : Provider) (u r : Nat) : Provider :=
  { s with deferred :=
      Function.update s.deferred u (Function.update (s.deferred u) r (s.deferred u r + 1)) }

/-- The event is not deferred any more. -/
def takeRequest (s : Provider) (u r : Nat) : Provider :=
  { s with deferred :=
      Function.update s.deferred u (Function.update (s.deferred u) r (s.deferred u r - 1)) }

/-- `_on_relation_changed_event` of `DatabaseProviderEventHandlers`; `decodes` says
whether the fields for secrets can be read. -/
def onRelationChanged (s : Provider) (u r : Nat) (decodes : Bool) (x : RequestAnswers) : Provider :=
  match s.client r with
  | none => s
  | some c =>
    if !decodes then s
    else if s.leader ≠ u then s
    else
      let diff := diff c.data c.newData
      let t := s.setClient r (some { c with data := c.newData })
      -- `_validate_entity_consistency`
      if ["entity-type", "extra-user-roles", "extra-group-roles"].any diff.changed then s
      else if diff.added "database" && !diff.added "entity-type" then
        match t.onDatabaseRequested u r x with
        | (t, .done) => t
        | (t, .defers) => t.deferRequest u r
        | (t, .raises) => s.failHook t
      else t

/-- A deferred `database_requested` event is emitted again. -/
def onDeferredRequest (s : Provider) (u r : Nat) (x : RequestAnswers) : Provider :=
  if s.deferred u r = 0 then s
  else
    match s.onDatabaseRequested u r x with
    | (t, .done) => t.takeRequest u r
    | (t, .defers) => t
    | (t, .raises) => s.failHook t

/-! ## relation_broken -/

/-- What `_on_relation_broken` meets. -/
structure BrokenAnswers where
  /-- There are peers, the cluster is initialised and the member started. -/
  ready : Bool
  /-- `delete_user` returns. -/
  deleted : Bool
  /-- Nothing else raises. -/
  configUpdated : Bool
deriving DecidableEq

/-- The event has been handled. -/
def takeBroken (s : Provider) (u r : Nat) : Provider :=
  { s with broken := Function.update s.broken u (Function.update (s.broken u) r false) }

/-- `_on_relation_broken`; an event that is deferred, or whose hook fails, is
handled again. -/
def onRelationBroken (s : Provider) (u r : Nat) (y : BrokenAnswers) : Provider :=
  if !s.broken u r then s
  else if !y.ready then s
  else if s.departing u then s.takeBroken u r
  else if s.leader ≠ u then
    if (s.password r).isSome then s
    else if y.configUpdated then s.takeBroken u r
    else s
  else
    let t := if y.deleted then s.setPassword r none else s
    if y.configUpdated then t.takeBroken u r else t

end Provider

/-! ## the events -/

inductive Event
  | relationCreated (r : Nat)
  | clientWrites (r : Nat) (remote : Databag String)
  | relationChanged (u r : Nat) (decodes : Bool) (x : RequestAnswers)
  | deferredRequest (u r : Nat) (x : RequestAnswers)
  | relationRemoved (r : Nat)
  | relationBroken (u r : Nat) (y : Provider.BrokenAnswers)
  /-- `_on_relation_departed`, of the unit itself. -/
  | unitDeparts (u : Nat)
  | leaderElected (u : Nat)

namespace Provider

/-- The provider with `n` units after an event. -/
def next (n : Nat) (s : Provider) : Event → Provider
  | .relationCreated r =>
    if s.client r = none then s.setClient r (some ⟨∅, fun _ => none, none⟩) else s
  | .clientWrites r remote =>
    match s.client r with
    | none => s
    | some c => s.setClient r (some { c with remote := remote })
  | .relationChanged u r decodes x => if u < n then s.onRelationChanged u r decodes x else s
  | .deferredRequest u r x => if u < n then s.onDeferredRequest u r x else s
  | .relationRemoved r =>
    if s.client r = none then s
    else
      { s.setClient r none with
        broken := fun u r' => if r' = r then decide (u < n) else s.broken u r' }
  | .relationBroken u r y => if u < n then s.onRelationBroken u r y else s
  | .unitDeparts u => { s with departing := Function.update s.departing u true }
  | .leaderElected u => if u < n then { s with leader := u } else s

/-- No relation has been made. -/
def initial (leader : Nat) : Provider where
  leader := leader
  client _ := none
  password _ := none
  deferred _ _ := 0
  broken _ _ := false
  departing _ := false

/-- Everything goes well. -/
def goodAnswers (password : String) : RequestAnswers :=
  ⟨true, true, true, password, .returns, .returns, true, true⟩

/-- A client asks for a database. -/
def askingClient : Databag String := (∅ : Databag String).set "database" "app"

variable {s t : Provider} {u r : Nat} {x : RequestAnswers}

/-! ## what a request does -/

/-- Nothing is touched but the relation, its user, and the events that are
deferred. -/
structure Touches (r : Nat) (s t : Provider) : Prop where
  leader : t.leader = s.leader
  client : ∀ r', r' ≠ r → t.client r' = s.client r'
  gone : t.client r = none ↔ s.client r = none
  password : ∀ r', r' ≠ r → t.password r' = s.password r'
  deferred : ∀ v r', r' ≠ r → t.deferred v r' = s.deferred v r'
  broken : t.broken = s.broken
  departing : t.departing = s.departing

theorem Touches.refl (r : Nat) (s : Provider) : Touches r s s :=
  ⟨rfl, fun _ _ => rfl, Iff.rfl, fun _ _ => rfl, fun _ _ _ => rfl, rfl, rfl⟩

/-- The password of a user is its own relation's. -/
theorem touches_setPassword (s : Provider) (r : Nat) (password : Option String) :
    Touches r s (s.setPassword r password) :=
  ⟨rfl, fun _ _ => rfl, Iff.rfl, fun _ h => Function.update_of_ne h .., fun _ _ _ => rfl, rfl,
    rfl⟩

/-- Two changes that each concern one relation only. -/
theorem Touches.trans {s₁ s₂ s₃ : Provider} (h : Touches r s₁ s₂) (h' : Touches r s₂ s₃) :
    Touches r s₁ s₃ :=
  ⟨h'.leader.trans h.leader, fun r' hr => (h'.client r' hr).trans (h.client r' hr),
    h'.gone.trans h.gone, fun r' hr => (h'.password r' hr).trans (h.password r' hr),
    fun v r' hr => (h'.deferred v r' hr).trans (h.deferred v r' hr),
    h'.broken.trans h.broken, h'.departing.trans h.departing⟩

/-- What a relation's databags get. -/
theorem touches_setClient {c c' : Client} (hc : s.client r = some c) :
    Touches r s (s.setClient r (some c')) :=
  ⟨rfl, fun _ h => Function.update_of_ne h .., by simp [setClient, hc], fun _ _ => rfl,
    fun _ _ _ => rfl, rfl, rfl⟩

/-- Deferring the request of one relation. -/
theorem touches_deferRequest (s : Provider) (u r : Nat) : Touches r s (s.deferRequest u r) := by
  refine ⟨rfl, fun _ _ => rfl, Iff.rfl, fun _ _ => rfl, fun v r' hr => ?_, rfl, rfl⟩
  by_cases hv : v = u
  · simp [deferRequest, hv, hr]
  · simp [deferRequest, hv]

/-- Taking back the deferred request of one relation. -/
theorem touches_takeRequest (s : Provider) (u r : Nat) : Touches r s (s.takeRequest u r) := by
  refine ⟨rfl, fun _ _ => rfl, Iff.rfl, fun _ _ => rfl, fun v r' hr => ?_, rfl, rfl⟩
  by_cases hv : v = u
  · simp [takeRequest, hv, hr]
  · simp [takeRequest, hv]

/-- What is published for one relation. -/
theorem touches_setCredentials {password : String} (h : s.setCredentials u r password = some t) :
    Touches r s t := by
  unfold setCredentials at h
  split at h
  · cases h
    exact .refl r s
  · cases hc : s.client r with
    | none =>
        rw [hc] at h
        cases h
    | some c =>
        rw [hc] at h
        simp only at h
        split at h
        · cases h
          exact touches_setClient hc
        · cases h

/-- **Frame**: a request is served from its own relation and changes no other. -/
theorem touches_onDatabaseRequested : Touches r s (s.onDatabaseRequested u r x).1 := by
  have hset := touches_setPassword s r (some x.newPassword)
  unfold onDatabaseRequested
  split
  · exact .refl r s
  split
  · exact .refl r s
  split
  · exact .refl r s
  split
  · split
    · exact hset
    · exact .refl r s
  · simp only
    split
    · exact hset
    · exact hset
    · split
      · exact hset
      · next t ht =>
          have hshared := hset.trans (touches_setCredentials ht)
          split
          · exact hshared
          · exact hshared

/-- A hook that fails touches the user at most. -/
theorem Touches.failHook (h : Touches r s t) : Touches r s (s.failHook t) :=
  ⟨rfl, fun _ _ => rfl, Iff.rfl, h.password, fun _ _ _ => rfl, rfl, rfl⟩

/-- **Frame**: a changed relation changes no other relation. -/
theorem touches_onRelationChanged {decodes : Bool} :
    Touches r s (s.onRelationChanged u r decodes x) := by
  unfold onRelationChanged
  split
  · exact .refl r s
  · next c hc =>
      split
      · exact .refl r s
      split
      · exact .refl r s
      simp only
      have hstored : Touches r s (s.setClient r (some { c with data := c.newData })) :=
        touches_setClient hc
      have hrequest := hstored.trans
        (touches_onDatabaseRequested (s := s.setClient r (some { c with data := c.newData }))
          (u := u) (x := x))
      split
      · exact .refl r s
      split
      · split
        · next t ht =>
            rw [ht] at hrequest
            exact hrequest
        · next t ht =>
            rw [ht] at hrequest
            exact hrequest.trans (touches_deferRequest t u r)
        · next t ht =>
            rw [ht] at hrequest
            exact hrequest.failHook
      · exact hstored

/-- **Frame**: so does a request that is handled again. -/
theorem touches_onDeferredRequest : Touches r s (s.onDeferredRequest u r x) := by
  have hrequest := touches_onDatabaseRequested (s := s) (u := u) (r := r) (x := x)
  unfold onDeferredRequest
  split
  · exact .refl r s
  split
  · next t ht =>
      rw [ht] at hrequest
      exact hrequest.trans (touches_takeRequest t u r)
  · next t ht =>
      rw [ht] at hrequest
      exact hrequest
  · next t ht =>
      rw [ht] at hrequest
      exact hrequest.failHook

end Provider

end PostgresqlK8s.Relations.ClientUsers
