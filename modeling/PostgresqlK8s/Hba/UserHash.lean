import PostgresqlK8s.Lib.Run
import PostgresqlK8s.Hba.Rules

/-!
# Hba.UserHash

The user hash with which a unit acknowledges that its pg_hba rules admit the
users of the relations.

`update_config` renders the rules and, if it gets to its end, publishes the
hash of the relation map in the unit databag.  The leader hands out
credentials once the hashes of all other units equal its own.  The hash is
taken of the relation map alone, and the rules come from a map that the
connectivity switch and a failed query empty of relation users, so the hash
does not always mean that the rules are there.  `publishedHash_iff` says when
it does.

Beside the hash the state of a unit records the map it was taken of.
-/

namespace PostgresqlK8s.Hba

/-- What `update_config` meets. -/
structure ConfigAnswers where
  /-- `get_available_resources`; the charm is not trusted on `some false`, and
  `none` is another `ApiError`. -/
  availableResources : Option Bool
  hba : HbaParameters
  database : DatabaseAnswers
  isWorkloadRunning : Bool
  memberStarted : Bool
  apiUpdateConfig : Bool
  /-- Nothing raises between the patch of the API and the end. -/
  restarted : Bool

/-- A unit, in one of its hooks. -/
structure HashUnit (Digest : Type) where
  /-- The client relations that the unit sees. -/
  relations : ClientRelations
  /-- The map behind `generate_user_hash`, once it was computed in this hook. -/
  cachedRelations : Option (Dict String String)
  /-- `user_hash` in the unit databag. -/
  userHash : Option Digest
  /-- The map behind `userHash`. -/
  published : Dict String String
  /-- The users and databases that have a rule in the rendered file. -/
  ruleEntries : List (String × String)

namespace HashUnit

variable {Digest : Type} (hash : Dict String String → Digest)

/-- The map that `generate_user_hash` is the hash of. -/
def hashedRelations (s : HashUnit Digest) : Dict String String :=
  s.cachedRelations.getD s.relations.collectUserRelations

/-- `update_config`: whether it returns, and the new state; an uncaught
exception leaves the file as it was rendered. -/
def updateConfig (a : ConfigAnswers) (s : HashUnit Digest) : Bool × HashUnit Digest :=
  match a.availableResources with
  | none => (false, s)
  | some false => (true, s)
  | some true =>
      match relationsUserDatabasesMap s.relations a.database with
      | none => (false, s)
      | some userDatabasesMap =>
          let s := { s with ruleEntries := a.hba.ruleEntries userDatabasesMap }
          if !a.isWorkloadRunning then (true, s)
          else if !a.memberStarted then (true, s)
          else if !a.apiUpdateConfig then (true, s)
          else if !a.restarted then (false, s)
          else
            (true, { s with
              cachedRelations := some s.hashedRelations
              userHash := some (hash s.hashedRelations)
              published := s.hashedRelations })

/-- A new hook begins; the unit sees the given relations. -/
def dispatch (relations : ClientRelations) (s : HashUnit Digest) : HashUnit Digest :=
  { s with relations := relations, cachedRelations := none }

/-- A relation on a legacy endpoint gets its database in the unit databag. -/
def setDatabase (id : Nat) (database : String) (r : ClientRelation) : ClientRelation :=
  if r.id = id ∧ r.name ≠ .database then { r with database := some database } else r

/-- `set_up_relation` of the legacy endpoints writes the database, when the
client named one, in the databag of this unit. -/
def setUpRelation (id : Nat) (database : String) (s : HashUnit Digest) : HashUnit Digest :=
  if database = "" then s
  else { s with
    relations :=
      { relations := s.relations.relations.map (setDatabase id database)
        nodup := by
          rw [List.map_map]
          have hid : (fun r : ClientRelation => r.id) ∘ setDatabase id database = (·.id) := by
            funext r
            simp only [Function.comp_apply, setDatabase]
            split <;> rfl
          rw [hid]
          exact s.relations.nodup } }

/-- The last rendered file has a rule for the user. -/
def HasRule (s : HashUnit Digest) (user : String) : Prop := user ∈ s.ruleEntries.map Prod.fst

/-- If the published hash is that of a relation map, every user of the map
has a rule. -/
def RulesInPlace (s : HashUnit Digest) : Prop :=
  ∀ m : Dict String String, s.userHash = some (hash m) → ∀ user ∈ m.keys, s.HasRule user

/-- The call publishes the hash. -/
def Publishes (s : HashUnit Digest) (a : ConfigAnswers) : Bool :=
  a.availableResources == some true &&
    (relationsUserDatabasesMap s.relations a.database).isSome && a.isWorkloadRunning &&
    a.memberStarted && a.apiUpdateConfig && a.restarted

/-- The condition on a call of `update_config`.  A call that publishes finds
the connectivity enabled and the users of the database, or no relation that
asks for a database; a call that renders the rules and does not publish
renders one for each user of the map that was published last. -/
def KeepsRules (s : HashUnit Digest) (a : ConfigAnswers) : Prop :=
  if s.Publishes a then
    s.hashedRelations.keys = [] ∨ (a.hba.connectivity && a.database.usersListed)
  else if a.availableResources = some true then
    ∀ m ∈ relationsUserDatabasesMap s.relations a.database,
      ∀ user ∈ s.published.keys, a.hba.connectivity ∧ user ∈ m.keys
  else True

instance (s : HashUnit Digest) (a : ConfigAnswers) : Decidable (s.KeepsRules a) := by
  unfold KeepsRules
  infer_instance

instance (s : HashUnit Digest) (user : String) : Decidable (s.HasRule user) := by
  unfold HasRule
  infer_instance

/-! ## One call -/

section Call

variable {hash} {s : HashUnit Digest}

/-- What ties the hash of a unit to the maps behind it. -/
structure Linked (hash : Dict String String → Digest) (s : HashUnit Digest) : Prop where
  unpublished : s.userHash = none → s.published.keys = []
  published : ∀ h, s.userHash = some h → h = hash s.published
  cached : ∀ user ∈ s.hashedRelations.keys, user ∈ s.relations.collectUserRelations.keys

/-- The hash stands for one map, as it has no collisions. -/
theorem rulesInPlace_iff (hinj : Function.Injective hash) (h : Linked hash s) :
    RulesInPlace hash s ↔ ∀ user ∈ s.published.keys, s.HasRule user := by
  constructor
  · intro hrules user huser
    cases hhash : s.userHash with
    | none =>
        rw [h.unpublished hhash] at huser
        contradiction
    | some d => exact hrules s.published (by rw [hhash, h.published d hhash]) user huser
  · intro hrules m hm user huser
    have hmap : m = s.published := hinj (h.published _ hm)
    rw [hmap] at huser
    exact hrules user huser

/-- The rules are rendered. -/
def render (a : ConfigAnswers) (s : HashUnit Digest) : HashUnit Digest :=
  match relationsUserDatabasesMap s.relations a.database with
  | none => s
  | some m =>
      if a.availableResources = some true then { s with ruleEntries := a.hba.ruleEntries m }
      else s

/-- The hash is published. -/
def publish (hash : Dict String String → Digest) (s : HashUnit Digest) : HashUnit Digest :=
  { s with
    cachedRelations := some s.hashedRelations
    userHash := some (hash s.hashedRelations)
    published := s.hashedRelations }

/-- A call renders the rules, and publishes the hash if it gets to its end. -/
theorem updateConfig_eq (hash : Dict String String → Digest) (a : ConfigAnswers)
    (s : HashUnit Digest) :
    (s.updateConfig hash a).2 =
      if s.Publishes a then (s.render a).publish hash else s.render a := by
  unfold updateConfig Publishes render
  cases hresources : a.availableResources with
  | none => cases relationsUserDatabasesMap s.relations a.database <;> simp
  | some trusted =>
      cases trusted with
      | false => cases relationsUserDatabasesMap s.relations a.database <;> simp
      | true =>
          cases relationsUserDatabasesMap s.relations a.database with
          | none => simp
          | some m =>
              cases a.isWorkloadRunning
              · simp
              · cases a.memberStarted
                · simp
                · cases a.apiUpdateConfig
                  · simp
                  · cases a.restarted
                    · simp
                    · simp [publish, hashedRelations]

theorem render_frame (a : ConfigAnswers) (s : HashUnit Digest) :
    (s.render a).relations = s.relations ∧ (s.render a).cachedRelations = s.cachedRelations ∧
      (s.render a).userHash = s.userHash ∧ (s.render a).published = s.published := by
  unfold render
  split
  · exact ⟨rfl, rfl, rfl, rfl⟩
  · split <;> exact ⟨rfl, rfl, rfl, rfl⟩

theorem linked_render (a : ConfigAnswers) (h : Linked hash s) : Linked hash (s.render a) := by
  obtain ⟨hrelations, hcached, hhash, hpublished⟩ := render_frame a s
  refine ⟨?_, ?_, ?_⟩
  · rw [hhash, hpublished]
    exact h.unpublished
  · rw [hhash, hpublished]
    exact h.published
  · rw [hashedRelations, hrelations, hcached]
    exact h.cached

theorem linked_publish (h : Linked hash s) : Linked hash (s.publish hash) :=
  ⟨nofun, fun _ hd => (Option.some.inj hd).symm, h.cached⟩

theorem linked_updateConfig (a : ConfigAnswers) (h : Linked hash s) :
    Linked hash (s.updateConfig hash a).2 := by
  rw [updateConfig_eq]
  split
  · exact linked_publish (linked_render a h)
  · exact linked_render a h

theorem linked_dispatch (relations : ClientRelations) (h : Linked hash s) :
    Linked hash (s.dispatch relations) :=
  ⟨h.unpublished, h.published, fun _ huser => huser⟩

/-- The database of a legacy relation only adds a user to the relation map. -/
theorem linked_setUpRelation (id : Nat) (database : String) (h : Linked hash s) :
    Linked hash (s.setUpRelation id database) := by
  unfold setUpRelation
  split
  · exact h
  · next hne =>
      have hgrows : ∀ user ∈ s.relations.collectUserRelations.keys,
          user ∈ (s.setUpRelation id database).relations.collectUserRelations.keys := by
        intro user huser
        obtain ⟨r, hr, name, hname, hnonempty, rfl⟩ :=
          ClientRelations.mem_keys_collectUserRelations.mp huser
        rw [setUpRelation, if_neg hne, ClientRelations.mem_keys_collectUserRelations]
        refine ⟨setDatabase id database r, List.mem_map_of_mem hr, ?_⟩
        unfold setDatabase
        split
        · exact ⟨database, rfl, hne, rfl⟩
        · exact ⟨name, hname, hnonempty, rfl⟩
      rw [setUpRelation, if_neg hne] at hgrows
      refine ⟨h.unpublished, h.published, fun user huser => ?_⟩
      cases hcached : s.cachedRelations with
      | none =>
          rw [hashedRelations, hcached] at huser
          exact huser
      | some m =>
          rw [hashedRelations, hcached] at huser
          refine hgrows user (h.cached user ?_)
          rw [hashedRelations, hcached]
          exact huser

/-- A user has a rule when the connectivity is enabled and the map has it. -/
theorem mem_ruleEntries_iff {p : HbaParameters} {m : Dict String String} {user : String} :
    user ∈ (p.ruleEntries m).map Prod.fst ↔ p.connectivity = true ∧ user ∈ m.keys := by
  unfold HbaParameters.ruleEntries
  cases p.connectivity
  · simp
  · simp [Dict.keys]

/-- The rules that are rendered from a map. -/
theorem hasRule_render_iff {a : ConfigAnswers} {m : Dict String String}
    (hm : relationsUserDatabasesMap s.relations a.database = some m)
    (hresources : a.availableResources = some true) (user : String) :
    (s.render a).HasRule user ↔ a.hba.connectivity = true ∧ user ∈ m.keys := by
  have hentries : (s.render a).ruleEntries = a.hba.ruleEntries m := by
    simp [render, hm, hresources]
  rw [HasRule, hentries, mem_ruleEntries_iff]

/-- Nothing is rendered without a map, or without access to the resources. -/
theorem render_eq_self {a : ConfigAnswers}
    (h : relationsUserDatabasesMap s.relations a.database = none ∨
      a.availableResources ≠ some true) : s.render a = s := by
  unfold render
  split
  · rfl
  · next m hm =>
    rcases h with hnone | hresources
    · rw [hm] at hnone
      cases hnone
    · exact if_neg hresources

/-- The users of the map that is published have rules exactly if there are
none, or the map of the call lists them. -/
theorem rules_publish_iff {a : ConfigAnswers} (h : Linked hash s) {m : Dict String String}
    (hm : relationsUserDatabasesMap s.relations a.database = some m)
    (hresources : a.availableResources = some true) :
    (∀ user ∈ s.hashedRelations.keys, (s.render a).HasRule user) ↔
      s.hashedRelations.keys = [] ∨ (a.hba.connectivity && a.database.usersListed) := by
  simp only [hasRule_render_iff hm hresources, Bool.and_eq_true]
  constructor
  · intro hall
    cases hkeys : s.hashedRelations.keys with
    | nil => exact .inl rfl
    | cons user users =>
        have huser : user ∈ s.hashedRelations.keys := by
          rw [hkeys]
          exact List.mem_cons_self
        obtain ⟨hconn, hmem⟩ := hall user huser
        exact .inr ⟨hconn, (mem_keys_relationsUserDatabasesMap hm (h.cached user huser)).mp hmem⟩
  · rintro (hnone | ⟨hconn, hlisted⟩) user huser
    · rw [hnone] at huser
      contradiction
    · exact ⟨hconn, (mem_keys_relationsUserDatabasesMap hm (h.cached user huser)).mpr hlisted⟩

/-- **One call** leaves the rules of the published map in place exactly under
the condition on the call. -/
theorem rulesInPlace_updateConfig_iff (hinj : Function.Injective hash) (h : Linked hash s)
    (hrules : RulesInPlace hash s) (a : ConfigAnswers) :
    RulesInPlace hash (s.updateConfig hash a).2 ↔ s.KeepsRules a := by
  rw [rulesInPlace_iff hinj h] at hrules
  rw [rulesInPlace_iff hinj (linked_updateConfig a h), updateConfig_eq, KeepsRules]
  obtain ⟨hrelations, hcached, -, hpublished⟩ := render_frame a s
  by_cases hpublishes : s.Publishes a = true
  · rw [if_pos hpublishes, if_pos hpublishes]
    have hnew : ((s.render a).publish hash).published = s.hashedRelations := by
      rw [publish, hashedRelations, hrelations, hcached, hashedRelations]
    simp only [Publishes, Bool.and_eq_true, beq_iff_eq, Option.isSome_iff_exists] at hpublishes
    obtain ⟨⟨⟨⟨⟨hresources, m, hm⟩, -⟩, -⟩, -⟩, -⟩ := hpublishes
    rw [hnew]
    exact rules_publish_iff h hm hresources
  · rw [if_neg hpublishes, if_neg hpublishes, hpublished]
    by_cases hresources : a.availableResources = some true
    · rw [if_pos hresources]
      cases hm : relationsUserDatabasesMap s.relations a.database with
      | none =>
          rw [render_eq_self (.inl hm)]
          exact iff_of_true hrules fun _ hmem => by contradiction
      | some m =>
          simp only [hasRule_render_iff hm hresources, Option.mem_some_iff]
          constructor
          · rintro hall m' rfl
            exact hall
          · intro hall
            exact hall m rfl
    · rw [if_neg hresources, render_eq_self (.inr hresources)]
      exact iff_of_true hrules trivial

end Call

end HashUnit

/-! ## The leader and its peers -/

/-- What `_on_database_requested` meets before it hands out credentials. -/
structure RequestAnswers where
  clusterInitialised : Bool
  primaryEndpointReady : Bool
  config : ConfigAnswers

structure HashSystem (Digest : Type) where
  leader : Nat
  units : List Nat
  unit : Nat → HashUnit Digest

/-- The events of a run. -/
inductive HashEvent
  | dispatch (u : Nat) (relations : ClientRelations)
  | setUpRelation (u id : Nat) (database : String)
  | updateConfig (u : Nat) (a : ConfigAnswers)
  /-- The leader handles a database request. -/
  | databaseRequested (a : RequestAnswers)

namespace HashSystem

open HashUnit

variable {Digest : Type} [DecidableEq Digest] (hash : Dict String String → Digest)

/-- Change one unit. -/
def updateUnit (u : Nat) (f : HashUnit Digest → HashUnit Digest) (t : HashSystem Digest) :
    HashSystem Digest :=
  { t with unit := Function.update t.unit u (f (t.unit u)) }

/-- `_on_database_requested`: whether the credentials are handed out, and the
new state. -/
def onDatabaseRequested (a : RequestAnswers) (t : HashSystem Digest) :
    Bool × HashSystem Digest :=
  if !a.clusterInitialised || !a.primaryEndpointReady then (false, t)
  else
    let (returns, leader) := (t.unit t.leader).updateConfig hash a.config
    let t := t.updateUnit t.leader fun _ => leader
    if !returns then (false, t)
    else if t.units.any fun u => u ≠ t.leader &&
        (t.unit u).userHash ≠ some (hash (t.unit t.leader).hashedRelations) then (false, t)
    else (true, t)

def step (t : HashSystem Digest) : HashEvent → HashSystem Digest
  | .dispatch u relations => t.updateUnit u (·.dispatch relations)
  | .setUpRelation u id database => t.updateUnit u (·.setUpRelation id database)
  | .updateConfig u a => t.updateUnit u fun s => (s.updateConfig hash a).2
  | .databaseRequested a => (t.onDatabaseRequested hash a).2

/-- Units that have not published anything. -/
structure Initial (t : HashSystem Digest) : Prop where
  cachedRelations : ∀ u, (t.unit u).cachedRelations = none
  userHash : ∀ u, (t.unit u).userHash = none
  published : ∀ u, (t.unit u).published = ∅

/-- What a published hash promises: after the event the rules of every unit
are in place, and if the event hands out credentials then every other unit
has a rule for each user of the leader's map. -/
structure Sound (t : HashSystem Digest) (e : HashEvent) : Prop where
  rules : ∀ u, RulesInPlace hash ((step hash t e).unit u)
  credentials : ∀ a, e = .databaseRequested a → (t.onDatabaseRequested hash a).1 = true →
    ∀ u ∈ t.units, u ≠ t.leader →
      ∀ user ∈ ((step hash t e).unit t.leader).hashedRelations.keys,
        ((step hash t e).unit u).HasRule user

/-- Every call of `update_config` meets the condition. -/
def KeepsRules (t : HashSystem Digest) : HashEvent → Prop
  | .updateConfig u a => (t.unit u).KeepsRules a
  | .databaseRequested a =>
      (a.clusterInitialised && a.primaryEndpointReady) = true →
        (t.unit t.leader).KeepsRules a.config
  | _ => True

omit [DecidableEq Digest] in
instance (t : HashSystem Digest) (e : HashEvent) : Decidable (KeepsRules t e) := by
  unfold KeepsRules
  split <;> infer_instance

/-- What holds between the events. -/
structure Inv (t : HashSystem Digest) : Prop where
  linked : ∀ u, Linked hash (t.unit u)
  rules : ∀ u, RulesInPlace hash (t.unit u)

section Runs

variable {hash} {t : HashSystem Digest}

omit [DecidableEq Digest] in
theorem Initial.inv (h : Initial t) : Inv hash t := by
  refine ⟨fun u => ⟨fun _ => ?_, fun d hd => ?_, ?_⟩, fun u m hm => ?_⟩
  · rw [h.published]
    rfl
  · rw [h.userHash] at hd
    contradiction
  · rw [hashedRelations, h.cachedRelations]
    exact fun _ huser => huser
  · rw [h.userHash] at hm
    contradiction

omit [DecidableEq Digest] in
@[simp] theorem updateUnit_self (u : Nat) (f : HashUnit Digest → HashUnit Digest) :
    (t.updateUnit u f).unit u = f (t.unit u) := by
  simp [updateUnit]

omit [DecidableEq Digest] in
theorem updateUnit_of_ne {u v : Nat} (f : HashUnit Digest → HashUnit Digest) (h : v ≠ u) :
    (t.updateUnit u f).unit v = t.unit v := by
  simp [updateUnit, h]

omit [DecidableEq Digest] in
/-- A fact about every unit is kept by a change of one unit that keeps it. -/
theorem forall_updateUnit {P : HashUnit Digest → Prop} (h : ∀ u, P (t.unit u)) (u : Nat)
    {f : HashUnit Digest → HashUnit Digest} (hf : P (f (t.unit u))) (v : Nat) :
    P ((t.updateUnit u f).unit v) := by
  by_cases hv : v = u
  · subst hv
    rw [updateUnit_self]
    exact hf
  · rw [updateUnit_of_ne f hv]
    exact h v

/-- A request makes the leader call `update_config`, unless it is put off. -/
theorem onDatabaseRequested_snd (a : RequestAnswers) :
    (t.onDatabaseRequested hash a).2 =
      if (a.clusterInitialised && a.primaryEndpointReady) = true then
        t.updateUnit t.leader fun s => (s.updateConfig hash a.config).2
      else t := by
  unfold onDatabaseRequested
  cases a.clusterInitialised
  · simp
  · cases a.primaryEndpointReady
    · simp
    · simp only [Bool.not_true, Bool.or_self, Bool.false_eq_true, if_false, Bool.and_self, if_true]
      split
      · rfl
      · split <;> rfl

/-- Credentials are handed out only when every other unit has published the
hash of the leader's map. -/
theorem userHash_of_onDatabaseRequested {a : RequestAnswers}
    (h : (t.onDatabaseRequested hash a).1 = true) {u : Nat} (hu : u ∈ t.units)
    (hne : u ≠ t.leader) :
    ((t.onDatabaseRequested hash a).2.unit u).userHash =
      some (hash ((t.onDatabaseRequested hash a).2.unit t.leader).hashedRelations) := by
  unfold onDatabaseRequested at h ⊢
  split at h
  · contradiction
  · next hready =>
      rw [if_neg hready]
      dsimp only at h ⊢
      split at h
      · contradiction
      · next hreturns =>
          rw [if_neg hreturns]
          split at h
          · contradiction
          · next hany =>
              rw [if_neg hany]
              have hall := List.any_eq_false.mp (Bool.eq_false_iff.mpr hany) u hu
              simp only [ne_eq, Bool.and_eq_true, decide_eq_true_eq, not_and,
                Decidable.not_not] at hall
              exact hall hne

theorem linked_step (h : ∀ u, Linked hash (t.unit u)) (e : HashEvent) (u : Nat) :
    Linked hash ((step hash t e).unit u) := by
  cases e with
  | dispatch v relations => exact forall_updateUnit h v (linked_dispatch relations (h v)) u
  | setUpRelation v id database =>
      exact forall_updateUnit h v (linked_setUpRelation id database (h v)) u
  | updateConfig v a =>
      exact forall_updateUnit (f := fun s => (s.updateConfig hash a).2) h v
        (linked_updateConfig a (h v)) u
  | databaseRequested a =>
      rw [step, onDatabaseRequested_snd]
      split
      · exact forall_updateUnit (f := fun s => (s.updateConfig hash a.config).2) h t.leader
          (linked_updateConfig a.config (h t.leader)) u
      · exact h u

omit [DecidableEq Digest] in
/-- The rules of all units are in place after a change of one unit exactly if
those of that unit are. -/
theorem rules_updateUnit_iff (h : ∀ u, RulesInPlace hash (t.unit u)) (u : Nat)
    (f : HashUnit Digest → HashUnit Digest) :
    (∀ v, RulesInPlace hash ((t.updateUnit u f).unit v)) ↔ RulesInPlace hash (f (t.unit u)) := by
  constructor
  · intro hall
    have hu := hall u
    rwa [updateUnit_self] at hu
  · exact fun hu v => forall_updateUnit h u hu v

/-- **One event** leaves the rules in place exactly under its condition. -/
theorem rules_step_iff (hinj : Function.Injective hash) (h : Inv hash t) (e : HashEvent) :
    (∀ u, RulesInPlace hash ((step hash t e).unit u)) ↔ KeepsRules t e := by
  cases e with
  | dispatch v relations =>
      exact iff_of_true (forall_updateUnit h.rules v (h.rules v)) trivial
  | setUpRelation v id database =>
      refine iff_of_true (forall_updateUnit h.rules v ?_) trivial
      unfold setUpRelation
      split <;> exact h.rules v
  | updateConfig v a =>
      rw [step, rules_updateUnit_iff h.rules, KeepsRules]
      exact rulesInPlace_updateConfig_iff hinj (h.linked v) (h.rules v) a
  | databaseRequested a =>
      rw [step, onDatabaseRequested_snd, KeepsRules]
      by_cases hready : (a.clusterInitialised && a.primaryEndpointReady) = true
      · rw [if_pos hready, rules_updateUnit_iff h.rules]
        rw [rulesInPlace_updateConfig_iff hinj (h.linked t.leader) (h.rules t.leader)]
        exact ⟨fun hkeeps _ => hkeeps, fun hkeeps => hkeeps hready⟩
      · rw [if_neg hready]
        exact iff_of_true h.rules fun hcontra => absurd hcontra hready

/-- With the rules in place, credentials are handed out only after every
other unit has its rules. -/
theorem sound_of_rules {e : HashEvent}
    (h : ∀ u, RulesInPlace hash ((step hash t e).unit u)) : Sound hash t e := by
  refine ⟨h, ?_⟩
  rintro a rfl hhanded u hu hne user huser
  exact h u _ (userHash_of_onDatabaseRequested hhanded hu hne) user huser

/-- **A published user hash means the rules are in place**, after every event
of a run, if and only if every call of `update_config` in it meets the
condition. -/
theorem publishedHash_iff (hinj : Function.Injective hash) (hinit : Initial t)
    (es : List HashEvent) :
    Machine.Along (step hash) (Sound hash) t es ↔ Machine.Along (step hash) KeepsRules t es := by
  refine Machine.along_congr (Inv hash) (fun t e h he => ?_) (fun t e h => ?_) hinit.inv
  · exact ⟨linked_step h.linked e, (rules_step_iff hinj h e).mpr he⟩
  · rw [← rules_step_iff hinj h e]
    exact ⟨fun hsound => hsound.rules, sound_of_rules⟩

end Runs

/-- Two units that have not published anything; unit 0 is the leader. -/
def twoUnits : HashSystem (List (String × String)) where
  leader := 0
  units := [0, 1]
  unit := fun _ =>
    { relations := ⟨[], by simp⟩, cachedRelations := none, userHash := none, published := ∅,
      ruleEntries := [] }

/-- A call that gets to its end; the query for the users of the database
gives `users`. -/
def configAnswers (users : Option (List String)) : ConfigAnswers where
  availableResources := some true
  hba := tlsParameters
  database :=
    { clusterInitialised := true, memberStarted := true, listUsers := users,
      listAccessibleDatabasesForUser := fun _ => some [], listAccessGroups := some accessGroups }
  isWorkloadRunning := true
  memberStarted := true
  apiUpdateConfig := true
  restarted := true

/-- A client relation appears on both units, each calls `update_config`, and
the leader handles the database request; `users` is what the query gives in
the unit 1. -/
def databaseRequest (users : Option (List String)) : List HashEvent :=
  [.dispatch 1 (oneClient "app_db"), .updateConfig 1 (configAnswers users),
    .dispatch 0 (oneClient "app_db"),
    .databaseRequested
      { clusterInitialised := true, primaryEndpointReady := true,
        config := configAnswers (some []) }]

theorem twoUnits_initial : Initial twoUnits := ⟨fun _ => rfl, fun _ => rfl, fun _ => rfl⟩

/-- Where the users can be listed, the rule is there before the credentials are. -/
theorem publishedHash_iff_databaseRequest :
    Machine.Along (step Dict.entries) (Sound Dict.entries) twoUnits
      (databaseRequest (some [])) :=
  (publishedHash_iff Dict.entries_injective twoUnits_initial
    (databaseRequest (some []))).mpr (by decide)

/-- The users cannot be listed in the unit 1.  It publishes the hash of the
relation map with no rule for the relation's user, and the leader takes that
for an acknowledgement and hands out the credentials. -/
theorem databaseRequest_without_rule :
    let t := Machine.run (step Dict.entries) twoUnits ((databaseRequest none).take 3)
    let a : RequestAnswers :=
      { clusterInitialised := true, primaryEndpointReady := true,
        config := configAnswers (some []) }
    Initial twoUnits ∧ (t.unit 1).userHash = some [("relation_id_3", "app_db")] ∧
      ¬ RulesInPlace Dict.entries (t.unit 1) ∧ (t.onDatabaseRequested Dict.entries a).1 = true ∧
      ¬ (((t.onDatabaseRequested Dict.entries a).2).unit 1).HasRule "relation_id_3" := by
  refine ⟨twoUnits_initial, by decide, fun h => ?_, by decide, by decide⟩
  have hrule := h (oneClient "app_db").collectUserRelations (by decide) "relation_id_3" (by decide)
  revert hrule
  decide

end HashSystem

end PostgresqlK8s.Hba
