import PostgresqlK8s.Lib.Run
import PostgresqlK8s.Lib.Text
import PostgresqlK8s.Secrets.Store
import PostgresqlK8s.Users.AccessGroups
import Mathlib.Data.List.Induction
import Mathlib.Logic.Function.Basic
import Mathlib.Order.Monotone.Basic

/-!
# AsyncReplication.PasswordRotation

The passwords of the system users, where one cluster replicates another.  There is
one database and four places for its passwords: the server, the secret of the
cluster on the side of the offer, the secret that it shares through the relation,
and the secret of the cluster on the other side.

A password is changed on the side of the offer, at the server first and then in the
secret.  The shared secret is brought up to date by a later hook there, and the
secret of the other cluster by a hook of that cluster, so rotations, refreshes and
deliveries come in any order.
-/

namespace PostgresqlK8s.PasswordRotation

open Machine
open Secrets (deletedLabel)
open AccessGroups (systemUsers)

/-! ## the secrets -/

/-- The content of a secret, which has no empty values. -/
structure Content where
  value : String → Option String
  value_ne_empty : ∀ key, value key ≠ some ""

namespace Content

variable (c : Content) (key password : String)

def set (h : password ≠ "") : Content where
  value := Function.update c.value key (some password)
  value_ne_empty := fun key' => by
    by_cases hkey : key' = key
    · simp [hkey, h]
    · simpa [hkey] using c.value_ne_empty key'

/-- `get_secret`. -/
def getSecret : Option String := (c.value key).filter (· ≠ deletedLabel)

/-- `remove_secret`: the field stays, with the label as its value. -/
def removeSecret : Content :=
  if c.value key = none then c else c.set key deletedLabel (by decide)

/-- `set_secret`. -/
def setSecret : Content :=
  if h : password ≠ "" then c.set key password h else c.removeSecret key

/-- The part of the secret that is shared. -/
def shared : Content where
  value := fun key => if Text.occursIn "password" key then c.value key else none
  value_ne_empty := fun key => by
    split
    · exact c.value_ne_empty key
    · nofun

/-- The loop of `_update_internal_secret`, over the fields of the shared secret. -/
def updateInternalSecret (credentials internal : Content) : Content where
  value := fun key => (credentials.value key).or (internal.value key)
  value_ne_empty := fun key => by
    cases hkey : credentials.value key with
    | none => exact internal.value_ne_empty key
    | some password =>
      rw [Option.some_or]
      exact hkey ▸ credentials.value_ne_empty key

end Content

theorem Content.updateInternalSecret_value (credentials internal : Content) (key : String) :
    (credentials.updateInternalSecret internal).value key =
      (credentials.value key).or (internal.value key) := rfl

/-- Passwords are among what is shared. -/
theorem Content.shared_value {c : Content} {key : String}
    (h : Text.occursIn "password" key = true) : c.shared.value key = c.value key := if_pos h

/-! ## the action -/

def passwordKey (username : String) : String := username ++ "-password"

/-- The relation for the replication that a cluster has. -/
inductive ReplicationSide
  | offer
  | consumer
deriving DecidableEq, Repr

/-- What comes of `update_user_password`, and of `update_config` after it. -/
inductive UpdateOutcome
  | done
  /-- `PostgreSQLUpdateUserPasswordError`, and the server has the old password. -/
  | refused
  /-- `PostgreSQLUpdateUserPasswordError`, and the server has the new password. -/
  | lost
  /-- `update_config` raises, so that what was written to the secret is not kept. -/
  | notConfigured
deriving DecidableEq, Repr

/-- The action with what it finds. -/
structure SetPassword where
  isLeader : Bool
  username : Option String
  password : Option String
  /-- `new_password()`. -/
  generated : String
  isLdapEnabled : Bool
  areAllMembersReady : Bool
  isPrimaryCluster : Bool
  /-- The primary of the other cluster has been found. -/
  primaryFound : Bool
  outcome : UpdateOutcome
deriving DecidableEq, Repr

/-- How the action ends. -/
inductive ActionEnd
  | failed (message : String)
  | returned (password : String)
  /-- An exception. -/
  | raised
deriving DecidableEq, Repr

/-- What is changed by an attempt to update the server. -/
structure Changed where
  server : String → Option String
  secret : Content
  ended : ActionEnd

/-- The update of the password, at the server and then in the secret. -/
def updatePassword (a : SetPassword) (username password : String)
    (server : String → Option String) (secret : Content) : Changed :=
  match a.outcome with
  | .done => ⟨Function.update server username (some password),
      secret.setSecret (passwordKey username) password, .returned password⟩
  | .refused => ⟨server, secret, .failed "Failed changing the password."⟩
  | .lost => ⟨Function.update server username (some password), secret,
      .failed "Failed changing the password."⟩
  | .notConfigured => ⟨Function.update server username (some password), secret, .raised⟩

/-- `_on_set_password`, with the server that has the primary of the two clusters. -/
def onSetPassword (side : ReplicationSide) (a : SetPassword)
    (server : String → Option String) (secret : Content) : Changed :=
  if !a.isLeader then ⟨server, secret, .failed "The action can be run only on leader unit"⟩
  else
    match a.username.filter (· ≠ "") with
    | none => ⟨server, secret, .failed "The action requires a username"⟩
    | some username =>
      if username ∉ systemUsers ∧ a.isLdapEnabled then
        ⟨server, secret,
          .failed "The action can be run only for system users when LDAP is enabled"⟩
      else if username ∉ systemUsers then
        ⟨server, secret, .failed ("The action can be run only for system users: " ++
          ", ".intercalate systemUsers ++ " not " ++ username)⟩
      else
        let password := a.password.getD a.generated
        if some password = secret.getSecret (passwordKey username) then
          ⟨server, secret, .returned password⟩
        else if !a.areAllMembersReady then
          ⟨server, secret, .failed ("Failed changing the password: " ++
            "Not all members healthy or finished initial sync.")⟩
        else
          match side with
          | .offer =>
            if !a.isPrimaryCluster && !a.primaryFound then ⟨server, secret, .raised⟩
            else updatePassword a username password server secret
          | .consumer =>
            ⟨server, secret, .failed ("Failed changing the password: " ++
              "This action can be ran only in the cluster from the offer side.")⟩

/-! ## the two clusters -/

structure Clusters where
  /-- The passwords that the server accepts. -/
  server : String → Option String
  /-- The secret of the cluster on the side of the offer. -/
  offer : Content
  /-- The secret that it shares. -/
  shared : Content
  /-- The secret of the other cluster. -/
  consumer : Content

inductive RotationEvent
  | setPassword (side : ReplicationSide) (a : SetPassword)
  /-- `_get_secret`. -/
  | refresh
  /-- `_on_secret_changed` at the other cluster, and whether the secret is found. -/
  | secretChanged (found : Bool)

namespace Clusters

def next (s : Clusters) : RotationEvent → Clusters
  | .setPassword .offer a =>
    let changed := onSetPassword .offer a s.server s.offer
    { s with server := changed.server, offer := changed.secret }
  | .setPassword .consumer a =>
    let changed := onSetPassword .consumer a s.server s.consumer
    { s with server := changed.server, consumer := changed.secret }
  | .refresh => { s with shared := s.offer.shared }
  | .secretChanged found =>
    if found then { s with consumer := s.shared.updateInternalSecret s.consumer } else s

end Clusters

/-! ## what an action asks the server for -/

/-- The user and the password of the statement that the action sends, if it sends
one. -/
def request (a : SetPassword) (secret : Content) : Option (String × String) :=
  match a.username.filter (· ≠ "") with
  | none => none
  | some username =>
    if a.isLeader ∧ username ∈ systemUsers ∧
        some (a.password.getD a.generated) ≠ secret.getSecret (passwordKey username) ∧
        a.areAllMembersReady ∧ (a.isPrimaryCluster ∨ a.primaryFound) then
      some (username, a.password.getD a.generated)
    else none

section Action

variable {a : SetPassword} {server : String → Option String} {secret : Content}
  {username password key : String}

/-- A request that is not refused is an update of that user. -/
theorem onSetPassword_of_request (h : request a secret = some (username, password)) :
    onSetPassword .offer a server secret = updatePassword a username password server secret := by
  rw [request] at h
  rw [onSetPassword]
  split at h
  · cases h
  · next username' husername =>
    split at h
    · next hconditions =>
      cases h
      obtain ⟨hleader, huser, hnew, hready, hprimary⟩ := hconditions
      simp only [hleader, Bool.not_true, Bool.false_eq_true, if_false, huser, not_true_eq_false,
        false_and, hready, if_neg hnew]
      rw [if_neg]
      rw [Bool.and_eq_true, Bool.not_eq_true', Bool.not_eq_true', ← Bool.not_eq_true,
        ← Bool.not_eq_true, ← not_or, not_not]
      exact hprimary
    · cases h

variable (server) in
/-- A request that is refused changes neither the server nor the secret. -/
theorem onSetPassword_of_no_request (h : request a secret = none) :
    (onSetPassword .offer a server secret).server = server ∧
      (onSetPassword .offer a server secret).secret = secret := by
  rw [request] at h
  rw [onSetPassword]
  split
  · exact ⟨rfl, rfl⟩
  · next hleader =>
    split
    · exact ⟨rfl, rfl⟩
    · next username husername =>
      rw [husername] at h
      split
      · exact ⟨rfl, rfl⟩
      · split
        · exact ⟨rfl, rfl⟩
        · next huser =>
          dsimp only
          split
          · exact ⟨rfl, rfl⟩
          · next hnew =>
            split
            · exact ⟨rfl, rfl⟩
            · next hready =>
              split
              · exact ⟨rfl, rfl⟩
              · next hprimary =>
                have hleader : a.isLeader = true := by simpa using hleader
                have hready : a.areAllMembersReady = true := by simpa using hready
                have hprimary : a.isPrimaryCluster = true ∨ a.primaryFound = true := by grind
                dsimp only at h
                rw [if_pos ⟨hleader, not_not.mp huser, hnew, hready, hprimary⟩] at h
                cases h

/-- The action changes nothing on the side that consumes the offer. -/
theorem onSetPassword_consumer : (onSetPassword .consumer a server secret).server = server ∧
    (onSetPassword .consumer a server secret).secret = secret := by
  rw [onSetPassword]
  split
  · exact ⟨rfl, rfl⟩
  · split
    · exact ⟨rfl, rfl⟩
    · split
      · exact ⟨rfl, rfl⟩
      · split
        · exact ⟨rfl, rfl⟩
        · dsimp only
          split
          · exact ⟨rfl, rfl⟩
          · split
            · exact ⟨rfl, rfl⟩
            · exact ⟨rfl, rfl⟩

end Action

/-! ## the server and the secret -/

/-- The secret has the password that the server accepts. -/
def Agrees (user : String) (s : Clusters) : Prop :=
  s.server user = s.offer.getSecret (passwordKey user)

/-- The new passwords of the user, each with what came of the update. -/
def updates (user : String) (s : Clusters) : RotationEvent → List (String × UpdateOutcome)
  | .setPassword .offer a =>
    match request a s.offer with
    | some (username, password) =>
      if username = user ∧ a.outcome ≠ .refused then [(password, a.outcome)] else []
    | none => []
  | _ => []

/-- The password is in the secret, too. -/
def Acknowledged (x : String × UpdateOutcome) : Prop :=
  x.2 = .done ∧ x.1 ≠ "" ∧ x.1 ≠ deletedLabel

section Agreement

variable {user username password key : String} {a : SetPassword} {c : Content} {s : Clusters}
  {e : RotationEvent}

/-- Different users have different keys. -/
theorem passwordKey_injective (h : passwordKey username = passwordKey user) : username = user := by
  have hlist := congrArg String.toList h
  rw [passwordKey, passwordKey, String.toList_append, String.toList_append] at hlist
  exact String.toList_injective (List.append_cancel_right hlist)

/-- What is set is read back, unless it is empty or the mark of a deletion. -/
theorem getSecret_setSecret_self : (c.setSecret key password).getSecret key =
    if password ≠ "" ∧ password ≠ deletedLabel then some password else none := by
  rw [Content.setSecret]
  split
  · next h =>
    by_cases hlabel : password = deletedLabel
    · simp [Content.getSecret, Content.set, hlabel]
    · simp [Content.getSecret, Content.set, hlabel, h]
  · next h =>
    rw [if_neg fun h' => h h'.1, Content.removeSecret]
    split
    · next hnone => rw [Content.getSecret, hnone, Option.filter_none]
    · simp [Content.getSecret, Content.set]

/-- The other keys keep their values. -/
theorem getSecret_setSecret_of_ne {other : String} (h : other ≠ key) :
    (c.setSecret key password).getSecret other = c.getSecret other := by
  rw [Content.setSecret]
  split
  · simp [Content.getSecret, Content.set, h]
  · rw [Content.removeSecret]
    split
    · rfl
    · simp [Content.getSecret, Content.set, h]

/-- Only a password other than the stored one is requested. -/
theorem request_ne (h : request a c = some (username, password)) :
    c.getSecret (passwordKey username) ≠ some password := by
  rw [request] at h
  split at h
  · cases h
  · split at h
    · next hconditions =>
      cases h
      exact hconditions.2.2.1.symm
    · cases h

/-- A step that does not reach the server with a password of the user. -/
theorem agrees_next_of_no_update (h : updates user s e = []) :
    Agrees user (s.next e) ↔ Agrees user s := by
  cases e with
  | refresh => exact Iff.rfl
  | secretChanged found =>
    rw [Clusters.next]
    split
    · exact Iff.rfl
    · exact Iff.rfl
  | setPassword side a =>
    cases side with
    | consumer =>
      rw [Clusters.next, Agrees, onSetPassword_consumer.1]
      exact Iff.rfl
    | offer =>
      rw [updates] at h
      cases hrequest : request a s.offer with
      | none =>
        obtain ⟨hserver, hsecret⟩ := onSetPassword_of_no_request s.server hrequest
        rw [Clusters.next, Agrees, hserver, hsecret]
        exact Iff.rfl
      | some x =>
        obtain ⟨username, password⟩ := x
        rw [Clusters.next, Agrees, onSetPassword_of_request hrequest, updatePassword]
        rw [hrequest] at h
        dsimp only at h
        cases houtcome : a.outcome with
        | refused => exact Iff.rfl
        | done =>
          have hne : username ≠ user := fun huser => by simp [huser, houtcome] at h
          dsimp only
          rw [Function.update_of_ne hne.symm,
            getSecret_setSecret_of_ne fun hkey => hne (passwordKey_injective hkey.symm)]
          exact Iff.rfl
        | lost | notConfigured =>
          have hne : username ≠ user := fun huser => by simp [huser, houtcome] at h
          dsimp only
          rw [Function.update_of_ne hne.symm]
          exact Iff.rfl

/-- After an update, server and secret agree as it was acknowledged. -/
theorem agrees_next_of_update {x : String × UpdateOutcome} (h : updates user s e = [x]) :
    Agrees user (s.next e) ↔ Acknowledged x := by
  cases e with
  | refresh => cases h
  | secretChanged found => cases h
  | setPassword side a =>
    cases side with
    | consumer => cases h
    | offer =>
      rw [updates] at h
      split at h
      · next username password hrequest =>
        split at h
        · next hreached =>
          obtain ⟨rfl, houtcome⟩ := hreached
          cases h
          rw [Clusters.next, Agrees, onSetPassword_of_request hrequest, updatePassword]
          cases hcase : a.outcome with
          | refused => exact absurd hcase houtcome
          | done =>
            dsimp only
            rw [Function.update_self, getSecret_setSecret_self, Acknowledged, and_iff_right rfl]
            split
            · next hpassword => exact iff_of_true rfl hpassword
            · next hpassword => exact iff_of_false (Option.some_ne_none _) hpassword
          | lost | notConfigured =>
            dsimp only
            rw [Function.update_self, Acknowledged]
            refine iff_of_false (request_ne hrequest).symm fun hacknowledged => ?_
            cases hacknowledged.1
        · cases h
      · cases h

/-- An event updates the password of a user at most once. -/
theorem updates_eq (user : String) (s : Clusters) (e : RotationEvent) :
    updates user s e = [] ∨ ∃ x, updates user s e = [x] := by
  cases e with
  | refresh => exact .inl rfl
  | secretChanged found => exact .inl rfl
  | setPassword side a =>
    cases side with
    | consumer => exact .inl rfl
    | offer =>
      rw [updates]
      split
      · split
        · exact .inr ⟨_, rfl⟩
        · exact .inl rfl
      · exact .inl rfl

end Agreement

/-! ## the secret of the other cluster -/

/-- The secret has the fields of the other one, with their values. -/
def Content.Has (c credentials : Content) : Prop :=
  ∀ key password, credentials.value key = some password → c.value key = some password

/-- The clusters after the secret has been shared for the first time. -/
def configured (server : String → Option String) (offer internal : Content) : Clusters :=
  ⟨server, offer, offer.shared, offer.shared.updateInternalSecret internal⟩

/-- The clusters after the first so many events. -/
def stateAt (s : Clusters) (events : Nat → RotationEvent) : Nat → Clusters
  | 0 => s
  | i + 1 => (stateAt s events i).next (events i)

/-- When the offer had the passwords that are shared. -/
def sharedAt (events : Nat → RotationEvent) : Nat → Nat
  | 0 => 0
  | i + 1 =>
    match events i with
    | .refresh => i
    | _ => sharedAt events i

/-- When the offer had the passwords that the other cluster has. -/
def deliveredAt (events : Nat → RotationEvent) : Nat → Nat
  | 0 => 0
  | i + 1 =>
    match events i with
    | .secretChanged true => sharedAt events i
    | _ => deliveredAt events i

section Delivery

variable {events : Nat → RotationEvent} {i j n : Nat} {c credentials : Content}

/-- A delivery leaves all that was delivered. -/
theorem has_updateInternalSecret : (credentials.updateInternalSecret c).Has credentials :=
  fun key password hkey => by
    rw [Content.updateInternalSecret_value, hkey, Option.some_or]

/-- What is shared is of an earlier time. -/
theorem sharedAt_le : sharedAt events i ≤ i := by
  induction i with
  | zero => exact le_rfl
  | succ i ih =>
    rw [sharedAt]
    split
    · exact Nat.le_succ i
    · exact ih.trans (Nat.le_succ i)

/-- What is delivered is of a time before that. -/
theorem deliveredAt_le : deliveredAt events i ≤ sharedAt events i := by
  induction i with
  | zero => exact le_rfl
  | succ i ih =>
    rw [deliveredAt, sharedAt]
    split
    · next h =>
      rw [h]
    · split
      · exact ih.trans sharedAt_le
      · exact ih

/-- The time of what is shared does not go back. -/
theorem sharedAt_monotone : Monotone (sharedAt events) := by
  refine monotone_nat_of_le_succ fun i => ?_
  rw [sharedAt]
  split
  · exact sharedAt_le
  · exact le_rfl

/-- The same for the deliveries. -/
theorem deliveredAt_monotone : Monotone (deliveredAt events) := by
  refine monotone_nat_of_le_succ fun i => ?_
  rw [deliveredAt]
  split
  · exact deliveredAt_le
  · exact le_rfl

variable {server : String → Option String} {offer internal : Content}

/-- The shared secret is that of the offering cluster at the time of its last refresh. -/
theorem shared_stateAt : (stateAt (configured server offer internal) events i).shared =
    (stateAt (configured server offer internal) events (sharedAt events i)).offer.shared := by
  induction i with
  | zero => rfl
  | succ i ih =>
    rw [stateAt, sharedAt]
    cases events i with
    | refresh => rfl
    | setPassword side a =>
      cases side with
      | offer => exact ih
      | consumer => exact ih
    | secretChanged found =>
      rw [Clusters.next]
      split
      · exact ih
      · exact ih

/-- The other cluster has what was shared when it was last delivered. -/
theorem consumer_stateAt : (stateAt (configured server offer internal) events i).consumer.Has
    (stateAt (configured server offer internal) events (deliveredAt events i)).offer.shared := by
  induction i with
  | zero => exact has_updateInternalSecret
  | succ i ih =>
    rw [stateAt, deliveredAt]
    cases events i with
    | refresh => exact ih
    | setPassword side a =>
      cases side with
      | offer => exact ih
      | consumer =>
        rw [Clusters.next, onSetPassword_consumer.2]
        exact ih
    | secretChanged found =>
      cases found with
      | false => exact ih
      | true =>
        dsimp only
        rw [← shared_stateAt]
        exact has_updateInternalSecret

end Delivery

/-- **Order**: the passwords that are shared, and those of the other cluster, are all of
one time, and neither cluster goes back to those of an earlier one. -/
theorem passwords_in_order (server : String → Option String) (offer internal : Content)
    (events : Nat → RotationEvent) : ∃ sharedAt deliveredAt : Nat → Nat,
    Monotone sharedAt ∧ Monotone deliveredAt ∧ ∀ i,
      deliveredAt i ≤ sharedAt i ∧ sharedAt i ≤ i ∧
      (stateAt (configured server offer internal) events i).shared =
        (stateAt (configured server offer internal) events (sharedAt i)).offer.shared ∧
      (stateAt (configured server offer internal) events i).consumer.Has
        (stateAt (configured server offer internal) events (deliveredAt i)).offer.shared :=
  ⟨sharedAt events, deliveredAt events, sharedAt_monotone, deliveredAt_monotone,
    fun _ => ⟨deliveredAt_le, sharedAt_le, shared_stateAt, consumer_stateAt⟩⟩

/-- **Convergence**: where the passwords are not changed any more, a refresh and a
delivery after it are enough for the other cluster to have them all, and to keep them. -/
theorem passwords_converge {server : String → Option String} {offer internal : Content}
    {events : Nat → RotationEvent} {n i j : Nat}
    (hquiet : ∀ k, n ≤ k → (stateAt (configured server offer internal) events k).offer =
      (stateAt (configured server offer internal) events n).offer)
    (hi : n ≤ i) (hrefresh : events i = .refresh)
    (hj : i < j) (hdeliver : events j = .secretChanged true) :
    ∀ k, j < k → ∀ key, Text.occursIn "password" key = true →
      ∀ password,
        (stateAt (configured server offer internal) events k).offer.value key = some password →
        (stateAt (configured server offer internal) events k).consumer.value key =
          some password := by
  have hshared : n ≤ sharedAt events j := by
    have hsucc : sharedAt events (i + 1) = i := by rw [sharedAt, hrefresh]
    exact hi.trans (hsucc ▸ sharedAt_monotone hj)
  intro k hk key hkey password hpassword
  have hlast : n ≤ deliveredAt events k := by
    have hsucc : deliveredAt events (j + 1) = sharedAt events j := by
      rw [deliveredAt, hdeliver]
    exact hshared.trans (hsucc ▸ deliveredAt_monotone hk)
  refine consumer_stateAt key password ?_
  have hn : n ≤ k := hlast.trans (deliveredAt_le.trans sharedAt_le)
  rw [hquiet _ hlast, ← hquiet k hn, Content.shared_value hkey]
  exact hpassword

/-- A rotation of the password of the operator. -/
def rotation : SetPassword where
  isLeader := true
  username := some "operator"
  password := some "second"
  generated := "generated"
  isLdapEnabled := false
  areAllMembersReady := true
  isPrimaryCluster := false
  primaryFound := true
  outcome := .done

/-- A rotation, a refresh, and deliveries. -/
def rotationEvents : Nat → RotationEvent
  | 0 => .setPassword .offer rotation
  | 1 => .refresh
  | _ + 2 => .secretChanged true

/-- The first password of the operator. -/
def firstContent : Content where
  value := fun key => if key = "operator-password" then some "first" else none
  value_ne_empty := fun key => by
    split
    · decide
    · nofun

/-- One rotation, one refresh and one delivery. -/
theorem passwords_converge_rotation :
    (stateAt (configured (fun _ => some "first") firstContent firstContent) rotationEvents
      3).consumer.value "operator-password" = some "second" := by
  refine passwords_converge (n := 1) (i := 1) (j := 2) (fun k hk => ?_) le_rfl rfl (by decide) rfl
    3 (by decide) "operator-password" (by decide) "second" (by decide)
  induction k, hk using Nat.le_induction with
  | base => rfl
  | succ k hk ih =>
    obtain ⟨k, rfl⟩ := Nat.exists_eq_add_of_le' hk
    rw [← ih]
    cases k with
    | zero => rfl
    | succ k => rfl

end PostgresqlK8s.PasswordRotation
