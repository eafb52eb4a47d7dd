import PostgresqlK8s.Lib.Retry
import PostgresqlK8s.Lib.Text
import PostgresqlK8s.Members.Endpoints
import PostgresqlK8s.Patroni.ClusterStatus

/-!
# Members.Labels

The functions that go from one name of a unit to another, on texts: the name of
the unit is `app/u`, that of its pod `app-u`.  They split at the first `/`, at
the last `-` or at every `/`, and agree on the names of the units of an
application whose name has no `/` (`namesAgree`).
-/

namespace PostgresqlK8s.Members

open Patroni (label2name)

/-! ## the functions -/

/-- `unit.name` -/
def unitName (app : String) (u : Nat) : String := app ++ "/" ++ toString u

/-- `_unit_name_to_pod_name`, of any text. -/
def replaceSlashes (unitName : String) : String :=
  String.ofList (unitName.toList.map fun c => if c = '/' then '-' else c)

/-- `get_hostname_by_unit`; nothing where there is no `/`. -/
def getHostnameByUnit (app unitName : String) : Option String :=
  (Text.split '/' unitName)[1]?.map fun unitId =>
    app ++ "-" ++ unitId ++ "." ++ app ++ "-endpoints"

/-! ## the health of the replication -/

/-- What an attempt of `is_replication_healthy` meets. -/
structure HealthAnswers where
  /-- `get_primary()` -/
  primary : Option String
  /-- The status code of a path of a member, unless the request raises. -/
  statusCode : String → String → Option Nat

/-- The endpoint that is built from the name of the primary. -/
def primaryEndpoint (app primary : String) : String :=
  app ++ "-" ++ unitId primary ++ "." ++ app ++ "-endpoints"

/-- What a member is asked for. -/
def healthPath (app primary memberEndpoint : String) : String :=
  if memberEndpoint = primaryEndpoint app primary then "leader" else "replica?lag=100MB"

/-- Every member answers, and there is a primary to ask about. -/
def attemptHealth (app : String) (endpoints : List String) (a : HealthAnswers) :
    Except Unit Unit :=
  match a.primary with
  | none => .error ()
  | some primary =>
      if endpoints.all fun e => a.statusCode e (healthPath app primary e) == some 200 then .ok ()
      else .error ()

/-- `is_replication_healthy`; nothing as long as it waits.  The attempts end
with the time. -/
def isReplicationHealthy (app : String) (endpoints : List String)
    (stop : Nat → HealthAnswers → Bool) (answers : List HealthAnswers) : Option Bool :=
  match (Retry.retrying (attemptHealth app endpoints) stop 1 answers).1 with
  | .returned () => some true
  | .gaveUp () => some false
  | .waiting => none

/-! ## how they agree -/

section

variable {app : String} {i j : Nat}

/-- With no other `/`, the name of the pod is that of the unit. -/
theorem replaceSlashes_unitName (h : '/' ∉ app.toList) (u : Nat) :
    replaceSlashes (unitName app u) = unitNameToPodName app u := by
  have hkeep {cs : List Char} (hcs : '/' ∉ cs) :
      cs.map (fun c => if c = '/' then '-' else c) = cs := by
    refine (List.map_congr_left fun c hc => ?_).trans (List.map_id cs)
    have hne : c ≠ '/' := ne_of_mem_of_not_mem hc hcs
    rw [if_neg hne, id]
  apply String.toList_injective
  rw [replaceSlashes, String.toList_ofList, unitName, unitNameToPodName, String.toList_append,
    String.toList_append, String.toList_append, String.toList_append, List.map_append,
    List.map_append, hkeep h, hkeep (Decimal.not_mem_toString rfl u)]
  rfl

/-- Reading a pod name back gives the unit. -/
theorem label2name_unitNameToPodName (app : String) (u : Nat) :
    label2name (unitNameToPodName app u) = some (unitName app u) :=
  Patroni.label2name_append (Decimal.not_mem_toString rfl u)

/-- The host name of a unit is its endpoint. -/
theorem getHostnameByUnit_unitName (h : '/' ∉ app.toList) (u : Nat) :
    getHostnameByUnit app (unitName app u) = some (endpoint app u) := by
  have hjoin : unitName app u = Text.join '/' [app, toString u] := by
    apply String.toList_injective
    simp [unitName, Text.join]
  have hparts : ∀ part ∈ [app, toString u], '/' ∉ part.toList := by
    rw [List.forall_mem_cons, List.forall_mem_singleton]
    exact ⟨h, Decimal.not_mem_toString rfl u⟩
  have hsplit : Text.split '/' (unitName app u) = [app, toString u] := by
    rw [hjoin, Text.split_join hparts (List.cons_ne_nil _ _)]
  rw [getHostnameByUnit, hsplit, endpoint_eq]
  rfl

/-- The endpoint of the primary is the endpoint of its unit. -/
theorem primaryEndpoint_unitNameToPodName (app : String) (u : Nat) :
    primaryEndpoint app (unitNameToPodName app u) = endpoint app u := by
  rw [primaryEndpoint, unitId_unitNameToPodName, endpoint_eq]

/-- Only the primary is asked whether it is the leader. -/
theorem healthPath_endpoint (app : String) (primary u : Nat) :
    healthPath app (unitNameToPodName app primary) (endpoint app u) =
      if u = primary then "leader" else "replica?lag=100MB" := by
  rw [healthPath, primaryEndpoint_unitNameToPodName]
  simp only [(endpoint_injective app).eq_iff]

/-- An attempt goes through exactly if the primary answers as the leader and every
other unit as a replica. -/
theorem attemptHealth_eq_ok {units : List Nat} {primary : Nat} {a : HealthAnswers}
    (h : a.primary = some (unitNameToPodName app primary)) :
    attemptHealth app (units.map (endpoint app)) a = .ok () ↔ ∀ u ∈ units,
      a.statusCode (endpoint app u) (if u = primary then "leader" else "replica?lag=100MB") =
        some 200 := by
  simp only [attemptHealth, h, List.all_map, Function.comp_def, healthPath_endpoint]
  split
  · next hall => simpa using hall
  · next hall => simpa using hall

/-- The replication is healthy only if an attempt finds every member so. -/
theorem exists_attempt_of_isReplicationHealthy {endpoints : List String}
    {stop : Nat → HealthAnswers → Bool} {answers : List HealthAnswers}
    (h : isReplicationHealthy app endpoints stop answers = some true) :
    ∃ a ∈ answers, attemptHealth app endpoints a = .ok () := by
  rw [isReplicationHealthy] at h
  cases hloop : Retry.retrying (attemptHealth app endpoints) stop 1 answers with
  | mk outcome read =>
      rw [hloop] at h
      cases outcome with
      | gaveUp e => cases h
      | waiting => cases h
      | returned a =>
          obtain ⟨before, i, after, rfl, -, -, hi⟩ := Retry.returned_cases hloop
          exact ⟨i, List.mem_append_right before List.mem_cons_self, hi⟩

/-- The names of the units of an application determine each other. -/
structure NamesAgree (app : String) : Prop where
  label : ∀ u, label2name (replaceSlashes (unitName app u)) = some (unitName app u)
  hostname : ∀ u, getHostnameByUnit app (unitName app u) =
    some (getHostnameFromUnit app (replaceSlashes (unitName app u)))
  /-- The endpoint of the primary is the one in the list. -/
  primary : ∀ u, primaryEndpoint app (replaceSlashes (unitName app u)) = endpoint app u
  distinct : ∀ i j,
    getHostnameByUnit app (unitName app i) = getHostnameByUnit app (unitName app j) → i = j
  member : ∀ (units : List Nat) u, endpoint app u ∈ units.map (endpoint app) ↔ u ∈ units
  removed : ∀ (units : List Nat) (s : MemberState) (o : SetOrder),
    s.endpoints = units.map (endpoint app) → ∀ u,
      endpoint app u ∈ s.getEndpointsToRemove app o ↔ u ∈ units ∧ u ∉ s.hosts

/-- **All names of a unit agree**: label and pod name, host name and endpoint, those of the
primary and those of a member that is added or removed; and different units have different
ones. -/
theorem namesAgree (h : '/' ∉ app.toList) : NamesAgree app where
  label u := by rw [replaceSlashes_unitName h, label2name_unitNameToPodName]
  hostname u := by
    rw [getHostnameByUnit_unitName h, replaceSlashes_unitName h]
    rfl
  primary u := by rw [replaceSlashes_unitName h, primaryEndpoint_unitNameToPodName]
  distinct i j heq := by
    rw [getHostnameByUnit_unitName h, getHostnameByUnit_unitName h, Option.some.injEq] at heq
    exact endpoint_injective app heq
  member units u := List.mem_map_of_injective (endpoint_injective app)
  removed units s o hs u := by
    have hmem {us : List Nat} : endpoint app u ∈ us.map (endpoint app) ↔ u ∈ us :=
      List.mem_map_of_injective (endpoint_injective app)
    rw [MemberState.mem_getEndpointsToRemove, hs, hmem, hmem]

/-- An application whose name has dashes of its own. -/
theorem namesAgree_dashes : '/' ∉ "pg-14-k8s-2".toList ∧ NamesAgree "pg-14-k8s-2" :=
  have hslash : '/' ∉ "pg-14-k8s-2".toList := by decide
  ⟨hslash, namesAgree hslash⟩

end

end PostgresqlK8s.Members
