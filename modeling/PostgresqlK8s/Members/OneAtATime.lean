import PostgresqlK8s.Lib.EarlyExit
import PostgresqlK8s.Members.Endpoints
import PostgresqlK8s.Patroni.ClusterStatus

/-!
# Members.OneAtATime

What a call of `_add_members` does, in order: it reads the cluster status
before each member it adds, writes the endpoint of the member and labels its
pod.  A member copies data from the primary from the moment its pod is
labelled until Patroni reports it as running or streaming.

The status that is read before a member is added must show all its members as
started.  A member that was labelled a moment ago is not in it before Patroni
has registered it there, so it does not hold the next one back.
`oneAtATime_iff` says that this is the only way in which two members come to
copy data at the same time.

Patroni's answers are inputs, and so are the hosts that a call finds: a run is
any list of calls, with any statuses reported between them.
-/

namespace PostgresqlK8s.Members

open Machine
open Patroni (MemberStatus startedStates areAllMembersReady)

/-! ## the cluster status -/

/-- Patroni lists the member. -/
def Lists (status : Option (List MemberStatus)) (member : String) : Prop :=
  ∃ members ∈ status, ∃ m ∈ members, m.name = member

/-- Patroni reports the member as running or streaming. -/
def Reports (status : Option (List MemberStatus)) (member : String) : Prop :=
  ∃ members ∈ status, ∃ m ∈ members, m.name = member ∧ m.state ∈ startedStates

instance (status : Option (List MemberStatus)) (member : String) :
    Decidable (Lists status member) := by
  unfold Lists
  cases status <;> simp only [Option.mem_def] <;> infer_instance

instance (status : Option (List MemberStatus)) (member : String) :
    Decidable (Reports status member) := by
  unfold Reports
  cases status <;> simp only [Option.mem_def] <;> infer_instance

/-! ## the actions of a call -/

/-- What `_add_members` meets, with the cluster status behind each answer. -/
structure AddReadings where
  /-- `cluster_members`, which is read once; `none` is a `RetryError`. -/
  clusterMembers : Option (List String)
  setOrder : SetOrder
  /-- The status that is read before the member is added. -/
  statusBefore : String → Option (List MemberStatus)
  /-- `_patch_pod_labels`, or the error it fails with. -/
  patchPodLabels : String → Option String

/-- The answers that the loop decides by. -/
def AddReadings.answers (r : AddReadings) : AddAnswers where
  clusterMembers := r.clusterMembers
  clusterMembersAgain := r.clusterMembers
  setOrder := r.setOrder
  allMembersReady := fun member => areAllMembersReady (r.statusBefore member)
  patchPodLabels := r.patchPodLabels

inductive AddAction where
  | statusRead (status : Option (List MemberStatus))
  | endpointWritten (member : String)
  | podLabelled (member : String)
deriving DecidableEq, Repr

/-- The loop of `_add_members`, as the actions it takes. -/
def addActions (r : AddReadings) : List String → List AddAction
  | [] => []
  | member :: members =>
    .statusRead (r.statusBefore member) ::
      if areAllMembersReady (r.statusBefore member) then
        .endpointWritten member ::
          match r.patchPodLabels member with
          | some _ => addActions r members
          | none => .podLabelled member :: addActions r members
      else []

/-- The members that the loop of `_add_members` goes over. -/
def pendingMembers (app : String) (r : AddReadings) (s : MemberState) : List String :=
  if !s.clusterInitialised then []
  else match r.clusterMembers with
    | none => []
    | some clusterMembers =>
      if MemberState.sameMembers clusterMembers (s.hostNames app) then []
      else s.missingMembers app r.answers clusterMembers

/-- What happens to the members of a cluster. -/
inductive MembershipEvent where
  /-- Patroni reports a status, outside of a call. -/
  | statusReported (status : Option (List MemberStatus))
  | addMembers (s : MemberState) (r : AddReadings)

def MembershipEvent.actions (app : String) : MembershipEvent → List AddAction
  | .statusReported status => [.statusRead status]
  | .addMembers s r => addActions r (pendingMembers app r s)

/-! ## the members that copy data -/

/-- The members that are added and not yet reported as started. -/
def copying (members : List String) : AddAction → List String
  | .statusRead status => members.filter fun m => ¬Reports status m
  | .endpointWritten _ => members
  | .podLabelled member => if member ∈ members then members else member :: members

/-- A member is added when every other one that was added before has been
reported as started since. -/
def AddedAlone (members : List String) : AddAction → Prop
  | .podLabelled member => ∀ m ∈ members, m = member
  | _ => True

instance (members : List String) (a : AddAction) : Decidable (AddedAlone members a) := by
  cases a <;> simp only [AddedAlone] <;> infer_instance

/-- The members are added one at a time, so that at most one copies data. -/
structure OneAtATime (actions : List AddAction) : Prop where
  afterReport : Along copying AddedAlone [] actions
  oneCopies : ∀ done later, actions = done ++ later → (run copying [] done).length ≤ 1

/-! ## the condition -/

/-- What one pass of the loop meets, or a status reported outside of it. -/
inductive Reading where
  | report (status : Option (List MemberStatus))
  | pass (member : String) (status : Option (List MemberStatus)) (patch : Option String)

def Reading.actions : Reading → List AddAction
  | .report status => [.statusRead status]
  | .pass member status patch =>
    .statusRead status ::
      if areAllMembersReady status then
        .endpointWritten member :: if patch = none then [.podLabelled member] else []
      else []

/-- The passes of a loop over `members`. -/
def AddReadings.passes (r : AddReadings) (members : List String) : List Reading :=
  (EarlyExit.reached (fun member => areAllMembersReady (r.statusBefore member)) members).map
    fun member => .pass member (r.statusBefore member) (r.patchPodLabels member)

def MembershipEvent.readings (app : String) : MembershipEvent → List Reading
  | .statusReported status => [.report status]
  | .addMembers s r => r.passes (pendingMembers app r s)

/-- Patroni has registered every member that still copies data when it reports
all members as started and the pod of a further one can be labelled. -/
def Registered (members : List String) : Reading → Prop
  | .report _ => True
  | .pass member status patch =>
    areAllMembersReady status = true → patch = none →
      ∀ m ∈ members, m ≠ member → Lists status m

/-! ## the actions are those of the passes -/

theorem addActions_eq (r : AddReadings) (members : List String) :
    addActions r members = (r.passes members).flatMap Reading.actions := by
  induction members with
  | nil => rfl
  | cons member members ih =>
    cases hready : areAllMembersReady (r.statusBefore member) with
    | false =>
      simp [addActions, AddReadings.passes, EarlyExit.reached, Reading.actions, hready]
    | true =>
      have hpasses : r.passes (member :: members) =
          .pass member (r.statusBefore member) (r.patchPodLabels member) :: r.passes members := by
        rw [AddReadings.passes, EarlyExit.reached, if_pos hready, List.map_cons]
        rfl
      rw [hpasses, List.flatMap_cons, ← ih, addActions, Reading.actions]
      cases hpatch : r.patchPodLabels member <;> simp [hready]

theorem MembershipEvent.actions_eq (app : String) (e : MembershipEvent) :
    e.actions app = (e.readings app).flatMap Reading.actions := by
  cases e with
  | statusReported status => rfl
  | addMembers s r => exact addActions_eq r _

/-- The hosts whose endpoints the loop writes. -/
def endpointsWritten (actions : List AddAction) : List String :=
  actions.filterMap fun
    | .endpointWritten member => some member
    | _ => none

theorem endpointsWritten_addActions (r : AddReadings) (members : List String) :
    endpointsWritten (addActions r members) =
      members.takeWhile r.answers.allMembersReady := by
  induction members with
  | nil => rfl
  | cons member members ih =>
    simp only [endpointsWritten] at ih
    cases hready : areAllMembersReady (r.statusBefore member) with
    | false => simp [addActions, endpointsWritten, AddReadings.answers, hready]
    | true =>
      cases hpatch : r.patchPodLabels member <;>
        simp [addActions, endpointsWritten, AddReadings.answers, hready, hpatch, ih]

/-- A call leaves the list of endpoints with those that its actions write. -/
theorem endpoints_addMembers_eq (app : String) (s : MemberState) (r : AddReadings) :
    (s.addMembers app r.answers).endpoints = s.endpoints ++
      (endpointsWritten ((MembershipEvent.addMembers s r).actions app)).map
        (getHostnameFromUnit app) := by
  have hadded : s.addedMembers app r.answers =
      (pendingMembers app r s).takeWhile r.answers.allMembersReady := by
    unfold MemberState.addedMembers pendingMembers
    cases hinit : s.clusterInitialised with
    | false => simp
    | true =>
      cases hmembers : r.clusterMembers with
      | none => simp [AddReadings.answers, hmembers]
      | some members =>
        by_cases hsame : MemberState.sameMembers members (s.hostNames app) = true <;>
          simp [AddReadings.answers, hmembers, hsame]
  rw [(MemberState.endpoints_addMembers r.answers s).1, hadded, MembershipEvent.actions,
    endpointsWritten_addActions]

/-! ## one pass -/

theorem lists_of_reports {status : Option (List MemberStatus)} {member : String}
    (h : Reports status member) : Lists status member := by
  obtain ⟨members, hstatus, m, hm, hname, -⟩ := h
  exact ⟨members, hstatus, m, hm, hname⟩

/-- Where all members are ready, those that are listed are started. -/
theorem reports_iff_lists {status : Option (List MemberStatus)} {member : String}
    (h : areAllMembersReady status = true) : Reports status member ↔ Lists status member := by
  constructor
  · exact lists_of_reports
  · intro hlists
    obtain ⟨members, hstatus, m, hm, hname⟩ := hlists
    rw [Option.mem_def] at hstatus
    rw [hstatus, areAllMembersReady, Bool.and_eq_true, List.all_eq_true] at h
    have hstarted := h.1 m hm
    rw [List.contains_iff_mem] at hstarted
    exact ⟨members, hstatus, m, hm, hname, hstarted⟩

/-- A pass adds its member alone exactly when those that copy data are
registered. -/
theorem addedAlone_actions_iff (members : List String) (x : Reading) :
    Along copying AddedAlone members x.actions ↔ Registered members x := by
  cases x with
  | report status => simp [Reading.actions, Registered, AddedAlone]
  | pass member status patch =>
    rw [Reading.actions, Registered]
    by_cases hready : areAllMembersReady status = true
    · by_cases hpatch : patch = none
      · rw [if_pos hready, if_pos hpatch]
        simp only [along_cons, along_nil, AddedAlone, true_and, and_true, copying, hready,
          hpatch, forall_const, List.mem_filter, decide_eq_true_eq, and_imp]
        constructor
        · intro h m hm hne
          by_contra hlists
          exact hne (h m hm (fun hreports => hlists (lists_of_reports hreports)))
        · intro h m hm hreports
          by_contra hne
          exact hreports ((reports_iff_lists hready).2 (h m hm hne))
      · simp [hready, hpatch, AddedAlone]
    · simp [hready, AddedAlone]

/-! ## runs -/

/-- An addition beside which no other member copies data keeps their number
at one. -/
theorem length_copying_le {members : List String} {a : AddAction}
    (hone : members.length ≤ 1) (halone : AddedAlone members a) :
    (copying members a).length ≤ 1 := by
  cases a with
  | statusRead status => exact Nat.le_trans (List.length_filter_le _ _) hone
  | endpointWritten member => exact hone
  | podLabelled member =>
    rw [copying]
    split
    · exact hone
    · next hnot =>
      cases members with
      | nil => simp
      | cons m rest =>
        have hm : m = member := halone m List.mem_cons_self
        rw [hm] at hnot
        exact absurd List.mem_cons_self hnot

theorem oneAtATime_of_along {actions : List AddAction}
    (h : Along copying AddedAlone [] actions) : OneAtATime actions where
  afterReport := h
  oneCopies := by
    intro done later heq
    rw [heq, along_append] at h
    have hnone : ([] : List String).length ≤ 1 := Nat.zero_le 1
    exact run_of_along (fun members => members.length ≤ 1)
      (fun members a hone halone => length_copying_le hone halone) hnone h.1

/-- In every run the members are added one at a time exactly when, at every
pass that adds one, Patroni has registered those that still copy data. -/
theorem oneAtATime_iff (app : String) (events : List MembershipEvent) :
    OneAtATime (events.flatMap (·.actions app)) ↔
      Along (fun members x => run copying members x.actions) Registered []
        (events.flatMap (·.readings app)) := by
  have hflat : events.flatMap (·.actions app) =
      (events.flatMap (·.readings app)).flatMap Reading.actions := by
    rw [List.flatMap_assoc]
    exact congrArg (List.flatMap · events) (funext fun e => e.actions_eq app)
  have hpass : Along copying AddedAlone [] (events.flatMap (·.actions app)) ↔
      Along (fun members x => run copying members x.actions) Registered []
        (events.flatMap (·.readings app)) := by
    rw [hflat, along_flatMap]
    exact along_congr (fun _ => True) (fun _ _ _ _ => trivial)
      (fun members x _ => addedAlone_actions_iff members x) trivial
  rw [← hpass]
  exact ⟨OneAtATime.afterReport, oneAtATime_of_along⟩

/-- Two units join a cluster of one, and Patroni lists neither while they are
added. -/
def twoUnitsJoin : MembershipEvent :=
  .addMembers
    { endpoints := [endpoint "pg" 0], hosts := [0, 1, 2], leader := some 0,
      clusterInitialised := true, status := .active "", departed := [] }
    { clusterMembers := some ["pg-0"]
      setOrder := ⟨id, fun l => List.Perm.refl l⟩
      statusBefore := fun _ => some [⟨"pg-0", "leader", "running"⟩]
      patchPodLabels := fun _ => none }

/-- Both are added in one call. -/
theorem not_oneAtATime_twoUnitsJoin :
    ¬∀ (app : String) (events : List MembershipEvent),
      OneAtATime (events.flatMap (·.actions app)) := by
  intro h
  have hreport := (h "pg" [twoUnitsJoin]).afterReport
  revert hreport
  decide

end PostgresqlK8s.Members
