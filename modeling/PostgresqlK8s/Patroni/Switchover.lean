import PostgresqlK8s.Lib.Retry

/-!
# Patroni.Switchover

Moving the primary to another member.  `switchover` asks Patroni to step the
primary down, again and again until a request is answered, and then reads the
cluster status until it shows that the primary has changed; `primary_changed`
reads it again from the caller.

What Patroni answers, and when, is an input: the statuses and responses in
the order in which they are read, each with the seconds that have passed
since its loop was entered.

A status without a leader and an unreachable cluster both read as no primary,
which differs from every name.  So a loop that waits for a new primary ends
on such an answer (`switchover_returned_of_losesLeader`), unless it waits for
a given candidate.
-/

namespace PostgresqlK8s.Patroni

open Retry

/-! ## the cluster status -/

/-- A member of the cluster, as the cluster endpoint lists it. -/
structure ClusterMember where
  name : String
  role : String
deriving DecidableEq, Repr

/-- What `cluster_status` returns; nothing when no unit is reachable, where it
raises `RetryError`. -/
abbrev ClusterStatus := Option (List ClusterMember)

/-- `get_primary`, of the status it is answered. -/
def getPrimary : ClusterStatus → Option String
  | some members => (members.find? (·.role == "leader")).map (·.name)
  | none => none

/-! ## the switchover -/

/-- The response to a request. -/
structure Response where
  statusCode : Nat
  text : String
deriving DecidableEq, Repr

/-- What one attempt to request the switchover is answered; there is no
response when the request raises. -/
structure Attempt where
  status : ClusterStatus
  response : Option Response
  elapsed : Nat
deriving Repr

/-- What one attempt to see the new primary is answered. -/
structure StatusRead where
  status : ClusterStatus
  elapsed : Nat
deriving Repr

/-- The exceptions of `switchover`. -/
inductive SwitchoverError
  | retryError
  | switchoverNotSyncError
  | switchoverFailedError (message : String)
deriving DecidableEq, Repr

/-- What became of a switchover: how it ended, the primary that was asked to
step down, and the statuses that were read, in order. -/
structure Switchover where
  outcome : Outcome SwitchoverError Unit
  primary : Option String
  statuses : List ClusterStatus
deriving Repr

/-- `stop_after_delay(60)`. -/
def stopAfterDelay (elapsed : Nat) : Bool := decide (60 ≤ elapsed)

/-- The body of the first loop: the primary, and the response to the request. -/
def requestSwitchover (a : Attempt) : Except Unit (Option String × Response) :=
  match a.response with
  | some r => .ok (getPrimary a.status, r)
  | none => .error ()

/-- The body of the second loop. -/
def checkSwitched (candidate primary : Option String) (read : StatusRead) :
    Except SwitchoverError Unit :=
  let newPrimary := getPrimary read.status
  if (candidate.isSome && newPrimary != candidate) || newPrimary == primary then
    .error (.switchoverFailedError "primary was not switched correctly")
  else .ok ()

/-- `candidate.replace("/", "-")`. -/
def podName (candidate : String) : String :=
  String.ofList (candidate.toList.map fun c => if c = '/' then '-' else c)

/-- `switchover`. -/
def switchover (candidate : Option String) (wait : Bool) (attempts : List Attempt)
    (reads : List StatusRead) : Switchover :=
  match retrying requestSwitchover (fun _ a => stopAfterDelay a.elapsed) 1 attempts with
  | (.waiting, asked) => ⟨.waiting, none, asked.map (·.status)⟩
  | (.gaveUp _, asked) => ⟨.gaveUp .retryError, none, asked.map (·.status)⟩
  | (.returned (primary, r), asked) =>
      if r.statusCode ≠ 200 then
        if r.statusCode = 412 ∧ r.text = "candidate name does not match with sync_standby" then
          ⟨.gaveUp .switchoverNotSyncError, primary, asked.map (·.status)⟩
        else
          ⟨.gaveUp (.switchoverFailedError s!"received {r.statusCode}"), primary,
            asked.map (·.status)⟩
      else if !wait then ⟨.returned (), primary, asked.map (·.status)⟩
      else
        let seen := retrying (checkSwitched (candidate.map podName) primary)
          (fun _ read => stopAfterDelay read.elapsed) 1 reads
        ⟨seen.1, primary, asked.map (·.status) ++ seen.2.map (·.status)⟩

/-- One call of the body of `primary_changed`; a falsy result is retried. -/
def comparePrimary (oldPrimary : Option String) (status : ClusterStatus) : Except Unit Bool :=
  let primary := getPrimary status
  if primary ≠ oldPrimary then .ok true else .error ()

/-- `primary_changed`, and the statuses it read. -/
def primaryChanged (oldPrimary : Option String) (statuses : List ClusterStatus) :
    Outcome Unit Bool × List ClusterStatus :=
  retrying (comparePrimary oldPrimary) (fun n _ => decide (10 ≤ n)) 1 statuses

/-! ## when the loops end -/

theorem requestSwitchover_eq_ok {a : Attempt} {primary : Option String} {r : Response} :
    requestSwitchover a = .ok (primary, r) ↔
      a.response = some r ∧ getPrimary a.status = primary := by
  unfold requestSwitchover
  cases a.response with
  | none => simp
  | some r' => simp [and_comm]

theorem requestSwitchover_eq_error {a : Attempt} :
    (∃ e, requestSwitchover a = .error e) ↔ a.response = none := by
  unfold requestSwitchover
  cases a.response with
  | none => simp
  | some r => simp

/-- A status ends the wait when it names the candidate, if there is one, and
anything but the old primary. -/
theorem checkSwitched_eq_ok {candidate primary : Option String} {read : StatusRead} :
    checkSwitched candidate primary read = .ok () ↔
      (∀ c, candidate = some c → getPrimary read.status = some c) ∧
        getPrimary read.status ≠ primary := by
  unfold checkSwitched
  cases candidate with
  | none => by_cases h : getPrimary read.status = primary <;> simp [h]
  | some c =>
      by_cases hc : getPrimary read.status = some c
      · by_cases h : some c = primary <;> simp [hc, h]
      · simp [hc]

theorem checkSwitched_eq_error {primary : Option String} {read : StatusRead} :
    (∃ e, checkSwitched none primary read = .error e) ↔ getPrimary read.status = primary := by
  unfold checkSwitched
  by_cases h : getPrimary read.status = primary <;> simp [h]

theorem comparePrimary_eq_ok {oldPrimary : Option String} {status : ClusterStatus} :
    comparePrimary oldPrimary status = .ok true ↔ getPrimary status ≠ oldPrimary := by
  unfold comparePrimary
  by_cases h : getPrimary status = oldPrimary <;> simp [h]

theorem comparePrimary_eq_error {oldPrimary : Option String} {status : ClusterStatus} :
    (∃ e, comparePrimary oldPrimary status = .error e) ↔ getPrimary status = oldPrimary := by
  unfold comparePrimary
  by_cases h : getPrimary status = oldPrimary <;> simp [h]

theorem stopAfterDelay_eq_false {elapsed : Nat} :
    stopAfterDelay elapsed = false ↔ elapsed < 60 := by
  simp [stopAfterDelay]

/-! ## a switchover that returned has happened -/

/-- The switchover did what its return says: if it returned, the last status
it read names a leader, who is not the primary that was asked to step down
and is the candidate, if one was given. -/
def Happened (candidate : Option String) (s : Switchover) : Prop :=
  s.outcome = .returned () → ∃ leader, s.statuses.getLast?.bind getPrimary = some leader ∧
    some leader ≠ s.primary ∧ ∀ c, candidate = some c → leader = podName c

/-- The first request that was answered was accepted, and `p` led the cluster
when it was made. -/
def AcceptedFrom (p : String) (attempts : List Attempt) : Prop :=
  ∃ before a after r, attempts = before ++ a :: after ∧
    (∀ b ∈ before, b.response = none ∧ b.elapsed < 60) ∧
    a.response = some r ∧ r.statusCode = 200 ∧ getPrimary a.status = some p

/-- After statuses that still name `p`, and in time, one names no leader. -/
def LosesLeader (p : String) (reads : List StatusRead) : Prop :=
  ∃ before i after, reads = before ++ i :: after ∧
    (∀ b ∈ before, getPrimary b.status = some p ∧ b.elapsed < 60) ∧
    getPrimary i.status = none

/-- The same within the ten statuses that `primary_changed` reads at most. -/
def LosesLeaderInTen (p : String) (statuses : List ClusterStatus) : Prop :=
  ∃ before i after, statuses = before ++ i :: after ∧
    (∀ b ∈ before, getPrimary b = some p) ∧ before.length < 10 ∧ getPrimary i = none

/-- An accepted request leads to the second loop. -/
theorem switchover_of_acceptedFrom {p : String} {attempts : List Attempt}
    (h : AcceptedFrom p attempts) (candidate : Option String) (reads : List StatusRead) :
    ∃ asked, switchover candidate true attempts reads =
      ⟨(retrying (checkSwitched (candidate.map podName) (some p))
          (fun _ read => stopAfterDelay read.elapsed) 1 reads).1, some p,
        asked ++ (retrying (checkSwitched (candidate.map podName) (some p))
          (fun _ read => stopAfterDelay read.elapsed) 1 reads).2.map (·.status)⟩ := by
  obtain ⟨before, a, after, r, rfl, hbefore, hr, hcode, hp⟩ := h
  have hrefuses : Refuses requestSwitchover (fun _ a => stopAfterDelay a.elapsed) 1 before := by
    rw [refuses_iff_forall]
    intro b hb
    exact ⟨requestSwitchover_eq_error.mpr (hbefore b hb).1,
      stopAfterDelay_eq_false.mpr (hbefore b hb).2⟩
  have hok : requestSwitchover a = .ok (some p, r) := requestSwitchover_eq_ok.mpr ⟨hr, hp⟩
  refine ⟨(before ++ [a]).map (·.status), ?_⟩
  rw [switchover, retrying_returned hrefuses hok after]
  simp [hcode]

/-- A switchover that returned was accepted, and its last status ended the
second loop. -/
theorem switchover_returned_cases {candidate : Option String} {attempts : List Attempt}
    {reads : List StatusRead}
    (h : (switchover candidate true attempts reads).outcome = .returned ()) :
    ∃ before i after, reads = before ++ i :: after ∧
      (switchover candidate true attempts reads).statuses.getLast? = some i.status ∧
      Refuses (checkSwitched (candidate.map podName)
        (switchover candidate true attempts reads).primary)
        (fun _ read => stopAfterDelay read.elapsed) 1 before ∧
      checkSwitched (candidate.map podName)
        (switchover candidate true attempts reads).primary i = .ok () ∧
      ∀ p, (switchover candidate true attempts reads).primary = some p →
        AcceptedFrom p attempts := by
  unfold switchover at h ⊢
  cases hasked : retrying requestSwitchover (fun _ a => stopAfterDelay a.elapsed) 1 attempts with
  | mk outcome asked =>
      rw [hasked] at h
      cases outcome with
      | waiting => cases h
      | gaveUp e => cases h
      | returned answer =>
          obtain ⟨primary, r⟩ := answer
          dsimp only at h ⊢
          by_cases hcode : r.statusCode = 200
          · simp only [hcode, ne_eq, not_true, if_false, Bool.not_true, Bool.false_eq_true]
              at h ⊢
            cases hseen : retrying (checkSwitched (candidate.map podName) primary)
              (fun _ read => stopAfterDelay read.elapsed) 1 reads with
            | mk outcome seen =>
                rw [hseen] at h
                dsimp only at h
                rw [h] at hseen
                obtain ⟨before, i, after, hreads, hread, href, hi⟩ := returned_cases hseen
                refine ⟨before, i, after, hreads, by simp [hread], href, hi, ?_⟩
                intro p hp
                obtain ⟨front, a, rest, hattempts, -, hfront, ha⟩ := returned_cases hasked
                obtain ⟨hresponse, hprimary⟩ := requestSwitchover_eq_ok.mp ha
                rw [refuses_iff_forall] at hfront
                refine ⟨front, a, rest, r, hattempts, ?_, hresponse, hcode, hprimary.trans hp⟩
                intro b hb
                exact ⟨requestSwitchover_eq_error.mp (hfront b hb).1,
                  stopAfterDelay_eq_false.mp (hfront b hb).2⟩
          · simp only [ne_eq, hcode, not_false_iff, if_true] at h
            split at h <;> cases h

/-- Without a candidate, the wait for a new primary ends on a status without a
leader. -/
theorem switchover_returned_of_losesLeader {p : String} {attempts : List Attempt}
    {reads : List StatusRead} (haccepted : AcceptedFrom p attempts)
    (hloses : LosesLeader p reads) :
    (switchover none true attempts reads).outcome = .returned () ∧
      (switchover none true attempts reads).statuses.getLast?.bind getPrimary = none := by
  obtain ⟨asked, heq⟩ := switchover_of_acceptedFrom haccepted none reads
  obtain ⟨before, i, after, rfl, hbefore, hi⟩ := hloses
  have hrefuses : Refuses (checkSwitched none (some p))
      (fun _ read => stopAfterDelay read.elapsed) 1 before := by
    rw [refuses_iff_forall]
    intro b hb
    exact ⟨checkSwitched_eq_error.mpr (hbefore b hb).1,
      stopAfterDelay_eq_false.mpr (hbefore b hb).2⟩
  have hok : checkSwitched none (some p) i = .ok () := by
    rw [checkSwitched_eq_ok, hi]
    simp
  rw [heq, Option.map_none, retrying_returned hrefuses hok after]
  simp [hi]

/-- When a switchover that returns has happened. -/
theorem happened_iff (candidate : Option String) (attempts : List Attempt)
    (reads : List StatusRead) :
    Happened candidate (switchover candidate true attempts reads) ↔
      candidate.isSome ∨ ¬ ∃ p, AcceptedFrom p attempts ∧ LosesLeader p reads := by
  constructor
  · intro h
    cases candidate with
    | some c => exact .inl rfl
    | none =>
        refine .inr ?_
        intro ⟨p, haccepted, hloses⟩
        obtain ⟨hreturned, hlast⟩ := switchover_returned_of_losesLeader haccepted hloses
        obtain ⟨leader, hleader, -, -⟩ := h hreturned
        rw [hlast] at hleader
        contradiction
  · intro h hreturned
    obtain ⟨before, i, after, hreads, hlast, hrefuses, hok, haccepted⟩ :=
      switchover_returned_cases hreturned
    obtain ⟨hcandidate, hchanged⟩ := checkSwitched_eq_ok.mp hok
    rw [hlast, Option.bind_some]
    cases candidate with
    | some c =>
        have hnamed : getPrimary i.status = some (podName c) := hcandidate _ rfl
        refine ⟨podName c, hnamed, ?_, ?_⟩
        · rw [← hnamed]
          exact hchanged
        · intro c' hc'
          rw [Option.some.inj hc']
    | none =>
        cases hleader : getPrimary i.status with
        | some leader =>
            rw [hleader] at hchanged
            exact ⟨leader, rfl, hchanged, fun c hc => by cases hc⟩
        | none =>
            exfalso
            rw [hleader] at hchanged
            obtain ⟨p, hp⟩ := Option.ne_none_iff_exists'.mp (Ne.symm hchanged)
            have hno := h.resolve_left (by simp)
            refine hno ⟨p, haccepted p hp, before, i, after, hreads, ?_, hleader⟩
            rw [refuses_iff_forall] at hrefuses
            intro b hb
            obtain ⟨herror, htime⟩ := hrefuses b hb
            exact ⟨(checkSwitched_eq_error.mp herror).trans hp, stopAfterDelay_eq_false.mp htime⟩

/-! ## a primary that has changed -/

/-- `primary_changed` did what its result says: if it returned true, the last
status it read names a leader other than the old primary. -/
def SawNewPrimary (oldPrimary : Option String)
    (result : Outcome Unit Bool × List ClusterStatus) : Prop :=
  result.1 = .returned true →
    ∃ leader, result.2.getLast?.bind getPrimary = some leader ∧ some leader ≠ oldPrimary

theorem refuses_comparePrimary {oldPrimary : Option String} {before : List ClusterStatus} :
    Refuses (comparePrimary oldPrimary) (fun n _ => decide (10 ≤ n)) 1 before ↔
      (∀ b ∈ before, getPrimary b = oldPrimary) ∧ before.length < 10 := by
  have hlength : 1 + before.length ≤ 10 ↔ before.length < 10 := by omega
  rw [refuses_iff_length 1 before (by omega), hlength]
  simp only [comparePrimary_eq_error]

/-- When a primary that is said to have changed has changed. -/
theorem sawNewPrimary_iff (oldPrimary : Option String) (statuses : List ClusterStatus) :
    SawNewPrimary oldPrimary (primaryChanged oldPrimary statuses) ↔
      ¬ ∃ p, oldPrimary = some p ∧ LosesLeaderInTen p statuses := by
  constructor
  · intro h ⟨p, hold, before, i, after, hstatuses, hbefore, hlength, hi⟩
    have hrefuses := refuses_comparePrimary.mpr ⟨hbefore, hlength⟩
    have hok : comparePrimary (some p) i = .ok true := by
      rw [comparePrimary_eq_ok, hi]
      simp
    have hrun := retrying_returned hrefuses hok after
    rw [← hstatuses, ← hold] at hrun
    have hlast := h (by rw [primaryChanged, hrun])
    rw [primaryChanged, hrun] at hlast
    simp [hi] at hlast
  · intro h hreturned
    have hrun : primaryChanged oldPrimary statuses =
        (.returned true, (primaryChanged oldPrimary statuses).2) := Prod.ext hreturned rfl
    obtain ⟨before, i, after, hstatuses, hread, hrefuses, hok⟩ := returned_cases hrun
    rw [comparePrimary_eq_ok] at hok
    rw [hread, List.getLast?_concat, Option.bind_some]
    cases hleader : getPrimary i with
    | some leader =>
        rw [hleader] at hok
        exact ⟨leader, rfl, hok⟩
    | none =>
        exfalso
        rw [hleader] at hok
        obtain ⟨p, hp⟩ := Option.ne_none_iff_exists'.mp (Ne.symm hok)
        rw [hp, refuses_comparePrimary] at hrefuses
        exact h ⟨p, hp, before, i, after, hstatuses, hrefuses.1, hrefuses.2, hleader⟩

/-- **What a return of `switchover` or of `primary_changed` says.**  A
switchover that returns has happened if and only if a candidate was given or
the cluster does not lose its leader before another one is named; and the
same for `primary_changed`. -/
theorem switchover_happened_iff (candidate oldPrimary : Option String)
    (attempts : List Attempt) (reads : List StatusRead) (statuses : List ClusterStatus) :
    (Happened candidate (switchover candidate true attempts reads) ↔
      candidate.isSome ∨ ¬ ∃ p, AcceptedFrom p attempts ∧ LosesLeader p reads) ∧
    (SawNewPrimary oldPrimary (primaryChanged oldPrimary statuses) ↔
      ¬ ∃ p, oldPrimary = some p ∧ LosesLeaderInTen p statuses) :=
  ⟨happened_iff candidate attempts reads, sawNewPrimary_iff oldPrimary statuses⟩

/-- The primary steps down, and no unit is reachable when the status is read
again: the switchover returns, and `primary_changed` returns true. -/
theorem switchover_leaderless :
    ¬ Happened none (switchover none true
      [⟨some [⟨"postgresql-k8s-0", "leader"⟩], some ⟨200, ""⟩, 0⟩] [⟨none, 0⟩]) ∧
    ¬ SawNewPrimary (some "postgresql-k8s-0")
      (primaryChanged (some "postgresql-k8s-0") [none]) := by
  constructor
  · intro h
    obtain ⟨leader, hleader, -, -⟩ := h (by decide)
    cases hleader
  · intro h
    obtain ⟨leader, hleader, -⟩ := h (by decide)
    cases hleader

end PostgresqlK8s.Patroni
