import PostgresqlK8s.Lib.Run
import Mathlib.Data.List.Destutter

/-!
# Hba.Observer

The process that watches the databases for the rules of connections.  Each unit
has one, which the hooks of the unit start; where its unit leads the cluster it
reads the databases, and has the rules rendered again when they are not what it
read last.

What it read last is known to the process only, and what a process reads first
it takes for what the rules are for.  So a change between the last reading of one
process and the first of the next one is not seen.
-/

namespace PostgresqlK8s.Observer

open Machine

/-! ## the process -/

/-- The rows of `SELECT datname, datacl FROM pg_database`, among which is the
database of the connection. -/
structure Databases where
  rows : List (String × Option String)
  rows_ne_nil : rows ≠ []
deriving DecidableEq

/-- What the process finds when it reads the databases. -/
inductive Reading
  /-- There is no password to be read, which ends the process. -/
  | noPassword
  /-- `psycopg2.Error`. -/
  | failed
  | databases (current : Databases)
deriving DecidableEq

structure ClusterMember where
  name : String
  role : String
deriving DecidableEq, Repr

/-- What a member of the cluster answers. -/
inductive Response
  | failed
  /-- An answer without members. -/
  | empty
  | members (ms : List ClusterMember)
deriving DecidableEq, Repr

/-- A pass through the loop of `main`. -/
structure Round where
  responses : List Response
  reading : Reading
deriving DecidableEq

/-- The loop over the URLs, which ends at the first answer. -/
def clusterStatus : List Response → Option (List ClusterMember)
  | [] => none
  | .failed :: responses => clusterStatus responses
  | .empty :: _ => none
  | .members ms :: _ => some ms

/-- `check_for_database_changes`: what has been read last, and whether the event is
dispatched, unless the process ends. -/
def checkForDatabaseChanges (previous : Option Databases) :
    Reading → Option (Option Databases × Bool)
  | .noPassword => none
  | .failed => some (previous, false)
  | .databases current =>
    if previous = none then some (some current, false)
    else if some current ≠ previous then some (some current, true)
    else some (previous, false)

/-- The unit is the leader of Patroni. -/
def isPrimary (memberName : String) (ms : List ClusterMember) : Bool :=
  ms.any fun m => m.name = memberName ∧ m.role = "leader"

/-- A pass through the loop, with what had been read before it. -/
def round (memberName : String) (previous : Option Databases) (r : Round) :
    Option (Option Databases × Bool) :=
  match clusterStatus r.responses with
  | none => none
  | some ms =>
    if isPrimary memberName ms then checkForDatabaseChanges previous r.reading
    else some (previous, false)

/-- The databases for which a process dispatches the event. -/
def dispatched (memberName : String) : Option Databases → List Round → List Databases
  | _, [] => []
  | previous, r :: rounds =>
    match round memberName previous r with
    | none => []
    | some (current, true) => current.toList ++ dispatched memberName current rounds
    | some (current, false) => dispatched memberName current rounds

/-! ## what is dispatched -/

/-- What a process sees of the databases in a pass. -/
inductive Seen
  | ends
  | nothing
  | databases (current : Databases)
deriving DecidableEq

def seen (memberName : String) (r : Round) : Seen :=
  match clusterStatus r.responses with
  | none => .ends
  | some ms =>
    if isPrimary memberName ms then
      match r.reading with
      | .noPassword => .ends
      | .failed => .nothing
      | .databases current => .databases current
    else .nothing

/-- The databases that a process reads. -/
def readings (memberName : String) : List Round → List Databases
  | [] => []
  | r :: rounds =>
    match seen memberName r with
    | .ends => []
    | .nothing => readings memberName rounds
    | .databases current => current :: readings memberName rounds

section Dispatched

variable {memberName : String} {previous : Option Databases} {current : Databases} {r : Round}
  {rounds : List Round}

/-- A pass does what the process sees. -/
theorem round_eq : round memberName previous r =
    match seen memberName r with
    | .ends => none
    | .nothing => some (previous, false)
    | .databases current =>
      some (some current, decide (previous ≠ none ∧ previous ≠ some current)) := by
  rw [round, seen]
  cases clusterStatus r.responses with
  | none => rfl
  | some ms =>
    dsimp only
    by_cases hprimary : isPrimary memberName ms = true
    · rw [if_pos hprimary, if_pos hprimary]
      cases r.reading with
      | noPassword => rfl
      | failed => rfl
      | databases current =>
        rw [checkForDatabaseChanges]
        cases previous with
        | none => rfl
        | some p =>
          by_cases hsame : current = p
          · simp [hsame]
          · simp [hsame, Ne.symm hsame]
    · rw [if_neg hprimary, if_neg hprimary]

/-- A process that has read once dispatches each change of its readings. -/
theorem dispatched_some : current :: dispatched memberName (some current) rounds =
    (readings memberName rounds).destutter' (· ≠ ·) current := by
  induction rounds generalizing current with
  | nil => rfl
  | cons r rounds ih =>
    rw [dispatched, readings]
    cases h : seen memberName r with
    | ends =>
      rw [round_eq, h]
      rfl
    | nothing =>
      rw [round_eq, h]
      exact ih
    | databases next =>
      rw [round_eq, h]
      by_cases hsame : next = current
      · subst hsame
        simpa using ih
      · rw [List.destutter'_cons_pos _ (Ne.symm hsame), ← ih]
        simp [Ne.symm hsame]

/-- **Dispatching**: a process dispatches the event once for each run of equal
readings after the first one. -/
theorem dispatched_eq_destutter (memberName : String) (rounds : List Round) :
    dispatched memberName none rounds =
      ((readings memberName rounds).destutter (· ≠ ·)).tail := by
  induction rounds with
  | nil => rfl
  | cons r rounds ih =>
    rw [dispatched, readings]
    cases h : seen memberName r with
    | ends =>
      rw [round_eq, h]
      rfl
    | nothing =>
      rw [round_eq, h]
      exact ih
    | databases current =>
      rw [round_eq, h, List.destutter_cons', ← dispatched_some]
      rfl

end Dispatched

/-! ## the processes of a unit -/

/-- A unit, with the processes that its hooks have started. -/
structure ObservedUnit where
  /-- `authorisation-rules-observer-pid`. -/
  pid : Option Nat
  /-- What each process has read last. -/
  processes : List (Nat × Option Databases)
  /-- The databases of the last event, or those that the rules were made for at first. -/
  announced : Databases

inductive ObserverEvent
  /-- A hook of the unit; `ready` is whether an observer is wanted, `taken` whether
  another program has the recorded number, and a hook that fails records none. -/
  | hook (ready : Bool) (new : Nat) (taken fails : Bool)
  | round (pid : Nat) (r : Round)
  | killed (pid : Nat)

namespace ObservedUnit

variable (s : ObservedUnit)

def remove (pid : Nat) : ObservedUnit :=
  { s with processes := s.processes.filter fun process => process.1 ≠ pid }

/-- `os.kill(pid, 0)`, with the recorded number. -/
def recordedExists (taken : Bool) : Bool :=
  match s.pid with
  | none => false
  | some pid => taken || (s.processes.lookup pid).isSome

/-- `start_authorisation_rules_observer`. -/
def start (new : Nat) (taken fails : Bool) : ObservedUnit :=
  if s.recordedExists taken then s
  else
    { s with
      pid := if fails then s.pid else some new
      processes := (new, none) :: s.processes }

/-- A pass of a process through its loop. -/
def pass (memberName : String) (pid : Nat) (r : Round) : ObservedUnit :=
  match s.processes.lookup pid with
  | none => s
  | some previous =>
    match round memberName previous r with
    | none => s.remove pid
    | some (current, event) =>
      { s with
        processes := s.processes.map fun process =>
          if process.1 = pid then (pid, current) else process
        announced := if event then current.getD s.announced else s.announced }

def next (memberName : String) : ObserverEvent → ObservedUnit
  | .hook ready new taken fails => if ready then s.start new taken fails else s
  | .round pid r => s.pass memberName pid r
  | .killed pid => s.remove pid

end ObservedUnit

/-- The hooks that start a process end well. -/
def Recorded (_ : ObservedUnit) : ObserverEvent → Prop
  | .hook _ _ _ fails => fails = false
  | _ => True

/-- There is no process but the recorded one. -/
def AtMostOne (s : ObservedUnit) : Prop :=
  s.processes = [] ∨ ∃ pid previous, s.processes = [(pid, previous)] ∧ s.pid = some pid

section AtMostOne

variable {memberName : String} {s : ObservedUnit} {pid new : Nat} {r : Round}
  {taken : Bool} {announced : Databases}

/-- The end of a process leaves no more of them. -/
theorem AtMostOne.remove (h : AtMostOne s) : AtMostOne (s.remove pid) := by
  obtain h | ⟨p, previous, h, hpid⟩ := h
  · exact .inl (by rw [ObservedUnit.remove, h, List.filter_nil])
  · by_cases hp : p = pid
    · exact .inl (by simp [ObservedUnit.remove, h, hp])
    · exact .inr ⟨p, previous, by simp [ObservedUnit.remove, h, hp], hpid⟩

/-- A start whose number is recorded leaves one observer. -/
theorem AtMostOne.start (h : AtMostOne s) : AtMostOne (s.start new taken false) := by
  rw [ObservedUnit.start]
  split
  · exact h
  · next hexists =>
    obtain h | ⟨p, previous, h, hpid⟩ := h
    · exact .inr ⟨new, none, by rw [h], rfl⟩
    · exact absurd (by simp [ObservedUnit.recordedExists, hpid, h]) hexists

/-- A pass starts none. -/
theorem AtMostOne.pass (h : AtMostOne s) : AtMostOne (s.pass memberName pid r) := by
  rw [ObservedUnit.pass]
  split
  · exact h
  · next previous hlookup =>
    split
    · exact h.remove
    · next current event hround =>
      obtain h | ⟨p, previous', h, hpid⟩ := h
      · rw [h] at hlookup
        cases hlookup
      · by_cases hp : p = pid
        · exact .inr ⟨pid, current, by simp [h, hp], by rw [hpid, hp]⟩
        · exact .inr ⟨p, previous', by simp [h, hp], hpid⟩

/-- **Step**: a unit with at most one observer keeps at most one. -/
theorem AtMostOne.next (h : AtMostOne s) {e : ObserverEvent} (he : Recorded s e) :
    AtMostOne (s.next memberName e) := by
  cases e with
  | hook ready new taken fails =>
    obtain rfl : fails = false := he
    rw [ObservedUnit.next]
    split
    · exact h.start
    · exact h
  | round pid r => exact h.pass
  | killed pid => exact h.remove

end AtMostOne

instance (s : ObservedUnit) (e : ObserverEvent) : Decidable (Recorded s e) :=
  match e with
  | .hook _ _ _ fails => inferInstanceAs (Decidable (fails = false))
  | .round _ _ => .isTrue trivial
  | .killed _ => .isTrue trivial

/-- A unit whose hooks have started no process. -/
def initial (announced : Databases) : ObservedUnit := ⟨none, [], announced⟩

def oneDatabase : Databases := ⟨[("postgres", none)], by decide⟩

/-- **One observer**: where hooks that start a process end well, a unit never has two;
and after a hook that wants one it has one, unless another program has its number. -/
theorem one_observer {memberName : String} {announced : Databases} {es : List ObserverEvent}
    (hes : Along (ObservedUnit.next · memberName) Recorded (initial announced) es) :
    (run (ObservedUnit.next · memberName) (initial announced) es).processes.length ≤ 1 ∧
    ∀ new taken, ((run (ObservedUnit.next · memberName) (initial announced) es).next memberName
        (.hook true new taken false)).processes.length = 1 ∨
      taken = true ∧ (run (ObservedUnit.next · memberName) (initial announced) es).pid.isSome := by
  have hinv := run_of_along AtMostOne (fun _ _ hs he => hs.next he) (.inl rfl) hes
  generalize run (ObservedUnit.next · memberName) (initial announced) es = s at hinv ⊢
  refine ⟨?_, fun new taken => ?_⟩
  · obtain h | ⟨pid, previous, h, -⟩ := hinv
    · rw [h]
      exact Nat.zero_le 1
    · rw [h]
      exact le_rfl
  · obtain h | ⟨pid, previous, h, hpid⟩ := hinv
    · cases taken with
      | false =>
        left
        have hexists : s.recordedExists false = false := by
          rw [ObservedUnit.recordedExists, h]
          split
          · rfl
          · rfl
        simp [ObservedUnit.next, ObservedUnit.start, hexists, h]
      | true =>
        cases hpid : s.pid with
        | none => simp [ObservedUnit.next, ObservedUnit.start, ObservedUnit.recordedExists, hpid, h]
        | some pid => exact .inr ⟨rfl, rfl⟩
    · left
      simp [ObservedUnit.next, ObservedUnit.start, ObservedUnit.recordedExists, hpid, h]

/-- The hook runs twice, and once more after the process has ended. -/
theorem one_observer_restarted : (run (ObservedUnit.next · "postgresql-k8s-0")
    (initial oneDatabase)
    [.hook true 7 false false, .hook true 8 false false, .killed 7, .hook true 9 false false]
    ).processes.length ≤ 1 :=
  (one_observer (by decide)).1

/-! ## what the hooks are told -/

/-- What a process has read before a step, and what it reads in it. -/
def reads (memberName : String) (s : ObservedUnit) :
    ObserverEvent → Option (Option Databases × Databases)
  | .round pid r =>
    match s.processes.lookup pid, seen memberName r with
    | some previous, .databases current => some (previous, current)
    | _, _ => none
  | _ => none

/-- The hooks have been told of the databases that are read. -/
def ToldOf (memberName : String) (s : ObservedUnit) (e : ObserverEvent) : Prop :=
  ∀ x ∈ reads memberName s e, (s.next memberName e).announced = x.2

/-- What a process reads first is what the hooks have been told of. -/
def FirstIsKnown (memberName : String) (s : ObservedUnit) (e : ObserverEvent) : Prop :=
  ∀ x ∈ reads memberName s e, x.1 = none → x.2 = s.announced

/-- What a process has read last is what the hooks have been told of. -/
def Known (s : ObservedUnit) : Prop :=
  ∀ process ∈ s.processes, ∀ databases, process.2 = some databases → s.announced = databases

section Known

variable {memberName : String} {s : ObservedUnit} {pid new : Nat} {r : Round} {taken fails : Bool}
  {previous : Option Databases} {current : Databases}

/-- The end of a process forgets nothing of the others. -/
theorem Known.remove (h : Known s) : Known (s.remove pid) :=
  fun process hprocess => h process (List.mem_of_mem_filter hprocess)

/-- A process that starts has read nothing. -/
theorem Known.start (h : Known s) : Known (s.start new taken fails) := by
  rw [ObservedUnit.start]
  split
  · exact h
  · intro process hprocess databases hread
    obtain rfl | hprocess := List.mem_cons.mp hprocess
    · cases hread
    · exact h process hprocess databases hread

/-- A pass that reads is one of a running process and finds databases. -/
theorem reads_eq_some (hreads : reads memberName s (.round pid r) = some (previous, current)) :
    s.processes.lookup pid = some previous ∧ seen memberName r = .databases current := by
  rw [reads] at hreads
  split at hreads
  · next hlookup hseen =>
    cases hreads
    exact ⟨hlookup, hseen⟩
  · cases hreads

/-- It notes what it has read and dispatches what has changed. -/
theorem pass_of_reads (hreads : reads memberName s (.round pid r) = some (previous, current)) :
    s.pass memberName pid r = { s with
      processes := s.processes.map fun process =>
        if process.1 = pid then (pid, some current) else process
      announced :=
        if previous = none ∨ previous = some current then s.announced else current } := by
  obtain ⟨hlookup, hseen⟩ := reads_eq_some hreads
  rw [ObservedUnit.pass, hlookup]
  dsimp only
  rw [round_eq, hseen]
  by_cases hprevious : previous = none ∨ previous = some current
  · simp only [hprevious, if_true, ← not_or, not_true, decide_false, Bool.false_eq_true, if_false]
  · simp only [hprevious, if_false, ← not_or, not_false_eq_true, decide_true, if_true,
      Option.getD_some]

/-- With at most one process, the one that is found is the only one. -/
theorem processes_of_lookup (h : AtMostOne s) (hlookup : s.processes.lookup pid = some previous) :
    s.processes = [(pid, previous)] := by
  obtain h | ⟨p, previous', h, -⟩ := h
  · rw [h] at hlookup
    cases hlookup
  · rw [h, List.lookup_cons] at hlookup
    split at hlookup
    · next hp =>
      cases hlookup
      rw [h, eq_of_beq hp]
    · cases hlookup

/-- So is the one that reads. -/
theorem processes_of_reads (h : AtMostOne s)
    (hreads : reads memberName s (.round pid r) = some (previous, current)) :
    s.processes = [(pid, previous)] :=
  processes_of_lookup h (reads_eq_some hreads).1

/-- A pass in which nothing is read ends the process, or does nothing. -/
theorem pass_of_not_reads (h : AtMostOne s)
    (hreads : reads memberName s (.round pid r) = none) :
    s.pass memberName pid r = s ∨ s.pass memberName pid r = s.remove pid := by
  rw [ObservedUnit.pass]
  cases hlookup : s.processes.lookup pid with
  | none => exact .inl rfl
  | some previous =>
    dsimp only
    cases hseen : seen memberName r with
    | ends =>
      rw [round_eq, hseen]
      exact .inr rfl
    | nothing =>
      rw [round_eq, hseen]
      obtain ⟨_, processes, _⟩ := s
      obtain rfl : processes = [(pid, previous)] := processes_of_lookup h hlookup
      simp
    | databases current => simp [reads, hlookup, hseen] at hreads

/-- A reading is one that the unit is told of exactly when, as a first one, it is known. -/
theorem toldOf_iff (hone : AtMostOne s) (hknown : Known s) {e : ObserverEvent} :
    ToldOf memberName s e ↔ FirstIsKnown memberName s e := by
  refine forall₂_congr fun x hx => ?_
  obtain ⟨previous, current⟩ := x
  cases e with
  | hook ready new taken fails => cases hx
  | killed pid => cases hx
  | round pid r =>
    have hprocesses := processes_of_reads hone hx
    rw [ObservedUnit.next, pass_of_reads hx]
    cases previous with
    | none => simp [eq_comm]
    | some p =>
      have hmem : (pid, some p) ∈ s.processes := by
        rw [hprocesses]
        exact List.mem_singleton.mpr rfl
      by_cases hsame : p = current
      · subst hsame
        simp [hknown _ hmem p rfl]
      · simp [hsame]

/-- **Step**: while first readings are known, what a process has read last is what the unit
was told of. -/
theorem Known.next (hknown : Known s) (hone : AtMostOne s) {e : ObserverEvent}
    (he : FirstIsKnown memberName s e) : Known (s.next memberName e) := by
  cases e with
  | hook ready new taken fails =>
    rw [ObservedUnit.next]
    split
    · exact hknown.start
    · exact hknown
  | killed pid => exact hknown.remove
  | round pid r =>
    cases hreads : reads memberName s (.round pid r) with
    | none =>
      rw [ObservedUnit.next]
      obtain hsame | hremove := pass_of_not_reads hone hreads
      · rwa [hsame]
      · rw [hremove]
        exact hknown.remove
    | some x =>
      have htold := (toldOf_iff hone hknown).mpr he x hreads
      have hprocesses := processes_of_reads hone hreads
      intro process hprocess databases hread
      rw [htold]
      rw [ObservedUnit.next, pass_of_reads hreads, hprocesses, List.map_singleton, if_pos rfl,
        List.mem_singleton] at hprocess
      rw [hprocess] at hread
      exact Option.some.inj hread

end Known

/-- **What the hooks are told**: where hooks that start a process end well, the hooks
have been told of the databases after every reading, exactly when what each process
reads first is what they had been told of before. -/
theorem told_of_every_reading_iff {memberName : String} {announced : Databases}
    {es : List ObserverEvent} :
    Along (ObservedUnit.next · memberName) (fun s e => Recorded s e ∧ ToldOf memberName s e)
        (initial announced) es ↔
      Along (ObservedUnit.next · memberName)
        (fun s e => Recorded s e ∧ FirstIsKnown memberName s e) (initial announced) es :=
  along_congr (fun s => AtMostOne s ∧ Known s)
    (fun _ _ hs he => ⟨hs.1.next he.1, hs.2.next hs.1 he.2⟩)
    (fun _ _ hs => and_congr_right fun _ => toldOf_iff hs.1 hs.2)
    ⟨.inl rfl, fun _ h => by cases h⟩

/-- The databases have been what they are now for as long as there have been processes. -/
def Steady (d announced : Databases) (s : ObservedUnit) : Prop :=
  s.announced = announced ∧ ∀ process ∈ s.processes, process.2 = none ∨ process.2 = some d

section Steady

variable {memberName : String} {s : ObservedUnit} {d announced : Databases}

/-- The end of a process reads nothing. -/
theorem Steady.remove (h : Steady d announced s) (pid : Nat) :
    Steady d announced (s.remove pid) :=
  ⟨h.1, fun process hprocess => h.2 process (List.mem_of_mem_filter hprocess)⟩

/-- A process that has read nothing, or the same databases, keeps it so. -/
theorem Steady.read (h : Steady d announced s) (pid : Nat) {current : Option Databases}
    (hcurrent : current = none ∨ current = some d) :
    Steady d announced { s with processes := s.processes.map fun process =>
      if process.1 = pid then (pid, current) else process } := by
  refine ⟨h.1, fun process hprocess => ?_⟩
  obtain ⟨old, hold, rfl⟩ := List.mem_map.mp hprocess
  split
  · exact hcurrent
  · exact h.2 old hold

/-- Reading the same databases again dispatches nothing. -/
theorem Steady.pass (h : Steady d announced s) {pid : Nat} {r : Round}
    (he : ∀ x ∈ reads memberName s (.round pid r), x.2 = d) :
    Steady d announced (s.pass memberName pid r) := by
  rw [ObservedUnit.pass]
  cases hlookup : s.processes.lookup pid with
  | none => exact h
  | some previous =>
    obtain ⟨before, after, hsplit, -⟩ := List.lookup_eq_some_iff.mp hlookup
    have hprevious : previous = none ∨ previous = some d :=
      h.2 (pid, previous) (by rw [hsplit]; exact List.mem_append_right _ List.mem_cons_self)
    dsimp only
    rw [round_eq]
    cases hseen : seen memberName r with
    | ends => exact h.remove pid
    | nothing => exact h.read pid hprevious
    | databases current =>
      obtain rfl : current = d := he (previous, current) (by simp [reads, hlookup, hseen])
      have hsame : ¬(previous ≠ none ∧ previous ≠ some current) := by
        rw [← not_or, not_not]
        exact hprevious
      simp only [decide_eq_false hsame]
      exact h.read pid (.inr rfl)

/-- **Step**: as long as the databases stay, nothing is announced. -/
theorem Steady.next (h : Steady d announced s) {e : ObserverEvent}
    (he : ∀ x ∈ reads memberName s e, x.2 = d) : Steady d announced (s.next memberName e) := by
  cases e with
  | hook ready new taken fails =>
    rw [ObservedUnit.next]
    split
    · rw [ObservedUnit.start]
      split
      · exact h
      · exact ⟨h.1, List.forall_mem_cons.mpr ⟨.inl rfl, h.2⟩⟩
    · exact h
  | killed pid => exact h.remove pid
  | round pid r => exact h.pass he

end Steady

/-- **A change that is not seen**: where the databases are not what the hooks have been
told of when the first process reads them, the hooks are not told, however often they
are read and processes end and start, until the databases change once more. -/
theorem told_nothing {memberName : String} {d announced : Databases} {es : List ObserverEvent}
    (hes : Along (ObservedUnit.next · memberName)
      (fun s e => ∀ x ∈ reads memberName s e, x.2 = d) (initial announced) es) :
    (run (ObservedUnit.next · memberName) (initial announced) es).announced = announced := by
  have hinv := run_of_along (Steady d announced) (fun _ _ hs he => hs.next he)
    ⟨rfl, fun _ h => by cases h⟩ hes
  exact hinv.1

/-- The leader reads the databases. -/
def leaderReads (databases : Databases) : Round :=
  ⟨[.failed, .members [⟨"postgresql-k8s-0", "leader"⟩]], .databases databases⟩

def twoDatabases : Databases := ⟨[("postgres", none), ("app", some "{app=c/app}")], by decide⟩

/-- The first process is killed, and the second one reads what it had read. -/
def replacedObserver : List ObserverEvent :=
  [.hook true 7 false false, .round 7 (leaderReads twoDatabases), .killed 7,
    .hook true 8 false false, .round 8 (leaderReads twoDatabases), .hook true 9 false false]

/-- The observer is replaced by one that reads the same databases. -/
theorem told_nothing_replaced : (run (ObservedUnit.next · "postgresql-k8s-0")
    (initial oneDatabase) replacedObserver).announced = oneDatabase :=
  told_nothing (d := twoDatabases) (by decide)

end PostgresqlK8s.Observer
