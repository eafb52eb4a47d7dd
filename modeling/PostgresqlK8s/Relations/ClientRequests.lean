import PostgresqlK8s.Relations.ClientUsers

/-!
# Relations.ClientRequests

What becomes of the request of a client.  The leader stores what it has seen of
the databag before it handles the request, so a request is not found again: it
has been answered, or the leader has it deferred.

A leader that is replaced takes its deferred requests with it.  When it handles
one then, it creates the user and shares nothing, and no other unit does.
-/

namespace PostgresqlK8s.Relations.ClientUsers

open Machine

namespace Provider

/-- What is asked of the cluster and the clients: no creation fails with an error
that is caught, a client keeps what it asks for, a leader that is replaced has no
deferred request, and a relation is new. -/
def Keeps (s : Provider) : Event → Prop
  | .relationCreated r =>
    (∀ u, s.deferred u r = 0) ∧ ∀ u, s.broken u r = false
  | .clientWrites r remote => ∀ c, s.client r = some c →
      ∀ key ∈ ["database", "entity-type"], c.remote.contains key = true → remote.contains key = true
  | .relationChanged _ _ _ x | .deferredRequest _ _ x =>
    x.createUser = .returns ∧ x.createDatabase ≠ .raises
  | .leaderElected u => u ≠ s.leader → ∀ r, s.deferred s.leader r = 0
  | _ => True

/-- The client still asks for what is stored. -/
def Stored (c : Client) : Prop :=
  ∀ key ∈ ["database", "entity-type"], c.data key ≠ none → c.remote.contains key = true

/-- The request of a client, with the password of its user and the requests that
the leader has deferred. -/
structure ClientServed (c : Client) (password : Option String) (deferred : Nat) : Prop where
  stored : Stored c
  unseen : c.data "database" = none → c.shared = none ∧ deferred = 0
  pending : deferred ≠ 0 → c.shared = none
  shares : ∀ p, c.shared = some p → password = some p
  answered : c.data "database" ≠ none → c.data "entity-type" = none →
    c.shared ≠ none ∨ deferred ≠ 0

/-- The invariant, of one relation. -/
structure Served (s : Provider) (r : Nat) : Prop where
  held : ∀ u, s.deferred u r ≠ 0 → u = s.leader ∧ s.deferred u r = 1
  broken : ∀ c, s.client r = some c → ∀ u, s.broken u r = false
  client : ∀ c, s.client r = some c → ClientServed c (s.password r) (s.deferred s.leader r)

variable {s t : Provider} {n u r r' : Nat} {c : Client} {x : RequestAnswers} {y : BrokenAnswers}
  {e : Event}

/-- What is left alone is as before. -/
theorem Served.frame (hs : Served s r) (hleader : t.leader = s.leader)
    (hclient : t.client r = s.client r) (hpassword : t.password r = s.password r)
    (hdeferred : ∀ v, t.deferred v r = s.deferred v r)
    (hbroken : ∀ v, t.broken v r = s.broken v r) : Served t r where
  held v := by
    rw [hdeferred, hleader]
    exact hs.held v
  broken := by
    simp only [hclient, hbroken]
    exact hs.broken
  client := by
    rw [hclient, hpassword, hleader, hdeferred]
    exact hs.client

/-- What concerns another relation serves this one as before. -/
theorem Touches.served (h : Touches r s t) (hr : r' ≠ r) (hs : Served s r') : Served t r' :=
  hs.frame h.leader (h.client r' hr) (h.password r' hr) (fun v => h.deferred v r' hr)
    (fun v => by rw [h.broken])

/-! ## a request -/

/-- How the leader ends with a request, where no error is caught. -/
inductive Requested (s : Provider) (r : Nat) : Provider × Ending → Prop
  | defers : Requested s r (s, .defers)
  | raises (t : Provider) : Requested s r (t, .raises)
  | done (c : Client) (hc : s.client r = some c) (p : String) :
      Requested s r ((s.setPassword r (some p)).setClient r (some { c with shared := some p }),
        .done)

/-- A request that the leader handles without an error is served. -/
theorem requested (hleader : s.leader = u)
    (hdatabase : ∀ c, s.client r = some c → c.remote.contains "database" = true)
    (huser : x.createUser = .returns) (hcreated : x.createDatabase ≠ .raises) :
    Requested s r (s.onDatabaseRequested u r x) := by
  unfold onDatabaseRequested
  split
  · exact .defers
  split
  · exact .raises s
  split
  · exact .defers
  rw [huser]
  simp only
  cases hx : x.createDatabase with
  | raises => exact absurd hx hcreated
  | raisesOther => exact .raises _
  | returns =>
    simp only
    cases hc : s.client r with
    | none =>
      have hnone : (s.setPassword r (some x.newPassword)).setCredentials u r x.newPassword =
          none := by
        simp [setCredentials, setPassword, hleader, hc]
      simp only [hnone]
      exact .raises _
    | some c =>
      have hshare : (s.setPassword r (some x.newPassword)).setCredentials u r x.newPassword =
          some ((s.setPassword r (some x.newPassword)).setClient r
            (some { c with shared := some x.newPassword })) := by
        simp [setCredentials, setPassword, hleader, hc, hdatabase c hc]
      simp only [hshare]
      split
      · exact .raises _
      · exact .done c hc x.newPassword

/-- One more request is deferred, at this unit. -/
theorem deferred_deferRequest (s : Provider) (u v r : Nat) :
    (s.deferRequest u r).deferred v r = if v = u then s.deferred u r + 1 else s.deferred v r := by
  by_cases hv : v = u
  · simp [deferRequest, hv]
  · simp [deferRequest, hv]

/-- One less is. -/
theorem deferred_takeRequest (s : Provider) (u v r : Nat) :
    (s.takeRequest u r).deferred v r = if v = u then s.deferred u r - 1 else s.deferred v r := by
  by_cases hv : v = u
  · simp [takeRequest, hv]
  · simp [takeRequest, hv]

/-- A hook that fails for a client that has no credentials. -/
theorem Served.failHook (hs : Served s r) (hnone : ∀ c, s.client r = some c → c.shared = none) :
    Served (s.failHook t) r where
  held := hs.held
  broken := hs.broken
  client c hc := by
    obtain ⟨hstored, hunseen, hpending, -, hanswered⟩ := hs.client c hc
    refine ⟨hstored, hunseen, hpending, fun p hp => ?_, hanswered⟩
    rw [hnone c hc] at hp
    cases hp

/-! ## relation_changed -/

/-- What is remembered of a request is what the client has written. -/
theorem newData_eq (c : Client) {key : String} (h : key ∈ ["database", "entity-type"]) :
    c.newData key = c.remote.get key := by
  have hne : key ≠ "data" := by
    rintro rfl
    revert h
    decide
  rw [Client.newData, if_neg hne]

theorem contains_iff (d : Databag String) (key : String) :
    d.contains key = true ↔ d.get key ≠ none := by
  rw [Databag.contains, Option.isSome_iff_ne_none]

/-- So it is right from the first look on. -/
theorem stored_newData (c : Client) : Stored { c with data := c.newData } := by
  intro key hkey (hdata : c.newData key ≠ none)
  rw [newData_eq c hkey] at hdata
  exact (contains_iff _ _).mpr hdata

/-- A relation that has the request deferred. -/
theorem ClientServed.deferred {password : Option String} (hstored : Stored c)
    (hdata : c.data "database" ≠ none) (hnone : c.shared = none) :
    ClientServed c password 1 where
  stored := hstored
  unseen h := absurd h hdata
  pending _ := hnone
  shares p hp := by
    rw [hnone] at hp
    cases hp
  answered _ _ := .inr Nat.one_ne_zero

/-- A relation that has been answered. -/
theorem ClientServed.done (p : String)
    (hstored : Stored c) (hdata : c.data "database" ≠ none) :
    ClientServed { c with shared := some p } (some p) 0 where
  stored := hstored
  unseen h := absurd h hdata
  pending h := absurd rfl h
  shares _ hp := hp
  answered _ _ := .inl (Option.some_ne_none p)

/-- Nothing is requested: the data is stored. -/
theorem ClientServed.store {password : Option String} {deferred : Nat}
    (hc : ClientServed c password deferred)
    (hquiet : ((diff c.data c.newData).added "database" &&
      !(diff c.data c.newData).added "entity-type") = false) :
    ClientServed { c with data := c.newData } password deferred where
  stored := stored_newData c
  unseen (hnone : c.newData "database" = none) := by
    rw [newData_eq c (by decide)] at hnone
    refine hc.unseen (by_contra fun hdata => ?_)
    exact (contains_iff _ _).mp (hc.stored "database" (by decide) hdata) hnone
  pending := hc.pending
  shares := hc.shares
  answered (hdata : c.newData "database" ≠ none) (hentity : c.newData "entity-type" = none) := by
    have hentity' : c.data "entity-type" = none := by
      rw [newData_eq c (by decide)] at hentity
      by_contra hne
      exact (contains_iff _ _).mp (hc.stored "entity-type" (by decide) hne) hentity
    refine hc.answered (fun hnone => ?_) hentity'
    simp [diff, Option.isSome_iff_ne_none.mpr hdata, hnone, hentity] at hquiet

/-- A request that is deferred once is not lost. -/
theorem served_deferRequest (hleader : s.leader = u) (hfree : ∀ v, s.deferred v r = 0)
    (hbroken : ∀ v, s.broken v r = false) (hc : s.client r = some c)
    (hstored : Stored c) (hdata : c.data "database" ≠ none) (hnone : c.shared = none) :
    Served (s.deferRequest u r) r := by
  refine ⟨fun v hv => ?_, fun _ _ => hbroken, fun c' hc' => ?_⟩
  · rw [deferred_deferRequest] at hv ⊢
    split at hv
    · next hvu => exact ⟨hvu.trans hleader.symm, by simp [hvu, hfree]⟩
    · exact absurd (hfree v) hv
  · cases hc.symm.trans hc'
    have hone : (s.deferRequest u r).deferred s.leader r = 1 := by
      simp [deferred_deferRequest, hleader, hfree]
    exact hone ▸ .deferred hstored hdata hnone

/-- Nor is one whose password is shared. -/
theorem served_share (hfree : ∀ v, s.deferred v r = 0) (hbroken : ∀ v, s.broken v r = false)
    (hstored : Stored c) (hdata : c.data "database" ≠ none) (p : String) :
    Served ((s.setPassword r (some p)).setClient r (some { c with shared := some p })) r := by
  refine ⟨fun v hv => absurd (hfree v) hv, fun _ _ => hbroken, fun c' hc' => ?_⟩
  simp only [setClient, setPassword, Function.update_self, hfree, Option.some.injEq] at hc' ⊢
  exact hc' ▸ .done p hstored hdata

/-- **Step**: a changed relation is served. -/
theorem Served.onRelationChanged {decodes : Bool} (hs : Served s r)
    (huser : x.createUser = .returns) (hcreated : x.createDatabase ≠ .raises) :
    Served (s.onRelationChanged u r decodes x) r := by
  unfold Provider.onRelationChanged
  split
  · exact hs
  next c hc =>
  split
  · exact hs
  split
  · exact hs
  next hleader =>
  have hleader := not_not.mp hleader
  simp only
  split
  · exact hs
  have hserved := hs.client c hc
  -- the relation with its data stored
  generalize ht : s.setClient r (some { c with data := c.newData }) = t
  have hclient : t.client r = some { c with data := c.newData } := by
    rw [← ht]
    exact Function.update_self ..
  split
  · next hadded =>
    simp only [diff, Bool.and_eq_true, Option.isNone_iff_eq_none] at hadded
    obtain ⟨⟨hdata, hnew⟩, -⟩ := hadded
    have hdata : c.newData "database" ≠ none := Option.isSome_iff_ne_none.mp hdata
    obtain ⟨hnone, hzero⟩ := hserved.unseen hnew
    have hfree : ∀ v, t.deferred v r = 0 := by
      intro v
      by_contra hv
      rw [← ht] at hv
      exact hv ((hs.held v hv).1 ▸ hzero)
    have hbroken : ∀ v, t.broken v r = false := ht ▸ hs.broken c hc
    have hleader' : t.leader = u := ht ▸ hleader
    have hrequest := requested (x := x) hleader' (fun c' hc' => by
      cases hclient.symm.trans hc'
      exact stored_newData c "database" (by decide) hdata) huser hcreated
    generalize t.onDatabaseRequested u r x = out at hrequest
    cases hrequest with
    | defers =>
      exact served_deferRequest hleader' hfree hbroken hclient (stored_newData c) hdata hnone
    | raises t =>
      refine hs.failHook fun c' hc' => ?_
      cases hc.symm.trans hc'
      exact hnone
    | done c' hc' p =>
      cases hclient.symm.trans hc'
      exact served_share hfree hbroken (stored_newData c) hdata p
  · next hquiet =>
    subst ht
    refine ⟨hs.held, fun _ _ => hs.broken c hc, fun c' hc' => ?_⟩
    cases hclient.symm.trans hc'
    exact hserved.store (by simpa using hquiet)

/-! ## a deferred request -/

/-- **Step**: so is a request that is handled again. -/
theorem Served.onDeferredRequest (hs : Served s r) (huser : x.createUser = .returns)
    (hcreated : x.createDatabase ≠ .raises) : Served (s.onDeferredRequest u r x) r := by
  unfold Provider.onDeferredRequest
  split
  · exact hs
  next hdeferred =>
  obtain ⟨hleader, hone⟩ := hs.held u hdeferred
  have hfree : ∀ v, (s.takeRequest u r).deferred v r = 0 := by
    intro v
    rw [deferred_takeRequest]
    split
    · simp [hone]
    · next hv =>
      by_contra hne
      exact hv ((hs.held v hne).1.trans hleader.symm)
  have hdata : ∀ c, s.client r = some c → c.data "database" ≠ none := fun c hc h =>
    hdeferred (hleader ▸ ((hs.client c hc).unseen h).2)
  have hrequest := requested (x := x) hleader.symm
    (fun c hc => (hs.client c hc).stored "database" (by decide) (hdata c hc)) huser hcreated
  generalize s.onDatabaseRequested u r x = out at hrequest
  cases hrequest with
  | defers => exact hs
  | raises t => exact hs.failHook fun c hc => (hs.client c hc).pending (hleader ▸ hdeferred)
  | done c hc p =>
    exact served_share (s := s.takeRequest u r) hfree (hs.broken c hc) (hs.client c hc).stored
      (hdata c hc) p

/-! ## the events -/

/-- A relation that is not there. -/
theorem served_gone (hheld : ∀ u, s.deferred u r ≠ 0 → u = s.leader ∧ s.deferred u r = 1)
    (hnone : s.client r = none) : Served s r where
  held := hheld
  broken c hc := by
    rw [hnone] at hc
    cases hc
  client c hc := by
    rw [hnone] at hc
    cases hc

/-- A new relation has asked for nothing yet. -/
theorem served_relationCreated (hfree : ∀ u, s.deferred u r = 0)
    (hbroken : ∀ u, s.broken u r = false) :
    Served (s.setClient r (some ⟨∅, fun _ => none, none⟩)) r where
  held u hu := absurd (hfree u) hu
  broken _ _ := hbroken
  client c hc := by
    simp only [setClient, Function.update_self, Option.some.injEq] at hc
    subst hc
    refine ⟨fun _ _ h => absurd rfl h, fun _ => ⟨rfl, hfree _⟩, fun _ => rfl, fun p hp => ?_,
      fun h => absurd rfl h⟩
    cases hp

/-- A client that keeps what it asked for is served as before. -/
theorem Served.clientWrites {remote : Databag String} (hs : Served s r) (hc : s.client r = some c)
    (hkeeps : ∀ key ∈ ["database", "entity-type"], c.remote.contains key = true →
      remote.contains key = true) :
    Served (s.setClient r (some { c with remote := remote })) r where
  held := hs.held
  broken _ _ := hs.broken c hc
  client c' hc' := by
    simp only [setClient, Function.update_self, Option.some.injEq] at hc'
    subst hc'
    obtain ⟨hstored, hunseen, hpending, hshares, hanswered⟩ := hs.client c hc
    exact ⟨fun key hkey hdata => hkeeps key hkey (hstored key hkey hdata), hunseen, hpending,
      hshares, hanswered⟩

theorem broken_takeBroken (s : Provider) (v : Nat) (hr : r' ≠ r) :
    (s.takeBroken u r).broken v r' = s.broken v r' := by
  by_cases hv : v = u
  · simp [takeBroken, hv, hr]
  · simp [takeBroken, hv]

/-- The end of a relation leaves the databags and the deferred requests. -/
theorem onRelationBroken_client : (s.onRelationBroken u r y).client = s.client ∧
    (s.onRelationBroken u r y).leader = s.leader ∧
    (s.onRelationBroken u r y).deferred = s.deferred := by
  unfold Provider.onRelationBroken
  split_ifs <;> exact ⟨rfl, rfl, rfl⟩

/-- It leaves the passwords of the other relations. -/
theorem onRelationBroken_of_ne (hr : r' ≠ r) :
    (s.onRelationBroken u r y).password r' = s.password r' ∧
      ∀ v, (s.onRelationBroken u r y).broken v r' = s.broken v r' := by
  have hpassword : (s.setPassword r none).password r' = s.password r' := Function.update_of_ne hr ..
  have htake (t : Provider) (v : Nat) : (t.takeBroken u r).broken v r' = t.broken v r' :=
    broken_takeBroken t v hr
  unfold Provider.onRelationBroken
  split_ifs
  · exact ⟨rfl, fun _ => rfl⟩
  · exact ⟨rfl, fun _ => rfl⟩
  · exact ⟨rfl, htake s⟩
  · exact ⟨rfl, fun _ => rfl⟩
  · exact ⟨rfl, htake s⟩
  · exact ⟨rfl, fun _ => rfl⟩
  · exact ⟨hpassword, htake (s.setPassword r none)⟩
  · exact ⟨hpassword, fun _ => rfl⟩
  · exact ⟨rfl, htake s⟩
  · exact ⟨rfl, fun _ => rfl⟩

/-- The removal of a relation is handled when it is gone. -/
theorem served_onRelationBroken (hs : ∀ r, Served s r) (r' : Nat) :
    Served (s.onRelationBroken u r y) r' := by
  obtain ⟨hclient, hleader, hdeferred⟩ := onRelationBroken_client (s := s) (u := u) (r := r) (y := y)
  obtain rfl | hne := eq_or_ne r' r
  · cases hc : s.client r' with
    | none =>
      refine served_gone ?_ (by rw [hclient, hc])
      rw [hleader, hdeferred]
      exact (hs r').held
    | some c =>
      -- there is no such event yet
      have hbroken := (hs r').broken c hc u
      have hsame : s.onRelationBroken u r' y = s := by
        simp [Provider.onRelationBroken, hbroken]
      rw [hsame]
      exact hs r'
  · obtain ⟨hpassword, hbroken⟩ := onRelationBroken_of_ne (s := s) (u := u) (y := y) hne
    exact (hs r').frame hleader (by rw [hclient]) hpassword (fun v => by rw [hdeferred]) hbroken

/-- A leader that has nothing deferred can be replaced. -/
theorem Served.leaderElected (hs : Served s r) (h : u ≠ s.leader → ∀ r, s.deferred s.leader r = 0) :
    Served { s with leader := u } r := by
  obtain rfl | hne := eq_or_ne u s.leader
  · exact hs
  have hfree : ∀ v, s.deferred v r = 0 := by
    intro v
    by_contra hv
    exact hv ((hs.held v hv).1 ▸ h hne r)
  refine ⟨fun v hv => absurd (hfree v) hv, hs.broken, fun c hc => ?_⟩
  have hserved := hs.client c hc
  rw [hfree] at hserved
  exact (hfree u).symm ▸ hserved

/-- **Step**: every event keeps all relations served. -/
theorem served_next (hs : ∀ r, Served s r) (he : Keeps s e) : ∀ r, Served (next n s e) r := by
  intro r'
  cases e with
  | relationCreated r =>
    rw [next]
    split
    · next hc =>
      obtain rfl | hne := eq_or_ne r' r
      · exact served_relationCreated he.1 he.2
      · exact (hs r').frame rfl (Function.update_of_ne hne ..) rfl (fun _ => rfl) (fun _ => rfl)
    · exact hs r'
  | clientWrites r remote =>
    rw [next]
    split
    · exact hs r'
    · next c hc =>
      obtain rfl | hne := eq_or_ne r' r
      · exact (hs r').clientWrites hc (he c hc)
      · exact (touches_setClient hc).served hne (hs r')
  | relationChanged u r decodes x =>
    rw [next]
    split
    · obtain rfl | hne := eq_or_ne r' r
      · exact (hs r').onRelationChanged he.1 he.2
      · exact touches_onRelationChanged.served hne (hs r')
    · exact hs r'
  | deferredRequest u r x =>
    rw [next]
    split
    · obtain rfl | hne := eq_or_ne r' r
      · exact (hs r').onDeferredRequest he.1 he.2
      · exact touches_onDeferredRequest.served hne (hs r')
    · exact hs r'
  | relationRemoved r =>
    rw [next]
    split
    · exact hs r'
    · obtain rfl | hne := eq_or_ne r' r
      · exact served_gone (hs r').held (Function.update_self ..)
      · exact (hs r').frame rfl (Function.update_of_ne hne ..) rfl (fun _ => rfl)
          (fun _ => if_neg hne)
  | relationBroken u r y =>
    rw [next]
    split
    · exact served_onRelationBroken hs r'
    · exact hs r'
  | unitDeparts u => exact (hs r').frame rfl rfl rfl (fun _ => rfl) (fun _ => rfl)
  | leaderElected u =>
    rw [next]
    split
    · exact (hs r').leaderElected he
    · exact hs r'

/-- **Requests**: a client whose request the leader has seen has the password of
its user, or the leader has its request deferred, once, and no other unit has
it. -/
theorem request_kept {leader : Nat} {es : List Event}
    (hes : Along (next n) Keeps (initial leader) es)
    (hc : (run (next n) (initial leader) es).client r = some c)
    (hdatabase : c.data "database" ≠ none) (hentity : c.data "entity-type" = none) :
    (∃ p, c.shared = some p ∧ (run (next n) (initial leader) es).password r = some p ∧
      ∀ u, (run (next n) (initial leader) es).deferred u r = 0) ∨
    c.shared = none ∧ ∀ u, (run (next n) (initial leader) es).deferred u r =
      if u = (run (next n) (initial leader) es).leader then 1 else 0 := by
  have hinit : ∀ r, Served (initial leader) r := fun r => served_gone (fun _ h => absurd rfl h) rfl
  have hserved := run_of_along (fun s => ∀ r, Served s r)
    (fun _ _ hs he => served_next (n := n) hs he) hinit hes r
  generalize run (next n) (initial leader) es = s at hc hserved ⊢
  obtain ⟨-, -, hpending, hshares, hanswered⟩ := hserved.client c hc
  have hother : ∀ u, u ≠ s.leader → s.deferred u r = 0 := fun u hu => by
    by_contra h
    exact hu (hserved.held u h).1
  by_cases hdeferred : s.deferred s.leader r = 0
  · left
    have hshared := (hanswered hdatabase hentity).resolve_right (not_not.mpr hdeferred)
    obtain ⟨p, hp⟩ := Option.ne_none_iff_exists'.mp hshared
    refine ⟨p, hp, hshares p hp, fun u => ?_⟩
    obtain rfl | hu := eq_or_ne u s.leader
    · exact hdeferred
    · exact hother u hu
  · right
    refine ⟨hpending hdeferred, fun u => ?_⟩
    split
    · next hu => exact hu ▸ (hserved.held s.leader hdeferred).2
    · next hu => exact hother u hu

/-- The cluster is not ready. -/
def notReady : RequestAnswers := { goodAnswers "" with clusterReady := false }

/-- The second leader defers a request, and has a hook that fails before it
answers it. -/
def deferredAndAnswered : List Event :=
  [.leaderElected 1, .relationCreated 4, .clientWrites 4 askingClient,
    .relationChanged 1 4 true notReady,
    .deferredRequest 1 4 { goodAnswers "first" with configUpdatedAgain := false },
    .deferredRequest 1 4 (goodAnswers "second")]

/-- A client that has asked for nothing. -/
theorem keeps_new {remote : Databag String} (hc : s.client r = some ⟨∅, fun _ => none, none⟩) :
    Keeps s (.clientWrites r remote) := by
  intro c hc' key _ h
  cases hc.symm.trans hc'
  cases h

/-- A request that is deferred, and answered later. -/
theorem request_kept_second :
    (∃ p, some "second" = some p ∧
      (run (next 3) (initial 0) deferredAndAnswered).password 4 = some p ∧
      ∀ u, (run (next 3) (initial 0) deferredAndAnswered).deferred u 4 = 0) ∨
    some "second" = none ∧ ∀ u, (run (next 3) (initial 0) deferredAndAnswered).deferred u 4 =
      if u = (run (next 3) (initial 0) deferredAndAnswered).leader then 1 else 0 :=
  request_kept (c := ⟨askingClient, (Client.mk askingClient (fun _ => none) none).newData,
      some "second"⟩)
    ⟨fun _ _ => rfl, ⟨fun _ => rfl, fun _ => rfl⟩, keeps_new rfl, ⟨rfl, by decide⟩,
      ⟨rfl, by decide⟩, ⟨rfl, by decide⟩, trivial⟩
    rfl (by decide) (by decide)

/-! ## requests that are dropped -/

/-- The leader has seen the request of the relation, and nobody has it. -/
structure Dropped (s : Provider) (r : Nat) : Prop where
  free : ∀ u, s.deferred u r = 0
  client : ∀ c, s.client r = some c →
    c.data "database" ≠ none ∧ c.remote.contains "database" = true ∧ c.shared = none

/-- The client does not take its request back, and its relation stays the same. -/
def StillAsks (r : Nat) : Event → Prop
  | .relationCreated r' => r' ≠ r
  | .clientWrites r' remote => r' = r → remote.contains "database" = true
  | _ => True

instance (r : Nat) (e : Event) : Decidable (StillAsks r e) := by
  cases e <;> simp only [StillAsks] <;> infer_instance

/-- What leaves databags and deferred requests leaves a dropped request dropped. -/
theorem Dropped.frame (hs : Dropped s r) (hclient : t.client r = s.client r)
    (hdeferred : ∀ v, t.deferred v r = s.deferred v r) : Dropped t r where
  free v := (hdeferred v).trans (hs.free v)
  client := by
    rw [hclient]
    exact hs.client

theorem Touches.dropped (h : Touches r' s t) (hr : r ≠ r') (hs : Dropped s r) : Dropped t r :=
  hs.frame (h.client r hr) fun v => h.deferred v r hr

/-- What has been seen is not requested again. -/
theorem Dropped.onRelationChanged {decodes : Bool} (hs : Dropped s r) :
    Dropped (s.onRelationChanged u r decodes x) r := by
  unfold Provider.onRelationChanged
  split
  · exact hs
  next c hc =>
  split
  · exact hs
  split
  · exact hs
  simp only
  split
  · exact hs
  obtain ⟨hdata, hasks, hnone⟩ := hs.client c hc
  split
  · next hadded =>
    simp only [diff, Bool.and_eq_true, Option.isNone_iff_eq_none] at hadded
    exact absurd hadded.1.2 hdata
  · refine ⟨hs.free, fun c' hc' => ?_⟩
    simp only [setClient, Function.update_self, Option.some.injEq] at hc'
    subst hc'
    have hnew : c.newData "database" ≠ none := by
      rw [newData_eq c (by decide)]
      exact (contains_iff _ _).mp hasks
    exact ⟨hnew, hasks, hnone⟩

/-- **Step**: a dropped request stays dropped while the client keeps asking. -/
theorem dropped_next (hs : Dropped s r) (he : StillAsks r e) : Dropped (next n s e) r := by
  cases e with
  | relationCreated r' =>
    rw [next]
    split
    · exact hs.frame (Function.update_of_ne (Ne.symm he) ..) (fun _ => rfl)
    · exact hs
  | clientWrites r' remote =>
    rw [next]
    split
    · exact hs
    · next c hc =>
      obtain rfl | hne := eq_or_ne r r'
      · refine ⟨hs.free, fun c' hc' => ?_⟩
        simp only [setClient, Function.update_self, Option.some.injEq] at hc'
        subst hc'
        obtain ⟨hdata, -, hnone⟩ := hs.client c hc
        exact ⟨hdata, he rfl, hnone⟩
      · exact (touches_setClient hc).dropped hne hs
  | relationChanged u r' decodes x =>
    rw [next]
    split
    · obtain rfl | hne := eq_or_ne r r'
      · exact hs.onRelationChanged
      · exact touches_onRelationChanged.dropped hne hs
    · exact hs
  | deferredRequest u r' x =>
    rw [next]
    split
    · obtain rfl | hne := eq_or_ne r r'
      · rw [Provider.onDeferredRequest, if_pos (hs.free u)]
        exact hs
      · exact touches_onDeferredRequest.dropped hne hs
    · exact hs
  | relationRemoved r' =>
    rw [next]
    split
    · exact hs
    · obtain rfl | hne := eq_or_ne r r'
      · refine ⟨hs.free, fun c hc => ?_⟩
        simp only [setClient, Function.update_self] at hc
        cases hc
      · exact hs.frame (Function.update_of_ne hne ..) (fun _ => rfl)
  | relationBroken u r' y =>
    rw [next]
    split
    · obtain ⟨hclient, -, hdeferred⟩ := onRelationBroken_client (s := s) (u := u) (r := r') (y := y)
      exact hs.frame (by rw [hclient]) (fun v => by rw [hdeferred])
    · exact hs
  | unitDeparts u => exact hs.frame rfl (fun _ => rfl)
  | leaderElected u =>
    rw [next]
    split
    · exact hs.frame rfl (fun _ => rfl)
    · exact hs

/-- A unit that is not the leader shares nothing, and neither does one that catches
an error. -/
theorem onDatabaseRequested_client (hu : s.leader ≠ u ∨ x.createUser ≠ .returns ∨
      x.createDatabase = .raises) :
    (s.onDatabaseRequested u r x).1.client = s.client ∧
      (s.onDatabaseRequested u r x).1.deferred = s.deferred := by
  unfold onDatabaseRequested
  split
  · exact ⟨rfl, rfl⟩
  split
  · exact ⟨rfl, rfl⟩
  split
  · exact ⟨rfl, rfl⟩
  cases huser : x.createUser with
  | raises written => cases written <;> exact ⟨rfl, rfl⟩
  | returns =>
    cases hx : x.createDatabase with
    | raises => exact ⟨rfl, rfl⟩
    | raisesOther => exact ⟨rfl, rfl⟩
    | returns =>
      have hleader : s.leader ≠ u := by simpa [huser, hx] using hu
      have hshare : (s.setPassword r (some x.newPassword)).setCredentials u r x.newPassword =
          some (s.setPassword r (some x.newPassword)) := if_pos hleader
      simp only [hshare]
      split_ifs <;> exact ⟨rfl, rfl⟩

/-- **Requests that are dropped**: where the only unit that has the request of a
client handles it without being the leader, or catches an error, the client gets
nothing as long as it asks. -/
theorem request_dropped {es : List Event} {d : Client} (hc : s.client r = some c)
    (hdata : c.data "database" ≠ none) (hasks : c.remote.contains "database" = true)
    (hnone : c.shared = none) (hun : u < n)
    (hdeferred : ∀ v, s.deferred v r = if v = u then 1 else 0)
    (hu : s.leader ≠ u ∨ x.createUser ≠ .returns ∨ x.createDatabase = .raises)
    (hdone : (s.onDatabaseRequested u r x).2 = .done) (hes : ∀ e ∈ es, StillAsks r e)
    (hd : (run (next n) (next n s (.deferredRequest u r x)) es).client r = some d) :
    d.shared = none ∧
      ∀ v, (run (next n) (next n s (.deferredRequest u r x)) es).deferred v r = 0 := by
  have hstep : Dropped (next n s (.deferredRequest u r x)) r := by
    obtain ⟨hclient, hsame⟩ := onDatabaseRequested_client (r := r) hu
    have hone : s.deferred u r = 1 := by simp [hdeferred]
    have htaken : next n s (.deferredRequest u r x) =
        (s.onDatabaseRequested u r x).1.takeRequest u r := by
      rw [next, if_pos hun, Provider.onDeferredRequest, if_neg (by simp [hone])]
      generalize s.onDatabaseRequested u r x = out at hdone ⊢
      obtain ⟨t, ending⟩ := out
      subst hdone
      rfl
    rw [htaken]
    refine ⟨fun v => ?_, fun c₁ hc₁ => ?_⟩
    · rw [deferred_takeRequest, hsame, hdeferred, hdeferred]
      split
      · simp
      · rfl
    · cases hc.symm.trans (hclient ▸ hc₁)
      exact ⟨hdata, hasks, hnone⟩
  have hdropped := run_of_along (fun s => Dropped s r)
    (fun _ _ hs he => dropped_next (n := n) hs he) hstep (along_of_forall fun e he _ => hes e he)
  exact ⟨(hdropped.client d hd).2.2, hdropped.free⟩

/-- The leader is replaced after it has deferred a request. -/
def replacedLeader : Provider :=
  run (next 3) (initial 0) [.relationCreated 4, .clientWrites 4 askingClient,
    .relationChanged 0 4 true notReady, .leaderElected 1]

/-- The unit that was the leader has the request deferred. -/
theorem replacedLeader_deferred (v : Nat) :
    replacedLeader.deferred v 4 = if v = 0 then 1 else 0 := by
  have hdeferred : replacedLeader.deferred =
      Function.update (fun _ _ => 0) 0 (Function.update (fun _ => 0) 4 1) := rfl
  rw [hdeferred]
  by_cases hv : v = 0
  · simp [hv]
  · simp [hv]

/-- The request is handled there again, and by no leader afterwards. -/
theorem request_dropped_second :
    (none : Option String) = none ∧ ∀ v, (run (next 3) (next 3 replacedLeader
      (.deferredRequest 0 4 (goodAnswers "first")))
      [.relationChanged 1 4 true (goodAnswers "second"), .leaderElected 0,
        .relationChanged 0 4 true (goodAnswers "third")]).deferred v 4 = 0 :=
  request_dropped (c := ⟨askingClient, (Client.mk askingClient (fun _ => none) none).newData, none⟩)
    (d := ⟨askingClient, (Client.mk askingClient (fun _ => none) none).newData, none⟩)
    rfl (by decide) rfl rfl (by decide) replacedLeader_deferred (.inl (by decide)) rfl (by decide) rfl

end Provider

end PostgresqlK8s.Relations.ClientUsers
