import PostgresqlK8s.Lib.StateExcept
import Mathlib.Data.List.Induction

/-!
# Interrupted

Calls to a server that stop half-way.  A call takes a step for each statement.
The statements of a `transaction` count together, once it is committed, so a call
that stops leaves behind what its transactions have done so far, and is made
again later.

`Call` counts the steps: with as many as remain it stops, with `none` it is
complete.  What ends well in some number of steps ends well in any
(`Unhindered`), and it can stop wherever one of its parts has ended (`Counted`).
The rule for calls that are made again is `run_attempts_iff`: where calls that stop
lead only to servers from which a complete call ends as from the first one, and a
call that is made once more after a complete one does nothing, a complete call
ends in the same way however many have stopped.
-/

namespace Interrupted

open EStateM

variable {ε σ α β : Type}

/-- A server, and how many steps remain to a call, if that is limited. -/
structure Attempt (σ : Type) where
  server : σ
  remaining : Option Nat

abbrev Call (ε σ α : Type) := EStateM ε (Attempt σ) α

/-! ## steps -/

/-- A step that needs a condition of the server. -/
def require (e : ε) (c : σ → Prop) [DecidablePred c] : Call ε σ Unit := fun s =>
  if s.remaining = some 0 ∨ ¬c s.server then .error e s
  else .ok () { s with remaining := s.remaining.map (· - 1) }

/-- A statement that writes, which the server may refuse. -/
def execute (e : ε) (write : σ → Option σ) : Call ε σ Unit := fun s =>
  if s.remaining = some 0 then .error e s
  else match write s.server with
    | some server => .ok () ⟨server, s.remaining.map (· - 1)⟩
    | none => .error e s

/-- A statement that reads. -/
def query (e : ε) (read : σ → α) : Call ε σ α := fun s =>
  if s.remaining = some 0 then .error e s
  else .ok (read s.server) { s with remaining := s.remaining.map (· - 1) }

/-- Statements that count together, with the step that commits them. -/
def transaction (e : ε) (x : Call ε σ α) : Call ε σ α := fun s =>
  match x s with
  | .ok a t =>
    if t.remaining = some 0 then .error e { t with server := s.server }
    else .ok a { t with remaining := t.remaining.map (· - 1) }
  | .error e t => .error e { t with server := s.server }

/-- A connection, with one transaction. -/
def session (e : ε) (c : σ → Prop) [DecidablePred c] (x : Call ε σ α) : Call ε σ α := do
  require e c
  transaction e x

section Steps

variable {e e' : ε} {x : Call ε σ α} {s t : Attempt σ} {u : Unit} {c : σ → Prop} [DecidablePred c]
  {write : σ → Option σ} {read : σ → α} {a : α}

/-- A requirement that is passed holds, and counts as one step. -/
theorem require_ok : (require e c).run s = .ok u t ↔ s.remaining ≠ some 0 ∧ c s.server ∧
    t = { s with remaining := s.remaining.map (· - 1) } := by
  show require e c s = _ ↔ _
  unfold require
  split
  · next h => exact iff_of_false nofun fun h' => h.elim h'.1 fun h => h h'.2.1
  · next h =>
    rw [not_or, not_not] at h
    simp [h, eq_comm]

/-- A write that is passed has been made, and counts as one step. -/
theorem execute_ok : (execute e write).run s = .ok u t ↔ s.remaining ≠ some 0 ∧
    ∃ server, write s.server = some server ∧ t = ⟨server, s.remaining.map (· - 1)⟩ := by
  show execute e write s = _ ↔ _
  unfold execute
  split
  · next h => exact iff_of_false nofun fun h' => h'.1 h
  · next h => cases hwrite : write s.server <;> simp [h, eq_comm]

/-- A query that is passed reads the server, and counts as one step. -/
theorem query_ok : (query e read).run s = .ok a t ↔ s.remaining ≠ some 0 ∧
    a = read s.server ∧ t = { s with remaining := s.remaining.map (· - 1) } := by
  show query e read s = _ ↔ _
  unfold query
  split
  · next h => exact iff_of_false nofun fun h' => h'.1 h
  · next h => simp [h, eq_comm]

/-- A transaction that is passed has been committed, which is a step of its own. -/
theorem transaction_ok : (transaction e x).run s = .ok a t ↔ ∃ t', x.run s = .ok a t' ∧
    t'.remaining ≠ some 0 ∧ t = { t' with remaining := t'.remaining.map (· - 1) } := by
  show transaction e x s = _ ↔ ∃ t', x s = _ ∧ _
  unfold transaction
  cases x s with
  | ok b t' =>
    dsimp only
    split
    · next h =>
      refine iff_of_false nofun ?_
      rintro ⟨u, hu, hremaining, -⟩
      cases hu
      exact hremaining h
    · next h =>
      constructor
      · intro hok
        cases hok
        exact ⟨t', rfl, h, rfl⟩
      · rintro ⟨u, hu, -, rfl⟩
        cases hu
        rfl
  | error e t' => exact iff_of_false nofun fun ⟨_, h, _⟩ => by cases h

/-- A session that is passed has been connected and committed. -/
theorem session_ok : (session e c x).run s = .ok a t ↔ (s.remaining ≠ some 0 ∧ c s.server) ∧
    ∃ t', x.run { s with remaining := s.remaining.map (· - 1) } = .ok a t' ∧
      t'.remaining ≠ some 0 ∧ t = { t' with remaining := t'.remaining.map (· - 1) } := by
  simp only [session, run_bind_ok, require_ok, transaction_ok]
  constructor
  · rintro ⟨-, -, ⟨hremaining, hc, rfl⟩, h⟩
    exact ⟨⟨hremaining, hc⟩, h⟩
  · rintro ⟨⟨hremaining, hc⟩, h⟩
    exact ⟨(), _, ⟨hremaining, hc, rfl⟩, h⟩

/-- A step that fails does nothing. -/
theorem of_require_error (h : (require e c).run s = .error e' t) : t = s := by
  replace h : require e c s = .error e' t := h
  unfold require at h
  split at h
  · cases h
    rfl
  · cases h

/-- A write that fails writes nothing. -/
theorem of_execute_error (h : (execute e write).run s = .error e' t) : t = s := by
  replace h : execute e write s = .error e' t := h
  unfold execute at h
  split at h
  · cases h
    rfl
  · split at h
    · cases h
    · cases h
      rfl

/-- Neither does a query. -/
theorem of_query_error (h : (query e read).run s = .error e' t) : t = s := by
  replace h : query e read s = .error e' t := h
  unfold query at h
  split at h
  · cases h
    rfl
  · cases h

/-- A transaction that fails is rolled back. -/
theorem of_transaction_error (h : (transaction e x).run s = .error e' t) :
    t.server = s.server := by
  replace h : transaction e x s = .error e' t := h
  unfold transaction at h
  split at h
  · split at h
    · cases h
      rfl
    · cases h
  · cases h
    rfl

end Steps

/-! ## triples -/

section Triples

variable {P Q E : σ → Prop} {e : ε} {c : σ → Prop} [DecidablePred c] {read : σ → α}
  {write : σ → Option σ}

/-- A requirement leaves the server as it is. -/
theorem triple_require (hE : ∀ s, P s → E s) : Triple (fun s => P s.server) (require e c)
    (fun _ s => P s.server) fun s => E s.server := by
  intro s hs
  cases hrun : (require e c).run s with
  | ok u t =>
    obtain ⟨-, -, rfl⟩ := require_ok.mp hrun
    exact hs
  | error e t =>
    obtain rfl := of_require_error hrun
    exact hE _ hs

/-- A write does what it says, or nothing. -/
theorem triple_execute (h : ∀ s t, P s → write s = some t → Q t) (hE : ∀ s, P s → E s) :
    Triple (fun s => P s.server) (execute e write) (fun _ s => Q s.server)
      fun s => E s.server := by
  intro s hs
  cases hrun : (execute e write).run s with
  | ok u t =>
    obtain ⟨-, server, hserver, rfl⟩ := execute_ok.mp hrun
    exact h _ _ hs hserver
  | error e t =>
    obtain rfl := of_execute_error hrun
    exact hE _ hs

/-- A query leaves the server as it is and answers for it. -/
theorem triple_query (hE : ∀ s, P s → E s) : Triple (fun s => P s.server) (query e read)
    (fun a s => P s.server ∧ a = read s.server) fun s => E s.server := by
  intro s hs
  cases hrun : (query e read).run s with
  | ok a t =>
    obtain ⟨-, rfl, rfl⟩ := query_ok.mp hrun
    exact ⟨hs, rfl⟩
  | error e t =>
    obtain rfl := of_query_error hrun
    exact hE _ hs

variable {x : Call ε σ α} {R : α → σ → Prop}

/-- A transaction that does not get to its end leaves the server as it was. -/
theorem triple_transaction (hx : Triple (fun s => P s.server) x (fun a s => R a s.server)
    fun _ => True) (hE : ∀ s, P s → E s) : Triple (fun s => P s.server) (transaction e x)
      (fun a s => R a s.server) fun s => E s.server := by
  intro s hs
  cases hrun : (transaction e x).run s with
  | ok a t =>
    obtain ⟨t', ht', -, rfl⟩ := transaction_ok.mp hrun
    have hx := hx s hs
    rw [ht'] at hx
    exact hx
  | error e t =>
    show E t.server
    rw [of_transaction_error hrun]
    exact hE _ hs

/-- A session that does not get to its end leaves the server as it was. -/
theorem triple_session (hx : Triple (fun s => P s.server) x (fun a s => R a s.server)
    fun _ => True) (hE : ∀ s, P s → E s) : Triple (fun s => P s.server) (session e c x)
      (fun a s => R a s.server) fun s => E s.server :=
  triple_bind (triple_require hE) fun _ => triple_transaction hx hE

variable {e' : ε}

/-- A session of one query. -/
theorem triple_query_session (hE : ∀ s, P s → E s) :
    Triple (fun s => P s.server) (session e c (query e' read))
      (fun a s => P s.server ∧ a = read s.server) fun s => E s.server :=
  triple_session (R := fun a s => P s ∧ a = read s)
    (triple_query (E := fun _ => True) fun _ _ => trivial) hE

/-- A session of one write. -/
theorem triple_execute_session (h : ∀ s t, P s → write s = some t → Q t) (hE : ∀ s, P s → E s) :
    Triple (fun s => P s.server) (session e c (execute e' write)) (fun _ s => Q s.server)
      fun s => E s.server :=
  triple_session (R := fun _ => Q) (triple_execute (E := fun _ => True) h fun _ _ => trivial) hE

/-- Two statements in one transaction. -/
theorem triple_execute_execute_session {write' : σ → Option σ}
    (h : ∀ s t, P s → (write s).bind write' = some t → Q t) (hE : ∀ s, P s → E s) :
    Triple (fun s => P s.server) (session e c (do execute e' write; execute e' write'))
      (fun _ s => Q s.server) fun s => E s.server := by
  refine triple_session (R := fun _ => Q) (triple_bind
    (triple_execute (Q := fun t => ∃ s, P s ∧ write s = some t) (E := fun _ => True)
      (fun s _ hs ht => ⟨s, hs, ht⟩) fun _ _ => trivial) fun _ =>
    triple_execute (P := fun t => ∃ s, P s ∧ write s = some t) (E := fun _ => True) ?_
      fun _ _ => trivial) hE
  rintro t u ⟨s, hs, ht⟩ hu
  exact h s u hs (Option.bind_eq_some_iff.mpr ⟨t, ht, hu⟩)

end Triples

/-! ## complete calls -/

/-- What ends well in so many steps ends well in any number. -/
def Unhindered (x : Call ε σ α) : Prop :=
  ∀ s remaining a t, x.run ⟨s, remaining⟩ = .ok a t → x.run ⟨s, none⟩ = .ok a ⟨t.server, none⟩

section Unhindered

theorem unhindered_pure (a : α) : Unhindered (pure a : Call ε σ α) := by
  intro s remaining b t h
  obtain ⟨rfl, rfl⟩ := run_pure_ok.mp h
  rfl

/-- So does a sequence of such calls. -/
theorem unhindered_bind {x : Call ε σ α} {f : α → Call ε σ β} (hx : Unhindered x)
    (hf : ∀ a, Unhindered (f a)) : Unhindered (x >>= f) := by
  intro s remaining b t h
  obtain ⟨a, t', hx', hf'⟩ := run_bind_ok.mp h
  exact run_bind_ok.mpr ⟨a, _, hx _ _ _ _ hx', hf a _ t'.remaining _ _ hf'⟩

/-- An exception that is raised again. -/
theorem unhindered_tryCatch {x : Call ε σ α} {e : ε} (hx : Unhindered x) :
    Unhindered (tryCatch x fun _ => throw e) := by
  have hthrow : ∀ s a t, (throw e : Call ε σ α).run s ≠ .ok a t := fun s a t h => by
    cases run_throw_ok.mp h
  intro s remaining a t h
  rw [run_tryCatch_ok fun _ => hthrow] at h ⊢
  exact hx _ _ _ _ h

theorem unhindered_require (e : ε) (c : σ → Prop) [DecidablePred c] :
    Unhindered (require e c) := by
  intro s remaining u t h
  obtain ⟨-, hc, rfl⟩ := require_ok.mp h
  exact require_ok.mpr ⟨nofun, hc, rfl⟩

theorem unhindered_execute (e : ε) (write : σ → Option σ) : Unhindered (execute e write) := by
  intro s remaining u t h
  obtain ⟨-, server, hserver, rfl⟩ := execute_ok.mp h
  exact execute_ok.mpr ⟨nofun, server, hserver, rfl⟩

theorem unhindered_query (e : ε) (read : σ → α) : Unhindered (query e read) := by
  intro s remaining a t h
  obtain ⟨-, rfl, rfl⟩ := query_ok.mp h
  exact query_ok.mpr ⟨nofun, rfl, rfl⟩

/-- So does a session. -/
theorem unhindered_session {e : ε} {c : σ → Prop} [DecidablePred c] {x : Call ε σ α}
    (hx : Unhindered x) : Unhindered (session e c x) := by
  refine unhindered_bind (unhindered_require e c) fun _ => ?_
  intro s remaining a t h
  obtain ⟨t', ht', -, rfl⟩ := transaction_ok.mp h
  exact transaction_ok.mpr ⟨_, hx _ _ _ _ ht', nofun, rfl⟩

section Sessions

variable {e e' : ε} {c : σ → Prop} [DecidablePred c] {s : σ} {t : Attempt σ} {a : α} {u : Unit}

/-- Undisturbed, a session of one query only reads. -/
theorem query_session_ok {read : σ → α} : (session e c (query e' read)).run ⟨s, none⟩ = .ok a t ↔
    c s ∧ a = read s ∧ t = ⟨s, none⟩ := by
  simp only [session_ok, query_ok]
  constructor
  · rintro ⟨⟨-, hc⟩, -, ⟨-, rfl, rfl⟩, -, rfl⟩
    exact ⟨hc, rfl, rfl⟩
  · rintro ⟨hc, rfl, rfl⟩
    exact ⟨⟨nofun, hc⟩, _, ⟨nofun, rfl, rfl⟩, nofun, rfl⟩

/-- Undisturbed, a session of one write makes it. -/
theorem execute_session_ok {write : σ → Option σ} :
    (session e c (execute e' write)).run ⟨s, none⟩ = .ok u t ↔
      c s ∧ ∃ server, write s = some server ∧ t = ⟨server, none⟩ := by
  simp only [session_ok, execute_ok]
  constructor
  · rintro ⟨⟨-, hc⟩, -, ⟨-, server, hserver, rfl⟩, -, rfl⟩
    exact ⟨hc, server, hserver, rfl⟩
  · rintro ⟨hc, server, hserver, rfl⟩
    exact ⟨⟨nofun, hc⟩, _, ⟨nofun, server, hserver, rfl⟩, nofun, rfl⟩

/-- Two statements in one transaction. -/
theorem execute_execute_session_ok {write write' : σ → Option σ} :
    (session e c (do execute e' write; execute e' write')).run ⟨s, none⟩ = .ok u t ↔
      c s ∧ ∃ server, (write s).bind write' = some server ∧ t = ⟨server, none⟩ := by
  simp only [session_ok, run_bind_ok, execute_ok, Option.bind_eq_some_iff]
  constructor
  · rintro ⟨⟨-, hc⟩, -, ⟨-, -, ⟨-, server, hserver, rfl⟩, -, server', hserver', rfl⟩, -, rfl⟩
    exact ⟨hc, server', ⟨server, hserver, hserver'⟩, rfl⟩
  · rintro ⟨hc, server', ⟨server, hserver, hserver'⟩, rfl⟩
    exact ⟨⟨nofun, hc⟩, _, ⟨(), _, ⟨nofun, server, hserver, rfl⟩, nofun, server', hserver', rfl⟩,
      nofun, rfl⟩

end Sessions

end Unhindered

/-- The server that a call leaves behind. -/
def leaves : EStateM.Result ε (Attempt σ) α → σ
  | .ok _ s | .error _ s => s.server

/-! ## the steps of a complete call -/

/-- What ends well takes a number of steps, and leaves the others. -/
def Counted (x : Call ε σ α) : Prop :=
  ∀ s a t, x.run ⟨s, none⟩ = .ok a t →
    t.remaining = none ∧ ∃ n, ∀ m, x.run ⟨s, some (n + m)⟩ = .ok a ⟨t.server, some m⟩

section Counted

theorem counted_pure (a : α) : Counted (pure a : Call ε σ α) := by
  intro s b t h
  obtain ⟨rfl, rfl⟩ := run_pure_ok.mp h
  refine ⟨rfl, 0, fun m => ?_⟩
  rw [Nat.zero_add]
  rfl

/-- So does a sequence of such calls. -/
theorem counted_bind {x : Call ε σ α} {f : α → Call ε σ β} (hx : Counted x)
    (hf : ∀ a, Counted (f a)) : Counted (x >>= f) := by
  intro s b t h
  obtain ⟨a, t', hx', hf'⟩ := run_bind_ok.mp h
  obtain ⟨hnone, n, hn⟩ := hx s a t' hx'
  obtain ⟨server, remaining⟩ := t'
  cases hnone
  obtain ⟨hnone', n', hn'⟩ := hf a server b t hf'
  refine ⟨hnone', n + n', fun m => ?_⟩
  rw [Nat.add_assoc, run_bind_of_ok (hn (n' + m)), hn' m]

theorem counted_require (e : ε) (c : σ → Prop) [DecidablePred c] : Counted (require e c) := by
  intro s u t h
  obtain ⟨-, hc, rfl⟩ := require_ok.mp h
  refine ⟨rfl, 1, fun m => require_ok.mpr ⟨by simp, hc, ?_⟩⟩
  rw [Option.map_some, Nat.add_sub_cancel_left]

theorem counted_execute (e : ε) (write : σ → Option σ) : Counted (execute e write) := by
  intro s u t h
  obtain ⟨-, server, hserver, rfl⟩ := execute_ok.mp h
  refine ⟨rfl, 1, fun m => execute_ok.mpr ⟨by simp, server, hserver, ?_⟩⟩
  rw [Option.map_some, Nat.add_sub_cancel_left]

theorem counted_query (e : ε) (read : σ → α) : Counted (query e read) := by
  intro s a t h
  obtain ⟨-, rfl, rfl⟩ := query_ok.mp h
  refine ⟨rfl, 1, fun m => query_ok.mpr ⟨by simp, rfl, ?_⟩⟩
  rw [Option.map_some, Nat.add_sub_cancel_left]

variable {e : ε} {c : σ → Prop} [DecidablePred c] {x : Call ε σ α}

/-- So does a session. -/
theorem counted_session (hx : Counted x) : Counted (session e c x) := by
  refine counted_bind (counted_require e c) fun _ => ?_
  intro s a t h
  obtain ⟨t', ht', -, rfl⟩ := transaction_ok.mp h
  obtain ⟨hnone, n, hn⟩ := hx s a t' ht'
  refine ⟨by rw [hnone, Option.map_none], n + 1, fun m => ?_⟩
  rw [Nat.add_assoc]
  refine transaction_ok.mpr ⟨_, hn (1 + m), by simp, ?_⟩
  rw [Option.map_some, Nat.add_sub_cancel_left]

/-- A call that can stop before it connects. -/
theorem leaves_session_zero (s : σ) : leaves ((session e c x).run ⟨s, some 0⟩) = s := by
  have hrequire : (require e c).run ⟨s, some 0⟩ = .error e ⟨s, some 0⟩ := by
    show require e c _ = _
    rw [require, if_pos (.inl rfl)]
  rw [session, run_bind_of_error hrequire, leaves]

end Counted

/-! ## calls that are made again -/

/-- The server after calls, each of which stops after so many steps. -/
def attempts (x : Call ε σ α) (s : σ) (budgets : List (Option Nat)) : σ :=
  budgets.foldl (fun s remaining => leaves (x.run ⟨s, remaining⟩)) s

section Attempts

variable {x : Call ε σ α} {s t : σ} {budgets : List (Option Nat)}

/-- Wherever the call stops, it leaves what its triple promises. -/
theorem leaves_of_triple {P Q : σ → Prop} (hx : Triple (fun s => P s.server) x
    (fun _ s => Q s.server) fun s => Q s.server) (hs : P s) (remaining : Option Nat) :
    Q (leaves (x.run ⟨s, remaining⟩)) := by
  have hrun := hx ⟨s, remaining⟩ hs
  cases h : x.run ⟨s, remaining⟩ with
  | ok a t =>
    rw [h] at hrun
    exact hrun
  | error e t =>
    rw [h] at hrun
    exact hrun

/-- What every call keeps, however it ends. -/
theorem attempts_of_triple {P : σ → Prop} (hx : Triple (fun s => P s.server) x
    (fun _ s => P s.server) fun s => P s.server) (hs : P s) : P (attempts x s budgets) := by
  induction budgets generalizing s with
  | nil => exact hs
  | cons remaining budgets ih => exact ih (leaves_of_triple hx hs remaining)

variable (budgets) in
/-- Calls that stop, or one of them is the first that is complete. -/
theorem stopped_or_complete {Stopped : σ → Prop} (hunhindered : Unhindered x)
    (hstops : Triple (fun s => Stopped s.server) x (fun _ _ => True) fun s => Stopped s.server)
    (hagree : ∀ t, Stopped t → ∀ a u, x.run ⟨t, none⟩ = .ok a u → x.run ⟨s, none⟩ = .ok a u)
    (hagain : ∀ a u, x.run ⟨s, none⟩ = .ok a u → ∀ remaining,
      leaves (x.run ⟨u.server, remaining⟩) = u.server)
    (hs : Stopped s) : Stopped (attempts x s budgets) ∨
      ∃ a, x.run ⟨s, none⟩ = .ok a ⟨attempts x s budgets, none⟩ := by
  induction budgets using List.reverseRecOn with
  | nil => exact .inl hs
  | append_singleton budgets remaining ih =>
    rw [attempts, List.foldl_append, List.foldl_cons, List.foldl_nil, ← attempts]
    generalize attempts x s budgets = t at ih ⊢
    obtain hstopped | ⟨a, hcomplete⟩ := ih
    · have hrun := hstops ⟨t, remaining⟩ hstopped
      cases h : x.run ⟨t, remaining⟩ with
      | ok a u => exact .inr ⟨a, hagree t hstopped _ _ (hunhindered _ _ _ _ h)⟩
      | error e u =>
        rw [h] at hrun
        exact .inl hrun
    · rw [hagain a _ hcomplete]
      exact .inr ⟨a, hcomplete⟩

/-- **Calls again**: a complete call ends in the same way however many have
stopped. -/
theorem run_attempts_iff {Stopped : σ → Prop} (hunhindered : Unhindered x)
    (hstops : Triple (fun s => Stopped s.server) x (fun _ _ => True) fun s => Stopped s.server)
    (hagree : ∀ t, Stopped t → ∀ a u, x.run ⟨t, none⟩ = .ok a u ↔ x.run ⟨s, none⟩ = .ok a u)
    (hagain : ∀ a u, x.run ⟨s, none⟩ = .ok a u → x.run u = .ok a u ∧ ∀ remaining,
      leaves (x.run ⟨u.server, remaining⟩) = u.server)
    (hs : Stopped s) {a : α} {u : Attempt σ} :
    x.run ⟨attempts x s budgets, none⟩ = .ok a u ↔ x.run ⟨s, none⟩ = .ok a u := by
  obtain hstopped | ⟨b, hcomplete⟩ := stopped_or_complete budgets hunhindered hstops
    (fun t ht a u => (hagree t ht a u).mp) (fun a u h => (hagain a u h).2) hs
  · exact hagree _ hstopped a u
  · rw [(hagain b _ hcomplete).1, hcomplete]

end Attempts

end Interrupted
