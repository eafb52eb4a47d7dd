import PostgresqlK8s.Backups.S3Initialization

/-!
# Backups.S3Protocol

What the leader publishes is the outcome of an initialisation with the
credentials of the start it answers.

The flags of the handshake carry no round number.  A flag that the primary
left in an earlier round is as good to the leader as one of this round, so
the outcome is the right one as long as no such flag is left when the leader
sets a start, and as long as the leader does not answer a start with the
outcome of credentials whose change it has yet to handle
(`publications_match`).
-/

namespace PostgresqlK8s.Backups

/-- The events of a run. -/
inductive S3Event
  | credentialsChange
  /-- The unit `u` handles the change of the credentials. -/
  | s3CredentialChanged (u : Nat) (a : S3Answers)
  | peerRelationChanged (u : Nat) (a : S3Answers)
  | updateStatus (u : Nat) (a : S3Answers)

namespace S3State

variable (D : Deployment)

/-- One event; the writes of a handler with an uncaught exception are
dropped. -/
def step (s : S3State) : S3Event → S3State
  | .credentialsChange => { s with credentials := s.credentials + 1 }
  | .s3CredentialChanged u a => (s.onS3CredentialChanged D u a).getD s
  | .peerRelationChanged u a => (s.onPeerRelationChanged D u a).getD s
  | .updateStatus u a => (s.onUpdateStatus D u a).getD s

/-- No handshake has begun. -/
structure Initial (s : S3State) : Prop where
  app : ∀ k, s.app.get k = none
  unit : ∀ u k, (s.unit u).get k = none
  startedWith : s.startedWith ≤ s.credentials

/-- The event makes the leader publish `s3-initialization-done`. -/
def Publishes (s : S3State) (e : S3Event) : Prop :=
  s.app.contains .s3InitializationStart ∧ (s.step D e).app.contains .s3InitializationDone

instance (s : S3State) (e : S3Event) : Decidable (Publishes D s e) :=
  inferInstanceAs (Decidable (_ ∧ _))

/-- What is published is the outcome of an initialisation with the
credentials of the start. -/
def PublicationMatches (s : S3State) (e : S3Event) : Prop :=
  Publishes D s e → ∃ r ∈ s.history, r.credentials = s.startedWith ∧
    (s.step D e).app.getD .stanza "" = r.stanza ∧
    (s.step D e).app.getD .s3InitializationBlockMessage "" = r.blockMessage

instance (s : S3State) (e : S3Event) : Decidable (PublicationMatches D s e) :=
  inferInstanceAs (Decidable (_ → _))

/-- The primary holds the outcome of an initialisation. -/
def PrimaryDone (s : S3State) : Prop :=
  (s.unit D.primary).contains .s3InitializationDone

instance (s : S3State) : Decidable (PrimaryDone D s) :=
  inferInstanceAs (Decidable (_ = true))

/-- When the leader sets a start, the primary holds no outcome of earlier
credentials; when the leader coordinates the fields with a start pending, the
primary holds no outcome of credentials later than those of the start. -/
def InStep (s : S3State) : S3Event → Prop
  | .s3CredentialChanged u a =>
      u = D.leader → a.earlyExit = false → PrimaryDone D s → s.initialisedWith = s.credentials
  | .peerRelationChanged u a | .updateStatus u a =>
      u = D.leader → a.earlyExit = false → s.app.contains .s3InitializationStart →
        PrimaryDone D s → s.initialisedWith ≤ s.startedWith
  | .credentialsChange => True

instance (s : S3State) (e : S3Event) : Decidable (InStep D s e) := by
  unfold InStep
  split <;> infer_instance

/-! ## The invariant -/

/-- What holds between the events. -/
structure Inv (s : S3State) : Prop where
  startedWith_le : s.startedWith ≤ s.credentials
  exclusive : s.app.contains .s3InitializationStart →
    s.app.contains .s3InitializationDone = false
  others : ∀ u, u ≠ D.primary → (s.unit u).contains .s3InitializationDone = false
  blank : ¬ PrimaryDone D s → (s.unit D.primary).get .stanza = none ∧
    (s.unit D.primary).get .s3InitializationBlockMessage = none
  recorded : PrimaryDone D s → ⟨s.initialisedWith, (s.unit D.primary).getD .stanza "",
    (s.unit D.primary).getD .s3InitializationBlockMessage ""⟩ ∈ s.history
  notOlder : s.app.contains .s3InitializationStart → PrimaryDone D s →
    s.startedWith ≤ s.initialisedWith

theorem Initial.inv {s : S3State} (h : Initial s) : Inv D s := by
  have happ : s.app.contains .s3InitializationStart = false := by
    simp [Databag.contains, h.app]
  have hunit (u : Nat) : (s.unit u).contains .s3InitializationDone = false := by
    simp [Databag.contains, h.unit]
  refine ⟨h.startedWith, ?_, fun u _ => hunit u, fun _ => ⟨h.unit _ _, h.unit _ _⟩, ?_, ?_⟩
  · rw [happ]
    intro h
    cases h
  · rw [PrimaryDone, hunit]
    intro h
    cases h
  · rw [happ]
    intro h
    cases h

variable {D} {s : S3State}

/-! ## What an event does -/

/-- The outcomes an initialisation of the primary can have: it is put off, or
leaves a stanza or a block message with its flag. -/
inductive Initialised (D : Deployment) (s : S3State) : S3State → Prop
  | putOff : Initialised D s s
  | outcome (d : Databag S3Key) (stanza blockMessage : String)
      (hdone : d.contains .s3InitializationDone) (hstanza : d.getD .stanza "" = stanza)
      (hblock : d.getD .s3InitializationBlockMessage "" = blockMessage) :
      Initialised D s (s.finish D.primary d stanza blockMessage)

/-- What an event can do. -/
inductive Step (D : Deployment) (s : S3State) : S3Event → S3State → Prop
  | stay (e : S3Event) : Step D s e s
  | change : Step D s .credentialsChange { s with credentials := s.credentials + 1 }
  | start (a : S3Answers) (hexit : a.earlyExit = false) :
      Step D s (.s3CredentialChanged D.leader a) (s.start a.now)
  | initialise (e : S3Event) (s' : S3State) (h : Initialised D s s') : Step D s e s'
  | publish (e : S3Event) (a : S3Answers) (hexit : a.earlyExit = false)
      (he : e = .peerRelationChanged D.leader a ∨ e = .updateStatus D.leader a)
      (hstart : s.app.contains .s3InitializationStart) (hdone : PrimaryDone D s) :
      Step D s e (s.publish (s.unit D.primary))
  | forget (e : S3Event) (u : Nat) (hdone : s.app.contains .s3InitializationDone) :
      Step D s e (s.forget u)

/-- An initialisation of the primary leaves the application databag alone. -/
theorem Initialised.app_eq {s' : S3State} (h : Initialised D s s') : s'.app = s.app := by
  cases h <;> rfl

/-- What a failed initialisation leaves, over any databag. -/
theorem initialised_failure (d : Databag S3Key) (blockMessage : String) :
    Initialised D s (s.finish D.primary (d.update [(.s3InitializationBlockMessage, blockMessage),
      (.s3InitializationDone, "True"), (.stanza, "")]) "" blockMessage) := by
  refine .outcome _ _ _ ?_ ?_ ?_
  · simp
  · simp
  · simp

/-- What an initialisation leaves overwrites what an earlier step of it has
written. -/
theorem finish_written (d₀ d : Databag S3Key) (stanza blockMessage : String) :
    S3State.finish D.primary d stanza blockMessage
      { s with unit := Function.update s.unit D.primary d₀ } =
        s.finish D.primary d stanza blockMessage := by
  simp [finish]

theorem initialised_checkStanza (i : Initialisation) {d₀ : Databag S3Key}
    (hstanza : d₀.getD .stanza "" = D.stanzaName)
    (hblock : d₀.getD .s3InitializationBlockMessage "" = "") :
    Initialised D s (checkStanza D D.primary i
      { s with unit := Function.update s.unit D.primary d₀ }).2 := by
  unfold checkStanza
  cases i.check with
  | some errorHint =>
      simp only [s3InitializationSetFailure, if_neg D.leader_ne_primary.symm, finish_written,
        Function.update_self]
      exact initialised_failure d₀ _
  | none =>
      simp only [if_neg D.leader_ne_primary.symm, finish_written, Function.update_self]
      refine .outcome _ _ _ ?_ ?_ ?_
      · simp
      · simpa using hstanza
      · simpa using hblock

/-- An initialisation of a primary that holds no outcome. -/
theorem initialised_onS3CredentialChangedPrimary {i : Initialisation} {b : Bool} {s' : S3State}
    (hblank : (s.unit D.primary).get .s3InitializationBlockMessage = none)
    (h : s.onS3CredentialChangedPrimary D D.primary i = some (b, s')) : Initialised D s s' := by
  have hleader : D.primary ≠ D.leader := D.leader_ne_primary.symm
  unfold onS3CredentialChangedPrimary at h
  split at h
  · contradiction
  split at h
  · cases h
    rw [s3InitializationSetFailure, if_neg hleader]
    exact initialised_failure _ _
  split at h
  · contradiction
  · cases h
    rw [s3InitializationSetFailure, if_neg hleader]
    exact initialised_failure _ _
  · unfold initialiseStanza at h
    cases hblocked : i.blocked with
    | true =>
        simp only [hblocked, if_true, Bool.not_false] at h
        cases h
        exact .putOff
    | false =>
        cases hcreate : i.stanzaCreate with
        | some errorHint =>
            simp only [hblocked, hcreate, Bool.false_eq_true, if_false, Bool.not_false,
              if_true] at h
            cases h
            rw [s3InitializationSetFailure, if_neg hleader]
            exact initialised_failure _ _
        | none =>
            simp only [hblocked, hcreate, if_neg hleader, Bool.false_eq_true, if_false,
              Bool.not_true] at h
            have hs' := congrArg Prod.snd (Option.some.inj h)
            simp only at hs'
            rw [← hs']
            refine initialised_checkStanza i ?_ ?_
            · simp
            · simp [Databag.getD, hblank]

/-- The leader publishes the outcome that the primary holds, if anything. -/
theorem coordinateStanzaFields_cases (h : Inv D s) {u : Nat} {a : S3Answers} {s' : S3State}
    (hs' : s.coordinateStanzaFields D u a = some s') :
    s' = s ∨ (u = D.leader ∧ s.app.contains .s3InitializationStart = true ∧ PrimaryDone D s ∧
      s' = s.publish (s.unit D.primary)) := by
  unfold coordinateStanzaFields at hs'
  split at hs'
  · cases hs'
    exact .inl rfl
  · next hcoordinates =>
      simp only [ne_eq, Bool.or_eq_true, decide_eq_true_eq, Bool.not_eq_true', not_or, not_not,
        Bool.not_eq_false] at hcoordinates
      obtain ⟨hu, hstart⟩ := hcoordinates
      split at hs'
      · cases hs'
        exact .inl rfl
      · next d hfind =>
          have hdone :=
            List.find?_some (p := fun d : Databag S3Key => d.contains .s3InitializationDone) hfind
          have hmem := List.mem_of_find?_eq_some hfind
          split at hs'
          · cases hs'
            simp only [List.mem_append, List.mem_map, List.mem_singleton] at hmem
            rcases hmem with ⟨v, -, rfl⟩ | rfl
            · by_cases hv : v = D.primary
              · subst hv
                exact .inr ⟨hu, hstart, hdone, rfl⟩
              · rw [h.others v hv] at hdone
                contradiction
            · rw [h.exclusive hstart] at hdone
              contradiction
          · contradiction

/-- Only a unit other than the leader forgets, and only what is published. -/
theorem cleanUp_cases (u : Nat) :
    s.cleanUp D u = s ∨
      (u ≠ D.leader ∧ s.app.contains .s3InitializationDone ∧ s.cleanUp D u = s.forget u) := by
  unfold cleanUp
  split
  · next h =>
      simp only [ne_eq, Bool.and_eq_true, decide_eq_true_eq] at h
      exact .inr ⟨h.2, h.1, rfl⟩
  · exact .inl rfl

theorem cleanUp_of_not_done {u : Nat} (h : s.app.contains .s3InitializationDone = false) :
    s.cleanUp D u = s := by
  rw [cleanUp, h]
  rfl

theorem cleanUp_leader : s.cleanUp D D.leader = s := by
  simp [cleanUp]

/-- The primary initialises only while it has no outcome. -/
theorem initialised_of_not_done (h : Inv D s) {a : S3Answers} {r : Bool × S3State}
    (hdone : (s.unit D.primary).contains .s3InitializationDone = false)
    (hrun : s.onS3CredentialChangedPrimary D D.primary a.initialisation = some r) :
    Initialised D s r.2 := by
  have hnot : ¬ PrimaryDone D s := by
    rw [PrimaryDone, hdone]
    nofun
  exact initialised_onS3CredentialChangedPrimary (h.blank hnot).2 hrun

theorem onS3CredentialChanged_cases (h : Inv D s) (u : Nat) (a : S3Answers) :
    Step D s (.s3CredentialChanged u a) ((s.onS3CredentialChanged D u a).getD s) := by
  unfold onS3CredentialChanged
  split
  · exact .stay _
  · next hexit =>
      by_cases hu : u = D.leader
      · subst hu
        simp only [if_true, D.leader_ne_primary, decide_false, Bool.false_and,
          Bool.false_eq_true, if_false, Option.getD_some]
        exact .start a (by simpa using hexit)
      · simp only [if_neg hu]
        split
        · next hinit =>
            simp only [Bool.and_eq_true, decide_eq_true_eq, Bool.not_eq_true'] at hinit
            obtain ⟨rfl, hdone⟩ := hinit
            cases hrun : s.onS3CredentialChangedPrimary D D.primary a.initialisation with
            | none => exact .stay _
            | some r => exact .initialise _ _ (initialised_of_not_done h hdone hrun)
        · exact .stay _

theorem onPeerRelationChanged_cases (h : Inv D s) (u : Nat) (a : S3Answers) :
    Step D s (.peerRelationChanged u a) ((s.onPeerRelationChanged D u a).getD s) := by
  unfold onPeerRelationChanged
  split
  · exact .stay _
  next hexit =>
  cases hcoordinate : s.coordinateStanzaFields D u a with
  | none => exact .stay _
  | some s₁ =>
      simp only [Option.bind_eq_bind, Option.bind_some]
      rcases coordinateStanzaFields_cases h hcoordinate with rfl | ⟨rfl, hstart, hdone, rfl⟩
      · split
        · next hinit =>
            simp only [Bool.and_eq_true, decide_eq_true_eq, Bool.not_eq_true'] at hinit
            obtain ⟨⟨hstart, hdone⟩, rfl⟩ := hinit
            cases hrun : s₁.onS3CredentialChangedPrimary D D.primary a.initialisation with
            | none => exact .stay _
            | some r =>
                obtain ⟨b, s₂⟩ := r
                have hs₂ := initialised_of_not_done h hdone hrun
                have hclean : s₂.cleanUp D D.primary = s₂ := by
                  refine cleanUp_of_not_done ?_
                  rw [hs₂.app_eq]
                  exact h.exclusive hstart
                simp only [Option.bind_some, hclean, ite_self]
                exact .initialise _ _ hs₂
        · rcases cleanUp_cases (D := D) (s := s₁) u with hclean | ⟨hu, hdone, hclean⟩
          · rw [hclean]
            exact .stay _
          · rw [hclean]
            exact .forget _ u hdone
      · have hcleared : (s.publish (s.unit D.primary)).app.contains .s3InitializationStart = false := by
          simp [publish]
        simp only [hcleared, Bool.false_and, Bool.false_eq_true, if_false, cleanUp_leader]
        exact .publish _ a (by simpa using hexit) (.inl rfl) hstart hdone

theorem onUpdateStatus_cases (h : Inv D s) (u : Nat) (a : S3Answers) :
    Step D s (.updateStatus u a) ((s.onUpdateStatus D u a).getD s) := by
  unfold onUpdateStatus
  split
  · exact .stay _
  · next hexit =>
      cases hcoordinate : s.coordinateStanzaFields D u a with
      | none => exact .stay _
      | some s' =>
          rw [Option.getD_some]
          rcases coordinateStanzaFields_cases h hcoordinate with rfl | ⟨rfl, hstart, hdone, rfl⟩
          · exact .stay _
          · exact .publish _ a (by simpa using hexit) (.inr rfl) hstart hdone

/-- **What an event can do.** -/
theorem step_cases (h : Inv D s) (e : S3Event) : Step D s e (s.step D e) := by
  cases e with
  | credentialsChange => exact .change
  | s3CredentialChanged u a => exact onS3CredentialChanged_cases h u a
  | peerRelationChanged u a => exact onPeerRelationChanged_cases h u a
  | updateStatus u a => exact onUpdateStatus_cases h u a

/-! ## Runs -/

theorem inv_initialised {s' : S3State} (h : Inv D s) (hs' : Initialised D s s') : Inv D s' := by
  cases hs' with
  | putOff => exact h
  | outcome d stanza blockMessage hdone hstanza hblock =>
      have hprimary : (s.finish D.primary d stanza blockMessage).unit D.primary = d := by
        simp [finish]
      have hPrimaryDone : PrimaryDone D (s.finish D.primary d stanza blockMessage) := by
        rw [PrimaryDone, hprimary]
        exact hdone
      refine ⟨h.startedWith_le, h.exclusive, fun u hu => ?_, fun hnot => ?_, fun _ => ?_,
        fun _ _ => h.startedWith_le⟩
      · simp only [finish, Function.update_of_ne hu]
        exact h.others u hu
      · exact absurd hPrimaryDone hnot
      · rw [hprimary, hstanza, hblock]
        exact List.mem_cons_self

theorem inv_start (now : String) (h : Inv D s)
    (hin : PrimaryDone D s → s.initialisedWith = s.credentials) : Inv D (s.start now) := by
  refine ⟨Nat.le_refl _, fun _ => ?_, h.others, h.blank, h.recorded, fun _ hdone => ?_⟩
  · simp [start]
  · exact Nat.le_of_eq (hin hdone).symm

theorem inv_publish (d : Databag S3Key) (h : Inv D s) : Inv D (s.publish d) := by
  have hcleared : (s.publish d).app.contains .s3InitializationStart = false := by
    simp [publish]
  refine ⟨h.startedWith_le, ?_, h.others, h.blank, h.recorded, ?_⟩
  · rw [hcleared]
    nofun
  · rw [hcleared]
    nofun

theorem inv_forget (u : Nat) (h : Inv D s) : Inv D (s.forget u) := by
  by_cases hu : u = D.primary
  · subst hu
    have hnot : ¬ PrimaryDone D (s.forget D.primary) := by
      simp [PrimaryDone, forget]
    refine ⟨h.startedWith_le, h.exclusive, fun v hv => ?_, fun _ => ?_,
      fun hdone => absurd hdone hnot, fun _ hdone => absurd hdone hnot⟩
    · simp only [forget, Function.update_of_ne hv]
      exact h.others v hv
    · simp [forget]
  · have hsame : (s.forget u).unit D.primary = s.unit D.primary := by
      simp only [forget]
      exact Function.update_of_ne (Ne.symm hu) _ _
    refine ⟨h.startedWith_le, h.exclusive, fun v hv => ?_, ?_, ?_, ?_⟩
    · by_cases hvu : v = u
      · subst hvu
        simp [forget]
      · simp only [forget, Function.update_of_ne hvu]
        exact h.others v hv
    · rw [PrimaryDone, hsame]
      exact h.blank
    · rw [PrimaryDone, hsame]
      exact h.recorded
    · rw [PrimaryDone, hsame]
      exact h.notOlder

/-- **Step lemma**: an event that is in step keeps the invariant. -/
theorem inv_step (h : Inv D s) {e : S3Event} (he : InStep D s e) : Inv D (s.step D e) := by
  have hstep := step_cases h e
  generalize s.step D e = s' at hstep
  cases hstep with
  | stay => exact h
  | change =>
      exact ⟨Nat.le_succ_of_le h.startedWith_le, h.exclusive, h.others, h.blank, h.recorded,
        h.notOlder⟩
  | start a hexit => exact inv_start a.now h (he rfl hexit)
  | initialise _ _ hs' => exact inv_initialised h hs'
  | publish => exact inv_publish _ h
  | forget _ u _ => exact inv_forget u h

/-- An event that is in step publishes what the primary came to with the
credentials of the start. -/
theorem publicationMatches_of_inStep (h : Inv D s) {e : S3Event} (he : InStep D s e) :
    PublicationMatches D s e := by
  rintro ⟨hpending, hpublished⟩
  have hnotDone := h.exclusive hpending
  have hstep := step_cases h e
  generalize s.step D e = s' at hstep hpublished
  cases hstep with
  | publish _ a hexit hleader hstart hdone =>
      have hwith : s.initialisedWith = s.startedWith := by
        refine Nat.le_antisymm ?_ (h.notOlder hstart hdone)
        rcases hleader with rfl | rfl
        · exact he rfl hexit hstart hdone
        · exact he rfl hexit hstart hdone
      refine ⟨_, h.recorded hdone, hwith, ?_, ?_⟩
      · simp [publish]
      · simp [publish]
  | stay => rw [hnotDone] at hpublished; contradiction
  | change => rw [hnotDone] at hpublished; contradiction
  | start a hexit => simp [start] at hpublished
  | initialise _ _ hs' => rw [hs'.app_eq, hnotDone] at hpublished; contradiction
  | forget => rw [forget, hnotDone] at hpublished; contradiction

/-- **Publications match the start.**  In a run whose events are in step,
what the leader publishes is the outcome of an initialisation that the
primary ran with the credentials the leader had set the start with. -/
theorem publications_match (hinit : Initial s) (es : List S3Event)
    (hin : Machine.Along (step D) (InStep D) s es) :
    Machine.Along (step D) (PublicationMatches D) s es :=
  Machine.along_of_invariant (Inv D) (fun _ _ h he => inv_step h he)
    (fun _ _ h he => publicationMatches_of_inStep h he) (hinit.inv D) hin

/-- A unit with nothing set up. -/
def newS3State : S3State where
  credentials := 0
  app := ∅
  unit := fun _ => ∅
  startedWith := 0
  initialisedWith := 0
  history := []

/-- The leader is unit 0 and the primary unit 1. -/
def twoUnits : Deployment where
  leader := 0
  primary := 1
  leader_ne_primary := by decide
  stanzaName := "model.postgresql-k8s"

/-- A handler that goes through; the initialisation creates and checks the
stanza. -/
def s3Answers : S3Answers where
  earlyExit := false
  now := "Thu Jan  1 00:00:00 1970"
  units := [1, 0]
  updateConfig := true
  initialisation :=
    { updateConfig := true, bucket := true, repository := some none, blocked := false,
      stanzaCreate := none, check := none }

/-- Two rounds, the second one after the primary has cleaned its databag. -/
def twoRounds : List S3Event :=
  [.credentialsChange, .s3CredentialChanged 0 s3Answers, .s3CredentialChanged 1 s3Answers,
    .updateStatus 0 s3Answers, .peerRelationChanged 1 s3Answers,
    .credentialsChange, .s3CredentialChanged 0 s3Answers, .peerRelationChanged 1 s3Answers,
    .peerRelationChanged 0 s3Answers]

theorem newS3State_initial : Initial newS3State :=
  ⟨fun _ => rfl, fun _ _ => rfl, Nat.le_refl _⟩

/-- Each round is published as it was done. -/
theorem publications_match_twoRounds :
    Machine.Along (step twoUnits) (PublicationMatches twoUnits) newS3State twoRounds :=
  publications_match newS3State_initial twoRounds (by decide)

/-- The credentials change a second time before the leader has published the
outcome of the first round. -/
def overtaken : List S3Event :=
  [.credentialsChange, .s3CredentialChanged 0 s3Answers, .s3CredentialChanged 1 s3Answers,
    .credentialsChange, .s3CredentialChanged 0 s3Answers, .updateStatus 0 s3Answers]

/-- In `overtaken` the leader publishes the outcome of the first credentials
for the second ones, which no initialisation has tried. -/
theorem overtaken_publishes_leftover :
    Initial newS3State ∧
      ¬ Machine.Along (step twoUnits) (PublicationMatches twoUnits) newS3State overtaken :=
  ⟨newS3State_initial, by decide⟩

/-- A start that finds an outcome of earlier credentials is answered with it,
as soon as the leader coordinates the fields. -/
theorem leftover_published {a b : S3Answers} (h : Inv D s)
    (he : ¬ InStep D s (.s3CredentialChanged D.leader a)) (hnow : a.now ≠ "")
    (hexit : b.earlyExit = false) (hunits : D.primary ∈ b.units) (hconfig : b.updateConfig) :
    let t := s.step D (.s3CredentialChanged D.leader a)
    Publishes D t (.updateStatus D.leader b) ∧ t.initialisedWith ≠ t.startedWith ∧
      (t.step D (.updateStatus D.leader b)).app.getD .stanza "" =
        (t.unit D.primary).getD .stanza "" := by
  simp only [InStep, Classical.not_imp] at he
  obtain ⟨-, hgoes, hdone, hold⟩ := he
  have ht : s.step D (.s3CredentialChanged D.leader a) = s.start a.now := by
    simp [step, onS3CredentialChanged, hgoes, D.leader_ne_primary]
  have hInv : ∀ v, v ≠ D.primary →
      ((s.start a.now).unit v).contains .s3InitializationDone = false := h.others
  have hstart : (s.start a.now).app.contains .s3InitializationStart = true := by
    simp [start, hnow]
  have hfind : (b.units.map (s.start a.now).unit ++ [(s.start a.now).app]).find?
      (·.contains .s3InitializationDone) = some (s.unit D.primary) := by
    rw [List.find?_append, List.find?_map]
    have hmem : ∃ v, b.units.find? ((·.contains .s3InitializationDone) ∘ (s.start a.now).unit)
        = some v := by
      rw [← Option.isSome_iff_exists, List.find?_isSome]
      exact ⟨D.primary, hunits, hdone⟩
    obtain ⟨v, hv⟩ := hmem
    have hvdone :=
      List.find?_some (p := (·.contains .s3InitializationDone) ∘ (s.start a.now).unit) hv
    have hvp : v = D.primary := by
      by_contra hne
      rw [Function.comp_apply, hInv v hne] at hvdone
      contradiction
    rw [hv, hvp]
    rfl
  have hpublish : (s.start a.now).step D (.updateStatus D.leader b) =
      (s.start a.now).publish (s.unit D.primary) := by
    simp [step, onUpdateStatus, coordinateStanzaFields, hexit, hstart, hfind, hconfig]
  rw [ht]
  dsimp only
  rw [hpublish]
  refine ⟨⟨hstart, ?_⟩, hold, ?_⟩
  · rw [hpublish]
    simp [publish]
  · simp [publish, start]

end S3State

end PostgresqlK8s.Backups
