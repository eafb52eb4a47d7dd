import PostgresqlK8s.Lib.CheckThenAct
import PostgresqlK8s.Lib.Decimal
import PostgresqlK8s.Lib.Text
import PostgresqlK8s.Backups.Repository
import PostgresqlK8s.Hba.Rules
import Mathlib.Data.Fintype.Basic
import Mathlib.Logic.Function.Basic

/-!
# Backups.SharedRepository

Several clusters with the same S3 repository.  Before a cluster creates its stanza it
checks that the repository is not that of another cluster: by the model that wrote
`model-uuid.txt`, and by the names and the system identifiers of the stanzas.  The file
is written at the end of the initialisation.

The steps of an initialisation reach the repository one by one, so those of one cluster
may come between those of another.  A restore gives a cluster the system identifier of
the one that made the backup.
-/

namespace PostgresqlK8s.Backups

/-! ## the check -/

/-- A stanza in the document of `pgbackrest info`, with what the check reads. -/
structure StanzaInfo where
  name : Option String
  /-- `repo["status"]["message"]` of each repository. -/
  messages : List (Option String)
  /-- `db["system-id"]` of each database. -/
  db : Option (List Nat)
deriving DecidableEq, Repr

/-- Where `str.splitlines` ends a line. -/
def isLineBreak (c : Char) : Bool :=
  ['\n', '\r', '\x0b', '\x0c', '\x1c', '\x1d', '\x1e', '\u0085', '\u2028', '\u2029'].contains c

/-- The system identifier in the output of `pg_controldata`: the last word of the line
that has it.  The empty lines of a text are of no consequence. -/
def systemIdentifier (output : String) : Except PyError String :=
  match ((output.toList.splitOnP isLineBreak).map String.ofList).find?
      (Text.occursIn "Database system identifier") with
  | some line => .ok ((Text.rsplitOnce ' ' line).elim line (·.2))
  | none => .error (.other "StopIteration")

section Check

variable (stanzaName : String) (controlData : CommandOutcome String)

/-- One stanza of the repository: the message of a check that fails. -/
def checkStanzaInfo (stanza : StanzaInfo) : Except PyError (Option String) :=
  if stanza.name = some "[invalid]" then
    let fullMessage := (stanza.messages.filterMap id).headD ""
    return some (stanzaBlockMessage (String.ofList (fullMessage.toList.take 120)))
  else if stanza.name ≠ some stanzaName then
    return some anotherClusterRepositoryErrorMessage
  else do
    let (output, error) ← executeCommand controlData
    if error ≠ some "" then throw (.other "Exception")
    else do
      let systemIdentifierFromInstance ← systemIdentifier (output.getD "")
      match stanza.db with
      | none => throw (.typeError "object of type 'NoneType' has no len()")
      | some stanzaDbs =>
          if some systemIdentifierFromInstance ≠ stanzaDbs.head?.map toString then
            return some anotherClusterRepositoryErrorMessage
          else return none

/-- The loop over the stanzas. -/
def checkStanzaInfos : List StanzaInfo → Except PyError (Option String)
  | [] => return none
  | stanza :: stanzas => do
      match ← checkStanzaInfo stanzaName controlData stanza with
      | some message => return some message
      | none => checkStanzaInfos stanzas

/-- `can_use_s3_repository`: the validation message, if there is one. -/
def canUseS3Repository (modelUuid : String) (s3ModelUuid : Option String)
    (info : CommandOutcome (Option (List StanzaInfo))) : Except PyError (Option String) :=
  if s3ModelUuid.getD "" ≠ "" ∧ Text.strip Hba.isSpace (s3ModelUuid.getD "") ≠ modelUuid then
    return some anotherClusterRepositoryErrorMessage
  else do
    let (output, _) ← executeCommand info
    match output with
    | none => return some failedToInitializeStanzaErrorMessage
    | some document => do
        let stanzas ← jsonLoads (some document)
        checkStanzaInfos stanzaName controlData stanzas

end Check

/-! ## reading the system identifier -/

/-- A digit breaks no line. -/
theorem not_isLineBreak_of_isDigit {c : Char} (hdigit : c.isDigit) : isLineBreak c = false := by
  by_contra hbreak
  rw [Bool.not_eq_false] at hbreak
  simp only [isLineBreak, List.contains_eq_mem, List.mem_cons, List.not_mem_nil, or_false,
    decide_eq_true_eq] at hbreak
  rcases hbreak with rfl | rfl | rfl | rfl | rfl | rfl | rfl | rfl | rfl | rfl <;>
    cases hdigit

section Lines

variable {first line : String}

/-- What follows the last blank of its line is the system identifier. -/
theorem systemIdentifier_lines (hfirst : first.toList.any isLineBreak = false)
    (hother : Text.occursIn "Database system identifier" first = false)
    (hline : line.toList.any isLineBreak = false)
    (hfound : Text.occursIn "Database system identifier" line = true) (id : Nat) :
    systemIdentifier (first ++ String.singleton '\n' ++
      (line ++ String.singleton ' ' ++ toString id)) = .ok (toString id) := by
  have hfirst' : ∀ c ∈ first.toList, isLineBreak c = false := by simpa using hfirst
  have hline' : ∀ c ∈ line.toList, isLineBreak c = false := by simpa using hline
  have hbreaks : ∀ c ∈ (line ++ String.singleton ' ' ++ toString id).toList,
      isLineBreak c = false := by
    intro c hc
    simp only [String.toList_append, String.toList_singleton, List.mem_append,
      List.mem_singleton] at hc
    obtain (hc | rfl) | hc := hc
    · exact hline' c hc
    · rfl
    · exact not_isLineBreak_of_isDigit (Decimal.isDigit_of_mem hc)
  have hfound' : Text.occursIn "Database system identifier"
      (line ++ String.singleton ' ' ++ toString id) = true := by
    rw [Text.occursIn, decide_eq_true_eq] at hfound ⊢
    rw [String.toList_append, String.toList_append, List.append_assoc]
    exact hfound.trans (List.prefix_append ..).isInfix
  have hlines : (first ++ String.singleton '\n' ++
      (line ++ String.singleton ' ' ++ toString id)).toList.splitOnP isLineBreak =
      [first.toList, (line ++ String.singleton ' ' ++ toString id).toList] := by
    rw [String.toList_append, String.toList_append, String.toList_singleton, List.append_assoc,
      List.singleton_append, List.splitOnP_append_cons _ _ rfl, List.splitOnP_eq_singleton hfirst',
      List.splitOnP_eq_singleton hbreaks]
    rfl
  rw [systemIdentifier, hlines]
  simp only [List.map_cons, List.map_nil, String.ofList_toList, List.find?_cons, hother, hfound']
  rw [Text.rsplitOnce_append (Decimal.not_mem_toString rfl id)]
  rfl

end Lines

/-! ## the repository and its clusters -/

namespace Sharing

open Machine

/-- A cluster, by what does not change. -/
structure S3Cluster where
  /-- `model.uuid`. -/
  modelUuid : String
  modelName : String
  appName : String
  strip_modelUuid : Text.strip Hba.isSpace modelUuid = modelUuid
  modelUuid_ne : modelUuid ≠ ""

/-- `stanza_name`. -/
def S3Cluster.stanzaName (c : S3Cluster) : String := c.modelName ++ ".patroni-" ++ c.appName

structure Stanza where
  name : String
  systemId : Nat
deriving DecidableEq, Repr

/-- A stanza as `pgbackrest info` describes it. -/
def Stanza.info (stanza : Stanza) : StanzaInfo :=
  ⟨some stanza.name, [some "ok"], some [stanza.systemId]⟩

/-- What the programs of the workload do. -/
structure Tools where
  /-- `pg_controldata`, of a database with a system identifier. -/
  controlData : Nat → String
  systemIdentifier_controlData : ∀ id, systemIdentifier (controlData id) = .ok (toString id)
  /-- `pgbackrest stanza-create`, for a database, over the stanzas that are there. -/
  stanzaCreate : Stanza → List Stanza → Option (List Stanza)
  mem_stanzaCreate : ∀ {stanza stanzas stanzas'}, stanzaCreate stanza stanzas = some stanzas' →
    ∀ x, x ∈ stanzas' ↔ x ∈ stanzas ∨ x = stanza

/-- How far the initialisation of a cluster has come. -/
inductive Phase
  | idle
  /-- `model-uuid.txt` has been read. -/
  | uuidRead (s3ModelUuid : Option String)
  /-- `can_use_s3_repository` has returned `True`. -/
  | admitted
  /-- `_initialise_stanza` has returned `True`. -/
  | created
  /-- `check_stanza` has returned `True`. -/
  | checked
deriving DecidableEq, Repr

structure SharedRepository (ι : Type) where
  /-- `model-uuid.txt`. -/
  modelUuid : Option String
  stanzas : List Stanza
  phase : ι → Phase
  /-- The system identifier of each database. -/
  systemId : ι → Nat
  /-- The clusters that have been restored. -/
  restored : ι → Bool
  /-- The stanza that each cluster was the last to create. -/
  uses : ι → Option Stanza

/-- How `pgbackrest info` ends. -/
inductive InfoAnswer
  | listed
  | invalid (messages : List (Option String))
  | failed (text stdout stderr : String)
  | changeError (text : String)
  | raised (name : String)

/-- What happens to the repository and its clusters. -/
inductive SharingEvent (ι : Type)
  /-- `_read_content_from_s3`, which returns nothing when it fails. -/
  | readUuid (c : ι) (works : Bool)
  | info (c : ι) (answer : InfoAnswer)
  /-- An attempt of `stanza-create`. -/
  | stanzaCreate (c : ι) (outcome : CommandOutcome Unit)
  | check (c : ι) (works : Bool)
  /-- `_upload_content_to_s3`, whose failure is logged. -/
  | upload (c : ι) (works : Bool)
  /-- The initialisation ends early, with a failure or an exception. -/
  | ends (c : ι)
  | restore (c : ι) (systemId : Nat)

variable {ι : Type} (tools : Tools) (clusters : ι → S3Cluster)

namespace SharedRepository

/-- Nothing is in the repository. -/
def initial (first : ι → Nat) : SharedRepository ι where
  modelUuid := none
  stanzas := []
  phase _ := .idle
  systemId := first
  restored _ := false
  uses _ := none

/-- What `pgbackrest info` comes to. -/
def info (s : SharedRepository ι) : InfoAnswer → CommandOutcome (Option (List StanzaInfo))
  | .listed => .exited (some (s.stanzas.map Stanza.info)) ""
  | .invalid messages => .exited (some [⟨some "[invalid]", messages, some []⟩]) ""
  | .failed text stdout stderr => .failed text stdout stderr
  | .changeError text => .changeError text
  | .raised name => .raised name

/-- The stanza that a cluster creates. -/
def stanza (s : SharedRepository ι) (c : ι) : Stanza := ⟨(clusters c).stanzaName, s.systemId c⟩

/-- The check of a cluster. -/
def canUse (s : SharedRepository ι) (c : ι) (s3ModelUuid : Option String) (answer : InfoAnswer) :
    Except PyError (Option String) :=
  canUseS3Repository (clusters c).stanzaName (.exited (tools.controlData (s.systemId c)) "")
    (clusters c).modelUuid s3ModelUuid (s.info answer)

variable [DecidableEq ι]

def setPhase (s : SharedRepository ι) (c : ι) (phase : Phase) : SharedRepository ι :=
  { s with phase := Function.update s.phase c phase }

@[simp] theorem setPhase_phase_self (s : SharedRepository ι) (c : ι) (phase : Phase) :
    (s.setPhase c phase).phase c = phase := Function.update_self ..

theorem setPhase_phase_of_ne {s : SharedRepository ι} {c d : ι} {phase : Phase} (h : d ≠ c) :
    (s.setPhase c phase).phase d = s.phase d := Function.update_of_ne h ..

/-- `stanza-create`.  A command that Pebble does not start is taken for one that ends
well, and one that fails is tried again. -/
def stanzaCreate (s : SharedRepository ι) (c : ι) : CommandOutcome Unit → SharedRepository ι
  | .exited _ _ =>
      match tools.stanzaCreate (s.stanza clusters c) s.stanzas with
      | some stanzas => { s.setPhase c .created with
          stanzas
          uses := Function.update s.uses c (some (s.stanza clusters c)) }
      | none => s
  | .changeError _ => s.setPhase c .created
  | .failed .. | .raised _ => s

/-- One step. -/
def next (s : SharedRepository ι) : SharingEvent ι → SharedRepository ι
  | .readUuid c works =>
      if s.phase c = .idle then s.setPhase c (.uuidRead (if works then s.modelUuid else none))
      else s
  | .info c answer =>
      match s.phase c with
      | .uuidRead s3ModelUuid =>
          match s.canUse tools clusters c s3ModelUuid answer with
          | .ok none => s.setPhase c .admitted
          | _ => s.setPhase c .idle
      | _ => s
  | .stanzaCreate c outcome =>
      if s.phase c = .admitted then s.stanzaCreate tools clusters c outcome else s
  | .check c works =>
      if s.phase c = .created then s.setPhase c (if works then .checked else .idle) else s
  | .upload c works =>
      if s.phase c = .checked then
        { s.setPhase c .idle with
          modelUuid := if works then some (clusters c).modelUuid else s.modelUuid }
      else s
  | .ends c => s.setPhase c .idle
  | .restore c systemId =>
      if s.phase c = .idle then
        { s with
          systemId := Function.update s.systemId c systemId
          restored := Function.update s.restored c true }
      else s

end SharedRepository

/-! ## what the check says of a repository -/

/-- No cluster calls its stanza as pgBackRest calls an invalid one. -/
theorem S3Cluster.stanzaName_ne (c : S3Cluster) : c.stanzaName ≠ "[invalid]" := by
  intro h
  have hdot : '.' ∈ c.stanzaName.toList := by simp [stanzaName]
  rw [h] at hdot
  exact absurd hdot (by decide)

section Check

variable {tools} {name : String} {id : Nat}

/-- A listed stanza passes when it is the cluster's own, name and identifier. -/
theorem checkStanzaInfo_info {x : Stanza} (hx : x.name ≠ "[invalid]") :
    checkStanzaInfo name (.exited (tools.controlData id) "") x.info =
      .ok (if x = ⟨name, id⟩ then none else some anotherClusterRepositoryErrorMessage) := by
  obtain ⟨xname, xid⟩ := x
  rw [checkStanzaInfo, if_neg (by simpa [Stanza.info] using hx)]
  by_cases hname : xname = name
  · subst hname
    simp only [Stanza.info, ne_eq, not_true_eq_false, if_false, executeCommand, bind, Except.bind,
      Option.getD_some, tools.systemIdentifier_controlData, List.head?_cons, Option.map_some,
      Option.some.injEq, Decimal.toString_injective.eq_iff, Stanza.mk.injEq, true_and]
    by_cases hid : xid = id
    · rw [if_pos hid, if_neg (not_not_intro hid.symm)]
      rfl
    · rw [if_neg hid, if_pos (Ne.symm hid)]
      rfl
  · rw [if_pos (by simpa [Stanza.info] using hname), if_neg (by simp [hname])]
    rfl

/-- A listing passes when every stanza of it does. -/
theorem checkStanzaInfos_info {xs : List Stanza} (hxs : ∀ x ∈ xs, x.name ≠ "[invalid]") :
    checkStanzaInfos name (.exited (tools.controlData id) "") (xs.map Stanza.info) =
      .ok (if ∀ x ∈ xs, x = ⟨name, id⟩ then none
        else some anotherClusterRepositoryErrorMessage) := by
  induction xs with
  | nil => rfl
  | cons x xs ih =>
      rw [List.forall_mem_cons] at hxs
      rw [List.map_cons, checkStanzaInfos, checkStanzaInfo_info hxs.1]
      simp only [List.forall_mem_cons]
      by_cases hx : x = ⟨name, id⟩
      · simp only [hx, true_and]
        exact ih hxs.2
      · rw [if_neg hx, if_neg (fun h => hx h.1)]
        rfl

end Check

namespace SharedRepository

variable {tools clusters} {s : SharedRepository ι} {c d : ι} {answer : InfoAnswer}

/-- The model that wrote the file is that of the cluster, as far as it could be read. -/
def SameModel (clusters : ι → S3Cluster) (c : ι) (s3ModelUuid : Option String) : Prop :=
  s3ModelUuid.getD "" = "" ∨
    Text.strip Hba.isSpace (s3ModelUuid.getD "") = (clusters c).modelUuid

instance (s3ModelUuid : Option String) : Decidable (SameModel clusters c s3ModelUuid) :=
  inferInstanceAs (Decidable (_ ∨ _))

/-- A model that is not the recorded one is refused before any stanza is read. -/
theorem canUse_of_not_sameModel {s3ModelUuid : Option String}
    (h : ¬SameModel clusters c s3ModelUuid) :
    s.canUse tools clusters c s3ModelUuid answer =
      .ok (some anotherClusterRepositoryErrorMessage) := by
  rw [SameModel, not_or] at h
  rw [canUse, canUseS3Repository, if_pos h]
  rfl

/-- A listing is answered by what is in the repository. -/
theorem canUse_listed {s3ModelUuid : Option String}
    (hnames : ∀ x ∈ s.stanzas, x.name ≠ "[invalid]") :
    s.canUse tools clusters c s3ModelUuid .listed =
      .ok (if SameModel clusters c s3ModelUuid ∧ ∀ x ∈ s.stanzas, x = s.stanza clusters c then none
        else some anotherClusterRepositoryErrorMessage) := by
  by_cases hmodel : SameModel clusters c s3ModelUuid
  · rw [canUse, canUseS3Repository, if_neg (fun h => hmodel.elim h.1 h.2)]
    simp only [info, executeCommand, jsonLoads, bind, Except.bind, hmodel, true_and]
    exact checkStanzaInfos_info hnames
  · rw [canUse_of_not_sameModel hmodel, if_neg (fun h => hmodel h.1)]

/-- Without a listing no cluster is admitted. -/
theorem canUse_ne_of_ne_listed {s3ModelUuid : Option String} (h : answer ≠ .listed) :
    s.canUse tools clusters c s3ModelUuid answer ≠ .ok none := by
  by_cases hmodel : SameModel clusters c s3ModelUuid
  · rw [canUse, canUseS3Repository, if_neg (fun h => hmodel.elim h.1 h.2)]
    cases answer with
    | listed => exact absurd rfl h
    | invalid messages =>
        simp [info, executeCommand, jsonLoads, bind, Except.bind, checkStanzaInfos,
          checkStanzaInfo, pure, Except.pure]
    | failed text stdout stderr => simp [info, executeCommand, bind, Except.bind]
    | changeError text => simp [info, executeCommand, bind, Except.bind, pure, Except.pure]
    | raised name => simp [info, executeCommand, bind, Except.bind]
  · simp [canUse_of_not_sameModel hmodel]

/-- What admits a cluster. -/
theorem canUse_eq_none_iff {s3ModelUuid : Option String}
    (hnames : ∀ x ∈ s.stanzas, x.name ≠ "[invalid]") :
    s.canUse tools clusters c s3ModelUuid answer = .ok none ↔
      answer = .listed ∧ SameModel clusters c s3ModelUuid ∧
        ∀ x ∈ s.stanzas, x = s.stanza clusters c := by
  by_cases hanswer : answer = .listed
  · subst hanswer
    rw [canUse_listed hnames, and_iff_right rfl]
    split
    · next h => exact iff_of_true rfl h
    · next h => exact iff_of_false (by simp) h
  · exact iff_of_false (canUse_ne_of_ne_listed hanswer) fun h => hanswer h.1

/-! ## whose stanzas there are -/

section Tracks

variable (clusters) (first : ι → Nat)

/-- Every stanza has the name of a cluster that uses the repository and, unless it has
been restored, its first system identifier. -/
structure Tracks (s : SharedRepository ι) : Prop where
  own : ∀ c, s.restored c = false → s.systemId c = first c
  used : ∀ c x, s.uses c = some x → x ∈ s.stanzas ∧ x.name = (clusters c).stanzaName ∧
    (s.restored c = false → x.systemId = first c)
  user : ∀ x ∈ s.stanzas, ∃ c, (s.uses c).isSome ∧ x.name = (clusters c).stanzaName ∧
    (s.restored c = false → x.systemId = first c)
  uuid : ∀ u, s.modelUuid = some u → ∃ c, u = (clusters c).modelUuid

theorem tracks_initial : Tracks clusters first (initial first) where
  own _ _ := rfl
  used _ _ h := by cases h
  user _ h := by cases h
  uuid _ h := by cases h

variable {first}

/-- No stanza of the repository has the name of an invalid one. -/
theorem Tracks.name_ne (h : Tracks clusters first s) : ∀ x ∈ s.stanzas, x.name ≠ "[invalid]" := by
  intro x hx
  obtain ⟨c, -, hname, -⟩ := h.user x hx
  rw [hname]
  exact (clusters c).stanzaName_ne

variable [DecidableEq ι]

theorem Tracks.setPhase (h : Tracks clusters first s) (c : ι) (phase : Phase) :
    Tracks clusters first (s.setPhase c phase) := ⟨h.own, h.used, h.user, h.uuid⟩

variable {clusters}

/-- Creating a stanza keeps account of it. -/
theorem Tracks.created (h : Tracks clusters first s) {stanzas : List Stanza}
    (hcreate : tools.stanzaCreate (s.stanza clusters c) s.stanzas = some stanzas) :
    Tracks clusters first { s.setPhase c .created with
      stanzas
      uses := Function.update s.uses c (some (s.stanza clusters c)) } := by
  have hmem := tools.mem_stanzaCreate hcreate
  refine ⟨h.own, fun d x hx => ?_, fun x hx => ?_, h.uuid⟩
  · dsimp only at hx ⊢
    obtain rfl | hne := eq_or_ne d c
    · rw [Function.update_self] at hx
      cases hx
      exact ⟨(hmem _).mpr (.inr rfl), rfl, h.own d⟩
    · rw [Function.update_of_ne hne] at hx
      obtain ⟨hx, hname⟩ := h.used d x hx
      exact ⟨(hmem x).mpr (.inl hx), hname⟩
  · dsimp only at hx ⊢
    obtain hx | rfl := (hmem x).mp hx
    · obtain ⟨d, huses, hname⟩ := h.user x hx
      refine ⟨d, ?_, hname⟩
      obtain rfl | hne := eq_or_ne d c
      · rw [Function.update_self]
        rfl
      · rw [Function.update_of_ne hne]
        exact huses
    · refine ⟨c, ?_, rfl, h.own c⟩
      rw [Function.update_self]
      rfl

/-- A restore changes the system identifier, of a cluster that is from then on restored. -/
theorem Tracks.restored (h : Tracks clusters first s) (c : ι) (systemId : Nat) :
    Tracks clusters first { s with
      systemId := Function.update s.systemId c systemId
      restored := Function.update s.restored c true } := by
  have hrestored : ∀ d, Function.update s.restored c true d = false → d ≠ c ∧
      s.restored d = false := by
    intro d hd
    obtain rfl | hne := eq_or_ne d c
    · rw [Function.update_self] at hd
      cases hd
    · rw [Function.update_of_ne hne] at hd
      exact ⟨hne, hd⟩
  refine ⟨fun d hd => ?_, fun d x hx => ?_, fun x hx => ?_, h.uuid⟩
  · obtain ⟨hne, hd⟩ := hrestored d hd
    exact (Function.update_of_ne hne ..).trans (h.own d hd)
  · obtain ⟨hx, hname, hid⟩ := h.used d x hx
    exact ⟨hx, hname, fun hd => hid (hrestored d hd).2⟩
  · obtain ⟨d, huses, hname, hid⟩ := h.user x hx
    exact ⟨d, huses, hname, fun hd => hid (hrestored d hd).2⟩

/-- **Step**: every event keeps the account of the stanzas. -/
theorem tracks_next (s : SharedRepository ι) (e : SharingEvent ι) (h : Tracks clusters first s) :
    Tracks clusters first (s.next tools clusters e) := by
  cases e with
  | readUuid c works =>
      simp only [next]
      split
      · exact h.setPhase ..
      · exact h
  | info c answer =>
      simp only [next]
      split
      · split <;> exact h.setPhase ..
      · exact h
  | stanzaCreate c outcome =>
      simp only [next]
      split
      · cases outcome with
        | exited stdout stderr =>
            rw [SharedRepository.stanzaCreate]
            split
            · next hcreate => exact h.created hcreate
            · exact h
        | changeError text => exact h.setPhase ..
        | failed text stdout stderr => exact h
        | raised name => exact h
      · exact h
  | check c works =>
      simp only [next]
      split
      · exact h.setPhase ..
      · exact h
  | upload c works =>
      simp only [next]
      split
      · refine ⟨h.own, h.used, h.user, fun u hu => ?_⟩
        cases works with
        | true =>
            cases hu
            exact ⟨c, rfl⟩
        | false => exact h.uuid u hu
      · exact h
  | ends c => exact h.setPhase ..
  | restore c systemId =>
      simp only [next]
      split
      · exact h.restored ..
      · exact h

variable (tools clusters first) in
/-- **Run**: so does every run from the first initialisation on. -/
theorem tracks_run (es : List (SharingEvent ι)) :
    Tracks clusters first (run (next tools clusters) (initial first) es) :=
  run_of_step (Tracks clusters first) tracks_next es (tracks_initial clusters first)

end Tracks

/-! ## looking first and creating later -/

section Simulation

variable (tools clusters)

/-- The repository as a collection of stanzas, where an admitted cluster may add its own. -/
def abs (s : SharedRepository ι) : CheckThenAct.State ι Stanza where
  entries := {x | x ∈ s.stanzas}
  passed c := if s.phase c = .admitted then some (s.stanza clusters c) else none

/-- What a step is there. -/
def label (s : SharedRepository ι) : SharingEvent ι → List (CheckThenAct.Event ι Stanza)
  | .info c answer =>
      match s.phase c with
      | .uuidRead s3ModelUuid =>
          if s.canUse tools clusters c s3ModelUuid answer = .ok none then
            [.check c (s.stanza clusters c)]
          else []
      | _ => []
  | .stanzaCreate c outcome =>
      if s.phase c = .admitted then
        match outcome with
        | .exited _ _ =>
            if (tools.stanzaCreate (s.stanza clusters c) s.stanzas).isSome then [.act c] else []
        | .changeError _ => [.leave c]
        | .failed .. | .raised _ => []
      else []
  | .ends c => [.leave c]
  | _ => []

variable {tools clusters} [DecidableEq ι] {phase : Phase}

variable (clusters) in
/-- What has passed the check in the abstract view is what the phase says. -/
theorem passed_setPhase (s : SharedRepository ι) (c : ι) (phase : Phase) :
    ((s.setPhase c phase).abs clusters).passed = Function.update (s.abs clusters).passed c
      (if phase = .admitted then some (s.stanza clusters c) else none) := by
  funext d
  obtain rfl | hne := eq_or_ne d c
  · simp only [abs, setPhase_phase_self, Function.update_self]
    rfl
  · simp only [abs, setPhase_phase_of_ne hne, Function.update_of_ne hne]
    rfl

/-- In the abstract view, any phase but that after the check is leaving. -/
theorem abs_setPhase (hphase : phase ≠ .admitted) :
    (s.setPhase c phase).abs clusters = CheckThenAct.step (s.abs clusters) (.leave c) := by
  have hpassed := passed_setPhase clusters s c phase
  rw [if_neg hphase] at hpassed
  exact congrArg (CheckThenAct.State.mk {x | x ∈ s.stanzas}) hpassed

/-- A step from one phase to another, before the check and after the creation. -/
theorem abs_setPhase_of_ne (hphase : phase ≠ .admitted) (h : s.phase c ≠ .admitted) :
    (s.setPhase c phase).abs clusters = s.abs clusters := by
  have hnone : (s.abs clusters).passed c = none := if_neg h
  rw [abs_setPhase hphase, CheckThenAct.step, ← hnone, Function.update_eq_self]

/-- Passing the check of the code is passing the abstract one. -/
theorem abs_admitted (h : ∀ x ∈ s.stanzas, x = s.stanza clusters c) :
    (s.setPhase c .admitted).abs clusters =
      CheckThenAct.step (s.abs clusters) (.check c (s.stanza clusters c)) := by
  have hpassed := passed_setPhase clusters s c .admitted
  have hentries : ∀ x ∈ (s.abs clusters).entries, x = s.stanza clusters c := h
  rw [CheckThenAct.step, if_pos hentries]
  exact congrArg (CheckThenAct.State.mk {x | x ∈ s.stanzas}) hpassed

/-- Creating a stanza is the abstract act. -/
theorem abs_created {stanzas : List Stanza} (h : s.phase c = .admitted)
    (hcreate : tools.stanzaCreate (s.stanza clusters c) s.stanzas = some stanzas) :
    abs clusters { s.setPhase c .created with
      stanzas
      uses := Function.update s.uses c (some (s.stanza clusters c)) } =
      CheckThenAct.step (s.abs clusters) (.act c) := by
  have hpassed := passed_setPhase clusters s c .created
  have hmay : (s.abs clusters).passed c = some (s.stanza clusters c) := if_pos h
  have hentries : {x | x ∈ stanzas} = insert (s.stanza clusters c) {x | x ∈ s.stanzas} :=
    Set.ext fun x => (tools.mem_stanzaCreate hcreate x).trans or_comm
  simp only [CheckThenAct.step, hmay]
  exact congrArg₂ CheckThenAct.State.mk hentries hpassed

/-- **A step is what its label says**, as long as the names of the stanzas are those of
clusters. -/
theorem abs_next (s : SharedRepository ι) (e : SharingEvent ι)
    (hnames : ∀ x ∈ s.stanzas, x.name ≠ "[invalid]") :
    (s.next tools clusters e).abs clusters =
      run CheckThenAct.step (s.abs clusters) (s.label tools clusters e) := by
  cases e with
  | readUuid c works =>
      simp only [next, label, run_nil]
      split
      · next hidle => exact abs_setPhase_of_ne (by simp) (by simp [hidle])
      · rfl
  | info c answer =>
      simp only [next, label]
      split
      · next s3ModelUuid hread =>
          have hne : s.phase c ≠ .admitted := by simp [hread]
          split
          · next hnone =>
              rw [if_pos hnone]
              exact abs_admitted ((canUse_eq_none_iff hnames).mp hnone).2.2
          · next hnone =>
              rw [if_neg hnone]
              exact abs_setPhase_of_ne (by simp) hne
      · rfl
  | stanzaCreate c outcome =>
      simp only [next, label]
      split
      · next hadmitted =>
          cases outcome with
          | exited stdout stderr =>
              simp only [SharedRepository.stanzaCreate]
              split
              · next stanzas hcreate =>
                  rw [hcreate, Option.isSome_some, if_pos rfl]
                  exact abs_created hadmitted hcreate
              · next hcreate =>
                  rw [hcreate]
                  rfl
          | changeError text => exact abs_setPhase (by simp)
          | failed text stdout stderr => rfl
          | raised name => rfl
      · rfl
  | check c works =>
      simp only [next, label, run_nil]
      split
      · next hcreated =>
          refine abs_setPhase_of_ne ?_ (by simp [hcreated])
          split <;> simp
      · rfl
  | upload c works =>
      simp only [next, label, run_nil]
      split
      · next hchecked =>
          have hsame : (s.setPhase c .idle).abs clusters = s.abs clusters :=
            abs_setPhase_of_ne (by simp) (by simp [hchecked])
          exact hsame
      · rfl
  | ends c => exact abs_setPhase (by simp)
  | restore c systemId =>
      simp only [next, label, run_nil]
      split
      · next hidle =>
          -- what an admitted cluster may add is as before
          simp only [abs, stanza]
          congr 1
          funext d
          obtain rfl | hne := eq_or_ne d c
          · rw [if_neg (by simp [hidle]), if_neg (by simp [hidle])]
          · rw [Function.update_of_ne hne]
      · rfl

end Simulation

/-! ## one cluster at a time -/

/-- The output of `pg_controldata`, as far as it matters. -/
def someControlData (id : Nat) : String :=
  "pg_control version number:            1300" ++ String.singleton '\n' ++
    ("Database system identifier:          " ++ String.singleton ' ' ++ toString id)

theorem systemIdentifier_someControlData (id : Nat) :
    systemIdentifier (someControlData id) = .ok (toString id) :=
  systemIdentifier_lines (by decide +kernel) (by decide +kernel) (by decide +kernel)
    (by decide +kernel) id

/-- `stanza-create`: a stanza that is there has to be that of the database. -/
def createStanza (stanza : Stanza) (stanzas : List Stanza) : Option (List Stanza) :=
  match stanzas.find? (·.name == stanza.name) with
  | some x => if x = stanza then some stanzas else none
  | none => some (stanzas ++ [stanza])

/-- The tools create the stanza, and no other. -/
theorem mem_createStanza {stanza : Stanza} {stanzas stanzas' : List Stanza}
    (h : createStanza stanza stanzas = some stanzas') (x : Stanza) :
    x ∈ stanzas' ↔ x ∈ stanzas ∨ x = stanza := by
  rw [createStanza] at h
  split at h
  · next y hfind =>
      split at h
      · next hy =>
          subst hy
          cases h
          refine (or_iff_left_of_imp ?_).symm
          rintro rfl
          exact List.mem_of_find?_eq_some hfind
      · cases h
  · cases h
    simp

def someTools : Tools where
  controlData := someControlData
  systemIdentifier_controlData := systemIdentifier_someControlData
  stanzaCreate := createStanza
  mem_stanzaCreate := mem_createStanza

/-- Two applications of one model, and one of another model with the names of the first. -/
def threeClusters : Fin 3 → S3Cluster
  | 0 => ⟨"1f0c", "production", "postgresql-k8s", by decide, by decide⟩
  | 1 => ⟨"1f0c", "production", "archive", by decide, by decide⟩
  | 2 => ⟨"77aa", "production", "postgresql-k8s", by decide, by decide⟩

/-- The steps of an initialisation that nothing stops. -/
def initialisation (c : Fin 3) : List (SharingEvent (Fin 3)) :=
  [.readUuid c true, .info c .listed, .stanzaCreate c (.exited () ""), .check c true,
    .upload c true]

def firstIds : Fin 3 → Nat := fun c => 7000 + c.val

/-- The three clusters start with identifiers of their own. -/
theorem firstIds_injective : Function.Injective firstIds := by
  intro c d h
  exact Fin.ext (Nat.add_left_cancel h)

section Runs

variable [DecidableEq ι] {first : ι → Nat} {es : List (SharingEvent ι)} {x y : Stanza}

/-- A cluster creates its stanza only while no other one is between its check and its
creation. -/
def Exclusive (s : SharedRepository ι) : SharingEvent ι → Prop
  | .stanzaCreate c (.exited _ _) => ∀ d, s.phase d = .admitted → d = c
  | _ => True

instance [Fintype ι] (s : SharedRepository ι) : ∀ e, Decidable (s.Exclusive e)
  | .stanzaCreate c (.exited _ _) =>
      inferInstanceAs (Decidable (∀ d, s.phase d = .admitted → d = c))
  | .stanzaCreate _ (.failed ..) | .stanzaCreate _ (.changeError _)
  | .stanzaCreate _ (.raised _) | .readUuid .. | .info .. | .check .. | .upload .. | .ends _
  | .restore .. => .isTrue trivial

/-- A run without overlapping creations is one in which nobody acts in between. -/
theorem alone_label (s : SharedRepository ι) (e : SharingEvent ι) (h : s.Exclusive e) :
    Along CheckThenAct.step CheckThenAct.Alone (s.abs clusters) (s.label tools clusters e) := by
  cases e with
  | info c answer =>
      simp only [label]
      split
      · split <;> simp [CheckThenAct.Alone]
      · trivial
  | stanzaCreate c outcome =>
      simp only [label]
      split
      · cases outcome with
        | exited stdout stderr =>
            dsimp only
            split
            · refine ⟨fun d hd => h d ?_, trivial⟩
              by_contra hphase
              simp only [abs, if_neg hphase] at hd
              cases hd
            · trivial
        | changeError text => exact ⟨trivial, trivial⟩
        | failed text stdout stderr => trivial
        | raised name => trivial
      · trivial
  | ends c => exact ⟨trivial, trivial⟩
  | readUuid c works => trivial
  | check c works => trivial
  | upload c works => trivial
  | restore c systemId => trivial

variable (clusters first) in
omit [DecidableEq ι] in
theorem inv_initial : CheckThenAct.Inv (abs clusters (initial first)) where
  subsingleton x hx := by cases hx
  passed c x hx x' hx' := by cases hx'

/-- The run of the collection that a run of the repository is. -/
theorem abs_run_next (es : List (SharingEvent ι)) (h : Tracks clusters first s) :
    (run (next tools clusters) s es).abs clusters = run CheckThenAct.step (s.abs clusters)
      (trace (next tools clusters) (label tools clusters) s es) :=
  abs_run tracks_next (fun s e ht => abs_next s e ht.name_ne) es h

/-- **No repository is shared**, unless a cluster creates its stanza while another one is
between its check and its creation, or one of the two was restored and both have the
same stanza name. -/
theorem one_cluster (hfirst : Function.Injective first)
    (hes : Along (next tools clusters) Exclusive (initial first) es)
    (hc : (run (next tools clusters) (initial first) es).uses c = some x)
    (hd : (run (next tools clusters) (initial first) es).uses d = some y) :
    c = d ∨ (clusters c).stanzaName = (clusters d).stanzaName ∧
      ((run (next tools clusters) (initial first) es).restored c = true ∨
        (run (next tools clusters) (initial first) es).restored d = true) := by
  have htracks := tracks_run tools clusters first es
  obtain ⟨hx, hxname, hxid⟩ := htracks.used c x hc
  obtain ⟨hy, hyname, hyid⟩ := htracks.used d y hd
  have hsame : x = y := by
    have hone := CheckThenAct.run_subsingleton (inv_initial clusters first)
      (along_trace tracks_next (fun s e ht => abs_next s e ht.name_ne)
        (fun s e _ => alone_label s e) (tracks_initial clusters first) hes)
    rw [← abs_run_next es (tracks_initial clusters first)] at hone
    exact hone hx hy
  subst hsame
  by_cases hrestored : (run (next tools clusters) (initial first) es).restored c = true ∨
      (run (next tools clusters) (initial first) es).restored d = true
  · exact .inr ⟨hxname.symm.trans hyname, hrestored⟩
  · rw [not_or, Bool.not_eq_true, Bool.not_eq_true] at hrestored
    exact .inl (hfirst ((hxid hrestored.1).symm.trans (hyid hrestored.2)))

/-- Two clusters have created stanzas after a restore of the second. -/
theorem one_cluster_moved :
    (0 : Fin 3) = 2 ∨ (threeClusters 0).stanzaName = (threeClusters 2).stanzaName ∧
      ((run (next someTools threeClusters) (initial firstIds) (initialisation 0 ++
          [.restore 2 7000, .readUuid 2 false, .info 2 .listed,
            .stanzaCreate 2 (.exited () "")])).restored 0 = true ∨
        (run (next someTools threeClusters) (initial firstIds) (initialisation 0 ++
          [.restore 2 7000, .readUuid 2 false, .info 2 .listed,
            .stanzaCreate 2 (.exited () "")])).restored 2 = true) :=
  one_cluster firstIds_injective (by decide +kernel)
    (show _ = some ⟨"production.patroni-postgresql-k8s", 7000⟩ by decide +kernel)
    (show _ = some ⟨"production.patroni-postgresql-k8s", 7000⟩ by decide +kernel)

/-- **Whom the check admits**, where no cluster has been restored: the cluster that uses
the repository, or any where none does, if the file is not that of another model. -/
theorem admitted_iff (hfirst : Function.Injective first) (es : List (SharingEvent ι))
    (hrestored : ∀ c, (run (next tools clusters) (initial first) es).restored c = false) (c : ι) :
    (run (next tools clusters) (initial first) es).canUse tools clusters c
        (run (next tools clusters) (initial first) es).modelUuid .listed = .ok none ↔
      (∀ u, (run (next tools clusters) (initial first) es).modelUuid = some u →
        u = (clusters c).modelUuid) ∧
      ∀ d, ((run (next tools clusters) (initial first) es).uses d).isSome → d = c := by
  have htracks := tracks_run tools clusters first es
  generalize run (next tools clusters) (initial first) es = s at *
  rw [canUse_eq_none_iff htracks.name_ne, and_iff_right rfl]
  refine and_congr ?_ ?_
  · cases huuid : s.modelUuid with
    | none => exact iff_of_true (.inl rfl) fun u hu => by cases hu
    | some u =>
        obtain ⟨d, rfl⟩ := htracks.uuid u huuid
        rw [SameModel, Option.getD_some, (clusters d).strip_modelUuid,
          or_iff_right (clusters d).modelUuid_ne]
        constructor
        · rintro h _ ⟨⟩
          exact h
        · exact fun h => h _ rfl
  · constructor
    · intro hall d hd
      obtain ⟨x, hx⟩ := Option.isSome_iff_exists.mp hd
      obtain ⟨hmem, -, hid⟩ := htracks.used d x hx
      refine hfirst ((hid (hrestored d)).symm.trans ?_)
      rw [hall x hmem]
      exact htracks.own c (hrestored c)
    · intro honly x hx
      obtain ⟨d, hd, hname, hid⟩ := htracks.user x hx
      obtain rfl := honly d hd
      obtain ⟨xname, xid⟩ := x
      rw [stanza, htracks.own d (hrestored d), ← hid (hrestored d), ← hname]

/-- The check of the second cluster, once the first has been initialised. -/
theorem admitted_iff_archive :
    (run (next someTools threeClusters) (initial firstIds) (initialisation 0)).canUse someTools
        threeClusters 1
        (run (next someTools threeClusters) (initial firstIds) (initialisation 0)).modelUuid
        .listed = .ok none ↔
      (∀ u, (run (next someTools threeClusters) (initial firstIds)
        (initialisation 0)).modelUuid = some u → u = (threeClusters 1).modelUuid) ∧
      ∀ d, ((run (next someTools threeClusters) (initial firstIds)
        (initialisation 0)).uses d).isSome → d = 1 :=
  admitted_iff firstIds_injective (initialisation 0) (by decide +kernel) 1

/-- **A shared repository admits nobody**: once there are two stanzas, no cluster passes
the check again, whatever happens. -/
theorem refused_for_good (es es' : List (SharingEvent ι)) (hne : x ≠ y)
    (hx : x ∈ (run (next tools clusters) (initial first) es).stanzas)
    (hy : y ∈ (run (next tools clusters) (initial first) es).stanzas) (c : ι)
    (s3ModelUuid : Option String) :
    (∀ answer, (run (next tools clusters) (initial first) (es ++ es')).canUse tools clusters c
        s3ModelUuid answer ≠ .ok none) ∧
      (run (next tools clusters) (initial first) (es ++ es')).canUse tools clusters c
        s3ModelUuid .listed = .ok (some anotherClusterRepositoryErrorMessage) := by
  have htracks := tracks_run tools clusters first (es ++ es')
  have hmany :
      ¬((run (next tools clusters) (initial first) es).abs clusters).entries.Subsingleton :=
    fun hone => hne (hone hx hy)
  have hnone := CheckThenAct.check_refused hmany (trace (next tools clusters)
    (label tools clusters) (run (next tools clusters) (initial first) es) es')
  rw [← abs_run_next es' (tracks_run tools clusters first es), ← run_append] at hnone
  refine ⟨fun answer hanswer => ?_, ?_⟩
  · exact hnone _ ((canUse_eq_none_iff htracks.name_ne).mp hanswer).2.2
  · rw [canUse_listed htracks.name_ne, if_neg fun h => hnone _ h.2]

/-- Two initialisations that meet between the check and the creation. -/
def overlapping : List (SharingEvent (Fin 3)) :=
  [.readUuid 0 true, .info 0 .listed, .readUuid 1 true, .info 1 .listed,
    .stanzaCreate 0 (.exited () ""), .stanzaCreate 1 (.exited () "")]

/-- After two overlapping initialisations the first cluster is refused. -/
theorem refused_for_good_overlapping :
    (∀ answer, (run (next someTools threeClusters) (initial firstIds)
        (overlapping ++ [.ends 0])).canUse someTools threeClusters 0 none answer ≠ .ok none) ∧
      (run (next someTools threeClusters) (initial firstIds) (overlapping ++ [.ends 0])).canUse
        someTools threeClusters 0 none .listed =
          .ok (some anotherClusterRepositoryErrorMessage) :=
  refused_for_good overlapping [.ends 0]
    (show (⟨"production.patroni-postgresql-k8s", 7000⟩ : Stanza) ≠
      ⟨"production.patroni-archive", 7001⟩ by decide)
    (by decide +kernel) (by decide +kernel) 0 none

/-! ## the file -/

/-- The clusters of other models have not come further than reading the file. -/
structure KeptOut (clusters : ι → S3Cluster) (c₀ : ι) (uses : ι → Option Stanza)
    (s : SharedRepository ι) : Prop where
  uuid : s.modelUuid = some (clusters c₀).modelUuid
  uses : ∀ c, (clusters c).modelUuid ≠ (clusters c₀).modelUuid → s.uses c = uses c
  phase : ∀ c, (clusters c).modelUuid ≠ (clusters c₀).modelUuid →
    s.phase c = .idle ∨ s.phase c = .uuidRead (some (clusters c₀).modelUuid)

section File

variable {c₀ : ι} {uses : ι → Option Stanza} {phase : Phase}

theorem KeptOut.setPhase (h : KeptOut clusters c₀ uses s) (c : ι)
    (hphase : (clusters c).modelUuid ≠ (clusters c₀).modelUuid →
      phase = .idle ∨ phase = .uuidRead (some (clusters c₀).modelUuid)) :
    KeptOut clusters c₀ uses (s.setPhase c phase) := by
  refine ⟨h.uuid, h.uses, fun d hd => ?_⟩
  obtain rfl | hne := eq_or_ne d c
  · rw [setPhase_phase_self]
    exact hphase hd
  · rw [setPhase_phase_of_ne hne]
    exact h.phase d hd

omit [DecidableEq ι] in
/-- A cluster that has passed the check is one of the model. -/
theorem KeptOut.same (h : KeptOut clusters c₀ uses s)
    (hphase : s.phase c = .admitted ∨ s.phase c = .created ∨ s.phase c = .checked) :
    (clusters c).modelUuid = (clusters c₀).modelUuid := by
  by_contra hne
  obtain hidle | hread := h.phase c hne
  · simp [hidle] at hphase
  · simp [hread] at hphase

/-- A check that reads the recorded model admits no cluster of another one. -/
theorem keptOut_info (h : KeptOut clusters c₀ uses s) (c : ι) (answer : InfoAnswer) :
    KeptOut clusters c₀ uses (s.next tools clusters (.info c answer)) := by
  simp only [next]
  split
  · next s3ModelUuid hread =>
      split
      · next hnone =>
          refine h.setPhase c fun hne => ?_
          -- the file that was read is that of another model
          have hfile : s3ModelUuid = some (clusters c₀).modelUuid := by
            obtain hidle | hread' := h.phase c hne
            · simp [hidle] at hread
            · simpa [hread] using hread'
          have hother : ¬SameModel clusters c s3ModelUuid := by
            rw [hfile, SameModel, Option.getD_some, (clusters c₀).strip_modelUuid, not_or]
            exact ⟨(clusters c₀).modelUuid_ne, Ne.symm hne⟩
          rw [canUse_of_not_sameModel hother] at hnone
          cases hnone
      · exact h.setPhase c fun _ => .inl rfl
  · exact h

/-- No stanza of another model is created. -/
theorem keptOut_stanzaCreate (h : KeptOut clusters c₀ uses s) (c : ι)
    (outcome : CommandOutcome Unit) :
    KeptOut clusters c₀ uses (s.next tools clusters (.stanzaCreate c outcome)) := by
  simp only [next]
  split
  · next hadmitted =>
      have hsame := h.same (.inl hadmitted)
      have hphase : KeptOut clusters c₀ uses (s.setPhase c .created) :=
        h.setPhase c fun hne => absurd hsame hne
      cases outcome with
      | exited stdout stderr =>
          rw [SharedRepository.stanzaCreate]
          split
          · refine ⟨hphase.uuid, fun d hd => ?_, hphase.phase⟩
            have hne : d ≠ c := by
              rintro rfl
              exact hd hsame
            exact (Function.update_of_ne hne ..).trans (h.uses d hd)
          · exact h
      | changeError text => exact hphase
      | failed text stdout stderr => exact h
      | raised name => exact h
  · exact h

/-- Uploading the file records the same model again. -/
theorem keptOut_upload (h : KeptOut clusters c₀ uses s) (c : ι) (works : Bool) :
    KeptOut clusters c₀ uses (s.next tools clusters (.upload c works)) := by
  simp only [next]
  split
  · next hchecked =>
      have hphase : KeptOut clusters c₀ uses (s.setPhase c .idle) := h.setPhase c fun _ => .inl rfl
      refine ⟨?_, hphase.uses, hphase.phase⟩
      split
      · exact congrArg some (h.same (.inr (.inr hchecked)))
      · exact h.uuid
  · exact h

/-- **Step**: the recorded model stays, and no cluster of another one is admitted. -/
theorem keptOut_next (s : SharedRepository ι) (e : SharingEvent ι)
    (h : KeptOut clusters c₀ uses s) (hreads : ∀ c, e ≠ .readUuid c false) :
    KeptOut clusters c₀ uses (s.next tools clusters e) := by
  cases e with
  | readUuid c works =>
      simp only [next]
      split
      · refine h.setPhase c fun _ => .inr ?_
        cases works with
        | true => rw [if_pos rfl, h.uuid]
        | false => exact absurd rfl (hreads c)
      · exact h
  | info c answer => exact keptOut_info h c answer
  | stanzaCreate c outcome => exact keptOut_stanzaCreate h c outcome
  | check c works =>
      simp only [next]
      split
      · next hcreated =>
          exact h.setPhase c fun hne => absurd (h.same (.inr (.inl hcreated))) hne
      · exact h
  | upload c works => exact keptOut_upload h c works
  | ends c => exact h.setPhase c fun _ => .inl rfl
  | restore c systemId =>
      simp only [next]
      split
      · exact ⟨h.uuid, h.uses, h.phase⟩
      · exact h

/-- **The file keeps other models out**: once it names a model, while no cluster of
another one is under way and as long as every read of it works, no cluster of another
model passes the check, whatever its stanza and its system identifier. -/
theorem other_models_kept_out (huuid : s.modelUuid = some (clusters c₀).modelUuid)
    (hidle : ∀ c, (clusters c).modelUuid ≠ (clusters c₀).modelUuid → s.phase c = .idle)
    (hreads : ∀ c, SharingEvent.readUuid c false ∉ es) :
    (run (next tools clusters) s es).modelUuid = some (clusters c₀).modelUuid ∧
      ∀ c, (clusters c).modelUuid ≠ (clusters c₀).modelUuid →
        (run (next tools clusters) s es).uses c = s.uses c ∧
          (run (next tools clusters) s es).phase c ≠ .admitted := by
  have hguard : Along (next tools clusters) (fun _ e => ∀ c, e ≠ .readUuid c false) s es :=
    along_of_forall fun e he _ c heq => hreads c (heq ▸ he)
  have hs : KeptOut clusters c₀ s.uses s := ⟨huuid, fun _ _ => rfl, fun c hc => .inl (hidle c hc)⟩
  have hrun := run_of_along (KeptOut clusters c₀ s.uses) keptOut_next hs hguard
  refine ⟨hrun.uuid, fun c hc => ⟨hrun.uses c hc, fun hadmitted => ?_⟩⟩
  exact hc (hrun.same (.inl hadmitted))

/-- A restored cluster of the same model, and those of other models. -/
theorem other_models_kept_out_moved :
    (run (next someTools threeClusters)
        (run (next someTools threeClusters) (initial firstIds) (initialisation 0))
        (.restore 2 7000 :: initialisation 2)).modelUuid = some (threeClusters 0).modelUuid ∧
      ∀ c, (threeClusters c).modelUuid ≠ (threeClusters 0).modelUuid →
        (run (next someTools threeClusters)
            (run (next someTools threeClusters) (initial firstIds) (initialisation 0))
            (.restore 2 7000 :: initialisation 2)).uses c =
          (run (next someTools threeClusters) (initial firstIds) (initialisation 0)).uses c ∧
        (run (next someTools threeClusters)
            (run (next someTools threeClusters) (initial firstIds) (initialisation 0))
            (.restore 2 7000 :: initialisation 2)).phase c ≠ .admitted :=
  other_models_kept_out (by decide +kernel) (by decide +kernel) (by
    intro c hc
    simp [initialisation] at hc)

end File

end Runs

end SharedRepository

end Sharing

end PostgresqlK8s.Backups
