import PostgresqlK8s.Lib.StateExcept
import PostgresqlK8s.LegacyDb.DbProvides

/-!
# Database.CreateDatabase

The creation of a database for a relation, and the privileges that its user
gets there.  The user owns the database when the relation is the only one that
refers to it.  The code counts the databags that name the database, not the
relations (`ownedByUse_iff`).
-/

namespace PostgresqlK8s.Database

/-! ## statements -/

/-- The statements that are sent, by what they do. -/
inductive Statement
  /-- `SELECT datname FROM pg_database WHERE datname=…` -/
  | selectDatabase (database : String)
  | createDatabase (database : String)
  /-- `REVOKE ALL PRIVILEGES ON DATABASE … FROM PUBLIC` -/
  | revokeAllFromPublic (database : String)
  /-- `GRANT ALL PRIVILEGES ON DATABASE … TO …` -/
  | grantAllOnDatabase (database user : String)
  /-- The schemas, without those of the system. -/
  | selectSchemas
  /-- The `DO` block that gives every table, sequence, function, procedure,
  aggregate and view to a user. -/
  | ownObjects (user : String)
  /-- The large objects of the operator become those of a user. -/
  | ownLargeObjects (user operator : String)
  /-- `ALTER SCHEMA … OWNER TO …` -/
  | ownSchema (schema user : String)
  /-- `GRANT ALL PRIVILEGES ON ALL TABLES IN SCHEMA … TO …` -/
  | grantTables (schema user : String)
  /-- `GRANT ALL PRIVILEGES ON ALL SEQUENCES IN SCHEMA … TO …` -/
  | grantSequences (schema user : String)
  /-- `GRANT ALL PRIVILEGES ON ALL FUNCTIONS IN SCHEMA … TO …` -/
  | grantFunctions (schema user : String)
  /-- `GRANT USAGE ON SCHEMA … TO …` -/
  | grantUsage (schema user : String)
  /-- `GRANT CREATE ON SCHEMA … TO …` -/
  | grantCreate (schema user : String)
deriving DecidableEq, Repr

/-- The statements that transfer the ownership. -/
def ownershipStatements (operator : String) (schemas : List String) (user : String) :
    List Statement :=
  [.ownObjects user, .ownLargeObjects user operator] ++ schemas.map fun schema =>
    .ownSchema schema user

/-- The statements that only grant privileges. -/
def grantStatements (schemas : List String) (user : String) : List Statement :=
  schemas.flatMap fun schema => [.grantTables schema user, .grantSequences schema user,
    .grantFunctions schema user, .grantUsage schema user, .grantCreate schema user]

/-- `_generate_database_privileges_statements`. -/
def generateDatabasePrivilegesStatements (operator : String)
    (relationsAccessingThisDatabase : Nat) (schemas : List String) (user : String) :
    List Statement :=
  if relationsAccessingThisDatabase = 1 then ownershipStatements operator schemas user
  else grantStatements schemas user

/-! ## relations -/

/-- A relation of a client, with the databags in it. -/
structure ClientRelation where
  remoteUnits : List (Databag String)
  remoteApp : Databag String
  ownUnit : Databag String
  ownApp : Databag String

namespace ClientRelation

/-- `relation.data.values()`. -/
def data (r : ClientRelation) : List (Databag String) :=
  r.remoteUnits ++ [r.remoteApp, r.ownUnit, r.ownApp]

/-- The databags that name the database. -/
def naming (database : String) (r : ClientRelation) : Nat :=
  (r.data.filter fun databag => databag.get "database" = some database).length

/-- The relation refers to the database. -/
def Refers (database : String) (r : ClientRelation) : Prop :=
  ∃ databag ∈ r.data, databag.get "database" = some database

theorem refers_iff {database : String} {r : ClientRelation} :
    r.Refers database ↔ 1 ≤ r.naming database := by
  rw [Refers, naming, Nat.one_le_iff_ne_zero, ne_eq, List.length_eq_zero_iff,
    List.filter_eq_nil_iff]
  simp

instance (database : String) (r : ClientRelation) : Decidable (r.Refers database) :=
  decidable_of_iff _ refers_iff.symm

end ClientRelation

/-- The loop that counts over the relations and their databags. -/
def relationsAccessing (database : String) (clientRelations : List ClientRelation) : Nat :=
  clientRelations.foldl (fun n relation =>
    relation.data.foldl (fun n databag =>
      if databag.get "database" = some database then n + 1 else n) n) 0

/-! ## create_database -/

/-- What ends the creation of a database. -/
inductive CreationFailure
  /-- `psycopg2.Error`. -/
  | database
  | createDatabase
  | enableDisableExtension
deriving DecidableEq, Repr

/-- The cluster, as far as the creation of a database goes. -/
structure Cluster where
  /-- Whether a connection to a database, or to the default one, is made. -/
  connects : Option String → Bool
  executes : List Statement → Statement → Bool
  databaseExists : String → Bool
  schemas : List String
  /-- `self.user`. -/
  operator : String
  systemUsers : List String

abbrev Creation := EStateM CreationFailure (List Statement)

namespace Cluster

variable (c : Cluster)

def connect (database : Option String) : Creation Unit :=
  if c.connects database then pure () else throw .database

/-- `cursor.execute`. -/
def execute (statement : Statement) : Creation Unit := do
  let sent ← get
  set (sent ++ [statement])
  if c.executes sent statement then pure () else throw .database

/-- Statements one after another. -/
def executeAll : List Statement → Creation Unit
  | [] => pure ()
  | statement :: statements => do
      c.execute statement
      executeAll statements

/-- A database that is not there yet is created. -/
def createMissing (database : String) : Creation Unit :=
  if c.databaseExists database then pure () else c.execute (.createDatabase database)

/-- The `try` block of `create_database`. -/
def setUpDatabase (database user : String) (clientRelations : List ClientRelation) :
    Creation Unit := do
  c.connect none
  c.execute (.selectDatabase database)
  c.createMissing database
  c.execute (.revokeAllFromPublic database)
  c.executeAll ((user :: "admin" :: c.systemUsers).map (.grantAllOnDatabase database))
  c.connect (some database)
  c.execute .selectSchemas
  c.executeAll (generateDatabasePrivilegesStatements c.operator
    (relationsAccessing database clientRelations) c.schemas user)

/-- `create_database`; `enableDisableExtensions` turns plugins on. -/
def createDatabase (enableDisableExtensions : List String → String → Creation Unit)
    (database user : String) (plugins : List String) (clientRelations : List ClientRelation) :
    Creation Unit := do
  tryCatch (c.setUpDatabase database user clientRelations) fun
    | .database => throw .createDatabase
    | e => throw e
  if plugins ≠ [] then enableDisableExtensions plugins database

end Cluster

/-! ## ownership by use -/

/-- Exactly one relation refers to the database. -/
def ExactlyOne (database : String) (clientRelations : List ClientRelation) : Prop :=
  (clientRelations.filter (·.Refers database)).length = 1

instance (database : String) (clientRelations : List ClientRelation) :
    Decidable (ExactlyOne database clientRelations) := inferInstanceAs (Decidable (_ = 1))

namespace Cluster

variable (c : Cluster)

/-- Every connection is made, and every statement executed. -/
structure Healthy : Prop where
  connects : ∀ database, c.connects database = true
  executes : ∀ sent statement, c.executes sent statement = true

/-- What is sent before the privileges. -/
def preamble (database user : String) : List Statement :=
  [.selectDatabase database] ++
    (if c.databaseExists database then [] else [.createDatabase database]) ++
    [.revokeAllFromPublic database] ++
    (user :: "admin" :: c.systemUsers).map (.grantAllOnDatabase database) ++ [.selectSchemas]

end Cluster

/-- Behind the preamble, and before plugins are turned on, the ownership is
transferred if exactly one relation refers to the database, and privileges are
granted otherwise. -/
def OwnedByUse (database : String) (clientRelations : List ClientRelation) : Prop :=
  ∀ c : Cluster, c.Healthy → ∀ user plugins enableDisableExtensions,
    (c.createDatabase enableDisableExtensions database user plugins clientRelations).run [] =
      (if plugins ≠ [] then enableDisableExtensions plugins database
        else pure () : Creation Unit).run
        (c.preamble database user ++
          if ExactlyOne database clientRelations then
            ownershipStatements c.operator c.schemas user
          else grantStatements c.schemas user)

/-- A relation that alone refers to the database names it in one databag. -/
def NamedOnceAlone (database : String) (clientRelations : List ClientRelation) : Prop :=
  ∀ front r rest, clientRelations = front ++ r :: rest → r.Refers database →
    (∀ r' ∈ front ++ rest, ¬r'.Refers database) → r.naming database = 1

/-! ## what a healthy cluster is sent -/

namespace Cluster

variable {c : Cluster} (h : c.Healthy)
include h

theorem run_execute (statement : Statement) (sent : List Statement) :
    (c.execute statement).run sent = .ok () (sent ++ [statement]) := by
  change (if c.executes sent statement then pure () else throw .database : Creation Unit)
    (sent ++ [statement]) = _
  rw [h.executes]
  rfl

theorem run_connect (database : Option String) (sent : List Statement) :
    (c.connect database).run sent = .ok () sent := by
  rw [connect, h.connects]
  rfl

theorem run_executeAll (statements sent : List Statement) :
    (c.executeAll statements).run sent = .ok () (sent ++ statements) := by
  induction statements generalizing sent with
  | nil =>
    rw [List.append_nil]
    rfl
  | cons statement statements ih =>
    rw [executeAll, EStateM.run_bind_of_ok (run_execute h statement sent), ih, List.append_assoc]
    rfl

theorem run_createMissing (database : String) (sent : List Statement) :
    (c.createMissing database).run sent = .ok () (sent ++
      if c.databaseExists database then [] else [.createDatabase database]) := by
  rw [createMissing]
  split
  · rw [List.append_nil]
    rfl
  · exact run_execute h _ sent

theorem run_setUpDatabase (database user : String) (clientRelations : List ClientRelation) :
    (c.setUpDatabase database user clientRelations).run [] =
      .ok () (c.preamble database user ++ generateDatabasePrivilegesStatements c.operator
        (relationsAccessing database clientRelations) c.schemas user) := by
  rw [setUpDatabase, EStateM.run_bind_of_ok (run_connect h _ _),
    EStateM.run_bind_of_ok (run_execute h _ _), EStateM.run_bind_of_ok (run_createMissing h _ _),
    EStateM.run_bind_of_ok (run_execute h _ _), EStateM.run_bind_of_ok (run_executeAll h _ _),
    EStateM.run_bind_of_ok (run_connect h _ _), EStateM.run_bind_of_ok (run_execute h _ _),
    run_executeAll h]
  rfl

theorem run_createDatabase (enableDisableExtensions : List String → String → Creation Unit)
    (database user : String) (plugins : List String) (clientRelations : List ClientRelation) :
    (c.createDatabase enableDisableExtensions database user plugins clientRelations).run [] =
      (if plugins ≠ [] then enableDisableExtensions plugins database
        else pure () : Creation Unit).run
        (c.preamble database user ++ generateDatabasePrivilegesStatements c.operator
          (relationsAccessing database clientRelations) c.schemas user) := by
  rw [createDatabase, EStateM.run_bind_of_ok (EStateM.run_tryCatch_of_ok
    (run_setUpDatabase h database user clientRelations))]

end Cluster

/-! ## databags and relations -/

/-- A loop that counts adds up. -/
theorem foldl_naming (database : String) (databags : List (Databag String)) (n : Nat) :
    databags.foldl (fun n databag =>
        if databag.get "database" = some database then n + 1 else n) n =
      n + (databags.filter fun databag => databag.get "database" = some database).length := by
  induction databags generalizing n with
  | nil => rfl
  | cons databag databags ih =>
    rw [List.foldl_cons, ih]
    by_cases hnames : databag.get "database" = some database
    · rw [if_pos hnames, List.filter_cons_of_pos (by simpa using hnames), List.length_cons]
      omega
    · rw [if_neg hnames, List.filter_cons_of_neg (by simpa using hnames)]

theorem relationsAccessing_eq (database : String) (clientRelations : List ClientRelation) :
    relationsAccessing database clientRelations =
      (clientRelations.map (·.naming database)).sum := by
  have hfold (n : Nat) : clientRelations.foldl (fun n relation =>
      relation.data.foldl (fun n databag =>
        if databag.get "database" = some database then n + 1 else n) n) n =
      n + (clientRelations.map (·.naming database)).sum := by
    induction clientRelations generalizing n with
    | nil => rfl
    | cons relation clientRelations ih =>
      rw [List.foldl_cons, ih, foldl_naming, List.map_cons, List.sum_cons, Nat.add_assoc]
      rfl
  rw [relationsAccessing, hfold, Nat.zero_add]

section Count

variable {database : String} {clientRelations : List ClientRelation}

/-- Every relation that refers to the database is counted. -/
theorem length_filter_le_relationsAccessing :
    (clientRelations.filter (·.Refers database)).length ≤
      relationsAccessing database clientRelations := by
  rw [relationsAccessing_eq]
  induction clientRelations with
  | nil => exact Nat.le_refl 0
  | cons relation clientRelations ih =>
    rw [List.map_cons, List.sum_cons]
    by_cases hrefers : relation.Refers database
    · have hnaming := ClientRelation.refers_iff.mp hrefers
      rw [List.filter_cons_of_pos (by simpa using hrefers), List.length_cons]
      omega
    · rw [List.filter_cons_of_neg (by simpa using hrefers)]
      omega

/-- A relation that does not refer to the database is not counted. -/
theorem sum_naming_eq_zero (h : ∀ r ∈ clientRelations, ¬r.Refers database) :
    (clientRelations.map (·.naming database)).sum = 0 := by
  induction clientRelations with
  | nil => rfl
  | cons r clientRelations ih =>
    rw [List.forall_mem_cons, ClientRelation.refers_iff] at h
    have hrest := ih h.2
    rw [List.map_cons, List.sum_cons]
    omega

/-- Of the only relation that refers to the database all databags are counted
that name it. -/
theorem relationsAccessing_of_alone {front rest : List ClientRelation} {r : ClientRelation}
    (h : ∀ r' ∈ front ++ rest, ¬r'.Refers database) :
    relationsAccessing database (front ++ r :: rest) = r.naming database := by
  rw [List.forall_mem_append] at h
  rw [relationsAccessing_eq, List.map_append, List.map_cons, List.sum_append, List.sum_cons,
    sum_naming_eq_zero h.1, sum_naming_eq_zero h.2]
  omega

/-- One relation refers to the database if it does and no other does. -/
theorem exactlyOne_iff : ExactlyOne database clientRelations ↔
    ∃ front r rest, clientRelations = front ++ r :: rest ∧ r.Refers database ∧
      ∀ r' ∈ front ++ rest, ¬r'.Refers database := by
  rw [ExactlyOne, List.length_eq_one_iff]
  constructor
  · rintro ⟨r, hr⟩
    obtain ⟨front, rest, hsplit, hfront, hrefers, hrest⟩ := List.filter_eq_cons_iff.mp hr
    refine ⟨front, r, rest, hsplit, by simpa using hrefers, ?_⟩
    rw [List.forall_mem_append]
    exact ⟨by simpa using hfront, by simpa using List.filter_eq_nil_iff.mp hrest⟩
  · rintro ⟨front, r, rest, rfl, hrefers, hothers⟩
    rw [List.forall_mem_append] at hothers
    refine ⟨r, List.filter_eq_cons_iff.mpr ⟨front, rest, rfl, ?_, by simpa using hrefers, ?_⟩⟩
    · simpa using hothers.1
    · rw [List.filter_eq_nil_iff]
      simpa using hothers.2

/-- The count is one exactly when one relation refers to the database, unless
that relation does so in several databags. -/
theorem relationsAccessing_eq_one_iff :
    (relationsAccessing database clientRelations = 1 ↔ ExactlyOne database clientRelations) ↔
      NamedOnceAlone database clientRelations := by
  constructor
  · intro h front r rest hsplit hrefers hothers
    have hone := h.mpr (exactlyOne_iff.mpr ⟨front, r, rest, hsplit, hrefers, hothers⟩)
    rw [hsplit, relationsAccessing_of_alone hothers] at hone
    exact hone
  · intro h
    constructor
    · intro hone
      have hle : (clientRelations.filter (·.Refers database)).length ≤ _ :=
        length_filter_le_relationsAccessing
      have hne : (clientRelations.filter (·.Refers database)).length ≠ 0 := by
        intro hzero
        have hnone : ∀ r ∈ clientRelations, ¬r.Refers database := by
          rw [List.length_eq_zero_iff, List.filter_eq_nil_iff] at hzero
          simpa using hzero
        rw [relationsAccessing_eq, sum_naming_eq_zero hnone] at hone
        cases hone
      rw [ExactlyOne]
      omega
    · intro hexactly
      obtain ⟨front, r, rest, hsplit, hrefers, hothers⟩ := exactlyOne_iff.mp hexactly
      have hnaming := h front r rest hsplit hrefers hothers
      rw [hsplit, relationsAccessing_of_alone hothers, hnaming]

end Count

/-- A cluster without schemas that does everything. -/
def healthyCluster : Cluster where
  connects _ := true
  executes _ _ := true
  databaseExists _ := true
  schemas := []
  operator := "operator"
  systemUsers := []

theorem healthyCluster_healthy : healthyCluster.Healthy := ⟨fun _ => rfl, fun _ _ => rfl⟩

/-- The privileges tell what the count is taken for. -/
theorem count_eq_one_iff_of_ownedByUse {database : String}
    {clientRelations : List ClientRelation} (h : OwnedByUse database clientRelations) :
    relationsAccessing database clientRelations = 1 ↔ ExactlyOne database clientRelations := by
  have hrun := h healthyCluster healthyCluster_healthy "user" [] fun _ _ => pure ()
  rw [Cluster.run_createDatabase healthyCluster_healthy, if_neg (not_not.mpr rfl)] at hrun
  have hsent := List.append_cancel_left (EStateM.Result.ok.inj hrun).2
  rw [generateDatabasePrivilegesStatements] at hsent
  by_cases hcount : relationsAccessing database clientRelations = 1
  · by_cases hone : ExactlyOne database clientRelations
    · exact iff_of_true hcount hone
    · rw [if_pos hcount, if_neg hone] at hsent
      cases hsent
  · by_cases hone : ExactlyOne database clientRelations
    · rw [if_neg hcount, if_pos hone] at hsent
      cases hsent
    · exact iff_of_false hcount hone

/-- The privileges go by use exactly where a relation that alone refers to the
database names it in one databag. -/
theorem ownedByUse_iff (database : String) (clientRelations : List ClientRelation) :
    OwnedByUse database clientRelations ↔ NamedOnceAlone database clientRelations := by
  rw [← relationsAccessing_eq_one_iff]
  constructor
  · exact count_eq_one_iff_of_ownedByUse
  · intro h c hhealthy user plugins enableDisableExtensions
    rw [Cluster.run_createDatabase hhealthy, generateDatabasePrivilegesStatements]
    by_cases hone : ExactlyOne database clientRelations
    · rw [if_pos hone, if_pos (h.mpr hone)]
    · rw [if_neg hone, if_neg (mt h.mp hone)]

/-! ## the legacy relations -/

section Legacy

open LegacyDb (LegacyRelation SetUpAnswers)

/-- A relation on a legacy endpoint, by its databags. -/
def ClientRelation.ofLegacy (r : LegacyRelation) : ClientRelation where
  remoteUnits := r.units.map r.unitData
  remoteApp := r.appData
  ownUnit := r.localUnitData
  ownApp := r.localAppData

variable {r : LegacyRelation} {app : String} {a : SetUpAnswers} {id : Nat} {database : String}

/-- The database is among what is published. -/
theorem get_database_update (data : Databag String) (hdatabase : database ≠ "") :
    (data.update (r.updates app a id database)).get "database" = some database := by
  have hkeys : "database" ∉
      (("extensions", Text.join ',' r.requiredExtensions) ::
        LegacyRelation.versionUpdates a).map Prod.fst := by
    rw [List.map_cons, List.mem_cons, not_or]
    exact ⟨by simp, fun hmem => absurd (LegacyRelation.eq_of_mem_versionUpdates hmem) (by decide)⟩
  have hsplit : r.updates app a id database = (r.updates app a id database).take 8 ++
      ("database", database) :: ("extensions", Text.join ',' r.requiredExtensions) ::
        LegacyRelation.versionUpdates a := rfl
  rw [hsplit, Databag.get_update_of_mem data database hkeys, if_neg hdatabase]

/-- A relation that asks for a database is named by its own databags as well
once it is set up. -/
theorem three_le_naming_publish (h : r.database = some database) :
    3 ≤ (ClientRelation.ofLegacy
      (r.publish (r.updates app a id database))).naming database := by
  obtain ⟨data, hmem, hget⟩ := List.exists_of_findSome?_eq_some h
  have hdatabase : database ≠ "" := by
    intro hempty
    exact data.get_ne_empty "database" (hempty ▸ hget)
  have hremote : 1 ≤ ((r.units.map r.unitData ++ [r.appData]).filter fun databag =>
      databag.get "database" = some database).length := by
    rw [Nat.one_le_iff_ne_zero, ne_eq, List.length_eq_zero_iff, List.filter_eq_nil_iff]
    intro hnone
    rw [LegacyRelation.remoteDatabags, List.mem_cons] at hmem
    have hmem' : data ∈ r.units.map r.unitData ++ [r.appData] := by
      rw [List.mem_append, List.mem_singleton]
      exact hmem.symm
    exact hnone data hmem' (decide_eq_true hget)
  have hdata : (ClientRelation.ofLegacy (r.publish (r.updates app a id database))).data =
      (r.units.map r.unitData ++ [r.appData]) ++
        [r.localUnitData.update (r.updates app a id database),
          r.localAppData.update (r.updates app a id database)] := by
    rw [List.append_assoc]
    rfl
  have hown : ∀ databag ∈ [r.localUnitData.update (r.updates app a id database),
      r.localAppData.update (r.updates app a id database)],
      decide (databag.get "database" = some database) = true := by
    rw [List.forall_mem_cons, List.forall_mem_singleton]
    exact ⟨decide_eq_true (get_database_update _ hdatabase),
      decide_eq_true (get_database_update _ hdatabase)⟩
  rw [ClientRelation.naming, hdata, List.filter_append, List.length_append,
    List.filter_eq_self.mpr hown]
  exact Nat.add_le_add_right hremote 2

/-- A legacy relation that is set up again does not become the owner of the
database that it alone asks for. -/
theorem not_ownedByUse_publish (h : r.database = some database) :
    ¬OwnedByUse database
      [ClientRelation.ofLegacy (r.publish (r.updates app a id database))] := by
  intro howned
  have hnaming := @three_le_naming_publish r app a id database h
  have hcount := count_eq_one_iff_of_ownedByUse howned
  rw [relationsAccessing_eq_one_iff] at hcount
  have hone := hcount [] _ [] rfl (ClientRelation.refers_iff.mpr (Nat.le_trans (by decide) hnaming))
    (by simp)
  omega

end Legacy

/-! ## a relation that was set up before -/

/-- The relation of an application that asks for a database, after this charm
has written the name to its own databags. -/
def writtenBack (database : String) : ClientRelation where
  remoteUnits := []
  remoteApp := (∅ : Databag String).set "database" database
  ownUnit := (∅ : Databag String).set "database" database
  ownApp := (∅ : Databag String).set "database" database

/-- It is the only relation, but its user does not become the owner. -/
theorem not_ownedByUse_writtenBack :
    ¬∀ (database : String) (clientRelations : List ClientRelation),
      OwnedByUse database clientRelations := by
  intro h
  have hone : ExactlyOne "d" [writtenBack "d"] := by decide
  have hcount := (count_eq_one_iff_of_ownedByUse (h "d" [writtenBack "d"])).mpr hone
  revert hcount
  decide

end PostgresqlK8s.Database
