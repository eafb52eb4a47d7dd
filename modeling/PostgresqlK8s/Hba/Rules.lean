import PostgresqlK8s.Lib.Words
import PostgresqlK8s.Hba.UserMap

/-!
# Hba.Rules

The pg_hba section of the rendered Patroni configuration, and what its rules
for the relation users say once they are read.

The name of the database is text that the client application chose, and it
goes into the rule as it is.  A rule is read as a YAML plain scalar, which
ends where a space and `#` start a comment, and then split on whitespace.
The rules confine each client to what it asked for exactly when every name
that was asked for is plain (`confined_iff`).
-/

namespace PostgresqlK8s.Hba

open Words

/-- What the pg_hba section is rendered from, besides the user map. -/
structure HbaParameters where
  connectivity : Bool
  enableLdap : Bool
  enableTls : Bool
  endpoint : String
  namespaceName : String
  ldapParameters : String
  extraReplicationEndpoints : List String
  endpoints : List String

namespace HbaParameters

/-- `'hostssl' if enable_tls else 'host'`. -/
def hostType (p : HbaParameters) : String := if p.enableTls then "hostssl" else "host"

/-- The rules before those of the users. -/
def accessRules (p : HbaParameters) : List String :=
  if !p.connectivity then
    [p.hostType ++ " all all " ++ p.endpoint ++ "." ++ p.namespaceName ++
      ".svc.cluster.local md5", p.hostType ++ " all all 0.0.0.0/0 reject"]
  else if p.enableLdap then
    [p.hostType ++ " all +identity_access 0.0.0.0/0 ldap " ++ p.ldapParameters,
      p.hostType ++ " all +internal_access 0.0.0.0/0 md5"]
  else [p.hostType ++ " all +internal_access 0.0.0.0/0 md5"]

/-- The rule of one user. -/
def userRule (p : HbaParameters) (user databases : String) : String :=
  p.hostType ++ " " ++ databases ++ " " ++ user ++ " 0.0.0.0/0 md5"

/-- The users and databases the loops over the map render a rule for; there
are no such loops without connectivity. -/
def ruleEntries (p : HbaParameters) (userDatabasesMap : Dict String String) :
    List (String × String) :=
  if !p.connectivity then [] else userDatabasesMap.entries

/-- The rules of the users. -/
def userRules (p : HbaParameters) (userDatabasesMap : Dict String String) : List String :=
  (p.ruleEntries userDatabasesMap).map fun (user, databases) => p.userRule user databases

/-- The rules for replication. -/
def replicationRules (p : HbaParameters) : List String :=
  [p.hostType ++ " replication replication 127.0.0.1/32 md5",
    p.hostType ++ " replication replication 127.0.0.6/32 md5"] ++
  p.extraReplicationEndpoints.map
    (fun endpoint => p.hostType ++ " replication replication " ++ endpoint ++ "/32 md5") ++
  p.endpoints.map (fun endpoint => p.hostType ++ " replication replication " ++ endpoint ++ "." ++
    p.namespaceName ++ ".svc.cluster.local md5")

/-- The items of `pg_hba` in `patroni.yml`. -/
def pgHba (p : HbaParameters) (userDatabasesMap : Dict String String) : List String :=
  ["local all backup peer map=operator", "local all monitoring password"] ++ p.accessRules ++
    p.userRules userDatabasesMap ++ p.replicationRules

end HbaParameters

/-! ## Reading a rule -/

/-- A YAML plain scalar ends before a space that `#` follows. -/
def plainScalar : List Char → List Char
  | ' ' :: '#' :: _ => []
  | c :: cs => c :: plainScalar cs
  | [] => []

/-- The characters that separate words. -/
def whitespace : List Char :=
  ['\t', '\n', '\x0b', '\x0c', '\r', '\x1c', '\x1d', '\x1e', '\x1f', ' ', '\u0085', '\u00a0',
    '\u1680', '\u2000', '\u2001', '\u2002', '\u2003', '\u2004', '\u2005', '\u2006', '\u2007',
    '\u2008', '\u2009', '\u200a', '\u2028', '\u2029', '\u202f', '\u205f', '\u3000']

def isSpace (c : Char) : Bool := whitespace.contains c

/-- The fields of a rule. -/
def fields (rule : String) : List String :=
  (words isSpace (plainScalar rule.toList)).map String.ofList

/-- The keywords of the database field. -/
def databaseKeywords : List String := ["all", "sameuser", "samerole", "replication"]

/-- The rules of the relation users confine each of them to the database it
asked for: each rule reads as its five fields, and the database is neither a
keyword nor a list. -/
def Confined (rs : ClientRelations) (p : HbaParameters) : Prop :=
  (p.userRules rs.collectUserRelations).map fields =
      (rs.relations.filterMap (·.userDatabase)).map
        (fun (user, database) => [p.hostType, database, user, "0.0.0.0/0", "md5"]) ∧
    ∀ e ∈ rs.relations.filterMap (·.userDatabase), e.2 ∉ databaseKeywords ∧ ',' ∉ e.2.toList

/-- A name that keeps its meaning in a rule: one word that starts no comment,
and neither a keyword nor a list. -/
structure PlainName (name : String) : Prop where
  no_space : ∀ c ∈ name.toList, isSpace c = false
  no_comment : name.toList.head? ≠ some '#'
  no_list : ',' ∉ name.toList
  no_keyword : name ∉ databaseKeywords

/-- A list without whitespace, as a test that looks at its characters only. -/
theorem all_not_isSpace {l : List Char} :
    (l.all fun c => !isSpace c) = true ↔ ∀ c ∈ l, isSpace c = false := by
  simp

instance (name : String) : Decidable (PlainName name) :=
  decidable_of_iff ((name.toList.all fun c => !isSpace c) = true ∧ name.toList.head? ≠ some '#' ∧
      ',' ∉ name.toList ∧ name ∉ databaseKeywords)
    ⟨fun h => ⟨all_not_isSpace.mp h.1, h.2.1, h.2.2.1, h.2.2.2⟩,
      fun h => ⟨all_not_isSpace.mpr h.1, h.2, h.3, h.4⟩⟩

instance (rs : ClientRelations) (p : HbaParameters) : Decidable (Confined rs p) :=
  inferInstanceAs (Decidable (_ ∧ _))

/-! ## Scalars -/

/-- A word without a space is kept. -/
theorem plainScalar_append {l : List Char} (h : ' ' ∉ l) (m : List Char) :
    plainScalar (l ++ m) = l ++ plainScalar m := by
  induction l with
  | nil => rfl
  | cons c l ih =>
      rw [List.mem_cons, not_or] at h
      rw [List.cons_append, plainScalar, ih h.2]
      · rfl
      · rintro _ rfl
        exact fun _ => h.1 rfl

theorem plainScalar_space {l : List Char} (h : l.head? ≠ some '#') :
    plainScalar (' ' :: l) = ' ' :: plainScalar l := by
  rw [plainScalar]
  rintro m - rfl
  exact h rfl

theorem plainScalar_comment {l : List Char} (h : l.head? = some '#') :
    plainScalar (' ' :: l) = [] := by
  cases l with
  | nil => contradiction
  | cons c l =>
      rw [List.head?_cons, Option.some.injEq] at h
      rw [h, plainScalar]

theorem space_not_mem {l : List Char} (h : ∀ c ∈ l, isSpace c = false) : ' ' ∉ l := by
  intro hmem
  have := h ' ' hmem
  contradiction

/-! ## Rules -/

theorem hostType_word (p : HbaParameters) :
    p.hostType.toList ≠ [] ∧ ∀ c ∈ p.hostType.toList, isSpace c = false := by
  rw [← all_not_isSpace]
  unfold HbaParameters.hostType
  split <;> decide

/-- No digit separates words. -/
theorem isSpace_of_isDigit {c : Char} (h : c.isDigit) : isSpace c = false := by
  have hdigits : (whitespace.all fun c => !c.isDigit) = true := by decide
  by_contra hspace
  have hmem : c ∈ whitespace := by simpa [isSpace] using hspace
  have hdigit := List.all_eq_true.mp hdigits c hmem
  rw [h] at hdigit
  contradiction

theorem relationUser_toList (id : Nat) :
    (relationUser id).toList = "relation_id_".toList ++ (toString id).toList := by
  rw [relationUser, String.toList_append]

theorem relationUser_word (id : Nat) :
    (relationUser id).toList ≠ [] ∧ ∀ c ∈ (relationUser id).toList, isSpace c = false := by
  rw [relationUser_toList]
  refine ⟨by simp, fun c hc => ?_⟩
  rcases List.mem_append.mp hc with hstart | hdigit
  · have hword : ("relation_id_".toList.all fun c => !isSpace c) = true := by decide
    exact all_not_isSpace.mp hword c hstart
  · exact isSpace_of_isDigit (Decimal.isDigit_of_mem hdigit)

theorem relationUser_head (id : Nat) : (relationUser id).toList.head? ≠ some '#' := by
  rw [relationUser_toList]
  have hstart : "relation_id_".toList = 'r' :: "elation_id_".toList := by decide
  rw [hstart, List.cons_append, List.head?_cons]
  decide

/-- The text of a rule, word by word. -/
theorem userRule_toList (p : HbaParameters) (user databases : String) :
    (p.userRule user databases).toList = p.hostType.toList ++ (' ' :: (databases.toList ++
      (' ' :: (user.toList ++ " 0.0.0.0/0 md5".toList)))) := by
  have hspace : " ".toList = [' '] := by decide
  simp only [HbaParameters.userRule, String.toList_append, hspace, List.append_assoc,
    List.cons_append, List.nil_append]

/-- No field of a rule has whitespace in it. -/
theorem isSpace_of_mem_fields {rule field : String} (h : field ∈ fields rule) :
    ∀ c ∈ field.toList, isSpace c = false := by
  simp only [fields, List.mem_map] at h
  obtain ⟨w, hw, rfl⟩ := h
  rw [String.toList_ofList]
  exact forall_of_mem_words hw

theorem toList_ne_nil {name : String} (h : name ≠ "") : name.toList ≠ [] := by
  intro hnil
  exact h (String.toList_inj.mp hnil)

/-- A rule reads as its five fields exactly when the name of the database is
one word that starts no comment. -/
theorem fields_userRule_iff (p : HbaParameters) (id : Nat) {database : String}
    (hne : database ≠ "") :
    fields (p.userRule (relationUser id) database) =
        [p.hostType, database, relationUser id, "0.0.0.0/0", "md5"] ↔
      (∀ c ∈ database.toList, isSpace c = false) ∧ database.toList.head? ≠ some '#' := by
  obtain ⟨htype, htypeWord⟩ := hostType_word p
  have hspace : isSpace ' ' = true := by decide
  constructor
  · intro h
    have hfield : database ∈ fields (p.userRule (relationUser id) database) := by
      rw [h]
      simp
    refine ⟨isSpace_of_mem_fields hfield, ?_⟩
    intro hcomment
    have hhead : (database.toList ++ (' ' :: ((relationUser id).toList ++
        " 0.0.0.0/0 md5".toList))).head? = some '#' := by
      rw [List.head?_append_of_ne_nil _ (toList_ne_nil hne), hcomment]
    rw [fields, userRule_toList, plainScalar_append (space_not_mem htypeWord),
      plainScalar_comment hhead, List.append_nil, words_of_forall htype htypeWord] at h
    simp at h
  · rintro ⟨hword, hcomment⟩
    obtain ⟨huser, huserWord⟩ := relationUser_word id
    have hhead : (database.toList ++ (' ' :: ((relationUser id).toList ++
        " 0.0.0.0/0 md5".toList))).head? ≠ some '#' := by
      rw [List.head?_append_of_ne_nil _ (toList_ne_nil hne)]
      exact hcomment
    have huserHead : ((relationUser id).toList ++ " 0.0.0.0/0 md5".toList).head? ≠ some '#' := by
      rw [List.head?_append_of_ne_nil _ huser]
      exact relationUser_head id
    have hscalar : plainScalar " 0.0.0.0/0 md5".toList = " 0.0.0.0/0 md5".toList := by decide
    have hrest : " 0.0.0.0/0 md5".toList = ' ' :: "0.0.0.0/0 md5".toList := by decide
    have hend : words isSpace "0.0.0.0/0 md5".toList = ["0.0.0.0/0".toList, "md5".toList] := by
      decide
    rw [fields, userRule_toList, plainScalar_append (space_not_mem htypeWord),
      plainScalar_space hhead, plainScalar_append (space_not_mem hword),
      plainScalar_space huserHead, plainScalar_append (space_not_mem huserWord), hscalar, hrest,
      words_append_cons _ _ hspace, words_append_cons _ _ hspace, words_append_cons _ _ hspace,
      hend, words_of_forall htype htypeWord, words_of_forall (toList_ne_nil hne) hword,
      words_of_forall huser huserWord]
    simp

/-- **The rules confine each client to what it asked for** exactly when every
name that a relation asks for is plain. -/
theorem confined_iff (rs : ClientRelations) (p : HbaParameters) (hconn : p.connectivity = true) :
    Confined rs p ↔ ∀ r ∈ rs.relations, ∀ name, r.database = some name → name ≠ "" →
      PlainName name := by
  have hrules : (p.userRules rs.collectUserRelations).map fields =
      (rs.relations.filterMap (·.userDatabase)).map
        (fun (user, database) => fields (p.userRule user database)) := by
    rw [HbaParameters.userRules, HbaParameters.ruleEntries, hconn,
      rs.entries_collectUserRelations, Bool.not_true, if_neg Bool.false_ne_true, List.map_map]
    rfl
  rw [Confined, hrules, List.map_inj_left]
  constructor
  · rintro ⟨hfields, hnames⟩ r hr name hname hne
    have hmem : (relationUser r.id, name) ∈ rs.relations.filterMap (·.userDatabase) :=
      List.mem_filterMap.mpr ⟨r, hr, ClientRelation.userDatabase_eq_some.mpr ⟨rfl, hname, hne⟩⟩
    have hrule := hfields _ hmem
    dsimp only at hrule
    obtain ⟨hword, hcomment⟩ := (fields_userRule_iff p r.id hne).mp hrule
    exact ⟨hword, hcomment, (hnames _ hmem).2, (hnames _ hmem).1⟩
  · intro h
    have hplain : ∀ e ∈ rs.relations.filterMap (·.userDatabase), ∃ id,
        e.1 = relationUser id ∧ e.2 ≠ "" ∧ PlainName e.2 := by
      intro e he
      obtain ⟨r, hr, hre⟩ := List.mem_filterMap.mp he
      obtain ⟨huser, hname, hne⟩ := ClientRelation.userDatabase_eq_some.mp hre
      exact ⟨r.id, huser, hne, h r hr e.2 hname hne⟩
    refine ⟨fun e he => ?_, fun e he => ?_⟩
    · obtain ⟨id, huser, hne, hname⟩ := hplain e he
      obtain ⟨user, database⟩ := e
      simp only at huser hne hname ⊢
      rw [huser]
      exact (fields_userRule_iff p id hne).mpr ⟨hname.no_space, hname.no_comment⟩
    · obtain ⟨-, -, -, hname⟩ := hplain e he
      exact ⟨hname.no_keyword, hname.no_list⟩

/-- The rules of the relation users are the first ones that are rendered while
the database has not started. -/
theorem userRules_of_not_started {rs : ClientRelations} {p : HbaParameters} {a : DatabaseAnswers}
    (hconn : p.connectivity = true) (h : (!a.clusterInitialised || !a.memberStarted) = true) :
    ∃ m, relationsUserDatabasesMap rs a = some m ∧
      p.userRules m = p.userRules rs.collectUserRelations ++
        internalUsers.map fun (user, databases) => p.userRule user databases := by
  obtain ⟨m, hm, hentries⟩ := entries_relationsUserDatabasesMap_of_not_started h
  refine ⟨m, hm, ?_⟩
  simp only [HbaParameters.userRules, HbaParameters.ruleEntries, hconn, Bool.not_true,
    Bool.false_eq_true, if_false, hentries, List.map_append]

/-- TLS is enabled, and so is connectivity. -/
def tlsParameters : HbaParameters where
  connectivity := true
  enableLdap := false
  enableTls := true
  endpoint := "postgresql-k8s-0.postgresql-k8s-endpoints"
  namespaceName := "model"
  ldapParameters := ""
  extraReplicationEndpoints := []
  endpoints := []

/-- One client, which asks for the given database. -/
def oneClient (database : String) : ClientRelations :=
  ⟨[⟨3, .database, some database⟩], by simp⟩

/-- A client of one database is confined to it. -/
theorem confined_iff_oneClient : Confined (oneClient "app_db") tlsParameters :=
  (confined_iff (oneClient "app_db") tlsParameters rfl).mpr (by
    intro r hr name hname _
    rw [oneClient, List.mem_singleton] at hr
    subst hr
    cases hname
    decide)

/-- A client that asks for the database `all` gets a rule for every database. -/
theorem oneClient_all_not_confined :
    tlsParameters.userRules (oneClient "all").collectUserRelations =
        ["hostssl all relation_id_3 0.0.0.0/0 md5"] ∧
      ¬ Confined (oneClient "all") tlsParameters := by
  constructor
  · decide
  · decide

end PostgresqlK8s.Hba
