import PostgresqlK8s.Config.ConfigChanged
import PostgresqlK8s.Lib.EarlyExit

/-!
# Config.GroupMap

The format of the map from the groups of the directory to those of the
database.  Reading it undoes writing it, whatever whitespace stands around the
commas, but for the pairs that name a group which protects the database
(`buildPostgresqlGroupMap_groupMapText`).  The names are taken as they stand
between a comma, the equals sign and the next comma, so no whitespace hides
such a group from the reader.
-/

namespace PostgresqlK8s.Config

/-! ## the format -/

/-- A name that can be written into the map. -/
structure GroupName where
  name : String
  comma_not_mem : ',' ∉ name.toList
  equals_not_mem : '=' ∉ name.toList
  head_isSpace : ∀ c, name.toList.head? = some c → IntText.isSpace c = false
  last_isSpace : ∀ c, name.toList.getLast? = some c → IntText.isSpace c = false

/-- A pair and the whitespace around it. -/
structure Mapping where
  before : String
  ldapGroup : GroupName
  psqlGroup : GroupName
  after : String
  isSpace_before : ∀ c ∈ before.toList, IntText.isSpace c = true
  isSpace_after : ∀ c ∈ after.toList, IntText.isSpace c = true

namespace Mapping

variable (m : Mapping)

def pair : String × String := (m.ldapGroup.name, m.psqlGroup.name)

/-- `<ldap_group>=<psql_group>` -/
def body : String := Text.join '=' [m.ldapGroup.name, m.psqlGroup.name]

def text : String := m.before ++ m.body ++ m.after

/-- The characters of a written mapping. -/
theorem toList_body :
    m.body.toList = m.ldapGroup.name.toList ++ '=' :: m.psqlGroup.name.toList := by
  simp [body, Text.join]

/-- Names have no comma. -/
theorem comma_not_mem_text : ',' ∉ m.text.toList := by
  have hbefore : ',' ∉ m.before.toList := fun hmem => by cases m.isSpace_before _ hmem
  have hafter : ',' ∉ m.after.toList := fun hmem => by cases m.isSpace_after _ hmem
  simp [text, toList_body, hbefore, hafter, m.ldapGroup.comma_not_mem, m.psqlGroup.comma_not_mem]

/-- A written mapping is split at its only `=`. -/
theorem split_body : Text.split '=' m.body = [m.ldapGroup.name, m.psqlGroup.name] := by
  refine Text.split_join ?_ (List.cons_ne_nil _ _)
  rw [List.forall_mem_cons, List.forall_mem_singleton]
  exact ⟨m.ldapGroup.equals_not_mem, m.psqlGroup.equals_not_mem⟩

/-- Only the whitespace around the pair is stripped. -/
theorem strip_text : Text.strip IntText.isSpace m.text = m.body := by
  refine Text.strip_append m.isSpace_before m.isSpace_after ?_ ?_
  · intro c hc
    rw [toList_body, List.head?_append] at hc
    cases hhead : m.ldapGroup.name.toList.head? with
    | none =>
        rw [hhead, Option.none_or, List.head?_cons, Option.some.injEq] at hc
        rw [← hc]
        rfl
    | some first =>
        rw [hhead, Option.some_or, Option.some.injEq] at hc
        rw [← hc]
        exact m.ldapGroup.head_isSpace first hhead
  · intro c hc
    rw [toList_body, List.getLast?_append, List.getLast?_cons] at hc
    cases hlast : m.psqlGroup.name.toList.getLast? with
    | none =>
        rw [hlast] at hc
        cases hc
        rfl
    | some last =>
        rw [hlast] at hc
        cases hc
        exact m.psqlGroup.last_isSpace last hlast

end Mapping

/-- The pairs with a comma between them. -/
def groupMapText (mappings : List Mapping) : String := Text.join ',' (mappings.map Mapping.text)

/-! ## what the parser reads -/

/-- The groups that no group of the directory is mapped to. -/
def protectedGroups : List String := Hba.accessGroups ++ ["admin"]

/-- A mapping without the whitespace around it. -/
def readMapping (mapping : String) : Option (String × String) :=
  match Text.split '=' mapping with
  | [ldapGroup, psqlGroup] => some (ldapGroup, psqlGroup)
  | _ => none

/-- The mappings of a text without the whitespace around them. -/
def mappingsOf (text : String) : List String :=
  (Text.split ',' text).map (Text.strip IntText.isSpace)

/-- A mapping is read exactly when it has one `=`. -/
theorem isSome_readMapping_iff {mapping : String} :
    (readMapping mapping).isSome = true ↔ mapping.toList.count '=' = 1 := by
  have hlength : (Text.split '=' mapping).length = mapping.toList.count '=' + 1 :=
    Text.length_split mapping
  rw [readMapping]
  split
  · next hsplit => simp_all
  · next hsplit =>
      simp only [Option.isSome_none, Bool.false_eq_true, false_iff]
      intro hcount
      rw [hcount, List.length_eq_two] at hlength
      obtain ⟨ldapGroup, psqlGroup, heq⟩ := hlength
      exact hsplit _ _ heq

/-- Stripping the parts takes no `=` from them. -/
theorem equals_count_mappingsOf {text : String} :
    (∀ mapping ∈ mappingsOf text, mapping.toList.count '=' = 1) ↔
      ∀ part ∈ Text.split ',' text, part.toList.count '=' = 1 := by
  have hequals : IntText.isSpace '=' = false := rfl
  simp only [mappingsOf, List.forall_mem_map, Text.count_strip hequals]

/-- The map is read if every mapping is, and the protected groups are left out
afterwards. -/
theorem buildPostgresqlGroupMap_eq (text : String) :
    buildPostgresqlGroupMap text =
      if (mappingsOf text).all fun mapping => (readMapping mapping).isSome
      then some (((mappingsOf text).filterMap readMapping).filter fun pair =>
        !protectedGroups.contains pair.2)
      else none := by
  rw [buildPostgresqlGroupMap]
  refine EarlyExit.foldlM_collects (fun groups mapping => ?_) [] (mappingsOf text)
  rw [readMapping]
  -- exactly two pieces are a pair
  rcases Text.split '=' mapping with _ | ⟨ldapGroup, _ | ⟨psqlGroup, _ | ⟨third, rest⟩⟩⟩
  · rfl
  · rfl
  · change (if psqlGroup ∈ protectedGroups then _ else _) = _
    split
    · next hmem => simp [hmem]
    · next hmem => simp [hmem]
  · rfl

/-! ## what becomes of a text -/

/-- The text is refused exactly when one of its parts has not one `=`. -/
theorem buildPostgresqlGroupMap_eq_none {text : String} :
    buildPostgresqlGroupMap text = none ↔
      ∃ part ∈ Text.split ',' text, part.toList.count '=' ≠ 1 := by
  rw [buildPostgresqlGroupMap_eq, ite_eq_right_iff, imp_iff_not (by simp), List.all_eq_true]
  simp only [isSome_readMapping_iff, equals_count_mappingsOf]
  push Not
  rfl

/-- No pair that is read names a protected group. -/
theorem not_mem_protectedGroups {text : String} {groups : List (String × String)}
    (h : buildPostgresqlGroupMap text = some groups) :
    ∀ pair ∈ groups, pair.2 ∉ protectedGroups := by
  rw [buildPostgresqlGroupMap_eq, Option.ite_none_right_eq_some, Option.some.injEq] at h
  intro pair hpair
  rw [← h.2, List.mem_filter] at hpair
  simpa using hpair.2

/-- Reading a mapping takes back writing it. -/
theorem readMapping_body (m : Mapping) : readMapping m.body = some m.pair := by
  rw [readMapping, m.split_body]
  rfl

/-- The parts of a written map are its mappings. -/
theorem mappingsOf_groupMapText {mappings : List Mapping} (hne : mappings ≠ []) :
    mappingsOf (groupMapText mappings) = mappings.map Mapping.body := by
  have hcomma : ∀ text ∈ mappings.map Mapping.text, ',' ∉ text.toList := by
    rw [List.forall_mem_map]
    exact fun m _ => m.comma_not_mem_text
  rw [mappingsOf, groupMapText, Text.split_join hcomma (by simpa using hne), List.map_map]
  exact List.map_congr_left fun m _ => m.strip_text

/-- Reading undoes writing, but for the protected groups. -/
theorem buildPostgresqlGroupMap_groupMapText {mappings : List Mapping} (hne : mappings ≠ []) :
    buildPostgresqlGroupMap (groupMapText mappings) =
      some ((mappings.map Mapping.pair).filter fun pair => !protectedGroups.contains pair.2) := by
  have hread : (mappings.map Mapping.body).filterMap readMapping = mappings.map Mapping.pair := by
    simp [List.filterMap_map, readMapping_body]
  have hall : ((mappings.map Mapping.body).all fun mapping => (readMapping mapping).isSome) := by
    simp [readMapping_body]
  rw [buildPostgresqlGroupMap_eq, mappingsOf_groupMapText hne, if_pos hall, hread]

/-- A map is accepted exactly if it can be read and every pair that is read
names a role. -/
theorem validateGroupMap_eq_ok_iff {env : Environment} {text : String} :
    validateGroupMap env (some text) = .ok true ↔
      ∃ groups, buildPostgresqlGroupMap text = some groups ∧
        ∀ pair ∈ groups, env.roleExists pair.2 = some true ∧ pair.2 ∉ protectedGroups := by
  rw [validateGroupMap_eq_ok]
  constructor
  · intro h
    obtain ⟨groups, hgroups, hroles⟩ := h text rfl
    exact ⟨groups, hgroups, fun pair hpair =>
      ⟨hroles pair hpair, not_mem_protectedGroups hgroups pair hpair⟩⟩
  · rintro ⟨groups, hgroups, hroles⟩ _ ⟨⟩
    exact ⟨groups, hgroups, fun pair hpair => (hroles pair hpair).1⟩

/-- **The group map round trip**: parsing a written map gives the mappings back, without
those of protected groups; a text is refused exactly when some part has not one `=`; and the
validation passes exactly those texts whose roles all exist. -/
theorem groupMap_invertsSerialisation :
    (∀ first rest, buildPostgresqlGroupMap (groupMapText (first :: rest)) =
      some (((first :: rest).map Mapping.pair).filter fun pair => pair.2 ∉ protectedGroups)) ∧
    (∀ text, buildPostgresqlGroupMap text = none ↔
      ∃ part ∈ Text.split ',' text, part.toList.count '=' ≠ 1) ∧
    ∀ env text, validateGroupMap env (some text) = .ok true ↔
      ∃ groups, buildPostgresqlGroupMap text = some groups ∧
        ∀ pair ∈ groups, env.roleExists pair.2 = some true ∧ pair.2 ∉ protectedGroups := by
  refine ⟨fun first rest => ?_, fun text => buildPostgresqlGroupMap_eq_none,
    fun env text => validateGroupMap_eq_ok_iff⟩
  rw [buildPostgresqlGroupMap_groupMapText (List.cons_ne_nil first rest)]
  simp

example : buildPostgresqlGroupMap "ldap_group_1=psql_group_1 ,\n ldap_group_2=admin,=b " =
    some [("ldap_group_1", "psql_group_1"), ("", "b")] := by decide

end PostgresqlK8s.Config
