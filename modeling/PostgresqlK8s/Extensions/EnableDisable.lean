import Mathlib.Data.List.Dedup
import PostgresqlK8s.Lib.Dict

/-!
# Extensions.EnableDisable

`PostgreSQL.enable_disable_extensions`, as the statements it executes.

The function reads the databases, resets the pgAudit settings, brings every
database to the requested extensions and sets the pgAudit settings again if
`pgaudit` is requested.  The extensions that others require come first, in the
order in which the set `DEPENDENCY_PLUGINS` happens to be iterated, and those
that are not requested at all are dropped with the disabled ones.

Any statement may fail.  The settings are changed on connections of their own,
where every statement is committed at once.  The extensions of one database are
one transaction, opened and ended by the `with` over its connection, which
takes them back when one of them fails, but none of the settings.
-/

namespace PostgresqlK8s.Extensions

/-- `REQUIRED_PLUGINS`. -/
def requiredPlugins : List (String × List String) :=
  [("address_standardizer", ["postgis"]),
    ("address_standardizer_data_us", ["postgis"]),
    ("jsonb_plperl", ["plperl"]),
    ("postgis_raster", ["postgis"]),
    ("postgis_tiger_geocoder", ["postgis", "fuzzystrmatch"]),
    ("postgis_topology", ["postgis"])]

/-- `DEPENDENCY_PLUGINS`; a set, listed here in one of its orders. -/
def dependencyPlugins : List String := (requiredPlugins.flatMap Prod.snd).dedup

theorem nodup_dependencyPlugins : dependencyPlugins.Nodup := List.nodup_dedup _

/-- `ordered_extensions`, where the set of dependencies is iterated in the
given order. -/
def orderedExtensions (order : List String) (extensions : Dict String Bool) :
    Dict String Bool :=
  ((∅ : Dict String Bool).update
    (order.map fun plugin => (plugin, (extensions.get? plugin).getD false))).update
      extensions.entries

/-! ## the statements -/

/-- The settings that pgAudit logging consists of. -/
inductive PgauditParameter
  | log
  | logClient
  | logParameter
deriving DecidableEq, Repr

namespace PgauditParameter

/-- All of them, in the order of the statements. -/
def all : List PgauditParameter := [log, logClient, logParameter]

/-- The value that is set. -/
def value : PgauditParameter → String
  | log => "ROLE,DDL,MISC,MISC_SET"
  | logClient => "off"
  | logParameter => "off"

end PgauditParameter

/-- What is executed; connecting counts as a statement, since it fails like
one. -/
inductive Statement
  /-- `_connect_to_database`; to the default database where none is named. -/
  | connect (database : Option String)
  /-- `SELECT datname FROM pg_database WHERE NOT datistemplate;` -/
  | selectDatabases
  /-- `ALTER SYSTEM SET pgaudit… = …;` -/
  | alterSystemSet (p : PgauditParameter)
  /-- `ALTER SYSTEM RESET pgaudit…;` -/
  | alterSystemReset (p : PgauditParameter)
  /-- `SELECT pg_reload_conf();` -/
  | reloadConf
  /-- `CREATE EXTENSION IF NOT EXISTS …;` -/
  | createExtension (extension : String)
  /-- `DROP EXTENSION IF EXISTS …;` -/
  | dropExtension (extension : String)
deriving DecidableEq, Repr

/-- `_configure_pgaudit`. -/
def configurePgaudit (enable : Bool) : List Statement :=
  .connect none ::
    ((if enable then PgauditParameter.all.map .alterSystemSet
      else PgauditParameter.all.map .alterSystemReset) ++ [.reloadConf])

/-- The statement for one extension. -/
def extensionStatement (change : String × Bool) : Statement :=
  if change.2 then .createExtension change.1 else .dropExtension change.1

/-- The statements for one database. -/
def databaseStatements (order : List String) (extensions : Dict String Bool) : List Statement :=
  (orderedExtensions order extensions).entries.map extensionStatement

/-- The statements that retrieve the databases, unless one is given. -/
def listingStatements (database : Option String) : List Statement :=
  match database with
  | some _ => []
  | none => [.connect none, .selectDatabases]

/-- The databases that are updated; `found` are those the server lists, in the
order in which their set is iterated. -/
def targetDatabases (database : Option String) (found : List String) : List String :=
  match database with
  | some database => [database]
  | none => found

/-- The statements that update every database. -/
def updateStatements (order : List String) (extensions : Dict String Bool)
    (databases : List String) : List Statement :=
  databases.flatMap fun database =>
    .connect (some database) :: databaseStatements order extensions

/-- All statements of `enable_disable_extensions`, in order. -/
def enableDisableStatements (order : List String) (extensions : Dict String Bool)
    (database : Option String) (found : List String) : List Statement :=
  listingStatements database ++ configurePgaudit false ++
    updateStatements order extensions (targetDatabases database found) ++
    configurePgaudit (((orderedExtensions order extensions).get? "pgaudit").getD false)

/-- The errors that are told apart. -/
inductive PgError
  | uniqueViolation
  | dependentObjectsStillExist
  /-- Any other `psycopg2.Error`. -/
  | other
deriving DecidableEq, Repr

/-- How the function ends. -/
inductive EnableDisableOutcome
  | returned
  | dependentObjectsStillExist
  | postgreSQLEnableDisableExtensionError
deriving DecidableEq, Repr

/-- The `except` clauses, by the error of the statement that failed. -/
def handleError : Option PgError → EnableDisableOutcome
  | none | some .uniqueViolation => .returned
  | some .dependentObjectsStillExist => .dependentObjectsStillExist
  | some .other => .postgreSQLEnableDisableExtensionError

/-! ## the order of the extensions -/

section Ordered

variable {order : List String} (extensions : Dict String Bool)

/-- The dependencies come first, then the other requested extensions in their
own order. -/
theorem entries_orderedExtensions (hnodup : order.Nodup) :
    (orderedExtensions order extensions).entries =
      (order.map fun plugin => (plugin, (extensions.get? plugin).getD false)) ++
        extensions.entries.filter (·.1 ∉ order) := by
  have hkeys : (order.map fun plugin => (plugin, (extensions.get? plugin).getD false)).map
      Prod.fst = order := by
    rw [List.map_map]
    exact List.map_id order
  have hfront : ((∅ : Dict String Bool).update
      (order.map fun plugin => (plugin, (extensions.get? plugin).getD false))).entries =
      order.map fun plugin => (plugin, (extensions.get? plugin).getD false) := by
    rw [Dict.entries_update_of_nodup (by rwa [hkeys]) (by simp)]
    rfl
  have horder : ((∅ : Dict String Bool).update
      (order.map fun plugin => (plugin, (extensions.get? plugin).getD false))).keys = order := by
    rw [Dict.keys, hfront, hkeys]
  rw [orderedExtensions, Dict.entries_update_of_consistent extensions.nodup, hfront, horder]
  intro kv hkv hkey
  rw [horder] at hkey
  have hget : extensions.get? kv.1 = some kv.2 := (extensions.get?_eq_some_iff).mpr hkv
  rw [hfront, List.mem_map]
  exact ⟨kv.1, hkey, by rw [hget]; rfl⟩

/-- The keys are distinct. -/
theorem nodup_orderedExtensions :
    ((orderedExtensions order extensions).entries.map Prod.fst).Nodup :=
  (orderedExtensions order extensions).nodup

/-- An extension is enabled in the end exactly when it is requested. -/
theorem orderedExtensions_get?_getD (hnodup : order.Nodup) (extension : String) :
    ((orderedExtensions order extensions).get? extension).getD false =
      (extensions.get? extension).getD false := by
  have hentries := entries_orderedExtensions extensions hnodup
  by_cases hmem : extension ∈ order
  · have hget : (orderedExtensions order extensions).get? extension =
        some ((extensions.get? extension).getD false) := by
      rw [Dict.get?_eq_some_iff, hentries]
      exact List.mem_append_left _ (List.mem_map_of_mem hmem)
    rw [hget]
    rfl
  · have hiff (b : Bool) : (orderedExtensions order extensions).get? extension = some b ↔
        extensions.get? extension = some b := by
      rw [Dict.get?_eq_some_iff, Dict.get?_eq_some_iff, hentries, List.mem_append,
        List.mem_filter]
      constructor
      · rintro (h | h)
        · obtain ⟨plugin, hplugin, heq⟩ := List.mem_map.mp h
          cases heq
          exact absurd hplugin hmem
        · exact h.1
      · intro h
        exact .inr ⟨h, by simpa using hmem⟩
    have hsame : (orderedExtensions order extensions).get? extension =
        extensions.get? extension := Option.ext hiff
    rw [hsame]

end Ordered

end PostgresqlK8s.Extensions
