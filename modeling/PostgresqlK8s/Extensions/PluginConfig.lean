import PostgresqlK8s.Status
import PostgresqlK8s.Lib.Text
import PostgresqlK8s.Backups.Messages
import PostgresqlK8s.Restore.Charm
import PostgresqlK8s.Extensions.Ordering

/-!
# Extensions.PluginConfig

The extensions as the charm's configuration names them, and what enabling and
disabling them does to the status of the unit.

Every option `plugin_…_enable` stands for one extension, but for `spi`, which
stands for four.  An enabled extension whose requirements are not enabled stops
the update before any statement is executed.
-/

namespace PostgresqlK8s.Extensions

open Restore (MemberRole insufficientSizeWarning extensionObjectMessage extensionsDependencyMessage)

/-- `config.plugin_keys()`. -/
def pluginKeys : List String :=
  ["plugin_address_standardizer_data_us_enable", "plugin_address_standardizer_enable",
    "plugin_audit_enable", "plugin_bloom_enable", "plugin_bool_plperl_enable",
    "plugin_btree_gin_enable", "plugin_btree_gist_enable", "plugin_citext_enable",
    "plugin_cube_enable", "plugin_debversion_enable", "plugin_dict_int_enable",
    "plugin_dict_xsyn_enable", "plugin_earthdistance_enable", "plugin_fuzzystrmatch_enable",
    "plugin_hll_enable", "plugin_hstore_enable", "plugin_hypopg_enable", "plugin_icu_ext_enable",
    "plugin_intarray_enable", "plugin_ip4r_enable", "plugin_isn_enable",
    "plugin_jsonb_plperl_enable", "plugin_lo_enable", "plugin_ltree_enable",
    "plugin_old_snapshot_enable", "plugin_orafce_enable", "plugin_pg_freespacemap_enable",
    "plugin_pg_similarity_enable", "plugin_pg_trgm_enable", "plugin_pg_visibility_enable",
    "plugin_pgrowlocks_enable", "plugin_pgstattuple_enable", "plugin_pg_stat_statements_enable",
    "plugin_plperl_enable", "plugin_plpython3u_enable", "plugin_pltcl_enable",
    "plugin_postgis_enable", "plugin_postgis_raster_enable",
    "plugin_postgis_tiger_geocoder_enable", "plugin_postgis_topology_enable",
    "plugin_prefix_enable", "plugin_rdkit_enable", "plugin_seg_enable", "plugin_spi_enable",
    "plugin_tablefunc_enable", "plugin_tcn_enable", "plugin_tds_fdw_enable",
    "plugin_timescaledb_enable", "plugin_tsm_system_rows_enable", "plugin_tsm_system_time_enable",
    "plugin_unaccent_enable", "plugin_uuid_ossp_enable", "plugin_vector_enable"]

/-- `PLUGIN_OVERRIDES`. -/
def pluginOverrides : List (String × String) :=
  [("audit", "pgaudit"), ("uuid_ossp", "\"uuid-ossp\"")]

/-- `SPI_MODULE`. -/
def spiModule : List String := ["refint", "autoinc", "insert_username", "moddatetime"]

/-- `plugin_{name}_enable`. -/
def pluginKey (name : String) : String := "plugin_" ++ name ++ "_enable"

/-- The values of the options `plugin_…_enable`. -/
abbrev PluginConfig := String → Bool

/-- `config.get(f"plugin_{name}_enable")`; an option that does not exist has no
value. -/
def PluginConfig.pluginEnabled (config : PluginConfig) (name : String) : Bool :=
  pluginKeys.contains (pluginKey name) && config (pluginKey name)

/-- `"_".join(plugin.split("_")[1:-1])`. -/
def pluginName (plugin : String) : String :=
  Text.join '_' ((Text.split '_' plugin).drop 1).dropLast

/-- `_check_extension_dependencies`: whether a requirement of an enabled
extension is not enabled. -/
def checkExtensionDependencies (config : PluginConfig) (extension : String) (enable : Bool) :
    Bool :=
  enable && (Dependency.requirements requiredPlugins extension).any fun ext =>
    !config (pluginKey ext)

/-- What one option adds to the extensions. -/
def collectExtension (config : PluginConfig) (extensions : Dict String Bool) (plugin : String) :
    Option (Dict String Bool) :=
  let enable := config plugin
  if pluginName plugin = "spi" then
    some (extensions.update (spiModule.map fun ext => (ext, enable)))
  else
    let extension := (pluginOverrides.lookup (pluginName plugin)).getD (pluginName plugin)
    if checkExtensionDependencies config extension enable then none
    else some (extensions.set extension enable)

/-- The extensions that the configuration enables and disables, unless a
dependency is not satisfied. -/
def collectExtensions (config : PluginConfig) : Option (Dict String Bool) :=
  pluginKeys.foldlM (collectExtension config) ∅

/-! ## what the dependency check lets through -/

/-- The extensions that an option stands for. -/
def pluginExtensions (plugin : String) : List String :=
  if pluginName plugin = "spi" then spiModule
  else [(pluginOverrides.lookup (pluginName plugin)).getD (pluginName plugin)]

/-- Only its own option enables or disables a dependency. -/
theorem eq_pluginKey_of_mem_pluginExtensions : ∀ plugin ∈ pluginKeys,
    ∀ d ∈ pluginExtensions plugin, d ∈ dependencyPlugins → plugin = pluginKey d := by
  decide +kernel

theorem mem_pluginExtensions_pluginKey : ∀ d ∈ dependencyPlugins,
    pluginKey d ∈ pluginKeys ∧ pluginExtensions (pluginKey d) = [d] := by
  decide +kernel

theorem requirements_spiModule : ∀ e ∈ spiModule, Dependency.requirements requiredPlugins e = [] := by
  decide

variable {config : PluginConfig} {extensions extensions' : Dict String Bool} {plugin : String}

/-- An option gives its value to its extensions, and to no other. -/
theorem get?_collectExtension (h : collectExtension config extensions plugin = some extensions')
    (e : String) : extensions'.get? e =
      if e ∈ pluginExtensions plugin then some (config plugin) else extensions.get? e := by
  unfold collectExtension at h
  dsimp only at h
  rw [pluginExtensions]
  split at h
  · next hspi =>
      rw [← Option.some.inj h, if_pos hspi]
      exact Dict.get?_update_map extensions spiModule (config plugin) e
  · next hspi =>
      split at h
      · cases h
      · rw [← Option.some.inj h, if_neg hspi]
        generalize (pluginOverrides.lookup (pluginName plugin)).getD (pluginName plugin) = extension
        exact Dict.get?_update_map extensions [extension] (config plugin) e

/-- What an option enables has its requirements enabled. -/
theorem requirements_of_collectExtension
    (h : collectExtension config extensions plugin = some extensions') {e d : String}
    (he : e ∈ pluginExtensions plugin) (henabled : config plugin = true)
    (hd : d ∈ Dependency.requirements requiredPlugins e) : config (pluginKey d) = true := by
  unfold collectExtension at h
  dsimp only at h
  rw [pluginExtensions] at he
  split at h
  · next hspi =>
      rw [if_pos hspi] at he
      rw [requirements_spiModule e he] at hd
      contradiction
  · next hspi =>
      rw [if_neg hspi, List.mem_singleton] at he
      split at h
      · cases h
      · next hcheck =>
          rw [henabled, checkExtensionDependencies, Bool.true_and, List.any_eq_true, ← he] at hcheck
          by_contra hdisabled
          exact hcheck ⟨d, hd, by simpa using hdisabled⟩

/-- What is requested after some options has its requirements enabled. -/
theorem requirements_of_foldlM {plugins : List String}
    (h : plugins.foldlM (collectExtension config) extensions = some extensions')
    (hbefore : ∀ e d, Requested extensions e → d ∈ Dependency.requirements requiredPlugins e →
      config (pluginKey d) = true) {e d : String} (he : Requested extensions' e)
    (hd : d ∈ Dependency.requirements requiredPlugins e) : config (pluginKey d) = true := by
  induction plugins generalizing extensions with
  | nil =>
      rw [List.foldlM_nil] at h
      exact hbefore e d (Option.some.inj h ▸ he) hd
  | cons plugin plugins ih =>
      rw [List.foldlM_cons, Option.bind_eq_bind, Option.bind_eq_some_iff] at h
      obtain ⟨next, hnext, h⟩ := h
      refine ih h fun e' d' he' hd' => ?_
      rw [Requested, get?_collectExtension hnext] at he'
      split at he'
      · next hmem => exact requirements_of_collectExtension hnext hmem (Option.some.inj he') hd'
      · exact hbefore e' d' he' hd'

/-- A dependency is requested once its option was enabled, and stays so. -/
theorem requested_of_foldlM {plugins : List String} (hsub : ∀ plugin ∈ plugins, plugin ∈ pluginKeys)
    (h : plugins.foldlM (collectExtension config) extensions = some extensions') {d : String}
    (hd : d ∈ dependencyPlugins) (henabled : config (pluginKey d) = true)
    (hrequested : Requested extensions d ∨ pluginKey d ∈ plugins) : Requested extensions' d := by
  induction plugins generalizing extensions with
  | nil =>
      rw [List.foldlM_nil] at h
      exact Option.some.inj h ▸ hrequested.resolve_right List.not_mem_nil
  | cons plugin plugins ih =>
      rw [List.foldlM_cons, Option.bind_eq_bind, Option.bind_eq_some_iff] at h
      obtain ⟨next, hnext, h⟩ := h
      rw [List.forall_mem_cons] at hsub
      refine ih hsub.2 h ?_
      by_cases hmem : d ∈ pluginExtensions plugin
      · have hplugin := eq_pluginKey_of_mem_pluginExtensions plugin hsub.1 d hmem hd
        rw [Requested, get?_collectExtension hnext, if_pos hmem, hplugin, henabled]
        exact .inl rfl
      · have hne : pluginKey d ≠ plugin := by
          rintro rfl
          rw [(mem_pluginExtensions_pluginKey d hd).2] at hmem
          exact hmem (List.mem_singleton_self d)
        rw [Requested, get?_collectExtension hnext, if_neg hmem]
        exact hrequested.imp_right fun h => (List.mem_cons.mp h).resolve_left hne

/-- **The dependency check**: the extensions that a configuration enables come
with everything that they require, or the update is stopped. -/
theorem requestedClosed_collectExtensions (h : collectExtensions config = some extensions) :
    RequestedClosed extensions := by
  unfold collectExtensions at h
  intro e d he hd
  have hrequirement := (requires_iff e d).mp hd
  have hdependency : d ∈ dependencyPlugins := mem_dependencyPlugins.mpr ⟨e, hd⟩
  have hempty : ∀ e d, Requested ∅ e → d ∈ Dependency.requirements requiredPlugins e →
      config (pluginKey d) = true := by
    intro e d hnone
    rw [Requested, Dict.get?_empty] at hnone
    contradiction
  have henabled : config (pluginKey d) = true := requirements_of_foldlM h hempty he hrequirement
  have hkey : pluginKey d ∈ pluginKeys := (mem_pluginExtensions_pluginKey d hdependency).1
  exact requested_of_foldlM (fun _ hplugin => hplugin) h hdependency henabled (.inr hkey)

/-! ## the status of the unit -/

/-- What `_set_active_status` finds out. -/
structure ActiveAnswers where
  isLeader : Bool
  /-- `s3-initialization-block-message` in the databag of the application, with
  what follows the message. -/
  s3Block : Option ({message // message ∈ Backups.s3BlockMessages} × String)
  upgradeIdle : Bool
  role : MemberRole

/-- `_set_active_status`. -/
def setActiveStatus (a : ActiveAnswers) (status : Status) : Status :=
  if status.message = insufficientSizeWarning then status
  else match (if a.isLeader then a.s3Block else none) with
    | some (message, hint) => .blocked (message ++ hint)
    | none =>
        if !a.upgradeIdle then status
        else match a.role with
          | .primary standbyLeader degraded =>
              .active ((if standbyLeader then "Standby" else "Primary") ++
                if degraded then " (degraded)" else "")
          | .started => .active
          | .unreachable | .other => status

/-- What `enable_disable_extensions` finds out. -/
structure EnableDisableAnswers where
  /-- The cluster has a primary; a standby cluster has none. -/
  hasPrimary : Bool
  /-- How the update of the databases ends. -/
  outcome : EnableDisableOutcome
  active : ActiveAnswers

/-- `_handle_enable_disable_extensions`, by the status that it leaves. -/
def handleEnableDisableExtensions (a : EnableDisableAnswers) (originalStatus : Status) : Status :=
  let status := if originalStatus.name = .unknown then originalStatus
    else .waiting "Updating extensions"
  if a.outcome = .dependentObjectsStillExist then .blocked extensionObjectMessage
  else if originalStatus.message = extensionObjectMessage then setActiveStatus a.active status
  else originalStatus

/-- `enable_disable_extensions`, by the status that it leaves. -/
def PluginConfig.enableDisableExtensions (config : PluginConfig) (a : EnableDisableAnswers)
    (status : Status) : Status :=
  if !a.hasPrimary then status
  else match collectExtensions config with
    | none => .blocked extensionsDependencyMessage
    | some _ => handleEnableDisableExtensions a
        (if status.isBlocked && status.message == extensionsDependencyMessage
          then setActiveStatus a.active status else status)

end PostgresqlK8s.Extensions
