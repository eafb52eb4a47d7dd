import PostgresqlK8s.Lib.Dependency
import PostgresqlK8s.Extensions.EnableDisable

/-!
# Extensions.Ordering

The order in which a database is brought to the requested extensions.

The extensions that others require are changed first.  This order is right for
enabling: nothing is created before what it requires.  It is the wrong one for
disabling, since an extension is dropped while those that require it are still
installed.  `extensions_iff` says exactly when all statements succeed and leave
the requested extensions: nothing installed requires an extension that is to
be dropped, and nothing is installed that the update does not name.
-/

namespace PostgresqlK8s.Extensions

open Dependency

/-- What a statement makes of the extensions of the database it is executed
in; creating one fails while a required one is missing, and dropping one fails
while a dependent one exists. -/
def execExtension (installed : String → Bool) : Statement → Option (String → Bool)
  | .createExtension extension => apply requiredPlugins installed (extension, true)
  | .dropExtension extension => apply requiredPlugins installed (extension, false)
  | _ => some installed

/-- The extensions after the statements for one database, unless one fails. -/
def runDatabase (installed : String → Bool) (statements : List Statement) :
    Option (String → Bool) :=
  statements.foldlM execExtension installed

/-- The extension is to be enabled. -/
def Requested (extensions : Dict String Bool) (extension : String) : Prop :=
  extensions.get? extension = some true

/-- Everything that is requested has its requirements requested. -/
def RequestedClosed (extensions : Dict String Bool) : Prop :=
  ∀ e d, Requested extensions e → Requires requiredPlugins e d → Requested extensions d

/-! ## the dependency table -/

theorem requires_iff (e d : String) :
    Requires requiredPlugins e d ↔ d ∈ requirements requiredPlugins e :=
  mem_requirements.symm

/-- What is required is a dependency. -/
theorem mem_dependencyPlugins {d : String} :
    d ∈ dependencyPlugins ↔ ∃ e, Requires requiredPlugins e d := by
  rw [dependencyPlugins, List.mem_dedup, List.mem_flatMap]
  constructor
  · rintro ⟨⟨e, ds⟩, hmem, hd⟩
    exact ⟨e, ds, hmem, hd⟩
  · rintro ⟨e, ds, hmem, hd⟩
    exact ⟨(e, ds), hmem, hd⟩

/-- No dependency requires anything itself. -/
theorem not_requires_of_mem_dependencyPlugins {d : String} (h : d ∈ dependencyPlugins)
    (d' : String) : ¬ Requires requiredPlugins d d' := by
  have hnone : ∀ d ∈ dependencyPlugins, requirements requiredPlugins d = [] := by decide
  rw [requires_iff, hnone d h]
  exact List.not_mem_nil

/-! ## one database -/

/-- The statements for a database make the changes in their order. -/
theorem runDatabase_map (installed : String → Bool) (changes : List (String × Bool)) :
    runDatabase installed (changes.map extensionStatement) =
      applyAll requiredPlugins installed changes := by
  rw [runDatabase, List.foldlM_map, applyAll]
  congr 1
  funext installed change
  obtain ⟨extension, enable⟩ := change
  cases enable <;> rfl

section Database

variable {order : List String} {extensions : Dict String Bool} {installed final : String → Bool}

theorem nodup_of_perm (hperm : order.Perm dependencyPlugins) : order.Nodup :=
  hperm.nodup_iff.mpr nodup_dependencyPlugins

/-- The statements for a database succeed exactly when nothing that is
installed requires a dependency that is not requested, and they do what the
ordered extensions say. -/
theorem runDatabase_databaseStatements (hperm : order.Perm dependencyPlugins)
    (hinstalled : Closed requiredPlugins installed) (hrequested : RequestedClosed extensions) :
    runDatabase installed (databaseStatements order extensions) = some final ↔
      (∀ d ∈ dependencyPlugins, ¬ Requested extensions d →
        ∀ e, Requires requiredPlugins e d → installed e = false) ∧
      final = overwrite installed (orderedExtensions order extensions).entries := by
  have hnodup := nodup_of_perm hperm
  have hmem (plugin : String) : plugin ∈ order ↔ plugin ∈ dependencyPlugins := hperm.mem_iff
  rw [databaseStatements, runDatabase_map, entries_orderedExtensions extensions hnodup]
  have hflat : ∀ c ∈ order.map (fun plugin => (plugin, (extensions.get? plugin).getD false)),
      ∀ d, ¬ Requires requiredPlugins c.1 d := by
    intro c hc
    obtain ⟨plugin, hplugin, rfl⟩ := List.mem_map.mp hc
    exact not_requires_of_mem_dependencyPlugins ((hmem plugin).mp hplugin)
  have hleaf : ∀ c ∈ extensions.entries.filter (·.1 ∉ order),
      ∀ e, ¬ Requires requiredPlugins e c.1 := by
    intro c hc e he
    obtain ⟨-, hnot⟩ := List.mem_filter.mp hc
    have hcontra : c.1 ∈ order := (hmem c.1).mpr (mem_dependencyPlugins.mpr ⟨e, he⟩)
    simp [hcontra] at hnot
  have hthere : ∀ c ∈ extensions.entries.filter (·.1 ∉ order), c.2 = true →
      ∀ d, Requires requiredPlugins c.1 d → overwrite installed
        (order.map fun plugin => (plugin, (extensions.get? plugin).getD false)) d = true := by
    intro c hc henabled d hd
    obtain ⟨hentry, -⟩ := List.mem_filter.mp hc
    have hc' : Requested extensions c.1 := by
      rw [Requested, Dict.get?_eq_some_iff, ← henabled]
      exact hentry
    have hd' : Requested extensions d := hrequested c.1 d hc' hd
    have horder : d ∈ order := (hmem d).mpr (mem_dependencyPlugins.mpr ⟨c.1, hd⟩)
    refine overwrite_of_mem ?_ ?_
    · rw [List.map_map]
      exact (List.map_id order).symm ▸ hnodup
    · rw [List.mem_map]
      exact ⟨d, horder, by rw [hd']; rfl⟩
  rw [applyAll_layered hinstalled hflat hleaf hthere]
  refine and_congr_left fun _ => ?_
  constructor
  · intro h d hd hnot e he
    refine h (d, (extensions.get? d).getD false) ?_ ?_ e he
    · exact List.mem_map_of_mem ((hmem d).mpr hd)
    · cases hget : extensions.get? d with
      | none => rfl
      | some b =>
          cases b with
          | true => exact absurd hget hnot
          | false => rfl
  · intro h c hc hdisabled e he
    obtain ⟨plugin, hplugin, rfl⟩ := List.mem_map.mp hc
    refine h plugin ((hmem plugin).mp hplugin) ?_ e he
    intro hreq
    rw [Requested] at hreq
    simp [hreq] at hdisabled

/-- What the update does not name stays as it was, and what it names is there
exactly when it is requested. -/
theorem overwrite_orderedExtensions (hperm : order.Perm dependencyPlugins) (e : String) :
    overwrite installed (orderedExtensions order extensions).entries e =
      if e ∈ dependencyPlugins ∨ e ∈ extensions.keys then (extensions.get? e).getD false
      else installed e := by
  have hnodup := nodup_of_perm hperm
  have hentries := entries_orderedExtensions extensions hnodup
  have hmem (plugin : String) : plugin ∈ order ↔ plugin ∈ dependencyPlugins := hperm.mem_iff
  by_cases hnamed : e ∈ dependencyPlugins ∨ e ∈ extensions.keys
  · rw [if_pos hnamed]
    refine overwrite_of_mem (nodup_orderedExtensions extensions) ?_
    rw [hentries, List.mem_append]
    by_cases horder : e ∈ order
    · exact .inl (List.mem_map_of_mem horder)
    · have hkey : e ∈ extensions.keys := by
        rcases hnamed with hdep | hkey
        · exact absurd ((hmem e).mpr hdep) horder
        · exact hkey
      obtain ⟨⟨e', b⟩, hentry, rfl⟩ := List.mem_map.mp hkey
      have hget : extensions.get? e' = some b := (extensions.get?_eq_some_iff).mpr hentry
      refine .inr (List.mem_filter.mpr ⟨?_, by simpa using horder⟩)
      rw [hget]
      exact hentry
  · rw [if_neg hnamed]
    rw [not_or] at hnamed
    refine overwrite_of_not_mem fun hkey => ?_
    obtain ⟨⟨e', b⟩, hentry, rfl⟩ := List.mem_map.mp hkey
    rw [hentries, List.mem_append] at hentry
    rcases hentry with hfront | hrest
    · obtain ⟨plugin, hplugin, heq⟩ := List.mem_map.mp hfront
      cases heq
      exact hnamed.1 ((hmem e').mp hplugin)
    · exact hnamed.2 (List.mem_map_of_mem (List.mem_filter.mp hrest).1)

/-- **When an update of the extensions respects their dependencies.**  From a
database and to a configuration that are both closed under the requirements,
and whatever the order of the set of dependencies, all statements succeed and
exactly the configured extensions are installed in the end if and only if
nothing installed requires a dependency that is not configured, and everything
installed is a dependency or named by the configuration. -/
theorem extensions_iff (hperm : order.Perm dependencyPlugins)
    (hinstalled : Closed requiredPlugins installed) (hrequested : RequestedClosed extensions) :
    (∃ final, runDatabase installed (databaseStatements order extensions) = some final ∧
      ∀ e, final e = true ↔ Requested extensions e) ↔
    (∀ d ∈ dependencyPlugins, ¬ Requested extensions d →
      ∀ e, Requires requiredPlugins e d → installed e = false) ∧
    ∀ e, installed e = true → e ∈ dependencyPlugins ∨ e ∈ extensions.keys := by
  have hvalue (e : String) : (extensions.get? e).getD false = true ↔ Requested extensions e := by
    rw [Requested]
    cases extensions.get? e with
    | none => simp
    | some b => simp
  have hunnamed (e : String) (h : ¬(e ∈ dependencyPlugins ∨ e ∈ extensions.keys)) :
      ¬ Requested extensions e := by
    intro hreq
    exact h (.inr (List.mem_map_of_mem ((extensions.get?_eq_some_iff).mp hreq)))
  constructor
  · rintro ⟨final, hrun, hexact⟩
    obtain ⟨hcondition, rfl⟩ :=
      (runDatabase_databaseStatements hperm hinstalled hrequested).mp hrun
    refine ⟨hcondition, fun e he => ?_⟩
    by_contra hnamed
    have hfinal := hexact e
    rw [overwrite_orderedExtensions hperm, if_neg hnamed] at hfinal
    exact hunnamed e hnamed (hfinal.mp he)
  · rintro ⟨hcondition, hnamed⟩
    refine ⟨_, (runDatabase_databaseStatements hperm hinstalled hrequested).mpr
      ⟨hcondition, rfl⟩, fun e => ?_⟩
    rw [overwrite_orderedExtensions hperm]
    split
    · exact hvalue e
    · next h =>
        constructor
        · intro he
          exact absurd (hnamed e he) h
        · intro hreq
          exact absurd hreq (hunnamed e h)

end Database

/-- The configuration that enables `hstore` and disables the two others. -/
def withoutPostgis : Dict String Bool :=
  (∅ : Dict String Bool).update [("hstore", true), ("postgis", false), ("postgis_raster", false)]

theorem requestedClosed_withoutPostgis : RequestedClosed withoutPostgis := by
  have hkeys : ∀ e ∈ withoutPostgis.keys, Requested withoutPostgis e →
      requirements requiredPlugins e = [] := by
    unfold Requested
    decide
  intro e d he hd
  have hkey : e ∈ withoutPostgis.keys :=
    List.mem_map_of_mem ((withoutPostgis.get?_eq_some_iff).mp he)
  rw [requires_iff, hkeys e hkey he] at hd
  contradiction

/-- Enabling one extension in an empty database. -/
theorem extensions_iff_hstore :
    ∃ final, runDatabase (fun _ => false) (databaseStatements dependencyPlugins withoutPostgis) =
      some final ∧ ∀ e, final e = true ↔ Requested withoutPostgis e :=
  (extensions_iff (List.Perm.refl _) (fun _ _ h => by simp at h)
    requestedClosed_withoutPostgis).mpr ⟨fun _ _ _ _ _ => rfl, fun _ h => by simp at h⟩

/-- `postgis` and `postgis_raster` are installed. -/
def withPostgis (extension : String) : Bool :=
  extension == "postgis" || extension == "postgis_raster"

theorem closed_withPostgis : Closed requiredPlugins withPostgis := by
  have hpostgis : requirements requiredPlugins "postgis" = [] := by decide
  have hraster : requirements requiredPlugins "postgis_raster" = ["postgis"] := by decide
  intro e d he hd
  rw [requires_iff] at hd
  have he' : e = "postgis" ∨ e = "postgis_raster" := by simpa [withPostgis] using he
  rcases he' with rfl | rfl
  · rw [hpostgis] at hd
    contradiction
  · rw [hraster, List.mem_singleton] at hd
    rw [hd]
    rfl

/-- Both are disabled: `postgis` is dropped first, and that statement fails. -/
theorem runDatabase_withoutPostgis :
    Closed requiredPlugins withPostgis ∧ RequestedClosed withoutPostgis ∧
      ¬ ∃ final, runDatabase withPostgis
        (databaseStatements dependencyPlugins withoutPostgis) = some final := by
  have hnone : (runDatabase withPostgis
      (databaseStatements dependencyPlugins withoutPostgis)).isNone := by decide
  refine ⟨closed_withPostgis, requestedClosed_withoutPostgis, ?_⟩
  rintro ⟨final, hfinal⟩
  rw [hfinal] at hnone
  contradiction

end PostgresqlK8s.Extensions
