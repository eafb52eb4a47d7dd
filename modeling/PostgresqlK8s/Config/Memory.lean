import PostgresqlK8s.Config.Valid

/-!
# Config.Memory

The memory parameters, in the pages of 8192 bytes that PostgreSQL counts.  The
calculation counts a page as 8000 bytes and 128 pages as a million, so that what
it writes is larger than what it reckons with.
-/

namespace PostgresqlK8s.Config

/-! ## the calculation on integers -/

/-- Two fifths of the memory in MB, truncated towards zero. -/
theorem sharedBuffersMaxValueInMb_eq (memory : Int) :
    sharedBuffersMaxValueInMb memory = (2 * memory).tdiv 5000000 := by
  refine (congrArg trunc ?_).trans (trunc_intCast_div (2 * memory) 5000000)
  push_cast
  ring

/-- A buffer counts as 8 kB: 125 of them are one MB. -/
theorem sharedBuffersMaxValue_eq (memory : Int) :
    sharedBuffersMaxValue memory = 125 * (2 * memory).tdiv 5000000 := by
  have hpages : (((2 * memory).tdiv 5000000 : Int) : ℚ) * 10 ^ 3 / 8 =
      (125 * (2 * memory).tdiv 5000000 : Int) := by
    push_cast
    ring
  rw [sharedBuffersMaxValue, sharedBuffersMaxValueInMb_eq, hpages, trunc_intCast]

/-- A quarter of the memory, truncated towards zero. -/
theorem defaultSharedBuffers_eq (memory : Int) : defaultSharedBuffers memory = memory.tdiv 4 := by
  refine (congrArg trunc ?_).trans (trunc_intCast_div memory 4)
  push_cast
  ring

/-- The default is written in pages, of which 128 count as one MB. -/
theorem sharedBuffersText_eq (buffers : Int) :
    sharedBuffersText buffers = .str (toString ((128 * buffers).tdiv 1000000)) := by
  have htrunc : trunc ((buffers : ℚ) * 128 / 10 ^ 6) = (128 * buffers).tdiv 1000000 := by
    refine (congrArg trunc ?_).trans (trunc_intCast_div (128 * buffers) 1000000)
    push_cast
    ring
  rw [sharedBuffersText, htrunc]

/-- So is the cache, from what the buffers leave of the memory. -/
theorem effectiveCacheSizeText_eq {memory buffers : Int} {bytes : ℚ} (hbytes : bytes = buffers) :
    effectiveCacheSizeText memory bytes =
      .str (toString ((memory - buffers).tdiv 1000000 * 128)) := by
  have hrest : (memory : ℚ) - buffers = (memory - buffers : Int) := by
    push_cast
    ring
  have htrunc : trunc (((memory - buffers : Int) : ℚ) / 10 ^ 6) =
      (memory - buffers).tdiv 1000000 := by
    refine (congrArg trunc ?_).trans (trunc_intCast_div (memory - buffers) 1000000)
    norm_num
  rw [effectiveCacheSizeText, hbytes, hrest, trunc_intCast, htrunc]

/-! ## the options of the memory -/

/-- A configuration has only options of the model. -/
theorem ModelConfig.mem_keys {config : ModelConfig} {key : String}
    (h : key ∈ config.options.keys) : key ∈ keys := by
  obtain ⟨option, hoption, rfl⟩ := List.mem_map.mp h
  obtain ⟨field, hfield, hname, -⟩ := config.hasJujuType option hoption
  exact List.mem_map.mpr ⟨field, hfield, hname⟩

/-- The parameter of the buffers is the option. -/
theorem get?_shared_buffers (config : ModelConfig) :
    (parametersOf config.options).get? "shared_buffers" =
      config.options.get? "memory_shared_buffers" := by
  have hparameter : parameterOf "memory_shared_buffers" = some "shared_buffers" := by
    decide
  have hkey : "memory_shared_buffers" ∈ keys := by
    simp [keys, fields, memoryFields, optional]
  refine get?_parametersOf hparameter fun key' hkey' h => ?_
  rcases eq_or_trackFunctions_of_parameterOf (config.mem_keys hkey') hkey h hparameter
    with heq | htrack
  · exact heq
  · exact absurd htrack (by decide)

section

variable {config : ModelConfig} (hvalid : validationErrors config = [])
include hvalid

/-- An accepted configuration has a profile. -/
theorem exists_profile : ∃ profile, config.options.get? "profile" = some profile := by
  have hfield : required "profile" (.values ["testing", "production"] (some
      "Value not one of 'testing' or 'production'")) ∈ fields := by
    simp [fields, profileFields]
  have hcheck := List.filterMap_eq_nil_iff.mp hvalid _ hfield
  cases hprofile : config.options.get? "profile" with
  | none => simp [Field.check, required, hprofile] at hcheck
  | some profile => exact ⟨profile, rfl⟩

/-- The buffers are a number, of whatever size. -/
theorem exists_int_of_shared_buffers {value : Value}
    (h : config.options.get? "memory_shared_buffers" = some value) :
    ∃ pages : Int, value = .int pages := by
  have hfield : optional "memory_shared_buffers" sharedBuffersInt ∈ fields := by
    simp [fields, memoryFields]
  have haccepts := accepts_of_valid hvalid hfield h
  cases value with
  | int n => exact ⟨n, rfl⟩
  | str _ | bool _ | float _ => cases haccepts

end

/-! ## what the parameters take -/

/-- The shared buffers that are asked for, in pages. -/
def ModelConfig.requestedBuffers (config : ModelConfig) : Int :=
  match config.options.get? "memory_shared_buffers" with
  | some (.int pages) => pages
  | _ => 0

/-- The shared buffers are above the limit, which is negative where the memory is. -/
def SharedBuffersRefused (config : ModelConfig) (memory : Int) : Prop :=
  125 * (2 * memory).tdiv 5000000 < config.requestedBuffers

section

variable {configOptions : Dict String Value} {availableMemory : Int} {limitMemory : Option Int}
  {memory : Int} {profile : Value}
  (hmemory : usableMemory availableMemory limitMemory = memory)
  (hprofile : configOptions.get? "profile" = some profile)
include hmemory hprofile

/-- The result, where the shared buffers are configured. -/
theorem buildPostgresqlParameters_of_some {pages : Int}
    (h : (parametersOf configOptions).get? "shared_buffers" = some (.int pages)) :
    buildPostgresqlParameters configOptions availableMemory limitMemory =
      if 125 * (2 * memory).tdiv 5000000 < pages then .error (sharedBuffersError memory)
      else if profile = .str "production" then
        .ok ((parametersOf configOptions).set "effective_cache_size"
          (.str (toString ((memory - 8000 * pages).tdiv 1000000 * 128))))
      else .ok (parametersOf configOptions) := by
  have hnumber : (Value.int pages).number = some (pages : ℚ) := rfl
  have hlimit : (pages : ℚ) > (125 * (2 * memory).tdiv 5000000 : Int) ↔
      125 * (2 * memory).tdiv 5000000 < pages := Int.cast_lt
  have hbytes : (pages : ℚ) * 8 * 10 ^ 3 = (8000 * pages : Int) := by
    push_cast
    ring
  simp only [buildPostgresqlParameters, hmemory, hprofile, h, Option.getD_some, hnumber,
    sharedBuffersMaxValue_eq, hlimit, Option.map_some, productionParameters,
    effectiveCacheSizeText_eq hbytes]
  rfl

/-- The result, where they are not. -/
theorem buildPostgresqlParameters_of_none
    (h : (parametersOf configOptions).get? "shared_buffers" = none) :
    buildPostgresqlParameters configOptions availableMemory limitMemory =
      if 125 * (2 * memory).tdiv 5000000 < 0 then .error (sharedBuffersError memory)
      else if profile = .str "production" then
        .ok (((parametersOf configOptions).set "shared_buffers"
          (.str (toString ((128 * memory.tdiv 4).tdiv 1000000)))).set "effective_cache_size"
            (.str (toString ((memory - memory.tdiv 4).tdiv 1000000 * 128))))
      else .ok (parametersOf configOptions) := by
  have hnumber : (Value.int 0).number = some ((0 : Int) : ℚ) := rfl
  have hlimit : ((0 : Int) : ℚ) > (125 * (2 * memory).tdiv 5000000 : Int) ↔
      125 * (2 * memory).tdiv 5000000 < 0 := Int.cast_lt
  simp only [buildPostgresqlParameters, hmemory, hprofile, h, Option.getD_none, hnumber,
    sharedBuffersMaxValue_eq, hlimit, Option.map_none, productionParameters,
    defaultSharedBuffers_eq, sharedBuffersText_eq, effectiveCacheSizeText_eq rfl]
  rfl

end

/-! ## the parameters fit the memory -/

/-- The pages that a parameter stands for. -/
def Value.pages : Value → Option Int
  | .int n => some n
  | .str text => some (Decimal.readSigned text)
  | _ => none

/-- The parameters fit the memory, in pages of 8192 bytes. -/
structure MemoryFits (config : ModelConfig) (memory : Int) (parameters : Dict String Value) :
    Prop where
  /-- At most 40 % for the shared buffers, if they are configured. -/
  configured : ∀ pages : Int, config.options.get? "memory_shared_buffers" = some (.int pages) →
    (8192 * pages : ℚ) ≤ 40 / 100 * memory
  production : config.options.get? "profile" = some (.str "production") →
    ∃ sharedBuffers effectiveCacheSize : Int,
      (parameters.get? "shared_buffers").bind Value.pages = some sharedBuffers ∧
      (parameters.get? "effective_cache_size").bind Value.pages = some effectiveCacheSize ∧
      8192 * (sharedBuffers + effectiveCacheSize) ≤ memory ∧ 0 ≤ effectiveCacheSize

/-- The shared buffers are above the limit, or what the calculation cuts off makes
up for the bytes that it does not count: 192 in a page, and 48576 in the 128 pages
that it counts as a million bytes.  The remainder has the sign of what is divided. -/
def RemaindersSuffice (config : ModelConfig) (memory : Int) : Prop :=
  SharedBuffersRefused config memory ∨
    match config.options.get? "memory_shared_buffers" with
    | some (.int pages) =>
        20480 * pages ≤ memory ∧
          (config.options.get? "profile" = some (.str "production") →
            -1000000 < memory - 8000 * pages ∧
              48576 * memory ≤
                196608000 * pages + 1048576 * (memory - 8000 * pages).tmod 1000000)
    | _ =>
        config.options.get? "profile" = some (.str "production") →
          0 ≤ memory ∧ 48576 * memory ≤ 8192 * (128 * (memory / 4) % 1000000) +
            1048576 * ((memory - memory / 4) % 1000000)

@[simp] theorem pages_toString (n : Int) : (Value.str (toString n)).pages = some n := by
  rw [Value.pages, Decimal.readSigned_toString_int]

section

variable {config : ModelConfig} {parameters : Dict String Value} {memory pages : Int}

/-- The pages of configured buffers and of the cache, against the remainder. -/
theorem pages_le_iff_tmod (memory pages : Int) :
    8192 * (pages + (memory - 8000 * pages).tdiv 1000000 * 128) ≤ memory ∧
        0 ≤ (memory - 8000 * pages).tdiv 1000000 * 128 ↔
      -1000000 < memory - 8000 * pages ∧
        48576 * memory ≤ 196608000 * pages + 1048576 * (memory - 8000 * pages).tmod 1000000 := by
  have hrest := tdiv_spec (memory - 8000 * pages) (d := 1000000) (by norm_num)
  generalize (memory - 8000 * pages).tdiv 1000000 = q at *
  generalize (memory - 8000 * pages).tmod 1000000 = r at *
  omega

/-- The part of the fit that concerns the profile `production`, where the pages are known. -/
theorem exists_pages_iff (memory : Int) {written cached : Option Value} {v w : Value}
    {buffers cache : Int} (hwritten : written = some v) (hv : v.pages = some buffers)
    (hcached : cached = some w) (hw : w.pages = some cache) :
    (∃ sharedBuffers effectiveCacheSize : Int, written.bind Value.pages = some sharedBuffers ∧
        cached.bind Value.pages = some effectiveCacheSize ∧
        8192 * (sharedBuffers + effectiveCacheSize) ≤ memory ∧ 0 ≤ effectiveCacheSize) ↔
      8192 * (buffers + cache) ≤ memory ∧ 0 ≤ cache := by
  rw [hwritten, hcached, Option.bind_some, Option.bind_some]
  constructor
  · rintro ⟨sharedBuffers, effectiveCacheSize, hb, hc, htotal⟩
    cases hv.symm.trans hb
    cases hw.symm.trans hc
    exact htotal
  · exact fun htotal => ⟨buffers, cache, hv, hw, htotal⟩

/-- The fit, where the shared buffers are configured. -/
theorem memoryFits_iff_of_some
    (h : config.options.get? "memory_shared_buffers" = some (.int pages))
    (hbuffers : parameters.get? "shared_buffers" = some (.int pages))
    (hcache : config.options.get? "profile" = some (.str "production") →
      parameters.get? "effective_cache_size" =
        some (.str (toString ((memory - 8000 * pages).tdiv 1000000 * 128)))) :
    MemoryFits config memory parameters ↔ 20480 * pages ≤ memory ∧
      (config.options.get? "profile" = some (.str "production") →
        -1000000 < memory - 8000 * pages ∧
          48576 * memory ≤
            196608000 * pages + 1048576 * (memory - 8000 * pages).tmod 1000000) := by
  have hlimit : (8192 * (pages : ℚ) ≤ 40 / 100 * (memory : ℚ)) ↔ 20480 * pages ≤ memory := by
    rw [← Int.cast_le (R := ℚ)]
    push_cast
    constructor <;> intro _ <;> linarith
  have hpages (hprofile : config.options.get? "profile" = some (.str "production")) :=
    exists_pages_iff memory hbuffers rfl (hcache hprofile) (pages_toString _)
  rw [← pages_le_iff_tmod]
  constructor
  · exact fun hfits => ⟨hlimit.mp (hfits.configured pages h),
      fun hprofile => (hpages hprofile).mp (hfits.production hprofile)⟩
  · rintro ⟨hquota, hproduction⟩
    refine ⟨fun n hn => ?_, fun hprofile => (hpages hprofile).mpr (hproduction hprofile)⟩
    rw [h, Option.some.injEq, Value.int.injEq] at hn
    rw [← hn]
    exact hlimit.mpr hquota

/-- The pages of the default buffers and of the cache, against the remainders.  Of a
negative memory, more is cut off than there is. -/
theorem pages_le_iff_mod (hmemory : ¬ 125 * (2 * memory).tdiv 5000000 < 0) :
    8192 * ((128 * memory.tdiv 4).tdiv 1000000 +
        (memory - memory.tdiv 4).tdiv 1000000 * 128) ≤ memory ∧
        0 ≤ (memory - memory.tdiv 4).tdiv 1000000 * 128 ↔
      0 ≤ memory ∧ 48576 * memory ≤ 8192 * (128 * (memory / 4) % 1000000) +
        1048576 * ((memory - memory / 4) % 1000000) := by
  obtain hnonneg | hneg := le_or_gt 0 memory
  · have hquarter : memory.tdiv 4 = memory / 4 := Int.tdiv_eq_ediv_of_nonneg hnonneg
    have hbuffers : (128 * (memory / 4)).tdiv 1000000 = 128 * (memory / 4) / 1000000 :=
      Int.tdiv_eq_ediv_of_nonneg (by omega)
    have hcache : (memory - memory / 4).tdiv 1000000 = (memory - memory / 4) / 1000000 :=
      Int.tdiv_eq_ediv_of_nonneg (by omega)
    rw [hquarter, hbuffers, hcache]
    omega
  · refine iff_of_false (fun h => ?_) fun h => absurd h.1 (not_le.mpr hneg)
    obtain ⟨hlimit, -, hlimitRest⟩ := tdiv_spec (2 * memory) (d := 5000000) (by norm_num)
    obtain ⟨hquarter, -, hquarterRest⟩ := tdiv_spec memory (d := 4) (by norm_num)
    generalize memory.tdiv 4 = buffers at *
    obtain ⟨hpages, -, hpagesRest⟩ := tdiv_spec (128 * buffers) (d := 1000000) (by norm_num)
    obtain ⟨hcache, -, hcacheRest⟩ := tdiv_spec (memory - buffers) (d := 1000000) (by norm_num)
    generalize (2 * memory).tdiv 5000000 = limit at *
    generalize (128 * buffers).tdiv 1000000 = pages at *
    generalize (memory - buffers).tdiv 1000000 = cache at *
    have hlimitRest := hlimitRest (by omega)
    have hquarterRest := hquarterRest hneg.le
    have hpagesRest := hpagesRest (by omega)
    have hcacheRest := hcacheRest (by omega)
    omega

/-- The fit, where they are not. -/
theorem memoryFits_iff_of_none (h : config.options.get? "memory_shared_buffers" = none)
    (hlimit : ¬ 125 * (2 * memory).tdiv 5000000 < 0)
    (hbuffers : config.options.get? "profile" = some (.str "production") →
      parameters.get? "shared_buffers" =
        some (.str (toString ((128 * memory.tdiv 4).tdiv 1000000))))
    (hcache : config.options.get? "profile" = some (.str "production") →
      parameters.get? "effective_cache_size" =
        some (.str (toString ((memory - memory.tdiv 4).tdiv 1000000 * 128)))) :
    MemoryFits config memory parameters ↔
      (config.options.get? "profile" = some (.str "production") →
        0 ≤ memory ∧ 48576 * memory ≤ 8192 * (128 * (memory / 4) % 1000000) +
          1048576 * ((memory - memory / 4) % 1000000)) := by
  have hpages (hprofile : config.options.get? "profile" = some (.str "production")) :=
    exists_pages_iff memory (hbuffers hprofile) (pages_toString _) (hcache hprofile)
      (pages_toString _)
  rw [← pages_le_iff_mod hlimit]
  constructor
  · exact fun hfits hprofile => (hpages hprofile).mp (hfits.production hprofile)
  · refine fun hproduction => ⟨fun n hn => ?_,
      fun hprofile => (hpages hprofile).mpr (hproduction hprofile)⟩
    rw [h] at hn
    cases hn

end

/-- **The memory parameters fit** whenever they are built, exactly when the shared
buffers are refused or the remainders suffice. -/
theorem buildPostgresqlParameters_memoryFits_iff (config : ModelConfig) (availableMemory : Nat)
    (hvalid : validationErrors config = []) :
    (∀ parameters,
      buildPostgresqlParameters config.options availableMemory config.limitMemory =
          .ok parameters →
        MemoryFits config (usableMemory availableMemory config.limitMemory) parameters) ↔
      RemaindersSuffice config (usableMemory availableMemory config.limitMemory) := by
  generalize hmemory : usableMemory availableMemory config.limitMemory = memory
  obtain ⟨profile, hprofile⟩ := exists_profile hvalid
  have hshared := get?_shared_buffers config
  have hcache : "shared_buffers" ≠ "effective_cache_size" := by decide
  have hproduction : config.options.get? "profile" = some (.str "production") ↔
      profile = .str "production" := by rw [hprofile, Option.some.injEq]
  rw [RemaindersSuffice, SharedBuffersRefused, ModelConfig.requestedBuffers]
  cases hbuffers : config.options.get? "memory_shared_buffers" with
  | none =>
      rw [hbuffers] at hshared
      rw [buildPostgresqlParameters_of_none hmemory hprofile hshared]
      dsimp only
      by_cases hrefused : 125 * (2 * memory).tdiv 5000000 < 0
      · rw [if_pos hrefused]
        exact iff_of_true (fun _ h => by cases h) (.inl hrefused)
      · rw [if_neg hrefused, or_iff_right hrefused]
        split
        · simp only [Except.ok.injEq, forall_eq']
          exact memoryFits_iff_of_none hbuffers hrefused
            (fun _ => by rw [Dict.get?_set_of_ne _ _ hcache, Dict.get?_set_self])
            (fun _ => Dict.get?_set_self _ _ _)
        · next hnot =>
            simp only [Except.ok.injEq, forall_eq']
            exact memoryFits_iff_of_none hbuffers hrefused
              (fun h => absurd (hproduction.mp h) hnot) fun h => absurd (hproduction.mp h) hnot
  | some value =>
      obtain ⟨pages, rfl⟩ := exists_int_of_shared_buffers hvalid hbuffers
      rw [hbuffers] at hshared
      rw [buildPostgresqlParameters_of_some hmemory hprofile hshared]
      dsimp only
      by_cases hrefused : 125 * (2 * memory).tdiv 5000000 < pages
      · rw [if_pos hrefused]
        exact iff_of_true (fun _ h => by cases h) (.inl hrefused)
      · rw [if_neg hrefused, or_iff_right hrefused]
        split
        · simp only [Except.ok.injEq, forall_eq']
          refine memoryFits_iff_of_some hbuffers ?_ fun _ => Dict.get?_set_self _ _ _
          rw [Dict.get?_set_of_ne _ _ hcache, hshared]
        · next hnot =>
            simp only [Except.ok.injEq, forall_eq']
            exact memoryFits_iff_of_some hbuffers hshared fun h => absurd (hproduction.mp h) hnot

/-- From 27 megabytes on, the parameters of the profile `production` are too large. -/
theorem not_remaindersSuffice_of_production {config : ModelConfig} {memory : Int}
    (hprofile : config.options.get? "profile" = some (.str "production"))
    (hmemory : 27000000 ≤ memory) (hnot : ¬ SharedBuffersRefused config memory) :
    ¬ RemaindersSuffice config memory := by
  rw [RemaindersSuffice, or_iff_right hnot]
  split
  · next pages hbuffers =>
      rintro ⟨hquota, hproduction⟩
      have hcounts := hproduction hprofile
      have hrest := tdiv_spec (memory - 8000 * pages) (d := 1000000) (by norm_num)
      omega
  · intro hproduction
    have hcounts := hproduction hprofile
    omega

/-- The options of `largeBuffers` that the memory is calculated from. -/
theorem largeBuffers_options : largeBuffers.config.limitMemory = none ∧
    largeBuffers.config.options.get? "memory_shared_buffers" = some (.int 1000000) ∧
    largeBuffers.config.options.get? "profile" = some (.str "production") := by
  refine ⟨?_, ?_, ?_⟩
  · rw [ModelConfig.limitMemory, largeBuffers.get?_config_of_startsWith (by decide)]
    decide
  · rw [largeBuffers.get?_config_of_startsWith (by decide)]
    decide
  · rw [largeBuffers.get?_config_of_startsWith (by decide)]
    decide

/-- Its parameters on 40 GB. -/
theorem buildPostgresqlParameters_largeBuffers :
    buildPostgresqlParameters largeBuffers.config.options (40 * 10 ^ 9 : Nat)
        largeBuffers.config.limitMemory =
      .ok ((parametersOf largeBuffers.config.options).set "effective_cache_size"
        (.str "4096000")) := by
  obtain ⟨hlimit, hbuffers, hprofile⟩ := largeBuffers_options
  have hmemory : usableMemory (40 * 10 ^ 9 : Nat) largeBuffers.config.limitMemory =
      (40 * 10 ^ 9 : Nat) := by rw [hlimit, usableMemory]
  have hshared := (get?_shared_buffers largeBuffers.config).trans hbuffers
  rw [buildPostgresqlParameters_of_some hmemory hprofile hshared, if_neg (by decide), if_pos rfl]
  rfl

/-- On 8 GB its buffers are refused. -/
theorem buildPostgresqlParameters_memoryFits_largeBuffers :
    (∀ parameters,
      buildPostgresqlParameters largeBuffers.config.options (8 * 10 ^ 9 : Nat)
          largeBuffers.config.limitMemory = .ok parameters →
        MemoryFits largeBuffers.config
          (usableMemory (8 * 10 ^ 9 : Nat) largeBuffers.config.limitMemory) parameters) ↔
      RemaindersSuffice largeBuffers.config
        (usableMemory (8 * 10 ^ 9 : Nat) largeBuffers.config.limitMemory) :=
  buildPostgresqlParameters_memoryFits_iff largeBuffers.config (8 * 10 ^ 9)
    largeBuffers.validationErrors_config

/-- On 40 GB a million pages are accepted, and do not fit with the cache. -/
theorem buildPostgresqlParameters_not_memoryFits :
    ¬ ∀ (config : ModelConfig) (availableMemory : Nat), validationErrors config = [] →
      ∀ parameters,
        buildPostgresqlParameters config.options availableMemory config.limitMemory =
            .ok parameters →
          MemoryFits config (usableMemory availableMemory config.limitMemory) parameters := by
  intro h
  obtain ⟨hlimit, hbuffers, hprofile⟩ := largeBuffers_options
  have hshared := (get?_shared_buffers largeBuffers.config).trans hbuffers
  have hfits := h _ _ largeBuffers.validationErrors_config _ buildPostgresqlParameters_largeBuffers
  rw [hlimit, usableMemory] at hfits
  obtain ⟨buffers, cache, hb, hc, htotal, -⟩ := hfits.production hprofile
  rw [Dict.get?_set_of_ne _ _ (by decide), hshared, Option.bind_some, Value.pages,
    Option.some.injEq] at hb
  rw [Dict.get?_set_self, Option.bind_some] at hc
  have hcache : cache = 4096000 := Option.some.inj (hc.symm.trans (by decide +kernel))
  rw [← hb, hcache] at htotal
  exact absurd htotal (by norm_num)

end PostgresqlK8s.Config
