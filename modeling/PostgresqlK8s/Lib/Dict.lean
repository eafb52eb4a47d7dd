import Mathlib.Data.List.Nodup
import Mathlib.Data.List.Perm.Subperm
import Mathlib.Tactic.Common

/-!
# Dict

A dictionary that remembers the order in which its keys came: writing a new
key appends an entry, writing a present one replaces its value in place.  The
keys are distinct, which the structure carries as a field.
-/

/-- A dictionary from `κ` to `ν`. -/
@[ext]
structure Dict (κ ν : Type*) where
  entries : List (κ × ν)
  nodup : (entries.map Prod.fst).Nodup

namespace Dict

variable {κ ν : Type*}

/-- The keys, in order. -/
def keys (d : Dict κ ν) : List κ := d.entries.map Prod.fst

/-- The dictionary without any key. -/
def empty : Dict κ ν := ⟨[], List.nodup_nil⟩

instance : EmptyCollection (Dict κ ν) := ⟨empty⟩

/-- The entries determine the dictionary. -/
theorem entries_injective : Function.Injective (entries : Dict κ ν → List (κ × ν)) :=
  fun _ _ => Dict.ext

@[simp] theorem entries_empty : (∅ : Dict κ ν).entries = [] := rfl

@[simp] theorem keys_empty : (∅ : Dict κ ν).keys = [] := rfl

/-! ## the last write -/

/-- The value is the one that is written last under the key. -/
def IsLast (k : κ) (v : ν) (kvs : List (κ × ν)) : Prop :=
  ∃ front rest, kvs = front ++ (k, v) :: rest ∧ k ∉ rest.map Prod.fst

theorem IsLast.mem {k : κ} {v : ν} {kvs : List (κ × ν)} (h : IsLast k v kvs) :
    (k, v) ∈ kvs := by
  obtain ⟨front, rest, rfl, -⟩ := h
  exact List.mem_append_right front List.mem_cons_self

theorem isLast_cons {k : κ} {v : ν} {kv : κ × ν} {kvs : List (κ × ν)} :
    IsLast k v (kv :: kvs) ↔ IsLast k v kvs ∨ (kv = (k, v) ∧ k ∉ kvs.map Prod.fst) := by
  constructor
  · rintro ⟨front, rest, heq, hrest⟩
    cases front with
    | nil =>
        obtain ⟨rfl, rfl⟩ := List.cons.inj heq
        exact .inr ⟨rfl, hrest⟩
    | cons _ front =>
        obtain ⟨-, rfl⟩ := List.cons.inj heq
        exact .inl ⟨front, rest, rfl, hrest⟩
  · rintro (⟨front, rest, rfl, hrest⟩ | ⟨rfl, hrest⟩)
    · exact ⟨kv :: front, rest, rfl, hrest⟩
    · exact ⟨[], kvs, rfl, hrest⟩

/-- A key that is written is written for the last time. -/
theorem exists_isLast {k : κ} {kvs : List (κ × ν)} (h : k ∈ kvs.map Prod.fst) :
    ∃ v, IsLast k v kvs := by
  induction kvs with
  | nil => cases h
  | cons kv kvs ih =>
      by_cases hrest : k ∈ kvs.map Prod.fst
      · obtain ⟨v, hv⟩ := ih hrest
        exact ⟨v, isLast_cons.mpr (.inl hv)⟩
      · rw [List.map_cons, List.mem_cons] at h
        obtain rfl := h.resolve_right hrest
        exact ⟨kv.2, isLast_cons.mpr (.inr ⟨rfl, hrest⟩)⟩

/-- Of distinct keys each is written once. -/
theorem isLast_of_nodup {k : κ} {v : ν} {kvs : List (κ × ν)}
    (h : (kvs.map Prod.fst).Nodup) : IsLast k v kvs ↔ (k, v) ∈ kvs := by
  refine ⟨IsLast.mem, fun hmem => ?_⟩
  obtain ⟨front, rest, rfl⟩ := List.append_of_mem hmem
  refine ⟨front, rest, rfl, ?_⟩
  rw [List.map_append, List.map_cons] at h
  exact (List.nodup_cons.mp (List.nodup_append.mp h).2.1).1

section Write

variable [DecidableEq κ]

/-- The entries after a write. -/
def setEntries (k : κ) (v : ν) (entries : List (κ × ν)) : List (κ × ν) :=
  if k ∈ entries.map Prod.fst then entries.map fun e => if e.1 = k then (k, v) else e
  else entries ++ [(k, v)]

theorem map_fst_setEntries (k : κ) (v : ν) (entries : List (κ × ν)) :
    (setEntries k v entries).map Prod.fst =
      if k ∈ entries.map Prod.fst then entries.map Prod.fst
      else entries.map Prod.fst ++ [k] := by
  unfold setEntries
  split
  · rw [List.map_map]
    refine List.map_congr_left fun e _ => ?_
    rw [Function.comp_apply]
    split
    · next he => exact he.symm
    · rfl
  · simp

/-- The value under a key. -/
def get? (d : Dict κ ν) (k : κ) : Option ν := (d.entries.find? fun e => e.1 = k).map Prod.snd

/-- Write a value. -/
def set (d : Dict κ ν) (k : κ) (v : ν) : Dict κ ν where
  entries := setEntries k v d.entries
  nodup := by
    rw [map_fst_setEntries]
    split
    · exact d.nodup
    · next hk =>
        rw [List.nodup_append]
        refine ⟨d.nodup, List.nodup_singleton k, fun a ha b hb => ?_⟩
        rw [List.mem_singleton] at hb
        rintro rfl
        exact hk (hb ▸ ha)

/-- Write several values, in order. -/
def update (d : Dict κ ν) (kvs : List (κ × ν)) : Dict κ ν :=
  kvs.foldl (fun d kv => d.set kv.1 kv.2) d

@[simp] theorem update_nil (d : Dict κ ν) : d.update [] = d := rfl

@[simp] theorem update_cons (d : Dict κ ν) (kv : κ × ν) (kvs : List (κ × ν)) :
    d.update (kv :: kvs) = (d.set kv.1 kv.2).update kvs := rfl

/-- What an entry holds is read under its key. -/
theorem get?_eq_some_iff (d : Dict κ ν) {k : κ} {v : ν} :
    d.get? k = some v ↔ (k, v) ∈ d.entries := by
  unfold get?
  constructor
  · intro h
    obtain ⟨e, he, rfl⟩ := Option.map_eq_some_iff.mp h
    have hkey : e.1 = k := by simpa using List.find?_some he
    rw [← hkey]
    exact List.mem_of_find?_eq_some he
  · intro h
    cases hfind : d.entries.find? (fun e => e.1 = k) with
    | none => simpa using List.find?_eq_none.mp hfind (k, v) h
    | some e =>
        have hkey : e.1 = k := by simpa using List.find?_some hfind
        have hmem := List.mem_of_find?_eq_some hfind
        have he : e = (k, v) := List.inj_on_of_nodup_map d.nodup hmem h hkey
        rw [he]
        rfl

theorem exists_get?_iff {d : Dict κ ν} {k : κ} : (∃ v, d.get? k = some v) ↔ k ∈ d.keys := by
  simp only [get?_eq_some_iff, keys, List.mem_map]
  constructor
  · rintro ⟨v, hv⟩
    exact ⟨(k, v), hv, rfl⟩
  · rintro ⟨e, he, rfl⟩
    exact ⟨e.2, he⟩

/-- A new key comes last. -/
theorem entries_set_of_not_mem (d : Dict κ ν) {k : κ} (v : ν) (h : k ∉ d.keys) :
    (d.set k v).entries = d.entries ++ [(k, v)] := if_neg h

theorem keys_set (d : Dict κ ν) (k : κ) (v : ν) :
    (d.set k v).keys = if k ∈ d.keys then d.keys else d.keys ++ [k] :=
  map_fst_setEntries k v d.entries

theorem mem_keys_set {d : Dict κ ν} {k k' : κ} {v : ν} :
    k' ∈ (d.set k v).keys ↔ k' = k ∨ k' ∈ d.keys := by
  rw [keys_set]
  split
  · next hk =>
      constructor
      · exact .inr
      · rintro (rfl | h)
        · exact hk
        · exact h
  · rw [List.mem_append, List.mem_singleton, or_comm]

theorem mem_keys_update {d : Dict κ ν} {kvs : List (κ × ν)} {k : κ} :
    k ∈ (d.update kvs).keys ↔ k ∈ kvs.map Prod.fst ∨ k ∈ d.keys := by
  induction kvs generalizing d with
  | nil => simp
  | cons kv kvs ih =>
      rw [update_cons, ih, mem_keys_set, List.map_cons, List.mem_cons]
      tauto

/-- The entries after a write. -/
theorem mem_entries_set {d : Dict κ ν} {k k' : κ} {v v' : ν} :
    (k', v') ∈ (d.set k v).entries ↔ (k' = k ∧ v' = v) ∨ (k' ≠ k ∧ (k', v') ∈ d.entries) := by
  by_cases hk : k ∈ d.keys
  · have hset : (d.set k v).entries = d.entries.map fun e => if e.1 = k then (k, v) else e :=
      if_pos hk
    rw [hset, List.mem_map]
    constructor
    · rintro ⟨e, he, heq⟩
      split at heq
      · obtain ⟨rfl, rfl⟩ := Prod.mk.inj heq
        exact .inl ⟨rfl, rfl⟩
      · next hne =>
          subst heq
          exact .inr ⟨hne, he⟩
    · rintro (⟨rfl, rfl⟩ | ⟨hne, hmem⟩)
      · obtain ⟨e, he, hkey⟩ := List.mem_map.mp hk
        exact ⟨e, he, if_pos hkey⟩
      · exact ⟨(k', v'), hmem, if_neg hne⟩
  · rw [entries_set_of_not_mem d v hk, List.mem_append, List.mem_singleton, Prod.mk.injEq, or_comm]
    refine or_congr_right ⟨fun hmem => ⟨?_, hmem⟩, And.right⟩
    rintro rfl
    exact hk (List.mem_map_of_mem hmem)

@[simp] theorem get?_set_self (d : Dict κ ν) (k : κ) (v : ν) : (d.set k v).get? k = some v := by
  rw [get?_eq_some_iff, mem_entries_set]
  exact .inl ⟨rfl, rfl⟩

@[simp] theorem get?_set_of_ne (d : Dict κ ν) {k k' : κ} (v : ν) (h : k' ≠ k) :
    (d.set k v).get? k' = d.get? k' := by
  refine Option.ext fun v' => ?_
  rw [get?_eq_some_iff, get?_eq_some_iff, mem_entries_set]
  simp [h]

@[simp] theorem get?_empty (k : κ) : (∅ : Dict κ ν).get? k = none := rfl

/-- Reading after one value is written under several keys. -/
theorem get?_update_map (d : Dict κ ν) (ks : List κ) (v : ν) (k : κ) :
    (d.update (ks.map fun k => (k, v))).get? k = if k ∈ ks then some v else d.get? k := by
  induction ks generalizing d with
  | nil => simp
  | cons k' ks ih =>
      rw [List.map_cons, update_cons, ih]
      by_cases hmem : k ∈ ks
      · rw [if_pos hmem, if_pos (List.mem_cons_of_mem k' hmem)]
      · rw [if_neg hmem]
        by_cases hk : k = k'
        · rw [hk, get?_set_self, if_pos List.mem_cons_self]
        · rw [get?_set_of_ne d v hk, if_neg (by simp [hk, hmem])]

/-- Reading a key that is not among those that are written. -/
theorem get?_update_of_not_mem (d : Dict κ ν) {kvs : List (κ × ν)} {k : κ}
    (h : k ∉ kvs.map Prod.fst) : (d.update kvs).get? k = d.get? k := by
  induction kvs generalizing d with
  | nil => rfl
  | cons kv kvs ih =>
      rw [List.map_cons, List.mem_cons, not_or] at h
      rw [update_cons, ih _ h.2, get?_set_of_ne _ _ h.1]

/-- Writing the value that is there changes nothing. -/
theorem set_of_mem_entries (d : Dict κ ν) {k : κ} {v : ν} (h : (k, v) ∈ d.entries) :
    d.set k v = d := by
  apply Dict.ext
  have hk : k ∈ d.entries.map Prod.fst := List.mem_map_of_mem h
  have hset : (d.set k v).entries = d.entries.map fun e => if e.1 = k then (k, v) else e :=
    if_pos hk
  rw [hset]
  conv_rhs => rw [← List.map_id d.entries]
  refine List.map_congr_left fun e he => ?_
  split
  · next hkey => exact List.inj_on_of_nodup_map d.nodup h he hkey.symm
  · rfl

/-- Distinct keys that are new, or hold the value that is written, come in the
order in which they are written. -/
theorem entries_update_of_consistent {d : Dict κ ν} {kvs : List (κ × ν)}
    (hnodup : (kvs.map Prod.fst).Nodup)
    (hsame : ∀ kv ∈ kvs, kv.1 ∈ d.keys → kv ∈ d.entries) :
    (d.update kvs).entries = d.entries ++ kvs.filter (·.1 ∉ d.keys) := by
  induction kvs generalizing d with
  | nil => simp
  | cons kv kvs ih =>
      rw [List.map_cons, List.nodup_cons] at hnodup
      rw [List.forall_mem_cons] at hsame
      rw [update_cons]
      by_cases hkv : kv.1 ∈ d.keys
      · rw [set_of_mem_entries d (hsame.1 hkv), ih hnodup.2 hsame.2,
          List.filter_cons_of_neg (by simpa using hkv)]
      · have hentries := entries_set_of_not_mem d kv.2 hkv
        have hkeys (kv' : κ × ν) (hmem : kv' ∈ kvs) :
            kv'.1 ∈ (d.set kv.1 kv.2).keys ↔ kv'.1 ∈ d.keys := by
          rw [mem_keys_set]
          refine or_iff_right ?_
          intro heq
          exact hnodup.1 (heq ▸ List.mem_map_of_mem hmem)
        have hfilter : kvs.filter (·.1 ∉ (d.set kv.1 kv.2).keys) =
            kvs.filter (·.1 ∉ d.keys) := by
          refine List.filter_congr fun kv' hmem => ?_
          rw [decide_eq_decide, hkeys kv' hmem]
        have hsame' : ∀ kv' ∈ kvs, kv'.1 ∈ (d.set kv.1 kv.2).keys →
            kv' ∈ (d.set kv.1 kv.2).entries := by
          intro kv' hmem hkey
          rw [hentries]
          exact List.mem_append_left _ (hsame.2 kv' hmem ((hkeys kv' hmem).mp hkey))
        rw [ih hnodup.2 hsame', hentries, hfilter, List.filter_cons_of_pos (by simpa using hkv),
          List.append_assoc]
        rfl

/-- New and distinct keys come in the order in which they are written. -/
theorem entries_update_of_nodup {d : Dict κ ν} {kvs : List (κ × ν)}
    (hnodup : (kvs.map Prod.fst).Nodup) (hnew : ∀ k ∈ kvs.map Prod.fst, k ∉ d.keys) :
    (d.update kvs).entries = d.entries ++ kvs := by
  induction kvs generalizing d with
  | nil => simp
  | cons kv kvs ih =>
      rw [List.map_cons, List.nodup_cons] at hnodup
      have hkv : kv.1 ∉ d.keys := hnew kv.1 (by simp)
      rw [update_cons, ih hnodup.2, entries_set_of_not_mem d kv.2 hkv, List.append_assoc]
      · rfl
      · intro k hk hmem
        rcases mem_keys_set.mp hmem with rfl | hmem
        · exact hnodup.1 hk
        · exact hnew k (List.mem_cons_of_mem _ hk) hmem

/-- A present key keeps its place. -/
theorem entries_set_of_append {d : Dict κ ν} {front rest : List (κ × ν)} {k : κ} {v : ν}
    (h : d.entries = front ++ (k, v) :: rest) (w : ν) :
    (d.set k w).entries = front ++ (k, w) :: rest := by
  have hnodup := d.nodup
  rw [h, List.map_append, List.map_cons, List.nodup_append] at hnodup
  obtain ⟨-, hrest, hfront⟩ := hnodup
  have hmem : k ∈ d.entries.map Prod.fst := by
    rw [h]
    simp
  have hset : (d.set k w).entries = d.entries.map fun e => if e.1 = k then (k, w) else e :=
    if_pos hmem
  have hkeep {l : List (κ × ν)} (hl : ∀ e ∈ l, e.1 ≠ k) :
      (l.map fun e => if e.1 = k then (k, w) else e) = l := by
    conv_rhs => rw [← List.map_id l]
    exact List.map_congr_left fun e he => if_neg (hl e he)
  rw [hset, h, List.map_append, List.map_cons, if_pos rfl, hkeep, hkeep]
  · intro e he heq
    exact (List.nodup_cons.mp hrest).1 (List.mem_map.mpr ⟨e, he, heq⟩)
  · intro e he
    exact hfront e.1 (List.mem_map_of_mem he) k List.mem_cons_self

/-- Write the values of some of the entries again. -/
def rewriteEntries (f : κ × ν → Option ν) (entries : List (κ × ν)) (d : Dict κ ν) : Dict κ ν :=
  entries.foldl (fun d e =>
    match f e with
    | some w => d.set e.1 w
    | none => d) d

/-- A loop over a dictionary that rewrites its values. -/
def rewrite (f : κ × ν → Option ν) (d : Dict κ ν) : Dict κ ν := rewriteEntries f d.entries d

theorem rewriteEntries_cons (f : κ × ν → Option ν) (e : κ × ν) (rest : List (κ × ν))
    (d : Dict κ ν) :
    rewriteEntries f (e :: rest) d =
      rewriteEntries f rest (match f e with
        | some w => d.set e.1 w
        | none => d) := rfl

theorem entries_rewriteEntries (f : κ × ν → Option ν) {d : Dict κ ν} {front rest : List (κ × ν)}
    (h : d.entries = front ++ rest) :
    (rewriteEntries f rest d).entries = front ++ rest.map fun e => (e.1, (f e).getD e.2) := by
  induction rest generalizing d front with
  | nil => exact h
  | cons e rest ih =>
      rw [rewriteEntries_cons, List.map_cons]
      cases hf : f e with
      | none =>
          have h' : d.entries = (front ++ [e]) ++ rest := by simp [h]
          rw [ih h', List.append_assoc]
          rfl
      | some w =>
          have h' : (d.set e.1 w).entries = (front ++ [(e.1, w)]) ++ rest := by
            rw [entries_set_of_append h, List.append_assoc]
            rfl
          rw [ih h', List.append_assoc]
          rfl

theorem entries_rewrite (f : κ × ν → Option ν) (d : Dict κ ν) :
    (d.rewrite f).entries = d.entries.map fun e => (e.1, (f e).getD e.2) :=
  entries_rewriteEntries f (List.nil_append _).symm

/-- Several writes leave the last one under each of their keys. -/
theorem mem_entries_update {d : Dict κ ν} {kvs : List (κ × ν)} {k : κ} {v : ν} :
    (k, v) ∈ (d.update kvs).entries ↔
      IsLast k v kvs ∨ (k ∉ kvs.map Prod.fst ∧ (k, v) ∈ d.entries) := by
  induction kvs generalizing d with
  | nil =>
      have hnone : ¬IsLast k v ([] : List (κ × ν)) := fun h => List.not_mem_nil h.mem
      simp [hnone]
  | cons kv kvs ih =>
      have hkv : (k = kv.1 ∧ v = kv.2) ↔ kv = (k, v) := by
        rw [Prod.ext_iff, eq_comm, @eq_comm _ v]
      rw [update_cons, ih, mem_entries_set, isLast_cons, List.map_cons, List.mem_cons, not_or,
        hkv, and_or_left, or_assoc, and_comm (b := kv = (k, v)), and_left_comm, and_assoc,
        ne_eq]

/-- Writing the entries of one dictionary over another, where both come from
several writes, leaves the last of all writes under each key. -/
theorem mem_entries_update_update {kvs kvs' : List (κ × ν)} {k : κ} {v : ν} :
    (k, v) ∈ (((∅ : Dict κ ν).update kvs).update ((∅ : Dict κ ν).update kvs').entries).entries ↔
      IsLast k v (kvs ++ kvs') := by
  have hempty (kvs : List (κ × ν)) :
      (k, v) ∈ ((∅ : Dict κ ν).update kvs).entries ↔ IsLast k v kvs := by
    rw [mem_entries_update]
    simp
  have hkeys : k ∉ ((∅ : Dict κ ν).update kvs').entries.map Prod.fst ↔ k ∉ kvs'.map Prod.fst := by
    refine not_congr ?_
    change k ∈ ((∅ : Dict κ ν).update kvs').keys ↔ _
    rw [mem_keys_update]
    simp
  rw [mem_entries_update, isLast_of_nodup ((∅ : Dict κ ν).update kvs').nodup, hempty, hempty,
    hkeys, ← hempty (kvs ++ kvs'), update, List.foldl_append]
  change _ ↔ (k, v) ∈ (((∅ : Dict κ ν).update kvs).update kvs').entries
  rw [mem_entries_update, hempty]

/-- Where as many entries as writes are left, each key was written once. -/
theorem nodup_of_length_update {kvs : List (κ × ν)}
    (h : ((∅ : Dict κ ν).update kvs).entries.length = kvs.length) :
    (kvs.map Prod.fst).Nodup := by
  have hsubset : ((∅ : Dict κ ν).update kvs).keys ⊆ kvs.map Prod.fst := by
    intro k hk
    rw [mem_keys_update] at hk
    simpa using hk
  have hsubperm := List.Nodup.subperm ((∅ : Dict κ ν).update kvs).nodup hsubset
  have hperm := hsubperm.perm_of_length_le (by simp [h])
  exact hperm.nodup_iff.mp ((∅ : Dict κ ν).update kvs).nodup

end Write

end Dict
