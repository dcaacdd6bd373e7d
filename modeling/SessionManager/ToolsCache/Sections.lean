import SessionManager.ToolsCache
import Mathlib.Data.String.Basic
import Mathlib.Data.Prod.Lex
import Mathlib.Data.List.Sort

/-!
# The sections of the tools cache

What each section of `ToolsCacheStore` does to the entry of a key, what the store lists, and
what a manager that starts takes over from the file the store wrote.
-/

namespace SessionManager

open Effect

def ToolsCacheEntry.key (entry : ToolsCacheEntry) : String × String :=
  (entry.kind, entry.config_id)

/-- What a manager that starts makes of a file. -/
def PersistedCache.inner (cache : PersistedCache) :
    HashMap (String × String) ToolsCacheEntry :=
  cache.entries.foldl (fun inner entry => inner.insert (entry.kind, entry.config_id) entry) .empty

namespace ToolsCacheStore

variable {store : ToolsCacheStore} {now : Nat} {key : String × String} {entry : ToolsCacheEntry}
  {kind config_id : String} {tools : List ToolDescriptor}

/-- Every entry is filed under its own kind and configuration. -/
def keyed (store : ToolsCacheStore) : Prop :=
  ∀ key entry, store.inner.get key = some entry → entry.key = key

/-- No entry has expired. -/
def fresh (store : ToolsCacheStore) (now : Nat) : Prop :=
  ∀ key entry, store.inner.get key = some entry → now - entry.last_seen_at ≤ store.life

/-! ## Eviction -/

@[simp] theorem life_evict_expired : (store.evict_expired now).2.life = store.life := rfl

@[simp] theorem enabled_evict_expired : (store.evict_expired now).2.enabled = store.enabled := rfl

theorem get_evict_expired (key : String × String) : (store.evict_expired now).2.inner.get key =
    (store.inner.get key).filter fun entry => now - entry.last_seen_at ≤ store.life :=
  HashMap.get_retain ..

theorem keyed.evict_expired (keyed : store.keyed) : (store.evict_expired now).2.keyed := by
  intro key entry found
  exact keyed key entry (HashMap.get_of_retain found)

/-- What eviction leaves has not expired. -/
theorem fresh_evict_expired : (store.evict_expired now).2.fresh now := by
  intro key entry found
  rw [get_evict_expired, Option.filter_eq_some_iff] at found
  exact of_decide_eq_true found.2

theorem evicted_iff : (store.evict_expired now).1 = true ↔ ¬ store.fresh now := by
  have shorter := HashMap.length_keys_retain_le store.inner
    fun _ entry => now - entry.last_seen_at ≤ store.life
  rw [evict_expired, bne_iff_ne, ne_eq, not_iff_not, le_antisymm_iff, and_iff_right shorter,
    HashMap.length_keys_retain]
  exact forall_congr' fun key => forall_congr' fun entry => imp_congr_right fun _ => decide_eq_true_iff

/-- A fresh store is left alone. -/
theorem evict_expired_of_fresh (fresh : store.fresh now) :
    (store.evict_expired now).2 = store := by
  have same : (store.evict_expired now).2.inner = store.inner :=
    HashMap.retain_eq_self fun key entry found => decide_eq_true (fresh key entry found)
  calc (store.evict_expired now).2
      = { store with inner := (store.evict_expired now).2.inner } := rfl
    _ = store := by rw [same]

theorem evict_expired_unevicted (kept : (store.evict_expired now).1 = false) :
    (store.evict_expired now).2 = store := by
  apply evict_expired_of_fresh
  by_contra stale
  rw [evicted_iff.mpr stale] at kept
  cases kept

/-! ## Noting tools -/

@[simp] theorem life_put : (store.put kind config_id tools now).2.life = store.life := rfl

@[simp] theorem enabled_put : (store.put kind config_id tools now).2.enabled = store.enabled := rfl

theorem get_put (key : String × String) : (store.put kind config_id tools now).2.inner.get key =
    if key = (kind, config_id) then some { kind, config_id, tools, last_seen_at := now }
    else store.inner.get key :=
  HashMap.get_insert ..

theorem keyed.put (keyed : store.keyed) : (store.put kind config_id tools now).2.keyed := by
  intro key entry found
  rw [get_put] at found
  split at found
  · rename_i here
    cases found
    exact here.symm
  · exact keyed key entry found

theorem fresh.put (fresh : store.fresh now) : (store.put kind config_id tools now).2.fresh now := by
  intro key entry found
  rw [get_put] at found
  split at found
  · cases found
    exact (Nat.sub_self now).trans_le (Nat.zero_le _)
  · exact fresh key entry found

/-- The cache had other tools, or none. -/
theorem put_changed_iff : (store.put kind config_id tools now).1 = true ↔
    (store.inner.get (kind, config_id)).map ToolsCacheEntry.tools ≠ some tools := by
  rw [put]
  cases store.inner.get (kind, config_id) with
  | none => simp
  | some existing => simp

/-! ## Resets -/

@[simp] theorem life_clear : store.clear.2.life = store.life := rfl

@[simp] theorem get_clear (key : String × String) : store.clear.2.inner.get key = none :=
  HashMap.get_empty key

theorem keyed_clear : store.clear.2.keyed := by
  intro key entry found
  rw [get_clear] at found
  cases found

theorem clear_unremoved (unremoved : store.clear.1 = 0) : store.clear.2 = store := by
  rw [clear, ← HashMap.eq_empty_of_length unremoved]

@[simp] theorem life_clear_config : (store.clear_config config_id).2.life = store.life := rfl

theorem get_clear_config (key : String × String) :
    (store.clear_config config_id).2.inner.get key =
      if key.2 = config_id then none else store.inner.get key := by
  rw [clear_config, HashMap.get_retain]
  by_cases here : key.2 = config_id
  · rw [if_pos here, Option.filter_eq_none_iff]
    intro entry _ kept
    exact bne_iff_ne.mp kept here
  · rw [if_neg here]
    cases store.inner.get key with
    | none => rfl
    | some entry => exact Option.filter_some_pos (bne_iff_ne.mpr here)

theorem keyed.clear_config (keyed : store.keyed) : (store.clear_config config_id).2.keyed := by
  intro key entry found
  exact keyed key entry (HashMap.get_of_retain found)

theorem clear_config_unremoved (unremoved : (store.clear_config config_id).1 = 0) :
    (store.clear_config config_id).2 = store := by
  have all := HashMap.length_keys_retain.mp (Nat.sub_eq_zero_iff_le.mp unremoved)
  rw [clear_config, HashMap.retain_eq_self all]

/-! ## Listing -/

theorem list_perm (store : ToolsCacheStore) : store.list.Perm store.inner.values :=
  List.mergeSort_perm ..

/-- Entries are listed by kind, and by configuration within a kind. -/
theorem list_pairwise (store : ToolsCacheStore) :
    store.list.Pairwise fun a b => toLex a.key ≤ toLex b.key := by
  have spelled (a b : ToolsCacheEntry) :
      (a.kind < b.kind || (a.kind == b.kind && a.config_id ≤ b.config_id)) = true ↔
        toLex a.key ≤ toLex b.key := by
    rw [Bool.or_eq_true, Bool.and_eq_true, decide_eq_true_iff, decide_eq_true_iff, beq_iff_eq,
      Prod.Lex.toLex_le_toLex]
    rfl
  apply List.Pairwise.imp (fun {a b} below => (spelled a b).mp below)
  apply List.pairwise_mergeSort
  · intro a b c first second
    exact (spelled a c).mpr (((spelled a b).mp first).trans ((spelled b c).mp second))
  · intro a b
    rw [Bool.or_eq_true, spelled, spelled]
    exact le_total ..

theorem keyed.mem_list (keyed : store.keyed) :
    entry ∈ store.list ↔ store.inner.get entry.key = some entry := by
  rw [ToolsCacheStore.mem_list]
  constructor
  · intro here
    obtain ⟨key, found⟩ := here
    rwa [keyed key entry found]
  · intro found
    exact ⟨entry.key, found⟩

/-- No key is listed twice. -/
theorem keyed.nodup (keyed : store.keyed) : (store.list.map ToolsCacheEntry.key).Nodup := by
  have keys : store.inner.values.map ToolsCacheEntry.key = store.inner.keys := by
    rw [HashMap.values, List.map_map]
    apply List.map_congr_left
    intro entry member
    exact keyed _ _ (HashMap.mem_entries.mp member)
  rw [(store.list_perm.map _).nodup_iff, keys]
  exact store.inner.nodupKeys

theorem keyed.sorted (keyed : store.keyed) :
    store.list.Pairwise fun a b => toLex a.key < toLex b.key := by
  have distinct : store.list.Pairwise fun a b => a.key ≠ b.key := List.pairwise_map.mp keyed.nodup
  apply (store.list_pairwise.and distinct).imp
  intro a b both
  exact lt_of_le_of_ne both.1 fun same => both.2 (toLex.injective same)

/-- What is listed, seen through `f`, depends on what `f` sees of the entries only. -/
theorem keyed.map_list_congr {store' : ToolsCacheStore} (keyed : store.keyed)
    (keyed' : store'.keyed) {f : ToolsCacheEntry → ToolsCacheEntry}
    (own : ∀ entry, (f entry).key = entry.key)
    (same : ∀ key, (store'.inner.get key).map f = (store.inner.get key).map f) :
    store'.list.map f = store.list.map f := by
  have keys (l : List ToolsCacheEntry) :
      (l.map f).map ToolsCacheEntry.key = l.map ToolsCacheEntry.key := by
    rw [List.map_map]
    exact List.map_congr_left fun entry _ => own entry
  have sorted {store : ToolsCacheStore} (keyed : store.keyed) :
      (store.list.map f).Pairwise fun a b => toLex a.key < toLex b.key := by
    rw [List.pairwise_map]
    apply keyed.sorted.imp
    intro a b below
    rwa [own, own]
  have member {store : ToolsCacheStore} (keyed : store.keyed) (entry : ToolsCacheEntry) :
      entry ∈ store.list.map f ↔ (store.inner.get entry.key).map f = some entry := by
    rw [List.mem_map, Option.map_eq_some_iff]
    constructor
    · intro here
      obtain ⟨entry, listed, rfl⟩ := here
      exact ⟨entry, by rwa [own, ← keyed.mem_list], rfl⟩
    · intro here
      obtain ⟨entry, found, rfl⟩ := here
      rw [own] at found
      exact ⟨entry, keyed.mem_list.mpr found, rfl⟩
  have perm : (store'.list.map f).Perm (store.list.map f) := by
    have distinct {store : ToolsCacheStore} (keyed : store.keyed) : (store.list.map f).Nodup := by
      apply List.Nodup.of_map ToolsCacheEntry.key
      rw [keys]
      exact keyed.nodup
    apply (List.perm_ext_iff_of_nodup (distinct keyed') (distinct keyed)).mpr
    intro entry
    rw [member keyed', member keyed, same]
  apply perm.eq_of_pairwise _ (sorted keyed') (sorted keyed)
  intro a b _ _ below above
  exact (lt_asymm below above).elim

/-! ## The file -/

section File

variable {cfg : ToolsCacheConfig} {from_str : String → Option PersistedCache} {text : String}

theorem keyed_load_from_disk (text : Option String) {key : String × String}
    {entry : ToolsCacheEntry} (found : (load_from_disk from_str text).get key = some entry) :
    entry.key = key := by
  rw [load_from_disk] at found
  split at found
  · cases found
  · rename_i parsed _
    split at found
    · cases found
    · have folded (entries : List ToolsCacheEntry) (inner : HashMap (String × String) ToolsCacheEntry)
          (start : ∀ key entry, inner.get key = some entry → entry.key = key) :
          ∀ key entry, (entries.foldl (fun inner entry =>
            inner.insert (entry.kind, entry.config_id) entry) inner).get key = some entry →
              entry.key = key := by
        induction entries generalizing inner with
        | nil => exact start
        | cons first entries ih =>
          apply ih
          intro key entry found
          rw [HashMap.get_insert] at found
          split at found
          · rename_i here
            cases found
            exact here.symm
          · exact start key entry found
      apply folded parsed.entries .empty _ key entry found
      intro key entry found
      cases found

theorem keyed_load_or_empty (text : Option String) : (load_or_empty cfg from_str text).keyed := by
  intro key entry found
  rw [load_or_empty] at found
  split at found
  · exact keyed_load_from_disk text found
  · cases found

theorem load_of_read {cache : PersistedCache} (read : from_str text = some cache)
    (version : cache.version = FORMAT_VERSION) :
    load_from_disk from_str (some text) = cache.inner := by
  rw [load_from_disk, Option.bind_some, read]
  exact if_neg (not_not.mpr version)

/-- The entries of a snapshot are those of the store. -/
theorem keyed.get_snapshot (keyed : store.keyed) (key : String × String) :
    store.snapshot.inner.get key = store.inner.get key := by
  have filed := fun entry => HashMap.get_foldl_insert keyed.nodup .empty key entry
  ext entry
  apply (filed entry).trans
  rw [keyed.mem_list, HashMap.get_empty]
  constructor
  · intro here
    rcases here with ⟨found, rfl⟩ | ⟨-, absurd⟩
    · exact found
    · cases absurd
  · intro found
    have own := keyed key entry found
    subst own
    exact .inl ⟨found, rfl⟩

/-- A store that was written is read back as it was. -/
theorem keyed.load_snapshot (keyed : store.keyed) (read : from_str text = some store.snapshot)
    (key : String × String) :
    (load_from_disk from_str (some text)).get key = store.inner.get key := by
  rw [load_of_read read rfl, keyed.get_snapshot]

end File

end ToolsCacheStore

end SessionManager
