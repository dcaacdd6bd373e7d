import SessionManager.ToolsCache.Operations

/-!
# What the file of the tools cache keeps

A store is durable when a manager that starts from its file gets the entries the store has.
Calls keep this, except for an `upsert` that merely refreshes an entry: it moves `last_seen_at`
in memory and does not write the file (`CacheWorld.durable_iff_unrefreshed`).
-/

namespace SessionManager

open Effect

variable {rfc3339 : Nat → String} {from_str : String → Option PersistedCache}

/-- A restart brings back what the store has. -/
def CacheWorld.Durable (from_str : String → Option PersistedCache) (w : CacheWorld) : Prop :=
  ∀ key, (load_from_disk from_str w.file).get key = w.store.inner.get key

/-- An `upsert` that evicts nothing and finds its tools under its key, seen at another instant. -/
def StoreCall.refreshes (w : CacheWorld) : StoreCall → Prop
  | .upsert kind config_id tools => w.store.fresh (w.clock w.reads) ∧
      ∃ entry, w.store.inner.get (kind, config_id) = some entry ∧ entry.tools = tools ∧
        entry.last_seen_at ≠ w.clock (w.reads + 1)
  | _ => False

/-- The file reads back as the store that was written to it. -/
def CacheWorld.ReadsBack (rfc3339 : Nat → String) (from_str : String → Option PersistedCache)
    (w : CacheWorld) : Prop :=
  from_str (w.store.snapshot.text rfc3339) = some w.store.snapshot

section Step

variable {w : CacheWorld}

/-- What was written is durable. -/
theorem CacheWorld.durable_of_written (keyed : w.store.keyed)
    (reads_back : w.ReadsBack rfc3339 from_str)
    (written : w.file = some (w.store.snapshot.text rfc3339)) : w.Durable from_str := by
  intro key
  rw [written]
  exact keyed.load_snapshot reads_back key

/-- A call that refreshes does not write, and changes an entry. -/
theorem StoreCall.refreshes.apart {c : StoreCall} (refreshes : c.refreshes w) :
    c.persists w.clock w.reads w.store = false ∧
      ∃ key, (c.stored w.clock w.reads w.store).inner.get key ≠ w.store.inner.get key := by
  cases c with
  | upsert kind config_id tools =>
    obtain ⟨fresh, entry, found, same, moved⟩ := refreshes
    have unevicted : (w.store.evict_expired (w.clock w.reads)).1 = false := by
      rw [Bool.eq_false_iff, ne_eq, ToolsCacheStore.evicted_iff, not_not]
      exact fresh
    have unchanged : (w.store.put kind config_id tools (w.clock (w.reads + 1))).1 = false := by
      rw [Bool.eq_false_iff, ne_eq, ToolsCacheStore.put_changed_iff, not_not, found, ← same]
      rfl
    rw [StoreCall.persists, StoreCall.stored, ToolsCacheStore.evict_expired_of_fresh fresh]
    refine ⟨by rw [unchanged, unevicted, Bool.or_false], (kind, config_id), ?_⟩
    rw [ToolsCacheStore.get_put, if_pos rfl, found]
    intro stays
    cases stays
    exact moved rfl
  | list_all | reset_all | reset_by_config_id => exact refreshes.elim

/-- A call that neither writes nor refreshes keeps every entry. -/
theorem StoreCall.get_stored_of_unpersisted (keyed : w.store.keyed) {c : StoreCall}
    (unwritten : c.persists w.clock w.reads w.store = false) (unrefreshed : ¬ c.refreshes w)
    (key : String × String) :
    (c.stored w.clock w.reads w.store).inner.get key = w.store.inner.get key := by
  cases c with
  | upsert kind config_id tools =>
    obtain ⟨unchanged, unevicted⟩ := Bool.or_eq_false_iff.mp unwritten
    have fresh : w.store.fresh (w.clock w.reads) := by
      by_contra stale
      rw [ToolsCacheStore.evicted_iff.mpr stale] at unevicted
      cases unevicted
    rw [StoreCall.stored, ToolsCacheStore.evict_expired_of_fresh fresh] at *
    rw [Bool.eq_false_iff, ne_eq, ToolsCacheStore.put_changed_iff, not_not,
      Option.map_eq_some_iff] at unchanged
    obtain ⟨entry, found, same⟩ := unchanged
    rw [ToolsCacheStore.get_put]
    split
    · rename_i here
      have own := keyed _ _ found
      have stays : entry.last_seen_at = w.clock (w.reads + 1) := by
        by_contra moved
        exact unrefreshed ⟨fresh, entry, found, same, moved⟩
      cases entry
      cases own
      rw [here, found, ← same, ← stays]
    · rfl
  | list_all => rw [StoreCall.stored, ToolsCacheStore.evict_expired_unevicted unwritten]
  | reset_all =>
    rw [StoreCall.persists, decide_eq_false_iff_not, Nat.not_lt, Nat.le_zero] at unwritten
    rw [StoreCall.stored, ToolsCacheStore.clear_unremoved unwritten]
  | reset_by_config_id config_id =>
    rw [StoreCall.persists, decide_eq_false_iff_not, Nat.not_lt, Nat.le_zero] at unwritten
    rw [StoreCall.stored, ToolsCacheStore.clear_config_unremoved unwritten]

/-- **One call** of a durable store keeps it durable exactly if it does not merely refresh. -/
theorem CacheWorld.durable_call_iff (enabled : w.store.enabled = true) (keyed : w.store.keyed)
    (durable : w.Durable from_str) {c : StoreCall}
    (reads_back : (w.call rfc3339 c).2.ReadsBack rfc3339 from_str) :
    (w.call rfc3339 c).2.Durable from_str ↔ ¬ c.refreshes w := by
  rw [CacheWorld.call_eq enabled] at reads_back ⊢
  constructor
  · intro durable' refreshes
    obtain ⟨unwritten, key, moved⟩ := refreshes.apart
    have kept := durable' key
    rw [if_neg (by rw [unwritten]; exact Bool.false_ne_true), durable key] at kept
    exact moved kept.symm
  · intro unrefreshed
    cases written : c.persists w.clock w.reads w.store with
    | true => exact durable_of_written (keyed.stored c) reads_back rfl
    | false =>
      intro key
      rw [if_neg Bool.false_ne_true, durable key]
      exact (StoreCall.get_stored_of_unpersisted keyed written unrefreshed key).symm

end Step

/-! ## Sequences of calls -/

section Calls

variable {cfg : ToolsCacheConfig} {file : Option String} {clock : Nat → Nat}

/-- A store that was just opened has what its file has. -/
theorem CacheWorld.durable_open (enabled : cfg.enabled = true) :
    (CacheWorld.open cfg from_str file clock).Durable from_str := by
  intro key
  rw [CacheWorld.open, ToolsCacheStore.load_or_empty, if_pos enabled]

/-- One call more. -/
theorem CacheWorld.durable_snoc_iff (enabled : cfg.enabled = true) {past : List StoreCall}
    (durable : ((CacheWorld.open cfg from_str file clock).after rfc3339 past).Durable from_str)
    {c : StoreCall} (reads_back : ((CacheWorld.open cfg from_str file clock).after rfc3339
      (past ++ [c])).ReadsBack rfc3339 from_str) :
    ((CacheWorld.open cfg from_str file clock).after rfc3339 (past ++ [c])).Durable from_str ↔
      ¬ c.refreshes ((CacheWorld.open cfg from_str file clock).after rfc3339 past) := by
  obtain ⟨on, keyed⟩ : ((CacheWorld.open cfg from_str file clock).after rfc3339
      past).store.enabled = true ∧
      ((CacheWorld.open cfg from_str file clock).after rfc3339 past).store.keyed :=
    after_keeps rfc3339 enabled (ToolsCacheStore.keyed_load_or_empty file)
      (fun _ _ _ c keyed => keyed.stored c) past
  rw [after_snoc] at reads_back ⊢
  exact durable_call_iff on keyed durable reads_back

end Calls

/-! ## A refresh that is lost -/

/-- The same tools, noted at the start and a second later. -/
def same_tools : StoreCall := .upsert "client" "client" []

def second_apart (reading : Nat) : Nat := if reading < 2 then 0 else 10 ^ 9

def same_tools_file (instants : List Nat) : PersistedCache where
  version := FORMAT_VERSION
  entries := instants.map fun instant =>
    { kind := "client", config_id := "client", tools := [], last_seen_at := instant }

def read_same_tools (text : String) : Option PersistedCache :=
  [same_tools_file [], same_tools_file [0], same_tools_file [10 ^ 9]].find? fun snap =>
    snap.text print_second == text

/-- The store after each of the calls, as it is written. -/
theorem same_tools_snapshots {past : List StoreCall} (within : past <+: [same_tools, same_tools]) :
    ∃ instants ∈ [[], [0], [10 ^ 9]],
      ((CacheWorld.open five_days read_same_tools none second_apart).after print_second
        past).store.snapshot = same_tools_file instants := by
  have prefixes : past = [] ∨ ∃ rest, past = same_tools :: rest ∧ (rest = [] ∨ rest = [same_tools]) := by
    simpa [List.prefix_cons_iff] using within
  rcases prefixes with rfl | ⟨_, rfl, rfl | rfl⟩
  · exact ⟨[], by decide, congrArg (PersistedCache.mk FORMAT_VERSION) List.mergeSort_nil⟩
  · exact ⟨[0], by decide, congrArg (PersistedCache.mk FORMAT_VERSION) (List.mergeSort_singleton _)⟩
  · exact ⟨[10 ^ 9], by decide,
      congrArg (PersistedCache.mk FORMAT_VERSION) (List.mergeSort_singleton _)⟩

theorem same_tools_reads_back {past : List StoreCall}
    (within : past <+: [same_tools, same_tools]) :
    ((CacheWorld.open five_days read_same_tools none second_apart).after print_second
      past).ReadsBack print_second read_same_tools := by
  obtain ⟨instants, among, written⟩ := same_tools_snapshots within
  have read : ∀ instants ∈ [[], [0], [10 ^ 9]],
      read_same_tools ((same_tools_file instants).text print_second) =
        some (same_tools_file instants) := by
    decide
  rw [CacheWorld.ReadsBack, written]
  exact read instants among

theorem same_tools_refreshes : same_tools.refreshes
    ((CacheWorld.open five_days read_same_tools none second_apart).after print_second
      [same_tools]) := by
  refine ⟨?_, _, rfl, rfl, by decide⟩
  apply of_not_not
  rw [← ToolsCacheStore.evicted_iff]
  decide

end SessionManager
