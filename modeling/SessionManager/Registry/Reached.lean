import SessionManager.Registry.Sections
import SessionManager.ToolsCache.Sections

/-!
# Registries that sections lead to

`Reached` are the registries that some sequence of critical sections, of whatever methods and
in whatever interleaving, makes of a new one.  In all of them a record is filed under its own
session id (`Reached.keyed`), so that an enumeration lists every session once.
-/

namespace SessionManager

open Effect

/-- The registries that critical sections make of a new one. -/
inductive Reached (tools_cache : Option ToolsCacheStore) : SessionRegistry → Prop
  | new : Reached tools_cache (.new tools_cache)
  | step {reg reg' : SessionRegistry} {β : Type} {op : RegOp β} {answer : β} {now : Nat} :
    Reached tools_cache reg → op.apply now reg = some (answer, reg') → Reached tools_cache reg'

namespace SessionRegistry

variable {reg reg' : SessionRegistry}

/-- Every record is filed under its session id. -/
def keyed (reg : SessionRegistry) : Prop :=
  ∀ uid record, reg.inner.get uid = some record → record.session_id = uid

/-- An enumeration of the records. -/
def enumerates (reg : SessionRegistry) (snapshot : List SessionRecord) : Prop :=
  snapshot.Perm reg.inner.values

theorem keyed_run {β : Type} {op : RegOp β} {answer : β} {now : Nat} (keyed : reg.keyed)
    (ran : op.run now reg = (answer, reg')) : reg'.keyed := by
  intro uid record found
  have changed := op.changed ran uid
  rw [found] at changed
  generalize before : reg.inner.get uid = old at changed
  cases changed with
  | kept => exact keyed uid record before
  | created own => exact own
  | reconnected | disconnected | disconnected_if | touched | retooled =>
    have here := keyed uid _ before
    exact here

end SessionRegistry

variable {tools_cache : Option ToolsCacheStore} {reg : SessionRegistry}

theorem Reached.keyed (reached : Reached tools_cache reg) : reg.keyed := by
  induction reached with
  | new => exact fun uid record found => by cases found
  | step _ answered keyed =>
    exact SessionRegistry.keyed_run keyed (RegOp.run_of_apply answered)

/-! ## The attached cache -/

namespace SessionRegistry

/-- The entries of the attached cache are filed under their own keys. -/
def keyed_cache (reg : SessionRegistry) : Prop :=
  ∀ store, reg.tools_cache = some store → store.keyed

theorem keyed_cache_run {β : Type} (op : RegOp β) (now : Nat) (keyed : reg.keyed_cache) :
    (op.run now reg).2.keyed_cache := by
  by_cases caches : op.caches
  · have kept {f : ToolsCacheStore → ToolsCacheStore} {reg' : SessionRegistry}
        (keeps : ∀ store : ToolsCacheStore, store.keyed → (f store).keyed)
        (left : ∀ store, reg.live_cache = some store → reg' = reg.store_cache (f store))
        (off : reg.live_cache = none → reg' = reg) : reg'.keyed_cache := by
      cases live : reg.live_cache with
      | none =>
        rw [off live]
        exact keyed
      | some store =>
        rw [left store live]
        intro store' here
        cases here
        exact keeps store (keyed store (Option.filter_eq_some_iff.mp live).1)
    cases op with
    | evict_expired =>
      apply kept (f := fun store => (store.evict_expired now).2) fun _ keyed => keyed.evict_expired
      · intro store live
        simp only [RegOp.run, live]
      · intro off
        simp only [RegOp.run, off]
    | put_cache kind config_id tools =>
      apply kept (f := fun store => (store.put kind config_id tools now).2) fun _ keyed => keyed.put
      · intro store live
        simp only [RegOp.run, live]
      · intro off
        simp only [RegOp.run, off]
    | clear_cache =>
      apply kept (f := fun store => store.clear.2) fun _ _ => ToolsCacheStore.keyed_clear
      · intro store live
        simp only [RegOp.run, live]
      · intro off
        simp only [RegOp.run, off]
    | clear_config config_id =>
      apply kept (f := fun store => (store.clear_config config_id).2) fun _ keyed =>
        keyed.clear_config
      · intro store live
        simp only [RegOp.run, live]
      · intro off
        simp only [RegOp.run, off]
    | _ => exact caches.elim
  · intro store here
    rw [op.tools_cache_run now reg caches] at here
    exact keyed store here

end SessionRegistry

theorem Reached.keyed_cache {cfg : ToolsCacheConfig} {from_str : String → Option PersistedCache}
    {text : Option String} (reached : Reached (some (.load_or_empty cfg from_str text)) reg) :
    reg.keyed_cache := by
  induction reached with
  | new =>
    intro store here
    cases here
    exact ToolsCacheStore.keyed_load_or_empty text
  | @step reg reg' β op answer now _ answered keyed =>
    have kept := SessionRegistry.keyed_cache_run op now keyed
    rwa [RegOp.run_of_apply answered] at kept

/-! ## Enumerations -/

namespace SessionRegistry

variable {snapshot : List SessionRecord}

theorem enumerates.mem (enumerated : reg.enumerates snapshot) (keyed : reg.keyed)
    {record : SessionRecord} :
    record ∈ snapshot ↔ reg.inner.get record.session_id = some record := by
  rw [enumerated.mem_iff, HashMap.mem_values]
  constructor
  · rintro ⟨uid, found⟩
    rwa [keyed uid record found]
  · exact fun found => ⟨_, found⟩

/-- An enumeration lists every session once. -/
theorem enumerates.nodup (enumerated : reg.enumerates snapshot) (keyed : reg.keyed) :
    (snapshot.map SessionRecord.session_id).Nodup := by
  have keys : reg.inner.values.map SessionRecord.session_id = reg.inner.keys := by
    rw [HashMap.values, List.map_map]
    exact List.map_congr_left fun entry member => keyed _ _ (HashMap.mem_entries.mp member)
  rw [(enumerated.map SessionRecord.session_id).nodup_iff, keys]
  exact reg.inner.nodupKeys

end SessionRegistry

end SessionManager
