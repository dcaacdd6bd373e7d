import SessionManager.Effect.Sync
import SessionManager.Protocol.Params

/-!
# `ToolsCacheStore`: the tool sets seen last

The cache of the tools that sessions of a kind and configuration publish
(`session_manager/tools_cache.rs`).  Agents see a cached tool when no live session
publishes it.  Each critical section of the store is one definition here.

The cache outlives the manager in a file; a manager that starts takes over what the file has.
-/

namespace SessionManager

open Json Effect

structure ToolsCacheEntry where
  kind : String
  config_id : String
  tools : List ToolDescriptor
  last_seen_at : Nat
  deriving DecidableEq

/-- Instants and durations are in nanoseconds; a `chrono::Duration` has at most `i64::MAX`
milliseconds. -/
def chrono_max : Nat := (2 ^ 63 - 1) * 10 ^ 6

def chrono_days (days : Nat) : Nat := days * (24 * 60 * 60 * 10 ^ 9)

structure ToolsCacheStore where
  inner : HashMap (String × String) ToolsCacheEntry
  cache_life : Nat
  enabled : Bool

namespace ToolsCacheStore

/-- The life of an entry as `chrono` has it: `Duration::from_std(..).unwrap_or_else(..)`. -/
def life (store : ToolsCacheStore) : Nat :=
  if store.cache_life ≤ chrono_max then store.cache_life else chrono_days (365 * 100)

/-- Drop the entries that were not seen for longer than their life; tell whether there was
one. -/
def evict_expired (store : ToolsCacheStore) (now : Nat) : Bool × ToolsCacheStore :=
  let inner := store.inner.retain fun _ entry => now - entry.last_seen_at ≤ store.life
  (inner.keys.length != store.inner.keys.length, { store with inner })

/-- Note that the tools were seen; tell whether the cache had other tools. -/
def put (store : ToolsCacheStore) (kind config_id : String) (tools : List ToolDescriptor)
    (now : Nat) : Bool × ToolsCacheStore :=
  let entry : ToolsCacheEntry := { kind, config_id, tools, last_seen_at := now }
  let changed :=
    match store.inner.get (kind, config_id) with
    | some existing => existing.tools != tools
    | none => true
  (changed, { store with inner := store.inner.insert (kind, config_id) entry })

/-- The section of `reset_all`; tell how many entries there were. -/
def clear (store : ToolsCacheStore) : Nat × ToolsCacheStore :=
  (store.inner.keys.length, { store with inner := .empty })

/-- The section of `reset_by_config_id`; tell how many entries are gone. -/
def clear_config (store : ToolsCacheStore) (config_id : String) : Nat × ToolsCacheStore :=
  let inner := store.inner.retain fun key _ => key.2 != config_id
  (store.inner.keys.length - inner.keys.length, { store with inner })

/-- The entries, sorted by kind and configuration. -/
def list (store : ToolsCacheStore) : List ToolsCacheEntry :=
  store.inner.values.mergeSort fun a b =>
    a.kind < b.kind || (a.kind == b.kind && a.config_id ≤ b.config_id)

end ToolsCacheStore

/-! ## The file -/

def FORMAT_VERSION : Nat := 1

structure PersistedCache where
  version : Nat
  entries : List ToolsCacheEntry
  deriving DecidableEq

section Encoding

variable (rfc3339 : Nat → String)

def ToolsCacheEntry.to_value (entry : ToolsCacheEntry) : Value :=
  .object [("kind", .string entry.kind), ("config_id", .string entry.config_id),
    ("tools", .array (entry.tools.map ToolDescriptor.to_value)),
    ("last_seen_at", .string (rfc3339 entry.last_seen_at))]

def PersistedCache.to_value (cache : PersistedCache) : Value :=
  .object [("version", .number (.int cache.version)),
    ("entries", .array (cache.entries.map (ToolsCacheEntry.to_value rfc3339)))]

/-- What `serde_json::to_writer` writes; `rfc3339` prints an instant. -/
def PersistedCache.text (cache : PersistedCache) : String := (cache.to_value rfc3339).text

end Encoding

structure ToolsCacheConfig where
  enabled : Bool
  cache_life : Nat

/-- The entries of a file; `text` is absent when there is no file or it could not be read, and
`from_str` is `serde_json::from_str`. -/
def load_from_disk (from_str : String → Option PersistedCache) (text : Option String) :
    HashMap (String × String) ToolsCacheEntry :=
  match text.bind from_str with
  | none => .empty
  | some parsed =>
    if parsed.version ≠ FORMAT_VERSION then .empty
    else parsed.entries.foldl (fun inner entry => inner.insert (entry.kind, entry.config_id) entry)
      .empty

namespace ToolsCacheStore

def load_or_empty (cfg : ToolsCacheConfig) (from_str : String → Option PersistedCache)
    (text : Option String) : ToolsCacheStore where
  inner := if cfg.enabled then load_from_disk from_str text else .empty
  cache_life := cfg.cache_life
  enabled := cfg.enabled

/-- What `persist` writes to the file. -/
def snapshot (store : ToolsCacheStore) : PersistedCache where
  version := FORMAT_VERSION
  entries := store.list

theorem mem_list {store : ToolsCacheStore} {entry : ToolsCacheEntry} :
    entry ∈ store.list ↔ ∃ key, store.inner.get key = some entry := by
  rw [list, List.mem_mergeSort, HashMap.mem_values]

end ToolsCacheStore

end SessionManager
