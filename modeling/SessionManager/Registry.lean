import SessionManager.Effect.Prog
import SessionManager.ToolsCache
import Mathlib.Algebra.Group.Nat.Defs

/-!
# `SessionRegistry`: the sessions of the manager

The registry (`session_manager/registry.rs`) maps a client's uid to its record.  Every
method takes the registry's lock once; that critical section is one request of `RegOp`, and
`RegOp.apply` says what it does.  Handles to connections and dispatchers are addresses.

`mark_disconnected_if_generation` drains a connection and a dispatcher before it releases
the lock.  Its section takes the lock and leaves it taken; no other section is answered
until `unlock`.
-/

namespace SessionManager

open Effect

inductive SessionState
  | Active
  | Disconnected
  deriving DecidableEq

structure SessionRecord where
  session_id : String
  kind : String
  config_id : String
  version : String
  infobase_name : String
  ib_session_number : Nat
  cluster_server : Option String
  database_key : Option String
  tools : List ToolDescriptor
  state : SessionState
  host_id : String
  pid : Option Nat
  registered_at : Nat
  last_call_at : Nat
  disconnected_at : Option Nat
  connection_generation : Nat
  connection : Option Nat
  dispatcher : Nat
  deriving DecidableEq

inductive RegisterOutcome
  | Created
  | Reconnected
  deriving DecidableEq

inductive RegisterError
  | UidCollision (uid : String)
  deriving DecidableEq

/-- A disconnected record has no connection any more. -/
def SessionRecord.disconnected (record : SessionRecord) (now : Nat) : SessionRecord :=
  { record with state := .Disconnected, disconnected_at := some now, connection := none }

/-- The registry, the address its next dispatcher gets, and the tools cache attached to it.
`session_changed` counts how often the signal of that name was raised. -/
structure SessionRegistry where
  inner : HashMap String SessionRecord
  locked : Bool
  tools_epoch : Nat
  session_changed : Nat
  generations : Nat
  next_dispatcher : Nat
  tools_cache : Option ToolsCacheStore

namespace SessionRegistry

def new (tools_cache : Option ToolsCacheStore) : SessionRegistry where
  inner := .empty
  locked := false
  tools_epoch := 0
  session_changed := 0
  generations := 0
  next_dispatcher := 0
  tools_cache := tools_cache

/-- `AtomicU64::fetch_add` wraps around. -/
def next_generation (reg : SessionRegistry) : Nat := (reg.generations + 1) % 2 ^ 64

/-- The configuration of a client that names none is its kind. -/
def resolved_config_id (params : SessionRegisterParams) : String :=
  params.config_id.getD params.kind

/-- The record of a client that was not known. -/
def new_record (reg : SessionRegistry) (params : SessionRegisterParams) (now : Nat)
    (connection : Option Nat) : SessionRecord where
  session_id := params.client_uid
  kind := params.kind
  config_id := resolved_config_id params
  version := params.version
  infobase_name := params.infobase_name
  ib_session_number := params.ib_session_number
  cluster_server := params.cluster_server
  database_key := params.database_key
  tools := params.tools
  state := .Active
  host_id := params.host_id.getD "unknown"
  pid := params.pid
  registered_at := now
  last_call_at := now
  disconnected_at := none
  connection_generation := reg.next_generation
  connection := connection
  dispatcher := reg.next_dispatcher

/-- The record of a client that comes back; its dispatcher was drained and is replaced. -/
def reconnected (reg : SessionRegistry) (existing : SessionRecord) (params : SessionRegisterParams)
    (connection : Option Nat) : SessionRecord :=
  { existing with
    state := .Active
    disconnected_at := none
    tools := params.tools
    version := params.version
    kind := params.kind
    config_id := resolved_config_id params
    infobase_name := params.infobase_name
    ib_session_number := params.ib_session_number
    cluster_server := params.cluster_server
    database_key := params.database_key
    connection := connection
    connection_generation := reg.next_generation
    host_id := params.host_id.getD existing.host_id
    pid := params.pid.or existing.pid
    dispatcher := reg.next_dispatcher }

/-- File a record under a uid, using up a generation and a dispatcher. -/
def file (reg : SessionRegistry) (uid : String) (record : SessionRecord) : SessionRegistry :=
  { reg with
    inner := reg.inner.insert uid record
    generations := reg.next_generation
    next_dispatcher := reg.next_dispatcher + 1 }

/-- The critical section of `register_with_generation`. -/
def register (reg : SessionRegistry) (params : SessionRegisterParams) (now : Nat)
    (connection : Option Nat) : Except RegisterError (RegisterOutcome × Nat) × SessionRegistry :=
  match reg.inner.get params.client_uid with
  | some existing =>
    match existing.state with
    | .Active => (.error (.UidCollision params.client_uid), reg)
    | .Disconnected =>
      (.ok (.Reconnected, reg.next_generation),
        reg.file params.client_uid (reg.reconnected existing params connection))
  | none =>
    (.ok (.Created, reg.next_generation),
      reg.file params.client_uid (reg.new_record params now connection))

def set_record (reg : SessionRegistry) (uid : String) (record : SessionRecord) : SessionRegistry :=
  { reg with inner := reg.inner.insert uid record }

end SessionRegistry

/-- The critical sections of the registry and of its tools cache. -/
inductive RegOp : Type → Type
  | register (params : SessionRegisterParams) (now : Nat) (connection : Option Nat) :
    RegOp (Except RegisterError (RegisterOutcome × Nat))
  | mark_disconnected (session_id : String) (now : Nat) : RegOp (Option (Option Nat × Nat))
  | mark_disconnected_if_generation (session_id : String) (expected_generation now : Nat) :
    RegOp (Option (Option Nat × Nat))
  | unlock : RegOp Unit
  | bump_last_call (session_id : String) (now : Nat) : RegOp Bool
  | remove (session_id : String) : RegOp (Option SessionRecord)
  | remove_if_generation (session_id : String) (expected_generation : Nat) :
    RegOp (Option SessionRecord)
  | update_tools (session_id : String) (tools : List ToolDescriptor) :
    RegOp (Option (Bool × String × String))
  | sweep_expired_disconnects (now grace : Nat) : RegOp (List String)
  | snapshot : RegOp (List SessionRecord)
  | get (session_id : String) : RegOp (Option SessionRecord)
  | mark_tools_changed : RegOp Unit
  | mark_session_changed : RegOp Unit
  | evict_expired : RegOp (Option Bool)
  | put_cache (kind config_id : String) (tools : List ToolDescriptor) : RegOp Bool
  | list_cache : RegOp (Option (List ToolsCacheEntry))
  | clear_cache : RegOp Nat
  | clear_config (config_id : String) : RegOp Nat

namespace SessionRegistry

def store_cache (reg : SessionRegistry) (store : ToolsCacheStore) : SessionRegistry :=
  { reg with tools_cache := some store }

/-- The attached cache, unless it is switched off. -/
def live_cache (reg : SessionRegistry) : Option ToolsCacheStore :=
  reg.tools_cache.filter ToolsCacheStore.enabled

/-- The section of `mark_disconnected_if_generation`: a record it changed keeps the lock taken,
and its connection and dispatcher are handed out to be drained. -/
def disconnect (reg : SessionRegistry) (session_id : String) (expected_generation now : Nat) :
    Option (Option Nat × Nat) × SessionRegistry :=
  match reg.inner.get session_id with
  | some record =>
    if record.state = .Active ∧ record.connection_generation = expected_generation then
      (some (record.connection, record.dispatcher),
        { reg.set_record session_id (record.disconnected now) with locked := true })
    else (none, reg)
  | none => (none, reg)

/-- The section of `mark_disconnected`, which expects whatever generation is there. -/
def disconnect_any (reg : SessionRegistry) (session_id : String) (now : Nat) :
    Option (Option Nat × Nat) × SessionRegistry :=
  match reg.inner.get session_id with
  | some record => reg.disconnect session_id record.connection_generation now
  | none => (none, reg)

def remove (reg : SessionRegistry) (session_id : String) : SessionRegistry :=
  { reg with inner := reg.inner.remove session_id }

def take (reg : SessionRegistry) (session_id : String) (expected_generation : Nat) :
    Option SessionRecord × SessionRegistry :=
  match reg.inner.get session_id with
  | some record =>
    if record.connection_generation = expected_generation then (some record, reg.remove session_id)
    else (none, reg)
  | none => (none, reg)

/-- The section of `update_tools`: whether the tools are the same, and the key of the cache. -/
def replace_tools (reg : SessionRegistry) (session_id : String) (tools : List ToolDescriptor) :
    Option (Bool × String × String) × SessionRegistry :=
  match reg.inner.get session_id with
  | some record =>
    let same := record.tools == tools
    (some (same, record.kind, record.config_id),
      if same then reg else reg.set_record session_id { record with tools })
  | none => (none, reg)

def expired (record : SessionRecord) (now grace : Nat) : Bool :=
  match record.state, record.disconnected_at with
  | .Disconnected, some t => grace ≤ now - t
  | _, _ => false

def sweep (reg : SessionRegistry) (now grace : Nat) : List String × SessionRegistry :=
  (reg.inner.keys.filter fun uid => (reg.inner.get uid).any fun record => expired record now grace,
    { reg with inner := reg.inner.retain fun _ record => !expired record now grace })

def touch (reg : SessionRegistry) (session_id : String) (now : Nat) : Bool × SessionRegistry :=
  match reg.inner.get session_id with
  | some record => (true, reg.set_record session_id { record with last_call_at := now })
  | none => (false, reg)

end SessionRegistry

/-- One critical section at time `now`; `none` while another section holds the lock. -/
def RegOp.apply (now : Nat) (reg : SessionRegistry) :
    ∀ {β : Type}, RegOp β → Option (β × SessionRegistry)
  | _, .register params instant connection =>
      if reg.locked then none else some (reg.register params instant connection)
  | _, .mark_disconnected session_id instant =>
      if reg.locked then none else some (reg.disconnect_any session_id instant)
  | _, .mark_disconnected_if_generation session_id expected_generation instant =>
      if reg.locked then none else some (reg.disconnect session_id expected_generation instant)
  | _, .unlock => some ((), { reg with locked := false })
  | _, .bump_last_call session_id instant => if reg.locked then none else some (reg.touch session_id instant)
  | _, .remove session_id =>
      if reg.locked then none else some (reg.inner.get session_id, reg.remove session_id)
  | _, .remove_if_generation session_id expected_generation =>
      if reg.locked then none else some (reg.take session_id expected_generation)
  | _, .update_tools session_id tools =>
      if reg.locked then none else some (reg.replace_tools session_id tools)
  | _, .sweep_expired_disconnects instant grace => if reg.locked then none else some (reg.sweep instant grace)
  | _, .snapshot => if reg.locked then none else some (reg.inner.values, reg)
  | _, .get session_id => if reg.locked then none else some (reg.inner.get session_id, reg)
  | _, .mark_tools_changed => some ((), { reg with tools_epoch := (reg.tools_epoch + 1) % 2 ^ 64 })
  | _, .mark_session_changed => some ((), { reg with session_changed := reg.session_changed + 1 })
  | _, .evict_expired =>
      match reg.live_cache with
      | some store =>
        let (evicted, store) := store.evict_expired now
        some (some evicted, reg.store_cache store)
      | none => some (none, reg)
  | _, .put_cache kind config_id tools =>
      match reg.live_cache with
      | some store =>
        let (changed, store) := store.put kind config_id tools now
        some (changed, reg.store_cache store)
      | none => some (false, reg)
  | _, .list_cache => some (reg.live_cache.map ToolsCacheStore.list, reg)
  | _, .clear_cache =>
      match reg.live_cache with
      | some store =>
        let (removed, store) := store.clear
        some (removed, reg.store_cache store)
      | none => some (0, reg)
  | _, .clear_config config_id =>
      match reg.live_cache with
      | some store =>
        let (removed, store) := store.clear_config config_id
        some (removed, reg.store_cache store)
      | none => some (0, reg)

/-! ## The methods -/

namespace SessionRegistry

open Prog (perform)

/-- `upsert_tools_cache`: agents may see the public tools only, so only these are cached. -/
def upsert_tools_cache (kind config_id : String) (tools : List ToolDescriptor) : Prog RegOp Unit := do
  match ← perform .evict_expired with
  | none => return ()
  | some evicted =>
    if evicted then perform .mark_tools_changed
    let changed ← perform
      (.put_cache kind config_id (tools.filter fun tool => tool.visibility.is_public))
    if changed then perform .mark_tools_changed

def register_with_generation (params : SessionRegisterParams) (now : Nat)
    (connection : Option Nat) : Prog RegOp (Except RegisterError (RegisterOutcome × Nat)) := do
  match ← perform (.register params now connection) with
  | .error error => return .error error
  | .ok result =>
    perform .mark_tools_changed
    perform .mark_session_changed
    upsert_tools_cache params.kind (resolved_config_id params) params.tools
    return .ok result

/-- Announce that a record has come or gone, or has another state. -/
def announce (changed : Bool) : Prog RegOp Unit := do
  if changed then
    perform .mark_tools_changed
    perform .mark_session_changed

def remove_session (session_id : String) : Prog RegOp (Option SessionRecord) := do
  let removed ← perform (.remove session_id)
  announce removed.isSome
  return removed

def remove_if_generation (session_id : String) (expected_generation : Nat) :
    Prog RegOp (Option SessionRecord) := do
  let removed ← perform (.remove_if_generation session_id expected_generation)
  announce removed.isSome
  return removed

def update_tools (session_id : String) (tools : List ToolDescriptor) : Prog RegOp Bool := do
  match ← perform (.update_tools session_id tools) with
  | some (false, kind, config_id) =>
    perform .mark_tools_changed
    upsert_tools_cache kind config_id tools
    return true
  | some (true, _, _) => return true
  | none => return false

def sweep_expired_disconnects (now grace : Nat) : Prog RegOp (List String) := do
  let expired ← perform (.sweep_expired_disconnects now grace)
  if !expired.isEmpty then perform .mark_tools_changed
  return expired

/-- `ToolsCacheStore::reset_all` of the attached cache. -/
def reset_all : Prog RegOp Nat := do
  let removed ← perform .clear_cache
  if removed > 0 then perform .mark_tools_changed
  return removed

/-- `ToolsCacheStore::reset_by_config_id` of the attached cache. -/
def reset_by_config_id (config_id : String) : Prog RegOp Nat := do
  let removed ← perform (.clear_config config_id)
  if removed > 0 then perform .mark_tools_changed
  return removed

end SessionRegistry

end SessionManager
