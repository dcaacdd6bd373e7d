import SessionManager.Effect.Pool
import SessionManager.ToolsCache.Sections
import Mathlib.Data.List.Induction

/-!
# The methods of the tools cache

`upsert`, `list_all`, `reset_all` and `reset_by_config_id` of `ToolsCacheStore`, as programs over
the sections of its lock, the clock and the file.  `CacheOp.apply` answers them from a
`CacheWorld`, in which writing the file succeeds.
-/

namespace SessionManager

open Effect

/-- The sections of the cache's lock, and what a method asks for outside of it.  `put` reads the
clock inside its section. -/
inductive CacheOp : Type → Type
  | utc_now : CacheOp Nat
  | evict_expired (now : Nat) : CacheOp Bool
  | put (kind config_id : String) (tools : List ToolDescriptor) : CacheOp Bool
  | clear : CacheOp Nat
  | clear_config (config_id : String) : CacheOp Nat
  | list : CacheOp (List ToolsCacheEntry)
  | snapshot : CacheOp PersistedCache
  | write_json_atomic (snap : PersistedCache) : CacheOp Bool
  | notifier_hook : CacheOp Unit

/-- A store, its file, and what the readings of the clock give. -/
structure CacheWorld where
  store : ToolsCacheStore
  file : Option String
  clock : Nat → Nat
  reads : Nat

/-- A store that was opened from its file. -/
def CacheWorld.open (cfg : ToolsCacheConfig) (from_str : String → Option PersistedCache)
    (file : Option String) (clock : Nat → Nat) : CacheWorld where
  store := .load_or_empty cfg from_str file
  file := file
  clock := clock
  reads := 0

/-- The answer to a request, and the world after it; `rfc3339` prints an instant. -/
def CacheOp.apply (rfc3339 : Nat → String) : ∀ {β : Type}, CacheOp β → CacheWorld → β × CacheWorld
  | _, .utc_now, w => (w.clock w.reads, { w with reads := w.reads + 1 })
  | _, .evict_expired now, w =>
      let (removed_any, store) := w.store.evict_expired now
      (removed_any, { w with store })
  | _, .put kind config_id tools, w =>
      let (changed, store) := w.store.put kind config_id tools (w.clock w.reads)
      (changed, { w with store, reads := w.reads + 1 })
  | _, .clear, w =>
      let (removed, store) := w.store.clear
      (removed, { w with store })
  | _, .clear_config config_id, w =>
      let (removed, store) := w.store.clear_config config_id
      (removed, { w with store })
  | _, .list, w => (w.store.list, w)
  | _, .snapshot, w => (w.store.snapshot, w)
  | _, .write_json_atomic snap, w => (true, { w with file := some (snap.text rfc3339) })
  | _, .notifier_hook, w => ((), w)

/-! ## The methods -/

namespace tools_cache

open Prog (perform)

variable (enabled : Bool)

/-- A write that fails is only logged. -/
def persist : Prog CacheOp Unit := do
  if enabled then
    let snap ← perform .snapshot
    let _ ← perform (.write_json_atomic snap)

def evict_expired : Prog CacheOp Bool := do
  let now ← perform .utc_now
  let removed_any ← perform (.evict_expired now)
  if removed_any then
    persist enabled
    perform .notifier_hook
  return removed_any

def upsert (kind config_id : String) (tools : List ToolDescriptor) : Prog CacheOp Bool := do
  if !enabled then return false
  let evicted ← evict_expired enabled
  let changed ← perform (.put kind config_id tools)
  if changed || evicted then persist enabled
  if changed then perform .notifier_hook
  return changed

def list_all : Prog CacheOp (List ToolsCacheEntry) := do
  if !enabled then return []
  let _ ← evict_expired enabled
  perform .list

/-- What both resets do after their section. -/
def announce_removed (removed : Nat) : Prog CacheOp Unit := do
  if removed > 0 then
    persist enabled
    perform .notifier_hook

def reset_all : Prog CacheOp Nat := do
  if !enabled then return 0
  let removed ← perform .clear
  announce_removed enabled removed
  return removed

def reset_by_config_id (config_id : String) : Prog CacheOp Nat := do
  if !enabled then return 0
  let removed ← perform (.clear_config config_id)
  announce_removed enabled removed
  return removed

end tools_cache

/-! ## Calls -/

inductive StoreCall
  | upsert (kind config_id : String) (tools : List ToolDescriptor)
  | list_all
  | reset_all
  | reset_by_config_id (config_id : String)
  deriving DecidableEq

/-- What a call returns. -/
inductive StoreValue
  | changed (changed : Bool)
  | entries (entries : List ToolsCacheEntry)
  | removed (count : Nat)
  deriving DecidableEq

def StoreCall.run (enabled : Bool) : StoreCall → Prog CacheOp StoreValue
  | .upsert kind config_id tools =>
      return .changed (← tools_cache.upsert enabled kind config_id tools)
  | .list_all => return .entries (← tools_cache.list_all enabled)
  | .reset_all => return .removed (← tools_cache.reset_all enabled)
  | .reset_by_config_id config_id =>
      return .removed (← tools_cache.reset_by_config_id enabled config_id)

namespace CacheWorld

variable (rfc3339 : Nat → String)

/-- A call that nothing interleaves with: what it returns, and the world after it. -/
def call (w : CacheWorld) (c : StoreCall) : StoreValue × CacheWorld :=
  (c.run w.store.enabled).eval (CacheOp.apply rfc3339) w

/-- The world after a sequence of calls. -/
def after (w : CacheWorld) (calls : List StoreCall) : CacheWorld :=
  calls.foldl (fun w c => (w.call rfc3339 c).2) w

@[simp] theorem after_nil (w : CacheWorld) : w.after rfc3339 [] = w := rfl

@[simp] theorem after_snoc (w : CacheWorld) (calls : List StoreCall) (c : StoreCall) :
    w.after rfc3339 (calls ++ [c]) = ((w.after rfc3339 calls).call rfc3339 c).2 := by
  rw [after, List.foldl_append]
  rfl

end CacheWorld

/-! ## What a call does -/

/-- The store that a call leaves, which reads the clock from its reading `reads` on. -/
def StoreCall.stored (clock : Nat → Nat) (reads : Nat) (store : ToolsCacheStore) :
    StoreCall → ToolsCacheStore
  | .upsert kind config_id tools =>
      ((store.evict_expired (clock reads)).2.put kind config_id tools (clock (reads + 1))).2
  | .list_all => (store.evict_expired (clock reads)).2
  | .reset_all => store.clear.2
  | .reset_by_config_id config_id => (store.clear_config config_id).2

/-- A call writes the file. -/
def StoreCall.persists (clock : Nat → Nat) (reads : Nat) (store : ToolsCacheStore) :
    StoreCall → Bool
  | .upsert kind config_id tools =>
      ((store.evict_expired (clock reads)).2.put kind config_id tools (clock (reads + 1))).1 ||
        (store.evict_expired (clock reads)).1
  | .list_all => (store.evict_expired (clock reads)).1
  | .reset_all => store.clear.1 > 0
  | .reset_by_config_id config_id => (store.clear_config config_id).1 > 0

/-- What a call returns. -/
def StoreCall.value (clock : Nat → Nat) (reads : Nat) (store : ToolsCacheStore) :
    StoreCall → StoreValue
  | .upsert kind config_id tools => .changed
      ((store.evict_expired (clock reads)).2.put kind config_id tools (clock (reads + 1))).1
  | .list_all => .entries (store.evict_expired (clock reads)).2.list
  | .reset_all => .removed store.clear.1
  | .reset_by_config_id config_id => .removed (store.clear_config config_id).1

/-- The readings of the clock that a call makes. -/
def StoreCall.readings : StoreCall → Nat
  | .upsert .. => 2
  | .list_all => 1
  | .reset_all | .reset_by_config_id _ => 0

section Evaluation

variable {rfc3339 : Nat → String}

/-- Eviction writes the file only if something has expired. -/
theorem tools_cache.eval_evict_expired (w : CacheWorld) :
    (tools_cache.evict_expired true).eval (CacheOp.apply rfc3339) w =
      ((w.store.evict_expired (w.clock w.reads)).1, { w with
        store := (w.store.evict_expired (w.clock w.reads)).2
        file :=
          if (w.store.evict_expired (w.clock w.reads)).1 then
            some ((w.store.evict_expired (w.clock w.reads)).2.snapshot.text rfc3339)
          else w.file
        reads := w.reads + 1 }) := by
  have settled (removed_any : Bool) (w : CacheWorld) :
      Prog.eval (CacheOp.apply rfc3339) (do
        if removed_any then
          tools_cache.persist true
          Prog.perform .notifier_hook
        return removed_any) w = (removed_any, { w with
          file := if removed_any then some (w.store.snapshot.text rfc3339) else w.file }) := by
    cases removed_any <;> rfl
  exact settled ..

theorem tools_cache.eval_upsert (kind config_id : String) (tools : List ToolDescriptor)
    (w : CacheWorld) : (tools_cache.upsert true kind config_id tools).eval (CacheOp.apply rfc3339) w =
      let swept := w.store.evict_expired (w.clock w.reads)
      let noted := swept.2.put kind config_id tools (w.clock (w.reads + 1))
      (noted.1, { w with
        store := noted.2
        file := if noted.1 || swept.1 then some (noted.2.snapshot.text rfc3339) else w.file
        reads := w.reads + 2 }) := by
  have unfolded : tools_cache.upsert true kind config_id tools = do
      let evicted ← tools_cache.evict_expired true
      let changed ← Prog.perform (.put kind config_id tools)
      if changed || evicted then tools_cache.persist true
      if changed then Prog.perform .notifier_hook
      return changed := rfl
  have settled (changed evicted : Bool) (swept : Option String) (w : CacheWorld) :
      Prog.eval (CacheOp.apply rfc3339) (do
        if changed || evicted then tools_cache.persist true
        if changed then Prog.perform .notifier_hook
        return changed) { w with file := if evicted then swept else w.file } = (changed, { w with
          file := if changed || evicted then some (w.store.snapshot.text rfc3339) else w.file }) := by
    cases changed <;> cases evicted <;> rfl
  rw [unfolded, Prog.eval_bind, tools_cache.eval_evict_expired, Prog.eval_perform]
  exact settled _ _ _ { w with
    store := ((w.store.evict_expired (w.clock w.reads)).2.put kind config_id tools
      (w.clock (w.reads + 1))).2
    reads := w.reads + 2 }

theorem tools_cache.eval_announce_removed (removed : Nat) (w : CacheWorld) :
    (tools_cache.announce_removed true removed).eval (CacheOp.apply rfc3339) w =
      ((), { w with
        file := if removed > 0 then some (w.store.snapshot.text rfc3339) else w.file }) := by
  rw [tools_cache.announce_removed]
  split <;> rfl

/-- **A call of an enabled store** evicts, changes the store, and writes the file at the end if it
persists. -/
theorem CacheWorld.call_eq {w : CacheWorld} (enabled : w.store.enabled = true) (c : StoreCall) :
    w.call rfc3339 c = (c.value w.clock w.reads w.store, { w with
      store := c.stored w.clock w.reads w.store
      file :=
        if c.persists w.clock w.reads w.store then
          some ((c.stored w.clock w.reads w.store).snapshot.text rfc3339)
        else w.file
      reads := w.reads + c.readings }) := by
  rw [call, enabled]
  cases c with
  | upsert kind config_id tools =>
    rw [StoreCall.run, Prog.eval_bind, tools_cache.eval_upsert]
    rfl
  | list_all =>
    have unfolded : tools_cache.list_all true =
        (tools_cache.evict_expired true >>= fun _ => Prog.perform .list) := rfl
    rw [StoreCall.run, Prog.eval_bind, unfolded, Prog.eval_bind, tools_cache.eval_evict_expired]
    rfl
  | reset_all =>
    have unfolded : tools_cache.reset_all true = do
        let removed ← Prog.perform .clear
        tools_cache.announce_removed true removed
        return removed := rfl
    rw [StoreCall.run, Prog.eval_bind, unfolded, Prog.eval_perform, Prog.eval_bind,
      tools_cache.eval_announce_removed]
    simp only [StoreCall.persists, decide_eq_true_eq]
    rfl
  | reset_by_config_id config_id =>
    have unfolded : tools_cache.reset_by_config_id true config_id = do
        let removed ← Prog.perform (.clear_config config_id)
        tools_cache.announce_removed true removed
        return removed := rfl
    rw [StoreCall.run, Prog.eval_bind, unfolded, Prog.eval_perform, Prog.eval_bind,
      tools_cache.eval_announce_removed]
    simp only [StoreCall.persists, decide_eq_true_eq]
    rfl

end Evaluation

/-! ## What calls keep -/

section Keeps

variable {clock : Nat → Nat} {reads : Nat} {store : ToolsCacheStore}

@[simp] theorem StoreCall.enabled_stored (c : StoreCall) :
    (c.stored clock reads store).enabled = store.enabled := by
  cases c <;> rfl

@[simp] theorem StoreCall.life_stored (c : StoreCall) :
    (c.stored clock reads store).life = store.life := by
  cases c <;> rfl

theorem ToolsCacheStore.keyed.stored (keyed : store.keyed) (c : StoreCall) :
    (c.stored clock reads store).keyed := by
  cases c with
  | upsert => exact keyed.evict_expired.put
  | list_all => exact keyed.evict_expired
  | reset_all => exact ToolsCacheStore.keyed_clear
  | reset_by_config_id => exact keyed.clear_config

/-- A property of stores that every call keeps holds after a sequence of calls. -/
theorem CacheWorld.after_keeps (rfc3339 : Nat → String) {I : ToolsCacheStore → Prop}
    {w : CacheWorld} (enabled : w.store.enabled = true) (start : I w.store)
    (keeps : ∀ clock reads store c, I store → I (StoreCall.stored clock reads store c))
    (calls : List StoreCall) :
    (w.after rfc3339 calls).store.enabled = true ∧ I (w.after rfc3339 calls).store := by
  induction calls using List.reverseRecOn with
  | nil => exact ⟨enabled, start⟩
  | append_singleton calls c ih =>
    obtain ⟨on, held⟩ := ih
    rw [CacheWorld.after_snoc, CacheWorld.call_eq on]
    exact ⟨(c.enabled_stored).trans on, keeps _ _ _ c held⟩

end Keeps

/-! ## A configuration and a printer for examples -/

def five_days : ToolsCacheConfig where
  enabled := true
  cache_life := 5 * 24 * 60 * 60 * 10 ^ 9

/-- The first seconds of the epoch. -/
def print_second (instant : Nat) : String :=
  "1970-01-01T00:00:0" ++ toString (instant / 10 ^ 9) ++ "Z"

end SessionManager
