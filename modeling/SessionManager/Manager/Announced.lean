import SessionManager.Manager.Cached
import SessionManager.Manager.Outcomes
import SessionManager.Registry.Reached
import SessionManager.Server.Listing
import SessionManager.ToolsCache.Operations

/-!
# Announced changes of the published tools

Agents reread the list of tools when they hear that it has changed.  A call of the registry or of
its cache that changes what `list_all_tools_inner` lists has raised `tools_epoch`, once to three
times, by the time it returns (`listing_change_is_announced`).
-/

namespace SessionManager

open Effect

open Prog (perform)

/-! ## What is listed -/

/-- What `list_all_tools_inner` lists at some time, if the map enumerates its keys in this order. -/
def listing (crates : Crates) (builtin : List Tool) (reg : SessionRegistry) (order : List String)
    (now : Nat) : List Tool :=
  extend_listing (builtin ++ proxy_tools (build_proxy_view crates (order.filterMap reg.inner.get)))
    (cached_entries reg now)

/-- A record and an entry as far as they are listed. -/
def SessionRecord.shown (record : SessionRecord) : SessionRecord := { record with last_call_at := 0 }

def ToolsCacheEntry.shown (entry : ToolsCacheEntry) : ToolsCacheEntry :=
  { entry with last_seen_at := 0 }

theorem build_proxy_view_shown (crates : Crates) (snapshot : List SessionRecord) :
    build_proxy_view crates (snapshot.map SessionRecord.shown) = build_proxy_view crates snapshot := by
  rw [build_proxy_view, build_proxy_view, group_tools, group_tools, List.foldl_map]
  rfl

theorem extend_listing_shown (tools : List Tool) (entries : List ToolsCacheEntry) :
    extend_listing tools (entries.map ToolsCacheEntry.shown) = extend_listing tools entries := by
  rw [extend_listing, extend_listing, List.foldl_map]
  rfl

/-- Two registries whose records and unexpired cache entries are listed alike. -/
structure ListedAlike (reg reg' : SessionRegistry) (now : Nat) : Prop where
  records : ∀ uid, (reg'.inner.get uid).map SessionRecord.shown =
    (reg.inner.get uid).map SessionRecord.shown
  entries : (cached_entries reg' now).map ToolsCacheEntry.shown =
    (cached_entries reg now).map ToolsCacheEntry.shown

section Listing

variable {crates : Crates} {builtin : List Tool} {reg reg' : SessionRegistry} {now : Nat}

theorem ListedAlike.refl (reg : SessionRegistry) (now : Nat) : ListedAlike reg reg now :=
  ⟨fun _ => rfl, rfl⟩

theorem ListedAlike.listing (alike : ListedAlike reg reg' now) (order : List String) :
    listing crates builtin reg' order now = listing crates builtin reg order now := by
  have view (reg : SessionRegistry) : build_proxy_view crates (order.filterMap reg.inner.get) =
      build_proxy_view crates
        (order.filterMap fun uid => (reg.inner.get uid).map SessionRecord.shown) := by
    rw [← build_proxy_view_shown, List.map_filterMap]
  rw [SessionManager.listing, SessionManager.listing, view reg', view reg, funext alike.records,
    ← extend_listing_shown, alike.entries, extend_listing_shown]

/-- Their maps have the same keys. -/
theorem ListedAlike.keys (alike : ListedAlike reg reg' now) :
    reg'.inner.keys.Perm reg.inner.keys := by
  apply HashMap.keys_perm
  intro uid
  rw [← Option.isSome_map (f := SessionRecord.shown), alike.records, Option.isSome_map]

end Listing

/-! ## Calls of the registry and of its cache -/

namespace SessionRegistry

/-- What the resets leave. -/
def cleared (reg : SessionRegistry) : SessionRegistry :=
  match reg.live_cache with
  | some store => (reg.store_cache store.clear.2).raise_tools (store.clear.1 > 0)
  | none => reg

def cleared_config (reg : SessionRegistry) (config_id : String) : SessionRegistry :=
  match reg.live_cache with
  | some store => (reg.store_cache (store.clear_config config_id).2).raise_tools
      ((store.clear_config config_id).1 > 0)
  | none => reg

section Programs

variable {reg : SessionRegistry} {now : Nat}

theorem eval_list_all : list_all.eval (machine now) reg = (cached_entries reg now, reg.evicted now) := by
  have listed (evicted : Bool) (reg : SessionRegistry) : Prog.eval (machine now) (do
      if evicted then perform .mark_tools_changed
      return (← perform .list_cache).getD []) reg =
      (((reg.live_cache).map ToolsCacheStore.list).getD [], reg.raise_tools evicted) := by
    cases evicted <;> rfl
  rw [list_all, Prog.eval_perform, machine, cached_entries, evicted]
  cases live : reg.live_cache with
  | none =>
    simp only [RegOp.run, live]
    rfl
  | some store =>
    have swept : (reg.store_cache (store.evict_expired now).2).live_cache =
        some (store.evict_expired now).2 := live_store_cache (live_cache_of_some live).2
    simp only [RegOp.run, live]
    apply (listed _ _).trans
    rw [swept]
    rfl

theorem eval_list_all_tools (crates : Crates) (builtin : List Tool) :
    (list_all_tools_inner crates builtin).eval (machine now) reg =
      (listing crates builtin reg reg.inner.keys now, reg.evicted now) := by
  rw [list_all_tools_inner, Prog.eval_perform, Prog.eval_bind]
  simp only [machine, RegOp.run]
  rw [eval_list_all, listing, HashMap.filterMap_get_keys]
  rfl

/-- Both resets announce that entries are gone. -/
theorem eval_removed (removed : Nat) (reg : SessionRegistry) : Prog.eval (machine now) (do
    if removed > 0 then perform .mark_tools_changed
    return removed) reg = (removed, reg.raise_tools (removed > 0)) := by
  by_cases some : removed > 0
  · rw [if_pos some, raise_tools, if_pos (decide_eq_true some)]
    rfl
  · rw [if_neg some, raise_tools, if_neg (by rwa [decide_eq_true_eq])]
    rfl

theorem eval_reset_all : (reset_all.eval (machine now) reg).2 = reg.cleared := by
  rw [reset_all, Prog.eval_perform, cleared]
  apply (congrArg Prod.snd (eval_removed _ _)).trans
  cases live : reg.live_cache with
  | none | some => simp only [machine, RegOp.run, live] <;> rfl

theorem eval_reset_by_config_id (config_id : String) :
    ((reset_by_config_id config_id).eval (machine now) reg).2 = reg.cleared_config config_id := by
  rw [reset_by_config_id, Prog.eval_perform, cleared_config]
  apply (congrArg Prod.snd (eval_removed _ _)).trans
  cases live : reg.live_cache with
  | none | some => simp only [machine, RegOp.run, live] <;> rfl

end Programs

end SessionRegistry

/-- A call of the registry, or of the cache that is attached to it. -/
inductive ManagerCall
  | registry (call : RegistryCall)
  | upsert (kind config_id : String) (tools : List ToolDescriptor)
  | list_all
  | reset_all
  | reset_by_config_id (config_id : String)

def ManagerCall.prog : ManagerCall → Prog (ManagerOp Unit) Unit
  | .registry call => do let _ ← call.prog
  | .upsert kind config_id tools => (SessionRegistry.upsert kind config_id tools).lift .reg
  | .list_all => do let _ ← SessionManager.list_all.lift .reg
  | .reset_all => do let _ ← SessionRegistry.reset_all.lift .reg
  | .reset_by_config_id config_id => do
    let _ ← (SessionRegistry.reset_by_config_id config_id).lift .reg

/-- What a call leaves in the registry. -/
def ManagerCall.after (instant : Nat) (reg : SessionRegistry) : ManagerCall → SessionRegistry
  | .registry call => call.after instant reg
  | .upsert kind config_id tools => (reg.evicted instant).noted instant kind config_id tools
  | .list_all => reg.evicted instant
  | .reset_all => reg.cleared
  | .reset_by_config_id config_id => reg.cleared_config config_id

/-- The world after a call at `instant`, if the call returns. -/
def ManagerWorld.manage (w : ManagerWorld Unit) (instant : Nat) (call : ManagerCall) :
    Option (ManagerWorld Unit) :=
  (call.prog.handle (fun op w => op.apply () w) { w with now := instant }).map Prod.snd

section Manage

variable {w : ManagerWorld Unit}

theorem SessionRegistry.upsert_brief (kind config_id : String) (tools : List ToolDescriptor) :
    (SessionRegistry.upsert kind config_id tools).Only RegOp.brief := by
  have marked (changed : Bool) :
      (if changed then perform .mark_tools_changed else pure () : Prog RegOp Unit).Only
        RegOp.brief := by
    cases changed with
    | false => trivial
    | true => exact ⟨trivial, fun _ => trivial⟩
  refine ⟨trivial, fun evicted => ?_⟩
  cases evicted with
  | none => trivial
  | some evicted =>
    cases evicted with
    | false => exact ⟨trivial, marked⟩
    | true => exact ⟨trivial, fun _ => ⟨trivial, marked⟩⟩

theorem removed_brief (removed : Nat) : (do
    if removed > 0 then perform .mark_tools_changed
    return removed : Prog RegOp Nat).Only RegOp.brief := by
  split
  · exact ⟨trivial, fun _ => trivial⟩
  · trivial

/-- A call of the cache runs through. -/
theorem manage_of_method (free : w.registry.locked = false) (instant : Nat) {α : Type}
    {p : Prog RegOp α} (brief : p.Only RegOp.brief) {reg' : SessionRegistry}
    (ran : (p.eval (SessionRegistry.machine instant) w.registry).2 = reg') :
    ∃ w', ((p.lift (.reg : ∀ {β : Type}, RegOp β → ManagerOp Unit β) >>= fun _ => pure ()).handle
        (fun op w => op.apply () w) { w with now := instant }).map Prod.snd = some w' ∧
      w'.registry = reg' := by
  have handled := handle_reg (w := { w with now := instant }) brief free
  rw [Prog.handle_bind, handled, ← ran]
  exact ⟨_, rfl, rfl⟩

/-- **What a call leaves in the registry**, with the attached cache. -/
theorem manage_after (free : w.registry.locked = false) (instant : Nat) (call : ManagerCall) :
    ∃ w', w.manage instant call = some w' ∧ w'.registry = call.after instant w.registry := by
  cases call with
  | registry call =>
    obtain ⟨w', called, left⟩ := call_after free instant call
    refine ⟨w', ?_, left⟩
    have handled : call.prog.handle (fun op w => op.apply () w) { w with now := instant } =
        some (call.result w.registry, w') := called
    rw [ManagerWorld.manage, ManagerCall.prog, Prog.handle_bind, handled]
    rfl
  | upsert kind config_id tools =>
    have handled := handle_reg (w := { w with now := instant })
      (SessionRegistry.upsert_brief kind config_id tools) free
    rw [ManagerWorld.manage, ManagerCall.prog, handled, SessionRegistry.eval_upsert]
    exact ⟨_, rfl, rfl⟩
  | list_all =>
    exact manage_of_method free instant (list_all_only trivial trivial trivial)
      (congrArg Prod.snd SessionRegistry.eval_list_all)
  | reset_all =>
    have brief : SessionRegistry.reset_all.Only RegOp.brief := ⟨trivial, removed_brief⟩
    exact manage_of_method free instant brief SessionRegistry.eval_reset_all
  | reset_by_config_id config_id =>
    have brief : (SessionRegistry.reset_by_config_id config_id).Only RegOp.brief :=
      ⟨trivial, removed_brief⟩
    exact manage_of_method free instant brief (SessionRegistry.eval_reset_by_config_id config_id)

end Manage

/-! ## Announcing -/

/-- The registry lists as before, or it has announced one to three changes. -/
def Announces (reg reg' : SessionRegistry) (now : Nat) : Prop :=
  ListedAlike reg reg' now ∨
    ∃ k, 1 ≤ k ∧ k ≤ 3 ∧ reg'.tools_epoch = (reg.tools_epoch + k) % 2 ^ 64

namespace SessionRegistry

section Epoch

variable {reg : SessionRegistry} {now : Nat}

/-- Raising the signal or not. -/
theorem epoch_raise_cases (reg : SessionRegistry) (changed : Bool) :
    (reg.raise_tools changed).tools_epoch = reg.tools_epoch ∨
      (reg.raise_tools changed).tools_epoch = (reg.tools_epoch + 1) % 2 ^ 64 := by
  cases changed with
  | false => exact .inl rfl
  | true => exact .inr rfl

theorem epoch_evicted (reg : SessionRegistry) (now : Nat) :
    (reg.evicted now).tools_epoch = reg.tools_epoch ∨
      (reg.evicted now).tools_epoch = (reg.tools_epoch + 1) % 2 ^ 64 := by
  rw [evicted]
  cases reg.live_cache with
  | none => exact .inl rfl
  | some store => exact epoch_raise_cases (reg.store_cache _) _

theorem epoch_noted (reg : SessionRegistry) (now : Nat) (kind config_id : String)
    (tools : List ToolDescriptor) :
    (reg.noted now kind config_id tools).tools_epoch = reg.tools_epoch ∨
      (reg.noted now kind config_id tools).tools_epoch = (reg.tools_epoch + 1) % 2 ^ 64 := by
  rw [noted]
  cases reg.live_cache with
  | none => exact .inl rfl
  | some store => exact epoch_raise_cases (reg.store_cache _) _

/-- A raise and a noting that follows it announce one to three changes. -/
theorem announces_noted {reg' : SessionRegistry} (kind config_id : String)
    (tools : List ToolDescriptor) (raised : reg'.tools_epoch = (reg.tools_epoch + 1) % 2 ^ 64) :
    Announces reg ((reg'.evicted now).noted now kind config_id tools) now := by
  right
  rcases reg'.epoch_evicted now with kept | more <;>
    rcases (reg'.evicted now).epoch_noted now kind config_id tools with kept' | more'
  · exact ⟨1, by omega, by omega, by omega⟩
  · exact ⟨2, by omega, by omega, by omega⟩
  · exact ⟨2, by omega, by omega, by omega⟩
  · exact ⟨3, by omega, by omega, by omega⟩

end Epoch

section Alike

variable {reg reg' : SessionRegistry} {now : Nat}

theorem announces_raise (raised : reg'.tools_epoch = (reg.tools_epoch + 1) % 2 ^ 64) :
    Announces reg reg' now :=
  .inr ⟨1, by omega, by omega, raised⟩

theorem announces_refl (reg : SessionRegistry) : Announces reg reg now :=
  .inl (ListedAlike.refl reg now)

/-- Filing a record that is listed alike changes nothing that is listed. -/
theorem announces_insert {session_id : String} {record record' : SessionRecord}
    (found : reg.inner.get session_id = some record) (same : record'.shown = record.shown) :
    Announces reg (reg.set_record session_id record') now := by
  left
  refine ⟨fun uid => ?_, rfl⟩
  rw [set_record, HashMap.get_insert]
  split
  · rename_i here
    rw [here, found, Option.map_some, Option.map_some, same]
  · rfl

/-- Removing a record that is not there. -/
theorem announces_remove {session_id : String} (absent : reg.inner.get session_id = none) :
    Announces reg (reg.remove session_id) now := by
  left
  refine ⟨fun uid => ?_, rfl⟩
  rw [remove, HashMap.get_remove]
  split
  · rename_i here
    rw [here, absent]
  · rfl

/-- Expired entries are not listed, evicted or not. -/
theorem announces_evicted : Announces reg (reg.evicted now) now := by
  left
  refine ⟨fun uid => by rw [inner_evicted], ?_⟩
  cases live : reg.live_cache with
  | none => rw [evicted_of_none live]
  | some store =>
    rw [cached_entries, live_evicted live, cached_entries, live, Option.map_some, Option.map_some,
      ToolsCacheStore.evict_expired_of_fresh ToolsCacheStore.fresh_evict_expired]

theorem store_cache_self {store : ToolsCacheStore} (live : reg.live_cache = some store) :
    reg.store_cache store = reg := by
  rw [store_cache, ← (live_cache_of_some live).1]

/-- An entry that is put as it was is only seen later. -/
theorem shown_put {store : ToolsCacheStore} (keyed : store.keyed) {kind config_id : String}
    {tools : List ToolDescriptor} (unchanged : (store.put kind config_id tools now).1 = false)
    (key : String × String) :
    ((store.put kind config_id tools now).2.inner.get key).map ToolsCacheEntry.shown =
      (store.inner.get key).map ToolsCacheEntry.shown := by
  have same : (store.inner.get (kind, config_id)).map ToolsCacheEntry.tools = some tools := by
    by_contra other
    rw [ToolsCacheStore.put_changed_iff.mpr other] at unchanged
    cases unchanged
  rw [ToolsCacheStore.get_put]
  split
  · rename_i here
    obtain ⟨entry, found, own⟩ := Option.map_eq_some_iff.mp same
    obtain ⟨own_kind, own_config⟩ := Prod.mk.inj (keyed _ _ found)
    rw [here, found, Option.map_some, Option.map_some, ToolsCacheEntry.shown,
      ToolsCacheEntry.shown, own, own_kind, own_config]
  · rfl

/-- Noting tools changes the listing only if the entry changes, or an expired one was left. -/
theorem announces_upsert (keyed : reg.keyed_cache) (kind config_id : String)
    (tools : List ToolDescriptor) :
    Announces reg ((reg.evicted now).noted now kind config_id tools) now := by
  cases live : reg.live_cache with
  | none =>
    rw [evicted_of_none live, noted, live]
    exact announces_refl reg
  | some store =>
    cases evicted : (store.evict_expired now).1 with
    | true =>
      have raised : (reg.evicted now).tools_epoch = (reg.tools_epoch + 1) % 2 ^ 64 := by
        rw [evicted_of_live live, evicted]
        rfl
      right
      rcases (reg.evicted now).epoch_noted now kind config_id tools with kept | more
      · exact ⟨1, by omega, by omega, by omega⟩
      · exact ⟨2, by omega, by omega, by omega⟩
    | false =>
      have kept : reg.evicted now = reg := by
        rw [evicted_of_live live, evicted, ToolsCacheStore.evict_expired_unevicted evicted]
        exact store_cache_self live
      rw [kept]
      cases changed : (store.put kind config_id tools now).1 with
      | true =>
        apply announces_raise
        rw [noted_of_live live, changed]
        rfl
      | false =>
        have own := keyed store (live_cache_of_some live).1
        have fresh : store.fresh now := by
          by_contra stale
          rw [ToolsCacheStore.evicted_iff.mpr stale] at evicted
          cases evicted
        left
        refine ⟨fun uid => by rw [inner_noted], ?_⟩
        rw [cached_entries, live_noted live, cached_entries, live, Option.map_some,
          Option.map_some, Option.getD_some, Option.getD_some,
          ToolsCacheStore.evict_expired_of_fresh fresh,
          ToolsCacheStore.evict_expired_of_fresh fresh.put]
        exact own.map_list_congr own.put (fun _ => rfl) (shown_put own changed)

/-- A reset that removes nothing leaves everything. -/
theorem announces_removed {store store' : ToolsCacheStore} {removed : Nat}
    (live : reg.live_cache = some store) (same : removed = 0 → store' = store) :
    Announces reg ((reg.store_cache store').raise_tools (removed > 0)) now := by
  by_cases none : removed = 0
  · rw [same none, none, store_cache_self live]
    exact announces_refl reg
  · apply announces_raise
    rw [decide_eq_true (Nat.pos_of_ne_zero none)]
    rfl

end Alike

end SessionRegistry

section Calls

variable {reg : SessionRegistry}

open SessionRegistry

theorem RegistryCall.announces (call : RegistryCall) (instant : Nat) :
    Announces reg (call.after instant reg) instant := by
  cases call with
  | register_with_generation params now connection =>
    rw [RegistryCall.after]
    rcases reg.register_cases params now connection with
      ⟨error, refused⟩ | ⟨outcome, record, -, -, -, -, filed⟩
    · rw [refused]
      exact announces_refl reg
    · rw [filed]
      exact announces_noted _ _ _ rfl
  | mark_disconnected session_id now =>
    rw [RegistryCall.after]
    rcases reg.disconnect_any_cases session_id now with none | ⟨record, -, -, some⟩
    · rw [none]
      exact announces_refl reg
    · rw [some]
      exact announces_raise rfl
  | mark_disconnected_if_generation session_id expected_generation now =>
    rw [RegistryCall.after]
    rcases reg.disconnect_cases session_id expected_generation now with none | ⟨record, -, -, some⟩
    · rw [none]
      exact announces_refl reg
    · rw [some]
      exact announces_raise rfl
  | bump_last_call session_id now =>
    rw [RegistryCall.after]
    rcases reg.touch_cases session_id now with none | ⟨record, found, some⟩
    · rw [none]
      exact announces_refl reg
    · rw [some]
      exact announces_insert found rfl
  | remove session_id =>
    rw [RegistryCall.after]
    cases found : reg.inner.get session_id with
    | none => exact announces_remove found
    | some record => exact announces_raise rfl
  | remove_if_generation session_id expected_generation =>
    rw [RegistryCall.after]
    rcases reg.take_cases session_id expected_generation with none | ⟨record, -, some⟩
    · rw [none]
      exact announces_refl reg
    · rw [some]
      exact announces_raise rfl
  | update_tools session_id tools =>
    rw [RegistryCall.after]
    rcases reg.replace_tools_cases session_id tools with
      ⟨-, none⟩ | ⟨record, found, ⟨-, same⟩ | ⟨-, replaced⟩⟩
    · rw [none]
      exact announces_refl reg
    · rw [same]
      exact announces_refl reg
    · rw [replaced]
      exact announces_noted _ _ _ rfl
  | sweep_expired_disconnects now grace =>
    rw [RegistryCall.after]
    cases swept : (reg.sweep now grace).1 with
    | cons uid expired => exact announces_raise rfl
    | nil =>
      left
      refine ⟨fun uid => ?_, rfl⟩
      have kept : (reg.sweep now grace).2.inner = reg.inner := by
        apply reg.inner_sweep_of_kept
        intro uid record found
        have member := List.filter_eq_nil_iff.mp swept uid (HashMap.mem_keys.mpr (by rw [found]; rfl))
        rwa [found, Option.any_some, Bool.not_eq_true] at member
      rw [List.isEmpty_nil, Bool.not_true, inner_raise_tools, kept]

/-- **What a call leaves** lists as before, unless it was announced. -/
theorem ManagerCall.announces (call : ManagerCall) (instant : Nat) (keyed : reg.keyed_cache) :
    Announces reg (call.after instant reg) instant := by
  cases call with
  | registry call => exact call.announces instant
  | upsert kind config_id tools => exact announces_upsert keyed kind config_id tools
  | list_all => exact announces_evicted
  | reset_all =>
    rw [ManagerCall.after, cleared]
    cases live : reg.live_cache with
    | none => exact announces_refl reg
    | some store => exact announces_removed live ToolsCacheStore.clear_unremoved
  | reset_by_config_id config_id =>
    rw [ManagerCall.after, cleared_config]
    cases live : reg.live_cache with
    | none => exact announces_refl reg
    | some store => exact announces_removed live ToolsCacheStore.clear_config_unremoved

end Calls

/-- **Announced changes.**  A call of a manager whose listing differs after it has raised
`tools_epoch` once to three times.  The two enumerations of the map are the same if it has the
same keys. -/
theorem listing_change_is_announced {cfg : ToolsCacheConfig}
    {from_str : String → Option PersistedCache} {text : Option String} {w : ManagerWorld Unit}
    (reached : Reached (some (.load_or_empty cfg from_str text)) w.registry)
    (free : w.registry.locked = false) (instant : Nat) (call : ManagerCall) :
    ∃ w', w.manage instant call = some w' ∧
      ∀ (crates : Crates) (builtin : List Tool) (order order' : List String),
        order.Perm w.registry.inner.keys → order'.Perm w'.registry.inner.keys →
        (order.Perm order' → order' = order) →
        listing crates builtin w'.registry order' instant ≠
          listing crates builtin w.registry order instant →
        ∃ k, 1 ≤ k ∧ k ≤ 3 ∧
          w'.registry.tools_epoch = (w.registry.tools_epoch + k) % 2 ^ 64 := by
  obtain ⟨w', managed, left⟩ := manage_after free instant call
  refine ⟨w', managed, ?_⟩
  intro crates builtin order order' keys keys' stable differ
  have announces := call.announces instant reached.keyed_cache
  rw [← left] at announces
  rcases announces with alike | raised
  · have same := stable (keys.trans (alike.keys.symm.trans keys'.symm))
    rw [same, alike.listing] at differ
    exact (differ rfl).elim
  · exact raised

theorem listing_change_is_announced_noted : ∃ w', caching_manager.manage 0
    (.upsert "client" "client" [plain_tool]) = some w' ∧
      ∀ (crates : Crates) (builtin : List Tool) (order order' : List String),
        order.Perm caching_manager.registry.inner.keys → order'.Perm w'.registry.inner.keys →
        (order.Perm order' → order' = order) →
        listing crates builtin w'.registry order' 0 ≠
          listing crates builtin caching_manager.registry order 0 →
        ∃ k, 1 ≤ k ∧ k ≤ 3 ∧
          w'.registry.tools_epoch = (caching_manager.registry.tools_epoch + k) % 2 ^ 64 :=
  listing_change_is_announced .new rfl 0 _

/-! ## The epoch wraps -/

/-- The reports of a client that has a tool every other time. -/
def alternating (n : Nat) : List ToolDescriptor := if n % 2 = 0 then [plain_tool] else []

/-- The world after so many reports. -/
def reports : Nat → Option (ManagerWorld Unit)
  | 0 => some caching_manager
  | n + 1 => do (← reports n).manage 0 (.upsert "client" "client" (alternating n))

def reported_entry (tools : List ToolDescriptor) : ToolsCacheEntry where
  kind := "client"
  config_id := "client"
  tools := tools
  last_seen_at := 0

/-- The registry after `epoch` changes, the last of which was the report of these tools. -/
def reported (tools : List ToolDescriptor) (epoch : Nat) : SessionRegistry :=
  { SessionRegistry.new none with
    tools_epoch := epoch % 2 ^ 64
    tools_cache := some
      { inner := HashMap.empty.insert ("client", "client") (reported_entry tools)
        cache_life := 1000
        enabled := true } }

theorem after_reported (tools tools' : List ToolDescriptor) (epoch : Nat) :
    (ManagerCall.upsert "client" "client" tools').after 0 (reported tools epoch) =
      (reported tools' epoch).raise_tools (tools != tools') :=
  rfl

theorem alternating_changes (n : Nat) : (alternating n != alternating (n + 1)) = true := by
  rcases Nat.mod_two_eq_zero_or_one n with even | odd
  · rw [alternating, alternating, if_pos even, if_neg (by omega)]
    decide
  · rw [alternating, alternating, if_neg (by omega), if_pos (by omega)]
    decide

/-- Every report of them is a change. -/
theorem reports_reported (n : Nat) :
    ∃ w, reports (n + 1) = some w ∧ w.registry = reported (alternating n) (n + 1) := by
  induction n with
  | zero =>
    obtain ⟨w, managed, left⟩ := manage_after (w := caching_manager) rfl 0
      (.upsert "client" "client" (alternating 0))
    exact ⟨w, managed, left⟩
  | succ n ih =>
    obtain ⟨w, before, noted⟩ := ih
    have free : w.registry.locked = false := by
      rw [noted]
      rfl
    obtain ⟨w', managed, left⟩ := manage_after free 0
      (.upsert "client" "client" (alternating (n + 1)))
    refine ⟨w', ?_, ?_⟩
    · rw [reports, before]
      exact managed
    · rw [left, noted, after_reported, alternating_changes]
      have counted : ((n + 1) % 2 ^ 64 + 1) % 2 ^ 64 = (n + 1 + 1) % 2 ^ 64 := by omega
      rw [SessionRegistry.raise_tools, if_pos rfl, reported, reported, counted]

theorem cached_entries_reported (tools : List ToolDescriptor) (epoch : Nat) :
    cached_entries (reported tools epoch) 0 = [reported_entry tools] :=
  List.mergeSort_singleton _

/-- After 2^64 - 1 changes, the next one takes the tool away and leaves the epoch at 0. -/
theorem wrapped_epoch_is_not_raised : ∃ w w', reports (2 ^ 64 - 1) = some w ∧
    w.manage 0 (.upsert "client" "client" []) = some w' ∧
    listing permissive_crates [] w'.registry [] 0 ≠ listing permissive_crates [] w.registry [] 0 ∧
    ¬ w.registry.tools_epoch < w'.registry.tools_epoch := by
  obtain ⟨w, before, noted⟩ := reports_reported (2 ^ 64 - 2)
  have free : w.registry.locked = false := by
    rw [noted]
    rfl
  have even : alternating (2 ^ 64 - 2) = [plain_tool] := if_pos (by omega)
  obtain ⟨w', managed, left⟩ := manage_after free 0 (.upsert "client" "client" [])
  rw [noted, after_reported, even] at left
  refine ⟨w, w', before, managed, ?_, ?_⟩
  · rw [left, noted, even, listing, listing, cached_entries_reported]
    have gone : cached_entries ((reported [] (2 ^ 64 - 2 + 1)).raise_tools
        ([plain_tool] != [])) 0 = [reported_entry []] := List.mergeSort_singleton _
    rw [gone]
    intro same
    cases congrArg List.length same
  · rw [left, noted]
    decide

end SessionManager
