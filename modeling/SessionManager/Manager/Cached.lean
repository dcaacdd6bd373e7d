import SessionManager.Manager.Outcomes
import SessionManager.ToolsCache.Sections
import SessionManager.Router.Explicit

/-!
# What the cache has of a session

A client that registers or reports its tools leaves its public tools in the cache, seen at that
moment; but tools that the record has already are not reported to the cache, whatever the cache
has of them (`cached_iff`).
-/

namespace SessionManager

open Effect

/-- The session and the tools that a call reports. -/
def RegistryCall.payload : RegistryCall → Option (String × List ToolDescriptor)
  | .register_with_generation params _ _ => some (params.client_uid, params.tools)
  | .update_tools session_id tools => some (session_id, tools)
  | _ => none

def RegistryReturn.succeeded : RegistryReturn → Bool
  | .registered (.ok _) => true
  | .found answer => answer
  | _ => false

/-- The cache entry of a record has exactly the public ones of these tools, seen at `instant`. -/
def Cached (reg : SessionRegistry) (record : SessionRecord) (tools : List ToolDescriptor)
    (instant : Nat) : Prop :=
  ∃ store, reg.live_cache = some store ∧ store.inner.get (record.kind, record.config_id) =
    some { kind := record.kind, config_id := record.config_id,
           tools := SessionRegistry.public_tools tools, last_seen_at := instant }

/-- The record has the tools that are reported, but the cache does not have them, or had them
seen at another moment. -/
def RegistryCall.skips (reg : SessionRegistry) (instant : Nat) : RegistryCall → Prop
  | .update_tools session_id tools =>
      ∃ record, reg.inner.get session_id = some record ∧ record.tools = tools ∧
        ¬ Cached reg record tools instant
  | _ => False

section Call

variable {reg : SessionRegistry} {instant : Nat}

/-- Noting the tools of a record leaves them in the cache. -/
theorem cached_noted {store : ToolsCacheStore} (live : reg.live_cache = some store)
    (record : SessionRecord) (tools : List ToolDescriptor) :
    Cached ((reg.evicted instant).noted instant record.kind record.config_id
      (SessionRegistry.public_tools tools)) record tools instant := by
  refine ⟨_, SessionRegistry.live_noted (SessionRegistry.live_evicted live) _ _ _, ?_⟩
  rw [ToolsCacheStore.get_put, if_pos rfl]

end Call

/-- **Reported tools.**  A registration or report that succeeds leaves the public tools in the cache
entry of the session, seen at that moment, exactly if it is not a report that was skipped. -/
theorem cached_iff {w : ManagerWorld Unit} (free : w.registry.locked = false)
    {store : ToolsCacheStore} (live : w.registry.live_cache = some store) (instant : Nat)
    {call : RegistryCall} {session_id : String} {tools : List ToolDescriptor}
    (payload : call.payload = some (session_id, tools)) :
    ∃ result w', w.call instant call = some (result, w') ∧ (result.succeeded = true →
      ∃ record, w'.registry.inner.get session_id = some record ∧
        (Cached w'.registry record tools instant ↔ ¬ call.skips w.registry instant)) := by
  obtain ⟨w', called, left⟩ := call_after free instant call
  refine ⟨_, w', called, fun succeeded => ?_⟩
  rw [left]
  cases call with
  | register_with_generation params now connection =>
    cases payload
    rw [RegistryCall.result] at succeeded
    rw [RegistryCall.after]
    rcases w.registry.register_cases params now connection with
      ⟨error, refused⟩ | ⟨outcome, record, -, -, kind, config_id, filed⟩
    · rw [refused] at succeeded
      cases succeeded
    · rw [filed, ← kind, ← config_id]
      have filed_live : ((w.registry.file params.client_uid record).announced true).live_cache =
          some store := live
      refine ⟨record, ?_, iff_of_true (cached_noted filed_live record params.tools) id⟩
      rw [SessionRegistry.inner_noted, SessionRegistry.inner_evicted]
      exact HashMap.get_insert_self ..
  | update_tools session_id tools =>
    cases payload
    rw [RegistryCall.result] at succeeded
    rw [RegistryCall.after]
    rcases w.registry.replace_tools_cases session_id tools with
      ⟨-, none⟩ | ⟨record, found, ⟨same, kept⟩ | ⟨other, replaced⟩⟩
    · rw [none] at succeeded
      cases succeeded
    · rw [kept]
      refine ⟨record, found, ?_⟩
      constructor
      · intro cached skips
        obtain ⟨record', found', -, uncached⟩ := skips
        cases found.symm.trans found'
        exact uncached cached
      · intro unskipped
        by_contra uncached
        exact unskipped ⟨record, found, same, uncached⟩
    · rw [replaced]
      have set_live : ((w.registry.set_record session_id { record with tools }).raise_tools
          true).live_cache = some store := live
      refine ⟨_, ?_, iff_of_true (cached_noted set_live { record with tools } tools) ?_⟩
      · rw [SessionRegistry.inner_noted, SessionRegistry.inner_evicted]
        exact HashMap.get_insert_self ..
      · intro skips
        obtain ⟨record', found', same, -⟩ := skips
        cases found.symm.trans found'
        exact other same
  | _ => cases payload

/-! ## A report after a reset -/

/-- A manager with a cache that has no file yet. -/
def caching_manager : ManagerWorld Unit :=
  .new (some (.load_or_empty { enabled := true, cache_life := 1000 } (fun _ => none) none)) 0

theorem cached_iff_registered : ∃ result w',
    caching_manager.call 0 (.register_with_generation (client_params "s" [plain_tool]) 0 none) =
        some (result, w') ∧
      (result.succeeded = true → ∃ record, w'.registry.inner.get "s" = some record ∧
        (Cached w'.registry record [plain_tool] 0 ↔
          ¬ RegistryCall.skips caching_manager.registry 0
            (.register_with_generation (client_params "s" [plain_tool]) 0 none))) :=
  cached_iff rfl rfl 0 rfl

/-- A client registers, the cache is reset, and the client reports the tools it has; the cache
does not have them. -/
theorem report_after_reset_is_skipped : ∃ result w w' w'' record,
    caching_manager.call 0 (.register_with_generation (client_params "s" [plain_tool]) 0 none) =
        some (result, w) ∧
      (SessionRegistry.reset_all.lift ManagerOp.reg).handle (fun op w => op.apply () w) w =
        some (1, w') ∧
      w'.call 1 (.update_tools "s" [plain_tool]) = some (.found true, w'') ∧
      w''.registry.inner.get "s" = some record ∧ ¬ Cached w''.registry record [plain_tool] 1 := by
  refine ⟨_, _, _, _, _, rfl, rfl, rfl, rfl, ?_⟩
  intro cached
  obtain ⟨store, live, found⟩ := cached
  cases live
  cases found

end SessionManager
