import SessionManager.Effect.Handle
import SessionManager.Registry

/-!
# The critical sections of the registry

What a section does once it has the lock (`RegOp.run`), and what it does to the record of each
uid (`RegOp.changed`): invariants of the records are shown one kind of change at a time.
-/

namespace SessionManager

open Effect

/-- What a section does once it has the lock. -/
def RegOp.run (now : Nat) (reg : SessionRegistry) : ∀ {β : Type}, RegOp β → β × SessionRegistry
  | _, .register params instant connection => reg.register params instant connection
  | _, .mark_disconnected session_id instant => reg.disconnect_any session_id instant
  | _, .mark_disconnected_if_generation session_id expected_generation instant =>
      reg.disconnect session_id expected_generation instant
  | _, .unlock => ((), { reg with locked := false })
  | _, .bump_last_call session_id instant => reg.touch session_id instant
  | _, .remove session_id => (reg.inner.get session_id, reg.remove session_id)
  | _, .remove_if_generation session_id expected_generation =>
      reg.take session_id expected_generation
  | _, .update_tools session_id tools => reg.replace_tools session_id tools
  | _, .sweep_expired_disconnects instant grace => reg.sweep instant grace
  | _, .snapshot => (reg.inner.values, reg)
  | _, .get session_id => (reg.inner.get session_id, reg)
  | _, .mark_tools_changed => ((), { reg with tools_epoch := (reg.tools_epoch + 1) % 2 ^ 64 })
  | _, .mark_session_changed => ((), { reg with session_changed := reg.session_changed + 1 })
  | _, .evict_expired =>
      match reg.live_cache with
      | some store => (some (store.evict_expired now).1, reg.store_cache (store.evict_expired now).2)
      | none => (none, reg)
  | _, .put_cache kind config_id tools =>
      match reg.live_cache with
      | some store =>
        ((store.put kind config_id tools now).1, reg.store_cache (store.put kind config_id tools now).2)
      | none => (false, reg)
  | _, .list_cache => (reg.live_cache.map ToolsCacheStore.list, reg)
  | _, .clear_cache =>
      match reg.live_cache with
      | some store => (store.clear.1, reg.store_cache store.clear.2)
      | none => (0, reg)
  | _, .clear_config config_id =>
      match reg.live_cache with
      | some store =>
        ((store.clear_config config_id).1, reg.store_cache (store.clear_config config_id).2)
      | none => (0, reg)

/-- Answer sections one after the other, with nothing in between. -/
def RegOp.sequential (now : Nat) : Handler RegOp SessionRegistry := fun op reg => some (op.run now reg)

/-- An answered section has done what it does. -/
theorem RegOp.run_of_apply {reg reg' : SessionRegistry} {β : Type} {op : RegOp β} {answer : β}
    {now : Nat} (answered : op.apply now reg = some (answer, reg')) :
    op.run now reg = (answer, reg') := by
  cases op with
  | register | mark_disconnected | mark_disconnected_if_generation | bump_last_call | remove
  | remove_if_generation | update_tools | sweep_expired_disconnects | snapshot | get =>
    rw [RegOp.apply] at answered
    split at answered
    · cases answered
    · exact Option.some.inj answered
  | unlock | mark_tools_changed | mark_session_changed | list_cache =>
    exact Option.some.inj answered
  | evict_expired | put_cache | clear_cache | clear_config =>
    simp only [RegOp.apply] at answered
    simp only [RegOp.run]
    cases live : reg.live_cache with
    | none | some store =>
      rw [live] at answered
      exact Option.some.inj answered

/-- While the lock is free, a section is answered. -/
theorem RegOp.apply_of_free {reg : SessionRegistry} (free : reg.locked = false) {β : Type}
    (op : RegOp β) (now : Nat) : op.apply now reg = some (op.run now reg) := by
  cases op with
  | register | mark_disconnected | mark_disconnected_if_generation | bump_last_call | remove
  | remove_if_generation | update_tools | sweep_expired_disconnects | snapshot | get =>
    rw [RegOp.apply, if_neg (by rw [free]; decide), RegOp.run]
  | unlock | mark_tools_changed | mark_session_changed | list_cache => rfl
  | evict_expired | put_cache | clear_cache | clear_config =>
    rw [RegOp.apply, RegOp.run]
    cases reg.live_cache <;> rfl

/-! ## Changes of a record -/

structure Registration where
  params : SessionRegisterParams
  connection : Option Nat
  generation : Nat

def Registration.uid (r : Registration) : String := r.params.client_uid

/-- The registration a section accepted. -/
def RegOp.registration : ∀ {β : Type}, RegOp β → β → Option Registration
  | _, .register params _ connection, .ok (_, generation) => some { params, connection, generation }
  | _, _, _ => none

/-- The section registers another uid, or none. -/
def RegOp.spares {β : Type} (op : RegOp β) (answer : β) (uid : String) : Prop :=
  ∀ r, op.registration answer = some r → r.uid ≠ uid

/-- What a section does to the record of a uid: the section and its answer, and the record
before and after it. -/
inductive Changed (reg : SessionRegistry) (uid : String) :
    ∀ {β : Type}, RegOp β → β → Option SessionRecord → Option SessionRecord → Prop
  | kept {β : Type} {op : RegOp β} {answer : β} (record : Option SessionRecord)
      (spared : op.spares answer uid) : Changed reg uid op answer record record
  | created {params : SessionRegisterParams} {now : Nat} {connection : Option Nat}
      (own : params.client_uid = uid) :
    Changed reg uid (.register params now connection) (.ok (.Created, reg.next_generation)) none
      (some (reg.new_record params now connection))
  | reconnected {params : SessionRegisterParams} {now : Nat} {connection : Option Nat}
      {existing : SessionRecord} (own : params.client_uid = uid)
      (state : existing.state = .Disconnected) :
    Changed reg uid (.register params now connection) (.ok (.Reconnected, reg.next_generation))
      (some existing) (some (reg.reconnected existing params connection))
  | disconnected {now : Nat} {record : SessionRecord} (state : record.state = .Active) :
    Changed reg uid (.mark_disconnected uid now) (some (record.connection, record.dispatcher))
      (some record) (some (record.disconnected now))
  | disconnected_if {now : Nat} {record : SessionRecord} (state : record.state = .Active) :
    Changed reg uid (.mark_disconnected_if_generation uid record.connection_generation now)
      (some (record.connection, record.dispatcher)) (some record) (some (record.disconnected now))
  | touched {now : Nat} {record : SessionRecord} :
    Changed reg uid (.bump_last_call uid now) true (some record)
      (some { record with last_call_at := now })
  | retooled {tools : List ToolDescriptor} {record : SessionRecord} (differ : record.tools ≠ tools) :
    Changed reg uid (.update_tools uid tools) (some (false, record.kind, record.config_id))
      (some record) (some { record with tools })
  | removed {record : SessionRecord} : Changed reg uid (.remove uid) (some record) (some record) none
  | removed_if {record : SessionRecord} :
    Changed reg uid (.remove_if_generation uid record.connection_generation) (some record)
      (some record) none
  | swept {now grace : Nat} {uids : List String} {record : SessionRecord}
      (state : record.state = .Disconnected) :
    Changed reg uid (.sweep_expired_disconnects now grace) uids (some record) none

variable {reg : SessionRegistry} {uid : String}

theorem RegOp.spares_of_none {β : Type} {op : RegOp β} {answer : β}
    (unregistered : op.registration answer = none) : op.spares answer uid := by
  intro r registered
  rw [unregistered] at registered
  cases registered

/-- A section that files a record under one uid leaves all others alone. -/
theorem Changed.of_insert {β : Type} {op : RegOp β} {answer : β} {session_id : String}
    {record : SessionRecord} (own : ∀ r, op.registration answer = some r → r.uid = session_id)
    (here : session_id = uid → Changed reg uid op answer (reg.inner.get session_id) (some record)) :
    Changed reg uid op answer (reg.inner.get uid)
      ((reg.inner.insert session_id record).get uid) := by
  rw [HashMap.get_insert]
  split
  · rename_i same
    subst same
    exact here rfl
  · rename_i other
    exact .kept _ fun r some same => other (same.symm.trans (own r some))

theorem Changed.of_remove {β : Type} {op : RegOp β} {answer : β} {session_id : String}
    (unregistered : op.registration answer = none)
    (here : session_id = uid → Changed reg uid op answer (reg.inner.get session_id) none) :
    Changed reg uid op answer (reg.inner.get uid) ((reg.remove session_id).inner.get uid) := by
  rw [SessionRegistry.remove, HashMap.get_remove]
  split
  · rename_i same
    subst same
    exact here rfl
  · exact .kept _ (RegOp.spares_of_none unregistered)

theorem SessionRegistry.disconnected_of_expired {record : SessionRecord} {now grace : Nat}
    (expired : SessionRegistry.expired record now grace = true) : record.state = .Disconnected := by
  unfold SessionRegistry.expired at expired
  split at expired
  · assumption
  · cases expired

/-- A section that registers nothing keeps the record. -/
theorem Changed.still {β : Type} {op : RegOp β} {answer : β} {record : Option SessionRecord}
    (unregistered : op.registration answer = none) : Changed reg uid op answer record record :=
  .kept _ (RegOp.spares_of_none unregistered)

theorem RegOp.changed_run {β : Type} (op : RegOp β) (now : Nat) (reg : SessionRegistry) (uid : String) :
    Changed reg uid op (op.run now reg).1 (reg.inner.get uid)
      ((op.run now reg).2.inner.get uid) := by
  cases op with
  | register params instant connection =>
    have own (outcome : RegisterOutcome) (r : Registration) (some :
        (RegOp.register params instant connection).registration
          (.ok (outcome, reg.next_generation)) = some r) : r.uid = params.client_uid := by
      cases some
      rfl
    simp only [run]
    unfold SessionRegistry.register
    split
    · rename_i existing found
      cases state : existing.state with
      | Active => exact .still rfl
      | Disconnected =>
        refine Changed.of_insert (own _) fun same => ?_
        rw [found]
        exact .reconnected same state
    · rename_i absent
      refine Changed.of_insert (own _) fun same => ?_
      rw [absent]
      exact .created same
  | mark_disconnected session_id instant =>
    simp only [run]
    unfold SessionRegistry.disconnect_any
    split
    · rename_i record found
      simp only [SessionRegistry.disconnect, found]
      split
      · rename_i expected
        refine Changed.of_insert (fun r some => by cases some) fun same => ?_
        subst same
        rw [found]
        exact .disconnected expected.1
      · exact .still rfl
    · exact .still rfl
  | mark_disconnected_if_generation session_id expected_generation instant =>
    simp only [run]
    unfold SessionRegistry.disconnect
    split
    · rename_i record found
      split
      · rename_i expected
        obtain ⟨state, generation⟩ := expected
        subst generation
        refine Changed.of_insert (fun r some => by cases some) fun same => ?_
        subst same
        rw [found]
        exact .disconnected_if state
      · exact .still rfl
    · exact .still rfl
  | bump_last_call session_id instant =>
    simp only [run]
    unfold SessionRegistry.touch
    split
    · rename_i record found
      refine Changed.of_insert (fun r some => by cases some) fun same => ?_
      subst same
      rw [found]
      exact .touched
    · exact .still rfl
  | remove session_id =>
    refine Changed.of_remove rfl fun same => ?_
    subst same
    simp only [run]
    cases reg.inner.get session_id with
    | none => exact .still rfl
    | some record => exact .removed
  | remove_if_generation session_id expected_generation =>
    simp only [run]
    unfold SessionRegistry.take
    split
    · rename_i record found
      split
      · rename_i generation
        refine Changed.of_remove rfl fun same => ?_
        subst same generation
        rw [found]
        exact .removed_if
      · exact .still rfl
    · exact .still rfl
  | update_tools session_id tools =>
    simp only [run]
    unfold SessionRegistry.replace_tools
    split
    · rename_i record found
      cases same : record.tools == tools with
      | true => exact .still rfl
      | false =>
        refine Changed.of_insert (fun r some => by cases some) fun here => ?_
        subst here
        rw [found]
        exact .retooled (beq_eq_false_iff_ne.mp same)
    · exact .still rfl
  | sweep_expired_disconnects instant grace =>
    simp only [run, SessionRegistry.sweep, HashMap.get_retain]
    cases reg.inner.get uid with
    | none => exact .still rfl
    | some record =>
      cases expired : SessionRegistry.expired record instant grace with
      | true =>
        simp only [Option.filter_some, expired, Bool.not_true]
        exact .swept (SessionRegistry.disconnected_of_expired expired)
      | false =>
        simp only [Option.filter_some, expired, Bool.not_false]
        exact .still rfl
  | evict_expired | put_cache | clear_cache | clear_config =>
    simp only [run]
    split <;> exact .still rfl
  | unlock | mark_tools_changed | mark_session_changed | snapshot | get | list_cache =>
    exact .still rfl

/-- **What a section does to the record of a uid.** -/
theorem RegOp.changed {β : Type} {op : RegOp β} {answer : β} {now : Nat} {reg' : SessionRegistry}
    (ran : op.run now reg = (answer, reg')) (uid : String) :
    Changed reg uid op answer (reg.inner.get uid) (reg'.inner.get uid) := by
  have changed := op.changed_run now reg uid
  rwa [ran] at changed

/-! ## The cache -/

/-- A section of the tools cache. -/
def RegOp.caches : ∀ {β : Type}, RegOp β → Prop
  | _, .evict_expired | _, .put_cache .. | _, .clear_cache | _, .clear_config _ => True
  | _, _ => False

/-- The sections of the registry leave the cache alone. -/
theorem RegOp.tools_cache_run {β : Type} (op : RegOp β) (now : Nat) (reg : SessionRegistry)
    (other : ¬ op.caches) : (op.run now reg).2.tools_cache = reg.tools_cache := by
  cases op with
  | register params instant connection =>
    simp only [run, SessionRegistry.register]
    split
    · rename_i existing found
      cases existing.state <;> rfl
    · rfl
  | mark_disconnected | mark_disconnected_if_generation | bump_last_call | remove_if_generation =>
    simp only [run, SessionRegistry.disconnect_any, SessionRegistry.disconnect,
      SessionRegistry.touch, SessionRegistry.take]
    repeat' split
    all_goals rfl
  | update_tools session_id tools =>
    simp only [run, SessionRegistry.replace_tools]
    split
    · rename_i record found
      cases record.tools == tools <;> rfl
    · rfl
  | evict_expired | put_cache | clear_cache | clear_config => exact (other trivial).elim
  | remove | sweep_expired_disconnects | unlock | mark_tools_changed | mark_session_changed
  | snapshot | get | list_cache => rfl

/-- The entry is one that this section puts into the cache. -/
def RegOp.puts (entry : ToolsCacheEntry) : ∀ {β : Type}, RegOp β → Prop
  | _, .put_cache kind config_id tools =>
      entry.kind = kind ∧ entry.config_id = config_id ∧ entry.tools = tools
  | _, _ => False

def RegOp.evicts : ∀ {β : Type}, RegOp β → Prop
  | _, .evict_expired => True
  | _, _ => False

/-- **What a section does to the cache**: entries it finds are kept or dropped, others are put. -/
theorem RegOp.cached {β : Type} {op : RegOp β} {answer : β} {now : Nat} {reg reg' : SessionRegistry}
    (ran : op.run now reg = (answer, reg')) {store' : ToolsCacheStore}
    (here : reg'.tools_cache = some store') :
    ∃ store, reg.tools_cache = some store ∧ store'.enabled = store.enabled ∧
      store'.life = store.life ∧ ∀ key entry, store'.inner.get key = some entry →
        op.puts entry ∨ store.inner.get key = some entry ∧
          (op.evicts → store.enabled = true → now - entry.last_seen_at ≤ store.life) := by
  by_cases caches : op.caches
  · cases op with
    | evict_expired =>
      simp only [run] at ran
      split at ran
      · rename_i store live
        cases ran
        cases here
        refine ⟨store, (Option.filter_eq_some_iff.mp live).1, rfl, rfl, fun key entry found => ?_⟩
        simp only [ToolsCacheStore.evict_expired, HashMap.get_retain, Option.filter_eq_some_iff,
          decide_eq_true_eq] at found
        exact .inr ⟨found.1, fun _ _ => found.2⟩
      · rename_i off
        cases ran
        refine ⟨store', here, rfl, rfl, fun key entry found => .inr ⟨found, fun _ enabled => ?_⟩⟩
        have live : reg.live_cache = some store' := Option.filter_eq_some_iff.mpr ⟨here, enabled⟩
        rw [off] at live
        cases live
    | put_cache kind config_id tools =>
      simp only [run] at ran
      split at ran
      · rename_i store live
        cases ran
        cases here
        refine ⟨store, (Option.filter_eq_some_iff.mp live).1, rfl, rfl, fun key entry found => ?_⟩
        simp only [ToolsCacheStore.put, HashMap.get_insert] at found
        split at found
        · cases found
          exact .inl ⟨rfl, rfl, rfl⟩
        · exact .inr ⟨found, fun evicts => evicts.elim⟩
      · cases ran
        exact ⟨store', here, rfl, rfl, fun key entry found => .inr ⟨found, fun evicts => evicts.elim⟩⟩
    | clear_cache =>
      simp only [run] at ran
      split at ran
      · rename_i store live
        cases ran
        cases here
        refine ⟨store, (Option.filter_eq_some_iff.mp live).1, rfl, rfl, fun key entry found => ?_⟩
        cases found
      · cases ran
        exact ⟨store', here, rfl, rfl, fun key entry found => .inr ⟨found, fun evicts => evicts.elim⟩⟩
    | clear_config config_id =>
      simp only [run] at ran
      split at ran
      · rename_i store live
        cases ran
        cases here
        refine ⟨store, (Option.filter_eq_some_iff.mp live).1, rfl, rfl, fun key entry found => ?_⟩
        exact .inr ⟨HashMap.get_of_retain found, fun evicts => evicts.elim⟩
      · cases ran
        exact ⟨store', here, rfl, rfl, fun key entry found => .inr ⟨found, fun evicts => evicts.elim⟩⟩
    | _ => exact caches.elim
  · have same := op.tools_cache_run now reg caches
    rw [ran] at same
    refine ⟨store', same ▸ here, rfl, rfl, fun key entry found => .inr ⟨found, fun evicts => ?_⟩⟩
    cases op with
    | evict_expired => exact (caches trivial).elim
    | _ => exact evicts.elim

end SessionManager
