import SessionManager.ToolsCache.Operations

/-!
# Writers of the cache's file

`persist` takes its snapshot under the lock and writes it after giving the lock back.  Every
change is followed by a snapshot of its own, so memory has what the newest snapshot has; the file
has what was written last.  Once all calls have returned the two agree exactly if the newest
snapshot was not overtaken by an older one with other tools (`file_agrees_iff`).
-/

namespace SessionManager

open Effect

/-- A map has the tools of another. -/
def SameTools (a b : HashMap (String × String) ToolsCacheEntry) : Prop :=
  ∀ key, (a.get key).map ToolsCacheEntry.tools = (b.get key).map ToolsCacheEntry.tools

theorem SameTools.refl (a : HashMap (String × String) ToolsCacheEntry) : SameTools a a :=
  fun _ => rfl

theorem SameTools.symm {a b : HashMap (String × String) ToolsCacheEntry} (same : SameTools a b) :
    SameTools b a :=
  fun key => (same key).symm

theorem SameTools.trans {a b c : HashMap (String × String) ToolsCacheEntry} (first : SameTools a b)
    (second : SameTools b c) : SameTools a c :=
  fun key => (first key).trans (second key)

namespace CacheOp

/-- The section changed which tools are cached. -/
def changes : ∀ {β : Type}, CacheOp β → β → Bool
  | _, .evict_expired _, removed_any => removed_any
  | _, .put .., changed => changed
  | _, .clear, removed | _, .clear_config _, removed => removed > 0
  | _, _, _ => false

/-- The snapshot that was taken. -/
def taken : ∀ {β : Type}, CacheOp β → β → Option PersistedCache
  | _, .snapshot, snap => some snap
  | _, _, _ => none

/-- The snapshot that is written. -/
def written : ∀ {β : Type}, CacheOp β → Option PersistedCache
  | _, .write_json_atomic snap => some snap
  | _, _ => none

end CacheOp

section Sections

variable {rfc3339 : Nat → String} {w w' : CacheWorld} {β : Type} {op : CacheOp β} {answer : β}

theorem CacheOp.keyed_apply (keyed : w.store.keyed) (answered : op.apply rfc3339 w = (answer, w')) :
    w'.store.keyed := by
  cases op with
  | evict_expired =>
    cases answered
    exact keyed.evict_expired
  | put =>
    cases answered
    exact keyed.put
  | clear =>
    cases answered
    exact ToolsCacheStore.keyed_clear
  | clear_config =>
    cases answered
    exact keyed.clear_config
  | utc_now | list | snapshot | write_json_atomic | notifier_hook =>
    cases answered
    exact keyed

/-- A section that reports no change keeps the tools of every key. -/
theorem CacheOp.same_tools_apply (answered : op.apply rfc3339 w = (answer, w'))
    (unchanged : op.changes answer = false) : SameTools w'.store.inner w.store.inner := by
  intro key
  cases op with
  | evict_expired now =>
    cases answered
    exact congrArg _ (congrArg (fun store : ToolsCacheStore => store.inner.get key)
      (ToolsCacheStore.evict_expired_unevicted unchanged))
  | put kind config_id tools =>
    cases answered
    have same : (w.store.inner.get (kind, config_id)).map ToolsCacheEntry.tools = some tools := by
      by_contra other
      have changed : (w.store.put kind config_id tools (w.clock w.reads)).1 = true :=
        ToolsCacheStore.put_changed_iff.mpr other
      exact Bool.false_ne_true (unchanged.symm.trans changed)
    apply (congrArg _ (ToolsCacheStore.get_put key)).trans
    split
    · rename_i here
      rw [here, same]
      rfl
    · rfl
  | clear =>
    cases answered
    have unremoved : w.store.clear.1 = 0 :=
      Nat.le_zero.mp (Nat.not_lt.mp (of_decide_eq_false unchanged))
    exact congrArg _ (congrArg (fun store : ToolsCacheStore => store.inner.get key)
      (ToolsCacheStore.clear_unremoved unremoved))
  | clear_config config_id =>
    cases answered
    have unremoved : (w.store.clear_config config_id).1 = 0 :=
      Nat.le_zero.mp (Nat.not_lt.mp (of_decide_eq_false unchanged))
    exact congrArg _ (congrArg (fun store : ToolsCacheStore => store.inner.get key)
      (ToolsCacheStore.clear_config_unremoved unremoved))
  | utc_now | list | snapshot | write_json_atomic | notifier_hook =>
    cases answered
    rfl

end Sections

/-! ## The phases of a call -/

/-- What a call has to do before it returns. -/
inductive PersistPhase
  | idle
  /-- It has changed entries and taken no snapshot since. -/
  | owes
  | holds (snap : PersistedCache)

def persistProtocol : Protocol CacheOp PersistPhase where
  allows phase _ op :=
    match phase, op with
    | .holds snap, .write_json_atomic snap' => snap' = snap
    | .holds _, _ => False
    | .owes, .snapshot => True
    | .owes, _ => False
    | .idle, .write_json_atomic _ => False
    | .idle, _ => True
  next phase _ op :=
    match op with
    | .snapshot => fun snap => .holds snap
    | .write_json_atomic _ => fun _ => .idle
    | op => fun answer => if op.changes answer then .owes else phase

section Follows

/-- The call has done what it owed. -/
def AllPersisted {α : Type} (phase : PersistPhase) (_ : α) : Prop := phase = .idle

theorem tools_cache.persist_follows {phase : PersistPhase} (free : phase = .idle ∨ phase = .owes) :
    persistProtocol.Follows AllPersisted phase (tools_cache.persist true) := by
  rcases free with rfl | rfl
  · exact ⟨trivial, fun snap => ⟨rfl, fun _ => rfl⟩⟩
  · exact ⟨trivial, fun snap => ⟨rfl, fun _ => rfl⟩⟩

theorem tools_cache.evict_expired_follows :
    persistProtocol.Follows AllPersisted .idle (tools_cache.evict_expired true) := by
  refine ⟨trivial, fun now => ⟨trivial, fun removed_any => ?_⟩⟩
  cases removed_any with
  | false => exact rfl
  | true =>
    refine (tools_cache.persist_follows (.inr rfl)).bind fun phase _ settled => ?_
    cases settled
    exact ⟨trivial, fun _ => rfl⟩

theorem tools_cache.upsert_follows (kind config_id : String) (tools : List ToolDescriptor) :
    persistProtocol.Follows AllPersisted .idle (tools_cache.upsert true kind config_id tools) := by
  refine tools_cache.evict_expired_follows.bind fun phase evicted settled => ?_
  cases settled
  refine ⟨trivial, fun changed => ?_⟩
  cases changed with
  | false =>
    cases evicted with
    | false => exact rfl
    | true => exact (tools_cache.persist_follows (.inl rfl)).bind fun phase _ settled => settled
  | true =>
    refine (tools_cache.persist_follows (.inr rfl)).bind fun phase _ settled => ?_
    cases settled
    exact ⟨trivial, fun _ => rfl⟩

theorem tools_cache.announce_removed_follows (removed : Nat) :
    persistProtocol.Follows AllPersisted (if decide (removed > 0) then .owes else .idle)
      (tools_cache.announce_removed true removed) := by
  rw [tools_cache.announce_removed]
  by_cases some : removed > 0
  · rw [if_pos some, if_pos (decide_eq_true some)]
    refine (tools_cache.persist_follows (.inr rfl)).bind fun phase _ settled => ?_
    cases settled
    exact ⟨trivial, fun _ => rfl⟩
  · rw [if_neg some, if_neg (by rwa [decide_eq_true_eq])]
    exact rfl

theorem StoreCall.follows (c : StoreCall) :
    persistProtocol.Follows AllPersisted .idle (c.run true) := by
  cases c with
  | upsert kind config_id tools =>
    exact (tools_cache.upsert_follows kind config_id tools).bind fun phase _ settled => settled
  | list_all =>
    have follows : persistProtocol.Follows AllPersisted .idle (tools_cache.list_all true) := by
      refine tools_cache.evict_expired_follows.bind fun phase _ settled => ?_
      cases settled
      exact ⟨trivial, fun _ => rfl⟩
    exact follows.bind fun phase _ settled => settled
  | reset_all =>
    have follows : persistProtocol.Follows AllPersisted .idle (tools_cache.reset_all true) :=
      ⟨trivial, fun removed => (tools_cache.announce_removed_follows removed).bind
        fun phase _ settled => settled⟩
    exact follows.bind fun phase _ settled => settled
  | reset_by_config_id config_id =>
    have follows : persistProtocol.Follows AllPersisted .idle
        (tools_cache.reset_by_config_id true config_id) :=
      ⟨trivial, fun removed => (tools_cache.announce_removed_follows removed).bind
        fun phase _ settled => settled⟩
    exact follows.bind fun phase _ settled => settled

end Follows

/-! ## Memory and the newest snapshot -/

section Runs

variable {ι : Type} [DecidableEq ι] {rfc3339 : Nat → String}
  {from_str : String → Option PersistedCache}

/-- Sections and writes are atomic, and writes succeed. -/
def cacheSemantics (rfc3339 : Nat → String) : Semantics ι CacheOp CacheWorld :=
  fun _ w _ op answer w' => op.apply rfc3339 w = (answer, w')

def cachePool (w : CacheWorld) (calls : ι → StoreCall) :
    Pool ι CacheOp CacheWorld StoreValue where
  shared := w
  thread i := (calls i).run true

/-- The snapshots that were taken, and those that were written, in order. -/
def snapshots (tr : List (PoolEvent ι CacheOp)) : List PersistedCache :=
  tr.filterMap fun ev => ev.event.request.taken ev.event.answer

def writes (tr : List (PoolEvent ι CacheOp)) : List PersistedCache :=
  tr.filterMap fun ev => ev.event.request.written

/-- The newest of some snapshots, or the entries there were before. -/
def newest (before : HashMap (String × String) ToolsCacheEntry) (snaps : List PersistedCache) :
    HashMap (String × String) ToolsCacheEntry :=
  (snaps.getLast?.map PersistedCache.inner).getD before

@[simp] theorem newest_snoc (before : HashMap (String × String) ToolsCacheEntry)
    (snaps : List PersistedCache) (snap : PersistedCache) :
    newest before (snaps ++ [snap]) = snap.inner := by
  rw [newest, List.getLast?_concat]
  rfl

/-- What holds after every step: memory has the newest snapshot unless a call still owes one, and
the file has the snapshot that was written last. -/
structure Persisting (rfc3339 : Nat → String) (from_str : String → Option PersistedCache)
    (before : HashMap (String × String) ToolsCacheEntry) (phase : ι → PersistPhase) (w : CacheWorld)
    (past : List (PoolEvent ι CacheOp)) : Prop where
  keyed : w.store.keyed
  memory : SameTools w.store.inner (newest before (snapshots past)) ∨ ∃ i, phase i = .owes
  version : ∀ i snap, phase i = .holds snap → snap.version = FORMAT_VERSION
  file : (∀ snap ∈ writes past, from_str (snap.text rfc3339) = some snap) →
    load_from_disk from_str w.file = newest before (writes past)

variable {before : HashMap (String × String) ToolsCacheEntry} {phase : ι → PersistPhase}
  {w w' : CacheWorld} {past : List (PoolEvent ι CacheOp)}

/-- A step that neither takes nor writes a snapshot. -/
theorem Persisting.step_other (held : Persisting rfc3339 from_str before phase w past) {i : ι}
    {β : Type} {op : CacheOp β} {answer : β} (answered : op.apply rfc3339 w = (answer, w'))
    (untaken : op.taken answer = none) (unwritten : op.written = none) (same : w'.file = w.file) :
    Persisting rfc3339 from_str before
      (Function.update phase i (if op.changes answer then .owes else phase i)) w'
      (past ++ [⟨i, ⟨op, answer⟩⟩]) := by
  have taken : snapshots (past ++ [⟨i, ⟨op, answer⟩⟩]) = snapshots past := by
    simp only [snapshots, List.filterMap_append, List.filterMap_cons, untaken, List.filterMap_nil,
      List.append_nil]
  have written : writes (past ++ [⟨i, ⟨op, answer⟩⟩]) = writes past := by
    simp only [writes, List.filterMap_append, List.filterMap_cons, unwritten, List.filterMap_nil,
      List.append_nil]
  refine ⟨op.keyed_apply held.keyed answered, ?_, ?_, ?_⟩
  · rw [taken]
    cases changed : op.changes answer with
    | true => exact .inr ⟨i, by rw [Function.update_self, if_pos rfl]⟩
    | false =>
      rw [if_neg Bool.false_ne_true, Function.update_eq_self]
      exact held.memory.imp_left (op.same_tools_apply answered changed).trans
  · intro j snap holds
    by_cases here : j = i
    · subst here
      rw [Function.update_self] at holds
      split at holds
      · cases holds
      · exact held.version j snap holds
    · rw [Function.update_of_ne here] at holds
      exact held.version j snap holds
  · rw [written, same]
    exact held.file

/-- A snapshot has what memory has. -/
theorem Persisting.step_snapshot (held : Persisting rfc3339 from_str before phase w past) (i : ι) :
    Persisting rfc3339 from_str before (Function.update phase i (.holds w.store.snapshot)) w
      (past ++ [⟨i, ⟨.snapshot, w.store.snapshot⟩⟩]) := by
  have taken : snapshots (past ++ [⟨i, ⟨.snapshot, w.store.snapshot⟩⟩]) =
      snapshots past ++ [w.store.snapshot] := List.filterMap_append ..
  have written : writes (past ++ [⟨i, ⟨.snapshot, w.store.snapshot⟩⟩]) = writes past :=
    (List.filterMap_append ..).trans (List.append_nil _)
  refine ⟨held.keyed, .inl ?_, ?_, ?_⟩
  · rw [taken, newest_snoc]
    intro key
    rw [held.keyed.get_snapshot]
  · intro j snap holds
    by_cases here : j = i
    · subst here
      rw [Function.update_self] at holds
      cases holds
      rfl
    · rw [Function.update_of_ne here] at holds
      exact held.version j snap holds
  · rw [written]
    exact held.file

theorem Persisting.step_write (held : Persisting rfc3339 from_str before phase w past) {i : ι}
    {snap : PersistedCache} (holds : phase i = .holds snap) :
    Persisting rfc3339 from_str before (Function.update phase i .idle)
      { w with file := some (snap.text rfc3339) }
      (past ++ [⟨i, ⟨.write_json_atomic snap, true⟩⟩]) := by
  have taken : snapshots (past ++ [⟨i, ⟨.write_json_atomic snap, true⟩⟩]) = snapshots past :=
    (List.filterMap_append ..).trans (List.append_nil _)
  have written : writes (past ++ [⟨i, ⟨.write_json_atomic snap, true⟩⟩]) = writes past ++ [snap] :=
    List.filterMap_append ..
  refine ⟨held.keyed, ?_, ?_, ?_⟩
  · rw [taken]
    apply held.memory.imp_right
    intro owing
    obtain ⟨j, owes⟩ := owing
    have other : j ≠ i := by
      intro same
      rw [same, holds] at owes
      cases owes
    exact ⟨j, by rw [Function.update_of_ne other, owes]⟩
  · intro j snap' holds'
    by_cases here : j = i
    · subst here
      rw [Function.update_self] at holds'
      cases holds'
    · rw [Function.update_of_ne here] at holds'
      exact held.version j snap' holds'
  · intro read
    rw [written] at read ⊢
    rw [newest_snoc]
    exact ToolsCacheStore.load_of_read
      (read snap (List.mem_append_right _ (List.mem_singleton_self _))) (held.version i snap holds)

/-- One step of a call. -/
theorem Persisting.step (held : Persisting rfc3339 from_str before phase w past) {i : ι} {β : Type}
    {op : CacheOp β} {answer : β} (allowed : persistProtocol.allows (phase i) op)
    (answered : op.apply rfc3339 w = (answer, w')) :
    Persisting rfc3339 from_str before
      (Function.update phase i (persistProtocol.next (phase i) op answer)) w'
      (past ++ [⟨i, ⟨op, answer⟩⟩]) := by
  cases op with
  | snapshot =>
    cases answered
    exact held.step_snapshot i
  | write_json_atomic snap =>
    cases answered
    generalize here : phase i = own at allowed
    cases own with
    | holds snap' =>
      cases allowed
      exact held.step_write here
    | idle | owes => exact allowed.elim
  | utc_now | evict_expired | put | clear | clear_config | list | notifier_hook =>
    have same : w'.file = w.file := by cases answered; rfl
    exact held.step_other answered rfl rfl same

/-- **The file and memory.**  Once all calls on an opened store have returned, the file has the
tools that memory has exactly if the snapshot written last has the tools of the one taken last. -/
theorem file_agrees_iff {cfg : ToolsCacheConfig} (enabled : cfg.enabled = true)
    {file : Option String} {clock : Nat → Nat} {calls : ι → StoreCall}
    {tr : List (PoolEvent ι CacheOp)} {q : Pool ι CacheOp CacheWorld StoreValue}
    (run : Pool.Run (cacheSemantics rfc3339) (cachePool (.open cfg from_str file clock) calls) tr q)
    (returned : ∀ i, ∃ value, q.thread i = .ret value)
    (reads_back : ∀ snap ∈ writes tr, from_str (snap.text rfc3339) = some snap) :
    SameTools (load_from_disk from_str q.shared.file) q.shared.store.inner ↔
      SameTools (newest (load_from_disk from_str file) (writes tr))
        (newest (load_from_disk from_str file) (snapshots tr)) := by
  have opened : (CacheWorld.open cfg from_str file clock).store.inner =
      load_from_disk from_str file := if_pos enabled
  have start : Persisting rfc3339 from_str (load_from_disk from_str file)
      (fun _ : ι => .idle) (.open cfg from_str file clock) [] := by
    refine ⟨ToolsCacheStore.keyed_load_or_empty file, .inl ?_, nofun, fun _ => rfl⟩
    rw [opened]
    exact SameTools.refl _
  obtain ⟨held, follows⟩ := run.invariant (fun i => (calls i).follows) start
    fun op answer held allowed answered => held.step allowed answered
  have memory : SameTools q.shared.store.inner
      (newest (load_from_disk from_str file) (snapshots tr)) := by
    apply held.memory.resolve_right
    intro owing
    obtain ⟨i, owes⟩ := owing
    obtain ⟨value, done⟩ := returned i
    have settled := Pool.Run.returned follows done
    cases settled.symm.trans owes
  rw [held.file reads_back]
  exact ⟨fun same => same.trans memory, fun same => same.trans memory.symm⟩

end Runs

/-! ## A reset that is undone -/

/-- One call notes tools, the other resets the cache. -/
def upsert_and_reset : Bool → StoreCall
  | true => .upsert "client" "client" []
  | false => .reset_all

def client_file (entries : Nat) : PersistedCache where
  version := FORMAT_VERSION
  entries := List.replicate entries
    { kind := "client", config_id := "client", tools := [], last_seen_at := 0 }

def read_client (text : String) : Option PersistedCache :=
  [client_file 0, client_file 1].find? fun snap => snap.text print_second == text

def reset_and_upsert_pool : Pool Bool CacheOp CacheWorld StoreValue :=
  cachePool (.open five_days read_client none fun _ => 0) upsert_and_reset

/-- The reset clears the store and writes the file between the snapshot and the write of the
`upsert`. -/
def overtaken : List (PoolEvent Bool CacheOp) × Pool Bool CacheOp CacheWorld StoreValue :=
  Pool.play (fun _ w _ op => some (op.apply print_second w))
    [true, true, true, true, false, false, false, false, true, true] reset_and_upsert_pool

theorem overtaken_run :
    Pool.Run (cacheSemantics print_second) reset_and_upsert_pool overtaken.1 overtaken.2 :=
  Pool.Run.play (fun _ _ _ _ _ _ answered => Option.some.inj answered) _ _

theorem overtaken_returned (i : Bool) : ∃ value, overtaken.2.thread i = .ret value := by
  cases i with
  | true | false => exact ⟨_, rfl⟩

theorem writes_overtaken : writes overtaken.1 = [client_file 0, client_file 1] :=
  congrArg₂ (fun first second => [PersistedCache.mk FORMAT_VERSION first, ⟨FORMAT_VERSION, second⟩])
    List.mergeSort_nil (List.mergeSort_singleton _)

theorem overtaken_reads_back (snap : PersistedCache) (written : snap ∈ writes overtaken.1) :
    read_client (snap.text print_second) = some snap := by
  have read : ∀ snap ∈ [client_file 0, client_file 1],
      read_client (snap.text print_second) = some snap := by
    decide
  rw [writes_overtaken] at written
  exact read snap written

/-- The file has an entry that the store does not have any more. -/
theorem overtaken_reset_is_undone :
    Pool.Run (cacheSemantics print_second) reset_and_upsert_pool overtaken.1 overtaken.2 ∧
      (∀ i, ∃ value, overtaken.2.thread i = .ret value) ∧
      (∀ snap ∈ writes overtaken.1, read_client (snap.text print_second) = some snap) ∧
      ¬ SameTools (load_from_disk read_client overtaken.2.shared.file)
        overtaken.2.shared.store.inner := by
  refine ⟨overtaken_run, overtaken_returned, overtaken_reads_back, fun same => ?_⟩
  have file : overtaken.2.shared.file = some ((client_file 1).text print_second) :=
    congrArg (fun entries => some ((PersistedCache.mk FORMAT_VERSION entries).text print_second))
      (List.mergeSort_singleton _)
  have read : read_client ((client_file 1).text print_second) = some (client_file 1) := by decide
  have here := same ("client", "client")
  rw [file, ToolsCacheStore.load_of_read read rfl] at here
  cases here

theorem file_agrees_iff_overtaken :
    SameTools (load_from_disk read_client overtaken.2.shared.file)
        overtaken.2.shared.store.inner ↔
      SameTools (newest (load_from_disk read_client none) (writes overtaken.1))
        (newest (load_from_disk read_client none) (snapshots overtaken.1)) :=
  file_agrees_iff rfl overtaken_run overtaken_returned overtaken_reads_back

end SessionManager
