import SessionManager.Json.Texts
import SessionManager.ToolsCache.Operations

/-!
# The file of the tools cache

`serde` reads the structures of the file from the text that `persist` writes.  A store comes back
as it was exactly if the file is not nested too deep for `serde_json` and the floats of the schemas
are read as they were printed.
-/

namespace SessionManager

open Json Effect

/-! ## Reading the file -/

section Reading

variable (from_rfc3339 : String → Option Nat)

def ToolsCacheEntry.from_value (value : Value) : Option ToolsCacheEntry := do
  let fields ← known_members ["kind", "config_id", "tools", "last_seen_at"] value
  let kind ← string_field fields "kind"
  let config_id ← string_field fields "config_id"
  let tools ← tools_field fields
  let last_seen_at ← (string_field fields "last_seen_at").bind from_rfc3339
  return { kind, config_id, tools, last_seen_at }

def PersistedCache.from_value (value : Value) : Option PersistedCache := do
  let fields ← known_members ["version", "entries"] value
  let version ← u32_field fields "version"
  let entries ← ((field fields "entries").bind Value.as_array).bind
    fun items => items.mapM (ToolsCacheEntry.from_value from_rfc3339)
  return { version, entries }

/-- `serde_json::from_str`, where `parse` reads a value as its members stand in the text. -/
def PersistedCache.from_str (parse : String → Option Value) (text : String) : Option PersistedCache :=
  (parse text).bind (PersistedCache.from_value from_rfc3339)

end Reading

/-! ## What a structure is read back as -/

variable {read : String → Option String} {rfc3339 : Nat → String}
  {from_rfc3339 : String → Option Nat}

def ToolDescriptor.reread (read : String → Option String) (tool : ToolDescriptor) :
    Option ToolDescriptor :=
  (tool.input_schema.reread read).map fun input_schema => { tool with input_schema }

def ToolsCacheEntry.reread (read : String → Option String) (entry : ToolsCacheEntry) :
    Option ToolsCacheEntry :=
  (entry.tools.mapM (ToolDescriptor.reread read)).map fun tools => { entry with tools }

def PersistedCache.reread (read : String → Option String) (cache : PersistedCache) :
    Option PersistedCache :=
  (cache.entries.mapM (ToolsCacheEntry.reread read)).map fun entries => { cache with entries }

theorem rereadItems_map {α : Type} {f : α → Value} {g : α → Option α} {l : List α}
    (each : ∀ x, (f x).reread read = (g x).map f) :
    rereadItems read (l.map f) = (l.mapM g).map (List.map f) := by
  induction l with
  | nil => rfl
  | cons x rest ih =>
    rw [List.map_cons, rereadItems, each, ih, List.mapM_cons]
    cases g x with
    | none => rfl
    | some y =>
      cases rest.mapM g with
      | none => rfl
      | some ys => rfl

theorem ToolDescriptor.reread_to_value (tool : ToolDescriptor) :
    tool.to_value.reread read = (tool.reread read).map ToolDescriptor.to_value := by
  obtain ⟨name, description, input_schema, visibility⟩ := tool
  cases description with
  | none =>
    cases visibility with
    | Public => cases back : input_schema.reread read <;>
        simp [to_value, ToolDescriptor.reread, Value.reread, rereadFields, back]
    | Internal => cases back : input_schema.reread read <;>
        simp [to_value, ToolDescriptor.reread, Value.reread, rereadFields, back]
  | some description =>
    cases visibility with
    | Public => cases back : input_schema.reread read <;>
        simp [to_value, ToolDescriptor.reread, Value.reread, rereadFields, back]
    | Internal => cases back : input_schema.reread read <;>
        simp [to_value, ToolDescriptor.reread, Value.reread, rereadFields, back]

theorem ToolsCacheEntry.reread_to_value (entry : ToolsCacheEntry) :
    (entry.to_value rfc3339).reread read = (entry.reread read).map (to_value rfc3339) := by
  have tools : rereadItems read (entry.tools.map ToolDescriptor.to_value) =
      (entry.tools.mapM (ToolDescriptor.reread read)).map (List.map ToolDescriptor.to_value) :=
    rereadItems_map fun tool => tool.reread_to_value
  cases back : entry.tools.mapM (ToolDescriptor.reread read) with
  | none =>
    rw [back] at tools
    simp [to_value, ToolsCacheEntry.reread, Value.reread, rereadFields, tools, back]
  | some tools' =>
    rw [back] at tools
    simp [to_value, ToolsCacheEntry.reread, Value.reread, rereadFields, tools, back]

theorem PersistedCache.reread_to_value (cache : PersistedCache) :
    (cache.to_value rfc3339).reread read = (cache.reread read).map (to_value rfc3339) := by
  have entries : rereadItems read (cache.entries.map (ToolsCacheEntry.to_value rfc3339)) =
      (cache.entries.mapM (ToolsCacheEntry.reread read)).map
        (List.map (ToolsCacheEntry.to_value rfc3339)) :=
    rereadItems_map fun entry => entry.reread_to_value
  cases back : cache.entries.mapM (ToolsCacheEntry.reread read) with
  | none =>
    rw [back] at entries
    simp [to_value, PersistedCache.reread, Value.reread, rereadFields, entries, back]
  | some entries' =>
    rw [back] at entries
    simp [to_value, PersistedCache.reread, Value.reread, rereadFields, entries, back]

variable (instants : ∀ instant, from_rfc3339 (rfc3339 instant) = some instant)
include instants

theorem ToolsCacheEntry.from_value_to_value {entry : ToolsCacheEntry}
    (held : ∀ tool ∈ entry.tools, tool.Held) :
    ToolsCacheEntry.from_value from_rfc3339 (entry.to_value rfc3339) = some entry := by
  rw [from_value, to_value, known_members_object]
  · rw [Option.bind_eq_bind, Option.bind_some, tools_field_of_written held (by simp [field_cons])]
    simp [string_field, field_cons, Value.as_str, instants]
  · simp

theorem PersistedCache.from_value_to_value {cache : PersistedCache}
    (held : ∀ entry ∈ cache.entries, ∀ tool ∈ entry.tools, tool.Held)
    (version : cache.version ≤ 4294967295) :
    PersistedCache.from_value from_rfc3339 (cache.to_value rfc3339) = some cache := by
  have entries : (cache.entries.map (ToolsCacheEntry.to_value rfc3339)).mapM
      (ToolsCacheEntry.from_value from_rfc3339) = some cache.entries :=
    mapM_map_eq fun entry member =>
      ToolsCacheEntry.from_value_to_value instants (held entry member)
  rw [from_value, to_value, known_members_object]
  · rw [Option.bind_eq_bind, Option.bind_some, u32_field_of_le "version" version rfl]
    simp [field_cons, Value.as_array, entries]
  · simp

omit instants

/-! ## Levels and floats of the file -/

theorem ToolDescriptor.nest_to_value {tool : ToolDescriptor} {n : Nat} :
    tool.to_value.nest ≤ n + 1 ↔ tool.input_schema.nest ≤ n := by
  obtain ⟨name, description, input_schema, visibility⟩ := tool
  rw [to_value, nest_object_le]
  cases description with
  | none => cases visibility <;> simp
  | some description => cases visibility <;> simp

theorem ToolsCacheEntry.nest_to_value {entry : ToolsCacheEntry} {n : Nat} :
    (entry.to_value rfc3339).nest ≤ n + 3 ↔ ∀ tool ∈ entry.tools, tool.input_schema.nest ≤ n := by
  rw [to_value, nest_object_le]
  simp [nest_array_le, ToolDescriptor.nest_to_value]

theorem PersistedCache.nest_to_value {cache : PersistedCache} {n : Nat} :
    (cache.to_value rfc3339).nest ≤ n + 5 ↔
      ∀ entry ∈ cache.entries, ∀ tool ∈ entry.tools, tool.input_schema.nest ≤ n := by
  rw [to_value, nest_object_le]
  simp [nest_array_le, ToolsCacheEntry.nest_to_value]

theorem ToolDescriptor.exact_of_reread {tool : ToolDescriptor} (back : tool.reread read = some tool) :
    tool.input_schema.Exact read := by
  obtain ⟨schema, same, own⟩ := Option.map_eq_some_iff.mp back
  rw [← Json.reread_eq_self_iff, same, ← own]

theorem ToolsCacheEntry.exact_of_reread {entry : ToolsCacheEntry}
    (back : entry.reread read = some entry) : ∀ tool ∈ entry.tools, tool.input_schema.Exact read := by
  obtain ⟨tools, all, own⟩ := Option.map_eq_some_iff.mp back
  have same : tools = entry.tools := by rw [← own]
  rw [same] at all
  exact fun tool member => ToolDescriptor.exact_of_reread (mapM_self_iff.mp all tool member)

theorem PersistedCache.reread_of_exact {cache : PersistedCache}
    (exact_ : ∀ entry ∈ cache.entries, ∀ tool ∈ entry.tools, tool.input_schema.Exact read) :
    cache.reread read = some cache := by
  have tools {tool : ToolDescriptor} (whole : tool.input_schema.Exact read) :
      tool.reread read = some tool := by
    rw [ToolDescriptor.reread, (Json.reread_eq_self_iff _).mpr whole]
    rfl
  have entries : cache.entries.mapM (ToolsCacheEntry.reread read) = some cache.entries := by
    refine mapM_self_iff.mpr fun entry member => ?_
    rw [ToolsCacheEntry.reread,
      mapM_self_iff.mpr fun tool own => tools (exact_ entry member tool own)]
    rfl
  rw [reread, entries]
  rfl

theorem ToolsCacheEntry.key_reread {entry entry' : ToolsCacheEntry}
    (back : entry.reread read = some entry') : entry'.key = entry.key := by
  obtain ⟨tools, -, rfl⟩ := Option.map_eq_some_iff.mp back
  rfl

theorem ToolsCacheEntry.held_reread {entry entry' : ToolsCacheEntry}
    (held : ∀ tool ∈ entry.tools, tool.Held) (back : entry.reread read = some entry') :
    ∀ tool ∈ entry'.tools, tool.Held := by
  obtain ⟨tools, all, rfl⟩ := Option.map_eq_some_iff.mp back
  intro tool' member
  obtain ⟨tool, own, same⟩ := mem_of_mapM all tool' member
  obtain ⟨schema, back, rfl⟩ := Option.map_eq_some_iff.mp same
  exact (held tool own).reread back

/-! ## The store that comes back -/

namespace ToolsCacheStore

variable {store : ToolsCacheStore} {parse : String → Option Value}

/-- The schemas are those that a `Value` may hold. -/
def Held (store : ToolsCacheStore) : Prop :=
  ∀ entry ∈ store.list, ∀ tool ∈ entry.tools, tool.Held

/-- What the file makes of the schemas of a store is what they are. -/
def Readable (read : String → Option String) (store : ToolsCacheStore) : Prop :=
  ∀ entry ∈ store.list, ∀ tool ∈ entry.tools,
    tool.input_schema.nest ≤ 122 ∧ tool.input_schema.Exact read

/-- A manager that starts from the file of a store has the entries of the store. -/
def ComesBack (rfc3339 : Nat → String) (from_str : String → Option PersistedCache)
    (store : ToolsCacheStore) : Prop :=
  ∀ key, (load_from_disk from_str (some (store.snapshot.text rfc3339))).get key =
    store.inner.get key

theorem comes_back_of_readable (instants : ∀ instant, from_rfc3339 (rfc3339 instant) = some instant)
    (keyed : store.keyed) (held : store.Held)
    (reads : ReadsText parse read (store.snapshot.to_value rfc3339)) (readable : store.Readable read) :
    store.ComesBack rfc3339 (PersistedCache.from_str from_rfc3339 parse) := by
  have shallow : (store.snapshot.to_value rfc3339).nest ≤ recursion_limit :=
    PersistedCache.nest_to_value.mpr fun entry member tool own => (readable entry member tool own).1
  have whole : store.snapshot.reread read = some store.snapshot :=
    PersistedCache.reread_of_exact fun entry member tool own => (readable entry member tool own).2
  refine keyed.load_snapshot ?_
  rw [PersistedCache.from_str, PersistedCache.text, reads, if_pos shallow,
    PersistedCache.reread_to_value, whole, Option.map_some, Option.bind_some]
  have version : store.snapshot.version ≤ 4294967295 := by simp [snapshot, FORMAT_VERSION]
  exact PersistedCache.from_value_to_value instants held version

/-- Entries that come back under their keys are the entries themselves. -/
theorem reread_of_comes_back {snap : PersistedCache} (keyed : store.keyed)
    (reread : store.snapshot.reread read = some snap)
    (back : ∀ key, snap.inner.get key = store.inner.get key) :
    ∀ entry ∈ store.list, entry.reread read = some entry := by
  obtain ⟨entries, all, rfl⟩ := Option.map_eq_some_iff.mp reread
  have keys : entries.map ToolsCacheEntry.key = store.list.map ToolsCacheEntry.key :=
    map_of_mapM (fun _ _ same => ToolsCacheEntry.key_reread same) all
  have nodup : (entries.map ToolsCacheEntry.key).Nodup := by
    rw [keys]
    exact keyed.nodup
  intro entry member
  obtain ⟨entry', there, same⟩ := read_of_mapM all entry member
  have filed : store.inner.get entry'.key = some entry' := by
    rw [← back]
    exact (HashMap.get_foldl_insert nodup .empty _ _).mpr (.inl ⟨there, rfl⟩)
  rw [ToolsCacheEntry.key_reread same, keyed.mem_list.mp member] at filed
  rwa [← Option.some.inj filed] at same

theorem readable_of_comes_back
    (instants : ∀ instant, from_rfc3339 (rfc3339 instant) = some instant)
    (keyed : store.keyed) (held : store.Held)
    (reads : ReadsText parse read (store.snapshot.to_value rfc3339))
    (back : store.ComesBack rfc3339 (PersistedCache.from_str from_rfc3339 parse)) :
    store.Readable read := by
  intro entry member tool own
  have found : store.inner.get entry.key = some entry := keyed.mem_list.mp member
  have loaded := (back entry.key).trans found
  -- the file was read, or nothing would have come back
  have shallow : (store.snapshot.to_value rfc3339).nest ≤ recursion_limit := by
    by_contra deep
    have unread : PersistedCache.from_str from_rfc3339 parse (store.snapshot.text rfc3339) = none := by
      rw [PersistedCache.from_str, PersistedCache.text, reads, if_neg deep]
      rfl
    rw [load_from_disk, Option.bind_some, unread] at loaded
    cases loaded
  refine ⟨PersistedCache.nest_to_value.mp shallow entry member tool own, ?_⟩
  cases reread : store.snapshot.reread read with
  | none =>
    have unread : PersistedCache.from_str from_rfc3339 parse (store.snapshot.text rfc3339) = none := by
      rw [PersistedCache.from_str, PersistedCache.text, reads, if_pos shallow,
        PersistedCache.reread_to_value, reread]
      rfl
    rw [load_from_disk, Option.bind_some, unread] at loaded
    cases loaded
  | some snap =>
    obtain ⟨entries, all, rfl⟩ := Option.map_eq_some_iff.mp reread
    have version : store.snapshot.version ≤ 4294967295 := by simp [snapshot, FORMAT_VERSION]
    have again : ∀ entry ∈ entries, ∀ tool ∈ entry.tools, tool.Held := by
      intro entry' there
      obtain ⟨entry, listed, same⟩ := mem_of_mapM all entry' there
      exact ToolsCacheEntry.held_reread (held entry listed) same
    have read_back : PersistedCache.from_str from_rfc3339 parse (store.snapshot.text rfc3339) =
        some { store.snapshot with entries } := by
      rw [PersistedCache.from_str, PersistedCache.text, reads, if_pos shallow,
        PersistedCache.reread_to_value, reread, Option.map_some, Option.bind_some]
      exact PersistedCache.from_value_to_value instants again version
    refine ToolsCacheEntry.exact_of_reread ?_ tool own
    refine reread_of_comes_back keyed reread (fun key => ?_) entry member
    rw [← back key, load_of_read read_back rfl]

/-- A store that was opened from some file, after sections of its methods in any order. -/
inductive Reachable (rfc3339 : Nat → String) (from_str : String → Option PersistedCache) :
    ToolsCacheStore → Prop
  | opened (cfg : ToolsCacheConfig) (text : Option String) :
      Reachable rfc3339 from_str (load_or_empty cfg from_str text)
  | step {w : CacheWorld} {β : Type} (op : CacheOp β) : Reachable rfc3339 from_str w.store →
      Reachable rfc3339 from_str (op.apply rfc3339 w).2.store

variable {from_str : String → Option PersistedCache}

theorem Reachable.keyed (reachable : Reachable rfc3339 from_str store) : store.keyed := by
  induction reachable with
  | opened cfg text => exact keyed_load_or_empty text
  | step op _ keyed =>
    cases op with
    | evict_expired => exact keyed.evict_expired
    | put => exact keyed.put
    | clear => exact keyed_clear
    | clear_config => exact keyed.clear_config
    | utc_now | list | snapshot | write_json_atomic | notifier_hook => exact keyed

/-- **The file of a store.**  A store whose entries are filed under their own keys comes back from
its file exactly if no schema is nested deeper than 122 levels and every float is read as it was
printed; and so are the entries of every store that can be reached. -/
theorem file_round_trip (instants : ∀ instant, from_rfc3339 (rfc3339 instant) = some instant) :
    (∀ store : ToolsCacheStore, store.keyed → store.Held →
      ReadsText parse read (store.snapshot.to_value rfc3339) →
        (store.ComesBack rfc3339 (PersistedCache.from_str from_rfc3339 parse) ↔
          store.Readable read)) ∧
    ∀ store : ToolsCacheStore,
      Reachable rfc3339 (PersistedCache.from_str from_rfc3339 parse) store → store.keyed := by
  refine ⟨fun store keyed held reads => ⟨?_, ?_⟩, fun store reachable => reachable.keyed⟩
  · exact readable_of_comes_back instants keyed held reads
  · exact comes_back_of_readable instants keyed held reads

end ToolsCacheStore

/-! ### Two stores -/

/-- The epoch, and other instants by their length. -/
def sample_rfc3339 : Nat → String
  | 0 => "1970-01-01T00:00:00Z"
  | n + 1 => String.ofList (List.replicate (n + 1) 'x')

def sample_instant (text : String) : Option Nat :=
  if text = "1970-01-01T00:00:00Z" then some 0 else some text.length

theorem sample_instants (instant : Nat) :
    sample_instant (sample_rfc3339 instant) = some instant := by
  cases instant with
  | zero => rfl
  | succ n =>
    have other : String.ofList (List.replicate (n + 1) 'x') ≠ "1970-01-01T00:00:00Z" := by
      intro same
      have first := congrArg (fun text => text.toList.head?) same
      simp [List.replicate_succ] at first
    rw [sample_rfc3339, sample_instant, if_neg other]
    simp

/-- A store with one entry, of one tool. -/
def one_tool_store (tool : ToolDescriptor) : ToolsCacheStore :=
  (ToolsCacheStore.put { inner := .empty, cache_life := 1, enabled := true } "client" "base" [tool]
    0).2

theorem keyed_one_tool_store (tool : ToolDescriptor) : (one_tool_store tool).keyed :=
  ToolsCacheStore.keyed.put fun key entry found => by cases found

theorem mem_one_tool_store {tool : ToolDescriptor} {entry : ToolsCacheEntry} :
    entry ∈ (one_tool_store tool).list ↔
      entry = { kind := "client", config_id := "base", tools := [tool], last_seen_at := 0 } := by
  rw [(keyed_one_tool_store tool).mem_list, one_tool_store, ToolsCacheStore.get_put]
  constructor
  · intro found
    split at found
    · exact (Option.some.inj found).symm
    · cases found
  · intro same
    subst same
    exact if_pos rfl

def float_tool : ToolDescriptor where
  name := "find"
  description := some "finds"
  input_schema := .object [("limit", .array [.number (.int 1), .number (.float "0.5")]),
    ("type", .string "object")]
  visibility := .Internal

theorem of_one_tool_store {P : ToolDescriptor → Prop} {tool : ToolDescriptor} (holds : P tool) :
    ∀ entry ∈ (one_tool_store tool).list, ∀ tool ∈ entry.tools, P tool := by
  intro entry member tool' listed
  rw [mem_one_tool_store.mp member] at listed
  rwa [List.mem_singleton.mp listed]

/-- The text of one value is read, with the floats that are printed. -/
def reads_file (value : Value) (text : String) : Option Value :=
  if text = value.text then some value else none

theorem float_tool_comes_back : (one_tool_store float_tool).ComesBack sample_rfc3339
    (PersistedCache.from_str sample_instant
      (reads_file ((one_tool_store float_tool).snapshot.to_value sample_rfc3339))) := by
  have held : float_tool.Held := by
    refine .object (by decide) fun entry member => ?_
    simp only [List.mem_cons, List.not_mem_nil, or_false] at member
    rcases member with rfl | rfl
    · refine .array fun item member => ?_
      simp only [List.mem_cons, List.not_mem_nil, or_false] at member
      rcases member with rfl | rfl
      · exact .int (by decide)
      · exact .float "0.5"
    · exact .string "object"
  have schema : float_tool.input_schema.nest ≤ 122 ∧ float_tool.input_schema.Exact some := by
    refine ⟨by decide, ?_⟩
    simp [float_tool, exact_object_iff, exact_array_iff, Value.Exact.int, Value.Exact.float,
      Value.Exact.string]
  have readable : (one_tool_store float_tool).Readable some :=
    of_one_tool_store (P := fun tool => tool.input_schema.nest ≤ 122 ∧ tool.input_schema.Exact some)
      schema
  have reads : ReadsText (reads_file ((one_tool_store float_tool).snapshot.to_value sample_rfc3339))
      some ((one_tool_store float_tool).snapshot.to_value sample_rfc3339) := by
    have shallow : ((one_tool_store float_tool).snapshot.to_value sample_rfc3339).nest ≤
        recursion_limit :=
      PersistedCache.nest_to_value.mpr fun entry member tool own => (readable entry member tool own).1
    rw [ReadsText, reads_file, if_pos rfl, if_pos shallow, PersistedCache.reread_to_value,
      PersistedCache.reread_of_exact fun entry member tool own => (readable entry member tool own).2]
    rfl
  exact ((ToolsCacheStore.file_round_trip sample_instants).1 _ (keyed_one_tool_store float_tool)
    (of_one_tool_store held) reads).mpr readable

/-- Arrays in arrays. -/
def nested : Nat → Value
  | 0 => .array []
  | n + 1 => .array [nested n]

theorem nest_nested (n : Nat) : (nested n).nest = n + 1 := by
  induction n with
  | zero => rfl
  | succ n ih => simp [nested, Value.nest, nestItems, ih]

theorem held_nested (n : Nat) : (nested n).Held := by
  induction n with
  | zero => exact .array (by simp)
  | succ n ih => exact .array (by simpa using ih)

def deep_tool : ToolDescriptor where
  name := "find"
  description := none
  input_schema := nested 122
  visibility := .Public

/-- A store that can be reached does not come back: its file is nested too deep. -/
theorem deep_schema_is_lost : ∃ (store : ToolsCacheStore) (parse : String → Option Value)
    (read : String → Option String) (rfc3339 : Nat → String) (from_rfc3339 : String → Option Nat),
    (∀ instant, from_rfc3339 (rfc3339 instant) = some instant) ∧
      store.Reachable rfc3339 (PersistedCache.from_str from_rfc3339 parse) ∧ store.keyed ∧
        store.Held ∧ ReadsText parse read (store.snapshot.to_value rfc3339) ∧
          ¬ store.ComesBack rfc3339 (PersistedCache.from_str from_rfc3339 parse) := by
  have deep : ¬ (nested 122).nest ≤ 122 := by rw [nest_nested]; decide
  have held : (one_tool_store deep_tool).Held := of_one_tool_store (held_nested 122)
  have listed : { kind := "client", config_id := "base", tools := [deep_tool], last_seen_at := 0 } ∈
      (one_tool_store deep_tool).list := mem_one_tool_store.mpr rfl
  have reads : ReadsText (fun _ => none) some
      ((one_tool_store deep_tool).snapshot.to_value sample_rfc3339) := by
    refine (if_neg fun shallow => deep ?_).symm
    exact PersistedCache.nest_to_value.mp shallow _ listed deep_tool (by simp)
  refine ⟨one_tool_store deep_tool, fun _ => none, some, sample_rfc3339, sample_instant,
    sample_instants, ?_, keyed_one_tool_store deep_tool, held, reads, fun back => deep ?_⟩
  · exact .step (w := CacheWorld.open { enabled := true, cache_life := 1 } _ none fun _ => 0)
      (.put "client" "base" [deep_tool]) (.opened _ none)
  · have readable := ToolsCacheStore.readable_of_comes_back sample_instants
      (keyed_one_tool_store deep_tool) held reads back
    exact (readable _ listed deep_tool (by simp)).1

end SessionManager
