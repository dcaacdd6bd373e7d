import SessionManager.Server.Surroundings
import SessionManager.Server.Target

/-!
# `list_all_tools_inner` and the calls it promises

An agent is shown the manager's own tools, those of the view, and the cached tools that none
of these hides.  At one moment the listing and the routing of a call agree on every name
(`listing_agrees`): a listed name is routed to a session, refused for want of a choice, or
answered from the cache, and any other name is unknown.
-/

namespace SessionManager

open Json Effect

open Prog (perform)

/-! ## The listing -/

def cached_tool (entry : ToolsCacheEntry) (tool : ToolDescriptor) : Tool where
  name := tool.name
  description := tool.description.getD
    ("Cached ClientProxy tool (kind=" ++ entry.kind ++ ", config_id=" ++ entry.config_id ++ ")")
  input_schema := object_or_empty (some (input_schema_with_session_selector tool.input_schema [] false))

/-- The names seen so far and the tools listed for them. -/
structure Listed where
  seen : List String
  tools : List Tool

/-- List a cached tool whose name was not seen yet. -/
def Listed.add_tool (entry : ToolsCacheEntry) (listed : Listed) (tool : ToolDescriptor) : Listed :=
  if tool.visibility.is_public then
    if tool.name ∈ listed.seen then listed
    else
      { seen := listed.seen ++ [tool.name]
        tools := listed.tools ++ [cached_tool entry tool] }
  else listed

def Listed.add_entry (listed : Listed) (entry : ToolsCacheEntry) : Listed :=
  entry.tools.foldl (Listed.add_tool entry) listed

/-- The tools with those of the cache that none of them hides. -/
def extend_listing (tools : List Tool) (entries : List ToolsCacheEntry) : List Tool :=
  (entries.foldl Listed.add_entry { seen := tools.map Tool.name, tools }).tools

def list_all_tools_inner (crates : Crates) (builtin : List Tool) : Prog RegOp (List Tool) := do
  let snapshot ← perform .snapshot
  let live := proxy_tools (build_proxy_view crates snapshot)
  return extend_listing (builtin ++ live) (← list_all)

/-! ## Names in the listing -/

variable {name : String}

/-- The cache has the tool for agents. -/
def ToolsCacheEntry.publishes (entry : ToolsCacheEntry) (name : String) : Prop :=
  ∃ tool ∈ entry.tools, tool.publishes name = true

theorem Listed.mem_add_tool {entry : ToolsCacheEntry} {listed : Listed} {tool : ToolDescriptor}
    (same : listed.seen = listed.tools.map Tool.name) :
    (listed.add_tool entry tool).seen = (listed.add_tool entry tool).tools.map Tool.name ∧
      (name ∈ (listed.add_tool entry tool).seen ↔
        name ∈ listed.seen ∨ tool.publishes name = true) := by
  unfold Listed.add_tool
  rw [ToolDescriptor.publishes, Bool.and_eq_true, beq_iff_eq]
  split
  · rename_i visible
    split
    · rename_i known
      refine ⟨same, (or_iff_left_of_imp ?_).symm⟩
      rintro ⟨rfl, -⟩
      exact known
    · refine ⟨by rw [same, List.map_append]; rfl, ?_⟩
      rw [List.mem_append, List.mem_singleton, @eq_comm _ name, and_iff_left visible]
  · rename_i invisible
    exact ⟨same, (or_iff_left fun publishes => invisible publishes.2).symm⟩

theorem Listed.mem_add_entry {entry : ToolsCacheEntry} {listed : Listed}
    (same : listed.seen = listed.tools.map Tool.name) :
    (listed.add_entry entry).seen = (listed.add_entry entry).tools.map Tool.name ∧
      (name ∈ (listed.add_entry entry).seen ↔ name ∈ listed.seen ∨ entry.publishes name) := by
  have fold (tools : List ToolDescriptor) (listed : Listed)
      (same : listed.seen = listed.tools.map Tool.name) :
      (tools.foldl (Listed.add_tool entry) listed).seen =
          (tools.foldl (Listed.add_tool entry) listed).tools.map Tool.name ∧
        (name ∈ (tools.foldl (Listed.add_tool entry) listed).seen ↔
          name ∈ listed.seen ∨ ∃ tool ∈ tools, tool.publishes name = true) := by
    induction tools generalizing listed with
    | nil => exact ⟨same, (or_iff_left fun ⟨_, member, _⟩ => List.not_mem_nil member).symm⟩
    | cons tool tools ih =>
      obtain ⟨same', added⟩ := Listed.mem_add_tool same
      obtain ⟨same'', rest⟩ := ih _ same'
      refine ⟨same'', ?_⟩
      rw [List.foldl_cons, rest, added, or_assoc, List.exists_mem_cons_iff]
  exact fold entry.tools listed same

/-- The listing shows what was there before it and what the cache publishes. -/
theorem Listed.mem_add_entries {entries : List ToolsCacheEntry} {listed : Listed}
    (same : listed.seen = listed.tools.map Tool.name) :
    name ∈ (entries.foldl Listed.add_entry listed).tools.map Tool.name ↔
      name ∈ listed.seen ∨ ∃ entry ∈ entries, entry.publishes name := by
  induction entries generalizing listed with
  | nil =>
    rw [List.foldl_nil, ← same]
    exact (or_iff_left fun ⟨_, member, _⟩ => List.not_mem_nil member).symm
  | cons entry entries ih =>
    obtain ⟨same', added⟩ := Listed.mem_add_entry same
    rw [List.foldl_cons, ih same', added, or_assoc, List.exists_mem_cons_iff]

/-! ## What the cached tools add -/

section Growth

variable {base : List Tool} {entries : List ToolsCacheEntry}

/-- A cached tool of a name that none of the tools before it has. -/
def Added (base : List Tool) (entries : List ToolsCacheEntry) (tool : Tool) : Prop :=
  tool.name ∉ base.map Tool.name ∧
    ∃ entry ∈ entries, ∃ descriptor ∈ entry.tools,
      descriptor.publishes tool.name = true ∧ tool = cached_tool entry descriptor

/-- The list has grown from the base by cached tools of distinct names. -/
def Grown (base : List Tool) (entries : List ToolsCacheEntry) (listed : Listed) : Prop :=
  listed.seen = listed.tools.map Tool.name ∧
    ∃ more, listed.tools = base ++ more ∧ (more.map Tool.name).Nodup ∧
      ∀ tool ∈ more, Added base entries tool

theorem Grown.add_tool {entry : ToolsCacheEntry} {descriptor : ToolDescriptor} {listed : Listed}
    (grown : Grown base entries listed) (cached : entry ∈ entries)
    (here : descriptor ∈ entry.tools) : Grown base entries (listed.add_tool entry descriptor) := by
  obtain ⟨same, more, tools, distinct, added⟩ := grown
  unfold Listed.add_tool
  split
  · rename_i visible
    split
    · exact ⟨same, more, tools, distinct, added⟩
    · rename_i unseen
      rw [same, tools, List.map_append, List.mem_append, not_or] at unseen
      refine ⟨by rw [same, List.map_append]; rfl, more ++ [cached_tool entry descriptor], ?_, ?_, ?_⟩
      · rw [tools, List.append_assoc]
      · rw [List.map_append]
        exact List.nodup_append_comm.mp (List.nodup_cons.mpr ⟨unseen.2, distinct⟩)
      · intro tool member
        rcases List.mem_append.mp member with before | last
        · exact added tool before
        · obtain rfl := List.mem_singleton.mp last
          refine ⟨unseen.1, entry, cached, descriptor, here, ?_, rfl⟩
          exact Bool.and_eq_true_iff.mpr ⟨beq_self_eq_true _, visible⟩
  · exact ⟨same, more, tools, distinct, added⟩

theorem grown_add_entries {listed : Listed} (grown : Grown base entries listed) :
    Grown base entries (entries.foldl Listed.add_entry listed) := by
  refine List.foldlRecOn entries _ grown fun listed grown entry cached => ?_
  refine List.foldlRecOn entry.tools _ grown fun listed grown descriptor here => ?_
  exact grown.add_tool cached here

/-- The listing is the base and then cached tools of distinct names that the base does not
have. -/
theorem extend_listing_eq (base : List Tool) (entries : List ToolsCacheEntry) :
    ∃ more, extend_listing base entries = base ++ more ∧ (more.map Tool.name).Nodup ∧
      ∀ tool ∈ more, Added base entries tool := by
  have start : Grown base entries { seen := base.map Tool.name, tools := base } :=
    ⟨rfl, [], (List.append_nil base).symm, List.nodup_nil, List.forall_mem_nil _⟩
  exact (grown_add_entries start).2

/-- Names are listed once if the base lists them once. -/
theorem nodup_extend_listing :
    ((extend_listing base entries).map Tool.name).Nodup ↔ (base.map Tool.name).Nodup := by
  obtain ⟨more, listed, distinct, added⟩ := extend_listing_eq base entries
  rw [listed, List.map_append, List.nodup_append]
  constructor
  · exact fun whole => whole.1
  · intro once
    refine ⟨once, distinct, ?_⟩
    rintro name before _ after rfl
    obtain ⟨tool, member, rfl⟩ := List.mem_map.mp after
    exact (added tool member).1 before

end Growth

/-! ## Runs in fixed surroundings -/

/-- The cached entries an agent may see at some time. -/
def cached_entries (reg : SessionRegistry) (now : Nat) : List ToolsCacheEntry :=
  (reg.live_cache.map fun store => (store.evict_expired now).2.list).getD []

theorem mem_cached_entries {reg : SessionRegistry} {now : Nat} {entry : ToolsCacheEntry} :
    entry ∈ cached_entries reg now ↔ ∃ store key, reg.tools_cache = some store ∧
      store.enabled = true ∧ store.inner.get key = some entry ∧
      now - entry.last_seen_at ≤ store.life := by
  rw [cached_entries]
  cases live : reg.live_cache with
  | none =>
    refine iff_of_false List.not_mem_nil fun here => ?_
    obtain ⟨store, key, attached, enabled, -⟩ := here
    have some : reg.live_cache = some store := Option.filter_eq_some_iff.mpr ⟨attached, enabled⟩
    rw [live] at some
    cases some
  | some store =>
    obtain ⟨attached, enabled⟩ := Option.filter_eq_some_iff.mp live
    simp only [Option.map_some, Option.getD_some, ToolsCacheStore.mem_list,
      ToolsCacheStore.evict_expired, HashMap.get_retain, Option.filter_eq_some_iff,
      decide_eq_true_eq, attached, Option.some.injEq]
    constructor
    · intro here
      obtain ⟨key, found, fresh⟩ := here
      exact ⟨store, key, rfl, enabled, found, fresh⟩
    · intro here
      obtain ⟨store, key, rfl, -, found, fresh⟩ := here
      exact ⟨key, found, fresh⟩

variable (env : Surroundings) (crates : Crates)

/-- A section is answered while the lock is free. -/
theorem reg_of_free {s : CallState} (free : s.registry.locked = false) {β : Type} (op : RegOp β) :
    env.reg op s = some ((op.run env.now s.registry).1,
      { s with registry := (op.run env.now s.registry).2 }) := by
  rw [Surroundings.reg, RegOp.apply_of_free free]
  rfl

/-- Listing the cache answers the entries that are not expired. -/
theorem handle_list_all {s : CallState} (free : s.registry.locked = false) :
    ∃ s', list_all.handle env.reg s = some (cached_entries s.registry env.now, s') := by
  rw [list_all, Prog.handle_perform, reg_of_free env free, Option.bind_some]
  cases live : s.registry.live_cache with
  | none =>
    refine ⟨s, ?_⟩
    simp only [RegOp.run, live, cached_entries]
    rfl
  | some store =>
    have enabled : store.enabled = true := (Option.filter_eq_some_iff.mp live).2
    have kept : (s.registry.store_cache (store.evict_expired env.now).2).live_cache =
        some (store.evict_expired env.now).2 := Option.filter_eq_some_iff.mpr ⟨rfl, enabled⟩
    have answered (s' : CallState) (swept : s'.registry.live_cache = some (store.evict_expired env.now).2)
        (free : s'.registry.locked = false) :
        (perform .list_cache >>= fun entries => Prog.ret (entries.getD [])).handle env.reg s' =
          some (cached_entries s.registry env.now, s') := by
      rw [Prog.handle_perform, reg_of_free env free, Option.bind_some]
      simp only [RegOp.run, swept, cached_entries, live]
      rfl
    simp only [RegOp.run, live]
    cases (store.evict_expired env.now).1 with
    | false => exact ⟨_, answered _ kept free⟩
    | true =>
      exact ⟨_, answered { s with registry := _ } kept free⟩

/-- What is listed at one moment. -/
def listed_tools (builtin : List Tool) (reg : SessionRegistry) (now : Nat) : List Tool :=
  extend_listing (builtin ++ proxy_tools (build_proxy_view crates reg.inner.values))
    (cached_entries reg now)

theorem handle_listing {s : CallState} (free : s.registry.locked = false) (builtin : List Tool) :
    ∃ s', (list_all_tools_inner crates builtin).handle env.reg s =
      some (listed_tools crates builtin s.registry env.now, s') := by
  obtain ⟨s', listed⟩ := handle_list_all env free
  refine ⟨s', ?_⟩
  rw [list_all_tools_inner, Prog.handle_perform, reg_of_free env free, Option.bind_some]
  simp only [RegOp.run, Prog.handle_bind, listed]
  rfl

theorem mem_listed_names {reg : SessionRegistry} {now : Nat} {builtin : List Tool} :
    name ∈ (listed_tools crates builtin reg now).map Tool.name ↔ name ∈ builtin.map Tool.name ∨
      (∃ session_id, Published reg.inner.values session_id name) ∨
        ∃ entry ∈ cached_entries reg now, entry.publishes name := by
  rw [listed_tools, extend_listing, Listed.mem_add_entries rfl, List.map_append, List.mem_append, or_assoc,
    proxy_tools, List.map_map]
  exact or_congr_right (or_congr_left mem_view_names)

/-- The listing has the manager's own tools, the published ones and the cached ones. -/
theorem handle_list_all_tools {s : CallState} (free : s.registry.locked = false)
    (builtin : List Tool) :
    ∃ tools s', (list_all_tools_inner crates builtin).handle env.reg s = some (tools, s') ∧
      ∀ name, name ∈ tools.map Tool.name ↔ name ∈ builtin.map Tool.name ∨
        (∃ session_id, Published s.registry.inner.values session_id name) ∨
          ∃ entry ∈ cached_entries s.registry env.now, entry.publishes name := by
  obtain ⟨s', listed⟩ := handle_listing env crates free builtin
  exact ⟨_, s', listed, fun name => mem_listed_names crates⟩

/-! ## Routing a name -/

theorem handle_lookup_cache_entry {s : CallState} (free : s.registry.locked = false) (name : String) :
    ∃ s', (lookup_cache_entry name).handle env.reg s =
      some (((cached_entries s.registry env.now).find? fun entry =>
        entry.tools.any fun tool => tool.publishes name).map
          fun entry => { kind := entry.kind, config_id := entry.config_id }, s') := by
  obtain ⟨s', listed⟩ := handle_list_all env free
  refine ⟨s', ?_⟩
  rw [lookup_cache_entry, Prog.handle_bind, listed]
  rfl

/-- A resolved session is fetched, as nothing happens in between. -/
theorem handle_fetch {s : CallState} (free : s.registry.locked = false) (keyed : s.registry.keyed)
    (resolved : ResolvedCall) (published : Published s.registry.inner.values resolved.session_id name) :
    ∃ record, (fetch resolved).handle env.reg s = some (.ok record, s) := by
  obtain ⟨record, member, own, active, -⟩ := published
  obtain ⟨uid, found⟩ := HashMap.mem_values.mp member
  obtain rfl := keyed _ _ found
  refine ⟨record, ?_⟩
  rw [fetch, Prog.handle_perform, reg_of_free env free, Option.bind_some]
  simp only [RegOp.run, ← own, found]
  rw [if_neg (not_not_intro active)]
  rfl

/-- What becomes of a call to a name, from what the registry and the cache have for it. -/
inductive RoutedAs (reg : SessionRegistry) (now : Nat) (name : String) :
    Except ProxyAnswer (ResolvedCall × SessionRecord) → Prop
  | session {resolved : ResolvedCall} {record : SessionRecord} :
    resolved.tool_name = name → Published reg.inner.values resolved.session_id name →
    RoutedAs reg now name (.ok (resolved, record))
  | choice {session_ids : List String} :
    (∃ session_id, Published reg.inner.values session_id name) →
    (∀ session_id, session_id ∈ session_ids ↔ Published reg.inner.values session_id name) →
    RoutedAs reg now name (.error (.error (invalid_params ("tool '" ++ name ++
      "' has multiple active targets; session_id is required (candidates: " ++
      ", ".intercalate session_ids ++ ")"))))
  | cached {entry : ToolsCacheEntry} :
    (∀ session_id, ¬ Published reg.inner.values session_id name) →
    entry ∈ cached_entries reg now → entry.publishes name →
    RoutedAs reg now name (.error (.ok (no_live_session_response name
      { kind := entry.kind, config_id := entry.config_id })))
  | unknown :
    (∀ session_id, ¬ Published reg.inner.values session_id name) →
    (∀ entry ∈ cached_entries reg now, ¬ entry.publishes name) →
    RoutedAs reg now name (.error (.ok (unknown_tool_response name)))

theorem publishes_iff_any {entry : ToolsCacheEntry} :
    (entry.tools.any fun tool => tool.publishes name) = true ↔ entry.publishes name :=
  List.any_eq_true

/-- A call without a session is routed by the publishers, and without any by the cache. -/
theorem handle_plain_route {s : CallState} (free : s.registry.locked = false) (keyed : s.registry.keyed)
    (name : String) :
    ∃ routed s', (route crates name none).handle env.reg s = some (routed, s') ∧
      RoutedAs s.registry env.now name routed := by
  have unpublished (none : publishers s.registry.inner.values name = []) (session_id : String) :
      ¬ Published s.registry.inner.values session_id name := by
    rw [← mem_publishers, none]
    exact List.not_mem_nil
  have resolution : resolve_published name (build_proxy_view crates s.registry.inner.values) none =
      _ := resolve_published_view none
  rw [route, resolve, Prog.handle_perform, reg_of_free env free, Option.bind_some]
  simp only [RegOp.run]
  rw [resolution]
  by_cases none : publishers s.registry.inner.values name = []
  · rw [if_pos none]
    obtain ⟨s', looked⟩ := handle_lookup_cache_entry env free name
    simp only [on_resolve_error, Prog.handle_bind, looked]
    cases found : (cached_entries s.registry env.now).find? fun entry =>
        entry.tools.any fun tool => tool.publishes name with
    | none =>
      refine ⟨_, s', rfl, .unknown (unpublished none) fun entry member publishes => ?_⟩
      exact List.find?_eq_none.mp found entry member (publishes_iff_any.mpr publishes)
    | some entry =>
      have holds := List.find?_some found
      exact ⟨_, s', rfl, .cached (unpublished none) (List.mem_of_find?_eq_some found)
        (publishes_iff_any.mp holds)⟩
  · obtain ⟨published, some⟩ := List.exists_mem_of_ne_nil _ none
    rw [if_neg none]
    have choice (session_ids : List String)
        (listed : sorted (publishers s.registry.inner.values name) = session_ids) :
        RoutedAs s.registry env.now name (.error (.error (invalid_params ("tool '" ++ name ++
          "' has multiple active targets; session_id is required (candidates: " ++
          ", ".intercalate session_ids ++ ")")))) := by
      refine .choice ⟨published, mem_publishers.mp some⟩ fun session_id => ?_
      rw [← listed, mem_sorted_publishers]
    cases listed : sorted (publishers s.registry.inner.values name) with
    | nil => exact ⟨_, s, rfl, choice [] listed⟩
    | cons session_id rest =>
      cases rest with
      | nil =>
        have member : session_id ∈ sorted (publishers s.registry.inner.values name) :=
          listed ▸ List.mem_singleton_self _
        have leads := mem_sorted_publishers.mp member
        have resolved : resolve_among name [session_id] Option.none =
          .ok { session_id, tool_name := name } := rfl
        obtain ⟨record, fetched⟩ := handle_fetch env free keyed { session_id, tool_name := name } leads
        rw [resolved]
        refine ⟨.ok (⟨session_id, name⟩, record), s, ?_, .session rfl leads⟩
        simp only [Prog.handle_bind, fetched]
        rfl
      | cons session_id' rest => exact ⟨_, s, rfl, choice _ listed⟩

theorem unknown_ne_no_live_session {name : String} {hit : CacheHit} :
    no_live_session_response name hit ≠ unknown_tool_response name := by
  intro same
  have payloads := congrArg CallToolResult.structured_content same
  simp [no_live_session_response, unknown_tool_response, tool_error, structured_error] at payloads

/-- **At one moment, listing and routing agree on every name that is not the manager's own.** -/
theorem listing_agrees {tools_cache : Option ToolsCacheStore} (gate : MaskingGate)
    (reached : Reached tools_cache env.registry) (free : env.registry.locked = false)
    (disabled : gate.enabled = false) (caller : CallerInfo) (builtin : List Tool)
    (request : CallToolRequestParams) {arguments : Value} {no_deadline : Bool}
    (plain : extract_manager_arguments request.arguments = .ok (arguments, none, no_deadline))
    (foreign : request.name ∉ builtin.map Tool.name) :
    ∃ tools s routed s',
      (list_all_tools_inner crates builtin).handle env.reg env.start = some (tools, s) ∧
      (route crates request.name none).handle env.reg env.start = some (routed, s') ∧
      RoutedAs env.registry env.now request.name routed ∧
      (request.name ∈ tools.map Tool.name ↔
        routed ≠ .error (.ok (unknown_tool_response request.name))) ∧
      ∀ outcome, (call_proxy_tool_inner crates gate caller request).handle (env.answer outcome)
          env.start =
        (match routed with
          | .error answer => some (answer, s')
          | .ok (resolved, record) =>
            (forward crates gate resolved record none arguments no_deadline).handle
              (env.answer outcome) s') := by
  obtain ⟨tools, s, listed, names⟩ := handle_list_all_tools env crates (s := env.start)
    free builtin
  obtain ⟨routed, s', handled, as⟩ := handle_plain_route env crates (s := env.start) free
    reached.keyed request.name
  refine ⟨tools, s, routed, s', listed, handled, as, ?_, fun outcome => ?_⟩
  · rw [names, or_iff_right foreign]
    cases as with
    | session _ published => exact iff_of_true (.inl ⟨_, published⟩) nofun
    | choice published _ => exact iff_of_true (.inl published) nofun
    | cached _ member publishes =>
      refine iff_of_true (.inr ⟨_, member, publishes⟩) fun same => ?_
      exact unknown_ne_no_live_session (Except.ok.inj (Except.error.inj same))
    | unknown unpublished uncached =>
      refine iff_of_false ?_ (not_not_intro rfl)
      rintro (⟨session_id, published⟩ | ⟨entry, member, publishes⟩)
      · exact unpublished session_id published
      · exact uncached entry member publishes
  · rw [call_proxy_tool_inner, plain]
    have lifted : ((route crates request.name none).lift ProxyOp.reg).handle (env.answer outcome)
        env.start = some (routed, s') := (Prog.handle_lift _ _ _).trans handled
    simp only [Prog.handle_bind, lifted, Option.bind_some]
    cases routed with
    | error answer => rfl
    | ok target =>
      obtain ⟨resolved, record⟩ := target
      have passed : ((pass_gate crates gate caller request.name record arguments).lift
          ProxyOp.mask).handle (env.answer outcome) s' = some (.ok (none, arguments), s') := by
        rw [pass_gate, disabled]
        rfl
      simp only [Prog.handle_bind, passed]
      rfl

/-! ## A registry with two clients -/

def quiet : Surroundings where
  registry := one_client [plain_tool]
  now := 0
  uuid _ := ""
  service _ := .unreachable
  disk _ := true
  outbox := []

def masking_off : MaskingGate where
  enabled := false
  internal_tools := []

/-- Two clients, of which one has internal tools. -/
def mixed : Surroundings := { quiet with registry := mixed_clients }

/-- The tool of both is listed and leads to a choice; an internal tool is unknown. -/
theorem mixed_clients_listing_agrees :
    ∃ tools s routed s' routed' v',
      (list_all_tools_inner permissive_crates []).handle mixed.reg mixed.start = some (tools, s) ∧
      (route permissive_crates "t" none).handle mixed.reg mixed.start = some (routed, s') ∧
      (route permissive_crates "feed" none).handle mixed.reg mixed.start = some (routed', v') ∧
      RoutedAs mixed_clients 0 "t" routed ∧ RoutedAs mixed_clients 0 "feed" routed' ∧
      ("t" ∈ tools.map Tool.name ↔ routed ≠ .error (.ok (unknown_tool_response "t"))) ∧
      ("feed" ∈ tools.map Tool.name ↔ routed' ≠ .error (.ok (unknown_tool_response "feed"))) := by
  have extracted : extract_manager_arguments none = .ok (.object [], none, false) := rfl
  have agrees (name : String) := listing_agrees mixed permissive_crates masking_off
    (two_clients_reached _ _) rfl rfl
    { mcp_session_id := none, client_name := none, client_version := none } []
    { name, arguments := none } extracted List.not_mem_nil
  obtain ⟨tools, s, routed, s', listed, handled, as, known, -⟩ := agrees "t"
  obtain ⟨_, _, routed', v', listed', handled', as', known', -⟩ := agrees "feed"
  cases listed.symm.trans listed'
  exact ⟨tools, s, routed, s', routed', v', listed, handled, handled', as, as', known, known'⟩

end SessionManager
