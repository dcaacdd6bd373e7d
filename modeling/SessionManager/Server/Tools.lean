import SessionManager.Server.Listing

/-!
# `list_all_tools_inner` and `get_tool`

`list_all_tools_inner` puts the live tools after the manager's own and the cached ones after
both, and asks only of the cached ones whether their names were seen.  So two listed tools have
one name exactly if a live session publishes a name of the manager's (`sound_listing_iff`).
`get_tool` looks among the manager's own and the live tools, and never among the cached ones
(`get_tool_agrees_iff`).
-/

namespace SessionManager

open Json Effect

open Prog (perform)

/-- The manager's own tools: a router has one of each name. -/
structure ToolRouter where
  list_all : List Tool
  distinct : (list_all.map Tool.name).Nodup

namespace ToolRouter

variable (router : ToolRouter)

def names : List String := router.list_all.map Tool.name

def get (name : String) : Option Tool := router.list_all.find? fun tool => tool.name == name

end ToolRouter

def get_tool (crates : Crates) (router : ToolRouter) (name : String) : Prog RegOp (Option Tool) :=
  match router.get name with
  | some tool => return some tool
  | none => do
    let snapshot ← perform .snapshot
    return (proxy_tools (build_proxy_view crates snapshot)).find? fun tool => tool.name == name

/-- The cache is on and has the entry, seen within its life. -/
def Unexpired (reg : SessionRegistry) (now : Nat) (entry : ToolsCacheEntry) : Prop :=
  ∃ store key, reg.tools_cache = some store ∧ store.enabled = true ∧
    store.inner.get key = some entry ∧ now - entry.last_seen_at ≤ store.life

/-! ## The listing -/

section Agreement

variable (env : Surroundings) (crates : Crates) (router : ToolRouter)

/-- What is promised of a listing: distinct names, exactly those of the manager, of the live
sessions and of the unexpired entries, and a cached tool only where no session is live. -/
structure SoundListing (reg : SessionRegistry) (now : Nat) (tools : List Tool) : Prop where
  distinct : (tools.map Tool.name).Nodup
  names : ∀ name, name ∈ tools.map Tool.name ↔ name ∈ router.names ∨
    (∃ session_id, Published reg.inner.values session_id name) ∨
      ∃ entry, Unexpired reg now entry ∧ entry.publishes name
  live_first : ∀ tool ∈ tools, tool ∈ router.list_all ∨
    tool ∈ proxy_tools (build_proxy_view crates reg.inner.values) ∨
      (∀ session_id, ¬ Published reg.inner.values session_id tool.name) ∧
        ∃ entry, Unexpired reg now entry ∧ ∃ descriptor ∈ entry.tools,
          descriptor.publishes tool.name = true ∧ tool = cached_tool entry descriptor

theorem mem_proxy_names {snapshot : List SessionRecord} {name : String} :
    name ∈ (proxy_tools (build_proxy_view crates snapshot)).map Tool.name ↔
      ∃ session_id, Published snapshot session_id name := by
  rw [proxy_tools, List.map_map]
  exact mem_view_names

/-- The tools that are not cached have distinct names if no session publishes one of the
manager's. -/
theorem nodup_base {snapshot : List SessionRecord} :
    ((router.list_all ++ proxy_tools (build_proxy_view crates snapshot)).map Tool.name).Nodup ↔
      ∀ name ∈ router.names, ∀ session_id, ¬ Published snapshot session_id name := by
  have view : ((proxy_tools (build_proxy_view crates snapshot)).map Tool.name).Nodup := by
    rw [proxy_tools, List.map_map]
    exact nodup_view
  rw [List.map_append, List.nodup_append]
  constructor
  · intro whole name own session_id published
    exact whole.2.2 name own name ((mem_proxy_names crates).mpr ⟨session_id, published⟩) rfl
  · intro apart
    refine ⟨router.distinct, view, ?_⟩
    rintro name own _ live rfl
    obtain ⟨session_id, published⟩ := (mem_proxy_names crates).mp live
    exact apart name own session_id published

/-- **A listing is as promised exactly if no live session publishes a name of the manager's.** -/
theorem sound_listing_iff {s : CallState} (free : s.registry.locked = false) :
    ∃ tools s', (list_all_tools_inner crates router.list_all).handle env.reg s = some (tools, s') ∧
      (SoundListing crates router s.registry env.now tools ↔
        ∀ name ∈ router.names, ∀ session_id,
          ¬ Published s.registry.inner.values session_id name) := by
  obtain ⟨s', listed⟩ := handle_listing env crates free router.list_all
  refine ⟨_, s', listed, ?_⟩
  have once : ((listed_tools crates router.list_all s.registry env.now).map Tool.name).Nodup ↔ _ :=
    nodup_extend_listing.trans (nodup_base crates router)
  constructor
  · exact fun sound => once.mp sound.distinct
  · intro apart
    refine ⟨once.mpr apart, fun name => ?_, fun tool member => ?_⟩
    · rw [mem_listed_names]
      simp only [mem_cached_entries]
      rfl
    · obtain ⟨more, same, -, added⟩ := extend_listing_eq
        (router.list_all ++ proxy_tools (build_proxy_view crates s.registry.inner.values))
        (cached_entries s.registry env.now)
      rw [listed_tools, same, List.append_assoc, List.mem_append, List.mem_append] at member
      rcases member with own | live | cached
      · exact Or.inl own
      · exact Or.inr (Or.inl live)
      · obtain ⟨absent, entry, kept, from_entry⟩ := added tool cached
        refine Or.inr (Or.inr ⟨fun session_id published => absent ?_, entry,
          mem_cached_entries.mp kept, from_entry⟩)
        rw [List.map_append, List.mem_append, mem_proxy_names]
        exact Or.inr ⟨session_id, published⟩

/-! ## Asking for one tool -/

theorem handle_get_tool {s : CallState} (free : s.registry.locked = false) (name : String) :
    (get_tool crates router name).handle env.reg s =
      some ((router.list_all ++ proxy_tools (build_proxy_view crates s.registry.inner.values)).find?
        fun tool => tool.name == name, s) := by
  rw [get_tool, List.find?_append, ← ToolRouter.get]
  cases router.get name with
  | some tool => rfl
  | none =>
    simp only
    rw [Prog.handle_perform, reg_of_free env free, Option.bind_some]
    rfl

theorem name_of_find {tools : List Tool} {name : String} {tool : Tool}
    (found : tools.find? (fun tool => tool.name == name) = some tool) : tool.name = name := by
  have named := List.find?_some found
  exact eq_of_beq named

/-- The first tool of a name is the only one listed if the base has no other and the rest has
none. -/
theorem find_agrees_iff {base more : List Tool} {name : String}
    (apart : ∀ tool ∈ more, tool.name ∉ base.map Tool.name) :
    (∀ tool, base.find? (fun tool => tool.name == name) = some tool ↔
        tool ∈ base ++ more ∧ tool.name = name) ↔
      (∀ tool ∈ more, tool.name ≠ name) ∧
        ∀ tool ∈ base, ∀ tool' ∈ base, tool.name = name → tool'.name = name → tool = tool' := by
  constructor
  · intro agree
    have found {tool : Tool} (member : tool ∈ base ++ more) (named : tool.name = name) :
        base.find? (fun tool => tool.name == name) = some tool := (agree tool).mpr ⟨member, named⟩
    constructor
    · intro tool member named
      have first := found (List.mem_append_right base member) named
      exact apart tool member (List.mem_map_of_mem (List.mem_of_find?_eq_some first))
    · intro tool member tool' member' named named'
      have first := found (List.mem_append_left more member) named
      have first' := found (List.mem_append_left more member') named'
      exact Option.some.inj (first.symm.trans first')
  · intro ⟨absent, alone⟩ tool
    constructor
    · intro first
      exact ⟨List.mem_append_left more (List.mem_of_find?_eq_some first), name_of_find first⟩
    · intro ⟨member, named⟩
      rcases List.mem_append.mp member with here | later
      · have some : (base.find? fun tool => tool.name == name).isSome :=
          List.find?_isSome.mpr ⟨tool, here, beq_iff_eq.mpr named⟩
        obtain ⟨tool', first⟩ := Option.isSome_iff_exists.mp some
        have same := alone tool here tool' (List.mem_of_find?_eq_some first) named
          (name_of_find first)
        rw [first, same]
      · exact absurd named (absent tool later)

/-- Distinct names leave a clash only between a tool of the manager and a live one. -/
theorem alone_iff {own live : List Tool} {name : String} (own_distinct : (own.map Tool.name).Nodup)
    (live_distinct : (live.map Tool.name).Nodup) :
    (∀ tool ∈ own ++ live, ∀ tool' ∈ own ++ live,
        tool.name = name → tool'.name = name → tool = tool') ↔
      ∀ tool ∈ own, ∀ tool' ∈ live, tool.name = name → tool'.name = name → tool = tool' := by
  constructor
  · intro alone tool member tool' member'
    exact alone tool (List.mem_append_left live member) tool' (List.mem_append_right own member')
  · intro alone tool member tool' member' named named'
    have same := named.trans named'.symm
    rcases List.mem_append.mp member with here | here <;>
      rcases List.mem_append.mp member' with here' | here'
    · exact List.inj_on_of_nodup_map own_distinct here here' same
    · exact alone tool here tool' here' named named'
    · exact (alone tool' here' tool here named' named).symm
    · exact List.inj_on_of_nodup_map live_distinct here here' same

/-- **`get_tool` answers exactly what is listed under a name if the name is not one that only
the cache has, and no live tool differs from the manager's own tool of that name.** -/
theorem get_tool_agrees_iff {s : CallState} (free : s.registry.locked = false) (name : String) :
    ∃ tools s' answer, (list_all_tools_inner crates router.list_all).handle env.reg s = some (tools, s') ∧
      (get_tool crates router name).handle env.reg s = some (answer, s) ∧
      ((∀ tool, answer = some tool ↔ tool ∈ tools ∧ tool.name = name) ↔
        ((∃ entry, Unexpired s.registry env.now entry ∧ entry.publishes name) →
            name ∈ router.names ∨ ∃ session_id, Published s.registry.inner.values session_id name) ∧
          ∀ own ∈ router.list_all,
            ∀ live ∈ proxy_tools (build_proxy_view crates s.registry.inner.values),
              own.name = name → live.name = name → own = live) := by
  obtain ⟨s', listed⟩ := handle_listing env crates free router.list_all
  refine ⟨_, s', _, listed, handle_get_tool env crates router free name, ?_⟩
  obtain ⟨more, same, -, added⟩ := extend_listing_eq
    (router.list_all ++ proxy_tools (build_proxy_view crates s.registry.inner.values))
    (cached_entries s.registry env.now)
  have view : ((proxy_tools (build_proxy_view crates s.registry.inner.values)).map Tool.name).Nodup := by
    rw [proxy_tools, List.map_map]
    exact nodup_view
  have in_base : name ∈ (router.list_all ++
        proxy_tools (build_proxy_view crates s.registry.inner.values)).map Tool.name ↔
      name ∈ router.names ∨ ∃ session_id, Published s.registry.inner.values session_id name := by
    rw [List.map_append, List.mem_append, mem_proxy_names]
    rfl
  rw [listed_tools, same, find_agrees_iff fun tool member => (added tool member).1,
    alone_iff router.distinct view, ← in_base]
  refine and_congr_left fun _ => ?_
  constructor
  · rintro absent ⟨entry, kept, publishes⟩
    have here : name ∈ (listed_tools crates router.list_all s.registry env.now).map Tool.name :=
      (mem_listed_names crates).mpr (Or.inr (Or.inr ⟨entry, mem_cached_entries.mpr kept, publishes⟩))
    rw [listed_tools, same, List.map_append, List.mem_append] at here
    refine here.resolve_right fun after => ?_
    obtain ⟨tool, member, named⟩ := List.mem_map.mp after
    exact absent tool member named
  · rintro uncached tool member rfl
    obtain ⟨absent, entry, kept, descriptor, here, publishes, -⟩ := added tool member
    exact absent (uncached ⟨entry, mem_cached_entries.mp kept, descriptor, here, publishes⟩)

end Agreement

/-! ## A live tool named as one of the manager's -/

def session_list : Tool where
  name := "session_list"
  description := "List active session-manager sessions (1C clients connected via WS)"
  input_schema := [("type", .string "object")]

def own_tools : ToolRouter where
  list_all := [session_list]
  distinct := List.nodup_singleton _

/-- One client, with a tool of the name `session_list`. -/
def shadowing : Surroundings :=
  { quiet with registry := one_client [{ plain_tool with name := "session_list" }] }

/-- The listing has `session_list` twice. -/
theorem shadowed_name_is_listed_twice :
    Reached none shadowing.registry ∧ ∃ tools s,
      (list_all_tools_inner permissive_crates own_tools.list_all).handle shadowing.reg shadowing.start =
          some (tools, s) ∧
        ¬ SoundListing permissive_crates own_tools shadowing.registry shadowing.now tools := by
  obtain ⟨s, listed⟩ := handle_listing shadowing permissive_crates (s := shadowing.start) rfl
    own_tools.list_all
  refine ⟨one_client_reached _, _, s, listed, fun sound => ?_⟩
  have apart := (nodup_base permissive_crates own_tools).mp (nodup_extend_listing.mp sound.distinct)
  refine apart "session_list" (List.mem_singleton_self _) "s" ?_
  exact ⟨_, List.mem_singleton_self _, rfl, rfl, _, List.mem_singleton_self _, rfl⟩

theorem plain_listing_is_sound :
    ∃ tools s, (list_all_tools_inner permissive_crates own_tools.list_all).handle quiet.reg quiet.start =
        some (tools, s) ∧
      (SoundListing permissive_crates own_tools quiet.registry quiet.now tools ↔
        ∀ name ∈ own_tools.names, ∀ session_id,
          ¬ Published quiet.registry.inner.values session_id name) :=
  sound_listing_iff quiet permissive_crates own_tools (s := quiet.start) rfl

/-! ## A tool that only the cache has -/

/-- A new manager whose cache has a tool of a client that is gone. -/
def restarted : Surroundings :=
  { quiet with
    registry := .new (some (ToolsCacheStore.put
      { inner := .empty, cache_life := chrono_days 5, enabled := true } "client" "client"
        [plain_tool] 0).2) }

/-- The tool is listed, and `get_tool` has none of its name. -/
theorem cached_tool_is_not_found :
    ∃ tools s tool, (list_all_tools_inner permissive_crates own_tools.list_all).handle restarted.reg
          restarted.start = some (tools, s) ∧
      tool ∈ tools ∧ tool.name = "t" ∧
        (get_tool permissive_crates own_tools "t").handle restarted.reg restarted.start =
          some (none, restarted.start) := by
  obtain ⟨s, listed⟩ := handle_listing restarted permissive_crates (s := restarted.start) rfl
    own_tools.list_all
  have kept : Unexpired restarted.registry 0
      { kind := "client", config_id := "client", tools := [plain_tool], last_seen_at := 0 } :=
    ⟨_, ("client", "client"), rfl, rfl, rfl, Nat.zero_le _⟩
  have named : "t" ∈ (listed_tools permissive_crates own_tools.list_all restarted.registry 0).map
      Tool.name := (mem_listed_names permissive_crates).mpr
    (Or.inr (Or.inr ⟨_, mem_cached_entries.mpr kept, plain_tool, List.mem_singleton_self _, rfl⟩))
  obtain ⟨tool, member, same⟩ := List.mem_map.mp named
  exact ⟨_, s, tool, listed, member, same,
    handle_get_tool restarted permissive_crates own_tools (s := restarted.start) rfl "t"⟩

theorem only_client_is_found :
    ∃ tools s answer, (list_all_tools_inner permissive_crates own_tools.list_all).handle quiet.reg
          quiet.start = some (tools, s) ∧
      (get_tool permissive_crates own_tools "t").handle quiet.reg quiet.start =
        some (answer, quiet.start) ∧
      ((∀ tool, answer = some tool ↔ tool ∈ tools ∧ tool.name = "t") ↔
        ((∃ entry, Unexpired quiet.registry quiet.now entry ∧ entry.publishes "t") →
            "t" ∈ own_tools.names ∨ ∃ session_id, Published quiet.registry.inner.values session_id "t") ∧
          ∀ own ∈ own_tools.list_all,
            ∀ live ∈ proxy_tools (build_proxy_view permissive_crates quiet.registry.inner.values),
              own.name = "t" → live.name = "t" → own = live) :=
  get_tool_agrees_iff quiet permissive_crates own_tools (s := quiet.start) rfl "t"

end SessionManager
