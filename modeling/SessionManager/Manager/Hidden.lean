import SessionManager.Manager.Runs

/-!
# Names that are listed as internal

Transport normalises what clients register, so no record publishes a name that the configuration
lists as internal.  The cache a manager starts with is taken over as it is: what it has public
under such a name is shown to agents (`listed_names_hidden_iff`).
-/

namespace SessionManager

open Json Effect

open Prog (perform Ensures ensures_ret ensures_perform)

/-! ## Listings -/

/-- The entry was listed after an eviction. -/
def ListedFresh (tr : List (Event RegOp)) (entry : ToolsCacheEntry) : Prop :=
  ∃ a evicted b found, tr = a ++ ⟨.evict_expired, evicted⟩ :: b ∧
    ⟨.list_cache, some found⟩ ∈ b ∧ entry ∈ found

theorem list_all_ensures : list_all.Ensures fun tr entries => ∀ entry ∈ entries,
    ListedFresh tr entry := by
  have listed (answer : Option Bool) (events : List (Event RegOp)) :
      (perform .list_cache >>= fun found => pure (found.getD [])).Ensures fun tr entries =>
        ∀ entry ∈ entries, ListedFresh (⟨.evict_expired, answer⟩ :: (events ++ tr)) entry := by
    refine ensures_perform.mpr fun found => ensures_ret.mpr fun entry member => ?_
    cases found with
    | none => cases member
    | some found => exact ⟨[], answer, _, found, rfl, by simp, member⟩
  unfold list_all
  refine ensures_perform.mpr fun evicted => ?_
  cases evicted with
  | none => exact ensures_ret.mpr fun entry member => by cases member
  | some evicted =>
    cases evicted with
    | false => exact listed _ []
    | true => exact ensures_perform.mpr fun _ => listed _ [_]

/-- What a listing is made of. -/
theorem list_all_tools_ensures (crates : Crates) (builtin : List Tool) :
    (list_all_tools_inner crates builtin).Ensures fun tr tools => ∃ snapshot entries,
      tools = extend_listing (builtin ++ proxy_tools (build_proxy_view crates snapshot)) entries ∧
      ⟨.snapshot, snapshot⟩ ∈ tr ∧ ∀ entry ∈ entries, ListedFresh tr entry := by
  unfold list_all_tools_inner
  refine ensures_perform.mpr fun snapshot => ?_
  refine list_all_ensures.bind fun tr entries listed => ensures_ret.mpr ?_
  refine ⟨snapshot, entries, rfl, List.mem_cons_self, fun entry member => ?_⟩
  obtain ⟨a, evicted, b, found, same, rest⟩ := listed entry member
  exact ⟨_ :: a, evicted, b, found, by rw [List.append_nil, same, List.cons_append], rest⟩

/-! ## The clock -/

variable {ι : Type} [DecidableEq ι] {i : ι} {w w' : ManagerWorld ι} {β : Type}

theorem DispOp.now_le {op : DispOp ι β} {answer : β} {v v' : DispatcherWorld ι}
    (applied : op.apply i v = some (answer, v')) : v.now ≤ v'.now := by
  cases op with
  | tick =>
    cases applied
    exact Nat.le_succ _
  | fetch_add_inflight | fetch_sub_inflight =>
    simp only [DispOp.apply, Option.some.injEq, Prod.mk.injEq] at applied
    rw [← applied.2, DispatcherWorld.set_inflight_now]
  | conn | load_state | store_drained | release_permit | cancel =>
    cases applied
    exact Nat.le_refl _
  | poll_admission | resume_admission | select =>
    simp only [DispOp.apply] at applied
    repeat' split at applied
    all_goals
      cases applied
      try exact Nat.le_refl _
  | select_cancel_sent =>
    simp only [DispOp.apply, Option.map_eq_some_iff] at applied
    obtain ⟨_, -, same⟩ := applied
    cases same
    exact Nat.le_refl _

/-- Time does not run backwards. -/
theorem now_le_of_step {op : ManagerOp ι β} {answer : β}
    (answered : managerSemantics i w op answer w') : w.now ≤ w'.now := by
  obtain applied | ⟨-, rfl⟩ := answered
  · cases op with
    | disp d c op =>
      simp only [ManagerOp.apply, Option.map_eq_some_iff] at applied
      obtain ⟨⟨b, v⟩, ran, same⟩ := applied
      cases same
      exact DispOp.now_le ran
    | tick =>
      cases applied
      exact Nat.le_succ _
    | reg | timeout_at =>
      simp only [ManagerOp.apply, Option.map_eq_some_iff] at applied
      obtain ⟨_, -, same⟩ := applied
      cases same
      exact Nat.le_refl _
    | mask | resolve => cases applied
    | _ =>
      cases applied
      exact Nat.le_refl _
  · exact Nat.le_refl _

/-! ## The cache of a manager -/

/-- The entry has no name for agents that is listed as internal, unless it is the manager's own. -/
def ManagerSettings.Clean (settings : ManagerSettings) (entry : ToolsCacheEntry) : Prop :=
  ∀ name, entry.publishes name → name ∈ settings.gate.internal_tools →
    name ∈ settings.builtin.map Tool.name

/-- Some task has evicted expired entries. -/
def Evicted (tr : List (PoolEvent ι (ManagerOp ι))) : Prop :=
  ∃ i answer, ⟨i, ⟨.reg .evict_expired, answer⟩⟩ ∈ tr

/-- What is not clean had expired before the manager started, and is still to be evicted. -/
structure KeepsCache (settings : ManagerSettings) (w : ManagerWorld ι)
    (past : List (PoolEvent ι (ManagerOp ι))) : Prop where
  clock : settings.started_at ≤ w.now
  entries : ∀ store key entry, w.registry.tools_cache = some store → store.enabled = true →
    store.inner.get key = some entry → settings.Clean entry ∨
      ¬ Evicted past ∧ ¬ settings.started_at - entry.last_seen_at ≤ store.life

theorem KeepsCache.step {settings : ManagerSettings} {past : List (PoolEvent ι (ManagerOp ι))}
    {g : TaskLog} {op : ManagerOp ι β} {answer : β} (keeps : KeepsCache settings w past)
    (allowed : (taskProtocol settings.gate).allows g op)
    (answered : managerSemantics i w op answer w') :
    KeepsCache settings w' (past ++ [⟨i, ⟨op, answer⟩⟩]) := by
  refine ⟨keeps.clock.trans (now_le_of_step answered), fun store key entry here enabled found => ?_⟩
  obtain ⟨rop, rfl, ran⟩ | ⟨-, other, same⟩ := section_of_step answered
  · obtain ⟨old, attached, enables, life, kept⟩ := RegOp.cached (RegOp.run_of_apply ran) here
    obtain puts | ⟨before, fresh⟩ := kept key entry found
    · left
      cases rop with
      | put_cache kind config_id tools =>
        intro name publishes listed
        obtain ⟨tool, member, named⟩ := publishes
        rw [ToolDescriptor.publishes, Bool.and_eq_true, beq_iff_eq] at named
        exact (allowed tool (puts.2.2 ▸ member) (named.1 ▸ listed)).elim
      | _ => exact puts.elim
    · have enabled := enables.symm.trans enabled
      obtain clean | ⟨unswept, stale⟩ := keeps.entries old key entry attached enabled before
      · exact .inl clean
      · right
        rw [life]
        refine ⟨fun evicted => ?_, stale⟩
        obtain ⟨j, answer', member⟩ := evicted
        obtain member | last := List.mem_append.mp member
        · exact unswept ⟨j, answer', member⟩
        · cases List.mem_singleton.mp last
          have clock := keeps.clock
          have fresh := fresh trivial enabled
          omega
  · rw [same] at here
    obtain clean | ⟨unswept, stale⟩ := keeps.entries store key entry here enabled found
    · exact .inl clean
    · refine .inr ⟨fun evicted => ?_, stale⟩
      obtain ⟨j, answer', member⟩ := evicted
      obtain member | last := List.mem_append.mp member
      · exact unswept ⟨j, answer', member⟩
      · cases List.mem_singleton.mp last
        exact other _ rfl

section Runs

variable {settings : ManagerSettings} {tools_cache : Option ToolsCacheStore}
  {tasks : ι → ManagerTask ι} {tr : List (PoolEvent ι (ManagerOp ι))}
  {q : Pool ι (ManagerOp ι) (ManagerWorld ι) ManagerReturn}

theorem keeps_cache (run : Pool.Run managerSemantics (managerPool settings tools_cache tasks) tr q)
    (clean : ∀ entry ∈ cached_entries (.new tools_cache) settings.started_at, settings.Clean entry) :
    KeepsCache settings q.shared tr := by
  refine (run.invariant (I := fun _ w past => KeepsCache settings w past)
    (fun i => (tasks i).follows settings) ⟨Nat.le_refl _, ?_⟩ ?_).1
  · intro store key entry attached enabled found
    by_cases fresh : settings.started_at - entry.last_seen_at ≤ store.life
    · exact .inl (clean entry (mem_cached_entries.mpr ⟨store, key, attached, enabled, found, fresh⟩))
    · refine .inr ⟨fun evicted => ?_, fresh⟩
      obtain ⟨i, answer, member⟩ := evicted
      cases member
  · intro phase w w' past i β op answer keeps allowed answered
    exact keeps.step allowed answered

/-- What a listing takes from the cache is clean. -/
theorem clean_of_listed
    (run : Pool.Run managerSemantics (managerPool settings tools_cache tasks) tr q)
    (clean : ∀ entry ∈ cached_entries (.new tools_cache) settings.started_at, settings.Clean entry)
    {i : ι} {l : List (Event RegOp)}
    (own : Pool.project i tr = l.map fun ev => ⟨.reg ev.request, ev.answer⟩)
    {entry : ToolsCacheEntry} (listed : ListedFresh l entry) : settings.Clean entry := by
  obtain ⟨a, evicted, b, found, rfl, later, member⟩ := listed
  obtain ⟨c, d, rfl⟩ := List.append_of_mem later
  simp only [List.map_append, List.map_cons] at own
  obtain ⟨x, rest, rfl, -, own⟩ := Pool.project_split own
  obtain ⟨y, z, rfl, -, -⟩ := Pool.project_split own
  rw [List.append_cons, ← List.append_assoc] at run
  obtain ⟨s, s', before, one, -⟩ := run.split
  have keeps := keeps_cache before clean
  have swept : Evicted (x ++ [⟨i, ⟨.reg .evict_expired, evicted⟩⟩] ++ y) :=
    ⟨i, evicted, by simp⟩
  cases one with
  | @step w _ _ _ _ _ _ _ _ answered =>
    obtain ⟨rop, same, ran⟩ | ⟨-, other, -⟩ := section_of_step answered
    · cases same
      have answer := congrArg Prod.fst (Option.some.inj ran)
      cases live : w.registry.live_cache with
      | none =>
        simp only [live, Option.map_none] at answer
        cases answer
      | some store =>
        simp only [live, Option.map_some, Option.some.injEq] at answer
        rw [← answer, ToolsCacheStore.mem_list] at member
        obtain ⟨key, found⟩ := member
        obtain ⟨attached, enabled⟩ := Option.filter_eq_some_iff.mp live
        obtain clean | ⟨unswept, -⟩ := keeps.entries store key entry attached enabled found
        · exact clean
        · exact (unswept swept).elim
    · exact (other _ rfl).elim

/-- What a listing takes from the sessions is not listed as internal. -/
theorem unlisted_of_snapshot
    (run : Pool.Run managerSemantics (managerPool settings tools_cache tasks) tr q) {i : ι}
    {snapshot : List SessionRecord} (member : ⟨i, ⟨.reg .snapshot, snapshot⟩⟩ ∈ tr)
    {session_id name : String} (published : Published snapshot session_id name) :
    name ∉ settings.gate.internal_tools := by
  obtain ⟨s, taken⟩ := run.takenIn member
  obtain ⟨s', answered⟩ := taken.answered
  obtain ⟨a, b, s'', -, before, -⟩ := taken
  obtain ⟨rop, same, ran⟩ | ⟨-, other, -⟩ := section_of_step answered
  · cases same
    have answer := congrArg Prod.fst (RegOp.run_of_apply ran)
    exact (admissible before).unlisted (.of_eq answer.symm) published
  · exact (other _ rfl).elim

end Runs

omit [DecidableEq ι] in
/-- What a task of the manager returns as a listing. -/
theorem ManagerTask.tools_ensures (settings : ManagerSettings) (task : ManagerTask ι) :
    (task.prog settings).Ensures fun tr result => ∀ tools, result = .tools tools →
      ∃ l snapshot entries, tr = l.map (fun ev => ⟨.reg ev.request, ev.answer⟩) ∧
        tools = extend_listing (settings.builtin ++
          proxy_tools (build_proxy_view settings.crates snapshot)) entries ∧
        ⟨.snapshot, snapshot⟩ ∈ l ∧ ∀ entry ∈ entries, ListedFresh l entry := by
  have others {α : Type} (p : Prog (ManagerOp ι) α) {f : α → ManagerReturn}
      (other : ∀ a tools, f a ≠ .tools tools) {Post : List Tool → List (Event (ManagerOp ι)) → Prop} :
      (p >>= fun a => pure (f a)).Ensures fun tr result =>
        ∀ tools, result = .tools tools → Post tools tr := by
    have any : p.Ensures fun _ _ => True := fun _ _ _ => trivial
    exact any.bind fun _ a _ => ensures_ret.mpr fun tools same => (other a tools same).elim
  cases task with
  | list_tools =>
    refine (list_all_tools_ensures settings.crates settings.builtin).lift.bind ?_
    intro tr tools listed
    obtain ⟨l, rfl, snapshot, entries, rfl, viewed, fresh⟩ := listed
    refine ensures_ret.mpr fun tools same => ?_
    cases same
    exact ⟨l, snapshot, entries, List.append_nil _, rfl, viewed, fresh⟩
  | _ => exact others _ (fun _ _ same => by cases same)

/-- Nothing listed as internal is shown, published or routed. -/
structure HidesListed (settings : ManagerSettings)
    (q : Pool ι (ManagerOp ι) (ManagerWorld ι) ManagerReturn) : Prop where
  listings : ∀ i tools, q.thread i = .ret (.tools tools) → ∃ proxied,
    tools = settings.builtin ++ proxied ∧
      ∀ tool ∈ proxied, tool.name ∉ settings.gate.internal_tools
  records : ∀ uid record, q.shared.registry.inner.get uid = some record →
    ∀ tool ∈ record.tools, tool.visibility = .Public → tool.name ∉ settings.gate.internal_tools
  routes : ∀ snapshot, q.shared.registry.enumerates snapshot →
    ∀ name ∈ settings.gate.internal_tools, ∀ requested_session_id resolved,
      resolve_published name (build_proxy_view settings.crates snapshot) requested_session_id ≠
        .ok resolved

theorem hides_listed {settings : ManagerSettings} {tools_cache : Option ToolsCacheStore}
    {tasks : ι → ManagerTask ι} {tr : List (PoolEvent ι (ManagerOp ι))}
    {q : Pool ι (ManagerOp ι) (ManagerWorld ι) ManagerReturn}
    (run : Pool.Run managerSemantics (managerPool settings tools_cache tasks) tr q)
    (clean : ∀ entry ∈ cached_entries (.new tools_cache) settings.started_at, settings.Clean entry) :
    HidesListed settings q where
  listings i tools returned := by
    have exec := run.project i
    rw [returned] at exec
    obtain ⟨l, snapshot, entries, own, rfl, viewed, fresh⟩ :=
      (tasks i).tools_ensures settings _ _ exec tools rfl
    have snapshot_taken : ⟨i, ⟨.reg .snapshot, snapshot⟩⟩ ∈ tr := by
      rw [← Pool.mem_project, own, List.mem_map]
      exact ⟨_, viewed, rfl⟩
    obtain ⟨extra, same, -, added⟩ := extend_listing_eq
      (settings.builtin ++ proxy_tools (build_proxy_view settings.crates snapshot)) entries
    refine ⟨proxy_tools (build_proxy_view settings.crates snapshot) ++ extra, ?_, ?_⟩
    · rw [same, List.append_assoc]
    · intro tool member listed
      obtain live | member := List.mem_append.mp member
      · obtain ⟨slot, here, rfl⟩ := List.mem_map.mp live
        obtain ⟨session_id, published⟩ := mem_view_names.mp (List.mem_map_of_mem here)
        exact unlisted_of_snapshot run snapshot_taken published listed
      · obtain ⟨new, entry, kept, descriptor, here, publishes, -⟩ := added tool member
        have own := clean_of_listed run clean own (fresh entry kept) tool.name
          ⟨descriptor, here, publishes⟩ listed
        rw [List.map_append] at new
        exact new (List.mem_append_left _ own)
  records uid record found := (admissible run uid record found).normalized
  routes snapshot enumerated name listed requested_session_id resolved ok := by
    obtain ⟨named, published⟩ := resolve_published_ok ok
    exact (admissible run).unlisted enumerated published listed

/-- A manager that has just started lists what its cache offers. -/
theorem handle_first_listing (settings : ManagerSettings) (tools_cache : Option ToolsCacheStore) :
    ∃ tools w', ((ManagerTask.list_tools (ι := Unit)).prog settings).handle
        (fun op w => op.apply () w) (.new tools_cache settings.started_at) = some (.tools tools, w') ∧
      ∀ entry ∈ cached_entries (.new tools_cache) settings.started_at, ∀ name,
        entry.publishes name → name ∈ tools.map Tool.name := by
  let env : Surroundings :=
    { quiet with registry := .new tools_cache, now := settings.started_at }
  obtain ⟨tools, s, listed, names⟩ := handle_list_all_tools env settings.crates (s := env.start)
    rfl settings.builtin
  have sections := Prog.handle_embed (h := fun op reg => op.apply env.now reg) (k := env.reg)
    (fun registry => { env.start with registry }) (fun _ _ => rfl)
    (list_all_tools_inner settings.crates settings.builtin) (.new tools_cache)
  rw [show { env.start with registry := .new tools_cache } = env.start from rfl, listed] at sections
  obtain ⟨⟨tools', reg⟩, handled, same⟩ := Option.map_eq_some_iff.mp sections.symm
  cases same
  let w (registry : SessionRegistry) : ManagerWorld Unit :=
    { ManagerWorld.new tools_cache settings.started_at with registry }
  have listing : (list_all_tools_inner settings.crates settings.builtin).handle
      (fun op w => (ManagerOp.reg op).apply () w) (.new tools_cache settings.started_at) =
        some (tools', w reg) := by
    refine (Prog.handle_embed (h := fun op reg => op.apply env.now reg) w (fun _ _ => rfl)
      (list_all_tools_inner settings.crates settings.builtin) (.new tools_cache)).trans ?_
    rw [handled]
    rfl
  refine ⟨tools', w reg, ?_, fun entry cached name publishes => ?_⟩
  · rw [ManagerTask.prog, Prog.handle_bind, Prog.handle_lift, listing]
    rfl
  · exact (names name).mpr (.inr (.inr ⟨entry, cached, publishes⟩))

/-- Some run shows agents what the cache offers when the manager starts. -/
theorem first_listing_shows (settings : ManagerSettings) (tools_cache : Option ToolsCacheStore) :
    ∃ tr q tools, Pool.Run managerSemantics
        (managerPool settings tools_cache fun _ : Unit => .list_tools) tr q ∧
      q.thread () = .ret (.tools tools) ∧
      ∀ entry ∈ cached_entries (.new tools_cache) settings.started_at, ∀ name,
        entry.publishes name → name ∈ tools.map Tool.name := by
  obtain ⟨tools, w', handled, names⟩ := handle_first_listing settings tools_cache
  have runs : ∃ tr, Pool.Run managerSemantics
      (managerPool settings tools_cache fun _ : Unit => .list_tools) tr _ :=
    Pool.Run.of_handle (i := ()) (fun _ _ applied => .inl applied) handled
  obtain ⟨tr, run⟩ := runs
  exact ⟨tr, _, tools, run, rfl, names⟩

/-- **Internal names stay hidden exactly if the cache offers none when the manager starts.** -/
theorem listed_names_hidden_iff (settings : ManagerSettings) (cfg : ToolsCacheConfig)
    (from_str : String → Option PersistedCache) (text : Option String) :
    (∀ (ι : Type) [DecidableEq ι] (tasks : ι → ManagerTask ι) (tr : List (PoolEvent ι (ManagerOp ι)))
        (q : Pool ι (ManagerOp ι) (ManagerWorld ι) ManagerReturn),
        Pool.Run managerSemantics
          (managerPool settings (some (.load_or_empty cfg from_str text)) tasks) tr q →
        HidesListed settings q) ↔
      ∀ entry ∈ cached_entries (.new (some (.load_or_empty cfg from_str text))) settings.started_at,
        settings.Clean entry := by
  constructor
  · intro hidden entry cached name publishes listed
    obtain ⟨tr, q, tools, run, returned, names⟩ := first_listing_shows settings
      (some (.load_or_empty cfg from_str text))
    obtain ⟨proxied, rfl, unlisted⟩ := (hidden Unit _ tr q run).listings () tools returned
    have shown := names entry cached name publishes
    rw [List.map_append, List.mem_append] at shown
    refine shown.resolve_right fun proxied => ?_
    obtain ⟨tool, member, rfl⟩ := List.mem_map.mp proxied
    exact unlisted tool member listed
  · intro clean ι _ tasks tr q run
    exact hides_listed run clean

/-! ### A cache of an earlier manager -/

/-- The file of a manager that did not list the tool as internal yet. -/
def feed_file : PersistedCache where
  version := 1
  entries := [{
    kind := "client"
    config_id := "client"
    tools := [{
      name := "feed"
      description := none
      input_schema := .object []
      visibility := .Public }]
    last_seen_at := 0 }]

def feed_cache : ToolsCacheStore :=
  .load_or_empty { enabled := true, cache_life := 1000 } (fun _ => some feed_file) (some "")

theorem stale_cache_shows_feed :
    ∃ settings : ManagerSettings, settings.gate.enabled = true ∧
      "feed" ∈ settings.gate.internal_tools ∧ settings.builtin = [] ∧
      ∃ tr q tools, Pool.Run managerSemantics
          (managerPool settings (some feed_cache) fun _ : Unit => .list_tools) tr q ∧
        q.thread () = .ret (.tools tools) ∧ "feed" ∈ tools.map Tool.name := by
  refine ⟨gated_settings { enabled := true, internal_tools := ["feed"] }, rfl,
    List.mem_cons_self, rfl, ?_⟩
  obtain ⟨tr, q, tools, run, returned, names⟩ := first_listing_shows
    (gated_settings { enabled := true, internal_tools := ["feed"] }) (some feed_cache)
  refine ⟨tr, q, tools, run, returned, names _ (mem_cached_entries.mpr
    ⟨feed_cache, ("client", "client"), rfl, rfl, rfl, by decide⟩) "feed" ?_⟩
  exact ⟨_, List.mem_singleton_self _, by decide⟩

end SessionManager
