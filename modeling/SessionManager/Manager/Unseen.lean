import SessionManager.Manager.TaskLog
import SessionManager.Manager.Visible

/-!
# What internal tools change

The programs of the manager over two states that differ in the internal tools of their records.  All
that an agent is shown is the same in both: the listing, the sessions and where each call goes.
-/

namespace SessionManager

open Effect

open Prog (perform)

/-! ## What is shown of a record -/

variable {crates : Crates}

theorem add_record_visible (groups : Groups) (record : SessionRecord) :
    add_record crates groups record.visible = add_record crates groups record := by
  have added (groups : Groups) (tool : ToolDescriptor) : add_tool crates record.visible groups tool =
      add_tool crates record groups tool := rfl
  have folded : (visible_tools record.tools).foldl (add_tool crates record) groups =
      record.tools.foldl (add_tool crates record) groups := by
    rw [visible_tools, List.foldl_filter]
    congr 1
    funext groups tool
    unfold add_tool
    split <;> rfl
  unfold add_record
  simp only [SessionRecord.visible] at added ⊢
  rw [← folded]
  rfl

theorem build_proxy_view_visible (snapshot : List SessionRecord) :
    build_proxy_view crates (snapshot.map SessionRecord.visible) = build_proxy_view crates snapshot := by
  unfold build_proxy_view group_tools
  simp [List.foldl_map, add_record_visible]

theorem publishes_visible {record : SessionRecord} {name : String} :
    record.visible.publishes name ↔ record.publishes name := by
  have kept (tool : ToolDescriptor) : tool ∈ visible_tools record.tools ↔
      tool ∈ record.tools ∧ tool.visibility.is_public = true := List.mem_filter
  unfold SessionRecord.publishes
  constructor
  · intro publishes
    obtain ⟨tool, member, named⟩ := publishes
    exact ⟨tool, ((kept tool).mp member).1, named⟩
  · intro publishes
    obtain ⟨tool, member, named⟩ := publishes
    have visible := named
    rw [ToolDescriptor.publishes, Bool.and_eq_true] at visible
    exact ⟨tool, (kept tool).mpr ⟨member, visible.2⟩, named⟩

theorem from_record_visible (now inflight : Nat) (record : SessionRecord) :
    SessionListItem.from_record now inflight record.visible = .from_record now inflight record := by
  unfold SessionListItem.from_record
  have tools : record.visible.tools.filter (fun tool => tool.visibility.is_public) =
      record.tools.filter fun tool => tool.visibility.is_public := visible_visible_tools record.tools
  rw [tools]
  rfl

/-! ## What is asked of two worlds -/

/-- A request that only reads the registry is the same in both. -/
theorem RegOp.Twin.of_reads {β : Type} {op : RegOp β} (reads : op.reads) :
    RegOp.Twin op op fun b b' => op.see b = op.see b' := by
  refine ⟨rfl, ?_, fun _ _ same => same⟩
  cases op with
  | update_tools => exact reads.elim
  | _ => exact id

theorem list_all_lockstep : Lockstep RegOp.Twin Eq list_all list_all := by
  have marking : RegOp.Twin .mark_tools_changed .mark_tools_changed Eq := .plain id fun _ => rfl
  have listing : Lockstep RegOp.Twin Eq
      (do return (← perform .list_cache).getD [] : Prog RegOp (List ToolsCacheEntry))
      (do return (← perform .list_cache).getD []) := by
    refine .op Eq (.plain id fun _ => rfl) fun entries entries' same => ?_
    subst same
    exact .ret rfl
  unfold list_all
  refine .op Eq (.plain id fun _ => rfl) fun evicted evicted' same => ?_
  subst same
  cases evicted with
  | none => exact .ret rfl
  | some evicted =>
    cases evicted with
    | false => exact listing
    | true => exact .op Eq marking fun _ _ _ => listing

theorem list_all_tools_lockstep (builtin : List Tool) :
    Lockstep RegOp.Twin Eq (list_all_tools_inner crates builtin)
      (list_all_tools_inner crates builtin) := by
  unfold list_all_tools_inner
  refine .op _ (.of_reads trivial) fun snapshot snapshot' same => ?_
  have view : build_proxy_view crates snapshot = build_proxy_view crates snapshot' := by
    rw [← build_proxy_view_visible, ← build_proxy_view_visible snapshot']
    exact congrArg (build_proxy_view crates) same
  dsimp only [Prog.ret_bind, Prog.bind]
  rw [view]
  refine list_all_lockstep.bind fun entries entries' same => ?_
  subst same
  exact .ret rfl

theorem list_items_lockstep (now : Nat) {records records' : List SessionRecord}
    (same : records.map SessionRecord.visible = records'.map SessionRecord.visible) :
    Lockstep ManagerOp.Twin Eq (management.list_items now records)
      (management.list_items now records') := by
  induction records generalizing records' with
  | nil =>
    obtain rfl := List.map_eq_nil_iff.mp same.symm
    exact .ret rfl
  | cons record records ih =>
    cases records' with
    | nil => cases same
    | cons record' records' =>
      obtain ⟨look, rest⟩ := List.cons.inj same
      have dispatcher : record.dispatcher = record'.dispatcher :=
        (congrArg SessionRecord.dispatcher look :)
      unfold management.list_items
      rw [dispatcher]
      refine .op Eq (.other fun _ none => by cases none) fun inflight inflight' same => ?_
      subst same
      refine (ih rest).bind fun items items' same => ?_
      subst same
      rw [← from_record_visible, look, from_record_visible]
      exact .ret rfl

theorem list_sessions_lockstep : Lockstep ManagerOp.Twin Eq management.list management.list := by
  unfold management.list
  refine .op Eq (.other fun _ none => by cases none) fun now now' same => ?_
  subst same
  refine .op _ (.reg (.of_reads trivial)) fun snapshot snapshot' same => ?_
  refine (list_items_lockstep now same).bind fun items items' same => ?_
  subst same
  exact .ret rfl

/-- Where a call goes, without the internal tools of the session's record. -/
def seen_route (routed : Except ProxyAnswer (ResolvedCall × SessionRecord)) :
    Except ProxyAnswer (ResolvedCall × SessionRecord) :=
  routed.map fun target => (target.1, target.2.visible)

theorem fetch_lockstep (resolved : ResolvedCall) :
    Lockstep RegOp.Twin
      (fun found found' => found.map SessionRecord.visible = found'.map SessionRecord.visible)
      (fetch resolved) (fetch resolved) := by
  unfold fetch
  refine .op _ (.of_reads trivial) fun found found' same => ?_
  cases found with
  | none =>
    cases found' with
    | none => exact .ret rfl
    | some record' => cases same
  | some record =>
    cases found' with
    | none => cases same
    | some record' =>
      have look : record.visible = record'.visible := Option.some.inj same
      have state : record.state = record'.state := (congrArg SessionRecord.state look :)
      dsimp only [Prog.ret_bind, Prog.bind]
      rw [state]
      split
      · exact .ret rfl
      · exact .ret (congrArg Except.ok look)

theorem on_resolve_error_lockstep (name : String) (error : ResolveError) :
    Lockstep RegOp.Twin Eq (on_resolve_error name error) (on_resolve_error name error) := by
  cases error with
  | SessionRequired | SessionToolMismatch => exact .ret rfl
  | NotProxyTool =>
    have looked : Lockstep RegOp.Twin Eq (lookup_cache_entry name) (lookup_cache_entry name) := by
      refine list_all_lockstep.bind fun entries entries' same => ?_
      subst same
      exact .ret rfl
    refine looked.bind fun hit hit' same => ?_
    subst same
    cases hit <;> exact .ret rfl

theorem resolve_lockstep (name : String) (requested_session_id : Option String) :
    Lockstep RegOp.Twin (fun routed routed' => seen_route routed = seen_route routed')
      (resolve crates name requested_session_id) (resolve crates name requested_session_id) := by
  unfold resolve
  refine .op _ (.of_reads trivial) fun snapshot snapshot' same => ?_
  have view : build_proxy_view crates snapshot = build_proxy_view crates snapshot' := by
    rw [← build_proxy_view_visible, ← build_proxy_view_visible snapshot']
    exact congrArg (build_proxy_view crates) same
  dsimp only [Prog.ret_bind, Prog.bind]
  rw [view]
  cases resolve_published name (build_proxy_view crates snapshot') requested_session_id with
  | error error =>
    refine (on_resolve_error_lockstep name error).bind fun answer answer' same => ?_
    subst same
    exact .ret rfl
  | ok resolved =>
    refine (fetch_lockstep resolved).bind fun found found' same => ?_
    cases found with
    | error error =>
      cases found' with
      | error error' =>
        cases same
        exact .ret rfl
      | ok record' => cases same
    | ok record =>
      cases found' with
      | error error' => cases same
      | ok record' =>
        have look : record.visible = record'.visible := Except.ok.inj same
        exact .ret (congrArg (fun record => Except.ok (resolved, record)) look)

theorem validate_explicit_target_lockstep (session_id name : String) :
    Lockstep RegOp.Twin Eq (validate_explicit_target session_id name)
      (validate_explicit_target session_id name) := by
  unfold validate_explicit_target
  refine .op _ (.of_reads trivial) fun found found' same => ?_
  cases found with
  | none =>
    cases found' with
    | none => exact .ret rfl
    | some record' => cases same
  | some record =>
    cases found' with
    | none => cases same
    | some record' =>
      have look : record.visible = record'.visible := Option.some.inj same
      have state : record.state = record'.state := (congrArg SessionRecord.state look :)
      have publishes : record.publishes name ↔ record'.publishes name := by
        rw [← publishes_visible, look, publishes_visible]
      dsimp only [Prog.ret_bind, Prog.bind]
      simp only [state, publishes]
      repeat' split
      all_goals exact .ret rfl

theorem route_lockstep (name : String) (requested_session_id : Option String) :
    Lockstep RegOp.Twin (fun routed routed' => seen_route routed = seen_route routed')
      (route crates name requested_session_id) (route crates name requested_session_id) := by
  cases requested_session_id with
  | none => exact resolve_lockstep name none
  | some session_id =>
    refine (validate_explicit_target_lockstep session_id name).bind fun checked checked' same => ?_
    subst same
    cases checked with
    | error error => exact .ret rfl
    | ok checked => exact resolve_lockstep name (some session_id)

end SessionManager
