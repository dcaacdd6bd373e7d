import SessionManager.Manager.AgentCalls
import SessionManager.Manager.Outcomes

/-!
# What a session publishes when it is called

A call is resolved in one snapshot of the registry and goes to a record that is read later.  In
between the session may be given other tools, of which the call learns nothing: it checks that the
record is active, and no more (`called_publishes_iff`).
-/

namespace SessionManager

open Json Effect

variable {ι : Type}

/-- The tools that a section leaves a session with, if it names any. -/
def RegOp.gives_tools (session_id : String) : ∀ {β : Type}, RegOp β → β → Option (List ToolDescriptor)
  | _, .register params _ _, .ok _ =>
      if params.client_uid = session_id then some params.tools else none
  | _, .update_tools uid tools, some _ => if uid = session_id then some tools else none
  | _, _, _ => none

def ManagerOp.gives_tools (session_id : String) :
    ∀ {β : Type}, ManagerOp ι β → β → Option (List ToolDescriptor)
  | _, .reg op, answer => op.gives_tools session_id answer
  | _, _, _ => none

/-- The tools that a session was given last. -/
def last_tools (session_id : String) (tr : List (PoolEvent ι (ManagerOp ι))) :
    Option (List ToolDescriptor) :=
  (tr.filterMap fun ev => ev.event.request.gives_tools session_id ev.event.answer).getLast?

theorem last_tools_snoc (session_id : String) (past : List (PoolEvent ι (ManagerOp ι))) (i : ι)
    {β : Type} (op : ManagerOp ι β) (answer : β) :
    last_tools session_id (past ++ [⟨i, ⟨op, answer⟩⟩]) =
      (op.gives_tools session_id answer).or (last_tools session_id past) := by
  rw [last_tools, List.filterMap_append]
  cases given : op.gives_tools session_id answer <;> simp [last_tools, given]

/-- A report leaves its session with the tools it names, if there is a record. -/
theorem tools_of_report {uid : String} {tools : List ToolDescriptor}
    {answer : Option (Bool × String × String)} {reg reg' : SessionRegistry}
    (ran : reg.replace_tools uid tools = (answer, reg')) {record' : SessionRecord}
    (found : reg'.inner.get uid = some record') : answer = none ∨ record'.tools = tools := by
  rcases reg.replace_tools_cases uid tools with
    ⟨-, none⟩ | ⟨record, here, ⟨same, kept⟩ | ⟨-, replaced⟩⟩
  · exact .inl (congrArg Prod.fst (ran.symm.trans none))
  · right
    rw [kept] at ran
    cases ran
    rw [here] at found
    cases found
    exact same
  · right
    rw [replaced] at ran
    cases ran
    rw [SessionRegistry.set_record, HashMap.get_insert, if_pos rfl] at found
    cases found
    rfl

/-- After a section a session has the tools the section names, or those it had. -/
theorem RegOp.tools_run {β : Type} {op : RegOp β} {answer : β} {now : Nat} {reg reg' : SessionRegistry}
    (ran : op.run now reg = (answer, reg')) {session_id : String} {record' : SessionRecord}
    (found : reg'.inner.get session_id = some record') :
    op.gives_tools session_id answer = some record'.tools ∨
      op.gives_tools session_id answer = none ∧ ∃ record, reg.inner.get session_id = some record ∧
        record'.tools = record.tools := by
  have changed := op.changed ran session_id
  rw [found] at changed
  generalize before : reg.inner.get session_id = old at changed
  cases changed with
  | kept record spared =>
    cases op with
    | register params instant connection =>
      cases answer with
      | error error => exact .inr ⟨rfl, record', rfl, rfl⟩
      | ok result => exact .inr ⟨if_neg (spared _ rfl), record', rfl, rfl⟩
    | update_tools uid tools =>
      by_cases own : uid = session_id
      · subst own
        rcases tools_of_report ran found with none | named
        · subst none
          exact .inr ⟨rfl, record', rfl, rfl⟩
        · cases answer with
          | none => exact .inr ⟨rfl, record', rfl, rfl⟩
          | some same => exact .inl ((if_pos rfl).trans (congrArg some named.symm))
      · cases answer with
        | none => exact .inr ⟨rfl, record', rfl, rfl⟩
        | some same => exact .inr ⟨if_neg own, record', rfl, rfl⟩
    | _ => exact .inr ⟨rfl, record', rfl, rfl⟩
  | created own => exact .inl (if_pos own)
  | reconnected own => exact .inl (if_pos own)
  | disconnected | disconnected_if | touched => exact .inr ⟨rfl, _, rfl, rfl⟩
  | retooled => exact .inl (if_pos rfl)

section Runs

variable [DecidableEq ι] {p q : Pool ι (ManagerOp ι) (ManagerWorld ι) ManagerReturn}
  {tr : List (PoolEvent ι (ManagerOp ι))}

/-- After a run a session has the tools it was given last, or those it had. -/
theorem tools_since (run : Pool.Run managerSemantics p tr q) {session_id : String}
    {record' : SessionRecord} (found : q.shared.registry.inner.get session_id = some record') :
    last_tools session_id tr = some record'.tools ∨
      last_tools session_id tr = none ∧ ∃ record,
        p.shared.registry.inner.get session_id = some record ∧ record'.tools = record.tools := by
  refine run.replay.history (I := fun w past => ∀ record', w.registry.inner.get session_id =
    some record' → last_tools session_id past = some record'.tools ∨
      last_tools session_id past = none ∧ ∃ record,
        p.shared.registry.inner.get session_id = some record ∧ record'.tools = record.tools)
    (fun record' found => .inr ⟨rfl, record', found, rfl⟩) ?_ record' found
  intro w w' past i β op answer before answered record' found
  rw [last_tools_snoc]
  obtain ⟨rop, rfl, ran⟩ | ⟨-, outside, same⟩ := section_of_step answered
  · rcases RegOp.tools_run (RegOp.run_of_apply ran) found with named | ⟨quiet, record, here, tools⟩
    · exact .inl (by simp [ManagerOp.gives_tools, named])
    · simp only [ManagerOp.gives_tools, quiet, Option.none_or]
      rw [tools]
      exact before record here
  · have quiet : op.gives_tools session_id answer = none := by
      cases op with
      | reg rop => exact absurd rfl (outside rop)
      | _ => rfl
    rw [quiet, Option.none_or]
    exact before record' (same ▸ found)

variable {settings : ManagerSettings} {tools_cache : Option ToolsCacheStore}
  {tasks : ι → ManagerTask ι}

/-- An answered section of a run, in the registries around it. -/
theorem ran_of_step {i : ι} {β : Type} {op : RegOp β} {answer : β}
    (step : Pool.Step managerSemantics p ⟨i, ⟨.reg op, answer⟩⟩ q) :
    op.run p.shared.now p.shared.registry = (answer, q.shared.registry) := by
  cases step with
  | step rest answered =>
    obtain ⟨rop, same, ran⟩ | ⟨-, outside, -⟩ := section_of_step answered
    · cases same
      exact RegOp.run_of_apply ran
    · exact absurd rfl (outside op)

/-- The record that a session had in a snapshot, and the one that was read later. -/
theorem read_twice {x y z : List (PoolEvent ι (ManagerOp ι))} {i j : ι}
    {snapshot : List SessionRecord} {session_id name : String} {record : SessionRecord}
    (run : Pool.Run managerSemantics (managerPool settings tools_cache tasks)
      (x ++ ⟨i, ⟨.reg .snapshot, snapshot⟩⟩ :: y ++
        ⟨j, ⟨.reg (.get session_id), some record⟩⟩ :: z) q)
    (published : Published snapshot session_id name) :
    last_tools session_id y = some record.tools ∨
      last_tools session_id y = none ∧ record.publishes name := by
  obtain ⟨s, s', before, get, -⟩ := run.split
  obtain ⟨r, r', first, look, since⟩ := before.split
  have seen := ran_of_step look
  have found : s.shared.registry.inner.get session_id = some record :=
    congrArg Prod.fst (ran_of_step get)
  have keyed : r.shared.registry.keyed := (reached_of_run first).keyed
  have enumerated : r.shared.registry.enumerates snapshot := by
    have listed : r.shared.registry.inner.values = snapshot := congrArg Prod.fst seen
    rw [← listed]
    exact .refl _
  obtain ⟨old, here, -, offers⟩ := (offers_iff_published keyed enumerated).mpr published
  have kept : r'.shared.registry = r.shared.registry := (congrArg Prod.snd seen).symm
  rcases tools_since since found with named | ⟨none, record', there, tools⟩
  · exact .inl named
  · rw [kept, here] at there
    cases there
    refine .inr ⟨none, publishes_iff.mpr ?_⟩
    rw [tools]
    exact offers

/-- A section that a call asked for, among the steps of all tasks. -/
theorem split_of_own_reg {i : ι} {u v : List (Event ProxyOp)} {β : Type} {op : RegOp β} {answer : β}
    (same : proxied (Pool.project i tr) = u ++ ⟨.reg op, answer⟩ :: v) :
    ∃ x y, tr = x ++ ⟨i, ⟨.reg op, answer⟩⟩ :: y ∧ proxied (Pool.project i x) = u := by
  obtain ⟨x, y, mine, before⟩ := split_of_proxied_reg same
  obtain ⟨x', y', split, first, -⟩ := Pool.project_split mine
  exact ⟨x', y', split, by rw [first, before]⟩

/-- **A call goes to a record that publishes its tool exactly if the session was given no other
tools after the snapshot, or such that publish it.** -/
theorem called_publishes_iff {caller : CallerInfo} {request : CallToolRequestParams} {i : ι}
    {a b : List (PoolEvent ι (ManagerOp ι))} {ev : Event (ManagerOp ι)} {connection : Nat}
    {value : Value} (task : tasks i = .agent_call caller request)
    (run : Pool.Run managerSemantics (managerPool settings tools_cache tasks) (a ++ ⟨i, ev⟩ :: b) q)
    (puts : ev.request.puts_call connection value) :
    ∃ session_id name arguments snapshot record x y z,
      value = ToolCallParams.to_value { name, arguments } ∧
      a = x ++ ⟨i, ⟨.reg .snapshot, snapshot⟩⟩ :: y ++
        ⟨i, ⟨.reg (.get session_id), some record⟩⟩ :: z ∧
      record.state = .Active ∧ record.connection = some connection ∧
      (record.publishes name ↔ ∀ tools, last_tools session_id y = some tools →
        ∃ tool ∈ tools, tool.publishes name = true) := by
  obtain ⟨dispatcher, params, snapshot, session_id, record, same, enqueued⟩ :=
    forwarded (exec_of_run run task) puts
  obtain ⟨u, v, w, read⟩ := enqueued.read
  obtain ⟨x, z, rfl, earlier⟩ := split_of_own_reg read
  obtain ⟨x, y, rfl, -⟩ := split_of_own_reg earlier
  refine ⟨session_id, params.name, params.arguments, snapshot, record, x, y, z, same, rfl,
    enqueued.active, enqueued.connected, ?_⟩
  rw [List.append_assoc] at run
  rcases read_twice run enqueued.published with named | ⟨none, publishes⟩
  · simp only [named, Option.some.injEq, forall_eq']
    exact Iff.rfl
  · simp only [none, reduceCtorEq, false_imp_iff, implies_true, iff_true]
    exact publishes

end Runs

/-! ### Tools that are withdrawn while a call is resolved -/

def withdrawing_settings : ManagerSettings := gated_settings masking_off

/-- A client registers with one tool and then reports that it has none. -/
def withdrawing_tasks : Bool → ManagerTask Bool
  | false => .socket [registers "s" [plain_tool], reports_tools []]
  | true => .agent_call anonymous plain_call

/-- The report comes after the snapshot of the call, before it reads the record. -/
def withdrawing_run := ManagerPool.play .unreachable
  (List.replicate 7 false ++ [true, false] ++ List.replicate 20 true)
  (managerPool withdrawing_settings none withdrawing_tasks)

/-- The record of the client after its report. -/
def withdrawn_session : SessionRecord :=
  SessionRegistry.new_record (.new none) (client_params "s" []) 0 (some 0)

/-- The `tool.call` of the agent. -/
def withdrawn_call : PoolEvent Bool (ManagerOp Bool) :=
  ⟨true, ⟨.disp 0 0 (.conn (.outbound_send (.request (mgr_id 0) methods.TOOL_CALL
    (ToolCallParams.to_value { name := "t", arguments := .object [] })))), .accepted⟩⟩

theorem run_withdrawing : Pool.Run managerSemantics
    (managerPool withdrawing_settings none withdrawing_tasks) withdrawing_run.1 withdrawing_run.2 :=
  ManagerPool.run_play .unreachable
    (List.replicate 7 false ++ [true, false] ++ List.replicate 20 true)
    (managerPool withdrawing_settings none withdrawing_tasks)

set_option maxRecDepth 8000 in
theorem withdrawing_run_splits :
    withdrawing_run.1 = withdrawing_run.1.take 21 ++ withdrawn_call :: [] := rfl

theorem withdrawn_session_publishes_none (name : String) : ¬ withdrawn_session.publishes name := by
  intro publishes
  obtain ⟨tool, member, -⟩ := publishes
  cases member

set_option maxRecDepth 8000 in
/-- The call goes out to a record that has lost the tool. -/
theorem withdrawn_tool_is_called :
    Pool.Run managerSemantics (managerPool withdrawing_settings none withdrawing_tasks)
      withdrawing_run.1 withdrawing_run.2 ∧
    withdrawing_run.1 = withdrawing_run.1.take 21 ++ withdrawn_call :: [] ∧
    withdrawing_run.1[9]? = some ⟨true, ⟨.reg (.get "s"), some withdrawn_session⟩⟩ ∧
    withdrawn_session.connection = some 0 ∧ ¬ withdrawn_session.publishes "t" :=
  ⟨run_withdrawing, withdrawing_run_splits, rfl, rfl, withdrawn_session_publishes_none "t"⟩

theorem called_publishes_iff_withdrawn :
    ∃ session_id name arguments snapshot record x y z,
      ToolCallParams.to_value { name := "t", arguments := .object [] } =
        ToolCallParams.to_value { name, arguments } ∧
      withdrawing_run.1.take 21 = x ++ ⟨true, ⟨.reg .snapshot, snapshot⟩⟩ :: y ++
        ⟨true, ⟨.reg (.get session_id), some record⟩⟩ :: z ∧
      record.state = .Active ∧ record.connection = some 0 ∧
      (record.publishes name ↔ ∀ tools, last_tools session_id y = some tools →
        ∃ tool ∈ tools, tool.publishes name = true) := by
  have run := run_withdrawing
  rw [withdrawing_run_splits] at run
  exact called_publishes_iff rfl run ⟨_, rfl⟩

end SessionManager
