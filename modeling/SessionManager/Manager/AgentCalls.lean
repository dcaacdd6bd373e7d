import SessionManager.Manager.Conversation
import SessionManager.Server.Forwarding
import SessionManager.Server.NonInterference

/-!
# What the calls of agents put on the wire

An agent's call keeps to its log in the manager too (`agentProtocol`).  So each `tool.call` that it
puts on the wire of a connection rests on what the call itself has read before: a snapshot that
publishes the tool, then the record, and with masking the answer to preflight (`forwarded`).
-/

namespace SessionManager

open Json Effect

open Prog (perform)

variable {ι : Type}

/-- A `tool.call` that the log admits, or a `tool.cancel`. -/
def CallLog.Sends (gate : MaskingGate) (g : CallLog) (dispatcher connection : Nat) (method : String)
    (value : Value) : Prop :=
  (∃ params : ToolCallParams, g.admits gate dispatcher connection params ∧
    value = params.to_value) ∨ method = methods.TOOL_CANCEL

/-- The requests of an agent's call, and what it learns from them. -/
def agentProtocol (crates : Crates) (gate : MaskingGate) : Protocol (ManagerOp ι) CallLog where
  allows g _ op :=
    match op with
    | .reg op => regProtocol.allows g op
    | .mask op => (maskProtocol crates).allows g op
    | .disp dispatcher connection op => op.Sends (g.Sends gate dispatcher connection)
    | .now => True
    | _ => False
  next g _ op answer :=
    match op, answer with
    | .reg op, answer => g.after_reg op answer
    | .mask op, answer => g.after_mask crates op answer
    | _, _ => g

theorem DispOp.Sends.mono {sends sends' : String → Value → Prop} {β : Type}
    (weaken : ∀ method params, sends method params → sends' method params) {op : DispOp ι β}
    (only : op.Sends sends) : op.Sends sends' := by
  cases op with
  | conn op => exact ConnOp.Sends.mono weaken only
  | _ => exact only

/-- **A call keeps to its log in the manager.** -/
theorem agent_call_follows (crates : Crates) (gate : MaskingGate) (caller : CallerInfo)
    (request : CallToolRequestParams) :
    (agentProtocol crates gate).Follows (fun _ _ => True) .empty
      ((call_proxy_tool_inner crates gate caller request).subst
        (ProxyOp.program : ∀ {β : Type}, ProxyOp β → Prog (ManagerOp ι) β)) := by
  refine (Protocol.Follows.subst (fun g => g) ?_ (call_follows gate caller request)).mono
    fun _ _ _ => trivial
  intro g β op allowed
  cases op with
  | reg op => exact ⟨allowed, fun answer => rfl⟩
  | mask op => exact ⟨allowed, fun answer => rfl⟩
  | now => exact ⟨trivial, fun answer => rfl⟩
  | enqueue dispatcher connection params deadline =>
    have messages (method : String) (value : Value) (message : params.Messages method value) :
        g.Sends gate dispatcher connection method value := by
      rcases message with ⟨-, same⟩ | cancel
      · exact .inl ⟨params, allowed, same⟩
      · exact .inr cancel
    refine .of_only (Prog.only_lift.mpr ((enqueue_sends params deadline).mono ?_))
    intro γ op only
    exact ⟨DispOp.Sends.mono messages only, fun answer => rfl⟩

theorem agent_task_follows (settings : ManagerSettings) (caller : CallerInfo)
    (request : CallToolRequestParams) :
    (agentProtocol settings.crates settings.gate).Follows (fun _ _ => True) .empty
      ((ManagerTask.agent_call caller request : ManagerTask ι).prog settings) :=
  (agent_call_follows settings.crates settings.gate caller request).bind fun _ _ _ => trivial

/-! ## What the log remembers -/

/-- What a request of the manager is to the call that makes it. -/
def proxied_event : Event (ManagerOp ι) → Option (Event ProxyOp)
  | ⟨.reg op, answer⟩ => some ⟨.reg op, answer⟩
  | ⟨.mask op, answer⟩ => some ⟨.mask op, answer⟩
  | _ => none

def proxied (tr : List (Event (ManagerOp ι))) : List (Event ProxyOp) := tr.filterMap proxied_event

theorem proxied_append (tr tr' : List (Event (ManagerOp ι))) :
    proxied (tr ++ tr') = proxied tr ++ proxied tr' := List.filterMap_append ..

theorem proxied_event_reg {ev : Event (ManagerOp ι)} {β : Type} {op : RegOp β} {answer : β}
    (same : proxied_event ev = some ⟨.reg op, answer⟩) : ev = ⟨.reg op, answer⟩ := by
  obtain ⟨request, found⟩ := ev
  cases request with
  | reg op' =>
    cases same
    rfl
  | mask op' => cases same
  | _ => cases same

theorem proxied_event_mask {ev : Event (ManagerOp ι)} {β : Type} {op : MaskOp β} {answer : β}
    (same : proxied_event ev = some ⟨.mask op, answer⟩) : ev = ⟨.mask op, answer⟩ := by
  obtain ⟨request, found⟩ := ev
  cases request with
  | mask op' =>
    cases same
    rfl
  | reg op' => cases same
  | _ => cases same

theorem mem_of_proxied_mask {tr : List (Event (ManagerOp ι))} {β : Type} {op : MaskOp β} {answer : β}
    (member : ⟨.mask op, answer⟩ ∈ proxied tr) : ⟨.mask op, answer⟩ ∈ tr := by
  obtain ⟨ev, member, same⟩ := List.mem_filterMap.mp member
  exact proxied_event_mask same ▸ member

theorem split_of_proxied_reg {tr : List (Event (ManagerOp ι))} {a b : List (Event ProxyOp)} {β : Type}
    {op : RegOp β} {answer : β} (same : proxied tr = a ++ ⟨.reg op, answer⟩ :: b) :
    ∃ x y, tr = x ++ ⟨.reg op, answer⟩ :: y ∧ proxied x = a := by
  obtain ⟨x, z, rfl, first, rest⟩ := List.filterMap_eq_append_iff.mp same
  obtain ⟨x', ev, y, rfl, before, here, -⟩ := List.filterMap_eq_cons_iff.mp rest
  have none : proxied x' = [] := List.filterMap_eq_nil_iff.mpr before
  refine ⟨x ++ x', y, by rw [proxied_event_reg here, List.append_assoc], ?_⟩
  rw [proxied_append, none, List.append_nil]
  exact first

/-- The log of a call remembers what the call was answered. -/
theorem agent_remembers {crates : Crates} {gate : MaskingGate} {p q : Prog (ManagerOp ι) ManagerReturn}
    {tr : List (Event (ManagerOp ι))}
    (follows : (agentProtocol crates gate).Follows (fun _ _ => True) .empty p) (run : Exec p tr q) :
    ((agentProtocol crates gate).after .empty tr).Remembers crates (proxied tr) := by
  refine follows.trail (T := fun g past => g.Remembers crates (proxied past)) run .empty ?_
  intro g past β op answer remembers allowed
  rw [proxied_append]
  have grows {γ : Type} (op : ProxyOp γ) (answer : γ) :
      ((callProtocol crates gate).next g op answer).Remembers crates
        (proxied past ++ [⟨op, answer⟩]) := remembers.next op answer
  cases op with
  | reg op => exact grows (.reg op) answer
  | mask op => exact grows (.mask op) answer
  | now => exact (List.append_nil (proxied past)).symm ▸ remembers
  | disp dispatcher connection op => exact (List.append_nil (proxied past)).symm ▸ remembers
  | _ => exact allowed.elim

/-! ## What goes out -/

theorem tool_call_ne_tool_cancel : methods.TOOL_CALL ≠ methods.TOOL_CANCEL := by decide

/-- The `tool.call` that a request puts on the channel of a connection. -/
def ManagerOp.puts_call (connection : Nat) (value : Value) {β : Type} (op : ManagerOp ι β) : Prop :=
  ∃ id, op.emission = some (connection, .request id methods.TOOL_CALL value)

/-- The log admits every `tool.call` that the protocol lets out. -/
theorem admits_of_allowed {crates : Crates} {gate : MaskingGate} {g : CallLog} {β : Type}
    {op : ManagerOp ι β} {connection : Nat} {value : Value} (puts : op.puts_call connection value)
    (allowed : (agentProtocol crates gate).allows g op) :
    ∃ dispatcher params, g.admits gate dispatcher connection params ∧ value = params.to_value := by
  obtain ⟨id, puts⟩ := puts
  cases op with
  | disp dispatcher own op =>
    cases op with
    | conn op =>
      cases op with
      | outbound_send msg =>
        cases puts
        obtain ⟨params, admits, same⟩ | cancel := allowed
        · exact ⟨dispatcher, params, admits, same⟩
        · exact absurd cancel tool_call_ne_tool_cancel
      | _ => cases puts
    | _ => cases puts
  | reg | mask | now => cases puts
  | _ => exact allowed.elim

/-- **What a call has read before it is put on the wire.** -/
theorem forwarded {settings : ManagerSettings} {caller : CallerInfo}
    {request : CallToolRequestParams} {a b : List (Event (ManagerOp ι))} {ev : Event (ManagerOp ι)}
    {rest : Prog (ManagerOp ι) ManagerReturn} {connection : Nat} {value : Value}
    (run : Exec ((ManagerTask.agent_call caller request).prog settings) (a ++ ev :: b) rest)
    (puts : ev.request.puts_call connection value) :
    ∃ dispatcher params snapshot session_id record, value = params.to_value ∧
      Enqueued settings.crates settings.gate (proxied a) dispatcher connection params snapshot
        session_id record := by
  have follows := agent_task_follows (ι := ι) settings caller request
  obtain ⟨k, before, -⟩ := run.split
  have remembers := agent_remembers follows before
  obtain ⟨dispatcher, params, admits, same⟩ := admits_of_allowed puts (follows.allowed run)
  obtain ⟨snapshot, session_id, record, viewed, fetched, active, connected, dispatched, published,
    cleared⟩ := admits
  exact ⟨dispatcher, params, snapshot, session_id, record, same, active, connected, dispatched,
    published, remembers.fetched snapshot session_id record viewed fetched,
    fun enabled => remembers.cleared _ (cleared enabled)⟩

/-- A task of a run executes its own program, around each of its steps. -/
theorem exec_of_run [DecidableEq ι] {settings : ManagerSettings}
    {tools_cache : Option ToolsCacheStore} {tasks : ι → ManagerTask ι} {i : ι}
    {a b : List (PoolEvent ι (ManagerOp ι))} {ev : Event (ManagerOp ι)}
    {q : Pool ι (ManagerOp ι) (ManagerWorld ι) ManagerReturn} {task : ManagerTask ι}
    (run : Pool.Run managerSemantics (managerPool settings tools_cache tasks) (a ++ ⟨i, ev⟩ :: b) q)
    (own : tasks i = task) :
    Exec (task.prog settings) (Pool.project i a ++ ev :: Pool.project i b) (q.thread i) := by
  have mine := run.project i
  rw [Pool.project_append, Pool.project_cons_self] at mine
  rw [← own]
  exact mine

/-- The answer to preflight allows the call with these arguments. -/
structure Allows (crates : Crates) (answer : HttpAnswer) (response : PreflightResponse) : Prop where
  read : read_answer crates crates.preflight_response answer = .ok response
  schema_version : response.schema_version = 1
  decision : response.decision = "allow"

theorem allows_of_cleared {crates : Crates} {answer : HttpAnswer} {arguments : Value}
    (cleared : cleared_arguments crates answer = some arguments) :
    ∃ response, Allows crates answer response ∧ response.arguments = arguments := by
  unfold cleared_arguments at cleared
  split at cleared
  · rename_i response read
    split at cleared
    · cases cleared
    · rename_i allow
      obtain ⟨schema_version, decision⟩ := not_or.mp allow
      exact ⟨response, ⟨read, not_not.mp schema_version, not_not.mp decision⟩,
        Option.some.inj cleared⟩
  · cases cleared

/-- **Masking is fail-closed and lets nothing of an outcome through.** -/
theorem masking_fails_closed [DecidableEq ι] {settings : ManagerSettings}
    (enabled : settings.gate.enabled = true) (caller : CallerInfo)
    (request : CallToolRequestParams) :
    -- two calls in the same surroundings end alike, whatever comes of the `tool.call`
    (∀ env : Surroundings, env.fits settings.crates settings.gate caller request →
      ∀ outcome outcome' : Outcome,
        env.run settings.crates settings.gate caller request outcome =
          env.run settings.crates settings.gate caller request outcome') ∧
    -- in every run, what the call puts on a wire has been allowed by preflight
    ∀ {tools_cache : Option ToolsCacheStore} {tasks : ι → ManagerTask ι} {i : ι}
      {a b : List (PoolEvent ι (ManagerOp ι))} {ev : Event (ManagerOp ι)}
      {q : Pool ι (ManagerOp ι) (ManagerWorld ι) ManagerReturn} {connection : Nat} {value : Value},
      tasks i = .agent_call caller request →
      Pool.Run managerSemantics (managerPool settings tools_cache tasks) (a ++ ⟨i, ev⟩ :: b) q →
      ev.request.puts_call connection value →
      ∃ preflight answer response name, ⟨i, ⟨.mask (.post (.preflight preflight)), answer⟩⟩ ∈ a ∧
        Allows settings.crates answer response ∧
        value = ToolCallParams.to_value { name, arguments := response.arguments } := by
  refine ⟨fun env fits => outcome_irrelevant enabled caller request fits, ?_⟩
  intro tools_cache tasks i a b ev q connection value task run puts
  obtain ⟨dispatcher, params, snapshot, session_id, record, same, enqueued⟩ :=
    forwarded (exec_of_run run task) puts
  obtain ⟨preflight, answer, member, cleared⟩ := enqueued.cleared enabled
  obtain ⟨response, allows, arguments⟩ := allows_of_cleared cleared
  have posted := Pool.mem_project.mp (mem_of_proxied_mask member)
  exact ⟨preflight, answer, response, params.name, posted, allows, by rw [arguments, same]⟩

/-! ### A call that preflight allows -/

def allowing_settings : ManagerSettings := gated_settings masking_on

/-- A client registers, and an agent calls its tool. -/
def allowed_tasks : Bool → ManagerTask Bool
  | false => .socket [registers "s" [plain_tool]]
  | true => .agent_call anonymous plain_call

def allowed_run := ManagerPool.play (.reply 200 [])
  (List.replicate 8 false ++ List.replicate 24 true) (managerPool allowing_settings none allowed_tasks)

/-- The surroundings of a call to the only client. -/
def allowing : Surroundings where
  registry := one_client [plain_tool]
  now := 0
  uuid _ := "uuid"
  service _ := .reply 200 []
  disk _ := true
  outbox := []

set_option maxRecDepth 8000 in
theorem allowing_fits : allowing.fits permissive_crates masking_on anonymous plain_call := by
  intro context found
  have here : allowing.context permissive_crates masking_on anonymous plain_call =
      some (MaskingGate.call_context
        { instance_id := "gen:srv/base", cluster_server := "srv", infobase_name := "base" }
        anonymous "t" "uuid" "uuid") := rfl
  cases here.symm.trans found
  decide +kernel

set_option maxRecDepth 8000 in
/-- The last step of the run puts the call on the wire. -/
theorem allowed_call_sent : ∃ id, allowed_run.1 = allowed_run.1.take 24 ++
    [⟨true, ⟨.disp 0 0 (.conn (.outbound_send (.request id methods.TOOL_CALL
      (ToolCallParams.to_value { name := "t", arguments := .object [] })))), .accepted⟩⟩] :=
  ⟨_, rfl⟩

theorem masking_fails_closed_allowed :
    (∀ outcome outcome', allowing.run permissive_crates masking_on anonymous plain_call outcome =
      allowing.run permissive_crates masking_on anonymous plain_call outcome') ∧
    ∃ preflight answer response name,
      ⟨true, ⟨.mask (.post (.preflight preflight)), answer⟩⟩ ∈ allowed_run.1.take 24 ∧
        Allows permissive_crates answer response ∧
        ToolCallParams.to_value { name := "t", arguments := .object [] } =
          ToolCallParams.to_value { name, arguments := response.arguments } := by
  have enabled : allowing_settings.gate.enabled = true := rfl
  have both := masking_fails_closed (ι := Bool) enabled anonymous plain_call
  refine ⟨both.1 allowing allowing_fits, ?_⟩
  have run := ManagerPool.run_play (.reply 200 []) (List.replicate 8 false ++ List.replicate 24 true)
    (managerPool allowing_settings none allowed_tasks)
  obtain ⟨id, split⟩ := allowed_call_sent
  have run : Pool.Run managerSemantics (managerPool allowing_settings none allowed_tasks)
      allowed_run.1 allowed_run.2 := run
  rw [split] at run
  exact both.2 rfl run ⟨id, rfl⟩

end SessionManager
