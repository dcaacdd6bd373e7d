import SessionManager.Manager.Runs
import SessionManager.Server.Forwarding

/-!
# The sessions the internal endpoint reaches

A call of the masking service goes to the one active session with its key that has its tool
internally; none and several are refused, whatever order the sessions are enumerated in.  Agents
do not reach the tools the endpoint reaches, because transport normalises what clients register
(`internal_endpoint_targets`).
-/

namespace SessionManager

open Json Effect

open Prog (perform)

/-- An active session with the key of the call has its tool internally. -/
def InternalTarget (reg : SessionRegistry) (call : InternalCallRequest) (record : SessionRecord) :
    Prop :=
  ∃ uid, reg.inner.get uid = some record ∧ record.state = .Active ∧
    record.database_key = some call.instance_id ∧
    ∃ tool ∈ record.tools, tool.name = call.name ∧ tool.visibility = .Internal

/-- This session and no other. -/
def OnlyInternalTarget (reg : SessionRegistry) (call : InternalCallRequest)
    (record : SessionRecord) : Prop :=
  InternalTarget reg call record ∧ ∀ other, InternalTarget reg call other → other = record

/-! ## Resolving the target -/

section Resolve

variable {reg : SessionRegistry} {snapshot : List SessionRecord} {call : InternalCallRequest}
  {record : SessionRecord}

theorem mem_internal_targets (enumerated : reg.enumerates snapshot) :
    record ∈ internal_targets snapshot call ↔ InternalTarget reg call record := by
  have hides (tool : ToolDescriptor) : tool.hides call.name = true ↔
      tool.name = call.name ∧ tool.visibility = .Internal := by simp [ToolDescriptor.hides]
  simp only [internal_targets, List.mem_filter, decide_eq_true_eq, List.any_eq_true, hides,
    enumerated.mem_iff, HashMap.mem_values, InternalTarget]
  constructor
  · intro target
    obtain ⟨⟨⟨⟨uid, found⟩, active⟩, key⟩, tool⟩ := target
    exact ⟨uid, found, active, key, tool⟩
  · intro target
    obtain ⟨uid, found, active, key, tool⟩ := target
    exact ⟨⟨⟨⟨uid, found⟩, active⟩, key⟩, tool⟩

/-- No session is a target twice. -/
theorem nodup_internal_targets (keyed : reg.keyed) (enumerated : reg.enumerates snapshot) :
    (internal_targets snapshot call).Nodup :=
  (((enumerated.nodup keyed).of_map _).filter _).filter _ |>.filter _

theorem resolve_no_target (enumerated : reg.enumerates snapshot)
    (none : ∀ record, ¬ InternalTarget reg call record) :
    resolve_internal_target snapshot call = .error .NoTarget := by
  have empty : internal_targets snapshot call = [] := by
    refine List.eq_nil_iff_forall_not_mem.mpr fun record member => ?_
    exact none record ((mem_internal_targets enumerated).mp member)
  rw [resolve_internal_target, empty]

theorem resolve_only_target (keyed : reg.keyed) (enumerated : reg.enumerates snapshot)
    (only : OnlyInternalTarget reg call record) :
    resolve_internal_target snapshot call = .ok record := by
  have single : internal_targets snapshot call = [record] := by
    have nodup : (internal_targets snapshot call).Nodup := nodup_internal_targets keyed enumerated
    refine List.perm_singleton.mp ((List.perm_ext_iff_of_nodup nodup (List.nodup_singleton _)).mpr ?_)
    intro other
    rw [mem_internal_targets enumerated, List.mem_singleton]
    constructor
    · exact only.2 other
    · intro same
      subst same
      exact only.1
  rw [resolve_internal_target, single]

theorem resolve_ambiguous_target (enumerated : reg.enumerates snapshot) {other : SessionRecord}
    (here : InternalTarget reg call record) (there : InternalTarget reg call other)
    (distinct : record ≠ other) :
    resolve_internal_target snapshot call = .error .AmbiguousTarget := by
  rw [← mem_internal_targets enumerated] at here there
  rw [resolve_internal_target]
  split
  · rename_i empty
    rw [empty] at here
    cases here
  · rename_i target single
    rw [single, List.mem_singleton] at here there
    exact (distinct (here.trans there.symm)).elim
  · rfl

/-- A resolved session is the only one. -/
theorem only_of_resolve (enumerated : reg.enumerates snapshot)
    (resolved : resolve_internal_target snapshot call = .ok record) :
    OnlyInternalTarget reg call record := by
  have single : internal_targets snapshot call = [record] := by
    rw [resolve_internal_target] at resolved
    split at resolved
    · cases resolved
    · rename_i target single
      cases resolved
      exact single
    · cases resolved
  constructor
  · rw [← mem_internal_targets enumerated, single]
    exact List.mem_singleton_self _
  · intro other there
    rw [← mem_internal_targets enumerated, single] at there
    exact List.mem_singleton.mp there

end Resolve

/-! ## What the endpoint dispatches -/

/-- The request passes the checks before its tool is looked up, and asks for this call. -/
structure InternalEndpoint.Accepts (decode : List UInt8 → Option InternalCallRequest)
    (context : InternalEndpointContext) (request : HttpRequest) (call : InternalCallRequest) :
    Prop where
  authorized : context.authorized = true
  method : request.method = "POST"
  path : request.path = INTERNAL_CALL_PATH
  body : ∃ body, request.body = some body ∧ body.length ≤ MAX_INTERNAL_REQUEST_BYTES ∧
    decode body = some call

namespace InternalEndpoint

variable {ι : Type} {decode : List UInt8 → Option InternalCallRequest}
  {context : InternalEndpointContext} {request : HttpRequest} {call : InternalCallRequest}

theorem handle_request_of_accepts (accepts : Accepts decode context request call)
    (listed : call.name ∈ context.internal_tools) :
    (handle_request decode context request : Prog (ManagerOp ι) HttpResponse) =
      answer_call context call := by
  obtain ⟨body, present, fits, decoded⟩ := accepts.body
  simp [handle_request, accepts.authorized, accepts.method, accepts.path, present,
    Nat.not_lt.mpr fits, decoded, listed]

/-- A request is answered at once, or asks for a tool that is listed. -/
theorem handle_request_cases (decode : List UInt8 → Option InternalCallRequest)
    (context : InternalEndpointContext) (request : HttpRequest) :
    (∃ response, (handle_request decode context request : Prog (ManagerOp ι) HttpResponse) =
        .ret response) ∨
      ∃ call, Accepts decode context request call ∧ call.name ∈ context.internal_tools := by
  by_cases accepted : ∃ call, Accepts decode context request call ∧
      call.name ∈ context.internal_tools
  · exact .inr accepted
  · refine .inl ?_
    unfold handle_request
    split
    · exact ⟨_, rfl⟩
    · rename_i authorized
      split
      · exact ⟨_, rfl⟩
      · rename_i addressed
        split
        · exact ⟨_, rfl⟩
        · rename_i body present
          split
          · exact ⟨_, rfl⟩
          · rename_i fits
            split
            · exact ⟨_, rfl⟩
            · rename_i call decoded
              split
              · exact ⟨_, rfl⟩
              · rename_i listed
                simp only [Bool.not_eq_true', Bool.not_eq_false] at authorized
                simp only [ne_eq, not_or, not_not] at addressed
                simp only [Bool.not_eq_true', Bool.not_eq_false, List.contains_iff_mem] at listed
                exact (accepted ⟨call, ⟨authorized, addressed.1, addressed.2, body, present,
                  Nat.not_lt.mp fits, decoded⟩, listed⟩).elim

/-- The answer to a call that was dispatched. -/
def answer_dispatched : Except InternalDispatchError ToolCallResult → HttpResponse
  | .ok result => success result.to_value
  | .error _ => failure 502 "dispatch_failed"

/-- The answer of `answer_call`, once it has seen the sessions. -/
def answer_target (context : InternalEndpointContext) (call : InternalCallRequest) :
    Except InternalDispatchError SessionRecord → Prog (ManagerOp ι) HttpResponse
  | .error .NoTarget => .ret (failure 503 "no_target")
  | .error .AmbiguousTarget => .ret (failure 503 "ambiguous_target")
  | .error .Dispatch => .ret (failure 502 "dispatch_failed")
  | .ok target => do
    return answer_dispatched
      (← dispatch_internal_tool target call.name call.arguments context.call_timeout)

theorem answer_call_eq (context : InternalEndpointContext) (call : InternalCallRequest) :
    (answer_call context call : Prog (ManagerOp ι) HttpResponse) =
      perform (.reg .snapshot) >>= fun snapshot =>
        answer_target context call (resolve_internal_target snapshot call) := by
  have dispatched (outcome : Except InternalDispatchError ToolCallResult) :
      (match outcome with
        | .ok result => pure (success result.to_value)
        | .error _ => pure (failure 502 "dispatch_failed") : Prog (ManagerOp ι) HttpResponse) =
        pure (answer_dispatched outcome) := by
    cases outcome <;> rfl
  unfold answer_call
  refine congrArg (perform (ManagerOp.reg .snapshot) >>= ·) (funext fun snapshot => ?_)
  cases resolve_internal_target snapshot call with
  | error error => cases error <;> rfl
  | ok target => exact congrArg (dispatch_internal_tool _ _ _ _ >>= ·) (funext dispatched)

end InternalEndpoint

variable {ι : Type}

/-- A request on a dispatcher and connection is one on those of the record, and sends no other
call than this one. -/
def ManagerOp.Dispatches (record : SessionRecord) (params : ToolCallParams) :
    ∀ {β : Type}, ManagerOp ι β → Prop
  | _, .disp dispatcher connection op =>
      dispatcher = record.dispatcher ∧ record.connection = some connection ∧
        op.Sends params.Messages
  | _, _ => True

theorem dispatch_internal_tool_dispatches (target : SessionRecord) (tool_name : String)
    (arguments : Value) (timeout : Nat) :
    (dispatch_internal_tool target tool_name arguments timeout : Prog (ManagerOp ι) _).Only
      (ManagerOp.Dispatches target { name := tool_name, arguments }) := by
  unfold dispatch_internal_tool
  cases connected : target.connection with
  | none => trivial
  | some connection =>
    refine ⟨trivial, fun now => ?_⟩
    have sent : ((SessionDispatcher.enqueue { name := tool_name, arguments }
        (some (now + timeout))).lift (.disp target.dispatcher connection) :
          Prog (ManagerOp ι) _).Only
        (ManagerOp.Dispatches target { name := tool_name, arguments }) :=
      Prog.only_lift.mpr ((enqueue_sends _ _).mono fun op only => ⟨rfl, connected, only⟩)
    exact sent.bind fun outcome => by cases outcome <;> trivial

/-- Whatever the endpoint does on a dispatcher, it does for the only session it found. -/
theorem endpoint_dispatches {decode : List UInt8 → Option InternalCallRequest}
    {context : InternalEndpointContext} {request : HttpRequest} {tr : List (Event (ManagerOp ι))}
    {rest : Prog (ManagerOp ι) HttpResponse} {reg : SessionRegistry}
    (run : Exec (InternalEndpoint.handle_request decode context request) tr rest)
    (enumerated : ∀ snapshot, ⟨.reg .snapshot, snapshot⟩ ∈ tr → reg.enumerates snapshot)
    {β : Type} {dispatcher connection : Nat} {op : DispOp ι β} {answer : β}
    (member : ⟨.disp dispatcher connection op, answer⟩ ∈ tr) :
    ∃ call record, InternalEndpoint.Accepts decode context request call ∧
      call.name ∈ context.internal_tools ∧ OnlyInternalTarget reg call record ∧
      dispatcher = record.dispatcher ∧ record.connection = some connection ∧
      op.Sends ({ name := call.name, arguments := call.arguments } : ToolCallParams).Messages := by
  obtain ⟨response, answered⟩ | ⟨call, accepts, listed⟩ :=
    InternalEndpoint.handle_request_cases (ι := ι) decode context request
  · rw [answered] at run
    obtain ⟨rfl, -⟩ := run.of_ret
    cases member
  · rw [InternalEndpoint.handle_request_of_accepts accepts listed,
      InternalEndpoint.answer_call_eq] at run
    cases run with
    | refl => cases member
    | step snapshot run =>
      have enumerated := enumerated snapshot List.mem_cons_self
      have later := (List.mem_cons.mp member).resolve_left fun same => by cases same
      have run : Exec (InternalEndpoint.answer_target context call
        (resolve_internal_target snapshot call)) _ rest := run
      cases resolved : resolve_internal_target snapshot call with
      | error error =>
        rw [resolved] at run
        cases error <;> exact absurd (run.of_ret.1 ▸ later) List.not_mem_nil
      | ok target =>
        rw [resolved] at run
        have only := (dispatch_internal_tool_dispatches (ι := ι) target call.name call.arguments
          context.call_timeout).bind (f := fun outcome =>
            .ret (InternalEndpoint.answer_dispatched outcome)) fun _ => trivial
        obtain ⟨own, connected, sends⟩ := run.only only _ later
        exact ⟨call, target, accepts, listed, only_of_resolve enumerated resolved, own, connected,
          sends⟩

/-- Agents do not reach a tool that is listed as internal. -/
theorem agent_misses_listed {crates : Crates} {gate : MaskingGate} {reg : SessionRegistry}
    (admissible : reg.Admissible gate) {caller : CallerInfo} {request : CallToolRequestParams}
    {tr : List (Event ProxyOp)} {rest : Prog ProxyOp ProxyAnswer}
    (run : Exec (call_proxy_tool_inner crates gate caller request) tr rest)
    (enumerated : ∀ snapshot, ⟨.reg .snapshot, snapshot⟩ ∈ tr → reg.enumerates snapshot)
    {dispatcher connection : Nat} {params : ToolCallParams} {deadline : Option Nat}
    {outcome : Except DispatcherError ToolCallResult}
    (member : ⟨.enqueue dispatcher connection params deadline, outcome⟩ ∈ tr) :
    params.name ∉ gate.internal_tools := by
  obtain ⟨a, b, rfl⟩ := List.append_of_mem member
  obtain ⟨snapshot, session_id, record, enqueued⟩ := enqueued run
  obtain ⟨x, y, z, rfl⟩ := enqueued.read
  exact admissible.unlisted (enumerated snapshot (by simp)) enqueued.published

/-! ## The endpoint and the agents of a manager -/

/-- **The endpoint reaches the one session with the key and the tool, and agents do not reach
that tool.** -/
theorem internal_endpoint_targets [DecidableEq ι] {settings : ManagerSettings}
    {tools_cache : Option ToolsCacheStore} {tasks : ι → ManagerTask ι}
    {tr : List (PoolEvent ι (ManagerOp ι))} {q : Pool ι (ManagerOp ι) (ManagerWorld ι) ManagerReturn}
    (run : Pool.Run managerSemantics (managerPool settings tools_cache tasks) tr q)
    (authorized : Bool) (request : HttpRequest) :
    let reg := q.shared.registry
    let endpoint : Prog (ManagerOp ι) HttpResponse := InternalEndpoint.handle_request
      settings.internal_call (settings.internal_endpoint authorized) request
    -- a dispatched call has one target only, and goes to it
    (∀ tr' rest, Exec endpoint tr' rest →
      (∀ snapshot, ⟨.reg .snapshot, snapshot⟩ ∈ tr' → reg.enumerates snapshot) →
      ∀ {β : Type} (dispatcher connection : Nat) (op : DispOp ι β) (answer : β),
        ⟨.disp dispatcher connection op, answer⟩ ∈ tr' → ∃ call record,
          InternalEndpoint.Accepts settings.internal_call (settings.internal_endpoint authorized)
            request call ∧
          call.name ∈ settings.gate.internal_tools ∧ OnlyInternalTarget reg call record ∧
          dispatcher = record.dispatcher ∧ record.connection = some connection ∧
          op.Sends ({ name := call.name, arguments := call.arguments } : ToolCallParams).Messages) ∧
    ∀ call, InternalEndpoint.Accepts settings.internal_call
        (settings.internal_endpoint authorized) request call →
      call.name ∈ settings.gate.internal_tools →
      (∀ snapshot, reg.enumerates snapshot →
        (∀ record, OnlyInternalTarget reg call record → record.connection.isSome ∧
          Exec endpoint [⟨.reg .snapshot, snapshot⟩]
            (dispatch_internal_tool record call.name call.arguments
              settings.internal_call_timeout >>= fun outcome =>
                pure (InternalEndpoint.answer_dispatched outcome))) ∧
        ((∀ record, ¬ InternalTarget reg call record) →
          Exec endpoint [⟨.reg .snapshot, snapshot⟩]
            (.ret (InternalEndpoint.failure 503 "no_target"))) ∧
        ∀ record other, InternalTarget reg call record → InternalTarget reg call other →
          record ≠ other → Exec endpoint [⟨.reg .snapshot, snapshot⟩]
            (.ret (InternalEndpoint.failure 503 "ambiguous_target"))) ∧
      -- on the same state no agent gets a call of this tool out, to whatever session
      ∀ caller agent_request tr' rest,
        Exec (call_proxy_tool_inner settings.crates settings.gate caller agent_request) tr' rest →
        (∀ snapshot, ⟨.reg .snapshot, snapshot⟩ ∈ tr' → reg.enumerates snapshot) →
        ∀ dispatcher connection params deadline outcome,
          ⟨.enqueue dispatcher connection params deadline, outcome⟩ ∈ tr' →
            params.name ≠ call.name := by
  intro reg endpoint
  have keyed : reg.keyed := (reached_of_run run).keyed
  have admissible : reg.Admissible settings.gate := SessionManager.admissible run
  refine ⟨?_, fun call accepts listed => ⟨fun snapshot enumerated => ?_, ?_⟩⟩
  · intro tr' rest run enumerated β dispatcher connection op answer member
    exact endpoint_dispatches run enumerated member
  · have answers {rest : Prog (ManagerOp ι) HttpResponse}
        (same : InternalEndpoint.answer_target (settings.internal_endpoint authorized) call
          (resolve_internal_target snapshot call) = rest) :
        Exec endpoint [⟨.reg .snapshot, snapshot⟩] rest := by
      have here : endpoint = InternalEndpoint.answer_call (settings.internal_endpoint authorized)
        call := InternalEndpoint.handle_request_of_accepts accepts listed
      rw [here, InternalEndpoint.answer_call_eq, ← same]
      exact .step snapshot (.refl _)
    refine ⟨fun record only => ⟨?_, answers ?_⟩, fun none => answers ?_,
      fun record other here there distinct => answers ?_⟩
    · obtain ⟨uid, found, active, -⟩ := only.1
      exact (admissible uid record found).connected active
    · rw [resolve_only_target keyed enumerated only]
      rfl
    · rw [resolve_no_target enumerated none]
      rfl
    · rw [resolve_ambiguous_target enumerated here there distinct]
      rfl
  · intro caller agent_request tr' rest run enumerated dispatcher connection params deadline
      outcome member same
    exact agent_misses_listed admissible run enumerated member (same ▸ listed)

/-! ### A manager with one session -/

def feed : ToolDescriptor where
  name := "feed"
  description := none
  input_schema := .object []
  visibility := .Public

def feed_call : InternalCallRequest where
  instance_id := "gen:srv/base"
  name := "feed"
  arguments := .null

def feed_settings : ManagerSettings :=
  { gated_settings { enabled := true, internal_tools := ["feed"] } with
    internal_call := fun _ => some feed_call }

/-- A client has registered; its tool is listed as internal. -/
def feed_run := ManagerPool.play .unreachable [(), (), (), ()]
  (managerPool feed_settings none fun _ => .socket [registers "s" [feed]])

def feed_session : SessionRecord :=
  SessionRegistry.new_record (.new none)
    (client_params "s" [{ feed with visibility := .Internal }]) 0 (some 0)

def feed_request : HttpRequest where
  method := "POST"
  path := INTERNAL_CALL_PATH
  body := some []

theorem feed_only : OnlyInternalTarget feed_run.2.shared.registry feed_call feed_session := by
  have values : feed_run.2.shared.registry.inner.values = [feed_session] := rfl
  refine ⟨⟨"s", rfl, rfl, rfl, _, List.mem_singleton_self _, rfl, rfl⟩, fun other there => ?_⟩
  obtain ⟨uid, found, -⟩ := there
  have member := HashMap.mem_values.mpr ⟨uid, found⟩
  rw [values] at member
  exact List.mem_singleton.mp member

theorem feed_session_is_reached :
    Exec (InternalEndpoint.handle_request feed_settings.internal_call
        (feed_settings.internal_endpoint true) feed_request : Prog (ManagerOp Unit) HttpResponse)
      [⟨.reg .snapshot, [feed_session]⟩]
      (dispatch_internal_tool feed_session "feed" .null 1000 >>= fun outcome =>
        pure (InternalEndpoint.answer_dispatched outcome)) := by
  have run := ManagerPool.run_play .unreachable [(), (), (), ()]
    (managerPool feed_settings none fun _ => .socket [registers "s" [feed]])
  have accepts : InternalEndpoint.Accepts feed_settings.internal_call
      (feed_settings.internal_endpoint true) feed_request feed_call :=
    ⟨rfl, rfl, rfl, [], rfl, Nat.zero_le _, rfl⟩
  have reached := ((internal_endpoint_targets run true feed_request).2 feed_call accepts
    List.mem_cons_self).1 [feed_session] (.refl _)
  exact (reached.1 feed_session feed_only).2

end SessionManager
