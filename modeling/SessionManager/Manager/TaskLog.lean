import SessionManager.Dispatcher.Messages
import SessionManager.Manager.Tasks
import SessionManager.Server.CallLog

/-!
# What a task has learnt

`TaskLog` keeps of the requests of a task what its clean-up may rely on: the connection it
accepted, the registration it made, the record it read last, and the connections whose outbound
sender it has taken.  `taskProtocol` says which requests a task may make after which log, and
`ManagerTask.follows` that no task of the manager makes others.
-/

namespace SessionManager

open Json Effect

open Prog (perform)

structure TaskLog where
  own : Option Nat
  registered : Option ConnectionIdentity
  target : Option (String × SessionRecord)
  closed : List Nat
  /-- What a section that disconnected a record handed out. -/
  handed : Option (Option Nat × Nat)

namespace MaskingGate

/-- No public descriptor has a name that the configuration lists as internal. -/
def Normalized (gate : MaskingGate) (tools : List ToolDescriptor) : Prop :=
  ∀ tool ∈ tools, tool.visibility = .Public → tool.name ∉ gate.internal_tools

theorem normalized_normalize_tools (gate : MaskingGate) (tools : List ToolDescriptor) :
    gate.Normalized (gate.normalize_tools tools) := by
  intro tool member is_public listed
  obtain ⟨declared, -, rfl⟩ := List.mem_map.mp member
  simp only [Bool.or_eq_true, List.contains_iff_mem, decide_eq_true_eq, ite_eq_right_iff,
    reduceCtorEq, imp_false, not_or] at is_public
  exact is_public.1 listed

end MaskingGate

namespace TaskLog

def empty : TaskLog where
  own := none
  registered := none
  target := none
  closed := []
  handed := none

/-- The connections the task may drain. -/
def DrainsConnection (g : TaskLog) (connection : Nat) : Prop :=
  g.own = some connection ∨
    (∃ session_id record, g.target = some (session_id, record) ∧
      record.connection = some connection) ∨
    ∃ dispatcher, g.handed = some (some connection, dispatcher)

def DrainsDispatcher (g : TaskLog) (dispatcher : Nat) : Prop :=
  (∃ session_id record, g.target = some (session_id, record) ∧ record.dispatcher = dispatcher) ∨
    ∃ connection, g.handed = some (connection, dispatcher)

/-- The task has taken the outbound sender of this connection, if there is one. -/
def Closed (g : TaskLog) (connection : Option Nat) : Prop :=
  ∀ c, connection = some c → c ∈ g.closed

def AllowsReg (gate : MaskingGate) (g : TaskLog) : ∀ {β : Type}, RegOp β → Prop
  | _, .register params _ connection =>
      g.registered = none ∧ connection.isSome ∧ connection = g.own ∧ gate.Normalized params.tools
  | _, .mark_disconnected_if_generation session_id generation _ =>
      g.registered = some { session_id, generation } ∧ g.Closed g.own
  | _, .remove_if_generation session_id generation =>
      g.registered = some { session_id, generation } ∨
        ∃ record, g.target = some (session_id, record) ∧
          generation = record.connection_generation ∧ g.Closed record.connection
  | _, .update_tools session_id tools =>
      (∃ generation, g.registered = some { session_id, generation }) ∧ gate.Normalized tools
  | _, .put_cache _ _ tools => ∀ tool ∈ tools, tool.name ∉ gate.internal_tools
  | _, .mark_disconnected _ _ | _, .remove _ => False
  | _, _ => True

def after_reg (g : TaskLog) : ∀ {β : Type}, RegOp β → β → TaskLog
  | _, .register params _ _, .ok (_, generation) =>
      { g with registered := some { session_id := params.client_uid, generation } }
  | _, .mark_disconnected_if_generation .., handed => { g with handed }
  | _, .get session_id, record => { g with target := record.map fun record => (session_id, record) }
  | _, _, _ => g

end TaskLog

variable {ι : Type}

def taskProtocol (gate : MaskingGate) : Protocol (ManagerOp ι) TaskLog where
  allows g _ op :=
    match op with
    | .accept => g.own = none
    | .reg op => g.AllowsReg gate op
    | .conn c op => op.drains → g.DrainsConnection c
    | .disp _ _ op => ¬ op.drains
    | .drain_dispatcher d => g.DrainsDispatcher d
    | _ => True
  next g _ op answer :=
    match op, answer with
    | .accept, connection => { g with own := some connection }
    | .reg op, answer => g.after_reg op answer
    | .conn c .outbound_take, _ => { g with closed := c :: g.closed }
    | _, _ => g

variable {gate : MaskingGate}

/-- A request every log allows. -/
def ManagerOp.Admitted (gate : MaskingGate) {β : Type} (op : ManagerOp ι β) : Prop :=
  ∀ g, (taskProtocol gate).allows g op

/-- A request every log allows and that teaches nothing. -/
def ManagerOp.Quiet (gate : MaskingGate) {β : Type} (op : ManagerOp ι β) : Prop :=
  ∀ g, (taskProtocol gate).allows g op ∧ ∀ answer : β, (taskProtocol gate).next g op answer = g

theorem follows_of_quiet {α : Type} {p : Prog (ManagerOp ι) α} (quiet : p.Only (ManagerOp.Quiet gate))
    (g : TaskLog) : (taskProtocol gate).Follows (fun g' _ => g' = g) g p :=
  .of_only (quiet.mono fun _ quiet => quiet g)

/-! ## Calls -/

/-- The sections that only read, or write what no record carries but the time of its last call. -/
theorem admitted_of_reads {β : Type} {op : RegOp β} (reads : op.reads) :
    (ManagerOp.reg op : ManagerOp ι β).Admitted gate := by
  intro g
  cases op with
  | snapshot | get | bump_last_call | mark_tools_changed | evict_expired | list_cache => trivial
  | _ => cases reads

theorem enqueue_quiet (dispatcher connection : Nat) (params : ToolCallParams)
    (deadline : Option Nat) :
    ((SessionDispatcher.enqueue params deadline).lift (.disp dispatcher connection)).Only
      (ManagerOp.Quiet (ι := ι) gate) := by
  refine Prog.only_lift.mpr ((enqueue_sends params deadline).mono ?_)
  exact fun op only g => ⟨only.spares, fun _ => rfl⟩

/-- The requests of a call, but for what sections it asks the registry for. -/
def ProxyOp.reads : ∀ {β : Type}, ProxyOp β → Prop
  | _, .reg op => op.reads
  | _, _ => True

theorem agent_call_admitted (crates : Crates) (caller : CallerInfo)
    (request : CallToolRequestParams) :
    ((call_proxy_tool_inner crates gate caller request).subst ProxyOp.program).Only
      (ManagerOp.Admitted (ι := ι) gate) := by
  have reads : (call_proxy_tool_inner crates gate caller request).Only ProxyOp.reads := by
    refine (call_follows gate caller request).only fun op allowed => ?_
    cases op with
    | reg op => exact allowed
    | _ => trivial
  refine reads.subst fun op reads => ?_
  cases op with
  | reg op => exact ⟨admitted_of_reads reads, fun _ => trivial⟩
  | mask op => exact ⟨fun g => trivial, fun _ => trivial⟩
  | now => exact ⟨fun g => trivial, fun _ => trivial⟩
  | enqueue dispatcher connection params deadline =>
    exact (enqueue_quiet dispatcher connection params deadline).mono fun op quiet g => (quiet g).1

theorem dispatch_internal_tool_admitted (target : SessionRecord) (tool_name : String)
    (arguments : Value) (timeout : Nat) :
    (dispatch_internal_tool target tool_name arguments timeout).Only
      (ManagerOp.Admitted (ι := ι) gate) := by
  unfold dispatch_internal_tool
  cases target.connection with
  | none => trivial
  | some connection =>
    refine ⟨fun g => trivial, fun now => ?_⟩
    have calls : Prog.Only (ManagerOp.Admitted (ι := ι) gate) _ :=
      (enqueue_quiet target.dispatcher connection { name := tool_name, arguments }
        (some (now + timeout))).mono fun op quiet g => (quiet g).1
    exact calls.bind fun result => by cases result <;> trivial

theorem internal_call_admitted (decode : List UInt8 → Option InternalCallRequest)
    (context : InternalEndpointContext) (request : HttpRequest) :
    (InternalEndpoint.handle_request decode context request).Only
      (ManagerOp.Admitted (ι := ι) gate) := by
  have answers (call : InternalCallRequest) : (InternalEndpoint.answer_call context call).Only
      (ManagerOp.Admitted (ι := ι) gate) := by
    unfold InternalEndpoint.answer_call
    refine ⟨admitted_of_reads trivial, fun snapshot => ?_⟩
    dsimp only [Prog.bind]
    cases resolve_internal_target snapshot call with
    | error error => cases error <;> trivial
    | ok target =>
      exact (dispatch_internal_tool_admitted target _ _ _).bind fun result => by
        cases result <;> trivial
  unfold InternalEndpoint.handle_request
  repeat' split
  all_goals first | trivial | exact answers _

/-! ## Listings -/

theorem list_tools_admitted (crates : Crates) (builtin : List Tool) :
    ((list_all_tools_inner crates builtin).lift .reg).Only (ManagerOp.Admitted (ι := ι) gate) := by
  have reads : (list_all_tools_inner crates builtin).Only RegOp.reads := by
    unfold list_all_tools_inner
    exact ⟨trivial, fun snapshot => (list_all_only trivial trivial trivial).bind fun _ => trivial⟩
  exact Prog.only_lift.mpr (reads.mono fun op reads => admitted_of_reads reads)

theorem list_sessions_admitted : management.list.Only (ManagerOp.Admitted (ι := ι) gate) := by
  have items (now : Nat) (records : List SessionRecord) :
      (management.list_items now records).Only (ManagerOp.Admitted (ι := ι) gate) := by
    induction records with
    | nil => trivial
    | cons record records ih =>
      exact ⟨fun g => trivial, fun inflight => ih.bind fun _ => trivial⟩
  unfold management.list
  exact ⟨fun g => trivial, fun now => ⟨admitted_of_reads trivial, fun snapshot =>
    (items now snapshot).bind fun _ => trivial⟩⟩

/-! ## Shutting a session down -/

/-- Draining a connection leaves its outbound sender taken. -/
theorem drain_follows {g : TaskLog} {connection : Nat} (drains : g.DrainsConnection connection) :
    (taskProtocol gate).Follows (fun g' _ => g' = { g with closed := connection :: g.closed }) g
      (ConnectionHandle.drain connection : Prog (ManagerOp ι) Unit) := by
  unfold ConnectionHandle.drain ConnectionHandle.drain_pending
  exact ⟨fun _ => drains, fun _ => ⟨fun _ => drains, fun drained => ⟨fun _ => drains, fun _ =>
    ⟨fun _ => drains, fun _ => rfl⟩⟩⟩⟩

theorem conn_quiet {connection : Nat} {α : Type} {p : Prog ConnOp α}
    (spares : p.Only fun op => ¬ op.drains) :
    (p.lift (ManagerOp.conn connection)).Only (ManagerOp.Quiet (ι := ι) gate) := by
  refine Prog.only_lift.mpr (spares.mono fun op spares g => ⟨fun drains => (spares drains).elim, ?_⟩)
  intro answer
  cases op with
  | outbound_take => exact (spares trivial).elim
  | _ => rfl

theorem call_quiet (connection : Nat) (method : String) (params : Value) (deadline : Nat) :
    (ConnectionHandle.call connection method params deadline).Only
      (ManagerOp.Quiet (ι := ι) gate) := by
  unfold ConnectionHandle.call
  have spares := (dispatch_request_sends method params).mono fun op only => only.spares
  refine (conn_quiet spares).bind fun result => ?_
  cases result with
  | error error => trivial
  | ok sent =>
    obtain ⟨id, rx⟩ := sent
    refine ⟨fun g => ⟨trivial, fun _ => rfl⟩, fun terminal => ?_⟩
    cases terminal with
    | response result =>
      cases result <;> exact ⟨fun g => ⟨fun drains => drains.elim, fun _ => rfl⟩, fun _ => trivial⟩
    | closed => exact ⟨fun g => ⟨fun drains => drains.elim, fun _ => rfl⟩, fun _ => trivial⟩
    | deadline =>
      exact ⟨fun g => ⟨fun drains => drains.elim, fun _ => rfl⟩, fun _ =>
        ⟨fun g => ⟨fun drains => drains.elim, fun _ => rfl⟩, fun _ => trivial⟩⟩

theorem shutdown_connection_follows {g : TaskLog} {connection : Nat}
    (drains : g.DrainsConnection connection) (grace_ms : Nat) :
    (taskProtocol gate).Follows (fun g' _ => g' = { g with closed := connection :: g.closed }) g
      (shutdown_connection grace_ms connection : Prog (ManagerOp ι) KillOutcome) := by
  unfold shutdown_connection
  refine ⟨trivial, fun now => ?_⟩
  refine (follows_of_quiet (call_quiet connection _ _ _) g).bind ?_
  intro g' answer same
  subst same
  refine (drain_follows drains).bind ?_
  intro g' _ same
  subst same
  cases answer <;> rfl

theorem drain_session_follows {g : TaskLog} {session_id : String} {record : SessionRecord}
    (target : g.target = some (session_id, record)) (grace_ms : Nat) :
    (taskProtocol gate).Follows
      (fun g' _ => g'.target = some (session_id, record) ∧ g'.Closed record.connection) g
      (drain_session grace_ms record : Prog (ManagerOp ι) KillOutcome) := by
  have dispatcher (g : TaskLog) (target : g.target = some (session_id, record)) :
      g.DrainsDispatcher record.dispatcher := .inl ⟨session_id, record, target, rfl⟩
  have drains (connection : Nat) (connected : record.connection = some connection) :
      g.DrainsConnection connection := .inr (.inl ⟨session_id, record, target, connected⟩)
  have closed (connection : Nat) (connected : record.connection = some connection) :
      TaskLog.Closed { g with closed := connection :: g.closed } record.connection := by
    intro c same
    rw [connected] at same
    cases same
    exact List.mem_cons_self
  unfold drain_session
  split
  · rename_i connection _ connected
    refine (shutdown_connection_follows (drains connection connected) grace_ms).bind ?_
    intro g' outcome same
    subst same
    exact ⟨dispatcher _ target, fun _ => ⟨target, closed connection connected⟩⟩
  · rename_i _ absent
    refine ⟨dispatcher g target, fun _ => ⟨target, fun c connected => ?_⟩⟩
    rw [absent] at connected
    cases connected
  · refine Protocol.follows_perform.mpr ⟨dispatcher g target, fun _ => ?_⟩
    cases same : record.connection with
    | none =>
      refine ⟨target, fun c connected => ?_⟩
      cases connected
    | some connection =>
      rw [same] at closed
      have drained : (taskProtocol gate).Follows
          (fun g' _ => g' = { g with closed := connection :: g.closed }) g
          (ConnectionHandle.drain connection : Prog (ManagerOp ι) Unit) :=
        drain_follows (drains connection same)
      refine drained.bind ?_
      intro g' _ drained
      subst drained
      exact ⟨target, closed connection rfl⟩

theorem shutdown_session_follows (grace_ms : Nat) (session_id : String) (g : TaskLog) :
    (taskProtocol gate).Follows (fun _ _ => True) g
      (shutdown_session grace_ms session_id : Prog (ManagerOp ι) KillOutcome) := by
  unfold shutdown_session
  refine Protocol.follows_perform.mpr ⟨trivial, fun found => ?_⟩
  cases found with
  | none => trivial
  | some record =>
    refine Protocol.Follows.bind (drain_session_follows rfl grace_ms) ?_
    intro g' outcome drained
    unfold SessionRegistry.remove_if_generation
    refine ⟨.inr ⟨record, drained.1, rfl, drained.2⟩, fun removed => ?_⟩
    cases removed with
    | none => trivial
    | some removed => exact ⟨trivial, fun _ => ⟨trivial, fun _ => trivial⟩⟩

theorem sweep_once_follows (grace_ms idle_timeout : Nat) (g : TaskLog) :
    (taskProtocol gate).Follows (fun _ _ => True) g
      (sweep_once grace_ms idle_timeout : Prog (ManagerOp ι) Unit) := by
  have candidates (now : Nat) (records : List SessionRecord) :
      (idle_candidates now idle_timeout records).Only (ManagerOp.Admitted (ι := ι) gate) := by
    induction records with
    | nil => trivial
    | cons record records ih =>
      have idle : (is_idle now idle_timeout record).Only (ManagerOp.Admitted (ι := ι) gate) := by
        unfold is_idle
        cases record.state with
        | Disconnected => trivial
        | Active => exact ⟨fun g => trivial, fun _ => trivial⟩
      exact idle.bind fun _ => ih.bind fun _ => trivial
  have shutdowns (session_ids : List String) (g : TaskLog) :
      (taskProtocol gate).Follows (fun _ _ => True) g
        (shutdown_sessions grace_ms session_ids : Prog (ManagerOp ι) Unit) := by
    induction session_ids generalizing g with
    | nil => trivial
    | cons session_id session_ids ih =>
      exact (shutdown_session_follows grace_ms session_id g).bind fun g' _ _ => ih g'
  unfold sweep_once
  exact ⟨trivial, fun now => ⟨trivial, fun records =>
    (Protocol.Follows.of_admitted (candidates now records) _).bind fun g' _ _ => shutdowns _ g'⟩⟩

theorem grace_sweep_admitted (grace : Nat) :
    (grace_sweep_once grace).Only (ManagerOp.Admitted (ι := ι) gate) := by
  unfold grace_sweep_once SessionRegistry.sweep_expired_disconnects
  refine ⟨fun g => trivial, fun now => ⟨fun g => trivial, fun expired => ?_⟩⟩
  cases expired with
  | nil => trivial
  | cons => exact ⟨admitted_of_reads trivial, fun _ => trivial⟩

/-! ## The socket of a client -/

/-- What the task of a socket has learnt, as far as `serve` keeps it in step with `peer`. -/
structure TaskLog.Serves (connection : Nat) (peer : Option ConnectionIdentity) (g : TaskLog) :
    Prop where
  own : g.own = some connection
  registered : g.registered = peer

/-- The clean-up knows the registration that was made, or none. -/
structure TaskLog.Leaves (connection : Nat) (peer : Option ConnectionIdentity) (g : TaskLog) :
    Prop where
  own : g.own = some connection
  registered : ∀ ident, peer = some ident → g.registered = some ident

theorem TaskLog.Serves.leaves {connection : Nat} {peer : Option ConnectionIdentity} {g : TaskLog}
    (serves : g.Serves connection peer) : g.Leaves connection peer where
  own := serves.own
  registered _ same := serves.registered.trans same

def Next.Fits (connection : Nat) : Next → TaskLog → Prop
  | .proceed peer, g => g.Serves connection peer
  | .bye, g => g.Leaves connection none

theorem send_error_quiet (connection : Nat) (id : Id) (code : Int) (message : String) :
    (send_error connection id code message).Only (ManagerOp.Quiet (ι := ι) gate) := by
  unfold send_error
  exact ⟨fun g => ⟨trivial, fun _ => rfl⟩, fun _ => trivial⟩

theorem send_result_quiet (connection : Nat) (id : Id) (result : Value) :
    (send_result connection id result).Only (ManagerOp.Quiet (ι := ι) gate) := by
  unfold send_result
  exact ⟨fun g => ⟨trivial, fun _ => rfl⟩, fun _ => trivial⟩

/-- Only public tools are cached, and these are normalised. -/
theorem upsert_tools_cache_quiet (kind config_id : String) {tools : List ToolDescriptor}
    (normalized : gate.Normalized tools) :
    ((SessionRegistry.upsert_tools_cache kind config_id tools).lift .reg).Only
      (ManagerOp.Quiet (ι := ι) gate) := by
  have cached : ∀ tool ∈ tools.filter (fun tool => tool.visibility.is_public),
      tool.name ∉ gate.internal_tools := by
    intro tool member
    obtain ⟨member, is_public⟩ := List.mem_filter.mp member
    exact normalized tool member (ToolVisibility.is_public_iff.mp is_public)
  refine Prog.only_lift.mpr ?_
  unfold SessionRegistry.upsert_tools_cache
  refine ⟨fun g => ⟨trivial, fun _ => rfl⟩, fun evicted => ?_⟩
  cases evicted with
  | none => trivial
  | some evicted =>
    have marked (changed : Bool) :
        (if changed then perform .mark_tools_changed else pure () : Prog RegOp Unit).Only
          fun op => (ManagerOp.reg op).Quiet (ι := ι) gate := by
      cases changed with
      | false => trivial
      | true => exact ⟨fun g => ⟨trivial, fun _ => rfl⟩, fun _ => trivial⟩
    cases evicted with
    | false => exact ⟨fun g => ⟨cached, fun _ => rfl⟩, marked⟩
    | true => exact ⟨fun g => ⟨trivial, fun _ => rfl⟩, fun _ => ⟨fun g => ⟨cached, fun _ => rfl⟩, marked⟩⟩

/-! ### Requests -/

theorem database_key_quiet (masking_gate : Option MaskingGate) (params : SessionRegisterParams) :
    (session_database_key masking_gate params).Only (ManagerOp.Quiet (ι := ι) gate) := by
  unfold session_database_key
  split
  · rename_i masking cluster_server _
    cases masking.enabled with
    | false => trivial
    | true => exact ⟨fun g => ⟨trivial, fun _ => rfl⟩, fun _ => trivial⟩
  · trivial

theorem register_follows {params : SessionRegisterParams} {now : Nat} {connection : Option Nat}
    {g : TaskLog} (allowed : g.AllowsReg gate (.register params now connection)) :
    (taskProtocol gate).Follows
      (fun g' answer => g' = g.after_reg (.register params now connection) answer) g
      ((SessionRegistry.register_with_generation params now connection).lift .reg :
        Prog (ManagerOp ι) _) := by
  refine Protocol.follows_lift.mpr ?_
  unfold SessionRegistry.register_with_generation
  refine Protocol.follows_perform.mpr ⟨allowed, fun answer => ?_⟩
  cases answer with
  | error error => rfl
  | ok result =>
    refine ⟨trivial, fun _ => ⟨trivial, fun _ => ?_⟩⟩
    have cached := upsert_tools_cache_quiet (ι := ι) params.kind
      (SessionRegistry.resolved_config_id params) allowed.2.2.2
    refine (Protocol.follows_lift.mp (follows_of_quiet cached _)).bind ?_
    intro g' _ same
    exact same

/-- A section that replaces tools, with what it writes to the cache. -/
theorem update_tools_follows {session_id : String} {tools : List ToolDescriptor} {g : TaskLog}
    (allowed : g.AllowsReg gate (.update_tools session_id tools)) :
    (taskProtocol gate).Follows (fun g' _ => g' = g) g
      ((SessionRegistry.update_tools session_id tools).lift .reg : Prog (ManagerOp ι) _) := by
  refine Protocol.follows_lift.mpr ?_
  unfold SessionRegistry.update_tools
  refine Protocol.follows_perform.mpr ⟨allowed, fun answer => ?_⟩
  cases answer with
  | none => rfl
  | some found =>
    obtain ⟨same, kind, config_id⟩ := found
    cases same with
    | true => rfl
    | false =>
      refine ⟨trivial, fun _ => ?_⟩
      have cached := upsert_tools_cache_quiet (ι := ι) kind config_id allowed.2
      refine (Protocol.follows_lift.mp (follows_of_quiet cached _)).bind ?_
      intro g' _ same
      exact same

theorem normalized_app_state {state : AppState} (gated : state.masking_gate = some gate)
    (tools : List ToolDescriptor) : gate.Normalized (state.normalize_tools tools) := by
  rw [AppState.normalize_tools, gated]
  exact gate.normalized_normalize_tools tools

variable {state : AppState} {connection : Nat} {peer : Option ConnectionIdentity} {g : TaskLog}

theorem handle_register_follows (gated : state.masking_gate = some gate) (decoders : Decoders)
    (id : Id) (params : Value) (serves : g.Serves connection none) :
    (taskProtocol gate).Follows (fun g' next => next.Fits connection g') g
      (handle_register state decoders connection id params : Prog (ManagerOp ι) Next) := by
  unfold handle_register
  cases decoders.register_params params with
  | error reason =>
    refine (follows_of_quiet (send_error_quiet connection id _ reason) g).bind ?_
    intro g' _ same
    subst same
    exact serves
  | ok parsed =>
    refine Protocol.follows_perform.mpr ⟨trivial, fun now => ?_⟩
    refine (follows_of_quiet (database_key_quiet state.masking_gate parsed) g).bind ?_
    intro g' database_key same
    subst same
    have allowed : g'.AllowsReg gate (.register { parsed with
        tools := state.normalize_tools parsed.tools, database_key } now (some connection)) :=
      ⟨serves.registered, rfl, serves.own.symm, normalized_app_state gated parsed.tools⟩
    refine (register_follows allowed).bind ?_
    intro g'' answer same
    subst same
    cases answer with
    | error error =>
      cases error with
      | UidCollision uid =>
        refine (follows_of_quiet (send_error_quiet connection id _ _) _).bind ?_
        intro g'' _ same
        subst same
        exact serves
    | ok result =>
      obtain ⟨outcome, generation⟩ := result
      refine (follows_of_quiet (send_result_quiet connection id _) _).bind ?_
      intro g'' _ same
      subst same
      exact ⟨serves.own, rfl⟩

theorem handle_bye_follows (id : Id) (serves : g.Serves connection peer) :
    (taskProtocol gate).Follows (fun g' next => next.Fits connection g') g
      (handle_bye connection peer id : Prog (ManagerOp ι) Next) := by
  have removed : (taskProtocol gate).Follows (fun g' _ => g' = g) g
      (remove_peer peer : Prog (ManagerOp ι) Unit) := by
    cases peer with
    | none => rfl
    | some ident =>
      unfold remove_peer SessionRegistry.remove_if_generation
      refine ⟨.inl serves.registered, fun removed => ?_⟩
      cases removed with
      | none => rfl
      | some removed => exact ⟨trivial, fun _ => ⟨trivial, fun _ => rfl⟩⟩
  unfold handle_bye
  refine removed.bind ?_
  intro g' _ same
  subst same
  refine (follows_of_quiet (send_result_quiet connection id _) _).bind ?_
  intro g'' _ same
  subst same
  exact ⟨serves.own, fun ident none => by cases none⟩

theorem handle_request_follows (gated : state.masking_gate = some gate) (decoders : Decoders)
    (id : Id) (method : String) (params : Value) (serves : g.Serves connection peer) :
    (taskProtocol gate).Follows (fun g' next => next.Fits connection g') g
      (handle_request state decoders connection peer id method params :
        Prog (ManagerOp ι) Next) := by
  unfold handle_request
  split
  · cases peer with
    | none => exact handle_register_follows gated decoders id params serves
    | some ident =>
      refine (follows_of_quiet (send_error_quiet connection id _ _) g).bind ?_
      intro g' _ same
      subst same
      exact serves
  · split
    · exact handle_bye_follows id serves
    · refine (follows_of_quiet (send_error_quiet connection id _ _) g).bind ?_
      intro g' _ same
      subst same
      exact serves

theorem handle_notification_follows (gated : state.masking_gate = some gate)
    (method : String) (params : Value) (serves : g.Serves connection peer) :
    (taskProtocol gate).Follows (fun g' _ => g' = g) g
      (handle_notification state peer method params : Prog (ManagerOp ι) Unit) := by
  unfold handle_notification
  split
  · split
    · rename_i ident tools _
      have allowed : g.AllowsReg gate (.update_tools ident.session_id (state.normalize_tools tools)) :=
        ⟨⟨ident.generation, serves.registered⟩, normalized_app_state gated tools⟩
      exact (update_tools_follows allowed).bind fun g' _ same => same
    · rfl
  · rfl

/-- Responses are matched with what waits for them; nothing is drained. -/
theorem complete_response_quiet (connection : Nat) (id : Id) (result : RpcResult) :
    ((ConnectionHandle.complete_response id result).lift (.conn connection)).Only
      (ManagerOp.Quiet (ι := ι) gate) := by
  unfold ConnectionHandle.complete_response
  refine conn_quiet ⟨not_false, fun found => ?_⟩
  cases found with
  | none => trivial
  | some tx => exact ⟨not_false, fun _ => trivial⟩

theorem dispatch_follows (gated : state.masking_gate = some gate) (decoders : Decoders)
    (msg : WireMessage) (serves : g.Serves connection peer) :
    (taskProtocol gate).Follows (fun g' next => next.Fits connection g') g
      (dispatch state decoders connection peer msg : Prog (ManagerOp ι) Next) := by
  cases msg with
  | request id method params => exact handle_request_follows gated decoders id method params serves
  | notification method params =>
    refine (handle_notification_follows gated method params serves).bind ?_
    intro g' _ same
    subst same
    exact serves
  | response id result =>
    refine (follows_of_quiet (complete_response_quiet connection id result) g).bind ?_
    intro g' _ same
    subst same
    exact serves

theorem serve_follows (gated : state.masking_gate = some gate) (decoders : Decoders)
    (frames : List Frame) (serves : g.Serves connection peer) :
    (taskProtocol gate).Follows (fun g' peer => g'.Leaves connection peer) g
      (serve state decoders connection peer frames : Prog (ManagerOp ι) _) := by
  induction frames generalizing g peer with
  | nil => exact serves.leaves
  | cons frame frames ih =>
    cases frame with
    | text msg =>
      refine (dispatch_follows gated decoders msg serves).bind ?_
      intro g' next fits
      cases next with
      | proceed peer => exact ih fits
      | bye => exact fits
    | unparsable reason =>
      refine (follows_of_quiet (send_error_quiet connection _ _ _) g).bind ?_
      intro g' _ same
      subst same
      exact ih serves
    | other => exact ih serves

/-! ### The end of a connection -/

/-- What a section that disconnected a record handed out may be drained. -/
theorem release_follows {handed : Option (Option Nat × Nat)} (here : g.handed = handed) :
    (taskProtocol gate).Follows (fun _ _ => True) g
      (SessionRegistry.release handed : Prog (ManagerOp ι) Bool) := by
  cases handed with
  | none => trivial
  | some handed =>
    obtain ⟨connection, dispatcher⟩ := handed
    have rest (g : TaskLog) (here : g.handed = some (connection, dispatcher)) :
        (taskProtocol gate).Follows (fun _ _ => True) g (do
          perform (.drain_dispatcher dispatcher)
          perform (.reg .unlock)
          perform (.reg .mark_tools_changed)
          perform (.reg .mark_session_changed)
          return true : Prog (ManagerOp ι) Bool) :=
      ⟨.inr ⟨connection, here⟩, fun _ => ⟨trivial, fun _ => ⟨trivial, fun _ =>
        ⟨trivial, fun _ => trivial⟩⟩⟩⟩
    cases connection with
    | none => exact rest g here
    | some connection =>
      refine (drain_follows (.inr (.inr ⟨dispatcher, here⟩))).bind ?_
      intro g' _ same
      subst same
      exact rest _ here

theorem disconnect_peer_follows (registered : ∀ ident, peer = some ident → g.registered = some ident)
    (closed : g.Closed g.own) :
    (taskProtocol gate).Follows (fun _ _ => True) g
      (disconnect_peer peer : Prog (ManagerOp ι) Unit) := by
  cases peer with
  | none => trivial
  | some ident =>
    unfold disconnect_peer SessionRegistry.mark_disconnected_if_generation
    refine Protocol.follows_perform.mpr ⟨trivial, fun now => ?_⟩
    refine Protocol.Follows.bind (Q := fun _ _ => True) ?_ fun _ _ _ => trivial
    exact Protocol.follows_perform.mpr
      ⟨⟨registered ident rfl, closed⟩, fun handed => release_follows rfl⟩

theorem handle_socket_follows (gated : state.masking_gate = some gate) (decoders : Decoders)
    (frames : List Frame) :
    (taskProtocol gate).Follows (fun _ _ => True) .empty
      (handle_socket state decoders frames : Prog (ManagerOp ι) Unit) := by
  unfold handle_socket
  refine Protocol.follows_perform.mpr ⟨rfl, fun connection => ?_⟩
  have serves : TaskLog.Serves connection none { TaskLog.empty with own := some connection } :=
    ⟨rfl, rfl⟩
  refine (serve_follows gated decoders frames serves).bind ?_
  intro g peer leaves
  refine (drain_follows (.inl leaves.own)).bind ?_
  intro g' _ same
  subst same
  refine Protocol.follows_perform.mpr ⟨fun drains => drains.elim, fun _ => ?_⟩
  refine disconnect_peer_follows leaves.registered ?_
  intro c own
  cases leaves.own.symm.trans own
  exact List.mem_cons_self

/-! ## All tasks -/

/-- **A task drains only what it accepted, read or was handed, and unregisters only what it
registered or drained.** -/
theorem ManagerTask.follows (settings : ManagerSettings) (task : ManagerTask ι) :
    (taskProtocol settings.gate).Follows (fun _ _ => True) .empty (task.prog settings) := by
  have calls {α : Type} {p : Prog (ManagerOp ι) α} (only : p.Only (ManagerOp.Admitted settings.gate))
      {f : α → ManagerReturn} : (taskProtocol settings.gate).Follows (fun _ _ => True) .empty
        (p >>= fun a => pure (f a)) :=
    (Protocol.Follows.of_admitted only _).bind fun _ _ _ => trivial
  cases task with
  | socket frames =>
    exact (handle_socket_follows rfl settings.decoders frames).bind fun _ _ _ => trivial
  | agent_call caller request => exact calls (agent_call_admitted settings.crates caller request)
  | internal_call authorized request =>
    exact calls (internal_call_admitted settings.internal_call _ request)
  | list_tools => exact calls (list_tools_admitted settings.crates settings.builtin)
  | list_sessions => exact calls list_sessions_admitted
  | shutdown session_id =>
    exact (shutdown_session_follows _ session_id _).bind fun _ _ _ => trivial
  | idle_sweep => exact (sweep_once_follows _ _ _).bind fun _ _ _ => trivial
  | grace_sweep => exact calls (grace_sweep_admitted settings.reconnection_grace)
  | close_writer connection => exact ⟨fun drains => drains.elim, fun _ => trivial⟩
  | cancel i => exact ⟨trivial, fun _ => trivial⟩
  | tick => exact ⟨trivial, fun _ => trivial⟩

end SessionManager
