import SessionManager.Dispatcher.Messages
import SessionManager.Manager.Calls
import SessionManager.Manager.Tasks

/-!
# What each kind of task asks for

There are three kinds of tasks: calls go through the dispatchers, the socket of a client answers
over a sender of its own, and the others list sessions or end them, for which they may ask a client
to shut down.  `ManagerTask.kind` says which requests each of them makes.  A socket works on the
connection it has accepted, the shutdown of a session on that of the record it has read
(`ManagerOp.WorksOn`).
-/

namespace SessionManager

open Json Effect

open Prog (perform)

variable {ι : Type}

/-- On the channel of a connection it puts requests of this method only. -/
def ConnOp.Asks (method : String) : ∀ {β : Type}, ConnOp β → Prop
  | _, .outbound_send (.request _ method' _) => method' = method
  | _, .outbound_send _ => False
  | _, _ => True

/-- Puts nothing on the channel of a connection. -/
def ConnOp.Silent : ∀ {β : Type}, ConnOp β → Prop
  | _, .outbound_send _ => False
  | _, _ => True

/-- What the call of an agent or of the masking service asks for. -/
def ManagerOp.Calls : ∀ {β : Type}, ManagerOp ι β → Prop
  | _, .reg _ | _, .mask _ | _, .now => True
  | _, .disp _ _ op => op.Sends fun _ _ => True
  | _, _ => False

/-- What the socket of a client asks for. -/
def ManagerOp.Serves : ∀ {β : Type}, ManagerOp ι β → Prop
  | _, .accept | _, .reg _ | _, .now | _, .resolve .. | _, .send .. | _, .drain_dispatcher _ => True
  | _, .conn _ op => op.Silent
  | _, _ => False

/-- What the listings, the sweepers and the shutdown of a session ask for. -/
def ManagerOp.Tends : ∀ {β : Type}, ManagerOp ι β → Prop
  | _, .reg _ | _, .now | _, .timeout_at .. | _, .drain_dispatcher _ | _, .load_inflight _
  | _, .cancel _ | _, .tick => True
  | _, .conn _ op => op.Asks methods.SESSION_SHUTDOWN
  | _, _ => False

/-- A section by which a session is registered, reports its tools or ends. -/
def RegOp.hosts : ∀ {β : Type}, RegOp β → Prop
  | _, .register .. | _, .mark_disconnected_if_generation .. | _, .unlock
  | _, .remove_if_generation .. | _, .update_tools .. => True
  | _, op => op.marks

/-- Works on no connection but this one, unless it drains. -/
def ManagerOp.WorksOn (connection : Option Nat) : ∀ {β : Type}, ManagerOp ι β → Prop
  | _, .reg op => op.hosts
  | _, .send c _ => connection = some c
  | _, .conn c op => op.drains ∨ connection = some c
  | _, .drain_dispatcher _ | _, .now | _, .resolve .. | _, .timeout_at .. => True
  | _, _ => False

/-- Drains a connection or a dispatcher. -/
def ManagerOp.drains : ∀ {β : Type}, ManagerOp ι β → Prop
  | _, .conn _ op => op.drains
  | _, .disp _ _ op => op.drains
  | _, .drain_dispatcher _ => True
  | _, _ => False

/-- What a socket asks for once it has accepted this connection. -/
def ManagerOp.ServesOn (connection : Nat) {β : Type} (op : ManagerOp ι β) : Prop :=
  op.Serves ∧ op.WorksOn (some connection)

/-- What a socket asks for while it takes the frames of this connection. -/
def ManagerOp.Converses (connection : Nat) {β : Type} (op : ManagerOp ι β) : Prop :=
  op.ServesOn connection ∧ ¬ op.drains

/-- What the shutdown of a session asks for once it has read a record with this connection. -/
def ManagerOp.EndsOn (connection : Option Nat) {β : Type} (op : ManagerOp ι β) : Prop :=
  op.Tends ∧ op.WorksOn connection

/-! ## Calls -/

theorem enqueue_calls (dispatcher connection : Nat) (params : ToolCallParams)
    (deadline : Option Nat) :
    ((SessionDispatcher.enqueue params deadline).lift (.disp dispatcher connection) :
      Prog (ManagerOp ι) _).Only ManagerOp.Calls := by
  refine Prog.only_lift.mpr ((enqueue_sends params deadline).mono fun op only => ?_)
  cases op with
  | conn op => exact ConnOp.Sends.mono (fun _ _ _ => trivial) only
  | _ => exact only

theorem agent_call_calls (crates : Crates) (gate : MaskingGate) (caller : CallerInfo)
    (request : CallToolRequestParams) :
    ((call_proxy_tool_inner crates gate caller request).subst ProxyOp.program :
      Prog (ManagerOp ι) _).Only ManagerOp.Calls := by
  refine (Prog.Only.of_forall (P := fun _ => True) (fun _ => trivial) _).subst fun op _ => ?_
  cases op with
  | reg | mask | now => exact ⟨trivial, fun _ => trivial⟩
  | enqueue dispatcher connection params deadline =>
    exact enqueue_calls dispatcher connection params deadline

theorem internal_call_calls (decode : List UInt8 → Option InternalCallRequest)
    (context : InternalEndpointContext) (request : HttpRequest) :
    (InternalEndpoint.handle_request decode context request :
      Prog (ManagerOp ι) _).Only ManagerOp.Calls := by
  have dispatches (target : SessionRecord) (tool_name : String) (arguments : Value) (timeout : Nat) :
      (dispatch_internal_tool target tool_name arguments timeout :
        Prog (ManagerOp ι) _).Only ManagerOp.Calls := by
    unfold dispatch_internal_tool
    cases target.connection with
    | none => trivial
    | some connection =>
      refine ⟨trivial, fun now => ?_⟩
      exact (enqueue_calls target.dispatcher connection _ _).bind fun result => by
        cases result <;> trivial
  have answers (call : InternalCallRequest) : (InternalEndpoint.answer_call context call :
      Prog (ManagerOp ι) _).Only ManagerOp.Calls := by
    unfold InternalEndpoint.answer_call
    refine ⟨trivial, fun snapshot => ?_⟩
    dsimp only [Prog.bind]
    cases resolve_internal_target snapshot call with
    | error error => cases error <;> trivial
    | ok target =>
      exact (dispatches target _ _ _).bind fun result => by cases result <;> trivial
  unfold InternalEndpoint.handle_request
  repeat' split
  all_goals first | trivial | exact answers _

/-! ## Listings and ends -/

theorem reg_tends {α : Type} (p : Prog RegOp α) :
    (p.lift .reg : Prog (ManagerOp ι) α).Only ManagerOp.Tends :=
  Prog.only_lift.mpr (.of_forall (fun _ => trivial) p)

theorem list_sessions_tends :
    (management.list : Prog (ManagerOp ι) _).Only ManagerOp.Tends := by
  have items (now : Nat) (records : List SessionRecord) :
      (management.list_items now records : Prog (ManagerOp ι) _).Only ManagerOp.Tends := by
    induction records with
    | nil => trivial
    | cons record records ih => exact ⟨trivial, fun inflight => ih.bind fun _ => trivial⟩
  unfold management.list
  exact ⟨trivial, fun now => ⟨trivial, fun snapshot => (items now snapshot).bind fun _ => trivial⟩⟩

theorem hosts_of_marks {β : Type} {op : RegOp β} (marks : op.marks) : op.hosts := by
  cases op with
  | register | mark_disconnected_if_generation | unlock | remove_if_generation | update_tools =>
    trivial
  | _ => exact marks

theorem announce_hosts (changed : Bool) : (SessionRegistry.announce changed).Only RegOp.hosts := by
  cases changed with
  | false => trivial
  | true => exact ⟨trivial, fun _ => ⟨trivial, fun _ => trivial⟩⟩

theorem remove_if_generation_hosts (session_id : String) (generation : Nat) :
    (SessionRegistry.remove_if_generation session_id generation).Only RegOp.hosts :=
  ⟨trivial, fun removed => (announce_hosts removed.isSome).bind fun _ => trivial⟩

theorem drain_ends_on {here : Option Nat} (connection : Nat) :
    (ConnectionHandle.drain connection : Prog (ManagerOp ι) Unit).Only (ManagerOp.EndsOn here) := by
  exact Prog.only_lift.mpr ⟨⟨trivial, .inl trivial⟩, fun _ => ⟨⟨trivial, .inl trivial⟩, fun _ =>
    ⟨⟨trivial, .inl trivial⟩, fun _ => ⟨⟨trivial, .inl trivial⟩, fun _ => trivial⟩⟩⟩⟩

theorem call_ends_on (connection : Nat) (params : Value) (deadline : Nat) :
    (ConnectionHandle.call connection methods.SESSION_SHUTDOWN params deadline :
      Prog (ManagerOp ι) _).Only (ManagerOp.EndsOn (some connection)) := by
  have sent : ((ConnectionHandle.dispatch_request methods.SESSION_SHUTDOWN params).lift
      (ManagerOp.conn connection) :
        Prog (ManagerOp ι) _).Only (ManagerOp.EndsOn (some connection)) := by
    refine Prog.only_lift.mpr ((dispatch_request_sends _ params).mono fun op only => ?_)
    refine ⟨?_, .inr rfl⟩
    cases op with
    | outbound_send msg =>
      cases msg with
      | request id method params => exact only.1
      | response | notification => exact only
    | _ => exact trivial
  unfold ConnectionHandle.call
  refine sent.bind fun result => ?_
  cases result with
  | error error => trivial
  | ok sent =>
    obtain ⟨id, rx⟩ := sent
    refine ⟨⟨trivial, trivial⟩, fun terminal => ?_⟩
    have settled : (ConnectionHandle.call_outcome connection id terminal :
        Prog (ManagerOp ι) _).Only (ManagerOp.EndsOn (some connection)) := by
      cases terminal with
      | response result => cases result <;> trivial
      | closed => trivial
      | deadline => exact ⟨⟨trivial, .inr rfl⟩, fun _ => trivial⟩
    exact settled.bind fun _ => ⟨⟨trivial, .inr rfl⟩, fun _ => trivial⟩

/-- Once its record is read, a session is shut down over the connection of the record. -/
theorem drain_session_ends_on (grace_ms : Nat) (record : SessionRecord) :
    (drain_session grace_ms record :
      Prog (ManagerOp ι) _).Only (ManagerOp.EndsOn record.connection) := by
  unfold drain_session
  split
  · rename_i connection _ connected
    rw [connected]
    have ended : (shutdown_connection grace_ms connection :
        Prog (ManagerOp ι) _).Only (ManagerOp.EndsOn (some connection)) := by
      unfold shutdown_connection
      refine ⟨⟨trivial, trivial⟩, fun now => (call_ends_on _ _ _).bind fun answer => ?_⟩
      exact (drain_ends_on connection).bind fun _ => by cases answer <;> trivial
    exact ended.bind fun _ => ⟨⟨trivial, trivial⟩, fun _ => trivial⟩
  · exact ⟨⟨trivial, trivial⟩, fun _ => trivial⟩
  · refine ⟨⟨trivial, trivial⟩, fun _ => Prog.Only.bind (p := ConnectionHandle.drain_if _) ?_
      fun _ => trivial⟩
    cases record.connection with
    | none => trivial
    | some connection => exact drain_ends_on connection

theorem shutdown_session_tends (grace_ms : Nat) (session_id : String) :
    (shutdown_session grace_ms session_id : Prog (ManagerOp ι) _).Only ManagerOp.Tends := by
  unfold shutdown_session
  refine ⟨trivial, fun found => ?_⟩
  cases found with
  | none => trivial
  | some record =>
    exact ((drain_session_ends_on grace_ms record).mono fun _ ends => ends.1).bind fun _ =>
      (reg_tends _).bind fun _ => trivial

theorem sweep_once_tends (grace_ms idle_timeout : Nat) :
    (sweep_once grace_ms idle_timeout : Prog (ManagerOp ι) Unit).Only ManagerOp.Tends := by
  have candidates (now : Nat) (records : List SessionRecord) :
      (idle_candidates now idle_timeout records :
        Prog (ManagerOp ι) _).Only ManagerOp.Tends := by
    induction records with
    | nil => trivial
    | cons record records ih =>
      have idle : (is_idle now idle_timeout record :
          Prog (ManagerOp ι) Bool).Only ManagerOp.Tends := by
        unfold is_idle
        cases record.state with
        | Disconnected => trivial
        | Active => exact ⟨trivial, fun _ => trivial⟩
      exact idle.bind fun _ => ih.bind fun _ => trivial
  have shutdowns (session_ids : List String) :
      (shutdown_sessions grace_ms session_ids :
        Prog (ManagerOp ι) Unit).Only ManagerOp.Tends := by
    induction session_ids with
    | nil => trivial
    | cons session_id session_ids ih =>
      exact (shutdown_session_tends grace_ms session_id).bind fun _ => ih
  unfold sweep_once
  exact ⟨trivial, fun now => ⟨trivial, fun records =>
    (candidates now records).bind fun _ => shutdowns _⟩⟩

/-! ## The socket of a client -/

theorem drain_serves_on {here : Nat} (connection : Nat) :
    (ConnectionHandle.drain connection :
      Prog (ManagerOp ι) Unit).Only (ManagerOp.ServesOn here) :=
  Prog.only_lift.mpr ⟨⟨trivial, .inl trivial⟩, fun _ => ⟨⟨trivial, .inl trivial⟩, fun _ =>
    ⟨⟨trivial, .inl trivial⟩, fun _ => ⟨⟨trivial, .inl trivial⟩, fun _ => trivial⟩⟩⟩⟩

section Socket

variable {state : AppState} {decoders : Decoders} {connection : Nat}
  {peer : Option ConnectionIdentity}

theorem disconnect_peer_serves_on : (disconnect_peer peer :
    Prog (ManagerOp ι) Unit).Only (ManagerOp.ServesOn connection) := by
  have released (handed : Option (Option Nat × Nat)) : (SessionRegistry.release handed :
      Prog (ManagerOp ι) Bool).Only (ManagerOp.ServesOn connection) := by
    cases handed with
    | none => trivial
    | some handed =>
      obtain ⟨given, dispatcher⟩ := handed
      have drained : (ConnectionHandle.drain_if given :
          Prog (ManagerOp ι) Unit).Only (ManagerOp.ServesOn connection) := by
        cases given with
        | none => trivial
        | some given => exact drain_serves_on given
      have announced : (SessionRegistry.announce true).Only RegOp.hosts := announce_hosts true
      unfold SessionRegistry.release
      refine drained.bind fun _ => ⟨⟨trivial, trivial⟩, fun _ => ⟨⟨trivial, trivial⟩, fun _ => ?_⟩⟩
      exact ⟨⟨trivial, announced.1⟩, fun _ => ⟨⟨trivial, trivial⟩, fun _ => trivial⟩⟩
  cases peer with
  | none => trivial
  | some ident =>
    have marked (now : Nat) : (SessionRegistry.mark_disconnected_if_generation ident.session_id
        ident.generation now :
          Prog (ManagerOp ι) Bool).Only (ManagerOp.ServesOn connection) :=
      ⟨⟨trivial, trivial⟩, released⟩
    exact ⟨⟨trivial, trivial⟩, fun now => (marked now).bind fun _ => trivial⟩

theorem reg_converses {α : Type} {p : Prog RegOp α} (hosts : p.Only RegOp.hosts) :
    (p.lift .reg : Prog (ManagerOp ι) α).Only (ManagerOp.Converses connection) :=
  Prog.only_lift.mpr (hosts.mono fun _ hosts => ⟨⟨trivial, hosts⟩, not_false⟩)

theorem send_error_converses (id : Id) (code : Int) (message : String) :
    (send_error connection id code message :
      Prog (ManagerOp ι) Unit).Only (ManagerOp.Converses connection) :=
  ⟨⟨⟨trivial, rfl⟩, not_false⟩, fun _ => trivial⟩

theorem send_result_converses (id : Id) (result : Value) :
    (send_result connection id result :
      Prog (ManagerOp ι) Unit).Only (ManagerOp.Converses connection) :=
  ⟨⟨⟨trivial, rfl⟩, not_false⟩, fun _ => trivial⟩

theorem handle_register_converses (id : Id) (params : Value) :
    (handle_register state decoders connection id params :
      Prog (ManagerOp ι) Next).Only (ManagerOp.Converses connection) := by
  have key (parsed : SessionRegisterParams) : (session_database_key state.masking_gate parsed :
      Prog (ManagerOp ι) _).Only (ManagerOp.Converses connection) := by
    unfold session_database_key
    split
    · rename_i gate cluster_server _ _
      cases gate.enabled with
      | false => trivial
      | true => exact ⟨⟨⟨trivial, trivial⟩, not_false⟩, fun _ => trivial⟩
    · trivial
  have registered (parsed : SessionRegisterParams) (now : Nat) :
      (SessionRegistry.register_with_generation parsed now (some connection)).Only RegOp.hosts := by
    unfold SessionRegistry.register_with_generation
    refine ⟨trivial, fun answer => ?_⟩
    cases answer with
    | error error => trivial
    | ok result =>
      refine ⟨trivial, fun _ => ⟨trivial, fun _ => ?_⟩⟩
      exact ((upsert_tools_cache_marks _ _ _).mono fun _ => hosts_of_marks).bind fun _ => trivial
  unfold handle_register
  cases decoders.register_params params with
  | error reason => exact (send_error_converses id _ reason).bind fun _ => trivial
  | ok parsed =>
    refine ⟨⟨⟨trivial, trivial⟩, not_false⟩, fun now => (key parsed).bind fun database_key => ?_⟩
    refine (reg_converses (registered _ now)).bind fun answer => ?_
    cases answer with
    | error error =>
      cases error with
      | UidCollision uid => exact (send_error_converses id _ _).bind fun _ => trivial
    | ok result => exact (send_result_converses id _).bind fun _ => trivial

theorem handle_request_converses (id : Id) (method : String) (params : Value) :
    (handle_request state decoders connection peer id method params :
      Prog (ManagerOp ι) Next).Only (ManagerOp.Converses connection) := by
  have removed : (remove_peer peer :
      Prog (ManagerOp ι) Unit).Only (ManagerOp.Converses connection) := by
    cases peer with
    | none => trivial
    | some ident =>
      exact (reg_converses (remove_if_generation_hosts _ _)).bind fun _ => trivial
  unfold handle_request
  split
  · split
    · exact (send_error_converses id _ _).bind fun _ => trivial
    · exact handle_register_converses id params
  · split
    · exact removed.bind fun _ => (send_result_converses id _).bind fun _ => trivial
    · exact (send_error_converses id _ _).bind fun _ => trivial

theorem handle_notification_converses (method : String) (params : Value) :
    (handle_notification state peer method params :
      Prog (ManagerOp ι) Unit).Only (ManagerOp.Converses connection) := by
  have reported (session_id : String) (tools : List ToolDescriptor) :
      (SessionRegistry.update_tools session_id tools).Only RegOp.hosts := by
    unfold SessionRegistry.update_tools
    refine ⟨trivial, fun answer => ?_⟩
    cases answer with
    | none => trivial
    | some found =>
      obtain ⟨same, kind, config_id⟩ := found
      cases same with
      | true => trivial
      | false =>
        refine ⟨trivial, fun _ => ?_⟩
        exact ((upsert_tools_cache_marks _ _ _).mono fun _ => hosts_of_marks).bind fun _ => trivial
  unfold handle_notification
  split
  · split
    · exact (reg_converses (reported _ _)).bind fun _ => trivial
    · trivial
  · trivial

theorem dispatch_converses (msg : WireMessage) :
    (dispatch state decoders connection peer msg :
      Prog (ManagerOp ι) Next).Only (ManagerOp.Converses connection) := by
  cases msg with
  | request id method params => exact handle_request_converses id method params
  | notification method params =>
    exact (handle_notification_converses method params).bind fun _ => trivial
  | response id result =>
    have completed : ((ConnectionHandle.complete_response id result).lift (.conn connection) :
        Prog (ManagerOp ι) Bool).Only (ManagerOp.Converses connection) := by
      refine Prog.only_lift.mpr ⟨⟨⟨trivial, .inr rfl⟩, not_false⟩, fun found => ?_⟩
      cases found with
      | none => trivial
      | some tx => exact ⟨⟨⟨trivial, .inr rfl⟩, not_false⟩, fun _ => trivial⟩
    exact completed.bind fun _ => trivial

theorem serve_converses (frames : List Frame) :
    (serve state decoders connection peer frames :
      Prog (ManagerOp ι) _).Only (ManagerOp.Converses connection) := by
  induction frames generalizing peer with
  | nil => trivial
  | cons frame frames ih =>
    cases frame with
    | text msg =>
      refine (dispatch_converses msg).bind fun next => ?_
      cases next with
      | proceed peer => exact ih
      | bye => trivial
    | unparsable reason => exact (send_error_converses _ _ _).bind fun _ => ih
    | other => exact ih

theorem close_serves_on : (do
    ConnectionHandle.drain connection
    perform (.conn connection .close_writer)
    disconnect_peer peer : Prog (ManagerOp ι) Unit).Only (ManagerOp.ServesOn connection) :=
  (drain_serves_on connection).bind fun _ =>
    ⟨⟨trivial, .inr rfl⟩, fun _ => disconnect_peer_serves_on⟩

theorem handle_socket_serves (frames : List Frame) :
    (handle_socket state decoders frames : Prog (ManagerOp ι) Unit).Only ManagerOp.Serves := by
  refine ⟨trivial, fun connection => ?_⟩
  refine ((serve_converses frames).mono fun _ converses => converses.1.1).bind fun peer => ?_
  exact close_serves_on.mono fun _ serves => serves.1

end Socket

/-! ## All tasks -/

/-- **What a task asks for.** -/
theorem ManagerTask.kind (settings : ManagerSettings) (task : ManagerTask ι) :
    (∃ frames, task = .socket frames) ∧ (task.prog settings).Only ManagerOp.Serves ∨
      (∀ frames, task ≠ .socket frames) ∧
        ((task.prog settings).Only ManagerOp.Calls ∨ (task.prog settings).Only ManagerOp.Tends) := by
  cases task with
  | socket frames =>
    exact .inl ⟨⟨frames, rfl⟩, (handle_socket_serves frames).bind fun _ => trivial⟩
  | agent_call caller request =>
    exact .inr ⟨nofun, .inl ((agent_call_calls settings.crates settings.gate caller request).bind
      fun _ => trivial)⟩
  | internal_call authorized request =>
    exact .inr ⟨nofun, .inl ((internal_call_calls settings.internal_call _ request).bind
      fun _ => trivial)⟩
  | list_tools => exact .inr ⟨nofun, .inr ((reg_tends _).bind fun _ => trivial)⟩
  | list_sessions => exact .inr ⟨nofun, .inr (list_sessions_tends.bind fun _ => trivial)⟩
  | shutdown session_id =>
    exact .inr ⟨nofun, .inr ((shutdown_session_tends _ session_id).bind fun _ => trivial)⟩
  | idle_sweep => exact .inr ⟨nofun, .inr ((sweep_once_tends _ _).bind fun _ => trivial)⟩
  | grace_sweep =>
    exact .inr ⟨nofun, .inr ⟨trivial, fun _ => (reg_tends _).bind fun _ => trivial⟩⟩
  | close_writer | cancel | tick => exact .inr ⟨nofun, .inr ⟨trivial, fun _ => trivial⟩⟩

end SessionManager
