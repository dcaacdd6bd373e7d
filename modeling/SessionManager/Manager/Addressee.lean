import SessionManager.Effect.Before
import SessionManager.Manager.AgentCalls
import SessionManager.Manager.Endings

/-!
# The session that a call goes to

A call reads its session before it asks the masking service or the client for anything, so all it
tells the service is about the database of the registration that its `tool.call` goes to.  That
registration is still there when the call goes out, unless a goodbye has removed it: the record
goes first then, and the connection is drained after it (`call_identity_iff`).
-/

namespace SessionManager

open Json Effect

open Prog (perform)

variable {ι : Type}

/-! ## What a call reads first -/

/-- Reads a session from the registry. -/
def ProxyOp.looks : ∀ {β : Type}, ProxyOp β → Prop
  | _, .reg .snapshot | _, .reg (.get _) => True
  | _, _ => False

/-- Asks the masking service or the client. -/
def ProxyOp.asks : ∀ {β : Type}, ProxyOp β → Prop
  | _, .mask _ | _, .enqueue .. => True
  | _, _ => False

def ManagerOp.looks : ∀ {β : Type}, ManagerOp ι β → Prop
  | _, .reg .snapshot | _, .reg (.get _) => True
  | _, _ => False

def ManagerOp.asks : ∀ {β : Type}, ManagerOp ι β → Prop
  | _, .mask _ | _, .disp .. => True
  | _, _ => False

theorem forward_not_looks (crates : Crates) (gate : MaskingGate) (resolved : ResolvedCall)
    (record : SessionRecord) (context : Option MaskingCallContext) (arguments : Value)
    (no_deadline_requested : Bool) :
    (forward crates gate resolved record context arguments no_deadline_requested).Only
      fun op => ¬ op.looks := by
  have timed : (proxy_call_deadline record.kind no_deadline_requested).Only
      fun op => ¬ op.looks := by
    unfold proxy_call_deadline
    split
    · split <;> trivial
    · exact ⟨not_false, fun _ => trivial⟩
  unfold forward
  split
  · trivial
  · refine timed.bind fun deadline => ?_
    cases deadline with
    | error error => trivial
    | ok deadline =>
      refine ⟨not_false, fun now => ⟨not_false, fun _ => ⟨not_false, fun outcome => ?_⟩⟩⟩
      exact Prog.only_lift.mpr (.of_forall (fun _ => not_false) _)

theorem call_looks_first (crates : Crates) (gate : MaskingGate) (caller : CallerInfo)
    (request : CallToolRequestParams) :
    (Protocol.before ProxyOp.looks ProxyOp.asks).Follows (fun _ _ => True) False
      (call_proxy_tool_inner crates gate caller request) := by
  unfold call_proxy_tool_inner
  split
  · trivial
  · have routed (requested_session_id : Option String) :
        ((route crates request.name requested_session_id).lift ProxyOp.reg).Only
          fun op => ¬ op.asks := Prog.only_lift.mpr (.of_forall (fun _ => not_false) _)
    refine (Protocol.before_early (routed _) id).bind fun late result _ => ?_
    cases result with
    | error answer => trivial
    | ok target =>
      obtain ⟨resolved, record⟩ := target
      have gated (arguments : Value) :
          ((pass_gate crates gate caller request.name record arguments).lift ProxyOp.mask).Only
            fun op => ¬ op.looks := Prog.only_lift.mpr (.of_forall (fun _ => not_false) _)
      refine Protocol.before_late ((gated _).bind fun passed => ?_)
      cases passed with
      | error failure => trivial
      | ok passed => exact forward_not_looks crates gate resolved record passed.1 passed.2 _

/-- **An agent's call looks before it asks.** -/
theorem agent_looks_first (settings : ManagerSettings) (caller : CallerInfo)
    (request : CallToolRequestParams) :
    (Protocol.before ManagerOp.looks ManagerOp.asks).Follows (fun _ _ => True) False
      ((ManagerTask.agent_call caller request : ManagerTask ι).prog settings) := by
  refine ((call_looks_first settings.crates settings.gate caller request).before_subst
    ?_ ?_ ?_ id).bind fun _ _ _ => trivial
  · intro β op looks
    cases op with
    | reg => exact ⟨not_false, fun _ => trivial⟩
    | _ => exact looks.elim
  · intro β op asks
    cases op with
    | mask => exact ⟨not_false, fun _ => trivial⟩
    | enqueue => exact Prog.only_lift.mpr (.of_forall (fun _ => not_false) _)
    | _ => exact asks.elim
  · intro β op still quiet
    cases op with
    | reg op =>
      refine ⟨⟨fun looks => still ?_, not_false⟩, fun _ => trivial⟩
      cases op with
      | snapshot | get => trivial
      | _ => exact looks
    | now => exact ⟨⟨not_false, not_false⟩, fun _ => trivial⟩
    | _ => exact absurd trivial quiet

/-! ## What a call says of its session -/

/-- The event names no database, or the one with this key. -/
def TerminalRequest.Names (key : Option String) (event : TerminalRequest) : Prop :=
  ∀ instance_id, event.instance_id = some instance_id → key = some instance_id

/-- What goes to the masking service or into the outbox names the database with this key; events
that were in the outbox already are passed on. -/
def MaskOp.Names (key : Option String) (outbox : List TerminalRequest) :
    ∀ {β : Type}, MaskOp β → Prop
  | _, .post (.preflight request) => key = some request.instance_id
  | _, .post (.finalize request) => key = some request.instance_id
  | _, .post (.terminal event) => event ∈ outbox ∨ event.Names key
  | _, .persist events => ∀ event ∈ events, event ∈ outbox ∨ event.Names key
  | _, _ => True

def ManagerOp.Names (key : Option String) (outbox : List TerminalRequest) :
    ∀ {β : Type}, ManagerOp ι β → Prop
  | _, .mask op => op.Names key outbox
  | _, _ => True

/-- What the outbox held when it was locked. -/
def outbox_of : Event (ManagerOp ι) → List TerminalRequest
  | ⟨.mask .lock_outbox, events⟩ => events
  | _ => []

/-- The events that a task has read from the outbox. -/
def outbox_read (tr : List (Event (ManagerOp ι))) : List TerminalRequest := tr.flatMap outbox_of

section Calls

variable {crates : Crates} {gate : MaskingGate} {g : CallLog} {tr a b : List (Event (ManagerOp ι))}

theorem fetched_next {β : Type} {op : ManagerOp ι β} (quiet : ¬ op.looks) (answer : β) :
    ((agentProtocol crates gate).next g op answer).fetched = g.fetched := by
  cases op with
  | reg op =>
    cases op with
    | snapshot | get => exact absurd trivial quiet
    | _ => rfl
  | mask op =>
    cases op with
    | post request => cases request <;> rfl
    | _ => rfl
  | _ => rfl

theorem fetched_of_quiet (quiet : ∀ ev ∈ tr, ¬ ev.request.looks) :
    ((agentProtocol crates gate).after g tr).fetched = g.fetched := by
  induction tr generalizing g with
  | nil => rfl
  | cons ev tr ih =>
    obtain ⟨here, rest⟩ := List.forall_mem_cons.mp quiet
    exact (ih rest).trans (fetched_next here ev.answer)

/-- The record that a call has when it asks is the one it has in the end. -/
theorem fetched_when_asking {p q : Prog (ManagerOp ι) ManagerReturn} {ev : Event (ManagerOp ι)}
    (first : (Protocol.before ManagerOp.looks ManagerOp.asks).Follows (fun _ _ => True) False p)
    (run : Exec p (a ++ ev :: b) q) (asks : ev.request.asks) :
    ((agentProtocol crates gate).after .empty (a ++ ev :: b)).fetched =
      ((agentProtocol crates gate).after .empty a).fetched := by
  have here : ¬ ev.request.looks := by
    obtain ⟨op, answer⟩ := ev
    intro looks
    cases op with
    | reg => exact asks
    | _ => exact looks
  have quiet : ∀ ev' ∈ ev :: b, ¬ ev'.request.looks :=
    List.forall_mem_cons.mpr ⟨here, first.none_behind run asks⟩
  rw [Protocol.after, List.foldl_append]
  exact fetched_of_quiet quiet

/-- The record that a call has fetched is the one its task has read last. -/
theorem target_of_fetched {g' : TaskLog} {found : String × SessionRecord}
    (same : ∀ found, g.fetched = some found → g'.target = some found)
    (fetched : ((agentProtocol crates gate).after g tr).fetched = some found) :
    ((taskProtocol gate).after g' tr).target = some found := by
  induction tr generalizing g g' with
  | nil => exact same found fetched
  | cons ev tr ih =>
    obtain ⟨op, answer⟩ := ev
    refine ih (fun found fetched => ?_) fetched
    cases op with
    | reg op =>
      cases op with
      | get session_id => exact fetched
      | snapshot => cases fetched
      | register => cases answer <;> exact same found fetched
      | _ => exact same found fetched
    | conn c op => cases op <;> exact same found fetched
    | mask op =>
      cases op with
      | post request => cases request <;> exact same found fetched
      | _ => exact same found fetched
    | _ => exact same found fetched

theorem held_read {p q : Prog (ManagerOp ι) ManagerReturn}
    (follows : (agentProtocol crates gate).Follows (fun _ _ => True) .empty p) (run : Exec p tr q) :
    ∀ event ∈ ((agentProtocol crates gate).after .empty tr).held, event ∈ outbox_read tr := by
  refine follows.trail (T := fun g past => ∀ event ∈ g.held, event ∈ outbox_read past) run
    (fun event none => absurd none List.not_mem_nil) ?_
  intro g past β op answer known allowed event member
  rw [outbox_read, List.flatMap_append]
  have earlier (there : event ∈ g.held) :
      event ∈ past.flatMap outbox_of ++ [⟨op, answer⟩].flatMap outbox_of :=
    List.mem_append_left _ (known event there)
  cases op with
  | mask op =>
    cases op with
    | lock_outbox => exact List.mem_append_right _ (List.mem_append_left [] member)
    | post request => cases request <;> exact earlier member
    | _ => exact earlier member
  | reg op => cases op <;> exact earlier member
  | _ => exact earlier member

/-- What the log of a call allows names the database of the record it has fetched. -/
theorem names_of_allowed {β : Type} {op : ManagerOp ι β} {session_id : String}
    {record : SessionRecord} {outbox : List TerminalRequest}
    (allowed : (agentProtocol crates gate).allows g op)
    (fetched : g.fetched = some (session_id, record)) (held : ∀ event ∈ g.held, event ∈ outbox) :
    op.Names record.database_key outbox := by
  have keyed {instance_id : String} (keyed : g.keyed instance_id) :
      record.database_key = some instance_id := by
    obtain ⟨uid, other, same, key⟩ := keyed
    cases fetched.symm.trans same
    exact key
  have known {event : TerminalRequest} (knows : g.knows event) :
      event ∈ outbox ∨ event.Names record.database_key :=
    knows.imp (held event) fun owns instance_id same => keyed (owns.2 instance_id same)
  cases op with
  | mask op =>
    cases op with
    | post request =>
      cases request with
      | preflight | finalize => exact keyed allowed.2
      | terminal => exact known allowed
    | persist events => exact fun event member => known (allowed event member)
    | _ => trivial
  | _ => trivial

/-- **A call names one database throughout:** that of the record it goes to. -/
theorem names_of_exec {settings : ManagerSettings} {caller : CallerInfo}
    {request : CallToolRequestParams} {rest : Prog (ManagerOp ι) ManagerReturn}
    {ev : Event (ManagerOp ι)} {session_id : String} {record : SessionRecord}
    (run : Exec ((ManagerTask.agent_call caller request).prog settings) (a ++ ev :: b) rest)
    (asks : ev.request.asks)
    (fetched : ((agentProtocol settings.crates settings.gate).after .empty a).fetched =
      some (session_id, record)) {x y : List (Event (ManagerOp ι))} {ev' : Event (ManagerOp ι)}
    (split : a ++ ev :: b = x ++ ev' :: y) :
    ev'.request.Names record.database_key (outbox_read x) := by
  have follows := agent_task_follows (ι := ι) settings caller request
  have first := agent_looks_first (ι := ι) settings caller request
  have final : ((agentProtocol settings.crates settings.gate).after .empty (a ++ ev :: b)).fetched =
      some (session_id, record) := (fetched_when_asking first run asks).trans fetched
  rw [split] at run final
  obtain ⟨k, before, -⟩ := run.split
  have names (asks : ev'.request.asks) : ev'.request.Names record.database_key (outbox_read x) :=
    names_of_allowed (follows.allowed run) ((fetched_when_asking first run asks).symm.trans final)
      (held_read follows before)
  obtain ⟨op, answer⟩ := ev'
  cases op with
  | mask op => exact names trivial
  | _ => trivial

end Calls

/-! ## Where a call goes -/

section Runs

variable [DecidableEq ι] {settings : ManagerSettings} {tools_cache : Option ToolsCacheStore}
  {tasks : ι → ManagerTask ι} {i : ι} {tr : List (PoolEvent ι (ManagerOp ι))}
  {q q' : Pool ι (ManagerOp ι) (ManagerWorld ι) ManagerReturn}

/-- The step by which a call of a dispatcher puts a `tool.call` on the channel of a connection. -/
def sends_call (dispatcher connection : Nat) (id : Id) (value : Value) : Event (ManagerOp ι) :=
  ⟨.disp dispatcher connection (.conn (.outbound_send (.request id methods.TOOL_CALL value))),
    .accepted⟩

theorem accepts_of_sent {s s' : ManagerWorld ι} {dispatcher connection : Nat} {msg : WireMessage}
    (answered : managerSemantics i s (.disp dispatcher connection (.conn (.outbound_send msg)))
      .accepted s') : (s.connections.cell connection).accepts := by
  obtain applied | ⟨external, -⟩ := answered
  · simp only [ManagerOp.apply, Option.map_eq_some_iff] at applied
    obtain ⟨⟨b, v⟩, ran, same⟩ := applied
    cases same
    exact ConnectionHandle.send_outbound_accepted.mp (DispOp.apply_conn ran).1
  · exact external.elim

/-- **A call names the database of the registration that its `tool.call` goes to,** whose record
is active at that time exactly when those who have ended it had drained the connection before. -/
theorem call_identity_iff
    (run : Pool.Run managerSemantics (managerPool settings tools_cache tasks) tr q)
    {caller : CallerInfo} {request : CallToolRequestParams}
    (own : tasks i = .agent_call caller request) {dispatcher connection : Nat} {id : Id}
    {value : Value}
    (step : Pool.Step managerSemantics q ⟨i, sends_call dispatcher connection id value⟩ q') :
    ∃ k r, (registrations tr)[k]? = some r ∧ r.connection = some connection ∧
      (∀ (k' : Nat) (r' : Registration), (registrations tr)[k']? = some r' →
        r'.connection = some connection → k' = k) ∧
      (∀ later q'', Pool.Run managerSemantics q' later q'' → ∀ x ev y,
        Pool.project i (tr ++ ⟨i, sends_call dispatcher connection id value⟩ :: later) =
          x ++ ev :: y → ev.request.Names r.params.database_key (outbox_read x)) ∧
      (Current k r q.shared.registry ↔ Orderly settings.gate k r tr) := by
  have follows : (agentProtocol settings.crates settings.gate).Follows (fun _ _ => True) .empty
      ((tasks i).prog settings) := own ▸ agent_task_follows settings caller request
  have allowed := run.allowed follows step
  obtain ⟨params, ⟨snapshot, session_id, record, -, fetched, active, connected, -⟩, -⟩ | cancel :=
    allowed
  · have target : (log_of settings.gate tr i).target = some (session_id, record) :=
      target_of_fetched (fun found none => by cases none) fetched
    obtain ⟨r, there, -, made⟩ := ((owned run).knows i).target session_id record target
    have given : r.connection = some connection := by
      rw [← connected, made.connection, if_pos active]
    refine ⟨record.dispatcher, r, there, given, ?_, ?_, ?_⟩
    · intro k' r' there' given'
      exact (owned run).single k' _ r' r there' there (given'.trans given.symm)
    · intro later q'' after x ev y split
      have whole := (Pool.Run.snoc run step).append after
      rw [List.append_assoc] at whole
      have mine := exec_of_run whole own
      rw [Pool.project_append, Pool.project_cons_self] at split
      rw [← made.database_key]
      exact names_of_exec mine trivial fetched split
    · refine current_iff_orderly run there given ?_
      cases step with
      | step _ answered => exact accepts_of_sent answered
  · exact absurd cancel tool_call_ne_tool_cancel

end Runs

/-! ### A goodbye while a call waits -/

def plain_arguments : Value := ToolCallParams.to_value { name := "t", arguments := .object [] }

theorem call_identity_allowed : ∃ s s' id,
    Pool.Run managerSemantics (managerPool allowing_settings none allowed_tasks)
      (allowed_run.1.take 24) s ∧
    Pool.Step managerSemantics s ⟨true, sends_call 0 0 id plain_arguments⟩ s' ∧
    ∃ k r, (registrations (allowed_run.1.take 24))[k]? = some r ∧ r.connection = some 0 ∧
      (∀ (k' : Nat) (r' : Registration), (registrations (allowed_run.1.take 24))[k']? = some r' →
        r'.connection = some 0 → k' = k) ∧
      (∀ later s'', Pool.Run managerSemantics s' later s'' → ∀ x ev y,
        Pool.project true (allowed_run.1.take 24 ++
          ⟨true, sends_call 0 0 id plain_arguments⟩ :: later) =
            x ++ ev :: y → ev.request.Names r.params.database_key (outbox_read x)) ∧
      (Current k r s.shared.registry ↔ Orderly masking_on k r (allowed_run.1.take 24)) := by
  have run : Pool.Run managerSemantics (managerPool allowing_settings none allowed_tasks)
      allowed_run.1 allowed_run.2 := ManagerPool.run_play (.reply 200 []) _ _
  obtain ⟨id, split⟩ := allowed_call_sent
  rw [split] at run
  obtain ⟨s, s', before, step, -⟩ := run.split
  exact ⟨s, s', id, before, step, call_identity_iff before rfl step⟩

/-- The client registers and says goodbye. -/
def goodbye_tasks : Bool → ManagerTask Bool
  | false => .socket [registers "s" [plain_tool], .text (.request (.number 1) methods.SESSION_BYE .null)]
  | true => .agent_call anonymous plain_call

/-- The goodbye has removed the record, and has not drained the connection yet. -/
def goodbye_run := ManagerPool.play (.reply 200 [])
  (List.replicate 8 false ++ List.replicate 16 true ++ [false])
  (managerPool allowing_settings none goodbye_tasks)

set_option maxRecDepth 8000 in
theorem goodbye_registered : ∃ r, (registrations goodbye_run.1)[0]? = some r ∧
    r.connection = some 0 ∧ r.uid = "s" := ⟨_, rfl, rfl, rfl⟩

set_option maxRecDepth 8000 in
theorem goodbye_removed : goodbye_run.2.shared.registry.inner.get "s" = none := rfl

set_option maxRecDepth 8000 in
/-- The call that waits goes out all the same. -/
theorem goodbye_call_sent : ∃ id, (ManagerPool.play (.reply 200 []) [true] goodbye_run.2).1 =
    [⟨true, sends_call 0 0 id plain_arguments⟩] := ⟨_, rfl⟩

theorem call_after_goodbye : ∃ r id s',
    Pool.Run managerSemantics (managerPool allowing_settings none goodbye_tasks) goodbye_run.1
      goodbye_run.2 ∧
    Pool.Step managerSemantics goodbye_run.2 ⟨true, sends_call 0 0 id plain_arguments⟩ s' ∧
    (registrations goodbye_run.1)[0]? = some r ∧ r.connection = some 0 ∧
    ¬ Current 0 r goodbye_run.2.shared.registry := by
  obtain ⟨r, there, given, named⟩ := goodbye_registered
  obtain ⟨id, sent⟩ := goodbye_call_sent
  have last := ManagerPool.run_play (.reply 200 []) [true] goodbye_run.2
  rw [sent] at last
  refine ⟨r, id, _, ManagerPool.run_play (.reply 200 []) _ _, last.single, there, given, ?_⟩
  intro current
  obtain ⟨record, found, -⟩ := current
  rw [named, goodbye_removed] at found
  cases found

end SessionManager
