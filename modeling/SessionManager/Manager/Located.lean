import SessionManager.Manager.Runs
import SessionManager.Masking.Targets
import SessionManager.Server.Refusals

/-!
# Where the records of a run lie

A client registers with a nonempty infobase name, and the manager keys its database only if it
names a cluster server that is not blank.  So every record of a run is located
(`Pool.Run.located`), and whether its refusals can be recorded depends on the lengths of its
names alone (`refusals_recordable_iff`).
-/

namespace SessionManager

open Json Effect

open Prog (perform)

/-- Parameters as the transport hands them to the registry. -/
structure SessionRegisterParams.Located (params : SessionRegisterParams) : Prop where
  infobase_name : params.infobase_name ≠ ""
  cluster_server : ∀ key, params.database_key = some key →
    ∃ cluster_server, params.cluster_server = some cluster_server ∧ cluster_server ≠ ""

theorem Decoders.register_params_named {decoders : Decoders} {params : Value}
    {parsed : SessionRegisterParams} (decoded : decoders.register_params params = .ok parsed) :
    parsed.infobase_name ≠ "" := by
  unfold Decoders.register_params at decoded
  split at decoded
  · rename_i read
    cases decoded
    exact SessionRegisterParams.from_value_named read
  · cases decoded

variable {ι : Type}

/-- A request that registers nothing but located parameters. -/
def ManagerOp.Locates : ∀ {β : Type}, ManagerOp ι β → Prop
  | _, .reg (.register params _ _) => params.Located
  | _, _ => True

variable {gate : MaskingGate}

theorem locates_of_registered {g : TaskLog} {β : Type} (op : ManagerOp ι β)
    (registered : g.registered.isSome) (allowed : (taskProtocol gate).allows g op) : op.Locates := by
  cases op with
  | reg op =>
    cases op with
    | register params now connection =>
      rw [allowed.1] at registered
      cases registered
    | _ => trivial
  | _ => trivial

/-- A task that has registered already does not register again. -/
theorem locates_of_follows (gate : MaskingGate) {α : Type} {p : Prog (ManagerOp ι) α} {g : TaskLog}
    (registered : g.registered.isSome)
    (follows : (taskProtocol gate).Follows (fun _ _ => True) g p) : p.Only ManagerOp.Locates := by
  refine follows.only_of_kept (I := fun g => g.registered.isSome) ?_ locates_of_registered registered
  intro g β op answer registered allowed
  cases op with
  | reg op =>
    cases op with
    | register params now connection =>
      rw [allowed.1] at registered
      cases registered
    | _ => exact registered
  | conn connection op => cases op <;> exact registered
  | _ => exact registered

theorem locates_of_admitted {α : Type} {p : Prog (ManagerOp ι) α}
    (admitted : p.Only (ManagerOp.Admitted gate)) : p.Only ManagerOp.Locates :=
  admitted.mono fun op admitted => locates_of_registered op
    (g := { TaskLog.empty with registered := some { session_id := "", generation := 0 } }) rfl
    (admitted _)

theorem locates_of_quiet (gate : MaskingGate) {α : Type} {p : Prog (ManagerOp ι) α}
    (quiet : p.Only (ManagerOp.Quiet gate)) : p.Only ManagerOp.Locates :=
  locates_of_admitted (quiet.mono fun _ quiet g => (quiet g).1)

/-! ## The socket of a client -/

variable {state : AppState} {connection : Nat}

theorem register_locates {params : SessionRegisterParams} {now : Nat} {connection : Option Nat}
    (located : params.Located) (normalized : gate.Normalized params.tools) :
    ((SessionRegistry.register_with_generation params now connection).lift .reg :
      Prog (ManagerOp ι) _).Only ManagerOp.Locates := by
  refine Prog.only_lift.mpr ?_
  unfold SessionRegistry.register_with_generation
  refine ⟨located, fun answer => ?_⟩
  cases answer with
  | error error => trivial
  | ok result =>
    refine ⟨trivial, fun _ => ⟨trivial, fun _ => ?_⟩⟩
    have cached := upsert_tools_cache_quiet (ι := ι) params.kind
      (SessionRegistry.resolved_config_id params) normalized
    exact (Prog.only_lift.mp (locates_of_quiet gate cached)).bind fun _ => trivial

/-- A key is computed only for a server that is named. -/
theorem database_key_locates (masking_gate : Option MaskingGate) {params : SessionRegisterParams}
    {α : Type} {f : Option String → Prog (ManagerOp ι) α}
    (keyless : (f none).Only ManagerOp.Locates)
    (keyed : ∀ cluster_server key, params.cluster_server = some cluster_server →
      cluster_server ≠ "" → (f (some key)).Only ManagerOp.Locates) :
    (session_database_key masking_gate params >>= f).Only ManagerOp.Locates := by
  unfold session_database_key
  split
  · rename_i masking cluster_server named
    obtain ⟨given, filled⟩ := Option.filter_eq_some_iff.mp named
    have named : cluster_server ≠ "" := by
      intro blank
      subst blank
      exact absurd filled (by decide)
    cases masking.enabled with
    | false => exact keyed _ _ given named
    | true => exact ⟨trivial, fun resolved => keyed _ _ given named⟩
  · exact keyless

theorem handle_register_locates (gated : state.masking_gate = some gate) {decoders : Decoders}
    (id : Id) (params : Value) :
    (handle_register state decoders connection id params :
      Prog (ManagerOp ι) Next).Only ManagerOp.Locates := by
  unfold handle_register
  cases decoded : decoders.register_params params with
  | error reason =>
    exact (locates_of_quiet gate (send_error_quiet connection id _ reason)).bind
      fun _ => trivial
  | ok parsed =>
    have named := Decoders.register_params_named decoded
    have registers (now : Nat) (database_key : Option String)
        (keyed : ∀ key, database_key = some key →
          ∃ cluster_server, parsed.cluster_server = some cluster_server ∧ cluster_server ≠ "") :
        ((SessionRegistry.register_with_generation { parsed with
          tools := state.normalize_tools parsed.tools, database_key } now
            (some connection)).lift .reg : Prog (ManagerOp ι) _).Only ManagerOp.Locates := by
      have located : SessionRegisterParams.Located { parsed with
          tools := state.normalize_tools parsed.tools, database_key } :=
        ⟨named, keyed⟩
      exact register_locates located (normalized_app_state gated parsed.tools)
    refine ⟨trivial, fun now => database_key_locates state.masking_gate
      ((registers now none fun key none => by cases none).bind ?_)
      fun cluster_server key given filled =>
        (registers now (some key) fun _ _ => ⟨cluster_server, given, filled⟩).bind ?_⟩
    all_goals
      intro answer
      cases answer with
      | error error =>
        cases error with
        | UidCollision uid =>
          exact (locates_of_quiet gate (send_error_quiet connection id _ _)).bind
            fun _ => trivial
      | ok result =>
        exact (locates_of_quiet gate (send_result_quiet connection id _)).bind
          fun _ => trivial

theorem handle_request_locates (gated : state.masking_gate = some gate) {decoders : Decoders}
    (id : Id) (method : String) (params : Value) :
    (handle_request state decoders connection none id method params :
      Prog (ManagerOp ι) Next).Only ManagerOp.Locates := by
  unfold handle_request
  rw [if_neg (by decide : ¬ (none : Option ConnectionIdentity).isSome = true)]
  split
  · exact handle_register_locates gated id params
  · split
    · unfold handle_bye
      exact (locates_of_quiet gate (send_result_quiet connection id _)).bind
        fun _ => trivial
    · exact (locates_of_quiet gate (send_error_quiet connection id _ _)).bind
        fun _ => trivial

theorem dispatch_locates (gated : state.masking_gate = some gate) {decoders : Decoders}
    (peer : Option ConnectionIdentity) (msg : WireMessage) :
    (dispatch state decoders connection peer msg :
      Prog (ManagerOp ι) Next).Only ManagerOp.Locates := by
  cases peer with
  | some ident =>
    -- a socket that has registered follows the automaton in a state that forbids to register
    have serves : TaskLog.Serves connection (some ident)
        { TaskLog.empty with own := some connection, registered := some ident } := ⟨rfl, rfl⟩
    refine locates_of_follows gate ?_
      ((dispatch_follows gated decoders msg serves).mono fun _ _ _ => trivial)
    rfl
  | none =>
    cases msg with
    | request id method params => exact handle_request_locates gated id method params
    | notification method params =>
      have silent : (handle_notification state none method params :
          Prog (ManagerOp ι) Unit) = .ret () := by
        unfold handle_notification
        split <;> rfl
      refine Prog.Only.bind (p := handle_notification state none method params) ?_
        fun _ => trivial
      rw [silent]
      trivial
    | response id result =>
      exact (locates_of_quiet gate (complete_response_quiet connection id result)).bind
        fun _ => trivial

theorem serve_locates (gated : state.masking_gate = some gate) {decoders : Decoders}
    (peer : Option ConnectionIdentity) (frames : List Frame) :
    (serve state decoders connection peer frames :
      Prog (ManagerOp ι) _).Only ManagerOp.Locates := by
  induction frames generalizing peer with
  | nil => trivial
  | cons frame frames ih =>
    cases frame with
    | text msg =>
      refine (dispatch_locates gated peer msg).bind fun next => ?_
      cases next with
      | proceed peer => exact ih peer
      | bye => trivial
    | unparsable reason =>
      exact (locates_of_quiet gate (send_error_quiet connection _ _ _)).bind
        fun _ => ih peer
    | other => exact ih peer

theorem handle_socket_locates (gated : state.masking_gate = some gate) {decoders : Decoders}
    (frames : List Frame) :
    (handle_socket state decoders frames : Prog (ManagerOp ι) Unit).Only ManagerOp.Locates := by
  unfold handle_socket
  refine ⟨trivial, fun connection => (serve_locates gated none frames).bind fun peer => ?_⟩
  have ended (g : TaskLog) (registered : g.registered.isSome) (own : g.own = some connection)
      (same : ∀ ident, peer = some ident → g.registered = some ident) :
      (do
        ConnectionHandle.drain connection
        perform (.conn connection .close_writer)
        disconnect_peer peer : Prog (ManagerOp ι) Unit).Only ManagerOp.Locates := by
    refine locates_of_follows gate registered ?_
    refine (drain_follows (.inl own)).bind ?_
    intro g' _ drained
    subst drained
    refine Protocol.follows_perform.mpr ⟨fun drains => drains.elim, fun _ => ?_⟩
    refine disconnect_peer_follows same ?_
    intro c here
    cases own.symm.trans here
    exact List.mem_cons_self
  cases peer with
  | some ident =>
    exact ended { TaskLog.empty with own := some connection, registered := some ident } rfl rfl
      fun _ same => same
  | none =>
    exact ended { TaskLog.empty with
      own := some connection, registered := some { session_id := "", generation := 0 } } rfl rfl
      fun _ none => by cases none

/-! ## Runs -/

theorem ManagerTask.locates {settings : ManagerSettings} (task : ManagerTask ι) : (task.prog settings).Only ManagerOp.Locates := by
  have calls {α : Type} {p : Prog (ManagerOp ι) α} (only : p.Only (ManagerOp.Admitted settings.gate))
      {f : α → ManagerReturn} : (p >>= fun a => pure (f a)).Only ManagerOp.Locates :=
    (locates_of_admitted only).bind fun _ => trivial
  have start : TaskLog.registered { TaskLog.empty with
      registered := some { session_id := "", generation := 0 } } |>.isSome := rfl
  cases task with
  | socket frames => exact (handle_socket_locates rfl frames).bind fun _ => trivial
  | agent_call caller request => exact calls (agent_call_admitted settings.crates caller request)
  | internal_call authorized request =>
    exact calls (internal_call_admitted settings.internal_call _ request)
  | list_tools => exact calls (list_tools_admitted settings.crates settings.builtin)
  | list_sessions => exact calls list_sessions_admitted
  | shutdown session_id =>
    exact (locates_of_follows settings.gate start
      (shutdown_session_follows _ session_id _)).bind fun _ => trivial
  | idle_sweep =>
    exact (locates_of_follows settings.gate start
      (sweep_once_follows _ _ _)).bind fun _ => trivial
  | grace_sweep => exact calls (grace_sweep_admitted settings.reconnection_grace)
  | close_writer connection => exact ⟨trivial, fun _ => trivial⟩
  | cancel i => exact ⟨trivial, fun _ => trivial⟩
  | tick => exact ⟨trivial, fun _ => trivial⟩

/-- A record lies where the parameters it was made of do. -/
theorem SessionRegisterParams.Located.record {params : SessionRegisterParams}
    (located : params.Located) {record : SessionRecord}
    (key : record.database_key = params.database_key)
    (server : record.cluster_server = params.cluster_server)
    (infobase : record.infobase_name = params.infobase_name) : record.Located := by
  intro identity verified
  obtain ⟨instance_id, keyed, rfl⟩ := Option.map_eq_some_iff.mp verified
  obtain ⟨cluster_server, given, filled⟩ := located.cluster_server instance_id (key ▸ keyed)
  refine ⟨?_, ?_⟩
  · rw [server, given]
    exact filled
  · rw [infobase]
    exact located.infobase_name

def SessionRegistry.Located (reg : SessionRegistry) : Prop :=
  ∀ uid record, reg.inner.get uid = some record → record.Located

theorem SessionRegistry.Located.step {reg reg' : SessionRegistry} {β : Type} {op : RegOp β}
    {answer : β} {now : Nat} (located : reg.Located) (locates : (ManagerOp.reg (ι := ι) op).Locates)
    (ran : op.run now reg = (answer, reg')) : reg'.Located := by
  intro uid record found
  have changed := op.changed ran uid
  rw [found] at changed
  generalize before : reg.inner.get uid = old at changed
  cases changed with
  | kept => exact located uid record before
  | created | reconnected => exact SessionRegisterParams.Located.record locates rfl rfl rfl
  | disconnected | disconnected_if | touched | retooled =>
    have here := located uid _ before
    exact here

section Runs

variable [DecidableEq ι] {settings : ManagerSettings} {tools_cache : Option ToolsCacheStore}
  {tasks : ι → ManagerTask ι} {tr : List (PoolEvent ι (ManagerOp ι))}
  {q : Pool ι (ManagerOp ι) (ManagerWorld ι) ManagerReturn}

/-- **Every record of a run is located.** -/
theorem located (run : Pool.Run managerSemantics (managerPool settings tools_cache tasks) tr q) :
    q.shared.registry.Located := by
  refine (run.invariant_of_only (P := ManagerOp.Locates) (I := fun w => w.registry.Located)
    (fun i => (tasks i).locates) (fun uid record found => by cases found) ?_).1
  intro w w' i β op answer located locates answered
  obtain ⟨rop, rfl, ran⟩ | ⟨-, -, same⟩ := section_of_step answered
  · exact located.step locates (RegOp.run_of_apply ran)
  · rwa [same]

/-- **Which refusals the gate can record: those of every call whose names fit the bounds of the
outbox, of any caller and over any failure.** -/
theorem refusals_recordable_iff
    (run : Pool.Run managerSemantics (managerPool settings tools_cache tasks) tr q)
    {session_id : String} {record : SessionRecord}
    (registered : q.shared.registry.inner.get session_id = some record) (caller : CallerInfo)
    (tool_name : String) {call_id correlation_id : String}
    (call : settings.crates.is_uuid call_id = true)
    (correlation : settings.crates.is_uuid correlation_id = true) :
    valid_caller caller.label = true ∧
      (Recordable settings.crates record caller tool_name call_id correlation_id ↔
        Fits record tool_name) :=
  ⟨valid_label caller, recordable_iff (located run session_id record registered) caller
    tool_name call correlation⟩

end Runs

/-! ### A tool with a long name -/

def long_name : String := String.ofList (List.replicate 129 'a')

def long_tool : ToolDescriptor where
  name := long_name
  description := none
  input_schema := .object []
  visibility := .Public

def long_settings : ManagerSettings :=
  gated_settings { enabled := true, internal_tools := [] }

/-- The record of the client. -/
def long_session : SessionRecord :=
  SessionRegistry.new_record (.new none) (client_params "s" [long_tool]) 0 (some 0)

def call_uuid : String := "6ba7b810-9dad-41d1-80b4-00c04fd430c8"

def nobody : CallerInfo where
  mcp_session_id := none
  client_name := none
  client_version := none

/-- A client registers, and an agent calls its tool while the masking service is down. -/
def long_tasks : Bool → ManagerTask Bool
  | false => .socket [registers "s" [long_tool]]
  | true => .agent_call nobody { name := long_name, arguments := none }

def long_run := ManagerPool.play .unreachable
  (List.replicate 8 false ++ List.replicate 20 true) (managerPool long_settings none long_tasks)

set_option maxRecDepth 4000 in
theorem long_session_registered :
    long_run.2.shared.registry.inner.get "s" = some long_session := rfl

set_option maxRecDepth 4000 in
theorem not_fits_long_name : ¬ Fits long_session long_name := by
  intro fits
  exact absurd fits.tool_name (by decide)

set_option maxRecDepth 4000 in
/-- The agent is told that its call has no history, although the outbox is empty and the disk
takes every write. -/
theorem long_name_is_not_recordable :
    Pool.Run managerSemantics (managerPool long_settings none long_tasks) long_run.1 long_run.2 ∧
      long_run.2.shared.registry.inner.get "s" = some long_session ∧
      long_session.publishes long_name ∧
      ¬ Recordable long_settings.crates long_session nobody long_name call_uuid call_uuid ∧
      long_run.2.thread true =
        .ret (.answered (.ok (masking_failure_response (history_unavailable "uuid")))) := by
  have run := ManagerPool.run_play .unreachable (List.replicate 8 false ++ List.replicate 20 true)
    (managerPool long_settings none long_tasks)
  have here := located run "s" long_session long_session_registered
  refine ⟨run, long_session_registered, ⟨long_tool, List.mem_singleton_self _, rfl⟩, ?_, rfl⟩
  intro recordable
  exact not_fits_long_name ((recordable_iff here nobody long_name rfl rfl).mp recordable)

/-- The client of `registers` is called by its short name. -/
theorem refusals_recordable_iff_feed :
    valid_caller nobody.label = true ∧
      (Recordable feed_settings.crates feed_session nobody "feed" call_uuid call_uuid ↔
        Fits feed_session "feed") := by
  have run := ManagerPool.run_play .unreachable [(), (), (), ()]
    (managerPool feed_settings none fun _ => .socket [registers "s" [feed]])
  have registered : feed_run.2.shared.registry.inner.get "s" = some feed_session := rfl
  exact refusals_recordable_iff run registered nobody "feed" rfl rfl

end SessionManager
