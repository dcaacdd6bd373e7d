import SessionManager.Management
import SessionManager.Masking.Internal
import SessionManager.Server.Listing
import SessionManager.Transport

/-!
# The tasks of a manager

`ManagerTask` lists what runs concurrently in a manager: the sockets of clients, calls of agents
and of the masking service, listings, the sweepers, and the events around them.  A run of
`managerPool` is any interleaving of any number of these.
-/

namespace SessionManager

open Json Effect

open Prog (perform)

/-- How a manager is set up; one gate serves the transport, the agents and the endpoint. -/
structure ManagerSettings where
  /-- When the manager starts. -/
  started_at : Nat
  gate : MaskingGate
  crates : Crates
  decoders : Decoders
  internal_call : List UInt8 → Option InternalCallRequest
  builtin : List Tool
  server_version : String
  heartbeat_interval_ms : Nat
  idle_timeout_secs : Nat
  graceful_kill_grace_ms : Nat
  reconnection_grace : Nat
  internal_call_timeout : Nat

namespace ManagerSettings

variable (settings : ManagerSettings)

def app_state : AppState where
  server_version := settings.server_version
  heartbeat_interval_ms := settings.heartbeat_interval_ms
  idle_timeout_secs := settings.idle_timeout_secs
  masking_gate := some settings.gate

def internal_endpoint (authorized : Bool) : InternalEndpointContext where
  authorized := authorized
  internal_tools := settings.gate.internal_tools
  call_timeout := settings.internal_call_timeout

end ManagerSettings

variable {ι : Type}

/-- What a proxied call asks for, over the handles of the manager. -/
def ProxyOp.program : ∀ {β : Type}, ProxyOp β → Prog (ManagerOp ι) β
  | _, .reg op => perform (.reg op)
  | _, .mask op => perform (.mask op)
  | _, .now => perform .now
  | _, .enqueue dispatcher connection params deadline =>
      (SessionDispatcher.enqueue params deadline).lift (.disp dispatcher connection)

inductive ManagerTask (ι : Type)
  | socket (frames : List Frame)
  | agent_call (caller : CallerInfo) (request : CallToolRequestParams)
  | internal_call (authorized : Bool) (request : HttpRequest)
  | list_tools
  | list_sessions
  | shutdown (session_id : String)
  | idle_sweep
  | grace_sweep
  /-- The writer task of a connection ends. -/
  | close_writer (connection : Nat)
  | cancel (i : ι)
  | tick

inductive ManagerReturn
  | done
  | answered (answer : ProxyAnswer)
  | responded (response : HttpResponse)
  | tools (tools : List Tool)
  | sessions (sessions : List SessionListItem)

def ManagerTask.prog (settings : ManagerSettings) : ManagerTask ι → Prog (ManagerOp ι) ManagerReturn
  | .socket frames => do
    handle_socket settings.app_state settings.decoders frames
    return .done
  | .agent_call caller request => do
    return .answered
      (← (call_proxy_tool_inner settings.crates settings.gate caller request).subst ProxyOp.program)
  | .internal_call authorized request => do
    return .responded (← InternalEndpoint.handle_request settings.internal_call
      (settings.internal_endpoint authorized) request)
  | .list_tools => do
    return .tools (← (list_all_tools_inner settings.crates settings.builtin).lift .reg)
  | .list_sessions => do
    return .sessions (← management.list)
  | .shutdown session_id => do
    let _ ← shutdown_session settings.graceful_kill_grace_ms session_id
    return .done
  | .idle_sweep => do
    sweep_once settings.graceful_kill_grace_ms (settings.idle_timeout_secs * 1000)
    return .done
  | .grace_sweep => do
    let _ ← grace_sweep_once settings.reconnection_grace
    return .done
  | .close_writer connection => do
    perform (.conn connection .close_writer)
    return .done
  | .cancel i => do
    perform (.cancel i)
    return .done
  | .tick => do
    perform .tick
    return .done

def managerPool (settings : ManagerSettings) (tools_cache : Option ToolsCacheStore)
    (tasks : ι → ManagerTask ι) : Pool ι (ManagerOp ι) (ManagerWorld ι) ManagerReturn where
  shared := .new tools_cache settings.started_at
  thread i := (tasks i).prog settings

/-! ## Playing a manager -/

/-- An empty outbox, a disk that takes every write, and a service with one answer for all. -/
def MaskOp.answered (service : HttpAnswer) : ∀ {β : Type}, MaskOp β → β
  | _, .new_uuid => "uuid"
  | _, .post _ => service
  | _, .lock_outbox => []
  | _, .persist _ => true
  | _, .unlock_outbox => ()

variable [DecidableEq ι]

/-- A step while the masking service answers so and no cluster is reached. -/
def ManagerOp.answered (service : HttpAnswer) (i : ι) (w : ManagerWorld ι) :
    ∀ {β : Type}, ManagerOp ι β → Option (β × ManagerWorld ι)
  | _, .mask op => some (op.answered service, w)
  | _, .resolve .. => some (none, w)
  | _, op => op.apply i w

theorem managerSemantics_of_answered {service : HttpAnswer} {i : ι} {w w' : ManagerWorld ι}
    {β : Type} {op : ManagerOp ι β} {answer : β}
    (answered : op.answered service i w = some (answer, w')) :
    managerSemantics i w op answer w' := by
  cases op with
  | mask | resolve =>
    cases answered
    exact .inr ⟨trivial, rfl⟩
  | _ => exact .inl answered

/-- The tasks of a schedule take one step each, in its order. -/
def ManagerPool.play (service : HttpAnswer) (schedule : List ι)
    (p : Pool ι (ManagerOp ι) (ManagerWorld ι) ManagerReturn) :
    List (PoolEvent ι (ManagerOp ι)) × Pool ι (ManagerOp ι) (ManagerWorld ι) ManagerReturn :=
  p.play (ManagerOp.answered service) schedule

theorem ManagerPool.run_play (service : HttpAnswer) (schedule : List ι)
    (p : Pool ι (ManagerOp ι) (ManagerWorld ι) ManagerReturn) :
    Pool.Run managerSemantics p (play service schedule p).1 (play service schedule p).2 :=
  Pool.Run.play (fun _ _ _ _ _ _ => managerSemantics_of_answered) schedule p

/-- A manager with this gate. -/
def gated_settings (gate : MaskingGate) : ManagerSettings where
  started_at := 0
  gate := gate
  crates := permissive_crates
  decoders := { register_error := fun _ => "invalid type" }
  internal_call _ := none
  builtin := []
  server_version := "1.0"
  heartbeat_interval_ms := 1000
  idle_timeout_secs := 60
  graceful_kill_grace_ms := 1000
  reconnection_grace := 1000
  internal_call_timeout := 1000

/-- A client registers with its tools. -/
def registers (client_uid : String) (tools : List ToolDescriptor) : Frame :=
  .text (.request .null methods.SESSION_REGISTER (client_params client_uid tools).to_value)

/-- A client says that these are its tools now. -/
def reports_tools (tools : List ToolDescriptor) : Frame :=
  .text (.notification methods.SESSION_TOOLS_CHANGED (SessionToolsChangedParams.to_value tools))

end SessionManager
