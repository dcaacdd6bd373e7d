import SessionManager.Lifecycle
import SessionManager.Masking.Gate
import SessionManager.Protocol.Params

/-!
# The connection of a client

A task of the manager serves each WebSocket (`session_manager/transport.rs`): it registers the
session, answers requests, takes notifications and responses, and cleans up when the connection
ends.  The frames a client sends are a list, which ends when the connection does.

Replies go over a sender of the task's own, all others over the handle in the record.
-/

namespace SessionManager

open Json Effect

open Prog (perform)

inductive Frame
  | text (msg : WireMessage)
  /-- A text frame that is no message. -/
  | unparsable (reason : String)
  /-- A binary, ping or pong frame. -/
  | other

structure AppState where
  server_version : String
  heartbeat_interval_ms : Nat
  idle_timeout_secs : Nat
  masking_gate : Option MaskingGate

/-- What `serde_json` says of the parameters of a registration that it refuses. -/
structure Decoders where
  register_error : Value → String

/-- `serde_json::from_value` of the parameters of a registration. -/
def Decoders.register_params (decoders : Decoders) (params : Value) :
    Except String SessionRegisterParams :=
  match SessionRegisterParams.from_value params with
  | some parsed => .ok parsed
  | none => .error (decoders.register_error params)

/-- What the task of a socket knows of the session that registered over it. -/
structure ConnectionIdentity where
  session_id : String
  generation : Nat
  deriving DecidableEq

/-- Whether the loop over the frames goes on, and with which identity. -/
inductive Next
  | proceed (peer : Option ConnectionIdentity)
  | bye

variable {ι : Type}

namespace AppState

variable (state : AppState)

def normalize_tools (tools : List ToolDescriptor) : List ToolDescriptor :=
  match state.masking_gate with
  | some gate => gate.normalize_tools tools
  | none => tools

def register_result (session_id : String) (reconnected : Bool) : Value :=
  .object
    ([("heartbeat_interval_ms", .number (.int state.heartbeat_interval_ms)),
        ("idle_timeout_secs", .number (.int state.idle_timeout_secs))] ++
      (if reconnected then [("reconnected", .bool true)] else []) ++
      [("server_version", .string state.server_version), ("session_id", .string session_id)])

end AppState

def send_error (connection : Nat) (id : Id) (code : Int) (message : String) :
    Prog (ManagerOp ι) Unit := do
  let _ ← perform (.send connection (.response id (.error { code, message, data := none })))

def send_result (connection : Nat) (id : Id) (result : Value) : Prog (ManagerOp ι) Unit := do
  let _ ← perform (.send connection (.response id (.ok result)))

/-- The Unicode property `White_Space`. -/
def is_white_space (c : Char) : Bool :=
  (9 ≤ c.toNat && c.toNat ≤ 13) || (8192 ≤ c.toNat && c.toNat ≤ 8202) ||
    [32, 133, 160, 5760, 8232, 8233, 8239, 8287, 12288].contains c.toNat

def is_blank (text : String) : Bool := text.toList.all is_white_space

/-- The key of the session's database: only with a gate, and only for a server that is named. -/
def session_database_key (gate : Option MaskingGate) (params : SessionRegisterParams) :
    Prog (ManagerOp ι) (Option String) :=
  match gate, params.cluster_server.filter fun server => !is_blank server with
  | some gate, some cluster_server => do
    let resolved ←
      if gate.enabled then perform (.resolve cluster_server params.infobase_name) else pure none
    return some (database_key cluster_server params.infobase_name resolved)
  | _, _ => return none

variable (state : AppState) (decoders : Decoders)

/-- `session.register` on a socket that has not registered yet. -/
def handle_register (connection : Nat) (id : Id) (params : Value) : Prog (ManagerOp ι) Next :=
  match decoders.register_params params with
  | .error reason => do
    send_error connection id error_codes.INVALID_PARAMS reason
    return .proceed none
  | .ok parsed => do
    let now ← perform .now
    let database_key ← session_database_key state.masking_gate parsed
    -- the decoder skips `database_key`: no client chooses its own
    let parsed := { parsed with tools := state.normalize_tools parsed.tools, database_key }
    match ← (SessionRegistry.register_with_generation parsed now (some connection)).lift .reg with
    | .ok (outcome, generation) =>
      send_result connection id
        (state.register_result parsed.client_uid (outcome = .Reconnected))
      return .proceed (some { session_id := parsed.client_uid, generation })
    | .error (.UidCollision uid) =>
      send_error connection id error_codes.SESSION_UID_COLLISION
        ("client_uid '" ++ uid ++ "' is already active")
      return .proceed none

def remove_peer : Option ConnectionIdentity → Prog (ManagerOp ι) Unit
  | some ident => do
    let _ ← (SessionRegistry.remove_if_generation ident.session_id ident.generation).lift .reg
  | none => return ()

/-- `session.bye`: the record goes, unless another registration has replaced it. -/
def handle_bye (connection : Nat) (peer : Option ConnectionIdentity) (id : Id) :
    Prog (ManagerOp ι) Next := do
  remove_peer peer
  send_result connection id (.object [])
  return .bye

def handle_request (connection : Nat) (peer : Option ConnectionIdentity) (id : Id)
    (method : String) (params : Value) : Prog (ManagerOp ι) Next :=
  if method = methods.SESSION_REGISTER then
    if peer.isSome then do
      send_error connection id error_codes.INVALID_REQUEST
        "session already registered on this connection"
      return .proceed peer
    else handle_register state decoders connection id params
  else if method = methods.SESSION_BYE then handle_bye connection peer id
  else do
    send_error connection id error_codes.METHOD_NOT_FOUND
      ("method '" ++ method ++ "' is not supported")
    return .proceed peer

def handle_notification (peer : Option ConnectionIdentity) (method : String) (params : Value) :
    Prog (ManagerOp ι) Unit :=
  if method = methods.SESSION_TOOLS_CHANGED then
    match peer, SessionToolsChangedParams.from_value params with
    | some ident, some tools => do
      let _ ← (SessionRegistry.update_tools ident.session_id (state.normalize_tools tools)).lift .reg
    | _, _ => return ()
  else return ()

def dispatch (connection : Nat) (peer : Option ConnectionIdentity) :
    WireMessage → Prog (ManagerOp ι) Next
  | .request id method params => handle_request state decoders connection peer id method params
  | .notification method params => do
    handle_notification state peer method params
    return .proceed peer
  | .response id result => do
    let _ ← (ConnectionHandle.complete_response id result).lift (.conn connection)
    return .proceed peer

/-- The loop over the frames; its value is the identity the clean-up works with. -/
def serve (connection : Nat) (peer : Option ConnectionIdentity) :
    List Frame → Prog (ManagerOp ι) (Option ConnectionIdentity)
  | [] => return peer
  | .text msg :: frames => do
    match ← dispatch state decoders connection peer msg with
    | .proceed peer => serve connection peer frames
    | .bye => return none
  | .unparsable reason :: frames => do
    send_error connection .null error_codes.PARSE_ERROR ("parse error: " ++ reason)
    serve connection peer frames
  | .other :: frames => serve connection peer frames

def disconnect_peer : Option ConnectionIdentity → Prog (ManagerOp ι) Unit
  | some ident => do
    let now ← perform .now
    let _ ← SessionRegistry.mark_disconnected_if_generation ident.session_id ident.generation now
  | none => return ()

/-- `handle_socket`, and `run_connection` inside of it: the writer task ends before the record
is marked. -/
def handle_socket (frames : List Frame) : Prog (ManagerOp ι) Unit := do
  let connection ← perform .accept
  let peer ← serve state decoders connection none frames
  ConnectionHandle.drain connection
  perform (.conn connection .close_writer)
  disconnect_peer peer

end SessionManager
