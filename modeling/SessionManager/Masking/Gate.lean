import SessionManager.Masking.Client
import SessionManager.Masking.Identity

/-!
# `MaskingGate`: the manager's side of masking

The gate every public proxy call passes when masking is enabled
(`session_manager/masking/gate.rs`): preflight before the call, finalize after
it, and a terminal event in the outbox for a call that ends in neither.
-/

namespace SessionManager

open Json Effect

open Prog (perform)

def MAX_TERMINAL_OUTBOX_EVENTS : Nat := 10000

def MAX_CALLER_LABEL_CHARS : Nat := 256

/-! ## Callers -/

structure CallerInfo where
  mcp_session_id : Option String
  client_name : Option String
  client_version : Option String

/-- `char::is_control`: the Unicode category Cc. -/
def is_control (c : Char) : Bool := c.toNat < 32 || (127 ≤ c.toNat && c.toNat ≤ 159)

/-- The text, unless it is empty. -/
def filled (text : Option String) : Option String := text.filter fun text => !text.isEmpty

/-- Name and version of the client, and the start of its session id. -/
def CallerInfo.label (caller : CallerInfo) : Option String :=
  let name :=
    match filled caller.client_name with
    | some name =>
      match filled caller.client_version with
      | some version => name ++ "/" ++ version
      | none => name
    | none => ""
  let label :=
    match filled caller.mcp_session_id with
    | some session =>
      (if name.isEmpty then name else name ++ " ") ++ "#" ++ String.ofList (session.toList.take 8)
    | none => name
  if label.isEmpty then none
  else
    some (String.ofList
      ((label.toList.map fun c => if is_control c then '?' else c).take MAX_CALLER_LABEL_CHARS))

structure MaskingCallContext where
  call_id : String
  correlation_id : String
  database : SessionDatabaseIdentity
  caller : Option String
  tool_name : String

structure MaskingFailure where
  code : String
  message : String
  correlation_id : String
  retry_after_s : Option Nat

def MaskingFailure.with_correlation (code message correlation_id : String) : MaskingFailure where
  code := code
  message := message
  correlation_id := correlation_id
  retry_after_s := none

/-- The failure of a call whose end could not be recorded. -/
def history_unavailable (correlation_id : String) : MaskingFailure :=
  .with_correlation "HISTORY_UNAVAILABLE" "Операция временно недоступна" correlation_id

/-! ## The terminal outbox -/

/-- The error codes a terminal event of a verified call may carry; they are also the codes
that `terminal_fallback_code` keeps. -/
def terminal_codes : List String :=
  ["ACTION_REQUIRED", "TOOL_PENDING_REVIEW", "MASK_TOKEN_INVALID", "SERVICE_NOT_READY",
    "SERVICE_WARMING_UP", "POLICY_INVALID", "RESULT_LIMIT_EXCEEDED", "MASKING_TIMEOUT",
    "MASKING_FAILED", "HISTORY_UNAVAILABLE"]

def valid_caller : Option String → Bool
  | some value => value.length ≤ MAX_CALLER_LABEL_CHARS && !value.toList.any is_control
  | none => true

def valid_scope (error_code : String) : TerminalScope → Bool
  | .Verified _ cluster_server infobase_name caller =>
    !cluster_server.isEmpty && cluster_server.utf8ByteSize ≤ 512 &&
      !infobase_name.isEmpty && infobase_name.utf8ByteSize ≤ 512 &&
      valid_caller caller && terminal_codes.contains error_code
  | .Unverified =>
    ["DATABASE_IDENTITY_UNVERIFIED", "SERVICE_NOT_READY"].contains error_code

variable (crates : Crates)

def valid_terminal (event : TerminalRequest) : Bool :=
  event.schema_version == 1 && crates.is_uuid event.call_id &&
    crates.is_uuid event.correlation_id && !event.tool_name.isEmpty &&
    event.tool_name.utf8ByteSize ≤ 128 && valid_scope event.error_code event.scope

namespace TerminalOutbox

/-- Queue an event; the events after it. -/
def enqueue (events : List TerminalRequest) (event : TerminalRequest) :
    Prog MaskOp (Except String (List TerminalRequest)) := do
  if !valid_terminal crates event then return .error "invalid masking terminal event"
  else
    match events.find? fun existing => existing.call_id == event.call_id with
    | some existing =>
      return if existing = event then .ok events
        else .error "masking terminal call identity collision"
    | none =>
      if MAX_TERMINAL_OUTBOX_EVENTS ≤ events.length then
        return .error "masking terminal outbox is full"
      else
        if ← perform (.persist (events ++ [event])) then return .ok (events ++ [event])
        else return .error "cannot persist masking terminal outbox"

/-- An event is refused, or it is there already, or it is new and is written behind the others. -/
theorem enqueue_cases (events : List TerminalRequest) (event : TerminalRequest) :
    (∃ error, enqueue crates events event = .ret (.error error)) ∨
      (event ∈ events ∧ enqueue crates events event = .ret (.ok events)) ∨
      (valid_terminal crates event = true ∧ event.call_id ∉ events.map TerminalRequest.call_id ∧
        events.length < MAX_TERMINAL_OUTBOX_EVENTS ∧
        enqueue crates events event = .op (.persist (events ++ [event])) fun written =>
          if written then .ret (.ok (events ++ [event]))
          else .ret (.error "cannot persist masking terminal outbox")) := by
  rw [enqueue]
  cases valid : valid_terminal crates event with
  | false => exact .inl ⟨_, rfl⟩
  | true =>
    rw [if_neg (by decide : ¬(!true) = true)]
    cases found : events.find? fun existing => existing.call_id == event.call_id with
    | some existing =>
      dsimp only
      by_cases same : existing = event
      · rw [if_pos same, ← same]
        exact .inr (.inl ⟨List.mem_of_find?_eq_some found, rfl⟩)
      · rw [if_neg same]
        exact .inl ⟨_, rfl⟩
    | none =>
      dsimp only
      by_cases room : events.length < MAX_TERMINAL_OUTBOX_EVENTS
      · rw [if_neg (Nat.not_le.mpr room)]
        refine .inr (.inr ⟨rfl, fun member => ?_, room, rfl⟩)
        obtain ⟨existing, member, same⟩ := List.mem_map.mp member
        exact List.find?_eq_none.mp found existing member (beq_iff_eq.mpr same)
      · rw [if_pos (Nat.not_lt.mp room)]
        exact .inl ⟨_, rfl⟩

end TerminalOutbox

/-- The service has recorded the event, now or before. -/
def terminal_delivery_ack : Except ClientError TerminalResponse → Bool
  | .ok response => response.schema_version == 1 && response.status == "recorded"
  | .error (.Service status error) => status == 409 && error.code == "TERMINAL_ALREADY_RECORDED"
  | .error _ => false

def terminal_fallback_code (code : String) : String :=
  if terminal_codes.contains code then code else "MASKING_FAILED"

def map_client_error (error : ClientError) (correlation_id : String) : MaskingFailure :=
  match error with
  | .Service _ error =>
    { code := error.code
      message := error.message
      correlation_id := error.correlation_id
      retry_after_s := error.retry_after_s }
  | .Timeout => .with_correlation "MASKING_TIMEOUT" "Операция временно недоступна" correlation_id
  | .Transport =>
    .with_correlation "SERVICE_NOT_READY" "Операция временно недоступна" correlation_id
  | .InvalidResponse =>
    .with_correlation "MASKING_FAILED" "Операция временно недоступна" correlation_id

def transport_error_outcome (code : String) : FinalizeOutcome :=
  .TransportError (.object [("code", .string code)])

/-! ## The gate -/

/-- `from_config` gives the gate a client, a RAS resolver and an outbox exactly when masking is
enabled. -/
structure MaskingGate where
  enabled : Bool
  internal_tools : List String

namespace MaskingGate

variable (gate : MaskingGate)

/-- A tool named in the configuration is internal, and one declared internal stays so. -/
def normalize_tools (tools : List ToolDescriptor) : List ToolDescriptor :=
  tools.map fun tool =>
    { tool with
      visibility :=
        if gate.internal_tools.contains tool.name || tool.visibility = .Internal then .Internal
        else .Public }

def verify_database (record : SessionRecord) : Option SessionDatabaseIdentity :=
  SessionDatabaseIdentity.from_record record

def call_context (identity : SessionDatabaseIdentity) (caller : CallerInfo)
    (tool_name call_id correlation_id : String) : MaskingCallContext where
  call_id := call_id
  correlation_id := correlation_id
  database := identity
  caller := caller.label
  tool_name := tool_name

def unverified_terminal (call_id correlation_id tool_name error_code : String) :
    TerminalRequest where
  schema_version := 1
  call_id := call_id
  correlation_id := correlation_id
  tool_name := tool_name
  error_code := error_code
  scope := .Unverified

def verified_terminal (context : MaskingCallContext) (error_code : String) : TerminalRequest where
  schema_version := 1
  call_id := context.call_id
  correlation_id := context.correlation_id
  tool_name := context.tool_name
  error_code := error_code
  scope := .Verified context.database.instance_id context.database.cluster_server
    context.database.infobase_name context.caller

/-- Deliver the events in order; an event leaves the outbox once the service has it. -/
def flush_terminal_locked : List TerminalRequest → Prog MaskOp Unit
  | [] => return ()
  | event :: rest => do
    let acknowledged := terminal_delivery_ack (← MaskingServiceClient.terminal crates event)
    if !acknowledged then return ()
    else if ← perform (.persist rest) then flush_terminal_locked rest
    else return ()

def record_terminal (event : TerminalRequest) : Prog MaskOp (Except String Unit) := do
  if !gate.enabled then return .error "masking terminal outbox is disabled"
  else
    let events ← perform .lock_outbox
    match ← TerminalOutbox.enqueue crates events event with
    | .error error =>
      perform .unlock_outbox
      return .error error
    | .ok events =>
      flush_terminal_locked crates events
      perform .unlock_outbox
      return .ok ()

/-- Close a call that failed: the failure is reported once its terminal event is queued. -/
def close (event : TerminalRequest) (failure : MaskingFailure) (correlation_id : String) :
    Prog MaskOp MaskingFailure := do
  match ← gate.record_terminal crates event with
  | .error _ => return history_unavailable correlation_id
  | .ok () => return failure

def preflight_request (context : MaskingCallContext) (arguments : Value) : PreflightRequest where
  schema_version := 1
  call_id := context.call_id
  correlation_id := context.correlation_id
  instance_id := context.database.instance_id
  cluster_server := context.database.cluster_server
  infobase_name := context.database.infobase_name
  caller := context.caller
  tool_name := context.tool_name
  arguments := arguments

def finalize_request (context : MaskingCallContext) (outcome : FinalizeOutcome)
    (field_sources : Option Value) : FinalizeRequest where
  schema_version := 1
  call_id := context.call_id
  correlation_id := context.correlation_id
  instance_id := context.database.instance_id
  cluster_server := context.database.cluster_server
  infobase_name := context.database.infobase_name
  caller := context.caller
  tool_name := context.tool_name
  outcome := outcome
  field_sources := field_sources

/-- The failure of an answer that is none of the protocol. -/
def masking_failed (context : MaskingCallContext) : MaskingFailure :=
  .with_correlation "MASKING_FAILED" "Операция временно недоступна" context.correlation_id

/-- Close a call over an error of the service or of the exchange with it. -/
def close_error (context : MaskingCallContext) (error : ClientError) : Prog MaskOp MaskingFailure :=
  let failure := map_client_error error context.correlation_id
  gate.close crates (verified_terminal context (terminal_fallback_code failure.code)) failure
    context.correlation_id

/-- Close a call over an answer that is none of the protocol. -/
def close_invalid (context : MaskingCallContext) : Prog MaskOp MaskingFailure :=
  gate.close crates (verified_terminal context (masking_failed context).code)
    (masking_failed context) context.correlation_id

/-- The arguments the service allows the call to go out with. -/
def preflight (context : MaskingCallContext) (arguments : Value) :
    Prog MaskOp (Except MaskingFailure Value) := do
  match ← MaskingServiceClient.preflight crates (preflight_request context arguments) with
  | .error error => return .error (← gate.close_error crates context error)
  | .ok response =>
    if response.schema_version ≠ 1 ∨ response.decision ≠ "allow" then
      return .error (← gate.close_invalid crates context)
    else return .ok response.arguments

def finalize (context : MaskingCallContext) (outcome : FinalizeOutcome)
    (field_sources : Option Value) : Prog MaskOp (Except MaskingFailure ToolCallResult) := do
  match ← MaskingServiceClient.finalize crates (finalize_request context outcome field_sources) with
  | .error error => return .error (← gate.close_error crates context error)
  | .ok response =>
    if response.schema_version ≠ 1 then return .error (← gate.close_invalid crates context)
    else return .ok response.public_result

end MaskingGate

end SessionManager
