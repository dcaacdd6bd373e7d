import SessionManager.Dispatcher
import SessionManager.Masking.Gate
import SessionManager.Router

/-!
# `call_proxy_tool_inner`: an agent calls a tool of a session

The path of a proxied call through the manager (`mcp/server.rs`): the manager's own arguments
are taken out, the name is resolved, the gate's preflight is passed, the call is enqueued at
the session's dispatcher, and its outcome goes through finalize.

`ProxyOp` is what this path asks for: sections of the registry, the gate's requests, the
clock, and a `tool.call` over the dispatcher and the connection of a record.
-/

namespace SessionManager

open Json Effect

def CLIENT_PROXY_CALL_TIMEOUT_SECS : Nat := 60

def SERVER_PROXY_CALL_TIMEOUT_SECS : Nat := 3600

def MANAGER_CALL_OPTIONS_KEY : String := "_v8_call_options"

def MANAGER_NO_DEADLINE_KEY : String := "no_deadline"

structure ErrorData where
  code : Int
  message : String

def invalid_params (message : String) : ErrorData where
  code := error_codes.INVALID_PARAMS
  message := message

def internal_error (message : String) : ErrorData where
  code := -32603
  message := message

/-- The result an agent gets; all blocks of its content are texts. -/
structure CallToolResult where
  content : List String
  structured_content : Option Value
  is_error : Bool

/-- `CallToolResult::structured_error` repeats the payload as a text. -/
def structured_error (payload : Value) : CallToolResult where
  content := [payload.text]
  structured_content := some payload
  is_error := true

abbrev ProxyAnswer := Except ErrorData CallToolResult

structure CallToolRequestParams where
  name : String
  arguments : Option Fields

inductive ProxyOp : Type → Type 1
  | reg {β : Type} (op : RegOp β) : ProxyOp β
  | mask {β : Type} (op : MaskOp β) : ProxyOp β
  | now : ProxyOp Nat
  | enqueue (dispatcher connection : Nat) (params : ToolCallParams) (deadline : Option Nat) :
    ProxyOp (Except DispatcherError ToolCallResult)

open Prog (perform)

/-! ## The manager's arguments -/

def extract_call_options (arguments : Fields) (requested_session_id : Option String) :
    Except ErrorData (Value × Option String × Bool) :=
  match remove arguments MANAGER_CALL_OPTIONS_KEY with
  | (none, arguments) => .ok (.object arguments, requested_session_id, false)
  | (some (.object options), arguments) =>
    let rest := (remove options MANAGER_NO_DEADLINE_KEY).2
    let unknown : Except ErrorData Unit :=
      if rest.isEmpty then .ok ()
      else .error (invalid_params ("unknown " ++ MANAGER_CALL_OPTIONS_KEY ++ " keys: " ++
        ", ".intercalate (sorted (rest.map Prod.fst))))
    match (remove options MANAGER_NO_DEADLINE_KEY).1 with
    | some (.bool value) => unknown.map fun () => (.object arguments, requested_session_id, value)
    | none => unknown.map fun () => (.object arguments, requested_session_id, false)
    | some _ => .error (invalid_params
        (MANAGER_CALL_OPTIONS_KEY ++ "." ++ MANAGER_NO_DEADLINE_KEY ++ " must be boolean"))
  | (some _, _) => .error (invalid_params (MANAGER_CALL_OPTIONS_KEY ++ " must be an object"))

/-- The arguments of the tool, the session asked for, and whether no deadline was asked for. -/
def extract_manager_arguments (arguments : Option Fields) :
    Except ErrorData (Value × Option String × Bool) :=
  let refused := .error (invalid_params (SESSION_ID_ARGUMENT ++ " must be a non-empty string"))
  match remove (arguments.getD []) SESSION_ID_ARGUMENT with
  | (some (.string value), arguments) =>
    if value.isEmpty then refused else extract_call_options arguments (some value)
  | (none, arguments) => extract_call_options arguments none
  | (some _, _) => refused

/-! ## Finding the session -/

def validate_explicit_target (session_id tool_name : String) :
    Prog RegOp (Except ErrorData Unit) := do
  match ← perform (.get session_id) with
  | none => return .error (invalid_params ("unknown session_id '" ++ session_id ++ "'"))
  | some record =>
    if record.state ≠ .Active then
      return .error (invalid_params ("session '" ++ session_id ++ "' is not active"))
    else if ¬ record.publishes tool_name then
      return .error (invalid_params
        ("session '" ++ session_id ++ "' does not publish tool '" ++ tool_name ++ "'"))
    else return .ok ()

/-- `ToolsCacheStore::list_all`. -/
def list_all : Prog RegOp (List ToolsCacheEntry) := do
  match ← perform .evict_expired with
  | none => return []
  | some evicted =>
    if evicted then perform .mark_tools_changed
    return (← perform .list_cache).getD []

/-- What is asked of the registry. -/
theorem list_all_only {P : ∀ {β : Type}, RegOp β → Prop} (evicts : P .evict_expired)
    (marks : P .mark_tools_changed) (lists : P .list_cache) : list_all.Only P := by
  refine ⟨evicts, fun evicted => ?_⟩
  cases evicted with
  | none => trivial
  | some evicted =>
    cases evicted with
    | false => exact ⟨lists, fun _ => trivial⟩
    | true => exact ⟨marks, fun _ => ⟨lists, fun _ => trivial⟩⟩

structure CacheHit where
  kind : String
  config_id : String

def lookup_cache_entry (name : String) : Prog RegOp (Option CacheHit) := do
  let entries ← list_all
  return (entries.find? fun entry => entry.tools.any fun tool => tool.publishes name).map
    fun entry => { kind := entry.kind, config_id := entry.config_id }

def text_block (text : String) : Value :=
  .object [("text", .string text), ("type", .string "text")]

/-- A tool error with a text block and a `_meta` object. -/
def tool_error (text : String) (metadata : Fields) : CallToolResult :=
  structured_error (.object [("_meta", .object metadata), ("content", .array [text_block text]),
    ("isError", .bool true)])

def no_live_session_response (tool_name : String) (cache_hit : CacheHit) : CallToolResult :=
  tool_error ("Tool '" ++ tool_name ++ "' is currently unavailable: no live session.")
    [("config_id", .string cache_hit.config_id), ("error_code", .string "no_live_session"),
      ("kind", .string cache_hit.kind), ("tool", .string tool_name)]

def unknown_tool_response (tool_name : String) : CallToolResult :=
  tool_error ("Tool '" ++ tool_name ++ "' is unavailable: unknown tool name.")
    [("error_code", .string "unknown_tool"), ("tool", .string tool_name)]

/-- The answer to a name that did not resolve. -/
def on_resolve_error (name : String) : ResolveError → Prog RegOp ProxyAnswer
  | .SessionRequired tool_name session_ids =>
    return .error (invalid_params ("tool '" ++ tool_name ++
      "' has multiple active targets; session_id is required (candidates: " ++
      ", ".intercalate session_ids ++ ")"))
  | .SessionToolMismatch tool_name session_id =>
    return .error (invalid_params
      ("session '" ++ session_id ++ "' does not publish tool '" ++ tool_name ++ "'"))
  | .NotProxyTool => do
    match ← lookup_cache_entry name with
    | some cache_hit => return .ok (no_live_session_response name cache_hit)
    | none => return .ok (unknown_tool_response name)

/-- The record of the resolved session; it has to be active. -/
def fetch (resolved : ResolvedCall) : Prog RegOp (Except ErrorData SessionRecord) := do
  match ← perform (.get resolved.session_id) with
  | none => return .error (internal_error
      ("session '" ++ resolved.session_id ++ "' disappeared between resolve and call"))
  | some record =>
    if record.state ≠ .Active then
      return .error (invalid_params ("session '" ++ resolved.session_id ++ "' is not active"))
    else return .ok record

variable (crates : Crates)

/-- View the registry, resolve the name and fetch the record. -/
def resolve (name : String) (requested_session_id : Option String) :
    Prog RegOp (Except ProxyAnswer (ResolvedCall × SessionRecord)) := do
  let snapshot ← perform .snapshot
  match resolve_published name (build_proxy_view crates snapshot) requested_session_id with
  | .error error => return .error (← on_resolve_error name error)
  | .ok resolved =>
    match ← fetch resolved with
    | .error error => return .error (.error error)
    | .ok record => return .ok (resolved, record)

/-- Check the session asked for, then resolve. -/
def route (name : String) (requested_session_id : Option String) :
    Prog RegOp (Except ProxyAnswer (ResolvedCall × SessionRecord)) :=
  match requested_session_id with
  | none => resolve crates name none
  | some session_id => do
    match ← validate_explicit_target session_id name with
    | .error error => return .error (.error error)
    | .ok () => resolve crates name (some session_id)

/-! ## Passing the gate -/

def masking_failure_response (failure : MaskingFailure) : CallToolResult :=
  let error := [("code", .string failure.code), ("correlation_id", .string failure.correlation_id),
      ("message", .string failure.message)] ++
    (match failure.retry_after_s with
      | some retry_after_s => [("retry_after_s", .number (.int retry_after_s))]
      | none => [])
  { content := [failure.message]
    structured_content := some (.object [("error", .object error)])
    is_error := true }

variable (gate : MaskingGate) (caller : CallerInfo)

/-- The failure of a call to a session without a database key. -/
def unverified (correlation_id : String) : MaskingFailure :=
  .with_correlation "DATABASE_IDENTITY_UNVERIFIED" "Идентичность базы не подтверждена" correlation_id

/-- The context of the masked call and the arguments it goes out with; there is no context when
masking is off. -/
def pass_gate (name : String) (record : SessionRecord) (arguments : Value) :
    Prog MaskOp (Except MaskingFailure (Option MaskingCallContext × Value)) := do
  if !gate.enabled then return .ok (none, arguments)
  else
    let call_id ← perform .new_uuid
    let correlation_id ← perform .new_uuid
    match MaskingGate.verify_database record with
    | none =>
      let event := MaskingGate.unverified_terminal call_id correlation_id name
        (unverified correlation_id).code
      return .error (← gate.close crates event (unverified correlation_id) correlation_id)
    | some identity =>
      let context := MaskingGate.call_context identity caller name call_id correlation_id
      match ← gate.preflight crates context arguments with
      | .error failure => return .error failure
      | .ok arguments => return .ok (some context, arguments)

/-! ## The call -/

/-- `None` lifts the deadline, which only server sessions may ask for.  The clock counts
milliseconds. -/
def proxy_call_deadline (kind : String) (no_deadline_requested : Bool) :
    Prog ProxyOp (Except ErrorData (Option Nat)) := do
  if no_deadline_requested then
    if kind = "server" then return .ok none
    else return .error (invalid_params (MANAGER_CALL_OPTIONS_KEY ++ "." ++ MANAGER_NO_DEADLINE_KEY ++
      " is allowed only for server sessions"))
  else
    let timeout_secs :=
      if kind = "server" then SERVER_PROXY_CALL_TIMEOUT_SECS else CLIENT_PROXY_CALL_TIMEOUT_SECS
    return .ok (some ((← perform .now) + timeout_secs * 1000))

inductive ToolPayload
  | Envelope (result field_sources : Value)
  | Opaque (result : Value)
  | Malformed (code : String)

/-- The text declares an envelope: it is an object with one of the envelope's own keys. -/
def claims_envelope (text : String) : Bool :=
  match crates.from_str text with
  | some (.object fields) =>
    contains_key fields "schema_version" || contains_key fields "field_sources"
  | _ => false

def extract_tool_payload (outer : ToolCallResult) : ToolPayload :=
  match outer.content with
  | .text text :: _ =>
    if claims_envelope crates text then
      match crates.envelope text with
      | some envelope =>
        if envelope.schema_version ≠ 1 then .Malformed "RESULT_INVALID"
        else .Envelope envelope.result envelope.field_sources
      | none => .Malformed "RESULT_INVALID"
    else .Opaque outer.to_value
  | _ => .Opaque outer.to_value

def dispatcher_error_code : DispatcherError → String
  | .CancelledWhileQueued | .Cancelled => "TOOL_CANCELLED"
  | .TimedOutWhileQueued | .TimedOutWhileRunning => "TOOL_TIMEOUT"
  | .SessionGone | .WriterClosed => "SESSION_GONE"
  | .ClientError _ => "CLIENT_ERROR"
  | .InvalidResult _ => "RESULT_INVALID"

/-- What finalize is told about the outcome of the call. -/
def finalize_outcome :
    Except DispatcherError ToolCallResult → FinalizeOutcome × Option Value
  | .ok result =>
    match extract_tool_payload crates result with
    | .Envelope result field_sources => (.ToolResult result, some field_sources)
    | .Opaque result => (.ToolResult result, none)
    | .Malformed code => (transport_error_outcome code, none)
  | .error error => (transport_error_outcome (dispatcher_error_code error), none)

def content_text : ToolContent → String
  | .text text => text
  | .json json => json.text

def dispatcher_outcome_to_call_result : Except DispatcherError ToolCallResult → ProxyAnswer
  | .ok result => .ok
    { content := result.content.map content_text
      structured_content := result.structured_content
      is_error := result.is_error }
  | .error .CancelledWhileQueued => .error (internal_error "tool.call cancelled while queued")
  | .error .Cancelled => .error (internal_error "tool.call cancelled during execution")
  | .error .TimedOutWhileQueued => .error (internal_error "tool.call timed out while queued")
  | .error .TimedOutWhileRunning => .error (internal_error "tool.call timed out during execution")
  | .error .SessionGone => .error (invalid_params "session_gone: target session is disconnected")
  | .error (.ClientError e) =>
    .error (internal_error ("client error " ++ toString e.code ++ ": " ++ e.message))
  | .error (.InvalidResult msg) => .error (internal_error msg)
  | .error .WriterClosed => .error (internal_error "session connection writer closed")

/-- The answer to the agent, from the outcome of the call. -/
def answer_outcome (context : Option MaskingCallContext)
    (outcome : Except DispatcherError ToolCallResult) : Prog MaskOp ProxyAnswer :=
  match context with
  | none => return dispatcher_outcome_to_call_result outcome
  | some context => do
    let (outcome, field_sources) := finalize_outcome crates outcome
    match ← gate.finalize crates context outcome field_sources with
    | .ok result => return dispatcher_outcome_to_call_result (.ok result)
    | .error failure => return .ok (masking_failure_response failure)

/-- Send the call over the record's dispatcher and connection. -/
def forward (resolved : ResolvedCall) (record : SessionRecord) (context : Option MaskingCallContext)
    (arguments : Value) (no_deadline_requested : Bool) : Prog ProxyOp ProxyAnswer :=
  match record.connection with
  | none => return .error (internal_error
      ("session '" ++ resolved.session_id ++ "' has no active connection"))
  | some connection => do
    match ← proxy_call_deadline record.kind no_deadline_requested with
    | .error error => return .error error
    | .ok deadline =>
      let now ← perform .now
      let _ ← perform (.reg (.bump_last_call resolved.session_id now))
      let outcome ← perform
        (.enqueue record.dispatcher connection { name := resolved.tool_name, arguments } deadline)
      (answer_outcome crates gate context outcome).lift .mask

def call_proxy_tool_inner (request : CallToolRequestParams) : Prog ProxyOp ProxyAnswer :=
  match extract_manager_arguments request.arguments with
  | .error error => return .error error
  | .ok (arguments, requested_session_id, no_deadline_requested) => do
    match ← (route crates request.name requested_session_id).lift .reg with
    | .error answer => return answer
    | .ok (resolved, record) =>
      match ← (pass_gate crates gate caller request.name record arguments).lift .mask with
      | .error failure => return .ok (masking_failure_response failure)
      | .ok (context, arguments) =>
        forward crates gate resolved record context arguments no_deadline_requested

end SessionManager
