import SessionManager.Effect.Handle
import SessionManager.Protocol

/-!
# `MaskingServiceClient`: requests to the masking service

The typed client of the masking service (`session_manager/masking/client.rs`).  One exchange
over the service's socket is one request of `MaskOp`; so is every use of the terminal
outbox.  What `serde_json` and the `uuid` crate decide about texts is left to `Crates`.
-/

namespace SessionManager

open Json Effect

def MAX_INTERNAL_BODY_BYTES : Nat := 8 * 1024 * 1024

/-! ## The requests -/

structure PreflightRequest where
  schema_version : Nat
  call_id : String
  correlation_id : String
  instance_id : String
  cluster_server : String
  infobase_name : String
  caller : Option String
  tool_name : String
  arguments : Value

inductive FinalizeOutcome
  | ToolResult (result : Value)
  | TransportError (error : Value)

structure FinalizeRequest where
  schema_version : Nat
  call_id : String
  correlation_id : String
  instance_id : String
  cluster_server : String
  infobase_name : String
  caller : Option String
  tool_name : String
  outcome : FinalizeOutcome
  field_sources : Option Value

inductive TerminalScope
  | Verified (instance_id cluster_server infobase_name : String) (caller : Option String)
  | Unverified
  deriving DecidableEq

structure TerminalRequest where
  schema_version : Nat
  call_id : String
  correlation_id : String
  tool_name : String
  error_code : String
  scope : TerminalScope
  deriving DecidableEq

/-- `serde` writes an absent option as `null`. -/
def option_to_value : Option String → Value
  | some s => .string s
  | none => .null

def PreflightRequest.to_value (request : PreflightRequest) : Value :=
  .object [
    ("schema_version", .number (.int request.schema_version)),
    ("call_id", .string request.call_id),
    ("correlation_id", .string request.correlation_id),
    ("instance_id", .string request.instance_id),
    ("cluster_server", .string request.cluster_server),
    ("infobase_name", .string request.infobase_name),
    ("caller", option_to_value request.caller),
    ("tool_name", .string request.tool_name),
    ("arguments", request.arguments)]

def FinalizeOutcome.to_value : FinalizeOutcome → Value
  | .ToolResult result => .object [("kind", .string "tool_result"), ("result", result)]
  | .TransportError error => .object [("kind", .string "transport_error"), ("error", error)]

/-- Absent field sources are skipped. -/
def FinalizeRequest.to_value (request : FinalizeRequest) : Value :=
  .object ([
    ("schema_version", .number (.int request.schema_version)),
    ("call_id", .string request.call_id),
    ("correlation_id", .string request.correlation_id),
    ("instance_id", .string request.instance_id),
    ("cluster_server", .string request.cluster_server),
    ("infobase_name", .string request.infobase_name),
    ("caller", option_to_value request.caller),
    ("tool_name", .string request.tool_name),
    ("outcome", request.outcome.to_value)] ++
      (match request.field_sources with
        | some sources => [("field_sources", sources)]
        | none => []))

def TerminalScope.to_value : TerminalScope → Value
  | .Verified instance_id cluster_server infobase_name caller =>
    .object ([
      ("kind", .string "verified"),
      ("instance_id", .string instance_id),
      ("cluster_server", .string cluster_server),
      ("infobase_name", .string infobase_name)] ++
        (match caller with
          | some label => [("caller", .string label)]
          | none => []))
  | .Unverified => .object [("kind", .string "unverified")]

def TerminalRequest.to_value (request : TerminalRequest) : Value :=
  .object [
    ("schema_version", .number (.int request.schema_version)),
    ("call_id", .string request.call_id),
    ("correlation_id", .string request.correlation_id),
    ("tool_name", .string request.tool_name),
    ("error_code", .string request.error_code),
    ("scope", request.scope.to_value)]

/-- What the manager sends to the masking service. -/
inductive ServiceRequest
  | preflight (request : PreflightRequest)
  | finalize (request : FinalizeRequest)
  | terminal (request : TerminalRequest)

def ServiceRequest.path : ServiceRequest → String
  | .preflight _ => "/internal/v1/calls/preflight"
  | .finalize _ => "/internal/v1/calls/finalize"
  | .terminal _ => "/internal/v1/calls/terminal"

/-- The text `serde_json` writes for the request; its fields keep their order. -/
def ServiceRequest.body : ServiceRequest → String
  | .preflight request => request.to_value.text
  | .finalize request => request.to_value.text
  | .terminal request => request.to_value.text

def ServiceRequest.call_id : ServiceRequest → String
  | .preflight request => request.call_id
  | .finalize request => request.call_id
  | .terminal request => request.call_id

/-! ## The answers -/

structure PreflightResponse where
  schema_version : Nat
  decision : String
  arguments : Value

structure FinalizeResponse where
  schema_version : Nat
  public_result : ToolCallResult

structure TerminalResponse where
  schema_version : Nat
  status : String

structure ServiceError where
  code : String
  message : String
  correlation_id : String
  retryable : Bool
  retry_after_s : Option Nat

inductive ClientError
  | Transport
  | Timeout
  | InvalidResponse
  | Service (status : Nat) (error : ServiceError)

/-- The envelope a managed tool wraps its result in. -/
structure MaskingResultEnvelope where
  schema_version : Nat
  result : Value
  field_sources : Value

/-- What third-party crates make of a text or of the body of an answer. -/
structure Crates where
  /-- `serde_json::from_str::<Value>` -/
  from_str : String → Option Value
  envelope : String → Option MaskingResultEnvelope
  preflight_response : List UInt8 → Option PreflightResponse
  finalize_response : List UInt8 → Option FinalizeResponse
  terminal_response : List UInt8 → Option TerminalResponse
  service_error : List UInt8 → Option ServiceError
  /-- `Uuid::parse_str` accepts the text. -/
  is_uuid : String → Bool
  /-- The hexadecimal SHA-256 digest of a text. -/
  sha256 : String → String

/-- Decoders of a service that allows every call and accepts every finalize. -/
def permissive_crates : Crates where
  from_str _ := none
  envelope _ := none
  preflight_response _ := some
    { schema_version := 1, decision := "allow", arguments := .object [] }
  finalize_response _ := some
    { schema_version := 1
      public_result := { content := [], is_error := false, structured_content := none } }
  terminal_response _ := some { schema_version := 1, status := "recorded" }
  service_error _ := none
  is_uuid _ := true
  sha256 _ := "digest"

/-- How one exchange over the socket ended: it failed, the timeout around it ran out, or the
service answered with a status and a body. -/
inductive HttpAnswer
  | unreachable
  | elapsed
  | reply (status : Nat) (body : List UInt8)

/-- Uses of the outside world on behalf of a masked call.  The outbox is locked from
`lock_outbox`, which reads its events, to `unlock_outbox`; `persist` replaces its events and
its file, or neither. -/
inductive MaskOp : Type → Type
  | new_uuid : MaskOp String
  | post (request : ServiceRequest) : MaskOp HttpAnswer
  | lock_outbox : MaskOp (List TerminalRequest)
  | persist (events : List TerminalRequest) : MaskOp Bool
  | unlock_outbox : MaskOp Unit

open Prog (perform)

/-! ## The client -/

variable {R : Type} (crates : Crates)

/-- What `request_json` makes of an exchange. -/
def read_answer (decode : List UInt8 → Option R) : HttpAnswer → Except ClientError R
  | .unreachable => .error .Transport
  | .elapsed => .error .Timeout
  | .reply status body =>
    if MAX_INTERNAL_BODY_BYTES < body.length then .error .InvalidResponse
    else if status = 200 then
      match decode body with
      | some response => .ok response
      | none => .error .InvalidResponse
    else
      match crates.service_error body with
      | some error => .error (.Service status error)
      | none => .error .InvalidResponse

def request_json (decode : List UInt8 → Option R) (request : ServiceRequest) :
    Prog MaskOp (Except ClientError R) := do
  if MAX_INTERNAL_BODY_BYTES < request.body.utf8ByteSize then return .error .InvalidResponse
  else return read_answer crates decode (← perform (.post request))

/-- The attempt of `finalize` and `terminal`: once more after a transport error. -/
def request_twice (decode : List UInt8 → Option R) (request : ServiceRequest) :
    Prog MaskOp (Except ClientError R) := do
  match ← request_json crates decode request with
  | .error .Transport => request_json crates decode request
  | result => return result

/-- The request sent when the full one does not fit. -/
def FinalizeRequest.fallback (request : FinalizeRequest) : FinalizeRequest :=
  { request with
    outcome := .TransportError (.object [("code", .string "RESULT_LIMIT_EXCEEDED")])
    field_sources := some
      (.object [("degraded_reasons", .array [.string "manager:result_limit_exceeded"])]) }

def FinalizeRequest.fits (request : FinalizeRequest) : Prop :=
  (ServiceRequest.finalize request).body.utf8ByteSize ≤ MAX_INTERNAL_BODY_BYTES

instance (request : FinalizeRequest) : Decidable request.fits :=
  inferInstanceAs (Decidable (_ ≤ _))

/-- The request whose text is sent. -/
def serialize_finalize_request (request : FinalizeRequest) : Except ClientError FinalizeRequest :=
  if request.fits then .ok request
  else if request.fallback.fits then .ok request.fallback
  else .error .InvalidResponse

namespace MaskingServiceClient

def preflight (request : PreflightRequest) : Prog MaskOp (Except ClientError PreflightResponse) :=
  request_json crates crates.preflight_response (.preflight request)

def finalize (request : FinalizeRequest) : Prog MaskOp (Except ClientError FinalizeResponse) :=
  match serialize_finalize_request request with
  | .error error => return .error error
  | .ok request => request_twice crates crates.finalize_response (.finalize request)

def terminal (request : TerminalRequest) : Prog MaskOp (Except ClientError TerminalResponse) :=
  request_twice crates crates.terminal_response (.terminal request)

end MaskingServiceClient

end SessionManager
