import SessionManager.Manager
import SessionManager.Protocol

/-!
# The internal endpoint

The masking service calls tools that agents do not see (`session_manager/masking/internal.rs`).
It names the database by its exact key; the session that has it and publishes the tool
internally gets the call, if there is one such session only.
-/

namespace SessionManager

open Json Effect

open Prog (perform)

def INTERNAL_CALL_PATH : String := "/internal/v1/tools/call"

def MAX_INTERNAL_REQUEST_BYTES : Nat := 1024 * 1024

inductive InternalDispatchError
  | NoTarget
  | AmbiguousTarget
  | Dispatch
  deriving DecidableEq

structure InternalCallRequest where
  instance_id : String
  name : String
  arguments : Value

/-- What the endpoint knows of a caller: whether its uid is the expected one. -/
structure InternalEndpointContext where
  authorized : Bool
  internal_tools : List String
  call_timeout : Nat

/-- A request; its body is absent when it could not be read. -/
structure HttpRequest where
  method : String
  path : String
  body : Option (List UInt8)

structure HttpResponse where
  status : Nat
  body : Value

/-! ## The target -/

/-- The descriptor lists an internal tool of this name. -/
def ToolDescriptor.hides (tool : ToolDescriptor) (name : String) : Bool :=
  tool.name == name && tool.visibility = .Internal

/-- The active records with the key of the call that have its tool. -/
def internal_targets (snapshot : List SessionRecord) (call : InternalCallRequest) :
    List SessionRecord :=
  ((snapshot.filter fun record => record.state = .Active).filter fun record =>
    record.database_key = some call.instance_id).filter fun record =>
      record.tools.any fun tool => tool.hides call.name

def resolve_internal_target (snapshot : List SessionRecord) (call : InternalCallRequest) :
    Except InternalDispatchError SessionRecord :=
  match internal_targets snapshot call with
  | [] => .error .NoTarget
  | [target] => .ok target
  | _ => .error .AmbiguousTarget

/-! ## The endpoint -/

variable {ι : Type}

def dispatch_internal_tool (target : SessionRecord) (tool_name : String) (arguments : Value)
    (timeout : Nat) : Prog (ManagerOp ι) (Except InternalDispatchError ToolCallResult) :=
  match target.connection with
  | none => return .error .NoTarget
  | some connection => do
    let now ← perform .now
    match ← (SessionDispatcher.enqueue { name := tool_name, arguments } (some (now + timeout))).lift
        (.disp target.dispatcher connection) with
    | .ok result => return .ok result
    | .error _ => return .error .Dispatch

namespace InternalEndpoint

def failure (status : Nat) (code : String) : HttpResponse where
  status := status
  body := .object [("error", .object [("code", .string code)]), ("success", .bool false)]

def success (result : Value) : HttpResponse where
  status := 200
  body := .object [("result", result), ("success", .bool true)]

/-- Answer a call of a tool that the configuration lists. -/
def answer_call (context : InternalEndpointContext) (call : InternalCallRequest) :
    Prog (ManagerOp ι) HttpResponse := do
  match resolve_internal_target (← perform (.reg .snapshot)) call with
  | .error .NoTarget => return failure 503 "no_target"
  | .error .AmbiguousTarget => return failure 503 "ambiguous_target"
  -- resolving does not dispatch: the source does not get here
  | .error .Dispatch => return failure 502 "dispatch_failed"
  | .ok target =>
    match ← dispatch_internal_tool target call.name call.arguments context.call_timeout with
    | .ok result => return success result.to_value
    | .error _ => return failure 502 "dispatch_failed"

/-- `decode` is `serde_json::from_slice`. -/
def handle_request (decode : List UInt8 → Option InternalCallRequest)
    (context : InternalEndpointContext) (request : HttpRequest) :
    Prog (ManagerOp ι) HttpResponse :=
  if !context.authorized then return failure 403 "forbidden"
  else if request.method ≠ "POST" ∨ request.path ≠ INTERNAL_CALL_PATH then
    return failure 404 "not_found"
  else
    match request.body with
    | none => return failure 400 "invalid_request"
    | some body =>
      if MAX_INTERNAL_REQUEST_BYTES < body.length then return failure 400 "invalid_request"
      else
        match decode body with
        | none => return failure 400 "invalid_request"
        | some call =>
          if !context.internal_tools.contains call.name then
            return failure 404 "method_not_found"
          else answer_call context call

end InternalEndpoint

end SessionManager
