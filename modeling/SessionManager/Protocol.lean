import SessionManager.Json

/-!
# The wire protocol

The messages of the bidirectional JSON-RPC channel between the manager and a
client session (`session_manager/protocol.rs`), the per-method parameters and
results the manager builds or reads, and their `serde` encodings.
-/

namespace SessionManager

open Json

namespace methods

def SESSION_REGISTER : String := "session.register"
def SESSION_BYE : String := "session.bye"
def SESSION_SHUTDOWN : String := "session.shutdown"
def SESSION_TOOLS_CHANGED : String := "session.tools_changed"
def TOOL_CALL : String := "tool.call"
def TOOL_CANCEL : String := "tool.cancel"

end methods

namespace error_codes

def SESSION_UID_COLLISION : Int := -32010
def TOOL_CANCELLED : Int := -32800
def INVALID_REQUEST : Int := -32600
def METHOD_NOT_FOUND : Int := -32601
def INVALID_PARAMS : Int := -32602
def PARSE_ERROR : Int := -32700

end error_codes

inductive Id
  | string (s : String)
  | number (n : Int)
  | null
  deriving DecidableEq, Repr

structure JsonRpcError where
  code : Int
  message : String
  data : Option Value
  deriving DecidableEq, Repr

/-- The outcome a response carries. -/
abbrev RpcResult := Except JsonRpcError Value

inductive WireMessage
  | request (id : Id) (method : String) (params : Value)
  | response (id : Id) (result : RpcResult)
  | notification (method : String) (params : Value)

/-! ## Tools -/

inductive ToolVisibility
  | Public
  | Internal
  deriving DecidableEq, Repr

def ToolVisibility.is_public : ToolVisibility → Bool
  | .Public => true
  | .Internal => false

theorem ToolVisibility.is_public_iff {visibility : ToolVisibility} :
    visibility.is_public = true ↔ visibility = .Public := by
  cases visibility <;> simp [is_public]

structure ToolDescriptor where
  name : String
  description : Option String
  input_schema : Value
  visibility : ToolVisibility
  deriving DecidableEq, Repr

/-- The descriptor lists a tool of this name that agents may see. -/
def ToolDescriptor.publishes (tool : ToolDescriptor) (name : String) : Bool :=
  tool.name == name && tool.visibility.is_public

structure SessionRegisterParams where
  client_uid : String
  kind : String
  version : String
  infobase_name : String
  ib_session_number : Nat
  tools : List ToolDescriptor
  config_id : Option String
  host_id : Option String
  pid : Option Nat
  cluster_server : Option String
  database_key : Option String

/-! ## `tool.call` and `tool.cancel` -/

structure ToolCallParams where
  name : String
  arguments : Value
  deriving DecidableEq, Repr

def ToolCallParams.to_value (params : ToolCallParams) : Value :=
  .object [("arguments", params.arguments), ("name", .string params.name)]

inductive ToolContent
  | text (s : String)
  | json (v : Value)
  deriving DecidableEq, Repr

structure ToolCallResult where
  content : List ToolContent
  is_error : Bool
  structured_content : Option Value
  deriving DecidableEq, Repr

def ToolContent.to_value : ToolContent → Value
  | .text s => .object [("text", .string s), ("type", .string "text")]
  | .json v => .object [("json", v), ("type", .string "json")]

/-- `is_error` is skipped when false and `structured_content` when absent. -/
def ToolCallResult.to_value (result : ToolCallResult) : Value :=
  .object
    ([("content", .array (result.content.map ToolContent.to_value))] ++
      (if result.is_error then [("is_error", .bool true)] else []) ++
      (match result.structured_content with
        | some value => [("structured_content", value)]
        | none => []))

/-- The tag is a member like the others, or comes first in an array. -/
def ToolContent.from_value : Value → Option ToolContent
  | .object fields => do
    match ← field fields "type" >>= Value.as_str with
    | "text" => return .text (← field fields "text" >>= Value.as_str)
    | "json" => return .json (← field fields "json")
    | _ => none
  | .array [.string "text", .string s] => some (.text s)
  | .array [.string "json", v] => some (.json v)
  | _ => none

private def content_from_value : Option Value → Option (List ToolContent)
  | none => some []
  | some (.array items) => items.mapM ToolContent.from_value
  | some _ => none

private def is_error_from_value : Option Value → Option Bool
  | none => some false
  | some (.bool b) => some b
  | some _ => none

/-- An explicit `null` reads as an absent field. -/
private def structured_content_from_value : Option Value → Option Value
  | some .null => none
  | value => value

/-- `serde_json::from_value::<ToolCallResult>`: every field has a default, unknown
fields are ignored, and a sequence is read field by field. -/
def ToolCallResult.from_value : Value → Option ToolCallResult
  | .object fields => do
      return {
        content := ← content_from_value (field fields "content")
        is_error := ← is_error_from_value (field fields "is_error")
        structured_content := structured_content_from_value (field fields "structured_content") }
  | .array items => do
      guard (items.length ≤ 3)
      return {
        content := ← content_from_value items[0]?
        is_error := ← is_error_from_value items[1]?
        structured_content := structured_content_from_value items[2]? }
  | _ => none

structure ToolCancelParams where
  id : Id
  reason : Option String

def Id.to_value : Id → Value
  | .string s => .string s
  | .number n => .number (.int n)
  | .null => .null

def ToolCancelParams.to_value (params : ToolCancelParams) : Value :=
  .object
    ([("id", params.id.to_value)] ++
      (match params.reason with
        | some reason => [("reason", .string reason)]
        | none => []))

structure SessionShutdownParams where
  reason : Option String
  grace_ms : Option Nat

def SessionShutdownParams.to_value (params : SessionShutdownParams) : Value :=
  .object
    ((match params.grace_ms with
        | some grace_ms => [("grace_ms", .number (.int grace_ms))]
        | none => []) ++
      (match params.reason with
        | some reason => [("reason", .string reason)]
        | none => []))

end SessionManager
