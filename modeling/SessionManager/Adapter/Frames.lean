import SessionManager.Json.Python
import SessionManager.Protocol.Codec

/-!
# Frames of the adapters

What the adapters of `adapters/stdio-ws` write on their socket, as the manager reads it: a
`Provider` (`provider.py`) writes dictionaries with `json.dumps`.
-/

namespace SessionManager

open Json

/-- `{"jsonrpc": "2.0", "method": "session.bye"}`, the last frame of an adapter. -/
def session_bye : Value :=
  .object [("jsonrpc", .string "2.0"), ("method", .string methods.SESSION_BYE)]

/-- Without an id it is a notification. -/
theorem read_session_bye :
    WireMessage.from_value session_bye = .ok (.notification methods.SESSION_BYE .null) := rfl

/-! ## Responses -/

/-- The exceptions the adapter tells apart. -/
inductive Raised
  | UnknownMethod
  | InvalidParams
  | PolicyDenied
  | CallCancelled
  | TransportError
  | UnsupportedContent
  | AdmissionError
  /-- `asyncio.CancelledError`, which is no `Exception`. -/
  | CancelledError
  | TimeoutError
  /-- Any other `Exception`. -/
  | Exception
  deriving DecidableEq, Repr

/-- The code and the message of `error_for`. -/
def Raised.error_for : Raised → Int × String
  | .UnknownMethod => (-32601, "method not found")
  | .InvalidParams => (-32602, "invalid params")
  | .PolicyDenied => (-32602, "denied")
  | .CallCancelled => (-32800, "cancelled")
  | .TransportError => (-32603, "transport error")
  | .UnsupportedContent => (-32603, "unsupported content block")
  | .AdmissionError => (-32603, "admission denied")
  | _ => (-32603, "internal error")

/-- The frame of `Provider._respond` for a result. -/
def result_frame (msg_id result : Python.Value) : Python.Value :=
  Python.of_members [("jsonrpc", Python.text "2.0"), ("id", msg_id), ("result", result)]

/-- The frame of `Provider._respond` for an error. -/
def error_frame (msg_id : Python.Value) (error : Raised) : Python.Value :=
  Python.of_members [("jsonrpc", Python.text "2.0"), ("id", msg_id),
    ("error", Python.of_members
      [("code", .int error.error_for.1), ("message", Python.text error.error_for.2)])]

/-- The id of a request of the manager. -/
def Id.python : Id → Python.Value
  | .string s => Python.text s
  | .number n => .int n
  | .null => .None

end SessionManager
