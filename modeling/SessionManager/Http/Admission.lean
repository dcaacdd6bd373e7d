import Mathlib.Data.Finset.Card
import Mathlib.Data.Set.Card
import SessionManager.Effect.Pool
import SessionManager.Http.RpcMeta

/-!
# How many sessions the HTTP endpoint admits (`mcp/server.rs`)

A place is reserved before a session is initialized, and the reservation is confirmed with the
id of the session, released, or dropped with the request.  Confirmed sessions that the session
manager no longer has are forgotten at the next reservation.

The requests of one pool interleave at the sections of the admission's mutex.  Reserving looks
at the session manager's map, whose read lock it holds meanwhile, so it is one section, too.
-/

namespace SessionManager

open Json Effect

open Prog (perform)

structure HttpSessionAdmissionState where
  reserved : Nat
  active_sessions : Finset String

structure HttpSessionAdmission where
  max_sessions : Nat

/-- `HttpSessionAdmission::new` -/
def HttpSessionAdmission.new (max_sessions : Nat) : HttpSessionAdmission where
  max_sessions := max max_sessions 1

namespace HttpSessionAdmissionState

/-- Nothing is reserved and no session known. -/
def default : HttpSessionAdmissionState where
  reserved := 0
  active_sessions := ∅

variable (admission : HttpSessionAdmission) (state : HttpSessionAdmissionState)

/-- `active_sessions.retain(|session_id| live_sessions.contains_key(session_id))` -/
def prune (live_sessions : Finset String) : HttpSessionAdmissionState :=
  { state with active_sessions := state.active_sessions.filter (· ∈ live_sessions) }

/-- Whether a place was reserved; the sessions are pruned in either case. -/
def reserve_initialize (live_sessions : Finset String) : Bool × HttpSessionAdmissionState :=
  let state := state.prune live_sessions
  if admission.max_sessions ≤ state.active_sessions.card + state.reserved then (false, state)
  else (true, { state with reserved := state.reserved + 1 })

/-- `saturating_sub` is the subtraction of natural numbers. -/
def confirm (session_id : String) : HttpSessionAdmissionState where
  reserved := state.reserved - 1
  active_sessions := insert session_id state.active_sessions

def release : HttpSessionAdmissionState := { state with reserved := state.reserved - 1 }

def remove (session_id : String) : HttpSessionAdmissionState :=
  { state with active_sessions := state.active_sessions.erase session_id }

end HttpSessionAdmissionState

/-! ## Requests -/

/-- What is read off a response of the service. -/
structure McpResponse where
  status : Nat
  session_id : Option String

/-- `inner_handle` has no answer when the request is dropped while the service works on it;
`set_sessions` is what happens to the session manager's map. -/
inductive AdmissionOp : Type → Type
  | reserve : AdmissionOp Bool
  | confirm (session_id : String) : AdmissionOp Unit
  | release : AdmissionOp Unit
  | remove (session_id : String) : AdmissionOp Unit
  | inner_handle (body : List UInt8) : AdmissionOp (Option McpResponse)
  | set_sessions (live_sessions : Finset String) : AdmissionOp Unit

structure HttpSessionReservation where
  completed : Bool

namespace HttpSessionReservation

def drop (reservation : HttpSessionReservation) : Prog AdmissionOp Unit :=
  if !reservation.completed then perform .release else return ()

/-- The reservation is consumed, so it is dropped at the end. -/
def confirm (reservation : HttpSessionReservation) (session_id : String) : Prog AdmissionOp Unit := do
  perform (.confirm session_id)
  { reservation with completed := true }.drop

def release (reservation : HttpSessionReservation) : Prog AdmissionOp Unit := do
  perform .release
  { reservation with completed := true }.drop

end HttpSessionReservation

inductive HttpMethod
  | POST
  | DELETE
  | OTHER
  deriving DecidableEq, Repr

/-- What `handle` reads off a request: whether its bearer token is right if one is needed, and
whether its headers are those of a streamable POST. -/
structure McpRequest where
  method : HttpMethod
  session_id : Option String
  authorized : Bool
  valid_streamable_post_headers : Bool
  body : List UInt8

/-- What the client gets, if it is still there. -/
inductive HttpReply
  | unauthorized
  | payload_too_large
  | no_session
  | overload
  | of_service (response : Option McpResponse)

def initialize_session (body : List UInt8) : Prog AdmissionOp HttpReply := do
  if ← perform .reserve then
    let reservation : HttpSessionReservation := { completed := false }
    match ← perform (.inner_handle body) with
    | none =>
      reservation.drop
      return .of_service none
    | some response =>
      if response.status = 200 then
        match response.session_id with
        | some session_id => reservation.confirm session_id
        | none => reservation.release
      else reservation.release
      return .of_service (some response)
  else return .overload

/-- A request of a session that exists already, or of none. -/
def forward_request (request : McpRequest) (body : List UInt8) : Prog AdmissionOp HttpReply := do
  match ← perform (.inner_handle body) with
  | none => return .of_service none
  | some response =>
    if request.method = .DELETE ∧ response.status = 202 then
      match request.session_id with
      | some session_id => perform (.remove session_id)
      | none => pure ()
    return .of_service (some response)

/-- `HttpMcpService::handle` -/
def HttpMcpService.handle (from_slice : List UInt8 → Option Value) (stateful_sessions : Bool) (request : McpRequest) :
    Prog AdmissionOp HttpReply :=
  if !request.authorized then return .unauthorized
  else
    let sanitized := if request.method = .POST then sanitize_http_rpc_request from_slice request.body
      else .ok (request.body, none)
    match sanitized with
    | .error .PAYLOAD_TOO_LARGE => return .payload_too_large
    | .ok (body, rpc_method) =>
      let is_initialize_candidate :=
        stateful_sessions && request.method = .POST && request.session_id.isNone
      if !is_initialize_candidate then forward_request request body
      else if !request.valid_streamable_post_headers then do
        return .of_service (← perform (.inner_handle body))
      else if rpc_method ≠ some "initialize" then return .no_session
      else initialize_session body

/-- Sessions come and go as the session manager and its clients please. -/
def change_sessions : List (Finset String) → Prog AdmissionOp HttpReply
  | [] => return .of_service none
  | live_sessions :: rest => do
    perform (.set_sessions live_sessions)
    change_sessions rest

/-! ## The pool -/

structure AdmissionWorld where
  state : HttpSessionAdmissionState
  live_sessions : Finset String

/-- The answer of a section; the service may answer anything. -/
inductive AdmissionOp.Answers (admission : HttpSessionAdmission) (w : AdmissionWorld) :
    ∀ {β : Type}, AdmissionOp β → β → AdmissionWorld → Prop
  | reserve : Answers admission w .reserve
      ( w.state.reserve_initialize admission w.live_sessions).1
      { w with state := ( w.state.reserve_initialize admission w.live_sessions).2 }
  | confirm (session_id : String) :
      Answers admission w (.confirm session_id) () { w with state := w.state.confirm session_id }
  | release : Answers admission w .release () { w with state := w.state.release }
  | remove (session_id : String) :
      Answers admission w (.remove session_id) () { w with state := w.state.remove session_id }
  | inner_handle (body : List UInt8) (response : Option McpResponse) :
      Answers admission w (.inner_handle body) response w
  | set_sessions (live_sessions : Finset String) :
      Answers admission w (.set_sessions live_sessions) () { w with live_sessions }

inductive AdmissionTask
  | handle (from_slice : List UInt8 → Option Value) (stateful_sessions : Bool) (request : McpRequest)
  | sessions (changes : List (Finset String))

def AdmissionTask.prog : AdmissionTask → Prog AdmissionOp HttpReply
  | .handle from_slice stateful_sessions request =>
    HttpMcpService.handle from_slice stateful_sessions request
  | .sessions changes => change_sessions changes

end SessionManager
