import SessionManager.Connection.Phases
import SessionManager.Effect.Semaphore

/-!
# `SessionDispatcher`: one `tool.call` at a time for each session

The dispatcher of a session (`session_manager/dispatcher.rs`) admits calls one by one
through a semaphore with a single permit, counts the call in flight, and waits for its
terminal response while watching the call's deadline and cancellation token.

A wait of the source is one request of `DispOp`, answered when the awaited thing has
happened; `DispOp.apply` says in which state it is answered, and follows the order of the
branches of the source's `biased` selects.  A request that must wait has no answer yet.
-/

namespace SessionManager

open Json Effect

inductive DispatcherError
  | CancelledWhileQueued
  | Cancelled
  | TimedOutWhileQueued
  | TimedOutWhileRunning
  | SessionGone
  | ClientError (error : JsonRpcError)
  | InvalidResult (reason : String)
  | WriterClosed
  deriving DecidableEq

inductive DispatcherState
  | Open
  | Drained
  deriving DecidableEq

/-- The fields of `SessionDispatcher`; `ι` names the calls that queue at the semaphore. -/
structure SessionDispatcher (ι : Type) where
  admission : Semaphore ι
  inflight : Nat
  state : DispatcherState

def SessionDispatcher.new {ι : Type} : SessionDispatcher ι where
  admission := .new 1
  inflight := 0
  state := .Open

/-- What ends the wait for the admission permit; `acquired false` stands for the error of a
closed semaphore. -/
inductive Admission
  | cancelled
  | deadline
  | acquired (permit : Bool)
  deriving DecidableEq

/-- The first poll of that wait: over at once, or queued. -/
inductive AdmissionPoll
  | ready (admission : Admission)
  | queued
  deriving DecidableEq

/-- What ends the wait for the client. -/
inductive Terminal
  | response (result : RpcResult)
  | closed
  | deadline

inductive Wake
  | terminal (terminal : Terminal)
  | cancelled

/-- The atomic sections and waits of the dispatcher, and the two events outside of it: a
token is cancelled, time passes. -/
inductive DispOp (ι : Type) : Type → Type 1
  | conn {β : Type} (op : ConnOp β) : DispOp ι β
  | load_state : DispOp ι DispatcherState
  | store_drained : DispOp ι Unit
  | poll_admission (deadline : Option Nat) : DispOp ι AdmissionPoll
  | resume_admission (deadline : Option Nat) : DispOp ι Admission
  | fetch_add_inflight : DispOp ι Unit
  | fetch_sub_inflight : DispOp ι Unit
  | release_permit : DispOp ι Unit
  | select (rx : Nat) (deadline : Option Nat) : DispOp ι Wake
  | select_cancel_sent (rx : Nat) (deadline : Option Nat) : DispOp ι Terminal
  | cancel (i : ι) : DispOp ι Unit
  | tick : DispOp ι Unit

/-- A dispatcher, the connection of its session, the clock, and the cancellation tokens of
the calls. -/
structure DispatcherWorld (ι : Type) where
  dispatcher : SessionDispatcher ι
  connection : ConnectionHandle
  now : Nat
  cancelled : ι → Bool

namespace DispatcherWorld

variable {ι : Type}

def new : DispatcherWorld ι where
  dispatcher := .new
  connection := .new
  now := 0
  cancelled _ := false

/-- The instant has been reached; an absent deadline never is. -/
def expired (w : DispatcherWorld ι) : Option Nat → Bool
  | some deadline => deadline ≤ w.now
  | none => false

/-- The branches on the receiver and on the deadline, in this order. -/
def terminal (w : DispatcherWorld ι) (rx : Nat) (deadline : Option Nat) : Option Terminal :=
  match (w.connection.oneshots.cell rx).poll with
  | .ready result => some (.response result)
  | .closed => some .closed
  | .pending => if w.expired deadline then some .deadline else none

def set_admission (w : DispatcherWorld ι) (admission : Semaphore ι) : DispatcherWorld ι :=
  { w with dispatcher := { w.dispatcher with admission } }

def set_inflight (w : DispatcherWorld ι) (inflight : Nat) : DispatcherWorld ι :=
  { w with dispatcher := { w.dispatcher with inflight } }

@[simp] theorem set_inflight_admission (w : DispatcherWorld ι) (inflight : Nat) :
    (w.set_inflight inflight).dispatcher.admission = w.dispatcher.admission := rfl

@[simp] theorem set_inflight_connection (w : DispatcherWorld ι) (inflight : Nat) :
    (w.set_inflight inflight).connection = w.connection := rfl

@[simp] theorem set_inflight_state (w : DispatcherWorld ι) (inflight : Nat) :
    (w.set_inflight inflight).dispatcher.state = w.dispatcher.state := rfl

@[simp] theorem set_inflight_now (w : DispatcherWorld ι) (inflight : Nat) :
    (w.set_inflight inflight).now = w.now := rfl

end DispatcherWorld

variable {ι : Type} [DecidableEq ι]

/-- The answer to a request of thread `i`, and the state after it; `none` while it waits. -/
def DispOp.apply (i : ι) (w : DispatcherWorld ι) :
    ∀ {β : Type}, DispOp ι β → Option (β × DispatcherWorld ι)
  | _, .conn op =>
      let (answer, connection) := op.apply w.connection
      some (answer, { w with connection })
  | _, .load_state => some (w.dispatcher.state, w)
  | _, .store_drained =>
      some ((), { w with dispatcher := { w.dispatcher with state := .Drained } })
  | _, .poll_admission deadline =>
      if w.cancelled i then some (.ready .cancelled, w)
      else if w.expired deadline then some (.ready .deadline, w)
      else
        let (acquired, admission) := w.dispatcher.admission.enqueue i
        some (if acquired then .ready (.acquired true) else .queued, w.set_admission admission)
  | _, .resume_admission deadline =>
      if w.cancelled i then
        some (.cancelled, w.set_admission (w.dispatcher.admission.abandon i))
      else if w.expired deadline then
        some (.deadline, w.set_admission (w.dispatcher.admission.abandon i))
      else if i ∈ w.dispatcher.admission.granted then
        some (.acquired true, w.set_admission (w.dispatcher.admission.pick_up i))
      else none
  -- `AtomicU32` wraps around
  | _, .fetch_add_inflight =>
      some ((), w.set_inflight ((w.dispatcher.inflight + 1) % 2 ^ 32))
  | _, .fetch_sub_inflight =>
      some ((), w.set_inflight ((w.dispatcher.inflight + (2 ^ 32 - 1)) % 2 ^ 32))
  | _, .release_permit => some ((), w.set_admission w.dispatcher.admission.release)
  | _, .select rx deadline =>
      match w.terminal rx deadline with
      | some terminal => some (.terminal terminal, w)
      | none => if w.cancelled i then some (.cancelled, w) else none
  | _, .select_cancel_sent rx deadline => (w.terminal rx deadline).map fun terminal => (terminal, w)
  | _, .cancel j => some ((), { w with cancelled := Function.update w.cancelled j true })
  | _, .tick => some ((), { w with now := w.now + 1 })

open Prog (perform)

def map_call_err_send : ConnectionCallError → DispatcherError
  | .Disconnected => .SessionGone
  | .WriterClosed => .WriterClosed
  | .Timeout => .TimedOutWhileRunning
  | .Rejected error => .ClientError error

def cancel_params (req_id : Id) : Value :=
  ToolCancelParams.to_value { id := req_id, reason := some "cancelled by manager" }

/-- The receiver of the `tool.cancel` is dropped at once: nobody waits for its response. -/
def send_tool_cancel (req_id : Id) : Prog (DispOp ι) Unit := do
  match ← (ConnectionHandle.dispatch_request methods.TOOL_CANCEL (cancel_params req_id)).lift
      DispOp.conn with
  | .ok (_, rx) => perform (.conn (.drop_receiver rx))
  | .error _ => return ()

/-- The arms of the two selects that leave the waiting loop. -/
def on_terminal (req_id : Id) : Terminal → Prog (DispOp ι) (Except DispatcherError Value)
  | .response (.ok value) => return .ok value
  | .response (.error error) =>
      return .error (if error.code = error_codes.TOOL_CANCELLED then .Cancelled else .ClientError error)
  | .closed => return .error .SessionGone
  | .deadline => do
      (ConnectionHandle.cancel_pending req_id).lift DispOp.conn
      return .error .TimedOutWhileRunning

/-- The waiting loop.  It goes round at most twice, because the cancellation arm is disabled
once `tool.cancel` has been sent. -/
def await_terminal (req_id : Id) (rx : Nat) (deadline : Option Nat) :
    Prog (DispOp ι) (Except DispatcherError Value) := do
  match ← perform (.select rx deadline) with
  | .terminal terminal => on_terminal req_id terminal
  | .cancelled =>
    send_tool_cancel req_id
    let terminal ← perform (.select_cancel_sent rx deadline)
    on_terminal req_id terminal

def parse_outcome : Except DispatcherError Value → Except DispatcherError ToolCallResult
  | .ok value =>
    match ToolCallResult.from_value value with
    | some result => .ok result
    | none => .error (.InvalidResult "invalid tool.call result")
  | .error error => .error error

/-- Sending the call and waiting for its end, with the permit held and the call counted. -/
def run_tool_call (params : ToolCallParams) (deadline : Option Nat) :
    Prog (DispOp ι) (Except DispatcherError ToolCallResult) := do
  match ← (ConnectionHandle.dispatch_request methods.TOOL_CALL params.to_value).lift DispOp.conn with
  | .error error => return .error (map_call_err_send error)
  | .ok (req_id, rx) =>
    let outcome ← await_terminal req_id rx deadline
    perform (.conn (.drop_receiver rx))
    return parse_outcome outcome

/-- From the second check on; `InflightGuard` gives the count back on every exit. -/
def enqueue_admitted (params : ToolCallParams) (deadline : Option Nat) :
    Prog (DispOp ι) (Except DispatcherError ToolCallResult) := do
  match ← perform .load_state with
  | .Drained => return .error .SessionGone
  | .Open =>
    perform .fetch_add_inflight
    let result ← run_tool_call params deadline
    perform .fetch_sub_inflight
    return result

def acquire (deadline : Option Nat) : Prog (DispOp ι) Admission := do
  match ← perform (.poll_admission deadline) with
  | .ready admission => return admission
  | .queued => perform (.resume_admission deadline)

namespace SessionDispatcher

def enqueue (params : ToolCallParams) (deadline : Option Nat) :
    Prog (DispOp ι) (Except DispatcherError ToolCallResult) := do
  match ← perform .load_state with
  | .Drained => return .error .SessionGone
  | .Open =>
    match ← acquire deadline with
    | .cancelled => return .error .CancelledWhileQueued
    | .deadline => return .error .TimedOutWhileQueued
    | .acquired false => return .error .SessionGone
    | .acquired true =>
      let result ← enqueue_admitted params deadline
      perform .release_permit
      return result

def drain : Prog (DispOp ι) Unit := perform .store_drained

end SessionDispatcher

end SessionManager
