import SessionManager.Adapter.Calls
import SessionManager.Effect.Cooperative
import SessionManager.Effect.Raising

/-!
# One route of the test client adapter

A `Provider` of `provider.py` on its event loop: the tasks of a route, what they share, and the
programs they run.  A task runs from one await to the next; what another task does in between is
up to the loop.  Sockets, the SDK and the owner's checks answer as they like.
-/

namespace SessionManager

open Python (Str Entries)

open Effect

/-! ## State -/

/-- The tasks of a route.  Calls are told apart by the frame that asked for them. -/
inductive TaskId
  /-- The owner, who registers the route. -/
  | main
  /-- `_run` -/
  | loop
  /-- `_dispatch_call` for a frame. -/
  | call (n : Nat)
  /-- `_send_sdk_cancel` for the entry of a call, started by `_on_sdk_call_id`. -/
  | notify (n : Nat)
  /-- The SDK's reader, which calls `SharedSDK.changed`. -/
  | reader
  deriving DecidableEq, Repr

/-- `_PendingCall`; its `task` is the call's own and is stored before anybody sees the entry. -/
structure PendingCall where
  ws_id : Python.Value
  sdk_request_id : Option Nat
  cancel_requested : Bool
  cancel_sent : Bool
  terminal_sent : Bool

/-- The booleans and events of a `Provider`. -/
inductive Flag
  | dispatch_ready
  | cleanup_failed
  | shutdown_started
  | ended
  | route_ended
  | closed
  | own_child
  deriving DecidableEq, Repr

/-- What the tasks of a route share. -/
structure ProvState (κ : Type) where
  /-- The tasks that exist, and the arguments of the calls. -/
  created : TaskId → Bool
  calls : Nat → Option (Python.Value × Python.Value)
  finished : TaskId → Bool
  /-- A cancellation was requested and is not delivered yet. -/
  interrupted : TaskId → Bool
  /-- `_tasks` -/
  tasks : List TaskId
  /-- `_send_lock` -/
  holder : Option TaskId
  waiters : List TaskId
  /-- The number of frames read, and the frames written, each with the call it answers. -/
  received : Nat
  written : List (Option Nat × Python.Value)
  /-- The entries of the calls, `_pending` and `_capture_queue`. -/
  entries : Nat → Option PendingCall
  pending : List (κ × Nat)
  capture_queue : List Nat
  /-- `_outbound` and its only future. -/
  outbound : List κ
  registration : Option (Except Raised Python.Value)
  flags : Flag → Bool
  /-- `_binding["connection_id"]` -/
  connection_id : Str
  tools : Option Descriptors
  shutdown_reply : Option Python.Value
  /-- The next request id of the SDK, and the requests it was told to cancel. -/
  next_request : Nat
  notified : List Nat

namespace ProvState

variable {κ : Type}

/-- The state of a new `Provider`, whose owner and whose SDK reader run. -/
def init (connection_id : Str) (own_child : Bool) (next_request : Nat) : ProvState κ where
  created
    | .main | .reader => true
    | _ => false
  calls _ := none
  finished _ := false
  interrupted _ := false
  tasks := []
  holder := none
  waiters := []
  received := 0
  written := []
  entries _ := none
  pending := []
  capture_queue := []
  outbound := []
  registration := none
  flags
    | .dispatch_ready => true
    | .own_child => own_child
    | _ => false
  connection_id := connection_id
  tools := none
  shutdown_reply := none
  next_request := next_request
  notified := []

variable (s : ProvState κ)

/-- `task.cancel()` -/
def interrupt (task : TaskId) : ProvState κ :=
  if s.finished task then s
  else { s with interrupted := Function.update s.interrupted task true }

/-- A pending cancellation is delivered. -/
def resume (task : TaskId) : ProvState κ :=
  { s with interrupted := Function.update s.interrupted task false }

def set (flag : Flag) (value : Bool) : ProvState κ :=
  { s with flags := Function.update s.flags flag value }

def set_entry (n : Nat) (entry : PendingCall) : ProvState κ :=
  { s with entries := Function.update s.entries n (some entry) }

@[simp] theorem interrupted_resume (task : TaskId) :
    (s.resume task).interrupted = Function.update s.interrupted task false := rfl

@[simp] theorem entries_set_entry (n : Nat) (entry : PendingCall) :
    (s.set_entry n entry).entries = Function.update s.entries n (some entry) := rfl

/-- The lock is free and no waiter is left that was not cancelled. -/
def free : Bool := s.holder.isNone && s.waiters.all s.interrupted

/-- The first waiter that was not cancelled. -/
def next_waiter : Option TaskId := s.waiters.find? fun task => !s.interrupted task

/-- `self._pending or self._tasks or self._shutdown_started` -/
def busy : Bool := !s.pending.isEmpty || !s.tasks.isEmpty || s.flags .shutdown_started

/-- `self._pending[key] = entry` -/
def insert [DecidableEq κ] (key : κ) (n : Nat) : List (κ × Nat) → List (κ × Nat)
  | [] => [(key, n)]
  | entry :: rest =>
    if entry.1 = key then (key, n) :: rest else entry :: insert key n rest

/-- All the tasks are done, and their callbacks have run. -/
def settled (tasks : List TaskId) : Bool :=
  tasks.all fun task => s.finished task && !s.tasks.contains task

end ProvState

/-! ## Requests -/

/-- What a task asks of its event loop and of the state it shares with the others. -/
inductive ProvOp (κ : Type) : Type → Type
  /-- Read the state. -/
  | look : ProvOp κ (ProvState κ)
  | set_flag (flag : Flag) (value : Bool) : ProvOp κ Unit
  /-- Take the lock if it is free, else queue for it. -/
  | try_lock : ProvOp κ Bool
  | unlock : ProvOp κ Unit
  /-- `ensure_future(self._run())` -/
  | create_run : ProvOp κ Unit
  /-- `create_task(self._dispatch_call(ws_id, params))` -/
  | create_call (n : Nat) (ws_id params : Python.Value) : ProvOp κ Unit
  /-- `create_task(self._send_sdk_cancel(entry))` -/
  | create_notify (n : Nat) : ProvOp κ Unit
  /-- `task.cancel()` -/
  | cancel (task : TaskId) : ProvOp κ Unit
  /-- The coroutine of the task is over. -/
  | finish : ProvOp κ Unit
  /-- `self._pending[ws_id] = _PendingCall(ws_id)` -/
  | open_entry (n : Nat) (ws_id : Python.Value) (key : κ) : ProvOp κ Unit
  /-- `self._pending.pop(ws_id, None)` and `self._capture_queue.remove(entry)` -/
  | close_entry (n : Nat) (key : κ) : ProvOp κ Unit
  /-- Set `terminal_sent`; answers the id unless it was set. -/
  | claim_terminal (n : Nat) : ProvOp κ (Option Python.Value)
  /-- Set `cancel_sent`; answers the request unless there is none or it was set. -/
  | claim_cancel (n : Nat) : ProvOp κ (Option Nat)
  /-- `entry.cancel_requested = True` -/
  | request_cancel (n : Nat) : ProvOp κ Unit
  /-- `self._capture_queue.append(entry)` -/
  | queue_capture (n : Nat) : ProvOp κ Unit
  /-- The id the SDK gives its next request. -/
  | next_request : ProvOp κ Nat
  /-- Note the id in the first queued entry; answers the entry if its cancellation was asked for. -/
  | capture (request : Nat) : ProvOp κ (Option Nat)
  /-- `self._pending.clear()` -/
  | clear_pending : ProvOp κ Unit
  /-- `self._binding["connection_id"] = id` -/
  | bind_connection (id : Str) : ProvOp κ Unit
  /-- `self._tools = tools` -/
  | set_tools (tools : Descriptors) : ProvOp κ Unit
  /-- `self._outbound[rid] = future` -/
  | expect (key : κ) : ProvOp κ Unit
  /-- Pop the future of the key and settle it, unless it is done. -/
  | resolve (key : κ) (result : Except Raised Python.Value) : ProvOp κ Unit
  /-- `self._shutdown_reply = mid` -/
  | defer_reply (mid : Python.Value) : ProvOp κ Unit
  /-- The first step of a task. -/
  | begin : ProvOp κ (Except Raised Unit)
  | begin_call : ProvOp κ (Except Raised (Python.Value × Python.Value))
  /-- The callback `self._tasks.discard` of a task that is done. -/
  | discard : ProvOp κ Unit
  /-- `gather(*tasks, return_exceptions=True)` -/
  | gather (tasks : List TaskId) : ProvOp κ (Except Raised Unit)
  /-- The same, shielded and for `_shutdown_timeout` only. -/
  | gather_within (tasks : List TaskId) : ProvOp κ (Except Raised Unit)
  /-- Wait for the lock, to answer a call or to send another frame. -/
  | wait_lock (call : Option Nat) : ProvOp κ (Except Raised Unit)
  /-- `ws.send` until the frame is written, for the answer to a call or for another frame. -/
  | ws_write (call : Option Nat) (frame : Python.Value) : ProvOp κ (Except Raised Unit)
  /-- The rest of `ws.send`. -/
  | ws_drain : ProvOp κ (Except Raised Unit)
  /-- `ws.recv`; frames are numbered. -/
  | recv : ProvOp κ (Except Raised (Nat × Str))
  /-- The `ws.recv` of a socket that has nothing more. -/
  | recv_end : ProvOp κ (Except Raised Unit)
  | ws_close : ProvOp κ (Except Raised Unit)
  | admission_check : ProvOp κ (Except Raised Unit)
  | fetch_tools : ProvOp κ (Except Raised Descriptors)
  /-- The future of the registration. -/
  | registered : ProvOp κ (Except Raised Python.Value)
  /-- `session.call_tool` until its request has an id. -/
  | sdk_open : ProvOp κ (Except Raised Unit)
  /-- The rest of `session.call_tool`. -/
  | sdk_result (request : Nat) (name : String) (arguments : Arguments) :
      ProvOp κ (Except Raised Entries)
  /-- `relay.cancel(request)`: the notification `notifications/cancelled`. -/
  | relay_cancel (request : Nat) : ProvOp κ (Except Raised Unit)
  /-- Signal the own child and wait for its exit. -/
  | reap (kill : Bool) : ProvOp κ (Except Raised Unit)
  /-- `route._route_ended.wait()` -/
  | route_wait : ProvOp κ (Except Raised Unit)
  /-- Wait for `route._loop_task`. -/
  | join_loop : ProvOp κ (Except Raised Unit)
  /-- A `ToolListChangedNotification`. -/
  | list_changed : ProvOp κ (Except Raised Unit)

/-- Other tasks may run before the answer. -/
def ProvOp.awaits {κ : Type} : ∀ {β : Type}, ProvOp κ β → Bool
  | _, .begin | _, .begin_call | _, .discard | _, .gather _ | _, .gather_within _
  | _, .wait_lock _ | _, .ws_write .. | _, .ws_drain | _, .recv | _, .recv_end | _, .ws_close
  | _, .admission_check | _, .fetch_tools | _, .registered | _, .sdk_open | _, .sdk_result ..
  | _, .relay_cancel _ | _, .reap _ | _, .route_wait | _, .join_loop
  | _, .list_changed => true
  | _, _ => false

/-- Requests that touch no call. -/
def ProvOp.plain {κ : Type} : ∀ {β : Type}, ProvOp κ β → Bool
  | _, .wait_lock call | _, .ws_write call _ => call.isNone
  | _, .look | _, .set_flag .. | _, .try_lock | _, .unlock | _, .ws_drain | _, .ws_close
  | _, .create_run | _, .admission_check | _, .fetch_tools | _, .set_tools _ | _, .expect _
  | _, .resolve .. | _, .registered | _, .defer_reply _ | _, .reap _ => true
  | _, _ => false

/-! ## Answers -/

/-- What a route is given. -/
structure ProviderConfig (κ : Type) where
  /-- The key of a value in a dictionary; none if it has no hash. -/
  hash : Python.Value → Option κ
  rules : CallRules
  max_frame_bytes : Nat
  /-- `self._relay is not None` -/
  relay : Bool
  /-- `self._admission_check` is given. -/
  admission_check : Bool
  defer_closed : Bool
  /-- The id of the registration. -/
  rid : Str
  /-- The `params` of the registration. -/
  registration : Descriptors → Python.Value

section Semantics

variable {κ : Type} {α : Type}

/-- How an await ends: a cancelled task is resumed with `CancelledError`, the owner may be
cancelled or timed out anywhere, and the await may fail in its own ways. -/
def Resumed (i : TaskId) (s : ProvState κ) (own : Raised → Prop) : Except Raised α → Prop
  | .ok _ => s.interrupted i = false
  | .error e =>
    if s.interrupted i then e = .CancelledError
    else i = .main ∧ (e = .CancelledError ∨ e = .TimeoutError) ∨ e ≠ .CancelledError ∧ own e

/-- An await that cannot fail by itself. -/
def Steady (_ : Raised) : Prop := False

/-- An await that may fail in any way. -/
def Failing (_ : Raised) : Prop := True

/-- An await with a time limit. -/
def Limited (e : Raised) : Prop := e = .TimeoutError

/-- An entry is changed. -/
def Rewrites (s : ProvState κ) (n : Nat) (s' : ProvState κ) (f : PendingCall → PendingCall) :
    Prop :=
  ∃ entry, s.entries n = some entry ∧ s' = s.set_entry n (f entry)

variable [DecidableEq κ]

/-- How the event loop, the socket, the SDK and the owner answer. -/
def provider_answers (i : TaskId) (s : ProvState κ) :
    ∀ {β : Type}, ProvOp κ β → β → ProvState κ → Prop
  | _, .look, b, s' => b = s ∧ s' = s
  | _, .set_flag flag value, _, s' => s' = s.set flag value
  | _, .try_lock, b, s' =>
    b = s.free ∧
      s' = if s.free then { s with holder := some i } else { s with waiters := s.waiters ++ [i] }
  | _, .unlock, _, s' => s' = { s with holder := none }
  | _, .create_run, _, s' => s' = { s with created := Function.update s.created .loop true }
  | _, .create_call n ws_id params, _, s' =>
    s' = { s with
      created := Function.update s.created (.call n) true
      calls := Function.update s.calls n (some (ws_id, params))
      tasks := s.tasks ++ [.call n] }
  | _, .create_notify n, _, s' =>
    s' = { s with
      created := Function.update s.created (.notify n) true
      tasks := s.tasks ++ [.notify n] }
  | _, .cancel task, _, s' => s' = s.interrupt task
  | _, .finish, _, s' => s' = { s with finished := Function.update s.finished i true }
  | _, .open_entry n ws_id key, _, s' =>
    s' = { s.set_entry n ⟨ws_id, none, false, false, false⟩ with
      pending := ProvState.insert key n s.pending }
  | _, .close_entry n key, _, s' =>
    s' = { s with
      pending := s.pending.filter fun entry => entry.1 ≠ key
      capture_queue := s.capture_queue.erase n }
  | _, .claim_terminal n, b, s' =>
    ∃ entry, s.entries n = some entry ∧
      (entry.terminal_sent = true ∧ b = none ∧ s' = s ∨
        entry.terminal_sent = false ∧ b = some entry.ws_id ∧
          s' = s.set_entry n { entry with terminal_sent := true })
  | _, .claim_cancel n, b, s' =>
    ∃ entry, s.entries n = some entry ∧
      ((entry.sdk_request_id = none ∨ entry.cancel_sent = true) ∧ b = none ∧ s' = s ∨
        ∃ request, entry.sdk_request_id = some request ∧ entry.cancel_sent = false ∧
          b = some request ∧ s' = s.set_entry n { entry with cancel_sent := true })
  | _, .request_cancel n, _, s' =>
    Rewrites s n s' fun entry => { entry with cancel_requested := true }
  | _, .queue_capture n, _, s' => s' = { s with capture_queue := s.capture_queue ++ [n] }
  | _, .next_request, b, s' =>
    b = s.next_request ∧ s' = { s with next_request := s.next_request + 1 }
  | _, .capture request, b, s' =>
    match s.capture_queue with
    | n :: rest =>
      ∃ entry, s.entries n = some entry ∧
        (b = if entry.cancel_requested then some n else none) ∧
        s' = { s.set_entry n { entry with sdk_request_id := some request } with
          capture_queue := rest }
    | [] => b = none ∧ s' = s
  | _, .clear_pending, _, s' => s' = { s with pending := [] }
  | _, .bind_connection id, _, s' => s' = { s with connection_id := id }
  | _, .set_tools tools, _, s' => s' = { s with tools := some tools }
  | _, .expect key, _, s' => s' = { s with outbound := key :: s.outbound }
  | _, .resolve key result, _, s' =>
    s' = if s.outbound.contains key then
      { s with
        outbound := s.outbound.erase key
        registration := some (s.registration.getD result) }
      else s
  | _, .defer_reply mid, _, s' => s' = { s with shutdown_reply := some mid }
  | _, .begin, b, s' => Resumed i s Steady b ∧ s.created i = true ∧ s' = s.resume i
  | _, .begin_call, b, s' =>
    Resumed i s Steady b ∧ (∃ n arguments, i = .call n ∧ s.calls n = some arguments ∧
      ∀ given, b = .ok given → given = arguments) ∧ s' = s.resume i
  | _, .discard, _, s' => s' = { s with tasks := s.tasks.erase i }
  | _, .gather tasks, b, s' =>
    Resumed i s Steady b ∧
      match b with
      | .ok () => s.settled tasks = true ∧ s' = s.resume i
      | .error _ => s' = tasks.foldl ProvState.interrupt (s.resume i)
  | _, .gather_within tasks, b, s' =>
    Resumed i s Limited b ∧ (b = .ok () → s.settled tasks = true) ∧ s' = s.resume i
  | _, .wait_lock _, b, s' =>
    Resumed i s Steady b ∧
      match b with
      | .ok () => s.holder = none ∧ s.next_waiter = some i ∧
          s' = { s.resume i with holder := some i, waiters := s.waiters.erase i }
      | .error _ => s' = { s.resume i with waiters := s.waiters.erase i }
  | _, .ws_write call frame, b, s' =>
    Resumed i s Failing b ∧
      match b with
      | .ok () => s' = { s.resume i with written := s.written ++ [(call, frame)] }
      | .error _ => s' = s.resume i
  | _, .ws_drain, b, s' => Resumed i s Failing b ∧ s' = s.resume i
  | _, .recv, b, s' =>
    Resumed i s Failing b ∧
      match b with
      | .ok (n, _) => n = s.received ∧ s' = { s.resume i with received := s.received + 1 }
      | .error _ => s' = s.resume i
  | _, .recv_end, b, s' => Resumed i s Failing b ∧ b ≠ .ok () ∧ s' = s.resume i
  | _, .ws_close, b, s' => Resumed i s Failing b ∧ s' = s.resume i
  | _, .admission_check, b, s' => Resumed i s Failing b ∧ s' = s.resume i
  | _, .fetch_tools, b, s' => Resumed i s Failing b ∧ s' = s.resume i
  | _, .registered, b, s' =>
    Resumed i s Failing b ∧
      match b with
      | .ok result => s.registration = some (.ok result) ∧ s' = s.resume i
      | .error e =>
        s' = { s.resume i with registration := some (s.registration.getD (.error e)) }
  | _, .sdk_open, b, s' => Resumed i s Failing b ∧ s' = s.resume i
  | _, .sdk_result .., b, s' => Resumed i s Failing b ∧ s' = s.resume i
  | _, .relay_cancel request, b, s' =>
    Resumed i s Failing b ∧
      match b with
      | .ok () => s' = { s.resume i with notified := s.notified ++ [request] }
      | .error _ => s' = s.resume i
  | _, .reap _, b, s' => Resumed i s Failing b ∧ s' = s.resume i
  | _, .route_wait, b, s' =>
    Resumed i s Steady b ∧ (b = .ok () → s.flags .route_ended = true) ∧ s' = s.resume i
  | _, .join_loop, b, s' =>
    Resumed i s Failing b ∧
      match b with
      | .ok () => s.finished .loop = true ∧ s' = s.resume i
      | .error _ => s' = (s.resume i).interrupt .loop
  | _, .list_changed, b, s' => Resumed i s Steady b ∧ s' = s.resume i

def provider_sem : Semantics TaskId (ProvOp κ) (ProvState κ) :=
  fun i s {_} e b s' => provider_answers i s e b s'

end Semantics

end SessionManager
