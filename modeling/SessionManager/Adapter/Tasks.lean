import SessionManager.Adapter.Provider

/-!
# The tasks of a route

The coroutines of `provider.py`: what a `Provider` does with each frame (`on_request`), with a
call (`dispatch_call`) and with the end of its route (`handle_shutdown`, `on_transport_end`), and
what `SharedSDK.qualified_relay` does about the calls of its route.
-/

namespace SessionManager

open Python (Str Entries)

open Effect

variable {κ : Type}

/-- Coroutines. -/
abbrev Coroutine (κ α : Type) := ExceptT Raised (Prog (ProvOp κ)) α

namespace Provider

/-! ## Frames -/

/-- `_send`, for the answer to a call or for another frame. -/
def send (call : Option Nat) (frame : Python.Value) : Coroutine κ Unit := do
  let free ← sync .try_lock
  when (!free) (await (.wait_lock call))
  let sent ← attempt (do await (.ws_write call frame); await .ws_drain)
  sync .unlock
  rethrow sent

/-- `_terminal` -/
def terminal (n : Nat) (exc : Raised) : Coroutine κ Unit := do
  match ← sync (.claim_terminal n) with
  | none => pure ()
  | some ws_id => send (some n) (error_frame ws_id exc)

section Methods

variable (cfg : ProviderConfig κ)

/-! ## The SDK -/

/-- `_send_sdk_cancel` -/
def send_sdk_cancel (n : Nat) : Coroutine κ Unit := do
  match ← sync (.claim_cancel n) with
  | none => pure ()
  | some request =>
    match ← attempt (if cfg.relay then await (.relay_cancel request) else throw .TransportError) with
    | .error .CancelledError => throw .CancelledError
    | _ => pure ()

/-- `_on_sdk_call_id` -/
def on_sdk_call_id (request : Nat) : Coroutine κ Unit := do
  match ← sync (.capture request) with
  | none => pure ()
  | some n => sync (.create_notify n)

/-- `relay.invoke`, which is `session.call_tool`. -/
def invoke (name : String) (arguments : Arguments) : Coroutine κ Entries := do
  await .sdk_open
  let request ← sync .next_request
  on_sdk_call_id request
  await (.sdk_result request name arguments)

/-! ## Calls -/

/-- What a result does to the binding. -/
def rebind (call : PreparedCall) (mapped : Mapped) : Coroutine κ Unit := do
  when call.connecting (do
    let id ← rethrow (opened_connection cfg.rules mapped)
    sync (.bind_connection id))
  when call.disconnecting (sync (.bind_connection []))

/-- The body of the `try` of `_dispatch_call`. -/
def dispatch_body (n : Nat) (ws_id name : Python.Value) (args : Arguments) :
    Coroutine κ Unit := do
  let s ← sync .look
  if !s.flags .dispatch_ready then throw .AdmissionError
  else
    when cfg.admission_check (await .admission_check)
    let s ← sync .look
    let call ← rethrow (prepare cfg.rules s.connection_id s.tools name args)
    sync (.queue_capture n)
    if !cfg.relay then throw .Exception
    else
      let raw ← invoke call.name call.clean
      let s ← sync .look
      let mapped ← rethrow (map_tool_result cfg.rules raw
        (if call.listing_connections then some s.connection_id else none))
      rebind cfg call mapped
      match ← sync (.claim_terminal n) with
      | none => pure ()
      | some _ => send (some n) (result_frame ws_id mapped.python)

/-- The `except` clauses of `_dispatch_call`. -/
def dispatch_except (n : Nat) : Except Raised Unit → Coroutine κ Unit
  | .ok () => pure ()
  | .error .CancelledError => pure ()
  | .error .TimeoutError => do
    sync (.request_cancel n)
    send_sdk_cancel cfg n
    terminal n .CallCancelled
  | .error exc => terminal n exc

/-- `_dispatch_call` -/
def dispatch_call [DecidableEq κ] (n : Nat) (ws_id params : Python.Value) :
    Coroutine κ Unit := do
  let (name, args) ← rethrow (call_arguments cfg.hash params)
  match cfg.hash ws_id with
  | none => throw .Exception
  | some key =>
    sync (.open_entry n ws_id key)
    let outcome ← attempt (dispatch_body cfg n ws_id name args)
    let outcome ← attempt (dispatch_except cfg n outcome)
    sync (.close_entry n key)
    rethrow outcome

/-! ## The end of a route -/

/-- `_close_transport` -/
def close_transport : Coroutine κ Unit := do
  match ← attempt (await .ws_close) with
  | .error .CancelledError => throw .CancelledError
  | _ => do
    let s ← sync .look
    if s.flags .cleanup_failed then pure ()
    else
      sync (.set_flag .route_ended true)
      when (!cfg.defer_closed) (sync (.set_flag .closed true))

/-- Terminate the own child, and kill it if it does not exit. -/
def reap_child : Coroutine κ Unit := do
  match ← attempt (await (.reap false)) with
  | .ok () => pure ()
  | .error .CancelledError => throw .CancelledError
  | .error .TimeoutError =>
    match ← attempt (await (.reap true)) with
    | .ok () => pure ()
    | .error .CancelledError => throw .CancelledError
    | .error _ => sync (.set_flag .cleanup_failed true)
  | .error _ => sync (.set_flag .cleanup_failed true)

/-- `_cleanup_own_child` -/
def cleanup_own_child : Coroutine κ Unit := do
  let s ← sync .look
  if !s.flags .own_child then pure ()
  else
    reap_child
    let s ← sync .look
    when (!s.flags .cleanup_failed) (sync (.set_flag .own_child false))

/-- Wait for all tasks, and clear what they left. -/
def settle_tasks : Coroutine κ Unit := do
  let s ← sync .look
  match ← attempt (await (.gather_within s.tasks)) with
  | .ok () => sync .clear_pending
  | .error e => do
    sync (.set_flag .cleanup_failed true)
    throw e

/-- The loop over `_pending` of `_handle_shutdown`. -/
def cancel_each : List (κ × Nat) → Coroutine κ Unit
  | [] => pure ()
  | (_, n) :: rest => do
    sync (.request_cancel n)
    send_sdk_cancel cfg n
    sync (.cancel (.call n))
    terminal n .CallCancelled
    cancel_each rest

/-- The loop over `_pending` of `_on_transport_end`. -/
def end_each : List (κ × Nat) → Coroutine κ Unit
  | [] => pure ()
  | (_, n) :: rest => do
    sync (.request_cancel n)
    sync (.cancel (.call n))
    match ← attempt (terminal n .TransportError) with
    | .error .CancelledError => throw .CancelledError
    | _ => end_each rest

/-- The goodbye of a route. -/
def bye_frame : Python.Value :=
  Python.of_members [("jsonrpc", Python.text "2.0"), ("method", Python.text "session.bye")]

/-- What `_handle_shutdown` says to the manager unless its owner does. -/
def say_bye (mid : Python.Value) : Coroutine κ Unit := do
  let s ← sync .look
  when (!is_none mid) (send none
    (if s.flags .cleanup_failed then error_frame mid .TransportError
      else result_frame mid (.dict [])))
  let s ← sync .look
  when (!s.flags .cleanup_failed) (send none bye_frame)
  close_transport cfg

/-- `_handle_shutdown` -/
def handle_shutdown (mid : Python.Value) : Coroutine κ Unit := do
  let s ← sync .look
  if s.flags .shutdown_started then pure ()
  else
    sync (.set_flag .shutdown_started true)
    cancel_each cfg s.pending
    settle_tasks
    cleanup_own_child
    if cfg.defer_closed then
      sync (.defer_reply mid)
      sync (.set_flag .route_ended true)
    else say_bye cfg mid

/-- `_on_transport_end` -/
def on_transport_end : Coroutine κ Unit := do
  let s ← sync .look
  if s.flags .ended then pure ()
  else
    sync (.set_flag .ended true)
    end_each s.pending
    settle_tasks
    cleanup_own_child
    close_transport cfg

/-! ## Frames of the manager -/

/-- The methods `_on_request` tells apart. -/
inductive Method
  | tool_call
  | tool_cancel
  | session_shutdown
  | ping
  | other

def Method.of (method : Python.Value) : Method :=
  if is_key "tool.call" method then .tool_call
  else if is_key "tool.cancel" method then .tool_cancel
  else if is_key "session.shutdown" method then .session_shutdown
  else if is_key "ping" method then .ping
  else .other

variable [DecidableEq κ]

/-- `_handle_cancel` -/
def handle_cancel (params : Python.Value) : Coroutine κ Unit := do
  let params ← rethrow (entries_of params)
  match cfg.hash ((Python.get params "id").getD .None) with
  | none => throw .Exception
  | some key =>
    let s ← sync .look
    match s.pending.lookup key with
    | none => pure ()
    | some n =>
      sync (.request_cancel n)
      send_sdk_cancel cfg n
      sync (.cancel (.call n))
      terminal n .CallCancelled
      await (.gather [.call n])

/-- The branch of `_on_request` for a call with an id. -/
def accept_call (n : Nat) (mid params : Python.Value) : Coroutine κ Unit := do
  let s ← sync .look
  if s.busy then send (some n) (error_frame mid .InvalidParams)
  else sync (.create_call n mid params)

/-- `_on_request` -/
def on_request (n : Nat) (msg : Entries) : Coroutine κ Unit :=
  let mid := (Python.get msg "id").getD .None
  let params := (Python.get msg "params").getD .None
  match Method.of ((Python.get msg "method").getD .None) with
  | .tool_call => when (!is_none mid) (accept_call n mid params)
  | .tool_cancel => handle_cancel cfg params
  | .session_shutdown => handle_shutdown cfg mid
  | .ping => when (!is_none mid) (send none (result_frame mid (.dict [])))
  | .other => when (!is_none mid) (send none (error_frame mid .UnknownMethod))

/-- `_on_response` -/
def on_response (msg : Entries) : Coroutine κ Unit :=
  match cfg.hash ((Python.get msg "id").getD .None) with
  | none => throw .Exception
  | some key =>
    sync (.resolve key
      (if (Python.get msg "error").isSome then .error .TransportError
        else
          match (Python.get msg "result").filter Python.Value.truthy with
          | some result => .ok result
          | none => .ok (.dict [])))

/-- The number of bytes of `text.encode("utf-8", "replace")`, which writes `?` for a surrogate. -/
def encoded_size (text : Str) : Nat :=
  (text.flatMap fun c => if c.surrogate then [0x3F] else utf8 c).length

/-- What the reading task does with a frame. -/
def on_frame (n : Nat) (text : Str) : Coroutine κ Unit :=
  if encoded_size text > cfg.max_frame_bytes then throw .TransportError
  else
    match cfg.rules.loads text with
    | .error .ValueError => pure ()
    | .error .RecursionError => throw .Exception
    | .ok (.dict msg) =>
      if (Python.get msg "method").isSome then on_request cfg n msg
      else when (Python.get msg "id").isSome (on_response cfg msg)
    | .ok _ => pure ()

/-- The loop of `_run`, for so many frames. -/
def receive : Nat → Coroutine κ Unit
  | 0 => do
    let s ← sync .look
    when (!s.flags .closed) (await .recv_end)
  | rounds + 1 => do
    let s ← sync .look
    if s.flags .closed then pure ()
    else
      let (n, text) ← await .recv
      on_frame cfg n text
      receive rounds

/-- `_run` -/
def run (rounds : Nat) : Coroutine κ Unit := do
  let ended ← attempt (receive cfg rounds)
  on_transport_end cfg
  match ended with
  | .error .CancelledError => throw .CancelledError
  | _ => pure ()

/-! ## The owner -/

/-- `_fetch_tools` -/
def fetch_tools : Coroutine κ Descriptors := do
  let s ← sync .look
  match s.tools with
  | some tools => pure tools
  | none =>
    let tools ← await .fetch_tools
    sync (.set_tools tools)
    pure tools

/-- The frame of the registration. -/
def register_frame (tools : Descriptors) : Python.Value :=
  Python.of_members [("jsonrpc", Python.text "2.0"), ("id", .str cfg.rid),
    ("method", Python.text "session.register"), ("params", cfg.registration tools)]

/-- `register` -/
def register : Coroutine κ Unit := do
  when cfg.admission_check (await .admission_check)
  sync .create_run
  let tools ← fetch_tools
  match cfg.hash (.str cfg.rid) with
  | none => throw .Exception
  | some key =>
    sync (.expect key)
    send none (register_frame cfg tools)
    let result ← await .registered
    let _ ← rethrow (entries_of result)

/-- `SharedSDK.qualified_relay`, as far as it concerns the calls of its route. -/
def own_route : Coroutine κ Unit := do
  let relayed ← attempt (do
    register cfg
    await .route_wait)
  sync (.set_flag .dispatch_ready false)
  let ended ← attempt (do
    on_transport_end cfg
    let s ← sync .look
    when (s.created .loop) (await .join_loop))
  sync (.set_flag .closed true)
  await .ws_close
  rethrow ended
  rethrow relayed

/-- `SharedSDK.changed` for a change of the tool list. -/
def changed : Coroutine κ Unit := do
  await .list_changed
  sync (.set_flag .dispatch_ready false)
  sync (.set_flag .route_ended true)

/-! ## The pool -/

/-- A task ends, and its callback runs. -/
def task (coroutine : Coroutine κ Unit) : Prog (ProvOp κ) (Except Raised Unit) := do
  let ended ← coroutine.run
  Prog.perform .finish
  Prog.perform .discard
  return ended

/-- The program of each task; the route reads so many frames. -/
def route_tasks (rounds : Nat) : TaskId → Prog (ProvOp κ) (Except Raised Unit)
  | .main => (own_route cfg).run
  | .loop => task (do await .begin; run cfg rounds)
  | .call n => task (do
      let (ws_id, params) ← await .begin_call
      dispatch_call cfg n ws_id params)
  | .notify n => task (do await .begin; send_sdk_cancel cfg n)
  | .reader => (changed : Coroutine κ Unit).run

end Methods

/-! ## Coroutines that touch no call -/

section Plain

variable (cfg : ProviderConfig κ)

/-- The coroutine makes plain requests only. -/
abbrev Plain {α : Type} (p : Coroutine κ α) : Prop := Makes (fun e => e.plain = true) p

theorem plain_send (frame : Python.Value) : Plain (send none frame : Coroutine κ Unit) :=
  (makes_sync rfl).bind fun _ => (makes_await rfl).when.bind fun _ =>
    ((makes_await rfl).bind fun _ => makes_await rfl).attempt.bind fun _ =>
      (makes_sync rfl).bind fun _ => makes_rethrow _

theorem plain_close_transport : Plain (close_transport cfg) := by
  refine (makes_await rfl).attempt.bind fun closed => ?_
  have rest : Plain (do
      let s ← sync .look
      if s.flags .cleanup_failed then pure ()
      else
        sync (.set_flag .route_ended true)
        when (!cfg.defer_closed) (sync (.set_flag .closed true)) : Coroutine κ Unit) := by
    refine (makes_sync rfl).bind fun s => ?_
    split
    · exact makes_pure ()
    · exact (makes_sync rfl).bind fun _ => (makes_sync rfl).when
  split
  · exact makes_throw _
  · exact rest

theorem plain_reap_child : Plain (reap_child : Coroutine κ Unit) := by
  refine (makes_await rfl).attempt.bind fun ended => ?_
  split
  · exact makes_pure ()
  · exact makes_throw _
  · refine (makes_await rfl).attempt.bind fun killed => ?_
    split
    · exact makes_pure ()
    · exact makes_throw _
    · exact makes_sync rfl
  · exact makes_sync rfl

theorem plain_cleanup_own_child : Plain (cleanup_own_child : Coroutine κ Unit) := by
  refine (makes_sync rfl).bind fun s => ?_
  split
  · exact makes_pure ()
  · exact plain_reap_child.bind fun _ => (makes_sync rfl).bind fun _ => (makes_sync rfl).when

theorem plain_say_bye (mid : Python.Value) : Plain (say_bye cfg mid) :=
  (makes_sync rfl).bind fun _ => (plain_send _).when.bind fun _ => (makes_sync rfl).bind fun _ =>
    (plain_send _).when.bind fun _ => plain_close_transport cfg

theorem plain_on_response (msg : Entries) : Plain (on_response cfg msg) := by
  unfold on_response
  split
  · exact makes_throw _
  · exact makes_sync rfl

theorem plain_fetch_tools : Plain (fetch_tools : Coroutine κ Descriptors) := by
  refine (makes_sync rfl).bind fun s => ?_
  split
  · exact makes_pure _
  · exact (makes_await rfl).bind fun _ => (makes_sync rfl).bind fun _ => makes_pure _

theorem plain_register : Plain (register cfg) := by
  refine (makes_await rfl).when.bind fun _ => (makes_sync rfl).bind fun _ =>
    plain_fetch_tools.bind fun tools => ?_
  split
  · exact makes_throw _
  · exact (makes_sync rfl).bind fun _ => (plain_send _).bind fun _ => (makes_await rfl).bind fun _ =>
      (makes_rethrow _).bind fun _ => makes_pure ()

end Plain

end Provider

end SessionManager
