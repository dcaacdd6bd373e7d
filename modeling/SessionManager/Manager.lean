import SessionManager.Dispatcher
import SessionManager.Masking.Client
import SessionManager.Masking.Identity

/-!
# The manager's tasks and what they share

The tasks of the manager run interleaved over one registry, the handles of the accepted
connections, the dispatchers of the registered sessions and the clock.  `ManagerOp` is what a
task asks for; `ManagerOp.apply` says what it does to that world.  What the masking service and
a RAS cluster answer is left open.
-/

namespace SessionManager

open Json Effect

/-- Connections and dispatchers are kept under the addresses that records name. -/
structure ManagerWorld (ι : Type) where
  registry : SessionRegistry
  connections : Arena ConnectionHandle
  dispatchers : Nat → SessionDispatcher ι
  now : Nat
  cancelled : ι → Bool

namespace ManagerWorld

variable {ι : Type}

def new (tools_cache : Option ToolsCacheStore) (now : Nat) : ManagerWorld ι where
  registry := .new tools_cache
  connections := .empty .new
  dispatchers _ := .new
  now := now
  cancelled _ := false

/-- A dispatcher and a connection, as the methods of the dispatcher see them. -/
def view (w : ManagerWorld ι) (dispatcher connection : Nat) : DispatcherWorld ι where
  dispatcher := w.dispatchers dispatcher
  connection := w.connections.cell connection
  now := w.now
  cancelled := w.cancelled

def set_connection (w : ManagerWorld ι) (connection : Nat) (h : ConnectionHandle) :
    ManagerWorld ι :=
  { w with connections := w.connections.modify connection fun _ => h }

def set_dispatcher (w : ManagerWorld ι) (dispatcher : Nat) (d : SessionDispatcher ι) :
    ManagerWorld ι :=
  { w with dispatchers := Function.update w.dispatchers dispatcher d }

/-- Put back what a method of a dispatcher has changed. -/
def merge (w : ManagerWorld ι) (dispatcher connection : Nat) (v : DispatcherWorld ι) :
    ManagerWorld ι :=
  { (w.set_dispatcher dispatcher v.dispatcher).set_connection connection v.connection with
    now := v.now
    cancelled := v.cancelled }

end ManagerWorld

/-- A message on the channel of a connection, by a sender of the socket's own task. -/
def ConnectionHandle.send (h : ConnectionHandle) (msg : WireMessage) : Bool × ConnectionHandle :=
  if h.writer_open then (true, { h with wire := h.wire ++ [msg] }) else (false, h)

/-- What tasks ask for; `ι` names the tasks. -/
inductive ManagerOp (ι : Type) : Type → Type 1
  /-- A handle for a socket that was accepted. -/
  | accept : ManagerOp ι Nat
  | reg {β : Type} (op : RegOp β) : ManagerOp ι β
  | conn {β : Type} (connection : Nat) (op : ConnOp β) : ManagerOp ι β
  | send (connection : Nat) (msg : WireMessage) : ManagerOp ι Bool
  | disp {β : Type} (dispatcher connection : Nat) (op : DispOp ι β) : ManagerOp ι β
  | drain_dispatcher (dispatcher : Nat) : ManagerOp ι Unit
  | load_inflight (dispatcher : Nat) : ManagerOp ι Nat
  /-- `timeout_at` around the receiver of a response. -/
  | timeout_at (connection rx deadline : Nat) : ManagerOp ι Terminal
  | mask {β : Type} (op : MaskOp β) : ManagerOp ι β
  | resolve (cluster_server infobase_name : String) : ManagerOp ι (Option ResolvedDatabaseIdentity)
  | now : ManagerOp ι Nat
  | cancel (i : ι) : ManagerOp ι Unit
  | tick : ManagerOp ι Unit

namespace ManagerOp

variable {ι : Type} {β : Type}

/-- Another process gives the answer. -/
def external : ∀ {β : Type}, ManagerOp ι β → Prop
  | _, .mask _ | _, .resolve .. => True
  | _, _ => False

variable [DecidableEq ι]

/-- The answer to a request of task `i`, and the world after it; `none` while it waits or if
another process answers. -/
def apply (i : ι) (w : ManagerWorld ι) : ∀ {β : Type}, ManagerOp ι β → Option (β × ManagerWorld ι)
  | _, .accept =>
      some (w.connections.next, { w with connections := w.connections.alloc .new })
  | _, .reg op => (op.apply w.now w.registry).map fun (b, registry) => (b, { w with registry })
  | _, .conn c op =>
      let (b, h) := op.apply (w.connections.cell c)
      some (b, w.set_connection c h)
  | _, .send c msg =>
      let (sent, h) := (w.connections.cell c).send msg
      some (sent, w.set_connection c h)
  | _, .disp d c op => (op.apply i (w.view d c)).map fun (b, v) => (b, w.merge d c v)
  | _, .drain_dispatcher d =>
      some ((), w.set_dispatcher d { w.dispatchers d with state := .Drained })
  | _, .load_inflight d => some ((w.dispatchers d).inflight, w)
  | _, .timeout_at c rx deadline =>
      ((w.view 0 c).terminal rx (some deadline)).map fun terminal => (terminal, w)
  | _, .mask _ | _, .resolve .. => none
  | _, .now => some (w.now, w)
  | _, .cancel j => some ((), { w with cancelled := Function.update w.cancelled j true })
  | _, .tick => some ((), { w with now := w.now + 1 })

end ManagerOp

/-- A step of a task: what `apply` says, or any answer of another process. -/
def managerSemantics {ι : Type} [DecidableEq ι] :
    Semantics ι (ManagerOp ι) (ManagerWorld ι) := fun i w _ op answer w' =>
  op.apply i w = some (answer, w') ∨ op.external ∧ w' = w

/-! ## Methods that reach beyond the registry -/

variable {ι : Type}

open Prog (perform)

namespace ConnectionHandle

def drain (connection : Nat) : Prog (ManagerOp ι) Unit :=
  drain_pending.lift (.conn connection)

def drain_if : Option Nat → Prog (ManagerOp ι) Unit
  | some connection => drain connection
  | none => return ()

def call_outcome (connection : Nat) (id : Id) :
    Terminal → Prog (ManagerOp ι) (Except ConnectionCallError Value)
  | .response (.ok value) => return .ok value
  | .response (.error error) => return .error (.Rejected error)
  | .closed => return .error .Disconnected
  | .deadline => do
      (cancel_pending id).lift (.conn connection)
      return .error .Timeout

/-- Send a request and wait for its response. -/
def call (connection : Nat) (method : String) (params : Value) (deadline : Nat) :
    Prog (ManagerOp ι) (Except ConnectionCallError Value) := do
  match ← (dispatch_request method params).lift (.conn connection) with
  | .error error => return .error error
  | .ok (id, rx) =>
    let result ← call_outcome connection id (← perform (.timeout_at connection rx deadline))
    perform (.conn connection (.drop_receiver rx))
    return result

end ConnectionHandle

namespace SessionRegistry

/-- Drain what a section that disconnected a record handed out, and give the lock back.  The
value tells whether there was such a record. -/
def release : Option (Option Nat × Nat) → Prog (ManagerOp ι) Bool
  | some (connection, dispatcher) => do
    ConnectionHandle.drain_if connection
    perform (.drain_dispatcher dispatcher)
    perform (.reg .unlock)
    perform (.reg .mark_tools_changed)
    perform (.reg .mark_session_changed)
    return true
  | none => return false

def mark_disconnected (session_id : String) (now : Nat) : Prog (ManagerOp ι) Bool := do
  release (← perform (.reg (.mark_disconnected session_id now)))

def mark_disconnected_if_generation (session_id : String) (expected_generation now : Nat) :
    Prog (ManagerOp ι) Bool := do
  release (← perform (.reg
    (.mark_disconnected_if_generation session_id expected_generation now)))

end SessionRegistry

end SessionManager
