import SessionManager.Manager

/-!
# Ending sessions

A session is shut down over its connection and taken out of the registry if it still is the
registration that was shut down; the idle sweeper does so with sessions without calls, and the
grace sweeper forgets sessions that stay disconnected (`session_manager/lifecycle.rs`,
`run_grace_sweeper` of `session_manager/transport.rs`).
-/

namespace SessionManager

open Json Effect

open Prog (perform)

inductive KillOutcome
  | Graceful
  | GraceTimeout
  | NotFound
  deriving DecidableEq

variable {ι : Type}

def shutdown_params (grace_ms : Nat) : Value :=
  SessionShutdownParams.to_value { reason := some "graceful_shutdown", grace_ms := some grace_ms }

/-- Ask the client to end, and drain its connection whether or not it answers in time. -/
def shutdown_connection (grace_ms connection : Nat) : Prog (ManagerOp ι) KillOutcome := do
  let now ← perform .now
  let answer ← ConnectionHandle.call connection methods.SESSION_SHUTDOWN (shutdown_params grace_ms)
    (now + grace_ms)
  ConnectionHandle.drain connection
  match answer with
  | .ok _ => return .Graceful
  | .error _ => return .GraceTimeout

def drain_session (grace_ms : Nat) (record : SessionRecord) : Prog (ManagerOp ι) KillOutcome :=
  match record.state, record.connection with
  | .Active, some connection => do
    let outcome ← shutdown_connection grace_ms connection
    perform (.drain_dispatcher record.dispatcher)
    return outcome
  | .Active, none => do
    perform (.drain_dispatcher record.dispatcher)
    return .Graceful
  | .Disconnected, connection => do
    perform (.drain_dispatcher record.dispatcher)
    ConnectionHandle.drain_if connection
    return .Graceful

/-- The record is removed only if it still is the registration that was drained. -/
def shutdown_session (grace_ms : Nat) (session_id : String) : Prog (ManagerOp ι) KillOutcome := do
  match ← perform (.reg (.get session_id)) with
  | none => return .NotFound
  | some record =>
    let outcome ← drain_session grace_ms record
    let _ ← (SessionRegistry.remove_if_generation session_id record.connection_generation).lift .reg
    return outcome

/-! ## Sweepers -/

/-- An active session without a call in flight that was not called for `idle_timeout`. -/
def is_idle (now idle_timeout : Nat) (record : SessionRecord) : Prog (ManagerOp ι) Bool :=
  match record.state with
  | .Disconnected => return false
  | .Active => do
    let inflight ← perform (.load_inflight record.dispatcher)
    return inflight == 0 && idle_timeout ≤ now - record.last_call_at

def idle_candidates (now idle_timeout : Nat) :
    List SessionRecord → Prog (ManagerOp ι) (List String)
  | [] => return []
  | record :: records => do
    let idle ← is_idle now idle_timeout record
    let candidates ← idle_candidates now idle_timeout records
    return if idle then record.session_id :: candidates else candidates

def shutdown_sessions (grace_ms : Nat) : List String → Prog (ManagerOp ι) Unit
  | [] => return ()
  | session_id :: session_ids => do
    let _ ← shutdown_session grace_ms session_id
    shutdown_sessions grace_ms session_ids

def sweep_once (grace_ms idle_timeout : Nat) : Prog (ManagerOp ι) Unit := do
  let now ← perform .now
  let records ← perform (.reg .snapshot)
  shutdown_sessions grace_ms (← idle_candidates now idle_timeout records)

/-- One round of `run_grace_sweeper`. -/
def grace_sweep_once (grace : Nat) : Prog (ManagerOp ι) (List String) := do
  let now ← perform .now
  (SessionRegistry.sweep_expired_disconnects now grace).lift .reg

end SessionManager
