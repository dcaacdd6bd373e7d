import SessionManager.Adapter.RawRequest
import SessionManager.Effect.Stateful

/-!
# The debugger adapter

`DebuggerProvider` of `debugger.py`: how it serves a call, and how it cleans up.  A provider takes
no call while another one is pending, so its calls come one after the other; each of them asks the
SDK and the owner, who answer as they like, and may be cancelled wherever it waits.
-/

namespace SessionManager.Debugger

open Python (Str Entries)

open Effect Method

/-! ## Tools -/

inductive Tool
  | attach
  | detach
  | get_targets
  | set_breakpoints
  | clear_breakpoints
  | continue_
  | step_in
  | step_out
  | pause
  | wait_for_stop
  | get_variables
  | evaluate
  | raw_request
  | reload_metadata
  | get_performance_measurement
  | get_call_stack
  deriving DecidableEq, Repr

/-- The name the SDK knows it by. -/
def Tool.name : Tool → String
  | .attach => "attach"
  | .detach => "detach"
  | .get_targets => "get_targets"
  | .set_breakpoints => "set_breakpoints"
  | .clear_breakpoints => "clear_breakpoints"
  | .continue_ => "continue"
  | .step_in => "step_in"
  | .step_out => "step_out"
  | .pause => "pause"
  | .wait_for_stop => "wait_for_stop"
  | .get_variables => "get_variables"
  | .evaluate => "evaluate"
  | .raw_request => "raw_request"
  | .reload_metadata => "reload_metadata"
  | .get_performance_measurement => "get_performance_measurement"
  | .get_call_stack => "get_call_stack"

def TOOLS : List Tool :=
  [.attach, .detach, .get_targets, .set_breakpoints, .clear_breakpoints, .continue_, .step_in,
    .step_out, .pause, .wait_for_stop, .get_variables, .evaluate, .raw_request, .reload_metadata,
    .get_performance_measurement, .get_call_stack]

/-- `PUBLIC.get(name)` -/
def PUBLIC (name : Python.Value) : Option Tool :=
  TOOLS.find? fun tool => is_key ("debug_" ++ tool.name) name

def RETARGET : List String := ["url", "infobaseAlias", "password", "autoAttach"]

/-- `name in ("continue", "step_in", "step_out", "pause")` -/
def Tool.controls : Tool → Bool
  | .continue_ | .step_in | .step_out | .pause => true
  | _ => false

/-- `name in ("get_variables", "evaluate")` -/
def Tool.inspects : Tool → Bool
  | .get_variables | .evaluate => true
  | _ => false

/-- `name in ("set_breakpoints", "pause")` -/
def Tool.suspends : Tool → Bool
  | .set_breakpoints | .pause => true
  | _ => false

/-! ## State -/

structure DebuggerConfig where
  library : RawLibrary
  binding : DebugBinding
  /-- `self._tools` -/
  tools : Descriptors
  /-- `validator_for(schema)(schema).is_valid(args)` -/
  is_valid : Python.Value → Arguments → Except Raised Bool

structure DebuggerState where
  dispatch_ready : Bool
  cleanup_failed : Bool
  attached : Bool
  attach_attempted : Bool
  current_targets : List Str
  stopped : List Str
  breakpoints : Bool
  restore_running : List Str
  /-- The latest entry for a target counts. -/
  target_states : List (Str × Python.Value)
  debug_session_id : Python.Value
  measurement_active : Bool

def DebuggerState.new : DebuggerState where
  dispatch_ready := true
  cleanup_failed := false
  attached := false
  attach_attempted := false
  current_targets := []
  stopped := []
  breakpoints := false
  restore_running := []
  target_states := []
  debug_session_id := .None
  measurement_active := false

/-- `self.target_states.get(target) is value` -/
def DebuggerState.suspended (s : DebuggerState) (target : Str) (value : Bool) : Bool :=
  match s.target_states.reverse.lookup target with
  | some (.bool b) => b == value
  | _ => false

/-! ## Requests -/

/-- What a provider awaits. -/
inductive DebugOp : Type → Type
  | admission_check : DebugOp (Except Raised Unit)
  /-- `invoke_private(name, args)` -/
  | invoke_private (tool : Tool) (args : Arguments) : DebugOp (Except Raised Entries)
  /-- `self._relay.invoke(name, args)`: a call is forwarded.  The mode of measurement is that of
  the request the caller wrote. -/
  | relay_invoke (tool : Tool) (args : Arguments) (measurement_mode : Option Str) :
      DebugOp (Except Raised Entries)
  /-- `self._send_sdk_cancel(entry)` -/
  | send_sdk_cancel : DebugOp (Except Raised Unit)
  /-- `self._respond(ws_id, result=result)` -/
  | respond (result : Python.Value) : DebugOp (Except Raised Unit)
  /-- `self._terminal(entry, exc)` -/
  | terminal (exc : Raised) : DebugOp (Except Raised Unit)

/-- A method of the provider. -/
abbrev Routine (α : Type) := Method DebugOp DebuggerState Raised α

variable (cfg : DebuggerConfig)

/-! ## Results -/

/-- `logical_data(raw)` -/
def logical_data (raw : Entries) : Except Raised Entries := do
  let mapped ← payload cfg.library.toLibrary raw
  match Python.get mapped "structuredContent" with
  | some (.dict data) => return data
  | none | some .None =>
    match Python.get mapped "content" with
    | some (.list content) =>
      match content.filter is_dict with
      | [.dict data] => return data
      | _ => throw .AdmissionError
    | _ => throw .AdmissionError
  | some _ => throw .AdmissionError

/-- A value that may be looked up in a set. -/
def hashable : Python.Value → Bool
  | .list _ | .dict _ => false
  | _ => true

/-- `value in targets`, with the string that it is. -/
def target_in (targets : List Str) (value : Python.Value) : Except Raised (Option Str) :=
  if hashable value then .ok (targets.find? fun target => is_str target value)
  else .error .Exception

/-- The target of a row, if it is allowed. -/
def allowed_row (row : Python.Value) : Except Raised (Option (Str × Python.Value)) :=
  match row with
  | .dict row =>
    match Python.get row "targetID" with
    | some (.dict target) => do
      let found ← target_in cfg.binding.allowed_target_ids ((Python.get target "id").getD .None)
      return found.map fun id => (id, (Python.get row "suspended").getD .None)
    | _ => return none
  | _ => return none

/-- The rows of a list of targets. -/
def target_rows (raw : Entries) : Except Raised (List Python.Value) :=
  if is_error raw then throw .AdmissionError
  else do
    match Python.get (← logical_data cfg raw) "targets" with
    | some (.list rows) => return rows
    | _ => throw .AdmissionError

/-- The allowed targets in a list of targets, with their states. -/
def allowed_targets (rows : List Python.Value) : Except Raised (List (Str × Python.Value)) := do
  let found ← rows.mapM (allowed_row cfg)
  return found.filterMap id

/-- `isinstance(response.get("status"), int) and 200 <= response["status"] < 300` -/
def status_ok (response : Entries) : Bool :=
  match Python.get response "status" with
  | some (.int status) => 200 ≤ status && status < 300
  | _ => false

/-! ## Targets -/

/-- `refresh_targets` -/
def refresh_targets : Routine Unit := do
  let raw ← ask (.invoke_private .get_targets [])
  let rows ← rethrow (target_rows cfg raw)
  let targets ← rethrow (allowed_targets cfg rows)
  write fun s => { s with target_states := targets, current_targets := targets.map Prod.fst }

/-- The target of a call, refreshed and checked. -/
def checked_target (args : Arguments) : Routine (Option Str) :=
  match (args.get "targetId").filter fun target => !is_none target with
  | none => pure none
  | some target => do
    refresh_targets cfg
    let s ← read
    match ← rethrow (target_in s.current_targets target) with
    | some target => pure (some target)
    | none => raising .PolicyDenied

/-! ## Cleaning up -/

/-- The request that switches the measurement off. -/
def off_request : Arguments :=
  [(Python.text "cmd", Python.text "setMeasureMode"),
    (Python.text "xml", Python.text
      "<request xmlns=\"http://v8.1c.ru/8.3/debugger/debugRDBGRequestResponse\"></request>")]

def switch_off : Routine Unit := do
  let s ← read
  let (off, _) ← rethrow
    (bind_raw_arguments cfg.library cfg.binding s.debug_session_id off_request)
  let raw ← ask (.invoke_private .raw_request off)
  let response ← rethrow (logical_data cfg raw)
  if is_error raw || !status_ok response then raising .TransportError
  else write fun s => { s with measurement_active := false }

/-- `invoke_private` of a tool whose result is not read. -/
def invoke_checked (tool : Tool) (args : Arguments) : Routine Unit := do
  let raw ← ask (.invoke_private tool args)
  if is_error raw then raising .TransportError else pure ()

/-- One round of the loop over `restore_running`. -/
def resume_target (target : Str) : Routine Unit := do
  ask .admission_check
  refresh_targets cfg
  let s ← read
  if target ∉ s.current_targets then raising .AdmissionError
  else
    when (s.suspended target true)
      (invoke_checked .continue_ [(Python.text "targetId", .str target)])

def resume_targets : List Str → Routine Unit
  | [] => pure ()
  | target :: rest => do
    resume_target cfg target
    resume_targets rest

/-- The `try` of `cleanup_debugger`. -/
def undo : Routine Unit := do
  let s ← read
  when s.measurement_active (switch_off cfg)
  when s.breakpoints (invoke_checked .clear_breakpoints [])
  resume_targets cfg s.restore_running

/-- The `try` of its `finally`. -/
def detach : Routine Unit := do
  invoke_checked .detach []
  write fun s => { s with attach_attempted := false, attached := false }

def fail_cleanup : Routine Unit := write fun s => { s with cleanup_failed := true }

def cleanup_debugger : Routine Unit := do
  let s ← read
  if !s.attach_attempted then pure ()
  else
    let undone ← attempt (undo cfg)
    when (!undone.isOk) fail_cleanup
    let detached ← attempt detach
    when (!detached.isOk) fail_cleanup
    rethrow undone
    rethrow detached

/-! ## Calls -/

/-- `set(schema.get("properties", {}))` -/
def schema_properties : Python.Value → Except Raised (List Python.Value)
  | .dict schema => do
    let properties ← iterate (Python.get schema "properties")
    if properties.all hashable then return properties else throw .Exception
  | _ => throw .Exception

/-- The tool and the arguments of a call. -/
def admitted_call (params : Python.Value) : Except Raised (Tool × Arguments) :=
  match params with
  | .dict params =>
    match (Python.get params "arguments").getD (.dict []) with
    | .dict arguments =>
      let name := (Python.get params "name").getD .None
      let args := strip_routing_arguments (arguments.map fun entry => (.str entry.1, entry.2))
      if !hashable name then throw .Exception
      else
        match PUBLIC name with
        | none => throw .InvalidParams
        | some tool =>
          if args.any fun entry => RETARGET.any fun key => is_key key entry.1 then
            throw .InvalidParams
          else
            match cfg.tools.find? fun descriptor => is_str descriptor.1 name with
            | none => throw .Exception
            | some descriptor => do
              let properties ← schema_properties descriptor.2
              if args.any fun entry => !properties.any fun property =>
                  match entry.1 with
                  | .str key => is_str key property
                  | _ => false then throw .InvalidParams
              else if ← cfg.is_valid descriptor.2 args then return (tool, args)
              else throw .InvalidParams
    | _ => throw .InvalidParams
  | _ => throw .InvalidParams

/-- The arguments of an attach are the provider's own. -/
def attach_arguments : Arguments :=
  [(Python.text "url", .str cfg.binding.endpoint),
    (Python.text "infobaseAlias", .str cfg.binding.infobase_alias),
    (Python.text "autoAttach", .bool false)] ++
    cfg.binding.password.toList.map fun password => (Python.text "password", .str password)

/-- An attach is tried once, and nothing else before it. -/
def attached_arguments (tool : Tool) (args : Arguments) : Routine Arguments := do
  let s ← read
  if tool = .attach then
    if s.attach_attempted then raising .AdmissionError
    else
      write fun s => { s with attach_attempted := true }
      pure (attach_arguments cfg)
  else if !s.attached then raising .AdmissionError
  else pure args

/-- `args["cmd"] == "setMeasureMode"` -/
def sets_measure_mode (args : Arguments) : Bool :=
  (args.get "cmd").any (is_key "setMeasureMode")

/-- The text is there and not empty. -/
def given (mode : Option Str) : Bool := mode.any fun text => !text.isEmpty

/-- The arguments of a native request, bound, with its mode of measurement. -/
def bound_request (tool : Tool) (args : Arguments) : Routine (Arguments × Option Str) :=
  if tool = .raw_request then do
    let s ← read
    let (args, mode) ← rethrow
      (bind_raw_arguments cfg.library cfg.binding s.debug_session_id args)
    when (sets_measure_mode args && given mode)
      (write fun s => { s with measurement_active := true })
    pure (args, mode)
  else pure (args, none)

/-- `self.restore_running.add(target)` -/
def DebuggerState.add_running (s : DebuggerState) (target : Str) : DebuggerState :=
  if target ∈ s.restore_running then s
  else { s with restore_running := s.restore_running ++ [target] }

/-- A target that runs and may be suspended is noted. -/
def note_running (tool : Tool) : Option Str → Routine Unit
  | some target => do
    let s ← read
    when (tool.suspends && s.suspended target false) (write fun s => s.add_running target)
  | none => pure ()

/-- What a call does before it is forwarded. -/
def prepare_call (tool : Tool) (target : Option Str) : Routine Unit := do
  let s ← read
  if tool.inspects && !target.any (fun target => target ∈ s.stopped) then raising .AdmissionError
  else
    note_running tool target
    when (tool = .wait_for_stop) (write fun s => { s with stopped := [] })

/-- The representations of a result: its contents and what is structured. -/
def representations (result : Entries) : List Python.Value :=
  (match Python.get result "content" with
    | some (.list content) => content
    | _ => []) ++ (Python.get result "structuredContent").toList

/-- `isinstance(candidate, dict) and candidate.get("targetId") != target` -/
def tells_other (target : Str) : Python.Value → Bool
  | .dict candidate => !is_str target ((Python.get candidate "targetId").getD .None)
  | _ => false

def after_attach (raw : Entries) : Routine Entries :=
  if is_error raw then raising .AdmissionError
  else do
    let data ← rethrow (logical_data cfg raw)
    match Python.get data "sessionId" with
    | none => raising .AdmissionError
    | some session_id =>
      write fun s => { s with debug_session_id := session_id, attached := true }
      pure [(Str.of "status", Python.text "attached")]

def after_get_targets (raw : Entries) : Routine Entries := do
  let rows ← rethrow (target_rows cfg raw)
  let targets ← rethrow (allowed_targets cfg rows)
  write fun s => { s with current_targets := targets.map Prod.fst }
  let rows ← rethrow (normalized cfg.library.toLibrary (.list rows))
  pure [(Str.of "targets", rows)]

def after_wait_for_stop (raw result : Entries) : Routine Entries := do
  let data ← rethrow (logical_data cfg raw)
  let reported := (Python.get data "targetId").getD .None
  refresh_targets cfg
  let s ← read
  match ← rethrow (target_in s.current_targets reported) with
  | none => raising .PolicyDenied
  | some target =>
    write fun s => { s with stopped := [target] }
    if (representations result).any (tells_other target) then raising .PolicyDenied
    else pure result

/-- What any other tool leaves when it succeeds. -/
def after_success (tool : Tool) (args : Arguments) (mode : Option Str) (target : Option Str)
    (raw : Entries) : Routine Unit :=
  match tool with
  | .raw_request => when (sets_measure_mode args && !given mode) (do
      let response ← rethrow (logical_data cfg raw)
      when (status_ok response) (write fun s => { s with measurement_active := false }))
  | .set_breakpoints => write fun s => { s with breakpoints := true }
  | .clear_breakpoints => write fun s => { s with breakpoints := false }
  | .continue_ | .step_in | .step_out | .pause =>
    write fun s => { s with stopped := s.stopped.filter fun stopped => some stopped ≠ target }
  | _ => pure ()

/-- What becomes of the answer to a call that was forwarded. -/
def process_result (tool : Tool) (args : Arguments) (mode : Option Str) (target : Option Str)
    (raw : Entries) : Routine Entries := do
  let result ← rethrow (payload cfg.library.toLibrary raw)
  match tool with
  | .attach => after_attach cfg raw
  | .get_targets => after_get_targets cfg raw
  | .wait_for_stop => if is_error raw then pure result else after_wait_for_stop cfg raw result
  | tool => do
    when (!is_error raw) (after_success cfg tool args mode target raw)
    pure result

/-- `_dispatch_call` from the binding of a call to its answer. -/
def forward_call (tool : Tool) (args : Arguments) : Routine Unit := do
  let (args, mode) ← bound_request cfg tool args
  let target ← checked_target cfg args
  prepare_call tool target
  ask .admission_check
  let raw ← ask (.relay_invoke tool args mode)
  let result ← process_result cfg tool args mode target raw
  ask (.respond (envelope cfg.library.floats result))

/-- The `try` of `_dispatch_call`. -/
def dispatch_body (params : Python.Value) : Routine Unit := do
  let s ← read
  if !s.dispatch_ready then raising .InvalidParams
  else
    let (tool, args) ← rethrow (admitted_call cfg params)
    ask .admission_check
    let args ← attached_arguments cfg tool args
    if tool = .detach then
      cleanup_debugger cfg
      write fun s => { s with dispatch_ready := false }
      ask (.respond (envelope cfg.library.floats [(Str.of "status", Python.text "detached")]))
    else forward_call cfg tool args

/-- `_dispatch_call` -/
def dispatch_call (params : Python.Value) : Routine Unit := do
  match ← attempt (dispatch_body cfg params) with
  | .ok () => pure ()
  | .error .CancelledError => write fun s => { s with dispatch_ready := false }
  | .error .TimeoutError => do
    write fun s => { s with dispatch_ready := false }
    ask .send_sdk_cancel
    ask (.terminal .CallCancelled)
  | .error exc => ask (.terminal exc)

/-- What happens to a provider: it is given a call, or the owner closes it to calls. -/
inductive Occurrence
  | call (params : Python.Value)
  | close

def occur : Occurrence → Routine Unit
  | .call params => dispatch_call cfg params
  | .close => write fun s => { s with dispatch_ready := false }

end SessionManager.Debugger
