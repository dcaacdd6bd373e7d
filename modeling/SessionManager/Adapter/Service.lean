import SessionManager.Adapter.Frames
import SessionManager.Effect.Pool
import SessionManager.Effect.Stateful

/-!
# The service of the adapter

`Service` and `activate` of `service.py`: a process that serves one activation at a time, and the
callers that ask for one.  They share a directory: a lock file, the request, its acknowledgement,
and a file for every request that was cancelled.  Each access to a file is a step of its own, and
every reading of the clock; anybody may be in between.
-/

namespace SessionManager.Activation

open Python (Str)

open Effect Method

/-! ## The directory -/

/-- `uuid.uuid4().hex`: every caller has its own, and none was there before. -/
inductive RequestId
  | caller (n : Nat)
  | earlier (n : Nat)
  deriving DecidableEq

/-- `self.status` -/
inductive Status
  | SDK_STARTING
  | STANDBY
  | ACTIVATING
  | ACTIVE
  | REVOKING
  | DESCRIPTOR_REQUALIFYING
  | DESCRIPTOR_INVALID
  | SDK_FAILED
  deriving DecidableEq

/-- `request.json`.  Two files have the same identity if they say the same. -/
structure Request where
  request_id : RequestId
  service_generation : Nat
  boot_id : Nat
  deadline : Nat
  config_path : Str
  config_identity : List Nat
  deriving DecidableEq

/-- `ack.json` -/
structure Ack where
  request_id : RequestId
  service_generation : Nat
  status : Status
  session_id : Str
  deriving DecidableEq

/-- Who takes the steps: the service, the task in it that publishes its status from time to time,
and the callers of `activate`. -/
inductive Party
  | service
  | heartbeat
  | caller (n : Nat)
  deriving DecidableEq

/-- The directory, the clock, and the status of the service. -/
structure World where
  /-- `time.monotonic()` -/
  now : Nat
  /-- Who holds `control.lock`. -/
  holder : Option Party
  request : Option Request
  ack : Option Ack
  cancelled : RequestId → Bool
  status : Status
  /-- The status in `health.json`, if the service has written it. -/
  health : Option Status

/-- What `health()` says. -/
inductive Health
  | paused
  | unknown
  | running (status : Status) (generation : Nat)

/-- What `check_request` reads of an activation beyond its request. -/
inductive Evidence
  | activation_config
  | binding
  | proof
  /-- `provider.verify_process(self.binding.data, proof)` -/
  | process

/-! ## Requests -/

/-- The steps of the service and of its callers.  A file that is missing answers `none`; a file that
cannot be read or written raises. -/
inductive FileOp : Type → Type
  /-- `fcntl.flock(fd, fcntl.LOCK_EX)` -/
  | acquire : FileOp (Except Raised Unit)
  /-- `os.close(fd)` -/
  | release : FileOp Unit
  /-- `time.monotonic()` -/
  | clock : FileOp Nat
  /-- `health()` -/
  | health : FileOp Health
  | read_request : FileOp (Except Raised (Option Request))
  /-- `(ROOT / 'request.json').exists()` -/
  | request_exists : FileOp Bool
  /-- `atomic('request.json', ..)` -/
  | replace_request (request : Request) : FileOp (Except Raised Unit)
  | read_ack : FileOp (Except Raised (Option Ack))
  /-- `atomic('ack.json', ..)` for a request and a session. -/
  | acknowledge (request : Request) (session_id : Str) : FileOp (Except Raised Unit)
  /-- `(ROOT / ('cancel-' + request_id + '.json')).exists()` -/
  | cancel_exists (request_id : RequestId) : FileOp Bool
  /-- `atomic('cancel-' + reqid + '.json', ..)` -/
  | cancel (request_id : RequestId) : FileOp (Except Raised Unit)
  | evidence (what : Evidence) : FileOp (Except Raised Unit)
  /-- The config, the binding and the receipt of a request, read and compared by `begin`. -/
  | qualify (request : Request) : FileOp (Except Raised Unit)
  /-- `self.status = status` -/
  | set_status (status : Status) : FileOp Unit
  /-- `self.accepted, self.status = True, 'ACTIVE'` for a request. -/
  | accept (request : Request) : FileOp Unit
  /-- `self.publish()` -/
  | publish : FileOp (Except Raised Unit)
  /-- `asyncio.sleep` -/
  | sleep : FileOp (Except Raised Unit)
  /-- `self.task.done()` -/
  | task_done : FileOp Bool
  /-- `sdk.provider._session_id`, if there is one. -/
  | session : FileOp (Option Str)
  /-- The task is cancelled, and waited for. -/
  | stop_task : FileOp (Except Raised Unit)
  /-- `sdk.invalid.is_set()` -/
  | invalid : FileOp Bool
  /-- `sdk.qualify()` -/
  | requalify : FileOp (Except Raised Unit)
  /-- `self.stop.wait()` -/
  | stopped : FileOp (Except Raised Unit)
  /-- `sdk.dirty` -/
  | dirty : FileOp Bool

/-- The generation of the service and the boot of its machine. -/
structure Config where
  generation : Nat
  boot_id : Nat

variable (cfg : Config)

/-- The acknowledgement of a request. -/
def ack_of (request : Request) (session_id : Str) : Ack where
  request_id := request.request_id
  service_generation := cfg.generation
  status := .ACTIVE
  session_id := session_id

/-- What a step answers in a directory, and what it leaves there. -/
def file_answers (who : Party) (w : World) : ∀ {β : Type}, FileOp β → β → World → Prop
  | _, .acquire, .ok _, w' => w.holder = none ∧ w' = { w with holder := some who }
  | _, .release, _, w' => w' = { w with holder := none }
  | _, .clock, t, w' => w.now ≤ t ∧ w' = { w with now := t }
  | _, .health, .running status generation, w' =>
    w.health = some status ∧ generation = cfg.generation ∧ w' = w
  | _, .read_request, .ok request, w' => request = w.request ∧ w' = w
  | _, .request_exists, there, w' => there = w.request.isSome ∧ w' = w
  | _, .replace_request request, .ok _, w' => w' = { w with request := some request }
  | _, .read_ack, .ok ack, w' => ack = w.ack ∧ w' = w
  | _, .acknowledge request session_id, .ok _, w' =>
    w' = { w with ack := some (ack_of cfg request session_id) }
  | _, .cancel_exists request_id, there, w' => there = w.cancelled request_id ∧ w' = w
  | _, .cancel request_id, .ok _, w' =>
    w' = { w with cancelled := Function.update w.cancelled request_id true }
  | _, .set_status status, _, w' => w' = { w with status := status }
  | _, .accept _, _, w' => w' = { w with status := .ACTIVE }
  | _, .publish, .ok _, w' => w' = { w with health := some w.status }
  | _, _, _, w' => w' = w

def file_sem : Semantics Party FileOp World := fun who w {_} e b w' => file_answers cfg who w e b w'

/-! ## Methods -/

/-- `with control():` -/
def control {S α : Type} (p : Method FileOp S Raised α) : Method FileOp S Raised α := do
  ask .acquire
  let ended ← attempt p
  observe .release
  rethrow ended

/-! ### Callers -/

/-- What `activate` returns. -/
inductive Answer
  | busy
  | unknown_not_ready
  | active (ack : Ack)
  | activation_expired

/-- A caller has no state of its own. -/
abbrev Caller (α : Type) := Method FileOp Unit Raised α

/-- What `activate` is called with, and what its config says. -/
structure Activate where
  timeout : Nat
  config_path : Str
  config_identity : List Nat

/-- `old` is not over, nor cancelled. -/
def pending (generation : Nat) : Option Request → Caller Bool
  | none => pure false
  | some old =>
    if old.service_generation = generation then do
      if (← observe .clock) < old.deadline then return !(← observe (.cancel_exists old.request_id))
      else return false
    else pure false

/-- The first locked section of `activate`: the generation and the deadline of the request it has
written, or what it returns at once. -/
def ask_activation (reqid : RequestId) (a : Activate) : Caller (Except Answer (Nat × Nat)) := do
  match ← observe .health with
  | .running .STANDBY generation =>
    if ← pending generation (← ask .read_request) then pure (.error .busy)
    else
      let deadline := (← observe .clock) + a.timeout
      ask (.replace_request ⟨reqid, generation, cfg.boot_id, deadline, a.config_path, a.config_identity⟩)
      pure (.ok (generation, deadline))
  | .running .ACTIVE _ | .running .ACTIVATING _ => pure (.error .busy)
  | _ => pure (.error .unknown_not_ready)

/-- The acknowledgement, if it is there in time and of this request. -/
def own_ack (reqid : RequestId) (generation deadline : Nat) : Caller (Option Ack) := do
  match ← ask .read_ack with
  | none => pure none
  | some ack => do
    let now ← observe .clock
    pure (if now < deadline && ack.request_id = reqid && ack.service_generation = generation &&
      ack.status = .ACTIVE then some ack else none)

/-- The loop of `activate`, and whether it is over after so many rounds. -/
def await_ack (reqid : RequestId) (generation deadline : Nat) : Nat → Caller (Option Answer)
  | 0 => pure none
  | rounds + 1 => do
    if (← observe .clock) < deadline then
      match ← own_ack reqid generation deadline with
      | some ack => pure (some (.active ack))
      | none => do
        ask .sleep
        await_ack reqid generation deadline rounds
    else pure (some .activation_expired)

/-- `activate`, up to so many rounds of its loop. -/
def activate (reqid : RequestId) (a : Activate) (rounds : Nat) : Caller (Option Answer) := do
  match ← control (ask_activation cfg reqid a) with
  | .error answer => pure (some answer)
  | .ok (generation, deadline) =>
    match ← attempt (await_ack reqid generation deadline rounds) with
    | .ok none => pure none
    | .ok (some (.active ack)) => pure (some (.active ack))
    | ended => do
      control (ask (.cancel reqid))
      rethrow ended

/-! ### The service -/

/-- The attributes of a `Service` that decide. -/
structure ServiceState where
  task : Bool
  request : Option Request
  accepted : Bool
  last_request : Option Request

def ServiceState.new : ServiceState := ⟨false, none, false, none⟩

/-- A method of the service. -/
abbrev Routine (α : Type) := Method FileOp ServiceState Raised α

/-- `self.request.fresh()` -/
def fresh_request : Routine Request := do
  let s ← read
  match s.request with
  | none => raising .Exception
  | some own =>
    match ← ask .read_request with
    | none => raising .Exception
    | some request => if request = own then pure own else raising .AdmissionError

/-- What `check_request` reads last. -/
def check_evidence : Routine Unit := do
  ask (.evidence .activation_config)
  ask (.evidence .binding)
  ask (.evidence .proof)
  ask (.evidence .process)

def check_deadline (request : Request) : Routine Unit := do
  if request.deadline ≤ (← observe .clock) then raising .AdmissionError else pure ()

def check_request : Routine Unit := do
  let request ← fresh_request
  if request.service_generation ≠ cfg.generation ∨ request.boot_id ≠ cfg.boot_id then
    raising .AdmissionError
  else
    if ← observe (.cancel_exists request.request_id) then raising .AdmissionError
    else
      let s ← read
      when (!s.accepted) (check_deadline request)
      check_evidence

/-- `finish`, as far as the activation goes. -/
def finish : Routine Unit := do
  let s ← read
  when s.task (do
    observe (.set_status .REVOKING)
    ask .publish
    ask .stop_task)
  write fun s => { s with task := false, request := none, accepted := false }

/-- What `begin` does under the lock. -/
def begin_locked : Routine Unit := do
  match ← ask .read_request with
  | none => raising .Exception
  | some request => do
    write fun s => { s with request := some request }
    ask (.qualify request)
    check_request cfg
    observe (.set_status .ACTIVATING)
    write fun s => { s with task := true }

/-- The locked section of `tick`: the acknowledgement of the request of an activation. -/
def acknowledge_locked (session_id : Str) : Routine Unit := do
  check_request cfg
  let s ← read
  match s.request with
  | none => raising .Exception
  | some request => do
    ask (.acknowledge request session_id)
    check_request cfg
    observe (.accept request)
    write fun s => { s with accepted := true }

/-- The `try` of `tick` for an activation that is there. -/
def attend : Routine Unit := do
  check_request cfg
  if ← observe .task_done then raising .TransportError
  else
    let s ← read
    if s.accepted then pure ()
    else
      match ← observe .session with
      | none => pure ()
      | some session_id => control (acknowledge_locked cfg session_id)

/-- The `try` of `tick` for a request that may be new. -/
def consider : Routine Unit := do
  match ← ask .read_request with
  | none => raising .Exception
  | some current =>
    let s ← read
    when (s.last_request ≠ some current) (do
      write fun s => { s with last_request := some current }
      control (begin_locked cfg))

/-- `except Exception:` -/
def on_exception (p handler : Routine Unit) : Routine Unit := do
  match ← attempt p with
  | .ok () => pure ()
  | .error .CancelledError => raising .CancelledError
  | .error _ => handler

/-- The end of `tick`, when the tools have changed. -/
def requalified : Routine Unit := do
  if ← observe .invalid then
    observe (.set_status .DESCRIPTOR_REQUALIFYING)
    ask .publish
    finish
    match ← attempt (ask .requalify) with
    | .error .AdmissionError => do
      observe (.set_status .DESCRIPTOR_INVALID)
      ask .publish
      ask .stopped
    | ended => rethrow ended
    observe (.set_status .STANDBY)
  else pure ()

/-- What `tick` does first: it attends to an activation, or looks for a request. -/
def tick_request : Routine Unit := do
  let s ← read
  if s.task then
    on_exception (attend cfg) (do
      finish
      observe (.set_status .STANDBY))
  else if ← observe .request_exists then
    on_exception (consider cfg) (do
      write fun s => { s with request := none }
      observe (.set_status .STANDBY))
  else pure ()

def tick : Routine Unit := do
  tick_request cfg
  requalified
  if ← observe .dirty then raising .TransportError else pure ()

/-- One round of the loops of `run`: a tick; or the end of an SDK and the start of the next one.  A
service that gives up instead takes no more steps. -/
def round : Routine Unit := do
  match ← attempt (do
    tick cfg
    ask .publish
    ask .sleep) with
  | .ok () => pure ()
  | .error _ => do
    let _ ← attempt finish
    observe (.set_status .SDK_FAILED)
    let _ ← attempt (ask .publish)
    observe (.set_status .SDK_STARTING)
    let _ ← attempt (ask .publish)
    observe (.set_status .STANDBY)

/-- So many rounds of `run`. -/
def serve : Nat → Routine Unit
  | 0 => pure ()
  | rounds + 1 => do
    round cfg
    serve rounds

/-- So many rounds of `heartbeat`. -/
def beat : Nat → Caller Unit
  | 0 => pure ()
  | rounds + 1 => do
    ask .publish
    ask .sleep
    beat rounds

/-! ## The processes together -/

/-- What has become of an `activate`: its answer, or the exception it raised, or nothing yet. -/
abbrev Outcome := Option (Except Raised Answer)

/-- How long the processes go on, and what the callers ask for. -/
structure Script where
  rounds : Party → Nat
  asks : Nat → Activate

def program (script : Script) : Party → Prog FileOp Outcome
  | .service => do
    let _ ← serve cfg (script.rounds .service) .new
    pure none
  | .heartbeat => do
    let _ ← beat (script.rounds .heartbeat) ()
    pure none
  | .caller n => do
    match ← activate cfg (.caller n) (script.asks n) (script.rounds (.caller n)) () with
    | (.ok answer, _) => pure (answer.map .ok)
    | (.error exc, _) => pure (some (.error exc))

def started (script : Script) (w : World) : Pool Party FileOp World Outcome :=
  ⟨w, program cfg script⟩

/-- A directory that no caller and no service of this generation has used. -/
structure World.Unused (w : World) : Prop where
  free : w.holder = none
  request : ∀ request, w.request = some request → ∀ n, request.request_id ≠ .caller n
  ack : ∀ ack, w.ack = some ack → ∀ n, ack.request_id ≠ .caller n
  cancelled : ∀ n, w.cancelled (.caller n) = false
  health : w.health = none

end SessionManager.Activation
