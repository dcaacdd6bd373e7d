import SessionManager.Effect.Pool
import SessionManager.Masking.Integrity

/-!
# The delivery of terminal events

The tasks that share the outbox: calls of `record_terminal` and the replay task.  One task has the
outbox at a time; the service may answer it anything, a write may fail, and the process may die
between any two steps and start again from the file.  A ledger follows what happens to the queue
over all the lives of the process.
-/

namespace SessionManager

open Json Effect

open Prog (perform)

variable (crates : Crates)

/-! ## The tasks -/

/-- So many rounds of the task of `spawn_terminal_replay`. -/
def spawn_terminal_replay : Nat → Prog MaskOp Unit
  | 0 => return ()
  | rounds + 1 => do
    let events ← perform .lock_outbox
    MaskingGate.flush_terminal_locked crates events
    perform .unlock_outbox
    spawn_terminal_replay rounds

/-- A task that uses the outbox. -/
inductive OutboxTask
  | record (gate : MaskingGate) (event : TerminalRequest)
  | replay (rounds : Nat)

def OutboxTask.prog : OutboxTask → Prog MaskOp (Except String Unit)
  | .record gate event => gate.record_terminal crates event
  | .replay rounds => do
    spawn_terminal_replay crates rounds
    return .ok ()

/-- The events in memory and in the file, and who has locked them. -/
structure Outbox (ι : Type) where
  events : List TerminalRequest
  file : List TerminalRequest
  lock : Option ι

/-- The answers that a task may get.  The service may answer anything, or nothing; a write replaces
the file, or fails. -/
inductive MaskOp.Answers {ι : Type} (i : ι) (w : Outbox ι) :
    ∀ {β : Type}, MaskOp β → β → Outbox ι → Prop
  | new_uuid (uuid : String) : Answers i w .new_uuid uuid w
  | post (request : ServiceRequest) (answer : HttpAnswer) : Answers i w (.post request) answer w
  | lock_outbox (free : w.lock = none) : Answers i w .lock_outbox w.events { w with lock := some i }
  | persist (events : List TerminalRequest) :
    Answers i w (.persist events) true { w with events, file := events }
  | persist_failed (events : List TerminalRequest) : Answers i w (.persist events) false w
  | unlock_outbox : Answers i w .unlock_outbox () { w with lock := none }

/-- The runs of a process that starts from a file. -/
abbrev OutboxRun {ι : Type} [DecidableEq ι] (file : List TerminalRequest) (tasks : ι → OutboxTask) :
    List (PoolEvent ι MaskOp) → Pool ι MaskOp (Outbox ι) (Except String Unit) → Prop :=
  Pool.Run (fun i w _ e b w' => e.Answers i w b w') ⟨⟨file, file, none⟩, fun i => (tasks i).prog crates⟩

/-! ## What happened to the queue -/

/-- The body says that the service records the event. -/
def recorded_now (body : List UInt8) : Bool :=
  crates.terminal_response body |>.any fun response =>
    response.schema_version == 1 && response.status == "recorded"

/-- The body says that the service had recorded the event before. -/
def recorded_before (body : List UInt8) : Bool :=
  crates.service_error body |>.any fun error => error.code == "TERMINAL_ALREADY_RECORDED"

/-- The service acknowledges the event: it answers 200 and records it, or 409 because it has it. -/
def delivered : HttpAnswer → Bool
  | .unreachable | .elapsed => false
  | .reply status body =>
    body.length ≤ MAX_INTERNAL_BODY_BYTES &&
      (status == 200 && recorded_now crates body || status == 409 && recorded_before crates body)

/-- The gate takes an answer for an acknowledgement exactly when it is one. -/
theorem terminal_delivery_ack_eq (answer : HttpAnswer) :
    terminal_delivery_ack (read_answer crates crates.terminal_response answer) =
      delivered crates answer := by
  cases answer with
  | unreachable | elapsed => rfl
  | reply status body =>
    rw [read_answer, delivered]
    by_cases large : MAX_INTERNAL_BODY_BYTES < body.length
    · rw [if_pos large, decide_eq_false (Nat.not_le.mpr large)]
      rfl
    · rw [if_neg large, decide_eq_true (Nat.not_lt.mp large), Bool.true_and]
      by_cases ok : status = 200
      · subst ok
        rw [if_pos rfl, recorded_now]
        cases crates.terminal_response body <;> simp [terminal_delivery_ack]
      · rw [if_neg ok, beq_false_of_ne ok, recorded_before]
        cases crates.service_error body <;> simp [terminal_delivery_ack]

/-- The events that were written. -/
def written : Event MaskOp → Option (List TerminalRequest)
  | ⟨.persist events, true⟩ => some events
  | _ => none

/-- The events that were queued from the first on, how many of them are gone, and those that the
service acknowledged, once for each acknowledgement. -/
structure Ledger where
  enqueued : List TerminalRequest
  removed : Nat
  acknowledged : List TerminalRequest

namespace Ledger

def queue (ledger : Ledger) : List TerminalRequest := ledger.enqueued.drop ledger.removed

/-- A longer file has new events, a shorter one has lost its first ones. -/
def rewrite (ledger : Ledger) (events : List TerminalRequest) : Ledger :=
  { ledger with
    enqueued := ledger.enqueued ++ events.drop ledger.queue.length
    removed := ledger.removed + (ledger.queue.length - events.length) }

def enter (ledger : Ledger) : Event MaskOp → Ledger
  | ⟨.persist events, true⟩ => ledger.rewrite events
  | ⟨.post (.terminal event), answer⟩ =>
    if delivered crates answer then
      { ledger with acknowledged := ledger.acknowledged ++ [event] }
    else ledger
  | _ => ledger

def after {ι : Type} (ledger : Ledger) (tr : List (PoolEvent ι MaskOp)) : Ledger :=
  tr.foldl (fun ledger ev => ledger.enter crates ev.event) ledger

end Ledger

/-! ## Phases -/

/-- Does a task have the outbox, with which events, and was the first one just acknowledged? -/
inductive Hold
  | free
  | held (events : List TerminalRequest)
  | acked (events : List TerminalRequest)

/-- A task, and the events it has seen in the outbox. -/
structure OutboxPhase where
  hold : Hold
  seen : List TerminalRequest

def outboxProtocol : Protocol MaskOp OutboxPhase where
  allows phase _ op :=
    match phase.hold, op with
    | .free, .lock_outbox => True
    | .held events, .persist events' => ∃ event, events' = events ++ [event] ∧
        valid_terminal crates event = true ∧ event.call_id ∉ events.map TerminalRequest.call_id ∧
        events.length < MAX_TERMINAL_OUTBOX_EVENTS
    | .held events, .post request => ∃ event rest, events = event :: rest ∧ request = .terminal event
    | .held _, .unlock_outbox => True
    | .acked events, .persist events' => ∃ event, events = event :: events'
    | _, _ => False
  next phase _ op :=
    match phase.hold, op with
    | .free, .lock_outbox => fun events => ⟨.held events, phase.seen ++ events⟩
    | .held _, .persist events' => fun written =>
        if written then ⟨.held events', phase.seen ++ events'⟩ else phase
    | .held events, .post _ => fun answer =>
        if delivered crates answer then ⟨.acked events, phase.seen⟩ else phase
    | .held _, .unlock_outbox => fun _ => ⟨.free, phase.seen⟩
    | .acked events, .persist events' => fun written =>
        ⟨.held (if written then events' else events), phase.seen⟩
    | _, _ => fun _ => phase

/-- After a delivery the first event is acknowledged, or not. -/
def OutboxPhase.tried (events seen : List TerminalRequest)
    (result : Except ClientError TerminalResponse) : OutboxPhase :=
  ⟨if terminal_delivery_ack result then .acked events else .held events, seen⟩

section Phases

variable {crates} {events seen : List TerminalRequest}

theorem request_json_follows (event : TerminalRequest) (rest seen : List TerminalRequest) :
    (outboxProtocol crates).Follows (fun phase result => phase = .tried (event :: rest) seen result)
      ⟨.held (event :: rest), seen⟩
      (request_json crates crates.terminal_response (.terminal event)) := by
  rw [request_json]
  split
  · rfl
  · refine Protocol.follows_perform.mpr ⟨⟨event, rest, rfl, rfl⟩, fun answer => ?_⟩
    change (if delivered crates answer then (⟨.acked (event :: rest), seen⟩ : OutboxPhase)
      else ⟨.held (event :: rest), seen⟩) = _
    rw [OutboxPhase.tried, terminal_delivery_ack_eq]
    split <;> rfl

-- What an exchange does is known from here on; it is not computed again.
attribute [local irreducible] request_json

theorem terminal_follows (event : TerminalRequest) (rest seen : List TerminalRequest) :
    (outboxProtocol crates).Follows (fun phase result => phase = .tried (event :: rest) seen result)
      ⟨.held (event :: rest), seen⟩ (MaskingServiceClient.terminal crates event) := by
  rw [MaskingServiceClient.terminal, request_twice]
  have once := @request_json_follows crates event rest seen
  refine once.bind fun phase result ended => ?_
  subst ended
  cases result with
  | ok response => rfl
  | error error =>
    cases error with
    | Transport => exact once
    | _ => rfl

theorem flush_follows (events seen : List TerminalRequest) : (outboxProtocol crates).Follows
    (fun phase _ => ∃ events', phase = ⟨.held events', seen⟩)
    ⟨.held events, seen⟩ (MaskingGate.flush_terminal_locked crates events) := by
  induction events with
  | nil => exact ⟨[], rfl⟩
  | cons event rest ih =>
    rw [MaskingGate.flush_terminal_locked]
    refine (terminal_follows event rest seen).bind fun phase result ended => ?_
    subst ended
    rw [OutboxPhase.tried]
    cases acknowledged : terminal_delivery_ack result with
    | false => exact ⟨_, rfl⟩
    | true =>
      refine ⟨⟨event, rfl⟩, fun written => ?_⟩
      cases written with
      | false => exact ⟨_, rfl⟩
      | true => exact ih

/-- A task that has the outbox has seen its events; an event that was queued is one of them. -/
theorem TerminalOutbox.enqueue_follows (event : TerminalRequest) (covers : ∀ e ∈ events, e ∈ seen) :
    (outboxProtocol crates).Follows
      (fun phase result => ∃ events', phase.hold = .held events' ∧
        ∀ queue, result = .ok queue → queue = events' ∧ event ∈ phase.seen)
      ⟨.held events, seen⟩ (TerminalOutbox.enqueue crates events event) := by
  rcases TerminalOutbox.enqueue_cases crates events event with
    ⟨error, refused⟩ | ⟨member, known⟩ | ⟨valid, new, room, written⟩
  · rw [refused]
    exact ⟨events, rfl, nofun⟩
  · rw [known]
    refine ⟨events, rfl, fun queue ok => ?_⟩
    cases ok
    exact ⟨rfl, covers event member⟩
  · rw [written]
    refine ⟨⟨event, rfl, valid, new, room⟩, fun written => ?_⟩
    cases written with
    | false => exact ⟨events, rfl, nofun⟩
    | true =>
      refine ⟨events ++ [event], rfl, fun queue ok => ?_⟩
      cases ok
      have last := List.mem_append_right events (List.mem_singleton_self event)
      exact ⟨rfl, List.mem_append_right seen last⟩

/-- An event for which `record_terminal` succeeds was in the outbox. -/
theorem record_follows (gate : MaskingGate) (event : TerminalRequest) :
    (outboxProtocol crates).Follows (fun phase result => result = .ok () → event ∈ phase.seen)
      ⟨.free, []⟩ (gate.record_terminal crates event) := by
  rw [MaskingGate.record_terminal]
  split
  · exact nofun
  · refine Protocol.follows_perform.mpr ⟨trivial, fun events => ?_⟩
    refine (TerminalOutbox.enqueue_follows event fun e => List.mem_append_right []).bind ?_
    intro phase result ended
    obtain ⟨hold, seen⟩ := phase
    obtain ⟨events', held, queued⟩ := ended
    dsimp only at held
    subst held
    cases result with
    | error error => exact ⟨trivial, fun _ => nofun⟩
    | ok queue =>
      obtain ⟨rfl, member⟩ := queued queue rfl
      refine (flush_follows queue seen).bind fun phase _ ended => ?_
      obtain ⟨rest, rfl⟩ := ended
      exact ⟨trivial, fun _ _ => member⟩

theorem replay_follows (rounds : Nat) (seen : List TerminalRequest) :
    (outboxProtocol crates).Follows (fun _ _ => True) ⟨.free, seen⟩
      (spawn_terminal_replay crates rounds) := by
  induction rounds generalizing seen with
  | zero => trivial
  | succ rounds ih =>
    rw [spawn_terminal_replay]
    refine Protocol.follows_perform.mpr ⟨trivial, fun events => ?_⟩
    refine (flush_follows events _).bind fun phase _ ended => ?_
    obtain ⟨rest, rfl⟩ := ended
    exact ⟨trivial, fun _ => ih _⟩

theorem task_follows (task : OutboxTask) : (outboxProtocol crates).Follows (fun _ _ => True)
    ⟨.free, []⟩ (task.prog crates) := by
  cases task with
  | record gate event => exact (record_follows gate event).mono fun _ _ _ => trivial
  | replay rounds => exact (replay_follows rounds []).bind fun _ _ _ => trivial

end Phases

/-! ## The ledger -/

namespace Ledger

variable {crates} {ledger : Ledger} {event : TerminalRequest} {rest : List TerminalRequest}

/-- Acknowledgements follow the queue, and are at most one event ahead of the removals. -/
structure Ordered (ledger : Ledger) : Prop where
  enough : ledger.removed ≤ ledger.enqueued.length
  repeats : ∃ k, (k = ledger.removed ∨ k = ledger.removed + 1) ∧ k ≤ ledger.enqueued.length ∧
    Trace.Repeats (ledger.enqueued.take k) ledger.acknowledged

/-- The first event was acknowledged. -/
def headed (ledger : Ledger) : Prop :=
  Trace.Repeats (ledger.enqueued.take (ledger.removed + 1)) ledger.acknowledged

theorem rewrite_snoc (ledger : Ledger) (event : TerminalRequest) :
    ledger.rewrite (ledger.queue ++ [event]) =
      { ledger with enqueued := ledger.enqueued ++ [event] } := by
  rw [rewrite, List.drop_left, List.length_append, Nat.sub_eq_zero_of_le (Nat.le_add_right ..)]
  rfl

theorem rewrite_tail (first : ledger.queue = event :: rest) :
    ledger.rewrite rest = { ledger with removed := ledger.removed + 1 } := by
  have none : rest.drop (event :: rest).length = [] := List.drop_of_length_le (Nat.le_succ _)
  rw [rewrite, first, none, List.append_nil, List.length_cons, Nat.add_sub_cancel_left]

theorem Ordered.queue_snoc (ordered : ledger.Ordered) (event : TerminalRequest) :
    (ledger.rewrite (ledger.queue ++ [event])).queue = ledger.queue ++ [event] := by
  rw [rewrite_snoc, queue, queue, List.drop_append_of_le_length ordered.enough]

theorem queue_tail (first : ledger.queue = event :: rest) : (ledger.rewrite rest).queue = rest := by
  rw [rewrite_tail first, queue, ← List.drop_drop, ← queue, first]
  rfl

/-- The first event is the next one to go. -/
theorem take_succ (first : ledger.queue = event :: rest) :
    ledger.removed + 1 ≤ ledger.enqueued.length ∧
      ledger.enqueued.take (ledger.removed + 1) = ledger.enqueued.take ledger.removed ++ [event] := by
  rw [queue] at first
  constructor
  · by_contra short
    rw [List.drop_of_length_le (by omega)] at first
    cases first
  · rw [List.take_add_one, ← List.head?_drop, first]
    rfl

theorem Ordered.snoc (ordered : ledger.Ordered) (event : TerminalRequest) :
    (ledger.rewrite (ledger.queue ++ [event])).Ordered := by
  obtain ⟨enough, k, near, short, repeats⟩ := ordered
  rw [rewrite_snoc]
  refine ⟨?_, k, near, ?_, ?_⟩
  · rw [List.length_append]
    exact Nat.le_add_right_of_le enough
  · rw [List.length_append]
    exact Nat.le_add_right_of_le short
  · rwa [List.take_append_of_le_length short]

/-- The acknowledged first event goes. -/
theorem headed.tail (headed : ledger.headed) (first : ledger.queue = event :: rest) :
    (ledger.rewrite rest).Ordered := by
  have enough := (take_succ first).1
  rw [rewrite_tail first]
  exact ⟨enough, _, .inl rfl, enough, headed⟩

/-- The first event is acknowledged, perhaps once more. -/
theorem Ordered.headed (ordered : ledger.Ordered) (first : ledger.queue = event :: rest) :
    ({ ledger with acknowledged := ledger.acknowledged ++ [event] } : Ledger).headed := by
  obtain ⟨-, k, near, -, repeats⟩ := ordered
  have next := (take_succ first).2
  rw [Ledger.headed, next]
  rcases near with rfl | rfl
  · exact .first event repeats
  · rw [next] at repeats
    exact .again repeats

theorem headed.ordered (headed : ledger.headed) (first : ledger.queue = event :: rest) :
    ledger.Ordered :=
  ⟨Nat.le_of_succ_le (take_succ first).1, _, .inr rfl, (take_succ first).1, headed⟩

theorem enter_persist (ledger : Ledger) (events : List TerminalRequest) :
    ledger.enter crates ⟨.persist events, true⟩ = ledger.rewrite events := rfl

theorem enter_post (ledger : Ledger) (event : TerminalRequest) (answer : HttpAnswer) :
    ledger.enter crates ⟨.post (.terminal event), answer⟩ =
      if delivered crates answer then
        { ledger with acknowledged := ledger.acknowledged ++ [event] }
      else ledger := rfl

/-- What was queued stays on record. -/
theorem enter_prefix (ledger : Ledger) (ev : Event MaskOp) :
    ledger.enqueued <+: (ledger.enter crates ev).enqueued := by
  obtain ⟨op, answer⟩ := ev
  cases op with
  | persist events =>
    cases answer with
    | true => exact List.prefix_append ..
    | false => exact List.prefix_rfl
  | post request =>
    cases request with
    | terminal event =>
      rw [enter_post]
      split
      · exact List.prefix_rfl
      · exact List.prefix_rfl
    | preflight | finalize => exact List.prefix_rfl
  | new_uuid | lock_outbox | unlock_outbox => exact List.prefix_rfl

theorem after_prefix {ι : Type} (ledger : Ledger) (tr : List (PoolEvent ι MaskOp)) :
    ledger.enqueued <+: (ledger.after crates tr).enqueued := by
  induction tr generalizing ledger with
  | nil => exact List.prefix_rfl
  | cons ev tr ih => exact (ledger.enter_prefix ev.event).trans (ih _)

theorem after_snoc {ι : Type} (ledger : Ledger) (past : List (PoolEvent ι MaskOp))
    (ev : PoolEvent ι MaskOp) :
    ledger.after crates (past ++ [ev]) = (ledger.after crates past).enter crates ev.event := by
  rw [after, List.foldl_append]
  rfl

end Ledger

/-! ## The invariant -/

section Delivery

variable {crates} {ι : Type} [DecidableEq ι]

/-- Every write of the outbox adds an event at its end, or drops the first one right after the
service acknowledged it. -/
def Justified (crates : Crates) (ledger : Ledger) (past : List (PoolEvent ι MaskOp)) : Prop :=
  ∀ a i events b, past = a ++ ⟨i, ⟨.persist events, true⟩⟩ :: b →
    (∃ event, events = (ledger.after crates a).queue ++ [event]) ∨
      ∃ event answer own, (ledger.after crates a).queue = event :: events ∧
        delivered crates answer = true ∧
        Pool.project i a = own ++ [⟨.post (.terminal event), answer⟩]

theorem Justified.snoc {ledger : Ledger} {past : List (PoolEvent ι MaskOp)} {i : ι} {β : Type}
    {op : MaskOp β} {answer : β} (justified : Justified crates ledger past)
    (write : ∀ events, written ⟨op, answer⟩ = some events →
      (∃ event, events = (ledger.after crates past).queue ++ [event]) ∨
        ∃ event answer own, (ledger.after crates past).queue = event :: events ∧
          delivered crates answer = true ∧
          Pool.project i past = own ++ [⟨.post (.terminal event), answer⟩]) :
    Justified crates ledger (past ++ [⟨i, ⟨op, answer⟩⟩]) := by
  intro a j events b split
  rcases Trace.snoc_eq_split.mp split with ⟨rfl, same, -⟩ | ⟨b', -, before⟩
  · obtain ⟨rfl, here⟩ := PoolEvent.mk.inj same
    exact write events (congrArg written here.symm)
  · exact justified a j events b' before

/-- The outbox has the queue of the ledger, and one task uses it. -/
structure Delivering (crates : Crates) (start : Ledger) (phase : ι → OutboxPhase) (w : Outbox ι)
    (past : List (PoolEvent ι MaskOp)) : Prop where
  events : w.events = (start.after crates past).queue
  file : w.file = (start.after crates past).queue
  intact : Intact crates (start.after crates past).queue
  ordered : (start.after crates past).Ordered
  hold : ∀ i, (phase i).hold = .free ∨
    w.lock = some i ∧ ((phase i).hold = .held w.events ∨ (phase i).hold = .acked w.events)
  acked : ∀ i events, (phase i).hold = .acked events → (start.after crates past).headed ∧
    ∃ event rest answer own, events = event :: rest ∧ delivered crates answer = true ∧
      Pool.project i past = own ++ [⟨.post (.terminal event), answer⟩]
  seen : ∀ i, ∀ event ∈ (phase i).seen, event ∈ (start.after crates past).enqueued
  justified : Justified crates start past

namespace Delivering

variable {start : Ledger} {phase : ι → OutboxPhase} {w w' : Outbox ι}
  {past : List (PoolEvent ι MaskOp)} {i : ι} {events seen : List TerminalRequest}

/-- While a task has the outbox, the others do not. -/
theorem others (held : Delivering crates start phase w past)
    (mine : w.lock = none ∨ (phase i).hold ≠ .free) {j : ι} (other : j ≠ i) :
    (phase j).hold = .free := by
  rcases held.hold j with free | ⟨lock, -⟩
  · exact free
  · rcases mine with unlocked | mine
    · cases unlocked.symm.trans lock
    · rcases held.hold i with free | ⟨lock', -⟩
      · exact absurd free mine
      · cases lock'.symm.trans lock
        exact absurd rfl other

/-- What is to be checked when the one task that uses the outbox takes a step. -/
theorem advance {β : Type} {op : MaskOp β} {answer : β} {next : OutboxPhase} {ledger : Ledger}
    (held : Delivering crates start phase w past)
    (mine : w.lock = none ∨ (phase i).hold ≠ .free)
    (entered : (start.after crates past).enter crates ⟨op, answer⟩ = ledger)
    (events : w'.events = ledger.queue) (file : w'.file = ledger.queue)
    (intact : Intact crates ledger.queue) (ordered : ledger.Ordered)
    (hold : next.hold = .free ∨
      w'.lock = some i ∧ (next.hold = .held w'.events ∨ next.hold = .acked w'.events))
    (acked : ∀ events, next.hold = .acked events → ledger.headed ∧
      ∃ event rest answer' own, events = event :: rest ∧ delivered crates answer' = true ∧
        Pool.project i past ++ [⟨op, answer⟩] = own ++ [⟨.post (.terminal event), answer'⟩])
    (seen : ∀ event ∈ next.seen, event ∈ ledger.enqueued)
    (write : ∀ events, written ⟨op, answer⟩ = some events →
      (∃ event, events = (start.after crates past).queue ++ [event]) ∨
        ∃ event answer own, (start.after crates past).queue = event :: events ∧
          delivered crates answer = true ∧
          Pool.project i past = own ++ [⟨.post (.terminal event), answer⟩]) :
    Delivering crates start (Function.update phase i next) w' (past ++ [⟨i, ⟨op, answer⟩⟩]) := by
  have now : start.after crates (past ++ [⟨i, ⟨op, answer⟩⟩]) = ledger := by
    rw [Ledger.after_snoc, entered]
  have more := @Ledger.enter_prefix crates (start.after crates past) ⟨op, answer⟩
  rw [entered] at more
  constructor
  · rwa [now]
  · rwa [now]
  · rwa [now]
  · rwa [now]
  · intro j
    by_cases same : j = i
    · subst same
      rwa [Function.update_self]
    · rw [Function.update_of_ne same]
      exact .inl (held.others mine same)
  · intro j events' here
    by_cases same : j = i
    · subst same
      rw [Function.update_self] at here
      rw [now, Pool.project_snoc_self]
      exact acked events' here
    · rw [Function.update_of_ne same, held.others mine same] at here
      cases here
  · intro j event member
    rw [now]
    by_cases same : j = i
    · subst same
      rw [Function.update_self] at member
      exact seen event member
    · rw [Function.update_of_ne same] at member
      exact more.subset (held.seen j event member)
  · exact held.justified.snoc write

/-- The task that has the outbox, and with which events. -/
theorem holder (held : Delivering crates start phase w past)
    (here : (phase i).hold = .held events ∨ (phase i).hold = .acked events) :
    (phase i).hold ≠ .free ∧ w.lock = some i ∧ events = (start.after crates past).queue := by
  have mine := held.hold i
  rw [held.events] at mine
  rcases here with here | here
  · rw [here] at mine ⊢
    rcases mine with free | ⟨lock, same | same⟩
    · cases free
    · exact ⟨nofun, lock, Hold.held.inj same⟩
    · cases same
  · rw [here] at mine ⊢
    rcases mine with free | ⟨lock, same | same⟩
    · cases free
    · cases same
    · exact ⟨nofun, lock, Hold.acked.inj same⟩

/-- The outbox is locked: its events are what the task sees. -/
theorem locked (held : Delivering crates start phase w past) (here : phase i = ⟨.free, seen⟩)
    (free : w.lock = none) :
    Delivering crates start (Function.update phase i ⟨.held w.events, seen ++ w.events⟩)
      { w with lock := some i } (past ++ [⟨i, ⟨.lock_outbox, w.events⟩⟩]) := by
  refine held.advance (.inl free) rfl held.events held.file held.intact held.ordered
    (.inr ⟨rfl, .inl rfl⟩) nofun (fun event member => ?_) nofun
  rcases List.mem_append.mp member with earlier | queued
  · exact held.seen i event (by rwa [here])
  · rw [held.events] at queued
    exact List.mem_of_mem_drop queued

/-- A new event is written behind the others. -/
theorem appended (held : Delivering crates start phase w past) (here : phase i = ⟨.held events, seen⟩)
    {event : TerminalRequest} (valid : valid_terminal crates event = true)
    (new : event.call_id ∉ events.map TerminalRequest.call_id)
    (room : events.length < MAX_TERMINAL_OUTBOX_EVENTS) :
    Delivering crates start
      (Function.update phase i ⟨.held (events ++ [event]), seen ++ (events ++ [event])⟩)
      { w with events := events ++ [event], file := events ++ [event] }
      (past ++ [⟨i, ⟨.persist (events ++ [event]), true⟩⟩]) := by
  obtain ⟨mine, lock, rfl⟩ := held.holder (.inl (by rw [here]))
  have queue := held.ordered.queue_snoc event
  have enqueued := congrArg Ledger.enqueued ((start.after crates past).rewrite_snoc event)
  refine held.advance (.inr mine) (Ledger.enter_persist _ _) queue.symm queue.symm ?_ (held.ordered.snoc event)
    (.inr ⟨lock, .inl rfl⟩) nofun (fun e member => ?_) (fun events' same => ?_)
  · rw [queue]
    exact held.intact.snoc valid new room
  · rw [enqueued]
    rcases List.mem_append.mp member with earlier | queued
    · exact List.mem_append_left _ (held.seen i e (by rwa [here]))
    · rcases List.mem_append.mp queued with old | last
      · exact List.mem_append_left _ (List.mem_of_mem_drop old)
      · exact List.mem_append_right _ last
  · cases same
    exact .inl ⟨event, rfl⟩

/-- The first event is dropped; the service acknowledged it. -/
theorem dropped (held : Delivering crates start phase w past) {event : TerminalRequest}
    (here : phase i = ⟨.acked (event :: events), seen⟩) :
    Delivering crates start (Function.update phase i ⟨.held events, seen⟩)
      { w with events, file := events } (past ++ [⟨i, ⟨.persist events, true⟩⟩]) := by
  obtain ⟨mine, lock, first⟩ := held.holder (.inr (by rw [here]))
  obtain ⟨headed, _, _, answer, own, same, acknowledged, last⟩ := held.acked i _ (by rw [here])
  cases same
  have queue := Ledger.queue_tail first.symm
  have enqueued := congrArg Ledger.enqueued (Ledger.rewrite_tail first.symm)
  refine held.advance (.inr mine) (Ledger.enter_persist _ _) queue.symm queue.symm ?_ (headed.tail first.symm)
    (.inr ⟨lock, .inl rfl⟩) nofun (fun e member => ?_) (fun events' same => ?_)
  · rw [queue]
    exact (first ▸ held.intact).tail
  · rw [enqueued]
    exact held.seen i e (by rwa [here])
  · cases same
    exact .inr ⟨event, answer, own, first.symm, acknowledged, last⟩

/-- Nothing that matters happens. -/
theorem kept {β : Type} {op : MaskOp β} {answer : β} {next : OutboxPhase}
    (held : Delivering crates start phase w past)
    (here : (phase i).hold = .held events ∨ (phase i).hold = .acked events)
    (entered : (start.after crates past).enter crates ⟨op, answer⟩ = start.after crates past)
    (none : written ⟨op, answer⟩ = none) (still : next = ⟨.held events, (phase i).seen⟩) :
    Delivering crates start (Function.update phase i next) w (past ++ [⟨i, ⟨op, answer⟩⟩]) := by
  obtain ⟨mine, lock, queue⟩ := held.holder here
  subst still
  refine held.advance (.inr mine) entered held.events held.file held.intact held.ordered
    (.inr ⟨lock, .inl ?_⟩) nofun (held.seen i) (fun events' same => ?_)
  · rw [queue, held.events]
  · cases none.symm.trans same

/-- The service acknowledges the first event. -/
theorem acknowledged (held : Delivering crates start phase w past) {event : TerminalRequest}
    (here : phase i = ⟨.held (event :: events), seen⟩) {answer : HttpAnswer}
    (acknowledged : delivered crates answer = true) :
    Delivering crates start (Function.update phase i ⟨.acked (event :: events), seen⟩) w
      (past ++ [⟨i, ⟨.post (.terminal event), answer⟩⟩]) := by
  obtain ⟨mine, lock, first⟩ := held.holder (.inl (by rw [here]))
  have headed := held.ordered.headed first.symm
  refine held.advance (.inr mine) (if_pos acknowledged) held.events held.file held.intact
    (headed.ordered first.symm) (.inr ⟨lock, .inr ?_⟩) (fun events' same => ?_)
    (fun e member => held.seen i e (by rwa [here])) nofun
  · rw [first, held.events]
  · cases same
    exact ⟨headed, event, events, answer, _, rfl, acknowledged, rfl⟩

/-- The outbox is unlocked. -/
theorem unlocked (held : Delivering crates start phase w past) (here : phase i = ⟨.held events, seen⟩) :
    Delivering crates start (Function.update phase i ⟨.free, seen⟩) { w with lock := none }
      (past ++ [⟨i, ⟨.unlock_outbox, ()⟩⟩]) :=
  held.advance (.inr (held.holder (.inl (by rw [here]))).1) rfl held.events held.file held.intact
    held.ordered (.inl rfl) nofun (fun e member => held.seen i e (by rwa [here])) nofun

/-- **One step**, of whatever task, with whatever answer. -/
theorem step {β : Type} {op : MaskOp β} {answer : β} (held : Delivering crates start phase w past)
    (allowed : (outboxProtocol crates).allows (phase i) op) (answered : op.Answers i w answer w') :
    Delivering crates start
      (Function.update phase i ((outboxProtocol crates).next (phase i) op answer)) w'
      (past ++ [⟨i, ⟨op, answer⟩⟩]) := by
  rcases here : phase i with ⟨hold, seen⟩
  rw [here] at allowed
  cases answered with
  | new_uuid => cases hold <;> cases allowed
  | lock_outbox free =>
    cases hold with
    | free => exact held.locked here free
    | held | acked => cases allowed
  | unlock_outbox =>
    cases hold with
    | held events => exact held.unlocked here
    | free | acked => cases allowed
  | persist =>
    cases hold with
    | free => cases allowed
    | held events =>
      obtain ⟨event, rfl, valid, new, room⟩ := allowed
      exact held.appended here valid new room
    | acked events =>
      obtain ⟨event, rfl⟩ := allowed
      exact held.dropped here
  | persist_failed =>
    cases hold with
    | free => cases allowed
    | held events => exact held.kept (.inl (by rw [here])) rfl rfl (by rw [here]; rfl)
    | acked events => exact held.kept (.inr (by rw [here])) rfl rfl (by rw [here]; rfl)
  | post request answer =>
    cases hold with
    | free | acked => cases allowed
    | held events =>
      obtain ⟨event, rest, rfl, rfl⟩ := allowed
      cases result : delivered crates answer with
      | true =>
        have next : (outboxProtocol crates).next ⟨.held (event :: rest), seen⟩
            (.post (.terminal event)) answer = ⟨.acked (event :: rest), seen⟩ := if_pos result
        rw [next]
        exact held.acknowledged here result
      | false =>
        have refused : ¬ delivered crates answer = true := ne_true_of_eq_false result
        exact held.kept (.inl (by rw [here])) (if_neg refused) rfl (by rw [here]; exact if_neg refused)

end Delivering

variable {ledger : Ledger} {file : List TerminalRequest} {tasks : ι → OutboxTask}
  {tr : List (PoolEvent ι MaskOp)} {q : Pool ι MaskOp (Outbox ι) (Except String Unit)}

/-- **A whole run** of a process that starts from the queue of a ledger. -/
theorem delivering (loaded : file = ledger.queue) (intact : Intact crates file)
    (ordered : ledger.Ordered) (run : OutboxRun crates file tasks tr q) :
    Delivering crates ledger (Pool.phases (outboxProtocol crates) (fun _ => ⟨.free, []⟩) tr)
      q.shared tr := by
  refine (run.invariant (fun i => task_follows (tasks i)) ?_ fun _ _ => Delivering.step).1
  subst loaded
  exact ⟨rfl, rfl, intact, ordered, fun _ => .inl rfl, nofun, nofun, fun a _ _ _ same => by
    cases a <;> cases same⟩

/-- The events for which `record_terminal` succeeded. -/
def recorded (tasks : ι → OutboxTask) (q : Pool ι MaskOp (Outbox ι) (Except String Unit)) :
    Set TerminalRequest :=
  {event | ∃ i gate, tasks i = .record gate event ∧ q.thread i = .ret (.ok ())}

/-- They were queued. -/
theorem recorded_enqueued (loaded : file = ledger.queue) (intact : Intact crates file)
    (ordered : ledger.Ordered) (run : OutboxRun crates file tasks tr q) {event : TerminalRequest}
    (success : event ∈ recorded tasks q) : event ∈ (ledger.after crates tr).enqueued := by
  obtain ⟨i, gate, task, done⟩ := success
  have ended := run.project i
  dsimp only at ended
  rw [task, done] at ended
  have seen := (record_follows gate event).exec ended rfl
  rw [← Pool.phases_eq_after (outboxProtocol crates) (fun _ => ⟨.free, []⟩) tr i] at seen
  exact (delivering loaded intact ordered run).seen i event seen

end Delivery

/-! ## Lives -/

/-- The lives of the process up to now.  A life ends at any step, and the next one starts from the
file that it leaves.  It leaves a ledger, too, and the events that were recorded. -/
inductive Served : Ledger → List TerminalRequest → Set TerminalRequest → Prop
  | first {file : List TerminalRequest} (loaded : Intact crates file) : Served ⟨file, 0, []⟩ file ∅
  | life {ledger : Ledger} {file : List TerminalRequest} {accepted : Set TerminalRequest} {ι : Type}
    [DecidableEq ι] {tasks : ι → OutboxTask} {tr : List (PoolEvent ι MaskOp)}
    {q : Pool ι MaskOp (Outbox ι) (Except String Unit)} (before : Served ledger file accepted)
    (run : OutboxRun crates file tasks tr q) :
    Served (ledger.after crates tr) q.shared.file (accepted ∪ recorded tasks q)

section Served

variable {crates} {ledger : Ledger} {file : List TerminalRequest} {accepted : Set TerminalRequest}

theorem Ledger.Ordered.covers (ordered : ledger.Ordered) {event : TerminalRequest}
    (enqueued : event ∈ ledger.enqueued) : event ∈ ledger.queue ∨ event ∈ ledger.acknowledged := by
  obtain ⟨-, k, near, -, repeats⟩ := ordered
  rw [← List.take_append_drop ledger.removed ledger.enqueued] at enqueued
  rcases List.mem_append.mp enqueued with gone | queued
  · have ahead : ledger.removed ≤ k := by omega
    exact .inr (repeats.mem ((List.take_subset_take_left _ ahead) gone))
  · exact .inl queued

/-- What each life leaves to the next. -/
theorem Served.kept (served : Served crates ledger file accepted) :
    file = ledger.queue ∧ Intact crates file ∧ ledger.Ordered ∧
      ∀ event ∈ accepted, event ∈ ledger.enqueued := by
  induction served with
  | first loaded =>
    exact ⟨rfl, loaded, ⟨Nat.zero_le _, 0, .inl rfl, Nat.zero_le _, .nil⟩, nofun⟩
  | @life ledger file accepted ι _ tasks tr q before run ih =>
    obtain ⟨loaded, intact, ordered, earlier⟩ := ih
    have now := delivering loaded intact ordered run
    refine ⟨now.file, now.file ▸ now.intact, now.ordered, fun event member => ?_⟩
    rcases member with old | new
    · exact (ledger.after_prefix tr).subset (earlier event old)
    · exact recorded_enqueued loaded intact ordered run new

/-- **The delivery of terminal events.**  After whatever lives and at any step of the current one, an
event that was recorded is in the file or the service acknowledged it.  The file has what was queued
and not removed, and a restart finds it there; acknowledgements come in the order of the queue, and a
write removes nothing but the first event, right after its acknowledgement. -/
theorem terminal_delivery {ι : Type} [DecidableEq ι] {tasks : ι → OutboxTask}
    {tr : List (PoolEvent ι MaskOp)} {q : Pool ι MaskOp (Outbox ι) (Except String Unit)}
    (served : Served crates ledger file accepted) (run : OutboxRun crates file tasks tr q) :
    (∀ event ∈ accepted ∪ recorded tasks q,
        event ∈ q.shared.file ∨ event ∈ (ledger.after crates tr).acknowledged) ∧
      q.shared.file = (ledger.after crates tr).queue ∧ Reopens crates q.shared.file ∧
      (ledger.after crates tr).Ordered ∧ Justified crates ledger tr := by
  obtain ⟨loaded, intact, ordered, -⟩ := served.kept
  obtain ⟨left, sound, after, enqueued⟩ := (served.life run).kept
  refine ⟨fun event member => ?_, left, sound.reopens, after,
    (delivering loaded intact ordered run).justified⟩
  rw [left]
  exact after.covers (enqueued event member)

end Served

/-- One task, served by a service that records what it is sent. -/
def recording_service (i : Unit) (w : Outbox Unit) : ∀ {β : Type}, MaskOp β → Option (β × Outbox Unit)
  | _, .new_uuid => none
  | _, .post _ => some (.reply 200 [], w)
  | _, .lock_outbox => if w.lock = none then some (w.events, { w with lock := some i }) else none
  | _, .persist events => some (true, { w with events, file := events })
  | _, .unlock_outbox => some ((), { w with lock := none })

theorem recording_service_answers {i : Unit} {w w' : Outbox Unit} {β : Type} {op : MaskOp β} {answer : β}
    (served : recording_service i w op = some (answer, w')) : op.Answers i w answer w' := by
  cases op with
  | new_uuid => cases served
  | post request =>
    cases served
    exact .post request _
  | lock_outbox =>
    rw [recording_service, Option.ite_none_right_eq_some] at served
    obtain ⟨free, served⟩ := served
    cases served
    exact .lock_outbox free
  | persist events =>
    cases served
    exact .persist events
  | unlock_outbox =>
    cases served
    exact .unlock_outbox

def served_tasks (_ : Unit) : OutboxTask :=
  .record { enabled := true, internal_tools := [] } refused_call

/-- The event is recorded, delivered and removed. -/
def served_run :=
  Pool.play recording_service (List.replicate 5 ())
    ⟨⟨[], [], none⟩, fun i => (served_tasks i).prog permissive_crates⟩

set_option maxRecDepth 2000 in
theorem terminal_delivery_recorded :
    refused_call ∈ (Ledger.after permissive_crates ⟨[], 0, []⟩ served_run.1).acknowledged := by
  have run : OutboxRun permissive_crates [] served_tasks served_run.1 served_run.2 :=
    Pool.Run.play (fun _ _ _ _ _ _ => recording_service_answers) _ _
  have done : served_run.2.thread () = .ret (.ok ()) := rfl
  have emptied : served_run.2.shared.file = [] := rfl
  have delivery := (terminal_delivery (.first intact_nil) run).1 refused_call
    (.inr ⟨(), _, rfl, done⟩)
  rw [emptied] at delivery
  exact delivery.resolve_left List.not_mem_nil

end SessionManager
