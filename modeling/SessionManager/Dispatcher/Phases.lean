import SessionManager.Dispatcher
import SessionManager.Effect.Pool

/-!
# Phases of a call in the dispatcher

The tasks that share a dispatcher and the connection of its session, and the automaton
their programs follow.  While a call runs a method of the connection, its phase is the
`Site` it runs it from together with the phase of the method; `DispPhase.settle` hands the
end of the method over to what comes next.

`DispPhase.stage` forgets everything but the call's standing with the admission permit
and the counter.
-/

namespace SessionManager

open Json Effect

/-- What may run concurrently on one dispatcher and its connection: calls, the reader task
delivering a response, the session being drained, the connection going away, a token being
cancelled, the clock. -/
inductive DispTask (ι : Type)
  | enqueue (params : ToolCallParams) (deadline : Option Nat)
  | drain
  | respond (id : Id) (result : RpcResult)
  | disconnect
  | close_writer
  | cancel (i : ι)
  | tick

inductive DispReturn
  | returned (result : Except DispatcherError ToolCallResult)
  | done

variable {ι : Type}

def DispTask.prog : DispTask ι → Prog (DispOp ι) DispReturn
  | .enqueue params deadline => do
      return .returned (← SessionDispatcher.enqueue params deadline)
  | .drain => do
      SessionDispatcher.drain
      return .done
  | .respond id result => do
      let _ ← (ConnTask.complete_response id result).prog.lift DispOp.conn
      return .done
  | .disconnect => do
      let _ ← ConnTask.drain_pending.prog.lift DispOp.conn
      return .done
  | .close_writer => do
      let _ ← ConnTask.close_writer.prog.lift DispOp.conn
      return .done
  | .cancel i => do
      Prog.perform (.cancel i)
      return .done
  | .tick => do
      Prog.perform .tick
      return .done

/-- Where a method of the connection is called from. -/
inductive Site
  | task
  | call (deadline : Option Nat)
  | cancel (n rx : Nat) (deadline : Option Nat)
  | cancel_drop (n rx : Nat) (deadline : Option Nat)
  | expire (rx : Nat)
  | drop_rx

inductive DispPhase (ι : Type)
  | start (task : DispTask ι)
  | checked (params : ToolCallParams) (deadline : Option Nat)
  | queued (params : ToolCallParams) (deadline : Option Nat)
  | held (params : ToolCallParams) (deadline : Option Nat)
  | verified (params : ToolCallParams) (deadline : Option Nat)
  | refused
  | conn (site : Site) (g : ConnPhase)
  | awaiting (n rx : Nat) (deadline : Option Nat)
  | cancel_sent (n rx : Nat) (deadline : Option Nat)
  | leaving
  | closing
  | turned_away (error : DispatcherError)
  | ended
  | finished

namespace DispPhase

/-- What a call does next when a method of the connection has ended. -/
def settle : Site → ConnPhase → DispPhase ι
  | .call deadline, .sent n rx => .awaiting n rx deadline
  | .call _, .refused _ => .leaving
  | .cancel n rx deadline, .sent _ rx' =>
      .conn (.cancel_drop n rx deadline) (.start (.drop_receiver rx'))
  | .cancel n rx deadline, .refused _ => .cancel_sent n rx deadline
  | .cancel_drop n rx deadline, .finished => .cancel_sent n rx deadline
  | .expire rx, .finished => .conn .drop_rx (.start (.drop_receiver rx))
  | .drop_rx, .finished => .leaving
  | site, g => .conn site g

/-- The phase a task starts in. -/
def of_task : DispTask ι → DispPhase ι
  | .respond id result => .conn .task (.start (.complete_response id result))
  | .disconnect => .conn .task (.start .drain_pending)
  | .close_writer => .conn .task (.start .close_writer)
  | task => .start task

/-- After the wait for the permit. -/
def after_admission (params : ToolCallParams) (deadline : Option Nat) : Admission → DispPhase ι
  | .cancelled => .turned_away .CancelledWhileQueued
  | .deadline => .turned_away .TimedOutWhileQueued
  | .acquired true => .held params deadline
  | .acquired false => .turned_away .SessionGone

/-- After the arms that leave the waiting loop. -/
def after_terminal (n rx : Nat) : Terminal → DispPhase ι
  | .deadline => .conn (.expire rx) (.start (.cancel_pending (mgr_id n)))
  | _ => .conn .drop_rx (.start (.drop_receiver rx))

def call_request (params : ToolCallParams) : ConnTask :=
  .dispatch_request methods.TOOL_CALL params.to_value

def cancel_request (n : Nat) : ConnTask :=
  .dispatch_request methods.TOOL_CANCEL (cancel_params (mgr_id n))

end DispPhase

open DispPhase in
def dispProtocol : Protocol (DispOp ι) (DispPhase ι) where
  allows phase _ op :=
    match phase, op with
    | .start (.enqueue _ _), .load_state => True
    | .checked _ deadline, .poll_admission deadline' => deadline' = deadline
    | .queued _ deadline, .resume_admission deadline' => deadline' = deadline
    | .held _ _, .load_state => True
    | .verified _ _, .fetch_add_inflight => True
    | .refused, .release_permit => True
    | .conn _ g, .conn op => connProtocol.allows g op
    | .awaiting _ rx deadline, .select rx' deadline' => rx' = rx ∧ deadline' = deadline
    | .cancel_sent _ rx deadline, .select_cancel_sent rx' deadline' =>
        rx' = rx ∧ deadline' = deadline
    | .leaving, .fetch_sub_inflight => True
    | .closing, .release_permit => True
    | .start .drain, .store_drained => True
    | .start (.cancel i), .cancel i' => i' = i
    | .start .tick, .tick => True
    | _, _ => False
  next phase _ op :=
    match phase, op with
    | .start (.enqueue params deadline), .load_state => fun state =>
        match state with
        | .Open => .checked params deadline
        | .Drained => .turned_away .SessionGone
    | .checked params deadline, .poll_admission _ => fun poll =>
        match poll with
        | .ready admission => after_admission params deadline admission
        | .queued => .queued params deadline
    | .queued params deadline, .resume_admission _ => fun admission =>
        after_admission params deadline admission
    | .held params deadline, .load_state => fun state =>
        match state with
        | .Open => .verified params deadline
        | .Drained => .refused
    | .verified params deadline, .fetch_add_inflight => fun _ =>
        .conn (.call deadline) (.start (call_request params))
    | .refused, .release_permit => fun _ => .turned_away .SessionGone
    | .conn site g, .conn op => fun answer => settle site (connProtocol.next g op answer)
    | .awaiting n rx deadline, .select _ _ => fun wake =>
        match wake with
        | .terminal terminal => after_terminal n rx terminal
        | .cancelled => .conn (.cancel n rx deadline) (.start (cancel_request n))
    | .cancel_sent n rx _, .select_cancel_sent _ _ => fun terminal => after_terminal n rx terminal
    | .leaving, .fetch_sub_inflight => fun _ => .closing
    | .closing, .release_permit => fun _ => .ended
    | _, _ => fun _ => .finished

/-- The results of a call that never got as far as being counted. -/
def QueuedResult : Except DispatcherError ToolCallResult → Prop
  | .error .CancelledWhileQueued | .error .TimedOutWhileQueued => True
  | _ => False

/-- What a task returns tells the phase it ends in. -/
def DispPhase.returns : DispPhase ι → DispReturn → Prop
  | .turned_away error, value => value = .returned (.error error)
  | .ended, value => ∃ result, value = .returned result ∧ ¬ QueuedResult result
  | .finished, value => value = .done
  | .conn .task _, value => value = .done
  | _, _ => False

namespace DispPhase

/-- A method that goes on is not handed over yet. -/
theorem settle_of_allows {site : Site} {g : ConnPhase} {β : Type} {op : ConnOp β}
    (allowed : connProtocol.allows g op) : (settle site g : DispPhase ι) = .conn site g := by
  cases g with
  | sent | refused | finished => exact allowed.elim
  | _ => cases site <;> rfl

end DispPhase

open DispPhase

/-- Running a method of the connection from a site, and going on where it is handed over. -/
theorem follows_conn {α β : Type} (site : Site) {g : ConnPhase} {p : Prog ConnOp α}
    {P : ConnPhase → α → Prop} {f : α → Prog (DispOp ι) β} {R : DispPhase ι → β → Prop}
    (follows : connProtocol.Follows P g p)
    (done : ∀ g a, P g a → dispProtocol.Follows R (settle site g) (f a)) :
    dispProtocol.Follows R (settle site g) (p.lift DispOp.conn >>= f) := by
  refine follows.embed (T := dispProtocol) (fun allowed => ?_) (fun c allowed => ?_) done
  · rw [settle_of_allows allowed]
    exact allowed
  · rw [settle_of_allows allowed]
    rfl

/-- The end of a call, before its receiver is dropped. -/
def Ended (rx : Nat) (g : DispPhase ι) (result : Except DispatcherError Value) : Prop :=
  g = .conn .drop_rx (.start (.drop_receiver rx)) ∧ ¬ QueuedResult (parse_outcome result)

theorem on_terminal_follows (n rx : Nat) (terminal : Terminal) :
    (dispProtocol (ι := ι)).Follows (Ended rx) (after_terminal n rx terminal)
      (on_terminal (mgr_id n) terminal) := by
  cases terminal with
  | response result =>
    cases result with
    | ok value =>
      refine ⟨rfl, ?_⟩
      simp only [parse_outcome]
      cases ToolCallResult.from_value value <;> exact id
    | error error =>
      refine ⟨rfl, ?_⟩
      split <;> exact id
  | closed => exact ⟨rfl, id⟩
  | deadline => exact ⟨rfl, fun _ => ⟨rfl, id⟩⟩

theorem send_tool_cancel_follows (n rx : Nat) (deadline : Option Nat) :
    (dispProtocol (ι := ι)).Follows (fun g _ => g = .cancel_sent n rx deadline)
      (.conn (.cancel n rx deadline) (.start (cancel_request n))) (send_tool_cancel (mgr_id n)) := by
  refine follows_conn (.cancel n rx deadline) (g := .start (cancel_request n))
    (dispatch_request_follows _ _) fun g result ended => ?_
  cases g with
  | sent n' rx' =>
    cases ended
    exact ⟨rfl, fun _ => rfl⟩
  | refused error =>
    cases ended
    exact rfl
  | _ => exact ended.elim

theorem await_terminal_follows (n rx : Nat) (deadline : Option Nat) :
    (dispProtocol (ι := ι)).Follows (Ended rx) (.awaiting n rx deadline)
      (await_terminal (mgr_id n) rx deadline) := by
  refine ⟨⟨rfl, rfl⟩, fun wake => ?_⟩
  cases wake with
  | terminal terminal => exact on_terminal_follows n rx terminal
  | cancelled =>
    refine (send_tool_cancel_follows n rx deadline).bind fun g _ ended => ?_
    subst ended
    exact ⟨⟨rfl, rfl⟩, fun terminal => on_terminal_follows n rx terminal⟩

theorem run_tool_call_follows (params : ToolCallParams) (deadline : Option Nat) :
    (dispProtocol (ι := ι)).Follows (fun g result => g = .leaving ∧ ¬ QueuedResult result)
      (.conn (.call deadline) (.start (call_request params))) (run_tool_call params deadline) := by
  refine follows_conn (.call deadline) (g := .start (call_request params))
    (dispatch_request_follows _ _) fun g result ended => ?_
  cases g with
  | sent n rx =>
    cases ended
    refine (await_terminal_follows n rx deadline).bind fun g outcome ended => ?_
    obtain ⟨rfl, running⟩ := ended
    exact ⟨rfl, fun _ => ⟨rfl, running⟩⟩
  | refused error =>
    cases ended
    refine ⟨rfl, ?_⟩
    cases error <;> exact id
  | _ => exact ended.elim

/-- Before the permit is given back: the call was refused, or counted and counted off. -/
def Admitted (g : DispPhase ι) (result : Except DispatcherError ToolCallResult) : Prop :=
  (g = .refused ∧ result = .error .SessionGone) ∨ (g = .closing ∧ ¬ QueuedResult result)

theorem enqueue_admitted_follows (params : ToolCallParams) (deadline : Option Nat) :
    (dispProtocol (ι := ι)).Follows Admitted (.held params deadline)
      (enqueue_admitted params deadline) := by
  refine ⟨trivial, fun state => ?_⟩
  cases state with
  | Drained => exact .inl ⟨rfl, rfl⟩
  | Open =>
    refine ⟨trivial, fun _ => (run_tool_call_follows params deadline).bind fun g result ended => ?_⟩
    obtain ⟨rfl, running⟩ := ended
    exact ⟨trivial, fun _ => .inr ⟨rfl, running⟩⟩

theorem enqueue_follows (params : ToolCallParams) (deadline : Option Nat) :
    (dispProtocol (ι := ι)).Follows
      (fun g result => g.returns (.returned result)) (.start (.enqueue params deadline))
      (SessionDispatcher.enqueue params deadline) := by
  have admitted : (dispProtocol (ι := ι)).Follows (fun g result => g.returns (.returned result))
      (.held params deadline) (do
        let result ← enqueue_admitted params deadline
        Prog.perform .release_permit
        return result) := by
    refine (enqueue_admitted_follows params deadline).bind fun g result ended => ?_
    rcases ended with ⟨rfl, rfl⟩ | ⟨rfl, running⟩
    · exact ⟨trivial, fun _ => rfl⟩
    · exact ⟨trivial, fun _ => ⟨result, rfl, running⟩⟩
  refine ⟨trivial, fun state => ?_⟩
  cases state with
  | Drained => rfl
  | Open =>
    refine ⟨rfl, fun poll => ?_⟩
    rcases poll with admission | _
    · rcases admission with _ | _ | permit
      · rfl
      · rfl
      · cases permit with
        | false => rfl
        | true => exact admitted
    · refine ⟨rfl, fun admission => ?_⟩
      rcases admission with _ | _ | permit
      · rfl
      · rfl
      · cases permit with
        | false => rfl
        | true => exact admitted

/-- Every task follows the automaton. -/
theorem DispTask.follows (task : DispTask ι) :
    dispProtocol.Follows returns (of_task task) task.prog := by
  have conn (method : ConnTask) : dispProtocol.Follows returns
      (settle .task (.start method) : DispPhase ι) (do
        let _ ← method.prog.lift DispOp.conn
        return .done) := by
    refine follows_conn _ method.follows fun g _ _ => ?_
    cases g <;> rfl
  cases task with
  | enqueue params deadline =>
    exact (enqueue_follows params deadline).bind fun g result ended => ended
  | respond id result => exact conn (.complete_response id result)
  | disconnect => exact conn .drain_pending
  | close_writer => exact conn .close_writer
  | drain => exact ⟨trivial, fun _ => rfl⟩
  | cancel i => exact ⟨rfl, fun _ => rfl⟩
  | tick => exact ⟨trivial, fun _ => rfl⟩

/-! ## One request at a time

Which phase performs a request. -/

namespace DispPhase

variable {g : DispPhase ι} {deadline : Option Nat} {rx : Nat}

theorem of_conn {β : Type} {op : ConnOp β} (allowed : dispProtocol.allows g (.conn op)) :
    ∃ site g', g = .conn site g' ∧ connProtocol.allows g' op := by
  rcases g with task | _
  · cases task <;> exact allowed.elim
  all_goals first | exact ⟨_, _, rfl, allowed⟩ | exact allowed.elim

theorem of_load_state (allowed : dispProtocol.allows g .load_state) :
    ∃ params deadline, g = .start (.enqueue params deadline) ∨ g = .held params deadline := by
  rcases g with task | _
  · cases task <;> first | exact ⟨_, _, .inl rfl⟩ | exact allowed.elim
  all_goals first | exact ⟨_, _, .inr rfl⟩ | exact allowed.elim

theorem of_store_drained (allowed : dispProtocol.allows g .store_drained) : g = .start .drain := by
  rcases g with task | _
  · cases task <;> first | rfl | exact allowed.elim
  all_goals exact allowed.elim

theorem of_poll_admission (allowed : dispProtocol.allows g (.poll_admission deadline)) :
    ∃ params, g = .checked params deadline := by
  rcases g with task | _
  · cases task <;> exact allowed.elim
  all_goals first | (cases allowed; exact ⟨_, rfl⟩) | exact allowed.elim

theorem of_resume_admission (allowed : dispProtocol.allows g (.resume_admission deadline)) :
    ∃ params, g = .queued params deadline := by
  rcases g with task | _
  · cases task <;> exact allowed.elim
  all_goals first | (cases allowed; exact ⟨_, rfl⟩) | exact allowed.elim

theorem of_fetch_add_inflight (allowed : dispProtocol.allows g .fetch_add_inflight) :
    ∃ params deadline, g = .verified params deadline := by
  rcases g with task | _
  · cases task <;> exact allowed.elim
  all_goals first | exact ⟨_, _, rfl⟩ | exact allowed.elim

theorem of_fetch_sub_inflight (allowed : dispProtocol.allows g .fetch_sub_inflight) :
    g = .leaving := by
  rcases g with task | _
  · cases task <;> exact allowed.elim
  all_goals first | rfl | exact allowed.elim

theorem of_release_permit (allowed : dispProtocol.allows g .release_permit) :
    g = .refused ∨ g = .closing := by
  rcases g with task | _
  · cases task <;> exact allowed.elim
  all_goals first | exact .inl rfl | exact .inr rfl | exact allowed.elim

theorem of_select (allowed : dispProtocol.allows g (.select rx deadline)) :
    ∃ n, g = .awaiting n rx deadline := by
  rcases g with task | _
  · cases task <;> exact allowed.elim
  all_goals first | (obtain ⟨rfl, rfl⟩ := allowed; exact ⟨_, rfl⟩) | exact allowed.elim

theorem of_select_cancel_sent (allowed : dispProtocol.allows g (.select_cancel_sent rx deadline)) :
    ∃ n, g = .cancel_sent n rx deadline := by
  rcases g with task | _
  · cases task <;> exact allowed.elim
  all_goals first | (obtain ⟨rfl, rfl⟩ := allowed; exact ⟨_, rfl⟩) | exact allowed.elim

theorem of_cancel {i : ι} (allowed : dispProtocol.allows g (.cancel i)) : g = .start (.cancel i) := by
  rcases g with task | _
  · cases task <;> first | (cases allowed; rfl) | exact allowed.elim
  all_goals exact allowed.elim

theorem of_tick (allowed : dispProtocol.allows g .tick) : g = .start .tick := by
  rcases g with task | _
  · cases task <;> first | rfl | exact allowed.elim
  all_goals exact allowed.elim

end DispPhase

/-! ## The system -/

/-- Tasks sharing a new dispatcher and a new connection. -/
def dispPool (tasks : ι → DispTask ι) : Pool ι (DispOp ι) (DispatcherWorld ι) DispReturn where
  shared := .new
  thread i := (tasks i).prog

/-- Every request is answered as soon as `DispOp.apply` has an answer. -/
def dispSemantics [DecidableEq ι] : Semantics ι (DispOp ι) (DispatcherWorld ι) :=
  fun i w _ op answer w' => DispOp.apply i w op = some (answer, w')

/-! ## Standing with the permit and the counter -/

inductive Stage
  | out
  | queued
  | held
  | counted
  | closing
  | done
  deriving DecidableEq

def DispPhase.stage : DispPhase ι → Stage
  | .queued _ _ => .queued
  | .held _ _ | .verified _ _ | .refused => .held
  | .conn .task _ => .out
  | .conn _ _ | .awaiting _ _ _ | .cancel_sent _ _ _ | .leaving => .counted
  | .closing => .closing
  | .ended => .done
  | _ => .out

/-- The call holds the admission permit. -/
def Stage.holds : Stage → Prop
  | .held | .counted | .closing => True
  | _ => False

theorem holds_of_counted {stage : Stage} (counted : stage = .counted) : stage.holds := by
  rw [counted]
  trivial

end SessionManager
