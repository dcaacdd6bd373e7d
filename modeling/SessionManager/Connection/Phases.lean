import SessionManager.Connection
import SessionManager.Effect.Pool

/-!
# Phases of the connection's methods

The tasks that share one `ConnectionHandle`, and the automaton their programs
follow.  A phase records what a task has read so far; `connProtocol` says which
atomic section each phase performs next.
-/

namespace SessionManager

open Json Effect

/-- What may run concurrently on one handle. -/
inductive ConnTask
  | dispatch_request (method : String) (params : Value)
  | complete_response (id : Id) (result : RpcResult)
  | cancel_pending (id : Id)
  | drain_pending
  | drop_receiver (rx : Nat)
  | close_writer

inductive ConnReturn
  | dispatched (result : Except ConnectionCallError (Id × Nat))
  | completed (known : Bool)
  | done

def ConnTask.prog : ConnTask → Prog ConnOp ConnReturn
  | .dispatch_request method params => do
      return .dispatched (← ConnectionHandle.dispatch_request method params)
  | .complete_response id result => do
      return .completed (← ConnectionHandle.complete_response id result)
  | .cancel_pending id => do
      ConnectionHandle.cancel_pending id
      return .done
  | .drain_pending => do
      ConnectionHandle.drain_pending
      return .done
  | .drop_receiver rx => do
      Prog.perform (.drop_receiver rx)
      return .done
  | .close_writer => do
      Prog.perform .close_writer
      return .done

inductive ConnPhase
  | start (task : ConnTask)
  -- `dispatch_request`
  | active (method : String) (params : Value)
  | numbered (method : String) (params : Value) (n : Nat)
  | opened (method : String) (params : Value) (n rx : Nat)
  | inserted (method : String) (params : Value) (n rx : Nat)
  | rejected (n rx : Nat)
  | sent (n rx : Nat)
  | refused (error : ConnectionCallError)
  -- `complete_response`
  | taken (result : RpcResult) (tx : Nat)
  | completed (known : Bool)
  -- `drain_pending`
  | stored
  | emptied (txs : List Nat)
  | dropped
  | finished

def connProtocol : Protocol ConnOp ConnPhase where
  allows phase _ op :=
    match phase, op with
    | .start (.dispatch_request _ _), .load_state => True
    | .active _ _, .fetch_add_id => True
    | .numbered _ _ _, .oneshot_channel => True
    | .opened _ _ n rx, .pending_insert id tx => id = mgr_id n ∧ tx = rx
    | .inserted method params n _, .outbound_send msg =>
        msg = .request (mgr_id n) method params
    | .rejected n _, .pending_remove id => id = mgr_id n
    | .start (.complete_response id _), .pending_take id' => id' = id
    | .taken result tx, .oneshot_send tx' result' => tx' = tx ∧ result' = result
    | .start (.cancel_pending id), .pending_remove id' => id' = id
    | .start .drain_pending, .store_disconnected => True
    | .stored, .pending_drain => True
    | .emptied txs, .drop_senders txs' => txs' = txs
    | .dropped, .outbound_take => True
    | .start (.drop_receiver rx), .drop_receiver rx' => rx' = rx
    | .start .close_writer, .close_writer => True
    | _, _ => False
  next phase _ op :=
    match phase, op with
    | .start (.dispatch_request method params), .load_state => fun state =>
        match state with
        | .Active => .active method params
        | .Disconnected => .refused .Disconnected
    | .active method params, .fetch_add_id => fun n => .numbered method params n
    | .numbered method params n, .oneshot_channel => fun rx => .opened method params n rx
    | .opened method params n rx, .pending_insert _ _ => fun _ => .inserted method params n rx
    | .inserted _ _ n rx, .outbound_send _ => fun sent =>
        match sent with
        | .accepted => .sent n rx
        | .receiver_gone => .rejected n rx
        | .no_sender => .rejected n rx
    | .rejected _ _, .pending_remove _ => fun _ => .refused .WriterClosed
    | .start (.complete_response _ result), .pending_take _ => fun slot =>
        match slot with
        | some tx => .taken result tx
        | none => .completed false
    | .taken _ _, .oneshot_send _ _ => fun known => .completed known
    | .stored, .pending_drain => fun txs => .emptied txs
    | .start .drain_pending, .store_disconnected => fun _ => .stored
    | .emptied _, .drop_senders _ => fun _ => .dropped
    | _, _ => fun _ => .finished

/-! ## One section at a time

Which phase performs a section, and the phase it leads to. -/

namespace ConnPhase

variable {g : ConnPhase} {id : Id} {tx : Nat}

theorem of_load_state (allowed : connProtocol.allows g .load_state) :
    ∃ method params, g = .start (.dispatch_request method params) ∧
      connProtocol.next g .load_state .Active = .active method params ∧
      connProtocol.next g .load_state .Disconnected = .refused .Disconnected := by
  rcases g with task | _
  · cases task <;> first | exact ⟨_, _, rfl, rfl, rfl⟩ | exact allowed.elim
  all_goals exact allowed.elim

theorem of_store_disconnected (allowed : connProtocol.allows g .store_disconnected) :
    g = .start .drain_pending ∧ ∀ b, connProtocol.next g .store_disconnected b = .stored := by
  rcases g with task | _
  · cases task <;> first | exact ⟨rfl, fun _ => rfl⟩ | exact allowed.elim
  all_goals exact allowed.elim

theorem of_fetch_add_id (allowed : connProtocol.allows g .fetch_add_id) :
    ∃ method params, g = .active method params ∧
      ∀ n, connProtocol.next g .fetch_add_id n = .numbered method params n := by
  rcases g with task | _
  · cases task <;> exact allowed.elim
  all_goals first | exact ⟨_, _, rfl, fun _ => rfl⟩ | exact allowed.elim

theorem of_oneshot_channel (allowed : connProtocol.allows g .oneshot_channel) :
    ∃ method params n, g = .numbered method params n ∧
      ∀ rx, connProtocol.next g .oneshot_channel rx = .opened method params n rx := by
  rcases g with task | _
  · cases task <;> exact allowed.elim
  all_goals first | exact ⟨_, _, _, rfl, fun _ => rfl⟩ | exact allowed.elim

theorem of_pending_insert (allowed : connProtocol.allows g (.pending_insert id tx)) :
    ∃ method params n, g = .opened method params n tx ∧ id = mgr_id n ∧
      ∀ b, connProtocol.next g (.pending_insert id tx) b = .inserted method params n tx := by
  rcases g with task | _
  · cases task <;> exact allowed.elim
  all_goals first
    | obtain ⟨rfl, rfl⟩ := allowed; exact ⟨_, _, _, rfl, rfl, fun _ => rfl⟩
    | exact allowed.elim

theorem of_pending_remove (allowed : connProtocol.allows g (.pending_remove id)) :
    (g = .start (.cancel_pending id) ∧
      ∀ b, connProtocol.next g (.pending_remove id) b = .finished) ∨
    ∃ n rx, g = .rejected n rx ∧ id = mgr_id n ∧
      ∀ b, connProtocol.next g (.pending_remove id) b = .refused .WriterClosed := by
  rcases g with task | _
  · cases task <;> first | (cases allowed; exact .inl ⟨rfl, fun _ => rfl⟩) | exact allowed.elim
  all_goals first
    | cases allowed; exact .inr ⟨_, _, rfl, rfl, fun _ => rfl⟩
    | exact allowed.elim

theorem of_pending_take (allowed : connProtocol.allows g (.pending_take id)) :
    ∃ result, g = .start (.complete_response id result) ∧
      connProtocol.next g (.pending_take id) none = .completed false ∧
      ∀ tx, connProtocol.next g (.pending_take id) (some tx) = .taken result tx := by
  rcases g with task | _
  · cases task <;> first
      | (cases allowed; exact ⟨_, rfl, rfl, fun _ => rfl⟩)
      | exact allowed.elim
  all_goals exact allowed.elim

theorem of_oneshot_send {result : RpcResult}
    (allowed : connProtocol.allows g (.oneshot_send tx result)) :
    g = .taken result tx ∧
      ∀ known, connProtocol.next g (.oneshot_send tx result) known = .completed known := by
  rcases g with task | _
  · cases task <;> exact allowed.elim
  all_goals first
    | obtain ⟨rfl, rfl⟩ := allowed; exact ⟨rfl, fun _ => rfl⟩
    | exact allowed.elim

theorem of_pending_drain (allowed : connProtocol.allows g .pending_drain) :
    g = .stored ∧ ∀ txs, connProtocol.next g .pending_drain txs = .emptied txs := by
  rcases g with task | _
  · cases task <;> exact allowed.elim
  all_goals first | exact ⟨rfl, fun _ => rfl⟩ | exact allowed.elim

theorem of_drop_senders {txs : List Nat} (allowed : connProtocol.allows g (.drop_senders txs)) :
    g = .emptied txs ∧ ∀ b, connProtocol.next g (.drop_senders txs) b = .dropped := by
  rcases g with task | _
  · cases task <;> exact allowed.elim
  all_goals first | cases allowed; exact ⟨rfl, fun _ => rfl⟩ | exact allowed.elim

theorem of_outbound_send {msg : WireMessage}
    (allowed : connProtocol.allows g (.outbound_send msg)) :
    ∃ method params n rx, g = .inserted method params n rx ∧
      msg = .request (mgr_id n) method params ∧
      connProtocol.next g (.outbound_send msg) .accepted = .sent n rx ∧
      ∀ sent, sent ≠ .accepted →
        connProtocol.next g (.outbound_send msg) sent = .rejected n rx := by
  rcases g with task | _
  · cases task <;> exact allowed.elim
  all_goals first
    | cases allowed
      refine ⟨_, _, _, _, rfl, rfl, rfl, fun sent refused => ?_⟩
      cases sent <;> first | rfl | exact absurd rfl refused
    | exact allowed.elim

theorem of_outbound_take (allowed : connProtocol.allows g .outbound_take) :
    g = .dropped ∧ ∀ b, connProtocol.next g .outbound_take b = .finished := by
  rcases g with task | _
  · cases task <;> exact allowed.elim
  all_goals first | exact ⟨rfl, fun _ => rfl⟩ | exact allowed.elim

theorem of_drop_receiver {rx : Nat} (allowed : connProtocol.allows g (.drop_receiver rx)) :
    g = .start (.drop_receiver rx) ∧
      ∀ b, connProtocol.next g (.drop_receiver rx) b = .finished := by
  rcases g with task | _
  · cases task <;> first | (cases allowed; exact ⟨rfl, fun _ => rfl⟩) | exact allowed.elim
  all_goals exact allowed.elim

theorem of_close_writer (allowed : connProtocol.allows g .close_writer) :
    g = .start .close_writer ∧ ∀ b, connProtocol.next g .close_writer b = .finished := by
  rcases g with task | _
  · cases task <;> first | exact ⟨rfl, fun _ => rfl⟩ | exact allowed.elim
  all_goals exact allowed.elim

end ConnPhase

/-- What a task returns tells the phase it ends in. -/
def ConnPhase.returns : ConnPhase → ConnReturn → Prop
  | .sent n rx, value => value = .dispatched (.ok (mgr_id n, rx))
  | .refused error, value => value = .dispatched (.error error)
  | .completed known, value => value = .completed known
  | .finished, value => value = .done
  | _, _ => False

/-- What `dispatch_request` returns tells the phase it ends in. -/
def ConnPhase.dispatched : ConnPhase → Except ConnectionCallError (Id × Nat) → Prop
  | .sent n rx, result => result = .ok (mgr_id n, rx)
  | .refused error, result => result = .error error
  | _, _ => False

theorem dispatch_request_follows (method : String) (params : Value) :
    connProtocol.Follows ConnPhase.dispatched (.start (.dispatch_request method params))
      (ConnectionHandle.dispatch_request method params) := by
  refine ⟨trivial, fun state => ?_⟩
  cases state with
  | Disconnected => rfl
  | Active =>
    refine ⟨trivial, fun n => ⟨trivial, fun rx => ⟨⟨rfl, rfl⟩, fun _ => ⟨rfl, fun sent => ?_⟩⟩⟩⟩
    cases sent with
    | accepted => rfl
    | receiver_gone => exact ⟨rfl, fun _ => rfl⟩
    | no_sender => exact ⟨rfl, fun _ => rfl⟩

/-- Every method of the handle follows the automaton. -/
theorem ConnTask.follows (task : ConnTask) :
    connProtocol.Follows ConnPhase.returns (.start task) task.prog := by
  cases task with
  | dispatch_request method params =>
    refine (dispatch_request_follows method params).bind fun g result ended => ?_
    cases g with
    | sent n rx => exact congrArg ConnReturn.dispatched ended
    | refused error => exact congrArg ConnReturn.dispatched ended
    | _ => exact ended.elim
  | complete_response id result =>
    refine ⟨rfl, fun slot => ?_⟩
    cases slot with
    | none => rfl
    | some tx => exact ⟨⟨rfl, rfl⟩, fun _ => rfl⟩
  | cancel_pending id => exact ⟨rfl, fun _ => rfl⟩
  | drain_pending =>
    exact ⟨trivial, fun _ => ⟨trivial, fun txs => ⟨rfl, fun _ => ⟨trivial, fun _ => rfl⟩⟩⟩⟩
  | drop_receiver rx => exact ⟨rfl, fun _ => rfl⟩
  | close_writer => exact ⟨trivial, fun _ => rfl⟩

/-- Tasks sharing one handle. -/
def connPool {ι : Type} (h : ConnectionHandle) (tasks : ι → ConnTask) :
    Pool ι ConnOp ConnectionHandle ConnReturn where
  shared := h
  thread i := (tasks i).prog

/-- Every atomic section is a function of the handle. -/
def connSemantics {ι : Type} : Semantics ι ConnOp ConnectionHandle :=
  fun _ h _ op answer h' => ConnOp.apply h op = (answer, h')

end SessionManager
