import SessionManager.Dispatcher
import SessionManager.Effect.Handle

/-!
# What a call puts on the wire

A call over a dispatcher sends its own `tool.call` and possibly a `tool.cancel`, and it drains
neither the connection nor the dispatcher (`enqueue_sends`).
-/

namespace SessionManager

open Json Effect

/-- Part of `drain_pending`. -/
def ConnOp.drains : ∀ {β : Type}, ConnOp β → Prop
  | _, .store_disconnected | _, .pending_drain | _, .drop_senders _ | _, .outbound_take => True
  | _, _ => False

/-- Drains nothing, and sends requests with these methods and parameters only. -/
def ConnOp.Sends (sends : String → Value → Prop) : ∀ {β : Type}, ConnOp β → Prop
  | _, .outbound_send (.request _ method params) => sends method params
  | _, .outbound_send _ => False
  | _, op => ¬ op.drains

variable {ι : Type}

def DispOp.drains : ∀ {β : Type}, DispOp ι β → Prop
  | _, .conn op => op.drains
  | _, .store_drained => True
  | _, _ => False

def DispOp.Sends (sends : String → Value → Prop) : ∀ {β : Type}, DispOp ι β → Prop
  | _, .conn op => op.Sends sends
  | _, op => ¬ op.drains

variable {sends sends' : String → Value → Prop} {β : Type}

theorem ConnOp.Sends.spares {op : ConnOp β} (only : op.Sends sends) : ¬ op.drains := by
  cases op with
  | outbound_send msg => exact not_false
  | _ => exact only

theorem DispOp.Sends.spares {op : DispOp ι β} (only : op.Sends sends) : ¬ op.drains := by
  cases op with
  | conn op => exact ConnOp.Sends.spares only
  | _ => exact only

theorem ConnOp.Sends.mono (weaken : ∀ method params, sends method params → sends' method params)
    {op : ConnOp β} (only : op.Sends sends) : op.Sends sends' := by
  cases op with
  | outbound_send msg =>
    cases msg with
    | request id method params => exact weaken method params only
    | response | notification => cases only
  | _ => exact only

theorem dispatch_request_sends (method : String) (params : Value) :
    (ConnectionHandle.dispatch_request method params).Only
      (ConnOp.Sends fun method' params' => method' = method ∧ params' = params) := by
  unfold ConnectionHandle.dispatch_request ConnectionHandle.fresh_id
  refine ⟨id, fun state => ?_⟩
  cases state with
  | Disconnected => trivial
  | Active =>
    refine ⟨id, fun n => ⟨id, fun rx => ⟨id, fun _ => ⟨⟨rfl, rfl⟩, fun sent => ?_⟩⟩⟩⟩
    cases sent with
    | accepted => trivial
    | receiver_gone | no_sender => exact ⟨id, fun _ => trivial⟩

/-- The messages of a call. -/
def ToolCallParams.Messages (params : ToolCallParams) (method : String) (value : Value) : Prop :=
  method = methods.TOOL_CALL ∧ value = params.to_value ∨ method = methods.TOOL_CANCEL

section Call

variable (params : ToolCallParams) (deadline : Option Nat)

theorem on_terminal_sends (req_id : Id) (terminal : Terminal) :
    (on_terminal req_id terminal : Prog (DispOp ι) _).Only (DispOp.Sends params.Messages) := by
  cases terminal with
  | response result => cases result <;> trivial
  | closed => trivial
  | deadline => exact ⟨id, fun _ => trivial⟩

theorem send_tool_cancel_sends (req_id : Id) :
    (send_tool_cancel req_id : Prog (DispOp ι) _).Only (DispOp.Sends params.Messages) := by
  have sent : ((ConnectionHandle.dispatch_request methods.TOOL_CANCEL (cancel_params req_id)).lift
      DispOp.conn : Prog (DispOp ι) _).Only (DispOp.Sends params.Messages) :=
    Prog.only_lift.mpr ((dispatch_request_sends _ _).mono fun _ only =>
      ConnOp.Sends.mono (fun _ _ same => .inr same.1) only)
  unfold send_tool_cancel
  refine sent.bind fun result => ?_
  cases result with
  | ok sent => exact ⟨id, fun _ => trivial⟩
  | error error => trivial

theorem await_terminal_sends (req_id : Id) (rx : Nat) :
    (await_terminal req_id rx deadline : Prog (DispOp ι) _).Only
      (DispOp.Sends params.Messages) := by
  unfold await_terminal
  refine ⟨id, fun wake => ?_⟩
  cases wake with
  | terminal terminal => exact on_terminal_sends params req_id terminal
  | cancelled =>
    exact (send_tool_cancel_sends params req_id).bind fun _ =>
      ⟨id, fun terminal => on_terminal_sends params req_id terminal⟩

theorem run_tool_call_sends :
    (run_tool_call params deadline : Prog (DispOp ι) _).Only (DispOp.Sends params.Messages) := by
  have sent : ((ConnectionHandle.dispatch_request methods.TOOL_CALL params.to_value).lift
      DispOp.conn : Prog (DispOp ι) _).Only (DispOp.Sends params.Messages) :=
    Prog.only_lift.mpr ((dispatch_request_sends _ _).mono fun _ only =>
      ConnOp.Sends.mono (fun _ _ same => .inl same) only)
  unfold run_tool_call
  refine sent.bind fun result => ?_
  cases result with
  | ok sent =>
    exact (await_terminal_sends params deadline _ _).bind fun _ => ⟨id, fun _ => trivial⟩
  | error error => trivial

theorem enqueue_admitted_sends :
    (enqueue_admitted params deadline : Prog (DispOp ι) _).Only (DispOp.Sends params.Messages) := by
  unfold enqueue_admitted
  refine ⟨id, fun state => ?_⟩
  cases state with
  | Drained => trivial
  | Open =>
    exact ⟨id, fun _ => (run_tool_call_sends params deadline).bind fun _ => ⟨id, fun _ => trivial⟩⟩

theorem acquire_sends :
    (acquire deadline : Prog (DispOp ι) _).Only (DispOp.Sends params.Messages) := by
  unfold acquire
  refine ⟨id, fun poll => ?_⟩
  cases poll with
  | ready admission => trivial
  | queued => exact ⟨id, fun _ => trivial⟩

/-- **A call sends its `tool.call` or a `tool.cancel`, and drains nothing.** -/
theorem enqueue_sends :
    (SessionDispatcher.enqueue params deadline : Prog (DispOp ι) _).Only
      (DispOp.Sends params.Messages) := by
  unfold SessionDispatcher.enqueue
  refine ⟨id, fun state => ?_⟩
  cases state with
  | Drained => trivial
  | Open =>
    refine (acquire_sends params deadline).bind fun admission => ?_
    cases admission with
    | cancelled | deadline => trivial
    | acquired permit =>
      cases permit with
      | false => trivial
      | true =>
        exact (enqueue_admitted_sends params deadline).bind fun _ => ⟨id, fun _ => trivial⟩

end Call

end SessionManager
