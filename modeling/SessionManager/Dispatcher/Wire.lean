import SessionManager.Dispatcher.Admission

/-!
# What calls put on the wire

A task sends nothing but its own `tool.call`, with the parameters it was enqueued with, and
after that at most one `tool.cancel`, for the id of that call.
-/

namespace SessionManager

open Json Effect DispPhase

variable {ι : Type} {g : DispPhase ι} {β : Type}

/-! ## Which method a call is sending -/

/-- The request a running `dispatch_request` has yet to send. -/
def ConnPhase.request : ConnPhase → Option (String × Value)
  | .start (.dispatch_request method params) => some (method, params)
  | .active method params | .numbered method params _ | .opened method params _ _
  | .inserted method params _ _ => some (method, params)
  | _ => none

theorem ConnPhase.request_next {g : ConnPhase} {op : ConnOp β} {answer : β}
    {request : String × Value} (allowed : connProtocol.allows g op)
    (next : (connProtocol.next g op answer).request = some request) : g.request = some request := by
  cases op with
  | load_state =>
    obtain ⟨method, params, rfl, active, refused⟩ := of_load_state allowed
    cases answer with
    | Active => exact next
    | Disconnected => cases next
  | fetch_add_id =>
    obtain ⟨method, params, rfl, -⟩ := of_fetch_add_id allowed
    exact next
  | oneshot_channel =>
    obtain ⟨method, params, n, rfl, -⟩ := of_oneshot_channel allowed
    exact next
  | pending_insert id tx =>
    obtain ⟨method, params, n, rfl, -, -⟩ := of_pending_insert allowed
    exact next
  | pending_remove id =>
    rcases of_pending_remove allowed with ⟨rfl, -⟩ | ⟨n, rx, rfl, -, -⟩ <;> cases next
  | pending_take id =>
    obtain ⟨result, rfl, -, -⟩ := of_pending_take allowed
    cases answer <;> cases next
  | outbound_send msg =>
    obtain ⟨method, params, n, rx, rfl, -, -, -⟩ := of_outbound_send allowed
    cases answer <;> cases next
  | store_disconnected =>
    obtain ⟨rfl, -⟩ := of_store_disconnected allowed
    cases next
  | oneshot_send tx result =>
    obtain ⟨rfl, -⟩ := of_oneshot_send allowed
    cases next
  | pending_drain =>
    obtain ⟨rfl, -⟩ := of_pending_drain allowed
    cases next
  | drop_senders txs =>
    obtain ⟨rfl, -⟩ := of_drop_senders allowed
    cases next
  | outbound_take =>
    obtain ⟨rfl, -⟩ := of_outbound_take allowed
    cases next
  | drop_receiver rx =>
    obtain ⟨rfl, -⟩ := of_drop_receiver allowed
    cases next
  | close_writer =>
    obtain ⟨rfl, -⟩ := of_close_writer allowed
    cases next

/-- The task is a call with these parameters. -/
def DispTask.calls : DispTask ι → ToolCallParams → Prop
  | .enqueue params _, params' => params' = params
  | _, _ => False

/-- The request a task sends from a site, if it sends any. -/
def Site.sends (task : DispTask ι) : Site → String × Value → Prop
  | .call _, request =>
      ∃ params, task.calls params ∧ request = (methods.TOOL_CALL, params.to_value)
  | .cancel n _ _, request => request = (methods.TOOL_CANCEL, cancel_params (mgr_id n))
  | _, _ => False

/-- The phase is one of the task: it carries the task's parameters, and a method running from a
site sends what the task sends from there. -/
def DispPhase.sited (task : DispTask ι) : DispPhase ι → Prop
  | .start task' => task' = task
  | .checked params _ | .queued params _ | .held params _ | .verified params _ => task.calls params
  | .conn site g => ∀ request, g.request = some request → site.sends task request
  | _ => True

variable {task : DispTask ι}

theorem DispPhase.sited_settle {site : Site} {g : ConnPhase}
    (sited : ∀ request, g.request = some request → site.sends task request) :
    (settle site g).sited task := by
  cases g with
  | sent | refused | finished => cases site <;> first | trivial | exact nofun
  | _ => cases site <;> exact sited

theorem DispPhase.sited_after_terminal (n rx : Nat) (terminal : Terminal) :
    (after_terminal n rx terminal).sited task := by
  cases terminal <;> exact nofun

theorem DispPhase.sited_after_admission {params : ToolCallParams} (deadline : Option Nat)
    (admission : Admission) (own : task.calls params) :
    (after_admission params deadline admission).sited task := by
  rcases admission with _ | _ | permit
  · trivial
  · trivial
  · cases permit with
    | true => exact own
    | false => trivial

theorem DispPhase.sited_next {op : DispOp ι β} {answer : β} (sited : g.sited task)
    (allowed : dispProtocol.allows g op) : (dispProtocol.next g op answer).sited task := by
  cases op with
  | conn op =>
    obtain ⟨site, g', rfl, allowed⟩ := of_conn allowed
    exact sited_settle fun request next => sited request (ConnPhase.request_next allowed next)
  | load_state =>
    obtain ⟨params, deadline, rfl | rfl⟩ := of_load_state allowed
    · cases sited
      cases answer with
      | Open => rfl
      | Drained => trivial
    · cases answer with
      | Open => exact sited
      | Drained => trivial
  | store_drained =>
    obtain rfl := of_store_drained allowed
    trivial
  | poll_admission deadline =>
    obtain ⟨params, rfl⟩ := of_poll_admission allowed
    cases answer with
    | ready admission => exact sited_after_admission deadline admission sited
    | queued => exact sited
  | resume_admission deadline =>
    obtain ⟨params, rfl⟩ := of_resume_admission allowed
    exact sited_after_admission deadline answer sited
  | fetch_add_inflight =>
    obtain ⟨params, deadline, rfl⟩ := of_fetch_add_inflight allowed
    rintro request same
    cases same
    exact ⟨params, sited, rfl⟩
  | fetch_sub_inflight =>
    obtain rfl := of_fetch_sub_inflight allowed
    trivial
  | release_permit => rcases of_release_permit allowed with rfl | rfl <;> trivial
  | select rx deadline =>
    obtain ⟨n, rfl⟩ := of_select allowed
    cases answer with
    | terminal terminal => exact sited_after_terminal n rx terminal
    | cancelled =>
      rintro request same
      cases same
      rfl
  | select_cancel_sent rx deadline =>
    obtain ⟨n, rfl⟩ := of_select_cancel_sent allowed
    exact sited_after_terminal n rx answer
  | cancel j =>
    obtain rfl := of_cancel allowed
    trivial
  | tick =>
    obtain rfl := of_tick allowed
    trivial

theorem DispPhase.sited_of_task (task : DispTask ι) : (of_task task).sited task := by
  cases task <;> first | rfl | exact nofun

/-- What a task may send: its `tool.call`, and a `tool.cancel` for the id of that. -/
def OwnMessages (task : DispTask ι) (l : List WireMessage) : Prop :=
  l = [] ∨ ∃ n params, task.calls params ∧
    (l = [.request (mgr_id n) methods.TOOL_CALL params.to_value] ∨
      ∃ id, l = [.request (mgr_id n) methods.TOOL_CALL params.to_value,
        .request id methods.TOOL_CANCEL (cancel_params (mgr_id n))])

/-- What a task in this phase has put on the wire. -/
def DispPhase.wired (task : DispTask ι) : DispPhase ι → List WireMessage → Prop
  | .awaiting n _ _, l | .conn (.cancel n _ _) _, l =>
      ∃ params, task.calls params ∧ l = [.request (mgr_id n) methods.TOOL_CALL params.to_value]
  | .cancel_sent _ _ _, l | .conn (.cancel_drop _ _ _) _, l | .conn (.expire _) _, l
  | .conn .drop_rx _, l | .leaving, l | .closing, l | .ended, l => OwnMessages task l
  | _, l => l = []

theorem DispPhase.own_of_wired {l : List WireMessage} (wired : g.wired task l) :
    OwnMessages task l := by
  have one {n : Nat} (sent : ∃ params, task.calls params ∧
      l = [.request (mgr_id n) methods.TOOL_CALL params.to_value]) : OwnMessages task l :=
    let ⟨params, own, same⟩ := sent
    .inr ⟨n, params, own, .inl same⟩
  rcases g with _ | _ | _ | _ | _ | _ | ⟨site, _⟩ | _
  case conn =>
    cases site with
    | task | call => exact .inl wired
    | cancel => exact one wired
    | _ => exact wired
  all_goals first | exact .inl wired | exact one wired | exact wired

/-- The message a request put on the wire. -/
def wireMessage : Event (DispOp ι) → Option WireMessage
  | ⟨.conn (.outbound_send msg), .accepted⟩ => some msg
  | _ => none

/-- What a task has put on the wire, oldest first. -/
def messages (l : List (Event (DispOp ι))) : List WireMessage := l.filterMap wireMessage

theorem messages_snoc_of_none {l : List (Event (DispOp ι))} {ev : Event (DispOp ι)}
    (quiet : wireMessage ev = none) : messages (l ++ [ev]) = messages l := by
  simp only [messages, List.filterMap_append, List.filterMap_cons, quiet, List.filterMap_nil,
    List.append_nil]

theorem ConnPhase.next_ne_sent {g : ConnPhase} {op : ConnOp β} {answer : β}
    (allowed : connProtocol.allows g op)
    (quiet : wireMessage (ι := ι) ⟨.conn op, answer⟩ = none) (n rx : Nat) :
    connProtocol.next g op answer ≠ .sent n rx := by
  intro same
  cases op with
  | load_state =>
    obtain ⟨method, params, rfl, active, refused⟩ := of_load_state allowed
    cases answer <;> cases same
  | fetch_add_id =>
    obtain ⟨method, params, rfl, -⟩ := of_fetch_add_id allowed
    cases same
  | oneshot_channel =>
    obtain ⟨method, params, n, rfl, -⟩ := of_oneshot_channel allowed
    cases same
  | pending_insert id tx =>
    obtain ⟨method, params, n, rfl, -, -⟩ := of_pending_insert allowed
    cases same
  | pending_remove id =>
    rcases of_pending_remove allowed with ⟨rfl, -⟩ | ⟨n, rx, rfl, -, -⟩ <;> cases same
  | pending_take id =>
    obtain ⟨result, rfl, -, -⟩ := of_pending_take allowed
    cases answer <;> cases same
  | outbound_send msg =>
    obtain ⟨method, params, n, rx, rfl, -, -, -⟩ := of_outbound_send allowed
    cases answer with
    | accepted => cases quiet
    | _ => cases same
  | store_disconnected =>
    obtain ⟨rfl, -⟩ := of_store_disconnected allowed
    cases same
  | oneshot_send tx result =>
    obtain ⟨rfl, -⟩ := of_oneshot_send allowed
    cases same
  | pending_drain =>
    obtain ⟨rfl, -⟩ := of_pending_drain allowed
    cases same
  | drop_senders txs =>
    obtain ⟨rfl, -⟩ := of_drop_senders allowed
    cases same
  | outbound_take =>
    obtain ⟨rfl, -⟩ := of_outbound_take allowed
    cases same
  | drop_receiver rx =>
    obtain ⟨rfl, -⟩ := of_drop_receiver allowed
    cases same
  | close_writer =>
    obtain ⟨rfl, -⟩ := of_close_writer allowed
    cases same

theorem DispPhase.wired_settle {site : Site} {g g' : ConnPhase} {l : List WireMessage}
    (unsent : ∀ n rx, g' ≠ .sent n rx) (wired : (conn site g : DispPhase ι).wired task l) :
    (settle site g').wired task l := by
  cases g' with
  | sent n rx => exact absurd rfl (unsent n rx)
  | refused =>
    cases site with
    | call => exact .inl wired
    | cancel => exact own_of_wired wired
    | _ => exact wired
  | finished => cases site <;> exact wired
  | _ => cases site <;> exact wired

theorem DispPhase.wired_after_terminal {n rx : Nat} {terminal : Terminal} {l : List WireMessage}
    (own : OwnMessages task l) : (after_terminal n rx terminal).wired task l := by
  cases terminal <;> exact own

/-- What a request of a task adds to what it has put on the wire. -/
theorem DispPhase.wired_next {op : DispOp ι β} {answer : β} {past : List (Event (DispOp ι))}
    (sited : g.sited task) (wired : g.wired task (messages past))
    (allowed : dispProtocol.allows g op) :
    (dispProtocol.next g op answer).wired task (messages (past ++ [⟨op, answer⟩])) := by
  cases put : wireMessage (⟨op, answer⟩ : Event (DispOp ι)) with
  | some msg =>
    cases op with
    | conn op =>
      cases op with
      | outbound_send msg' =>
        obtain ⟨site, g', rfl, allowed⟩ := of_conn allowed
        obtain ⟨method, params, n, rx, rfl, rfl, -, -⟩ := ConnPhase.of_outbound_send allowed
        cases answer with
        | accepted =>
          have more : messages (past ++ [⟨.conn (.outbound_send (.request (mgr_id n) method params)),
              .accepted⟩]) = messages past ++ [.request (mgr_id n) method params] := by
            simp only [messages, List.filterMap_append, List.filterMap_cons, wireMessage,
              List.filterMap_nil]
          rw [more]
          have sends := sited _ rfl
          cases site with
          | call deadline =>
            obtain ⟨own, calls, same⟩ := sends
            cases same
            exact ⟨own, calls, congrArg (· ++ _) wired⟩
          | cancel n' rx' deadline =>
            cases sends
            obtain ⟨own, calls, same⟩ := wired
            exact .inr ⟨n', own, calls, .inr ⟨mgr_id n, congrArg (· ++ _) same⟩⟩
          | _ => exact sends.elim
        | _ => cases put
      | _ => cases put
    | _ => cases put
  | none =>
    rw [messages_snoc_of_none put]
    cases op with
    | conn op =>
      obtain ⟨site, g', rfl, allowed⟩ := of_conn allowed
      exact wired_settle (ConnPhase.next_ne_sent allowed put) wired
    | load_state =>
      obtain ⟨params, deadline, rfl | rfl⟩ := of_load_state allowed <;> cases answer <;> exact wired
    | store_drained =>
      obtain rfl := of_store_drained allowed
      exact wired
    | poll_admission deadline =>
      obtain ⟨params, rfl⟩ := of_poll_admission allowed
      rcases answer with (_ | _ | permit) | _ <;> first | exact wired | (cases permit <;> exact wired)
    | resume_admission deadline =>
      obtain ⟨params, rfl⟩ := of_resume_admission allowed
      rcases answer with _ | _ | permit <;> first | exact wired | (cases permit <;> exact wired)
    | fetch_add_inflight =>
      obtain ⟨params, deadline, rfl⟩ := of_fetch_add_inflight allowed
      exact wired
    | fetch_sub_inflight =>
      obtain rfl := of_fetch_sub_inflight allowed
      exact wired
    | release_permit => rcases of_release_permit allowed with rfl | rfl <;> exact wired
    | select rx deadline =>
      obtain ⟨n, rfl⟩ := of_select allowed
      cases answer with
      | terminal terminal => exact wired_after_terminal (own_of_wired wired)
      | cancelled => exact wired
    | select_cancel_sent rx deadline =>
      obtain ⟨n, rfl⟩ := of_select_cancel_sent allowed
      exact wired_after_terminal wired
    | cancel j =>
      obtain rfl := of_cancel allowed
      exact wired
    | tick =>
      obtain rfl := of_tick allowed
      exact wired

variable {tasks : ι → DispTask ι} {q : Pool ι (DispOp ι) (DispatcherWorld ι) DispReturn}
  {tr : List (PoolEvent ι (DispOp ι))}

/-- In every run a task's phase is one of its own, and tells what the task has put on the
wire. -/
theorem wired [DecidableEq ι] (run : Pool.Run dispSemantics (dispPool tasks) tr q) (i : ι) :
    (phases tasks tr i).sited (tasks i) ∧
      (phases tasks tr i).wired (tasks i) (messages (Pool.project i tr)) := by
  rw [phases, Pool.phases_eq_after]
  have own : Exec (tasks i).prog (Pool.project i tr) (q.thread i) := run.project i
  refine (tasks i).follows.trail own
    (T := fun g l => g.sited (tasks i) ∧ g.wired (tasks i) (messages l)) ⟨sited_of_task _, ?_⟩
    fun _ _ held allowed => ⟨sited_next held.1 allowed, wired_next held.1 held.2 allowed⟩
  cases tasks i <;> rfl

end SessionManager
