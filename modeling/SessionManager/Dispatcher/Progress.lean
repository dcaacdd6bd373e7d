import SessionManager.Dispatcher.Fifo
import SessionManager.Dispatcher.Order
import SessionManager.Effect.Progress

/-!
# Calls go on

A call makes at most 24 steps.  When none of the calls can take one, they have all returned, or one
of them has the permit and waits for its client while the others queue behind it; and a call whose
deadline has passed can always take its next step.
-/

namespace SessionManager

open Json Effect

open Prog (perform)

open DispPhase

variable {ι : Type}

/-! ## How many steps there are -/

section Steps

theorem dispatch_request_within (method : String) (params : Value) :
    (ConnectionHandle.dispatch_request method params).Within 6 := by
  intro state
  cases state with
  | Disconnected => exact Prog.within_ret _ _
  | Active =>
    intro n rx inserted sent
    cases sent with
    | accepted => exact Prog.within_ret _ _
    | no_sender | receiver_gone => exact fun _ => Prog.within_ret _ _

theorem send_tool_cancel_within (req_id : Id) :
    (send_tool_cancel req_id : Prog (DispOp ι) Unit).Within 7 := by
  refine (dispatch_request_within _ _).lift.bind (m := 1) fun result => ?_
  cases result with
  | ok sent => exact fun _ => Prog.within_ret _ _
  | error error => exact Prog.within_ret _ _

theorem on_terminal_within (req_id : Id) (terminal : Terminal) :
    (on_terminal req_id terminal : Prog (DispOp ι) (Except DispatcherError Value)).Within 1 := by
  cases terminal with
  | response result => cases result <;> exact Prog.within_ret _ _
  | closed => exact Prog.within_ret _ _
  | deadline => exact fun _ => Prog.within_ret _ _

theorem await_terminal_within (req_id : Id) (rx : Nat) (deadline : Option Nat) :
    (await_terminal req_id rx deadline : Prog (DispOp ι) (Except DispatcherError Value)).Within 10 := by
  intro wake
  cases wake with
  | terminal terminal => exact (on_terminal_within req_id terminal).mono (m := 9) (by decide)
  | cancelled =>
    exact (send_tool_cancel_within req_id).bind (m := 2) fun _ terminal =>
      on_terminal_within req_id terminal

theorem run_tool_call_within (params : ToolCallParams) (deadline : Option Nat) :
    (run_tool_call params deadline : Prog (DispOp ι) (Except DispatcherError ToolCallResult)).Within 17 := by
  refine (dispatch_request_within _ _).lift.bind (m := 11) fun result => ?_
  cases result with
  | error error => exact Prog.within_ret _ _
  | ok sent => exact (await_terminal_within sent.1 sent.2 deadline).bind (m := 1) fun _ _ => Prog.within_ret _ _

theorem enqueue_within (params : ToolCallParams) (deadline : Option Nat) :
    (SessionDispatcher.enqueue params deadline :
      Prog (DispOp ι) (Except DispatcherError ToolCallResult)).Within 24 := by
  have admitted : (enqueue_admitted params deadline :
      Prog (DispOp ι) (Except DispatcherError ToolCallResult)).Within 20 := by
    intro state
    cases state with
    | Drained => exact Prog.within_ret _ _
    | Open =>
      exact fun _ => (run_tool_call_within params deadline).bind (m := 1)
        fun _ _ => Prog.within_ret _ _
  have waits : (acquire deadline : Prog (DispOp ι) Admission).Within 2 := by
    intro poll
    cases poll with
    | ready admission => exact Prog.within_ret _ _
    | queued => exact Prog.within_one _
  intro state
  cases state with
  | Drained => exact Prog.within_ret _ _
  | Open =>
    refine waits.bind (m := 21) fun admission => ?_
    cases admission with
    | cancelled | deadline => exact Prog.within_ret _ _
    | acquired permit =>
      cases permit with
      | false => exact Prog.within_ret _ _
      | true => exact admitted.bind (m := 1) fun _ _ => Prog.within_ret _ _

/-- Whatever a task does, it does in so many steps. -/
theorem DispTask.within (task : DispTask ι) : task.prog.Within 24 := by
  have once (op : DispOp ι Unit) : (do
      perform op
      return .done : Prog (DispOp ι) DispReturn).Within 24 := fun _ => Prog.within_ret _ _
  cases task with
  | enqueue params deadline =>
    exact (enqueue_within params deadline).bind (m := 0) fun _ => Prog.within_ret _ _
  | drain => exact once .store_drained
  | respond id result =>
    intro slot
    cases slot with
    | none => exact Prog.within_ret _ _
    | some tx => exact fun _ => Prog.within_ret _ _
  | disconnect => exact fun _ _ _ _ => Prog.within_ret _ _
  | close_writer => exact fun _ => Prog.within_ret _ _
  | cancel i => exact once (.cancel i)
  | tick => exact once .tick

end Steps

/-! ## A call that is never answered -/

/-- A call with a deadline, another one behind it, and the clock. -/
def unanswered_calls : Fin 3 → DispTask (Fin 3)
  | 0 | 1 => .enqueue { name := "echo", arguments := .null } (some 1)
  | 2 => .tick

/-- The first call is sent, the second one queues, and their deadline passes. -/
def unanswered_run : List (PoolEvent (Fin 3) (DispOp (Fin 3))) ×
    Pool (Fin 3) (DispOp (Fin 3)) (DispatcherWorld (Fin 3)) DispReturn :=
  callRun unanswered_calls [0, 0, 0, 0, 0, 0, 0, 0, 0, 1, 1, 2]

/-! ## What a call waits for -/

section Waits

variable [DecidableEq ι] {tasks : ι → DispTask ι} {tr : List (PoolEvent ι (DispOp ι))}
  {q : Pool ι (DispOp ι) (DispatcherWorld ι) DispReturn} {i : ι}

/-- The call is in the queue; neither is it cancelled nor has its deadline passed. -/
structure Queues (q : Pool ι (DispOp ι) (DispatcherWorld ι) DispReturn) (i : ι)
    (deadline : Option Nat) : Prop where
  waits : ∃ k, q.thread i = .op (.resume_admission deadline) k
  uncancelled : q.shared.cancelled i = false
  in_time : q.shared.expired deadline = false
  queued : i ∈ q.shared.dispatcher.admission.waiters

/-- The client has not answered the call, and may still do so; the deadline has not passed. -/
structure AwaitsClient (q : Pool ι (DispOp ι) (DispatcherWorld ι) DispReturn) (i : ι)
    (deadline : Option Nat) : Prop where
  waits : ∃ rx, (q.shared.connection.oneshots.cell rx).poll = .pending ∧
    ((∃ k, q.thread i = .op (.select rx deadline) k) ∧ q.shared.cancelled i = false ∨
      ∃ k, q.thread i = .op (.select_cancel_sent rx deadline) k)
  in_time : q.shared.expired deadline = false

omit [DecidableEq ι] in
theorem terminal_eq_none {w : DispatcherWorld ι} {rx : Nat} {deadline : Option Nat} :
    w.terminal rx deadline = none ↔
      (w.connection.oneshots.cell rx).poll = .pending ∧ w.expired deadline = false := by
  unfold DispatcherWorld.terminal
  cases (w.connection.oneshots.cell rx).poll with
  | pending => cases w.expired deadline <;> simp
  | _ => simp

section Unanswered

variable {w : DispatcherWorld ι} {rx : Nat} {deadline : Option Nat}

theorem resume_unanswered_iff : DispOp.apply i w (.resume_admission deadline) = none ↔
    w.cancelled i = false ∧ w.expired deadline = false ∧ i ∉ w.dispatcher.admission.granted := by
  simp only [DispOp.apply]
  cases w.cancelled i with
  | true => simp
  | false =>
    cases w.expired deadline with
    | true => simp
    | false => by_cases granted : i ∈ w.dispatcher.admission.granted <;> simp [granted]

theorem select_unanswered_iff : DispOp.apply i w (.select rx deadline) = none ↔
    w.terminal rx deadline = none ∧ w.cancelled i = false := by
  simp only [DispOp.apply]
  cases w.terminal rx deadline with
  | some terminal => simp
  | none => cases w.cancelled i <;> simp

theorem select_cancel_sent_unanswered_iff :
    DispOp.apply i w (.select_cancel_sent rx deadline) = none ↔ w.terminal rx deadline = none := by
  simp only [DispOp.apply, Option.map_eq_none_iff]

end Unanswered

/-- What waits, waits for the permit or for the client. -/
theorem waits_of_blocked {β : Type} {e : DispOp ι β} {k : β → Prog (DispOp ι) DispReturn}
    (here : q.thread i = .op e k) (blocked : ¬ Pool.Enabled dispSemantics q i) :
    (∃ deadline, (∃ k, q.thread i = .op (.resume_admission deadline) k) ∧
      q.shared.cancelled i = false ∧ q.shared.expired deadline = false ∧
      i ∉ q.shared.dispatcher.admission.granted) ∨ ∃ deadline, AwaitsClient q i deadline := by
  have unanswered : DispOp.apply i q.shared e = none := by
    cases answered : DispOp.apply i q.shared e with
    | none => rfl
    | some answer => exact absurd (Pool.enabled_iff.mpr ⟨_, _, _, _, _, here, answered⟩) blocked
  cases e with
  | resume_admission deadline =>
    exact .inl ⟨deadline, ⟨k, here⟩, resume_unanswered_iff.mp unanswered⟩
  | select rx deadline =>
    obtain ⟨none, uncancelled⟩ := select_unanswered_iff.mp unanswered
    obtain ⟨pending, in_time⟩ := terminal_eq_none.mp none
    exact .inr ⟨deadline, ⟨rx, pending, .inl ⟨⟨k, here⟩, uncancelled⟩⟩, in_time⟩
  | select_cancel_sent rx deadline =>
    obtain ⟨pending, in_time⟩ := terminal_eq_none.mp (select_cancel_sent_unanswered_iff.mp unanswered)
    exact .inr ⟨deadline, ⟨rx, pending, .inr ⟨k, here⟩⟩, in_time⟩
  | poll_admission deadline =>
    simp only [DispOp.apply] at unanswered
    split at unanswered
    · cases unanswered
    · split at unanswered <;> cases unanswered
  | _ => cases unanswered

/-- A call in the queue that has not returned is about to go on waiting there. -/
theorem resumes_of_queued (run : Pool.Run dispSemantics (dispPool tasks) tr q)
    (queued : (phases tasks tr i).stage = .queued) :
    ∃ deadline k, q.thread i = .op (.resume_admission deadline) k := by
  have follows := (standing run).2 i
  cases phase : phases tasks tr i with
  | queued params deadline =>
    rw [phase] at follows
    cases here : q.thread i with
    | ret value =>
      rw [here] at follows
      exact follows.elim
    | op e k =>
      rw [here] at follows
      cases e with
      | resume_admission deadline' => exact ⟨deadline', k, rfl⟩
      | _ => exact follows.1.elim
  | conn site g =>
    rw [phase] at queued
    cases site <;> cases queued
  | _ =>
    rw [phase] at queued
    cases queued

/-- What a call that waits for the permit or its client has. -/
theorem stage_of_waiting (run : Pool.Run dispSemantics (dispPool tasks) tr q) {deadline : Option Nat} :
    ((∃ k, q.thread i = .op (.resume_admission deadline) k) → (phases tasks tr i).stage = .queued) ∧
      (AwaitsClient q i deadline → (phases tasks tr i).stage.holds) := by
  have follows := (standing run).2 i
  constructor
  · rintro ⟨k, here⟩
    rw [here] at follows
    obtain ⟨params, same⟩ := of_resume_admission follows.1
    rw [same, DispPhase.stage]
  · rintro ⟨⟨rx, -, ⟨⟨k, here⟩, -⟩ | ⟨k, here⟩⟩, -⟩
    · rw [here] at follows
      obtain ⟨n, same⟩ := of_select follows.1
      rw [same]
      trivial
    · rw [here] at follows
      obtain ⟨n, same⟩ := of_select_cancel_sent follows.1
      rw [same]
      trivial

/-- Whoever queues or holds the permit is a call. -/
theorem call_of_stage (run : Pool.Run dispSemantics (dispPool tasks) tr q)
    (standing : (phases tasks tr i).stage = .queued ∨ (phases tasks tr i).stage.holds) :
    ∃ params deadline, tasks i = .enqueue params deadline := by
  by_contra other
  have stray := stray_of_not_call run fun params deadline same => other ⟨params, deadline, same⟩
  have out : (phases tasks tr i).stage = .out := by
    cases here : phases tasks tr i with
    | start | finished => rfl
    | conn site g =>
      rw [here] at stray
      cases site with
      | task => rfl
      | _ => exact stray.elim
    | _ =>
      rw [here] at stray
      exact stray.elim
  rw [out] at standing
  rcases standing with queued | holds
  · cases queued
  · exact holds

omit [DecidableEq ι] in
theorem not_holds_of_returns {g : DispPhase ι} {value : DispReturn} (returns : g.returns value) :
    ¬ g.stage.holds := by
  cases g with
  | turned_away | ended | finished => exact id
  | conn site g =>
    cases site with
    | task => exact id
    | _ => exact returns.elim
  | _ => exact returns.elim

/-- **Calls do not block each other.**  A task makes at most 24 steps; when no call can take one,
they have all returned, or one of them waits for its client and those that have not returned queue
for the permit. -/
theorem calls_progress (run : Pool.Run dispSemantics (dispPool tasks) tr q) :
    (∀ i, (Pool.project i tr).length ≤ 24) ∧
      ((∀ i params deadline, tasks i = .enqueue params deadline →
          ¬ Pool.Enabled dispSemantics q i) →
        (∀ i params deadline, tasks i = .enqueue params deadline → q.Returned i) ∨
        ∃ h deadline, AwaitsClient q h deadline ∧
          ∀ i params deadline, tasks i = .enqueue params deadline → i ≠ h →
            q.Returned i ∨ ∃ deadline, Queues q i deadline) := by
  refine ⟨fun i => Pool.Run.project_length run (tasks i).within, fun blocked => ?_⟩
  obtain ⟨permit, exclusive⟩ := (standing run).1.exclusive
  -- A call that has not returned waits in one of two ways.
  have waits {i : ι} (call : ∃ params deadline, tasks i = .enqueue params deadline)
      (unreturned : ¬ q.Returned i) : (∃ deadline, Queues q i deadline) ∨
        ∃ deadline, AwaitsClient q i deadline := by
    obtain ⟨params, deadline, call⟩ := call
    cases here : q.thread i with
    | ret value => exact absurd ⟨value, here⟩ unreturned
    | op e k =>
      rcases waits_of_blocked here (blocked i params deadline call) with
        ⟨deadline, resumes, uncancelled, in_time, ungranted⟩ | awaits
      · have queued := (stage_of_waiting run).1 resumes
        have among := ((exclusive.queue i).mpr queued).resolve_right ungranted
        exact .inl ⟨deadline, resumes, uncancelled, in_time, among⟩
      · exact .inr awaits
  by_cases returned : ∀ i params deadline, tasks i = .enqueue params deadline → q.Returned i
  · exact .inl returned
  simp only [not_forall] at returned
  obtain ⟨i, params, deadline, call, unreturned⟩ := returned
  -- The permit is not free, since someone holds it or waits for it; and it is not handed over,
  -- since its receiver could go on.
  have held : ∃ h, (phases tasks tr h).stage.holds := by
    rcases waits ⟨params, deadline, call⟩ unreturned with ⟨deadline, queues⟩ | ⟨deadline, awaits⟩
    · cases permit with
      | free =>
        have none := queues.queued
        rw [exclusive.idle rfl] at none
        exact absurd none List.not_mem_nil
      | granted j =>
        have granted : j ∈ q.shared.dispatcher.admission.granted := by
          rw [exclusive.granted]
          exact List.mem_singleton_self j
        have queued := (exclusive.queue j).mp (.inr granted)
        obtain ⟨params', deadline', call'⟩ := call_of_stage run (.inl queued)
        obtain ⟨due, k, here⟩ := resumes_of_queued run queued
        rcases waits_of_blocked here (blocked j params' deadline' call') with
          ⟨_, -, -, -, ungranted⟩ | ⟨_, awaits⟩
        · exact absurd granted ungranted
        · have holds := (stage_of_waiting run).2 awaits
          rw [queued] at holds
          exact holds.elim
      | held h => exact ⟨h, (exclusive.holder h).mpr rfl⟩
    · exact ⟨i, (stage_of_waiting run).2 awaits⟩
  obtain ⟨h, holds⟩ := held
  have unreturned : ¬ q.Returned h := by
    rintro ⟨value, here⟩
    exact not_holds_of_returns (returned run here) holds
  rcases waits (call_of_stage run (.inr holds)) unreturned with ⟨due, queues⟩ | ⟨due, awaits⟩
  · have queued := (stage_of_waiting run).1 queues.waits
    rw [queued] at holds
    exact holds.elim
  · refine .inr ⟨h, due, awaits, fun j params' deadline' call' ne => ?_⟩
    by_cases back : q.Returned j
    · exact .inl back
    rcases waits ⟨params', deadline', call'⟩ back with queues | ⟨due', awaits'⟩
    · exact .inr queues
    · exact absurd (exclusive.unique ((stage_of_waiting run).2 awaits') holds) ne

/-- The second call queues behind the first one. -/
theorem calls_progress_unanswered :
    (∀ i, (Pool.project i unanswered_run.1).length ≤ 24) ∧
      ((∀ i params deadline, unanswered_calls i = .enqueue params deadline →
          ¬ Pool.Enabled dispSemantics unanswered_run.2 i) →
        (∀ i params deadline, unanswered_calls i = .enqueue params deadline →
          unanswered_run.2.Returned i) ∨
        ∃ h deadline, AwaitsClient unanswered_run.2 h deadline ∧
          ∀ i params deadline, unanswered_calls i = .enqueue params deadline → i ≠ h →
            unanswered_run.2.Returned i ∨ ∃ deadline, Queues unanswered_run.2 i deadline) :=
  calls_progress (callRun_run unanswered_calls _)

end Waits

/-! ## Deadlines -/

section Deadlines

/-- A call waits until its own deadline. -/
def DispPhase.due (deadline : Option Nat) : DispPhase ι → Prop
  | .start (.enqueue _ due) | .checked _ due | .queued _ due | .held _ due | .verified _ due
  | .conn (.call due) _ | .conn (.cancel _ _ due) _ | .conn (.cancel_drop _ _ due) _
  | .awaiting _ _ due | .cancel_sent _ _ due => due = deadline
  | _ => True

variable {deadline : Option Nat} {g : DispPhase ι}

theorem DispPhase.due_settle {site : Site} {g : ConnPhase}
    (due : (conn site g : DispPhase ι).due deadline) (g' : ConnPhase) :
    (settle site g' : DispPhase ι).due deadline := by
  cases site with
  | task | expire | drop_rx => cases g' <;> trivial
  | call | cancel | cancel_drop => cases g' <;> first | exact due | trivial

theorem DispPhase.due_next {β : Type} {op : DispOp ι β} {answer : β} (due : g.due deadline)
    (allowed : dispProtocol.allows g op) : (dispProtocol.next g op answer).due deadline := by
  cases op with
  | conn op =>
    obtain ⟨site, g', rfl, -⟩ := of_conn allowed
    exact due_settle due _
  | load_state =>
    obtain ⟨params, deadline', rfl | rfl⟩ := of_load_state allowed <;>
      cases answer <;> first | exact due | trivial
  | store_drained =>
    obtain rfl := of_store_drained allowed
    trivial
  | poll_admission deadline' =>
    obtain ⟨params, rfl⟩ := of_poll_admission allowed
    rcases answer with (_ | _ | permit) | _ <;>
      first | exact due | trivial | (cases permit <;> first | exact due | trivial)
  | resume_admission deadline' =>
    obtain ⟨params, rfl⟩ := of_resume_admission allowed
    rcases answer with _ | _ | permit <;>
      first | exact due | trivial | (cases permit <;> first | exact due | trivial)
  | fetch_add_inflight =>
    obtain ⟨params, deadline', rfl⟩ := of_fetch_add_inflight allowed
    exact due
  | fetch_sub_inflight =>
    obtain rfl := of_fetch_sub_inflight allowed
    trivial
  | release_permit => rcases of_release_permit allowed with rfl | rfl <;> trivial
  | select rx deadline' =>
    obtain ⟨n, rfl⟩ := of_select allowed
    rcases answer with terminal | _
    · cases terminal <;> trivial
    · exact due
  | select_cancel_sent rx deadline' =>
    obtain ⟨n, rfl⟩ := of_select_cancel_sent allowed
    cases answer <;> trivial
  | cancel j =>
    obtain rfl := of_cancel allowed
    trivial
  | tick =>
    obtain rfl := of_tick allowed
    trivial

variable [DecidableEq ι] {tasks : ι → DispTask ι} {tr : List (PoolEvent ι (DispOp ι))}
  {q : Pool ι (DispOp ι) (DispatcherWorld ι) DispReturn} {i : ι} {params : ToolCallParams}

theorem due_of_call (run : Pool.Run dispSemantics (dispPool tasks) tr q)
    (call : tasks i = .enqueue params deadline) : (phases tasks tr i).due deadline := by
  rw [phases, Pool.phases_eq_after]
  have own : Exec (tasks i).prog (Pool.project i tr) (q.thread i) := run.project i
  refine (tasks i).follows.trail own (T := fun g _ => g.due deadline) ?_
    fun _ _ due allowed => DispPhase.due_next due allowed
  rw [call]
  exact rfl

theorem deadline_of_waiting (run : Pool.Run dispSemantics (dispPool tasks) tr q)
    (call : tasks i = .enqueue params deadline) {due : Option Nat}
    (waits : (∃ k, q.thread i = .op (.resume_admission due) k) ∨ AwaitsClient q i due) :
    due = deadline := by
  have own := due_of_call run call
  have follows := (standing run).2 i
  rcases waits with ⟨k, here⟩ | ⟨⟨rx, -, ⟨⟨k, here⟩, -⟩ | ⟨k, here⟩⟩, -⟩
  · rw [here] at follows
    obtain ⟨params', same⟩ := of_resume_admission follows.1
    rwa [same] at own
  · rw [here] at follows
    obtain ⟨n, same⟩ := of_select follows.1
    rwa [same] at own
  · rw [here] at follows
    obtain ⟨n, same⟩ := of_select_cancel_sent follows.1
    rwa [same] at own

/-- **A call whose deadline has passed is not held up**, whatever the others do. -/
theorem overdue_call_goes_on (run : Pool.Run dispSemantics (dispPool tasks) tr q)
    (call : tasks i = .enqueue params deadline) (overdue : q.shared.expired deadline = true) :
    q.Returned i ∨ Pool.Enabled dispSemantics q i := by
  by_contra neither
  obtain ⟨unreturned, blocked⟩ := not_or.mp neither
  cases here : q.thread i with
  | ret value => exact unreturned ⟨value, here⟩
  | op e k =>
    have in_time : q.shared.expired deadline = false := by
      rcases waits_of_blocked here blocked with ⟨due, resumes, -, in_time, -⟩ | ⟨due, awaits⟩
      · rwa [← deadline_of_waiting run call (.inl resumes)]
      · rw [← deadline_of_waiting run call (.inr awaits)]
        exact awaits.in_time
    rw [overdue] at in_time
    cases in_time

theorem now_le_of_answered {w w' : DispatcherWorld ι} {β : Type} {op : DispOp ι β} {answer : β}
    (answered : DispOp.apply i w op = some (answer, w')) : w.now ≤ w'.now := by
  cases op with
  | tick =>
    cases answered
    exact Nat.le_succ w.now
  | poll_admission deadline =>
    simp only [DispOp.apply] at answered
    split at answered
    · cases answered
      exact Nat.le_refl _
    · split at answered <;> (cases answered; exact Nat.le_refl _)
  | resume_admission deadline =>
    simp only [DispOp.apply] at answered
    split at answered
    · cases answered
      exact Nat.le_refl _
    · split at answered
      · cases answered
        exact Nat.le_refl _
      · obtain ⟨-, same⟩ := Option.ite_none_right_eq_some.mp answered
        cases same
        exact Nat.le_refl _
  | select rx deadline =>
    simp only [DispOp.apply] at answered
    split at answered
    · cases answered
      exact Nat.le_refl _
    · obtain ⟨-, same⟩ := Option.ite_none_right_eq_some.mp answered
      cases same
      exact Nat.le_refl _
  | select_cancel_sent rx deadline =>
    obtain ⟨terminal, -, same⟩ := Option.map_eq_some_iff.mp answered
    cases same
    exact Nat.le_refl _
  | fetch_add_inflight | fetch_sub_inflight =>
    simp only [DispOp.apply, Option.some.injEq, Prod.mk.injEq, true_and] at answered
    rw [← answered, DispatcherWorld.set_inflight_now]
  | _ =>
    cases answered
    exact Nat.le_refl _

/-- Time does not go back. -/
theorem expired_of_run {start : Pool ι (DispOp ι) (DispatcherWorld ι) DispReturn}
    (run : Pool.Run dispSemantics start tr q) (expired : start.shared.expired deadline = true) :
    q.shared.expired deadline = true := by
  refine run.replay.history (I := fun w _ => w.expired deadline = true) expired ?_
  intro w w' past i β op answer expired answered
  cases deadline with
  | none => exact expired
  | some deadline =>
    have passed : deadline ≤ w.now := of_decide_eq_true expired
    exact decide_eq_true (passed.trans (now_le_of_answered answered))

/-- **Calls whose deadlines have passed return**, in whatever order they go on: none of them is ever
held up again, and 24 steps of each are enough. -/
theorem overdue_calls_return (run : Pool.Run dispSemantics (dispPool tasks) tr q) (calls : Finset ι)
    (overdue : ∀ i ∈ calls, ∃ params deadline, tasks i = .enqueue params deadline ∧
      q.shared.expired deadline = true) :
    (∀ more r, Pool.Run dispSemantics q more r →
        ∀ i ∈ calls, r.Returned i ∨ Pool.Enabled dispSemantics r i) ∧
      ∃ more r, Pool.Run dispSemantics q more r ∧ (∀ ev ∈ more, ev.tid ∈ calls) ∧
        more.length ≤ calls.card * 24 ∧ ∀ i ∈ calls, r.Returned i := by
  have goes_on {more r} (onward : Pool.Run dispSemantics q more r) (i : ι) (among : i ∈ calls) :
      r.Returned i ∨ Pool.Enabled dispSemantics r i := by
    obtain ⟨params, deadline, call, expired⟩ := overdue i among
    exact overdue_call_goes_on (run.append onward) call (expired_of_run onward expired)
  refine ⟨fun more r onward => goes_on onward, ?_⟩
  have within (i : ι) : (q.thread i).Within 24 := by
    obtain ⟨m, sum, rest⟩ := (run.project i).within (tasks i).within
    exact rest.mono (by omega)
  obtain ⟨more, r, onward, only, short, settled⟩ := Pool.settle dispSemantics calls q within
  refine ⟨more, r, onward, only, ?_, fun i among => ?_⟩
  · rwa [Finset.sum_const] at short
  · exact (goes_on onward i among).resolve_right (settled i among)

/-- Both calls have missed their deadline. -/
theorem overdue_calls_return_unanswered :
    (∀ more r, Pool.Run dispSemantics unanswered_run.2 more r →
        ∀ i ∈ ({0, 1} : Finset (Fin 3)), r.Returned i ∨ Pool.Enabled dispSemantics r i) ∧
      ∃ more r, Pool.Run dispSemantics unanswered_run.2 more r ∧
        (∀ ev ∈ more, ev.tid ∈ ({0, 1} : Finset (Fin 3))) ∧
        more.length ≤ ({0, 1} : Finset (Fin 3)).card * 24 ∧
        ∀ i ∈ ({0, 1} : Finset (Fin 3)), r.Returned i := by
  refine overdue_calls_return (callRun_run unanswered_calls _) {0, 1} fun i among => ?_
  simp only [Finset.mem_insert, Finset.mem_singleton] at among
  rcases among with rfl | rfl
  · exact ⟨_, _, rfl, rfl⟩
  · exact ⟨_, _, rfl, rfl⟩

end Deadlines

end SessionManager
