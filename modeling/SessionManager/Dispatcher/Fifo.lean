import SessionManager.Dispatcher.Order
import SessionManager.Dispatcher.Channels

/-!
# One call at a time on the wire

The permit is given back when the response to the call has come, when the connection is
gone, or when the deadline of the call passes.  The last of these says nothing about the
client, which may still be busy with the call when the next `tool.call` is sent
(`deadline_frees_the_permit`).  `one_call_at_a_time` is what does hold: the next `tool.call`
goes out only after the previous one was settled in one of these ways.
-/

namespace SessionManager

open Json Effect DispPhase

variable {ι : Type} [DecidableEq ι] {phase : ι → DispPhase ι} {w w' : DispatcherWorld ι} {i : ι}
  {g : DispPhase ι} {β : Type} {task : DispTask ι} {tasks : ι → DispTask ι}
  {past tr : List (PoolEvent ι (DispOp ι))}

/-! ## Settled calls -/

/-- The event of call `i` putting a `tool.call` on the wire under this id. -/
def sendEvent (i : ι) (id : Id) (params : Value) : PoolEvent ι (DispOp ι) :=
  ⟨i, ⟨.conn (.outbound_send (.request id methods.TOOL_CALL params)), .accepted⟩⟩

/-- Call `i` put its `tool.call` on the wire under this id. -/
def SentAs (tr : List (PoolEvent ι (DispOp ι))) (i : ι) (id : Id) : Prop :=
  ∃ params, sendEvent i id params ∈ tr

/-- The connection has been disconnected. -/
def Gone (tr : List (PoolEvent ι (DispOp ι))) : Prop :=
  ∃ r, ⟨r, ⟨.conn .store_disconnected, ()⟩⟩ ∈ tr

/-- A response of the client with this id has come and found its slot. -/
def Answered (tasks : ι → DispTask ι) (tr : List (PoolEvent ι (DispOp ι))) (id : Id) : Prop :=
  ∃ r result rx, tasks r = .respond id result ∧ ⟨r, ⟨.conn (.pending_take id), some rx⟩⟩ ∈ tr

/-- The wait for the client ends at the deadline. -/
def DispOp.gives_up : ∀ {β : Type}, DispOp ι β → β → Prop
  | _, .select _ _, .terminal .deadline => True
  | _, .select_cancel_sent _ _, .deadline => True
  | _, _, _ => False

/-- The `tool.call` that call `i` sent under this id needs no answer any more. -/
inductive Settled (tasks : ι → DispTask ι) (tr : List (PoolEvent ι (DispOp ι))) (i : ι) (id : Id) : Prop
  | answered (answered : Answered tasks tr id)
  | gave_up (deadline : Did DispOp.gives_up (Pool.project i tr))
  | gone (gone : Gone tr)

omit [DecidableEq ι] in
theorem Gone.snoc {ev : PoolEvent ι (DispOp ι)} (gone : Gone past) : Gone (past ++ [ev]) :=
  let ⟨r, member⟩ := gone
  ⟨r, List.mem_append_left _ member⟩

omit [DecidableEq ι] in
theorem Answered.snoc {id : Id} {ev : PoolEvent ι (DispOp ι)} (answered : Answered tasks past id) :
    Answered tasks (past ++ [ev]) id :=
  let ⟨r, result, rx, task, member⟩ := answered
  ⟨r, result, rx, task, List.mem_append_left _ member⟩

theorem Settled.snoc {id : Id} {ev : PoolEvent ι (DispOp ι)} (settled : Settled tasks past i id) :
    Settled tasks (past ++ [ev]) i id := by
  cases settled with
  | answered answered => exact .answered answered.snoc
  | gave_up deadline =>
    obtain ⟨ev', member, gives⟩ := deadline
    refine .gave_up ⟨ev', ?_, gives⟩
    rw [Pool.project_append]
    exact List.mem_append_left _ member
  | gone gone => exact .gone gone.snoc

/-! ## The slot of a waiting call -/

/-- The number and the receiver of a call that waits for the client. -/
def DispPhase.awaits : DispPhase ι → Option (Nat × Nat)
  | .awaiting n rx _ | .conn (.cancel n rx _) _ | .conn (.cancel_drop n rx _) _
  | .cancel_sent n rx _ => some (n, rx)
  | _ => none

/-- The number and the receiver of a call whose slot is filled. -/
def DispPhase.slot : DispPhase ι → Option (Nat × Nat)
  | .conn (.call _) (.inserted _ _ n rx) => some (n, rx)
  | g => g.awaits

omit [DecidableEq ι] in
theorem DispPhase.slot_of_awaits {n rx : Nat} (awaits : g.awaits = some (n, rx)) :
    g.slot = some (n, rx) := by
  rcases g with _ | _ | _ | _ | _ | _ | ⟨site, _⟩ | _
  case conn =>
    cases site with
    | call => cases awaits
    | _ => exact awaits
  all_goals exact awaits

omit [DecidableEq ι] in
theorem DispPhase.counted_of_slot {n rx : Nat} (slot : g.slot = some (n, rx)) : g.stage = .counted := by
  rcases g with _ | _ | _ | _ | _ | _ | ⟨site, _⟩ | _
  case conn =>
    cases site with
    | task => cases slot
    | _ => rfl
  all_goals first | rfl | cases slot

omit [DecidableEq ι] in
theorem DispPhase.slot_after_terminal (n rx : Nat) (terminal : Terminal) :
    (after_terminal n rx terminal : DispPhase ι).slot = none := by
  cases terminal <;> rfl

omit [DecidableEq ι] in
theorem DispPhase.slot_after_admission (params : ToolCallParams) (deadline : Option Nat)
    (admission : Admission) : (after_admission params deadline admission : DispPhase ι).slot = none := by
  rcases admission with _ | _ | permit
  · rfl
  · rfl
  · cases permit <;> rfl

/-- The slot of the call still holds its sender, unless it was answered or the connection is
gone. -/
def Waits (tasks : ι → DispTask ι) (past : List (PoolEvent ι (DispOp ι))) (w : DispatcherWorld ι)
    (n rx : Nat) : Prop :=
  Gone past ∨ Answered tasks past (mgr_id n) ∨ w.connection.pending.get (mgr_id n) = some rx

/-- The request does not touch the slot of this id. -/
def DispOp.spares (id : Id) : ∀ {β : Type}, DispOp ι β → Prop
  | _, .conn op => ¬ op.touches id
  | _, _ => True

theorem Waits.spared {op : DispOp ι β} {answer : β} {n rx : Nat} (waits : Waits tasks past w n rx)
    (spares : op.spares (mgr_id n)) (answered : op.apply i w = some (answer, w')) :
    Waits tasks (past ++ [⟨i, ⟨op, answer⟩⟩]) w' n rx := by
  rcases waits with gone | responded | filled
  · exact .inl gone.snoc
  · exact .inr (.inl responded.snoc)
  · refine .inr (.inr ?_)
    by_cases away : op.for_conn
    · cases op with
      | conn op =>
        rw [(DispOp.apply_conn answered).2]
        exact (ConnOp.get_apply_of_not_touches spares).trans filled
      | _ => exact away.elim
    · rwa [DispOp.apply_connection away answered]

omit [DecidableEq ι] in
/-- The call's own `dispatch_request` fills its slot, and sends. -/
theorem DispPhase.slot_next_call {deadline : Option Nat} {g : ConnPhase} {op : ConnOp β} {answer : β}
    {n rx : Nat} (allowed : connProtocol.allows g op)
    (slot : (settle (.call deadline) (connProtocol.next g op answer) : DispPhase ι).slot =
      some (n, rx)) :
    ((conn (.call deadline) g : DispPhase ι).slot = some (n, rx) ∧ ¬ op.touches (mgr_id n)) ∨
      (op.touches (mgr_id n) ∧ op.leaves = some rx) := by
  cases op with
  | pending_insert id tx =>
    obtain ⟨method, params, n', rfl, rfl, -⟩ := ConnPhase.of_pending_insert allowed
    cases slot
    exact .inr ⟨rfl, rfl⟩
  | outbound_send msg =>
    obtain ⟨method, params, n', rx', rfl, -, -, -⟩ := ConnPhase.of_outbound_send allowed
    cases answer with
    | accepted => exact .inl ⟨slot, id⟩
    | _ => cases slot
  | load_state =>
    obtain ⟨method, params, rfl, -, -⟩ := ConnPhase.of_load_state allowed
    cases answer <;> cases slot
  | fetch_add_id =>
    obtain ⟨method, params, rfl, -⟩ := ConnPhase.of_fetch_add_id allowed
    cases slot
  | oneshot_channel =>
    obtain ⟨method, params, n', rfl, -⟩ := ConnPhase.of_oneshot_channel allowed
    cases slot
  | pending_remove id =>
    rcases ConnPhase.of_pending_remove allowed with ⟨rfl, -⟩ | ⟨n', rx', rfl, -, -⟩ <;> cases slot
  | pending_take id =>
    obtain ⟨result, rfl, -, -⟩ := ConnPhase.of_pending_take allowed
    cases answer <;> cases slot
  | store_disconnected => rw [(ConnPhase.of_store_disconnected allowed).1] at slot; cases slot
  | oneshot_send => rw [(ConnPhase.of_oneshot_send allowed).1] at slot; cases slot
  | pending_drain => rw [(ConnPhase.of_pending_drain allowed).1] at slot; cases slot
  | drop_senders => rw [(ConnPhase.of_drop_senders allowed).1] at slot; cases slot
  | outbound_take => rw [(ConnPhase.of_outbound_take allowed).1] at slot; cases slot
  | drop_receiver => rw [(ConnPhase.of_drop_receiver allowed).1] at slot; cases slot
  | close_writer => rw [(ConnPhase.of_close_writer allowed).1] at slot; cases slot

/-- A `dispatch_request` touches no slot but that of its own number. -/
theorem ConnPhase.not_touches {g : ConnPhase} {op : ConnOp β} {n : Nat} (dispatching : g.dispatching)
    (allowed : connProtocol.allows g op) (other : ∀ n', g.number = some n' → n' ≠ n) :
    ¬ op.touches (mgr_id n) := by
  cases op with
  | pending_insert id tx =>
    obtain ⟨method, params, n', rfl, rfl, -⟩ := of_pending_insert allowed
    exact fun same => other n' rfl (mgr_id_injective same)
  | pending_remove id =>
    rcases of_pending_remove allowed with ⟨rfl, -⟩ | ⟨n', rx', rfl, rfl, -⟩
    · exact dispatching.elim
    · exact fun same => other n' rfl (mgr_id_injective same)
  | pending_take id =>
    obtain ⟨result, rfl, -, -⟩ := of_pending_take allowed
    exact dispatching.elim
  | pending_drain => rw [(of_pending_drain allowed).1] at dispatching; exact dispatching.elim
  | _ => exact id

omit [DecidableEq ι] in
theorem DispPhase.slot_settle_cancel (n rx : Nat) (deadline : Option Nat) (g : ConnPhase) :
    (settle (.cancel n rx deadline) g : DispPhase ι).slot = some (n, rx) := by
  cases g <;> rfl

omit [DecidableEq ι] in
/-- A call that reaches its wait has just filled its slot, or goes on waiting and spares it. -/
theorem DispPhase.slot_next {op : DispOp ι β} {answer : β} {n rx next : Nat} {gone : Prop}
    (proper : g.proper task gone) (numbered : g.numbered next) (allowed : dispProtocol.allows g op)
    (slot : (dispProtocol.next g op answer).slot = some (n, rx)) :
    (g.slot = some (n, rx) ∧ op.spares (mgr_id n)) ∨
      ∃ conn : ConnOp β, op = .conn conn ∧ conn.touches (mgr_id n) ∧ conn.leaves = some rx := by
  cases op with
  | conn op =>
    obtain ⟨site, g', rfl, allowed⟩ := of_conn allowed
    cases site with
    | task => cases slot
    | call deadline =>
      exact (slot_next_call allowed slot).imp_right fun filled => ⟨op, rfl, filled⟩
    | cancel n' rx' deadline =>
      obtain ⟨rfl, rfl⟩ : n' = n ∧ rx' = rx :=
        Prod.mk.inj (Option.some.inj ((slot_settle_cancel n' rx' deadline _).symm.trans slot))
      exact .inl ⟨rfl, ConnPhase.not_touches proper allowed numbered.1⟩
    | cancel_drop n' rx' deadline =>
      obtain ⟨rx'', rfl⟩ := proper
      cases op <;> first | exact allowed.elim | exact .inl ⟨slot, id⟩
    | expire | drop_rx =>
      obtain ⟨_, rfl⟩ := proper
      cases op <;> first | exact allowed.elim | cases slot
  | load_state =>
    obtain ⟨params, deadline, rfl | rfl⟩ := of_load_state allowed <;> cases answer <;> cases slot
  | store_drained =>
    obtain rfl := of_store_drained allowed
    cases slot
  | poll_admission deadline =>
    obtain ⟨params, rfl⟩ := of_poll_admission allowed
    cases answer with
    | ready admission => cases (slot_after_admission params deadline admission).symm.trans slot
    | queued => cases slot
  | resume_admission deadline =>
    obtain ⟨params, rfl⟩ := of_resume_admission allowed
    cases (slot_after_admission params deadline answer).symm.trans slot
  | fetch_add_inflight =>
    obtain ⟨params, deadline, rfl⟩ := of_fetch_add_inflight allowed
    cases slot
  | fetch_sub_inflight =>
    obtain rfl := of_fetch_sub_inflight allowed
    cases slot
  | release_permit => rcases of_release_permit allowed with rfl | rfl <;> cases slot
  | select rx' deadline =>
    obtain ⟨n', rfl⟩ := of_select allowed
    cases answer with
    | terminal terminal => cases (slot_after_terminal n' rx' terminal).symm.trans slot
    | cancelled => exact .inl ⟨slot, trivial⟩
  | select_cancel_sent rx' deadline =>
    obtain ⟨n', rfl⟩ := of_select_cancel_sent allowed
    cases (slot_after_terminal n' rx' answer).symm.trans slot
  | cancel j =>
    obtain rfl := of_cancel allowed
    cases slot
  | tick =>
    obtain rfl := of_tick allowed
    cases slot

/-- The slots of all calls that wait. -/
def SlotsKept (tasks : ι → DispTask ι) (phase : ι → DispPhase ι) (w : DispatcherWorld ι)
    (past : List (PoolEvent ι (DispOp ι))) : Prop :=
  ∀ i n rx, (phase i).slot = some (n, rx) → Waits tasks past w n rx

omit [DecidableEq ι] in
theorem respond_of_task {id : Id} {result : RpcResult}
    (same : of_task task = .conn .task (.start (.complete_response id result))) :
    task = .respond id result := by
  cases task <;> cases same
  rfl

/-- Another task that touches the slot of a waiting call delivers its response, or drains. -/
theorem Waits.touched {site : Site} {g : ConnPhase} {op : ConnOp β} {answer : β} {n rx : Nat}
    (waits : Waits tasks past w n rx) (here : phase i = .conn site g)
    (proper : (phase i).proper (tasks i) (Gone past)) (other : (phase i).stage ≠ .counted)
    (allowed : connProtocol.allows g op) (touches : op.touches (mgr_id n))
    (answered : (DispOp.conn op).apply i w = some (answer, w')) :
    Waits tasks (past ++ [⟨i, ⟨.conn op, answer⟩⟩]) w' n rx := by
  rcases waits with gone | responded | filled
  · exact .inl gone.snoc
  · exact .inr (.inl responded.snoc)
  obtain rfl : site = .task := by
    rw [here] at other
    cases site with
    | task => rfl
    | _ => exact absurd rfl other
  rw [here] at proper
  cases op with
  | pending_insert id tx =>
    obtain ⟨method, params, n', rfl, -, -⟩ := ConnPhase.of_pending_insert allowed
    exact absurd trivial proper
  | pending_remove id =>
    rcases ConnPhase.of_pending_remove allowed with ⟨rfl, -⟩ | ⟨n', rx', rfl, -, -⟩
    · cases task : tasks i <;> rw [task] at proper <;> cases proper
    · exact absurd trivial proper
  | pending_take id =>
    obtain ⟨result, rfl, -, -⟩ := ConnPhase.of_pending_take allowed
    obtain rfl := touches
    refine .inr (.inl ⟨i, result, rx, respond_of_task proper, ?_⟩)
    have found : answer = some rx := (DispOp.apply_conn answered).1.symm.trans filled
    rw [found]
    exact List.mem_append_right _ (List.mem_singleton_self _)
  | pending_drain =>
    obtain ⟨rfl, -⟩ := ConnPhase.of_pending_drain allowed
    exact .inl (Gone.snoc proper)
  | _ => exact touches.elim

theorem SlotsKept.step {op : DispOp ι β} {answer : β} (held : SlotsKept tasks phase w past)
    (proper : (phase i).proper (tasks i) (Gone past)) (numbered : Numbered phase w.connection.next_id)
    (alone : ∀ {j k}, (phase j).stage.holds → (phase k).stage.holds → j = k)
    (allowed : dispProtocol.allows (phase i) op) (answered : op.apply i w = some (answer, w')) :
    SlotsKept tasks (Function.update phase i (dispProtocol.next (phase i) op answer)) w'
      (past ++ [⟨i, ⟨op, answer⟩⟩]) := by
  intro j n rx slot
  by_cases same : j = i
  · subst same
    rw [Function.update_self] at slot
    rcases slot_next proper (numbered.latest j) allowed slot with ⟨before, spares⟩ | ⟨conn, rfl, filled⟩
    · exact (held j n rx before).spared spares answered
    · refine .inr (.inr ?_)
      rw [(DispOp.apply_conn answered).2, ConnOp.get_apply_of_touches filled.1]
      exact filled.2
  · rw [Function.update_of_ne same] at slot
    have waits := held j n rx slot
    by_cases spares : op.spares (mgr_id n)
    · exact waits.spared spares answered
    · cases op with
      | conn op =>
        obtain ⟨site, g, here, allowed⟩ := of_conn allowed
        refine waits.touched here proper (fun counted => same ?_) allowed (not_not.mp spares) answered
        exact alone (holds_of_counted (counted_of_slot slot)) (holds_of_counted counted)
      | _ => exact absurd trivial spares

/-! ## Every sent call waits or is settled -/

/-- A `tool.call` on the wire is settled, or its sender waits with its number. -/
def SentKept (tasks : ι → DispTask ι) (phase : ι → DispPhase ι)
    (past : List (PoolEvent ι (DispOp ι))) : Prop :=
  ∀ i id, SentAs past i id →
    (∃ n rx, id = mgr_id n ∧ (phase i).awaits = some (n, rx)) ∨ Settled tasks past i id

/-- The wait on this receiver ends. -/
def DispOp.ends (rx : Nat) : ∀ {β : Type}, DispOp ι β → β → Prop
  | _, .select rx' _, .terminal _ => rx' = rx
  | _, .select_cancel_sent rx' _, _ => rx' = rx
  | _, _, _ => False

omit [DecidableEq ι] in
/-- With the sender of the receiver still unused, only the deadline ends the wait. -/
theorem terminal_of_unspent {rx : Nat} {deadline : Option Nat} {terminal : Terminal}
    (unspent : w.connection.unspent rx) (ended : w.terminal rx deadline = some terminal) :
    terminal = .deadline := by
  have poll : (w.connection.oneshots.cell rx).poll = .pending := by
    rw [Oneshot.poll, unspent.2]
    exact if_pos unspent.1
  rw [DispatcherWorld.terminal, poll] at ended
  simp only [Option.ite_none_right_eq_some, Option.some.injEq] at ended
  exact ended.2.symm

theorem DispOp.gives_up_of_unspent {op : DispOp ι β} {answer : β} {rx : Nat}
    (ends : op.ends rx answer) (answered : op.apply i w = some (answer, w'))
    (unspent : w.connection.unspent rx) : op.gives_up answer := by
  cases op with
  | select rx' deadline =>
    cases answer with
    | terminal terminal =>
      obtain rfl := ends
      simp only [apply] at answered
      split at answered
      · rename_i ended
        cases answered
        obtain rfl := terminal_of_unspent unspent ended
        trivial
      · split at answered <;> cases answered
    | cancelled => exact ends.elim
  | select_cancel_sent rx' deadline =>
    obtain rfl := ends
    obtain ⟨terminal, ended, same⟩ := Option.map_eq_some_iff.mp answered
    cases same
    obtain rfl := terminal_of_unspent unspent ended
    trivial
  | _ => exact ends.elim

omit [DecidableEq ι] in
/-- A call that waits goes on waiting until its wait ends. -/
theorem DispPhase.awaits_next {op : DispOp ι β} {answer : β} {n rx : Nat} {gone : Prop}
    (proper : g.proper task gone) (allowed : dispProtocol.allows g op)
    (awaits : g.awaits = some (n, rx)) :
    (dispProtocol.next g op answer).awaits = some (n, rx) ∨ op.ends rx answer := by
  rcases g with _ | _ | _ | _ | _ | _ | ⟨site, g⟩ | ⟨n', rx', deadline⟩ | ⟨n', rx', deadline⟩ | _
  case conn =>
    cases op with
    | conn op =>
      cases site with
      | cancel n' rx' deadline =>
        refine .inl (Eq.trans ?_ awaits)
        exact (by cases connProtocol.next g op answer <;> rfl :
          (settle (.cancel n' rx' deadline) (connProtocol.next g op answer) : DispPhase ι).awaits =
            some (n', rx'))
      | cancel_drop n' rx' deadline =>
        obtain ⟨_, rfl⟩ := proper
        cases op <;> first | exact allowed.elim | exact .inl awaits
      | _ => cases awaits
    | _ => exact allowed.elim
  case awaiting =>
    cases awaits
    cases op with
    | select rx' deadline' =>
      cases answer with
      | terminal => exact .inr allowed.1
      | cancelled => exact .inl rfl
    | _ => exact allowed.elim
  case cancel_sent =>
    cases awaits
    cases op with
    | select_cancel_sent rx' deadline' => exact .inr allowed.1
    | _ => exact allowed.elim
  all_goals cases awaits

omit [DecidableEq ι] in
/-- A step that puts a `tool.call` on the wire, from the phase of the call on. -/
theorem sent_of_sendEvent {op : DispOp ι β} {answer : β} {j : ι} {id : Id} {params : Value}
    (sited : g.sited task) (allowed : dispProtocol.allows g op)
    (sent : (⟨i, ⟨op, answer⟩⟩ : PoolEvent ι (DispOp ι)) = sendEvent j id params) :
    j = i ∧ ∃ deadline n rx, id = mgr_id n ∧
      g = .conn (.call deadline) (.inserted methods.TOOL_CALL params n rx) ∧
      dispProtocol.next g op answer = .awaiting n rx deadline := by
  cases sent
  obtain ⟨site, g', rfl, allowed⟩ := of_conn allowed
  obtain ⟨method, params, n, rx, rfl, same, -, -⟩ := ConnPhase.of_outbound_send allowed
  cases same
  have sends := sited _ rfl
  cases site with
  | call deadline => exact ⟨rfl, deadline, n, rx, rfl, rfl, rfl⟩
  | cancel n' rx' deadline =>
    have differ : methods.TOOL_CALL ≠ methods.TOOL_CANCEL := by decide
    exact absurd (congrArg Prod.fst sends) differ
  | _ => exact sends.elim

theorem SentKept.step {op : DispOp ι β} {answer : β} (held : SentKept tasks phase past)
    (sited : (phase i).sited (tasks i)) (proper : (phase i).proper (tasks i) (Gone past))
    (placed : Placed phase w past) (slots : SlotsKept tasks phase w past)
    (allowed : dispProtocol.allows (phase i) op) (answered : op.apply i w = some (answer, w')) :
    SentKept tasks (Function.update phase i (dispProtocol.next (phase i) op answer))
      (past ++ [⟨i, ⟨op, answer⟩⟩]) := by
  rintro j id ⟨params, member⟩
  rcases List.mem_append.mp member with old | new
  · rcases held j id ⟨params, old⟩ with ⟨n, rx, rfl, awaits⟩ | settled
    · by_cases same : j = i
      · subst same
        rcases awaits_next proper allowed awaits with still | ends
        · exact .inl ⟨n, rx, rfl, by rwa [Function.update_self]⟩
        · rcases slots j n rx (slot_of_awaits awaits) with gone | responded | filled
          · exact .inr (.gone gone.snoc)
          · exact .inr (.answered responded.snoc)
          · refine .inr (.gave_up ?_)
            have waiting : (Place.slot (mgr_id n)).holds (fun i => (phase i).method)
                w.connection rx := filled
            have unspent := placed.unused waiting
            rw [Pool.project_snoc_self]
            exact did_snoc_of (DispOp.gives_up_of_unspent ends answered unspent)
      · exact .inl ⟨n, rx, rfl, by rwa [Function.update_of_ne same]⟩
    · exact .inr settled.snoc
  · obtain ⟨rfl, deadline, n, rx, rfl, -, next⟩ :=
      sent_of_sendEvent sited allowed (List.mem_singleton.mp new).symm
    exact .inl ⟨n, rx, rfl, by rw [Function.update_self, next]; rfl⟩

/-! ## Runs -/

variable {q : Pool ι (DispOp ι) (DispatcherWorld ι) DispReturn}

/-- What holds of the calls of a dispatcher and of the connection, step by step. -/
structure Kept (tasks : ι → DispTask ι) (phase : ι → DispPhase ι) (w : DispatcherWorld ι)
    (past : List (PoolEvent ι (DispOp ι))) : Prop where
  standing : Standing (fun i => (phase i).stage) w
  sited : ∀ i, (phase i).sited (tasks i)
  proper : ∀ i, (phase i).proper (tasks i) (Gone past)
  placed : Placed phase w past
  numbered : Numbered phase w.connection.next_id
  slots : SlotsKept tasks phase w past
  sent : SentKept tasks phase past

theorem kept_new (tasks : ι → DispTask ι) : Kept tasks (fun i => of_task (tasks i)) .new [] where
  standing := standing_new tasks
  sited i := sited_of_task _
  proper i := proper_of_task _
  placed := placed_new tasks
  numbered := ⟨Nat.two_pow_pos 64, fun i => numbered_of_not_counted (by rw [stage_of_task]; nofun)⟩
  slots i n rx slot := by cases (stage_of_task (tasks i)).symm.trans (counted_of_slot slot)
  sent i id sent := by
    obtain ⟨params, member⟩ := sent
    exact absurd member List.not_mem_nil

theorem Kept.step {op : DispOp ι β} {answer : β} (held : Kept tasks phase w past)
    (allowed : dispProtocol.allows (phase i) op) (answered : op.apply i w = some (answer, w')) :
    Kept tasks (Function.update phase i (dispProtocol.next (phase i) op answer)) w'
      (past ++ [⟨i, ⟨op, answer⟩⟩]) where
  standing := held.standing.step allowed answered
  sited j := by
    rw [Function.update_apply]
    split
    · rename_i same
      rw [same]
      exact sited_next (held.sited i) allowed
    · exact held.sited j
  proper j := by
    rw [Function.update_apply]
    split
    · rename_i same
      rw [same]
      refine proper_next (held.proper i) allowed Gone.snoc fun conn here disconnects => ?_
      subst here
      cases conn with
      | store_disconnected => exact ⟨i, List.mem_append_right _ (List.mem_singleton_self _)⟩
      | _ => exact disconnects.elim
    · exact proper_mono Gone.snoc (held.proper j)
  placed := held.placed.step allowed answered
  numbered := held.numbered.step (held.proper i) held.standing.unique allowed answered
  slots := held.slots.step (held.proper i) held.numbered held.standing.unique allowed answered
  sent := held.sent.step (held.sited i) (held.proper i) held.placed held.slots allowed answered

theorem kept (run : Pool.Run dispSemantics (dispPool tasks) tr q) :
    Kept tasks (phases tasks tr) q.shared tr :=
  (run.invariant (I := Kept tasks) (fun i => (tasks i).follows) (kept_new tasks)
    fun _ _ held allowed answered => held.step allowed answered).1

/-- At most one `tool.call` is waited for. -/
structure OneAtATime (tasks : ι → DispTask ι) (tr : List (PoolEvent ι (DispOp ι))) : Prop where
  /-- The next `tool.call` is sent when all earlier ones are settled. -/
  next_call : ∀ {a b i j id id' params}, tr = a ++ sendEvent j id' params :: b → SentAs a i id →
    Settled tasks a i id
  /-- At every moment at most one `tool.call` is on the wire and not settled. -/
  at_most_one : ∀ {i j id id'}, SentAs tr i id → SentAs tr j id' → ¬ Settled tasks tr i id →
    ¬ Settled tasks tr j id' → i = j ∧ id = id'

/-- **One call at a time**, up to the deadlines of the calls. -/
theorem one_call_at_a_time (run : Pool.Run dispSemantics (dispPool tasks) tr q) :
    OneAtATime tasks tr where
  next_call {a b i j id id' params} same sent := by
    subst same
    obtain ⟨s, s', before, one, -⟩ := run.split
    have held := kept before
    have follows := (standing before).2 j
    rcases held.sent i id sent with ⟨n, rx, rfl, awaits⟩ | settled
    · cases one with
      | @step w w' thread _ _ _ k _ rest answered =>
        have allowed : dispProtocol.allows (phases tasks a j)
            (.conn (.outbound_send (.request id' methods.TOOL_CALL params))) := by
          have here : dispProtocol.Follows returns (phases tasks a j) (thread j) := follows
          rw [rest] at here
          exact here.1
        obtain ⟨-, deadline, n', rx', -, here, -⟩ :=
          sent_of_sendEvent (i := j) (held.sited j) allowed rfl
        have mine : (phases tasks a i).stage.holds :=
          holds_of_counted (counted_of_slot (slot_of_awaits awaits))
        have other : (phases tasks a j).stage.holds := by
          rw [here]
          trivial
        obtain rfl := held.standing.unique mine other
        rw [here] at awaits
        cases awaits
    · exact settled
  at_most_one {i j id id'} sent sent' unsettled unsettled' := by
    have held := kept run
    obtain ⟨n, rx, rfl, awaits⟩ := (held.sent i id sent).resolve_right unsettled
    obtain ⟨n', rx', rfl, awaits'⟩ := (held.sent j id' sent').resolve_right unsettled'
    obtain rfl := held.standing.unique
      (holds_of_counted (counted_of_slot (slot_of_awaits awaits)))
      (holds_of_counted (counted_of_slot (slot_of_awaits awaits')))
    obtain ⟨rfl, rfl⟩ := Prod.mk.inj (Option.some.inj (awaits.symm.trans awaits'))
    exact ⟨rfl, rfl⟩

/-! ## A deadline that passes -/

instance neZero_calls : NeZero 3 := ⟨by decide⟩

/-- A call with a deadline, another call, and the clock. -/
def impatientCall : Fin 3 → DispTask (Fin 3)
  | 0 => .enqueue { name := "echo", arguments := .null } (some 1)
  | 1 => .enqueue { name := "echo", arguments := .null } none
  | 2 => .tick

def disconnects : DispOp ι β → Bool
  | .conn .store_disconnected => true
  | _ => false

/-- The first call is sent, gives up at its deadline, and the second one is sent. -/
def impatientRun : List (PoolEvent (Fin 3) (DispOp (Fin 3))) ×
    Pool (Fin 3) (DispOp (Fin 3)) (DispatcherWorld (Fin 3)) DispReturn :=
  callRun impatientCall
    [0, 0, 0, 0, 0, 0, 0, 0, 0, 2, 0, 0, 0, 0, 0, 1, 1, 1, 1, 1, 1, 1, 1, 1]

/-- The deadline of a call gives its permit to the next one while the client has answered
neither, and the connection is still there. -/
theorem deadline_frees_the_permit :
    ∃ (tasks : Fin 3 → DispTask (Fin 3)) (tr : List (PoolEvent (Fin 3) (DispOp (Fin 3))))
      (q : Pool (Fin 3) (DispOp (Fin 3)) (DispatcherWorld (Fin 3)) DispReturn),
      Pool.Run dispSemantics (dispPool tasks) tr q ∧ ¬ Gone tr ∧
      ∃ i j id id', i ≠ j ∧ SentAs tr i id ∧ SentAs tr j id' ∧
        ¬ Answered tasks tr id ∧ ¬ Answered tasks tr id' := by
  have silent (id : Id) (tr : List (PoolEvent (Fin 3) (DispOp (Fin 3)))) :
      ¬ Answered impatientCall tr id := by
    rintro ⟨r, result, rx, task, -⟩
    obtain ⟨_ | _ | _ | r, bound⟩ := r
    · cases task
    · cases task
    · cases task
    · omega
  have connected : impatientRun.1.any (fun ev => disconnects ev.event.request) = false := rfl
  refine ⟨impatientCall, impatientRun.1, impatientRun.2, callRun_run _ _, ?_, 0, 1, mgr_id 0, mgr_id 1,
    by decide, ⟨_, List.mem_iff_getElem?.mpr ⟨8, rfl⟩⟩, ⟨_, List.mem_iff_getElem?.mpr ⟨23, rfl⟩⟩,
    silent _ _, silent _ _⟩
  rintro ⟨r, member⟩
  cases connected.symm.trans (List.any_eq_true.mpr ⟨_, member, rfl⟩)

theorem impatient_calls_take_turns : OneAtATime impatientCall impatientRun.1 :=
  one_call_at_a_time (callRun_run impatientCall _)

end SessionManager
