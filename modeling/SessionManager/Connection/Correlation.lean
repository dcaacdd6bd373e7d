import SessionManager.Connection.Drain

/-!
# Which response reaches which caller

Any number of requests, responses, cancellations and drains on one handle, with
receivers dropped at any time.  Request numbers and channels are handed out in
order, and a channel is filled at most once, by the first response that finds
its slot.

`correlation_iff` settles what the boolean of `complete_response` says.  It reports
whether the receiver took the result, so a pending id whose caller has gone away
is reported as unknown.
-/

namespace SessionManager

open Json Effect

variable {ι : Type} [DecidableEq ι] {tasks : ι → ConnTask} {h : ConnectionHandle}
  {q : Pool ι ConnOp ConnectionHandle ConnReturn} {tr : List (PoolEvent ι ConnOp)}

/-! ## What one task does -/

/-- `complete_response` takes one slot, and delivers to the channel it found there. -/
theorem complete_response_exec {id : Id} {result : RpcResult} {l : List (Event ConnOp)}
    {rest : Prog ConnOp ConnReturn}
    (run : Exec (ConnTask.complete_response id result).prog l rest) :
    l = [] ∨ (l = [⟨.pending_take id, none⟩] ∧ rest = .ret (.completed false)) ∨
      ∃ tx, (l = [⟨.pending_take id, some tx⟩] ∧
          rest = .op (.oneshot_send tx result) fun known => .ret (.completed known)) ∨
        ∃ known, l = [⟨.pending_take id, some tx⟩, ⟨.oneshot_send tx result, known⟩] ∧
          rest = .ret (.completed known) := by
  cases run with
  | refl => exact .inl rfl
  | step slot run =>
    refine .inr ?_
    cases slot with
    | none =>
      obtain ⟨rfl, rfl⟩ := run.of_ret
      exact .inl ⟨rfl, rfl⟩
    | some tx =>
      refine .inr ⟨tx, ?_⟩
      cases run with
      | refl => exact .inl ⟨rfl, rfl⟩
      | step known run =>
        obtain ⟨rfl, rfl⟩ := run.of_ret
        exact .inr ⟨known, rfl, rfl⟩

theorem ConnTask.only_response_sends {task : ConnTask}
    (other : ∀ id result, task ≠ .complete_response id result) :
    task.prog.Only fun op => ∀ tx, ¬ op.sends tx := by
  cases task with
  | complete_response id result => exact absurd rfl (other id result)
  | dispatch_request method params =>
    refine ⟨nofun, fun state => ?_⟩
    cases state with
    | Disconnected => trivial
    | Active =>
      refine ⟨nofun, fun n => ⟨nofun, fun rx => ⟨nofun, fun _ => ⟨nofun, fun sent => ?_⟩⟩⟩⟩
      cases sent with
      | accepted => trivial
      | receiver_gone => exact ⟨nofun, fun _ => trivial⟩
      | no_sender => exact ⟨nofun, fun _ => trivial⟩
  | cancel_pending id => exact ⟨nofun, fun _ => trivial⟩
  | drain_pending =>
    exact ⟨nofun, fun _ => ⟨nofun, fun _ => ⟨nofun, fun _ => ⟨nofun, fun _ => trivial⟩⟩⟩⟩
  | drop_receiver rx => exact ⟨nofun, fun _ => trivial⟩
  | close_writer => exact ⟨nofun, fun _ => trivial⟩

theorem ConnTask.only_request_fills {task : ConnTask}
    (other : ∀ method params, task ≠ .dispatch_request method params) :
    task.prog.Only fun op => op.leaves = none := by
  cases task with
  | dispatch_request method params => exact absurd rfl (other method params)
  | complete_response id result =>
    refine ⟨rfl, fun slot => ?_⟩
    cases slot with
    | none => trivial
    | some tx => exact ⟨rfl, fun _ => trivial⟩
  | cancel_pending id => exact ⟨rfl, fun _ => trivial⟩
  | drain_pending =>
    exact ⟨rfl, fun _ => ⟨rfl, fun _ => ⟨rfl, fun _ => ⟨rfl, fun _ => trivial⟩⟩⟩⟩
  | drop_receiver rx => exact ⟨rfl, fun _ => trivial⟩
  | close_writer => exact ⟨rfl, fun _ => trivial⟩

/-- Only responses deliver, each once and to the channel its slot held. -/
theorem delivered_by_response {j : ι} {tx : Nat} {result : RpcResult} {known : Bool}
    (run : Pool.Run connSemantics (connPool .new tasks) tr q)
    (sent : ⟨j, ⟨.oneshot_send tx result, known⟩⟩ ∈ tr) :
    ∃ id, tasks j = .complete_response id result ∧
      ⟨j, ⟨.pending_take id, some tx⟩⟩ ∈ tr ∧ q.thread j = .ret (.completed known) := by
  have own : Exec (tasks j).prog (Pool.project j tr) (q.thread j) := run.project j
  rw [← Pool.mem_project] at sent
  by_cases other : ∀ id result, tasks j ≠ .complete_response id result
  · exact absurd rfl (own.only (ConnTask.only_response_sends other) _ sent tx)
  · simp only [not_forall, not_not] at other
    obtain ⟨id, result', task⟩ := other
    rw [task] at own
    have differ (slot : Option Nat) : (⟨.oneshot_send tx result, known⟩ : Event ConnOp) ≠
        ⟨.pending_take id, slot⟩ := Event.ne_of (P := fun op => op.sends tx) rfl nofun
    rcases complete_response_exec own with l | ⟨l, -⟩ | ⟨tx', ⟨l, -⟩ | ⟨known', l, done⟩⟩
    all_goals simp only [l, List.mem_cons, differ, List.not_mem_nil, or_false, false_or] at sent
    cases sent
    refine ⟨id, task, ?_, done⟩
    rw [← Pool.mem_project, l]
    exact List.mem_cons_self ..

/-- A task that fills a slot opened the channel it puts there, and drew the slot's number. -/
theorem opened_by_request {i : ι} {tx : Nat} {id : Id}
    (run : Pool.Run connSemantics (connPool .new tasks) tr q)
    (filled : ⟨i, ⟨.pending_insert id tx, ()⟩⟩ ∈ tr) : ⟨i, ⟨.oneshot_channel, tx⟩⟩ ∈ tr := by
  have own : Exec (tasks i).prog (Pool.project i tr) (q.thread i) := run.project i
  rw [← Pool.mem_project] at filled ⊢
  generalize Pool.project i tr = l, q.thread i = rest at own filled ⊢
  by_cases other : ∀ method params, tasks i ≠ .dispatch_request method params
  · exact absurd (own.only (ConnTask.only_request_fills other) _ filled) nofun
  · simp only [not_forall, not_not] at other
    obtain ⟨method, params, task⟩ := other
    rw [task] at own
    have none {l : List (Event ConnOp)} {p : Prop} (filled : ⟨.pending_insert id tx, ()⟩ ∈ l)
        (quiet : ∀ ev ∈ l, ev.request.leaves = none) : p :=
      absurd (quiet _ filled) nofun
    -- four requests before the slot is filled: read the state, draw, open, insert
    rcases own with _ | ⟨state, own⟩
    · exact none filled nofun
    cases state with
    | Disconnected =>
      obtain ⟨rfl, -⟩ := own.of_ret
      exact none filled (by simp [ConnOp.leaves])
    | Active =>
      rcases own with _ | ⟨n, own⟩
      · exact none filled (by simp [ConnOp.leaves])
      rcases own with _ | ⟨rx, own⟩
      · exact none filled (by simp [ConnOp.leaves])
      rcases own with _ | ⟨_, own⟩
      · exact none filled (by simp [ConnOp.leaves])
      have later := Exec.only (P := fun op => op.leaves = Option.none) own ⟨rfl, fun sent => by
        cases sent with
        | accepted => trivial
        | receiver_gone => exact ⟨rfl, fun _ => trivial⟩
        | no_sender => exact ⟨rfl, fun _ => trivial⟩⟩
      have here : (⟨.pending_insert id tx, ()⟩ : Event ConnOp) = ⟨.pending_insert (mgr_id n) rx, ()⟩ := by
        simp only [List.mem_cons] at filled
        rcases filled with same | same | same | same | late
        · exact none (List.mem_singleton.mpr same) (by simp [ConnOp.leaves])
        · exact none (List.mem_singleton.mpr same) (by simp [ConnOp.leaves])
        · exact none (List.mem_singleton.mpr same) (by simp [ConnOp.leaves])
        · exact same
        · exact none late later
      cases here
      simp only [List.mem_cons, true_or, or_true]

/-! ## What a channel carries -/

/-- Delivering `result` to a receiver that is still there. -/
def ConnOp.delivers (rx : Nat) (result : RpcResult) : ∀ {β : Type}, ConnOp β → β → Prop
  | _, .oneshot_send tx result', known => tx = rx ∧ result' = result ∧ known = true
  | _, _, _ => False

theorem ConnOp.sends_of_delivers {β : Type} {op : ConnOp β} {answer : β} {rx : Nat}
    {result : RpcResult} (delivers : op.delivers rx result answer) : op.sends rx := by
  cases op with
  | oneshot_send => exact delivers.1
  | _ => exact delivers.elim

/-- A section keeps what a channel carries, delivers to it, or opens it. -/
theorem ConnOp.value_apply {β : Type} (op : ConnOp β) (rx : Nat) :
    ((op.apply h).2.oneshots.cell rx).value = (h.oneshots.cell rx).value ∨
      (rx = h.oneshots.next ∧ ((op.apply h).2.oneshots.cell rx).value = none) ∨
      ∃ result, op.delivers rx result (op.apply h).1 ∧
        ((op.apply h).2.oneshots.cell rx).value = some result := by
  cases op with
  | oneshot_channel =>
    rw [apply, Arena.cell_alloc]
    split
    · rename_i new
      exact .inr (.inl ⟨new, rfl⟩)
    · exact .inl rfl
  | oneshot_send tx result =>
    rw [apply, Arena.cell_modify]
    split
    · rename_i same
      subst same
      rw [Oneshot.send_value]
      split
      · rename_i receiver
        exact .inr (.inr ⟨result, ⟨rfl, rfl, (Oneshot.send_fst _ _).trans receiver⟩, rfl⟩)
      · exact .inl rfl
    · exact .inl rfl
  | pending_insert id tx => exact .inl (h.remove_slot_value id rx)
  | pending_remove id => exact .inl (h.remove_slot_value id rx)
  | drop_senders txs => exact .inl (h.drop_senders_value txs rx)
  | drop_receiver rx' =>
    rw [apply, Arena.cell_modify]
    split
    · rename_i same
      subst same
      exact .inl rfl
    · exact .inl rfl
  | outbound_send msg =>
    have kept := (apply_of_inert (h := h) (show (outbound_send msg).inert from trivial)).2
    exact .inl (by rw [kept])
  | _ => exact .inl rfl

/-- What a delivery puts into its channel. -/
theorem ConnOp.value_of_delivers {β : Type} {op : ConnOp β} {rx : Nat} {result : RpcResult}
    (delivers : op.delivers rx result (op.apply h).1) :
    ((op.apply h).2.oneshots.cell rx).value = some result := by
  cases op with
  | oneshot_send tx result' =>
    obtain ⟨rfl, rfl, known⟩ := delivers
    rw [apply, Arena.cell_modify, if_pos rfl, Oneshot.send_value, if_pos]
    exact (Oneshot.send_fst _ _).symm.trans known
  | _ => exact delivers.elim

/-- What a channel carries was delivered to it. -/
theorem delivered_of_value {rx : Nat} {result : RpcResult}
    (run : Pool.Run connSemantics (connPool .new tasks) tr q)
    (value : (q.shared.oneshots.cell rx).value = some result) :
    ∃ j, ⟨j, ⟨.oneshot_send rx result, true⟩⟩ ∈ tr := by
  revert value
  refine run.replay.history (I := fun h past => (h.oneshots.cell rx).value = some result →
    ∃ j, ⟨j, ⟨.oneshot_send rx result, true⟩⟩ ∈ past) nofun ?_
  intro h h' past i β op answer before answered value
  obtain ⟨rfl, rfl⟩ : (op.apply h).1 = answer ∧ (op.apply h).2 = h' :=
    ⟨congrArg Prod.fst answered, congrArg Prod.snd answered⟩
  rcases op.value_apply rx with kept | ⟨-, reset⟩ | ⟨result', delivers, put⟩
  · obtain ⟨j, member⟩ := before (kept.symm.trans value)
    exact ⟨j, List.mem_append_left _ member⟩
  · cases reset.symm.trans value
  · cases put.symm.trans value
    refine ⟨i, List.mem_append_right _ (List.mem_singleton.mpr ?_)⟩
    cases op with
    | oneshot_send tx result' =>
      obtain ⟨rfl, rfl, known⟩ := delivers
      rw [known]
    | _ => exact delivers.elim

/-- Nothing is sent on a channel twice, so a delivery is what the channel carries for good. -/
theorem value_of_delivered {rx : Nat} {result : RpcResult} {j : ι}
    (run : Pool.Run connSemantics (connPool .new tasks) tr q)
    (delivered : ⟨j, ⟨.oneshot_send rx result, true⟩⟩ ∈ tr) :
    (q.shared.oneshots.cell rx).value = some result := by
  induction run with
  | nil => exact absurd delivered List.not_mem_nil
  | @snoc q r past ev before one ih =>
    have placed := (senders_placed before).1
    have once := (senders_placed (before.snoc one)).1.once
    cases one with
    | @step s s' thread i β op k answer rest answered =>
      obtain ⟨known, rfl⟩ : (op.apply s).1 = answer ∧ (op.apply s).2 = s' :=
        ⟨congrArg Prod.fst answered, congrArg Prod.snd answered⟩
      rcases List.mem_append.mp delivered with old | new
      · rcases op.value_apply (h := s) rx with kept | ⟨next, -⟩ | ⟨result', delivers, -⟩
        · exact kept.trans (ih old)
        · exact absurd (placed.used _ old rx rfl).1 (next ▸ Nat.lt_irrefl _)
        · have apart := (List.pairwise_append.mp once).2.2 _ old _ (List.mem_singleton_self _)
          exact absurd (ConnOp.sends_of_delivers delivers) (apart rx rfl)
      · cases List.mem_singleton.mp new
        exact ConnOp.value_of_delivers ⟨rfl, rfl, known⟩

/-! ## First responses -/

/-- `j` took the slot of call `i`, and nothing had touched the slot since `i` filled it: no
other response, no cancellation, no drain. -/
def FirstResponse (tr : List (PoolEvent ι ConnOp)) (i : ι) (id : Id) (rx : Nat) (j : ι) : Prop :=
  ∃ a b c slot, tr = a ++ ⟨i, ⟨.pending_insert id rx, ()⟩⟩ ::
      (b ++ ⟨j, ⟨.pending_take id, slot⟩⟩ :: c) ∧
    ∀ ev ∈ b, ¬ ev.event.request.touches id

/-- Two openings of one channel are one. -/
theorem opened_once {i j : ι} {rx : Nat} (run : Pool.Run connSemantics (connPool .new tasks) tr q)
    (mine : ⟨i, ⟨.oneshot_channel, rx⟩⟩ ∈ tr) (other : ⟨j, ⟨.oneshot_channel, rx⟩⟩ ∈ tr) : i = j := by
  have nodup : (opened tr).Nodup := by
    rw [opened_history run.replay rfl]
    exact List.nodup_range
  have same := Trace.eq_of_nodup_filterMap nodup mine other rfl rfl
  exact congrArg PoolEvent.tid same

/-- What is delivered to a channel is the first response to the call that filled its slot. -/
theorem first_response_of_delivered {j : ι} {rx : Nat} {result : RpcResult} {known : Bool}
    (run : Pool.Run connSemantics (connPool .new tasks) tr q)
    (sent : ⟨j, ⟨.oneshot_send rx result, known⟩⟩ ∈ tr) :
    ∃ i id, tasks j = .complete_response id result ∧ FirstResponse tr i id rx j := by
  obtain ⟨id, task, took, -⟩ := delivered_by_response run sent
  obtain ⟨s, a, c, s', rfl, before, one⟩ := run.takenIn took
  have found : s.shared.pending.get id = some rx := by
    cases one with
    | step _ answered => exact congrArg Prod.fst answered
  obtain ⟨i, a, b, rfl, quiet⟩ := (slot_history before.replay (fun _ => HashMap.get_empty _) id rx).mp found
  exact ⟨i, id, task, a, b, c, some rx, by rw [List.append_assoc, List.cons_append], quiet⟩

omit [DecidableEq ι] in
theorem FirstResponse.filled {i j : ι} {id : Id} {rx : Nat} (first : FirstResponse tr i id rx j) :
    ⟨i, ⟨.pending_insert id rx, ()⟩⟩ ∈ tr := by
  obtain ⟨a, b, c, slot, rfl, -⟩ := first
  exact List.mem_append_right a (List.mem_cons_self ..)

/-- The first response to a call found the call's channel in the slot. -/
theorem FirstResponse.took {i j : ι} {id : Id} {rx : Nat}
    (run : Pool.Run connSemantics (connPool .new tasks) tr q) (first : FirstResponse tr i id rx j) :
    ⟨j, ⟨.pending_take id, some rx⟩⟩ ∈ tr := by
  obtain ⟨a, b, c, slot, rfl, quiet⟩ := first
  have regrouped : a ++ ⟨i, ⟨.pending_insert id rx, ()⟩⟩ :: (b ++ ⟨j, ⟨.pending_take id, slot⟩⟩ :: c) =
      (a ++ ⟨i, ⟨.pending_insert id rx, ()⟩⟩ :: b) ++ ⟨j, ⟨.pending_take id, slot⟩⟩ :: c := by
    rw [List.append_assoc, List.cons_append]
  rw [regrouped] at run ⊢
  obtain ⟨s, s', before, one, -⟩ := run.split
  have found := (slot_history before.replay (fun _ => HashMap.get_empty _) id rx).mpr ⟨i, a, b, rfl, quiet⟩
  cases one with
  | step _ answered =>
    have same : slot = some rx := (congrArg Prod.fst answered).symm.trans found
    rw [same]
    exact List.mem_append_right _ (List.mem_cons_self ..)

/-! ## Calls that were handed a receiver -/

theorem dispatch_request_of_dispatched {task : ConnTask} {l : List (Event ConnOp)}
    {result : Except ConnectionCallError (Id × Nat)}
    (run : Exec task.prog l (.ret (.dispatched result))) :
    ∃ method params, task = .dispatch_request method params := by
  cases task with
  | dispatch_request method params => exact ⟨method, params, rfl⟩
  | complete_response id result =>
    rcases complete_response_exec run with rfl | ⟨-, done⟩ | ⟨tx, ⟨-, done⟩ | ⟨known, -, done⟩⟩
    · cases run
    all_goals cases done
  | drain_pending =>
    cases run with | step _ run => cases run with | step _ run =>
    cases run with | step _ run => cases run with | step _ run =>
    cases run.of_ret.2
  | _ =>
    cases run with | step _ run =>
    cases run.of_ret.2

/-- A call that was handed a receiver drew the number of its id, opened the channel, and
filled that one slot only. -/
theorem handed_out {i : ι} {id : Id} {rx : Nat}
    (run : Pool.Run connSemantics (connPool .new tasks) tr q)
    (handed : q.thread i = .ret (.dispatched (.ok (id, rx)))) :
    (∃ n, id = mgr_id n ∧ ⟨i, ⟨.fetch_add_id, n⟩⟩ ∈ tr) ∧ ⟨i, ⟨.oneshot_channel, rx⟩⟩ ∈ tr ∧
      ∀ id' rx', ⟨i, ⟨.pending_insert id' rx', ()⟩⟩ ∈ tr → id' = id := by
  have own : Exec (tasks i).prog (Pool.project i tr) (q.thread i) := run.project i
  rw [handed] at own
  obtain ⟨method, params, task⟩ := dispatch_request_of_dispatched own
  rw [task] at own
  rcases dispatch_request_exec own with ⟨-, refused⟩ | ⟨n, rx', sent, rest, requests, how⟩
  · cases refused
  · rcases how with ⟨-, rfl, same⟩ | ⟨-, -, refused⟩
    · cases same
      simp only [← Pool.mem_project, requests]
      refine ⟨⟨n, rfl, by simp⟩, by simp, fun id' rx' filled => ?_⟩
      have differ {ev : Event ConnOp} (quiet : ev.request.leaves = none) :
          (⟨.pending_insert id' rx', ()⟩ : Event ConnOp) ≠ ev :=
        Event.ne_of (P := fun op => op.leaves ≠ none) (fun same => by cases same) (not_not.mpr quiet)
      simp only [List.mem_cons, List.not_mem_nil, or_false] at filled
      rcases filled with same | same | same | same | same
      · exact absurd same (differ rfl)
      · exact absurd same (differ rfl)
      · exact absurd same (differ rfl)
      · cases same
        rfl
      · exact absurd same (differ rfl)
    · cases refused

/-! ## The boolean of `complete_response` -/

/-- The id of response `j` was in the table at the moment `j` looked it up. -/
def FoundPending (tasks : ι → ConnTask) (tr : List (PoolEvent ι ConnOp)) (j : ι) : Prop :=
  ∃ s id slot, Pool.TakenIn connSemantics (connPool .new tasks) tr ⟨j, ⟨.pending_take id, slot⟩⟩ s ∧
    (s.shared.pending.get id).isSome

/-- The receiver of the call had been dropped when `j` delivered its result. -/
def ReceiverGone (tasks : ι → ConnTask) (tr : List (PoolEvent ι ConnOp)) (j : ι) : Prop :=
  ∃ s tx result known, Pool.TakenIn connSemantics (connPool .new tasks) tr
      ⟨j, ⟨.oneshot_send tx result, known⟩⟩ s ∧
    (s.shared.oneshots.cell tx).receiver = false

/-- A response that took a channel out of the table had found its id there. -/
theorem foundPending_of_took {j : ι} {id : Id} {tx : Nat}
    (run : Pool.Run connSemantics (connPool .new tasks) tr q)
    (took : ⟨j, ⟨.pending_take id, some tx⟩⟩ ∈ tr) : FoundPending tasks tr j := by
  obtain ⟨s, taken⟩ := run.takenIn took
  obtain ⟨s', answered⟩ := taken.answered
  exact ⟨s, id, some tx, taken, congrArg Option.isSome (congrArg Prod.fst answered)⟩

/-- A delivery reports whether the receiver was still there. -/
theorem known_of_taken {j : ι} {tx : Nat} {result : RpcResult} {known : Bool}
    {s : Pool ι ConnOp ConnectionHandle ConnReturn}
    (taken : Pool.TakenIn connSemantics (connPool .new tasks) tr
      ⟨j, ⟨.oneshot_send tx result, known⟩⟩ s) :
    known = (s.shared.oneshots.cell tx).receiver := by
  obtain ⟨s', answered⟩ := taken.answered
  exact (congrArg Prod.fst answered).symm.trans (Oneshot.send_fst _ _)

/-- `complete_response` returns true when its id was pending and the receiver alive. -/
theorem completed_iff {j : ι} {id : Id} {result : RpcResult} {known : Bool}
    (run : Pool.Run connSemantics (connPool .new tasks) tr q)
    (task : tasks j = .complete_response id result) (done : q.thread j = .ret (.completed known)) :
    known = true ↔ FoundPending tasks tr j ∧ ¬ ReceiverGone tasks tr j := by
  have own : Exec (tasks j).prog (Pool.project j tr) (q.thread j) := run.project j
  rw [task, done] at own
  have looked {slot : Option Nat} {s : Pool ι ConnOp ConnectionHandle ConnReturn}
      (taken : Pool.TakenIn connSemantics (connPool .new tasks) tr ⟨j, ⟨.pending_take id, slot⟩⟩ s) :
      s.shared.pending.get id = slot := by
    obtain ⟨s', answered⟩ := taken.answered
    exact congrArg Prod.fst answered
  have differ {id : Id} {slot : Option Nat} {tx : Nat} {result : RpcResult} {known : Bool} :
      (⟨.oneshot_send tx result, known⟩ : Event ConnOp) ≠ ⟨.pending_take id, slot⟩ :=
    Event.ne_of (P := fun op => op.sends tx) rfl nofun
  rcases complete_response_exec own with l | ⟨l, unknown⟩ | ⟨tx, ⟨-, pending⟩ | ⟨known', l, same⟩⟩
  · rw [l] at own
    cases own
  · -- the id was unknown
    cases unknown
    refine ⟨nofun, ?_⟩
    rintro ⟨⟨s, id', slot, taken, found⟩, -⟩
    have here := taken.mem
    rw [← Pool.mem_project, l] at here
    cases List.mem_singleton.mp here
    rw [looked taken] at found
    cases found
  · cases pending
  · cases same
    have took : ⟨j, ⟨.pending_take id, some tx⟩⟩ ∈ tr := by
      rw [← Pool.mem_project, l]
      exact List.mem_cons_self ..
    have sent : ⟨j, ⟨.oneshot_send tx result, known⟩⟩ ∈ tr := by
      rw [← Pool.mem_project, l]
      exact List.mem_cons_of_mem _ (List.mem_cons_self ..)
    constructor
    · rintro rfl
      refine ⟨foundPending_of_took run took, ?_⟩
      rintro ⟨s, tx', result', known', taken, gone⟩
      have here := taken.mem
      rw [← Pool.mem_project, l] at here
      simp only [List.mem_cons, differ, List.not_mem_nil, or_false, false_or] at here
      cases here
      rw [← known_of_taken taken] at gone
      cases gone
    · rintro ⟨-, alive⟩
      obtain ⟨s, taken⟩ := run.takenIn sent
      rw [known_of_taken taken]
      by_contra gone
      exact alive ⟨s, tx, result, known, taken, Bool.eq_false_iff.mpr gone⟩

/-- A response whose receiver was gone had found its id pending. -/
theorem ReceiverGone.found {j : ι} (run : Pool.Run connSemantics (connPool .new tasks) tr q)
    (gone : ReceiverGone tasks tr j) :
    ∃ id result, tasks j = .complete_response id result ∧
      q.thread j = .ret (.completed false) ∧ FoundPending tasks tr j := by
  obtain ⟨s, tx, result, known, taken, gone⟩ := gone
  obtain ⟨id, task, took, done⟩ := delivered_by_response run taken.mem
  rw [known_of_taken taken, gone] at done
  exact ⟨id, result, task, done, foundPending_of_took run took⟩

/-! ## The correlation of a run -/

/-- The request ids issued during a run. -/
def issued (tr : List (PoolEvent ι ConnOp)) : List Id := (drawn tr).map mgr_id

/-- What the handle promises about ids, slots and receivers. -/
structure Correlated (tasks : ι → ConnTask) (tr : List (PoolEvent ι ConnOp))
    (q : Pool ι ConnOp ConnectionHandle ConnReturn) : Prop where
  /-- Every request id is issued once. -/
  issued_once : (issued tr).Nodup
  /-- Two calls never share an id or a receiver. -/
  own_slot : ∀ {i j : ι} {id id' : Id} {rx rx' : Nat}, i ≠ j →
    q.thread i = .ret (.dispatched (.ok (id, rx))) →
    q.thread j = .ret (.dispatched (.ok (id', rx'))) → id ≠ id' ∧ rx ≠ rx'
  /-- Every receiver is sent at most one result. -/
  one_result : tr.Pairwise fun ev ev' =>
    ∀ rx, ev.event.request.sends rx → ¬ ev'.event.request.sends rx
  /-- A receiver holds the first response to its call, once that response delivered it. -/
  first_response : ∀ {i : ι} {id : Id} {rx : Nat}, q.thread i = .ret (.dispatched (.ok (id, rx))) →
    ∀ result, (q.shared.oneshots.cell rx).value = some result ↔
      ∃ j, tasks j = .complete_response id result ∧ FirstResponse tr i id rx j ∧
        q.thread j = .ret (.completed true)

/-- `complete_response` returns true exactly when its id was pending. -/
def KnownExactly (tasks : ι → ConnTask) (tr : List (PoolEvent ι ConnOp))
    (q : Pool ι ConnOp ConnectionHandle ConnReturn) : Prop :=
  ∀ {j : ι} {id : Id} {result : RpcResult} {known : Bool},
    tasks j = .complete_response id result → q.thread j = .ret (.completed known) →
    (known = true ↔ FoundPending tasks tr j)

theorem issued_nodup (run : Pool.Run connSemantics (connPool .new tasks) tr q)
    (few : (drawn tr).length < 2 ^ 64) : (issued tr).Nodup := by
  rw [issued, (drawn_history run.replay rfl).2 (Nat.le_of_lt few)]
  exact List.nodup_range.map mgr_id_injective

/-- The value of a receiver that was handed out. -/
theorem value_iff_first_response {i : ι} {id : Id} {rx : Nat} {result : RpcResult}
    (run : Pool.Run connSemantics (connPool .new tasks) tr q)
    (handed : q.thread i = .ret (.dispatched (.ok (id, rx)))) :
    (q.shared.oneshots.cell rx).value = some result ↔
      ∃ j, tasks j = .complete_response id result ∧ FirstResponse tr i id rx j ∧
        q.thread j = .ret (.completed true) := by
  obtain ⟨-, opened, only⟩ := handed_out run handed
  constructor
  · intro value
    obtain ⟨j, sent⟩ := delivered_of_value run value
    obtain ⟨i', id', task, first⟩ := first_response_of_delivered run sent
    obtain ⟨-, -, -, done⟩ := delivered_by_response run sent
    obtain rfl := opened_once run opened (opened_by_request run first.filled)
    obtain rfl := only id' rx first.filled
    exact ⟨j, task, first, done⟩
  · rintro ⟨j, task, first, done⟩
    have took := first.took run
    have own : Exec (tasks j).prog (Pool.project j tr) (q.thread j) := run.project j
    rw [task, done] at own
    rw [← Pool.mem_project] at took
    rcases complete_response_exec own with l | ⟨-, unknown⟩ | ⟨tx, ⟨-, pending⟩ | ⟨known, l, known'⟩⟩
    · rw [l] at took
      exact absurd took List.not_mem_nil
    · cases unknown
    · cases pending
    · cases known'
      have differ : (⟨.pending_take id, some rx⟩ : Event ConnOp) ≠ ⟨.oneshot_send tx result, true⟩ :=
        (Event.ne_of (P := fun op => op.sends tx) rfl nofun).symm
      rw [l] at took
      simp only [List.mem_cons, differ, List.not_mem_nil, or_false] at took
      cases took
      refine value_of_delivered (j := j) run ?_
      rw [← Pool.mem_project, l]
      exact List.mem_cons_of_mem _ (List.mem_cons_self ..)

/-- **Correlation.**  With fewer than `2 ^ 64` requests, every run keeps its ids, slots and
receivers apart. -/
theorem correlated (run : Pool.Run connSemantics (connPool .new tasks) tr q)
    (few : (drawn tr).length < 2 ^ 64) : Correlated tasks tr q where
  issued_once := issued_nodup run few
  own_slot {i j id id' rx rx'} differ handed handed' := by
    obtain ⟨⟨n, rfl, drew⟩, opened, -⟩ := handed_out run handed
    obtain ⟨⟨n', rfl, drew'⟩, opened', -⟩ := handed_out run handed'
    constructor
    · intro same
      obtain rfl := mgr_id_injective same
      have nodup : (drawn tr).Nodup := by
        rw [(drawn_history run.replay rfl).2 (Nat.le_of_lt few)]
        exact List.nodup_range
      exact differ (congrArg PoolEvent.tid (Trace.eq_of_nodup_filterMap nodup drew drew' rfl rfl))
    · rintro rfl
      exact differ (opened_once run opened opened')
  one_result := (senders_placed run).1.once
  first_response handed _ := value_iff_first_response run handed

/-- **What the boolean tells.**  With fewer than `2 ^ 64` requests, ids, slots and receivers are
kept apart, and `complete_response` returns true exactly for pending ids, if and only if no
response comes to a pending id whose receiver is gone. -/
theorem correlation_iff (run : Pool.Run connSemantics (connPool .new tasks) tr q)
    (few : (drawn tr).length < 2 ^ 64) :
    (Correlated tasks tr q ∧ KnownExactly tasks tr q) ↔ ∀ j, ¬ ReceiverGone tasks tr j := by
  constructor
  · rintro ⟨-, exact⟩ j gone
    obtain ⟨id, result, task, done, found⟩ := gone.found run
    cases (exact task done).mpr found
  · intro alive
    refine ⟨correlated run few, fun {j id result known} task done => ?_⟩
    exact (completed_iff run task done).trans (and_iff_left (alive j))

/-! ## A caller that went away -/

/-- A request, its caller dropping the receiver, and the response. -/
def replyTasks : Fin 3 → ConnTask
  | 0 => .dispatch_request methods.TOOL_CANCEL .null
  | 1 => .drop_receiver 0
  | 2 => .complete_response (mgr_id 0) (.ok .null)

def replyRun (schedule : List (Fin 3)) :
    List (PoolEvent (Fin 3) ConnOp) × Pool (Fin 3) ConnOp ConnectionHandle ConnReturn :=
  Pool.play (fun _ h _ op => some (op.apply h)) schedule (connPool .new replyTasks)

theorem replyRun_run (schedule : List (Fin 3)) :
    Pool.Run connSemantics (connPool .new replyTasks) (replyRun schedule).1 (replyRun schedule).2 :=
  .play (fun _ _ _ _ _ _ given => Option.some.inj given) schedule _

/-- The response comes to a pending id whose receiver was dropped, and is reported as unknown. -/
theorem abandoned_response_is_unknown :
    ∃ (tasks : Fin 3 → ConnTask) (tr : List (PoolEvent (Fin 3) ConnOp))
      (q : Pool (Fin 3) ConnOp ConnectionHandle ConnReturn),
      Pool.Run connSemantics (connPool .new tasks) tr q ∧ (drawn tr).length < 2 ^ 64 ∧
      (∃ j, q.thread j = .ret (.completed false) ∧ FoundPending tasks tr j) ∧
      ¬ KnownExactly tasks tr q := by
  have run := replyRun_run [0, 0, 0, 0, 0, 1, 2, 2]
  have found := foundPending_of_took (j := 2) run (List.mem_iff_getElem?.mpr ⟨6, rfl⟩)
  refine ⟨replyTasks, _, _, run, by decide, ⟨2, rfl, found⟩, fun exact => ?_⟩
  cases (exact (j := 2) rfl rfl).mpr found

/-- A response that comes while its caller waits. -/
theorem awaited_response_is_known :
    (Correlated replyTasks (replyRun [0, 0, 0, 0, 0, 2, 2]).1 (replyRun [0, 0, 0, 0, 0, 2, 2]).2 ∧
      KnownExactly replyTasks (replyRun [0, 0, 0, 0, 0, 2, 2]).1
        (replyRun [0, 0, 0, 0, 0, 2, 2]).2) ↔
      ∀ j, ¬ ReceiverGone replyTasks (replyRun [0, 0, 0, 0, 0, 2, 2]).1 j :=
  correlation_iff (replyRun_run [0, 0, 0, 0, 0, 2, 2]) (by decide)

end SessionManager
