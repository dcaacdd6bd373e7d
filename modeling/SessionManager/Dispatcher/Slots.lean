import SessionManager.Dispatcher.Fifo

/-!
# What a call leaves in the pending table

A call fills a slot for its `tool.call` and, when it is cancelled, another for its
`tool.cancel`.  Whatever ends the wait for the first empties its slot.  The receiver of the
second is dropped at once and nobody waits for it, so its slot is emptied only by the client,
by a drain, or by the call itself when the writer is gone (`slots_freed_iff`).
-/

namespace SessionManager

open Json Effect DispPhase

variable {ι : Type} [DecidableEq ι] {phase : ι → DispPhase ι} {w w' : DispatcherWorld ι} {i : ι}
  {g : DispPhase ι} {β : Type} {tasks : ι → DispTask ι} {past tr : List (PoolEvent ι (DispOp ι))}
  {id : Id} {tx : Nat}

/-- Task `i` filled the slot of `id`. -/
def Inserted (tr : List (PoolEvent ι (DispOp ι))) (i : ι) (id : Id) (tx : Nat) : Prop :=
  ⟨i, ⟨.conn (.pending_insert id tx), ()⟩⟩ ∈ tr

/-- The writer took a `tool.cancel` with this id from task `i`. -/
def CancelSent (tr : List (PoolEvent ι (DispOp ι))) (i : ι) (id : Id) : Prop :=
  ∃ params,
    ⟨i, ⟨.conn (.outbound_send (.request id methods.TOOL_CANCEL params)), .accepted⟩⟩ ∈ tr

/-- The request decides what the slot of `id` holds: a response takes it, it is removed or filled
anew, or the table is drained. -/
def DispOp.touches (id : Id) : ∀ {β : Type}, DispOp ι β → Prop
  | _, .conn op => op.touches id
  | _, _ => False

/-! ## What a call has still to empty -/

def ConnPhase.owes : ConnPhase → Id → Nat → Prop
  | .inserted _ _ n rx, id, tx | .rejected n rx, id, tx | .sent n rx, id, tx => id = mgr_id n ∧ tx = rx
  | .start (.cancel_pending id'), id, _ => id' = id
  | _, _, _ => False

def Site.owes : Site → Id → Nat → Prop
  | .cancel n rx _, id, tx | .cancel_drop n rx _, id, tx => id = mgr_id n ∧ tx = rx
  | _, _, _ => False

/-- The call will look after this slot. -/
def DispPhase.owes : DispPhase ι → Id → Nat → Prop
  | .conn site g, id, tx => site.owes id tx ∨ g.owes id tx
  | .awaiting n rx _, id, tx | .cancel_sent n rx _, id, tx => id = mgr_id n ∧ tx = rx
  | _, _, _ => False

/-- The phase has opened this channel and not yet filled a slot with it. -/
def ConnPhase.opens : ConnPhase → Nat → Prop
  | .opened _ _ _ rx, tx => rx = tx
  | _, _ => False

omit [DecidableEq ι] in
theorem DispPhase.owes_settle {site : Site} {g : ConnPhase} (owes : site.owes id tx ∨ g.owes id tx) :
    (settle site g : DispPhase ι).owes id tx ∨
      ∃ n rx deadline n' rx', site = .cancel n rx deadline ∧ g = .sent n' rx' ∧ id = mgr_id n' := by
  cases g with
  | sent n' rx' =>
    cases site with
    | call => exact Or.inl (owes.resolve_left not_false)
    | cancel n rx deadline =>
      rcases owes with owes | owes
      · exact Or.inl (Or.inl owes)
      · exact Or.inr ⟨n, rx, deadline, n', rx', rfl, rfl, owes.1⟩
    | _ => exact Or.inl owes
  | refused error =>
    have owes := owes.resolve_right not_false
    cases site with
    | cancel n rx deadline => exact Or.inl owes
    | cancel_drop n rx deadline => exact Or.inl (Or.inl owes)
    | _ => exact owes.elim
  | finished =>
    have owes := owes.resolve_right not_false
    cases site with
    | cancel n rx deadline => exact Or.inl (Or.inl owes)
    | cancel_drop n rx deadline => exact Or.inl owes
    | _ => exact owes.elim
  | _ => cases site <;> exact Or.inl owes

theorem ConnPhase.owes_next {g : ConnPhase} {op : ConnOp β} (answer : β) (owes : g.owes id tx)
    (allowed : connProtocol.allows g op) (quiet : ¬ op.touches id) :
    (connProtocol.next g op answer).owes id tx := by
  cases g with
  | inserted method params n rx =>
    cases op with
    | outbound_send msg => cases answer <;> exact owes
    | _ => exact allowed.elim
  | rejected n rx =>
    cases op with
    | pending_remove id' => exact absurd (allowed.trans owes.1.symm) quiet
    | _ => exact allowed.elim
  | start task =>
    cases task with
    | cancel_pending id' =>
      cases op with
      | pending_remove other => exact absurd (allowed.trans owes) quiet
      | _ => exact allowed.elim
    | _ => exact owes.elim
  | sent n rx => exact allowed.elim
  | _ => exact owes.elim

/-! ## Channels that were inserted -/

omit [DecidableEq ι] in
theorem CancelSent.snoc {ev : PoolEvent ι (DispOp ι)} (sent : CancelSent past i id) :
    CancelSent (past ++ [ev]) i id := by
  obtain ⟨params, member⟩ := sent
  exact ⟨params, List.mem_append_left _ member⟩

omit [DecidableEq ι] in
/-- A slot is filled in the past, or by the last request. -/
theorem inserted_snoc {ev : PoolEvent ι (DispOp ι)} (inserted : Inserted (past ++ [ev]) i id tx) :
    Inserted past i id tx ∨ ev = ⟨i, ⟨.conn (.pending_insert id tx), ()⟩⟩ :=
  (List.mem_append.mp inserted).imp_right fun new => (List.mem_singleton.mp new).symm

/-- What was inserted is an old channel, nobody is about to insert it again, and it was
inserted by one task only. -/
structure Channels (phase : ι → DispPhase ι) (w : DispatcherWorld ι)
    (past : List (PoolEvent ι (DispOp ι))) : Prop where
  old : ∀ {j id tx}, Inserted past j id tx → tx < w.connection.oneshots.next
  unopened : ∀ {j id tx}, Inserted past j id tx → ∀ k, ¬ (phase k).method.opens tx
  one : ∀ {j k id id' tx}, Inserted past j id tx → Inserted past k id' tx → j = k

/-- A filled slot is one that its call will look after, or one of its `tool.cancel`. -/
def Owed (phase : ι → DispPhase ι) (w : DispatcherWorld ι) (past : List (PoolEvent ι (DispOp ι))) :
    Prop :=
  ∀ j id tx, Inserted past j id tx → w.connection.pending.get id = some tx →
    (phase j).owes id tx ∨ CancelSent past j id

theorem ConnPhase.has_of_opens {g : ConnPhase} (opens : g.opens tx) : g.has tx := by
  cases g with
  | opened => exact opens
  | _ => exact opens.elim

omit [DecidableEq ι] in
theorem DispPhase.opens_settle {site : Site} {g : ConnPhase} :
    (settle site g : DispPhase ι).method.opens tx ↔ g.opens tx := by
  cases g with
  | sent | refused | finished => cases site <;> exact Iff.rfl
  | _ => cases site <;> exact Iff.rfl

theorem ConnPhase.opens_next {g : ConnPhase} {op : ConnOp β} {answer : β}
    (allowed : connProtocol.allows g op) (opens : (connProtocol.next g op answer).opens tx) :
    op.opened answer = some tx := by
  cases op with
  | load_state =>
    obtain ⟨method, params, rfl, -⟩ := of_load_state allowed
    cases answer <;> exact opens.elim
  | fetch_add_id =>
    obtain ⟨method, params, rfl, -⟩ := of_fetch_add_id allowed
    exact opens.elim
  | oneshot_channel =>
    obtain ⟨method, params, n, rfl, -⟩ := of_oneshot_channel allowed
    exact congrArg some opens
  | pending_insert id tx =>
    obtain ⟨method, params, n, rfl, -, -⟩ := of_pending_insert allowed
    exact opens.elim
  | pending_remove id =>
    rcases of_pending_remove allowed with ⟨rfl, -⟩ | ⟨n, rx, rfl, -, -⟩ <;> exact opens.elim
  | pending_take id =>
    obtain ⟨result, rfl, -, -⟩ := of_pending_take allowed
    cases answer <;> exact opens.elim
  | outbound_send msg =>
    obtain ⟨method, params, n, rx, rfl, -, -, -⟩ := of_outbound_send allowed
    cases answer <;> exact opens.elim
  | store_disconnected =>
    obtain ⟨rfl, -⟩ := of_store_disconnected allowed
    exact opens.elim
  | oneshot_send tx result =>
    obtain ⟨rfl, -⟩ := of_oneshot_send allowed
    exact opens.elim
  | pending_drain =>
    obtain ⟨rfl, -⟩ := of_pending_drain allowed
    exact opens.elim
  | drop_senders txs =>
    obtain ⟨rfl, -⟩ := of_drop_senders allowed
    exact opens.elim
  | outbound_take =>
    obtain ⟨rfl, -⟩ := of_outbound_take allowed
    exact opens.elim
  | drop_receiver rx =>
    obtain ⟨rfl, -⟩ := of_drop_receiver allowed
    exact opens.elim
  | close_writer =>
    obtain ⟨rfl, -⟩ := of_close_writer allowed
    exact opens.elim

theorem next_le_of_apply {op : DispOp ι β} {answer : β}
    (answered : op.apply i w = some (answer, w')) :
    w.connection.oneshots.next ≤ w'.connection.oneshots.next := by
  by_cases away : op.for_conn
  · cases op with
    | conn op =>
      obtain ⟨-, connection⟩ := DispOp.apply_conn answered
      rw [connection]
      rcases op.opened_apply (h := w.connection) with ⟨-, grown⟩ | ⟨-, next⟩
      · rw [grown, Arena.next_alloc]
        exact Nat.le_succ _
      · exact Nat.le_of_eq next.symm
    | _ => exact away.elim
  · rw [DispOp.apply_connection away answered]

/-- A channel that a request opens is new. -/
theorem opened_of_next {op : DispOp ι β} {answer : β} (allowed : dispProtocol.allows g op)
    (answered : op.apply i w = some (answer, w'))
    (opens : (dispProtocol.next g op answer).method.opens tx) : tx = w.connection.oneshots.next := by
  by_cases away : op.for_conn
  · cases op with
    | conn op =>
      obtain ⟨site, g', rfl, allowed⟩ := of_conn allowed
      obtain ⟨rfl, -⟩ := DispOp.apply_conn answered
      have opened := ConnPhase.opens_next allowed (opens_settle.mp opens)
      rcases op.opened_apply (h := w.connection) with ⟨own, -⟩ | ⟨own, -⟩
      · exact Option.some.inj (opened.symm.trans own)
      · cases opened.symm.trans own
    | _ => exact away.elim
  · exact absurd (ConnPhase.has_of_opens opens) (has_of_away answer away allowed tx).2

omit [DecidableEq ι] in
/-- A call that fills a slot has opened the channel, and waits for what is sent under the id. -/
theorem opens_of_insert (allowed : dispProtocol.allows g (.conn (.pending_insert id tx))) :
    g.method.opens tx ∧
      (dispProtocol.next g (.conn (.pending_insert id tx)) ()).owes id tx ∧
      ∀ tx', ¬ (dispProtocol.next g (.conn (.pending_insert id tx)) ()).method.opens tx' := by
  obtain ⟨site, g', rfl, allowed⟩ := of_conn allowed
  obtain ⟨method, params, n, rfl, rfl, next⟩ := ConnPhase.of_pending_insert allowed
  have settled : dispProtocol.next (.conn site (.opened method params n tx) : DispPhase ι)
      (.conn (.pending_insert (mgr_id n) tx)) () = .conn site (.inserted method params n tx) := by
    cases site <;> rfl
  rw [settled]
  exact ⟨rfl, Or.inr ⟨rfl, rfl⟩, fun _ => not_false⟩

theorem Channels.step {op : DispOp ι β} {answer : β} (held : Channels phase w past)
    (placed : Placed phase w past) (allowed : dispProtocol.allows (phase i) op)
    (answered : op.apply i w = some (answer, w')) :
    Channels (Function.update phase i (dispProtocol.next (phase i) op answer)) w'
      (past ++ [⟨i, ⟨op, answer⟩⟩]) where
  old {j id tx} inserted := by
    refine Nat.lt_of_lt_of_le ?_ (next_le_of_apply answered)
    rcases inserted_snoc inserted with old | new
    · exact held.old old
    · cases new
      have here : (Place.thread i).holds (fun k => (phase k).method) w.connection tx :=
        ConnPhase.has_of_opens (opens_of_insert allowed).1
      exact placed.allocated here
  unopened {j id tx} inserted k opens := by
    rw [Function.update_apply] at opens
    rcases inserted_snoc inserted with old | new
    · split at opens
      · exact (held.old old).ne (opened_of_next allowed answered opens)
      · exact held.unopened old k opens
    · cases new
      obtain ⟨opened, -, unopened⟩ := opens_of_insert allowed
      split at opens
      · exact unopened tx opens
      · rename_i other
        have here : (Place.thread i).holds (fun k => (phase k).method) w.connection tx :=
          ConnPhase.has_of_opens opened
        have there : (Place.thread k).holds (fun k => (phase k).method) w.connection tx :=
          ConnPhase.has_of_opens opens
        cases placed.unique here there
        exact other rfl
  one {j k id id' tx} first second := by
    rcases inserted_snoc first with old | new <;> rcases inserted_snoc second with old' | new'
    · exact held.one old old'
    · cases new'
      exact absurd (opens_of_insert allowed).1 (held.unopened old i)
    · cases new
      exact absurd (opens_of_insert allowed).1 (held.unopened old' i)
    · cases new
      cases new'
      rfl

/-! ## The step of a slot -/

/-- Outside of the connection a call only stops looking after a slot that is not its own any
more. -/
theorem DispPhase.owes_next_away {op : DispOp ι β} {answer : β} (away : ¬ op.for_conn)
    (owes : g.owes id tx) (allowed : dispProtocol.allows g op)
    (answered : op.apply i w = some (answer, w')) (unspent : w.connection.unspent tx) :
    (dispProtocol.next g op answer).owes id tx := by
  have ended {n rx : Nat} {terminal : Terminal} {deadline : Option Nat}
      (own : id = mgr_id n ∧ tx = rx) (ended : w.terminal rx deadline = some terminal) :
      (after_terminal n rx terminal : DispPhase ι).owes id tx := by
    obtain ⟨rfl, rfl⟩ := own
    obtain rfl := terminal_of_unspent unspent ended
    exact Or.inr rfl
  cases op with
  | conn => exact absurd trivial away
  | load_state => obtain ⟨params, deadline, rfl | rfl⟩ := of_load_state allowed <;> exact owes.elim
  | store_drained => rw [of_store_drained allowed] at owes; exact owes.elim
  | poll_admission deadline =>
    obtain ⟨params, rfl⟩ := of_poll_admission allowed
    exact owes.elim
  | resume_admission deadline =>
    obtain ⟨params, rfl⟩ := of_resume_admission allowed
    exact owes.elim
  | fetch_add_inflight =>
    obtain ⟨params, deadline, rfl⟩ := of_fetch_add_inflight allowed
    exact owes.elim
  | fetch_sub_inflight => rw [of_fetch_sub_inflight allowed] at owes; exact owes.elim
  | release_permit => rcases of_release_permit allowed with rfl | rfl <;> exact owes.elim
  | select rx deadline =>
    obtain ⟨n, rfl⟩ := of_select allowed
    simp only [DispOp.apply] at answered
    split at answered
    · rename_i terminal found
      cases answered
      exact ended owes found
    · split at answered
      · cases answered
        exact Or.inl owes
      · cases answered
  | select_cancel_sent rx deadline =>
    obtain ⟨n, rfl⟩ := of_select_cancel_sent allowed
    obtain ⟨terminal, found, same⟩ := Option.map_eq_some_iff.mp answered
    cases same
    exact ended owes found
  | cancel j => rw [of_cancel allowed] at owes; exact owes.elim
  | tick => rw [of_tick allowed] at owes; exact owes.elim

omit [DecidableEq ι] in
/-- A `tool.cancel` that is on its way has been given to the writer. -/
theorem cancel_sent_of_next {n rx n' rx' : Nat} {deadline : Option Nat} {g : ConnPhase} {op : ConnOp β}
    {answer : β} {task : DispTask ι} (allowed : connProtocol.allows g op)
    (sited : (conn (.cancel n rx deadline) g : DispPhase ι).sited task)
    (next : connProtocol.next g op answer = .sent n' rx') :
    CancelSent (past ++ [⟨i, ⟨.conn op, answer⟩⟩]) i (mgr_id n') := by
  cases put : wireMessage (⟨.conn op, answer⟩ : Event (DispOp ι)) with
  | none => exact absurd next (ConnPhase.next_ne_sent allowed put n' rx')
  | some msg =>
    cases op with
    | outbound_send msg' =>
      obtain ⟨method, params, m, rx'', rfl, rfl, accepted, -⟩ := ConnPhase.of_outbound_send allowed
      cases answer with
      | accepted =>
        cases accepted.symm.trans next
        cases sited _ rfl
        exact ⟨_, List.mem_append_right _ (List.mem_singleton_self _)⟩
      | _ => cases put
    | _ => cases put

theorem Owed.step {op : DispOp ι β} {answer : β} (held : Owed phase w past)
    (kept : Kept tasks phase w past) (channels : Channels phase w past)
    (allowed : dispProtocol.allows (phase i) op) (answered : op.apply i w = some (answer, w')) :
    Owed (Function.update phase i (dispProtocol.next (phase i) op answer)) w'
      (past ++ [⟨i, ⟨op, answer⟩⟩]) := by
  intro j id tx inserted filled
  rcases inserted_snoc inserted with old | new
  · by_cases away : op.for_conn
    · cases op with
      | conn op =>
        obtain ⟨site, g, here, allowed⟩ := of_conn allowed
        obtain ⟨rfl, connection⟩ := DispOp.apply_conn answered
        rw [connection] at filled
        by_cases touched : op.touches id
        · -- the slot is filled anew, with a channel that nobody has inserted yet
          rw [ConnOp.get_apply_of_touches touched] at filled
          cases op with
          | pending_insert id' tx' =>
            cases filled
            obtain ⟨method, params, n, rfl, -, -⟩ := ConnPhase.of_pending_insert allowed
            refine absurd ?_ (channels.unopened old i)
            rw [here]
            rfl
          | _ => cases filled
        · rw [ConnOp.get_apply_of_not_touches touched] at filled
          refine (held j id tx old filled).elim (fun owes => ?_) fun sent => Or.inr sent.snoc
          rw [Function.update_apply]
          split
          · rename_i same
            rw [same, here] at owes
            rw [here]
            have owes := owes.imp_right fun owes =>
              ConnPhase.owes_next (op.apply w.connection).1 owes allowed touched
            refine (owes_settle owes).imp_right ?_
            rintro ⟨n, rx, deadline, n', rx', rfl, next, rfl⟩
            have sited := kept.sited i
            rw [here] at sited
            rw [same]
            exact cancel_sent_of_next allowed sited next
          · exact Or.inl owes
      | _ => exact away.elim
    · rw [DispOp.apply_connection away answered] at filled
      have slot : (Place.slot id : Place ι).holds (fun k => (phase k).method) w.connection tx := filled
      refine (held j id tx old filled).imp (fun owes => ?_) CancelSent.snoc
      rw [Function.update_apply]
      split
      · rename_i same
        rw [same] at owes
        exact owes_next_away away owes allowed answered (kept.placed.unused slot)
      · exact owes
  · cases new
    rw [Function.update_self]
    exact Or.inl (opens_of_insert allowed).2.1

/-! ## Runs -/

variable {q : Pool ι (DispOp ι) (DispatcherWorld ι) DispReturn}

theorem slots_kept (run : Pool.Run dispSemantics (dispPool tasks) tr q) :
    Channels (phases tasks tr) q.shared tr ∧ Owed (phases tasks tr) q.shared tr := by
  have nothing {j : ι} {id : Id} {tx : Nat} : ¬ Inserted [] j id tx := List.not_mem_nil
  have invariant := run.invariant
    (I := fun phase w past => Kept tasks phase w past ∧ Channels phase w past ∧ Owed phase w past)
    (fun i => (tasks i).follows)
    ⟨kept_new tasks,
      ⟨fun inserted => absurd inserted nothing, fun inserted => absurd inserted nothing,
        fun inserted => absurd inserted nothing⟩,
      fun j id tx inserted => absurd inserted nothing⟩
    fun _ _ held allowed answered => ⟨held.1.step allowed answered,
      held.2.1.step held.1.placed allowed answered,
      held.2.2.step held.1 held.2.1 allowed answered⟩
  exact invariant.1.2

/-- What the tasks did to the connection, replayed on it. -/
theorem conn_replay (run : Pool.Run dispSemantics (dispPool tasks) tr q) :
    Pool.Replay connSemantics .new (conn_trace tr) q.shared.connection := by
  refine run.replay.history
    (I := fun w past => Pool.Replay connSemantics .new (conn_trace past) w.connection)
    (.nil _) fun {w w' past i β} op answer before answered => ?_
  have answered : op.apply i w = some (answer, w') := answered
  by_cases away : op.for_conn
  · cases op with
    | conn op =>
      obtain ⟨rfl, connection⟩ := DispOp.apply_conn answered
      rw [conn_trace_snoc_conn, connection]
      exact before.snoc rfl
    | _ => exact away.elim
  · rw [conn_trace_snoc_away away, DispOp.apply_connection away answered]
    exact before

omit [DecidableEq ι] in
theorem connEvent_eq_some {ev : PoolEvent ι (DispOp ι)} {j : ι} {op : ConnOp β} {answer : β} :
    connEvent ev = some ⟨j, ⟨op, answer⟩⟩ ↔ ev = ⟨j, ⟨.conn op, answer⟩⟩ := by
  constructor
  · intro found
    rcases ev with ⟨k, ⟨op', answer'⟩⟩
    cases op' with
    | conn => cases found; rfl
    | _ => cases found
  · rintro rfl
    rfl

omit [DecidableEq ι] in
theorem touches_of_connEvent {ev : PoolEvent ι (DispOp ι)} :
    ev.event.request.touches id ↔
      ∃ conn, connEvent ev = some conn ∧ conn.event.request.touches id := by
  rcases ev with ⟨k, ⟨op, answer⟩⟩
  cases op with
  | conn op => exact ⟨fun touched => ⟨_, rfl, touched⟩, fun ⟨_, same, touched⟩ => by cases same; exact touched⟩
  | _ => exact ⟨False.elim, fun ⟨_, same, _⟩ => by cases same⟩

/-- A slot holds what was last inserted, when nothing touched it since. -/
theorem slot_history_in (run : Pool.Run dispSemantics (dispPool tasks) tr q) :
    q.shared.connection.pending.get id = some tx ↔
      ∃ j a b, tr = a ++ ⟨j, ⟨.conn (.pending_insert id tx), ()⟩⟩ :: b ∧
        ∀ ev ∈ b, ¬ ev.event.request.touches id := by
  rw [slot_history (conn_replay run) (fun _ => HashMap.get_empty _)]
  refine exists_congr fun j => ⟨?_, ?_⟩
  · intro filled
    obtain ⟨a', b', same, untouched⟩ := filled
    obtain ⟨a, rest, rfl, -, same⟩ := List.filterMap_eq_append_iff.mp same
    obtain ⟨quiet, ev, b, rfl, -, found, rfl⟩ := List.filterMap_eq_cons_iff.mp same
    obtain rfl := connEvent_eq_some.mp found
    refine ⟨a ++ quiet, b, (List.append_assoc _ _ _).symm, fun ev member touched => ?_⟩
    obtain ⟨conn, found, touched⟩ := touches_of_connEvent.mp touched
    exact untouched conn (List.mem_filterMap.mpr ⟨ev, member, found⟩) touched
  · intro filled
    obtain ⟨a, b, rfl, untouched⟩ := filled
    refine ⟨conn_trace a, conn_trace b, List.filterMap_append, fun conn member touched => ?_⟩
    obtain ⟨ev, member, found⟩ := List.mem_filterMap.mp member
    exact untouched ev member (touches_of_connEvent.mpr ⟨conn, found, touched⟩)

/-- The slot of every `tool.cancel` that call `i` got through was emptied, or filled anew. -/
def CancelsSettled (tr : List (PoolEvent ι (DispOp ι))) (i : ι) : Prop :=
  ∀ a b id tx, tr = a ++ ⟨i, ⟨.conn (.pending_insert id tx), ()⟩⟩ :: b → CancelSent tr i id →
    ∃ ev ∈ b, ev.event.request.touches id

/-- A call that has returned leaves no slot but those of its `tool.cancel`s. -/
theorem cancelSent_of_returned {result : Except DispatcherError ToolCallResult}
    (run : Pool.Run dispSemantics (dispPool tasks) tr q)
    (done : q.thread i = .ret (.returned result)) (inserted : Inserted tr i id tx)
    (left : q.shared.connection.pending.get id = some tx) : CancelSent tr i id := by
  refine ((slots_kept run).2 i id tx inserted left).resolve_left fun owes => ?_
  have finished := returned run done
  generalize phases tasks tr i = g at owes finished
  cases g with
  | turned_away | ended | finished => exact owes
  | conn site g =>
    cases site with
    | task => cases finished
    | _ => exact finished
  | _ => exact finished

/-- **A returned call has left the pending table** exactly when the slots of its `tool.cancel`s
were emptied by somebody else. -/
theorem slots_freed_iff {result : Except DispatcherError ToolCallResult}
    (run : Pool.Run dispSemantics (dispPool tasks) tr q)
    (done : q.thread i = .ret (.returned result)) :
    (∀ id tx, Inserted tr i id tx → q.shared.connection.pending.get id ≠ some tx) ↔
      CancelsSettled tr i := by
  constructor
  · intro freed a b id tx same sent
    by_contra quiet
    refine freed id tx ?_ ((slot_history_in run).mpr ⟨i, a, b, same, fun ev member touched => ?_⟩)
    · rw [same]
      exact List.mem_append_right _ List.mem_cons_self
    · exact quiet ⟨ev, member, touched⟩
  · intro settled id tx inserted left
    have sent := cancelSent_of_returned run done inserted left
    obtain ⟨j, a, b, same, untouched⟩ := (slot_history_in run).mp left
    have last : Inserted tr j id tx := by
      rw [same]
      exact List.mem_append_right _ List.mem_cons_self
    obtain rfl := (slots_kept run).1.one inserted last
    obtain ⟨ev, member, touched⟩ := settled a b id tx same sent
    exact untouched ev member touched

/-! ## A cancellation that the client does not answer -/

/-- A call, its cancellation, and the response of the client to the `tool.call`. -/
def cancelledCall : Fin 3 → DispTask (Fin 3)
  | 0 => .enqueue { name := "echo", arguments := .null } none
  | 1 => .cancel 0
  | 2 => .respond (mgr_id 0)
      (.error { code := error_codes.TOOL_CANCELLED, message := "cancelled", data := none })

/-- The call is sent and cancelled, `tool.cancel` is sent, and the `tool.call` is answered. -/
def cancelledRun : List (PoolEvent (Fin 3) (DispOp (Fin 3))) ×
    Pool (Fin 3) (DispOp (Fin 3)) (DispatcherWorld (Fin 3)) DispReturn :=
  callRun cancelledCall
    [0, 0, 0, 0, 0, 0, 0, 0, 0, 1, 0, 0, 0, 0, 0, 0, 0, 2, 2, 0, 0, 0, 0]

theorem cancelled_call_is_settled :
    (∀ id tx, Inserted cancelledRun.1 0 id tx →
      cancelledRun.2.shared.connection.pending.get id ≠ some tx) ↔
        CancelsSettled cancelledRun.1 0 :=
  slots_freed_iff (callRun_run cancelledCall _)
    (show cancelledRun.2.thread 0 = .ret (.returned (.error .Cancelled)) from rfl)

/-- The slot of a `tool.cancel` outlives its call. -/
theorem cancel_slot_is_left :
    ∃ (tasks : Fin 3 → DispTask (Fin 3)) (tr : List (PoolEvent (Fin 3) (DispOp (Fin 3))))
      (q : Pool (Fin 3) (DispOp (Fin 3)) (DispatcherWorld (Fin 3)) DispReturn),
      Pool.Run dispSemantics (dispPool tasks) tr q ∧
      q.thread 0 = .ret (.returned (.error .Cancelled)) ∧
      ∃ id tx, Inserted tr 0 id tx ∧ q.shared.connection.pending.get id = some tx :=
  ⟨cancelledCall, cancelledRun.1, cancelledRun.2, callRun_run _ _, rfl, mgr_id 1, 1,
    List.mem_iff_getElem?.mpr ⟨14, rfl⟩, rfl⟩

end SessionManager
