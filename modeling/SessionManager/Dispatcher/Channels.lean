import SessionManager.Dispatcher.Wire
import SessionManager.Connection.Senders

/-!
# The connection inside a dispatcher

What the tasks of a dispatcher do to the connection is a run of the methods of the
connection, so its one-shot senders are linear here as well (`senders_placed_in`).  The
request numbers are drawn by the call that holds the permit and by nobody else.
-/

namespace SessionManager

open Json Effect DispPhase

variable {ι : Type} {phase : ι → DispPhase ι} {w w' : DispatcherWorld ι} {i : ι}
  {g : DispPhase ι} {β : Type}

/-! ## One-shot senders -/

/-- The phase of the method of the connection that a task is in. -/
def DispPhase.method : DispPhase ι → ConnPhase
  | .conn _ g => g
  | _ => .finished

def connEvent : PoolEvent ι (DispOp ι) → Option (PoolEvent ι ConnOp)
  | ⟨i, ⟨.conn op, answer⟩⟩ => some ⟨i, ⟨op, answer⟩⟩
  | _ => none

/-- What the tasks did to the connection. -/
def conn_trace (tr : List (PoolEvent ι (DispOp ι))) : List (PoolEvent ι ConnOp) :=
  tr.filterMap connEvent

def DispOp.for_conn : ∀ {β : Type}, DispOp ι β → Prop
  | _, .conn _ => True
  | _, _ => False

theorem DispOp.apply_connection [DecidableEq ι] {op : DispOp ι β} {answer : β} (away : ¬ op.for_conn)
    (answered : op.apply i w = some (answer, w')) : w'.connection = w.connection := by
  cases op with
  | conn => exact absurd trivial away
  | poll_admission deadline | resume_admission deadline =>
    simp only [apply] at answered
    split at answered
    · cases answered
      rfl
    split at answered
    · cases answered
      rfl
    first
      | cases answered; rfl
      | (split at answered <;> cases answered; rfl)
  | select rx deadline =>
    simp only [apply] at answered
    split at answered
    · cases answered
      rfl
    · split at answered
      · cases answered
        rfl
      · cases answered
  | select_cancel_sent rx deadline =>
    obtain ⟨terminal, -, same⟩ := Option.map_eq_some_iff.mp answered
    cases same
    rfl
  | fetch_add_inflight | fetch_sub_inflight =>
    cases answered
    exact DispatcherWorld.set_inflight_connection w _
  | _ =>
    cases answered
    rfl

theorem DispOp.apply_conn [DecidableEq ι] {op : ConnOp β} {answer : β}
    (answered : (DispOp.conn op).apply i w = some (answer, w')) :
    (op.apply w.connection).1 = answer ∧ w'.connection = (op.apply w.connection).2 := by
  cases answered
  exact ⟨rfl, rfl⟩

theorem SendersPlaced.congr {placed placed' : ι → ConnPhase} {h : ConnectionHandle}
    {past : List (PoolEvent ι ConnOp)} (held : SendersPlaced placed h past)
    (same : ∀ i tx, (placed' i).has tx ↔ (placed i).has tx) : SendersPlaced placed' h past := by
  have holds {tx : Nat} {place : Place ι} : place.holds placed' h tx ↔ place.holds placed h tx := by
    cases place with
    | slot id => exact Iff.rfl
    | thread i => exact same i tx
  refine ⟨fun here => held.allocated (holds.mp here), fun here here' =>
    held.unique (holds.mp here) (holds.mp here'), fun here => held.unused (holds.mp here),
    fun tx bound sender => ?_, fun ev member tx sends => ?_, held.once⟩
  · obtain ⟨place, here⟩ := held.alive tx bound sender
    exact ⟨place, holds.mpr here⟩
  · obtain ⟨bound, nowhere⟩ := held.used ev member tx sends
    exact ⟨bound, fun place here => nowhere place (holds.mp here)⟩

/-- Handing over at the end of a method moves no sender. -/
theorem DispPhase.has_settle {site : Site} {g : ConnPhase} {tx : Nat} :
    (settle site g : DispPhase ι).method.has tx ↔ g.has tx := by
  cases g with
  | sent | refused | finished => cases site <;> exact Iff.rfl
  | _ => cases site <;> exact Iff.rfl

theorem DispPhase.has_after_terminal (n rx : Nat) (terminal : Terminal) (tx : Nat) :
    ¬ (after_terminal n rx terminal : DispPhase ι).method.has tx := by
  cases terminal <;> exact id

theorem DispPhase.has_after_admission {params : ToolCallParams} (deadline : Option Nat)
    (admission : Admission) (tx : Nat) :
    ¬ (after_admission params deadline admission : DispPhase ι).method.has tx := by
  rcases admission with _ | _ | permit
  · exact id
  · exact id
  · cases permit <;> exact id

/-- Outside of the connection a task holds no sender. -/
theorem DispPhase.has_of_away {op : DispOp ι β} (answer : β) (away : ¬ op.for_conn)
    (allowed : dispProtocol.allows g op) (tx : Nat) :
    ¬ g.method.has tx ∧ ¬ (dispProtocol.next g op answer).method.has tx := by
  cases op with
  | conn => exact absurd trivial away
  | load_state =>
    obtain ⟨params, deadline, rfl | rfl⟩ := of_load_state allowed <;> cases answer <;> exact ⟨id, id⟩
  | store_drained =>
    obtain rfl := of_store_drained allowed
    exact ⟨id, id⟩
  | poll_admission deadline =>
    obtain ⟨params, rfl⟩ := of_poll_admission allowed
    cases answer with
    | ready admission => exact ⟨id, has_after_admission deadline admission tx⟩
    | queued => exact ⟨id, id⟩
  | resume_admission deadline =>
    obtain ⟨params, rfl⟩ := of_resume_admission allowed
    exact ⟨id, has_after_admission deadline answer tx⟩
  | fetch_add_inflight =>
    obtain ⟨params, deadline, rfl⟩ := of_fetch_add_inflight allowed
    exact ⟨id, id⟩
  | fetch_sub_inflight =>
    obtain rfl := of_fetch_sub_inflight allowed
    exact ⟨id, id⟩
  | release_permit => rcases of_release_permit allowed with rfl | rfl <;> exact ⟨id, id⟩
  | select rx deadline =>
    obtain ⟨n, rfl⟩ := of_select allowed
    cases answer with
    | terminal terminal => exact ⟨id, has_after_terminal n rx terminal tx⟩
    | cancelled => exact ⟨id, id⟩
  | select_cancel_sent rx deadline =>
    obtain ⟨n, rfl⟩ := of_select_cancel_sent allowed
    exact ⟨id, has_after_terminal n rx answer tx⟩
  | cancel j =>
    obtain rfl := of_cancel allowed
    exact ⟨id, id⟩
  | tick =>
    obtain rfl := of_tick allowed
    exact ⟨id, id⟩

theorem conn_trace_snoc_conn {op : ConnOp β} {answer : β} {past : List (PoolEvent ι (DispOp ι))} :
    conn_trace (past ++ [⟨i, ⟨.conn op, answer⟩⟩]) = conn_trace past ++ [⟨i, ⟨op, answer⟩⟩] := by
  simp only [conn_trace, List.filterMap_append, List.filterMap_cons, connEvent, List.filterMap_nil]

theorem conn_trace_snoc_away {op : DispOp ι β} {answer : β} {past : List (PoolEvent ι (DispOp ι))}
    (away : ¬ op.for_conn) : conn_trace (past ++ [⟨i, ⟨op, answer⟩⟩]) = conn_trace past := by
  have none : connEvent (⟨i, ⟨op, answer⟩⟩ : PoolEvent ι (DispOp ι)) = none := by
    cases op with
    | conn => exact absurd trivial away
    | _ => rfl
  simp only [conn_trace, List.filterMap_append, List.filterMap_cons, none, List.filterMap_nil,
    List.append_nil]

/-- Senders are linear in the connection of a dispatcher. -/
def Placed (phase : ι → DispPhase ι) (w : DispatcherWorld ι) (past : List (PoolEvent ι (DispOp ι))) :
    Prop :=
  SendersPlaced (fun i => (phase i).method) w.connection (conn_trace past)

theorem Placed.step [DecidableEq ι] {op : DispOp ι β} {answer : β}
    {past : List (PoolEvent ι (DispOp ι))} (held : Placed phase w past)
    (allowed : dispProtocol.allows (phase i) op) (answered : op.apply i w = some (answer, w')) :
    Placed (Function.update phase i (dispProtocol.next (phase i) op answer)) w'
      (past ++ [⟨i, ⟨op, answer⟩⟩]) := by
  by_cases away : op.for_conn
  · cases op with
    | conn op =>
      obtain ⟨site, g, here, allowed⟩ := of_conn allowed
      have method : (phase i).method = g := congrArg DispPhase.method here
      rw [here, Placed, conn_trace_snoc_conn]
      cases answered
      have moved := SendersPlaced.step (i := i) held (by rwa [method]) rfl
      rw [method] at moved
      refine moved.congr fun j tx => ?_
      by_cases same : j = i
      · subst same
        rw [Function.update_self, Function.update_self]
        exact has_settle
      · rw [Function.update_of_ne same, Function.update_of_ne same]
    | _ => exact away.elim
  · rw [Placed, conn_trace_snoc_away away, DispOp.apply_connection away answered]
    refine held.congr fun j tx => ?_
    by_cases same : j = i
    · subst same
      obtain ⟨before, after⟩ := has_of_away answer away allowed tx
      rw [Function.update_self]
      exact iff_of_false after before
    · rw [Function.update_of_ne same]

theorem placed_new (tasks : ι → DispTask ι) : Placed (fun i => of_task (tasks i)) .new [] := by
  have nowhere {tx : Nat} {place : Place ι}
      (holds : place.holds (fun i => (of_task (tasks i)).method) .new tx) : False := by
    cases place with
    | thread i =>
      rw [Place.holds] at holds
      cases task : tasks i <;> rw [task] at holds <;> exact holds
    | slot id => cases (HashMap.get_empty id).symm.trans holds
  exact ⟨fun holds => (nowhere holds).elim, fun holds _ => (nowhere holds).elim,
    fun holds => (nowhere holds).elim, fun tx bound => absurd bound (Nat.not_lt_zero tx),
    fun _ member => absurd member List.not_mem_nil, .nil⟩

/-! ## Which method runs where -/

def ConnPhase.dispatching : ConnPhase → Prop
  | .start (.dispatch_request _ _) | .active _ _ | .numbered _ _ _ | .opened _ _ _ _
  | .inserted _ _ _ _ | .rejected _ _ | .sent _ _ | .refused _ => True
  | _ => False

def ConnOp.disconnects : ∀ {β : Type}, ConnOp β → Prop
  | _, .store_disconnected => True
  | _, _ => False

/-- The method running from a site is the one started there; past its first section, a drain
has disconnected the connection. -/
def DispPhase.proper (task : DispTask ι) (gone : Prop) : DispPhase ι → Prop
  | .conn .task (.start method) => of_task task = .conn .task (.start method)
  | .conn .task .stored | .conn .task (.emptied _) | .conn .task .dropped => gone
  | .conn .task g => ¬ g.dispatching
  | .conn (.call _) g | .conn (.cancel _ _ _) g => g.dispatching
  | .conn (.expire _) g => ∃ id, g = .start (.cancel_pending id)
  | .conn _ g => ∃ rx, g = .start (.drop_receiver rx)
  | _ => True

variable {task : DispTask ι} {gone : Prop}

theorem DispPhase.proper_of_task (task : DispTask ι) : (of_task task).proper task gone := by
  cases task <;> trivial

theorem DispPhase.proper_mono {gone' : Prop} (still : gone → gone') (proper : g.proper task gone) :
    g.proper task gone' := by
  rcases g with _ | _ | _ | _ | _ | _ | ⟨site, g⟩ | _
  case conn =>
    cases site with
    | task =>
      cases g with
      | stored | emptied | dropped => exact still proper
      | _ => exact proper
    | _ => exact proper
  all_goals trivial

theorem ConnPhase.dispatching_next {g : ConnPhase} {op : ConnOp β} (answer : β)
    (dispatching : g.dispatching) (allowed : connProtocol.allows g op) :
    (connProtocol.next g op answer).dispatching := by
  cases op with
  | load_state =>
    obtain ⟨method, params, rfl, -, -⟩ := of_load_state allowed
    cases answer <;> trivial
  | fetch_add_id =>
    obtain ⟨method, params, rfl, -⟩ := of_fetch_add_id allowed
    trivial
  | oneshot_channel =>
    obtain ⟨method, params, n, rfl, -⟩ := of_oneshot_channel allowed
    trivial
  | pending_insert id tx =>
    obtain ⟨method, params, n, rfl, -, -⟩ := of_pending_insert allowed
    trivial
  | pending_remove id =>
    rcases of_pending_remove allowed with ⟨rfl, -⟩ | ⟨n, rx, rfl, -, -⟩
    · exact dispatching.elim
    · trivial
  | outbound_send msg =>
    obtain ⟨method, params, n, rx, rfl, -, -, -⟩ := of_outbound_send allowed
    cases answer <;> trivial
  | pending_take id =>
    obtain ⟨result, rfl, -, -⟩ := of_pending_take allowed
    exact dispatching.elim
  | store_disconnected => rw [(of_store_disconnected allowed).1] at dispatching; exact dispatching.elim
  | oneshot_send => rw [(of_oneshot_send allowed).1] at dispatching; exact dispatching.elim
  | pending_drain => rw [(of_pending_drain allowed).1] at dispatching; exact dispatching.elim
  | drop_senders => rw [(of_drop_senders allowed).1] at dispatching; exact dispatching.elim
  | outbound_take => rw [(of_outbound_take allowed).1] at dispatching; exact dispatching.elim
  | drop_receiver => rw [(of_drop_receiver allowed).1] at dispatching; exact dispatching.elim
  | close_writer => rw [(of_close_writer allowed).1] at dispatching; exact dispatching.elim

/-- A method that a task runs on its own: a response, a drain, or the end of the writer. -/
theorem DispPhase.proper_next_task {g : ConnPhase} {op : ConnOp β} {answer : β}
    (proper : (conn .task g : DispPhase ι).proper task gone) (allowed : connProtocol.allows g op)
    (disconnected : op.disconnects → gone) :
    (conn .task (connProtocol.next g op answer) : DispPhase ι).proper task gone := by
  cases g with
  | start method =>
    cases task with
    | respond id result =>
      cases proper
      cases op <;> first | exact allowed.elim | (cases answer <;> exact not_false)
    | disconnect =>
      cases proper
      cases op <;> first | exact allowed.elim | exact disconnected trivial
    | close_writer =>
      cases proper
      cases op <;> first | exact allowed.elim | exact not_false
    | _ => cases proper
  | stored | emptied => cases op <;> first | exact allowed.elim | exact proper
  | taken | dropped => cases op <;> first | exact allowed.elim | exact not_false
  | completed | finished => exact allowed.elim
  | _ => exact absurd trivial proper

theorem DispPhase.proper_next_conn {site : Site} {g : ConnPhase} {op : ConnOp β} {answer : β}
    (proper : (conn site g : DispPhase ι).proper task gone) (allowed : connProtocol.allows g op)
    (disconnected : op.disconnects → gone) :
    (settle site (connProtocol.next g op answer)).proper task gone := by
  cases site with
  | task => exact proper_next_task proper allowed disconnected
  | call deadline =>
    have dispatching := ConnPhase.dispatching_next answer proper allowed
    cases next : connProtocol.next g op answer with
    | sent | refused => trivial
    | _ => rwa [next] at dispatching
  | cancel n rx deadline =>
    have dispatching := ConnPhase.dispatching_next answer proper allowed
    cases next : connProtocol.next g op answer with
    | sent n' rx' => exact ⟨rx', rfl⟩
    | refused => trivial
    | _ => rwa [next] at dispatching
  | expire rx =>
    obtain ⟨id, rfl⟩ := proper
    cases op <;> first | exact allowed.elim | exact ⟨rx, rfl⟩
  | cancel_drop | drop_rx =>
    obtain ⟨rx, rfl⟩ := proper
    cases op <;> first | exact allowed.elim | trivial

theorem DispPhase.proper_next {op : DispOp ι β} {answer : β} {gone' : Prop}
    (proper : g.proper task gone) (allowed : dispProtocol.allows g op) (still : gone → gone')
    (disconnected : ∀ conn : ConnOp β, op = .conn conn → conn.disconnects → gone') :
    (dispProtocol.next g op answer).proper task gone' := by
  cases op with
  | conn op =>
    obtain ⟨site, g', rfl, allowed⟩ := of_conn allowed
    exact proper_next_conn (proper_mono still proper) allowed (disconnected op rfl)
  | load_state =>
    obtain ⟨params, deadline, rfl | rfl⟩ := of_load_state allowed <;> cases answer <;> trivial
  | store_drained =>
    obtain rfl := of_store_drained allowed
    trivial
  | poll_admission deadline =>
    obtain ⟨params, rfl⟩ := of_poll_admission allowed
    rcases answer with (_ | _ | permit) | _ <;> first | trivial | (cases permit <;> trivial)
  | resume_admission deadline =>
    obtain ⟨params, rfl⟩ := of_resume_admission allowed
    rcases answer with _ | _ | permit <;> first | trivial | (cases permit <;> trivial)
  | fetch_add_inflight =>
    obtain ⟨params, deadline, rfl⟩ := of_fetch_add_inflight allowed
    trivial
  | fetch_sub_inflight =>
    obtain rfl := of_fetch_sub_inflight allowed
    trivial
  | release_permit => rcases of_release_permit allowed with rfl | rfl <;> trivial
  | select rx deadline =>
    obtain ⟨n, rfl⟩ := of_select allowed
    rcases answer with terminal | _
    · cases terminal <;> exact ⟨_, rfl⟩
    · trivial
  | select_cancel_sent rx deadline =>
    obtain ⟨n, rfl⟩ := of_select_cancel_sent allowed
    cases answer <;> exact ⟨_, rfl⟩
  | cancel j =>
    obtain rfl := of_cancel allowed
    trivial
  | tick =>
    obtain rfl := of_tick allowed
    trivial

/-! ## Request numbers -/

/-- `n` is the number drawn last. -/
def Latest (n next : Nat) : Prop := n < 2 ^ 64 ∧ next = (n + 1) % 2 ^ 64

theorem Latest.ne_next {n next : Nat} (latest : Latest n next) : next ≠ n := by
  obtain ⟨bound, rfl⟩ := latest
  omega

/-- The number a running `dispatch_request` has drawn. -/
def ConnPhase.number : ConnPhase → Option Nat
  | .numbered _ _ n | .opened _ _ n _ | .inserted _ _ n _ | .rejected n _ | .sent n _ => some n
  | _ => none

/-- The number of a running call is the latest one, until it draws another for its
`tool.cancel`. -/
def DispPhase.numbered (next : Nat) : DispPhase ι → Prop
  | .conn (.call _) g => ∀ n, g.number = some n → Latest n next
  | .awaiting n _ _ => Latest n next
  | .conn (.cancel n _ _) g => (∀ n', g.number = some n' → n' ≠ n) ∧ (g.number = none → Latest n next)
  | _ => True

theorem ConnPhase.number_next {g : ConnPhase} {op : ConnOp β} (answer : β)
    (allowed : connProtocol.allows g op) (other : op.drawn answer = none) :
    (connProtocol.next g op answer).number = g.number ∨
      ∃ error, connProtocol.next g op answer = .refused error := by
  cases op with
  | load_state =>
    obtain ⟨method, params, rfl, -, -⟩ := of_load_state allowed
    cases answer <;> exact .inl rfl
  | fetch_add_id => cases other
  | oneshot_channel =>
    obtain ⟨method, params, n, rfl, -⟩ := of_oneshot_channel allowed
    exact .inl rfl
  | pending_insert id tx =>
    obtain ⟨method, params, n, rfl, -, -⟩ := of_pending_insert allowed
    exact .inl rfl
  | pending_remove id =>
    rcases of_pending_remove allowed with ⟨rfl, -⟩ | ⟨n, rx, rfl, -, -⟩
    · exact .inl rfl
    · exact .inr ⟨_, rfl⟩
  | pending_take id =>
    obtain ⟨result, rfl, -, -⟩ := of_pending_take allowed
    cases answer <;> exact .inl rfl
  | outbound_send msg =>
    obtain ⟨method, params, n, rx, rfl, -, -, -⟩ := of_outbound_send allowed
    cases answer <;> exact .inl rfl
  | store_disconnected => rw [(of_store_disconnected allowed).1]; exact .inl rfl
  | oneshot_send => rw [(of_oneshot_send allowed).1]; exact .inl rfl
  | pending_drain => rw [(of_pending_drain allowed).1]; exact .inl rfl
  | drop_senders => rw [(of_drop_senders allowed).1]; exact .inl rfl
  | outbound_take => rw [(of_outbound_take allowed).1]; exact .inl rfl
  | drop_receiver => rw [(of_drop_receiver allowed).1]; exact .inl rfl
  | close_writer => rw [(of_close_writer allowed).1]; exact .inl rfl

theorem DispPhase.numbered_settle {site : Site} {g g' : ConnPhase} {next : Nat}
    (numbered : (conn site g : DispPhase ι).numbered next)
    (same : g'.number = g.number ∨ ∃ error, g' = .refused error) :
    (settle site g' : DispPhase ι).numbered next := by
  rcases same with same | ⟨error, rfl⟩
  · cases site with
    | call deadline =>
      have latest : ∀ n, g'.number = some n → Latest n next := fun n here =>
        numbered n (same.symm.trans here)
      cases g' with
      | sent n rx => exact latest n rfl
      | refused => trivial
      | _ => exact latest
    | cancel n rx deadline =>
      have latest : (∀ n', g'.number = some n' → n' ≠ n) ∧ (g'.number = none → Latest n next) :=
        ⟨fun n' here => numbered.1 n' (same.symm.trans here),
          fun here => numbered.2 (same.symm.trans here)⟩
      cases g' with
      | sent | refused => trivial
      | _ => exact latest
    | _ => cases g' <;> trivial
  · cases site <;> trivial

theorem DispPhase.numbered_of_not_counted {next : Nat} (out : g.stage ≠ .counted) :
    g.numbered next := by
  rcases g with _ | _ | _ | _ | _ | _ | ⟨site, _⟩ | _
  case conn =>
    cases site with
    | task => trivial
    | _ => exact absurd rfl out
  case awaiting => exact absurd rfl out
  all_goals trivial

theorem DispPhase.numbered_next_away {op : DispOp ι β} {answer : β} {next : Nat} (away : ¬ op.for_conn)
    (numbered : g.numbered next) (allowed : dispProtocol.allows g op) :
    (dispProtocol.next g op answer).numbered next := by
  cases op with
  | conn => exact absurd trivial away
  | load_state =>
    obtain ⟨params, deadline, rfl | rfl⟩ := of_load_state allowed <;> cases answer <;> trivial
  | store_drained =>
    obtain rfl := of_store_drained allowed
    trivial
  | poll_admission deadline =>
    obtain ⟨params, rfl⟩ := of_poll_admission allowed
    rcases answer with (_ | _ | permit) | _ <;> first | trivial | (cases permit <;> trivial)
  | resume_admission deadline =>
    obtain ⟨params, rfl⟩ := of_resume_admission allowed
    rcases answer with _ | _ | permit <;> first | trivial | (cases permit <;> trivial)
  | fetch_add_inflight =>
    obtain ⟨params, deadline, rfl⟩ := of_fetch_add_inflight allowed
    exact nofun
  | fetch_sub_inflight =>
    obtain rfl := of_fetch_sub_inflight allowed
    trivial
  | release_permit => rcases of_release_permit allowed with rfl | rfl <;> trivial
  | select rx deadline =>
    obtain ⟨n, rfl⟩ := of_select allowed
    rcases answer with terminal | _
    · cases terminal <;> trivial
    · exact ⟨nofun, fun _ => numbered⟩
  | select_cancel_sent rx deadline =>
    obtain ⟨n, rfl⟩ := of_select_cancel_sent allowed
    cases answer <;> trivial
  | cancel j =>
    obtain rfl := of_cancel allowed
    trivial
  | tick =>
    obtain rfl := of_tick allowed
    trivial

/-- Numbers are drawn in order, and the running call drew the latest one. -/
structure Numbered (phase : ι → DispPhase ι) (next : Nat) : Prop where
  bound : next < 2 ^ 64
  latest : ∀ i, (phase i).numbered next

theorem Numbered.update [DecidableEq ι] {next : Nat} {g : DispPhase ι} (bound : next < 2 ^ 64)
    (here : g.numbered next) (there : ∀ j, j ≠ i → (phase j).numbered next) :
    Numbered (Function.update phase i g) next := by
  refine ⟨bound, fun j => ?_⟩
  rw [Function.update_apply]
  split
  · exact here
  · exact there j ‹_›

/-- Only the running call draws a number. -/
theorem Numbered.draw [DecidableEq ι] {next : Nat} {site : Site} {method : String} {params : Value}
    (held : Numbered phase next) (proper : (phase i).proper task gone)
    (alone : ∀ {j k}, (phase j).stage.holds → (phase k).stage.holds → j = k)
    (here : phase i = .conn site (.active method params)) :
    Numbered (Function.update phase i (settle site (.numbered method params next)))
      ((next + 1) % 2 ^ 64) := by
  have mine := held.latest i
  rw [here] at mine proper
  refine .update (Nat.mod_lt _ (Nat.two_pow_pos 64)) ?_ fun j other => ?_
  · cases site with
    | task => exact absurd trivial proper
    | call deadline =>
      rintro n same
      cases same
      exact ⟨held.bound, rfl⟩
    | cancel n rx deadline =>
      refine ⟨fun n' same => ?_, nofun⟩
      cases same
      exact (mine.2 rfl).ne_next
    | _ => obtain ⟨_, impossible⟩ := proper; cases impossible
  · refine numbered_of_not_counted fun counted => other (alone (holds_of_counted counted) ?_)
    rw [here]
    cases site with
    | task => exact absurd trivial proper
    | _ => trivial

theorem Numbered.step [DecidableEq ι] {op : DispOp ι β} {answer : β}
    (held : Numbered phase w.connection.next_id) (proper : (phase i).proper task gone)
    (alone : ∀ {j k}, (phase j).stage.holds → (phase k).stage.holds → j = k)
    (allowed : dispProtocol.allows (phase i) op) (answered : op.apply i w = some (answer, w')) :
    Numbered (Function.update phase i (dispProtocol.next (phase i) op answer))
      w'.connection.next_id := by
  have mine := held.latest i
  by_cases away : op.for_conn
  · cases op with
    | conn op =>
      obtain ⟨site, g, here, allowed⟩ := of_conn allowed
      obtain ⟨rfl, connection⟩ := DispOp.apply_conn answered
      rcases op.drawn_apply (h := w.connection) with ⟨drew, next⟩ | ⟨quiet, next⟩
      · cases op with
        | fetch_add_id =>
          obtain ⟨method, params, rfl, -⟩ := ConnPhase.of_fetch_add_id allowed
          have drawn := held.draw proper alone here
          rwa [connection, next, here]
        | _ => cases drew
      · rw [connection, next]
        refine .update held.bound ?_ fun j _ => held.latest j
        rw [here] at mine ⊢
        exact numbered_settle mine (ConnPhase.number_next _ allowed quiet)
    | _ => exact away.elim
  · rw [DispOp.apply_connection away answered]
    exact .update held.bound (numbered_next_away away mine allowed) fun j _ => held.latest j

end SessionManager
