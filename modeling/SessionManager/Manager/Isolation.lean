import SessionManager.Manager.Endings
import SessionManager.Manager.Handles

/-!
# Late tasks of old connections

A disconnect, a goodbye and a shutdown work on what belongs to the generation they have captured,
and leave the record, the dispatcher and the connection of every other registration as they are.
So a registration stands, with an active record, an open dispatcher and an open connection, until
a task that has captured its generation cleans up (`generations_isolated`).
-/

namespace SessionManager

open Json Effect

variable {ι : Type}

/-- The sections and drains by which sessions and their connections end. -/
def ManagerOp.closes : ∀ {β : Type}, ManagerOp ι β → Prop
  | _, .reg (.mark_disconnected_if_generation ..) | _, .reg (.remove_if_generation ..) => True
  | _, op => op.drains

/-- Messages can be put on the channel of the connection. -/
structure ConnectionHandle.IsOpen (h : ConnectionHandle) : Prop where
  state : h.state = .Active
  outbound_tx : h.outbound_tx = true

/-- The record of a registration is active, its dispatcher takes calls, its connection is open. -/
structure Stands (k : Nat) (r : Registration) (w : ManagerWorld ι) : Prop where
  record : ∃ record, w.registry.inner.get r.uid = some record ∧ record.dispatcher = k ∧
    record.connection_generation = r.generation ∧ record.state = .Active
  dispatcher : (w.dispatchers k).state = .Open
  connection : ∀ c, r.connection = some c → (w.connections.cell c).IsOpen

/-- The record, the dispatcher and the connection of a registration are the same as before. -/
structure Untouched (k : Nat) (r : Registration) (w w' : ManagerWorld ι) : Prop where
  record : ∀ record, w.registry.inner.get r.uid = some record → record.dispatcher = k →
    w'.registry.inner.get r.uid = some record
  dispatcher : w'.dispatchers k = w.dispatchers k
  connection : ∀ c, r.connection = some c → w'.connections.cell c = w.connections.cell c

theorem Untouched.refl {k : Nat} {r : Registration} (w : ManagerWorld ι) : Untouched k r w w :=
  ⟨fun _ found _ => found, rfl, fun _ _ => rfl⟩

theorem Stands.of_untouched {k : Nat} {r : Registration} {w w' : ManagerWorld ι}
    (stands : Stands k r w) (untouched : Untouched k r w w') : Stands k r w' where
  record := by
    obtain ⟨record, found, filed, rest⟩ := stands.record
    exact ⟨record, untouched.record record found filed, filed, rest⟩
  dispatcher := by rw [untouched.dispatcher, stands.dispatcher]
  connection c given := by
    rw [untouched.connection c given]
    exact stands.connection c given

/-! ## Steps -/

section Steps

variable [DecidableEq ι] {i : ι} {β : Type} {answer : β} {w w' : ManagerWorld ι}
  {gate : MaskingGate}

/-- A section changes the registry only. -/
theorem world_of_section {op : RegOp β} (answered : managerSemantics i w (.reg op) answer w') :
    op.run w.now w.registry = (answer, w'.registry) ∧ w'.dispatchers = w.dispatchers ∧
      w'.connections = w.connections := by
  obtain applied | ⟨external, -⟩ := answered
  · simp only [ManagerOp.apply, Option.map_eq_some_iff] at applied
    obtain ⟨⟨b, registry⟩, ran, same⟩ := applied
    cases same
    exact ⟨RegOp.run_of_apply ran, rfl, rfl⟩
  · exact external.elim

/-! ### Steps that end sessions -/

section Captured

variable {log : ι → TaskLog} {past : List Registration} {k : Nat} {r : Registration}

omit [DecidableEq ι] in
/-- A section of a task that has not captured the registration leaves its record alone. -/
theorem record_of_section {op : RegOp β} {reg reg' : SessionRegistry} {now : Nat} {g : TaskLog}
    (tracked : Tracked past reg) (allowed : g.AllowsReg gate op)
    (handled : (handleProtocol gate).allows g (.reg op : ManagerOp ι β))
    (quiet : ¬ (ManagerOp.reg op : ManagerOp ι β).declares) (there : past[k]? = some r)
    (free : ¬ g.Captures r.uid r.generation) (ran : op.run now reg = (answer, reg'))
    {record : SessionRecord} (found : reg.inner.get r.uid = some record)
    (filed : record.dispatcher = k) : reg'.inner.get r.uid = some record := by
  obtain ⟨⟨r', there', -, made⟩, -⟩ := tracked.filed r.uid record found
  rw [filed, there] at there'
  cases there'
  have changed := op.changed ran r.uid
  rw [found] at changed
  generalize after : reg'.inner.get r.uid = record' at changed
  cases changed with
  | kept => rfl
  | reconnected | retooled => exact absurd trivial quiet
  | disconnected | touched | removed | swept => exact handled.elim
  | disconnected_if => exact absurd (.inl (made.generation ▸ allowed.1)) free
  | removed_if =>
    rcases allowed with registered | ⟨captured, target, generation, -⟩
    · exact absurd (.inl (made.generation ▸ registered)) free
    · exact absurd (.inr ⟨captured, target, generation.symm.trans made.generation⟩) free

/-- **A step by which sessions end leaves alone what the task has not captured.** -/
theorem untouched_of_step {op : ManagerOp ι β} (tracked : Tracked past w.registry)
    (owned : Owned log w.connections.next past) (allowed : (taskProtocol gate).allows (log i) op)
    (handled : (handleProtocol gate).allows (log i) op) (quiet : ¬ op.declares)
    (there : past[k]? = some r) (free : ¬ (log i).Captures r.uid r.generation)
    (answered : managerSemantics i w op answer w') : Untouched k r w w' := by
  have connection {c : Nat} (drains : (log i).DrainsConnection c) {h : ConnectionHandle}
      (c' : Nat) (given : r.connection = some c') :
      (w.set_connection c h).connections.cell c' = w.connections.cell c' := by
    rw [cell_set_connection, if_neg]
    intro same
    exact free (owned.captures_of_connection drains there (same ▸ given))
  cases op with
  | reg op =>
    obtain ⟨ran, dispatchers, connections⟩ := world_of_section answered
    refine ⟨fun record found filed => ?_, by rw [dispatchers], fun c _ => by rw [connections]⟩
    exact record_of_section tracked allowed handled quiet there free ran found filed
  | disp => exact handled.elim
  | accept =>
    obtain applied | ⟨external, -⟩ := answered
    · cases applied
      refine ⟨fun _ found _ => found, rfl, fun c given => ?_⟩
      have bound := owned.lt_of_connection (List.mem_of_getElem? there) given
      rw [Arena.cell_alloc, if_neg (Nat.ne_of_lt bound)]
    · exact external.elim
  | conn c op =>
    obtain applied | ⟨external, -⟩ := answered
    · cases applied
      exact ⟨fun _ found _ => found, rfl, connection (handled.elim allowed id)⟩
    · exact external.elim
  | send c msg =>
    obtain applied | ⟨external, -⟩ := answered
    · cases applied
      exact ⟨fun _ found _ => found, rfl, connection handled⟩
    · exact external.elim
  | drain_dispatcher d =>
    obtain applied | ⟨external, -⟩ := answered
    · cases applied
      refine ⟨fun _ found _ => found, Function.update_of_ne ?_ .., fun _ _ => rfl⟩
      rintro rfl
      obtain ⟨r', there', captured⟩ := owned.captures_of_dispatcher allowed
      cases there.symm.trans there'
      exact free captured
    · exact external.elim
  | timeout_at =>
    obtain applied | ⟨external, -⟩ := answered
    · simp only [ManagerOp.apply, Option.map_eq_some_iff] at applied
      obtain ⟨_, -, same⟩ := applied
      cases same
      exact .refl w
    · exact external.elim
  | mask | resolve =>
    obtain applied | ⟨-, rfl⟩ := answered
    · cases applied
    · exact .refl w'
  | _ =>
    obtain applied | ⟨external, -⟩ := answered
    · cases applied
      exact ⟨fun _ found _ => found, rfl, fun _ _ => rfl⟩
    · exact external.elim

omit [DecidableEq ι] in
/-- What closes is handled as what ends sessions. -/
theorem handled_of_closes {g : TaskLog} {op : ManagerOp ι β} (closes : op.closes)
    (allowed : (taskProtocol gate).allows g op) :
    (handleProtocol gate).allows g op ∧ ¬ op.declares := by
  cases op with
  | reg op =>
    cases op with
    | mark_disconnected_if_generation | remove_if_generation => exact ⟨trivial, not_false⟩
    | _ => exact closes.elim
  | conn c op => exact ⟨.inl closes, not_false⟩
  | disp => exact absurd closes allowed
  | drain_dispatcher => exact ⟨trivial, not_false⟩
  | _ => exact closes.elim

end Captured

/-! ### Other steps -/

/-- A connection that is not drained stays open. -/
theorem ConnOp.spares_open {op : ConnOp β} (spares : ¬ op.drains) {h : ConnectionHandle}
    (is_open : h.IsOpen) : (op.apply h).2.IsOpen := by
  have same : (op.apply h).2.state = h.state ∧ (op.apply h).2.outbound_tx = h.outbound_tx := by
    cases op with
    | store_disconnected | pending_drain | drop_senders | outbound_take =>
      exact absurd trivial spares
    | pending_insert id tx =>
      exact ⟨(h.insert_slot_frame id tx).2.2.1, (h.insert_slot_frame id tx).1⟩
    | pending_remove id => exact ⟨(h.remove_slot_frame id).2.2.1, (h.remove_slot_frame id).1⟩
    | outbound_send msg =>
      simp only [apply, ConnectionHandle.send_outbound]
      split_ifs <;> exact ⟨rfl, rfl⟩
    | _ => exact ⟨rfl, rfl⟩
  exact ⟨same.1.trans is_open.state, same.2.trans is_open.outbound_tx⟩

theorem DispOp.state_apply {v v' : DispatcherWorld ι} {op : DispOp ι β} (spares : ¬ op.drains)
    (answered : op.apply i v = some (answer, v')) : v'.dispatcher.state = v.dispatcher.state := by
  cases op with
  | store_drained => exact absurd trivial spares
  | poll_admission deadline | resume_admission deadline =>
    simp only [apply] at answered
    split at answered
    · cases answered
      rfl
    split at answered
    · cases answered
      rfl
    first
      | cases answered; rfl
      | (split at answered <;> cases answered; rfl)
  | select rx deadline =>
    simp only [apply] at answered
    split at answered
    · cases answered
      rfl
    · split at answered
      · cases answered
        rfl
      · cases answered
  | select_cancel_sent rx deadline =>
    obtain ⟨terminal, -, same⟩ := Option.map_eq_some_iff.mp answered
    cases same
    rfl
  | fetch_add_inflight | fetch_sub_inflight =>
    cases answered
    exact DispatcherWorld.set_inflight_state v _
  | _ =>
    cases answered
    rfl

theorem DispOp.connection_apply {v v' : DispatcherWorld ι} {op : DispOp ι β} (spares : ¬ op.drains)
    (answered : op.apply i v = some (answer, v')) (is_open : v.connection.IsOpen) :
    v'.connection.IsOpen := by
  by_cases own : op.for_conn
  · cases op with
    | conn op =>
      obtain ⟨-, same⟩ := DispOp.apply_conn answered
      rw [same]
      exact ConnOp.spares_open spares is_open
    | _ => exact own.elim
  · rwa [DispOp.apply_connection own answered]

theorem ConnectionHandle.IsOpen.send {h : ConnectionHandle} (is_open : h.IsOpen)
    (msg : WireMessage) : (h.send msg).2.IsOpen := by
  unfold ConnectionHandle.send
  split
  · exact ⟨is_open.state, is_open.outbound_tx⟩
  · exact is_open

/-- No dispatcher is drained and no connection closed. -/
structure SparesOpen (w w' : ManagerWorld ι) : Prop where
  dispatcher : ∀ d, (w'.dispatchers d).state = (w.dispatchers d).state
  connection : ∀ c, (w.connections.cell c).IsOpen → (w'.connections.cell c).IsOpen

omit [DecidableEq ι] in
theorem set_connection_open {h : ConnectionHandle} {connection : Nat}
    (kept : (w.connections.cell connection).IsOpen → h.IsOpen) {c : Nat}
    (is_open : (w.connections.cell c).IsOpen) :
    ((w.set_connection connection h).connections.cell c).IsOpen := by
  rw [cell_set_connection]
  split
  · rename_i same
    exact kept (same ▸ is_open)
  · exact is_open

theorem spares_open_of_step {op : ManagerOp ι β} (spares : ¬ op.drains)
    (answered : managerSemantics i w op answer w') : SparesOpen w w' := by
  obtain applied | ⟨-, rfl⟩ := answered
  · cases op with
    | accept =>
      cases applied
      refine ⟨fun d => rfl, fun c is_open => ?_⟩
      rw [Arena.cell_alloc]
      split
      · exact ⟨rfl, rfl⟩
      · exact is_open
    | reg | timeout_at =>
      simp only [ManagerOp.apply, Option.map_eq_some_iff] at applied
      obtain ⟨_, -, same⟩ := applied
      cases same
      exact ⟨fun d => rfl, fun c is_open => is_open⟩
    | conn connection op =>
      cases applied
      exact ⟨fun d => rfl, fun c => set_connection_open (ConnOp.spares_open spares)⟩
    | send connection msg =>
      cases applied
      exact ⟨fun d => rfl, fun c => set_connection_open fun is_open => is_open.send msg⟩
    | disp dispatcher connection op =>
      simp only [ManagerOp.apply, Option.map_eq_some_iff] at applied
      obtain ⟨⟨b, v⟩, ran, same⟩ := applied
      cases same
      refine ⟨fun d => ?_, fun c =>
        set_connection_open (w := w) (DispOp.connection_apply spares ran)⟩
      have drained := DispOp.state_apply spares ran
      change (Function.update w.dispatchers dispatcher v.dispatcher d).state = _
      rw [Function.update_apply]
      split
      · rename_i same
        rw [same]
        exact drained
      · rfl
    | drain_dispatcher => exact absurd trivial spares
    | mask | resolve => cases applied
    | _ =>
      cases applied
      exact ⟨fun d => rfl, fun c is_open => is_open⟩
  · exact ⟨fun d => rfl, fun c is_open => is_open⟩

end Steps

/-! ## Runs -/

/-- A step that accepts no connection and after which the task has not registered. -/
theorem own_next (gate : MaskingGate) (g : TaskLog) {β : Type} {op : ManagerOp ι β}
    (other : ¬ op.accepts) (answer : β) : ((taskProtocol gate).next g op answer).own = g.own ∧
      (((taskProtocol gate).next g op answer).registered = none → g.registered = none) := by
  cases op with
  | accept => exact absurd trivial other
  | reg op =>
    cases op with
    | register =>
      cases answer with
      | error error => exact ⟨rfl, id⟩
      | ok result => exact ⟨rfl, fun none => by cases none⟩
    | _ => exact ⟨rfl, id⟩
  | conn c op => cases op <;> exact ⟨rfl, id⟩
  | _ => exact ⟨rfl, id⟩

theorem own_of_spares {gate : MaskingGate} {g : TaskLog} {tr : List (Event (ManagerOp ι))}
    (spares : ∀ ev ∈ tr, ¬ ev.request.accepts) : ((taskProtocol gate).after g tr).own = g.own := by
  induction tr generalizing g with
  | nil => rfl
  | cons ev tr ih =>
    obtain ⟨other, rest⟩ := List.forall_mem_cons.mp spares
    exact (ih rest).trans (own_next gate g other ev.answer).1

section Runs

variable [DecidableEq ι] {settings : ManagerSettings} {tools_cache : Option ToolsCacheStore}
  {tasks : ι → ManagerTask ι} {tr : List (PoolEvent ι (ManagerOp ι))}
  {q q' : Pool ι (ManagerOp ι) (ManagerWorld ι) ManagerReturn} {i : ι}

theorem socket_of_own (run : Pool.Run managerSemantics (managerPool settings tools_cache tasks) tr q)
    {c : Nat} (own : (log_of settings.gate tr i).own = some c) :
    ∃ frames, tasks i = .socket frames := by
  rcases (tasks i).kind settings with ⟨socket, -⟩ | ⟨-, others⟩
  · exact socket
  · have spares : ((tasks i).prog settings).Only fun op => ¬ op.accepts := by
      rcases others with calls | tends
      · exact calls.mono fun op calls accepts => by cases op <;> first | exact calls | exact accepts
      · exact tends.mono fun op tends accepts => by cases op <;> first | exact tends | exact accepts
    rw [log_of, own_of_spares ((run.project i).only spares)] at own
    cases own

/-- The connections and dispatchers that nobody has registered yet are open. -/
structure Unspent (gate : MaskingGate) (tr : List (PoolEvent ι (ManagerOp ι)))
    (w : ManagerWorld ι) : Prop where
  connection : ∀ j c, (log_of gate tr j).own = some c → (log_of gate tr j).registered = none →
    (∀ ev ∈ Pool.project j tr, ¬ ev.request.drains) → (w.connections.cell c).IsOpen
  dispatcher : ∀ d, (registrations tr).length ≤ d → (w.dispatchers d).state = .Open

/-- What a step that drains leaves open. -/
theorem Unspent.drained {past : List (PoolEvent ι (ManagerOp ι))} {w w' : ManagerWorld ι} {β : Type}
    {op : ManagerOp ι β} {answer : β} {gate : MaskingGate} (unspent : Unspent gate past w)
    (owned : Owned (log_of gate past) w.connections.next (registrations past))
    (allowed : (taskProtocol gate).allows (log_of gate past i) op) (drains : op.drains)
    (answered : managerSemantics i w op answer w') :
    (∀ d, (registrations past).length ≤ d → (w'.dispatchers d).state = .Open) ∧
      ∀ j c, i ≠ j → (log_of gate past j).own = some c → (log_of gate past j).registered = none →
        w'.connections.cell c = w.connections.cell c := by
  obtain applied | ⟨external, -⟩ := answered
  · cases op with
    | conn connection op =>
      cases applied
      refine ⟨unspent.dispatcher, fun j c other own unregistered => ?_⟩
      rw [cell_set_connection, if_neg]
      intro same
      exact other (owned.owner_of_drains (allowed drains) (same ▸ own) unregistered)
    | disp => exact absurd drains allowed
    | drain_dispatcher dispatcher =>
      cases applied
      refine ⟨fun d bound => ?_, fun j c _ _ _ => rfl⟩
      obtain ⟨r, there, -⟩ := owned.captures_of_dispatcher allowed
      have differ : d ≠ dispatcher := by
        have earlier := (List.getElem?_eq_some_iff.mp there).1
        omega
      change (Function.update w.dispatchers dispatcher _ d).state = .Open
      rw [Function.update_of_ne differ]
      exact unspent.dispatcher d bound
    | _ => exact drains.elim
  · cases op with
    | mask | resolve => exact drains.elim
    | _ => exact external.elim

theorem Unspent.step {past : List (PoolEvent ι (ManagerOp ι))} {w w' : ManagerWorld ι} {β : Type}
    {op : ManagerOp ι β} {answer : β} {gate : MaskingGate} (unspent : Unspent gate past w)
    (owned : Owned (log_of gate past) w.connections.next (registrations past))
    (allowed : (taskProtocol gate).allows (log_of gate past i) op)
    (answered : managerSemantics i w op answer w') :
    Unspent gate (past ++ [⟨i, ⟨op, answer⟩⟩]) w' where
  connection j c own unregistered undrained := by
    by_cases same : i = j
    · subst same
      rw [log_of_snoc_self] at own unregistered
      rw [Pool.project_snoc_self] at undrained
      have before := fun ev member => undrained ev (List.mem_append_left _ member)
      have spares := undrained _ (List.mem_append_right _ (List.mem_singleton_self _))
      obtain ⟨accepted, -⟩ | ⟨other, -⟩ := next_of_step answered
      · cases accepted
        cases own
        obtain applied | ⟨external, -⟩ := answered
        · cases applied
          rw [Arena.cell_alloc, if_pos rfl]
          exact ⟨rfl, rfl⟩
        · exact external.elim
      · obtain ⟨kept, earlier⟩ := own_next gate (log_of gate past i) other answer
        exact (spares_open_of_step spares answered).connection c
          (unspent.connection i c (kept.symm.trans own) (earlier unregistered) before)
    · rw [log_of_snoc_of_ne same] at own unregistered
      rw [Pool.project_snoc_of_ne same] at undrained
      have is_open := unspent.connection j c own unregistered undrained
      by_cases drains : op.drains
      · rwa [(unspent.drained owned allowed drains answered).2 j c same own unregistered]
      · exact (spares_open_of_step drains answered).connection c is_open
  dispatcher d bound := by
    rw [registrations_snoc, List.length_append] at bound
    by_cases drains : op.drains
    · exact (unspent.drained owned allowed drains answered).1 d (by omega)
    · rw [(spares_open_of_step drains answered).dispatcher d]
      exact unspent.dispatcher d (by omega)

theorem unspent (run : Pool.Run managerSemantics (managerPool settings tools_cache tasks) tr q) :
    Unspent settings.gate tr q.shared := by
  refine run.along (I := fun tr q => Unspent settings.gate tr q.shared) ?_ ?_
  · exact ⟨fun j c none => (by cases none), fun d _ => rfl⟩
  · intro past ev s s' before one unspent
    have allowed := before.allowed ((tasks ev.tid).follows settings) one
    cases one with
    | step _ answered => exact unspent.step (owned before) allowed answered

/-- **A registration that was just made stands.** -/
theorem stands_of_registration
    (run : Pool.Run managerSemantics (managerPool settings tools_cache tasks) tr q)
    {ev : Event (ManagerOp ι)} (step : Pool.Step managerSemantics q ⟨i, ev⟩ q') {r : Registration}
    (registered : ev.request.registration ev.answer = some r) :
    Stands (registrations tr).length r q'.shared := by
  have allowed := run.allowed ((tasks i).follows settings) step
  obtain ⟨op, answer⟩ := ev
  cases op with
  | reg op =>
    cases op with
    | register params instant connection =>
      cases answer with
      | error error => cases registered
      | ok result =>
        cases registered
        obtain ⟨fresh, given, own, -⟩ := allowed
        obtain ⟨c, accepted⟩ := Option.isSome_iff_exists.mp given
        obtain ⟨frames, socket⟩ := socket_of_own run (own.symm.trans accepted)
        have registers : (Protocol.before ManagerOp.registers ManagerOp.drains).Follows
            (fun _ _ => True) False ((tasks i).prog settings) := by
          rw [socket]
          exact (handle_socket_registers settings.app_state settings.decoders frames).bind
            fun _ _ _ => trivial
        have undrained := fun ev member drains => run.allowed registers step trivial
          ((Protocol.after_before _).mpr (.inr ⟨ev, member, drains⟩))
        cases step with
        | step _ answered =>
          obtain ⟨ran, dispatchers, connections⟩ := world_of_section answered
          obtain ⟨record, found, filed, rest⟩ := record_of_registration ran rfl
          refine ⟨⟨record, found, filed.trans (tracked run).next_dispatcher, rest⟩, ?_,
            fun c connected => ?_⟩
          · rw [dispatchers]
            exact (unspent run).dispatcher _ (Nat.le_refl _)
          · rw [connections]
            exact (unspent run).connection i c (own.symm.trans connected) fresh undrained
    | _ => cases registered
  | _ => cases registered

/-- A step that closes nothing leaves a registration standing. -/
theorem Stands.of_spares {k : Nat} {r : Registration} {w w' : ManagerWorld ι} {β : Type}
    {op : ManagerOp ι β} {answer : β} {gate : MaskingGate} {g : TaskLog} (stands : Stands k r w)
    (allowed : (taskProtocol gate).allows g op) (spares : ¬ op.closes)
    (answered : managerSemantics i w op answer w') : Stands k r w' := by
  have undrained : ¬ op.drains := by
    intro drains
    cases op with
    | reg => exact drains
    | _ => exact spares drains
  obtain ⟨dispatcher, connection⟩ := spares_open_of_step undrained answered
  refine ⟨?_, (dispatcher k).trans stands.dispatcher, fun c given =>
    connection c (stands.connection c given)⟩
  obtain ⟨rop, rfl, ran⟩ | ⟨-, -, same⟩ := section_of_step answered
  · refine current_after (RegOp.run_of_apply ran) allowed (fun ends => spares ?_) stands.record
    cases rop with
    | mark_disconnected_if_generation | remove_if_generation => trivial
    | _ => exact ends.elim
  · rw [same]
    exact stands.record

/-- **A registration stands until a task that has captured it cleans up.** -/
theorem stands_of_run {tr' : List (PoolEvent ι (ManagerOp ι))} {k : Nat} {r : Registration}
    (run : Pool.Run managerSemantics (managerPool settings tools_cache tasks) tr q)
    (there : (registrations tr)[k]? = some r) (stands : Stands k r q.shared)
    (later : Pool.Run managerSemantics q tr' q')
    (spared : ∀ x j ev y, tr' = x ++ ⟨j, ev⟩ :: y → ev.request.closes →
      ¬ (log_of settings.gate (tr ++ x) j).Captures r.uid r.generation) : Stands k r q'.shared := by
  refine later.along (I := fun x s => (∃ y, tr' = x ++ y) → Stands k r s.shared) ?_ ?_
    ⟨[], (List.append_nil tr').symm⟩
  · exact fun _ => stands
  · intro x ev s s' before one stands here
    obtain ⟨y, rfl⟩ := here
    obtain ⟨j, ev⟩ := ev
    have run := run.append before
    have allowed := run.allowed ((tasks j).follows settings) one
    have standing : Stands k r s.shared := stands ⟨⟨j, ev⟩ :: y, by simp⟩
    by_cases closes : ev.request.closes
    · have free := spared x j ev y (by simp) closes
      obtain ⟨handled, quiet⟩ := handled_of_closes closes allowed
      cases one with
      | step _ answered =>
        refine standing.of_untouched (untouched_of_step (tracked run) (owned run) allowed handled quiet
          ?_ free answered)
        rw [registrations, List.filterMap_append]
        exact getElem?_of_prefix _ there
    · cases one with
      | step _ answered => exact standing.of_spares allowed closes answered

/-- **Generations are isolated.** -/
theorem generations_isolated
    (run : Pool.Run managerSemantics (managerPool settings tools_cache tasks) tr q)
    {ev : Event (ManagerOp ι)} (step : Pool.Step managerSemantics q ⟨i, ev⟩ q') :
    ((tasks i).Ends → ¬ ev.request.declares → ∀ k r, (registrations tr)[k]? = some r →
        ¬ (log_of settings.gate tr i).Captures r.uid r.generation →
        Untouched k r q.shared q'.shared) ∧
      ∀ r, ev.request.registration ev.answer = some r → ∀ tr' q'', Pool.Run managerSemantics q' tr' q'' →
        (∀ x j late y, tr' = x ++ ⟨j, late⟩ :: y → late.request.closes →
          ¬ (log_of settings.gate (tr ++ ⟨i, ev⟩ :: x) j).Captures r.uid r.generation) →
        Stands (registrations tr).length r q''.shared := by
  constructor
  · intro ends quiet k r there free
    have allowed := run.allowed ((tasks i).follows settings) step
    have handled := run.allowed (ends.handles settings) step
    cases step with
    | step _ answered =>
      exact untouched_of_step (tracked run) (owned run) allowed handled quiet there free answered
  · intro r registered tr' q'' later spared
    have registering := Pool.Run.snoc run step
    refine stands_of_run registering ?_ (stands_of_registration run step registered) later ?_
    · obtain ⟨op, answer⟩ := ev
      rw [registrations_snoc, registered]
      simp
    · intro x j late y here closes
      rw [List.append_assoc]
      exact spared x j late y here closes

end Runs

/-! ### A shutdown that ends after the client has come back -/

inductive Lingerer
  | old
  | ender
  | fresh
  deriving DecidableEq

def lingering_settings : ManagerSettings :=
  { gated_settings masking_off with graceful_kill_grace_ms := 0 }

def lingering_tasks : Lingerer → ManagerTask Lingerer
  | .ender => .shutdown "s"
  | _ => .socket [registers "s" []]

/-- A session is being shut down; its client hangs up meanwhile, and registers again. -/
def linger (registering ending : Nat) := ManagerPool.play .unreachable
  (List.replicate 7 .old ++ List.replicate 14 .ender ++ List.replicate 15 .old ++
    List.replicate registering .fresh ++ List.replicate ending .ender)
  (managerPool lingering_settings none lingering_tasks)

theorem run_linger (registering ending : Nat) : Pool.Run managerSemantics
    (managerPool lingering_settings none lingering_tasks) (linger registering ending).1
      (linger registering ending).2 :=
  ManagerPool.run_play .unreachable _ _

def comes_back : Event (ManagerOp Lingerer) :=
  ⟨.reg (.register (client_params "s" []) 0 (some 1)), .ok (.Reconnected, 2)⟩

def drains_late : Event (ManagerOp Lingerer) := ⟨.drain_dispatcher 0, ()⟩

def removes_late : Event (ManagerOp Lingerer) := ⟨.reg (.remove_if_generation "s" 1), none⟩

set_option maxRecDepth 8000 in
theorem linger_ends : (linger 3 2).1 = (linger 2 0).1 ++
    ⟨.fresh, comes_back⟩ :: [⟨.ender, drains_late⟩, ⟨.ender, removes_late⟩] := rfl

/-- The shutdown has captured the registration of the client that hung up. -/
theorem ender_not_captures {past : List (PoolEvent Lingerer (ManagerOp Lingerer))}
    (unregistered : (log_of masking_off past .ender).registered = none)
    (generation : (log_of masking_off past .ender).target.map
      (fun target => target.2.connection_generation) = some 1) :
    ¬ (log_of masking_off past .ender).Captures "s" 2 := by
  intro captures
  rcases captures with registered | ⟨record, target, newer⟩
  · cases unregistered.symm.trans registered
  · rw [target, Option.map_some, newer] at generation
    cases generation

def back : Registration := ⟨client_params "s" [], some 1, 2⟩

set_option maxRecDepth 8000 in
/-- The new registration outlasts the end of the shutdown, which leaves it alone. -/
theorem generations_isolated_late :
    (∃ s s', Pool.Run managerSemantics (managerPool lingering_settings none lingering_tasks)
        (linger 2 0).1 s ∧ Pool.Step managerSemantics s ⟨.fresh, comes_back⟩ s' ∧
      Pool.Run managerSemantics s' [⟨.ender, drains_late⟩, ⟨.ender, removes_late⟩] (linger 3 2).2 ∧
      Stands 1 back (linger 3 2).2.shared) ∧
    ∃ s s', Pool.Run managerSemantics (managerPool lingering_settings none lingering_tasks)
        (linger 3 1).1 s ∧ Pool.Step managerSemantics s ⟨.ender, removes_late⟩ s' ∧
      Untouched 1 back s.shared s'.shared := by
  constructor
  · have run := run_linger 3 2
    rw [linger_ends] at run
    obtain ⟨s, s', before, step, late⟩ := run.split
    refine ⟨s, s', before, step, late, ?_⟩
    refine (generations_isolated before step).2 back rfl _ _ late fun x j ev y here _ => ?_
    rcases x with _ | ⟨first, _ | ⟨second, x⟩⟩
    · cases here
      exact ender_not_captures rfl rfl
    · cases here
      exact ender_not_captures rfl rfl
    · simp at here
  · have run : Pool.Run managerSemantics _ ((linger 3 1).1 ++ ⟨.ender, removes_late⟩ :: []) _ :=
      run_linger 3 2
    obtain ⟨s, s', before, step, -⟩ := run.split
    refine ⟨s, s', before, step, ?_⟩
    exact (generations_isolated before step).1 trivial id 1 back rfl (ender_not_captures rfl rfl)

end SessionManager
