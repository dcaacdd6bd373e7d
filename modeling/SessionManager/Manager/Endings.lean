import SessionManager.Manager.Ownership

/-!
# How registrations end

A record leaves the registry, or is disconnected, by a section of some task.  Disconnects and
shutdowns drain the connection of the record before their section, a goodbye after it.  So the
record of a connection that still takes messages is active exactly when every task that has ended
it had drained the connection (`current_iff_orderly`).
-/

namespace SessionManager

open Effect

variable {ι : Type}

/-- Takes the active record with this dispatcher out, or disconnects it. -/
def RegOp.ends (uid : String) (k : Nat) : ∀ {β : Type}, RegOp β → β → Prop
  | _, .mark_disconnected_if_generation session_id _ _, handed =>
      session_id = uid ∧ ∃ connection, handed = some (connection, k)
  | _, .remove_if_generation session_id _, removed =>
      session_id = uid ∧ ∃ record, removed = some record ∧ record.dispatcher = k ∧
        record.state = .Active
  | _, _, _ => False

def ManagerOp.ends (uid : String) (k : Nat) : ∀ {β : Type}, ManagerOp ι β → β → Prop
  | _, .reg op, answer => op.ends uid k answer
  | _, _, _ => False

/-- The registry has an active record of the registration. -/
def Current (k : Nat) (r : Registration) (reg : SessionRegistry) : Prop :=
  ∃ record, reg.inner.get r.uid = some record ∧ record.dispatcher = k ∧
    record.connection_generation = r.generation ∧ record.state = .Active

/-- Every task that has ended the registration had taken the sender of its connection before. -/
def Orderly [DecidableEq ι] (gate : MaskingGate) (k : Nat) (r : Registration)
    (tr : List (PoolEvent ι (ManagerOp ι))) : Prop :=
  Trace.Throughout (fun past ev => ev.event.request.ends r.uid k ev.event.answer →
    (log_of gate past ev.tid).Closed r.connection) tr

/-! ## Sections -/

section Sections

variable {reg reg' : SessionRegistry} {k now : Nat} {r : Registration} {β : Type} {op : RegOp β}
  {answer : β}

theorem not_current_of_ends (ran : op.run now reg = (answer, reg'))
    (ends : op.ends r.uid k answer) : ¬ Current k r reg' := by
  intro current
  obtain ⟨record', found, -, -, active⟩ := current
  cases op with
  | mark_disconnected_if_generation session_id generation instant =>
    obtain ⟨rfl, connection, rfl⟩ := ends
    simp only [RegOp.run] at ran
    unfold SessionRegistry.disconnect at ran
    split at ran
    · split at ran
      · cases ran
        rw [SessionRegistry.set_record, HashMap.get_insert, if_pos rfl] at found
        cases found
        cases active
      · cases ran
    · cases ran
  | remove_if_generation session_id generation =>
    obtain ⟨rfl, record, rfl, -⟩ := ends
    have removed : (RegOp.remove_if_generation r.uid generation).removes r.uid generation
        (some record) := ⟨rfl, rfl, rfl⟩
    rw [not_holds_of_removes ran removed] at found
    cases found
  | _ => exact ends

/-- A record that has this dispatcher had it before, as dispatchers are not used twice. -/
theorem current_before (ran : op.run now reg = (answer, reg')) (bound : k < reg.next_dispatcher)
    (current : Current k r reg') : Current k r reg := by
  obtain ⟨record, found, filed, generation, active⟩ := current
  have changed := op.changed ran r.uid
  rw [found] at changed
  generalize before : reg.inner.get r.uid = old at changed
  cases changed with
  | kept => exact ⟨record, before, filed, generation, active⟩
  | created | reconnected => exact absurd filed (Nat.ne_of_gt bound)
  | disconnected | disconnected_if => cases active
  | touched | retooled => exact ⟨_, before, filed, generation, active⟩

/-- A record that a task does not end stays active. -/
theorem current_after {gate : MaskingGate} {g : TaskLog} (ran : op.run now reg = (answer, reg'))
    (allowed : g.AllowsReg gate op) (spared : ¬ op.ends r.uid k answer)
    (current : Current k r reg) : Current k r reg' := by
  obtain ⟨record, found, filed, generation, active⟩ := current
  have changed := op.changed ran r.uid
  rw [found] at changed
  generalize after : reg'.inner.get r.uid = record' at changed
  cases changed with
  | kept => exact ⟨record, after, filed, generation, active⟩
  | touched | retooled => exact ⟨_, after, filed, generation, active⟩
  | reconnected _ state | swept state => cases state.symm.trans active
  | disconnected | removed => exact allowed.elim
  | disconnected_if => exact absurd ⟨rfl, record.connection, by rw [filed]⟩ spared
  | removed_if => exact absurd ⟨rfl, record, rfl, filed, active⟩ spared

/-- The record that a section ends has its registration among the past ones. -/
theorem lt_of_ends {past : List Registration} (tracked : Tracked past reg) {uid : String}
    (ran : op.run now reg = (answer, reg')) (ends : op.ends uid k answer) : k < past.length := by
  have filed (session_id : String) (record : SessionRecord)
      (found : reg.inner.get session_id = some record) (same : record.dispatcher = k) :
      k < past.length := by
    obtain ⟨⟨r, there, -⟩, -⟩ := tracked.filed session_id record found
    exact same ▸ (List.getElem?_eq_some_iff.mp there).1
  cases op with
  | mark_disconnected_if_generation session_id generation instant =>
    obtain ⟨-, connection, rfl⟩ := ends
    obtain ⟨record, found, -, -, -, same⟩ := disconnect_some ran
    exact filed session_id record found same.symm
  | remove_if_generation session_id generation =>
    obtain ⟨-, record, rfl, same, -⟩ := ends
    simp only [RegOp.run] at ran
    unfold SessionRegistry.take at ran
    split at ran
    · rename_i found
      split at ran
      · cases ran
        exact filed session_id record found same
      · cases ran
    · cases ran
  | _ => exact ends.elim

end Sections

/-! ## Steps -/

section Steps

variable [DecidableEq ι] {i : ι} {w w' : ManagerWorld ι} {β : Type} {op : ManagerOp ι β} {answer : β}

omit [DecidableEq ι] in
theorem accepts_of_set {connection c : Nat} {h : ConnectionHandle}
    (earlier : h.accepts → (w.connections.cell connection).accepts)
    (accepts : ((w.set_connection connection h).connections.cell c).accepts) :
    (w.connections.cell c).accepts := by
  rw [cell_set_connection] at accepts
  split at accepts
  · rename_i same
    exact same ▸ earlier accepts
  · exact accepts

theorem ConnectionHandle.accepts_of_send {h : ConnectionHandle} {msg : WireMessage}
    (accepts : (h.send msg).2.accepts) : h.accepts := by
  unfold ConnectionHandle.send at accepts
  split at accepts
  · exact accepts
  · exact accepts

theorem DispOp.accepts_of_apply {op : DispOp ι β} {v v' : DispatcherWorld ι}
    (ran : op.apply i v = some (answer, v')) (accepts : v'.connection.accepts) :
    v.connection.accepts := by
  by_cases own : op.for_conn
  · cases op with
    | conn op =>
      rw [(DispOp.apply_conn ran).2] at accepts
      exact (ConnOp.accepts_apply.mp accepts).1
    | _ => exact own.elim
  · rwa [DispOp.apply_connection own ran] at accepts

/-- A channel that was closed stays closed. -/
theorem accepts_of_step (answered : managerSemantics i w op answer w') {c : Nat}
    (there : c < w.connections.next) (accepts : (w'.connections.cell c).accepts) :
    (w.connections.cell c).accepts := by
  obtain applied | ⟨-, rfl⟩ := answered
  · cases op with
    | accept =>
      cases applied
      rwa [Arena.cell_alloc, if_neg (Nat.ne_of_lt there)] at accepts
    | reg | timeout_at =>
      simp only [ManagerOp.apply, Option.map_eq_some_iff] at applied
      obtain ⟨_, -, same⟩ := applied
      cases same
      exact accepts
    | conn connection op =>
      cases applied
      exact accepts_of_set (fun open_after => (ConnOp.accepts_apply.mp open_after).1) accepts
    | send connection msg =>
      cases applied
      exact accepts_of_set ConnectionHandle.accepts_of_send accepts
    | disp dispatcher connection op =>
      simp only [ManagerOp.apply, Option.map_eq_some_iff] at applied
      obtain ⟨⟨b, v⟩, ran, same⟩ := applied
      cases same
      exact accepts_of_set (w := w) (DispOp.accepts_of_apply ran) accepts
    | mask | resolve => cases applied
    | _ =>
      cases applied
      exact accepts
  · exact accepts

end Steps

/-! ## Runs -/

section Runs

variable [DecidableEq ι] {settings : ManagerSettings} {tools_cache : Option ToolsCacheStore}
  {tasks : ι → ManagerTask ι} {tr : List (PoolEvent ι (ManagerOp ι))}
  {q : Pool ι (ManagerOp ι) (ManagerWorld ι) ManagerReturn}

omit [DecidableEq ι] in
theorem closed_next (gate : MaskingGate) (g : TaskLog) {β : Type} {op : ManagerOp ι β} {answer : β}
    {c : Nat} (closed : c ∈ ((taskProtocol gate).next g op answer).closed) :
    c ∈ g.closed ∨ (⟨op, answer⟩ : Event (ManagerOp ι)) = ⟨.conn c .outbound_take, ()⟩ := by
  cases op with
  | reg op =>
    cases op with
    | register => cases answer <;> exact .inl closed
    | _ => exact .inl closed
  | conn connection op =>
    cases op with
    | outbound_take =>
      rcases List.mem_cons.mp closed with rfl | before
      · exact .inr rfl
      · exact .inl before
    | _ => exact .inl closed
  | _ => exact .inl closed

theorem next_le {i : ι} {w w' : ManagerWorld ι} {β : Type} {op : ManagerOp ι β} {answer : β}
    (answered : managerSemantics i w op answer w') : w.connections.next ≤ w'.connections.next := by
  obtain ⟨-, next⟩ | ⟨-, next⟩ := next_of_step answered <;> omega

theorem not_accepts_of_take {i : ι} {w w' : ManagerWorld ι} {c : Nat}
    (answered : managerSemantics i w (.conn c .outbound_take) () w') :
    ¬ (w'.connections.cell c).accepts := by
  obtain applied | ⟨external, -⟩ := answered
  · cases applied
    rw [cell_set_connection, if_pos rfl]
    intro both
    cases both.1
  · exact external.elim

/-- **A connection whose sender a task has taken takes no messages any more.** -/
theorem closed_of_run (run : Pool.Run managerSemantics (managerPool settings tools_cache tasks) tr q)
    {j : ι} {c : Nat} (closed : c ∈ (log_of settings.gate tr j).closed) :
    c < q.shared.connections.next ∧ ¬ (q.shared.connections.cell c).accepts := by
  refine run.along (I := fun tr q => ∀ j c, c ∈ (log_of settings.gate tr j).closed →
    c < q.shared.connections.next ∧ ¬ (q.shared.connections.cell c).accepts) ?_ ?_ j c closed
  · exact fun j c none => absurd none List.not_mem_nil
  · intro past ev s s' before one earlier j c closed
    obtain ⟨i, op, answer⟩ := ev
    have allowed := before.allowed ((tasks i).follows settings) one
    have owned := owned before
    cases one with
    | step _ answered =>
      have stays (here : c ∈ (log_of settings.gate past j).closed) := by
        obtain ⟨there, closed⟩ := earlier j c here
        have kept := fun accepts => closed (accepts_of_step answered there accepts)
        exact And.intro (Nat.lt_of_lt_of_le there (next_le answered)) kept
      by_cases same : i = j
      · subst same
        rw [log_of_snoc_self] at closed
        rcases closed_next settings.gate (log_of settings.gate past i) closed with here | takes
        · exact stays here
        · cases takes
          have there := owned.lt_of_drains (allowed trivial)
          exact ⟨Nat.lt_of_lt_of_le there (next_le answered), not_accepts_of_take answered⟩
      · rw [log_of_snoc_of_ne same] at closed
        exact stays closed

omit [DecidableEq ι] in
theorem not_ends_of_outside {β : Type} {op : ManagerOp ι β} {answer : β}
    (outside : ∀ rop : RegOp β, op ≠ .reg rop) {uid : String} {k : Nat} :
    ¬ op.ends uid k answer := by
  cases op with
  | reg rop => exact absurd rfl (outside rop)
  | _ => exact not_false

/-- **When a registration has its record after a step:** it had it, and the step does not end it. -/
theorem current_of_step {i : ι} {w w' : ManagerWorld ι} {β : Type} {op : ManagerOp ι β} {answer : β}
    {gate : MaskingGate} {g : TaskLog} {past : List Registration} {k : Nat} {r : Registration}
    (tracked : Tracked past w.registry) (bound : k < past.length)
    (allowed : (taskProtocol gate).allows g op) (answered : managerSemantics i w op answer w') :
    Current k r w'.registry ↔ Current k r w.registry ∧ ¬ op.ends r.uid k answer := by
  obtain ⟨rop, rfl, ran⟩ | ⟨-, outside, same⟩ := section_of_step answered
  · have ran := RegOp.run_of_apply ran
    constructor
    · intro current
      exact ⟨current_before ran (tracked.next_dispatcher ▸ bound) current,
        fun ends => not_current_of_ends ran ends current⟩
    · intro both
      exact current_after ran allowed both.2 both.1
  · rw [same]
    exact (and_iff_left (not_ends_of_outside outside)).symm

theorem lt_of_ending_step {i : ι} {w w' : ManagerWorld ι} {β : Type} {op : ManagerOp ι β} {answer : β}
    {past : List Registration} (tracked : Tracked past w.registry)
    (answered : managerSemantics i w op answer w') {uid : String} {k : Nat}
    (ends : op.ends uid k answer) : k < past.length := by
  obtain ⟨rop, rfl, ran⟩ | ⟨-, outside, -⟩ := section_of_step answered
  · exact lt_of_ends tracked (RegOp.run_of_apply ran) ends
  · exact absurd ends (not_ends_of_outside outside)

/-- Nobody ends a registration before it is made. -/
theorem orderly_of_unmade
    (run : Pool.Run managerSemantics (managerPool settings tools_cache tasks) tr q) {k : Nat}
    (later : (registrations tr).length ≤ k) (r : Registration) : Orderly settings.gate k r tr := by
  intro x ev y split ends
  subst split
  obtain ⟨s, s', before, one, -⟩ := run.split
  cases one with
  | step _ answered =>
    have made := lt_of_ending_step (tracked before) answered ends
    rw [registrations, List.filterMap_append, List.length_append] at later
    change (registrations x).length + _ ≤ k at later
    omega

/-- The registration that a step makes has its record. -/
theorem current_of_registration {i : ι} {w w' : ManagerWorld ι} {β : Type} {op : ManagerOp ι β}
    {answer : β} {past : List Registration} {r : Registration} (tracked : Tracked past w.registry)
    (answered : managerSemantics i w op answer w') (registered : op.registration answer = some r) :
    Current past.length r w'.registry := by
  obtain ⟨rop, rfl, ran⟩ | ⟨none, -⟩ := section_of_step answered
  · rw [← tracked.next_dispatcher]
    exact record_of_registration (RegOp.run_of_apply ran) registered
  · cases none.symm.trans registered

/-- **While messages go out, the record is active exactly when those who ended it had drained.** -/
theorem current_iff_orderly
    (run : Pool.Run managerSemantics (managerPool settings tools_cache tasks) tr q) {k c : Nat}
    {r : Registration} (there : (registrations tr)[k]? = some r) (given : r.connection = some c)
    (accepts : (q.shared.connections.cell c).accepts) :
    Current k r q.shared.registry ↔ Orderly settings.gate k r tr := by
  refine run.along (I := fun tr q => (registrations tr)[k]? = some r →
    (q.shared.connections.cell c).accepts →
      (Current k r q.shared.registry ↔ Orderly settings.gate k r tr)) ?_ ?_ there accepts
  · intro none
    cases none
  · intro past ev s s' before one earlier there accepts
    obtain ⟨i, op, answer⟩ := ev
    have allowed := before.allowed ((tasks i).follows settings) one
    have closed := closed_of_run before (j := i) (c := c)
    have unmade := orderly_of_unmade before (k := k) (r := r)
    have tracked := tracked before
    have owned := owned before
    cases one with
    | step _ answered =>
      rw [Orderly, Trace.throughout_snoc_iff]
      rw [registrations_snoc] at there
      rcases Trace.getElem?_grown there with there | ⟨rfl, registered⟩
      · have bound := (List.getElem?_eq_some_iff.mp there).1
        have member := List.mem_of_getElem? there
        have open_before := accepts_of_step answered (owned.lt_of_connection member given) accepts
        -- its channel is open, so the task of this step has not closed it
        have unclosed : ¬ (log_of settings.gate past i).Closed r.connection :=
          fun drained => (closed (drained c given)).2 open_before
        rw [current_of_step tracked bound allowed answered, earlier there open_before]
        exact and_congr_right fun _ => ⟨fun spared ends => absurd ends spared,
          fun drained ends => unclosed (drained ends)⟩
      · refine iff_of_true (current_of_registration tracked answered registered)
          ⟨unmade (Nat.le_refl _), fun ends => ?_⟩
        exact absurd (lt_of_ending_step tracked answered ends) (Nat.lt_irrefl _)

end Runs

end SessionManager
