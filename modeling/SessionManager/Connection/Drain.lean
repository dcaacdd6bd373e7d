import SessionManager.Connection.Senders

/-!
# Draining a handle while requests are being sent

One complete `drain_pending` against any number of `dispatch_request` calls, with
the writer task ending whenever it likes.  The drain stores the state, empties the
table and takes the outbound sender in separate sections, and a call checks the
state, fills its slot and sends in separate sections as well.

`drain_leaves_none_waiting_iff` says which interleavings end well: all but those in
which a call fills its slot after the table was emptied and sends before the outbound
sender was taken.
-/

namespace SessionManager

open Json Effect

/-! ## What a finished call did -/

/-- A returned `dispatch_request` was refused at once, or filled one slot and sent once;
when the message was not accepted it removed the slot again. -/
theorem dispatch_request_exec {method : String} {params : Value} {l : List (Event ConnOp)}
    {value : ConnReturn} (run : Exec (ConnTask.dispatch_request method params).prog l (.ret value)) :
    (l = [⟨.load_state, .Disconnected⟩] ∧ value = .dispatched (.error .Disconnected)) ∨
    ∃ n rx sent rest, l = ⟨.load_state, .Active⟩ :: ⟨.fetch_add_id, n⟩ :: ⟨.oneshot_channel, rx⟩ ::
        ⟨.pending_insert (mgr_id n) rx, ()⟩ ::
        ⟨.outbound_send (.request (mgr_id n) method params), sent⟩ :: rest ∧
      ((sent = .accepted ∧ rest = [] ∧ value = .dispatched (.ok (mgr_id n, rx))) ∨
        (sent ≠ .accepted ∧ rest = [⟨.pending_remove (mgr_id n), ()⟩] ∧
          value = .dispatched (.error .WriterClosed))) := by
  cases run with
  | step state run =>
    cases state with
    | Disconnected =>
      obtain ⟨rfl, same⟩ := run.of_ret
      cases same
      exact .inl ⟨rfl, rfl⟩
    | Active =>
      refine .inr ?_
      cases run with | step n run => cases run with | step rx run =>
      cases run with | step _ run => cases run with | step sent run =>
      cases sent with
      | accepted =>
        obtain ⟨rfl, same⟩ := run.of_ret
        cases same
        exact ⟨n, rx, _, _, rfl, .inl ⟨rfl, rfl, rfl⟩⟩
      | receiver_gone =>
        cases run with | step _ run =>
        obtain ⟨rfl, same⟩ := run.of_ret
        cases same
        exact ⟨n, rx, _, _, rfl, .inr ⟨nofun, rfl, rfl⟩⟩
      | no_sender =>
        cases run with | step _ run =>
        obtain ⟨rfl, same⟩ := run.of_ret
        cases same
        exact ⟨n, rx, _, _, rfl, .inr ⟨nofun, rfl, rfl⟩⟩

theorem drain_pending_exec {l : List (Event ConnOp)} {value : ConnReturn}
    (run : Exec ConnTask.drain_pending.prog l (.ret value)) :
    ∃ txs, l = [⟨.store_disconnected, ()⟩, ⟨.pending_drain, txs⟩, ⟨.drop_senders txs, ()⟩,
      ⟨.outbound_take, ()⟩] := by
  cases run with | step _ run => cases run with | step txs run =>
  cases run with | step _ run => cases run with | step _ run =>
  obtain ⟨rfl, -⟩ := run.of_ret
  exact ⟨txs, rfl⟩

/-! ## The system -/

inductive DrainTid (ι : Type)
  | drain
  | call (i : ι)
  | writer
  deriving DecidableEq

variable {ι : Type} [DecidableEq ι]

def drainTasks (request : ι → String × Value) : DrainTid ι → ConnTask
  | .drain => .drain_pending
  | .call i => .dispatch_request (request i).1 (request i).2
  | .writer => .close_writer

/-- Requests sent through a fresh handle while it is drained. -/
def drainPool (request : ι → String × Value) :
    Pool (DrainTid ι) ConnOp ConnectionHandle ConnReturn :=
  connPool .new (drainTasks request)

variable {request : ι → String × Value} {q : Pool (DrainTid ι) ConnOp ConnectionHandle ConnReturn}
  {tr : List (PoolEvent (DrainTid ι) ConnOp)}

/-- The drain and all calls have returned. -/
def AllReturned (q : Pool (DrainTid ι) ConnOp ConnectionHandle ConnReturn) : Prop :=
  (∃ value, q.thread .drain = .ret value) ∧ ∀ i, ∃ value, q.thread (.call i) = .ret value

/-- No slot is left, and every receiver a call handed out was resolved or closed. -/
structure NoneWaiting (q : Pool (DrainTid ι) ConnOp ConnectionHandle ConnReturn) : Prop where
  table_empty : q.shared.pending_len = 0
  resolved : ∀ i id rx, q.thread (.call i) = .ret (.dispatched (.ok (id, rx))) →
    (q.shared.oneshots.cell rx).poll ≠ .pending

/-- Call `i` filled its slot after the table had been emptied, sent its message while the
outbound channel had both its ends, and nothing touched the slot afterwards. -/
def Stranded (tr : List (PoolEvent (DrainTid ι) ConnOp)) (i : ι) : Prop :=
  ∃ a b c id rx msg sent,
    tr = a ++ ⟨.call i, ⟨.pending_insert id rx, ()⟩⟩ ::
      (b ++ ⟨.call i, ⟨.outbound_send msg, sent⟩⟩ :: c) ∧
    (∃ txs, ⟨.drain, ⟨.pending_drain, txs⟩⟩ ∈ a) ∧
    (∀ ev ∈ a ++ b, ¬ ev.event.request.closes) ∧
    ∀ ev ∈ b ++ c, ¬ ev.event.request.touches id

/-- A returned call that filled a slot goes on to send, and removes the slot again unless
the message was accepted. -/
theorem dispatch_request_after_insert {method : String} {params : Value}
    {before after : List (Event ConnOp)} {id : Id} {rx : Nat} {value : ConnReturn}
    (run : Exec (ConnTask.dispatch_request method params).prog
      (before ++ ⟨.pending_insert id rx, ()⟩ :: after) (.ret value)) :
    (∃ msg, ⟨.outbound_send msg, .accepted⟩ ∈ after) ∨ ⟨.pending_remove id, ()⟩ ∈ after := by
  rcases dispatch_request_exec run with ⟨same, -⟩ | ⟨n, rx', sent, rest, same, how⟩
  · have member : (⟨.pending_insert id rx, ()⟩ : Event ConnOp) ∈ [⟨.load_state, .Disconnected⟩] :=
      same ▸ List.mem_append_right before (List.mem_cons_self ..)
    have leaves := congrArg (fun ev : Event ConnOp => ev.request.leaves) (List.mem_singleton.mp member)
    cases leaves
  · -- the fourth request is the only one that fills a slot
    have quiet : ∀ ev ∈ rest, ev.request.leaves = none := by
      rcases how with ⟨-, rfl, -⟩ | ⟨-, rfl, -⟩
      · exact fun _ member => absurd member List.not_mem_nil
      · exact fun _ member => List.mem_singleton.mp member ▸ rfl
    have regrouped : before ++ ⟨.pending_insert id rx, ()⟩ :: after =
        [⟨.load_state, .Active⟩, ⟨.fetch_add_id, n⟩, ⟨.oneshot_channel, rx'⟩] ++
          ⟨.pending_insert (mgr_id n) rx', ()⟩ ::
            ⟨.outbound_send (.request (mgr_id n) method params), sent⟩ :: rest := same
    obtain ⟨-, filled, rfl⟩ := Trace.split_unique (P := fun ev => ev.request.leaves ≠ none) regrouped
      nofun (by simp [ConnOp.leaves]) (fun ev member => by
        rcases List.mem_cons.mp member with rfl | member
        · exact not_not.mpr rfl
        · exact not_not.mpr (quiet ev member))
    cases filled
    rcases how with ⟨rfl, rfl, -⟩ | ⟨-, rfl, -⟩
    · exact .inl ⟨_, List.mem_cons_self ..⟩
    · exact .inr (List.mem_cons_of_mem _ (List.mem_cons_self ..))

/-! ## Every call is resolved, unless it is stranded -/

/-- A returned task holds no sender. -/
theorem ConnPhase.not_has_of_returns {g : ConnPhase} {value : ConnReturn} (returns : g.returns value)
    (tx : Nat) : ¬ g.has tx := by
  cases g with
  | sent | refused | completed | finished => exact id
  | _ => exact returns.elim

/-- Only calls fill slots. -/
theorem inserted_by_call {t : DrainTid ι} {id : Id} {tx : Nat}
    (run : Pool.Run connSemantics (drainPool request) tr q)
    (inserted : ⟨t, ⟨.pending_insert id tx, ()⟩⟩ ∈ tr) : ∃ i, t = .call i := by
  have quiet (only : ((drainPool request).thread t).Only fun op => op.leaves = none) : False :=
    absurd ((run.project t).only only _ (Pool.mem_project.mpr inserted)) nofun
  cases t with
  | call i => exact ⟨i, rfl⟩
  | drain =>
    exact (quiet ⟨rfl, fun _ => ⟨rfl, fun _ => ⟨rfl, fun _ => ⟨rfl, fun _ => trivial⟩⟩⟩⟩).elim
  | writer => exact (quiet ⟨rfl, fun _ => trivial⟩).elim

/-- An accepted message found both ends of the channel in place. -/
theorem open_when_accepted {a b : List (PoolEvent (DrainTid ι) ConnOp)} {t : DrainTid ι}
    {msg : WireMessage} (run : Pool.Run connSemantics (drainPool request)
      (a ++ ⟨t, ⟨.outbound_send msg, .accepted⟩⟩ :: b) q) :
    ∀ ev ∈ a, ¬ ev.event.request.closes := by
  obtain ⟨s, s', before, one, -⟩ := run.split
  cases one with
  | step rest answered =>
    exact (outbound_history before.replay ⟨rfl, rfl⟩).mp
      (ConnectionHandle.send_outbound_accepted.mp (congrArg Prod.fst answered))

/-- A slot that outlives the drain and the calls belongs to a stranded call. -/
theorem stranded_of_slot {id : Id} {tx : Nat} (run : Pool.Run connSemantics (drainPool request) tr q)
    (returned : AllReturned q) (left : q.shared.pending.get id = some tx) :
    ∃ i, Stranded tr i := by
  obtain ⟨t, a, b, whole, quiet⟩ := (slot_history run.replay (fun _ => HashMap.get_empty _) id tx).mp left
  have inserted : ⟨t, ⟨.pending_insert id tx, ()⟩⟩ ∈ tr :=
    whole ▸ List.mem_append_right a (List.mem_cons_self ..)
  obtain ⟨i, rfl⟩ := inserted_by_call run inserted
  obtain ⟨⟨value, drained⟩, dispatched⟩ := returned
  -- the drain emptied the table before the slot was filled
  have drain := run.project .drain
  rw [drained] at drain
  obtain ⟨txs, drain⟩ := drain_pending_exec drain
  have emptied : ⟨.drain, ⟨.pending_drain, txs⟩⟩ ∈ tr := by
    rw [← Pool.mem_project, drain]
    exact List.mem_cons_of_mem _ (List.mem_cons_self ..)
  have before : ⟨.drain, ⟨.pending_drain, txs⟩⟩ ∈ a := by
    rcases List.mem_append.mp (whole ▸ emptied) with early | late
    · exact early
    · rcases List.mem_cons.mp late with same | late
      · cases same
      · exact absurd trivial (quiet _ late)
  obtain ⟨value, done⟩ := dispatched i
  have own := run.project (.call i)
  rw [done, whole, Pool.project_append, Pool.project_cons_self] at own
  rcases dispatch_request_after_insert own with ⟨msg, sent⟩ | removed
  · obtain ⟨b₁, b₂, rfl⟩ := List.append_of_mem (Pool.mem_project.mp sent)
    refine ⟨i, a, b₁, b₂, id, tx, msg, .accepted, whole, ⟨txs, before⟩, fun ev member => ?_,
      fun ev member => ?_⟩
    · have regrouped : tr = (a ++ ⟨.call i, ⟨.pending_insert id tx, ()⟩⟩ :: b₁) ++
          ⟨.call i, ⟨.outbound_send msg, .accepted⟩⟩ :: b₂ := by
        rw [whole, List.append_assoc, List.cons_append]
      refine open_when_accepted (regrouped ▸ run) ev ?_
      rcases List.mem_append.mp member with early | late
      · exact List.mem_append_left _ early
      · exact List.mem_append_right _ (List.mem_cons_of_mem _ late)
    · refine quiet ev ?_
      rcases List.mem_append.mp member with early | late
      · exact List.mem_append_left _ early
      · exact List.mem_append_right _ (List.mem_cons_of_mem _ late)
  · exact absurd rfl (quiet _ (Pool.mem_project.mp removed))

/-- The slot of a stranded call is never emptied. -/
theorem Stranded.slot {i : ι} (run : Pool.Run connSemantics (drainPool request) tr q)
    (stranded : Stranded tr i) : ∃ id tx, q.shared.pending.get id = some tx := by
  obtain ⟨a, b, c, id, rx, msg, sent, whole, -, -, quiet⟩ := stranded
  refine ⟨id, rx, (slot_history run.replay (fun _ => HashMap.get_empty _) id rx).mpr
    ⟨.call i, a, _, whole, fun ev member => ?_⟩⟩
  rcases List.mem_append.mp member with early | late
  · exact quiet ev (List.mem_append_left _ early)
  · rcases List.mem_cons.mp late with rfl | late
    · exact fun touched => touched
    · exact quiet ev (List.mem_append_right _ late)

/-- What the tasks hold once they have returned: nothing. -/
theorem not_has_of_returned (run : Pool.Run connSemantics (drainPool request) tr q)
    (returned : AllReturned q) (t : DrainTid ι) (tx : Nat) :
    ¬ (Pool.phases connProtocol (fun t => .start (drainTasks request t)) tr t).has tx := by
  have follows := (senders_placed run).2
  cases t with
  | drain =>
    obtain ⟨value, done⟩ := returned.1
    exact ConnPhase.not_has_of_returns (Pool.Run.returned follows done) tx
  | call i =>
    obtain ⟨value, done⟩ := returned.2 i
    exact ConnPhase.not_has_of_returns (Pool.Run.returned follows done) tx
  | writer =>
    have own := run.project .writer
    rw [Pool.phases_eq_after]
    generalize Pool.project .writer tr = l, q.thread .writer = rest at own
    cases own with
    | refl => exact id
    | step _ own =>
      obtain ⟨rfl, -⟩ := own.of_ret
      exact id

/-- With no slot left, every receiver handed out was resolved or closed. -/
theorem resolved_of_table_empty (run : Pool.Run connSemantics (drainPool request) tr q)
    (returned : AllReturned q) (empty : q.shared.pending_len = 0) {i : ι} {id : Id} {rx : Nat}
    (handed : q.thread (.call i) = .ret (.dispatched (.ok (id, rx)))) :
    (q.shared.oneshots.cell rx).poll ≠ .pending := by
  have placed := (senders_placed run).1
  have own := run.project (.call i)
  rw [handed] at own
  have bound : rx < q.shared.oneshots.next := by
    rw [← List.mem_range, ← opened_history run.replay rfl]
    rcases dispatch_request_exec own with ⟨-, refused⟩ | ⟨n, rx', sent, rest, requests, how⟩
    · cases refused
    · rcases how with ⟨-, -, same⟩ | ⟨-, -, refused⟩
      · cases same
        refine List.mem_filterMap.mpr ⟨⟨.call i, ⟨.oneshot_channel, rx⟩⟩, ?_, rfl⟩
        rw [← Pool.mem_project, requests]
        simp only [List.mem_cons, true_or, or_true]
      · cases refused
  intro waiting
  have sender : (q.shared.oneshots.cell rx).sender = true := by
    unfold Oneshot.poll at waiting
    split at waiting
    · cases waiting
    · split at waiting
      · assumption
      · cases waiting
  obtain ⟨place, holds⟩ := placed.alive rx bound sender
  cases place with
  | thread t => exact not_has_of_returned run returned t rx holds
  | slot id' => cases (ConnectionHandle.pending_len_eq_zero.mp empty id').symm.trans holds

/-- **Draining against concurrent calls.**  Once the drain and all calls have returned, no
caller waits for a response that cannot come, exactly when no call is stranded: none has
filled its slot after the table was emptied and still had its message accepted. -/
theorem drain_leaves_none_waiting_iff (run : Pool.Run connSemantics (drainPool request) tr q)
    (returned : AllReturned q) : NoneWaiting q ↔ ∀ i, ¬ Stranded tr i := by
  constructor
  · intro none i stranded
    obtain ⟨id, tx, left⟩ := stranded.slot run
    cases (ConnectionHandle.pending_len_eq_zero.mp none.table_empty id).symm.trans left
  · intro none
    have empty : q.shared.pending_len = 0 := by
      rw [ConnectionHandle.pending_len_eq_zero]
      intro id
      cases left : q.shared.pending.get id with
      | none => rfl
      | some tx =>
        obtain ⟨i, stranded⟩ := stranded_of_slot run returned left
        exact absurd stranded (none i)
    exact ⟨empty, fun i id rx handed => resolved_of_table_empty run returned empty handed⟩

/-! ## Two schedules -/

/-- One call and the drain, played in the given order. -/
def drainRun (schedule : List (DrainTid Unit)) :
    List (PoolEvent (DrainTid Unit) ConnOp) × Pool (DrainTid Unit) ConnOp ConnectionHandle ConnReturn :=
  Pool.play (fun _ h _ op => some (op.apply h)) schedule (drainPool fun _ => (methods.TOOL_CALL, .null))

theorem drainRun_run (schedule : List (DrainTid Unit)) :
    Pool.Run connSemantics (drainPool fun _ => (methods.TOOL_CALL, .null))
      (drainRun schedule).1 (drainRun schedule).2 :=
  .play (fun _ _ _ _ _ _ given => Option.some.inj given) schedule _

/-- The call checks the state, the drain empties the table, the call fills its slot and
sends, and only then the drain takes the outbound sender. -/
def lateSend : List (DrainTid Unit) :=
  [.call (), .drain, .drain, .drain, .call (), .call (), .call (), .call (), .drain]

/-- The call sends first, and the drain finds its slot. -/
def earlySend : List (DrainTid Unit) :=
  [.call (), .call (), .call (), .call (), .call (), .drain, .drain, .drain, .drain]

/-- In the late order a slot outlives the drain, with its receiver waiting for ever. -/
theorem late_send_is_stranded :
    ∃ tr q, Pool.Run connSemantics (drainPool fun _ : Unit => (methods.TOOL_CALL, .null)) tr q ∧
      AllReturned q ∧ q.shared.pending_len = 1 ∧ ¬ NoneWaiting q := by
  refine ⟨_, _, drainRun_run lateSend, ⟨⟨_, rfl⟩, fun _ => ⟨_, rfl⟩⟩, by decide, fun none => ?_⟩
  exact absurd none.table_empty (by decide)

/-- In the early order the drain closes the receiver. -/
theorem early_send_is_resolved :
    NoneWaiting (drainRun earlySend).2 ↔ ∀ i, ¬ Stranded (drainRun earlySend).1 i :=
  drain_leaves_none_waiting_iff (drainRun_run earlySend) ⟨⟨_, rfl⟩, fun _ => ⟨_, rfl⟩⟩

end SessionManager
