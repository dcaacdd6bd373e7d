import SessionManager.Manager.Conversation
import SessionManager.Manager.Hidden
import SessionManager.Manager.Standing

/-!
# The idle sweeper

The sweeper picks its sessions from one snapshot and one look at each counter, and ends them one
after the other, each for up to the grace period (`sweep_once`).  Nothing is checked again before a
session is asked to shut down or is drained.  So a session is out of use then if no call came in
since the look and the time of its last call was not set since the snapshot
(`sweep_spares_used`).
-/

namespace SessionManager

open Json Effect

open Prog (perform)

variable {ι : Type}

/-! ## What the sweeper does -/

/-- Asks a client to shut down, or drains a dispatcher. -/
def ManagerOp.Strikes : ∀ {β : Type}, ManagerOp ι β → Prop
  | _, .conn _ (.outbound_send _) | _, .drain_dispatcher _ => True
  | _, _ => False

/-- Asks the client of this record to shut down, or drains its dispatcher. -/
def ManagerOp.Ends (record : SessionRecord) : ∀ {β : Type}, ManagerOp ι β → Prop
  | _, .conn c (.outbound_send (.request _ method _)) =>
      method = methods.SESSION_SHUTDOWN ∧ record.connection = some c
  | _, .drain_dispatcher d => d = record.dispatcher
  | _, _ => False

/-- Of the sweep's own requests: when it looked at the counter of a session it had found in its
snapshot, and when it took the record it ends. -/
structure Chosen (idle_timeout : Nat) (past : List (Event (ManagerOp ι))) (seen record : SessionRecord) :
    Prop where
  found : ∃ now records b c, past = ⟨.now, now⟩ :: ⟨.reg .snapshot, records⟩ ::
      (b ++ ⟨.load_inflight seen.dispatcher, 0⟩ :: c) ∧
    seen ∈ records ∧ seen.state = .Active ∧ idle_timeout ≤ now - seen.last_call_at ∧
    ⟨.reg (.get seen.session_id), some record⟩ ∈ c

/-- Whom a sweep strikes it has chosen. -/
def Warranted (idle_timeout : Nat) (past : List (Event (ManagerOp ι))) {β : Type}
    (op : ManagerOp ι β) : Prop :=
  op.Strikes → ∃ seen record, Chosen idle_timeout past seen record ∧ op.Ends record

section Sweep

variable {grace_ms idle_timeout : Nat}

/-- A shutdown strikes the record it has read. -/
theorem drain_session_ends (record : SessionRecord) :
    (drain_session grace_ms record : Prog (ManagerOp ι) _).Only fun op =>
      op.Strikes → op.Ends record := by
  have quiet {β : Type} {op : ManagerOp ι β} (none : ¬ op.Strikes) :
      op.Strikes → op.Ends record := fun strikes => absurd strikes none
  have drained (connection : Nat) : (ConnectionHandle.drain connection :
      Prog (ManagerOp ι) Unit).Only fun op => op.Strikes → op.Ends record :=
    Prog.only_lift.mpr ⟨quiet not_false, fun _ => ⟨quiet not_false, fun _ => ⟨quiet not_false,
      fun _ => ⟨quiet not_false, fun _ => trivial⟩⟩⟩⟩
  have sent {connection : Nat} (own : record.connection = some connection) (params : Value) :
      ((ConnectionHandle.dispatch_request methods.SESSION_SHUTDOWN params).lift
        (ManagerOp.conn connection) : Prog (ManagerOp ι) _).Only
          fun op => op.Strikes → op.Ends record := by
    refine Prog.only_lift.mpr ((dispatch_request_sends _ params).mono fun op only strikes => ?_)
    cases op with
    | outbound_send msg =>
      cases msg with
      | request id method params => exact ⟨only.1, own⟩
      | response | notification => exact only.elim
    | _ => exact strikes.elim
  unfold drain_session
  split
  · rename_i connection _ own
    have called (params : Value) (deadline : Nat) :
        (ConnectionHandle.call connection methods.SESSION_SHUTDOWN params deadline :
          Prog (ManagerOp ι) _).Only fun op => op.Strikes → op.Ends record := by
      unfold ConnectionHandle.call
      refine (sent own params).bind fun result => ?_
      cases result with
      | error error => trivial
      | ok sent =>
        obtain ⟨id, rx⟩ := sent
        refine ⟨quiet not_false, fun terminal => ?_⟩
        have settled : (ConnectionHandle.call_outcome connection id terminal :
            Prog (ManagerOp ι) _).Only fun op => op.Strikes → op.Ends record := by
          cases terminal with
          | response result => cases result <;> trivial
          | closed => trivial
          | deadline => exact ⟨quiet not_false, fun _ => trivial⟩
        exact settled.bind fun _ => ⟨quiet not_false, fun _ => trivial⟩
    have ended : (shutdown_connection grace_ms connection :
        Prog (ManagerOp ι) _).Only fun op => op.Strikes → op.Ends record := by
      refine ⟨quiet not_false, fun now => (called _ _).bind fun answer => ?_⟩
      exact (drained connection).bind fun _ => by cases answer <;> trivial
    exact ended.bind fun _ => ⟨fun _ => rfl, fun _ => trivial⟩
  · exact ⟨fun _ => rfl, fun _ => trivial⟩
  · refine ⟨fun _ => rfl, fun _ => Prog.Only.bind (p := ConnectionHandle.drain_if _) ?_
      fun _ => trivial⟩
    cases record.connection with
    | none => trivial
    | some connection => exact drained connection

/-- The sessions picked from the snapshot, and the looks at their counters. -/
theorem idle_candidates_warranted (now : Nat) (records : List SessionRecord)
    (past : List (Event (ManagerOp ι))) :
    (idle_candidates now idle_timeout records : Prog (ManagerOp ι) _).Guarded
      (Warranted idle_timeout)
      (fun past' ids => ∃ more, past' = past ++ more ∧ ∀ uid ∈ ids, ∃ seen ∈ records,
        seen.session_id = uid ∧ seen.state = .Active ∧ idle_timeout ≤ now - seen.last_call_at ∧
          ⟨.load_inflight seen.dispatcher, 0⟩ ∈ more) past := by
  induction records generalizing past with
  | nil => exact ⟨[], (List.append_nil past).symm, fun uid member => absurd member List.not_mem_nil⟩
  | cons record records ih =>
    have looked : (is_idle now idle_timeout record : Prog (ManagerOp ι) Bool).Guarded
        (Warranted idle_timeout)
        (fun past' idle => ∃ more, past' = past ++ more ∧ (idle = true → record.state = .Active ∧
          idle_timeout ≤ now - record.last_call_at ∧
            ⟨.load_inflight record.dispatcher, 0⟩ ∈ more)) past := by
      unfold is_idle
      cases state : record.state with
      | Disconnected => exact ⟨[], (List.append_nil past).symm, nofun⟩
      | Active =>
        refine ⟨fun strikes => strikes.elim, fun inflight => ⟨_, rfl, fun idle => ?_⟩⟩
        obtain ⟨none, old⟩ := Bool.and_eq_true_iff.mp idle
        cases eq_of_beq none
        exact ⟨rfl, of_decide_eq_true old, List.mem_singleton_self _⟩
    refine looked.bind fun past' idle found => ?_
    obtain ⟨more, rfl, idle_only⟩ := found
    refine (ih (past ++ more)).bind fun past'' ids found => ?_
    obtain ⟨rest, rfl, each⟩ := found
    refine ⟨more ++ rest, List.append_assoc .., fun uid member => ?_⟩
    have later (member : uid ∈ ids) : ∃ seen ∈ record :: records, seen.session_id = uid ∧
        seen.state = .Active ∧ idle_timeout ≤ now - seen.last_call_at ∧
          ⟨.load_inflight seen.dispatcher, 0⟩ ∈ more ++ rest := by
      obtain ⟨seen, listed, own, active, old, look⟩ := each uid member
      exact ⟨seen, List.mem_cons_of_mem _ listed, own, active, old, List.mem_append_right _ look⟩
    cases idle with
    | false => exact later member
    | true =>
      rcases List.mem_cons.mp member with rfl | member
      · obtain ⟨active, old, look⟩ := idle_only rfl
        exact ⟨record, List.mem_cons_self, rfl, active, old, List.mem_append_left _ look⟩
      · exact later member

theorem shutdown_sessions_warranted (grace_ms : Nat) {now : Nat}
    {records : List SessionRecord} (ids : List String)
    {looks : List (Event (ManagerOp ι))}
    (picked : ∀ uid ∈ ids, ∃ seen ∈ records, seen.session_id = uid ∧ seen.state = .Active ∧
      idle_timeout ≤ now - seen.last_call_at ∧ ⟨.load_inflight seen.dispatcher, 0⟩ ∈ looks)
    (done : List (Event (ManagerOp ι))) :
    (shutdown_sessions grace_ms ids : Prog (ManagerOp ι) Unit).Guarded
      (Warranted idle_timeout) (fun _ _ => True)
      (⟨.now, now⟩ :: ⟨.reg .snapshot, records⟩ :: (looks ++ done)) := by
  induction ids generalizing done with
  | nil => trivial
  | cons uid ids ih =>
    have rest (done : List (Event (ManagerOp ι))) :=
      ih (fun uid member => picked uid (List.mem_cons_of_mem _ member)) done
    have ended : (shutdown_session grace_ms uid : Prog (ManagerOp ι) _).Guarded
        (Warranted idle_timeout)
        (fun past' _ => ∃ more, past' = ⟨.now, now⟩ :: ⟨.reg .snapshot, records⟩ ::
          (looks ++ (done ++ more))) (⟨.now, now⟩ :: ⟨.reg .snapshot, records⟩ :: (looks ++ done)) := by
      unfold shutdown_session
      refine Prog.guarded_perform.mpr ⟨fun strikes => strikes.elim, fun found => ?_⟩
      cases found with
      | none =>
        refine ⟨[⟨.reg (.get uid), none⟩], ?_⟩
        simp only [List.cons_append, List.append_assoc]
      | some record =>
        have removed : (do
            let outcome ← drain_session grace_ms record
            let _ ← (SessionRegistry.remove_if_generation uid record.connection_generation).lift .reg
            return outcome : Prog (ManagerOp ι) KillOutcome).Only
              fun op => op.Strikes → op.Ends record :=
          (drain_session_ends record).bind fun _ =>
            (Prog.only_lift.mpr (.of_forall (fun _ strikes => strikes.elim) _)).bind fun _ => trivial
        refine (removed.guarded fun more β op ends strikes => ?_).mono fun past' _ grown => ?_
        · obtain ⟨seen, listed, own, active, old, look⟩ := picked uid List.mem_cons_self
          obtain ⟨b, c, rfl⟩ := List.append_of_mem look
          refine ⟨seen, record, ⟨now, records, b, c ++ (done ++ (⟨.reg (.get uid), some record⟩ ::
            more)), ?_, listed, active, old, ?_⟩, ends strikes⟩
          · simp only [List.cons_append, List.append_assoc, List.nil_append]
          · rw [own]
            exact List.mem_append_right _ (List.mem_append_right _ List.mem_cons_self)
        · obtain ⟨more, rfl⟩ := grown
          refine ⟨⟨.reg (.get uid), some record⟩ :: more, ?_⟩
          simp only [List.cons_append, List.append_assoc, List.nil_append]
    refine ended.bind fun past' _ grown => ?_
    obtain ⟨more, rfl⟩ := grown
    exact rest (done ++ more)

/-- **A sweep strikes only the sessions it has found idle.** -/
theorem sweep_once_warranted :
    (sweep_once grace_ms idle_timeout : Prog (ManagerOp ι) Unit).Guarded
      (Warranted idle_timeout) (fun _ _ => True) [] := by
  unfold sweep_once
  refine Prog.guarded_perform.mpr ⟨fun strikes => strikes.elim, fun now => ?_⟩
  refine Prog.guarded_perform.mpr ⟨fun strikes => strikes.elim, fun records => ?_⟩
  refine (idle_candidates_warranted now records _).bind fun past ids found => ?_
  obtain ⟨looks, rfl, picked⟩ := found
  have ended := shutdown_sessions_warranted grace_ms ids picked []
  rwa [List.append_nil] at ended

end Sweep

/-! ## What keeps a session in use -/

/-- A call enters the queue of the dispatcher, or gets its permit at once. -/
def ManagerOp.Enters (dispatcher : Nat) : ∀ {β : Type}, ManagerOp ι β → β → Prop
  | _, .disp d _ (.poll_admission _), poll =>
      d = dispatcher ∧ (poll = .queued ∨ poll = .ready (.acquired true))
  | _, _, _ => False

/-- Sets the time of the session's last call. -/
def ManagerOp.Touches (session_id : String) (time : Nat) : ∀ {β : Type}, ManagerOp ι β → β → Prop
  | _, .reg (.bump_last_call uid called_at), bumped =>
      uid = session_id ∧ called_at = time ∧ bumped = true
  | _, .reg (.register params registered_at _), .ok (.Created, _) =>
      params.client_uid = session_id ∧ registered_at = time
  | _, _, _ => False

/-- No call queues at the dispatcher, holds its permit or is counted, and the last call of the
session is long ago. -/
structure OutOfUse (w : ManagerWorld ι) (session_id : String) (dispatcher idle_timeout : Nat) :
    Prop where
  free : (w.dispatchers dispatcher).admission = .new 1
  uncounted : (w.dispatchers dispatcher).inflight = 0
  idle : ∀ record, w.registry.inner.get session_id = some record →
    idle_timeout ≤ w.now - record.last_call_at

/-- A call that queues or holds the permit. -/
def Stage.inside (stage : Stage) : Prop := stage = .queued ∨ stage.holds

/-- The permit is free exactly while every call is outside. -/
theorem Standing.free_iff {stage : ι → Stage} {w : DispatcherWorld ι} (held : Standing stage w) :
    w.dispatcher.admission = .new 1 ↔ ∀ j, ¬ (stage j).inside := by
  obtain ⟨permit, exclusive⟩ := held.exclusive
  constructor
  · intro free j inside
    have queue := exclusive.queue j
    have permits := exclusive.permits
    rw [free] at queue permits
    rcases inside with queued | holds
    · exact (queue.mpr queued).elim List.not_mem_nil List.not_mem_nil
    · rw [(exclusive.holder j).mp holds] at permits
      cases permits
  · intro outside
    have nobody (j : ι) : j ∉ w.dispatcher.admission.waiters ∧ j ∉ w.dispatcher.admission.granted :=
      not_or.mp fun waits => outside j (.inl ((exclusive.queue j).mp waits))
    have waiters := List.eq_nil_iff_forall_not_mem.mpr fun j => (nobody j).1
    have granted := List.eq_nil_iff_forall_not_mem.mpr fun j => (nobody j).2
    have permits : w.dispatcher.admission.permits = 1 := by
      rw [exclusive.permits]
      cases permit with
      | free => rfl
      | granted j =>
        have handed := exclusive.granted
        rw [granted] at handed
        cases handed
      | held j => exact absurd (.inr ((exclusive.holder j).mpr rfl)) (outside j)
    calc w.dispatcher.admission
        = ⟨w.dispatcher.admission.permits, w.dispatcher.admission.waiters,
            w.dispatcher.admission.granted⟩ := rfl
      _ = .new 1 := by rw [permits, waiters, granted, Semaphore.new]

theorem Standing.uncounted {stage : ι → Stage} {w : DispatcherWorld ι} (held : Standing stage w)
    (outside : ∀ j, ¬ (stage j).inside) : w.dispatcher.inflight = 0 := by
  rcases held.inflight with ⟨-, j, counted⟩ | ⟨zero, -⟩
  · exact absurd (.inr (holds_of_counted counted)) (outside j)
  · exact zero

/-- Only by entering does a call get inside. -/
theorem outside_of_step {β : Type} {op : ManagerOp ι β} {answer : β} {p : Spot} {d : Nat}
    (allowed : stageProtocol.allows p op) (stays : ¬ op.Enters d answer)
    (outside : ¬ (p.stage d).inside) : ¬ ((stageProtocol.next p op answer).stage d).inside := by
  by_cases calm : op.Calm
  · rwa [(allows_of_calm calm p).2 answer]
  cases op with
  | disp d' c op =>
    by_cases here : d' = d
    · subst here
      have inside {stage : Stage} (there : p = some (d', stage)) (active : stage.inside) : False := by
        rw [there, Spot.stage_self] at outside
        exact outside active
      have out : ¬ Stage.out.inside := fun active => active.elim nofun id
      cases op with
      | poll_admission =>
        cases answer with
        | ready admission =>
          cases admission with
          | acquired permit =>
            cases permit with
            | true => exact absurd ⟨rfl, .inr rfl⟩ stays
            | false => exact out
          | _ => exact out
        | queued => exact absurd ⟨rfl, .inl rfl⟩ stays
      | resume_admission => exact (inside allowed (.inl rfl)).elim
      | fetch_add_inflight => exact (inside allowed (.inr trivial)).elim
      | fetch_sub_inflight => exact (inside allowed (.inr trivial)).elim
      | release_permit =>
        rcases allowed with there | there <;> exact (inside there (.inr trivial)).elim
      | _ => exact absurd trivial calm
    · rw [(stage_elsewhere answer here calm allowed).2]
      exact fun active => active.elim nofun id
  | _ => exact absurd trivial calm

/-! ## Runs -/

/-- The sweep's look at a session: its snapshot with the record seen there, and its look at the
session's counter with the pool at that moment; later it took the record it ends. -/
structure SweepLook (ι : Type) where
  before : List (PoolEvent ι (ManagerOp ι))
  records : List SessionRecord
  since_snapshot : List (PoolEvent ι (ManagerOp ι))
  pool : Pool ι (ManagerOp ι) (ManagerWorld ι) ManagerReturn
  since_look : List (PoolEvent ι (ManagerOp ι))
  seen : SessionRecord
  record : SessionRecord

section Runs

variable [DecidableEq ι] {i : ι}

/-- The look was made by task `i`, in the run from `start` to `stop` with trace `tr`. -/
structure SweepLook.Made (look : SweepLook ι) (i : ι)
    (start stop : Pool ι (ManagerOp ι) (ManagerWorld ι) ManagerReturn)
    (tr : List (PoolEvent ι (ManagerOp ι))) : Prop where
  trace : tr = look.before ++ ⟨i, ⟨.reg .snapshot, look.records⟩⟩ :: (look.since_snapshot ++
    ⟨i, ⟨.load_inflight look.seen.dispatcher, 0⟩⟩ :: look.since_look)
  until_look : Pool.Run managerSemantics start
    (look.before ++ ⟨i, ⟨.reg .snapshot, look.records⟩⟩ :: look.since_snapshot) look.pool
  since_look : Pool.Run managerSemantics look.pool
    (⟨i, ⟨.load_inflight look.seen.dispatcher, 0⟩⟩ :: look.since_look) stop
  seen : look.seen ∈ look.records
  taken : ⟨i, ⟨.reg (.get look.seen.session_id), some look.record⟩⟩ ∈ look.since_look

/-- Since the look nothing brought the session back into use. -/
structure SweepLook.Undisturbed (look : SweepLook ι) (w : ManagerWorld ι) (idle_timeout : Nat) :
    Prop where
  free : (look.pool.shared.dispatchers look.record.dispatcher).admission = .new 1
  entered : ∀ ev ∈ look.since_look,
    ¬ ev.event.request.Enters look.record.dispatcher ev.event.answer
  touched : ∀ ev ∈ look.since_snapshot ++ look.since_look, ∀ time,
    ev.event.request.Touches look.seen.session_id time ev.event.answer →
      idle_timeout ≤ w.now - time

theorem now_le_of_run {p q : Pool ι (ManagerOp ι) (ManagerWorld ι) ManagerReturn}
    {tr : List (PoolEvent ι (ManagerOp ι))} (run : Pool.Run managerSemantics p tr q) :
    p.shared.now ≤ q.shared.now :=
  run.replay.history (I := fun w _ => p.shared.now ≤ w.now) (Nat.le_refl _)
    fun _ _ earlier answered => earlier.trans (now_le_of_step answered)

/-- The time of the last call is what it was, or was set since. -/
theorem last_call_since {p q : Pool ι (ManagerOp ι) (ManagerWorld ι) ManagerReturn}
    {tr : List (PoolEvent ι (ManagerOp ι))} (run : Pool.Run managerSemantics p tr q)
    {session_id : String} {time : Nat}
    (start : ∀ record, p.shared.registry.inner.get session_id = some record →
      record.last_call_at = time) :
    ∀ record, q.shared.registry.inner.get session_id = some record → record.last_call_at = time ∨
      ∃ ev ∈ tr, ev.event.request.Touches session_id record.last_call_at ev.event.answer := by
  refine run.replay.history (I := fun w past => ∀ record,
    w.registry.inner.get session_id = some record → record.last_call_at = time ∨
      ∃ ev ∈ past, ev.event.request.Touches session_id record.last_call_at ev.event.answer)
    (fun record found => .inl (start record found)) ?_
  intro w w' past j β op answer held answered record found
  have earlier (record : SessionRecord) (found : w.registry.inner.get session_id = some record) :
      record.last_call_at = time ∨ ∃ ev ∈ past ++ [⟨j, ⟨op, answer⟩⟩],
        ev.event.request.Touches session_id record.last_call_at ev.event.answer :=
    (held record found).imp id fun ⟨ev, member, touches⟩ =>
      ⟨ev, List.mem_append_left _ member, touches⟩
  obtain ⟨rop, rfl, ran⟩ | ⟨-, -, same⟩ := section_of_step answered
  · have changed := RegOp.changed (RegOp.run_of_apply ran) session_id
    rw [found] at changed
    generalize before : w.registry.inner.get session_id = old at changed
    have last := List.mem_append_right past (List.mem_singleton_self (⟨j, ⟨.reg rop, answer⟩⟩ :
      PoolEvent ι (ManagerOp ι)))
    cases changed with
    | kept => exact earlier record before
    | created own => exact .inr ⟨_, last, own, rfl⟩
    | touched => exact .inr ⟨_, last, rfl, rfl, rfl⟩
    | reconnected | disconnected | disconnected_if | retooled =>
      have here := earlier _ before
      exact here
  · rw [same] at found
    exact earlier record found

variable {settings : ManagerSettings} {tools_cache : Option ToolsCacheStore}
  {tasks : ι → ManagerTask ι} {tr : List (PoolEvent ι (ManagerOp ι))}
  {q : Pool ι (ManagerOp ι) (ManagerWorld ι) ManagerReturn}

/-- A dispatcher that was free stays free until a call enters. -/
theorem outside_since {look : Pool ι (ManagerOp ι) (ManagerWorld ι) ManagerReturn}
    {tr' : List (PoolEvent ι (ManagerOp ι))}
    (before : Pool.Run managerSemantics (managerPool settings tools_cache tasks) tr look)
    (since : Pool.Run managerSemantics look tr' q) {d : Nat}
    (free : (look.shared.dispatchers d).admission = .new 1)
    (stays : ∀ ev ∈ tr', ¬ ev.event.request.Enters d ev.event.answer) (j : ι) :
    ¬ ((spots (tr ++ tr') j).stage d).inside := by
  obtain ⟨standing, follows⟩ := standing_of_run before
  have later := (since.invariant (I := fun spot _ past => (∀ ev ∈ past, ¬ ev.event.request.Enters d ev.event.answer) →
      ∀ j, ¬ ((spot j).stage d).inside) follows (fun _ => (standing d).free_iff.mp free) ?_).1 stays j
  · rwa [spots, Pool.phases, List.foldl_append]
  intro spot w w' past i β op answer held allowed _ stays j
  have outside := held fun ev member => stays ev (List.mem_append_left _ member)
  by_cases same : j = i
  · subst same
    rw [Function.update_self]
    exact outside_of_step allowed
      (stays _ (List.mem_append_right past (List.mem_singleton_self _))) (outside j)
  · rw [Function.update_of_ne same]
    exact outside j

/-- Who reads the clock reads a time that has come. -/
theorem clock_of_run {p q : Pool ι (ManagerOp ι) (ManagerWorld ι) ManagerReturn}
    (run : Pool.Run managerSemantics p tr q) {now : Nat} (reads : ⟨i, ⟨.now, now⟩⟩ ∈ tr) :
    now ≤ q.shared.now := by
  obtain ⟨a, b, rfl⟩ := List.append_of_mem reads
  obtain ⟨s, s', -, one, after⟩ := run.split
  refine Nat.le_trans ?_ (now_le_of_run after)
  cases one with
  | step _ answered =>
    obtain applied | ⟨external, -⟩ := answered
    · cases applied
      exact Nat.le_refl _
    · exact external.elim

/-- A record of a snapshot is the one the registry has then. -/
theorem seen_of_snapshot {s s' : Pool ι (ManagerOp ι) (ManagerWorld ι) ManagerReturn}
    (run : Pool.Run managerSemantics (managerPool settings tools_cache tasks) tr s)
    {records : List SessionRecord} {seen : SessionRecord}
    (one : Pool.Step managerSemantics s ⟨i, ⟨.reg .snapshot, records⟩⟩ s') (listed : seen ∈ records) :
    ∀ record, s'.shared.registry.inner.get seen.session_id = some record →
      record.last_call_at = seen.last_call_at := by
  intro record found
  cases one with
  | step _ answered =>
    obtain ⟨rop, same, ran⟩ | ⟨-, outside, -⟩ := section_of_step answered
    · cases same
      have ran := RegOp.run_of_apply ran
      rw [RegOp.run, Prod.mk.injEq] at ran
      obtain ⟨rfl, same⟩ := ran
      rw [← same] at found
      obtain ⟨uid, here⟩ := HashMap.mem_values.mp listed
      rw [(reached_of_run run).keyed uid seen here, here] at found
      cases found
      rfl
    · exact absurd rfl (outside _)

/-- The sweep has made a look at what it is about to strike. -/
theorem look_of_strike
    (run : Pool.Run managerSemantics (managerPool settings tools_cache tasks) tr q)
    (sweeps : tasks i = .idle_sweep) {β : Type} {op : ManagerOp ι β}
    {k : β → Prog (ManagerOp ι) ManagerReturn} (next : q.thread i = .op op k)
    (strikes : op.Strikes) :
    ∃ look : SweepLook ι, look.Made i (managerPool settings tools_cache tasks) q tr ∧
      op.Ends look.record ∧ ∃ started, ⟨i, ⟨.now, started⟩⟩ ∈ look.before ∧
        settings.idle_timeout_secs * 1000 ≤ started - look.seen.last_call_at := by
  have guarded : ((tasks i).prog settings).Guarded
      (Warranted (settings.idle_timeout_secs * 1000)) (fun _ _ => True) [] := by
    rw [sweeps]
    exact sweep_once_warranted.bind fun _ _ _ => trivial
  have ran : Exec ((tasks i).prog settings) (Pool.project i tr) (.op op k) := next ▸ run.project i
  obtain ⟨seen, record, ⟨started, records, b, c, same, listed, -, old, taken⟩, ends⟩ :=
    guarded.exec ran strikes
  obtain ⟨before, rest, rfl, first, others⟩ := Pool.project_split (a := [_]) same
  obtain ⟨since_snapshot, since_look, rfl, -, rfl⟩ := Pool.project_split others
  rw [List.append_cons, ← List.append_assoc, List.append_assoc before] at run
  obtain ⟨pool, _, looked, one, after⟩ := run.split
  refine ⟨⟨before, records, since_snapshot, pool, since_look, seen, record⟩, ⟨rfl, looked,
    (Pool.Run.snoc (.nil pool) one).append after, listed, Pool.mem_project.mp taken⟩, ends, started,
    Pool.mem_project.mp ?_, old⟩
  rw [first]
  exact List.mem_singleton_self _

/-- **Whom the idle sweeper ends.**  When it asks a client to shut down or drains a dispatcher, the
session is out of use, if nothing has brought it back into use since the sweeper looked at it. -/
theorem sweep_spares_used
    (run : Pool.Run managerSemantics (managerPool settings tools_cache tasks) tr q)
    (sweeps : tasks i = .idle_sweep) {β : Type} {op : ManagerOp ι β}
    {k : β → Prog (ManagerOp ι) ManagerReturn} (next : q.thread i = .op op k)
    (strikes : op.Strikes) :
    ∃ look : SweepLook ι, look.Made i (managerPool settings tools_cache tasks) q tr ∧
      op.Ends look.record ∧
      (look.Undisturbed q.shared (settings.idle_timeout_secs * 1000) →
        OutOfUse q.shared look.seen.session_id look.record.dispatcher
          (settings.idle_timeout_secs * 1000)) := by
  obtain ⟨look, made, ends, started, now, old⟩ := look_of_strike run sweeps next strikes
  refine ⟨look, made, ends, fun undisturbed => ?_⟩
  have sweeper : tr = (look.before ++ ⟨i, ⟨.reg .snapshot, look.records⟩⟩ :: look.since_snapshot) ++
      (⟨i, ⟨.load_inflight look.seen.dispatcher, 0⟩⟩ :: look.since_look) := by
    rw [made.trace, List.append_assoc, List.cons_append]
  have outside : ∀ j, ¬ ((spots tr j).stage look.record.dispatcher).inside := by
    rw [sweeper]
    refine outside_since made.until_look made.since_look undisturbed.free fun ev member => ?_
    rcases List.mem_cons.mp member with rfl | member
    · exact not_false
    · exact undisturbed.entered ev member
  have standing := (standing_of_run run).1 look.record.dispatcher
  refine ⟨standing.free_iff.mpr outside, standing.uncounted outside, fun record found => ?_⟩
  have split := run
  rw [made.trace] at split
  obtain ⟨s, s', first, snapshot, later⟩ := split.split
  rcases last_call_since later (seen_of_snapshot first snapshot made.seen) record found with
    kept | ⟨ev, member, touches⟩
  · rw [kept]
    have clock := (clock_of_run first now).trans ((now_le_of_run (.snoc (.nil s) snapshot)).trans
      (now_le_of_run later))
    omega
  · refine undisturbed.touched ev ?_ record.last_call_at touches
    rcases List.mem_append.mp member with member | member
    · exact List.mem_append_left _ member
    · rcases List.mem_cons.mp member with rfl | member
      · exact touches.elim
      · exact List.mem_append_right _ member

end Runs

/-! ### A call that comes in during a sweep -/

inductive Actor
  | client
  | agent
  | sweeper
  | clock (n : Nat)
  deriving DecidableEq

namespace Actor

def settings : ManagerSettings :=
  { gated_settings { enabled := false, internal_tools := [] } with idle_timeout_secs := 1 }

def tool : ToolDescriptor where
  name := "feed"
  description := none
  input_schema := .object []
  visibility := .Public

/-- A client with one tool, an agent that calls it, the sweeper, and time. -/
def task : Actor → ManagerTask Actor
  | .client => .socket [registers "s" [tool]]
  | .agent =>
    .agent_call { mcp_session_id := none, client_name := none, client_version := none }
      { name := "feed", arguments := none }
  | .sweeper => .idle_sweep
  | .clock _ => .tick

/-- The pool after the first `n` ticks. -/
def ticked (p : Pool Actor (ManagerOp Actor) (ManagerWorld Actor) ManagerReturn) (n : Nat) :
    Pool Actor (ManagerOp Actor) (ManagerWorld Actor) ManagerReturn where
  shared := { p.shared with now := p.shared.now + n }
  thread
    | .clock k => if k < n then .ret .done else p.thread (.clock k)
    | actor => p.thread actor

theorem run_ticked {p : Pool Actor (ManagerOp Actor) (ManagerWorld Actor) ManagerReturn}
    (ticks : ∀ k, p.thread (.clock k) = ManagerTask.prog settings .tick) (n : Nat) :
    Pool.Run managerSemantics p ((List.range n).map fun k => ⟨.clock k, ⟨.tick, ()⟩⟩) (ticked p n) := by
  induction n with
  | zero =>
    have same : ticked p 0 = p := by
      obtain ⟨shared, thread⟩ := p
      refine congrArg (Pool.mk shared) (funext fun actor => ?_)
      cases actor <;> rfl
    rw [same]
    exact .nil p
  | succ n ih =>
    have here : (ticked p n).thread (.clock n) = .op .tick fun _ => .ret .done :=
      (if_neg (Nat.lt_irrefl n)).trans (ticks n)
    have one : Pool.Step managerSemantics (ticked p n) ⟨.clock n, ⟨.tick, ()⟩⟩
        ⟨{ p.shared with now := p.shared.now + n + 1 },
          Function.update (ticked p n).thread (.clock n) (.ret .done)⟩ :=
      .step here (.inl rfl)
    have same : ticked p (n + 1) = ⟨{ p.shared with now := p.shared.now + n + 1 },
        Function.update (ticked p n).thread (.clock n) (.ret .done)⟩ := by
      refine congrArg (Pool.mk _) (funext fun actor => ?_)
      rw [Function.update_apply]
      cases actor with
      | clock k =>
        simp only [ticked, Actor.clock.injEq]
        by_cases last : k = n
        · rw [if_pos last, if_pos (by omega)]
        · rw [if_neg last]
          by_cases earlier : k < n
          · rw [if_pos earlier, if_pos (by omega)]
          · rw [if_neg earlier, if_neg (by omega)]
      | _ => rfl
    rw [List.range_succ, List.map_append, same]
    exact .snoc ih one

/-- The client registers, and a second passes. -/
def waiting := ticked (ManagerPool.play .unreachable (List.replicate 7 .client)
  (managerPool settings none task)).2 1000

theorem run_waiting : ∃ tr, Pool.Run managerSemantics (managerPool settings none task) tr waiting :=
  ⟨_, (ManagerPool.run_play ..).append (run_ticked (fun _ => rfl) 1000)⟩

/-- The sweeper has looked at the counter, the agent's call goes out, and then the sweeper is about
to ask the client to shut down. -/
def busy := ManagerPool.play .unreachable
  (List.replicate 3 .sweeper ++ List.replicate 14 .agent ++ List.replicate 6 .sweeper) waiting

/-- The same without the call. -/
def lonely := ManagerPool.play .unreachable (List.replicate 9 .sweeper) waiting

end Actor

open Actor

set_option maxRecDepth 4000 in
/-- A session is asked to shut down while a call that came in just now is running. -/
theorem sweeper_ends_busy_session :
    (∃ tr, Pool.Run managerSemantics (managerPool settings none task) tr busy.2) ∧
      (∃ id params k, busy.2.thread .sweeper =
        .op (.conn 0 (.outbound_send (.request id methods.SESSION_SHUTDOWN params))) k) ∧
      (∃ record, busy.2.shared.registry.inner.get "s" = some record ∧ record.dispatcher = 0 ∧
        record.connection = some 0 ∧ record.last_call_at = busy.2.shared.now) ∧
      (busy.2.shared.dispatchers 0).inflight = 1 ∧
      ¬ OutOfUse busy.2.shared "s" 0 (settings.idle_timeout_secs * 1000) := by
  obtain ⟨tr, run⟩ := run_waiting
  refine ⟨⟨_, run.append (ManagerPool.run_play ..)⟩, ⟨_, _, _, rfl⟩, ⟨_, rfl, rfl, rfl, rfl⟩, rfl, ?_⟩
  intro unused
  exact absurd unused.uncounted (by decide : (1 : Nat) ≠ 0)

set_option maxRecDepth 4000 in
theorem sweep_spares_used_lonely :
    ∃ tr, ∃ look : SweepLook Actor, look.Made .sweeper (managerPool settings none task) lonely.2 tr ∧
      look.record.connection = some 0 ∧
      (look.Undisturbed lonely.2.shared 1000 →
        OutOfUse lonely.2.shared look.seen.session_id look.record.dispatcher 1000) := by
  obtain ⟨tr, run⟩ := run_waiting
  have next : ∃ id params k, lonely.2.thread .sweeper =
      .op (.conn 0 (.outbound_send (.request id methods.SESSION_SHUTDOWN params))) k :=
    ⟨_, _, _, rfl⟩
  obtain ⟨id, params, k, next⟩ := next
  obtain ⟨look, made, ends, spares⟩ :=
    sweep_spares_used (run.append (ManagerPool.run_play ..)) rfl next trivial
  exact ⟨_, look, made, ends.2, spares⟩

end SessionManager
