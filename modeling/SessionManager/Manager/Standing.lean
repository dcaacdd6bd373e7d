import SessionManager.Dispatcher.Admission
import SessionManager.Manager.Kinds

/-!
# The dispatchers of a manager

A task is at most at one dispatcher at a time, and goes through the stages of a call there
(`stageProtocol`).  So in every run the semaphore and the counter of each dispatcher agree with the
stages of the tasks (`standing_of_run`), as they do for a dispatcher alone.
-/

namespace SessionManager

open Json Effect

open Prog (perform)

variable {ι : Type}

/-- Where a task is: at a stage of a call to some dispatcher, or nowhere. -/
abbrev Spot := Option (Nat × Stage)

/-- The stage of a task at this dispatcher. -/
def Spot.stage (dispatcher : Nat) : Spot → Stage
  | some (d, stage) => if d = dispatcher then stage else .out
  | none => .out

/-- The stages of a call.  Requests that concern neither permits nor counters are left open. -/
def stageProtocol : Protocol (ManagerOp ι) Spot where
  allows place _ op :=
    match op with
    | .disp _ _ (.poll_admission _) => place = none
    | .disp d _ (.resume_admission _) => place = some (d, .queued)
    | .disp d _ .fetch_add_inflight => place = some (d, .held)
    | .disp d _ .fetch_sub_inflight => place = some (d, .counted)
    | .disp d _ .release_permit => place = some (d, .held) ∨ place = some (d, .closing)
    | _ => True
  next place _ op answer :=
    match op, answer with
    | .disp d _ (.poll_admission _), .ready (.acquired true) => some (d, .held)
    | .disp d _ (.poll_admission _), .queued => some (d, .queued)
    | .disp d _ (.resume_admission _), .acquired true => some (d, .held)
    | .disp d _ .fetch_add_inflight, _ => some (d, .counted)
    | .disp d _ .fetch_sub_inflight, _ => some (d, .closing)
    | .disp _ _ (.poll_admission _), _ => none
    | .disp _ _ (.resume_admission _), _ => none
    | .disp _ _ .release_permit, _ => none
    | _, _ => place

/-- Concerns neither permits nor counters of dispatchers. -/
def ManagerOp.Calm : ∀ {β : Type}, ManagerOp ι β → Prop
  | _, .disp _ _ op => op.calm
  | _, _ => True

theorem allows_of_calm {β : Type} {op : ManagerOp ι β} (calm : op.Calm) (place : Spot) :
    stageProtocol.allows place op ∧ ∀ answer, stageProtocol.next place op answer = place := by
  cases op with
  | disp d c op =>
    cases op with
    | poll_admission | resume_admission | fetch_add_inflight | fetch_sub_inflight
    | release_permit => exact calm.elim
    | _ => exact ⟨trivial, fun _ => rfl⟩
  | _ => exact ⟨trivial, fun _ => rfl⟩

theorem follows_of_calm {α : Type} {p : Prog (ManagerOp ι) α} (calm : p.Only ManagerOp.Calm)
    (place : Spot) : stageProtocol.Follows (fun place' _ => place' = place) place p :=
  .of_only (calm.mono fun _ calm => allows_of_calm calm place)

/-! ## What the tasks do -/

section Calls

variable {d c : Nat}

/-- A dispatcher's part of a call. -/
abbrev dispatched (d c : Nat) : Protocol (DispOp ι) Spot := stageProtocol.comap (.disp d c)

theorem dispatched_of_calm {α : Type} {p : Prog (DispOp ι) α} (calm : p.Only DispOp.calm)
    (place : Spot) : (dispatched d c).Follows (fun place' _ => place' = place) place p :=
  .of_only (calm.mono fun op calm =>
    have silent : (ManagerOp.disp d c op : ManagerOp ι _).Calm := calm
    allows_of_calm silent place)

theorem conn_calm {α : Type} (p : Prog ConnOp α) :
    (p.lift DispOp.conn : Prog (DispOp ι) α).Only DispOp.calm :=
  Prog.only_lift.mpr (.of_forall (fun _ => trivial) p)

theorem run_tool_call_calm (params : ToolCallParams) (deadline : Option Nat) :
    (run_tool_call params deadline : Prog (DispOp ι) _).Only DispOp.calm := by
  have ended (id : Id) (terminal : Terminal) :
      (on_terminal id terminal : Prog (DispOp ι) _).Only DispOp.calm := by
    cases terminal with
    | response result => cases result <;> trivial
    | closed => trivial
    | deadline => exact (conn_calm _).bind fun _ => trivial
  have cancelled (id : Id) : (send_tool_cancel id : Prog (DispOp ι) _).Only DispOp.calm := by
    refine (conn_calm _).bind fun result => ?_
    cases result with
    | ok sent => exact ⟨trivial, fun _ => trivial⟩
    | error error => trivial
  have awaited (id : Id) (rx : Nat) :
      (await_terminal id rx deadline : Prog (DispOp ι) _).Only DispOp.calm := by
    refine ⟨trivial, fun wake => ?_⟩
    cases wake with
    | terminal terminal => exact ended id terminal
    | cancelled => exact (cancelled id).bind fun _ => ⟨trivial, fun terminal => ended id terminal⟩
  refine (conn_calm _).bind fun result => ?_
  cases result with
  | ok sent => exact (awaited _ _).bind fun _ => ⟨trivial, fun _ => trivial⟩
  | error error => trivial

theorem acquire_dispatched (deadline : Option Nat) :
    (dispatched d c).Follows (fun place (admission : Admission) =>
        place = if admission = .acquired true then some (d, .held) else none)
      none (acquire deadline : Prog (DispOp ι) _) := by
  refine Protocol.follows_perform.mpr ⟨rfl, fun poll => ?_⟩
  cases poll with
  | ready admission =>
    cases admission with
    | acquired permit => cases permit <;> rfl
    | _ => rfl
  | queued =>
    refine ⟨rfl, fun admission => ?_⟩
    cases admission with
    | acquired permit => cases permit <;> rfl
    | _ => rfl

theorem enqueue_admitted_dispatched (params : ToolCallParams) (deadline : Option Nat) :
    (dispatched d c).Follows (fun place _ => place = some (d, .held) ∨ place = some (d, .closing))
      (some (d, .held)) (enqueue_admitted params deadline : Prog (DispOp ι) _) := by
  refine Protocol.follows_perform.mpr ⟨trivial, fun state => ?_⟩
  cases state with
  | Drained => exact .inl rfl
  | Open =>
    refine Protocol.follows_perform.mpr ⟨rfl, fun _ => ?_⟩
    refine (dispatched_of_calm (run_tool_call_calm params deadline) _).bind ?_
    intro place result same
    exact ⟨same, fun _ => .inr rfl⟩

/-- A call ends where it began. -/
theorem enqueue_dispatched (params : ToolCallParams) (deadline : Option Nat) :
    stageProtocol.Follows (fun place _ => place = none) none
      ((SessionDispatcher.enqueue params deadline).lift (.disp d c) : Prog (ManagerOp ι) _) := by
  refine Protocol.follows_lift.mpr ?_
  refine Protocol.follows_perform.mpr ⟨trivial, fun state => ?_⟩
  cases state with
  | Drained => rfl
  | Open =>
    refine (acquire_dispatched deadline).bind fun place admission same => ?_
    subst same
    cases admission with
    | acquired permit =>
      cases permit with
      | false => rfl
      | true =>
        refine (enqueue_admitted_dispatched params deadline).bind fun place result held => ?_
        exact ⟨held, fun _ => rfl⟩
    | _ => rfl

end Calls

theorem agent_call_dispatched (crates : Crates) (gate : MaskingGate) (caller : CallerInfo)
    (request : CallToolRequestParams) :
    stageProtocol.Follows (fun _ _ => True) none
      ((call_proxy_tool_inner crates gate caller request).subst ProxyOp.program :
        Prog (ManagerOp ι) _) := by
  let anything : Protocol ProxyOp Unit := ⟨fun _ _ _ => True, fun _ _ _ _ => ()⟩
  have follows : anything.Follows (fun _ _ => True) ()
      (call_proxy_tool_inner crates gate caller request) :=
    .of_admitted (.of_forall (fun _ _ => trivial) _) ()
  refine (Protocol.Follows.subst (fun _ => none) ?_ follows).mono fun _ _ _ => trivial
  intro _ β op _
  cases op with
  | reg | mask | now => exact ⟨trivial, fun _ => rfl⟩
  | enqueue dispatcher connection params deadline => exact enqueue_dispatched params deadline

theorem internal_call_dispatched (decode : List UInt8 → Option InternalCallRequest)
    (context : InternalEndpointContext) (request : HttpRequest) :
    stageProtocol.Follows (fun _ _ => True) none
      (InternalEndpoint.handle_request decode context request : Prog (ManagerOp ι) _) := by
  have dispatches (target : SessionRecord) (tool_name : String) (arguments : Value) (timeout : Nat) :
      stageProtocol.Follows (fun _ _ => True) none
        (dispatch_internal_tool target tool_name arguments timeout : Prog (ManagerOp ι) _) := by
    unfold dispatch_internal_tool
    cases target.connection with
    | none => trivial
    | some connection =>
      refine Protocol.follows_perform.mpr ⟨trivial, fun now => ?_⟩
      refine (enqueue_dispatched _ _).bind fun place result _ => ?_
      cases result <;> trivial
  have answers (call : InternalCallRequest) : stageProtocol.Follows (fun _ _ => True) none
      (InternalEndpoint.answer_call context call : Prog (ManagerOp ι) _) := by
    unfold InternalEndpoint.answer_call
    refine Protocol.follows_perform.mpr ⟨trivial, fun snapshot => ?_⟩
    cases resolve_internal_target snapshot call with
    | error error => cases error <;> trivial
    | ok target =>
      exact (dispatches target _ _ _).bind fun place result _ => by cases result <;> trivial
  unfold InternalEndpoint.handle_request
  repeat' split
  all_goals first | trivial | exact answers _

theorem calm_of_serves {β : Type} {op : ManagerOp ι β} (serves : op.Serves) : op.Calm := by
  cases op with
  | disp => exact serves.elim
  | _ => trivial

theorem calm_of_tends {β : Type} {op : ManagerOp ι β} (tends : op.Tends) : op.Calm := by
  cases op with
  | disp => exact tends.elim
  | _ => trivial

/-- **Every task goes through the stages of its calls one call at a time.** -/
theorem ManagerTask.dispatched (settings : ManagerSettings) (task : ManagerTask ι) :
    stageProtocol.Follows (fun _ _ => True) none (task.prog settings) := by
  have calm {p : Prog (ManagerOp ι) ManagerReturn} (only : p.Only ManagerOp.Calm) :
      stageProtocol.Follows (fun _ _ => True) none p :=
    (follows_of_calm only none).mono fun _ _ _ => trivial
  cases task with
  | agent_call caller request =>
    exact (agent_call_dispatched settings.crates settings.gate caller request).bind
      fun _ _ _ => trivial
  | internal_call authorized request =>
    exact (internal_call_dispatched settings.internal_call _ request).bind fun _ _ _ => trivial
  | socket frames =>
    exact calm (((handle_socket_serves frames).mono fun _ => calm_of_serves).bind fun _ => trivial)
  | list_tools => exact calm (((reg_tends _).mono fun _ => calm_of_tends).bind fun _ => trivial)
  | list_sessions =>
    exact calm ((list_sessions_tends.mono fun _ => calm_of_tends).bind fun _ => trivial)
  | shutdown session_id =>
    exact calm (((shutdown_session_tends _ session_id).mono fun _ => calm_of_tends).bind
      fun _ => trivial)
  | idle_sweep =>
    exact calm (((sweep_once_tends _ _).mono fun _ => calm_of_tends).bind fun _ => trivial)
  | grace_sweep =>
    exact calm ⟨trivial, fun _ => ((reg_tends _).mono fun _ => calm_of_tends).bind fun _ => trivial⟩
  | close_writer | cancel | tick => exact calm ⟨trivial, fun _ => trivial⟩

/-! ## Runs -/

section Runs

variable [DecidableEq ι] {i : ι} {w w' : ManagerWorld ι} {place : ι → Spot} {β : Type}

theorem Spot.stage_update (place : ι → Spot) (i : ι) (p : Spot) (dispatcher : Nat) :
    (fun j => (Function.update place i p j).stage dispatcher) =
      Function.update (fun j => (place j).stage dispatcher) i (p.stage dispatcher) :=
  funext fun j => by
    simp only [Function.update_apply]
    split <;> rfl

theorem Spot.stage_self (dispatcher : Nat) (stage : Stage) :
    Spot.stage dispatcher (some (dispatcher, stage)) = stage := if_pos rfl

theorem Spot.stage_other {dispatcher d : Nat} (other : d ≠ dispatcher) (stage : Stage) :
    Spot.stage dispatcher (some (d, stage)) = .out := if_neg other

/-- A calm step leaves the permits and counters of all dispatchers. -/
theorem dispatchers_of_calm {op : ManagerOp ι β} {answer : β} (calm : op.Calm)
    (answered : managerSemantics i w op answer w') (d : Nat) :
    (w'.dispatchers d).admission = (w.dispatchers d).admission ∧
      (w'.dispatchers d).inflight = (w.dispatchers d).inflight := by
  obtain applied | ⟨external, rfl⟩ := answered
  · cases op with
    | disp d' c op =>
      simp only [ManagerOp.apply, Option.map_eq_some_iff] at applied
      obtain ⟨⟨b, v⟩, ran, merged⟩ := applied
      cases merged
      have same := DispOp.apply_of_calm calm ran
      simp only [ManagerWorld.merge, ManagerWorld.set_connection, ManagerWorld.set_dispatcher,
        Function.update_apply]
      split
      · rename_i here
        rw [here]
        exact same
      · exact ⟨rfl, rfl⟩
    | drain_dispatcher d' =>
      cases applied
      simp only [ManagerWorld.set_dispatcher, Function.update_apply]
      split
      · rename_i here
        rw [here]
        exact ⟨rfl, rfl⟩
      · exact ⟨rfl, rfl⟩
    | reg | timeout_at =>
      simp only [ManagerOp.apply, Option.map_eq_some_iff] at applied
      obtain ⟨_, -, same⟩ := applied
      cases same
      exact ⟨rfl, rfl⟩
    | mask | resolve => cases applied
    | _ =>
      cases applied
      exact ⟨rfl, rfl⟩
  · exact ⟨rfl, rfl⟩

def StandingAt (place : ι → Spot) (w : ManagerWorld ι) : Prop :=
  ∀ d, Standing (fun j => (place j).stage d) (w.view d 0)

omit [DecidableEq ι] in
/-- Who asks a dispatcher for a permit, or gives one back, is at no other dispatcher. -/
theorem stage_elsewhere {op : DispOp ι β} (answer : β) {p : Spot} {d d' c : Nat} (other : d' ≠ d)
    (tense : ¬ op.calm) (allowed : stageProtocol.allows p (.disp d' c op)) :
    p.stage d = .out ∧ (stageProtocol.next p (.disp d' c op) answer).stage d = .out := by
  have out (stage : Stage) := Spot.stage_other other stage
  cases op with
  | poll_admission =>
    cases allowed
    refine ⟨rfl, ?_⟩
    cases answer with
    | ready admission =>
      cases admission with
      | acquired permit =>
        cases permit with
        | true => exact out _
        | false => rfl
      | _ => rfl
    | queued => exact out _
  | resume_admission =>
    cases allowed
    refine ⟨out _, ?_⟩
    cases answer with
    | acquired permit =>
      cases permit with
      | true => exact out _
      | false => rfl
    | _ => rfl
  | fetch_add_inflight | fetch_sub_inflight =>
    cases allowed
    exact ⟨out _, out _⟩
  | release_permit =>
    rcases allowed with rfl | rfl <;> exact ⟨out _, rfl⟩
  | _ => exact absurd trivial tense

/-- A request for the permit or the counter, at its dispatcher. -/
theorem standing_of_request {op : DispOp ι β} {answer : β} {d c : Nat} {v v' : DispatcherWorld ι}
    (held : Standing (fun j => (place j).stage d) v) (tense : ¬ op.calm)
    (allowed : stageProtocol.allows (place i) (.disp d c op))
    (answered : op.apply i v = some (answer, v')) :
    Standing (Function.update (fun j => (place j).stage d) i
      ((stageProtocol.next (place i) (.disp d c op) answer).stage d)) v' := by
  have at_place {stage : Stage} (here : place i = some (d, stage)) : (place i).stage d = stage := by
    rw [here, Spot.stage_self]
  have arrives {p : Spot} {stage : Stage} {v' : DispatcherWorld ι} (there : p = some (d, stage))
      (after : Standing (Function.update (fun j => (place j).stage d) i stage) v') :
      Standing (Function.update (fun j => (place j).stage d) i (p.stage d)) v' := by
    rwa [there, Spot.stage_self]
  cases op with
  | poll_admission deadline =>
    have here : place i = none := allowed
    have out : (place i).stage d = .out := by rw [here]; rfl
    simp only [DispOp.apply] at answered
    split at answered
    · cases answered
      exact held.stay out.symm
    split at answered
    · cases answered
      exact held.stay out.symm
    cases polled : (v.dispatcher.admission.enqueue i).1 with
    | true =>
      rw [polled] at answered
      cases answered
      exact arrives rfl (held.poll_ok out polled)
    | false =>
      rw [polled] at answered
      cases answered
      exact arrives rfl (held.poll_queued out polled)
  | resume_admission deadline =>
    have waits := at_place allowed
    simp only [DispOp.apply] at answered
    split at answered
    · cases answered
      exact held.abandon waits
    split at answered
    · cases answered
      exact held.abandon waits
    split at answered
    · rename_i granted
      cases answered
      exact arrives rfl (held.resume waits granted)
    · cases answered
  | fetch_add_inflight =>
    cases answered
    exact arrives rfl (held.count (at_place allowed))
  | fetch_sub_inflight =>
    cases answered
    exact arrives rfl (held.uncount (at_place allowed))
  | release_permit =>
    cases answered
    have released {stage : Stage} (here : (place i).stage d = stage) (holds : stage.holds)
        (uncounted : stage ≠ .counted) :
        Standing (Function.update (fun j => (place j).stage d) i .out)
          (v.set_admission v.dispatcher.admission.release) :=
      held.release (here ▸ holds) (here ▸ uncounted) id (by decide)
    rcases allowed with here | here
    · exact released (at_place here) trivial (by decide)
    · exact released (at_place here) trivial (by decide)
  | _ => exact absurd trivial tense

theorem StandingAt.step {op : ManagerOp ι β} {answer : β} (held : StandingAt place w)
    (allowed : stageProtocol.allows (place i) op) (answered : managerSemantics i w op answer w') :
    StandingAt (Function.update place i (stageProtocol.next (place i) op answer)) w' := by
  intro d
  rw [Spot.stage_update]
  by_cases calm : op.Calm
  · obtain ⟨admission, inflight⟩ := dispatchers_of_calm calm answered d
    refine ((held d).of_same admission inflight).stay ?_
    rw [(allows_of_calm calm (place i)).2 answer]
  cases op with
  | disp d' c op =>
    obtain applied | ⟨external, -⟩ := answered
    · simp only [ManagerOp.apply, Option.map_eq_some_iff] at applied
      obtain ⟨⟨b, v⟩, ran, merged⟩ := applied
      cases merged
      by_cases here : d' = d
      · subst here
        have after := standing_of_request (v := w.view d' c) ((held d').of_same rfl rfl) calm
          allowed ran
        have same : ((w.merge d' c v).view d' 0).dispatcher = v.dispatcher := Function.update_self ..
        exact after.of_same (congrArg _ same) (congrArg _ same)
      · obtain ⟨out, still⟩ := stage_elsewhere b here calm allowed
        have same : ((w.merge d' c v).view d 0).dispatcher = (w.view d 0).dispatcher :=
          Function.update_of_ne (Ne.symm here) ..
        exact ((held d).of_same (congrArg _ same) (congrArg _ same)).stay (still.trans out.symm)
    · exact external.elim
  | _ => exact absurd trivial calm

variable {settings : ManagerSettings} {tools_cache : Option ToolsCacheStore}
  {tasks : ι → ManagerTask ι} {tr : List (PoolEvent ι (ManagerOp ι))}
  {q : Pool ι (ManagerOp ι) (ManagerWorld ι) ManagerReturn}

/-- Where the tasks are after a run. -/
def spots (tr : List (PoolEvent ι (ManagerOp ι))) : ι → Spot :=
  Pool.phases stageProtocol (fun _ => none) tr

omit [DecidableEq ι] in
theorem standing_at_new (w : ManagerWorld ι) (fresh : ∀ d, w.dispatchers d = .new) :
    StandingAt (fun _ => none) w := by
  intro d
  have empty : Standing (fun _ : ι => Stage.out) .new := by
    refine ⟨⟨.free, Semaphore.Exclusive.new.congr (fun j => ?_) (fun j => Iff.rfl)⟩,
      .inr ⟨rfl, fun j => nofun⟩⟩
    exact ⟨False.elim, nofun⟩
  have same : (w.view d 0).dispatcher = (DispatcherWorld.new : DispatcherWorld ι).dispatcher := fresh d
  exact empty.of_same (congrArg _ same) (congrArg _ same)

/-- **In every run the permits and counters of all dispatchers agree with the stages of the
tasks.** -/
theorem standing_of_run
    (run : Pool.Run managerSemantics (managerPool settings tools_cache tasks) tr q) :
    StandingAt (spots tr) q.shared ∧
      ∀ i, stageProtocol.Follows (fun _ _ => True) (spots tr i) (q.thread i) :=
  run.invariant (I := fun place w _ => StandingAt place w) (fun i => (tasks i).dispatched settings)
    (standing_at_new _ fun _ => rfl) fun _ _ held allowed answered => held.step allowed answered

end Runs

end SessionManager
