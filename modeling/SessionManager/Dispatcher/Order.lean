import SessionManager.Dispatcher.Wire
import Mathlib.Data.Set.Card

/-!
# Admission order

Calls come to the semaphore, are admitted, and put their `tool.call` on the wire, in one
order.  `dispatcher_protocol` collects the promises of the dispatcher.
-/

namespace SessionManager

open Json Effect DispPhase

variable {ι : Type} {phase : ι → DispPhase ι} {w w' : DispatcherWorld ι} {i : ι}
  {g : DispPhase ι} {β : Type}
  {task : DispTask ι}

/-! ## The order of sending -/

/-- The call that queued at the semaphore, or got its permit at once. -/
def arrivedCall : PoolEvent ι (DispOp ι) → Option ι
  | ⟨i, ⟨.poll_admission _, .ready (.acquired true)⟩⟩ | ⟨i, ⟨.poll_admission _, .queued⟩⟩ => some i
  | _ => none

/-- The call admitted by a step. -/
def admittedCall : PoolEvent ι (DispOp ι) → Option ι
  | ⟨i, ⟨.fetch_add_inflight, _⟩⟩ => some i
  | _ => none

/-- The call whose `tool.call` a step put on the wire. -/
def sentCall (ev : PoolEvent ι (DispOp ι)) : Option ι :=
  match wireMessage ev.event with
  | some (.request _ method _) => if method = methods.TOOL_CALL then some ev.tid else none
  | _ => none

/-- The calls in the order in which they came to the semaphore. -/
def arrival_order (tr : List (PoolEvent ι (DispOp ι))) : List ι := tr.filterMap arrivedCall

/-- The calls in the order of their admission. -/
def admission_order (tr : List (PoolEvent ι (DispOp ι))) : List ι := tr.filterMap admittedCall

/-- The calls in the order in which they put their `tool.call` on the wire. -/
def sending_order (tr : List (PoolEvent ι (DispOp ι))) : List ι := tr.filterMap sentCall

theorem filterMap_snoc {α γ : Type*} {f : α → Option γ} {past : List α} {x : α} {r : Option γ}
    (reads : f x = r) : (past ++ [x]).filterMap f = past.filterMap f ++ r.toList := by
  rw [List.filterMap_append]
  congr 1
  cases r with
  | none => rw [List.filterMap_cons_none reads]; rfl
  | some y => rw [List.filterMap_cons_some reads]; rfl

/-- A task that puts a `tool.call` on the wire is a call in its sending method. -/
theorem sent_of_sentCall {op : DispOp ι β} {answer : β} {j : ι} (sited : g.sited task)
    (allowed : dispProtocol.allows g op) (sent : sentCall ⟨i, ⟨op, answer⟩⟩ = some j) :
    j = i ∧ ∃ deadline params n rx, g = .conn (.call deadline)
        (.inserted methods.TOOL_CALL params n rx) ∧
      dispProtocol.next g op answer = .awaiting n rx deadline := by
  cases put : wireMessage (⟨op, answer⟩ : Event (DispOp ι)) with
  | none =>
    simp only [sentCall, put] at sent
    cases sent
  | some msg =>
    cases op with
    | conn op =>
      cases op with
      | outbound_send msg' =>
        obtain ⟨site, g', rfl, allowed⟩ := of_conn allowed
        obtain ⟨method, params, n, rx, rfl, rfl, -, -⟩ := ConnPhase.of_outbound_send allowed
        cases answer with
        | accepted =>
          simp only [sentCall, wireMessage, Option.ite_none_right_eq_some, Option.some.injEq] at sent
          obtain ⟨rfl, rfl⟩ := sent
          have sends := sited _ rfl
          cases site with
          | call deadline => exact ⟨rfl, deadline, params, n, rx, rfl, rfl⟩
          | cancel n' rx' deadline =>
            have differ : methods.TOOL_CALL ≠ methods.TOOL_CANCEL := by decide
            exact absurd (congrArg Prod.fst sends) differ
          | _ => exact sends.elim
        | _ => cases put
      | _ => cases put
    | _ => cases put

/-- The call has been admitted and its `tool.call` is not sent yet. -/
def DispPhase.sending (g : DispPhase ι) : Prop :=
  ∃ deadline g', g = .conn (.call deadline) g' ∧ g'.request.isSome

theorem DispPhase.counted_of_sending (sending : g.sending) : g.stage = .counted := by
  obtain ⟨deadline, g', rfl, -⟩ := sending
  rfl

theorem DispPhase.sending_of_settle {site : Site} {g : ConnPhase}
    (sending : (settle site g : DispPhase ι).sending) :
    ∃ deadline, site = .call deadline ∧ g.request.isSome := by
  obtain ⟨deadline, g', same, some⟩ := sending
  cases site <;> cases g <;> cases same <;> exact ⟨_, rfl, some⟩

/-- Only admission makes a call start sending. -/
theorem DispPhase.sending_next {op : DispOp ι β} {answer : β} (allowed : dispProtocol.allows g op)
    (sending : (dispProtocol.next g op answer).sending) : g.sending ∨ op.adds answer := by
  have away {g : DispPhase ι} {p : Prop} (sending : g.sending)
      (other : ∀ deadline g', g ≠ .conn (.call deadline) g') : p := by
    obtain ⟨deadline, g', same, -⟩ := sending
    exact absurd same (other deadline g')
  cases op with
  | conn op =>
    obtain ⟨site, g', rfl, allowed⟩ := of_conn allowed
    obtain ⟨deadline, rfl, next⟩ := sending_of_settle sending
    obtain ⟨request, next⟩ := Option.isSome_iff_exists.mp next
    exact .inl ⟨deadline, g', rfl,
      Option.isSome_iff_exists.mpr ⟨request, ConnPhase.request_next allowed next⟩⟩
  | load_state =>
    obtain ⟨params, deadline, rfl | rfl⟩ := of_load_state allowed <;> cases answer <;>
      exact away sending (fun _ _ same => by cases same)
  | store_drained =>
    obtain rfl := of_store_drained allowed
    exact away sending (fun _ _ same => by cases same)
  | poll_admission deadline =>
    obtain ⟨params, rfl⟩ := of_poll_admission allowed
    rcases answer with (_ | _ | permit) | _ <;> first
      | exact away sending (fun _ _ same => by cases same)
      | (cases permit <;> exact away sending (fun _ _ same => by cases same))
  | resume_admission deadline =>
    obtain ⟨params, rfl⟩ := of_resume_admission allowed
    rcases answer with _ | _ | permit <;> first
      | exact away sending (fun _ _ same => by cases same)
      | (cases permit <;> exact away sending (fun _ _ same => by cases same))
  | fetch_add_inflight => exact .inr trivial
  | fetch_sub_inflight =>
    obtain rfl := of_fetch_sub_inflight allowed
    exact away sending (fun _ _ same => by cases same)
  | release_permit =>
    rcases of_release_permit allowed with rfl | rfl <;> exact away sending (fun _ _ same => by cases same)
  | select rx deadline =>
    obtain ⟨n, rfl⟩ := of_select allowed
    rcases answer with terminal | _
    · cases terminal <;> exact away sending (fun _ _ same => by cases same)
    · exact away sending (fun _ _ same => by cases same)
  | select_cancel_sent rx deadline =>
    obtain ⟨n, rfl⟩ := of_select_cancel_sent allowed
    cases answer <;> exact away sending (fun _ _ same => by cases same)
  | cancel j =>
    obtain rfl := of_cancel allowed
    exact away sending (fun _ _ same => by cases same)
  | tick =>
    obtain rfl := of_tick allowed
    exact away sending (fun _ _ same => by cases same)

/-- Calls send in the order of admission; the one that is still to send was admitted last. -/
structure Ordered (phase : ι → DispPhase ι) (past : List (PoolEvent ι (DispOp ι))) : Prop where
  sublist : (sending_order past).Sublist (admission_order past)
  next : ∀ i, (phase i).sending →
    ∃ l, admission_order past = l ++ [i] ∧ (sending_order past).Sublist l

/-- One request keeps the order in which calls send. -/
theorem Ordered.step [DecidableEq ι] {op : DispOp ι β} {answer : β} {past : List (PoolEvent ι (DispOp ι))}
    (held : Ordered phase past) (alone : ∀ {j k}, (phase j).stage.holds → (phase k).stage.holds → j = k)
    (sited : (phase i).sited task) (allowed : dispProtocol.allows (phase i) op) :
    Ordered (Function.update phase i (dispProtocol.next (phase i) op answer))
      (past ++ [⟨i, ⟨op, answer⟩⟩]) := by
  have holds {j : ι} (sending : (phase j).sending) : (phase j).stage.holds := by
    rw [counted_of_sending sending]
    trivial
  have same (admitted : admittedCall (⟨i, ⟨op, answer⟩⟩ : PoolEvent ι (DispOp ι)) = none) :
      admission_order (past ++ [⟨i, ⟨op, answer⟩⟩]) = admission_order past :=
    (filterMap_snoc admitted).trans (List.append_nil _)
  cases sent : sentCall (⟨i, ⟨op, answer⟩⟩ : PoolEvent ι (DispOp ι)) with
  | some j =>
    obtain ⟨rfl, deadline, params, n, rx, here, next⟩ := sent_of_sentCall sited allowed sent
    have admitted : admittedCall (⟨j, ⟨op, answer⟩⟩ : PoolEvent ι (DispOp ι)) = none := by
      cases op with
      | fetch_add_inflight => cases sent
      | _ => rfl
    have mine : (phase j).sending := ⟨deadline, _, here, rfl⟩
    obtain ⟨l, last, before⟩ := held.next j mine
    have more : sending_order (past ++ [⟨j, ⟨op, answer⟩⟩]) = sending_order past ++ [j] :=
      filterMap_snoc sent
    refine ⟨?_, fun k sending => ?_⟩
    · rw [more, same admitted, last]
      exact before.append (.refl _)
    · rw [next, Function.update_apply] at sending
      split at sending
      · obtain ⟨_, _, impossible, -⟩ := sending
        cases impossible
      · exact absurd (alone (holds sending) (holds mine)) ‹_›
  | none =>
    have quiet : sending_order (past ++ [⟨i, ⟨op, answer⟩⟩]) = sending_order past :=
      (filterMap_snoc sent).trans (List.append_nil _)
    by_cases adds : op.adds answer
    · cases op with
      | fetch_add_inflight =>
        obtain ⟨params, deadline, here⟩ := of_fetch_add_inflight allowed
        have more : admission_order (past ++ [⟨i, ⟨.fetch_add_inflight, answer⟩⟩]) =
            admission_order past ++ [i] := filterMap_snoc rfl
        refine ⟨?_, fun k sending => ?_⟩
        · rw [quiet, more]
          exact held.sublist.trans (List.sublist_append_left _ _)
        · rw [quiet, more]
          by_cases other : k = i
          · exact ⟨_, by rw [other], held.sublist⟩
          · rw [Function.update_of_ne other] at sending
            exact absurd (alone (holds sending) (by rw [here]; trivial)) other
      | _ => exact adds.elim
    · have admitted : admittedCall (⟨i, ⟨op, answer⟩⟩ : PoolEvent ι (DispOp ι)) = none := by
        cases op with
        | fetch_add_inflight => exact absurd trivial adds
        | _ => rfl
      refine ⟨by rw [quiet, same admitted]; exact held.sublist, fun k sending => ?_⟩
      rw [quiet, same admitted]
      refine held.next k ?_
      rw [Function.update_apply] at sending
      split at sending
      · rename_i other
        rw [other]
        exact (sending_next allowed sending).resolve_right adds
      · exact sending

/-- Admission is fair: calls are admitted in the order in which they came to the semaphore. -/
def FairTo (phase : ι → DispPhase ι) (w : DispatcherWorld ι) (past : List (PoolEvent ι (DispOp ι))) :
    Prop :=
  w.dispatcher.admission.Fair (fun j => (phase j).stage = .held) (admission_order past)
    (arrival_order past)

/-- The calls that have the permit before admission, when one of them changes its stage. -/
theorem held_update [DecidableEq ι] {stage : ι → Stage} {st : Stage} {j : ι}
    (held : Function.update stage i st j = .held) : (st = .held ∧ j = i) ∨ stage j = .held := by
  rw [Function.update_apply] at held
  split at held
  · exact .inl ⟨held, ‹_›⟩
  · exact .inr held

/-- One request keeps admission fair. -/
theorem FairTo.step [DecidableEq ι] {op : DispOp ι β} {answer : β}
    {past : List (PoolEvent ι (DispOp ι))} (held : FairTo phase w past)
    (standing : Standing (fun j => (phase j).stage) w) (allowed : dispProtocol.allows (phase i) op)
    (answered : op.apply i w = some (answer, w')) :
    FairTo (Function.update phase i (dispProtocol.next (phase i) op answer)) w'
      (past ++ [⟨i, ⟨op, answer⟩⟩]) := by
  obtain ⟨permit, exclusive⟩ := standing.exclusive
  have grown {sem : Semaphore ι} {has : ι → Prop} {admitted arrived : Option ι}
      (admits : admittedCall (⟨i, ⟨op, answer⟩⟩ : PoolEvent ι (DispOp ι)) = admitted)
      (arrives : arrivedCall (⟨i, ⟨op, answer⟩⟩ : PoolEvent ι (DispOp ι)) = arrived)
      (order : sem.Fair has (admission_order past ++ admitted.toList)
        (arrival_order past ++ arrived.toList)) :
      sem.Fair has (admission_order (past ++ [⟨i, ⟨op, answer⟩⟩]))
        (arrival_order (past ++ [⟨i, ⟨op, answer⟩⟩])) := by
    rwa [admission_order, filterMap_snoc admits, arrival_order, filterMap_snoc arrives]
  have quiet {sem : Semaphore ι} {has : ι → Prop}
      (admits : admittedCall (⟨i, ⟨op, answer⟩⟩ : PoolEvent ι (DispOp ι)) = none)
      (arrives : arrivedCall (⟨i, ⟨op, answer⟩⟩ : PoolEvent ι (DispOp ι)) = none)
      (order : sem.Fair has (admission_order past) (arrival_order past)) :
      sem.Fair has (admission_order (past ++ [⟨i, ⟨op, answer⟩⟩]))
        (arrival_order (past ++ [⟨i, ⟨op, answer⟩⟩])) := by
    refine grown admits arrives ?_
    rwa [Option.toList_none, List.append_nil, List.append_nil]
  suffices order : w'.dispatcher.admission.Fair
      (fun j => Function.update (fun j => (phase j).stage) i
        (dispProtocol.next (phase i) op answer).stage j = .held)
      (admission_order (past ++ [⟨i, ⟨op, answer⟩⟩])) (arrival_order (past ++ [⟨i, ⟨op, answer⟩⟩])) from
    order.mono fun j here => (congrFun (stage_update phase i _) j).symm.trans here
  have still (st : Stage) {sem : Semaphore ι} (out : st ≠ .held)
      (order : sem.Fair (fun j => (phase j).stage = .held) (admission_order past) (arrival_order past)) :
      sem.Fair (fun j => Function.update (fun j => (phase j).stage) i st j = .held)
        (admission_order past) (arrival_order past) :=
    order.mono fun j here => (held_update here).resolve_left fun new => out new.1
  by_cases calm : op.calm
  · have same : admittedCall (⟨i, ⟨op, answer⟩⟩ : PoolEvent ι (DispOp ι)) = none ∧
        arrivedCall (⟨i, ⟨op, answer⟩⟩ : PoolEvent ι (DispOp ι)) = none := by
      cases op with
      | poll_admission | resume_admission | fetch_add_inflight | fetch_sub_inflight
      | release_permit => exact calm.elim
      | _ => exact ⟨rfl, rfl⟩
    refine quiet same.1 same.2 ?_
    rw [(DispOp.apply_of_calm calm answered).1, stage_next_of_calm calm allowed,
      Function.update_eq_self]
    exact held
  cases op with
  | poll_admission deadline =>
    obtain ⟨params, here⟩ := of_poll_admission allowed
    rw [here]
    simp only [DispOp.apply] at answered
    split at answered
    · cases answered
      exact quiet rfl rfl (still .out (by decide) held)
    split at answered
    · cases answered
      exact quiet rfl rfl (still .out (by decide) held)
    cases polled : (w.dispatcher.admission.enqueue i).1 with
    | true =>
      rw [polled] at answered
      cases answered
      refine grown (rfl : _ = none) (rfl : _ = some i) ?_
      rw [Option.toList_none, List.append_nil]
      exact (Semaphore.Fair.enqueue_ok held (exclusive.waiters_of_ready polled) polled).mono
        fun j here => (held_update here).symm.imp_right And.right
    | false =>
      rw [polled] at answered
      cases answered
      refine grown (rfl : _ = none) (rfl : _ = some i) ?_
      rw [Option.toList_none, List.append_nil]
      exact (Semaphore.Fair.enqueue_queued held polled).mono
        fun j here => (held_update here).resolve_left (fun new => by cases new.1)
  | resume_admission deadline =>
    obtain ⟨params, here⟩ := of_resume_admission allowed
    refine quiet rfl rfl ?_
    rw [here]
    simp only [DispOp.apply] at answered
    split at answered
    · cases answered
      exact still .out (by decide) (Semaphore.Fair.abandon held)
    split at answered
    · cases answered
      exact still .out (by decide) (Semaphore.Fair.abandon held)
    split at answered
    · rename_i granted
      cases answered
      exact (Semaphore.Fair.pick_up held granted).mono
        fun j here => (held_update here).symm.imp_right And.right
    · cases answered
  | fetch_add_inflight =>
    obtain ⟨params, deadline, here⟩ := of_fetch_add_inflight allowed
    cases answered
    have mine : (phase i).stage = .held := congrArg stage here
    have holds {j : ι} (has : (phase j).stage = .held) : (phase j).stage.holds := by
      rw [has]
      trivial
    refine grown (rfl : _ = some i) (rfl : _ = none) ?_
    rw [here, Option.toList_none, List.append_nil]
    refine (Semaphore.Fair.serve held mine (exclusive.granted_of_holds (holds mine))).mono
      fun j has => ?_
    rw [Function.update_apply] at has
    split at has
    · cases has
    · exact absurd (standing.unique (holds has) (holds mine)) ‹_›
  | fetch_sub_inflight =>
    have here := of_fetch_sub_inflight allowed
    have left := still .closing (by decide) held
    rw [here]
    cases answered
    refine quiet rfl rfl ?_
    rw [DispatcherWorld.set_inflight_admission]
    exact left
  | release_permit =>
    cases answered
    have released := Semaphore.Fair.release held
    refine quiet rfl rfl ?_
    rcases of_release_permit allowed with here | here
    · rw [here]
      exact still .out (by decide) released
    · rw [here]
      exact still .done (by decide) released
  | _ => exact absurd trivial calm

/-! ## The promises of the dispatcher -/

variable {tasks : ι → DispTask ι} {q : Pool ι (DispOp ι) (DispatcherWorld ι) DispReturn}
  {tr : List (PoolEvent ι (DispOp ι))}

theorem ordered [DecidableEq ι] (run : Pool.Run dispSemantics (dispPool tasks) tr q) :
    FairTo (phases tasks tr) q.shared tr ∧ Ordered (phases tasks tr) tr := by
  have held := (run.invariant (P := dispProtocol)
    (I := fun phase w past => Standing (fun i => (phase i).stage) w ∧
      (∀ i, (phase i).sited (tasks i)) ∧ FairTo phase w past ∧ Ordered phase past)
    (fun i => (tasks i).follows) ⟨standing_new tasks, fun i => sited_of_task _, ?_, ?_⟩ ?_).1
  · exact held.2.2
  · refine Semaphore.Fair.new.mono fun i held => ?_
    cases (stage_of_task (tasks i)).symm.trans held
  · refine ⟨.refl _, fun i sending => ?_⟩
    cases (stage_of_task (tasks i)).symm.trans (counted_of_sending sending)
  · rintro phase w w' past i β op answer ⟨standing, sited, fair, ordered⟩ allowed answered
    refine ⟨standing.step allowed answered, fun j => ?_, fair.step standing allowed answered,
      ordered.step standing.unique (sited i) allowed⟩
    rw [Function.update_apply]
    split
    · rename_i same
      rw [same]
      exact sited_next (sited i) allowed
    · exact sited j

/-- The call is between its admission and its return. -/
def InFlight [DecidableEq ι] (tr : List (PoolEvent ι (DispOp ι))) (i : ι) : Prop :=
  Did DispOp.adds (Pool.project i tr) ∧ ¬ Did DispOp.subs (Pool.project i tr)

/-- The call got the permit and has not given it back. -/
def HoldsPermit [DecidableEq ι] (tr : List (PoolEvent ι (DispOp ι))) (i : ι) : Prop :=
  Did DispOp.acquires (Pool.project i tr) ∧ ¬ Did DispOp.releases (Pool.project i tr)

theorem inFlight_iff [DecidableEq ι] (run : Pool.Run dispSemantics (dispPool tasks) tr q) (i : ι) :
    InFlight tr i ↔ (phases tasks tr i).stage = .counted := by
  have marks := trail run i
  rw [InFlight, marks.adds, marks.subs]
  cases (phases tasks tr i).stage <;> simp [Stage.admitted, Stage.dismissed]

/-- The counter counts the calls in flight. -/
theorem inflight_eq [DecidableEq ι] (run : Pool.Run dispSemantics (dispPool tasks) tr q) :
    (q.shared.dispatcher.inflight : ℕ∞) = Set.encard {i | InFlight tr i} := by
  have same : {i | InFlight tr i} = {i | (phases tasks tr i).stage = .counted} :=
    Set.ext (inFlight_iff run)
  have held := (standing run).1
  rw [same]
  rcases held.inflight with ⟨one, i, counted⟩ | ⟨zero, none⟩
  · have single : {j | (phases tasks tr j).stage = .counted} = {i} := by
      refine Set.eq_singleton_iff_unique_mem.mpr ⟨counted, fun j other => ?_⟩
      by_contra differ
      exact held.not_counted (i := i) (holds_of_counted counted) differ other
    rw [one, single, Set.encard_singleton]
    rfl
  · have empty : {j | (phases tasks tr j).stage = .counted} = ∅ :=
      Set.eq_empty_iff_forall_notMem.mpr none
    rw [zero, empty, Set.encard_empty]
    rfl

/-- A call that was turned away did nothing but wait for the permit. -/
structure TurnedAway [DecidableEq ι] (tr : List (PoolEvent ι (DispOp ι))) (w : DispatcherWorld ι)
    (i : ι) : Prop where
  silent : ¬ Did DispOp.is_conn (Pool.project i tr)
  sent : messages (Pool.project i tr) = []
  permit : ¬ HoldsPermit tr i
  waits : i ∉ w.dispatcher.admission.waiters
  handed : i ∉ w.dispatcher.admission.granted

theorem turned_away [DecidableEq ι] (run : Pool.Run dispSemantics (dispPool tasks) tr q) {i : ι}
    {result : Except DispatcherError ToolCallResult} (done : q.thread i = .ret (.returned result))
    (early : QueuedResult result ∨ Did DispOp.finds_drained (Pool.project i tr)) :
    TurnedAway tr q.shared i := by
  have marks := trail run i
  have wire := (wired run i).2
  have ended : (phases tasks tr i).returns (.returned result) := returned run done
  obtain ⟨permit, exclusive⟩ := (standing run).1.exclusive
  have queue := exclusive.queue i
  cases here : phases tasks tr i with
  | turned_away error =>
    rw [here] at marks wire queue
    have unqueued := mt queue.mp nofun
    exact ⟨marks.quiet trivial, wire, marks.holds.not.mpr id, fun waits => unqueued (.inl waits),
      fun handed => unqueued (.inr handed)⟩
  | ended =>
    rw [here] at ended marks
    obtain ⟨_, same, running⟩ := ended
    cases same
    rcases early with early | drained
    · exact absurd early running
    · rcases marks.drained drained with impossible | impossible <;> cases impossible
  | conn site g =>
    rw [here] at ended
    cases site with
    | task => cases ended
    | _ => exact ended.elim
  | finished =>
    rw [here] at ended
    cases ended
  | _ =>
    rw [here] at ended
    exact ended.elim

/-- The task is no call. -/
def DispPhase.stray : DispPhase ι → Prop
  | .start (.enqueue _ _) => False
  | .start _ | .conn .task _ | .finished => True
  | _ => False

theorem DispPhase.stray_next {op : DispOp ι β} {answer : β} (stray : g.stray)
    (allowed : dispProtocol.allows g op) : (dispProtocol.next g op answer).stray := by
  rcases g with task | _ | _ | _ | _ | _ | ⟨site, g⟩ | _
  case start =>
    cases task with
    | enqueue => exact stray.elim
    | _ => cases op <;> trivial
  case conn =>
    cases site with
    | task => cases op <;> first | exact allowed.elim | trivial
    | _ => exact stray.elim
  case finished => exact allowed.elim
  all_goals exact stray.elim

theorem stray_of_not_call [DecidableEq ι] (run : Pool.Run dispSemantics (dispPool tasks) tr q) {i : ι}
    (other : ∀ params deadline, tasks i ≠ .enqueue params deadline) : (phases tasks tr i).stray := by
  rw [phases, Pool.phases_eq_after]
  have own : Exec (tasks i).prog (Pool.project i tr) (q.thread i) := run.project i
  refine (tasks i).follows.trail own (T := fun g _ => g.stray) ?_
    fun _ _ held allowed => stray_next held allowed
  cases task : tasks i with
  | enqueue params deadline => exact absurd task (other params deadline)
  | _ => trivial

/-- When every call has returned, the counter is zero and the permit is free. -/
theorem all_returned [DecidableEq ι] (run : Pool.Run dispSemantics (dispPool tasks) tr q)
    (done : ∀ i params deadline, tasks i = .enqueue params deadline → ∃ value, q.thread i = .ret value) :
    q.shared.dispatcher.inflight = 0 ∧ q.shared.dispatcher.admission = .new 1 := by
  have held := (standing run).1
  have out (i : ι) : (phases tasks tr i).stage = .out ∨ (phases tasks tr i).stage = .done := by
    by_cases call : ∃ params deadline, tasks i = .enqueue params deadline
    · obtain ⟨params, deadline, call⟩ := call
      obtain ⟨value, done⟩ := done i params deadline call
      have ended := returned run done
      cases here : phases tasks tr i with
      | turned_away | finished => exact .inl rfl
      | ended => exact .inr rfl
      | conn site g =>
        rw [here] at ended
        cases site with
        | task => exact .inl rfl
        | _ => exact ended.elim
      | _ =>
        rw [here] at ended
        exact ended.elim
    · have stray := stray_of_not_call run fun params deadline same => call ⟨params, deadline, same⟩
      cases here : phases tasks tr i with
      | start | finished => exact .inl rfl
      | conn site g =>
        rw [here] at stray
        cases site with
        | task => exact .inl rfl
        | _ => exact stray.elim
      | _ =>
        rw [here] at stray
        exact stray.elim
  obtain ⟨permit, exclusive⟩ := held.exclusive
  constructor
  · rcases held.inflight with ⟨-, i, counted⟩ | ⟨zero, -⟩
    · rcases out i with same | same <;> cases same.symm.trans counted
    · exact zero
  · refine exclusive.all_gone (fun i queued => ?_) fun i holds => ?_
    · rcases out i with same | same <;> cases same.symm.trans queued
    · rcases out i with same | same <;> rw [same] at holds <;> exact holds

/-- What the dispatcher promises of a run. -/
structure DispatcherPromises [DecidableEq ι] (tasks : ι → DispTask ι) (tr : List (PoolEvent ι (DispOp ι)))
    (q : Pool ι (DispOp ι) (DispatcherWorld ι) DispReturn) : Prop where
  /-- The counter counts the calls between admission and return. -/
  inflight : (q.shared.dispatcher.inflight : ℕ∞) = Set.encard {i | InFlight tr i}
  one : q.shared.dispatcher.inflight ≤ 1
  exclusive : ∀ {i j}, HoldsPermit tr i → HoldsPermit tr j → i = j
  admitted : (admission_order tr).Sublist (arrival_order tr)
  sent : (sending_order tr).Sublist (admission_order tr)
  turned_away : ∀ {i result}, q.thread i = .ret (.returned result) →
    QueuedResult result ∨ Did DispOp.finds_drained (Pool.project i tr) → TurnedAway tr q.shared i
  messages : ∀ i, OwnMessages (tasks i) (messages (Pool.project i tr))
  finished : (∀ i params deadline, tasks i = .enqueue params deadline →
    ∃ value, q.thread i = .ret value) →
    q.shared.dispatcher.inflight = 0 ∧ q.shared.dispatcher.admission = .new 1

/-- **The dispatcher protocol** holds in every run of calls, drains, responses, cancellations
and deadlines. -/
theorem dispatcher_protocol [DecidableEq ι] (run : Pool.Run dispSemantics (dispPool tasks) tr q) :
    DispatcherPromises tasks tr q where
  inflight := inflight_eq run
  one := by
    rcases (standing run).1.inflight with ⟨one, -⟩ | ⟨zero, -⟩
    · exact one.le
    · exact zero.le.trans (Nat.zero_le 1)
  exclusive {i j} mine other :=
    (standing run).1.unique ((trail run i).holds.mp mine) ((trail run j).holds.mp other)
  admitted := (ordered run).1.sublist
  sent := (ordered run).2.sublist
  turned_away done early := SessionManager.turned_away run done early
  messages i := own_of_wired (wired run i).2
  finished := all_returned run

/-! ## Two calls -/

/-- Two calls, the response to the first, and the session being drained. -/
def twoCalls : Fin 4 → DispTask (Fin 4)
  | 0 => .enqueue { name := "echo", arguments := .null } none
  | 1 => .enqueue { name := "echo", arguments := .null } (some 1)
  | 2 => .respond (mgr_id 0) (.ok .null)
  | 3 => .drain

def callRun {n : Nat} (tasks : Fin n → DispTask (Fin n)) (schedule : List (Fin n)) :
    List (PoolEvent (Fin n) (DispOp (Fin n))) ×
      Pool (Fin n) (DispOp (Fin n)) (DispatcherWorld (Fin n)) DispReturn :=
  Pool.play (fun i w _ op => op.apply i w) schedule (dispPool tasks)

theorem callRun_run {n : Nat} (tasks : Fin n → DispTask (Fin n)) (schedule : List (Fin n)) :
    Pool.Run dispSemantics (dispPool tasks) (callRun tasks schedule).1 (callRun tasks schedule).2 :=
  .play (fun _ _ _ _ _ _ given => given) schedule _

/-- The first call is answered while the second one queues; then the session is drained, and
the second call is turned away. -/
theorem two_calls_protocol :
    DispatcherPromises twoCalls
      (callRun twoCalls [0, 0, 0, 0, 1, 1, 0, 0, 0, 0, 0, 2, 2, 0, 0, 0, 3, 0, 1, 1, 1]).1
      (callRun twoCalls [0, 0, 0, 0, 1, 1, 0, 0, 0, 0, 0, 2, 2, 0, 0, 0, 3, 0, 1, 1, 1]).2 :=
  dispatcher_protocol (callRun_run twoCalls _)

end SessionManager
