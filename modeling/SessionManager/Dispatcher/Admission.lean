import SessionManager.Dispatcher.Phases

/-!
# Admission: one call at a time

`Standing` ties the semaphore and the counter of the dispatcher to the stages of the
calls.  It holds in every run, whatever is cancelled, timed out, answered or drained, and
gives the promises of the dispatcher: at most one call is counted, messages go out in
admission order, a call turned away has sent nothing and holds nothing, and in the end
the permit is free.
-/

namespace SessionManager

open Json Effect

variable {ι : Type} {phase : ι → DispPhase ι} {w w' : DispatcherWorld ι} {i : ι}
  {g : DispPhase ι}

/-! ## The permit and the counter -/

/-- The counter shows whether a call is counted. -/
def Counted (stage : ι → Stage) (inflight : Nat) : Prop :=
  (inflight = 1 ∧ ∃ i, stage i = .counted) ∨ (inflight = 0 ∧ ∀ i, stage i ≠ .counted)

/-- The semaphore and the counter agree with the stages of the calls. -/
structure Standing (stage : ι → Stage) (w : DispatcherWorld ι) : Prop where
  exclusive : ∃ permit, w.dispatcher.admission.Exclusive (fun i => stage i = .queued)
    (fun i => (stage i).holds) permit
  inflight : Counted stage w.dispatcher.inflight

/-- A call that is not counted before or after leaves the counter right. -/
theorem Counted.update [DecidableEq ι] {stage : ι → Stage} {n : Nat} {st : Stage} (held : Counted stage n)
    (before : stage i ≠ .counted) (after : st ≠ .counted) :
    Counted (Function.update stage i st) n := by
  rcases held with ⟨rfl, j, counted⟩ | ⟨rfl, none⟩
  · refine .inl ⟨rfl, j, ?_⟩
    rwa [Function.update_of_ne]
    rintro rfl
    exact before counted
  · refine .inr ⟨rfl, fun j => ?_⟩
    rw [Function.update_apply]
    split
    · exact after
    · exact none j

namespace Standing

variable {stage : ι → Stage}

theorem of_same (held : Standing stage w)
    (admission : w'.dispatcher.admission = w.dispatcher.admission)
    (inflight : w'.dispatcher.inflight = w.dispatcher.inflight) : Standing stage w' :=
  ⟨admission ▸ held.exclusive, inflight ▸ held.inflight⟩

theorem stay [DecidableEq ι] {st : Stage} (held : Standing stage w) (same : st = stage i) :
    Standing (Function.update stage i st) w := by
  rwa [same, Function.update_eq_self]

/-- At most one call holds the permit. -/
theorem unique (held : Standing stage w) {j : ι} (mine : (stage i).holds) (other : (stage j).holds) :
    i = j := by
  obtain ⟨permit, exclusive⟩ := held.exclusive
  exact exclusive.unique mine other

/-- A new semaphore, for a call that is not counted before or after. -/
theorem move [DecidableEq ι] {sem : Semaphore ι} {queued holds : ι → Prop} {permit : Semaphore.Permit ι} {st : Stage}
    (held : Standing stage w) (exclusive : sem.Exclusive queued holds permit)
    (queue : ∀ j, queued j ↔ Function.update stage i st j = .queued)
    (hold : ∀ j, holds j ↔ (Function.update stage i st j).holds) (before : stage i ≠ .counted)
    (after : st ≠ .counted) : Standing (Function.update stage i st) (w.set_admission sem) :=
  ⟨⟨permit, exclusive.congr queue hold⟩, held.inflight.update before after⟩

theorem poll_ok [DecidableEq ι] (held : Standing stage w) (out : stage i = .out)
    (polled : (w.dispatcher.admission.enqueue i).1 = true) :
    Standing (Function.update stage i .held)
      (w.set_admission (w.dispatcher.admission.enqueue i).2) := by
  obtain ⟨permit, exclusive⟩ := held.exclusive
  refine held.move (exclusive.enqueue_ok polled) (fun j => ?_) (fun j => ?_) (out ▸ nofun) nofun
  all_goals
    rw [Function.update_apply]
    by_cases same : j = i <;> simp [same, out, Stage.holds]

theorem poll_queued [DecidableEq ι] (held : Standing stage w) (out : stage i = .out)
    (polled : (w.dispatcher.admission.enqueue i).1 = false) :
    Standing (Function.update stage i .queued)
      (w.set_admission (w.dispatcher.admission.enqueue i).2) := by
  obtain ⟨permit, exclusive⟩ := held.exclusive
  refine held.move (exclusive.enqueue_queued polled (out ▸ nofun)) (fun j => ?_) (fun j => ?_)
    (out ▸ nofun) nofun
  all_goals
    rw [Function.update_apply]
    by_cases same : j = i <;> simp [same, out, Stage.holds]

theorem resume [DecidableEq ι] (held : Standing stage w) (waits : stage i = .queued)
    (granted : i ∈ w.dispatcher.admission.granted) :
    Standing (Function.update stage i .held)
      (w.set_admission (w.dispatcher.admission.pick_up i)) := by
  obtain ⟨permit, exclusive⟩ := held.exclusive
  refine held.move (exclusive.pick_up granted) (fun j => ?_) (fun j => ?_) (waits ▸ nofun) nofun
  all_goals
    rw [Function.update_apply]
    by_cases same : j = i <;> simp [same, waits, Stage.holds]

theorem abandon [DecidableEq ι] (held : Standing stage w) (waits : stage i = .queued) :
    Standing (Function.update stage i .out)
      (w.set_admission (w.dispatcher.admission.abandon i)) := by
  obtain ⟨permit, exclusive⟩ := held.exclusive
  obtain ⟨permit', abandoned⟩ := exclusive.abandon (i := i)
  refine held.move abandoned (fun j => ?_) (fun j => ?_) (waits ▸ nofun) nofun
  all_goals
    rw [Function.update_apply]
    by_cases same : j = i <;> simp [same, waits, Stage.holds]

/-- The holder of the permit is the only one that can be counted. -/
theorem not_counted (held : Standing stage w) (mine : (stage i).holds) {j : ι} (other : j ≠ i) :
    stage j ≠ .counted := fun counted =>
  other (held.unique (i := j) (by rw [counted]; trivial) mine)

/-- A stage of the holder that keeps the permit. -/
theorem keep [DecidableEq ι] {st : Stage} {inflight : Nat} (held : Standing stage w) (mine : (stage i).holds)
    (still : st.holds) (queued : st ≠ .queued)
    (count : Counted (Function.update stage i st) inflight) :
    Standing (Function.update stage i st) (w.set_inflight inflight) := by
  obtain ⟨permit, exclusive⟩ := held.exclusive
  have waits : stage i ≠ .queued := fun same => by
    rw [same] at mine
    exact mine
  refine ⟨⟨permit, exclusive.congr (fun j => ?_) (fun j => ?_)⟩, count⟩
  all_goals
    rw [Function.update_apply]
    by_cases same : j = i <;> simp [same, mine, still, queued, waits]

theorem count [DecidableEq ι] (held : Standing stage w) (mine : stage i = .held) :
    Standing (Function.update stage i .counted)
      (w.set_inflight ((w.dispatcher.inflight + 1) % 2 ^ 32)) := by
  have holds : (stage i).holds := by rw [mine]; trivial
  refine held.keep holds trivial nofun (.inl ⟨?_, i, Function.update_self ..⟩)
  rcases held.inflight with ⟨-, j, counted⟩ | ⟨zero, -⟩
  · by_cases same : j = i
    · rw [same, mine] at counted
      cases counted
    · exact absurd counted (held.not_counted holds same)
  · rw [zero]
    omega

theorem uncount [DecidableEq ι] (held : Standing stage w) (mine : stage i = .counted) :
    Standing (Function.update stage i .closing)
      (w.set_inflight ((w.dispatcher.inflight + (2 ^ 32 - 1)) % 2 ^ 32)) := by
  have holds : (stage i).holds := by rw [mine]; trivial
  refine held.keep holds trivial nofun (.inr ⟨?_, fun j => ?_⟩)
  · rcases held.inflight with ⟨one, -⟩ | ⟨-, none⟩
    · rw [one]
      omega
    · exact absurd mine (none i)
  · rw [Function.update_apply]
    split
    · nofun
    · exact held.not_counted holds ‹_›

theorem release [DecidableEq ι] {st : Stage} (held : Standing stage w) (mine : (stage i).holds)
    (counted : stage i ≠ .counted) (out : ¬ st.holds) (queued : st ≠ .queued) :
    Standing (Function.update stage i st) (w.set_admission w.dispatcher.admission.release) := by
  obtain ⟨permit, exclusive⟩ := held.exclusive
  obtain ⟨permit', released⟩ := exclusive.release mine
  have waits : stage i ≠ .queued := fun same => by
    rw [same] at mine
    exact mine
  refine held.move released (fun j => ?_) (fun j => ?_) counted (fun same => out (same ▸ trivial))
  · rw [Function.update_apply]
    by_cases same : j = i <;> simp [same, queued, waits]
  · rw [Function.update_apply]
    by_cases same : j = i
    · simp [same, out]
    · simp only [same, if_false, false_iff]
      exact fun other => same (held.unique other mine)

end Standing

/-- The requests that concern neither the permit nor the counter. -/
def DispOp.calm : ∀ {β : Type}, DispOp ι β → Prop
  | _, .poll_admission _ | _, .resume_admission _ | _, .fetch_add_inflight | _, .fetch_sub_inflight
  | _, .release_permit => False
  | _, _ => True

theorem DispOp.apply_of_calm [DecidableEq ι] {β : Type} {op : DispOp ι β} {answer : β} (calm : op.calm)
    (answered : op.apply i w = some (answer, w')) :
    w'.dispatcher.admission = w.dispatcher.admission ∧
      w'.dispatcher.inflight = w.dispatcher.inflight := by
  cases op with
  | select rx deadline =>
    simp only [apply] at answered
    split at answered
    · cases answered
      exact ⟨rfl, rfl⟩
    · split at answered
      · cases answered
        exact ⟨rfl, rfl⟩
      · cases answered
  | select_cancel_sent rx deadline =>
    obtain ⟨terminal, -, same⟩ := Option.map_eq_some_iff.mp answered
    cases same
    exact ⟨rfl, rfl⟩
  | conn | load_state | store_drained | cancel | tick =>
    cases answered
    exact ⟨rfl, rfl⟩
  | _ => exact calm.elim

namespace DispPhase

theorem stage_settle (site : Site) (g : ConnPhase) :
    (settle site g : DispPhase ι).stage = (conn site g : DispPhase ι).stage := by
  cases site <;> cases g <;> rfl

theorem stage_after_terminal (n rx : Nat) (terminal : Terminal) :
    (after_terminal n rx terminal : DispPhase ι).stage = .counted := by
  cases terminal <;> rfl

theorem stage_next_of_calm {β : Type} {op : DispOp ι β} {answer : β} (calm : op.calm)
    (allowed : dispProtocol.allows g op) : (dispProtocol.next g op answer).stage = g.stage := by
  cases op with
  | conn op =>
    obtain ⟨site, g', rfl, -⟩ := of_conn allowed
    exact (stage_settle site _).trans (by cases site <;> rfl)
  | load_state =>
    obtain ⟨params, deadline, rfl | rfl⟩ := of_load_state allowed <;> cases answer <;> rfl
  | store_drained =>
    obtain rfl := of_store_drained allowed
    rfl
  | select rx deadline =>
    obtain ⟨n, rfl⟩ := of_select allowed
    cases answer with
    | terminal terminal => exact stage_after_terminal n rx terminal
    | cancelled => rfl
  | select_cancel_sent rx deadline =>
    obtain ⟨n, rfl⟩ := of_select_cancel_sent allowed
    exact stage_after_terminal n rx answer
  | cancel i =>
    obtain rfl := of_cancel allowed
    rfl
  | tick =>
    obtain rfl := of_tick allowed
    rfl
  | _ => exact calm.elim

theorem stage_update [DecidableEq ι] (phase : ι → DispPhase ι) (i : ι) (g : DispPhase ι) :
    (fun j => (Function.update phase i g j).stage) =
      Function.update (fun j => (phase j).stage) i g.stage :=
  funext fun j => by
    simp only [Function.update_apply]
    split <;> rfl

end DispPhase

open DispPhase

/-- One request of one task keeps permit and counter in step with the calls. -/
theorem Standing.step [DecidableEq ι] {β : Type} {op : DispOp ι β} {answer : β}
    (held : Standing (fun j => (phase j).stage) w) (allowed : dispProtocol.allows (phase i) op)
    (answered : op.apply i w = some (answer, w')) :
    Standing (fun j => (Function.update phase i (dispProtocol.next (phase i) op answer) j).stage)
      w' := by
  rw [stage_update]
  by_cases calm : op.calm
  · obtain ⟨admission, inflight⟩ := DispOp.apply_of_calm calm answered
    exact (held.of_same admission inflight).stay (stage_next_of_calm calm allowed)
  cases op with
  | poll_admission deadline =>
    obtain ⟨params, here⟩ := of_poll_admission allowed
    have out : (phase i).stage = .out := congrArg stage here
    rw [here]
    simp only [DispOp.apply] at answered
    split at answered
    · cases answered
      exact held.stay out.symm
    split at answered
    · cases answered
      exact held.stay out.symm
    cases polled : (w.dispatcher.admission.enqueue i).1 with
    | true =>
      rw [polled] at answered
      cases answered
      exact held.poll_ok out polled
    | false =>
      rw [polled] at answered
      cases answered
      exact held.poll_queued out polled
  | resume_admission deadline =>
    obtain ⟨params, here⟩ := of_resume_admission allowed
    have waits : (phase i).stage = .queued := congrArg stage here
    rw [here]
    simp only [DispOp.apply] at answered
    split at answered
    · cases answered
      exact held.abandon waits
    split at answered
    · cases answered
      exact held.abandon waits
    split at answered
    · rename_i granted
      cases answered
      exact held.resume waits granted
    · cases answered
  | fetch_add_inflight =>
    obtain ⟨params, deadline, here⟩ := of_fetch_add_inflight allowed
    rw [here]
    cases answered
    exact held.count (congrArg stage here)
  | fetch_sub_inflight =>
    have here := of_fetch_sub_inflight allowed
    rw [here]
    cases answered
    exact held.uncount (congrArg stage here)
  | release_permit =>
    cases answered
    rcases of_release_permit allowed with here | here <;> rw [here]
    · exact held.release (by rw [here]; trivial) (by rw [here]; nofun) id nofun
    · exact held.release (by rw [here]; trivial) (by rw [here]; nofun) id nofun
  | _ => exact absurd trivial calm

/-! ## The trail of one call -/

namespace DispOp

def adds : ∀ {β : Type}, DispOp ι β → β → Prop
  | _, .fetch_add_inflight, _ => True
  | _, _, _ => False

def subs : ∀ {β : Type}, DispOp ι β → β → Prop
  | _, .fetch_sub_inflight, _ => True
  | _, _, _ => False

def acquires : ∀ {β : Type}, DispOp ι β → β → Prop
  | _, .poll_admission _, poll => poll = .ready (.acquired true)
  | _, .resume_admission _, admission => admission = .acquired true
  | _, _, _ => False

def releases : ∀ {β : Type}, DispOp ι β → β → Prop
  | _, .release_permit, _ => True
  | _, _, _ => False

def finds_drained : ∀ {β : Type}, DispOp ι β → β → Prop
  | _, .load_state, state => state = .Drained
  | _, _, _ => False

def is_conn : ∀ {β : Type}, DispOp ι β → β → Prop
  | _, .conn _, _ => True
  | _, _, _ => False

end DispOp

/-- The call has been counted. -/
def Stage.admitted : Stage → Prop
  | .counted | .closing | .done => True
  | _ => False

/-- The call has been counted off again. -/
def Stage.dismissed : Stage → Prop
  | .closing | .done => True
  | _ => False

/-- The call is in front of the admission wait. -/
def DispPhase.fresh : DispPhase ι → Prop
  | .start _ | .checked _ _ | .queued _ _ => True
  | _ => False

/-- The call has not turned to the connection. -/
def DispPhase.unsent : DispPhase ι → Prop
  | .start _ | .checked _ _ | .queued _ _ | .held _ _ | .verified _ _ | .refused
  | .turned_away _ => True
  | _ => False

/-- The call was turned away because the dispatcher is drained. -/
def DispPhase.drained (g : DispPhase ι) : Prop := g = .refused ∨ g = .turned_away .SessionGone

/-- What a phase says about the requests the task has made. -/
structure Trail (g : DispPhase ι) (l : List (Event (DispOp ι))) : Prop where
  adds : Did DispOp.adds l ↔ g.stage.admitted
  subs : Did DispOp.subs l ↔ g.stage.dismissed
  holds : Did DispOp.acquires l ∧ ¬ Did DispOp.releases l ↔ g.stage.holds
  fresh : g.fresh → ¬ Did DispOp.releases l
  quiet : g.unsent → ¬ Did DispOp.is_conn l
  drained : Did DispOp.finds_drained l → g.drained

theorem DispPhase.not_unsent_settle (site : Site) (g : ConnPhase) :
    ¬ (settle site g : DispPhase ι).unsent := by
  cases site <;> cases g <;> exact id

theorem DispPhase.not_unsent_after_terminal (n rx : Nat) (terminal : Terminal) :
    ¬ (after_terminal n rx terminal : DispPhase ι).unsent := by
  cases terminal <;> exact id

theorem DispPhase.unsent_of_fresh (fresh : g.fresh) : g.unsent := by
  cases g with
  | start | checked | queued => trivial
  | _ => exact fresh.elim

namespace Trail

variable {β : Type} {op : DispOp ι β} {answer : β} {past : List (Event (DispOp ι))} {g' : DispPhase ι}

/-- What a request must do to the marks of a phase. -/
theorem of_next (held : Trail g past)
    (adds : (¬ op.adds answer ∧ (g'.stage.admitted ↔ g.stage.admitted)) ∨
      (op.adds answer ∧ g'.stage.admitted))
    (subs : (¬ op.subs answer ∧ (g'.stage.dismissed ↔ g.stage.dismissed)) ∨
      (op.subs answer ∧ g'.stage.dismissed))
    (holds : (¬ op.acquires answer ∧ ¬ op.releases answer ∧ (g'.stage.holds ↔ g.stage.holds)) ∨
      (op.acquires answer ∧ ¬ op.releases answer ∧ g.fresh ∧ g'.stage.holds) ∨
      (op.releases answer ∧ ¬ g'.stage.holds))
    (fresh : g'.fresh → g.fresh ∧ ¬ op.releases answer)
    (unsent : g'.unsent → g.unsent ∧ ¬ op.is_conn answer)
    (drained : g.drained ∨ op.finds_drained answer → g'.drained) :
    Trail g' (past ++ [⟨op, answer⟩]) := by
  refine ⟨?_, ?_, ?_, fun new => ?_, fun new => ?_, fun did => ?_⟩
  · rcases adds with ⟨none, same⟩ | ⟨here, marked⟩
    · exact (did_snoc_of_not none).trans (held.adds.trans same.symm)
    · exact iff_of_true (did_snoc_of here) marked
  · rcases subs with ⟨none, same⟩ | ⟨here, marked⟩
    · exact (did_snoc_of_not none).trans (held.subs.trans same.symm)
    · exact iff_of_true (did_snoc_of here) marked
  · rcases holds with ⟨none, none', same⟩ | ⟨here, none, new, marked⟩ | ⟨here, unmarked⟩
    · rw [did_snoc_of_not none, did_snoc_of_not none', same]
      exact held.holds
    · rw [did_snoc_of_not none]
      exact iff_of_true ⟨did_snoc_of here, held.fresh new⟩ marked
    · exact iff_of_false (fun both => both.2 (did_snoc_of here)) unmarked
  · rw [did_snoc_of_not (fresh new).2]
    exact held.fresh (fresh new).1
  · rw [did_snoc_of_not (unsent new).2]
    exact held.quiet (unsent new).1
  · exact drained (((did_snoc _ _ _ _).mp did).imp_left held.drained)

/-- A request that concerns neither the permit nor the counter. -/
theorem of_calm (held : Trail g past) (calm : op.calm) (stage : g'.stage = g.stage)
    (fresh : g'.fresh → g.fresh) (unsent : g'.unsent → g.unsent ∧ ¬ op.is_conn answer)
    (drained : g.drained ∨ op.finds_drained answer → g'.drained) :
    Trail g' (past ++ [⟨op, answer⟩]) := by
  obtain ⟨adds, subs, acquires, releases⟩ : ¬ op.adds answer ∧ ¬ op.subs answer ∧
      ¬ op.acquires answer ∧ ¬ op.releases answer := by
    cases op with
    | poll_admission | resume_admission | fetch_add_inflight | fetch_sub_inflight
    | release_permit => exact calm.elim
    | _ => exact ⟨id, id, id, id⟩
  exact held.of_next (.inl ⟨adds, stage ▸ Iff.rfl⟩) (.inl ⟨subs, stage ▸ Iff.rfl⟩)
    (.inl ⟨acquires, releases, stage ▸ Iff.rfl⟩) (fun new => ⟨fresh new, releases⟩) unsent drained

/-- A call that leaves the wait for the permit. -/
theorem of_admission {params : ToolCallParams} {deadline : Option Nat} {admission : Admission}
    (held : Trail g past) (waits : g = .checked params deadline ∨ g = .queued params deadline)
    (calm : ¬ op.adds answer ∧ ¬ op.subs answer ∧ ¬ op.releases answer ∧ ¬ op.is_conn answer ∧
      ¬ op.finds_drained answer) (acquires : op.acquires answer ↔ admission = .acquired true) :
    Trail (after_admission params deadline admission) (past ++ [⟨op, answer⟩]) := by
  obtain ⟨adds, subs, releases, is_conn, finds⟩ := calm
  have undrained : ¬ g.drained := by
    rintro (rfl | rfl) <;> rcases waits with impossible | impossible <;> cases impossible
  have unsent : g.unsent := by rcases waits with rfl | rfl <;> trivial
  have fresh : g.fresh := by rcases waits with rfl | rfl <;> trivial
  have stage : ¬ g.stage.admitted ∧ ¬ g.stage.dismissed ∧ ¬ g.stage.holds := by
    rcases waits with rfl | rfl <;> exact ⟨id, id, id⟩
  have away {p : Prop} : g.drained ∨ op.finds_drained answer → p :=
    fun either => (either.elim undrained finds).elim
  rcases admission with _ | _ | permit
  · exact held.of_next (.inl ⟨adds, iff_of_false id stage.1⟩) (.inl ⟨subs, iff_of_false id stage.2.1⟩)
      (.inl ⟨fun here => (by cases acquires.mp here), releases, iff_of_false id stage.2.2⟩) nofun
      (fun _ => ⟨unsent, is_conn⟩) away
  · exact held.of_next (.inl ⟨adds, iff_of_false id stage.1⟩) (.inl ⟨subs, iff_of_false id stage.2.1⟩)
      (.inl ⟨fun here => (by cases acquires.mp here), releases, iff_of_false id stage.2.2⟩) nofun
      (fun _ => ⟨unsent, is_conn⟩) away
  cases permit with
  | true =>
    exact held.of_next (.inl ⟨adds, iff_of_false id stage.1⟩)
      (.inl ⟨subs, iff_of_false id stage.2.1⟩)
      (.inr (.inl ⟨acquires.mpr rfl, releases, fresh, trivial⟩)) nofun (fun _ => ⟨unsent, is_conn⟩)
      away
  | false =>
    exact held.of_next (.inl ⟨adds, iff_of_false id stage.1⟩)
      (.inl ⟨subs, iff_of_false id stage.2.1⟩)
      (.inl ⟨fun here => (by cases acquires.mp here), releases, iff_of_false id stage.2.2⟩) nofun
      (fun _ => ⟨unsent, is_conn⟩) away

/-- One request of a task leaves the trail its next phase speaks of. -/
theorem step (held : Trail g past) (allowed : dispProtocol.allows g op) :
    Trail (dispProtocol.next g op answer) (past ++ [⟨op, answer⟩]) := by
  have undrained {g g' : DispPhase ι} (refused : g ≠ .refused)
      (away : g ≠ .turned_away .SessionGone) : g.drained ∨ False → g'.drained := by
    rintro ((same | same) | impossible)
    · exact absurd same refused
    · exact absurd same away
    · exact impossible.elim
  cases op with
  | conn op =>
    obtain ⟨site, g', rfl, -⟩ := of_conn allowed
    have sent := not_unsent_settle (ι := ι) site (connProtocol.next g' op answer)
    exact held.of_calm trivial (stage_next_of_calm trivial allowed)
      (fun new => absurd (unsent_of_fresh new) sent) (fun new => absurd new sent)
      (undrained nofun nofun)
  | load_state =>
    obtain ⟨params, deadline, rfl | rfl⟩ := of_load_state allowed
    · cases answer with
      | Open =>
        refine held.of_calm trivial rfl (fun _ => trivial) (fun _ => ⟨trivial, id⟩) ?_
        rintro ((impossible | impossible) | impossible) <;> cases impossible
      | Drained => exact held.of_calm trivial rfl nofun (fun _ => ⟨trivial, id⟩) fun _ => .inr rfl
    · cases answer with
      | Open =>
        refine held.of_calm trivial rfl nofun (fun _ => ⟨trivial, id⟩) ?_
        rintro ((impossible | impossible) | impossible) <;> cases impossible
      | Drained => exact held.of_calm trivial rfl nofun (fun _ => ⟨trivial, id⟩) fun _ => .inl rfl
  | store_drained =>
    obtain rfl := of_store_drained allowed
    exact held.of_calm trivial rfl nofun nofun (undrained nofun nofun)
  | poll_admission deadline =>
    obtain ⟨params, rfl⟩ := of_poll_admission allowed
    cases answer with
    | ready admission =>
      refine held.of_admission (.inl rfl) ⟨id, id, id, id, id⟩ ?_
      exact ⟨AdmissionPoll.ready.inj, congrArg AdmissionPoll.ready⟩
    | queued =>
      exact held.of_next (.inl ⟨id, Iff.rfl⟩) (.inl ⟨id, Iff.rfl⟩) (.inl ⟨nofun, id, Iff.rfl⟩)
        (fun _ => ⟨trivial, id⟩) (fun _ => ⟨trivial, id⟩) (undrained nofun nofun)
  | resume_admission deadline =>
    obtain ⟨params, rfl⟩ := of_resume_admission allowed
    exact held.of_admission (.inr rfl) ⟨id, id, id, id, id⟩ Iff.rfl
  | fetch_add_inflight =>
    obtain ⟨params, deadline, rfl⟩ := of_fetch_add_inflight allowed
    exact held.of_next (.inr ⟨trivial, trivial⟩) (.inl ⟨id, Iff.rfl⟩) (.inl ⟨id, id, Iff.rfl⟩)
      nofun nofun (undrained nofun nofun)
  | fetch_sub_inflight =>
    obtain rfl := of_fetch_sub_inflight allowed
    exact held.of_next (.inl ⟨id, Iff.rfl⟩) (.inr ⟨trivial, trivial⟩) (.inl ⟨id, id, Iff.rfl⟩)
      nofun nofun (undrained nofun nofun)
  | release_permit =>
    rcases of_release_permit allowed with rfl | rfl
    · exact held.of_next (.inl ⟨id, Iff.rfl⟩) (.inl ⟨id, Iff.rfl⟩) (.inr (.inr ⟨trivial, id⟩))
        nofun (fun _ => ⟨trivial, id⟩) fun _ => .inr rfl
    · exact held.of_next (.inl ⟨id, Iff.rfl⟩) (.inl ⟨id, Iff.rfl⟩) (.inr (.inr ⟨trivial, id⟩))
        nofun nofun (undrained nofun nofun)
  | select rx deadline =>
    obtain ⟨n, rfl⟩ := of_select allowed
    have sent : ¬ (dispProtocol.next (.awaiting n rx deadline : DispPhase ι) (.select rx deadline)
        answer).unsent := by
      cases answer with
      | terminal terminal => exact not_unsent_after_terminal n rx terminal
      | cancelled => exact id
    exact held.of_calm trivial (stage_next_of_calm trivial allowed)
      (fun new => absurd (unsent_of_fresh new) sent) (fun new => absurd new sent)
      (undrained nofun nofun)
  | select_cancel_sent rx deadline =>
    obtain ⟨n, rfl⟩ := of_select_cancel_sent allowed
    have sent := not_unsent_after_terminal (ι := ι) n rx answer
    exact held.of_calm trivial (stage_next_of_calm trivial allowed)
      (fun new => absurd (unsent_of_fresh new) sent) (fun new => absurd new sent)
      (undrained nofun nofun)
  | cancel i =>
    obtain rfl := of_cancel allowed
    exact held.of_calm trivial rfl nofun nofun (undrained nofun nofun)
  | tick =>
    obtain rfl := of_tick allowed
    exact held.of_calm trivial rfl nofun nofun (undrained nofun nofun)

end Trail

/-! ## Runs -/

variable {tasks : ι → DispTask ι} {q : Pool ι (DispOp ι) (DispatcherWorld ι) DispReturn}
  {tr : List (PoolEvent ι (DispOp ι))}

/-- The phases of all tasks after a run. -/
def phases [DecidableEq ι] (tasks : ι → DispTask ι) (tr : List (PoolEvent ι (DispOp ι))) : ι → DispPhase ι :=
  Pool.phases dispProtocol (fun i => of_task (tasks i)) tr

theorem stage_of_task (task : DispTask ι) : (of_task task).stage = .out := by
  cases task <;> rfl

theorem standing_new (tasks : ι → DispTask ι) :
    Standing (fun i => (of_task (tasks i)).stage) .new := by
  have out (i : ι) : (of_task (tasks i)).stage = .out := stage_of_task (tasks i)
  refine ⟨⟨.free, Semaphore.Exclusive.new.congr (fun i => ?_) (fun i => ?_)⟩, .inr ⟨rfl, fun i => ?_⟩⟩
  · rw [out i]
    exact ⟨False.elim, nofun⟩
  · rw [out i]
    exact Iff.rfl
  · exact fun counted => by cases (out i).symm.trans counted

/-- The permit and the counter agree with the calls in every run. -/
theorem standing [DecidableEq ι] (run : Pool.Run dispSemantics (dispPool tasks) tr q) :
    Standing (fun i => (phases tasks tr i).stage) q.shared ∧
      ∀ i, dispProtocol.Follows returns (phases tasks tr i) (q.thread i) :=
  run.invariant (I := fun phase w _ => Standing (fun i => (phase i).stage) w)
    (fun i => (tasks i).follows) (standing_new tasks)
    fun _ _ held allowed answered => held.step allowed answered

/-- What a task returned tells the phase it ended in. -/
theorem returned [DecidableEq ι] {value : DispReturn}
    (run : Pool.Run dispSemantics (dispPool tasks) tr q) (done : q.thread i = .ret value) :
    (phases tasks tr i).returns value :=
  Pool.Run.returned (standing run).2 done

theorem Trail.start (task : DispTask ι) : Trail (of_task task) [] := by
  have out : ¬ (of_task task).stage.admitted ∧ ¬ (of_task task).stage.dismissed ∧
      ¬ (of_task task).stage.holds := by
    cases task <;> exact ⟨id, id, id⟩
  exact ⟨iff_of_false (did_nil _) out.1, iff_of_false (did_nil _) out.2.1,
    iff_of_false (fun both => did_nil _ both.1) out.2.2, fun _ => did_nil _, fun _ => did_nil _,
    fun did => absurd did (did_nil _)⟩

/-- The trail of every task of a run. -/
theorem trail [DecidableEq ι] (run : Pool.Run dispSemantics (dispPool tasks) tr q) (i : ι) :
    Trail (phases tasks tr i) (Pool.project i tr) := by
  rw [phases, Pool.phases_eq_after]
  have own : Exec (tasks i).prog (Pool.project i tr) (q.thread i) := run.project i
  exact (tasks i).follows.trail own (.start (tasks i)) fun _ _ held allowed => held.step allowed

end SessionManager
