import SessionManager.Http.Admission

/-!
# Reservations are settled once and never exceed the limit

A request is at a stage of its reservation, and the places that are reserved are those of the
requests that hold one (`Balanced`).  Every section keeps this, so it holds in every
interleaving.
-/

namespace SessionManager

open Effect

open Prog (perform)

open Protocol (follows_perform)

/-! ## Stages of a request -/

inductive ReservationStage
  | unreserved
  | held
  | settled
  deriving DecidableEq, Repr

/-- A place is reserved once, and given back or confirmed by who holds it. -/
def reservationProtocol : Protocol AdmissionOp ReservationStage where
  allows stage _ op :=
    match op with
    | .reserve => stage = .unreserved
    | .confirm _ | .release => stage = .held
    | _ => True
  next stage _ op answer :=
    match op, answer with
    | .reserve, reserved => if reserved then .held else stage
    | .confirm _, _ | .release, _ => .settled
    | _, _ => stage

/-- A program that has ended holds no place. -/
def Settling (stage : ReservationStage) (_ : HttpReply) : Prop := stage ≠ .held

section Requests

theorem settling_unreserved (reply : HttpReply) :
    reservationProtocol.Follows Settling .unreserved (.ret reply) := by
  simp [Settling]

theorem settling_settled (reply : HttpReply) :
    reservationProtocol.Follows Settling .settled (.ret reply) := by
  simp [Settling]

theorem initialize_session_follows (body : List UInt8) :
    reservationProtocol.Follows Settling .unreserved (initialize_session body) := by
  refine follows_perform.mpr ⟨rfl, fun reserved => ?_⟩
  cases reserved with
  | false => exact settling_unreserved _
  | true =>
    refine follows_perform.mpr ⟨trivial, fun answer => ?_⟩
    cases answer with
    | none => exact ⟨rfl, fun _ => settling_settled _⟩
    | some response =>
      dsimp only
      split
      · cases response.session_id with
        | none => exact ⟨rfl, fun _ => settling_settled _⟩
        | some session_id => exact ⟨rfl, fun _ => settling_settled _⟩
      · exact ⟨rfl, fun _ => settling_settled _⟩

theorem forward_request_follows (request : McpRequest) (body : List UInt8) :
    reservationProtocol.Follows Settling .unreserved (forward_request request body) := by
  refine follows_perform.mpr ⟨trivial, fun answer => ?_⟩
  cases answer with
  | none => exact settling_unreserved _
  | some response =>
    dsimp only
    split
    · cases request.session_id with
      | none => exact settling_unreserved _
      | some session_id => exact ⟨trivial, fun _ => settling_unreserved _⟩
    · exact settling_unreserved _

theorem handle_follows (from_slice : List UInt8 → Option Json.Value) (stateful_sessions : Bool)
    (request : McpRequest) :
    reservationProtocol.Follows Settling .unreserved
      (HttpMcpService.handle from_slice stateful_sessions request) := by
  unfold HttpMcpService.handle
  split
  · exact settling_unreserved _
  · dsimp only
    split
    · exact settling_unreserved _
    · split
      · exact forward_request_follows request _
      · split
        · exact ⟨trivial, fun _ => settling_unreserved _⟩
        · split
          · exact settling_unreserved _
          · exact initialize_session_follows _

theorem change_sessions_follows (changes : List (Finset String)) :
    reservationProtocol.Follows Settling .unreserved (change_sessions changes) := by
  induction changes with
  | nil => simp [change_sessions, Settling]
  | cons live_sessions rest ih => exact ⟨trivial, fun _ => ih⟩

theorem task_follows_reservation (task : AdmissionTask) :
    reservationProtocol.Follows Settling .unreserved task.prog := by
  cases task with
  | handle from_slice stateful_sessions request => exact handle_follows from_slice stateful_sessions request
  | sessions changes => exact change_sessions_follows changes

end Requests

/-! ## The reservations of one request -/

/-- A place was reserved. -/
def reserved_by : Event AdmissionOp → Bool
  | ⟨.reserve, reserved⟩ => reserved
  | _ => false

/-- A reservation was confirmed, or given back. -/
def settled_by : Event AdmissionOp → Bool
  | ⟨.confirm _, _⟩ | ⟨.release, _⟩ => true
  | _ => false

def reservations (tr : List (Event AdmissionOp)) : Nat := tr.countP reserved_by

def settlements (tr : List (Event AdmissionOp)) : Nat := tr.countP settled_by

/-- A reservation was made and is neither confirmed nor given back yet. -/
def Outstanding (tr : List (Event AdmissionOp)) : Prop := settlements tr < reservations tr

/-- What the stage of a request says about its past. -/
def Recounts (stage : ReservationStage) (tr : List (Event AdmissionOp)) : Prop :=
  match stage with
  | .unreserved => reservations tr = 0 ∧ settlements tr = 0
  | .held => reservations tr = 1 ∧ settlements tr = 0
  | .settled => reservations tr = 1 ∧ settlements tr = 1

@[simp] theorem reservations_snoc (past : List (Event AdmissionOp)) (event : Event AdmissionOp) :
    reservations (past ++ [event]) = reservations past + (reserved_by event).toNat := by
  rw [reservations, List.countP_append, List.countP_singleton, reservations]
  cases reserved_by event <;> rfl

@[simp] theorem settlements_snoc (past : List (Event AdmissionOp)) (event : Event AdmissionOp) :
    settlements (past ++ [event]) = settlements past + (settled_by event).toNat := by
  rw [settlements, List.countP_append, List.countP_singleton, settlements]
  cases settled_by event <;> rfl

theorem Recounts.step {stage : ReservationStage} {past : List (Event AdmissionOp)} {β : Type}
    (op : AdmissionOp β) (answer : β) (recounts : Recounts stage past)
    (allowed : reservationProtocol.allows stage op) :
    Recounts (reservationProtocol.next stage op answer) (past ++ [⟨op, answer⟩]) := by
  cases op with
  | reserve =>
    have start : stage = .unreserved := allowed
    subst start
    cases answer with
    | true => simpa [Recounts, reservationProtocol, reserved_by, settled_by] using recounts
    | false => simpa [Recounts, reservationProtocol, reserved_by, settled_by] using recounts
  | confirm session_id =>
    have holding : stage = .held := allowed
    subst holding
    simpa [Recounts, reservationProtocol, reserved_by, settled_by] using recounts
  | release =>
    have holding : stage = .held := allowed
    subst holding
    simpa [Recounts, reservationProtocol, reserved_by, settled_by] using recounts
  | _ =>
    cases stage <;> simpa [Recounts, reservationProtocol, reserved_by, settled_by] using recounts

theorem Recounts.outstanding_iff {stage : ReservationStage} {tr : List (Event AdmissionOp)}
    (recounts : Recounts stage tr) : Outstanding tr ↔ stage = .held := by
  unfold Outstanding
  cases stage with
  | unreserved => simp [recounts.1, recounts.2]
  | held => simp [recounts.1, recounts.2]
  | settled => simp [recounts.1, recounts.2]

/-! ## The places -/

section Places

variable {ι : Type} {admission : HttpSessionAdmission} {stage : ι → ReservationStage}
  {w w' : AdmissionWorld}

/-- The reserved places are those that are held, and with the sessions they keep to the limit. -/
structure Balanced (admission : HttpSessionAdmission) (stage : ι → ReservationStage)
    (w : AdmissionWorld) : Prop where
  held : {i | stage i = .held}.encard = w.state.reserved
  limit : w.state.active_sessions.card + w.state.reserved ≤ admission.max_sessions

variable [DecidableEq ι] {i : ι}

theorem held_take (free : stage i ≠ .held) :
    {j | Function.update stage i .held j = .held}.encard = {j | stage j = .held}.encard + 1 := by
  have grown : {j | Function.update stage i .held j = .held} = insert i {j | stage j = .held} := by
    ext j
    by_cases here : j = i
    · subst here
      simp
    · simp [here]
  have absent : i ∉ {j | stage j = .held} := free
  rw [grown, Set.encard_insert_of_notMem absent]

/-- Who holds a place shows that one is reserved. -/
theorem held_give_back {next : ReservationStage} (held : stage i = .held) (other : next ≠ .held) :
    {j | Function.update stage i next j = .held}.encard + 1 = {j | stage j = .held}.encard := by
  have shrunk : {j | stage j = .held} = insert i {j | Function.update stage i next j = .held} := by
    ext j
    by_cases here : j = i
    · subst here
      simp [held]
    · simp [here]
  rw [shrunk, Set.encard_insert_of_notMem (by simpa using other)]

theorem Balanced.positive (balanced : Balanced admission stage w) (held : stage i = .held) :
    0 < w.state.reserved := by
  have one := held_give_back held (show ReservationStage.settled ≠ .held by decide)
  rw [balanced.held] at one
  by_contra none
  have zero : w.state.reserved = 0 := by omega
  simp [zero] at one

/-- A settled reservation was counted. -/
theorem Balanced.give_back (balanced : Balanced admission stage w) (held : stage i = .held) :
    {j | Function.update stage i ReservationStage.settled j = .held}.encard =
      ((w.state.reserved - 1 : Nat) : ℕ∞) := by
  have one := held_give_back held (show ReservationStage.settled ≠ .held by decide)
  have positive := balanced.positive held
  have again : w.state.reserved = (w.state.reserved - 1) + 1 := by omega
  rw [balanced.held, again, Nat.cast_add, Nat.cast_one] at one
  exact ENat.add_left_injective_of_ne_top ENat.one_ne_top one

/-- **One section.** -/
theorem Balanced.step {β : Type} {op : AdmissionOp β} {answer : β} (balanced : Balanced admission stage w)
    (allowed : reservationProtocol.allows (stage i) op) (answered : op.Answers admission w answer w') :
    Balanced admission (Function.update stage i (reservationProtocol.next (stage i) op answer)) w' := by
  have limit := balanced.limit
  have positive (here : stage i = .held) := balanced.positive here
  have unmoved : {j | Function.update stage i (stage i) j = .held}.encard = w.state.reserved := by
    rw [Function.update_eq_self]
    exact balanced.held
  cases answered with
  | reserve =>
    have free : stage i ≠ .held := by
      have start : stage i = .unreserved := allowed
      simp [start]
    have fewer : (w.state.prune w.live_sessions).active_sessions.card ≤ w.state.active_sessions.card :=
      Finset.card_filter_le ..
    have same : (w.state.prune w.live_sessions).reserved = w.state.reserved := rfl
    unfold HttpSessionAdmissionState.reserve_initialize
    dsimp only
    split
    · refine ⟨unmoved, ?_⟩
      dsimp only
      omega
    · refine ⟨?_, ?_⟩
      · have taken := held_take free
        rw [balanced.held] at taken
        simpa [reservationProtocol, same] using taken
      · dsimp only
        omega
  | confirm session_id =>
    have here : stage i = .held := allowed
    have more := Finset.card_insert_le session_id w.state.active_sessions
    have one := positive here
    refine ⟨balanced.give_back here, ?_⟩
    simp only [HttpSessionAdmissionState.confirm]
    omega
  | release =>
    have here : stage i = .held := allowed
    refine ⟨balanced.give_back here, ?_⟩
    simp only [HttpSessionAdmissionState.release]
    omega
  | remove session_id =>
    have fewer := Finset.card_erase_le (s := w.state.active_sessions) (a := session_id)
    refine ⟨unmoved, ?_⟩
    simp only [HttpSessionAdmissionState.remove]
    omega
  | inner_handle body response => exact ⟨unmoved, limit⟩
  | set_sessions live_sessions => exact ⟨unmoved, limit⟩

end Places

/-! ## Every interleaving -/

section Runs

variable {ι : Type} [DecidableEq ι] {max_sessions : Nat} {tasks : ι → AdmissionTask}
  {live_sessions : Finset String}

/-- No place is reserved and no session confirmed; the session manager may have any. -/
def admission_pool (tasks : ι → AdmissionTask) (live_sessions : Finset String) :
    Pool ι AdmissionOp AdmissionWorld HttpReply where
  shared := { state := .default, live_sessions }
  thread i := (tasks i).prog

abbrev AdmissionRun (max_sessions : Nat) (tasks : ι → AdmissionTask) (live_sessions : Finset String)
    (tr : List (PoolEvent ι AdmissionOp)) (q : Pool ι AdmissionOp AdmissionWorld HttpReply) : Prop :=
  Pool.Run (fun _ w _ op answer w' => op.Answers (.new max_sessions) w answer w')
    (admission_pool tasks live_sessions) tr q

variable {tr : List (PoolEvent ι AdmissionOp)} {q : Pool ι AdmissionOp AdmissionWorld HttpReply}

/-- The stage of each request after a run. -/
def stages (tr : List (PoolEvent ι AdmissionOp)) : ι → ReservationStage :=
  Pool.phases reservationProtocol (fun _ => .unreserved) tr

theorem balanced_run (run : AdmissionRun max_sessions tasks live_sessions tr q) :
    Balanced (.new max_sessions) (stages tr) q.shared ∧
      ∀ i, reservationProtocol.Follows Settling (stages tr i) (q.thread i) := by
  refine run.invariant (I := fun stage w _ => Balanced (.new max_sessions) stage w)
    (fun i => task_follows_reservation (tasks i)) ?_ ?_
  · refine ⟨?_, ?_⟩
    · simp [admission_pool, HttpSessionAdmissionState.default]
    · simp [admission_pool, HttpSessionAdmissionState.default]
  · exact fun op answer balanced allowed answered => balanced.step allowed answered

theorem recounts_run (run : AdmissionRun max_sessions tasks live_sessions tr q) (i : ι) :
    Recounts (stages tr i) (Pool.project i tr) := by
  rw [stages, Pool.phases_eq_after]
  exact (task_follows_reservation (tasks i)).trail (run.project i) ⟨rfl, rfl⟩
    fun op answer recounts allowed => recounts.step op answer allowed

theorem outstanding_run (run : AdmissionRun max_sessions tasks live_sessions tr q) :
    {i | Outstanding (Pool.project i tr)}.encard = q.shared.state.reserved := by
  rw [← (balanced_run run).1.held]
  congr 1
  ext i
  exact (recounts_run run i).outstanding_iff

/-- A request that gives its place back or has it confirmed is one that holds it. -/
theorem held_of_settled {i : ι} {event : Event AdmissionOp} {s s' : Pool ι AdmissionOp AdmissionWorld HttpReply}
    (follows : reservationProtocol.Follows Settling (stages tr i) (s.thread i))
    (step : Pool.Step (fun _ w _ op answer w' => op.Answers (.new max_sessions) w answer w') s ⟨i, event⟩ s')
    (settled : settled_by event = true) : stages tr i = .held := by
  cases step with
  | @step w w' thread i β op k answer here answered =>
    have following : reservationProtocol.Follows Settling (stages tr i) (.op op k) := here ▸ follows
    cases op with
    | confirm session_id => exact following.1
    | release => exact following.1
    | _ => simp [settled_by] at settled

/-- What a request for a place is told. -/
def AdmissionOp.told (admission : HttpSessionAdmission) (w : AdmissionWorld) :
    ∀ {β : Type}, AdmissionOp β → β → Prop
  | _, .reserve, reserved =>
    reserved = ( w.state.reserve_initialize admission w.live_sessions).1
  | _, _, _ => True

theorem AdmissionOp.Answers.told {admission : HttpSessionAdmission} {w w' : AdmissionWorld} {β : Type}
    {op : AdmissionOp β} {answer : β} (answered : op.Answers admission w answer w') :
    op.told admission w answer := by
  cases answered with
  | reserve => rfl
  | _ => trivial

/-- A request is turned away when no place is left once the sessions are pruned. -/
theorem refused_of_step {i : ι} {s s' : Pool ι AdmissionOp AdmissionWorld HttpReply}
    (step : Pool.Step (fun _ w _ op answer w' => op.Answers (.new max_sessions) w answer w') s
      ⟨i, ⟨.reserve, false⟩⟩ s') :
    (HttpSessionAdmission.new max_sessions).max_sessions ≤
      (s.shared.state.active_sessions.filter (· ∈ s.shared.live_sessions)).card +
        s.shared.state.reserved := by
  cases step with
  | step here answered =>
    have refused : false = _ := answered.told
    unfold HttpSessionAdmissionState.reserve_initialize at refused
    dsimp only at refused
    split at refused
    · assumption
    · cases refused

/-- **HTTP admission, in every interleaving.**  Confirmed sessions and reserved places together keep
to the limit; the places are those of the reservations that are outstanding, so that what is given
back was always counted; each reservation is settled once; and a request is only turned away when
the live sessions and the outstanding reservations have reached the limit. -/
theorem http_admission (run : AdmissionRun max_sessions tasks live_sessions tr q) :
    q.shared.state.active_sessions.card + q.shared.state.reserved ≤ max 1 max_sessions ∧
      {i | Outstanding (Pool.project i tr)}.encard = q.shared.state.reserved ∧
      (∀ i, settlements (Pool.project i tr) ≤ reservations (Pool.project i tr) ∧
        reservations (Pool.project i tr) ≤ 1 ∧
        ∀ reply, q.thread i = .ret reply →
          settlements (Pool.project i tr) = reservations (Pool.project i tr)) ∧
      (∀ a i event b, tr = a ++ ⟨i, event⟩ :: b → settled_by event = true →
        ∃ s, AdmissionRun max_sessions tasks live_sessions a s ∧ 0 < s.shared.state.reserved) ∧
      ∀ a i b, tr = a ++ ⟨i, ⟨.reserve, false⟩⟩ :: b →
        ∃ s, AdmissionRun max_sessions tasks live_sessions a s ∧
          ((max 1 max_sessions : Nat) : ℕ∞) ≤
            (s.shared.state.active_sessions.filter (· ∈ s.shared.live_sessions)).card +
              {j | Outstanding (Pool.project j a)}.encard := by
  obtain ⟨balanced, follows⟩ := balanced_run run
  refine ⟨?_, outstanding_run run, fun i => ?_, ?_, ?_⟩
  · have limit := balanced.limit
    simp only [HttpSessionAdmission.new] at limit
    omega
  · have recounts := recounts_run run i
    refine ⟨?_, ?_, fun reply done => ?_⟩
    · cases stage : stages tr i <;> simp [Recounts, stage] at recounts <;> omega
    · cases stage : stages tr i <;> simp [Recounts, stage] at recounts <;> omega
    · have ended : stages tr i ≠ .held := by
        have here := follows i
        rw [done] at here
        exact here
      cases stage : stages tr i with
      | held => exact absurd stage ended
      | _ =>
        simp only [Recounts, stage] at recounts
        omega
  · rintro a i event b rfl settled
    obtain ⟨s, s', before, step, -⟩ := run.split
    obtain ⟨balanced, follows⟩ := balanced_run before
    exact ⟨s, before, balanced.positive (held_of_settled (follows i) step settled)⟩
  · rintro a i b rfl
    obtain ⟨s, s', before, step, -⟩ := run.split
    refine ⟨s, before, ?_⟩
    rw [outstanding_run before]
    have full := refused_of_step step
    simp only [HttpSessionAdmission.new] at full
    exact_mod_cast (max_comm 1 max_sessions).le.trans full

end Runs

/-! ## Two requests for one place -/

def initialize_request : McpRequest where
  method := .POST
  session_id := none
  authorized := true
  valid_streamable_post_headers := true
  body := []

/-- Every body asks for a session. -/
def read_initialize (_ : List UInt8) : Option Json.Value :=
  some (.object [("method", .string "initialize")])

def two_requests (_ : Bool) : AdmissionTask := .handle read_initialize true initialize_request

/-- The service opens one session after another under the same id. -/
def open_session (_ : Bool) (w : AdmissionWorld) : ∀ {β : Type}, AdmissionOp β → Option (β × AdmissionWorld)
  | _, .reserve =>
    let (reserved, state) := w.state.reserve_initialize (.new 0) w.live_sessions
    some (reserved, { w with state })
  | _, .confirm session_id => some ((), { w with state := w.state.confirm session_id })
  | _, .release => some ((), { w with state := w.state.release })
  | _, .remove session_id => some ((), { w with state := w.state.remove session_id })
  | _, .inner_handle _ => some (some { status := 200, session_id := some "s" }, w)
  | _, .set_sessions live_sessions => some ((), { w with live_sessions })

theorem open_session_answers {i : Bool} {w w' : AdmissionWorld} {β : Type} {op : AdmissionOp β} {answer : β}
    (opened : open_session i w op = some (answer, w')) : op.Answers (.new 0) w answer w' := by
  cases op with
  | reserve =>
    cases opened
    exact .reserve
  | confirm session_id =>
    cases opened
    exact .confirm session_id
  | release =>
    cases opened
    exact .release
  | remove session_id =>
    cases opened
    exact .remove session_id
  | inner_handle body =>
    cases opened
    exact .inner_handle body _
  | set_sessions live_sessions =>
    cases opened
    exact .set_sessions live_sessions

/-- One request gets the only place, the other is turned away, and the first is confirmed. -/
def one_place_run := Pool.play open_session [true, false, true, true] (admission_pool two_requests {"s"})

theorem one_place_is_kept :
    one_place_run.2.shared.state.active_sessions.card + one_place_run.2.shared.state.reserved ≤ max 1 0 ∧
      settlements (Pool.project true one_place_run.1) = reservations (Pool.project true one_place_run.1) := by
  have run : AdmissionRun 0 two_requests {"s"} one_place_run.1 one_place_run.2 :=
    Pool.Run.play (fun _ _ _ _ _ _ => open_session_answers) _ _
  have admitted := http_admission run
  have done : one_place_run.2.thread true = .ret (.of_service (some { status := 200, session_id := some "s" })) :=
    rfl
  exact ⟨admitted.1, (admitted.2.2.1 true).2.2 _ done⟩

end SessionManager
