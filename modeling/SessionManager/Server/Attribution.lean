import SessionManager.Server.Audit

/-!
# Under which id a failure reaches the agent

A masked call draws one correlation id.  Everything it sends to the service and everything it
leaves in the outbox carries it; its failure does, unless the service answered with an error
envelope under another id and the call's terminal event was recorded: `map_client_error` passes
the envelope's own id on.
-/

namespace SessionManager

open Json Effect

open Prog (Ensures Only ensures_ret ensures_perform ensures_op only_perform)

/-! ## What a run of the gate shows -/

/-- The terminal event that closes the call of a request. -/
def ServiceRequest.terminal_event (error_code : String) : ServiceRequest → Option TerminalRequest
  | .preflight request => some
    { schema_version := 1
      call_id := request.call_id
      correlation_id := request.correlation_id
      tool_name := request.tool_name
      error_code := error_code
      scope := .Verified request.instance_id request.cluster_server request.infobase_name request.caller }
  | .finalize request => some
    { schema_version := 1
      call_id := request.call_id
      correlation_id := request.correlation_id
      tool_name := request.tool_name
      error_code := error_code
      scope := .Verified request.instance_id request.cluster_server request.infobase_name request.caller }
  | .terminal _ => none

/-- The ids a run draws. -/
def drawn_id : Event MaskOp → Option String
  | ⟨.new_uuid, uuid⟩ => some uuid
  | _ => none

def drawn_ids (tr : List (Event MaskOp)) : List String := tr.filterMap drawn_id

/-- The outbox was read, and either the event was first there under its call id or it was
written behind the others. -/
def recorded_event (crates : Crates) (event : TerminalRequest) (tr : List (Event MaskOp)) : Prop :=
  valid_terminal crates event = true ∧ ∃ held : List TerminalRequest,
    (⟨.lock_outbox, held⟩ : Event MaskOp) ∈ tr ∧
      (held.find? (fun existing => existing.call_id == event.call_id) = some event ∨
        (⟨.persist (held ++ [event]), true⟩ : Event MaskOp) ∈ tr)

/-- The service refused a request of the call that this event closes with an error envelope
under another id. -/
def Foreign (crates : Crates) (tr : List (Event MaskOp)) (event : TerminalRequest) : Prop :=
  ∃ (request : ServiceRequest) (answer : HttpAnswer) (status : Nat) (error : ServiceError),
    (⟨.post request, answer⟩ : Event MaskOp) ∈ tr ∧
      read_answer crates (fun _ => some ()) answer = .error (.Service status error) ∧
      request.terminal_event (terminal_fallback_code error.code) = some event ∧
      error.correlation_id ≠ event.correlation_id

/-- The service refused the call under another id, and the call's terminal event was recorded. -/
def Misattributed (crates : Crates) (tr : List (Event MaskOp)) : Prop :=
  ∃ event, Foreign crates tr event ∧ recorded_event crates event tr

/-- All that a run sends for its call, and all that it adds to the outbox, is under these ids. -/
structure Carries (call_id correlation_id : String) (tr : List (Event MaskOp)) : Prop where
  posted : ∀ request answer error_code event, (⟨.post request, answer⟩ : Event MaskOp) ∈ tr →
    request.terminal_event error_code = some event →
    event.call_id = call_id ∧ event.correlation_id = correlation_id
  queued : ∀ events written, (⟨.persist events, written⟩ : Event MaskOp) ∈ tr → ∀ event ∈ events,
    (∃ held, (⟨.lock_outbox, held⟩ : Event MaskOp) ∈ tr ∧ event ∈ held) ∨
      event.call_id = call_id ∧ event.correlation_id = correlation_id

/-! ## Closing a call -/

variable {crates : Crates} {event : TerminalRequest} {held : List TerminalRequest}

/-- What happens while the outbox is locked: deliveries, and writes of events that were there or
of the one to record. -/
def settling (held : List TerminalRequest) (event : TerminalRequest) : ∀ {β : Type}, MaskOp β → Prop
  | _, .post (.terminal _) | _, .unlock_outbox => True
  | _, .persist events => ∀ other ∈ events, other ∈ held ∨ other = event
  | _, _ => False

theorem settling_request_json {R : Type} {decode : List UInt8 → Option R} {other : TerminalRequest} :
    (request_json crates decode (.terminal other)).Only (settling held event) := by
  unfold request_json
  split
  · trivial
  · exact ⟨trivial, fun _ => trivial⟩

theorem settling_terminal (other : TerminalRequest) :
    (MaskingServiceClient.terminal crates other).Only (settling held event) := by
  refine Only.bind settling_request_json fun result => ?_
  split
  · exact settling_request_json
  · trivial

theorem settling_flush {events : List TerminalRequest}
    (known : ∀ other ∈ events, other ∈ held ∨ other = event) :
    (MaskingGate.flush_terminal_locked crates events).Only (settling held event) := by
  induction events with
  | nil => trivial
  | cons first rest ih =>
    have later : ∀ other ∈ rest, other ∈ held ∨ other = event :=
      fun other member => known other (List.mem_cons_of_mem _ member)
    refine Only.bind (settling_terminal first) fun result => ?_
    dsimp only
    split
    · trivial
    · refine ⟨later, fun written => ?_⟩
      cases written with
      | true => exact ih later
      | false => trivial

/-- An event is queued, with what is written for it, exactly when it is there or is written. -/
theorem enqueue_records (held : List TerminalRequest) :
    (TerminalOutbox.enqueue crates held event).Ensures fun tr result =>
      (∀ ev ∈ tr, settling held event ev.request) ∧
        (((∃ events, result = .ok events ∧ ∀ other ∈ events, other ∈ held ∨ other = event) ∧
            valid_terminal crates event = true ∧
            (held.find? (fun existing => existing.call_id == event.call_id) = some event ∨
              (⟨.persist (held ++ [event]), true⟩ : Event MaskOp) ∈ tr)) ∨
          ((∃ error, result = .error error) ∧
            ¬ (valid_terminal crates event = true ∧
              (held.find? (fun existing => existing.call_id == event.call_id) = some event ∨
                (⟨.persist (held ++ [event]), true⟩ : Event MaskOp) ∈ tr)))) := by
  unfold TerminalOutbox.enqueue
  cases valid : valid_terminal crates event with
  | false => exact ensures_ret.mpr ⟨by simp, .inr ⟨⟨_, rfl⟩, by simp⟩⟩
  | true =>
    simp only [Bool.not_true, Bool.false_eq_true, if_false]
    cases found : held.find? fun existing => existing.call_id == event.call_id with
    | some existing =>
      dsimp only
      by_cases same : existing = event
      · rw [if_pos same]
        exact ensures_ret.mpr ⟨by simp, .inl ⟨⟨held, rfl, fun other member => .inl member⟩, by simp,
          .inl (by rw [same])⟩⟩
      · rw [if_neg same]
        exact ensures_ret.mpr ⟨by simp, .inr ⟨⟨_, rfl⟩, by simp [same]⟩⟩
    | none =>
      dsimp only
      split
      · exact ensures_ret.mpr ⟨by simp, .inr ⟨⟨_, rfl⟩, by simp⟩⟩
      · refine ensures_perform.mpr fun written => ?_
        have known : ∀ other ∈ held ++ [event], other ∈ held ∨ other = event := by simp
        have settled : ∀ ev ∈ [(⟨.persist (held ++ [event]), written⟩ : Event MaskOp)],
            settling held event ev.request := by
          rintro ev member
          rw [List.mem_singleton.mp member]
          exact known
        cases written with
        | true => exact ensures_ret.mpr ⟨settled, .inl ⟨⟨_, rfl, known⟩, by simp, .inr (by simp)⟩⟩
        | false => exact ensures_ret.mpr ⟨settled, .inr ⟨⟨_, rfl⟩, by simp⟩⟩

def is_persist : ∀ {β : Type}, MaskOp β → Prop
  | _, .persist _ => True
  | _, _ => False

/-- While an outbox is locked it is not locked again. -/
theorem lock_unique {rest : List (Event MaskOp)} {other : List TerminalRequest}
    (settled : ∀ ev ∈ rest, settling held event ev.request)
    (member : (⟨.lock_outbox, other⟩ : Event MaskOp) ∈ (⟨.lock_outbox, held⟩ : Event MaskOp) :: rest) :
    other = held := by
  rcases List.mem_cons.mp member with same | later
  · cases same
    rfl
  · exact (settled _ later).elim

/-- A failure is reported as it is where the event is recorded, and as unavailable history where
it is not. -/
theorem close_attributes {gate : MaskingGate} (enabled : gate.enabled = true) (failure : MaskingFailure)
    (correlation_id : String) :
    (gate.close crates event failure correlation_id).Ensures fun tr result =>
      ∃ held rest, tr = ⟨.lock_outbox, held⟩ :: rest ∧
        (∀ ev ∈ rest, settling held event ev.request) ∧
        (recorded_event crates event tr ∧ result = failure ∨
          ¬ recorded_event crates event tr ∧ result = history_unavailable correlation_id) := by
  have recording : (gate.record_terminal crates event).Ensures fun tr result =>
      ∃ held rest, tr = ⟨.lock_outbox, held⟩ :: rest ∧
        (∀ ev ∈ rest, settling held event ev.request) ∧
        (recorded_event crates event tr ∧ result = .ok () ∨
          ¬ recorded_event crates event tr ∧ ∃ error, result = .error error) := by
    unfold MaskingGate.record_terminal
    simp only [enabled, Bool.not_true, Bool.false_eq_true, if_false]
    refine ensures_perform.mpr fun held => ?_
    refine Ensures.bind (enqueue_records held) fun tr result queued => ?_
    obtain ⟨settled, ⟨⟨events, rfl, known⟩, valid, there⟩ | ⟨⟨error, rfl⟩, missing⟩⟩ := queued
    · refine Ensures.bind (settling_flush known).ensures fun tr' _ delivered => ?_
      refine ensures_perform.mpr fun _ => ensures_ret.mpr ⟨held, _, rfl, ?_, .inl ⟨⟨valid, held, ?_⟩, rfl⟩⟩
      · simp only [List.mem_append, List.mem_singleton]
        rintro ev (before | during | rfl)
        · exact settled ev before
        · exact delivered ev during
        · trivial
      · exact ⟨by simp, there.imp_right fun member => by simp [member]⟩
    · refine ensures_perform.mpr fun _ => ensures_ret.mpr ⟨held, _, rfl, ?_, .inr ⟨?_, error, rfl⟩⟩
      · simp only [List.mem_append, List.mem_singleton]
        rintro ev (before | rfl)
        · exact settled ev before
        · trivial
      · rintro ⟨valid, other, locked, there⟩
        refine missing ⟨valid, ?_⟩
        have settled' : ∀ ev ∈ tr ++ [(⟨.unlock_outbox, ()⟩ : Event MaskOp)],
            settling held event ev.request := by
          simp only [List.mem_append, List.mem_singleton]
          rintro ev (before | rfl)
          · exact settled ev before
          · trivial
        cases lock_unique settled' locked
        refine there.imp_right fun member => ?_
        have is_write {ev : Event MaskOp} (other : ¬ is_persist ev.request) :
            (⟨.persist (held ++ [event]), true⟩ : Event MaskOp) ≠ ev :=
          Event.ne_of (P := is_persist) trivial other
        rcases List.mem_cons.mp member with locking | member
        · exact absurd locking (is_write id)
        · refine (List.mem_append.mp member).resolve_right fun unlocking => ?_
          exact is_write id (List.mem_singleton.mp unlocking)
  refine Ensures.bind recording fun tr result recorded => ?_
  obtain ⟨held, rest, rfl, settled, ⟨done, rfl⟩ | ⟨failed, error, rfl⟩⟩ := recorded
  · refine ensures_ret.mpr ⟨held, rest, by rw [List.append_nil], settled, .inl ⟨?_, rfl⟩⟩
    rwa [List.append_nil]
  · refine ensures_ret.mpr ⟨held, rest, by rw [List.append_nil], settled, .inr ⟨?_, rfl⟩⟩
    rwa [List.append_nil]

/-! ## The exchanges of a call -/

section Exchanges

variable {R : Type} {decode : List UInt8 → Option R} {context : MaskingCallContext}
  {tr tr' : List (Event MaskOp)}

/-- The call is closed with the event of its context. -/
def Belongs (context : MaskingCallContext) (request : ServiceRequest) : Prop :=
  ∀ error_code, request.terminal_event error_code =
    some (MaskingGate.verified_terminal context error_code)

/-- An error envelope is one whatever else would have been read. -/
theorem service_error_iff {answer : HttpAnswer} {status : Nat} {error : ServiceError} :
    read_answer crates decode answer = .error (.Service status error) ↔
      read_answer crates (fun _ => some ()) answer = .error (.Service status error) := by
  cases answer with
  | reply code body =>
    simp only [read_answer]
    split
    · simp
    · split
      · cases decode body <;> simp
      · cases crates.service_error body <;> simp
  | _ => simp [read_answer]

/-- Requests of one call to the service, and the error envelope they end with if they do. -/
structure Exchange (crates : Crates) (context : MaskingCallContext) (tr : List (Event MaskOp))
    (result : Except ClientError R) : Prop where
  only : ∀ ev ∈ tr, ∃ request answer, Belongs context request ∧ ev = ⟨.post request, answer⟩
  envelope : ∀ status error, result = .error (.Service status error) ↔
    ∃ request answer, (⟨.post request, answer⟩ : Event MaskOp) ∈ tr ∧
      read_answer crates (fun _ => some ()) answer = .error (.Service status error)

theorem Exchange.single {request : ServiceRequest} (belongs : Belongs context request)
    (answer : HttpAnswer) :
    Exchange crates context [⟨.post request, answer⟩] (read_answer crates decode answer) where
  only ev member := ⟨request, answer, belongs, List.mem_singleton.mp member⟩
  envelope status error := by
    rw [service_error_iff]
    constructor
    · exact fun read => ⟨request, answer, by simp, read⟩
    · rintro ⟨request', answer', member, read⟩
      cases List.mem_singleton.mp member
      exact read

theorem Exchange.none : Exchange crates context [] (.error .InvalidResponse : Except ClientError R) where
  only ev member := by cases member
  envelope status error := by simp

theorem exchange_request_json {request : ServiceRequest} (belongs : Belongs context request) :
    (request_json crates decode request).Ensures (Exchange crates context) := by
  refine request_json_ensures.mono fun tr result sent => ?_
  rcases sent with ⟨rfl, rfl⟩ | ⟨answer, rfl, rfl⟩
  · exact .none
  · exact .single belongs answer

theorem exchange_request_twice {request : ServiceRequest} (belongs : Belongs context request) :
    (request_twice crates decode request).Ensures (Exchange crates context) := by
  refine Ensures.bind (exchange_request_json belongs) fun tr result first => ?_
  split
  · refine (exchange_request_json belongs).mono fun tr' result second => ⟨?_, fun status error => ?_⟩
    · intro ev member
      exact (List.mem_append.mp member).elim (first.only ev) (second.only ev)
    · rw [second.envelope]
      refine exists_congr fun request => exists_congr fun answer => and_congr_left fun read => ?_
      rw [List.mem_append, or_iff_right]
      intro early
      cases (first.envelope status error).mpr ⟨request, answer, early, read⟩
  · refine ensures_ret.mpr ?_
    rwa [List.append_nil]

/-- Belonging requests are those of preflight and finalize. -/
theorem Belongs.ids {request : ServiceRequest} (belongs : Belongs context request) {error_code : String}
    (closes : request.terminal_event error_code = some event) :
    event.call_id = context.call_id ∧ event.correlation_id = context.correlation_id := by
  rw [belongs error_code, Option.some.injEq] at closes
  rw [← closes]
  exact ⟨rfl, rfl⟩

/-- The refusal under another id, told from the result. -/
theorem Exchange.foreign_iff {result : Except ClientError R} (sent : Exchange crates context tr result) :
    Foreign crates tr event ↔ ∃ status error, result = .error (.Service status error) ∧
      event = MaskingGate.verified_terminal context (terminal_fallback_code error.code) ∧
      error.correlation_id ≠ context.correlation_id := by
  constructor
  · rintro ⟨request, answer, status, error, posted, read, closes, other⟩
    obtain ⟨request', answer', belongs, same⟩ := sent.only _ posted
    cases same
    refine ⟨status, error, (sent.envelope status error).mpr ⟨_, _, posted, read⟩, ?_, ?_⟩
    · rw [belongs, Option.some.injEq] at closes
      exact closes.symm
    · rwa [(belongs.ids closes).2] at other
  · rintro ⟨status, error, rfl, rfl, other⟩
    obtain ⟨request, answer, posted, read⟩ := (sent.envelope status error).mp rfl
    obtain ⟨request', answer', belongs, same⟩ := sent.only _ posted
    cases same
    exact ⟨_, _, status, error, posted, read, belongs _, other⟩

end Exchanges

/-! ## A failed segment -/

section Segments

variable {call_id correlation_id : String} {before : List (Event MaskOp)} {failure failure' : MaskingFailure}

/-- What a run of the gate that ends in a failure shows of the call's ids. -/
structure Attributed (crates : Crates) (call_id correlation_id : String) (tr : List (Event MaskOp))
    (failure : MaskingFailure) : Prop where
  carries : Carries call_id correlation_id tr
  stored : (∃ event, event.call_id = call_id ∧ event.correlation_id = correlation_id ∧
      recorded_event crates event tr) ∨ failure = history_unavailable correlation_id
  exact : failure.correlation_id = correlation_id ↔ ¬ Misattributed crates tr

/-- Requests of the call to the service, before it is closed. -/
def Posting (call_id correlation_id : String) (ev : Event MaskOp) : Prop :=
  ∃ request answer, ev = ⟨.post request, answer⟩ ∧ ∀ error_code event,
    request.terminal_event error_code = some event →
      event.call_id = call_id ∧ event.correlation_id = correlation_id

def is_post : ∀ {β : Type}, MaskOp β → Prop
  | _, .post _ => True
  | _, _ => False

/-- Uses of the outbox. -/
def touches : ∀ {β : Type}, MaskOp β → Prop
  | _, .lock_outbox | _, .persist _ | _, .unlock_outbox => True
  | _, _ => False

theorem Posting.untouched {ev : Event MaskOp} (posting : Posting call_id correlation_id ev) :
    ¬ touches ev.request := by
  obtain ⟨request, answer, rfl, -⟩ := posting
  exact id

/-- The outbox is only touched after the exchanges. -/
theorem touches_append {tr : List (Event MaskOp)} (ev : Event MaskOp)
    (untouched : ∀ ev ∈ before, ¬ touches ev.request) (touching : touches ev.request) :
    ev ∈ before ++ tr ↔ ev ∈ tr := by
  rw [List.mem_append, or_iff_right]
  exact fun member => untouched ev member touching

theorem recorded_append {tr : List (Event MaskOp)} (event : TerminalRequest)
    (untouched : ∀ ev ∈ before, ¬ touches ev.request) :
    recorded_event crates event (before ++ tr) ↔ recorded_event crates event tr := by
  refine and_congr_right fun _ => exists_congr fun held => and_congr ?_ (or_congr_right ?_)
  · exact touches_append _ untouched trivial
  · exact touches_append _ untouched trivial

theorem foreign_append {tr : List (Event MaskOp)} {event : TerminalRequest} :
    Foreign crates (before ++ tr) event ↔ Foreign crates before event ∨ Foreign crates tr event := by
  constructor
  · rintro ⟨request, answer, status, error, posted, refused⟩
    rcases List.mem_append.mp posted with early | late
    · exact .inl ⟨request, answer, status, error, early, refused⟩
    · exact .inr ⟨request, answer, status, error, late, refused⟩
  · rintro (⟨request, answer, status, error, posted, refused⟩ | ⟨request, answer, status, error, posted, refused⟩)
    · exact ⟨request, answer, status, error, List.mem_append_left _ posted, refused⟩
    · exact ⟨request, answer, status, error, List.mem_append_right _ posted, refused⟩

/-- A call that is closed after its exchanges. -/
theorem Attributed.of_close {rest : List (Event MaskOp)}
    (posting : ∀ ev ∈ before, Posting call_id correlation_id ev)
    (own : event.call_id = call_id ∧ event.correlation_id = correlation_id)
    (settled : ∀ ev ∈ rest, settling held event ev.request)
    (closed : recorded_event crates event (⟨.lock_outbox, held⟩ :: rest) ∧ failure' = failure ∨
      ¬ recorded_event crates event (⟨.lock_outbox, held⟩ :: rest) ∧
        failure' = history_unavailable correlation_id)
    (sole : ∀ event', Foreign crates before event' → event' = event)
    (foreign : failure.correlation_id = correlation_id ↔ ¬ ∃ event', Foreign crates before event') :
    Attributed crates call_id correlation_id (before ++ ⟨.lock_outbox, held⟩ :: rest) failure' := by
  have no_post {request : ServiceRequest} {answer : HttpAnswer} {error_code : String}
      {event' : TerminalRequest} (closes : request.terminal_event error_code = some event')
      (posted : (⟨.post request, answer⟩ : Event MaskOp) ∈ before ++ ⟨.lock_outbox, held⟩ :: rest) :
      (⟨.post request, answer⟩ : Event MaskOp) ∈ before := by
    rcases List.mem_append.mp posted with early | late
    · exact early
    · rcases List.mem_cons.mp late with same | late
      · exact absurd same (Event.ne_of (P := is_post) trivial id)
      · have settles := settled _ late
        cases request with
        | terminal event => cases closes
        | _ => exact settles.elim
  have untouched : ∀ ev ∈ before, ¬ touches ev.request := fun ev member => (posting ev member).untouched
  have misattributed : Misattributed crates (before ++ ⟨.lock_outbox, held⟩ :: rest) ↔
      (∃ event', Foreign crates before event') ∧
        recorded_event crates event (⟨.lock_outbox, held⟩ :: rest) := by
    constructor
    · rintro ⟨event', ⟨request, answer, status, error, posted, read, closes, other⟩, recorded⟩
      have here : Foreign crates before event' :=
        ⟨request, answer, status, error, no_post closes posted, read, closes, other⟩
      rw [recorded_append event' untouched, sole event' here] at recorded
      exact ⟨⟨event', here⟩, recorded⟩
    · rintro ⟨⟨event', here⟩, recorded⟩
      have same := sole event' here
      obtain ⟨request, answer, status, error, posted, read, closes, other⟩ := here
      refine ⟨event', ⟨request, answer, status, error, List.mem_append_left _ posted, read, closes, other⟩, ?_⟩
      rwa [recorded_append event' untouched, same]
  refine ⟨⟨?_, ?_⟩, ?_, ?_⟩
  · intro request answer error_code event' posted closes
    obtain ⟨request', answer', same, ids⟩ := posting _ (no_post closes posted)
    cases same
    exact ids error_code event' closes
  · intro events written member event' listed
    rw [touches_append ⟨.persist events, written⟩ untouched trivial] at member
    rcases List.mem_cons.mp member with same | late
    · exact absurd same (Event.ne_of (P := is_persist) trivial id)
    · rcases settled _ late event' listed with before | rfl
      · exact .inl ⟨held, by simp, before⟩
      · exact .inr own
  · rcases closed with ⟨recorded, -⟩ | ⟨-, unavailable⟩
    · exact .inl ⟨event, own.1, own.2, (recorded_append event untouched).mpr recorded⟩
    · exact .inr unavailable
  · rw [misattributed]
    rcases closed with ⟨recorded, rfl⟩ | ⟨unrecorded, rfl⟩
    · rw [foreign, and_iff_left recorded]
    · exact iff_of_true rfl fun both => unrecorded both.2

variable {R : Type} {context : MaskingCallContext}

theorem Exchange.posting {result : Except ClientError R} {tr : List (Event MaskOp)}
    (sent : Exchange crates context tr result) :
    ∀ ev ∈ tr, Posting context.call_id context.correlation_id ev := by
  intro ev member
  obtain ⟨request, answer, belongs, rfl⟩ := sent.only ev member
  exact ⟨request, answer, rfl, fun error_code event closes => belongs.ids closes⟩

/-- The exit of preflight and finalize over an error. -/
theorem close_error_attributed {gate : MaskingGate} (enabled : gate.enabled = true) {error : ClientError}
    (sent : Exchange crates context before (.error error : Except ClientError R)) :
    (gate.close_error crates context error).Ensures fun tr failure =>
      Attributed crates context.call_id context.correlation_id (before ++ tr) failure := by
  refine (close_attributes enabled _ _).mono ?_
  rintro tr failure ⟨held, rest, rfl, settled, closed⟩
  have own (error_code : String) :
      (MaskingGate.verified_terminal context error_code).call_id = context.call_id ∧
        (MaskingGate.verified_terminal context error_code).correlation_id = context.correlation_id :=
    ⟨rfl, rfl⟩
  refine .of_close sent.posting (own _) settled closed ?_ ?_
  · intro event' foreign
    obtain ⟨status, error', same, rfl, -⟩ := sent.foreign_iff.mp foreign
    cases same
    rfl
  · simp only [sent.foreign_iff]
    cases error with
    | Service status error => simp [map_client_error]
    | _ => simp [map_client_error, MaskingFailure.with_correlation]

theorem close_invalid_attributed {gate : MaskingGate} (enabled : gate.enabled = true) {response : R}
    (sent : Exchange crates context before (.ok response)) :
    (gate.close_invalid crates context).Ensures fun tr failure =>
      Attributed crates context.call_id context.correlation_id (before ++ tr) failure := by
  refine (close_attributes enabled _ _).mono ?_
  rintro tr failure ⟨held, rest, rfl, settled, closed⟩
  have none (event' : TerminalRequest) : ¬ Foreign crates before event' := by
    simp [sent.foreign_iff]
  refine .of_close sent.posting ⟨rfl, rfl⟩ settled closed (fun event' foreign => absurd foreign (none event')) ?_
  simp [none, MaskingGate.masking_failed, MaskingFailure.with_correlation]

/-- A failed segment after requests of the same call that met no refusal under another id. -/
theorem Attributed.prepend {tr : List (Event MaskOp)}
    (attributed : Attributed crates call_id correlation_id tr failure)
    (preparing : ∀ ev ∈ before, (∃ uuid, ev = ⟨.new_uuid, uuid⟩) ∨ Posting call_id correlation_id ev)
    (accepted : ∀ event, ¬ Foreign crates before event) :
    Attributed crates call_id correlation_id (before ++ tr) failure := by
  have untouched : ∀ ev ∈ before, ¬ touches ev.request := by
    intro ev member
    rcases preparing ev member with ⟨uuid, rfl⟩ | posting
    · exact id
    · exact posting.untouched
  refine ⟨⟨?_, ?_⟩, ?_, ?_⟩
  · intro request answer error_code event posted closes
    rcases List.mem_append.mp posted with early | late
    · rcases preparing _ early with ⟨uuid, same⟩ | ⟨request', answer', same, ids⟩
      · exact absurd same (Event.ne_of (P := is_post) trivial id)
      · cases same
        exact ids error_code event closes
    · exact attributed.carries.posted request answer error_code event late closes
  · intro events written member event listed
    rw [touches_append ⟨.persist events, written⟩ untouched trivial] at member
    refine (attributed.carries.queued events written member event listed).imp_left ?_
    rintro ⟨held, locked, known⟩
    exact ⟨held, List.mem_append_right _ locked, known⟩
  · refine attributed.stored.imp_left ?_
    rintro ⟨event, own, own', recorded⟩
    exact ⟨event, own, own', (recorded_append event untouched).mpr recorded⟩
  · rw [attributed.exact, not_iff_not]
    refine exists_congr fun event => and_congr ?_ (recorded_append event untouched).symm
    rw [foreign_append, or_iff_right (accepted event)]

theorem drawn_append (tr tr' : List (Event MaskOp)) : drawn_ids (tr ++ tr') = drawn_ids tr ++ drawn_ids tr' :=
  List.filterMap_append

/-- Closing requests draw no ids. -/
theorem drawn_eq_nil {tr : List (Event MaskOp)} (quiet : ∀ ev ∈ tr, closing ev.request ∨ is_post ev.request) :
    drawn_ids tr = [] := by
  rw [drawn_ids, List.filterMap_eq_nil_iff]
  rintro ⟨request, answer⟩ member
  cases request with
  | new_uuid => exact (quiet _ member).elim False.elim False.elim
  | _ => rfl

end Segments

/-! ## Preflight and finalize -/

section Calls

variable {gate : MaskingGate} {context : MaskingCallContext}

theorem preflight_attributed (enabled : gate.enabled = true) (arguments : Value) :
    (gate.preflight crates context arguments).Ensures fun tr result => drawn_ids tr = [] ∧
      match result with
      | .ok _ => (∀ ev ∈ tr, Posting context.call_id context.correlation_id ev) ∧
          ∀ event, ¬ Foreign crates tr event
      | .error failure => Attributed crates context.call_id context.correlation_id tr failure := by
  have belongs : Belongs context (.preflight (MaskingGate.preflight_request context arguments)) :=
    fun _ => rfl
  have sending : (MaskingServiceClient.preflight crates
      (MaskingGate.preflight_request context arguments)).Ensures (Exchange crates context) :=
    exchange_request_json belongs
  refine Ensures.bind sending fun tr result sent => ?_
  have undrawn : drawn_ids tr = [] := drawn_eq_nil fun ev member => by
    obtain ⟨request, answer, -, rfl⟩ := sent.only ev member
    exact .inr trivial
  cases result with
  | error error =>
    refine Ensures.bind ((close_error_attributed enabled sent).and (close_closing gate _ _).ensures)
      fun tr' failure closed => ensures_ret.mpr ?_
    rw [List.append_nil, drawn_append, undrawn, drawn_eq_nil fun ev member => .inl (closed.2 ev member)]
    exact ⟨rfl, closed.1⟩
  | ok response =>
    dsimp only
    split
    · refine Ensures.bind ((close_invalid_attributed enabled sent).and (close_closing gate _ _).ensures)
        fun tr' failure closed => ensures_ret.mpr ?_
      rw [List.append_nil, drawn_append, undrawn, drawn_eq_nil fun ev member => .inl (closed.2 ev member)]
      exact ⟨rfl, closed.1⟩
    · refine ensures_ret.mpr ?_
      rw [List.append_nil]
      exact ⟨undrawn, sent.posting, fun event => by simp [sent.foreign_iff]⟩

theorem exchange_finalize (outcome : FinalizeOutcome) (field_sources : Option Value) :
    (MaskingServiceClient.finalize crates
      (MaskingGate.finalize_request context outcome field_sources)).Ensures (Exchange crates context) := by
  unfold MaskingServiceClient.finalize serialize_finalize_request
  split
  · rename_i error unserialized
    split at unserialized
    · cases unserialized
    · split at unserialized <;> cases unserialized
      exact ensures_ret.mpr .none
  · rename_i request serialized
    refine exchange_request_twice ?_
    split at serialized
    · cases serialized
      exact fun _ => rfl
    · split at serialized <;> cases serialized
      exact fun _ => rfl

theorem finalize_attributed (enabled : gate.enabled = true) (outcome : FinalizeOutcome)
    (field_sources : Option Value) :
    (gate.finalize crates context outcome field_sources).Ensures fun tr result => drawn_ids tr = [] ∧
      ∀ failure, result = .error failure →
        Attributed crates context.call_id context.correlation_id tr failure := by
  refine Ensures.bind (exchange_finalize outcome field_sources) fun tr result sent => ?_
  have undrawn : drawn_ids tr = [] := drawn_eq_nil fun ev member => by
    obtain ⟨request, answer, -, rfl⟩ := sent.only ev member
    exact .inr trivial
  have closed {exit : Prog MaskOp MaskingFailure}
      (attributed : exit.Ensures fun tr' failure =>
        Attributed crates context.call_id context.correlation_id (tr ++ tr') failure)
      (only : exit.Only closing) :
      (exit >>= fun failure => (pure (.error failure) : Prog MaskOp (Except MaskingFailure ToolCallResult))).Ensures
        fun tr' result => drawn_ids (tr ++ tr') = [] ∧ ∀ failure, result = .error failure →
          Attributed crates context.call_id context.correlation_id (tr ++ tr') failure := by
    refine Ensures.bind (attributed.and only.ensures) fun tr' failure ended => ensures_ret.mpr ?_
    rw [List.append_nil, drawn_append, undrawn, drawn_eq_nil fun ev member => .inl (ended.2 ev member)]
    refine ⟨rfl, ?_⟩
    rintro _ ⟨⟩
    exact ended.1
  cases result with
  | error error => exact closed (close_error_attributed enabled sent) (close_closing gate _ _)
  | ok response =>
    dsimp only
    split
    · exact closed (close_invalid_attributed enabled sent) (close_closing gate _ _)
    · refine ensures_ret.mpr ?_
      rw [List.append_nil]
      exact ⟨undrawn, fun failure same => by cases same⟩

/-- A gate that lets a call pass has drawn its ids and met no refusal; a gate that does not has
attributed the failure. -/
theorem pass_gate_attributed (caller : CallerInfo) (name : String) (record : SessionRecord)
    (arguments : Value) :
    (pass_gate crates gate caller name record arguments).Ensures fun tr result =>
      match result with
      | .ok (none, _) => True
      | .ok (some context, _) => gate.enabled = true ∧
          drawn_ids tr = [context.call_id, context.correlation_id] ∧
          (∀ ev ∈ tr, (∃ uuid, ev = ⟨.new_uuid, uuid⟩) ∨ Posting context.call_id context.correlation_id ev) ∧
          ∀ event, ¬ Foreign crates tr event
      | .error failure => ∃ call_id correlation_id, drawn_ids tr = [call_id, correlation_id] ∧
          Attributed crates call_id correlation_id tr failure := by
  unfold pass_gate
  split
  · exact ensures_ret.mpr trivial
  · rename_i disabled
    have enabled : gate.enabled = true := by simpa using disabled
    refine ensures_perform.mpr fun call_id => ensures_perform.mpr fun correlation_id => ?_
    -- the two ids are drawn before anything else
    have draws : ∀ ev ∈ [(⟨.new_uuid, call_id⟩ : Event MaskOp), ⟨.new_uuid, correlation_id⟩],
        ∃ uuid, ev = ⟨.new_uuid, uuid⟩ := by
      simp
    have no_refusal (event : TerminalRequest) :
        ¬ Foreign crates [(⟨.new_uuid, call_id⟩ : Event MaskOp), ⟨.new_uuid, correlation_id⟩] event := by
      rintro ⟨request, answer, status, error, posted, -⟩
      obtain ⟨uuid, same⟩ := draws _ posted
      exact absurd same (Event.ne_of (P := is_post) trivial id)
    have first {tr : List (Event MaskOp)} {failure : MaskingFailure} (undrawn : drawn_ids tr = [])
        (attributed : Attributed crates call_id correlation_id tr failure) :
        ∃ call_id' correlation_id',
          drawn_ids (⟨.new_uuid, call_id⟩ :: ⟨.new_uuid, correlation_id⟩ :: tr) = [call_id', correlation_id'] ∧
            Attributed crates call_id' correlation_id'
              (⟨.new_uuid, call_id⟩ :: ⟨.new_uuid, correlation_id⟩ :: tr) failure := by
      have attributed' := attributed.prepend (fun ev member => .inl (draws ev member)) no_refusal
      refine ⟨call_id, correlation_id, ?_, attributed'⟩
      have all := drawn_append [⟨.new_uuid, call_id⟩, ⟨.new_uuid, correlation_id⟩] tr
      rw [undrawn] at all
      exact all
    dsimp only
    split
    · refine Ensures.bind ((close_attributes enabled _ _).and (close_closing gate _ _).ensures)
        fun tr failure closed => ensures_ret.mpr ?_
      obtain ⟨⟨held, rest, rfl, settled, ended⟩, quiet⟩ := closed
      rw [List.append_nil]
      refine first (drawn_eq_nil fun ev member => .inl (quiet ev member)) ?_
      have nothing (event : TerminalRequest) : ¬ Foreign crates [] event := by
        rintro ⟨request, answer, status, error, posted, -⟩
        cases posted
      have attributed : Attributed crates call_id correlation_id ([] ++ ⟨.lock_outbox, held⟩ :: rest) failure :=
        .of_close (by simp) ⟨rfl, rfl⟩ settled ended (fun event foreign => absurd foreign (nothing event))
          (by simp [nothing, unverified, MaskingFailure.with_correlation])
      exact attributed
    · rename_i identity _
      refine Ensures.bind (preflight_attributed enabled arguments) fun tr result passed => ?_
      cases result with
      | error failure =>
        refine ensures_ret.mpr ?_
        rw [List.append_nil]
        exact first passed.1 passed.2
      | ok arguments =>
        refine ensures_ret.mpr ?_
        rw [List.append_nil]
        obtain ⟨undrawn, posting, accepted⟩ := passed
        have all := drawn_append [⟨.new_uuid, call_id⟩, ⟨.new_uuid, correlation_id⟩] tr
        rw [undrawn] at all
        refine ⟨enabled, all, ?_, fun event foreign => ?_⟩
        · rintro ev member
          rcases List.mem_append.mp (show ev ∈ [_, _] ++ tr from member) with early | late
          · exact .inl (draws ev early)
          · exact .inr (posting ev late)
        · rcases foreign_append.mp (show Foreign crates ([_, _] ++ tr) event from foreign) with early | late
          · exact no_refusal event early
          · exact accepted event late

end Calls

/-! ## The whole call -/

section Whole

variable (crates) (gate : MaskingGate) (caller : CallerInfo)

/-- What the agent is told of a call that ends in an answer or in a failure of the gate. -/
def agent_answer : Except MaskingFailure ProxyAnswer → ProxyAnswer
  | .ok answer => answer
  | .error failure => .ok (masking_failure_response failure)

/-- `answer_outcome` with the failure kept apart. -/
def outcome_apart (context : Option MaskingCallContext)
    (outcome : Except DispatcherError ToolCallResult) : Prog MaskOp (Except MaskingFailure ProxyAnswer) :=
  match context with
  | none => return .ok (dispatcher_outcome_to_call_result outcome)
  | some context => do
    let (outcome, field_sources) := finalize_outcome crates outcome
    match ← gate.finalize crates context outcome field_sources with
    | .ok result => return .ok (dispatcher_outcome_to_call_result (.ok result))
    | .error failure => return .error failure

/-- `forward` with the failure kept apart. -/
def forward_apart (resolved : ResolvedCall) (record : SessionRecord)
    (context : Option MaskingCallContext) (arguments : Value) (no_deadline_requested : Bool) :
    Prog ProxyOp (Except MaskingFailure ProxyAnswer) :=
  match record.connection with
  | none => return .ok (.error (internal_error
      ("session '" ++ resolved.session_id ++ "' has no active connection")))
  | some connection => do
    match ← proxy_call_deadline record.kind no_deadline_requested with
    | .error error => return .ok (.error error)
    | .ok deadline =>
      let now ← Prog.perform .now
      let _ ← Prog.perform (.reg (.bump_last_call resolved.session_id now))
      let outcome ← Prog.perform
        (.enqueue record.dispatcher connection { name := resolved.tool_name, arguments } deadline)
      (outcome_apart crates gate context outcome).lift .mask

/-- `call_proxy_tool_inner` with the failure kept apart. -/
def call_apart (request : CallToolRequestParams) : Prog ProxyOp (Except MaskingFailure ProxyAnswer) :=
  match extract_manager_arguments request.arguments with
  | .error error => return .ok (.error error)
  | .ok (arguments, requested_session_id, no_deadline_requested) => do
    match ← (route crates request.name requested_session_id).lift .reg with
    | .error answer => return .ok answer
    | .ok (resolved, record) =>
      match ← (pass_gate crates gate caller request.name record arguments).lift .mask with
      | .error failure => return .error failure
      | .ok (context, arguments) =>
        forward_apart crates gate resolved record context arguments no_deadline_requested

theorem answer_outcome_eq (context : Option MaskingCallContext)
    (outcome : Except DispatcherError ToolCallResult) :
    answer_outcome crates gate context outcome =
      outcome_apart crates gate context outcome >>= fun result => .ret (agent_answer result) := by
  unfold answer_outcome outcome_apart
  cases context with
  | none => rfl
  | some context =>
    dsimp only
    rw [Prog.bind_assoc]
    congr 1
    funext result
    cases result <;> rfl

theorem forward_eq (resolved : ResolvedCall) (record : SessionRecord)
    (context : Option MaskingCallContext) (arguments : Value) (no_deadline_requested : Bool) :
    forward crates gate resolved record context arguments no_deadline_requested =
      forward_apart crates gate resolved record context arguments no_deadline_requested >>=
        fun result => .ret (agent_answer result) := by
  unfold forward forward_apart
  cases record.connection with
  | none => rfl
  | some connection =>
    dsimp only
    rw [Prog.bind_assoc]
    congr 1
    funext deadline
    cases deadline with
    | error error => rfl
    | ok deadline => simp only [Prog.perform_bind, Prog.op_bind, answer_outcome_eq, Prog.lift_bind, Prog.lift_ret]

/-- The call ends in the answers of the call whose failures are kept apart. -/
theorem call_eq (request : CallToolRequestParams) :
    call_proxy_tool_inner crates gate caller request =
      call_apart crates gate caller request >>= fun result => .ret (agent_answer result) := by
  unfold call_proxy_tool_inner call_apart
  cases extract_manager_arguments request.arguments with
  | error error => rfl
  | ok extracted =>
    dsimp only
    rw [Prog.bind_assoc]
    congr 1
    funext routed
    cases routed with
    | error answer => rfl
    | ok target =>
      dsimp only
      rw [Prog.bind_assoc]
      congr 1
      funext passed
      cases passed with
      | error failure => rfl
      | ok passed => exact forward_eq ..

end Whole

/-- The gate's part of a request of the call. -/
def gate_event : Event ProxyOp → Option (Event MaskOp)
  | ⟨.mask op, answer⟩ => some ⟨op, answer⟩
  | _ => none

def gate_trace (tr : List (Event ProxyOp)) : List (Event MaskOp) := tr.filterMap gate_event

section Runs

variable {gate : MaskingGate}

theorem gate_trace_append (tr tr' : List (Event ProxyOp)) :
    gate_trace (tr ++ tr') = gate_trace tr ++ gate_trace tr' :=
  List.filterMap_append

theorem gate_trace_mask (tr : List (Event MaskOp)) : gate_trace (mask_events tr) = tr := by
  rw [gate_trace, List.filterMap_map]
  exact List.filterMap_some

theorem gate_trace_reg (tr : List (Event RegOp)) : gate_trace (reg_events tr) = [] := by
  rw [gate_trace, List.filterMap_map, List.filterMap_eq_nil_iff]
  exact fun _ _ => rfl

/-- What follows a passed gate fails in finalize only. -/
theorem forward_attributed (resolved : ResolvedCall) (record : SessionRecord)
    (context : Option MaskingCallContext) (arguments : Value) (no_deadline_requested : Bool)
    (masked : ∀ passed, context = some passed → gate.enabled = true) :
    (forward_apart crates gate resolved record context arguments no_deadline_requested).Ensures
      fun tr result => ∀ failure, result = .error failure → ∃ passed, context = some passed ∧
        drawn_ids (gate_trace tr) = [] ∧
        Attributed crates passed.call_id passed.correlation_id (gate_trace tr) failure := by
  unfold forward_apart
  cases record.connection with
  | none => exact ensures_ret.mpr fun failure same => by cases same
  | some connection =>
    have timed : (proxy_call_deadline record.kind no_deadline_requested).Ensures
        fun tr _ => gate_trace tr = [] := by
      unfold proxy_call_deadline
      split
      · split <;> exact ensures_ret.mpr rfl
      · exact ensures_perform.mpr fun _ => ensures_ret.mpr rfl
    refine Ensures.bind timed fun tr deadline unmasked => ?_
    cases deadline with
    | error error => exact ensures_ret.mpr fun failure same => by cases same
    | ok deadline =>
      refine ensures_perform.mpr fun now => ensures_perform.mpr fun bumped => ensures_perform.mpr fun outcome => ?_
      have settling : (outcome_apart crates gate context outcome).Ensures fun tr result =>
          ∀ failure, result = .error failure → ∃ passed, context = some passed ∧
            drawn_ids tr = [] ∧ Attributed crates passed.call_id passed.correlation_id tr failure := by
        unfold outcome_apart
        cases context with
        | none => exact ensures_ret.mpr fun failure same => by cases same
        | some context =>
          dsimp only
          refine Ensures.bind (finalize_attributed (masked context rfl) _ _) fun tr result ended => ?_
          cases result with
          | ok result => exact ensures_ret.mpr fun failure same => by cases same
          | error failure =>
            refine ensures_ret.mpr ?_
            rw [List.append_nil]
            rintro _ ⟨⟩
            exact ⟨context, rfl, ended.1, ended.2 failure rfl⟩
      refine settling.lift.mono ?_
      rintro _ result ⟨tr', rfl, ended⟩ failure same
      obtain ⟨passed, here, undrawn, attributed⟩ := ended failure same
      have only_gate : gate_trace (tr ++ ⟨.now, now⟩ :: ⟨.reg (.bump_last_call resolved.session_id now), bumped⟩ ::
          ⟨.enqueue record.dispatcher connection { name := resolved.tool_name, arguments } deadline, outcome⟩ ::
            mask_events tr') = tr' := by
        rw [gate_trace_append, unmasked, List.nil_append]
        exact gate_trace_mask tr'
      rw [only_gate]
      exact ⟨passed, here, undrawn, attributed⟩

/-- The failure of a call is under the one correlation id it drew, sent and recorded, exactly when
the service did not refuse it under another and have it recorded. -/
theorem failure_keeps_its_correlation_id (crates : Crates) (gate : MaskingGate) (caller : CallerInfo)
    (request : CallToolRequestParams) :
    call_proxy_tool_inner crates gate caller request =
        call_apart crates gate caller request >>= (fun result => .ret (agent_answer result)) ∧
      ∀ tr failure, Exec (call_apart crates gate caller request) tr (.ret (.error failure)) →
        ∃ call_id correlation_id, drawn_ids (gate_trace tr) = [call_id, correlation_id] ∧
          Carries call_id correlation_id (gate_trace tr) ∧
          ((∃ event, event.call_id = call_id ∧ event.correlation_id = correlation_id ∧
              recorded_event crates event (gate_trace tr)) ∨
            failure = history_unavailable correlation_id) ∧
          (failure.correlation_id = correlation_id ↔ ¬ Misattributed crates (gate_trace tr)) := by
  refine ⟨call_eq crates gate caller request, ?_⟩
  suffices (call_apart crates gate caller request).Ensures fun tr result =>
      ∀ failure, result = .error failure → ∃ call_id correlation_id,
        drawn_ids (gate_trace tr) = [call_id, correlation_id] ∧
          Attributed crates call_id correlation_id (gate_trace tr) failure by
    intro tr failure run
    obtain ⟨call_id, correlation_id, drew, attributed⟩ := this tr _ run failure rfl
    exact ⟨call_id, correlation_id, drew, attributed.carries, attributed.stored, attributed.exact⟩
  unfold call_apart
  cases extract_manager_arguments request.arguments with
  | error error => exact ensures_ret.mpr fun failure same => by cases same
  | ok extracted =>
    have routing : (route crates request.name extracted.2.1).Ensures fun _ _ => True := fun _ _ _ => trivial
    refine Ensures.bind routing.lift fun tr routed before => ?_
    obtain ⟨tr, rfl, -⟩ := before
    have unmasked : gate_trace (tr.map fun ev => ⟨.reg ev.request, ev.answer⟩) = [] := gate_trace_reg tr
    cases routed with
    | error answer => exact ensures_ret.mpr fun failure same => by cases same
    | ok target =>
      dsimp only
      refine Ensures.bind (pass_gate_attributed caller request.name target.2 extracted.1).lift
        fun tr' passed during => ?_
      obtain ⟨tr', rfl, during⟩ := during
      have masked : gate_trace (tr'.map fun ev => ⟨.mask ev.request, ev.answer⟩) = tr' := gate_trace_mask tr'
      cases passed with
      | error failure =>
        refine ensures_ret.mpr ?_
        rintro _ ⟨⟩
        rw [List.append_nil, gate_trace_append, unmasked, masked, List.nil_append]
        exact during
      | ok passed =>
        obtain ⟨context, arguments⟩ := passed
        have enabled : ∀ passed, context = some passed → gate.enabled = true := by
          rintro passed rfl
          exact during.1
        refine (forward_attributed target.1 target.2 context arguments extracted.2.2 enabled).mono ?_
        intro tr'' result ended failure same
        obtain ⟨passed, rfl, undrawn, attributed⟩ := ended failure same
        obtain ⟨-, drew, preparing, accepted⟩ := during
        refine ⟨passed.call_id, passed.correlation_id, ?_, ?_⟩
        · rw [gate_trace_append, gate_trace_append, unmasked, masked, List.nil_append, drawn_append,
            undrawn, drew, List.append_nil]
        · rw [gate_trace_append, gate_trace_append, unmasked, masked, List.nil_append]
          exact attributed.prepend preparing accepted

end Runs

/-! ## An envelope with an id of its own -/

/-- The service refuses under an id of its own. -/
def refusing_crates : Crates :=
  { permissive_crates with
    service_error := fun _ => some
      { code := "SERVICE_NOT_READY", message := "not ready", correlation_id := "another"
        retryable := true, retry_after_s := none } }

def refusal : MaskingFailure where
  code := "SERVICE_NOT_READY"
  message := "not ready"
  correlation_id := "another"
  retry_after_s := none

def refused_event : TerminalRequest :=
  MaskingGate.verified_terminal lone_client_context "SERVICE_NOT_READY"

theorem exec_request_json {R : Type} {decode : List UInt8 → Option R} {request : ServiceRequest}
    (small : request.body.utf8ByteSize ≤ MAX_INTERNAL_BODY_BYTES) (answer : HttpAnswer) :
    Exec (request_json crates decode request) [⟨.post request, answer⟩]
      (.ret (read_answer crates decode answer)) := by
  rw [request_json, if_neg (Nat.not_lt.mpr small)]
  exact .step answer (.refl _)

/-- The refusal is recorded, and the event is delivered at once. -/
theorem exec_refused_close :
    Exec (masking_on.close refusing_crates refused_event refusal "correlation")
      [⟨.lock_outbox, []⟩, ⟨.persist [refused_event], true⟩, ⟨.post (.terminal refused_event), allowed⟩,
        ⟨.persist [], true⟩, ⟨.unlock_outbox, ()⟩]
      (.ret refusal) := by
  have delivered : Exec (MaskingServiceClient.terminal refusing_crates refused_event)
      [⟨.post (.terminal refused_event), allowed⟩]
      (.ret (.ok { schema_version := 1, status := "recorded" })) :=
    (exec_request_json (by decide +kernel) allowed).bind (.refl _)
  have flushed : Exec (MaskingGate.flush_terminal_locked refusing_crates [refused_event])
      [⟨.post (.terminal refused_event), allowed⟩, ⟨.persist [], true⟩] (.ret ()) :=
    delivered.bind (.step true (.refl _))
  have queued : Exec (TerminalOutbox.enqueue refusing_crates [] refused_event)
      [⟨.persist [refused_event], true⟩] (.ret (.ok [refused_event])) := by
    have valid : valid_terminal refusing_crates refused_event = true := by decide
    rw [TerminalOutbox.enqueue, valid]
    exact .step true (.refl _)
  have recorded : Exec (masking_on.record_terminal refusing_crates refused_event)
      [⟨.lock_outbox, []⟩, ⟨.persist [refused_event], true⟩, ⟨.post (.terminal refused_event), allowed⟩,
        ⟨.persist [], true⟩, ⟨.unlock_outbox, ()⟩] (.ret (.ok ())) :=
    .step [] (queued.bind (flushed.bind (.step () (.refl _))))
  exact recorded.bind (.refl _)

def refused_trace : List (Event ProxyOp) :=
  reg_events [⟨.snapshot, [lone_client]⟩, ⟨.get "s", some lone_client⟩] ++
    (mask_events [⟨.new_uuid, "call"⟩, ⟨.new_uuid, "correlation"⟩,
      ⟨.post (.preflight (MaskingGate.preflight_request lone_client_context (.object []))), .reply 503 []⟩,
      ⟨.lock_outbox, []⟩, ⟨.persist [refused_event], true⟩, ⟨.post (.terminal refused_event), allowed⟩,
      ⟨.persist [], true⟩, ⟨.unlock_outbox, ()⟩] ++ [])

theorem refused_call_run :
    Exec (call_apart refusing_crates masking_on anonymous plain_call) refused_trace
      (.ret (.error refusal)) := by
  have routed : Exec (route refusing_crates "t" none)
      [⟨.snapshot, [lone_client]⟩, ⟨.get "s", some lone_client⟩]
      (.ret (.ok ({ session_id := "s", tool_name := "t" }, lone_client))) := by
    refine .step [lone_client] ?_
    exact .step (some lone_client) (.refl _)
  have asked : Exec (MaskingServiceClient.preflight refusing_crates
        (MaskingGate.preflight_request lone_client_context (.object [])))
      [⟨.post (.preflight (MaskingGate.preflight_request lone_client_context (.object []))), .reply 503 []⟩]
      (.ret (read_answer refusing_crates refusing_crates.preflight_response (.reply 503 []))) :=
    exec_request_json (by decide +kernel) _
  have refused : Exec (pass_gate refusing_crates masking_on anonymous "t" lone_client (.object []))
      [⟨.new_uuid, "call"⟩, ⟨.new_uuid, "correlation"⟩,
        ⟨.post (.preflight (MaskingGate.preflight_request lone_client_context (.object []))), .reply 503 []⟩,
        ⟨.lock_outbox, []⟩, ⟨.persist [refused_event], true⟩, ⟨.post (.terminal refused_event), allowed⟩,
        ⟨.persist [], true⟩, ⟨.unlock_outbox, ()⟩] (.ret (.error refusal)) := by
    have preflighted : Exec (masking_on.preflight refusing_crates lone_client_context (.object []))
        [⟨.post (.preflight (MaskingGate.preflight_request lone_client_context (.object []))), .reply 503 []⟩,
          ⟨.lock_outbox, []⟩, ⟨.persist [refused_event], true⟩, ⟨.post (.terminal refused_event), allowed⟩,
          ⟨.persist [], true⟩, ⟨.unlock_outbox, ()⟩] (.ret (.error refusal)) :=
      asked.bind (exec_refused_close.bind (.refl _))
    have verified : MaskingGate.verify_database lone_client = some lone_client_context.database := rfl
    rw [pass_gate, verified, if_neg (by decide), Prog.perform_bind]
    refine .step "call" ?_
    rw [Prog.perform_bind]
    exact .step "correlation" (preflighted.bind (.refl _))
  exact routed.lift.bind (refused.lift.bind (.refl _))

/-- The agent is told an id that the call never had. -/
theorem another_id_reaches_the_agent :
    ∃ tr failure, Exec (call_proxy_tool_inner refusing_crates masking_on anonymous plain_call) tr
        (.ret (.ok (masking_failure_response failure))) ∧
      drawn_ids (gate_trace tr) = ["call", "correlation"] ∧ failure.correlation_id = "another" := by
  refine ⟨refused_trace ++ [], refusal, ?_, rfl, rfl⟩
  rw [call_eq]
  exact refused_call_run.bind (.refl _)

theorem refused_call_misattributed : Misattributed refusing_crates (gate_trace refused_trace) := by
  obtain ⟨call_id, correlation_id, drew, -, -, iff⟩ :=
    (failure_keeps_its_correlation_id refusing_crates masking_on anonymous plain_call).2 _ _ refused_call_run
  have ids : ["call", "correlation"] = [call_id, correlation_id] := drew
  cases ids
  by_contra attributed
  exact absurd (iff.mpr attributed) (by decide)

end SessionManager
