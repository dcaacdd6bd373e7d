import SessionManager.Server.CallLog
import SessionManager.Server.Surroundings

/-!
# Which calls leave a trace with the masking service

A call that has drawn its call id is meant to end in an accepted finalize, in a terminal event
in the outbox, or in an answer that says the history is unavailable.  `audited_iff` tells
exactly when it does: two exits between preflight and finalize close nothing.
-/

namespace SessionManager

open Json Effect

open Prog (Ensures Only ensures_ret ensures_perform only_perform)

variable (crates : Crates)

/-- The service accepted a finalize of this call. -/
def accepts (call_id : String) : ∀ {β : Type}, MaskOp β → β → Prop
  | _, .post (.finalize request), answer =>
      request.call_id = call_id ∧ ∃ response,
        read_answer crates crates.finalize_response answer = .ok response ∧
          response.schema_version = 1
  | _, _, _ => False

/-- A terminal event of this call is in the outbox, where it was found or put. -/
def queues (call_id : String) : ∀ {β : Type}, MaskOp β → β → Prop
  | _, .persist events, persisted => persisted = true ∧ ∃ event ∈ events, event.call_id = call_id
  | _, .lock_outbox, events => ∃ event ∈ events, event.call_id = call_id
  | _, _, _ => False

def closes (call_id : String) : ∀ {β : Type}, MaskOp β → β → Prop :=
  fun op answer => accepts crates call_id op answer ∨ queues call_id op answer

/-- The service allowed a call. -/
def clears : ∀ {β : Type}, MaskOp β → β → Prop
  | _, .post (.preflight _), answer => (cleared_arguments crates answer).isSome
  | _, _, _ => False

/-- A property of the gate's requests, read on the requests of the whole call. -/
def masked (P : ∀ {β : Type}, MaskOp β → β → Prop) : ∀ {β : Type}, ProxyOp β → β → Prop
  | _, .mask op, answer => P op answer
  | _, _, _ => False

/-! ## Recording an event -/

variable {crates} {event : TerminalRequest}

theorem enqueue_ensures (events : List TerminalRequest) :
    (TerminalOutbox.enqueue crates events event).Ensures fun tr result =>
      ∀ events', result = .ok events' → (∃ other ∈ events, other.call_id = event.call_id) ∨
        Did (queues event.call_id) tr := by
  rcases TerminalOutbox.enqueue_cases crates events event with
    ⟨error, refused⟩ | ⟨member, known⟩ | ⟨-, -, -, new⟩
  · rw [refused]
    exact ensures_ret.mpr fun _ => nofun
  · rw [known]
    exact ensures_ret.mpr fun _ _ => .inl ⟨event, member, rfl⟩
  · rw [new]
    refine Prog.ensures_op.mpr fun persisted => ?_
    cases persisted with
    | false => exact ensures_ret.mpr fun _ => nofun
    | true =>
      refine ensures_ret.mpr fun _ _ => .inr ((did_cons ..).mpr (.inl ⟨rfl, event, ?_, rfl⟩))
      exact List.mem_append_right _ (List.mem_singleton_self _)

/-- A recorded event is in the outbox. -/
theorem record_terminal_ensures (gate : MaskingGate) :
    (gate.record_terminal crates event).Ensures fun tr result =>
      result = .ok () → Did (queues event.call_id) tr := by
  unfold MaskingGate.record_terminal
  split
  · exact ensures_ret.mpr nofun
  · refine ensures_perform.mpr fun events => ?_
    refine Ensures.bind (enqueue_ensures events) fun tr result queued => ?_
    cases result with
    | error error => exact ensures_perform.mpr fun _ => ensures_ret.mpr nofun
    | ok events' =>
      intro tr' answer run _
      rw [did_cons, did_append]
      rcases queued events' rfl with before | now
      · exact .inl before
      · exact .inr (.inl now)

/-- A closed call has its event in the outbox, or fails for want of history. -/
theorem close_ensures (gate : MaskingGate) (failure : MaskingFailure) (correlation_id : String) :
    (gate.close crates event failure correlation_id).Ensures fun tr result =>
      Did (queues event.call_id) tr ∨ result = history_unavailable correlation_id := by
  refine Ensures.bind (record_terminal_ensures gate) fun tr result recorded => ?_
  cases result with
  | error error => exact ensures_ret.mpr (.inr rfl)
  | ok _ => exact ensures_ret.mpr (.inl (by rw [List.append_nil]; exact recorded rfl))

/-- The requests that neither ask the service to clear a call nor draw an id. -/
def closing : ∀ {β : Type}, MaskOp β → Prop
  | _, .post (.preflight _) | _, .new_uuid => False
  | _, _ => True

theorem request_json_closing {R : Type} {decode : List UInt8 → Option R} {request : ServiceRequest}
    (other : closing (.post request)) : (request_json crates decode request).Only closing := by
  unfold request_json
  split
  · trivial
  · exact ⟨other, fun _ => trivial⟩

theorem request_twice_closing {R : Type} {decode : List UInt8 → Option R} {request : ServiceRequest}
    (other : closing (.post request)) : (request_twice crates decode request).Only closing := by
  refine Only.bind (request_json_closing other) fun result => ?_
  split
  · exact request_json_closing other
  · trivial

attribute [local irreducible] request_json in
theorem flush_closing (events : List TerminalRequest) :
    (MaskingGate.flush_terminal_locked crates events).Only closing := by
  induction events with
  | nil => trivial
  | cons event rest ih =>
    refine Only.bind (request_twice_closing trivial) fun result => ?_
    dsimp only
    split
    · trivial
    · refine ⟨trivial, fun persisted => ?_⟩
      cases persisted with
      | true => exact ih
      | false => trivial

theorem enqueue_closing (events : List TerminalRequest) :
    (TerminalOutbox.enqueue crates events event).Only closing := by
  rcases TerminalOutbox.enqueue_cases crates events event with
    ⟨error, refused⟩ | ⟨-, known⟩ | ⟨-, -, -, new⟩
  · rw [refused]
    trivial
  · rw [known]
    trivial
  · rw [new]
    refine ⟨trivial, fun persisted => ?_⟩
    cases persisted <;> trivial

theorem close_closing (gate : MaskingGate) (failure : MaskingFailure) (correlation_id : String) :
    (gate.close crates event failure correlation_id).Only closing := by
  have recorded : (gate.record_terminal crates event).Only closing := by
    unfold MaskingGate.record_terminal
    split
    · trivial
    · refine only_perform.mpr ⟨trivial, fun events => ?_⟩
      refine Only.bind (enqueue_closing events) fun result => ?_
      cases result with
      | error error => exact ⟨trivial, fun _ => trivial⟩
      | ok events' => exact Only.bind (flush_closing events') fun _ => ⟨trivial, fun _ => trivial⟩
  refine Only.bind recorded fun result => ?_
  cases result <;> trivial

theorem not_clears_of_closing {tr : List (Event MaskOp)} (only : ∀ ev ∈ tr, closing ev.request) :
    ¬ Did (clears crates) tr := by
  rintro ⟨⟨request, answer⟩, member, cleared⟩
  have other : closing request := only _ member
  cases request with
  | post request =>
    cases request with
    | preflight request => exact other
    | _ => exact cleared
  | _ => exact cleared

/-! ## Preflight and finalize -/

variable {context : MaskingCallContext}

/-- What closing over a failed exchange leaves. -/
def Closed (crates : Crates) (call_id : String) (tr : List (Event MaskOp))
    (failure : MaskingFailure) : Prop :=
  Did (closes crates call_id) tr ∨ failure.code = "HISTORY_UNAVAILABLE"

theorem closed_of_close {tr : List (Event MaskOp)} {failure : MaskingFailure}
    {correlation_id : String} (before : List (Event MaskOp))
    (ended : Did (queues context.call_id) tr ∨ failure = history_unavailable correlation_id) :
    Closed crates context.call_id (before ++ tr) failure := by
  rcases ended with ⟨ev, member, queued⟩ | rfl
  · exact .inl ⟨ev, List.mem_append_right _ member, .inr queued⟩
  · exact .inr rfl

theorem request_json_ensures {R : Type} {decode : List UInt8 → Option R} {request : ServiceRequest} :
    (request_json crates decode request).Ensures fun tr result =>
      (tr = [] ∧ result = .error .InvalidResponse) ∨ ∃ answer,
        tr = [⟨.post request, answer⟩] ∧ result = read_answer crates decode answer := by
  unfold request_json
  split
  · exact ensures_ret.mpr (.inl ⟨rfl, rfl⟩)
  · exact ensures_perform.mpr fun answer => ensures_ret.mpr (.inr ⟨answer, rfl, rfl⟩)

/-- The answer to preflight clears the call exactly when it is allowed. -/
theorem cleared_arguments_ok {answer : HttpAnswer} {response : PreflightResponse}
    (read : read_answer crates crates.preflight_response answer = .ok response) :
    cleared_arguments crates answer =
      if response.schema_version ≠ 1 ∨ response.decision ≠ "allow" then none
      else some response.arguments := by
  rw [cleared_arguments, read]

theorem cleared_arguments_error {answer : HttpAnswer} {error : ClientError}
    (read : read_answer crates crates.preflight_response answer = .error error) :
    cleared_arguments crates answer = none := by
  rw [cleared_arguments, read]

/-- The exits of preflight and finalize that close the call. -/
def MaskingGate.refuse (crates : Crates) (gate : MaskingGate) (context : MaskingCallContext)
    (error_code : String) (failure : MaskingFailure) {α : Type} :
    Prog MaskOp (Except MaskingFailure α) := do
  return .error (← gate.close crates (MaskingGate.verified_terminal context error_code) failure
    context.correlation_id)

/-- Closing a call after requests that did not clear it. -/
theorem refuse_ensures (gate : MaskingGate) (before : List (Event MaskOp)) (error_code : String)
    (failure : MaskingFailure) {α : Type} :
    (gate.refuse crates context error_code failure (α := α)).Ensures fun tr result =>
      (¬ Did (clears crates) before → ¬ Did (clears crates) (before ++ tr)) ∧
        ∃ failure', result = .error failure' ∧ Closed crates context.call_id (before ++ tr) failure' := by
  refine Ensures.bind ((close_ensures gate failure _).and (close_closing gate failure _).ensures)
    fun tr failure' closed => ensures_ret.mpr ⟨fun uncleared => ?_, failure', rfl, ?_⟩
  · rw [List.append_nil, did_append, not_or]
    exact ⟨uncleared, not_clears_of_closing closed.2⟩
  · rw [List.append_nil]
    exact closed_of_close before closed.1

/-- Preflight either clears the call and closes nothing, or does not clear it and closes it. -/
theorem preflight_ensures (gate : MaskingGate) (context : MaskingCallContext) (arguments : Value) :
    (gate.preflight crates context arguments).Ensures fun tr result =>
      match result with
      | .ok _ => Did (clears crates) tr ∧ ¬ Did (closes crates context.call_id) tr
      | .error failure => ¬ Did (clears crates) tr ∧ Closed crates context.call_id tr failure := by
  refine Ensures.bind request_json_ensures fun tr result sent => ?_
  have refused {error_code : String} {failure : MaskingFailure}
      (uncleared : ¬ Did (clears crates) tr) :
      (gate.refuse crates context error_code failure (α := Value)).Ensures fun tr' result =>
        match result with
        | .ok _ => Did (clears crates) (tr ++ tr') ∧ ¬ Did (closes crates context.call_id) (tr ++ tr')
        | .error failure =>
          ¬ Did (clears crates) (tr ++ tr') ∧ Closed crates context.call_id (tr ++ tr') failure := by
    refine (refuse_ensures gate tr error_code failure).mono ?_
    rintro tr' result ⟨still, failure', rfl, closed⟩
    exact ⟨still uncleared, closed⟩
  rcases sent with ⟨rfl, rfl⟩ | ⟨answer, rfl, read⟩
  · exact refused (did_nil _)
  · have sole : Did (clears crates) [⟨.post (.preflight (MaskingGate.preflight_request context
        arguments)), answer⟩] ↔ (cleared_arguments crates answer).isSome := by
      rw [did_cons, or_iff_left (did_nil _)]
      exact Iff.rfl
    cases result with
    | error error =>
      refine refused ?_
      rw [sole, cleared_arguments_error read.symm]
      exact nofun
    | ok response =>
      dsimp only
      rw [cleared_arguments_ok read.symm] at sole
      split
      · rename_i other
        refine refused ?_
        rw [sole, if_pos other]
        exact nofun
      · rename_i allowed
        refine ensures_ret.mpr ⟨?_, ?_⟩
        · rw [List.append_nil, sole, if_neg allowed]
          rfl
        · rw [List.append_nil, did_cons, or_iff_left (did_nil _)]
          rintro (impossible | impossible) <;> exact impossible

/-- The service sent this answer to a finalize of the call. -/
def finalized (crates : Crates) (call_id : String) (response : FinalizeResponse) :
    ∀ {β : Type}, MaskOp β → β → Prop
  | _, .post (.finalize request), answer => request.call_id = call_id ∧
      read_answer crates crates.finalize_response answer = .ok response
  | _, _, _ => False

theorem request_twice_ensures {R : Type} {decode : List UInt8 → Option R}
    {request : ServiceRequest} :
    (request_twice crates decode request).Ensures fun tr result =>
      ∀ response, result = .ok response → ∃ answer : HttpAnswer,
        (⟨.post request, answer⟩ : Event MaskOp) ∈ tr ∧
          read_answer crates decode answer = .ok response := by
  have once : (request_json crates decode request).Ensures fun tr result =>
      ∀ response, result = .ok response → ∃ answer : HttpAnswer,
        (⟨.post request, answer⟩ : Event MaskOp) ∈ tr ∧
          read_answer crates decode answer = .ok response := by
    refine request_json_ensures.mono ?_
    rintro tr result (⟨rfl, rfl⟩ | ⟨answer, rfl, rfl⟩) response same
    · cases same
    · exact ⟨answer, List.mem_singleton_self _, same⟩
  refine Ensures.bind once fun tr result first => ?_
  split
  · refine once.mono fun tr' result second response same => ?_
    obtain ⟨answer, member, read⟩ := second response same
    exact ⟨answer, List.mem_append_right _ member, read⟩
  · refine ensures_ret.mpr fun response same => ?_
    rw [List.append_nil]
    exact first response same

theorem client_finalize_ensures (request : FinalizeRequest) :
    (MaskingServiceClient.finalize crates request).Ensures fun tr result =>
      ∀ response, result = .ok response →
        Did (finalized crates request.call_id response) tr := by
  unfold MaskingServiceClient.finalize
  split
  · exact ensures_ret.mpr fun _ => nofun
  · rename_i sent serialized
    have same : sent.call_id = request.call_id := by
      unfold serialize_finalize_request at serialized
      split at serialized
      · cases serialized
        rfl
      · split at serialized <;> cases serialized
        rfl
    refine request_twice_ensures.mono fun tr result ensures response ok => ?_
    obtain ⟨answer, member, read⟩ := ensures response ok
    exact ⟨_, member, same, read⟩

/-- Finalize closes the call, or fails for want of history. -/
theorem finalize_ensures (gate : MaskingGate) (outcome : FinalizeOutcome)
    (field_sources : Option Value) :
    (gate.finalize crates context outcome field_sources).Ensures fun tr result =>
      Did (closes crates context.call_id) tr ∨
        ∃ failure, result = .error failure ∧ failure.code = "HISTORY_UNAVAILABLE" := by
  refine Ensures.bind (client_finalize_ensures _) fun tr result sent => ?_
  have refused {error_code : String} {failure : MaskingFailure} :
      (gate.refuse crates context error_code failure (α := ToolCallResult)).Ensures
        fun tr' result => Did (closes crates context.call_id) (tr ++ tr') ∨
          ∃ failure, result = .error failure ∧ failure.code = "HISTORY_UNAVAILABLE" := by
    refine (refuse_ensures gate tr error_code failure).mono ?_
    rintro tr' result ⟨-, failure', rfl, closed | unavailable⟩
    · exact .inl closed
    · exact .inr ⟨failure', rfl, unavailable⟩
  cases result with
  | error error => exact refused
  | ok response =>
    dsimp only
    split
    · exact refused
    · rename_i accepted
      refine ensures_ret.mpr (.inl ?_)
      obtain ⟨⟨request, answer⟩, member, final⟩ := sent response rfl
      rw [List.append_nil]
      refine ⟨_, member, .inl ?_⟩
      cases request with
      | post request =>
        cases request with
        | finalize request => exact ⟨final.1, response, final.2, not_not.mp accepted⟩
        | _ => exact final.elim
      | _ => exact final.elim

/-! ## The whole call -/

/-- The id a request of the call drew. -/
def drawn_uuid : Event ProxyOp → Option String
  | ⟨.mask .new_uuid, uuid⟩ => some uuid
  | _ => none

/-- The call id: the first id the call drew. -/
def generated_call_id (tr : List (Event ProxyOp)) : Option String := tr.findSome? drawn_uuid

def read_record : Event RegOp → Option SessionRecord
  | ⟨.get _, record⟩ => record
  | _ => none

def fetched_by : Event ProxyOp → Option SessionRecord
  | ⟨.reg op, answer⟩ => read_record ⟨op, answer⟩
  | _ => none

/-- The record the call goes to: the last one it read. -/
def fetched_record (tr : List (Event ProxyOp)) : Option SessionRecord :=
  (tr.filterMap fetched_by).getLast?

/-- The code an answer gives the agent, if it reports a failure. -/
def failure_code : ProxyAnswer → Option String
  | .ok result => do
    let error ← field (← (← result.structured_content).as_object) "error"
    (← field (← error.as_object) "code").as_str
  | .error _ => none

theorem failure_code_masking_failure (failure : MaskingFailure) :
    failure_code (.ok (masking_failure_response failure)) = some failure.code := rfl

def no_deadline_requested (request : CallToolRequestParams) : Bool :=
  match extract_manager_arguments request.arguments with
  | .ok (_, _, no_deadline_requested) => no_deadline_requested
  | .error _ => false

/-- Finalize or a terminal event of the call is with the service or in the outbox, or the answer
says that the history is unavailable. -/
def Audited (crates : Crates) (call_id : String) (tr : List (Event ProxyOp)) (answer : ProxyAnswer) :
    Prop :=
  Did (masked (closes crates call_id)) tr ∨ failure_code answer = some "HISTORY_UNAVAILABLE"

/-- A record no call can go out on, or not with the options asked for. -/
def unsendable (record : SessionRecord) (no_deadline_requested : Bool) : Prop :=
  record.connection = none ∨ no_deadline_requested = true ∧ record.kind ≠ "server"

/-- The call was cleared, and then its record could not take it. -/
def Abandoned (crates : Crates) (request : CallToolRequestParams) (tr : List (Event ProxyOp)) :
    Prop :=
  Did (masked (clears crates)) tr ∧
    ∃ record, fetched_record tr = some record ∧ unsendable record (no_deadline_requested request)

section Segments

/-- The requests of the registry, read on the whole call. -/
abbrev reg_events (tr : List (Event RegOp)) : List (Event ProxyOp) :=
  tr.map fun ev => ⟨.reg ev.request, ev.answer⟩

abbrev mask_events (tr : List (Event MaskOp)) : List (Event ProxyOp) :=
  tr.map fun ev => ⟨.mask ev.request, ev.answer⟩

theorem did_masked_reg (P : ∀ {β : Type}, MaskOp β → β → Prop) (tr : List (Event RegOp)) :
    ¬ Did (masked P) (reg_events tr) := by
  rw [did_map]
  rintro ⟨_, _, impossible⟩
  exact impossible

theorem did_masked_mask (P : ∀ {β : Type}, MaskOp β → β → Prop) (tr : List (Event MaskOp)) :
    Did (masked P) (mask_events tr) ↔ Did P tr :=
  did_map (masked P) tr

theorem drawn_reg (tr : List (Event RegOp)) : (reg_events tr).findSome? drawn_uuid = none := by
  rw [List.findSome?_eq_none_iff]
  intro ev member
  obtain ⟨ev, -, rfl⟩ := List.mem_map.mp member
  rfl

theorem fetched_reg (tr : List (Event RegOp)) :
    (reg_events tr).filterMap fetched_by = tr.filterMap read_record :=
  List.filterMap_map ..

theorem fetched_mask (tr : List (Event MaskOp)) : (mask_events tr).filterMap fetched_by = [] := by
  rw [List.filterMap_map, List.filterMap_eq_nil_iff]
  exact fun _ _ => rfl

/-- Routing reads the record it leads to last. -/
theorem route_ensures (name : String) (requested_session_id : Option String) :
    (route crates name requested_session_id).Ensures fun tr result =>
      ∀ resolved record, result = .ok (resolved, record) →
        (tr.filterMap read_record).getLast? = some record := by
  have resolving (requested_session_id : Option String) :
      (resolve crates name requested_session_id).Ensures fun tr result =>
        ∀ resolved record, result = .ok (resolved, record) →
          (tr.filterMap read_record).getLast? = some record := by
    refine ensures_perform.mpr fun snapshot => ?_
    split
    · refine Ensures.bind (P := fun _ _ => True) (fun _ _ _ => trivial) fun _ _ _ => ?_
      exact ensures_ret.mpr fun _ _ => nofun
    · rename_i resolved _
      have fetching : (fetch resolved).Ensures fun tr result =>
          ∀ record, result = .ok record → (tr.filterMap read_record) = [record] := by
        refine ensures_perform.mpr fun found => ?_
        cases found with
        | none => exact ensures_ret.mpr fun _ => nofun
        | some record =>
          dsimp only
          split
          · exact ensures_ret.mpr fun _ => nofun
          · refine ensures_ret.mpr ?_
            rintro _ ⟨⟩
            rfl
      refine Ensures.bind fetching fun tr result last => ?_
      cases result with
      | error error => exact ensures_ret.mpr fun _ _ => nofun
      | ok record =>
        refine ensures_ret.mpr ?_
        rintro _ _ ⟨⟩
        rw [List.append_nil]
        exact congrArg List.getLast? (last record rfl)
  cases requested_session_id with
  | none => exact resolving none
  | some session_id =>
    refine Ensures.bind (P := fun _ _ => True) (fun _ _ _ => trivial) fun tr result _ => ?_
    cases result with
    | error error => exact ensures_ret.mpr fun _ _ => nofun
    | ok checked =>
      refine (resolving (some session_id)).mono fun tr' result last resolved record ok => ?_
      rw [List.filterMap_append, List.getLast?_append, last resolved record ok]
      rfl

/-- A passed gate has cleared the call and closed nothing; a refused call is closed. -/
theorem pass_gate_ensures {gate : MaskingGate} (enabled : gate.enabled = true) (caller : CallerInfo)
    (name : String) (record : SessionRecord) (arguments : Value) :
    (pass_gate crates gate caller name record arguments).Ensures fun tr result =>
      ∃ call_id rest, tr = ⟨.new_uuid, call_id⟩ :: rest ∧
        match result with
        | .ok (context, _) => Did (clears crates) tr ∧ ¬ Did (closes crates call_id) tr ∧
            ∃ passed, context = some passed ∧ passed.call_id = call_id
        | .error failure => ¬ Did (clears crates) tr ∧ Closed crates call_id tr failure := by
  unfold pass_gate
  rw [enabled]
  refine ensures_perform.mpr fun call_id => ensures_perform.mpr fun correlation_id => ?_
  -- drawing the two ids neither clears nor closes the call
  have drawing {P : ∀ {β : Type}, MaskOp β → β → Prop} (quiet : ∀ uuid, ¬ P .new_uuid uuid)
      (tr : List (Event MaskOp)) :
      Did P (⟨.new_uuid, call_id⟩ :: ⟨.new_uuid, correlation_id⟩ :: tr) ↔ Did P tr := by
    rw [did_cons, did_cons, or_iff_right (quiet call_id), or_iff_right (quiet correlation_id)]
  have clear := drawing (P := clears crates) fun _ => id
  have close := drawing (P := closes crates call_id) fun _ impossible => impossible.elim id id
  have refused {tr : List (Event MaskOp)} {failure : MaskingFailure}
      (uncleared : ¬ Did (clears crates) tr) (closed : Closed crates call_id tr failure) :
      ¬ Did (clears crates) (⟨.new_uuid, call_id⟩ :: ⟨.new_uuid, correlation_id⟩ :: tr) ∧
        Closed crates call_id (⟨.new_uuid, call_id⟩ :: ⟨.new_uuid, correlation_id⟩ :: tr) failure :=
    ⟨fun cleared => uncleared ((clear tr).mp cleared), closed.imp_left (close tr).mpr⟩
  dsimp only
  split
  · refine Ensures.bind ((close_ensures gate _ _).and (close_closing gate _ _).ensures)
      fun tr failure ended => ?_
    refine ensures_ret.mpr ⟨call_id, _, rfl, ?_⟩
    rw [List.append_nil]
    refine refused (not_clears_of_closing ended.2) ?_
    rcases ended.1 with ⟨ev, member, queued⟩ | rfl
    · exact .inl ⟨ev, member, .inr queued⟩
    · exact .inr rfl
  · rename_i identity _
    refine Ensures.bind (preflight_ensures gate (MaskingGate.call_context identity caller name
      call_id correlation_id) arguments) fun tr result passed => ?_
    cases result with
    | error failure =>
      refine ensures_ret.mpr ⟨call_id, _, rfl, ?_⟩
      rw [List.append_nil]
      exact refused passed.1 passed.2
    | ok arguments =>
      refine ensures_ret.mpr ⟨call_id, _, rfl, ?_⟩
      rw [List.append_nil]
      exact ⟨(clear tr).mpr passed.1, fun closed => passed.2 ((close tr).mp closed), _, rfl, rfl⟩

/-- The requests after the gate read no record. -/
theorem forward_fetches_none (gate : MaskingGate) (resolved : ResolvedCall) (record : SessionRecord)
    (context : Option MaskingCallContext) (arguments : Value) (no_deadline_requested : Bool) :
    (forward crates gate resolved record context arguments no_deadline_requested).Ensures
      fun tr _ => tr.filterMap fetched_by = [] := by
  unfold forward
  split
  · exact ensures_ret.mpr rfl
  · have timed : (proxy_call_deadline record.kind no_deadline_requested).Ensures
        fun tr _ => tr.filterMap fetched_by = [] := by
      unfold proxy_call_deadline
      split
      · split <;> exact ensures_ret.mpr rfl
      · exact ensures_perform.mpr fun _ => ensures_ret.mpr rfl
    refine Ensures.bind timed fun tr deadline before => ?_
    cases deadline with
    | error error => exact ensures_ret.mpr (by rw [List.append_nil]; exact before)
    | ok deadline =>
      refine ensures_perform.mpr fun now => ensures_perform.mpr fun _ =>
        ensures_perform.mpr fun outcome => ?_
      have answered : (answer_outcome crates gate context outcome).Ensures fun _ _ => True :=
        fun _ _ _ => trivial
      refine answered.lift.mono ?_
      rintro _ _ ⟨tr', rfl, -⟩
      rw [List.filterMap_append, before]
      exact fetched_mask tr'

/-- A record that cannot take the call leaves it open, any other gets it closed. -/
theorem forward_ensures (gate : MaskingGate) (resolved : ResolvedCall) (record : SessionRecord)
    (context : MaskingCallContext) (arguments : Value) (no_deadline_requested : Bool) :
    (forward crates gate resolved record (some context) arguments no_deadline_requested).Ensures
      fun tr answer =>
        (unsendable record no_deadline_requested →
          ¬ Did (masked (closes crates context.call_id)) tr ∧ failure_code answer = none) ∧
        (¬ unsendable record no_deadline_requested →
          Audited crates context.call_id tr answer) := by
  have sent (outcome : Except DispatcherError ToolCallResult) :
      (answer_outcome crates gate (some context) outcome).Ensures fun tr answer =>
        Did (closes crates context.call_id) tr ∨
          failure_code answer = some "HISTORY_UNAVAILABLE" := by
    refine Ensures.bind (finalize_ensures gate _ _) fun tr result ended => ?_
    cases result with
    | ok result =>
      refine ensures_ret.mpr (.inl ?_)
      rw [List.append_nil]
      rcases ended with closed | ⟨failure, impossible, -⟩
      · exact closed
      · cases impossible
    | error failure =>
      refine ensures_ret.mpr ?_
      rw [List.append_nil, failure_code_masking_failure]
      rcases ended with closed | ⟨failure, same, unavailable⟩
      · exact .inl closed
      · cases same
        exact .inr (congrArg some unavailable)
  -- the rest of a call whose deadline is known
  have timed (deadline : Option Nat) (connection : Nat) (before : List (Event ProxyOp)) :
      (do
        let now ← Prog.perform .now
        let _ ← Prog.perform (.reg (.bump_last_call resolved.session_id now))
        let outcome ← Prog.perform (.enqueue record.dispatcher connection
          { name := resolved.tool_name, arguments } deadline)
        (answer_outcome crates gate (some context) outcome).lift .mask :
          Prog ProxyOp ProxyAnswer).Ensures
        fun tr answer => Audited crates context.call_id (before ++ tr) answer := by
    refine ensures_perform.mpr fun now => ensures_perform.mpr fun _ =>
      ensures_perform.mpr fun outcome => ?_
    refine (sent outcome).lift.mono ?_
    rintro _ answer ⟨tr, rfl, closed | unavailable⟩
    · refine .inl ?_
      rw [did_append, did_cons, did_cons, did_cons, did_masked_mask]
      exact .inr (.inr (.inr (.inr closed)))
    · exact .inr unavailable
  unfold forward
  split
  · rename_i disconnected
    exact ensures_ret.mpr ⟨fun _ => ⟨did_nil _, rfl⟩, fun sendable => absurd (.inl disconnected) sendable⟩
  · rename_i connection connected
    have reachable : unsendable record no_deadline_requested ↔
        no_deadline_requested = true ∧ record.kind ≠ "server" := by
      rw [unsendable, connected]
      exact or_iff_right nofun
    rw [reachable]
    unfold proxy_call_deadline
    split
    · rename_i asked
      split
      · rename_i server
        have sendable : ¬ (no_deadline_requested = true ∧ record.kind ≠ "server") :=
          fun both => both.2 server
        exact (timed none connection []).mono fun _ _ audited =>
          ⟨fun unsendable => absurd unsendable sendable, fun _ => audited⟩
      · rename_i other
        exact ensures_ret.mpr ⟨fun _ => ⟨did_nil _, rfl⟩, fun sendable => absurd ⟨asked, other⟩ sendable⟩
    · rename_i unasked
      refine ensures_perform.mpr fun now => ?_
      exact (timed _ connection [⟨.now, now⟩]).mono fun _ _ audited =>
        ⟨fun unsendable => absurd unsendable.1 unasked, fun _ => audited⟩

/-- The requests of a call that has drawn an id close it exactly if it was not abandoned. -/
theorem call_ensures {gate : MaskingGate} (enabled : gate.enabled = true) (caller : CallerInfo)
    (request : CallToolRequestParams) :
    (call_proxy_tool_inner crates gate caller request).Ensures fun tr answer =>
      ∀ call_id, generated_call_id tr = some call_id →
        (Audited crates call_id tr answer ↔ ¬ Abandoned crates request tr) := by
  unfold call_proxy_tool_inner Abandoned
  split
  · exact ensures_ret.mpr fun _ => nofun
  · rename_i arguments requested_session_id unlimited extracted
    have asked : no_deadline_requested request = unlimited := by
      rw [no_deadline_requested, extracted]
    rw [asked]
    refine Ensures.bind (route_ensures request.name requested_session_id).lift ?_
    rintro _ result ⟨routing, rfl, last⟩
    cases result with
    | error answer =>
      refine ensures_ret.mpr fun call_id drawn => ?_
      rw [List.append_nil, generated_call_id, drawn_reg] at drawn
      cases drawn
    | ok target =>
      obtain ⟨resolved, record⟩ := target
      have fetched := last resolved record rfl
      refine Ensures.bind (pass_gate_ensures enabled caller request.name record arguments).lift ?_
      rintro _ result ⟨_, rfl, call_id', passing, rfl, passed⟩
      have drew (tr : List (Event ProxyOp)) : generated_call_id (reg_events routing ++
          (mask_events (⟨.new_uuid, call_id'⟩ :: passing) ++ tr)) = some call_id' := by
        rw [generated_call_id, List.findSome?_append, drawn_reg]
        rfl
      cases result with
      | error failure =>
        refine ensures_ret.mpr fun call_id drawn => ?_
        obtain rfl : call_id' = call_id := Option.some.inj ((drew []).symm.trans drawn)
        rw [List.append_nil, Audited, did_append, did_append, did_masked_mask, did_masked_mask,
          or_iff_right (did_masked_reg _ _), or_iff_right (did_masked_reg _ _)]
        refine iff_of_true ?_ fun abandoned => passed.1 abandoned.1
        exact passed.2.imp_right (congrArg some)
      | ok target =>
        obtain ⟨context, arguments'⟩ := target
        obtain ⟨cleared, unclosed, context, rfl, rfl⟩ := passed
        refine ((forward_ensures gate resolved record context arguments' unlimited).and
            (forward_fetches_none gate resolved record (some context) arguments' _)).mono ?_
        rintro tr answer ⟨⟨left, sent⟩, unread⟩ call_id drawn
        obtain rfl : context.call_id = call_id := Option.some.inj ((drew tr).symm.trans drawn)
        have here : fetched_record (reg_events routing ++
            (mask_events (⟨.new_uuid, context.call_id⟩ :: passing) ++ tr)) = some record := by
          rw [fetched_record, List.filterMap_append, List.filterMap_append, fetched_reg,
            fetched_mask, unread, List.nil_append, List.append_nil, fetched]
        rw [here, did_append, did_append, did_masked_mask, or_iff_right (did_masked_reg _ _)]
        by_cases unsendable : unsendable record unlimited
        · refine iff_of_false ?_ fun kept => kept ⟨.inl cleared, record, rfl, unsendable⟩
          rintro (closed | unavailable)
          · rw [did_append, did_append, did_masked_mask, or_iff_right (did_masked_reg _ _),
              or_iff_right unclosed] at closed
            exact (left unsendable).1 closed
          · rw [(left unsendable).2] at unavailable
            cases unavailable
        · refine iff_of_true ?_ ?_
          · refine (sent unsendable).imp_left fun closed => ?_
            rw [did_append, did_append]
            exact .inr (.inr closed)
          · rintro ⟨-, _, ⟨⟩, abandoned⟩
            exact unsendable abandoned

end Segments

/-- **A call that has drawn its id is audited exactly if it was not abandoned.** -/
theorem audited_iff {gate : MaskingGate} (enabled : gate.enabled = true) (caller : CallerInfo)
    (request : CallToolRequestParams) {tr : List (Event ProxyOp)} {answer : ProxyAnswer}
    {call_id : String}
    (run : Exec (call_proxy_tool_inner crates gate caller request) tr (.ret answer))
    (drawn : generated_call_id tr = some call_id) :
    Audited crates call_id tr answer ↔ ¬ Abandoned crates request tr :=
  call_ensures enabled caller request tr answer run call_id drawn

/-! ## A client session that is asked for a call without a deadline -/

/-- The only session: a client publishing one tool over connection 0. -/
def lone_client : SessionRecord where
  session_id := "s"
  kind := "client"
  config_id := "client"
  version := "1.0"
  infobase_name := "base"
  ib_session_number := 1
  cluster_server := some "srv"
  database_key := some "gen:srv/base"
  tools := [⟨"t", none, .object [], .Public⟩]
  state := .Active
  host_id := "unknown"
  pid := none
  registered_at := 0
  last_call_at := 0
  disconnected_at := none
  connection_generation := 1
  connection := some 0
  dispatcher := 0

def masking_on : MaskingGate where
  enabled := true
  internal_tools := []

def anonymous : CallerInfo where
  mcp_session_id := none
  client_name := none
  client_version := none

def plain_call : CallToolRequestParams where
  name := "t"
  arguments := none

def unlimited_call : CallToolRequestParams where
  name := "t"
  arguments := some [(MANAGER_CALL_OPTIONS_KEY, .object [(MANAGER_NO_DEADLINE_KEY, .bool true)])]

def lone_client_context : MaskingCallContext :=
  MaskingGate.call_context
    { instance_id := "gen:srv/base", cluster_server := "srv", infobase_name := "base" }
    anonymous "t" "call" "correlation"

def allowed : HttpAnswer := .reply 200 []

/-- An answer that clears the call lets it pass. -/
theorem exec_preflight {gate : MaskingGate} {arguments arguments' : Value} {answer : HttpAnswer}
    (small : (ServiceRequest.preflight (MaskingGate.preflight_request context
      arguments)).body.utf8ByteSize ≤ MAX_INTERNAL_BODY_BYTES)
    (cleared : cleared_arguments crates answer = some arguments') :
    Exec (gate.preflight crates context arguments)
      [⟨.post (.preflight (MaskingGate.preflight_request context arguments)), answer⟩]
      (.ret (.ok arguments')) := by
  have sent : Exec (MaskingServiceClient.preflight crates
        (MaskingGate.preflight_request context arguments))
      [⟨.post (.preflight (MaskingGate.preflight_request context arguments)), answer⟩]
      (.ret (read_answer crates crates.preflight_response answer)) := by
    rw [MaskingServiceClient.preflight, request_json, if_neg (Nat.not_lt.mpr small)]
    exact .step answer (.refl _)
  rw [← List.append_nil [_]]
  refine sent.bind ?_
  unfold cleared_arguments at cleared
  split at cleared
  · rename_i response read
    rw [read]
    split at cleared
    · cases cleared
    · rename_i allow
      cases cleared
      dsimp only
      rw [if_neg allow]
      exact .refl _
  · cases cleared

theorem lone_client_routed :
    Exec (route permissive_crates "t" none)
      [⟨.snapshot, [lone_client]⟩, ⟨.get "s", some lone_client⟩]
      (.ret (.ok ({ session_id := "s", tool_name := "t" }, lone_client))) := by
  refine .step [lone_client] ?_
  exact .step (some lone_client) (.refl _)

/-- A verified call passes an enabled gate with what preflight makes of its arguments. -/
theorem exec_pass_gate {gate : MaskingGate} (enabled : gate.enabled = true) (caller : CallerInfo)
    {name call_id correlation_id : String} {record : SessionRecord} {identity}
    (verified : MaskingGate.verify_database record = some identity) {arguments arguments' : Value}
    {tr : List (Event MaskOp)}
    (passed : Exec (gate.preflight crates (MaskingGate.call_context identity caller name call_id
      correlation_id) arguments) tr (.ret (.ok arguments'))) :
    Exec (pass_gate crates gate caller name record arguments)
      (⟨.new_uuid, call_id⟩ :: ⟨.new_uuid, correlation_id⟩ :: tr)
      (.ret (.ok (some (MaskingGate.call_context identity caller name call_id correlation_id),
        arguments'))) := by
  rw [pass_gate, verified, enabled, if_neg (by decide), Prog.perform_bind]
  refine .step call_id ?_
  rw [Prog.perform_bind]
  refine .step correlation_id ?_
  rw [← List.append_nil tr]
  exact passed.bind (.refl _)

theorem lone_client_cleared :
    Exec (pass_gate permissive_crates masking_on anonymous "t" lone_client (.object []))
      [⟨.new_uuid, "call"⟩, ⟨.new_uuid, "correlation"⟩,
        ⟨.post (.preflight (MaskingGate.preflight_request lone_client_context (.object []))),
          allowed⟩]
      (.ret (.ok (some lone_client_context, .object []))) :=
  exec_pass_gate rfl anonymous rfl
    (exec_preflight (by decide +kernel) rfl)

/-- The requests of a call to the only session up to the gate. -/
def lone_client_trace : List (Event ProxyOp) :=
  reg_events [⟨.snapshot, [lone_client]⟩, ⟨.get "s", some lone_client⟩] ++
    (mask_events [⟨.new_uuid, "call"⟩, ⟨.new_uuid, "correlation"⟩,
      ⟨.post (.preflight (MaskingGate.preflight_request lone_client_context (.object []))),
        allowed⟩] ++ [])

/-- The answer to a call without a deadline on a client session. -/
def only_for_servers : ProxyAnswer :=
  .error (invalid_params (MANAGER_CALL_OPTIONS_KEY ++ "." ++ MANAGER_NO_DEADLINE_KEY ++
    " is allowed only for server sessions"))

theorem unlimited_call_run :
    Exec (call_proxy_tool_inner permissive_crates masking_on anonymous unlimited_call)
      lone_client_trace (.ret only_for_servers) := by
  have extracted : extract_manager_arguments unlimited_call.arguments =
      .ok (.object [], none, true) := rfl
  rw [call_proxy_tool_inner, extracted]
  exact lone_client_routed.lift.bind (lone_client_cleared.lift.bind (.refl _))

/-- A cleared call that a client session may not get leaves no trace with the service. -/
theorem unlimited_call_not_audited :
    ∃ tr answer,
      Exec (call_proxy_tool_inner permissive_crates masking_on anonymous unlimited_call) tr
        (.ret answer) ∧
      generated_call_id tr = some "call" ∧ ¬ Audited permissive_crates "call" tr answer := by
  refine ⟨_, _, unlimited_call_run, rfl, fun audited => ?_⟩
  refine (call_ensures rfl anonymous unlimited_call _ _ unlimited_call_run "call" rfl).mp audited
    ⟨?_, lone_client, rfl, .inr ⟨rfl, by decide⟩⟩
  refine ⟨⟨.mask (.post (.preflight (MaskingGate.preflight_request lone_client_context
    (.object [])))), allowed⟩, ?_, rfl⟩
  simp only [lone_client_trace, List.map_cons, List.map_nil, List.append_nil, List.mem_append,
    List.mem_cons, true_or, or_true]

theorem unlimited_call_audited_iff :
    Audited permissive_crates "call" lone_client_trace only_for_servers ↔
      ¬ Abandoned permissive_crates unlimited_call lone_client_trace :=
  audited_iff rfl anonymous unlimited_call unlimited_call_run rfl

end SessionManager
