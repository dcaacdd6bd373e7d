import SessionManager.Server.Audit

/-!
# The outcome of a masked call tells the agent nothing

Two calls in the same surroundings, with the same answers of the masking service, get the same
answer and leave the same state, whatever their `tool.call` came to: the outcome reaches the
service only.  The one proviso is that the fixed body sent for an oversized outcome fits.
-/

namespace SessionManager

open Json Effect

open Prog (handle_bind handle_perform handle_lift)

namespace Surroundings

variable (env : Surroundings)

variable (crates : Crates) (gate : MaskingGate) (caller : CallerInfo)

/-- What the call answers the agent, and the state it leaves. -/
def run (request : CallToolRequestParams) (outcome : Outcome) : Option (ProxyAnswer × CallState) :=
  (call_proxy_tool_inner crates gate caller request).handle (env.answer outcome) env.start

/-- The context the call passes the gate with. -/
def context (request : CallToolRequestParams) : Option MaskingCallContext :=
  match extract_manager_arguments request.arguments with
  | .error _ => none
  | .ok (arguments, requested_session_id, _) =>
    match (route crates request.name requested_session_id).handle env.reg env.start with
    | some (.ok (_, record), s) =>
      match (pass_gate crates gate caller request.name record arguments).handle env.mask s with
      | some (.ok (context, _), _) => context
      | _ => none
    | _ => none

/-- The fixed body of an oversized finalize of the call fits. -/
def fits (request : CallToolRequestParams) : Prop :=
  ∀ context, env.context crates gate caller request = some context →
    (MaskingGate.finalize_request context (.TransportError .null) none).fallback.fits

end Surroundings

/-! ## Requests that are answered without regard to what they say -/

variable {env : Surroundings} {crates : Crates} {gate : MaskingGate}

/-- Two requests of one kind get the same answer. -/
theorem handle_request_json {R : Type} (decode : List UInt8 → Option R) {request : FinalizeRequest}
    (fits : request.fits) (s : CallState) :
    (request_json crates decode (.finalize request)).handle env.mask s =
      some (read_answer crates decode (env.service s.answers),
        { s with answers := s.answers + 1 }) := by
  rw [request_json, if_neg (Nat.not_lt.mpr fits)]
  rfl

theorem handle_request_twice {R : Type} (decode : List UInt8 → Option R)
    {request request' : FinalizeRequest} (fits : request.fits) (fits' : request'.fits)
    (s : CallState) :
    (request_twice crates decode (.finalize request)).handle env.mask s =
      (request_twice crates decode (.finalize request')).handle env.mask s := by
  rw [request_twice, request_twice, handle_bind, handle_bind, handle_request_json decode fits,
    handle_request_json decode fits']
  dsimp only [Option.bind_some]
  split
  · rw [handle_request_json decode fits, handle_request_json decode fits']
  · rfl

/-- A finalize whose fallback fits is always sent. -/
theorem serialize_finalize_request_ok (request : FinalizeRequest) (fits : request.fallback.fits) :
    ∃ sent, serialize_finalize_request request = .ok sent ∧ sent.fits := by
  unfold serialize_finalize_request
  split
  · rename_i full
    exact ⟨request, rfl, full⟩
  · exact ⟨request.fallback, rfl, fits⟩

/-- Finalize comes to the same end whatever it reports. -/
theorem handle_finalize {context : MaskingCallContext}
    (fits : (MaskingGate.finalize_request context (.TransportError .null) none).fallback.fits)
    (outcome outcome' : FinalizeOutcome) (field_sources field_sources' : Option Value)
    (s : CallState) :
    (gate.finalize crates context outcome field_sources).handle env.mask s =
      (gate.finalize crates context outcome' field_sources').handle env.mask s := by
  have sent : (MaskingServiceClient.finalize crates
        (MaskingGate.finalize_request context outcome field_sources)).handle env.mask s =
      (MaskingServiceClient.finalize crates
        (MaskingGate.finalize_request context outcome' field_sources')).handle env.mask s := by
    obtain ⟨request, serialized, small⟩ := serialize_finalize_request_ok
      (MaskingGate.finalize_request context outcome field_sources) fits
    obtain ⟨request', serialized', small'⟩ := serialize_finalize_request_ok
      (MaskingGate.finalize_request context outcome' field_sources') fits
    rw [MaskingServiceClient.finalize, MaskingServiceClient.finalize, serialized, serialized']
    exact handle_request_twice _ small small' s
  rw [MaskingGate.finalize, MaskingGate.finalize, handle_bind, handle_bind, sent]

theorem handle_answer_outcome {context : MaskingCallContext}
    (fits : (MaskingGate.finalize_request context (.TransportError .null) none).fallback.fits)
    (outcome outcome' : Outcome) (s : CallState) :
    (answer_outcome crates gate (some context) outcome).handle env.mask s =
      (answer_outcome crates gate (some context) outcome').handle env.mask s := by
  rw [answer_outcome, answer_outcome]
  dsimp only
  rw [handle_bind, handle_bind, handle_finalize fits]

/-! ## The call -/

theorem handle_forward {context : MaskingCallContext}
    (fits : (MaskingGate.finalize_request context (.TransportError .null) none).fallback.fits)
    (resolved : ResolvedCall) (record : SessionRecord) (arguments : Value) (unlimited : Bool)
    (outcome outcome' : Outcome) (s : CallState) :
    (forward crates gate resolved record (some context) arguments unlimited).handle
        (env.answer outcome) s =
      (forward crates gate resolved record (some context) arguments unlimited).handle
        (env.answer outcome') s := by
  unfold forward
  split
  · rfl
  · have timed : (proxy_call_deadline record.kind unlimited).handle (env.answer outcome) s =
        (proxy_call_deadline record.kind unlimited).handle (env.answer outcome') s := by
      unfold proxy_call_deadline
      split
      · split <;> rfl
      · rfl
    rw [handle_bind, handle_bind, timed]
    refine congrArg _ (funext fun result => ?_)
    obtain ⟨deadline, s⟩ := result
    cases deadline with
    | error error => rfl
    | ok deadline =>
      dsimp only
      rw [handle_perform, handle_perform]
      refine congrArg _ (funext fun timed => ?_)
      rw [handle_perform, handle_perform]
      refine congrArg _ (funext fun bumped => ?_)
      rw [handle_perform, handle_perform]
      dsimp only [Surroundings.answer, Option.bind_some]
      rw [handle_lift, handle_lift]
      exact handle_answer_outcome fits outcome outcome' bumped.2

/-- Routing reads the registry only. -/
theorem handle_route (name : String) (requested_session_id : Option String) (outcome : Outcome)
    (s : CallState) :
    ((route crates name requested_session_id).lift ProxyOp.reg).handle (env.answer outcome) s =
      (route crates name requested_session_id).handle env.reg s :=
  handle_lift ..

theorem handle_pass_gate (caller : CallerInfo) (name : String) (record : SessionRecord)
    (arguments : Value) (outcome : Outcome) (s : CallState) :
    ((pass_gate crates gate caller name record arguments).lift ProxyOp.mask).handle
        (env.answer outcome) s =
      (pass_gate crates gate caller name record arguments).handle env.mask s :=
  handle_lift ..

/-- A passed gate that is enabled leaves a context. -/
theorem pass_gate_context (enabled : gate.enabled = true) {caller : CallerInfo} {name : String}
    {record : SessionRecord} {arguments arguments' : Value} {context : Option MaskingCallContext}
    {s s' : CallState}
    (passed : (pass_gate crates gate caller name record arguments).handle env.mask s =
      some (.ok (context, arguments'), s')) : ∃ context', context = some context' := by
  obtain ⟨_, _, _, _, _, -, context', here, -⟩ :=
    (pass_gate_ensures enabled caller name record arguments).handle passed
  exact ⟨context', here⟩

/-- **The outcome of the `tool.call` is irrelevant** to the answer and to the state left. -/
theorem outcome_irrelevant (enabled : gate.enabled = true) (caller : CallerInfo)
    (request : CallToolRequestParams) (fits : env.fits crates gate caller request)
    (outcome outcome' : Outcome) :
    env.run crates gate caller request outcome = env.run crates gate caller request outcome' := by
  unfold Surroundings.run call_proxy_tool_inner
  split
  · rfl
  · rename_i arguments requested_session_id unlimited extracted
    rw [handle_bind, handle_bind, handle_route, handle_route]
    cases routed : (route crates request.name requested_session_id).handle env.reg env.start with
    | none => rfl
    | some result =>
      obtain ⟨target, s⟩ := result
      cases target with
      | error answer => rfl
      | ok target =>
        obtain ⟨resolved, record⟩ := target
        dsimp only [Option.bind_some]
        rw [handle_bind, handle_bind, handle_pass_gate, handle_pass_gate]
        cases passed : (pass_gate crates gate caller request.name record arguments).handle
          env.mask s with
        | none => rfl
        | some result =>
          obtain ⟨target, s'⟩ := result
          cases target with
          | error failure => rfl
          | ok target =>
            obtain ⟨context, arguments'⟩ := target
            obtain ⟨context, rfl⟩ := pass_gate_context enabled passed
            refine handle_forward (fits context ?_) resolved record arguments' unlimited _ _ s'
            rw [Surroundings.context, extracted]
            dsimp only
            rw [routed]
            dsimp only
            rw [passed]

end SessionManager
