import SessionManager.Router.Publications
import SessionManager.Server

/-!
# What a call has learnt

`CallLog` keeps of the requests of an agent's call what later results are about: the snapshot
it resolved the name in, the record it fetched, its call id, the arguments the masking service
cleared, and the events it read from the outbox.  `callProtocol` says which requests a call
may make after which log, and `call_follows` that `call_proxy_tool_inner` makes no others.
-/

namespace SessionManager

open Json Effect

open Prog (perform)

structure CallLog where
  view : Option (List SessionRecord)
  /-- The record read after the snapshot, with the session it was asked for. -/
  fetched : Option (String × SessionRecord)
  call_id : Option String
  cleared : Option Value
  held : List TerminalRequest

/-- The database a terminal event names, if it names one. -/
def TerminalRequest.instance_id (event : TerminalRequest) : Option String :=
  match event.scope with
  | .Verified instance_id _ _ _ => some instance_id
  | .Unverified => none

namespace CallLog

def empty : CallLog where
  view := none
  fetched := none
  call_id := none
  cleared := none
  held := []

/-- The fetched record has this database key. -/
def keyed (g : CallLog) (instance_id : String) : Prop :=
  ∃ session_id record, g.fetched = some (session_id, record) ∧
    record.database_key = some instance_id

/-- A request of this call id and database belongs to the call. -/
def identifies (g : CallLog) (call_id instance_id : String) : Prop :=
  g.call_id = some call_id ∧ g.keyed instance_id

/-- A terminal event that belongs to the call. -/
def owns (g : CallLog) (event : TerminalRequest) : Prop :=
  g.call_id = some event.call_id ∧
    ∀ instance_id, event.instance_id = some instance_id → g.keyed instance_id

/-- A terminal event the call read from the outbox, or one of its own. -/
def knows (g : CallLog) (event : TerminalRequest) : Prop := event ∈ g.held ∨ g.owns event

/-- The call may go out over this dispatcher and connection with these parameters. -/
def admits (gate : MaskingGate) (g : CallLog) (dispatcher connection : Nat)
    (params : ToolCallParams) : Prop :=
  ∃ snapshot session_id record, g.view = some snapshot ∧
    g.fetched = some (session_id, record) ∧ record.state = .Active ∧
    record.connection = some connection ∧ record.dispatcher = dispatcher ∧
    Published snapshot session_id params.name ∧
    (gate.enabled = true → g.cleared = some params.arguments)

def with_held (g : CallLog) (events : List TerminalRequest) : CallLog := { g with held := events }

end CallLog

variable (crates : Crates)

/-- The arguments an answer to preflight clears the call with. -/
def cleared_arguments (answer : HttpAnswer) : Option Value :=
  match read_answer crates crates.preflight_response answer with
  | .ok response =>
    if response.schema_version ≠ 1 ∨ response.decision ≠ "allow" then none
    else some response.arguments
  | .error _ => none

/-- The sections that only read, or write what no record carries but the time of its last
call. -/
def RegOp.reads : ∀ {β : Type}, RegOp β → Prop
  | _, .snapshot | _, .get _ | _, .bump_last_call _ _ | _, .mark_tools_changed
  | _, .evict_expired | _, .list_cache => True
  | _, _ => False

def CallLog.after_reg (g : CallLog) : ∀ {β : Type}, RegOp β → β → CallLog
  | _, .snapshot, snapshot => { g with view := some snapshot, fetched := none }
  | _, .get session_id, record => { g with fetched := record.map fun record => (session_id, record) }
  | _, _, _ => g

def CallLog.after_post (g : CallLog) (answer : HttpAnswer) : ServiceRequest → CallLog
  | .preflight _ => { g with cleared := cleared_arguments crates answer }
  | _ => g

def CallLog.after_mask (g : CallLog) : ∀ {β : Type}, MaskOp β → β → CallLog
  | _, .new_uuid, uuid => { g with call_id := g.call_id.or (some uuid) }
  | _, .post request, answer => g.after_post crates answer request
  | _, .lock_outbox, events => g.with_held events
  | _, .persist _, _ | _, .unlock_outbox, _ => g

def CallLog.posts (g : CallLog) : ServiceRequest → Prop
  | .preflight request => g.identifies request.call_id request.instance_id
  | .finalize request => g.identifies request.call_id request.instance_id
  | .terminal event => g.knows event

def regProtocol : Protocol RegOp CallLog where
  allows _ _ op := op.reads
  next g _ op answer := g.after_reg op answer

def maskProtocol : Protocol MaskOp CallLog where
  allows g _ op :=
    match op with
    | .post request => g.posts request
    | .persist events => ∀ event ∈ events, g.knows event
    | _ => True
  next g _ op answer := g.after_mask crates op answer

def callProtocol (gate : MaskingGate) : Protocol ProxyOp CallLog where
  allows g _ op :=
    match op with
    | .reg op => regProtocol.allows g op
    | .mask op => (maskProtocol crates).allows g op
    | .enqueue dispatcher connection params _ => g.admits gate dispatcher connection params
    | .now => True
  next g _ op answer :=
    match op, answer with
    | .reg op, answer => g.after_reg op answer
    | .mask op, answer => g.after_mask crates op answer
    | _, _ => g

/-! ## The requests to the service -/

section Masking

variable {crates} {g : CallLog}

theorem follows_request_json {R : Type} {decode : List UInt8 → Option R} (request : ServiceRequest)
    (posts : g.posts request) :
    (maskProtocol crates).Follows (fun g' result =>
      (g' = g ∧ result = .error .InvalidResponse) ∨
        ∃ answer, g' = g.after_mask crates (.post request) answer ∧
          result = read_answer crates decode answer) g (request_json crates decode request) := by
  unfold request_json
  split
  · exact .inl ⟨rfl, rfl⟩
  · exact ⟨posts, fun answer => .inr ⟨answer, rfl, rfl⟩⟩

-- The programs above are followed through what is known of an exchange, not by computing it.
attribute [local irreducible] request_json

theorem follows_request_twice {R : Type} {decode : List UInt8 → Option R}
    (request : ServiceRequest) (posts : g.posts request)
    (quiet : ∀ answer, g.after_mask crates (.post request) answer = g) :
    (maskProtocol crates).Follows (fun g' _ => g' = g) g (request_twice crates decode request) := by
  have once : (maskProtocol crates).Follows (fun g' _ => g' = g) g
      (request_json crates decode request) := by
    refine (follows_request_json request posts).mono ?_
    rintro g' result (⟨same, -⟩ | ⟨answer, same, -⟩)
    · exact same
    · exact same.trans (quiet answer)
  refine Protocol.Follows.bind once ?_
  rintro _ result rfl
  split
  · exact once
  · rfl

theorem follows_terminal {event : TerminalRequest} (knows : g.knows event) :
    (maskProtocol crates).Follows (fun g' _ => g' = g) g
      (MaskingServiceClient.terminal crates event) :=
  follows_request_twice (.terminal event) knows fun _ => rfl

/-! ## The outbox -/

theorem follows_flush {events : List TerminalRequest} (knows : ∀ event ∈ events, g.knows event) :
    (maskProtocol crates).Follows (fun g' _ => g' = g) g
      (MaskingGate.flush_terminal_locked crates events) := by
  induction events with
  | nil => rfl
  | cons event rest ih =>
    have others : ∀ other ∈ rest, g.knows other :=
      fun other member => knows other (List.mem_cons_of_mem _ member)
    refine Protocol.Follows.bind (follows_terminal (knows event (List.mem_cons_self ..))) ?_
    rintro _ result rfl
    dsimp only
    split
    · rfl
    · refine ⟨others, fun persisted => ?_⟩
      cases persisted with
      | true => exact ih others
      | false => rfl

theorem follows_enqueue {events : List TerminalRequest} {event : TerminalRequest}
    (owns : g.owns event) :
    (maskProtocol crates).Follows
      (fun g' result => g' = g.with_held events ∧
        ∀ events', result = .ok events' → ∀ other ∈ events', g'.knows other)
      (g.with_held events) (TerminalOutbox.enqueue crates events event) := by
  have old : ∀ other ∈ events, (g.with_held events).knows other := fun other member => .inl member
  have all : ∀ other ∈ events ++ [event], (g.with_held events).knows other := by
    intro other member
    rcases List.mem_append.mp member with member | new
    · exact old other member
    · obtain rfl := List.mem_singleton.mp new
      exact .inr owns
  rcases TerminalOutbox.enqueue_cases crates events event with
    ⟨error, refused⟩ | ⟨-, known⟩ | ⟨-, -, -, new⟩
  · rw [refused]
    exact ⟨rfl, nofun⟩
  · rw [known]
    refine ⟨rfl, fun events' ok => ?_⟩
    cases ok
    exact old
  · rw [new]
    refine ⟨all, fun persisted => ?_⟩
    cases persisted with
    | false => exact ⟨rfl, nofun⟩
    | true =>
      refine ⟨rfl, fun events' ok => ?_⟩
      cases ok
      exact all

/-- Recording an event of the call changes nothing of the log but what was read from the
outbox. -/
theorem follows_record_terminal (gate : MaskingGate) {event : TerminalRequest}
    (owns : g.owns event) :
    (maskProtocol crates).Follows (fun g' _ => ∃ events, g' = g.with_held events) g
      (gate.record_terminal crates event) := by
  unfold MaskingGate.record_terminal
  split
  · exact ⟨g.held, rfl⟩
  · refine Protocol.follows_perform.mpr
      ⟨trivial, fun events => Protocol.Follows.bind (follows_enqueue owns) ?_⟩
    rintro _ result ⟨rfl, known⟩
    cases result with
    | error error => exact ⟨trivial, fun _ => ⟨events, rfl⟩⟩
    | ok events' =>
      refine Protocol.Follows.bind (follows_flush (known events' rfl)) ?_
      rintro _ _ rfl
      exact ⟨trivial, fun _ => ⟨events, rfl⟩⟩

theorem follows_close (gate : MaskingGate) {event : TerminalRequest} (failure : MaskingFailure)
    (correlation_id : String) (owns : g.owns event) :
    (maskProtocol crates).Follows (fun g' _ => ∃ events, g' = g.with_held events) g
      (gate.close crates event failure correlation_id) := by
  refine Protocol.Follows.bind (follows_record_terminal gate owns) ?_
  rintro _ result ⟨events, rfl⟩
  cases result <;> exact ⟨events, rfl⟩

/-! ## The gate -/

variable {context : MaskingCallContext}

/-- The context is that of the call and of the record it fetched. -/
def CallLog.holds (g : CallLog) (context : MaskingCallContext) : Prop :=
  g.identifies context.call_id context.database.instance_id

theorem CallLog.owns_verified (holds : g.holds context) (error_code : String) :
    g.owns (MaskingGate.verified_terminal context error_code) := by
  refine ⟨holds.1, fun instance_id same => ?_⟩
  cases same
  exact holds.2

theorem follows_preflight (gate : MaskingGate) (holds : g.holds context) (arguments : Value) :
    (maskProtocol crates).Follows
      (fun g' result => ∀ arguments', result = .ok arguments' →
        g' = { g with cleared := some arguments' })
      g (gate.preflight crates context arguments) := by
  refine Protocol.Follows.bind (follows_request_json (.preflight _) holds) ?_
  rintro g' result (⟨rfl, rfl⟩ | ⟨answer, rfl, read⟩)
  · refine Protocol.Follows.bind (follows_close gate _ _ (CallLog.owns_verified holds _)) ?_
    exact fun _ _ _ => nofun
  · have holds' : (g.after_mask crates (.post (.preflight (MaskingGate.preflight_request context
        arguments))) answer).holds context := holds
    cases result with
    | error error =>
      refine Protocol.Follows.bind (follows_close gate _ _ (CallLog.owns_verified holds' _)) ?_
      exact fun _ _ _ => nofun
    | ok response =>
      dsimp only
      split
      · refine Protocol.Follows.bind (follows_close gate _ _ (CallLog.owns_verified holds' _)) ?_
        exact fun _ _ _ => nofun
      · rename_i allowed
        intro arguments' same
        cases same
        have cleared : cleared_arguments crates answer = some response.arguments := by
          rw [cleared_arguments, ← read]
          exact if_neg allowed
        exact congrArg (fun cleared => { g with cleared }) cleared

theorem follows_finalize (gate : MaskingGate) (holds : g.holds context) (outcome : FinalizeOutcome)
    (field_sources : Option Value) :
    (maskProtocol crates).Follows (fun g' _ => ∃ events, g' = g.with_held events) g
      (gate.finalize crates context outcome field_sources) := by
  have sent : (maskProtocol crates).Follows (fun g' _ => g' = g) g
      (MaskingServiceClient.finalize crates
        (MaskingGate.finalize_request context outcome field_sources)) := by
    unfold MaskingServiceClient.finalize
    split
    · rfl
    · rename_i request serialized
      refine follows_request_twice (.finalize request) ?_ fun _ => rfl
      unfold serialize_finalize_request at serialized
      split at serialized
      · cases serialized
        exact holds
      · split at serialized <;> cases serialized
        exact holds
  refine Protocol.Follows.bind sent ?_
  rintro g' result rfl
  cases result with
  | error error =>
    refine Protocol.Follows.bind (follows_close gate _ _ (CallLog.owns_verified holds _)) ?_
    exact fun _ _ closed => closed
  | ok response =>
    dsimp only
    split
    · refine Protocol.Follows.bind (follows_close gate _ _ (CallLog.owns_verified holds _)) ?_
      exact fun _ _ closed => closed
    · exact ⟨g'.held, rfl⟩

/-- A passed gate leaves a context of the call, and the arguments it was cleared with. -/
theorem follows_pass_gate (gate : MaskingGate) (caller : CallerInfo) (name : String)
    {session_id : String} {record : SessionRecord} (arguments : Value)
    (fetched : g.fetched = some (session_id, record)) (fresh : g.call_id = none) :
    (maskProtocol crates).Follows
      (fun g' result => ∀ context arguments', result = .ok (context, arguments') →
        g'.view = g.view ∧ g'.fetched = g.fetched ∧
        (gate.enabled = true → g'.cleared = some arguments') ∧
        ∀ passed, context = some passed → g'.holds passed)
      g (pass_gate crates gate caller name record arguments) := by
  unfold pass_gate
  split
  · rename_i disabled
    intro context arguments' same
    cases same
    refine ⟨rfl, rfl, fun enabled => ?_, nofun⟩
    rw [enabled] at disabled
    cases disabled
  · refine Protocol.follows_perform.mpr ⟨trivial, fun call_id => ?_⟩
    refine Protocol.follows_perform.mpr ⟨trivial, fun correlation_id => ?_⟩
    generalize here : (maskProtocol crates).next ((maskProtocol crates).next g .new_uuid call_id)
      .new_uuid correlation_id = g'
    have drawn : g' = { g with call_id := some call_id } := by
      rw [← here]
      change { g with call_id := (g.call_id.or (some call_id)).or (some correlation_id) } = _
      rw [fresh]
      rfl
    split
    · have owns (error_code : String) : g'.owns
          (MaskingGate.unverified_terminal call_id correlation_id name error_code) :=
        ⟨by rw [drawn]; rfl, fun _ same => by cases same⟩
      refine Protocol.Follows.bind (follows_close gate _ _ (owns _)) ?_
      exact fun _ _ _ _ _ => nofun
    · rename_i identity verified
      have keyed : g'.keyed identity.instance_id := by
        refine ⟨session_id, record, by rw [drawn]; exact fetched, ?_⟩
        obtain ⟨key, found, rfl⟩ := Option.map_eq_some_iff.mp verified
        exact found
      have holds : g'.holds (MaskingGate.call_context identity caller name call_id correlation_id) :=
        ⟨by rw [drawn]; rfl, keyed⟩
      refine Protocol.Follows.bind (follows_preflight gate holds arguments) ?_
      intro g'' result passed
      cases result with
      | error failure => exact fun _ _ => nofun
      | ok arguments' =>
        intro context arguments'' same
        cases same
        rw [passed arguments' rfl]
        refine ⟨by rw [drawn], by rw [drawn], fun _ => rfl, ?_⟩
        rintro _ ⟨⟩
        exact holds

attribute [local irreducible] MaskingServiceClient.finalize in
theorem follows_answer_outcome (gate : MaskingGate) {context : Option MaskingCallContext}
    (holds : ∀ passed, context = some passed → g.holds passed)
    (outcome : Except DispatcherError ToolCallResult) :
    (maskProtocol crates).Follows (fun _ _ => True) g
      (answer_outcome crates gate context outcome) := by
  cases context with
  | none => trivial
  | some context =>
    refine Protocol.Follows.bind (follows_finalize gate (holds context rfl) _ _) ?_
    intro g' result _
    cases result <;> trivial

end Masking

/-! ## Routing -/

section Routing

variable {crates} {g : CallLog}

/-- What routing leaves in the log: the snapshot, and the active record it leads to. -/
def CallLog.routed (g : CallLog) (name : String) (resolved : ResolvedCall)
    (record : SessionRecord) : Prop :=
  ∃ snapshot, g.view = some snapshot ∧ g.fetched = some (resolved.session_id, record) ∧
    record.state = .Active ∧ resolved.tool_name = name ∧
    Published snapshot resolved.session_id name

/-- Reading the cache leaves the log alone. -/
theorem follows_on_resolve_error (name : String) (error : ResolveError) :
    regProtocol.Follows (fun g' _ => g' = g) g (on_resolve_error name error) := by
  have listed : regProtocol.Follows (fun g' _ => g' = g) g list_all := by
    refine Protocol.follows_perform.mpr ⟨trivial, fun evicted => ?_⟩
    match evicted with
    | none => rfl
    | some true => exact ⟨trivial, fun _ => ⟨trivial, fun _ => rfl⟩⟩
    | some false => exact ⟨trivial, fun _ => rfl⟩
  cases error with
  | SessionRequired => rfl
  | SessionToolMismatch => rfl
  | NotProxyTool =>
    have found : regProtocol.Follows (fun g' _ => g' = g) g (lookup_cache_entry name) := by
      refine Protocol.Follows.bind listed ?_
      rintro _ _ rfl
      rfl
    refine Protocol.Follows.bind found ?_
    rintro _ hit rfl
    cases hit <;> rfl

theorem follows_fetch (resolved : ResolvedCall) :
    regProtocol.Follows
      (fun g' result => g'.view = g.view ∧ g'.call_id = g.call_id ∧
        ∀ record, result = .ok record →
          g'.fetched = some (resolved.session_id, record) ∧ record.state = .Active)
      g (fetch resolved) := by
  refine Protocol.follows_perform.mpr ⟨trivial, fun found => ?_⟩
  cases found with
  | none => exact ⟨rfl, rfl, fun _ => nofun⟩
  | some record =>
    dsimp only
    split
    · exact ⟨rfl, rfl, fun _ => nofun⟩
    · rename_i active
      refine ⟨rfl, rfl, ?_⟩
      rintro _ ⟨⟩
      exact ⟨rfl, not_not.mp active⟩

theorem follows_resolve (name : String) (requested_session_id : Option String) :
    regProtocol.Follows
      (fun g' result => g'.call_id = g.call_id ∧
        ∀ resolved record, result = .ok (resolved, record) → g'.routed name resolved record)
      g (resolve crates name requested_session_id) := by
  refine Protocol.follows_perform.mpr ⟨trivial, fun snapshot => ?_⟩
  split
  · refine Protocol.Follows.bind (follows_on_resolve_error name _) ?_
    rintro _ answer rfl
    exact ⟨rfl, fun _ _ => nofun⟩
  · rename_i resolved ok
    obtain ⟨named, published⟩ := resolve_published_ok ok
    refine Protocol.Follows.bind (follows_fetch resolved) ?_
    rintro g' result ⟨view, call_id, found⟩
    cases result with
    | error error => exact ⟨call_id, fun _ _ => nofun⟩
    | ok record =>
      refine ⟨call_id, ?_⟩
      rintro _ _ ⟨⟩
      obtain ⟨fetched, active⟩ := found record rfl
      exact ⟨snapshot, view, fetched, active, named, published⟩

theorem follows_validate_explicit_target (session_id tool_name : String) :
    regProtocol.Follows (fun g' _ => g'.call_id = g.call_id) g
      (validate_explicit_target session_id tool_name) := by
  refine Protocol.follows_perform.mpr ⟨trivial, fun found => ?_⟩
  cases found with
  | none => rfl
  | some record =>
    dsimp only
    split
    · rfl
    · split <;> rfl

theorem follows_route (name : String) (requested_session_id : Option String) :
    regProtocol.Follows
      (fun g' result => g'.call_id = g.call_id ∧
        ∀ resolved record, result = .ok (resolved, record) → g'.routed name resolved record)
      g (route crates name requested_session_id) := by
  cases requested_session_id with
  | none => exact follows_resolve name none
  | some session_id =>
    refine Protocol.Follows.bind (follows_validate_explicit_target session_id name) ?_
    intro g' result same
    cases result with
    | error error => exact ⟨same, fun _ _ => nofun⟩
    | ok checked =>
      refine (follows_resolve name (some session_id)).mono ?_
      exact fun _ _ resolved => ⟨resolved.1.trans same, resolved.2⟩

end Routing

/-! ## The call -/

variable {crates}

theorem follows_forward (gate : MaskingGate) {g : CallLog} {name : String} {resolved : ResolvedCall}
    {record : SessionRecord} {context : Option MaskingCallContext} {arguments : Value}
    (routed : g.routed name resolved record)
    (cleared : gate.enabled = true → g.cleared = some arguments)
    (holds : ∀ passed, context = some passed → g.holds passed) (no_deadline_requested : Bool) :
    (callProtocol crates gate).Follows (fun _ _ => True) g
      (forward crates gate resolved record context arguments no_deadline_requested) := by
  obtain ⟨snapshot, viewed, fetched, active, rfl, published⟩ := routed
  unfold forward
  split
  · trivial
  · rename_i connection connected
    have timed : (callProtocol crates gate).Follows (fun g' _ => g' = g) g
        (proxy_call_deadline record.kind no_deadline_requested) := by
      unfold proxy_call_deadline
      split
      · split <;> rfl
      · exact ⟨trivial, fun _ => rfl⟩
    refine Protocol.Follows.bind timed ?_
    rintro _ deadline rfl
    cases deadline with
    | error error => trivial
    | ok deadline =>
      refine ⟨trivial, fun now => ⟨trivial, fun _ => ⟨?_, fun outcome => ?_⟩⟩⟩
      · exact ⟨snapshot, _, record, viewed, fetched, active, connected, rfl, published, cleared⟩
      · exact Protocol.follows_lift.mpr (follows_answer_outcome gate holds outcome)

/-- **A call keeps to its protocol.** -/
theorem call_follows (gate : MaskingGate) (caller : CallerInfo) (request : CallToolRequestParams) :
    (callProtocol crates gate).Follows (fun _ _ => True) .empty
      (call_proxy_tool_inner crates gate caller request) := by
  unfold call_proxy_tool_inner
  split
  · trivial
  · refine Protocol.Follows.bind (Protocol.follows_lift.mpr (follows_route request.name _)) ?_
    intro g result routed
    cases result with
    | error answer => trivial
    | ok target =>
      obtain ⟨resolved, record⟩ := target
      have here := routed.2 resolved record rfl
      obtain ⟨snapshot, viewed, fetched, rest⟩ := here
      refine Protocol.Follows.bind (Protocol.follows_lift.mpr
        (follows_pass_gate gate caller request.name _ fetched routed.1)) ?_
      intro g' result passed
      cases result with
      | error failure => trivial
      | ok target =>
        obtain ⟨context, arguments⟩ := target
        obtain ⟨view, same, cleared, holds⟩ := passed context arguments rfl
        exact follows_forward gate ⟨snapshot, view.trans viewed, same.trans fetched, rest⟩ cleared
          holds _

end SessionManager
