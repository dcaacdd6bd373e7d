import SessionManager.Server

/-!
# What the gate records of a refused call

A call that the gate refuses is closed with a terminal event.  `Refusal` lists the events that
`call_proxy_tool_inner` and the gate build; `Recordable` says that the outbox takes every one of
them for well formed.  The label of the caller and the code of the failure are cut to what the
outbox accepts; the names of the tool and of the database are not (`recordable_iff`).
-/

namespace SessionManager

open Json Effect

/-! ## Labels of callers -/

theorem is_control_mask (c : Char) : is_control (if is_control c then '?' else c) = false := by
  cases control : is_control c with
  | false => simpa using control
  | true => rfl

theorem valid_masked (label : String) :
    valid_caller (if label.isEmpty then none
      else some (String.ofList ((label.toList.map fun c => if is_control c then '?' else c).take
        MAX_CALLER_LABEL_CHARS))) = true := by
  cases label.isEmpty with
  | true => rfl
  | false =>
    have short (chars : List Char) :
        (chars.take MAX_CALLER_LABEL_CHARS).length ≤ MAX_CALLER_LABEL_CHARS :=
      List.length_take_le ..
    simp only [Bool.false_eq_true, if_false, valid_caller, Bool.and_eq_true, decide_eq_true_eq,
      Bool.not_eq_true', String.length_ofList, String.toList_ofList]
    refine ⟨short _, List.any_eq_false.mpr ?_⟩
    intro c member
    obtain ⟨c, -, rfl⟩ := List.mem_map.mp (List.mem_of_mem_take member)
    rw [is_control_mask]
    exact Bool.false_ne_true

/-- **Every label passes the outbox.** -/
theorem valid_label (caller : CallerInfo) : valid_caller caller.label = true :=
  valid_masked _

/-! ## The events -/

variable (crates : Crates)

/-- The terminal events a refused call of the tool is closed with. -/
inductive Refusal (record : SessionRecord) (caller : CallerInfo)
    (tool_name call_id correlation_id : String) : TerminalRequest → Prop
  | unverified (keyless : MaskingGate.verify_database record = none) :
    Refusal record caller tool_name call_id correlation_id
      (MaskingGate.unverified_terminal call_id correlation_id tool_name
        (SessionManager.unverified correlation_id).code)
  | failed {identity : SessionDatabaseIdentity}
    (verified : MaskingGate.verify_database record = some identity) (error : ClientError) :
    Refusal record caller tool_name call_id correlation_id
      (MaskingGate.verified_terminal
        (MaskingGate.call_context identity caller tool_name call_id correlation_id)
        (terminal_fallback_code (map_client_error error correlation_id).code))
  | invalid {identity : SessionDatabaseIdentity}
    (verified : MaskingGate.verify_database record = some identity) :
    Refusal record caller tool_name call_id correlation_id
      (MaskingGate.verified_terminal
        (MaskingGate.call_context identity caller tool_name call_id correlation_id)
        (MaskingGate.masking_failed
          (MaskingGate.call_context identity caller tool_name call_id correlation_id)).code)

/-- The outbox had the call already, was full, or could not be written. -/
def Unstored (event : TerminalRequest) (tr : List (Event MaskOp)) : Prop :=
  (∃ events, (⟨.lock_outbox, events⟩ : Event MaskOp) ∈ tr ∧
      (event.call_id ∈ events.map TerminalRequest.call_id ∨
        MAX_TERMINAL_OUTBOX_EVENTS ≤ events.length)) ∨
    ∃ events, (⟨.persist events, false⟩ : Event MaskOp) ∈ tr

/-- The refusals of a call can be recorded: their events are well formed, the outbox never turns
them down as malformed, and a refused agent gets the failure itself unless they were not stored. -/
structure Recordable (record : SessionRecord) (caller : CallerInfo)
    (tool_name call_id correlation_id : String) : Prop where
  valid : ∀ event, Refusal record caller tool_name call_id correlation_id event →
    valid_terminal crates event = true
  accepted : ∀ event, Refusal record caller tool_name call_id correlation_id event →
    ∀ events, TerminalOutbox.enqueue crates events event ≠
      .ret (.error "invalid masking terminal event")
  answered : ∀ event, Refusal record caller tool_name call_id correlation_id event →
    ∀ (gate : MaskingGate) (failure : MaskingFailure), gate.enabled = true →
      (gate.close crates event failure correlation_id).Ensures fun tr answer =>
        answer = failure ∨ answer = history_unavailable correlation_id ∧ Unstored event tr

/-- The name of the tool and the names of the database, if there is one, are within the bounds
of the outbox. -/
structure Fits (record : SessionRecord) (tool_name : String) : Prop where
  named : tool_name ≠ ""
  tool_name : tool_name.utf8ByteSize ≤ 128
  cluster_server : ∀ identity, MaskingGate.verify_database record = some identity →
    identity.cluster_server.utf8ByteSize ≤ 512
  infobase_name : ∀ identity, MaskingGate.verify_database record = some identity →
    identity.infobase_name.utf8ByteSize ≤ 512

/-- The database of a record has its coordinates. -/
def SessionRecord.Located (record : SessionRecord) : Prop :=
  ∀ identity, MaskingGate.verify_database record = some identity →
    identity.cluster_server ≠ "" ∧ identity.infobase_name ≠ ""

variable {crates}

theorem terminal_fallback_code_mem (code : String) :
    terminal_codes.contains (terminal_fallback_code code) = true := by
  unfold terminal_fallback_code
  split
  · assumption
  · decide

theorem isEmpty_eq_false_iff {text : String} : text.isEmpty = false ↔ text ≠ "" := by
  rw [← Bool.not_eq_true, String.isEmpty_iff]

theorem valid_unverified_terminal_iff {tool_name call_id correlation_id : String}
    (call : crates.is_uuid call_id = true) (correlation : crates.is_uuid correlation_id = true) :
    valid_terminal crates (MaskingGate.unverified_terminal call_id correlation_id tool_name
        (unverified correlation_id).code) = true ↔
      tool_name ≠ "" ∧ tool_name.utf8ByteSize ≤ 128 := by
  have code : valid_scope (unverified correlation_id).code .Unverified = true := by
    simp only [valid_scope, unverified, MaskingFailure.with_correlation]
    decide
  have short : decide (tool_name.utf8ByteSize ≤ 128) = true ↔ tool_name.utf8ByteSize ≤ 128 :=
    decide_eq_true_iff
  simp only [valid_terminal, MaskingGate.unverified_terminal, call, correlation, code,
    Bool.and_eq_true, Bool.not_eq_true', isEmpty_eq_false_iff, beq_self_eq_true, true_and, and_true]
  exact and_congr_right fun _ => short

theorem valid_verified_terminal_iff {identity : SessionDatabaseIdentity} {caller : CallerInfo}
    {tool_name call_id correlation_id code : String} (call : crates.is_uuid call_id = true)
    (correlation : crates.is_uuid correlation_id = true)
    (known : terminal_codes.contains code = true)
    (located : identity.cluster_server ≠ "" ∧ identity.infobase_name ≠ "") :
    valid_terminal crates (MaskingGate.verified_terminal
        (MaskingGate.call_context identity caller tool_name call_id correlation_id) code) = true ↔
      tool_name ≠ "" ∧ tool_name.utf8ByteSize ≤ 128 ∧ identity.cluster_server.utf8ByteSize ≤ 512 ∧
        identity.infobase_name.utf8ByteSize ≤ 512 := by
  have short : decide (tool_name.utf8ByteSize ≤ 128) = true ↔ tool_name.utf8ByteSize ≤ 128 :=
    decide_eq_true_iff
  simp only [valid_terminal, valid_scope, MaskingGate.verified_terminal, MaskingGate.call_context,
    call, correlation, known, valid_label, Bool.and_eq_true, Bool.not_eq_true',
    isEmpty_eq_false_iff, decide_eq_true_eq, beq_self_eq_true, true_and, and_true, ne_eq, located.1,
    located.2, not_false_eq_true, and_assoc]
  exact and_congr_right fun _ => and_congr_left fun _ => short

/-- A refusal is well formed exactly when the names fit. -/
theorem Refusal.valid_iff {record : SessionRecord} {caller : CallerInfo}
    {tool_name call_id correlation_id : String} {event : TerminalRequest}
    (refusal : Refusal record caller tool_name call_id correlation_id event)
    (located : record.Located) (call : crates.is_uuid call_id = true)
    (correlation : crates.is_uuid correlation_id = true) :
    valid_terminal crates event = true ↔ Fits record tool_name := by
  have database {identity : SessionDatabaseIdentity} {code : String}
      (verified : MaskingGate.verify_database record = some identity)
      (known : terminal_codes.contains code = true) :
      valid_terminal crates (MaskingGate.verified_terminal
        (MaskingGate.call_context identity caller tool_name call_id correlation_id) code) = true ↔
      Fits record tool_name := by
    rw [valid_verified_terminal_iff call correlation known (located identity verified)]
    constructor
    · intro ⟨named, short, server, infobase⟩
      refine ⟨named, short, fun other same => ?_, fun other same => ?_⟩
      all_goals cases verified.symm.trans same
      · exact server
      · exact infobase
    · intro fits
      exact ⟨fits.named, fits.tool_name, fits.cluster_server identity verified,
        fits.infobase_name identity verified⟩
  cases refusal with
  | unverified keyless =>
    rw [valid_unverified_terminal_iff call correlation]
    constructor
    · intro ⟨named, short⟩
      refine ⟨named, short, fun identity same => ?_, fun identity same => ?_⟩
      all_goals cases keyless.symm.trans same
    · exact fun fits => ⟨fits.named, fits.tool_name⟩
  | failed verified error => exact database verified (terminal_fallback_code_mem _)
  | invalid verified =>
    have known : terminal_codes.contains "MASKING_FAILED" = true := by decide
    exact database verified known

/-- Some refusal can be built of every record. -/
theorem exists_refusal (record : SessionRecord) (caller : CallerInfo)
    (tool_name call_id correlation_id : String) :
    ∃ event, Refusal record caller tool_name call_id correlation_id event := by
  cases verified : MaskingGate.verify_database record with
  | none => exact ⟨_, .unverified verified⟩
  | some identity => exact ⟨_, .invalid verified⟩

/-! ## Closing a call -/

/-- A well-formed event is turned down only over the call's own id or for lack of room. -/
theorem enqueue_of_valid {event : TerminalRequest} (valid : valid_terminal crates event = true)
    (events : List TerminalRequest) :
    (∃ error, TerminalOutbox.enqueue crates events event = .ret (.error error) ∧
        error ≠ "invalid masking terminal event" ∧
        (event.call_id ∈ events.map TerminalRequest.call_id ∨
          MAX_TERMINAL_OUTBOX_EVENTS ≤ events.length)) ∨
      TerminalOutbox.enqueue crates events event = .ret (.ok events) ∨
      TerminalOutbox.enqueue crates events event = .op (.persist (events ++ [event])) fun written =>
        if written then .ret (.ok (events ++ [event]))
        else .ret (.error "cannot persist masking terminal outbox") := by
  rw [TerminalOutbox.enqueue, valid, if_neg (by decide : ¬(!true) = true)]
  cases found : events.find? fun existing => existing.call_id == event.call_id with
  | some existing =>
    dsimp only
    by_cases same : existing = event
    · rw [if_pos same]
      exact .inr (.inl rfl)
    · rw [if_neg same]
      have own := List.find?_some found
      refine .inl ⟨_, rfl, by decide, .inl ?_⟩
      exact List.mem_map.mpr ⟨existing, List.mem_of_find?_eq_some found, beq_iff_eq.mp own⟩
  | none =>
    dsimp only
    by_cases full : MAX_TERMINAL_OUTBOX_EVENTS ≤ events.length
    · rw [if_pos full]
      exact .inl ⟨_, rfl, by decide, .inr full⟩
    · rw [if_neg full]
      exact .inr (.inr rfl)

theorem record_terminal_of_valid {event : TerminalRequest}
    (valid : valid_terminal crates event = true) {gate : MaskingGate} (enabled : gate.enabled = true) :
    (gate.record_terminal crates event).Ensures fun tr result =>
      result = .ok () ∨ (∃ error, result = .error error) ∧ Unstored event tr := by
  have flushed (events : List TerminalRequest) (past : List (Event MaskOp)) :
      (MaskingGate.flush_terminal_locked crates events >>= fun _ =>
        Prog.perform MaskOp.unlock_outbox >>= fun _ => pure (.ok ())).Ensures
          fun tr (result : Except String Unit) =>
            result = .ok () ∨ (∃ error, result = .error error) ∧ Unstored event (past ++ tr) := by
    refine Prog.Ensures.bind (P := fun _ _ => True) (fun _ _ _ => trivial) ?_
    intro _ _ _
    exact Prog.ensures_perform.mpr fun _ => Prog.ensures_ret.mpr (.inl rfl)
  rw [MaskingGate.record_terminal, enabled, if_neg (by decide : ¬(!true) = true)]
  refine Prog.ensures_perform.mpr fun events => ?_
  rcases enqueue_of_valid valid events with
    ⟨error, refused, -, here⟩ | kept | written
  · rw [refused]
    refine Prog.ensures_perform.mpr fun _ => Prog.ensures_ret.mpr ?_
    exact .inr ⟨⟨error, rfl⟩, .inl ⟨events, List.mem_cons_self, here⟩⟩
  · rw [kept]
    exact flushed events [⟨.lock_outbox, events⟩]
  · rw [written]
    refine Prog.ensures_op.mpr fun written => ?_
    cases written with
    | true =>
      exact flushed _ [⟨.lock_outbox, events⟩, ⟨.persist (events ++ [event]), true⟩]
    | false =>
      refine Prog.ensures_perform.mpr fun _ => Prog.ensures_ret.mpr ?_
      refine .inr ⟨⟨_, rfl⟩, .inr ⟨events ++ [event], ?_⟩⟩
      exact List.mem_cons_of_mem _ List.mem_cons_self

/-- Whoever closes a call with a well-formed event reports the failure, unless it was not stored. -/
theorem close_of_valid {event : TerminalRequest} (valid : valid_terminal crates event = true)
    {gate : MaskingGate} (enabled : gate.enabled = true) (failure : MaskingFailure)
    (correlation_id : String) :
    (gate.close crates event failure correlation_id).Ensures fun tr answer =>
      answer = failure ∨ answer = history_unavailable correlation_id ∧ Unstored event tr := by
  unfold MaskingGate.close
  refine (record_terminal_of_valid valid enabled).bind ?_
  intro tr result recorded
  rcases recorded with done | ⟨⟨error, failed⟩, unstored⟩
  · subst done
    exact Prog.ensures_ret.mpr (.inl rfl)
  · subst failed
    refine Prog.ensures_ret.mpr (.inr ⟨rfl, ?_⟩)
    rwa [List.append_nil]

/-- **The refusals of a call can be recorded exactly when the names fit.** -/
theorem recordable_iff {record : SessionRecord} (located : record.Located) (caller : CallerInfo)
    (tool_name : String) {call_id correlation_id : String} (call : crates.is_uuid call_id = true)
    (correlation : crates.is_uuid correlation_id = true) :
    Recordable crates record caller tool_name call_id correlation_id ↔ Fits record tool_name := by
  constructor
  · intro recordable
    obtain ⟨event, refusal⟩ := exists_refusal record caller tool_name call_id correlation_id
    exact (refusal.valid_iff located call correlation).mp (recordable.valid event refusal)
  · intro fits
    have valid {event : TerminalRequest}
        (refusal : Refusal record caller tool_name call_id correlation_id event) :
        valid_terminal crates event = true := (refusal.valid_iff located call correlation).mpr fits
    refine ⟨fun event refusal => valid refusal, fun event refusal events malformed => ?_,
      fun event refusal gate failure enabled => close_of_valid (valid refusal) enabled failure _⟩
    rcases enqueue_of_valid (valid refusal) events with ⟨error, refused, other, -⟩ | kept | written
    · rw [refused] at malformed
      cases malformed
      exact other rfl
    · rw [kept] at malformed
      cases malformed
    · rw [written] at malformed
      cases malformed

end SessionManager
