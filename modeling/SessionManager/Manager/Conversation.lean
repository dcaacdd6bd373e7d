import SessionManager.Manager.Calls
import SessionManager.Manager.Runs

/-!
# What a client hears

The task of a socket takes its frames in turns, up to the first goodbye (`heard`).  A turn
answers a request with one response, which has its id, and a text that is no message with a parse
error; it answers nothing else (`Turn.Proper`).  A connection has at most one registration, and a
register that is refused leaves the registry and its cache alone.
-/

namespace SessionManager

open Json Effect

open Prog (perform)

variable {ι : Type}

/-! ## Frames and their answers -/

/-- A request of this method. -/
def Frame.asks (method : String) : Frame → Bool
  | .text (.request _ method' _) => method' == method
  | _ => false

/-- The frames up to the first goodbye. -/
def heard : List Frame → List Frame
  | [] => []
  | frame :: frames => if frame.asks methods.SESSION_BYE then [frame] else frame :: heard frames

/-- The messages a frame is answered with. -/
inductive Frame.Answered : Frame → List WireMessage → Prop
  | request {id : Id} {method : String} {params : Value} (result : RpcResult) :
    Answered (.text (.request id method params)) [.response id result]
  | notification {method : String} {params : Value} :
    Answered (.text (.notification method params)) []
  | response {id : Id} {result : RpcResult} : Answered (.text (.response id result)) []
  | unparsable {reason : String} :
    Answered (.unparsable reason) [.response .null (.error
      { code := error_codes.PARSE_ERROR, message := "parse error: " ++ reason, data := none })]
  | other : Answered .other []

/-! ## Requests -/

/-- The message a request puts on the channel of a connection. -/
def ManagerOp.emission : ∀ {β : Type}, ManagerOp ι β → Option (Nat × WireMessage)
  | _, .send connection msg => some (connection, msg)
  | _, .conn connection (.outbound_send msg) => some (connection, msg)
  | _, .disp _ connection (.conn (.outbound_send msg)) => some (connection, msg)
  | _, _ => none

def emitted (tr : List (Event (ManagerOp ι))) : List (Nat × WireMessage) :=
  tr.filterMap fun ev => ev.request.emission

def registered (tr : List (Event (ManagerOp ι))) : List Registration :=
  tr.filterMap fun ev => ev.request.registration ev.answer

/-- However it is answered, the request leaves the registry and its cache as they are. -/
def Spares [DecidableEq ι] (ev : Event (ManagerOp ι)) : Prop :=
  ∀ (i : ι) (w w' : ManagerWorld ι), managerSemantics i w ev.request ev.answer w' →
    w'.registry = w.registry

/-- Emits nothing and registers nothing. -/
def ManagerOp.Still {β : Type} (op : ManagerOp ι β) : Prop :=
  op.emission = none ∧ ∀ answer, op.registration answer = none

@[simp] theorem emitted_nil : emitted ([] : List (Event (ManagerOp ι))) = [] := rfl

@[simp] theorem registered_nil : registered ([] : List (Event (ManagerOp ι))) = [] := rfl

theorem emitted_cons (ev : Event (ManagerOp ι)) (tr : List (Event (ManagerOp ι))) :
    emitted (ev :: tr) = ev.request.emission.toList ++ emitted tr := by
  cases here : ev.request.emission <;> simp [emitted, here]

theorem registered_cons (ev : Event (ManagerOp ι)) (tr : List (Event (ManagerOp ι))) :
    registered (ev :: tr) = (ev.request.registration ev.answer).toList ++ registered tr := by
  cases here : ev.request.registration ev.answer <;> simp [registered, here]

theorem emitted_append (tr tr' : List (Event (ManagerOp ι))) :
    emitted (tr ++ tr') = emitted tr ++ emitted tr' := List.filterMap_append ..

theorem registered_append (tr tr' : List (Event (ManagerOp ι))) :
    registered (tr ++ tr') = registered tr ++ registered tr' := List.filterMap_append ..

theorem emitted_of_still {tr : List (Event (ManagerOp ι))} (still : ∀ ev ∈ tr, ev.request.Still) :
    emitted tr = [] :=
  List.filterMap_eq_nil_iff.mpr fun ev member => (still ev member).1

theorem registered_of_still {tr : List (Event (ManagerOp ι))}
    (still : ∀ ev ∈ tr, ev.request.Still) : registered tr = [] :=
  List.filterMap_eq_nil_iff.mpr fun ev member => (still ev member).2 ev.answer

theorem emitted_of_only {α : Type} {p : Prog (ManagerOp ι) α} (still : p.Only ManagerOp.Still) :
    p.Ensures fun tr _ => emitted tr = [] ∧ registered tr = [] :=
  still.ensures.mono fun _ _ still => ⟨emitted_of_still still, registered_of_still still⟩

theorem still_of_marks {β : Type} {op : RegOp β} (marks : op.marks) :
    (ManagerOp.reg op : ManagerOp ι β).Still := by
  cases op with
  | mark_tools_changed | mark_session_changed | evict_expired | put_cache =>
    exact ⟨rfl, fun _ => rfl⟩
  | _ => exact marks.elim

/-- A request that is no section of the registry leaves it alone. -/
theorem spares_of_outside [DecidableEq ι] {β : Type} {op : ManagerOp ι β} {answer : β}
    (outside : ∀ rop : RegOp β, op ≠ .reg rop) : Spares ⟨op, answer⟩ := by
  intro i w w' answered
  obtain ⟨rop, same, -⟩ | ⟨-, -, same⟩ := section_of_step answered
  · exact absurd same (outside rop)
  · exact same

/-- A refused registration changes nothing. -/
theorem spares_of_refused [DecidableEq ι] {params : SessionRegisterParams} {now : Nat}
    {connection : Option Nat} {error : RegisterError} :
    Spares (ι := ι) ⟨.reg (.register params now connection), .error error⟩ := by
  intro i w w' answered
  obtain ⟨rop, same, ran⟩ | ⟨-, outside, -⟩ := section_of_step answered
  · cases same
    have ran := RegOp.run_of_apply ran
    rw [RegOp.run, SessionRegistry.register] at ran
    split at ran
    · split at ran
      · exact (Prod.mk.inj ran).2.symm
      · cases ran
    · cases ran
  · exact absurd rfl (outside _)

/-! ## Turns -/

/-- A frame that was processed, and the requests made over it. -/
structure Turn (ι : Type) where
  frame : Frame
  events : List (Event (ManagerOp ι))

/-- The frame is answered as it should be, and a refused register changes nothing. -/
structure Turn.Proper [DecidableEq ι] (connection : Nat) (turn : Turn ι) : Prop where
  answered : ∃ messages, turn.frame.Answered messages ∧
    emitted turn.events = messages.map fun msg => (connection, msg)
  refused : turn.frame.asks methods.SESSION_REGISTER → ∀ id error,
    emitted turn.events = [(connection, .response id (.error error))] → ∀ ev ∈ turn.events, Spares ev

/-- How many registrations the task may still make. -/
def Next.room : Next → Nat
  | .proceed none => 1
  | _ => 0

/-- One turn of a socket that has registered as `peer`, or not yet. -/
structure Handled [DecidableEq ι] (connection : Nat) (peer : Option ConnectionIdentity)
    (frame : Frame) (tr : List (Event (ManagerOp ι))) (next : Next) : Prop where
  proper : Turn.Proper connection ⟨frame, tr⟩
  bye : frame.asks methods.SESSION_BYE = true ↔ next = .bye
  room : (registered tr).length + next.room ≤ (Next.proceed peer).room

section Program

variable [DecidableEq ι] {state : AppState} {decoders : Decoders} {connection : Nat}
  {peer : Option ConnectionIdentity}

/-- The key of a database is computed without the registry. -/
theorem database_key_spares (masking_gate : Option MaskingGate) (params : SessionRegisterParams) :
    (session_database_key masking_gate params : Prog (ManagerOp ι) _).Ensures fun tr _ =>
      emitted tr = [] ∧ registered tr = [] ∧ ∀ ev ∈ tr, Spares ev := by
  have none : emitted (ι := ι) [] = [] ∧ registered (ι := ι) [] = [] ∧
      ∀ ev ∈ ([] : List (Event (ManagerOp ι))), Spares ev :=
    ⟨rfl, rfl, fun ev member => absurd member List.not_mem_nil⟩
  unfold session_database_key
  split
  · rename_i gate cluster_server _
    cases gate.enabled with
    | false => exact Prog.ensures_ret.mpr none
    | true =>
      refine Prog.ensures_perform.mpr fun resolved => Prog.ensures_ret.mpr ⟨rfl, rfl, ?_⟩
      intro ev member
      cases List.mem_singleton.mp member
      exact spares_of_outside fun rop same => by cases same
  · exact Prog.ensures_ret.mpr none

omit [DecidableEq ι] in
/-- The section of a registration comes first; what follows an accepted one only marks. -/
theorem register_with_generation_ensures (params : SessionRegisterParams) (now : Nat)
    (connection : Option Nat) :
    (SessionRegistry.register_with_generation params now connection).Ensures fun tr answer =>
      ∃ rest : List (Event RegOp), tr = ⟨.register params now connection, answer⟩ :: rest ∧
        (∀ ev ∈ rest, ev.request.marks) ∧ ∀ error, answer = .error error → rest = [] := by
  unfold SessionRegistry.register_with_generation
  refine Prog.ensures_perform.mpr fun answer => ?_
  cases answer with
  | error error =>
    exact Prog.ensures_ret.mpr ⟨[], rfl, fun ev member => absurd member List.not_mem_nil,
      fun _ _ => rfl⟩
  | ok result =>
    refine Prog.ensures_perform.mpr fun _ => Prog.ensures_perform.mpr fun _ => ?_
    refine (upsert_tools_cache_marks _ _ _).ensures.bind fun tr _ marks => Prog.ensures_ret.mpr ?_
    refine ⟨⟨.mark_tools_changed, ()⟩ :: ⟨.mark_session_changed, ()⟩ :: tr, ?_, ?_, ?_⟩
    · rw [List.append_nil]
    · simp only [List.forall_mem_cons]
      exact ⟨trivial, trivial, marks⟩
    · exact fun error refused => by cases refused

/-- The answer to a register, and what it did. -/
structure Registers (connection : Nat) (id : Id) (tr : List (Event (ManagerOp ι))) (next : Next)
    (result : RpcResult) : Prop where
  answered : emitted tr = [(connection, .response id result)]
  proceeds : ∃ peer, next = .proceed peer
  room : (registered tr).length + next.room = 1
  refused : ∀ error, result = .error error → ∀ ev ∈ tr, Spares ev

theorem handle_register_ensures (id : Id) (params : Value) :
    (handle_register state decoders connection id params : Prog (ManagerOp ι) Next).Ensures
      fun tr next => ∃ result, Registers connection id tr next result := by
  have sent (msg : WireMessage) (answer : Bool) : Spares (ι := ι) ⟨.send connection msg, answer⟩ :=
    spares_of_outside fun rop same => by cases same
  have refused (past : List (Event (ManagerOp ι))) (silent : emitted past = [])
      (unregistered : registered past = []) (spares : ∀ ev ∈ past, Spares ev) (code : Int)
      (message : String) :
      (send_error connection id code message >>= fun _ => pure (.proceed none) :
        Prog (ManagerOp ι) Next).Ensures
          fun tr next => ∃ result, Registers connection id (past ++ tr) next result := by
    refine Prog.ensures_perform.mpr fun answer => Prog.ensures_ret.mpr ?_
    refine ⟨.error { code, message, data := none }, ?_, ⟨_, rfl⟩, ?_, fun error _ => ?_⟩
    · rw [emitted_append, silent]
      rfl
    · rw [registered_append, unregistered]
      rfl
    · intro ev member
      rcases List.mem_append.mp member with member | member
      · exact spares ev member
      · cases List.mem_singleton.mp member
        exact sent _ _
  unfold handle_register
  cases decoders.register_params params with
  | error reason => exact refused [] rfl rfl (fun ev member => absurd member List.not_mem_nil) _ reason
  | ok parsed =>
    refine Prog.ensures_perform.mpr fun now => ?_
    refine (database_key_spares state.masking_gate parsed).bind fun past database_key key => ?_
    refine (register_with_generation_ensures _ now (some connection)).lift.bind ?_
    rintro _ answer ⟨_, rfl, rest, rfl, marks, alone⟩
    have now_spares : Spares (ι := ι) ⟨.now, now⟩ := spares_of_outside fun rop same => by cases same
    cases answer with
    | error error =>
      cases error with
      | UidCollision uid =>
        cases alone _ rfl
        refine (refused (⟨.now, now⟩ :: past ++ [⟨.reg (.register
          { parsed with tools := state.normalize_tools parsed.tools, database_key } now
            (some connection)), .error (.UidCollision uid)⟩]) ?_ ?_ ?_ _ _).mono ?_
        · rw [emitted_append, emitted_cons, key.1]
          rfl
        · rw [registered_append, registered_cons, key.2.1]
          rfl
        · intro ev member
          rcases List.mem_append.mp member with member | member
          · rcases List.mem_cons.mp member with rfl | member
            · exact now_spares
            · exact key.2.2 ev member
          · cases List.mem_singleton.mp member
            exact spares_of_refused
        · intro tr next registers
          rwa [List.append_assoc, List.cons_append] at registers
    | ok result =>
      obtain ⟨outcome, generation⟩ := result
      have still : ∀ ev ∈ rest.map fun ev => (⟨.reg ev.request, ev.answer⟩ : Event (ManagerOp ι)),
          ev.request.Still := by
        intro ev member
        obtain ⟨inner, inside, rfl⟩ := List.mem_map.mp member
        exact still_of_marks (marks inner inside)
      refine Prog.ensures_perform.mpr fun answer => Prog.ensures_ret.mpr ?_
      refine ⟨.ok (state.register_result parsed.client_uid (outcome = .Reconnected)), ?_, ⟨_, rfl⟩,
        ?_, fun error refused => by cases refused⟩
      · rw [emitted_cons, emitted_append, key.1, emitted_append, List.map_cons, emitted_cons,
          emitted_of_still still]
        rfl
      · rw [registered_cons, registered_append, key.2.1, registered_append, List.map_cons,
          registered_cons, registered_of_still still]
        rfl

theorem send_spares (msg : WireMessage) (answer : Bool) :
    Spares (ι := ι) ⟨.send connection msg, answer⟩ :=
  spares_of_outside fun rop same => by cases same

/-- A request that is turned down without a look at the registry. -/
theorem send_error_handled {id : Id} {method : String} (params : Value) (code : Int)
    (message : String) (stays : method ≠ methods.SESSION_BYE) :
    (send_error connection id code message >>= fun _ => pure (.proceed peer) :
      Prog (ManagerOp ι) Next).Ensures
        fun tr next => Handled connection peer (.text (.request id method params)) tr next := by
  refine Prog.ensures_perform.mpr fun answer => Prog.ensures_ret.mpr ?_
  refine ⟨⟨⟨_, .request _, rfl⟩, fun _ _ _ _ ev member => ?_⟩, ?_, Nat.le_of_eq (Nat.zero_add _)⟩
  · cases List.mem_singleton.mp member
    exact send_spares _ _
  · refine iff_of_false (fun bye => stays (beq_iff_eq.mp bye)) fun same => ?_
    cases same

omit [DecidableEq ι] in
theorem remove_peer_still :
    (remove_peer peer : Prog (ManagerOp ι) Unit).Only ManagerOp.Still := by
  cases peer with
  | none => trivial
  | some ident =>
    refine Prog.Only.bind (Prog.only_lift.mpr ?_) fun _ => trivial
    unfold SessionRegistry.remove_if_generation SessionRegistry.announce
    refine ⟨⟨rfl, fun _ => rfl⟩, fun removed => ?_⟩
    cases removed with
    | none => trivial
    | some record =>
      exact ⟨⟨rfl, fun _ => rfl⟩, fun _ => ⟨⟨rfl, fun _ => rfl⟩, fun _ => trivial⟩⟩

theorem handle_bye_handled (id : Id) (params : Value) :
    (handle_bye connection peer id : Prog (ManagerOp ι) Next).Ensures fun tr next =>
      Handled connection peer (.text (.request id methods.SESSION_BYE params)) tr next := by
  unfold handle_bye
  refine (emitted_of_only remove_peer_still).bind fun past _ still => ?_
  refine Prog.ensures_perform.mpr fun answer => Prog.ensures_ret.mpr ?_
  refine ⟨⟨⟨_, .request (.ok (.object [])), ?_⟩, fun register => ?_⟩, iff_of_true ?_ rfl, ?_⟩
  · rw [emitted_append, still.1]
    rfl
  · have other : (methods.SESSION_BYE == methods.SESSION_REGISTER) = false := by decide
    cases other.symm.trans register
  · exact beq_iff_eq.mpr rfl
  · rw [registered_append, still.2]
    exact Nat.zero_le _

theorem handle_request_handled (id : Id) (method : String) (params : Value) :
    (handle_request state decoders connection peer id method params :
      Prog (ManagerOp ι) Next).Ensures fun tr next =>
        Handled connection peer (.text (.request id method params)) tr next := by
  unfold handle_request
  split
  · rename_i register
    subst register
    split
    · exact send_error_handled params _ _ (by decide)
    · rename_i fresh
      refine (handle_register_ensures id params).mono fun tr next registers => ?_
      obtain ⟨result, registers⟩ := registers
      obtain ⟨peer', rfl⟩ := registers.proceeds
      have room : (Next.proceed peer).room = 1 := by
        rw [Bool.not_eq_true, Option.isSome_eq_false_iff, Option.isNone_iff_eq_none] at fresh
        rw [fresh]
        rfl
      refine ⟨⟨⟨_, .request result, registers.answered⟩, fun _ id' error refused => ?_⟩, ?_, ?_⟩
      · have same := registers.answered.symm.trans refused
        cases same
        exact registers.refused error rfl
      · have other : (methods.SESSION_REGISTER == methods.SESSION_BYE) = false := by decide
        refine iff_of_false (fun bye => ?_) fun same => by cases same
        cases other.symm.trans bye
      · rw [room, registers.room]
  · split
    · rename_i bye
      subst bye
      exact handle_bye_handled id params
    · rename_i other
      exact send_error_handled params _ _ other

/-- A turn over which nothing is said and nothing registered. -/
theorem handled_of_still {frame : Frame} {tr : List (Event (ManagerOp ι))}
    (silent : frame.Answered []) (quiet : ∀ method, frame.asks method = false)
    (still : emitted tr = [] ∧ registered tr = []) :
    Handled connection peer frame tr (.proceed peer) := by
  refine ⟨⟨⟨[], silent, still.1⟩, fun register => ?_⟩, iff_of_false ?_ ?_, ?_⟩
  · rw [quiet] at register
    cases register
  · rw [quiet]
    exact Bool.false_ne_true
  · exact fun same => by cases same
  · rw [still.2]
    exact Nat.le_of_eq (Nat.zero_add _)

omit [DecidableEq ι] in
theorem handle_notification_still (method : String) (params : Value) :
    (handle_notification state peer method params :
      Prog (ManagerOp ι) Unit).Only ManagerOp.Still := by
  unfold handle_notification
  split
  · split
    · refine Prog.Only.bind (Prog.only_lift.mpr ?_) fun _ => trivial
      unfold SessionRegistry.update_tools
      refine ⟨⟨rfl, fun _ => rfl⟩, fun answer => ?_⟩
      cases answer with
      | none => trivial
      | some found =>
        obtain ⟨same, kind, config_id⟩ := found
        cases same with
        | true => trivial
        | false =>
          refine ⟨still_of_marks trivial, fun _ => ?_⟩
          exact ((upsert_tools_cache_marks _ _ _).mono fun _ => still_of_marks).bind
            fun _ => trivial
    · trivial
  · trivial

omit [DecidableEq ι] in
theorem complete_response_still (id : Id) (result : RpcResult) :
    ((ConnectionHandle.complete_response id result).lift (.conn connection) :
      Prog (ManagerOp ι) Bool).Only ManagerOp.Still := by
  refine Prog.only_lift.mpr ⟨⟨rfl, fun _ => rfl⟩, fun found => ?_⟩
  cases found with
  | none => trivial
  | some tx => exact ⟨⟨rfl, fun _ => rfl⟩, fun _ => trivial⟩

/-- **What a turn over a message does.** -/
theorem dispatch_handled (msg : WireMessage) :
    (dispatch state decoders connection peer msg : Prog (ManagerOp ι) Next).Ensures
      fun tr next => Handled connection peer (.text msg) tr next := by
  cases msg with
  | request id method params => exact handle_request_handled id method params
  | notification method params =>
    refine (emitted_of_only (handle_notification_still method params)).bind fun tr _ still => ?_
    refine Prog.ensures_ret.mpr (handled_of_still .notification (fun _ => rfl) ?_)
    rwa [List.append_nil]
  | response id result =>
    refine (emitted_of_only (complete_response_still id result)).bind fun tr _ still => ?_
    refine Prog.ensures_ret.mpr (handled_of_still .response (fun _ => rfl) ?_)
    rwa [List.append_nil]

/-! ## Conversations -/

/-- The turns of a connection. -/
structure Turns (connection : Nat) (peer : Option ConnectionIdentity) (frames : List Frame)
    (turns : List (Turn ι)) : Prop where
  heard : turns.map Turn.frame = heard frames
  proper : ∀ turn ∈ turns, turn.Proper connection
  room : (registered (turns.flatMap Turn.events)).length ≤ (Next.proceed peer).room

/-- **The loop over the frames takes them in turns, up to the first goodbye.** -/
theorem serve_turns (peer : Option ConnectionIdentity) (frames : List Frame) :
    (serve state decoders connection peer frames : Prog (ManagerOp ι) _).Ensures fun tr _ =>
      ∃ turns, tr = turns.flatMap Turn.events ∧ Turns connection peer frames turns := by
  have next {frame : Frame} {frames : List Frame} (past : List (Event (ManagerOp ι)))
      {tr : List (Event (ManagerOp ι))} {peer peer' : Option ConnectionIdentity}
      (handled : Handled connection peer frame past (.proceed peer'))
      (rest : ∃ turns, tr = turns.flatMap Turn.events ∧ Turns connection peer' frames turns) :
      ∃ turns, past ++ tr = turns.flatMap Turn.events ∧
        Turns connection peer (frame :: frames) turns := by
    obtain ⟨turns, rfl, taken⟩ := rest
    have goes_on : ¬ frame.asks methods.SESSION_BYE = true := by
      intro bye
      cases handled.bye.mp bye
    refine ⟨⟨frame, past⟩ :: turns, rfl, ?_, ?_, ?_⟩
    · rw [SessionManager.heard, if_neg goes_on, List.map_cons, taken.heard]
    · exact List.forall_mem_cons.mpr ⟨handled.proper, taken.proper⟩
    · have first := handled.room
      have later := taken.room
      rw [List.flatMap_cons, registered_append, List.length_append]
      dsimp only
      omega
  induction frames generalizing peer with
  | nil =>
    refine Prog.ensures_ret.mpr ⟨[], rfl, rfl, fun turn member => ?_, Nat.zero_le _⟩
    exact absurd member List.not_mem_nil
  | cons frame frames ih =>
    cases frame with
    | text msg =>
      refine (dispatch_handled msg).bind fun past after handled => ?_
      cases after with
      | proceed peer' => exact (ih peer').mono fun tr _ rest => next past handled rest
      | bye =>
        have bye := handled.bye.mpr rfl
        refine Prog.ensures_ret.mpr ⟨[⟨.text msg, past⟩], ?_, ?_, ?_, ?_⟩
        · rw [List.append_nil, List.flatMap_singleton]
        · rw [SessionManager.heard, if_pos bye]
          rfl
        · intro turn member
          cases List.mem_singleton.mp member
          exact handled.proper
        · rw [List.flatMap_singleton]
          exact handled.room
    | unparsable reason =>
      refine Prog.ensures_perform.mpr fun answer => (ih peer).mono fun tr _ rest => ?_
      refine next [⟨.send connection _, answer⟩] ?_ rest
      refine ⟨⟨⟨_, .unparsable, rfl⟩, fun register => by cases register⟩, ?_, ?_⟩
      · exact iff_of_false Bool.false_ne_true fun same => by cases same
      · exact Nat.le_of_eq (Nat.zero_add _)
    | other =>
      refine (ih peer).mono fun tr _ rest => next [] ?_ rest
      exact handled_of_still .other (fun _ => rfl) ⟨rfl, rfl⟩

/-- A connection is accepted, its frames are taken in turns, and nothing is said after them. -/
def Conversation (frames : List Frame) (tr : List (Event (ManagerOp ι))) : Prop :=
  ∃ connection turns ending,
    tr = ⟨.accept, connection⟩ :: (turns.flatMap Turn.events ++ ending) ∧
      Turns connection none frames turns ∧ ∀ ev ∈ ending, ev.request.Still

omit [DecidableEq ι] in
theorem drain_still (connection : Nat) :
    (ConnectionHandle.drain connection : Prog (ManagerOp ι) Unit).Only ManagerOp.Still :=
  Prog.only_lift.mpr ⟨⟨rfl, fun _ => rfl⟩, fun _ => ⟨⟨rfl, fun _ => rfl⟩, fun _ =>
    ⟨⟨rfl, fun _ => rfl⟩, fun _ => ⟨⟨rfl, fun _ => rfl⟩, fun _ => trivial⟩⟩⟩⟩

omit [DecidableEq ι] in
theorem release_still (handed : Option (Option Nat × Nat)) :
    (SessionRegistry.release handed : Prog (ManagerOp ι) Bool).Only ManagerOp.Still := by
  cases handed with
  | none => trivial
  | some handed =>
    obtain ⟨connection, dispatcher⟩ := handed
    have drained : (ConnectionHandle.drain_if connection : Prog (ManagerOp ι) Unit).Only
        ManagerOp.Still := by
      cases connection with
      | none => trivial
      | some connection => exact drain_still connection
    unfold SessionRegistry.release
    exact drained.bind fun _ => ⟨⟨rfl, fun _ => rfl⟩, fun _ => ⟨⟨rfl, fun _ => rfl⟩, fun _ =>
      ⟨⟨rfl, fun _ => rfl⟩, fun _ => ⟨⟨rfl, fun _ => rfl⟩, fun _ => trivial⟩⟩⟩⟩

omit [DecidableEq ι] in
theorem disconnect_peer_still (peer : Option ConnectionIdentity) :
    (disconnect_peer peer : Prog (ManagerOp ι) Unit).Only ManagerOp.Still := by
  cases peer with
  | none => trivial
  | some ident =>
    have marked (now : Nat) : (SessionRegistry.mark_disconnected_if_generation ident.session_id
        ident.generation now : Prog (ManagerOp ι) Bool).Only ManagerOp.Still :=
      ⟨⟨rfl, fun _ => rfl⟩, release_still⟩
    exact ⟨⟨rfl, fun _ => rfl⟩, fun now => (marked now).bind fun _ => trivial⟩

omit [DecidableEq ι] in
/-- What comes after the frames. -/
theorem close_still (peer : Option ConnectionIdentity) : (do
    ConnectionHandle.drain connection
    perform (.conn connection .close_writer)
    disconnect_peer peer : Prog (ManagerOp ι) Unit).Only ManagerOp.Still :=
  (drain_still connection).bind fun _ => ⟨⟨rfl, fun _ => rfl⟩, fun _ => disconnect_peer_still peer⟩

theorem handle_socket_conversation (frames : List Frame) :
    (handle_socket state decoders frames : Prog (ManagerOp ι) Unit).Ensures
      fun tr _ => Conversation frames tr := by
  unfold handle_socket
  refine Prog.ensures_perform.mpr fun connection => ?_
  refine (serve_turns none frames).bind fun tr peer taken => ?_
  obtain ⟨turns, rfl, taken⟩ := taken
  exact (close_still peer).ensures.mono fun ending _ still => ⟨connection, turns, ending, rfl, taken, still⟩

end Program

end SessionManager
