import SessionManager.Adapter.Route

/-!
# The route of a shared SDK

`SharedSDK.qualified_relay` of `provider.py`: an owner runs one route over an SDK that others use
after it.  The owner disconnects what its route is still bound to, and marks the SDK as dirty where
it cannot know what a call has left.  An SDK that says what it did is handed on without a connection
(`handed_on_clean`).
-/

namespace SessionManager.Route

open Python (Str Entries)

open Effect Method Trace

/-! ## The owner -/

/-- What the owner of a route awaits, with what the calls of the route await. -/
inductive OwnerOp : Type → Type 1
  | call {β : Type} (op : RouteOp β) : OwnerOp β
  /-- `self.provider is not None or self.invalid.is_set()` -/
  | taken : OwnerOp Bool
  | admission : OwnerOp (Except Raised Unit)
  /-- `WebSocketTransport.connect(..)` -/
  | ws_connect : OwnerOp (Except Raised Unit)
  /-- `route.register()`, and then `route._route_ended.wait()`. -/
  | relay : OwnerOp (Except Raised Unit)
  /-- The call that is in `route._pending` or in `route._capture_queue`. -/
  | pending : OwnerOp (Option Python.Value)
  /-- `route._on_transport_end()` -/
  | transport_end : OwnerOp (Except Raised Unit)
  /-- Wait for `route._loop_task`. -/
  | join_loop : OwnerOp (Except Raised Unit)
  /-- `self.session.call_tool("tc_session", {"action":"disconnect", ..})` -/
  | disconnect (connection_id : Str) : OwnerOp (Except Raised Entries)
  /-- `route._cleanup_failed or route._tasks or route._pending` -/
  | unfinished : OwnerOp Bool
  | ws_close : OwnerOp (Except Raised Unit)

/-- A shared SDK and its route. -/
structure SharedSDK where
  route : RouteState
  dirty : Bool

/-- A method of the shared SDK. -/
abbrev Owner (α : Type) := Method OwnerOp SharedSDK Raised α

/-- What the route does meanwhile. -/
def serving {α : Type} (p : Routine α) : Owner α := fun s =>
  ((p s.route).lift .call).bind fun r => .ret (r.1, { s with route := r.2 })

def mark_dirty : Owner Unit := write fun s => { s with dirty := true }

section Relay

variable (rules : CallRules) {κ : Type} [DecidableEq κ] (hash : Python.Value → Option κ)

/-- The disconnect of a route that is bound. -/
def disconnect_bound : Owner Unit := do
  let s ← read
  when (!s.route.connection_id.isEmpty) (do
    let raw ← ask (.disconnect s.route.connection_id)
    let mapped ← rethrow (map_tool_result rules raw none)
    rethrow (closed_connection rules mapped))

/-- What the owner does before it gives the SDK back. -/
def clean_up (last : Option Python.Value) : Owner Unit := do
  -- the call is cancelled, and it ends in its own way
  let _ ← attempt (serving (each (dispatch_call rules hash) last.toList))
  ask .transport_end
  ask .join_loop
  disconnect_bound rules
  if ← observe .unfinished then raising .TransportError else pure ()

/-- The `finally` of `qualified_relay`. -/
def give_back : Owner Unit := do
  let last ← observe .pending
  when last.isSome mark_dirty
  let cleaned ← attempt (clean_up rules hash last)
  when (!cleaned.isOk) mark_dirty
  ask .ws_close
  rethrow cleaned

/-- `SharedSDK.qualified_relay`; the calls are those that are over when the route ends. -/
def qualified_relay (calls : List Python.Value) : Owner Unit := do
  let taken ← observe .taken
  let s ← read
  if taken || s.dirty then raising .AdmissionError
  else
    ask .admission
    ask .ws_connect
    serving (each (dispatch_call rules hash) calls)
    let relayed ← attempt (ask .relay)
    give_back rules hash
    rethrow relayed

end Relay

/-! ## The SDK -/

/-- What the SDK does to its connections while it serves a request. -/
inductive SdkEffect
  | opened (id : Str)
  /-- The connection is not open any more. -/
  | closed (id : Str)
  | nothing

/-- A step of the owner or its route, and what the SDK did meanwhile. -/
structure Served where
  event : Event OwnerOp
  effect : SdkEffect

/-- The connections that are open, of those that were opened through the route. -/
def SdkEffect.apply (connections : List Str) : SdkEffect → List Str
  | .opened id => id :: connections
  | .closed id => connections.filter fun other => other ≠ id
  | .nothing => connections

def connections (steps : List Served) : List Str :=
  steps.foldl (fun connections step => step.effect.apply connections) []

/-- A connect is forwarded. -/
def connects : Event OwnerOp → Prop
  | ⟨.call (.relay_invoke name clean), _⟩ => of_session "connect" name clean
  | _ => False

/-- Only a connect opens a connection, whatever is answered to it. -/
def Possible (step : Served) : Prop := ∀ id, step.effect = .opened id → connects step.event

section Told

variable (rules : CallRules)

/-- The answer of the SDK says that it has opened this connection. -/
def says_opened (id : Str) : Event OwnerOp → Prop
  | ⟨.call op, r⟩ => opens rules id ⟨op, r⟩
  | _ => False

/-- The disconnect of the owner is answered as a success. -/
def hung_up : Event OwnerOp → Prop
  | ⟨.disconnect _, .ok raw⟩ =>
    ∃ mapped, map_tool_result rules raw none = .ok mapped ∧ closed_connection rules mapped = .ok ()
  | _ => False

/-- The adapter takes the connection to be closed: a disconnect of a call whose answer it can map, or a
disconnect of the owner that is answered as a success. -/
def taken_closed (id : Str) : Event OwnerOp → Prop
  | ⟨.call (.relay_invoke name clean), r⟩ =>
    disconnected rules ⟨.relay_invoke name clean, r⟩ ∧ clean.get "connection_id" = some (.str id)
  | ⟨.disconnect id', r⟩ => id' = id ∧ hung_up rules ⟨.disconnect id', r⟩
  | _ => False

/-- The SDK says what it does: it names a connection that it opens, and what it is taken to have closed
is closed. -/
structure Told (step : Served) : Prop where
  opened : ∀ id, step.effect = .opened id → says_opened rules id step.event
  closed : ∀ id, taken_closed rules id step.event → step.effect = .closed id

end Told

/-- The check of `route._pending` has found this. -/
def Checked (past : List (Event OwnerOp)) (last : Option Python.Value) : Prop :=
  (⟨.pending, last⟩ : Event OwnerOp) ∈ past

/-- The step is one of a call that was pending when the route ended. -/
def was_pending (past : List (Event OwnerOp)) : Event OwnerOp → Prop
  | ⟨.call _, _⟩ => ∃ last, Checked past last
  | _ => False

/-! ## The history of the route -/

/-- What a step is for the route. -/
def route_event : Event OwnerOp → Option (Event RouteOp)
  | ⟨.call op, r⟩ => some ⟨op, r⟩
  | _ => none

def route_past (past : List (Event OwnerOp)) : List (Event RouteOp) := past.filterMap route_event

variable {rules : CallRules} {initial : Str} {past : List (Event OwnerOp)} {β : Type}

theorem route_past_call {op : RouteOp β} {r : β} :
    route_past (past ++ [⟨.call op, r⟩]) = route_past past ++ [⟨op, r⟩] := by
  rw [route_past, List.filterMap_append]
  rfl

theorem route_past_other {ev : Event OwnerOp} (other : route_event ev = none) :
    route_past (past ++ [ev]) = route_past past := by
  rw [route_past, List.filterMap_append, List.filterMap_cons_none other, List.filterMap_nil,
    List.append_nil]
  rfl

/-- The route is bound to one connection at a time. -/
theorem owned_unique {past : List (Event RouteOp)} {id id' : Str}
    (one : Owned rules (disconnected rules) initial past id)
    (other : Owned rules (disconnected rules) initial past id') : id = id' := by
  induction past using List.reverseRecOn with
  | nil => exact ((tracks_new id).mp one).2.trans ((tracks_new id').mp other).2.symm
  | append_singleton past ev ih =>
    by_cases opened : ∃ id, opens rules id ev
    · obtain ⟨_, opened⟩ := opened
      exact ((owned_of_opens opened).mp one).2.trans ((owned_of_opens opened).mp other).2.symm
    · have unopened := not_exists.mp opened
      by_cases ended : disconnected rules ev
      · exact absurd one (not_owned_of_ends ended unopened)
      · exact ih ((owned_of_lasts ⟨unopened, ended⟩).mp one) ((owned_of_lasts ⟨unopened, ended⟩).mp other)

theorem opened_nonempty {mapped : Mapped} {id : Str} (opened : opened_connection rules mapped = .ok id) :
    id ≠ [] := by
  obtain ⟨response, -, opened⟩ := bind_eq_ok.mp opened
  split at opened
  · split at opened
    · cases opened
    · split at opened
      · split at opened
        · cases opened
        · rename_i filled
          cases opened
          exact fun none => filled (none ▸ rfl)
      · cases opened
  · cases opened

theorem nonempty_of_opens {ev : Event RouteOp} {id : Str} (opened : opens rules id ev) : id ≠ [] := by
  obtain ⟨op, r⟩ := ev
  cases op with
  | relay_invoke name clean =>
    cases r with
    | ok raw =>
      obtain ⟨-, mapped, -, opened⟩ := opened
      exact opened_nonempty opened
    | error _ => exact opened.elim
  | _ => exact opened.elim

/-! ## What is open -/

theorem mem_of_mem_apply {effect : SdkEffect} {open_ids : List Str} {id : Str}
    (unopened : ∀ id, effect ≠ .opened id) (member : id ∈ effect.apply open_ids) : id ∈ open_ids := by
  cases effect with
  | opened id' => exact absurd rfl (unopened id')
  | closed id' => exact (List.mem_filter.mp member).1
  | nothing => exact member

theorem not_mem_apply_closed {open_ids : List Str} {id : Str} :
    id ∉ (SdkEffect.closed id).apply open_ids := fun member =>
  of_decide_eq_true (List.mem_filter.mp member).2 rfl

/-- What is open was opened. -/
theorem opened_of_mem {steps : List Served} {id : Str} (member : id ∈ connections steps) :
    ∃ step ∈ steps, step.effect = .opened id := by
  induction steps using List.reverseRecOn with
  | nil => cases member
  | append_singleton steps step ih =>
    rw [connections, List.foldl_append] at member
    change id ∈ step.effect.apply (connections steps) at member
    by_cases here : step.effect = .opened id
    · exact ⟨step, List.mem_append_right _ List.mem_cons_self, here⟩
    · obtain ⟨step', earlier, opened⟩ := ih (by
        cases effect : step.effect with
        | opened id' =>
          rw [effect] at member here
          rcases List.mem_cons.mp member with rfl | before
          · exact absurd rfl here
          · exact before
        | closed id' =>
          rw [effect] at member
          exact (List.mem_filter.mp member).1
        | nothing =>
          rw [effect] at member
          exact member)
      exact ⟨step', List.mem_append_left _ earlier, opened⟩

/-- A permitted call leaves open what its route is bound to. -/
theorem owned_of_call {past : List (Event RouteOp)} {op : RouteOp β} {r : β} {effect : SdkEffect}
    {open_ids : List Str}
    (before : ∀ id ∈ open_ids, Owned rules (disconnected rules) initial past id)
    (safe : Safe rules initial past op) (told : Told rules ⟨⟨.call op, r⟩, effect⟩) {id : Str}
    (member : id ∈ effect.apply open_ids) :
    Owned rules (disconnected rules) initial (past ++ [⟨op, r⟩]) id := by
  by_cases opened : ∃ id, opens rules id ⟨op, r⟩
  · obtain ⟨id', opened⟩ := opened
    have none : open_ids = [] := by
      cases op with
      | relay_invoke name clean =>
        obtain ⟨action, permitted⟩ := safe
        cases r with
        | ok raw =>
          obtain ⟨⟨session, connect⟩, -⟩ := opened
          have same : action = "connect" := Str.of_injective (Python.Value.str.inj
            (Option.some.inj (permitted.named.symm.trans connect)))
          obtain ⟨-, -, -, -, unbound⟩ := permitted.connect session same
          exact List.eq_nil_iff_forall_not_mem.mpr fun id member => unbound id (before id member)
        | error _ => exact opened.elim
      | _ => exact opened.elim
    subst none
    cases effect with
    | opened id'' =>
      cases List.mem_singleton.mp member
      exact (owned_of_opens (told.opened id rfl)).mpr ⟨nonempty_of_opens (told.opened id rfl), rfl⟩
    | closed _ => cases (List.mem_filter.mp member).1
    | nothing => cases member
  · have unopened := not_exists.mp opened
    have before := before id (mem_of_mem_apply (fun id same => unopened id (told.opened id same)) member)
    by_cases ended : disconnected rules ⟨op, r⟩
    · cases op with
      | relay_invoke name clean =>
        obtain ⟨action, permitted⟩ := safe
        have disconnect : of_session "disconnect" name clean := by
          cases r with
          | ok raw => exact ended.1
          | error _ => exact ended.elim
        have same : action = "disconnect" := Str.of_injective (Python.Value.str.inj
          (Option.some.inj (permitted.named.symm.trans disconnect.2)))
        obtain ⟨id', named, owned⟩ := permitted.other fun both => absurd (same ▸ both.2) (by decide)
        cases told.closed id' ⟨ended, named⟩
        cases owned_unique before owned
        exact absurd member not_mem_apply_closed
      | _ => exact ended.elim
    · exact (owned_of_lasts ⟨unopened, ended⟩).mpr before

/-- The connection is the route's, and the owner has not hung up. -/
def Remains (rules : CallRules) (initial : Str) (past : List (Event OwnerOp)) (id : Str) : Prop :=
  Owned rules (disconnected rules) initial (route_past past) id ∧ ∀ ev ∈ past, ¬ hung_up rules ev

theorem Remains.other {ev : Event OwnerOp} {id : Str} (remains : Remains rules initial past id)
    (other : route_event ev = none) (connected : ¬ hung_up rules ev) :
    Remains rules initial (past ++ [ev]) id := by
  refine ⟨?_, List.forall_mem_append.mpr ⟨remains.2, List.forall_mem_singleton.mpr connected⟩⟩
  rw [route_past_other other]
  exact remains.1

/-- What is safe: a call is permitted and comes before the owner's disconnect, which is from the
connection of the route. -/
def OwnerSafe (rules : CallRules) (initial : Str) (past : List (Event OwnerOp)) :
    ∀ {β : Type}, OwnerOp β → Prop
  | _, .call op => Safe rules initial (route_past past) op ∧ ∀ ev ∈ past, ¬ hung_up rules ev
  | _, .disconnect id => Owned rules (disconnected rules) initial (route_past past) id
  | _, _ => True

/-- A connection that is open remains to the route. -/
theorem remains_of_open {steps : List Served} (told : ∀ step ∈ steps, Told rules step)
    (safe : ∀ a step b, steps = a ++ step :: b →
      OwnerSafe rules initial (a.map Served.event) step.event.request) :
    ∀ id ∈ connections steps, Remains rules initial (steps.map Served.event) id := by
  induction steps using List.reverseRecOn with
  | nil => exact fun _ none => absurd none List.not_mem_nil
  | append_singleton steps step ih =>
    have before := ih (fun step member => told step (List.mem_append_left _ member))
      fun a step' b split => safe a step' (b ++ [step]) (by rw [split, List.append_assoc]; rfl)
    have safe := safe steps step [] rfl
    have told := told step (List.mem_append_right _ List.mem_cons_self)
    intro id member
    rw [connections, List.foldl_append] at member
    change id ∈ step.effect.apply (connections steps) at member
    rw [List.map_append]
    change Remains rules initial (_ ++ [step.event]) id
    obtain ⟨⟨op, r⟩, effect⟩ := step
    cases op with
    | call op =>
      obtain ⟨safe, connected⟩ := safe
      refine ⟨?_, List.forall_mem_append.mpr ⟨connected, List.forall_mem_singleton.mpr fun none => none⟩⟩
      rw [route_past_call]
      exact owned_of_call (fun id member => (before id member).1) safe told member
    | disconnect bound =>
      have remains := before id (mem_of_mem_apply (fun id same => told.opened id same) member)
      by_cases closing : hung_up rules ⟨.disconnect bound, r⟩
      · cases told.closed bound ⟨rfl, closing⟩
        cases owned_unique remains.1 safe
        exact absurd member not_mem_apply_closed
      · exact remains.other rfl closing
    | _ =>
      have remains := before id (mem_of_mem_apply (fun id same => told.opened id same) member)
      exact remains.other rfl fun none => none

/-! ## The owner keeps track -/

/-- The state of the route is that of its history, and the owner has not hung up. -/
structure Attached (rules : CallRules) (initial : Str) (past : List (Event OwnerOp)) (s : RouteState) :
    Prop where
  tracks : Tracks rules initial (route_past past) s
  connected : ∀ ev ∈ past, ¬ hung_up rules ev

/-- No connection remains to the route, or it was not served at all. -/
def Clean (rules : CallRules) (initial : Str) (past : List (Event OwnerOp)) : Prop :=
  (∀ id, ¬ Remains rules initial past id) ∨ route_past past = []

variable {s : SharedSDK} {ev : Event OwnerOp}

theorem attached_new {s : RouteState} : Attached rules s.connection_id [] s := ⟨tracks_new, nofun⟩

theorem Attached.other {s : RouteState} (attached : Attached rules initial past s) (ev : Event OwnerOp)
    (other : route_event ev = none) (connected : ¬ hung_up rules ev) :
    Attached rules initial (past ++ [ev]) s where
  tracks := by
    rw [route_past_other other]
    exact attached.tracks
  connected := List.forall_mem_append.mpr ⟨attached.connected, List.forall_mem_singleton.mpr connected⟩

theorem Clean.other (clean : Clean rules initial past) (other : route_event ev = none) :
    Clean rules initial (past ++ [ev]) := by
  unfold Clean Remains
  rw [route_past_other other]
  rcases clean with none | unserved
  · refine .inl fun id remains => none id ⟨remains.1, fun ev member => ?_⟩
    exact remains.2 ev (List.mem_append_left _ member)
  · exact .inr unserved

/-- What the owner's method has left, if the SDK is not marked. -/
def Left (rules : CallRules) (initial : Str) (past : List (Event OwnerOp)) (s : SharedSDK) : Prop :=
  s.dirty = false → Clean rules initial past

variable {κ : Type} [DecidableEq κ] {hash : Python.Value → Option κ} {calls : List Python.Value}
  {X : List (Event OwnerOp) → SharedSDK → Raised → Prop}

/-- The calls of a route are served to their end. -/
theorem serving_runs (attached : Attached rules initial past s.route) :
    Runs (OwnerSafe rules initial) (fun past s' _ => Attached rules initial past s'.route) X past s
      (serving (each (dispatch_call rules hash) calls)) := by
  have served : Runs (Safe rules initial) (fun past s _ => Tracks rules initial past s)
      (fun _ _ _ => False) (route_past past) s.route (each (dispatch_call rules hash) calls) :=
    each_runs preserves_dispatch_call attached.tracks
  refine Prog.Guarded.bind (Prog.Guarded.lift (φ := .call)
    (K := fun past past' => past' = route_past past ∧ ∀ ev ∈ past, ¬ hung_up rules ev) served
    ⟨rfl, attached.connected⟩ ?_ ?_) ?_
  · rintro past _ β op r ⟨rfl, connected⟩
    refine ⟨route_past_call.symm, ?_⟩
    exact List.forall_mem_append.mpr ⟨connected, List.forall_mem_singleton.mpr fun none => none⟩
  · rintro past _ β op ⟨rfl, connected⟩ safe
    exact ⟨safe, connected⟩
  · rintro past ⟨ended, route⟩ ⟨_, ⟨rfl, connected⟩, leaves⟩
    cases ended with
    | ok _ => exact ⟨leaves, connected⟩
    | error _ => exact leaves.elim

theorem mark_dirty_runs :
    Runs (OwnerSafe rules initial) (fun past s _ => Left rules initial past s) X past s mark_dirty :=
  runs_write fun clean => by cases clean

theorem disconnect_bound_runs (attached : Attached rules initial past s.route) :
    Runs (OwnerSafe rules initial) (fun past s _ => Left rules initial past s) (fun _ _ _ => True) past s
      (disconnect_bound rules) := by
  refine runs_read_bind (Runs.when (fun bound => ?_) fun unbound _ => .inl fun id remains => ?_)
  · have owned : Owned rules (disconnected rules) initial (route_past past) s.route.connection_id := by
      refine (attached.tracks _).mpr ⟨fun none => ?_, rfl⟩
      rw [none] at bound
      cases bound
    refine runs_ask_bind owned (fun raw => ?_) fun _ => trivial
    refine runs_rethrow_bind (fun mapped maps => ?_) fun _ _ => trivial
    cases closed : closed_connection rules mapped with
    | error _ => exact runs_rethrow trivial
    | ok _ =>
      refine runs_rethrow fun _ => .inl fun id remains => ?_
      exact remains.2 _ (List.mem_append_right _ List.mem_cons_self) ⟨mapped, maps, closed⟩
  · obtain ⟨filled, same⟩ := (attached.tracks id).mp remains.1
    rw [← same] at unbound
    cases id with
    | nil => exact filled rfl
    | cons _ _ => cases unbound

/-- What is cleaned up leaves no connection, unless it fails. -/
theorem clean_up_runs {last : Option Python.Value} (attached : Attached rules initial past s.route) :
    Runs (OwnerSafe rules initial) (fun past s _ => Left rules initial past s) (fun _ _ _ => True) past s
      (clean_up rules hash last) := by
  refine ((serving_runs (X := fun _ _ _ => False) attached).attempt).bind fun past s ended leaves => ?_
  have attached : Attached rules initial past s.route := by
    cases ended with
    | ok _ => exact leaves
    | error _ => exact leaves.elim
  refine runs_ask_bind trivial (fun _ => ?_) fun _ => trivial
  refine runs_ask_bind trivial (fun _ => ?_) fun _ => trivial
  have attached := (attached.other ⟨.transport_end, .ok ()⟩ rfl id).other ⟨.join_loop, .ok ()⟩ rfl id
  refine (disconnect_bound_runs attached).bind fun past s _ left => ?_
  refine runs_observe_bind trivial fun unfinished => ?_
  cases unfinished with
  | true => exact runs_raising trivial
  | false => exact runs_pure fun clean => (left clean).other rfl

theorem give_back_runs (attached : Attached rules initial past s.route) :
    Runs (OwnerSafe rules initial) (fun past s _ => Left rules initial past s)
      (fun past s _ => Left rules initial past s) past s (give_back rules hash) := by
  refine runs_observe_bind trivial fun last => ?_
  have attached := attached.other ⟨.pending, last⟩ rfl id
  refine Runs.bind (Q := fun past s _ => Attached rules initial past s.route)
    (Runs.when (fun _ => runs_write attached) fun _ => attached) fun past s _ attached => ?_
  refine ((clean_up_runs attached).attempt).bind fun past s cleaned leaves => ?_
  refine Runs.bind (Q := fun past s _ => Left rules initial past s)
    (Runs.when (fun _ => mark_dirty_runs) fun fine => ?_) fun past s _ left => ?_
  · cases cleaned with
    | ok _ => exact leaves
    | error _ => cases fine
  · refine runs_ask_bind trivial (fun _ => ?_) fun _ clean => (left clean).other rfl
    have left : Left rules initial (past ++ [⟨.ws_close, .ok ()⟩]) s := fun clean => (left clean).other rfl
    cases cleaned with
    | ok _ => exact runs_rethrow left
    | error _ => exact runs_rethrow left

theorem qualified_relay_runs (start : s.route.connection_id = initial) :
    Runs (OwnerSafe rules initial) (fun past s _ => Left rules initial past s)
      (fun past s _ => Left rules initial past s) [] s (qualified_relay rules hash calls) := by
  refine runs_observe_bind trivial fun taken => runs_read_bind ?_
  split
  · exact runs_raising fun _ => .inr rfl
  · refine runs_ask_bind trivial (fun _ => ?_) fun _ _ => .inr rfl
    refine runs_ask_bind trivial (fun _ => ?_) fun _ _ => .inr rfl
    have new : Attached rules initial [] s.route := start ▸ attached_new
    have attached := ((new.other ⟨.taken, taken⟩ rfl id).other ⟨.admission, .ok ()⟩ rfl id).other
      ⟨.ws_connect, .ok ()⟩ rfl id
    refine (serving_runs attached).bind fun past s' _ attached => ?_
    have relaying : Preserves (OwnerSafe rules initial) (fun past s => Attached rules initial past s.route)
        (ask .relay : Owner Unit) :=
      preserves_ask fun _ _ attached => ⟨trivial, fun r => attached.other ⟨.relay, r⟩ rfl id⟩
    refine ((relaying past s' attached).attempt).bind fun past s' relayed leaves => ?_
    have attached : Attached rules initial past s'.route := leaves.always
    refine (give_back_runs attached).bind fun past s' _ left => ?_
    cases relayed with
    | ok _ => exact runs_rethrow left
    | error _ => exact runs_rethrow left

/-! ## The owner marks the SDK -/

def checks : ∀ {β : Type}, OwnerOp β → Bool
  | _, .pending => true
  | _, _ => false

/-- What is served after the check was found by it. -/
def Found (past : List (Event OwnerOp)) : ∀ {β : Type}, OwnerOp β → Prop
  | _, .call _ => ∀ last, Checked past last → last.isSome = true
  | _, _ => True

/-- The SDK is marked if a call was found. -/
def Marked (past : List (Event OwnerOp)) (s : SharedSDK) : Prop :=
  ∀ last, Checked past last → last.isSome = true → s.dirty = true

theorem Checked.before {last : Option Python.Value} (checked : Checked (past ++ [ev]) last)
    (other : checks ev.request = false) : Checked past last := by
  rcases List.mem_append.mp checked with before | here
  · exact before
  · rw [← List.mem_singleton.mp here] at other
    cases other

theorem Marked.other (marked : Marked past s) (other : checks ev.request = false) :
    Marked (past ++ [ev]) s := fun last checked => marked last (checked.before other)

/-- Nothing is checked and nothing is marked while a call is served. -/
theorem serving_found {p : Routine Unit} (found : ∀ last, Checked past last → last.isSome = true)
    (raised : ∀ past' s' e, (∀ last, Checked past' last → Checked past last) → s'.dirty = s.dirty →
      X past' s' e) :
    Runs Found (fun past' s' _ => (∀ last, Checked past' last → Checked past last) ∧
      s'.dirty = s.dirty) X past s (serving p) := by
  have unasked : (p s.route).Guarded (fun _ {_} _ => True) (fun _ _ => True) [] := Prog.guarded_trivial
  refine Prog.Guarded.bind (Prog.Guarded.lift (φ := .call)
    (K := fun past' _ => ∀ last, Checked past' last → Checked past last) unasked (fun _ => id) ?_ ?_) ?_
  · exact fun _ _ same last checked => same last (checked.before rfl)
  · exact fun _ same _ last checked => found last (same last checked)
  · rintro past' ⟨ended, route⟩ ⟨_, same, -⟩
    cases ended with
    | ok _ => exact ⟨same, rfl⟩
    | error e => exact raised past' _ e same rfl

theorem preserves_marked (op : OwnerOp (Except Raised β)) (other : checks op = false)
    (allowed : ∀ past, Found past op) : Preserves Found Marked (ask op : Owner β) :=
  preserves_ask fun past _ marked => ⟨allowed past, fun _ => marked.other other⟩

/-- The rest of the clean-up. -/
theorem preserves_disconnect_bound : Preserves Found Marked (disconnect_bound rules) :=
  preserves_read_bind fun s => Preserves.when
    ((preserves_marked (.disconnect s.route.connection_id) rfl fun _ => trivial).bind fun _ =>
      (preserves_rethrow _).bind fun _ => preserves_rethrow _)

theorem clean_up_found {last : Option Python.Value} (marked : Marked past s)
    (found : last.isSome = true → ∀ last', Checked past last' → last'.isSome = true) :
    Runs Found (fun past s _ => Marked past s) (fun past s _ => Marked past s) past s
      (clean_up rules hash last) := by
  refine Runs.bind (Q := fun past s _ => Marked past s) ?_ fun past s _ marked => ?_
  · cases last with
    | none => exact marked
    | some call =>
      refine ((serving_found (found rfl) (X := fun past' s' _ => Marked past' s') ?_).attempt).mono
        (fun past' s' ended leaves => ?_) fun _ _ _ marked => marked
      · exact fun past' s' _ same dirty last' checked held =>
          dirty.trans (marked last' (same last' checked) held)
      · cases ended with
        | ok _ => exact fun last' checked held => leaves.2.trans (marked last' (leaves.1 last' checked) held)
        | error _ => exact leaves
  · have ended : Preserves Found Marked (ask .transport_end : Owner Unit) :=
      preserves_marked _ rfl fun _ => trivial
    have joined : Preserves Found Marked (ask .join_loop : Owner Unit) :=
      preserves_marked _ rfl fun _ => trivial
    have unfinished : Preserves Found Marked (observe .unfinished : Owner Bool) :=
      preserves_observe fun past _ marked => ⟨trivial, fun _ => marked.other rfl⟩
    refine (ended.bind fun _ => joined.bind fun _ => preserves_disconnect_bound.bind fun _ =>
      unfinished.bind fun left => ?_) past s marked
    cases left with
    | true => exact preserves_raising _
    | false => exact preserves_pure _

theorem give_back_found (unchecked : ∀ last, ¬ Checked past last) :
    Runs Found (fun past s _ => Marked past s) (fun past s _ => Marked past s) past s
      (give_back rules hash) := by
  refine runs_observe_bind trivial fun last => ?_
  have only (last' : Option Python.Value) (checked : Checked (past ++ [⟨.pending, last⟩]) last') :
      last' = last := by
    rcases List.mem_append.mp checked with before | here
    · exact absurd before (unchecked last')
    · cases List.mem_singleton.mp here
      rfl
  refine Runs.bind (Q := fun past' s _ => past' = past ++ [⟨.pending, last⟩] ∧ Marked past' s)
    (Runs.when (fun _ => runs_write ⟨rfl, fun _ _ _ => rfl⟩) fun none => ⟨rfl, fun last' checked held => ?_⟩) ?_
  · rw [only last' checked, none] at held
    cases held
  · rintro _ s - ⟨rfl, marked⟩
    refine ((clean_up_found marked fun held last' checked => ?_).attempt).bind fun past s cleaned leaves => ?_
    · rwa [only last' checked]
    · have marked : Marked past s := leaves.always
      refine Runs.bind (Q := fun past s _ => Marked past s)
        (Runs.when (fun _ => runs_write fun _ _ _ => rfl) fun _ => marked) fun past s _ marked => ?_
      refine runs_ask_bind trivial (fun _ => ?_) fun _ => marked.other rfl
      cases cleaned with
      | ok _ => exact runs_rethrow (marked.other rfl)
      | error _ => exact runs_rethrow (marked.other rfl)

/-- A call that is served when the route has ended was found, and the SDK is marked. -/
theorem qualified_relay_found :
    Runs Found (fun past s _ => Marked past s) (fun past s _ => Marked past s) [] s
      (qualified_relay rules hash calls) := by
  have next {past : List (Event OwnerOp)} (ev : Event OwnerOp) (unchecked : ∀ last, ¬ Checked past last)
      (other : checks ev.request = false) (last : Option Python.Value) : ¬ Checked (past ++ [ev]) last :=
    fun checked => unchecked last (checked.before other)
  have marked {past : List (Event OwnerOp)} {s : SharedSDK} (unchecked : ∀ last, ¬ Checked past last) :
      Marked past s := fun last checked => absurd checked (unchecked last)
  have new (last : Option Python.Value) : ¬ Checked [] last := List.not_mem_nil
  refine runs_observe_bind trivial fun taken => runs_read_bind ?_
  have unchecked := next ⟨.taken, taken⟩ new rfl
  split
  · exact runs_raising (marked unchecked)
  · refine runs_ask_bind trivial (fun _ => ?_) fun _ => marked (next _ unchecked rfl)
    have unchecked := next ⟨.admission, .ok ()⟩ unchecked rfl
    refine runs_ask_bind trivial (fun _ => ?_) fun _ => marked (next _ unchecked rfl)
    have unchecked := next ⟨.ws_connect, .ok ()⟩ unchecked rfl
    refine (serving_found (fun last checked => absurd checked (unchecked last))
      fun _ _ _ same _ last checked => absurd (same last checked) (unchecked last)).bind
        fun past s' _ served => ?_
    have unchecked (last : Option Python.Value) : ¬ Checked past last :=
      fun checked => unchecked last (served.1 last checked)
    have relaying : Preserves Found (fun past _ => ∀ last, ¬ Checked past last) (ask .relay : Owner Unit) :=
      preserves_ask fun _ _ unchecked => ⟨trivial, fun _ => next _ unchecked rfl⟩
    refine ((relaying past s' unchecked).attempt).bind fun past s' relayed leaves => ?_
    refine (give_back_found leaves.always).bind fun past s' _ marked => ?_
    cases relayed with
    | ok _ => exact runs_rethrow marked
    | error _ => exact runs_rethrow marked

/-- Of a run that leaves the SDK unmarked, every step comes before the check or is none of a call. -/
theorem unmarked {steps : List Served} {s s' : SharedSDK} {r : Except Raised Unit}
    (run : Exec (qualified_relay rules hash calls s) (steps.map Served.event) (.ret (r, s')))
    (clean : s'.dirty = false) (a : List Served) (step : Served) (b : List Served)
    (split : steps = a ++ step :: b) : ¬ was_pending (a.map Served.event) step.event := by
  intro pending
  have marked : Marked (steps.map Served.event) s' := by
    have leaves := (qualified_relay_found).exec run
    cases r with
    | ok _ => exact leaves
    | error _ => exact leaves
  rw [split, List.map_append, List.map_cons] at run marked
  obtain ⟨k, before, -⟩ := run.split
  have found := Prog.Guarded.exec qualified_relay_found before
  obtain ⟨⟨op, r⟩, effect⟩ := step
  cases op with
  | call op =>
    obtain ⟨last, checked⟩ := pending
    have dirty := marked last (List.mem_append_left _ checked) (found last checked)
    rw [clean] at dirty
    cases dirty
  | _ => exact pending

/-- **A shared SDK is handed on clean.**  Where the SDK says what it has opened for the calls that were
over before the route ended, and has closed what it is taken to have closed, no connection that was
opened through a route is open when its owner has given the SDK back and not marked it as dirty. -/
theorem handed_on_clean {steps : List Served} {s s' : SharedSDK} {r : Except Raised Unit}
    (run : Exec (qualified_relay rules hash calls s) (steps.map Served.event) (.ret (r, s')))
    (told : ∀ a step b, steps = a ++ step :: b → ¬ was_pending (a.map Served.event) step.event →
      Told rules step)
    (clean : s'.dirty = false) : connections steps = [] := by
  have told : ∀ step ∈ steps, Told rules step := by
    intro step member
    obtain ⟨a, b, split⟩ := List.append_of_mem member
    exact told a step b split (unmarked run clean a step b split)
  have safe (a : List Served) (step : Served) (b : List Served) (split : steps = a ++ step :: b) :
      OwnerSafe rules s.route.connection_id (a.map Served.event) step.event.request := by
    rw [split, List.map_append, List.map_cons] at run
    obtain ⟨k, before, -⟩ := run.split
    exact Prog.Guarded.exec (qualified_relay_runs rfl) before
  have left : Left rules s.route.connection_id (steps.map Served.event) s' := by
    have leaves := (qualified_relay_runs rfl).exec run
    cases r with
    | ok _ => exact leaves
    | error _ => exact leaves
  refine List.eq_nil_iff_forall_not_mem.mpr fun id member => ?_
  have remains := remains_of_open told safe id member
  rcases left clean with none | unserved
  · exact none id remains
  · -- a route that was not served has opened nothing
    obtain ⟨step, here, opened⟩ := opened_of_mem member
    have unrouted : route_event step.event = none :=
      List.filterMap_eq_nil_iff.mp unserved step.event (List.mem_map_of_mem here)
    have named := (told step here).opened id opened
    obtain ⟨⟨op, r⟩, effect⟩ := step
    cases op with
    | call op => cases unrouted
    | _ => exact named

/-! ## What the SDK does not say -/

/-- The SDK answers from a list, and nothing else fails. -/
def owner_scripted : Handler OwnerOp (List (Except Raised Entries))
  | _, .call op, answers => scripted op answers
  | _, .disconnect _, answer :: rest => some (answer, rest)
  | _, .disconnect _, [] => none
  | _, .taken, answers => some (false, answers)
  | _, .pending, answers => some (none, answers)
  | _, .unfinished, answers => some (false, answers)
  | _, .admission, answers => some (.ok (), answers)
  | _, .ws_connect, answers => some (.ok (), answers)
  | _, .relay, answers => some (.ok (), answers)
  | _, .transport_end, answers => some (.ok (), answers)
  | _, .join_loop, answers => some (.ok (), answers)
  | _, .ws_close, answers => some (.ok (), answers)

/-- An owner whose route is given one connect. -/
def owned_run (answers : List (Except Raised Entries)) :
    List (Event OwnerOp) × Prog OwnerOp (Except Raised Unit × SharedSDK) :=
  (qualified_relay plain_rules plain_hash [connect_call] ⟨⟨[]⟩, false⟩).record owner_scripted answers

theorem exec_owned (answers : List (Except Raised Entries)) :
    Exec (qualified_relay plain_rules plain_hash [connect_call] ⟨⟨[]⟩, false⟩) (owned_run answers).1
      (owned_run answers).2 :=
  Prog.exec_record _ _ _

/-- A connect or a disconnect is forwarded. -/
def loud : Event OwnerOp → Bool
  | ⟨.call (.relay_invoke ..), _⟩ => true
  | ⟨.disconnect _, _⟩ => true
  | _ => false

/-- Steps in which the SDK has nothing to do. -/
def quietly (events : List (Event OwnerOp)) : List Served := events.map fun ev => ⟨ev, .nothing⟩

theorem told_quietly {events : List (Event OwnerOp)} (quiet : events.any loud = false) :
    ∀ step ∈ quietly events, Told rules step := by
  intro step member
  obtain ⟨ev, here, rfl⟩ := List.mem_map.mp member
  have silent := List.any_eq_false.mp quiet ev here
  refine ⟨nofun, fun id closed => ?_⟩
  obtain ⟨op, r⟩ := ev
  cases op with
  | call op =>
    cases op with
    | relay_invoke _ _ => exact absurd rfl silent
    | _ => exact closed.elim
  | disconnect _ => exact absurd rfl silent
  | _ => exact closed.elim

theorem possible_quietly {events : List (Event OwnerOp)} : ∀ step ∈ quietly events, Possible step := by
  intro step member id opened
  obtain ⟨ev, here, rfl⟩ := List.mem_map.mp member
  cases opened

/-- The arguments a connect goes out with. -/
def own_connect : Arguments :=
  [(Python.text "action", Python.text "connect"), (Python.text "port", .int 48000),
    (Python.text "version", Python.text "8.3.27.2074"), (Python.text "host", Python.text "127.0.0.1")]

/-- The steps of an owner up to the connect of a call. -/
def first_events : List (Event OwnerOp) :=
  [⟨.taken, false⟩, ⟨.admission, .ok ()⟩, ⟨.ws_connect, .ok ()⟩, ⟨.call .dispatch_ready, true⟩,
    ⟨.call .admission_check, .ok ()⟩, ⟨.call .tools, some [(Str.of "testpilot_session", .dict [])]⟩]

/-- The connection that is opened. -/
def own : Str := Str.of "own"

/-- A connect that succeeds, and the disconnect of the owner. -/
def clean_steps : List Served :=
  quietly first_events ++
    [⟨⟨.call (.relay_invoke "tc_session" own_connect), connected⟩, .opened own⟩] ++
    quietly (((owned_run [connected, connected]).1.drop 7).take 5) ++
    [⟨⟨.disconnect own, connected⟩, .closed own⟩] ++
    quietly ((owned_run [connected, connected]).1.drop 13)

/-- A connect that times out, although it has opened a connection. -/
def leaking_steps : List Served :=
  quietly first_events ++
    [⟨⟨.call (.relay_invoke "tc_session" own_connect), .error .TimeoutError⟩, .opened own⟩] ++
    quietly ((owned_run [.error .TimeoutError]).1.drop 7)

theorem owned_connection_is_closed : connections clean_steps = [] := by
  have events : clean_steps.map Served.event = (owned_run [connected, connected]).1 := rfl
  have run := exec_owned [connected, connected]
  rw [← events] at run
  have ended : (owned_run [connected, connected]).2 = .ret (.ok (), ⟨⟨own⟩, false⟩) := rfl
  rw [ended] at run
  have told : ∀ step ∈ clean_steps, Told plain_rules step := by
    unfold clean_steps
    simp only [List.forall_mem_append, List.forall_mem_singleton]
    refine ⟨⟨⟨⟨told_quietly rfl, ⟨fun id same => ?_, fun id closed => ?_⟩⟩, told_quietly rfl⟩,
      ⟨nofun, fun id closed => ?_⟩⟩, told_quietly rfl⟩
    · cases same
      exact ⟨⟨rfl, rfl⟩, _, rfl, rfl⟩
    · have same : Python.text "connect" = Python.text "disconnect" := Option.some.inj closed.1.1.2
      exact absurd (Str.of_injective (Python.Value.str.inj same)) (by decide)
    · rw [closed.1]
  refine handed_on_clean run (fun a step b split _ => told step ?_) rfl
  rw [split]
  exact List.mem_append_right a List.mem_cons_self

/-- A connection that a timed out connect has opened stays open, and the SDK is not marked. -/
theorem timed_out_connection_stays : ∃ (rules : CallRules) (hash : Python.Value → Option Str)
    (calls : List Python.Value) (steps : List Served) (s s' : SharedSDK) (r : Except Raised Unit),
    Exec (qualified_relay rules hash calls s) (steps.map Served.event) (.ret (r, s')) ∧
      (∀ step ∈ steps, Possible step) ∧ s'.dirty = false ∧ connections steps ≠ [] := by
  have events : leaking_steps.map Served.event = (owned_run [.error .TimeoutError]).1 := rfl
  have run := exec_owned [.error .TimeoutError]
  rw [← events] at run
  have ended : (owned_run [.error .TimeoutError]).2 = .ret (.ok (), ⟨⟨[]⟩, false⟩) := rfl
  rw [ended] at run
  refine ⟨_, _, _, leaking_steps, _, _, _, run, ?_, rfl, ?_⟩
  · unfold leaking_steps
    simp only [List.forall_mem_append, List.forall_mem_singleton]
    exact ⟨⟨possible_quietly, fun _ _ => ⟨rfl, rfl⟩⟩, possible_quietly⟩
  · have open_ids : connections leaking_steps = [own] := rfl
    rw [open_ids]
    exact List.cons_ne_nil _ _

end SessionManager.Route
