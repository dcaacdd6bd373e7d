import SessionManager.Adapter.Calls
import SessionManager.Effect.Stateful
import SessionManager.Effect.Trace

/-!
# The connection of a route

`Provider._dispatch_call` of `provider.py`, one call after the other: `_on_request` takes none while
another one is pending.  What a call may name is read off the history of its route, and every call
that is forwarded names nothing else (`forwarded_permitted`).
-/

namespace SessionManager.Route

open Python (Str Entries)

open Effect Method Trace

/-! ## Serving a call -/

/-- What a route awaits, and what it reads that others write. -/
inductive RouteOp : Type → Type
  /-- `self._dispatch_ready` -/
  | dispatch_ready : RouteOp Bool
  /-- `self._tools` -/
  | tools : RouteOp (Option Descriptors)
  | admission_check : RouteOp (Except Raised Unit)
  /-- `self._relay.invoke(name, clean)`: a call is forwarded. -/
  | relay_invoke (name : String) (clean : Arguments) : RouteOp (Except Raised Entries)
  | send_sdk_cancel : RouteOp (Except Raised Unit)
  /-- `self._respond(ws_id, result=mapped)`, if no terminal response was sent. -/
  | respond (result : Python.Value) : RouteOp (Except Raised Unit)
  | terminal (exc : Raised) : RouteOp (Except Raised Unit)

structure RouteState where
  /-- `self._binding["connection_id"]` -/
  connection_id : Str

/-- A method of the route. -/
abbrev Routine (α : Type) := Method RouteOp RouteState Raised α

section Dispatch

variable (rules : CallRules)

/-- `_dispatch_call` from the SDK to the binding. -/
def invoke (call : PreparedCall) : Routine Mapped := do
  let raw ← ask (.relay_invoke call.name call.clean)
  let s ← read
  let mapped ← rethrow
    (map_tool_result rules raw (if call.listing_connections then some s.connection_id else none))
  when call.connecting (do
    let id ← rethrow (opened_connection rules mapped)
    write fun s => { s with connection_id := id })
  when call.disconnecting (write fun s => { s with connection_id := [] })
  pure mapped

/-- The `try` of `_dispatch_call`. -/
def dispatch_body (public_name : Python.Value) (args : Arguments) : Routine Unit := do
  if !(← observe .dispatch_ready) then raising .AdmissionError
  else
    ask .admission_check
    let tools ← observe .tools
    let s ← read
    let call ← rethrow (prepare rules s.connection_id tools public_name args)
    let mapped ← invoke rules call
    ask (.respond mapped.python)

variable {κ : Type} [DecidableEq κ] (hash : Python.Value → Option κ)

/-- `_dispatch_call` -/
def dispatch_call (params : Python.Value) : Routine Unit := do
  let (public_name, args) ← rethrow (call_arguments hash params)
  match ← attempt (dispatch_body rules public_name args) with
  | .ok () => pure ()
  | .error .CancelledError => pure ()
  | .error .TimeoutError => do
    ask .send_sdk_cancel
    ask (.terminal .CallCancelled)
  | .error exc => ask (.terminal exc)

/-- A route that is given one call after the other. -/
def routed (initial : Str) (calls : List Python.Value) :
    Prog RouteOp (Except Raised Unit × RouteState) :=
  each (dispatch_call rules hash) calls ⟨initial⟩

end Dispatch

/-! ## What a call may name -/

section Names

variable (rules : CallRules)

/-- The call is of this action of `tc_session`. -/
def of_session (action : String) (name : String) (clean : Arguments) : Prop :=
  name = "tc_session" ∧ clean.get "action" = some (Python.text action)

/-- A connect succeeded, which opened this connection. -/
def opens (id : Str) : Event RouteOp → Prop
  | ⟨.relay_invoke name clean, .ok raw⟩ => of_session "connect" name clean ∧
      ∃ mapped, map_tool_result rules raw none = .ok mapped ∧ opened_connection rules mapped = .ok id
  | _ => False

/-- A disconnect was forwarded. -/
def disconnects : Event RouteOp → Prop
  | ⟨.relay_invoke name clean, _⟩ => of_session "disconnect" name clean
  | _ => False

/-- A disconnect was forwarded, and its answer could be mapped. -/
def disconnected : Event RouteOp → Prop
  | ⟨.relay_invoke name clean, .ok raw⟩ => of_session "disconnect" name clean ∧
      (map_tool_result rules raw none).isOk = true
  | _ => False

/-- Neither has another connection been opened, nor has one ended. -/
def Lasts (ends : Event RouteOp → Prop) (ev : Event RouteOp) : Prop :=
  (∀ id, ¬ opens rules id ev) ∧ ¬ ends ev

/-- The connection of the route: the one of its latest successful connect, or the one it was bound to
at first; and it has not ended. -/
def Owned (ends : Event RouteOp → Prop) (initial : Str) (past : List (Event RouteOp)) (id : Str) :
    Prop :=
  id ≠ [] ∧ (Since (opens rules id) (Lasts rules ends) past ∨
    id = initial ∧ ∀ ev ∈ past, Lasts rules ends ev)

/-- What a call must be to be forwarded after a past. -/
structure Permitted (ends : Event RouteOp → Prop) (initial : Str) (past : List (Event RouteOp))
    (name action : String) (clean : Arguments) : Prop where
  published : name ∈ UPSTREAM_TO_PUBLIC.map Prod.fst
  named : clean.get "action" = some (Python.text action)
  listed : ∃ actions, rules.inventory.lookup name = some actions ∧ action ∈ actions
  allowed : rules.policy.allows name action = true
  routing : ∀ entry ∈ clean, ∀ key ∈ ROUTING_KEYS, is_key key entry.1 = true → key = "connection_id"
  connect : name = "tc_session" → action = "connect" →
    clean.within ["action", "host", "port", "version"] = true ∧
      clean.get "host" = some (.str rules.binding.testclient_host) ∧
      (∃ port, clean.get "port" = some port ∧ equals_int rules.binding.testclient_port port = true) ∧
      clean.get "version" = some (Python.text "8.3.27.2074") ∧
      ∀ id, ¬ Owned rules ends initial past id
  listing : name = "tc_session" → action = "list_profiles" ∨ action = "list_connections" →
    clean.get "connection_id" = none
  other : ¬ (name = "tc_session" ∧ action ∈ ["connect", "list_profiles", "list_connections"]) →
    ∃ id, clean.get "connection_id" = some (.str id) ∧ Owned rules ends initial past id

end Names

/-! ## Arguments -/

variable {rules : CallRules} {args : Arguments} {key : String}

theorem get_filter {p : Python.Value × Python.Value → Bool}
    (kept : ∀ entry, is_key key entry.1 = true → p entry = true) :
    Arguments.get (args.filter p) key = args.get key := by
  unfold Arguments.get
  rw [List.find?_filter]
  refine congrArg (fun q => (List.find? q args).map Prod.snd) (funext fun entry => ?_)
  cases same : is_key key entry.1 with
  | false => exact decide_eq_false fun both => Bool.false_ne_true both.2
  | true => exact decide_eq_true ⟨kept entry same, rfl⟩

/-- A key that does not route is not stripped. -/
theorem get_strip (free : key ∉ ROUTING_KEYS) : (strip_routing_arguments args).get key = args.get key := by
  refine get_filter fun entry same => ?_
  rw [Bool.not_eq_true', List.any_eq_false]
  intro other member alike
  rw [is_key_iff] at same alike
  rw [same] at alike
  exact free (Str.of_injective (Python.Value.str.inj alike) ▸ member)

theorem routes_of_strip : ∀ entry ∈ strip_routing_arguments args, ∀ key ∈ ROUTING_KEYS,
    is_key key entry.1 = false := by
  intro entry member key routing
  have passed := (List.mem_filter.mp member).2
  rw [Bool.not_eq_true', List.any_eq_false] at passed
  exact Bool.not_eq_true _ ▸ passed key routing

theorem get_strip_routing (routing : key ∈ ROUTING_KEYS) :
    (strip_routing_arguments args).get key = none := by
  unfold Arguments.get
  rw [List.find?_eq_none.mpr fun entry member => ?_, Option.map_none]
  rw [routes_of_strip entry member key routing]
  exact Bool.false_ne_true

/-- Another key is added. -/
theorem get_append {other : String} {value : Python.Value} (apart : other ≠ key) :
    Arguments.get (args ++ [(Python.text other, value)]) key = args.get key := by
  have none : List.find? (fun entry : Python.Value × Python.Value => is_key key entry.1)
      [(Python.text other, value)] = none := by
    refine List.find?_eq_none.mpr fun entry member same => ?_
    rw [List.mem_singleton.mp member, is_key_iff] at same
    exact apart (Str.of_injective (Python.Value.str.inj same))
  unfold Arguments.get
  rw [List.find?_append, none, Option.or_none]

/-- A key is added that was not there. -/
theorem get_append_same {value : Python.Value} (new : args.get key = none) :
    Arguments.get (args ++ [(Python.text key, value)]) key = some value := by
  have found : List.find? (fun entry : Python.Value × Python.Value => is_key key entry.1)
      [(Python.text key, value)] = some (Python.text key, value) :=
    List.find?_cons_of_pos (is_key_iff.mpr rfl)
  unfold Arguments.get at *
  rw [List.find?_append, Option.map_eq_none_iff.mp new, Option.none_or, found, Option.map_some]

/-! ## What is forwarded -/

theorem of_admitted_tool {public_name : Python.Value} {name action : String}
    (admitted : admitted_tool rules public_name args = .ok (name, action)) :
    name ∈ UPSTREAM_TO_PUBLIC.map Prod.fst ∧ args.get "action" = some (Python.text action) ∧
      (∃ actions, rules.inventory.lookup name = some actions ∧ action ∈ actions) ∧
      rules.policy.allows name action = true := by
  unfold admitted_tool at admitted
  split at admitted
  · cases admitted
  · cases admitted
  split at admitted
  · cases admitted
  rename_i upstream published
  split at admitted
  · cases admitted
  rename_i actions listed
  split at admitted
  · cases admitted
  rename_i known found
  split at admitted
  · rename_i allowed
    cases admitted
    obtain ⟨entry, there, rfl⟩ := Option.map_eq_some_iff.mp published
    obtain ⟨value, given, found⟩ := Option.bind_eq_some_iff.mp found
    refine ⟨List.mem_map_of_mem (List.mem_of_find?_eq_some there), ?_,
      ⟨actions, listed, List.mem_of_find?_eq_some found⟩, allowed⟩
    have same : is_key action value = true :=
      List.find?_some (p := fun known => is_key known value) found
    rw [given, is_key_iff.mp same]
  · cases admitted

/-- The arguments a call goes out with, by its action. -/
structure Bound (rules : CallRules) (connection_id : Str) (name action : String)
    (clean : Arguments) : Prop where
  named : clean.get "action" = some (Python.text action)
  routing : ∀ entry ∈ clean, ∀ key ∈ ROUTING_KEYS, is_key key entry.1 = true → key = "connection_id"
  connect : name = "tc_session" → action = "connect" →
    clean.within ["action", "host", "port", "version"] = true ∧
      clean.get "host" = some (.str rules.binding.testclient_host) ∧
      (∃ port, clean.get "port" = some port ∧ equals_int rules.binding.testclient_port port = true) ∧
      clean.get "version" = some (Python.text "8.3.27.2074") ∧ connection_id = []
  listing : name = "tc_session" → action = "list_profiles" ∨ action = "list_connections" →
    clean.get "connection_id" = none
  other : ¬ (name = "tc_session" ∧ action ∈ ["connect", "list_profiles", "list_connections"]) →
    clean.get "connection_id" = some (.str connection_id) ∧ connection_id ≠ []

theorem get_with_host {clean : Arguments} (apart : "host" ≠ key) : (with_host clean).get key = clean.get key := by
  unfold with_host
  split
  · rfl
  · exact get_append apart

theorem routes_of_with_host : ∀ entry ∈ with_host (strip_routing_arguments args),
    ∀ key ∈ ROUTING_KEYS, is_key key entry.1 = true → key = "connection_id" := by
  intro entry member key routing same
  unfold with_host at member
  split at member
  · cases (routes_of_strip entry member key routing).symm.trans same
  · rcases List.mem_append.mp member with there | last
    · cases (routes_of_strip entry there key routing).symm.trans same
    · rw [List.mem_singleton.mp last, is_key_iff] at same
      have same : "host" = key := Str.of_injective (Python.Value.str.inj same)
      subst same
      exact absurd routing (by decide)

theorem of_any_is_str {value : Option Python.Value} {t : Str} (found : value.any (is_str t) = true) :
    value = some (.str t) := by
  obtain ⟨v, rfl, same⟩ := (Option.any_eq_true _ _).mp found
  rw [is_str_iff.mp same]

theorem of_bound_arguments {connection_id : Str} {name action : String} {clean : Arguments}
    (given : args.get "action" = some (Python.text action))
    (bound : bound_arguments rules connection_id ⟨name, action, strip_routing_arguments args⟩ args =
      .ok clean) : Bound rules connection_id name action clean := by
  have named : (strip_routing_arguments args).get "action" = some (Python.text action) := by
    rw [get_strip (by decide), given]
  have routing : ∀ entry ∈ strip_routing_arguments args, ∀ key ∈ ROUTING_KEYS,
      is_key key entry.1 = true → key = "connection_id" := by
    intro entry member key routing same
    cases (routes_of_strip entry member key routing).symm.trans same
  have unnamed : (strip_routing_arguments args).get "connection_id" = none :=
    get_strip_routing (by decide)
  unfold bound_arguments at bound
  dsimp only at bound
  by_cases alien : foreign connection_id (args.get "connection_id") = true
  · rw [if_pos alien] at bound
    cases bound
  rw [if_neg alien] at bound
  by_cases connecting : PreparedCall.connecting ⟨name, action, strip_routing_arguments args⟩ = true
  · rw [if_pos connecting] at bound
    obtain ⟨session, connect⟩ := Bool.and_eq_true_iff.mp connecting
    cases eq_of_beq session
    cases eq_of_beq connect
    split at bound
    · cases bound
    · rename_i passed
      split at bound
      · rename_i same
        cases bound
        rw [Bool.or_eq_true, Bool.or_eq_true, not_or, not_or] at passed
        obtain ⟨⟨within, unbound⟩, -⟩ := passed
        rw [Bool.and_eq_true, Bool.and_eq_true] at same
        obtain ⟨⟨host, port⟩, version⟩ := same
        refine ⟨?_, routes_of_with_host, fun _ _ => ⟨?_, of_any_is_str host, ?_, of_any_is_str version, ?_⟩,
          ?_, fun absent => absurd ⟨rfl, by decide⟩ absent⟩
        · rw [get_with_host (by decide), named]
        · simpa using within
        · obtain ⟨port, given, same⟩ := (Option.any_eq_true _ _).mp port
          exact ⟨port, given, same⟩
        · simpa using unbound
        · rintro - (other | other) <;> exact absurd other (by decide)
      · cases bound
  rw [if_neg connecting] at bound
  have unconnected : name = "tc_session" → action = "connect" → False := by
    rintro rfl rfl
    exact connecting rfl
  by_cases profiles : (name == "tc_session" && action == "list_profiles") = true
  · rw [if_pos profiles] at bound
    obtain ⟨session, listing⟩ := Bool.and_eq_true_iff.mp profiles
    cases eq_of_beq session
    cases eq_of_beq listing
    have within : (if (strip_routing_arguments args).within ["action"] = true then
        .ok (strip_routing_arguments args) else .error .InvalidParams : Except Raised Arguments) =
          .ok clean := by
      split at bound
      · exact bound
      · exact bound
      · cases bound
    split at within
    · cases within
      exact ⟨named, routing, fun one other => (unconnected one other).elim, fun _ _ => unnamed,
        fun absent => absurd ⟨rfl, by decide⟩ absent⟩
    · cases within
  rw [if_neg profiles] at bound
  by_cases connections :
      PreparedCall.listing_connections ⟨name, action, strip_routing_arguments args⟩ = true
  · rw [if_pos connections] at bound
    obtain ⟨session, listing⟩ := Bool.and_eq_true_iff.mp connections
    cases eq_of_beq session
    cases eq_of_beq listing
    split at bound
    · cases bound
    · split at bound
      · cases bound
      · cases bound
        exact ⟨named, routing, fun one other => (unconnected one other).elim, fun _ _ => unnamed,
          fun absent => absurd ⟨rfl, by decide⟩ absent⟩
  rw [if_neg connections] at bound
  split at bound
  · cases bound
  · rename_i there
    cases bound
    refine ⟨?_, fun entry member key routes same => ?_, fun one other => (unconnected one other).elim,
      ?_, fun _ => ⟨get_append_same unnamed, fun none => there (none ▸ rfl)⟩⟩
    · rw [get_append (by decide), named]
    · rcases List.mem_append.mp member with earlier | last
      · exact routing entry earlier key routes same
      · rw [List.mem_singleton.mp last, is_key_iff] at same
        exact (Str.of_injective (Python.Value.str.inj same)).symm
    · rintro rfl (rfl | rfl)
      · exact absurd rfl profiles
      · exact absurd rfl connections

/-- The call that `prepare` gives is bound to the connection. -/
theorem of_prepare {connection_id : Str} {tools : Option Descriptors} {public_name : Python.Value}
    {call : PreparedCall} (prepared : prepare rules connection_id tools public_name args = .ok call) :
    call.name ∈ UPSTREAM_TO_PUBLIC.map Prod.fst ∧
      (∃ actions, rules.inventory.lookup call.name = some actions ∧ call.action ∈ actions) ∧
      rules.policy.allows call.name call.action = true ∧
      Bound rules connection_id call.name call.action call.clean := by
  obtain ⟨⟨name, action⟩, admitted, prepared⟩ := bind_eq_ok.mp prepared
  obtain ⟨clean, bound, prepared⟩ := bind_eq_ok.mp prepared
  obtain ⟨-, -, prepared⟩ := bind_eq_ok.mp prepared
  cases prepared
  obtain ⟨published, given, listed, allowed⟩ := of_admitted_tool admitted
  exact ⟨published, listed, allowed, of_bound_arguments given bound⟩

/-! ## The connection and its history -/

variable {ends : Event RouteOp → Prop} {initial : Str} {past : List (Event RouteOp)} {id : Str}
  {ev : Event RouteOp}

theorem opens_unique {id' : Str} (one : opens rules id ev) (other : opens rules id' ev) : id = id' := by
  rcases ev with ⟨op, answer⟩
  cases op with
  | relay_invoke name clean =>
    cases answer with
    | ok raw =>
      obtain ⟨-, mapped, maps, opened⟩ := one
      obtain ⟨-, mapped', maps', opened'⟩ := other
      cases maps.symm.trans maps'
      exact Except.ok.inj (opened.symm.trans opened')
    | error _ => exact one.elim
  | _ => exact one.elim

theorem owned_of_lasts (lasts : Lasts rules ends ev) :
    Owned rules ends initial (past ++ [ev]) id ↔ Owned rules ends initial past id := by
  refine and_congr_right fun _ => or_congr ?_ (and_congr_right fun _ => ?_)
  · rw [since_snoc_iff]
    exact ⟨fun either => (either.resolve_left (lasts.1 id)).2, fun since => .inr ⟨lasts, since⟩⟩
  · rw [List.forall_mem_append, List.forall_mem_singleton]
    exact and_iff_left lasts

theorem owned_of_opens {opened : Str} (opens : opens rules opened ev) :
    Owned rules ends initial (past ++ [ev]) id ↔ id ≠ [] ∧ id = opened := by
  refine and_congr_right fun _ => ?_
  rw [since_snoc_iff, List.forall_mem_append, List.forall_mem_singleton]
  constructor
  · rintro ((same | ⟨lasts, -⟩) | ⟨-, -, lasts⟩)
    · exact opens_unique same opens
    · exact absurd opens (lasts.1 opened)
    · exact absurd opens (lasts.1 opened)
  · rintro rfl
    exact .inl (.inl opens)

theorem not_owned_of_ends (ended : ends ev) (other : ∀ id, ¬ opens rules id ev) :
    ¬ Owned rules ends initial (past ++ [ev]) id := by
  rintro ⟨-, since⟩
  rw [since_snoc_iff, List.forall_mem_append, List.forall_mem_singleton] at since
  rcases since with (opened | ⟨lasts, -⟩) | ⟨-, -, lasts⟩
  · exact other id opened
  · exact lasts.2 ended
  · exact lasts.2 ended

/-- The state says which connection the route owns. -/
def Tracks (rules : CallRules) (initial : Str) (past : List (Event RouteOp)) (s : RouteState) : Prop :=
  ∀ id, Owned rules (disconnected rules) initial past id ↔ id ≠ [] ∧ id = s.connection_id

variable {s : RouteState}

theorem Tracks.lasts (tracks : Tracks rules initial past s) (lasts : Lasts rules (disconnected rules) ev) :
    Tracks rules initial (past ++ [ev]) s :=
  fun id => (owned_of_lasts lasts).trans (tracks id)

theorem tracks_new : Tracks rules initial [] ⟨initial⟩ := by
  refine fun id => and_congr_right fun _ => ⟨fun either => ?_, fun same => .inr ⟨same, fun _ none => ?_⟩⟩
  · rcases either with since | same
    · obtain ⟨a, x, b, none, -⟩ := since
      cases List.append_eq_nil_iff.mp none.symm with
      | intro _ none => cases none
    · exact same.1
  · cases none

/-- What is safe: a call is forwarded if it is permitted. -/
def Safe (rules : CallRules) (initial : Str) (past : List (Event RouteOp)) :
    ∀ {β : Type}, RouteOp β → Prop
  | _, .relay_invoke name clean =>
    ∃ action, Permitted rules (disconnected rules) initial past name action clean
  | _, _ => True

theorem permitted_of_prepare {tools : Option Descriptors} {public_name : Python.Value}
    {call : PreparedCall} (tracks : Tracks rules initial past s)
    (prepared : prepare rules s.connection_id tools public_name args = .ok call) :
    Permitted rules (disconnected rules) initial past call.name call.action call.clean := by
  obtain ⟨published, listed, allowed, bound⟩ := of_prepare prepared
  refine ⟨published, bound.named, listed, allowed, bound.routing, fun session connect => ?_,
    bound.listing, fun absent => ?_⟩
  · obtain ⟨within, host, port, version, unbound⟩ := bound.connect session connect
    refine ⟨within, host, port, version, fun id owned => ?_⟩
    obtain ⟨there, same⟩ := (tracks id).mp owned
    exact there (same.trans unbound)
  · obtain ⟨given, there⟩ := bound.other absent
    exact ⟨s.connection_id, given, (tracks _).mpr ⟨there, rfl⟩⟩

/-- A forwarded call changes the connection as its answer says. -/
theorem invoke_runs {call : PreparedCall} (tracks : Tracks rules initial past s)
    (permitted : Permitted rules (disconnected rules) initial past call.name call.action call.clean) :
    Runs (Safe rules initial) (fun past s _ => Tracks rules initial past s)
      (fun past s _ => Tracks rules initial past s) past s (invoke rules call) := by
  have acts {action : String} (one : of_session action call.name call.clean) :
      call.name = "tc_session" ∧ call.action = action :=
    ⟨one.1, Str.of_injective (Python.Value.str.inj (Option.some.inj (permitted.named.symm.trans one.2)))⟩
  -- the result of such a call is mapped without a connection
  have own {action : String} (one : of_session action call.name call.clean)
      (other : action ≠ "list_connections") :
      (if call.listing_connections then some s.connection_id else none) = none := by
    refine if_neg fun listing => other ?_
    rw [← (acts one).2, eq_of_beq (Bool.and_eq_true_iff.mp listing).2]
  refine runs_ask_bind ⟨call.action, permitted⟩ (fun raw => ?_) fun exc => tracks.lasts ⟨fun _ => id, id⟩
  refine runs_read_bind (runs_rethrow_bind (fun mapped maps => ?_) fun exc unmapped => ?_)
  · by_cases connecting : call.connecting = true
    · obtain ⟨session, connect⟩ := Bool.and_eq_true_iff.mp connecting
      have one : of_session "connect" call.name call.clean :=
        ⟨eq_of_beq session, by rw [permitted.named, eq_of_beq connect]⟩
      rw [own one (by decide)] at maps
      have other : call.disconnecting = false := by
        refine Bool.eq_false_iff.mpr fun disconnecting => ?_
        have same := (eq_of_beq connect).symm.trans (eq_of_beq (Bool.and_eq_true_iff.mp disconnecting).2)
        exact absurd same (by decide)
      rw [connecting, other]
      refine Runs.bind (Q := fun past s _ => Tracks rules initial past s) ?_ fun _ _ _ tracks => tracks
      refine runs_rethrow_bind (fun id opened => runs_write fun id' => ?_) fun exc unopened => ?_
      · exact owned_of_opens ⟨one, mapped, maps, opened⟩
      · refine tracks.lasts ⟨fun id opened => ?_, fun ended => ?_⟩
        · obtain ⟨-, mapped', maps', opened⟩ := opened
          cases maps.symm.trans maps'
          cases unopened.symm.trans opened
        · exact absurd ((acts one).2.symm.trans (acts ended.1).2) (by decide)
    · have unopened (id : Str) : ¬ opens rules id ⟨.relay_invoke call.name call.clean, .ok raw⟩ := by
        intro opened
        obtain ⟨session, connect⟩ := acts opened.1
        exact connecting (Bool.and_eq_true_iff.mpr ⟨beq_iff_eq.mpr session, beq_iff_eq.mpr connect⟩)
      rw [Bool.not_eq_true] at connecting
      rw [connecting]
      change Runs _ _ _ _ s (do
        when call.disconnecting (write fun s => { s with connection_id := [] })
        pure mapped)
      refine Runs.bind (Q := fun past s _ => Tracks rules initial past s) (Runs.when
        (fun disconnecting => runs_write fun id => ?_) fun other => tracks.lasts ⟨unopened, fun ended => ?_⟩)
        fun _ _ _ tracks => tracks
      · obtain ⟨session, disconnect⟩ := Bool.and_eq_true_iff.mp disconnecting
        have one : of_session "disconnect" call.name call.clean :=
          ⟨eq_of_beq session, by rw [permitted.named, eq_of_beq disconnect]⟩
        rw [own one (by decide)] at maps
        have ended : disconnected rules ⟨.relay_invoke call.name call.clean, .ok raw⟩ :=
          ⟨one, by rw [maps]; rfl⟩
        exact iff_of_false (not_owned_of_ends ended unopened) fun both => both.1 both.2
      · obtain ⟨session, disconnect⟩ := acts ended.1
        refine absurd ?_ (Bool.eq_false_iff.mp other)
        exact Bool.and_eq_true_iff.mpr ⟨beq_iff_eq.mpr session, beq_iff_eq.mpr disconnect⟩
  · refine tracks.lasts ⟨fun id opened => ?_, fun ended => ?_⟩
    · obtain ⟨one, mapped, maps, -⟩ := opened
      rw [own one (by decide), maps] at unmapped
      cases unmapped
    · obtain ⟨one, maps⟩ := ended
      rw [own one (by decide)] at unmapped
      rw [unmapped] at maps
      cases maps

/-! ## Runs -/

theorem preserves_dispatch_body {public_name : Python.Value} :
    Preserves (Safe rules initial) (Tracks rules initial) (dispatch_body rules public_name args) := by
  intro past s tracks
  refine runs_observe_bind trivial fun ready => ?_
  have tracks : Tracks rules initial (past ++ [⟨.dispatch_ready, ready⟩]) s :=
    tracks.lasts ⟨fun _ => id, id⟩
  split
  · exact runs_raising tracks
  · refine runs_ask_bind trivial (fun _ => ?_) fun _ => tracks.lasts ⟨fun _ => id, id⟩
    have tracks : Tracks rules initial (past ++ [⟨.dispatch_ready, ready⟩] ++
        [⟨.admission_check, .ok ()⟩]) s := tracks.lasts ⟨fun _ => id, id⟩
    refine runs_observe_bind trivial fun tools => ?_
    have tracks : Tracks rules initial (past ++ [⟨.dispatch_ready, ready⟩] ++
        [⟨.admission_check, .ok ()⟩] ++ [⟨.tools, tools⟩]) s := tracks.lasts ⟨fun _ => id, id⟩
    refine runs_read_bind (runs_rethrow_bind (fun call prepared => ?_) fun _ _ => tracks)
    refine (invoke_runs tracks (permitted_of_prepare tracks prepared)).bind fun past s mapped tracks => ?_
    exact preserves_ask (fun _ _ tracks => ⟨trivial, fun _ => tracks.lasts ⟨fun _ => id, id⟩⟩) past s tracks

variable {κ : Type} [DecidableEq κ] {hash : Python.Value → Option κ}

theorem preserves_dispatch_call (params : Python.Value) :
    Preserves (Safe rules initial) (Tracks rules initial) (dispatch_call rules hash params) := by
  refine (preserves_rethrow _).bind fun call => preserves_dispatch_body.attempt.bind fun ended => ?_
  have told {op : RouteOp (Except Raised Unit)} (silent : ∀ past, Safe rules initial past op)
      (lasts : ∀ r, Lasts rules (disconnected rules) ⟨op, r⟩) :
      Preserves (Safe rules initial) (Tracks rules initial) (ask op : Routine Unit) :=
    preserves_ask fun past _ tracks => ⟨silent past, fun r => tracks.lasts (lasts r)⟩
  have terminal {exc : Raised} :
      Preserves (Safe rules initial) (Tracks rules initial) (ask (.terminal exc) : Routine Unit) :=
    told (fun _ => trivial) fun _ => ⟨fun _ => id, id⟩
  have cancelled : Preserves (Safe rules initial) (Tracks rules initial)
      (ask .send_sdk_cancel : Routine Unit) := told (fun _ => trivial) fun _ => ⟨fun _ => id, id⟩
  cases ended with
  | ok _ => exact preserves_pure ()
  | error exc =>
    cases exc with
    | CancelledError => exact preserves_pure ()
    | TimeoutError => exact cancelled.bind fun _ => terminal
    | _ => exact terminal

/-- **No retargeting.**  Every call that is forwarded is of a published tool and an allowed action;
it connects to the bound client while no connection is owned, or it names the connection that is. -/
theorem forwarded_permitted {calls : List Python.Value} {name : String} {clean : Arguments}
    {r : Except Raised Entries} {a b : List (Event RouteOp)}
    {q : Prog RouteOp (Except Raised Unit × RouteState)}
    (run : Exec (routed rules hash initial calls) (a ++ ⟨.relay_invoke name clean, r⟩ :: b) q) :
    ∃ action, Permitted rules (disconnected rules) initial a name action clean := by
  obtain ⟨k, before, -⟩ := run.split
  have runs : Runs (Safe rules initial) (fun past s _ => Tracks rules initial past s)
      (fun past s _ => Tracks rules initial past s) [] ⟨initial⟩
      (each (dispatch_call rules hash) calls) :=
    Preserves.each preserves_dispatch_call [] ⟨initial⟩ tracks_new
  exact Prog.Guarded.exec runs before

/-! ## A disconnect without an answer -/

/-- A route to one client, which may connect and disconnect. -/
def plain_rules : CallRules where
  inventory := [("tc_session", ["connect", "disconnect"])]
  policy :=
    { inventory := [("tc_session", ["connect", "disconnect"])]
      allowed := [("tc_session", ["connect", "disconnect"])] }
  binding := { testclient_host := Str.of "127.0.0.1", testclient_port := 48000 }
  is_valid _ _ := .ok true
  loads _ := .error .ValueError
  floats := { repr := fun text => text, read := fun _ => none }

def plain_hash : Python.Value → Option Str
  | .str s => some s
  | _ => none

/-- A call of `testpilot_session`. -/
def session_call (arguments : List (String × Python.Value)) : Python.Value :=
  Python.of_members [("name", Python.text "testpilot_session"),
    ("arguments", Python.of_members arguments)]

def connect_call : Python.Value :=
  session_call [("action", Python.text "connect"), ("port", .int 48000),
    ("version", Python.text "8.3.27.2074")]

def disconnect_call : Python.Value := session_call [("action", Python.text "disconnect")]

/-- The SDK answers from a list, and nothing else fails. -/
def scripted : Handler RouteOp (List (Except Raised Entries))
  | _, .relay_invoke .., answer :: rest => some (answer, rest)
  | _, .relay_invoke .., [] => none
  | _, .dispatch_ready, answers => some (true, answers)
  | _, .tools, answers => some (some [(Str.of "testpilot_session", .dict [])], answers)
  | _, .admission_check, answers => some (.ok (), answers)
  | _, .send_sdk_cancel, answers => some (.ok (), answers)
  | _, .respond _, answers => some (.ok (), answers)
  | _, .terminal _, answers => some (.ok (), answers)

def scripted_run (initial : String) (calls : List Python.Value)
    (answers : List (Except Raised Entries)) :
    List (Event RouteOp) × Prog RouteOp (Except Raised Unit × RouteState) :=
  (routed plain_rules plain_hash (Str.of initial) calls).record scripted answers

theorem exec_scripted (initial : String) (calls : List Python.Value)
    (answers : List (Except Raised Entries)) :
    Exec (routed plain_rules plain_hash (Str.of initial) calls) (scripted_run initial calls answers).1
      (scripted_run initial calls answers).2 :=
  Prog.exec_record _ _ _

/-- The answer to a connect. -/
def connected : Except Raised Entries :=
  .ok [(Str.of "content", .list []), (Str.of "structuredContent",
    Python.of_members [("ok", .bool true), ("connection_id", Python.text "own")])]

/-- The arguments a disconnect goes out with. -/
def own_disconnect : Arguments :=
  [(Python.text "action", Python.text "disconnect"), (Python.text "connection_id", Python.text "own")]

/-- A route connects and disconnects. -/
def connected_run : List (Event RouteOp) × Prog RouteOp (Except Raised Unit × RouteState) :=
  scripted_run "" [connect_call, disconnect_call] [connected, connected]

theorem disconnect_is_permitted :
    ∃ action, Permitted plain_rules (disconnected plain_rules) [] (connected_run.1.take 8) "tc_session"
      action own_disconnect := by
  have forwarded : connected_run.1[8]? = some ⟨.relay_invoke "tc_session" own_disconnect, connected⟩ :=
    rfl
  have run := exec_scripted "" [connect_call, disconnect_call] [connected, connected]
  change Exec _ connected_run.1 connected_run.2 at run
  rw [split_at forwarded] at run
  exact forwarded_permitted run

/-- A forwarded call was answered. -/
def answered : Event RouteOp → Bool
  | ⟨.relay_invoke .., .ok _⟩ => true
  | _ => false

theorem answered_of_opens (opened : opens rules id ev) : answered ev = true := by
  rcases ev with ⟨op, answer⟩
  cases op with
  | relay_invoke name clean =>
    cases answer with
    | ok raw => rfl
    | error _ => exact opened.elim
  | _ => exact opened.elim

/-- A route disconnects from its first connection, and again when the answer has not come. -/
def timed_out_run : List (Event RouteOp) × Prog RouteOp (Except Raised Unit × RouteState) :=
  scripted_run "own" [disconnect_call, disconnect_call] [.error .TimeoutError, connected]

/-- A call names the connection after a disconnect from it was forwarded. -/
theorem connection_outlasts_disconnect :
    ∃ (rules : CallRules) (hash : Python.Value → Option Str) (initial : Str)
      (calls : List Python.Value) (q : Prog RouteOp (Except Raised Unit × RouteState))
      (a b : List (Event RouteOp)) (name : String) (clean : Arguments) (r : Except Raised Entries),
      Exec (routed rules hash initial calls) (a ++ ⟨.relay_invoke name clean, r⟩ :: b) q ∧
        ¬ ∃ action, Permitted rules disconnects initial a name action clean := by
  have forwarded : timed_out_run.1[9]? = some ⟨.relay_invoke "tc_session" own_disconnect, connected⟩ :=
    rfl
  have first : (timed_out_run.1.take 9)[3]? =
      some ⟨.relay_invoke "tc_session" own_disconnect, .error .TimeoutError⟩ := rfl
  have run := exec_scripted "own" [disconnect_call, disconnect_call] [.error .TimeoutError, connected]
  change Exec _ timed_out_run.1 timed_out_run.2 at run
  rw [split_at forwarded] at run
  refine ⟨_, _, _, _, _, _, _, _, _, _, run, fun permits => ?_⟩
  obtain ⟨action, permitted⟩ := permits
  have same : Python.text action = Python.text "disconnect" :=
    Option.some.inj (permitted.named.symm.trans rfl)
  cases Str.of_injective (Python.Value.str.inj same)
  obtain ⟨id, -, -, since | ⟨-, lasts⟩⟩ := permitted.other (by decide)
  · obtain ⟨x, ev, y, split, opened, -⟩ := since
    have none : (timed_out_run.1.take 9).any answered = false := rfl
    rw [split, List.any_append, List.any_cons, answered_of_opens opened, Bool.true_or,
      Bool.or_true] at none
    cases none
  · exact (lasts _ (List.mem_of_getElem? first)).2 ⟨rfl, rfl⟩

end SessionManager.Route
