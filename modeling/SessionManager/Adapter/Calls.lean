import SessionManager.Adapter.Debugger

/-!
# Calls of the test client adapter

The decisions `Provider._dispatch_call` of `provider.py` makes between two awaits: what a call
must be to be forwarded (`prepare`), what becomes of the result (`map_tool_result`), and which
connection a successful connect has opened (`opened_connection`).
-/

namespace SessionManager

open Python (Str Entries Floats)

/-! ## Dictionaries -/

/-- A dictionary `dict(..)` gives; its keys may be any hashable values. -/
abbrev Arguments := List (Python.Value × Python.Value)

/-- `value == s` -/
def is_str (s : Str) : Python.Value → Bool
  | .str t => t == s
  | _ => false

def is_none : Python.Value → Bool
  | .None => true
  | _ => false

/-- The key is this string. -/
def is_key (key : String) (value : Python.Value) : Bool := is_str (Str.of key) value

theorem is_str_iff {t : Str} {value : Python.Value} : is_str t value = true ↔ value = .str t := by
  constructor
  · intro found
    cases value with
    | str u =>
      rw [eq_of_beq (α := Str) found]
    | _ => cases found
  · rintro rfl
    exact beq_self_eq_true t

theorem is_key_iff {key : String} {value : Python.Value} :
    is_key key value = true ↔ value = Python.text key := is_str_iff

/-- `args.get(key)` -/
def Arguments.get (args : Arguments) (key : String) : Option Python.Value :=
  (args.find? fun entry => is_key key entry.1).map Prod.snd

/-- The only keys of `args` are among these. -/
def Arguments.within (args : Arguments) (keys : List String) : Bool :=
  args.all fun entry => keys.any fun key => is_key key entry.1

/-- `params or {}`, of which `.get` is called. -/
def entries_of : Python.Value → Except Raised Entries
  | .dict entries => .ok entries
  | value => if value.truthy then .error .Exception else .ok []

/-- The two items of an element of `dict(iterable)`. -/
def pair : Python.Value → Option (Python.Value × Python.Value)
  | .list [key, value] => some (key, value)
  | .str [key, value] => some (.str [key], .str [value])
  | .dict [(key, _), (value, _)] => some (.str key, .str value)
  | _ => none

section Dict

variable {κ : Type} [DecidableEq κ]

/-- `d[key] = value`; keys are equal if they hash to the same `κ` (`hash` gives none for a value
that has no hash). -/
def Arguments.insert (hash : Python.Value → Option κ) (key value : Python.Value) :
    Arguments → Arguments
  | [] => [(key, value)]
  | entry :: rest =>
    if hash entry.1 = hash key then (entry.1, value) :: rest
    else entry :: Arguments.insert hash key value rest

/-- `dict(value or {})` -/
def dict (hash : Python.Value → Option κ) : Python.Value → Except Raised Arguments
  | .dict entries => .ok (entries.map fun entry => (.str entry.1, entry.2))
  | .list items => items.foldlM (fun (args : Arguments) item =>
      match pair item with
      | some (key, value) =>
        if (hash key).isSome then .ok (args.insert hash key value) else .error .Exception
      | none => .error .Exception) []
  | value => if value.truthy then .error .Exception else .ok []

/-- `params.get("name")` and `dict(params.get("arguments") or {})` -/
def call_arguments (hash : Python.Value → Option κ) (params : Python.Value) :
    Except Raised (Python.Value × Arguments) := do
  let params ← entries_of params
  let args ← dict hash ((Python.get params "arguments").getD .None)
  return ((Python.get params "name").getD .None, args)

end Dict

/-! ## What may be forwarded -/

/-- `UPSTREAM_TO_PUBLIC` -/
def UPSTREAM_TO_PUBLIC : List (String × String) :=
  [("tc_session", "testpilot_session"), ("tc_app", "testpilot_app"),
    ("tc_window", "testpilot_window"), ("tc_field", "testpilot_field"),
    ("tc_doc", "testpilot_doc"), ("tc_table", "testpilot_table"),
    ("tc_calendar", "testpilot_calendar"), ("tc_form", "testpilot_form"),
    ("tc_scenario", "testpilot_scenario"), ("tc_find", "testpilot_find")]

/-- `PUBLIC_TO_UPSTREAM.get(name)` -/
def PUBLIC_TO_UPSTREAM (name : Python.Value) : Option String :=
  (UPSTREAM_TO_PUBLIC.find? fun entry => is_key entry.2 name).map Prod.fst

def ROUTING_KEYS : List String :=
  ["session_id", "connection_id", "database_key", "_v8_call_options"]

def strip_routing_arguments (args : Arguments) : Arguments :=
  args.filter fun entry => !ROUTING_KEYS.any fun key => is_key key entry.1

/-- `load_inventory()`: the tools with their actions. -/
abbrev Inventory := List (String × List String)

/-- The action is one of these. -/
def action_in (actions : List String) (action : Option Python.Value) : Option String :=
  action.bind fun action => actions.find? fun known => is_key known action

/-- `ActionPolicy` -/
structure ActionPolicy where
  inventory : Inventory
  allowed : Inventory

def ActionPolicy.allows (policy : ActionPolicy) (tool action : String) : Bool :=
  ((policy.inventory.lookup tool).getD []).contains action &&
    ((policy.allowed.lookup tool).getD []).contains action

/-- What a call may not choose: the members of `self._binding` that never change. -/
structure Binding where
  testclient_host : Str
  testclient_port : Nat

/-- `value == n` for a port. -/
def equals_int (n : Nat) : Python.Value → Bool
  | .int m => m == n
  | .bool b => n == b.toNat
  | .float (.finite text) => text == toString n ++ ".0"
  | _ => false

/-- A tool of `self._tools`: its public name and its schema. -/
abbrev Descriptors := List (Str × Python.Value)

/-- What `_dispatch_call` decides with. -/
structure CallRules where
  inventory : Inventory
  policy : ActionPolicy
  binding : Binding
  /-- `validator_for(schema)(schema).is_valid(clean)` -/
  is_valid : Python.Value → Arguments → Except Raised Bool
  /-- `json.loads`, as in `Library`. -/
  loads : Str → Except LoadsError Python.Value
  floats : Floats

/-- A call that is forwarded. -/
structure PreparedCall where
  name : String
  action : String
  clean : Arguments

def PreparedCall.connecting (call : PreparedCall) : Bool :=
  call.name == "tc_session" && call.action == "connect"

def PreparedCall.listing_connections (call : PreparedCall) : Bool :=
  call.name == "tc_session" && call.action == "list_connections"

def PreparedCall.disconnecting (call : PreparedCall) : Bool :=
  call.name == "tc_session" && call.action == "disconnect"

/-- The stage `TOOL_POLICY`: the upstream name and the action. -/
def admitted_tool (rules : CallRules) (public_name : Python.Value) (args : Arguments) :
    Except Raised (String × String) :=
  match public_name with
  | .list _ | .dict _ => .error .Exception
  | _ =>
    match PUBLIC_TO_UPSTREAM public_name with
    | none => .error .InvalidParams
    | some name =>
      match rules.inventory.lookup name with
      | none => .error .InvalidParams
      | some actions =>
        match action_in actions (args.get "action") with
        | none => .error .InvalidParams
        | some action =>
          if rules.policy.allows name action then .ok (name, action) else .error .PolicyDenied

/-- `supplied is not None and supplied != self._binding["connection_id"]` -/
def foreign (connection_id : Str) : Option Python.Value → Bool
  | none | some .None => false
  | some (.str s) => s != connection_id
  | some _ => true

/-- The arguments of a connect, its default host filled in. -/
def with_host (clean : Arguments) : Arguments :=
  match clean.get "host" with
  | some _ => clean
  | none => clean ++ [(Python.text "host", Python.text "127.0.0.1")]

/-- The stage `CONNECTION_BINDING`: the arguments the SDK is called with. -/
def bound_arguments (rules : CallRules) (connection_id : Str) (call : PreparedCall)
    (args : Arguments) : Except Raised Arguments :=
  let supplied := args.get "connection_id"
  if foreign connection_id supplied then .error .InvalidParams
  else if call.connecting then
    let clean := with_host call.clean
    if !clean.within ["action", "host", "port", "version"] || !connection_id.isEmpty ||
        (supplied.getD .None).truthy then .error .InvalidParams
    else if (clean.get "host").any (is_str rules.binding.testclient_host) &&
        (clean.get "port").any (equals_int rules.binding.testclient_port) &&
        (clean.get "version").any (is_str (Str.of "8.3.27.2074")) then .ok clean
    else .error .InvalidParams
  else if call.name == "tc_session" && call.action == "list_profiles" then
    match supplied with
    | none | some .None =>
      if call.clean.within ["action"] then .ok call.clean else .error .InvalidParams
    | some _ => .error .InvalidParams
  else if call.listing_connections then
    if !call.clean.within ["action"] || supplied.isSome then .error .InvalidParams
    else if connection_id.isEmpty then .error .AdmissionError
    else .ok call.clean
  else if connection_id.isEmpty then .error .AdmissionError
  else .ok (call.clean ++ [(Python.text "connection_id", .str connection_id)])

/-- The stage `ARGUMENT_SCHEMA` -/
def check_schema (rules : CallRules) (tools : Option Descriptors) (public_name : Python.Value)
    (clean : Arguments) : Except Raised Unit :=
  match tools.bind fun tools => tools.find? fun tool => is_str tool.1 public_name with
  | none => .error .Exception
  | some tool => do
    if ← rules.is_valid tool.2 clean then .ok () else .error .InvalidParams

/-- `_dispatch_call` from the policy to the SDK. -/
def prepare (rules : CallRules) (connection_id : Str) (tools : Option Descriptors)
    (public_name : Python.Value) (args : Arguments) : Except Raised PreparedCall := do
  let (name, action) ← admitted_tool rules public_name args
  let clean ← bound_arguments rules connection_id ⟨name, action, strip_routing_arguments args⟩ args
  check_schema rules tools public_name clean
  return ⟨name, action, clean⟩

/-! ## Results -/

inductive Block
  | text (value : Python.Value)
  | json (value : Python.Value)

/-- What `map_tool_result` returns. -/
structure Mapped where
  content : List Block
  is_error : Bool
  structured_content : Option Python.Value

def Block.python : Block → Python.Value
  | .text value => Python.of_members [("type", Python.text "text"), ("text", value)]
  | .json value => Python.of_members [("type", Python.text "json"), ("json", value)]

def Mapped.python (mapped : Mapped) : Python.Value :=
  .dict ([(Str.of "content", .list (mapped.content.map Block.python)),
    (Str.of "is_error", .bool mapped.is_error)] ++
    mapped.structured_content.toList.map fun value => (Str.of "structured_content", value))

def mapped_block : Python.Value → Except Raised Block
  | .dict block =>
    match Python.get block "type" with
    | some (.str type) =>
      if type = Str.of "text" then .ok (.text ((Python.get block "text").getD (Python.text "")))
      else if type = Str.of "json" then .ok (.json ((Python.get block "json").getD .None))
      else .error .UnsupportedContent
    | _ => .error .UnsupportedContent
  | _ => .error .Exception

/-- `(mcp_result or {}).get("content") or []` -/
def content_of (raw : Entries) : Option Python.Value :=
  (Python.get raw "content").filter Python.Value.truthy

/-- `map_tool_result(raw)` -/
def mapped_result (raw : Entries) : Except Raised Mapped := do
  let blocks ← iterate (content_of raw)
  let content ← blocks.mapM mapped_block
  return ⟨content, is_error raw, Python.get raw "structuredContent"⟩

section Listing

variable (rules : CallRules)

/-- `json.loads(text)`, or nothing for what is no JSON text. -/
def loaded : Python.Value → Except Raised Python.Value
  | .str s =>
    match rules.loads s with
    | .ok value => .ok value
    | .error .ValueError => .ok .None
    | .error .RecursionError => .error .Exception
  | _ => .ok .None

def Block.representation : Block → Except Raised Python.Value
  | .text value => loaded rules value
  | .json value => .ok value

/-- `isinstance(value, dict) and value.get("ok") is ok` -/
def says_ok (ok : Bool) : Python.Value → Bool
  | .dict entries =>
    match Python.get entries "ok" with
    | some (.bool b) => b == ok
    | _ => false
  | _ => false

/-- `set(value) == keys` -/
def has_keys (keys : List String) : Python.Value → Bool
  | .dict entries =>
    keys.all (fun key => (Python.get entries key).isSome) &&
      entries.all fun entry => keys.any fun key => entry.1 == Str.of key
  | _ => false

def is_dict : Python.Value → Bool
  | .dict _ => true
  | _ => false

/-- `row.get("connection_id") == connection_id` -/
def has_id (connection_id : Str) : Python.Value → Bool
  | .dict row => (Python.get row "connection_id").any (is_str connection_id)
  | _ => false

/-- The row of the own connection, the only one with its id. -/
def own_row (connection_id : Str) (rows : List Python.Value) : Except Raised Python.Value :=
  if !rows.all is_dict then .error .AdmissionError
  else
    match rows.filter (has_id connection_id) with
    | [.dict row] =>
      match Python.get row "host", Python.get row "port" with
      | some (.str host), some (.int port) =>
        if host = rules.binding.testclient_host ∧ port = rules.binding.testclient_port then
          .ok (.dict row)
        else .error .AdmissionError
      | _, _ => .error .AdmissionError
    | _ => .error .AdmissionError

/-- The representation with the own row only. -/
def projected (connection_id : Str) (value : Python.Value) : Except Raised Python.Value :=
  match value with
  | .dict entries =>
    if says_ok true value && has_keys ["ok", "connections"] value then
      match Python.get entries "connections" with
      | some (.list rows) => do
        let row ← own_row rules connection_id rows
        return .dict (entries.map fun entry =>
          if entry.1 = Str.of "connections" then (entry.1, .list [row]) else entry)
      | _ => .error .AdmissionError
    else .error .AdmissionError
  | _ => .error .AdmissionError

def Block.projected (connection_id : Str) : Block → Except Raised Block
  | .text value => do
    let own ← SessionManager.projected rules connection_id (← loaded rules value)
    return .text (.str (own.dumps rules.floats false))
  | .json value => return .json (← SessionManager.projected rules connection_id value)

/-- `map_tool_result(raw, own_connection)` -/
def map_tool_result (raw : Entries) (own_connection : Option Str) : Except Raised Mapped := do
  let mapped ← mapped_result raw
  match own_connection with
  | none => return mapped
  | some connection_id =>
    let values ← mapped.content.mapM (Block.representation rules)
    let representations := mapped.structured_content.toList ++ values
    if !representations.any (says_ok true) then
      if !representations.isEmpty && representations.all (fun value =>
          says_ok false value && has_keys ["ok", "code", "error"] value) && !mapped.is_error then
        return mapped
      else throw .AdmissionError
    else if mapped.is_error || connection_id.isEmpty then throw .AdmissionError
    else
      let structured ← mapped.structured_content.mapM (projected rules connection_id)
      let content ← mapped.content.mapM (Block.projected rules connection_id)
      return ⟨content, false, structured⟩

/-- `content = mapped.get("structured_content")`, where `None` counts as absent. -/
def Mapped.structured (mapped : Mapped) : Option Python.Value :=
  match mapped.structured_content with
  | some .None => none
  | structured => structured

/-- The response of a connect: the structured content, or the last text that is JSON. -/
def connect_response (mapped : Mapped) : Except Raised (Option Python.Value) :=
  match mapped.structured with
  | some value => .ok (some value)
  | none => mapped.content.foldlM (fun response block =>
      match block with
      | .json _ => .ok response
      | .text (.str s) =>
        match rules.loads s with
        | .ok value => .ok (some value)
        | .error .ValueError => .ok response
        | .error .RecursionError => .error .Exception
      | .text _ => .error .Exception) none

/-- The connection a connect has opened. -/
def opened_connection (mapped : Mapped) : Except Raised Str := do
  match ← connect_response rules mapped with
  | some (.dict response) =>
    if mapped.is_error || !says_ok true (.dict response) then throw .AdmissionError
    else
      match Python.get response "connection_id" with
      | some (.str id) => if id.isEmpty then throw .AdmissionError else return id
      | _ => throw .AdmissionError
  | _ => throw .AdmissionError

/-- The text of the first block that has one. -/
def first_text : List Block → Option Python.Value
  | [] => none
  | .text value :: _ => some value
  | .json _ :: rest => first_text rest

/-- The response of a disconnect: the structured content, or the first text. -/
def disconnect_response (mapped : Mapped) : Except Raised (Option Python.Value) :=
  match mapped.structured, first_text mapped.content with
  | some value, _ => .ok (some value)
  | none, none => .ok none
  | none, some (.str s) =>
    match rules.loads s with
    | .ok value => .ok (some value)
    | .error _ => .error .Exception
  | none, some _ => .error .Exception

/-- The check of the disconnect that ends a route. -/
def closed_connection (mapped : Mapped) : Except Raised Unit := do
  let content ← disconnect_response rules mapped
  if mapped.is_error || !content.any (says_ok true) then throw .TransportError

end Listing

end SessionManager
