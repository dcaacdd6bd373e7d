import SessionManager.Masking.Client
import SessionManager.Registry
import Mathlib.Data.List.Sort

/-!
# The router: which session a tool name leads to

The published tools are computed from the records of the registry
(`session_manager/router.rs`): the public tools of active sessions, grouped by name, with one
bucket for each schema.
-/

namespace SessionManager

open Json Effect

def SESSION_ID_ARGUMENT : String := "session_id"

mutual

def canonicalize : Value → Value
  | .object fields => .object (canonicalizeFields fields)
  | .array items => .array (canonicalizeItems items)
  | other => other

def canonicalizeItems : List Value → List Value
  | [] => []
  | item :: rest => canonicalize item :: canonicalizeItems rest

def canonicalizeFields : Fields → Fields
  | [] => []
  | (key, value) :: rest => Json.insert key (canonicalize value) (canonicalizeFields rest)

end

def schema_hash (crates : Crates) (schema : Value) : String :=
  crates.sha256 (canonicalize schema).text

@[ext]
structure ProxySlot where
  kinds : List String
  tool_name : String
  published_name : String
  schema_hash : String
  description : Option String
  input_schema : Value
  session_ids : List String

structure GroupAccumulator where
  description : Option String
  input_schema : Value
  session_ids : List String
  kinds : List String

/-! ## The schema an agent sees -/

/-- The object an optional value is, or an empty one. -/
def object_or_empty (value : Option Value) : Fields := (value.bind Value.as_object).getD []

/-- `Entry::or_insert`. -/
def or_insert (key : String) (value : Value) (fields : Fields) : Fields :=
  if contains_key fields key then fields else Json.insert key value fields

def session_selector (session_ids : List String) : Value :=
  .object
    ([("description", .string
        "Session-manager routing selector; removed before forwarding to the target tool")] ++
      (if session_ids.isEmpty then [] else [("enum", .array (session_ids.map .string))]) ++
      [("type", .string "string")])

/-- The schema's list of required arguments, with the selector among them. -/
def require_selector (fields : Fields) : Fields :=
  let required :=
    match field fields "required" with
    | some (.array items) => items
    | _ => []
  let required :=
    if required.any fun item => item.as_str == some SESSION_ID_ARGUMENT then required
    else required ++ [.string SESSION_ID_ARGUMENT]
  Json.insert "required" (.array required) fields

def input_schema_with_session_selector (schema : Value) (session_ids : List String)
    (required : Bool) : Value :=
  let fields := or_insert "type" (.string "object") (object_or_empty (some schema))
  let properties :=
    Json.insert SESSION_ID_ARGUMENT (session_selector session_ids)
      (object_or_empty (field fields "properties"))
  let fields := Json.insert "properties" (.object properties) fields
  .object (if required then require_selector fields else fields)

/-! ## The view -/

variable (crates : Crates)

abbrev Groups := HashMap String (HashMap String GroupAccumulator)

/-- Note that a session publishes a tool. -/
def add_tool (record : SessionRecord) (groups : Groups) (tool : ToolDescriptor) : Groups :=
  if tool.visibility.is_public then
    let hash := schema_hash crates tool.input_schema
    let group := (groups.get tool.name).getD .empty
    let acc := (group.get hash).getD
      { description := tool.description
        input_schema := tool.input_schema
        session_ids := []
        kinds := [] }
    let acc :=
      { acc with
        session_ids := acc.session_ids ++ [record.session_id]
        kinds := if record.kind ∈ acc.kinds then acc.kinds else acc.kinds ++ [record.kind] }
    groups.insert tool.name (group.insert hash acc)
  else groups

def add_record (groups : Groups) (record : SessionRecord) : Groups :=
  if record.state = .Active then record.tools.foldl (add_tool crates record) groups else groups

def group_tools (snapshot : List SessionRecord) : Groups :=
  snapshot.foldl (add_record crates) .empty

def sorted (texts : List String) : List String := texts.insertionSort (· ≤ ·)

def add_kind (kinds : List String) (kind : String) : List String :=
  if kind ∈ kinds then kinds else kinds ++ [kind]

/-- Hash, description and schema of a slot: those of its only bucket, or a choice between the
buckets. -/
def slot_schema (variants : List (String × GroupAccumulator)) (session_ids : List String) :
    String × Option String × Value :=
  match variants with
  | [(hash, acc)] =>
    let require_session_id : Bool := 1 < session_ids.length
    (hash, acc.description,
      input_schema_with_session_selector acc.input_schema session_ids require_session_id)
  | _ =>
    let one_of := variants.map fun variant =>
      input_schema_with_session_selector variant.2.input_schema (sorted variant.2.session_ids) true
    let input_schema := .object [("oneOf", .array one_of), ("type", .string "object")]
    (schema_hash crates input_schema,
      some ("ClientProxy tool with session-specific schemas; select one of: " ++
        ", ".intercalate session_ids),
      input_schema)

/-- The buckets of a group, sorted by hash. -/
def variants (buckets : HashMap String GroupAccumulator) : List (String × GroupAccumulator) :=
  buckets.to_list.insertionSort fun a b => a.1 ≤ b.1

/-- The sessions of a group, sorted. -/
def session_ids (variants : List (String × GroupAccumulator)) : List String :=
  sorted (variants.flatMap fun variant => variant.2.session_ids)

def slot (tool_name : String) (buckets : HashMap String GroupAccumulator) : ProxySlot :=
  let variants := variants buckets
  let schema := slot_schema crates variants (session_ids variants)
  { kinds := sorted ((variants.flatMap fun variant => variant.2.kinds).foldl add_kind [])
    tool_name
    published_name := tool_name
    schema_hash := schema.1
    description := schema.2.1
    input_schema := schema.2.2
    session_ids := session_ids variants }

/-- The published slots, sorted by name. -/
def build_proxy_view (snapshot : List SessionRecord) : List ProxySlot :=
  ((group_tools crates snapshot).to_list.map fun group => slot crates group.1 group.2).insertionSort
    fun a b => a.published_name ≤ b.published_name

/-- A tool as `tools/list` shows it. -/
structure Tool where
  name : String
  description : String
  input_schema : Fields

def proxy_tool (slot : ProxySlot) : Tool where
  name := slot.published_name
  description := slot.description.getD ("ClientProxy tool from kinds=" ++ ",".intercalate slot.kinds)
  input_schema := object_or_empty (some slot.input_schema)

def proxy_tools (view : List ProxySlot) : List Tool := view.map proxy_tool

/-! ## Resolving a name -/

structure ResolvedCall where
  session_id : String
  tool_name : String

inductive ResolveError
  | NotProxyTool
  | SessionRequired (tool_name : String) (session_ids : List String)
  | SessionToolMismatch (tool_name session_id : String)

def resolve_published (name : String) (view : List ProxySlot)
    (requested_session_id : Option String) : Except ResolveError ResolvedCall :=
  match view.find? fun slot => slot.published_name == name with
  | some slot =>
    match requested_session_id with
    | some session_id =>
      if slot.session_ids.contains session_id then
        .ok { session_id, tool_name := slot.tool_name }
      else .error (.SessionToolMismatch slot.tool_name session_id)
    | none =>
      match slot.session_ids with
      | [session_id] => .ok { session_id, tool_name := slot.tool_name }
      | session_ids => .error (.SessionRequired slot.tool_name session_ids)
  | none => .error .NotProxyTool

/-! ## What a resolved call leads to -/

/-- A record an agent may call a tool of this name on. -/
def SessionRecord.publishes (record : SessionRecord) (name : String) : Prop :=
  ∃ tool ∈ record.tools, tool.publishes name = true

instance (record : SessionRecord) (name : String) : Decidable (record.publishes name) :=
  inferInstanceAs (Decidable (∃ tool ∈ record.tools, _))

/-- An active record of the snapshot publishes the tool. -/
def Published (snapshot : List SessionRecord) (session_id name : String) : Prop :=
  ∃ record ∈ snapshot, record.session_id = session_id ∧ record.state = .Active ∧
    record.publishes name

end SessionManager
