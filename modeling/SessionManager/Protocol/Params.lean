import SessionManager.Json.Decode
import SessionManager.Json.Texts
import SessionManager.Protocol

/-!
# What a client sends of itself and of its tools

The parameters of `session.register` and of `session.tools_changed` as `serde` reads them
(`session_manager/protocol.rs`).  A field without a default has to be there, a field that the
structure does not have is passed over, and the fields may stand in an array in their order.  What
a client writes of them is read as it was.
-/

namespace SessionManager

open Json

/-! ## Tools -/

/-- The attributes of `serde`: an absent description and the default visibility are skipped. -/
def ToolDescriptor.to_value (tool : ToolDescriptor) : Value :=
  .object
    ([("name", .string tool.name)] ++
      (match tool.description with
        | some description => [("description", .string description)]
        | none => []) ++
      [("input_schema", tool.input_schema)] ++
      (match tool.visibility with
        | .Public => []
        | .Internal => [("visibility", .string "internal")]))

/-- The `Deserialize` of a unit variant: its name, or an object of its name and `null`. -/
def ToolVisibility.from_value : Value → Option ToolVisibility
  | .string name | .object [(name, .null)] =>
    if name = "public" then some .Public else if name = "internal" then some .Internal else none
  | _ => none

def ToolDescriptor.from_value (value : Value) : Option ToolDescriptor := do
  let fields ← known_members ["name", "description", "input_schema", "visibility"] value
  let name ← string_field fields "name"
  let description ← optional_field fields "description"
  let input_schema ← field fields "input_schema"
  let visibility ← match field fields "visibility" with
    | none => some .Public
    | some value => ToolVisibility.from_value value
  return { name, description, input_schema := input_schema.collect, visibility }

/-- The schema is one that a `Value` may hold. -/
def ToolDescriptor.Held (tool : ToolDescriptor) : Prop := tool.input_schema.Held

theorem ToolDescriptor.from_value_to_value {tool : ToolDescriptor} (held : tool.Held) :
    ToolDescriptor.from_value tool.to_value = some tool := by
  obtain ⟨name, description, input_schema, visibility⟩ := tool
  have own : input_schema.collect = input_schema := Value.Held.collect held
  rw [from_value, to_value, known_members_object]
  · cases description with
    | none =>
      cases visibility with
      | Public => simp [string_field, optional_field, field, Value.as_str, own]
      | Internal => simp [string_field, optional_field, field, Value.as_str, own,
          ToolVisibility.from_value]
    | some description =>
      cases visibility with
      | Public => simp [string_field, optional_field, field, Value.as_str, own]
      | Internal => simp [string_field, optional_field, field, Value.as_str, own,
          ToolVisibility.from_value]
  · cases description <;> cases visibility <;> simp

def tools_field (fields : Fields) : Option (List ToolDescriptor) :=
  ((field fields "tools").bind Value.as_array).bind fun items => items.mapM ToolDescriptor.from_value

theorem tools_field_of_written {fields : Fields} {tools : List ToolDescriptor}
    (held : ∀ tool ∈ tools, tool.Held)
    (found : field fields "tools" = some (.array (tools.map ToolDescriptor.to_value))) :
    tools_field fields = some tools := by
  rw [tools_field, found]
  exact mapM_map_eq fun tool member => ToolDescriptor.from_value_to_value (held tool member)

/-! ## A registration -/

def deserialize_non_empty_string (value : Value) : Option String :=
  value.as_str.bind fun s => if s.isEmpty then none else some s

theorem ne_of_deserialize_non_empty_string {value : Value} {s : String}
    (read : deserialize_non_empty_string value = some s) : s ≠ "" := by
  obtain ⟨s', -, given⟩ := Option.bind_eq_some_iff.mp read
  by_cases empty : s'.isEmpty
  · rw [if_pos empty] at given
    cases given
  · rw [if_neg empty] at given
    cases given
    exact fun none => empty (by rw [none]; rfl)

theorem deserialize_non_empty_string_of_ne {s : String} (filled : s ≠ "") :
    deserialize_non_empty_string (.string s) = some s :=
  if_neg fun empty => filled (String.isEmpty_iff.mp empty)

namespace SessionRegisterParams

/-- The fields that are read; `database_key` is none of them. -/
def names : List String :=
  ["client_uid", "kind", "version", "infobase_name", "ib_session_number", "tools", "config_id",
    "host_id", "pid", "resources", "prompts", "extras", "cluster_server"]

def from_value (value : Value) : Option SessionRegisterParams := do
  let fields ← known_members names value
  let client_uid ← string_field fields "client_uid"
  let kind ← string_field fields "kind"
  let version ← string_field fields "version"
  let infobase_name ← (field fields "infobase_name").bind deserialize_non_empty_string
  let ib_session_number ← u32_field fields "ib_session_number"
  let tools ← tools_field fields
  let config_id ← optional_field fields "config_id"
  let host_id ← optional_field fields "host_id"
  let pid ← optional_u32_field fields "pid"
  -- nothing looks at resources, prompts and extras again; the last may be any value
  let _ ← optional_items_field fields "resources"
  let _ ← optional_items_field fields "prompts"
  let cluster_server ← optional_field fields "cluster_server"
  return {
    client_uid, kind, version, infobase_name, ib_session_number, tools, config_id, host_id, pid
    cluster_server, database_key := none }

/-- A registration that is read names its infobase. -/
theorem from_value_named {value : Value} {params : SessionRegisterParams}
    (parsed : from_value value = some params) : params.infobase_name ≠ "" := by
  simp only [from_value, Option.bind_eq_bind, Option.bind_eq_some_iff, Option.pure_def,
    Option.some.injEq] at parsed
  obtain ⟨fields, -, _, -, _, -, _, -, infobase_name, ⟨member, -, named⟩, rest⟩ := parsed
  obtain ⟨_, -, _, -, _, -, _, -, _, -, _, -, _, -, _, -, rfl⟩ := rest
  exact ne_of_deserialize_non_empty_string named

/-- The members that a client writes. -/
def written (params : SessionRegisterParams) : Fields :=
  [("client_uid", .string params.client_uid), ("kind", .string params.kind),
    ("version", .string params.version), ("infobase_name", .string params.infobase_name),
    ("ib_session_number", .number (.int params.ib_session_number)),
    ("tools", .array (params.tools.map ToolDescriptor.to_value))] ++
  skip_none "config_id" (params.config_id.map .string) ++
  skip_none "host_id" (params.host_id.map .string) ++
  skip_none "pid" (params.pid.map fun pid : Nat => .number (.int pid)) ++
  skip_none "cluster_server" (params.cluster_server.map .string)

def to_value (params : SessionRegisterParams) : Value := .object params.written

theorem distinct_written (params : SessionRegisterParams) :
    (params.written.map Prod.fst).Nodup := by
  have all : ["client_uid", "kind", "version", "infobase_name", "ib_session_number", "tools",
      "config_id", "host_id", "pid", "cluster_server"].Nodup := by decide
  refine all.sublist ?_
  simp only [written, List.map_append]
  exact (((List.Sublist.refl _).append (keys_skip_none_sublist ..)).append
    (keys_skip_none_sublist ..)).append (keys_skip_none_sublist ..) |>.append
      (keys_skip_none_sublist ..)

/-- **What a client writes is read**, except that it has no key of its database yet. -/
theorem from_value_to_value {params : SessionRegisterParams}
    (held : ∀ tool ∈ params.tools, tool.Held) (named : params.infobase_name ≠ "")
    (number : params.ib_session_number ≤ 4294967295)
    (process : ∀ pid ∈ params.pid, pid ≤ 4294967295) :
    from_value params.to_value = some { params with database_key := none } := by
  have client_uid : string_field params.written "client_uid" = some params.client_uid := rfl
  have kind : string_field params.written "kind" = some params.kind := rfl
  have version : string_field params.written "version" = some params.version := rfl
  have infobase_name : (field params.written "infobase_name").bind deserialize_non_empty_string =
      some params.infobase_name := deserialize_non_empty_string_of_ne named
  have number : u32_field params.written "ib_session_number" = some params.ib_session_number :=
    u32_field_of_le _ number rfl
  have tools : tools_field params.written = some params.tools := tools_field_of_written held rfl
  have config_id : optional_field params.written "config_id" = some params.config_id :=
    optional_field_of_map (by simp [written, field_append, field_cons, field_skip_none])
  have host_id : optional_field params.written "host_id" = some params.host_id :=
    optional_field_of_map (by simp [written, field_append, field_cons, field_skip_none])
  have pid : optional_u32_field params.written "pid" = some params.pid :=
    optional_u32_field_of_map process (by simp [written, field_append, field_cons, field_skip_none])
  have resources : optional_items_field params.written "resources" = some none := by
    simp [optional_items_field, written, field_append, field_cons, field_skip_none]
  have prompts : optional_items_field params.written "prompts" = some none := by
    simp [optional_items_field, written, field_append, field_cons, field_skip_none]
  have cluster_server : optional_field params.written "cluster_server" = some params.cluster_server :=
    optional_field_of_map (by simp [written, field_append, field_cons, field_skip_none])
  rw [from_value, to_value, known_members_object (distinct_written params)]
  simp only [Option.bind_eq_bind, Option.bind_some, client_uid, kind, version, infobase_name, number,
    tools, config_id, host_id, pid, resources, prompts, cluster_server]
  rfl

end SessionRegisterParams

/-! ## Changed tools -/

/-- `SessionToolsChangedParams`, of which only the tools are looked at. -/
def SessionToolsChangedParams.from_value (value : Value) : Option (List ToolDescriptor) := do
  let fields ← known_members ["tools", "resources", "prompts"] value
  let tools ← tools_field fields
  let _ ← optional_items_field fields "resources"
  let _ ← optional_items_field fields "prompts"
  return tools

def SessionToolsChangedParams.to_value (tools : List ToolDescriptor) : Value :=
  .object [("tools", .array (tools.map ToolDescriptor.to_value))]

theorem SessionToolsChangedParams.from_value_to_value {tools : List ToolDescriptor}
    (held : ∀ tool ∈ tools, tool.Held) :
    SessionToolsChangedParams.from_value (to_value tools) = some tools := by
  have back : tools_field [("tools", .array (tools.map ToolDescriptor.to_value))] = some tools :=
    tools_field_of_written held rfl
  rw [from_value, to_value, known_members_object]
  · simp only [Option.bind_eq_bind, Option.bind_some, back]
    rfl
  · exact List.nodup_singleton "tools"

end SessionManager
