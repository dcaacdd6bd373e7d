import SessionManager.Masking.Legacy

/-!
# What a load accepts

Whatever the file has, a load returns sound events of it, and a load that fails leaves the file
as it was.  Unknown members are refused wherever the decoder looks at them: it does not look
into an unverified scope (`strict_iff`).
-/

namespace SessionManager

open Json Effect

/-! ## Members of a file -/

/-- A member of a structure that is written as an object or as an array. -/
def component (names : List String) (value : Value) (name : String) : Option Value :=
  match value with
  | .object fields => field fields name
  | .array items => field (names.zip items) name
  | _ => none

/-- The value is an object with a member of another name. -/
def HasOther (names : List String) (value : Value) : Prop :=
  ∃ fields, value = .object fields ∧ ∃ key ∈ fields.map Prod.fst, key ∉ names

/-- The events of a file, as they are written. -/
def file_events (file : Value) : List Value :=
  ((component TerminalOutboxSnapshot.names file "events").bind Value.as_array).getD []

def scope_kind (scope : Value) : Option String :=
  (component ["kind"] scope "kind").bind Value.as_str

/-- The members a scope may have, the conversation of a verified one included. -/
def scope_names (scope : Value) : List String :=
  if scope_kind scope = some "verified" then
    ["kind", "instance_id", "cluster_server", "infobase_name", "caller", "chat_id"]
  else ["kind"]

/-- The file has an unknown member at some level. -/
def Unknown (file : Value) : Prop :=
  HasOther TerminalOutboxSnapshot.names file ∨
    ∃ raw ∈ file_events file, HasOther TerminalRequest.names raw ∨
      ∃ scope, component TerminalRequest.names raw "scope" = some scope ∧
        HasOther (scope_names scope) scope

/-- An event has an unverified scope with another member than its kind. -/
def Loose (file : Value) : Prop :=
  ∃ raw ∈ file_events file, ∃ scope, component TerminalRequest.names raw "scope" = some scope ∧
    scope_kind scope = some "unverified" ∧ HasOther ["kind"] scope

/-! ## Scopes -/

section Scopes

variable {fields : Fields} {value : Value} {scope : TerminalScope} {key : String}

theorem members_some {names : List String} {found : Fields}
    (read : members names (.object fields) = some found) :
    found = fields ∧ (fields.map Prod.fst).Nodup ∧ ∀ key ∈ fields.map Prod.fst, key ∈ names := by
  rw [members] at read
  split at read
  · rename_i both
    exact ⟨(Option.some.inj read).symm, both⟩
  · cases read

/-- The forms of a scope that is read. -/
theorem scope_cases (read : TerminalScope.from_value value = some scope) :
    (∃ fields, value = .object fields ∧
      fields.filter (fun entry => entry.1 == "kind") = [("kind", .string "verified")] ∧
      TerminalScope.verified_from_value (.object (fields.filter fun entry => entry.1 != "kind")) =
        some scope) ∨
    (∃ fields, value = .object fields ∧ scope = .Unverified ∧
      fields.filter (fun entry => entry.1 == "kind") = [("kind", .string "unverified")]) ∨
    (∃ items, value = .array (.string "verified" :: items) ∧
      TerminalScope.verified_from_value (.array items) = some scope) ∨
    value = .array [.string "unverified"] ∧ scope = .Unverified := by
  have kind {fields : Fields} {k : String} {v : Value}
      (only : fields.filter (fun entry => entry.1 == "kind") = [(k, v)]) : k = "kind" := by
    have member : (k, v) ∈ fields.filter fun entry => entry.1 == "kind" :=
      only ▸ List.mem_singleton_self _
    exact eq_of_beq (List.mem_filter.mp member).2
  rw [TerminalScope.from_value.eq_def] at read
  split at read
  · split at read
    · rename_i fields _ k only
      rw [kind only] at only
      exact Or.inl ⟨fields, rfl, only, read⟩
    · rename_i fields _ k only
      rw [kind only] at only
      exact Or.inr (Or.inl ⟨fields, rfl, (Option.some.inj read).symm, only⟩)
    · cases read
  · rename_i items
    exact Or.inr (Or.inr (Or.inl ⟨items, rfl, read⟩))
  · exact Or.inr (Or.inr (Or.inr ⟨rfl, (Option.some.inj read).symm⟩))
  · cases read

theorem field_of_filter (only : fields.filter (fun entry => entry.1 == key) = [(key, value)]) :
    field fields key = some value := by
  rw [field, ← List.head?_filter, only]
  rfl

/-- A verified scope that is read has no members but its own. -/
theorem verified_keys (verified : TerminalScope.verified_from_value
      (.object (fields.filter fun entry => entry.1 != "kind")) = some scope)
    (present : key ∈ fields.map Prod.fst) :
    key ∈ ["kind", "instance_id", "cluster_server", "infobase_name", "caller"] := by
  obtain ⟨found, known, -⟩ := Option.bind_eq_some_iff.mp verified
  obtain ⟨rfl, -, known⟩ := members_some known
  by_cases kind : key = "kind"
  · rw [kind]
    exact List.mem_cons_self
  · obtain ⟨entry, member, rfl⟩ := List.mem_map.mp present
    have kept : entry ∈ fields.filter fun entry => entry.1 != "kind" :=
      List.mem_filter.mpr ⟨member, bne_iff_ne.mpr kind⟩
    exact List.mem_cons_of_mem _ (known entry.1 (List.mem_map_of_mem kept))

/-- An unknown member of a scope that is read is one of an unverified scope. -/
theorem unverified_of_other (read : TerminalScope.from_value value = some scope)
    (other : HasOther (scope_names value) value) :
    scope_kind value = some "unverified" ∧ HasOther ["kind"] value := by
  rcases scope_cases read with
    ⟨fields, rfl, only, verified⟩ | ⟨fields, rfl, -, only⟩ | ⟨items, rfl, -⟩ | ⟨rfl, -⟩
  · have kind : scope_kind (.object fields) = some "verified" := by
      rw [scope_kind, component, field_of_filter only]
      rfl
    obtain ⟨_, same, key, present, unknown⟩ := other
    cases same
    rw [scope_names, if_pos kind] at unknown
    exact absurd (List.mem_append_left ["chat_id"] (verified_keys verified present)) unknown
  · have kind : scope_kind (.object fields) = some "unverified" := by
      rw [scope_kind, component, field_of_filter only]
      rfl
    rw [scope_names, kind, if_neg (by decide)] at other
    exact ⟨kind, other⟩
  · obtain ⟨_, same, -⟩ := other
    cases same
  · obtain ⟨_, same, -⟩ := other
    cases same

/-- A verified scope that is read without its conversation has no other unknown member. -/
theorem no_other_of_removed (kind : (field fields "kind").bind Value.as_str = some "verified")
    (read : TerminalScope.from_value (.object (Json.remove fields "chat_id").2) = some scope) :
    ¬ HasOther (scope_names (.object fields)) (.object fields) := by
  have verified : scope_kind (.object fields) = some "verified" := kind
  have kept : field (Json.remove fields "chat_id").2 "kind" = field fields "kind" :=
    field_filter_ne.trans (if_neg (by decide))
  rintro ⟨_, same, key, present, unknown⟩
  cases same
  rw [scope_names, if_pos verified] at unknown
  have others : key ∈ (Json.remove fields "chat_id").2.map Prod.fst := by
    obtain ⟨entry, member, rfl⟩ := List.mem_map.mp present
    refine List.mem_map_of_mem (List.mem_filter.mpr ⟨member, bne_iff_ne.mpr fun conversation => ?_⟩)
    rw [conversation] at unknown
    exact unknown (by decide)
  rcases scope_cases read with
    ⟨_, same, -, read⟩ | ⟨_, same, -, only⟩ | ⟨_, same, -⟩ | ⟨same, -⟩
  · cases same
    exact unknown (List.mem_append_left ["chat_id"] (verified_keys read others))
  · cases same
    rw [← kept, field_of_filter only] at kind
    exact absurd kind (by decide)
  · cases same
  · cases same

/-- A verified scope that is read has no conversation. -/
theorem removed_of_read (kind : (field fields "kind").bind Value.as_str = some "verified")
    (read : TerminalScope.from_value (.object fields) = some scope) :
    (Json.remove fields "chat_id").2 = fields := by
  rcases scope_cases read with
    ⟨_, same, -, read⟩ | ⟨_, same, -, only⟩ | ⟨_, same, -⟩ | ⟨same, -⟩
  · cases same
    refine List.filter_eq_self.mpr fun entry member => bne_iff_ne.mpr fun conversation => ?_
    have known := verified_keys read (List.mem_map_of_mem (f := Prod.fst) member)
    rw [conversation] at known
    exact absurd known (by decide)
  · cases same
    rw [field_of_filter only] at kind
    exact absurd kind (by decide)
  · cases same
  · cases same

end Scopes

/-! ## Events -/

section Events

variable {raw scope : Value} {event : TerminalRequest}

/-- What is read of an event. -/
theorem from_value_iff : TerminalRequest.from_value raw = some event ↔
    ∃ fields, members TerminalRequest.names raw = some fields ∧
      u8_field fields "schema_version" = some event.schema_version ∧
      string_field fields "call_id" = some event.call_id ∧
      string_field fields "correlation_id" = some event.correlation_id ∧
      string_field fields "tool_name" = some event.tool_name ∧
      string_field fields "error_code" = some event.error_code ∧
      ∃ value, field fields "scope" = some value ∧
        TerminalScope.from_value value = some event.scope := by
  constructor
  · intro read
    obtain ⟨fields, known, read⟩ := Option.bind_eq_some_iff.mp read
    obtain ⟨version, first, read⟩ := Option.bind_eq_some_iff.mp read
    obtain ⟨call, second, read⟩ := Option.bind_eq_some_iff.mp read
    obtain ⟨correlation, third, read⟩ := Option.bind_eq_some_iff.mp read
    obtain ⟨tool, fourth, read⟩ := Option.bind_eq_some_iff.mp read
    obtain ⟨code, fifth, read⟩ := Option.bind_eq_some_iff.mp read
    obtain ⟨scope, last, same⟩ := Option.bind_eq_some_iff.mp read
    obtain rfl := Option.some.inj same
    exact ⟨fields, known, first, second, third, fourth, fifth, Option.bind_eq_some_iff.mp last⟩
  · rintro ⟨fields, known, first, second, third, fourth, fifth, value, found, decodes⟩
    rw [TerminalRequest.from_value, known, Option.bind_eq_bind, Option.bind_some, first, second, third,
      fourth, fifth, found]
    simp only [Option.bind_eq_bind, Option.bind_some, decodes]
    rfl

/-- An event that is read has no members but its own, and its scope is read. -/
theorem event_read (read : TerminalRequest.from_value raw = some event) :
    ¬ HasOther TerminalRequest.names raw ∧
      ∃ scope, component TerminalRequest.names raw "scope" = some scope ∧
        TerminalScope.from_value scope = some event.scope := by
  obtain ⟨fields, known, -, -, -, -, -, scope⟩ := from_value_iff.mp read
  cases raw with
  | object members =>
    obtain ⟨rfl, -, known⟩ := members_some known
    refine ⟨?_, scope⟩
    rintro ⟨_, same, key, present, unknown⟩
    cases same
    exact unknown (known key present)
  | array items =>
    rw [members] at known
    split at known
    · cases known
      refine ⟨?_, scope⟩
      rintro ⟨_, same, -⟩
      cases same
    · cases known
  | _ => cases known

/-- An unknown member of an event that a conversion reads is one of an unverified scope. -/
theorem loose_of_converted
    (read : TerminalRequest.from_value (without_chat_id raw) = some event) :
    ¬ HasOther TerminalRequest.names raw ∧
      ∀ scope, component TerminalRequest.names raw "scope" = some scope →
        HasOther (scope_names scope) scope →
          scope_kind scope = some "unverified" ∧ HasOther ["kind"] scope := by
  have here (read : TerminalRequest.from_value raw = some event) :
      ¬ HasOther TerminalRequest.names raw ∧
        ∀ scope, component TerminalRequest.names raw "scope" = some scope →
          HasOther (scope_names scope) scope →
            scope_kind scope = some "unverified" ∧ HasOther ["kind"] scope := by
    obtain ⟨own, inner, found, decodes⟩ := event_read read
    refine ⟨own, fun scope same other => ?_⟩
    rw [Option.some.inj (found.symm.trans same)] at decodes
    exact unverified_of_other decodes other
  rw [without_chat_id.eq_def] at read
  split at read
  · rename_i fields
    split at read
    · rename_i inner found
      split at read
      · rename_i kind
        obtain ⟨own, replaced, found', decodes⟩ := event_read read
        rw [component, field_insert, if_pos rfl] at found'
        obtain rfl := Option.some.inj found'
        refine ⟨?_, fun scope same other => ?_⟩
        · rintro ⟨_, same, key, present, unknown⟩
          cases same
          exact own ⟨_, rfl, key, mem_keys_insert.mpr (Or.inr present), unknown⟩
        · obtain rfl := Option.some.inj (found.symm.trans same)
          exact absurd other (no_other_of_removed kind decodes)
      · exact here read
    · exact here read
  · exact here read

end Events

/-! ## Maps of what is read -/

section Maps

variable {fields : Fields} {value raw : Value} {scope : TerminalScope} {event : TerminalRequest}
  {key name : String}

/-- The last of the members under a key stays. -/
theorem field_collect_last (map : Fields) : field (collectFields fields map) key =
    ((fields.filter fun entry => entry.1 == key).getLast?.map fun entry => entry.2.collect).or
      (field map key) := by
  induction fields generalizing map with
  | nil => rfl
  | cons entry rest ih =>
    obtain ⟨k, v⟩ := entry
    rw [collectFields, ih, field_insert, List.filter_cons]
    by_cases same : k = key
    · subst same
      rw [if_pos rfl, beq_self_eq_true, if_pos rfl, List.getLast?_cons]
      cases (rest.filter fun entry => entry.1 == k).getLast? <;> rfl
    · rw [if_neg same, beq_false_of_ne same, if_neg Bool.false_ne_true]

theorem collected_filter (keep : String → Bool) (fields : Fields) :
    (collected fields).filter (fun entry => keep entry.1) =
      collected (fields.filter fun entry => keep entry.1) := by
  rw [collected, List.filter_map]
  rfl

theorem keys_collected (fields : Fields) : (collected fields).map Prod.fst = fields.map Prod.fst :=
  List.map_map

theorem as_str_collect (value : Value) : value.collect.as_str = value.as_str := by
  cases value <;> simp [Value.collect, Value.as_str]

theorem string_field_collected (fields : Fields) (name : String) :
    string_field (collected fields) name = string_field fields name := by
  rw [string_field, string_field, field_collected, Option.bind_map]
  exact congrArg _ (funext as_str_collect)

theorem u8_field_collected (fields : Fields) (name : String) :
    u8_field (collected fields) name = u8_field fields name := by
  rw [u8_field, uint_field, uint_field, field_collected]
  cases field fields name with
  | none => rfl
  | some value => cases value <;> simp [Value.collect]

theorem optional_field_collected (fields : Fields) (name : String) :
    optional_field (collected fields) name = optional_field fields name := by
  rw [optional_field, optional_field, field_collected]
  cases field fields name with
  | none => rfl
  | some value => cases value <;> simp [Value.collect]

theorem members_collected (names : List String) (fields : Fields) :
    members names (.object (collected fields)) =
      (members names (.object fields)).map collected := by
  rw [members, members, keys_collected]
  split <;> rfl

theorem members_items (names : List String) (items : List Value) :
    members names (.array (items.map Value.collect)) =
      (members names (.array items)).map collected := by
  rw [members, members, List.length_map]
  split
  · rw [List.zip_map_right]
    rfl
  · rfl

theorem verified_collected {value value' : Value}
    (mapped : ∀ names, members names value' = (members names value).map collected) :
    TerminalScope.verified_from_value value' = TerminalScope.verified_from_value value := by
  rw [TerminalScope.verified_from_value, TerminalScope.verified_from_value, mapped]
  cases members _ value with
  | none => rfl
  | some fields =>
    simp only [Option.map_some, Option.bind_eq_bind, Option.bind_some, string_field_collected,
      optional_field_collected]

/-- A verified scope that is read has no member twice. -/
theorem verified_distinct
    (only : fields.filter (fun entry => entry.1 == "kind") = [("kind", value)])
    (verified : TerminalScope.verified_from_value
      (.object (fields.filter fun entry => entry.1 != "kind")) = some scope) :
    (fields.map Prod.fst).Nodup := by
  obtain ⟨_, known, -⟩ := Option.bind_eq_some_iff.mp verified
  obtain ⟨-, distinct, -⟩ := members_some known
  have split := List.filter_append_perm (fun entry : String × Value => entry.1 == "kind") fields
  rw [only] at split
  refine (split.map Prod.fst).nodup_iff.mp (List.nodup_cons.mpr ⟨fun again => ?_, distinct⟩)
  obtain ⟨entry, member, same⟩ := List.mem_map.mp again
  exact bne_iff_ne.mp (List.mem_filter.mp member).2 same

/-- A scope that is read is read from its map too. -/
theorem scope_from_value_collect (read : TerminalScope.from_value value = some scope) :
    TerminalScope.from_value value.collect = some scope := by
  rcases scope_cases read with
    ⟨fields, rfl, only, verified⟩ | ⟨fields, rfl, rfl, only⟩ | ⟨items, rfl, verified⟩ | ⟨rfl, rfl⟩
  · have distinct := verified_distinct only verified
    rw [Value.collect, TerminalScope.from_value_same (same_collect (Same.refl distinct)),
      TerminalScope.from_value, collected_filter (fun key => key == "kind"), only,
      collected_filter (fun key => key != "kind")]
    exact (verified_collected fun names => members_collected names _).trans verified
  · have kind : field (collectFields fields []) "kind" = some (.string "unverified") := by
      rw [field_collect_last, only]
      rfl
    rw [Value.collect, TerminalScope.from_value, filter_key (KeysOrdered.collect_nil fields).nodup, kind]
    rfl
  · rw [Value.collect, collectItems, collectItems_eq]
    exact (verified_collected fun names => members_items names items).trans verified
  · rfl

/-- An event that is read is read from its map too. -/
theorem from_value_collect (read : TerminalRequest.from_value raw = some event) :
    TerminalRequest.from_value raw.collect = some event := by
  have mapped {value : Value}
      (mapped : ∀ names, members names value = (members names raw).map collected) :
      TerminalRequest.from_value value = some event := by
    obtain ⟨fields, known, first, second, third, fourth, fifth, inner, found, decodes⟩ :=
      from_value_iff.mp read
    refine from_value_iff.mpr ⟨collected fields, by rw [mapped, known]; rfl, ?_⟩
    rw [u8_field_collected, string_field_collected, string_field_collected, string_field_collected,
      string_field_collected, field_collected, found]
    exact ⟨first, second, third, fourth, fifth, inner.collect, rfl, scope_from_value_collect decodes⟩
  cases raw with
  | object fields =>
    obtain ⟨found, known, -⟩ := from_value_iff.mp read
    obtain ⟨-, distinct, -⟩ := members_some known
    rw [Value.collect, TerminalRequest.from_value_same (same_collect (Same.refl distinct))]
    exact mapped fun names => members_collected names fields
  | array items =>
    rw [Value.collect, collectItems_eq]
    exact mapped fun names => members_items names items
  | _ =>
    obtain ⟨_, known, -⟩ := from_value_iff.mp read
    cases known

/-- A conversion reads what is read, as there is no conversation to remove. -/
theorem converted_of_read (read : TerminalRequest.from_value raw = some event) :
    TerminalRequest.from_value (without_chat_id raw.collect) = some event := by
  have read := from_value_collect read
  cases raw with
  | object fields =>
    rw [Value.collect] at read ⊢
    rw [without_chat_id]
    split
    · rename_i inner found
      split
      · rename_i kind
        obtain ⟨-, scope, here, decodes⟩ := event_read read
        obtain rfl := Option.some.inj (found.symm.trans here)
        have same : Same (Json.insert "scope" (.object (Json.remove inner "chat_id").2)
            (collectFields fields [])) (collectFields fields []) := by
          refine ⟨(ordered_insert (KeysOrdered.collect_nil fields) _ _).nodup,
            (KeysOrdered.collect_nil fields).nodup, fun key => ?_⟩
          rw [field_insert, removed_of_read kind decodes]
          split
          · rename_i here
            rw [← here, found]
          · rfl
        rw [TerminalRequest.from_value_same same]
        exact read
      · exact read
    · exact read
  | array items =>
    rw [Value.collect] at read ⊢
    exact read
  | _ => exact read

end Maps

/-! ## Files -/

section Files

variable {crates : Crates} {file : Value} {snapshot : TerminalOutboxSnapshot}

/-- What is read of a file of the current format. -/
theorem current_read (read : TerminalOutboxSnapshot.from_value file = some snapshot) :
    ¬ HasOther TerminalOutboxSnapshot.names file.collect ∧
      List.Forall₂ (fun raw event => TerminalRequest.from_value (without_chat_id raw) = some event)
        (file_events file.collect) snapshot.events := by
  obtain ⟨found, known, read⟩ := Option.bind_eq_some_iff.mp read
  obtain ⟨version, -, read⟩ := Option.bind_eq_some_iff.mp read
  obtain ⟨items, listed, read⟩ := Option.bind_eq_some_iff.mp read
  obtain ⟨events, each, same⟩ := Option.bind_eq_some_iff.mp read
  obtain rfl := Option.some.inj same
  have converted : List.Forall₂ (fun raw event =>
      TerminalRequest.from_value (without_chat_id raw) = some event)
      (items.map Value.collect) events := by
    rw [List.forall₂_map_left_iff]
    exact (mapM_eq_some_iff.mp each).imp fun raw event => converted_of_read
  obtain ⟨array, among, listed⟩ := Option.bind_eq_some_iff.mp listed
  obtain rfl : array = .array items := by
    cases array with
    | array items' =>
      cases listed
      rfl
    | _ => cases listed
  have collects : (Value.array items).collect = .array (items.map Value.collect) := by
    rw [Value.collect, collectItems_eq]
  cases file with
  | object fields =>
    obtain ⟨rfl, distinct, known⟩ := members_some known
    rw [Value.collect]
    constructor
    · rintro ⟨_, same, key, present, unknown⟩
      cases same
      exact unknown (known key ((mem_keys_collect.mp present).resolve_right List.not_mem_nil))
    · rw [file_events, component, field_collect_nil distinct, among, Option.map_some, collects]
      exact converted
  | array fields =>
    rw [members] at known
    split at known
    · cases known
      rw [Value.collect, collectItems_eq]
      constructor
      · rintro ⟨_, same, -⟩
        cases same
      · have zipped : TerminalOutboxSnapshot.names.zip (fields.map Value.collect) =
            collected (TerminalOutboxSnapshot.names.zip fields) := List.zip_map_right ..
        rw [file_events, component, zipped, field_collected, among, Option.map_some, collects]
        exact converted
    · cases known
  | _ => cases known

/-- What is converted of a file of the earlier format. -/
theorem legacy_read (converted : convert_legacy_outbox crates file = some snapshot) :
    ¬ HasOther TerminalOutboxSnapshot.names file.collect ∧
      ∃ decoded, List.Forall₂ (fun raw event =>
          TerminalRequest.from_value (without_chat_id raw) = some event)
        (file_events file.collect) decoded ∧ snapshot.events ⊆ decoded := by
  obtain ⟨top, items, decoded, map, two, version, listed, each, -, rfl⟩ :=
    convert_legacy_outbox_iff.mp converted
  rw [map]
  constructor
  · have both : TerminalOutboxSnapshot.names ⊆ top.map Prod.fst := by
      intro name among
      rw [← field_isSome_iff]
      rcases List.mem_cons.mp among with rfl | later
      · obtain ⟨value, found, -⟩ := Option.bind_eq_some_iff.mp version
        exact Option.isSome_iff_exists.mpr ⟨value, found⟩
      · rw [List.mem_singleton.mp later, listed]
        rfl
    have only : (top.map Prod.fst).Perm TerminalOutboxSnapshot.names :=
      ((List.subperm_of_subset (by decide) both).perm_of_length_le
        (by rw [List.length_map, two]; rfl)).symm
    rintro ⟨_, same, key, present, unknown⟩
    cases same
    exact unknown (only.mem_iff.mp present)
  · refine ⟨decoded, ?_, List.filter_subset_self _⟩
    rw [file_events, component, listed]
    exact each

/-- A file of events that are read is loose if it has an unknown member. -/
theorem loose_of_unknown {decoded : List TerminalRequest}
    (top : ¬ HasOther TerminalOutboxSnapshot.names file)
    (read : List.Forall₂ (fun raw event => TerminalRequest.from_value (without_chat_id raw) = some event)
      (file_events file) decoded) (unknown : Unknown file) : Loose file := by
  rcases unknown with other | ⟨raw, member, other⟩
  · exact absurd other top
  · obtain ⟨event, -, converted⟩ := exists_of_forall₂ read member
    obtain ⟨own, inner⟩ := loose_of_converted converted
    obtain ⟨scope, here, other⟩ := other.resolve_left own
    exact ⟨raw, member, scope, here, inner scope here other⟩

theorem unknown_of_loose (loose : Loose file) : Unknown file := by
  obtain ⟨raw, member, scope, here, kind, other⟩ := loose
  refine Or.inr ⟨raw, member, Or.inr ⟨scope, here, ?_⟩⟩
  rw [scope_names, kind, if_neg (by decide)]
  exact other

end Files

/-! ## The promise of a load -/

section Loading

variable {crates : Crates} {from_slice : ByteArray → Option Value} {st : OutboxState}

/-- The event is one of the file, without the conversation of a verified scope. -/
def FromFile (file : Value) (event : TerminalRequest) : Prop :=
  ∃ raw ∈ file_events file, TerminalRequest.from_value (without_chat_id raw) = some event

/-- A load returns sound events of the file or leaves the file as it was, and refuses every file
with an unknown member. -/
def Strict (crates : Crates) (from_slice : ByteArray → Option Value) (st : OutboxState) : Prop :=
  ∃ result st', st.reload crates from_slice = some (result, st') ∧
    (∀ events, result = .ok events → Intact crates events ∧
      ∀ event ∈ events, ∃ bytes file, st.file = .ok bytes ∧ from_slice bytes = some file ∧
        FromFile file.collect event) ∧
    (∀ error, result = .error error → st'.file = st.file) ∧
    ∀ bytes file, st.file = .ok bytes → from_slice bytes = some file → Unknown file.collect →
      ∃ error, result = .error error

/-- The file is one of the current format. -/
def CurrentFormat (crates : Crates) (file : Value) : Prop :=
  ∃ events, TerminalOutboxSnapshot.from_value file = some { schema_version := 1, events } ∧
    Intact crates events

/-- The file is not read as the current format, and is one of the earlier. -/
def EarlierFormat (crates : Crates) (file : Value) : Prop :=
  TerminalOutboxSnapshot.from_value file = none ∧
    ∃ top items decoded, file.collect = .object top ∧ top.length = 2 ∧
      (field top "schema_version").bind Value.as_u64 = some 1 ∧
      field top "events" = some (.array items) ∧
      List.Forall₂ (fun raw event => TerminalRequest.from_value (without_chat_id raw) = some event)
        items decoded ∧
      Intact crates (in_use decoded)

theorem earlier_iff {file : Value} : EarlierFormat crates file ↔
    TerminalOutboxSnapshot.from_value file = none ∧
      ∃ snapshot, convert_legacy_outbox crates file = some snapshot := by
  refine and_congr_right fun _ => ?_
  constructor
  · rintro ⟨top, items, decoded, map, two, version, listed, read, intact⟩
    exact ⟨_, convert_legacy_outbox_iff.mpr
      ⟨top, items, decoded, map, two, version, listed, read, intact, rfl⟩⟩
  · rintro ⟨snapshot, converted⟩
    obtain ⟨top, items, decoded, map, two, version, listed, read, intact, -⟩ :=
      convert_legacy_outbox_iff.mp converted
    exact ⟨top, items, decoded, map, two, version, listed, read, intact⟩

theorem reload_unparsed {bytes : ByteArray} (stored : st.file = .ok bytes)
    (unparsed : from_slice bytes = none) :
    st.reload crates from_slice = some (.error "invalid masking terminal outbox", st) := by
  rw [OutboxState.reload, terminal_outbox.load, Prog.handle_perform, apply_read, Option.bind_some,
    stored]
  simp only [unparsed, Option.bind_none]
  rfl

theorem reload_absent (absent : st.file = .error .NotFound) :
    st.reload crates from_slice = some (.ok [], st) := by
  rw [OutboxState.reload, terminal_outbox.load, Prog.handle_perform, apply_read, Option.bind_some,
    absent]
  rfl

theorem reload_unreadable (unreadable : st.file = .error .other) :
    st.reload crates from_slice = some (.error "cannot read masking terminal outbox", st) := by
  rw [OutboxState.reload, terminal_outbox.load, Prog.handle_perform, apply_read, Option.bind_some,
    unreadable]
  rfl

/-- A file of one of the formats is loaded, unless a conversion cannot be written; any other is
refused. -/
theorem load_outcome (crates : Crates) {bytes : ByteArray} {file : Value} (stored : st.file = .ok bytes)
    (parses : from_slice bytes = some file) :
    (∃ events st', st.reload crates from_slice = some (.ok events, st') ∧ Intact crates events ∧
      (∀ event ∈ events, FromFile file.collect event) ∧
      (Unknown file.collect → Loose file.collect) ∧
      (CurrentFormat crates file ∨ EarlierFormat crates file ∧ st.failing st.writes = false)) ∨
    ∃ error st', st.reload crates from_slice = some (.error error, st') ∧ st'.file = st.file ∧
      ¬ CurrentFormat crates file ∧ (EarlierFormat crates file → st.failing st.writes = true) := by
  cases read : TerminalOutboxSnapshot.from_value file with
  | some snapshot =>
    have loaded := reload_current crates stored parses read
    have not_earlier : ¬ EarlierFormat crates file := fun earlier => by
      cases read.symm.trans earlier.1
    obtain ⟨top, each⟩ := current_read read
    cases checked : terminal_outbox.check crates snapshot with
    | ok events =>
      rw [checked] at loaded
      obtain ⟨rfl, intact⟩ := check_ok_iff.mp checked
      refine Or.inl ⟨events, st, loaded, intact, fun event member => ?_, loose_of_unknown top each,
        Or.inl ⟨events, read, intact⟩⟩
      exact exists_of_forall₂ each.flip member
    | error error =>
      rw [checked] at loaded
      refine Or.inr ⟨error, st, loaded, rfl, ?_, fun earlier => absurd earlier not_earlier⟩
      rintro ⟨events, same, intact⟩
      rw [Option.some.inj (read.symm.trans same), check_ok_iff.mpr ⟨rfl, intact⟩] at checked
      cases checked
  | none =>
    have not_current : ¬ CurrentFormat crates file := by
      rintro ⟨events, same, -⟩
      cases read.symm.trans same
    cases converted : convert_legacy_outbox crates file with
    | none =>
      refine Or.inr ⟨_, st, reload_refused stored parses read converted, rfl, not_current,
        fun earlier => ?_⟩
      obtain ⟨-, snapshot, accepted⟩ := earlier_iff.mp earlier
      cases converted.symm.trans accepted
    | some snapshot =>
      have loaded := reload_converted stored parses read converted
      cases failing : st.failing st.writes with
      | true =>
        rw [failing, if_pos rfl] at loaded
        exact Or.inr ⟨_, _, loaded, rfl, not_current, fun _ => rfl⟩
      | false =>
        obtain ⟨top, decoded, each, kept⟩ := legacy_read converted
        obtain ⟨_, _, _, -, -, -, -, -, intact, rfl⟩ := convert_legacy_outbox_iff.mp converted
        rw [failing, if_neg Bool.false_ne_true, check_ok_iff.mpr ⟨rfl, intact⟩] at loaded
        refine Or.inl ⟨_, _, loaded, intact, fun event member => ?_, loose_of_unknown top each,
          Or.inr ⟨earlier_iff.mpr ⟨read, _, converted⟩, rfl⟩⟩
        exact exists_of_forall₂ each.flip (kept member)

/-- **A load is strict except for files of either format that are loose.** -/
theorem strict_iff : Strict crates from_slice st ↔
    ∀ bytes file, st.file = .ok bytes → from_slice bytes = some file → Loose file.collect →
      ¬ CurrentFormat crates file ∧ (EarlierFormat crates file → st.failing st.writes = true) := by
  constructor
  · rintro ⟨result, st', returned, -, -, refuses⟩ bytes file stored parses loose
    obtain ⟨error, rfl⟩ := refuses bytes file stored parses (unknown_of_loose loose)
    rcases load_outcome crates stored parses with
      ⟨events, _, loaded, -⟩ | ⟨_, _, -, -, not_current, not_earlier⟩
    · cases returned.symm.trans loaded
    · exact ⟨not_current, not_earlier⟩
  · intro apart
    cases stored : st.file with
    | error error =>
      have other (bytes : ByteArray) : st.file ≠ .ok bytes := fun same => by
        cases stored.symm.trans same
      cases error with
      | NotFound =>
        refine ⟨_, st, reload_absent stored, fun events loaded => ?_, nofun, fun bytes file same => ?_⟩
        · cases loaded
          exact ⟨intact_nil, nofun⟩
        · exact absurd same (other bytes)
      | other =>
        exact ⟨_, st, reload_unreadable stored, nofun, fun _ _ => rfl,
          fun bytes file same => absurd same (other bytes)⟩
    | ok bytes =>
      cases parses : from_slice bytes with
      | none =>
        refine ⟨_, st, reload_unparsed stored parses, nofun, fun error _ => rfl,
          fun bytes' file here same => ?_⟩
        cases stored.symm.trans here
        cases parses.symm.trans same
      | some file =>
        rcases load_outcome crates stored parses with
          ⟨events, st', loaded, intact, own, loose, format⟩ | ⟨error, st', loaded, same, -⟩
        · refine ⟨_, st', loaded, fun _ same => ?_, nofun, fun bytes' file' here same unknown => ?_⟩
          · cases same
            exact ⟨intact, fun event member => ⟨bytes, file, stored, parses, own event member⟩⟩
          · cases stored.symm.trans here
            cases parses.symm.trans same
            obtain ⟨not_current, not_earlier⟩ := apart bytes file stored parses (loose unknown)
            rcases format with current | ⟨earlier, works⟩
            · exact absurd current not_current
            · cases works.symm.trans (not_earlier earlier)
        · exact ⟨_, st', loaded, nofun, fun _ _ => same, fun _ _ _ _ _ => ⟨error, rfl⟩⟩

end Loading

/-! ## A scope with another member -/

def loose_scope : Value := .object [("kind", .string "unverified"), ("extra", .bool true)]

def loose_event : Value :=
  .object [
    ("call_id", .string refused_call.call_id),
    ("correlation_id", .string refused_call.correlation_id),
    ("error_code", .string refused_call.error_code),
    ("schema_version", .number (.int 1)),
    ("scope", loose_scope),
    ("tool_name", .string refused_call.tool_name)]

def loose_file : Value :=
  .object [("events", .array [loose_event]), ("schema_version", .number (.int 1))]

def read_loose (bytes : ByteArray) : Option Value :=
  if bytes = loose_file.text.toByteArray then some loose_file else none

def loose_start : OutboxState := ⟨[], .ok loose_file.text.toByteArray, fun _ => false, 0⟩

theorem loose_file_unknown : Unknown loose_file.collect := by
  refine unknown_of_loose ⟨loose_event.collect, ?_, loose_scope.collect, ?_, ?_, _, rfl, "extra", ?_, ?_⟩
  all_goals decide +kernel

/-- The file is accepted with the member that its unverified scope should not have. -/
theorem loose_scope_is_accepted :
    loose_start.reload permissive_crates read_loose = some (.ok [refused_call], loose_start) ∧
      Unknown loose_file.collect ∧ ¬ Strict permissive_crates read_loose loose_start := by
  have parses : read_loose loose_file.text.toByteArray = some loose_file := if_pos rfl
  have read : TerminalOutboxSnapshot.from_value loose_file =
      some { schema_version := 1, events := [refused_call] } := by rfl
  have intact : Intact permissive_crates [refused_call] :=
    ⟨List.forall_mem_singleton.mpr (by decide), List.nodup_singleton _, by decide⟩
  have loaded := reload_current permissive_crates (show loose_start.file = .ok _ from rfl) parses read
  rw [check_ok_iff.mpr ⟨rfl, intact⟩] at loaded
  refine ⟨loaded, loose_file_unknown, ?_⟩
  rintro ⟨result, st, returned, -, -, refuses⟩
  obtain ⟨error, rfl⟩ := refuses _ loose_file rfl parses loose_file_unknown
  cases loaded.symm.trans returned

end SessionManager
