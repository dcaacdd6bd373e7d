import SessionManager.Json.Objects
import SessionManager.Masking.Integrity
import SessionManager.Router.Canonical

/-!
# Files of the earlier format

An outbox of the earlier format has a conversation in its verified scopes, and may have events
of a code that is no longer in use.  `TerminalOutbox::load` converts it only when it does not
parse as the current format.  So a file that has no verified scope is taken for a current one,
and refused for the code that a conversion would have dropped (`migrated_iff`).
-/

namespace SessionManager

open Json Effect

open Prog (perform)

/-! ## The map of an object -/

/-- The members of an object with the maps of their values. -/
def collected (fields : Fields) : Fields := fields.map fun entry => (entry.1, entry.2.collect)

theorem field_collected (fields : Fields) (key : String) :
    field (collected fields) key = (field fields key).map Value.collect := by
  induction fields with
  | nil => rfl
  | cons entry rest ih =>
    obtain ⟨k, v⟩ := entry
    have cons : collected ((k, v) :: rest) = (k, v.collect) :: collected rest := rfl
    rw [cons, field_cons, field_cons, ih]
    split <;> rfl

theorem ordered_collect {fields map : Fields} (ordered : KeysOrdered map) :
    KeysOrdered (collectFields fields map) := by
  induction fields generalizing map with
  | nil => exact ordered
  | cons entry rest ih => exact ih (ordered_insert ordered _ _)

theorem KeysOrdered.nodup {fields : Fields} (ordered : KeysOrdered fields) :
    (fields.map Prod.fst).Nodup :=
  List.pairwise_map.mpr (ordered.imp ne_of_lt)

theorem KeysOrdered.collect_nil (fields : Fields) : KeysOrdered (collectFields fields []) :=
  ordered_collect List.Pairwise.nil

/-- The maps of the same objects are the same. -/
theorem same_collect {fields fields' : Fields} (same : Same fields fields') :
    Same (collectFields fields []) (collected fields') := by
  refine ⟨(KeysOrdered.collect_nil fields).nodup, ?_, fun key => ?_⟩
  · rw [collected, List.map_map]
    exact same.distinct'
  · rw [field_collect_nil same.distinct, same.alike, field_collected]

/-! ## Reading the same objects -/

theorem TerminalScope.from_value_same {fields fields' : Fields} (same : Same fields fields') :
    TerminalScope.from_value (.object fields) = TerminalScope.from_value (.object fields') := by
  have rest : verified_from_value (.object (fields.filter fun entry => entry.1 != "kind")) =
      verified_from_value (.object (fields'.filter fun entry => entry.1 != "kind")) := by
    have apart := same.filter_ne "kind"
    have own := Same.refl apart.distinct'
    rw [verified_from_value, verified_from_value]
    by_cases known : ∀ key ∈ (fields'.filter fun entry => entry.1 != "kind").map Prod.fst,
        key ∈ ["instance_id", "cluster_server", "infobase_name", "caller"]
    · rw [apart.members_eq known, own.members_eq known]
      simp only [Option.bind_eq_bind, Option.bind_some, string_field, optional_field, apart.alike]
    · rw [apart.members_eq_none known, own.members_eq_none known]
  rw [from_value, from_value, same.filter_eq, rest]

theorem TerminalRequest.from_value_same {fields fields' : Fields} (same : Same fields fields') :
    TerminalRequest.from_value (.object fields) = TerminalRequest.from_value (.object fields') := by
  have own := Same.refl same.distinct'
  rw [from_value, from_value]
  by_cases known : ∀ key ∈ fields'.map Prod.fst, key ∈ names
  · rw [same.members_eq known, own.members_eq known]
    simp only [Option.bind_eq_bind, Option.bind_some, string_field, u8_field, uint_field, same.alike]
  · rw [same.members_eq_none known, own.members_eq_none known]

/-! ## The earlier format -/

inductive LegacyScope
  | Verified (instance_id cluster_server infobase_name chat_id : String) (caller : Option String)
  | Unverified

namespace LegacyScope

/-- The scope without the conversation. -/
def current : LegacyScope → TerminalScope
  | .Verified instance_id cluster_server infobase_name _ caller =>
    .Verified instance_id cluster_server infobase_name caller
  | .Unverified => .Unverified

def fields : LegacyScope → Fields
  | .Verified instance_id cluster_server infobase_name chat_id caller =>
    [("kind", .string "verified"),
      ("instance_id", .string instance_id),
      ("cluster_server", .string cluster_server),
      ("infobase_name", .string infobase_name),
      ("chat_id", .string chat_id)] ++
        (match caller with
          | some label => [("caller", .string label)]
          | none => [])
  | .Unverified => [("kind", .string "unverified")]

end LegacyScope

structure LegacyRequest where
  schema_version : Nat
  call_id : String
  correlation_id : String
  tool_name : String
  error_code : String
  scope : LegacyScope

namespace LegacyRequest

def with_scope (event : LegacyRequest) (scope : TerminalScope) : TerminalRequest where
  schema_version := event.schema_version
  call_id := event.call_id
  correlation_id := event.correlation_id
  tool_name := event.tool_name
  error_code := event.error_code
  scope := scope

/-- The event without the conversation of its scope. -/
def current (event : LegacyRequest) : TerminalRequest := event.with_scope event.scope.current

def verified (event : LegacyRequest) : Prop := event.scope ≠ .Unverified

/-- The event has the code that is no longer in use. -/
def abolished (event : LegacyRequest) : Prop := event.error_code = "CHAT_IDENTITY_REQUIRED"

instance : DecidablePred abolished := fun event => inferInstanceAs (Decidable (event.error_code = _))

def fields (event : LegacyRequest) (scope : Value) : Fields :=
  [("schema_version", .number (.int event.schema_version)),
    ("call_id", .string event.call_id),
    ("correlation_id", .string event.correlation_id),
    ("tool_name", .string event.tool_name),
    ("error_code", .string event.error_code),
    ("scope", scope)]

/-- A value is the event, with its members in some order. -/
def Written (raw : Value) (event : LegacyRequest) : Prop :=
  ∃ fields scope, raw = .object fields ∧ fields.Perm (event.fields (.object scope)) ∧
    scope.Perm event.scope.fields

/-- An event as the earlier version queued it: valid but for its conversation, or of the code
that is no longer in use and otherwise valid. -/
inductive WellFormed (crates : Crates) (event : LegacyRequest) : Prop
  | current : valid_terminal crates event.current = true → WellFormed crates event
  | abolished : event.scope = .Unverified → event.abolished →
    event.schema_version = 1 → crates.is_uuid event.call_id = true →
    crates.is_uuid event.correlation_id = true → event.tool_name ≠ "" →
    event.tool_name.utf8ByteSize ≤ 128 → WellFormed crates event

end LegacyRequest

/-- A file of the earlier format with these events, in the order of the list. -/
structure LegacyFile (crates : Crates) (value : Value) (events : List LegacyRequest) : Prop where
  written : ∃ fields items, value = .object fields ∧
    fields.Perm [("schema_version", .number (.int 1)), ("events", .array items)] ∧
    List.Forall₂ LegacyRequest.Written items events
  well_formed : ∀ event ∈ events, event.WellFormed crates
  distinct : (events.map LegacyRequest.call_id).Nodup
  bounded : events.length ≤ MAX_TERMINAL_OUTBOX_EVENTS

/-! ## Reading its events -/

section Scopes

variable {scope : LegacyScope} {fields : Fields}

theorem LegacyScope.nodup_fields (scope : LegacyScope) : (scope.fields.map Prod.fst).Nodup := by
  cases scope with
  | Verified instance_id cluster_server infobase_name chat_id caller =>
    cases caller <;> simp [LegacyScope.fields]
  | Unverified => exact List.nodup_singleton _

theorem LegacyScope.collected_fields (scope : LegacyScope) : collected scope.fields = scope.fields := by
  cases scope with
  | Verified instance_id cluster_server infobase_name chat_id caller =>
    cases caller <;> simp [LegacyScope.fields, collected, Value.collect]
  | Unverified => simp [LegacyScope.fields, collected, Value.collect]

/-- A scope with a conversation is not one of the current format. -/
theorem scope_from_value_verified (written : fields.Perm scope.fields) (verified : scope ≠ .Unverified) :
    TerminalScope.from_value (.object fields) = none := by
  rw [TerminalScope.from_value_same (Same.of_perm written scope.nodup_fields)]
  cases scope with
  | Verified instance_id cluster_server infobase_name chat_id caller => cases caller <;> rfl
  | Unverified => exact absurd rfl verified

theorem scope_from_value_unverified (written : fields.Perm LegacyScope.Unverified.fields) :
    TerminalScope.from_value (.object fields) = some .Unverified :=
  TerminalScope.from_value_same (Same.of_perm written (List.nodup_singleton _))

/-- Without the conversation the scope is one of the current format. -/
theorem scope_from_value_removed (written : Same fields scope.fields) :
    TerminalScope.from_value (.object (Json.remove fields "chat_id").2) = some scope.current := by
  have removed : Same (Json.remove fields "chat_id").2 (Json.remove scope.fields "chat_id").2 :=
    written.filter_ne _
  rw [TerminalScope.from_value_same removed]
  cases scope with
  | Verified instance_id cluster_server infobase_name chat_id caller => cases caller <;> rfl
  | Unverified => rfl

end Scopes

section Events

variable {event : LegacyRequest} {raw : Value}

theorem LegacyRequest.nodup_fields (event : LegacyRequest) (scope : Value) :
    ((event.fields scope).map Prod.fst).Nodup := by
  have names : (event.fields scope).map Prod.fst = TerminalRequest.names := rfl
  rw [names]
  decide

theorem LegacyRequest.collected_fields (event : LegacyRequest) (scope : Value) :
    collected (event.fields scope) = event.fields scope.collect := by
  simp [LegacyRequest.fields, collected, Value.collect]

/-- An event is read if its scope is. -/
theorem from_value_written {fields : Fields} {scope : Value} (small : event.schema_version ≤ 255)
    (written : Same fields (event.fields scope)) :
    TerminalRequest.from_value (.object fields) =
      (TerminalScope.from_value scope).map event.with_scope := by
  rw [TerminalRequest.from_value_same written, TerminalRequest.from_value,
    members_object TerminalRequest.names rfl (by decide) (fun _ => id), Option.bind_eq_bind,
    Option.bind_some, u8_field_of_le "schema_version" small rfl]
  calc
    _ = (TerminalScope.from_value scope).bind fun scope => some (event.with_scope scope) := rfl
    _ = (TerminalScope.from_value scope).map event.with_scope := Option.map_eq_bind.symm

theorem from_value_verified (small : event.schema_version ≤ 255) (written : event.Written raw)
    (verified : event.verified) : TerminalRequest.from_value raw = none := by
  obtain ⟨fields, scope, rfl, written, own⟩ := written
  rw [from_value_written small (Same.of_perm written (event.nodup_fields _)),
    scope_from_value_verified own verified]
  rfl

theorem from_value_unverified (small : event.schema_version ≤ 255) (written : event.Written raw)
    (unverified : event.scope = .Unverified) : TerminalRequest.from_value raw = some event.current := by
  obtain ⟨fields, scope, rfl, written, own⟩ := written
  rw [unverified] at own
  rw [from_value_written small (Same.of_perm written (event.nodup_fields _)),
    scope_from_value_unverified own, LegacyRequest.current, unverified]
  rfl

/-- A conversion reads every event. -/
theorem from_value_without_chat_id (small : event.schema_version ≤ 255)
    (written : event.Written raw) :
    TerminalRequest.from_value (without_chat_id raw.collect) = some event.current := by
  obtain ⟨fields, scope, rfl, written, own⟩ := written
  have own := same_collect (Same.of_perm own event.scope.nodup_fields)
  rw [event.scope.collected_fields] at own
  have map := same_collect (Same.of_perm written (event.nodup_fields _))
  rw [event.collected_fields, Value.collect] at map
  have inner : field (collectFields fields []) "scope" = some (.object (collectFields scope [])) :=
    map.alike "scope"
  rw [Value.collect, without_chat_id]
  simp only [inner, own.alike "kind"]
  cases form : event.scope with
  | Unverified =>
    rw [form] at own
    have kept : ¬ (field LegacyScope.Unverified.fields "kind").bind Value.as_str = some "verified" := by
      decide
    rw [if_neg kept, from_value_written small map, TerminalScope.from_value_same own,
      LegacyRequest.current, form]
    rfl
  | Verified instance_id cluster_server infobase_name chat_id caller =>
    have marked : (field (LegacyScope.Verified instance_id cluster_server infobase_name chat_id
        caller).fields "kind").bind Value.as_str = some "verified" := rfl
    have replaced : Same
        (Json.insert "scope" (.object (Json.remove (collectFields scope []) "chat_id").2)
          (collectFields fields []))
        (event.fields (.object (Json.remove (collectFields scope []) "chat_id").2)) := by
      refine ⟨(ordered_insert (KeysOrdered.collect_nil fields) _ _).nodup, event.nodup_fields _,
        fun key => ?_⟩
      rw [field_insert, map.alike]
      by_cases here : "scope" = key
      · subst here
        rfl
      · rw [if_neg here]
        simp [LegacyRequest.fields, field_cons, here]
    rw [if_pos marked, from_value_written small replaced, scope_from_value_removed own]
    rfl

end Events

/-! ## Converting events -/

section Conversion

variable {crates : Crates} {events decoded kept : List TerminalRequest} {items : List Value}

/-- The events of codes that are in use. -/
def in_use (decoded : List TerminalRequest) : List TerminalRequest :=
  decoded.filter fun event => event.error_code ≠ "CHAT_IDENTITY_REQUIRED"

theorem Intact.append_left (intact : Intact crates (events ++ kept)) : Intact crates events where
  valid event member := intact.valid event (List.mem_append_left kept member)
  unique := by
    have unique := intact.unique
    rw [List.map_append] at unique
    exact unique.of_append_left
  bounded := by
    have bounded := intact.bounded
    rw [List.length_append] at bounded
    omega

/-- The checks of one event. -/
theorem refused_iff (intact : Intact crates events) (event : TerminalRequest) :
    (!valid_terminal crates event || MAX_TERMINAL_OUTBOX_EVENTS ≤ events.length ||
        events.any fun seen => seen.call_id == event.call_id) = true ↔
      ¬ Intact crates (events ++ [event]) := by
  have seen_iff : (events.any fun seen => seen.call_id == event.call_id) = true ↔
      event.call_id ∈ events.map TerminalRequest.call_id := by
    rw [List.any_eq_true, List.mem_map]
    exact exists_congr fun seen => and_congr_right fun _ => beq_iff_eq
  rw [Bool.or_eq_true, Bool.or_eq_true, seen_iff, Bool.not_eq_true', decide_eq_true_eq]
  constructor
  · rintro ((invalid | full) | seen) snoc
    · rw [snoc.valid event (List.mem_append_right _ (List.mem_singleton_self _))] at invalid
      cases invalid
    · have bounded := snoc.bounded
      rw [List.length_append, List.length_singleton] at bounded
      omega
    · have unique := snoc.unique
      rw [List.map_append, List.map_singleton, List.nodup_append] at unique
      exact unique.2.2 _ seen _ (List.mem_singleton_self _) rfl
  · intro refused
    by_contra passed
    rw [not_or, not_or, Bool.not_eq_false] at passed
    exact refused (intact.snoc passed.1.1 passed.2 (Nat.not_le.mp passed.1.2))

/-- Events are converted exactly if every one is read and those in use are sound. -/
theorem convert_events_iff (intact : Intact crates events) :
    convert_events crates events items = some kept ↔
      ∃ decoded, List.Forall₂ (fun raw event =>
          TerminalRequest.from_value (without_chat_id raw) = some event) items decoded ∧
        kept = events ++ in_use decoded ∧ Intact crates kept := by
  induction items generalizing events with
  | nil =>
    rw [convert_events]
    constructor
    · rintro ⟨⟩
      exact ⟨[], List.Forall₂.nil, (List.append_nil _).symm, intact⟩
    · rintro ⟨decoded, read, rfl, -⟩
      cases read
      rw [in_use, List.filter_nil, List.append_nil]
  | cons raw items ih =>
    rw [convert_events]
    simp only [List.forall₂_cons_left_iff]
    cases first : TerminalRequest.from_value (without_chat_id raw) with
    | none =>
      refine iff_of_false nofun ?_
      rintro ⟨_, ⟨event, _, read, -⟩, -⟩
      cases read
    | some event =>
      have head (Rest : List TerminalRequest → Prop) :
          (∃ decoded, (∃ event' rest, some event = some event' ∧
            List.Forall₂ (fun raw event => TerminalRequest.from_value (without_chat_id raw) =
              some event) items rest ∧ decoded = event' :: rest) ∧ Rest decoded) ↔
            ∃ rest, List.Forall₂ (fun raw event => TerminalRequest.from_value (without_chat_id raw) =
              some event) items rest ∧ Rest (event :: rest) := by
        constructor
        · rintro ⟨_, ⟨_, rest, same, read, rfl⟩, holds⟩
          cases same
          exact ⟨rest, read, holds⟩
        · rintro ⟨rest, read, holds⟩
          exact ⟨_, ⟨event, rest, rfl, read, rfl⟩, holds⟩
      rw [Option.bind_eq_bind, Option.bind_some, head]
      by_cases old : event.error_code = "CHAT_IDENTITY_REQUIRED"
      · have dropped (rest : List TerminalRequest) : in_use (event :: rest) = in_use rest :=
          List.filter_cons_of_neg (by simpa using old)
        simp only [if_pos old, ih intact, dropped]
      · have used (rest : List TerminalRequest) :
            events ++ in_use (event :: rest) = (events ++ [event]) ++ in_use rest := by
          rw [in_use, List.filter_cons_of_pos (by simpa using old), List.append_assoc]
          rfl
        rw [if_neg old]
        simp only [used]
        by_cases sound : Intact crates (events ++ [event])
        · rw [if_neg fun refused => (refused_iff intact event).mp refused sound, ih sound]
        · rw [if_pos ((refused_iff intact event).mpr sound)]
          refine iff_of_false nofun ?_
          rintro ⟨rest, -, rfl, whole⟩
          exact sound whole.append_left

/-- **What a conversion accepts**: an object of two members, the first version and events that
are read one by one, of which those in use are sound. -/
theorem convert_legacy_outbox_iff {value : Value} {snapshot : TerminalOutboxSnapshot} :
    convert_legacy_outbox crates value = some snapshot ↔
      ∃ top items decoded, value.collect = .object top ∧ top.length = 2 ∧
        (field top "schema_version").bind Value.as_u64 = some 1 ∧
        field top "events" = some (.array items) ∧
        List.Forall₂ (fun raw event => TerminalRequest.from_value (without_chat_id raw) = some event)
          items decoded ∧
        Intact crates (in_use decoded) ∧
        snapshot = { schema_version := 1, events := in_use decoded } := by
  have events_iff {items : List Value} {kept : List TerminalRequest} :
      convert_events crates [] items = some kept ↔ _ := convert_events_iff intact_nil
  constructor
  · intro converted
    obtain ⟨top, map, converted⟩ := Option.bind_eq_some_iff.mp converted
    obtain ⟨version, read, converted⟩ := Option.bind_eq_some_iff.mp converted
    dsimp only at converted
    split at converted
    · cases converted
    · rename_i passed
      obtain ⟨two, one⟩ := not_or.mp passed
      rw [not_not.mp one] at read
      obtain ⟨items, found, converted⟩ := Option.bind_eq_some_iff.mp converted
      obtain ⟨kept, converted, same⟩ := Option.bind_eq_some_iff.mp converted
      obtain ⟨decoded, each, rfl, intact⟩ := events_iff.mp converted
      obtain ⟨array, listed, found⟩ := Option.bind_eq_some_iff.mp found
      obtain rfl : array = .array items := by
        cases array with
        | array items' =>
          cases found
          rfl
        | _ => cases found
      refine ⟨top, items, decoded, ?_, not_not.mp two, read, listed, each, ?_, ?_⟩
      · cases collected : value.collect with
        | object top' =>
          rw [collected] at map
          cases map
          rfl
        | _ =>
          rw [collected] at map
          cases map
      · rwa [List.nil_append] at intact
      · rw [← Option.some.inj same, List.nil_append]
  · rintro ⟨top, items, decoded, map, two, version, listed, read, intact, rfl⟩
    have kept : convert_events crates [] items = some (in_use decoded) :=
      events_iff.mpr ⟨decoded, read, (List.nil_append _).symm, intact⟩
    have passed : ¬ (top.length ≠ 2 ∨ (1 : Nat) ≠ 1) := by
      rintro (wrong | wrong)
      · exact wrong two
      · exact wrong rfl
    rw [convert_legacy_outbox, map, Option.bind_eq_bind, Value.as_object, Option.bind_some, version,
      Option.bind_eq_bind, Option.bind_some, if_neg passed, listed, Option.bind_some, Value.as_array,
      Option.bind_eq_bind, Option.bind_some, kept]
    rfl

end Conversion

/-! ## A load of a file -/

section Load

variable {crates : Crates} {from_slice : ByteArray → Option Value} {st : OutboxState}
  {bytes : ByteArray} {value : Value} {snapshot : TerminalOutboxSnapshot}

theorem reload_current (crates : Crates) (file : st.file = .ok bytes) (parses : from_slice bytes = some value)
    (read : TerminalOutboxSnapshot.from_value value = some snapshot) :
    st.reload crates from_slice = some (terminal_outbox.check crates snapshot, st) := by
  rw [OutboxState.reload, terminal_outbox.load, Prog.handle_perform, apply_read, Option.bind_some, file]
  simp only [parses, Option.bind_some, read]
  rfl

theorem reload_refused (file : st.file = .ok bytes) (parses : from_slice bytes = some value)
    (unread : TerminalOutboxSnapshot.from_value value = none)
    (refused : convert_legacy_outbox crates value = none) :
    st.reload crates from_slice = some (.error "invalid masking terminal outbox", st) := by
  rw [OutboxState.reload, terminal_outbox.load, Prog.handle_perform, apply_read, Option.bind_some, file]
  simp only [parses, Option.bind_some, unread, refused]
  rfl

/-- A conversion is written before it is checked. -/
theorem reload_converted (file : st.file = .ok bytes) (parses : from_slice bytes = some value)
    (unread : TerminalOutboxSnapshot.from_value value = none)
    (converted : convert_legacy_outbox crates value = some snapshot) :
    st.reload crates from_slice = some (if st.failing st.writes then
        (.error "cannot persist masking terminal outbox", { st with writes := st.writes + 1 })
      else (terminal_outbox.check crates snapshot, { st with
        file := .ok (outbox_value snapshot.events).text.toByteArray
        writes := st.writes + 1 })) := by
  rw [OutboxState.reload, terminal_outbox.load, Prog.handle_perform, apply_read, Option.bind_some, file]
  simp only [parses, Option.bind_some, unread, converted]
  rw [Prog.handle_bind]
  cases failing : st.failing st.writes with
  | true =>
    rw [OutboxState.handle_persist_failed st _ failing, if_pos rfl, ← file]
    rfl
  | false =>
    rw [OutboxState.handle_persist_written st _ failing, if_neg Bool.false_ne_true]
    rfl

end Load

/-! ## Loading a file of the earlier format -/

section Files

variable {crates : Crates} {value : Value} {events : List LegacyRequest}

theorem nodup_top (items : List Value) :
    ([("schema_version", Value.number (.int 1)), ("events", .array items)].map Prod.fst).Nodup := by
  have names : [("schema_version", Value.number (.int 1)), ("events", .array items)].map Prod.fst =
      TerminalOutboxSnapshot.names := rfl
  rw [names]
  decide

/-- The events that are to be kept. -/
def kept_events (events : List LegacyRequest) : List TerminalRequest :=
  in_use (events.map LegacyRequest.current)

theorem LegacyFile.small (legacy : LegacyFile crates value events) {event : LegacyRequest}
    (member : event ∈ events) : event.schema_version ≤ 255 := by
  cases legacy.well_formed event member with
  | current valid =>
    rw [valid_terminal] at valid
    simp only [Bool.and_eq_true, beq_iff_eq] at valid
    have version : event.schema_version = 1 := valid.1.1.1.1.1
    omega
  | abolished _ _ version => omega

/-- What is kept is sound. -/
theorem LegacyFile.intact (legacy : LegacyFile crates value events) :
    Intact crates (kept_events events) := by
  refine ⟨fun event member => ?_, ?_, ?_⟩
  · obtain ⟨member, used⟩ := List.mem_filter.mp member
    obtain ⟨old, among, rfl⟩ := List.mem_map.mp member
    cases legacy.well_formed old among with
    | current valid => exact valid
    | abolished _ code => exact absurd code (of_decide_eq_true used)
  · have calls : (events.map LegacyRequest.current).map TerminalRequest.call_id =
        events.map LegacyRequest.call_id := List.map_map
    have distinct := legacy.distinct
    rw [← calls] at distinct
    exact distinct.sublist (List.filter_sublist.map _)
  · have shorter : (kept_events events).length ≤ (events.map LegacyRequest.current).length :=
      List.length_filter_le _ _
    rw [List.length_map] at shorter
    exact shorter.trans legacy.bounded

/-- The current format reads such a file by its events. -/
theorem LegacyFile.read (legacy : LegacyFile crates value events) :
    ∃ items, List.Forall₂ LegacyRequest.Written items events ∧
      TerminalOutboxSnapshot.from_value value = (items.mapM TerminalRequest.from_value).map
        fun events => { schema_version := 1, events } := by
  obtain ⟨fields, items, rfl, written, each⟩ := legacy.written
  have same := Same.of_perm written (nodup_top items)
  have known : members TerminalOutboxSnapshot.names (.object fields) = some fields :=
    same.members_eq fun _ => id
  refine ⟨items, each, ?_⟩
  rw [TerminalOutboxSnapshot.from_value, known, Option.bind_eq_bind, Option.bind_some,
    u8_field_of_le "schema_version" (by decide) (same.alike "schema_version"), same.alike]
  calc
    _ = (items.mapM TerminalRequest.from_value).bind fun events =>
        some (⟨1, events⟩ : TerminalOutboxSnapshot) := rfl
    _ = (items.mapM TerminalRequest.from_value).map fun events => ⟨1, events⟩ :=
        Option.map_eq_bind.symm

/-- A conversion keeps its events. -/
theorem LegacyFile.converted (legacy : LegacyFile crates value events) :
    convert_legacy_outbox crates value =
      some { schema_version := 1, events := kept_events events } := by
  obtain ⟨fields, items, rfl, written, each⟩ := legacy.written
  have map := same_collect (Same.of_perm written (nodup_top items))
  have listed : field (collectFields fields []) "events" = some (.array (items.map Value.collect)) := by
    rw [map.alike, ← collectItems_eq]
    rfl
  refine convert_legacy_outbox_iff.mpr ⟨collectFields fields [], items.map Value.collect,
    events.map LegacyRequest.current, Value.collect.eq_2 .., map.length_eq, ?_, listed, ?_,
    legacy.intact, rfl⟩
  · rw [map.alike]
    rfl
  · rw [List.forall₂_map_left_iff, List.forall₂_map_right_iff]
    refine (List.forall₂_iff_zip.mpr ⟨each.length_eq, fun among => ?_⟩)
    have written := List.forall₂_iff_zip.mp each
    exact from_value_without_chat_id (legacy.small (List.of_mem_zip among).2) (written.2 among)

end Files

/-! ## The promise of a migration -/

section Migration

variable {crates : Crates} {from_slice : ByteArray → Option Value} {st : OutboxState}
  {bytes : ByteArray} {value : Value} {events : List LegacyRequest}

/-- A load returns the events that are to be kept, leaves a file of the current format with these
events, and a second load returns them again. -/
def Migrated (crates : Crates) (from_slice : ByteArray → Option Value) (st : OutboxState)
    (events : List LegacyRequest) : Prop :=
  ∃ st' bytes, st.reload crates from_slice = some (.ok (kept_events events), st') ∧
    st'.file = .ok bytes ∧
    (from_slice bytes).bind TerminalOutboxSnapshot.from_value =
      some { schema_version := 1, events := kept_events events } ∧
    st'.reload crates from_slice = some (.ok (kept_events events), st')

/-- A file without conversations is one of the current format. -/
theorem LegacyFile.current (legacy : LegacyFile crates value events)
    (unverified : ∀ event ∈ events, ¬ event.verified) :
    TerminalOutboxSnapshot.from_value value =
      some { schema_version := 1, events := events.map LegacyRequest.current } := by
  obtain ⟨items, written, read⟩ := legacy.read
  have each : items.mapM TerminalRequest.from_value = some (events.map LegacyRequest.current) := by
    rw [mapM_eq_some_iff, List.forall₂_map_right_iff]
    refine List.forall₂_iff_zip.mpr ⟨written.length_eq, fun among => ?_⟩
    have member := (List.of_mem_zip among).2
    exact from_value_unverified (legacy.small member) ((List.forall₂_iff_zip.mp written).2 among)
      (not_not.mp (unverified _ member))
  rw [read, each]
  rfl

/-- A file with a conversation is not. -/
theorem LegacyFile.not_current (legacy : LegacyFile crates value events) {event : LegacyRequest}
    (member : event ∈ events) (verified : event.verified) :
    TerminalOutboxSnapshot.from_value value = none := by
  obtain ⟨items, written, read⟩ := legacy.read
  obtain ⟨i, bound, rfl⟩ := List.mem_iff_getElem.mp member
  have bound' : i < items.length := written.length_eq ▸ bound
  have here := written.get bound' bound
  rw [read, mapM_eq_none (List.getElem_mem bound') (from_value_verified (legacy.small member) here verified)]
  rfl

theorem kept_of_no_abolished (none : ∀ event ∈ events, ¬ event.abolished) :
    kept_events events = events.map LegacyRequest.current := by
  refine List.filter_eq_self.mpr fun event member => ?_
  obtain ⟨old, among, rfl⟩ := List.mem_map.mp member
  exact decide_eq_true (none old among)

/-- **A file of the earlier format is migrated exactly if it has a verified event and can be
written, or has neither a verified event nor one of the code that is no longer in use.** -/
theorem migrated_iff (file : st.file = .ok bytes) (parses : from_slice bytes = some value)
    (legacy : LegacyFile crates value events)
    (reads_back : from_slice (outbox_value (kept_events events)).text.toByteArray =
      some (outbox_value (kept_events events))) :
    Migrated crates from_slice st events ↔
      (∃ event ∈ events, event.verified) ∧ st.failing st.writes = false ∨
        ∀ event ∈ events, ¬ event.verified ∧ ¬ event.abolished := by
  have stored : (from_slice (outbox_value (kept_events events)).text.toByteArray).bind
      TerminalOutboxSnapshot.from_value = some { schema_version := 1, events := kept_events events } := by
    rw [reads_back, Option.bind_some, legacy.intact.from_value_to_value]
  by_cases some_verified : ∃ event ∈ events, event.verified
  · obtain ⟨event, member, verified⟩ := some_verified
    have other : ¬ ∀ event ∈ events, ¬ event.verified ∧ ¬ event.abolished :=
      fun none => (none event member).1 verified
    have loaded := reload_converted file parses (legacy.not_current member verified) legacy.converted
    rw [or_iff_left other, and_iff_right ⟨event, member, verified⟩]
    cases failing : st.failing st.writes with
    | true =>
      rw [failing, if_pos rfl] at loaded
      refine iff_of_false ?_ nofun
      rintro ⟨st', bytes', returned, -⟩
      cases loaded.symm.trans returned
    | false =>
      rw [failing, if_neg Bool.false_ne_true, check_ok_iff.mpr ⟨rfl, legacy.intact⟩] at loaded
      refine iff_of_true ⟨_, _, loaded, rfl, stored, ?_⟩ rfl
      exact OutboxState.reload_stored legacy.intact rfl stored
  · have unverified : ∀ event ∈ events, ¬ event.verified :=
      fun event member verified => some_verified ⟨event, member, verified⟩
    have read := legacy.current unverified
    have loaded := reload_current crates file parses read
    rw [or_iff_right fun both => some_verified both.1]
    constructor
    · rintro ⟨st', bytes', returned, -⟩ event member
      refine ⟨unverified event member, fun abolished => ?_⟩
      have checked := (Prod.mk.inj (Option.some.inj (loaded.symm.trans returned))).1
      obtain ⟨same, -⟩ := check_ok_iff.mp checked
      have all : events.map LegacyRequest.current = kept_events events :=
        congrArg TerminalOutboxSnapshot.events same
      have here : event.current ∈ kept_events events := all ▸ List.mem_map_of_mem member
      exact of_decide_eq_true (List.mem_filter.mp here).2 abolished
    · intro neither
      have all := kept_of_no_abolished fun event member => (neither event member).2
      rw [← all] at read
      have checked := check_ok_iff.mpr ⟨rfl, legacy.intact⟩
      rw [← all, checked] at loaded
      exact ⟨st, bytes, loaded, file, by rw [parses, Option.bind_some, read], loaded⟩

end Migration

/-! ## Two files of the earlier format -/

/-- The file that the earlier version wrote. -/
def legacy_value (events : List LegacyRequest) : Value :=
  .object [("schema_version", .number (.int 1)),
    ("events", .array (events.map fun event => .object (event.fields (.object event.scope.fields))))]

theorem legacy_value_written (events : List LegacyRequest) :
    ∃ fields items, legacy_value events = .object fields ∧
      fields.Perm [("schema_version", .number (.int 1)), ("events", .array items)] ∧
      List.Forall₂ LegacyRequest.Written items events := by
  refine ⟨_, _, rfl, List.Perm.refl _, ?_⟩
  rw [List.forall₂_map_left_iff]
  exact List.forall₂_same.mpr fun event _ => ⟨_, _, rfl, List.Perm.refl _, List.Perm.refl _⟩

/-- A refusal for want of a conversation. -/
def no_conversation : LegacyRequest where
  schema_version := 1
  call_id := "00000000-0000-4000-8000-000000000003"
  correlation_id := "00000000-0000-4000-8000-000000000004"
  tool_name := "execute_query"
  error_code := "CHAT_IDENTITY_REQUIRED"
  scope := .Unverified

def in_conversation : LegacyRequest where
  schema_version := 1
  call_id := "00000000-0000-4000-8000-000000000001"
  correlation_id := "00000000-0000-4000-8000-000000000002"
  tool_name := "execute_query"
  error_code := "SERVICE_NOT_READY"
  scope := .Verified "ras:a:b" "srv" "ib" "legacy-conversation" none

/-- Read these two files and what is kept of them. -/
def read_legacy (bytes : ByteArray) : Option Value :=
  [legacy_value [no_conversation], legacy_value [in_conversation, no_conversation],
    outbox_value [in_conversation.current], outbox_value []].find?
      fun value => value.text.toByteArray = bytes

def legacy_start (events : List LegacyRequest) : OutboxState :=
  ⟨[], .ok (legacy_value events).text.toByteArray, fun _ => false, 0⟩

theorem no_conversation_well_formed : no_conversation.WellFormed permissive_crates :=
  .abolished rfl rfl rfl rfl rfl (by decide) (by decide)

/-- A file that only has events of the code that is no longer in use is refused. -/
theorem abolished_only_is_refused :
    LegacyFile permissive_crates (legacy_value [no_conversation]) [no_conversation] ∧
      (legacy_start [no_conversation]).reload permissive_crates read_legacy =
        some (.error "invalid masking terminal outbox", legacy_start [no_conversation]) ∧
      ¬ Migrated permissive_crates read_legacy (legacy_start [no_conversation]) [no_conversation] := by
  have parses : read_legacy (legacy_value [no_conversation]).text.toByteArray =
      some (legacy_value [no_conversation]) := List.find?_cons_of_pos (decide_eq_true rfl)
  have legacy : LegacyFile permissive_crates (legacy_value [no_conversation]) [no_conversation] :=
    { written := legacy_value_written _
      well_formed := List.forall_mem_singleton.mpr no_conversation_well_formed
      distinct := List.nodup_singleton _
      bounded := by decide }
  have loaded := reload_current permissive_crates (show (legacy_start [no_conversation]).file = .ok _ from rfl)
    parses (legacy.current (by simp [LegacyRequest.verified, no_conversation]))
  refine ⟨legacy, loaded, ?_⟩
  rintro ⟨st, bytes, returned, -⟩
  cases loaded.symm.trans returned

theorem read_legacy_other {value other : Value} (differ : other.text ≠ value.text)
    {values : List Value} :
    (other :: values).find? (fun each => each.text.toByteArray = value.text.toByteArray) =
      values.find? fun each => each.text.toByteArray = value.text.toByteArray :=
  List.find?_cons_of_neg fun same => differ (String.toByteArray_inj.mp (of_decide_eq_true same))

/-- The event with a conversation is kept, the other is dropped. -/
theorem conversation_is_dropped :
    Migrated permissive_crates read_legacy (legacy_start [in_conversation, no_conversation])
      [in_conversation, no_conversation] := by
  have parses : read_legacy (legacy_value [in_conversation, no_conversation]).text.toByteArray =
      some (legacy_value [in_conversation, no_conversation]) :=
    (read_legacy_other (by decide +kernel)).trans (List.find?_cons_of_pos (decide_eq_true rfl))
  have reads_back : read_legacy (outbox_value [in_conversation.current]).text.toByteArray =
      some (outbox_value [in_conversation.current]) :=
    (read_legacy_other (by decide +kernel)).trans ((read_legacy_other (by decide +kernel)).trans
      (List.find?_cons_of_pos (decide_eq_true rfl)))
  have legacy : LegacyFile permissive_crates (legacy_value [in_conversation, no_conversation])
      [in_conversation, no_conversation] :=
    { written := legacy_value_written _
      well_formed := by
        rintro event member
        rcases List.mem_cons.mp member with rfl | later
        · exact .current (by decide)
        · rw [List.mem_singleton.mp later]
          exact no_conversation_well_formed
      distinct := by decide
      bounded := by decide }
  refine (migrated_iff rfl parses legacy reads_back).mpr (Or.inl ⟨⟨in_conversation, ?_, ?_⟩, rfl⟩)
  · exact List.mem_cons_self
  · intro unverified
    cases unverified

end SessionManager
