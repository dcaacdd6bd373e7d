import SessionManager.Json.Decode
import SessionManager.Protocol

/-!
# Messages on the wire

`WireMessage::parse` and `WireMessage::to_text` (`session_manager/protocol.rs`).  A message is an
object whose keys tell requests, notifications and responses apart.  What was written is read
back, but for an error whose `data` is `null` (`parse_to_text_iff`), and what was read can be
written (`stable_of_from_value`).
-/

namespace SessionManager

open Json

inductive WireParseError
  /-- An error of `serde_json`. -/
  | Json
  | JsonRpcVersion
  | Shape
  | AmbiguousResponse
  deriving DecidableEq, Repr

def id_from_value : Value → Except WireParseError Id
  | .null => .ok .null
  | .string s => .ok (.string s)
  | value =>
    match value.as_i64 with
    | some n => .ok (.number n)
    | none => .error .Shape

namespace JsonRpcError

/-- The members of the error; an array has them in order. -/
def parts : Value → Option Fields
  | .object fields => some fields
  | .array items => if items.length ≤ 3 then some (["code", "message", "data"].zip items) else none
  | _ => none

/-- An optional value reads `null` as absent. -/
def data_from_value : Option Value → Option Value
  | some .null => none
  | value => value

/-- `serde_json::from_value::<JsonRpcError>`. -/
def from_value (value : Value) : Option JsonRpcError := do
  let fields ← parts value
  let code ← (field fields "code").bind Value.as_i64
  let message ← string_field fields "message"
  return { code, message, data := data_from_value (field fields "data") }

/-- `data` is skipped when absent. -/
def to_value (error : JsonRpcError) : Value :=
  .object ([("code", .number (.int error.code))] ++
    (match error.data with
      | some data => [("data", data)]
      | none => []) ++
    [("message", .string error.message)])

end JsonRpcError

namespace WireMessage

def from_value : Value → Except WireParseError WireMessage
  | .object obj =>
    if (field obj "jsonrpc").bind Value.as_str ≠ some "2.0" then .error .JsonRpcVersion
    else
      match field obj "id", (field obj "method").bind Value.as_str, contains_key obj "result",
        contains_key obj "error" with
      | some id, some method, false, false =>
        (id_from_value id).map fun id => .request id method ((field obj "params").getD .null)
      | none, some method, false, false =>
        .ok (.notification method ((field obj "params").getD .null))
      | some id, none, true, false =>
        (id_from_value id).map fun id => .response id (.ok ((field obj "result").getD .null))
      | some id, none, false, true =>
        match (field obj "error").map JsonRpcError.from_value with
        | none => .error .Shape
        | some none => .error .Json
        | some (some error) => (id_from_value id).map fun id => .response id (.error error)
      | _, _, true, true => .error .AmbiguousResponse
      | _, _, _, _ => .error .Shape
  | _ => .error .Shape

/-- The keys of an object are sorted. -/
def to_value : WireMessage → Value
  | .request id method params =>
    .object [("id", id.to_value), ("jsonrpc", .string "2.0"), ("method", .string method),
      ("params", params)]
  | .notification method params =>
    .object [("jsonrpc", .string "2.0"), ("method", .string method), ("params", params)]
  | .response id (.ok value) =>
    .object [("id", id.to_value), ("jsonrpc", .string "2.0"), ("result", value)]
  | .response id (.error error) =>
    .object [("error", error.to_value), ("id", id.to_value), ("jsonrpc", .string "2.0")]

/-- `parse`, with `serde_json::from_str`. -/
def parse (from_str : String → Option Value) (text : String) : Except WireParseError WireMessage :=
  match from_str text with
  | none => .error .Json
  | some value => from_value value

def to_text (msg : WireMessage) : String := msg.to_value.text

end WireMessage

/-! ## Reading what was written -/

/-- The values of an `i64`. -/
def Is64 (n : Int) : Prop := -2 ^ 63 ≤ n ∧ n < 2 ^ 63

/-- A number of an id is an `i64`. -/
def Id.Typed : Id → Prop
  | .number n => Is64 n
  | _ => True

namespace WireMessage

/-- The numbers of the message are of type `i64`. -/
def Typed : WireMessage → Prop
  | .request id _ _ => id.Typed
  | .notification _ _ => True
  | .response id (.ok _) => id.Typed
  | .response id (.error error) => id.Typed ∧ Is64 error.code

/-- An error response whose data is there, and `null`. -/
def NullData (msg : WireMessage) : Prop :=
  ∃ id error, msg = .response id (.error error) ∧ error.data = some .null

end WireMessage

theorem as_i64_of_is64 {n : Int} (small : Is64 n) : (Value.number (.int n)).as_i64 = some n :=
  if_pos small

theorem as_i64_eq_some {value : Value} {n : Int} :
    value.as_i64 = some n ↔ value = .number (.int n) ∧ Is64 n := by
  constructor
  · intro read
    cases value with
    | number number =>
      cases number with
      | int m =>
        rw [Value.as_i64] at read
        split at read
        · rename_i small
          cases read
          exact ⟨rfl, small⟩
        · cases read
      | float text => cases read
    | _ => cases read
  · intro ⟨same, small⟩
    subst same
    exact as_i64_of_is64 small

theorem id_from_value_to_value {id : Id} (typed : id.Typed) : id_from_value id.to_value = .ok id := by
  cases id with
  | string s => rfl
  | null => rfl
  | number n =>
    rw [Id.to_value, id_from_value, as_i64_of_is64 typed]
    · intro same
      cases same
    · intro s same
      cases same

theorem typed_of_id_from_value {value : Value} {id : Id} (read : id_from_value value = .ok id) :
    id.Typed := by
  unfold id_from_value at read
  split at read
  · cases read
    trivial
  · cases read
    trivial
  · split at read
    · rename_i number
      cases read
      exact (as_i64_eq_some.mp number).2
    · cases read

/-- A message with an id was read with that id. -/
theorem of_id_map {value : Value} {f : Id → WireMessage} {msg : WireMessage}
    (read : (id_from_value value).map f = .ok msg) : ∃ id, id.Typed ∧ msg = f id := by
  cases known : id_from_value value with
  | error error =>
    rw [known] at read
    cases read
  | ok id =>
    rw [known] at read
    cases read
    exact ⟨id, typed_of_id_from_value known, rfl⟩

namespace JsonRpcError

/-- An error loses its data in passing exactly if that is `null`. -/
theorem from_value_to_value {error : JsonRpcError} (small : Is64 error.code) :
    from_value error.to_value = some { error with data := data_from_value error.data } := by
  obtain ⟨code, message, data⟩ := error
  cases data with
  | none | some data =>
    simp only [from_value, to_value, parts, string_field, List.cons_append, List.nil_append,
      field_cons, if_true, Option.bind_eq_bind, Option.bind_some, as_i64_of_is64 small,
      String.reduceEq, if_false, Value.as_str]
    rfl

theorem data_from_value_eq {data : Option Value} : data_from_value data = data ↔ data ≠ some .null := by
  constructor
  · intro same null
    subst null
    cases same
  · intro other
    unfold data_from_value
    split
    · exact absurd rfl other
    · rfl

theorem of_from_value {value : Value} {error : JsonRpcError} (read : from_value value = some error) :
    Is64 error.code ∧ error.data ≠ some .null := by
  simp only [from_value, Option.bind_eq_bind, Option.bind_eq_some_iff, Option.pure_def,
    Option.some.injEq] at read
  obtain ⟨fields, -, code, ⟨number, -, read_code⟩, message, -, rfl⟩ := read
  refine ⟨(as_i64_eq_some.mp read_code).2, ?_⟩
  cases field fields "data" with
  | none => exact fun none => by cases none
  | some data => cases data <;> exact fun same => by cases same

end JsonRpcError

namespace WireMessage

/-- What a message reads back as. -/
def passed : WireMessage → WireMessage
  | .response id (.error error) =>
    .response id (.error { error with data := JsonRpcError.data_from_value error.data })
  | msg => msg

theorem from_value_to_value {msg : WireMessage} (typed : msg.Typed) :
    from_value msg.to_value = .ok msg.passed := by
  cases msg with
  | request id method params =>
    have read : from_value (to_value (.request id method params)) =
        (id_from_value id.to_value).map fun id => .request id method params := rfl
    rw [read, id_from_value_to_value typed]
    rfl
  | notification method params => rfl
  | response id result =>
    cases result with
    | ok value =>
      have read : from_value (to_value (.response id (.ok value))) =
          (id_from_value id.to_value).map fun id => .response id (.ok value) := rfl
      rw [read, id_from_value_to_value typed]
      rfl
    | error error =>
      have read : from_value (to_value (.response id (.error error))) =
          match some (JsonRpcError.from_value error.to_value) with
          | none => .error .Shape
          | some none => .error .Json
          | some (some error) =>
            (id_from_value id.to_value).map fun id => .response id (.error error) := rfl
      rw [read, JsonRpcError.from_value_to_value typed.2, id_from_value_to_value typed.1]
      rfl

theorem passed_eq_iff {msg : WireMessage} : msg.passed = msg ↔ ¬ msg.NullData := by
  constructor
  · rintro same ⟨id, error, rfl, null⟩
    simp only [passed, null, WireMessage.response.injEq, Except.error.injEq, true_and] at same
    rw [← same] at null
    cases null
  · intro whole
    cases msg with
    | request | notification => rfl
    | response id result =>
      cases result with
      | ok value => rfl
      | error error =>
        have kept : error.data ≠ some .null := fun null => whole ⟨id, error, rfl, null⟩
        rw [passed, JsonRpcError.data_from_value_eq.mpr kept]

/-- What was read can be written. -/
theorem of_from_value {value : Value} {msg : WireMessage} (read : from_value value = .ok msg) :
    msg.Typed ∧ ¬ msg.NullData := by
  have plain {msg : WireMessage} (plain : ∀ id error, msg ≠ .response id (.error error)) :
      ¬ msg.NullData := fun ⟨id, error, same, _⟩ => plain id error same
  unfold from_value at read
  split at read
  · split at read
    · cases read
    · split at read
      · obtain ⟨id, typed, rfl⟩ := of_id_map read
        exact ⟨typed, plain fun _ _ same => by cases same⟩
      · cases read
        exact ⟨trivial, plain fun _ _ same => by cases same⟩
      · obtain ⟨id, typed, rfl⟩ := of_id_map read
        exact ⟨typed, plain fun _ _ same => by cases same⟩
      · split at read
        · cases read
        · cases read
        · rename_i error decoded
          obtain ⟨value, -, decoded⟩ := Option.map_eq_some_iff.mp decoded
          obtain ⟨id, typed, rfl⟩ := of_id_map read
          have whole := JsonRpcError.of_from_value decoded
          refine ⟨⟨typed, whole.1⟩, ?_⟩
          rintro ⟨id', error', same, null⟩
          cases same
          exact whole.2 null
      · cases read
      · cases read
  · cases read

/-- **What was decoded is stable.** -/
theorem stable_of_from_value {value : Value} {msg : WireMessage} (read : from_value value = .ok msg) :
    from_value msg.to_value = .ok msg := by
  have whole := of_from_value read
  rw [from_value_to_value whole.1, passed_eq_iff.mpr whole.2]

/-- **A message is read back as it was written unless it is an error response with `null` for
its data.** -/
theorem parse_to_text_iff {from_str : String → Option Value} {msg : WireMessage} (typed : msg.Typed)
    (reads : from_str msg.to_value.text = some msg.to_value) :
    parse from_str msg.to_text = .ok msg ↔ ¬ msg.NullData := by
  rw [parse, to_text, reads]
  dsimp only
  rw [from_value_to_value typed, Except.ok.injEq, passed_eq_iff]

/-! ### An error that loses its data -/

def null_data : WireMessage :=
  .response (.number 1) (.error { code := -1, message := "x", data := some .null })

/-- `serde_json::from_str`, as far as the text of one message goes. -/
def reads_only (msg : WireMessage) (text : String) : Option Value :=
  if text = msg.to_text then some msg.to_value else none

theorem null_data_is_lost :
    reads_only null_data null_data.to_value.text = some null_data.to_value ∧
      parse (reads_only null_data) null_data.to_text = .ok
        (.response (.number 1) (.error { code := -1, message := "x", data := none })) ∧
      parse (reads_only null_data) null_data.to_text ≠ .ok null_data := by
  have reads : reads_only null_data null_data.to_value.text = some null_data.to_value := if_pos rfl
  have typed : null_data.Typed := ⟨⟨by decide, by decide⟩, by decide, by decide⟩
  have lost : null_data.NullData := ⟨_, _, rfl, rfl⟩
  refine ⟨reads, ?_, fun same => (parse_to_text_iff typed reads).mp same lost⟩
  rw [parse, to_text, reads]
  rfl

theorem parse_to_text_iff_bye : parse (reads_only (.request (.string "1") methods.SESSION_BYE .null))
      (to_text (.request (.string "1") methods.SESSION_BYE .null)) =
        .ok (.request (.string "1") methods.SESSION_BYE .null) ↔
      ¬ NullData (.request (.string "1") methods.SESSION_BYE .null) :=
  parse_to_text_iff trivial (if_pos rfl)

end WireMessage

end SessionManager
