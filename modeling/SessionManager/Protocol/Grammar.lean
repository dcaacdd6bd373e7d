import SessionManager.Protocol.Codec

/-!
# The grammar of messages

`WellFormed` is the JSON-RPC grammar of the channel: a message is exactly one of a request, a
notification, a success response and an error response.  `WireMessage::from_value` accepts these,
and the values of `Misread`: it looks for a `method` that is a string, so that another `method`
counts for none, and `serde` reads the error of a response from an array as well
(`accepted_iff`).
-/

namespace SessionManager

open Json

/-! ## The grammar -/

def ValidId : Value → Prop
  | .null | .string _ => True
  | .number (.int n) => Is64 n
  | _ => False

/-- A well-formed error object. -/
def ErrorObject (value : Value) : Prop :=
  ∃ fields code message, value = .object fields ∧
    field fields "code" = some (.number (.int code)) ∧ Is64 code ∧
    field fields "message" = some (.string message)

inductive MessageKind
  | request
  | notification
  | success
  | failure
  deriving DecidableEq

def Identified (obj : Fields) : Prop := ∃ id, field obj "id" = some id ∧ ValidId id

def Named (obj : Fields) : Prop := ∃ method, field obj "method" = some (.string method)

/-- The message with these members is of the kind. -/
def MessageKind.Of (obj : Fields) : MessageKind → Prop
  | .request => Identified obj ∧ Named obj ∧ field obj "result" = none ∧ field obj "error" = none
  | .notification =>
    field obj "id" = none ∧ Named obj ∧ field obj "result" = none ∧ field obj "error" = none
  | .success =>
    Identified obj ∧ field obj "method" = none ∧ (field obj "result").isSome ∧
      field obj "error" = none
  | .failure =>
    Identified obj ∧ field obj "method" = none ∧ field obj "result" = none ∧
      ∃ error, field obj "error" = some error ∧ ErrorObject error

def Versioned (obj : Fields) : Prop := field obj "jsonrpc" = some (.string "2.0")

def WellFormed (value : Value) : Prop :=
  ∃ obj, value = .object obj ∧ Versioned obj ∧ ∃! kind : MessageKind, kind.Of obj

/-! ## What is accepted beyond it -/

/-- The message has a `method` that is no string. -/
def Unnamed (obj : Fields) : Prop :=
  ∃ method, field obj "method" = some method ∧ ∀ s, method ≠ .string s

/-- An error as an array of its code, its message and perhaps its data. -/
def ErrorArray (value : Value) : Prop :=
  ∃ code message data, value = .array (.number (.int code) :: .string message :: data) ∧
    Is64 code ∧ data.length ≤ 1

/-- A response that has a `method`, or whose error is an array. -/
def Misread (value : Value) : Prop :=
  ∃ obj, value = .object obj ∧ Versioned obj ∧ Identified obj ∧
    (Unnamed obj ∧ (field obj "result").isSome ∧ field obj "error" = none ∨
      Unnamed obj ∧ field obj "result" = none ∧
        (∃ error, field obj "error" = some error ∧ ErrorObject error) ∨
      ¬ Named obj ∧ field obj "result" = none ∧
        ∃ error, field obj "error" = some error ∧ ErrorArray error)

/-! ## The parts -/

theorem id_from_value_ok_iff {value : Value} :
    (∃ id, id_from_value value = .ok id) ↔ ValidId value := by
  cases value with
  | null | string => exact iff_of_true ⟨_, rfl⟩ trivial
  | bool | array | object => exact iff_of_false (fun ⟨_, read⟩ => by cases read) not_false
  | number number =>
    cases number with
    | float => exact iff_of_false (fun ⟨_, read⟩ => by cases read) not_false
    | int n =>
      constructor
      · rintro ⟨id, read⟩
        rw [id_from_value] at read
        · split at read
          · rename_i number
            exact (as_i64_eq_some.mp number).1 ▸ (as_i64_eq_some.mp number).2
          · cases read
        · intro same
          cases same
        · intro s same
          cases same
      · intro small
        have typed : (Id.number n).Typed := small
        exact ⟨.number n, id_from_value_to_value typed⟩

/-- A `map` of an id is read exactly when the id is valid. -/
theorem id_map_ok_iff {value : Value} {f : Id → WireMessage} :
    (∃ msg, (id_from_value value).map f = .ok msg) ↔ ValidId value := by
  rw [← id_from_value_ok_iff]
  cases id_from_value value with
  | error error => exact iff_of_false (fun ⟨_, read⟩ => by cases read) fun ⟨_, read⟩ => by cases read
  | ok id => exact iff_of_true ⟨_, rfl⟩ ⟨_, rfl⟩

theorem as_str_eq_some {value : Value} {s : String} : value.as_str = some s ↔ value = .string s := by
  cases value with
  | string text =>
    constructor
    · intro same
      cases same
      rfl
    · intro same
      cases same
      rfl
  | _ => exact iff_of_false (fun same => by cases same) fun same => by cases same

namespace JsonRpcError

theorem from_value_some_iff_parts {value : Value} :
    (∃ error, from_value value = some error) ↔
      ∃ fields code message, parts value = some fields ∧
        field fields "code" = some (.number (.int code)) ∧ Is64 code ∧
        field fields "message" = some (.string message) := by
  constructor
  · rintro ⟨error, read⟩
    simp only [from_value, Option.bind_eq_bind, Option.bind_eq_some_iff, Option.pure_def,
      string_field] at read
    obtain ⟨fields, members, code, ⟨number, here, as_number⟩, message, ⟨text, there, as_text⟩, -⟩ := read
    obtain ⟨rfl, small⟩ := as_i64_eq_some.mp as_number
    obtain rfl := as_str_eq_some.mp as_text
    exact ⟨fields, code, message, members, here, small, there⟩
  · rintro ⟨fields, code, message, members, here, small, there⟩
    refine ⟨{ code, message, data := data_from_value (field fields "data") }, ?_⟩
    simp only [from_value, members, here, there, string_field, Option.bind_eq_bind,
      Option.bind_some, as_i64_of_is64 small, Value.as_str]
    rfl

/-- An error is read from an object or from an array. -/
theorem from_value_some_iff {value : Value} :
    (∃ error, from_value value = some error) ↔ ErrorObject value ∨ ErrorArray value := by
  rw [from_value_some_iff_parts]
  constructor
  · rintro ⟨fields, code, message, members, here, small, there⟩
    cases value with
    | object =>
      cases members
      exact .inl ⟨fields, code, message, rfl, here, small, there⟩
    | array items =>
      right
      rw [parts] at members
      split at members
      · rename_i few
        cases members
        rcases items with _ | ⟨first, _ | ⟨second, data⟩⟩
        · cases here
        · cases there
        · cases here
          cases there
          exact ⟨code, message, data, rfl, small, Nat.le_of_succ_le_succ (Nat.le_of_succ_le_succ few)⟩
      · cases members
    | _ => cases members
  · rintro (⟨fields, code, message, rfl, here, small, there⟩ | ⟨code, message, data, rfl, small, few⟩)
    · exact ⟨fields, code, message, rfl, here, small, there⟩
    · refine ⟨_, code, message, if_pos ?_, rfl, small, rfl⟩
      simp only [List.length_cons]
      omega

end JsonRpcError

/-! ## What is accepted -/

/-- Whether a message of the kind has an id, a method and a result. -/
def MessageKind.keys : MessageKind → Bool × Bool × Bool
  | .request => (true, true, false)
  | .notification => (false, true, false)
  | .success => (true, false, true)
  | .failure => (true, false, false)

theorem MessageKind.keys_of {obj : Fields} {kind : MessageKind} (of : kind.Of obj) :
    ((field obj "id").isSome, (field obj "method").isSome, (field obj "result").isSome) =
      kind.keys := by
  cases kind with
  | request =>
    obtain ⟨⟨id, identified, -⟩, ⟨method, named⟩, result, -⟩ := of
    rw [identified, named, result]
    rfl
  | notification =>
    obtain ⟨id, ⟨method, named⟩, result, -⟩ := of
    rw [id, named, result]
    rfl
  | success =>
    obtain ⟨⟨id, identified, -⟩, method, result, -⟩ := of
    rw [identified, method, result]
    rfl
  | failure =>
    obtain ⟨⟨id, identified, -⟩, method, result, -⟩ := of
    rw [identified, method, result]
    rfl

/-- A message is of one kind only. -/
theorem MessageKind.unique {obj : Fields} {kind kind' : MessageKind} (here : kind.Of obj)
    (there : kind'.Of obj) : kind = kind' := by
  have same := (keys_of here).symm.trans (keys_of there)
  cases kind <;> cases kind' <;> first | rfl | cases same

theorem wellFormed_iff {obj : Fields} :
    WellFormed (.object obj) ↔ Versioned obj ∧ ∃ kind : MessageKind, kind.Of obj := by
  constructor
  · rintro ⟨obj', same, versioned, kind, of, -⟩
    cases same
    exact ⟨versioned, kind, of⟩
  · rintro ⟨versioned, kind, of⟩
    exact ⟨obj, rfl, versioned, kind, of, fun other there => MessageKind.unique there of⟩

section Object

variable {obj : Fields}

theorem versioned_iff :
    Versioned obj ↔ (field obj "jsonrpc").bind Value.as_str = some "2.0" := by
  rw [Versioned, Option.bind_eq_some_iff]
  constructor
  · exact fun versioned => ⟨_, versioned, rfl⟩
  · rintro ⟨value, here, same⟩
    rwa [as_str_eq_some.mp same] at here

theorem identified_iff {id : Value} (here : field obj "id" = some id) :
    Identified obj ↔ ValidId id := by
  constructor
  · rintro ⟨id', here', valid⟩
    cases here.symm.trans here'
    exact valid
  · exact fun valid => ⟨id, here, valid⟩

/-- With a method that is a string, there is neither a result nor an error. -/
theorem accepted_of_named {method : String} (versioned : Versioned obj)
    (named : (field obj "method").bind Value.as_str = some method) :
    (∃ msg, WireMessage.from_value (.object obj) = .ok msg) ↔
      field obj "result" = none ∧ field obj "error" = none ∧
        (field obj "id" = none ∨ Identified obj) := by
  rw [WireMessage.from_value, if_neg (not_not_intro (versioned_iff.mp versioned)), named,
    contains_key_eq_isSome, contains_key_eq_isSome]
  cases field obj "result" with
  | some result =>
    refine iff_of_false ?_ fun absent => by cases absent.1
    cases field obj "id" <;> cases field obj "error" <;> exact fun ⟨_, read⟩ => by cases read
  | none =>
    cases field obj "error" with
    | some error =>
      refine iff_of_false ?_ fun absent => by cases absent.2.1
      cases field obj "id" <;> exact fun ⟨_, read⟩ => by cases read
    | none =>
      cases here : field obj "id" with
      | none => exact iff_of_true ⟨_, rfl⟩ ⟨rfl, rfl, .inl rfl⟩
      | some id =>
        dsimp only [Option.isSome]
        rw [id_map_ok_iff, identified_iff here]
        simp only [true_and, reduceCtorEq, false_or]

/-- Without one, there is an id and either a result or an error. -/
theorem accepted_of_unnamed (versioned : Versioned obj)
    (unnamed : (field obj "method").bind Value.as_str = none) :
    (∃ msg, WireMessage.from_value (.object obj) = .ok msg) ↔
      Identified obj ∧
        ((field obj "result").isSome ∧ field obj "error" = none ∨
          field obj "result" = none ∧ ∃ error, field obj "error" = some error ∧
            (ErrorObject error ∨ ErrorArray error)) := by
  rw [WireMessage.from_value, if_neg (not_not_intro (versioned_iff.mp versioned)), unnamed,
    contains_key_eq_isSome, contains_key_eq_isSome]
  cases here : field obj "id" with
  | none =>
    refine iff_of_false ?_ ?_
    · cases field obj "result" <;> cases field obj "error" <;> exact fun ⟨_, read⟩ => by cases read
    · rintro ⟨⟨id, found, -⟩, -⟩
      cases here.symm.trans found
  | some id =>
    rw [identified_iff here]
    cases field obj "result" with
    | some result =>
      cases field obj "error" with
      | none =>
        dsimp only [Option.isSome]
        rw [id_map_ok_iff]
        simp only [and_true, reduceCtorEq, false_and, or_false]
      | some error =>
        refine iff_of_false (fun ⟨_, read⟩ => by cases read) ?_
        simp only [reduceCtorEq, and_false, false_and, or_false, not_false_eq_true]
    | none =>
      cases field obj "error" with
      | none =>
        refine iff_of_false (fun ⟨_, read⟩ => by cases read) ?_
        simp only [Option.isSome, Bool.false_eq_true, false_and, reduceCtorEq, exists_const,
          and_false, or_false, not_false_eq_true]
      | some error =>
        simp only [Option.isSome, Bool.false_eq_true, false_and, false_or, true_and,
          Option.some.injEq, exists_eq_left', ← JsonRpcError.from_value_some_iff]
        dsimp only [Option.map]
        cases JsonRpcError.from_value error with
        | none => exact iff_of_false (fun ⟨_, read⟩ => by cases read) fun ⟨_, _, read⟩ => by cases read
        | some decoded =>
          dsimp only
          rw [id_map_ok_iff]
          simp only [Option.some.injEq, exists_eq', and_true]

theorem named_of_bind {method : String}
    (named : (field obj "method").bind Value.as_str = some method) : Named obj := by
  obtain ⟨value, here, same⟩ := Option.bind_eq_some_iff.mp named
  rw [as_str_eq_some.mp same] at here
  exact ⟨method, here⟩

theorem not_named_of_bind (unnamed : (field obj "method").bind Value.as_str = none) : ¬ Named obj := by
  rintro ⟨method, here⟩
  rw [here] at unnamed
  cases unnamed

/-- A method that is no string is there, or not. -/
theorem unnamed_cases (unnamed : ¬ Named obj) : field obj "method" = none ∨ Unnamed obj := by
  cases here : field obj "method" with
  | none => exact .inl rfl
  | some method => exact .inr ⟨method, here, fun s same => unnamed ⟨s, same ▸ here⟩⟩

theorem Unnamed.not_named (unnamed : Unnamed obj) : ¬ Named obj := by
  rintro ⟨s, named⟩
  obtain ⟨method, here, other⟩ := unnamed
  cases named.symm.trans here
  exact other s rfl

/-- An object is read as a message of the grammar, or misread. -/
theorem accepted_object_iff (versioned : Versioned obj) :
    (∃ msg, WireMessage.from_value (.object obj) = .ok msg) ↔
      (∃ kind : MessageKind, kind.Of obj) ∨ Misread (.object obj) := by
  cases method : (field obj "method").bind Value.as_str with
  | some name =>
    have named := named_of_bind method
    rw [accepted_of_named versioned method]
    constructor
    · rintro ⟨result, error, anonymous | identified⟩
      · exact .inl ⟨.notification, anonymous, named, result, error⟩
      · exact .inl ⟨.request, identified, named, result, error⟩
    · rintro (⟨kind, of⟩ | ⟨obj', same, -, -, misread⟩)
      · cases kind with
        | request => exact ⟨of.2.2.1, of.2.2.2, .inr of.1⟩
        | notification => exact ⟨of.2.2.1, of.2.2.2, .inl of.1⟩
        | success | failure =>
          obtain ⟨s, here⟩ := named
          cases of.2.1.symm.trans here
      · cases same
        rcases misread with ⟨unnamed, -⟩ | ⟨unnamed, -⟩ | ⟨unnamed, -⟩
        · exact absurd named unnamed.not_named
        · exact absurd named unnamed.not_named
        · exact absurd named unnamed
  | none =>
    have nameless := not_named_of_bind method
    rw [accepted_of_unnamed versioned method]
    constructor
    · rintro ⟨identified, ⟨result, error⟩ | ⟨result, error, here, object | array⟩⟩
      · rcases unnamed_cases nameless with absent | unnamed
        · exact .inl ⟨.success, identified, absent, result, error⟩
        · exact .inr ⟨obj, rfl, versioned, identified, .inl ⟨unnamed, result, error⟩⟩
      · rcases unnamed_cases nameless with absent | unnamed
        · exact .inl ⟨.failure, identified, absent, result, error, here, object⟩
        · exact .inr ⟨obj, rfl, versioned, identified,
            .inr (.inl ⟨unnamed, result, error, here, object⟩)⟩
      · exact .inr ⟨obj, rfl, versioned, identified,
          .inr (.inr ⟨nameless, result, error, here, array⟩)⟩
    · rintro (⟨kind, of⟩ | ⟨obj', same, -, identified, misread⟩)
      · cases kind with
        | request | notification => exact absurd of.2.1 nameless
        | success => exact ⟨of.1, .inl of.2.2⟩
        | failure =>
          obtain ⟨identified, -, result, error, here, object⟩ := of
          exact ⟨identified, .inr ⟨result, error, here, .inl object⟩⟩
      · cases same
        rcases misread with ⟨-, success⟩ | ⟨-, result, error, here, object⟩ |
          ⟨-, result, error, here, array⟩
        · exact ⟨identified, .inl success⟩
        · exact ⟨identified, .inr ⟨result, error, here, .inl object⟩⟩
        · exact ⟨identified, .inr ⟨result, error, here, .inr array⟩⟩

end Object

/-- **Which values are read as a message.** -/
theorem accepted_iff {value : Value} :
    (∃ msg, WireMessage.from_value value = .ok msg) ↔ WellFormed value ∨ Misread value := by
  cases value with
  | object obj =>
    by_cases versioned : Versioned obj
    · rw [accepted_object_iff versioned, wellFormed_iff, and_iff_right versioned]
    · refine iff_of_false ?_ ?_
      · rintro ⟨msg, read⟩
        rw [WireMessage.from_value, if_pos fun same => versioned (versioned_iff.mpr same)] at read
        cases read
      · rintro (wellFormed | ⟨obj', same, versioned', -⟩)
        · exact versioned (wellFormed_iff.mp wellFormed).1
        · cases same
          exact versioned versioned'
  | _ =>
    refine iff_of_false (fun ⟨_, read⟩ => by cases read) ?_
    rintro (⟨_, same, -⟩ | ⟨_, same, -⟩) <;> cases same

/-- What is misread is no message of the grammar. -/
theorem Misread.not_wellFormed {value : Value} (misread : Misread value) : ¬ WellFormed value := by
  rintro wellFormed
  obtain ⟨obj, rfl, -, -, misread⟩ := misread
  obtain ⟨-, kind, of⟩ := wellFormed_iff.mp wellFormed
  have unnamed_ne (unnamed : Unnamed obj) : field obj "method" ≠ none := by
    obtain ⟨method, here, -⟩ := unnamed
    rw [here]
    exact Option.some_ne_none method
  have array_ne {error error' : Value} (array : ErrorArray error) (object : ErrorObject error') :
      error ≠ error' := by
    rintro rfl
    obtain ⟨_, _, _, rfl, -⟩ := array
    obtain ⟨_, _, _, same, -⟩ := object
    cases same
  rcases misread with ⟨unnamed, result, error⟩ | ⟨unnamed, result, error, here, object⟩ |
    ⟨nameless, result, error, here, array⟩
  · cases kind with
    | request | notification => exact unnamed.not_named of.2.1
    | success | failure => exact unnamed_ne unnamed of.2.1
  · cases kind with
    | request | notification => exact unnamed.not_named of.2.1
    | success | failure => exact unnamed_ne unnamed of.2.1
  · cases kind with
    | request | notification => exact nameless of.2.1
    | success =>
      have some := of.2.2.1
      rw [result] at some
      cases some
    | failure =>
      obtain ⟨-, -, -, error', here', object⟩ := of
      cases here.symm.trans here'
      exact array_ne array object rfl

/-! ## The decoder against the grammar -/

/-- The decoder keeps to the grammar at this value: it accepts exactly a well-formed message, it
rejects a method beside a result or an error and a method that is no string, and what it decodes
is stable. -/
structure Conforms (value : Value) : Prop where
  accepted : (∃ msg, WireMessage.from_value value = .ok msg) ↔ WellFormed value
  rejected : ∀ obj method, value = .object obj → field obj "method" = some method →
    ((field obj "result").isSome ∨ (field obj "error").isSome ∨ ∀ s, method ≠ .string s) →
    ∀ msg, WireMessage.from_value value ≠ .ok msg
  stable : ∀ msg, WireMessage.from_value value = .ok msg →
    WireMessage.from_value msg.to_value = .ok msg

/-- **The decoder keeps to the grammar, but for responses that have a method that is no string or
whose error is an array.** -/
theorem conforms_iff (value : Value) : Conforms value ↔ ¬ Misread value := by
  constructor
  · intro conforms misread
    exact misread.not_wellFormed (conforms.accepted.mp (accepted_iff.mpr (.inr misread)))
  · intro whole
    have accepted : (∃ msg, WireMessage.from_value value = .ok msg) ↔ WellFormed value := by
      rw [accepted_iff, or_iff_left whole]
    refine ⟨accepted, ?_, fun msg read => WireMessage.stable_of_from_value read⟩
    rintro obj method rfl here odd msg read
    obtain ⟨-, kind, of⟩ := wellFormed_iff.mp (accepted.mp ⟨msg, read⟩)
    have lone (named : Named obj) (result : field obj "result" = none)
        (error : field obj "error" = none) : False := by
      rw [result, error] at odd
      obtain ⟨s, named⟩ := named
      cases named.symm.trans here
      rcases odd with some | some | other
      · cases some
      · cases some
      · exact other s rfl
    cases kind with
    | request => exact lone of.2.1 of.2.2.1 of.2.2.2
    | notification => exact lone of.2.1 of.2.2.1 of.2.2.2
    | success | failure => cases of.2.1.symm.trans here

/-- A response that has the number 5 for its method. -/
theorem numbered_method_is_misread :
    WireMessage.from_value (.object [("id", .number (.int 1)), ("jsonrpc", .string "2.0"),
        ("method", .number (.int 5)), ("result", .null)]) =
      .ok (.response (.number 1) (.ok .null)) ∧
    ¬ WellFormed (.object [("id", .number (.int 1)), ("jsonrpc", .string "2.0"),
        ("method", .number (.int 5)), ("result", .null)]) := by
  refine ⟨rfl, Misread.not_wellFormed ⟨_, rfl, rfl, ⟨_, rfl, by decide, by decide⟩, .inl ?_⟩⟩
  exact ⟨⟨_, rfl, fun s same => by cases same⟩, rfl, rfl⟩

end SessionManager
