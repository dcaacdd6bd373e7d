import SessionManager.Router

/-!
# The schema with its selector

What `input_schema_with_session_selector` leaves of a registered schema: every key but
`type`, `properties` and `required`, every property but the selector's, and the list of
required arguments up to the selector.
-/

namespace SessionManager

open Json

/-- The list of required arguments of a schema. -/
def required_items (fields : Fields) : List Value :=
  match field fields "required" with
  | some (.array items) => items
  | _ => []

/-- The selector is among the required arguments. -/
def selects (items : List Value) : Bool :=
  items.any fun item => item.as_str == some SESSION_ID_ARGUMENT

def requires_selector (schema : Value) : Bool :=
  selects (required_items (object_or_empty (some schema)))

/-- The sessions a schema offers to choose from. -/
def selector_enum (schema : Value) : Option Value :=
  let properties := object_or_empty (field (object_or_empty (some schema)) "properties")
  field (object_or_empty (field properties SESSION_ID_ARGUMENT)) "enum"

/-- A registered schema and a published one that differ by the selector alone; where there is a
choice, the published one requires it. -/
structure WithSelector (fields fields' : Fields) (choice : Prop) : Prop where
  kept : ∀ key, key ≠ "type" → key ≠ "properties" → key ≠ "required" →
    field fields' key = field fields key
  type : field fields' "type" = some ((field fields "type").getD (.string "object"))
  properties : ∃ properties, field fields' "properties" = some (.object properties) ∧
    ∀ key, key ≠ SESSION_ID_ARGUMENT →
      field properties key = field (object_or_empty (field fields "properties")) key
  chosen : choice → field fields' "required" = some (.array
    (if selects (required_items fields) then required_items fields
      else required_items fields ++ [.string SESSION_ID_ARGUMENT]))
  unchosen : ¬ choice → field fields' "required" = field fields "required"

/-! ## The fields of a published schema -/

variable {schema : Value} {session_ids : List String} {required : Bool}

theorem field_or_insert (key k : String) (value : Value) (fields : Fields) :
    field (or_insert k value fields) key =
      if k = key then some ((field fields key).getD value) else field fields key := by
  rw [or_insert, contains_key_eq_isSome]
  by_cases same : k = key
  · subst same
    rw [if_pos rfl]
    cases found : field fields k with
    | none => exact (field_insert k k value fields).trans (if_pos rfl)
    | some old => exact found
  · rw [if_neg same]
    split
    · rfl
    · rw [field_insert, if_neg same]

theorem field_require_selector (key : String) (fields : Fields) :
    field (require_selector fields) key =
      if key = "required" then some (.array
        (if selects (required_items fields) then required_items fields
          else required_items fields ++ [.string SESSION_ID_ARGUMENT]))
      else field fields key := by
  rw [require_selector, field_insert]
  exact if_congr eq_comm rfl rfl

/-- The fields of the schema with its selector. -/
def selector_fields (fields : Fields) (session_ids : List String) : Fields :=
  Json.insert "properties" (.object
    (Json.insert SESSION_ID_ARGUMENT (session_selector session_ids)
      (object_or_empty (field (or_insert "type" (.string "object") fields) "properties"))))
    (or_insert "type" (.string "object") fields)

theorem input_schema_with_session_selector_eq :
    input_schema_with_session_selector schema session_ids required =
      .object (if required then
        require_selector (selector_fields (object_or_empty (some schema)) session_ids)
      else selector_fields (object_or_empty (some schema)) session_ids) := rfl

theorem field_selector_fields (key : String) (fields : Fields) :
    field (selector_fields fields session_ids) key =
      if key = "properties" then some (.object
        (Json.insert SESSION_ID_ARGUMENT (session_selector session_ids)
          (object_or_empty (field fields "properties"))))
      else if key = "type" then some ((field fields key).getD (.string "object"))
      else field fields key := by
  rw [selector_fields, field_insert, field_or_insert, field_or_insert,
    if_neg (show "type" ≠ "properties" by decide)]
  exact if_congr eq_comm rfl (if_congr eq_comm rfl rfl)

theorem required_items_selector_fields (fields : Fields) :
    required_items (selector_fields fields session_ids) = required_items fields := by
  rw [required_items, field_selector_fields, if_neg (by decide), if_neg (by decide), required_items]

/-- A published schema requires the selector when it has to, or when it did so already. -/
theorem requires_selector_input_schema :
    requires_selector (input_schema_with_session_selector schema session_ids required) =
      (required || requires_selector schema) := by
  rw [input_schema_with_session_selector_eq, requires_selector, requires_selector]
  cases required with
  | false =>
    rw [if_neg Bool.false_ne_true, Bool.false_or]
    exact congrArg selects (required_items_selector_fields _)
  | true =>
    rw [if_pos rfl, Bool.true_or]
    have items (fields : Fields) : selects (required_items (require_selector fields)) = true := by
      rw [required_items, field_require_selector, if_pos rfl]
      dsimp only
      split
      · assumption
      · rw [selects, List.any_append, List.any_cons]
        exact Bool.or_true _
    exact items _

theorem selector_enum_input_schema (some : session_ids ≠ []) :
    selector_enum (input_schema_with_session_selector schema session_ids required) =
      .some (.array (session_ids.map .string)) := by
  have properties (fields : Fields) : field (object_or_empty
        (field (object_or_empty (field (selector_fields fields session_ids) "properties"))
          SESSION_ID_ARGUMENT)) "enum" = .some (.array (session_ids.map .string)) := by
    rw [field_selector_fields, if_pos rfl]
    dsimp only [object_or_empty, Option.bind_some, Value.as_object, Option.getD_some]
    rw [field_insert, if_pos rfl]
    dsimp only [session_selector, Option.bind_some, Value.as_object, Option.getD_some]
    rw [if_neg (by simpa using some)]
    rfl
  rw [input_schema_with_session_selector_eq, selector_enum]
  cases required with
  | false => exact properties _
  | true =>
    rw [if_pos rfl]
    dsimp only [object_or_empty, Option.bind_some, Value.as_object, Option.getD_some]
    rw [field_require_selector, if_neg (by decide)]
    exact properties _

/-- A published schema differs from an object by the selector alone. -/
theorem with_selector (fields : Fields) (session_ids : List String) (required : Bool) :
    ∃ fields', input_schema_with_session_selector (.object fields) session_ids required =
      .object fields' ∧ WithSelector fields fields' (required = true) := by
  rw [input_schema_with_session_selector_eq]
  refine ⟨_, rfl, ?_⟩
  have base : object_or_empty (some (.object fields)) = fields := rfl
  have other {key : String} (differ : key ≠ "required") :
      field (if required then require_selector (selector_fields fields session_ids)
        else selector_fields fields session_ids) key =
      field (selector_fields fields session_ids) key := by
    split
    · rw [field_require_selector, if_neg differ]
    · rfl
  rw [base]
  constructor
  · intro key not_type not_properties not_required
    rw [other not_required, field_selector_fields, if_neg not_properties, if_neg not_type]
  · rw [other (by decide), field_selector_fields, if_neg (by decide), if_pos rfl]
  · refine ⟨Json.insert SESSION_ID_ARGUMENT (session_selector session_ids)
      (object_or_empty (field fields "properties")), ?_, fun key differ => ?_⟩
    · rw [other (by decide), field_selector_fields, if_pos rfl]
    · rw [field_insert, if_neg (Ne.symm differ)]
  · intro chosen
    rw [if_pos chosen, field_require_selector, if_pos rfl, required_items_selector_fields]
  · intro unchosen
    rw [if_neg unchosen, field_selector_fields, if_neg (by decide), if_neg (by decide)]

end SessionManager
