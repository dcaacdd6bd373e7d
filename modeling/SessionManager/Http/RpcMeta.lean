import SessionManager.Json.Paths

/-!
# The metadata a request may not bring (`mcp/server.rs`)

Keys that start with `v8.` are the manager's own: they are taken out of `params._meta` of every
request that arrives over HTTP, alone or in nested batches.  Whether anything was taken decides
whether the body is printed again or goes on as it came.
-/

namespace SessionManager

open Json

def HTTP_BODY_LIMIT_BYTES : Nat := 1024 * 1024

/-- `str::starts_with` -/
def starts_with (s start : String) : Bool := start.toList.isPrefixOf s.toList

def reserved_key (key : String) : Bool := starts_with key "v8."

/-- `meta.retain(|key, _| !key.starts_with("v8."))`, and whether the length differs after it. -/
def retain_unreserved (fields : Fields) : Fields × Bool :=
  let kept := fields.filter fun entry => !reserved_key entry.1
  (kept, kept.length != fields.length)

def strip_request (request : Fields) : Value × Bool :=
  match field request "params" with
  | some (.object params) =>
    match field params "_meta" with
    | some (.object fields) =>
      let (kept, changed) := retain_unreserved fields
      (.object (set "params" (.object (set "_meta" (.object kept) params)) request), changed)
    | _ => (.object request, false)
  | _ => (.object request, false)

mutual

def strip_reserved_v8_meta : Value → Value × Bool
  | .array requests =>
    let (requests, changed) := strip_requests false requests
    (.array requests, changed)
  | .object request => strip_request request
  | value => (value, false)

def strip_requests (changed : Bool) : List Value → List Value × Bool
  | [] => ([], changed)
  | request :: rest =>
    let (request, now) := strip_reserved_v8_meta request
    let (rest, changed) := strip_requests (changed || now) rest
    (request :: rest, changed)

end

/-- `Payload Too Large` is the only refusal: a value always prints. -/
inductive BodyRefusal
  | PAYLOAD_TOO_LARGE
  deriving DecidableEq, Repr

/-- The body that goes on to the service, and the method of the request. -/
def sanitize_http_rpc_request (from_slice : List UInt8 → Option Value) (body : List UInt8) :
    Except BodyRefusal (List UInt8 × Option String) :=
  if body.length ≤ HTTP_BODY_LIMIT_BYTES then
    match from_slice body with
    | none => .ok (body, none)
    | some value =>
      let method := do (← field (← value.as_object) "method").as_str
      let (value, changed) := strip_reserved_v8_meta value
      .ok (if changed then value.to_vec else body, method)
  else .error .PAYLOAD_TOO_LARGE

/-- Requests are reached through arrays; in a request, paths under a reserved key. -/
def reserved : List Step → Bool
  | .index _ :: path => reserved path
  | .key params :: .key own :: .key key :: _ => params == "params" && own == "_meta" && reserved_key key
  | _ => false

variable {fields params request : Fields} {requests : List Value} {value : Value}

/-! ## One request -/

theorem retain_flag : (retain_unreserved fields).2 = true ↔ (retain_unreserved fields).1 ≠ fields := by
  have within : (retain_unreserved fields).1.Sublist fields := List.filter_sublist
  rw [ne_eq, ← within.length_eq]
  simp [retain_unreserved]

theorem retain_again :
    retain_unreserved (retain_unreserved fields).1 = ((retain_unreserved fields).1, false) := by
  simp [retain_unreserved]

theorem strip_request_eq (found : field request "params" = some (.object params))
    (own : field params "_meta" = some (.object fields)) :
    strip_request request =
      (.object (set "params" (.object (set "_meta" (.object (retain_unreserved fields).1) params)) request),
        (retain_unreserved fields).2) := by
  simp only [strip_request, found, own]

/-- Either a request has no metadata, and nothing happens to it, or this goes through `retain`. -/
theorem strip_request_cases (request : Fields) :
    (strip_request request = (.object request, false) ∧
      ∀ params fields, field request "params" = some (.object params) →
        field params "_meta" ≠ some (.object fields)) ∨
    ∃ params fields, field request "params" = some (.object params) ∧
      field params "_meta" = some (.object fields) := by
  unfold strip_request
  split
  · rename_i params found
    split
    · rename_i fields own
      exact .inr ⟨params, fields, found, own⟩
    · rename_i other
      refine .inl ⟨rfl, fun params' fields again own => ?_⟩
      rw [found, Option.some.injEq, Value.object.injEq] at again
      exact other fields (again ▸ own)
  · rename_i other
    exact .inl ⟨rfl, fun params _ found => absurd found (other params)⟩

theorem set_eq_iff (found : field request "params" = some (.object params))
    (own : field params "_meta" = some (.object fields)) {kept : Fields} :
    set "params" (.object (set "_meta" (.object kept) params)) request = request ↔ kept = fields := by
  constructor
  · intro same
    have outer := @field_set_self _ _ (.object (set "_meta" (.object kept) params)) _ found
    have inner := @field_set_self _ _ (.object kept) _ own
    rw [same, found, Option.some.injEq, Value.object.injEq] at outer
    rw [← outer, own, Option.some.injEq, Value.object.injEq] at inner
    exact inner.symm
  · rintro rfl
    rw [set_self own, set_self found]

theorem strip_request_flag :
    (strip_request request).2 = true ↔ (strip_request request).1 ≠ .object request := by
  rcases strip_request_cases request with ⟨nothing, -⟩ | ⟨params, fields, found, own⟩
  · simp [nothing]
  · rw [strip_request_eq found own, ne_eq, Value.object.injEq, set_eq_iff found own]
    exact retain_flag

theorem strip_request_again :
    strip_reserved_v8_meta (strip_request request).1 = ((strip_request request).1, false) := by
  rcases strip_request_cases request with ⟨nothing, -⟩ | ⟨params, fields, found, own⟩
  · rw [nothing, strip_reserved_v8_meta, nothing]
  · rw [strip_request_eq found own, strip_reserved_v8_meta,
      strip_request_eq (field_set_self found) (field_set_self own), retain_again,
      set_self (field_set_self own), set_self (field_set_self found)]

/-- The paths under a reserved key of a request lead through its metadata. -/
theorem lookup_reserved {path : List Step} (taken : reserved path = true) {inner : Value}
    (there : (Value.object request).lookup path = some inner) :
    ∃ params fields key rest, field request "params" = some (.object params) ∧
      field params "_meta" = some (.object fields) ∧ path = .key "params" :: .key "_meta" :: .key key :: rest := by
  unfold reserved at taken
  split at taken
  · cases there
  · rename_i first second key rest
    simp only [Bool.and_eq_true, beq_iff_eq] at taken
    obtain ⟨⟨rfl, rfl⟩, -⟩ := taken
    rw [lookup_object_key, Option.bind_eq_some_iff] at there
    obtain ⟨params, found, there⟩ := there
    cases params with
    | object params =>
      rw [lookup_object_key, Option.bind_eq_some_iff] at there
      obtain ⟨fields, own, there⟩ := there
      cases fields with
      | object fields => exact ⟨params, fields, key, rest, found, own, rfl⟩
      | _ => cases there
    | _ => cases there
  · cases taken

theorem strip_request_without : Without reserved (.object request) (strip_request request).1 := by
  rcases strip_request_cases request with ⟨nothing, absent⟩ | ⟨params, fields, found, own⟩
  · rw [nothing]
    refine .refl fun path taken => ?_
    cases there : (Value.object request).lookup path with
    | none => rfl
    | some inner =>
      obtain ⟨params, fields, _, _, found, own, -⟩ := lookup_reserved taken there
      exact absurd own (absent params fields found)
  · rw [strip_request_eq found own]
    have other {first second : String} {path : List Step} (differ : second ≠ "_meta") :
        reserved (.key first :: .key second :: path) = false := by
      cases path with
      | nil => rfl
      | cons step path => cases step <;> simp [reserved, differ]
    have metadata : Without (fun path => reserved (.key "params" :: .key "_meta" :: path))
        (.object fields) (.object (fields.filter fun entry => !reserved_key entry.1)) :=
      .retain (fun key => !reserved_key key) rfl fun name path => (Bool.not_not _).symm
    have inside : Without (fun path => reserved (.key "params" :: path)) (.object params)
        (.object (set "_meta" (.object (retain_unreserved fields).1) params)) :=
      .member rfl rfl (fun name path differ => other differ) own metadata
    refine .member rfl rfl (fun name path differ => ?_) found inside
    cases path with
    | nil => rfl
    | cons step path =>
      cases step with
      | index i => rfl
      | key second =>
        cases path with
        | nil => rfl
        | cons step path => cases step <;> simp [reserved, differ]

/-! ## Batches -/

theorem strip_requests_eq (changed : Bool) (requests : List Value) :
    strip_requests changed requests = (requests.map fun request => (strip_reserved_v8_meta request).1,
      changed || requests.any fun request => (strip_reserved_v8_meta request).2) := by
  induction requests generalizing changed with
  | nil => simp [strip_requests]
  | cons request rest ih => simp [strip_requests, ih, Bool.or_assoc]

theorem strip_array (requests : List Value) :
    strip_reserved_v8_meta (.array requests) =
      (.array (requests.map fun request => (strip_reserved_v8_meta request).1),
        requests.any fun request => (strip_reserved_v8_meta request).2) := by
  simp [strip_reserved_v8_meta, strip_requests_eq]

theorem map_eq_self_iff {f : Value → Value} :
    requests.map f = requests ↔ ∀ request ∈ requests, f request = request := by
  conv_lhs =>
    rhs
    rw [← List.map_id requests]
  exact List.map_inj_left

theorem strip_flag (value : Value) :
    (strip_reserved_v8_meta value).2 = true ↔ (strip_reserved_v8_meta value).1 ≠ value := by
  induction value using Value.induction with
  | array requests ih =>
    rw [strip_array, ne_eq, Value.array.injEq, map_eq_self_iff]
    simp only [List.any_eq_true, not_forall, exists_prop]
    exact exists_congr fun request => and_congr_right fun member => ih request member
  | object request => exact strip_request_flag
  | null | bool | number | string => simp [strip_reserved_v8_meta]

theorem strip_again (value : Value) :
    strip_reserved_v8_meta (strip_reserved_v8_meta value).1 = ((strip_reserved_v8_meta value).1, false) := by
  induction value using Value.induction with
  | array requests ih =>
    have nothing : ∀ request ∈ requests, (strip_reserved_v8_meta (strip_reserved_v8_meta request).1).2 = false :=
      fun request member => by rw [ih request member]
    rw [strip_array, strip_array, List.map_map, List.any_map]
    congr 1
    · congr 1
      exact List.map_congr_left fun request member => by rw [Function.comp_apply, ih request member]
    · simpa using nothing
  | object request => exact strip_request_again
  | null | bool | number | string => simp [strip_reserved_v8_meta]

theorem strip_without (value : Value) : Without reserved value (strip_reserved_v8_meta value).1 := by
  have nowhere {value : Value} (leaf : ∀ step, value.step step = none) : Without reserved value value := by
    refine .refl fun path taken => ?_
    cases path with
    | nil => cases taken
    | cons step path => rw [lookup_cons, leaf, Option.bind_none]
  induction value using Value.induction with
  | array requests ih =>
    rw [strip_array]
    refine .array (fun i path => rfl) rfl ?_
    rw [List.forall₂_map_right_iff, List.forall₂_same]
    exact ih
  | object request => exact strip_request_without
  | null | bool | number | string => exact nowhere fun step => by cases step <;> rfl

/-- Of any value, alone or in nested batches, exactly the paths under reserved keys go; whether
any went is reported; and nothing is left for a second time. -/
theorem strip_takes_reserved_paths (value : Value) :
    Without reserved value (strip_reserved_v8_meta value).1 ∧
      ((strip_reserved_v8_meta value).2 = true ↔ (strip_reserved_v8_meta value).1 ≠ value) ∧
      strip_reserved_v8_meta (strip_reserved_v8_meta value).1 =
        ((strip_reserved_v8_meta value).1, false) :=
  ⟨strip_without value, strip_flag value, strip_again value⟩

example : strip_reserved_v8_meta (.array [.object [("params", .object
      [("_meta", .object [("v8.conversation_id", .string "spoofed"), ("trace", .string "kept")]),
        ("arguments", .object [("_meta", .object [("v8.business", .string "untouched")])])])]]) =
    (.array [.object [("params", .object
      [("_meta", .object [("trace", .string "kept")]),
        ("arguments", .object [("_meta", .object [("v8.business", .string "untouched")])])])]], true) := by
  decide

end SessionManager
