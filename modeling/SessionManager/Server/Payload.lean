import SessionManager.Json.Objects
import SessionManager.Json.Python
import SessionManager.Server

/-!
# Payloads of tool results

What `serde_json` reads in the text of an envelope, for a text that `json.dumps` wrote.
-/

namespace SessionManager

open Json

/-- `serde_json` on the members of an envelope as they stand in the text: none of the three comes
twice, and others are ignored; an array has the three in order. -/
def MaskingResultEnvelope.from_members : Value → Option MaskingResultEnvelope
  | .object fields =>
    if ((fields.map Prod.fst).filter
        (· ∈ ["schema_version", "result", "field_sources"])).Nodup then do
      return {
        schema_version := ← u8_field fields "schema_version"
        result := (← field fields "result").collect
        field_sources := (← field fields "field_sources").collect }
    else none
  | .array [schema_version, result, field_sources] => do
    return {
      schema_version := ← u8_field [("schema_version", schema_version)] "schema_version"
      result := result.collect
      field_sources := field_sources.collect }
  | _ => none

/-- `serde_json` reads the text `json.dumps` writes of the value, up to its limit of 128 levels. -/
structure Crates.Reads (crates : Crates) (floats : Python.Floats) (v : Python.Value) : Prop where
  from_str : ∀ {ensure_ascii : Bool} {text : String}, v.WellFormed → v.nest < 128 →
    (v.dumps floats ensure_ascii).decode = some text →
    crates.from_str text = (v.read floats).map Value.collect
  envelope : ∀ {ensure_ascii : Bool} {text : String}, v.WellFormed → v.nest < 128 →
    (v.dumps floats ensure_ascii).decode = some text →
    crates.envelope text = (v.read floats).bind MaskingResultEnvelope.from_members

/-! ## Texts that declare an envelope -/

/-- Decoders that agree on what the members of a text are: a value keeps the last of several
members under one key, an envelope has none of its own twice. -/
structure Crates.Parses (crates : Crates) (raw : String → Option Value) : Prop where
  from_str : ∀ text, crates.from_str text = (raw text).map Value.collect
  envelope : ∀ text value, raw text = some value →
    crates.envelope text = MaskingResultEnvelope.from_members value

/-- The text of the first block. -/
def first_block_text (outer : ToolCallResult) : Option String :=
  match outer.content with
  | .text text :: _ => some text
  | _ => none

/-- Each member of an envelope once, in version 1. -/
structure EnvelopeMembers (fields : Fields) (result field_sources : Value) : Prop where
  schema_version : fields.filter (fun entry => entry.1 == "schema_version") =
    [("schema_version", .number (.int 1))]
  result : fields.filter (fun entry => entry.1 == "result") = [("result", result)]
  field_sources : fields.filter (fun entry => entry.1 == "field_sources") =
    [("field_sources", field_sources)]

/-- The members of the object in the first block, where it has a key that only an envelope has. -/
structure Declares (raw : String → Option Value) (outer : ToolCallResult) (text : String)
    (fields : Fields) : Prop where
  first : first_block_text outer = some text
  object : raw text = some (.object fields)
  marker : "schema_version" ∈ fields.map Prod.fst ∨ "field_sources" ∈ fields.map Prod.fst

section Declared

variable {fields : Fields} {key text : String} {value result field_sources : Value}

theorem filter_eq_singleton_iff : fields.filter (fun entry => entry.1 == key) = [(key, value)] ↔
    field fields key = some value ∧ (fields.map Prod.fst).count key = 1 := by
  have first : field fields key = (fields.filter fun entry => entry.1 == key).head?.map Prod.snd := by
    rw [List.head?_filter, field]
  have times : (fields.map Prod.fst).count key = (fields.filter fun entry => entry.1 == key).length := by
    rw [List.count, List.countP_map, List.countP_eq_length_filter]
    rfl
  rw [first, times, List.length_eq_one_iff]
  constructor
  · intro only
    simp [only]
  · rintro ⟨found, entry, only⟩
    have named : entry.1 = key := by
      have member : entry ∈ fields.filter fun entry => entry.1 == key := by simp [only]
      simpa using (List.mem_filter.mp member).2
    rw [only] at found ⊢
    have bound : entry.2 = value := by simpa using found
    rw [← named, ← bound]

/-- None of the listed keys comes twice. -/
theorem nodup_filter_iff {names : List String} :
    ((fields.map Prod.fst).filter (· ∈ names)).Nodup ↔
      ∀ name ∈ names, (fields.map Prod.fst).count name ≤ 1 := by
  rw [List.nodup_iff_count_le_one]
  constructor
  · intro once name listed
    have := once name
    rwa [List.count_filter (by simpa using listed)] at this
  · intro once name
    by_cases listed : name ∈ names
    · rw [List.count_filter (by simpa using listed)]
      exact once name listed
    · rw [List.count_eq_zero_of_not_mem (by simp [listed])]
      omega

theorem count_of_field (found : field fields key = some value) :
    (fields.map Prod.fst).count key ≤ 1 ↔ (fields.map Prod.fst).count key = 1 := by
  have present : key ∈ fields.map Prod.fst := field_isSome_iff.mp (by simp [found])
  have some_time := List.count_pos_iff.mpr present
  omega

/-- What an object must list for an envelope of version 1 to be read from it. -/
theorem from_members_iff {envelope : MaskingResultEnvelope} :
    (MaskingResultEnvelope.from_members (.object fields) = some envelope ∧ envelope.schema_version = 1) ↔
      ∃ result field_sources, EnvelopeMembers fields result field_sources ∧
        envelope = { schema_version := 1, result := result.collect, field_sources := field_sources.collect } := by
  constructor
  · rintro ⟨read, version⟩
    rw [MaskingResultEnvelope.from_members] at read
    split at read
    · rename_i nodup
      have once := nodup_filter_iff.mp nodup
      simp only [List.mem_cons, List.not_mem_nil, or_false, forall_eq_or_imp, forall_eq] at once
      simp only [Option.bind_eq_bind, Option.bind_eq_some_iff, Option.pure_def, Option.some.injEq] at read
      obtain ⟨n, first, result, second, field_sources, third, rfl⟩ := read
      obtain ⟨first, -⟩ := uint_field_eq_some_iff.mp first
      have one : n = 1 := version
      subst one
      exact ⟨result, field_sources,
        ⟨filter_eq_singleton_iff.mpr ⟨first, (count_of_field first).mp once.1⟩,
          filter_eq_singleton_iff.mpr ⟨second, (count_of_field second).mp once.2.1⟩,
          filter_eq_singleton_iff.mpr ⟨third, (count_of_field third).mp once.2.2⟩⟩, rfl⟩
    · cases read
  · rintro ⟨result, field_sources, members, rfl⟩
    obtain ⟨first, once⟩ := filter_eq_singleton_iff.mp members.schema_version
    obtain ⟨second, once'⟩ := filter_eq_singleton_iff.mp members.result
    obtain ⟨third, once''⟩ := filter_eq_singleton_iff.mp members.field_sources
    have version : u8_field fields "schema_version" = some 1 :=
      u8_field_of_le _ (by decide) first
    refine ⟨?_, rfl⟩
    rw [MaskingResultEnvelope.from_members, if_pos]
    · simp [version, second, third]
    · rw [nodup_filter_iff]
      simp [once, once', once'']

end Declared

section Classification

variable {crates : Crates} {raw : String → Option Value} {outer : ToolCallResult} {text : String}
  {fields : Fields}

theorem Crates.Parses.claims_iff (parses : crates.Parses raw) : claims_envelope crates text = true ↔
    ∃ fields, raw text = some (.object fields) ∧
      ("schema_version" ∈ fields.map Prod.fst ∨ "field_sources" ∈ fields.map Prod.fst) := by
  have present (fields : Fields) (key : String) :
      contains_key (collectFields fields []) key = true ↔ key ∈ fields.map Prod.fst := by
    rw [contains_key_eq_isSome, field_isSome_iff, mem_keys_collect]
    simp
  unfold claims_envelope
  rw [parses.from_str]
  cases raw text with
  | none => simp
  | some value =>
    cases value with
    | object fields => simp [Value.collect, present]
    | _ => simp [Value.collect]

variable {result field_sources : Value}

theorem Crates.Parses.claims (parses : crates.Parses raw) (declared : Declares raw outer text fields) :
    claims_envelope crates text = true :=
  parses.claims_iff.mpr ⟨fields, declared.object, declared.marker⟩

/-- The first block of a result that declares an envelope. -/
theorem content_of_first (first : first_block_text outer = some text) :
    ∃ rest, outer.content = .text text :: rest := by
  unfold first_block_text at first
  split at first
  · rename_i text' rest block
    cases first
    exact ⟨rest, block⟩
  · cases first

theorem EnvelopeMembers.marker (members : EnvelopeMembers fields result field_sources) :
    "schema_version" ∈ fields.map Prod.fst :=
  field_isSome_iff.mp (by simp [(filter_eq_singleton_iff.mp members.schema_version).1])

theorem extract_of_envelope (parses : crates.Parses raw) (declared : Declares raw outer text fields)
    (members : EnvelopeMembers fields result field_sources) :
    extract_tool_payload crates outer = .Envelope result.collect field_sources.collect := by
  obtain ⟨rest, block⟩ := content_of_first declared.first
  obtain ⟨read, -⟩ := from_members_iff.mpr ⟨result, field_sources, members, rfl⟩
  rw [← parses.envelope text _ declared.object] at read
  simp [extract_tool_payload, block, parses.claims declared, read]

theorem extract_of_broken (parses : crates.Parses raw) (declared : Declares raw outer text fields)
    (broken : ∀ result field_sources, ¬ EnvelopeMembers fields result field_sources) :
    extract_tool_payload crates outer = .Malformed "RESULT_INVALID" := by
  obtain ⟨rest, block⟩ := content_of_first declared.first
  simp only [extract_tool_payload, block, parses.claims declared, if_pos]
  cases read : crates.envelope text with
  | none => rfl
  | some envelope =>
    rw [parses.envelope text _ declared.object] at read
    have other : envelope.schema_version ≠ 1 := by
      intro version
      obtain ⟨result, field_sources, members, -⟩ := from_members_iff.mp ⟨read, version⟩
      exact broken result field_sources members
    simp [other]

theorem extract_of_undeclared (parses : crates.Parses raw)
    (undeclared : ∀ text fields, ¬ Declares raw outer text fields) :
    extract_tool_payload crates outer = .Opaque outer.to_value := by
  unfold extract_tool_payload
  split
  · rename_i text rest block
    have first : first_block_text outer = some text := by simp [first_block_text, block]
    rw [if_neg]
    rw [parses.claims_iff]
    rintro ⟨fields, object, marker⟩
    exact undeclared text fields ⟨first, object, marker⟩
  · rfl

/-- A result goes as an envelope exactly when its first text is one, is refused exactly when that
text declares an envelope and is none, and goes whole in every other case. -/
theorem extraction_is_exact (parses : crates.Parses raw) (outer : ToolCallResult) :
    (∀ result field_sources, extract_tool_payload crates outer = .Envelope result field_sources ↔
      ∃ text fields first second, first_block_text outer = some text ∧ raw text = some (.object fields) ∧
        EnvelopeMembers fields first second ∧ result = first.collect ∧ field_sources = second.collect) ∧
      (∀ code, extract_tool_payload crates outer = .Malformed code ↔
        code = "RESULT_INVALID" ∧ ∃ text fields, Declares raw outer text fields ∧
          ∀ result field_sources, ¬ EnvelopeMembers fields result field_sources) ∧
      (∀ value, extract_tool_payload crates outer = .Opaque value ↔
        value = outer.to_value ∧ ∀ text fields, ¬ Declares raw outer text fields) := by
  have unique {text text' : String} {fields fields' : Fields} (declared : Declares raw outer text fields)
      (first : first_block_text outer = some text') (object : raw text' = some (.object fields')) :
      fields' = fields := by
    have same : text = text' := Option.some.inj (declared.first.symm.trans first)
    subst same
    simpa using object.symm.trans declared.object
  by_cases declares : ∃ text fields, Declares raw outer text fields
  · obtain ⟨text, fields, declared⟩ := declares
    have opaque_not : ¬ ∀ text fields, ¬ Declares raw outer text fields :=
      fun none => none text fields declared
    by_cases whole : ∃ result field_sources, EnvelopeMembers fields result field_sources
    · obtain ⟨result, field_sources, members⟩ := whole
      rw [extract_of_envelope parses declared members]
      refine ⟨fun result' field_sources' => ?_, fun code => ?_, fun value => by simp [opaque_not]⟩
      · constructor
        · rintro ⟨⟩
          exact ⟨text, fields, result, field_sources, declared.first, declared.object, members, rfl, rfl⟩
        · rintro ⟨text', fields', first, second, here, object, members', rfl, rfl⟩
          cases unique declared here object
          have results := members.result.symm.trans members'.result
          have sources := members.field_sources.symm.trans members'.field_sources
          simp only [List.cons.injEq, Prod.mk.injEq, true_and, and_true] at results sources
          rw [results, sources]
      · simp only [reduceCtorEq, false_iff, not_and]
        rintro - ⟨text', fields', declared', broken⟩
        cases unique declared declared'.first declared'.object
        exact broken _ _ members
    · have broken : ∀ result field_sources, ¬ EnvelopeMembers fields result field_sources :=
        fun result field_sources members => whole ⟨result, field_sources, members⟩
      rw [extract_of_broken parses declared broken]
      refine ⟨fun result field_sources => ?_, fun code => ?_, fun value => by simp [opaque_not]⟩
      · simp only [reduceCtorEq, false_iff]
        rintro ⟨text', fields', first, second, here, object, members, -⟩
        cases unique declared here object
        exact broken _ _ members
      · rw [ToolPayload.Malformed.injEq]
        exact ⟨fun same => ⟨same.symm, text, fields, declared, broken⟩, fun held => held.1.symm⟩
  · have undeclared : ∀ text fields, ¬ Declares raw outer text fields :=
      fun text fields declared => declares ⟨text, fields, declared⟩
    rw [extract_of_undeclared parses undeclared]
    refine ⟨fun result field_sources => ?_, fun code => ?_, fun value => ?_⟩
    · simp only [reduceCtorEq, false_iff]
      rintro ⟨text, fields, first, second, here, object, members, -⟩
      exact undeclared text fields ⟨here, object, .inl members.marker⟩
    · simp only [reduceCtorEq, false_iff, not_and]
      rintro - ⟨text, fields, declared, -⟩
      exact undeclared text fields declared
    · rw [ToolPayload.Opaque.injEq]
      exact ⟨fun same => ⟨same.symm, undeclared⟩, fun held => held.1.symm⟩

end Classification

def envelope_text : String :=
  "\x7b\"schema_version\":1,\"result\":\x7b\"a\":1\x7d,\"field_sources\":null\x7d"

/-- It has its result twice. -/
def doubled_text : String :=
  "\x7b\"schema_version\":1,\"result\":1,\"result\":2,\"field_sources\":null\x7d"

def sample_members (text : String) : Option Value :=
  if text = envelope_text then
    some (.object [("schema_version", .number (.int 1)), ("result", .object [("a", .number (.int 1))]),
      ("field_sources", .null)])
  else if text = doubled_text then
    some (.object [("schema_version", .number (.int 1)), ("result", .number (.int 1)),
      ("result", .number (.int 2)), ("field_sources", .null)])
  else none

def sample_crates : Crates :=
  { permissive_crates with
    from_str := fun text => (sample_members text).map Value.collect
    envelope := fun text => (sample_members text).bind MaskingResultEnvelope.from_members }

theorem sample_crates_parses : sample_crates.Parses sample_members where
  from_str _ := rfl
  envelope text value read := by simp [sample_crates, read]

def text_result (text : String) : ToolCallResult where
  content := [.text text]
  is_error := false
  structured_content := none

theorem sample_extractions :
    extract_tool_payload sample_crates (text_result envelope_text) =
        .Envelope (.object [("a", .number (.int 1))]) .null ∧
      extract_tool_payload sample_crates (text_result doubled_text) = .Malformed "RESULT_INVALID" := by
  have exact_at (text : String) := extraction_is_exact sample_crates_parses (text_result text)
  constructor
  · refine ((exact_at envelope_text).1 _ _).mpr ⟨envelope_text, _, _, _, rfl, rfl, ⟨rfl, rfl, rfl⟩, ?_, rfl⟩
    decide
  · refine ((exact_at doubled_text).2.1 _).mpr ⟨rfl, doubled_text, _, ⟨rfl, rfl, .inl (by decide)⟩, ?_⟩
    intro result field_sources members
    cases members.result

end SessionManager
