import SessionManager.Adapter.Debugger
import SessionManager.Server.Payload

/-!
# The envelope of the debugger

A logical result goes through `json.dumps` twice and through `serde_json` twice.  The manager
finds the result the adapter put in exactly if both languages have its leaves
(`envelope_agrees_iff`).
-/

namespace SessionManager

open Json

open Python (Str Entries Floats)

variable {crates : Crates} {floats : Floats} {id : Id} {r : Entries}

/-- What the manager makes of a frame of the adapter. -/
def received (crates : Crates) (floats : Floats) (frame : Python.Value) :
    Option (Except WireParseError WireMessage) :=
  (frame.dumps floats true).decode.map (WireMessage.parse crates.from_str)

/-- The manager takes the logical result out of the frame as the adapter put it in. -/
def Recovers (crates : Crates) (floats : Floats) (id : Id) (r : Entries) : Prop :=
  ∃ json answer result, (Python.Value.dict r).json = some json ∧
    received crates floats (result_frame id.python (envelope floats r)) =
      some (.ok (.response id (.ok answer))) ∧
    ToolCallResult.from_value answer = some result ∧ result.is_error = is_error r ∧
    extract_tool_payload crates result = .Envelope json.collect (.object [])

/-! ## The outer frame -/

theorem read_id (typed : id.Typed) : id.python.read floats = some id.to_value := by
  cases id with
  | null => rfl
  | string s =>
    rw [Id.python, Python.text, Python.Value.read, Python.decode_of]
    rfl
  | number n =>
    refine if_pos ⟨typed.1, ?_⟩
    have bound := typed.2
    omega

/-- The answer in the frame, as the members of a map. -/
def answer_of (flag : Bool) (text : String) : Value :=
  .object [("content", .array [.object [("text", .string text), ("type", .string "text")]]),
    ("is_error", .bool flag)]

theorem read_frame (typed : id.Typed) {text : String}
    (inner : ((logical r).dumps floats false).decode = some text) :
    (result_frame id.python (envelope floats r)).read floats =
      some (.object [("jsonrpc", .string "2.0"), ("id", id.to_value),
        ("result", .object [
          ("content", .array [.object [("type", .string "text"), ("text", .string text)]]),
          ("is_error", .bool (is_error r))])]) := by
  simp only [result_frame, envelope, Python.of_members, Python.text, List.map_cons, List.map_nil,
    Python.Value.read, Python.readEntries, Python.readItems, Python.decode_of, read_id typed, inner,
    Option.map_some, Option.bind_eq_bind, Option.bind_some, Option.pure_def]

theorem from_value_frame (typed : id.Typed) (text : String) :
    WireMessage.from_value (Value.collect (.object [("jsonrpc", .string "2.0"),
        ("id", id.to_value), ("result", .object [
          ("content", .array [.object [("type", .string "text"), ("text", .string text)]]),
          ("is_error", .bool (is_error r))])])) =
      .ok (.response id (.ok (answer_of (is_error r) text))) := by
  have sorted : Value.collect (.object [("jsonrpc", .string "2.0"),
        ("id", id.to_value), ("result", .object [
          ("content", .array [.object [("type", .string "text"), ("text", .string text)]]),
          ("is_error", .bool (is_error r))])]) =
      WireMessage.to_value (.response id (.ok (answer_of (is_error r) text))) := by
    have scalar : id.to_value.collect = id.to_value := by cases id <;> rfl
    simp only [Value.collect, collectFields, collectItems, answer_of, WireMessage.to_value, scalar]
    rfl
  have typed : WireMessage.Typed (.response id (.ok (answer_of (is_error r) text))) := typed
  rw [sorted, WireMessage.from_value_to_value typed]
  rfl

theorem result_of_answer (flag : Bool) (text : String) :
    ToolCallResult.from_value (answer_of flag text) =
      some { content := [.text text], is_error := flag, structured_content := none } := rfl

theorem logical_fits (fits : (Python.Value.dict r).Fits 52) : (logical r).Fits 53 := by
  have distinct : ["schema_version", "result", "field_sources"].Nodup := by decide
  refine Python.fits_members distinct ?_
  simp only [List.forall_mem_cons, List.not_mem_nil, false_implies, implies_true, and_true]
  exact ⟨⟨trivial, Nat.zero_le _⟩, fits, ⟨List.nodup_nil, trivial⟩, by decide⟩

theorem frame_fits (fits : (Python.Value.dict r).Fits 52) :
    (result_frame id.python (envelope floats r)).Fits 4 := by
  have plain (s : String) (n : Nat) : (Python.text s).Fits n :=
    ⟨Python.apart_of_clean (Python.clean_of s), Nat.zero_le n⟩
  have own : id.python.Fits 3 := by
    cases id with
    | null | number n => exact ⟨trivial, Nat.zero_le _⟩
    | string s => exact plain s 3
  have body : (Python.Value.str ((logical r).dumps floats false)).Fits 0 :=
    ⟨Python.Value.apart_dumps floats (logical_fits fits).1, Nat.zero_le _⟩
  have block : (Python.of_members [("type", Python.text "text"),
      ("text", .str ((logical r).dumps floats false))]).Fits 1 := by
    have distinct : ["type", "text"].Nodup := by decide
    refine Python.fits_members distinct ?_
    simp only [List.forall_mem_cons, List.not_mem_nil, false_implies, implies_true, and_true]
    exact ⟨plain _ _, body⟩
  have answer : (envelope floats r).Fits 3 := by
    have distinct : ["content", "is_error"].Nodup := by decide
    refine Python.fits_members distinct ?_
    simp only [List.forall_mem_cons, List.not_mem_nil, false_implies, implies_true, and_true]
    exact ⟨Python.fits_list (List.forall_mem_singleton.mpr block), trivial, Nat.zero_le _⟩
  have distinct : ["jsonrpc", "id", "result"].Nodup := by decide
  refine Python.fits_members distinct ?_
  simp only [List.forall_mem_cons, List.not_mem_nil, false_implies, implies_true, and_true]
  exact ⟨plain _ _, own, answer⟩

/-- What the manager makes of the frame is what it makes of the value that it reads in it. -/
theorem received_eq (reads : crates.Reads floats (result_frame id.python (envelope floats r)))
    (fits : (Python.Value.dict r).Fits 52) :
    received crates floats (result_frame id.python (envelope floats r)) =
      some (match (result_frame id.python (envelope floats r)).read floats with
        | some value => WireMessage.from_value value.collect
        | none => .error .Json) := by
  have clean : ((result_frame id.python (envelope floats r)).dumps floats true).Clean :=
    Python.Value.clean_dumps floats (.inl rfl)
  obtain ⟨outer, written⟩ := Option.isSome_iff_exists.mp (Python.decode_isSome.mpr clean)
  have own : (result_frame id.python (envelope floats r)).Fits 4 := frame_fits fits
  have shallow : (result_frame id.python (envelope floats r)).nest < 128 := by
    have bound := own.2
    omega
  rw [received, written, Option.map_some, WireMessage.parse,
    reads.from_str own.1 shallow written]
  cases (result_frame id.python (envelope floats r)).read floats <;> rfl

/-- A frame whose inner text is one of Rust arrives. -/
theorem received_frame
    (reads : crates.Reads floats (result_frame id.python (envelope floats r))) (typed : id.Typed)
    (fits : (Python.Value.dict r).Fits 52) {text : String}
    (inner : ((logical r).dumps floats false).decode = some text) :
    received crates floats (result_frame id.python (envelope floats r)) =
      some (.ok (.response id (.ok (answer_of (is_error r) text)))) := by
  rw [received_eq reads fits, read_frame typed inner]
  exact congrArg some (from_value_frame typed text)

/-- A surrogate in the result makes the frame no JSON: the call is never answered. -/
theorem lost_of_surrogate
    (reads : crates.Reads floats (result_frame id.python (envelope floats r))) (typed : id.Typed)
    (fits : (Python.Value.dict r).Fits 52) (half : ¬ (Python.Value.dict r).Clean) :
    received crates floats (result_frame id.python (envelope floats r)) = some (.error .Json) := by
  have undecoded : ((logical r).dumps floats false).decode = none := by
    apply Option.not_isSome_iff_eq_none.mp
    rw [Python.decode_isSome]
    exact fun clean => half (Python.Value.clean_of_dumps floats clean).2.2.2.1
  have unread : (result_frame id.python (envelope floats r)).read floats = none := by
    simp only [result_frame, envelope, Python.of_members, Python.text, List.map_cons, List.map_nil,
      Python.Value.read, Python.readEntries, Python.readItems, Python.decode_of, read_id typed,
      undecoded, Option.map_some, Option.map_none, Option.bind_eq_bind, Option.bind_some,
      Option.bind_none, Option.pure_def]
  rw [received_eq reads fits, unread]

/-! ## The inner text -/

/-- The members of the envelope in its text. -/
def members_of (result : Value) : Fields :=
  [("schema_version", .number (.int 1)), ("result", result), ("field_sources", .object [])]

theorem read_logical : (logical r).read floats =
    ((Python.Value.dict r).read floats).map fun x => .object (members_of x) := by
  have one : (Python.Value.int 1).read floats = some (.number (.int 1)) := by
    rw [Python.Value.read]
    exact if_pos (by decide)
  have nothing : (Python.Value.dict []).read floats = some (.object []) := rfl
  simp only [logical, Python.of_members, List.map_cons, List.map_nil]
  rw [Python.Value.read]
  simp only [Python.readEntries, Python.decode_of, one, nothing, Option.bind_eq_bind,
    Option.bind_some, Option.pure_def]
  cases (Python.Value.dict r).read floats <;> rfl

theorem from_members_of (x : Value) : MaskingResultEnvelope.from_members (.object (members_of x)) =
    some { schema_version := 1, result := x.collect, field_sources := .object [] } := by
  rfl

theorem claims_members_of (x : Value) : ∃ fields, (Value.object (members_of x)).collect = .object fields ∧
    (contains_key fields "schema_version" || contains_key fields "field_sources") = true :=
  ⟨_, rfl, rfl⟩

/-- The payload of a text that is read. -/
theorem payload_of_text (reads : crates.Reads floats (logical r))
    (fits : (Python.Value.dict r).Fits 52) {text : String}
    (inner : ((logical r).dumps floats false).decode = some text) (flag : Bool) :
    extract_tool_payload crates
        { content := [.text text], is_error := flag, structured_content := none } =
      match (Python.Value.dict r).read floats with
      | some x => .Envelope x.collect (.object [])
      | none => .Opaque (ToolCallResult.to_value
          { content := [.text text], is_error := flag, structured_content := none }) := by
  have own := logical_fits fits
  have shallow : (logical r).nest < 128 := by
    have bound := own.2
    omega
  have from_str := reads.from_str own.1 shallow inner
  have typed := reads.envelope own.1 shallow inner
  rw [read_logical] at from_str typed
  unfold extract_tool_payload claims_envelope
  dsimp only
  rw [from_str, typed]
  cases (Python.Value.dict r).read floats with
  | none => rfl
  | some x =>
    obtain ⟨fields, same, claims⟩ := claims_members_of x
    simp only [Option.map_some, Option.bind_some, same, claims, if_true, from_members_of]
    rfl

/-! ## Agreement -/

/-- What the manager takes out of the frame is the result exactly if both languages have its
leaves. -/
theorem recovers_iff (typed : id.Typed)
    (frame_reads : crates.Reads floats (result_frame id.python (envelope floats r)))
    (logical_reads : crates.Reads floats (logical r)) (fits : (Python.Value.dict r).Fits 52) :
    Recovers crates floats id r ↔ (Python.Value.dict r).Portable floats := by
  have text_of {json : Value} (same : (Python.Value.dict r).json = some json) :
      ∃ text, ((logical r).dumps floats false).decode = some text := by
    apply Option.isSome_iff_exists.mp
    apply Python.decode_isSome.mpr
    refine Python.Value.clean_dumps floats (.inr ?_)
    exact ⟨Python.clean_of _, trivial, Python.clean_of _, Python.Value.clean_of_json same,
      Python.clean_of _, trivial, trivial⟩
  constructor
  · rintro ⟨json, answer, result, same, arrives, reads_answer, -, found⟩
    obtain ⟨text, inner⟩ := text_of same
    rw [received_frame frame_reads typed fits inner] at arrives
    cases arrives
    rw [result_of_answer] at reads_answer
    cases reads_answer
    rw [payload_of_text logical_reads fits inner] at found
    apply (Python.collect_eq_iff fits.1 same).mp
    cases read : (Python.Value.dict r).read floats with
    | none =>
      rw [read] at found
      cases found
    | some x =>
      rw [read] at found
      rw [Option.map_some, (ToolPayload.Envelope.inj found).1]
  · intro portable
    obtain ⟨x, read, same⟩ := Python.Value.read_of_portable portable
    obtain ⟨text, inner⟩ := text_of same
    refine ⟨x, _, _, same, received_frame frame_reads typed fits inner, result_of_answer _ _, rfl, ?_⟩
    rw [payload_of_text logical_reads fits inner, read]

/-- **The manager recovers a logical result exactly if both languages have its leaves:** its
integers have 64 bits, its keys no surrogates, and its floats read back as they were. -/
theorem envelope_agrees_iff {library : Library} (sound : library.Sound) (typed : id.Typed)
    {raw : Entries} (formed : (Python.Value.dict raw).WellFormed)
    (returned : payload library raw = .ok r)
    (frame_reads : crates.Reads library.floats (result_frame id.python (envelope library.floats r)))
    (logical_reads : crates.Reads library.floats (logical r)) :
    Recovers crates library.floats id r ↔ (Python.Value.dict r).Portable library.floats :=
  recovers_iff typed frame_reads logical_reads (payload_fits sound formed returned)

/-! ### Results that are lost or altered -/

/-- The texts of the runs below hold neither JSON nor XML, and the one number of more than 64
bits is `2 ^ 64`. -/
def plain_library : Library where
  floats :=
    { repr := fun text => text
      read := fun text =>
        if text = "18446744073709551616" then some "1.8446744073709552e19" else none }
  loads _ := .error .ValueError
  fromstring _ := none
  upper s := s

/-- The text `{"\ud800": 1}`. -/
def half_text : Str := Str.of "\x7b\"\\ud800\": 1\x7d"

/-- The library above, which parses this text as well. -/
def half_library : Library :=
  { plain_library with
    loads := fun s =>
      if s = half_text then .ok (.dict [([0xD800], .int 1)]) else .error .ValueError }

theorem plain_library_sound : plain_library.Sound where
  loads _ _ same := by cases same
  fromstring _ _ same := by cases same

/-- `serde_json` on the two texts of a result; the third character tells them apart. -/
def crates_reading (floats : Floats) (id : Id) (r : Entries) : Crates :=
  let own (text : String) : Python.Value :=
    if text.toList[2]? = some 's' then logical r else result_frame id.python (envelope floats r)
  { permissive_crates with
    from_str := fun text => ((own text).read floats).map Value.collect
    envelope := fun text => ((own text).read floats).bind MaskingResultEnvelope.from_members }

theorem third_of_decode {s : Str} {text : String} (decoded : s.decode = some text) {c : Char}
    (third : s[2]? = some (Python.Code.of c)) : text.toList[2]? = some c := by
  rw [Python.decode_eq_some.mp decoded, Str.of, List.getElem?_map, Option.map_eq_some_iff] at third
  obtain ⟨d, there, same⟩ := third
  rw [there]
  exact congrArg some (Char.toNat_inj.mp (congrArg (fun e : Python.Code => e.val) same))

theorem logical_read : (crates_reading floats id r).Reads floats (logical r) := by
  have own {ensure_ascii : Bool} {text : String}
      (decoded : ((logical r).dumps floats ensure_ascii).decode = some text) :
      text.toList[2]? = some 's' :=
    third_of_decode decoded (by cases ensure_ascii <;> rfl)
  constructor
  · intro ensure_ascii text _ _ decoded
    simp only [crates_reading, own decoded, if_true]
  · intro ensure_ascii text _ _ decoded
    simp only [crates_reading, own decoded, if_true]

theorem frame_read : (crates_reading floats id r).Reads floats
    (result_frame id.python (envelope floats r)) := by
  have own {ensure_ascii : Bool} {text : String}
      (decoded : ((result_frame id.python (envelope floats r)).dumps floats
        ensure_ascii).decode = some text) : ¬ text.toList[2]? = some 's' := by
    rw [third_of_decode (c := 'j') decoded (by cases ensure_ascii <;> rfl)]
    decide
  constructor
  · intro ensure_ascii text _ _ decoded
    simp only [crates_reading, if_neg (own decoded)]
  · intro ensure_ascii text _ _ decoded
    simp only [crates_reading, if_neg (own decoded)]

def ok_raw : Entries :=
  [(Str.of "content", .list [Python.of_members [("type", Python.text "text"),
    ("text", Python.text "ok")]])]

def ok_result : Entries :=
  [(Str.of "content", .list [Python.text "ok"]), (Str.of "isError", .bool false)]

theorem formed_ok : (Python.Value.dict ok_raw).WellFormed := by
  have plain (s : String) : (Python.text s).Fits 0 :=
    ⟨Python.apart_of_clean (Python.clean_of s), Nat.le_refl 0⟩
  have block : (Python.of_members [("type", Python.text "text"),
      ("text", Python.text "ok")]).Fits 1 := by
    have distinct : ["type", "text"].Nodup := by decide
    refine Python.fits_members distinct ?_
    simp only [List.forall_mem_cons, List.not_mem_nil, false_implies, implies_true, and_true]
    exact ⟨plain _, plain _⟩
  have distinct : ["content"].Nodup := by decide
  have fits : (Python.of_members [("content", .list [Python.of_members [
      ("type", Python.text "text"), ("text", Python.text "ok")]])]).Fits 3 :=
    Python.fits_members distinct
      (List.forall_mem_singleton.mpr (Python.fits_list (List.forall_mem_singleton.mpr block)))
  exact fits.1

theorem envelope_agrees_iff_ok :
    Recovers (crates_reading plain_library.floats (.number 1) ok_result) plain_library.floats
        (.number 1) ok_result ↔ (Python.Value.dict ok_result).Portable plain_library.floats :=
  envelope_agrees_iff plain_library_sound ⟨by decide, by decide⟩ formed_ok (by rfl) frame_read
    logical_read

def wide_raw : Entries :=
  [(Str.of "content", .list []),
    (Str.of "structuredContent", Python.of_members [("n", .int 18446744073709551616)])]

def wide_result : Entries :=
  [(Str.of "content", .list []), (Str.of "isError", .bool false),
    (Str.of "structuredContent", Python.of_members [("n", .int 18446744073709551616)])]

/-- `2 ^ 64` reaches the masking service as a float. -/
theorem wide_integer_is_altered :
    payload plain_library wide_raw = .ok wide_result ∧
      ¬ Recovers (crates_reading plain_library.floats (.number 1) wide_result) plain_library.floats
        (.number 1) wide_result ∧
      ((Python.Value.dict wide_result).read plain_library.floats).map Value.collect =
        some (.object [("content", .array []), ("isError", .bool false), ("structuredContent",
          .object [("n", .number (.float "1.8446744073709552e19"))])]) := by
  have inner : (Python.of_members [("n", .int 18446744073709551616)]).Fits 1 := by
    have distinct : ["n"].Nodup := by decide
    exact Python.fits_members distinct (List.forall_mem_singleton.mpr ⟨trivial, Nat.le_refl 0⟩)
  have fits : (Python.Value.dict wide_result).Fits 52 := by
    have distinct : ["content", "isError", "structuredContent"].Nodup := by decide
    change (Python.of_members [("content", _), ("isError", _), ("structuredContent", _)]).Fits 52
    refine Python.fits_members distinct ?_
    simp only [List.forall_mem_cons, List.not_mem_nil, false_implies, implies_true, and_true]
    exact ⟨(Python.fits_list (n := 0) fun _ absent => by cases absent).mono (by decide),
      ⟨trivial, Nat.zero_le _⟩, inner.mono (by decide)⟩
  have len : encoded_len ((Python.Value.dict wide_raw).dumps plain_library.floats false) =
      .ok 65 := by decide +kernel
  have wide : ¬ Python.Kept 18446744073709551616 := by decide
  have digits : toString (18446744073709551616 : Int) = "18446744073709551616" := by decide +kernel
  refine ⟨?_, fun recovers => ?_, ?_⟩
  · unfold payload
    rw [len]
    rfl
  · have typed : (Id.number 1).Typed := ⟨by decide, by decide⟩
    obtain ⟨-, -, -, -, -, portable, -⟩ :=
      (recovers_iff typed frame_read logical_read fits).mp recovers
    exact wide portable.2.1
  · simp only [wide_result, Python.of_members, List.map_cons, List.map_nil, Python.Value.read,
      Python.readEntries, Python.readItems, Python.decode_of, if_neg wide, digits,
      Option.map_some, Option.bind_eq_bind, Option.bind_some, Option.pure_def]
    rfl

def half_raw : Entries :=
  [(Str.of "content", .list [Python.of_members [("type", Python.text "text"),
    ("text", .str half_text)]])]

def half_result : Entries :=
  [(Str.of "content", .list [.dict [([0xD800], .int 1)]]), (Str.of "isError", .bool false)]

/-- `normalize` encodes strings but not keys, so half a character passes it in a key; the manager
drops the frame. -/
theorem surrogate_key_is_lost :
    payload half_library half_raw = .ok half_result ∧
      received (crates_reading half_library.floats (.number 1) half_result) half_library.floats
        (result_frame (Id.number 1).python (envelope half_library.floats half_result)) =
          some (.error .Json) ∧
      ¬ Recovers (crates_reading half_library.floats (.number 1) half_result) half_library.floats
        (.number 1) half_result := by
  have inner : (Python.Value.dict [([0xD800], .int 1)]).Fits 1 :=
    Python.fits_dict (List.nodup_singleton _)
      (List.forall_mem_singleton.mpr ⟨.singleton _, trivial, Nat.le_refl 0⟩)
  have fits : (Python.Value.dict half_result).Fits 52 := by
    have distinct : ["content", "isError"].Nodup := by decide
    change (Python.of_members [("content", _), ("isError", _)]).Fits 52
    refine Python.fits_members distinct ?_
    simp only [List.forall_mem_cons, List.not_mem_nil, false_implies, implies_true, and_true]
    exact ⟨(Python.fits_list (List.forall_mem_singleton.mpr inner)).mono (by decide),
      ⟨trivial, Nat.zero_le _⟩⟩
  have half : ¬ (Python.Value.dict half_result).Clean := by
    rintro ⟨_, ⟨⟨clean, _⟩, _⟩, _⟩
    have plain := clean 0xD800 (List.mem_singleton.mpr rfl)
    exact absurd plain (by decide)
  have typed : (Id.number 1).Typed := ⟨by decide, by decide⟩
  have lost : received (crates_reading half_library.floats (.number 1) half_result)
      half_library.floats (result_frame (Id.number 1).python
        (envelope half_library.floats half_result)) = some (.error .Json) :=
    lost_of_surrogate frame_read typed fits half
  refine ⟨by rfl, lost, ?_⟩
  rintro ⟨json, answer, result, -, arrives, -⟩
  rw [lost] at arrives
  cases arrives

end SessionManager
