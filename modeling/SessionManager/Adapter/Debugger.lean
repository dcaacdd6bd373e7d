import SessionManager.Adapter.Frames
import SessionManager.Json.Objects

/-!
# Results of the debugger

`normalize`, `payload` and `envelope` of `debugger.py`: the JSON and the XML inside the texts of
a result are decoded, and the one logical result goes out in an envelope.  Whatever `payload`
returns is a well-formed value of bounded nesting (`payload_fits`).
-/

namespace SessionManager

open Python (Str Entries Floats)

/-- An element `ET.fromstring` gives. -/
inductive Element
  | node (tag : Str) (attrib : List (Str × Str)) (text : Option Str) (children : List Element)
      (tail : Option Str)

inductive LoadsError
  | ValueError
  | RecursionError

/-- What `debugger.py` uses of Python's library. -/
structure Library where
  floats : Floats
  /-- `json.loads`; how deep a text and how long an integer it reads before it raises depends on the
  interpreter and its limits. -/
  loads : Str → Except LoadsError Python.Value
  /-- `ET.fromstring`; none for a `ParseError` or a `ValueError`. -/
  fromstring : Str → Option Element
  upper : Str → Str

/-! ## Strings -/

def isspace (c : Python.Code) : Bool :=
  (0x09 ≤ c.val && c.val ≤ 0x0D) || (0x1C ≤ c.val && c.val ≤ 0x20) || c.val == 0x85 ||
    c.val == 0xA0 || c.val == 0x1680 || (0x2000 ≤ c.val && c.val ≤ 0x200A) || c.val == 0x2028 ||
    c.val == 0x2029 || c.val == 0x202F || c.val == 0x205F || c.val == 0x3000

def strip (s : Str) : Str :=
  ((s.dropWhile isspace).reverse.dropWhile isspace).reverse

def startswith (s : Str) (start : String) : Bool := (Str.of start).isPrefixOf s

/-- `needle in s` -/
def contains (needle s : Str) : Bool :=
  s.tails.any fun rest => needle.isPrefixOf rest

/-- The bytes of a code point in UTF-8. -/
def utf8 (c : Python.Code) : List Nat :=
  if c.val < 0x80 then [c.val]
  else if c.val < 0x800 then [0xC0 + c.val / 0x40, 0x80 + c.val % 0x40]
  else if c.val < 0x10000 then
    [0xE0 + c.val / 0x1000, 0x80 + c.val / 0x40 % 0x40, 0x80 + c.val % 0x40]
  else [0xF0 + c.val / 0x40000, 0x80 + c.val / 0x1000 % 0x40, 0x80 + c.val / 0x40 % 0x40,
    0x80 + c.val % 0x40]

/-- `len(s.encode("utf-8"))`, which raises on surrogates. -/
def encoded_len (s : Str) : Except Raised Nat :=
  if s.any Python.Code.surrogate then .error .Exception
  else .ok (s.flatMap utf8).length

/-! ## `normalize` -/

variable (library : Library)

/-- What a text is: JSON, XML, or just a text. -/
inductive Decoded
  | json (parsed : Python.Value)
  | xml (element : Element)
  | plain

def decoded_xml (stripped : Str) : Except Raised Decoded :=
  if !startswith stripped "<" then .ok .plain
  else if contains (Str.of "<!DOCTYPE") (library.upper stripped) ||
      contains (Str.of "<!ENTITY") (library.upper stripped) then .error .UnsupportedContent
  else
    match library.fromstring stripped with
    | some element => .ok (.xml element)
    | none => .ok .plain

def decoded_json (stripped : Str) : Except Raised Decoded :=
  if startswith stripped "\x7b" || startswith stripped "[" || startswith stripped "\"" then
    match library.loads stripped with
    | .ok parsed => .ok (.json parsed)
    | .error .RecursionError => .error .UnsupportedContent
    | .error .ValueError => decoded_xml library stripped
  else decoded_xml library stripped

/-- The branch of `normalize` for a `str`. -/
def decoded (s : Str) : Except Raised Decoded :=
  match encoded_len s with
  | .error error => .error error
  | .ok len =>
    if len > 262144 then .error .UnsupportedContent else decoded_json library (strip s)

/-- Computations that count the values they visit. -/
abbrev Budgeted := StateT Nat (Except Raised)

/-- `budget[0] += 1`, and whether it is used up. -/
def exhausted : Budgeted Bool := fun budget => .ok (budget + 1 > 20000, budget + 1)

mutual

/-- The first argument is the number of levels left; `depth` counts the levels used. -/
def normalize : Nat → Python.Value → Budgeted Python.Value
  | 0, _ => throw .UnsupportedContent
  | left + 1, value => do
    if ← exhausted then throw .UnsupportedContent
    else
      match value with
      | .dict entries =>
        return .dict (← entries.mapM fun entry => return (entry.1, ← normalize left entry.2))
      | .list items => return .list (← items.mapM fun item => normalize left item)
      | .str s =>
        match ← decoded library s with
        | .json parsed => normalize left parsed
        | .xml element => node left element
        | .plain => return .str s
      | .float (.finite text) => return .float (.finite text)
      | .float _ => throw .UnsupportedContent
      | .None => return .None
      | .bool b => return .bool b
      | .int n => return .int n

def node : Nat → Element → Budgeted Python.Value
  | 0, _ => throw .UnsupportedContent
  | left + 1, .node tag attrib text children tail => do
    let attributes ← normalize left (.dict (attrib.map fun entry => (entry.1, .str entry.2)))
    let text ← normalize left (.str (text.getD []))
    let children ← children.mapM fun child => node left child
    let tail ← normalize left (.str (tail.getD []))
    return Python.of_members [("tag", .str tag), ("attributes", attributes), ("text", text),
      ("children", .list children), ("tail", tail)]

end

/-- `normalize(value)` -/
def normalized (value : Python.Value) : Except Raised Python.Value :=
  (normalize library 25 value).run' 0

/-! ### What it returns -/

section Gives

variable {α β : Type}

/-- Whatever the computation returns has the property. -/
def Gives (P : α → Prop) (m : Budgeted α) : Prop :=
  ∀ budget a budget', m budget = .ok (a, budget') → P a

theorem gives_pure {P : α → Prop} {a : α} (holds : P a) : Gives P (pure a : Budgeted α) := by
  intro budget b budget' same
  cases same
  exact holds

theorem gives_throw {P : α → Prop} (error : Raised) : Gives P (throw error : Budgeted α) := by
  intro budget b budget' same
  cases same

theorem Gives.bind {P : α → Prop} {Q : β → Prop} {m : Budgeted α} {f : α → Budgeted β}
    (first : Gives P m) (next : ∀ a, P a → Gives Q (f a)) : Gives Q (m >>= f) := by
  intro budget b budget' same
  change (m budget).bind (fun result => f result.1 result.2) = .ok (b, budget') at same
  cases ran : m budget with
  | error error =>
    rw [ran] at same
    cases same
  | ok result =>
    rw [ran] at same
    exact next result.1 (first _ _ _ ran) _ _ _ same

theorem Gives.mono {P Q : α → Prop} {m : Budgeted α} (gives : Gives P m)
    (weaker : ∀ a, P a → Q a) : Gives Q m :=
  fun budget a budget' same => weaker a (gives budget a budget' same)

theorem gives_lift (m : Except Raised α) : Gives (fun a => m = .ok a) (liftM m : Budgeted α) := by
  intro budget a budget' same
  cases m with
  | error error => cases same
  | ok b =>
    cases same
    rfl

theorem gives_any (m : Budgeted α) : Gives (fun _ => True) m := fun _ _ _ _ => trivial

theorem gives_mapM {R : α → β → Prop} {f : α → Budgeted β} {l : List α}
    (each : ∀ x ∈ l, Gives (R x) (f x)) : Gives (List.Forall₂ R l) (l.mapM f) := by
  induction l with
  | nil => exact gives_pure .nil
  | cons x rest ih =>
    obtain ⟨here, others⟩ := List.forall_mem_cons.mp each
    rw [List.mapM_cons]
    exact here.bind fun y own => (ih others).bind fun ys later => gives_pure (.cons own later)

end Gives

mutual

/-- Attributes are distinct, and the strings hold no halves of characters. -/
def Element.WellFormed : Element → Prop
  | .node tag attrib text children tail =>
    tag.Apart ∧ (attrib.map Prod.fst).Nodup ∧
      (∀ entry ∈ attrib, entry.1.Apart ∧ entry.2.Apart) ∧ (text.getD []).Apart ∧
      (tail.getD []).Apart ∧ Element.WellFormedChildren children

def Element.WellFormedChildren : List Element → Prop
  | [] => True
  | child :: rest => child.WellFormed ∧ Element.WellFormedChildren rest

end

theorem Element.wellFormed_of_mem {children : List Element}
    (formed : Element.WellFormedChildren children) : ∀ child ∈ children, child.WellFormed := by
  induction children with
  | nil => exact fun child absent => by cases absent
  | cons child rest ih => exact List.forall_mem_cons.mpr ⟨formed.1, ih formed.2⟩

/-- The parsers of Python's library give well-formed values. -/
structure Library.Sound : Prop where
  loads : ∀ s v, library.loads s = .ok v → v.WellFormed
  fromstring : ∀ s element, library.fromstring s = some element → element.WellFormed

variable {library}

def Decoded.WellFormed : Decoded → Prop
  | .json parsed => parsed.WellFormed
  | .xml element => element.WellFormed
  | .plain => True

theorem formed_of_decoded_xml (sound : library.Sound) {s : Str} {text : Decoded}
    (decodes : decoded_xml library s = .ok text) : text.WellFormed := by
  unfold decoded_xml at decodes
  split at decodes
  · cases decodes
    trivial
  · split at decodes
    · cases decodes
    · split at decodes
      · rename_i parsed
        cases decodes
        exact sound.fromstring _ _ parsed
      · cases decodes
        trivial

theorem formed_of_decoded_json (sound : library.Sound) {s : Str} {text : Decoded}
    (decodes : decoded_json library s = .ok text) : text.WellFormed := by
  unfold decoded_json at decodes
  split at decodes
  · split at decodes
    · rename_i loaded
      cases decodes
      exact sound.loads _ _ loaded
    · cases decodes
    · exact formed_of_decoded_xml sound decodes
  · exact formed_of_decoded_xml sound decodes

theorem formed_of_decoded (sound : library.Sound) {s : Str} {text : Decoded}
    (decodes : decoded library s = .ok text) : text.WellFormed := by
  unfold decoded at decodes
  split at decodes
  · cases decodes
  · split at decodes
    · cases decodes
    · exact formed_of_decoded_json sound decodes

/-- A text that can be encoded has no surrogates. -/
theorem clean_of_encoded_len {s : Str} {n : Nat} (encoded : encoded_len s = .ok n) : s.Clean := by
  unfold encoded_len at encoded
  split at encoded
  · cases encoded
  · rename_i none
    intro c member
    rw [← Bool.not_eq_true]
    exact fun surrogate => none (List.any_eq_true.mpr ⟨c, member, surrogate⟩)

/-- A dictionary or a list with these keys adds a level. -/
theorem fits_of_pairs {entries others : Entries} {n : Nat}
    (distinct : (entries.map Prod.fst).Nodup) (apart : ∀ entry ∈ entries, entry.1.Apart)
    (pairs : List.Forall₂ (fun entry other => other.1 = entry.1 ∧ other.2.Fits n) entries others) :
    (Python.Value.dict others).Fits (n + 1) := by
  have keys : others.map Prod.fst = entries.map Prod.fst := by
    clear distinct apart
    induction pairs with
    | nil => rfl
    | cons here _ ih => rw [List.map_cons, List.map_cons, here.1, ih]
  refine Python.fits_dict (keys ▸ distinct) fun other member => ?_
  obtain ⟨entry, there, same, fits⟩ := Json.exists_of_forall₂ pairs.flip member
  exact ⟨same ▸ apart entry there, fits⟩

mutual

theorem normalize_fits (sound : library.Sound) : ∀ (left : Nat) {v : Python.Value}, v.WellFormed →
    Gives (Python.Value.Fits (2 * left)) (normalize library left v)
  | 0, _, _ => gives_throw _
  | left + 1, v, formed => by
    have deeper {u : Python.Value} {n : Nat} (fits : u.Fits n) (le : n ≤ 2 * left + 1) :
        u.Fits (2 * (left + 1)) := fits.mono (by omega)
    unfold normalize
    refine (gives_any _).bind fun spent _ => ?_
    split
    · exact gives_throw _
    cases v with
    | dict entries =>
      refine (gives_mapM fun entry member => ?_).bind fun others pairs =>
        gives_pure (deeper (fits_of_pairs formed.1
          (fun entry there => (Python.wellFormed_of_mem_entries formed.2 entry there).1) pairs)
          (Nat.le_refl _))
      have own := (Python.wellFormed_of_mem_entries formed.2 entry member).2
      exact (normalize_fits sound left own).bind fun u fits => gives_pure ⟨rfl, fits⟩
    | list items =>
      refine (gives_mapM fun item member =>
        normalize_fits sound left (Python.wellFormed_of_mem_items formed item member)).bind
          fun others pairs => gives_pure (deeper (Python.fits_list fun other there => ?_)
            (Nat.le_refl _))
      obtain ⟨_, _, fits⟩ := Json.exists_of_forall₂ pairs.flip there
      exact fits
    | str s =>
      refine (gives_lift _).bind fun text decodes => ?_
      have sub := formed_of_decoded sound decodes
      cases text with
      | json parsed =>
        exact (normalize_fits sound left sub).mono fun u fits => deeper fits (by omega)
      | xml element =>
        exact (node_fits sound left sub).mono fun u fits => deeper fits (by omega)
      | plain => exact gives_pure ⟨formed, Nat.zero_le _⟩
    | float x =>
      cases x with
      | finite text => exact gives_pure ⟨trivial, Nat.zero_le _⟩
      | nan | inf => exact gives_throw _
    | None | bool b | int n => exact gives_pure ⟨trivial, Nat.zero_le _⟩

theorem node_fits (sound : library.Sound) : ∀ (left : Nat) {element : Element},
    element.WellFormed → Gives (Python.Value.Fits (2 * left)) (node library left element)
  | 0, _, _ => gives_throw _
  | left + 1, .node tag attrib text children tail, formed => by
    obtain ⟨own_tag, distinct, own_attrib, own_text, own_tail, own_children⟩ := formed
    have given : (Python.Value.dict
        (attrib.map fun entry => (entry.1, .str entry.2))).WellFormed := by
      apply And.left
      apply Python.fits_dict (n := 0)
      · rwa [List.map_map]
      · intro entry member
        obtain ⟨own, there, rfl⟩ := List.mem_map.mp member
        exact ⟨(own_attrib own there).1, (own_attrib own there).2, Nat.zero_le _⟩
    unfold node
    refine (normalize_fits sound left given).bind fun attributes fits_attributes => ?_
    refine (normalize_fits sound left (v := .str _) own_text).bind fun text fits_text => ?_
    refine (gives_mapM fun child member =>
      node_fits sound left (Element.wellFormed_of_mem own_children child member)).bind
        fun others pairs => ?_
    refine (normalize_fits sound left (v := .str _) own_tail).bind fun tail fits_tail => gives_pure ?_
    have fits_others : (Python.Value.list others).Fits (2 * left + 1) := by
      refine Python.fits_list fun other there => ?_
      obtain ⟨_, _, fits⟩ := Json.exists_of_forall₂ pairs.flip there
      exact fits
    have more {u : Python.Value} (fits : u.Fits (2 * left)) : u.Fits (2 * left + 1) :=
      fits.mono (Nat.le_succ _)
    have distinct : ["tag", "attributes", "text", "children", "tail"].Nodup := by decide
    refine Python.fits_members ?_ ?_
    · exact distinct
    simp only [List.forall_mem_cons, List.not_mem_nil, false_implies, implies_true, and_true]
    exact ⟨⟨own_tag, Nat.zero_le _⟩, more fits_attributes, more fits_text, fits_others,
      more fits_tail⟩

end

/-! ## `payload` and `envelope` -/

variable (library)

/-- The values a loop over `raw.get("content", [])` visits. -/
def iterate : Option Python.Value → Except Raised (List Python.Value)
  | none => .ok []
  | some (.list items) => .ok items
  | some (.str s) => .ok (s.map fun c => .str [c])
  | some (.dict entries) => .ok (entries.map fun entry => .str entry.1)
  | some _ => .error .Exception

def normalized_block : Python.Value → Except Raised Python.Value
  | .dict block =>
    match Python.get block "type" with
    | some (.str type) =>
      if type = Str.of "text" then
        normalized library ((Python.get block "text").getD (Python.text ""))
      else if type = Str.of "json" then normalized library ((Python.get block "json").getD .None)
      else .error .UnsupportedContent
    | _ => .error .UnsupportedContent
  | _ => .error .Exception

/-- The keys a result may have. -/
def known_keys : List Str :=
  ["content", "structuredContent", "isError", "_meta"].map Str.of

def is_error (result : Entries) : Bool :=
  ((Python.get result "isError").getD (.bool false)).truthy

/-- The members of the logical result; the last one is there if the raw result has it. -/
def result_members (raw : Entries) (content : List Python.Value) :
    Option Python.Value → Entries
  | none => [(Str.of "content", .list content), (Str.of "isError", .bool (is_error raw))]
  | some structured => [(Str.of "content", .list content), (Str.of "isError", .bool (is_error raw)),
      (Str.of "structuredContent", structured)]

def payload (raw : Entries) : Except Raised Entries := do
  let len ← encoded_len ((Python.Value.dict raw).dumps library.floats false)
  if len > 1048576 then throw .UnsupportedContent
  else if raw.any fun entry => entry.1 ∉ known_keys then throw .UnsupportedContent
  else
    let blocks ← iterate (Python.get raw "content")
    let content ← blocks.mapM (normalized_block library)
    match Python.get raw "structuredContent" with
    | none => return result_members raw content none
    | some value => return result_members raw content (some (← normalized library value))

def logical (result : Entries) : Python.Value :=
  Python.of_members [("schema_version", .int 1), ("result", .dict result),
    ("field_sources", .dict [])]

/-- `envelope(result)` -/
def envelope (floats : Floats) (result : Entries) : Python.Value :=
  Python.of_members [
    ("content", .list [Python.of_members
      [("type", Python.text "text"), ("text", .str ((logical result).dumps floats false))]]),
    ("is_error", .bool (is_error result))]

/-! ### What `payload` returns -/

variable {library}

theorem normalized_fits (sound : library.Sound) {v result : Python.Value} (formed : v.WellFormed)
    (returned : normalized library v = .ok result) : result.Fits 50 := by
  unfold normalized StateT.run' at returned
  cases ran : normalize library 25 v 0 with
  | error error =>
    rw [ran] at returned
    cases returned
  | ok pair =>
    rw [ran] at returned
    cases returned
    exact normalize_fits sound 25 formed _ _ _ ran

theorem bind_eq_ok {α β : Type} {m : Except Raised α} {f : α → Except Raised β} {b : β} :
    (m >>= f) = .ok b ↔ ∃ a, m = .ok a ∧ f a = .ok b := by
  cases m with
  | error error => exact ⟨fun same => (by cases same), fun ⟨_, same, _⟩ => (by cases same)⟩
  | ok a =>
    constructor
    · exact fun same => ⟨a, rfl, same⟩
    · rintro ⟨b, same, next⟩
      cases same
      exact next

theorem forall₂_of_mapM {α β : Type} {f : α → Except Raised β} {l : List α} {others : List β}
    (ran : l.mapM f = .ok others) : List.Forall₂ (fun x y => f x = .ok y) l others := by
  induction l generalizing others with
  | nil =>
    cases ran
    exact .nil
  | cons x rest ih =>
    rw [List.mapM_cons] at ran
    obtain ⟨y, here, ran⟩ := bind_eq_ok.mp ran
    obtain ⟨ys, later, ran⟩ := bind_eq_ok.mp ran
    cases ran
    exact .cons here (ih later)

theorem formed_of_get {entries : Entries} {key : String} {v : Python.Value}
    (formed : (Python.Value.dict entries).WellFormed) (found : Python.get entries key = some v) :
    v.WellFormed := by
  obtain ⟨entry, there, rfl⟩ := Python.mem_of_get found
  exact (Python.wellFormed_of_mem_entries formed.2 entry there).2

theorem formed_of_iterate {entries : Entries} {key : String} {items : List Python.Value}
    (formed : (Python.Value.dict entries).WellFormed)
    (visited : iterate (Python.get entries key) = .ok items) : ∀ v ∈ items, v.WellFormed := by
  unfold iterate at visited
  split at visited
  · cases visited
    exact fun v absent => by cases absent
  · rename_i found
    cases visited
    exact Python.wellFormed_of_mem_items (formed_of_get formed found)
  · cases visited
    intro v member
    obtain ⟨c, -, rfl⟩ := List.mem_map.mp member
    exact .singleton c
  · rename_i inner found
    cases visited
    intro v member
    obtain ⟨entry, there, rfl⟩ := List.mem_map.mp member
    exact (Python.wellFormed_of_mem_entries (formed_of_get formed found).2 entry there).1
  · cases visited

theorem normalized_block_fits (sound : library.Sound) {block result : Python.Value}
    (formed : block.WellFormed) (returned : normalized_block library block = .ok result) :
    result.Fits 50 := by
  have own {fields : Entries} (formed : (Python.Value.dict fields).WellFormed) (key : String)
      (default : Python.Value) (plain : default.WellFormed) :
      ((Python.get fields key).getD default).WellFormed := by
    cases found : Python.get fields key with
    | none => exact plain
    | some v => exact formed_of_get formed found
  unfold normalized_block at returned
  split at returned
  · split at returned
    · split at returned
      · exact normalized_fits sound
          (own formed "text" (Python.text "") (Python.apart_of_clean (Python.clean_of ""))) returned
      · split at returned
        · exact normalized_fits sound (own formed "json" .None trivial) returned
        · cases returned
    · cases returned
  · cases returned

/-- **A logical result is well-formed, and nested in 52 levels at most.** -/
theorem payload_fits (sound : library.Sound) {raw result : Entries}
    (formed : (Python.Value.dict raw).WellFormed) (returned : payload library raw = .ok result) :
    (Python.Value.dict result).Fits 52 := by
  unfold payload at returned
  obtain ⟨len, -, returned⟩ := bind_eq_ok.mp returned
  split at returned
  · cases returned
  split at returned
  · cases returned
  obtain ⟨blocks, visited, returned⟩ := bind_eq_ok.mp returned
  obtain ⟨content, ran, returned⟩ := bind_eq_ok.mp returned
  have fits_content : (Python.Value.list content).Fits 51 := by
    refine Python.fits_list fun v member => ?_
    obtain ⟨block, there, own⟩ := Json.exists_of_forall₂ (forall₂_of_mapM ran).flip member
    exact normalized_block_fits sound (formed_of_iterate formed visited block there) own
  have fits_flag : (Python.Value.bool (is_error raw)).Fits 51 := ⟨trivial, Nat.zero_le _⟩
  split at returned
  · cases returned
    have distinct : ["content", "isError"].Nodup := by decide
    change (Python.of_members [("content", _), ("isError", _)]).Fits 52
    refine Python.fits_members distinct ?_
    simp only [List.forall_mem_cons, List.not_mem_nil, false_implies, implies_true, and_true]
    exact ⟨fits_content, fits_flag⟩
  · rename_i value found
    obtain ⟨structured, own, returned⟩ := bind_eq_ok.mp returned
    cases returned
    have fits_structured := (normalized_fits sound (formed_of_get formed found) own).mono
      (Nat.le_succ 50)
    have distinct : ["content", "isError", "structuredContent"].Nodup := by decide
    change (Python.of_members [("content", _), ("isError", _), ("structuredContent", _)]).Fits 52
    refine Python.fits_members distinct ?_
    simp only [List.forall_mem_cons, List.not_mem_nil, false_implies, implies_true, and_true]
    exact ⟨fits_content, fits_flag, fits_structured⟩

end SessionManager
