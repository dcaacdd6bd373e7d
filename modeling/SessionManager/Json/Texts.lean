import SessionManager.Json.Paths
import Mathlib.Data.String.Basic

/-!
# What comes back from a text

`serde_json` reads a text that it wrote up to two things: it gives up where values are nested too
deep, and a float may come back as another one.  What else a `Value` may hold (`Value.Held`) comes
back as it was, in a `Value` as well as in a structure.
-/

namespace Json

variable {read : String → Option String} {items : List Value} {fields : Fields} {n : Nat}

/-! ## Levels -/

mutual

/-- The levels of arrays and objects. -/
def Value.nest : Value → Nat
  | .array items => nestItems items + 1
  | .object fields => nestFields fields + 1
  | _ => 0

def nestItems : List Value → Nat
  | [] => 0
  | x :: rest => max x.nest (nestItems rest)

def nestFields : Fields → Nat
  | [] => 0
  | (_, v) :: rest => max v.nest (nestFields rest)

end

/-- The levels that `serde_json` reads: `remaining_depth` starts at 128, and may not reach 0. -/
def recursion_limit : Nat := 127

@[simp] theorem nest_string (s : String) : (Value.string s).nest = 0 := rfl

@[simp] theorem nest_number (n : Number) : (Value.number n).nest = 0 := rfl

theorem nest_array_le : (Value.array items).nest ≤ n + 1 ↔ ∀ item ∈ items, item.nest ≤ n := by
  rw [Value.nest, Nat.add_le_add_iff_right]
  induction items with
  | nil => simp [nestItems]
  | cons item rest ih => simp [nestItems, ih]

theorem nest_object_le :
    (Value.object fields).nest ≤ n + 1 ↔ ∀ entry ∈ fields, entry.2.nest ≤ n := by
  rw [Value.nest, Nat.add_le_add_iff_right]
  induction fields with
  | nil => simp [nestFields]
  | cons entry rest ih =>
    obtain ⟨k, v⟩ := entry
    simp [nestFields, ih]

/-! ## Floats -/

mutual

/-- The value that is read in the text of a value; `read` gives the float that is read in the text
of a float, or none if it is out of range. -/
def Value.reread (read : String → Option String) : Value → Option Value
  | .number (.float text) => (read text).map fun text => .number (.float text)
  | .array items => (rereadItems read items).map .array
  | .object fields => (rereadFields read fields).map .object
  | value => some value

def rereadItems (read : String → Option String) : List Value → Option (List Value)
  | [] => some []
  | x :: rest => do
    let x ← x.reread read
    return x :: (← rereadItems read rest)

def rereadFields (read : String → Option String) : Fields → Option Fields
  | [] => some []
  | (k, v) :: rest => do
    let v ← v.reread read
    return (k, v) :: (← rereadFields read rest)

end

/-- Every float inside is read as it is printed. -/
inductive Value.Exact (read : String → Option String) : Value → Prop
  | null : Exact read .null
  | bool (b : Bool) : Exact read (.bool b)
  | int (n : Int) : Exact read (.number (.int n))
  | float {text : String} (same : read text = some text) : Exact read (.number (.float text))
  | string (s : String) : Exact read (.string s)
  | array {items : List Value} (inside : ∀ item ∈ items, Exact read item) : Exact read (.array items)
  | object {fields : Fields} (inside : ∀ entry ∈ fields, Exact read entry.2) :
      Exact read (.object fields)

theorem rereadItems_eq (items : List Value) :
    rereadItems read items = items.mapM (Value.reread read) := by
  induction items with
  | nil => rfl
  | cons item rest ih => rw [rereadItems, ih, List.mapM_cons]

theorem rereadFields_eq (fields : Fields) : rereadFields read fields =
    fields.mapM fun entry => (entry.2.reread read).map fun value => (entry.1, value) := by
  induction fields with
  | nil => rfl
  | cons entry rest ih =>
    obtain ⟨k, v⟩ := entry
    rw [rereadFields, ih, List.mapM_cons]
    cases v.reread read <;> rfl

theorem mapM_self_iff {α : Type} {f : α → Option α} {l : List α} :
    l.mapM f = some l ↔ ∀ x ∈ l, f x = some x := by
  rw [mapM_eq_some_iff, List.forall₂_same]

theorem exact_array_iff : (Value.array items).Exact read ↔ ∀ item ∈ items, item.Exact read := by
  constructor
  · intro whole
    cases whole with
    | array inside => exact inside
  · exact .array

theorem exact_object_iff :
    (Value.object fields).Exact read ↔ ∀ entry ∈ fields, entry.2.Exact read := by
  constructor
  · intro whole
    cases whole with
    | object inside => exact inside
  · exact .object

/-- A value comes back as it was exactly if its floats do. -/
theorem reread_eq_self_iff (value : Value) :
    value.reread read = some value ↔ value.Exact read := by
  induction value using Value.induction with
  | null => exact iff_of_true rfl .null
  | bool b => exact iff_of_true rfl (.bool b)
  | number n =>
    cases n with
    | int n => exact iff_of_true rfl (.int n)
    | float text =>
      constructor
      · intro same
        refine .float ?_
        simpa [Value.reread] using same
      · intro whole
        cases whole with
        | float same => simp [Value.reread, same]
  | string s => exact iff_of_true rfl (.string s)
  | array items ih =>
    rw [exact_array_iff, ← forall₂_congr ih, ← mapM_self_iff, ← rereadItems_eq, Value.reread]
    simp
  | object fields ih =>
    have each : ∀ entry ∈ fields, ((entry.2.reread read).map fun value => (entry.1, value)) =
        some entry ↔ entry.2.Exact read := by
      intro entry member
      rw [← ih entry member]
      obtain ⟨k, v⟩ := entry
      simp
    rw [exact_object_iff, ← forall₂_congr each, ← mapM_self_iff, ← rereadFields_eq, Value.reread]
    simp

/-! ## What a `Value` may hold -/

/-- Integers are those of 64 bits, and the keys of an object are in the order of its map. -/
inductive Value.Held : Value → Prop
  | null : Held .null
  | bool (b : Bool) : Held (.bool b)
  | int {n : Int} (fits : -2 ^ 63 ≤ n ∧ n < 2 ^ 64) : Held (.number (.int n))
  | float (text : String) : Held (.number (.float text))
  | string (s : String) : Held (.string s)
  | array {items : List Value} (inside : ∀ item ∈ items, Held item) : Held (.array items)
  | object {fields : Fields} (sorted : (fields.map Prod.fst).Pairwise (· < ·))
      (inside : ∀ entry ∈ fields, Held entry.2) : Held (.object fields)

/-- A key after all others is bound at the end. -/
theorem insert_last {key : String} {value : Value}
    (after : ∀ other ∈ fields.map Prod.fst, other < key) :
    insert key value fields = fields ++ [(key, value)] := by
  induction fields with
  | nil => rfl
  | cons entry rest ih =>
    obtain ⟨k, v⟩ := entry
    have below : k < key := after k (by simp)
    rw [insert, if_neg (lt_asymm below), if_neg below.ne', List.cons_append,
      ih fun other member => after other (by simp [member])]

theorem collectFields_sorted {map : Fields} (sorted : ((map ++ fields).map Prod.fst).Pairwise (· < ·))
    (inside : ∀ entry ∈ fields, entry.2.collect = entry.2) :
    collectFields fields map = map ++ fields := by
  induction fields generalizing map with
  | nil => simp [collectFields]
  | cons entry rest ih =>
    obtain ⟨k, v⟩ := entry
    have last : insert k v map = map ++ [(k, v)] := by
      refine insert_last fun other member => ?_
      rw [List.map_append, List.pairwise_append] at sorted
      exact sorted.2.2 other member k (by simp)
    have own : v.collect = v := inside (k, v) (by simp)
    rw [collectFields, own, last, ih (by simpa using sorted) fun entry member =>
      inside entry (by simp [member]), List.append_assoc]
    rfl

/-- What a `Value` holds is read into one as it is. -/
theorem Value.Held.collect {value : Value} (held : value.Held) : value.collect = value := by
  induction held with
  | array inside ih =>
    rw [Value.collect, collectItems_eq]
    exact congrArg Value.array ((List.map_congr_left ih).trans (List.map_id _))
  | object sorted inside ih =>
    rw [Value.collect, collectFields_sorted (by simpa using sorted) ih, List.nil_append]
  | _ => rfl

section Items

variable {α β γ : Type} {f : α → Option β} {l : List α} {others : List β}

theorem mem_of_mapM (all : l.mapM f = some others) : ∀ y ∈ others, ∃ x ∈ l, f x = some y := by
  have pairs := mapM_eq_some_iff.mp all
  clear all
  induction pairs with
  | nil => simp
  | cons here _ ih =>
    intro y member
    rcases List.mem_cons.mp member with rfl | later
    · exact ⟨_, List.mem_cons_self, here⟩
    · obtain ⟨x, there, same⟩ := ih y later
      exact ⟨x, List.mem_cons_of_mem _ there, same⟩

theorem read_of_mapM (all : l.mapM f = some others) : ∀ x ∈ l, ∃ y ∈ others, f x = some y := by
  have pairs := mapM_eq_some_iff.mp all
  clear all
  induction pairs with
  | nil => simp
  | cons here _ ih =>
    intro x member
    rcases List.mem_cons.mp member with rfl | later
    · exact ⟨_, List.mem_cons_self, here⟩
    · obtain ⟨y, there, same⟩ := ih x later
      exact ⟨y, List.mem_cons_of_mem _ there, same⟩

/-- What each item keeps, the list keeps. -/
theorem map_of_mapM {g : α → γ} {h : β → γ} (keeps : ∀ x y, f x = some y → h y = g x)
    (all : l.mapM f = some others) : others.map h = l.map g := by
  have pairs := mapM_eq_some_iff.mp all
  clear all
  induction pairs with
  | nil => rfl
  | cons here _ ih => simp [keeps _ _ here, ih]

end Items

theorem keys_reread {fields' : Fields} (back : rereadFields read fields = some fields') :
    fields'.map Prod.fst = fields.map Prod.fst := by
  rw [rereadFields_eq] at back
  refine map_of_mapM (fun entry entry' same => ?_) back
  obtain ⟨value, -, rfl⟩ := Option.map_eq_some_iff.mp same
  rfl

/-- Floats come back as floats, so the value may be held again. -/
theorem Value.Held.reread {value value' : Value} (held : value.Held)
    (back : value.reread read = some value') : value'.Held := by
  induction held generalizing value' with
  | null | bool b | string s =>
    cases back
    constructor
  | int fits =>
    cases back
    exact .int fits
  | float text =>
    obtain ⟨text', -, rfl⟩ := Option.map_eq_some_iff.mp back
    exact .float text'
  | array inside ih =>
    rw [Value.reread, rereadItems_eq] at back
    obtain ⟨items', all, rfl⟩ := Option.map_eq_some_iff.mp back
    refine .array fun item' member => ?_
    obtain ⟨item, there, same⟩ := mem_of_mapM all item' member
    exact ih item there same
  | object sorted inside ih =>
    rw [Value.reread] at back
    obtain ⟨fields', all, rfl⟩ := Option.map_eq_some_iff.mp back
    refine .object (by rwa [keys_reread all]) fun entry' member => ?_
    rw [rereadFields_eq] at all
    obtain ⟨entry, there, same⟩ := mem_of_mapM all entry' member
    obtain ⟨value, back, rfl⟩ := Option.map_eq_some_iff.mp same
    exact ih entry there back

/-! ## Texts -/

/-- `serde_json` reads the text it wrote of a value, if the value is not nested too deep. -/
def ReadsText (parse : String → Option Value) (read : String → Option String) (value : Value) : Prop :=
  parse value.text = if value.nest ≤ recursion_limit then value.reread read else none

end Json
