import SessionManager.Json

/-!
# Reading JSON into structures

What the `Deserialize` that `serde` derives makes of a value whose members stand as they do in
the text, repeated keys included.  A structure is read from an object, or from an array of its
fields in order; with `deny_unknown_fields` every key is a field, and no field comes twice.
-/

namespace Json

/-- The members of a structure with these fields. -/
def members (names : List String) : Value → Option Fields
  | .object fields =>
    if (fields.map Prod.fst).Nodup ∧ ∀ key ∈ fields.map Prod.fst, key ∈ names then some fields
    else none
  | .array items => if items.length ≤ names.length then some (names.zip items) else none
  | _ => none

/-- The members of a structure with these fields; a key that is no field is passed over. -/
def known_members (names : List String) : Value → Option Fields
  | .object fields =>
    if ((fields.map Prod.fst).filter (· ∈ names)).Nodup then some fields else none
  | .array items => if items.length ≤ names.length then some (names.zip items) else none
  | _ => none

theorem known_members_object {names : List String} {fields : Fields}
    (distinct : (fields.map Prod.fst).Nodup) :
    known_members names (.object fields) = some fields := if_pos (distinct.filter _)

def string_field (fields : Fields) (name : String) : Option String :=
  (field fields name).bind Value.as_str

/-- A field of an unsigned type, whose largest value is `max`. -/
def uint_field (max : Nat) (fields : Fields) (name : String) : Option Nat :=
  match field fields name with
  | some (.number (.int n)) => if 0 ≤ n ∧ n ≤ max then some n.toNat else none
  | _ => none

def u8_field : Fields → String → Option Nat := uint_field 255

def u32_field : Fields → String → Option Nat := uint_field 4294967295

/-- An optional text that may be left out. -/
def optional_field (fields : Fields) (name : String) : Option (Option String) :=
  match field fields name with
  | none | some .null => some none
  | some (.string s) => some (some s)
  | _ => none

def Value.as_array : Value → Option (List Value)
  | .array items => some items
  | _ => none

/-- An optional `u32` that may be left out. -/
def optional_u32_field (fields : Fields) (name : String) : Option (Option Nat) :=
  match field fields name with
  | none | some .null => some none
  | some _ => (u32_field fields name).map some

/-- An optional list that may be left out. -/
def optional_items_field (fields : Fields) (name : String) : Option (Option (List Value)) :=
  match field fields name with
  | none | some .null => some none
  | some value => value.as_array.map some

def Value.as_u64 : Value → Option Nat
  | .number (.int n) => if 0 ≤ n ∧ n < 2 ^ 64 then some n.toNat else none
  | _ => none

def Value.as_i64 : Value → Option Int
  | .number (.int n) => if -2 ^ 63 ≤ n ∧ n < 2 ^ 63 then some n else none
  | _ => none

mutual

/-- The `Value` of a text: objects are maps, the last of several members with a key stays. -/
def Value.collect : Value → Value
  | .array items => .array (collectItems items)
  | .object fields => .object (collectFields fields [])
  | value => value

def collectItems : List Value → List Value
  | [] => []
  | x :: rest => x.collect :: collectItems rest

def collectFields : Fields → Fields → Fields
  | [], map => map
  | (k, v) :: rest, map => collectFields rest (insert k v.collect map)

end

/-! ## Maps -/

theorem collectItems_eq (items : List Value) : collectItems items = items.map Value.collect := by
  induction items with
  | nil => rfl
  | cons x rest ih => rw [collectItems, ih, List.map_cons]

/-- What a map is given later does not touch other keys. -/
theorem field_collect_of_notMem {fields map : Fields} {key : String}
    (absent : key ∉ fields.map Prod.fst) : field (collectFields fields map) key = field map key := by
  induction fields generalizing map with
  | nil => rfl
  | cons entry rest ih =>
    obtain ⟨k, v⟩ := entry
    rw [List.map_cons, List.mem_cons, not_or] at absent
    rw [collectFields, ih absent.2, field_insert, if_neg (Ne.symm absent.1)]

/-- Distinct keys keep their values. -/
theorem field_collect {fields : Fields} (map : Fields) {key : String}
    (distinct : (fields.map Prod.fst).Nodup) (present : key ∈ fields.map Prod.fst) :
    field (collectFields fields map) key = (field fields key).map Value.collect := by
  induction fields generalizing map with
  | nil => cases present
  | cons entry rest ih =>
    obtain ⟨k, v⟩ := entry
    rw [List.map_cons, List.nodup_cons] at distinct
    rw [List.map_cons, List.mem_cons] at present
    rw [collectFields, field_cons]
    by_cases same : k = key
    · subst same
      rw [field_collect_of_notMem distinct.1, field_insert, if_pos rfl, if_pos rfl, Option.map_some]
    · rw [if_neg same]
      exact ih _ distinct.2 (present.resolve_left (Ne.symm same))

/-- Two objects with the same distinct keys that are the same map have the same members. -/
theorem collect_members_eq {xs ys : Fields} (keys : xs.map Prod.fst = ys.map Prod.fst)
    (distinct : (xs.map Prod.fst).Nodup) (same : collectFields xs [] = collectFields ys []) :
    xs.map (fun entry => entry.2.collect) = ys.map fun entry => entry.2.collect := by
  have found : ∀ key ∈ xs.map Prod.fst,
      (field xs key).map Value.collect = (field ys key).map Value.collect := by
    intro key present
    rw [← field_collect [] distinct present, same,
      field_collect [] (keys ▸ distinct) (keys ▸ present)]
  clear same
  induction xs generalizing ys with
  | nil =>
    rw [List.map_nil, eq_comm, List.map_eq_nil_iff] at keys
    rw [keys]
  | cons entry xs ih =>
    cases ys with
    | nil => cases keys
    | cons entry' ys =>
      obtain ⟨k, x⟩ := entry
      obtain ⟨k', y⟩ := entry'
      obtain ⟨own, others⟩ := List.cons.inj keys
      dsimp only at own
      subst own
      rw [List.map_cons, List.nodup_cons] at distinct
      have here := found k (List.mem_cons_self ..)
      rw [field_cons, field_cons, if_pos rfl, if_pos rfl] at here
      rw [List.map_cons, List.map_cons, Option.some.inj here]
      congr 1
      apply ih others distinct.2
      intro key present
      have other : k ≠ key := fun same => distinct.1 (same ▸ present)
      have there := found key (List.mem_cons_of_mem _ present)
      rwa [field_cons, field_cons, if_neg other, if_neg other] at there

/-! ## Objects that were written -/

/-- The member of an option under `skip_serializing_if = "Option::is_none"`. -/
def skip_none (key : String) (value : Option Value) : Fields :=
  (value.map fun value => (key, value)).toList

theorem field_skip_none (k key : String) (value : Option Value) :
    field (skip_none k value) key = if k = key then value else none := by
  cases value with
  | none => exact (ite_self none).symm
  | some value => exact field_cons key k value []

theorem keys_skip_none_sublist (key : String) (value : Option Value) :
    ((skip_none key value).map Prod.fst).Sublist [key] := by
  cases value with
  | none => exact List.nil_sublist _
  | some value => exact List.Sublist.refl _

variable {names : List String} {fields : Fields}

/-- An object whose keys are fields. -/
theorem members_object (keys : List String) (own : fields.map Prod.fst = keys) (nodup : keys.Nodup)
    (known : ∀ key ∈ keys, key ∈ names) : members names (.object fields) = some fields := by
  subst own
  exact if_pos ⟨nodup, known⟩

theorem uint_field_eq_some_iff {name : String} {max n : Nat} : uint_field max fields name = some n ↔
    field fields name = some (.number (.int n)) ∧ n ≤ max := by
  unfold uint_field
  split
  · rename_i m found
    rw [found]
    split
    · simp only [Option.some.injEq, Value.number.injEq, Number.int.injEq]
      omega
    · simp only [reduceCtorEq, Option.some.injEq, Value.number.injEq, Number.int.injEq, false_iff]
      omega
  · rename_i other
    simp only [reduceCtorEq, false_iff, not_and]
    exact fun found => absurd found (other n)

theorem u8_field_of_le (name : String) {n : Nat} (small : n ≤ 255)
    (found : field fields name = some (.number (.int n))) : u8_field fields name = some n :=
  uint_field_eq_some_iff.mpr ⟨found, small⟩

theorem u32_field_of_le (name : String) {n : Nat} (small : n ≤ 4294967295)
    (found : field fields name = some (.number (.int n))) : u32_field fields name = some n :=
  uint_field_eq_some_iff.mpr ⟨found, small⟩

theorem optional_field_of_map {name : String} {text : Option String}
    (found : field fields name = text.map .string) : optional_field fields name = some text := by
  rw [optional_field, found]
  cases text <;> rfl

theorem optional_u32_field_of_map {name : String} {number : Option Nat}
    (small : ∀ n ∈ number, n ≤ 4294967295)
    (found : field fields name = number.map fun n => .number (.int n)) :
    optional_u32_field fields name = some number := by
  cases number with
  | none =>
    rw [optional_u32_field, found]
    rfl
  | some n =>
    rw [optional_u32_field, found, Option.map_some, u32_field_of_le name (small n rfl) found]
    rfl

/-- Items that are read back one by one. -/
theorem mapM_map_eq {α β : Type} {f : α → β} {g : β → Option α} {l : List α}
    (back : ∀ x ∈ l, g (f x) = some x) : (l.map f).mapM g = some l := by
  induction l with
  | nil => rfl
  | cons x l ih =>
    have rest := ih fun y member => back y (List.mem_cons_of_mem x member)
    rw [List.map_cons, List.mapM_cons, back x (List.mem_cons_self ..), rest]
    rfl

end Json
