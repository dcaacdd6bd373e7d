import SessionManager.Json.Objects

/-!
# Paths into values

`Value.lookup` follows a path of keys and indices.  A value is another one `Without` certain
paths when nothing is left under these, and when at each other path stands what stood there: the
same scalar, an array of the same length, an object with the same keys in the same order, up to
those that are gone.
-/

namespace Json

/-- Induction over the items of arrays and the members of objects. -/
@[elab_as_elim]
theorem Value.induction {motive : Value → Prop} (null : motive .null) (bool : ∀ b, motive (.bool b))
    (number : ∀ n, motive (.number n)) (string : ∀ s, motive (.string s))
    (array : ∀ items, (∀ item ∈ items, motive item) → motive (.array items))
    (object : ∀ fields, (∀ entry ∈ fields, motive entry.2) → motive (.object fields))
    (value : Value) : motive value := by
  refine Value.rec (motive_2 := fun items => ∀ item ∈ items, motive item)
    (motive_3 := fun fields => ∀ entry ∈ fields, motive entry.2)
    (motive_4 := fun entry => motive entry.2)
    null bool number string array object ?_ ?_ ?_ ?_ ?_ value
  · simp
  · intro item rest first later
    simpa using ⟨first, later⟩
  · simp
  · intro entry rest first later other member
    rcases List.mem_cons.mp member with rfl | member
    · exact first
    · exact later other member
  · intro key inner holds
    exact holds

/-! ## What a path leads to -/

inductive Step
  | key (name : String)
  | index (i : Nat)
  deriving DecidableEq, Repr

def Value.step : Value → Step → Option Value
  | .object fields, .key name => field fields name
  | .array items, .index i => items[i]?
  | _, _ => none

def Value.lookup (value : Value) : List Step → Option Value
  | [] => some value
  | step :: path => (value.step step).bind fun inner => inner.lookup path

/-- A value without what it contains, up to the keys that are kept and the number of items. -/
def Value.node (keep : String → Bool) : Value → Value
  | .array items => .array (items.map fun _ => .null)
  | .object fields => .object ((fields.filter fun entry => keep entry.1).map fun entry => (entry.1, .null))
  | value => value

section Lookup

variable {value : Value} {fields : Fields} {items : List Value} {name : String} {path rest : List Step}

@[simp] theorem lookup_nil : value.lookup [] = some value := rfl

theorem lookup_cons (step : Step) :
    value.lookup (step :: path) = (value.step step).bind fun inner => inner.lookup path := rfl

@[simp] theorem lookup_object_key :
    (Value.object fields).lookup (.key name :: path) =
      (field fields name).bind fun inner => inner.lookup path := rfl

@[simp] theorem lookup_object_index {i : Nat} :
    (Value.object fields).lookup (.index i :: path) = none := rfl

@[simp] theorem lookup_array_index {i : Nat} :
    (Value.array items).lookup (.index i :: path) = items[i]?.bind fun inner => inner.lookup path := rfl

@[simp] theorem lookup_array_key : (Value.array items).lookup (.key name :: path) = none := rfl

theorem lookup_append :
    value.lookup (path ++ rest) = (value.lookup path).bind fun inner => inner.lookup rest := by
  induction path generalizing value with
  | nil => rfl
  | cons step path ih =>
    rw [List.cons_append, lookup_cons, lookup_cons]
    cases value.step step with
    | none => rfl
    | some inner => exact ih

/-- Keeping every key that an object has is keeping every key. -/
theorem node_congr {keep keep' : String → Bool}
    (alike : ∀ fields, value = .object fields → ∀ entry ∈ fields, keep entry.1 = keep' entry.1) :
    value.node keep = value.node keep' := by
  cases value with
  | object fields =>
    have same := alike fields rfl
    rw [Value.node, Value.node, List.filter_congr same]
  | _ => rfl

end Lookup

/-! ## Members -/

/-- What a key is bound to first, replaced where it stands. -/
def set (key : String) (value : Value) : Fields → Fields
  | [] => []
  | (k, v) :: rest => if k = key then (k, value) :: rest else (k, v) :: set key value rest

section Members

variable {fields : Fields} {key name : String} {value : Value}

theorem field_set : field (set key value fields) name =
    if key = name then (field fields key).map fun _ => value else field fields name := by
  induction fields with
  | nil => simp [set, field]
  | cons entry rest ih =>
    obtain ⟨k, v⟩ := entry
    rw [set]
    by_cases same : k = key
    · subst same
      rw [if_pos rfl, field_cons, field_cons, field_cons]
      split <;> simp
    · rw [if_neg same, field_cons, field_cons, field_cons, if_neg same, ih]
      by_cases here : key = name
      · subst here
        rw [if_pos rfl, if_pos rfl, if_neg same]
      · rw [if_neg here, if_neg here]

/-- What is set is found again. -/
theorem field_set_self {bound : Value} (found : field fields key = some bound) :
    field (set key value fields) key = some value := by
  simp [field_set, found]

theorem keys_set (key : String) (value : Value) (fields : Fields) :
    (set key value fields).map Prod.fst = fields.map Prod.fst := by
  induction fields with
  | nil => rfl
  | cons entry rest ih =>
    rw [set]
    split
    · rfl
    · rw [List.map_cons, List.map_cons, ih]

theorem set_self (bound : field fields key = some value) : set key value fields = fields := by
  induction fields with
  | nil => rfl
  | cons entry rest ih =>
    obtain ⟨k, v⟩ := entry
    rw [field_cons] at bound
    rw [set]
    by_cases same : k = key
    · rw [if_pos same] at bound ⊢
      rw [Option.some.inj bound]
    · rw [if_neg same] at bound ⊢
      rw [ih bound]

theorem field_filter (keep : String → Bool) :
    field (fields.filter fun entry => keep entry.1) name =
      if keep name then field fields name else none := by
  induction fields with
  | nil => simp [field]
  | cons entry rest ih =>
    obtain ⟨k, v⟩ := entry
    rw [List.filter_cons]
    by_cases same : k = name
    · subst same
      by_cases held : keep k = true
      · simp [held, field_cons]
      · simp [held, ih]
    · by_cases held : keep k = true
      · simp [held, field_cons, same, ih]
      · simp [held, field_cons, same, ih]

end Members

/-! ## Values without some of their paths -/

/-- What is left of a value when the members at certain paths are taken away. -/
structure Without (gone : List Step → Bool) (value value' : Value) : Prop where
  absent : ∀ path, gone path = true → value'.lookup path = none
  kept : ∀ path, gone path = false →
    (value'.lookup path).map (Value.node fun _ => true) =
      (value.lookup path).map (Value.node fun name => !gone (path ++ [.key name]))
  same : ∀ path, (∀ rest, gone (path ++ rest) = false) → value'.lookup path = value.lookup path

namespace Without

variable {gone : List Step → Bool} {value value' : Value} {fields fields' : Fields}
  {items items' : List Value} {key : String}

/-- Nothing is taken away where there is nothing. -/
theorem refl (nowhere : ∀ path, gone path = true → value.lookup path = none) :
    Without gone value value := by
  refine ⟨nowhere, fun path _ => ?_, fun _ _ => rfl⟩
  cases there : value.lookup path with
  | none => rfl
  | some inner =>
    rw [Option.map_some, Option.map_some]
    congr 1
    refine node_congr fun fields object entry member => ?_
    have bound : (field fields entry.1).isSome := field_isSome_iff.mpr (List.mem_map_of_mem member)
    by_contra differ
    have missing := nowhere (path ++ [.key entry.1]) (by simpa using differ)
    rw [lookup_append, there, Option.bind_some, object, lookup_object_key] at missing
    have unbound : field fields entry.1 = none := by simpa using missing
    simp [unbound] at bound

/-- Item by item, where a path continues inside an item as it would without the array. -/
theorem array (inside : ∀ i path, gone (.index i :: path) = gone path) (root : gone [] = false)
    (items_without : List.Forall₂ (Without gone) items items') :
    Without gone (.array items) (.array items') := by
  have lengths := items_without.length_eq
  have at_index (i : Nat) : (items[i]? = none ∧ items'[i]? = none) ∨
      ∃ item item', items[i]? = some item ∧ items'[i]? = some item' ∧ Without gone item item' := by
    by_cases short : i < items.length
    · have short' : i < items'.length := by omega
      exact .inr ⟨items[i], items'[i], List.getElem?_eq_getElem short,
        List.getElem?_eq_getElem short', items_without.get short short'⟩
    · exact .inl ⟨by simpa using short, by simp; omega⟩
  constructor
  · intro path taken
    cases path with
    | nil => simp [root] at taken
    | cons step path =>
      cases step with
      | key name => rfl
      | index i =>
        rcases at_index i with ⟨-, outside⟩ | ⟨item, item', -, here, without⟩
        · simp [outside]
        · rw [lookup_array_index, here]
          exact without.absent path (inside i path ▸ taken)
  · intro path left
    cases path with
    | nil => simp [Value.node, lengths]
    | cons step path =>
      cases step with
      | key name => rfl
      | index i =>
        rcases at_index i with ⟨outside, outside'⟩ | ⟨item, item', here, here', without⟩
        · simp [outside, outside']
        · simp only [lookup_array_index, here, here', Option.bind_some, List.cons_append, inside]
          exact without.kept path (inside i path ▸ left)
  · intro path untouched
    cases path with
    | nil =>
      have alike : List.Forall₂ Eq items items' := items_without.imp fun item item' without =>
        (Option.some.inj (without.same [] untouched)).symm
      rw [List.forall₂_eq_eq_eq] at alike
      rw [alike]
    | cons step path =>
      cases step with
      | key name => rfl
      | index i =>
        rcases at_index i with ⟨outside, outside'⟩ | ⟨item, item', here, here', without⟩
        · simp [outside, outside']
        · rw [lookup_array_index, lookup_array_index, here, here']
          refine without.same path fun rest => ?_
          rw [← inside i]
          exact untouched rest

/-- Inside one member of an object. -/
theorem member (root : gone [] = false) (own : gone [.key key] = false)
    (others : ∀ name path, name ≠ key → gone (.key name :: path) = false)
    (bound : field fields key = some value)
    (inner : Without (fun path => gone (.key key :: path)) value value') :
    Without gone (.object fields) (.object (set key value' fields)) := by
  have at_key : field (set key value' fields) key = some value' := field_set_self bound
  have elsewhere {name : String} (other : name ≠ key) :
      field (set key value' fields) name = field fields name := by simp [field_set, other.symm]
  constructor
  · intro path taken
    cases path with
    | nil => simp [root] at taken
    | cons step path =>
      cases step with
      | index i => rfl
      | key name =>
        by_cases here : name = key
        · subst here
          rw [lookup_object_key, at_key]
          exact inner.absent path taken
        · simp [others name path here] at taken
  · intro path left
    cases path with
    | nil =>
      have all (name : String) : gone [.key name] = false := by
        by_cases here : name = key
        · rwa [here]
        · exact others name [] here
      have keys := congrArg (List.map fun name => (name, Value.null)) (keys_set key value' fields)
      simpa [Value.node, all, Function.comp_def] using keys
    | cons step path =>
      cases step with
      | index i => rfl
      | key name =>
        by_cases here : name = key
        · subst here
          rw [lookup_object_key, lookup_object_key, at_key, bound]
          exact inner.kept path left
        · rw [lookup_object_key, lookup_object_key, elsewhere here]
          cases field fields name with
          | none => rfl
          | some inside => simp [others name _ here]
  · intro path untouched
    cases path with
    | nil =>
      have alike := inner.same [] fun rest => untouched (.key key :: rest)
      rw [Option.some.inj alike, set_self bound]
    | cons step path =>
      cases step with
      | index i => rfl
      | key name =>
        by_cases here : name = key
        · subst here
          rw [lookup_object_key, lookup_object_key, at_key, bound]
          exact inner.same path untouched
        · rw [lookup_object_key, lookup_object_key, elsewhere here]

/-- An object loses the members whose keys are not kept. -/
theorem retain (keep : String → Bool) (root : gone [] = false)
    (members : ∀ name path, gone (.key name :: path) = !keep name) :
    Without gone (.object fields) (.object (fields.filter fun entry => keep entry.1)) := by
  have bound (name : String) : field (fields.filter fun entry => keep entry.1) name =
      if keep name then field fields name else none := field_filter keep
  constructor
  · intro path taken
    cases path with
    | nil => simp [root] at taken
    | cons step path =>
      cases step with
      | index i => rfl
      | key name =>
        have dropped : keep name = false := by simpa [members] using taken
        simp [bound, dropped]
  · intro path left
    cases path with
    | nil => simp [Value.node, members]
    | cons step path =>
      cases step with
      | index i => rfl
      | key name =>
        have held : keep name = true := by simpa [members] using left
        simp [bound, held, members]
  · intro path untouched
    cases path with
    | nil =>
      have all (name : String) : keep name = true := by
        simpa [members] using untouched [.key name]
      simp [all]
    | cons step path =>
      cases step with
      | index i => rfl
      | key name =>
        have held : keep name = true := by simpa [members] using untouched []
        simp [bound, held]

end Without

end Json
