import Mathlib.Data.List.AList

/-!
# Shared objects of a concurrent runtime

Models of the primitives concurrent code shares, each with the small lemmas that
keep later proofs from unfolding it:

* `HashMap`: a finite map, with the enumeration of its values;
* `Arena`: numbered cells standing for reference-counted allocations;
* `Oneshot`: a channel for one value, whose two halves die independently.
-/

namespace Effect

/-! ## Hash maps -/

/-- A finite map; the order of its entries carries no meaning. -/
def HashMap (K V : Type) : Type := AList fun _ : K => V

namespace HashMap

variable {K V : Type} [DecidableEq K]

def empty : HashMap K V := (∅ : AList fun _ : K => V)

def get (m : HashMap K V) (k : K) : Option V := AList.lookup k m

def insert (m : HashMap K V) (k : K) (v : V) : HashMap K V := AList.insert k v m

def remove (m : HashMap K V) (k : K) : HashMap K V := AList.erase k m

def keys (m : HashMap K V) : List K := AList.keys m

def values (m : HashMap K V) : List V := m.entries.map Sigma.snd

/-- The entries, as pairs. -/
def to_list (m : HashMap K V) : List (K × V) := m.entries.map fun entry => (entry.1, entry.2)

/-- Drop the entries whose value fails a test. -/
def retain (m : HashMap K V) (keep : K → V → Bool) : HashMap K V :=
  ⟨m.entries.filter fun entry => keep entry.1 entry.2,
    m.nodupKeys.sublist List.filter_sublist⟩

@[simp] theorem get_empty (k : K) : (empty : HashMap K V).get k = none :=
  AList.lookup_empty k

theorem get_insert (m : HashMap K V) (k l : K) (v : V) :
    (m.insert k v).get l = if l = k then some v else m.get l := by
  by_cases same : l = k
  · subst same
    rw [if_pos rfl]
    exact AList.lookup_insert m
  · rw [if_neg same]
    exact AList.lookup_insert_ne same

theorem get_remove (m : HashMap K V) (k l : K) :
    (m.remove k).get l = if l = k then none else m.get l := by
  by_cases same : l = k
  · subst same
    rw [if_pos rfl]
    exact AList.lookup_erase l m
  · rw [if_neg same]
    exact AList.lookup_erase_ne same

@[simp] theorem get_insert_self (m : HashMap K V) (k : K) (v : V) :
    (m.insert k v).get k = some v := by rw [get_insert, if_pos rfl]

@[simp] theorem get_remove_self (m : HashMap K V) (k : K) : (m.remove k).get k = none := by
  rw [get_remove, if_pos rfl]

/-- An entry of the map is what its key is looked up to. -/
theorem mem_entries {m : HashMap K V} {k : K} {v : V} :
    (⟨k, v⟩ : Sigma fun _ : K => V) ∈ m.entries ↔ m.get k = some v :=
  AList.mem_lookup_iff.symm

/-- The values of a map are what some key is looked up to. -/
theorem mem_values {m : HashMap K V} {v : V} : v ∈ m.values ↔ ∃ k, m.get k = some v := by
  simp only [values, List.mem_map]
  constructor
  · rintro ⟨⟨k, w⟩, entry, rfl⟩
    exact ⟨k, mem_entries.mp entry⟩
  · rintro ⟨k, found⟩
    exact ⟨⟨k, v⟩, mem_entries.mpr found, rfl⟩

theorem mem_to_list {m : HashMap K V} {k : K} {v : V} : (k, v) ∈ m.to_list ↔ m.get k = some v := by
  rw [← mem_entries, to_list, List.mem_map]
  constructor
  · rintro ⟨⟨l, w⟩, entry, same⟩
    cases same
    exact entry
  · exact fun entry => ⟨_, entry, rfl⟩

theorem mem_keys {m : HashMap K V} {k : K} : k ∈ m.keys ↔ (m.get k).isSome = true :=
  (AList.lookup_isSome (s := m)).symm

/-- The values are what the keys are looked up to. -/
theorem filterMap_get_keys (m : HashMap K V) : m.keys.filterMap m.get = m.values := by
  have keys : m.keys = m.entries.map Sigma.fst := rfl
  rw [keys, List.filterMap_map, values, ← List.filterMap_eq_map]
  apply List.filterMap_congr
  intro entry member
  exact mem_entries.mp member

/-- Maps that bind the same keys enumerate the same keys. -/
theorem keys_perm {m m' : HashMap K V} (alike : ∀ k, (m'.get k).isSome = (m.get k).isSome) :
    m'.keys.Perm m.keys := by
  apply (List.perm_ext_iff_of_nodup m'.nodupKeys m.nodupKeys).mpr
  intro k
  exact mem_keys.trans ((Bool.eq_iff_iff.mp (alike k)).trans mem_keys.symm)

/-- Maps with the same bindings enumerate the same values. -/
theorem values_perm {m m' : HashMap K V} (same : ∀ k, m.get k = m'.get k) :
    m.values.Perm m'.values := by
  rw [← filterMap_get_keys, ← filterMap_get_keys, funext same]
  exact (keys_perm fun k => by rw [same]).filterMap _

theorem get_retain (m : HashMap K V) (keep : K → V → Bool) (k : K) :
    (m.retain keep).get k = (m.get k).filter fun v => keep k v := by
  ext v
  rw [Option.filter_eq_some_iff, ← mem_entries, ← mem_entries]
  exact List.mem_filter

/-- What is retained was there before. -/
theorem get_of_retain {m : HashMap K V} {keep : K → V → Bool} {k : K} {v : V}
    (found : (m.retain keep).get k = some v) : m.get k = some v := by
  rw [get_retain, Option.filter_eq_some_iff] at found
  exact found.1

/-- Nothing is dropped when every entry passes the test. -/
theorem retain_eq_self {m : HashMap K V} {keep : K → V → Bool}
    (all : ∀ k v, m.get k = some v → keep k v = true) : m.retain keep = m := by
  apply AList.ext
  apply List.filter_eq_self.mpr
  intro entry member
  exact all _ _ (mem_entries.mp member)

/-- The number of entries tells whether one was dropped. -/
theorem length_keys_retain {m : HashMap K V} {keep : K → V → Bool} :
    m.keys.length ≤ (m.retain keep).keys.length ↔
      ∀ k v, m.get k = some v → keep k v = true := by
  have lengths (m : HashMap K V) : m.keys.length = m.entries.length := List.length_map ..
  rw [lengths, lengths]
  constructor
  · intro kept k v found
    have shorter := List.length_filter_le (fun entry => keep entry.1 entry.2) m.entries
    have same := Nat.le_antisymm shorter kept
    exact List.length_filter_eq_length_iff.mp same _ (mem_entries.mpr found)
  · intro all
    rw [retain_eq_self all]

omit [DecidableEq K] in
theorem length_keys_retain_le (m : HashMap K V) (keep : K → V → Bool) :
    (m.retain keep).keys.length ≤ m.keys.length := by
  have lengths (m : HashMap K V) : m.keys.length = m.entries.length := List.length_map ..
  rw [lengths, lengths]
  exact List.length_filter_le ..

omit [DecidableEq K] in
/-- A map without keys is the empty one. -/
theorem eq_empty_of_length {m : HashMap K V} (none : m.keys.length = 0) : m = empty := by
  apply AList.ext
  exact List.map_eq_nil_iff.mp (List.length_eq_zero_iff.mp none)

/-- Inserting entries with keys of their own, one after the other. -/
theorem get_foldl_insert_of {A : Type} {f : A → K} {g : A → V} {l : List A}
    (nodup : (l.map f).Nodup) (m : HashMap K V) (k : K) (v : V) :
    (l.foldl (fun m a => m.insert (f a) (g a)) m).get k = some v ↔
      (∃ a ∈ l, f a = k ∧ g a = v) ∨ (k ∉ l.map f ∧ m.get k = some v) := by
  induction l generalizing m with
  | nil => simp
  | cons b l ih =>
    obtain ⟨fresh, nodup⟩ := List.nodup_cons.mp nodup
    rw [List.foldl_cons, ih nodup, get_insert, List.map_cons, List.exists_mem_cons_iff,
      List.mem_cons]
    by_cases here : k = f b
    · subst here
      rw [if_pos rfl]
      have later : ¬ ∃ a ∈ l, f a = f b ∧ g a = v := by
        intro found
        obtain ⟨a, member, same, -⟩ := found
        exact fresh (same ▸ List.mem_map_of_mem member)
      constructor
      · intro found
        rcases found with found | ⟨-, same⟩
        · exact absurd found later
        · cases same
          exact .inl (.inl ⟨rfl, rfl⟩)
      · intro found
        rcases found with (⟨-, rfl⟩ | found) | ⟨absent, -⟩
        · exact .inr ⟨fresh, rfl⟩
        · exact absurd found later
        · exact absurd (.inl rfl) absent
    · rw [if_neg here]
      constructor
      · intro found
        rcases found with found | ⟨absent, found⟩
        · exact .inl (.inr found)
        · exact .inr ⟨fun found => found.elim here absent, found⟩
      · intro found
        rcases found with (⟨same, -⟩ | found) | ⟨absent, found⟩
        · exact absurd same.symm here
        · exact .inl found
        · exact .inr ⟨fun member => absent (.inr member), found⟩

/-- Filing values one after the other under keys of their own. -/
theorem get_foldl_insert {f : V → K} {l : List V} (nodup : (l.map f).Nodup) (m : HashMap K V)
    (k : K) (v : V) : (l.foldl (fun m v => m.insert (f v) v) m).get k = some v ↔
      (v ∈ l ∧ f v = k) ∨ (k ∉ l.map f ∧ m.get k = some v) := by
  rw [get_foldl_insert_of nodup]
  have filed : (∃ w ∈ l, f w = k ∧ w = v) ↔ v ∈ l ∧ f v = k := by
    constructor
    · intro found
      obtain ⟨w, member, same, rfl⟩ := found
      exact ⟨member, same⟩
    · intro found
      exact ⟨v, found.1, found.2, rfl⟩
  rw [filed]

/-- Apply a function to the values, keeping the enumeration. -/
def map {W : Type} (m : HashMap K V) (f : V → W) : HashMap K W :=
  ⟨m.entries.map fun entry => ⟨entry.1, f entry.2⟩, by
    have keys := m.nodupKeys
    simpa [List.NodupKeys, List.keys, List.map_map, Function.comp_def] using keys⟩

section Map

variable {W : Type} (m : HashMap K V) (f : V → W)

omit [DecidableEq K] in
theorem keys_map : (m.map f).keys = m.keys := by
  simp [keys, AList.keys, map, List.keys, List.map_map, Function.comp_def]

omit [DecidableEq K] in
theorem values_map : (m.map f).values = m.values.map f := by
  simp [values, map, List.map_map, Function.comp_def]

theorem map_remove (k : K) : (m.remove k).map f = (m.map f).remove k := by
  apply AList.ext
  change ((m.entries.kerase k).map fun entry => (⟨entry.1, f entry.2⟩ : Sigma fun _ : K => W)) =
    (m.entries.map fun entry => (⟨entry.1, f entry.2⟩ : Sigma fun _ : K => W)).kerase k
  simp [List.kerase, List.eraseP_map, Function.comp_def]

theorem map_insert (k : K) (v : V) : (m.insert k v).map f = (m.map f).insert k (f v) := by
  apply AList.ext
  simp [map, insert, AList.insert, List.kinsert, List.kerase, List.eraseP_map, Function.comp_def]

theorem get_map (k : K) : (m.map f).get k = (m.get k).map f := by
  ext w
  rw [← mem_entries, map, List.mem_map, Option.map_eq_some_iff]
  constructor
  · intro entry
    obtain ⟨⟨l, v⟩, member, same⟩ := entry
    cases same
    exact ⟨v, mem_entries.mp member, rfl⟩
  · intro value
    obtain ⟨v, found, rfl⟩ := value
    exact ⟨⟨k, v⟩, mem_entries.mpr found, rfl⟩

omit [DecidableEq K] in
theorem map_retain (keep : K → V → Bool) (keep' : K → W → Bool)
    (alike : ∀ k v, keep' k (f v) = keep k v) : (m.retain keep).map f = (m.map f).retain keep' := by
  apply AList.ext
  simp [map, retain, List.filter_map, Function.comp_def, alike]

end Map

theorem values_eq_nil {m : HashMap K V} : m.values = [] ↔ ∀ k, m.get k = none := by
  rw [List.eq_nil_iff_forall_not_mem]
  constructor
  · intro none k
    cases found : m.get k with
    | none => rfl
    | some v => exact (none v (mem_values.mpr ⟨k, found⟩)).elim
  · rintro none v member
    obtain ⟨k, found⟩ := mem_values.mp member
    rw [none k] at found
    cases found

end HashMap

/-! ## Arenas -/

/-- Numbered cells; the cells from `next` on are not allocated yet. -/
structure Arena (α : Type) where
  cell : Nat → α
  next : Nat

namespace Arena

variable {α : Type}

def empty (blank : α) : Arena α := ⟨fun _ => blank, 0⟩

/-- Allocate the next cell. -/
def alloc (arena : Arena α) (value : α) : Arena α :=
  ⟨Function.update arena.cell arena.next value, arena.next + 1⟩

def modify (arena : Arena α) (i : Nat) (f : α → α) : Arena α :=
  ⟨Function.update arena.cell i (f (arena.cell i)), arena.next⟩

@[simp] theorem next_alloc (arena : Arena α) (value : α) :
    (arena.alloc value).next = arena.next + 1 := rfl

@[simp] theorem next_modify (arena : Arena α) (i : Nat) (f : α → α) :
    (arena.modify i f).next = arena.next := rfl

theorem cell_alloc (arena : Arena α) (value : α) (j : Nat) :
    (arena.alloc value).cell j = if j = arena.next then value else arena.cell j := by
  simp only [alloc, Function.update_apply]

theorem cell_modify (arena : Arena α) (i j : Nat) (f : α → α) :
    (arena.modify i f).cell j = if j = i then f (arena.cell i) else arena.cell j := by
  simp only [modify, Function.update_apply]

end Arena

/-! ## One-shot channels -/

/-- A channel for one value: the value once it was sent, and whether each half
is still alive. -/
structure Oneshot (α : Type) where
  value : Option α
  sender : Bool
  receiver : Bool

/-- What polling the receiving half yields. -/
inductive Polled (α : Type)
  | ready (value : α)
  | closed
  | pending

namespace Oneshot

variable {α : Type}

def new : Oneshot α := ⟨none, true, true⟩

/-- Sending consumes the sender; the value is lost when the receiver is gone. -/
def send (channel : Oneshot α) (value : α) : Bool × Oneshot α :=
  if channel.receiver then (true, { channel with value := some value, sender := false })
  else (false, { channel with sender := false })

def drop_sender (channel : Oneshot α) : Oneshot α := { channel with sender := false }

def drop_receiver (channel : Oneshot α) : Oneshot α := { channel with receiver := false }

def poll (channel : Oneshot α) : Polled α :=
  match channel.value with
  | some value => .ready value
  | none => if channel.sender then .pending else .closed

@[simp] theorem send_fst (channel : Oneshot α) (value : α) :
    (channel.send value).1 = channel.receiver := by
  unfold send
  split <;> simp_all

@[simp] theorem send_sender (channel : Oneshot α) (value : α) :
    (channel.send value).2.sender = false := by
  unfold send
  split <;> rfl

@[simp] theorem send_receiver (channel : Oneshot α) (value : α) :
    (channel.send value).2.receiver = channel.receiver := by
  unfold send
  split <;> rfl

theorem send_value (channel : Oneshot α) (value : α) :
    (channel.send value).2.value = if channel.receiver then some value else channel.value := by
  unfold send
  split <;> rfl

end Oneshot

end Effect
