import Mathlib.Logic.Function.Basic

/-!
# Reference counts

`Arc`s and weak handles.  A `Heap` keeps the value and the strong count of every allocation.  A
weak handle is an address; it can be upgraded as long as the count there is positive.
-/

namespace Effect

/-- The allocations that were made: the next address, and what each holds. -/
structure Heap (α : Type) where
  next : Nat
  value : Nat → Option α
  strong : Nat → Nat

/-- A strong handle. -/
structure Arc (α : Type) where
  address : Nat
  value : α

abbrev Weak : Type := Nat

namespace Arc

variable {α : Type}

def downgrade (arc : Arc α) : Weak := arc.address

def ptr_eq (arc arc' : Arc α) : Bool := arc.address == arc'.address

end Arc

namespace Heap

variable {α : Type}

def empty : Heap α := ⟨0, fun _ => none, fun _ => 0⟩

/-- `Arc::new`. -/
def alloc (heap : Heap α) (value : α) : Arc α × Heap α :=
  (⟨heap.next, value⟩,
    { next := heap.next + 1
      value := Function.update heap.value heap.next (some value)
      strong := Function.update heap.strong heap.next 1 })

/-- `Weak::upgrade`. -/
def upgrade (heap : Heap α) (weak : Weak) : Option (Arc α) × Heap α :=
  match heap.value weak with
  | some value =>
    if 0 < heap.strong weak then
      (some ⟨weak, value⟩,
        { heap with strong := Function.update heap.strong weak (heap.strong weak + 1) })
    else (none, heap)
  | none => (none, heap)

/-- The end of a strong handle. -/
def drop (heap : Heap α) (arc : Arc α) : Heap α :=
  { heap with strong := Function.update heap.strong arc.address (heap.strong arc.address - 1) }

/-- What a weak handle leads to. -/
def get (heap : Heap α) (weak : Weak) : Option α :=
  if 0 < heap.strong weak then heap.value weak else none

section Handles

variable {heap : Heap α} {weak : Weak} {value : α}

/-- A handle that leads nowhere cannot be upgraded. -/
theorem upgrade_of_none (gone : heap.get weak = none) : heap.upgrade weak = (none, heap) := by
  rw [upgrade]
  rw [get] at gone
  cases held : heap.value weak with
  | none => rfl
  | some value =>
    by_cases strong : 0 < heap.strong weak
    · rw [if_pos strong, held] at gone
      cases gone
    · exact if_neg strong

/-- A strong handle that is taken and given back leaves the heap as it was. -/
theorem upgrade_of_some (there : heap.get weak = some value) : ∃ heap', heap.upgrade weak =
    (some ⟨weak, value⟩, heap') ∧ heap'.drop ⟨weak, value⟩ = heap := by
  rw [get] at there
  by_cases strong : 0 < heap.strong weak
  · rw [if_pos strong] at there
    refine ⟨_, by rw [upgrade, there]; exact if_pos strong, ?_⟩
    rw [drop]
    simp only [Function.update_self, Nat.add_sub_cancel, Function.update_idem,
      Function.update_eq_self]
  · rw [if_neg strong] at there
    cases there

theorem get_of_strong (gone : heap.strong weak = 0) : heap.get weak = none :=
  if_neg (gone ▸ Nat.lt_irrefl 0)

/-- Other handles do not notice an allocation. -/
theorem get_alloc_of_lt (allocated : weak < heap.next) :
    (heap.alloc value).2.get weak = heap.get weak := by
  have other : weak ≠ heap.next := Nat.ne_of_lt allocated
  rw [alloc, get, get]
  simp only [Function.update_of_ne other]

/-- The count of a value that is dropped where it was allocated. -/
theorem strong_drop_alloc (heap : Heap α) (value : α) (p : Nat) :
    ((heap.alloc value).2.drop (heap.alloc value).1).strong p =
      if p = heap.next then 0 else heap.strong p := by
  rw [alloc, drop]
  simp only [Function.update_apply, if_true]
  split
  · rfl
  · rfl

end Handles

end Heap

end Effect
