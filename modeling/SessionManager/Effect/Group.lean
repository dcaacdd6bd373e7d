import SessionManager.Effect.Sync
import Mathlib.Data.List.Nodup
import Mathlib.Data.List.Sort
import Mathlib.Data.List.Perm.Basic

/-!
# Grouping and sorting by a key

A list that is folded into a map under a key leaves, under each key, the fold of the elements
with that key (`HashMap.get_group_by`).  Sorting by a key forgets the order of the list
(`insertionSort_eq_of_perm`), and picking the elements of one key after the other only
reorders it (`perm_flatMap_key`).
-/

namespace Effect

variable {A K V : Type}

/-! ## Lists under a key -/

/-- A list without repetitions whose elements are all the same. -/
theorem eq_singleton_of_nodup {xs : List A} (distinct : xs.Nodup) {x : A} (member : x ∈ xs)
    (same : ∀ y ∈ xs, y = x) : xs = [x] := by
  have repeated := List.eq_replicate_of_mem same
  rw [repeated, List.nodup_replicate] at distinct
  rw [repeated, le_antisymm distinct (List.length_pos_of_mem member)]
  rfl

section Keys

variable [DecidableEq K] {key : A → K}

/-- An element is found by its key, when no other element has it. -/
theorem find_key {xs : List A} (distinct : (xs.map key).Nodup) {k : K} {x : A} :
    xs.find? (fun y => key y == k) = some x ↔ x ∈ xs ∧ key x = k := by
  constructor
  · intro found
    have same := List.find?_some found
    exact ⟨List.mem_of_find?_eq_some found, eq_of_beq same⟩
  · rintro ⟨member, rfl⟩
    cases found : xs.find? fun y => key y == key x with
    | none => exact absurd (beq_self_eq_true _) (List.find?_eq_none.mp found x member)
    | some y =>
      have same := List.find?_some found
      exact congrArg some
        (List.inj_on_of_nodup_map distinct (List.mem_of_find?_eq_some found) member (eq_of_beq same))

/-- One key after the other, the elements of a list are enumerated once. -/
theorem perm_flatMap_key {ks : List K} (distinct : ks.Nodup) {xs : List A}
    (covered : ∀ x ∈ xs, key x ∈ ks) :
    (ks.flatMap fun k => xs.filter fun x => key x = k).Perm xs := by
  induction ks generalizing xs with
  | nil =>
    have none : xs = [] := List.eq_nil_iff_forall_not_mem.mpr fun x member =>
      List.not_mem_nil (covered x member)
    rw [none, List.flatMap_nil]
  | cons k ks ih =>
    obtain ⟨fresh, distinct⟩ := List.nodup_cons.mp distinct
    have covered : ∀ x ∈ xs.filter fun x => !decide (key x = k), key x ∈ ks := fun x member => by
      obtain ⟨among, other⟩ := List.mem_filter.mp member
      refine (List.mem_cons.mp (covered x among)).resolve_left ?_
      simpa only [Bool.not_eq_true', decide_eq_false_iff_not] using other
    have rest : (ks.flatMap fun k' => xs.filter fun x => key x = k').Perm
        (xs.filter fun x => !decide (key x = k)) := by
      refine .trans (.of_eq (List.flatMap_congr fun k' member => ?_)) (ih distinct covered)
      rw [List.filter_filter]
      refine List.filter_congr fun x _ => ?_
      by_cases here : key x = k'
      · have other : k' ≠ k := fun same => fresh (same ▸ member)
        simp only [here, other, decide_true, decide_false, Bool.not_false, Bool.and_self]
      · simp only [here, decide_false, Bool.false_and]
    rw [List.flatMap_cons]
    exact (rest.append_left _).trans (List.filter_append_perm _ xs)

end Keys

/-! ## Sorting -/

section Sorting

variable [LinearOrder K] (key : A → K)

local instance total_key : Std.Total (fun a b : A => key a ≤ key b) :=
  ⟨fun a b => le_total (key a) (key b)⟩

local instance trans_key : IsTrans A (fun a b : A => key a ≤ key b) := ⟨fun _ _ _ => le_trans⟩

/-- A key that tells the elements of a list apart puts them in one order. -/
theorem eq_of_sorted {xs ys : List A} (perm : xs.Perm ys)
    (apart : ∀ x ∈ xs, ∀ y ∈ xs, key x = key y → x = y)
    (left : xs.Pairwise fun a b => key a ≤ key b) (right : ys.Pairwise fun a b => key a ≤ key b) :
    xs = ys := by
  refine List.Perm.eq_of_pairwise (fun a b here there below above => ?_) left right perm
  exact apart a here b (perm.mem_iff.mpr there) (le_antisymm below above)

/-- A list is sorted alike from any order, when the key tells its elements apart. -/
theorem insertionSort_eq_of_perm {xs ys : List A} (perm : xs.Perm ys)
    (apart : ∀ x ∈ xs, ∀ y ∈ xs, key x = key y → x = y) :
    xs.insertionSort (fun a b => key a ≤ key b) = ys.insertionSort (fun a b => key a ≤ key b) := by
  refine eq_of_sorted key ?_ ?_ (List.pairwise_insertionSort _ xs) (List.pairwise_insertionSort _ ys)
  · exact ((List.perm_insertionSort _ xs).trans perm).trans (List.perm_insertionSort _ ys).symm
  · intro a left b right
    rw [List.mem_insertionSort] at left right
    exact apart a left b right

theorem mergeSort_eq_of_perm {xs ys : List A} (perm : xs.Perm ys)
    (apart : ∀ x ∈ xs, ∀ y ∈ xs, key x = key y → x = y) :
    xs.mergeSort (fun a b => key a ≤ key b) = ys.mergeSort (fun a b => key a ≤ key b) := by
  have sorted (xs : List A) :
      (xs.mergeSort fun a b => key a ≤ key b).Pairwise fun a b => key a ≤ key b := by
    apply List.Pairwise.imp of_decide_eq_true
    apply List.pairwise_mergeSort
    · intro a b c below above
      exact decide_eq_true ((of_decide_eq_true below).trans (of_decide_eq_true above))
    · intro a b
      rw [Bool.or_eq_true, decide_eq_true_iff, decide_eq_true_iff]
      exact le_total ..
  refine eq_of_sorted key ?_ ?_ (sorted xs) (sorted ys)
  · exact ((List.mergeSort_perm xs _).trans perm).trans (List.mergeSort_perm ys _).symm
  · intro a left b right
    rw [List.mem_mergeSort] at left right
    exact apart a left b right

/-- Sorting forgets the order. -/
theorem insertionSort_eq_iff_perm {xs ys : List K} :
    xs.insertionSort (· ≤ ·) = ys.insertionSort (· ≤ ·) ↔ xs.Perm ys := by
  constructor
  · intro same
    exact (List.perm_insertionSort _ xs).symm.trans (same ▸ List.perm_insertionSort _ ys)
  · exact fun perm => insertionSort_eq_of_perm id perm fun _ _ _ _ => id

end Sorting

/-! ## Folding into a map -/

namespace HashMap

variable [DecidableEq K]

/-- Fold every element into what the map has under its key. -/
def group_by (key : A → K) (add : Option V → A → V) (xs : List A) (m : HashMap K V) : HashMap K V :=
  xs.foldl (fun m x => m.insert (key x) (add (m.get (key x)) x)) m

/-- Under a key is the fold of the elements with that key. -/
theorem get_group_by (key : A → K) (add : Option V → A → V) (xs : List A) (m : HashMap K V) (k : K) :
    (group_by key add xs m).get k =
      (xs.filter fun x => key x = k).foldl (fun v x => some (add v x)) (m.get k) := by
  induction xs generalizing m with
  | nil => rfl
  | cons x xs ih =>
    rw [group_by, List.foldl_cons, ← group_by, ih, get_insert]
    by_cases here : key x = k
    · rw [if_pos here.symm, List.filter_cons_of_pos (by simpa using here), List.foldl_cons, here]
    · rw [if_neg (Ne.symm here), List.filter_cons_of_neg (by simpa using here)]

omit [DecidableEq K] in
/-- Keys are listed once. -/
theorem nodup_keys_to_list (m : HashMap K V) : (m.to_list.map Prod.fst).Nodup := by
  rw [to_list, List.map_map]
  exact m.nodupKeys

end HashMap

end Effect
