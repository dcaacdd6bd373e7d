import SessionManager.Json.Paths
import Mathlib.Data.List.Perm.Basic

/-!
# Values up to the order of keys

`Reordered` is the least equivalence under which the members of any object inside a value may be
listed in another order; the items of an array keep theirs.  `Distinct` values list each key of
an object once, which reordering keeps.
-/

namespace Json

/-- No object inside lists a key twice. -/
inductive Value.Distinct : Value → Prop
  | null : Distinct .null
  | bool (b : Bool) : Distinct (.bool b)
  | number (n : Number) : Distinct (.number n)
  | string (s : String) : Distinct (.string s)
  | array {items : List Value} (inside : ∀ item ∈ items, Distinct item) : Distinct (.array items)
  | object {fields : Fields} (keys : (fields.map Prod.fst).Nodup)
      (inside : ∀ entry ∈ fields, Distinct entry.2) : Distinct (.object fields)

/-- Equal up to the order of the keys of the objects inside. -/
inductive Reordered : Value → Value → Prop
  | refl (value : Value) : Reordered value value
  | trans {a b c : Value} (first : Reordered a b) (second : Reordered b c) : Reordered a c
  | keys {fields fields' : Fields} (perm : fields.Perm fields') :
      Reordered (.object fields) (.object fields')
  | item {value value' : Value} (before after : List Value) (inner : Reordered value value') :
      Reordered (.array (before ++ value :: after)) (.array (before ++ value' :: after))
  | member {value value' : Value} (before : Fields) (key : String) (after : Fields)
      (inner : Reordered value value') :
      Reordered (.object (before ++ (key, value) :: after)) (.object (before ++ (key, value') :: after))

namespace Value.Distinct

variable {value : Value} {fields : Fields} {items : List Value}

theorem of_item (distinct : (Value.array items).Distinct) : ∀ item ∈ items, item.Distinct := by
  cases distinct with
  | array inside => exact inside

theorem nodup (distinct : (Value.object fields).Distinct) : (fields.map Prod.fst).Nodup := by
  cases distinct with
  | object keys inside => exact keys

theorem of_member (distinct : (Value.object fields).Distinct) : ∀ entry ∈ fields, entry.2.Distinct := by
  cases distinct with
  | object keys inside => exact inside

end Value.Distinct

namespace Reordered

variable {a b value value' : Value} {items items' : List Value} {fields fields' : Fields}

theorem symm (same : Reordered a b) : Reordered b a := by
  induction same with
  | refl value => exact .refl value
  | trans _ _ first second => exact second.trans first
  | keys perm => exact .keys perm.symm
  | item before after _ inner => exact .item before after inner
  | member before key after _ inner => exact .member before key after inner

theorem distinct (same : Reordered a b) (distinct : a.Distinct) : b.Distinct := by
  induction same with
  | refl => exact distinct
  | trans _ _ first second => exact second (first distinct)
  | keys perm =>
    refine .object ((perm.map Prod.fst).nodup_iff.mp distinct.nodup) fun entry member => ?_
    exact distinct.of_member entry (perm.mem_iff.mpr member)
  | item before after _ inner =>
    have inside := distinct.of_item
    refine .array fun other member => ?_
    simp only [List.mem_append, List.mem_cons] at inside member
    rcases member with early | rfl | late
    · exact inside other (.inl early)
    · exact inner (inside _ (.inr (.inl rfl)))
    · exact inside other (.inr (.inr late))
  | member before key after _ inner =>
    have keys := distinct.nodup
    have inside := distinct.of_member
    refine .object (by simpa using keys) fun other member => ?_
    simp only [List.mem_append, List.mem_cons] at inside member
    rcases member with early | rfl | late
    · exact inside other (.inl early)
    · exact inner (inside (key, _) (.inr (.inl rfl)))
    · exact inside other (.inr (.inr late))

/-- Arrays whose items are reordered one by one. -/
theorem each_item (same : List.Forall₂ Reordered items items') : Reordered (.array items) (.array items') := by
  suffices ∀ before, Reordered (.array (before ++ items)) (.array (before ++ items')) by
    simpa using this []
  induction same with
  | nil => exact fun before => .refl _
  | @cons x y xs ys here _ ih =>
    intro before
    have later := ih (before ++ [y])
    simp only [List.append_assoc, List.cons_append, List.nil_append] at later
    exact (item before xs here).trans later

/-- Objects whose members are reordered one by one. -/
theorem each_member {f : Value → Value} (same : ∀ entry ∈ fields, Reordered entry.2 (f entry.2)) :
    Reordered (.object fields) (.object (fields.map fun entry => (entry.1, f entry.2))) := by
  suffices ∀ before, Reordered (.object (before ++ fields))
      (.object (before ++ fields.map fun entry => (entry.1, f entry.2))) by
    simpa using this []
  induction fields with
  | nil => exact fun before => .refl _
  | cons entry rest ih =>
    intro before
    obtain ⟨key, value⟩ := entry
    have here : Reordered value (f value) := same (key, value) List.mem_cons_self
    have later := ih (fun entry member => same entry (List.mem_cons_of_mem _ member))
      (before ++ [(key, f value)])
    simp only [List.append_assoc, List.cons_append, List.nil_append] at later
    exact (member before key rest here).trans later

end Reordered

/-- A map binds a new key among the others. -/
theorem insert_perm {fields : Fields} {key : String} (value : Value)
    (new : key ∉ fields.map Prod.fst) : (insert key value fields).Perm ((key, value) :: fields) := by
  induction fields with
  | nil => exact .refl _
  | cons entry rest ih =>
    obtain ⟨k, v⟩ := entry
    simp only [List.map_cons, List.mem_cons, not_or] at new
    rw [insert]
    split
    · exact .refl _
    · rw [if_neg new.1]
      exact ((ih new.2).cons (k, v)).trans (.swap ..)

end Json
