import SessionManager.Router.Selector
import Mathlib.Data.String.Basic

/-!
# Schemas up to the order of their keys

`canonicalize` is a normal form of JSON values up to the order in which objects list their
keys: two objects have the same one exactly if they bind the same keys to values with the same
one (`canonicalize_object_eq_iff`).
-/

namespace SessionManager

open Json

/-- The keys of an object are listed in order, each once. -/
def KeysOrdered (fields : Fields) : Prop := fields.Pairwise fun a b => a.1 < b.1

theorem mem_insert {fields : Fields} {key : String} {value : Value} {entry : String × Value}
    (member : entry ∈ Json.insert key value fields) : entry = (key, value) ∨ entry ∈ fields := by
  induction fields with
  | nil => exact .inl (List.mem_singleton.mp member)
  | cons first rest ih =>
    rw [Json.insert] at member
    split at member
    · exact List.mem_cons.mp member
    · split at member
      · exact (List.mem_cons.mp member).imp_right (List.mem_cons_of_mem _)
      · rcases List.mem_cons.mp member with here | later
        · exact .inr (List.mem_cons.mpr (.inl here))
        · exact (ih later).imp_right (List.mem_cons_of_mem _)

theorem ordered_insert {fields : Fields} (ordered : KeysOrdered fields) (key : String)
    (value : Value) : KeysOrdered (Json.insert key value fields) := by
  induction fields with
  | nil => exact List.pairwise_singleton _ _
  | cons entry rest ih =>
    obtain ⟨k, v⟩ := entry
    obtain ⟨below, tail⟩ := List.pairwise_cons.mp ordered
    rw [Json.insert]
    split
    · rename_i before
      refine List.pairwise_cons.mpr ⟨fun other member => ?_, ordered⟩
      rcases List.mem_cons.mp member with rfl | later
      · exact before
      · exact before.trans (below other later)
    · split
      · rename_i same
        subst same
        exact List.pairwise_cons.mpr ⟨below, tail⟩
      · rename_i not_before differ
        refine List.pairwise_cons.mpr ⟨fun other member => ?_, ih tail⟩
        rcases mem_insert member with rfl | later
        · exact lt_of_le_of_ne (not_lt.mp not_before) (Ne.symm differ)
        · exact below other later

/-- Ordered objects that bind the same keys alike are the same. -/
theorem ordered_ext {fields fields' : Fields} (ordered : KeysOrdered fields) (ordered' : KeysOrdered fields')
    (alike : ∀ key, field fields key = field fields' key) : fields = fields' := by
  have unbound {key : String} {fields : Fields} (above : ∀ other ∈ fields, key < other.1) :
      field fields key = none := by
    rw [field, Option.map_eq_none_iff, List.find?_eq_none]
    exact fun other member same => (above other member).ne (eq_of_beq same).symm
  induction fields generalizing fields' with
  | nil =>
    cases fields' with
    | nil => rfl
    | cons entry rest =>
      have absent := alike entry.1
      rw [field_cons, if_pos rfl] at absent
      cases absent
  | cons entry rest ih =>
    obtain ⟨k, v⟩ := entry
    obtain ⟨above, tail⟩ := List.pairwise_cons.mp ordered
    cases fields' with
    | nil =>
      have absent := alike k
      rw [field_cons, if_pos rfl] at absent
      cases absent
    | cons entry' rest' =>
      obtain ⟨k', v'⟩ := entry'
      obtain ⟨above', tail'⟩ := List.pairwise_cons.mp ordered'
      have first : k = k' := by
        rcases lt_trichotomy k k' with before | same | after
        · have here := alike k
          rw [field_cons, if_pos rfl, field_cons, if_neg before.ne',
            unbound fun other member => before.trans (above' other member)] at here
          cases here
        · exact same
        · have here := alike k'
          rw [field_cons, if_neg after.ne', field_cons, if_pos rfl,
            unbound fun other member => after.trans (above other member)] at here
          cases here
      subst first
      have bound := alike k
      rw [field_cons, field_cons, if_pos rfl, if_pos rfl] at bound
      cases bound
      rw [ih tail tail' fun key => ?_]
      by_cases same : k = key
      · subst same
        rw [unbound above, unbound above']
      · have here := alike key
        rwa [field_cons, field_cons, if_neg same, if_neg same] at here

theorem field_canonicalizeFields (fields : Fields) (key : String) :
    field (canonicalizeFields fields) key = (field fields key).map canonicalize := by
  induction fields with
  | nil => rw [canonicalizeFields]; rfl
  | cons entry rest ih =>
    obtain ⟨k, v⟩ := entry
    rw [canonicalizeFields, field_insert, field_cons, ih]
    split <;> rfl

theorem ordered_canonicalizeFields (fields : Fields) : KeysOrdered (canonicalizeFields fields) := by
  induction fields with
  | nil =>
    rw [canonicalizeFields]
    exact List.Pairwise.nil
  | cons entry rest ih =>
    rw [canonicalizeFields]
    exact ordered_insert ih _ _

theorem canonicalizeItems_eq_map (items : List Value) :
    canonicalizeItems items = items.map canonicalize := by
  induction items with
  | nil => rw [canonicalizeItems]; rfl
  | cons item rest ih => rw [canonicalizeItems, ih, List.map_cons]

/-- Objects have one normal form if they bind the same keys to values with one normal form. -/
theorem canonicalize_object_eq_iff {fields fields' : Fields} :
    canonicalize (.object fields) = canonicalize (.object fields') ↔
      ∀ key, (field fields key).map canonicalize = (field fields' key).map canonicalize := by
  rw [canonicalize, canonicalize, Value.object.injEq]
  simp only [← field_canonicalizeFields]
  refine ⟨fun same key => by rw [same], fun alike => ?_⟩
  exact ordered_ext (ordered_canonicalizeFields _) (ordered_canonicalizeFields _) alike

theorem canonicalize_array_eq_iff {items items' : List Value} :
    canonicalize (.array items) = canonicalize (.array items') ↔
      items.map canonicalize = items'.map canonicalize := by
  rw [canonicalize, canonicalize, Value.array.injEq, canonicalizeItems_eq_map,
    canonicalizeItems_eq_map]

theorem as_str_canonicalize (value : Value) : (canonicalize value).as_str = value.as_str := by
  cases value <;> rw [canonicalize] <;> first | rfl | exact fun _ same => by cases same

/-- Whether a schema requires the selector does not depend on the order of its keys. -/
theorem requires_selector_canonicalize (fields : Fields) :
    requires_selector (canonicalize (.object fields)) = requires_selector (.object fields) := by
  have items : required_items (canonicalizeFields fields) =
      (required_items fields).map canonicalize := by
    rw [required_items, required_items, field_canonicalizeFields]
    cases field fields "required" with
    | none => rfl
    | some value =>
      cases value with
      | array items =>
        rw [Option.map_some, canonicalize]
        exact canonicalizeItems_eq_map items
      | _ => rw [Option.map_some, canonicalize] <;> first | rfl | exact fun _ same => by cases same
  rw [canonicalize, requires_selector, requires_selector]
  change selects (required_items (canonicalizeFields fields)) = selects (required_items fields)
  rw [items, selects, List.any_map, selects]
  simp only [Function.comp_def, as_str_canonicalize]

end SessionManager
