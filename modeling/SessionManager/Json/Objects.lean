import SessionManager.Json.Decode
import Mathlib.Data.List.Forall2
import Mathlib.Data.List.Nodup

/-!
# Objects up to the order of their members

Two objects are `Same` when they list the members of one map, each in an order of its own.
A structure is read from both alike, and their maps are the same again.
-/

namespace Json

variable {fields fields' : Fields} {names : List String} {key other : String} {value : Value}

/-! ## Keys -/

theorem field_isSome_iff : (field fields key).isSome ↔ key ∈ fields.map Prod.fst := by
  rw [← contains_key_eq_isSome, contains_key, List.any_eq_true, List.mem_map]
  exact exists_congr fun entry => and_congr_right fun _ => beq_iff_eq

theorem field_eq_none_iff : field fields key = none ↔ key ∉ fields.map Prod.fst := by
  rw [← field_isSome_iff, Option.not_isSome_iff_eq_none]

theorem mem_of_field (found : field fields key = some value) : (key, value) ∈ fields := by
  obtain ⟨⟨k, v⟩, first, rfl⟩ := Option.map_eq_some_iff.mp found
  have named := List.find?_some first
  rw [← eq_of_beq named]
  exact List.mem_of_find?_eq_some first

theorem field_of_mem (distinct : (fields.map Prod.fst).Nodup) (member : (key, value) ∈ fields) :
    field fields key = some value := by
  obtain ⟨value', found⟩ := Option.isSome_iff_exists.mp
    (field_isSome_iff.mpr (List.mem_map_of_mem (f := Prod.fst) member))
  have same := List.inj_on_of_nodup_map distinct (mem_of_field found) member rfl
  rw [found, (Prod.mk.inj same).2]

theorem field_filter_ne :
    field (fields.filter fun entry => entry.1 != other) key =
      if other = key then none else field fields key := by
  induction fields with
  | nil => exact (ite_self none).symm
  | cons entry rest ih =>
    obtain ⟨k, v⟩ := entry
    rw [List.filter_cons, field_cons]
    by_cases same : k = other
    · subst same
      rw [bne_self_eq_false, if_neg Bool.false_ne_true, ih]
      by_cases here : k = key
      · rw [if_pos here, if_pos here]
      · rw [if_neg here, if_neg here, if_neg here]
    · rw [bne_iff_ne.mpr same, if_pos rfl, field_cons, ih]
      by_cases here : k = key
      · rw [if_pos here, if_pos here, if_neg fun wrong => same (here.trans wrong.symm)]
      · rw [if_neg here, if_neg here]

/-- The members under one key of an object without repetitions. -/
theorem filter_key (distinct : (fields.map Prod.fst).Nodup) :
    fields.filter (fun entry => entry.1 == key) = ((field fields key).map (key, ·)).toList := by
  induction fields with
  | nil => rfl
  | cons entry rest ih =>
    obtain ⟨k, v⟩ := entry
    obtain ⟨fresh, distinct⟩ := List.nodup_cons.mp distinct
    rw [List.filter_cons, field_cons, ih distinct]
    by_cases same : k = key
    · subst same
      rw [beq_self_eq_true, if_pos rfl, if_pos rfl, field_eq_none_iff.mpr fresh]
      rfl
    · rw [beq_false_of_ne same, if_neg Bool.false_ne_true, if_neg same]

theorem nodup_filter (keep : String × Value → Bool) (distinct : (fields.map Prod.fst).Nodup) :
    ((fields.filter keep).map Prod.fst).Nodup :=
  distinct.sublist (List.filter_sublist.map Prod.fst)

/-- A map has the keys of the object it is made of. -/
theorem mem_keys_insert : key ∈ (insert other value fields).map Prod.fst ↔
    key = other ∨ key ∈ fields.map Prod.fst := by
  rw [← field_isSome_iff, field_insert, ← field_isSome_iff]
  by_cases same : other = key
  · rw [if_pos same]
    exact iff_of_true rfl (Or.inl same.symm)
  · rw [if_neg same, or_iff_right (Ne.symm same)]

theorem mem_keys_collect {map : Fields} : key ∈ (collectFields fields map).map Prod.fst ↔
    key ∈ fields.map Prod.fst ∨ key ∈ map.map Prod.fst := by
  induction fields generalizing map with
  | nil => exact (or_iff_right List.not_mem_nil).symm
  | cons entry rest ih =>
    obtain ⟨k, v⟩ := entry
    rw [collectFields, ih, mem_keys_insert, List.map_cons, List.mem_cons, or_left_comm, or_assoc]

/-- What the map of an object without repetitions binds. -/
theorem field_collect_nil (distinct : (fields.map Prod.fst).Nodup) :
    field (collectFields fields []) key = (field fields key).map Value.collect := by
  by_cases present : key ∈ fields.map Prod.fst
  · exact field_collect [] distinct present
  · rw [field_collect_of_notMem present, field_eq_none_iff.mpr present]
    rfl

/-! ## The same members -/

/-- Two objects without repetitions that bind the same keys alike. -/
structure Same (fields fields' : Fields) : Prop where
  distinct : (fields.map Prod.fst).Nodup
  distinct' : (fields'.map Prod.fst).Nodup
  alike : ∀ key, field fields key = field fields' key

namespace Same

theorem refl (distinct : (fields.map Prod.fst).Nodup) : Same fields fields :=
  ⟨distinct, distinct, fun _ => rfl⟩

theorem of_perm (perm : fields.Perm fields') (distinct : (fields'.map Prod.fst).Nodup) :
    Same fields fields' := by
  have distinct' := (perm.map Prod.fst).nodup_iff.mpr distinct
  refine ⟨distinct', distinct, fun key => ?_⟩
  cases found : field fields' key with
  | none =>
    rw [field_eq_none_iff] at found ⊢
    exact fun present => found ((perm.map Prod.fst).mem_iff.mp present)
  | some value => exact field_of_mem distinct' (perm.mem_iff.mpr (mem_of_field found))

variable (same : Same fields fields')
include same

theorem mem_keys : key ∈ fields.map Prod.fst ↔ key ∈ fields'.map Prod.fst := by
  rw [← field_isSome_iff, same.alike, field_isSome_iff]

theorem members_eq (known : ∀ key ∈ fields'.map Prod.fst, key ∈ names) :
    members names (.object fields) = some fields :=
  if_pos ⟨same.distinct, fun key present => known key (same.mem_keys.mp present)⟩

theorem members_eq_none (unknown : ¬ ∀ key ∈ fields'.map Prod.fst, key ∈ names) :
    members names (.object fields) = none :=
  if_neg fun both => unknown fun key present => both.2 key (same.mem_keys.mpr present)

theorem length_eq : fields.length = fields'.length := by
  have perm : (fields.map Prod.fst).Perm (fields'.map Prod.fst) :=
    (List.perm_ext_iff_of_nodup same.distinct same.distinct').mpr fun key => same.mem_keys
  have lengths := perm.length_eq
  rwa [List.length_map, List.length_map] at lengths

theorem filter_ne (other : String) : Same (fields.filter fun entry => entry.1 != other)
    (fields'.filter fun entry => entry.1 != other) := by
  refine ⟨nodup_filter _ same.distinct, nodup_filter _ same.distinct', fun key => ?_⟩
  rw [field_filter_ne, field_filter_ne, same.alike]

theorem filter_eq : fields.filter (fun entry => entry.1 == key) =
    fields'.filter fun entry => entry.1 == key := by
  rw [filter_key same.distinct, filter_key same.distinct', same.alike]

end Same

/-! ## Items that are read one by one -/

section Items

variable {α β : Type} {f : α → Option β} {items : List α}

theorem mapM_eq_some_iff {others : List β} :
    items.mapM f = some others ↔ List.Forall₂ (fun item other => f item = some other) items others := by
  induction items generalizing others with
  | nil =>
    rw [List.mapM_nil, List.forall₂_nil_left_iff]
    exact Option.some_inj.trans eq_comm
  | cons item rest ih =>
    rw [List.mapM_cons, List.forall₂_cons_left_iff]
    constructor
    · intro read
      obtain ⟨other, first, read⟩ := Option.bind_eq_some_iff.mp read
      obtain ⟨others, later, same⟩ := Option.bind_eq_some_iff.mp read
      exact ⟨other, others, first, ih.mp later, (Option.some.inj same).symm⟩
    · intro ⟨other, others, first, later, same⟩
      rw [first, ih.mpr later, same]
      rfl

/-- What stands in one list has a partner in the other. -/
theorem exists_of_forall₂ {R : α → β → Prop} {others : List β} (related : List.Forall₂ R items others)
    {item : α} (member : item ∈ items) : ∃ other ∈ others, R item other := by
  induction related with
  | nil => cases member
  | cons here _ ih =>
    rcases List.mem_cons.mp member with rfl | later
    · exact ⟨_, List.mem_cons_self, here⟩
    · obtain ⟨other, among, holds⟩ := ih later
      exact ⟨other, List.mem_cons_of_mem _ among, holds⟩

theorem mapM_eq_none {item : α} (member : item ∈ items) (unread : f item = none) :
    items.mapM f = none := by
  induction items with
  | nil => cases member
  | cons first rest ih =>
    rw [List.mapM_cons]
    rcases List.mem_cons.mp member with rfl | later
    · rw [unread]
      rfl
    · rw [ih later]
      cases f first <;> rfl

end Items

end Json
