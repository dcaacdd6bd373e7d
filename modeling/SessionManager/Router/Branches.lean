import SessionManager.Router.Publications
import SessionManager.Router.Selector

/-!
# The branches of a published schema

A slot publishes one branch for each of its variants (`slot_branches`): the schema the variant
was registered with, its sessions as the selector's choice, and the selector required as soon
as the tool was listed more than once.
-/

namespace SessionManager

open Json Effect

/-- The schema that publishes some branches: the only one, or a choice between them. -/
def present : List Value → Value
  | [branch] => branch
  | branches => .object [("oneOf", .array branches), ("type", .string "object")]

/-- An active session registered the schema for a public tool of the name. -/
def Registered (snapshot : List SessionRecord) (session_id name : String) (schema : Value) : Prop :=
  ∃ p ∈ publications_of snapshot name, p.1.session_id = session_id ∧ p.2.input_schema = schema

/-- The tool was listed more than once, by one session or by several. -/
def listed_again (snapshot : List SessionRecord) (name : String) : Bool :=
  1 < (publishers snapshot name).length

/-- What a variant is published as. -/
def branch (listed_again : Bool) (variant : String × GroupAccumulator) : Value :=
  input_schema_with_session_selector variant.2.input_schema (sorted variant.2.session_ids)
    listed_again

variable {crates : Crates} {snapshot : List SessionRecord} {name : String}

/-- A variant holds at least one publication; it has the schema of the first. -/
theorem exists_of_mem_variants {variant : String × GroupAccumulator}
    (member : variant ∈ variants (buckets crates snapshot name)) :
    ∃ p ∈ publications_of snapshot name, p.hash crates = variant.1 ∧
      variant.2.input_schema = p.2.input_schema ∧ p.1.session_id ∈ variant.2.session_ids := by
  obtain ⟨hash, acc⟩ := variant
  have held := mem_variants.mp member
  cases filtered : (publications_of snapshot name).filter fun p => p.hash crates = hash with
  | nil =>
    rw [filtered] at held
    cases held
  | cons p ps =>
    rw [filtered] at held
    cases held
    have among : p ∈ (publications_of snapshot name).filter fun p => p.hash crates = hash :=
      filtered ▸ List.mem_cons_self
    obtain ⟨listed, same⟩ := List.mem_filter.mp among
    exact ⟨p, listed, of_decide_eq_true same, rfl, List.mem_cons_self⟩

/-- The sessions of a variant are those that publish a tool with its hash. -/
theorem mem_variant_session_ids {variant : String × GroupAccumulator} {session_id : String}
    (member : variant ∈ variants (buckets crates snapshot name)) :
    session_id ∈ variant.2.session_ids ↔
      ∃ p ∈ publications_of snapshot name, p.hash crates = variant.1 ∧ p.1.session_id = session_id := by
  obtain ⟨hash, acc⟩ := variant
  rw [accumulated_session_ids (mem_variants.mp member), List.mem_map]
  constructor
  · rintro ⟨p, among, own⟩
    obtain ⟨listed, same⟩ := List.mem_filter.mp among
    exact ⟨p, listed, of_decide_eq_true same, own⟩
  · rintro ⟨p, listed, same, own⟩
    exact ⟨p, List.mem_filter.mpr ⟨listed, decide_eq_true same⟩, own⟩

theorem length_session_ids :
    (session_ids (variants (buckets crates snapshot name))).length =
      (publishers snapshot name).length := by
  rw [session_ids_buckets, sorted, List.length_insertionSort]

/-- A tool with several variants was listed more than once. -/
theorem listed_again_of_variants {v v' : String × GroupAccumulator}
    {vs : List (String × GroupAccumulator)}
    (several : variants (buckets crates snapshot name) = v :: v' :: vs) :
    listed_again snapshot name = true := by
  have nonempty (w : String × GroupAccumulator)
      (member : w ∈ variants (buckets crates snapshot name)) : 0 < w.2.session_ids.length := by
    obtain ⟨p, -, -, -, among⟩ := exists_of_mem_variants member
    exact List.length_pos_of_mem among
  have first := nonempty v (by rw [several]; exact List.mem_cons_self)
  have second := nonempty v' (by rw [several]; exact List.mem_cons_of_mem _ List.mem_cons_self)
  refine decide_eq_true ?_
  rw [← length_session_ids, several, session_ids, sorted,
    List.length_insertionSort, List.flatMap_cons, List.flatMap_cons, List.length_append,
    List.length_append]
  omega

/-- A slot publishes one branch for each variant. -/
theorem slot_branches :
    (slot crates name (buckets crates snapshot name)).input_schema =
      present ((variants (buckets crates snapshot name)).map
        (branch (listed_again snapshot name))) := by
  have published : (slot crates name (buckets crates snapshot name)).input_schema =
      (slot_schema crates (variants (buckets crates snapshot name))
        (session_ids (variants (buckets crates snapshot name)))).2.2 := rfl
  rw [published]
  cases only : variants (buckets crates snapshot name) with
  | nil => rfl
  | cons v vs =>
    cases vs with
    | nil =>
      have all : session_ids [v] = sorted v.2.session_ids := by
        rw [session_ids, List.flatMap_singleton]
      rw [slot_schema, ← only, length_session_ids, only, all]
      rfl
    | cons v' vs =>
      rw [listed_again_of_variants only]
      rfl

end SessionManager
