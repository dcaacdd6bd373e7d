import SessionManager.Json.Reordered
import SessionManager.Router.Canonical

/-!
# What a schema's hash depends on

`canonicalize` reorders keys and nothing else, and it forgets every order they may have had:
two values that list each key once have one normal form exactly when they are equal up to the
order of keys at every depth.  The hash of a schema is the digest of the text of that form.
-/

namespace SessionManager

open Json

variable {a b : Value} {fields : Fields}

/-! ## Nothing else changes -/

theorem canonicalizeFields_perm (distinct : (fields.map Prod.fst).Nodup) :
    (canonicalizeFields fields).Perm (fields.map fun entry => (entry.1, canonicalize entry.2)) := by
  induction fields with
  | nil =>
    rw [canonicalizeFields]
    exact .refl _
  | cons entry rest ih =>
    obtain ⟨key, value⟩ := entry
    obtain ⟨new, distinct⟩ := List.nodup_cons.mp distinct
    have perm := ih distinct
    have keys : ((canonicalizeFields rest).map Prod.fst).Perm (rest.map Prod.fst) := by
      simpa [Function.comp_def] using perm.map Prod.fst
    rw [canonicalizeFields]
    have unbound : key ∉ (canonicalizeFields rest).map Prod.fst := fun bound => new (keys.mem_iff.mp bound)
    exact (insert_perm _ unbound).trans (perm.cons _)

/-- A normal form is a reordering of the value it is made of. -/
theorem reordered_canonicalize (distinct : a.Distinct) : Reordered a (canonicalize a) := by
  induction a using Value.induction with
  | array items ih =>
    rw [canonicalize, canonicalizeItems_eq_map]
    refine .each_item ?_
    rw [List.forall₂_map_right_iff, List.forall₂_same]
    exact fun item member => ih item member (distinct.of_item item member)
  | object fields ih =>
    have inside : ∀ entry ∈ fields, Reordered entry.2 (canonicalize entry.2) :=
      fun entry member => ih entry member (distinct.of_member entry member)
    rw [canonicalize]
    exact (Reordered.each_member inside).trans (.keys (canonicalizeFields_perm distinct.nodup).symm)
  | null | bool | number | string => simpa [canonicalize] using Reordered.refl _

/-! ## Every order is forgotten -/

theorem canonicalizeFields_congr {before after after' : Fields}
    (same : canonicalizeFields after = canonicalizeFields after') :
    canonicalizeFields (before ++ after) = canonicalizeFields (before ++ after') := by
  induction before with
  | nil => exact same
  | cons entry rest ih => rw [List.cons_append, List.cons_append, canonicalizeFields, canonicalizeFields, ih]

/-- Reorderings have one normal form. -/
theorem canonicalize_eq_of_reordered (same : Reordered a b) (distinct : a.Distinct) :
    canonicalize a = canonicalize b := by
  induction same with
  | refl => rfl
  | trans first _ ih ih' => exact (ih distinct).trans (ih' (first.distinct distinct))
  | keys perm =>
    have distinct' := ((Reordered.keys perm).distinct distinct).nodup
    rw [canonicalize_object_eq_iff]
    exact fun key => by rw [(Same.of_perm perm distinct').alike]
  | item before after _ ih =>
    have inner := ih (distinct.of_item _ (by simp))
    rw [canonicalize_array_eq_iff]
    simp [inner]
  | member before key after _ ih =>
    have inner := ih (distinct.of_member (key, _) (by simp))
    rw [canonicalize, canonicalize, Value.object.injEq]
    exact canonicalizeFields_congr (by rw [canonicalizeFields, canonicalizeFields, inner])

theorem canonicalize_eq_iff (distinct : a.Distinct) (distinct' : b.Distinct) :
    canonicalize a = canonicalize b ↔ Reordered a b := by
  refine ⟨fun same => ?_, fun same => canonicalize_eq_of_reordered same distinct⟩
  have left := reordered_canonicalize distinct
  rw [same] at left
  exact left.trans (reordered_canonicalize distinct').symm

theorem canonicalize_canonicalize (value : Value) : canonicalize (canonicalize value) = canonicalize value := by
  induction value using Value.induction with
  | array items ih =>
    have again : canonicalize (.array (canonicalizeItems items)) = canonicalize (.array items) := by
      rw [canonicalize_array_eq_iff, canonicalizeItems_eq_map, List.map_map]
      exact List.map_congr_left ih
    have form : canonicalize (.array items) = .array (canonicalizeItems items) := by rw [canonicalize]
    rw [form, again, form]
  | object fields ih =>
    have again : canonicalize (.object (canonicalizeFields fields)) = canonicalize (.object fields) := by
      rw [canonicalize_object_eq_iff]
      intro key
      rw [field_canonicalizeFields]
      cases found : field fields key with
      | none => rfl
      | some value => simpa using ih (key, value) (mem_of_field found)
    have form : canonicalize (.object fields) = .object (canonicalizeFields fields) := by rw [canonicalize]
    rw [form, again, form]
  | null | bool | number | string => simp [canonicalize]

/-- Where two printed normal forms and their digests are told apart, so are the hashes, exactly up
to the order of keys. -/
theorem hash_forgets_key_order (crates : Crates) (distinct : a.Distinct) (distinct' : b.Distinct) :
    (canonicalize a = canonicalize b ↔ Reordered a b) ∧
      canonicalize (canonicalize a) = canonicalize a ∧
      (((canonicalize a).text = (canonicalize b).text → canonicalize a = canonicalize b) →
        (crates.sha256 (canonicalize a).text = crates.sha256 (canonicalize b).text →
          (canonicalize a).text = (canonicalize b).text) →
        (schema_hash crates a = schema_hash crates b ↔ Reordered a b)) := by
  have normal := canonicalize_eq_iff distinct distinct'
  refine ⟨normal, canonicalize_canonicalize a, fun printed free => ?_⟩
  rw [← normal, schema_hash, schema_hash]
  exact ⟨fun same => printed (free same), fun same => by rw [same]⟩

/-- The decoders with the digests of two schemas. -/
def hashing_crates : Crates :=
  { permissive_crates with
    sha256 := fun text =>
      if text = "\x7b\"properties\":\x7b\"a\":1,\"b\":2\x7d,\"type\":\"object\"\x7d" then
        "d1d5077126dd18ae7554f0edfae1199e2222b01e83ad69b0fa1a2a70b80f21b8"
      else "6b7546141bc9e6510281eebe2956b8932be5b78d8003722cc02556a86bc1bdf5" }

def sizes (a b : Int) : Value :=
  .object [("type", .string "object"), ("properties", .object [("a", .number (.int a)), ("b", .number (.int b))])]

def sizes_reordered (a b : Int) : Value :=
  .object [("properties", .object [("b", .number (.int b)), ("a", .number (.int a))]), ("type", .string "object")]

theorem distinct_sizes (a b : Int) : (sizes a b).Distinct ∧ (sizes_reordered a b).Distinct := by
  constructor <;>
  · refine .object (by simp) ?_
    simp only [List.mem_cons, List.not_mem_nil, or_false, forall_eq_or_imp, forall_eq]
    refine ⟨?_, ?_⟩ <;> first | exact .string _ | refine .object (by simp) ?_
    simpa using ⟨.number _, .number _⟩

theorem sizes_hash_alike :
    schema_hash hashing_crates (sizes 1 2) = schema_hash hashing_crates (sizes_reordered 1 2) ∧
      ¬ Reordered (sizes 1 2) (sizes 2 1) := by
  have alike := hash_forgets_key_order hashing_crates (distinct_sizes 1 2).1 (distinct_sizes 1 2).2
  have differ := hash_forgets_key_order hashing_crates (distinct_sizes 1 2).1 (distinct_sizes 2 1).1
  constructor
  · exact (alike.2.2 (fun _ => by decide) fun _ => by decide).mpr (alike.1.mp (by decide))
  · exact fun same => absurd ((differ.2.2 (by decide) (by decide)).mpr same) (by decide)

end SessionManager
