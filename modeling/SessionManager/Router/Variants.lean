import SessionManager.Router.Canonical
import SessionManager.Router.Explicit
import SessionManager.Router.KeyOrder

/-!
# Schema variants

The branches of a published schema correspond to the schemas registered for the tool, as long
as their hashes tell them apart: each branch is a registered schema with the selector built in,
offering the sessions that registered it (`SchemaVariants`).  That the selector is required
only where there is a choice fails exactly for a tool that its only session lists again under
its only schema (`schema_variants_iff`).
-/

namespace SessionManager

open Json Effect

/-- There are several sessions, or several schemas, to choose from. -/
def Choice (snapshot : List SessionRecord) (name : String) : Prop :=
  Contested snapshot name ∨ ∃ session_id schema session_id' schema',
    Registered snapshot session_id name schema ∧ Registered snapshot session_id' name schema' ∧
      canonicalize schema ≠ canonicalize schema'

/-- Registered schemas are objects, with objects for properties and arrays for required. -/
def ObjectSchemas (snapshot : List SessionRecord) : Prop :=
  ∀ session_id name schema, Registered snapshot session_id name schema →
    ∃ fields, schema = .object fields ∧
      (∀ value, field fields "properties" = some value → ∃ properties, value = .object properties) ∧
      ∀ value, field fields "required" = some value → ∃ items, value = .array items

/-- Hashes tell the registered schemas apart, up to the order of keys. -/
def CollisionFree (crates : Crates) (snapshot : List SessionRecord) : Prop :=
  ∀ session_id session_id' name schema schema', Registered snapshot session_id name schema →
    Registered snapshot session_id' name schema' →
    schema_hash crates schema = schema_hash crates schema' → canonicalize schema = canonicalize schema'

/-- The branches of a slot, each a registered schema and what it is published as. -/
structure SlotVariants (snapshot : List SessionRecord) (slot : ProxySlot)
    (branches : List (Fields × Fields)) : Prop where
  schema : slot.input_schema = present (branches.map fun b => .object b.2)
  distinct : (branches.map fun b => canonicalize (.object b.1)).Nodup
  covers : ∀ session_id schema, Registered snapshot session_id slot.published_name schema →
    ∃ b ∈ branches, canonicalize (.object b.1) = canonicalize schema
  registered : ∀ b ∈ branches, ∃ session_id,
    Registered snapshot session_id slot.published_name (.object b.1)
  sessions : ∀ b ∈ branches, ∃ session_ids : List String,
    selector_enum (.object b.2) = some (.array (session_ids.map .string)) ∧
      ∀ session_id, session_id ∈ session_ids ↔ ∃ schema,
        Registered snapshot session_id slot.published_name schema ∧
          canonicalize schema = canonicalize (.object b.1)
  selector : ∀ b ∈ branches, WithSelector b.1 b.2 (Choice snapshot slot.published_name)

def SchemaVariants (crates : Crates) (snapshot : List SessionRecord) : Prop :=
  ∀ slot ∈ build_proxy_view crates snapshot, ∃ branches, SlotVariants snapshot slot branches

/-- A tool that is listed again leaves a choice, or requires the selector by itself. -/
def AgainByChoice (snapshot : List SessionRecord) : Prop :=
  ∀ name, listed_again snapshot name = true → ¬ Choice snapshot name →
    ∀ session_id schema, Registered snapshot session_id name schema → requires_selector schema = true

variable {crates : Crates} {snapshot : List SessionRecord} {name : String}

/-! ## Choices -/

theorem registered_of_mem {p : Publication} (listed : p ∈ publications_of snapshot name) :
    Registered snapshot p.1.session_id name p.2.input_schema := ⟨p, listed, rfl, rfl⟩

/-- Where there is a choice, the tool was listed more than once. -/
theorem listed_again_of_choice (choice : Choice snapshot name) :
    listed_again snapshot name = true := by
  have several {p q : Publication} (left : p ∈ publications_of snapshot name)
      (right : q ∈ publications_of snapshot name) (differ : p ≠ q) :
      listed_again snapshot name = true := by
    refine decide_eq_true ?_
    rw [publishers, List.length_map]
    cases listed : publications_of snapshot name with
    | nil =>
      rw [listed] at left
      cases left
    | cons first rest =>
      cases rest with
      | nil =>
        rw [listed, List.mem_singleton] at left right
        exact absurd (left.trans right.symm) differ
      | cons second rest => exact Nat.lt_add_left_iff_pos.mpr (Nat.succ_pos _)
  rcases choice with ⟨s, s', differ, left, right⟩ | ⟨_, _, _, _, left, right, differ⟩
  · rw [← mem_publishers, publishers, List.mem_map] at left right
    obtain ⟨p, left, rfl⟩ := left
    obtain ⟨q, right, rfl⟩ := right
    exact several left right fun same => differ (by rw [same])
  · obtain ⟨p, left, -, rfl⟩ := left
    obtain ⟨q, right, -, rfl⟩ := right
    exact several left right fun same => differ (by rw [same])

/-- Without a choice, all registered schemas are the same up to the order of keys. -/
theorem canonicalize_eq_of_no_choice (none : ¬ Choice snapshot name)
    {session_id session_id' : String} {schema schema' : Value}
    (left : Registered snapshot session_id name schema)
    (right : Registered snapshot session_id' name schema') :
    canonicalize schema = canonicalize schema' := by
  by_contra differ
  exact none (.inr ⟨_, _, _, _, left, right, differ⟩)

theorem schema_hash_eq_iff (free : CollisionFree crates snapshot)
    {session_id session_id' : String} {schema schema' : Value}
    (left : Registered snapshot session_id name schema)
    (right : Registered snapshot session_id' name schema') :
    schema_hash crates schema = schema_hash crates schema' ↔
      canonicalize schema = canonicalize schema' :=
  ⟨free _ _ _ _ _ left right, fun same => by rw [schema_hash, schema_hash, same]⟩

/-- A schema that requires the selector by itself requires it with or without a choice. -/
theorem WithSelector.of_requires {fields fields' : Fields} {choice choice' : Prop}
    (built : WithSelector fields fields' choice)
    (requires : requires_selector (.object fields) = true) :
    WithSelector fields fields' choice' := by
  have selects_items : selects (required_items fields) = true := requires
  have listed : field fields "required" = some (.array (required_items fields)) := by
    unfold required_items at selects_items ⊢
    split
    · assumption
    · rename_i absent
      split at selects_items
      · rename_i present
        exact absurd present (absent _)
      · cases selects_items
  have kept : field fields' "required" = some (.array (required_items fields)) := by
    by_cases here : choice
    · rw [built.chosen here, if_pos selects_items]
    · rw [built.unchosen here, listed]
  exact ⟨built.kept, built.type, built.properties, fun _ => by rw [kept, if_pos selects_items],
    fun _ => kept.trans listed.symm⟩

/-! ## The branches of a slot -/

/-- A variant as a branch: the fields it was registered with, and those it is published with. -/
def variant_fields (again : Bool) (variant : String × GroupAccumulator) : Fields × Fields :=
  (object_or_empty (some variant.2.input_schema), object_or_empty (some (branch again variant)))

theorem object_branch (again : Bool) (variant : String × GroupAccumulator) :
    Value.object (variant_fields again variant).2 = branch again variant := by
  rw [variant_fields, branch, input_schema_with_session_selector_eq]
  rfl

theorem object_registered (objects : ObjectSchemas snapshot) (again : Bool)
    {variant : String × GroupAccumulator}
    (member : variant ∈ variants (buckets crates snapshot name)) :
    Value.object (variant_fields again variant).1 = variant.2.input_schema := by
  obtain ⟨p, listed, -, same, -⟩ := exists_of_mem_variants member
  obtain ⟨fields, object, -⟩ := objects _ _ _ (registered_of_mem listed)
  rw [variant_fields, same, object]
  rfl

/-- The hash of a variant is that of its schema. -/
theorem hash_of_variant {variant : String × GroupAccumulator}
    (member : variant ∈ variants (buckets crates snapshot name)) :
    variant.1 = schema_hash crates variant.2.input_schema := by
  obtain ⟨p, -, hash, same, -⟩ := exists_of_mem_variants member
  rw [same, ← hash, Publication.hash]

theorem variant_registered {variant : String × GroupAccumulator}
    (member : variant ∈ variants (buckets crates snapshot name)) :
    ∃ session_id, Registered snapshot session_id name variant.2.input_schema := by
  obtain ⟨p, listed, -, same, -⟩ := exists_of_mem_variants member
  exact ⟨_, same ▸ registered_of_mem listed⟩

/-- A schema that was registered is in a variant. -/
theorem variant_of_registered (crates : Crates) {session_id : String} {schema : Value}
    (registered : Registered snapshot session_id name schema) :
    ∃ variant ∈ variants (buckets crates snapshot name), variant.1 = schema_hash crates schema := by
  obtain ⟨p, listed, -, rfl⟩ := registered
  exact List.mem_map.mp (hash_mem_variants listed)

/-- The selector of a branch offers the sessions of its variant. -/
theorem selector_enum_branch (again : Bool) {variant : String × GroupAccumulator}
    (member : variant ∈ variants (buckets crates snapshot name)) :
    selector_enum (branch again variant) =
      some (.array ((sorted variant.2.session_ids).map .string)) := by
  refine selector_enum_input_schema fun none => ?_
  obtain ⟨p, -, -, -, among⟩ := exists_of_mem_variants member
  have listed : p.1.session_id ∈ sorted variant.2.session_ids :=
    (List.mem_insertionSort _).mpr among
  rw [none] at listed
  cases listed

theorem variants_canonical (objects : ObjectSchemas snapshot) (again : Bool) :
    (((variants (buckets crates snapshot name)).map (variant_fields again)).map
      fun b => canonicalize (.object b.1)).Nodup := by
  refine List.Nodup.of_map (fun value => crates.sha256 value.text) ?_
  have hashes : (((variants (buckets crates snapshot name)).map (variant_fields again)).map
      fun b => canonicalize (.object b.1)).map (fun value => crates.sha256 value.text) =
      (variants (buckets crates snapshot name)).map Prod.fst := by
    rw [List.map_map, List.map_map]
    refine List.map_congr_left fun variant member => ?_
    simp only [Function.comp_def, object_registered objects again member]
    exact (hash_of_variant member).symm
  rw [hashes]
  exact nodup_variants _

/-- The variants are the branches of a slot, when listing a tool again leaves a choice. -/
theorem slot_variants (free : CollisionFree crates snapshot) (objects : ObjectSchemas snapshot)
    (by_choice : AgainByChoice snapshot) {published : ProxySlot}
    (member : published ∈ build_proxy_view crates snapshot) :
    SlotVariants snapshot published
      ((variants (buckets crates snapshot published.published_name)).map
        (variant_fields (listed_again snapshot published.published_name))) := by
  obtain ⟨-, -, schema⟩ := slot_published member
  have each {b : Fields × Fields}
      (among : b ∈ (variants (buckets crates snapshot published.published_name)).map
        (variant_fields (listed_again snapshot published.published_name))) :
      ∃ variant ∈ variants (buckets crates snapshot published.published_name),
        variant_fields (listed_again snapshot published.published_name) variant = b ∧
          Value.object b.1 = variant.2.input_schema := by
    obtain ⟨variant, here, rfl⟩ := List.mem_map.mp among
    exact ⟨variant, here, rfl, object_registered objects _ here⟩
  constructor
  · rw [schema, List.map_map]
    simp only [Function.comp_def, object_branch]
  · exact variants_canonical objects _
  · intro session_id schema registered
    obtain ⟨variant, here, hash⟩ := variant_of_registered crates registered
    obtain ⟨_, own⟩ := variant_registered here
    refine ⟨_, List.mem_map_of_mem here, ?_⟩
    rw [object_registered objects _ here]
    exact (schema_hash_eq_iff free own registered).mp ((hash_of_variant here).symm.trans hash)
  · intro b among
    obtain ⟨variant, here, -, same⟩ := each among
    rw [same]
    exact variant_registered here
  · intro b among
    obtain ⟨variant, here, rfl, same⟩ := each among
    rw [object_branch]
    refine ⟨_, selector_enum_branch _ here, fun session_id => ?_⟩
    obtain ⟨_, own⟩ := variant_registered here
    rw [sorted, List.mem_insertionSort, mem_variant_session_ids here, same]
    constructor
    · rintro ⟨p, listed, hash, rfl⟩
      refine ⟨_, registered_of_mem listed, ?_⟩
      refine (schema_hash_eq_iff free (registered_of_mem listed) own).mp ?_
      rw [← hash_of_variant here, ← hash, Publication.hash]
    · rintro ⟨schema, ⟨p, listed, own', rfl⟩, same'⟩
      refine ⟨p, listed, ?_, own'⟩
      rw [Publication.hash, hash_of_variant here, schema_hash, schema_hash, same']
  · intro b among
    obtain ⟨variant, here, rfl, same⟩ := each among
    obtain ⟨fields', published_as, built⟩ := with_selector (variant_fields
      (listed_again snapshot published.published_name) variant).1 (sorted variant.2.session_ids)
        (listed_again snapshot published.published_name)
    rw [same, ← branch, ← object_branch, Value.object.injEq] at published_as
    rw [published_as]
    by_cases choice : Choice snapshot published.published_name
    · have again := listed_again_of_choice choice
      exact ⟨built.kept, built.type, built.properties, fun _ => built.chosen again,
        fun none => absurd choice none⟩
    · by_cases again : listed_again snapshot published.published_name = true
      · obtain ⟨session_id, own⟩ := variant_registered here
        refine built.of_requires ?_
        rw [same]
        exact by_choice _ again choice _ _ own
      · exact ⟨built.kept, built.type, built.properties, fun here => absurd here choice,
          fun _ => built.unchosen again⟩

/-- A slot whose only branch offers no choice requires the selector only as registered. -/
theorem SlotVariants.requires (objects : ObjectSchemas snapshot) {published : ProxySlot}
    (member : published ∈ build_proxy_view crates snapshot) {branches : List (Fields × Fields)}
    (held : SlotVariants snapshot published branches)
    (again : listed_again snapshot published.published_name = true)
    (none : ¬ Choice snapshot published.published_name) {session_id : String} {schema : Value}
    (registered : Registered snapshot session_id published.published_name schema) :
    requires_selector schema = true := by
  obtain ⟨-, -, actual⟩ := slot_published member
  obtain ⟨b, among, same⟩ := held.covers session_id schema registered
  have only : branches = [b] := by
    refine eq_singleton_of_nodup (held.distinct.of_map _) among fun b' among' => ?_
    obtain ⟨_, own⟩ := held.registered b among
    obtain ⟨_, own'⟩ := held.registered b' among'
    exact List.inj_on_of_nodup_map held.distinct among' among
      (canonicalize_eq_of_no_choice none own' own)
  have single : ∃ variant, variants (buckets crates snapshot published.published_name) =
      [variant] := by
    obtain ⟨variant, here, -⟩ := variant_of_registered crates registered
    refine ⟨variant, eq_singleton_of_nodup ((nodup_variants _).of_map _) here
      fun variant' here' => ?_⟩
    refine List.inj_on_of_nodup_map (nodup_variants _) here' here ?_
    obtain ⟨_, own⟩ := variant_registered here
    obtain ⟨_, own'⟩ := variant_registered here'
    rw [hash_of_variant here, hash_of_variant here', schema_hash, schema_hash,
      canonicalize_eq_of_no_choice none own' own]
  obtain ⟨variant, variant_only⟩ := single
  have published_as : Value.object b.2 =
      branch (listed_again snapshot published.published_name) variant := by
    have schema := held.schema.symm.trans actual
    rw [only, variant_only] at schema
    exact schema
  have requires : requires_selector (.object b.2) = true := by
    rw [published_as, branch, requires_selector_input_schema, again, Bool.true_or]
  have kept := (held.selector b among).unchosen none
  have requires' : requires_selector (.object b.1) = true := by
    rw [← requires]
    change selects (required_items b.1) = selects (required_items b.2)
    rw [required_items, required_items, kept]
  obtain ⟨fields, rfl, -⟩ := objects _ _ _ registered
  rw [← requires_selector_canonicalize, ← same, requires_selector_canonicalize, requires']

/-- **The branches of every slot are its registered schemas with the selector built in, if and
only if a tool that is listed again leaves a choice or requires the selector by itself.** -/
theorem schema_variants_iff (free : CollisionFree crates snapshot)
    (objects : ObjectSchemas snapshot) :
    SchemaVariants crates snapshot ↔ AgainByChoice snapshot := by
  constructor
  · intro held name again none session_id schema registered
    obtain ⟨p, listed, -⟩ := id registered
    have some : publications_of snapshot name ≠ [] := List.ne_nil_of_mem listed
    have member : slot crates name (buckets crates snapshot name) ∈
        build_proxy_view crates snapshot := mem_build_proxy_view.mpr ⟨some, rfl⟩
    obtain ⟨branches, variants⟩ := held _ member
    exact variants.requires objects member again none registered
  · exact fun by_choice published member => ⟨_, slot_variants free objects by_choice member⟩

/-! ## A session that lists its only schema twice -/

theorem one_client_registered {tools : List ToolDescriptor} {session_id : String} {schema : Value}
    (registered : Registered (one_client tools).inner.values session_id name schema) :
    session_id = "s" ∧ ∃ tool ∈ tools, tool.input_schema = schema := by
  obtain ⟨p, listed, rfl, rfl⟩ := registered
  obtain ⟨member, published, -⟩ := mem_publications_of.mp listed
  have only := List.mem_singleton.mp member
  have tool := (mem_published.mp published).2.1
  rw [only] at tool ⊢
  exact ⟨rfl, p.2, tool, rfl⟩

theorem one_client_no_choice {tools : List ToolDescriptor} {schema : Value}
    (alike : ∀ tool ∈ tools, tool.input_schema = schema) :
    ¬ Choice (one_client tools).inner.values name := by
  rintro (⟨s, s', differ, left, right⟩ | ⟨_, _, _, _, left, right, differ⟩)
  · rw [← mem_publishers, publishers, List.mem_map] at left right
    obtain ⟨q, here, rfl⟩ := left
    obtain ⟨q', here', rfl⟩ := right
    exact differ ((one_client_registered (registered_of_mem here)).1.trans
      (one_client_registered (registered_of_mem here')).1.symm)
  · obtain ⟨-, tool, member, rfl⟩ := one_client_registered left
    obtain ⟨-, tool', member', rfl⟩ := one_client_registered right
    exact differ (by rw [alike tool member, alike tool' member'])

theorem one_client_schemas {tools : List ToolDescriptor}
    (alike : ∀ tool ∈ tools, tool.input_schema = .object []) (crates : Crates) :
    CollisionFree crates (one_client tools).inner.values ∧
      ObjectSchemas (one_client tools).inner.values := by
  constructor
  · intro _ _ _ _ _ left right _
    exact canonicalize_eq_of_no_choice (one_client_no_choice alike) left right
  · intro _ _ schema registered
    obtain ⟨-, tool, member, rfl⟩ := one_client_registered registered
    refine ⟨[], alike tool member, ?_, ?_⟩
    · exact fun _ found => by cases found
    · exact fun _ found => by cases found

/-- The only session of a tool is required to be named when it lists the tool twice. -/
theorem twice_listed_requires_selector :
    ∃ reg, Reached none reg ∧ ∀ crates, CollisionFree crates reg.inner.values ∧
      ObjectSchemas reg.inner.values ∧ ¬ SchemaVariants crates reg.inner.values := by
  refine ⟨one_client [plain_tool, plain_tool], one_client_reached _, fun crates => ?_⟩
  have alike : ∀ tool ∈ [plain_tool, plain_tool], tool.input_schema = .object [] := by
    intro tool member
    rcases List.mem_cons.mp member with rfl | member
    · rfl
    · rw [List.mem_singleton.mp member]
      rfl
  obtain ⟨free, objects⟩ := one_client_schemas alike crates
  refine ⟨free, objects, fun held => ?_⟩
  have member : slot crates "t"
      (buckets crates (one_client [plain_tool, plain_tool]).inner.values "t") ∈
      build_proxy_view crates (one_client [plain_tool, plain_tool]).inner.values :=
    mem_build_proxy_view.mpr ⟨(by decide : publications_of _ "t" ≠ []), rfl⟩
  obtain ⟨branches, variants⟩ := held _ member
  have registered : Registered (one_client [plain_tool, plain_tool]).inner.values "s" "t"
      (.object []) := ⟨(_, plain_tool), List.mem_cons_self, rfl, rfl⟩
  have requires := variants.requires objects member
    (by decide : listed_again (one_client [plain_tool, plain_tool]).inner.values "t" = true)
    (one_client_no_choice alike) registered
  cases requires

/-! ## Two sessions that list a schema each -/

/-- The plain tool with a schema of its own. -/
def sized_tool (a b : Int) : ToolDescriptor := { plain_tool with input_schema := sizes a b }

/-- Two sessions list the tool once, each with its own schema. -/
def sized_clients : SessionRegistry := two_clients [sized_tool 1 2] [sized_tool 2 1, internal_tool "t"]

theorem sized_registered {session_id : String} {schema : Value}
    (registered : Registered sized_clients.inner.values session_id name schema) :
    schema = sizes 1 2 ∨ schema = sizes 2 1 := by
  obtain ⟨p, listed, -, rfl⟩ := registered
  obtain ⟨member, published, -⟩ := mem_publications_of.mp listed
  rcases mem_two_clients member with ⟨-, tools⟩ | ⟨-, tools⟩
  · rw [tools] at published
    have own : p.2 = sized_tool 2 1 := List.mem_singleton.mp published
    exact .inr (by rw [own]; rfl)
  · rw [tools] at published
    have own : p.2 = sized_tool 1 2 := List.mem_singleton.mp published
    exact .inl (by rw [own]; rfl)

theorem sized_clients_list_once : ListsOnce sized_clients.inner.values := by
  intro record member name
  rcases mem_two_clients member with ⟨-, published⟩ | ⟨-, published⟩
  · rw [published]
    exact List.length_filter_le _ [sized_tool 2 1]
  · rw [published]
    exact List.length_filter_le _ [sized_tool 1 2]

theorem once_listed_schema_variants : SchemaVariants hashing_crates sized_clients.inner.values := by
  have free : CollisionFree hashing_crates sized_clients.inner.values := by
    intro _ _ _ _ _ left right same
    rcases sized_registered left with rfl | rfl
    all_goals rcases sized_registered right with rfl | rfl
    all_goals revert same; decide
  have objects : ObjectSchemas sized_clients.inner.values := by
    intro _ _ _ registered
    rcases sized_registered registered with rfl | rfl
    · refine ⟨_, rfl, fun value found => ?_, fun value found => ?_⟩
      · cases found
        exact ⟨_, rfl⟩
      · cases found
    · refine ⟨_, rfl, fun value found => ?_, fun value found => ?_⟩
      · cases found
        exact ⟨_, rfl⟩
      · cases found
  refine (schema_variants_iff free objects).mpr fun name again none => ?_
  have once := (nodup_publishers_iff (by decide)).mpr sized_clients_list_once name
  exact absurd (.inl ((listed_again_iff once).mp again)) none

end SessionManager
