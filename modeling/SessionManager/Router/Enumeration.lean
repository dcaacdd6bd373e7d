import SessionManager.Router.Explicit

/-!
# Views and the order of the registry

A registry enumerates its records in no particular order.  Everything in a view is sorted or
does not depend on that order, except what a bucket takes from the first record that lists the
tool: its description and its schema.  `same_views_iff` says when this shows.
-/

namespace SessionManager

open Json Effect

/-- The publications a bucket may start with: the first one of each record. -/
def firsts (crates : Crates) (snapshot : List SessionRecord) (name hash : String) :
    List Publication :=
  snapshot.filterMap fun record =>
    ((record.published.map fun tool => (record, tool)).filter fun p =>
      p.2.name = name ∧ Publication.hash crates p = hash).head?

/-- The sessions that publish a tool under one hash. -/
def bucket_sessions (crates : Crates) (snapshot : List SessionRecord) (name hash : String) :
    List String :=
  ((publications_of snapshot name).filter fun p => p.hash crates = hash).map fun p => p.1.session_id

/-- Records that may come first in a bucket agree on the published schema, and also on the
description, unless the tool has schemas with other hashes. -/
def OrderFree (crates : Crates) (snapshot : List SessionRecord) : Prop :=
  ∀ name hash, ∀ p ∈ firsts crates snapshot name hash, ∀ q ∈ firsts crates snapshot name hash,
    input_schema_with_session_selector p.2.input_schema
        (sorted (bucket_sessions crates snapshot name hash)) (listed_again snapshot name) =
      input_schema_with_session_selector q.2.input_schema
        (sorted (bucket_sessions crates snapshot name hash)) (listed_again snapshot name) ∧
    ((∀ r ∈ publications_of snapshot name, r.hash crates = hash) →
      p.2.description = q.2.description)

variable {crates : Crates} {snapshot snapshot' : List SessionRecord} {name hash : String}

/-! ## Kinds -/

theorem mem_foldl_add_kind {kinds init : List String} {kind : String} :
    kind ∈ kinds.foldl add_kind init ↔ kind ∈ init ∨ kind ∈ kinds := by
  induction kinds generalizing init with
  | nil => exact (or_iff_left List.not_mem_nil).symm
  | cons k kinds ih =>
    rw [List.foldl_cons, ih, add_kind, List.mem_cons]
    split
    · rename_i known
      refine ⟨Or.imp_right .inr, ?_⟩
      rintro (here | rfl | later)
      · exact .inl here
      · exact .inl known
      · exact .inr later
    · rw [List.mem_append, List.mem_singleton, or_assoc]

theorem nodup_foldl_add_kind {kinds init : List String} (distinct : init.Nodup) :
    (kinds.foldl add_kind init).Nodup := by
  induction kinds generalizing init with
  | nil => exact distinct
  | cons k kinds ih =>
    refine ih ?_
    rw [add_kind]
    split
    · exact distinct
    · rename_i fresh
      refine List.nodup_append.mpr ⟨distinct, List.nodup_singleton k, fun a member b here => ?_⟩
      rw [List.mem_singleton.mp here]
      rintro rfl
      exact fresh member

/-- Kinds are sorted alike if they are the same kinds. -/
theorem sorted_kinds_eq {kinds kinds' : List String} (same : ∀ kind, kind ∈ kinds ↔ kind ∈ kinds') :
    sorted (kinds.foldl add_kind []) = sorted (kinds'.foldl add_kind []) := by
  rw [sorted_eq_iff_perm, List.perm_ext_iff_of_nodup (nodup_foldl_add_kind List.nodup_nil)
    (nodup_foldl_add_kind List.nodup_nil)]
  intro kind
  rw [mem_foldl_add_kind, mem_foldl_add_kind, same]

/-! ## Enumerations of the same records -/

theorem perm_publications_of (perm : snapshot'.Perm snapshot) (name : String) :
    (publications_of snapshot' name).Perm (publications_of snapshot name) :=
  (perm.flatMap_right _).filter _

theorem perm_publishers (perm : snapshot'.Perm snapshot) (name : String) :
    (publishers snapshot' name).Perm (publishers snapshot name) :=
  (perm_publications_of perm name).map _

/-- A name resolves alike in views of the same records. -/
theorem resolve_published_perm (perm : snapshot'.Perm snapshot) (name : String)
    (requested_session_id : Option String) :
    resolve_published name (build_proxy_view crates snapshot') requested_session_id =
      resolve_published name (build_proxy_view crates snapshot) requested_session_id := by
  have published := perm_publishers perm name
  have none : publishers snapshot' name = [] ↔ publishers snapshot name = [] := by
    rw [← List.length_eq_zero_iff, published.length_eq, List.length_eq_zero_iff]
  have listed : sorted (publishers snapshot' name) = sorted (publishers snapshot name) :=
    insertionSort_eq_iff_perm.mpr published
  rw [resolve_published_view, resolve_published_view, listed]
  simp only [none]

theorem listed_again_eq (perm : snapshot'.Perm snapshot) (name : String) :
    listed_again snapshot' name = listed_again snapshot name := by
  rw [listed_again, listed_again, (perm_publishers perm name).length_eq]

/-- The accumulator under a hash that has publications. -/
def bucket (crates : Crates) (snapshot : List SessionRecord) (name hash : String) :
    GroupAccumulator :=
  (accumulated ((publications_of snapshot name).filter fun p => p.hash crates = hash)).getD
    { description := none, input_schema := .null, session_ids := [], kinds := [] }

/-- The hashes of the variants of a tool, in order. -/
def hashes (crates : Crates) (snapshot : List SessionRecord) (name : String) : List String :=
  (variants (buckets crates snapshot name)).map Prod.fst

theorem variants_eq_map :
    variants (buckets crates snapshot name) =
      (hashes crates snapshot name).map fun hash => (hash, bucket crates snapshot name hash) := by
  rw [hashes, List.map_map]
  refine (List.map_id _).symm.trans (List.map_congr_left fun variant member => ?_)
  obtain ⟨hash, acc⟩ := variant
  simp only [id_eq, Function.comp_def, bucket, mem_variants.mp member, Option.getD_some]

theorem mem_hashes :
    hash ∈ hashes crates snapshot name ↔ ∃ p ∈ publications_of snapshot name, p.hash crates = hash := by
  constructor
  · intro member
    obtain ⟨variant, here, rfl⟩ := List.mem_map.mp member
    obtain ⟨p, listed, same, -⟩ := exists_of_mem_variants here
    exact ⟨p, listed, same⟩
  · rintro ⟨p, listed, rfl⟩
    exact hash_mem_variants listed

theorem nodup_hashes : (hashes crates snapshot name).Nodup := nodup_variants _

/-- The hashes of a tool do not depend on the order. -/
theorem hashes_eq (perm : snapshot'.Perm snapshot) :
    hashes crates snapshot' name = hashes crates snapshot name := by
  have ordered (snapshot : List SessionRecord) :
      (hashes crates snapshot name).Pairwise (· ≤ ·) := by
    rw [hashes, List.pairwise_map]
    exact List.pairwise_insertionSort (fun a b : String × GroupAccumulator => a.1 ≤ b.1) _
  refine List.Perm.eq_of_pairwise (fun a b _ _ => le_antisymm) (ordered _) (ordered _) ?_
  rw [List.perm_ext_iff_of_nodup nodup_hashes nodup_hashes]
  intro hash
  simp only [mem_hashes, (perm_publications_of perm name).mem_iff]

/-- A bucket has the description and the schema of its first publication. -/
theorem bucket_cons {p : Publication} {ps : List Publication}
    (filtered : ((publications_of snapshot name).filter fun p => p.hash crates = hash) = p :: ps) :
    (bucket crates snapshot name hash).description = p.2.description ∧
      (bucket crates snapshot name hash).input_schema = p.2.input_schema := by
  rw [bucket, filtered]
  exact ⟨rfl, rfl⟩

theorem bucket_session_ids :
    (bucket crates snapshot name hash).session_ids = bucket_sessions crates snapshot name hash := by
  rw [bucket, bucket_sessions]
  cases (publications_of snapshot name).filter fun p => p.hash crates = hash <;> rfl

theorem bucket_kinds :
    (bucket crates snapshot name hash).kinds =
      (((publications_of snapshot name).filter fun p => p.hash crates = hash).map
        fun p => p.1.kind).foldl add_kind [] := by
  rw [bucket]
  cases (publications_of snapshot name).filter fun p => p.hash crates = hash <;> rfl

theorem filter_bucket :
    ((publications_of snapshot name).filter fun p => p.hash crates = hash) =
      (publications snapshot).filter fun p => p.2.name = name ∧ p.hash crates = hash := by
  rw [publications_of, List.filter_filter]
  refine List.filter_congr fun p _ => ?_
  rw [Bool.decide_and, Bool.and_comm]

/-- What a bucket starts with is the first publication of its record. -/
theorem head_mem_firsts {p : Publication} {ps : List Publication}
    (filtered : ((publications_of snapshot name).filter fun p => p.hash crates = hash) = p :: ps) :
    p ∈ firsts crates snapshot name hash := by
  rw [filter_bucket, publications] at filtered
  rw [firsts]
  induction snapshot with
  | nil => cases filtered
  | cons record snapshot ih =>
    rw [List.flatMap_cons, List.filter_append] at filtered
    rw [List.filterMap_cons]
    cases own : (record.published.map fun tool => (record, tool)).filter fun p =>
        decide (p.2.name = name ∧ Publication.hash crates p = hash) with
    | nil =>
      rw [own, List.nil_append] at filtered
      exact ih filtered
    | cons q qs =>
      rw [own] at filtered
      cases filtered
      exact List.mem_cons_self

/-- Any record that has one can come first. -/
theorem exists_perm_of_firsts {p : Publication} (first : p ∈ firsts crates snapshot name hash) :
    ∃ snapshot' : List SessionRecord, snapshot'.Perm snapshot ∧ ∃ ps,
      ((publications_of snapshot' name).filter fun p => p.hash crates = hash) = p :: ps := by
  obtain ⟨record, member, head⟩ := List.mem_filterMap.mp first
  refine ⟨record :: snapshot.erase record, (List.perm_cons_erase member).symm, ?_⟩
  rw [filter_bucket, publications, List.flatMap_cons, List.filter_append]
  obtain ⟨ps, own⟩ := List.head?_eq_some_iff.mp head
  rw [own]
  exact ⟨_, rfl⟩

theorem exists_filtered (member : hash ∈ hashes crates snapshot name) :
    ∃ p ps, ((publications_of snapshot name).filter fun p => p.hash crates = hash) = p :: ps := by
  obtain ⟨p, listed, same⟩ := mem_hashes.mp member
  have among : p ∈ (publications_of snapshot name).filter fun p => p.hash crates = hash :=
    List.mem_filter.mpr ⟨listed, decide_eq_true same⟩
  exact List.exists_cons_of_ne_nil (List.ne_nil_of_mem among)

/-! ## Slots -/

theorem mem_variant_kinds {kind : String} :
    kind ∈ (variants (buckets crates snapshot name)).flatMap (fun variant => variant.2.kinds) ↔
      ∃ p ∈ publications_of snapshot name, p.1.kind = kind := by
  rw [variants_eq_map, List.flatMap_map, List.mem_flatMap]
  simp only [bucket_kinds, mem_foldl_add_kind, List.not_mem_nil, false_or, List.mem_map,
    List.mem_filter, decide_eq_true_iff]
  constructor
  · rintro ⟨hash, -, p, ⟨listed, -⟩, own⟩
    exact ⟨p, listed, own⟩
  · rintro ⟨p, listed, own⟩
    exact ⟨p.hash crates, mem_hashes.mpr ⟨p, listed, rfl⟩, p, ⟨listed, rfl⟩, own⟩

/-- The schema of a slot, from the buckets of its hashes. -/
theorem slot_input_schema :
    (slot crates name (buckets crates snapshot name)).input_schema =
      present ((hashes crates snapshot name).map fun hash =>
        input_schema_with_session_selector (bucket crates snapshot name hash).input_schema
          (sorted (bucket_sessions crates snapshot name hash)) (listed_again snapshot name)) := by
  rw [slot_branches, variants_eq_map, List.map_map]
  refine congrArg present (List.map_congr_left fun hash _ => ?_)
  rw [Function.comp_apply, branch, bucket_session_ids]

theorem slot_description_hash :
    (slot crates name (buckets crates snapshot name)).description =
        (match hashes crates snapshot name with
          | [hash] => (bucket crates snapshot name hash).description
          | _ => some ("ClientProxy tool with session-specific schemas; select one of: " ++
              ", ".intercalate (sorted (publishers snapshot name)))) ∧
      (slot crates name (buckets crates snapshot name)).schema_hash =
        (match hashes crates snapshot name with
          | [hash] => hash
          | _ => schema_hash crates
              (slot crates name (buckets crates snapshot name)).input_schema) := by
  have schema : slot_schema crates (variants (buckets crates snapshot name))
      (session_ids (variants (buckets crates snapshot name))) =
        ((slot crates name (buckets crates snapshot name)).schema_hash,
          (slot crates name (buckets crates snapshot name)).description,
          (slot crates name (buckets crates snapshot name)).input_schema) := rfl
  rw [session_ids_buckets, variants_eq_map] at schema
  cases listed : hashes crates snapshot name with
  | nil =>
    rw [listed] at schema
    obtain ⟨hash, description, input_schema⟩ := Prod.mk.inj schema |>.imp id Prod.mk.inj
    rw [← hash, ← description, ← input_schema]
    exact ⟨rfl, rfl⟩
  | cons first rest =>
    rw [listed] at schema
    cases rest with
    | nil =>
      obtain ⟨hash, description, -⟩ := Prod.mk.inj schema |>.imp id Prod.mk.inj
      exact ⟨description.symm, hash.symm⟩
    | cons second rest =>
      obtain ⟨hash, description, input_schema⟩ := Prod.mk.inj schema |>.imp id Prod.mk.inj
      rw [← hash, ← description, ← input_schema]
      exact ⟨rfl, rfl⟩

/-- A slot is the same from any order, when the first records of its buckets agree. -/
theorem slot_eq (free : OrderFree crates snapshot) (perm : snapshot'.Perm snapshot) :
    slot crates name (buckets crates snapshot' name) =
      slot crates name (buckets crates snapshot name) := by
  have same_hashes : hashes crates snapshot' name = hashes crates snapshot name := hashes_eq perm
  have sessions (hash : String) :
      sorted (bucket_sessions crates snapshot' name hash) =
        sorted (bucket_sessions crates snapshot name hash) :=
    sorted_eq_iff_perm.mpr (((perm_publications_of perm name).filter _).map _)
  have agree {hash : String} (member : hash ∈ hashes crates snapshot name) :
      input_schema_with_session_selector (bucket crates snapshot' name hash).input_schema
          (sorted (bucket_sessions crates snapshot' name hash)) (listed_again snapshot' name) =
        input_schema_with_session_selector (bucket crates snapshot name hash).input_schema
          (sorted (bucket_sessions crates snapshot name hash)) (listed_again snapshot name) ∧
      ((∀ r ∈ publications_of snapshot name, r.hash crates = hash) →
        (bucket crates snapshot' name hash).description =
          (bucket crates snapshot name hash).description) := by
    obtain ⟨p, ps, here⟩ := exists_filtered member
    obtain ⟨p', ps', there⟩ := exists_filtered (same_hashes ▸ member)
    have first := head_mem_firsts here
    have first' : p' ∈ firsts crates snapshot name hash :=
      (perm.filterMap _).mem_iff.mp (head_mem_firsts there)
    rw [(bucket_cons here).1, (bucket_cons here).2, (bucket_cons there).1, (bucket_cons there).2,
      sessions, listed_again_eq perm]
    exact free name hash p' first' p first
  have schema : (slot crates name (buckets crates snapshot' name)).input_schema =
      (slot crates name (buckets crates snapshot name)).input_schema := by
    rw [slot_input_schema, slot_input_schema, same_hashes]
    exact congrArg present (List.map_congr_left fun hash member => (agree member).1)
  have described : (slot crates name (buckets crates snapshot' name)).description =
      (slot crates name (buckets crates snapshot name)).description := by
    rw [slot_description_hash.1, slot_description_hash.1, same_hashes,
      sorted_eq_iff_perm.mpr (perm_publishers perm name)]
    split
    · rename_i hash only
      refine (agree (only ▸ List.mem_singleton_self hash)).2 fun r listed => ?_
      have among : r.hash crates ∈ hashes crates snapshot name := mem_hashes.mpr ⟨r, listed, rfl⟩
      rw [only] at among
      exact List.mem_singleton.mp among
    · rfl
  have hashed : (slot crates name (buckets crates snapshot' name)).schema_hash =
      (slot crates name (buckets crates snapshot name)).schema_hash := by
    rw [slot_description_hash.2, slot_description_hash.2, same_hashes, schema]
  have kinds : (slot crates name (buckets crates snapshot' name)).kinds =
      (slot crates name (buckets crates snapshot name)).kinds :=
    sorted_kinds_eq fun kind => by
      simp only [mem_variant_kinds, (perm_publications_of perm name).mem_iff]
  have listed : (slot crates name (buckets crates snapshot' name)).session_ids =
      (slot crates name (buckets crates snapshot name)).session_ids := by
    refine (session_ids_buckets _ _ _).trans (Eq.trans ?_ (session_ids_buckets _ _ _).symm)
    exact sorted_eq_iff_perm.mpr (perm_publishers perm name)
  exact ProxySlot.ext kinds rfl rfl hashed described schema listed

/-! ## Views -/

/-- Views with the same slots are the same. -/
theorem view_ext
    (same : ∀ published, published ∈ build_proxy_view crates snapshot' ↔
      published ∈ build_proxy_view crates snapshot) :
    build_proxy_view crates snapshot' = build_proxy_view crates snapshot := by
  have ordered (snapshot : List SessionRecord) : (build_proxy_view crates snapshot).Pairwise
      fun a b => a.published_name ≤ b.published_name :=
    List.pairwise_insertionSort (fun a b : ProxySlot => a.published_name ≤ b.published_name) _
  refine List.Perm.eq_of_pairwise (fun a b left right below above => ?_) (ordered _) (ordered _) ?_
  · exact List.inj_on_of_nodup_map nodup_view left ((same b).mpr right) (le_antisymm below above)
  · exact (List.perm_ext_iff_of_nodup (nodup_view.of_map _) (nodup_view.of_map _)).mpr same

theorem view_eq (free : OrderFree crates snapshot) (perm : snapshot'.Perm snapshot) :
    build_proxy_view crates snapshot' = build_proxy_view crates snapshot := by
  refine view_ext fun published => ?_
  rw [mem_build_proxy_view, mem_build_proxy_view, slot_eq free perm, ne_eq, ne_eq,
    ← List.length_eq_zero_iff, ← List.length_eq_zero_iff,
    (perm_publications_of perm _).length_eq]

/-- Choices between as many branches are the same only if the branches are. -/
theorem present_inj {hashes : List String} {f g : String → Value}
    (same : present (hashes.map f) = present (hashes.map g)) : ∀ hash ∈ hashes, f hash = g hash := by
  have maps : hashes.map f = hashes.map g := by
    cases hashes with
    | nil => rfl
    | cons first rest =>
      cases rest with
      | nil => exact congrArg (fun branch => [branch]) same
      | cons second rest =>
        have fields := Value.object.inj same
        exact Value.array.inj (Prod.mk.inj (List.cons.inj fields).1).2
  exact List.map_inj_left.mp maps

/-- Two records that may come first show the same, if no order makes a difference. -/
theorem order_free_of_same_views
    (same : ∀ snapshot' snapshot'' : List SessionRecord, snapshot'.Perm snapshot →
      snapshot''.Perm snapshot →
      build_proxy_view crates snapshot' = build_proxy_view crates snapshot'') :
    OrderFree crates snapshot := by
  intro name hash p first q first'
  obtain ⟨snapshot', perm, ps, here⟩ := exists_perm_of_firsts first
  obtain ⟨snapshot'', perm', qs, there⟩ := exists_perm_of_firsts first'
  have among : p ∈ (publications_of snapshot' name).filter fun p => p.hash crates = hash :=
    here ▸ List.mem_cons_self
  obtain ⟨listed, hashed⟩ := List.mem_filter.mp among
  have views := same snapshot' snapshot'' perm perm'
  have slots : slot crates name (buckets crates snapshot' name) =
      slot crates name (buckets crates snapshot'' name) := by
    have member : slot crates name (buckets crates snapshot' name) ∈
        build_proxy_view crates snapshot' :=
      mem_build_proxy_view.mpr ⟨List.ne_nil_of_mem listed, rfl⟩
    rw [views] at member
    exact (mem_build_proxy_view.mp member).2
  have hashes' : hashes crates snapshot' name = hashes crates snapshot'' name :=
    (hashes_eq perm).trans (hashes_eq perm').symm
  have member : hash ∈ hashes crates snapshot' name := mem_hashes.mpr ⟨p, listed, of_decide_eq_true hashed⟩
  have sessions {snapshot' : List SessionRecord} (perm : snapshot'.Perm snapshot) :
      sorted (bucket_sessions crates snapshot' name hash) =
        sorted (bucket_sessions crates snapshot name hash) :=
    sorted_eq_iff_perm.mpr (((perm_publications_of perm name).filter _).map _)
  constructor
  · have schema := congrArg ProxySlot.input_schema slots
    rw [slot_input_schema, slot_input_schema, ← hashes'] at schema
    have branches := present_inj schema hash member
    rwa [(bucket_cons here).2, (bucket_cons there).2, sessions perm, sessions perm',
      listed_again_eq perm, listed_again_eq perm'] at branches
  · intro only
    have single : hashes crates snapshot' name = [hash] := by
      refine eq_singleton_of_nodup nodup_hashes member fun hash' member' => ?_
      obtain ⟨r, listed', rfl⟩ := mem_hashes.mp member'
      exact only r ((perm_publications_of perm name).mem_iff.mp listed')
    have described := congrArg ProxySlot.description slots
    rw [slot_description_hash.1, slot_description_hash.1, ← hashes', single] at described
    dsimp only at described
    rwa [(bucket_cons here).1, (bucket_cons there).1] at described

/-- **The view and the tools of a registry are the same from every order, if and only if the
records that may come first in a bucket agree on what it takes from them.** -/
theorem same_views_iff :
    (∀ snapshot' snapshot'' : List SessionRecord, snapshot'.Perm snapshot →
      snapshot''.Perm snapshot →
      build_proxy_view crates snapshot' = build_proxy_view crates snapshot'' ∧
        proxy_tools (build_proxy_view crates snapshot') =
          proxy_tools (build_proxy_view crates snapshot'')) ↔
      OrderFree crates snapshot := by
  constructor
  · exact fun same => order_free_of_same_views fun _ _ perm perm' => (same _ _ perm perm').1
  · intro free snapshot' snapshot'' perm perm'
    have views := (view_eq free perm).trans (view_eq free perm').symm
    exact ⟨views, congrArg proxy_tools views⟩

/-! ## Two sessions that describe a tool differently -/

def described (description : String) : ToolDescriptor :=
  { plain_tool with description := some description }

/-- Two orders of one registry show the tool with two descriptions. -/
theorem described_twice_is_ambiguous :
    ∃ reg, Reached none reg ∧ ∀ crates, ∃ snapshot snapshot', reg.enumerates snapshot ∧
      reg.enumerates snapshot' ∧
      build_proxy_view crates snapshot ≠ build_proxy_view crates snapshot' := by
  refine ⟨two_clients [described "a"] [described "b"], two_clients_reached _ _, fun crates => ?_⟩
  by_contra same
  have free : OrderFree crates (two_clients [described "a"] [described "b"]).inner.values := by
    refine order_free_of_same_views fun snapshot' snapshot'' perm perm' => ?_
    by_contra differ
    exact same ⟨snapshot', snapshot'', perm, perm', differ⟩
  have first (record : SessionRecord) (tool : ToolDescriptor)
      (member : record ∈ (two_clients [described "a"] [described "b"]).inner.values) (only : record.published = [tool])
      (named : tool.name = "t") (empty : tool.input_schema = .object []) :
      (record, tool) ∈ firsts crates (two_clients [described "a"] [described "b"]).inner.values "t"
        (schema_hash crates (.object [])) := by
    refine List.mem_filterMap.mpr ⟨record, member, ?_⟩
    rw [only, List.map_singleton, List.filter_cons_of_pos]
    · rfl
    · exact decide_eq_true ⟨named, congrArg (schema_hash crates) empty⟩
  have agree := free "t" (schema_hash crates (.object [])) _
    (first _ (described "a") (List.mem_cons_of_mem _ List.mem_cons_self) rfl rfl rfl) _
    (first _ (described "b") List.mem_cons_self rfl rfl rfl)
  have descriptions := agree.2 fun r listed => by
    obtain ⟨member, published, -⟩ := mem_publications_of.mp listed
    have tools : r.2 = described "a" ∨ r.2 = described "b" := by
      rcases List.mem_cons.mp member with here | member
      · rw [here] at published
        exact .inr (List.mem_singleton.mp published)
      · rw [List.mem_singleton.mp member] at published
        exact .inl (List.mem_singleton.mp published)
    rw [Publication.hash]
    rcases tools with here | here <;> rw [here] <;> rfl
  exact absurd (show some "a" = some "b" from descriptions) (by decide)

end SessionManager
