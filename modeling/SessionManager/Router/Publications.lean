import SessionManager.Effect.Group
import SessionManager.Router
import Mathlib.Data.String.Basic

/-!
# What a view is made of

The view is a function of the publications of the snapshot: the public tools of its active
records, one after the other.  `group_tools_get` says which publications a group holds,
`get_buckets` which of them a bucket holds, and `resolve_published_view` what the view
resolves a name to.
-/

namespace SessionManager

open Json Effect

/-- The tools of an active record that agents may see. -/
def SessionRecord.published (record : SessionRecord) : List ToolDescriptor :=
  if record.state = .Active then record.tools.filter fun tool => tool.visibility.is_public else []

abbrev Publication := SessionRecord × ToolDescriptor

def publications (snapshot : List SessionRecord) : List Publication :=
  snapshot.flatMap fun record => record.published.map fun tool => (record, tool)

def publications_of (snapshot : List SessionRecord) (name : String) : List Publication :=
  (publications snapshot).filter fun p => p.2.name = name

/-- The sessions that publish a tool, each as often as it lists the tool. -/
def publishers (snapshot : List SessionRecord) (name : String) : List String :=
  (publications_of snapshot name).map fun p => p.1.session_id

variable (crates : Crates)

def Publication.hash (p : Publication) : String := schema_hash crates p.2.input_schema

variable {crates} {snapshot : List SessionRecord} {name : String}

/-! ## Publications of a snapshot -/

theorem mem_published {record : SessionRecord} {tool : ToolDescriptor} :
    tool ∈ record.published ↔
      record.state = .Active ∧ tool ∈ record.tools ∧ tool.visibility.is_public = true := by
  rw [SessionRecord.published]
  split
  · rename_i active
    rw [List.mem_filter, and_iff_right active]
  · rename_i inactive
    exact iff_of_false List.not_mem_nil fun listed => inactive listed.1

theorem publications_cons (record : SessionRecord) (snapshot : List SessionRecord) :
    publications (record :: snapshot) =
      (record.published.map fun tool => (record, tool)) ++ publications snapshot :=
  List.flatMap_cons

theorem mem_publications {p : Publication} :
    p ∈ publications snapshot ↔ p.1 ∈ snapshot ∧ p.2 ∈ p.1.published := by
  obtain ⟨record, tool⟩ := p
  simp only [publications, List.mem_flatMap, List.mem_map, Prod.mk.injEq]
  constructor
  · rintro ⟨record, member, tool, listed, rfl, rfl⟩
    exact ⟨member, listed⟩
  · rintro ⟨member, listed⟩
    exact ⟨record, member, tool, listed, rfl, rfl⟩

theorem mem_publications_of {p : Publication} :
    p ∈ publications_of snapshot name ↔
      p.1 ∈ snapshot ∧ p.2 ∈ p.1.published ∧ p.2.name = name := by
  rw [publications_of, List.mem_filter, mem_publications, decide_eq_true_iff, and_assoc]

/-- The publishers are the sessions whose active record publishes the tool. -/
theorem mem_publishers {session_id : String} :
    session_id ∈ publishers snapshot name ↔ Published snapshot session_id name := by
  simp only [publishers, List.mem_map, mem_publications_of, mem_published]
  constructor
  · rintro ⟨⟨record, tool⟩, ⟨member, ⟨active, listed, visible⟩, rfl⟩, rfl⟩
    refine ⟨record, member, rfl, active, tool, listed, ?_⟩
    simp only [ToolDescriptor.publishes, beq_self_eq_true, visible, Bool.and_self]
  · rintro ⟨record, member, rfl, active, tool, listed, publishes⟩
    rw [ToolDescriptor.publishes, Bool.and_eq_true, beq_iff_eq] at publishes
    exact ⟨(record, tool), ⟨member, ⟨active, listed, publishes.2⟩, publishes.1⟩, rfl⟩

theorem publications_of_eq_nil :
    publications_of snapshot name = [] ↔ ∀ session_id, ¬ Published snapshot session_id name := by
  rw [← List.map_eq_nil_iff (f := fun p : Publication => p.1.session_id), ← publishers,
    List.eq_nil_iff_forall_not_mem]
  exact forall_congr' fun session_id => not_congr mem_publishers

/-! ## Groups and buckets -/

/-- What a bucket holds after a publication. -/
def add_publication (acc : Option GroupAccumulator) (p : Publication) : GroupAccumulator :=
  let acc := acc.getD
    { description := p.2.description
      input_schema := p.2.input_schema
      session_ids := []
      kinds := [] }
  { acc with
    session_ids := acc.session_ids ++ [p.1.session_id]
    kinds := add_kind acc.kinds p.1.kind }

def add_to_group (crates : Crates) (group : Option (HashMap String GroupAccumulator))
    (p : Publication) : HashMap String GroupAccumulator :=
  let buckets := group.getD .empty
  buckets.insert (p.hash crates) (add_publication (buckets.get (p.hash crates)) p)

theorem add_tool_public {record : SessionRecord} {groups : Groups} {tool : ToolDescriptor}
    (visible : tool.visibility.is_public = true) :
    add_tool crates record groups tool =
      groups.insert tool.name (add_to_group crates (groups.get tool.name) (record, tool)) := by
  rw [add_tool, if_pos visible]
  rfl

/-- The groups are folded from the publications alone. -/
theorem group_tools_eq :
    group_tools crates snapshot =
      HashMap.group_by (fun p : Publication => p.2.name) (add_to_group crates)
        (publications snapshot) .empty := by
  have tools (record : SessionRecord) (tools : List ToolDescriptor) (groups : Groups) :
      tools.foldl (add_tool crates record) groups =
        HashMap.group_by (fun p : Publication => p.2.name) (add_to_group crates)
          ((tools.filter fun tool => tool.visibility.is_public).map fun tool => (record, tool))
          groups := by
    induction tools generalizing groups with
    | nil => rfl
    | cons tool tools ih =>
      rw [List.foldl_cons, ih]
      by_cases visible : tool.visibility.is_public = true
      · rw [List.filter_cons, if_pos visible, add_tool_public visible]
        rfl
      · rw [List.filter_cons, if_neg visible, add_tool, if_neg visible]
  rw [group_tools]
  generalize HashMap.empty = groups
  induction snapshot generalizing groups with
  | nil => rfl
  | cons record snapshot ih =>
    rw [List.foldl_cons, ih, publications_cons, HashMap.group_by, HashMap.group_by,
      List.foldl_append, add_record, SessionRecord.published]
    split
    · rw [tools]
      rfl
    · rfl

/-- The buckets of the group of a name. -/
def buckets (crates : Crates) (snapshot : List SessionRecord) (name : String) :
    HashMap String GroupAccumulator :=
  HashMap.group_by (Publication.hash crates) add_publication (publications_of snapshot name) .empty

theorem foldl_add_to_group (ps : List Publication) (group : Option (HashMap String GroupAccumulator)) :
    ps.foldl (fun group p => some (add_to_group crates group p)) group =
      if ps = [] then group
      else some (HashMap.group_by (Publication.hash crates) add_publication ps
        (group.getD .empty)) := by
  induction ps generalizing group with
  | nil => rfl
  | cons p ps ih =>
    rw [List.foldl_cons, ih, if_neg (List.cons_ne_nil p ps)]
    split
    · rename_i last
      subst last
      rfl
    · rfl

/-- A name has a group if it has publications. -/
theorem group_tools_get :
    (group_tools crates snapshot).get name =
      if publications_of snapshot name = [] then none else some (buckets crates snapshot name) := by
  rw [group_tools_eq, HashMap.get_group_by, foldl_add_to_group]
  rfl

/-- The accumulator of some publications, if there are any. -/
def accumulated : List Publication → Option GroupAccumulator
  | [] => none
  | p :: ps => some
    { description := p.2.description
      input_schema := p.2.input_schema
      session_ids := (p :: ps).map fun p => p.1.session_id
      kinds := ((p :: ps).map fun p => p.1.kind).foldl add_kind [] }

theorem foldl_add_publication (ps : List Publication) (acc : GroupAccumulator) :
    ps.foldl (fun acc p => some (add_publication acc p)) (some acc) = some
      { acc with
        session_ids := acc.session_ids ++ ps.map fun p => p.1.session_id
        kinds := (ps.map fun p => p.1.kind).foldl add_kind acc.kinds } := by
  induction ps generalizing acc with
  | nil => rw [List.map_nil, List.append_nil]; rfl
  | cons p ps ih =>
    rw [List.foldl_cons, ih, List.map_cons, List.append_cons]
    rfl

/-- A bucket holds the publications of the group with its hash. -/
theorem get_buckets (hash : String) :
    (buckets crates snapshot name).get hash =
      accumulated ((publications_of snapshot name).filter fun p => p.hash crates = hash) := by
  rw [buckets, HashMap.get_group_by, HashMap.get_empty]
  cases (publications_of snapshot name).filter fun p => p.hash crates = hash with
  | nil => rfl
  | cons p ps => exact foldl_add_publication ps _

theorem mem_variants {hash : String} {acc : GroupAccumulator} :
    (hash, acc) ∈ variants (buckets crates snapshot name) ↔
      accumulated ((publications_of snapshot name).filter fun p => p.hash crates = hash) =
        some acc := by
  rw [variants, List.mem_insertionSort, HashMap.mem_to_list, get_buckets]

/-- The hashes of the variants are distinct. -/
theorem nodup_variants (buckets : HashMap String GroupAccumulator) :
    ((variants buckets).map Prod.fst).Nodup :=
  ((List.perm_insertionSort _ _).map Prod.fst).nodup_iff.mpr (HashMap.nodup_keys_to_list buckets)

theorem accumulated_session_ids {ps : List Publication} {acc : GroupAccumulator}
    (held : accumulated ps = some acc) : acc.session_ids = ps.map fun p => p.1.session_id := by
  cases ps with
  | nil => cases held
  | cons p ps =>
    cases held
    rfl

/-- Every publication is in a variant. -/
theorem hash_mem_variants {p : Publication} (member : p ∈ publications_of snapshot name) :
    p.hash crates ∈ (variants (buckets crates snapshot name)).map Prod.fst := by
  have among : p ∈ (publications_of snapshot name).filter fun q => q.hash crates = p.hash crates :=
    List.mem_filter.mpr ⟨member, decide_eq_true rfl⟩
  cases held : accumulated
      ((publications_of snapshot name).filter fun q => q.hash crates = p.hash crates) with
  | none =>
    cases filtered : (publications_of snapshot name).filter
        fun q => q.hash crates = p.hash crates with
    | nil => exact absurd (filtered ▸ among) List.not_mem_nil
    | cons q ps =>
      rw [filtered] at held
      cases held
  | some acc => exact List.mem_map.mpr ⟨_, mem_variants.mpr held, rfl⟩

/-! ## Slots -/

theorem sorted_eq_iff_perm {texts texts' : List String} :
    sorted texts = sorted texts' ↔ texts.Perm texts' :=
  insertionSort_eq_iff_perm

/-- A slot lists the publishers of its tool, sorted. -/
theorem session_ids_buckets (crates : Crates) (snapshot : List SessionRecord) (name : String) :
    session_ids (variants (buckets crates snapshot name)) = sorted (publishers snapshot name) := by
  have each : (variants (buckets crates snapshot name)).flatMap (fun variant => variant.2.session_ids) =
      (((variants (buckets crates snapshot name)).map Prod.fst).flatMap fun hash =>
        (publications_of snapshot name).filter fun p => p.hash crates = hash).map
          fun p => p.1.session_id := by
    rw [List.flatMap_map, List.map_flatMap]
    refine List.flatMap_congr fun variant member => ?_
    obtain ⟨hash, acc⟩ := variant
    exact accumulated_session_ids (mem_variants.mp member)
  rw [session_ids, each]
  refine sorted_eq_iff_perm.mpr (List.Perm.map _ ?_)
  exact perm_flatMap_key (nodup_variants _) fun p => hash_mem_variants

/-- The slots of a view have distinct names. -/
theorem nodup_view :
    ((build_proxy_view crates snapshot).map ProxySlot.published_name).Nodup := by
  refine ((List.perm_insertionSort _ _).map _).nodup_iff.mpr ?_
  rw [List.map_map]
  exact HashMap.nodup_keys_to_list _

/-- The slots of a view are those of the published names. -/
theorem mem_build_proxy_view {published : ProxySlot} :
    published ∈ build_proxy_view crates snapshot ↔
      publications_of snapshot published.published_name ≠ [] ∧
        published = slot crates published.published_name
          (buckets crates snapshot published.published_name) := by
  rw [build_proxy_view, List.mem_insertionSort, List.mem_map]
  constructor
  · rintro ⟨⟨name, group⟩, member, rfl⟩
    rw [HashMap.mem_to_list, group_tools_get] at member
    split at member
    · cases member
    · rename_i some
      cases member
      exact ⟨some, rfl⟩
  · rintro ⟨some, same⟩
    refine ⟨(published.published_name, buckets crates snapshot published.published_name), ?_,
      same.symm⟩
    rw [HashMap.mem_to_list, group_tools_get, if_neg some]

/-- The slot a view has for a name. -/
theorem find_slot :
    (build_proxy_view crates snapshot).find? (fun slot => slot.published_name == name) =
      if publications_of snapshot name = [] then none
      else some (slot crates name (buckets crates snapshot name)) := by
  split
  · rename_i none
    refine List.find?_eq_none.mpr fun published member named => ?_
    have here := (mem_build_proxy_view.mp member).1
    rw [eq_of_beq named] at here
    exact here none
  · rename_i some
    exact (find_key nodup_view).mpr ⟨mem_build_proxy_view.mpr ⟨some, rfl⟩, rfl⟩

/-! ## Resolving a name -/

/-- Which of the sessions that publish a tool a call goes to. -/
def resolve_among (name : String) (session_ids : List String) :
    Option String → Except ResolveError ResolvedCall
  | some session_id =>
    if session_id ∈ session_ids then .ok { session_id, tool_name := name }
    else .error (.SessionToolMismatch name session_id)
  | none =>
    match session_ids with
    | [session_id] => .ok { session_id, tool_name := name }
    | session_ids => .error (.SessionRequired name session_ids)

/-- A view resolves a name by its publishers alone. -/
theorem resolve_published_view (requested_session_id : Option String) :
    resolve_published name (build_proxy_view crates snapshot) requested_session_id =
      if publishers snapshot name = [] then .error .NotProxyTool
      else resolve_among name (sorted (publishers snapshot name)) requested_session_id := by
  have none_iff : publishers snapshot name = [] ↔ publications_of snapshot name = [] :=
    List.map_eq_nil_iff
  rw [resolve_published, find_slot]
  by_cases none : publications_of snapshot name = []
  · rw [if_pos none, if_pos (none_iff.mpr none)]
  · rw [if_neg none, if_neg (mt none_iff.mp none), ← session_ids_buckets crates snapshot name]
    cases requested_session_id with
    | none => rfl
    | some session_id =>
      simp only [resolve_among, ← List.contains_iff_mem]
      rfl

/-- A resolved call keeps its name and leads to a session that publishes it. -/
theorem resolve_published_ok {requested_session_id : Option String} {resolved : ResolvedCall}
    (ok : resolve_published name (build_proxy_view crates snapshot) requested_session_id =
      .ok resolved) :
    resolved.tool_name = name ∧ Published snapshot resolved.session_id name := by
  rw [resolve_published_view] at ok
  split at ok
  · cases ok
  · cases requested_session_id with
    | some session_id =>
      rw [resolve_among] at ok
      split at ok
      · rename_i among
        cases ok
        exact ⟨rfl, mem_publishers.mp ((List.mem_insertionSort _).mp among)⟩
      · cases ok
    | none =>
      simp only [resolve_among] at ok
      split at ok
      · rename_i only
        cases ok
        refine ⟨rfl, mem_publishers.mp ((List.mem_insertionSort (· ≤ ·)).mp ?_)⟩
        rw [← sorted, only]
        exact List.mem_singleton_self _
      · cases ok

end SessionManager
