import SessionManager.Registry.Reached
import SessionManager.Router.Branches

/-!
# Explicit routing

What the router promises about a view (`ExplicitRouting`): one slot for each published name,
listing every session that publishes it once; a call without `session_id` succeeds exactly if
there is one such session; and the selector is required exactly if there are several.  A view
keeps the promise if and only if no active record lists a public tool twice
(`explicit_routing_iff`).
-/

namespace SessionManager

open Json Effect

/-- Two different sessions publish the tool. -/
def Contested (snapshot : List SessionRecord) (name : String) : Prop :=
  ∃ session_id session_id', session_id ≠ session_id' ∧ Published snapshot session_id name ∧
    Published snapshot session_id' name

structure ExplicitRouting (crates : Crates) (snapshot : List SessionRecord) : Prop where
  slots : ((build_proxy_view crates snapshot).map ProxySlot.published_name).Nodup ∧
    ∀ name, name ∈ (build_proxy_view crates snapshot).map ProxySlot.published_name ↔
      ∃ session_id, Published snapshot session_id name
  sessions : ∀ slot ∈ build_proxy_view crates snapshot, slot.session_ids.Nodup ∧
    ∀ session_id, session_id ∈ slot.session_ids ↔ Published snapshot session_id slot.published_name
  implicit : ∀ name resolved,
    resolve_published name (build_proxy_view crates snapshot) none = .ok resolved ↔
      resolved.tool_name = name ∧
        ∀ session_id, Published snapshot session_id name ↔ session_id = resolved.session_id
  explicit : ∀ name session_id resolved,
    resolve_published name (build_proxy_view crates snapshot) (some session_id) = .ok resolved ↔
      resolved = { session_id, tool_name := name } ∧ Published snapshot session_id name
  required : ∀ slot ∈ build_proxy_view crates snapshot, ∃ branches : List (Value × Value),
    branches ≠ [] ∧ slot.input_schema = present (branches.map Prod.snd) ∧
      ∀ b ∈ branches, (∃ session_id, Registered snapshot session_id slot.published_name b.1) ∧
        (requires_selector b.2 = true ↔
          requires_selector b.1 = true ∨ Contested snapshot slot.published_name)

/-- No active record lists a public tool twice. -/
def ListsOnce (snapshot : List SessionRecord) : Prop :=
  ∀ record ∈ snapshot, ∀ name, (record.published.filter fun tool => tool.name = name).length ≤ 1

variable {crates : Crates} {snapshot : List SessionRecord} {name : String}

/-! ## Publishers that are listed once -/

theorem publishers_eq_flatMap :
    publishers snapshot name = snapshot.flatMap fun record =>
      List.replicate (record.published.filter fun tool => tool.name = name).length
        record.session_id := by
  rw [publishers, publications_of, publications, List.filter_flatMap, List.map_flatMap]
  refine List.flatMap_congr fun record _ => ?_
  rw [List.filter_map, List.map_map, List.eq_replicate_iff, List.length_map]
  refine ⟨rfl, fun session_id member => ?_⟩
  obtain ⟨tool, -, rfl⟩ := List.mem_map.mp member
  rfl

/-- Publishers are listed once each, if no record lists the tool twice. -/
theorem nodup_publishers_iff (distinct : (snapshot.map SessionRecord.session_id).Nodup) :
    (∀ name, (publishers snapshot name).Nodup) ↔ ListsOnce snapshot := by
  have apart (name : String) : snapshot.Pairwise (Function.onFun List.Disjoint fun record =>
      List.replicate (record.published.filter fun tool => tool.name = name).length
        record.session_id) := by
    refine (List.pairwise_map.mp distinct).imp fun {a b} differ session_id left right => differ ?_
    exact (List.eq_of_mem_replicate left).symm.trans (List.eq_of_mem_replicate right)
  simp only [publishers_eq_flatMap, List.nodup_flatMap, apart, and_true, List.nodup_replicate]
  exact ⟨fun once record member name => once name record member,
    fun once name record member => once record member name⟩

/-- Publishers that are listed once are several, if two of them differ. -/
theorem listed_again_iff (once : (publishers snapshot name).Nodup) :
    listed_again snapshot name = true ↔ Contested snapshot name := by
  simp only [listed_again, decide_eq_true_iff, Contested, ← mem_publishers]
  constructor
  · intro several
    cases listed : publishers snapshot name with
    | nil =>
      rw [listed] at several
      cases several
    | cons s rest =>
      cases rest with
      | nil =>
        rw [listed] at several
        exact absurd several (Nat.lt_irrefl _)
      | cons s' rest =>
        rw [listed] at once
        refine ⟨s, s', ?_, List.mem_cons_self, List.mem_cons_of_mem _ List.mem_cons_self⟩
        exact (List.pairwise_cons.mp once).1 s' List.mem_cons_self
  · rintro ⟨s, s', differ, left, right⟩
    cases listed : publishers snapshot name with
    | nil =>
      rw [listed] at left
      cases left
    | cons t rest =>
      cases rest with
      | nil =>
        rw [listed, List.mem_singleton] at left right
        exact absurd (left.trans right.symm) differ
      | cons t' rest => exact Nat.lt_add_left_iff_pos.mpr (Nat.succ_pos _)

/-! ## The promise of a view -/

theorem slot_published {published : ProxySlot} (member : published ∈ build_proxy_view crates snapshot) :
    publications_of snapshot published.published_name ≠ [] ∧
      published.session_ids = sorted (publishers snapshot published.published_name) ∧
      published.input_schema = present ((variants (buckets crates snapshot
        published.published_name)).map (branch (listed_again snapshot published.published_name))) := by
  obtain ⟨some, same⟩ := mem_build_proxy_view.mp member
  refine ⟨some, ?_, ?_⟩
  · rw [same]
    exact session_ids_buckets _ _ _
  · rw [same]
    exact slot_branches

theorem mem_view_names :
    name ∈ (build_proxy_view crates snapshot).map ProxySlot.published_name ↔
      ∃ session_id, Published snapshot session_id name := by
  have none_iff : (¬ ∃ session_id, Published snapshot session_id name) ↔
      publications_of snapshot name = [] := not_exists.trans publications_of_eq_nil.symm
  rw [List.mem_map, ← not_iff_not, none_iff]
  constructor
  · intro absent
    by_contra some
    exact absent ⟨slot crates name (buckets crates snapshot name),
      mem_build_proxy_view.mpr ⟨some, rfl⟩, rfl⟩
  · rintro none ⟨published, member, rfl⟩
    exact (slot_published member).1 none

theorem mem_sorted_publishers {session_id : String} :
    session_id ∈ sorted (publishers snapshot name) ↔ Published snapshot session_id name := by
  rw [sorted, List.mem_insertionSort, mem_publishers]

theorem nodup_sorted_publishers :
    (sorted (publishers snapshot name)).Nodup ↔ (publishers snapshot name).Nodup :=
  (List.perm_insertionSort _ _).nodup_iff

/-- A named session is resolved to if it publishes the tool. -/
theorem resolve_explicit {session_id : String} {resolved : ResolvedCall} :
    resolve_published name (build_proxy_view crates snapshot) (some session_id) = .ok resolved ↔
      resolved = { session_id, tool_name := name } ∧ Published snapshot session_id name := by
  rw [resolve_published_view, resolve_among, ← mem_sorted_publishers]
  by_cases none : publishers snapshot name = []
  · rw [if_pos none, none]
    exact iff_of_false (fun resolved => by cases resolved)
      fun absent => List.not_mem_nil absent.2
  · rw [if_neg none]
    split
    · rename_i among
      rw [and_iff_left among, Except.ok.injEq, eq_comm]
    · rename_i absent
      exact iff_of_false (fun resolved => by cases resolved) fun among => absent among.2

/-- A call without a session is resolved to the only session of a list without repetitions. -/
theorem resolve_implicit (once : (publishers snapshot name).Nodup) {resolved : ResolvedCall} :
    resolve_published name (build_proxy_view crates snapshot) none = .ok resolved ↔
      resolved.tool_name = name ∧
        ∀ session_id, Published snapshot session_id name ↔ session_id = resolved.session_id := by
  simp only [resolve_published_view, resolve_among, ← mem_sorted_publishers]
  rw [← nodup_sorted_publishers] at once
  have none_iff : publishers snapshot name = [] ↔ sorted (publishers snapshot name) = [] := by
    rw [← List.length_eq_zero_iff, ← List.length_eq_zero_iff, sorted, List.length_insertionSort]
  simp only [none_iff]
  revert once
  generalize sorted (publishers snapshot name) = session_ids
  intro once
  cases session_ids with
  | nil =>
    exact iff_of_false (fun resolved => by cases resolved)
      fun only => List.not_mem_nil ((only.2 _).mpr rfl)
  | cons s rest =>
    rw [if_neg (List.cons_ne_nil s rest)]
    cases rest with
    | nil =>
      simp only [List.mem_singleton, Except.ok.injEq]
      constructor
      · rintro rfl
        exact ⟨rfl, fun _ => Iff.rfl⟩
      · rintro ⟨rfl, only⟩
        rw [(only s).mp rfl]
    | cons s' rest =>
      refine iff_of_false (fun resolved => by cases resolved) fun only => ?_
      have first := (only.2 s).mp List.mem_cons_self
      have second := (only.2 s').mp (List.mem_cons_of_mem _ List.mem_cons_self)
      exact (List.pairwise_cons.mp once).1 s' List.mem_cons_self (first.trans second.symm)

theorem ExplicitRouting.once (routed : ExplicitRouting crates snapshot) (name : String) :
    (publishers snapshot name).Nodup := by
  by_cases none : publications_of snapshot name = []
  · rw [publishers, none]
    exact List.nodup_nil
  · have member : slot crates name (buckets crates snapshot name) ∈
        build_proxy_view crates snapshot := mem_build_proxy_view.mpr ⟨none, rfl⟩
    have once := (routed.sessions _ member).1
    rw [(slot_published member).2.1] at once
    exact nodup_sorted_publishers.mp once

/-- **A view routes explicitly if and only if no active record lists a public tool twice.** -/
theorem explicit_routing_iff {tools_cache : Option ToolsCacheStore} {reg : SessionRegistry}
    (reached : Reached tools_cache reg) (enumerated : reg.enumerates snapshot) :
    ExplicitRouting crates snapshot ↔ ListsOnce snapshot := by
  rw [← nodup_publishers_iff (enumerated.nodup reached.keyed)]
  constructor
  · exact ExplicitRouting.once
  · intro once
    constructor
    · exact ⟨nodup_view, fun _ => mem_view_names⟩
    · intro published member
      rw [(slot_published member).2.1]
      exact ⟨nodup_sorted_publishers.mpr (once _), fun _ => mem_sorted_publishers⟩
    · exact fun name _ => resolve_implicit (once name)
    · exact fun _ _ _ => resolve_explicit
    · intro published member
      obtain ⟨some, -, schema⟩ := slot_published member
      refine ⟨(variants (buckets crates snapshot published.published_name)).map fun variant =>
        (variant.2.input_schema, branch (listed_again snapshot published.published_name) variant),
        ?_, ?_, ?_⟩
      · obtain ⟨p, listed⟩ := List.exists_mem_of_ne_nil _ some
        exact fun none => List.not_mem_nil (List.map_eq_nil_iff.mp none ▸ hash_mem_variants listed)
      · rw [schema, List.map_map]
        rfl
      · intro b among
        obtain ⟨variant, here, rfl⟩ := List.mem_map.mp among
        obtain ⟨p, listed, -, same, -⟩ := exists_of_mem_variants here
        refine ⟨⟨_, p, listed, rfl, same.symm⟩, ?_⟩
        rw [branch, requires_selector_input_schema, Bool.or_eq_true, listed_again_iff (once _),
          or_comm]

/-! ## A session that lists its tool twice -/

/-- The registration of a client with some tools. -/
def client_params (client_uid : String) (tools : List ToolDescriptor) : SessionRegisterParams where
  client_uid := client_uid
  kind := "client"
  version := "1.0"
  infobase_name := "base"
  ib_session_number := 1
  tools := tools
  config_id := none
  host_id := none
  pid := none
  cluster_server := some "srv"
  database_key := some "gen:srv/base"

/-- The registry after one client has registered. -/
def one_client (tools : List ToolDescriptor) : SessionRegistry :=
  ((SessionRegistry.new none).register (client_params "s" tools) 0 (some 0)).2

theorem one_client_reached (tools : List ToolDescriptor) : Reached none (one_client tools) := by
  have registered : RegOp.apply 0 (.new none) (.register (client_params "s" tools) 0 (some 0)) =
      some (.ok (.Created, 1), one_client tools) := rfl
  exact .step .new registered

def plain_tool : ToolDescriptor where
  name := "t"
  description := none
  input_schema := .object []
  visibility := .Public

/-- The only session of a registry is listed twice when it lists its tool twice. -/
theorem twice_listed_is_not_routed :
    ∃ reg, Reached none reg ∧ ∀ crates, ¬ ExplicitRouting crates reg.inner.values := by
  refine ⟨one_client [plain_tool, plain_tool], one_client_reached _, fun crates routed => ?_⟩
  exact absurd (routed.once "t") (by decide)

/-! ## Two sessions that list it once -/

/-- The registry after a second client has registered. -/
def two_clients (tools tools' : List ToolDescriptor) : SessionRegistry :=
  ((one_client tools).register (client_params "s'" tools') 0 (some 1)).2

theorem two_clients_reached (tools tools' : List ToolDescriptor) :
    Reached none (two_clients tools tools') := by
  have registered : RegOp.apply 0 (one_client tools) (.register (client_params "s'" tools') 0 (some 1)) =
      some (.ok (.Created, 2), two_clients tools tools') := rfl
  exact .step (one_client_reached tools) registered

theorem mem_two_clients {tools tools' : List ToolDescriptor} {record : SessionRecord}
    (member : record ∈ (two_clients tools tools').inner.values) :
    record.session_id = "s'" ∧ record.published = (tools'.filter fun tool => tool.visibility.is_public) ∨
      record.session_id = "s" ∧ record.published = tools.filter fun tool => tool.visibility.is_public := by
  rcases List.mem_cons.mp member with rfl | member
  · exact .inl ⟨rfl, rfl⟩
  · obtain rfl := List.mem_singleton.mp member
    exact .inr ⟨rfl, rfl⟩

/-- A tool that agents do not see. -/
def internal_tool (name : String) : ToolDescriptor := { plain_tool with name, visibility := .Internal }

/-- Two sessions publish a tool; one of them has internal tools too, and one of these is of the
same name. -/
def mixed_clients : SessionRegistry :=
  two_clients [plain_tool] [plain_tool, internal_tool "t", internal_tool "feed"]

theorem mixed_clients_list_once : ListsOnce mixed_clients.inner.values := by
  intro record member name
  rcases mem_two_clients member with ⟨-, published⟩ | ⟨-, published⟩
  · rw [published]
    exact List.length_filter_le _ [plain_tool]
  · rw [published]
    exact List.length_filter_le _ [plain_tool]

theorem once_listed_is_routed : ExplicitRouting permissive_crates mixed_clients.inner.values :=
  (explicit_routing_iff (two_clients_reached _ _) (.refl _)).mpr mixed_clients_list_once

end SessionManager
