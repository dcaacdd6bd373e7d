import Mathlib.Data.List.Sublists
import SessionManager.Adapter.Calls

/-!
# The own row of a listing

The SDK lists the connections of a whole pool.  What `map_tool_result` returns of such a result
shows the own row and no other: in the structured content, in every block of JSON and in every
text.  So it says nothing about the connections of others.
-/

namespace SessionManager

open Python (Str Entries)

/-! ## What may be shown -/

variable (rules : CallRules) (connection_id : Str)

/-- The representations of a result, the structured content first. -/
def Mapped.representations (mapped : Mapped) : Except Raised (List Python.Value) := do
  let values ← mapped.content.mapM (Block.representation rules)
  return mapped.structured_content.toList ++ values

/-- The dictionary has these members, and no other key than they have. -/
def has_members (members : List (String × (Python.Value → Prop))) : Python.Value → Prop
  | .dict entries =>
    (∀ member ∈ members, ∃ value, Python.get entries member.1 = some value ∧ member.2 value) ∧
      ∀ entry ∈ entries, ∃ member ∈ members, entry.1 = Str.of member.1
  | _ => False

/-- `{"ok": False, "code": .., "error": ..}` -/
def error_form : Python.Value → Prop :=
  has_members [("ok", (· = .bool false)), ("code", fun _ => True), ("error", fun _ => True)]

/-- `{"ok": True, "connections": [row]}` -/
def lists_only (row : Entries) : Python.Value → Prop :=
  has_members [("ok", (· = .bool true)), ("connections", (· = .list [.dict row]))]

/-- The row is that of the own connection. -/
structure OwnRow (row : Entries) : Prop where
  connection_id : Python.get row "connection_id" = some (.str connection_id)
  host : Python.get row "host" = some (.str rules.binding.testclient_host)
  port : Python.get row "port" = some (.int rules.binding.testclient_port)

/-- What is shown of a representation: its own row, which is the only one with that id. -/
def ShowsRow (value shown : Python.Value) : Prop :=
  ∃ entries above row below, value = .dict entries ∧
    Python.get entries "connections" = some (.list (above ++ .dict row :: below)) ∧
      OwnRow rules connection_id row ∧
        (∀ other, Python.Value.dict other ∈ above ++ below →
          Python.get other "connection_id" ≠ some (.str connection_id)) ∧ lists_only row shown

def Block.is_text : Block → Bool
  | .text _ => true
  | .json _ => false

/-- A result with the same representations, of which each shows the own row. -/
structure ShowsOwn (mapped out : Mapped) : Prop where
  is_error : out.is_error = false
  structured : out.structured_content.isSome = mapped.structured_content.isSome
  content : List.Forall₂ (fun block shown : Block => shown.is_text = block.is_text)
    mapped.content out.content
  shown : ∃ values shown, mapped.representations rules = .ok values ∧
    out.representations rules = .ok shown ∧ List.Forall₂ (ShowsRow rules connection_id) values shown

/-- A result that reports an error in each representation. -/
structure ReportsError (mapped : Mapped) : Prop where
  is_error : mapped.is_error = false
  forms : ∃ values, mapped.representations rules = .ok values ∧ values ≠ [] ∧
    ∀ value ∈ values, error_form value

/-- How the mapping of a listing may end: with an exception, with the error that the result
reports, or with the own row. -/
def ListingOutcome (raw : Entries) : Except Raised Mapped → Prop
  | .error _ => True
  | .ok out => ∃ mapped, mapped_result raw = .ok mapped ∧
    (out = mapped ∧ ReportsError rules mapped ∨ ShowsOwn rules connection_id mapped out)

/-! ## What others have to do with it -/

def own_rows : Python.Value → Python.Value
  | .list rows => .list (rows.filter (has_id connection_id))
  | value => value

/-- A representation without the rows of other connections. -/
def without_others : Python.Value → Python.Value
  | .dict entries => .dict (entries.map fun entry =>
      if entry.1 = Str.of "connections" then (entry.1, own_rows connection_id entry.2) else entry)
  | value => value

/-- Two blocks that differ in the rows of other connections only. -/
def Block.Alike : Block → Block → Prop
  | .text one, .text other => ∃ value value', loaded rules one = .ok value ∧
    loaded rules other = .ok value' ∧
      without_others connection_id value = without_others connection_id value'
  | .json one, .json other => without_others connection_id one = without_others connection_id other
  | _, _ => False

/-- Two results that differ in the rows of other connections only. -/
structure Mapped.Alike (one other : Mapped) : Prop where
  is_error : one.is_error = other.is_error
  structured : one.structured_content.map (without_others connection_id) =
    other.structured_content.map (without_others connection_id)
  content : List.Forall₂ (Block.Alike rules connection_id) one.content other.content

/-- Some representation of the result lists connections. -/
def Mapped.successful (mapped : Mapped) : Prop :=
  ∃ values, mapped.representations rules = .ok values ∧ values.any (says_ok true) = true

/-! ## `json` -/

/-- A part of a value: it is the whole, it lacks items of a list, or it has a part of one member. -/
inductive Part : Python.Value → Python.Value → Prop
  | whole (value : Python.Value) : Part value value
  | items {items kept : List Python.Value} : kept.Sublist items → Part (.list items) (.list kept)
  | member {before after : Entries} {key : Str} {value kept : Python.Value} : Part value kept →
    Part (.dict (before ++ (key, value) :: after)) (.dict (before ++ (key, kept) :: after))

/-- What `json.loads` has read, or a part of it, it reads in what `json.dumps` writes of it; the keys
of a dictionary are distinct. -/
structure ReadsBack : Prop where
  distinct : ∀ {s : Str} {entries : Entries}, rules.loads s = .ok (.dict entries) →
    (entries.map Prod.fst).Nodup
  part : ∀ {s : Str} {value kept : Python.Value}, rules.loads s = .ok value → Part value kept →
    rules.loads (kept.dumps rules.floats false) = .ok kept

variable {rules : CallRules} {connection_id : Str} {raw raw' : Entries} {mapped out : Mapped}
  {value shown : Python.Value}

/-! ## One representation -/

theorem get_cons (entry : Str × Python.Value) (rest : Entries) (key : String) :
    Python.get (entry :: rest) key =
      if entry.1 = Str.of key then some entry.2 else Python.get rest key := by
  unfold Python.get
  by_cases same : entry.1 = Str.of key
  · simp [same]
  · rw [List.find?_cons_of_neg (by simpa using same), if_neg same]

theorem get_map_of_ne {entries : Entries} {key : String} {f : Python.Value → Python.Value}
    {changed : Str} (other : Str.of key ≠ changed) :
    Python.get (entries.map fun entry => if entry.1 = changed then (entry.1, f entry.2) else entry)
      key = Python.get entries key := by
  induction entries with
  | nil => rfl
  | cons entry rest ih =>
    rw [List.map_cons, get_cons, get_cons, ih]
    by_cases same : entry.1 = changed
    · have apart : entry.1 ≠ Str.of key := same ▸ other.symm
      rw [if_pos same, if_neg apart, if_neg apart]
    · rw [if_neg same]

theorem get_map_of_eq {entries : Entries} {key : String} {f : Python.Value → Python.Value} :
    Python.get (entries.map fun entry =>
      if entry.1 = Str.of key then (entry.1, f entry.2) else entry) key =
        (Python.get entries key).map f := by
  induction entries with
  | nil => rfl
  | cons entry rest ih =>
    rw [List.map_cons, get_cons, get_cons, ih]
    by_cases same : entry.1 = Str.of key
    · rw [if_pos same, if_pos same, if_pos same, Option.map_some]
    · rw [if_neg same, if_neg same, if_neg same]

theorem has_id_iff {row : Entries} : has_id connection_id (.dict row) = true ↔
    Python.get row "connection_id" = some (.str connection_id) := by
  simp [has_id, Option.any_eq_true, is_str_iff]

theorem own_row_eq_ok {rows : List Python.Value} {own : Python.Value}
    (found : own_row rules connection_id rows = .ok own) : ∃ row, own = .dict row ∧
      rows.filter (has_id connection_id) = [.dict row] ∧ OwnRow rules connection_id row := by
  unfold own_row at found
  split at found
  · cases found
  · split at found
    · rename_i row only
      split at found
      · rename_i host port its_host its_port
        split at found
        · rename_i bound
          cases found
          obtain ⟨rfl, rfl⟩ := bound
          have member : Python.Value.dict row ∈ rows.filter (has_id connection_id) := by simp [only]
          exact ⟨row, rfl, only, has_id_iff.mp (List.mem_filter.mp member).2, its_host, its_port⟩
        · cases found
      · cases found
    · cases found

/-- A representation with the rows of a list replaced by one. -/
def with_row (own : Python.Value) (entries : Entries) : Entries :=
  entries.map fun entry => if entry.1 = Str.of "connections" then (entry.1, .list [own]) else entry

theorem projected_eq_ok (found : projected rules connection_id value = .ok shown) :
    ∃ entries rows row, value = .dict entries ∧ says_ok true value = true ∧
      has_keys ["ok", "connections"] value = true ∧
        Python.get entries "connections" = some (.list rows) ∧
          rows.filter (has_id connection_id) = [.dict row] ∧ OwnRow rules connection_id row ∧
            shown = .dict (with_row (.dict row) entries) := by
  unfold projected at found
  split at found
  · rename_i entries
    split at found
    · rename_i both
      obtain ⟨fine, keys⟩ := Bool.and_eq_true_iff.mp both
      split at found
      · rename_i rows lists
        obtain ⟨own, its, same⟩ := bind_eq_ok.mp found
        obtain ⟨row, rfl, only, owns⟩ := own_row_eq_ok its
        cases same
        exact ⟨entries, rows, row, rfl, fine, keys, lists, only, owns, rfl⟩
      · cases found
    · cases found
  · cases found

theorem says_ok_iff {entries : Entries} {ok : Bool} :
    says_ok ok (.dict entries) = true ↔ Python.get entries "ok" = some (.bool ok) := by
  cases found : Python.get entries "ok" with
  | none => simp [says_ok, found]
  | some value =>
    cases value with
    | bool b => simp [says_ok, found]
    | _ => simp [says_ok, found]

theorem of_has_keys {keys : List String} {entries : Entries}
    (has : has_keys keys (.dict entries) = true) :
    (∀ key ∈ keys, ∃ value, Python.get entries key = some value) ∧
      ∀ entry ∈ entries, ∃ key ∈ keys, entry.1 = Str.of key := by
  simpa [has_keys, Option.isSome_iff_exists] using has

theorem lists_only_with_row {row entries : Entries} (fine : says_ok true (.dict entries) = true)
    (keys : has_keys ["ok", "connections"] (.dict entries) = true) :
    lists_only row (.dict (with_row (.dict row) entries)) := by
  obtain ⟨there, only⟩ := of_has_keys keys
  obtain ⟨listed, lists⟩ := there "connections" (by simp)
  refine ⟨fun member own => ?_, fun entry member => ?_⟩
  · rcases List.mem_cons.mp own with rfl | own
    · refine ⟨.bool true, ?_, rfl⟩
      rw [with_row, get_map_of_ne (f := fun _ => .list [.dict row]) (by decide)]
      exact says_ok_iff.mp fine
    · rw [List.mem_singleton.mp own]
      refine ⟨.list [.dict row], ?_, rfl⟩
      rw [with_row, get_map_of_eq (f := fun _ => .list [.dict row]), lists]
      rfl
  · obtain ⟨before, earlier, rfl⟩ := List.mem_map.mp member
    obtain ⟨key, own, same⟩ := only before earlier
    have kept : (if before.1 = Str.of "connections" then (before.1, Python.Value.list [.dict row])
        else before).1 = before.1 := by split <;> rfl
    rw [kept, same]
    rcases List.mem_cons.mp own with rfl | own
    · exact ⟨_, List.mem_cons_self, rfl⟩
    · rw [List.mem_singleton.mp own]
      exact ⟨_, List.mem_cons_of_mem _ List.mem_cons_self, rfl⟩

theorem shows_of_projected (found : projected rules connection_id value = .ok shown) :
    ShowsRow rules connection_id value shown := by
  obtain ⟨entries, rows, row, rfl, fine, keys, lists, only, owns, rfl⟩ := projected_eq_ok found
  obtain ⟨above, below, rfl, before, -, after⟩ := List.filter_eq_cons_iff.mp only
  refine ⟨entries, above, row, below, rfl, lists, owns, fun other member same => ?_,
    lists_only_with_row fine keys⟩
  rcases List.mem_append.mp member with earlier | later
  · exact before _ earlier (has_id_iff.mpr same)
  · exact List.filter_eq_nil_iff.mp after _ later (has_id_iff.mpr same)

/-! ## The whole result -/

theorem with_row_of_absent {entries : Entries} (own : Python.Value)
    (absent : Str.of "connections" ∉ entries.map Prod.fst) : with_row own entries = entries := by
  refine (List.map_congr_left fun entry member => ?_).trans (List.map_id entries)
  rw [if_neg fun same => absent (List.mem_map.mpr ⟨entry, member, same⟩)]
  rfl

theorem part_with_row {rows : List Python.Value} {row entries : Entries}
    (distinct : (entries.map Prod.fst).Nodup)
    (lists : Python.get entries "connections" = some (.list rows))
    (only : rows.filter (has_id connection_id) = [.dict row]) :
    Part (.dict entries) (.dict (with_row (.dict row) entries)) := by
  obtain ⟨entry, member, same⟩ := Option.map_eq_some_iff.mp lists
  obtain ⟨key, before, after, rfl, -⟩ := List.find?_eq_some_iff_append.mp member
  obtain ⟨key', value⟩ := entry
  subst same
  obtain rfl := beq_iff_eq.mp key
  rw [List.map_append, List.map_cons, List.nodup_append] at distinct
  obtain ⟨-, later, apart⟩ := distinct
  have shown : with_row (.dict row) (before ++ (Str.of "connections", .list rows) :: after) =
      before ++ (Str.of "connections", .list [.dict row]) :: after := by
    have earlier : Str.of "connections" ∉ before.map Prod.fst :=
      fun there => apart _ there _ List.mem_cons_self rfl
    have first := with_row_of_absent (.dict row) earlier
    have last := with_row_of_absent (.dict row) (List.nodup_cons.mp later).1
    rw [with_row, List.map_append, List.map_cons, if_pos rfl]
    rw [with_row] at first last
    rw [first, last]
  rw [shown]
  exact .member (.items (only ▸ List.filter_sublist))

/-- A block and what it becomes show the same row. -/
theorem block_shows (back : ReadsBack rules) {block block' : Block}
    (found : block.projected rules connection_id = .ok block') :
    block'.is_text = block.is_text ∧ ∃ value shown, block.representation rules = .ok value ∧
      block'.representation rules = .ok shown ∧ ShowsRow rules connection_id value shown := by
  cases block with
  | json value =>
    obtain ⟨shown, its, same⟩ := bind_eq_ok.mp found
    cases same
    exact ⟨rfl, value, shown, rfl, rfl, shows_of_projected its⟩
  | text text =>
    obtain ⟨value, read, found⟩ := bind_eq_ok.mp found
    obtain ⟨shown, its, same⟩ := bind_eq_ok.mp found
    cases same
    refine ⟨rfl, value, shown, read, ?_, shows_of_projected its⟩
    obtain ⟨entries, rows, row, rfl, -, -, lists, only, -, rfl⟩ := projected_eq_ok its
    -- a dictionary was read, not the substitute for what is no JSON text
    cases text with
    | str s =>
      cases loads : rules.loads s with
      | ok value =>
        have same : value = .dict entries := by simpa [loaded, loads] using read
        rw [same] at loads
        have again := back.part loads (part_with_row (back.distinct loads) lists only)
        simp [Block.representation, loaded, again]
      | error error => cases error with
        | ValueError => simp [loaded, loads] at read
        | RecursionError => simp [loaded, loads] at read
    | _ => simp [loaded] at read

theorem shows_of_forall₂ (back : ReadsBack rules) {content shown : List Block}
    (all : List.Forall₂ (fun block block' : Block => block.projected rules connection_id = .ok block')
      content shown) :
    List.Forall₂ (fun block shown : Block => shown.is_text = block.is_text) content shown ∧
      ∃ values values', content.mapM (Block.representation rules) = .ok values ∧
        shown.mapM (Block.representation rules) = .ok values' ∧
          List.Forall₂ (ShowsRow rules connection_id) values values' := by
  induction all with
  | nil => exact ⟨.nil, [], [], rfl, rfl, .nil⟩
  | cons here _ ih =>
    obtain ⟨alike, values, values', read, read', rest⟩ := ih
    obtain ⟨kind, value, value', first, first', shows⟩ := block_shows back here
    refine ⟨.cons kind alike, value :: values, value' :: values', ?_, ?_, .cons shows rest⟩
    · rw [List.mapM_cons, first, read]
      rfl
    · rw [List.mapM_cons, first', read']
      rfl

/-- How a listing that is returned was mapped. -/
inductive ListingMapped (rules : CallRules) (connection_id : Str) (mapped out : Mapped) : Prop
  | error (values : List Python.Value) : mapped.representations rules = .ok values → values ≠ [] →
    (∀ value ∈ values, says_ok false value = true ∧ has_keys ["ok", "code", "error"] value = true) →
      mapped.is_error = false → values.any (says_ok true) = false → out = mapped →
        ListingMapped rules connection_id mapped out
  | own (values : List Python.Value) : mapped.representations rules = .ok values →
    values.any (says_ok true) = true → out.is_error = false →
      mapped.structured_content.mapM (projected rules connection_id) = .ok out.structured_content →
        mapped.content.mapM (Block.projected rules connection_id) = .ok out.content →
          ListingMapped rules connection_id mapped out

theorem listed_of_mapped
    (returned : map_tool_result rules raw (some connection_id) = .ok out) :
    ∃ mapped, mapped_result raw = .ok mapped ∧
      ListingMapped rules connection_id mapped out := by
  obtain ⟨mapped, read, rest⟩ := bind_eq_ok.mp returned
  refine ⟨mapped, read, ?_⟩
  obtain ⟨values, each, rest⟩ := bind_eq_ok.mp rest
  have all : mapped.representations rules = .ok (mapped.structured_content.toList ++ values) := by
    rw [Mapped.representations, each]
    rfl
  dsimp only at rest
  generalize mapped.structured_content.toList ++ values = representations at all rest
  cases success : representations.any (says_ok true) with
  | false =>
    rw [success, Bool.not_false, if_pos rfl] at rest
    split at rest
    · rename_i known
      cases rest
      simp only [Bool.and_eq_true, Bool.not_eq_true', List.isEmpty_eq_false_iff, List.all_eq_true]
        at known
      exact .error representations all known.1.1 known.1.2 known.2 success rfl
    · cases rest
  | true =>
    rw [success, Bool.not_true, if_neg Bool.false_ne_true] at rest
    split at rest
    · cases rest
    · obtain ⟨structured, first, rest⟩ := bind_eq_ok.mp rest
      obtain ⟨content, blocks, rest⟩ := bind_eq_ok.mp rest
      cases rest
      exact .own representations all success rfl first blocks

theorem reports_error {values : List Python.Value} (read : mapped.representations rules = .ok values)
    (some : values ≠ []) (is_error : mapped.is_error = false)
    (forms : ∀ value ∈ values,
      says_ok false value = true ∧ has_keys ["ok", "code", "error"] value = true) :
    ReportsError rules mapped where
  is_error := is_error
  forms := by
    refine ⟨values, read, some, fun value member => ?_⟩
    obtain ⟨denies, keys⟩ := forms value member
    cases value with
    | dict entries =>
      obtain ⟨there, only⟩ := of_has_keys keys
      refine ⟨fun member own => ?_, fun entry member => ?_⟩
      · rcases List.mem_cons.mp own with rfl | own
        · exact ⟨.bool false, says_ok_iff.mp denies, rfl⟩
        · rcases List.mem_cons.mp own with rfl | own
          · obtain ⟨code, found⟩ := there "code" (by simp)
            exact ⟨code, found, trivial⟩
          · rw [List.mem_singleton.mp own]
            obtain ⟨error, found⟩ := there "error" (by simp)
            exact ⟨error, found, trivial⟩
      · obtain ⟨key, own, same⟩ := only entry member
        simp only [List.mem_cons, List.not_mem_nil, or_false] at own
        rcases own with rfl | rfl | rfl
        · exact ⟨_, List.mem_cons_self, same⟩
        · exact ⟨_, List.mem_cons_of_mem _ List.mem_cons_self, same⟩
        · exact ⟨_, List.mem_cons_of_mem _ (List.mem_cons_of_mem _ List.mem_cons_self), same⟩
    | _ => cases denies

theorem shows_of_structured {one other : Option Python.Value}
    (found : one.mapM (projected rules connection_id) = .ok other) :
    other.isSome = one.isSome ∧
      List.Forall₂ (ShowsRow rules connection_id) one.toList other.toList := by
  cases one with
  | none =>
    cases found
    exact ⟨rfl, .nil⟩
  | some value =>
    obtain ⟨shown, its, same⟩ := bind_eq_ok.mp found
    cases same
    exact ⟨rfl, .cons (shows_of_projected its) .nil⟩

theorem ListingMapped.outcome (back : ReadsBack rules)
    (listed : ListingMapped rules connection_id mapped out) :
    out = mapped ∧ ReportsError rules mapped ∨ ShowsOwn rules connection_id mapped out := by
  cases listed with
  | error values read some forms is_error _ same =>
    exact .inl ⟨same, reports_error read some is_error forms⟩
  | own values read _ is_error structured content =>
    obtain ⟨alike, others, others', each, each', shows⟩ := shows_of_forall₂ back
      (forall₂_of_mapM content)
    obtain ⟨same, first⟩ := shows_of_structured structured
    refine .inr ⟨is_error, same, alike, mapped.structured_content.toList ++ others,
      out.structured_content.toList ++ others', ?_, ?_, List.rel_append first shows⟩
    · rw [Mapped.representations, each]
      rfl
    · rw [Mapped.representations, each']
      rfl

/-! ## Two results -/

/-- What is shown depends on the own rows only. -/
theorem projected_alike {value value' shown shown' : Python.Value}
    (alike : without_others connection_id value = without_others connection_id value')
    (found : projected rules connection_id value = .ok shown)
    (found' : projected rules connection_id value' = .ok shown') : shown = shown' := by
  obtain ⟨entries, rows, row, rfl, -, -, lists, only, -, rfl⟩ := projected_eq_ok found
  obtain ⟨entries', rows', row', rfl, -, -, lists', only', -, rfl⟩ := projected_eq_ok found'
  have same := Python.Value.dict.inj alike
  have own : some (own_rows connection_id (.list rows)) =
      some (own_rows connection_id (.list rows')) := by
    have members := congrArg (fun entries => Python.get entries "connections") same
    simpa only [get_map_of_eq, lists, lists', Option.map_some] using members
  have shared : row = row' := by
    simpa [own_rows, only, only'] using own
  have again (own : Python.Value) (entries : Entries) : with_row own (entries.map fun entry =>
      if entry.1 = Str.of "connections" then (entry.1, own_rows connection_id entry.2) else entry) =
        with_row own entries := by
    rw [with_row, with_row, List.map_map]
    refine List.map_congr_left fun entry _ => ?_
    by_cases key : entry.1 = Str.of "connections"
    · simp [key]
    · simp [key]
  rw [shared, ← again (.dict row') entries, ← again (.dict row') entries', same]

theorem block_projected_alike {one other block block' : Block}
    (alike : Block.Alike rules connection_id one other)
    (found : one.projected rules connection_id = .ok block)
    (found' : other.projected rules connection_id = .ok block') : block = block' := by
  cases one with
  | json value =>
    cases other with
    | json value' =>
      obtain ⟨shown, its, same⟩ := bind_eq_ok.mp found
      obtain ⟨shown', its', same'⟩ := bind_eq_ok.mp found'
      cases same
      cases same'
      rw [projected_alike alike its its']
    | text => exact alike.elim
  | text text =>
    cases other with
    | json => exact alike.elim
    | text text' =>
      obtain ⟨value, value', read, read', alike⟩ := alike
      obtain ⟨value₁, again, found⟩ := bind_eq_ok.mp found
      obtain ⟨value₂, again', found'⟩ := bind_eq_ok.mp found'
      cases read.symm.trans again
      cases read'.symm.trans again'
      obtain ⟨shown, its, same⟩ := bind_eq_ok.mp found
      obtain ⟨shown', its', same'⟩ := bind_eq_ok.mp found'
      cases same
      cases same'
      rw [projected_alike alike its its']

theorem content_alike {one other content content' : List Block}
    (alike : List.Forall₂ (Block.Alike rules connection_id) one other)
    (found : one.mapM (Block.projected rules connection_id) = .ok content)
    (found' : other.mapM (Block.projected rules connection_id) = .ok content') :
    content = content' := by
  have all := forall₂_of_mapM found
  have all' := forall₂_of_mapM found'
  clear found found'
  induction alike generalizing content content' with
  | nil =>
    cases all
    cases all'
    rfl
  | cons here _ ih =>
    cases all with
    | cons first rest =>
      cases all' with
      | cons first' rest' => rw [block_projected_alike here first first', ih rest rest']

theorem structured_alike {one other structured structured' : Option Python.Value}
    (alike : one.map (without_others connection_id) = other.map (without_others connection_id))
    (found : one.mapM (projected rules connection_id) = .ok structured)
    (found' : other.mapM (projected rules connection_id) = .ok structured') :
    structured = structured' := by
  cases one with
  | none =>
    cases other with
    | none =>
      cases found
      cases found'
      rfl
    | some => cases alike
  | some value =>
    cases other with
    | none => cases alike
    | some value' =>
      obtain ⟨shown, its, same⟩ := bind_eq_ok.mp found
      obtain ⟨shown', its', same'⟩ := bind_eq_ok.mp found'
      cases same
      cases same'
      rw [projected_alike (Option.some.inj alike) its its']

theorem ListingMapped.alike {one other out out' : Mapped} {values values' : List Python.Value}
    (alike : one.Alike rules connection_id other)
    (read : one.representations rules = .ok values) (some : values.any (says_ok true) = true)
    (read' : other.representations rules = .ok values') (some' : values'.any (says_ok true) = true)
    (listed : ListingMapped rules connection_id one out)
    (listed' : ListingMapped rules connection_id other out') : out = out' := by
  cases listed with
  | error _ again _ _ _ none =>
    cases read.symm.trans again
    cases some.symm.trans none
  | own _ _ _ is_error structured content =>
    cases listed' with
    | error _ again _ _ _ none =>
      cases read'.symm.trans again
      cases some'.symm.trans none
    | own _ _ _ is_error' structured' content' =>
      cases out
      cases out'
      simp only [Mapped.mk.injEq]
      exact ⟨content_alike alike.content content content', is_error.trans is_error'.symm,
        structured_alike alike.structured structured structured'⟩

/-- **A listing shows the own row only.**  Mapped for a binding, a result raises, or reports its
error, or shows the own row and nothing else in each of its representations; and two that list
connections and differ in the rows of others are mapped to the same. -/
theorem listing_shows_own_row (back : ReadsBack rules) (connection_id : Str) :
    (∀ raw, ListingOutcome rules connection_id raw
      (map_tool_result rules raw (some connection_id))) ∧
    ∀ raw raw' one other out out', mapped_result raw = .ok one → mapped_result raw' = .ok other →
      one.successful rules → other.successful rules → one.Alike rules connection_id other →
        map_tool_result rules raw (some connection_id) = .ok out →
          map_tool_result rules raw' (some connection_id) = .ok out' → out = out' := by
  constructor
  · intro raw
    cases returned : map_tool_result rules raw (some connection_id) with
    | error exc => trivial
    | ok out =>
      obtain ⟨mapped, read, listed⟩ := listed_of_mapped returned
      exact ⟨mapped, read, listed.outcome back⟩
  · intro raw raw' one other out out' read read' successful successful' alike returned returned'
    obtain ⟨_, again, listed⟩ := listed_of_mapped returned
    obtain ⟨_, again', listed'⟩ := listed_of_mapped returned'
    cases read.symm.trans again
    cases read'.symm.trans again'
    obtain ⟨values, each, some⟩ := successful
    obtain ⟨values', each', some'⟩ := successful'
    exact ListingMapped.alike alike each some each' some' listed listed'

/-! ### A pool of two -/

def pool_row (id : String) : Python.Value :=
  Python.of_members [("connection_id", Python.text id), ("host", Python.text "h"), ("port", .int 7)]

def pool (rows : List Python.Value) : Python.Value :=
  Python.of_members [("ok", .bool true), ("connections", .list rows)]

/-- Rules for which `json.loads` reads the lists of one pool, and its parts. -/
def pool_rules : CallRules where
  inventory := []
  policy := ⟨[], []⟩
  binding := ⟨Str.of "h", 7⟩
  is_valid _ _ := .ok true
  loads s :=
    match ([pool_row "a", pool_row "b"].sublists.map pool).find? fun value =>
        value.dumps { repr := id, read := fun _ => none } false == s with
    | some value => .ok value
    | none => .error .ValueError
  floats := { repr := id, read := fun _ => none }

theorem part_of_two {first second : Str} {b : Bool} {rows : List Python.Value}
    {kept : Python.Value} (part : Part (.dict [(first, .bool b), (second, .list rows)]) kept) :
    ∃ rows', rows'.Sublist rows ∧ kept = .dict [(first, .bool b), (second, .list rows')] := by
  generalize same : Python.Value.dict [(first, .bool b), (second, .list rows)] = value at part
  cases part with
  | whole => exact ⟨rows, .refl _, same.symm⟩
  | items => cases same
  | @member before after key value kept part =>
    have split := Python.Value.dict.inj same
    cases before with
    | nil =>
      cases split
      cases part
      exact ⟨rows, .refl _, rfl⟩
    | cons entry rest =>
      cases rest with
      | nil =>
        cases split
        cases part with
        | whole => exact ⟨rows, .refl _, rfl⟩
        | items kept => exact ⟨_, kept, rfl⟩
      | cons => simp at split

theorem pool_reads_back : ReadsBack pool_rules := by
  have own {s : Str} {value : Python.Value} (read : pool_rules.loads s = .ok value) :
      ∃ rows, rows.Sublist [pool_row "a", pool_row "b"] ∧ value = pool rows := by
    dsimp only [pool_rules] at read
    split at read
    · rename_i found
      cases read
      obtain ⟨rows, member, same⟩ := List.mem_map.mp (List.mem_of_find?_eq_some found)
      exact ⟨rows, List.mem_sublists.mp member, same.symm⟩
    · cases read
  constructor
  · intro s entries read
    obtain ⟨rows, -, same⟩ := own read
    have keys : entries.map Prod.fst = [Str.of "ok", Str.of "connections"] := by
      rw [Python.Value.dict.inj same]
      simp
    rw [keys]
    decide
  · intro s value kept read part
    obtain ⟨rows, some, rfl⟩ := own read
    obtain ⟨rows', fewer, same⟩ := part_of_two part
    have same : kept = pool rows' := same
    subst same
    have parts : rows' ∈ [[], [pool_row "a"], [pool_row "b"], [pool_row "a", pool_row "b"]] :=
      List.mem_sublists.mpr (fewer.trans some)
    simp only [List.mem_cons, List.not_mem_nil, or_false] at parts
    rcases parts with rfl | rfl | rfl | rfl
    · rfl
    · rfl
    · rfl
    · rfl

/-- A result with a text, and with this structured content. -/
def pool_result (rows : List Python.Value) : Entries :=
  [(Str.of "content", .list [Python.of_members [("type", Python.text "text"),
    ("text", .str ((pool rows).dumps pool_rules.floats false))]]),
    (Str.of "structuredContent", pool rows)]

theorem pool_shows_one_row :
    ListingOutcome pool_rules (Str.of "a") (pool_result [pool_row "a", pool_row "b"])
        (map_tool_result pool_rules (pool_result [pool_row "a", pool_row "b"]) (some (Str.of "a"))) ∧
      ∀ out out',
        map_tool_result pool_rules (pool_result [pool_row "a", pool_row "b"]) (some (Str.of "a")) =
            .ok out →
          map_tool_result pool_rules (pool_result [pool_row "a"]) (some (Str.of "a")) = .ok out' →
            out = out' := by
  obtain ⟨outcomes, same⟩ := listing_shows_own_row pool_reads_back (Str.of "a")
  refine ⟨outcomes _, fun out out' returned returned' => ?_⟩
  refine same _ _ _ _ _ _ rfl rfl ⟨[pool _, pool _], rfl, rfl⟩ ⟨[pool _, pool _], rfl, rfl⟩ ?_ returned
    returned'
  exact ⟨rfl, rfl, .cons ⟨pool _, pool _, rfl, rfl, rfl⟩ .nil⟩

end SessionManager
