import SessionManager.Masking.Identity

/-!
# Resolution through RAS

`RasResolver::resolve_uncached` of `session_manager/masking/ras.rs` asks `rac` for the clusters of
a server and then for the infobases of each, and takes the one of the wanted name.  A cluster that
cannot be listed is passed over, so the name it finds once may be there twice
(`unambiguous_iff`).
-/

namespace SessionManager

open Effect

/-! ## Texts -/

/-- `char::is_whitespace` -/
def is_whitespace (c : Char) : Bool :=
  (0x09 ≤ c.toNat && c.toNat ≤ 0x0D) || c.toNat == 0x20 || c.toNat == 0x85 || c.toNat == 0xA0 ||
    c.toNat == 0x1680 || (0x2000 ≤ c.toNat && c.toNat ≤ 0x200A) || c.toNat == 0x2028 ||
    c.toNat == 0x2029 || c.toNat == 0x202F || c.toNat == 0x205F || c.toNat == 0x3000

/-- Drop the characters of a kind at both ends. -/
def trim_matches (drop : Char → Bool) (s : List Char) : List Char :=
  ((s.dropWhile drop).reverse.dropWhile drop).reverse

/-- `str::trim` -/
def trim (s : List Char) : List Char := trim_matches is_whitespace s

/-- A line that ended with a line feed, without its carriage return. -/
def strip_return (line : List Char) : List Char :=
  match line.reverse with
  | '\r' :: rest => rest.reverse
  | _ => line

/-- `str::lines` -/
def lines (s : List Char) : List (List Char) :=
  let pieces := s.splitOn '\n'
  -- what is behind the last line feed is a line unless it is empty
  pieces.dropLast.map strip_return ++ pieces.getLast?.toList.filter fun rest => !rest.isEmpty

/-- `str::split_once` -/
def split_once (separator : Char) (s : List Char) : Option (List Char × List Char) :=
  match s.span fun c => c != separator with
  | (before, _ :: after) => some (before, after)
  | (_, []) => none

/-! ## `parse_blocks` -/

/-- What the resolver uses of `str` and of `Uuid`. -/
structure RasTexts where
  /-- `str::to_lowercase`; which characters it changes, and into what, is in the tables of the
  version of Unicode that the compiler has. -/
  to_lowercase : String → String
  /-- `Uuid::parse_str` -/
  parse_str : String → Option Uuid

/-- The keys and values of a block. -/
abbrev RacBlock := HashMap String String

variable (texts : RasTexts)

/-- What `parse_blocks` does with a line: the blocks that are complete, and the current one. -/
def parse_line (state : List RacBlock × RacBlock) (line : List Char) : List RacBlock × RacBlock :=
  let (blocks, cur) := state
  let line := trim line
  if line.isEmpty then
    if cur.keys.isEmpty then (blocks, cur) else (blocks ++ [cur], .empty)
  else
    match split_once ':' line with
    | some (k, v) =>
      (blocks, cur.insert (texts.to_lowercase (String.ofList (trim k))) (String.ofList (trim v)))
    | none => (blocks, cur)

def parse_blocks (stdout : String) : List RacBlock :=
  let (blocks, cur) := (lines stdout.toList).foldl (parse_line texts) ([], .empty)
  if cur.keys.isEmpty then blocks else blocks ++ [cur]

/-! ## `resolve_uncached` -/

/-- The GUID a block has under this key. -/
def block_guid (key : String) (block : RacBlock) : Option Uuid :=
  (block.get key).bind texts.parse_str

/-- The block is of an infobase of the wanted name. -/
def named (wanted : String) (block : RacBlock) : Bool :=
  (block.get "name").any fun name =>
    texts.to_lowercase (String.ofList (trim_matches (fun c => c == '"') name.toList)) == wanted

/-- The match a block of a cluster is. -/
def block_match (wanted : String) (cluster : Uuid) (block : RacBlock) :
    Option ResolvedDatabaseIdentity :=
  if named texts wanted block then
    (block_guid texts "infobase" block).map fun ib => ⟨cluster, ib⟩
  else none

/-- The answers of `rac`, by the number of the call and its arguments. -/
abbrev Rac := Nat → List String → Except String String

def cluster_list (ras : String) : List String := ["cluster", "list", ras]

def infobase_list (cluster : Uuid) (ras : String) : List String :=
  ["infobase", "summary", "list", "--cluster", cluster.to_string, ras]

/-- The loop over the clusters, from this call on. -/
def cluster_matches (rac : Rac) (ras wanted : String) :
    Nat → List Uuid → List ResolvedDatabaseIdentity
  | _, [] => []
  | call, cluster :: rest =>
    match rac call (infobase_list cluster ras) with
    | .ok out =>
      (parse_blocks texts out).filterMap (block_match texts wanted cluster) ++
        cluster_matches rac ras wanted (call + 1) rest
    | .error _ => cluster_matches rac ras wanted (call + 1) rest

/-- The name that is looked for. -/
def wanted_name (ib_name : String) : String :=
  texts.to_lowercase (String.ofList (trim ib_name.toList))

/-- The address that `rac` is given. -/
def rac_address (ras_address : Option String) (cluster_server : String) : String :=
  ras_address.getD (String.ofList (trim cluster_server.toList))

def resolve_uncached (rac : Rac) (ras_address : Option String) (cluster_server ib_name : String) :
    Option ResolvedDatabaseIdentity :=
  let ras := rac_address ras_address cluster_server
  match rac 0 (cluster_list ras) with
  | .error _ => none
  | .ok out =>
    let clusters := (parse_blocks texts out).filterMap (block_guid texts "cluster")
    match cluster_matches texts rac ras (wanted_name texts ib_name) 1 clusters with
    | [one] => some one
    | _ => none

/-! ## What RAS has -/

/-- What was learned of each cluster on the list: its infobases, or nothing if the cluster has no
valid GUID or its infobases could not be listed. -/
def surveys (rac : Rac) (ras : String) : Nat → List RacBlock → List (Option (Uuid × List RacBlock))
  | _, [] => []
  | call, block :: rest =>
    match block_guid texts "cluster" block with
    | none => none :: surveys rac ras call rest
    | some cluster =>
      (match rac call (infobase_list cluster ras) with
        | .ok out => some (cluster, parse_blocks texts out)
        | .error _ => none) :: surveys rac ras (call + 1) rest

/-- The same for every cluster RAS lists for a server. -/
def listed (rac : Rac) (ras_address : Option String) (cluster_server : String) :
    List (Option (Uuid × List RacBlock)) :=
  let ras := rac_address ras_address cluster_server
  match rac 0 (cluster_list ras) with
  | .error _ => []
  | .ok out => surveys texts rac ras 1 (parse_blocks texts out)

/-- The infobases of a name, with their clusters. -/
def homonyms (wanted : String) (clusters : List (Option (Uuid × List RacBlock))) :
    List (Uuid × RacBlock) :=
  clusters.flatMap fun survey =>
    match survey with
    | some (cluster, blocks) => (blocks.filter (named texts wanted)).map fun block => (cluster, block)
    | none => []

/-- The infobases of a name that have a valid GUID. -/
def identified (wanted : String) (clusters : List (Option (Uuid × List RacBlock))) :
    List ResolvedDatabaseIdentity :=
  (homonyms texts wanted clusters).filterMap fun found =>
    (block_guid texts "infobase" found.2).map fun ib => ⟨found.1, ib⟩

variable {texts}

theorem identified_some {wanted : String} {cluster : Uuid} (blocks : List RacBlock)
    (rest : List (Option (Uuid × List RacBlock))) :
    identified texts wanted (some (cluster, blocks) :: rest) =
      blocks.filterMap (block_match texts wanted cluster) ++ identified texts wanted rest := by
  unfold identified homonyms
  rw [List.flatMap_cons, List.filterMap_append, List.filterMap_map, List.filterMap_filter]
  rfl

/-- The loop finds the infobases with a GUID in the clusters it could examine. -/
theorem cluster_matches_eq {rac : Rac} {ras wanted : String} {call : Nat} (blocks : List RacBlock) :
    cluster_matches texts rac ras wanted call (blocks.filterMap (block_guid texts "cluster")) =
      identified texts wanted (surveys texts rac ras call blocks) := by
  induction blocks generalizing call with
  | nil => rfl
  | cons block rest ih =>
    cases guid : block_guid texts "cluster" block with
    | none =>
      simp only [surveys, guid, List.filterMap_cons_none]
      exact ih
    | some cluster =>
      cases answer : rac call (infobase_list cluster ras) with
      | error e =>
        rw [List.filterMap_cons_some guid]
        simp only [surveys, guid, cluster_matches, answer]
        exact ih
      | ok out =>
        rw [List.filterMap_cons_some guid]
        simp only [surveys, guid, cluster_matches, answer]
        rw [identified_some, ih]

/-- **What a resolution is:** the only infobase with a GUID in the clusters examined. -/
theorem resolve_uncached_eq_some {rac : Rac} {ras_address : Option String}
    {cluster_server ib_name : String} {id : ResolvedDatabaseIdentity} :
    resolve_uncached texts rac ras_address cluster_server ib_name = some id ↔
      identified texts (wanted_name texts ib_name) (listed texts rac ras_address cluster_server) =
        [id] := by
  simp only [resolve_uncached, listed]
  cases answer : rac 0 (cluster_list (rac_address ras_address cluster_server)) with
  | error e =>
    constructor
    · intro impossible
      cases impossible
    · intro impossible
      cases impossible
  | ok out =>
    dsimp only
    rw [cluster_matches_eq]
    generalize identified texts _ _ = found
    constructor
    · intro resolved
      split at resolved
      · cases resolved
        rfl
      · cases resolved
    · intro one
      rw [one]

/-! ## When the resolution is unambiguous -/

/-- What is resolved is the only infobase of its name in all clusters of the list, each of which
was examined. -/
def Unambiguous (texts : RasTexts) (rac : Rac) (ras_address : Option String)
    (cluster_server ib_name : String) : Prop :=
  ∀ id, resolve_uncached texts rac ras_address cluster_server ib_name = some id →
    (∀ survey ∈ listed texts rac ras_address cluster_server, survey.isSome = true) ∧
      ∃ block, homonyms texts (wanted_name texts ib_name)
          (listed texts rac ras_address cluster_server) = [(id.cluster_guid, block)] ∧
        block_guid texts "infobase" block = some id.infobase_guid

/-- Some cluster of the list was not examined, or an infobase of the name has no GUID. -/
def Overlooked (texts : RasTexts) (rac : Rac) (ras_address : Option String)
    (cluster_server ib_name : String) : Prop :=
  (∃ survey ∈ listed texts rac ras_address cluster_server, survey.isNone = true) ∨
    ∃ found ∈ homonyms texts (wanted_name texts ib_name)
        (listed texts rac ras_address cluster_server),
      block_guid texts "infobase" found.2 = none

/-- If every element has a value and there is one value, there is one element. -/
theorem eq_singleton_of_filterMap {α β : Type} {f : α → Option β} {l : List α} {b : β}
    (one : l.filterMap f = [b]) (every : ∀ a ∈ l, f a ≠ none) : ∃ a, l = [a] ∧ f a = some b := by
  cases l with
  | nil => cases one
  | cons a rest =>
    cases value : f a with
    | none => exact absurd value (every a (List.mem_cons_self ..))
    | some c =>
      rw [List.filterMap_cons_some value] at one
      obtain ⟨rfl, none⟩ := List.cons.inj one
      cases rest with
      | nil => exact ⟨a, rfl, value⟩
      | cons a' rest =>
        have absent := List.filterMap_eq_nil_iff.mp none a' (List.mem_cons_self ..)
        exact absurd absent (every a' (List.mem_cons_of_mem _ (List.mem_cons_self ..)))

/-- **Resolution is unambiguous unless it overlooks something** beside the one infobase it finds. -/
theorem unambiguous_iff (texts : RasTexts) (rac : Rac) (ras_address : Option String)
    (cluster_server ib_name : String) :
    Unambiguous texts rac ras_address cluster_server ib_name ↔
      ¬ ((∃ id, identified texts (wanted_name texts ib_name)
            (listed texts rac ras_address cluster_server) = [id]) ∧
        Overlooked texts rac ras_address cluster_server ib_name) := by
  constructor
  · rintro unambiguous ⟨⟨id, one⟩, overlooked⟩
    obtain ⟨examined, block, only, guid⟩ := unambiguous id (resolve_uncached_eq_some.mpr one)
    rcases overlooked with ⟨survey, member, none⟩ | ⟨found, member, none⟩
    · rw [Option.isNone_iff_eq_none.mp none] at member
      cases examined _ member
    · rw [only] at member
      cases List.mem_singleton.mp member
      rw [guid] at none
      cases none
  · intro complete id resolved
    have one := resolve_uncached_eq_some.mp resolved
    have seen := fun overlooked => complete ⟨⟨id, one⟩, overlooked⟩
    constructor
    · intro survey member
      cases known : survey with
      | none => exact absurd (.inl ⟨survey, member, known ▸ rfl⟩) seen
      | some _ => rfl
    · obtain ⟨⟨cluster, block⟩, only, guid⟩ := eq_singleton_of_filterMap one fun found member none =>
        seen (.inr ⟨found, member, by simpa only [Option.map_eq_none_iff] using none⟩)
      obtain ⟨ib, infobase, rfl⟩ := Option.map_eq_some_iff.mp guid
      exact ⟨block, only, infobase⟩

/-! ### A cluster that is passed over -/

/-- The GUID made of one byte. -/
def repeated (byte : UInt8) : Uuid := ⟨List.replicate 16 byte, by rw [List.length_replicate]⟩

/-- Texts in lower case already, and the GUIDs of the example. -/
def plain_texts : RasTexts where
  to_lowercase s := s
  parse_str s := [repeated 0x11, repeated 0x22, repeated 0xAA].find? fun guid => guid.to_string == s

/-- Two clusters are listed, of which the second does not answer. -/
def second_is_down : Rac
  | 0, _ => .ok ("cluster : " ++ (repeated 0x11).to_string ++ "\nhost : one\n\ncluster : " ++
      (repeated 0x22).to_string ++ "\nhost : two\n")
  | 1, _ => .ok ("infobase : " ++ (repeated 0xAA).to_string ++ "\nname : base\n")
  | _, _ => .error "rac exited"

/-- The infobase of the first cluster is taken, though the second cluster was not examined. -/
theorem unexamined_cluster_is_ignored :
    resolve_uncached plain_texts second_is_down none "onec" "base" =
        some ⟨repeated 0x11, repeated 0xAA⟩ ∧
      none ∈ listed plain_texts second_is_down none "onec" ∧
      ¬ Unambiguous plain_texts second_is_down none "onec" "base" := by
  have resolved : resolve_uncached plain_texts second_is_down none "onec" "base" =
      some ⟨repeated 0x11, repeated 0xAA⟩ := by decide +kernel
  have passed : (listed plain_texts second_is_down none "onec").any Option.isNone = true := by
    decide +kernel
  obtain ⟨survey, member, none⟩ := List.any_eq_true.mp passed
  rw [Option.isNone_iff_eq_none.mp none] at member
  refine ⟨resolved, member, fun unambiguous => ?_⟩
  cases (unambiguous _ resolved).1 _ member

end SessionManager
