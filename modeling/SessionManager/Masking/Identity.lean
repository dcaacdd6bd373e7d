import SessionManager.Registry

/-!
# The identity of a session's database

A database is known by an opaque key that the manager computes when a session registers
(`session_manager/masking/identity.rs`): from the GUIDs of a RAS resolution, or else from the
coordinates as they came.  Keys are compared as texts.  Resolved keys tell databases apart;
keys of coordinates do so unless one server name continues the other with a slash
(`database_key_injective_iff`).
-/

namespace SessionManager

/-! ## GUIDs -/

/-- `uuid::Uuid`: sixteen bytes. -/
structure Uuid where
  bytes : List UInt8
  sixteen : bytes.length = 16
  deriving DecidableEq

/-- A byte as two lower-case hexadecimal digits. -/
def hex (byte : UInt8) : List Char :=
  [Nat.digitChar (byte.toNat / 16), Nat.digitChar (byte.toNat % 16)]

/-- The hyphenated form: groups of four, two, two, two and six bytes. -/
def Uuid.chars (uuid : Uuid) : List Char :=
  let digits (start stop : Nat) := (uuid.bytes.extract start stop).flatMap hex
  digits 0 4 ++ '-' :: digits 4 6 ++ '-' :: digits 6 8 ++ '-' :: digits 8 10 ++ '-' :: digits 10 16

def Uuid.to_string (uuid : Uuid) : String := String.ofList uuid.chars

/-! ## Keys -/

structure ResolvedDatabaseIdentity where
  cluster_guid : Uuid
  infobase_guid : Uuid
  deriving DecidableEq

structure SessionDatabaseIdentity where
  instance_id : String
  cluster_server : String
  infobase_name : String
  deriving DecidableEq

def database_key (cluster_server infobase_name : String) :
    Option ResolvedDatabaseIdentity → String
  | some id => "ras:" ++ id.cluster_guid.to_string ++ ":" ++ id.infobase_guid.to_string
  | none => "gen:" ++ cluster_server ++ "/" ++ infobase_name

def SessionDatabaseIdentity.from_record (record : SessionRecord) :
    Option SessionDatabaseIdentity :=
  record.database_key.map fun instance_id =>
    { instance_id
      cluster_server := record.cluster_server.getD ""
      infobase_name := record.infobase_name }

/-! ## Texts of GUIDs -/

theorem digitChar_inj {m n : Nat} (hm : m < 16) (hn : n < 16)
    (same : Nat.digitChar m = Nat.digitChar n) : m = n := by
  have all : ∀ a b : Fin 16, Nat.digitChar a = Nat.digitChar b → a = b := by decide
  exact congrArg Fin.val (all ⟨m, hm⟩ ⟨n, hn⟩ same)

theorem hex_inj {a b : UInt8} (same : hex a = hex b) : a = b := by
  obtain ⟨high, low⟩ := List.cons.inj same
  have low := (List.cons.inj low).1
  have bound (c : UInt8) : c.toNat < 256 := c.toNat_lt
  have quotients := digitChar_inj (Nat.div_lt_of_lt_mul (bound a)) (Nat.div_lt_of_lt_mul (bound b)) high
  have rests := digitChar_inj (Nat.mod_lt _ (by decide)) (Nat.mod_lt _ (by decide)) low
  refine UInt8.toNat_inj.mp ?_
  rw [← Nat.div_add_mod a.toNat 16, ← Nat.div_add_mod b.toNat 16, quotients, rests]

theorem flatMap_hex_inj {xs ys : List UInt8} (same : xs.flatMap hex = ys.flatMap hex) : xs = ys := by
  induction xs generalizing ys with
  | nil =>
    cases ys with
    | nil => rfl
    | cons y ys => cases same
  | cons x xs ih =>
    cases ys with
    | nil => cases same
    | cons y ys =>
      rw [List.flatMap_cons, List.flatMap_cons] at same
      obtain ⟨first, rest⟩ := List.append_inj same rfl
      rw [hex_inj first, ih rest]

theorem length_flatMap_hex (xs : List UInt8) : (xs.flatMap hex).length = xs.length * 2 := by
  induction xs with
  | nil => rfl
  | cons x xs ih =>
    rw [List.flatMap_cons, List.length_append, ih, List.length_cons, Nat.succ_mul, Nat.add_comm]
    rfl

/-- The groups of the hyphenated form make up all sixteen bytes. -/
theorem Uuid.bytes_eq (u : Uuid) :
    u.bytes = u.bytes.extract 0 4 ++ (u.bytes.extract 4 6 ++
      (u.bytes.extract 6 8 ++ (u.bytes.extract 8 10 ++ u.bytes.extract 10 16))) := by
  have rest : u.bytes.extract 10 16 = u.bytes.drop 10 :=
    List.take_of_length_le (by rw [List.length_drop, u.sixteen])
  have split (start stop : Nat) (le : start ≤ stop) :
      u.bytes.extract start stop ++ u.bytes.drop stop = u.bytes.drop start := by
    have rest : u.bytes.drop stop = (u.bytes.drop start).drop (stop - start) := by
      rw [List.drop_drop, Nat.add_sub_cancel' le]
    rw [List.extract_eq_take_drop, rest, List.take_append_drop]
  rw [rest, split 8 10 (by decide), split 6 8 (by decide), split 4 6 (by decide),
    split 0 4 (by decide), List.drop_zero]

/-- Different GUIDs have different texts. -/
theorem Uuid.chars_inj {u v : Uuid} (same : u.chars = v.chars) : u = v := by
  have lengths (start stop : Nat) : ((u.bytes.extract start stop).flatMap hex).length =
      ((v.bytes.extract start stop).flatMap hex).length := by
    simp only [length_flatMap_hex, List.extract_eq_take_drop, List.length_take, List.length_drop,
      u.sixteen, v.sixteen]
  simp only [Uuid.chars, List.append_assoc, List.cons_append] at same
  obtain ⟨first, same⟩ := List.append_inj same (lengths 0 4)
  obtain ⟨second, same⟩ := List.append_inj (List.cons.inj same).2 (lengths 4 6)
  obtain ⟨third, same⟩ := List.append_inj (List.cons.inj same).2 (lengths 6 8)
  obtain ⟨fourth, same⟩ := List.append_inj (List.cons.inj same).2 (lengths 8 10)
  have fifth := (List.cons.inj same).2
  have bytes : u.bytes = v.bytes := by
    rw [u.bytes_eq, v.bytes_eq, flatMap_hex_inj first, flatMap_hex_inj second,
      flatMap_hex_inj third, flatMap_hex_inj fourth, flatMap_hex_inj fifth]
  cases u
  cases v
  cases bytes
  rfl

theorem Uuid.length_chars (u : Uuid) : u.chars.length = 36 := by
  simp only [Uuid.chars, List.length_append, List.length_cons, length_flatMap_hex,
    List.extract_eq_take_drop, List.length_take, List.length_drop, u.sixteen]
  rfl

/-! ## When keys tell databases apart -/

/-- One server name continues the other with a slash, and the text after it begins the other's
infobase name. -/
def Straddles (cluster_server infobase_name cluster_server' infobase_name' : String) : Prop :=
  ∃ text, cluster_server' = cluster_server ++ "/" ++ text ∧
    infobase_name = text ++ "/" ++ infobase_name'

/-- What a key stands for is the same: the resolved GUIDs, or the coordinates. -/
def SameDatabase (cluster_server infobase_name : String) (resolved : Option ResolvedDatabaseIdentity)
    (cluster_server' infobase_name' : String) (resolved' : Option ResolvedDatabaseIdentity) : Prop :=
  resolved = resolved' ∧
    (resolved = none → cluster_server = cluster_server' ∧ infobase_name = infobase_name')

theorem resolved_key_inj {cluster_server infobase_name cluster_server' infobase_name' : String}
    {id id' : ResolvedDatabaseIdentity}
    (same : database_key cluster_server infobase_name (some id) =
      database_key cluster_server' infobase_name' (some id')) : id = id' := by
  have chars := congrArg String.toList same
  simp only [database_key, Uuid.to_string, String.toList_append, String.toList_ofList,
    List.append_assoc] at chars
  obtain ⟨-, chars⟩ := List.append_inj chars rfl
  obtain ⟨cluster, chars⟩ := List.append_inj chars
    ((Uuid.length_chars _).trans (Uuid.length_chars _).symm)
  obtain ⟨-, infobase⟩ := List.append_inj chars rfl
  cases id
  cases id'
  exact congrArg₂ _ (Uuid.chars_inj cluster) (Uuid.chars_inj infobase)

/-- A resolved key is never a key of coordinates. -/
theorem resolved_key_ne {cluster_server infobase_name cluster_server' infobase_name' : String}
    {id : ResolvedDatabaseIdentity} :
    database_key cluster_server infobase_name (some id) ≠
      database_key cluster_server' infobase_name' none := by
  intro same
  have chars := congrArg String.toList same
  simp only [database_key, String.toList_append, List.append_assoc] at chars
  have prefixes := (List.append_inj chars rfl).1
  exact absurd prefixes (by decide)

/-- Keys of coordinates are the same exactly for the same or straddling coordinates. -/
theorem generated_key_eq_iff {cluster_server infobase_name cluster_server' infobase_name' : String} :
    database_key cluster_server infobase_name none =
        database_key cluster_server' infobase_name' none ↔
      (cluster_server = cluster_server' ∧ infobase_name = infobase_name') ∨
        Straddles cluster_server infobase_name cluster_server' infobase_name' ∨
        Straddles cluster_server' infobase_name' cluster_server infobase_name := by
  have chars : database_key cluster_server infobase_name none =
        database_key cluster_server' infobase_name' none ↔
      cluster_server.toList ++ "/".toList ++ infobase_name.toList =
        cluster_server'.toList ++ "/".toList ++ infobase_name'.toList := by
    simp only [database_key, ← String.toList_inj, String.toList_append, List.append_assoc,
      List.append_cancel_left_eq]
  have straddles (c i c' i' : String) : Straddles c i c' i' ↔
      ∃ text, c'.toList = c.toList ++ '/' :: text ∧ i.toList = text ++ '/' :: i'.toList := by
    simp only [Straddles, ← String.toList_inj, String.toList_append, List.append_assoc]
    constructor
    · rintro ⟨text, server, infobase⟩
      exact ⟨text.toList, server, infobase⟩
    · rintro ⟨text, server, infobase⟩
      have back : (String.ofList text).toList = text := String.toList_ofList
      exact ⟨String.ofList text, by rw [back]; exact server, by rw [back]; exact infobase⟩
  rw [chars, straddles, straddles, ← String.toList_inj, ← String.toList_inj]
  generalize cluster_server.toList = c, infobase_name.toList = i, cluster_server'.toList = c',
    infobase_name'.toList = i'
  constructor
  · intro same
    rw [List.append_assoc, List.append_assoc, List.append_eq_append_iff] at same
    rcases same with ⟨text, rfl, rest⟩ | ⟨text, rfl, rest⟩
    · cases text with
      | nil => exact .inl ⟨(List.append_nil c).symm, (List.cons.inj rest).2⟩
      | cons slash text =>
        obtain ⟨rfl, infobase⟩ := List.cons.inj rest
        exact .inr (.inl ⟨text, rfl, infobase⟩)
    · cases text with
      | nil => exact .inl ⟨List.append_nil c', (List.cons.inj rest).2.symm⟩
      | cons slash text =>
        obtain ⟨rfl, infobase⟩ := List.cons.inj rest
        exact .inr (.inr ⟨text, rfl, infobase⟩)
  · rintro (⟨rfl, rfl⟩ | ⟨text, rfl, rfl⟩ | ⟨text, rfl, rfl⟩)
    · rfl
    · simp only [List.append_assoc, List.cons_append]
      rfl
    · simp only [List.append_assoc, List.cons_append]
      rfl

/-- Straddling coordinates differ. -/
theorem Straddles.differ {cluster_server infobase_name cluster_server' infobase_name' : String}
    (straddles : Straddles cluster_server infobase_name cluster_server' infobase_name') :
    cluster_server ≠ cluster_server' := by
  rintro same
  obtain ⟨text, server, -⟩ := straddles
  have lengths := congrArg (fun s : String => s.toList.length) (same.trans server)
  simp only [String.toList_append, List.length_append] at lengths
  have slash : "/".toList.length = 1 := rfl
  omega

/-- **Two registrations with one key are of the same database, unless they are unresolved and
their coordinates straddle a slash; resolved and generated keys never meet.** -/
theorem database_key_injective_iff (cluster_server infobase_name : String)
    (resolved : Option ResolvedDatabaseIdentity) (cluster_server' infobase_name' : String)
    (resolved' : Option ResolvedDatabaseIdentity) :
    ((database_key cluster_server infobase_name resolved =
        database_key cluster_server' infobase_name' resolved' →
      SameDatabase cluster_server infobase_name resolved cluster_server' infobase_name' resolved') ↔
      ¬ (resolved = none ∧ resolved' = none ∧
        (Straddles cluster_server infobase_name cluster_server' infobase_name' ∨
          Straddles cluster_server' infobase_name' cluster_server infobase_name))) ∧
    (resolved.isSome = true → resolved' = none →
      database_key cluster_server infobase_name resolved ≠
        database_key cluster_server' infobase_name' resolved') := by
  cases resolved with
  | some id =>
    refine ⟨iff_of_true (fun same => ?_) fun unresolved => ?_, fun _ none => ?_⟩
    · cases resolved' with
      | some id' => exact ⟨congrArg some (resolved_key_inj same), fun none => by cases none⟩
      | none => exact absurd same resolved_key_ne
    · cases unresolved.1
    · subst none
      exact resolved_key_ne
  | none =>
    refine ⟨?_, fun resolved => by cases resolved⟩
    cases resolved' with
    | some id' =>
      refine iff_of_true (fun same => absurd same.symm resolved_key_ne) fun unresolved => ?_
      cases unresolved.2.1
    | none =>
      rw [generated_key_eq_iff]
      constructor
      · rintro injective ⟨-, -, straddles⟩
        obtain ⟨-, same⟩ := injective (.inr straddles)
        obtain ⟨rfl, rfl⟩ := same rfl
        exact straddles.elim (fun left => left.differ rfl) fun right => right.differ rfl
      · rintro apart (same | straddles)
        · exact ⟨rfl, fun _ => same⟩
        · exact absurd ⟨rfl, rfl, straddles⟩ apart

/-- The bases `a/b` on `srv` and `b` on `srv/a` have one key. -/
theorem straddling_coordinates_merge :
    database_key "srv" "a/b" none = database_key "srv/a" "b" none ∧
      ¬ SameDatabase "srv" "a/b" none "srv/a" "b" none :=
  ⟨rfl, fun same => absurd (same.2 rfl).1 (by decide)⟩

end SessionManager
