import SessionManager.Json.Decode
import Mathlib.Data.List.Chain
import Mathlib.Data.List.Nodup

/-!
# JSON between Python and Rust

The values of Python's `json` module, the text `json.dumps` writes of them, and what `serde_json`
reads in that text.  The two differ in their numbers and in their strings: `serde_json` keeps an
integer of 64 bits only and reads any other as a float, and it has no surrogates.  A value whose
leaves both have is read as itself, and no other one is (`collect_eq_iff`).
-/

namespace Python

open Json (Fields)

/-! ## Strings -/

/-- A code point; a `str` may hold surrogates. -/
abbrev Code := Fin 0x110000

abbrev Str := List Code

instance : LawfulBEq Str := inferInstance

def Code.high (c : Code) : Bool := 0xD800 ≤ c.val && c.val < 0xDC00

def Code.low (c : Code) : Bool := 0xDC00 ≤ c.val && c.val < 0xE000

def Code.surrogate (c : Code) : Bool := c.high || c.low

theorem code_bound (c : Char) : c.toNat < 0x110000 := by
  rcases c.valid with small | ⟨-, bound⟩
  · exact Nat.lt_trans small (by decide)
  · exact bound

def Code.of (c : Char) : Code := ⟨c.toNat, code_bound c⟩

/-- Python's `str` for a text of Rust. -/
def Str.of (s : String) : Str := s.toList.map Code.of

/-- The character at a code point that is no surrogate. -/
def Code.char (c : Code) : Option Char :=
  if c.surrogate then none else some (Char.ofNat c.val)

/-- The text of Rust for a `str` without surrogates. -/
def Str.decode (s : Str) : Option String := (s.mapM Code.char).map String.ofList

/-- No surrogates follow each other that are the two halves of one character. -/
def Str.Apart (s : Str) : Prop := s.IsChain fun c d => ¬ (c.high ∧ d.low)

theorem surrogate_iff {c : Code} : c.surrogate = true ↔ 0xD800 ≤ c.val ∧ c.val < 0xE000 := by
  simp only [Code.surrogate, Code.high, Code.low, Bool.or_eq_true, Bool.and_eq_true,
    decide_eq_true_eq]
  omega

theorem surrogate_of (c : Char) : (Code.of c).surrogate = false := by
  have valid : c.toNat < 0xD800 ∨ 0xDFFF < c.toNat ∧ c.toNat < 0x110000 := c.valid
  have same : (Code.of c).val = c.toNat := rfl
  rw [← Bool.not_eq_true, surrogate_iff, same]
  omega

theorem char_of (c : Char) : (Code.of c).char = some c := by
  rw [Code.char, surrogate_of, if_neg Bool.false_ne_true]
  exact congrArg some (Char.ofNat_toNat c)

theorem of_char {c : Code} {d : Char} (read : c.char = some d) : c = Code.of d := by
  unfold Code.char at read
  split at read
  · cases read
  · rename_i plain
    have valid : c.val.isValidChar := by
      have bound := c.isLt
      rw [surrogate_iff] at plain
      rw [Nat.isValidChar]
      omega
    cases read
    apply Fin.ext
    rw [Code.of, Char.ofNat, dif_pos valid]
    rfl

/-- The `str` that decode are those of the texts of Rust. -/
theorem decode_eq_some {s : Str} {t : String} : s.decode = some t ↔ s = Str.of t := by
  constructor
  · intro read
    obtain ⟨chars, read_chars, rfl⟩ := Option.map_eq_some_iff.mp read
    rw [Str.of, String.toList_ofList]
    clear read
    induction s generalizing chars with
    | nil =>
      cases read_chars
      rfl
    | cons c rest ih =>
      rw [List.mapM_cons] at read_chars
      obtain ⟨d, first, read_rest⟩ := Option.bind_eq_some_iff.mp read_chars
      obtain ⟨others, later, same⟩ := Option.bind_eq_some_iff.mp read_rest
      cases same
      rw [of_char first, ih others later, List.map_cons]
  · intro same
    rw [same, Str.decode, Str.of, Json.mapM_map_eq fun c _ => char_of c, Option.map_some,
      String.ofList_toList]

theorem decode_of (t : String) : (Str.of t).decode = some t := decode_eq_some.mpr rfl

theorem Str.of_injective : Function.Injective Str.of := by
  intro s t same
  have decoded := decode_of s
  rw [same, decode_of] at decoded
  exact (Option.some.inj decoded).symm

/-- Without surrogates. -/
def Str.Clean (s : Str) : Prop := ∀ c ∈ s, c.surrogate = false

theorem clean_of (t : String) : (Str.of t).Clean := by
  intro c member
  obtain ⟨d, -, rfl⟩ := List.mem_map.mp member
  exact surrogate_of d

theorem Str.Clean.no_half {s : Str} (clean : s.Clean) : ¬ s.any Code.surrogate = true := by
  intro some_half
  obtain ⟨c, member, half⟩ := List.any_eq_true.mp some_half
  rw [clean c member] at half
  cases half

theorem Str.Clean.append {s t : Str} (first : s.Clean) (second : t.Clean) : (s ++ t).Clean :=
  List.forall_mem_append.mpr ⟨first, second⟩

theorem decode_isSome {s : Str} : s.decode.isSome ↔ s.Clean := by
  constructor
  · intro read
    obtain ⟨t, read⟩ := Option.isSome_iff_exists.mp read
    rw [decode_eq_some.mp read]
    exact clean_of t
  · intro clean
    rw [Str.decode, Option.isSome_map]
    induction s with
    | nil => rfl
    | cons c rest ih =>
      obtain ⟨plain, others⟩ := List.forall_mem_cons.mp clean
      obtain ⟨chars, read⟩ := Option.isSome_iff_exists.mp (ih others)
      rw [List.mapM_cons, read, Code.char, plain, if_neg Bool.false_ne_true]
      rfl

/-! ## Values -/

inductive Float
  /-- The float that `serde_json` prints as this text. -/
  | finite (text : String)
  | nan
  | inf (negative : Bool)
  deriving DecidableEq, Repr

/-- A value made of the types of JSON; the keys of a dictionary are strings. -/
inductive Value
  | None
  | bool (b : Bool)
  | int (n : Int)
  | float (x : Float)
  | str (s : Str)
  | list (items : List Value)
  | dict (entries : List (Str × Value))
  deriving Inhabited

abbrev Entries := List (Str × Value)

/-- `d.get(key)` -/
def get (entries : Entries) (key : String) : Option Value :=
  (entries.find? fun entry => entry.1 == Str.of key).map Prod.snd

/-- A dictionary with these keys. -/
def of_members (members : List (String × Value)) : Value :=
  .dict (members.map fun entry => (Str.of entry.1, entry.2))

def text (s : String) : Value := .str (Str.of s)

/-- `bool(value)` -/
def Value.truthy : Value → Bool
  | .None => false
  | .bool b => b
  | .int n => n ≠ 0
  | .float (.finite text) => text ≠ "0.0" ∧ text ≠ "-0.0"
  | .float _ => true
  | .str s => !s.isEmpty
  | .list items => !items.isEmpty
  | .dict entries => !entries.isEmpty

/-- What the two languages make of numbers as text. -/
structure Floats where
  /-- `float.__repr__` of the float that `serde_json` prints as the given text. -/
  repr : String → String
  /-- The float `serde_json` reads in a number that is no integer of 64 bits, as it prints it;
  none if it is out of range. -/
  read : String → Option String

variable (floats : Floats)

/-! ## `json.dumps` -/

def hex4 (n : Nat) : String :=
  "\\u" ++ String.ofList [Nat.digitChar (n / 4096 % 16), Nat.digitChar (n / 256 % 16),
    Nat.digitChar (n / 16 % 16), Nat.digitChar (n % 16)]

/-- The escapes of two characters. -/
def short_escape : Nat → Option String
  | 0x22 => some "\\\""
  | 0x5C => some "\\\\"
  | 0x0A => some "\\n"
  | 0x0D => some "\\r"
  | 0x09 => some "\\t"
  | 0x0C => some "\\f"
  | 0x08 => some "\\b"
  | _ => none

/-- The escape of a code point, if it has one. -/
def escaped (ensure_ascii : Bool) (c : Code) : Option String :=
  match short_escape c.val with
  | some t => some t
  | none =>
    if c.val < 0x20 then some (hex4 c.val)
    else if !ensure_ascii || c.val < 0x7F then none
    else if c.val < 0x10000 then some (hex4 c.val)
    else some (hex4 (0xD800 + (c.val - 0x10000) / 0x400) ++
      hex4 (0xDC00 + (c.val - 0x10000) % 0x400))

def escape (ensure_ascii : Bool) (c : Code) : Str :=
  ((escaped ensure_ascii c).map Str.of).getD [c]

def quote (ensure_ascii : Bool) (s : Str) : Str :=
  Str.of "\"" ++ s.flatMap (escape ensure_ascii) ++ Str.of "\""

def Float.dumps : Float → String
  | .finite text => floats.repr text
  | .nan => "NaN"
  | .inf negative => if negative then "-Infinity" else "Infinity"

mutual

def Value.dumps (ensure_ascii : Bool) : Value → Str
  | .None => Str.of "null"
  | .bool b => Str.of (if b then "true" else "false")
  | .int n => Str.of (toString n)
  | .float x => Str.of (x.dumps floats)
  | .str s => quote ensure_ascii s
  | .list items => Str.of "[" ++ dumpsItems ensure_ascii items ++ Str.of "]"
  | .dict entries => Str.of "\x7b" ++ dumpsEntries ensure_ascii entries ++ Str.of "\x7d"

def dumpsItems (ensure_ascii : Bool) : List Value → Str
  | [] => []
  | [x] => x.dumps ensure_ascii
  | x :: y :: rest => x.dumps ensure_ascii ++ Str.of ", " ++ dumpsItems ensure_ascii (y :: rest)

def dumpsEntries (ensure_ascii : Bool) : Entries → Str
  | [] => []
  | [(k, v)] => quote ensure_ascii k ++ Str.of ": " ++ v.dumps ensure_ascii
  | (k, v) :: entry :: rest =>
    quote ensure_ascii k ++ Str.of ": " ++ v.dumps ensure_ascii ++ Str.of ", " ++
      dumpsEntries ensure_ascii (entry :: rest)

end

/-! ## `serde_json` -/

/-- The integers `serde_json` keeps. -/
def Kept (n : Int) : Prop := -2 ^ 63 ≤ n ∧ n < 2 ^ 64

instance (n : Int) : Decidable (Kept n) := inferInstanceAs (Decidable (_ ∧ _))

def Float.read : Float → Option String
  | .finite text => floats.read (floats.repr text)
  | _ => none

mutual

/-- What `serde_json` reads in the text of a value, the members of an object in their order. -/
def Value.read : Value → Option Json.Value
  | .None => some .null
  | .bool b => some (.bool b)
  | .int n =>
    if Kept n then some (.number (.int n))
    else (floats.read (toString n)).map fun text => .number (.float text)
  | .float x => (x.read floats).map fun text => .number (.float text)
  | .str s => s.decode.map .string
  | .list items => (readItems items).map .array
  | .dict entries => (readEntries entries).map .object

def readItems : List Value → Option (List Json.Value)
  | [] => some []
  | x :: rest => do return (← x.read) :: (← readItems rest)

def readEntries : Entries → Option Fields
  | [] => some []
  | (k, v) :: rest => do return (← k.decode, ← v.read) :: (← readEntries rest)

end

/-! ## The texts -/

/-- With `ensure_ascii` every surrogate has an escape. -/
theorem plain_of_unescaped {c : Code} (unescaped : escaped true c = none) :
    c.surrogate = false := by
  unfold escaped at unescaped
  split at unescaped
  · cases unescaped
  split_ifs at unescaped with _ kept
  rw [Bool.not_true, Bool.false_or, decide_eq_true_eq] at kept
  rw [← Bool.not_eq_true, surrogate_iff]
  omega

theorem clean_escape (ensure_ascii : Bool) {c : Code} (plain : ensure_ascii ∨ c.surrogate = false) :
    (escape ensure_ascii c).Clean := by
  unfold escape
  cases written : escaped ensure_ascii c with
  | some t => exact clean_of t
  | none =>
    intro d member
    cases List.mem_singleton.mp member
    rcases plain with rfl | plain
    · exact plain_of_unescaped written
    · exact plain

theorem clean_quote (ensure_ascii : Bool) {s : Str} (plain : ensure_ascii ∨ s.Clean) :
    (quote ensure_ascii s).Clean := by
  refine ((clean_of _).append ?_).append (clean_of _)
  intro d member
  obtain ⟨c, there, here⟩ := List.mem_flatMap.mp member
  exact clean_escape ensure_ascii (plain.imp_right fun clean => clean c there) d here

mutual

/-- No string and no key has surrogates. -/
def Value.Clean : Value → Prop
  | .str s => s.Clean
  | .list items => CleanItems items
  | .dict entries => CleanEntries entries
  | _ => True

def CleanItems : List Value → Prop
  | [] => True
  | x :: rest => x.Clean ∧ CleanItems rest

def CleanEntries : Entries → Prop
  | [] => True
  | (k, v) :: rest => k.Clean ∧ v.Clean ∧ CleanEntries rest

end

variable {ensure_ascii : Bool}

mutual

/-- The text of a value is one of Rust if surrogates are escaped, or there are none. -/
theorem Value.clean_dumps : ∀ {v : Value}, (ensure_ascii ∨ v.Clean) →
    (v.dumps floats ensure_ascii).Clean
  | .None, _ | .bool _, _ | .int _, _ | .float _, _ => clean_of _
  | .str _, plain => clean_quote ensure_ascii plain
  | .list _, plain => ((clean_of _).append (clean_dumpsItems plain)).append (clean_of _)
  | .dict _, plain => ((clean_of _).append (clean_dumpsEntries plain)).append (clean_of _)

theorem clean_dumpsItems : ∀ {items : List Value}, (ensure_ascii ∨ CleanItems items) →
    (dumpsItems floats ensure_ascii items).Clean
  | [], _ => clean_of ""
  | [_], plain => Value.clean_dumps (plain.imp_right And.left)
  | _ :: _ :: _, plain =>
    ((Value.clean_dumps (plain.imp_right And.left)).append (clean_of _)).append
      (clean_dumpsItems (plain.imp_right And.right))

theorem clean_dumpsEntries : ∀ {entries : Entries}, (ensure_ascii ∨ CleanEntries entries) →
    (dumpsEntries floats ensure_ascii entries).Clean
  | [], _ => clean_of ""
  | [_], plain =>
    ((clean_quote ensure_ascii (plain.imp_right And.left)).append (clean_of _)).append
      (Value.clean_dumps (plain.imp_right fun clean => clean.2.1))
  | _ :: _ :: _, plain =>
    ((((clean_quote ensure_ascii (plain.imp_right And.left)).append (clean_of _)).append
      (Value.clean_dumps (plain.imp_right fun clean => clean.2.1))).append (clean_of _)).append
        (clean_dumpsEntries (plain.imp_right fun clean => clean.2.2))

end

theorem escape_surrogate {c : Code} (half : c.surrogate = true) : escape false c = [c] := by
  rw [surrogate_iff] at half
  have long : short_escape c.val = none := by
    unfold short_escape
    split <;> first | omega | rfl
  have printed : ¬ c.val < 0x20 := by omega
  rw [escape, escaped, long]
  dsimp only
  rw [if_neg printed, Bool.not_false, Bool.true_or, if_pos rfl]
  rfl

theorem clean_of_quote {s : Str} (clean : (quote false s).Clean) : s.Clean := by
  intro c member
  rw [← Bool.not_eq_true]
  intro half
  have inside : c ∈ s.flatMap (escape false) :=
    List.mem_flatMap.mpr ⟨c, member, by rw [escape_surrogate half]; exact List.mem_singleton.mpr rfl⟩
  have plain := clean c (List.mem_append_left _ (List.mem_append_right _ inside))
  rw [half] at plain
  cases plain

mutual

theorem Value.clean_of_dumps : ∀ {v : Value}, (v.dumps floats false).Clean → v.Clean
  | .None, _ | .bool _, _ | .int _, _ | .float _, _ => trivial
  | .str _, clean => clean_of_quote clean
  | .list _, clean =>
    clean_of_dumpsItems (List.forall_mem_append.mp (List.forall_mem_append.mp clean).1).2
  | .dict _, clean =>
    clean_of_dumpsEntries (List.forall_mem_append.mp (List.forall_mem_append.mp clean).1).2

theorem clean_of_dumpsItems : ∀ {items : List Value}, (dumpsItems floats false items).Clean →
    CleanItems items
  | [], _ => trivial
  | [_], clean => ⟨Value.clean_of_dumps clean, trivial⟩
  | _ :: _ :: _, clean => by
    obtain ⟨first, rest⟩ := List.forall_mem_append.mp clean
    exact ⟨Value.clean_of_dumps (List.forall_mem_append.mp first).1, clean_of_dumpsItems rest⟩

theorem clean_of_dumpsEntries : ∀ {entries : Entries}, (dumpsEntries floats false entries).Clean →
    CleanEntries entries
  | [], _ => trivial
  | [_], clean => by
    obtain ⟨key, value⟩ := List.forall_mem_append.mp clean
    exact ⟨clean_of_quote (List.forall_mem_append.mp key).1, Value.clean_of_dumps value, trivial⟩
  | _ :: _ :: _, clean => by
    obtain ⟨first, rest⟩ := List.forall_mem_append.mp clean
    obtain ⟨key, value⟩ := List.forall_mem_append.mp (List.forall_mem_append.mp first).1
    exact ⟨clean_of_quote (List.forall_mem_append.mp key).1, Value.clean_of_dumps value,
      clean_of_dumpsEntries rest⟩

end

mutual

/-- The levels of lists and dictionaries. -/
def Value.nest : Value → Nat
  | .list items => nestItems items + 1
  | .dict entries => nestEntries entries + 1
  | _ => 0

def nestItems : List Value → Nat
  | [] => 0
  | x :: rest => max x.nest (nestItems rest)

def nestEntries : Entries → Nat
  | [] => 0
  | (_, v) :: rest => max v.nest (nestEntries rest)

end

mutual

/-- The keys of a dictionary are distinct, and two halves of a character are one code point. -/
def Value.WellFormed : Value → Prop
  | .str s => s.Apart
  | .list items => WellFormedItems items
  | .dict entries => (entries.map Prod.fst).Nodup ∧ WellFormedEntries entries
  | _ => True

def WellFormedItems : List Value → Prop
  | [] => True
  | x :: rest => x.WellFormed ∧ WellFormedItems rest

def WellFormedEntries : Entries → Prop
  | [] => True
  | (k, v) :: rest => k.Apart ∧ v.WellFormed ∧ WellFormedEntries rest

end

theorem not_half_of_plain {c : Code} (plain : c.surrogate = false) : ¬ c.high ∧ ¬ c.low := by
  rw [Code.surrogate, Bool.or_eq_false_iff] at plain
  exact ⟨fun high => absurd (plain.1.symm.trans high) Bool.false_ne_true,
    fun low => absurd (plain.2.symm.trans low) Bool.false_ne_true⟩

theorem apart_of_clean {s : Str} (clean : s.Clean) : s.Apart := by
  induction s with
  | nil => exact .nil
  | cons c rest ih =>
    obtain ⟨plain, others⟩ := List.forall_mem_cons.mp clean
    cases rest with
    | nil => exact .singleton c
    | cons d rest => exact .cons_cons (fun pair => (not_half_of_plain plain).1 pair.1) (ih others)

theorem Str.Apart.append_clean {s t : Str} (apart : s.Apart) (clean : t.Clean) :
    (s ++ t).Apart := by
  refine apart.append (apart_of_clean clean) fun c _ d first pair => ?_
  exact (not_half_of_plain (clean d (List.mem_of_mem_head? first))).2 pair.2

/-- A text between two strings keeps their ends apart. -/
theorem Str.Apart.join {s t u : Str} (apart : s.Apart) (clean : t.Clean) (nonempty : t ≠ [])
    (apart' : u.Apart) : (s ++ t ++ u).Apart := by
  refine (apart.append_clean clean).append apart' fun c last d _ pair => ?_
  rw [List.getLast?_append_of_ne_nil _ nonempty] at last
  exact (not_half_of_plain (clean c (List.mem_of_getLast? last))).1 pair.1

theorem hex4_ne_empty (n : Nat) (t : String) : hex4 n ++ t ≠ "" := by
  intro same
  have first := congrArg (fun s => s.toList.head?) same
  simp [hex4] at first

theorem short_escape_ne_empty {n : Nat} {t : String} (short : short_escape n = some t) :
    t ≠ "" := by
  unfold short_escape at short
  split at short <;> cases short <;> decide

theorem escaped_ne_empty {ensure_ascii : Bool} {c : Code} {t : String}
    (written : escaped ensure_ascii c = some t) : t ≠ "" := by
  have long (n : Nat) : hex4 n ≠ "" := by
    simpa only [String.append_empty] using hex4_ne_empty n ""
  unfold escaped at written
  split at written
  · rename_i short
    cases written
    exact short_escape_ne_empty short
  · split_ifs at written
    · cases written
      exact long _
    · cases written
      exact long _
    · cases written
      exact hex4_ne_empty _ _

theorem escape_cases (c : Code) :
    escape false c = [c] ∨ (escape false c).Clean ∧ escape false c ≠ [] := by
  unfold escape
  cases written : escaped false c with
  | none => exact .inl rfl
  | some t =>
    refine .inr ⟨clean_of t, fun none => escaped_ne_empty written ?_⟩
    exact Str.of_injective none

theorem low_of_escaped {s : Str} {d : Code} (first : d ∈ (s.flatMap (escape false)).head?)
    (low : d.low) : d ∈ s.head? := by
  cases s with
  | nil => cases first
  | cons c rest =>
    rw [List.flatMap_cons] at first
    rcases escape_cases c with same | ⟨clean, nonempty⟩
    · rwa [same] at first
    · rw [List.head?_append_of_ne_nil _ nonempty] at first
      exact absurd low (not_half_of_plain (clean d (List.mem_of_mem_head? first))).2

theorem apart_escaped {s : Str} (apart : s.Apart) : Str.Apart (s.flatMap (escape false)) := by
  induction s with
  | nil => exact .nil
  | cons c rest ih =>
    have others := ih apart.tail
    rw [List.flatMap_cons]
    rcases escape_cases c with same | ⟨clean, nonempty⟩
    · rw [same]
      refine List.IsChain.append (.singleton c) others fun c' last d first pair => ?_
      cases last
      have first := low_of_escaped first pair.2
      cases rest with
      | nil => cases first
      | cons d' rest =>
        cases first
        exact (List.isChain_cons_cons.mp apart).1 pair
    · exact Str.Apart.join (s := []) .nil clean nonempty others

theorem apart_quote {s : Str} (apart : s.Apart) : (quote false s).Apart :=
  ((Str.Apart.join (s := []) .nil (clean_of "\"") (by decide) (apart_escaped apart))).append_clean
    (clean_of "\"")

mutual

theorem Value.apart_dumps : ∀ {v : Value}, v.WellFormed → (v.dumps floats false).Apart
  | .None, _ | .bool _, _ | .int _, _ | .float _, _ => apart_of_clean (clean_of _)
  | .str _, apart => apart_quote apart
  | .list _, formed =>
    (Str.Apart.join (s := []) .nil (clean_of "[") (by decide)
      (apart_dumpsItems formed)).append_clean (clean_of "]")
  | .dict _, formed =>
    (Str.Apart.join (s := []) .nil (clean_of "\x7b") (by decide)
      (apart_dumpsEntries formed.2)).append_clean (clean_of "\x7d")

theorem apart_dumpsItems : ∀ {items : List Value}, WellFormedItems items →
    (dumpsItems floats false items).Apart
  | [], _ => .nil
  | [_], formed => Value.apart_dumps formed.1
  | _ :: _ :: _, formed =>
    (Value.apart_dumps formed.1).join (clean_of ", ") (by decide) (apart_dumpsItems formed.2)

theorem apart_dumpsEntries : ∀ {entries : Entries}, WellFormedEntries entries →
    (dumpsEntries floats false entries).Apart
  | [], _ => .nil
  | [_], formed =>
    (apart_quote formed.1).join (clean_of ": ") (by decide) (Value.apart_dumps formed.2.1)
  | _ :: _ :: _, formed =>
    ((apart_quote formed.1).join (clean_of ": ") (by decide) (Value.apart_dumps formed.2.1)).join
      (clean_of ", ") (by decide) (apart_dumpsEntries formed.2.2)

end

/-- Well-formed, with at most `n` levels. -/
def Value.Fits (n : Nat) (v : Value) : Prop := v.WellFormed ∧ v.nest ≤ n

theorem Value.Fits.mono {v : Value} {m n : Nat} (fits : v.Fits m) (le : m ≤ n) : v.Fits n :=
  ⟨fits.1, Nat.le_trans fits.2 le⟩

theorem fits_list {items : List Value} {n : Nat} (each : ∀ v ∈ items, v.Fits n) :
    (Value.list items).Fits (n + 1) := by
  have all : WellFormedItems items ∧ nestItems items ≤ n := by
    induction items with
    | nil => exact ⟨trivial, Nat.zero_le n⟩
    | cons v rest ih =>
      obtain ⟨here, others⟩ := List.forall_mem_cons.mp each
      exact ⟨⟨here.1, (ih others).1⟩, Nat.max_le.mpr ⟨here.2, (ih others).2⟩⟩
  exact ⟨all.1, Nat.succ_le_succ all.2⟩

theorem fits_dict {entries : Entries} {n : Nat} (distinct : (entries.map Prod.fst).Nodup)
    (each : ∀ entry ∈ entries, entry.1.Apart ∧ entry.2.Fits n) :
    (Value.dict entries).Fits (n + 1) := by
  have all : WellFormedEntries entries ∧ nestEntries entries ≤ n := by
    clear distinct
    induction entries with
    | nil => exact ⟨trivial, Nat.zero_le n⟩
    | cons entry rest ih =>
      obtain ⟨⟨apart, here⟩, others⟩ := List.forall_mem_cons.mp each
      exact ⟨⟨apart, here.1, (ih others).1⟩, Nat.max_le.mpr ⟨here.2, (ih others).2⟩⟩
  exact ⟨⟨distinct, all.1⟩, Nat.succ_le_succ all.2⟩

theorem fits_members {members : List (String × Value)} {n : Nat}
    (distinct : (members.map Prod.fst).Nodup) (each : ∀ entry ∈ members, entry.2.Fits n) :
    (of_members members).Fits (n + 1) := by
  apply fits_dict
  · have keys : (members.map fun entry => (Str.of entry.1, entry.2)).map Prod.fst =
        (members.map Prod.fst).map Str.of := by
      rw [List.map_map, List.map_map]
      rfl
    rw [keys]
    exact distinct.map Str.of_injective
  · intro entry member
    obtain ⟨own, there, rfl⟩ := List.mem_map.mp member
    exact ⟨apart_of_clean (clean_of own.1), each own there⟩

theorem wellFormed_of_mem_items {items : List Value} (formed : WellFormedItems items) :
    ∀ v ∈ items, v.WellFormed := by
  induction items with
  | nil => exact fun v absent => by cases absent
  | cons v rest ih => exact List.forall_mem_cons.mpr ⟨formed.1, ih formed.2⟩

theorem wellFormed_of_mem_entries {entries : Entries} (formed : WellFormedEntries entries) :
    ∀ entry ∈ entries, entry.1.Apart ∧ entry.2.WellFormed := by
  induction entries with
  | nil => exact fun entry absent => by cases absent
  | cons entry rest ih =>
    exact List.forall_mem_cons.mpr ⟨⟨formed.1, formed.2.1⟩, ih formed.2.2⟩

/-- What `get` finds is in the dictionary. -/
theorem mem_of_get {entries : Entries} {key : String} {v : Value} (found : get entries key = some v) :
    ∃ entry ∈ entries, entry.2 = v := by
  obtain ⟨entry, there, same⟩ := Option.map_eq_some_iff.mp found
  exact ⟨entry, List.mem_of_find?_eq_some there, same⟩

mutual

/-- The value as JSON: its integers are unbounded, and it has no text for a `str` with
surrogates. -/
def Value.json : Value → Option Json.Value
  | .None => some .null
  | .bool b => some (.bool b)
  | .int n => some (.number (.int n))
  | .float (.finite text) => some (.number (.float text))
  | .float _ => none
  | .str s => s.decode.map .string
  | .list items => (jsonItems items).map .array
  | .dict entries => (jsonEntries entries).map .object

def jsonItems : List Value → Option (List Json.Value)
  | [] => some []
  | x :: rest => do return (← x.json) :: (← jsonItems rest)

def jsonEntries : Entries → Option Fields
  | [] => some []
  | (k, v) :: rest => do return (← k.decode, ← v.json) :: (← jsonEntries rest)

end

mutual

/-- Both languages have every leaf of the value: no string and no key has surrogates, the
integers have 64 bits, and the floats are finite and read back as they were. -/
def Value.Portable : Value → Prop
  | .int n => Kept n
  | .float (.finite text) => floats.read (floats.repr text) = some text
  | .float _ => False
  | .str s => s.Clean
  | .list items => PortableItems items
  | .dict entries => PortableEntries entries
  | _ => True

def PortableItems : List Value → Prop
  | [] => True
  | x :: rest => x.Portable ∧ PortableItems rest

def PortableEntries : Entries → Prop
  | [] => True
  | (k, v) :: rest => k.Clean ∧ v.Portable ∧ PortableEntries rest

end

/-! ## What is read back -/

variable {floats}

mutual

theorem Value.read_of_portable : ∀ {v : Value}, v.Portable floats →
    ∃ json, v.read floats = some json ∧ v.json = some json
  | .None, _ => ⟨.null, rfl, rfl⟩
  | .bool b, _ => ⟨.bool b, rfl, rfl⟩
  | .int n, kept => ⟨.number (.int n), if_pos kept, rfl⟩
  | .float (.finite text), same => by
    refine ⟨.number (.float text), ?_, rfl⟩
    rw [Value.read, Float.read, same]
    rfl
  | .str s, clean => by
    obtain ⟨t, decoded⟩ := Option.isSome_iff_exists.mp (decode_isSome.mpr clean)
    refine ⟨.string t, ?_, ?_⟩
    · rw [Value.read, decoded]
      rfl
    · rw [Value.json, decoded]
      rfl
  | .list items, portable => by
    obtain ⟨json, read, same⟩ := readItems_of_portable portable
    refine ⟨.array json, ?_, ?_⟩
    · rw [Value.read, read]
      rfl
    · rw [Value.json, same]
      rfl
  | .dict entries, portable => by
    obtain ⟨json, read, same⟩ := readEntries_of_portable portable
    refine ⟨.object json, ?_, ?_⟩
    · rw [Value.read, read]
      rfl
    · rw [Value.json, same]
      rfl

theorem readItems_of_portable : ∀ {items : List Value}, PortableItems floats items →
    ∃ json, readItems floats items = some json ∧ jsonItems items = some json
  | [], _ => ⟨[], rfl, rfl⟩
  | _ :: _, portable => by
    obtain ⟨json, read, same⟩ := Value.read_of_portable portable.1
    obtain ⟨others, read_rest, same_rest⟩ := readItems_of_portable portable.2
    refine ⟨json :: others, ?_, ?_⟩
    · rw [readItems, read, read_rest]
      rfl
    · rw [jsonItems, same, same_rest]
      rfl

theorem readEntries_of_portable : ∀ {entries : Entries}, PortableEntries floats entries →
    ∃ json, readEntries floats entries = some json ∧ jsonEntries entries = some json
  | [], _ => ⟨[], rfl, rfl⟩
  | _ :: _, portable => by
    obtain ⟨key, decoded⟩ := Option.isSome_iff_exists.mp (decode_isSome.mpr portable.1)
    obtain ⟨json, read, same⟩ := Value.read_of_portable portable.2.1
    obtain ⟨others, read_rest, same_rest⟩ := readEntries_of_portable portable.2.2
    refine ⟨(key, json) :: others, ?_, ?_⟩
    · rw [readEntries, decoded, read, read_rest]
      rfl
    · rw [jsonEntries, decoded, same, same_rest]
      rfl

end

mutual

theorem Value.clean_of_json : ∀ {v : Value} {json : Json.Value}, v.json = some json → v.Clean
  | .None, _, _ | .bool _, _, _ | .int _, _, _ | .float _, _, _ => trivial
  | .str s, _, same => by
    obtain ⟨t, decoded, -⟩ := Option.map_eq_some_iff.mp same
    exact decode_isSome.mp (Option.isSome_of_eq_some decoded)
  | .list _, _, same => by
    obtain ⟨_, same_items, -⟩ := Option.map_eq_some_iff.mp same
    exact clean_of_jsonItems same_items
  | .dict _, _, same => by
    obtain ⟨_, same_entries, -⟩ := Option.map_eq_some_iff.mp same
    exact clean_of_jsonEntries same_entries

theorem clean_of_jsonItems : ∀ {items : List Value} {json : List Json.Value},
    jsonItems items = some json → CleanItems items
  | [], _, _ => trivial
  | _ :: _, _, same => by
    simp only [jsonItems, Option.bind_eq_bind, Option.bind_eq_some_iff, Option.pure_def,
      Option.some.injEq] at same
    obtain ⟨_, here, _, there, -⟩ := same
    exact ⟨Value.clean_of_json here, clean_of_jsonItems there⟩

theorem clean_of_jsonEntries : ∀ {entries : Entries} {json : Fields},
    jsonEntries entries = some json → CleanEntries entries
  | [], _, _ => trivial
  | _ :: _, _, same => by
    simp only [jsonEntries, Option.bind_eq_bind, Option.bind_eq_some_iff, Option.pure_def,
      Option.some.injEq] at same
    obtain ⟨_, decoded, _, here, _, there, -⟩ := same
    exact ⟨decode_isSome.mp (Option.isSome_of_eq_some decoded), Value.clean_of_json here,
      clean_of_jsonEntries there⟩

end

theorem keys_of_readEntries {entries : Entries} {fields : Fields}
    (read : readEntries floats entries = some fields) :
    (fields.map Prod.fst).map Str.of = entries.map Prod.fst := by
  induction entries generalizing fields with
  | nil =>
    cases read
    rfl
  | cons entry rest ih =>
    simp only [readEntries, Option.bind_eq_bind, Option.bind_eq_some_iff, Option.pure_def,
      Option.some.injEq] at read
    obtain ⟨key, decoded, value, -, others, later, rfl⟩ := read
    rw [List.map_cons, List.map_cons, List.map_cons, ih later, ← decode_eq_some.mp decoded]

theorem keys_of_jsonEntries {entries : Entries} {fields : Fields}
    (read : jsonEntries entries = some fields) :
    (fields.map Prod.fst).map Str.of = entries.map Prod.fst := by
  induction entries generalizing fields with
  | nil =>
    cases read
    rfl
  | cons entry rest ih =>
    simp only [jsonEntries, Option.bind_eq_bind, Option.bind_eq_some_iff, Option.pure_def,
      Option.some.injEq] at read
    obtain ⟨key, decoded, value, -, others, later, rfl⟩ := read
    rw [List.map_cons, List.map_cons, List.map_cons, ih later, ← decode_eq_some.mp decoded]

mutual

/-- Only a portable value is read as the map it is. -/
theorem Value.portable_of_read : ∀ {v : Value} {x y : Json.Value}, v.WellFormed →
    v.read floats = some x → v.json = some y → x.collect = y.collect → v.Portable floats
  | .None, _, _, _, _, _, _ | .bool _, _, _, _, _, _, _ => trivial
  | .int n, x, y, _, read, json, same => by
    cases json
    rw [Value.read] at read
    split at read
    · rename_i kept
      exact kept
    · obtain ⟨text, -, rfl⟩ := Option.map_eq_some_iff.mp read
      cases same
  | .float (.finite text), x, y, _, read, json, same => by
    cases json
    obtain ⟨text', back, rfl⟩ := Option.map_eq_some_iff.mp read
    cases same
    exact back
  | .float .nan, _, _, _, _, json, _ | .float (.inf _), _, _, _, _, json, _ => by cases json
  | .str s, _, _, _, read, _, _ => by
    obtain ⟨t, decoded, -⟩ := Option.map_eq_some_iff.mp read
    rw [decode_eq_some.mp decoded]
    exact clean_of t
  | .list items, x, y, formed, read, json, same => by
    obtain ⟨xs, read_items, rfl⟩ := Option.map_eq_some_iff.mp read
    obtain ⟨ys, json_items, rfl⟩ := Option.map_eq_some_iff.mp json
    rw [Json.Value.collect, Json.Value.collect, Json.collectItems_eq, Json.collectItems_eq] at same
    exact portable_of_readItems formed read_items json_items (Json.Value.array.inj same)
  | .dict entries, x, y, formed, read, json, same => by
    obtain ⟨xs, read_entries, rfl⟩ := Option.map_eq_some_iff.mp read
    obtain ⟨ys, json_entries, rfl⟩ := Option.map_eq_some_iff.mp json
    have distinct := formed.1
    rw [← keys_of_readEntries read_entries] at distinct
    have keys : xs.map Prod.fst = ys.map Prod.fst := by
      apply List.map_injective_iff.mpr Str.of_injective
      rw [keys_of_readEntries read_entries, keys_of_jsonEntries json_entries]
    rw [Json.Value.collect, Json.Value.collect] at same
    exact portable_of_readEntries formed.2 read_entries json_entries
      (Json.collect_members_eq keys distinct.of_map (Json.Value.object.inj same))

theorem portable_of_readItems : ∀ {items : List Value} {xs ys : List Json.Value},
    WellFormedItems items → readItems floats items = some xs → jsonItems items = some ys →
    xs.map Json.Value.collect = ys.map Json.Value.collect → PortableItems floats items
  | [], _, _, _, _, _, _ => trivial
  | v :: rest, xs, ys, formed, read, json, same => by
    simp only [readItems, jsonItems, Option.bind_eq_bind, Option.bind_eq_some_iff, Option.pure_def,
      Option.some.injEq] at read json
    obtain ⟨x, read, xs, read_rest, rfl⟩ := read
    obtain ⟨y, json, ys, json_rest, rfl⟩ := json
    obtain ⟨here, others⟩ := List.cons.inj same
    exact ⟨Value.portable_of_read formed.1 read json here,
      portable_of_readItems formed.2 read_rest json_rest others⟩

theorem portable_of_readEntries : ∀ {entries : Entries} {xs ys : Fields},
    WellFormedEntries entries → readEntries floats entries = some xs →
    jsonEntries entries = some ys →
    (xs.map fun entry => entry.2.collect) = (ys.map fun entry => entry.2.collect) →
    PortableEntries floats entries
  | [], _, _, _, _, _, _ => trivial
  | (k, v) :: rest, xs, ys, formed, read, json, same => by
    simp only [readEntries, jsonEntries, Option.bind_eq_bind, Option.bind_eq_some_iff,
      Option.pure_def, Option.some.injEq] at read json
    obtain ⟨key, decoded, x, read, xs, read_rest, rfl⟩ := read
    obtain ⟨_, _, y, json, ys, json_rest, rfl⟩ := json
    obtain ⟨here, others⟩ := List.cons.inj same
    refine ⟨?_, Value.portable_of_read formed.2.1 read json here,
      portable_of_readEntries formed.2.2 read_rest json_rest others⟩
    rw [decode_eq_some.mp decoded]
    exact clean_of key

end

/-- **A value is read back as it was exactly if both languages have its leaves.** -/
theorem collect_eq_iff {v : Value} {json : Json.Value} (formed : v.WellFormed)
    (same : v.json = some json) :
    (v.read floats).map Json.Value.collect = some json.collect ↔ v.Portable floats := by
  constructor
  · intro read
    obtain ⟨x, read, collected⟩ := Option.map_eq_some_iff.mp read
    exact Value.portable_of_read formed read same collected
  · intro portable
    obtain ⟨json', read, same'⟩ := Value.read_of_portable portable
    rw [read, Option.map_some, Option.some.inj (same'.symm.trans same)]

end Python
