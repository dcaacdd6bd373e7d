import Mathlib.Algebra.Group.Int.Defs
import Mathlib.Algebra.GroupWithZero.Nat
import Mathlib.Data.List.Basic

/-!
# JSON values

The values `serde_json` works on: objects are association lists, integers are
unbounded, and a float is kept as the text it is printed as.  `Value.text` is
the compact printer; `Json.insert` keeps an object sorted by key, which is the
order of the `BTreeMap` behind an object.
-/

namespace Json

inductive Number
  | int (n : Int)
  | float (text : String)
  deriving DecidableEq, Repr

inductive Value
  | null
  | bool (b : Bool)
  | number (n : Number)
  | string (s : String)
  | array (items : List Value)
  | object (fields : List (String × Value))
  deriving Repr, Inhabited

abbrev Fields := List (String × Value)

/-! ## Decidable equality -/

mutual

def Value.decEq : (a b : Value) → Decidable (a = b)
  | .null, .null => isTrue rfl
  | .bool a, .bool b => decidable_of_iff (a = b) (by simp)
  | .number a, .number b => decidable_of_iff (a = b) (by simp)
  | .string a, .string b => decidable_of_iff (a = b) (by simp)
  | .array a, .array b =>
      match decEqItems a b with
      | isTrue h => isTrue (by rw [h])
      | isFalse h => isFalse (by simpa using h)
  | .object a, .object b =>
      match decEqFields a b with
      | isTrue h => isTrue (by rw [h])
      | isFalse h => isFalse (by simpa using h)
  | .null, .bool _ | .null, .number _ | .null, .string _ | .null, .array _ | .null, .object _
  | .bool _, .null | .bool _, .number _ | .bool _, .string _ | .bool _, .array _
  | .bool _, .object _
  | .number _, .null | .number _, .bool _ | .number _, .string _ | .number _, .array _
  | .number _, .object _
  | .string _, .null | .string _, .bool _ | .string _, .number _ | .string _, .array _
  | .string _, .object _
  | .array _, .null | .array _, .bool _ | .array _, .number _ | .array _, .string _
  | .array _, .object _
  | .object _, .null | .object _, .bool _ | .object _, .number _ | .object _, .string _
  | .object _, .array _ => isFalse (by simp)

def decEqItems : (a b : List Value) → Decidable (a = b)
  | [], [] => isTrue rfl
  | [], _ :: _ => isFalse (by simp)
  | _ :: _, [] => isFalse (by simp)
  | x :: xs, y :: ys =>
      match x.decEq y, decEqItems xs ys with
      | isTrue h, isTrue t => isTrue (by rw [h, t])
      | isFalse h, _ => isFalse fun e => h (List.cons.inj e).1
      | _, isFalse t => isFalse fun e => t (List.cons.inj e).2

def decEqFields : (a b : Fields) → Decidable (a = b)
  | [], [] => isTrue rfl
  | [], _ :: _ => isFalse (by simp)
  | _ :: _, [] => isFalse (by simp)
  | (k, x) :: xs, (l, y) :: ys =>
      match decEq k l, x.decEq y, decEqFields xs ys with
      | isTrue n, isTrue h, isTrue t => isTrue (by rw [n, h, t])
      | isFalse n, _, _ => isFalse fun e => n (Prod.mk.inj (List.cons.inj e).1).1
      | _, isFalse h, _ => isFalse fun e => h (Prod.mk.inj (List.cons.inj e).1).2
      | _, _, isFalse t => isFalse fun e => t (List.cons.inj e).2

end

instance : DecidableEq Value := Value.decEq

/-! ## Objects -/

/-- The value a key is bound to. -/
def field (fields : Fields) (key : String) : Option Value :=
  (fields.find? fun entry => entry.1 == key).map Prod.snd

def contains_key (fields : Fields) (key : String) : Bool :=
  fields.any fun entry => entry.1 == key

/-- Bind a key, replacing what it was bound to and keeping the keys sorted. -/
def insert (key : String) (value : Value) : Fields → Fields
  | [] => [(key, value)]
  | (k, v) :: rest =>
      if key < k then (key, value) :: (k, v) :: rest
      else if key = k then (key, value) :: rest
      else (k, v) :: insert key value rest

/-- The object without a key, and what the key was bound to. -/
def remove (fields : Fields) (key : String) : Option Value × Fields :=
  (field fields key, fields.filter fun entry => entry.1 != key)

theorem field_cons (key k : String) (value : Value) (fields : Fields) :
    field ((k, value) :: fields) key = if k = key then some value else field fields key := by
  rw [field, List.find?_cons]
  by_cases same : k = key
  · rw [if_pos same, same, beq_self_eq_true]
    rfl
  · rw [if_neg same, beq_false_of_ne same]
    rfl

theorem field_append (fields rest : Fields) (key : String) :
    field (fields ++ rest) key = (field fields key).or (field rest key) := by
  induction fields with
  | nil => rfl
  | cons entry fields ih =>
    rw [List.cons_append, field_cons, field_cons, ih]
    split <;> rfl

/-- Binding a key changes what is found under it, and nothing else. -/
theorem field_insert (key k : String) (value : Value) (fields : Fields) :
    field (insert k value fields) key = if k = key then some value else field fields key := by
  induction fields with
  | nil => rw [insert, field_cons]
  | cons entry rest ih =>
    obtain ⟨k', value'⟩ := entry
    rw [insert]
    split
    · rw [field_cons]
    · split
      · rename_i same
        subst same
        rw [field_cons, field_cons]
        split <;> rfl
      · rename_i differ
        rw [field_cons, field_cons, ih]
        by_cases here : k' = key
        · rw [if_pos here, if_neg fun same => differ (same.trans here.symm)]
          exact (if_pos here).symm
        · rw [if_neg here, if_neg here]

theorem contains_key_eq_isSome (fields : Fields) (key : String) :
    contains_key fields key = (field fields key).isSome := by
  induction fields with
  | nil => rfl
  | cons entry rest ih =>
    obtain ⟨k, value⟩ := entry
    rw [field_cons, contains_key, List.any_cons, ← contains_key, ih]
    by_cases same : k = key
    · rw [if_pos same, same, beq_self_eq_true, Bool.true_or, Option.isSome_some]
    · rw [if_neg same, beq_false_of_ne same, Bool.false_or]

def Value.as_object : Value → Option Fields
  | .object fields => some fields
  | _ => none

def Value.as_str : Value → Option String
  | .string s => some s
  | _ => none

/-! ## The compact printer -/

/-- The escape `serde_json` writes for one character of a string. -/
def escapeChar (c : Char) : String :=
  if c = '"' then "\\\""
  else if c = '\\' then "\\\\"
  else if c = '\x08' then "\\b"
  else if c = '\x0c' then "\\f"
  else if c = '\n' then "\\n"
  else if c = '\r' then "\\r"
  else if c = '\t' then "\\t"
  else if c.toNat < 16 then "\\u000" ++ String.singleton (Nat.digitChar c.toNat)
  else if c.toNat < 32 then "\\u001" ++ String.singleton (Nat.digitChar (c.toNat - 16))
  else String.singleton c

def quote (s : String) : String :=
  "\"" ++ String.join (s.toList.map escapeChar) ++ "\""

def Number.text : Number → String
  | .int n => toString n
  | .float text => text

mutual

/-- `serde_json::to_string`. -/
def Value.text : Value → String
  | .null => "null"
  | .bool b => if b then "true" else "false"
  | .number n => n.text
  | .string s => quote s
  | .array items => "[" ++ itemsText items ++ "]"
  | .object fields => "\x7b" ++ fieldsText fields ++ "\x7d"

def itemsText : List Value → String
  | [] => ""
  | [x] => x.text
  | x :: y :: rest => x.text ++ "," ++ itemsText (y :: rest)

def fieldsText : Fields → String
  | [] => ""
  | [(k, v)] => quote k ++ ":" ++ v.text
  | (k, v) :: entry :: rest => quote k ++ ":" ++ v.text ++ "," ++ fieldsText (entry :: rest)

end

/-- `serde_json::to_vec`. -/
def Value.to_vec (v : Value) : List UInt8 := v.text.toByteArray.toList

example : (Value.object [("a", .array [.number (.int 1), .string "b\n"])]).text =
    "\x7b\"a\":[1,\"b\\n\"]\x7d" := by decide

end Json
