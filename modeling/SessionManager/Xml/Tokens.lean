import SessionManager.Json.Python
import Mathlib.Data.List.Basic
import Mathlib.Data.List.TakeWhile

/-!
# Tokens of XML

A text of XML is a sequence of tags, comments, instructions, sections and runs of characters.  Where
a token ends does not depend on what follows it, so that a sequence of tokens can be changed in the
middle: the tokens of a text are those sequences that spell it in which every token is whole and no
two runs of characters meet (`tokens_iff`).
-/

namespace SessionManager.Xml

open Python (Str Code)

def lt : Code := Code.of '<'
def gt : Code := Code.of '>'
def slash : Code := Code.of '/'
def bang : Code := Code.of '!'
def question : Code := Code.of '?'

/-- The characters XML has for white space. -/
def space (c : Code) : Bool := c.val == 0x20 || c.val == 0x9 || c.val == 0xA || c.val == 0xD

def quoting (c : Code) : Bool := c.val == 0x22 || c.val == 0x27

/-- The name of a tag ends before any other character. -/
def name_char (c : Code) : Bool :=
  !(space c || quoting c || c == lt || c == gt || c == slash || c == bang || c == question ||
    c.val == 0x3D || c.val == 0x7D)

/-- The second string of a tag is what stands between its name and its end. -/
inductive Token
  | start (name raw : Str)
  | empty (name raw : Str)
  | close (name raw : Str)
  | text (raw : Str)
  | cdata (raw : Str)
  | comment (raw : Str)
  | instruction (raw : Str)
  deriving DecidableEq

/-- The text of a token. -/
def Token.source : Token → Str
  | .start name raw => lt :: (name ++ (raw ++ [gt]))
  | .empty name raw => lt :: (name ++ (raw ++ [slash, gt]))
  | .close name raw => lt :: slash :: (name ++ (raw ++ [gt]))
  | .text raw => raw
  | .cdata raw => lt :: bang :: (Str.of "[CDATA[" ++ (raw ++ Str.of "]]>"))
  | .comment raw => lt :: bang :: (Str.of "--" ++ (raw ++ Str.of "-->"))
  | .instruction raw => lt :: question :: (raw ++ Str.of "?>")

def source (ts : List Token) : Str := ts.flatMap Token.source

def Token.is_text : Token → Bool
  | .text _ => true
  | _ => false

/-- Whether an element begins or ends with the token. -/
def Token.tags : Token → Bool
  | .start _ _ => true
  | .empty _ _ => true
  | .close _ _ => true
  | _ => false

/-- The name of the element that the token begins. -/
def Token.opens : Token → Option Str
  | .start name _ => some name
  | .empty name _ => some name
  | _ => none

/-! ## Reading tokens -/

/-- What stands before the first occurrence of `stop`, and what follows it. -/
def cut (stop : Str) : Str → Option (Str × Str)
  | [] => none
  | c :: s =>
    if stop.isPrefixOf (c :: s) then some ([], (c :: s).drop stop.length)
    else (cut stop s).map fun found => (c :: found.1, found.2)

/-- The inside of a tag, up to the first `>` outside of quotes, and what follows it. -/
def tag_body : Option Code → Str → Option (Str × Str)
  | _, [] => none
  | none, c :: s =>
    if c = gt then some ([], s)
    else (tag_body (if quoting c then some c else none) s).map fun found => (c :: found.1, found.2)
  | some q, c :: s =>
    (tag_body (if c = q then none else some q) s).map fun found => (c :: found.1, found.2)

def tag_of (body : Str) : Option Token :=
  if body.takeWhile name_char = [] then none
  else if (body.dropWhile name_char).getLast? = some slash then
    some (.empty (body.takeWhile name_char) (body.dropWhile name_char).dropLast)
  else some (.start (body.takeWhile name_char) (body.dropWhile name_char))

def close_of (body : Str) : Option Token :=
  if body.takeWhile name_char = [] then none
  else some (.close (body.takeWhile name_char) (body.dropWhile name_char))

/-- The token that begins with `<` before this text. -/
def markup : Str → Option (Token × Str)
  | [] => none
  | c :: s =>
    if c = bang then
      if (Str.of "--").isPrefixOf s then
        (cut (Str.of "-->") (s.drop 2)).map fun found => (.comment found.1, found.2)
      else if (Str.of "[CDATA[").isPrefixOf s then
        (cut (Str.of "]]>") (s.drop 7)).map fun found => (.cdata found.1, found.2)
      else none
    else if c = question then
      (cut (Str.of "?>") s).map fun found => (.instruction found.1, found.2)
    else if c = slash then
      (cut [gt] s).bind fun found => (close_of found.1).map fun tok => (tok, found.2)
    else (tag_body none (c :: s)).bind fun found => (tag_of found.1).map fun tok => (tok, found.2)

/-- The first token of a text, and what follows it. -/
def next : Str → Option (Token × Str)
  | [] => none
  | c :: s =>
    if c = lt then markup s
    else some (.text ((c :: s).takeWhile (· ≠ lt)), (c :: s).dropWhile (· ≠ lt))

/-- The tokens of a text, no more than the first number. -/
def lex : Nat → Str → Option (List Token)
  | _, [] => some []
  | 0, _ :: _ => none
  | fuel + 1, c :: s =>
    (next (c :: s)).bind fun found => (lex fuel found.2).map fun ts => found.1 :: ts

def tokens (s : Str) : Option (List Token) := lex s.length s

/-! ## Tokens end where they end -/

theorem cut_ends {stop s u r : Str} (some_stop : stop ≠ []) (found : cut stop s = some (u, r)) :
    s = u ++ (stop ++ r) ∧ ∀ r', cut stop (u ++ (stop ++ r')) = some (u, r') := by
  induction s generalizing u with
  | nil => cases found
  | cons c s ih =>
    rw [cut] at found
    split at found
    · rename_i here
      rw [List.isPrefixOf_iff_prefix] at here
      obtain ⟨rest, split⟩ := here
      rw [← split, List.drop_left] at found
      cases found
      refine ⟨split.symm, fun r' => ?_⟩
      obtain ⟨d, more, rfl⟩ := List.exists_cons_of_ne_nil some_stop
      have here : (d :: more).isPrefixOf (d :: (more ++ r')) = true :=
        List.isPrefixOf_iff_prefix.mpr ⟨r', rfl⟩
      rw [List.nil_append, List.cons_append, cut, if_pos here, ← List.cons_append, List.drop_left]
    · rename_i later
      obtain ⟨⟨u', r'⟩, there, same⟩ := Option.map_eq_some_iff.mp found
      cases same
      obtain ⟨split, ends⟩ := ih there
      refine ⟨by rw [split, List.cons_append], fun r'' => ?_⟩
      have later' : ¬ stop.isPrefixOf (c :: (u' ++ (stop ++ r''))) = true := by
        intro here
        rw [List.isPrefixOf_iff_prefix, ← List.append_assoc, ← List.cons_append] at here
        have short : stop <+: c :: (u' ++ stop) :=
          List.prefix_of_prefix_length_le here (List.prefix_append _ _) (by simp; omega)
        apply later
        rw [List.isPrefixOf_iff_prefix, split, ← List.append_assoc, ← List.cons_append]
        exact short.trans (List.prefix_append _ _)
      rw [List.cons_append, cut, if_neg later', ends]
      rfl

theorem tag_body_ends {q : Option Code} {s u r : Str} (found : tag_body q s = some (u, r)) :
    s = u ++ gt :: r ∧ ∀ r', tag_body q (u ++ gt :: r') = some (u, r') := by
  induction s generalizing q u with
  | nil =>
    rw [tag_body] at found
    cases found
  | cons c s ih =>
    cases q with
    | none =>
      rw [tag_body] at found
      split at found
      · rename_i ends
        cases found
        refine ⟨by rw [ends, List.nil_append], fun r' => ?_⟩
        rw [List.nil_append, tag_body, if_pos rfl]
      · rename_i goes
        obtain ⟨⟨u', r'⟩, there, same⟩ := Option.map_eq_some_iff.mp found
        cases same
        obtain ⟨split, ends⟩ := ih there
        refine ⟨by rw [split, List.cons_append], fun r'' => ?_⟩
        rw [List.cons_append, tag_body, if_neg goes, ends]
        rfl
    | some q =>
      rw [tag_body] at found
      obtain ⟨⟨u', r'⟩, there, same⟩ := Option.map_eq_some_iff.mp found
      cases same
      obtain ⟨split, ends⟩ := ih there
      refine ⟨by rw [split, List.cons_append], fun r'' => ?_⟩
      rw [List.cons_append, tag_body, ends]
      rfl

/-- A run of characters is not empty, and any other token is read as itself whatever follows it. -/
def Token.Whole : Token → Prop
  | .text raw => raw ≠ [] ∧ ∀ c ∈ raw, c ≠ lt
  | tok => ∀ rest, next (tok.source ++ rest) = some (tok, rest)

theorem next_of_lt (s : Str) : next (lt :: s) = markup s := by
  rw [next, if_pos rfl]

theorem tag_of_spells {body : Str} {tok : Token} (read : tag_of body = some tok) :
    tok.is_text = false ∧ tok.source = lt :: (body ++ [gt]) := by
  have split := List.takeWhile_append_dropWhile (p := name_char) (l := body)
  unfold tag_of at read
  split at read
  · cases read
  · split at read
    · rename_i ends
      cases read
      obtain ⟨raw, same⟩ := List.getLast?_eq_some_iff.mp ends
      refine ⟨rfl, ?_⟩
      rw [same] at split
      rw [Token.source, same, List.dropLast_concat]
      conv_rhs => rw [← split]
      simp
    · cases read
      refine ⟨rfl, ?_⟩
      rw [Token.source, ← List.append_assoc, split]

theorem close_of_spells {body : Str} {tok : Token} (read : close_of body = some tok) :
    tok.is_text = false ∧ tok.source = lt :: slash :: (body ++ [gt]) := by
  have split := List.takeWhile_append_dropWhile (p := name_char) (l := body)
  unfold close_of at read
  split at read
  · cases read
  · cases read
    refine ⟨rfl, ?_⟩
    rw [Token.source, ← List.append_assoc, split]

/-- What stands between a start and an end. -/
theorem delimited_ends {start stop s raw rest : Str} {n : Nat} (some_stop : stop ≠ [])
    (long : start.length = n) (starts : start.isPrefixOf s = true)
    (found : cut stop (s.drop n) = some (raw, rest)) :
    s = start ++ (raw ++ stop) ++ rest ∧ ∀ rest',
      start.isPrefixOf (start ++ (raw ++ stop) ++ rest') = true ∧
        cut stop ((start ++ (raw ++ stop) ++ rest').drop n) = some (raw, rest') := by
  subst long
  obtain ⟨more, rfl⟩ := List.isPrefixOf_iff_prefix.mp starts
  rw [List.drop_left] at found
  obtain ⟨rfl, again⟩ := cut_ends some_stop found
  constructor
  · simp
  · intro rest'
    have parts : start ++ (raw ++ stop) ++ rest' = start ++ (raw ++ (stop ++ rest')) := by simp
    rw [parts, List.drop_left]
    exact ⟨List.isPrefixOf_iff_prefix.mpr (List.prefix_append _ _), again rest'⟩

/-- A token after `<` spells what was read, and is read again before anything else. -/
theorem markup_ends {s rest : Str} {tok : Token} (read : markup s = some (tok, rest)) :
    tok.is_text = false ∧ ∃ inner, tok.source = lt :: inner ∧ s = inner ++ rest ∧
      ∀ rest', markup (inner ++ rest') = some (tok, rest') := by
  cases s with
  | nil => cases read
  | cons c s =>
    rw [markup] at read
    split at read
    · rename_i here
      subst here
      split at read
      · rename_i dashes
        obtain ⟨⟨raw, rest⟩, found, same⟩ := Option.map_eq_some_iff.mp read
        cases same
        have two : (Str.of "--").length = 2 := rfl
        obtain ⟨rfl, again⟩ := delimited_ends (by decide) two dashes found
        refine ⟨rfl, bang :: (Str.of "--" ++ (raw ++ Str.of "-->")), rfl, rfl, fun rest' => ?_⟩
        obtain ⟨dashes', found'⟩ := again rest'
        rw [List.cons_append, markup, if_pos rfl, if_pos dashes', found']
        rfl
      · split at read
        · rename_i no_dashes section_start
          obtain ⟨⟨raw, rest⟩, found, same⟩ := Option.map_eq_some_iff.mp read
          cases same
          have seven : (Str.of "[CDATA[").length = 7 := rfl
          obtain ⟨rfl, again⟩ := delimited_ends (by decide) seven section_start found
          refine ⟨rfl, bang :: (Str.of "[CDATA[" ++ (raw ++ Str.of "]]>")), rfl, rfl,
            fun rest' => ?_⟩
          obtain ⟨section_start', found'⟩ := again rest'
          have no_dashes' : ¬ (Str.of "--").isPrefixOf
              (Str.of "[CDATA[" ++ (raw ++ Str.of "]]>") ++ rest') = true := Bool.false_ne_true
          rw [List.cons_append, markup, if_pos rfl, if_neg no_dashes', if_pos section_start',
            found']
          rfl
        · cases read
    · rename_i no_bang
      split at read
      · rename_i here
        subst here
        obtain ⟨⟨raw, rest⟩, found, same⟩ := Option.map_eq_some_iff.mp read
        cases same
        obtain ⟨rfl, again⟩ := cut_ends (by decide) found
        refine ⟨rfl, question :: (raw ++ Str.of "?>"), rfl, by simp, fun rest' => ?_⟩
        rw [List.cons_append, markup, if_neg no_bang, if_pos rfl, List.append_assoc, again]
        rfl
      · rename_i no_question
        split at read
        · rename_i here
          subst here
          obtain ⟨⟨body, rest⟩, found, close⟩ := Option.bind_eq_some_iff.mp read
          obtain ⟨tok, closes, same⟩ := Option.map_eq_some_iff.mp close
          cases same
          obtain ⟨markup_token, spells⟩ := close_of_spells closes
          obtain ⟨rfl, again⟩ := cut_ends (by decide) found
          refine ⟨markup_token, slash :: (body ++ [gt]), spells, by simp, fun rest' => ?_⟩
          rw [List.cons_append, markup, if_neg no_bang, if_neg no_question, if_pos rfl,
            List.append_assoc, again]
          simp [closes]
        · rename_i no_slash
          obtain ⟨⟨body, rest⟩, found, tag⟩ := Option.bind_eq_some_iff.mp read
          obtain ⟨tok, tags, same⟩ := Option.map_eq_some_iff.mp tag
          cases same
          obtain ⟨markup_token, spells⟩ := tag_of_spells tags
          obtain ⟨ends, again⟩ := tag_body_ends found
          refine ⟨markup_token, body ++ [gt], spells, by simpa using ends, fun rest' => ?_⟩
          cases body with
          | nil => cases tags
          | cons d body =>
            rw [List.cons_append] at ends
            injection ends with same
            subst same
            have read' := again rest'
            rw [List.cons_append] at read'
            rw [List.cons_append, List.cons_append, List.append_assoc, markup, if_neg no_bang,
              if_neg no_question, if_neg no_slash]
            simp [read', tags]

theorem next_ends {s rest : Str} {tok : Token} (read : next s = some (tok, rest)) :
    tok.Whole ∧ s = tok.source ++ rest ∧
      (tok.is_text = true → ∀ c ∈ rest.head?, c = lt) ∧
      (tok.is_text = true → ∀ c ∈ s.head?, c ≠ lt) := by
  cases s with
  | nil => cases read
  | cons c s =>
    rw [next] at read
    split at read
    · rename_i here
      subst here
      obtain ⟨not_text, inner, spells, rfl, again⟩ := markup_ends read
      have reads (rest' : Str) : next (tok.source ++ rest') = some (tok, rest') := by
        rw [spells, List.cons_append, next_of_lt, again]
      refine ⟨?_, by rw [spells, List.cons_append], ?_, ?_⟩
      · cases tok with
        | text raw => cases not_text
        | _ => exact reads
      · simp [not_text]
      · simp [not_text]
    · rename_i other
      cases read
      have split := List.takeWhile_append_dropWhile (p := (· ≠ lt)) (l := c :: s)
      refine ⟨⟨?_, ?_⟩, split.symm, fun _ => ?_, fun _ => by simpa using other⟩
      · rw [List.takeWhile_cons, if_pos (by simpa using other)]
        exact List.cons_ne_nil _ _
      · intro d member
        simpa using List.mem_takeWhile_imp member
      · intro d first
        have stops := List.head?_dropWhile_not (· ≠ lt) (c :: s)
        rw [Option.mem_def.mp first] at stops
        simpa using stops

theorem source_of_markup {tok : Token} (not_text : tok.is_text = false) :
    ∃ inner, tok.source = lt :: inner := by
  cases tok with
  | text raw => cases not_text
  | _ => exact ⟨_, rfl⟩

theorem source_ne_nil {tok : Token} (whole : tok.Whole) : tok.source ≠ [] := by
  cases tok with
  | text raw => exact whole.1
  | _ => exact List.cons_ne_nil _ _

theorem next_of_whole {tok : Token} (whole : tok.Whole) {rest : Str}
    (apart : tok.is_text = true → ∀ c ∈ rest.head?, c = lt) :
    next (tok.source ++ rest) = some (tok, rest) := by
  cases tok with
  | text raw =>
    obtain ⟨some_raw, plain⟩ := whole
    have plain' : ∀ c ∈ raw, decide (c ≠ lt) = true := by simpa using plain
    have taken : (raw ++ rest).takeWhile (· ≠ lt) = raw := by
      rw [List.takeWhile_append_of_pos plain']
      cases rest with
      | nil => simp
      | cons c rest => simp [apart rfl c rfl]
    have dropped : (raw ++ rest).dropWhile (· ≠ lt) = rest := by
      rw [List.dropWhile_append_of_pos plain']
      cases rest with
      | nil => rfl
      | cons c rest => simp [apart rfl c rfl]
    obtain ⟨c, raw, rfl⟩ := List.exists_cons_of_ne_nil some_raw
    rw [List.cons_append] at taken dropped
    rw [Token.source, List.cons_append, next, if_neg (plain c (List.mem_cons_self ..)), taken,
      dropped]
  | _ => exact whole rest

/-! ## Sequences of tokens -/

/-- A sequence of tokens that its text is read as. -/
structure Sequence (ts : List Token) : Prop where
  whole : ∀ tok ∈ ts, tok.Whole
  apart : ts.IsChain fun a b => ¬ (a.is_text = true ∧ b.is_text = true)

theorem sequence_nil : Sequence [] := ⟨by simp, .nil⟩

theorem sequence_append {as bs : List Token} :
    Sequence (as ++ bs) ↔ Sequence as ∧ Sequence bs ∧
      ∀ a ∈ as.getLast?, ∀ b ∈ bs.head?, ¬ (a.is_text = true ∧ b.is_text = true) := by
  constructor
  · rintro ⟨whole, apart⟩
    obtain ⟨first, second, meet⟩ := List.isChain_append.mp apart
    exact ⟨⟨fun tok member => whole tok (List.mem_append_left _ member), first⟩,
      ⟨fun tok member => whole tok (List.mem_append_right _ member), second⟩, meet⟩
  · rintro ⟨first, second, meet⟩
    refine ⟨fun tok member => ?_, List.isChain_append.mpr ⟨first.apart, second.apart, meet⟩⟩
    rcases List.mem_append.mp member with member | member
    · exact first.whole tok member
    · exact second.whole tok member

theorem sequence_cons {tok : Token} {ts : List Token} :
    Sequence (tok :: ts) ↔ tok.Whole ∧ Sequence ts ∧
      ∀ b ∈ ts.head?, ¬ (tok.is_text = true ∧ b.is_text = true) := by
  constructor
  · rintro ⟨whole, apart⟩
    obtain ⟨own, others⟩ := List.forall_mem_cons.mp whole
    obtain ⟨meet, rest⟩ := List.isChain_cons.mp apart
    exact ⟨own, ⟨others, rest⟩, meet⟩
  · rintro ⟨own, others, meet⟩
    exact ⟨List.forall_mem_cons.mpr ⟨own, others.whole⟩, List.isChain_cons.mpr ⟨meet, others.apart⟩⟩

/-- Tokens that begin and end with no run of characters can stand anywhere. -/
def Bracketed (ts : List Token) : Prop :=
  (∃ a ∈ ts.head?, a.is_text = false) ∧ ∃ b ∈ ts.getLast?, b.is_text = false

theorem head_of_source {ts : List Token} (starts : ∀ b ∈ ts.head?, b.is_text = false) :
    ∀ c ∈ (source ts).head?, c = lt := by
  cases ts with
  | nil => simp [source]
  | cons tok ts =>
    obtain ⟨inner, spells⟩ := source_of_markup (starts tok rfl)
    simp [source, spells]

theorem lex_of_sequence {ts : List Token} (sequence : Sequence ts) {fuel : Nat}
    (enough : (source ts).length ≤ fuel) : lex fuel (source ts) = some ts := by
  induction ts generalizing fuel with
  | nil => cases fuel <;> rfl
  | cons tok ts ih =>
    obtain ⟨whole, others, meet⟩ := sequence_cons.mp sequence
    have split : source (tok :: ts) = tok.source ++ source ts := List.flatMap_cons ..
    have read : next (tok.source ++ source ts) = some (tok, source ts) := by
      refine next_of_whole whole fun text => head_of_source fun b first => ?_
      have apart := meet b first
      simpa [text] using apart
    obtain ⟨c, more, shape⟩ := List.exists_cons_of_ne_nil (source_ne_nil whole)
    rw [split, shape, List.cons_append, List.length_cons, List.length_append] at enough
    obtain ⟨fuel, rfl⟩ : ∃ n, fuel = n + 1 := ⟨fuel - 1, by omega⟩
    rw [shape, List.cons_append] at read
    rw [split, shape, List.cons_append, lex, read, Option.bind_some, ih others (by omega)]
    rfl

theorem sequence_of_lex {fuel : Nat} {s : Str} {ts : List Token} (read : lex fuel s = some ts) :
    source ts = s ∧ Sequence ts := by
  induction fuel generalizing s ts with
  | zero =>
    cases s with
    | nil =>
      cases read
      exact ⟨rfl, sequence_nil⟩
    | cons c s => cases read
  | succ fuel ih =>
    cases s with
    | nil =>
      cases read
      exact ⟨rfl, sequence_nil⟩
    | cons c s =>
      rw [lex] at read
      obtain ⟨⟨tok, rest⟩, first, later⟩ := Option.bind_eq_some_iff.mp read
      obtain ⟨others, more, rfl⟩ := Option.map_eq_some_iff.mp later
      obtain ⟨rfl, sequence⟩ := ih more
      obtain ⟨whole, spells, after_text, -⟩ := next_ends first
      refine ⟨spells.symm, sequence_cons.mpr ⟨whole, sequence, fun b next_one both => ?_⟩⟩
      cases others with
      | nil => cases next_one
      | cons d others =>
        cases next_one
        obtain ⟨raw, rfl⟩ : ∃ raw, b = .text raw := by
          cases b with
          | text raw => exact ⟨raw, rfl⟩
          | _ => cases both.2
        obtain ⟨some_raw, plain⟩ := sequence.whole _ (List.mem_cons_self ..)
        obtain ⟨e, raw, rfl⟩ := List.exists_cons_of_ne_nil some_raw
        exact plain e (List.mem_cons_self ..) (after_text both.1 e rfl)

/-- The tokens of a text are the sequence that spells it. -/
theorem tokens_iff {s : Str} {ts : List Token} :
    tokens s = some ts ↔ source ts = s ∧ Sequence ts := by
  refine ⟨sequence_of_lex, ?_⟩
  rintro ⟨rfl, sequence⟩
  exact lex_of_sequence sequence (Nat.le_refl _)

/-- What stands between tokens can be changed. -/
theorem Sequence.replace {before middle after others : List Token}
    (sequence : Sequence (before ++ (middle ++ after))) (own : Sequence others)
    (bracketed : Bracketed others) : Sequence (before ++ (others ++ after)) := by
  obtain ⟨first, rest, -⟩ := sequence_append.mp sequence
  obtain ⟨-, last, -⟩ := sequence_append.mp rest
  obtain ⟨⟨a, starts, opening⟩, b, ends, closing⟩ := bracketed
  have start : (others ++ after).head? = some a := by
    rw [List.head?_append, Option.mem_def.mp starts]
    rfl
  refine sequence_append.mpr ⟨first, sequence_append.mpr ⟨own, last, ?_⟩, ?_⟩
  · intro c there d _ both
    rw [Option.mem_unique there ends, closing] at both
    cases both.1
  · intro c _ d there both
    rw [Option.mem_unique there start, opening] at both
    cases both.2

/-! ## Names -/

/-- A name that a tag can have. -/
def Name (name : Str) : Prop := name ≠ [] ∧ ∀ c ∈ name, name_char c = true

theorem name_of_tag {body name : Str} {tok : Token} (read : tag_of body = some tok)
    (opens : tok.opens = some name) : name = body.takeWhile name_char := by
  unfold tag_of at read
  split_ifs at read
  · cases read
    cases opens
    rfl
  · cases read
    cases opens
    rfl

theorem name_of_tag_of {body name : Str} {tok : Token} (read : tag_of body = some tok)
    (opens : tok.opens = some name) : Name name := by
  have own := name_of_tag read opens
  refine ⟨?_, fun c member => ?_⟩
  · intro no_name
    rw [own] at no_name
    rw [tag_of, if_pos no_name] at read
    cases read
  · rw [own] at member
    exact List.mem_takeWhile_imp member

theorem name_of_markup {s name rest : Str} {tok : Token} (read : markup s = some (tok, rest))
    (opens : tok.opens = some name) : Name name := by
  cases s with
  | nil => cases read
  | cons c s =>
    rw [markup] at read
    split_ifs at read
    · obtain ⟨_, _, same⟩ := Option.map_eq_some_iff.mp read
      cases same
      cases opens
    · obtain ⟨_, _, same⟩ := Option.map_eq_some_iff.mp read
      cases same
      cases opens
    · obtain ⟨_, _, same⟩ := Option.map_eq_some_iff.mp read
      cases same
      cases opens
    · obtain ⟨_, _, close⟩ := Option.bind_eq_some_iff.mp read
      obtain ⟨_, closes, same⟩ := Option.map_eq_some_iff.mp close
      cases same
      unfold close_of at closes
      split at closes
      · cases closes
      · cases closes
        cases opens
    · obtain ⟨_, _, tag⟩ := Option.bind_eq_some_iff.mp read
      obtain ⟨_, tags, same⟩ := Option.map_eq_some_iff.mp tag
      cases same
      exact name_of_tag_of tags opens

/-- The name of a tag that is read. -/
theorem name_of_whole {name : Str} {tok : Token} (whole : tok.Whole)
    (opens : tok.opens = some name) : Name name := by
  have not_text : tok.is_text = false := by
    cases tok with
    | text raw => cases opens
    | _ => rfl
  obtain ⟨inner, spells⟩ := source_of_markup not_text
  have read : next (tok.source ++ []) = some (tok, []) := next_of_whole whole (by simp)
  rw [spells, List.append_nil, next_of_lt] at read
  exact name_of_markup read opens

theorem plain_of_name_char {c : Code} (named : name_char c = true) :
    c ≠ gt ∧ c ≠ bang ∧ c ≠ question ∧ c ≠ slash ∧ quoting c = false := by
  simp only [name_char, Bool.not_eq_true', Bool.or_eq_false_iff, beq_eq_false_iff_ne] at named
  tauto

theorem tag_body_of_name {name : Str} (named : ∀ c ∈ name, name_char c = true) (rest : Str) :
    tag_body none (name ++ gt :: rest) = some (name, rest) := by
  induction name with
  | nil => rw [List.nil_append, tag_body, if_pos rfl]
  | cons c name ih =>
    obtain ⟨own, others⟩ := List.forall_mem_cons.mp named
    obtain ⟨no_end, -, -, -, no_quote⟩ := plain_of_name_char own
    rw [List.cons_append, tag_body, if_neg no_end, no_quote, if_neg Bool.false_ne_true, ih others]
    rfl

theorem whole_start {name : Str} (named : Name name) : (Token.start name []).Whole := by
  intro rest
  obtain ⟨c, more, rfl⟩ := List.exists_cons_of_ne_nil named.1
  obtain ⟨-, no_bang, no_question, no_slash, -⟩ := plain_of_name_char
    (named.2 c (List.mem_cons_self ..))
  have body := tag_body_of_name named.2 rest
  have own : tag_of (c :: more) = some (.start (c :: more) []) := by
    have taken : (c :: more).takeWhile name_char = c :: more :=
      List.takeWhile_eq_self_iff.mpr named.2
    have dropped : (c :: more).dropWhile name_char = [] := List.dropWhile_eq_nil_iff.mpr named.2
    rw [tag_of, taken, dropped, if_neg named.1]
    rfl
  rw [List.cons_append] at body
  rw [Token.source, List.cons_append, next_of_lt, List.nil_append, List.append_assoc,
    List.cons_append, markup, if_neg no_bang, if_neg no_question, if_neg no_slash,
    List.singleton_append, body, Option.bind_some, own]
  rfl

theorem cut_of_name {name : Str} (named : ∀ c ∈ name, name_char c = true) (rest : Str) :
    cut [gt] (name ++ gt :: rest) = some (name, rest) := by
  induction name with
  | nil =>
    have here : [gt].isPrefixOf (gt :: rest) = true := List.isPrefixOf_iff_prefix.mpr ⟨rest, rfl⟩
    rw [List.nil_append, cut, if_pos here]
    rfl
  | cons c name ih =>
    obtain ⟨own, others⟩ := List.forall_mem_cons.mp named
    have later : ¬ [gt].isPrefixOf (c :: (name ++ gt :: rest)) = true := by
      simp [List.isPrefixOf, Ne.symm (plain_of_name_char own).1]
    rw [List.cons_append, cut, if_neg later, ih others]
    rfl

theorem whole_close {name : Str} (named : Name name) : (Token.close name []).Whole := by
  intro rest
  have no_bang : slash ≠ bang := by decide
  have no_question : slash ≠ question := by decide
  have own : close_of name = some (.close name []) := by
    have taken : name.takeWhile name_char = name := List.takeWhile_eq_self_iff.mpr named.2
    have dropped : name.dropWhile name_char = [] := List.dropWhile_eq_nil_iff.mpr named.2
    rw [close_of, taken, dropped, if_neg named.1]
  rw [Token.source, List.cons_append, next_of_lt, List.cons_append, List.nil_append,
    List.append_assoc, List.singleton_append, markup, if_neg no_bang, if_neg no_question,
    if_pos rfl, cut_of_name named.2, Option.bind_some, own]
  rfl

theorem tag_body_of_slash {q : Option Code} {v r : Str} (outside : ∀ c ∈ q, c ≠ slash)
    (found : tag_body q (v ++ slash :: gt :: r) = some (v ++ [slash], r)) (r' : Str) :
    tag_body q (v ++ gt :: r') = some (v, r') := by
  induction v generalizing q with
  | nil =>
    cases q with
    | none => rw [List.nil_append, tag_body, if_pos rfl]
    | some c =>
      rw [List.nil_append, tag_body, if_neg (Ne.symm (outside c rfl)), tag_body] at found
      simp at found
  | cons d v ih =>
    cases q with
    | none =>
      by_cases here : d = gt
      · rw [List.cons_append, tag_body, if_pos here] at found
        cases found
      · have outside' : ∀ c ∈ (if quoting d then some d else none), c ≠ slash := by
          intro c member same
          subst same
          by_cases quoted : quoting d = true
          · rw [if_pos quoted] at member
            cases member
            exact absurd quoted (by decide)
          · rw [if_neg quoted] at member
            cases member
        rw [List.cons_append, tag_body, if_neg here] at found ⊢
        obtain ⟨⟨u, rest⟩, there, same⟩ := Option.map_eq_some_iff.mp found
        cases same
        rw [ih outside' there]
        rfl
    | some c =>
      have outside' : ∀ e ∈ (if d = c then none else some c), e ≠ slash := by
        intro e member
        by_cases same : d = c
        · rw [if_pos same] at member
          cases member
        · rw [if_neg same] at member
          cases member
          exact outside _ rfl
      rw [List.cons_append, tag_body] at found ⊢
      obtain ⟨⟨u, rest⟩, there, same⟩ := Option.map_eq_some_iff.mp found
      cases same
      rw [ih outside' there]
      rfl

/-- The start of an empty element is one without the slash. -/
theorem whole_start_of_empty {name raw : Str} (whole : (Token.empty name raw).Whole)
    (no_slash : raw.getLast? ≠ some slash) : (Token.start name raw).Whole := by
  intro rest
  have named := name_of_whole whole rfl
  obtain ⟨c, more, shape⟩ := List.exists_cons_of_ne_nil named.1
  obtain ⟨-, no_bang, no_question, no_slash', -⟩ := plain_of_name_char
    (named.2 c (by rw [shape]; exact List.mem_cons_self ..))
  have tagged (s : Str) : markup (name ++ s) =
      (tag_body none (name ++ s)).bind fun found =>
        (tag_of found.1).map fun tok => (tok, found.2) := by
    rw [shape, List.cons_append, markup, if_neg no_bang, if_neg no_question, if_neg no_slash']
  have read := whole []
  rw [Token.source, List.append_nil, next_of_lt, tagged] at read
  obtain ⟨⟨body, rest'⟩, found, tag⟩ := Option.bind_eq_some_iff.mp read
  obtain ⟨tok, tags, same⟩ := Option.map_eq_some_iff.mp tag
  cases same
  have body_is : body = name ++ (raw ++ [slash]) := by
    have split := (tag_body_ends found).1
    have split' : name ++ (raw ++ [slash]) ++ [gt] = body ++ [gt] := by simpa using split
    exact (List.append_cancel_right split').symm
  subst body_is
  have body : tag_body none (name ++ raw ++ gt :: rest) = some (name ++ raw, rest) := by
    have again := (tag_body_ends found).2 rest
    refine tag_body_of_slash (r := rest) (by simp) ?_ rest
    simpa using again
  have stops : raw.takeWhile name_char = [] ∧ raw.dropWhile name_char = raw := by
    have taken := name_of_tag tags (show (Token.empty name raw).opens = some name from rfl)
    rw [List.takeWhile_append_of_pos named.2, List.self_eq_append_right] at taken
    cases raw with
    | nil => exact ⟨rfl, rfl⟩
    | cons d raw =>
      rw [List.cons_append, List.takeWhile_cons] at taken
      split_ifs at taken with named_char
      rw [List.takeWhile_cons, List.dropWhile_cons, if_neg named_char, if_neg named_char]
      exact ⟨rfl, rfl⟩
  have own : tag_of (name ++ raw) = some (.start name raw) := by
    rw [tag_of, List.takeWhile_append_of_pos named.2, List.dropWhile_append_of_pos named.2,
      stops.1, stops.2, List.append_nil, if_neg named.1, if_neg no_slash]
  have split : (Token.start name raw).source ++ rest = lt :: (name ++ (raw ++ gt :: rest)) := by
    simp [Token.source]
  rw [split, next_of_lt, tagged, ← List.append_assoc, body, Option.bind_some, own]
  rfl

end SessionManager.Xml
