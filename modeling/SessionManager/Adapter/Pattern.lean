import SessionManager.Adapter.RawRequest
import SessionManager.Xml.Tree

/-!
# The patterns of `bind_raw_arguments`

What `re` finds for the two patterns with which the text of a request is changed.  It tries a name
with a prefix before the name alone, and an element with a closing tag before an empty one.
-/

namespace SessionManager

open Python (Str Code)
open Xml (lt gt slash colon)

-- what is a `\w` beyond ASCII
variable (wide : Code → Bool)

/-- `[A-Za-z_]` -/
def letter (c : Code) : Bool :=
  (0x41 ≤ c.val && c.val ≤ 0x5A) || (0x61 ≤ c.val && c.val ≤ 0x7A) || c.val == 0x5F

/-- `\w` -/
def word (c : Code) : Bool :=
  if c.val < 0x80 then letter c || (0x30 ≤ c.val && c.val ≤ 0x39) else wide c

/-- `[\w.-]` -/
def qualifying (c : Code) : Bool := word wide c || c.val == 0x2E || c.val == 0x2D

/-- `\b` behind a `\w` -/
def boundary : Str → Bool
  | [] => true
  | c :: _ => !word wide c

/-- `name\b`: the name, and what follows it. -/
def plain_tag (name s : Str) : Option (Str × Str) :=
  if name.isPrefixOf s && boundary wide (s.drop name.length) then
    some (name, s.drop name.length)
  else none

/-- `[A-Za-z_][\w.-]*:name\b` -/
def qualified_tag (name : Str) : Str → Option (Str × Str)
  | [] => none
  | c :: s =>
    if letter c then
      match s.dropWhile (qualifying wide) with
      | [] => none
      | d :: rest =>
        if d = colon then
          (plain_tag wide name rest).map fun found =>
            (c :: (s.takeWhile (qualifying wide) ++ colon :: found.1), found.2)
        else none
    else none

/-- `<((?:[A-Za-z_][\w.-]*:)?name)\b`: the tags it can capture, each with what follows it, in the
order in which they are tried. -/
def tag_starts (name : Str) : Str → List (Str × Str)
  | [] => []
  | c :: s =>
    if c = lt then (qualified_tag wide name s).toList ++ (plain_tag wide name s).toList else []

/-- `[^>]*>`: what it matches, and what follows it. -/
def tag_end : Str → Option (Str × Str)
  | [] => none
  | c :: s =>
    if c = gt then some ([gt], s) else (tag_end s).map fun found => (c :: found.1, found.2)

/-- `</tag\s*>`: what follows it. -/
def closing_tag (tag s : Str) : Option Str :=
  if (lt :: slash :: tag).isPrefixOf s then
    match (s.drop (tag.length + 2)).dropWhile isspace with
    | [] => none
    | c :: rest => if c = gt then some rest else none
  else none

/-- `(.*?)</tag\s*>`: what follows it. -/
def content_end (tag : Str) : Str → Option Str
  | [] => none
  | c :: s => (closing_tag tag (c :: s)).or (content_end tag s)

/-- The pattern for elements of this name: the tag, and what follows the element. -/
def element_at (name s : Str) : Option (Str × Str) :=
  ((tag_starts wide name s).findSome? fun found =>
    (tag_end found.2).bind fun opened =>
      (content_end found.1 opened.2).map fun rest => (found.1, rest)).or
  ((tag_starts wide name s).findSome? fun found =>
    (tag_end found.2).bind fun opened =>
      if endswith opened.1 "/>" then some (found.1, opened.2) else none)

/-- The first match of the pattern for elements of this name. -/
def element_match (name : String) : Str → Option (Str × Str × Str)
  | [] => none
  | c :: s =>
    match element_at wide (Str.of name) (c :: s) with
    | some (tag, rest) => some ([], tag, rest)
    | none => (element_match name s).map fun found => (c :: found.1, found.2)

/-- The pattern for the opening tag of `request`: the text it matches, the tag, and what follows. -/
def opening_at (s : Str) : Option (Str × Str × Str) :=
  (tag_starts wide (Str.of "request") s).findSome? fun found =>
    (tag_end found.2).map fun opened => (lt :: (found.1 ++ opened.1), found.1, opened.2)

/-- The first match of that pattern. -/
def opening_match : Str → Option (Str × Str × Str)
  | [] => none
  | c :: s =>
    (opening_at wide (c :: s)).or
      ((opening_match s).map fun found => (c :: found.1, found.2))

/-- Python's library with its own `ET.fromstring` and `re`. -/
def Library.with_xml (library : Library) (lexicon : Xml.Lexicon) : RawLibrary :=
  { library with
    fromstring := Xml.fromstring lexicon
    element := element_match wide
    opening := opening_match wide }

/-! ## What follows the opening tag -/

variable {wide}

/-- A character that none of these patterns has in a tag. -/
structure Stops (d : Code) : Prop where
  ascii : d.val < 0x80
  no_word : letter d = false ∧ ¬ (0x30 ≤ d.val ∧ d.val ≤ 0x39)
  no_mark : d.val ≠ 0x2E ∧ d.val ≠ 0x2D ∧ d ≠ colon

theorem stops_slash : Stops slash := ⟨by decide, by decide, by decide⟩

theorem stops_gt : Stops gt := ⟨by decide, by decide, by decide⟩

theorem Stops.not_word {d : Code} (stops : Stops d) : word wide d = false := by
  simp [word, stops.ascii, stops.no_word.1]
  have := stops.no_word.2
  omega

theorem Stops.not_qualifying {d : Code} (stops : Stops d) : qualifying wide d = false := by
  simp [qualifying, stops.not_word, stops.no_mark.1, stops.no_mark.2.1]

theorem isPrefixOf_stops {name u rest : Str} {d : Code} (other : d ∉ name) :
    name.isPrefixOf (u ++ d :: rest) = name.isPrefixOf u := by
  induction name generalizing u with
  | nil => rfl
  | cons c name ih =>
    rw [List.mem_cons, not_or] at other
    cases u with
    | nil => simp [List.isPrefixOf, Ne.symm other.1]
    | cons e u => simp [List.isPrefixOf, ih other.2]

theorem plain_tag_stops {name u rest : Str} {d : Code} (stops : Stops d) (other : d ∉ name) :
    plain_tag wide name (u ++ d :: rest) =
      (plain_tag wide name u).map fun found => (found.1, found.2 ++ d :: rest) := by
  rw [plain_tag, plain_tag, isPrefixOf_stops other]
  by_cases here : name.isPrefixOf u = true
  · obtain ⟨t, rfl⟩ := List.isPrefixOf_iff_prefix.mp here
    have same : boundary wide (t ++ d :: rest) = boundary wide t := by
      cases t with
      | nil => simp [boundary, stops.not_word]
      | cons c t => rfl
    rw [here, List.append_assoc, List.drop_left, List.drop_left, same]
    cases boundary wide t with
    | true => rfl
    | false => rfl
  · simp [here]

theorem qualified_tag_stops {name u rest : Str} {d : Code} (stops : Stops d) (other : d ∉ name) :
    qualified_tag wide name (u ++ d :: rest) =
      (qualified_tag wide name u).map fun found => (found.1, found.2 ++ d :: rest) := by
  have no_letter : letter d = false := stops.no_word.1
  cases u with
  | nil => simp [qualified_tag, no_letter]
  | cons c u =>
    rw [List.cons_append, qualified_tag, qualified_tag]
    cases letter c with
    | false => rfl
    | true =>
      have split := List.takeWhile_append_dropWhile (p := qualifying wide) (l := u)
      rw [if_pos rfl, if_pos rfl, List.dropWhile_append, List.takeWhile_append]
      cases dropped : u.dropWhile (qualifying wide) with
      | nil => simp [stops.not_qualifying, stops.no_mark.2.2]
      | cons e t =>
        rw [dropped] at split
        have longer : (u.takeWhile (qualifying wide)).length ≠ u.length := by
          have lengths := congrArg List.length split
          rw [List.length_append, List.length_cons] at lengths
          omega
        rw [if_neg longer, List.isEmpty_cons, if_neg Bool.false_ne_true, List.cons_append]
        dsimp only
        by_cases here : e = colon
        · rw [if_pos here, if_pos here, plain_tag_stops stops other]
          cases plain_tag wide name t <;> rfl
        · rw [if_neg here, if_neg here]
          rfl

theorem tag_starts_stops {name u rest : Str} {c d : Code} (stops : Stops d) (other : d ∉ name) :
    tag_starts wide name (c :: (u ++ d :: rest)) =
      (tag_starts wide name (c :: u)).map fun found => (found.1, found.2 ++ d :: rest) := by
  rw [tag_starts, tag_starts, qualified_tag_stops stops other, plain_tag_stops stops other]
  by_cases here : c = lt
  · rw [if_pos here, if_pos here, List.map_append]
    cases qualified_tag wide name u <;> cases plain_tag wide name u <;> rfl
  · rw [if_neg here, if_neg here]
    rfl

theorem tag_end_of_free {v r : Str} (free : gt ∉ v) :
    tag_end (v ++ gt :: r) = some (v ++ [gt], r) := by
  induction v with
  | nil => rw [List.nil_append, tag_end, if_pos rfl, List.nil_append]
  | cons c v ih =>
    rw [List.mem_cons, not_or] at free
    rw [List.cons_append, tag_end, if_neg (Ne.symm free.1), ih free.2]
    rfl

theorem tag_end_splits {s o r : Str} (found : tag_end s = some (o, r)) :
    ∃ v, gt ∉ v ∧ o = v ++ [gt] ∧ s = v ++ gt :: r := by
  induction s generalizing o with
  | nil => cases found
  | cons c s ih =>
    rw [tag_end] at found
    split at found
    · rename_i here
      cases found
      exact ⟨[], by simp, rfl, by rw [here, List.nil_append]⟩
    · rename_i other
      obtain ⟨⟨o', r'⟩, there, same⟩ := Option.map_eq_some_iff.mp found
      cases same
      obtain ⟨v, free, rfl, rfl⟩ := ih there
      refine ⟨c :: v, ?_, rfl, rfl⟩
      rw [List.mem_cons, not_or]
      exact ⟨Ne.symm other, free⟩

theorem tag_end_of_mem {s : Str} (member : gt ∈ s) : ∃ found, tag_end s = some found := by
  obtain ⟨v, r, rfl, free⟩ := List.eq_append_cons_of_mem member
  exact ⟨_, tag_end_of_free free⟩

/-- The first tag that can be captured is, if there is an end for it. -/
theorem opening_at_stops {u rest : Str} {c d : Code} (stops : Stops d) (ends : gt ∈ d :: rest)
    (other : d ∉ Str.of "request") :
    opening_at wide (c :: (u ++ d :: rest)) =
      (tag_starts wide (Str.of "request") (c :: u)).head?.bind fun found =>
        (tag_end (found.2 ++ d :: rest)).map fun opened =>
          (lt :: (found.1 ++ opened.1), found.1, opened.2) := by
  rw [opening_at, tag_starts_stops stops other]
  cases tag_starts wide (Str.of "request") (c :: u) with
  | nil => rfl
  | cons found others =>
    obtain ⟨opened, there⟩ := tag_end_of_mem (List.mem_append_right found.2 ends)
    rw [List.map_cons, List.findSome?_cons]
    simp [there]

theorem plain_tag_spells {name s tag r : Str} (found : plain_tag wide name s = some (tag, r)) :
    s = tag ++ r := by
  unfold plain_tag at found
  split at found
  · rename_i here
    cases found
    rw [Bool.and_eq_true] at here
    obtain ⟨t, rfl⟩ := List.isPrefixOf_iff_prefix.mp here.1
    rw [List.drop_left]
  · cases found

theorem qualified_tag_spells {name s tag r : Str}
    (found : qualified_tag wide name s = some (tag, r)) : s = tag ++ r := by
  cases s with
  | nil => cases found
  | cons c s =>
    have split := List.takeWhile_append_dropWhile (p := qualifying wide) (l := s)
    rw [qualified_tag] at found
    split_ifs at found
    cases dropped : s.dropWhile (qualifying wide) with
    | nil =>
      rw [dropped] at found
      cases found
    | cons d rest =>
      rw [dropped] at found split
      dsimp only at found
      split_ifs at found with here
      obtain ⟨⟨own, r'⟩, plain, same⟩ := Option.map_eq_some_iff.mp found
      cases same
      rw [here, plain_tag_spells plain] at split
      conv_lhs => rw [← split]
      simp

theorem tag_starts_spells {name s tag r : Str} {c : Code}
    (member : (tag, r) ∈ tag_starts wide name (c :: s)) : c = lt ∧ s = tag ++ r := by
  rw [tag_starts] at member
  split at member
  · rename_i here
    refine ⟨here, ?_⟩
    rcases List.mem_append.mp member with member | member
    · exact qualified_tag_spells (Option.mem_toList.mp member)
    · exact plain_tag_spells (Option.mem_toList.mp member)
  · cases member

theorem opening_match_spells {s opened tag rest : Str}
    (found : opening_match wide s = some (opened, tag, rest)) :
    s = opened ++ rest ∧ opened ≠ [] := by
  induction s generalizing opened with
  | nil => cases found
  | cons c s ih =>
    rw [opening_match] at found
    cases here : opening_at wide (c :: s) with
    | some result =>
      rw [here] at found
      cases found
      obtain ⟨⟨tag', r⟩, member, ends⟩ := List.exists_of_findSome?_eq_some here
      obtain ⟨rfl, rfl⟩ := tag_starts_spells member
      obtain ⟨⟨o, r'⟩, ended, same⟩ := Option.map_eq_some_iff.mp ends
      cases same
      obtain ⟨v, -, rfl, rfl⟩ := tag_end_splits ended
      exact ⟨by simp, List.cons_ne_nil _ _⟩
    | none =>
      rw [here] at found
      obtain ⟨⟨o, r'⟩, there, same⟩ := Option.map_eq_some_iff.mp found
      cases same
      obtain ⟨rfl, -⟩ := ih there
      exact ⟨rfl, List.cons_ne_nil _ _⟩

/-- The opening tag of an empty element is found again when it does not close it any more. -/
theorem opening_match_of_empty {u rest tag : Str} (closing : Str)
    (found : opening_match wide (u ++ slash :: gt :: rest) = some (u ++ [slash, gt], tag, rest)) :
    opening_match wide (u ++ gt :: closing) = some (u ++ [gt], tag, closing) := by
  have no_slash : slash ∉ Str.of "request" := by decide
  have no_gt : gt ∉ Str.of "request" := by decide
  induction u with
  | nil =>
    have none (c : Code) (s : Str) (other : c ≠ lt) : opening_at wide (c :: s) = none := by
      rw [opening_at, tag_starts, if_neg other]
      rfl
    have slash_lt : slash ≠ lt := by decide
    have gt_lt : gt ≠ lt := by decide
    rw [List.nil_append, opening_match, none slash _ slash_lt, opening_match, none gt _ gt_lt]
      at found
    obtain ⟨⟨o, r⟩, there, same⟩ := Option.map_eq_some_iff.mp found
    obtain ⟨⟨o', r'⟩, there', same'⟩ := Option.map_eq_some_iff.mp there
    cases same'
    cases same
    exact absurd rfl (opening_match_spells there').2
  | cons c u ih =>
    rw [List.cons_append, opening_match, opening_at_stops stops_slash (by simp) no_slash] at found
    rw [List.cons_append, opening_match, opening_at_stops stops_gt (by simp) no_gt]
    cases starts : tag_starts wide (Str.of "request") (c :: u) with
    | nil =>
      rw [starts] at found
      obtain ⟨⟨o, r⟩, there, same⟩ := Option.map_eq_some_iff.mp found
      cases same
      have again := ih there
      simp [again]
    | cons first others =>
      rw [starts] at found
      obtain ⟨⟨o, r⟩, there⟩ : ∃ opened, tag_end (first.2 ++ slash :: gt :: rest) = some opened :=
        tag_end_of_mem (by simp)
      rw [List.head?_cons, Option.bind_some, there] at found
      simp only [Option.map_some, Option.some_or, Option.some.injEq, Prod.mk.injEq] at found
      obtain ⟨spelled, rfl, rfl⟩ := found
      obtain ⟨v, free, rfl, split⟩ := tag_end_splits there
      have own : first.2 ++ [slash] = v :=
        List.append_cancel_right (show first.2 ++ [slash] ++ gt :: r = v ++ gt :: r by
          simpa using split)
      subst own
      have free' : gt ∉ first.2 := fun member => free (List.mem_append_left _ member)
      have shape : lt :: (first.1 ++ first.2) = c :: u :=
        List.append_cancel_right
          (show lt :: (first.1 ++ first.2) ++ [slash, gt] = c :: u ++ [slash, gt] by
            simpa using spelled)
      rw [List.head?_cons, Option.bind_some, tag_end_of_free free']
      simp [← shape]

end SessionManager
