import SessionManager.Adapter.Pattern

/-!
# Texts in which an element is pinned

An element of the root is written anew in the text of a request, or put behind the opening tag.  If
what the pattern finds in the text is the only child with the name or the opening tag of the root
(`Pins`), the tree of the new text is the old one with that child (`PinnedTree`).
-/

namespace SessionManager

open Python (Str)
open Xml (Token Lexicon Leaf Sequence Bracketed Name source tokens run lt gt slash colon)

def Element.attrib : Element → List (Str × Str)
  | .node _ attrib _ _ _ => attrib

def Element.tail : Element → Option Str
  | .node _ _ _ _ tail => tail

variable {lexicon : Lexicon} {wide : Python.Code → Bool} {name content : Str}

/-! ## Pinned elements -/

/-- An element with this text, which is escaped already. -/
def pinned (name content : Str) : List Token :=
  .start name [] :: ((if content = [] then [] else [.text content]) ++ [.close name []])

theorem source_pinned : source (pinned name content) = tagged name content := by
  have opening : Str.of "<" = [lt] := rfl
  have ending : Str.of ">" = [gt] := rfl
  have closing : Str.of "</" = [lt, slash] := rfl
  rw [tagged, opening, ending, closing]
  by_cases none : content = []
  · simp [pinned, none, source, Token.source]
  · simp [pinned, none, source, Token.source]

theorem bracketed_tags (name raw name' raw' : Str) (ts : List Token) :
    Bracketed (.start name raw :: (ts ++ [.close name' raw'])) :=
  ⟨⟨.start name raw, rfl, rfl⟩, .close name' raw',
    by rw [← List.cons_append, List.getLast?_concat]; rfl, rfl⟩

theorem sequence_pinned (named : Name name) (plain : ∀ c ∈ content, c ≠ lt) :
    Sequence (pinned name content) := by
  have start := Xml.whole_start named
  have close := Xml.whole_close named
  by_cases none : content = []
  · simp [pinned, none, Xml.sequence_cons, start, close, Xml.sequence_nil, Token.is_text]
  · have text : (Token.text content).Whole := ⟨none, plain⟩
    simp [pinned, none, Xml.sequence_cons, start, close, text, Xml.sequence_nil, Token.is_text]

variable (lexicon) in
/-- The element can be read where these namespaces are declared. -/
def Readable (scope : lexicon.Scope) (name content : Str) : Prop :=
  (∃ found, lexicon.element scope name [] = some found) ∧
    (content ≠ [] → ∃ s, lexicon.text content = some s)

theorem run_pinned {root : Xml.Frame lexicon.Scope}
    (readable : Readable lexicon root.scope name content) :
    ∃ tag attrib inner text, lexicon.element root.scope name [] = some (tag, attrib, inner) ∧
      run lexicon (.inside root []) (pinned name content) = some (.inside
        (root.holding (root.pieces ++ [.element (.node tag attrib text [] none)])) []) := by
  obtain ⟨⟨⟨tag, attrib, inner⟩, read⟩, has_text⟩ := readable
  have starts : Xml.step lexicon (.inside root []) (.start name []) =
      some (.inside root [{ name, tag, attrib, scope := inner, pieces := [] }]) := by
    simp [Xml.step, Xml.frame_of, read]
  by_cases none : content = []
  · refine ⟨tag, attrib, inner, Option.none, read, ?_⟩
    rw [pinned, Xml.run_cons, starts, if_pos none, Option.bind_some, List.nil_append,
      Xml.run_cons]
    simp [Xml.step, Xml.ends, Xml.put, Xml.run, Xml.Frame.push, Xml.Frame.holding,
      Xml.Frame.element, Xml.gather, Xml.given]
  · obtain ⟨s, decoded⟩ := has_text none
    refine ⟨tag, attrib, inner, Xml.given s, read, ?_⟩
    rw [pinned, Xml.run_cons, starts, if_neg none, Option.bind_some, List.singleton_append,
      Xml.run_cons]
    simp [Xml.step, decoded, Xml.ends, Xml.put, Xml.run, Xml.Frame.push, Xml.Frame.holding,
      Xml.Frame.element, Xml.gather]

/-- The tag of an element has the local part of its name. -/
theorem local_name_of_element {scope : lexicon.Scope} {raw tag : Str} {attrib : List (Str × Str)}
    {inner : lexicon.Scope} (named : Name name)
    (read : lexicon.element scope name raw = some (tag, attrib, inner)) :
    local_name tag = Xml.local_part name := by
  have within : ∀ c ∈ Xml.local_part name, c ∈ name := by
    intro c member
    unfold Xml.local_part at member
    split at member
    · exact (List.dropWhile_sublist _).subset (List.mem_of_mem_tail member)
    · exact member
  have no_brace : ∀ c ∈ (Xml.local_part name).reverse, decide (c.val ≠ 0x7D) = true := by
    intro c member
    have own := named.2 c (within c (List.mem_reverse.mp member))
    simp [Xml.name_char] at own
    simp [own]
  rcases lexicon.element_tag _ _ _ _ _ _ read with rfl | ⟨uri, rfl⟩
  · rw [local_name, List.takeWhile_eq_self_iff.mpr no_brace, List.reverse_reverse]
  · have brace : Str.of "\x7d" = [Python.Code.of '\x7d'] := rfl
    rw [local_name, List.reverse_append, List.reverse_append, List.reverse_append, brace,
      List.append_assoc, List.append_assoc, List.takeWhile_append_of_pos no_brace]
    have stops : ([Python.Code.of '\x7d'].reverse ++
        (uri.reverse ++ (Str.of "\x7b").reverse)).takeWhile
          (fun c => decide (c.val ≠ 0x7D)) = [] := rfl
    rw [stops, List.append_nil, List.reverse_reverse]

/-! ## Pinned texts -/

variable (lexicon wide) in
/-- A text, and what it becomes when the element of this name is pinned in it.  Either the pattern
finds the only child of the root that has the name, with no elements in it, or there is none, and
the pattern finds the opening tag of the root. -/
inductive Pins (name : String) (content : Str) : Str → Str → Prop
  | child {s tag : Str} {opening leaf closing : List Token} {root : Xml.Frame lexicon.Scope} :
    tokens s = some (opening ++ (leaf ++ closing)) →
      run lexicon (.prolog true) opening = some (.inside root []) → Leaf tag leaf →
        Xml.local_part tag = Str.of name →
          element_match wide name s = some (source opening, tag, source closing) →
            Readable lexicon root.scope tag content →
              Pins name content s (source (opening ++ (pinned tag content ++ closing)))
  | absent {s tag raw : Str} {opening closing : List Token} {root : Xml.Frame lexicon.Scope} :
    tokens s = some (opening ++ .start tag raw :: closing) →
      run lexicon (.prolog true) (opening ++ [.start tag raw]) = some (.inside root []) →
        (∀ element ∈ Xml.fromstring lexicon s, element.named name = []) →
          opening_match wide s =
              some (source (opening ++ [.start tag raw]), tag, source closing) →
            Readable lexicon root.scope (qualifier tag ++ Str.of name) content →
              Pins name content s (source (opening ++ .start tag raw ::
                (pinned (qualifier tag ++ Str.of name) content ++ closing)))
  | empty {s tag raw : Str} {opening closing : List Token} {root : Xml.Frame lexicon.Scope} :
    tokens s = some (opening ++ .empty tag raw :: closing) →
      run lexicon (.prolog true) (opening ++ [.start tag raw]) = some (.inside root []) →
        opening_match wide s =
            some (source (opening ++ [.empty tag raw]), tag, source closing) →
          Readable lexicon root.scope (qualifier tag ++ Str.of name) content →
            Pins name content s (source (opening ++ .start tag raw ::
              (pinned (qualifier tag ++ Str.of name) content ++ .close tag [] :: closing)))

/-- A tree, and what it becomes when the child of this name is pinned in it.  The text of the root
goes behind a child that is put before it. -/
inductive PinnedTree (name : Str) : Element → Element → Prop
  | child {tag : Str} {attrib : List (Str × Str)} {text tail : Option Str}
    {before after : List Element} {child child' : Element} :
    local_name child.tag = name → local_name child'.tag = name → child.children = [] →
      child'.children = [] → child'.tail = child.tail →
        PinnedTree name (.node tag attrib text (before ++ child :: after) tail)
          (.node tag attrib text (before ++ child' :: after) tail)
  | absent {tag : Str} {attrib : List (Str × Str)} {text tail : Option Str}
    {children : List Element} {child : Element} :
    (∀ other ∈ children, local_name other.tag ≠ name) → local_name child.tag = name →
      child.children = [] → child.tail = text →
        PinnedTree name (.node tag attrib text children tail)
          (.node tag attrib none (child :: children) tail)

theorem fromstring_iff {s : Str} {element : Element} {ts : List Token}
    (lexed : tokens s = some ts) :
    Xml.fromstring lexicon s = some element ↔
      run lexicon (.prolog true) ts = some (.epilog element) := by
  rw [Xml.fromstring, lexed, Option.bind_some, Option.bind_eq_some_iff]
  constructor
  · rintro ⟨state, ran, root⟩
    cases state with
    | epilog last =>
      cases root
      exact ran
    | prolog fresh => cases root
    | inside root inner => cases root
  · exact fun ran => ⟨_, ran, rfl⟩

/-- The start of the root, which begins with nothing in it. -/
theorem starts_of_run {opening : List Token} {tag raw : Str} {root : Xml.Frame lexicon.Scope}
    (ran : run lexicon (.prolog true) (opening ++ [.start tag raw]) = some (.inside root [])) :
    root.pieces = [] ∧ root.name = tag ∧ ∃ fresh,
      run lexicon (.prolog true) opening = some (.prolog fresh) ∧
        Xml.frame_of lexicon lexicon.initial tag raw = some root := by
  rw [Xml.run_append] at ran
  obtain ⟨state, before, rest⟩ := Option.bind_eq_some_iff.mp ran
  rw [Xml.run_cons] at rest
  obtain ⟨next, goes, done⟩ := Option.bind_eq_some_iff.mp rest
  cases done
  cases state with
  | prolog fresh =>
    simp only [Xml.step] at goes
    obtain ⟨frame, opened, same⟩ := Option.map_eq_some_iff.mp goes
    cases same
    obtain ⟨found, -, rfl⟩ := Option.map_eq_some_iff.mp opened
    exact ⟨rfl, rfl, fresh, before, opened⟩
  | inside root' inner =>
    simp only [Xml.step] at goes
    obtain ⟨frame, -, same⟩ := Option.map_eq_some_iff.mp goes
    cases same
  | epilog last => cases goes

theorem colon_iff {c : Python.Code} : c.val = 0x3A ↔ c = colon := by
  rw [Fin.ext_iff]
  rfl

/-- The prefix of the root is put before the name. -/
theorem qualified_name {tag own name : Str} (local_tag : Xml.local_part tag = own)
    (own_free : colon ∉ own) (free : colon ∉ name) :
    Xml.local_part (qualifier tag ++ name) = name ∧ ∀ c ∈ qualifier tag, c ∈ tag := by
  have drops (l : Str) (rest : Str) (plain : colon ∉ l) :
      (l.reverse ++ rest).dropWhile (fun c => decide (c.val ≠ 0x3A)) =
        rest.dropWhile fun c => decide (c.val ≠ 0x3A) := by
    apply List.dropWhile_append_of_pos
    intro c member
    rw [decide_eq_true_iff, Ne, colon_iff]
    rintro rfl
    exact plain (List.mem_reverse.mp member)
  by_cases member : colon ∈ tag
  · obtain ⟨p, r, rfl, plain⟩ := List.eq_append_cons_of_mem member
    have after (s : Str) : Xml.local_part (p ++ colon :: s) = s := by
      have taken : (p ++ colon :: s).dropWhile (fun c => decide (c ≠ colon)) = colon :: s := by
        rw [List.dropWhile_append_of_pos, List.dropWhile_cons, if_neg (by simp)]
        intro c within
        rw [decide_eq_true_iff]
        rintro rfl
        exact plain within
      rw [Xml.local_part, if_pos (by simp), taken, List.tail_cons]
    rw [after] at local_tag
    subst local_tag
    have is_qualifier : qualifier (p ++ colon :: r) = p ++ [colon] := by
      rw [qualifier, List.reverse_append, List.reverse_cons, List.append_assoc, drops _ _ own_free]
      have stays : ([colon] ++ p.reverse).dropWhile (fun c => decide (c.val ≠ 0x3A)) =
          [colon] ++ p.reverse := rfl
      rw [stays, List.reverse_append, List.reverse_reverse, List.reverse_singleton]
    rw [is_qualifier, List.append_assoc, List.singleton_append, after]
    refine ⟨rfl, fun c within => ?_⟩
    rcases List.mem_append.mp within with within | within
    · exact List.mem_append_left _ within
    · rw [List.mem_singleton.mp within]
      exact member
  · have is_qualifier : qualifier tag = [] := by
      have nothing := drops tag [] member
      rw [List.append_nil] at nothing
      rw [qualifier, nothing]
      rfl
    rw [is_qualifier, List.nil_append, Xml.local_part, if_neg free]
    exact ⟨rfl, by simp⟩

/-- A name that can be pinned. -/
structure Pinnable (name : String) : Prop where
  named : Name (Str.of name)
  free : colon ∉ Str.of name

theorem name_of_qualifier {tag : Str} {name : String} (pinnable : Pinnable name) (named : Name tag)
    (within : ∀ c ∈ qualifier tag, c ∈ tag) : Name (qualifier tag ++ Str.of name) := by
  refine ⟨fun none => pinnable.named.1 (List.append_eq_nil_iff.mp none).2, fun c member => ?_⟩
  rcases List.mem_append.mp member with member | member
  · exact named.2 c (within c member)
  · exact pinnable.named.2 c member

theorem name_of_leaf {tag : Str} {leaf : List Token} (own : Leaf tag leaf)
    (sequence : Sequence leaf) : Name tag := by
  cases own with
  | empty raw => exact Xml.name_of_whole (sequence.whole _ (List.mem_cons_self ..)) rfl
  | pair raw raw' between => exact Xml.name_of_whole (sequence.whole _ (List.mem_cons_self ..)) rfl

/-- The child the pattern finds is exchanged. -/
theorem tree_of_child {name : String} {s tag : Str} {opening leaf closing : List Token}
    {root : Xml.Frame lexicon.Scope} {element : Element}
    (plain : ∀ c ∈ content, c ≠ lt) (lexed : tokens s = some (opening ++ (leaf ++ closing)))
    (opens : run lexicon (.prolog true) opening = some (.inside root [])) (own : Leaf tag leaf)
    (local_tag : Xml.local_part tag = Str.of name)
    (readable : Readable lexicon root.scope tag content)
    (read : Xml.fromstring lexicon s = some element) :
    ∃ element', Xml.fromstring lexicon (source (opening ++ (pinned tag content ++ closing))) =
        some element' ∧ PinnedTree (Str.of name) element element' ∧ element.named name ≠ [] := by
  obtain ⟨rfl, sequence⟩ := Xml.tokens_iff.mp lexed
  obtain ⟨-, rest, -⟩ := Xml.sequence_append.mp sequence
  have named := name_of_leaf own (Xml.sequence_append.mp rest).1
  have lexed' := Xml.tokens_iff.mpr
    ⟨rfl, sequence.replace (sequence_pinned named plain) (bracketed_tags ..)⟩
  have ran := (fromstring_iff lexed).mp read
  obtain ⟨state, ran_leaf⟩ : ∃ state, run lexicon (.inside root []) leaf = some state := by
    rw [Xml.run_append, opens, Option.bind_some, Xml.run_append] at ran
    obtain ⟨state, ran_leaf, -⟩ := Option.bind_eq_some_iff.mp ran
    exact ⟨state, ran_leaf⟩
  obtain ⟨raw, ctag, cattrib, inner, ctext, read_child, rfl⟩ := Xml.run_leaf own ran_leaf
  obtain ⟨ptag, pattrib, inner', ptext, read_pinned, ran_pinned⟩ := run_pinned readable
  obtain ⟨behind, rfl, ran'⟩ := Xml.run_exchange opens ran_leaf ran_pinned ran
  refine ⟨_, (fromstring_iff lexed').mpr ran', ?_⟩
  simp only [Xml.Frame.element, Xml.Frame.holding, List.singleton_append, Xml.gather_element]
  have local_child := (local_name_of_element named read_child).trans local_tag
  refine ⟨.child local_child ((local_name_of_element named read_pinned).trans local_tag) rfl rfl
    rfl, ?_⟩
  simp [Element.named, Element.children, Xml.with_tail, Element.tag, local_child]

/-- The local name of the root. -/
theorem local_name_of_root {opening : List Token} {tag raw : Str} {root : Xml.Frame lexicon.Scope}
    (ran : run lexicon (.prolog true) (opening ++ [.start tag raw]) = some (.inside root []))
    (named : Name tag) : local_name root.tag = Xml.local_part tag := by
  obtain ⟨-, -, fresh, -, opened⟩ := starts_of_run ran
  obtain ⟨⟨rtag, attrib, inner⟩, read, rfl⟩ := Option.map_eq_some_iff.mp opened
  exact local_name_of_element named read

/-- A child is put before those the root has. -/
theorem tree_of_absent {name : String} {s tag raw : Str} {opening closing : List Token}
    {root : Xml.Frame lexicon.Scope} {element : Element} (pinnable : Pinnable name)
    (plain : ∀ c ∈ content, c ≠ lt)
    (lexed : tokens s = some (opening ++ .start tag raw :: closing))
    (opens : run lexicon (.prolog true) (opening ++ [.start tag raw]) = some (.inside root []))
    (absent : element.named name = []) (request : local_name element.tag = Str.of "request")
    (readable : Readable lexicon root.scope (qualifier tag ++ Str.of name) content)
    (read : Xml.fromstring lexicon s = some element) :
    ∃ element', Xml.fromstring lexicon (source (opening ++ .start tag raw ::
        (pinned (qualifier tag ++ Str.of name) content ++ closing))) = some element' ∧
      PinnedTree (Str.of name) element element' := by
  obtain ⟨rfl, sequence⟩ := Xml.tokens_iff.mp lexed
  have ran := (fromstring_iff lexed).mp read
  have whole := sequence.whole (.start tag raw) (by simp)
  have named := Xml.name_of_whole whole rfl
  obtain ⟨no_pieces, -⟩ := starts_of_run opens
  obtain ⟨ptag, pattrib, inner, ptext, read_pinned, ran_pinned⟩ := run_pinned readable
  have nothing : run lexicon (.inside root []) [] =
      some (.inside (root.holding (root.pieces ++ [])) []) := by
    rw [List.append_nil]
    rfl
  rw [List.append_cons, ← List.nil_append closing] at ran
  obtain ⟨behind, rfl, ran'⟩ := Xml.run_exchange opens nothing ran_pinned ran
  have local_tag : Xml.local_part tag = Str.of "request" :=
    (local_name_of_root opens named).symm.trans request
  have free : colon ∉ Str.of "request" := by decide
  obtain ⟨local_name_is, within⟩ := qualified_name local_tag free pinnable.free
  have named' := name_of_qualifier pinnable named within
  rw [List.append_cons, ← List.nil_append closing] at sequence
  have lexed' := Xml.tokens_iff.mpr
    ⟨rfl, sequence.replace (sequence_pinned named' plain) (bracketed_tags ..)⟩
  rw [List.append_cons]
  refine ⟨_, (fromstring_iff lexed').mpr ran', ?_⟩
  simp only [Xml.Frame.element, Xml.Frame.holding, no_pieces, List.nil_append,
    List.singleton_append, Xml.gather] at absent ⊢
  have gone : Xml.given [] = none := rfl
  rw [gone]
  refine .absent (fun other member same => ?_)
    ((local_name_of_element named' read_pinned).trans local_name_is) rfl rfl
  have listed := List.filter_eq_nil_iff.mp absent other member
  simp [same] at listed

/-- A child is put into a root that is empty. -/
theorem tree_of_empty {name : String} {s tag raw : Str} {opening closing : List Token}
    {root : Xml.Frame lexicon.Scope} {element : Element} (pinnable : Pinnable name)
    (plain : ∀ c ∈ content, c ≠ lt)
    (lexed : tokens s = some (opening ++ .empty tag raw :: closing))
    (opens : run lexicon (.prolog true) (opening ++ [.start tag raw]) = some (.inside root []))
    (request : local_name element.tag = Str.of "request")
    (readable : Readable lexicon root.scope (qualifier tag ++ Str.of name) content)
    (read : Xml.fromstring lexicon s = some element) :
    ∃ element', Xml.fromstring lexicon (source (opening ++ .start tag raw ::
        (pinned (qualifier tag ++ Str.of name) content ++ .close tag [] :: closing))) =
        some element' ∧ PinnedTree (Str.of name) element element' ∧ element.named name = [] := by
  obtain ⟨rfl, sequence⟩ := Xml.tokens_iff.mp lexed
  have ran := (fromstring_iff lexed).mp read
  have whole := sequence.whole (.empty tag raw) (by simp)
  have named := Xml.name_of_whole whole rfl
  obtain ⟨no_pieces, own_name, fresh, before, opened⟩ := starts_of_run opens
  obtain ⟨found, read_root, root_is⟩ := Option.map_eq_some_iff.mp opened
  obtain ⟨ptag, pattrib, inner, ptext, read_pinned, ran_pinned⟩ := run_pinned readable
  have steps : Xml.step lexicon (.prolog fresh) (.empty tag raw) = some (.epilog root.element) := by
    simp [Xml.step, opened]
  rw [Xml.run_append, before, Option.bind_some, Xml.run_cons, steps, Option.bind_some] at ran
  obtain ⟨rfl, -⟩ : element = root.element ∧
      run lexicon (.epilog root.element) closing = some (.epilog root.element) :=
    Xml.run_epilog ran
  have local_tag : Xml.local_part tag = Str.of "request" :=
    (local_name_of_root opens named).symm.trans request
  have free : colon ∉ Str.of "request" := by decide
  obtain ⟨local_name_is, within⟩ := qualified_name local_tag free pinnable.free
  have named' := name_of_qualifier pinnable named within
  have start := Xml.whole_start_of_empty whole (lexicon.element_raw _ _ _ _ read_root)
  have inside : Sequence (.start tag raw ::
      (pinned (qualifier tag ++ Str.of name) content ++ [.close tag []])) := by
    refine Xml.sequence_cons.mpr ⟨start, Xml.sequence_append.mpr
      ⟨sequence_pinned named' plain, ?_, fun a _ b there both => ?_⟩, fun b _ both => ?_⟩
    · simp [Xml.sequence_cons, Xml.whole_close named, Xml.sequence_nil, Token.is_text]
    · cases there
      cases both.2
    · cases both.1
  have parts : Sequence (opening ++ ([.empty tag raw] ++ closing)) := sequence
  have lexed' := Xml.tokens_iff.mpr ⟨rfl, parts.replace inside (bracketed_tags ..)⟩
  have closes (pieces : List Xml.Piece) : Xml.step lexicon (.inside (root.holding pieces) [])
      (.close tag []) = some (.epilog (root.holding pieces).element) := by
    simp [Xml.step, Xml.ends, Xml.Frame.holding, own_name]
  obtain ⟨-, ran'⟩ : root.element = root.element ∧ run lexicon (.epilog (root.holding
      (root.pieces ++ [.element (.node ptag pattrib ptext [] none)])).element) closing =
        some (.epilog (root.holding
          (root.pieces ++ [.element (.node ptag pattrib ptext [] none)])).element) :=
    Xml.run_epilog ran
  have shape : opening ++ .start tag raw ::
      (pinned (qualifier tag ++ Str.of name) content ++ .close tag [] :: closing) =
        opening ++ (.start tag raw :: (pinned (qualifier tag ++ Str.of name) content ++
          [.close tag []]) ++ closing) := by simp
  have whole_run : run lexicon (.prolog true) (opening ++ .start tag raw ::
      (pinned (qualifier tag ++ Str.of name) content ++ .close tag [] :: closing)) =
        some (.epilog (root.holding
          (root.pieces ++ [.element (.node ptag pattrib ptext [] none)])).element) := by
    rw [List.append_cons, Xml.run_append, opens, Option.bind_some, Xml.run_append, ran_pinned,
      Option.bind_some, Xml.run_cons, closes, Option.bind_some, ran']
  rw [← shape] at lexed'
  refine ⟨_, (fromstring_iff lexed').mpr whole_run, ?_⟩
  simp only [Xml.Frame.element, Xml.Frame.holding, no_pieces, List.nil_append, Xml.gather]
  have gone : Xml.given [] = none := rfl
  rw [gone]
  exact ⟨.absent (by simp) ((local_name_of_element named' read_pinned).trans local_name_is) rfl
    rfl, rfl⟩

/-! ## Pinned trees -/

section Trees

variable {element element' : Element}

theorem PinnedTree.root (pinned : PinnedTree name element element') :
    element'.tag = element.tag ∧ element'.attrib = element.attrib ∧
      element'.tail = element.tail := by
  cases pinned with
  | child => exact ⟨rfl, rfl, rfl⟩
  | absent => exact ⟨rfl, rfl, rfl⟩

/-- Children of other names are the same, in the same order. -/
theorem PinnedTree.others (pinned : PinnedTree name element element') {p : Element → Bool}
    (other : ∀ child, local_name child.tag = name → p child = false) :
    element'.children.filter p = element.children.filter p := by
  cases pinned with
  | child own own' no_children no_children' tail =>
    simp [Element.children, other _ own, other _ own']
  | absent none own no_children tail => simp [Element.children, other _ own]

theorem PinnedTree.named_other {name other : String} (differ : Str.of other ≠ Str.of name)
    (pinned : PinnedTree (Str.of name) element element') :
    element'.named other = element.named other := by
  refine pinned.others fun child own => ?_
  simp [own, Ne.symm differ]

theorem PinnedTree.text {name : String} (pinned : PinnedTree (Str.of name) element element') :
    element'.text = if (element.named name).isEmpty then none else element.text := by
  cases pinned with
  | child own own' no_children no_children' tail =>
    simp [Element.text, Element.named, Element.children, own]
  | absent none own no_children tail =>
    rw [if_pos (by simpa [Element.named, Element.children] using none)]
    rfl

/-- The child that was there has no elements in it. -/
theorem PinnedTree.leaf {name : String} (pinned : PinnedTree (Str.of name) element element')
    (once : (element.named name).length ≤ 1) :
    ∀ child ∈ element.named name, child.children = [] := by
  intro child member
  cases pinned with
  | child own own' no_children no_children' tail =>
    simp only [Element.named, Element.children, List.filter_append, List.filter_cons,
      own, decide_true, if_true, List.length_append, List.length_cons] at once member
    rcases List.mem_append.mp member with before | behind
    · have some_before := List.length_pos_of_mem before
      omega
    · rcases List.mem_cons.mp behind with rfl | after
      · exact no_children
      · have some_after := List.length_pos_of_mem after
        omega
  | absent none own no_children tail =>
    rw [Element.named, List.mem_filter] at member
    exact absurd (of_decide_eq_true member.2) (none child member.1)

end Trees

end SessionManager
