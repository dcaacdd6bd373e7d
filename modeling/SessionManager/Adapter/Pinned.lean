import SessionManager.Adapter.Envelope
import SessionManager.Adapter.Pins

/-!
# What a bound request says

A native request goes out with the alias and the session of the registration.  The elements for them
are found in the tree and written in the text, and the rest of the tree stays the same if what the
pattern finds in the text is what was found in the tree (`bind_raw_arguments_pins`).
-/

namespace SessionManager

open Python (Str)
open Xml (Token Lexicon Sequence Name source tokens run lt gt slash colon)

variable {lexicon : Lexicon} {wide : Python.Code → Bool} {name content : Str}

/-! ## Pinning in the text -/

variable (library : Library)

theorem source_append (as bs : List Token) : source (as ++ bs) = source as ++ source bs :=
  List.flatMap_append

/-- The element of this name is written anew. -/
theorem bind_child {name : String} {s tag : Str} {opening closing : List Token} {root : Element}
    {value : Python.Value} (once : (root.named name).length = 1)
    (found : element_match wide name s = some (source opening, tag, source closing))
    (escapes : xml_escape value = .ok content) :
    bind_element (library.with_xml wide lexicon) root name value s =
      .ok (source (opening ++ (pinned tag content ++ closing))) := by
  obtain ⟨child, only⟩ := List.length_eq_one_iff.mp once
  have found' : (library.with_xml wide lexicon).element name s =
      some (source opening, tag, source closing) := found
  rw [bind_element, only]
  dsimp only
  rw [found', source_append, source_append, source_pinned]
  simp [escapes]

theorem endswith_iff {s : Str} : endswith s "/>" = true ↔ ∃ u, s = u ++ [slash, gt] := by
  have ending : Str.of "/>" = [slash, gt] := rfl
  rw [endswith, ending, List.isSuffixOf_iff_suffix]
  constructor
  · rintro ⟨u, rfl⟩
    exact ⟨u, rfl⟩
  · rintro ⟨u, rfl⟩
    exact ⟨u, rfl⟩

/-- The start of an element does not end like an empty one. -/
theorem open_start {opening : List Token} {tag raw : Str} (named : Name tag)
    (no_slash : raw.getLast? ≠ some slash) :
    ¬ endswith (source (opening ++ [.start tag raw])) "/>" = true := by
  intro ends
  obtain ⟨u, shape⟩ := endswith_iff.mp ends
  have shape' : source opening ++ lt :: (tag ++ raw) ++ [gt] = u ++ [slash] ++ [gt] := by
    simpa [source, Token.source] using shape
  have last := congrArg List.getLast? (List.append_cancel_right shape')
  rw [List.getLast?_concat] at last
  cases raw with
  | nil =>
    rw [List.append_nil, List.append_cons, List.getLast?_append_of_ne_nil _ named.1] at last
    exact (Xml.plain_of_name_char (named.2 slash (List.mem_of_getLast? last))).2.2.2.1 rfl
  | cons d raw =>
    rw [← List.cons_append, ← List.append_assoc,
      List.getLast?_append_of_ne_nil _ (List.cons_ne_nil d raw)] at last
    exact no_slash last

theorem bind_opened {name : String} {s opened tag rest : Str} {root : Element}
    {value : Python.Value} {library : RawLibrary} (absent : root.named name = [])
    (opens : open_request library s = .ok (opened, tag, rest))
    (escapes : xml_escape value = .ok content) :
    bind_element library root name value s =
      .ok (opened ++ tagged (qualifier tag ++ Str.of name) content ++ rest) := by
  rw [bind_element, absent]
  dsimp only
  rw [opens, escapes]
  rfl

/-- The element of this name is put behind the opening tag. -/
theorem bind_absent {name : String} {s tag raw : Str} {opening closing : List Token}
    {root : Element} {value : Python.Value} (named : Name tag)
    (no_slash : raw.getLast? ≠ some slash) (absent : root.named name = [])
    (found : opening_match wide s =
      some (source (opening ++ [.start tag raw]), tag, source closing))
    (escapes : xml_escape value = .ok content) :
    bind_element (library.with_xml wide lexicon) root name value s =
      .ok (source (opening ++ .start tag raw ::
        (pinned (qualifier tag ++ Str.of name) content ++ closing))) := by
  have found' : (library.with_xml wide lexicon).opening s =
      some (source (opening ++ [.start tag raw]), tag, source closing) := found
  have opens : open_request (library.with_xml wide lexicon) s =
      .ok (source (opening ++ [.start tag raw]), tag, source closing) := by
    rw [open_request, found']
    dsimp only
    rw [if_neg (open_start named no_slash)]
  have spelled : source (opening ++ .start tag raw ::
      (pinned (qualifier tag ++ Str.of name) content ++ closing)) =
        source (opening ++ [.start tag raw]) ++
          tagged (qualifier tag ++ Str.of name) content ++ source closing := by
    rw [List.append_cons, source_append (opening ++ [_]), source_append (pinned ..), source_pinned,
      List.append_assoc]
  rw [bind_opened absent opens escapes, spelled]

/-- The opening tag of an empty request, which gets a closing tag. -/
theorem open_empty {s u tag rest : Str}
    (found : opening_match wide s = some (u ++ [slash, gt], tag, rest)) :
    open_request (library.with_xml wide lexicon) s =
      .ok (u ++ [gt], tag, lt :: slash :: (tag ++ gt :: rest)) := by
  have found' : (library.with_xml wide lexicon).opening s = some (u ++ [slash, gt], tag, rest) :=
    found
  have ends := endswith_iff.mpr ⟨u, rfl⟩
  have middle : Str.of "></" = [gt, lt, slash] := rfl
  have last : Str.of ">" = [gt] := rfl
  obtain ⟨rfl, -⟩ := opening_match_spells found
  have shape : u ++ [slash, gt] ++ rest = u ++ slash :: gt :: rest := by simp
  rw [shape] at found
  have again : (library.with_xml wide lexicon).opening
      (u ++ gt :: (lt :: slash :: (tag ++ gt :: rest))) =
        some (u ++ [gt], tag, lt :: slash :: (tag ++ gt :: rest)) :=
    opening_match_of_empty _ found
  have taken : (u ++ [slash, gt]).take ((u ++ [slash, gt]).length - 2) = u := by simp
  rw [open_request, found']
  dsimp only
  rw [if_pos ends, taken, middle, last]
  have shape' : u ++ [gt, lt, slash] ++ tag ++ [gt] ++ rest =
      u ++ gt :: (lt :: slash :: (tag ++ gt :: rest)) := by simp
  rw [shape', again]

theorem bind_empty {name : String} {s tag raw : Str} {opening closing : List Token}
    {root : Element} {value : Python.Value} (absent : root.named name = [])
    (found : opening_match wide s =
      some (source (opening ++ [.empty tag raw]), tag, source closing))
    (escapes : xml_escape value = .ok content) :
    bind_element (library.with_xml wide lexicon) root name value s =
      .ok (source (opening ++ .start tag raw ::
        (pinned (qualifier tag ++ Str.of name) content ++ .close tag [] :: closing))) := by
  have shape : source (opening ++ [.empty tag raw]) =
      source opening ++ lt :: (tag ++ raw) ++ [slash, gt] := by simp [source, Token.source]
  rw [shape] at found
  have spelled : source (opening ++ .start tag raw ::
      (pinned (qualifier tag ++ Str.of name) content ++ .close tag [] :: closing)) =
        source opening ++ lt :: (tag ++ raw) ++ [gt] ++
          tagged (qualifier tag ++ Str.of name) content ++
            lt :: slash :: (tag ++ gt :: source closing) := by
    rw [List.append_cons, source_append (opening ++ [_]), source_append (pinned ..), source_pinned]
    simp [source, Token.source]
  rw [bind_opened absent (open_empty library found) escapes, spelled]

/-- What the text becomes is what it is pinned to, and its tree is pinned. -/
theorem Pins.binds {name : String} {s s' : Str} {element root : Element} {value : Python.Value}
    (pins : Pins lexicon wide name content s s') (pinnable : Pinnable name)
    (plain : ∀ c ∈ content, c ≠ lt) (escapes : xml_escape value = .ok content)
    (read : Xml.fromstring lexicon s = some element)
    (request : local_name element.tag = Str.of "request")
    (same : (root.named name).length = (element.named name).length)
    (once : (root.named name).length ≤ 1) :
    bind_element (library.with_xml wide lexicon) root name value s = .ok s' ∧
      ∃ element', Xml.fromstring lexicon s' = some element' ∧
        PinnedTree (Str.of name) element element' := by
  cases pins with
  | child lexed opens own local_tag found readable =>
    obtain ⟨element', read', tree, some_child⟩ :=
      tree_of_child plain lexed opens own local_tag readable read
    have only : (root.named name).length = 1 := by
      have positive := List.length_pos_iff.mpr some_child
      omega
    exact ⟨bind_child library only found escapes, element', read', tree⟩
  | absent lexed opens no_child found readable =>
    have absent := no_child element read
    rw [absent, List.length_nil, List.length_eq_zero_iff] at same
    obtain ⟨-, -, fresh, -, opened⟩ := starts_of_run opens
    obtain ⟨found_root, read_root, -⟩ := Option.map_eq_some_iff.mp opened
    have sequence := (Xml.tokens_iff.mp lexed).2
    have whole := sequence.whole (.start _ _) (List.mem_append_right _ (List.mem_cons_self ..))
    have named := Xml.name_of_whole whole rfl
    exact ⟨bind_absent library named (lexicon.element_raw _ _ _ _ read_root) same found escapes,
      tree_of_absent pinnable plain lexed opens absent request readable read⟩
  | empty lexed opens found readable =>
    obtain ⟨element', read', tree, absent⟩ :=
      tree_of_empty pinnable plain lexed opens request readable read
    rw [absent, List.length_nil, List.length_eq_zero_iff] at same
    exact ⟨bind_empty library same found escapes, element', read', tree⟩

/-! ## Bound requests -/

/-- The children of the root that are not pinned. -/
def Element.others (root : Element) : List Element :=
  root.children.filter fun child =>
    local_name child.tag ≠ Str.of "infoBaseAlias" ∧ local_name child.tag ≠ Str.of "idOfDebuggerUI"

/-- The second tree has one alias and one session under its root, and is the same as the first
elsewhere.  The text before the first child stays before it if no child is put there. -/
structure PinsOnly (root root' : Element) (infobase_alias session : Str) : Prop where
  tag : root'.tag = root.tag
  attrib : root'.attrib = root.attrib
  tail : root'.tail = root.tail
  text : root'.text =
    if (root.named "infoBaseAlias").isEmpty || (root.named "idOfDebuggerUI").isEmpty then none
    else root.text
  infobase_alias : ∃ child, root'.named "infoBaseAlias" = [child] ∧ child.text = some infobase_alias
  session : ∃ child, root'.named "idOfDebuggerUI" = [child] ∧ child.text = some session
  others : root'.others = root.others
  leaves : ∀ child ∈ root.named "infoBaseAlias" ++ root.named "idOfDebuggerUI", child.children = []

theorem holds_value_iff {root : Element} {name : String} {value : Str} :
    holds_value root name (.str value) = true ↔
      ∃ child, root.named name = [child] ∧ child.text = some value := by
  unfold holds_value
  split
  · rename_i child only
    constructor
    · intro holds
      refine ⟨child, only, ?_⟩
      split at holds
      · rename_i text there
        rw [there, eq_of_beq (α := Str) holds]
      · cases holds
    · rintro ⟨child', same, text⟩
      rw [only] at same
      cases same
      rw [text]
      exact beq_self_eq_true value
  · rename_i many
    constructor
    · intro holds
      cases holds
    · rintro ⟨child, only, -⟩
      exact absurd only (many child)

theorem PinnedTree.others_same {name : String} {root root' : Element}
    (pinned : PinnedTree (Str.of name) root root')
    (own : name = "infoBaseAlias" ∨ name = "idOfDebuggerUI") : root'.others = root.others := by
  refine pinned.others fun child same => ?_
  rcases own with rfl | rfl
  · simp [same]
  · simp [same]

/-- A tree that is pinned twice, if what it holds has been checked. -/
theorem pinsOnly_of_trees {root middle root' : Element} {infobase_alias session : Str}
    (first : PinnedTree (Str.of "infoBaseAlias") root middle)
    (second : PinnedTree (Str.of "idOfDebuggerUI") middle root')
    (one_alias : (root.named "infoBaseAlias").length ≤ 1)
    (one_session : (root.named "idOfDebuggerUI").length ≤ 1)
    (has_alias : holds_value root' "infoBaseAlias" (.str infobase_alias) = true)
    (has_session : holds_value root' "idOfDebuggerUI" (.str session) = true) :
    PinsOnly root root' infobase_alias session := by
  have differ : Str.of "idOfDebuggerUI" ≠ Str.of "infoBaseAlias" := by decide
  have same_session := first.named_other differ
  refine
    { tag := second.root.1.trans first.root.1
      attrib := second.root.2.1.trans first.root.2.1
      tail := second.root.2.2.trans first.root.2.2
      text := ?_
      infobase_alias := holds_value_iff.mp has_alias
      session := holds_value_iff.mp has_session
      others := (second.others_same (.inr rfl)).trans (first.others_same (.inl rfl))
      leaves := ?_ }
  · rw [second.text, first.text, same_session]
    cases (root.named "infoBaseAlias").isEmpty <;> cases (root.named "idOfDebuggerUI").isEmpty <;>
      rfl
  · intro child member
    rcases List.mem_append.mp member with member | member
    · exact first.leaf one_alias child member
    · rw [← same_session] at member one_session
      exact second.leaf one_session child member

/-! ### Arguments -/

/-- `set` replaces the value of the key, and of no other. -/
theorem find_replaced (p : Python.Value × Python.Value → Bool) (key : String)
    (value : Python.Value) (args : Arguments) (by_key : ∀ e v, p (e, v) = p (e, value)) :
    (args.map fun entry => if is_key key entry.1 then (entry.1, value) else entry).find? p =
      (args.find? p).map fun entry => if is_key key entry.1 then (entry.1, value) else entry := by
  rw [List.find?_map]
  congr 2
  funext entry
  by_cases own : is_key key entry.1 = true
  · simp only [Function.comp_apply, own, if_true]
    exact (by_key entry.1 entry.2).symm
  · simp only [Function.comp_apply, own, Bool.false_eq_true, if_false]

theorem Arguments.get_set (key : String) (value : Python.Value) (args : Arguments) :
    (args.set key value).get key = some value := by
  unfold Arguments.set Arguments.get
  split
  · rename_i has
    obtain ⟨entry, member, own⟩ := List.any_eq_true.mp has
    rw [find_replaced _ key value args fun e v => rfl]
    obtain ⟨first, found⟩ : ∃ first, args.find? (fun entry => is_key key entry.1) = some first :=
      Option.isSome_iff_exists.mp (List.find?_isSome.mpr ⟨entry, member, own⟩)
    have own_first := List.find?_some found
    rw [found]
    simp [own_first]
  · rename_i has
    have none : args.find? (fun entry => is_key key entry.1) = none := by
      rw [List.find?_eq_none]
      intro entry member own
      exact has (List.any_eq_true.mpr ⟨entry, member, own⟩)
    have here : is_key key (Python.text key) = true := is_key_iff.mpr rfl
    simp [List.find?_append, none, here]

theorem Arguments.get_set_other {key other : String} (differ : Str.of other ≠ Str.of key)
    (value : Python.Value) (args : Arguments) :
    (args.set key value).get other = args.get other := by
  have apart {v : Python.Value} (own : is_key other v = true) : is_key key v = false := by
    rw [is_key_iff] at own
    subst own
    simpa [is_key, is_str, Python.text] using differ
  unfold Arguments.set Arguments.get
  split
  · rw [find_replaced _ key value args fun e v => rfl]
    cases found : args.find? (fun entry => is_key other entry.1) with
    | none => rfl
    | some first =>
      have own := List.find?_some found
      simp [apart own]
  · have absent : ¬ is_key other (Python.text key) = true := by
      intro own
      have here : is_key key (Python.text key) = true := is_key_iff.mpr rfl
      rw [apart own] at here
      cases here
    simp [List.find?_append, absent]

/-! ### Requests -/

/-- `xml.sax.saxutils.escape` of a string. -/
def escaped (s : Str) : Str := (xml_escape (.str s)).toOption.getD []

theorem xml_escape_str (s : Str) : xml_escape (.str s) = .ok (escaped s) := rfl

theorem plain_escaped (s : Str) : ∀ c ∈ escaped s, c ≠ lt := by
  have amp : lt ∉ Str.of "&amp;" := by decide
  have greater : lt ∉ Str.of "&gt;" := by decide
  have less : lt ∉ Str.of "&lt;" := by decide
  intro c member same
  subst same
  obtain ⟨d, -, within⟩ := List.mem_flatMap.mp (show lt ∈ s.flatMap _ from member)
  split_ifs at within with first second third
  · exact amp within
  · exact greater within
  · exact less within
  · rw [← List.mem_singleton.mp within] at third
    exact third rfl

/-- A text that is parsed: it is short enough and mentions no document type and no entities. -/
def Parsed (xml : Str) : Prop :=
  ∃ len, encoded_len xml = .ok len ∧ len ≤ 262144 ∧
    contains (Str.of "<!DOCTYPE") (library.upper xml) = false ∧
      contains (Str.of "<!ENTITY") (library.upper xml) = false

variable (lexicon wide) in
/-- A request with at most one child for the alias and one for the session can be pinned to them. -/
def Aimed (infobase_alias session xml : Str) : Prop :=
  Parsed library xml → ∀ root, Xml.fromstring lexicon xml = some root →
    local_name root.tag = Str.of "request" → (root.named "infoBaseAlias").length ≤ 1 →
      (root.named "idOfDebuggerUI").length ≤ 1 →
        ∃ xml' xml'', Pins lexicon wide "infoBaseAlias" (escaped infobase_alias) xml xml' ∧
          Pins lexicon wide "idOfDebuggerUI" (escaped session) xml' xml''

theorem open_request_error {s : Str} {exc : Raised}
    (fails : open_request (library.with_xml wide lexicon) s = .error exc) :
    exc = .InvalidParams := by
  cases found : opening_match wide s with
  | none =>
    have found' : (library.with_xml wide lexicon).opening s = none := found
    rw [open_request, found'] at fails
    cases fails
    rfl
  | some result =>
    obtain ⟨opened, tag, rest⟩ := result
    by_cases ends : endswith opened "/>" = true
    · obtain ⟨u, rfl⟩ := endswith_iff.mp ends
      rw [open_empty library found] at fails
      cases fails
    · have found' : (library.with_xml wide lexicon).opening s = some (opened, tag, rest) := found
      rw [open_request, found'] at fails
      dsimp only at fails
      rw [if_neg ends] at fails
      cases fails

theorem bind_element_error {name : String} {root : Element} {value s : Str} {exc : Raised}
    (fails : bind_element (library.with_xml wide lexicon) root name (.str value) s = .error exc) :
    exc = .InvalidParams := by
  unfold bind_element at fails
  split at fails
  · cases opens : open_request (library.with_xml wide lexicon) s with
    | error exc' =>
      rw [opens] at fails
      cases fails
      exact open_request_error library opens
    | ok found =>
      rw [opens, xml_escape_str] at fails
      cases fails
  · split at fails
    · cases fails
      rfl
    · rw [xml_escape_str] at fails
      cases fails
  · cases fails
    rfl

theorem bind_many {name : String} {root : Element} {value : Python.Value} {s : Str}
    {library : RawLibrary} (many : 1 < (root.named name).length) :
    bind_element library root name value s = .error .InvalidParams := by
  unfold bind_element
  split
  · rename_i none
    rw [none] at many
    cases many
  · rename_i child only
    rw [only] at many
    exact absurd many (Nat.lt_irrefl 1)
  · rfl

theorem pinnable_alias : Pinnable "infoBaseAlias" := by
  have named : (Str.of "infoBaseAlias").all Xml.name_char = true := by rfl
  exact ⟨⟨by decide, List.all_eq_true.mp named⟩, by decide⟩

theorem pinnable_session : Pinnable "idOfDebuggerUI" := by
  have named : (Str.of "idOfDebuggerUI").all Xml.name_char = true := by rfl
  exact ⟨⟨by decide, List.all_eq_true.mp named⟩, by decide⟩

theorem encoded_of_clean {s : Str} (clean : s.Clean) : ∃ len, encoded_len s = .ok len :=
  ⟨_, by rw [encoded_len, if_neg clean.no_half]⟩

/-- A request is refused, or its text is the one it is pinned to. -/
theorem bind_xml_cases {binding : DebugBinding} {session xml : Str} (clean : xml.Clean)
    (aimed : Aimed lexicon wide library binding.infobase_alias session xml) :
    bind_xml (library.with_xml wide lexicon) binding (.str session) xml = .error .InvalidParams ∨
      ∃ root root' xml', Xml.fromstring lexicon xml = some root ∧
        Xml.fromstring lexicon xml' = some root' ∧
          PinsOnly root root' binding.infobase_alias session ∧
            bind_xml (library.with_xml wide lexicon) binding (.str session) xml =
              .ok (xml', (root.named "measureModeSeanceID").head?.bind Element.text) := by
  obtain ⟨len, encoded⟩ := encoded_of_clean clean
  have reads (s : Str) : (library.with_xml wide lexicon).fromstring s = Xml.fromstring lexicon s :=
    rfl
  rw [bind_xml, encoded]
  dsimp only [bind, Except.bind]
  split
  · exact .inl rfl
  rename_i passes
  simp only [Bool.or_eq_true, decide_eq_true_eq, not_or, Bool.not_eq_true, Nat.not_lt] at passes
  have parsed : Parsed library xml := ⟨len, encoded, passes.1.1, passes.1.2, passes.2⟩
  rw [reads]
  rcases read : Xml.fromstring lexicon xml with _ | root
  · exact .inl rfl
  dsimp only
  split
  · exact .inl rfl
  rename_i request
  rw [Decidable.not_not] at request
  by_cases one_alias : (root.named "infoBaseAlias").length ≤ 1
  · by_cases one_session : (root.named "idOfDebuggerUI").length ≤ 1
    · obtain ⟨xml', xml'', first, second⟩ := aimed parsed root read request one_alias
        one_session
      obtain ⟨bound, middle, read_middle, tree⟩ := first.binds library pinnable_alias
        (plain_escaped _) (xml_escape_str _) read request rfl one_alias
      have differ : Str.of "idOfDebuggerUI" ≠ Str.of "infoBaseAlias" := by decide
      have same_session := tree.named_other differ
      have request_middle : local_name middle.tag = Str.of "request" := tree.root.1 ▸ request
      obtain ⟨bound', root', read', tree'⟩ := second.binds library pinnable_session
        (plain_escaped _) (xml_escape_str _) read_middle request_middle
          (congrArg List.length same_session).symm one_session
      rw [bound]
      dsimp only
      rw [bound']
      dsimp only
      rw [reads, read']
      dsimp only
      split
      · rename_i holds
        rw [Bool.and_eq_true] at holds
        exact .inr ⟨root, root', xml'', rfl, read', pinsOnly_of_trees tree tree' one_alias
          one_session holds.1 holds.2, rfl⟩
      · exact .inl rfl
    · refine .inl ?_
      cases bound : bind_element (library.with_xml wide lexicon) root "infoBaseAlias"
          (.str binding.infobase_alias) xml with
      | error exc =>
        rw [bind_element_error library bound]
      | ok first =>
        dsimp only
        rw [bind_many (by omega)]
  · refine .inl ?_
    rw [bind_many (by omega)]

/-- `bind_raw_arguments` puts the own alias and session into a request and changes nothing else in
it, or refuses it. -/
def BindsIdentity (library : RawLibrary) (binding : DebugBinding) (session : Str)
    (arguments : Arguments) : Prop :=
  (∀ clean mode xml root,
    bind_raw_arguments library binding (.str session) arguments = .ok (clean, mode) →
      arguments.get "xml" = some (.str xml) → library.fromstring xml = some root →
        ∃ xml' root', clean.get "xml" = some (.str xml') ∧ library.fromstring xml' = some root' ∧
          PinsOnly root root' binding.infobase_alias session ∧
            clean.get "dbgui" = some (.str session) ∧
              mode = (root.named "measureModeSeanceID").head?.bind Element.text) ∧
  ∀ exc, bind_raw_arguments library binding (.str session) arguments = .error exc →
    exc = .InvalidParams

/-- The arguments have a command and a request, without half characters. -/
def HasTexts (arguments : Arguments) : Prop :=
  ∃ cmd xml, arguments.get "cmd" = some (.str cmd) ∧ arguments.get "xml" = some (.str xml) ∧
    cmd.Clean ∧ xml.Clean

theorem run_of_texts {fresh : Bool} {ts : List Token} {last : Xml.State lexicon.Scope}
    (texts : ∀ tok ∈ ts, tok.is_text = true)
    (ran : run lexicon (.prolog fresh) ts = some last) : ∃ fresh', last = .prolog fresh' := by
  induction ts generalizing fresh with
  | nil =>
    cases ran
    exact ⟨fresh, rfl⟩
  | cons tok ts ih =>
    obtain ⟨own, others⟩ := List.forall_mem_cons.mp texts
    rw [Xml.run_cons] at ran
    obtain ⟨middle, goes, rest⟩ := Option.bind_eq_some_iff.mp ran
    cases tok with
    | text raw =>
      have stays : ∃ fresh', middle = .prolog fresh' := by
        simp only [Xml.step] at goes
        split_ifs at goes <;> exact ⟨_, (Option.some.inj goes).symm⟩
      obtain ⟨fresh', rfl⟩ := stays
      exact ih others rest
    | _ => cases own

/-- A text with an element has a tag. -/
theorem lt_of_fromstring {s : Str} {root : Element}
    (read : Xml.fromstring lexicon s = some root) : lt ∈ s := by
  obtain ⟨ts, lexed, -⟩ := Option.bind_eq_some_iff.mp read
  have ran := (fromstring_iff lexed).mp read
  obtain ⟨rfl, -⟩ := Xml.tokens_iff.mp lexed
  by_contra none
  have texts : ∀ tok ∈ ts, tok.is_text = true := by
    intro tok member
    by_contra markup
    obtain ⟨inner, spells⟩ := Xml.source_of_markup (Bool.not_eq_true _ ▸ markup)
    exact none (List.mem_flatMap.mpr ⟨tok, member, by rw [spells]; exact List.mem_cons_self ..⟩)
  obtain ⟨fresh, same⟩ := run_of_texts texts ran
  cases same

theorem mem_strip {s : Str} {c : Python.Code} (member : c ∈ s) (visible : isspace c = false) :
    c ∈ strip s := by
  have kept (l : Str) (member : c ∈ l) : c ∈ l.dropWhile isspace := by
    rw [← List.takeWhile_append_dropWhile (p := isspace) (l := l)] at member
    rcases List.mem_append.mp member with blank | rest
    · rw [List.mem_takeWhile_imp blank] at visible
      cases visible
    · exact rest
  exact List.mem_reverse.mpr (kept _ (List.mem_reverse.mpr (kept s member)))

theorem quote_of_clean {s : Str} (clean : s.Clean) : ∃ quoted, quote (.str s) = .ok quoted :=
  ⟨_, by rw [quote, if_neg clean.no_half]⟩

theorem quote_error {value : Python.Value} {exc : Raised} (fails : quote value = .error exc) :
    exc = .Exception := by
  unfold quote at fails
  split at fails
  · split at fails
    · cases fails
      rfl
    · cases fails
  · cases fails
    rfl

theorem clean_of_quote {value : Python.Value} {quoted : Str} (quotes : quote value = .ok quoted) :
    ∃ s, value = .str s ∧ s.Clean := by
  unfold quote at quotes
  split at quotes
  · rename_i s
    split at quotes
    · cases quotes
    · rename_i halves
      refine ⟨s, rfl, fun c member => ?_⟩
      rw [← Bool.not_eq_true]
      exact fun half => halves (List.any_eq_true.mpr ⟨c, member, half⟩)
  · cases quotes

/-- With a command and a request, in which `cmd` can be quoted. -/
theorem bind_raw_arguments_of_texts {library : RawLibrary} {binding : DebugBinding}
    {session : Python.Value} {arguments : Arguments} {cmd : Python.Value} {xml quoted : Str}
    (has_cmd : arguments.get "cmd" = some cmd) (has_xml : arguments.get "xml" = some (.str xml))
    (quotes : quote cmd = .ok quoted) :
    bind_raw_arguments library binding session arguments =
      if (strip xml).isEmpty then
        .ok ((arguments.set "cmd" (.str quoted)).set "dbgui" session, none)
      else (bind_xml library binding session xml).bind fun found =>
        .ok (((arguments.set "cmd" (.str quoted)).set "dbgui" session).set "xml" (.str found.1),
          found.2) := by
  rw [bind_raw_arguments, has_cmd, has_xml]
  dsimp only
  rw [quotes]
  change (if (strip xml).isEmpty then _ else _ : Except Raised (Arguments × Option Str)) = _
  split
  · rfl
  · cases bind_xml library binding session xml <;> rfl

theorem binds_of_texts {binding : DebugBinding} {session : Str} {arguments : Arguments}
    (aimed : ∀ xml, arguments.get "xml" = some (.str xml) →
      Aimed lexicon wide library binding.infobase_alias session xml)
    (texts : HasTexts arguments) :
    BindsIdentity (library.with_xml wide lexicon) binding session arguments := by
  obtain ⟨cmd, xml, has_cmd, has_xml, clean_cmd, clean_xml⟩ := texts
  obtain ⟨quoted, quotes⟩ := quote_of_clean clean_cmd
  rw [BindsIdentity, bind_raw_arguments_of_texts has_cmd has_xml quotes]
  have own {other : Str} (has : arguments.get "xml" = some (.str other)) : other = xml := by
    rw [has_xml] at has
    injection has with same
    injection same with same
    exact same.symm
  split
  · rename_i blank
    refine ⟨fun clean mode other root _ has read => ?_, fun exc fails => ?_⟩
    · have read' : Xml.fromstring lexicon xml = some root := own has ▸ read
      have tagged := mem_strip (lt_of_fromstring read') (by decide)
      rw [List.isEmpty_iff.mp blank] at tagged
      cases tagged
    · cases fails
  · rcases bind_xml_cases library clean_xml (aimed xml has_xml) with
      refused | ⟨root, root', xml', read, read', pins, bound⟩
    · rw [refused]
      refine ⟨fun clean mode other root same => ?_, fun exc fails => ?_⟩
      · cases same
      · cases fails
        rfl
    · rw [bound]
      refine ⟨fun clean mode other found same has read_other => ?_, fun exc fails => ?_⟩
      · cases same
        have same_root : root = found := by
          have both : some root = some found := read.symm.trans (own has ▸ read_other)
          injection both
        subst same_root
        have differ : Str.of "dbgui" ≠ Str.of "xml" := by decide
        refine ⟨xml', root', Arguments.get_set .., read', pins, ?_, rfl⟩
        rw [Arguments.get_set_other differ, Arguments.get_set]
      · cases fails

theorem visible_of_surrogate {c : Python.Code} (half : c.surrogate = true) :
    isspace c = false := by
  rw [Python.surrogate_iff] at half
  simp only [isspace, Bool.or_eq_false_iff, Bool.and_eq_false_iff, decide_eq_false_iff_not,
    beq_eq_false_iff_ne]
  omega

/-- Without such texts another exception is raised. -/
theorem texts_of_binds {library : RawLibrary} {binding : DebugBinding} {session : Python.Value}
    {arguments : Arguments}
    (only : ∀ exc, bind_raw_arguments library binding session arguments = .error exc →
      exc = .InvalidParams) : HasTexts arguments := by
  have other : bind_raw_arguments library binding session arguments ≠ .error .Exception := by
    intro raised
    cases only _ raised
  cases has_cmd : arguments.get "cmd" with
  | none => exact absurd (by simp [bind_raw_arguments, has_cmd]) other
  | some cmd =>
    cases has_xml : arguments.get "xml" with
    | none => exact absurd (by simp [bind_raw_arguments, has_xml]) other
    | some value =>
      cases value with
      | str xml =>
        cases quotes : quote cmd with
        | error exc =>
          rw [bind_raw_arguments, has_cmd, has_xml] at other
          dsimp only at other
          rw [quotes, quote_error quotes] at other
          exact absurd rfl other
        | ok quoted =>
          obtain ⟨s, rfl, clean⟩ := clean_of_quote quotes
          refine ⟨s, xml, has_cmd, has_xml, clean, fun c member => ?_⟩
          by_contra half
          rw [Bool.not_eq_false] at half
          have some_half : xml.any Python.Code.surrogate = true :=
            List.any_eq_true.mpr ⟨c, member, half⟩
          have visible := mem_strip member (visible_of_surrogate half)
          have shown : ¬ (strip xml).isEmpty = true := by
            rw [List.isEmpty_iff]
            exact List.ne_nil_of_mem visible
          rw [bind_raw_arguments_of_texts has_cmd has_xml quotes, if_neg shown, bind_xml,
            encoded_len, if_pos some_half] at other
          exact absurd rfl other
      | _ => exact absurd (by simp [bind_raw_arguments, has_xml]) other

/-- Names without a prefix, characters without a reference, and no attributes. -/
def plain_lexicon : Lexicon where
  Scope := Unit
  initial := ()
  element _ name raw :=
    if raw.isEmpty && !name.contains colon then some (name, [], ()) else none
  text raw := if raw.contains (Python.Code.of '&') then none else some raw
  cdata raw := some raw
  comment _ := true
  instruction _ := true
  declaration _ := true
  element_tag := by
    intro scope name raw tag attrib inner read
    split at read
    · rename_i plain
      simp only [Bool.and_eq_true, Bool.not_eq_true', List.contains_eq_mem,
        decide_eq_false_iff_not] at plain
      cases read
      exact .inl (by rw [Xml.local_part, if_neg plain.2])
    · cases read
  element_raw := by
    intro scope name raw found read
    split at read
    · rename_i plain
      rw [Bool.and_eq_true, List.isEmpty_iff] at plain
      rw [plain.1]
      simp
    · cases read

def native_library : RawLibrary := plain_library.with_xml (fun _ => false) plain_lexicon

def dev_binding : DebugBinding where
  endpoint := Str.of "http://onec-infra:1550"
  infobase_alias := Str.of "DEV"
  password := none
  allowed_target_ids := []

def native_arguments (xml : Str) : Arguments :=
  [(Python.text "cmd", Python.text "getDbgTargets"), (Python.text "xml", .str xml)]

theorem readable_plain {name content : Str} (free : colon ∉ name)
    (plain : Python.Code.of '&' ∉ content) : Readable plain_lexicon () name content := by
  constructor
  · exact ⟨(name, [], ()), if_pos (by simp [free])⟩
  · intro some_text
    exact ⟨content, if_neg (by simp [plain])⟩

/-- The start of a request. -/
def request_frame : Xml.Frame plain_lexicon.Scope where
  name := Str.of "request"
  tag := Str.of "request"
  attrib := []
  scope := ()
  pieces := []

/-- The text of a request with an alias and no session. -/
def alias_xml : Str := Str.of "<request><infoBaseAlias>x</infoBaseAlias></request>"

/-- The alias is replaced. -/
theorem pins_alias : Pins plain_lexicon (fun _ => false) "infoBaseAlias" (escaped (Str.of "DEV"))
    alias_xml (source ([.start (Str.of "request") []] ++
      (pinned (Str.of "infoBaseAlias") (escaped (Str.of "DEV")) ++
        [.close (Str.of "request") []]))) := by
  have lexed : tokens alias_xml = some ([.start (Str.of "request") []] ++
      ((.start (Str.of "infoBaseAlias") [] ::
        ([.text (Str.of "x")] ++ [.close (Str.of "infoBaseAlias") []])) ++
          [.close (Str.of "request") []])) := by decide +kernel
  have opens : run plain_lexicon (.prolog true) [.start (Str.of "request") []] =
      some (.inside request_frame []) := by rfl
  have local_alias : Xml.local_part (Str.of "infoBaseAlias") = Str.of "infoBaseAlias" := by
    decide +kernel
  have found : element_match (fun _ => false) "infoBaseAlias" alias_xml =
      some (source [.start (Str.of "request") []], Str.of "infoBaseAlias",
        source [.close (Str.of "request") []]) := by decide +kernel
  exact .child lexed opens (.pair [] [] (by simp [Token.tags])) local_alias found
    (readable_plain (by decide) (by decide))

/-- The session is put before it. -/
theorem pins_session : Pins plain_lexicon (fun _ => false) "idOfDebuggerUI" (escaped (Str.of "ui"))
    (source ([.start (Str.of "request") []] ++
      (pinned (Str.of "infoBaseAlias") (escaped (Str.of "DEV")) ++
        [.close (Str.of "request") []])))
    (source ([] ++ .start (Str.of "request") [] ::
      (pinned (qualifier (Str.of "request") ++ Str.of "idOfDebuggerUI") (escaped (Str.of "ui")) ++
        (pinned (Str.of "infoBaseAlias") (escaped (Str.of "DEV")) ++
          [.close (Str.of "request") []])))) := by
  have lexed : tokens (source ([.start (Str.of "request") []] ++
      (pinned (Str.of "infoBaseAlias") (escaped (Str.of "DEV")) ++
        [.close (Str.of "request") []]))) = some ([] ++ .start (Str.of "request") [] ::
          (pinned (Str.of "infoBaseAlias") (escaped (Str.of "DEV")) ++
            [.close (Str.of "request") []])) := by decide +kernel
  have opens : run plain_lexicon (.prolog true) ([] ++ [.start (Str.of "request") []]) =
      some (.inside request_frame []) := by rfl
  have absent : (Xml.fromstring plain_lexicon (source ([.start (Str.of "request") []] ++
      (pinned (Str.of "infoBaseAlias") (escaped (Str.of "DEV")) ++
        [.close (Str.of "request") []])))).map (fun root =>
          (root.named "idOfDebuggerUI").length) = some 0 := by decide +kernel
  have found : opening_match (fun _ => false) (source ([.start (Str.of "request") []] ++
      (pinned (Str.of "infoBaseAlias") (escaped (Str.of "DEV")) ++
        [.close (Str.of "request") []]))) =
      some (source ([] ++ [.start (Str.of "request") []]), Str.of "request",
        source (pinned (Str.of "infoBaseAlias") (escaped (Str.of "DEV")) ++
          [.close (Str.of "request") []])) := by decide +kernel
  refine .absent lexed opens (fun root read => ?_) found (readable_plain ?_ (by decide))
  · rw [Option.mem_def.mp read, Option.map_some] at absent
    injection absent with none
    exact List.length_eq_zero_iff.mp none
  · decide +kernel

/-- An element of that name that is no child of the root stands before the alias. -/
def nested_xml : Str :=
  Str.of "<request><a><infoBaseAlias>x</infoBaseAlias></a>" ++
    Str.of "<infoBaseAlias>DEV</infoBaseAlias><idOfDebuggerUI>ui</idOfDebuggerUI></request>"

def nested_xml_bound : Str :=
  Str.of "<request><a><infoBaseAlias>DEV</infoBaseAlias></a>" ++
    Str.of "<infoBaseAlias>DEV</infoBaseAlias><idOfDebuggerUI>ui</idOfDebuggerUI></request>"

/-- What the elements in the children that are not pinned say. -/
def others_texts (root : Element) : List (List (Option Str)) :=
  root.others.map fun child => child.children.map Element.text

end SessionManager
