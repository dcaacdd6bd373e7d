import SessionManager.Xml.Tokens
import SessionManager.Adapter.Debugger

/-!
# Trees of XML

`ET.fromstring` builds an element from the tokens of a text without a document type.  A part of the
content of the root can be exchanged without an effect on anything else: two runs that differ in it
stay alike (`Alike.run`).
-/

namespace SessionManager.Xml

open Python (Str Code)

def colon : Code := Code.of ':'

/-- What follows the prefix of a name. -/
def local_part (name : Str) : Str :=
  if colon ∈ name then (name.dropWhile (· ≠ colon)).tail else name

/-- How tags and characters are read. -/
structure Lexicon where
  /-- The namespaces that are declared. -/
  Scope : Type
  initial : Scope
  /-- The tag, the attributes and the scope of an element with this name and these attributes, as
  they are written; none if they are not well formed. -/
  element : Scope → Str → Str → Option (Str × List (Str × Str) × Scope)
  text : Str → Option Str
  cdata : Str → Option Str
  comment : Str → Bool
  instruction : Str → Bool
  /-- What the text may begin with. -/
  declaration : Str → Bool
  /-- The prefix of a name is replaced by its namespace in braces. -/
  element_tag : ∀ scope name raw tag attrib inner,
    element scope name raw = some (tag, attrib, inner) →
      tag = local_part name ∨
        ∃ uri, tag = Str.of "\x7b" ++ (uri ++ (Str.of "\x7d" ++ local_part name))
  /-- What is written in a tag ends with quotes or with white space. -/
  element_raw : ∀ scope name raw found, element scope name raw = some found →
    raw.getLast? ≠ some slash

/-! ## Content -/

/-- Characters or an element without its tail. -/
inductive Piece
  | chars (s : Str)
  | element (element : Element)

/-- The `text` or the `tail` for these characters. -/
def given (s : Str) : Option Str := if s = [] then none else some s

def with_tail (s : Str) : Element → Element
  | .node tag attrib text children _ => .node tag attrib text children (given s)

/-- The characters before the first element, and the elements with those after them. -/
def gather : List Piece → Str × List Element
  | [] => ([], [])
  | .chars s :: pieces => (s ++ (gather pieces).1, (gather pieces).2)
  | .element element :: pieces => ([], with_tail (gather pieces).1 element :: (gather pieces).2)

/-- An element that has not ended. -/
structure Frame (Scope : Type) where
  name : Str
  tag : Str
  attrib : List (Str × Str)
  scope : Scope
  pieces : List Piece

variable {Scope : Type}

def Frame.push (piece : Piece) (frame : Frame Scope) : Frame Scope :=
  { frame with pieces := frame.pieces ++ [piece] }

def Frame.element (frame : Frame Scope) : Element :=
  .node frame.tag frame.attrib (given (gather frame.pieces).1) (gather frame.pieces).2 none

/-! ## Building the tree -/

inductive State (Scope : Type)
  /-- Before the root; whether nothing has been read yet. -/
  | prolog (fresh : Bool)
  /-- The root, and the elements that have not ended in it, the innermost first. -/
  | inside (root : Frame Scope) (inner : List (Frame Scope))
  | epilog (root : Element)

def put (piece : Piece) (root : Frame Scope) : List (Frame Scope) → State Scope
  | [] => .inside (root.push piece) []
  | frame :: inner => .inside root (frame.push piece :: inner)

def ends (name raw : Str) (frame : Frame Scope) : Bool := name == frame.name && raw.all space

def byte_order_mark : Code := Code.of '\uFEFF'

variable (lexicon : Lexicon)

def frame_of (scope : lexicon.Scope) (name raw : Str) : Option (Frame lexicon.Scope) :=
  (lexicon.element scope name raw).map fun found =>
    { name, tag := found.1, attrib := found.2.1, scope := found.2.2, pieces := [] }

def step : State lexicon.Scope → Token → Option (State lexicon.Scope)
  | .prolog _, .start name raw => (frame_of lexicon lexicon.initial name raw).map (.inside · [])
  | .prolog _, .empty name raw =>
    (frame_of lexicon lexicon.initial name raw).map fun frame => .epilog frame.element
  | .prolog fresh, .text raw =>
    if fresh && raw == [byte_order_mark] then some (.prolog true)
    else if (if fresh && raw.head? == some byte_order_mark then raw.tail else raw).all space then
      some (.prolog false)
    else none
  | .prolog fresh, .instruction raw =>
    if lexicon.instruction raw || (fresh && lexicon.declaration raw) then some (.prolog false)
    else none
  | .prolog _, .comment raw => if lexicon.comment raw then some (.prolog false) else none
  | .prolog _, _ => none
  | .inside root inner, .start name raw =>
    (frame_of lexicon (inner.headD root).scope name raw).map fun frame =>
      .inside root (frame :: inner)
  | .inside root inner, .empty name raw =>
    (frame_of lexicon (inner.headD root).scope name raw).map fun frame =>
      put (.element frame.element) root inner
  | .inside root [], .close name raw =>
    if ends name raw root then some (.epilog root.element) else none
  | .inside root (frame :: inner), .close name raw =>
    if ends name raw frame then some (put (.element frame.element) root inner) else none
  | .inside root inner, .text raw => (lexicon.text raw).map fun s => put (.chars s) root inner
  | .inside root inner, .cdata raw => (lexicon.cdata raw).map fun s => put (.chars s) root inner
  | .inside root inner, .comment raw =>
    if lexicon.comment raw then some (.inside root inner) else none
  | .inside root inner, .instruction raw =>
    if lexicon.instruction raw then some (.inside root inner) else none
  | .epilog root, .text raw => if raw.all space then some (.epilog root) else none
  | .epilog root, .comment raw => if lexicon.comment raw then some (.epilog root) else none
  | .epilog root, .instruction raw => if lexicon.instruction raw then some (.epilog root) else none
  | .epilog _, _ => none

def run (state : State lexicon.Scope) (ts : List Token) : Option (State lexicon.Scope) :=
  ts.foldlM (step lexicon) state

def State.root : State Scope → Option Element
  | .epilog root => some root
  | _ => none

/-- `ET.fromstring` for a text without a document type. -/
def fromstring (s : Str) : Option Element :=
  (tokens s).bind fun ts => (run lexicon (.prolog true) ts).bind State.root

variable {lexicon}

theorem run_append (state : State lexicon.Scope) (as bs : List Token) :
    run lexicon state (as ++ bs) = (run lexicon state as).bind fun found => run lexicon found bs :=
  List.foldlM_append

theorem run_cons (state : State lexicon.Scope) (tok : Token) (ts : List Token) :
    run lexicon state (tok :: ts) =
      (step lexicon state tok).bind fun found => run lexicon found ts :=
  List.foldlM_cons

/-! ## A part of the content of the root -/

def Frame.holding (frame : Frame Scope) (pieces : List Piece) : Frame Scope := { frame with pieces }

/-- Two states that differ in the root, which holds one part in one of them and the other in the
other, with the same before and behind. -/
inductive Alike (root : Frame Scope) (before part part' : List Piece) :
    State Scope → State Scope → Prop
  | inside (behind : List Piece) (inner : List (Frame Scope)) :
    Alike root before part part' (.inside (root.holding (before ++ (part ++ behind))) inner)
      (.inside (root.holding (before ++ (part' ++ behind))) inner)
  | epilog (behind : List Piece) :
    Alike root before part part' (.epilog (root.holding (before ++ (part ++ behind))).element)
      (.epilog (root.holding (before ++ (part' ++ behind))).element)

variable {root : Frame Scope} {before part part' : List Piece}

theorem Alike.put (piece : Piece) (behind : List Piece) (inner : List (Frame Scope)) :
    Alike root before part part'
      (Xml.put piece (root.holding (before ++ (part ++ behind))) inner)
      (Xml.put piece (root.holding (before ++ (part' ++ behind))) inner) := by
  cases inner with
  | nil =>
    have longer : Alike root before part part'
        (.inside (root.holding (before ++ (part ++ (behind ++ [piece])))) [])
        (.inside (root.holding (before ++ (part' ++ (behind ++ [piece])))) []) := .inside _ _
    simpa [Xml.put, Frame.push, Frame.holding] using longer
  | cons frame inner => exact .inside behind _

variable {root : Frame lexicon.Scope}

theorem scope_alike (behind : List Piece) (inner : List (Frame lexicon.Scope)) :
    (inner.headD (root.holding (before ++ (part ++ behind)))).scope =
      (inner.headD (root.holding (before ++ (part' ++ behind)))).scope := by
  cases inner with
  | nil => rfl
  | cons frame inner => rfl

/-- A token leads from states that are alike to such states. -/
theorem Alike.step {state state' next : State lexicon.Scope} {tok : Token}
    (alike : Alike root before part part' state state')
    (goes : Xml.step lexicon state tok = some next) :
    ∃ next', Xml.step lexicon state' tok = some next' ∧
      Alike root before part part' next next' := by
  cases alike with
  | epilog behind =>
    cases tok with
    | text raw =>
      simp only [Xml.step] at goes ⊢
      split_ifs at goes ⊢
      cases goes
      exact ⟨_, rfl, .epilog behind⟩
    | comment raw =>
      simp only [Xml.step] at goes ⊢
      split_ifs at goes ⊢
      cases goes
      exact ⟨_, rfl, .epilog behind⟩
    | instruction raw =>
      simp only [Xml.step] at goes ⊢
      split_ifs at goes ⊢
      cases goes
      exact ⟨_, rfl, .epilog behind⟩
    | start name raw | empty name raw | close name raw | cdata raw => cases goes
  | inside behind inner =>
    cases tok with
    | start name raw =>
      rw [Xml.step, scope_alike] at goes
      obtain ⟨frame, opened, rfl⟩ := Option.map_eq_some_iff.mp goes
      exact ⟨_, by rw [Xml.step, opened]; rfl, .inside behind _⟩
    | empty name raw =>
      rw [Xml.step, scope_alike] at goes
      obtain ⟨frame, opened, rfl⟩ := Option.map_eq_some_iff.mp goes
      exact ⟨_, by rw [Xml.step, opened]; rfl, .put _ behind inner⟩
    | close name raw =>
      cases inner with
      | nil =>
        have same : ends name raw (root.holding (before ++ (part' ++ behind))) =
            ends name raw (root.holding (before ++ (part ++ behind))) := rfl
        rw [Xml.step] at goes
        rw [Xml.step, same]
        split_ifs at goes ⊢
        cases goes
        exact ⟨_, rfl, .epilog behind⟩
      | cons frame inner =>
        rw [Xml.step] at goes ⊢
        split_ifs at goes ⊢
        cases goes
        exact ⟨_, rfl, .put _ behind inner⟩
    | text raw | cdata raw =>
      rw [Xml.step] at goes ⊢
      obtain ⟨s, decoded, rfl⟩ := Option.map_eq_some_iff.mp goes
      exact ⟨_, by rw [decoded]; rfl, .put _ behind inner⟩
    | comment raw | instruction raw =>
      rw [Xml.step] at goes ⊢
      split_ifs at goes ⊢
      cases goes
      exact ⟨_, rfl, .inside behind inner⟩

/-- So does a whole run. -/
theorem Alike.run {state state' last : State lexicon.Scope} {ts : List Token}
    (alike : Alike root before part part' state state')
    (ran : Xml.run lexicon state ts = some last) :
    ∃ last', Xml.run lexicon state' ts = some last' ∧
      Alike root before part part' last last' := by
  induction ts generalizing state state' with
  | nil =>
    cases ran
    exact ⟨state', rfl, alike⟩
  | cons tok ts ih =>
    rw [run_cons] at ran
    obtain ⟨middle, goes, rest⟩ := Option.bind_eq_some_iff.mp ran
    obtain ⟨middle', goes', alike'⟩ := alike.step goes
    obtain ⟨last', rest', alike_last⟩ := ih alike' rest
    refine ⟨last', ?_, alike_last⟩
    rw [run_cons, goes', Option.bind_some, rest']

/-- What the root holds in one place can be exchanged: everything before and behind it stays. -/
theorem run_exchange {start : State lexicon.Scope} {opening middle others closing : List Token}
    {element : Element} (opens : run lexicon start opening = some (.inside root []))
    (holds : run lexicon (.inside root []) middle =
      some (.inside (root.holding (root.pieces ++ part)) []))
    (holds' : run lexicon (.inside root []) others =
      some (.inside (root.holding (root.pieces ++ part')) []))
    (ran : run lexicon start (opening ++ (middle ++ closing)) = some (.epilog element)) :
    ∃ behind, element = (root.holding (root.pieces ++ (part ++ behind))).element ∧
      run lexicon start (opening ++ (others ++ closing)) =
        some (.epilog (root.holding (root.pieces ++ (part' ++ behind))).element) := by
  have alike : Alike root root.pieces part part'
      (.inside (root.holding (root.pieces ++ part)) [])
      (.inside (root.holding (root.pieces ++ part')) []) := by
    have own : Alike root root.pieces part part'
        (.inside (root.holding (root.pieces ++ (part ++ []))) [])
        (.inside (root.holding (root.pieces ++ (part' ++ []))) []) := .inside [] []
    simpa using own
  rw [run_append, opens, Option.bind_some, run_append, holds, Option.bind_some] at ran
  obtain ⟨last, ran', alike_last⟩ := alike.run ran
  cases alike_last with
  | epilog behind =>
    refine ⟨behind, rfl, ?_⟩
    rw [run_append, opens, Option.bind_some, run_append, holds', Option.bind_some, ran']

/-- Nothing behind the root depends on it. -/
theorem run_epilog {element element' last : Element} {ts : List Token}
    (ran : run lexicon (.epilog element) ts = some (.epilog last)) :
    last = element ∧ run lexicon (.epilog element') ts = some (.epilog element') := by
  induction ts with
  | nil =>
    cases ran
    exact ⟨rfl, rfl⟩
  | cons tok ts ih =>
    rw [run_cons] at ran ⊢
    obtain ⟨middle, goes, rest⟩ := Option.bind_eq_some_iff.mp ran
    have stays : middle = .epilog element ∧
        step lexicon (.epilog element') tok = some (.epilog element') := by
      cases tok with
      | text raw | comment raw | instruction raw =>
        simp only [step] at goes ⊢
        split_ifs at goes ⊢
        cases goes
        exact ⟨rfl, rfl⟩
      | start name raw | empty name raw | close name raw | cdata raw => cases goes
    obtain ⟨rfl, goes'⟩ := stays
    rw [goes', Option.bind_some]
    exact ih rest

theorem gather_element (pieces : List Piece) (element : Element) (behind : List Piece) :
    gather (pieces ++ .element element :: behind) =
      ((gather pieces).1,
        (gather pieces).2 ++ with_tail (gather behind).1 element :: (gather behind).2) := by
  induction pieces with
  | nil => rfl
  | cons piece pieces ih =>
    cases piece with
    | chars s => rw [List.cons_append, gather, ih]; rfl
    | element other => rw [List.cons_append, gather, ih]; rfl

/-! ## Elements without elements -/

/-- The tokens of an element of this name that has no elements in it. -/
inductive Leaf (name : Str) : List Token → Prop
  | empty (raw : Str) : Leaf name [.empty name raw]
  | pair (raw raw' : Str) {inner : List Token} : (∀ tok ∈ inner, tok.tags = false) →
    Leaf name (.start name raw :: (inner ++ [.close name raw']))

theorem gather_chars {pieces : List Piece} (chars : ∀ piece ∈ pieces, ∃ s, piece = .chars s) :
    (gather pieces).2 = [] := by
  induction pieces with
  | nil => rfl
  | cons piece pieces ih =>
    obtain ⟨⟨s, rfl⟩, others⟩ := List.forall_mem_cons.mp chars
    exact ih others

/-- Between tags the innermost element gets characters. -/
theorem run_between {frame : Frame lexicon.Scope} {ts : List Token} {last : State lexicon.Scope}
    (between : ∀ tok ∈ ts, tok.tags = false)
    (chars : ∀ piece ∈ frame.pieces, ∃ s, piece = .chars s)
    (ran : run lexicon (.inside root [frame]) ts = some last) :
    ∃ pieces, last = .inside root [frame.holding pieces] ∧
      ∀ piece ∈ pieces, ∃ s, piece = .chars s := by
  induction ts generalizing frame with
  | nil =>
    cases ran
    exact ⟨frame.pieces, rfl, chars⟩
  | cons tok ts ih =>
    obtain ⟨own, others⟩ := List.forall_mem_cons.mp between
    rw [run_cons] at ran
    obtain ⟨middle, goes, rest⟩ := Option.bind_eq_some_iff.mp ran
    have longer (s : Str) : ∀ piece ∈ (frame.push (.chars s)).pieces, ∃ s, piece = .chars s := by
      intro piece member
      rcases List.mem_append.mp member with member | member
      · exact chars piece member
      · exact ⟨s, List.mem_singleton.mp member⟩
    cases tok with
    | start name raw | empty name raw | close name raw => cases own
    | text raw | cdata raw =>
      simp only [step] at goes
      obtain ⟨s, decoded, rfl⟩ := Option.map_eq_some_iff.mp goes
      obtain ⟨pieces, same, all⟩ := ih others (longer s) rest
      exact ⟨pieces, same, all⟩
    | comment raw | instruction raw =>
      simp only [step] at goes
      split_ifs at goes
      cases goes
      exact ih others chars rest

/-- Such an element is put into the root, with the tag that its name has there. -/
theorem run_leaf {name : Str} {ts : List Token} {last : State lexicon.Scope} (leaf : Leaf name ts)
    (ran : run lexicon (.inside root []) ts = some last) :
    ∃ raw tag attrib inner text, lexicon.element root.scope name raw = some (tag, attrib, inner) ∧
      last = .inside (root.holding
        (root.pieces ++ [.element (.node tag attrib text [] none)])) [] := by
  cases leaf with
  | empty raw =>
    rw [run_cons] at ran
    obtain ⟨middle, goes, rest⟩ := Option.bind_eq_some_iff.mp ran
    cases rest
    simp only [step] at goes
    obtain ⟨frame, opened, rfl⟩ := Option.map_eq_some_iff.mp goes
    obtain ⟨⟨tag, attrib, inner⟩, read, rfl⟩ := Option.map_eq_some_iff.mp opened
    exact ⟨raw, tag, attrib, inner, none, read, rfl⟩
  | pair raw raw' between =>
    rw [run_cons] at ran
    obtain ⟨first, goes, rest⟩ := Option.bind_eq_some_iff.mp ran
    simp only [step] at goes
    obtain ⟨frame, opened, rfl⟩ := Option.map_eq_some_iff.mp goes
    obtain ⟨⟨tag, attrib, inner⟩, read, rfl⟩ := Option.map_eq_some_iff.mp opened
    rw [run_append] at rest
    obtain ⟨second, reads, closes⟩ := Option.bind_eq_some_iff.mp rest
    obtain ⟨pieces, rfl, chars⟩ := run_between between (by simp) reads
    rw [run_cons] at closes
    obtain ⟨third, goes, rest⟩ := Option.bind_eq_some_iff.mp closes
    cases rest
    simp only [step] at goes
    split_ifs at goes
    cases goes
    refine ⟨raw, tag, attrib, inner, given (gather pieces).1, read, ?_⟩
    simp only [put, Frame.push, Frame.holding, Frame.element, gather_chars chars]

end SessionManager.Xml
