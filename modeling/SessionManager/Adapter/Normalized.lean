import SessionManager.Adapter.Envelope

/-!
# What `normalize` decodes

The values `normalize` would visit, in the order in which it visits them, decide how it ends: it
raises what the first value it refuses makes it raise, and if there is none it has visited them
all.  What it returns then is decoded throughout (`Decodes`).
-/

namespace SessionManager

open Python (Str Entries)

variable (library : Library)

/-! ## Visits -/

/-- A value with the levels that are left for it, or an element for which none is left. -/
inductive Visit
  | value (left : Nat) (v : Python.Value)
  | element

/-- The `depth` or the `level` of a visit. -/
def Visit.depth : Visit → Nat
  | .value left _ => 25 - left
  | .element => 25

/-- What is raised for the value itself. -/
def own_refusal : Python.Value → Option Raised
  | .str s =>
    match decoded library s with
    | .error exc => some exc
    | .ok _ => none
  | .float (.finite _) => none
  | .float _ => some .UnsupportedContent
  | _ => none

/-- What is raised at a visit that has so many before it. -/
def Visit.refusal (earlier : Nat) : Visit → Option Raised
  | .element => some .UnsupportedContent
  | .value 0 _ => some .UnsupportedContent
  | .value (_ + 1) v =>
    if earlier + 1 > 20000 then some .UnsupportedContent else own_refusal library v

mutual

/-- The visits of a value. -/
def value_visits : Nat → Python.Value → List Visit
  | 0, value => [.value 0 value]
  | left + 1, value => .value (left + 1) value ::
    match value with
    | .dict entries => entries.flatMap fun entry => value_visits left entry.2
    | .list items => items.flatMap fun item => value_visits left item
    | .str s =>
      match decoded library s with
      | .ok (.json parsed) => value_visits left parsed
      | .ok (.xml element) => element_visits left element
      | _ => []
    | _ => []

def element_visits : Nat → Element → List Visit
  | 0, _ => [.element]
  | left + 1, .node _ attrib text children tail =>
    value_visits left (.dict (attrib.map fun entry => (entry.1, .str entry.2))) ++
      (value_visits left (.str (text.getD [])) ++
        ((children.flatMap fun child => element_visits left child) ++
          value_visits left (.str (tail.getD []))))

end

/-- The first refusal in a list of visits that has so many before it. -/
def first_refusal : Nat → List Visit → Option Raised
  | _, [] => none
  | earlier, visit :: rest =>
    match visit.refusal library earlier with
    | some exc => some exc
    | none => first_refusal (earlier + 1) rest

/-! ## Results -/

mutual

/-- What a value is decoded to.  A string stays only if decoding it gives it back. -/
inductive Decodes : Python.Value → Python.Value → Prop
  | None : Decodes .None .None
  | bool (b : Bool) : Decodes (.bool b) (.bool b)
  | int (n : Int) : Decodes (.int n) (.int n)
  | float (text : String) : Decodes (.float (.finite text)) (.float (.finite text))
  | text {s : Str} : normalized library (.str s) = .ok (.str s) → Decodes (.str s) (.str s)
  | json {s : Str} {parsed result : Python.Value} : decoded library s = .ok (.json parsed) →
    Decodes parsed result → Decodes (.str s) result
  | xml {s : Str} {element : Element} {result : Python.Value} :
    decoded library s = .ok (.xml element) → DecodesElement element result → Decodes (.str s) result
  | list {items results : List Python.Value} : items.length = results.length →
    (∀ item result, (item, result) ∈ items.zip results → Decodes item result) →
      Decodes (.list items) (.list results)
  | dict {entries results : Entries} : entries.map Prod.fst = results.map Prod.fst →
    (∀ entry result, (entry, result) ∈ entries.zip results → Decodes entry.2 result.2) →
      Decodes (.dict entries) (.dict results)

/-- An element becomes a dictionary; its tag is no value. -/
inductive DecodesElement : Element → Python.Value → Prop
  | node {tag : Str} {attrib : List (Str × Str)} {text tail : Option Str} {children : List Element}
    {attributes text' tail' : Python.Value} {children' : List Python.Value} :
    Decodes (.dict (attrib.map fun entry => (entry.1, .str entry.2))) attributes →
      Decodes (.str (text.getD [])) text' → children.length = children'.length →
        (∀ child result, (child, result) ∈ children.zip children' → DecodesElement child result) →
          Decodes (.str (tail.getD [])) tail' →
            DecodesElement (.node tag attrib text children tail)
              (Python.of_members [("tag", .str tag), ("attributes", attributes), ("text", text'),
                ("children", .list children'), ("tail", tail')])

end

/-- Nothing in the value is left encoded: a string in it, unless it is the tag of an element, is one
that decoding gives back, and a float is finite. -/
inductive DecodedThroughout : Python.Value → Prop
  | None : DecodedThroughout .None
  | bool (b : Bool) : DecodedThroughout (.bool b)
  | int (n : Int) : DecodedThroughout (.int n)
  | float (text : String) : DecodedThroughout (.float (.finite text))
  | text {s : Str} : normalized library (.str s) = .ok (.str s) → DecodedThroughout (.str s)
  | list {items : List Python.Value} : (∀ item ∈ items, DecodedThroughout item) →
    DecodedThroughout (.list items)
  | dict {entries : Entries} : (∀ entry ∈ entries, DecodedThroughout entry.2) →
    DecodedThroughout (.dict entries)
  | node (tag : Str) {attributes text tail : Python.Value} {children : List Python.Value} :
    DecodedThroughout attributes → DecodedThroughout text →
      (∀ child ∈ children, DecodedThroughout child) → DecodedThroughout tail →
        DecodedThroughout (Python.of_members [("tag", .str tag), ("attributes", attributes),
          ("text", text), ("children", .list children), ("tail", tail)])

variable {library} {α β : Type} {P : α → Prop} {Q : β → Prop} {vs ws : List Visit} {left n : Nat}

/-- The second of two lists of one length has nothing that is not paired. -/
theorem paired_of_mem {l : List α} {others : List β} (same : l.length = others.length) :
    ∀ y ∈ others, ∃ x, (x, y) ∈ l.zip others := by
  intro y member
  rw [← List.map_snd_zip (Nat.le_of_eq same.symm)] at member
  obtain ⟨pair, there, rfl⟩ := List.mem_map.mp member
  exact ⟨pair.1, there⟩

mutual

theorem Decodes.throughout {v result : Python.Value} :
    Decodes library v result → DecodedThroughout library result
  | .None => .None
  | .bool b => .bool b
  | .int n => .int n
  | .float text => .float text
  | .text fixed => .text fixed
  | .json _ inner => inner.throughout
  | .xml _ inner => inner.throughout
  | .list same each => .list fun other there => by
    obtain ⟨item, pair⟩ := paired_of_mem same other there
    exact (each item other pair).throughout
  | .dict keys each => .dict fun other there => by
    have same := congrArg List.length keys
    rw [List.length_map, List.length_map] at same
    obtain ⟨entry, pair⟩ := paired_of_mem same other there
    exact (each entry other pair).throughout

theorem DecodesElement.throughout {element : Element} {result : Python.Value} :
    DecodesElement library element result → DecodedThroughout library result
  | .node attributes text same each tail =>
    .node _ attributes.throughout text.throughout (fun other there => by
      obtain ⟨child, pair⟩ := paired_of_mem same other there
      exact (each child other pair).throughout) tail.throughout

end

/-! ## Computations along visits -/

theorem first_refusal_append (n : Nat) (vs ws : List Visit) :
    first_refusal library n (vs ++ ws) =
      match first_refusal library n vs with
      | some exc => some exc
      | none => first_refusal library (n + vs.length) ws := by
  induction vs generalizing n with
  | nil => rfl
  | cons visit rest ih =>
    rw [List.cons_append, first_refusal, first_refusal, List.length_cons]
    cases visit.refusal library n with
    | some exc => rfl
    | none => simp only [ih, Nat.add_assoc, Nat.add_comm 1]

/-- The computation makes these visits: it raises what the first refusal says, or returns when it
has made them all. -/
def Performs (library : Library) (P : α → Prop) (vs : List Visit) (m : Budgeted α) : Prop :=
  ∀ n, (∀ exc, first_refusal library n vs = some exc → m n = .error exc) ∧
    (first_refusal library n vs = none → ∃ a, m n = .ok (a, n + vs.length) ∧ P a)

theorem performs_pure {a : α} (holds : P a) : Performs library P [] (pure a) := by
  intro n
  refine ⟨fun exc none => ?_, fun _ => ⟨a, rfl, holds⟩⟩
  cases none

theorem Performs.bind {m : Budgeted α} {f : α → Budgeted β} (first : Performs library P vs m)
    (next : ∀ a, P a → Performs library Q ws (f a)) : Performs library Q (vs ++ ws) (m >>= f) := by
  intro n
  have unfolded : (m >>= f) n = (m n).bind fun result => f result.1 result.2 := rfl
  rw [first_refusal_append, unfolded]
  cases refused : first_refusal library n vs with
  | some exc =>
    rw [(first n).1 exc refused]
    refine ⟨fun exc' same => ?_, fun none => ?_⟩
    · cases same
      rfl
    · cases none
  | none =>
    obtain ⟨a, ran, holds⟩ := (first n).2 refused
    rw [ran, List.length_append, ← Nat.add_assoc]
    exact next a holds (n + vs.length)

theorem Performs.mono {P' : α → Prop} {m : Budgeted α} (performs : Performs library P vs m)
    (weaken : ∀ a, P a → P' a) : Performs library P' vs m := by
  intro n
  refine ⟨(performs n).1, fun none => ?_⟩
  obtain ⟨a, ran, holds⟩ := (performs n).2 none
  exact ⟨a, ran, weaken a holds⟩

theorem Performs.map {m : Budgeted α} {f : α → β} (performs : Performs library P vs m)
    (holds : ∀ a, P a → Q (f a)) : Performs library Q vs (m >>= fun a => pure (f a)) := by
  have rest : Performs library Q (vs ++ []) (m >>= fun a => pure (f a)) :=
    performs.bind fun a own => performs_pure (holds a own)
  rwa [List.append_nil] at rest

theorem performs_mapM {R : α → β → Prop} {f : α → Budgeted β} {visited : α → List Visit}
    {l : List α} (each : ∀ x ∈ l, Performs library (R x) (visited x) (f x)) :
    Performs library (List.Forall₂ R l) (l.flatMap visited) (l.mapM f) := by
  induction l with
  | nil => exact performs_pure .nil
  | cons x rest ih =>
    obtain ⟨here, others⟩ := List.forall_mem_cons.mp each
    rw [List.mapM_cons, List.flatMap_cons]
    exact here.bind fun y own => (ih others).map fun ys later => .cons own later

/-- A value that is visited is counted, and may be refused. -/
theorem performs_counted {value : Python.Value} {rest : Budgeted α}
    (refused : ∀ exc, own_refusal library value = some exc → ∀ n, rest n = .error exc)
    (goes : own_refusal library value = none → Performs library P vs rest) :
    Performs library P (.value (left + 1) value :: vs) (do
      if ← exhausted then throw .UnsupportedContent else rest) := by
  intro n
  have unfolded : (do if ← exhausted then throw .UnsupportedContent else rest : Budgeted α) n =
      if n + 1 > 20000 then .error .UnsupportedContent else rest (n + 1) := by
    change (if decide (n + 1 > 20000) = true then _ else _ : Budgeted α) (n + 1) = _
    by_cases spent : n + 1 > 20000
    · simp only [spent, decide_true, if_true]
      rfl
    · simp only [spent, decide_false, if_false, Bool.false_eq_true]
  rw [first_refusal, Visit.refusal, unfolded, List.length_cons]
  by_cases spent : n + 1 > 20000
  · simp [spent]
  · simp only [spent, if_false]
    cases own : own_refusal library value with
    | some exc =>
      have raises := refused exc own (n + 1)
      simp [raises]
    | none =>
      have later := goes own (n + 1)
      simpa only [Nat.add_assoc, Nat.add_comm 1] using later

/-! ## The run of `normalize` -/

theorem decodes_list {items results : List Python.Value}
    (pairs : List.Forall₂ (Decodes library) items results) :
    Decodes library (.list items) (.list results) := by
  obtain ⟨same, each⟩ := List.forall₂_iff_zip.mp pairs
  exact .list same fun item result => each

theorem decodes_dict {entries results : Entries}
    (pairs : List.Forall₂ (fun entry result =>
      entry.1 = result.1 ∧ Decodes library entry.2 result.2) entries results) :
    Decodes library (.dict entries) (.dict results) := by
  have keys : entries.map Prod.fst = results.map Prod.fst := by
    induction pairs with
    | nil => rfl
    | cons here _ ih => simp [here.1, ih]
  obtain ⟨_, each⟩ := List.forall₂_iff_zip.mp pairs
  exact .dict keys fun entry result pair => (each pair).2

/-- A plain text comes back at the top as well. -/
theorem normalized_of_plain {s : Str} (plain : decoded library s = .ok .plain) :
    normalized library (.str s) = .ok (.str s) := by
  rw [normalized, normalize, plain]
  rfl

theorem performs_of_refused {m : Budgeted α} {visit : Visit} {exc : Raised}
    (refused : ∀ n, visit.refusal library n = some exc) (raises : ∀ n, m n = .error exc) :
    Performs library P [visit] m := by
  intro n
  rw [first_refusal, refused, raises]
  refine ⟨fun exc' same => ?_, fun none => ?_⟩
  · cases same
    rfl
  · cases none

/-- A value that is neither taken apart nor refused is kept. -/
theorem performs_kept {v : Python.Value} (own : own_refusal library v = none)
    (decodes : Decodes library v v) :
    Performs library (Decodes library v) [.value (left + 1) v] (do
      if ← exhausted then throw .UnsupportedContent else pure v) := by
  apply performs_counted
  · intro exc refused
    simp [own] at refused
  · exact fun _ => performs_pure decodes

mutual

theorem normalize_performs : ∀ (left : Nat) (v : Python.Value),
    Performs library (Decodes library v) (value_visits library left v) (normalize library left v)
  | 0, v => by
    rw [value_visits, normalize]
    exact performs_of_refused (fun n => rfl) fun n => rfl
  | left + 1, .dict entries => by
    rw [value_visits, normalize]
    apply performs_counted
    · intro exc refused
      cases refused
    intro _
    have own (entry : Str × Python.Value) : Performs library
        (fun result : Str × Python.Value => entry.1 = result.1 ∧ Decodes library entry.2 result.2)
        (value_visits library left entry.2)
        (do return (entry.1, ← normalize library left entry.2)) :=
      (normalize_performs left entry.2).map fun result decodes => ⟨rfl, decodes⟩
    exact (performs_mapM fun entry _ => own entry).map fun results pairs => decodes_dict pairs
  | left + 1, .list items => by
    rw [value_visits, normalize]
    apply performs_counted
    · intro exc refused
      cases refused
    intro _
    have each := performs_mapM (l := items) fun item _ => normalize_performs left item
    exact each.map fun results pairs => decodes_list pairs
  | left + 1, .str s => by
    rw [value_visits, normalize]
    cases decodes : decoded library s with
    | error exc =>
      apply performs_counted
      · intro exc' refused n
        rw [own_refusal, decodes] at refused
        cases refused
        rfl
      · intro own
        rw [own_refusal, decodes] at own
        cases own
    | ok text =>
      apply performs_counted
      · intro exc' refused
        rw [own_refusal, decodes] at refused
        cases refused
      · intro _
        cases text with
        | json parsed => exact (normalize_performs left parsed).mono fun result => .json decodes
        | xml element => exact (node_performs left element).mono fun result => .xml decodes
        | plain => exact performs_pure (.text (normalized_of_plain decodes))
  | left + 1, .float (.finite text) => by
    simp only [value_visits, normalize]
    exact performs_kept rfl (.float text)
  | left + 1, .float .nan => by
    simp only [value_visits, normalize]
    apply performs_counted
    · intro exc refused n
      cases refused
      rfl
    · intro own
      cases own
  | left + 1, .float (.inf negative) => by
    simp only [value_visits, normalize]
    apply performs_counted
    · intro exc refused n
      cases refused
      rfl
    · intro own
      cases own
  | left + 1, .None => by
    simp only [value_visits, normalize]
    exact performs_kept rfl .None
  | left + 1, .bool b => by
    simp only [value_visits, normalize]
    exact performs_kept rfl (.bool b)
  | left + 1, .int n => by
    simp only [value_visits, normalize]
    exact performs_kept rfl (.int n)

theorem node_performs : ∀ (left : Nat) (element : Element),
    Performs library (DecodesElement library element) (element_visits library left element)
      (node library left element)
  | 0, element => by
    rw [element_visits, node]
    exact performs_of_refused (fun n => rfl) fun n => rfl
  | left + 1, .node tag attrib text children tail => by
    rw [element_visits, node]
    have own_children := performs_mapM (l := children) fun child _ => node_performs left child
    refine (normalize_performs left _).bind fun attributes' given_attributes => ?_
    refine (normalize_performs left _).bind fun text' given_text => ?_
    refine own_children.bind fun children' given_children => ?_
    obtain ⟨same, each⟩ := List.forall₂_iff_zip.mp given_children
    exact (normalize_performs left _).map fun tail' given_tail =>
      .node given_attributes given_text same (fun child result => each) given_tail

end

/-! ## How `normalize` ends -/

theorem unsupported_of_decoded_xml {stripped : Str} {exc : Raised}
    (fails : decoded_xml library stripped = .error exc) : exc = .UnsupportedContent := by
  unfold decoded_xml at fails
  split at fails
  · cases fails
  split at fails
  · cases fails
    rfl
  split at fails
  · cases fails
  · cases fails

theorem unsupported_of_decoded_json {stripped : Str} {exc : Raised}
    (fails : decoded_json library stripped = .error exc) : exc = .UnsupportedContent := by
  unfold decoded_json at fails
  split at fails
  · split at fails
    · cases fails
    · cases fails
      rfl
    · exact unsupported_of_decoded_xml fails
  · exact unsupported_of_decoded_xml fails

theorem unsupported_of_decoded {s : Str} {exc : Raised} (clean : s.Clean)
    (fails : decoded library s = .error exc) : exc = .UnsupportedContent := by
  rw [decoded, encoded_len, if_neg clean.no_half] at fails
  dsimp only at fails
  split at fails
  · cases fails
    rfl
  · exact unsupported_of_decoded_json fails

/-- A text with half a character is refused, but not as content that is not supported. -/
theorem decoded_of_surrogate {s : Str} (half : ¬ s.Clean) :
    decoded library s = .error .Exception := by
  rw [decoded]
  cases encoded : encoded_len s with
  | ok len => exact absurd (clean_of_encoded_len encoded) half
  | error exc =>
    unfold encoded_len at encoded
    split at encoded
    · cases encoded
      rfl
    · cases encoded

theorem unsupported_of_own_refusal {v : Python.Value} {exc : Raised}
    (clean : ∀ s, v = .str s → s.Clean) (refused : own_refusal library v = some exc) :
    exc = .UnsupportedContent := by
  cases v with
  | str s =>
    rw [own_refusal] at refused
    cases decodes : decoded library s with
    | error exc' =>
      rw [decodes] at refused
      cases refused
      exact unsupported_of_decoded (clean s rfl) decodes
    | ok text =>
      rw [decodes] at refused
      cases refused
  | float x =>
    cases x with
    | finite text => cases refused
    | nan =>
      cases refused
      rfl
    | inf =>
      cases refused
      rfl
  | None | bool b | int n | list items | dict entries => cases refused

/-- Apart from half characters, a visit is refused as content that is not supported. -/
theorem unsupported_of_refusal {visit : Visit} {exc : Raised}
    (clean : ∀ left s, visit = .value (left + 1) (.str s) → n < 20000 → s.Clean)
    (refused : visit.refusal library n = some exc) : exc = .UnsupportedContent := by
  cases visit with
  | element =>
    cases refused
    rfl
  | value left v =>
    cases left with
    | zero =>
      cases refused
      rfl
    | succ left =>
      rw [Visit.refusal] at refused
      split_ifs at refused with spent
      · cases refused
        rfl
      · refine unsupported_of_own_refusal (fun s same => ?_) refused
        exact clean left s (same ▸ rfl) (by omega)

/-- What is counted without a refusal stays within both bounds. -/
theorem within_of_none (within : n ≤ 20000) (none : first_refusal library n vs = none) :
    n + vs.length ≤ 20000 ∧ ∀ visit ∈ vs, visit.depth ≤ 24 := by
  induction vs generalizing n with
  | nil => exact ⟨within, by simp⟩
  | cons visit rest ih =>
    rw [first_refusal] at none
    cases refused : visit.refusal library n with
    | some exc =>
      rw [refused] at none
      cases none
    | none =>
      rw [refused] at none
      have own : n + 1 ≤ 20000 ∧ visit.depth ≤ 24 := by
        cases visit with
        | element => cases refused
        | value left v =>
          cases left with
          | zero => cases refused
          | succ left =>
            rw [Visit.refusal] at refused
            split at refused
            · cases refused
            · simp only [Visit.depth]
              omega
      obtain ⟨counted, depths⟩ := ih own.1 none
      rw [List.length_cons]
      exact ⟨by omega, List.forall_mem_cons.mpr ⟨own.2, depths⟩⟩

/-- The first refusal is that of some visit, and nothing before it is refused. -/
theorem first_refusal_iff {exc : Raised} :
    first_refusal library n vs = some exc ↔ ∃ before visit after,
      vs = before ++ visit :: after ∧ first_refusal library n before = none ∧
        visit.refusal library (n + before.length) = some exc := by
  constructor
  · intro first
    induction vs generalizing n with
    | nil => cases first
    | cons visit rest ih =>
      rw [first_refusal] at first
      cases refused : visit.refusal library n with
      | some exc' =>
        rw [refused] at first
        cases first
        exact ⟨[], visit, rest, rfl, rfl, refused⟩
      | none =>
        rw [refused] at first
        obtain ⟨before, found, after, rfl, none, later⟩ := ih first
        refine ⟨visit :: before, found, after, rfl, ?_, ?_⟩
        · rw [first_refusal, refused]
          exact none
        · rwa [List.length_cons, Nat.add_comm before.length, ← Nat.add_assoc]
  · rintro ⟨before, visit, after, rfl, none, refused⟩
    rw [first_refusal_append, none]
    dsimp only
    rw [first_refusal, refused]

variable (library) in
/-- What is returned is decoded completely and within the bounds, and what is raised is
`UnsupportedContent`. -/
def DecodesOrRefuses (value : Python.Value) : Prop :=
  (∀ result budget, (normalize library 25 value).run 0 = .ok (result, budget) →
    Decodes library value result ∧ DecodedThroughout library result ∧
      budget = (value_visits library 25 value).length ∧ budget ≤ 20000 ∧
        ∀ visit ∈ value_visits library 25 value, visit.depth ≤ 24) ∧
  (∀ exc, (normalize library 25 value).run 0 = .error exc → exc = .UnsupportedContent)

variable (library) in
/-- The string is visited, and nothing is refused before. -/
def ReachesText (value : Python.Value) (s : Str) : Prop :=
  ∃ left before after,
    value_visits library 25 value = before ++ .value (left + 1) (.str s) :: after ∧
      before.length < 20000 ∧ first_refusal library 0 before = none

/-- What is returned is right for every value. -/
theorem decodes_of_returned {value result : Python.Value} {budget : Nat}
    (ran : (normalize library 25 value).run 0 = .ok (result, budget)) :
    Decodes library value result ∧ budget = (value_visits library 25 value).length ∧
      budget ≤ 20000 ∧ ∀ visit ∈ value_visits library 25 value, visit.depth ≤ 24 := by
  have performs : Performs library (Decodes library value) (value_visits library 25 value)
      (normalize library 25 value) := normalize_performs 25 value
  obtain ⟨raises, returns⟩ := performs 0
  cases first : first_refusal library 0 (value_visits library 25 value) with
  | some exc =>
    have raised := raises exc first
    rw [StateT.run, raised] at ran
    cases ran
  | none =>
    obtain ⟨result', returned, decodes⟩ := returns first
    rw [StateT.run, returned, Nat.zero_add] at ran
    cases ran
    have within := within_of_none (Nat.zero_le _) first
    rw [Nat.zero_add] at within
    exact ⟨decodes, rfl, within.1, within.2⟩

/-- What is raised is what the first refusal raises. -/
theorem raised_iff_first_refusal {value : Python.Value} {exc : Raised} :
    (normalize library 25 value).run 0 = .error exc ↔
      first_refusal library 0 (value_visits library 25 value) = some exc := by
  have performs : Performs library (Decodes library value) (value_visits library 25 value)
      (normalize library 25 value) := normalize_performs 25 value
  obtain ⟨raises, returns⟩ := performs 0
  refine ⟨fun ran => ?_, raises exc⟩
  cases first : first_refusal library 0 (value_visits library 25 value) with
  | none =>
    obtain ⟨result, returned, -⟩ := returns first
    rw [StateT.run, returned] at ran
    cases ran
  | some exc' =>
    have raised := raises exc' first
    rw [StateT.run, raised] at ran
    cases ran
    rfl

/-- `normalize` decodes a value or raises `UnsupportedContent` exactly if no string that it gets to
has half a character. -/
theorem normalize_decodes (library : Library) (value : Python.Value) :
    DecodesOrRefuses library value ↔ ∀ s, ReachesText library value s → s.Clean := by
  constructor
  · rintro ⟨-, only⟩ s ⟨left, before, after, split, count, none⟩
    by_contra half
    have refused : Visit.refusal library (0 + before.length) (.value (left + 1) (.str s)) =
        some .Exception := by
      rw [Nat.zero_add, Visit.refusal, if_neg (by omega), own_refusal, decoded_of_surrogate half]
    have first := first_refusal_iff.mpr ⟨before, _, after, split, none, refused⟩
    cases only _ (raised_iff_first_refusal.mpr first)
  · intro clean
    constructor
    · intro result budget ran
      obtain ⟨decodes, bounds⟩ := decodes_of_returned ran
      exact ⟨decodes, decodes.throughout, bounds⟩
    · intro exc ran
      have first := raised_iff_first_refusal.mp ran
      obtain ⟨before, visit, after, split, none, refused⟩ := first_refusal_iff.mp first
      rw [Nat.zero_add] at refused
      refine unsupported_of_refusal (fun left s same count => ?_) refused
      subst same
      exact clean s ⟨left, before, after, split, count, none⟩

/-- The text `"\ud800"`. -/
def surrogate_text : Str := Str.of "\"\\ud800\""

def surrogate_library : Library :=
  { plain_library with
    loads := fun s =>
      if s = surrogate_text then .ok (.str [⟨0xD800, by decide⟩]) else .error .ValueError }

/-- Half a character in a JSON string gets to `encode`, and its error is raised as it is. -/
theorem lone_surrogate_escapes :
    (normalize surrogate_library 25 (.str surrogate_text)).run 0 = .error .Exception ∧
      ¬ DecodesOrRefuses surrogate_library (.str surrogate_text) := by
  have raised : (normalize surrogate_library 25 (.str surrogate_text)).run 0 =
      .error .Exception := by rfl
  refine ⟨raised, fun holds => ?_⟩
  cases holds.2 _ raised

end SessionManager
