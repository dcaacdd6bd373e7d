import Mathlib.Data.List.Basic

/-!
# Positions in a trace

Traces are lists of events, oldest first.  An event together with what came before
and after it is a splitting `a ++ x :: b`.
-/

namespace Effect.Trace

variable {α β : Type*}

/-- A splitting of a trace that just grew is at the new event, or was there before. -/
theorem snoc_eq_split {past a b : List α} {x y : α} :
    past ++ [y] = a ++ x :: b ↔
      (a = past ∧ x = y ∧ b = []) ∨ ∃ b', b = b' ++ [y] ∧ past = a ++ x :: b' := by
  constructor
  · intro same
    rcases b.eq_nil_or_concat with rfl | ⟨b', z, rfl⟩
    · obtain ⟨rfl, one⟩ := List.append_inj' same rfl
      exact .inl ⟨rfl, (List.singleton_inj.mp one).symm, rfl⟩
    · have regrouped : past ++ [y] = (a ++ x :: b') ++ [z] := by
        rw [same, List.concat_eq_append, List.append_assoc, List.cons_append]
      obtain ⟨rfl, one⟩ := List.append_inj' regrouped rfl
      cases List.singleton_inj.mp one
      exact .inr ⟨b', List.concat_eq_append, rfl⟩
  · rintro (⟨rfl, rfl, rfl⟩ | ⟨b', rfl, rfl⟩)
    · rfl
    · rw [List.append_assoc, List.cons_append]

/-- What is at a position of a list that may have grown was there before, or is new. -/
theorem getElem?_grown {l : List α} {o : Option α} {k : Nat} {x : α}
    (here : (l ++ o.toList)[k]? = some x) : l[k]? = some x ∨ k = l.length ∧ o = some x := by
  rw [List.getElem?_append] at here
  split at here
  · exact .inl here
  · cases o with
    | none => cases here
    | some y =>
      rw [Option.toList_some, List.getElem?_singleton] at here
      split at here
      · exact .inr ⟨by omega, here⟩
      · cases here

/-- The one element with a property splits a list in one way. -/
theorem split_unique {P : α → Prop} {a b a' b' : List α} {x y : α}
    (same : a ++ x :: b = a' ++ y :: b') (here : P x) (before : ∀ z ∈ a', ¬ P z)
    (after : ∀ z ∈ b', ¬ P z) : a = a' ∧ x = y ∧ b = b' := by
  rcases List.append_eq_append_iff.mp same with ⟨c, rfl, rest⟩ | ⟨c, rfl, rest⟩
  · rcases c with _ | ⟨z, c⟩
    · obtain ⟨rfl, rfl⟩ := List.cons.inj rest
      exact ⟨(List.append_nil a).symm, rfl, rfl⟩
    · obtain ⟨rfl, -⟩ := List.cons.inj rest
      exact absurd here (before x (List.mem_append_right a (List.mem_cons_self ..)))
  · rcases c with _ | ⟨z, c⟩
    · obtain ⟨rfl, rfl⟩ := List.cons.inj rest
      exact ⟨List.append_nil a', rfl, rfl⟩
    · obtain ⟨rfl, rfl⟩ := List.cons.inj rest
      exact absurd here (after x (List.mem_append_right c (List.mem_cons_self ..)))

/-- When a trace reads values off some events, no value twice, a value has one event. -/
theorem eq_of_nodup_filterMap {f : α → Option β} {l : List α} (nodup : (l.filterMap f).Nodup)
    {x y : α} {value : β} (left : x ∈ l) (right : y ∈ l) (reads : f x = some value)
    (reads' : f y = some value) : x = y := by
  induction l with
  | nil => exact absurd left List.not_mem_nil
  | cons z l ih =>
    have later {w : α} (member : w ∈ l) (read : f w = some value) : value ∈ l.filterMap f :=
      List.mem_filterMap.mpr ⟨w, member, read⟩
    cases head : f z with
    | none =>
      rw [List.filterMap_cons_none head] at nodup
      rcases List.mem_cons.mp left with rfl | left
      · cases head.symm.trans reads
      · rcases List.mem_cons.mp right with rfl | right
        · cases head.symm.trans reads'
        · exact ih nodup left right
    | some first =>
      rw [List.filterMap_cons_some head] at nodup
      obtain ⟨new, nodup⟩ := List.nodup_cons.mp nodup
      rcases List.mem_cons.mp left with rfl | left'
      · rcases List.mem_cons.mp right with same | right'
        · exact same.symm
        · cases head.symm.trans reads
          exact absurd (later right' reads') new
      · rcases List.mem_cons.mp right with rfl | right'
        · cases head.symm.trans reads'
          exact absurd (later left' reads) new
        · exact ih nodup left' right'

/-! ## What holds at every event -/

/-- Every event stands to what came before it as `P` says. -/
def Throughout (P : List α → α → Prop) (tr : List α) : Prop :=
  ∀ a x b, tr = a ++ x :: b → P a x

theorem throughout_nil (P : List α → α → Prop) : Throughout P [] := by
  intro a x b split
  simp at split

theorem throughout_snoc_iff {P : List α → α → Prop} {past : List α} {x : α} :
    Throughout P (past ++ [x]) ↔ Throughout P past ∧ P past x := by
  constructor
  · intro throughout
    exact ⟨fun a y b split => throughout a y (b ++ [x]) (by simp [split]), throughout past x [] rfl⟩
  · intro both a y b split
    rcases snoc_eq_split.mp split with ⟨rfl, rfl, -⟩ | ⟨b', -, before⟩
    · exact both.2
    · exact both.1 a y b' before

/-! ## What follows -/

/-- After every event of one kind there is one of another kind. -/
def Followed (P Q : α → Prop) (tr : List α) : Prop :=
  ∀ a x b, tr = a ++ x :: b → P x → ∃ y ∈ b, Q y

section Followed

variable {P Q : α → Prop} {past : List α} {x : α}

theorem followed_nil : Followed P Q [] := by
  intro a x b split
  cases List.append_eq_nil_iff.mp split.symm with
  | intro _ none => cases none

/-- An event of the other kind follows all that were there. -/
theorem followed_snoc (answers : Q x) (other : ¬ P x) : Followed P Q (past ++ [x]) := by
  intro a y b split here
  rcases snoc_eq_split.mp split with ⟨-, rfl, -⟩ | ⟨b', rfl, -⟩
  · exact absurd here other
  · exact ⟨x, List.mem_append_right b' (List.mem_singleton_self x), answers⟩

/-- Other events change nothing. -/
theorem Followed.snoc (followed : Followed P Q past) (other : ¬ P x) :
    Followed P Q (past ++ [x]) := by
  intro a y b split here
  rcases snoc_eq_split.mp split with ⟨-, rfl, -⟩ | ⟨b', rfl, before⟩
  · exact absurd here other
  · obtain ⟨z, member, answers⟩ := followed a y b' before here
    exact ⟨z, List.mem_append_left _ member, answers⟩

/-- Events of the two kinds are told apart by the last one that is of either. -/
theorem followed_snoc_iff (apart : Q x → ¬ P x) :
    Followed P Q (past ++ [x]) ↔ Q x ∨ Followed P Q past ∧ ¬ P x := by
  constructor
  · intro followed
    by_cases answers : Q x
    · exact .inl answers
    refine .inr ⟨fun a y b split here => ?_, fun here => ?_⟩
    · obtain ⟨z, member, answered⟩ := followed a y (b ++ [x]) (by rw [split]; simp) here
      rcases List.mem_append.mp member with member | last
      · exact ⟨z, member, answered⟩
      · cases List.mem_singleton.mp last
        exact absurd answered answers
    · obtain ⟨z, none, -⟩ := followed past x [] rfl here
      exact absurd none List.not_mem_nil
  · rintro (answers | ⟨followed, other⟩)
    · exact followed_snoc answers (apart answers)
    · exact followed.snoc other

/-- An event of the first kind after which there is none of the second. -/
theorem not_followed_iff {tr : List α} :
    ¬ Followed P Q tr ↔ ∃ a y b, tr = a ++ y :: b ∧ P y ∧ ∀ z ∈ b, ¬ Q z := by
  simp only [Followed, not_forall, not_exists, not_and, exists_prop]

/-- Of two events of a list one comes after the other, or they are the same. -/
theorem split_cases {a b a' b' : List α} {x y : α} (same : a ++ x :: b = a' ++ y :: b') :
    x = y ∨ y ∈ b ∨ x ∈ b' := by
  rcases List.append_eq_append_iff.mp same with ⟨z, -, split⟩ | ⟨z, -, split⟩
  · cases z with
    | nil =>
      cases split
      exact .inl rfl
    | cons first z =>
      cases split
      exact .inr (.inl (List.mem_append_right _ List.mem_cons_self))
  · cases z with
    | nil =>
      cases split
      exact .inl rfl
    | cons first z =>
      cases split
      exact .inr (.inr (List.mem_append_right _ List.mem_cons_self))

/-- An event and what is before and after it. -/
theorem split_at {l : List α} {i : Nat} (found : l[i]? = some x) :
    l = l.take i ++ x :: l.drop (i + 1) := by
  obtain ⟨bound, here⟩ := List.getElem?_eq_some_iff.mp found
  rw [← here, List.getElem_cons_drop, List.take_append_drop]

/-- What is of neither kind changes nothing. -/
theorem followed_snoc_of_neither (other : ¬ P x) (no_answer : ¬ Q x) :
    Followed P Q (past ++ [x]) ↔ Followed P Q past := by
  rw [followed_snoc_iff fun answers => absurd answers no_answer]
  exact ⟨fun either => (either.resolve_left no_answer).1, fun followed => .inr ⟨followed, other⟩⟩

/-- There was an event of the first kind, and since then events of the second kind only. -/
def Since (P Q : α → Prop) (tr : List α) : Prop :=
  ∃ a x b, tr = a ++ x :: b ∧ P x ∧ ∀ y ∈ b, Q y

theorem since_last (here : P x) : Since P Q (past ++ [x]) :=
  ⟨past, x, [], rfl, here, fun _ none => absurd none List.not_mem_nil⟩

theorem Since.snoc (since : Since P Q past) (only : Q x) : Since P Q (past ++ [x]) := by
  obtain ⟨a, y, b, rfl, here, rest⟩ := since
  refine ⟨a, y, b ++ [x], by rw [List.append_assoc, List.cons_append], here, fun z member => ?_⟩
  rcases List.mem_append.mp member with earlier | last
  · exact rest z earlier
  · rwa [List.mem_singleton.mp last]

/-- The latest of the events that end what another one has begun. -/
theorem since_snoc_iff : Since P Q (past ++ [x]) ↔ P x ∨ Q x ∧ Since P Q past := by
  constructor
  · intro since
    obtain ⟨a, y, b, split, here, rest⟩ := since
    rcases snoc_eq_split.mp split with ⟨-, rfl, -⟩ | ⟨b', rfl, before⟩
    · exact .inl here
    · refine .inr ⟨rest x (List.mem_append_right _ List.mem_cons_self), a, y, b', before, here, ?_⟩
      exact fun z member => rest z (List.mem_append_left _ member)
  · rintro (here | ⟨only, since⟩)
    · exact since_last here
    · exact since.snoc only

end Followed

/-! ## Repetition -/

/-- The second list has the elements of the first in their order, each once or several times. -/
inductive Repeats : List α → List α → Prop
  | nil : Repeats [] []
  | first {xs ys : List α} (x : α) : Repeats xs ys → Repeats (xs ++ [x]) (ys ++ [x])
  | again {xs ys : List α} {x : α} : Repeats (xs ++ [x]) ys → Repeats (xs ++ [x]) (ys ++ [x])

theorem Repeats.mem {xs ys : List α} (repeats : Repeats xs ys) {x : α} (member : x ∈ xs) : x ∈ ys := by
  induction repeats with
  | nil => exact member
  | first y _ ih =>
    rcases List.mem_append.mp member with earlier | here
    · exact List.mem_append_left _ (ih earlier)
    · exact List.mem_append_right _ here
  | again _ ih => exact List.mem_append_left _ (ih member)

end Effect.Trace
