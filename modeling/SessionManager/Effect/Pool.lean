import SessionManager.Effect.Handle
import SessionManager.Effect.Trace
import Mathlib.Logic.Function.Basic

/-!
# Pools of interleaved programs

A `Pool` is a family of programs over one shared state.  One step of a pool lets
one of its programs perform its next request, atomically; a run is any sequence
of such steps, so every interleaving of the programs is a run.

`Pool.Run.invariant` is the induction rule the concurrent results use: when every
program follows a protocol, a property of the protocol states and of the shared
state need only be checked against one request at a time.
-/

namespace Effect

universe u

/-- Programs indexed by `ι`, with the state they share. -/
structure Pool (ι : Type) (E : Type → Type u) (S R : Type) : Type (max 1 u) where
  shared : S
  thread : ι → Prog E R

/-- A step of a run: which program performed which request. -/
structure PoolEvent (ι : Type) (E : Type → Type u) : Type (max 1 u) where
  tid : ι
  event : Event E

/-- How the shared state answers a request of one of the programs. -/
abbrev Semantics (ι : Type) (E : Type → Type u) (S : Type) : Type (max 1 u) :=
  ι → S → ∀ {β : Type}, E β → β → S → Prop

namespace Pool

variable {ι : Type} [DecidableEq ι] {E : Type → Type u} {S R G : Type}

inductive Step (sem : Semantics ι E S) : Pool ι E S R → PoolEvent ι E → Pool ι E S R → Prop
  | step {s s' : S} {thread : ι → Prog E R} {i : ι} {β : Type} {e : E β} {k : β → Prog E R}
      {b : β} : thread i = .op e k → sem i s e b s' →
    Step sem ⟨s, thread⟩ ⟨i, ⟨e, b⟩⟩ ⟨s', Function.update thread i (k b)⟩

inductive Run (sem : Semantics ι E S) :
    Pool ι E S R → List (PoolEvent ι E) → Pool ι E S R → Prop
  | nil (p : Pool ι E S R) : Run sem p [] p
  | snoc {p q r : Pool ι E S R} {tr : List (PoolEvent ι E)} {ev : PoolEvent ι E} :
    Run sem p tr q → Step sem q ev r → Run sem p (tr ++ [ev]) r

variable {sem : Semantics ι E S} {p q r : Pool ι E S R} {tr : List (PoolEvent ι E)}

/-- Runs compose. -/
theorem Run.append {tr' : List (PoolEvent ι E)} (first : Run sem p tr q)
    (second : Run sem q tr' r) : Run sem p (tr ++ tr') r := by
  induction second with
  | nil => rw [List.append_nil]; exact first
  | snoc _ step ih => rw [← List.append_assoc]; exact .snoc ih step

/-- A run of several steps passes through the state before each of them. -/
theorem Run.split {a b : List (PoolEvent ι E)} {ev : PoolEvent ι E}
    (run : Run sem p (a ++ ev :: b) r) :
    ∃ s s', Run sem p a s ∧ Step sem s ev s' ∧ Run sem s' b r := by
  generalize whole : a ++ ev :: b = tr at run
  induction run generalizing b with
  | nil => exact absurd whole (by simp only [List.append_eq_nil_iff, reduceCtorEq, and_false,
      not_false_eq_true])
  | @snoc q r past last before one ih =>
    rcases Trace.snoc_eq_split.mp whole.symm with ⟨rfl, rfl, rfl⟩ | ⟨b', rfl, rest⟩
    · exact ⟨q, r, before, one, .nil r⟩
    · obtain ⟨s, s', first, step, after⟩ := ih rest.symm
      exact ⟨s, s', first, step, .snoc after one⟩

/-- A run of one step is that step. -/
theorem Run.single {ev : PoolEvent ι E} (run : Run sem p [ev] r) : Step sem p ev r := by
  generalize one : [ev] = tr at run
  cases run with
  | nil => cases one
  | @snoc q _ past last before step =>
    obtain ⟨rfl, rfl⟩ : past = [] ∧ last = ev := by simpa using List.append_eq_singleton_iff.mp one.symm
    generalize none : ([] : List (PoolEvent ι E)) = past at before
    cases before with
    | nil => exact step
    | snoc _ _ => simp at none

/-- Step `ev` of the run was taken in state `s`. -/
def TakenIn (sem : Semantics ι E S) (p : Pool ι E S R) (tr : List (PoolEvent ι E))
    (ev : PoolEvent ι E) (s : Pool ι E S R) : Prop :=
  ∃ a b s', tr = a ++ ev :: b ∧ Run sem p a s ∧ Step sem s ev s'

theorem Run.takenIn {ev : PoolEvent ι E} (run : Run sem p tr q) (member : ev ∈ tr) :
    ∃ s, TakenIn sem p tr ev s := by
  obtain ⟨a, b, rfl⟩ := List.append_of_mem member
  obtain ⟨s, s', before, one, -⟩ := run.split
  exact ⟨s, a, b, s', rfl, before, one⟩

theorem TakenIn.mem {ev : PoolEvent ι E} {s : Pool ι E S R} (taken : TakenIn sem p tr ev s) :
    ev ∈ tr := by
  obtain ⟨a, b, -, rfl, -, -⟩ := taken
  exact List.mem_append_right a (List.mem_cons_self ..)

/-- The answer a step received is one its semantics allows in the state it was taken in. -/
theorem TakenIn.answered {i : ι} {β : Type} {e : E β} {b : β} {s : Pool ι E S R}
    (taken : TakenIn sem p tr ⟨i, ⟨e, b⟩⟩ s) : ∃ s', sem i s.shared e b s' := by
  obtain ⟨_, _, _, _, _, one⟩ := taken
  cases one with
  | step _ answered => exact ⟨_, answered⟩

/-- The steps of one thread. -/
def project (i : ι) (tr : List (PoolEvent ι E)) : List (Event E) :=
  tr.filterMap fun ev => if ev.tid = i then some ev.event else none

@[simp] theorem project_nil (i : ι) : project i ([] : List (PoolEvent ι E)) = [] := rfl

theorem project_append (i : ι) (tr tr' : List (PoolEvent ι E)) :
    project i (tr ++ tr') = project i tr ++ project i tr' :=
  List.filterMap_append ..

theorem project_cons_self (i : ι) (ev : Event E) (tr : List (PoolEvent ι E)) :
    project i (⟨i, ev⟩ :: tr) = ev :: project i tr := by
  simp only [project, List.filterMap_cons, if_pos]

theorem project_snoc_self (i : ι) (tr : List (PoolEvent ι E)) (ev : Event E) :
    project i (tr ++ [⟨i, ev⟩]) = project i tr ++ [ev] := by
  rw [project_append, project_cons_self, project_nil]

theorem project_snoc_of_ne {i j : ι} (other : i ≠ j) (tr : List (PoolEvent ι E)) (ev : Event E) :
    project j (tr ++ [⟨i, ev⟩]) = project j tr := by
  simp only [project, List.filterMap_append, List.filterMap_cons, List.filterMap_nil, if_neg other,
    List.append_nil]

theorem mem_project {i : ι} {ev : Event E} {tr : List (PoolEvent ι E)} :
    ev ∈ project i tr ↔ ⟨i, ev⟩ ∈ tr := by
  simp only [project, List.mem_filterMap, Option.ite_none_right_eq_some, Option.some.injEq]
  constructor
  · rintro ⟨⟨j, ev'⟩, member, rfl, rfl⟩
    exact member
  · intro member
    exact ⟨⟨i, ev⟩, member, rfl, rfl⟩

/-- Each step of a thread is a step of the run, with the thread's other steps around it. -/
theorem project_split {i : ι} {tr : List (PoolEvent ι E)} {a b : List (Event E)} {ev : Event E}
    (same : project i tr = a ++ ev :: b) :
    ∃ x y, tr = x ++ ⟨i, ev⟩ :: y ∧ project i x = a ∧ project i y = b := by
  obtain ⟨x, z, rfl, first, rest⟩ := List.filterMap_eq_append_iff.mp same
  obtain ⟨x', ev', y, rfl, before, here, after⟩ := List.filterMap_eq_cons_iff.mp rest
  have here : ev' = ⟨i, ev⟩ := by
    obtain ⟨own, same⟩ := Option.ite_none_right_eq_some.mp here
    cases ev'
    exact congrArg₂ PoolEvent.mk own (Option.some.inj same)
  subst here
  have none : project i x' = [] := List.filterMap_eq_nil_iff.mpr before
  refine ⟨x ++ x', y, (List.append_assoc ..).symm, ?_, after⟩
  rw [project_append, none, List.append_nil]
  exact first

/-- Inside a run every thread executes its own program. -/
theorem Run.project (run : Run sem p tr q) (i : ι) :
    Exec (p.thread i) (Pool.project i tr) (q.thread i) := by
  induction run with
  | nil => exact .refl _
  | @snoc q r past ev _ one ih =>
    cases one with
    | @step s s' thread j β e k b rest answered =>
      by_cases same : j = i
      · subst same
        rw [project_snoc_self]
        simpa only [Function.update_self] using ih.snoc rest b
      · rw [project_snoc_of_ne same]
        simpa only [Function.update_of_ne (Ne.symm same)] using ih

/-- The protocol of a program allows its next step. -/
theorem Run.allowed {P : Protocol E G} {Q : G → R → Prop} {g : G} {i : ι} {β : Type} {e : E β} {b : β}
    (run : Run sem p tr q) (follows : P.Follows Q g (p.thread i)) (one : Step sem q ⟨i, ⟨e, b⟩⟩ r) :
    P.allows (P.after g (Pool.project i tr)) e := by
  have still := follows.exec (run.project i)
  cases one with
  | @step s s' thread j β e k b rest answered =>
    have next : P.Follows Q (P.after g (Pool.project i tr)) (.op e k) := rest ▸ still
    exact next.1

/-- The protocol states of all programs after a run. -/
def phases (P : Protocol E G) (start : ι → G) (tr : List (PoolEvent ι E)) : ι → G :=
  tr.foldl (fun phase ev => Function.update phase ev.tid
    (P.next (phase ev.tid) ev.event.request ev.event.answer)) start

@[simp] theorem phases_nil (P : Protocol E G) (start : ι → G) :
    phases P start ([] : List (PoolEvent ι E)) = start := rfl

@[simp] theorem phases_snoc (P : Protocol E G) (start : ι → G) (tr : List (PoolEvent ι E))
    (ev : PoolEvent ι E) :
    phases P start (tr ++ [ev]) = Function.update (phases P start tr) ev.tid
      (P.next (phases P start tr ev.tid) ev.event.request ev.event.answer) := by
  simp only [phases, List.foldl_append, List.foldl_cons, List.foldl_nil]

/-- The protocol state of a program depends on its own requests only. -/
theorem phases_eq_after (P : Protocol E G) (start : ι → G) (tr : List (PoolEvent ι E)) (i : ι) :
    phases P start tr i = P.after (start i) (project i tr) := by
  induction tr generalizing start with
  | nil => rfl
  | cons ev tr ih =>
    obtain ⟨j, ev⟩ := ev
    refine (ih _).trans ?_
    by_cases same : j = i
    · subst same
      simp only [Function.update_self, project_cons_self, Protocol.after_cons]
    · simp only [Function.update_of_ne (Ne.symm same), project, List.filterMap_cons, if_neg same]

/-- Induction over the steps of a run, each with the run up to it. -/
theorem Run.along {I : List (PoolEvent ι E) → Pool ι E S R → Prop} (run : Run sem p tr q)
    (init : I [] p)
    (step : ∀ {past : List (PoolEvent ι E)} {ev : PoolEvent ι E} {r r' : Pool ι E S R},
      Run sem p past r → Step sem r ev r' → I past r → I (past ++ [ev]) r') : I tr q := by
  induction run with
  | nil => exact init
  | snoc before one ih => exact step before one ih

/-- **Invariants of a pool.**  If the programs follow `P`, a property of the
states of `P`, of the shared state and of the past steps holds after every run
as soon as it holds at first and every allowed, answered request keeps it. -/
theorem Run.invariant {P : Protocol E G} {Q : G → R → Prop} {start : ι → G}
    {I : (ι → G) → S → List (PoolEvent ι E) → Prop} (run : Run sem p tr q)
    (follows : ∀ i, P.Follows Q (start i) (p.thread i)) (init : I start p.shared [])
    (step : ∀ {phase : ι → G} {s s' : S} {past : List (PoolEvent ι E)} {i : ι} {β : Type}
      (e : E β) (b : β), I phase s past → P.allows (phase i) e → sem i s e b s' →
      I (Function.update phase i (P.next (phase i) e b)) s' (past ++ [⟨i, ⟨e, b⟩⟩])) :
    I (phases P start tr) q.shared tr ∧
      ∀ i, P.Follows Q (phases P start tr i) (q.thread i) := by
  induction run with
  | nil => exact ⟨init, follows⟩
  | @snoc q r past ev _ one ih =>
    obtain ⟨held, still⟩ := ih
    cases one with
    | @step s s' thread i β e k b rest answered =>
      have here : P.Follows Q (phases P start past i) (.op e k) := rest ▸ still i
      refine ⟨?_, fun j => ?_⟩
      · rw [phases_snoc]
        exact step e b held here.1 answered
      · rw [phases_snoc]
        by_cases same : j = i
        · subst same
          simpa only [Function.update_self] using here.2 b
        · simpa only [Function.update_of_ne same] using still j

/-- What every request of a kind keeps, of the shared state and of the past steps, holds after
every run of programs that make no others. -/
theorem Run.history_of_only {P : ∀ {β : Type}, E β → Prop} {I : S → List (PoolEvent ι E) → Prop}
    (run : Run sem p tr q) (only : ∀ i, (p.thread i).Only P) (init : I p.shared [])
    (step : ∀ {s s' : S} {past : List (PoolEvent ι E)} {i : ι} {β : Type} (e : E β) (b : β),
      I s past → P e → sem i s e b s' → I s' (past ++ [⟨i, ⟨e, b⟩⟩])) :
    I q.shared tr ∧ ∀ i, (q.thread i).Only P := by
  induction run with
  | nil => exact ⟨init, only⟩
  | snoc _ one ih =>
    obtain ⟨held, still⟩ := ih
    cases one with
    | @step s s' thread i β e k b rest answered =>
      have here : (Prog.op e k).Only P := rest ▸ still i
      refine ⟨step e b held here.1 answered, fun j => ?_⟩
      by_cases same : j = i
      · subst same
        simpa only [Function.update_self] using here.2 b
      · simpa only [Function.update_of_ne same] using still j

/-- What every request of a kind keeps holds after every run of programs that make no others. -/
theorem Run.invariant_of_only {P : ∀ {β : Type}, E β → Prop} {I : S → Prop} (run : Run sem p tr q)
    (only : ∀ i, (p.thread i).Only P) (init : I p.shared)
    (step : ∀ {s s' : S} {i : ι} {β : Type} (e : E β) (b : β), I s → P e → sem i s e b s' → I s') :
    I q.shared ∧ ∀ i, (q.thread i).Only P :=
  run.history_of_only (I := fun s _ => I s) only init step

/-- A program that has returned did so in a state its protocol accepts. -/
theorem Run.returned {P : Protocol E G} {Q : G → R → Prop} {start : ι → G} {i : ι} {a : R}
    (follows : ∀ i, P.Follows Q (phases P start tr i) (q.thread i))
    (done : q.thread i = .ret a) : Q (phases P start tr i) a := by
  have here := follows i
  rwa [done] at here

/-! ## The shared object alone -/

/-- The requests of a trace, performed on the shared state by whoever performs them. -/
inductive Replay (sem : Semantics ι E S) : S → List (PoolEvent ι E) → S → Prop
  | nil (s : S) : Replay sem s [] s
  | snoc {s s' s'' : S} {tr : List (PoolEvent ι E)} {i : ι} {β : Type} {e : E β} {b : β} :
    Replay sem s tr s' → sem i s' e b s'' → Replay sem s (tr ++ [⟨i, ⟨e, b⟩⟩]) s''

/-- What the programs of a run do to the shared state. -/
theorem Run.replay (run : Run sem p tr q) : Replay sem p.shared tr q.shared := by
  induction run with
  | nil => exact .nil _
  | snoc _ one ih =>
    cases one with
    | step _ answered => exact .snoc ih answered

omit [DecidableEq ι] in
/-- A property of the shared state and of the past requests, kept by every answered request. -/
theorem Replay.history {s s' : S} {I : S → List (PoolEvent ι E) → Prop}
    (replay : Replay sem s tr s') (init : I s [])
    (step : ∀ {s s' : S} {past : List (PoolEvent ι E)} {i : ι} {β : Type} (e : E β) (b : β),
      I s past → sem i s e b s' → I s' (past ++ [⟨i, ⟨e, b⟩⟩])) : I s' tr := by
  induction replay with
  | nil => exact init
  | snoc _ answered ih => exact step _ _ ih answered

/-! ## Playing a schedule -/

/-- Let the programs of a schedule take one step each, in its order; a program that has
returned or whose request is not answered yet is skipped. -/
def play (answer : ι → S → ∀ {β : Type}, E β → Option (β × S)) :
    List ι → Pool ι E S R → List (PoolEvent ι E) × Pool ι E S R
  | [], p => ([], p)
  | i :: rest, p =>
    match p.thread i with
    | .ret _ => play answer rest p
    | .op e k =>
      match answer i p.shared e with
      | none => play answer rest p
      | some (b, s') =>
        let (tr, q) := play answer rest ⟨s', Function.update p.thread i (k b)⟩
        (⟨i, ⟨e, b⟩⟩ :: tr, q)

/-- Playing a schedule is a run of every semantics that allows the answers given. -/
theorem Run.play {answer : ι → S → ∀ {β : Type}, E β → Option (β × S)}
    (answered : ∀ (i : ι) (s s' : S) {β : Type} (e : E β) (b : β),
      answer i s e = some (b, s') → sem i s e b s')
    (schedule : List ι) (p : Pool ι E S R) :
    Run sem p (play answer schedule p).1 (play answer schedule p).2 := by
  induction schedule generalizing p with
  | nil => exact .nil p
  | cons i rest ih =>
    rw [Pool.play]
    split
    · exact ih p
    · rename_i e k here
      split
      · exact ih p
      · rename_i b s' given
        exact (Run.snoc (.nil p) (.step here (answered i _ s' e b given))).append (ih _)

/-- A program that a handler answers may run while the others wait. -/
theorem Run.of_handle {h : Handler E S} {i : ι}
    (answered : ∀ {s s' : S} {β : Type} (e : E β) (b : β), h e s = some (b, s') → sem i s e b s')
    {s' : S} {a : R} (handled : (p.thread i).handle h p.shared = some (a, s')) :
    ∃ tr, Run sem p tr ⟨s', Function.update p.thread i (.ret a)⟩ := by
  obtain ⟨s, thread⟩ := p
  dsimp only at handled
  generalize here : thread i = program at handled
  induction program generalizing s thread with
  | ret b =>
    cases handled
    rw [← here, Function.update_eq_self]
    exact ⟨[], .nil _⟩
  | op e k ih =>
    rw [Prog.handle_op, Option.bind_eq_some_iff] at handled
    obtain ⟨⟨b, s''⟩, first, rest⟩ := handled
    obtain ⟨tr, run⟩ := ih b s'' (Function.update thread i (k b)) (Function.update_self ..) rest
    rw [Function.update_idem] at run
    exact ⟨_, (Run.snoc (.nil _) (.step here (answered e b first))).append run⟩

end Pool

end Effect
