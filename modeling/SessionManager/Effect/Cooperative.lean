import SessionManager.Effect.Pool

/-!
# Cooperative pools

Tasks of an event loop run until they await something.  Some requests are awaits: the answer to
an await is what the task is resumed with, and a task performs its next request only while every
other one stands at an await or is over.  A run of turns is a run of the pool
(`Pool.Turns.run`); in return an invariant need not hold in the middle of a turn
(`Pool.Turns.invariant`).
-/

namespace Effect

universe u

variable {E : Type → Type u} {α : Type}

/-- The program is over, or the next thing it does is to await. -/
def Prog.Waits (awaits : ∀ {β : Type}, E β → Bool) : Prog E α → Prop
  | .ret _ => True
  | .op e _ => awaits e = true

/-- A state of the automaton in which a program may be waiting. -/
def Protocol.Idle {G : Type} (P : Protocol E G) (Q : G → α → Prop)
    (awaits : ∀ {β : Type}, E β → Bool) (g : G) : Prop :=
  (∃ a, Q g a) ∨ ∃ (β : Type) (e : E β), P.allows g e ∧ awaits e = true

theorem Protocol.Follows.idle {G : Type} {P : Protocol E G} {Q : G → α → Prop}
    {awaits : ∀ {β : Type}, E β → Bool} {g : G} {p : Prog E α} (follows : P.Follows Q g p)
    (waits : p.Waits awaits) : P.Idle Q awaits g := by
  cases p with
  | ret a => exact .inl ⟨a, follows⟩
  | op e k => exact .inr ⟨_, e, follows.1, waits⟩

namespace Pool

variable {ι : Type} [DecidableEq ι] {S R G : Type} {awaits : ∀ {β : Type}, E β → Bool}
  {sem : Semantics ι E S}

/-- A run in which no task is interrupted between two awaits. -/
inductive Turns (awaits : ∀ {β : Type}, E β → Bool) (sem : Semantics ι E S) :
    Pool ι E S R → List (PoolEvent ι E) → Pool ι E S R → Prop
  | nil (p : Pool ι E S R) : Turns awaits sem p [] p
  | snoc {p q r : Pool ι E S R} {tr : List (PoolEvent ι E)} {ev : PoolEvent ι E} :
    Turns awaits sem p tr q → (∀ j ≠ ev.tid, (q.thread j).Waits awaits) → Step sem q ev r →
    Turns awaits sem p (tr ++ [ev]) r

variable {p q r : Pool ι E S R} {tr : List (PoolEvent ι E)}

theorem Turns.run (turns : Turns awaits sem p tr q) : Run sem p tr q := by
  induction turns with
  | nil => exact .nil _
  | snoc _ _ step ih => exact .snoc ih step

theorem Turns.append {tr' : List (PoolEvent ι E)} (first : Turns awaits sem p tr q)
    (second : Turns awaits sem q tr' r) : Turns awaits sem p (tr ++ tr') r := by
  induction second with
  | nil => rwa [List.append_nil]
  | snoc _ others step ih =>
    rw [← List.append_assoc]
    exact .snoc ih others step

/-- **Invariants of a cooperative pool.**  What holds at first is kept if every allowed, answered
request keeps it while all other programs wait. -/
theorem Turns.invariant {P : Protocol E G} {Q : G → R → Prop} {start : ι → G}
    {I : (ι → G) → S → List (PoolEvent ι E) → Prop} (turns : Turns awaits sem p tr q)
    (follows : ∀ i, P.Follows Q (start i) (p.thread i)) (init : I start p.shared [])
    (step : ∀ {phase : ι → G} {s s' : S} {past : List (PoolEvent ι E)} {i : ι} {β : Type}
      (e : E β) (b : β), I phase s past → P.allows (phase i) e → sem i s e b s' →
      (∀ j ≠ i, P.Idle Q awaits (phase j)) →
      I (Function.update phase i (P.next (phase i) e b)) s' (past ++ [⟨i, ⟨e, b⟩⟩])) :
    I (phases P start tr) q.shared tr ∧
      ∀ i, P.Follows Q (phases P start tr i) (q.thread i) := by
  induction turns with
  | nil => exact ⟨init, follows⟩
  | @snoc q r past ev _ others one ih =>
    obtain ⟨held, still⟩ := ih
    cases one with
    | @step s s' thread i β e k b rest answered =>
      have here : P.Follows Q (phases P start past i) (.op e k) := rest ▸ still i
      refine ⟨?_, fun j => ?_⟩
      · rw [phases_snoc]
        exact step e b held here.1 answered fun j other => (still j).idle (others j other)
      · rw [phases_snoc]
        by_cases same : j = i
        · subst same
          simpa only [Function.update_self] using here.2 b
        · simpa only [Function.update_of_ne same] using still j

/-- **Invariants of a cooperative pool** whose programs keep to two automata. -/
theorem Turns.invariant_both {G' : Type} {P : Protocol E G} {P' : Protocol E G'} {Q : G → R → Prop}
    {Q' : G' → R → Prop} {start : ι → G} {start' : ι → G'}
    {I : (ι → G) → (ι → G') → S → List (PoolEvent ι E) → Prop} (turns : Turns awaits sem p tr q)
    (follows : ∀ i, P.Follows Q (start i) (p.thread i))
    (follows' : ∀ i, P'.Follows Q' (start' i) (p.thread i)) (init : I start start' p.shared [])
    (step : ∀ {phase : ι → G} {phase' : ι → G'} {s s' : S} {past : List (PoolEvent ι E)} {i : ι}
      {β : Type} (e : E β) (b : β), I phase phase' s past → P.allows (phase i) e →
      P'.allows (phase' i) e → sem i s e b s' → (∀ j ≠ i, P.Idle Q awaits (phase j)) →
      (∀ j ≠ i, P'.Idle Q' awaits (phase' j)) →
      I (Function.update phase i (P.next (phase i) e b))
        (Function.update phase' i (P'.next (phase' i) e b)) s' (past ++ [⟨i, ⟨e, b⟩⟩])) :
    I (phases P start tr) (phases P' start' tr) q.shared tr := by
  induction turns with
  | nil => exact init
  | @snoc q r past ev before others one ih =>
    have still (j : ι) : P.Follows Q (phases P start past j) (q.thread j) := by
      rw [phases_eq_after]
      exact (follows j).exec (before.run.project j)
    have still' (j : ι) : P'.Follows Q' (phases P' start' past j) (q.thread j) := by
      rw [phases_eq_after]
      exact (follows' j).exec (before.run.project j)
    cases one with
    | @step s s' thread i β e k b rest answered =>
      have here : P.Follows Q (phases P start past i) (.op e k) := rest ▸ still i
      have here' : P'.Follows Q' (phases P' start' past i) (.op e k) := rest ▸ still' i
      rw [phases_snoc, phases_snoc]
      exact step e b ih here.1 here'.1 answered (fun j other => (still j).idle (others j other))
        fun j other => (still' j).idle (others j other)

/-! ## Playing turns -/

/-- Perform the requests of program `i` up to its next await, as the handler answers them. -/
def segment (awaits : ∀ {β : Type}, E β → Bool)
    (answer : ι → S → ∀ {β : Type}, E β → Option (β × S)) (i : ι) :
    Prog E R → S → Option (List (PoolEvent ι E) × Prog E R × S)
  | .ret a, s => some ([], .ret a, s)
  | .op e k, s =>
    if awaits e then some ([], .op e k, s)
    else
      (answer i s e).bind fun (b, s') =>
        (segment awaits answer i (k b) s').map fun (tr, rest) => (⟨i, ⟨e, b⟩⟩ :: tr, rest)

/-- Resume the programs of a schedule in its order, each up to its next await. -/
def play_turns (awaits : ∀ {β : Type}, E β → Bool)
    (answer : ι → S → ∀ {β : Type}, E β → Option (β × S)) :
    List ι → Pool ι E S R → Option (List (PoolEvent ι E) × Pool ι E S R)
  | [], p => some ([], p)
  | i :: rest, p =>
    match p.thread i with
    | .ret _ => none
    | .op e k =>
      (answer i p.shared e).bind fun (b, s) =>
        (segment awaits answer i (k b) s).bind fun (tr, program, s') =>
          (play_turns awaits answer rest ⟨s', Function.update p.thread i program⟩).map
            fun (tr', q) => (⟨i, ⟨e, b⟩⟩ :: tr ++ tr', q)

variable {answer : ι → S → ∀ {β : Type}, E β → Option (β × S)}

theorem Turns.segment
    (answered : ∀ (i : ι) (s s' : S) {β : Type} (e : E β) (b : β),
      answer i s e = some (b, s') → sem i s e b s')
    {i : ι} {program rest : Prog E R} {s s' : S} {thread : ι → Prog E R}
    (others : ∀ j ≠ i, (thread j).Waits awaits)
    (played : Pool.segment awaits answer i program s = some (tr, rest, s')) :
    Turns awaits sem ⟨s, Function.update thread i program⟩ tr
        ⟨s', Function.update thread i rest⟩ ∧ rest.Waits awaits := by
  induction program generalizing s tr with
  | ret a =>
    cases played
    exact ⟨.nil _, trivial⟩
  | op e k ih =>
    unfold Pool.segment at played
    split at played
    · rename_i waits
      cases played
      exact ⟨.nil _, waits⟩
    · obtain ⟨⟨b, s''⟩, given, played⟩ := Option.bind_eq_some_iff.mp played
      obtain ⟨⟨tr', rest', s₃⟩, later, played⟩ := Option.map_eq_some_iff.mp played
      cases played
      obtain ⟨turns, waits⟩ := ih b later
      refine ⟨?_, waits⟩
      have first : Turns awaits sem ⟨s, Function.update thread i (.op e k)⟩ [⟨i, ⟨e, b⟩⟩]
          ⟨s'', Function.update thread i (k b)⟩ := by
        have one : Step sem ⟨s, Function.update thread i (.op e k)⟩ ⟨i, ⟨e, b⟩⟩
            ⟨s'', Function.update (Function.update thread i (.op e k)) i (k b)⟩ :=
          .step (Function.update_self ..) (answered i s s'' e b given)
        rw [Function.update_idem] at one
        refine .snoc (.nil _) (fun j other => ?_) one
        change (Function.update thread i (.op e k) j).Waits awaits
        rw [Function.update_of_ne other]
        exact others j other
      exact first.append turns

/-- What is played is a run of turns of every semantics that allows the answers given. -/
theorem Turns.play
    (answered : ∀ (i : ι) (s s' : S) {β : Type} (e : E β) (b : β),
      answer i s e = some (b, s') → sem i s e b s')
    {schedule : List ι} {p q : Pool ι E S R} {tr : List (PoolEvent ι E)}
    (waits : ∀ j, (p.thread j).Waits awaits)
    (played : play_turns awaits answer schedule p = some (tr, q)) : Turns awaits sem p tr q := by
  induction schedule generalizing p tr with
  | nil =>
    cases played
    exact .nil _
  | cons i schedule ih =>
    cases here : p.thread i with
    | ret a => simp only [play_turns, here, reduceCtorEq] at played
    | op e k =>
      simp only [play_turns, here] at played
      obtain ⟨⟨b, s⟩, given, played⟩ := Option.bind_eq_some_iff.mp played
      obtain ⟨⟨tr', rest, s'⟩, turn, played⟩ := Option.bind_eq_some_iff.mp played
      obtain ⟨⟨tr'', q'⟩, later, played⟩ := Option.map_eq_some_iff.mp played
      cases played
      obtain ⟨turns, stops⟩ := Turns.segment answered (fun j _ => waits j) turn
      have first : Turns awaits sem p [⟨i, ⟨e, b⟩⟩] ⟨s, Function.update p.thread i (k b)⟩ :=
        .snoc (.nil _) (fun j _ => waits j) (.step here (answered i p.shared s e b given))
      refine (first.append turns).append (ih (fun j => ?_) later)
      by_cases same : j = i
      · subst same
        simpa only [Function.update_self] using stops
      · simpa only [Function.update_of_ne same] using waits j

end Pool

end Effect
