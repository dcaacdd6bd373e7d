import SessionManager.Effect.Prog

/-!
# Answering programs

Ways to give a program its answers:

* `Prog.handle`: a handler answers one request after the other and keeps a state;
* `Prog.eval`: a machine does so and never fails to answer;
* `Prog.Ensures`: whatever it is answered, the requests of a returned program and the value
  it returned satisfy a postcondition;
* `Prog.subst`: every request is replaced by a program over another signature.
-/

namespace Effect

universe u v

variable {E : Type → Type u} {F : Type → Type v} {α β γ S : Type}

/-! ## Handlers -/

/-- What answers requests in a state, if they have an answer there. -/
abbrev Handler (E : Type → Type u) (S : Type) : Type (max 1 u) :=
  ∀ {β : Type}, E β → S → Option (β × S)

namespace Prog

/-- The value of a program whose requests a handler answers, and the state it leaves. -/
def handle (h : Handler E S) : Prog E α → S → Option (α × S)
  | .ret a, s => some (a, s)
  | .op e k, s =>
    match h e s with
    | some (b, s') => (k b).handle h s'
    | none => none

@[simp] theorem handle_ret (h : Handler E S) (a : α) (s : S) :
    (Prog.ret a : Prog E α).handle h s = some (a, s) := rfl

theorem handle_op (h : Handler E S) (e : E β) (k : β → Prog E α) (s : S) :
    (Prog.op e k).handle h s = (h e s).bind fun answer => (k answer.1).handle h answer.2 := by
  rw [handle]
  split
  · rename_i answered
    rw [answered, Option.bind_some]
  · rename_i unanswered
    rw [unanswered, Option.bind_none]

theorem handle_perform (h : Handler E S) (e : E β) (f : β → Prog E α) (s : S) :
    (perform e >>= f).handle h s =
      (h e s).bind fun answer => (f answer.1).handle h answer.2 :=
  handle_op h e f s

/-- Sequencing passes the state on. -/
theorem handle_bind (h : Handler E S) (p : Prog E α) (f : α → Prog E β) (s : S) :
    (p >>= f).handle h s = (p.handle h s).bind fun result => (f result.1).handle h result.2 := by
  induction p generalizing s with
  | ret a => rfl
  | op e k ih =>
    rw [op_bind, handle_op, handle_op, Option.bind_assoc]
    exact congrArg _ (funext fun answer => ih answer.1 answer.2)

theorem handle_lift {φ : ∀ {β : Type}, E β → F β} (h : Handler F S) (p : Prog E α) (s : S) :
    (p.lift φ).handle h s = p.handle (fun e => h (φ e)) s := by
  induction p generalizing s with
  | ret a => rfl
  | op e k ih =>
    rw [lift_op, handle_op, handle_op]
    exact congrArg _ (funext fun answer => ih answer.1 answer.2)

/-- The events of a program that a handler answers as long as it can, and what is left of it. -/
def record (h : Handler E S) : Prog E α → S → List (Event E) × Prog E α
  | .ret a, _ => ([], .ret a)
  | .op e k, s =>
    match h e s with
    | none => ([], .op e k)
    | some (b, s') => (⟨e, b⟩ :: ((k b).record h s').1, ((k b).record h s').2)

theorem exec_record (h : Handler E S) (p : Prog E α) (s : S) :
    Exec p (p.record h s).1 (p.record h s).2 := by
  induction p generalizing s with
  | ret a => exact .refl _
  | op e k ih =>
    rw [record]
    split
    · exact .refl _
    · exact .step _ (ih _ _)

/-- A handler that works on a part of its state. -/
theorem handle_embed {T : Type} {h : Handler E S} {k : Handler E T} (f : S → T)
    (alike : ∀ {β : Type} (e : E β) (s : S),
      k e (f s) = (h e s).map fun answer => (answer.1, f answer.2)) (p : Prog E α) (s : S) :
    p.handle k (f s) = (p.handle h s).map fun result => (result.1, f result.2) := by
  induction p generalizing s with
  | ret a => rfl
  | op e k ih =>
    rw [handle_op, handle_op, alike, Option.bind_map, Option.map_bind]
    exact congrArg _ (funext fun answer => ih answer.1 answer.2)

theorem Only.mono {P Q : ∀ {β : Type}, E β → Prop} (weaken : ∀ {β : Type} (e : E β), P e → Q e)
    {p : Prog E α} (only : p.Only P) : p.Only Q := by
  induction p with
  | ret a => trivial
  | op e k ih => exact ⟨weaken e only.1, fun b => ih b (only.2 b)⟩

theorem Only.bind {P : ∀ {β : Type}, E β → Prop} {p : Prog E α} {f : α → Prog E β}
    (first : p.Only P) (second : ∀ a, (f a).Only P) : (p >>= f).Only P := by
  induction p with
  | ret a => exact second a
  | op e k ih => exact ⟨first.1, fun b => ih b (first.2 b)⟩

theorem Only.of_forall {P : ∀ {β : Type}, E β → Prop} (every : ∀ {β : Type} (e : E β), P e)
    (p : Prog E α) : p.Only P := by
  induction p with
  | ret a => trivial
  | op e k ih => exact ⟨every e, ih⟩

theorem only_perform {P : ∀ {β : Type}, E β → Prop} {e : E β} {f : β → Prog E α} :
    (perform e >>= f).Only P ↔ P e ∧ ∀ b, (f b).Only P := Iff.rfl

theorem only_lift {φ : ∀ {β : Type}, E β → F β} {P : ∀ {β : Type}, F β → Prop} {p : Prog E α} :
    (p.lift φ).Only P ↔ p.Only fun e => P (φ e) := by
  induction p with
  | ret a => exact Iff.rfl
  | op e k ih => exact and_congr Iff.rfl (forall_congr' ih)

/-- A property that every request keeps is kept by the program, which is answered throughout. -/
theorem handle_keeps {h : Handler E S} {P : ∀ {β : Type}, E β → Prop} {I : S → Prop}
    (step : ∀ {β : Type} (e : E β) (s : S), P e → I s → ∃ b s', h e s = some (b, s') ∧ I s')
    {p : Prog E α} (only : p.Only P) {s : S} (start : I s) :
    ∃ a s', p.handle h s = some (a, s') ∧ I s' := by
  induction p generalizing s with
  | ret a => exact ⟨a, s, rfl, start⟩
  | op e k ih =>
    obtain ⟨b, s', answered, held⟩ := step e s only.1 start
    obtain ⟨a, s'', handled, held⟩ := ih b (only.2 b) held
    refine ⟨a, s'', ?_, held⟩
    rw [handle_op, answered]
    exact handled

/-! ## Machines -/

/-- The value of a program on a machine that answers every request, and the state it leaves. -/
def eval (h : ∀ {β : Type}, E β → S → β × S) : Prog E α → S → α × S
  | .ret a, s => (a, s)
  | .op e k, s => (k (h e s).1).eval h (h e s).2

section Machine

variable (h : ∀ {β : Type}, E β → S → β × S)

@[simp] theorem eval_ret (a : α) (s : S) : (Prog.ret a : Prog E α).eval h s = (a, s) := rfl

theorem eval_perform (e : E β) (f : β → Prog E α) (s : S) :
    (perform e >>= f).eval h s = (f (h e s).1).eval h (h e s).2 := rfl

theorem eval_one (e : E β) (s : S) : (perform e).eval h s = h e s := rfl

theorem eval_bind (p : Prog E α) (f : α → Prog E β) (s : S) :
    (p >>= f).eval h s = (f (p.eval h s).1).eval h (p.eval h s).2 := by
  induction p generalizing s with
  | ret a => rfl
  | op e k ih => exact ih (h e s).1 (h e s).2

end Machine

/-! ## Postconditions -/

/-- Whenever the program has returned, its requests and its value satisfy `Post`. -/
def Ensures (p : Prog E α) (Post : List (Event E) → α → Prop) : Prop :=
  ∀ tr a, Exec p tr (.ret a) → Post tr a

variable {Post : List (Event E) → α → Prop}

theorem ensures_ret {a : α} : (Prog.ret a : Prog E α).Ensures Post ↔ Post [] a := by
  constructor
  · exact fun ensures => ensures [] a (.refl _)
  · rintro here tr b run
    obtain ⟨rfl, same⟩ := run.of_ret
    cases same
    exact here

theorem ensures_op {e : E β} {k : β → Prog E α} :
    (Prog.op e k).Ensures Post ↔ ∀ b, (k b).Ensures fun tr a => Post (⟨e, b⟩ :: tr) a := by
  constructor
  · exact fun ensures b tr a run => ensures _ a (.step b run)
  · intro ensures tr a run
    cases run with
    | step b rest => exact ensures b _ a rest

/-- What a program ensures holds of the value a handler gives it. -/
theorem Ensures.handle {p : Prog E α} (ensures : p.Ensures Post) {h : Handler E S} {s s' : S} {a : α}
    (handled : p.handle h s = some (a, s')) : ∃ tr, Post tr a := by
  induction p generalizing Post s with
  | ret b =>
    cases handled
    exact ⟨[], ensures_ret.mp ensures⟩
  | op e k ih =>
    rw [handle_op, Option.bind_eq_some_iff] at handled
    obtain ⟨⟨b, s''⟩, -, rest⟩ := handled
    obtain ⟨tr, post⟩ := ih b (ensures_op.mp ensures b) rest
    exact ⟨_, post⟩

theorem ensures_perform {e : E β} {f : β → Prog E α} :
    (perform e >>= f).Ensures Post ↔ ∀ b, (f b).Ensures fun tr a => Post (⟨e, b⟩ :: tr) a :=
  ensures_op

theorem Only.ensures {P : ∀ {β : Type}, E β → Prop} {p : Prog E α} (only : p.Only P) :
    p.Ensures fun tr _ => ∀ ev ∈ tr, P ev.request :=
  fun _ _ run => run.only only

theorem Ensures.and {Post' : List (Event E) → α → Prop} {p : Prog E α} (ensures : p.Ensures Post)
    (ensures' : p.Ensures Post') : p.Ensures fun tr a => Post tr a ∧ Post' tr a :=
  fun tr a run => ⟨ensures tr a run, ensures' tr a run⟩

theorem Ensures.mono {Post' : List (Event E) → α → Prop} {p : Prog E α} (ensures : p.Ensures Post)
    (weaken : ∀ tr a, Post tr a → Post' tr a) : p.Ensures Post' :=
  fun tr a run => weaken tr a (ensures tr a run)

/-- Sequencing: the second program starts from what the first ensures. -/
theorem Ensures.bind {P : List (Event E) → α → Prop} {Q : List (Event E) → β → Prop}
    {p : Prog E α} {f : α → Prog E β} (first : p.Ensures P)
    (second : ∀ tr a, P tr a → (f a).Ensures fun tr' b => Q (tr ++ tr') b) :
    (p >>= f).Ensures Q := by
  induction p generalizing P Q with
  | ret a => exact second [] a (ensures_ret.mp first)
  | op e k ih =>
    rw [op_bind, ensures_op]
    intro b
    refine ih b (ensures_op.mp first b) fun tr a post => ?_
    exact second (⟨e, b⟩ :: tr) a post

/-- The requests of an embedded program, read in the larger signature. -/
theorem Ensures.lift {φ : ∀ {β : Type}, E β → F β} {p : Prog E α} (ensures : p.Ensures Post) :
    (p.lift φ).Ensures fun tr a => ∃ tr', tr = tr'.map (fun ev => ⟨φ ev.request, ev.answer⟩) ∧
      Post tr' a := by
  induction p generalizing Post with
  | ret a => exact ensures_ret.mpr ⟨[], rfl, ensures_ret.mp ensures⟩
  | op e k ih =>
    rw [lift_op, ensures_op]
    intro b
    refine (ih b (ensures_op.mp ensures b)).mono ?_
    rintro tr a ⟨tr', rfl, post⟩
    exact ⟨⟨e, b⟩ :: tr', rfl, post⟩

/-! ## Requests and their past -/

/-- Each request is made after a past that allows it, and the value is returned after one that
`Q` accepts. -/
def Guarded (R : List (Event E) → ∀ {β : Type}, E β → Prop) (Q : List (Event E) → α → Prop) :
    List (Event E) → Prog E α → Prop
  | past, .ret a => Q past a
  | past, .op e k => R past e ∧ ∀ b, Guarded R Q (past ++ [⟨e, b⟩]) (k b)

section Guarded

variable {R : List (Event E) → ∀ {β : Type}, E β → Prop} {Q Q' : List (Event E) → α → Prop}
  {past : List (Event E)} {p : Prog E α}

theorem guarded_perform {e : E β} {f : β → Prog E α} :
    (perform e >>= f).Guarded R Q past ↔ R past e ∧ ∀ b, (f b).Guarded R Q (past ++ [⟨e, b⟩]) :=
  Iff.rfl

theorem Guarded.mono (guarded : p.Guarded R Q past) (weaken : ∀ past a, Q past a → Q' past a) :
    p.Guarded R Q' past := by
  induction p generalizing past with
  | ret a => exact weaken past a guarded
  | op e k ih => exact ⟨guarded.1, fun b => ih b (guarded.2 b)⟩

theorem Guarded.bind {T : List (Event E) → β → Prop} {f : α → Prog E β}
    (first : p.Guarded R Q past) (second : ∀ past a, Q past a → (f a).Guarded R T past) :
    (p >>= f).Guarded R T past := by
  induction p generalizing past with
  | ret a => exact second past a first
  | op e k ih => exact ⟨first.1, fun b => ih b (first.2 b)⟩

/-- Where everything is allowed. -/
theorem guarded_trivial : p.Guarded (fun _ {_} _ => True) (fun _ _ => True) past := by
  induction p generalizing past with
  | ret a => trivial
  | op e k ih => exact ⟨trivial, fun b => ih b⟩

/-- The requests of a kind that every later past allows. -/
theorem Only.guarded {P : ∀ {β : Type}, E β → Prop} (only : p.Only P)
    (allowed : ∀ (more : List (Event E)) {β : Type} (e : E β), P e → R (past ++ more) e) :
    p.Guarded R (fun past' _ => ∃ more, past' = past ++ more) past := by
  suffices later : ∀ more, p.Guarded R (fun past' _ => ∃ more, past' = past ++ more)
      (past ++ more) by
    have start := later []
    rwa [List.append_nil] at start
  induction p with
  | ret a => exact fun more => ⟨more, rfl⟩
  | op e k ih =>
    intro more
    refine ⟨allowed more e only.1, fun b => ?_⟩
    rw [List.append_assoc]
    exact ih b (only.2 b) _

/-- What remains of a program after a partial execution. -/
theorem Guarded.after {q : Prog E α} {tr : List (Event E)} (guarded : p.Guarded R Q past)
    (run : Exec p tr q) : q.Guarded R Q (past ++ tr) := by
  induction run generalizing past with
  | refl p => rwa [List.append_nil]
  | step b _ ih =>
    rw [List.append_cons]
    exact ih (guarded.2 b)

/-- What allows the next request of an execution. -/
theorem Guarded.exec {e : E β} {k : β → Prog E α} {tr : List (Event E)}
    (guarded : p.Guarded R Q past) (run : Exec p tr (.op e k)) : R (past ++ tr) e :=
  (guarded.after run).1

/-- A program that makes the requests of another one, which a longer past allows. -/
theorem Guarded.lift {φ : ∀ {β : Type}, E β → F β}
    {R' : List (Event F) → ∀ {β : Type}, F β → Prop} {K : List (Event F) → List (Event E) → Prop}
    {past' : List (Event F)} (guarded : p.Guarded R Q past) (similar : K past' past)
    (grows : ∀ {past' past} {β : Type} (e : E β) (b : β), K past' past →
      K (past' ++ [⟨φ e, b⟩]) (past ++ [⟨e, b⟩]))
    (allowed : ∀ {past' past} {β : Type} (e : E β), K past' past → R past e → R' past' (φ e)) :
    (p.lift φ).Guarded R' (fun past' a => ∃ past, K past' past ∧ Q past a) past' := by
  induction p generalizing past past' with
  | ret a => exact ⟨past, similar, guarded⟩
  | op e k ih =>
    exact ⟨allowed e similar guarded.1, fun b => ih b (guarded.2 b) (grows e b similar)⟩

/-- A program whose requests the state of an automaton allows, which their past has led to. -/
theorem Guarded.follows {G : Type} {P : Protocol E G} {g : G} {T : G → α → Prop}
    (guarded : p.Guarded (fun past {_} e => P.allows (P.after g past) e)
      (fun past a => T (P.after g past) a) past) : P.Follows T (P.after g past) p := by
  induction p generalizing past with
  | ret a => exact guarded
  | op e k ih =>
    refine ⟨guarded.1, fun b => ?_⟩
    have rest := ih b (guarded.2 b)
    rwa [Protocol.after_snoc] at rest

end Guarded

/-! ## Substitution -/

/-- Perform a program of another signature in place of every request. -/
def subst (σ : ∀ {β : Type}, E β → Prog F β) : Prog E α → Prog F α
  | .ret a => .ret a
  | .op e k => σ e >>= fun b => (k b).subst σ

theorem Only.subst {P : ∀ {β : Type}, E β → Prop} {Q : ∀ {β : Type}, F β → Prop}
    {σ : ∀ {β : Type}, E β → Prog F β} (each : ∀ {β : Type} (e : E β), P e → (σ e).Only Q)
    {p : Prog E α} (only : p.Only P) : (p.subst σ).Only Q := by
  induction p with
  | ret a => trivial
  | op e k ih => exact (each e only.1).bind fun b => ih b (only.2 b)

end Prog

/-- A program whose requests are replaced follows an automaton, if each replacement takes it
from the state of a request to the state after it. -/
theorem Protocol.Follows.subst {G G' : Type} {P : Protocol E G} {P' : Protocol F G'}
    (settle : G → G') {σ : ∀ {β : Type}, E β → Prog F β} {Q : G → α → Prop}
    (replaced : ∀ {g : G} {β : Type} (e : E β), P.allows g e →
      P'.Follows (fun g' b => g' = settle (P.next g e b)) (settle g) (σ e))
    {g : G} {p : Prog E α} (follows : P.Follows Q g p) :
    P'.Follows (fun g' a => ∃ g, g' = settle g ∧ Q g a) (settle g) (p.subst σ) := by
  induction p generalizing g with
  | ret a => exact ⟨g, rfl, follows⟩
  | op e k ih =>
    refine Follows.bind (replaced e follows.1) ?_
    rintro _ b rfl
    exact ih b (follows.2 b)

/-- The requests of a program that follows are of the kinds its automaton allows in the states
that it does not leave. -/
theorem Protocol.Follows.only_of_kept {G : Type} {P : Protocol E G} {Q : G → α → Prop}
    {I : G → Prop} {R : ∀ {β : Type}, E β → Prop}
    (kept : ∀ {g : G} {β : Type} (e : E β) (b : β), I g → P.allows g e → I (P.next g e b))
    (allowed : ∀ {g : G} {β : Type} (e : E β), I g → P.allows g e → R e)
    {g : G} {p : Prog E α} (start : I g) (follows : P.Follows Q g p) : p.Only R := by
  induction p generalizing g with
  | ret a => trivial
  | op e k ih =>
    exact ⟨allowed e start follows.1, fun b => ih b (kept e b start follows.1) (follows.2 b)⟩

/-- The requests of a program that follows are of the kinds its automaton allows. -/
theorem Protocol.Follows.only {G : Type} {P : Protocol E G} {Q : G → α → Prop}
    {R : ∀ {β : Type}, E β → Prop} (allowed : ∀ {g : G} {β : Type} (e : E β), P.allows g e → R e)
    {g : G} {p : Prog E α} (follows : P.Follows Q g p) : p.Only R :=
  follows.only_of_kept (I := fun _ => True) (fun _ _ _ _ => trivial) (fun e _ => allowed e) trivial

/-- A program whose requests are allowed in every state follows from everywhere. -/
theorem Protocol.Follows.of_admitted {G : Type} {P : Protocol E G} {p : Prog E α}
    (only : p.Only fun {_} e => ∀ g, P.allows g e) (g : G) : P.Follows (fun _ _ => True) g p := by
  induction p generalizing g with
  | ret a => trivial
  | op e k ih => exact ⟨only.1 g, fun b => ih b (only.2 b) _⟩

/-- An automaton that a program's requests neither leave nor are refused by. -/
theorem Protocol.Follows.of_only {G : Type} {P : Protocol E G} {g : G} {p : Prog E α}
    (only : p.Only fun {β} e => P.allows g e ∧ ∀ b : β, P.next g e b = g) :
    P.Follows (fun g' _ => g' = g) g p := by
  induction p with
  | ret a => rfl
  | op e k ih =>
    refine ⟨only.1.1, fun b => ?_⟩
    rw [only.1.2 b]
    exact ih b (only.2 b)

end Effect
