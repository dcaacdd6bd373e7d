import Mathlib.Logic.Basic

/-!
# Programs over a signature of atomic requests

`Prog E α` is a sequential program that performs requests of the signature `E`
one at a time and returns an `α`.  Every request is one atomic step of the
machine that answers it; what happens between two requests of one program is
left to that machine.  `Exec p tr q` runs `p` against arbitrary answers and
leaves the rest `q`.

A `Protocol` is an automaton over requests and their answers.
`Protocol.Follows` says that a program keeps to the automaton whatever it is
answered; `Protocol.follows_bind` and `Protocol.follows_lift` are the rules for
sequencing and for embedding a smaller signature.
-/

namespace Effect

universe u v

/-- A program performing requests of `E`; the type of an answer is the index of
its request. -/
inductive Prog (E : Type → Type u) (α : Type) : Type (max 1 u)
  | ret (value : α) : Prog E α
  | op {β : Type} (request : E β) (next : β → Prog E α) : Prog E α

variable {E : Type → Type u} {F : Type → Type v} {α β γ : Type}

namespace Prog

def bind : Prog E α → (α → Prog E β) → Prog E β
  | .ret a, f => f a
  | .op e k, f => .op e fun b => (k b).bind f

instance : Monad (Prog E) where
  pure := .ret
  bind := .bind

/-- Perform one request and return its answer. -/
def perform (e : E β) : Prog E β := .op e .ret

/-- Read a program over a signature that embeds the original one. -/
def lift (φ : ∀ {β : Type}, E β → F β) : Prog E α → Prog F α
  | .ret a => .ret a
  | .op e k => .op (φ e) fun b => (k b).lift φ

@[simp] theorem pure_eq (a : α) : (pure a : Prog E α) = .ret a := rfl

@[simp] theorem ret_bind (a : α) (f : α → Prog E β) : (Prog.ret a >>= f) = f a := rfl

@[simp] theorem op_bind (e : E γ) (k : γ → Prog E α) (f : α → Prog E β) :
    (Prog.op e k >>= f) = .op e fun b => k b >>= f := rfl

@[simp] theorem perform_bind (e : E α) (f : α → Prog E β) :
    (perform e >>= f) = .op e f := rfl

theorem bind_assoc (p : Prog E α) (f : α → Prog E β) (g : β → Prog E γ) :
    (p >>= f >>= g) = (p >>= fun a => f a >>= g) := by
  induction p with
  | ret a => rfl
  | op e k ih => exact congrArg (Prog.op e) (funext fun b => ih b)

@[simp] theorem lift_ret (φ : ∀ {β : Type}, E β → F β) (a : α) :
    (Prog.ret a : Prog E α).lift φ = .ret a := rfl

@[simp] theorem lift_op (φ : ∀ {β : Type}, E β → F β) (e : E γ) (k : γ → Prog E α) :
    (Prog.op e k).lift φ = .op (φ e) fun b => (k b).lift φ := rfl

theorem lift_bind (φ : ∀ {β : Type}, E β → F β) (p : Prog E α) (f : α → Prog E β) :
    (p >>= f).lift φ = p.lift φ >>= fun a => (f a).lift φ := by
  induction p with
  | ret a => rfl
  | op e k ih => exact congrArg (Prog.op (φ e)) (funext fun b => ih b)

end Prog

/-- One request together with the answer it received. -/
structure Event (E : Type → Type u) : Type (max 1 u) where
  {β : Type}
  request : E β
  answer : β

/-- Requests told apart by a property belong to different events. -/
theorem Event.ne_of {P : ∀ {β : Type}, E β → Prop} {x y : Event E} (here : P x.request)
    (there : ¬ P y.request) : x ≠ y := by
  rintro rfl
  exact there here

/-- `Exec p tr q`: the requests of `p` were answered as `tr` lists them, and `q`
is what remains of `p`. -/
inductive Exec : Prog E α → List (Event E) → Prog E α → Prop
  | refl (p : Prog E α) : Exec p [] p
  | step {β : Type} {e : E β} {k : β → Prog E α} (b : β) {tr : List (Event E)} {q : Prog E α} :
    Exec (k b) tr q → Exec (.op e k) (⟨e, b⟩ :: tr) q

/-- A returned program performs nothing more. -/
theorem Exec.of_ret {a : α} {tr : List (Event E)} {q : Prog E α}
    (run : Exec (.ret a) tr q) : tr = [] ∧ q = .ret a := by
  cases run
  exact ⟨rfl, rfl⟩

/-- One more request at the end of a partial execution. -/
theorem Exec.snoc {p q : Prog E α} {tr : List (Event E)} (run : Exec p tr q)
    {β : Type} {e : E β} {k : β → Prog E α} (rest : q = .op e k) (b : β) :
    Exec p (tr ++ [⟨e, b⟩]) (k b) := by
  induction run with
  | refl p => subst rest; exact .step b (.refl _)
  | step b' _ ih => exact .step b' (ih rest)

/-- When every request can be answered, a partial execution goes on to an end. -/
theorem Exec.complete (answers : ∀ {β : Type}, E β → Nonempty β) {p q : Prog E α}
    {tr : List (Event E)} (run : Exec p tr q) : ∃ rest a, Exec p (tr ++ rest) (.ret a) := by
  induction q generalizing tr with
  | ret a => exact ⟨[], a, by rwa [List.append_nil]⟩
  | op e k ih =>
    obtain ⟨b⟩ := answers e
    obtain ⟨rest, a, done⟩ := ih b (run.snoc rfl b)
    refine ⟨⟨e, b⟩ :: rest, a, ?_⟩
    rwa [List.append_cons]

/-- An execution passes through the request of each of its events. -/
theorem Exec.split {p q : Prog E α} {a b : List (Event E)} {e : E β} {c : β}
    (run : Exec p (a ++ ⟨e, c⟩ :: b) q) :
    ∃ k : β → Prog E α, Exec p a (.op e k) ∧ Exec (k c) b q := by
  induction a generalizing p with
  | nil =>
    cases run with
    | step _ rest => exact ⟨_, .refl _, rest⟩
  | cons first a ih =>
    cases run with
    | step d rest =>
      obtain ⟨k, before, after⟩ := ih rest
      exact ⟨k, .step d before, after⟩

/-- A program that has returned hands over to the next one. -/
theorem Exec.bind {p : Prog E α} {f : α → Prog E β} {q : Prog E β} {tr tr' : List (Event E)} {a : α}
    (first : Exec p tr (.ret a)) (second : Exec (f a) tr' q) : Exec (p >>= f) (tr ++ tr') q := by
  generalize returned : Prog.ret a = r at first
  induction first with
  | refl p => subst returned; exact second
  | step b _ ih => exact .step b (ih returned)

theorem Exec.lift {φ : ∀ {β : Type}, E β → F β} {p q : Prog E α} {tr : List (Event E)}
    (run : Exec p tr q) :
    Exec (p.lift φ) (tr.map fun ev => ⟨φ ev.request, ev.answer⟩) (q.lift φ) := by
  induction run with
  | refl p => exact .refl _
  | step b _ ih => exact .step b ih

/-- Every request the program can ever perform satisfies `P`. -/
def Prog.Only (P : ∀ {β : Type}, E β → Prop) : Prog E α → Prop
  | .ret _ => True
  | .op e k => P e ∧ ∀ b, (k b).Only P

theorem Exec.only {P : ∀ {β : Type}, E β → Prop} {p q : Prog E α} {tr : List (Event E)}
    (run : Exec p tr q) (only : p.Only P) : ∀ ev ∈ tr, P ev.request := by
  induction run with
  | refl p => exact fun _ member => absurd member List.not_mem_nil
  | step b _ ih =>
    intro ev member
    rcases List.mem_cons.mp member with rfl | member
    · exact only.1
    · exact ih (only.2 b) ev member

/-- An automaton over requests and answers: which requests a state allows, and
the state after one was answered. -/
structure Protocol (E : Type → Type u) (G : Type) where
  allows : G → ∀ {β : Type}, E β → Prop
  next : G → ∀ {β : Type}, E β → β → G

namespace Protocol

variable {G : Type} (P : Protocol E G)

/-- From state `g` the program performs allowed requests only, whatever they
are answered, and returns a value that `Q` accepts in the state it ends in. -/
def Follows (Q : G → α → Prop) : G → Prog E α → Prop
  | g, .ret a => Q g a
  | g, .op e k => P.allows g e ∧ ∀ b, Follows Q (P.next g e b) (k b)

@[simp] theorem follows_ret (Q : G → α → Prop) (g : G) (a : α) :
    P.Follows Q g (.ret a) ↔ Q g a := Iff.rfl

@[simp] theorem follows_op (Q : G → α → Prop) (g : G) (e : E β) (k : β → Prog E α) :
    P.Follows Q g (.op e k) ↔ P.allows g e ∧ ∀ b, P.Follows Q (P.next g e b) (k b) :=
  Iff.rfl

variable {P}

theorem follows_perform {Q : G → β → Prop} {g : G} {e : E α} {f : α → Prog E β} :
    P.Follows Q g (Prog.perform e >>= f) ↔ P.allows g e ∧ ∀ a, P.Follows Q (P.next g e a) (f a) :=
  Iff.rfl

theorem Follows.mono {Q R : G → α → Prop} (weaken : ∀ g a, Q g a → R g a) {g : G}
    {p : Prog E α} (follows : P.Follows Q g p) : P.Follows R g p := by
  induction p generalizing g with
  | ret a => exact weaken g a follows
  | op e k ih => exact ⟨follows.1, fun b => ih b (follows.2 b)⟩

/-- Sequencing: the second program takes over in the state the first ends in. -/
theorem Follows.bind {Q : G → α → Prop} {R : G → β → Prop} {g : G} {p : Prog E α}
    {f : α → Prog E β} (first : P.Follows Q g p)
    (second : ∀ g a, Q g a → P.Follows R g (f a)) : P.Follows R g (p >>= f) := by
  induction p generalizing g with
  | ret a => exact second g a first
  | op e k ih => exact ⟨first.1, fun b => ih b (first.2 b)⟩

/-- The automaton seen through an embedding of signatures. -/
def comap (P : Protocol F G) (φ : ∀ {β : Type}, E β → F β) : Protocol E G where
  allows g _ e := P.allows g (φ e)
  next g _ e b := P.next g (φ e) b

theorem follows_lift {P : Protocol F G} {φ : ∀ {β : Type}, E β → F β} {Q : G → α → Prop} {g : G}
    {p : Prog E α} : P.Follows Q g (p.lift φ) ↔ (P.comap φ).Follows Q g p := by
  induction p generalizing g with
  | ret a => exact Iff.rfl
  | op e k ih => exact and_congr Iff.rfl (forall_congr' fun b => ih b)

/-- A program of a smaller signature, run at states `settle g` of a larger automaton that
does what its own automaton does at `g`, hands over to `f` in the state it ends in. -/
theorem Follows.embed {G' : Type} {P : Protocol E G} {T : Protocol F G'}
    {φ : ∀ {β : Type}, E β → F β} {settle : G → G'} {Q : G → α → Prop} {R : G' → β → Prop}
    {f : α → Prog F β}
    (allows : ∀ {g : G} {γ : Type} {e : E γ}, P.allows g e → T.allows (settle g) (φ e))
    (next : ∀ {g : G} {γ : Type} {e : E γ} (c : γ), P.allows g e →
      T.next (settle g) (φ e) c = settle (P.next g e c))
    {g : G} {p : Prog E α} (follows : P.Follows Q g p)
    (done : ∀ g a, Q g a → T.Follows R (settle g) (f a)) :
    T.Follows R (settle g) (p.lift φ >>= f) := by
  induction p generalizing g with
  | ret a => exact done g a follows
  | op e k ih =>
    refine ⟨allows follows.1, fun c => ?_⟩
    have rest := ih c (follows.2 c)
    rwa [← next c follows.1] at rest

/-- The state after a list of answered requests. -/
def after (P : Protocol E G) (g : G) (tr : List (Event E)) : G :=
  tr.foldl (fun g ev => P.next g ev.request ev.answer) g

@[simp] theorem after_nil (g : G) : P.after g [] = g := rfl

@[simp] theorem after_cons (g : G) (ev : Event E) (tr : List (Event E)) :
    P.after g (ev :: tr) = P.after (P.next g ev.request ev.answer) tr := rfl

theorem after_snoc (g : G) (tr : List (Event E)) (ev : Event E) :
    P.after g (tr ++ [ev]) = P.next (P.after g tr) ev.request ev.answer := by
  rw [after, List.foldl_append]
  rfl

/-- What remains of a program after a partial execution still follows. -/
theorem Follows.exec {Q : G → α → Prop} {g : G} {p q : Prog E α} {tr : List (Event E)}
    (follows : P.Follows Q g p) (run : Exec p tr q) : P.Follows Q (P.after g tr) q := by
  induction run generalizing g with
  | refl p => exact follows
  | step b _ ih => exact ih (follows.2 b)

/-- Every request of an execution was allowed by the state before it. -/
theorem Follows.allowed {Q : G → α → Prop} {g : G} {p q : Prog E α} {a b : List (Event E)}
    {e : E β} {c : β} (follows : P.Follows Q g p) (run : Exec p (a ++ ⟨e, c⟩ :: b) q) :
    P.allows (P.after g a) e := by
  obtain ⟨k, before, -⟩ := run.split
  exact (follows.exec before).1

private theorem Follows.trail_from {Q : G → α → Prop} {T : G → List (Event E) → Prop} {g : G}
    {p q : Prog E α} {tr past : List (Event E)} (follows : P.Follows Q g p) (run : Exec p tr q)
    (step : ∀ {g : G} {past : List (Event E)} {γ : Type} (e : E γ) (c : γ), T g past →
      P.allows g e → T (P.next g e c) (past ++ [⟨e, c⟩]))
    (start : T g past) : T (P.after g tr) (past ++ tr) := by
  induction run generalizing g past with
  | refl p => rwa [List.append_nil]
  | step b _ ih =>
    rw [after_cons, List.append_cons]
    exact ih (follows.2 b) (step _ b start follows.1)

/-- A relation between the state and the requests made so far, kept by every allowed
request, holds after every partial execution. -/
theorem Follows.trail {Q : G → α → Prop} {T : G → List (Event E) → Prop} {g : G} {p q : Prog E α}
    {tr : List (Event E)} (follows : P.Follows Q g p) (run : Exec p tr q) (start : T g [])
    (step : ∀ {g : G} {past : List (Event E)} {γ : Type} (e : E γ) (c : γ), T g past →
      P.allows g e → T (P.next g e c) (past ++ [⟨e, c⟩])) : T (P.after g tr) tr :=
  follows.trail_from run step start

end Protocol

/-! ## What has been done -/

/-- Some event of the list was a request and answer that `P` accepts. -/
def Did (P : ∀ {β : Type}, E β → β → Prop) (tr : List (Event E)) : Prop :=
  ∃ ev ∈ tr, P ev.request ev.answer

@[simp] theorem did_nil (P : ∀ {β : Type}, E β → β → Prop) : ¬ Did P ([] : List (Event E)) :=
  fun ⟨_, member, _⟩ => List.not_mem_nil member

@[simp] theorem did_snoc (P : ∀ {β : Type}, E β → β → Prop) (tr : List (Event E)) (e : E β) (b : β) :
    Did P (tr ++ [⟨e, b⟩]) ↔ Did P tr ∨ P e b := by
  simp only [Did, List.mem_append, List.mem_singleton, or_and_right, exists_or, exists_eq_left]

theorem did_append (P : ∀ {β : Type}, E β → β → Prop) (tr tr' : List (Event E)) :
    Did P (tr ++ tr') ↔ Did P tr ∨ Did P tr' := by
  simp only [Did, List.mem_append, or_and_right, exists_or]

theorem did_cons (P : ∀ {β : Type}, E β → β → Prop) (e : E β) (b : β) (tr : List (Event E)) :
    Did P (⟨e, b⟩ :: tr) ↔ P e b ∨ Did P tr := by
  simp only [Did, List.mem_cons, or_and_right, exists_or, exists_eq_left]

/-- What was done through an embedding of signatures. -/
theorem did_map {φ : ∀ {β : Type}, E β → F β} (P : ∀ {β : Type}, F β → β → Prop)
    (tr : List (Event E)) :
    Did P (tr.map fun ev => ⟨φ ev.request, ev.answer⟩) ↔ Did (fun e b => P (φ e) b) tr := by
  simp only [Did, List.mem_map, exists_exists_and_eq_and]

theorem did_snoc_of_not {P : ∀ {β : Type}, E β → β → Prop} {tr : List (Event E)} {e : E β} {b : β}
    (other : ¬ P e b) : Did P (tr ++ [⟨e, b⟩]) ↔ Did P tr := by
  rw [did_snoc, or_iff_left other]

theorem did_snoc_of {P : ∀ {β : Type}, E β → β → Prop} {tr : List (Event E)} {e : E β} {b : β}
    (here : P e b) : Did P (tr ++ [⟨e, b⟩]) := (did_snoc P tr e b).mpr (.inr here)

end Effect
