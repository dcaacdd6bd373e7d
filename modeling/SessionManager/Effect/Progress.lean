import Mathlib.Algebra.BigOperators.Group.Finset.Piecewise
import SessionManager.Effect.Pool

/-!
# Progress

Programs that make a bounded number of requests, and what becomes of a pool in which some of them
take their steps for as long as they can: after finitely many steps each of them has returned, or
waits for an answer that the shared state does not have for it.
-/

namespace Effect

universe u v

variable {E : Type → Type u} {F : Type → Type v} {α β : Type}

/-! ## Bounded programs -/

/-- Whatever it is answered, the program makes at most so many requests. -/
def Prog.Within : Nat → Prog E α → Prop
  | _, .ret _ => True
  | 0, .op _ _ => False
  | n + 1, .op _ k => ∀ b, Within n (k b)

namespace Prog

theorem within_ret (n : Nat) (a : α) : (Prog.ret a : Prog E α).Within n := by
  cases n <;> trivial

theorem Within.mono {n m : Nat} {p : Prog E α} (within : p.Within n) (le : n ≤ m) : p.Within m := by
  induction p generalizing n m with
  | ret a => exact within_ret m a
  | op e k ih =>
    cases n with
    | zero => exact within.elim
    | succ n =>
      obtain ⟨m, rfl⟩ : ∃ m', m = m' + 1 := ⟨m - 1, by omega⟩
      exact fun b => ih b (within b) (by omega)

theorem within_one (e : E α) : (perform e).Within 1 := fun b => within_ret 0 b

theorem Within.bind {n m : Nat} {p : Prog E α} {f : α → Prog E β} (first : p.Within n)
    (second : ∀ a, (f a).Within m) : (p >>= f).Within (n + m) := by
  induction p generalizing n with
  | ret a => exact (second a).mono (Nat.le_add_left m n)
  | op e k ih =>
    cases n with
    | zero => exact first.elim
    | succ n =>
      rw [Nat.succ_add]
      exact fun b => ih b (first b)

theorem Within.lift {φ : ∀ {β : Type}, E β → F β} {n : Nat} {p : Prog E α} (within : p.Within n) :
    (p.lift φ).Within n := by
  induction p generalizing n with
  | ret a => exact within_ret n a
  | op e k ih =>
    cases n with
    | zero => exact within.elim
    | succ n => exact fun b => ih b (within b)

end Prog

/-- What is left of a bounded program. -/
theorem Exec.within {n : Nat} {p q : Prog E α} {tr : List (Event E)} (run : Exec p tr q)
    (within : p.Within n) : ∃ m, m + tr.length = n ∧ q.Within m := by
  induction run generalizing n with
  | refl p => exact ⟨n, rfl, within⟩
  | step b _ ih =>
    cases n with
    | zero => exact within.elim
    | succ n =>
      obtain ⟨m, sum, rest⟩ := ih (within b)
      exact ⟨m, by rw [List.length_cons]; omega, rest⟩

/-! ## Pools -/

namespace Pool

variable {ι : Type} [DecidableEq ι] {S R : Type} {sem : Semantics ι E S} {p q r : Pool ι E S R}
  {tr : List (PoolEvent ι E)}

/-- The thread can take a step. -/
def Enabled (sem : Semantics ι E S) (q : Pool ι E S R) (i : ι) : Prop := ∃ ev r, ev.tid = i ∧ Step sem q ev r

omit [DecidableEq ι] in
/-- The thread has returned. -/
def Returned (q : Pool ι E S R) (i : ι) : Prop := ∃ a, q.thread i = .ret a

instance (q : Pool ι E S R) (i : ι) : Decidable (q.Returned i) :=
  match here : q.thread i with
  | .ret a => .isTrue ⟨a, here⟩
  | .op _ _ => .isFalse fun ⟨_, returned⟩ => by cases here.symm.trans returned

theorem enabled_iff {i : ι} : Enabled sem q i ↔
    ∃ (β : Type) (e : E β) (k : β → Prog E R) (b : β) (s : S),
      q.thread i = .op e k ∧ sem i q.shared e b s := by
  constructor
  · rintro ⟨ev, r, rfl, step⟩
    cases step with
    | step here answered => exact ⟨_, _, _, _, _, here, answered⟩
  · rintro ⟨β, e, k, b, s, here, answered⟩
    exact ⟨⟨i, ⟨e, b⟩⟩, _, rfl, .step here answered⟩

/-- In a run, each thread makes at most as many steps as its program has. -/
theorem Run.project_length {i : ι} {n : Nat} (run : Run sem p tr q) (within : (p.thread i).Within n) :
    (Pool.project i tr).length ≤ n := by
  obtain ⟨m, sum, -⟩ := (run.project i).within within
  omega

/-- A step of a thread takes one of its steps away. -/
theorem Step.within {bound : ι → Nat} {ev : PoolEvent ι E} (step : Step sem q ev r)
    (within : ∀ i, (q.thread i).Within (bound i)) :
    ∃ n, bound ev.tid = n + 1 ∧ ∀ i, (r.thread i).Within (Function.update bound ev.tid n i) := by
  cases step with
  | @step s s' thread i β e k b here answered =>
    have own : (thread i).Within (bound i) := within i
    rw [here] at own
    cases n : bound i with
    | zero =>
      rw [n] at own
      exact own.elim
    | succ n' =>
      rw [n] at own
      refine ⟨n', rfl, fun j => ?_⟩
      by_cases same : j = i
      · subst same
        simpa only [Function.update_self] using own b
      · simpa only [Function.update_of_ne same] using within j

/-- **Settling.**  When some bounded threads take steps for as long as any of them can, they come
to an end: each has returned or waits. -/
theorem settle (sem : Semantics ι E S) (threads : Finset ι) {bound : ι → Nat} (q : Pool ι E S R)
    (within : ∀ i, (q.thread i).Within (bound i)) :
    ∃ tr r, Run sem q tr r ∧ (∀ ev ∈ tr, ev.tid ∈ threads) ∧ tr.length ≤ ∑ i ∈ threads, bound i ∧
      ∀ i ∈ threads, ¬ Enabled sem r i := by
  generalize total : ∑ i ∈ threads, bound i = n
  induction n using Nat.strongRecOn generalizing q bound with
  | ind n ih =>
    by_cases stuck : ∀ i ∈ threads, ¬ Enabled sem q i
    · exact ⟨[], q, .nil q, fun _ none => absurd none List.not_mem_nil, Nat.zero_le _, stuck⟩
    · simp only [not_forall, not_not] at stuck
      obtain ⟨i, among, ev, r, rfl, step⟩ := stuck
      obtain ⟨m, here, rest⟩ := step.within within
      have less : ∑ i ∈ threads, Function.update bound ev.tid m i + 1 = n := by
        rw [← total, Finset.sum_update_of_mem among,
          Finset.sum_eq_add_sum_sdiff_singleton_of_mem among bound, here]
        omega
      obtain ⟨tr, r', run, only, short, settled⟩ :=
        ih _ (by omega) r rest rfl
      refine ⟨ev :: tr, r', ?_, ?_, by rw [List.length_cons]; omega, settled⟩
      · exact (Run.snoc (.nil q) step).append run
      · intro ev' member
        rcases List.mem_cons.mp member with rfl | later
        · exact among
        · exact only ev' later

end Pool

end Effect
