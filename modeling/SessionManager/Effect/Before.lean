import SessionManager.Effect.Handle

/-!
# Requests that come before others

`Protocol.before P Q` allows requests of kind `P` until the first of kind `Q`.  Programs follow it
by their parts, and what a program of this kind has done, it does not do again: behind a request
of kind `Q` an execution has none of kind `P` (`Follows.none_behind`).
-/

namespace Effect

universe u v

variable {E : Type → Type u} {F : Type → Type v} {α β : Type}

namespace Protocol

/-- No request of the first kind comes after one of the second. -/
def before (P Q : ∀ {β : Type}, E β → Prop) : Protocol E Prop where
  allows late _ e := P e → ¬ late
  next late _ e _ := late ∨ Q e

variable {P Q : ∀ {β : Type}, E β → Prop} {late : Prop}

/-- As long as there is none of the second kind. -/
theorem before_early {p : Prog E α} (only : p.Only fun e => ¬ Q e) (early : ¬ late) :
    (before P Q).Follows (fun late _ => ¬ late) late p := by
  induction p generalizing late with
  | ret a => exact early
  | op e k ih => exact ⟨fun _ => early, fun b => ih b (only.2 b) (not_or.mpr ⟨early, only.1⟩)⟩

/-- Once there is none of the first kind any more. -/
theorem before_late {p : Prog E α} (only : p.Only fun e => ¬ P e) :
    (before P Q).Follows (fun _ _ => True) late p := by
  induction p generalizing late with
  | ret a => trivial
  | op e k ih => exact ⟨fun first => absurd first only.1, fun b => ih b (only.2 b)⟩

theorem after_before (tr : List (Event E)) :
    (before P Q).after late tr ↔ late ∨ ∃ ev ∈ tr, Q ev.request := by
  induction tr generalizing late with
  | nil => simp
  | cons ev tr ih =>
    rw [after_cons, ih]
    simp only [before, List.mem_cons, exists_eq_or_imp, or_assoc]

/-- **Behind a request of the second kind there is none of the first.** -/
theorem Follows.none_behind {R : Prop → α → Prop} {p q : Prog E α} {a b : List (Event E)}
    {ev : Event E} (follows : (before P Q).Follows R late p) (run : Exec p (a ++ ev :: b) q)
    (second : Q ev.request) : ∀ ev' ∈ b, ¬ P ev'.request := by
  intro ev' member first
  obtain ⟨x, y, rfl⟩ := List.append_of_mem member
  have split : a ++ ev :: (x ++ ev' :: y) = (a ++ ev :: x) ++ ev' :: y := by simp
  rw [split] at run
  refine follows.allowed run first ((after_before _).mpr (.inr ⟨ev, ?_, second⟩))
  exact List.mem_append_right a List.mem_cons_self

/-- A program whose requests are replaced by programs of their own kinds. -/
theorem Follows.before_subst {P' Q' : ∀ {β : Type}, F β → Prop} {R : Prop → α → Prop}
    {σ : ∀ {β : Type}, E β → Prog F β}
    (first : ∀ {β : Type} (e : E β), P e → (σ e).Only fun e => ¬ Q' e)
    (second : ∀ {β : Type} (e : E β), Q e → (σ e).Only fun e => ¬ P' e)
    (neither : ∀ {β : Type} (e : E β), ¬ P e → ¬ Q e → (σ e).Only fun e => ¬ P' e ∧ ¬ Q' e)
    {p : Prog E α} (follows : (before P Q).Follows R late p) {late' : Prop} (later : late' → late) :
    (before P' Q').Follows (fun _ _ => True) late' (p.subst σ) := by
  induction p generalizing late late' with
  | ret a => trivial
  | op e k ih =>
    by_cases here : P e
    · have early : ¬ late' := fun late => follows.1 here (later late)
      refine (before_early (first e here) early).bind fun late'' b early' => ?_
      exact ih b (follows.2 b) fun late => absurd late early'
    by_cases there : Q e
    · exact (before_late (second e there)).bind fun late'' b _ => ih b (follows.2 b) fun _ => .inr there
    · have only := neither e here there
      by_cases early : late'
      · exact (before_late (only.mono fun _ kept => kept.1)).bind fun late'' b _ =>
          ih b (follows.2 b) fun _ => .inl (later early)
      · exact (before_early (only.mono fun _ kept => kept.2) early).bind fun late'' b early' =>
          ih b (follows.2 b) fun late => absurd late early'

end Protocol

end Effect
