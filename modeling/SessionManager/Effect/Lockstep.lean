import SessionManager.Effect.Handle

/-!
# Two programs in lockstep

`Lockstep R Q p p'`: two programs perform their requests in pairs that `R` relates, and go on in
lockstep whatever related answers they get; the values they return are related by `Q`.  A handler
that answers related requests alike, in states it cannot tell apart, gives both programs related
values and leaves states it cannot tell apart (`handle_lockstep`).
-/

namespace Effect

universe u v

variable {E : Type → Type u} {F : Type → Type v} {α β γ δ S : Type}

/-- Requests that are performed side by side, with what their answers have in common. -/
abbrev Pairing (E : Type → Type u) : Type (max 1 u) :=
  ∀ {β : Type}, E β → E β → (β → β → Prop) → Prop

inductive Lockstep (R : Pairing E) (Q : α → β → Prop) : Prog E α → Prog E β → Prop
  | ret {a : α} {b : β} : Q a b → Lockstep R Q (.ret a) (.ret b)
  | op {γ : Type} {e e' : E γ} {k : γ → Prog E α} {k' : γ → Prog E β} (alike : γ → γ → Prop) :
    R e e' alike → (∀ c c', alike c c' → Lockstep R Q (k c) (k' c')) →
    Lockstep R Q (.op e k) (.op e' k')

namespace Lockstep

variable {R : Pairing E} {Q : α → β → Prop}

theorem bind {T : γ → δ → Prop} {p : Prog E α} {p' : Prog E β} {f : α → Prog E γ} {f' : β → Prog E δ}
    (first : Lockstep R Q p p') (second : ∀ a b, Q a b → Lockstep R T (f a) (f' b)) :
    Lockstep R T (p >>= f) (p' >>= f') := by
  induction first with
  | ret related => exact second _ _ related
  | op alike paired _ ih => exact .op alike paired ih

theorem lift {φ : ∀ {β : Type}, E β → F β} {R' : Pairing F}
    (paired : ∀ {γ : Type} {e e' : E γ} {alike : γ → γ → Prop}, R e e' alike → R' (φ e) (φ e') alike)
    {p : Prog E α} {p' : Prog E β} (lockstep : Lockstep R Q p p') :
    Lockstep R' Q (p.lift φ) (p'.lift φ) := by
  induction lockstep with
  | ret related => exact .ret related
  | op alike here _ ih => exact .op alike (paired here) ih

/-- A program is in lockstep with itself if its requests are. -/
theorem of_only {P : ∀ {β : Type}, E β → Prop}
    (paired : ∀ {γ : Type} {e : E γ}, P e → R e e Eq) {p : Prog E α} (only : p.Only P) :
    Lockstep R Eq p p := by
  induction p with
  | ret a => exact .ret rfl
  | op e k ih =>
    refine .op Eq (paired only.1) fun c c' same => ?_
    subst same
    exact ih c (only.2 c)

end Lockstep

/-- Answers and states that two handled programs have in common. -/
abbrev Both (Q : α → β → Prop) (I : S → S → Prop) : Option (α × S) → Option (β × S) → Prop :=
  Option.Rel fun here there => Q here.1 there.1 ∧ I here.2 there.2

/-- Answers of which the same can be seen. -/
theorem both_of_map {T : Type} {see : α → γ} {see' : β → γ} {f : S → T} {here : Option (α × S)}
    {there : Option (β × S)}
    (same : (here.map fun r => (see r.1, f r.2)) = there.map fun r => (see' r.1, f r.2)) :
    Both (fun a b => see a = see' b) (fun s t => f s = f t) here there := by
  cases here with
  | none =>
    cases there with
    | none => exact .none
    | some there => cases same
  | some here =>
    cases there with
    | none => cases same
    | some there =>
      obtain ⟨answers, states⟩ := Prod.mk.inj (Option.some.inj same)
      exact .some ⟨answers, states⟩

variable {h : Handler E S} {I : S → S → Prop} {Q : α → β → Prop}

theorem Both.mono {Q' : α → β → Prop} {here : Option (α × S)} {there : Option (β × S)}
    (both : Both Q I here there) (weaken : ∀ a b, Q a b → Q' a b) : Both Q' I here there := by
  cases both with
  | none => exact .none
  | some alike => exact .some ⟨weaken _ _ alike.1, alike.2⟩

/-- After a first pair of requests that are answered alike. -/
theorem both_op {e e' : E γ} {k : γ → Prog E α} {k' : γ → Prog E β} {alike : γ → γ → Prop} {s s' : S}
    (first : Both alike I (h e s) (h e' s'))
    (rest : ∀ c c' t t', alike c c' → I t t' → Both Q I ((k c).handle h t) ((k' c').handle h t')) :
    Both Q I ((Prog.op e k).handle h s) ((Prog.op e' k').handle h s') := by
  rw [Prog.handle_op, Prog.handle_op]
  generalize h e s = here at first
  generalize h e' s' = there at first
  cases first with
  | none => exact .none
  | some answered => exact rest _ _ _ _ answered.1 answered.2

/-- **Programs in lockstep are answered alike.** -/
theorem handle_lockstep {R : Pairing E}
    (step : ∀ {γ : Type} {e e' : E γ} {alike : γ → γ → Prop} (s s' : S), R e e' alike → I s s' →
      Both alike I (h e s) (h e' s'))
    {p : Prog E α} {p' : Prog E β} (lockstep : Lockstep R Q p p') {s s' : S} (start : I s s') :
    Both Q I (p.handle h s) (p'.handle h s') := by
  induction lockstep generalizing s s' with
  | ret related => exact .some ⟨related, start⟩
  | op alike paired _ ih =>
    exact both_op (step s s' paired start) fun c c' t t' answered same => ih c c' answered same

end Effect
