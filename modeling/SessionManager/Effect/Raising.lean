import SessionManager.Effect.Handle

/-!
# Programs that raise

A program of `ExceptT ε (Prog E)` ends with a value or with an exception.  Some requests cannot
fail (`sync`), others answer an exception or a value (`await`).  `Protocol.Keeps` is
`Protocol.Follows` with one postcondition for each way to end; its rules follow the structure of
such programs.
-/

namespace Effect

universe u

variable {E : Type → Type u} {ε α β : Type}

/-- Perform a request that does not fail. -/
def sync (e : E α) : ExceptT ε (Prog E) α := ExceptT.lift (Prog.perform e)

/-- Perform a request that answers an exception or a value. -/
def await (e : E (Except ε α)) : ExceptT ε (Prog E) α := ExceptT.mk (Prog.perform e)

/-- How a program ends, whatever it raises. -/
def attempt (p : ExceptT ε (Prog E) α) : ExceptT ε (Prog E) (Except ε α) := ExceptT.lift p.run

/-- End in the same way. -/
def rethrow : Except ε α → ExceptT ε (Prog E) α
  | .ok a => pure a
  | .error e => throw e

/-- `if condition: p` -/
def when (condition : Bool) (p : ExceptT ε (Prog E) Unit) : ExceptT ε (Prog E) Unit :=
  if condition then p else pure ()

/-! ## Only some requests -/

section Only

variable {P : ∀ {β : Type}, E β → Prop}

/-- The program performs requests of a kind only. -/
def Makes (P : ∀ {β : Type}, E β → Prop) (p : ExceptT ε (Prog E) α) : Prop := p.run.Only P

theorem makes_pure (a : α) : Makes P (pure a : ExceptT ε (Prog E) α) := trivial

theorem makes_throw (e : ε) : Makes P (throw e : ExceptT ε (Prog E) α) := trivial

theorem makes_sync {e : E α} (here : P e) : Makes P (sync e : ExceptT ε (Prog E) α) :=
  ⟨here, fun _ => trivial⟩

theorem makes_await {e : E (Except ε α)} (here : P e) :
    Makes P (await e : ExceptT ε (Prog E) α) :=
  ⟨here, fun _ => trivial⟩

theorem makes_rethrow (r : Except ε α) : Makes P (rethrow r : ExceptT ε (Prog E) α) := by
  cases r with
  | ok a => exact makes_pure a
  | error e => exact makes_throw e

theorem Makes.bind {p : ExceptT ε (Prog E) α} {f : α → ExceptT ε (Prog E) β} (first : Makes P p)
    (second : ∀ a, Makes P (f a)) : Makes P (p >>= f) := by
  refine Prog.Only.bind first fun r => ?_
  cases r with
  | ok a => exact second a
  | error e => exact trivial

theorem Makes.attempt {p : ExceptT ε (Prog E) α} (makes : Makes P p) : Makes P (attempt p) :=
  Prog.Only.bind makes fun _ => trivial

theorem Makes.when {condition : Bool} {p : ExceptT ε (Prog E) Unit} (makes : Makes P p) :
    Makes P (when condition p) := by
  unfold Effect.when
  split
  · exact makes
  · exact makes_pure ()

end Only

/-! ## Protocols -/

section Keeps

variable {G : Type}

/-- One postcondition for each way to end. -/
def Ends (Q : G → α → Prop) (X : G → ε → Prop) (g : G) : Except ε α → Prop
  | .ok a => Q g a
  | .error e => X g e

/-- From state `g` the program follows the protocol; it returns as `Q` and raises as `X` say. -/
def Protocol.Keeps (P : Protocol E G) (Q : G → α → Prop) (X : G → ε → Prop) (g : G)
    (p : ExceptT ε (Prog E) α) : Prop :=
  P.Follows (Ends Q X) g p.run

variable {P : Protocol E G} {Q : G → α → Prop} {R : G → β → Prop} {X : G → ε → Prop} {g : G}

theorem keeps_pure {a : α} (holds : Q g a) : P.Keeps Q X g (pure a) := holds

theorem keeps_throw {e : ε} (holds : X g e) : P.Keeps Q X g (throw e) := holds

theorem keeps_sync {e : E α} (allowed : P.allows g e) (holds : ∀ a, Q (P.next g e a) a) :
    P.Keeps Q X g (sync e) :=
  ⟨allowed, holds⟩

theorem keeps_await {e : E (Except ε α)} (allowed : P.allows g e)
    (returned : ∀ a, Q (P.next g e (.ok a)) a)
    (raised : ∀ x, X (P.next g e (.error x)) x) : P.Keeps Q X g (await e) := by
  refine ⟨allowed, fun r => ?_⟩
  cases r with
  | ok a => exact returned a
  | error x => exact raised x

theorem keeps_rethrow {r : Except ε α} (ends : Ends Q X g r) : P.Keeps Q X g (rethrow r) := by
  cases r with
  | ok a => exact ends
  | error e => exact ends

theorem Protocol.Keeps.bind {p : ExceptT ε (Prog E) α} {f : α → ExceptT ε (Prog E) β}
    (first : P.Keeps Q X g p) (second : ∀ g a, Q g a → P.Keeps R X g (f a)) :
    P.Keeps R X g (p >>= f) := by
  refine Protocol.Follows.bind first fun g r ends => ?_
  cases r with
  | ok a => exact second g a ends
  | error e => exact ends

theorem keeps_sync_bind {e : E α} {f : α → ExceptT ε (Prog E) β} (allowed : P.allows g e)
    (rest : ∀ a, P.Keeps R X (P.next g e a) (f a)) : P.Keeps R X g (sync e >>= f) :=
  ⟨allowed, rest⟩

theorem keeps_await_bind {e : E (Except ε α)} {f : α → ExceptT ε (Prog E) β}
    (allowed : P.allows g e) (rest : ∀ a, P.Keeps R X (P.next g e (.ok a)) (f a))
    (raised : ∀ x, X (P.next g e (.error x)) x) : P.Keeps R X g (await e >>= f) := by
  refine ⟨allowed, fun r => ?_⟩
  cases r with
  | ok a => exact rest a
  | error x => exact raised x

theorem Protocol.Keeps.mono {Q' : G → α → Prop} {X' : G → ε → Prop} {p : ExceptT ε (Prog E) α}
    (keeps : P.Keeps Q X g p) (returned : ∀ g a, Q g a → Q' g a)
    (raised : ∀ g e, X g e → X' g e) : P.Keeps Q' X' g p := by
  refine Protocol.Follows.mono (fun g r ends => ?_) keeps
  cases r with
  | ok a => exact returned g a ends
  | error e => exact raised g e ends

/-- An attempt returns, whatever the program does. -/
theorem Protocol.Keeps.attempt {p : ExceptT ε (Prog E) α} {Y : G → ε → Prop}
    (keeps : P.Keeps Q X g p) : P.Keeps (Ends Q X) Y g (attempt p) :=
  Protocol.Follows.bind keeps fun _ _ ends => ends

theorem Protocol.Keeps.when {Q : G → Unit → Prop} {condition : Bool}
    {p : ExceptT ε (Prog E) Unit} (keeps : condition = true → P.Keeps Q X g p)
    (skipped : condition = false → Q g ()) : P.Keeps Q X g (when condition p) := by
  cases condition with
  | true => exact keeps rfl
  | false => exact skipped rfl

/-! ## Invariants -/

/-- The program keeps a property of the states of the protocol, however it ends. -/
def Protocol.Retains (P : Protocol E G) (I : G → Prop) (p : ExceptT ε (Prog E) α) : Prop :=
  ∀ g, I g → P.Keeps (fun g _ => I g) (fun g _ => I g) g p

variable {I : G → Prop}

theorem retains_pure (a : α) : P.Retains I (pure a : ExceptT ε (Prog E) α) := fun _ holds => holds

theorem retains_throw (e : ε) : P.Retains I (throw e : ExceptT ε (Prog E) α) := fun _ holds => holds

theorem retains_rethrow (r : Except ε α) : P.Retains I (rethrow r : ExceptT ε (Prog E) α) := by
  cases r with
  | ok a => exact retains_pure a
  | error e => exact retains_throw e

theorem retains_sync {e : E α} (kept : ∀ g, I g → P.allows g e ∧ ∀ a, I (P.next g e a)) :
    P.Retains I (sync e : ExceptT ε (Prog E) α) := kept

theorem retains_await {e : E (Except ε α)} (kept : ∀ g, I g → P.allows g e ∧ ∀ r, I (P.next g e r)) :
    P.Retains I (await e : ExceptT ε (Prog E) α) := by
  intro g holds
  obtain ⟨allowed, next⟩ := kept g holds
  exact keeps_await allowed (fun a => next (.ok a)) fun x => next (.error x)

theorem Protocol.Retains.bind {p : ExceptT ε (Prog E) α} {f : α → ExceptT ε (Prog E) β}
    (first : P.Retains I p) (second : ∀ a, P.Retains I (f a)) : P.Retains I (p >>= f) :=
  fun g holds => (first g holds).bind fun g a holds => second a g holds

theorem Protocol.Retains.attempt {p : ExceptT ε (Prog E) α} (retains : P.Retains I p) :
    P.Retains I (attempt p) := by
  intro g holds
  refine (Protocol.Keeps.attempt (Y := fun g _ => I g) (retains g holds)).mono (fun g r ends => ?_)
    fun _ _ holds => holds
  cases r with
  | ok a => exact ends
  | error e => exact ends

theorem Protocol.Retains.when {condition : Bool} {p : ExceptT ε (Prog E) Unit}
    (retains : condition = true → P.Retains I p) : P.Retains I (when condition p) :=
  fun g holds => Protocol.Keeps.when (fun met => retains met g holds) fun _ => holds

/-- A program that makes requests of a kind only keeps what these keep. -/
theorem Makes.retains {K : ∀ {β : Type}, E β → Prop} {p : ExceptT ε (Prog E) α} (makes : Makes K p)
    (step : ∀ {g : G} {γ : Type} (e : E γ), I g → K e → P.allows g e ∧ ∀ c, I (P.next g e c)) :
    P.Retains I p := by
  intro g holds
  suffices ∀ {g : G} {p : Prog E (Except ε α)}, p.Only K → I g →
      P.Follows (Ends (fun g _ => I g) fun g _ => I g) g p from this makes holds
  intro g p only holds
  induction p generalizing g with
  | ret r =>
    cases r with
    | ok a => exact holds
    | error e => exact holds
  | op e k ih =>
    obtain ⟨allowed, next⟩ := step e holds only.1
    exact ⟨allowed, fun c => ih c (only.2 c) (next c)⟩

end Keeps

end Effect
