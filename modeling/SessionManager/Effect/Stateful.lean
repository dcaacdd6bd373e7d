import SessionManager.Effect.Handle

/-!
# Methods of an object

A method makes requests, changes the state of its object, and returns or raises; what it has
changed stays changed when it raises.  `Method.Runs` says what it makes of a past and a state:
every request is safe in its past, and there is one postcondition for each way to end.  Its rules
follow the structure of a method.
-/

namespace Effect

universe u

variable {E : Type → Type u} {S ε α β γ : Type}

/-- A method of an object whose state is `S`. -/
def Method (E : Type → Type u) (S ε α : Type) : Type (max 1 u) := S → Prog E (Except ε α × S)

namespace Method

def returning (a : α) : Method E S ε α := fun s => .ret (.ok a, s)

def raising (e : ε) : Method E S ε α := fun s => .ret (.error e, s)

def andThen (p : Method E S ε α) (f : α → Method E S ε β) : Method E S ε β := fun s =>
  (p s).bind fun
    | (.ok a, s') => f a s'
    | (.error e, s') => .ret (.error e, s')

instance : Monad (Method E S ε) where
  pure := returning
  bind := andThen

/-- Make a request that answers an exception or a value. -/
def ask (e : E (Except ε α)) : Method E S ε α := fun s => .op e fun r => .ret (r, s)

/-- Make a request that answers a value. -/
def observe (e : E α) : Method E S ε α := fun s => .op e fun a => .ret (.ok a, s)

def read : Method E S ε S := fun s => .ret (.ok s, s)

def write (f : S → S) : Method E S ε Unit := fun s => .ret (.ok (), f s)

/-- How a method ends, whatever it raises. -/
def attempt (p : Method E S ε α) : Method E S ε (Except ε α) := fun s =>
  (p s).bind fun r => .ret (.ok r.1, r.2)

/-- End in the same way. -/
def rethrow (r : Except ε α) : Method E S ε α := fun s => .ret (r, s)

/-- `if condition: p` -/
def when (condition : Bool) (p : Method E S ε Unit) : Method E S ε Unit :=
  if condition then p else returning ()

/-- One after the other, whatever they raise. -/
def each (p : γ → Method E S ε Unit) : List γ → Method E S ε Unit
  | [] => returning ()
  | x :: rest => do
    let _ ← attempt (p x)
    each p rest

/-! ## What a method makes of a past and a state -/

/-- Which requests may follow a past. -/
abbrev Safety (E : Type → Type u) := List (Event E) → ∀ {β : Type}, E β → Prop

/-- One postcondition for each way to end, and the state that is left. -/
def Leaves (Q : List (Event E) → S → α → Prop) (X : List (Event E) → S → ε → Prop)
    (past : List (Event E)) : Except ε α × S → Prop
  | (.ok a, s) => Q past s a
  | (.error e, s) => X past s e

/-- What holds however a method ends. -/
theorem Leaves.always {I : List (Event E) → S → Prop} {past : List (Event E)} {r : Except ε α × S}
    (leaves : Leaves (fun past s _ => I past s) (fun past s _ => I past s) past r) : I past r.2 := by
  rcases r with ⟨_ | _, s⟩
  · exact leaves
  · exact leaves

/-- After `past` and from `s` the method makes safe requests only; it returns as `Q` and raises as
`X` say. -/
def Runs (safe : Safety E) (Q : List (Event E) → S → α → Prop)
    (X : List (Event E) → S → ε → Prop) (past : List (Event E)) (s : S) (p : Method E S ε α) : Prop :=
  (p s).Guarded safe (Leaves Q X) past

variable {safe : Safety E} {past tr : List (Event E)} {Q : List (Event E) → S → α → Prop}
  {R : List (Event E) → S → β → Prop} {X : List (Event E) → S → ε → Prop} {s : S}

theorem runs_pure {a : α} (holds : Q past s a) : Runs safe Q X past s (pure a) := holds

theorem runs_raising {e : ε} (holds : X past s e) : Runs safe Q X past s (raising e) := holds

theorem runs_rethrow {r : Except ε α} (leaves : Leaves Q X past (r, s)) :
    Runs safe Q X past s (rethrow r) := leaves

theorem runs_write {Q : List (Event E) → S → Unit → Prop} {f : S → S} (holds : Q past (f s) ()) :
    Runs safe Q X past s (write f) := holds

theorem runs_ask {e : E (Except ε α)} (allowed : safe past e)
    (leaves : ∀ r, Leaves Q X (past ++ [⟨e, r⟩]) (r, s)) : Runs safe Q X past s (ask e) :=
  ⟨allowed, leaves⟩

theorem Runs.bind {p : Method E S ε α} {f : α → Method E S ε β} (first : Runs safe Q X past s p)
    (second : ∀ past s a, Q past s a → Runs safe R X past s (f a)) :
    Runs safe R X past s (p >>= f) := by
  refine Prog.Guarded.bind first fun past r leaves => ?_
  rcases r with ⟨_ | a, s⟩
  · exact leaves
  · exact second past s a leaves

theorem runs_read_bind {f : S → Method E S ε β} (rest : Runs safe R X past s (f s)) :
    Runs safe R X past s (read >>= f) := rest

theorem runs_write_bind {h : S → S} {f : Unit → Method E S ε β}
    (rest : Runs safe R X past (h s) (f ())) : Runs safe R X past s (write h >>= f) := rest

theorem runs_ask_bind {e : E (Except ε α)} {f : α → Method E S ε β} (allowed : safe past e)
    (rest : ∀ a, Runs safe R X (past ++ [⟨e, .ok a⟩]) s (f a))
    (raised : ∀ x, X (past ++ [⟨e, .error x⟩]) s x) : Runs safe R X past s (ask e >>= f) := by
  refine ⟨allowed, fun r => ?_⟩
  cases r with
  | ok a => exact rest a
  | error x => exact raised x

theorem runs_observe_bind {e : E α} {f : α → Method E S ε β} (allowed : safe past e)
    (rest : ∀ a, Runs safe R X (past ++ [⟨e, a⟩]) s (f a)) : Runs safe R X past s (observe e >>= f) :=
  ⟨allowed, rest⟩

theorem runs_rethrow_bind {r : Except ε α} {f : α → Method E S ε β}
    (rest : ∀ a, r = .ok a → Runs safe R X past s (f a)) (raised : ∀ x, r = .error x → X past s x) :
    Runs safe R X past s (rethrow r >>= f) := by
  cases r with
  | ok a => exact rest a rfl
  | error x => exact raised x rfl

theorem Runs.mono {Q' : List (Event E) → S → α → Prop} {X' : List (Event E) → S → ε → Prop}
    {p : Method E S ε α} (runs : Runs safe Q X past s p)
    (returned : ∀ past s a, Q past s a → Q' past s a)
    (raised : ∀ past s e, X past s e → X' past s e) : Runs safe Q' X' past s p := by
  refine Prog.Guarded.mono runs fun past r leaves => ?_
  rcases r with ⟨e | a, s⟩
  · exact raised past s e leaves
  · exact returned past s a leaves

/-- An attempt returns, whatever the method does. -/
theorem Runs.attempt {p : Method E S ε α} {Y : List (Event E) → S → ε → Prop}
    (runs : Runs safe Q X past s p) :
    Runs safe (fun past s r => Leaves Q X past (r, s)) Y past s (attempt p) :=
  Prog.Guarded.bind runs fun _ _ leaves => leaves

theorem Runs.when {Q : List (Event E) → S → Unit → Prop} {condition : Bool} {p : Method E S ε Unit}
    (runs : condition = true → Runs safe Q X past s p) (skipped : condition = false → Q past s ()) :
    Runs safe Q X past s (when condition p) := by
  cases condition with
  | true => exact runs rfl
  | false => exact skipped rfl

/-- What a method that is over has left, and its whole history. -/
theorem Runs.exec {p : Method E S ε α} {s' : S} {r : Except ε α} (runs : Runs safe Q X past s p)
    (run : Exec (p s) tr (.ret (r, s'))) : Leaves Q X (past ++ tr) (r, s') :=
  Prog.Guarded.after runs run

/-! ## Invariants -/

/-- The method keeps an invariant of past and state, however it ends. -/
def Preserves (safe : Safety E) (I : List (Event E) → S → Prop) (p : Method E S ε α) : Prop :=
  ∀ past s, I past s → Runs safe (fun past s _ => I past s) (fun past s _ => I past s) past s p

variable {I : List (Event E) → S → Prop}

theorem preserves_pure (a : α) : Preserves safe I (pure a : Method E S ε α) := fun _ _ holds => holds

theorem preserves_raising (e : ε) : Preserves safe I (raising e : Method E S ε α) :=
  fun _ _ holds => holds

theorem preserves_rethrow (r : Except ε α) : Preserves safe I (rethrow r : Method E S ε α) := by
  intro past s holds
  cases r with
  | ok a => exact holds
  | error e => exact holds

theorem preserves_write {f : S → S} (kept : ∀ past s, I past s → I past (f s)) :
    Preserves safe I (write f : Method E S ε Unit) := fun past s holds => kept past s holds

theorem preserves_ask {e : E (Except ε α)}
    (kept : ∀ past s, I past s → safe past e ∧ ∀ r, I (past ++ [⟨e, r⟩]) s) :
    Preserves safe I (ask e : Method E S ε α) := by
  intro past s holds
  obtain ⟨allowed, next⟩ := kept past s holds
  refine ⟨allowed, fun r => ?_⟩
  cases r with
  | ok a => exact next _
  | error x => exact next _

theorem preserves_observe {e : E α} (kept : ∀ past s, I past s → safe past e ∧ ∀ a, I (past ++ [⟨e, a⟩]) s) :
    Preserves safe I (observe e : Method E S ε α) := fun past s holds => kept past s holds

theorem Preserves.bind {p : Method E S ε α} {f : α → Method E S ε β} (first : Preserves safe I p)
    (second : ∀ a, Preserves safe I (f a)) : Preserves safe I (p >>= f) :=
  fun past s holds => (first past s holds).bind fun past s a holds => second a past s holds

theorem preserves_read_bind {f : S → Method E S ε β} (rest : ∀ s, Preserves safe I (f s)) :
    Preserves safe I (read >>= f) := fun past s holds => rest s past s holds

theorem Preserves.attempt {p : Method E S ε α} (preserves : Preserves safe I p) :
    Preserves safe I (attempt p) := by
  intro past s holds
  exact ((preserves past s holds).attempt (Y := fun past s _ => I past s)).mono
    (fun _ _ _ leaves => leaves.always) fun _ _ _ holds => holds

theorem Preserves.when {condition : Bool} {p : Method E S ε Unit} (preserves : Preserves safe I p) :
    Preserves safe I (when condition p) :=
  fun past s holds => Runs.when (fun _ => preserves past s holds) fun _ => holds

/-- A list is served to its end. -/
theorem each_runs {p : γ → Method E S ε Unit} {xs : List γ} (preserves : ∀ x, Preserves safe I (p x))
    (holds : I past s) :
    Runs safe (fun past s _ => I past s) (fun _ _ _ => False) past s (each p xs) := by
  induction xs generalizing past s with
  | nil => exact runs_pure holds
  | cons x rest ih => exact ((preserves x past s holds).attempt).bind fun past s r leaves => ih leaves.always

theorem Preserves.each {p : γ → Method E S ε Unit} {xs : List γ}
    (preserves : ∀ x, Preserves safe I (p x)) : Preserves safe I (each p xs) :=
  fun _ _ holds => (each_runs preserves holds).mono (fun _ _ _ holds => holds) fun _ _ _ => False.elim

end Method

end Effect
