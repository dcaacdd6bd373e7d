import SessionManager.Adapter.Locked

/-!
# Agreement on an activation

The service accepts no request that was cancelled, and no caller replaces one that is pending.  The
acknowledgement is there before the last check, so a caller may return what the service goes on to
reject (`activation_agrees`).
-/

namespace SessionManager.Activation

open Python (Str)

open Effect Trace

/-! ## What is said of a run -/

/-- The request was acknowledged. -/
def acknowledges (request : Request) : Event FileOp → Prop
  | ⟨.acknowledge request' _, .ok _⟩ => request' = request
  | _ => False

def releases : Event FileOp → Prop
  | ⟨.release, _⟩ => True
  | _ => False

def accepts (request : Request) : Event FileOp → Prop
  | ⟨.accept request', _⟩ => request' = request
  | _ => False

def cancels (request_id : RequestId) : Event FileOp → Prop
  | ⟨.cancel request_id', .ok _⟩ => request_id' = request_id
  | _ => False

def replaces : Event FileOp → Prop
  | ⟨.replace_request _, .ok _⟩ => True
  | _ => False

/-- What is read lets a request pass: the file is as it was, the clock is before its deadline, and
there is nothing wrong with the config, the binding, the receipt and the process. -/
def passes (request : Request) : Event FileOp → Prop
  | ⟨.read_request, r⟩ => r = .ok (some request)
  | ⟨.clock, t⟩ => t < request.deadline
  | ⟨.evidence _, r⟩ => r = .ok ()
  | _ => True

/-- Between the acknowledgement of a request of this caller and the end of the locked section the
service reads only what lets it pass. -/
def Confirmed (n : Nat) (tr : List (PoolEvent Party FileOp)) : Prop :=
  ∀ a ev b, Pool.project .service tr = a ++ ev :: b → ∀ request, request.request_id = .caller n →
    Since (acknowledges request) (fun ev => ¬ releases ev) a → passes request ev

/-- The service has acknowledged the request and is still in the same locked section. -/
def Acknowledging (request : Request) (tr : List (PoolEvent Party FileOp)) : Prop :=
  Since (acknowledges request) (fun ev => ¬ releases ev) (Pool.project .service tr)

def Accepted (request : Request) (tr : List (PoolEvent Party FileOp)) : Prop :=
  ∃ ev ∈ Pool.project .service tr, accepts request ev

/-- The request is over, or it was cancelled. -/
def Lapsed (w : World) (request : Request) : Prop :=
  request.deadline ≤ w.now ∨ w.cancelled request.request_id = true

/-- What an `activate` that has returned an acknowledgement was told: the service has accepted its
request, or it is about to. -/
def AgreedWith (n : Nat) (tr : List (PoolEvent Party FileOp)) (q : Pool Party FileOp World Outcome) :
    Prop :=
  ∀ ack, q.thread (.caller n) = .ret (some (.ok (.active ack))) →
    ∃ request, request.request_id = .caller n ∧ (Accepted request tr ∨ Acknowledging request tr)

def Agreed (tr : List (PoolEvent Party FileOp)) (q : Pool Party FileOp World Outcome) : Prop :=
  ∀ n, AgreedWith n tr q

/-- A request that was cancelled is not accepted later. -/
def NotAfterCancel (tr : List (PoolEvent Party FileOp)) : Prop :=
  ∀ a b i request ev, tr = a ++ ⟨i, ev⟩ :: b → cancels request.request_id ev →
    ∀ later ∈ b, ¬ accepts request later.event

/-- The request of a caller, or another one of this generation, is replaced when it has lapsed. -/
def NotReplaced (cfg : Config) (start : Pool Party FileOp World Outcome)
    (tr : List (PoolEvent Party FileOp)) : Prop :=
  ∀ ev s, Pool.TakenIn (file_sem cfg) start tr ev s → replaces ev.event →
    ∀ old, s.shared.request = some old →
      (∃ n, old.request_id = .caller n) ∨ old.service_generation = cfg.generation →
        Lapsed s.shared old


/-! ## Beliefs -/

variable {cfg : Config} {w w' : World} {i j : Party} {g : Phase} {β : Type} {e : FileOp β} {b : β}

/-- What a process has found out is so. -/
structure Believes (cfg : Config) (w : World) (i : Party) (g : Phase) : Prop where
  party : g.party = i
  lock : g.holding = true → w.holder = some i
  told : ∀ generation, g.told = some generation → generation = cfg.generation
  found : g.holding = true → ∀ old, g.found = some old → w.request = old
  lapsed : g.holding = true → g.lapsed = true → ∀ old, g.found = some (some old) → Lapsed w old
  uncancelled : g.holding = true → ∀ id, g.uncancelled = some id → w.cancelled id = false
  acked : ∀ request, g.acked = some request → g.holding = true ∧ i = .service

/-- Nothing has changed that is under the lock. -/
structure Untouched (w w' : World) : Prop where
  holder : w'.holder = w.holder
  request : w'.request = w.request
  cancelled : w'.cancelled = w.cancelled
  now : w.now ≤ w'.now

theorem Untouched.rfl : Untouched w w := ⟨.refl _, .refl _, .refl _, Nat.le_refl _⟩

/-- The steps that change what is under the lock. -/
def FileOp.moving : ∀ {β : Type}, FileOp β → Bool
  | _, .acquire | _, .release | _, .replace_request _ | _, .cancel _ => true
  | _, _ => false

theorem untouched_of_answers (plain : e.moving = false) (answered : file_answers cfg i w e b w') :
    Untouched w w' := by
  cases e with
  | acquire | release | replace_request _ | cancel _ => cases plain
  | clock =>
    obtain ⟨later, rfl⟩ := answered
    exact ⟨rfl, rfl, rfl, later⟩
  | health =>
    cases b with
    | running _ _ =>
      obtain ⟨-, -, rfl⟩ := answered
      exact .rfl
    | _ =>
      obtain rfl := answered
      exact .rfl
  | read_request | read_ack =>
    cases b with
    | ok _ =>
      obtain ⟨-, rfl⟩ := answered
      exact .rfl
    | error _ =>
      obtain rfl := answered
      exact .rfl
  | request_exists | cancel_exists _ =>
    obtain ⟨-, rfl⟩ := answered
    exact .rfl
  | acknowledge _ _ | publish =>
    cases b with
    | ok _ =>
      obtain rfl := answered
      exact ⟨rfl, rfl, rfl, Nat.le_refl _⟩
    | error _ =>
      obtain rfl := answered
      exact .rfl
  | set_status _ | accept _ =>
    obtain rfl := answered
    exact ⟨rfl, rfl, rfl, Nat.le_refl _⟩
  | _ =>
    obtain rfl := answered
    exact .rfl

theorem Believes.frame (believes : Believes cfg w i g) (untouched : Untouched w w') :
    Believes cfg w' i g where
  party := believes.party
  lock held := untouched.holder.trans (believes.lock held)
  told := believes.told
  found held old here := untouched.request.trans (believes.found held old here)
  lapsed held gone old here := by
    rcases believes.lapsed held gone old here with late | cancelled
    · exact .inl (late.trans untouched.now)
    · exact .inr ((congrFun untouched.cancelled _).trans cancelled)
  uncancelled held id here := (congrFun untouched.cancelled _).trans (believes.uncancelled held id here)
  acked := believes.acked

/-- A process that does not hold the lock knows nothing. -/
theorem Believes.idle (believes : Believes cfg w i g) (free : g.holding = false) :
    Believes cfg w' i g where
  party := believes.party
  lock held := absurd held (Bool.eq_false_iff.mp free)
  told := believes.told
  found held := absurd held (Bool.eq_false_iff.mp free)
  lapsed held := absurd held (Bool.eq_false_iff.mp free)
  uncancelled held := absurd held (Bool.eq_false_iff.mp free)
  acked := believes.acked

/-- What one process does leaves the beliefs of the others. -/
theorem Believes.other {g' : Phase} (believes : Believes cfg w j g') (own : Believes cfg w i g)
    (apart : i ≠ j) (allows : allowed g e) (answered : file_answers cfg i w e b w') :
    Believes cfg w' j g' := by
  cases held : g'.holding with
  | false => exact believes.idle held
  | true =>
    have holder := believes.lock held
    have unheld (holding : g.holding = true) : False :=
      apart (Option.some.inj ((own.lock holding).symm.trans holder))
    cases e with
    | acquire =>
      cases b with
      | ok _ => cases holder.symm.trans answered.1
      | error _ =>
        obtain rfl := answered
        exact believes
    | release => exact (unheld allows.1).elim
    | replace_request _ => exact (unheld allows.1).elim
    | cancel _ => exact (unheld allows.1).elim
    | _ => exact believes.frame (untouched_of_answers rfl answered)

theorem Believes.left (believes : Believes cfg w i g) : Believes cfg w' i g.left where
  party := believes.party
  lock := nofun
  told := nofun
  found := nofun
  lapsed := nofun
  uncancelled := nofun
  acked := nofun

theorem of_finds {p : Request → Bool} (found : g.finds p = true) :
    ∃ old, g.found = some (some old) ∧ p old = true := by
  unfold Phase.finds at found
  split at found
  · rename_i old here
    exact ⟨old, here, found⟩
  · cases found

/-- What was found has lapsed by what is read now. -/
theorem Believes.lapses (believes : Believes cfg w' i g) {p : Request → Bool}
    (gone : ∀ old, p old = true → Lapsed w' old) (held : g.holding = true)
    (lapsed : (g.lapsed || g.finds p) = true) (old : Request) (here : g.found = some (some old)) :
    Lapsed w' old := by
  rcases Bool.or_eq_true_iff.mp lapsed with before | now
  · exact believes.lapsed held before old here
  · obtain ⟨old', here', same⟩ := of_finds now
    cases here.symm.trans here'
    exact gone old same

/-- What a process finds out is so. -/
theorem Believes.own (believes : Believes cfg w i g) (allows : allowed g e)
    (answered : file_answers cfg i w e b w') : Believes cfg w' i (g.next e b) := by
  cases e with
  | acquire =>
    cases b with
    | ok _ =>
      obtain ⟨-, rfl⟩ := answered
      exact ⟨believes.party, fun _ => rfl, nofun, nofun, nofun, nofun, nofun⟩
    | error _ =>
      obtain rfl := answered
      exact believes
  | release => exact believes.left
  | clock =>
    have believes := believes.frame (untouched_of_answers rfl answered)
    obtain ⟨-, rfl⟩ := answered
    exact { believes with
      lapsed := believes.lapses fun old late => .inl (of_decide_eq_true late) }
  | health =>
    cases b with
    | running status generation =>
      obtain ⟨-, rfl, rfl⟩ := answered
      refine { believes with told := fun generation same => ?_ }
      cases same
      rfl
    | _ =>
      obtain rfl := answered
      exact believes
  | read_request =>
    cases b with
    | ok found =>
      obtain ⟨rfl, rfl⟩ := answered
      exact { believes with
        found := fun _ old same => Option.some.inj same
        lapsed := nofun }
    | error _ =>
      obtain rfl := answered
      exact { believes with }
  | replace_request request =>
    cases b with
    | ok _ =>
      obtain rfl := answered
      exact { believes with found := nofun, lapsed := nofun }
    | error _ =>
      obtain rfl := answered
      exact { believes with found := nofun, lapsed := nofun }
  | read_ack =>
    cases b with
    | ok _ =>
      obtain ⟨-, rfl⟩ := answered
      exact { believes with }
    | error _ =>
      obtain rfl := answered
      exact believes
  | acknowledge request session_id =>
    have believes := believes.frame (untouched_of_answers rfl answered)
    cases b with
    | ok _ =>
      obtain ⟨party, held, -, -⟩ := allows
      exact { believes with acked := fun _ _ => ⟨held, believes.party.symm.trans party⟩ }
    | error _ => exact believes
  | cancel_exists request_id =>
    have untouched := untouched_of_answers rfl answered
    obtain ⟨there, rfl⟩ := answered
    cases b with
    | true =>
      refine { believes with lapsed := believes.lapses fun old same => .inr ?_ }
      rw [of_decide_eq_true same, ← there]
    | false =>
      refine { believes with uncancelled := fun _ id same => ?_ }
      cases same
      exact there.symm
  | cancel request_id =>
    cases b with
    | ok _ =>
      obtain rfl := answered
      refine { believes with uncancelled := nofun, lapsed := fun held gone old here => ?_ }
      rcases believes.lapsed held gone old here with late | cancelled
      · exact .inl late
      · refine .inr ?_
        by_cases same : old.request_id = request_id
        · rw [same]
          exact Function.update_self ..
        · exact (Function.update_of_ne same ..).trans cancelled
    | error _ =>
      obtain rfl := answered
      exact { believes with uncancelled := nofun }
  | evidence _ =>
    have believes := believes.frame (untouched_of_answers rfl answered)
    cases b with
    | ok _ => exact believes
    | error _ => exact { believes with }
  | accept request =>
    have believes := believes.frame (untouched_of_answers rfl answered)
    exact { believes with acked := nofun }
  | _ => exact believes.frame (untouched_of_answers rfl answered)

/-! ## The history of the service -/

variable {past : List (PoolEvent Party FileOp)} {request : Request}

theorem project_other (other : i ≠ .service) :
    Pool.project .service (past ++ [⟨i, ⟨e, b⟩⟩]) = Pool.project .service past :=
  Pool.project_snoc_of_ne other past ⟨e, b⟩

theorem project_own :
    Pool.project .service (past ++ [⟨.service, ⟨e, b⟩⟩]) = Pool.project .service past ++ [⟨e, b⟩] :=
  Pool.project_snoc_self .service past ⟨e, b⟩

theorem Confirmed.before {n : Nat} {ev : PoolEvent Party FileOp} (confirmed : Confirmed n (past ++ [ev])) :
    Confirmed n past := by
  intro x here y split
  refine confirmed x here (y ++ Pool.project .service [ev]) ?_
  rw [Pool.project_append, split, List.append_assoc, List.cons_append]

/-- The next step of the service lets the request pass. -/
theorem Confirmed.passes {n : Nat} (confirmed : Confirmed n (past ++ [⟨.service, ⟨e, b⟩⟩]))
    (own : request.request_id = .caller n) (acknowledging : Acknowledging request past) :
    passes request ⟨e, b⟩ :=
  confirmed _ _ [] project_own request own acknowledging

/-- A request of this caller was acknowledged. -/
def Acked (n : Nat) (past : List (PoolEvent Party FileOp)) : Prop :=
  ∃ request, request.request_id = .caller n ∧ ∃ ev ∈ Pool.project .service past, acknowledges request ev

/-- A request of this caller was accepted, or it is about to be. -/
def Settled (n : Nat) (acked : Option Request) (past : List (PoolEvent Party FileOp)) : Prop :=
  ∃ request, request.request_id = .caller n ∧ (Accepted request past ∨ acked = some request)

/-- What the phase of the service says about its history, and the directory about all of it. -/
structure History (service : Phase) (w : World) (past : List (PoolEvent Party FileOp)) : Prop where
  ack : ∀ ack, w.ack = some ack → ∀ n, ack.request_id = .caller n → Acked n past
  acking : ∀ request, service.acked = some request → Acknowledging request past
  steady : ∀ n, Confirmed n past → ∀ request, service.acked = some request →
    request.request_id = .caller n → service.failed = false
  settled : ∀ n, Confirmed n past → Acked n past → Settled n service.acked past

/-- The acknowledgement in the directory changes when the service acknowledges a request. -/
theorem ack_of_answers (answered : file_answers cfg i w e b w') : w'.ack = w.ack ∨
    ∃ request ack, acknowledges request ⟨e, b⟩ ∧ w'.ack = some ack ∧
      ack.request_id = request.request_id := by
  cases e with
  | acknowledge request session_id =>
    cases b with
    | ok _ =>
      obtain rfl := answered
      exact .inr ⟨request, _, rfl, rfl, rfl⟩
    | error _ =>
      obtain rfl := answered
      exact .inl rfl
  | acquire | read_request | read_ack =>
    cases b with
    | ok _ =>
      obtain ⟨-, rfl⟩ := answered
      exact .inl rfl
    | error _ =>
      obtain rfl := answered
      exact .inl rfl
  | health =>
    cases b with
    | running _ _ =>
      obtain ⟨-, -, rfl⟩ := answered
      exact .inl rfl
    | _ =>
      obtain rfl := answered
      exact .inl rfl
  | clock | request_exists | cancel_exists _ =>
    obtain ⟨-, rfl⟩ := answered
    exact .inl rfl
  | replace_request _ | cancel _ | publish =>
    cases b with
    | ok _ =>
      obtain rfl := answered
      exact .inl rfl
    | error _ =>
      obtain rfl := answered
      exact .inl rfl
  | _ =>
    obtain rfl := answered
    exact .inl rfl

/-- The acknowledgement a process has read last is in the directory, or was read before. -/
theorem saw_of_next (answered : file_answers cfg i w e b w') :
    (g.next e b).saw = g.saw ∨ (g.next e b).saw = w.ack := by
  cases e with
  | read_ack =>
    cases b with
    | ok _ => exact .inr answered.1
    | error _ => exact .inl rfl
  | acquire | health | read_request | acknowledge _ _ | cancel_exists _ | evidence _ =>
    cases b <;> exact .inl rfl
  | _ => exact .inl rfl

theorem service_of_acknowledges (allows : allowed g e) (acknowledged : acknowledges request ⟨e, b⟩) :
    g.party = .service := by
  cases e with
  | acknowledge request' session_id => exact allows.1
  | _ => exact acknowledged.elim

theorem Acked.later {n : Nat} {ev : PoolEvent Party FileOp} (acked : Acked n past) :
    Acked n (past ++ [ev]) := by
  obtain ⟨request, own, ev', member, acknowledged⟩ := acked
  refine ⟨request, own, ev', ?_, acknowledged⟩
  rw [Pool.project_append]
  exact List.mem_append_left _ member

theorem Acked.earlier {n : Nat} (acked : Acked n (past ++ [⟨.service, ⟨e, b⟩⟩]))
    (unacknowledged : ∀ request, ¬ acknowledges request ⟨e, b⟩) : Acked n past := by
  obtain ⟨request, own, ev, member, acknowledged⟩ := acked
  rw [project_own] at member
  rcases List.mem_append.mp member with earlier | last
  · exact ⟨request, own, ev, earlier, acknowledged⟩
  · rw [List.mem_singleton.mp last] at acknowledged
    exact absurd acknowledged (unacknowledged request)

theorem Accepted.later {ev : PoolEvent Party FileOp} (accepted : Accepted request past) :
    Accepted request (past ++ [ev]) := by
  obtain ⟨ev', member, accepts⟩ := accepted
  refine ⟨ev', ?_, accepts⟩
  rw [Pool.project_append]
  exact List.mem_append_left _ member

/-- An acknowledgement in the directory, or one that was read, was made by the service. -/
theorem acked_of_answers {n : Nat} {ack : Ack} (believes : Believes cfg w i g) (allows : allowed g e)
    (before : ∀ ack, w.ack = some ack → ∀ n, ack.request_id = .caller n → Acked n past)
    (answered : file_answers cfg i w e b w') (here : w'.ack = some ack)
    (own : ack.request_id = .caller n) : Acked n (past ++ [⟨i, ⟨e, b⟩⟩]) := by
  rcases ack_of_answers answered with same | ⟨request, ack', acknowledged, here', alike⟩
  · exact (before ack (same.symm.trans here) n own).later
  · cases here.symm.trans here'
    have service : i = .service :=
      believes.party.symm.trans (service_of_acknowledges allows acknowledged)
    subst service
    refine ⟨request, alike.symm.trans own, ⟨e, b⟩, ?_, acknowledged⟩
    rw [project_own]
    exact List.mem_append_right _ List.mem_cons_self

section History

variable {service : Phase} (history : History service w past)

include history

/-- A step of another process. -/
theorem History.other (other : i ≠ .service)
    (ack : ∀ ack, w'.ack = some ack → ∀ n, ack.request_id = .caller n → Acked n (past ++ [⟨i, ⟨e, b⟩⟩])) :
    History service w' (past ++ [⟨i, ⟨e, b⟩⟩]) where
  ack := ack
  acking request acked := by
    unfold Acknowledging
    rw [project_other other]
    exact history.acking request acked
  steady n confirmed := history.steady n confirmed.before
  settled n confirmed acked := by
    unfold Acked at acked
    rw [project_other other] at acked
    obtain ⟨request, own, settled⟩ := history.settled n confirmed.before acked
    exact ⟨request, own, settled.imp_left Accepted.later⟩

/-- A step of the service that neither begins nor ends an acknowledgement. -/
theorem History.plain (same : (service.next e b).acked = service.acked)
    (unreleased : ¬ releases ⟨e, b⟩) (unacknowledged : ∀ request, ¬ acknowledges request ⟨e, b⟩)
    (steady : ∀ request, service.acked = some request → passes request ⟨e, b⟩ →
      service.failed = false → (service.next e b).failed = false)
    (ack : ∀ ack, w'.ack = some ack → ∀ n, ack.request_id = .caller n →
      Acked n (past ++ [⟨.service, ⟨e, b⟩⟩])) :
    History (service.next e b) w' (past ++ [⟨.service, ⟨e, b⟩⟩]) where
  ack := ack
  acking request acked := by
    unfold Acknowledging
    rw [project_own]
    exact (history.acking request (same.symm.trans acked)).snoc unreleased
  steady n confirmed request acked own := by
    rw [same] at acked
    refine steady request acked ?_ (history.steady n confirmed.before request acked own)
    exact confirmed.passes own (history.acking request acked)
  settled n confirmed acked := by
    rw [same]
    obtain ⟨request, own, settled⟩ :=
      history.settled n confirmed.before (acked.earlier unacknowledged)
    exact ⟨request, own, settled.imp_left Accepted.later⟩

/-- A step of the service. -/
theorem History.own (believes : Believes cfg w .service service) (allows : allowed service e)
    (answered : file_answers cfg .service w e b w')
    (ack : ∀ ack, w'.ack = some ack → ∀ n, ack.request_id = .caller n →
      Acked n (past ++ [⟨.service, ⟨e, b⟩⟩])) :
    History (service.next e b) w' (past ++ [⟨.service, ⟨e, b⟩⟩]) := by
  cases e with
  | acquire =>
    cases b with
    | ok _ =>
      refine history.plain allows.2.symm id (fun _ => id) (fun request acked => ?_) ack
      cases allows.2.symm.trans acked
    | error _ => exact history.plain rfl id (fun _ => id) (fun _ _ _ steady => steady) ack
  | release =>
    refine ⟨ack, nofun, nofun, fun n confirmed acked => ?_⟩
    obtain ⟨request, own, settled⟩ := history.settled n confirmed.before (acked.earlier fun _ => id)
    rcases settled with accepted | pending
    · exact ⟨request, own, .inl accepted.later⟩
    · -- the section ends with an acknowledgement that does not pass
      have there : service.acked.isSome = true := by
        rw [pending]
        rfl
      cases (allows.2 there).symm.trans (history.steady n confirmed.before request pending own)
  | acknowledge request session_id =>
    cases b with
    | error _ => exact history.plain rfl id (fun _ => id) (fun _ _ _ steady => steady) ack
    | ok _ =>
      refine ⟨ack, fun request' same => ?_, fun _ _ _ _ _ => rfl, fun n confirmed acked => ?_⟩
      · cases same
        unfold Acknowledging
        rw [project_own]
        exact since_last rfl
      · obtain ⟨request', own, ev, member, acknowledged⟩ := acked
        rw [project_own] at member
        rcases List.mem_append.mp member with earlier | last
        · obtain ⟨request, own, settled⟩ :=
            history.settled n confirmed.before ⟨request', own, ev, earlier, acknowledged⟩
          rcases settled with accepted | pending
          · exact ⟨request, own, .inl accepted.later⟩
          · cases allows.2.2.1.symm.trans pending
        · rw [List.mem_singleton.mp last] at acknowledged
          obtain rfl : request = request' := acknowledged
          exact ⟨request, own, .inr rfl⟩
  | accept request =>
    refine ⟨ack, nofun, nofun, fun n confirmed acked => ?_⟩
    obtain ⟨request', own, settled⟩ := history.settled n confirmed.before (acked.earlier fun _ => id)
    rcases settled with accepted | pending
    · exact ⟨request', own, .inl accepted.later⟩
    · cases allows.2.2.2.symm.trans pending
      refine ⟨request, own, .inl ⟨⟨.accept request, b⟩, ?_, rfl⟩⟩
      rw [project_own]
      exact List.mem_append_right _ List.mem_cons_self
  | clock =>
    refine history.plain rfl id (fun _ => id) (fun request acked early steady => ?_) ack
    change (_ || Option.any _ _) = false
    rw [steady, acked, Option.any_some, Bool.false_or]
    exact decide_eq_false (Nat.not_le_of_lt early)
  | read_request =>
    cases b with
    | ok found =>
      refine history.plain rfl id (fun _ => id) (fun request acked same steady => ?_) ack
      cases (show (Except.ok found : Except Raised _) = .ok (some request) from same)
      change (_ || Option.any _ _) = false
      rw [steady, acked, Option.any_some, Bool.false_or]
      exact decide_eq_false (not_not_intro rfl)
    | error exc =>
      refine history.plain rfl id (fun _ => id) (fun request acked same steady => ?_) ack
      cases (show (Except.error exc : Except Raised (Option Request)) = .ok (some request) from same)
  | evidence what =>
    cases b with
    | ok _ => exact history.plain rfl id (fun _ => id) (fun _ _ _ steady => steady) ack
    | error exc =>
      refine history.plain rfl id (fun _ => id) (fun request acked same steady => ?_) ack
      cases (show (Except.error exc : Except Raised Unit) = .ok () from same)
  | cancel_exists request_id =>
    cases b with
    | false => exact history.plain rfl id (fun _ => id) (fun _ _ _ steady => steady) ack
    | true =>
      refine history.plain rfl id (fun _ => id) (fun request acked _ steady => ?_) ack
      -- what was acknowledged was not cancelled, and the lock is held
      have held := (believes.acked request acked).1
      have none := believes.uncancelled held _ (allows request acked).2
      cases none.symm.trans answered.1.symm
  | health | read_ack =>
    cases b <;> exact history.plain rfl id (fun _ => id) (fun _ _ _ steady => steady) ack
  | _ => exact history.plain rfl id (fun _ => id) (fun _ _ _ steady => steady) ack

end History

/-! ## Runs -/

/-- Nobody takes a cancellation back. -/
theorem cancelled_of_answers {id : RequestId} (cancelled : w.cancelled id = true)
    (answered : file_answers cfg i w e b w') : w'.cancelled id = true := by
  cases e with
  | acquire =>
    cases b with
    | ok _ =>
      obtain ⟨-, rfl⟩ := answered
      exact cancelled
    | error _ =>
      obtain rfl := answered
      exact cancelled
  | release =>
    obtain rfl := answered
    exact cancelled
  | replace_request _ =>
    cases b with
    | _ =>
      obtain rfl := answered
      exact cancelled
  | cancel request_id =>
    cases b with
    | ok _ =>
      obtain rfl := answered
      by_cases same : id = request_id
      · rw [same]
        exact Function.update_self ..
      · exact (Function.update_of_ne same ..).trans cancelled
    | error _ =>
      obtain rfl := answered
      exact cancelled
  | _ => exact (congrFun (untouched_of_answers rfl answered).cancelled _).trans cancelled

/-- What holds in every state of a run. -/
structure Consistent (cfg : Config) (phases : Party → Phase) (w : World)
    (past : List (PoolEvent Party FileOp)) : Prop where
  believes : ∀ i, Believes cfg w i (phases i)
  saw : ∀ i ack, (phases i).saw = some ack → ∀ n, ack.request_id = .caller n → Acked n past
  history : History (phases .service) w past
  current : ∀ request, w.request = some request → ∀ n, request.request_id = .caller n →
    request.service_generation = cfg.generation
  cancelled : ∀ ev ∈ past, ∀ id, cancels id ev.event → w.cancelled id = true
  not_after : NotAfterCancel past

theorem consistent_new (unused : w.Unused) : Consistent cfg Phase.new w [] where
  believes i := ⟨rfl, nofun, nofun, nofun, nofun, nofun, nofun⟩
  saw := nofun
  history :=
    { ack := fun ack here n own => absurd own (unused.ack ack here n)
      acking := nofun
      steady := nofun
      settled := fun _ n acked => by
        obtain ⟨_, _, _, none, _⟩ := acked
        cases none }
  current request here n own := absurd own (unused.request request here n)
  cancelled := nofun
  not_after a b i request ev none := by
    cases List.append_eq_nil_iff.mp none.symm with
    | intro _ none => cases none

variable {phases : Party → Phase}

/-- A caller writes a request of the generation that it was told. -/
theorem current_of_answers (believes : Believes cfg w i g) (allows : allowed g e)
    (before : ∀ request, w.request = some request → ∀ n, request.request_id = .caller n →
      request.service_generation = cfg.generation) (answered : file_answers cfg i w e b w') :
    ∀ request, w'.request = some request → ∀ n, request.request_id = .caller n →
      request.service_generation = cfg.generation := by
  cases e with
  | replace_request request =>
    cases b with
    | ok _ =>
      obtain ⟨-, _, generation, -, told, same, -⟩ := allows
      obtain rfl := answered
      intro request' here n _
      cases here
      exact same.trans (believes.told generation told)
    | error _ =>
      obtain rfl := answered
      exact before
  | acquire =>
    cases b with
    | ok _ =>
      obtain ⟨-, rfl⟩ := answered
      exact before
    | error _ =>
      obtain rfl := answered
      exact before
  | release =>
    obtain rfl := answered
    exact before
  | cancel _ =>
    cases b with
    | _ =>
      obtain rfl := answered
      exact before
  | _ =>
    rw [(untouched_of_answers rfl answered).request]
    exact before

/-- The service accepts what it has found not to be cancelled. -/
theorem NotAfterCancel.snoc (consistent : Consistent cfg phases w past) (allows : allowed (phases i) e) :
    NotAfterCancel (past ++ [⟨i, ⟨e, b⟩⟩]) := by
  intro x y j request ev split cancels later member accepts
  rcases snoc_eq_split.mp split with ⟨-, -, rfl⟩ | ⟨y', rfl, before⟩
  · cases member
  · rcases List.mem_append.mp member with earlier | last
    · exact consistent.not_after x y' j request ev before cancels later earlier accepts
    · rw [List.mem_singleton.mp last] at accepts
      have cancelled : w.cancelled request.request_id = true := by
        refine consistent.cancelled ⟨j, ev⟩ ?_ _ cancels
        rw [before]
        exact List.mem_append_cons_self
      cases e with
      | accept request' =>
        obtain rfl : request' = request := accepts
        obtain ⟨-, held, none, -⟩ := allows
        cases cancelled.symm.trans ((consistent.believes i).uncancelled held _ none)
      | _ => exact accepts

theorem Consistent.step (consistent : Consistent cfg phases w past) (allows : allowed (phases i) e)
    (answered : file_answers cfg i w e b w') :
    Consistent cfg (Function.update phases i ((phases i).next e b)) w' (past ++ [⟨i, ⟨e, b⟩⟩]) := by
  have believes := consistent.believes i
  have ack {ack : Ack} (here : w'.ack = some ack) {n : Nat} (own : ack.request_id = .caller n) :
      Acked n (past ++ [⟨i, ⟨e, b⟩⟩]) :=
    acked_of_answers believes allows consistent.history.ack answered here own
  refine ⟨fun j => ?_, fun j seen saw n own => ?_, ?_,
    current_of_answers believes allows consistent.current answered,
    fun ev member id cancelled => ?_, NotAfterCancel.snoc consistent allows⟩
  · by_cases same : j = i
    · subst same
      rw [Function.update_self]
      exact believes.own allows answered
    · rw [Function.update_of_ne same]
      exact (consistent.believes j).other believes (Ne.symm same) allows answered
  · by_cases same : j = i
    · subst same
      rw [Function.update_self] at saw
      rcases saw_of_next answered with before | now
      · exact (consistent.saw j seen (before.symm.trans saw) n own).later
      · exact (consistent.history.ack seen (now.symm.trans saw) n own).later
    · rw [Function.update_of_ne same] at saw
      exact (consistent.saw j seen saw n own).later
  · by_cases service : i = .service
    · subst service
      rw [Function.update_self]
      exact consistent.history.own believes allows answered fun _ here _ own => ack here own
    · rw [Function.update_of_ne (Ne.symm service)]
      exact consistent.history.other service fun _ here _ own => ack here own
  · rcases List.mem_append.mp member with earlier | last
    · exact cancelled_of_answers (consistent.cancelled ev earlier id cancelled) answered
    · rw [List.mem_singleton.mp last] at cancelled
      cases e with
      | cancel id' =>
        cases b with
        | ok _ =>
          obtain rfl : id' = id := cancelled
          obtain rfl := answered
          exact Function.update_self ..
        | error _ => exact cancelled.elim
      | _ => exact cancelled.elim

variable {script : Script} {q : Pool Party FileOp World Outcome} {tr : List (PoolEvent Party FileOp)}

/-- Every state of a run is consistent, and what remains of every process keeps to its phase. -/
theorem consistent_of_run (unused : w.Unused)
    (run : Pool.Run (file_sem cfg) (started cfg script w) tr q) :
    Consistent cfg (Pool.phases lock_protocol Phase.new tr) q.shared tr ∧
      ∀ i, lock_protocol.Follows Returns (Pool.phases lock_protocol Phase.new tr i) (q.thread i) :=
  run.invariant (I := Consistent cfg) (program_follows script) (consistent_new unused)
    fun _ _ consistent allows answered => consistent.step allows answered

theorem not_replaced (unused : w.Unused) : NotReplaced cfg (started cfg script w) tr := by
  intro ev s taken replaces old here own
  obtain ⟨a, b, s', -, before, one⟩ := taken
  obtain ⟨consistent, follows⟩ := consistent_of_run unused before
  cases one with
  | @step w w' thread i β e k answer rest answered =>
    have allows : allowed (Pool.phases lock_protocol Phase.new a i) e := by
      have follows : lock_protocol.Follows Returns _ (thread i) := follows i
      rw [rest] at follows
      exact follows.1
    have believes := consistent.believes i
    cases e with
    | replace_request request =>
      obtain ⟨held, found, generation, read, told, -, gone⟩ := allows
      have same : some old = found := here.symm.trans (believes.found held found read)
      subst same
      have own : old.service_generation = cfg.generation := by
        rcases own with ⟨n, caller⟩ | own
        · exact consistent.current old here n caller
        · exact own
      rcases gone with lapsed | other
      · exact believes.lapsed held lapsed old read
      · exact absurd (own.trans (believes.told generation told).symm) (other old rfl)
    | _ => exact replaces.elim

/-- **Agreement on an activation.**  No request is accepted after it was cancelled, and none that is
pending is replaced; and what a caller has returned as active the service accepts, where it reads
nothing that stops it once it has acknowledged the request of this caller. -/
theorem activation_agrees (unused : w.Unused)
    (run : Pool.Run (file_sem cfg) (started cfg script w) tr q) :
    (∀ n, Confirmed n tr → AgreedWith n tr q) ∧ NotAfterCancel tr ∧
      NotReplaced cfg (started cfg script w) tr := by
  obtain ⟨consistent, follows⟩ := consistent_of_run unused run
  refine ⟨fun n confirmed ack returned => ?_, consistent.not_after, not_replaced unused⟩
  have here := follows (.caller n)
  rw [returned] at here
  obtain ⟨saw, own⟩ := here n ack (consistent.believes (.caller n)).party rfl
  have acked : Acked n tr := consistent.saw (.caller n) ack saw n own
  obtain ⟨request, own, settled⟩ := consistent.history.settled n confirmed acked
  exact ⟨request, own, settled.imp_right (consistent.history.acking request)⟩

/-! ## A check that comes too late -/

/-- A directory that was never used. -/
def empty_world : World where
  now := 0
  holder := none
  request := none
  ack := none
  cancelled _ := false
  status := .STANDBY
  health := none

theorem empty_unused : empty_world.Unused := ⟨rfl, nofun, nofun, fun _ => rfl, rfl⟩

/-- A service of the first generation, and callers that wait for five ticks of the clock. -/
def plain_config : Config := ⟨1, 1⟩

def plain_script : Script where
  rounds
    | .service => 2
    | _ => 1
  asks _ := ⟨5, Str.of "/config", []⟩

/-- Nothing fails; the service finds it late once it has acknowledged, or it does not. -/
def plain_answer (late : Nat) (who : Party) (w : World) : ∀ {β : Type}, FileOp β → Option (β × World)
  | _, .acquire => if w.holder = none then some (.ok (), { w with holder := some who }) else none
  | _, .release => some ((), { w with holder := none })
  | _, .clock =>
    let t := if who = .service ∧ w.ack ≠ none then w.now + late else w.now
    some (t, { w with now := t })
  | _, .health =>
    match w.health with
    | some status => some (.running status plain_config.generation, w)
    | none => some (.unknown, w)
  | _, .read_request => some (.ok w.request, w)
  | _, .request_exists => some (w.request.isSome, w)
  | _, .replace_request request => some (.ok (), { w with request := some request })
  | _, .read_ack => some (.ok w.ack, w)
  | _, .acknowledge request session_id =>
    some (.ok (), { w with ack := some (ack_of plain_config request session_id) })
  | _, .cancel_exists request_id => some (w.cancelled request_id, w)
  | _, .cancel request_id =>
    some (.ok (), { w with cancelled := Function.update w.cancelled request_id true })
  | _, .evidence _ => some (.ok (), w)
  | _, .qualify _ => some (.ok (), w)
  | _, .set_status status => some ((), { w with status := status })
  | _, .accept _ => some ((), { w with status := .ACTIVE })
  | _, .publish => some (.ok (), { w with health := some w.status })
  | _, .sleep => some (.ok (), w)
  | _, .task_done => some (false, w)
  | _, .session => some (some (Str.of "s"), w)
  | _, .stop_task => some (.ok (), w)
  | _, .invalid => some (false, w)
  | _, .requalify => some (.ok (), w)
  | _, .stopped => some (.ok (), w)
  | _, .dirty => some (false, w)

theorem answered_of_plain {late : Nat} {who : Party}
    (answered : plain_answer late who w e = some (b, w')) : file_answers plain_config who w e b w' := by
  cases e with
  | acquire =>
    change (if w.holder = none then some (.ok (), { w with holder := some who }) else none) =
      some (b, w') at answered
    split at answered
    · rename_i free
      cases answered
      exact ⟨free, rfl⟩
    · cases answered
  | clock =>
    cases answered
    refine ⟨?_, rfl⟩
    split
    · exact Nat.le_add_right _ _
    · exact Nat.le_refl _
  | health =>
    change (match w.health with
      | some status => some (.running status plain_config.generation, w)
      | none => some (.unknown, w)) = some (b, w') at answered
    split at answered
    · rename_i status here
      cases answered
      exact ⟨here, rfl, rfl⟩
    · cases answered
      exact rfl
  | read_request | request_exists | read_ack | cancel_exists _ =>
    cases answered
    exact ⟨rfl, rfl⟩
  | _ =>
    cases answered
    exact rfl

/-- A caller asks, and returns as soon as its request is acknowledged; the service goes on. -/
def schedule : List Party :=
  [.heartbeat] ++ List.replicate 6 (.caller 0) ++ List.replicate 36 .service ++
    List.replicate 3 (.caller 0) ++ List.replicate 10 .service

def played (late : Nat) : List (PoolEvent Party FileOp) × Pool Party FileOp World Outcome :=
  Pool.play (plain_answer late) schedule (started plain_config plain_script empty_world)

theorem run_played (late : Nat) :
    Pool.Run (file_sem plain_config) (started plain_config plain_script empty_world) (played late).1
      (played late).2 :=
  .play (fun _ _ _ _ _ _ answered => answered_of_plain answered) schedule _

/-- The acknowledgement a caller has returned. -/
def returned : Prog FileOp Outcome → Option Ack
  | .ret (some (.ok (.active ack))) => some ack
  | _ => none

theorem eq_of_returned {p : Prog FileOp Outcome} {ack : Ack} (here : returned p = some ack) :
    p = .ret (some (.ok (.active ack))) := by
  unfold returned at here
  split at here
  · cases here
    rfl
  · cases here

/-- The requests acknowledged in the locked section that is open. -/
def open_acks (acks : List Request) : Event FileOp → List Request
  | ⟨.acknowledge request _, .ok _⟩ => request :: acks
  | ⟨.release, _⟩ => []
  | _ => acks

theorem mem_open_acks {l : List (Event FileOp)}
    (since : Since (acknowledges request) (fun ev => ¬ releases ev) l) :
    request ∈ l.foldl open_acks [] := by
  induction l using List.reverseRecOn with
  | nil =>
    obtain ⟨a, x, b, none, -⟩ := since
    cases List.append_eq_nil_iff.mp none.symm with
    | intro _ none => cases none
  | append_singleton past ev ih =>
    rw [List.foldl_append, List.foldl_cons, List.foldl_nil]
    rcases since_snoc_iff.mp since with acknowledged | ⟨unreleased, since⟩
    · obtain ⟨e, b⟩ := ev
      cases e with
      | acknowledge request' session_id =>
        cases b with
        | ok _ =>
          obtain rfl : request' = request := acknowledged
          exact List.mem_cons_self
        | error _ => exact acknowledged.elim
      | _ => exact acknowledged.elim
    · have before := ih since
      obtain ⟨e, b⟩ := ev
      cases e with
      | acknowledge request' session_id =>
        cases b with
        | ok _ => exact List.mem_cons_of_mem _ before
        | error _ => exact before
      | release => exact absurd trivial unreleased
      | _ => exact before

def accepting : Event FileOp → Bool
  | ⟨.accept _, _⟩ => true
  | _ => false

/-- What `activate` returns as active may be rejected: the service acknowledges a request in time, its
caller reads that, and the service then finds the request to be late. -/
theorem acknowledged_is_rejected : ∃ (cfg : Config) (script : Script) (w : World)
    (tr : List (PoolEvent Party FileOp)) (q : Pool Party FileOp World Outcome), w.Unused ∧
    Pool.Run (file_sem cfg) (started cfg script w) tr q ∧ ¬ Agreed tr q := by
  refine ⟨plain_config, plain_script, empty_world, _, _, empty_unused, run_played 5, fun agreed => ?_⟩
  obtain ⟨ack, here⟩ := Option.isSome_iff_exists.mp
    (show (returned ((played 5).2.thread (.caller 0))).isSome = true by decide +kernel)
  obtain ⟨request, -, accepted | acknowledging⟩ := agreed 0 ack (eq_of_returned here)
  · obtain ⟨ev, member, accepts⟩ := accepted
    have none : (Pool.project .service (played 5).1).any accepting = false := by decide +kernel
    have other := List.any_eq_false.mp none ev member
    obtain ⟨e, b⟩ := ev
    cases e with
    | accept _ => exact other rfl
    | _ => exact accepts
  · have none : (Pool.project .service (played 5).1).foldl open_acks [] = [] := by decide +kernel
    have here := mem_open_acks acknowledging
    rw [none] at here
    exact List.not_mem_nil here

/-! ## A check that comes in time -/

/-- What is read lets every one of the requests pass. -/
def passed (acks : List Request) : Event FileOp → Bool
  | ⟨.read_request, .ok (some found)⟩ => acks.all (found = ·)
  | ⟨.read_request, _⟩ => acks.isEmpty
  | ⟨.clock, t⟩ => acks.all ((t : Nat) < ·.deadline)
  | ⟨.evidence _, .error _⟩ => acks.isEmpty
  | _ => true

theorem passes_of_passed {acks : List Request} {ev : Event FileOp} (passing : passed acks ev = true)
    (member : request ∈ acks) : passes request ev := by
  obtain ⟨e, b⟩ := ev
  have some_one : acks.isEmpty ≠ true := by
    intro none
    rw [List.isEmpty_iff.mp none] at member
    exact List.not_mem_nil member
  cases e with
  | read_request =>
    cases b with
    | ok found =>
      cases found with
      | some found =>
        obtain rfl := of_decide_eq_true (List.all_eq_true.mp passing request member)
        rfl
      | none => exact absurd passing some_one
    | error _ => exact absurd passing some_one
  | clock =>
    have early : b < request.deadline := of_decide_eq_true (List.all_eq_true.mp passing request member)
    exact early
  | evidence _ =>
    cases b with
    | ok _ => rfl
    | error _ => exact absurd passing some_one
  | _ => trivial

/-- Every step lets pass what was acknowledged before it in its locked section. -/
def all_passed (acks : List Request) : List (Event FileOp) → Bool
  | [] => true
  | ev :: rest => passed acks ev && all_passed (open_acks acks ev) rest

theorem passed_of_all_passed {acks : List Request} {a b : List (Event FileOp)} {ev : Event FileOp}
    (all : all_passed acks (a ++ ev :: b) = true) : passed (a.foldl open_acks acks) ev = true := by
  induction a generalizing acks with
  | nil => exact (Bool.and_eq_true_iff.mp all).1
  | cons first a ih => exact ih (Bool.and_eq_true_iff.mp all).2

theorem confirmed_of_all_passed {n : Nat} (all : all_passed [] (Pool.project .service tr) = true) :
    Confirmed n tr := by
  intro a ev b split request _ since
  rw [split] at all
  exact passes_of_passed (passed_of_all_passed all) (mem_open_acks since)

/-- Where the clock stands still, the request that is acknowledged is accepted. -/
theorem prompt_activation_agrees :
    Agreed (played 0).1 (played 0).2 ∧ NotAfterCancel (played 0).1 ∧
      NotReplaced plain_config (started plain_config plain_script empty_world) (played 0).1 ∧
      (returned ((played 0).2.thread (.caller 0))).isSome = true := by
  obtain ⟨agreed, not_after, kept⟩ := activation_agrees empty_unused (run_played 0)
  have all : all_passed [] (Pool.project .service (played 0).1) = true := by decide +kernel
  exact ⟨fun n => agreed n (confirmed_of_all_passed all), not_after, kept, by decide +kernel⟩

end SessionManager.Activation
