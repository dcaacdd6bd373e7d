import SessionManager.Adapter.Service

/-!
# Locked sections

What the service and its callers know while one of them holds the lock (`Phase`), and what they may
do then (`allowed`).  Each process keeps to it, whatever it reads (`program_follows`).
-/

namespace SessionManager.Activation

open Python (Str)

open Effect Method

/-! ## Phases -/

/-- What a process has found out since it took the lock, and the acknowledgement it has read last. -/
structure Phase where
  party : Party
  holding : Bool
  /-- The generation that `health()` told. -/
  told : Option Nat
  /-- The request that was read, and that it has lapsed. -/
  found : Option (Option Request)
  lapsed : Bool
  /-- The request that was not cancelled. -/
  uncancelled : Option RequestId
  /-- The request that was acknowledged and not accepted yet; and that it does not pass. -/
  acked : Option Request
  failed : Bool
  saw : Option Ack

def Phase.new (party : Party) : Phase := ⟨party, false, none, none, false, none, none, false, none⟩

/-- The lock is released. -/
def Phase.left (g : Phase) : Phase := { Phase.new g.party with saw := g.saw }

/-- The request that was found satisfies this. -/
def Phase.finds (g : Phase) (p : Request → Bool) : Bool :=
  match g.found with
  | some (some old) => p old
  | _ => false

def Phase.next (g : Phase) : ∀ {β : Type}, FileOp β → β → Phase
  | _, .acquire, .ok _ => { g.left with holding := true }
  | _, .release, _ => g.left
  | _, .clock, t =>
    { g with
      lapsed := g.lapsed || g.finds fun old => old.deadline ≤ t
      failed := g.failed || g.acked.any fun request => request.deadline ≤ t }
  | _, .health, .running _ generation => { g with told := some generation }
  | _, .read_request, .ok found =>
    { g with
      found := some found
      lapsed := false
      failed := g.failed || g.acked.any fun request => found ≠ some request }
  | _, .read_request, .error _ => { g with failed := g.failed || g.acked.isSome }
  | _, .replace_request _, _ => { g with found := none }
  | _, .read_ack, .ok ack => { g with saw := ack }
  | _, .acknowledge request _, .ok _ => { g with acked := some request, failed := false }
  | _, .cancel_exists request_id, false => { g with uncancelled := some request_id }
  | _, .cancel_exists request_id, true =>
    { g with
      lapsed := g.lapsed || g.finds fun old => old.request_id = request_id
      failed := g.failed || g.acked.isSome }
  | _, .cancel _, _ => { g with uncancelled := none }
  | _, .evidence _, .error _ => { g with failed := g.failed || g.acked.isSome }
  | _, .accept _, _ => { g with acked := none }
  | _, _, _ => g

def Phase.Outside (g : Phase) : Prop := g.holding = false ∧ g.acked = none

/-- What a process may do in a phase. -/
def allowed (g : Phase) : ∀ {β : Type}, FileOp β → Prop
  | _, .acquire => g.Outside
  | _, .release => g.holding = true ∧ (g.acked.isSome = true → g.failed = true)
  | _, .replace_request request => g.holding = true ∧ ∃ found generation, g.found = some found ∧
      g.told = some generation ∧ request.service_generation = generation ∧
      (g.lapsed = true ∨ ∀ old, found = some old → old.service_generation ≠ generation)
  | _, .acknowledge request _ => g.party = .service ∧ g.holding = true ∧ g.acked = none ∧
      g.uncancelled = some request.request_id
  | _, .cancel_exists request_id => ∀ request, g.acked = some request →
      request_id = request.request_id ∧ g.uncancelled = some request_id
  | _, .cancel _ => g.holding = true ∧ g.acked = none
  | _, .accept request => g.party = .service ∧ g.holding = true ∧
      g.uncancelled = some request.request_id ∧ g.acked = some request
  | _, _ => True

def lock_protocol : Protocol FileOp Phase where
  allows g _ e := allowed g e
  next g _ e b := g.next e b

/-- The phase of a process after its steps. -/
def phase (who : Party) (past : List (Event FileOp)) : Phase := lock_protocol.after (.new who) past

theorem phase_snoc {who : Party} {past : List (Event FileOp)} {β : Type} {e : FileOp β} {b : β} :
    phase who (past ++ [⟨e, b⟩]) = (phase who past).next e b :=
  Protocol.after_snoc ..

theorem next_party {g : Phase} {β : Type} (e : FileOp β) (b : β) : (g.next e b).party = g.party := by
  cases e with
  | acquire | health | read_request | read_ack | acknowledge _ _ | cancel_exists _ | evidence _ =>
    cases b <;> rfl
  | _ => rfl

theorem phase_party (who : Party) (past : List (Event FileOp)) : (phase who past).party = who := by
  induction past using List.reverseRecOn with
  | nil => rfl
  | append_singleton past ev ih =>
    obtain ⟨e, b⟩ := ev
    rw [phase_snoc, next_party, ih]

def Safe (who : Party) : Safety FileOp := fun past {_} e => allowed (phase who past) e

/-! ## Locked sections -/

section Threads

variable {cfg : Config} {who : Party} {past : List (Event FileOp)} {S α : Type} {s : S}
  {Q : List (Event FileOp) → S → α → Prop} {X : List (Event FileOp) → S → Raised → Prop}

/-- The lock may be released. -/
def Closing (g : Phase) : Prop := g.holding = true ∧ (g.acked.isSome = true → g.failed = true)

theorem outside_left {g : Phase} : g.left.Outside := ⟨rfl, rfl⟩

/-- The rule of a locked section. -/
theorem control_runs {p : Method FileOp S Raised α} (outside : (phase who past).Outside)
    (refused : ∀ exc, X (past ++ [⟨.acquire, .error exc⟩]) s exc)
    (inner : Runs (Safe who)
      (fun past s a => Closing (phase who past) ∧ Q (past ++ [⟨.release, ()⟩]) s a)
      (fun past s exc => Closing (phase who past) ∧ X (past ++ [⟨.release, ()⟩]) s exc)
      (past ++ [⟨.acquire, .ok ()⟩]) s p) :
    Runs (Safe who) Q X past s (control p) := by
  refine runs_ask_bind outside (fun _ => ?_) refused
  refine (inner.attempt (Y := X)).bind fun past s ended left => ?_
  cases ended with
  | ok a => exact ⟨left.1, fun _ => left.2⟩
  | error exc => exact ⟨left.1, fun _ => left.2⟩

/-- A step that nobody takes notice of who does not hold the lock. -/
theorem outside_snoc {β : Type} {e : FileOp β} {b : β} (outside : (phase who past).Outside)
    (same : ((phase who past).next e b).holding = (phase who past).holding)
    (none : ((phase who past).next e b).acked = (phase who past).acked) :
    (phase who (past ++ [⟨e, b⟩])).Outside := by
  rw [phase_snoc]
  exact ⟨same.trans outside.1, none.trans outside.2⟩

/-! ### Callers -/

/-- What a caller knows that holds the lock and has read the request file. -/
structure Knows (g : Phase) (old : Option Request) (generation : Nat) : Prop where
  holding : g.holding = true
  acked : g.acked = none
  found : g.found = some old
  told : g.told = some generation

theorem closing_of {g : Phase} (holding : g.holding = true) (acked : g.acked = none) : Closing g := by
  refine ⟨holding, fun some => ?_⟩
  rw [acked] at some
  cases some

theorem Knows.closing {g : Phase} {old : Option Request} {generation : Nat}
    (knows : Knows g old generation) : Closing g := closing_of knows.holding knows.acked

theorem Knows.clock {old : Option Request} {generation t : Nat}
    (knows : Knows (phase who past) old generation) :
    Knows (phase who (past ++ [⟨.clock, t⟩])) old generation := by
  rw [phase_snoc]
  exact ⟨knows.holding, knows.acked, knows.found, knows.told⟩

/-- A request that is not pending may be replaced. -/
def Replaceable (g : Phase) (old : Option Request) (generation : Nat) : Prop :=
  g.lapsed = true ∨ ∀ own, old = some own → own.service_generation ≠ generation

theorem pending_runs {old : Option Request} {generation : Nat} {s : Unit}
    {X : List (Event FileOp) → Unit → Raised → Prop}
    (knows : Knows (phase who past) old generation) :
    Runs (Safe who) (fun past _ b => Knows (phase who past) old generation ∧
      (b = false → Replaceable (phase who past) old generation)) X past s (pending generation old) := by
  cases old with
  | none => exact ⟨knows, fun _ => .inr fun own none => by cases none⟩
  | some old =>
    rw [pending]
    split
    · refine runs_observe_bind trivial fun t => ?_
      have found : (phase who past).finds = fun p => p old := by
        unfold Phase.finds
        rw [knows.found]
      split
      · refine runs_observe_bind (fun request acked => ?_) fun there => runs_pure ?_
        · rw [knows.clock.acked] at acked
          cases acked
        · have next : Knows (phase who (past ++ [⟨.clock, t⟩] ++
              [⟨.cancel_exists old.request_id, there⟩])) (some old) generation := by
            rw [phase_snoc]
            have knows : Knows (phase who (past ++ [⟨.clock, t⟩])) (some old) generation := knows.clock
            cases there with
            | true => exact ⟨knows.holding, knows.acked, knows.found, knows.told⟩
            | false => exact ⟨knows.holding, knows.acked, knows.found, knows.told⟩
          refine ⟨next, fun gone => .inl ?_⟩
          rw [Bool.not_eq_false'] at gone
          subst gone
          have found : (phase who (past ++ [⟨.clock, t⟩])).finds = fun p => p old := by
            unfold Phase.finds
            rw [(knows.clock (t := t)).found]
          rw [phase_snoc]
          change (_ || Phase.finds _ _) = true
          rw [found, Bool.or_eq_true]
          exact .inr (decide_eq_true rfl)
      · rename_i late
        refine runs_pure ⟨knows.clock, fun _ => .inl ?_⟩
        rw [phase_snoc]
        change (_ || Phase.finds _ _) = true
        rw [found, Bool.or_eq_true]
        exact .inr (decide_eq_true (Nat.le_of_not_lt late))
    · rename_i other
      refine runs_pure ⟨knows, fun _ => .inr fun own same => ?_⟩
      cases same
      exact other

variable {reqid : RequestId} {a : Activate} {generation deadline : Nat}

theorem ask_activation_runs {s : Unit} (holding : (phase who past).holding = true)
    (acked : (phase who past).acked = none) :
    Runs (Safe who)
      (fun past _ asked => Closing (phase who past) ∧ ∀ ack, asked ≠ .error (.active ack))
      (fun past _ _ => Closing (phase who past)) past s (ask_activation cfg reqid a) := by
  refine runs_observe_bind trivial fun health => ?_
  have closing : Closing (phase who (past ++ [⟨.health, health⟩])) := by
    rw [phase_snoc]
    cases health with
    | running status generation => exact closing_of holding acked
    | _ => exact closing_of holding acked
  cases health with
  | paused => exact ⟨closing, fun _ same => by cases same⟩
  | unknown => exact ⟨closing, fun _ same => by cases same⟩
  | running status generation =>
    cases status with
    | STANDBY =>
      refine runs_ask_bind trivial (fun old => ?_) fun exc => ?_
      · have knows : Knows (phase who (past ++ [⟨.health, .running .STANDBY generation⟩] ++
            [⟨.read_request, .ok old⟩])) old generation := by
          rw [phase_snoc, phase_snoc]
          exact ⟨holding, acked, rfl, rfl⟩
        refine (pending_runs knows).bind fun past s b left => ?_
        obtain ⟨knows, gone⟩ := left
        cases b with
        | true => exact ⟨knows.closing, fun _ same => by cases same⟩
        | false =>
          refine runs_observe_bind trivial fun t => ?_
          have later : Knows (phase who (past ++ [⟨.clock, t⟩])) old generation := knows.clock
          have still : Replaceable (phase who (past ++ [⟨.clock, t⟩])) old generation := by
            rcases gone rfl with lapsed | other
            · refine .inl ?_
              rw [phase_snoc]
              change (_ || _) = true
              rw [lapsed, Bool.true_or]
            · exact .inr other
          have replaced (r : Except Raised Unit) : Closing (phase who (past ++ [⟨.clock, t⟩] ++
              [⟨.replace_request ⟨reqid, generation, cfg.boot_id, t + a.timeout, a.config_path,
                a.config_identity⟩, r⟩])) := by
            rw [phase_snoc]
            exact closing_of later.holding later.acked
          refine runs_ask_bind ⟨later.holding, old, generation, later.found, later.told, rfl, still⟩
            (fun _ => ⟨replaced _, fun _ same => by cases same⟩) fun _ => replaced _
      · rw [phase_snoc]
        exact closing_of closing.1 (by rw [phase_snoc]; exact acked)
    | _ => exact ⟨closing, fun _ same => by cases same⟩

/-- The acknowledgement that was read is of this request. -/
def Saw (reqid : RequestId) (g : Phase) : Option Answer → Prop
  | some (.active ack) => g.saw = some ack ∧ ack.request_id = reqid
  | _ => True

theorem own_ack_runs {s : Unit} (outside : (phase who past).Outside) :
    Runs (Safe who)
      (fun past _ found => (phase who past).Outside ∧ Saw reqid (phase who past) (found.map .active))
      (fun past _ _ => (phase who past).Outside) past s (own_ack reqid generation deadline) := by
  refine runs_ask_bind trivial (fun found => ?_) fun exc => outside_snoc outside rfl rfl
  have outside : (phase who (past ++ [⟨.read_ack, .ok found⟩])).Outside := outside_snoc outside rfl rfl
  cases found with
  | none => exact ⟨outside, trivial⟩
  | some ack =>
    refine runs_observe_bind trivial fun t => runs_pure ⟨outside_snoc outside rfl rfl, ?_⟩
    split
    · rename_i good
      rw [Bool.and_eq_true, Bool.and_eq_true, Bool.and_eq_true] at good
      refine ⟨?_, of_decide_eq_true good.1.1.2⟩
      rw [phase_snoc, phase_snoc]
      rfl
    · trivial

theorem await_ack_runs {rounds : Nat} {s : Unit} (outside : (phase who past).Outside) :
    Runs (Safe who) (fun past _ answer => (phase who past).Outside ∧ Saw reqid (phase who past) answer)
      (fun past _ _ => (phase who past).Outside) past s (await_ack reqid generation deadline rounds) := by
  induction rounds generalizing past s with
  | zero => exact ⟨outside, trivial⟩
  | succ rounds ih =>
    refine runs_observe_bind trivial fun t => ?_
    have outside : (phase who (past ++ [⟨.clock, t⟩])).Outside := outside_snoc outside rfl rfl
    split
    · refine (own_ack_runs outside).bind fun past s found left => ?_
      obtain ⟨outside, saw⟩ := left
      cases found with
      | some ack => exact ⟨outside, saw⟩
      | none =>
        exact runs_ask_bind trivial (fun _ => ih (outside_snoc outside rfl rfl))
          fun _ => outside_snoc outside rfl rfl
    · exact ⟨outside, trivial⟩

/-- What a caller does, and what it has seen when it says that its request is active. -/
theorem activate_runs {rounds : Nat} {s : Unit} (outside : (phase who past).Outside) :
    Runs (Safe who) (fun past _ answer => Saw reqid (phase who past) answer) (fun _ _ _ => True) past s
      (activate cfg reqid a rounds) := by
  refine Runs.bind (Q := fun past _ asked => (phase who past).Outside ∧
    ∀ ack, asked ≠ .error (.active ack)) ?_ fun past s asked left => ?_
  · refine control_runs outside (fun _ => trivial) ?_
    refine (ask_activation_runs ?_ ?_).mono (fun past s asked left => ⟨left.1, ?_, left.2⟩)
      fun _ _ _ closing => ⟨closing, trivial⟩
    · rw [phase_snoc]
      rfl
    · rw [phase_snoc]
      rfl
    · rw [phase_snoc]
      exact outside_left
  · obtain ⟨outside, denied⟩ := left
    cases asked with
    | error answer =>
      cases answer with
      | active ack => exact absurd rfl (denied ack)
      | _ => trivial
    | ok asked =>
      refine ((await_ack_runs outside).attempt (Y := fun _ _ _ => True)).bind
        fun past s ended left => ?_
      -- the request is cancelled, and the loop ends as it did
      have cancelled (ended : Except Raised (Option Answer)) (outside : (phase who past).Outside)
          (other : ∀ answer, ended = .ok answer → ∀ ack, answer ≠ some (.active ack)) :
          Runs (Safe who) (fun past _ answer => Saw reqid (phase who past) answer) (fun _ _ _ => True)
            past s (do
              control (ask (.cancel reqid))
              rethrow ended) := by
        refine Runs.bind (Q := fun _ _ _ => True) (control_runs outside (fun _ => trivial) ?_)
          fun past s _ _ => runs_rethrow ?_
        · have inside : (phase who (past ++ [⟨.acquire, .ok ()⟩])).holding = true ∧
              (phase who (past ++ [⟨.acquire, .ok ()⟩])).acked = none := by
            rw [phase_snoc]
            exact ⟨rfl, rfl⟩
          have closing (r : Except Raised Unit) :
              Closing (phase who (past ++ [⟨.acquire, .ok ()⟩] ++ [⟨.cancel reqid, r⟩])) := by
            rw [phase_snoc]
            exact closing_of inside.1 inside.2
          exact runs_ask inside fun r => by cases r with
            | ok _ => exact ⟨closing _, trivial⟩
            | error _ => exact ⟨closing _, trivial⟩
        · cases ended with
          | error exc => trivial
          | ok answer =>
            match answer, other answer rfl with
            | some (.active ack), other => exact absurd rfl (other ack)
            | none, _ => trivial
            | some .busy, _ => trivial
            | some .unknown_not_ready, _ => trivial
            | some .activation_expired, _ => trivial
      cases ended with
      | error exc => exact cancelled _ left fun _ same => by cases same
      | ok answer =>
        obtain ⟨outside, saw⟩ := left
        match answer, saw with
        | none, _ => exact trivial
        | some (.active ack), saw => exact saw
        | some .busy, _ => exact cancelled _ outside fun _ same _ => by cases same; exact nofun
        | some .unknown_not_ready, _ =>
          exact cancelled _ outside fun _ same _ => by cases same; exact nofun
        | some .activation_expired, _ =>
          exact cancelled _ outside fun _ same _ => by cases same; exact nofun

/-! ### The service -/

/-- The lock is held or not, this request was acknowledged, and it was not cancelled. -/
structure Stands (holding : Bool) (acked : Option Request) (g : Phase) : Prop where
  held : g.holding = holding
  same : g.acked = acked
  valid : ∀ request, acked = some request → g.uncancelled = some request.request_id

/-- A request that was acknowledged does not pass. -/
def Fails (acked : Option Request) (g : Phase) : Prop := acked.isSome = true → g.failed = true

/-- The request is for this service. -/
def Fits (cfg : Config) (request : Request) : Prop :=
  request.service_generation = cfg.generation ∧ request.boot_id = cfg.boot_id

/-- What was acknowledged is the request of the service. -/
def Own (cfg : Config) (s : ServiceState) (acked : Option Request) : Prop :=
  ∀ request, acked = some request → s.request = some request ∧ Fits cfg request

variable {holding : Bool} {acked : Option Request} {s : ServiceState}

theorem Stands.snoc {β : Type} {e : FileOp β} {b : β} (stands : Stands holding acked (phase who past))
    (held : ((phase who past).next e b).holding = (phase who past).holding)
    (same : ((phase who past).next e b).acked = (phase who past).acked)
    (still : ((phase who past).next e b).uncancelled = (phase who past).uncancelled) :
    Stands holding acked (phase who (past ++ [⟨e, b⟩])) := by
  rw [phase_snoc]
  exact ⟨held.trans stands.held, same.trans stands.same, fun request here =>
    still.trans (stands.valid request here)⟩

/-- The end of a part of `check_request` that raises. -/
abbrev Refuses (who : Party) (holding : Bool) (acked : Option Request) (s : ServiceState)
    (past : List (Event FileOp)) (s' : ServiceState) (_ : Raised) : Prop :=
  s' = s ∧ Stands holding acked (phase who past) ∧ Fails acked (phase who past)

theorem fresh_request_runs (stands : Stands holding acked (phase who past)) (own : Own cfg s acked) :
    Runs (Safe who)
      (fun past s' request => s' = s ∧ Stands holding acked (phase who past) ∧ s.request = some request)
      (Refuses who holding acked s) past s fresh_request := by
  refine runs_read_bind ?_
  cases here : s.request with
  | none =>
    refine runs_raising ⟨rfl, stands, fun there => ?_⟩
    obtain ⟨request, rfl⟩ := Option.isSome_iff_exists.mp there
    cases here.symm.trans (own request rfl).1
  | some request =>
    have read {found : Option Request} :
        Stands holding acked (phase who (past ++ [⟨.read_request, .ok found⟩])) :=
      stands.snoc rfl rfl rfl
    -- the file says something else
    have other {found : Option Request} (differs : found ≠ some request) :
        Fails acked (phase who (past ++ [⟨.read_request, .ok found⟩])) := by
      intro there
      obtain ⟨request', rfl⟩ := Option.isSome_iff_exists.mp there
      cases here.symm.trans (own request' rfl).1
      rw [phase_snoc]
      change (_ || (phase who past).acked.any _) = true
      rw [stands.same, Option.any_some, decide_eq_true differs, Bool.or_true]
    refine runs_ask_bind trivial (fun found => ?_) fun exc => ?_
    · cases found with
      | none => exact ⟨rfl, read, other nofun⟩
      | some found =>
        change Runs _ _ _ _ _ (if found = request then _ else _)
        split
        · exact ⟨rfl, read, rfl⟩
        · rename_i differs
          exact ⟨rfl, read, other fun same => differs (Option.some.inj same)⟩
    · refine ⟨rfl, stands.snoc rfl rfl rfl, fun there => ?_⟩
      rw [phase_snoc]
      change (_ || (phase who past).acked.isSome) = true
      rw [stands.same, there, Bool.or_true]

/-- The request of the service, which was not cancelled. -/
def Checked (cfg : Config) (s : ServiceState) (g : Phase) : Prop :=
  ∃ request, s.request = some request ∧ Fits cfg request ∧ g.uncancelled = some request.request_id

/-- The end of a part of `check_request` that returns. -/
abbrev Passes (cfg : Config) (who : Party) (holding : Bool) (acked : Option Request)
    (s : ServiceState) (past : List (Event FileOp)) (s' : ServiceState) (_ : Unit) : Prop :=
  s' = s ∧ Stands holding acked (phase who past) ∧ Checked cfg s (phase who past)

theorem evidence_runs {what : Evidence} (stands : Stands holding acked (phase who past))
    (checked : Checked cfg s (phase who past)) :
    Runs (Safe who) (Passes cfg who holding acked s) (Refuses who holding acked s) past s
      (ask (.evidence what)) := by
  refine runs_ask trivial fun r => ?_
  cases r with
  | ok _ =>
    refine ⟨rfl, stands.snoc rfl rfl rfl, ?_⟩
    rw [phase_snoc]
    exact checked
  | error exc =>
    refine ⟨rfl, stands.snoc rfl rfl rfl, fun there => ?_⟩
    rw [phase_snoc]
    change (_ || (phase who past).acked.isSome) = true
    rw [stands.same, there, Bool.or_true]

theorem check_evidence_runs (stands : Stands holding acked (phase who past))
    (checked : Checked cfg s (phase who past)) :
    Runs (Safe who) (Passes cfg who holding acked s) (Refuses who holding acked s) past s
      check_evidence := by
  refine (evidence_runs stands checked).bind fun past s' _ left => ?_
  obtain ⟨rfl, stands, checked⟩ := left
  refine (evidence_runs stands checked).bind fun past s _ left => ?_
  obtain ⟨rfl, stands, checked⟩ := left
  refine (evidence_runs stands checked).bind fun past s' _ left => ?_
  obtain ⟨rfl, stands, checked⟩ := left
  exact evidence_runs stands checked

/-- A request that passes is the service's own and was not cancelled; and if one was acknowledged that
does not pass, its phase says so. -/
theorem check_request_runs (stands : Stands holding acked (phase who past)) (own : Own cfg s acked) :
    Runs (Safe who) (Passes cfg who holding acked s) (Refuses who holding acked s) past s
      (check_request cfg) := by
  refine (fresh_request_runs stands own).bind fun past s' request left => ?_
  obtain ⟨rfl, stands, here⟩ := left
  have mine (request' : Request) (same : acked = some request') : request' = request :=
    Option.some.inj ((own request' same).1.symm.trans here)
  split
  · rename_i foreign
    refine ⟨rfl, stands, fun there => ?_⟩
    obtain ⟨request', same⟩ := Option.isSome_iff_exists.mp there
    have fits := (own request' same).2
    rw [mine request' same] at fits
    rcases foreign with other | other
    · exact absurd fits.1 other
    · exact absurd fits.2 other
  · rename_i fits
    rw [not_or, Decidable.not_not, Decidable.not_not] at fits
    refine runs_observe_bind (fun request' same => ?_) fun there => ?_
    · rw [stands.same] at same
      rw [stands.valid request' same, mine request' same]
      exact ⟨rfl, rfl⟩
    · cases there with
      | true =>
        refine ⟨rfl, stands.snoc rfl rfl rfl, fun there => ?_⟩
        rw [phase_snoc]
        change (_ || (phase who past).acked.isSome) = true
        rw [stands.same, there, Bool.or_true]
      | false =>
        have stands : Stands holding acked
            (phase who (past ++ [⟨.cancel_exists request.request_id, false⟩])) := by
          rw [phase_snoc]
          exact ⟨stands.held, stands.same, fun request' same => by rw [mine request' same]; rfl⟩
        have checked : Checked cfg s'
            (phase who (past ++ [⟨.cancel_exists request.request_id, false⟩])) := by
          rw [phase_snoc]
          exact ⟨request, here, fits, rfl⟩
        refine runs_read_bind (Runs.bind (Q := Passes cfg who holding acked s') ?_
          fun past s _ left => ?_)
        · refine Runs.when (fun _ => runs_observe_bind trivial fun t => ?_)
            fun _ => ⟨rfl, stands, checked⟩
          split
          · rename_i late
            refine ⟨rfl, stands.snoc rfl rfl rfl, fun there => ?_⟩
            obtain ⟨request', same⟩ := Option.isSome_iff_exists.mp there
            rw [phase_snoc]
            change (_ || Option.any _ _) = true
            rw [stands.same, same, Option.any_some, mine request' same, decide_eq_true late,
              Bool.or_true]
          · refine ⟨rfl, stands.snoc rfl rfl rfl, ?_⟩
            rw [phase_snoc]
            exact checked
        · obtain ⟨rfl, stands, checked⟩ := left
          exact check_evidence_runs stands checked

theorem Stands.closing {g : Phase} (stands : Stands true acked g) (fails : Fails acked g) : Closing g :=
  ⟨stands.held, fun there => fails (stands.same ▸ there)⟩

/-- The locked section of a tick ends with the request accepted, or the request did not pass. -/
theorem acknowledge_locked_runs {session_id : Str} (stands : Stands true none (phase .service past)) :
    Runs (Safe .service) (fun past _ _ => Closing (phase .service past))
      (fun past _ _ => Closing (phase .service past)) past s (acknowledge_locked cfg session_id) := by
  refine ((check_request_runs stands nofun).mono (fun _ _ _ left => left)
    fun _ _ _ left => left.2.1.closing left.2.2).bind fun past s' _ left => ?_
  obtain ⟨rfl, stands, request, here, fits, uncancelled⟩ := left
  refine runs_read_bind ?_
  rw [here]
  have party (past : List (Event FileOp)) : (phase .service past).party = .service :=
    phase_party .service past
  refine runs_ask_bind ⟨party past, stands.held, stands.same, uncancelled⟩ (fun _ => ?_) fun exc => ?_
  · have stands : Stands true (some request)
        (phase .service (past ++ [⟨.acknowledge request session_id, .ok ()⟩])) := by
      rw [phase_snoc]
      refine ⟨stands.held, rfl, fun request' same => ?_⟩
      cases same
      exact uncancelled
    have own : Own cfg s' (some request) := by
      intro request' same
      cases same
      exact ⟨here, fits⟩
    refine ((check_request_runs stands own).mono (fun _ _ _ left => left)
      fun _ _ _ left => left.2.1.closing left.2.2).bind fun past s _ left => ?_
    obtain ⟨rfl, stands, -⟩ := left
    refine runs_observe_bind ⟨party past, stands.held, stands.valid request rfl, stands.same⟩
      fun _ => runs_write ?_
    rw [phase_snoc]
    exact closing_of stands.held rfl
  · rw [phase_snoc]
    exact closing_of stands.held stands.same

theorem begin_locked_runs (stands : Stands true none (phase .service past)) :
    Runs (Safe .service) (fun past _ _ => Closing (phase .service past))
      (fun past _ _ => Closing (phase .service past)) past s (begin_locked cfg) := by
  have closes {past : List (Event FileOp)} (stands : Stands true none (phase .service past)) :
      Closing (phase .service past) := stands.closing nofun
  refine runs_ask_bind trivial (fun found => ?_) fun exc => closes (stands.snoc rfl rfl rfl)
  have stands : Stands true none (phase .service (past ++ [⟨.read_request, .ok found⟩])) :=
    stands.snoc rfl rfl rfl
  cases found with
  | none => exact closes stands
  | some request =>
    refine runs_write_bind (runs_ask_bind trivial (fun _ => ?_) fun exc => closes (stands.snoc rfl rfl rfl))
    refine ((check_request_runs (stands.snoc rfl rfl rfl) nofun).mono (fun _ _ _ left => left)
      fun _ _ _ left => closes left.2.1).bind fun past s' _ left => ?_
    refine runs_observe_bind trivial fun _ => runs_write ?_
    exact closes (left.2.1.snoc rfl rfl rfl)

/-! #### Outside the lock -/

/-- The steps that matter to who holds the lock. -/
def FileOp.locking : ∀ {β : Type}, FileOp β → Bool
  | _, .acquire | _, .release | _, .replace_request _ | _, .acknowledge .. | _, .cancel _
  | _, .accept _ => true
  | _, _ => false

theorem outside_next {g : Phase} {β : Type} {e : FileOp β} (plain : e.locking = false)
    (outside : g.Outside) : allowed g e ∧ ∀ b, (g.next e b).Outside := by
  cases e with
  | acquire | release | replace_request _ | acknowledge _ _ | cancel _ | accept _ => cases plain
  | cancel_exists request_id =>
    refine ⟨fun request acked => ?_, fun there => ?_⟩
    · rw [outside.2] at acked
      cases acked
    · cases there with
      | true => exact outside
      | false => exact outside
  | health | read_request | read_ack | evidence _ =>
    refine ⟨trivial, fun b => ?_⟩
    cases b with
    | _ => exact outside
  | _ => exact ⟨trivial, fun _ => outside⟩

/-- What is done without the lock, and leaves it alone. -/
abbrev Stays (who : Party) {S α : Type} (p : Method FileOp S Raised α) : Prop :=
  Preserves (Safe who) (fun past (_ : S) => (phase who past).Outside) p

theorem outside_of_plain {β : Type} {e : FileOp β} (plain : e.locking = false)
    (outside : (phase who past).Outside) :
    Safe who past e ∧ ∀ b, (phase who (past ++ [⟨e, b⟩])).Outside := by
  obtain ⟨safe, left⟩ := outside_next plain outside
  refine ⟨safe, fun b => ?_⟩
  rw [phase_snoc]
  exact left b

theorem stays_ask {e : FileOp (Except Raised α)} (plain : e.locking = false) :
    Stays who (ask e : Method FileOp S Raised α) :=
  preserves_ask fun _ _ outside => outside_of_plain plain outside

theorem stays_observe {e : FileOp α} (plain : e.locking = false) :
    Stays who (observe e : Method FileOp S Raised α) :=
  preserves_observe fun _ _ outside => outside_of_plain plain outside

theorem stays_write {f : S → S} : Stays who (write f : Method FileOp S Raised Unit) :=
  preserves_write fun _ _ outside => outside

theorem stays_control {p : Routine α}
    (inner : ∀ past s, Stands true none (phase .service past) →
      Runs (Safe .service) (fun past _ _ => Closing (phase .service past))
        (fun past _ _ => Closing (phase .service past)) past s p) : Stays .service (control p) := by
  intro past s outside
  have left {past : List (Event FileOp)} : (phase .service (past ++ [⟨.release, ()⟩])).Outside := by
    rw [phase_snoc]
    exact outside_left
  refine control_runs outside (fun exc => outside_snoc outside rfl rfl) ?_
  refine (inner _ s ?_).mono (fun _ _ _ closing => ⟨closing, left⟩) fun _ _ _ closing => ⟨closing, left⟩
  rw [phase_snoc]
  exact ⟨rfl, rfl, nofun⟩

theorem stays_check_request : Stays .service (check_request cfg) := by
  intro past s outside
  have stands : Stands false none (phase .service past) := ⟨outside.1, outside.2, nofun⟩
  exact (check_request_runs stands nofun).mono (fun _ _ _ left => ⟨left.2.1.held, left.2.1.same⟩)
    fun _ _ _ left => ⟨left.2.1.held, left.2.1.same⟩

theorem stays_attend : Stays .service (attend cfg) := by
  refine stays_check_request.bind fun _ => (stays_observe rfl).bind fun done => ?_
  split
  · exact preserves_raising _
  · refine preserves_read_bind fun s => ?_
    split
    · exact preserves_pure ()
    · refine (stays_observe rfl).bind fun session => ?_
      cases session with
      | none => exact preserves_pure ()
      | some session_id => exact stays_control fun _ _ stands => acknowledge_locked_runs stands

theorem stays_consider : Stays .service (consider cfg) := by
  refine (stays_ask rfl).bind fun found => ?_
  cases found with
  | none => exact preserves_raising _
  | some current =>
    refine preserves_read_bind fun s => Preserves.when (stays_write.bind fun _ => ?_)
    exact stays_control fun _ _ stands => begin_locked_runs stands

theorem stays_finish : Stays .service finish := by
  refine preserves_read_bind fun s => Preserves.bind (Preserves.when ?_) fun _ => stays_write
  exact (stays_observe rfl).bind fun _ => (stays_ask rfl).bind fun _ => stays_ask rfl

theorem stays_on_exception {p handler : Routine Unit} (first : Stays .service p)
    (second : Stays .service handler) : Stays .service (on_exception p handler) := by
  refine first.attempt.bind fun ended => ?_
  cases ended with
  | ok _ => exact preserves_pure ()
  | error exc =>
    cases exc with
    | CancelledError => exact preserves_raising _
    | _ => exact second

theorem stays_requalified : Stays .service requalified := by
  refine (stays_observe rfl).bind fun invalid => ?_
  split
  · refine (stays_observe rfl).bind fun _ => (stays_ask rfl).bind fun _ => stays_finish.bind fun _ => ?_
    refine (stays_ask rfl).attempt.bind fun ended => ?_
    have standby : Stays .service (observe (.set_status .STANDBY) : Routine Unit) := stays_observe rfl
    cases ended with
    | ok _ => exact (preserves_rethrow _).bind fun _ => standby
    | error exc =>
      cases exc with
      | AdmissionError =>
        refine (stays_observe rfl).bind fun _ => (stays_ask rfl).bind fun _ => ?_
        exact (stays_ask rfl).bind fun _ => standby
      | _ => exact (preserves_rethrow _).bind fun _ => standby
  · exact preserves_pure ()

theorem stays_tick_request : Stays .service (tick_request cfg) := by
  refine preserves_read_bind fun s => ?_
  split
  · exact stays_on_exception stays_attend (stays_finish.bind fun _ => stays_observe rfl)
  · refine (stays_observe rfl).bind fun there => ?_
    split
    · exact stays_on_exception stays_consider (stays_write.bind fun _ => stays_observe rfl)
    · exact preserves_pure ()

theorem stays_tick : Stays .service (tick cfg) := by
  refine stays_tick_request.bind fun _ => stays_requalified.bind fun _ => ?_
  refine (stays_observe rfl).bind fun dirty => ?_
  split
  · exact preserves_raising _
  · exact preserves_pure ()

theorem stays_round : Stays .service (round cfg) := by
  refine (stays_tick.bind fun _ => (stays_ask rfl).bind fun _ => stays_ask rfl).attempt.bind
    fun ended => ?_
  cases ended with
  | ok _ => exact preserves_pure ()
  | error _ =>
    refine stays_finish.attempt.bind fun _ => (stays_observe rfl).bind fun _ => ?_
    refine (stays_ask rfl).attempt.bind fun _ => (stays_observe rfl).bind fun _ => ?_
    exact (stays_ask rfl).attempt.bind fun _ => stays_observe rfl

theorem stays_serve (rounds : Nat) : Stays .service (serve cfg rounds) := by
  induction rounds with
  | zero => exact preserves_pure ()
  | succ rounds ih => exact stays_round.bind fun _ => ih

theorem stays_beat (rounds : Nat) : Stays .heartbeat (beat rounds) := by
  induction rounds with
  | zero => exact preserves_pure ()
  | succ rounds ih => exact (stays_ask rfl).bind fun _ => (stays_ask rfl).bind fun _ => ih

/-! ### Programs -/

/-- A caller that returns an acknowledgement has read it last, and it is of its own request. -/
def Returns (g : Phase) (outcome : Outcome) : Prop :=
  ∀ n ack, g.party = .caller n → outcome = some (.ok (.active ack)) →
    g.saw = some ack ∧ ack.request_id = .caller n

theorem outside_new : (phase who []).Outside := ⟨rfl, rfl⟩

theorem program_follows (script : Script) (who : Party) :
    lock_protocol.Follows Returns (.new who) (program cfg script who) := by
  change lock_protocol.Follows _ (lock_protocol.after (.new who) []) _
  refine Prog.Guarded.follows ?_
  cases who with
  | service =>
    have stays : Stays .service (serve cfg (script.rounds .service)) := stays_serve _
    exact Prog.Guarded.bind (stays [] ServiceState.new outside_new)
      fun _ _ _ n ack _ same => by cases same
  | heartbeat =>
    have stays : Stays .heartbeat (beat (script.rounds .heartbeat)) := stays_beat _
    exact Prog.Guarded.bind (stays [] () outside_new) fun _ _ _ n ack _ same => by cases same
  | caller n =>
    have runs : Runs (Safe (.caller n)) (fun past _ answer => Saw (.caller n) (phase (.caller n) past) answer)
        (fun _ _ _ => True) [] () (activate cfg (.caller n) (script.asks n) (script.rounds (.caller n))) :=
      activate_runs outside_new
    refine Prog.Guarded.bind runs fun past r saw => ?_
    rcases r with ⟨_ | answer, _⟩
    · intro n' ack _ same
      cases same
    · intro n' ack own same
      cases (phase_party (.caller n) past).symm.trans own
      obtain ⟨answer', rfl, same⟩ := Option.map_eq_some_iff.mp same
      cases same
      exact saw

end Threads

end SessionManager.Activation
