import SessionManager.Adapter.AnsweredOnce
import SessionManager.Adapter.Flight

/-!
# The requests of the calls

A route has one call in flight, the id that is noted for a call is the id of the request the call
made, and the SDK is told at most once to cancel a request, and only for a call whose cancellation
was asked for (`single_flight`).
-/

namespace SessionManager.Provider

open Python (Str Entries)

open Effect

variable {κ : Type} [DecidableEq κ] {cfg : ProviderConfig κ} {s s' : ProvState κ}
  {phases : TaskId → Duty} {errand : TaskId → Errand} {i : TaskId} {h : Errand} {n m request : Nat}
  {past : List (PoolEvent TaskId (ProvOp κ))} {ev : PoolEvent TaskId (ProvOp κ)} {β : Type}
  {e : ProvOp κ β} {b : β}

/-! ## Requests -/

/-- The request with this id was made for the call, by its task. -/
def Made (n request : Nat) (past : List (PoolEvent TaskId (ProvOp κ))) : Prop :=
  ⟨.call n, ⟨.next_request, request⟩⟩ ∈ past

/-- The ids of the requests. -/
structure Requests (errand : TaskId → Errand) (s : ProvState κ)
    (past : List (PoolEvent TaskId (ProvOp κ))) : Prop where
  made : ∀ n request, Made n request past → request < s.next_request
  same : ∀ n m request, Made n request past → Made m request past → n = m
  asked : ∀ i n request, (errand i).life = .asked n request → Made n request past
  noted : ∀ n request, noted s n = some request → Made n request past

omit [DecidableEq κ] in
theorem Made.snoc (made : Made n request past) : Made n request (past ++ [ev]) :=
  List.mem_append_left _ made

def makes_request : ∀ {β : Type}, ProvOp κ β → Bool
  | _, .next_request => true
  | _, _ => false

omit [DecidableEq κ] in
/-- A step that makes no request. -/
theorem Requests.stays (requests : Requests errand s past)
    (other : makes_request ev.event.request = false)
    (next : s'.next_request = s.next_request)
    (asked : ∀ n request, h.life = .asked n request → (errand i).life = .asked n request)
    (noted : ∀ n request, Provider.noted s' n = some request → Made n request past) :
    Requests (Function.update errand i h) s' (past ++ [ev]) := by
  have before {n request : Nat} (made : Made n request (past ++ [ev])) : Made n request past := by
    rcases List.mem_append.mp made with old | new
    · exact old
    · rw [← List.mem_singleton.mp new] at other
      cases other
  refine ⟨fun n request made => next ▸ requests.made n request (before made),
    fun n m request first second => requests.same n m request (before first) (before second),
    fun j n request here => ?_, fun n request here => (noted n request here).snoc⟩
  by_cases same : j = i
  · subst same
    rw [Function.update_self] at here
    exact (requests.asked j n request (asked n request here)).snoc
  · rw [Function.update_of_ne same] at here
    exact (requests.asked j n request here).snoc

omit [DecidableEq κ] in
/-- The SDK gives the next request of a call its id. -/
theorem Requests.next_request (requests : Requests errand s past)
    (asked : h.life = .asked n s.next_request) :
    Requests (Function.update errand (.call n) h) { s with next_request := s.next_request + 1 }
      (past ++ [⟨.call n, ⟨.next_request, s.next_request⟩⟩]) := by
  have made : Made n s.next_request (past ++ [⟨.call n, ⟨.next_request, s.next_request⟩⟩]) :=
    List.mem_append_right _ (List.mem_singleton_self _)
  have before {m request : Nat}
      (made : Made m request (past ++ [⟨.call n, ⟨.next_request, s.next_request⟩⟩])) :
      Made m request past ∨ m = n ∧ request = s.next_request := by
    rcases List.mem_append.mp made with old | new
    · exact .inl old
    · cases List.mem_singleton.mp new
      exact .inr ⟨rfl, rfl⟩
  refine ⟨fun m request made => ?_, fun m k request first second => ?_, fun j m request here => ?_,
    fun m request here => (requests.noted m request here).snoc⟩
  · change request < s.next_request + 1
    rcases before made with old | ⟨-, rfl⟩
    · exact Nat.lt_succ_of_lt (requests.made m request old)
    · exact Nat.lt_succ_self _
  · -- The new id was given to no request before.
    rcases before first with old | ⟨rfl, rfl⟩ <;> rcases before second with old' | ⟨rfl, same⟩
    · exact requests.same m k request old old'
    · exact absurd (same ▸ requests.made m request old) (lt_irrefl _)
    · exact absurd (requests.made k _ old') (lt_irrefl _)
    · rfl
  · by_cases same : j = .call n
    · subst same
      rw [Function.update_self, asked] at here
      cases here
      exact made
    · rw [Function.update_of_ne same] at here
      exact (requests.asked j m request here).snoc

/-! ## Notices -/

/-- The call whose request the task may call off. -/
def Tell.about : Tell → Option Nat
  | .flagged n | .notifier n => some n
  | _ => none

/-- A request that the SDK may be told to cancel. -/
def Told (s : ProvState κ) (past : List (PoolEvent TaskId (ProvOp κ))) (request : Nat) : Prop :=
  ∃ n, Made n request past ∧ Requested s n ∧ Sent s n

/-- What the tasks tell the SDK. -/
structure Notices (errand : TaskId → Errand) (s : ProvState κ)
    (past : List (PoolEvent TaskId (ProvOp κ))) : Prop where
  about : ∀ i n, (errand i).tell.about = some n → Requested s n
  unbegun : ∀ i n, (errand i).tell = .unbegun n → i = .notify n
  created : ∀ n, s.created (.notify n) = true → Requested s n
  telling : ∀ i request, (errand i).tell = .telling request → Told s past request
  unsaid : ∀ i request, (errand i).tell = .telling request → request ∉ s.notified
  teller : ∀ i j request, (errand i).tell = .telling request → (errand j).tell = .telling request → i = j
  told : ∀ request ∈ s.notified, Told s past request
  once : s.notified.Nodup

omit [DecidableEq κ] in
theorem Told.mono (flags : Flags s s') (told : Told s past request) : Told s' (past ++ [ev]) request := by
  obtain ⟨n, made, requested, sent⟩ := told
  exact ⟨n, made.snoc, flags.requested n requested, flags.sent n sent⟩

omit [DecidableEq κ] in
/-- A step that neither sets `cancel_sent` nor tells the SDK. -/
theorem Notices.stays (notices : Notices errand s past) (flags : Flags s s')
    (created : ∀ n, s'.created (.notify n) = true → s.created (.notify n) = true ∨ Requested s' n)
    (notified : s'.notified = s.notified)
    (about : ∀ n, h.tell.about = some n → (errand i).tell.about = some n ∨ Requested s' n)
    (unbegun : ∀ n, h.tell = .unbegun n → (errand i).tell = .unbegun n)
    (telling : ∀ request, h.tell = .telling request → (errand i).tell = .telling request) :
    Notices (Function.update errand i h) s' (past ++ [ev]) := by
  have before {j : TaskId} {request : Nat}
      (here : (Function.update errand i h j).tell = .telling request) : (errand j).tell = .telling request := by
    by_cases same : j = i
    · subst same
      rw [Function.update_self] at here
      exact telling request here
    · rwa [Function.update_of_ne same] at here
  refine ⟨fun j n here => ?_, fun j n here => ?_, fun n here => ?_,
    fun j request here => (notices.telling j request (before here)).mono flags,
    fun j request here => notified ▸ notices.unsaid j request (before here),
    fun j k request first second => notices.teller j k request (before first) (before second),
    fun request member => (notices.told request (notified ▸ member)).mono flags, notified ▸ notices.once⟩
  · by_cases same : j = i
    · subst same
      rw [Function.update_self] at here
      rcases about n here with still | now
      · exact flags.requested n (notices.about j n still)
      · exact now
    · rw [Function.update_of_ne same] at here
      exact flags.requested n (notices.about j n here)
  · by_cases same : j = i
    · subst same
      rw [Function.update_self] at here
      exact notices.unbegun j n (unbegun n here)
    · rw [Function.update_of_ne same] at here
      exact notices.unbegun j n here
  · rcases created n here with still | now
    · exact flags.requested n (notices.created n still)
    · exact now

omit [DecidableEq κ] in
/-- Who sets `cancel_sent` is to tell the SDK, and nobody was before. -/
theorem Notices.claim_cancel (notices : Notices errand s past) (requests : Requests errand s past)
    {entry : PendingCall} (entered : s.entries n = some entry) (unsent : entry.cancel_sent = false)
    (known : entry.sdk_request_id = some request) (about : (errand i).tell.about = some n)
    (tells : h.tell = .telling request) :
    Notices (Function.update errand i h) (s.set_entry n { entry with cancel_sent := true })
      (past ++ [ev]) := by
  have flags : Flags s (s.set_entry n { entry with cancel_sent := true }) :=
    flags_set_entry entered (fun flag => flag) fun _ => rfl
  have made : Made n request past := by
    refine requests.noted n request ?_
    rw [Provider.noted, entered, Option.bind_some, known]
  -- Nobody has told the SDK about this request, or is about to.
  have untold : ¬ Told s past request := by
    rintro ⟨m, made', -, entry', there, sent⟩
    obtain rfl := requests.same n m request made made'
    cases entered.symm.trans there
    rw [unsent] at sent
    cases sent
  have telling {j : TaskId} {request' : Nat} (other : j ≠ i)
      (here : (Function.update errand i h j).tell = .telling request') :
      (errand j).tell = .telling request' ∧ request' ≠ request := by
    rw [Function.update_of_ne other] at here
    refine ⟨here, ?_⟩
    rintro rfl
    exact untold (notices.telling j _ here)
  have own {request' : Nat} (here : (Function.update errand i h i).tell = .telling request') :
      request' = request := by
    rw [Function.update_self, tells] at here
    cases here
    rfl
  refine ⟨fun j m here => ?_, fun j m here => ?_, fun m here => flags.requested m (notices.created m here),
    fun j request' here => ?_, fun j request' here => ?_, fun j k request' first second => ?_,
    fun request' member => (notices.told request' member).mono flags, notices.once⟩
  · by_cases same : j = i
    · subst same
      rw [Function.update_self, tells] at here
      cases here
    · rw [Function.update_of_ne same] at here
      exact flags.requested m (notices.about j m here)
  · by_cases same : j = i
    · subst same
      rw [Function.update_self, tells] at here
      cases here
    · rw [Function.update_of_ne same] at here
      exact notices.unbegun j m here
  · by_cases same : j = i
    · subst same
      obtain rfl := own here
      exact ⟨n, made.snoc, flags.requested n (notices.about j n about), _, Function.update_self .., rfl⟩
    · exact (notices.telling j request' (telling same here).1).mono flags
  · by_cases same : j = i
    · subst same
      obtain rfl := own here
      exact fun member => untold (notices.told _ member)
    · exact notices.unsaid j request' (telling same here).1
  · by_cases same : j = i
    · subst same
      obtain rfl := own first
      by_contra other
      exact (telling (fun back => other back.symm) second).2 rfl
    · by_cases same' : k = i
      · subst same'
        obtain rfl := own second
        exact absurd rfl (telling same first).2
      · exact notices.teller j k request' (telling same first).1 (telling same' second).1

omit [DecidableEq κ] in
/-- The SDK is told. -/
theorem Notices.relay_cancel (notices : Notices errand s past)
    (telling : (errand i).tell = .telling request) (done : h.tell = .nothing) (flags : Flags s s')
    (created : ∀ n, s'.created (.notify n) = s.created (.notify n))
    (notified : s'.notified = s.notified ++ [request]) :
    Notices (Function.update errand i h) s' (past ++ [ev]) := by
  have before {j : TaskId} {request' : Nat}
      (here : (Function.update errand i h j).tell = .telling request') :
      (errand j).tell = .telling request' ∧ request' ≠ request := by
    by_cases same : j = i
    · subst same
      rw [Function.update_self, done] at here
      cases here
    · rw [Function.update_of_ne same] at here
      refine ⟨here, ?_⟩
      rintro rfl
      exact same (notices.teller j i _ here telling)
  refine ⟨fun j n here => ?_, fun j n here => ?_, fun n here => ?_,
    fun j request' here => (notices.telling j request' (before here).1).mono flags,
    fun j request' here => ?_,
    fun j k request' first second => notices.teller j k request' (before first).1 (before second).1,
    fun request' member => ?_, ?_⟩
  · by_cases same : j = i
    · subst same
      rw [Function.update_self, done] at here
      cases here
    · rw [Function.update_of_ne same] at here
      exact flags.requested n (notices.about j n here)
  · by_cases same : j = i
    · subst same
      rw [Function.update_self, done] at here
      cases here
    · rw [Function.update_of_ne same] at here
      exact notices.unbegun j n here
  · exact flags.requested n (notices.created n (created n ▸ here))
  · obtain ⟨told, other⟩ := before here
    rw [notified, List.mem_append, List.mem_singleton]
    exact fun member => member.elim (notices.unsaid j request' told) other
  · rw [notified, List.mem_append, List.mem_singleton] at member
    rcases member with old | rfl
    · exact (notices.told request' old).mono flags
    · exact (notices.telling i _ telling).mono flags
  · rw [notified]
    refine List.nodup_append.mpr ⟨notices.once, List.nodup_singleton request, ?_⟩
    rintro request' old k last rfl
    rw [List.mem_singleton.mp last] at old
    exact notices.unsaid i request telling old

/-! ## One step -/

/-- What holds in every state of a run. -/
structure Affairs (cfg : ProviderConfig κ) (phases : TaskId → Duty) (errand : TaskId → Errand)
    (s : ProvState κ) (past : List (PoolEvent TaskId (ProvOp κ))) : Prop where
  accounts : Accounts cfg phases s past
  vacant : Vacant phases s
  flight : Flight errand s
  requests : Requests errand s past
  notices : Notices errand s past

/-- A task of a call that makes requests for it has begun. -/
theorem Accounts.begun (accounts : Accounts cfg phases s past) (idle : (phases (.call n)).Idle) :
    s.calls n ≠ none := by
  have fits := accounts.fits (.call n)
  generalize phases (.call n) = g at idle fits
  rcases idle with steady | ⟨m, id, rfl⟩
  · cases g with
    | answered | lost => exact fits.2.1
    | bystander | free | sent => exact fits.elim
    | _ => cases steady
  · exact fits.2.1

omit [DecidableEq κ] in
theorem next_asked {g : Errand} (queued : g.life = .queued n) :
    errands.next g (ProvOp.next_request : ProvOp κ Nat) request = ⟨.asked n request, g.tell.rest⟩ := by
  obtain ⟨life, tell⟩ := g
  obtain rfl : life = .queued n := queued
  rfl

omit [DecidableEq κ] in
theorem next_captured {g : Errand} {captured : Option Nat} (asked : g.life = .asked n request) :
    errands.next g (ProvOp.capture request : ProvOp κ (Option Nat)) captured =
      ⟨.running (some n), captured.elim g.tell.rest .flagged⟩ := by
  obtain ⟨life, tell⟩ := g
  obtain rfl : life = .asked n request := asked
  rfl

/-- The id is noted for the call that has asked. -/
theorem Flight.captured (flight : Flight errand s) (asked : (errand i).life = .asked n request)
    {captured : Option Nat} (answered : provider_answers i s (.capture request) captured s') :
    ∃ entry, s.entries n = some entry ∧
      captured = (if entry.cancel_requested then some n else none) ∧
      s' = { s.set_entry n { entry with sdk_request_id := some request } with
        capture_queue := s.capture_queue.erase n } := by
  obtain ⟨rest, queue⟩ := flight.first asked
  delta provider_answers at answered
  dsimp only at answered
  rw [queue] at answered
  obtain ⟨entry, here, flag, rfl⟩ := answered
  refine ⟨entry, here, flag, ?_⟩
  rw [queue, List.erase_cons_head]

theorem Affairs.flight_step (affairs : Affairs cfg phases errand s past)
    (allowed : (answers cfg).allows (phases i) e) (allowed' : errands.allows (errand i) e)
    (answered : provider_answers i s e b s') :
    Flight (Function.update errand i (errands.next (errand i) e b)) s' := by
  obtain ⟨accounts, vacant, flight, -, -⟩ := affairs
  have usual (usual : undisturbing e = true)
      (life : (errands.next (errand i) e b).life = (errand i).life) :
      Flight (Function.update errand i (errands.next (errand i) e b)) s' := by
    have still := undisturbed usual answered
    exact flight.stays still.calls (fun n => by rw [still.tasks]) still.queue life
  have same {s' : ProvState κ} (life : (errands.next (errand i) e b).life = (errand i).life)
      (calls : s'.calls = s.calls) (tasks : s'.tasks = s.tasks)
      (queue : s'.capture_queue = s.capture_queue) :
      Flight (Function.update errand i (errands.next (errand i) e b)) s' :=
    flight.stays calls (fun n => by rw [tasks]) queue life
  cases e with
  | finish =>
    subst answered
    obtain ⟨own, running⟩ := allowed'
    refine flight.goes_on rfl (fun _ => Iff.rfl) rfl (fun gone => ?_) (fun n here => ?_) ?_
    · rw [running] at gone
      cases gone
    · cases here
    · rw [running]
      rfl
  | discard =>
    subst answered
    exact flight.discard allowed' rfl
  | create_call n id params =>
    subst answered
    exact flight.create_call (vacant i n id allowed) rfl rfl rfl rfl
  | create_notify n =>
    subst answered
    exact flight.stays rfl (fun m => by simp) rfl rfl
  | queue_capture n =>
    subst answered
    have own : i = .call n := flight.own i n (by rw [allowed']; rfl)
    exact flight.queue_capture allowed' rfl (accounts.begun (own ▸ allowed))
  | next_request =>
    obtain ⟨rfl, rfl⟩ := answered
    obtain ⟨n, queued⟩ := allowed'
    rw [next_asked queued]
    refine flight.goes_on rfl (fun _ => Iff.rfl) rfl (fun gone => ?_) (fun m here => ?_) ?_
    · rw [queued] at gone
      cases gone
    · rw [queued]
      exact here
    · rw [queued]
      rfl
  | capture request =>
    obtain ⟨n, asked⟩ := allowed'
    obtain ⟨entry, -, -, rfl⟩ := flight.captured asked answered
    rw [next_captured asked]
    exact flight.noted (by rw [asked]; rfl) rfl rfl rfl rfl
  | close_entry n key =>
    subst answered
    refine flight.noted (n := n) ?_ rfl rfl rfl rfl
    rcases allowed' with running | queued
    · rw [running]
      rfl
    · rw [queued]
      rfl
  | open_entry n id key =>
    subst answered
    exact same rfl rfl rfl rfl
  | claim_cancel n =>
    obtain ⟨entry, here, ⟨-, rfl, rfl⟩ | ⟨request, -, -, rfl, rfl⟩⟩ := answered
    · exact same rfl rfl rfl rfl
    · exact same rfl rfl rfl rfl
  | request_cancel n =>
    obtain ⟨entry, here, rfl⟩ := answered
    exact same rfl rfl rfl rfl
  | relay_cancel request =>
    obtain ⟨-, told⟩ := answered
    cases b with
    | ok _ =>
      subst told
      exact same rfl rfl rfl rfl
    | error _ =>
      subst told
      exact same rfl rfl rfl rfl
  | begin =>
    cases b with
    | ok _ => exact usual rfl rfl
    | error _ => exact usual rfl rfl
  | _ => exact usual rfl rfl

theorem Affairs.requests_step (affairs : Affairs cfg phases errand s past)
    (allowed' : errands.allows (errand i) e) (answered : provider_answers i s e b s') :
    Requests (Function.update errand i (errands.next (errand i) e b)) s' (past ++ [⟨i, ⟨e, b⟩⟩]) := by
  obtain ⟨accounts, -, flight, requests, -⟩ := affairs
  have same {s' : ProvState κ} (life : (errands.next (errand i) e b).life = (errand i).life)
      (other : makes_request e = false) (next : s'.next_request = s.next_request)
      (entries : ∀ n, noted s' n = noted s n) :
      Requests (Function.update errand i (errands.next (errand i) e b)) s' (past ++ [⟨i, ⟨e, b⟩⟩]) :=
    requests.stays other next (fun _ _ asked => life ▸ asked)
      fun n request here => requests.noted n request (entries n ▸ here)
  have running {own : Option Nat} {s' : ProvState κ}
      (life : (errands.next (errand i) e b).life = .running own)
      (other : makes_request e = false) (next : s'.next_request = s.next_request)
      (entries : ∀ n request, noted s' n = some request → Made n request past) :
      Requests (Function.update errand i (errands.next (errand i) e b)) s' (past ++ [⟨i, ⟨e, b⟩⟩]) :=
    requests.stays other next (fun n request asked => by rw [life] at asked; cases asked) entries
  have usual (usual : undisturbing e = true) (other : makes_request e = false)
      (life : (errands.next (errand i) e b).life = (errand i).life) :
      Requests (Function.update errand i (errands.next (errand i) e b)) s' (past ++ [⟨i, ⟨e, b⟩⟩]) := by
    have still := undisturbed usual answered
    exact same life other still.next_request still.noted
  have entry_kept {n : Nat} {entry new : PendingCall} (here : s.entries n = some entry)
      (kept : new.sdk_request_id = entry.sdk_request_id) (m : Nat) :
      noted (s.set_entry n new) m = noted s m := by
    rw [noted_set_entry]
    split
    · rename_i same
      rw [same, noted, here, Option.bind_some, kept]
    · rfl
  cases e with
  | finish | discard =>
    subst answered
    refine requests.stays rfl rfl (fun n request asked => ?_) requests.noted
    cases asked
  | create_call | create_notify =>
    subst answered
    exact same rfl rfl rfl fun _ => rfl
  | queue_capture n =>
    subst answered
    refine requests.stays rfl rfl (fun n request asked => ?_) requests.noted
    cases asked
  | close_entry n key =>
    subst answered
    exact running rfl rfl rfl requests.noted
  | next_request =>
    obtain ⟨rfl, rfl⟩ := answered
    obtain ⟨n, queued⟩ := allowed'
    obtain rfl := flight.own i n (by rw [queued]; rfl)
    rw [next_asked queued]
    exact requests.next_request rfl
  | capture request =>
    obtain ⟨n, asked⟩ := allowed'
    have made := requests.asked i n request asked
    obtain ⟨entry, -, -, rfl⟩ := flight.captured asked answered
    refine running (by rw [next_captured asked]) rfl rfl fun m request' here => ?_
    change noted (s.set_entry n { entry with sdk_request_id := some request }) m = some request' at here
    rw [noted_set_entry] at here
    split at here
    · rename_i same
      cases here
      exact same ▸ made
    · exact requests.noted m request' here
  | open_entry n id key =>
    subst answered
    refine requests.stays rfl rfl (fun n request asked => asked) fun m request here => ?_
    change noted (s.set_entry n ⟨id, none, false, false, false⟩) m = some request at here
    rw [noted_set_entry] at here
    split at here
    · cases here
    · exact requests.noted m request here
  | claim_cancel n =>
    obtain ⟨entry, here, ⟨-, rfl, rfl⟩ | ⟨request, -, -, rfl, rfl⟩⟩ := answered
    · exact same rfl rfl rfl fun _ => rfl
    · exact same rfl rfl rfl (entry_kept here rfl)
  | request_cancel n =>
    obtain ⟨entry, here, rfl⟩ := answered
    exact same rfl rfl rfl (entry_kept here rfl)
  | relay_cancel request =>
    obtain ⟨-, told⟩ := answered
    cases b with
    | ok _ =>
      subst told
      exact same rfl rfl rfl fun _ => rfl
    | error _ =>
      subst told
      exact same rfl rfl rfl fun _ => rfl
  | begin =>
    cases b with
    | ok _ => exact usual rfl rfl rfl
    | error _ => exact usual rfl rfl rfl
  | _ => exact usual rfl rfl rfl

omit [DecidableEq κ] in
theorem rest_about {tell : Tell} (about : tell.rest.about = some n) : tell.about = some n := by
  cases tell with
  | notifier m => exact about
  | _ => cases about

omit [DecidableEq κ] in
theorem rest_unbegun {tell : Tell} (unbegun : tell.rest = .unbegun n) : tell = .unbegun n := by
  cases tell with
  | unbegun m => exact unbegun
  | _ => cases unbegun

omit [DecidableEq κ] in
theorem rest_silent {tell : Tell} : tell.rest ≠ .telling request := by
  cases tell <;> exact fun here => by cases here

theorem Affairs.notices_step (affairs : Affairs cfg phases errand s past)
    (allowed : (answers cfg).allows (phases i) e) (allowed' : errands.allows (errand i) e)
    (answered : provider_answers i s e b s') :
    Notices (Function.update errand i (errands.next (errand i) e b)) s' (past ++ [⟨i, ⟨e, b⟩⟩]) := by
  obtain ⟨accounts, -, flight, requests, notices⟩ := affairs
  have same {s' : ProvState κ} (tell : (errands.next (errand i) e b).tell = (errand i).tell.rest)
      (flags : Flags s s') (created : ∀ n, s'.created (.notify n) = s.created (.notify n))
      (notified : s'.notified = s.notified) :
      Notices (Function.update errand i (errands.next (errand i) e b)) s' (past ++ [⟨i, ⟨e, b⟩⟩]) :=
    notices.stays flags (fun n here => .inl (created n ▸ here)) notified
      (fun _ about => .inl (rest_about (tell ▸ about))) (fun _ here => rest_unbegun (tell ▸ here))
      fun _ here => absurd (tell ▸ here) rest_silent
  have usual (usual : undisturbing e = true)
      (tell : (errands.next (errand i) e b).tell = (errand i).tell.rest) :
      Notices (Function.update errand i (errands.next (errand i) e b)) s' (past ++ [⟨i, ⟨e, b⟩⟩]) := by
    have still := undisturbed usual answered
    exact same tell still.flags still.created still.notified
  have kept {s' : ProvState κ} (tell : (errands.next (errand i) e b).tell = (errand i).tell)
      (flags : Flags s s') (created : ∀ n, s'.created (.notify n) = s.created (.notify n))
      (notified : s'.notified = s.notified) :
      Notices (Function.update errand i (errands.next (errand i) e b)) s' (past ++ [⟨i, ⟨e, b⟩⟩]) :=
    notices.stays flags (fun n here => .inl (created n ▸ here)) notified (fun _ about => .inl (tell ▸ about))
      (fun _ here => tell ▸ here) fun _ here => tell ▸ here
  have flagged {s' : ProvState κ} {n : Nat} (tell : (errands.next (errand i) e b).tell = .flagged n)
      (flags : Flags s s') (requested : Requested s' n)
      (created : ∀ n, s'.created (.notify n) = s.created (.notify n)) (notified : s'.notified = s.notified) :
      Notices (Function.update errand i (errands.next (errand i) e b)) s' (past ++ [⟨i, ⟨e, b⟩⟩]) := by
    refine notices.stays flags (fun m here => .inl (created m ▸ here)) notified (fun m about => ?_)
      (fun m here => ?_) fun request here => ?_
    · rw [tell] at about
      cases about
      exact .inr requested
    · rw [tell] at here
      cases here
    · rw [tell] at here
      cases here
  cases e with
  | finish | discard =>
    subst answered
    exact kept rfl (flags_of_eq rfl) (fun _ => rfl) rfl
  | create_call n id params =>
    subst answered
    have created (m : Nat) : Function.update s.created (.call n) true (.notify m) = s.created (.notify m) :=
      Function.update_of_ne (by simp) ..
    exact same rfl (flags_of_eq rfl) created rfl
  | create_notify n =>
    subst answered
    refine notices.stays (flags_of_eq rfl) (fun m here => ?_) rfl (fun _ about => .inl (rest_about about))
      (fun _ here => rest_unbegun here) fun _ here => absurd here rest_silent
    by_cases same : m = n
    · subst same
      exact .inr (notices.about i m (by rw [allowed'.2]; rfl))
    · have other : Function.update s.created (.notify n) true (.notify m) = s.created (.notify m) :=
        Function.update_of_ne (by simpa using same) ..
      exact .inl (other ▸ here)
  | queue_capture | close_entry =>
    subst answered
    exact same rfl (flags_of_eq rfl) (fun _ => rfl) rfl
  | next_request =>
    obtain ⟨rfl, rfl⟩ := answered
    obtain ⟨n, queued⟩ := allowed'
    exact same (by rw [next_asked queued]) (flags_of_eq rfl) (fun _ => rfl) rfl
  | capture request =>
    obtain ⟨n, asked⟩ := allowed'
    obtain ⟨entry, here, rfl, rfl⟩ := flight.captured asked answered
    have flags : Flags s (s.set_entry n { entry with sdk_request_id := some request }) :=
      flags_set_entry here (fun flag => flag) fun flag => flag
    have flags : Flags s { s.set_entry n { entry with sdk_request_id := some request } with
        capture_queue := s.capture_queue.erase n } := ⟨flags.requested, flags.sent⟩
    by_cases requested : entry.cancel_requested = true
    · exact flagged (by rw [next_captured asked, if_pos requested]; rfl) flags
        (flags.requested n ⟨entry, here, requested⟩) (fun _ => rfl) rfl
    · exact same (by rw [next_captured asked, if_neg requested]; rfl) flags (fun _ => rfl) rfl
  | open_entry n id key =>
    subst answered
    have absent : s.entries n = none := by
      have fits := accounts.fits i
      rw [show phases i = .given n id from allowed] at fits
      cases i with
      | call m =>
        obtain ⟨rfl, -, absent⟩ := fits
        exact absent
      | main => exact fits.elim
      | loop => exact fits.elim
      | notify _ => cases fits
      | reader => cases fits
    have other {m : Nat} {entry : PendingCall} (there : s.entries m = some entry) :
        Function.update s.entries n (some ⟨id, none, false, false, false⟩) m = some entry := by
      rw [Function.update_of_ne, there]
      rintro rfl
      cases absent.symm.trans there
    refine same rfl ⟨fun m => ?_, fun m => ?_⟩ (fun _ => rfl) rfl
    · rintro ⟨entry, there, flag⟩
      exact ⟨entry, other there, flag⟩
    · rintro ⟨entry, there, flag⟩
      exact ⟨entry, other there, flag⟩
  | claim_cancel n =>
    obtain ⟨entry, here, ⟨-, rfl, rfl⟩ | ⟨request, known, unsent, rfl, rfl⟩⟩ := answered
    · exact same rfl (flags_of_eq rfl) (fun _ => rfl) rfl
    · refine notices.claim_cancel requests here unsent known ?_ rfl
      rcases allowed'.2 with flagged | notifier
      · rw [flagged]
        rfl
      · rw [notifier]
        rfl
  | request_cancel n =>
    obtain ⟨entry, here, rfl⟩ := answered
    exact flagged rfl (flags_set_entry here (fun _ => rfl) fun flag => flag)
      ⟨_, Function.update_self .., rfl⟩ (fun _ => rfl) rfl
  | relay_cancel request =>
    obtain ⟨-, told⟩ := answered
    have done : (errands.next (errand i) (ProvOp.relay_cancel request : ProvOp κ _) b).tell = .nothing := by
      change (errand i).tell.rest = .nothing
      rw [allowed'.2]
      rfl
    cases b with
    | ok _ =>
      subst told
      exact notices.relay_cancel allowed'.2 done (flags_of_eq rfl) (fun _ => rfl) rfl
    | error _ =>
      subst told
      exact same rfl (flags_of_eq rfl) (fun _ => rfl) rfl
  | begin =>
    cases b with
    | error _ => exact usual rfl rfl
    | ok _ =>
      obtain ⟨-, created, rfl⟩ := answered
      have begun : (errands.next (errand i) (ProvOp.begin : ProvOp κ _) (.ok ())).tell =
          (errand i).tell.begun := rfl
      refine notices.stays (flags_of_eq rfl) (fun _ => .inl) rfl (fun n about => ?_) (fun n here => ?_)
        fun request here => ?_
      · rw [begun] at about
        cases tell : (errand i).tell with
        | unbegun m =>
          rw [tell] at about
          cases about
          exact .inr (notices.created n (notices.unbegun i n tell ▸ created))
        | notifier m =>
          rw [tell] at about
          exact .inl about
        | _ =>
          rw [tell] at about
          cases about
      · rw [begun] at here
        cases tell : (errand i).tell with
        | _ =>
          rw [tell] at here
          cases here
      · rw [begun] at here
        cases tell : (errand i).tell with
        | _ =>
          rw [tell] at here
          cases here
  | _ => exact usual rfl rfl

/-- **One request keeps the affairs of a route**, whoever makes it and however it is answered. -/
theorem Affairs.step (affairs : Affairs cfg phases errand s past)
    (allowed : (answers cfg).allows (phases i) e) (allowed' : errands.allows (errand i) e)
    (answered : provider_answers i s e b s')
    (idle : ∀ j ≠ i, (answers cfg).Idle (α := Except Raised Unit) Settled ProvOp.awaits (phases j)) :
    Affairs cfg (Function.update phases i ((answers cfg).next (phases i) e b))
      (Function.update errand i (errands.next (errand i) e b)) s' (past ++ [⟨i, ⟨e, b⟩⟩]) where
  accounts := affairs.accounts.step allowed answered idle
  vacant := affairs.vacant.step allowed answered idle
  flight := affairs.flight_step allowed allowed' answered
  requests := affairs.requests_step allowed' answered
  notices := affairs.notices_step allowed allowed' answered

/-! ## Runs -/

section Runs

variable {connection_id : Str} {own_child : Bool} {next_request rounds : Nat}
  {tr : List (PoolEvent TaskId (ProvOp κ))}
  {q : Pool TaskId (ProvOp κ) (ProvState κ) (Except Raised Unit)}

/-- Nothing has happened on a new route. -/
theorem affairs_start : Affairs cfg Duty.start Errand.start (.init connection_id own_child next_request) [] where
  accounts := accounts_start
  vacant i n id here := by
    cases i <;> cases here
  flight := by
    refine ⟨fun n begun => absurd rfl begun, fun n m here => ?_, fun i n here => ?_, fun n => ?_, List.nodup_nil,
      fun n here => ?_⟩
    · cases here
    · cases i <;> cases here
      rfl
    · exact iff_of_false (fun here => by cases here) (by simp [Errand.start, Life.waiting])
    · cases here
  requests := by
    refine ⟨fun n request here => ?_, fun n m request here => ?_, fun i n request here => ?_,
      fun n request here => ?_⟩
    · cases here
    · cases here
    · cases i <;> cases here
    · cases here
  notices := by
    refine ⟨fun i n here => ?_, fun i n here => ?_, fun n here => ?_, fun i request here => ?_,
      fun i request here => ?_, fun i j request here => ?_, fun request here => ?_, List.nodup_nil⟩
    · cases i <;> cases here
    · cases i <;> cases here
      rfl
    · cases here
    · cases i <;> cases here
    · cases i <;> cases here
    · cases i <;> cases here
    · cases here

/-- The affairs of a route are in order after every run. -/
theorem affairs_of_turns (synchronous : Synchronous cfg.rules)
    (turns : Pool.Turns ProvOp.awaits provider_sem
      ⟨.init connection_id own_child next_request, route_tasks cfg rounds⟩ tr q) :
    Affairs cfg (Pool.phases (answers cfg) Duty.start tr) (Pool.phases errands Errand.start tr) q.shared tr :=
  turns.invariant_both (follows_duty synchronous rounds) (follows_errands rounds) affairs_start
    fun _ _ affairs allowed allowed' answered idle _ => affairs.step allowed allowed' answered idle

/-- The task of the call exists and has not returned. -/
def InFlight (q : Pool TaskId (ProvOp κ) (ProvState κ) (Except Raised Unit)) (n : Nat) : Prop :=
  q.shared.calls n ≠ none ∧ ¬ q.Returned (.call n)

omit [DecidableEq κ] in
/-- A task that is gone makes no more requests. -/
theorem gone_returns {g : Errand} {α : Type} {Q : Errand → α → Prop} {p : Prog (ProvOp κ) α}
    (follows : errands.Follows Q g p) (gone : g.life = .gone) : ∃ a, p = .ret a := by
  cases p with
  | ret a => exact ⟨a, rfl⟩
  | op e k =>
    have dead : g.life.live ≠ true := by simp [gone, Life.live]
    have allowed := follows.1
    cases e with
    | finish =>
      obtain ⟨own, here⟩ := allowed
      cases gone.symm.trans here
    | next_request =>
      obtain ⟨n, here⟩ := allowed
      cases gone.symm.trans here
    | capture request =>
      obtain ⟨n, here⟩ := allowed
      cases gone.symm.trans here
    | discard | queue_capture => cases gone.symm.trans allowed
    | close_entry n key =>
      rcases allowed with here | here
      · cases gone.symm.trans here
      · cases gone.symm.trans here
    | create_notify | claim_cancel | relay_cancel => exact absurd allowed.1 dead
    | _ => exact absurd allowed dead

/-- **One call in flight.**  However the tasks of a route interleave at their awaits, at most one call
has a task that has not returned.  The id that is noted for a call is the id of the request its task
made.  The SDK is told at most once to cancel a request, and the call that made it, which is the only
one, was to be cancelled. -/
theorem single_flight (synchronous : Synchronous cfg.rules)
    (turns : Pool.Turns ProvOp.awaits provider_sem
      ⟨.init connection_id own_child next_request, route_tasks cfg rounds⟩ tr q) :
    (∀ n m, InFlight q n → InFlight q m → n = m) ∧
      (∀ n entry request, q.shared.entries n = some entry → entry.sdk_request_id = some request →
        Made n request tr) ∧
      q.shared.notified.Nodup ∧
      ∀ request ∈ q.shared.notified, ∃ n entry, Made n request tr ∧
        (∀ m, Made m request tr → m = n) ∧ q.shared.entries n = some entry ∧
        entry.cancel_requested = true := by
  obtain ⟨-, -, flight, requests, notices⟩ := affairs_of_turns synchronous turns
  have there {n : Nat} (flies : InFlight q n) : .call n ∈ q.shared.tasks := by
    refine flight.tasks n flies.1 fun gone => flies.2 ?_
    have follows := (follows_errands rounds (.call n)).exec (turns.run.project (.call n))
    rw [← Pool.phases_eq_after] at follows
    exact gone_returns follows gone
  refine ⟨fun n m first second => flight.alone n m (there first) (there second),
    fun n entry request here known => ?_, notices.once, fun request member => ?_⟩
  · refine requests.noted n request ?_
    rw [noted, here, Option.bind_some, known]
  · obtain ⟨n, made, ⟨entry, here, requested⟩, -⟩ := notices.told request member
    exact ⟨n, entry, made, fun m other => requests.same m n request other made, here, requested⟩

end Runs

/-! ## A call that is called off at the SDK -/

/-- The same, but the descriptors can be fetched. -/
def served (tools : Descriptors) (frames : List Str) (i : TaskId) (s : ProvState κ) :
    ∀ {β : Type}, ProvOp κ β → Option (β × ProvState κ)
  | _, .fetch_tools => some (resumed i s (.ok tools), s.resume i)
  | _, .set_tools tools => some ((), { s with tools := some tools })
  | _, .expect key => some ((), { s with outbound := key :: s.outbound })
  | _, e => scripted frames i s e

theorem served_answers (tools : Descriptors) (frames : List Str) (i : TaskId) (s s' : ProvState κ)
    {β : Type} (e : ProvOp κ β) (b : β) (answered : served tools frames i s e = some (b, s')) :
    provider_sem i s e b s' := by
  cases e with
  | fetch_tools =>
    cases answered
    exact ⟨resumed_ok tools, rfl⟩
  | set_tools | expect =>
    cases answered
    rfl
  | _ => exact scripted_answers frames i s s' _ b answered

/-- The frame of a call that connects. -/
def connect_text : Str :=
  Str.of ("\x7b\"jsonrpc\":\"2.0\",\"id\":\"a\",\"method\":\"tool.call\",\"params\":\x7b" ++
    "\"name\":\"testpilot_session\",\"arguments\":\x7b\"action\":\"connect\",\"port\":48000," ++
    "\"version\":\"8.3.27.2074\"\x7d\x7d\x7d")

/-- A route to a client that connects and calls off. -/
def connecting_config : ProviderConfig Str :=
  { called_off_config with
    rules := { Route.plain_rules with
      loads := fun text =>
        if text = connect_text then
          .ok (Python.of_members [("jsonrpc", Python.text "2.0"), ("id", Python.text "a"),
            ("method", Python.text "tool.call"), ("params", Route.connect_call)])
        else called_off_config.rules.loads text } }

/-- The request is made, and the call is called off before it is answered. -/
def connecting_schedule : List TaskId :=
  [.main, .main, .main, .main, .loop, .loop, .call 0, .call 0, .call 0, .loop, .loop]

def connecting : Option (List (PoolEvent TaskId (ProvOp Str)) ×
    Pool TaskId (ProvOp Str) (ProvState Str) (Except Raised Unit)) :=
  Pool.play_turns ProvOp.awaits
    (served [(Str.of "testpilot_session", .dict [])] [connect_text, cancel_text]) connecting_schedule
    ⟨.init [] false 0, route_tasks connecting_config 3⟩

theorem connecting_turns {tr : List (PoolEvent TaskId (ProvOp Str))}
    {q : Pool TaskId (ProvOp Str) (ProvState Str) (Except Raised Unit)}
    (played : connecting = some (tr, q)) :
    Pool.Turns ProvOp.awaits provider_sem ⟨.init [] false 0, route_tasks connecting_config 3⟩ tr q :=
  Pool.Turns.play (served_answers _ _) (fun j => by cases j <;> rfl) played

/-- The SDK was told, and the call is in flight. -/
theorem connecting_told : ∃ tr q, connecting = some (tr, q) ∧ q.shared.notified = [0] ∧ InFlight q 0 := by
  have told : connecting.any (fun run => decide (run.2.shared.notified = [0] ∧
      run.2.shared.calls 0 ≠ none ∧ ¬ run.2.Returned (.call 0))) = true := by decide +kernel
  obtain ⟨⟨tr, q⟩, played, holds⟩ := (Option.any_eq_true _ _).mp told
  obtain ⟨told, begun, returned⟩ := of_decide_eq_true holds
  exact ⟨tr, q, played, told, begun, returned⟩

/-- The SDK is told to cancel the request of the call in flight. -/
theorem single_flight_connecting : ∃ tr q n, connecting = some (tr, q) ∧ q.shared.notified = [0] ∧
    InFlight q 0 ∧ (∀ m, InFlight q m → m = 0) ∧ Made n 0 tr := by
  obtain ⟨tr, q, played, told, flies⟩ := connecting_told
  have synchronous : Synchronous connecting_config.rules := fun _ _ => uncancelled_ok true
  obtain ⟨alone, -, -, asked⟩ := single_flight synchronous (connecting_turns played)
  obtain ⟨n, entry, made, -⟩ := asked 0 (by rw [told]; exact List.mem_singleton_self 0)
  exact ⟨tr, q, n, played, told, flies, fun m other => alone m 0 other flies, made⟩

end SessionManager.Provider
