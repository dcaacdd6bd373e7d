import SessionManager.Adapter.Route
import SessionManager.Adapter.Settlement
import SessionManager.Effect.Progress

/-!
# Every call is answered once

In every interleaving of the tasks of a route a call has at most one answer, which goes to its id;
and it has one once the tasks that may carry it have ended, unless its answer was lost on the way to
the socket (`answered_once`).
-/

namespace SessionManager.Provider

open Python (Str Entries)

open Effect

variable {κ : Type} [DecidableEq κ] {cfg : ProviderConfig κ} {s s' : ProvState κ}
  {phases : TaskId → Duty} {i : TaskId} {g : Duty} {n : Nat} {id : Python.Value}
  {past : List (PoolEvent TaskId (ProvOp κ))} {β : Type} {e : ProvOp κ β} {b : β}

/-! ## Runs -/

/-- **One request keeps the books**, whoever makes it and however it is answered. -/
theorem Accounts.step (accounts : Accounts cfg phases s past)
    (allowed : (answers cfg).allows (phases i) e) (answered : provider_answers i s e b s')
    (idle : ∀ j ≠ i, (answers cfg).Idle (α := Except Raised Unit) Settled ProvOp.awaits (phases j)) :
    Accounts cfg (Function.update phases i ((answers cfg).next (phases i) e b)) s'
      (past ++ [⟨i, ⟨e, b⟩⟩]) := by
  by_cases quiets : Provider.quiet e = true
  · exact accounts.quiet quiets answered idle
  cases e with
  | look =>
    obtain ⟨-, rfl⟩ := answered
    exact accounts.look b
  | recv => exact accounts.recv allowed answered
  | create_call n id params =>
    have here : phases i = .admitted n id := allowed
    exact accounts.create_call here answered
  | cancel task =>
    obtain ⟨easy, n, rfl⟩ := allowed
    subst answered
    exact accounts.cancel easy
  | gather tasks =>
    obtain ⟨n, here, rfl⟩ := allowed
    exact accounts.gather here answered
  | claim_terminal n =>
    obtain ⟨entry, here, ⟨sent, rfl, rfl⟩ | ⟨unsent, rfl, rfl⟩⟩ := answered
    · exact accounts.spared ⟨entry, here, sent⟩ allowed
    · exact accounts.claimed here unsent allowed
  | begin_call =>
    obtain ⟨n, here⟩ := allowed
    exact accounts.begin_call here answered idle
  | open_entry n id key =>
    have here : phases i = .given n id := allowed
    have opened : (answers cfg).next (phases i) (.open_entry n id key) b = .opened n id := by
      rw [here]
      rfl
    rw [opened]
    exact accounts.open_entry here answered
  | wait_lock call =>
    cases call with
    | none => exact absurd rfl quiets
    | some n =>
      obtain ⟨id, debtor, here⟩ := allowed
      exact accounts.wait_lock here answered
  | ws_write call frame =>
    cases call with
    | none => exact absurd rfl quiets
    | some n => exact accounts.ws_write allowed answered
  | _ => exact absurd rfl quiets

/-- The books of a new route are empty. -/
theorem accounts_start {connection_id : Str} {own_child : Bool} {next_request : Nat} :
    Accounts cfg Duty.start (.init connection_id own_child next_request) [] where
  fits i := by
    cases i with
    | main => trivial
    | loop => trivial
    | call n => exact ⟨rfl, rfl⟩
    | notify _ => rfl
    | reader => rfl
  interrupts _ here := by cases here
  calls _ begun := absurd rfl begun
  books := by
    refine ⟨fun _ => .unread, fun n i id => ?_, fun _ => rfl, fun _ _ _ here => ?_, fun n id => ?_,
      fun n => ?_, fun _ _ => rfl⟩
    · refine iff_of_false (fun carries => ?_) fun here => ?_
      · cases i with
        | call m =>
          obtain ⟨-, params, begun⟩ := carries
          cases begun
        | main => exact carries
        | loop => exact carries
        | notify _ => exact carries
        | reader => exact carries
      · cases here
    · cases here
    · simp only [Called, List.not_mem_nil, false_and, exists_false, Stage.id, reduceCtorEq]
    · simp only [AnswerLost, List.not_mem_nil, false_and, exists_false, reduceCtorEq]

omit [DecidableEq κ] in
/-- A task that has returned carries no answer. -/
theorem settled_carries {α : Type} {ended : α} (settled : Settled g ended) : ¬ Carries g s n id := by
  cases g with
  | bystander | free | sent | answered | lost => exact fun none => none
  | _ => cases settled

/-- The tasks that carry the answer to a call. -/
theorem Accounts.carrier (accounts : Accounts cfg phases s past) (carries : Carries (phases i) s n id) :
    i = .main ∨ i = .loop ∨ i = .call n := by
  have fits := accounts.fits i
  cases i with
  | main => exact .inl rfl
  | loop => exact .inr (.inl rfl)
  | call m =>
    refine .inr (.inr ?_)
    cases here : phases (.call m) with
    | fresh k | given k _ | opened k _ =>
      rw [here] at fits carries
      rw [← carries.1, ← fits.1]
    | owes k _ debtor =>
      rw [here] at fits carries
      cases debtor with
      | own _ => rw [← carries.1, ← fits.1]
      | _ => exact fits.elim
    | got | admitted =>
      rw [here] at fits
      exact fits.elim
    | _ =>
      rw [here] at carries
      exact carries.elim
  | notify k =>
    rw [show phases (.notify k) = .bystander from fits] at carries
    exact carries.elim
  | reader =>
    rw [show phases .reader = .bystander from fits] at carries
    exact carries.elim

section Runs

variable {connection_id : Str} {own_child : Bool} {next_request rounds : Nat}
  {tr : List (PoolEvent TaskId (ProvOp κ))}
  {q : Pool TaskId (ProvOp κ) (ProvState κ) (Except Raised Unit)}

/-- The books are in order after every run. -/
theorem accounts_of_turns (synchronous : Synchronous cfg.rules)
    (turns : Pool.Turns ProvOp.awaits provider_sem
      ⟨.init connection_id own_child next_request, route_tasks cfg rounds⟩ tr q) :
    Accounts cfg (Pool.phases (answers cfg) Duty.start tr) q.shared tr ∧
      ∀ i, (answers cfg).Follows Settled (Pool.phases (answers cfg) Duty.start tr i) (q.thread i) :=
  turns.invariant (follows_duty synchronous rounds) accounts_start fun _ _ accounts allowed answered =>
    accounts.step allowed answered

/-- **Every call is answered once.**  However the tasks of a route interleave at their awaits, a call
has at most one answer, and an answer goes to the id of its call.  Once the owner, the reading task
and the task of the call have ended, it has one unless its answer was lost, and then it has none. -/
theorem answered_once (synchronous : Synchronous cfg.rules)
    (turns : Pool.Turns ProvOp.awaits provider_sem
      ⟨.init connection_id own_child next_request, route_tasks cfg rounds⟩ tr q) (n : Nat) :
    (answers_to q.shared n).length ≤ 1 ∧
      (∀ frame ∈ answers_to q.shared n, ∃ id, Called cfg n id tr ∧ Response id frame) ∧
      (AnswerLost cfg n tr → answers_to q.shared n = []) ∧
      ∀ id, Called cfg n id tr → (∀ i ∈ [.main, .loop, .call n], q.Returned i) →
        ¬ AnswerLost cfg n tr → ∃ frame, answers_to q.shared n = [frame] ∧ Response id frame := by
  obtain ⟨accounts, follows⟩ := accounts_of_turns synchronous turns
  obtain ⟨stage, books⟩ := accounts.books
  rw [books.written, books.lost]
  refine ⟨?_, fun frame member => ?_, ?_, fun id called returned kept => ?_⟩
  · cases stage n with
    | written => exact le_refl _
    | _ => exact Nat.zero_le _
  · cases here : stage n with
    | written id frame' =>
      rw [here] at member
      obtain rfl := List.mem_singleton.mp member
      exact ⟨id, (books.called n id).mpr (by rw [here]; rfl), books.responds n id frame here⟩
    | _ =>
      rw [here] at member
      cases member
  · rintro ⟨id, here⟩
    rw [here]
    rfl
  · have read := (books.called n id).mp called
    cases here : stage n with
    | unread =>
      rw [here] at read
      cases read
    | lost id' => exact absurd ⟨id', here⟩ kept
    | written id' frame =>
      rw [here] at read
      cases read
      exact ⟨frame, rfl, books.responds n id frame here⟩
    | carried i id' =>
      -- Whoever carries the answer has not returned.
      have carries := (books.carries n i id').mpr here
      obtain ⟨ended, done⟩ := returned i (by
        rcases accounts.carrier carries with rfl | rfl | rfl <;> simp)
      have settled := follows i
      rw [done] at settled
      exact absurd carries (settled_carries settled)

end Runs

/-! ## A call that is called off -/

section Scripted

/-- How an await ends that is due, unless its task was cancelled. -/
def resumed {α : Type} (i : TaskId) (s : ProvState κ) (due : Except Raised α) : Except Raised α :=
  if s.interrupted i then .error .CancelledError else due

omit [DecidableEq κ] in
theorem resumed_ok {α : Type} {own : Raised → Prop} (a : α) :
    Resumed i s own (resumed i s (.ok a)) := by
  unfold resumed
  split
  · rename_i interrupted
    exact (if_pos interrupted).mpr rfl
  · rename_i free
    exact eq_false_of_ne_true free

omit [DecidableEq κ] in
theorem resumed_error {α : Type} {own : Raised → Prop} {due : Raised} (other : due ≠ .CancelledError)
    (fails : own due) : Resumed i s own (resumed i s (.error due : Except Raised α)) := by
  unfold resumed
  split
  · rename_i interrupted
    exact (if_pos interrupted).mpr rfl
  · rename_i free
    exact (if_neg free).mpr (.inr ⟨other, fails⟩)

/-- A loop that hands these frames to the route and then closes its socket.  The descriptors cannot
be fetched, and everything else goes well. -/
def scripted (frames : List Str) (i : TaskId) (s : ProvState κ) :
    ∀ {β : Type}, ProvOp κ β → Option (β × ProvState κ)
  | _, .look => some (s, s)
  | _, .set_flag flag value => some ((), s.set flag value)
  | _, .try_lock =>
    some (s.free,
      if s.free then { s with holder := some i } else { s with waiters := s.waiters ++ [i] })
  | _, .unlock => some ((), { s with holder := none })
  | _, .create_run => some ((), { s with created := Function.update s.created .loop true })
  | _, .create_call n ws_id params =>
    some ((), { s with
      created := Function.update s.created (.call n) true
      calls := Function.update s.calls n (some (ws_id, params))
      tasks := s.tasks ++ [.call n] })
  | _, .cancel task => some ((), s.interrupt task)
  | _, .finish => some ((), { s with finished := Function.update s.finished i true })
  | _, .open_entry n ws_id key =>
    some ((), { s.set_entry n ⟨ws_id, none, false, false, false⟩ with
      pending := ProvState.insert key n s.pending })
  | _, .close_entry n key =>
    some ((), { s with
      pending := s.pending.filter fun entry => entry.1 ≠ key
      capture_queue := s.capture_queue.erase n })
  | _, .claim_terminal n =>
    (s.entries n).map fun entry =>
      if entry.terminal_sent then (none, s)
      else (some entry.ws_id, s.set_entry n { entry with terminal_sent := true })
  | _, .claim_cancel n =>
    (s.entries n).map fun entry =>
      match entry.sdk_request_id, entry.cancel_sent with
      | some request, false => (some request, s.set_entry n { entry with cancel_sent := true })
      | _, _ => (none, s)
  | _, .request_cancel n =>
    (s.entries n).map fun entry => ((), s.set_entry n { entry with cancel_requested := true })
  | _, .queue_capture n => some ((), { s with capture_queue := s.capture_queue ++ [n] })
  | _, .next_request => some (s.next_request, { s with next_request := s.next_request + 1 })
  | _, .capture request =>
    match s.capture_queue with
    | n :: rest =>
      (s.entries n).map fun entry =>
        (if entry.cancel_requested then some n else none,
          { s.set_entry n { entry with sdk_request_id := some request } with capture_queue := rest })
    | [] => some (none, s)
  | _, .clear_pending => some ((), { s with pending := [] })
  | _, .begin => if s.created i then some (resumed i s (.ok ()), s.resume i) else none
  | _, .begin_call =>
    match i with
    | .call n => (s.calls n).map fun given => (resumed i s (.ok given), s.resume i)
    | _ => none
  | _, .discard => some ((), { s with tasks := s.tasks.erase i })
  | _, .gather tasks =>
    if s.settled tasks && !s.interrupted i then some (.ok (), s.resume i) else none
  | _, .gather_within tasks =>
    if s.settled tasks then some (resumed i s (.ok ()), s.resume i) else none
  | _, .ws_write call frame =>
    if s.interrupted i then none
    else some (.ok (), { s.resume i with written := s.written ++ [(call, frame)] })
  | _, .ws_drain => some (resumed i s (.ok ()), s.resume i)
  | _, .recv =>
    if s.interrupted i then none
    else
      match frames[s.received]? with
      | some text => some (.ok (s.received, text), { s.resume i with received := s.received + 1 })
      | none => some (resumed i s (.error .TransportError), s.resume i)
  | _, .ws_close => some (resumed i s (.ok ()), s.resume i)
  | _, .admission_check => some (resumed i s (.ok ()), s.resume i)
  | _, .fetch_tools => some (resumed i s (.error .TransportError), s.resume i)
  | _, .sdk_open => some (resumed i s (.ok ()), s.resume i)
  | _, .sdk_result .. => some (resumed i s (.error .TransportError), s.resume i)
  | _, .relay_cancel request =>
    if s.interrupted i then none
    else some (.ok (), { s.resume i with notified := s.notified ++ [request] })
  | _, .join_loop =>
    if s.finished .loop && !s.interrupted i then some (.ok (), s.resume i) else none
  | _, _ => none

/-- The script is one way to answer. -/
theorem scripted_answers (frames : List Str) (i : TaskId) (s s' : ProvState κ) {β : Type}
    (e : ProvOp κ β) (b : β) (answered : scripted frames i s e = some (b, s')) :
    provider_sem i s e b s' := by
  have due {α : Type} {own : Raised → Prop} (free : s.interrupted i = false) (a : α) :
      Resumed i s own (.ok a) := free
  cases e with
  | look | try_lock | next_request =>
    cases answered
    exact ⟨rfl, rfl⟩
  | set_flag | unlock | create_run | create_call | cancel | finish | open_entry | close_entry
  | queue_capture | clear_pending | discard =>
    cases answered
    rfl
  | claim_terminal n =>
    obtain ⟨entry, here, same⟩ := Option.map_eq_some_iff.mp answered
    split at same
    · cases same
      exact ⟨entry, here, .inl ⟨‹_›, rfl, rfl⟩⟩
    · rename_i unsent
      cases same
      exact ⟨entry, here, .inr ⟨eq_false_of_ne_true unsent, rfl, rfl⟩⟩
  | claim_cancel n =>
    obtain ⟨entry, here, same⟩ := Option.map_eq_some_iff.mp answered
    refine ⟨entry, here, ?_⟩
    split at same
    · rename_i request known unsent
      cases same
      exact .inr ⟨request, known, unsent, rfl, rfl⟩
    · rename_i other
      cases same
      refine .inl ⟨?_, rfl, rfl⟩
      cases known : entry.sdk_request_id with
      | none => exact .inl rfl
      | some request =>
        refine .inr ?_
        by_contra unsent
        exact other request known (eq_false_of_ne_true unsent)
  | request_cancel n =>
    obtain ⟨entry, here, same⟩ := Option.map_eq_some_iff.mp answered
    cases same
    exact ⟨entry, here, rfl⟩
  | capture request =>
    delta provider_sem provider_answers
    delta scripted at answered
    dsimp only at answered ⊢
    cases queued : s.capture_queue with
    | nil =>
      rw [queued] at answered
      cases answered
      exact ⟨rfl, rfl⟩
    | cons n rest =>
      rw [queued] at answered
      obtain ⟨entry, here, same⟩ := Option.map_eq_some_iff.mp answered
      cases same
      exact ⟨entry, here, rfl, rfl⟩
  | begin =>
    obtain ⟨created, same⟩ := Option.ite_none_right_eq_some.mp answered
    cases same
    exact ⟨resumed_ok (), created, rfl⟩
  | begin_call =>
    cases i with
    | call n =>
      obtain ⟨given, here, same⟩ := Option.map_eq_some_iff.mp answered
      cases same
      refine ⟨resumed_ok given, ⟨n, given, rfl, here, fun given' same => ?_⟩, rfl⟩
      unfold resumed at same
      split at same
      · cases same
      · cases same
        rfl
    | _ => cases answered
  | gather tasks =>
    obtain ⟨ready, same⟩ := Option.ite_none_right_eq_some.mp answered
    cases same
    obtain ⟨settled, free⟩ := Bool.and_eq_true_iff.mp ready
    exact ⟨due (by simpa using free) (), settled, rfl⟩
  | gather_within tasks =>
    obtain ⟨settled, same⟩ := Option.ite_none_right_eq_some.mp answered
    cases same
    exact ⟨resumed_ok (), fun _ => settled, rfl⟩
  | ws_write call frame =>
    obtain ⟨free, same⟩ := Option.ite_none_left_eq_some.mp answered
    cases same
    exact ⟨due (eq_false_of_ne_true free) (), rfl⟩
  | recv =>
    obtain ⟨free, read⟩ := Option.ite_none_left_eq_some.mp answered
    split at read
    · cases read
      exact ⟨due (eq_false_of_ne_true free) _, rfl, rfl⟩
    · cases read
      have unread : resumed i s (.error .TransportError : Except Raised (Nat × Str)) =
          .error .TransportError := if_neg free
      rw [unread]
      exact ⟨(if_neg free).mpr (.inr ⟨by simp, trivial⟩), rfl⟩
  | ws_drain | ws_close | admission_check | sdk_open =>
    cases answered
    exact ⟨resumed_ok (), rfl⟩
  | fetch_tools | sdk_result =>
    cases answered
    exact ⟨resumed_error (by simp) trivial, rfl⟩
  | relay_cancel request =>
    obtain ⟨free, same⟩ := Option.ite_none_left_eq_some.mp answered
    cases same
    exact ⟨due (eq_false_of_ne_true free) (), rfl⟩
  | join_loop =>
    obtain ⟨ready, same⟩ := Option.ite_none_right_eq_some.mp answered
    cases same
    obtain ⟨finished, free⟩ := Bool.and_eq_true_iff.mp ready
    exact ⟨due (by simpa using free) (), finished, rfl⟩
  | _ => cases answered

end Scripted

/-- The frame of a call. -/
def call_text : Str :=
  Str.of "\x7b\"jsonrpc\":\"2.0\",\"id\":\"a\",\"method\":\"tool.call\"\x7d"

/-- The frame that calls it off. -/
def cancel_text : Str :=
  Str.of "\x7b\"jsonrpc\":\"2.0\",\"method\":\"tool.cancel\",\"params\":\x7b\"id\":\"a\"\x7d\x7d"

/-- A route to a client that calls and calls off. -/
def called_off_config : ProviderConfig Str where
  hash := Route.plain_hash
  rules := { Route.plain_rules with
    loads := fun text =>
      if text = call_text then
        .ok (Python.of_members [("jsonrpc", Python.text "2.0"), ("id", Python.text "a"),
          ("method", Python.text "tool.call")])
      else if text = cancel_text then
        .ok (Python.of_members [("jsonrpc", Python.text "2.0"), ("method", Python.text "tool.cancel"),
          ("params", Python.of_members [("id", Python.text "a")])])
      else .error .ValueError }
  max_frame_bytes := 1048576
  relay := true
  admission_check := true
  defer_closed := false
  rid := Str.of "reg-1"
  registration _ := .dict []

/-- The call waits for the owner's check when it is called off; then the route ends. -/
def called_off_schedule : List TaskId :=
  [.main, .loop, .loop, .call 0, .loop, .call 0, .loop, .call 0, .loop, .loop, .main, .main, .main,
    .loop, .loop, .main, .main]

def called_off : Option (List (PoolEvent TaskId (ProvOp Str)) ×
    Pool TaskId (ProvOp Str) (ProvState Str) (Except Raised Unit)) :=
  Pool.play_turns ProvOp.awaits (scripted [call_text, cancel_text]) called_off_schedule
    ⟨.init (Str.of "own") false 0, route_tasks called_off_config 3⟩

theorem called_off_turns {tr : List (PoolEvent TaskId (ProvOp Str))}
    {q : Pool TaskId (ProvOp Str) (ProvState Str) (Except Raised Unit)}
    (played : called_off = some (tr, q)) :
    Pool.Turns ProvOp.awaits provider_sem
      ⟨.init (Str.of "own") false 0, route_tasks called_off_config 3⟩ tr q :=
  Pool.Turns.play (scripted_answers _) (fun j => by cases j <;> rfl) played

/-- The owner, the reading task and the call have ended, and there is one answer. -/
theorem called_off_ends : ∃ tr q, called_off = some (tr, q) ∧ (answers_to q.shared 0).length = 1 ∧
    ∀ i ∈ [TaskId.main, .loop, .call 0], q.Returned i := by
  have ends : called_off.any (fun run => decide ((answers_to run.2.shared 0).length = 1 ∧
      ∀ i ∈ [TaskId.main, .loop, .call 0], run.2.Returned i)) = true := by decide +kernel
  obtain ⟨⟨tr, q⟩, played, holds⟩ := (Option.any_eq_true _ _).mp ends
  exact ⟨tr, q, played, of_decide_eq_true holds⟩

/-- The call that is called off has one answer. -/
theorem answered_once_called_off : ∃ tr q id, called_off = some (tr, q) ∧
    Called called_off_config 0 id tr ∧ ∃ frame, answers_to q.shared 0 = [frame] ∧ Response id frame := by
  obtain ⟨tr, q, played, one, returned⟩ := called_off_ends
  have synchronous : Synchronous called_off_config.rules := fun _ _ => uncancelled_ok true
  obtain ⟨-, answers, none, answer⟩ := answered_once synchronous (called_off_turns played) 0
  obtain ⟨frame, only⟩ := List.length_eq_one_iff.mp one
  obtain ⟨id, called, -⟩ := answers frame (by rw [only]; exact List.mem_singleton_self _)
  refine ⟨tr, q, id, played, called, answer id called returned fun lost => ?_⟩
  rw [none lost] at one
  cases one

end SessionManager.Provider
