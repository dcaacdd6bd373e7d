import SessionManager.Adapter.Ledger

/-!
# Keeping the books

Each request that a duty allows keeps the books in order, whoever makes it and whatever the loop, the
socket and the SDK answer.  Most requests move no answer; a call is carried from the reading task to
its own task, and from there to whoever sets `terminal_sent`.
-/

namespace SessionManager.Provider

open Python (Str Entries)

open Effect

variable {κ : Type} [DecidableEq κ] {cfg : ProviderConfig κ} {s s' : ProvState κ}
  {phases : TaskId → Duty} {i : TaskId} {g g' : Duty} {n m : Nat} {id : Python.Value}
  {past : List (PoolEvent TaskId (ProvOp κ))} {β : Type} {e : ProvOp κ β} {b : β}

/-! ## Requests that move no answer -/

/-- Requests that neither read a call nor hand its answer on. -/
def quiet : ∀ {β : Type}, ProvOp κ β → Bool
  | _, .look | _, .recv | _, .create_call .. | _, .cancel _ | _, .gather _ | _, .claim_terminal _
  | _, .begin_call | _, .open_entry .. => false
  | _, .wait_lock call | _, .ws_write call _ => call.isNone
  | _, _ => true

/-- What a quiet request does to the shared state. -/
theorem quiet_still (quiets : quiet e = true) (answered : provider_answers i s e b s') :
    Still s s' ∧ ∀ n, s'.interrupted (.call n) = true → s.interrupted (.call n) = true := by
  have resumed : Still s (s.resume i) ∧
      ∀ n, (s.resume i).interrupted (.call n) = true → s.interrupted (.call n) = true :=
    ⟨still_resume, fun _ => interrupted_of_resume⟩
  cases e with
  | look | recv | create_call | cancel | gather | claim_terminal | begin_call | open_entry => cases quiets
  | set_flag | unlock | create_run | create_notify | finish | queue_capture | clear_pending
  | bind_connection | set_tools | expect | defer_reply | discard | close_entry =>
    subst answered
    exact ⟨still_of_eq rfl rfl (fun _ => rfl) (le_refl _), fun _ => id⟩
  | try_lock =>
    obtain ⟨-, rfl⟩ := answered
    split
    · exact ⟨still_of_eq rfl rfl (fun _ => rfl) (le_refl _), fun _ => id⟩
    · exact ⟨still_of_eq rfl rfl (fun _ => rfl) (le_refl _), fun _ => id⟩
  | next_request =>
    obtain ⟨-, rfl⟩ := answered
    exact ⟨still_of_eq rfl rfl (fun _ => rfl) (le_refl _), fun _ => id⟩
  | resolve key result =>
    subst answered
    split
    · exact ⟨still_of_eq rfl rfl (fun _ => rfl) (le_refl _), fun _ => id⟩
    · exact ⟨still_of_eq rfl rfl (fun _ => rfl) (le_refl _), fun _ => id⟩
  | claim_cancel n =>
    obtain ⟨entry, here, ⟨-, -, rfl⟩ | ⟨request, -, -, -, rfl⟩⟩ := answered
    · exact ⟨still_of_eq rfl rfl (fun _ => rfl) (le_refl _), fun _ => id⟩
    · exact ⟨still_set_entry here rfl rfl, fun _ => id⟩
  | request_cancel n =>
    obtain ⟨entry, here, rfl⟩ := answered
    exact ⟨still_set_entry here rfl rfl, fun _ => id⟩
  | capture request =>
    delta provider_answers at answered
    dsimp only at answered
    cases queued : s.capture_queue with
    | nil =>
      rw [queued] at answered
      obtain ⟨-, rfl⟩ := answered
      exact ⟨still_of_eq rfl rfl (fun _ => rfl) (le_refl _), fun _ => id⟩
    | cons n rest =>
      rw [queued] at answered
      obtain ⟨entry, here, -, rfl⟩ := answered
      have noted : Still s (s.set_entry n { entry with sdk_request_id := some request }) :=
        still_set_entry here rfl rfl
      exact ⟨noted.trans (still_of_eq rfl rfl (fun _ => rfl) (le_refl _)), fun _ => id⟩
  | begin | gather_within | recv_end | route_wait =>
    obtain ⟨-, -, rfl⟩ := answered
    exact resumed
  | ws_drain | ws_close | admission_check | fetch_tools | sdk_open | sdk_result | reap
  | list_changed =>
    obtain ⟨-, rfl⟩ := answered
    exact resumed
  | wait_lock call =>
    obtain ⟨-, taken⟩ := answered
    cases b with
    | ok _ =>
      obtain ⟨-, -, rfl⟩ := taken
      exact ⟨resumed.1.trans (still_of_eq rfl rfl (fun _ => rfl) (le_refl _)), resumed.2⟩
    | error _ =>
      subst taken
      exact ⟨resumed.1.trans (still_of_eq rfl rfl (fun _ => rfl) (le_refl _)), resumed.2⟩
  | ws_write call frame =>
    obtain ⟨-, written⟩ := answered
    obtain rfl : call = none := Option.isNone_iff_eq_none.mp quiets
    cases b with
    | ok _ =>
      subst written
      refine ⟨resumed.1.trans (still_of_eq rfl rfl (fun n => ?_) (le_refl _)), resumed.2⟩
      simp only [answers_to, List.filterMap_append, List.filterMap_cons, reduceCtorEq, if_false,
        List.filterMap_nil, List.append_nil]
      rfl
    | error _ =>
      subst written
      exact resumed
  | registered =>
    obtain ⟨-, known⟩ := answered
    cases b with
    | ok _ =>
      obtain ⟨-, rfl⟩ := known
      exact resumed
    | error _ =>
      subst known
      exact ⟨resumed.1.trans (still_of_eq rfl rfl (fun _ => rfl) (le_refl _)), resumed.2⟩
  | relay_cancel request =>
    obtain ⟨-, told⟩ := answered
    cases b with
    | ok _ =>
      subst told
      exact ⟨resumed.1.trans (still_of_eq rfl rfl (fun _ => rfl) (le_refl _)), resumed.2⟩
    | error _ =>
      subst told
      exact resumed
  | join_loop =>
    obtain ⟨-, joined⟩ := answered
    cases b with
    | ok _ =>
      obtain ⟨-, rfl⟩ := joined
      exact resumed
    | error _ =>
      subst joined
      refine ⟨resumed.1.trans still_interrupt, fun n here => ?_⟩
      rcases interrupted_of_interrupt here with here | same
      · exact resumed.2 n here
      · cases same

/-- A quiet request leaves the duty of its task, or its await was cut. -/
theorem quiet_next (quiets : quiet e = true) (answered : provider_answers i s e b s') :
    (answers cfg).next g e b = g ∨
      (answers cfg).next g e b = g.cut ∧ (s.interrupted i = true ∨ i = .main) := by
  have cut {α : Type} {own : Raised → Prop} {r : Except Raised α} (resumed : Resumed i s own r) :
      g.after r = g ∨ g.after r = g.cut ∧ (s.interrupted i = true ∨ i = .main) := by
    unfold Duty.after
    split
    · exact .inr ⟨rfl, interrupted_of_resumed resumed⟩
    · exact .inl rfl
  cases e with
  | look | recv | create_call | cancel | gather | claim_terminal | begin_call | open_entry => cases quiets
  | admission_check | sdk_open | sdk_result => exact cut answered.1
  | relay_cancel request => exact cut answered.1
  | wait_lock call =>
    obtain rfl : call = none := Option.isNone_iff_eq_none.mp quiets
    exact .inl rfl
  | ws_write call frame =>
    obtain rfl : call = none := Option.isNone_iff_eq_none.mp quiets
    exact .inl rfl
  | _ => exact .inl rfl

omit [DecidableEq κ] in
theorem quiet_reads (quiets : quiet e = true) : ¬ reads_call cfg n id ⟨i, ⟨e, b⟩⟩ := by
  cases e with
  | recv => cases quiets
  | _ => exact fun none => none

theorem quiet_loses (quiets : quiet e = true) : ¬ loses_answer cfg n ⟨i, ⟨e, b⟩⟩ := by
  cases e with
  | begin_call => cases quiets
  | wait_lock call =>
    obtain rfl : call = none := Option.isNone_iff_eq_none.mp quiets
    exact fun none => none
  | ws_write call frame =>
    obtain rfl : call = none := Option.isNone_iff_eq_none.mp quiets
    exact fun none => none
  | _ => exact fun none => none

/-! ## Duties and the state -/

/-- A task that has something to do for a call, and neither owes a frame nor is to begin, does not
wait. -/
theorem not_waiting (idle : ¬ g.Idle) (begun : ∀ n, g ≠ .fresh n)
    (paid : ∀ n id debtor, g ≠ .owes n id debtor) :
    ¬ (answers cfg).Idle (α := Except Raised Unit) Settled ProvOp.awaits g := by
  rintro (⟨_, settled⟩ | ⟨β, e, allowed, waits⟩)
  · exact idle (.inl settled)
  · cases e with
    | recv => exact idle (Duty.Easy.idle allowed)
    | begin => exact idle (.inl allowed)
    | begin_call =>
      obtain ⟨n, same⟩ := allowed
      exact begun n same
    | gather tasks =>
      obtain ⟨n, rfl, -⟩ := allowed
      exact idle (.inl rfl)
    | wait_lock call =>
      cases call with
      | none => exact idle allowed
      | some m =>
        obtain ⟨id, debtor, same⟩ := allowed
        exact paid m id debtor same
    | ws_write call frame =>
      cases call with
      | none => exact idle allowed
      | some m =>
        obtain ⟨id, debtor, same, -⟩ := allowed
        exact paid m id debtor same
    | discard | gather_within | ws_drain | recv_end | ws_close | admission_check | fetch_tools
    | registered | sdk_open | sdk_result | relay_cancel | reap | route_wait | join_loop
    | list_changed => exact idle allowed
    | _ => cases waits

/-- A task that is about to answer the call whose task it has cancelled does not wait. -/
theorem cancelling_busy : ¬ (answers cfg).Idle (α := Except Raised Unit) Settled ProvOp.awaits
    (.cancelling n) :=
  not_waiting (by simp [Duty.Idle, Duty.steady]) (by simp) (by simp)

/-- While the others wait, a task of a call that is cancelled has its flag set. -/
theorem Accounts.flagged (accounts : Accounts cfg phases s past)
    (idle : ∀ j ≠ i, (answers cfg).Idle (α := Except Raised Unit) Settled ProvOp.awaits (phases j))
    (own : phases i ≠ .cancelling n) (here : s.interrupted (.call n) = true) : Flagged s n := by
  rcases accounts.interrupts n here with flagged | ⟨j, cancelling⟩
  · exact flagged
  · by_cases same : j = i
    · subst same
      exact absurd cancelling own
    · have waits := idle j same
      rw [cancelling] at waits
      exact absurd waits cancelling_busy

/-- Whoever is to answer a call with an entry is its task. -/
theorem Accounts.opened_by (accounts : Accounts cfg phases s past) (here : phases i = .opened n id) :
    i = .call n ∧ ∃ entry, s.entries n = some entry ∧ entry.ws_id = id := by
  have fits := accounts.fits i
  rw [here] at fits
  cases i with
  | call m =>
    obtain ⟨rfl, -, entry⟩ := fits
    exact ⟨rfl, entry⟩
  | main => exact fits.elim
  | loop => exact fits.elim
  | notify _ => cases fits
  | reader => cases fits

/-- A quiet request keeps the books. -/
theorem Accounts.quiet (accounts : Accounts cfg phases s past) (quiets : Provider.quiet e = true)
    (answered : provider_answers i s e b s')
    (idle : ∀ j ≠ i, (answers cfg).Idle (α := Except Raised Unit) Settled ProvOp.awaits (phases j)) :
    Accounts cfg (Function.update phases i ((answers cfg).next (phases i) e b)) s'
      (past ++ [⟨i, ⟨e, b⟩⟩]) := by
  obtain ⟨still, kept⟩ := quiet_still quiets answered
  have stays {g' : Duty} (same : g' = phases i) :
      Accounts cfg (Function.update phases i g') s' (past ++ [⟨i, ⟨e, b⟩⟩]) :=
    accounts.stays still (fun n here => .inl (kept n here)) (fun _ _ => quiet_reads quiets)
      (fun _ => quiet_loses quiets) same
  have next : (answers cfg).next (phases i) e b = phases i ∨ _ := quiet_next quiets answered
  rcases next with same | ⟨cut, interrupted⟩
  · exact stays same
  · rw [cut]
    cases here : phases i with
    | opened m own =>
      obtain ⟨rfl, entry, entered, given⟩ := accounts.opened_by here
      have here' : s.interrupted (.call m) = true := interrupted.resolve_right (by simp)
      have flagged : Flagged s m := accounts.flagged idle (by simp [here]) here'
      have fits := accounts.fits (.call m)
      rw [here] at fits
      refine accounts.still still ⟨rfl, still.grows.calls ▸ fits.2.1, still.grows.flagged m flagged⟩
        (fun n id => ?_) (fun n at_n => .inl (kept n at_n)) (fun n at_n => ?_)
        (fun _ _ => quiet_reads quiets) fun _ => quiet_loses quiets
      · rw [here]
        refine ⟨False.elim, ?_⟩
        rintro ⟨rfl, -, unflagged⟩
        exact unflagged flagged
      · rw [here] at at_n
        cases at_n
    | _ => exact stays here.symm

/-! ## Looking and cancelling -/

/-- A task that looks at the state and has read a call decides what becomes of it. -/
theorem Accounts.look (accounts : Accounts cfg phases s past) (b : ProvState κ) :
    Accounts cfg (Function.update phases i ((answers cfg).next (phases i) .look b)) s
      (past ++ [⟨i, ⟨.look, b⟩⟩]) := by
  have still : Still s s := still_of_eq rfl rfl (fun _ => rfl) (le_refl _)
  have decides {m : Nat} {id : Python.Value} (here : phases i = .got m id) {g' : Duty}
      (fits : FitsOther s (.got m id) → FitsOther s g')
      (carries : ∀ n id', Carries g' s n id' ↔ Carries (.got m id) s n id') :
      Accounts cfg (Function.update phases i g') s (past ++ [⟨i, ⟨.look, b⟩⟩]) := by
    refine accounts.still still ?_ (by rwa [here]) (fun _ => .inl) (fun n at_n => ?_)
      (fun _ _ none => none) fun _ none => none
    · have before := accounts.fits i
      rw [here] at before
      obtain ⟨reading, before⟩ := fits_reading before (fun _ own => own) (by simp)
      exact fits_of_reading reading (fits before)
    · rw [here] at at_n
      cases at_n
  cases here : phases i with
  | got m id =>
    change Accounts cfg (Function.update phases i
      (if b.busy then .owes m id .refuser else .admitted m id)) s _
    split
    · exact decides here (fun _ => trivial) fun _ _ => Iff.rfl
    · exact decides here (fun fits => fits) fun _ _ => Iff.rfl
  | _ =>
    exact accounts.stays still (fun _ => .inl) (fun _ _ none => none) (fun _ none => none) here.symm

omit [DecidableEq κ] in
/-- A task takes up what there is to do when it owes nothing. -/
theorem Duty.Easy.carries (easy : g.Easy) : ¬ Carries g s n id := by
  rcases easy with rfl | ⟨_, rfl⟩
  · exact fun none => none
  · exact fun none => none

theorem Duty.Easy.not_cancelling (easy : g.Easy) : g ≠ .cancelling n := by
  rintro rfl
  rcases easy with same | ⟨_, same⟩
  · cases same
  · cases same

/-- The owner or the reading task, when it owes nothing. -/
theorem Accounts.easy (accounts : Accounts cfg phases s past) (easy : (phases i).Easy) :
    (i = .main ∨ i = .loop) ∧ FitsOther s (phases i) := by
  refine fits_reading (accounts.fits i) (fun n own => ?_) fun same => ?_
  · rcases easy with same | ⟨_, same⟩
    · rw [same] at own
      exact own.elim
    · rw [same] at own
      exact own.elim
  · rw [same] at easy
    rcases easy with same | ⟨_, same⟩
    · cases same
    · cases same

/-- The task of a call is cancelled, and the call is to be answered next. -/
theorem Accounts.cancel (accounts : Accounts cfg phases s past) (easy : (phases i).Easy) :
    Accounts cfg (Function.update phases i (.cancelling m)) (s.interrupt (.call m))
      (past ++ [⟨i, ⟨.cancel (.call m), ()⟩⟩]) := by
  refine accounts.still still_interrupt (fits_of_reading (accounts.easy easy).1 trivial)
    (fun n id => iff_of_false (fun none => none) easy.carries) (fun n here => ?_) (fun n here => ?_)
    (fun _ _ none => none) fun _ none => none
  · rcases interrupted_of_interrupt here with before | same
    · exact .inl before
    · obtain rfl : n = m := by simpa using same
      exact .inr (.inr rfl)
  · exact absurd here easy.not_cancelling

/-- The tasks that a cancelled `gather` takes with it have been answered. -/
theorem Accounts.gather (accounts : Accounts cfg phases s past) (here : phases i = .sent m)
    {b : Except Raised Unit} (answered : provider_answers i s (.gather [.call m]) b s') :
    Accounts cfg (Function.update phases i ((answers cfg).next (phases i) (.gather [.call m]) b)) s'
      (past ++ [⟨i, ⟨.gather [.call m], b⟩⟩]) := by
  obtain ⟨-, ended⟩ := answered
  have same : (answers cfg).next (phases i) (.gather [.call m]) b = phases i := rfl
  cases b with
  | ok _ =>
    obtain ⟨-, rfl⟩ := ended
    exact accounts.stays still_resume (fun _ here => .inl (interrupted_of_resume here))
      (fun _ _ none => none) (fun _ none => none) same
  | error _ =>
    subst ended
    refine accounts.stays (still_resume.trans still_interrupt) (fun n at_n => ?_)
      (fun _ _ none => none) (fun _ none => none) same
    rcases interrupted_of_interrupt at_n with before | same
    · exact .inl (interrupted_of_resume before)
    · obtain rfl : n = m := by simpa using same
      have sent : FitsOther s (.sent n) := by
        rw [← here]
        exact (accounts.easy (.inr ⟨n, here⟩)).2
      have still : Still s ((s.resume i).interrupt (.call n)) := still_resume.trans still_interrupt
      exact .inr (still.grows.flagged n sent)

/-! ## Reading a call -/

/-- Who carries the answer to a call after a step that does not begin a call or set a flag
elsewhere. -/
theorem Books.carries_moved {stage : Nat → Stage} {st : Stage} (books : Books cfg stage phases s past)
    (calls : s'.calls m = s.calls m) (flagged : Flagged s m → Flagged s' m)
    (before : ∀ j id, stage m = .carried j id → j = i)
    (after : ∀ j id, st = .carried j id → j = i)
    (own : ∀ id, Carries g' s' m id ↔ st = .carried i id) (j : TaskId) (id : Python.Value) :
    Carries (Function.update phases i g' j) s' m id ↔ st = .carried j id := by
  by_cases same : j = i
  · subst same
    rw [Function.update_self]
    exact own id
  · rw [Function.update_of_ne same]
    refine iff_of_false (fun carries => ?_) fun here => same (after j id here)
    exact same (before j id ((books.carries m j id).mp (carries.back calls flagged)))

/-- A frame is read; a call has to be answered from now on. -/
theorem Accounts.recv (accounts : Accounts cfg phases s past) (easy : (phases i).Easy)
    {b : Except Raised (Nat × Str)} (answered : provider_answers i s .recv b s') :
    Accounts cfg (Function.update phases i ((answers cfg).next (phases i) .recv b)) s'
      (past ++ [⟨i, ⟨.recv, b⟩⟩]) := by
  obtain ⟨-, read⟩ := answered
  cases b with
  | error _ =>
    subst read
    exact accounts.stays still_resume (fun _ here => .inl (interrupted_of_resume here))
      (fun _ _ none => none) (fun _ none => none) rfl
  | ok frame =>
    obtain ⟨n, text⟩ := frame
    obtain ⟨rfl, rfl⟩ := read
    have still : Still s { s.resume i with received := s.received + 1 } :=
      still_of_eq rfl rfl (fun _ => rfl) (Nat.le_succ _)
    have kept (n : Nat) (here : (s.resume i).interrupted (.call n) = true) :
        s.interrupted (.call n) = true := interrupted_of_resume here
    have next : (answers cfg).next (phases i) .recv (.ok (s.received, text)) =
        (phases i).read s.received (call_of cfg text) := rfl
    rw [next]
    cases call : call_of cfg text with
    | none =>
      refine accounts.stays still (fun n here => .inl (kept n here)) ?_ (fun _ none => none) rfl
      rintro n id ⟨-, here⟩
      rw [call] at here
      cases here
    | some id =>
      change Accounts cfg (Function.update phases i (.got s.received id)) _ _
      obtain ⟨stage, books⟩ := accounts.books
      have unread : stage s.received = .unread := books.unread _ (le_refl _)
      have away (n : Nat) (other : n ≠ s.received) (id' : Python.Value) :
          ¬ reads_call cfg n id' (⟨i, ⟨.recv, .ok (s.received, text)⟩⟩ : PoolEvent TaskId (ProvOp κ)) :=
        fun here => other here.1.symm
      refine ⟨fits_update (fun j _ => still.fits (accounts.fits j)) ?_,
        accounts.interrupts.update still.grows.flagged (fun n here => .inl (kept n here)) ?_,
        fun n begun => (accounts.calls n begun).trans (Nat.lt_succ_self _),
        _, books.move (m := s.received) (.carried i id) (fun n _ => still.same n)
          (Nat.le_succ _) ?_ ?_ ?_ ?_ ?_ ?_ away (fun _ _ none => none) ?_⟩
      · refine fits_of_reading (accounts.easy easy).1 ?_
        by_contra begun
        exact absurd (accounts.calls _ begun) (lt_irrefl _)
      · exact fun n here => absurd here easy.not_cancelling
      · exact fun n other id' => iff_of_false (fun here => other here.1.symm) easy.carries
      · refine books.carries_moved rfl (still.grows.flagged _) (fun j id' here => ?_)
          (fun j id' here => ?_) fun id' => ?_
        · rw [unread] at here
          cases here
        · cases here
          rfl
        · simp only [Carries, true_and, Stage.carried.injEq]
      · rw [(still.same _).written, books.written, unread]
        rfl
      · intro _ _ here
        cases here
      · intro id'
        rw [unread]
        simp only [Stage.id, reduceCtorEq, false_or, reads_call, true_and, call]
      · rw [unread]
        simp only [reduceCtorEq, exists_false, loses_answer, or_false]
      · exact fun beyond => absurd beyond (Nat.not_succ_le_self _)

/-! ## Handing a call on -/

/-- The answer to a call passes from one task to another. -/
theorem Books.pass {stage : Nat → Stage} {ev : PoolEvent TaskId (ProvOp κ)} {giver : TaskId}
    (taker : TaskId) (books : Books cfg stage phases s past) (carried : stage m = .carried giver id)
    (away : ∀ n ≠ m, Same s s' n) (received : s'.received = s.received)
    (own_away : ∀ n ≠ m, ∀ id, Carries g' s n id ↔ Carries (phases i) s n id)
    (carries : ∀ j id', Carries (Function.update phases i g' j) s' m id' ↔
      Stage.carried taker id = .carried j id')
    (written : answers_to s' m = answers_to s m) (reads : ∀ n id, ¬ reads_call cfg n id ev)
    (loses : ∀ n, ¬ loses_answer cfg n ev) :
    ∃ stage, Books cfg stage (Function.update phases i g') s' (past ++ [ev]) := by
  have read := books.read (show stage m ≠ .unread by simp [carried])
  refine ⟨_, books.move (.carried taker id) away received.ge own_away carries ?_ (fun _ _ same => ?_) (fun id' => ?_) ?_
    (fun n _ => reads n) (fun n _ => loses n) fun beyond => ?_⟩
  · rw [written, books.written, carried]
    rfl
  · cases same
  · rw [carried]
    exact or_iff_left (reads m id')
  · rw [carried]
    simp only [reduceCtorEq, exists_false, false_or, iff_false]
    exact loses m
  · rw [received] at beyond
    exact absurd read (Nat.not_lt.mpr beyond)

/-- A call gets its task, which carries it from now on. -/
theorem Accounts.create_call (accounts : Accounts cfg phases s past) {params : Python.Value} {b : Unit}
    (here : phases i = .admitted m id) (answered : provider_answers i s (.create_call m id params) b s') :
    Accounts cfg (Function.update phases i .free) s'
      (past ++ [⟨i, ⟨.create_call m id params, b⟩⟩]) := by
  subst answered
  obtain ⟨stage, books⟩ := accounts.books
  have carried : stage m = .carried i id := by
    rw [← books.carries, here]
    exact ⟨rfl, rfl⟩
  have fits := accounts.fits i
  rw [here] at fits
  obtain ⟨reading, unbegun⟩ := fits_reading fits (fun _ own => own) (by simp)
  have other : i ≠ .call m := by
    rintro rfl
    simp at reading
  obtain ⟨task, no_entry⟩ := fresh_of_unbegun (accounts.fits (.call m)) unbegun
  have begun (n : Nat) (before : s.calls n ≠ none) :
      Function.update s.calls m (some (id, params)) n ≠ none := by
    by_cases same : n = m
    · subst same
      exact absurd unbegun before
    · rwa [Function.update_of_ne same]
  refine ⟨fits_update (fun j another => ?_) (fits_of_reading reading trivial),
    accounts.interrupts.update (fun _ flag => flag) (fun _ => .inl) ?_, fun n before => ?_,
    books.pass (.call m) carried (fun n away => ?_) rfl ?_ ?_ rfl (fun _ _ none => none)
      fun _ none => none⟩
  · refine fits_frame (accounts.fits j) begun (fun _ flag => flag) (fun _ _ => rfl)
      fun n id' waiting => Function.update_of_ne ?_ _ _
    rintro rfl
    have carries : Carries (phases j) s n id' := by
      rcases waiting with same | same
      · rw [same]
        exact ⟨rfl, rfl⟩
      · rw [same]
        exact ⟨rfl, rfl⟩
    rw [books.carries, carried] at carries
    cases carries
    exact another rfl
  · intro n cancelling
    rw [here] at cancelling
    cases cancelling
  · by_cases same : n = m
    · subst same
      exact books.read (by simp [carried])
    · refine accounts.calls n ?_
      rwa [← Function.update_of_ne same (some (id, params)) s.calls]
  · exact ⟨Function.update_of_ne away _ _, Iff.rfl, rfl⟩
  · intro n away id'
    rw [here]
    exact iff_of_false (fun none => none) fun same => away same.1.symm
  · intro j id'
    by_cases own : j = .call m
    · subst own
      rw [Function.update_of_ne other.symm, task]
      simp only [Carries, Function.update_self, Option.some.injEq, Prod.mk.injEq, exists_and_left,
        exists_eq', and_true, true_and, Stage.carried.injEq]
    · refine iff_of_false (fun carries => ?_) fun same => ?_
      · by_cases same : j = i
        · subst same
          rw [Function.update_self] at carries
          exact carries
        · rw [Function.update_of_ne same] at carries
          have carried_on : phases j = .fresh m ∨ Carries (phases j) s m id' :=
            carries.begun fun flag => flag
          rcases carried_on with fresh | before
          · have fits := accounts.fits j
            rw [fresh] at fits
            exact own (own_of_fresh fits)
          · rw [books.carries, carried] at before
            cases before
            exact same rfl
      · cases same
        exact own rfl

/-- The entry of a call is opened by its task. -/
theorem Accounts.open_entry (accounts : Accounts cfg phases s past) {key : κ} {b : Unit}
    (here : phases i = .given m id) (answered : provider_answers i s (.open_entry m id key) b s') :
    Accounts cfg (Function.update phases i (.opened m id)) s'
      (past ++ [⟨i, ⟨.open_entry m id key, b⟩⟩]) := by
  subst answered
  obtain ⟨stage, books⟩ := accounts.books
  have fits := accounts.fits i
  rw [here] at fits
  have own : i = .call m ∧ s.calls m ≠ none ∧ s.entries m = none := by
    cases i with
    | call n =>
      obtain ⟨rfl, begun, none⟩ := fits
      exact ⟨rfl, begun, none⟩
    | main => exact fits.elim
    | loop => exact fits.elim
    | notify _ => cases fits
    | reader => cases fits
  obtain ⟨rfl, begun, no_entry⟩ := own
  have carried : stage m = .carried (.call m) id := by
    rw [← books.carries, here]
    exact ⟨rfl, rfl⟩
  have unflagged : ¬ Flagged s m := by
    rintro ⟨entry, same, -⟩
    rw [no_entry] at same
    cases same
  have away (n : Nat) (other : n ≠ m) :
      (s.set_entry m ⟨id, none, false, false, false⟩).entries n = s.entries n :=
    Function.update_of_ne other _ _
  have flagged (n : Nat) : Flagged (s.set_entry m ⟨id, none, false, false, false⟩) n ↔ Flagged s n := by
    by_cases same : n = m
    · subst same
      refine iff_of_false ?_ unflagged
      rintro ⟨entry, opened, sent⟩
      rw [ProvState.entries_set_entry, Function.update_self] at opened
      cases opened
      cases sent
    · unfold Flagged
      rw [away n same]
  refine ⟨fits_update (fun j other => ?_) ⟨rfl, begun, _, Function.update_self .., rfl⟩,
    accounts.interrupts.update (fun n => (flagged n).mpr) (fun _ => .inl) ?_, accounts.calls,
    books.pass (.call m) carried (fun n other => ⟨rfl, flagged n, rfl⟩) rfl ?_ ?_ rfl
      (fun _ _ none => none) fun _ none => none⟩
  · refine fits_frame (accounts.fits j) (fun _ begun => begun) (fun n => (flagged n).mpr) ?_
      fun _ _ _ => rfl
    rintro n rfl
    exact congrArg _ (away n fun same => other (same ▸ rfl))
  · intro n cancelling
    rw [here] at cancelling
    cases cancelling
  · intro n other id'
    rw [here]
    exact iff_of_false (fun same => other same.1.symm) fun same => other same.1.symm
  · refine books.carries_moved rfl (flagged m).mpr (fun j id' same => ?_) (fun j id' same => ?_)
      fun id' => ?_
    · rw [carried] at same
      cases same
      rfl
    · cases same
      rfl
    · have unset := mt (flagged m).mp unflagged
      simp only [Carries, true_and, Stage.carried.injEq]
      exact and_iff_left unset

/-- The flag of a call was set before, so nobody here answers it. -/
theorem Accounts.spared (accounts : Accounts cfg phases s past) (flagged : Flagged s m)
    (claims : (answers cfg).allows (phases i) (.claim_terminal m)) :
    Accounts cfg (Function.update phases i (phases i).spared) s
      (past ++ [⟨i, ⟨.claim_terminal m, none⟩⟩]) := by
  have still : Still s s := still_of_eq rfl rfl (fun _ => rfl) (le_refl _)
  have fits := accounts.fits i
  rcases claims with here | ⟨own, here⟩ | here
  · rw [here] at fits
    obtain ⟨reading, -⟩ := fits_reading fits (fun _ own => own) (by simp)
    rw [here]
    refine accounts.still still (fits_of_reading reading flagged) (fun _ _ => by rw [here]; exact Iff.rfl)
      (fun _ => .inl) (fun n cancelling => ?_) (fun _ _ none => none) fun _ none => none
    rw [here] at cancelling
    cases cancelling
    exact .inl flagged
  · obtain ⟨rfl, -⟩ := accounts.opened_by here
    rw [here] at fits
    rw [here]
    refine accounts.still still ⟨rfl, fits.2.1, flagged⟩ (fun n id' => ?_) (fun _ => .inl)
      (fun n cancelling => ?_) (fun _ _ none => none) fun _ none => none
    · rw [here]
      refine ⟨False.elim, ?_⟩
      rintro ⟨rfl, -, unflagged⟩
      exact unflagged flagged
    · rw [here] at cancelling
      cases cancelling
  · exact accounts.stays still (fun _ => .inl) (fun _ _ none => none) (fun _ none => none)
      (by rw [here]; rfl)

/-- Whoever sets the flag of a call carries it from now on. -/
theorem Accounts.claimed (accounts : Accounts cfg phases s past) {entry : PendingCall}
    (entered : s.entries m = some entry) (unsent : entry.terminal_sent = false)
    (claims : (answers cfg).allows (phases i) (.claim_terminal m)) :
    Accounts cfg (Function.update phases i ((phases i).claimed m entry.ws_id))
      (s.set_entry m { entry with terminal_sent := true })
      (past ++ [⟨i, ⟨.claim_terminal m, some entry.ws_id⟩⟩]) := by
  obtain ⟨stage, books⟩ := accounts.books
  have unflagged : ¬ Flagged s m := by
    rintro ⟨entry', same, sent⟩
    cases entered.symm.trans same
    rw [unsent] at sent
    cases sent
  have sets : Flagged (s.set_entry m { entry with terminal_sent := true }) m :=
    ⟨_, Function.update_self .., rfl⟩
  have away (n : Nat) (other : n ≠ m) : Same s (s.set_entry m { entry with terminal_sent := true }) n := by
    refine ⟨rfl, ?_, rfl⟩
    unfold Flagged
    rw [ProvState.entries_set_entry, Function.update_of_ne other]
  have grows : Grows s (s.set_entry m { entry with terminal_sent := true }) := by
    refine ⟨rfl, fun n => ?_, fun n flagged => ?_⟩
    · by_cases same : n = m
      · subst same
        rw [ProvState.entries_set_entry, Function.update_self, entered]
        rfl
      · rw [ProvState.entries_set_entry, Function.update_of_ne same]
    · by_cases same : n = m
      · subst same
        exact sets
      · exact (away n same).flagged.mpr flagged
  -- Until now the task of the call was to answer it.
  have task : phases (.call m) = .opened m entry.ws_id :=
    opened_of_unflagged (accounts.fits (.call m)) entered unflagged
  have carried : stage m = .carried (.call m) entry.ws_id := by
    rw [← books.carries, task]
    exact ⟨rfl, rfl, unflagged⟩
  have hands_on {debtor : Debtor}
      (fits : Fits (s.set_entry m { entry with terminal_sent := true }) i (.owes m entry.ws_id debtor))
      (before : ∀ n ≠ m, ∀ id', ¬ Carries (phases i) s n id')
      (cancelled : ∀ n, phases i = .cancelling n → n = m) :
      Accounts cfg (Function.update phases i (.owes m entry.ws_id debtor))
        (s.set_entry m { entry with terminal_sent := true })
        (past ++ [⟨i, ⟨.claim_terminal m, some entry.ws_id⟩⟩]) := by
    refine ⟨fits_update (fun j _ => grows.fits (accounts.fits j)) fits,
      accounts.interrupts.update grows.flagged (fun _ => .inl) (fun n here => ?_), accounts.calls,
      books.pass i carried away rfl ?_ (fun j id' => ?_) rfl (fun _ _ none => none)
        fun _ none => none⟩
    · obtain rfl := cancelled n here
      exact .inl sets
    · exact fun n other id' => iff_of_false (fun here => other here.1.symm) (before n other id')
    · by_cases same : j = i
      · subst same
        rw [Function.update_self]
        simp only [Carries, true_and, Stage.carried.injEq]
      · rw [Function.update_of_ne same]
        refine iff_of_false (fun carries => ?_) fun here => ?_
        · have before := (books.carries m j id').mp (grows.carries carries)
          rw [carried] at before
          cases before
          rw [task] at carries
          exact carries.2.2 sets
        · cases here
          exact same rfl
  have fits := accounts.fits i
  rcases claims with here | ⟨own, here⟩ | here
  · rw [here] at fits
    obtain ⟨reading, -⟩ := fits_reading fits (fun _ own => own) (by simp)
    have owes : (phases i).claimed m entry.ws_id = .owes m entry.ws_id .canceller := by rw [here]; rfl
    rw [owes]
    refine hands_on (fits_of_reading reading sets) (fun n _ id' => ?_) fun n same => ?_
    · rw [here]
      exact fun none => none
    · rw [here] at same
      cases same
      rfl
  · obtain ⟨rfl, -⟩ := accounts.opened_by here
    obtain rfl : own = entry.ws_id := by
      rw [task] at here
      cases here
      rfl
    rw [here] at fits
    have owes : (phases (.call m)).claimed m entry.ws_id =
        .owes m entry.ws_id (.own entry.ws_id) := by rw [here]; rfl
    rw [owes]
    refine hands_on ⟨rfl, fits.2.1, sets, rfl⟩ (fun n other id' => ?_) fun n same => ?_
    · rw [here]
      exact fun own => other own.1.symm
    · rw [here] at same
      cases same
  · have own : FitsCall s m (.answered m) := by
      rw [here] at fits
      cases i with
      | call n =>
        obtain ⟨rfl, rest⟩ := fits
        exact ⟨rfl, rest⟩
      | main => exact fits.elim
      | loop => exact fits.elim
      | notify _ => cases fits
      | reader => cases fits
    exact absurd own.2.2 unflagged

/-! ## Answers that are written or lost -/

/-- The task that carries a call has done so: its answer is written, or lost. -/
theorem Accounts.settle (accounts : Accounts cfg phases s past) {ev : PoolEvent TaskId (ProvOp κ)}
    (st : Stage) (carries : Carries (phases i) s m id) (only : ∀ n id', Carries (phases i) s n id' → n = m)
    (grows : Grows s s') (away : ∀ n ≠ m, Same s s' n) (received : s'.received = s.received)
    (kept : ∀ n, s'.interrupted (.call n) = true → s.interrupted (.call n) = true)
    (calm : ∀ n, phases i ≠ .cancelling n) (fits : Fits s' i g')
    (done : ∀ (s : ProvState κ) (n : Nat) (id : Python.Value), ¬ Carries g' s n id)
    (settled : st = .lost id ∨ ∃ frame, st = .written id frame ∧ Response id frame)
    (written : answers_to s' m = answers_to s m ++ st.frames)
    (lost : loses_answer cfg m ev ↔ st = .lost id) (reads : ∀ n id, ¬ reads_call cfg n id ev)
    (loses_away : ∀ n ≠ m, ¬ loses_answer cfg n ev) :
    Accounts cfg (Function.update phases i g') s' (past ++ [ev]) := by
  obtain ⟨stage, books⟩ := accounts.books
  have carried := (books.carries m i id).mp carries
  have read := books.read (show stage m ≠ .unread by simp [carried])
  have own : st.id = some id ∧ ∀ j id', st ≠ .carried j id' := by
    rcases settled with rfl | ⟨frame, rfl, -⟩
    · exact ⟨rfl, fun _ _ => by simp⟩
    · exact ⟨rfl, fun _ _ => by simp⟩
  refine ⟨fits_update (fun j _ => grows.fits (accounts.fits j)) fits,
    accounts.interrupts.update grows.flagged (fun n here => .inl (kept n here))
      (fun n here => absurd here (calm n)),
    fun n begun => received ▸ accounts.calls n (grows.calls ▸ begun),
    _, books.move st away received.ge (fun n other id' => ?_) (books.carries_moved
      (by rw [grows.calls]) (grows.flagged m) (fun j id' here => ?_)
      (fun j id' here => absurd here (own.2 j id')) fun id' => ?_) ?_ (fun id' frame here => ?_)
      (fun id' => ?_) ?_ (fun n _ => reads n) loses_away fun beyond => ?_⟩
  · exact iff_of_false (done s n id') fun here => other (only n id' here)
  · rw [carried] at here
    cases here
    rfl
  · exact iff_of_false (done s' m id') (own.2 i id')
  · rw [written, books.written, carried]
    rfl
  · rcases settled with rfl | ⟨frame', rfl, responds⟩
    · cases here
    · cases here
      exact responds
  · rw [carried, own.1]
    exact or_iff_left (reads m id')
  · rw [carried, lost]
    simp only [reduceCtorEq, exists_false, false_or]
    refine ⟨fun same => ⟨id, same⟩, ?_⟩
    rintro ⟨id', same⟩
    rw [same] at own
    cases own.1
    exact same
  · rw [received] at beyond
    exact absurd read (Nat.not_lt.mpr beyond)

/-- The task of a call begins: it has what its answer needs, or raises. -/
theorem Accounts.begin_call (accounts : Accounts cfg phases s past)
    {b : Except Raised (Python.Value × Python.Value)} (here : phases i = .fresh m)
    (answered : provider_answers i s .begin_call b s')
    (idle : ∀ j ≠ i, (answers cfg).Idle (α := Except Raised Unit) Settled ProvOp.awaits (phases j)) :
    Accounts cfg (Function.update phases i ((answers cfg).next (phases i) .begin_call b)) s'
      (past ++ [⟨i, ⟨.begin_call, b⟩⟩]) := by
  obtain ⟨resumed, ⟨n, given, rfl, begun, same⟩, rfl⟩ := answered
  have fits := accounts.fits (.call n)
  rw [here] at fits
  obtain ⟨rfl, no_entry⟩ := fits
  cases b with
  | error e =>
    have interrupted : s.interrupted (.call m) = true := by
      change (if s.interrupted (.call m) = true then _ else _) at resumed
      split at resumed
      · assumption
      · rcases resumed with ⟨owner, -⟩ | ⟨-, none⟩
        · cases owner
        · exact none.elim
    obtain ⟨entry, entered, -⟩ := accounts.flagged idle (by simp [here]) interrupted
    cases no_entry.symm.trans entered
  | ok call =>
    obtain rfl := same call rfl
    obtain ⟨id, params⟩ := call
    have carries (n : Nat) (id' : Python.Value) :
        Carries (phases (.call m)) s n id' ↔ m = n ∧ id = id' := by
      rw [here]
      refine and_congr_right fun same => ?_
      subst same
      simp only [begun, Option.some.injEq, Prod.mk.injEq, exists_and_left, exists_eq', and_true]
    have next : (answers cfg).next (phases (.call m)) .begin_call (.ok (id, params)) =
        if acceptable cfg id params then .given m id else .lost m := by rw [here]; rfl
    have calm (n : Nat) : phases (.call m) ≠ .cancelling n := by simp [here]
    have kept (n : Nat) (at_n : (s.resume (.call m)).interrupted (.call n) = true) :
        s.interrupted (.call n) = true := interrupted_of_resume at_n
    have started : s.calls m ≠ none := by simp [begun]
    rw [next]
    split
    · rename_i accepted
      refine accounts.still still_resume ⟨rfl, started, no_entry⟩ (fun n id' => ?_)
        (fun n at_n => .inl (kept n at_n)) (fun n same => absurd same (calm n))
        (fun _ _ none => none) fun n loses => ?_
      · rw [carries]
        exact Iff.rfl
      · rw [loses.2] at accepted
        cases accepted
    · rename_i refused
      refine accounts.settle (.lost id) ((carries m id).mpr ⟨rfl, rfl⟩) (fun n id' own => ((carries n id').mp own).1.symm)
        still_resume.grows (fun n _ => still_resume.same n) rfl kept calm ⟨rfl, started, no_entry⟩
        (fun _ _ _ none => none) (.inl rfl) ?_ ?_ (fun _ _ none => none)
        fun n other loses => other loses.1.symm
      · rw [(still_resume.same m).written]
        exact (List.append_nil _).symm
      · simp only [loses_answer, true_and, iff_true]
        exact eq_false_of_ne_true refused

/-- The answer to a call is cut off, or the socket does not take it. -/
theorem Accounts.cut_off (accounts : Accounts cfg phases s past) {ev : PoolEvent TaskId (ProvOp κ)}
    {debtor : Debtor} (here : phases i = .owes m id debtor) (still : Still s s')
    (received : s'.received = s.received)
    (kept : ∀ n, s'.interrupted (.call n) = true → s.interrupted (.call n) = true)
    (reads : ∀ n id, ¬ reads_call cfg n id ev) (loses : ∀ n, loses_answer cfg n ev ↔ m = n) :
    Accounts cfg (Function.update phases i (Duty.owes m id debtor).paid) s' (past ++ [ev]) := by
  have fits := accounts.fits i
  rw [here] at fits
  refine accounts.settle (.lost id) (by rw [here]; exact ⟨rfl, rfl⟩) (fun n id' own => ?_)
    still.grows (fun n _ => still.same n) received kept (by simp [here]) (still.fits (fits_paid fits))
    (fun _ _ _ => paid_carries) (.inl rfl) ?_ (by simp [loses]) reads
    fun n other lost => other ((loses n).mp lost).symm
  · rw [here] at own
    exact own.1.symm
  · rw [(still.same m).written]
    exact (List.append_nil _).symm

theorem Accounts.wait_lock (accounts : Accounts cfg phases s past) {debtor : Debtor}
    {b : Except Raised Unit} (here : phases i = .owes m id debtor)
    (answered : provider_answers i s (.wait_lock (some m)) b s') :
    Accounts cfg (Function.update phases i ((answers cfg).next (phases i) (.wait_lock (some m)) b)) s'
      (past ++ [⟨i, ⟨.wait_lock (some m), b⟩⟩]) := by
  obtain ⟨-, taken⟩ := answered
  have resumed : Still s (s.resume i) := still_resume
  cases b with
  | ok _ =>
    obtain ⟨-, -, rfl⟩ := taken
    exact accounts.stays (resumed.trans (still_of_eq rfl rfl (fun _ => rfl) (le_refl _)))
      (fun _ here => .inl (interrupted_of_resume here)) (fun _ _ none => none) (fun _ none => none) rfl
  | error _ =>
    subst taken
    have paid : (answers cfg).next (phases i) (.wait_lock (some m)) (.error ‹Raised›) =
        (Duty.owes m id debtor).paid := by rw [here]; rfl
    rw [paid]
    exact accounts.cut_off here (resumed.trans (still_of_eq rfl rfl (fun _ => rfl) (le_refl _)))
      rfl (fun _ here => interrupted_of_resume here) (fun _ _ none => none) fun _ => Iff.rfl

/-- A frame that answers a call is written. -/
theorem Accounts.ws_write (accounts : Accounts cfg phases s past) {frame : Python.Value}
    {b : Except Raised Unit} (pays : (phases i).Pays m frame)
    (answered : provider_answers i s (.ws_write (some m) frame) b s') :
    Accounts cfg (Function.update phases i ((answers cfg).next (phases i) (.ws_write (some m) frame) b))
      s' (past ++ [⟨i, ⟨.ws_write (some m) frame, b⟩⟩]) := by
  obtain ⟨id, debtor, here, responds⟩ := pays
  have paid : (answers cfg).next (phases i) (.ws_write (some m) frame) b =
      (Duty.owes m id debtor).paid := by rw [here]; rfl
  rw [paid]
  obtain ⟨-, taken⟩ := answered
  have fits := accounts.fits i
  rw [here] at fits
  cases b with
  | error _ =>
    subst taken
    exact accounts.cut_off here still_resume rfl (fun _ here => interrupted_of_resume here)
      (fun _ _ none => none) fun _ => Iff.rfl
  | ok _ =>
    subst taken
    have responds : Response id frame := by
      rcases responds with own | ⟨given, rfl, own⟩
      · exact own
      · cases i with
        | call n =>
          obtain ⟨-, -, -, rfl⟩ := fits
          exact own
        | main => exact fits.elim
        | loop => exact fits.elim
        | notify _ => cases fits
        | reader => cases fits
    have written (n : Nat) : answers_to { s.resume i with written := s.written ++ [(some m, frame)] } n =
        answers_to s n ++ if m = n then [frame] else [] := by
      by_cases same : m = n
      · simp [answers_to, same]
      · simp [answers_to, same]
    refine accounts.settle (.written id frame) (by rw [here]; exact ⟨rfl, rfl⟩)
      (fun n id' own => ?_) ⟨rfl, fun _ => rfl, fun _ flag => flag⟩
      (fun n other => ⟨rfl, Iff.rfl, ?_⟩) rfl (fun _ here => interrupted_of_resume here) (by simp [here])
      (fits_paid fits) (fun _ _ _ => paid_carries) (.inr ⟨frame, rfl, responds⟩) ?_
      (by simp [loses_answer]) (fun _ _ none => none) fun _ _ none => none
    · rw [here] at own
      exact own.1.symm
    · rw [written, if_neg other.symm, List.append_nil]
    · rw [written, if_pos rfl]
      rfl

end SessionManager.Provider
