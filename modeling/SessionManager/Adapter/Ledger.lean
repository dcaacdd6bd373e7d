import SessionManager.Adapter.Answers

/-!
# The ledger of a route

Each call that was read is carried by one task, has its answer written, or has lost it on the way
to the socket.  `Books` says where; `Accounts.still` and `Books.move` are the rules for a step that
moves no answer and for one that moves the answer to one call.
-/

namespace SessionManager.Provider

open Python (Str Entries)

open Effect

variable {κ : Type}

/-! ## What is owed -/

/-- The answers to a call that were written. -/
def answers_to (s : ProvState κ) (n : Nat) : List Python.Value :=
  s.written.filterMap fun entry => if entry.1 = some n then some entry.2 else none

/-- The flag `terminal_sent` of the call is set. -/
def Flagged (s : ProvState κ) (n : Nat) : Prop :=
  ∃ entry, s.entries n = some entry ∧ entry.terminal_sent = true

/-- Where the answer to a call is. -/
inductive Stage
  | unread
  | carried (task : TaskId) (id : Python.Value)
  | written (id frame : Python.Value)
  | lost (id : Python.Value)

def Stage.frames : Stage → List Python.Value
  | .written _ frame => [frame]
  | _ => []

def Stage.id : Stage → Option Python.Value
  | .unread => none
  | .carried _ id | .written id _ | .lost id => some id

/-- The task is the one that has to answer the call. -/
def Carries (g : Duty) (s : ProvState κ) (n : Nat) (id : Python.Value) : Prop :=
  match g with
  | .got m id' | .admitted m id' | .given m id' | .owes m id' _ => m = n ∧ id' = id
  | .fresh m => m = n ∧ ∃ params, s.calls n = some (id, params)
  | .opened m id' => m = n ∧ id' = id ∧ ¬ Flagged s n
  | _ => False

/-- What the duty of the task of a call says of the state. -/
def FitsCall (s : ProvState κ) (n : Nat) : Duty → Prop
  | .fresh m => m = n ∧ s.entries n = none
  | .given m _ | .lost m => m = n ∧ s.calls n ≠ none ∧ s.entries n = none
  | .opened m id => m = n ∧ s.calls n ≠ none ∧ ∃ entry, s.entries n = some entry ∧ entry.ws_id = id
  | .answered m => m = n ∧ s.calls n ≠ none ∧ Flagged s n
  | .owes m id (.own given) => m = n ∧ s.calls n ≠ none ∧ Flagged s n ∧ given = id
  | _ => False

/-- What the duty of the owner or of the reading task says of the state. -/
def FitsOther (s : ProvState κ) : Duty → Prop
  | .free | .cancelling _ | .owes _ _ .refuser => True
  | .got n _ | .admitted n _ => s.calls n = none
  | .sent n | .owes n _ .canceller => Flagged s n
  | _ => False

def Fits (s : ProvState κ) : TaskId → Duty → Prop
  | .call n, g => FitsCall s n g
  | .main, g | .loop, g => FitsOther s g
  | .notify _, g | .reader, g => g = .bystander

/-- A cancellation of the task of a call is on its way only when the flag is set, or the task that
sent it is about to set it. -/
def Interrupts (phases : TaskId → Duty) (s : ProvState κ) : Prop :=
  ∀ n, s.interrupted (.call n) = true → Flagged s n ∨ ∃ i, phases i = .cancelling n

variable {s s' s'' : ProvState κ} {phases : TaskId → Duty} {i : TaskId} {g g' : Duty} {n m : Nat}
  {id id' : Python.Value}

/-! ## What a step leaves alone -/

/-- Calls keep their arguments and ids, and no flag is taken back. -/
structure Grows (s s' : ProvState κ) : Prop where
  calls : s'.calls = s.calls
  ids : ∀ n, (s'.entries n).map PendingCall.ws_id = (s.entries n).map PendingCall.ws_id
  flagged : ∀ n, Flagged s n → Flagged s' n

/-- The answer to a call has not moved. -/
structure Same (s s' : ProvState κ) (n : Nat) : Prop where
  calls : s'.calls n = s.calls n
  flagged : Flagged s' n ↔ Flagged s n
  written : answers_to s' n = answers_to s n

/-- No answer has moved. -/
structure Still (s s' : ProvState κ) : Prop where
  grows : Grows s s'
  same : ∀ n, Same s s' n
  received : s.received ≤ s'.received

section Frames

/-- A step that leaves the entry of a call its id, takes no flag back and begins no call that is
still to be admitted. -/
theorem fits_frame (fits : Fits s i g) (calls : ∀ n, s.calls n ≠ none → s'.calls n ≠ none)
    (flagged : ∀ n, Flagged s n → Flagged s' n)
    (ids : ∀ n, i = .call n →
      (s'.entries n).map PendingCall.ws_id = (s.entries n).map PendingCall.ws_id)
    (waiting : ∀ n id, g = .got n id ∨ g = .admitted n id → s'.calls n = s.calls n) :
    Fits s' i g := by
  have other (fits : FitsOther s g) : FitsOther s' g := by
    cases g with
    | free | cancelling _ => trivial
    | got n id => exact (waiting n id (.inl rfl)).trans fits
    | admitted n id => exact (waiting n id (.inr rfl)).trans fits
    | sent n => exact flagged n fits
    | owes n id debtor =>
      cases debtor with
      | refuser => trivial
      | canceller => exact flagged n fits
      | own _ => exact fits.elim
    | _ => exact fits.elim
  cases i with
  | call n =>
    have same := ids n rfl
    have none (before : s.entries n = none) : s'.entries n = none := by
      rwa [before, Option.map_none, Option.map_eq_none_iff] at same
    cases g with
    | fresh m => exact ⟨fits.1, none fits.2⟩
    | given m id => exact ⟨fits.1, calls n fits.2.1, none fits.2.2⟩
    | lost m => exact ⟨fits.1, calls n fits.2.1, none fits.2.2⟩
    | opened m id =>
      obtain ⟨own_call, begun, entry, here, own⟩ := fits
      rw [here, Option.map_some, own] at same
      obtain ⟨entry', here', own'⟩ := Option.map_eq_some_iff.mp same
      exact ⟨own_call, calls n begun, entry', here', own'⟩
    | answered m => exact ⟨fits.1, calls n fits.2.1, flagged n fits.2.2⟩
    | owes m id debtor =>
      cases debtor with
      | own given => exact ⟨fits.1, calls n fits.2.1, flagged n fits.2.2.1, fits.2.2.2⟩
      | _ => exact fits.elim
    | _ => exact fits.elim
  | main => exact other fits
  | loop => exact other fits
  | notify _ => exact fits
  | reader => exact fits

/-- The duties of the owner and of the reading task. -/
theorem fits_reading (fits : Fits s i g) (not_own : ∀ n, ¬ FitsCall s n g) (acts : g ≠ .bystander) :
    (i = .main ∨ i = .loop) ∧ FitsOther s g := by
  cases i with
  | main => exact ⟨.inl rfl, fits⟩
  | loop => exact ⟨.inr rfl, fits⟩
  | call n => exact absurd fits (not_own n)
  | notify _ => exact absurd fits acts
  | reader => exact absurd fits acts

theorem fits_of_reading (reading : i = .main ∨ i = .loop) (fits : FitsOther s g) : Fits s i g := by
  rcases reading with rfl | rfl
  · exact fits
  · exact fits

theorem own_of_fresh (fits : Fits s i (.fresh n)) : i = .call n := by
  cases i with
  | call m =>
    obtain ⟨rfl, -⟩ := fits
    rfl
  | main => exact fits.elim
  | loop => exact fits.elim
  | notify _ => cases fits
  | reader => cases fits

/-- The task of a call that has not begun is there, and waits for its first step. -/
theorem fresh_of_unbegun (fits : FitsCall s n g) (unbegun : s.calls n = none) :
    g = .fresh n ∧ s.entries n = none := by
  cases g with
  | fresh m =>
    obtain ⟨rfl, none⟩ := fits
    exact ⟨rfl, none⟩
  | owes m id debtor =>
    cases debtor with
    | own _ => exact absurd unbegun fits.2.1
    | _ => exact fits.elim
  | given | lost | opened | answered => exact absurd unbegun fits.2.1
  | _ => exact fits.elim

/-- The task of a call whose flag is not set is to answer it. -/
theorem opened_of_unflagged {entry : PendingCall} (fits : FitsCall s n g)
    (here : s.entries n = some entry) (unflagged : ¬ Flagged s n) : g = .opened n entry.ws_id := by
  cases g with
  | opened m id =>
    obtain ⟨rfl, -, entry', here', rfl⟩ := fits
    cases here.symm.trans here'
    rfl
  | fresh => cases here.symm.trans fits.2
  | given | lost => cases here.symm.trans fits.2.2
  | answered => exact absurd fits.2.2 unflagged
  | owes m id debtor =>
    cases debtor with
    | own _ => exact absurd fits.2.2.1 unflagged
    | _ => exact fits.elim
  | _ => exact fits.elim

/-- What a task is to do when it has answered, or has failed to. -/
theorem fits_paid {debtor : Debtor} (fits : Fits s i (.owes n id debtor)) :
    Fits s i (Duty.owes n id debtor).paid := by
  cases debtor with
  | refuser =>
    exact fits_of_reading (fits_reading fits (fun _ own => own) (by simp)).1 trivial
  | canceller =>
    obtain ⟨reading, sent⟩ := fits_reading fits (fun _ own => own) (by simp)
    exact fits_of_reading reading sent
  | own given =>
    cases i with
    | call m => exact ⟨fits.1, fits.2.1, fits.2.2.1⟩
    | main => exact fits.elim
    | loop => exact fits.elim
    | notify _ => cases fits
    | reader => cases fits

theorem paid_carries {debtor : Debtor} : ¬ Carries (Duty.owes m id debtor).paid s n id' := by
  cases debtor <;> exact fun none => none

theorem Grows.fits (grows : Grows s s') (fits : Fits s i g) : Fits s' i g :=
  fits_frame fits (fun _ begun => grows.calls ▸ begun) grows.flagged (fun n _ => grows.ids n)
    fun _ _ _ => by rw [grows.calls]

/-- A task that has to answer a call had to before. -/
theorem Carries.back (calls : s'.calls n = s.calls n) (flagged : Flagged s n → Flagged s' n)
    (carries : Carries g s' n id) : Carries g s n id := by
  cases g with
  | fresh m =>
    obtain ⟨same, params, given⟩ := carries
    exact ⟨same, params, calls ▸ given⟩
  | opened m id' =>
    obtain ⟨same, own, unflagged⟩ := carries
    exact ⟨same, own, fun before => unflagged (flagged before)⟩
  | _ => exact carries

theorem Grows.carries (grows : Grows s s') (carries : Carries g s' n id) : Carries g s n id :=
  carries.back (by rw [grows.calls]) (grows.flagged n)

/-- Who has to answer a call only now is its task, which has not begun. -/
theorem Carries.begun (carries : Carries g s' n id) (flagged : Flagged s n → Flagged s' n) :
    g = .fresh n ∨ Carries g s n id := by
  cases g with
  | fresh m => exact .inl (congrArg _ carries.1)
  | opened m id' =>
    obtain ⟨same, own, unflagged⟩ := carries
    exact .inr ⟨same, own, fun before => unflagged (flagged before)⟩
  | _ => exact .inr carries

theorem Same.carries (same : Same s s' n) : Carries g s' n id ↔ Carries g s n id :=
  ⟨Carries.back same.calls same.flagged.mpr, Carries.back same.calls.symm same.flagged.mp⟩

theorem Still.fits (still : Still s s') (fits : Fits s i g) : Fits s' i g := still.grows.fits fits

/-- What a step changes besides the calls, the entries and what was written. -/
theorem still_of_eq (calls : s'.calls = s.calls) (entries : s'.entries = s.entries)
    (written : ∀ n, answers_to s' n = answers_to s n) (received : s.received ≤ s'.received) :
    Still s s' := by
  have flagged (n : Nat) : Flagged s' n ↔ Flagged s n := by
    unfold Flagged
    rw [entries]
  exact ⟨⟨calls, fun n => by rw [entries], fun n => (flagged n).mpr⟩,
    fun n => ⟨by rw [calls], flagged n, written n⟩, received⟩

theorem still_set_entry {entry new : PendingCall} (here : s.entries n = some entry)
    (own : new.ws_id = entry.ws_id) (sent : new.terminal_sent = entry.terminal_sent) :
    Still s (s.set_entry n new) := by
  have flagged (m : Nat) : Flagged (s.set_entry n new) m ↔ Flagged s m := by
    unfold Flagged
    by_cases same : m = n
    · subst same
      rw [ProvState.entries_set_entry, Function.update_self, here]
      simp only [Option.some.injEq, exists_eq_left', sent]
    · rw [ProvState.entries_set_entry, Function.update_of_ne same]
  refine ⟨⟨rfl, fun m => ?_, fun m => (flagged m).mpr⟩, fun m => ⟨rfl, flagged m, rfl⟩, le_refl _⟩
  by_cases same : m = n
  · subst same
    rw [ProvState.entries_set_entry, Function.update_self, here, Option.map_some, Option.map_some, own]
  · rw [ProvState.entries_set_entry, Function.update_of_ne same]

theorem Still.trans (first : Still s s') (second : Still s' s'') : Still s s'' where
  grows.calls := second.grows.calls.trans first.grows.calls
  grows.ids n := (second.grows.ids n).trans (first.grows.ids n)
  grows.flagged n before := second.grows.flagged n (first.grows.flagged n before)
  same n := ⟨(second.same n).calls.trans (first.same n).calls,
    (second.same n).flagged.trans (first.same n).flagged,
    (second.same n).written.trans (first.same n).written⟩
  received := first.received.trans second.received

theorem still_resume : Still s (s.resume i) :=
  still_of_eq rfl rfl (fun _ => rfl) (le_refl _)

theorem interrupted_of_resume {task : TaskId} (here : (s.resume i).interrupted task = true) :
    s.interrupted task = true := by
  rw [ProvState.interrupted_resume] at here
  by_cases same : task = i
  · subst same
    rw [Function.update_self] at here
    cases here
  · rwa [Function.update_of_ne same] at here

theorem interrupted_of_interrupt {task other : TaskId}
    (here : (s.interrupt other).interrupted task = true) :
    s.interrupted task = true ∨ task = other := by
  unfold ProvState.interrupt at here
  split at here
  · exact .inl here
  · by_cases same : task = other
    · exact .inr same
    · simp only [Function.update_of_ne same] at here
      exact .inl here

theorem still_interrupt {task : TaskId} : Still s (s.interrupt task) := by
  unfold ProvState.interrupt
  split
  · exact still_of_eq rfl rfl (fun _ => rfl) (le_refl _)
  · exact still_of_eq rfl rfl (fun _ => rfl) (le_refl _)

/-- An await that raises `CancelledError` was cancelled, or is the owner's. -/
theorem interrupted_of_resumed {α : Type} {own : Raised → Prop}
    (resumed : Resumed i s own (.error .CancelledError : Except Raised α)) :
    s.interrupted i = true ∨ i = .main := by
  change (if s.interrupted i = true then _ else _) at resumed
  split at resumed
  · exact .inl ‹_›
  · rcases resumed with ⟨owner, -⟩ | ⟨other, -⟩
    · exact .inr owner
    · exact absurd rfl other

/-- A task goes from one duty to the next. -/
theorem fits_update (fits : ∀ j ≠ i, Fits s' j (phases j)) (own : Fits s' i g') (j : TaskId) :
    Fits s' j (Function.update phases i g' j) := by
  by_cases same : j = i
  · subst same
    rw [Function.update_self]
    exact own
  · rw [Function.update_of_ne same]
    exact fits j same

theorem Interrupts.update (interrupts : Interrupts phases s)
    (flagged : ∀ n, Flagged s n → Flagged s' n)
    (sets : ∀ n, s'.interrupted (.call n) = true →
      s.interrupted (.call n) = true ∨ Flagged s' n ∨ g' = .cancelling n)
    (leaves : ∀ n, phases i = .cancelling n → Flagged s' n ∨ g' = .cancelling n) :
    Interrupts (Function.update phases i g') s' := by
  intro n here
  have goes_on (j : TaskId) (cancelling : phases j = .cancelling n) :
      Flagged s' n ∨ ∃ j, Function.update phases i g' j = .cancelling n := by
    by_cases same : j = i
    · subst same
      exact (leaves n cancelling).imp_right fun still => ⟨j, by rw [Function.update_self, still]⟩
    · exact .inr ⟨j, by rw [Function.update_of_ne same, cancelling]⟩
  rcases sets n here with before | sent | cancelling
  · rcases interrupts n before with sent | ⟨j, cancelling⟩
    · exact .inl (flagged n sent)
    · exact goes_on j cancelling
  · exact .inl sent
  · exact .inr ⟨i, by rw [Function.update_self, cancelling]⟩

end Frames

/-! ## The books -/

variable (cfg : ProviderConfig κ)

/-- A frame is read that is a call with this id. -/
def reads_call (n : Nat) (id : Python.Value) : PoolEvent TaskId (ProvOp κ) → Prop
  | ⟨_, ⟨.recv, .ok (m, text)⟩⟩ => m = n ∧ call_of cfg text = some id
  | _ => False

def Called (n : Nat) (id : Python.Value) (past : List (PoolEvent TaskId (ProvOp κ))) : Prop :=
  ∃ ev ∈ past, reads_call cfg n id ev

variable {cfg} {past : List (PoolEvent TaskId (ProvOp κ))} {ev : PoolEvent TaskId (ProvOp κ)}

theorem called_snoc :
    Called cfg n id (past ++ [ev]) ↔ Called cfg n id past ∨ reads_call cfg n id ev := by
  unfold Called
  simp only [List.mem_append, List.mem_singleton, or_and_right, exists_or, exists_eq_left]

theorem called_silent (silent : ¬ reads_call cfg n id ev) :
    Called cfg n id (past ++ [ev]) ↔ Called cfg n id past :=
  called_snoc.trans (or_iff_left silent)

variable [DecidableEq κ] (cfg)

/-- The answer to a call is given up: it is cut off while it waits for the lock, the socket does
not take it, or the call raises before it has an entry. -/
def loses_answer (n : Nat) : PoolEvent TaskId (ProvOp κ) → Prop
  | ⟨_, ⟨.wait_lock (some m), .error _⟩⟩ => m = n
  | ⟨_, ⟨.ws_write (some m) _, .error _⟩⟩ => m = n
  | ⟨.call m, ⟨.begin_call, .ok (id, params)⟩⟩ => m = n ∧ acceptable cfg id params = false
  | _ => False

def AnswerLost (n : Nat) (past : List (PoolEvent TaskId (ProvOp κ))) : Prop :=
  ∃ ev ∈ past, loses_answer cfg n ev

/-- The books are in order. -/
structure Books (stage : Nat → Stage) (phases : TaskId → Duty) (s : ProvState κ)
    (past : List (PoolEvent TaskId (ProvOp κ))) : Prop where
  carries : ∀ n i id, Carries (phases i) s n id ↔ stage n = .carried i id
  written : ∀ n, answers_to s n = (stage n).frames
  responds : ∀ n id frame, stage n = .written id frame → Response id frame
  called : ∀ n id, Called cfg n id past ↔ (stage n).id = some id
  lost : ∀ n, AnswerLost cfg n past ↔ ∃ id, stage n = .lost id
  unread : ∀ n, s.received ≤ n → stage n = .unread

/-- What holds in every state of a run. -/
structure Accounts (phases : TaskId → Duty) (s : ProvState κ)
    (past : List (PoolEvent TaskId (ProvOp κ))) : Prop where
  fits : ∀ i, Fits s i (phases i)
  interrupts : Interrupts phases s
  calls : ∀ n, s.calls n ≠ none → n < s.received
  books : ∃ stage, Books cfg stage phases s past

variable {cfg} {stage : Nat → Stage}

theorem lost_snoc :
    AnswerLost cfg n (past ++ [ev]) ↔ AnswerLost cfg n past ∨ loses_answer cfg n ev := by
  unfold AnswerLost
  simp only [List.mem_append, List.mem_singleton, or_and_right, exists_or, exists_eq_left]

theorem lost_silent (silent : ¬ loses_answer cfg n ev) :
    AnswerLost cfg n (past ++ [ev]) ↔ AnswerLost cfg n past :=
  lost_snoc.trans (or_iff_left silent)

theorem Books.read (books : Books cfg stage phases s past) (read : stage n ≠ .unread) :
    n < s.received := by
  by_contra beyond
  exact read (books.unread n (Nat.le_of_not_lt beyond))

/-! ## Keeping the books -/

/-- A step that moves no answer. -/
theorem Accounts.still (accounts : Accounts cfg phases s past) (still : Still s s')
    (fits : Fits s' i g') (carries : ∀ n id, Carries g' s' n id ↔ Carries (phases i) s n id)
    (sets : ∀ n, s'.interrupted (.call n) = true →
      s.interrupted (.call n) = true ∨ Flagged s' n ∨ g' = .cancelling n)
    (leaves : ∀ n, phases i = .cancelling n → Flagged s' n ∨ g' = .cancelling n)
    (reads : ∀ n id, ¬ reads_call cfg n id ev) (loses : ∀ n, ¬ loses_answer cfg n ev) :
    Accounts cfg (Function.update phases i g') s' (past ++ [ev]) where
  fits := fits_update (fun j _ => still.fits (accounts.fits j)) fits
  interrupts := accounts.interrupts.update still.grows.flagged sets leaves
  calls n begun := (accounts.calls n (still.grows.calls ▸ begun)).trans_le still.received
  books := by
    obtain ⟨stage, books⟩ := accounts.books
    refine ⟨stage, fun n j id => ?_, fun n => ?_, books.responds, fun n id => ?_, fun n => ?_,
      fun n unread => books.unread n (still.received.trans unread)⟩
    · by_cases same : j = i
      · subst same
        rw [Function.update_self, carries]
        exact books.carries n j id
      · rw [Function.update_of_ne same, (still.same n).carries]
        exact books.carries n j id
    · rw [(still.same n).written]
      exact books.written n
    · rw [called_silent (reads n id)]
      exact books.called n id
    · rw [lost_silent (loses n)]
      exact books.lost n

/-- A step after which its task has to do what it had to do before. -/
theorem Accounts.stays (accounts : Accounts cfg phases s past) (still : Still s s')
    (sets : ∀ n, s'.interrupted (.call n) = true → s.interrupted (.call n) = true ∨ Flagged s' n)
    (reads : ∀ n id, ¬ reads_call cfg n id ev) (loses : ∀ n, ¬ loses_answer cfg n ev)
    (same : g' = phases i) : Accounts cfg (Function.update phases i g') s' (past ++ [ev]) := by
  subst same
  exact accounts.still still (still.fits (accounts.fits i)) (fun n _ => (still.same n).carries)
    (fun n here => (sets n here).imp_right .inl) (fun _ => .inr) reads loses

/-- A step that moves the answer to one call. -/
theorem Books.move (books : Books cfg stage phases s past) (st : Stage)
    (away : ∀ n ≠ m, Same s s' n) (received : s.received ≤ s'.received)
    (own_away : ∀ n ≠ m, ∀ id, Carries g' s n id ↔ Carries (phases i) s n id)
    (carries : ∀ j id, Carries (Function.update phases i g' j) s' m id ↔ st = .carried j id)
    (written : answers_to s' m = st.frames)
    (responds : ∀ id frame, st = .written id frame → Response id frame)
    (called : ∀ id, (stage m).id = some id ∨ reads_call cfg m id ev ↔ st.id = some id)
    (lost : (∃ id, stage m = .lost id) ∨ loses_answer cfg m ev ↔ ∃ id, st = .lost id)
    (reads_away : ∀ n ≠ m, ∀ id, ¬ reads_call cfg n id ev)
    (loses_away : ∀ n ≠ m, ¬ loses_answer cfg n ev)
    (unread : s'.received ≤ m → st = .unread) :
    Books cfg (Function.update stage m st) (Function.update phases i g') s' (past ++ [ev]) where
  carries n j id := by
    by_cases here : n = m
    · subst here
      rw [Function.update_self]
      exact carries j id
    · rw [Function.update_of_ne here, ← books.carries, (away n here).carries]
      by_cases same : j = i
      · subst same
        rw [Function.update_self]
        exact own_away n here id
      · rw [Function.update_of_ne same]
  written n := by
    by_cases here : n = m
    · subst here
      rw [Function.update_self]
      exact written
    · rw [Function.update_of_ne here, (away n here).written]
      exact books.written n
  responds n id frame same := by
    by_cases here : n = m
    · subst here
      rw [Function.update_self] at same
      exact responds id frame same
    · rw [Function.update_of_ne here] at same
      exact books.responds n id frame same
  called n id := by
    by_cases here : n = m
    · subst here
      rw [Function.update_self, called_snoc, books.called]
      exact called id
    · rw [Function.update_of_ne here, called_silent (reads_away n here id)]
      exact books.called n id
  lost n := by
    by_cases here : n = m
    · subst here
      rw [Function.update_self, lost_snoc, books.lost]
      exact lost
    · rw [Function.update_of_ne here, lost_silent (loses_away n here)]
      exact books.lost n
  unread n beyond := by
    by_cases here : n = m
    · subst here
      rw [Function.update_self]
      exact unread beyond
    · rw [Function.update_of_ne here]
      exact books.unread n (received.trans beyond)

end SessionManager.Provider
