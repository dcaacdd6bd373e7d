import SessionManager.Adapter.Errands
import SessionManager.Adapter.Settlement

/-!
# One call in flight

A route takes no call while the task of another is in `_tasks`, so `_capture_queue` holds the call in
flight or nothing (`Flight`), and the id that is noted next is the id of its request.
-/

namespace SessionManager.Provider

open Python (Str Entries)

open Effect

variable {κ : Type} [DecidableEq κ] {cfg : ProviderConfig κ} {s s' : ProvState κ}
  {phases : TaskId → Duty} {errand errand' : TaskId → Errand} {i : TaskId} {g : Duty} {h : Errand}
  {n m request : Nat} {β : Type} {e : ProvOp κ β} {b : β}

/-! ## What a request leaves alone -/

/-- The request id that is noted for a call. -/
def noted (s : ProvState κ) (n : Nat) : Option Nat := (s.entries n).bind PendingCall.sdk_request_id

/-- The cancellation of a call was asked for. -/
def Requested (s : ProvState κ) (n : Nat) : Prop :=
  ∃ entry, s.entries n = some entry ∧ entry.cancel_requested = true

/-- The request of a call is called off, or will be by who has set the flag. -/
def Sent (s : ProvState κ) (n : Nat) : Prop :=
  ∃ entry, s.entries n = some entry ∧ entry.cancel_sent = true

/-- No flag of an entry is taken back. -/
structure Flags (s s' : ProvState κ) : Prop where
  requested : ∀ n, Requested s n → Requested s' n
  sent : ∀ n, Sent s n → Sent s' n

/-- The calls, their tasks and the SDK's requests are as they were. -/
structure Undisturbed (s s' : ProvState κ) : Prop where
  calls : s'.calls = s.calls
  created : ∀ n, s'.created (.notify n) = s.created (.notify n)
  tasks : s'.tasks = s.tasks
  queue : s'.capture_queue = s.capture_queue
  next_request : s'.next_request = s.next_request
  notified : s'.notified = s.notified
  noted : ∀ n, noted s' n = noted s n
  flags : Flags s s'

/-- Requests that change nothing of that, apart from the flag of an answer. -/
def undisturbing : ∀ {β : Type}, ProvOp κ β → Bool
  | _, .create_call .. | _, .create_notify _ | _, .open_entry .. | _, .close_entry ..
  | _, .claim_cancel _ | _, .request_cancel _ | _, .queue_capture _ | _, .next_request
  | _, .capture _ | _, .discard | _, .relay_cancel _ => false
  | _, _ => true

omit [DecidableEq κ] in
theorem flags_of_eq (entries : s'.entries = s.entries) : Flags s s' := by
  refine ⟨fun n => ?_, fun n => ?_⟩
  · simp only [Requested, entries, imp_self]
  · simp only [Sent, entries, imp_self]

omit [DecidableEq κ] in
/-- An entry is changed, and keeps its flags. -/
theorem flags_set_entry {entry new : PendingCall} (here : s.entries n = some entry)
    (requested : entry.cancel_requested = true → new.cancel_requested = true)
    (sent : entry.cancel_sent = true → new.cancel_sent = true) : Flags s (s.set_entry n new) := by
  refine ⟨fun m => ?_, fun m => ?_⟩
  · rintro ⟨entry', there, flag⟩
    by_cases same : m = n
    · subst same
      cases here.symm.trans there
      exact ⟨new, Function.update_self .., requested flag⟩
    · exact ⟨entry', (Function.update_of_ne same ..).trans there, flag⟩
  · rintro ⟨entry', there, flag⟩
    by_cases same : m = n
    · subst same
      cases here.symm.trans there
      exact ⟨new, Function.update_self .., sent flag⟩
    · exact ⟨entry', (Function.update_of_ne same ..).trans there, flag⟩

omit [DecidableEq κ] in
theorem noted_set_entry {new : PendingCall} :
    noted (s.set_entry n new) m = if m = n then new.sdk_request_id else noted s m := by
  unfold noted
  rw [ProvState.entries_set_entry]
  split
  · rename_i same
    subst same
    rw [Function.update_self, Option.bind_some]
  · rename_i other
    rw [Function.update_of_ne other]

omit [DecidableEq κ] in
theorem undisturbed_refl : Undisturbed s s :=
  ⟨rfl, fun _ => rfl, rfl, rfl, rfl, rfl, fun _ => rfl, flags_of_eq rfl⟩

omit [DecidableEq κ] in
theorem undisturbed_resume : Undisturbed s (s.resume i) :=
  ⟨rfl, fun _ => rfl, rfl, rfl, rfl, rfl, fun _ => rfl, flags_of_eq rfl⟩

omit [DecidableEq κ] in
theorem undisturbed_interrupt {task : TaskId} : Undisturbed s (s.interrupt task) := by
  unfold ProvState.interrupt
  split
  · exact undisturbed_refl
  · exact ⟨rfl, fun _ => rfl, rfl, rfl, rfl, rfl, fun _ => rfl, flags_of_eq rfl⟩

omit [DecidableEq κ] in
theorem Undisturbed.trans {s'' : ProvState κ} (first : Undisturbed s s') (second : Undisturbed s' s'') :
    Undisturbed s s'' where
  calls := second.calls.trans first.calls
  created n := (second.created n).trans (first.created n)
  tasks := second.tasks.trans first.tasks
  queue := second.queue.trans first.queue
  next_request := second.next_request.trans first.next_request
  notified := second.notified.trans first.notified
  noted n := (second.noted n).trans (first.noted n)
  flags.requested n before := second.flags.requested n (first.flags.requested n before)
  flags.sent n before := second.flags.sent n (first.flags.sent n before)

omit [DecidableEq κ] in
theorem undisturbed_interrupts {tasks : List TaskId} :
    Undisturbed s (tasks.foldl ProvState.interrupt s) := by
  induction tasks generalizing s with
  | nil => exact undisturbed_refl
  | cons task rest ih => exact undisturbed_interrupt.trans ih

/-- What most requests do to the shared state. -/
theorem undisturbed (usual : undisturbing e = true) (answered : provider_answers i s e b s') :
    Undisturbed s s' := by
  have resumed : Undisturbed s (s.resume i) := undisturbed_resume
  have plain {s'' : ProvState κ} (calls : s''.calls = s.calls)
      (created : ∀ n, s''.created (.notify n) = s.created (.notify n)) (tasks : s''.tasks = s.tasks)
      (queue : s''.capture_queue = s.capture_queue) (next : s''.next_request = s.next_request)
      (notified : s''.notified = s.notified) (entries : s''.entries = s.entries) :
      Undisturbed s s'' :=
    ⟨calls, created, tasks, queue, next, notified, fun n => by unfold noted; rw [entries],
      flags_of_eq entries⟩
  cases e with
  | create_call | create_notify | open_entry | close_entry | claim_cancel | request_cancel
  | queue_capture | next_request | capture | discard | relay_cancel => cases usual
  | set_flag | unlock | finish | clear_pending | bind_connection | set_tools | expect | defer_reply =>
    subst answered
    exact plain rfl (fun _ => rfl) rfl rfl rfl rfl rfl
  | create_run =>
    subst answered
    have created (n : Nat) : Function.update s.created .loop true (.notify n) = s.created (.notify n) :=
      Function.update_of_ne (by simp) ..
    exact plain rfl created rfl rfl rfl rfl rfl
  | look =>
    obtain ⟨-, rfl⟩ := answered
    exact undisturbed_refl
  | try_lock =>
    obtain ⟨-, rfl⟩ := answered
    split
    · exact plain rfl (fun _ => rfl) rfl rfl rfl rfl rfl
    · exact plain rfl (fun _ => rfl) rfl rfl rfl rfl rfl
  | resolve key result =>
    subst answered
    split
    · exact plain rfl (fun _ => rfl) rfl rfl rfl rfl rfl
    · exact undisturbed_refl
  | cancel task =>
    subst answered
    exact undisturbed_interrupt
  | claim_terminal n =>
    obtain ⟨entry, here, ⟨-, -, rfl⟩ | ⟨-, -, rfl⟩⟩ := answered
    · exact undisturbed_refl
    · refine ⟨rfl, fun _ => rfl, rfl, rfl, rfl, rfl, fun m => ?_, flags_set_entry here (fun flag => flag)
        fun flag => flag⟩
      rw [noted_set_entry]
      split
      · rename_i same
        rw [same, noted, here, Option.bind_some]
      · rfl
  | begin | begin_call | gather_within | recv_end | route_wait =>
    obtain ⟨-, -, rfl⟩ := answered
    exact resumed
  | ws_drain | ws_close | admission_check | fetch_tools | sdk_open | sdk_result | reap
  | list_changed =>
    obtain ⟨-, rfl⟩ := answered
    exact resumed
  | gather tasks =>
    obtain ⟨-, ended⟩ := answered
    cases b with
    | ok _ =>
      obtain ⟨-, rfl⟩ := ended
      exact resumed
    | error _ =>
      subst ended
      exact resumed.trans undisturbed_interrupts
  | wait_lock call =>
    obtain ⟨-, taken⟩ := answered
    cases b with
    | ok _ =>
      obtain ⟨-, -, rfl⟩ := taken
      exact plain rfl (fun _ => rfl) rfl rfl rfl rfl rfl
    | error _ =>
      subst taken
      exact plain rfl (fun _ => rfl) rfl rfl rfl rfl rfl
  | ws_write call frame =>
    obtain ⟨-, written⟩ := answered
    cases b with
    | ok _ =>
      subst written
      exact plain rfl (fun _ => rfl) rfl rfl rfl rfl rfl
    | error _ =>
      subst written
      exact resumed
  | recv =>
    obtain ⟨-, read⟩ := answered
    cases b with
    | ok _ =>
      obtain ⟨-, rfl⟩ := read
      exact plain rfl (fun _ => rfl) rfl rfl rfl rfl rfl
    | error _ =>
      subst read
      exact resumed
  | registered =>
    obtain ⟨-, known⟩ := answered
    cases b with
    | ok _ =>
      obtain ⟨-, rfl⟩ := known
      exact resumed
    | error _ =>
      subst known
      exact plain rfl (fun _ => rfl) rfl rfl rfl rfl rfl
  | join_loop =>
    obtain ⟨-, joined⟩ := answered
    cases b with
    | ok _ =>
      obtain ⟨-, rfl⟩ := joined
      exact resumed
    | error _ =>
      subst joined
      exact resumed.trans undisturbed_interrupt

/-! ## Who may be admitted -/

/-- Who creates the task of a call has found the route idle. -/
def Vacant (phases : TaskId → Duty) (s : ProvState κ) : Prop :=
  ∀ i n id, phases i = .admitted n id → s.busy = false

/-- A task that is about to create the task of a call does not wait. -/
theorem admitted_busy {id : Python.Value} :
    ¬ (answers cfg).Idle (α := Except Raised Unit) Settled ProvOp.awaits (.admitted n id) :=
  not_waiting (by simp [Duty.Idle, Duty.steady]) (by simp) (by simp)

omit [DecidableEq κ] in
theorem idle_not_admitted {id : Python.Value} (idle : g.Idle) : g ≠ .admitted n id ∧ g.cut ≠ .admitted n id := by
  rcases idle with steady | ⟨m, own, rfl⟩
  · rw [cut_of_steady steady, and_self]
    intro here
    rw [here] at steady
    cases steady
  · exact ⟨by simp, by simp [Duty.cut]⟩

def looks : ∀ {β : Type}, ProvOp κ β → Bool
  | _, .look => true
  | _, _ => false

/-- Only by looking a task gets to create the task of a call. -/
theorem not_admitted {id : Python.Value} (allowed : (answers cfg).allows g e)
    (other : looks e = false) : (answers cfg).next g e b ≠ .admitted n id := by
  have after {α : Type} (quiet : g.Idle) (r : Except Raised α) : g.after r ≠ .admitted n id := by
    unfold Duty.after
    split
    · exact (idle_not_admitted quiet).2
    · exact (idle_not_admitted quiet).1
  cases e with
  | look => cases other
  | recv =>
    have easy : g ≠ .admitted n id := (idle_not_admitted allowed.idle).1
    cases b with
    | error _ => exact easy
    | ok frame =>
      change g.read frame.1 (call_of cfg frame.2) ≠ _
      cases call_of cfg frame.2 with
      | none => exact easy
      | some own => exact fun here => by cases here
  | create_call => exact fun here => by cases here
  | cancel task =>
    obtain ⟨-, m, rfl⟩ := allowed
    exact fun here => by cases here
  | gather tasks =>
    obtain ⟨m, rfl, -⟩ := allowed
    exact fun here => by cases here
  | claim_terminal m =>
    rcases allowed with rfl | ⟨own, rfl⟩ | rfl
    all_goals cases b <;> exact fun here => by cases here
  | try_lock =>
    rintro rfl
    cases allowed
  | begin => exact (idle_not_admitted (.inl allowed)).1
  | begin_call =>
    obtain ⟨m, rfl⟩ := allowed
    cases b with
    | error _ => exact fun here => by cases here
    | ok given =>
      obtain ⟨own, params⟩ := given
      change (if acceptable cfg own params then .given m own else .lost m) ≠ Duty.admitted n id
      split
      · exact fun here => by cases here
      · exact fun here => by cases here
  | open_entry m own key =>
    obtain rfl := allowed
    exact fun here => by cases here
  | wait_lock call =>
    cases call with
    | none => exact (idle_not_admitted allowed).1
    | some m =>
      obtain ⟨own, debtor, rfl⟩ := allowed
      cases b with
      | ok _ => exact fun here => by cases here
      | error _ => cases debtor <;> exact fun here => by cases here
  | ws_write call frame =>
    cases call with
    | none => exact (idle_not_admitted allowed).1
    | some m =>
      obtain ⟨own, debtor, rfl, -⟩ := allowed
      cases debtor <;> exact fun here => by cases here
  | admission_check | sdk_open | sdk_result | relay_cancel => exact after allowed b
  | _ => exact (idle_not_admitted allowed).1

theorem Vacant.step (vacant : Vacant phases s) (allowed : (answers cfg).allows (phases i) e)
    (answered : provider_answers i s e b s')
    (idle : ∀ j ≠ i, (answers cfg).Idle (α := Except Raised Unit) Settled ProvOp.awaits (phases j)) :
    Vacant (Function.update phases i ((answers cfg).next (phases i) e b)) s' := by
  intro j n id here
  by_cases same : j = i
  · subst same
    rw [Function.update_self] at here
    cases e with
    | look =>
      obtain ⟨rfl, rfl⟩ := answered
      cases before : phases j with
      | got m own =>
        rw [before] at here
        change (if ProvState.busy _ then .owes m own .refuser else .admitted m own) = Duty.admitted n id at here
        split at here
        · cases here
        · exact eq_false_of_ne_true ‹_›
      | admitted m own => exact vacant j m own before
      | _ =>
        rw [before] at here
        cases here
    | _ => exact absurd here (not_admitted allowed rfl)
  · rw [Function.update_of_ne same] at here
    have waits := idle j same
    rw [here] at waits
    exact absurd waits admitted_busy

/-! ## The call in flight -/

/-- The call whose task this is. -/
def Life.number : Life → Option Nat
  | .running own => own
  | .queued n | .asked n _ => some n
  | .finished | .gone => none

/-- The call is in `_capture_queue`. -/
def Life.waiting : Life → Bool
  | .queued _ | .asked .. => true
  | _ => false

/-- The tasks of the calls and `_capture_queue`. -/
structure Flight (errand : TaskId → Errand) (s : ProvState κ) : Prop where
  tasks : ∀ n, s.calls n ≠ none → (errand (.call n)).life ≠ .gone → .call n ∈ s.tasks
  alone : ∀ n m, .call n ∈ s.tasks → .call m ∈ s.tasks → n = m
  own : ∀ i n, (errand i).life.number = some n → i = .call n
  queue : ∀ n, n ∈ s.capture_queue ↔ (errand (.call n)).life.waiting = true
  nodup : s.capture_queue.Nodup
  begun : ∀ n ∈ s.capture_queue, s.calls n ≠ none

section Flight

omit [DecidableEq κ]

/-- At most one call is in `_capture_queue`. -/
theorem Flight.sole (flight : Flight errand s) (first : n ∈ s.capture_queue)
    (second : m ∈ s.capture_queue) : n = m := by
  have there {k : Nat} (queued : k ∈ s.capture_queue) : .call k ∈ s.tasks := by
    refine flight.tasks k (flight.begun k queued) fun gone => ?_
    have waits := (flight.queue k).mp queued
    rw [gone] at waits
    cases waits
  exact flight.alone n m (there first) (there second)

/-- A step that changes no call, and the task of none but `i`. -/
theorem Flight.goes_on (flight : Flight errand s) (calls : s'.calls = s.calls)
    (tasks : ∀ n, .call n ∈ s'.tasks ↔ .call n ∈ s.tasks) (queue : s'.capture_queue = s.capture_queue)
    (gone : (errand i).life = .gone → h.life = .gone)
    (number : ∀ n, h.life.number = some n → (errand i).life.number = some n)
    (waiting : h.life.waiting = (errand i).life.waiting) : Flight (Function.update errand i h) s' where
  tasks n begun here := by
    rw [tasks]
    refine flight.tasks n (calls ▸ begun) fun before => here ?_
    by_cases same : .call n = i
    · subst same
      rw [Function.update_self]
      exact gone before
    · rwa [Function.update_of_ne same]
  alone n m first second := flight.alone n m ((tasks n).mp first) ((tasks m).mp second)
  own j n here := by
    by_cases same : j = i
    · subst same
      rw [Function.update_self] at here
      exact flight.own j n (number n here)
    · rw [Function.update_of_ne same] at here
      exact flight.own j n here
  queue n := by
    rw [queue, flight.queue]
    by_cases same : .call n = i
    · subst same
      rw [Function.update_self, waiting]
    · rw [Function.update_of_ne same]
  nodup := queue ▸ flight.nodup
  begun n queued := calls ▸ flight.begun n (queue ▸ queued)

/-- A step that leaves the life of its task as it is. -/
theorem Flight.stays (flight : Flight errand s) (calls : s'.calls = s.calls)
    (tasks : ∀ n, .call n ∈ s'.tasks ↔ .call n ∈ s.tasks) (queue : s'.capture_queue = s.capture_queue)
    (life : h.life = (errand i).life) : Flight (Function.update errand i h) s' :=
  flight.goes_on calls tasks queue (fun gone => life.trans gone) (fun n number => by rw [← life, number])
    (by rw [life])

/-- A call that is admitted is the only one. -/
theorem Flight.create_call (flight : Flight errand s) (vacant : s.busy = false)
    {given : Python.Value × Python.Value} (life : h.life = (errand i).life)
    (calls : s'.calls = Function.update s.calls n (some given)) (tasks : s'.tasks = s.tasks ++ [.call n])
    (queue : s'.capture_queue = s.capture_queue) : Flight (Function.update errand i h) s' := by
  have idle : s.tasks = [] := by
    simp only [ProvState.busy, Bool.or_eq_false_iff, Bool.not_eq_false', List.isEmpty_iff] at vacant
    exact vacant.1.2
  have other {m : Nat} (begun : s'.calls m ≠ none) (other : m ≠ n) : s.calls m ≠ none := by
    rwa [calls, Function.update_of_ne other] at begun
  have lives (j : TaskId) : (Function.update errand i h j).life = (errand j).life := by
    by_cases same : j = i
    · subst same
      rw [Function.update_self, life]
    · rw [Function.update_of_ne same]
  refine ⟨fun m begun here => ?_, fun m k first second => ?_, fun j m here => ?_, fun m => ?_,
    queue ▸ flight.nodup, fun m queued => ?_⟩
  · by_cases same : m = n
    · simp [tasks, same]
    · rw [lives] at here
      have before := flight.tasks m (other begun same) here
      rw [idle] at before
      cases before
  · rw [tasks, idle, List.nil_append, List.mem_singleton, TaskId.call.injEq] at first second
    rw [first, second]
  · rw [lives] at here
    exact flight.own j m here
  · rw [queue, lives]
    exact flight.queue m
  · rw [calls]
    by_cases same : m = n
    · subst same
      simp
    · rw [Function.update_of_ne same]
      exact flight.begun m (queue ▸ queued)

/-- A task that is gone is no longer in `_tasks`. -/
theorem Flight.discard (flight : Flight errand s) (finished : (errand i).life = .finished)
    (gone : h.life = .gone) :
    Flight (Function.update errand i h) { s with tasks := s.tasks.erase i } := by
  refine ⟨fun n begun here => ?_, fun n m first second => ?_, fun j n here => ?_, fun n => ?_,
    flight.nodup, flight.begun⟩
  · by_cases same : .call n = i
    · subst same
      rw [Function.update_self] at here
      exact absurd gone here
    · rw [Function.update_of_ne same] at here
      exact (List.mem_erase_of_ne same).mpr (flight.tasks n begun here)
  · exact flight.alone n m (List.mem_of_mem_erase first) (List.mem_of_mem_erase second)
  · by_cases same : j = i
    · subst same
      rw [Function.update_self, gone] at here
      cases here
    · rw [Function.update_of_ne same] at here
      exact flight.own j n here
  · rw [flight.queue]
    by_cases same : .call n = i
    · subst same
      rw [Function.update_self, finished, gone]
      rfl
    · rw [Function.update_of_ne same]

/-- The call notes that the next request is its own. -/
theorem Flight.queue_capture (flight : Flight errand s) (here : (errand i).life = .running (some n))
    (queued : h.life = .queued n) (begun : s.calls n ≠ none) :
    Flight (Function.update errand i h) { s with capture_queue := s.capture_queue ++ [n] } := by
  obtain rfl := flight.own i n (by rw [here]; rfl)
  have absent : n ∉ s.capture_queue := by
    rw [flight.queue, here]
    simp [Life.waiting]
  refine ⟨fun m begun there => flight.tasks m begun fun gone => ?_, flight.alone, fun j m there => ?_,
    fun m => ?_, List.nodup_append.mpr ⟨flight.nodup, List.nodup_singleton n, ?_⟩, fun m there => ?_⟩
  · by_cases same : m = n
    · subst same
      rw [here] at gone
      cases gone
    · rw [Function.update_of_ne (by simpa using same)] at there
      exact there gone
  · by_cases same : j = .call n
    · subst same
      rw [Function.update_self, queued] at there
      cases there
      rfl
    · rw [Function.update_of_ne same] at there
      exact flight.own j m there
  · rw [List.mem_append, List.mem_singleton]
    by_cases same : m = n
    · subst same
      rw [Function.update_self, queued]
      simp [Life.waiting]
    · rw [Function.update_of_ne (by simpa using same), flight.queue]
      exact or_iff_left same
  · rintro m there k last rfl
    rw [List.mem_singleton.mp last] at there
    exact absent there
  · rcases List.mem_append.mp there with before | last
    · exact flight.begun m before
    · rwa [List.mem_singleton.mp last]

/-- The call has the id of its request, or takes its note back. -/
theorem Flight.noted (flight : Flight errand s) (own : (errand i).life.number = some n)
    (running : h.life = .running (some n)) (calls : s'.calls = s.calls) (tasks : s'.tasks = s.tasks)
    (queue : s'.capture_queue = s.capture_queue.erase n) : Flight (Function.update errand i h) s' := by
  obtain rfl := flight.own i n own
  refine ⟨fun m begun there => ?_, fun m k => ?_, fun j m there => ?_, fun m => ?_, ?_, fun m there => ?_⟩
  · rw [tasks]
    rw [calls] at begun
    refine flight.tasks m begun fun gone => ?_
    by_cases same : m = n
    · subst same
      rw [gone] at own
      cases own
    · rw [Function.update_of_ne (by simpa using same)] at there
      exact there gone
  · rw [tasks]
    exact flight.alone m k
  · by_cases same : j = .call n
    · subst same
      rw [Function.update_self, running] at there
      cases there
      rfl
    · rw [Function.update_of_ne same] at there
      exact flight.own j m there
  · rw [queue]
    by_cases same : m = n
    · subst same
      rw [Function.update_self, running]
      exact iff_of_false flight.nodup.not_mem_erase (by simp [Life.waiting])
    · rw [Function.update_of_ne (by simpa using same), List.mem_erase_of_ne same]
      exact flight.queue m
  · rw [queue]
    exact flight.nodup.erase n
  · rw [queue] at there
    rw [calls]
    exact flight.begun m (List.mem_of_mem_erase there)

/-- The id that is noted is noted for the call whose request it is. -/
theorem Flight.first (flight : Flight errand s) (asked : (errand i).life = .asked n request) :
    ∃ rest, s.capture_queue = n :: rest := by
  obtain rfl := flight.own i n (by rw [asked]; rfl)
  have queued : n ∈ s.capture_queue := by
    rw [flight.queue, asked]
    rfl
  cases whole : s.capture_queue with
  | nil =>
    rw [whole] at queued
    cases queued
  | cons m rest =>
    refine ⟨rest, ?_⟩
    rw [flight.sole queued (by rw [whole]; exact List.mem_cons_self)]

end Flight

end SessionManager.Provider
