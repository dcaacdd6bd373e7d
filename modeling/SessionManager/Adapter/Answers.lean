import SessionManager.Adapter.Tasks

/-!
# One answer to each call

Every tool call with an id is owed one answer.  The debt passes from the reading task to the task
of the call and on to whoever sets `terminal_sent`, and it is paid by the frame that is written.
`Duty` says what a task has to do for a call, and the tasks keep to it (`follows_duty`).
-/

namespace SessionManager.Provider

open Python (Str Entries)

open Effect

variable {κ : Type} [DecidableEq κ] (cfg : ProviderConfig κ)

/-! ## Calls and answers -/

/-- The id of the tool call a message is, if it is one that has an id. -/
def message_call (msg : Entries) : Option Python.Value :=
  match Method.of ((Python.get msg "method").getD .None) with
  | .tool_call => (Python.get msg "id").filter fun id => !is_none id
  | _ => none

/-- The id of the tool call a frame is, if it is one that has an id. -/
def call_of (text : Str) : Option Python.Value :=
  if encoded_size text > cfg.max_frame_bytes then none
  else
    match cfg.rules.loads text with
    | .ok (.dict msg) => if (Python.get msg "method").isSome then message_call msg else none
    | _ => none

/-- A terminal response to the request with this id. -/
def Response (id frame : Python.Value) : Prop :=
  (∃ result, frame = result_frame id result) ∨ ∃ exc, frame = error_frame id exc

/-- The `params` are an object, its `arguments` a dictionary, and the id has a hash: what
`_dispatch_call` takes for granted before its `try`. -/
def acceptable (id params : Python.Value) : Bool :=
  match call_arguments cfg.hash params with
  | .ok _ => (cfg.hash id).isSome
  | .error _ => false

/-! ## Duties -/

/-- Who owes an answer: the reading task that turns a call away, a task that has cancelled it, or the
task of the call, which was given an id. -/
inductive Debtor
  | refuser
  | canceller
  | own (given : Python.Value)

/-- What a task has to do for a call. -/
inductive Duty
  /-- A task that answers no calls. -/
  | bystander
  /-- A task that owes nothing. -/
  | free
  /-- It has read a call. -/
  | got (n : Nat) (id : Python.Value)
  /-- It is not busy and creates the task of the call. -/
  | admitted (n : Nat) (id : Python.Value)
  /-- It has cancelled the task of the call. -/
  | cancelling (n : Nat)
  /-- It has cancelled the task of the call, and the flag is set. -/
  | sent (n : Nat)
  /-- The task of a call, from its creation to its last request. -/
  | fresh (n : Nat)
  | given (n : Nat) (id : Python.Value)
  | opened (n : Nat) (id : Python.Value)
  | answered (n : Nat)
  | lost (n : Nat)
  /-- The answer is decided and the frame is not written. -/
  | owes (n : Nat) (id : Python.Value) (debtor : Debtor)

namespace Duty

/-- The frame is written, or will not be. -/
def paid : Duty → Duty
  | .owes _ _ .refuser => .free
  | .owes n _ .canceller => .sent n
  | .owes n _ (.own _) => .answered n
  | g => g

/-- The task of a call was cancelled. -/
def cut : Duty → Duty
  | .opened n _ => .answered n
  | g => g

/-- After an await of the task of a call. -/
def after {α : Type} (g : Duty) : Except Raised α → Duty
  | .error .CancelledError => g.cut
  | _ => g

/-- The task has set the flag of an entry with this id. -/
def claimed (n : Nat) (id : Python.Value) : Duty → Duty
  | .opened _ own_id => .owes n id (.own own_id)
  | .answered _ => .owes n id (.own id)
  | _ => .owes n id .canceller

/-- The flag of the entry was set before. -/
def spared : Duty → Duty
  | .opened n _ => .answered n
  | .cancelling n => .sent n
  | g => g

/-- A state in which a task takes up what there is to do. -/
def Easy (g : Duty) : Prop := g = .free ∨ ∃ n, g = .sent n

/-- A state in which a task owes nothing. -/
def steady : Duty → Bool
  | .bystander | .free | .sent _ | .answered _ | .lost _ => true
  | _ => false

/-- A state in which a task writes. -/
def sending : Duty → Bool
  | .owes .. => true
  | g => g.steady

/-- A state in which a task does what concerns no answer. -/
def Idle (g : Duty) : Prop := g.steady = true ∨ ∃ n id, g = .opened n id

/-- The frame is an answer that the task owes. -/
def Pays (g : Duty) (n : Nat) (frame : Python.Value) : Prop :=
  ∃ id debtor, g = .owes n id debtor ∧
    (Response id frame ∨ ∃ given, debtor = .own given ∧ Response given frame)

end Duty

/-- The frames that a task writes for calls, as an automaton over its requests. -/
def answers : Protocol (ProvOp κ) Duty where
  allows g _
    | .look => True
    | .recv => g.Easy
    | .create_call n id _ => g = .admitted n id
    | .cancel task => g.Easy ∧ ∃ n, task = .call n
    | .gather tasks => ∃ n, g = .sent n ∧ tasks = [.call n]
    | .claim_terminal n => g = .cancelling n ∨ (∃ id, g = .opened n id) ∨ g = .answered n
    | .try_lock => g.sending = true
    | .wait_lock (some n) => ∃ id debtor, g = .owes n id debtor
    | .ws_write (some n) frame => g.Pays n frame
    | .begin_call => ∃ n, g = .fresh n
    | .open_entry n id _ => g = .given n id
    | .begin => g.steady = true
    | _ => g.Idle
  next g _
    | .look, s =>
      match g with
      | .got n id => if s.busy then .owes n id .refuser else .admitted n id
      | g => g
    | .recv, .ok (n, text) =>
      match call_of cfg text with
      | some id => .got n id
      | none => g
    | .create_call .., _ => .free
    | .cancel (.call n), _ => .cancelling n
    | .claim_terminal n, some id => g.claimed n id
    | .claim_terminal _, none => g.spared
    | .wait_lock (some _), .error _ => g.paid
    | .ws_write (some _) _, _ => g.paid
    | .begin_call, .ok (id, params) =>
      match g with
      | .fresh n => if acceptable cfg id params then .given n id else .lost n
      | g => g
    | .begin_call, .error _ =>
      match g with
      | .fresh n => .lost n
      | g => g
    | .open_entry .., _ =>
      match g with
      | .given n id => .opened n id
      | g => g
    | .admission_check, r => g.after r
    | .sdk_open, r => g.after r
    | .sdk_result .., r => g.after r
    | .relay_cancel _, r => g.after r
    | _, _ => g

/-- How a task may end. -/
def Settled {α : Type} (g : Duty) (_ : α) : Prop := g.steady = true

/-! ## Requests that concern no answer -/

variable {cfg} {g : Duty} {n : Nat} {id : Python.Value}

theorem Duty.Easy.steady (easy : g.Easy) : g.steady = true := by
  rcases easy with rfl | ⟨_, rfl⟩
  · rfl
  · rfl

theorem Duty.Easy.idle (easy : g.Easy) : g.Idle := .inl easy.steady

theorem cut_of_steady (steady : g.steady = true) : g.cut = g := by
  cases g with
  | opened => cases steady
  | _ => rfl

theorem after_of_steady {α : Type} (steady : g.steady = true) (r : Except Raised α) :
    g.after r = g := by
  unfold Duty.after
  split
  · exact cut_of_steady steady
  · rfl

theorem sending_of_steady (steady : g.steady = true) : g.sending = true := by
  cases g with
  | owes => rfl
  | _ => exact steady

theorem plain_steady {β : Type} (e : ProvOp κ β) (plain : e.plain = true)
    (steady : g.steady = true) :
    (answers cfg).allows g e ∧ ∀ b, (answers cfg).next g e b = g := by
  cases e with
  | look =>
    refine ⟨trivial, fun _ => ?_⟩
    cases g with
    | got => cases steady
    | _ => rfl
  | try_lock => exact ⟨sending_of_steady steady, fun _ => rfl⟩
  | wait_lock call =>
    cases call with
    | none => exact ⟨.inl steady, fun _ => rfl⟩
    | some n => cases plain
  | ws_write call frame =>
    cases call with
    | none => exact ⟨.inl steady, fun _ => rfl⟩
    | some n => cases plain
  | admission_check => exact ⟨.inl steady, after_of_steady steady⟩
  | set_flag | unlock | create_run | defer_reply | fetch_tools | registered | reap | ws_drain
  | ws_close | set_tools | expect | resolve => exact ⟨.inl steady, fun _ => rfl⟩
  | _ => cases plain

variable {I : Duty → Prop}

theorem retains_plain {α : Type} {p : Coroutine κ α} (plain : Plain p)
    (steady : ∀ g, I g → g.steady = true) : (answers cfg).Retains I p := by
  refine plain.retains fun {g} {γ} e holds here => ?_
  have both : (answers cfg).allows g e ∧ ∀ b, (answers cfg).next g e b = g :=
    plain_steady e here (steady g holds)
  obtain ⟨allowed, same⟩ := both
  refine ⟨allowed, fun b => ?_⟩
  rw [same b]
  exact holds

/-! ## Answers -/

/-- The answer to a call is written, or not, once. -/
theorem send_keeps {debtor : Debtor} {frame : Python.Value}
    (pays : (Duty.owes n id debtor).Pays n frame) :
    (answers cfg).Keeps (fun g _ => g = (Duty.owes n id debtor).paid)
      (fun g _ => g = (Duty.owes n id debtor).paid) (.owes n id debtor) (send (some n) frame) := by
  have steady : (Duty.owes n id debtor).paid.steady = true := by cases debtor <;> rfl
  refine keeps_sync_bind rfl fun free => ?_
  refine Protocol.Keeps.bind (Q := fun g _ => g = .owes n id debtor)
    (Protocol.Keeps.when (fun _ => keeps_await ⟨id, debtor, rfl⟩ (fun _ => rfl) fun _ => rfl)
      fun _ => rfl) ?_
  intro g _ same
  subst same
  have written : (answers cfg).Keeps (fun g _ => g = (Duty.owes n id debtor).paid)
      (fun g _ => g = (Duty.owes n id debtor).paid) (.owes n id debtor)
      (do await (.ws_write (some n) frame); await .ws_drain) := by
    refine keeps_await_bind pays (fun _ => ?_) fun _ => rfl
    exact keeps_await (Or.inl steady) (fun _ => rfl) fun _ => rfl
  refine written.attempt.bind fun g sent ends => ?_
  have same : g = (Duty.owes n id debtor).paid := by
    cases sent with
    | ok _ => exact ends
    | error _ => exact ends
  subst same
  exact keeps_sync_bind (Or.inl steady) fun _ => retains_rethrow sent _ rfl

theorem paid_claimed (claims : (answers cfg).allows g (.claim_terminal n)) :
    (g.claimed n id).paid = g.spared := by
  rcases claims with rfl | ⟨_, rfl⟩ | rfl
  · rfl
  · rfl
  · rfl

/-- An error is answered by whoever sets the flag. -/
theorem terminal_keeps {exc : Raised} (claims : (answers cfg).allows g (.claim_terminal n)) :
    (answers cfg).Keeps (fun g' _ => g' = g.spared) (fun g' _ => g' = g.spared) g
      (terminal n exc) := by
  refine keeps_sync_bind claims fun claimed => ?_
  cases claimed with
  | none => exact keeps_pure rfl
  | some id =>
    have owing : ∃ debtor, g.claimed n id = .owes n id debtor := by
      rcases claims with rfl | ⟨_, rfl⟩ | rfl
      · exact ⟨_, rfl⟩
      · exact ⟨_, rfl⟩
      · exact ⟨_, rfl⟩
    obtain ⟨debtor, owing⟩ := owing
    have pays : (Duty.owes n id debtor).Pays n (error_frame id exc) :=
      ⟨id, debtor, rfl, .inl (.inr ⟨exc, rfl⟩)⟩
    change (answers cfg).Keeps _ _ (g.claimed n id) _
    rw [← paid_claimed claims, owing]
    exact send_keeps pays

/-! ### The reading task -/

section Reading

theorem eases_plain {α : Type} {p : Coroutine κ α} (plain : Plain p) :
    (answers cfg).Retains Duty.Easy p :=
  retains_plain plain fun _ => Duty.Easy.steady

theorem send_sdk_cancel_keeps (idle : g.Idle) :
    (answers cfg).Keeps (fun g' _ => g' = g) (fun g' e => e = .CancelledError ∧ g' = g.cut) g
      (send_sdk_cancel cfg n) := by
  refine keeps_sync_bind idle fun claimed => ?_
  cases claimed with
  | none => exact keeps_pure rfl
  | some request =>
    have told : (answers cfg).Keeps (fun g' _ => g' = g)
        (fun g' e => g' = g.after (α := Unit) (.error e)) g
        (if cfg.relay then await (.relay_cancel request) else throw .TransportError) := by
      split
      · exact keeps_await idle (fun _ => rfl) fun _ => rfl
      · exact keeps_throw rfl
    refine told.attempt.bind fun g' r ends => ?_
    cases r with
    | ok _ => exact keeps_pure ends
    | error e =>
      cases e with
      | CancelledError => exact keeps_throw ⟨rfl, ends⟩
      | _ => exact keeps_pure ends

theorem eases_send_sdk_cancel : (answers cfg).Retains Duty.Easy (send_sdk_cancel cfg n) := by
  intro g easy
  refine (send_sdk_cancel_keeps easy.idle).mono (fun g' _ same => same ▸ easy) fun g' _ ends => ?_
  rw [ends.2, cut_of_steady easy.steady]
  exact easy

/-- The call whose task was cancelled is answered. -/
theorem terminal_cancelled {exc : Raised} :
    (answers cfg).Keeps (fun g _ => g = .sent n) (fun g _ => g = .sent n) (.cancelling n)
      (terminal n exc) :=
  terminal_keeps (Or.inl rfl : (answers cfg).allows (.cancelling n) (.claim_terminal n))

theorem eases_settle_tasks : (answers cfg).Retains Duty.Easy (settle_tasks : Coroutine κ Unit) := by
  refine (eases_plain (makes_sync rfl)).bind fun s => ?_
  refine (retains_await fun g easy => ⟨easy.idle, fun _ => easy⟩).attempt.bind fun r => ?_
  split
  · exact retains_sync fun g easy => ⟨easy.idle, fun _ => easy⟩
  · exact (eases_plain (makes_sync rfl)).bind fun _ => retains_throw _

theorem eases_request_cancel :
    (answers cfg).Retains Duty.Easy (sync (.request_cancel n) : Coroutine κ Unit) :=
  retains_sync fun _ easy => ⟨easy.idle, fun _ => easy⟩

theorem eases_cancel_each (pending : List (κ × Nat)) :
    (answers cfg).Retains Duty.Easy (cancel_each cfg pending) := by
  induction pending with
  | nil => exact retains_pure ()
  | cons entry rest ih =>
    refine eases_request_cancel.bind fun _ => eases_send_sdk_cancel.bind fun _ => fun g easy => ?_
    refine keeps_sync_bind ⟨easy, _, rfl⟩ fun _ => ?_
    refine (terminal_cancelled.mono (fun g _ same => ?_) fun g _ same => ?_).bind
      fun g _ easy => ih g easy
    · exact .inr ⟨_, same⟩
    · exact .inr ⟨_, same⟩

theorem eases_end_each (pending : List (κ × Nat)) :
    (answers cfg).Retains Duty.Easy (end_each pending) := by
  induction pending with
  | nil => exact retains_pure ()
  | cons entry rest ih =>
    refine eases_request_cancel.bind fun _ => fun g easy => ?_
    refine keeps_sync_bind ⟨easy, _, rfl⟩ fun _ => ?_
    refine terminal_cancelled.attempt.bind fun g r ends => ?_
    have easy : g.Easy := by
      cases r with
      | ok _ => exact .inr ⟨_, ends⟩
      | error _ => exact .inr ⟨_, ends⟩
    split
    · exact keeps_throw easy
    · exact ih g easy

theorem eases_handle_shutdown (mid : Python.Value) :
    (answers cfg).Retains Duty.Easy (handle_shutdown cfg mid) := by
  refine (eases_plain (makes_sync rfl)).bind fun s => ?_
  split
  · exact retains_pure ()
  · refine (eases_plain (makes_sync rfl)).bind fun _ => (eases_cancel_each _).bind fun _ => ?_
    refine eases_settle_tasks.bind fun _ => (eases_plain plain_cleanup_own_child).bind fun _ => ?_
    split
    · exact eases_plain ((makes_sync rfl).bind fun _ => makes_sync rfl)
    · exact eases_plain (plain_say_bye cfg mid)

theorem eases_on_transport_end : (answers cfg).Retains Duty.Easy (on_transport_end cfg) := by
  refine (eases_plain (makes_sync rfl)).bind fun s => ?_
  split
  · exact retains_pure ()
  · refine (eases_plain (makes_sync rfl)).bind fun _ => (eases_end_each _).bind fun _ => ?_
    exact eases_settle_tasks.bind fun _ => (eases_plain plain_cleanup_own_child).bind fun _ =>
      eases_plain (plain_close_transport cfg)

theorem eases_handle_cancel (params : Python.Value) :
    (answers cfg).Retains Duty.Easy (handle_cancel cfg params) := by
  refine (retains_rethrow _).bind fun entries => ?_
  split
  · exact retains_throw _
  · refine (eases_plain (makes_sync rfl)).bind fun s => ?_
    split
    · exact retains_pure ()
    · rename_i m _
      refine eases_request_cancel.bind fun _ => eases_send_sdk_cancel.bind fun _ => fun g easy => ?_
      refine keeps_sync_bind ⟨easy, m, rfl⟩ fun _ => ?_
      refine (terminal_cancelled.mono (fun _ _ same => same) fun g _ same => ?_).bind
        fun g _ same => ?_
      · exact .inr ⟨m, same⟩
      · have easy : g.Easy := .inr ⟨m, same⟩
        exact keeps_await ⟨m, same, rfl⟩ (fun _ => easy) fun _ => easy

/-- A call with an id is answered at once or gets its task. -/
theorem accept_call_keeps (params : Python.Value) :
    (answers cfg).Keeps (fun g _ => g.Easy) (fun g _ => g.Easy) (.got n id)
      (accept_call n id params) := by
  refine keeps_sync_bind trivial fun s => ?_
  change (answers cfg).Keeps _ _ (if s.busy then .owes n id .refuser else .admitted n id) _
  split
  · exact (send_keeps ⟨id, .refuser, rfl, .inl (.inr ⟨.InvalidParams, rfl⟩)⟩).mono
      (fun _ _ same => .inl same) fun _ _ same => .inl same
  · exact keeps_sync rfl fun _ => .inl rfl

/-- What the reading task has to do for a frame. -/
def Duty.read (g : Duty) (n : Nat) : Option Python.Value → Duty
  | some id => .got n id
  | none => g

theorem on_request_keeps (easy : g.Easy) (msg : Entries) :
    (answers cfg).Keeps (fun g _ => g.Easy) (fun g _ => g.Easy) (g.read n (message_call msg))
      (on_request cfg n msg) := by
  unfold on_request message_call
  dsimp only
  cases Method.of ((Python.get msg "method").getD .None) with
  | tool_call =>
    cases Python.get msg "id" with
    | none => exact retains_pure () g easy
    | some id =>
      simp only [Option.getD_some, Option.filter_some]
      cases is_none id with
      | true => exact retains_pure () g easy
      | false => exact accept_call_keeps _
  | tool_cancel => exact eases_handle_cancel _ g easy
  | session_shutdown => exact eases_handle_shutdown _ g easy
  | ping => exact Protocol.Retains.when (fun _ => eases_plain (plain_send _)) g easy
  | other => exact Protocol.Retains.when (fun _ => eases_plain (plain_send _)) g easy

theorem on_frame_keeps (easy : g.Easy) (text : Str) :
    (answers cfg).Keeps (fun g _ => g.Easy) (fun g _ => g.Easy) (g.read n (call_of cfg text))
      (on_frame cfg n text) := by
  unfold on_frame call_of
  split
  · exact retains_throw _ g easy
  · cases cfg.rules.loads text with
    | error e =>
      cases e with
      | ValueError => exact retains_pure () g easy
      | RecursionError => exact retains_throw _ g easy
    | ok value =>
      cases value with
      | dict msg =>
        dsimp only
        split
        · exact on_request_keeps easy msg
        · exact Protocol.Retains.when (fun _ => eases_plain (plain_on_response cfg msg)) g easy
      | _ => exact retains_pure () g easy

theorem eases_receive (rounds : Nat) : (answers cfg).Retains Duty.Easy (receive cfg rounds) := by
  induction rounds with
  | zero =>
    exact (eases_plain (makes_sync rfl)).bind fun s => Protocol.Retains.when fun _ =>
      retains_await fun g easy => ⟨easy.idle, fun _ => easy⟩
  | succ rounds ih =>
    refine (eases_plain (makes_sync rfl)).bind fun s => ?_
    split
    · exact retains_pure ()
    · intro g easy
      refine keeps_await_bind easy (fun frame => ?_) fun _ => easy
      have read : (answers cfg).next g .recv (.ok frame) = g.read frame.1 (call_of cfg frame.2) := by
        change (match call_of cfg frame.2 with
          | some id => Duty.got frame.1 id
          | none => g) = _
        cases call_of cfg frame.2 <;> rfl
      rw [read]
      exact (on_frame_keeps easy frame.2).bind fun g _ easy => ih g easy

theorem eases_run (rounds : Nat) : (answers cfg).Retains Duty.Easy (run cfg rounds) := by
  refine (eases_receive rounds).attempt.bind fun ended => eases_on_transport_end.bind fun _ => ?_
  split
  · exact retains_throw _
  · exact retains_pure ()

theorem eases_own_route : (answers cfg).Retains Duty.Easy (own_route cfg) := by
  have relayed : (answers cfg).Retains Duty.Easy (do
      register cfg
      await .route_wait) :=
    (eases_plain (plain_register cfg)).bind fun _ =>
      retains_await fun g easy => ⟨easy.idle, fun _ => easy⟩
  have joined : (answers cfg).Retains Duty.Easy (do
      on_transport_end cfg
      let s ← sync .look
      when (s.created .loop) (await .join_loop)) :=
    eases_on_transport_end.bind fun _ => (eases_plain (makes_sync rfl)).bind fun s =>
      Protocol.Retains.when fun _ => retains_await fun g easy => ⟨easy.idle, fun _ => easy⟩
  refine relayed.attempt.bind fun _ => (eases_plain (makes_sync rfl)).bind fun _ => ?_
  refine joined.attempt.bind fun _ => (eases_plain (makes_sync rfl)).bind fun _ => ?_
  exact (eases_plain (makes_await rfl)).bind fun _ => (retains_rethrow _).bind fun _ =>
    retains_rethrow _

end Reading

/-! ### Between two awaits -/

/-- What was not cancelled: `CancelledError` is raised by awaits only. -/
def Uncancelled {α : Type} (r : Except Raised α) : Prop := r ≠ .error .CancelledError

section Uncancelled

variable {α β : Type} {r : Except Raised α} {f : α → Except Raised β}

theorem uncancelled_ok (a : α) : Uncancelled (.ok a) := nofun

theorem Uncancelled.bind (first : Uncancelled r) (second : ∀ a, Uncancelled (f a)) :
    Uncancelled (r >>= f) := by
  cases r with
  | ok a => exact second a
  | error e =>
    intro same
    cases same
    exact first rfl

theorem uncancelled_mapM (each : ∀ a, Uncancelled (f a)) (items : List α) :
    Uncancelled (items.mapM f) := by
  induction items with
  | nil => exact uncancelled_ok []
  | cons first items ih =>
    rw [List.mapM_cons]
    exact (each first).bind fun _ => ih.bind fun _ => uncancelled_ok _

theorem uncancelled_foldlM {f : β → α → Except Raised β} (each : ∀ b a, Uncancelled (f b a))
    (items : List α) (b : β) : Uncancelled (items.foldlM f b) := by
  induction items generalizing b with
  | nil => exact uncancelled_ok b
  | cons first items ih =>
    rw [List.foldlM_cons]
    exact (each b first).bind ih

theorem uncancelled_mapM_option (each : ∀ a, Uncancelled (f a)) (item : Option α) :
    Uncancelled (item.mapM f) := by
  cases item with
  | none => exact uncancelled_ok none
  | some a => exact (each a).bind fun _ => uncancelled_ok _

end Uncancelled

section Rules

variable {rules : CallRules} {args : Arguments} {connection_id : Str} {raw : Entries}

theorem uncancelled_admitted_tool {public_name : Python.Value} :
    Uncancelled (admitted_tool rules public_name args) := by
  unfold admitted_tool
  repeat' split
  all_goals exact nofun

theorem uncancelled_bound_arguments {call : PreparedCall} :
    Uncancelled (bound_arguments rules connection_id call args) := by
  unfold bound_arguments
  dsimp only
  repeat' split
  all_goals exact nofun

/-- `is_valid` validates a schema, and awaits nothing. -/
def Synchronous (rules : CallRules) : Prop :=
  ∀ schema args, Uncancelled (rules.is_valid schema args)

theorem uncancelled_prepare {tools : Option Descriptors} {public_name : Python.Value}
    (synchronous : Synchronous rules) :
    Uncancelled (prepare rules connection_id tools public_name args) := by
  refine uncancelled_admitted_tool.bind fun named => uncancelled_bound_arguments.bind fun clean => ?_
  refine Uncancelled.bind ?_ fun _ => uncancelled_ok _
  unfold check_schema
  split
  · exact nofun
  · refine (synchronous _ _).bind fun valid => ?_
    split
    · exact uncancelled_ok ()
    · exact nofun

theorem uncancelled_iterate (value : Option Python.Value) : Uncancelled (iterate value) := by
  unfold iterate
  split
  all_goals exact nofun

theorem uncancelled_loaded (value : Python.Value) : Uncancelled (loaded rules value) := by
  unfold loaded
  repeat' split
  all_goals exact nofun

theorem uncancelled_own_row (rows : List Python.Value) :
    Uncancelled (own_row rules connection_id rows) := by
  unfold own_row
  repeat' split
  all_goals exact nofun

theorem uncancelled_projected (value : Python.Value) :
    Uncancelled (projected rules connection_id value) := by
  unfold projected
  split
  · split
    · split
      · exact (uncancelled_own_row _).bind fun _ => uncancelled_ok _
      · exact nofun
    · exact nofun
  · exact nofun

theorem uncancelled_mapped_result : Uncancelled (mapped_result raw) := by
  refine (uncancelled_iterate _).bind fun blocks => ?_
  refine (uncancelled_mapM (fun block => ?_) blocks).bind fun _ => uncancelled_ok _
  unfold mapped_block
  repeat' split
  all_goals exact nofun

theorem uncancelled_map_tool_result {own_connection : Option Str} :
    Uncancelled (map_tool_result rules raw own_connection) := by
  refine uncancelled_mapped_result.bind fun mapped => ?_
  cases own_connection with
  | none => exact uncancelled_ok _
  | some connection_id =>
    refine (uncancelled_mapM (fun block => ?_) _).bind fun values => ?_
    · cases block with
      | text value => exact uncancelled_loaded value
      | json value => exact uncancelled_ok value
    · dsimp only
      split
      · split
        · exact uncancelled_ok _
        · exact nofun
      · split
        · exact nofun
        · refine (uncancelled_mapM_option uncancelled_projected _).bind fun _ => ?_
          refine (uncancelled_mapM (fun block => ?_) _).bind fun _ => uncancelled_ok _
          cases block with
          | text value =>
            exact (uncancelled_loaded value).bind fun loaded =>
              (uncancelled_projected loaded).bind fun _ => uncancelled_ok _
          | json value => exact (uncancelled_projected value).bind fun _ => uncancelled_ok _

theorem uncancelled_opened_connection {mapped : Mapped} :
    Uncancelled (opened_connection rules mapped) := by
  refine Uncancelled.bind ?_ fun response => ?_
  · unfold connect_response
    split
    · exact uncancelled_ok _
    · refine uncancelled_foldlM (fun response block => ?_) _ _
      repeat' split
      all_goals exact nofun
  · repeat' split
    all_goals exact nofun

end Rules

/-! ### The task of a call -/

/-- How the body of a call raises: it was cancelled, or it still is to answer. -/
def Raises (n : Nat) (id : Python.Value) (g : Duty) (e : Raised) : Prop :=
  g = .answered n ∨ g = .opened n id ∧ e ≠ .CancelledError

theorem raises_after {α : Type} (e : Raised) :
    Raises n id ((Duty.opened n id).after (.error e : Except Raised α)) e := by
  cases e with
  | CancelledError => exact .inl rfl
  | _ => exact .inr ⟨rfl, nofun⟩

theorem idle_opened : (Duty.opened n id).Idle := .inr ⟨n, id, rfl⟩

/-- What is raised between two awaits leaves the call to be answered. -/
theorem rethrow_keeps {α : Type} {r : Except Raised α} (uncancelled : Uncancelled r) :
    (answers cfg).Keeps (fun g _ => g = .opened n id) (Raises n id) (.opened n id) (rethrow r) := by
  refine keeps_rethrow ?_
  cases r with
  | ok a => rfl
  | error e => exact .inr ⟨rfl, fun same => uncancelled (same ▸ rfl)⟩

theorem sync_keeps {α : Type} {e : ProvOp κ α} (allowed : (answers cfg).allows (.opened n id) e)
    (same : ∀ a, (answers cfg).next (.opened n id) e a = .opened n id) :
    (answers cfg).Keeps (fun g _ => g = .opened n id) (Raises n id) (.opened n id) (sync e) :=
  keeps_sync allowed same

theorem invoke_keeps {name : String} {arguments : Arguments} :
    (answers cfg).Keeps (fun g _ => g = .opened n id) (Raises n id) (.opened n id)
      (invoke name arguments) := by
  refine keeps_await_bind idle_opened (fun _ => ?_) fun e => raises_after e
  refine keeps_sync_bind idle_opened fun request => ?_
  have told : (answers cfg).Keeps (fun g _ => g = .opened n id) (Raises n id) (.opened n id)
      (on_sdk_call_id request) := by
    refine keeps_sync_bind idle_opened fun captured => ?_
    cases captured with
    | none => exact keeps_pure rfl
    | some m => exact sync_keeps idle_opened fun _ => rfl
  refine told.bind fun g _ same => ?_
  subst same
  exact keeps_await idle_opened (fun _ => rfl) fun e => raises_after e

theorem rebind_keeps {call : PreparedCall} {mapped : Mapped} :
    (answers cfg).Keeps (fun g _ => g = .opened n id) (Raises n id) (.opened n id)
      (rebind cfg call mapped) := by
  refine Protocol.Keeps.bind (Q := fun g _ => g = .opened n id) (Protocol.Keeps.when (fun _ => ?_)
    fun _ => rfl) fun g _ same => ?_
  · refine (rethrow_keeps uncancelled_opened_connection).bind fun g id' same => ?_
    subst same
    exact sync_keeps idle_opened fun _ => rfl
  · subst same
    exact Protocol.Keeps.when (fun _ => sync_keeps idle_opened fun _ => rfl) fun _ => rfl

/-- The body of a call answers it, or raises. -/
theorem dispatch_body_keeps (synchronous : Synchronous cfg.rules) {name : Python.Value}
    {args : Arguments} :
    (answers cfg).Keeps (fun g _ => g = .answered n) (Raises n id) (.opened n id)
      (dispatch_body cfg n id name args) := by
  refine keeps_sync_bind trivial fun s => ?_
  change (answers cfg).Keeps _ _ (.opened n id) _
  split
  · exact keeps_throw (.inr ⟨rfl, nofun⟩)
  · refine Protocol.Keeps.bind (Q := fun g _ => g = .opened n id) (Protocol.Keeps.when
      (fun _ => keeps_await idle_opened (fun _ => rfl) fun e => raises_after e) fun _ => rfl)
      fun g _ same => ?_
    subst same
    refine keeps_sync_bind trivial fun s => ?_
    refine (rethrow_keeps (uncancelled_prepare synchronous)).bind fun g call same => ?_
    subst same
    refine keeps_sync_bind idle_opened fun _ => ?_
    split
    · exact keeps_throw (.inr ⟨rfl, nofun⟩)
    · refine invoke_keeps.bind fun g raw same => ?_
      subst same
      refine keeps_sync_bind trivial fun s => ?_
      refine (rethrow_keeps uncancelled_map_tool_result).bind fun g mapped same => ?_
      subst same
      refine rebind_keeps.bind fun g _ same => ?_
      subst same
      refine keeps_sync_bind (Or.inr (Or.inl ⟨id, rfl⟩)) fun claimed => ?_
      cases claimed with
      | none => exact keeps_pure rfl
      | some id' =>
        refine (send_keeps ⟨id', .own id, rfl, .inr ⟨id, rfl, .inl ⟨_, rfl⟩⟩⟩).mono
          (fun _ _ same => same) fun _ _ same => .inl same

/-- The flag was set, or the call is to be answered. -/
def Unanswered (n : Nat) (id : Python.Value) (g : Duty) : Prop := g = .answered n ∨ g = .opened n id

theorem terminal_own {exc : Raised} (unanswered : Unanswered n id g) :
    (answers cfg).Keeps (fun g _ => g = .answered n) (fun g _ => g = .answered n) g
      (terminal n exc) := by
  rcases unanswered with rfl | rfl
  · exact terminal_keeps (Or.inr (Or.inr rfl) : (answers cfg).allows (.answered n) (.claim_terminal n))
  · exact terminal_keeps (Or.inr (Or.inl ⟨id, rfl⟩) :
      (answers cfg).allows (.opened n id) (.claim_terminal n))

theorem Unanswered.idle (unanswered : Unanswered n id g) : g.Idle := by
  rcases unanswered with rfl | rfl
  · exact .inl rfl
  · exact idle_opened

theorem dispatch_except_keeps {ended : Except Raised Unit}
    (ends : Ends (fun g _ => g = .answered n) (Raises n id) g ended) :
    (answers cfg).Keeps (fun g _ => g = .answered n) (fun g _ => g = .answered n) g
      (dispatch_except cfg n ended) := by
  cases ended with
  | ok _ => exact keeps_pure ends
  | error e =>
    have unanswered : Unanswered n id g := ends.imp_right And.left
    cases e with
    | CancelledError =>
      rcases ends with same | ⟨-, other⟩
      · exact keeps_pure same
      · exact absurd rfl other
    | TimeoutError =>
      have same : (answers cfg).next g (.request_cancel n) () = g := rfl
      refine keeps_sync_bind unanswered.idle fun _ => ?_
      refine ((send_sdk_cancel_keeps unanswered.idle).mono (fun _ _ same => same)
        fun g' _ cut => ?_).bind fun g' _ same => ?_
      · rw [cut.2]
        rcases unanswered with rfl | rfl
        · rfl
        · rfl
      · subst same
        exact terminal_own unanswered
    | _ => exact terminal_own unanswered

/-- A call that is acceptable is answered; the others are lost. -/
theorem dispatch_call_keeps (synchronous : Synchronous cfg.rules) {params : Python.Value} :
    (answers cfg).Keeps (fun g _ => g.steady = true) (fun g _ => g.steady = true)
      (if acceptable cfg id params then .given n id else .lost n) (dispatch_call cfg n id params) := by
  unfold acceptable dispatch_call
  cases call_arguments cfg.hash params with
  | error e => exact keeps_throw rfl
  | ok call =>
    simp only
    cases cfg.hash id with
    | none => exact keeps_throw rfl
    | some key =>
      refine keeps_sync_bind rfl fun _ => ?_
      refine (dispatch_body_keeps synchronous).attempt.bind fun g ended ends => ?_
      refine (dispatch_except_keeps ends).attempt.bind fun g outcome ends => ?_
      have answered : g = .answered n := by
        cases outcome with
        | ok _ => exact ends
        | error _ => exact ends
      subst answered
      exact keeps_sync_bind (Or.inl rfl) fun _ => retains_rethrow outcome _ rfl

/-! ### The pool -/

/-- What each task has to do at first. -/
def Duty.start : TaskId → Duty
  | .main | .loop => .free
  | .call n => .fresh n
  | .notify _ | .reader => .bystander

theorem run_follows {coroutine : Coroutine κ Unit}
    (keeps : (answers cfg).Keeps (fun g _ => g.steady = true) (fun g _ => g.steady = true) g coroutine) :
    (answers cfg).Follows Settled g coroutine.run := by
  refine Protocol.Follows.mono (fun g ended ends => ?_) keeps
  cases ended with
  | ok _ => exact ends
  | error _ => exact ends

theorem task_follows {coroutine : Coroutine κ Unit}
    (keeps : (answers cfg).Keeps (fun g _ => g.steady = true) (fun g _ => g.steady = true) g coroutine) :
    (answers cfg).Follows Settled g (task coroutine) :=
  (run_follows keeps).bind fun _ _ steady =>
    ⟨.inl steady, fun _ => ⟨.inl steady, fun _ => steady⟩⟩

theorem keeps_of_eases {coroutine : Coroutine κ Unit} (eases : (answers cfg).Retains Duty.Easy coroutine) :
    (answers cfg).Keeps (fun g _ => g.steady = true) (fun g _ => g.steady = true) .free coroutine :=
  (eases .free (.inl rfl)).mono (fun _ _ => Duty.Easy.steady) fun _ _ => Duty.Easy.steady

/-- Every task keeps to its duties. -/
theorem follows_duty (synchronous : Synchronous cfg.rules) (rounds : Nat) (i : TaskId) :
    (answers cfg).Follows Settled (Duty.start i) (route_tasks cfg rounds i) := by
  cases i with
  | main => exact run_follows (keeps_of_eases eases_own_route)
  | loop =>
    refine task_follows (keeps_of_eases ?_)
    exact (retains_await fun g easy => ⟨easy.steady, fun _ => easy⟩).bind fun _ => eases_run rounds
  | call n =>
    refine task_follows ?_
    refine keeps_await_bind ⟨n, rfl⟩ (fun call => ?_) fun _ => rfl
    exact dispatch_call_keeps synchronous
  | notify n =>
    refine task_follows ?_
    refine keeps_await_bind rfl (fun _ => ?_) fun _ => rfl
    refine (send_sdk_cancel_keeps (.inl rfl)).mono (fun g _ same => ?_) fun g _ cut => ?_
    · subst same
      rfl
    · rw [cut.2]
      rfl
  | reader =>
    refine run_follows ?_
    refine keeps_await_bind (.inl rfl) (fun _ => ?_) fun _ => rfl
    exact keeps_sync_bind (.inl rfl) fun _ => keeps_sync (.inl rfl) fun _ => rfl

end SessionManager.Provider
