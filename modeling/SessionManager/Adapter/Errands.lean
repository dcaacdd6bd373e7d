import SessionManager.Adapter.Tasks

/-!
# What the tasks of a route do for the SDK

A call notes in `_capture_queue` that the next request of the SDK will be its own, takes the note
back when it ends, and a request is called off by whoever was told to (`errands`).  The tasks keep to
that (`follows_errands`).
-/

namespace SessionManager.Provider

open Python (Str Entries)

open Effect

variable {κ : Type}

/-! ## Errands -/

/-- How far a task is with the SDK's request. -/
inductive Life
  /-- It waits for no id; a call has its own number. -/
  | running (own : Option Nat)
  /-- The call is in `_capture_queue`, or its id was noted meanwhile. -/
  | queued (n : Nat)
  /-- The request of the call has this id. -/
  | asked (n request : Nat)
  | finished
  | gone

/-- What a task has to tell the SDK. -/
inductive Tell
  | nothing
  /-- The entry's `cancel_requested` is set. -/
  | flagged (n : Nat)
  /-- The entry's `cancel_sent` is set, and the request has this id. -/
  | telling (request : Nat)
  /-- The task is there to call off the request of the entry, and has not begun. -/
  | unbegun (n : Nat)
  | notifier (n : Nat)

structure Errand where
  life : Life
  tell : Tell

def Life.live : Life → Bool
  | .running _ | .queued _ => true
  | _ => false

/-- What is not done next is not done by this task. -/
def Tell.rest : Tell → Tell
  | .unbegun n => .unbegun n
  | .notifier n => .notifier n
  | _ => .nothing

def Tell.begun : Tell → Tell
  | .unbegun n => .notifier n
  | tell => tell.rest

/-- The notes that the tasks take and what they tell the SDK, as an automaton over their requests. -/
def errands : Protocol (ProvOp κ) Errand where
  allows g _
    | .finish => ∃ own, g.life = .running own
    | .discard => g.life = .finished
    | .queue_capture n => g.life = .running (some n)
    | .next_request => ∃ n, g.life = .queued n
    | .capture request => ∃ n, g.life = .asked n request
    | .close_entry n _ => g.life = .running (some n) ∨ g.life = .queued n
    | .create_notify n => g.life.live = true ∧ g.tell = .flagged n
    | .claim_cancel n => g.life.live = true ∧ (g.tell = .flagged n ∨ g.tell = .notifier n)
    | .relay_cancel request => g.life.live = true ∧ g.tell = .telling request
    | _ => g.life.live = true
  next g _
    | .finish, _ => { g with life := .finished }
    | .discard, _ => { g with life := .gone }
    | .queue_capture n, _ => ⟨.queued n, g.tell.rest⟩
    | .next_request, request =>
      match g.life with
      | .queued n => ⟨.asked n request, g.tell.rest⟩
      | _ => g
    | .capture _, captured =>
      match g.life with
      | .asked n _ => ⟨.running (some n), captured.elim g.tell.rest .flagged⟩
      | _ => g
    | .close_entry n _, _ => ⟨.running (some n), g.tell.rest⟩
    | .request_cancel n, _ => { g with tell := .flagged n }
    | .claim_cancel _, some request => { g with tell := .telling request }
    | .begin, .ok _ => { g with tell := g.tell.begun }
    | _, _ => { g with tell := g.tell.rest }

/-- The task goes on with its life. -/
def At (l : Life) (g : Errand) : Prop := g.life = l

/-- Requests that have nothing to do with the SDK's requests. -/
def ordinary : ∀ {β : Type}, ProvOp κ β → Bool
  | _, .finish | _, .discard | _, .queue_capture _ | _, .next_request | _, .capture _
  | _, .close_entry .. | _, .create_notify _ | _, .claim_cancel _ | _, .relay_cancel _ => false
  | _, _ => true

variable {g : Errand} {l : Life} {n : Nat} {α β : Type} {e : ProvOp κ β}

theorem ordinary_at (usual : ordinary e = true) (live : l.live = true) (here : At l g) :
    errands.allows g e ∧ ∀ b, At l (errands.next g e b) := by
  have alive : g.life.live = true := by rwa [show g.life = l from here]
  cases e with
  | finish | discard | queue_capture | next_request | capture | close_entry | create_notify
  | claim_cancel | relay_cancel => cases usual
  | begin =>
    refine ⟨alive, fun r => ?_⟩
    cases r with
    | ok _ => exact here
    | error _ => exact here
  | _ => exact ⟨alive, fun _ => here⟩

theorem ordinary_of_plain (plain : e.plain = true) : ordinary e = true := by
  cases e with
  | finish | discard | queue_capture | next_request | capture | close_entry | create_notify
  | claim_cancel | relay_cancel => cases plain
  | _ => rfl

/-- The coroutine makes ordinary requests only. -/
abbrev Ordinary (p : Coroutine κ α) : Prop := Makes (fun e => ordinary e = true) p

theorem Ordinary.at {p : Coroutine κ α} (usual : Ordinary p) (live : l.live = true) :
    errands.Retains (At l) p :=
  usual.retains fun _ here kind => ordinary_at kind live here

theorem Plain.ordinary {p : Coroutine κ α} (plain : Plain p) : Ordinary p :=
  Prog.Only.mono (fun _ => ordinary_of_plain) plain

/-! ## Coroutines -/

section Coroutines

variable {cfg : ProviderConfig κ}

theorem ordinary_send (call : Option Nat) (frame : Python.Value) :
    Ordinary (send call frame : Coroutine κ Unit) :=
  (makes_sync rfl).bind fun _ => (makes_await rfl).when.bind fun _ =>
    ((makes_await rfl).bind fun _ => makes_await rfl).attempt.bind fun _ =>
      (makes_sync rfl).bind fun _ => makes_rethrow _

theorem ordinary_terminal (n : Nat) (exc : Raised) : Ordinary (terminal n exc : Coroutine κ Unit) := by
  refine (makes_sync rfl).bind fun claimed => ?_
  cases claimed with
  | none => exact makes_pure ()
  | some id => exact ordinary_send _ _

theorem ordinary_settle_tasks : Ordinary (settle_tasks : Coroutine κ Unit) := by
  refine (makes_sync rfl).bind fun s => (makes_await rfl).attempt.bind fun r => ?_
  split
  · exact makes_sync rfl
  · exact (makes_sync rfl).bind fun _ => makes_throw _

theorem ordinary_end_each (pending : List (κ × Nat)) : Ordinary (end_each pending) := by
  induction pending with
  | nil => exact makes_pure ()
  | cons entry rest ih =>
    refine (makes_sync rfl).bind fun _ => (makes_sync rfl).bind fun _ =>
      (ordinary_terminal _ _).attempt.bind fun r => ?_
    split
    · exact makes_throw _
    · exact ih

theorem ordinary_on_transport_end : Ordinary (on_transport_end cfg) := by
  refine (makes_sync rfl).bind fun s => ?_
  split
  · exact makes_pure ()
  · exact (makes_sync rfl).bind fun _ => (ordinary_end_each _).bind fun _ =>
      ordinary_settle_tasks.bind fun _ => (Plain.ordinary plain_cleanup_own_child).bind fun _ =>
        Plain.ordinary (plain_close_transport cfg)

theorem ordinary_own_route [DecidableEq κ] : Ordinary (own_route cfg) := by
  have relayed : Ordinary (do
      register cfg
      await .route_wait) :=
    (Plain.ordinary (plain_register cfg)).bind fun _ => makes_await rfl
  have joined : Ordinary (do
      on_transport_end cfg
      let s ← sync .look
      when (s.created .loop) (await .join_loop)) :=
    ordinary_on_transport_end.bind fun _ => (makes_sync rfl).bind fun _ => (makes_await rfl).when
  exact relayed.attempt.bind fun _ => (makes_sync rfl).bind fun _ => joined.attempt.bind fun _ =>
    (makes_sync rfl).bind fun _ => (makes_await rfl).bind fun _ => (makes_rethrow _).bind fun _ =>
      makes_rethrow _

theorem ordinary_accept_call (n : Nat) (mid params : Python.Value) :
    Ordinary (accept_call n mid params : Coroutine κ Unit) := by
  refine (makes_sync rfl).bind fun s => ?_
  split
  · exact ordinary_send _ _
  · exact makes_sync rfl

/-- Who was told to calls the request of an entry off, at most once. -/
theorem send_sdk_cancel_at (live : l.live = true) (here : At l g)
    (told : g.tell = .flagged n ∨ g.tell = .notifier n) :
    errands.Keeps (fun g _ => At l g) (fun g _ => At l g) g (send_sdk_cancel cfg n) := by
  have alive : g.life.live = true := by rwa [show g.life = l from here]
  refine keeps_sync_bind ⟨alive, told⟩ fun claimed => ?_
  cases claimed with
  | none => exact keeps_pure here
  | some request =>
    have tells : errands.Keeps (fun g _ => At l g) (fun g _ => At l g)
        { g with tell := .telling request }
        (if cfg.relay then await (.relay_cancel request) else throw .TransportError :
          Coroutine κ Unit) := by
      split
      · exact keeps_await ⟨alive, rfl⟩ (fun _ => here) fun _ => here
      · exact keeps_throw here
    refine tells.attempt.bind fun g' r ends => ?_
    have here : At l g' := by
      cases r with
      | ok _ => exact ends
      | error _ => exact ends
    split
    · exact keeps_throw here
    · exact keeps_pure here

/-- The entry is flagged first. -/
theorem flag_cancel_bind {p : Coroutine κ α} (live : l.live = true) (rest : errands.Retains (At l) p) :
    errands.Retains (At l) (do
      sync (.request_cancel n)
      send_sdk_cancel cfg n
      p) := by
  intro g here
  have alive : g.life.live = true := by rwa [show g.life = l from here]
  refine keeps_sync_bind alive fun _ => Protocol.Keeps.bind ?_ fun g _ here => rest g here
  exact send_sdk_cancel_at live here (.inl rfl)

theorem cancel_each_at (live : l.live = true) (pending : List (κ × Nat)) :
    errands.Retains (At l) (cancel_each cfg pending) := by
  induction pending with
  | nil => exact retains_pure ()
  | cons entry rest ih =>
    exact flag_cancel_bind live ((Ordinary.at (makes_sync rfl) live).bind fun _ =>
      ((ordinary_terminal _ _).at live).bind fun _ => ih)

theorem handle_shutdown_at (live : l.live = true) (mid : Python.Value) :
    errands.Retains (At l) (handle_shutdown cfg mid) := by
  refine (Ordinary.at (makes_sync rfl) live).bind fun s => ?_
  split
  · exact retains_pure ()
  · refine (Ordinary.at (makes_sync rfl) live).bind fun _ => (cancel_each_at live _).bind fun _ => ?_
    refine (ordinary_settle_tasks.at live).bind fun _ =>
      ((Plain.ordinary plain_cleanup_own_child).at live).bind fun _ => ?_
    split
    · exact Ordinary.at ((makes_sync rfl).bind fun _ => makes_sync rfl) live
    · exact (Plain.ordinary (plain_say_bye cfg mid)).at live

/-! ### The task of a call -/

/-- The call waits for the id of its request, or does not. -/
def Waiting (n : Nat) (g : Errand) : Prop := At (.running (some n)) g ∨ At (.queued n) g

theorem Retains.waiting {p : Coroutine κ α} (retains : ∀ {l : Life}, l.live = true → errands.Retains (At l) p) :
    errands.Retains (Waiting n) p := by
  intro g waiting
  rcases waiting with here | here
  · exact (retains rfl g here).mono (fun _ _ => .inl) fun _ _ => .inl
  · exact (retains rfl g here).mono (fun _ _ => .inr) fun _ _ => .inr

/-- The id of its request is noted for the call, which was waiting for it. -/
theorem invoke_waits {name : String} {arguments : Arguments} (here : At (.queued n) g) :
    errands.Keeps (fun g _ => At (.running (some n)) g) (fun g _ => Waiting n g) g
      (invoke name arguments : Coroutine κ Entries) := by
  have alive : g.life.live = true := by rw [show g.life = .queued n from here]; rfl
  refine keeps_await_bind alive (fun _ => ?_) fun _ => .inr here
  obtain ⟨life, tell⟩ := g
  obtain rfl : life = .queued n := here
  refine keeps_sync_bind ⟨n, rfl⟩ fun request => ?_
  have noted : errands.Keeps (fun g _ => At (.running (some n)) g) (fun g _ => Waiting n g)
      ⟨.asked n request, tell.rest.rest⟩ (on_sdk_call_id request : Coroutine κ Unit) := by
    refine keeps_sync_bind ⟨n, rfl⟩ fun captured => ?_
    cases captured with
    | none => exact keeps_pure rfl
    | some m => exact keeps_sync ⟨rfl, rfl⟩ fun _ => rfl
  refine noted.bind fun g _ here => ?_
  exact (Ordinary.at (makes_await rfl) rfl g here).mono (fun _ _ here => here) fun _ _ => .inl

theorem ordinary_rebind (call : PreparedCall) (mapped : Mapped) : Ordinary (rebind cfg call mapped) :=
  ((makes_rethrow _).bind fun _ => makes_sync rfl).when.bind fun _ => (makes_sync rfl).when

theorem dispatch_body_waits {name ws_id : Python.Value} {args : Arguments}
    (here : At (.running (some n)) g) :
    errands.Keeps (fun g _ => At (.running (some n)) g) (fun g _ => Waiting n g) g
      (dispatch_body cfg n ws_id name args) := by
  have usual {γ : Type} {p : Coroutine κ γ} (makes : Ordinary p) {g : Errand}
      (here : At (.running (some n)) g) :
      errands.Keeps (fun g _ => At (.running (some n)) g) (fun g _ => Waiting n g) g p :=
    (makes.at rfl g here).mono (fun _ _ here => here) fun _ _ => .inl
  refine (usual (makes_sync rfl) here).bind fun g s here => ?_
  split
  · exact keeps_throw (.inl here)
  · refine (usual (makes_await rfl).when here).bind fun g _ here => ?_
    refine (usual (makes_sync rfl) here).bind fun g s here => ?_
    refine (usual (makes_rethrow _) here).bind fun g call here => ?_
    refine keeps_sync_bind here fun _ => ?_
    split
    · exact keeps_throw (.inr rfl)
    · refine Protocol.Keeps.bind (invoke_waits rfl) fun g raw here => ?_
      refine usual ((makes_sync rfl).bind fun s => (makes_rethrow _).bind fun mapped =>
        (ordinary_rebind call mapped).bind fun _ => (makes_sync rfl).bind fun claimed => ?_) here
      cases claimed with
      | none => exact makes_pure ()
      | some id => exact ordinary_send _ _

theorem dispatch_except_at (live : l.live = true) (ended : Except Raised Unit) :
    errands.Retains (At l) (dispatch_except cfg n ended) := by
  cases ended with
  | ok _ => exact retains_pure ()
  | error e =>
    cases e with
    | CancelledError => exact retains_pure ()
    | TimeoutError => exact flag_cancel_bind live ((ordinary_terminal _ _).at live)
    | _ => exact (ordinary_terminal _ _).at live

variable [DecidableEq κ]

/-- A call that has ended waits for no id. -/
theorem dispatch_call_at (ws_id params : Python.Value) :
    errands.Retains (At (.running (some n))) (dispatch_call cfg n ws_id params) := by
  refine (retains_rethrow _).bind fun call => ?_
  obtain ⟨name, args⟩ := call
  dsimp only
  intro g here
  split
  · exact keeps_throw here
  · have alive : g.life.live = true := by rw [show g.life = .running (some n) from here]; rfl
    refine keeps_sync_bind alive fun _ => ?_
    refine Protocol.Keeps.bind (Protocol.Keeps.attempt (dispatch_body_waits here)) fun g ended ends => ?_
    have waiting : Waiting n g := by
      cases ended with
      | ok _ => exact .inl ends
      | error _ => exact ends
    have kept : errands.Retains (Waiting n) (dispatch_except cfg n ended) :=
      Retains.waiting fun live => dispatch_except_at live ended
    refine Protocol.Keeps.bind (kept g waiting).attempt fun g outcome ends => ?_
    have waiting : Waiting n g := by
      cases outcome with
      | ok _ => exact ends
      | error _ => exact ends
    refine keeps_sync_bind waiting fun _ => ?_
    exact keeps_rethrow (by cases outcome <;> rfl)

/-! ### The reading task -/

theorem handle_cancel_at (live : l.live = true) (params : Python.Value) :
    errands.Retains (At l) (handle_cancel cfg params) := by
  refine (retains_rethrow _).bind fun entries => ?_
  split
  · exact retains_throw _
  · refine (Ordinary.at (makes_sync rfl) live).bind fun s => ?_
    split
    · exact retains_pure ()
    · exact flag_cancel_bind live ((Ordinary.at (makes_sync rfl) live).bind fun _ =>
        ((ordinary_terminal _ _).at live).bind fun _ => Ordinary.at (makes_await rfl) live)

theorem on_request_at (live : l.live = true) (n : Nat) (msg : Entries) :
    errands.Retains (At l) (on_request cfg n msg) := by
  unfold on_request
  dsimp only
  split
  · exact Protocol.Retains.when fun _ => (ordinary_accept_call _ _ _).at live
  · exact handle_cancel_at live _
  · exact handle_shutdown_at live _
  · exact Protocol.Retains.when fun _ => (ordinary_send _ _).at live
  · exact Protocol.Retains.when fun _ => (ordinary_send _ _).at live

theorem on_frame_at (live : l.live = true) (n : Nat) (text : Str) :
    errands.Retains (At l) (on_frame cfg n text) := by
  unfold on_frame
  split
  · exact retains_throw _
  · split
    · exact retains_pure ()
    · exact retains_throw _
    · split
      · exact on_request_at live n _
      · exact Protocol.Retains.when fun _ => (Plain.ordinary (plain_on_response cfg _)).at live
    · exact retains_pure ()

theorem receive_at (live : l.live = true) (rounds : Nat) :
    errands.Retains (At l) (receive cfg rounds) := by
  induction rounds with
  | zero => exact Ordinary.at ((makes_sync rfl).bind fun _ => (makes_await rfl).when) live
  | succ rounds ih =>
    refine (Ordinary.at (makes_sync rfl) live).bind fun s => ?_
    split
    · exact retains_pure ()
    · exact (Ordinary.at (makes_await rfl) live).bind fun frame =>
        (on_frame_at live frame.1 frame.2).bind fun _ => ih

theorem run_at (live : l.live = true) (rounds : Nat) : errands.Retains (At l) (run cfg rounds) := by
  refine (receive_at live rounds).attempt.bind fun ended =>
    (ordinary_on_transport_end.at live).bind fun _ => ?_
  split
  · exact retains_throw _
  · exact retains_pure ()

end Coroutines

/-! ## The pool -/

section Pool

variable [DecidableEq κ] {cfg : ProviderConfig κ}

/-- What each task is about at first. -/
def Errand.start : TaskId → Errand
  | .call n => ⟨.running (some n), .nothing⟩
  | .notify n => ⟨.running none, .unbegun n⟩
  | .main | .loop | .reader => ⟨.running none, .nothing⟩

omit [DecidableEq κ] in
theorem task_errands {coroutine : Coroutine κ Unit} {own : Option Nat}
    (keeps : errands.Keeps (fun g _ => At (.running own) g) (fun g _ => At (.running own) g) g coroutine) :
    errands.Follows (fun _ _ => True) g (task coroutine) := by
  refine Protocol.Follows.bind keeps fun g ended ends => ?_
  have here : At (.running own) g := by
    cases ended with
    | ok _ => exact ends
    | error _ => exact ends
  exact ⟨⟨own, here⟩, fun _ => ⟨rfl, fun _ => trivial⟩⟩

/-- Every task keeps to its errands. -/
theorem follows_errands (rounds : Nat) (i : TaskId) :
    errands.Follows (fun _ _ => True) (Errand.start i) (route_tasks cfg rounds i) := by
  cases i with
  | main =>
    exact Protocol.Follows.mono (fun _ _ _ => trivial)
      (ordinary_own_route.at (l := .running none) rfl _ rfl)
  | loop =>
    exact task_errands (((Ordinary.at (makes_await rfl) rfl).bind fun _ => run_at rfl rounds) _ rfl)
  | call n =>
    have begins : errands.Retains (At (.running (some n)))
        (await .begin_call : Coroutine κ (Python.Value × Python.Value)) :=
      Ordinary.at (makes_await rfl) rfl
    exact task_errands ((begins.bind fun given => dispatch_call_at given.1 given.2) _ rfl)
  | notify n =>
    exact task_errands (keeps_await_bind rfl
      (fun _ => send_sdk_cancel_at rfl rfl (.inr rfl)) fun _ => rfl)
  | reader =>
    exact Protocol.Follows.mono (fun _ _ _ => trivial)
      (Ordinary.at (l := .running none) ((makes_await rfl).bind fun _ => (makes_sync rfl).bind fun _ =>
        makes_sync rfl) rfl _ rfl)

end Pool

end SessionManager.Provider
