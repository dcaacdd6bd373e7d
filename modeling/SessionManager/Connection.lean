import Mathlib.Algebra.Group.Nat.Defs
import SessionManager.Effect.Prog
import SessionManager.Effect.Sync
import SessionManager.Protocol

/-!
# `ConnectionHandle`: correlation of outbound requests

One handle per WebSocket connection (`session_manager/connection.rs`).  Every
atomic load or store and every mutex critical section of the source is one
request of `ConnOp`; `ConnOp.apply` says what it does to the handle.  The
methods of the handle are programs over these requests, in the source's order.
-/

namespace SessionManager

open Json Effect

inductive ConnectionCallError
  | Rejected (error : JsonRpcError)
  | Timeout
  | Disconnected
  | WriterClosed
  deriving DecidableEq

inductive ConnectionState
  | Active
  | Disconnected
  deriving DecidableEq

/-- The handle, together with the two ends it talks to: the receiving half of
the outbound channel, which the writer task owns, and the one-shot channels
handed out to callers. -/
structure ConnectionHandle where
  /-- Whether the optional sender into the writer task is still in place. -/
  outbound_tx : Bool
  /-- The one-shot sender each outstanding request id waits on. -/
  pending : HashMap Id Nat
  next_id : Nat
  state : ConnectionState
  /-- Whether the writer task still owns the receiving half. -/
  writer_open : Bool
  /-- The messages the outbound channel accepted, oldest first. -/
  wire : List WireMessage
  oneshots : Arena (Oneshot RpcResult)

def ConnectionHandle.new : ConnectionHandle where
  outbound_tx := true
  pending := .empty
  next_id := 0
  state := .Active
  writer_open := true
  wire := []
  oneshots := .empty .new

namespace ConnectionHandle

def pending_len (h : ConnectionHandle) : Nat := h.pending.values.length

/-- What became of a message given to the outbound channel. -/
inductive Sent
  | accepted
  | receiver_gone
  | no_sender
  deriving DecidableEq

def drop_sender (h : ConnectionHandle) (tx : Nat) : ConnectionHandle :=
  { h with oneshots := h.oneshots.modify tx Oneshot.drop_sender }

/-- Remove a slot and drop its sender. -/
def remove_slot (h : ConnectionHandle) (id : Id) : ConnectionHandle :=
  match h.pending.get id with
  | some tx => { h with pending := h.pending.remove id }.drop_sender tx
  | none => h

/-- Fill a slot; a sender it held before is dropped. -/
def insert_slot (h : ConnectionHandle) (id : Id) (tx : Nat) : ConnectionHandle :=
  { h.remove_slot id with pending := h.pending.insert id tx }

def send_outbound (h : ConnectionHandle) (msg : WireMessage) : Sent × ConnectionHandle :=
  if h.outbound_tx then
    if h.writer_open then (.accepted, { h with wire := h.wire ++ [msg] })
    else (.receiver_gone, h)
  else (.no_sender, h)

end ConnectionHandle

open ConnectionHandle in
/-- The atomic sections of the handle's methods, and the two events of the world
around it: a caller drops its receiver, the writer task ends. -/
inductive ConnOp : Type → Type
  | load_state : ConnOp ConnectionState
  | store_disconnected : ConnOp Unit
  | fetch_add_id : ConnOp Nat
  | oneshot_channel : ConnOp Nat
  | pending_insert (id : Id) (tx : Nat) : ConnOp Unit
  | pending_remove (id : Id) : ConnOp Unit
  | pending_take (id : Id) : ConnOp (Option Nat)
  | oneshot_send (tx : Nat) (result : RpcResult) : ConnOp Bool
  | pending_drain : ConnOp (List Nat)
  | drop_senders (txs : List Nat) : ConnOp Unit
  | outbound_send (msg : WireMessage) : ConnOp Sent
  | outbound_take : ConnOp Unit
  | drop_receiver (rx : Nat) : ConnOp Unit
  | close_writer : ConnOp Unit

/-- One atomic section. -/
def ConnOp.apply (h : ConnectionHandle) : ∀ {β : Type}, ConnOp β → β × ConnectionHandle
  | _, .load_state => (h.state, h)
  | _, .store_disconnected => ((), { h with state := .Disconnected })
  -- `AtomicU64::fetch_add` wraps around
  | _, .fetch_add_id => (h.next_id, { h with next_id := (h.next_id + 1) % 2 ^ 64 })
  | _, .oneshot_channel => (h.oneshots.next, { h with oneshots := h.oneshots.alloc .new })
  | _, .pending_insert id tx => ((), h.insert_slot id tx)
  | _, .pending_remove id => ((), h.remove_slot id)
  | _, .pending_take id => (h.pending.get id, { h with pending := h.pending.remove id })
  | _, .oneshot_send tx result =>
      (((h.oneshots.cell tx).send result).1,
        { h with oneshots := h.oneshots.modify tx fun channel => (channel.send result).2 })
  | _, .pending_drain => (h.pending.values, { h with pending := .empty })
  | _, .drop_senders txs => ((), txs.foldl ConnectionHandle.drop_sender h)
  | _, .outbound_send msg => h.send_outbound msg
  | _, .outbound_take => ((), { h with outbound_tx := false })
  | _, .drop_receiver rx =>
      ((), { h with oneshots := h.oneshots.modify rx Oneshot.drop_receiver })
  | _, .close_writer => ((), { h with writer_open := false })

/-- The ids of the manager's namespace. -/
def mgr_id (n : Nat) : Id := .string ("mgr-" ++ toString n)

namespace ConnectionHandle

open Prog (perform)

def fresh_id : Prog ConnOp Id := do
  let n ← perform .fetch_add_id
  return mgr_id n

/-- Send a request without waiting for its response. -/
def dispatch_request (method : String) (params : Value) :
    Prog ConnOp (Except ConnectionCallError (Id × Nat)) := do
  match ← perform .load_state with
  | .Disconnected => return .error .Disconnected
  | .Active =>
    let id ← fresh_id
    let rx ← perform .oneshot_channel
    perform (.pending_insert id rx)
    match ← perform (.outbound_send (.request id method params)) with
    | .accepted => return .ok (id, rx)
    | .no_sender =>
      perform (.pending_remove id)
      return .error .WriterClosed
    | .receiver_gone =>
      perform (.pending_remove id)
      return .error .WriterClosed

def cancel_pending (id : Id) : Prog ConnOp Unit :=
  perform (.pending_remove id)

/-- Deliver a response to the slot of its id. -/
def complete_response (id : Id) (result : RpcResult) : Prog ConnOp Bool := do
  match ← perform (.pending_take id) with
  | some tx => perform (.oneshot_send tx result)
  | none => return false

def drain_pending : Prog ConnOp Unit := do
  perform .store_disconnected
  let drained ← perform .pending_drain
  perform (.drop_senders drained)
  perform .outbound_take

end ConnectionHandle

/-! ## What the sections leave alone -/

namespace ConnectionHandle

@[simp] theorem drop_sender_pending (h : ConnectionHandle) (tx : Nat) :
    (h.drop_sender tx).pending = h.pending := rfl

@[simp] theorem drop_sender_outbound_tx (h : ConnectionHandle) (tx : Nat) :
    (h.drop_sender tx).outbound_tx = h.outbound_tx := rfl

@[simp] theorem drop_sender_state (h : ConnectionHandle) (tx : Nat) :
    (h.drop_sender tx).state = h.state := rfl

@[simp] theorem drop_sender_next_id (h : ConnectionHandle) (tx : Nat) :
    (h.drop_sender tx).next_id = h.next_id := rfl

@[simp] theorem drop_sender_wire (h : ConnectionHandle) (tx : Nat) :
    (h.drop_sender tx).wire = h.wire := rfl

@[simp] theorem drop_sender_writer_open (h : ConnectionHandle) (tx : Nat) :
    (h.drop_sender tx).writer_open = h.writer_open := rfl

/-- Everything but the slots and the one-shot channels. -/
def SameFrame (h h' : ConnectionHandle) : Prop :=
  h'.outbound_tx = h.outbound_tx ∧ h'.next_id = h.next_id ∧ h'.state = h.state ∧
    h'.writer_open = h.writer_open ∧ h'.wire = h.wire

theorem remove_slot_frame (h : ConnectionHandle) (id : Id) : h.SameFrame (h.remove_slot id) := by
  unfold remove_slot
  split <;> exact ⟨rfl, rfl, rfl, rfl, rfl⟩

theorem insert_slot_frame (h : ConnectionHandle) (id : Id) (tx : Nat) :
    h.SameFrame (h.insert_slot id tx) :=
  h.remove_slot_frame id

theorem drop_senders_frame (h : ConnectionHandle) (txs : List Nat) :
    h.SameFrame (txs.foldl drop_sender h) := by
  induction txs generalizing h with
  | nil => exact ⟨rfl, rfl, rfl, rfl, rfl⟩
  | cons tx txs ih => exact ih (h.drop_sender tx)

@[simp] theorem drop_senders_pending (h : ConnectionHandle) (txs : List Nat) :
    (txs.foldl drop_sender h).pending = h.pending := by
  induction txs generalizing h with
  | nil => rfl
  | cons tx txs ih => exact ih (h.drop_sender tx)

/-- Removing a slot removes its id and nothing else. -/
theorem get_remove_slot (h : ConnectionHandle) (id other : Id) :
    (h.remove_slot id).pending.get other = if other = id then none else h.pending.get other := by
  unfold remove_slot
  split
  · rw [drop_sender_pending, HashMap.get_remove]
  · rename_i none
    split
    · subst other
      exact none
    · rfl

@[simp] theorem insert_slot_pending (h : ConnectionHandle) (id : Id) (tx : Nat) :
    (h.insert_slot id tx).pending = h.pending.insert id tx := rfl

@[simp] theorem drop_sender_next (h : ConnectionHandle) (tx : Nat) :
    (h.drop_sender tx).oneshots.next = h.oneshots.next := rfl

theorem drop_sender_sender (h : ConnectionHandle) (tx tx' : Nat) :
    ((h.drop_sender tx).oneshots.cell tx').sender = true ↔
      (h.oneshots.cell tx').sender = true ∧ tx' ≠ tx := by
  rw [drop_sender, Arena.cell_modify]
  split
  · rename_i same
    exact ⟨fun impossible => absurd impossible Bool.false_ne_true, fun both => absurd same both.2⟩
  · rename_i differ
    exact (and_iff_left differ).symm

@[simp] theorem drop_sender_value (h : ConnectionHandle) (tx rx : Nat) :
    ((h.drop_sender tx).oneshots.cell rx).value = (h.oneshots.cell rx).value := by
  rw [drop_sender, Arena.cell_modify]
  split
  · rename_i same
    rw [same]
    rfl
  · rfl

@[simp] theorem drop_senders_value (h : ConnectionHandle) (txs : List Nat) (rx : Nat) :
    ((txs.foldl drop_sender h).oneshots.cell rx).value = (h.oneshots.cell rx).value := by
  induction txs generalizing h with
  | nil => rfl
  | cons tx txs ih => rw [List.foldl_cons, ih, drop_sender_value]

@[simp] theorem drop_senders_next (h : ConnectionHandle) (txs : List Nat) :
    (txs.foldl drop_sender h).oneshots.next = h.oneshots.next := by
  induction txs generalizing h with
  | nil => rfl
  | cons tx txs ih => exact ih (h.drop_sender tx)

theorem drop_senders_sender (h : ConnectionHandle) (txs : List Nat) (tx : Nat) :
    ((txs.foldl drop_sender h).oneshots.cell tx).sender = true ↔
      (h.oneshots.cell tx).sender = true ∧ tx ∉ txs := by
  induction txs generalizing h with
  | nil => exact (and_iff_left List.not_mem_nil).symm
  | cons tx' txs ih =>
    rw [List.foldl_cons, ih, drop_sender_sender, List.mem_cons, not_or, and_assoc]

@[simp] theorem remove_slot_next (h : ConnectionHandle) (id : Id) :
    (h.remove_slot id).oneshots.next = h.oneshots.next := by
  unfold remove_slot
  split <;> rfl

@[simp] theorem remove_slot_value (h : ConnectionHandle) (id : Id) (rx : Nat) :
    ((h.remove_slot id).oneshots.cell rx).value = (h.oneshots.cell rx).value := by
  unfold remove_slot
  split
  · exact drop_sender_value _ _ rx
  · rfl

/-- The sender of a removed slot is dropped. -/
theorem remove_slot_sender (h : ConnectionHandle) (id : Id) (tx : Nat) :
    ((h.remove_slot id).oneshots.cell tx).sender = true ↔
      (h.oneshots.cell tx).sender = true ∧ h.pending.get id ≠ some tx := by
  unfold remove_slot
  split
  · rename_i tx' found
    rw [drop_sender_sender, found]
    simp only [ne_eq, Option.some.injEq, eq_comm]
  · rename_i none
    rw [none]
    exact (and_iff_left (fun impossible => by cases impossible)).symm

theorem pending_len_eq_zero {h : ConnectionHandle} :
    h.pending_len = 0 ↔ ∀ id, h.pending.get id = none := by
  rw [pending_len, List.length_eq_zero_iff, HashMap.values_eq_nil]

end ConnectionHandle

/-- Distinct counter values give distinct ids. -/
theorem mgr_id_injective : Function.Injective mgr_id := by
  intro m n same
  have printed : m.repr = n.repr := (String.append_right_inj _).mp (Id.string.inj same)
  have digits : Nat.toDigits 10 m = Nat.toDigits 10 n := by
    rw [← Nat.toList_repr, ← Nat.toList_repr, printed]
  rw [← Nat.ofDigitChars_ten_toDigits (n := m), digits, Nat.ofDigitChars_ten_toDigits]

end SessionManager
