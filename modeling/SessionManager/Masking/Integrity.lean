import SessionManager.Masking.Outbox
import Mathlib

/-!
# The integrity of the outbox

Runs of `TerminalOutbox` over its file, where any write may fail.  Memory and file agree after every
call: what was written decodes to the events it was written for, and passes the checks of a load.
-/

namespace SessionManager

open Json Effect

open Prog (perform)

/-! ## What is written is read back -/

theorem TerminalScope.from_value_to_value (scope : TerminalScope) :
    TerminalScope.from_value scope.to_value = some scope := by
  cases scope with
  | Verified instance_id cluster_server infobase_name caller => cases caller <;> rfl
  | Unverified => rfl

theorem TerminalRequest.from_value_to_value (event : TerminalRequest)
    (small : event.schema_version ≤ 255) :
    TerminalRequest.from_value event.to_value = some event := by
  rw [from_value, to_value, members_object names rfl (by decide) (fun _ => id),
    Option.bind_eq_bind, Option.bind_some, u8_field_of_le "schema_version" small rfl]
  calc
    _ = (TerminalScope.from_value event.scope.to_value).bind fun scope =>
        some { event with scope } := rfl
    _ = some event := by rw [event.scope.from_value_to_value, Option.bind_some]

theorem TerminalOutboxSnapshot.from_value_to_value (snapshot : TerminalOutboxSnapshot)
    (small : snapshot.schema_version ≤ 255)
    (all : ∀ event ∈ snapshot.events, event.schema_version ≤ 255) :
    TerminalOutboxSnapshot.from_value snapshot.to_value = some snapshot := by
  have back : (snapshot.events.map TerminalRequest.to_value).mapM TerminalRequest.from_value =
      some snapshot.events :=
    mapM_map_eq fun event member => event.from_value_to_value (all event member)
  rw [from_value, to_value, members_object names rfl (by decide) (fun _ => id),
    Option.bind_eq_bind, Option.bind_some, u8_field_of_le "schema_version" small rfl]
  calc
    _ = ((snapshot.events.map TerminalRequest.to_value).mapM TerminalRequest.from_value).bind
        fun events => some { snapshot with events } := rfl
    _ = some snapshot := by rw [back, Option.bind_some]

/-! ## Operations -/

/-- A call of an outbox. -/
inductive OutboxCall
  | enqueue (event : TerminalRequest)
  | acknowledge_first

/-- What is written for a list of events. -/
def outbox_value (events : List TerminalRequest) : Value :=
  ({ schema_version := 1, events } : TerminalOutboxSnapshot).to_value

variable (crates : Crates) (from_slice : ByteArray → Option Value)

def OutboxCall.prog : OutboxCall → Prog OutboxOp (Except String Unit)
  | .enqueue event => terminal_outbox.enqueue crates event
  | .acknowledge_first => terminal_outbox.acknowledge_first

namespace OutboxState

def call (st : OutboxState) (c : OutboxCall) : Option (Except String Unit × OutboxState) :=
  (c.prog crates).handle (fun op st => op.apply st) st

/-- Calls one after the other, unless one panics. -/
def calls (st : OutboxState) : List OutboxCall → Option OutboxState
  | [] => some st
  | c :: rest => (st.call crates c).bind fun called => called.2.calls rest

/-- What a fresh load of the file returns. -/
def reload (st : OutboxState) : Option (Except String (List TerminalRequest) × OutboxState) :=
  (terminal_outbox.load crates from_slice).handle (fun op st => op.apply st) st

/-- The outbox that is loaded from a file, if that succeeds. -/
def opened (file : Except ReadError ByteArray) (failing : Nat → Bool) : Option OutboxState :=
  match reload crates from_slice ⟨[], file, failing, 0⟩ with
  | some (.ok events, st) => some { st with events }
  | _ => none

/-- Write these events; they are kept if the write succeeds. -/
def persist (st : OutboxState) (events : List TerminalRequest) : Except String Unit × OutboxState :=
  if st.failing st.writes then
    (.error "cannot persist masking terminal outbox", { st with writes := st.writes + 1 })
  else
    (.ok (), { st with
      events
      file := .ok (outbox_value events).text.toByteArray
      writes := st.writes + 1 })

section Call

variable {crates} {st : OutboxState} {event : TerminalRequest} {rest : List TerminalRequest}

theorem handle_persist_failed (st : OutboxState) (events : List TerminalRequest)
    (failing : st.failing st.writes = true) :
    (terminal_outbox.persist events).handle (fun op st => op.apply st) st =
      some (.error "cannot persist masking terminal outbox", { st with writes := st.writes + 1 }) := by
  rw [terminal_outbox.persist, Prog.handle_perform, OutboxOp.apply, if_pos failing]
  rfl

theorem handle_persist_written (st : OutboxState) (events : List TerminalRequest)
    (works : st.failing st.writes = false) :
    (terminal_outbox.persist events).handle (fun op st => op.apply st) st =
      some (.ok (), { st with
        file := .ok (outbox_value events).text.toByteArray
        writes := st.writes + 1 }) := by
  rw [terminal_outbox.persist, Prog.handle_perform, OutboxOp.apply, works, if_neg Bool.false_ne_true]
  rfl

/-- An event that is refused, or queued already. -/
theorem call_enqueue_invalid (invalid : valid_terminal crates event = false) :
    st.call crates (.enqueue event) = some (.error "invalid masking terminal event", st) := by
  rw [call, OutboxCall.prog, terminal_outbox.enqueue, invalid]
  rfl

theorem call_enqueue_known (valid : valid_terminal crates event = true) {existing : TerminalRequest}
    (known : st.events.find? (fun existing => existing.call_id == event.call_id) = some existing) :
    st.call crates (.enqueue event) = some (if existing = event then .ok ()
      else .error "masking terminal call identity collision", st) := by
  rw [call, OutboxCall.prog, terminal_outbox.enqueue, valid]
  simp only [Bool.not_true, Bool.false_eq_true, if_false, Prog.handle_perform, apply_events,
    Option.bind_some, known]
  rfl

theorem call_enqueue_full (valid : valid_terminal crates event = true)
    (new : st.events.find? (fun existing => existing.call_id == event.call_id) = none)
    (full : MAX_TERMINAL_OUTBOX_EVENTS ≤ st.events.length) :
    st.call crates (.enqueue event) = some (.error "masking terminal outbox is full", st) := by
  rw [call, OutboxCall.prog, terminal_outbox.enqueue, valid]
  simp only [Bool.not_true, Bool.false_eq_true, if_false, Prog.handle_perform, apply_events,
    Option.bind_some, new, full, if_true]
  rfl

/-- A new event is pushed, and popped if it is not written. -/
theorem call_enqueue_new (valid : valid_terminal crates event = true)
    (new : st.events.find? (fun existing => existing.call_id == event.call_id) = none)
    (room : st.events.length < MAX_TERMINAL_OUTBOX_EVENTS) :
    st.call crates (.enqueue event) = some (st.persist (st.events ++ [event])) := by
  rw [call, OutboxCall.prog, terminal_outbox.enqueue, valid, persist]
  simp only [Bool.not_true, Bool.false_eq_true, if_false, Prog.handle_perform, apply_events,
    apply_push, Option.bind_some, new, Nat.not_le.mpr room]
  rw [Prog.handle_bind]
  cases failing : st.failing st.writes with
  | true =>
    rw [handle_persist_failed { st with events := st.events ++ [event] } _ failing, Option.bind_some,
      if_pos rfl, Prog.handle_perform, apply_pop, List.dropLast_concat]
    rfl
  | false =>
    rw [handle_persist_written { st with events := st.events ++ [event] } _ failing,
      if_neg Bool.false_ne_true]
    rfl

/-- The first event is removed, and inserted again if that is not written. -/
theorem call_acknowledge (first : st.events = event :: rest) :
    st.call crates .acknowledge_first = some (st.persist rest) := by
  rw [call, OutboxCall.prog, terminal_outbox.acknowledge_first, persist]
  simp only [Prog.handle_perform, apply_events, apply_remove_first first, Option.bind_some]
  rw [Prog.handle_bind]
  cases failing : st.failing st.writes with
  | true =>
    rw [handle_persist_failed { st with events := rest } _ failing, Option.bind_some, if_pos rfl,
      Prog.handle_perform, apply_insert_first, ← first]
    rfl
  | false =>
    rw [handle_persist_written { st with events := rest } _ failing, if_neg Bool.false_ne_true]
    rfl

/-- **What a call may do**: it leaves an outbox that has the event or refuses it, or it writes the
events with a new one at the end or without the first. -/
theorem call_cases {c : OutboxCall} {result : Except String Unit} {st' : OutboxState}
    (called : st.call crates c = some (result, st')) :
    (st' = st ∧ ∃ event, c = .enqueue event ∧ (result = .ok () → event ∈ st.events)) ∨
      (∃ event, c = .enqueue event ∧ valid_terminal crates event = true ∧
        event.call_id ∉ st.events.map TerminalRequest.call_id ∧
        st.events.length < MAX_TERMINAL_OUTBOX_EVENTS ∧
        (result, st') = st.persist (st.events ++ [event])) ∨
      ∃ event rest, c = .acknowledge_first ∧ st.events = event :: rest ∧
        (result, st') = st.persist rest := by
  cases c with
  | acknowledge_first =>
    cases first : st.events with
    | nil =>
      rw [call, OutboxCall.prog, terminal_outbox.acknowledge_first, Prog.handle_perform,
        OutboxOp.apply, first] at called
      cases called
    | cons event rest =>
      rw [call_acknowledge first] at called
      exact .inr (.inr ⟨event, rest, rfl, rfl, (Option.some.inj called).symm⟩)
  | enqueue event =>
    cases valid : valid_terminal crates event with
    | false =>
      rw [call_enqueue_invalid valid] at called
      cases called
      refine .inl ⟨rfl, event, rfl, fun ok => ?_⟩
      cases ok
    | true =>
      cases found : st.events.find? (fun existing => existing.call_id == event.call_id) with
      | some existing =>
        rw [call_enqueue_known valid found] at called
        cases called
        refine .inl ⟨rfl, event, rfl, fun ok => ?_⟩
        have member := List.mem_of_find?_eq_some found
        split at ok
        · rename_i same
          rwa [← same]
        · cases ok
      | none =>
        by_cases room : st.events.length < MAX_TERMINAL_OUTBOX_EVENTS
        · rw [call_enqueue_new valid found room] at called
          refine .inr (.inl ⟨event, rfl, valid, fun member => ?_, room,
            (Option.some.inj called).symm⟩)
          obtain ⟨existing, member, same⟩ := List.mem_map.mp member
          exact List.find?_eq_none.mp found existing member (beq_iff_eq.mpr same)
        · rw [call_enqueue_full valid found (Nat.not_lt.mp room)] at called
          cases called
          refine .inl ⟨rfl, event, rfl, fun ok => ?_⟩
          cases ok

/-- A write that fails changes neither the events nor the file. -/
theorem persist_error {events : List TerminalRequest} {error : String} {st' : OutboxState}
    (failed : (.error error, st') = st.persist events) :
    st'.events = st.events ∧ st'.file = st.file := by
  rw [persist] at failed
  split at failed
  · cases failed
    exact ⟨rfl, rfl⟩
  · cases failed

theorem persist_ok {events : List TerminalRequest} {st' : OutboxState}
    (written : (.ok (), st') = st.persist events) :
    st'.events = events ∧ st'.file = .ok (outbox_value events).text.toByteArray := by
  rw [persist] at written
  split at written
  · cases written
  · cases written
    exact ⟨rfl, rfl⟩

/-- An operation that fails leaves memory and file as they were. -/
theorem call_error {c : OutboxCall} {error : String} {st' : OutboxState}
    (failed : st.call crates c = some (.error error, st')) :
    st'.events = st.events ∧ st'.file = st.file := by
  rcases call_cases failed with
    ⟨rfl, -⟩ | ⟨event, -, -, -, -, written⟩ | ⟨event, rest, -, -, written⟩
  · exact ⟨rfl, rfl⟩
  · exact persist_error written
  · exact persist_error written

/-! ## The outbox of the gate -/

/-- How the outbox answers the gate that has locked it. -/
def answer : ∀ {β : Type}, MaskOp β → OutboxState → Option (β × OutboxState)
  | _, .persist events, st => some ((st.persist events).1.toBool, (st.persist events).2)
  | _, _, _ => none

/-- The gate queues an event as the outbox does. -/
theorem enqueue_agrees (st : OutboxState) (event : TerminalRequest) :
    (TerminalOutbox.enqueue crates st.events event).handle (fun op st => answer op st) st =
      (st.call crates (.enqueue event)).map fun called =>
        (called.1.map fun _ => called.2.events, called.2) := by
  rw [TerminalOutbox.enqueue]
  cases valid : valid_terminal crates event with
  | false =>
    rw [call_enqueue_invalid valid]
    rfl
  | true =>
    rw [if_neg (by decide : ¬(!true) = true)]
    cases found : st.events.find? (fun existing => existing.call_id == event.call_id) with
    | some existing =>
      rw [call_enqueue_known valid found]
      dsimp only
      by_cases same : existing = event
      · rw [if_pos same, if_pos same]
        rfl
      · rw [if_neg same, if_neg same]
        rfl
    | none =>
      by_cases room : st.events.length < MAX_TERMINAL_OUTBOX_EVENTS
      · rw [call_enqueue_new valid found room]
        dsimp only
        rw [if_neg (Nat.not_le.mpr room), Prog.handle_perform, answer, persist]
        cases st.failing st.writes <;> rfl
      · rw [call_enqueue_full valid found (Nat.not_lt.mp room)]
        dsimp only
        rw [if_pos (Nat.not_lt.mp room)]
        rfl

/-- The gate drops the first event as the outbox does. -/
theorem acknowledge_agrees (first : st.events = event :: rest) :
    answer (.persist rest) st =
      (st.call crates .acknowledge_first).map fun called => (called.1.toBool, called.2) := by
  rw [call_acknowledge first]
  rfl

end Call

end OutboxState

/-! ## The invariant -/

/-- The events of an outbox. -/
structure Intact (events : List TerminalRequest) : Prop where
  valid : ∀ event ∈ events, valid_terminal crates event = true
  unique : (events.map TerminalRequest.call_id).Nodup
  bounded : events.length ≤ MAX_TERMINAL_OUTBOX_EVENTS

section Intact

variable {crates} {from_slice} {events : List TerminalRequest}

theorem intact_nil : Intact crates [] := ⟨nofun, List.nodup_nil, Nat.zero_le _⟩

theorem Intact.snoc {event : TerminalRequest} (intact : Intact crates events)
    (valid : valid_terminal crates event = true)
    (new : event.call_id ∉ events.map TerminalRequest.call_id)
    (room : events.length < MAX_TERMINAL_OUTBOX_EVENTS) : Intact crates (events ++ [event]) := by
  refine ⟨fun event' member => ?_, ?_, ?_⟩
  · rcases List.mem_append.mp member with old | here
    · exact intact.valid event' old
    · rwa [List.mem_singleton.mp here]
  · rw [List.map_append, List.map_singleton, ← List.concat_eq_append, List.nodup_concat]
    exact ⟨new, intact.unique⟩
  · rw [List.length_append]
    exact room

theorem Intact.tail {event : TerminalRequest} (intact : Intact crates (event :: events)) :
    Intact crates events :=
  ⟨fun event' member => intact.valid event' (List.mem_cons_of_mem event member),
    (List.nodup_cons.mp intact.unique).2, Nat.le_of_succ_le intact.bounded⟩

/-- The checks of a snapshot pass exactly for these. -/
theorem check_ok_iff {snapshot : TerminalOutboxSnapshot} :
    terminal_outbox.check crates snapshot = .ok events ↔
      snapshot = { schema_version := 1, events } ∧ Intact crates events := by
  rw [terminal_outbox.check]
  constructor
  · intro ok
    split at ok
    · cases ok
    · rename_i passed
      obtain ⟨version, passed⟩ := not_or.mp passed
      obtain ⟨bounded, valid⟩ := not_or.mp passed
      rw [ensure_unique_terminal_calls] at ok
      split at ok
      · rename_i unique
        cases ok
        refine ⟨?_, fun event member => ?_, unique, Nat.not_lt.mp bounded⟩
        · rw [← not_not.mp version]
        · by_contra invalid
          exact valid (List.any_eq_true.mpr ⟨event, member, by rw [eq_false_of_ne_true invalid]; rfl⟩)
      · cases ok
  · intro both
    obtain ⟨rfl, intact⟩ := both
    have passed : ¬ (1 ≠ 1 ∨ MAX_TERMINAL_OUTBOX_EVENTS < events.length ∨
        events.any (fun event => !valid_terminal crates event) = true) := by
      intro failed
      rcases failed with version | long | invalid
      · exact version rfl
      · exact Nat.not_lt.mpr intact.bounded long
      · obtain ⟨event, member, invalid⟩ := List.any_eq_true.mp invalid
        rw [intact.valid event member] at invalid
        cases invalid
    rw [if_neg passed, ensure_unique_terminal_calls, if_pos intact.unique]
    rfl

/-- Their versions are small numbers. -/
theorem Intact.from_value_to_value (intact : Intact crates events) :
    TerminalOutboxSnapshot.from_value (outbox_value events) = some { schema_version := 1, events } := by
  apply TerminalOutboxSnapshot.from_value_to_value _ (Nat.le_add_left 1 254)
  intro event member
  have valid := intact.valid event member
  rw [valid_terminal] at valid
  simp only [Bool.and_eq_true, beq_iff_eq] at valid
  omega

end Intact

namespace OutboxState

variable {crates} {from_slice} {st st' : OutboxState}

/-- `serde_json` reads what it wrote for these events. -/
def ReadsBack (from_slice : ByteArray → Option Value) (st : OutboxState) : Prop :=
  from_slice (outbox_value st.events).text.toByteArray = some (outbox_value st.events)

/-- The file has the events that are in memory, and these are sound. -/
structure Sound (crates : Crates) (from_slice : ByteArray → Option Value) (st : OutboxState) : Prop where
  intact : Intact crates st.events
  absent : ∀ error, st.file = .error error → error = .NotFound ∧ st.events = []
  stored : ∀ bytes, st.file = .ok bytes →
    (from_slice bytes).bind TerminalOutboxSnapshot.from_value =
      some { schema_version := 1, events := st.events }

/-- What was just written is sound. -/
theorem sound_of_written (intact : Intact crates st.events) (reads_back : st.ReadsBack from_slice)
    (written : st.file = .ok (outbox_value st.events).text.toByteArray) :
    Sound crates from_slice st where
  intact := intact
  absent error unread := by cases unread.symm.trans written
  stored bytes some := by
    cases some.symm.trans written
    rw [reads_back, Option.bind_some, intact.from_value_to_value]

/-- A load of a strict file returns its events and changes nothing. -/
theorem reload_stored {events : List TerminalRequest} {bytes : ByteArray}
    (intact : Intact crates events) (file : st.file = .ok bytes)
    (stored : (from_slice bytes).bind TerminalOutboxSnapshot.from_value =
      some { schema_version := 1, events }) : st.reload crates from_slice = some (.ok events, st) := by
  rw [OutboxState.reload, terminal_outbox.load, Prog.handle_perform, apply_read, Option.bind_some, file]
  simp only [stored]
  rw [check_ok_iff.mpr ⟨rfl, intact⟩]
  rfl

/-- A fresh load returns the events and changes nothing. -/
theorem Sound.reload (sound : Sound crates from_slice st) :
    st.reload crates from_slice = some (.ok st.events, st) := by
  cases file : st.file with
  | ok bytes => exact reload_stored sound.intact file (sound.stored bytes file)
  | error error =>
    obtain ⟨rfl, none⟩ := sound.absent error file
    rw [OutboxState.reload, terminal_outbox.load, Prog.handle_perform, apply_read, Option.bind_some,
      file, none]
    rfl

/-- An outbox that was loaded is sound. -/
theorem sound_opened {file : Except ReadError ByteArray} {failing : Nat → Bool}
    (opened : OutboxState.opened crates from_slice file failing = some st)
    (reads_back : st.ReadsBack from_slice) : Sound crates from_slice st := by
  rw [OutboxState.opened] at opened
  split at opened
  · rename_i events loaded reloaded
    cases opened
    rw [OutboxState.reload, terminal_outbox.load, Prog.handle_perform, apply_read,
      Option.bind_some] at reloaded
    cases file with
    | error error =>
      cases error with
      | NotFound =>
        cases reloaded
        refine ⟨intact_nil, fun error same => ?_, nofun⟩
        cases same
        exact ⟨rfl, rfl⟩
      | other => cases reloaded
    | ok bytes =>
      simp only at reloaded
      split at reloaded
      · rename_i snapshot read
        obtain ⟨checked, left⟩ := Prod.mk.inj (Option.some.inj reloaded)
        obtain ⟨rfl, intact⟩ := check_ok_iff.mp checked
        subst left
        refine ⟨intact, nofun, fun bytes' same => ?_⟩
        cases same
        exact read
      · split at reloaded
        · cases reloaded
        · rename_i snapshot _
          rw [Prog.handle_bind] at reloaded
          cases fails : failing 0 with
          | true =>
            rw [handle_persist_failed _ _ fails] at reloaded
            cases reloaded
          | false =>
            rw [handle_persist_written _ _ fails] at reloaded
            obtain ⟨checked, left⟩ := Prod.mk.inj (Option.some.inj reloaded)
            obtain ⟨rfl, intact⟩ := check_ok_iff.mp checked
            subst left
            exact sound_of_written intact reads_back rfl
  · cases opened

/-- One call keeps it so. -/
theorem Sound.call (sound : Sound crates from_slice st) {c : OutboxCall} {result : Except String Unit}
    (called : st.call crates c = some (result, st')) (reads_back : st'.ReadsBack from_slice) :
    Sound crates from_slice st' := by
  have persisted {events : List TerminalRequest} (intact : Intact crates events)
      (written : (result, st') = st.persist events) : Sound crates from_slice st' := by
    cases result with
    | error error =>
      obtain ⟨same, file⟩ := persist_error written
      refine ⟨same ▸ sound.intact, fun error unread => ?_, fun bytes some => ?_⟩
      · rw [same]
        exact sound.absent error (file ▸ unread)
      · rw [same, sound.stored bytes (file ▸ some)]
    | ok _ =>
      obtain ⟨rfl, file⟩ := persist_ok written
      exact sound_of_written intact reads_back file
  rcases call_cases called with
    ⟨rfl, -⟩ | ⟨event, -, valid, new, room, written⟩ | ⟨event, rest, -, first, written⟩
  · exact sound
  · exact persisted (sound.intact.snoc valid new room) written
  · have intact := sound.intact
    rw [first] at intact
    exact persisted intact.tail written

/-! ## Sequences of calls -/

/-- The event that a call adds. -/
def newly (st : OutboxState) : OutboxCall → Except String Unit → List TerminalRequest
  | .enqueue event, .ok () => if event ∈ st.events then [] else [event]
  | _, _ => []

/-- How many events it removes. -/
def removes : OutboxCall → Except String Unit → Nat
  | .acknowledge_first, .ok () => 1
  | _, _ => 0

/-- The events that calls add, in their order. -/
def accepted (crates : Crates) (st : OutboxState) : List OutboxCall → List TerminalRequest
  | [] => []
  | c :: rest =>
    match st.call crates c with
    | some (result, st') => st.newly c result ++ st'.accepted crates rest
    | none => []

/-- How many they remove. -/
def acknowledged (crates : Crates) (st : OutboxState) : List OutboxCall → Nat
  | [] => 0
  | c :: rest =>
    match st.call crates c with
    | some (result, st') => removes c result + st'.acknowledged crates rest
    | none => 0

/-- A call adds at the end and removes at the front. -/
theorem events_call {c : OutboxCall} {result : Except String Unit}
    (called : st.call crates c = some (result, st')) :
    removes c result ≤ st.events.length ∧
      st'.events = (st.events ++ st.newly c result).drop (removes c result) := by
  rcases call_cases called with
    ⟨rfl, event, rfl, queued⟩ | ⟨event, rfl, -, new, -, written⟩ | ⟨event, rest, rfl, first, written⟩
  · refine ⟨Nat.zero_le _, ?_⟩
    cases result with
    | error error => exact (List.append_nil _).symm
    | ok _ =>
      rw [newly, if_pos (queued rfl)]
      exact (List.append_nil _).symm
  · refine ⟨Nat.zero_le _, ?_⟩
    cases result with
    | error error => exact (persist_error written).1.trans (List.append_nil _).symm
    | ok _ =>
      rw [newly, if_neg fun member => new (List.mem_map_of_mem member)]
      exact (persist_ok written).1
  · cases result with
    | error error => exact ⟨Nat.zero_le _, (persist_error written).1.trans (List.append_nil _).symm⟩
    | ok _ =>
      rw [first]
      exact ⟨Nat.le_add_left 1 _, (persist_ok written).1.trans (List.append_nil _).symm⟩

/-- The queue is first in, first out. -/
theorem events_calls {calls : List OutboxCall} (ran : st.calls crates calls = some st') :
    st'.events =
      (st.events ++ st.accepted crates calls).drop (st.acknowledged crates calls) := by
  induction calls generalizing st with
  | nil =>
    cases ran
    exact (List.append_nil _).symm
  | cons c calls ih =>
    obtain ⟨⟨result, next⟩, called, rest⟩ := Option.bind_eq_some_iff.mp ran
    obtain ⟨enough, events⟩ := events_call called
    have short : removes c result ≤ (st.events ++ st.newly c result).length := by
      rw [List.length_append]
      omega
    rw [accepted, acknowledged, called, ih rest, events, ← List.append_assoc, ← List.drop_drop,
      List.drop_append_of_le_length short]

/-- A sound outbox stays sound, if what is written in every state can be read back. -/
theorem Sound.calls (sound : Sound crates from_slice st) {calls : List OutboxCall}
    (ran : st.calls crates calls = some st')
    (reads_back : ∀ past between, past <+: calls → st.calls crates past = some between →
      between.ReadsBack from_slice) : Sound crates from_slice st' := by
  induction calls generalizing st with
  | nil =>
    cases ran
    exact sound
  | cons c calls ih =>
    obtain ⟨⟨result, next⟩, called, rest⟩ := Option.bind_eq_some_iff.mp ran
    have later (past : List OutboxCall) : st.calls crates (c :: past) = next.calls crates past := by
      rw [OutboxState.calls, called]
      rfl
    refine ih (sound.call called (reads_back [c] next ?_ (later []))) rest ?_
    · exact List.cons_prefix_cons.mpr ⟨rfl, List.nil_prefix⟩
    · intro past between within reached
      exact reads_back (c :: past) between (List.cons_prefix_cons.mpr ⟨rfl, within⟩)
        ((later past).trans reached)

/-- Only the acknowledgement of an empty outbox panics. -/
theorem call_eq_none_iff {c : OutboxCall} :
    st.call crates c = none ↔ c = .acknowledge_first ∧ st.events = [] := by
  cases c with
  | acknowledge_first =>
    cases first : st.events with
    | nil =>
      rw [call, OutboxCall.prog, terminal_outbox.acknowledge_first, Prog.handle_perform,
        OutboxOp.apply, first]
      exact iff_of_true rfl ⟨rfl, rfl⟩
    | cons event rest =>
      rw [call_acknowledge first]
      refine iff_of_false (fun panicked => ?_) fun both => ?_
      · cases panicked
      · cases both.2
  | enqueue event =>
    refine iff_of_false (fun panicked => ?_) fun both => by cases both.1
    cases valid : valid_terminal crates event with
    | false => cases (call_enqueue_invalid valid).symm.trans panicked
    | true =>
      cases found : st.events.find? (fun existing => existing.call_id == event.call_id) with
      | some existing => cases (call_enqueue_known valid found).symm.trans panicked
      | none =>
        by_cases room : st.events.length < MAX_TERMINAL_OUTBOX_EVENTS
        · cases (call_enqueue_new valid found room).symm.trans panicked
        · cases (call_enqueue_full valid found (Nat.not_lt.mp room)).symm.trans panicked

/-- The only event of a call. -/
theorem Sound.find (sound : Sound crates from_slice st) {call_id : String}
    {existing : TerminalRequest} (queued : existing ∈ st.events) (own : existing.call_id = call_id) :
    st.events.find? (fun event => event.call_id == call_id) = some existing := by
  cases found : st.events.find? (fun event => event.call_id == call_id) with
  | none => exact absurd (beq_iff_eq.mpr own) (List.find?_eq_none.mp found existing queued)
  | some event =>
    have same : event.call_id = call_id :=
      eq_of_beq (List.find?_some (p := fun event : TerminalRequest => event.call_id == call_id) found)
    rw [List.inj_on_of_nodup_map sound.intact.unique (List.mem_of_find?_eq_some found) queued
      (same.trans own.symm)]

/-- An event that is queued is not queued again. -/
theorem Sound.enqueue_again (sound : Sound crates from_slice st) {event : TerminalRequest}
    (queued : event ∈ st.events) : st.call crates (.enqueue event) = some (.ok (), st) := by
  rw [call_enqueue_known (sound.intact.valid event queued) (sound.find queued rfl), if_pos rfl]

/-- Another event under its call is refused. -/
theorem Sound.enqueue_collision (sound : Sound crates from_slice st)
    {event existing : TerminalRequest} (queued : existing ∈ st.events)
    (same : event.call_id = existing.call_id) (other : event ≠ existing) :
    ∃ error, st.call crates (.enqueue event) = some (.error error, st) := by
  cases valid : valid_terminal crates event with
  | false => exact ⟨_, call_enqueue_invalid valid⟩
  | true =>
    rw [call_enqueue_known valid (sound.find queued same.symm), if_neg other.symm]
    exact ⟨_, rfl⟩

end OutboxState

/-- An outbox opens with these events when they were the last that were written. -/
def Reopens (events : List TerminalRequest) : Prop :=
  ∀ (from_slice : ByteArray → Option Value) (failing : Nat → Bool) (bytes : ByteArray),
    bytes = (outbox_value events).text.toByteArray → from_slice bytes = some (outbox_value events) →
    OutboxState.opened crates from_slice (.ok bytes) failing = some ⟨events, .ok bytes, failing, 0⟩

theorem Intact.reopens {crates : Crates} {events : List TerminalRequest}
    (intact : Intact crates events) : Reopens crates events := by
  intro from_slice failing bytes _ reads_back
  rw [OutboxState.opened, OutboxState.reload_stored intact rfl]
  rw [reads_back, Option.bind_some, intact.from_value_to_value]

open OutboxState in
/-- **Integrity.**  After calls of an outbox that was loaded, some of whose writes may have failed,
a fresh load returns the events that are in memory.  These are valid, are of different calls, are
not too many and stand in the order in which they were queued.  A call that fails leaves memory
and file as they were; an event is queued once, and no other under its call. -/
theorem outbox_integrity {file : Except ReadError ByteArray} {failing : Nat → Bool} {start st : OutboxState}
    (opened : OutboxState.opened crates from_slice file failing = some start)
    {calls : List OutboxCall} (ran : start.calls crates calls = some st)
    (reads_back : ∀ past between, past <+: calls → start.calls crates past = some between →
      between.ReadsBack from_slice) :
    st.reload crates from_slice = some (.ok st.events, st) ∧ Intact crates st.events ∧
      st.events = (start.events ++ start.accepted crates calls).drop (start.acknowledged crates calls) ∧
      (∀ c, st.call crates c = none ↔ c = .acknowledge_first ∧ st.events = []) ∧
      (∀ c error st', st.call crates c = some (.error error, st') →
        st'.events = st.events ∧ st'.file = st.file) ∧
      (∀ event ∈ st.events, st.call crates (.enqueue event) = some (.ok (), st)) ∧
      ∀ event, ∀ existing ∈ st.events, event.call_id = existing.call_id → event ≠ existing →
        ∃ error, st.call crates (.enqueue event) = some (.error error, st) := by
  have sound := (sound_opened opened (reads_back [] start List.nil_prefix rfl)).calls ran reads_back
  exact ⟨sound.reload, sound.intact, events_calls ran, fun _ => call_eq_none_iff,
    fun _ _ _ => call_error, fun _ => sound.enqueue_again,
    fun _ _ queued same other => sound.enqueue_collision queued same other⟩

/-! ## A write that fails -/

def refused_call : TerminalRequest where
  schema_version := 1
  call_id := "00000000-0000-4000-8000-000000000001"
  correlation_id := "00000000-0000-4000-8000-000000000002"
  tool_name := "execute_query"
  error_code := "SERVICE_NOT_READY"
  scope := .Unverified

/-- Read the outbox with this event and the empty one. -/
def read_refused (bytes : ByteArray) : Option Value :=
  ([[refused_call], []].map outbox_value).find? fun value => value.text.toByteArray = bytes

theorem read_refused_reads_back {events : List TerminalRequest}
    (among : events = [refused_call] ∨ events = []) :
    read_refused (outbox_value events).text.toByteArray = some (outbox_value events) := by
  have differ : (outbox_value [refused_call]).text ≠ (outbox_value []).text := by decide
  rcases among with rfl | rfl
  · exact List.find?_cons_of_pos (decide_eq_true rfl)
  · refine (List.find?_cons_of_neg fun same => ?_).trans
      (List.find?_cons_of_pos (decide_eq_true rfl))
    exact differ (String.toByteArray_inj.mp (of_decide_eq_true same))

/-- The outbox before and after the event is queued; the second write fails. -/
def refused_start : OutboxState := ⟨[], .error .NotFound, (· == 1), 0⟩

def refused_state (writes : Nat) : OutboxState :=
  ⟨[refused_call], .ok (outbox_value [refused_call]).text.toByteArray, (· == 1), writes⟩

def refused_calls : List OutboxCall := [.enqueue refused_call, .acknowledge_first]

theorem refused_calls_read_back (past : List OutboxCall) (between : OutboxState)
    (within : past <+: refused_calls)
    (reached : refused_start.calls permissive_crates past = some between) :
    between.ReadsBack read_refused := by
  have prefixes : past = [] ∨ ∃ rest, past = .enqueue refused_call :: rest ∧
      (rest = [] ∨ rest = [.acknowledge_first]) := by
    simpa [refused_calls, List.prefix_cons_iff] using within
  rcases prefixes with rfl | ⟨_, rfl, rfl | rfl⟩
  · obtain rfl : refused_start = between := Option.some.inj reached
    exact read_refused_reads_back (.inr rfl)
  · obtain rfl : refused_state 1 = between := Option.some.inj reached
    exact read_refused_reads_back (.inl rfl)
  · obtain rfl : refused_state 2 = between := Option.some.inj reached
    exact read_refused_reads_back (.inl rfl)

/-- The event is queued, and stays when the write of its removal fails. -/
theorem outbox_integrity_refused :
    (refused_state 2).reload permissive_crates read_refused =
        some (.ok [refused_call], refused_state 2) ∧
      Intact permissive_crates [refused_call] := by
  have opened : OutboxState.opened permissive_crates read_refused (.error .NotFound) (· == 1) =
      some refused_start := rfl
  have ran : refused_start.calls permissive_crates refused_calls = some (refused_state 2) := rfl
  obtain ⟨reloaded, intact, -⟩ := outbox_integrity _ _ opened ran refused_calls_read_back
  exact ⟨reloaded, intact⟩

end SessionManager
