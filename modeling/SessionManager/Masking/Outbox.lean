import SessionManager.Json.Decode
import SessionManager.Masking.Gate

/-!
# `TerminalOutbox` and its file

The terminal events that the masking service has not acknowledged, in memory and in a file
(`session_manager/masking/gate.rs`).  The file is read strictly, or converted from the format
of an earlier version; an operation changes the memory, writes the file, and takes the change
back if the file was not written.
-/

namespace SessionManager

open Json Effect

open Prog (perform)

/-! ## The file -/

structure TerminalOutboxSnapshot where
  schema_version : Nat
  events : List TerminalRequest

namespace TerminalScope

def verified_from_value (value : Value) : Option TerminalScope := do
  let fields ← members ["instance_id", "cluster_server", "infobase_name", "caller"] value
  return .Verified (← string_field fields "instance_id") (← string_field fields "cluster_server")
    (← string_field fields "infobase_name") (← optional_field fields "caller")

/-- The tag is a member like the others, or comes first in an array.  The members of an
unverified scope are not looked at. -/
def from_value : Value → Option TerminalScope
  | .object fields =>
    match fields.filter fun entry => entry.1 == "kind" with
    | [(_, .string "verified")] =>
      verified_from_value (.object (fields.filter fun entry => entry.1 != "kind"))
    | [(_, .string "unverified")] => some .Unverified
    | _ => none
  | .array (.string "verified" :: items) => verified_from_value (.array items)
  | .array [.string "unverified"] => some .Unverified
  | _ => none

end TerminalScope

def TerminalRequest.names : List String :=
  ["schema_version", "call_id", "correlation_id", "tool_name", "error_code", "scope"]

def TerminalRequest.from_value (value : Value) : Option TerminalRequest := do
  let fields ← members names value
  return {
    schema_version := ← u8_field fields "schema_version"
    call_id := ← string_field fields "call_id"
    correlation_id := ← string_field fields "correlation_id"
    tool_name := ← string_field fields "tool_name"
    error_code := ← string_field fields "error_code"
    scope := ← (field fields "scope").bind TerminalScope.from_value }

namespace TerminalOutboxSnapshot

def names : List String := ["schema_version", "events"]

def to_value (snapshot : TerminalOutboxSnapshot) : Value :=
  .object [
    ("schema_version", .number (.int snapshot.schema_version)),
    ("events", .array (snapshot.events.map TerminalRequest.to_value))]

def from_value (value : Value) : Option TerminalOutboxSnapshot := do
  let fields ← members names value
  let schema_version ← u8_field fields "schema_version"
  let items ← (field fields "events").bind Value.as_array
  return { schema_version, events := ← items.mapM TerminalRequest.from_value }

end TerminalOutboxSnapshot

/-! ## The earlier format -/

/-- A verified scope without the field of the earlier format. -/
def without_chat_id : Value → Value
  | .object fields =>
    match field fields "scope" with
    | some (.object scope) =>
      if (field scope "kind").bind Value.as_str = some "verified" then
        .object (Json.insert "scope" (.object (Json.remove scope "chat_id").2) fields)
      else .object fields
    | _ => .object fields
  | raw => raw

variable (crates : Crates)

/-- The events of the earlier format after those already taken over. -/
def convert_events (events : List TerminalRequest) : List Value → Option (List TerminalRequest)
  | [] => some events
  | raw :: rest => do
    let event ← TerminalRequest.from_value (without_chat_id raw)
    if event.error_code = "CHAT_IDENTITY_REQUIRED" then convert_events events rest
    else if !valid_terminal crates event || MAX_TERMINAL_OUTBOX_EVENTS ≤ events.length ||
        events.any fun seen => seen.call_id == event.call_id then none
    else convert_events (events ++ [event]) rest

def convert_legacy_outbox (value : Value) : Option TerminalOutboxSnapshot := do
  let top ← value.collect.as_object
  if top.length ≠ 2 ∨ (← (field top "schema_version").bind Value.as_u64) ≠ 1 then none
  let raw_events ← (field top "events").bind Value.as_array
  return { schema_version := 1, events := ← convert_events crates [] raw_events }

/-! ## The operations -/

/-- Why a file is not read. -/
inductive ReadError
  | NotFound
  | other

/-- What an outbox does with its events and with its file. -/
inductive OutboxOp : Type → Type
  | read : OutboxOp (Except ReadError ByteArray)
  | write_json_atomic (value : Value) : OutboxOp Bool
  | events : OutboxOp (List TerminalRequest)
  | push (event : TerminalRequest) : OutboxOp Unit
  | pop : OutboxOp Unit
  | remove_first : OutboxOp TerminalRequest
  | insert_first (event : TerminalRequest) : OutboxOp Unit

def ensure_unique_terminal_calls (events : List TerminalRequest) : Except String Unit :=
  if (events.map TerminalRequest.call_id).Nodup then .ok ()
  else .error "duplicate call identity in masking terminal outbox"

namespace terminal_outbox

def persist (events : List TerminalRequest) : Prog OutboxOp (Except String Unit) := do
  if ← perform (.write_json_atomic { schema_version := 1, events : TerminalOutboxSnapshot }.to_value)
  then return .ok ()
  else return .error "cannot persist masking terminal outbox"

/-- The checks of a snapshot. -/
def check (snapshot : TerminalOutboxSnapshot) : Except String (List TerminalRequest) :=
  if snapshot.schema_version ≠ 1 ∨ MAX_TERMINAL_OUTBOX_EVENTS < snapshot.events.length ∨
      snapshot.events.any (fun event => !valid_terminal crates event) then
    .error "invalid masking terminal outbox"
  else (ensure_unique_terminal_calls snapshot.events).map fun _ => snapshot.events

/-- `from_slice` reads the bytes of a file as JSON. -/
def load (from_slice : ByteArray → Option Value) :
    Prog OutboxOp (Except String (List TerminalRequest)) := do
  match ← perform .read with
  | .error .NotFound => return .ok []
  | .error .other => return .error "cannot read masking terminal outbox"
  | .ok bytes =>
    match (from_slice bytes).bind TerminalOutboxSnapshot.from_value with
    | some snapshot => return check crates snapshot
    | none =>
      match (from_slice bytes).bind (convert_legacy_outbox crates) with
      | none => return .error "invalid masking terminal outbox"
      | some snapshot =>
        match ← persist snapshot.events with
        | .error error => return .error error
        | .ok () => return check crates snapshot

def enqueue (event : TerminalRequest) : Prog OutboxOp (Except String Unit) := do
  if !valid_terminal crates event then return .error "invalid masking terminal event"
  else
    let events ← perform .events
    match events.find? fun existing => existing.call_id == event.call_id with
    | some existing =>
      return if existing = event then .ok ()
        else .error "masking terminal call identity collision"
    | none =>
      if MAX_TERMINAL_OUTBOX_EVENTS ≤ events.length then
        return .error "masking terminal outbox is full"
      else
        perform (.push event)
        match ← persist (← perform .events) with
        | .error error =>
          perform .pop
          return .error error
        | .ok () => return .ok ()

def acknowledge_first : Prog OutboxOp (Except String Unit) := do
  let event ← perform .remove_first
  match ← persist (← perform .events) with
  | .error error =>
    perform (.insert_first event)
    return .error error
  | .ok () => return .ok ()

end terminal_outbox

/-- The events in memory, what a read of the file gives, which writes fail, and how many there
were. -/
structure OutboxState where
  events : List TerminalRequest
  file : Except ReadError ByteArray
  failing : Nat → Bool
  writes : Nat

/-- A write replaces the file, or fails.  Removing from an empty list panics. -/
def OutboxOp.apply {β : Type} : OutboxOp β → OutboxState → Option (β × OutboxState)
  | .read, st => some (st.file, st)
  | .write_json_atomic value, st =>
    if st.failing st.writes then some (false, { st with writes := st.writes + 1 })
    else some (true, { st with file := .ok value.text.toByteArray, writes := st.writes + 1 })
  | .events, st => some (st.events, st)
  | .push event, st => some ((), { st with events := st.events ++ [event] })
  | .pop, st => some ((), { st with events := st.events.dropLast })
  | .remove_first, st =>
    match st.events with
    | [] => none
    | event :: rest => some (event, { st with events := rest })
  | .insert_first event, st => some ((), { st with events := event :: st.events })

section Apply

variable {st : OutboxState}

theorem apply_read : OutboxOp.read.apply st = some (st.file, st) := rfl

theorem apply_events : OutboxOp.events.apply st = some (st.events, st) := rfl

theorem apply_push (event : TerminalRequest) :
    (OutboxOp.push event).apply st = some ((), { st with events := st.events ++ [event] }) := rfl

theorem apply_pop :
    OutboxOp.pop.apply st = some ((), { st with events := st.events.dropLast }) := rfl

theorem apply_remove_first {event : TerminalRequest} {rest : List TerminalRequest}
    (first : st.events = event :: rest) :
    OutboxOp.remove_first.apply st = some (event, { st with events := rest }) := by
  rw [OutboxOp.apply, first]

theorem apply_insert_first (event : TerminalRequest) :
    (OutboxOp.insert_first event).apply st = some ((), { st with events := event :: st.events }) :=
  rfl

end Apply

end SessionManager
