import SessionManager.Server

/-!
# A call in fixed surroundings

`Surroundings` fix everything an agent's call meets except the outcome of its `tool.call`: the
registry, the ids it draws, what the masking service and the disk answer at each turn, and the
terminal outbox.  `Surroundings.answer` answers the call's requests in them, for a given
outcome.
-/

namespace SessionManager

open Json Effect

structure Surroundings where
  registry : SessionRegistry
  now : Nat
  uuid : Nat → String
  service : Nat → HttpAnswer
  disk : Nat → Bool
  outbox : List TerminalRequest

/-- What a call changes, and how often it has drawn an id, asked the service, written. -/
structure CallState where
  registry : SessionRegistry
  outbox : List TerminalRequest
  uuids : Nat
  answers : Nat
  writes : Nat

abbrev Outcome := Except DispatcherError ToolCallResult

namespace Surroundings

variable (env : Surroundings)

def start : CallState where
  registry := env.registry
  outbox := env.outbox
  uuids := 0
  answers := 0
  writes := 0

def reg : Handler RegOp CallState := fun op s =>
  (op.apply env.now s.registry).map fun result => (result.1, { s with registry := result.2 })

def mask : Handler MaskOp CallState
  | _, .new_uuid, s => some (env.uuid s.uuids, { s with uuids := s.uuids + 1 })
  | _, .post _, s => some (env.service s.answers, { s with answers := s.answers + 1 })
  | _, .lock_outbox, s => some (s.outbox, s)
  | _, .persist events, s => some (env.disk s.writes,
      { s with writes := s.writes + 1, outbox := if env.disk s.writes then events else s.outbox })
  | _, .unlock_outbox, s => some ((), s)

/-- The surroundings, where the `tool.call` comes to this outcome. -/
def answer (outcome : Outcome) : Handler ProxyOp CallState
  | _, .reg op, s => env.reg op s
  | _, .mask op, s => env.mask op s
  | _, .now, s => some (env.now, s)
  | _, .enqueue _ _ _ _, s => some (outcome, s)

end Surroundings

end SessionManager
