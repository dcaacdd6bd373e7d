import SessionManager.Manager

/-!
# `session.list`

The sessions of the registry as an agent sees them (`session_manager/management.rs`): sorted by
id, with the tools that are public.
-/

namespace SessionManager

open Effect

open Prog (perform)

structure SessionListItem where
  session_id : String
  kind : String
  config_id : String
  version : String
  infobase_name : String
  ib_session_number : Nat
  host_id : String
  state : SessionState
  tools : List ToolDescriptor
  inflight : Nat
  registered_secs_ago : Nat
  disconnected_secs_ago : Option Nat
  deriving DecidableEq

/-- The clock counts milliseconds. -/
def secs_since (now earlier : Nat) : Nat := (now - earlier) / 1000

def SessionListItem.from_record (now inflight : Nat) (record : SessionRecord) :
    SessionListItem where
  session_id := record.session_id
  kind := record.kind
  config_id := record.config_id
  version := record.version
  infobase_name := record.infobase_name
  ib_session_number := record.ib_session_number
  host_id := record.host_id
  state := record.state
  tools := record.tools.filter fun tool => tool.visibility.is_public
  inflight := inflight
  registered_secs_ago := secs_since now record.registered_at
  disconnected_secs_ago := record.disconnected_at.map (secs_since now)

variable {ι : Type}

namespace management

def list_items (now : Nat) : List SessionRecord → Prog (ManagerOp ι) (List SessionListItem)
  | [] => return []
  | record :: records => do
    let inflight ← perform (.load_inflight record.dispatcher)
    let items ← list_items now records
    return .from_record now inflight record :: items

def list : Prog (ManagerOp ι) (List SessionListItem) := do
  let now ← perform .now
  let items ← list_items now (← perform (.reg .snapshot))
  return items.mergeSort fun a b => a.session_id ≤ b.session_id

end management

end SessionManager
