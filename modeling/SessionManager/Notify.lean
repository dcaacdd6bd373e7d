import SessionManager.Effect.Arc
import SessionManager.Effect.Handle

/-!
# `ToolsListChangedNotifier`

The notifier keeps weak handles to the MCP peers that called it, and tells them that the list of
tools has changed.
-/

namespace SessionManager

open Effect

open Prog (perform)

/-- What the notifier does: with `Arc`s, with its guarded list of peers, and with a peer. -/
inductive NotifierOp (Peer : Type) : Type → Type
  | new (peer : Peer) : NotifierOp Peer (Arc Peer)
  | upgrade (weak : Weak) : NotifierOp Peer (Option (Arc Peer))
  | drop (arc : Arc Peer) : NotifierOp Peer Unit
  | peers : NotifierOp Peer (List Weak)
  | set_peers (peers : List Weak) : NotifierOp Peer Unit
  | notify_tool_list_changed (peer : Peer) : NotifierOp Peer Bool

namespace ToolsListChangedNotifier

variable {Peer : Type}

/-- `w.upgrade().is_some()`. -/
def is_live (w : Weak) : Prog (NotifierOp Peer) Bool := do
  match ← perform (.upgrade w) with
  | some arc =>
    perform (.drop arc)
    return true
  | none => return false

def retain_live : List Weak → Prog (NotifierOp Peer) (List Weak)
  | [] => return []
  | w :: rest => do
    let live ← is_live w
    let rest ← retain_live rest
    return if live then w :: rest else rest

/-- Is one of the handles a handle to `new_arc`? -/
def holds (new_arc : Arc Peer) : List Weak → Prog (NotifierOp Peer) Bool
  | [] => return false
  | w :: rest => do
    match ← perform (.upgrade w) with
    | some existing =>
      perform (.drop existing)
      if existing.ptr_eq new_arc then return true
      holds new_arc rest
    | none => holds new_arc rest

def register_peer (peer : Peer) : Prog (NotifierOp Peer) Unit := do
  let new_arc ← perform (.new peer)
  let guard ← retain_live (← perform .peers)
  let known ← holds new_arc guard
  perform (.set_peers (if known then guard else guard ++ [new_arc.downgrade]))
  -- `let _ = new_arc` keeps nothing: the handle ends with the function
  perform (.drop new_arc)

/-- Notify the peers of the handles that lead to one; count those that were reached. -/
def notify_all : List Weak → Prog (NotifierOp Peer) Nat
  | [] => return 0
  | weak :: rest => do
    match ← perform (.upgrade weak) with
    | some peer =>
      let sent ← perform (.notify_tool_list_changed peer.value)
      perform (.drop peer)
      return (if sent then 1 else 0) + (← notify_all rest)
    | none => notify_all rest

def broadcast : Prog (NotifierOp Peer) Nat := do
  let sent ← notify_all (← perform .peers)
  let guard ← retain_live (← perform .peers)
  perform (.set_peers guard)
  return sent

end ToolsListChangedNotifier

/-- The notifier, the peers whose session has ended, and the notifications that were sent. -/
structure NotifierState (Peer : Type) where
  heap : Heap Peer
  peers : List Weak
  ended : List Peer
  sent : List Peer

namespace NotifierState

variable {Peer : Type} [DecidableEq Peer]

def new : NotifierState Peer := ⟨.empty, [], [], []⟩

/-- A notification reaches a peer whose session is alive, and fails otherwise. -/
def run {β : Type} : NotifierOp Peer β → NotifierState Peer → β × NotifierState Peer
  | .new peer, st => ((st.heap.alloc peer).1, { st with heap := (st.heap.alloc peer).2 })
  | .upgrade weak, st => ((st.heap.upgrade weak).1, { st with heap := (st.heap.upgrade weak).2 })
  | .drop arc, st => ((), { st with heap := st.heap.drop arc })
  | .peers, st => (st.peers, st)
  | .set_peers peers, st => ((), { st with peers })
  | .notify_tool_list_changed peer, st =>
      if peer ∈ st.ended then (false, st) else (true, { st with sent := st.sent ++ [peer] })

end NotifierState

end SessionManager
