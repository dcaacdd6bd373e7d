import SessionManager.Adapter.Frames
import SessionManager.Manager.Generations

/-!
# The goodbye of an adapter

An adapter says goodbye with a notification, and the manager takes goodbyes as requests only: its
socket task passes over the frame (`socket_rest_goodbye`).  So what becomes of the record depends
on the other tasks alone: it is gone exactly when another step has dropped it (`goodbye_iff`).
-/

namespace SessionManager

open Json Effect

open Prog (perform)

variable {ι : Type}

/-! ## The frame -/

/-- What the task of a socket has left to do with these frames to come. -/
def socket_rest (settings : ManagerSettings) (connection : Nat) (peer : Option ConnectionIdentity)
    (frames : List Frame) : Prog (ManagerOp ι) ManagerReturn := do
  let peer ← serve settings.app_state settings.decoders connection peer frames
  ConnectionHandle.drain connection
  perform (.conn connection .close_writer)
  disconnect_peer peer
  return .done

variable {settings : ManagerSettings} {connection : Nat} {peer : Option ConnectionIdentity}
  {frames : List Frame}

theorem socket_prog :
    ((ManagerTask.socket frames).prog settings : Prog (ManagerOp ι) ManagerReturn) =
      (perform .accept >>= fun connection => socket_rest settings connection none frames) := by
  simp only [ManagerTask.prog, handle_socket, socket_rest, Prog.bind_assoc]

/-- The goodbye of an adapter is passed over. -/
theorem socket_rest_goodbye {msg : WireMessage} (said : WireMessage.from_value session_bye = .ok msg) :
    (socket_rest settings connection peer (.text msg :: frames) : Prog (ManagerOp ι) ManagerReturn) =
      socket_rest settings connection peer frames := by
  cases said
  rfl

section Goodbye

variable [DecidableEq ι] {tools_cache : Option ToolsCacheStore} {tasks : ι → ManagerTask ι}
  {tr later : List (PoolEvent ι (ManagerOp ι))}
  {q q' : Pool ι (ManagerOp ι) (ManagerWorld ι) ManagerReturn}

/-- **The goodbye of an adapter.**  The task that has registered a generation takes the frame
without a step, and then, and at any time later, the record of the generation is gone if and only
if some step has dropped it since it was registered. -/
theorem goodbye_iff
    (run : Pool.Run managerSemantics (managerPool settings tools_cache tasks) tr q) {i : ι}
    {a b : List (PoolEvent ι (ManagerOp ι))} {params : SessionRegisterParams} {now generation : Nat}
    {handle : Option Nat} {outcome : RegisterOutcome}
    (registered : tr = a ++ ⟨i, ⟨.reg (.register params now handle), .ok (outcome, generation)⟩⟩ :: b)
    {msg : WireMessage} (said : WireMessage.from_value session_bye = .ok msg)
    (reads : q.thread i = socket_rest settings connection peer (.text msg :: frames))
    (after : Pool.Run managerSemantics q later q') :
    q.thread i = socket_rest settings connection peer frames ∧
      (¬ q'.shared.registry.Holds params.client_uid generation ↔
        Dropped params.client_uid generation (b ++ later)) := by
  refine ⟨by rw [reads, socket_rest_goodbye said], ?_⟩
  subst registered
  obtain ⟨s, s', -, one, rest⟩ := run.split
  refine not_holds_iff_dropped (rest.append after) ?_
  cases one with
  | step _ answered => exact (holds_of_step answered).mpr (.inl ⟨_, rfl, rfl, rfl⟩)

end Goodbye

/-! ### An adapter that leaves -/

def leaving_settings : ManagerSettings :=
  { gated_settings { enabled := true, internal_tools := [] } with graceful_kill_grace_ms := 0 }

def goodbye : Frame := .text (.notification methods.SESSION_BYE .null)

/-- The adapter registers and says goodbye; the manager may shut its session down before. -/
def leaving_tasks : Bool → ManagerTask Bool
  | false => .socket [registers "s" [], goodbye]
  | true => .shutdown "s"

def leave (schedule : List Bool) :=
  ManagerPool.play .unreachable schedule (managerPool leaving_settings none leaving_tasks)

def leaving_peer : ConnectionIdentity where
  session_id := "s"
  generation := 1

set_option maxRecDepth 2000 in
/-- Nobody has asked it to leave.  Its record is there, and active, when the goodbye has been taken,
and it is kept as disconnected after the socket has closed. -/
theorem goodbye_leaves_record :
    WireMessage.from_value session_bye = .ok (.notification methods.SESSION_BYE .null) ∧
      Pool.Run managerSemantics (managerPool leaving_settings none leaving_tasks)
        (leave (List.replicate 23 false)).1 (leave (List.replicate 23 false)).2 ∧
      (leave (List.replicate 8 false)).2.thread false =
        socket_rest leaving_settings 0 (some leaving_peer) [goodbye] ∧
      (leave (List.replicate 8 false)).2.shared.registry.Holds "s" 1 ∧
      (leave (List.replicate 23 false)).2.thread false = .ret .done ∧
      ∃ record, (leave (List.replicate 23 false)).2.shared.registry.inner.get "s" = some record ∧
        record.connection_generation = 1 ∧ record.state = .Disconnected :=
  ⟨rfl, ManagerPool.run_play .unreachable _ _, rfl, ⟨_, rfl, rfl⟩, rfl, _, rfl, rfl, rfl⟩

/-- The manager has shut the session down before it takes the goodbye. -/
def leave_after_shutdown := leave (List.replicate 8 false ++ List.replicate 17 true)

set_option maxRecDepth 2000 in
theorem goodbye_iff_shutdown :
    leave_after_shutdown.2.shared.registry.inner.get "s" = none ∧
      (¬ leave_after_shutdown.2.shared.registry.Holds "s" 1 ↔
        Dropped "s" 1 (leave_after_shutdown.1.drop 4)) := by
  have run := ManagerPool.run_play .unreachable (List.replicate 8 false ++ List.replicate 17 true)
    (managerPool leaving_settings none leaving_tasks)
  have split : leave_after_shutdown.1 = leave_after_shutdown.1.take 3 ++
      ⟨false, ⟨.reg (.register (client_params "s" []) 0 (some 0)), .ok (.Created, 1)⟩⟩ ::
        leave_after_shutdown.1.drop 4 := rfl
  have reads : leave_after_shutdown.2.thread false =
      socket_rest leaving_settings 0 (some leaving_peer) [goodbye] := rfl
  have left := (goodbye_iff run split read_session_bye reads (.nil _)).2
  rw [List.append_nil] at left
  exact ⟨rfl, left⟩

end SessionManager
