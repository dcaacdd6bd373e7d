import SessionManager.Effect.Before
import SessionManager.Manager.Conversation
import SessionManager.Manager.Kinds

/-!
# What the tasks work on that end sessions

A socket works on the connection that it has accepted and a shutdown on that of the record it has
read: on connections that they may drain (`ManagerTask.Ends.handles`).  A socket registers before
it drains anything (`handle_socket_registers`).
-/

namespace SessionManager

open Json Effect

open Prog (perform)

variable {ι : Type}

/-- The tasks by which sessions end: disconnects and goodbyes are the end of a socket. -/
def ManagerTask.Ends : ManagerTask ι → Prop
  | .socket _ | .shutdown _ | .idle_sweep => True
  | _ => False

/-- Registers a session, or reports its tools. -/
def ManagerOp.declares : ∀ {β : Type}, ManagerOp ι β → Prop
  | _, .reg (.register ..) | _, .reg (.update_tools ..) => True
  | _, _ => False

/-! ## Connections -/

/-- The connections that the task works on are those it may drain, and it takes part in no call. -/
def handleProtocol (gate : MaskingGate) : Protocol (ManagerOp ι) TaskLog where
  allows g _ op :=
    match op with
    | .conn c op => op.drains ∨ g.DrainsConnection c
    | .send c _ => g.DrainsConnection c
    | .disp .. => False
    | .reg .snapshot | .reg (.get _) => True
    | .reg op => op.hosts
    | _ => True
  next := (taskProtocol gate).next

section Tasks

variable {gate : MaskingGate} {connection : Option Nat} {g : TaskLog}

theorem next_of_works_on (gate : MaskingGate) (g : TaskLog) {β : Type} {op : ManagerOp ι β}
    (works : op.WorksOn connection) (answer : β) : ((taskProtocol gate).next g op answer).own = g.own ∧
      ((taskProtocol gate).next g op answer).target = g.target := by
  cases op with
  | accept | disp | load_inflight | mask | cancel | tick => exact works.elim
  | reg op =>
    cases op with
    | get => exact works.elim
    | register => cases answer <;> exact ⟨rfl, rfl⟩
    | _ => exact ⟨rfl, rfl⟩
  | conn c op => cases op <;> exact ⟨rfl, rfl⟩
  | _ => exact ⟨rfl, rfl⟩

theorem follows_of_works_on (connection : Option Nat) {α : Type} {p : Prog (ManagerOp ι) α}
    (only : p.Only (ManagerOp.WorksOn connection))
    (held : ∀ c, connection = some c → g.own = some c ∨
      ∃ session_id record, g.target = some (session_id, record) ∧ record.connection = some c) :
    (handleProtocol gate).Follows (fun _ _ => True) g p := by
  induction p generalizing g with
  | ret a => trivial
  | op e k ih =>
    obtain ⟨works, rest⟩ := only
    have drains (c : Nat) (same : connection = some c) : g.DrainsConnection c := by
      rcases held c same with own | target
      · exact .inl own
      · exact .inr (.inl target)
    refine ⟨?_, fun b => ih b (rest b) fun c same => ?_⟩
    · cases e with
      | reg op =>
        cases op with
        | snapshot | get => trivial
        | _ => exact works
      | conn c op => exact works.imp id (drains c)
      | send c msg => exact drains c works
      | disp => exact works.elim
      | _ => trivial
    · obtain ⟨own, target⟩ := next_of_works_on gate g works b
      exact own.symm ▸ target.symm ▸ held c same

theorem shutdown_session_handles (grace_ms : Nat) (session_id : String) :
    (handleProtocol gate).Follows (fun _ _ => True) g
      (shutdown_session grace_ms session_id : Prog (ManagerOp ι) KillOutcome) := by
  unfold shutdown_session
  refine Protocol.follows_perform.mpr ⟨trivial, fun found => ?_⟩
  cases found with
  | none => trivial
  | some record =>
    refine follows_of_works_on record.connection ?_
      fun c same => .inr ⟨session_id, record, rfl, same⟩
    have removed : ((SessionRegistry.remove_if_generation session_id
        record.connection_generation).lift .reg :
          Prog (ManagerOp ι) _).Only (ManagerOp.WorksOn record.connection) :=
      Prog.only_lift.mpr (remove_if_generation_hosts _ _)
    exact ((drain_session_ends_on grace_ms record).mono fun _ ends => ends.2).bind fun _ =>
      removed.bind fun _ => trivial

theorem sweep_once_handles (grace_ms idle_timeout : Nat) :
    (handleProtocol gate).Follows (fun _ _ => True) g
      (sweep_once grace_ms idle_timeout : Prog (ManagerOp ι) Unit) := by
  have candidates (now : Nat) (records : List SessionRecord) : (idle_candidates now idle_timeout
      records : Prog (ManagerOp ι) _).Only fun op => ∀ g, (handleProtocol gate).allows g op := by
    induction records with
    | nil => trivial
    | cons record records ih =>
      have idle : (is_idle now idle_timeout record :
          Prog (ManagerOp ι) Bool).Only fun op => ∀ g, (handleProtocol gate).allows g op := by
        unfold is_idle
        cases record.state with
        | Disconnected => trivial
        | Active => exact ⟨fun _ => trivial, fun _ => trivial⟩
      exact idle.bind fun _ => ih.bind fun _ => trivial
  have shutdowns (session_ids : List String) (g : TaskLog) :
      (handleProtocol gate).Follows (fun _ _ => True) g
        (shutdown_sessions grace_ms session_ids : Prog (ManagerOp ι) Unit) := by
    induction session_ids generalizing g with
    | nil => trivial
    | cons session_id session_ids ih =>
      exact (shutdown_session_handles grace_ms session_id).bind fun g' _ _ => ih g'
  unfold sweep_once
  exact ⟨trivial, fun now => ⟨trivial, fun records =>
    (Protocol.Follows.of_admitted (candidates now records) _).bind fun g' _ _ => shutdowns _ g'⟩⟩

theorem handle_socket_handles (state : AppState) (decoders : Decoders) (frames : List Frame) :
    (handleProtocol gate).Follows (fun _ _ => True) .empty
      (handle_socket state decoders frames : Prog (ManagerOp ι) Unit) := by
  unfold handle_socket
  refine Protocol.follows_perform.mpr ⟨trivial, fun connection => ?_⟩
  refine follows_of_works_on (some connection) ?_ fun c same => .inl same
  exact ((serve_converses frames).mono fun _ converses => converses.1.2).bind fun _ =>
    close_serves_on.mono fun _ serves => serves.2

/-- **What ends sessions works on connections that it may drain.** -/
theorem ManagerTask.Ends.handles {task : ManagerTask ι} (ends : task.Ends)
    (settings : ManagerSettings) :
    (handleProtocol settings.gate).Follows (fun _ _ => True) .empty (task.prog settings) := by
  cases task with
  | socket frames =>
    exact (handle_socket_handles settings.app_state settings.decoders frames).bind
      fun _ _ _ => trivial
  | shutdown session_id =>
    exact (shutdown_session_handles _ session_id).bind fun _ _ _ => trivial
  | idle_sweep => exact (sweep_once_handles _ _).bind fun _ _ _ => trivial
  | _ => exact ends.elim

end Tasks

/-! ## Registrations -/

def ManagerOp.registers : ∀ {β : Type}, ManagerOp ι β → Prop
  | _, .reg (.register ..) => True
  | _, _ => False

theorem not_registers_of_still {β : Type} {op : ManagerOp ι β} (still : op.Still) :
    ¬ op.registers := by
  intro registers
  cases op with
  | reg op =>
    cases op with
    | register params now connection => cases still.2 (.ok (.Created, 0))
    | _ => exact registers
  | _ => exact registers

/-- A socket registers while it takes the frames, and drains after them. -/
theorem handle_socket_registers (state : AppState) (decoders : Decoders) (frames : List Frame) :
    (Protocol.before ManagerOp.registers ManagerOp.drains).Follows (fun _ _ => True) False
      (handle_socket state decoders frames : Prog (ManagerOp ι) Unit) := by
  unfold handle_socket
  refine Protocol.follows_perform.mpr ⟨fun registers => registers.elim, fun connection => ?_⟩
  refine (Protocol.before_early ((serve_converses frames).mono fun _ converses => converses.2)
    (not_or.mpr ⟨id, id⟩)).bind ?_
  intro drained peer _
  exact Protocol.before_late ((close_still peer).mono fun _ => not_registers_of_still)

end SessionManager
