import SessionManager.Dispatcher.Channels
import SessionManager.Manager.Conversation
import SessionManager.Manager.Kinds

/-!
# The responses on a connection

In a run of the manager a socket holds a conversation, or a part of one that has not ended
(`conversation_of_run`), and nobody else responds on its connection: the responses on the channel
are those its task has sent (`responses_of_run`).
-/

namespace SessionManager

open Json Effect

open Prog (perform)

variable {ι : Type}

/-! ## Who responds -/

def WireMessage.is_response : WireMessage → Bool
  | .response .. => true
  | _ => false

/-- Sends over a sender of the socket's own task. -/
def ManagerOp.replies : ∀ {β : Type}, ManagerOp ι β → Prop
  | _, .send .. => True
  | _, _ => False

/-- Sends a response over the handle of a connection. -/
def ConnOp.relays : ∀ {β : Type}, ConnOp β → Prop
  | _, .outbound_send msg => msg.is_response = true
  | _, _ => False

def ManagerOp.relays : ∀ {β : Type}, ManagerOp ι β → Prop
  | _, .conn _ op => op.relays
  | _, .disp _ _ (.conn op) => op.relays
  | _, _ => False

/-- The requests of the tasks that serve no socket. -/
def ManagerOp.Reserved {β : Type} (op : ManagerOp ι β) : Prop := ¬ op.replies ∧ ¬ op.relays

def ManagerOp.Direct {β : Type} (op : ManagerOp ι β) : Prop := ¬ op.relays

theorem reserved_of_calls {β : Type} {op : ManagerOp ι β} (calls : op.Calls) : op.Reserved := by
  cases op with
  | disp d c op =>
    refine ⟨not_false, fun relays => ?_⟩
    cases op with
    | conn op =>
      cases op with
      | outbound_send msg =>
        cases msg with
        | response => exact calls
        | _ => cases relays
      | _ => exact relays
    | _ => exact relays
  | reg | mask | now => exact ⟨not_false, not_false⟩
  | _ => exact calls.elim

theorem reserved_of_tends {β : Type} {op : ManagerOp ι β} (tends : op.Tends) : op.Reserved := by
  cases op with
  | conn c op =>
    refine ⟨not_false, fun relays => ?_⟩
    cases op with
    | outbound_send msg =>
      cases msg with
      | response => exact tends
      | _ => cases relays
    | _ => exact relays
  | reg | now | timeout_at | drain_dispatcher | load_inflight | cancel | tick =>
    exact ⟨not_false, not_false⟩
  | _ => exact tends.elim

theorem direct_of_serves {β : Type} {op : ManagerOp ι β} (serves : op.Serves) : op.Direct := by
  intro relays
  cases op with
  | conn c op =>
    cases op with
    | outbound_send => exact serves
    | _ => exact relays
  | disp => exact serves
  | _ => exact relays

/-- A task that serves no socket never responds. -/
theorem ManagerTask.reserved (settings : ManagerSettings) {task : ManagerTask ι}
    (other : ∀ frames, task ≠ .socket frames) : (task.prog settings).Only ManagerOp.Reserved := by
  rcases task.kind settings with ⟨⟨frames, same⟩, -⟩ | ⟨-, calls | tends⟩
  · exact absurd same (other frames)
  · exact calls.mono fun _ => reserved_of_calls
  · exact tends.mono fun _ => reserved_of_tends

/-- **No task relays a response.** -/
theorem ManagerTask.direct (settings : ManagerSettings) (task : ManagerTask ι) :
    (task.prog settings).Only ManagerOp.Direct := by
  rcases task.kind settings with ⟨-, serves⟩ | ⟨other, -⟩
  · exact serves.mono fun _ => direct_of_serves
  · exact (task.reserved settings other).mono fun _ reserved => reserved.2

/-! ## Runs -/

/-- The responses among messages. -/
def responses (messages : List WireMessage) : List WireMessage :=
  messages.filter WireMessage.is_response

/-- The messages that went to the channel of the connection over the task's own sender. -/
def sent_over (connection : Nat) (tr : List (Event (ManagerOp ι))) : List WireMessage :=
  tr.filterMap fun ev =>
    match ev with
    | ⟨.send c msg, true⟩ => if c = connection then some msg else none
    | _ => none

theorem sent_over_append (connection : Nat) (tr tr' : List (Event (ManagerOp ι))) :
    sent_over connection (tr ++ tr') = sent_over connection tr ++ sent_over connection tr' :=
  List.filterMap_append ..

/-- What a conversation emits goes to its connection, and is a response. -/
theorem Conversation.emission [DecidableEq ι] {frames : List Frame}
    {tr : List (Event (ManagerOp ι))} (conversation : Conversation frames tr) :
    ∃ connection rest, tr = ⟨.accept, connection⟩ :: rest ∧ ∀ ev ∈ tr, ∀ c msg,
      ev.request.emission = some (c, msg) → c = connection ∧ msg.is_response = true := by
  obtain ⟨connection, turns, ending, rfl, taken, still⟩ := conversation
  refine ⟨connection, _, rfl, fun ev member c msg emits => ?_⟩
  rcases List.mem_cons.mp member with rfl | member
  · cases emits
  rcases List.mem_append.mp member with member | member
  · obtain ⟨turn, listed, member⟩ := List.mem_flatMap.mp member
    obtain ⟨messages, answered, same⟩ := (taken.proper turn listed).answered
    have here : (c, msg) ∈ emitted turn.events := List.mem_filterMap.mpr ⟨ev, member, emits⟩
    rw [same] at here
    obtain ⟨msg, listed, same⟩ := List.mem_map.mp here
    cases same
    refine ⟨rfl, ?_⟩
    generalize turn.frame = frame at answered
    cases answered with
    | request | unparsable =>
      cases List.mem_singleton.mp listed
      rfl
    | _ => exact absurd listed List.not_mem_nil
  · rw [(still ev member).1] at emits
    cases emits

/-! ### One step -/

def ManagerOp.accepts : ∀ {β : Type}, ManagerOp ι β → Prop
  | _, .accept => True
  | _, _ => False

theorem not_accepted {β : Type} {op : ManagerOp ι β} {answer : β} (other : ¬ op.accepts) (c : Nat) :
    (⟨op, answer⟩ : Event (ManagerOp ι)) ≠ ⟨.accept, c⟩ :=
  Event.ne_of (P := fun op => ¬ op.accepts) other (not_not_intro trivial)

theorem ConnOp.responses_apply {β : Type} {op : ConnOp β} (direct : ¬ op.relays)
    (h : ConnectionHandle) : responses (op.apply h).2.wire = responses h.wire := by
  cases op with
  | pending_insert id tx => exact congrArg responses (h.insert_slot_frame id tx).2.2.2.2
  | pending_remove id => exact congrArg responses (h.remove_slot_frame id).2.2.2.2
  | drop_senders txs => exact congrArg responses (h.drop_senders_frame txs).2.2.2.2
  | outbound_send msg =>
    simp only [apply, ConnectionHandle.send_outbound]
    split_ifs
    · rw [responses, List.filter_append, List.filter_singleton,
        Bool.eq_false_of_not_eq_true direct]
      exact List.append_nil _
    · rfl
    · rfl
  | _ => rfl

/-- Every request has some answer. -/
theorem ManagerOp.answers {β : Type} (op : ManagerOp ι β) : Nonempty β := by
  have connection {β : Type} (op : ConnOp β) : Nonempty β := ⟨(op.apply .new).1⟩
  cases op with
  | accept | now | load_inflight => exact ⟨0⟩
  | reg op => exact ⟨(op.run 0 (.new none)).1⟩
  | conn c op => exact connection op
  | send => exact ⟨false⟩
  | disp d c op =>
    cases op with
    | conn op => exact connection op
    | load_state => exact ⟨.Open⟩
    | poll_admission => exact ⟨.queued⟩
    | resume_admission => exact ⟨.cancelled⟩
    | select => exact ⟨.cancelled⟩
    | select_cancel_sent => exact ⟨.closed⟩
    | _ => exact ⟨()⟩
  | timeout_at => exact ⟨.closed⟩
  | mask op =>
    cases op with
    | new_uuid => exact ⟨""⟩
    | post => exact ⟨.unreachable⟩
    | lock_outbox => exact ⟨[]⟩
    | persist => exact ⟨false⟩
    | unlock_outbox => exact ⟨()⟩
  | resolve => exact ⟨none⟩
  | drain_dispatcher | cancel | tick => exact ⟨()⟩

section Runs

variable [DecidableEq ι] {settings : ManagerSettings} {tools_cache : Option ToolsCacheStore}
  {tasks : ι → ManagerTask ι} {tr : List (PoolEvent ι (ManagerOp ι))}
  {q : Pool ι (ManagerOp ι) (ManagerWorld ι) ManagerReturn}

/-- **The task of a socket holds a conversation, which is complete when it has returned.** -/
theorem conversation_of_run
    (run : Pool.Run managerSemantics (managerPool settings tools_cache tasks) tr q) {i : ι}
    {frames : List Frame} (socket : tasks i = .socket frames) :
    ∃ rest, Conversation frames (Pool.project i tr ++ rest) ∧
      ∀ result, q.thread i = .ret result → rest = [] := by
  have holds : ((tasks i).prog settings).Ensures fun tr _ => Conversation frames tr := by
    rw [socket]
    refine (handle_socket_conversation frames).bind fun tr _ held => Prog.ensures_ret.mpr ?_
    rwa [List.append_nil]
  have ran : Exec ((tasks i).prog settings) (Pool.project i tr) (q.thread i) := run.project i
  cases stopped : q.thread i with
  | ret result =>
    rw [stopped] at ran
    refine ⟨[], ?_, fun _ _ => rfl⟩
    rw [List.append_nil]
    exact holds _ _ ran
  | op e k =>
    obtain ⟨rest, result, done⟩ := ran.complete ManagerOp.answers
    exact ⟨rest, holds _ _ done, fun _ same => by cases same⟩

omit [DecidableEq ι] in
theorem cell_set_connection (w : ManagerWorld ι) (connection c : Nat) (h : ConnectionHandle) :
    (w.set_connection connection h).connections.cell c =
      if c = connection then h else w.connections.cell c :=
  Arena.cell_modify w.connections connection c fun _ => h

/-- What a step does to the connections: it accepts the next one, or it adds to the channels the
responses that it delivers. -/
theorem connections_of_step {i : ι} {w w' : ManagerWorld ι} {op : ManagerOp ι β} {answer : β}
    (direct : op.Direct) (answered : managerSemantics i w op answer w') :
    (⟨op, answer⟩ : Event (ManagerOp ι)) = ⟨.accept, w.connections.next⟩ ∧
        w'.connections = w.connections.alloc .new ∨
      (∀ c, (⟨op, answer⟩ : Event (ManagerOp ι)) ≠ ⟨.accept, c⟩) ∧
        w'.connections.next = w.connections.next ∧
        ∀ c, responses (w'.connections.cell c).wire =
          responses (w.connections.cell c).wire ++ responses (sent_over c [⟨op, answer⟩]) := by
  have same (h : ConnectionHandle) (connection : Nat) (w' : ManagerWorld ι)
      (kept : responses h.wire = responses (w.connections.cell connection).wire)
      (left : w'.connections = (w.set_connection connection h).connections) (c : Nat) :
      responses (w'.connections.cell c).wire = responses (w.connections.cell c).wire ++ [] := by
    rw [List.append_nil, left, cell_set_connection]
    split
    · rename_i here
      rw [here, kept]
    · rfl
  obtain applied | ⟨external, rfl⟩ := answered
  · cases op with
    | accept =>
      cases applied
      exact .inl ⟨rfl, rfl⟩
    | conn connection op =>
      cases applied
      exact .inr ⟨not_accepted not_false, rfl,
        same _ connection _ (ConnOp.responses_apply direct _) rfl⟩
    | send connection msg =>
      rw [ManagerOp.apply, ConnectionHandle.send] at applied
      cases listening : (w.connections.cell connection).writer_open with
      | true =>
        rw [if_pos listening] at applied
        cases applied
        refine .inr ⟨not_accepted not_false, rfl, fun c => ?_⟩
        rw [cell_set_connection]
        by_cases here : c = connection
        · have gone : sent_over c [(⟨.send connection msg, true⟩ : Event (ManagerOp ι))] = [msg] := by
            simp only [sent_over, List.filterMap_cons, if_pos here.symm, List.filterMap_nil]
          rw [if_pos here, gone, here, responses, List.filter_append]
          rfl
        · have gone : sent_over c [(⟨.send connection msg, true⟩ : Event (ManagerOp ι))] = [] := by
            simp only [sent_over, List.filterMap_cons, if_neg (Ne.symm here), List.filterMap_nil]
          rw [if_neg here, gone]
          exact (List.append_nil _).symm
      | false =>
        rw [if_neg (by rw [listening]; exact Bool.false_ne_true)] at applied
        cases applied
        exact .inr ⟨not_accepted not_false, rfl, same _ connection _ rfl rfl⟩
    | disp dispatcher connection op =>
      simp only [ManagerOp.apply, Option.map_eq_some_iff] at applied
      obtain ⟨⟨b, v⟩, ran, merged⟩ := applied
      cases merged
      refine .inr ⟨not_accepted not_false, rfl, same v.connection connection _ ?_ rfl⟩
      by_cases own : op.for_conn
      · cases op with
        | conn op =>
          rw [(DispOp.apply_conn ran).2]
          exact ConnOp.responses_apply direct _
        | _ => exact own.elim
      · rw [DispOp.apply_connection own ran]
        rfl
    | reg op =>
      simp only [ManagerOp.apply, Option.map_eq_some_iff] at applied
      obtain ⟨_, -, same⟩ := applied
      cases same
      exact .inr ⟨not_accepted not_false, rfl, fun c => (List.append_nil _).symm⟩
    | timeout_at =>
      simp only [ManagerOp.apply, Option.map_eq_some_iff] at applied
      obtain ⟨_, -, same⟩ := applied
      cases same
      exact .inr ⟨not_accepted not_false, rfl, fun c => (List.append_nil _).symm⟩
    | drain_dispatcher | load_inflight | now | cancel | tick =>
      cases applied
      exact .inr ⟨not_accepted not_false, rfl, fun c => (List.append_nil _).symm⟩
    | mask | resolve => cases applied
  · cases op with
    | mask | resolve =>
      exact .inr ⟨not_accepted not_false, rfl, fun c => (List.append_nil _).symm⟩
    | _ => cases external

/-- Connections are accepted one after the other, each by one task. -/
structure AcceptedOnce (next : Nat) (tr : List (PoolEvent ι (ManagerOp ι))) : Prop where
  bounded : ∀ i c, ⟨i, ⟨.accept, c⟩⟩ ∈ tr → c < next
  once : ∀ i j c, ⟨i, ⟨.accept, c⟩⟩ ∈ tr → ⟨j, ⟨.accept, c⟩⟩ ∈ tr → i = j

omit [DecidableEq ι] in
/-- Which step of a longer run accepted a connection. -/
theorem accept_mem_snoc {past : List (PoolEvent ι (ManagerOp ι))} {i j : ι} {β : Type}
    {op : ManagerOp ι β} {answer : β} {c : Nat} :
    (⟨j, ⟨.accept, c⟩⟩ : PoolEvent ι (ManagerOp ι)) ∈ past ++ [⟨i, ⟨op, answer⟩⟩] ↔
      (⟨j, ⟨.accept, c⟩⟩ : PoolEvent ι (ManagerOp ι)) ∈ past ∨
        j = i ∧ (⟨op, answer⟩ : Event (ManagerOp ι)) = ⟨.accept, c⟩ := by
  rw [List.mem_append, List.mem_singleton, PoolEvent.mk.injEq, eq_comm (a := Event.mk _ _)]

theorem accepted_once
    (run : Pool.Run managerSemantics (managerPool settings tools_cache tasks) tr q) :
    AcceptedOnce q.shared.connections.next tr := by
  refine (run.history_of_only (I := fun w past => AcceptedOnce w.connections.next past)
    (fun i => (tasks i).direct settings) ?_ ?_).1
  · exact ⟨fun i c member => absurd member List.not_mem_nil,
      fun i j c member => absurd member List.not_mem_nil⟩
  intro w w' past i β op answer held direct answered
  obtain ⟨accepted, grown⟩ | ⟨other, same, -⟩ := connections_of_step direct answered
  · have newest (j : ι) (c : Nat) :
        (⟨j, ⟨.accept, c⟩⟩ : PoolEvent ι (ManagerOp ι)) ∈ past ++ [⟨i, ⟨op, answer⟩⟩] →
          (⟨j, ⟨.accept, c⟩⟩ : PoolEvent ι (ManagerOp ι)) ∈ past ∧ c < w.connections.next ∨
            j = i ∧ c = w.connections.next := by
      intro member
      rcases accept_mem_snoc.mp member with member | ⟨own, here⟩
      · exact .inl ⟨member, held.bounded j c member⟩
      · rw [accepted] at here
        cases here
        exact .inr ⟨own, rfl⟩
    rw [grown, Arena.next_alloc]
    refine ⟨fun j c member => ?_, fun j k c first second => ?_⟩
    · rcases newest j c member with ⟨-, bound⟩ | ⟨-, rfl⟩ <;> omega
    · rcases newest j c first with ⟨first, bound⟩ | ⟨rfl, new⟩
      · rcases newest k c second with ⟨second, -⟩ | ⟨-, rfl⟩
        · exact held.once j k c first second
        · exact absurd bound (Nat.lt_irrefl _)
      · rcases newest k c second with ⟨-, bound⟩ | ⟨rfl, -⟩
        · omega
        · rfl
  · have earlier (j : ι) (c : Nat)
        (member : (⟨j, ⟨.accept, c⟩⟩ : PoolEvent ι (ManagerOp ι)) ∈ past ++ [⟨i, ⟨op, answer⟩⟩]) :
        (⟨j, ⟨.accept, c⟩⟩ : PoolEvent ι (ManagerOp ι)) ∈ past :=
      (accept_mem_snoc.mp member).resolve_right fun here => other c here.2
    rw [same]
    exact ⟨fun j c member => held.bounded j c (earlier j c member),
      fun j k c first second => held.once j k c (earlier j c first) (earlier k c second)⟩

/-- Who sends on a connection has accepted it. -/
theorem accepted_of_send
    (run : Pool.Run managerSemantics (managerPool settings tools_cache tasks) tr q) {i : ι} {c : Nat}
    {msg : WireMessage} {answer : Bool}
    (sent : (⟨i, ⟨.send c msg, answer⟩⟩ : PoolEvent ι (ManagerOp ι)) ∈ tr) :
    (⟨i, ⟨.accept, c⟩⟩ : PoolEvent ι (ManagerOp ι)) ∈ tr ∧ msg.is_response = true := by
  have member : (⟨.send c msg, answer⟩ : Event (ManagerOp ι)) ∈ Pool.project i tr :=
    Pool.mem_project.mpr sent
  by_cases socket : ∃ frames, tasks i = .socket frames
  · obtain ⟨frames, socket⟩ := socket
    obtain ⟨rest, held, -⟩ := conversation_of_run run socket
    obtain ⟨connection, tail, whole, emission⟩ := held.emission
    obtain ⟨rfl, response⟩ := emission _ (List.mem_append_left rest member) c msg rfl
    refine ⟨Pool.mem_project.mp ?_, response⟩
    cases first : Pool.project i tr with
    | nil =>
      rw [first] at member
      exact absurd member List.not_mem_nil
    | cons ev past =>
      rw [first, List.cons_append] at whole
      rw [(List.cons.inj whole).1]
      exact List.mem_cons_self
  · have reserved := (run.project i).only
      (ManagerTask.reserved settings fun frames same => socket ⟨frames, same⟩) _ member
    exact absurd trivial reserved.1

omit [DecidableEq ι] in
theorem mem_of_sent_over {c : Nat} {evs : List (Event (ManagerOp ι))} {msg : WireMessage}
    (sent : msg ∈ sent_over c evs) : ⟨.send c msg, true⟩ ∈ evs := by
  obtain ⟨⟨op, answer⟩, member, sends⟩ := List.mem_filterMap.mp sent
  cases op with
  | send connection msg' =>
    cases answer with
    | true =>
      obtain ⟨rfl, same⟩ := Option.ite_none_right_eq_some.mp sends
      cases same
      exact member
    | false => cases sends
  | _ => cases sends

theorem sent_over_snoc (past : List (PoolEvent ι (ManagerOp ι))) (i j : ι) (c : Nat)
    (ev : Event (ManagerOp ι)) :
    sent_over c (Pool.project i (past ++ [⟨j, ev⟩])) =
      sent_over c (Pool.project i past) ++ if j = i then sent_over c [ev] else [] := by
  by_cases own : j = i
  · rw [own, Pool.project_snoc_self, sent_over_append, if_pos rfl]
  · rw [Pool.project_snoc_of_ne own, if_neg own, List.append_nil]

/-- **The responses on a channel are those its socket's task has sent.** -/
theorem responses_of_run
    (run : Pool.Run managerSemantics (managerPool settings tools_cache tasks) tr q) {i : ι} {c : Nat}
    (accepted : ⟨i, ⟨.accept, c⟩⟩ ∈ tr) :
    responses (q.shared.connections.cell c).wire = responses (sent_over c (Pool.project i tr)) := by
  induction run with
  | nil => exact absurd accepted List.not_mem_nil
  | @snoc q r past ev before one ih =>
    have whole := before.snoc one
    have direct := (before.invariant_of_only (I := fun _ => True)
      (fun j => (tasks j).direct settings) trivial fun _ _ _ _ _ => trivial).2
    cases one with
    | @step w w' thread j β op k answer rest answered =>
      have here : (Prog.op op k).Only ManagerOp.Direct := rest ▸ direct j
      rw [sent_over_snoc]
      rcases connections_of_step here.1 answered with ⟨newest, grown⟩ | ⟨other, -, kept⟩
      · have silent : (if j = i then sent_over c [(⟨op, answer⟩ : Event (ManagerOp ι))] else []) =
            [] := by
          rw [newest]
          exact ite_self []
        rw [silent, List.append_nil, grown, Arena.cell_alloc]
        rcases accept_mem_snoc.mp accepted with earlier | ⟨-, same⟩
        · rw [if_neg (Nat.ne_of_lt ((accepted_once before).bounded i c earlier))]
          exact ih earlier
        · rw [newest] at same
          cases same
          -- Nobody can have sent over a connection that was not accepted yet.
          have unsent : sent_over w.connections.next (Pool.project i past) = [] := by
            refine List.eq_nil_iff_forall_not_mem.mpr fun msg sent => ?_
            have earlier := (accepted_of_send before (Pool.mem_project.mp (mem_of_sent_over sent))).1
            exact Nat.lt_irrefl _ ((accepted_once before).bounded i _ earlier)
          rw [if_pos rfl, unsent]
          rfl
      · have earlier := (accept_mem_snoc.mp accepted).resolve_right fun same => other c same.2
        rw [kept c, ih earlier]
        by_cases own : j = i
        · rw [if_pos own, responses, responses, ← List.filter_append]
          rfl
        · have silent : sent_over c [(⟨op, answer⟩ : Event (ManagerOp ι))] = [] := by
            refine List.eq_nil_iff_forall_not_mem.mpr fun msg sent => own ?_
            cases List.mem_singleton.mp (mem_of_sent_over sent)
            have owner := (accepted_of_send whole (List.mem_append_right past
              (List.mem_singleton_self _))).1
            exact (accepted_once whole).once j i c owner accepted
          rw [if_neg own, silent]
          simp only [responses, List.filter_nil, List.append_nil]

/-- The registrations made over a connection. -/
theorem Conversation.registered_le {frames : List Frame} {tr rest : List (Event (ManagerOp ι))}
    (conversation : Conversation frames (tr ++ rest)) : (registered tr).length ≤ 1 := by
  obtain ⟨connection, turns, ending, whole, taken, still⟩ := conversation
  have room : (registered (turns.flatMap Turn.events)).length ≤ 1 := taken.room
  have total := congrArg (fun evs => (registered evs).length) whole
  simp only [registered_append, registered_cons, registered_of_still still, List.append_nil,
    List.length_append] at total
  have accepts : ((ManagerOp.accept (ι := ι)).registration connection).toList = [] := rfl
  rw [accepts, List.length_nil] at total
  omega

/-- **The protocol of a connection.**  Whatever the other tasks do, the task of a socket takes the
frames in turns up to the first goodbye, and each turn is proper; at most one registration is made
over the connection; and the responses on its channel are those of the task, in its order. -/
theorem connection_protocol
    (run : Pool.Run managerSemantics (managerPool settings tools_cache tasks) tr q) {i : ι}
    {frames : List Frame} (socket : tasks i = .socket frames) :
    (∃ rest, Conversation frames (Pool.project i tr ++ rest) ∧
        ∀ result, q.thread i = .ret result → rest = []) ∧
      (registered (Pool.project i tr)).length ≤ 1 ∧
      ∀ c, ⟨i, ⟨.accept, c⟩⟩ ∈ tr →
        responses (q.shared.connections.cell c).wire =
          responses (sent_over c (Pool.project i tr)) := by
  obtain ⟨rest, held, complete⟩ := conversation_of_run run socket
  exact ⟨⟨rest, held, complete⟩, held.registered_le, fun c accepted => responses_of_run run accepted⟩

end Runs

/-! ### A client that speaks out of turn -/

/-- It registers, sends what is no message, registers again, says goodbye and goes on. -/
def talkative : List Frame :=
  [registers "s" [], .unparsable "expected value", registers "s" [],
    .text (.request (.number 1) methods.SESSION_BYE .null),
    .text (.request (.number 2) methods.SESSION_REGISTER .null)]

def talkative_settings : ManagerSettings :=
  gated_settings { enabled := true, internal_tools := [] }

def talkative_run := ManagerPool.play .unreachable (List.replicate 30 ())
  (managerPool talkative_settings none fun _ => .socket talkative)

theorem connection_protocol_talkative :
    (talkative_run.2.shared.connections.cell 0).wire =
        [.response .null (.ok (talkative_settings.app_state.register_result "s" false)),
          .response .null (.error
            { code := -32700, message := "parse error: expected value", data := none }),
          .response .null (.error
            { code := -32600, message := "session already registered on this connection",
              data := none }),
          .response (.number 1) (.ok (.object []))] ∧
      responses (talkative_run.2.shared.connections.cell 0).wire =
        responses (sent_over 0 (Pool.project () talkative_run.1)) := by
  have run := ManagerPool.run_play .unreachable (List.replicate 30 ())
    (managerPool talkative_settings none fun _ => .socket talkative)
  exact ⟨rfl, (connection_protocol run rfl).2.2 0 (List.mem_cons_self ..)⟩

end SessionManager
