import SessionManager.Server.CallLog

/-!
# What a call that goes out rests on

A call is put on a dispatcher only after the call itself has read a snapshot that publishes the
tool, then the record it uses, and, with masking, an answer to preflight that allows the
arguments (`enqueued`).
-/

namespace SessionManager

open Json Effect

/-- The log remembers answers the call was given. -/
structure CallLog.Remembers (crates : Crates) (g : CallLog) (past : List (Event ProxyOp)) :
    Prop where
  view : ∀ snapshot, g.view = some snapshot → ⟨.reg .snapshot, snapshot⟩ ∈ past
  fetched : ∀ snapshot session_id record, g.view = some snapshot →
    g.fetched = some (session_id, record) →
    ∃ a b c, past = a ++ ⟨.reg .snapshot, snapshot⟩ :: b ++
      ⟨.reg (.get session_id), some record⟩ :: c
  cleared : ∀ arguments, g.cleared = some arguments → ∃ request answer,
    ⟨.mask (.post (.preflight request)), answer⟩ ∈ past ∧
      cleared_arguments crates answer = some arguments

variable {crates : Crates} {g : CallLog} {past : List (Event ProxyOp)}

theorem CallLog.Remembers.empty : CallLog.empty.Remembers crates [] where
  view snapshot none := by cases none
  fetched snapshot session_id record none := by cases none
  cleared arguments none := by cases none

theorem CallLog.Remembers.snoc (remembers : g.Remembers crates past) {g' : CallLog}
    (event : Event ProxyOp) (view : g'.view = g.view) (fetched : g'.fetched = g.fetched)
    (cleared : g'.cleared = g.cleared) : g'.Remembers crates (past ++ [event]) where
  view snapshot here := List.mem_append_left _ (remembers.view snapshot (view ▸ here))
  fetched snapshot session_id record viewed here := by
    obtain ⟨a, b, c, rfl⟩ := remembers.fetched snapshot session_id record (view ▸ viewed)
      (fetched ▸ here)
    exact ⟨a, b, c ++ [event], by simp⟩
  cleared arguments here := by
    obtain ⟨request, answer, member, allowed⟩ := remembers.cleared arguments (cleared ▸ here)
    exact ⟨request, answer, List.mem_append_left _ member, allowed⟩

/-- Nothing that came earlier is forgotten. -/
theorem CallLog.Remembers.cleared_snoc (remembers : g.Remembers crates past) (event : Event ProxyOp)
    {arguments : Value} (here : g.cleared = some arguments) : ∃ request answer,
      ⟨.mask (.post (.preflight request)), answer⟩ ∈ past ++ [event] ∧
        cleared_arguments crates answer = some arguments := by
  obtain ⟨request, answer, member, allowed⟩ := remembers.cleared arguments here
  exact ⟨request, answer, List.mem_append_left _ member, allowed⟩

theorem CallLog.Remembers.next {gate : MaskingGate} {β : Type} (op : ProxyOp β) (answer : β)
    (remembers : g.Remembers crates past) :
    ((callProtocol crates gate).next g op answer).Remembers crates (past ++ [⟨op, answer⟩]) := by
  cases op with
  | reg op =>
    cases op with
    | snapshot =>
      refine ⟨fun snapshot same => ?_, fun snapshot session_id record _ none => ?_, fun arguments =>
        remembers.cleared_snoc _⟩
      · cases same
        exact List.mem_append_right _ (List.mem_singleton_self _)
      · cases none
    | get session_id =>
      refine ⟨fun snapshot same => List.mem_append_left _ (remembers.view snapshot same),
        fun snapshot session_id' record viewed here => ?_, fun arguments =>
        remembers.cleared_snoc _⟩
      obtain ⟨record', same, here⟩ := Option.map_eq_some_iff.mp here
      cases here
      subst same
      obtain ⟨a, b, rfl⟩ := List.append_of_mem (remembers.view snapshot viewed)
      exact ⟨a, b, [], by simp⟩
    | _ => exact remembers.snoc _ rfl rfl rfl
  | mask op =>
    cases op with
    | post request =>
      cases request with
      | preflight request =>
        have kept : g.Remembers crates (past ++ [⟨.mask (.post (.preflight request)), answer⟩]) :=
          remembers.snoc _ rfl rfl rfl
        refine ⟨kept.view, kept.fetched, fun arguments here => ?_⟩
        exact ⟨request, answer, List.mem_append_right _ (List.mem_singleton_self _), here⟩
      | finalize | terminal => exact remembers.snoc _ rfl rfl rfl
    | _ => exact remembers.snoc _ rfl rfl rfl
  | now | enqueue => exact remembers.snoc _ rfl rfl rfl

/-- What a call that was put on a dispatcher rests on. -/
structure Enqueued (crates : Crates) (gate : MaskingGate) (past : List (Event ProxyOp))
    (dispatcher connection : Nat) (params : ToolCallParams) (snapshot : List SessionRecord)
    (session_id : String) (record : SessionRecord) : Prop where
  active : record.state = .Active
  connected : record.connection = some connection
  dispatched : record.dispatcher = dispatcher
  published : Published snapshot session_id params.name
  read : ∃ a b c, past = a ++ ⟨.reg .snapshot, snapshot⟩ :: b ++
    ⟨.reg (.get session_id), some record⟩ :: c
  cleared : gate.enabled = true → ∃ request answer,
    ⟨.mask (.post (.preflight request)), answer⟩ ∈ past ∧
      cleared_arguments crates answer = some params.arguments

/-- **What a call has read before it goes out.** -/
theorem enqueued {gate : MaskingGate} {caller : CallerInfo} {request : CallToolRequestParams}
    {a b : List (Event ProxyOp)} {rest : Prog ProxyOp ProxyAnswer} {dispatcher connection : Nat}
    {params : ToolCallParams} {deadline : Option Nat}
    {outcome : Except DispatcherError ToolCallResult}
    (run : Exec (call_proxy_tool_inner crates gate caller request)
      (a ++ ⟨.enqueue dispatcher connection params deadline, outcome⟩ :: b) rest) :
    ∃ snapshot session_id record,
      Enqueued crates gate a dispatcher connection params snapshot session_id record := by
  have follows : (callProtocol crates gate).Follows (fun _ _ => True) .empty
      (call_proxy_tool_inner crates gate caller request) := call_follows gate caller request
  obtain ⟨k, before, -⟩ := run.split
  have remembers : ((callProtocol crates gate).after .empty a).Remembers crates a :=
    follows.trail (T := fun g past => g.Remembers crates past) before
      .empty fun op answer remembers _ => remembers.next op answer
  obtain ⟨snapshot, session_id, record, viewed, fetched, active, connected, dispatched, published,
    cleared⟩ := follows.allowed run
  exact ⟨snapshot, session_id, record, active, connected, dispatched, published,
    remembers.fetched snapshot session_id record viewed fetched,
    fun enabled => remembers.cleared _ (cleared enabled)⟩

end SessionManager
