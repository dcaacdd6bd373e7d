import SessionManager.Manager.Generations

/-!
# Reports of connections that were replaced

A connection reports tools for the session it has registered.  A disconnect and a goodbye name the
generation they are about; a report names the session alone, so it reaches whatever record is there
(`reported_generation_iff`).
-/

namespace SessionManager

open Json Effect

variable {ι : Type}

/-- A report of tools for this session. -/
def ManagerOp.reports (session_id : String) : ∀ {β : Type}, ManagerOp ι β → Prop
  | _, .reg (.update_tools uid _) => uid = session_id
  | _, _ => False

/-- The record is given the tools of the report. -/
def ManagerOp.rewrites (session_id : String) : ∀ {β : Type}, ManagerOp ι β → β → Prop
  | _, .reg (.update_tools uid _), some (false, _) => uid = session_id
  | _, _, _ => False

def ManagerOp.caches : ∀ {β : Type}, ManagerOp ι β → Prop
  | _, .reg op => op.caches
  | _, _ => False

/-- A step of a report that modifies the record or the cache, after these steps of its task. -/
def Modifies (session_id : String) (past : List (Event (ManagerOp ι))) (ev : Event (ManagerOp ι)) :
    Prop :=
  ev.request.rewrites session_id ev.answer ∨
    ev.request.caches ∧ Did (fun op _ => op.reports session_id) past

/-- The task registered this session and generation at some step. -/
def RegisteredAs (past : List (Event (ManagerOp ι))) (ident : ConnectionIdentity) : Prop :=
  ∃ a b params instant handle outcome, past = a ++
      ⟨.reg (.register params instant handle), .ok (outcome, ident.generation)⟩ :: b ∧
    params.client_uid = ident.session_id

/-- What the log has of a registration, the task has made; and it reports for that session only. -/
structure TaskLog.Reported (g : TaskLog) (past : List (Event (ManagerOp ι))) : Prop where
  registered : ∀ ident, g.registered = some ident → RegisteredAs past ident
  reported : ∀ session_id, Did (fun op _ => op.reports session_id) past →
    ∃ generation, g.registered = some { session_id, generation }

theorem RegisteredAs.snoc {past : List (Event (ManagerOp ι))} {ident : ConnectionIdentity}
    (registered : RegisteredAs past ident) (ev : Event (ManagerOp ι)) :
    RegisteredAs (past ++ [ev]) ident := by
  obtain ⟨a, b, params, instant, handle, outcome, rfl, own⟩ := registered
  exact ⟨a, b ++ [ev], params, instant, handle, outcome, by simp, own⟩

/-- A request that registers nothing and reports nothing. -/
theorem TaskLog.Reported.keep {g g' : TaskLog} {past : List (Event (ManagerOp ι))} {β : Type}
    {op : ManagerOp ι β} {answer : β} (reported : g.Reported past)
    (same : g'.registered = g.registered) (silent : ∀ session_id, ¬ op.reports session_id) :
    g'.Reported (past ++ [⟨op, answer⟩]) where
  registered ident here := (reported.registered ident (same ▸ here)).snoc _
  reported session_id did := by
    rw [did_snoc_of_not (silent session_id)] at did
    rw [same]
    exact reported.reported session_id did

theorem TaskLog.Reported.step {gate : MaskingGate} {g : TaskLog}
    {past : List (Event (ManagerOp ι))} {β : Type} {op : ManagerOp ι β} (answer : β)
    (reported : g.Reported past) (allowed : (taskProtocol gate).allows g op) :
    ((taskProtocol gate).next g op answer).Reported (past ++ [⟨op, answer⟩]) := by
  cases op with
  | reg op =>
    cases op with
    | register params instant handle =>
      have silent : ∀ session_id, ¬ (ManagerOp.reg (.register params instant handle) :
        ManagerOp ι _).reports session_id := fun _ => id
      cases answer with
      | error error => exact reported.keep rfl silent
      | ok result =>
        have fresh : g.registered = none := allowed.1
        refine ⟨fun ident here => ?_, fun session_id did => ?_⟩
        · cases here
          exact ⟨past, [], params, instant, handle, result.1, rfl, rfl⟩
        · rw [did_snoc_of_not (silent session_id)] at did
          obtain ⟨generation, here⟩ := reported.reported session_id did
          cases fresh.symm.trans here
    | update_tools uid tools =>
      obtain ⟨⟨generation, here⟩, -⟩ := allowed
      refine ⟨fun ident same => (reported.registered ident same).snoc _, fun session_id did => ?_⟩
      rcases (did_snoc _ _ _ _).mp did with earlier | own
      · exact reported.reported session_id earlier
      · cases own
        exact ⟨generation, here⟩
    | _ => exact reported.keep rfl fun _ => id
  | conn c op => cases op <;> exact reported.keep rfl fun _ => id
  | _ => exact reported.keep rfl fun _ => id

section Runs

variable [DecidableEq ι] {settings : ManagerSettings} {tools_cache : Option ToolsCacheStore}
  {tasks : ι → ManagerTask ι} {a : List (PoolEvent ι (ManagerOp ι))}
  {s s' : Pool ι (ManagerOp ι) (ManagerWorld ι) ManagerReturn} {i : ι} {ev : Event (ManagerOp ι)}

/-- What the log of a task has of its registration and reports is in its own steps. -/
theorem reported_of_run
    (run : Pool.Run managerSemantics (managerPool settings tools_cache tasks) a s) (i : ι) :
    ((taskProtocol settings.gate).after .empty (Pool.project i a)).Reported (Pool.project i a) := by
  have follows := (tasks i).follows settings
  refine follows.trail (T := fun g past => g.Reported past) (run.project i) ?_ ?_
  · exact ⟨fun ident none => (by cases none), fun session_id did => absurd did (did_nil _)⟩
  · intro g past β op answer reported allowed
    exact reported.step answer allowed

/-- A task that modifies something for a session has registered it. -/
theorem registered_of_modifies
    (run : Pool.Run managerSemantics (managerPool settings tools_cache tasks) a s)
    (step : Pool.Step managerSemantics s ⟨i, ev⟩ s') {session_id : String}
    (modifies : Modifies session_id (Pool.project i a) ev) :
    ∃ generation, RegisteredAs (Pool.project i a) { session_id, generation } := by
  have reported := reported_of_run run i
  have allowed := run.allowed ((tasks i).follows settings) step
  have registered : ∃ generation,
      ((taskProtocol settings.gate).after .empty (Pool.project i a)).registered =
        some { session_id, generation } := by
    rcases modifies with rewrites | ⟨-, earlier⟩
    · obtain ⟨op, answer⟩ := ev
      cases op with
      | reg op =>
        cases op with
        | update_tools uid tools =>
          have own : uid = session_id := by
            cases answer with
            | none => exact rewrites.elim
            | some found =>
              obtain ⟨same, key⟩ := found
              cases same with
              | false => exact rewrites
              | true => exact rewrites.elim
          exact own ▸ allowed.1
        | _ => exact rewrites.elim
      | _ => exact rewrites.elim
    · exact reported.reported session_id earlier
  obtain ⟨generation, here⟩ := registered
  exact ⟨generation, reported.registered _ here⟩

/-- **A report modifies the record or the cache while its own generation has the record, exactly if
no step has dropped the record of that generation since it was registered.** -/
theorem reported_generation_iff
    (run : Pool.Run managerSemantics (managerPool settings tools_cache tasks) a s)
    (step : Pool.Step managerSemantics s ⟨i, ev⟩ s') {session_id : String}
    (modifies : Modifies session_id (Pool.project i a) ev) :
    ∃ x y params instant handle outcome generation,
      a = x ++ ⟨i, ⟨.reg (.register params instant handle), .ok (outcome, generation)⟩⟩ :: y ∧
      params.client_uid = session_id ∧
      (s.shared.registry.Holds session_id generation ↔ ¬ Dropped session_id generation y) := by
  obtain ⟨generation, u, v, params, instant, handle, outcome, mine, own⟩ :=
    registered_of_modifies run step modifies
  obtain ⟨x, y, rfl, -, -⟩ := Pool.project_split mine
  refine ⟨x, y, params, instant, handle, outcome, generation, rfl, own, ?_⟩
  obtain ⟨r, r', -, filed, since⟩ := run.split
  refine (not_iff_comm.mp (not_holds_iff_dropped since ?_)).symm
  cases filed with
  | step _ answered => exact (holds_of_step answered).mpr (.inl ⟨_, rfl, own, rfl⟩)

end Runs

/-! ### A report after another client has registered -/

inductive Party
  | first
  | second
  | ender
  deriving DecidableEq

def outliving_settings : ManagerSettings :=
  { gated_settings masking_off with graceful_kill_grace_ms := 0 }

/-- Two clients register the same uid; the session of the first is shut down, but its socket stays
open, and it reports a tool. -/
def outliving_tasks : Party → ManagerTask Party
  | .first => .socket [registers "s" [], reports_tools [plain_tool]]
  | .second => .socket [registers "s" []]
  | .ender => .shutdown "s"

def outlive (reports : Nat) := ManagerPool.play .unreachable
  (List.replicate 7 .first ++ List.replicate 17 .ender ++ List.replicate 7 .second ++
    List.replicate reports .first) (managerPool outliving_settings none outliving_tasks)

/-- The report of the first client, which finds other tools in the record. -/
def late_report : Event (ManagerOp Party) :=
  ⟨.reg (.update_tools "s" [plain_tool]), some (false, "client", "client")⟩

theorem run_outlive (reports : Nat) : Pool.Run managerSemantics
    (managerPool outliving_settings none outliving_tasks) (outlive reports).1 (outlive reports).2 :=
  ManagerPool.run_play .unreachable _ _

set_option maxRecDepth 8000 in
theorem outlive_ends_with_report : (outlive 1).1 = (outlive 0).1 ++ ⟨.first, late_report⟩ :: [] := rfl

set_option maxRecDepth 8000 in
/-- The report changes the record of the second client. -/
theorem late_report_reaches_other_generation :
    (∃ s s', Pool.Run managerSemantics (managerPool outliving_settings none outliving_tasks)
        (outlive 0).1 s ∧ Pool.Step managerSemantics s ⟨.first, late_report⟩ s') ∧
      (outlive 0).1[2]? = some ⟨.first, ⟨.reg (.register (client_params "s" []) 0 (some 0)),
        .ok (.Created, 1)⟩⟩ ∧
      ¬ (outlive 0).2.shared.registry.Holds "s" 1 ∧
      (outlive 0).2.shared.registry.inner.get "s" =
        some { SessionRegistry.new_record (.new none) (client_params "s" []) 0 (some 1) with
          connection_generation := 2, dispatcher := 1 } ∧
      (outlive 1).2.shared.registry.inner.get "s" =
        some { SessionRegistry.new_record (.new none) (client_params "s" [plain_tool]) 0 (some 1) with
          connection_generation := 2, dispatcher := 1 } := by
  have run := run_outlive 1
  rw [outlive_ends_with_report] at run
  obtain ⟨s, s', before, step, -⟩ := run.split
  refine ⟨⟨s, s', before, step⟩, rfl, fun held => ?_, rfl, rfl⟩
  obtain ⟨record, found, first⟩ := held
  cases found
  cases first

theorem reported_generation_iff_late : ∃ s s',
    Pool.Run managerSemantics (managerPool outliving_settings none outliving_tasks) (outlive 0).1 s ∧
      Pool.Step managerSemantics s ⟨.first, late_report⟩ s' ∧
      ∃ x y params instant handle outcome generation,
        (outlive 0).1 = x ++
          ⟨.first, ⟨.reg (.register params instant handle), .ok (outcome, generation)⟩⟩ :: y ∧
        params.client_uid = "s" ∧
        (s.shared.registry.Holds "s" generation ↔ ¬ Dropped "s" generation y) := by
  have run := run_outlive 1
  rw [outlive_ends_with_report] at run
  obtain ⟨s, s', before, step, -⟩ := run.split
  exact ⟨s, s', before, step, reported_generation_iff before step (.inl rfl)⟩

end SessionManager
