import SessionManager.Adapter.Marks

/-!
# Inspections of stopped targets

A provider forwards an inspection only for an allowed target that it believes to be stopped.  A
command ends that belief when its answer has been processed, and not before; so the belief is right
unless such a command has failed since the stop (`inspected_iff`).
-/

namespace SessionManager.Debugger

open Python (Str Entries)

open Effect Method Trace

variable {cfg : DebuggerConfig} {past a b : List (Event DebugOp)} {tool : Tool} {args : Arguments}
  {mode : Option Str} {r : Except Raised Entries} {target : Str}

/-- An inspection names an allowed target that is in the latest list and in the latest report of a
stop, and no command for it was forwarded since; a command names an allowed target. -/
structure Inspected (cfg : DebuggerConfig) (past : List (Event DebugOp)) (tool : Tool)
    (args : Arguments) : Prop where
  inspection : tool.inspects = true → ∃ target, args.get "targetId" = some (.str target) ∧
    target ∈ cfg.binding.allowed_target_ids ∧ Listed cfg past target ∧
    Since (reports cfg target) (fun ev => ¬ forwards .wait_for_stop ev ∧ ¬ controls target ev) past
  control : tool.controls = true → ∀ target, args.get "targetId" = some target →
    is_none target = false → ∃ own ∈ cfg.binding.allowed_target_ids, target = .str own

/-- A command for the target has failed since the latest `wait_for_stop`. -/
def FailedSince (cfg : DebuggerConfig) (past : List (Event DebugOp)) (target : Str) : Prop :=
  Since (fun ev => controls target ev ∧ failed cfg ev) (fun ev => ¬ forwards .wait_for_stop ev) past

theorem forwards_of_reports {ev : Event DebugOp} (reported : reports cfg target ev) :
    forwards .wait_for_stop ev := by
  rcases ev with ⟨op, answer⟩
  cases op with
  | relay_invoke tool args mode =>
    cases tool with
    | wait_for_stop => rfl
    | _ => exact reported.elim
  | _ => exact reported.elim

/-- A stop whose commands have all failed has lasted if there were none. -/
theorem since_of_stoppedSince (stopped : StoppedSince cfg past target)
    (lasted : ¬ FailedSince cfg past target) :
    Since (reports cfg target) (fun ev => ¬ forwards .wait_for_stop ev ∧ ¬ controls target ev)
      past := by
  obtain ⟨x, ev, y, rfl, reported, rest⟩ := stopped
  refine ⟨x, ev, y, rfl, reported, fun ev' member => ⟨(rest ev' member).1, fun controlled => ?_⟩⟩
  obtain ⟨y₁, y₂, rfl⟩ := List.append_of_mem member
  refine lasted ⟨x ++ ev :: y₁, ev', y₂, ?_, ⟨controlled, (rest ev' member).2 controlled⟩, ?_⟩
  · rw [List.append_assoc, List.cons_append]
  · exact fun later there => (rest later (List.mem_append_right _ (List.mem_cons_of_mem _ there))).1

theorem not_reports_of_controls {ev : Event DebugOp} (controlled : controls target ev) :
    ¬ reports cfg target ev := by
  intro reported
  have waits := forwards_of_reports reported
  rcases ev with ⟨op, answer⟩
  cases op with
  | relay_invoke tool args mode =>
    cases (show tool = .wait_for_stop from waits)
    cases controlled.1
  | _ => exact waits

/-- A command that has failed since the stop was forwarded since the stop. -/
theorem not_since_of_failedSince (failed : FailedSince cfg past target) :
    ¬ Since (reports cfg target) (fun ev => ¬ forwards .wait_for_stop ev ∧ ¬ controls target ev)
      past := by
  intro stopped
  obtain ⟨x, ev, y, rfl, ⟨controlled, -⟩, quiet⟩ := failed
  obtain ⟨x', ev', y', same, reported, rest⟩ := stopped
  rcases split_cases same with same | later | later
  · subst same
    exact not_reports_of_controls controlled reported
  · exact quiet ev' later (forwards_of_reports reported)
  · exact (rest ev later).2 controlled

/-- **Inspections of stopped targets.**  A call that is forwarded is one of these unless it inspects
a target for which a command has failed since its stop. -/
theorem inspected_iff {occurrences : List Occurrence}
    {q : Prog DebugOp (Except Raised Unit × DebuggerState)}
    (run : Exec (served cfg occurrences) (a ++ ⟨.relay_invoke tool args mode, r⟩ :: b) q) :
    Inspected cfg a tool args ↔ (tool.inspects = true →
      ∀ target, args.get "targetId" = some (.str target) → ¬ FailedSince cfg a target) := by
  constructor
  · intro inspected inspects target named failed
    obtain ⟨own, own_named, -, -, lasted⟩ := inspected.inspection inspects
    cases named.symm.trans own_named
    exact not_since_of_failedSince failed lasted
  · intro lasted
    have permitted := permitted_of_served run
    refine ⟨fun inspects => ?_, permitted.control⟩
    obtain ⟨target, named, allowed, listed, stopped⟩ := permitted.inspection inspects
    exact ⟨target, named, allowed, listed,
      since_of_stoppedSince stopped (lasted inspects target named)⟩

/-! ## A command that fails -/

/-- A debugger with one target. -/
def plain_debugger : DebuggerConfig where
  library :=
    { floats := { repr := fun text => text, read := fun _ => none }
      loads := fun _ => .error .ValueError
      fromstring := fun _ => none
      upper := fun s => s
      element := fun _ _ => none
      opening := fun _ => none }
  binding :=
    { endpoint := Str.of "http://onec-infra:1550"
      infobase_alias := Str.of "DEV"
      password := none
      allowed_target_ids := [Str.of "own"] }
  tools := TOOLS.map fun tool => (Str.of ("debug_" ++ tool.name), Python.of_members
    [("properties", Python.of_members [("targetId", .dict [])])])
  is_valid _ _ := .ok true

/-- A call of a tool, for the target or for none. -/
def plain_call (tool : Tool) (target : Option String) : Occurrence :=
  .call (Python.of_members [("name", Python.text ("debug_" ++ tool.name)),
    ("arguments", Python.of_members (target.toList.map fun id => ("targetId", Python.text id)))])

/-- A result of the SDK with structured content. -/
def structured (members : List (String × Python.Value)) : Except Raised Entries :=
  .ok [(Str.of "content", .list []), (Str.of "structuredContent", Python.of_members members)]

def refused : Except Raised Entries :=
  .ok [(Str.of "content", .list []), (Str.of "isError", .bool true)]

def one_target : Except Raised Entries :=
  structured [("targets", .list [Python.of_members
    [("targetID", Python.of_members [("id", Python.text "own")]), ("suspended", .bool true)]])]

/-- The SDK answers from a list; the owner and the socket do not fail. -/
def scripted : Handler DebugOp (List (Except Raised Entries))
  | _, .invoke_private .., answer :: rest => some (answer, rest)
  | _, .relay_invoke .., answer :: rest => some (answer, rest)
  | _, .invoke_private .., [] => none
  | _, .relay_invoke .., [] => none
  | _, .admission_check, answers => some (.ok (), answers)
  | _, .send_sdk_cancel, answers => some (.ok (), answers)
  | _, .respond _, answers => some (.ok (), answers)
  | _, .terminal _, answers => some (.ok (), answers)

def scripted_run (calls : List Occurrence) (answers : List (Except Raised Entries)) :
    List (Event DebugOp) × Prog DebugOp (Except Raised Unit × DebuggerState) :=
  (served plain_debugger calls).record scripted answers

theorem exec_scripted (calls : List Occurrence) (answers : List (Except Raised Entries)) :
    Exec (served plain_debugger calls) (scripted_run calls answers).1 (scripted_run calls answers).2 :=
  Prog.exec_record _ _ _

/-- The arguments of a call for the target. -/
def own_target : Arguments := [(Python.text "targetId", Python.text "own")]

/-- A command was forwarded. -/
def commands : Event DebugOp → Bool
  | ⟨.relay_invoke tool _ _, _⟩ => tool.controls
  | _ => false

/-- A wait for a stop was forwarded. -/
def waits : Event DebugOp → Bool
  | ⟨.relay_invoke tool _ _, _⟩ => tool = .wait_for_stop
  | _ => false

theorem commands_of_controls {ev : Event DebugOp} (controlled : controls target ev) :
    commands ev = true := by
  rcases ev with ⟨op, answer⟩
  cases op with
  | relay_invoke => exact controlled.1
  | _ => exact controlled.elim

theorem waits_of_forwards {ev : Event DebugOp} (forwarded : forwards .wait_for_stop ev) :
    waits ev = true := by
  rcases ev with ⟨op, answer⟩
  cases op with
  | relay_invoke => exact decide_eq_true forwarded
  | _ => exact forwarded.elim

/-- The target stops and is inspected. -/
def stopped_run : List (Event DebugOp) × Prog DebugOp (Except Raised Unit × DebuggerState) :=
  scripted_run [plain_call .attach none, plain_call .wait_for_stop none,
      plain_call .evaluate (some "own")]
    [structured [("sessionId", Python.text "s")], structured [("targetId", Python.text "own")],
      one_target, one_target, structured []]

theorem stopped_target_is_inspected :
    Inspected plain_debugger (stopped_run.1.take 12) .evaluate own_target := by
  have evaluated : stopped_run.1[12]? =
      some ⟨.relay_invoke .evaluate own_target none, structured []⟩ := rfl
  have run := exec_scripted [plain_call .attach none, plain_call .wait_for_stop none,
      plain_call .evaluate (some "own")]
    [structured [("sessionId", Python.text "s")], structured [("targetId", Python.text "own")],
      one_target, one_target, structured []]
  change Exec _ stopped_run.1 stopped_run.2 at run
  rw [split_at evaluated] at run
  refine (inspected_iff run).mpr fun _ target _ failed => ?_
  obtain ⟨before, ev, after, same, controlled, -⟩ := failed
  have none : (stopped_run.1.take 12).any commands = false := rfl
  have member : ev ∈ stopped_run.1.take 12 := by
    rw [same]
    exact List.mem_append_cons_self
  exact absurd (commands_of_controls controlled.1)
    (Bool.not_eq_true _ ▸ List.any_eq_false.mp none ev member)

/-- The target stops; it is told to continue, which fails, and inspected. -/
def failing_run : List (Event DebugOp) × Prog DebugOp (Except Raised Unit × DebuggerState) :=
  scripted_run [plain_call .attach none, plain_call .wait_for_stop none,
      plain_call .continue_ (some "own"), plain_call .evaluate (some "own")]
    [structured [("sessionId", Python.text "s")], structured [("targetId", Python.text "own")],
      one_target, one_target, refused, one_target, structured []]

/-- A target is inspected after a command that was forwarded for it. -/
theorem failed_command_is_overlooked :
    ∃ (cfg : DebuggerConfig) (occurrences : List Occurrence)
      (q : Prog DebugOp (Except Raised Unit × DebuggerState)) (a b : List (Event DebugOp))
      (args : Arguments) (r : Except Raised Entries),
      Exec (served cfg occurrences) (a ++ ⟨.relay_invoke .evaluate args none, r⟩ :: b) q ∧
        ¬ Inspected cfg a .evaluate args := by
  have evaluated : failing_run.1[17]? =
      some ⟨.relay_invoke .evaluate own_target none, structured []⟩ := rfl
  have run := exec_scripted [plain_call .attach none, plain_call .wait_for_stop none,
      plain_call .continue_ (some "own"), plain_call .evaluate (some "own")]
    [structured [("sessionId", Python.text "s")], structured [("targetId", Python.text "own")],
      one_target, one_target, refused, one_target, structured []]
  change Exec _ failing_run.1 failing_run.2 at run
  rw [split_at evaluated] at run
  refine ⟨_, _, _, _, _, _, _, run, fun inspected => ?_⟩
  obtain ⟨target, named, -, -, stopped⟩ := inspected.inspection rfl
  cases (show (some (.str (Str.of "own")) : Option Python.Value) = _ from named)
  have continued : (failing_run.1.take 17)[12]? =
      some ⟨.relay_invoke .continue_ own_target none, refused⟩ := rfl
  have quiet : ((failing_run.1.take 17).drop 13).any waits = false := rfl
  refine not_since_of_failedSince ⟨_, _, _, split_at continued, ⟨⟨rfl, rfl⟩, .inl rfl⟩,
    fun ev member forwarded => ?_⟩ stopped
  exact List.any_eq_false.mp quiet ev member (waits_of_forwards forwarded)

end SessionManager.Debugger
