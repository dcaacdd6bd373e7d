import SessionManager.Manager.TaskLog
import SessionManager.Registry.Registrations

/-!
# The registry in the runs of a manager

A step of a manager is a section of its registry or leaves the registry alone
(`section_of_step`), so what every section keeps holds after every run: the registrations made so
far say where the records come from (`tracked`), and every record has normalised tools and, while
it is active, a connection (`admissible`).
-/

namespace SessionManager

open Json Effect

variable {ι : Type} {β : Type}

/-- The registration that a request made. -/
def ManagerOp.registration : ∀ {β : Type}, ManagerOp ι β → β → Option Registration
  | _, .reg op, answer => op.registration answer
  | _, _, _ => none

/-- The registrations of a run, oldest first. -/
def registrations (tr : List (PoolEvent ι (ManagerOp ι))) : List Registration :=
  tr.filterMap fun ev => ev.event.request.registration ev.event.answer

theorem registrations_snoc (past : List (PoolEvent ι (ManagerOp ι))) (i : ι) (op : ManagerOp ι β)
    (answer : β) :
    registrations (past ++ [⟨i, ⟨op, answer⟩⟩]) =
      registrations past ++ (op.registration answer).toList := by
  rw [registrations, List.filterMap_append]
  cases made : op.registration answer <;> simp [registrations, made]

section Steps

variable [DecidableEq ι] {i : ι} {w w' : ManagerWorld ι}

/-- A step is a section of the registry, or leaves it as it is. -/
theorem section_of_step {op : ManagerOp ι β} {answer : β}
    (answered : managerSemantics i w op answer w') :
    (∃ rop : RegOp β, op = .reg rop ∧ rop.apply w.now w.registry = some (answer, w'.registry)) ∨
      op.registration answer = none ∧ (∀ rop : RegOp β, op ≠ .reg rop) ∧
        w'.registry = w.registry := by
  obtain applied | ⟨external, rfl⟩ := answered
  · cases op with
    | reg rop =>
      simp only [ManagerOp.apply, Option.map_eq_some_iff] at applied
      obtain ⟨⟨b, registry⟩, ran, same⟩ := applied
      cases same
      exact .inl ⟨rop, rfl, ran⟩
    | accept | conn | send | drain_dispatcher | load_inflight | now | cancel | tick =>
      cases applied
      exact .inr ⟨rfl, fun rop same => (by cases same), rfl⟩
    | disp | timeout_at =>
      simp only [ManagerOp.apply, Option.map_eq_some_iff] at applied
      obtain ⟨_, -, same⟩ := applied
      cases same
      exact .inr ⟨rfl, fun rop same => (by cases same), rfl⟩
    | mask | resolve => cases applied
  · cases op with
    | mask | resolve => exact .inr ⟨rfl, fun rop same => (by cases same), rfl⟩
    | _ => cases external

end Steps

/-! ## What holds of every record -/

/-- What every record of a manager with this gate satisfies. -/
structure SessionRecord.Admissible (gate : MaskingGate) (record : SessionRecord) : Prop where
  normalized : gate.Normalized record.tools
  connected : record.state = .Active → record.connection.isSome

namespace SessionRegistry

variable {gate : MaskingGate} {reg reg' : SessionRegistry}

def Admissible (gate : MaskingGate) (reg : SessionRegistry) : Prop :=
  ∀ uid record, reg.inner.get uid = some record → record.Admissible gate

theorem Admissible.step {g : TaskLog} {op : RegOp β} {answer : β} {now : Nat}
    (admissible : reg.Admissible gate) (allowed : g.AllowsReg gate op)
    (ran : op.run now reg = (answer, reg')) : reg'.Admissible gate := by
  intro uid record found
  have changed := op.changed ran uid
  rw [found] at changed
  generalize before : reg.inner.get uid = old at changed
  cases changed with
  | kept => exact admissible uid record before
  | created | reconnected => exact ⟨allowed.2.2.2, fun _ => allowed.2.1⟩
  | disconnected | disconnected_if =>
    exact ⟨(admissible uid _ before).normalized, fun active => by cases active⟩
  | touched => exact ⟨(admissible uid _ before).normalized, (admissible uid _ before).connected⟩
  | retooled => exact ⟨allowed.2, (admissible uid _ before).connected⟩

/-- No session publishes a tool that is listed as internal. -/
theorem Admissible.unlisted (admissible : reg.Admissible gate) {snapshot : List SessionRecord}
    (enumerated : reg.enumerates snapshot) {session_id name : String}
    (published : Published snapshot session_id name) : name ∉ gate.internal_tools := by
  obtain ⟨record, listed, -, -, publishes⟩ := published
  obtain ⟨tool, member, named, is_public⟩ := publishes_iff.mp publishes
  obtain ⟨uid, found⟩ := HashMap.mem_values.mp (enumerated.mem_iff.mp listed)
  rw [← named]
  exact (admissible uid record found).normalized tool member is_public

end SessionRegistry

/-! ## Runs -/

section Runs

variable [DecidableEq ι] {settings : ManagerSettings} {tools_cache : Option ToolsCacheStore}
  {tasks : ι → ManagerTask ι} {tr : List (PoolEvent ι (ManagerOp ι))}
  {q : Pool ι (ManagerOp ι) (ManagerWorld ι) ManagerReturn}

theorem reached_of_run (run : Pool.Run managerSemantics (managerPool settings tools_cache tasks) tr q) :
    Reached tools_cache q.shared.registry := by
  refine run.replay.history (I := fun w _ => Reached tools_cache w.registry) .new ?_
  intro w w' past i β op answer reached answered
  obtain ⟨rop, -, ran⟩ | ⟨-, -, same⟩ := section_of_step answered
  · exact .step reached ran
  · rwa [same]

/-- **The records of a run come from its registrations.** -/
theorem tracked (run : Pool.Run managerSemantics (managerPool settings tools_cache tasks) tr q) :
    Tracked (registrations tr) q.shared.registry := by
  refine run.replay.history (I := fun w past => Tracked (registrations past) w.registry) ?_ ?_
  · exact Tracked.new tools_cache
  intro w w' past i β op answer tracked answered
  rw [registrations_snoc]
  obtain ⟨rop, rfl, ran⟩ | ⟨none, -, same⟩ := section_of_step answered
  · exact tracked.run (RegOp.run_of_apply ran)
  · rwa [none, Option.toList_none, List.append_nil, same]

/-- **Every record of a run is admissible.** -/
theorem admissible (run : Pool.Run managerSemantics (managerPool settings tools_cache tasks) tr q) :
    q.shared.registry.Admissible settings.gate := by
  refine (run.invariant (I := fun _ w _ => w.registry.Admissible settings.gate)
    (fun i => (tasks i).follows settings) (fun uid record found => by cases found) ?_).1
  intro phase w w' past i β op answer admissible allowed answered
  obtain ⟨rop, rfl, ran⟩ | ⟨-, -, same⟩ := section_of_step answered
  · exact admissible.step allowed (RegOp.run_of_apply ran)
  · rwa [same]

end Runs

end SessionManager
