import SessionManager.Manager.Generations
import SessionManager.Manager.Replies

/-!
# Whose connections and dispatchers there are

A connection is accepted by one task, which registers it once at most; a dispatcher comes with one
registration.  So what a task has learnt says which registration the things are of that it may
drain: its own, or that of the record it has read last (`captures_of_drained`).
-/

namespace SessionManager

open Effect

variable {ι : Type}

/-- The task has registered this generation of the session, or has read its record last. -/
def TaskLog.Captures (g : TaskLog) (session_id : String) (generation : Nat) : Prop :=
  g.registered = some { session_id, generation } ∨
    ∃ record, g.target = some (session_id, record) ∧ record.connection_generation = generation

/-- The registration of a record that was read, or of what a section has handed out. -/
structure TaskLog.Knows (g : TaskLog) (past : List Registration) : Prop where
  target : ∀ session_id record, g.target = some (session_id, record) →
    ∃ r, past[record.dispatcher]? = some r ∧ r.uid = session_id ∧ record.MadeBy r
  handed : ∀ connection dispatcher, g.handed = some (connection, dispatcher) →
    ∃ r, past[dispatcher]? = some r ∧ connection = r.connection ∧
      g.registered = some { session_id := r.uid, generation := r.generation }

/-- The registration was made by a task over the connection it has accepted. -/
def TaskLog.Made (g : TaskLog) (r : Registration) : Prop :=
  g.own.isSome ∧ r.connection = g.own ∧
    g.registered = some { session_id := r.uid, generation := r.generation }

structure Owned (log : ι → TaskLog) (next : Nat) (past : List Registration) : Prop where
  own_lt : ∀ i c, (log i).own = some c → c < next
  own_inj : ∀ i j c, (log i).own = some c → (log j).own = some c → i = j
  made : ∀ r ∈ past, ∃ i, (log i).Made r
  single : ∀ (k k' : Nat) (r r' : Registration), past[k]? = some r → past[k']? = some r' →
    r.connection = r'.connection → k = k'
  knows : ∀ i, (log i).Knows past

/-! ## Registrations to come -/

theorem getElem?_of_prefix {α : Type} {l : List α} {k : Nat} {a : α} (more : List α)
    (here : l[k]? = some a) : (l ++ more)[k]? = some a := by
  rw [List.getElem?_append_left (List.getElem?_eq_some_iff.mp here).1, here]

theorem TaskLog.Knows.append {g : TaskLog} {past : List Registration} (knows : g.Knows past)
    (more : List Registration) : g.Knows (past ++ more) where
  target session_id record here := by
    obtain ⟨r, filed, own, made⟩ := knows.target session_id record here
    exact ⟨r, getElem?_of_prefix more filed, own, made⟩
  handed connection dispatcher here := by
    obtain ⟨r, filed, same, registered⟩ := knows.handed connection dispatcher here
    exact ⟨r, getElem?_of_prefix more filed, same, registered⟩

/-- What is known of the registrations depends on three fields of a log. -/
theorem TaskLog.Knows.congr {g g' : TaskLog} {past : List Registration} (knows : g.Knows past)
    (target : g'.target = g.target) (handed : g'.handed = g.handed)
    (registered : g'.registered = g.registered) : g'.Knows past where
  target session_id record here := knows.target session_id record (target ▸ here)
  handed connection dispatcher here := by
    obtain ⟨r, filed, same, own⟩ := knows.handed connection dispatcher (handed ▸ here)
    exact ⟨r, filed, same, registered.trans own⟩

theorem TaskLog.Made.congr {g g' : TaskLog} {r : Registration} (made : g.Made r)
    (own : g'.own = g.own) (registered : g'.registered = g.registered) : g'.Made r := by
  obtain ⟨accepted, over_own, same⟩ := made
  exact ⟨own ▸ accepted, over_own.trans own.symm, registered.trans same⟩

namespace Owned

variable [DecidableEq ι] {log : ι → TaskLog} {next : Nat} {past : List Registration} {i : ι}
  {g : TaskLog}

/-- A task learns something that concerns neither its connection nor its registration. -/
theorem learn (owned : Owned log next past) (own : g.own = (log i).own)
    (registered : g.registered = (log i).registered) (knows : g.Knows past) :
    Owned (Function.update log i g) next past := by
  have owns (j : ι) : (Function.update log i g j).own = (log j).own := by
    by_cases same : j = i
    · rw [same, Function.update_self, own]
    · rw [Function.update_of_ne same]
  refine ⟨fun j c here => owned.own_lt j c (owns j ▸ here), fun j k c first second =>
    owned.own_inj j k c (owns j ▸ first) (owns k ▸ second), fun r member => ?_, owned.single,
    fun j => ?_⟩
  · obtain ⟨j, made⟩ := owned.made r member
    refine ⟨j, made.congr (owns j) ?_⟩
    by_cases same : j = i
    · rw [same, Function.update_self, registered]
    · rw [Function.update_of_ne same]
  · by_cases same : j = i
    · rw [same, Function.update_self]
      exact knows
    · rw [Function.update_of_ne same]
      exact owned.knows j

/-- A task accepts the next connection. -/
theorem accept (owned : Owned log next past) (fresh : (log i).own = none) :
    Owned (Function.update log i { log i with own := some next }) (next + 1) past := by
  have other (j : ι) (differ : j ≠ i) :
      Function.update log i { log i with own := some next } j = log j := Function.update_of_ne differ ..
  have self : Function.update log i { log i with own := some next } i =
      { log i with own := some next } := Function.update_self ..
  refine ⟨fun j c here => ?_, fun j k c first second => ?_, fun r member => ?_, owned.single,
    fun j => ?_⟩
  · by_cases same : j = i
    · rw [same, self] at here
      cases here
      exact Nat.lt_succ_self next
    · rw [other j same] at here
      exact Nat.lt_succ_of_lt (owned.own_lt j c here)
  · by_cases same : j = i
    · by_cases same' : k = i
      · rw [same, same']
      · rw [same, self] at first
        rw [other k same'] at second
        cases first
        exact absurd (owned.own_lt k next second) (Nat.lt_irrefl _)
    · rw [other j same] at first
      by_cases same' : k = i
      · rw [same', self] at second
        cases second
        exact absurd (owned.own_lt j next first) (Nat.lt_irrefl _)
      · rw [other k same'] at second
        exact owned.own_inj j k c first second
  · obtain ⟨j, made⟩ := owned.made r member
    have differ : j ≠ i := by
      intro same
      have accepted := made.1
      rw [same, fresh] at accepted
      cases accepted
    exact ⟨j, (other j differ).symm ▸ made⟩
  · by_cases same : j = i
    · rw [same, self]
      exact (owned.knows i).congr rfl rfl rfl
    · rw [other j same]
      exact owned.knows j

/-- A task registers, over its connection. -/
theorem register (owned : Owned log next past) {r : Registration}
    (fresh : (log i).registered = none) (over_own : r.connection = (log i).own)
    (accepted : (log i).own.isSome) (named : g = { log i with
      registered := some { session_id := r.uid, generation := r.generation } }) :
    Owned (Function.update log i g) next (past ++ [r]) := by
  subst named
  have other (j : ι) (differ : j ≠ i) (g : TaskLog) : Function.update log i g j = log j :=
    Function.update_of_ne differ ..
  have owns (j : ι) : (Function.update log i { log i with
      registered := some { session_id := r.uid, generation := r.generation } } j).own =
        (log j).own := by
    by_cases same : j = i
    · rw [same, Function.update_self]
    · rw [other j same]
  have apart (j : ι) {r' : Registration} (made : (log j).Made r') : j ≠ i := by
    intro same
    have registered := made.2.2
    rw [same, fresh] at registered
    cases registered
  -- a registration over the connection of the task would be its own
  have unused (k : Nat) (r' : Registration) (there : past[k]? = some r') :
      r'.connection ≠ r.connection := by
    intro same
    obtain ⟨j, made⟩ := owned.made r' (List.mem_of_getElem? there)
    obtain ⟨c, own⟩ := Option.isSome_iff_exists.mp accepted
    refine apart j made (owned.own_inj j i c ?_ own)
    rw [← made.2.1, same, over_own, own]
  refine ⟨fun j c here => owned.own_lt j c (owns j ▸ here), fun j k c first second =>
    owned.own_inj j k c (owns j ▸ first) (owns k ▸ second), fun r' member => ?_,
    fun k k' r₁ r₂ first second same => ?_, fun j => ?_⟩
  · rcases List.mem_append.mp member with member | newest
    · obtain ⟨j, made⟩ := owned.made r' member
      exact ⟨j, (other j (apart j made) _).symm ▸ made⟩
    · cases List.mem_singleton.mp newest
      refine ⟨i, ?_⟩
      rw [Function.update_self]
      exact ⟨accepted, over_own, rfl⟩
  · rcases Trace.getElem?_grown (o := some r) first with old | ⟨here, newest⟩
    · rcases Trace.getElem?_grown (o := some r) second with old' | ⟨-, newest⟩
      · exact owned.single k k' r₁ r₂ old old' same
      · cases newest
        exact absurd same (unused k r₁ old)
    · rcases Trace.getElem?_grown (o := some r) second with old' | ⟨there, -⟩
      · cases newest
        exact absurd same.symm (unused k' r₂ old')
      · rw [here, there]
  · by_cases same : j = i
    · rw [same, Function.update_self]
      have knows := (owned.knows i).append [r]
      refine ⟨knows.target, fun connection dispatcher here => ?_⟩
      obtain ⟨r', -, -, registered⟩ := knows.handed connection dispatcher here
      cases fresh.symm.trans registered
    · rw [other j same]
      exact (owned.knows j).append [r]

end Owned

/-! ## Sections -/

/-- A record that a section of this generation disconnects has the generation. -/
theorem disconnect_some {reg reg' : SessionRegistry} {session_id : String}
    {generation now : Nat} {connection : Option Nat} {dispatcher : Nat}
    (ran : reg.disconnect session_id generation now = (some (connection, dispatcher), reg')) :
    ∃ record, reg.inner.get session_id = some record ∧ record.state = .Active ∧
      record.connection_generation = generation ∧ connection = record.connection ∧
      dispatcher = record.dispatcher := by
  unfold SessionRegistry.disconnect at ran
  split at ran
  · rename_i record found
    split at ran
    · rename_i expected
      cases ran
      exact ⟨record, found, expected.1, expected.2, rfl, rfl⟩
    · cases ran
  · cases ran

section Sections

variable [DecidableEq ι] {log : ι → TaskLog} {next now : Nat} {past : List Registration} {i : ι}
  {reg reg' : SessionRegistry} {gate : MaskingGate} {β : Type} {op : RegOp β} {answer : β}

/-- **Sections keep track of who owns what.** -/
theorem Owned.section (owned : Owned log next past) (tracked : Tracked past reg)
    (allowed : (log i).AllowsReg gate op) (ran : op.run now reg = (answer, reg')) :
    Owned (Function.update log i ((log i).after_reg op answer)) next
      (past ++ (op.registration answer).toList) := by
  have quiet (same : (log i).after_reg op answer = log i) (none : op.registration answer = none) :
      Owned (Function.update log i ((log i).after_reg op answer)) next
        (past ++ (op.registration answer).toList) := by
    rw [same, none, Option.toList_none, List.append_nil, Function.update_eq_self]
    exact owned
  cases op with
  | register params instant connection =>
    cases answer with
    | error error => exact quiet rfl rfl
    | ok result =>
      obtain ⟨fresh, given, own, -⟩ := allowed
      exact owned.register (r := ⟨params, connection, result.2⟩) fresh own (own ▸ given) rfl
  | mark_disconnected_if_generation session_id generation instant =>
    have registered := allowed.1
    simp only [RegOp.registration, Option.toList_none, List.append_nil]
    refine owned.learn rfl rfl ⟨(owned.knows i).target, fun connection dispatcher here => ?_⟩
    cases here
    obtain ⟨record, found, active, generation_eq, rfl, rfl⟩ := disconnect_some ran
    obtain ⟨⟨r, there, own, made⟩, -⟩ := tracked.filed session_id record found
    refine ⟨r, there, ?_, ?_⟩
    · rw [made.connection, if_pos active]
    · rw [own, ← made.generation, generation_eq]
      exact registered
  | get session_id =>
    simp only [RegOp.registration, Option.toList_none, List.append_nil]
    refine owned.learn rfl rfl ⟨fun uid record here => ?_, (owned.knows i).handed⟩
    obtain ⟨record', same, pair⟩ := Option.map_eq_some_iff.mp here
    cases pair
    cases ran
    obtain ⟨⟨r, there, own, made⟩, -⟩ := tracked.filed session_id record same
    exact ⟨r, there, own, made⟩
  | _ => exact quiet rfl rfl

end Sections

/-! ## Runs -/

/-- What a task has learnt in a run. -/
def log_of [DecidableEq ι] (gate : MaskingGate) (tr : List (PoolEvent ι (ManagerOp ι))) (i : ι) :
    TaskLog :=
  (taskProtocol gate).after .empty (Pool.project i tr)

section Logs

variable [DecidableEq ι]

theorem log_of_snoc_self (gate : MaskingGate) (tr : List (PoolEvent ι (ManagerOp ι))) (i : ι)
    (ev : Event (ManagerOp ι)) : log_of gate (tr ++ [⟨i, ev⟩]) i =
      (taskProtocol gate).next (log_of gate tr i) ev.request ev.answer := by
  rw [log_of, Pool.project_snoc_self, Protocol.after_snoc]
  rfl

theorem log_of_snoc_of_ne {gate : MaskingGate} {i j : ι} (other : i ≠ j)
    (tr : List (PoolEvent ι (ManagerOp ι))) (ev : Event (ManagerOp ι)) :
    log_of gate (tr ++ [⟨i, ev⟩]) j = log_of gate tr j := by
  rw [log_of, Pool.project_snoc_of_ne other]
  rfl

end Logs

section Runs

variable [DecidableEq ι] {settings : ManagerSettings} {tools_cache : Option ToolsCacheStore}
  {tasks : ι → ManagerTask ι} {tr : List (PoolEvent ι (ManagerOp ι))}
  {q q' : Pool ι (ManagerOp ι) (ManagerWorld ι) ManagerReturn}

/-- A step accepts the next connection, or accepts none. -/
theorem next_of_step {i : ι} {w w' : ManagerWorld ι} {β : Type} {op : ManagerOp ι β} {answer : β}
    (answered : managerSemantics i w op answer w') :
    (⟨op, answer⟩ : Event (ManagerOp ι)) = ⟨.accept, w.connections.next⟩ ∧
        w'.connections.next = w.connections.next + 1 ∨
      ¬ op.accepts ∧ w'.connections.next = w.connections.next := by
  obtain applied | ⟨external, rfl⟩ := answered
  · cases op with
    | accept =>
      cases applied
      exact .inl ⟨rfl, rfl⟩
    | reg | disp | timeout_at =>
      simp only [ManagerOp.apply, Option.map_eq_some_iff] at applied
      obtain ⟨_, -, same⟩ := applied
      cases same
      exact .inr ⟨not_false, rfl⟩
    | mask | resolve => cases applied
    | _ =>
      cases applied
      exact .inr ⟨not_false, rfl⟩
  · cases op with
    | accept => exact external.elim
    | _ => exact .inr ⟨not_false, rfl⟩

/-- **In every run connections and dispatchers have their owners.** -/
theorem owned (run : Pool.Run managerSemantics (managerPool settings tools_cache tasks) tr q) :
    Owned (log_of settings.gate tr) q.shared.connections.next (registrations tr) := by
  have both := (run.invariant (I := fun log w past => Tracked (registrations past) w.registry ∧
    Owned log w.connections.next (registrations past)) (fun i => (tasks i).follows settings) ?_ ?_).1
  · have logs : log_of settings.gate tr =
        Pool.phases (taskProtocol settings.gate) (fun _ => .empty) tr :=
      funext fun i =>
      (Pool.phases_eq_after (taskProtocol settings.gate) (fun _ => TaskLog.empty) tr i).symm
    rw [logs]
    exact both.2
  · refine ⟨Tracked.new tools_cache, ?_⟩
    refine ⟨fun i c none => ?_, fun i j c none => ?_, fun r none => ?_, fun k k' r r' none => ?_,
      fun i => ⟨fun uid record none => ?_, fun connection dispatcher none => ?_⟩⟩
    · cases none
    · cases none
    · cases none
    · cases none
    · cases none
    · cases none
  · intro log w w' past i β op answer both allowed answered
    obtain ⟨tracked, owned⟩ := both
    rw [registrations_snoc]
    obtain ⟨rop, rfl, ran⟩ | ⟨none, outside, same⟩ := section_of_step answered
    · have ran := RegOp.run_of_apply ran
      obtain ⟨impossible, -⟩ | ⟨-, next⟩ := next_of_step answered
      · cases impossible
      · rw [next]
        exact ⟨tracked.run ran, owned.section tracked allowed ran⟩
    · rw [none, Option.toList_none, List.append_nil, same]
      refine ⟨tracked, ?_⟩
      obtain ⟨accepted, next⟩ | ⟨other, next⟩ := next_of_step answered
      · cases accepted
        rw [next]
        exact owned.accept allowed
      · rw [next]
        have kept : ((taskProtocol settings.gate).next (log i) op answer).own = (log i).own ∧
            ((taskProtocol settings.gate).next (log i) op answer).registered =
              (log i).registered ∧
            ((taskProtocol settings.gate).next (log i) op answer).target = (log i).target ∧
            ((taskProtocol settings.gate).next (log i) op answer).handed = (log i).handed := by
          cases op with
          | accept => exact absurd trivial other
          | reg rop => exact absurd rfl (outside rop)
          | conn c op => cases op <;> exact ⟨rfl, rfl, rfl, rfl⟩
          | _ => exact ⟨rfl, rfl, rfl, rfl⟩
        obtain ⟨own, registered, target, handed⟩ := kept
        exact owned.learn own registered ((owned.knows i).congr target handed registered)

end Runs

/-! ## What is drained -/

section Drained

variable {log : ι → TaskLog} {next : Nat} {past : List Registration} {i : ι}

/-- The dispatcher that a task drains is that of a registration it has captured. -/
theorem Owned.captures_of_dispatcher (owned : Owned log next past) {dispatcher : Nat}
    (drains : (log i).DrainsDispatcher dispatcher) :
    ∃ r, past[dispatcher]? = some r ∧ (log i).Captures r.uid r.generation := by
  obtain ⟨session_id, record, target, rfl⟩ | ⟨connection, handed⟩ := drains
  · obtain ⟨r, there, rfl, made⟩ := (owned.knows i).target session_id record target
    exact ⟨r, there, .inr ⟨record, target, made.generation⟩⟩
  · obtain ⟨r, there, -, registered⟩ := (owned.knows i).handed connection dispatcher handed
    exact ⟨r, there, .inl registered⟩

/-- The connection that a task drains is its own, or that of a registration it has captured. -/
theorem Owned.registered_of_drains (owned : Owned log next past) {connection : Nat}
    (drains : (log i).DrainsConnection connection) : (log i).own = some connection ∨
      ∃ (k : Nat) (r : Registration), past[k]? = some r ∧ r.connection = some connection ∧
        (log i).Captures r.uid r.generation := by
  obtain own | ⟨session_id, record, target, connected⟩ | ⟨dispatcher, handed⟩ := drains
  · exact .inl own
  · obtain ⟨r, there, rfl, made⟩ := (owned.knows i).target session_id record target
    refine .inr ⟨_, r, there, ?_, .inr ⟨record, target, made.generation⟩⟩
    have connected' := made.connection
    rw [connected] at connected'
    split at connected'
    · exact connected'.symm
    · cases connected'
  · obtain ⟨r, there, given, registered⟩ := (owned.knows i).handed _ dispatcher handed
    exact .inr ⟨_, r, there, given.symm, .inl registered⟩

/-- The connection of a registration was accepted. -/
theorem Owned.lt_of_connection (owned : Owned log next past) {r : Registration} (member : r ∈ past)
    {connection : Nat} (given : r.connection = some connection) : connection < next := by
  obtain ⟨j, made⟩ := owned.made r member
  exact owned.own_lt j connection (made.2.1.symm.trans given)

/-- A connection that a task may drain was accepted. -/
theorem Owned.lt_of_drains (owned : Owned log next past) {connection : Nat}
    (drains : (log i).DrainsConnection connection) : connection < next := by
  rcases owned.registered_of_drains drains with own | ⟨k, r, there, given, -⟩
  · exact owned.own_lt i connection own
  · exact owned.lt_of_connection (List.mem_of_getElem? there) given

/-- The registration over the connection of a task was made by the task. -/
theorem Owned.made_own (owned : Owned log next past) {connection : Nat}
    (own : (log i).own = some connection) {r : Registration} (member : r ∈ past)
    (over_it : r.connection = some connection) : (log i).Made r := by
  obtain ⟨j, made⟩ := owned.made r member
  have mine : j = i := owned.own_inj j i connection (by rw [← made.2.1, over_it]) own
  exact mine ▸ made

/-- The connection that a task drains is over no registration that it has not captured. -/
theorem Owned.captures_of_connection (owned : Owned log next past) {connection : Nat}
    (drains : (log i).DrainsConnection connection) {k : Nat} {r : Registration}
    (there : past[k]? = some r) (over_it : r.connection = some connection) :
    (log i).Captures r.uid r.generation := by
  rcases owned.registered_of_drains drains with own | ⟨k', r', there', given, captured⟩
  · exact .inl (owned.made_own own (List.mem_of_getElem? there) over_it).2.2
  · cases owned.single _ _ _ _ there there' (over_it.trans given.symm)
    cases there.symm.trans there'
    exact captured

/-- A connection that is not registered yet is drained by the task it belongs to. -/
theorem Owned.owner_of_drains (owned : Owned log next past) {connection : Nat}
    (drains : (log i).DrainsConnection connection) {j : ι} (own : (log j).own = some connection)
    (unregistered : (log j).registered = none) : i = j := by
  rcases owned.registered_of_drains drains with mine | ⟨k, r, there, given, -⟩
  · exact owned.own_inj i j connection mine own
  · have made := owned.made_own own (List.mem_of_getElem? there) given
    cases unregistered.symm.trans made.2.2

end Drained

end SessionManager
