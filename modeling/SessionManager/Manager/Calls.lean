import SessionManager.Manager
import SessionManager.Registry.Registrations

/-!
# Calls of the registry

The operations of the registry, called one after the other by whoever has it, and what a call
does: one section of the registry decides it, and a session it disconnects has its connection and
dispatcher drained before the call returns (`call_performs`).
-/

namespace SessionManager

open Effect

open Prog (perform)

inductive RegistryCall
  | register_with_generation (params : SessionRegisterParams) (now : Nat) (connection : Option Nat)
  | mark_disconnected (session_id : String) (now : Nat)
  | mark_disconnected_if_generation (session_id : String) (expected_generation now : Nat)
  | bump_last_call (session_id : String) (now : Nat)
  | remove (session_id : String)
  | remove_if_generation (session_id : String) (expected_generation : Nat)
  | update_tools (session_id : String) (tools : List ToolDescriptor)
  | sweep_expired_disconnects (now grace : Nat)

inductive RegistryReturn
  | registered (result : Except RegisterError (RegisterOutcome × Nat))
  | found (found : Bool)
  | removed (record : Option SessionRecord)
  | expired (session_ids : List String)

def RegistryCall.prog {ι : Type} : RegistryCall → Prog (ManagerOp ι) RegistryReturn
  | .register_with_generation params now connection => do
    return .registered
      (← (SessionRegistry.register_with_generation params now connection).lift .reg)
  | .mark_disconnected session_id now => do
    return .found (← SessionRegistry.mark_disconnected session_id now)
  | .mark_disconnected_if_generation session_id expected_generation now => do
    return .found
      (← SessionRegistry.mark_disconnected_if_generation session_id expected_generation now)
  | .bump_last_call session_id now => do
    return .found (← perform (.reg (.bump_last_call session_id now)))
  | .remove session_id => do
    return .removed (← (SessionRegistry.remove_session session_id).lift .reg)
  | .remove_if_generation session_id expected_generation => do
    return .removed
      (← (SessionRegistry.remove_if_generation session_id expected_generation).lift .reg)
  | .update_tools session_id tools => do
    return .found (← (SessionRegistry.update_tools session_id tools).lift .reg)
  | .sweep_expired_disconnects now grace => do
    return .expired (← (SessionRegistry.sweep_expired_disconnects now grace).lift .reg)

namespace ManagerWorld

/-- Call an operation while the clock stands at `instant`. -/
def call (w : ManagerWorld Unit) (instant : Nat) (call : RegistryCall) :
    Option (RegistryReturn × ManagerWorld Unit) :=
  call.prog.handle (fun op w => op.apply () w) { w with now := instant }

end ManagerWorld

/-- The section that decides a call. -/
def RegistryCall.section : RegistryCall → (β : Type) × RegOp β
  | .register_with_generation params now connection => ⟨_, .register params now connection⟩
  | .mark_disconnected session_id now => ⟨_, .mark_disconnected session_id now⟩
  | .mark_disconnected_if_generation session_id expected_generation now =>
      ⟨_, .mark_disconnected_if_generation session_id expected_generation now⟩
  | .bump_last_call session_id now => ⟨_, .bump_last_call session_id now⟩
  | .remove session_id => ⟨_, .remove session_id⟩
  | .remove_if_generation session_id expected_generation =>
      ⟨_, .remove_if_generation session_id expected_generation⟩
  | .update_tools session_id tools => ⟨_, .update_tools session_id tools⟩
  | .sweep_expired_disconnects now grace => ⟨_, .sweep_expired_disconnects now grace⟩

/-- What a section that disconnected a record hands out to be drained. -/
def RegOp.handed : ∀ {β : Type}, RegOp β → β → Option (Option Nat × Nat)
  | _, .mark_disconnected .., handed => handed
  | _, .mark_disconnected_if_generation .., handed => handed
  | _, _, _ => none

/-- The world after a call that one section decides. -/
structure Performed {β : Type} (op : RegOp β) (answer : β) (reg' : SessionRegistry)
    (w w' : ManagerWorld Unit) : Prop where
  inner : w'.registry.inner = reg'.inner
  generations : w'.registry.generations = reg'.generations
  next_dispatcher : w'.registry.next_dispatcher = reg'.next_dispatcher
  unlocked : w'.registry.locked = false
  dispatchers : w'.dispatchers = match op.handed answer with
    | some (_, dispatcher) => (w.set_dispatcher dispatcher
        { w.dispatchers dispatcher with state := .Drained }).dispatchers
    | none => w.dispatchers

/-! ## The sections after the first -/

/-- A section of the cache or of the signals, which never waits. -/
def RegOp.marks : ∀ {β : Type}, RegOp β → Prop
  | _, .mark_tools_changed | _, .mark_session_changed | _, .evict_expired | _, .put_cache .. => True
  | _, _ => False

theorem RegOp.apply_of_marks {β : Type} {op : RegOp β} (marks : op.marks) (now : Nat)
    (reg : SessionRegistry) : ∃ answer tools_epoch session_changed tools_cache,
      op.apply now reg = some (answer, { reg with tools_epoch, session_changed, tools_cache }) := by
  cases op with
  | mark_tools_changed => exact ⟨_, _, reg.session_changed, reg.tools_cache, rfl⟩
  | mark_session_changed => exact ⟨_, reg.tools_epoch, _, reg.tools_cache, rfl⟩
  | evict_expired | put_cache =>
    simp only [RegOp.apply]
    split
    · exact ⟨_, reg.tools_epoch, reg.session_changed, _, rfl⟩
    · exact ⟨_, reg.tools_epoch, reg.session_changed, reg.tools_cache, rfl⟩
  | _ => exact marks.elim

theorem upsert_tools_cache_marks (kind config_id : String) (tools : List ToolDescriptor) :
    (SessionRegistry.upsert_tools_cache kind config_id tools).Only RegOp.marks := by
  have marked (changed : Bool) :
      (if changed then perform .mark_tools_changed else pure () : Prog RegOp Unit).Only
        RegOp.marks := by
    cases changed with
    | false => trivial
    | true => exact ⟨trivial, fun _ => trivial⟩
  unfold SessionRegistry.upsert_tools_cache
  refine ⟨trivial, fun evicted => ?_⟩
  cases evicted with
  | none => trivial
  | some evicted =>
    cases evicted with
    | false => exact ⟨trivial, marked⟩
    | true => exact ⟨trivial, fun _ => ⟨trivial, marked⟩⟩

/-- The worlds differ in the signals and the cache. -/
def Marked (w w' : ManagerWorld Unit) : Prop :=
  ∃ tools_epoch session_changed tools_cache,
    w' = { w with registry := { w.registry with tools_epoch, session_changed, tools_cache } }

/-- The rest of a call, which marks and caches only. -/
theorem handle_marks {α : Type} {p : Prog RegOp α} (only : p.Only RegOp.marks)
    (w : ManagerWorld Unit) :
    ∃ a w', p.handle (fun op w => (ManagerOp.reg op).apply () w) w = some (a, w') ∧ Marked w w' := by
  refine Prog.handle_keeps (h := fun op w => (ManagerOp.reg op).apply () w) (I := Marked w) ?_ only
    ⟨w.registry.tools_epoch, w.registry.session_changed, w.registry.tools_cache, rfl⟩
  intro β op s marks marked
  obtain ⟨tools_epoch, session_changed, tools_cache, rfl⟩ := marked
  obtain ⟨answer, tools_epoch', session_changed', tools_cache', applied⟩ :=
    RegOp.apply_of_marks marks w.now { w.registry with tools_epoch, session_changed, tools_cache }
  refine ⟨answer, _, ?_, tools_epoch', session_changed', tools_cache', rfl⟩
  simp only [ManagerOp.apply, applied, Option.map_some]

/-! ## What a call does -/

/-- Only a section that disconnects a record keeps the lock. -/
theorem RegOp.unlocked_run {β : Type} (op : RegOp β) (now : Nat) {reg : SessionRegistry}
    (free : reg.locked = false) (spares : op.handed (op.run now reg).1 = none) :
    (op.run now reg).2.locked = false := by
  cases op with
  | register params instant connection =>
    simp only [run, SessionRegistry.register]
    split
    · rename_i existing found
      cases existing.state <;> exact free
    · exact free
  | mark_disconnected | mark_disconnected_if_generation =>
    revert spares
    simp only [run, handed, SessionRegistry.disconnect_any, SessionRegistry.disconnect]
    repeat' split
    all_goals intro spares
    all_goals first | exact free | cases spares
  | bump_last_call | remove_if_generation | evict_expired | put_cache | clear_cache
  | clear_config =>
    simp only [run, SessionRegistry.touch, SessionRegistry.take]
    repeat' split
    all_goals exact free
  | update_tools session_id tools =>
    simp only [run, SessionRegistry.replace_tools]
    split
    · rename_i record found
      cases record.tools == tools <;> exact free
    · exact free
  | unlock => rfl
  | sweep_expired_disconnects | remove | mark_tools_changed | mark_session_changed | snapshot | get
  | list_cache => exact free

section Performs

variable {w : ManagerWorld Unit}

/-- The first section of a call is answered at once. -/
theorem apply_section (free : w.registry.locked = false) (instant : Nat) {β : Type} (op : RegOp β) :
    (ManagerOp.reg op).apply () { w with now := instant } = some ((op.run instant w.registry).1,
      { w with now := instant, registry := (op.run instant w.registry).2 }) := by
  rw [ManagerOp.apply, RegOp.apply_of_free free, Option.map_some]

/-- A call with one section and what it marks and caches after it. -/
theorem performed_of_marks (free : w.registry.locked = false) (instant : Nat) {β α : Type}
    {op : RegOp β} (spares : op.handed (op.run instant w.registry).1 = none)
    {k : β → Prog RegOp α} (marks : ∀ answer, (k answer).Only RegOp.marks) :
    ∃ a w', (perform op >>= k).handle (fun op w => (ManagerOp.reg op).apply () w)
        { w with now := instant } = some (a, w') ∧
      Performed op (op.run instant w.registry).1 (op.run instant w.registry).2 w w' := by
  obtain ⟨a, w', handled, marked⟩ := handle_marks (marks (op.run instant w.registry).1)
    { w with now := instant, registry := (op.run instant w.registry).2 }
  refine ⟨a, w', ?_, ?_⟩
  · rw [Prog.handle_perform, apply_section free]
    exact handled
  · obtain ⟨tools_epoch, session_changed, tools_cache, rfl⟩ := marked
    exact ⟨rfl, rfl, rfl, op.unlocked_run instant free spares, by rw [spares]⟩

/-- Draining a connection and a dispatcher, with the lock held. -/
theorem handle_release (handed : Option Nat × Nat) (w : ManagerWorld Unit) :
    ∃ connections, (SessionRegistry.release (some handed) : Prog (ManagerOp Unit) Bool).handle
        (fun op w => op.apply () w) w =
      some (true, { w.set_dispatcher handed.2 { w.dispatchers handed.2 with state := .Drained } with
        connections := connections
        registry := { w.registry with
          locked := false
          tools_epoch := (w.registry.tools_epoch + 1) % 2 ^ 64
          session_changed := w.registry.session_changed + 1 } }) := by
  obtain ⟨connection, dispatcher⟩ := handed
  cases connection with
  | none => exact ⟨w.connections, rfl⟩
  | some connection => exact ⟨_, rfl⟩

/-- A call that drains what its section hands out. -/
theorem performed_of_release (free : w.registry.locked = false) (instant : Nat)
    (op : RegOp (Option (Option Nat × Nat))) (hands : ∀ answer, op.handed answer = answer) :
    ∃ found w', (perform (.reg op) >>= SessionRegistry.release : Prog (ManagerOp Unit) Bool).handle
        (fun op w => op.apply () w) { w with now := instant } = some (found, w') ∧
      Performed op (op.run instant w.registry).1 (op.run instant w.registry).2 w w' := by
  rw [Prog.handle_perform, apply_section free]
  simp only [Option.bind_some]
  cases answer : (op.run instant w.registry).1 with
  | none =>
    have unlocked := op.unlocked_run instant free ((hands _).trans answer)
    exact ⟨false, _, rfl, rfl, rfl, rfl, unlocked, by rw [hands]⟩
  | some handed =>
    obtain ⟨connections, released⟩ := handle_release handed
      { w with now := instant, registry := (op.run instant w.registry).2 }
    exact ⟨true, _, released, rfl, rfl, rfl, rfl, by rw [hands]; rfl⟩

/-- **One section decides a call**, and what it hands out is drained. -/
theorem call_performs (free : w.registry.locked = false) (instant : Nat) (call : RegistryCall) :
    ∃ result w', w.call instant call = some (result, w') ∧
      Performed call.section.2 (call.section.2.run instant w.registry).1
        (call.section.2.run instant w.registry).2 w w' := by
  have returned {α : Type} {p : Prog (ManagerOp Unit) α} (f : α → RegistryReturn) {a : α}
      {w' : ManagerWorld Unit}
      (handled : p.handle (fun op w => op.apply () w) { w with now := instant } = some (a, w')) :
      (p >>= fun a => pure (f a)).handle (fun op w => op.apply () w) { w with now := instant } =
        some (f a, w') := by
    rw [Prog.handle_bind, handled]
    rfl
  have marked {β α : Type} (op : RegOp β) (spares : op.handed (op.run instant w.registry).1 = none)
      {k : β → Prog RegOp α} (marks : ∀ answer, (k answer).Only RegOp.marks) (f : α → RegistryReturn) :
      ∃ result w', ((perform op >>= k).lift ManagerOp.reg >>= fun a => pure (f a)).handle
          (fun op w => op.apply () w) { w with now := instant } = some (result, w') ∧
        Performed op (op.run instant w.registry).1 (op.run instant w.registry).2 w w' := by
    obtain ⟨a, w', handled, performed⟩ := performed_of_marks free instant spares marks
    exact ⟨f a, w', returned f ((Prog.handle_lift _ _ _).trans handled), performed⟩
  cases call with
  | register_with_generation params now connection =>
    refine marked (.register params now connection) rfl (fun answer => ?_) .registered
    cases answer with
    | error error => trivial
    | ok result =>
      exact ⟨trivial, fun _ => ⟨trivial, fun _ =>
        (upsert_tools_cache_marks _ _ _).bind fun _ => trivial⟩⟩
  | mark_disconnected session_id now =>
    obtain ⟨found, w', handled, performed⟩ := performed_of_release free instant
      (.mark_disconnected session_id now) fun _ => rfl
    exact ⟨.found found, w', returned .found handled, performed⟩
  | mark_disconnected_if_generation session_id expected_generation now =>
    obtain ⟨found, w', handled, performed⟩ := performed_of_release free instant
      (.mark_disconnected_if_generation session_id expected_generation now) fun _ => rfl
    exact ⟨.found found, w', returned .found handled, performed⟩
  | bump_last_call session_id now =>
    exact marked (.bump_last_call session_id now) rfl (k := .ret) (fun _ => trivial) .found
  | remove session_id =>
    refine marked (.remove session_id) rfl (fun removed => ?_) .removed
    cases removed with
    | none => trivial
    | some record => exact ⟨trivial, fun _ => ⟨trivial, fun _ => trivial⟩⟩
  | remove_if_generation session_id expected_generation =>
    refine marked (.remove_if_generation session_id expected_generation) rfl
      (fun removed => ?_) .removed
    cases removed with
    | none => trivial
    | some record => exact ⟨trivial, fun _ => ⟨trivial, fun _ => trivial⟩⟩
  | update_tools session_id tools =>
    refine marked (.update_tools session_id tools) rfl (fun found => ?_) .found
    cases found with
    | none => trivial
    | some found =>
      obtain ⟨same, kind, config_id⟩ := found
      cases same with
      | true => trivial
      | false =>
        exact ⟨trivial, fun _ => (upsert_tools_cache_marks _ _ _).bind fun _ => trivial⟩
  | sweep_expired_disconnects now grace =>
    refine marked (.sweep_expired_disconnects now grace) rfl (fun expired => ?_) .expired
    cases expired with
    | nil => trivial
    | cons => exact ⟨trivial, fun _ => trivial⟩

/-- A registration answers what its section answers, and a refused one does nothing else. -/
theorem call_register (free : w.registry.locked = false) (instant : Nat)
    (params : SessionRegisterParams) (now : Nat) (connection : Option Nat) :
    ∃ w', w.call instant (.register_with_generation params now connection) =
        some (.registered (w.registry.register params now connection).1, w') ∧
      ∀ error, (w.registry.register params now connection).1 = .error error →
        w' = { w with now := instant } := by
  have first := apply_section free instant (.register params now connection)
  simp only [RegOp.run] at first
  unfold ManagerWorld.call RegistryCall.prog SessionRegistry.register_with_generation
  rw [Prog.handle_bind, Prog.handle_lift, Prog.handle_perform, first]
  simp only [Option.bind_some]
  cases answer : (w.registry.register params now connection).1 with
  | error error =>
    have same : (w.registry.register params now connection).2 = w.registry := by
      revert answer
      unfold SessionRegistry.register
      split
      · rename_i existing found
        cases existing.state with
        | Active => exact fun _ => rfl
        | Disconnected => exact fun accepted => by cases accepted
      · exact fun accepted => by cases accepted
    refine ⟨_, rfl, fun _ _ => ?_⟩
    rw [same]
  | ok result =>
    have marks : (perform .mark_tools_changed >>= fun _ => perform .mark_session_changed >>= fun _ =>
        SessionRegistry.upsert_tools_cache params.kind (SessionRegistry.resolved_config_id params)
          params.tools).Only RegOp.marks :=
      ⟨trivial, fun _ => ⟨trivial, fun _ => upsert_tools_cache_marks _ _ _⟩⟩
    obtain ⟨a, w', handled, -⟩ := handle_marks marks
      { w with now := instant, registry := (w.registry.register params now connection).2 }
    refine ⟨w', ?_, fun error none => by cases none⟩
    have rest : ((perform .mark_tools_changed >>= fun _ => perform .mark_session_changed >>= fun _ =>
        SessionRegistry.upsert_tools_cache params.kind (SessionRegistry.resolved_config_id params)
          params.tools) >>= fun _ => (.ret (.ok result) : Prog RegOp (Except RegisterError _))).handle
        (fun op w => (ManagerOp.reg op).apply () w) { w with
          now := instant, registry := (w.registry.register params now connection).2 } =
        some (.ok result, w') := by
      rw [Prog.handle_bind, handled]
      rfl
    exact (congrArg (Option.bind · _) rest).trans rfl

end Performs

end SessionManager
