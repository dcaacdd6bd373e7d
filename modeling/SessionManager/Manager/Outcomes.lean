import SessionManager.Manager.Calls

/-!
# What a call leaves in the registry

While nothing interleaves with it, a call of the registry or of its cache is a function of the
registry and the time (`RegistryCall.after`, `call_after`): its deciding section, the signals it
raises after it, and the cache entry it notes.
-/

namespace SessionManager

open Effect

open Prog (perform)

namespace SessionRegistry

/-- Sections answered one after the other. -/
def machine (now : Nat) {β : Type} (op : RegOp β) (reg : SessionRegistry) : β × SessionRegistry :=
  op.run now reg

/-- The public tools: the only ones that are cached. -/
def public_tools (tools : List ToolDescriptor) : List ToolDescriptor :=
  tools.filter fun tool => tool.visibility.is_public

def raise_tools (reg : SessionRegistry) (changed : Bool) : SessionRegistry :=
  if changed then { reg with tools_epoch := (reg.tools_epoch + 1) % 2 ^ 64 } else reg

def raise_session (reg : SessionRegistry) : SessionRegistry :=
  { reg with session_changed := reg.session_changed + 1 }

/-- What announcing a change does. -/
def announced (reg : SessionRegistry) (changed : Bool) : SessionRegistry :=
  if changed then (reg.raise_tools true).raise_session else reg

/-- `ToolsCacheStore::upsert` of the attached cache. -/
def upsert (kind config_id : String) (tools : List ToolDescriptor) : Prog RegOp Unit := do
  match ← perform .evict_expired with
  | none => return ()
  | some evicted =>
    if evicted then perform .mark_tools_changed
    let changed ← perform (.put_cache kind config_id tools)
    if changed then perform .mark_tools_changed

/-- What eviction does. -/
def evicted (reg : SessionRegistry) (now : Nat) : SessionRegistry :=
  match reg.live_cache with
  | some store =>
    (reg.store_cache (store.evict_expired now).2).raise_tools (store.evict_expired now).1
  | none => reg

/-- What noting tools does. -/
def noted (reg : SessionRegistry) (now : Nat) (kind config_id : String)
    (tools : List ToolDescriptor) : SessionRegistry :=
  match reg.live_cache with
  | some store => (reg.store_cache (store.put kind config_id tools now).2).raise_tools
      (store.put kind config_id tools now).1
  | none => reg

/-! ## What a section may do -/

section Sections

variable (reg : SessionRegistry) (session_id : String)

/-- A registration is refused, or files an active record with the tools of the client. -/
theorem register_cases (params : SessionRegisterParams) (now : Nat) (connection : Option Nat) :
    (∃ error, reg.register params now connection = (.error error, reg)) ∨
      ∃ outcome record, record.state = .Active ∧ record.tools = params.tools ∧
        record.kind = params.kind ∧ record.config_id = resolved_config_id params ∧
        reg.register params now connection =
          (.ok (outcome, reg.next_generation), reg.file params.client_uid record) := by
  rw [register]
  cases reg.inner.get params.client_uid with
  | none => exact .inr ⟨_, _, rfl, rfl, rfl, rfl, rfl⟩
  | some existing =>
    cases state : existing.state with
    | Active => exact .inl ⟨.UidCollision params.client_uid, by simp only [state]⟩
    | Disconnected =>
      exact .inr ⟨.Reconnected, reg.reconnected existing params connection, rfl, rfl, rfl, rfl,
        by simp only [state]⟩

/-- A section that disconnects finds an active record, or does nothing. -/
theorem disconnect_cases (expected_generation now : Nat) :
    reg.disconnect session_id expected_generation now = (none, reg) ∨
      ∃ record, reg.inner.get session_id = some record ∧ record.state = .Active ∧
        reg.disconnect session_id expected_generation now = (some (record.connection, record.dispatcher),
          { reg.set_record session_id (record.disconnected now) with locked := true }) := by
  rw [disconnect]
  cases reg.inner.get session_id with
  | none => exact .inl rfl
  | some record =>
    simp only
    split
    · rename_i expected
      exact .inr ⟨record, rfl, expected.1, rfl⟩
    · exact .inl rfl

theorem disconnect_any_cases (now : Nat) : reg.disconnect_any session_id now = (none, reg) ∨
    ∃ record, reg.inner.get session_id = some record ∧ record.state = .Active ∧
      reg.disconnect_any session_id now = (some (record.connection, record.dispatcher),
        { reg.set_record session_id (record.disconnected now) with locked := true }) := by
  rw [disconnect_any]
  cases found : reg.inner.get session_id with
  | none => exact .inl rfl
  | some record =>
    have cases := reg.disconnect_cases session_id record.connection_generation now
    rwa [found] at cases

theorem touch_cases (now : Nat) : reg.touch session_id now = (false, reg) ∨
    ∃ record, reg.inner.get session_id = some record ∧ reg.touch session_id now =
      (true, reg.set_record session_id { record with last_call_at := now }) := by
  rw [touch]
  cases reg.inner.get session_id with
  | none => exact .inl rfl
  | some record => exact .inr ⟨record, rfl, rfl⟩

theorem take_cases (expected_generation : Nat) :
    reg.take session_id expected_generation = (none, reg) ∨
      ∃ record, reg.inner.get session_id = some record ∧
        reg.take session_id expected_generation = (some record, reg.remove session_id) := by
  rw [take]
  cases reg.inner.get session_id with
  | none => exact .inl rfl
  | some record =>
    simp only
    split
    · exact .inr ⟨record, rfl, rfl⟩
    · exact .inl rfl

/-- The tools of a record are replaced if they differ. -/
theorem replace_tools_cases (tools : List ToolDescriptor) :
    reg.inner.get session_id = none ∧ reg.replace_tools session_id tools = (none, reg) ∨
      ∃ record, reg.inner.get session_id = some record ∧
        (record.tools = tools ∧ reg.replace_tools session_id tools =
            (some (true, record.kind, record.config_id), reg) ∨
          record.tools ≠ tools ∧ reg.replace_tools session_id tools =
            (some (false, record.kind, record.config_id),
              reg.set_record session_id { record with tools })) := by
  rw [replace_tools]
  cases reg.inner.get session_id with
  | none => exact .inl ⟨rfl, rfl⟩
  | some record =>
    refine .inr ⟨record, rfl, ?_⟩
    by_cases same : record.tools = tools
    · left
      simp only [same, beq_self_eq_true, if_true, and_self]
    · right
      simp only [beq_false_of_ne same, Bool.false_eq_true, if_false, ne_eq, same,
        not_false_eq_true, and_self]

/-- A sweep that finds no record to drop drops none. -/
theorem inner_sweep_of_kept {now grace : Nat}
    (kept : ∀ uid record, reg.inner.get uid = some record → expired record now grace = false) :
    (reg.sweep now grace).2.inner = reg.inner :=
  HashMap.retain_eq_self fun uid record found =>
    congrArg Bool.not (kept uid record found)

end Sections

section Cache

variable {reg : SessionRegistry} {now : Nat} {store : ToolsCacheStore}

theorem live_cache_of_some (live : reg.live_cache = some store) :
    reg.tools_cache = some store ∧ store.enabled = true :=
  Option.filter_eq_some_iff.mp live

theorem live_store_cache (enabled : store.enabled = true) :
    (reg.store_cache store).live_cache = some store :=
  Option.filter_eq_some_iff.mpr ⟨rfl, enabled⟩

@[simp] theorem inner_raise_tools (changed : Bool) : (reg.raise_tools changed).inner = reg.inner := by
  cases changed <;> rfl

@[simp] theorem tools_cache_raise_tools (changed : Bool) :
    (reg.raise_tools changed).tools_cache = reg.tools_cache := by
  cases changed <;> rfl

@[simp] theorem live_cache_raise_tools (changed : Bool) :
    (reg.raise_tools changed).live_cache = reg.live_cache := by
  cases changed <;> rfl

@[simp] theorem session_changed_raise_tools (changed : Bool) :
    (reg.raise_tools changed).session_changed = reg.session_changed := by
  cases changed <;> rfl

@[simp] theorem inner_evicted : (reg.evicted now).inner = reg.inner := by
  rw [evicted]
  split
  · exact inner_raise_tools _
  · rfl

@[simp] theorem session_changed_evicted :
    (reg.evicted now).session_changed = reg.session_changed := by
  rw [evicted]
  split
  · exact session_changed_raise_tools _
  · rfl

@[simp] theorem inner_noted (kind config_id : String) (tools : List ToolDescriptor) :
    (reg.noted now kind config_id tools).inner = reg.inner := by
  rw [noted]
  split
  · exact inner_raise_tools _
  · rfl

@[simp] theorem session_changed_noted (kind config_id : String) (tools : List ToolDescriptor) :
    (reg.noted now kind config_id tools).session_changed = reg.session_changed := by
  rw [noted]
  split
  · exact session_changed_raise_tools _
  · rfl

theorem live_evicted (live : reg.live_cache = some store) :
    (reg.evicted now).live_cache = some (store.evict_expired now).2 := by
  rw [evicted, live]
  simp only [live_cache_raise_tools]
  exact live_store_cache (live_cache_of_some live).2

theorem live_noted (live : reg.live_cache = some store) (kind config_id : String)
    (tools : List ToolDescriptor) : (reg.noted now kind config_id tools).live_cache =
      some (store.put kind config_id tools now).2 := by
  rw [noted, live]
  simp only [live_cache_raise_tools]
  exact live_store_cache (live_cache_of_some live).2

theorem evicted_of_live (live : reg.live_cache = some store) : reg.evicted now =
    (reg.store_cache (store.evict_expired now).2).raise_tools (store.evict_expired now).1 := by
  rw [evicted, live]

theorem noted_of_live (live : reg.live_cache = some store) (kind config_id : String)
    (tools : List ToolDescriptor) : reg.noted now kind config_id tools =
      (reg.store_cache (store.put kind config_id tools now).2).raise_tools
        (store.put kind config_id tools now).1 := by
  rw [noted, live]

theorem evicted_of_none (off : reg.live_cache = none) : reg.evicted now = reg := by
  rw [evicted, off]

/-- The section notes what the store puts. -/
theorem run_put_cache (kind config_id : String) (tools : List ToolDescriptor)
    (live : reg.live_cache = some store) :
    (RegOp.put_cache kind config_id tools).run now reg =
      ((store.put kind config_id tools now).1, reg.store_cache (store.put kind config_id tools now).2) := by
  simp only [RegOp.run, live]

theorem eval_mark_tools (changed : Bool) (reg : SessionRegistry) :
    Prog.eval (machine now) (if changed then perform .mark_tools_changed else pure ()) reg =
      ((), reg.raise_tools changed) := by
  cases changed <;> rfl

/-- The cache notes tools, after what has expired is gone. -/
theorem eval_upsert (reg : SessionRegistry) (kind config_id : String) (tools : List ToolDescriptor) :
    (upsert kind config_id tools).eval (machine now) reg =
      ((), (reg.evicted now).noted now kind config_id tools) := by
  have noting (evicted : Bool) (reg : SessionRegistry) {store : ToolsCacheStore}
      (live : reg.live_cache = some store) :
      Prog.eval (machine now) (do
        if evicted then perform .mark_tools_changed
        let changed ← perform (.put_cache kind config_id tools)
        if changed then perform .mark_tools_changed) reg =
        ((), (reg.raise_tools evicted).noted now kind config_id tools) := by
    have unfolded : (do
        if evicted then perform .mark_tools_changed
        let changed ← perform (.put_cache kind config_id tools)
        if changed then perform .mark_tools_changed : Prog RegOp Unit) =
        ((if evicted then perform .mark_tools_changed else pure ()) >>= fun _ =>
          perform (.put_cache kind config_id tools) >>= fun changed =>
            if changed then perform .mark_tools_changed else pure ()) := by
      cases evicted <;> rfl
    rw [unfolded, Prog.eval_bind, eval_mark_tools, Prog.eval_perform, machine, run_put_cache _ _ _
      ((live_cache_raise_tools evicted).trans live), eval_mark_tools, noted, live_cache_raise_tools,
      live]
  cases live : reg.live_cache with
  | none =>
    rw [evicted_of_none live, noted, live, upsert, Prog.eval_perform, machine]
    simp only [RegOp.run, live]
    rfl
  | some store =>
    rw [upsert, Prog.eval_perform, machine]
    simp only [RegOp.run, live]
    rw [evicted, live]
    exact noting _ _ (live_store_cache (live_cache_of_some live).2)

/-- A session's tools are noted without those that agents may not see. -/
theorem eval_upsert_tools_cache (reg : SessionRegistry) (kind config_id : String)
    (tools : List ToolDescriptor) :
    (upsert_tools_cache kind config_id tools).eval (machine now) reg =
      ((), (reg.evicted now).noted now kind config_id (public_tools tools)) :=
  eval_upsert reg kind config_id (public_tools tools)

end Cache

/-! ## The methods -/

/-- What a section that may have disconnected a record leaves, once the lock is given back. -/
def released : Option (Option Nat × Nat) × SessionRegistry → SessionRegistry
  | (some _, reg) => { reg with locked := false }.announced true
  | (none, reg) => reg

section Methods

variable {reg : SessionRegistry} {instant : Nat}

theorem eval_announce (changed : Bool) (reg : SessionRegistry) :
    (announce changed).eval (machine instant) reg = ((), reg.announced changed) := by
  cases changed <;> rfl

theorem eval_register (params : SessionRegisterParams) (now : Nat) (connection : Option Nat) :
    (register_with_generation params now connection).eval (machine instant) reg =
      match reg.register params now connection with
      | (.error error, reg') => (.error error, reg')
      | (.ok result, reg') => (.ok result, ((reg'.announced true).evicted instant).noted instant
          params.kind (resolved_config_id params) (public_tools params.tools)) := by
  rw [register_with_generation, Prog.eval_perform]
  simp only [machine, RegOp.run]
  generalize reg.register params now connection = filed
  obtain ⟨answer, reg'⟩ := filed
  cases answer with
  | error error => rfl
  | ok result =>
    rw [Prog.eval_perform, Prog.eval_perform, Prog.eval_bind]
    simp only [eval_upsert_tools_cache]
    rfl

theorem eval_remove (session_id : String) :
    (remove_session session_id).eval (machine instant) reg =
      (reg.inner.get session_id, (reg.remove session_id).announced (reg.inner.get session_id).isSome) := by
  rw [remove_session, Prog.eval_perform, Prog.eval_bind, eval_announce]
  rfl

theorem eval_remove_if_generation (session_id : String) (expected_generation : Nat) :
    (remove_if_generation session_id expected_generation).eval (machine instant) reg =
      ((reg.take session_id expected_generation).1,
        (reg.take session_id expected_generation).2.announced
          (reg.take session_id expected_generation).1.isSome) := by
  rw [remove_if_generation, Prog.eval_perform, Prog.eval_bind, eval_announce]
  rfl

theorem eval_update_tools (session_id : String) (tools : List ToolDescriptor) :
    (update_tools session_id tools).eval (machine instant) reg =
      match reg.replace_tools session_id tools with
      | (some (false, kind, config_id), reg') => (true, ((reg'.raise_tools true).evicted
          instant).noted instant kind config_id (public_tools tools))
      | (found, reg') => (found.isSome, reg') := by
  rw [update_tools, Prog.eval_perform]
  simp only [machine, RegOp.run]
  generalize reg.replace_tools session_id tools = replaced
  obtain ⟨answer, reg'⟩ := replaced
  cases answer with
  | none => rfl
  | some answer =>
    obtain ⟨same, kind, config_id⟩ := answer
    cases same with
    | true => rfl
    | false =>
      rw [Prog.eval_perform, Prog.eval_bind]
      simp only [eval_upsert_tools_cache]
      rfl

theorem eval_sweep (now grace : Nat) :
    (sweep_expired_disconnects now grace).eval (machine instant) reg =
      ((reg.sweep now grace).1, (reg.sweep now grace).2.raise_tools (!(reg.sweep now grace).1.isEmpty)) := by
  have settled (expired : List String) (reg : SessionRegistry) :
      Prog.eval (machine instant) (do
        if !expired.isEmpty then perform .mark_tools_changed
        return expired) reg = (expired, reg.raise_tools (!expired.isEmpty)) := by
    cases expired <;> rfl
  rw [sweep_expired_disconnects, Prog.eval_perform]
  exact settled _ _

end Methods

end SessionRegistry

/-! ## Calls -/

open SessionRegistry in
/-- What a call leaves in the registry. -/
def RegistryCall.after (instant : Nat) (reg : SessionRegistry) : RegistryCall → SessionRegistry
  | .register_with_generation params now connection =>
      match reg.register params now connection with
      | (.error _, reg') => reg'
      | (.ok _, reg') => ((reg'.announced true).evicted instant).noted instant params.kind
          (resolved_config_id params) (public_tools params.tools)
  | .mark_disconnected session_id now => released (reg.disconnect_any session_id now)
  | .mark_disconnected_if_generation session_id expected_generation now =>
      released (reg.disconnect session_id expected_generation now)
  | .bump_last_call session_id now => (reg.touch session_id now).2
  | .remove session_id =>
      (reg.remove session_id).announced (reg.inner.get session_id).isSome
  | .remove_if_generation session_id expected_generation =>
      (reg.take session_id expected_generation).2.announced
        (reg.take session_id expected_generation).1.isSome
  | .update_tools session_id tools =>
      match reg.replace_tools session_id tools with
      | (some (false, kind, config_id), reg') => ((reg'.raise_tools true).evicted instant).noted
          instant kind config_id (public_tools tools)
      | (_, reg') => reg'
  | .sweep_expired_disconnects now grace =>
      (reg.sweep now grace).2.raise_tools (!(reg.sweep now grace).1.isEmpty)

/-- What a call returns. -/
def RegistryCall.result (reg : SessionRegistry) : RegistryCall → RegistryReturn
  | .register_with_generation params now connection =>
      .registered (reg.register params now connection).1
  | .mark_disconnected session_id now => .found (reg.disconnect_any session_id now).1.isSome
  | .mark_disconnected_if_generation session_id expected_generation now =>
      .found (reg.disconnect session_id expected_generation now).1.isSome
  | .bump_last_call session_id now => .found (reg.touch session_id now).1
  | .remove session_id => .removed (reg.inner.get session_id)
  | .remove_if_generation session_id expected_generation =>
      .removed (reg.take session_id expected_generation).1
  | .update_tools session_id tools => .found (reg.replace_tools session_id tools).1.isSome
  | .sweep_expired_disconnects now grace => .expired (reg.sweep now grace).1

/-- A section that gives the lock back itself. -/
def RegOp.brief : ∀ {β : Type}, RegOp β → Prop
  | _, .mark_disconnected .. | _, .mark_disconnected_if_generation .. => False
  | _, _ => True

section Calls

variable {w : ManagerWorld Unit}

/-- While nobody holds the lock, a method of the registry runs through. -/
theorem handle_reg {α : Type} {p : Prog RegOp α} (brief : p.Only RegOp.brief)
    (free : w.registry.locked = false) :
    (p.lift ManagerOp.reg).handle (fun op w => op.apply () w) w =
      some ((p.eval (SessionRegistry.machine w.now) w.registry).1,
        { w with registry := (p.eval (SessionRegistry.machine w.now) w.registry).2 }) := by
  induction p generalizing w with
  | ret a => rfl
  | op e k ih =>
    have spares : e.handed (e.run w.now w.registry).1 = none := by
      cases e with
      | mark_disconnected | mark_disconnected_if_generation => exact brief.1.elim
      | _ => rfl
    rw [Prog.lift_op, Prog.handle_op, ManagerOp.apply, RegOp.apply_of_free free, Option.map_some,
      Option.bind_some]
    exact ih _ (brief.2 _) (e.unlocked_run w.now free spares)

theorem RegOp.brief_of_marks {β : Type} {op : RegOp β} (marks : op.marks) : op.brief := by
  cases op with
  | mark_disconnected | mark_disconnected_if_generation => exact marks.elim
  | _ => trivial

theorem announce_brief (changed : Bool) : (SessionRegistry.announce changed).Only RegOp.brief := by
  cases changed with
  | false => trivial
  | true => exact ⟨trivial, fun _ => ⟨trivial, fun _ => trivial⟩⟩

theorem upsert_tools_cache_brief (kind config_id : String) (tools : List ToolDescriptor) :
    (SessionRegistry.upsert_tools_cache kind config_id tools).Only RegOp.brief :=
  (upsert_tools_cache_marks kind config_id tools).mono fun _ => RegOp.brief_of_marks

/-- A call that is a method of the registry. -/
theorem call_of_method (free : w.registry.locked = false) (instant : Nat) {α : Type}
    {p : Prog RegOp α} (brief : p.Only RegOp.brief) (f : α → RegistryReturn) (call : RegistryCall)
    (method : call.prog = p.lift (.reg : ∀ {β : Type}, RegOp β → ManagerOp Unit β) >>= fun a => pure (f a))
    {a : α} {reg' : SessionRegistry}
    (ran : p.eval (SessionRegistry.machine instant) w.registry = (a, reg')) :
    ∃ w', w.call instant call = some (f a, w') ∧ w'.registry = reg' := by
  have handled := handle_reg (w := { w with now := instant }) brief free
  rw [ManagerWorld.call, method, Prog.handle_bind, handled]
  simp only [ran]
  exact ⟨_, rfl, rfl⟩

/-- A call that drains what its section hands out. -/
theorem call_of_release (free : w.registry.locked = false) (instant : Nat)
    (op : RegOp (Option (Option Nat × Nat))) (call : RegistryCall)
    (method : call.prog = perform (.reg op) >>= fun handed =>
      (SessionRegistry.release handed : Prog (ManagerOp Unit) Bool) >>= fun found => pure (.found found)) :
    ∃ w', w.call instant call = some (.found (op.run instant w.registry).1.isSome, w') ∧
      w'.registry = SessionRegistry.released (op.run instant w.registry) := by
  rw [ManagerWorld.call, method, Prog.handle_perform, apply_section free, Option.bind_some,
    Prog.handle_bind]
  generalize op.run instant w.registry = ran
  obtain ⟨answer, reg'⟩ := ran
  cases answer with
  | none => exact ⟨_, rfl, rfl⟩
  | some handed =>
    obtain ⟨connections, done⟩ := handle_release handed { w with now := instant, registry := reg' }
    rw [done]
    exact ⟨_, rfl, rfl⟩

/-- **What a call returns, and leaves in the registry.** -/
theorem call_after (free : w.registry.locked = false) (instant : Nat) (call : RegistryCall) :
    ∃ w', w.call instant call = some (call.result w.registry, w') ∧
      w'.registry = call.after instant w.registry := by
  cases call with
  | register_with_generation params now connection =>
    have brief : (SessionRegistry.register_with_generation params now connection).Only RegOp.brief := by
      refine ⟨trivial, fun answer => ?_⟩
      cases answer with
      | error error => trivial
      | ok result =>
        exact ⟨trivial, fun _ => ⟨trivial, fun _ =>
          (upsert_tools_cache_brief _ _ _).bind fun _ => trivial⟩⟩
    refine call_of_method free instant brief .registered _ rfl ?_
    rw [SessionRegistry.eval_register, RegistryCall.after]
    generalize w.registry.register params now connection = filed
    obtain ⟨answer, reg'⟩ := filed
    cases answer <;> rfl
  | mark_disconnected session_id now =>
    exact call_of_release free instant (.mark_disconnected session_id now) _ rfl
  | mark_disconnected_if_generation session_id expected_generation now =>
    exact call_of_release free instant
      (.mark_disconnected_if_generation session_id expected_generation now) _ rfl
  | bump_last_call session_id now =>
    have brief : (perform (.bump_last_call session_id now) : Prog RegOp Bool).Only RegOp.brief :=
      ⟨trivial, fun _ => trivial⟩
    exact call_of_method free instant brief .found _ rfl rfl
  | remove session_id =>
    have brief : (SessionRegistry.remove_session session_id).Only RegOp.brief :=
      ⟨trivial, fun removed => (announce_brief _).bind fun _ => trivial⟩
    exact call_of_method free instant brief .removed _ rfl (SessionRegistry.eval_remove session_id)
  | remove_if_generation session_id expected_generation =>
    have brief : (SessionRegistry.remove_if_generation session_id expected_generation).Only
        RegOp.brief := ⟨trivial, fun removed => (announce_brief _).bind fun _ => trivial⟩
    exact call_of_method free instant brief .removed _ rfl
      (SessionRegistry.eval_remove_if_generation session_id expected_generation)
  | update_tools session_id tools =>
    have brief : (SessionRegistry.update_tools session_id tools).Only RegOp.brief := by
      refine ⟨trivial, fun found => ?_⟩
      cases found with
      | none => trivial
      | some found =>
        obtain ⟨same, kind, config_id⟩ := found
        cases same with
        | true => trivial
        | false =>
          exact ⟨trivial, fun _ => (upsert_tools_cache_brief _ _ _).bind fun _ => trivial⟩
    refine call_of_method free instant brief .found _ rfl ?_
    rw [SessionRegistry.eval_update_tools, RegistryCall.after]
    generalize w.registry.replace_tools session_id tools = replaced
    obtain ⟨answer, reg'⟩ := replaced
    cases answer with
    | none => rfl
    | some answer =>
      obtain ⟨same, kind, config_id⟩ := answer
      cases same <;> rfl
  | sweep_expired_disconnects now grace =>
    have brief : (SessionRegistry.sweep_expired_disconnects now grace).Only RegOp.brief := by
      refine ⟨trivial, fun expired => ?_⟩
      cases expired with
      | nil => trivial
      | cons => exact ⟨trivial, fun _ => trivial⟩
    exact call_of_method free instant brief .expired _ rfl (SessionRegistry.eval_sweep now grace)

end Calls

end SessionManager
