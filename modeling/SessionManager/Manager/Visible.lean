import SessionManager.Effect.Lockstep
import SessionManager.Manager.Calls

/-!
# The visible part of the registry

Agents see public tools only.  Two registries see the same calls, except for the internal tools in
the lists that clients declare: each call makes the same requests in both (`Lockstep`), and leaves
worlds that look the same as long as `update_tools` finds the list unchanged in both or in neither
(`call_alike`).
-/

namespace SessionManager

open Effect

open Prog (perform)

/-! ## The visible part -/

def visible_tools (tools : List ToolDescriptor) : List ToolDescriptor :=
  tools.filter fun tool => tool.visibility.is_public

def SessionRecord.visible (record : SessionRecord) : SessionRecord :=
  { record with tools := visible_tools record.tools }

def SessionRegisterParams.visible (params : SessionRegisterParams) : SessionRegisterParams :=
  { params with tools := visible_tools params.tools }

def SessionRegistry.visible (reg : SessionRegistry) : SessionRegistry :=
  { reg with inner := reg.inner.map SessionRecord.visible }

def ManagerWorld.visible {ι : Type} (w : ManagerWorld ι) : ManagerWorld ι :=
  { w with registry := w.registry.visible }

/-- A call with the internal tools left out of its payload. -/
def RegistryCall.visible : RegistryCall → RegistryCall
  | .register_with_generation params now connection =>
      .register_with_generation params.visible now connection
  | .update_tools session_id tools => .update_tools session_id (visible_tools tools)
  | call => call

@[simp] theorem visible_visible_tools (tools : List ToolDescriptor) :
    visible_tools (visible_tools tools) = visible_tools tools := by
  simp [visible_tools]

namespace SessionRegistry

variable (reg : SessionRegistry)

@[simp] theorem visible_get (uid : String) :
    reg.visible.inner.get uid = (reg.inner.get uid).map SessionRecord.visible :=
  HashMap.get_map ..

theorem visible_set_record (uid : String) (record : SessionRecord) :
    (reg.set_record uid record).visible = reg.visible.set_record uid record.visible := by
  simp [visible, set_record, HashMap.map_insert]

theorem visible_file (uid : String) (record : SessionRecord) :
    (reg.file uid record).visible = reg.visible.file uid record.visible := by
  simp [visible, file, next_generation, HashMap.map_insert]

theorem visible_remove (uid : String) : (reg.remove uid).visible = reg.visible.remove uid := by
  simp [visible, remove, HashMap.map_remove]

theorem visible_sweep (now grace : Nat) :
    reg.visible.sweep now grace = ((reg.sweep now grace).1, (reg.sweep now grace).2.visible) := by
  have kept := HashMap.map_retain reg.inner SessionRecord.visible
    (fun _ record => !expired record now grace) (fun _ record => !expired record now grace)
    fun _ _ => rfl
  have any (uid : String) : ((reg.inner.get uid).map SessionRecord.visible).any
      (fun record => expired record now grace) =
        (reg.inner.get uid).any fun record => expired record now grace := by
    cases reg.inner.get uid <;> rfl
  simp [sweep, visible, HashMap.keys_map, HashMap.get_map, kept, any]

/-- Registering a client, as seen from outside. -/
theorem visible_register (params : SessionRegisterParams) (now : Nat) (connection : Option Nat) :
    reg.visible.register params.visible now connection =
      ((reg.register params now connection).1, (reg.register params now connection).2.visible) := by
  have uid : params.visible.client_uid = params.client_uid := rfl
  unfold register
  rw [uid, visible_get]
  cases reg.inner.get params.client_uid with
  | none =>
    rw [visible_file]
    rfl
  | some existing =>
    have state : existing.visible.state = existing.state := rfl
    simp only [Option.map_some, state]
    cases existing.state with
    | Active => rfl
    | Disconnected =>
      rw [visible_file]
      rfl

theorem visible_disconnect (session_id : String) (expected_generation now : Nat) :
    reg.visible.disconnect session_id expected_generation now =
      ((reg.disconnect session_id expected_generation now).1,
        (reg.disconnect session_id expected_generation now).2.visible) := by
  unfold disconnect
  rw [visible_get]
  cases reg.inner.get session_id with
  | none => rfl
  | some record =>
    have state : record.visible.state = record.state := rfl
    have generation : record.visible.connection_generation = record.connection_generation := rfl
    simp only [Option.map_some, state, generation]
    split
    · have filed := reg.visible_set_record session_id (record.disconnected now)
      exact congrArg (fun reg : SessionRegistry => (_, { reg with locked := true })) filed.symm
    · rfl

end SessionRegistry

/-! ## Sections of two registries -/

/-- The section is that of `update_tools`, which compares the whole lists. -/
def RegOp.retools : ∀ {β : Type}, RegOp β → Prop
  | _, .update_tools .. => True
  | _, _ => False

def RegOp.visible : ∀ {β : Type}, RegOp β → RegOp β
  | _, .register params now connection => .register params.visible now connection
  | _, op => op

/-- What is visible of an answer. -/
def RegOp.see : ∀ {β : Type}, RegOp β → β → β
  | _, .remove _, removed => removed.map SessionRecord.visible
  | _, .remove_if_generation .., removed => removed.map SessionRecord.visible
  | _, .get _, found => found.map SessionRecord.visible
  | _, .snapshot, records => records.map SessionRecord.visible
  | _, _, answer => answer

/-- Sections that differ in internal tools at most, and what their answers have in common. -/
def RegOp.Twin : Pairing RegOp := fun op op' alike =>
  op.visible = op'.visible ∧ ¬ op.retools ∧ ∀ b b', op.see b = op.see b' → alike b b'

theorem RegOp.see_visible {β : Type} (op : RegOp β) (b : β) : op.visible.see b = op.see b := by
  cases op <;> rfl

theorem RegOp.retools_visible {β : Type} (op : RegOp β) : op.visible.retools ↔ op.retools := by
  cases op <;> rfl

theorem RegOp.apply_visible {β : Type} {op : RegOp β} (keeps : ¬ op.retools) (now : Nat)
    (reg : SessionRegistry) :
    op.visible.apply now reg.visible =
      (op.apply now reg).map fun answer => (op.see answer.1, answer.2.visible) := by
  have locked : reg.visible.locked = reg.locked := rfl
  have live : reg.visible.live_cache = reg.live_cache := rfl
  cases op with
  | update_tools => exact (keeps trivial).elim
  | unlock | mark_tools_changed | mark_session_changed | list_cache => rfl
  | evict_expired | put_cache | clear_cache | clear_config =>
    simp only [visible, apply, live]
    cases reg.live_cache <;> rfl
  | register params instant connection =>
    simp only [visible, apply, locked, reg.visible_register]
    split <;> rfl
  | mark_disconnected session_id instant =>
    simp only [visible, apply, locked, SessionRegistry.disconnect_any, reg.visible_get]
    split
    · rfl
    · cases reg.inner.get session_id with
      | none => rfl
      | some record => exact congrArg some (reg.visible_disconnect session_id _ instant)
  | mark_disconnected_if_generation session_id expected_generation instant =>
    simp only [visible, apply, locked, reg.visible_disconnect]
    split <;> rfl
  | bump_last_call session_id instant =>
    simp only [visible, apply, locked, SessionRegistry.touch, reg.visible_get]
    split
    · rfl
    · cases reg.inner.get session_id with
      | none => rfl
      | some record =>
        have filed := reg.visible_set_record session_id { record with last_call_at := instant }
        exact congrArg (fun reg => some (true, reg)) filed.symm
  | remove session_id =>
    simp only [visible, apply, locked, reg.visible_get, ← reg.visible_remove]
    split <;> rfl
  | remove_if_generation session_id expected_generation =>
    simp only [visible, apply, locked, SessionRegistry.take, reg.visible_get]
    split
    · rfl
    · cases reg.inner.get session_id with
      | none => rfl
      | some record =>
        have generation : record.visible.connection_generation = record.connection_generation := rfl
        simp only [Option.map_some, generation, ← reg.visible_remove]
        split <;> rfl
  | sweep_expired_disconnects instant grace =>
    simp only [visible, apply, locked, reg.visible_sweep]
    split <;> rfl
  | snapshot =>
    have values : reg.visible.inner.values = reg.inner.values.map SessionRecord.visible :=
      HashMap.values_map ..
    simp only [visible, apply, locked, values]
    split <;> rfl
  | get session_id =>
    simp only [visible, apply, locked, reg.visible_get]
    split <;> rfl

theorem RegOp.Twin.apply {β : Type} {op op' : RegOp β} {alike : β → β → Prop}
    (twin : RegOp.Twin op op' alike) (now : Nat) {reg reg' : SessionRegistry}
    (same : reg.visible = reg'.visible) :
    Both alike (fun reg reg' => reg.visible = reg'.visible) (op.apply now reg) (op'.apply now reg') := by
  obtain ⟨payload, keeps, answers⟩ := twin
  have keeps' : ¬ op'.retools := by
    rwa [← op'.retools_visible, ← payload, op.retools_visible]
  have here := RegOp.apply_visible keeps now reg
  rw [payload, same, RegOp.apply_visible keeps' now reg'] at here
  refine (both_of_map here.symm).mono fun b b' seen => answers b b' ?_
  rw [seen, ← op'.see_visible, ← payload, op.see_visible]

/-! ## Worlds that look the same -/

/-- An agent cannot tell the worlds apart. -/
def LookAlike (w w' : ManagerWorld Unit) : Prop := w.visible = w'.visible

theorem LookAlike.of_registry {w w' : ManagerWorld Unit} (same : LookAlike w w')
    {reg reg' : SessionRegistry} (registry : reg.visible = reg'.visible) :
    LookAlike { w with registry := reg } { w' with registry := reg' } := by
  have rest := congrArg (fun v : ManagerWorld Unit => { v with registry := reg.visible }) same
  unfold LookAlike ManagerWorld.visible
  rw [← registry]
  exact rest

theorem LookAlike.at_instant {w w' : ManagerWorld Unit} (same : LookAlike w w') (instant : Nat) :
    LookAlike { w with now := instant } { w' with now := instant } :=
  (congrArg (fun v : ManagerWorld Unit => { v with now := instant }) same :)

/-- Requests of two worlds, and what their answers have in common. -/
inductive ManagerOp.Twin : Pairing (ManagerOp Unit)
  | reg {β : Type} {op op' : RegOp β} {alike : β → β → Prop} :
    RegOp.Twin op op' alike → Twin (.reg op) (.reg op') alike
  | other {β : Type} {op : ManagerOp Unit β} : (∀ op', op ≠ .reg op') → Twin op op Eq

theorem ManagerOp.apply_visible {β : Type} {op : ManagerOp Unit β} (beyond : ∀ op', op ≠ .reg op')
    (w : ManagerWorld Unit) :
    op.apply () w.visible = (op.apply () w).map fun r => (r.1, r.2.visible) := by
  cases op with
  | reg op => exact (beyond op rfl).elim
  | disp dispatcher connection op =>
    have view : w.visible.view dispatcher connection = w.view dispatcher connection := rfl
    simp only [apply, view, Option.map_map]
    rfl
  | timeout_at connection rx deadline =>
    have view : w.visible.view 0 connection = w.view 0 connection := rfl
    simp only [apply, view, Option.map_map]
    rfl
  | _ => rfl

theorem ManagerOp.Twin.apply {β : Type} {op op' : ManagerOp Unit β} {alike : β → β → Prop}
    (twin : Twin op op' alike) {w w' : ManagerWorld Unit} (same : LookAlike w w') :
    Both alike LookAlike (op.apply () w) (op'.apply () w') := by
  cases twin with
  | @reg _ op op' _ twin =>
    have now : w.now = w'.now := (congrArg (fun v : ManagerWorld Unit => v.now) same :)
    have sections := twin.apply w.now (congrArg (fun v : ManagerWorld Unit => v.registry) same :)
    rw [ManagerOp.apply, ManagerOp.apply]
    generalize op.apply w.now w.registry = here at sections ⊢
    rw [now] at sections
    generalize op'.apply w'.now w'.registry = there at sections ⊢
    cases sections with
    | none => exact .none
    | some answered => exact .some ⟨answered.1, same.of_registry answered.2⟩
  | other beyond =>
    have here := ManagerOp.apply_visible beyond w
    rw [show w.visible = w'.visible from same, ManagerOp.apply_visible beyond w'] at here
    exact both_of_map here.symm

/-! ## Calls side by side -/

/-- The record has exactly these tools, as `update_tools` finds it. -/
def SessionRegistry.unchanged (reg : SessionRegistry) (session_id : String)
    (tools : List ToolDescriptor) : Prop :=
  ∃ record, reg.inner.get session_id = some record ∧ record.tools = tools

/-- Both updates find the recorded list unchanged, or neither does. -/
def UpdatesAgree (w : ManagerWorld Unit) (call : RegistryCall) (w' : ManagerWorld Unit)
    (call' : RegistryCall) : Prop :=
  match call, call' with
  | .update_tools session_id tools, .update_tools session_id' tools' =>
    w.registry.unchanged session_id tools ↔ w'.registry.unchanged session_id' tools'
  | _, _ => True

/-- Requests that both worlds make, with the same answers. -/
abbrev ManagerOp.Common {β : Type} (op : ManagerOp Unit β) : Prop := ManagerOp.Twin op op Eq

theorem RegOp.Twin.plain {β : Type} {op : RegOp β} (keeps : ¬ op.retools)
    (plain : ∀ b, op.see b = b) : RegOp.Twin op op Eq :=
  ⟨rfl, keeps, fun b b' same => by rwa [plain, plain] at same⟩

theorem upsert_tools_cache_visible (kind config_id : String) (tools : List ToolDescriptor) :
    SessionRegistry.upsert_tools_cache kind config_id (visible_tools tools) =
      SessionRegistry.upsert_tools_cache kind config_id tools := by
  unfold SessionRegistry.upsert_tools_cache
  have filtered : (visible_tools tools).filter (fun tool => tool.visibility.is_public) =
      tools.filter fun tool => tool.visibility.is_public := visible_visible_tools tools
  rw [filtered]

/-- Caching the tools a client declared. -/
theorem upsert_tools_cache_lockstep (kind config_id : String) {tools tools' : List ToolDescriptor}
    (same : visible_tools tools = visible_tools tools') :
    Lockstep RegOp.Twin Eq (SessionRegistry.upsert_tools_cache kind config_id tools)
      (SessionRegistry.upsert_tools_cache kind config_id tools') := by
  rw [← upsert_tools_cache_visible, same, upsert_tools_cache_visible]
  refine .of_only (P := RegOp.marks) ?_ (upsert_tools_cache_marks kind config_id tools')
  intro γ op marks
  cases op with
  | mark_tools_changed | mark_session_changed | evict_expired | put_cache =>
    exact .plain id fun _ => rfl
  | _ => exact marks.elim

/-- Values that are not compared. -/
theorem lockstep_of_values {R : Pairing (ManagerOp Unit)} {α β : Type} {Q : α → β → Prop}
    {p : Prog (ManagerOp Unit) α} {p' : Prog (ManagerOp Unit) β} (lockstep : Lockstep R Q p p')
    (f : α → RegistryReturn) (f' : β → RegistryReturn) :
    Lockstep R (fun _ _ => True) (p >>= fun a => pure (f a)) (p' >>= fun b => pure (f' b)) :=
  lockstep.bind fun _ _ _ => .ret trivial

theorem register_lockstep {params params' : SessionRegisterParams}
    (same : params.visible = params'.visible) (now : Nat) (connection : Option Nat) :
    Lockstep RegOp.Twin Eq (SessionRegistry.register_with_generation params now connection)
      (SessionRegistry.register_with_generation params' now connection) := by
  have kind : params.kind = params'.kind :=
    (congrArg (fun params : SessionRegisterParams => params.kind) same :)
  have config_id : SessionRegistry.resolved_config_id params =
      SessionRegistry.resolved_config_id params' := (congrArg SessionRegistry.resolved_config_id same :)
  have tools : visible_tools params.tools = visible_tools params'.tools :=
    (congrArg (fun params : SessionRegisterParams => params.tools) same :)
  unfold SessionRegistry.register_with_generation
  have twin : RegOp.Twin (.register params now connection) (.register params' now connection) Eq :=
    ⟨congrArg (RegOp.register · now connection) same, id, fun _ _ same => same⟩
  refine .op Eq twin fun result result' answered => ?_
  subst answered
  cases result with
  | error error => exact .ret rfl
  | ok result =>
    refine .op Eq (.plain id fun _ => rfl) fun _ _ _ => ?_
    refine .op Eq (.plain id fun _ => rfl) fun _ _ _ => ?_
    rw [kind, config_id]
    exact (upsert_tools_cache_lockstep _ _ tools).bind fun _ _ _ => .ret rfl

/-- Draining what a section handed out. -/
theorem release_lockstep (handed : Option (Option Nat × Nat)) :
    Lockstep ManagerOp.Twin Eq (SessionRegistry.release handed : Prog (ManagerOp Unit) Bool)
      (SessionRegistry.release handed) := by
  have beyond {β : Type} {op : ManagerOp Unit β} (beyond : ∀ op', op ≠ .reg op') : op.Common :=
    .other beyond
  refine .of_only (P := ManagerOp.Common) id ?_
  cases handed with
  | none => trivial
  | some handed =>
    obtain ⟨connection, dispatcher⟩ := handed
    have drained : (do
        perform (.drain_dispatcher dispatcher)
        perform (.reg .unlock)
        perform (.reg .mark_tools_changed)
        perform (.reg .mark_session_changed)
        return true : Prog (ManagerOp Unit) Bool).Only ManagerOp.Common :=
      ⟨beyond fun _ none => (by cases none), fun _ => ⟨.reg (.plain id fun _ => rfl), fun _ =>
        ⟨.reg (.plain id fun _ => rfl), fun _ => ⟨.reg (.plain id fun _ => rfl), fun _ => trivial⟩⟩⟩⟩
    cases connection with
    | none => exact drained
    | some connection =>
      have closing : (ConnectionHandle.drain connection : Prog (ManagerOp Unit) Unit).Only
          ManagerOp.Common := by
        refine Prog.only_lift.mpr (Prog.Only.of_forall (fun op => ?_) _)
        exact beyond fun _ none => by cases none
      exact closing.bind fun _ => drained

/-- The payload of the call has tools. -/
def RegistryCall.declares : RegistryCall → Prop
  | .register_with_generation .. | .update_tools .. => True
  | _ => False

theorem RegistryCall.visible_of_plain {call : RegistryCall} (plain : ¬ call.declares) :
    call.visible = call := by
  cases call with
  | register_with_generation | update_tools => exact (plain trivial).elim
  | _ => rfl

theorem RegistryCall.declares_visible (call : RegistryCall) : call.visible.declares ↔ call.declares := by
  cases call <;> rfl

/-- A call without tools makes the same requests in both worlds. -/
theorem plain_call_lockstep {call : RegistryCall} (plain : ¬ call.declares) :
    Lockstep ManagerOp.Twin (fun _ _ => True) (call.prog : Prog (ManagerOp Unit) RegistryReturn)
      call.prog := by
  have section_twin {β : Type} {op : RegOp β} (keeps : ¬ op.retools) :
      ManagerOp.Twin (.reg op) (.reg op) fun b b' => op.see b = op.see b' :=
    .reg ⟨rfl, keeps, fun _ _ same => same⟩
  have marking : ManagerOp.Common (.reg .mark_tools_changed) := .reg (.plain id fun _ => rfl)
  have signalling : ManagerOp.Common (.reg .mark_session_changed) := .reg (.plain id fun _ => rfl)
  have removed {op : RegOp (Option SessionRecord)} (keeps : ¬ op.retools)
      (sees : ∀ removed, (op.see removed).isSome = removed.isSome) (a b : Option SessionRecord)
      (same : op.see a = op.see b) :
      Lockstep ManagerOp.Twin (fun _ _ => True)
        ((do SessionRegistry.announce a.isSome
             return a : Prog RegOp (Option SessionRecord)).lift (ManagerOp.reg (ι := Unit)))
        ((do SessionRegistry.announce b.isSome
             return b : Prog RegOp (Option SessionRecord)).lift ManagerOp.reg) := by
    have some : a.isSome = b.isSome := by rw [← sees, same, sees]
    rw [some]
    cases b.isSome with
    | false => exact .ret trivial
    | true => exact .op Eq marking fun _ _ _ => .op Eq signalling fun _ _ _ => .ret trivial
  cases call with
  | register_with_generation | update_tools => exact (plain trivial).elim
  | mark_disconnected session_id now =>
    have disconnecting : Lockstep ManagerOp.Twin Eq
        (SessionRegistry.mark_disconnected session_id now : Prog (ManagerOp Unit) Bool)
        (SessionRegistry.mark_disconnected session_id now) := by
      refine .op Eq (section_twin id) fun handed handed' same => ?_
      subst same
      exact release_lockstep handed
    exact lockstep_of_values disconnecting .found .found
  | mark_disconnected_if_generation session_id expected_generation now =>
    have disconnecting : Lockstep ManagerOp.Twin Eq
        (SessionRegistry.mark_disconnected_if_generation session_id expected_generation now :
          Prog (ManagerOp Unit) Bool)
        (SessionRegistry.mark_disconnected_if_generation session_id expected_generation now) := by
      refine .op Eq (section_twin id) fun handed handed' same => ?_
      subst same
      exact release_lockstep handed
    exact lockstep_of_values disconnecting .found .found
  | bump_last_call session_id now =>
    exact .op Eq (section_twin id) fun _ _ _ => .ret trivial
  | remove session_id =>
    refine lockstep_of_values (Q := fun _ _ => True) ?_ .removed .removed
    refine .op _ (section_twin id) (removed id fun removed => ?_)
    cases removed <;> rfl
  | remove_if_generation session_id expected_generation =>
    refine lockstep_of_values (Q := fun _ _ => True) ?_ .removed .removed
    refine .op _ (section_twin id) (removed id fun removed => ?_)
    cases removed <;> rfl
  | sweep_expired_disconnects now grace =>
    refine lockstep_of_values (Q := fun _ _ => True) ?_ .expired .expired
    refine .op Eq (section_twin id) fun expired expired' same => ?_
    subst same
    cases expired with
    | nil => exact .ret trivial
    | cons => exact .op Eq marking fun _ _ _ => .ret trivial

theorem SessionRecord.visible_retooled {record record' : SessionRecord}
    (look : record.visible = record'.visible) {tools tools' : List ToolDescriptor}
    (payload : visible_tools tools = visible_tools tools') :
    SessionRecord.visible { record with tools } = SessionRecord.visible { record' with tools := tools' } := by
  have rest := congrArg (fun record : SessionRecord =>
    { record with tools := visible_tools tools }) look
  refine rest.trans ?_
  rw [payload]
  rfl

/-- `update_tools` in two worlds that look the same, if it finds the lists unchanged in both or in
neither. -/
theorem update_alike {w w' : ManagerWorld Unit} (same : LookAlike w w') (session_id : String)
    {tools tools' : List ToolDescriptor} (payload : visible_tools tools = visible_tools tools')
    (agree : w.registry.unchanged session_id tools ↔ w'.registry.unchanged session_id tools') :
    Both Eq LookAlike ((ManagerOp.reg (.update_tools session_id tools)).apply () w)
      ((ManagerOp.reg (.update_tools session_id tools')).apply () w') := by
  have registry : w.registry.visible = w'.registry.visible :=
    (congrArg (fun v : ManagerWorld Unit => v.registry) same :)
  have locked : w.registry.locked = w'.registry.locked := (congrArg SessionRegistry.locked registry :)
  have found := (congrArg (fun reg : SessionRegistry => reg.inner.get session_id) registry :)
  rw [SessionRegistry.visible_get, SessionRegistry.visible_get] at found
  unfold SessionRegistry.unchanged at agree
  simp only [ManagerOp.apply, RegOp.apply, locked, SessionRegistry.replace_tools]
  split
  · exact .none
  · cases here : w.registry.inner.get session_id with
    | none =>
      rw [here, Option.map_none] at found
      rw [Option.map_eq_none_iff.mp found.symm]
      exact .some ⟨rfl, same⟩
    | some record =>
      rw [here, Option.map_some] at found
      obtain ⟨record', there, look⟩ := Option.map_eq_some_iff.mp found.symm
      rw [here, there] at agree
      have unchanged : record.tools = tools ↔ record'.tools = tools' := by simpa using agree
      have kind : record'.kind = record.kind := (congrArg SessionRecord.kind look :)
      have config_id : record'.config_id = record.config_id := (congrArg SessionRecord.config_id look :)
      rw [there]
      by_cases unaltered : record.tools = tools
      · have unaltered' := unchanged.mp unaltered
        simp only [beq_iff_eq.mpr unaltered, beq_iff_eq.mpr unaltered']
        exact .some ⟨by rw [kind, config_id], same⟩
      · have altered : ¬ record'.tools = tools' := fun same => unaltered (unchanged.mpr same)
        simp only [beq_eq_false_iff_ne.mpr unaltered, beq_eq_false_iff_ne.mpr altered]
        refine .some ⟨by rw [kind, config_id], same.of_registry ?_⟩
        have retooled := SessionRecord.visible_retooled look.symm payload
        simp only [Bool.false_eq_true, if_false]
        rw [SessionRegistry.visible_set_record, SessionRegistry.visible_set_record, registry, retooled]

/-- **A step of two runs**: worlds that look the same do so after the call. -/
theorem call_alike {w w' : ManagerWorld Unit} (same : LookAlike w w') {call call' : RegistryCall}
    (payload : call.visible = call'.visible) (agree : UpdatesAgree w call w' call') (instant : Nat) :
    Both (fun _ _ => True) LookAlike (w.call instant call) (w'.call instant call') := by
  have started := same.at_instant instant
  have step {β : Type} {op op' : ManagerOp Unit β} {alike : β → β → Prop} (w w' : ManagerWorld Unit)
      (twin : ManagerOp.Twin op op' alike) (same : LookAlike w w') :
      Both alike LookAlike (op.apply () w) (op'.apply () w') := twin.apply same
  unfold ManagerWorld.call
  by_cases declares : call.declares
  · cases call with
    | register_with_generation params now connection =>
      cases call' with
      | register_with_generation params' now' connection' =>
        obtain ⟨declared, rfl, rfl⟩ := RegistryCall.register_with_generation.inj payload
        have lifted : Lockstep ManagerOp.Twin Eq
            ((SessionRegistry.register_with_generation params now connection).lift
              (ManagerOp.reg (ι := Unit)))
            ((SessionRegistry.register_with_generation params' now connection).lift ManagerOp.reg) :=
          (register_lockstep declared now connection).lift fun twin => .reg twin
        exact handle_lockstep step (lockstep_of_values lifted .registered .registered) started
      | _ => cases payload
    | update_tools session_id tools =>
      cases call' with
      | update_tools session_id' tools' =>
        obtain ⟨rfl, declared⟩ := RegistryCall.update_tools.inj payload
        refine both_op (update_alike started session_id declared agree) fun found found' v v' same looks => ?_
        subst same
        refine handle_lockstep step ?_ looks
        cases found with
        | none => exact .ret trivial
        | some found =>
          obtain ⟨unaltered, kind, config_id⟩ := found
          cases unaltered with
          | true => exact .ret trivial
          | false =>
            refine .op Eq (.reg (.plain id fun _ => rfl)) fun _ _ _ => ?_
            have cached : Lockstep RegOp.Twin Eq
                (do SessionRegistry.upsert_tools_cache kind config_id tools; return true)
                (do SessionRegistry.upsert_tools_cache kind config_id tools'; return true) :=
              (upsert_tools_cache_lockstep kind config_id declared).bind fun _ _ _ => .ret rfl
            exact lockstep_of_values (cached.lift fun twin => .reg twin) .found .found
      | _ => cases payload
    | _ => exact declares.elim
  · have plain' : ¬ call'.declares := by
      rwa [← call'.declares_visible, ← payload, call.declares_visible]
    rw [RegistryCall.visible_of_plain declares, RegistryCall.visible_of_plain plain'] at payload
    subst payload
    exact handle_lockstep step (plain_call_lockstep declares) started

end SessionManager
