import SessionManager.Manager.Outcomes
import SessionManager.Manager.Unseen
import SessionManager.Router.Enumeration
import SessionManager.Router.Explicit

/-!
# Two histories that differ in internal tools

Operations of the registry are carried out in two managers, side by side, with payloads that differ
in internal tools only (`SideBySide`).  The managers hold the same sessions as far as an agent can
see.  What they cache is the same as well, as long as `update_tools` finds a list unchanged in both
managers or in neither (`internal_tools_unseen`).
-/

namespace SessionManager

open Effect

open Prog (perform)

/-! ## Operations -/

/-- What an agent asks for: the tools, the sessions, or where a call of a name goes. -/
inductive Reading
  | list_tools (builtin : List Tool)
  | list_sessions
  | resolve (name : String) (requested_session_id : Option String)

inductive Shown
  | tools (tools : List Tool)
  | sessions (sessions : List SessionListItem)
  | routed (routed : Except ProxyAnswer (ResolvedCall × SessionRecord))

inductive Operation
  | call (call : RegistryCall)
  | reading (reading : Reading)

/-- An operation with the internal tools left out of its payload. -/
def Operation.visible : Operation → Operation
  | .call request => .call request.visible
  | .reading asked => .reading asked

/-- What is shown, without the internal tools of the record that is routed to. -/
def Shown.seen : Shown → Shown
  | .routed target => .routed (seen_route target)
  | shown => shown

section Operate

variable (crates : Crates)

def Reading.prog : Reading → Prog (ManagerOp Unit) Shown
  | .list_tools builtin => do return .tools (← (list_all_tools_inner crates builtin).lift .reg)
  | .list_sessions => do return .sessions (← management.list)
  | .resolve name requested_session_id => do
    return .routed (← (route crates name requested_session_id).lift .reg)

namespace ManagerWorld

/-- Answer a reading while the clock stands at `instant`. -/
def read (w : ManagerWorld Unit) (instant : Nat) (reading : Reading) :
    Option (Shown × ManagerWorld Unit) :=
  (reading.prog crates).handle (fun op w => op.apply () w) { w with now := instant }

/-- The world after an operation. -/
def operate (w : ManagerWorld Unit) (instant : Nat) : Operation → Option (ManagerWorld Unit)
  | .call call => (w.call instant call).map Prod.snd
  | .reading reading => (w.read crates instant reading).map Prod.snd

end ManagerWorld

end Operate

/-- Operations of two managers, whose payloads differ in internal tools only. -/
structure OperationPair where
  instant : Nat
  op : Operation
  op' : Operation
  same : op.visible = op'.visible

/-- Both updates find the recorded list unchanged, or neither does. -/
def OperationPair.Agree (pair : OperationPair) (w w' : ManagerWorld Unit) : Prop :=
  match pair.op, pair.op' with
  | .call call, .call call' => UpdatesAgree w call w' call'
  | _, _ => True

/-- The pairs of operations that two new managers have carried out, each with the worlds it was
carried out in, and the worlds they are in now. -/
inductive SideBySide (crates : Crates) (tools_cache : Option ToolsCacheStore) :
    List (OperationPair × ManagerWorld Unit × ManagerWorld Unit) →
      ManagerWorld Unit → ManagerWorld Unit → Prop
  | new (now : Nat) : SideBySide crates tools_cache [] (.new tools_cache now) (.new tools_cache now)
  | snoc {past : List (OperationPair × ManagerWorld Unit × ManagerWorld Unit)}
      {w w' v v' : ManagerWorld Unit} (pair : OperationPair) :
    SideBySide crates tools_cache past w w' → w.operate crates pair.instant pair.op = some v →
    w'.operate crates pair.instant pair.op' = some v' →
    SideBySide crates tools_cache (past ++ [(pair, w, w')]) v v'

/-! ## Managers that look the same -/

section Alike

variable {crates : Crates} {w w' v v' : ManagerWorld Unit}

theorem reading_lockstep (reading : Reading) :
    Lockstep ManagerOp.Twin (fun a b => a.seen = b.seen) (reading.prog crates)
      (reading.prog crates) := by
  cases reading with
  | list_tools builtin =>
    have lifted : Lockstep ManagerOp.Twin Eq
        ((list_all_tools_inner crates builtin).lift (ManagerOp.reg (ι := Unit)))
        ((list_all_tools_inner crates builtin).lift ManagerOp.reg) :=
      (list_all_tools_lockstep builtin).lift fun twin => .reg twin
    refine lifted.bind fun tools tools' same => ?_
    subst same
    exact .ret rfl
  | list_sessions =>
    refine list_sessions_lockstep.bind fun sessions sessions' same => ?_
    subst same
    exact .ret rfl
  | resolve name requested_session_id =>
    have lifted : Lockstep ManagerOp.Twin (fun routed routed' => seen_route routed = seen_route routed')
        ((route crates name requested_session_id).lift (ManagerOp.reg (ι := Unit)))
        ((route crates name requested_session_id).lift ManagerOp.reg) :=
      (route_lockstep name requested_session_id).lift fun twin => .reg twin
    exact lifted.bind fun _ _ same => .ret (congrArg Shown.routed same)

/-- Managers that look the same show the same. -/
theorem read_alike (crates : Crates) (same : LookAlike w w') (instant : Nat) (reading : Reading) :
    Both (fun a b => a.seen = b.seen) LookAlike (w.read crates instant reading)
      (w'.read crates instant reading) :=
  handle_lockstep (fun _ _ twin same => twin.apply same) (reading_lockstep reading)
    (same.at_instant instant)

theorem operate_alike (same : LookAlike w w') {pair : OperationPair} (agree : pair.Agree w w')
    (stepped : w.operate crates pair.instant pair.op = some v)
    (stepped' : w'.operate crates pair.instant pair.op' = some v') : LookAlike v v' := by
  obtain ⟨instant, op, op', payload⟩ := pair
  have both {α : Type} {Q : α → α → Prop} {here there : Option (α × ManagerWorld Unit)}
      (alike : Both Q LookAlike here there) (left : here.map Prod.snd = some v)
      (right : there.map Prod.snd = some v') : LookAlike v v' := by
    cases alike with
    | none => cases left
    | some alike =>
      cases left
      cases right
      exact alike.2
  cases op with
  | call call =>
    cases op' with
    | call call' =>
      exact both (call_alike same (Operation.call.inj payload) agree instant) stepped stepped'
    | reading reading' => cases payload
  | reading reading =>
    cases op' with
    | call call' => cases payload
    | reading reading' =>
      cases Operation.reading.inj payload
      exact both (read_alike crates same instant reading) stepped stepped'

/-- **As long as the updates agree, the managers look the same.** -/
theorem look_alike {tools_cache : Option ToolsCacheStore}
    {past : List (OperationPair × ManagerWorld Unit × ManagerWorld Unit)}
    (histories : SideBySide crates tools_cache past w w')
    (agree : ∀ step ∈ past, step.1.Agree step.2.1 step.2.2) : LookAlike w w' := by
  induction histories with
  | new => rfl
  | snoc pair before stepped stepped' ih =>
    have alike := ih fun step member => agree step (List.mem_append_left _ member)
    have here := agree _ (List.mem_append_right _ (List.mem_singleton_self _))
    exact operate_alike alike here stepped stepped'

end Alike

/-! ## Managers with the same sessions -/

/-- The same records, but for their internal tools. -/
def SameRecords (m m' : HashMap String SessionRecord) : Prop :=
  ∀ uid, (m.get uid).map SessionRecord.visible = (m'.get uid).map SessionRecord.visible

namespace SameRecords

variable {m m' : HashMap String SessionRecord} {uid : String} {record record' : SessionRecord}

theorem cases_on (same : SameRecords m m') (uid : String) :
    m.get uid = none ∧ m'.get uid = none ∨ ∃ record record', m.get uid = some record ∧
      m'.get uid = some record' ∧ record.visible = record'.visible := by
  have here := same uid
  cases found : m.get uid with
  | none =>
    rw [found] at here
    exact .inl ⟨rfl, Option.map_eq_none_iff.mp here.symm⟩
  | some record =>
    rw [found] at here
    obtain ⟨record', found', look⟩ := Option.map_eq_some_iff.mp here.symm
    exact .inr ⟨record, record', rfl, found', look.symm⟩

theorem insert (same : SameRecords m m') (uid : String) (look : record.visible = record'.visible) :
    SameRecords (m.insert uid record) (m'.insert uid record') := by
  intro other
  rw [HashMap.get_insert, HashMap.get_insert]
  split
  · exact congrArg some look
  · exact same other

theorem remove (same : SameRecords m m') (uid : String) :
    SameRecords (m.remove uid) (m'.remove uid) := by
  intro other
  rw [HashMap.get_remove, HashMap.get_remove]
  split
  · rfl
  · exact same other

theorem retain (same : SameRecords m m') {keep : SessionRecord → Bool}
    (sees : ∀ record, keep record.visible = keep record) :
    SameRecords (m.retain fun _ record => keep record) (m'.retain fun _ record => keep record) := by
  intro other
  rw [HashMap.get_retain, HashMap.get_retain]
  rcases same.cases_on other with ⟨here, there⟩ | ⟨record, record', here, there, look⟩
  · rw [here, there]
  · have kept : keep record = keep record' := by rw [← sees, look, sees]
    rw [here, there]
    cases keep' : keep record' <;> simp [Option.filter_some, kept, keep', look]

end SameRecords

/-- The same sessions, generations and dispatchers. -/
structure SessionRegistry.Matches (reg reg' : SessionRegistry) : Prop where
  records : SameRecords reg.inner reg'.inner
  generations : reg.generations = reg'.generations
  next_dispatcher : reg.next_dispatcher = reg'.next_dispatcher

section Sections

variable {reg reg' : SessionRegistry}

theorem SessionRegistry.Matches.with_records (matching : reg.Matches reg')
    {m m' : HashMap String SessionRecord} (records : SameRecords m m') :
    { reg with inner := m }.Matches { reg' with inner := m' } :=
  ⟨records, matching.generations, matching.next_dispatcher⟩

theorem SessionRegistry.Matches.file (matching : reg.Matches reg') (uid : String)
    {record record' : SessionRecord} (look : record.visible = record'.visible) :
    (reg.file uid record).Matches (reg'.file uid record') := by
  refine ⟨matching.records.insert uid look, ?_, ?_⟩
  · simp [SessionRegistry.file, SessionRegistry.next_generation, matching.generations]
  · simp [SessionRegistry.file, matching.next_dispatcher]

theorem matches_register (matching : reg.Matches reg') {params params' : SessionRegisterParams}
    (same : params.visible = params'.visible) (now : Nat) (connection : Option Nat) :
    (reg.register params now connection).2.Matches (reg'.register params' now connection).2 := by
  have uid : params'.client_uid = params.client_uid :=
    (congrArg SessionRegisterParams.client_uid same.symm :)
  have generation : reg.next_generation = reg'.next_generation := by
    rw [SessionRegistry.next_generation, SessionRegistry.next_generation, matching.generations]
  unfold SessionRegistry.register
  rw [uid]
  rcases matching.records.cases_on params.client_uid with
    ⟨here, there⟩ | ⟨record, record', here, there, look⟩
  · rw [here, there]
    refine matching.file _ ?_
    have look : SessionRegistry.new_record reg params.visible now connection =
        SessionRegistry.new_record reg' params'.visible now connection := by
      rw [same, SessionRegistry.new_record, SessionRegistry.new_record, generation,
        matching.next_dispatcher]
    exact look
  · have state : record.state = record'.state := (congrArg SessionRecord.state look :)
    rw [here, there]
    simp only [← state]
    cases record.state with
    | Active => exact matching
    | Disconnected =>
      refine matching.file _ ?_
      have look : SessionRegistry.reconnected reg record.visible params.visible connection =
          SessionRegistry.reconnected reg' record'.visible params'.visible connection := by
        rw [same, look, SessionRegistry.reconnected, SessionRegistry.reconnected, generation,
          matching.next_dispatcher]
      exact look

theorem matches_disconnect (matching : reg.Matches reg') (session_id : String)
    (expected_generation now : Nat) :
    (reg.disconnect session_id expected_generation now).1 =
        (reg'.disconnect session_id expected_generation now).1 ∧
      (reg.disconnect session_id expected_generation now).2.Matches
        (reg'.disconnect session_id expected_generation now).2 := by
  unfold SessionRegistry.disconnect
  rcases matching.records.cases_on session_id with
    ⟨here, there⟩ | ⟨record, record', here, there, look⟩
  · rw [here, there]
    exact ⟨rfl, matching⟩
  · have state : record'.state = record.state := (congrArg SessionRecord.state look.symm :)
    have generation : record'.connection_generation = record.connection_generation :=
      (congrArg SessionRecord.connection_generation look.symm :)
    have connection : record.connection = record'.connection :=
      (congrArg SessionRecord.connection look :)
    have dispatcher : record.dispatcher = record'.dispatcher :=
      (congrArg SessionRecord.dispatcher look :)
    rw [here, there]
    simp only [state, generation]
    split
    · refine ⟨by rw [connection, dispatcher], ?_⟩
      have gone := congrArg (SessionRecord.disconnected · now) look
      exact ⟨matching.records.insert session_id gone, matching.generations, matching.next_dispatcher⟩
    · exact ⟨rfl, matching⟩

theorem matches_disconnect_any (matching : reg.Matches reg') (session_id : String) (now : Nat) :
    (reg.disconnect_any session_id now).1 = (reg'.disconnect_any session_id now).1 ∧
      (reg.disconnect_any session_id now).2.Matches (reg'.disconnect_any session_id now).2 := by
  unfold SessionRegistry.disconnect_any
  rcases matching.records.cases_on session_id with
    ⟨here, there⟩ | ⟨record, record', here, there, look⟩
  · rw [here, there]
    exact ⟨rfl, matching⟩
  · have generation : record'.connection_generation = record.connection_generation :=
      (congrArg SessionRecord.connection_generation look.symm :)
    rw [here, there]
    simp only [generation]
    exact matches_disconnect matching session_id _ now

theorem matches_touch (matching : reg.Matches reg') (session_id : String) (now : Nat) :
    (reg.touch session_id now).2.Matches (reg'.touch session_id now).2 := by
  unfold SessionRegistry.touch
  rcases matching.records.cases_on session_id with
    ⟨here, there⟩ | ⟨record, record', here, there, look⟩
  · rw [here, there]
    exact matching
  · rw [here, there]
    have touched := congrArg (fun record : SessionRecord => { record with last_call_at := now }) look
    exact matching.with_records (matching.records.insert session_id touched)

theorem matches_take (matching : reg.Matches reg') (session_id : String) (expected_generation : Nat) :
    (reg.take session_id expected_generation).2.Matches
      (reg'.take session_id expected_generation).2 := by
  unfold SessionRegistry.take
  rcases matching.records.cases_on session_id with
    ⟨here, there⟩ | ⟨record, record', here, there, look⟩
  · rw [here, there]
    exact matching
  · have generation : record'.connection_generation = record.connection_generation :=
      (congrArg SessionRecord.connection_generation look.symm :)
    rw [here, there]
    simp only [generation]
    split
    · exact matching.with_records (matching.records.remove session_id)
    · exact matching

theorem matches_sweep (matching : reg.Matches reg') (now grace : Nat) :
    (reg.sweep now grace).2.Matches (reg'.sweep now grace).2 :=
  matching.with_records (matching.records.retain
    fun _ => rfl)

/-- The records after the section of `update_tools`, whether or not it finds the list unchanged. -/
theorem seen_replace_tools (reg : SessionRegistry) (session_id : String)
    (tools : List ToolDescriptor) (uid : String) :
    ((reg.replace_tools session_id tools).2.inner.get uid).map SessionRecord.visible =
      if uid = session_id then ((reg.inner.get uid).map SessionRecord.visible).map
        fun record => { record with tools := visible_tools tools }
      else (reg.inner.get uid).map SessionRecord.visible := by
  obtain ⟨absent, none⟩ | ⟨record, found, ⟨same, kept⟩ | ⟨-, set⟩⟩ :=
    reg.replace_tools_cases session_id tools
  · rw [none]
    split
    · rename_i here
      rw [here, absent]
      rfl
    · rfl
  · rw [kept]
    split
    · rename_i here
      subst here
      obtain rfl := same
      rw [found]
      rfl
    · rfl
  · rw [set, SessionRegistry.set_record, HashMap.get_insert]
    split
    · rename_i here
      subst here
      rw [found]
      rfl
    · rfl

theorem matches_replace_tools (matching : reg.Matches reg') (session_id : String)
    {tools tools' : List ToolDescriptor} (same : visible_tools tools = visible_tools tools') :
    (reg.replace_tools session_id tools).2.Matches (reg'.replace_tools session_id tools').2 := by
  have kept (reg : SessionRegistry) (tools : List ToolDescriptor) :
      (reg.replace_tools session_id tools).2.generations = reg.generations ∧
        (reg.replace_tools session_id tools).2.next_dispatcher = reg.next_dispatcher := by
    obtain ⟨-, none⟩ | ⟨record, -, ⟨-, same⟩ | ⟨-, set⟩⟩ := reg.replace_tools_cases session_id tools
    · rw [none]
      exact ⟨rfl, rfl⟩
    · rw [same]
      exact ⟨rfl, rfl⟩
    · rw [set]
      exact ⟨rfl, rfl⟩
  refine ⟨fun uid => ?_, ?_, ?_⟩
  · rw [seen_replace_tools, seen_replace_tools, matching.records uid, same]
  · rw [(kept reg tools).1, (kept reg' tools').1, matching.generations]
  · rw [(kept reg tools).2, (kept reg' tools').2, matching.next_dispatcher]

/-- **The sections of two calls keep the sessions the same,** whether or not updates agree. -/
theorem section_matches (matching : reg.Matches reg') {call call' : RegistryCall}
    (payload : call.visible = call'.visible) (now : Nat) :
    (call.section.2.run now reg).2.Matches (call'.section.2.run now reg').2 ∧
      call.section.2.handed (call.section.2.run now reg).1 =
        call'.section.2.handed (call'.section.2.run now reg').1 := by
  by_cases declares : call.declares
  · cases call with
    | register_with_generation params instant connection =>
      cases call' with
      | register_with_generation params' instant' connection' =>
        obtain ⟨declared, rfl, rfl⟩ := RegistryCall.register_with_generation.inj payload
        exact ⟨matches_register matching declared instant connection, rfl⟩
      | _ => cases payload
    | update_tools session_id tools =>
      cases call' with
      | update_tools session_id' tools' =>
        obtain ⟨rfl, declared⟩ := RegistryCall.update_tools.inj payload
        exact ⟨matches_replace_tools matching session_id declared, rfl⟩
      | _ => cases payload
    | _ => exact declares.elim
  · have plain' : ¬ call'.declares := by
      rwa [← call'.declares_visible, ← payload, call.declares_visible]
    rw [RegistryCall.visible_of_plain declares, RegistryCall.visible_of_plain plain'] at payload
    subst payload
    cases call with
    | register_with_generation | update_tools => exact absurd trivial declares
    | mark_disconnected session_id instant =>
      exact (matches_disconnect_any matching session_id instant).symm
    | mark_disconnected_if_generation session_id expected_generation instant =>
      exact (matches_disconnect matching session_id expected_generation instant).symm
    | bump_last_call session_id instant => exact ⟨matches_touch matching session_id instant, rfl⟩
    | remove session_id =>
      exact ⟨matching.with_records (matching.records.remove session_id), rfl⟩
    | remove_if_generation session_id expected_generation =>
      exact ⟨matches_take matching session_id expected_generation, rfl⟩
    | sweep_expired_disconnects instant grace => exact ⟨matches_sweep matching instant grace, rfl⟩

end Sections

/-! ## Readings -/

/-- A section that changes the signals and the cache at most. -/
def RegOp.peeks : ∀ {β : Type}, RegOp β → Prop
  | _, .snapshot | _, .get _ | _, .mark_tools_changed | _, .evict_expired | _, .list_cache => True
  | _, _ => False

def ManagerOp.Peeks : ∀ {β : Type}, ManagerOp Unit β → Prop
  | _, .reg op => op.peeks
  | _, .now | _, .load_inflight _ => True
  | _, _ => False

section Readings

variable {crates : Crates} {w w' v v' : ManagerWorld Unit}

theorem Marked.refl (w : ManagerWorld Unit) : Marked w w :=
  ⟨w.registry.tools_epoch, w.registry.session_changed, w.registry.tools_cache, rfl⟩

theorem Marked.unlocked (marked : Marked w v) (free : w.registry.locked = false) :
    v.registry.locked = false := by
  obtain ⟨tools_epoch, session_changed, tools_cache, rfl⟩ := marked
  exact free

theorem apply_of_peeks {β : Type} {op : ManagerOp Unit β} (peeks : op.Peeks) (marked : Marked w v)
    (free : w.registry.locked = false) :
    ∃ answer v', op.apply () v = some (answer, v') ∧ Marked w v' := by
  have unlocked := marked.unlocked free
  obtain ⟨tools_epoch, session_changed, tools_cache, rfl⟩ := marked
  cases op with
  | reg op =>
    rw [ManagerOp.apply, RegOp.apply_of_free unlocked]
    refine ⟨_, _, rfl, ?_⟩
    cases op with
    | snapshot | get => exact ⟨tools_epoch, session_changed, tools_cache, rfl⟩
    | mark_tools_changed | list_cache => exact ⟨_, session_changed, tools_cache, rfl⟩
    | evict_expired =>
      split
      · exact ⟨tools_epoch, session_changed, _, rfl⟩
      · exact ⟨tools_epoch, session_changed, tools_cache, rfl⟩
    | _ => exact peeks.elim
  | now | load_inflight => exact ⟨_, _, rfl, tools_epoch, session_changed, tools_cache, rfl⟩
  | _ => exact peeks.elim

/-- A program that only peeks returns. -/
theorem peeks_return {α : Type} {p : Prog (ManagerOp Unit) α} (only : p.Only ManagerOp.Peeks)
    (free : w.registry.locked = false) :
    ∃ a v, p.handle (fun op w => op.apply () w) w = some (a, v) ∧ Marked w v := by
  refine Prog.handle_keeps (h := fun op w => op.apply () w) (I := Marked w) ?_ only (.refl w)
  intro β op v peeks marked
  exact apply_of_peeks peeks marked free

theorem lookup_peeks (name : String) : (lookup_cache_entry name).Only RegOp.peeks :=
  (list_all_only trivial trivial trivial).bind fun _ => trivial

theorem resolve_peeks (name : String) (requested_session_id : Option String) :
    (resolve crates name requested_session_id).Only RegOp.peeks := by
  unfold resolve
  refine ⟨trivial, fun snapshot => ?_⟩
  dsimp only [Prog.bind]
  cases resolve_published name (build_proxy_view crates snapshot) requested_session_id with
  | error error =>
    cases error with
    | SessionRequired | SessionToolMismatch => trivial
    | NotProxyTool =>
      refine Prog.Only.bind ?_ fun _ => trivial
      exact (lookup_peeks name).bind fun hit => by cases hit <;> trivial
  | ok resolved =>
    refine Prog.Only.bind ⟨trivial, fun found => ?_⟩ fun fetched => by cases fetched <;> trivial
    cases found with
    | none => trivial
    | some record =>
      dsimp only [Prog.bind]
      split <;> trivial

theorem route_peeks (name : String) (requested_session_id : Option String) :
    (route crates name requested_session_id).Only RegOp.peeks := by
  cases requested_session_id with
  | none => exact resolve_peeks name none
  | some session_id =>
    have validated : (validate_explicit_target session_id name).Only RegOp.peeks := by
      unfold validate_explicit_target
      refine ⟨trivial, fun found => ?_⟩
      cases found with
      | none => trivial
      | some record =>
        dsimp only [Prog.bind]
        repeat' split
        all_goals trivial
    refine validated.bind fun checked => ?_
    cases checked with
    | error error => trivial
    | ok checked => exact resolve_peeks name (some session_id)

theorem reading_peeks (reading : Reading) : (reading.prog crates).Only ManagerOp.Peeks := by
  cases reading with
  | list_tools builtin =>
    have listed : (list_all_tools_inner crates builtin).Only RegOp.peeks := by
      unfold list_all_tools_inner
      exact ⟨trivial, fun snapshot => (list_all_only trivial trivial trivial).bind fun _ => trivial⟩
    have lifted : ((list_all_tools_inner crates builtin).lift
        (ManagerOp.reg (ι := Unit))).Only ManagerOp.Peeks := Prog.only_lift.mpr listed
    exact lifted.bind fun _ => trivial
  | list_sessions =>
    have items (now : Nat) (records : List SessionRecord) :
        (management.list_items now records : Prog (ManagerOp Unit) _).Only ManagerOp.Peeks := by
      induction records with
      | nil => trivial
      | cons record records ih => exact ⟨trivial, fun inflight => ih.bind fun _ => trivial⟩
    have listed : (management.list : Prog (ManagerOp Unit) _).Only ManagerOp.Peeks := by
      unfold management.list
      refine ⟨trivial, fun now => ⟨trivial, fun snapshot => ?_⟩⟩
      exact (items now snapshot).bind fun _ => trivial
    exact listed.bind fun _ => trivial
  | resolve name requested_session_id =>
    have lifted : ((route crates name requested_session_id).lift
        (ManagerOp.reg (ι := Unit))).Only ManagerOp.Peeks :=
      Prog.only_lift.mpr (route_peeks name requested_session_id)
    exact lifted.bind fun _ => trivial

/-- **Every reading is answered**, and leaves the sessions as they are. -/
theorem read_returns (crates : Crates) (free : w.registry.locked = false) (instant : Nat)
    (reading : Reading) : ∃ shown v, w.read crates instant reading = some (shown, v) ∧
      Marked { w with now := instant } v :=
  peeks_return (w := { w with now := instant }) (reading_peeks reading) free

end Readings

/-! ## What every operation keeps the same -/

/-- What is shown, if the tools cache has no part in it. -/
def Shown.live : Shown → Option Shown
  | .tools _ => none
  | .routed (.error (.ok _)) => none
  | shown => some shown.seen

/-- Two managers with the same sessions. -/
structure SameSessions (w w' : ManagerWorld Unit) : Prop where
  matching : w.registry.Matches w'.registry
  dispatchers : w.dispatchers = w'.dispatchers
  unlocked : w.registry.locked = false
  unlocked' : w'.registry.locked = false
  keyed : w.registry.keyed
  keyed' : w'.registry.keyed

section Same

variable {crates : Crates} {w w' v v' : ManagerWorld Unit}

theorem SameSessions.at_instant (same : SameSessions w w') (instant : Nat) :
    SameSessions { w with now := instant } { w' with now := instant } :=
  ⟨same.matching, same.dispatchers, same.unlocked, same.unlocked', same.keyed, same.keyed'⟩

theorem SameSessions.marked (same : SameSessions w w') (marked : Marked w v)
    (marked' : Marked w' v') : SameSessions v v' := by
  obtain ⟨tools_epoch, session_changed, tools_cache, rfl⟩ := marked
  obtain ⟨tools_epoch', session_changed', tools_cache', rfl⟩ := marked'
  obtain ⟨records, generations, next_dispatcher⟩ := same.matching
  exact ⟨⟨records, generations, next_dispatcher⟩, same.dispatchers, same.unlocked, same.unlocked',
    same.keyed, same.keyed'⟩

theorem SessionRegistry.keyed_performed {β : Type} {op : RegOp β} {now : Nat}
    (keyed : w.registry.keyed)
    (performed : Performed op (op.run now w.registry).1 (op.run now w.registry).2 w v) :
    v.registry.keyed := by
  intro uid record found
  exact SessionRegistry.keyed_run keyed rfl uid record (performed.inner ▸ found)

/-- **Calls keep the sessions the same.** -/
theorem call_same (same : SameSessions w w') {call call' : RegistryCall}
    (payload : call.visible = call'.visible) (instant : Nat) {result result' : RegistryReturn}
    (called : w.call instant call = some (result, v))
    (called' : w'.call instant call' = some (result', v')) : SameSessions v v' := by
  obtain ⟨r, u, here, performed⟩ := call_performs same.unlocked instant call
  obtain ⟨r', u', there, performed'⟩ := call_performs same.unlocked' instant call'
  cases called.symm.trans here
  cases called'.symm.trans there
  obtain ⟨matching, handed⟩ := section_matches same.matching payload instant
  refine ⟨⟨?_, ?_, ?_⟩, ?_, performed.unlocked, performed'.unlocked,
    SessionRegistry.keyed_performed same.keyed performed,
    SessionRegistry.keyed_performed same.keyed' performed'⟩
  · rw [performed.inner, performed'.inner]
    exact matching.records
  · rw [performed.generations, performed'.generations]
    exact matching.generations
  · rw [performed.next_dispatcher, performed'.next_dispatcher]
    exact matching.next_dispatcher
  · rw [performed.dispatchers, performed'.dispatchers, handed]
    simp only [ManagerWorld.set_dispatcher, same.dispatchers]

theorem operate_same (same : SameSessions w w') (pair : OperationPair)
    (stepped : w.operate crates pair.instant pair.op = some v)
    (stepped' : w'.operate crates pair.instant pair.op' = some v') : SameSessions v v' := by
  obtain ⟨instant, op, op', payload⟩ := pair
  cases op with
  | call call =>
    cases op' with
    | call call' =>
      obtain ⟨⟨result, u⟩, called, here⟩ := Option.map_eq_some_iff.mp stepped
      obtain ⟨⟨result', u'⟩, called', there⟩ := Option.map_eq_some_iff.mp stepped'
      cases here
      cases there
      exact call_same same (Operation.call.inj payload) instant called called'
    | reading reading' => cases payload
  | reading reading =>
    cases op' with
    | call call' => cases payload
    | reading reading' =>
      cases Operation.reading.inj payload
      obtain ⟨shown, u, read, marked⟩ := read_returns crates same.unlocked instant reading
      obtain ⟨shown', u', read', marked'⟩ :=
        read_returns crates same.unlocked' instant reading
      rw [ManagerWorld.operate, read] at stepped
      rw [ManagerWorld.operate, read'] at stepped'
      cases stepped
      cases stepped'
      exact (same.at_instant instant).marked marked marked'

/-- **Two histories that differ in internal tools have the same sessions.** -/
theorem same_sessions {tools_cache : Option ToolsCacheStore}
    {past : List (OperationPair × ManagerWorld Unit × ManagerWorld Unit)}
    (histories : SideBySide crates tools_cache past w w') : SameSessions w w' := by
  induction histories with
  | new now =>
    refine ⟨⟨fun uid => rfl, rfl, rfl⟩, rfl, rfl, rfl, ?_, ?_⟩
    · intro uid record none
      cases none
    · intro uid record none
      cases none
  | snoc pair before stepped stepped' ih => exact operate_same ih pair stepped stepped'

/-! ### Readings of the same sessions -/

theorem SameSessions.values (same : SameSessions w w') :
    (w.registry.inner.values.map SessionRecord.visible).Perm
      (w'.registry.inner.values.map SessionRecord.visible) := by
  rw [← HashMap.values_map, ← HashMap.values_map]
  refine HashMap.values_perm fun uid => ?_
  rw [HashMap.get_map, HashMap.get_map]
  exact same.matching.records uid

/-- A session that is looked up is the same in both managers. -/
theorem get_same (same : SameSessions w w') (session_id : String) :
    Both (fun found found' => found.map SessionRecord.visible = found'.map SessionRecord.visible)
      SameSessions ((ManagerOp.reg (.get session_id)).apply () w)
      ((ManagerOp.reg (.get session_id)).apply () w') := by
  rw [ManagerOp.apply, ManagerOp.apply, RegOp.apply_of_free same.unlocked,
    RegOp.apply_of_free same.unlocked']
  exact .some ⟨same.matching.records session_id, same⟩

theorem snapshot_same (same : SameSessions w w') :
    Both (fun records records' => (records.map SessionRecord.visible).Perm
        (records'.map SessionRecord.visible)) SameSessions
      ((ManagerOp.reg .snapshot).apply () w) ((ManagerOp.reg .snapshot).apply () w') := by
  rw [ManagerOp.apply, ManagerOp.apply, RegOp.apply_of_free same.unlocked,
    RegOp.apply_of_free same.unlocked']
  exact .some ⟨same.values, same⟩

/-- What can be seen of where a call goes, unless the cache decides it. -/
def live_route (routed : Except ProxyAnswer (ResolvedCall × SessionRecord)) : Option Shown :=
  (Shown.routed routed).live

abbrev AlikeRouted (p p' : Prog RegOp (Except ProxyAnswer (ResolvedCall × SessionRecord)))
    (w w' : ManagerWorld Unit) : Prop :=
  Both (fun routed routed' => live_route routed = live_route routed') SameSessions
    (p.handle (fun op w => (ManagerOp.reg op).apply () w) w)
    (p'.handle (fun op w => (ManagerOp.reg op).apply () w) w')

/-- A name that no session publishes is answered by the cache. -/
theorem handle_not_proxy_tool (free : w.registry.locked = false) (name : String) :
    ∃ response v, (on_resolve_error name .NotProxyTool).handle
      (fun op w => (ManagerOp.reg op).apply () w) w = some (.ok response, v) ∧ Marked w v := by
  have peeks : ((lookup_cache_entry name).lift (ManagerOp.reg (ι := Unit))).Only ManagerOp.Peeks :=
    Prog.only_lift.mpr (lookup_peeks name)
  obtain ⟨hit, v, looked, marked⟩ := peeks_return peeks free
  rw [Prog.handle_lift] at looked
  unfold on_resolve_error
  rw [Prog.handle_bind, looked]
  cases hit <;> exact ⟨_, v, rfl, marked⟩

theorem resolve_same (same : SameSessions w w') (name : String)
    (requested_session_id : Option String) :
    AlikeRouted (resolve crates name requested_session_id) (resolve crates name requested_session_id)
      w w' := by
  unfold resolve
  refine both_op (snapshot_same same) fun records records' v v' perm same => ?_
  have resolution : resolve_published name (build_proxy_view crates records) requested_session_id =
      resolve_published name (build_proxy_view crates records') requested_session_id := by
    rw [← build_proxy_view_visible records, ← build_proxy_view_visible records']
    exact resolve_published_perm perm name requested_session_id
  dsimp only [Prog.ret_bind, Prog.bind]
  rw [resolution]
  cases resolve_published name (build_proxy_view crates records') requested_session_id with
  | error error =>
    cases error with
    | SessionRequired | SessionToolMismatch => exact .some ⟨rfl, same⟩
    | NotProxyTool =>
      obtain ⟨response, u, answered, marked⟩ := handle_not_proxy_tool same.unlocked name
      obtain ⟨response', u', answered', marked'⟩ := handle_not_proxy_tool same.unlocked' name
      have refuse (v : ManagerWorld Unit) {answer : ProxyAnswer} {u : ManagerWorld Unit}
          (answered : (on_resolve_error name .NotProxyTool).handle
            (fun op w => (ManagerOp.reg op).apply () w) v = some (answer, u)) :
          (on_resolve_error name .NotProxyTool >>= fun answer =>
              (pure (.error answer) : Prog RegOp (Except ProxyAnswer (ResolvedCall × SessionRecord)))).handle
            (fun op w => (ManagerOp.reg op).apply () w) v = some (.error answer, u) := by
        rw [Prog.handle_bind, answered]
        rfl
      have here := refuse v answered
      have there := refuse v' answered'
      exact here ▸ there ▸ .some ⟨rfl, same.marked marked marked'⟩
  | ok resolved =>
    refine both_op (get_same same resolved.session_id) fun found found' v v' look same => ?_
    cases found with
    | none =>
      cases found' with
      | none => exact .some ⟨rfl, same⟩
      | some record' => cases look
    | some record =>
      cases found' with
      | none => cases look
      | some record' =>
        have look : record.visible = record'.visible := Option.some.inj look
        have state : record.state = record'.state := (congrArg SessionRecord.state look :)
        dsimp only [Prog.ret_bind, Prog.bind]
        rw [state]
        split
        · exact .some ⟨rfl, same⟩
        · refine .some ⟨?_, same⟩
          exact congrArg (fun record => some (Shown.routed (.ok (resolved, record)))) look

theorem route_same (crates : Crates) (same : SameSessions w w') (name : String)
    (requested_session_id : Option String) : AlikeRouted (route crates name requested_session_id) (route crates name requested_session_id)
      w w' := by
  cases requested_session_id with
  | none => exact resolve_same same name none
  | some session_id =>
    refine both_op (get_same same session_id) fun found found' v v' look same => ?_
    cases found with
    | none =>
      cases found' with
      | none => exact .some ⟨rfl, same⟩
      | some record' => cases look
    | some record =>
      cases found' with
      | none => cases look
      | some record' =>
        have look : record.visible = record'.visible := Option.some.inj look
        have state : record.state = record'.state := (congrArg SessionRecord.state look :)
        have publishes : record.publishes name ↔ record'.publishes name := by
          rw [← publishes_visible, look, publishes_visible]
        dsimp only [Prog.ret_bind, Prog.bind]
        simp only [state, publishes]
        split
        · exact .some ⟨rfl, same⟩
        · split
          · exact .some ⟨rfl, same⟩
          · exact resolve_same same name (some session_id)

theorem handle_list_items (w : ManagerWorld Unit) (now : Nat) (records : List SessionRecord) :
    (management.list_items now records).handle (fun op w => op.apply () w) w =
      some (records.map fun record =>
        .from_record now (w.dispatchers record.dispatcher).inflight record, w) := by
  induction records with
  | nil => rfl
  | cons record records ih =>
    unfold management.list_items
    rw [Prog.handle_perform, ManagerOp.apply, Option.bind_some, Prog.handle_bind, ih]
    rfl

/-- The sessions of a world, as an agent sees them. -/
def ManagerWorld.listed (w : ManagerWorld Unit) : List SessionListItem :=
  (w.registry.inner.values.map fun record =>
    .from_record w.now (w.dispatchers record.dispatcher).inflight record).mergeSort
      fun a b => a.session_id ≤ b.session_id

theorem read_sessions (free : w.registry.locked = false) (instant : Nat) :
    w.read crates instant .list_sessions =
      some (.sessions { w with now := instant }.listed, { w with now := instant }) := by
  have snapshot : (ManagerOp.reg .snapshot).apply () { w with now := instant } =
      some (w.registry.inner.values, { w with now := instant }) := by
    rw [ManagerOp.apply, RegOp.apply_of_free free]
    rfl
  unfold ManagerWorld.read Reading.prog
  rw [Prog.handle_bind]
  unfold management.list
  rw [Prog.handle_perform, ManagerOp.apply, Option.bind_some, Prog.handle_perform, snapshot,
    Option.bind_some, Prog.handle_bind, handle_list_items]
  rfl

theorem listed_same (same : SameSessions w w') (now : w.now = w'.now) : w.listed = w'.listed := by
  have items (w : ManagerWorld Unit) : (w.registry.inner.values.map fun record =>
      SessionListItem.from_record w.now (w.dispatchers record.dispatcher).inflight record) =
      (w.registry.inner.values.map SessionRecord.visible).map fun record =>
        SessionListItem.from_record w.now (w.dispatchers record.dispatcher).inflight record := by
    rw [List.map_map]
    refine List.map_congr_left fun record _ => ?_
    exact (from_record_visible w.now _ record).symm
  have ids : ((w.registry.inner.values.map fun record =>
      SessionListItem.from_record w.now (w.dispatchers record.dispatcher).inflight record).map
        SessionListItem.session_id).Nodup := by
    rw [List.map_map]
    exact SessionRegistry.enumerates.nodup (List.Perm.refl _) same.keyed
  refine mergeSort_eq_of_perm SessionListItem.session_id ?_ (List.inj_on_of_nodup_map ids)
  rw [items, items, now, same.dispatchers]
  exact same.values.map _

/-- **The sessions are shown alike, and calls to live sessions go the same way.** -/
theorem read_same (same : SameSessions w w') (instant : Nat) (reading : Reading) {a a' : Shown}
    (shown : w.read crates instant reading = some (a, v))
    (shown' : w'.read crates instant reading = some (a', v')) : a.live = a'.live := by
  cases reading with
  | list_tools builtin =>
    have tools {w v : ManagerWorld Unit} {a : Shown}
        (shown : w.read crates instant (.list_tools builtin) = some (a, v)) : a.live = none := by
      unfold ManagerWorld.read Reading.prog at shown
      rw [Prog.handle_bind] at shown
      obtain ⟨⟨tools, u⟩, -, returned⟩ := Option.bind_eq_some_iff.mp shown
      cases returned
      rfl
    rw [tools shown, tools shown']
  | list_sessions =>
    rw [read_sessions same.unlocked] at shown
    rw [read_sessions same.unlocked'] at shown'
    cases shown
    cases shown'
    exact congrArg (fun sessions => some (Shown.sessions sessions))
      (listed_same (same.at_instant instant) rfl)
  | resolve name requested_session_id =>
    have routed := route_same crates (same.at_instant instant) name requested_session_id
    unfold AlikeRouted at routed
    unfold ManagerWorld.read Reading.prog at shown shown'
    rw [Prog.handle_bind, Prog.handle_lift] at shown shown'
    obtain ⟨⟨target, u⟩, found, returned⟩ := Option.bind_eq_some_iff.mp shown
    obtain ⟨⟨target', u'⟩, found', returned'⟩ := Option.bind_eq_some_iff.mp shown'
    cases returned
    cases returned'
    rw [found, found'] at routed
    cases routed with
    | some alike => exact alike.1

end Same

/-- **An agent is shown the same sessions, and is sent to the same sessions.**  It is shown the
same tools, and told the same of a name that no session publishes, as long as the updates agree. -/
theorem internal_tools_unseen {crates : Crates} {tools_cache : Option ToolsCacheStore}
    {past : List (OperationPair × ManagerWorld Unit × ManagerWorld Unit)} {w w' : ManagerWorld Unit}
    (histories : SideBySide crates tools_cache past w w') :
    (∀ instant reading, ∃ a a' v v', w.read crates instant reading = some (a, v) ∧
      w'.read crates instant reading = some (a', v') ∧ a.live = a'.live) ∧
    ((∀ step ∈ past, step.1.Agree step.2.1 step.2.2) →
      w.registry.tools_cache = w'.registry.tools_cache ∧
        ∀ instant reading, ∃ a a' v v', w.read crates instant reading = some (a, v) ∧
          w'.read crates instant reading = some (a', v') ∧ a.seen = a'.seen) := by
  have same := same_sessions histories
  have answered (instant : Nat) (reading : Reading) : ∃ a a' v v',
      w.read crates instant reading = some (a, v) ∧
        w'.read crates instant reading = some (a', v') := by
    obtain ⟨a, v, shown, -⟩ := read_returns crates same.unlocked instant reading
    obtain ⟨a', v', shown', -⟩ := read_returns crates same.unlocked' instant reading
    exact ⟨a, a', v, v', shown, shown'⟩
  refine ⟨fun instant reading => ?_, fun agree => ?_⟩
  · obtain ⟨a, a', v, v', shown, shown'⟩ := answered instant reading
    exact ⟨a, a', v, v', shown, shown', read_same same instant reading shown shown'⟩
  · have alike := look_alike histories agree
    refine ⟨(congrArg (fun v : ManagerWorld Unit => v.registry.tools_cache) alike :), ?_⟩
    intro instant reading
    obtain ⟨a, a', v, v', shown, shown'⟩ := answered instant reading
    have both := read_alike crates alike instant reading
    rw [shown, shown'] at both
    cases both with
    | some seen => exact ⟨a, a', v, v', shown, shown', seen.1⟩

/-- The operations of two managers go on. -/
theorem SideBySide.goes_on {crates : Crates} {tools_cache : Option ToolsCacheStore}
    {past : List (OperationPair × ManagerWorld Unit × ManagerWorld Unit)} {w w' : ManagerWorld Unit}
    (histories : SideBySide crates tools_cache past w w') (pair : OperationPair) :
    ∃ v v', SideBySide crates tools_cache (past ++ [(pair, w, w')]) v v' := by
  have operates {w : ManagerWorld Unit} (free : w.registry.locked = false) (op : Operation) :
      ∃ v, w.operate crates pair.instant op = some v := by
    cases op with
    | call call =>
      obtain ⟨result, v, called, -⟩ := call_performs free pair.instant call
      exact ⟨v, by rw [ManagerWorld.operate, called]; rfl⟩
    | reading reading =>
      obtain ⟨shown, v, read, -⟩ := read_returns crates free pair.instant reading
      exact ⟨v, by rw [ManagerWorld.operate, read]; rfl⟩
  have same := same_sessions histories
  obtain ⟨v, stepped⟩ := operates same.unlocked pair.op
  obtain ⟨v', stepped'⟩ := operates same.unlocked' pair.op'
  exact ⟨v, v', histories.snoc pair stepped stepped'⟩

def hidden_tool : ToolDescriptor where
  name := "h"
  description := none
  input_schema := .object []
  visibility := .Internal

/-- A client registers with a public tool, and in the second manager with an internal one as well. -/
def feed_pair : OperationPair where
  instant := 0
  op := .call (.register_with_generation (client_params "s" [plain_tool]) 0 none)
  op' := .call (.register_with_generation (client_params "s" [plain_tool, hidden_tool]) 0 none)
  same := rfl

theorem internal_tools_unseen_feed : ∃ past w w',
    past.map Prod.fst = [feed_pair] ∧ SideBySide permissive_crates none past w w' ∧
      w.registry.tools_cache = w'.registry.tools_cache ∧
        ∀ instant reading, ∃ a a' v v', w.read permissive_crates instant reading = some (a, v) ∧
          w'.read permissive_crates instant reading = some (a', v') ∧ a.seen = a'.seen := by
  obtain ⟨w, w', histories⟩ :=
    (SideBySide.new 0 : SideBySide permissive_crates none [] _ _).goes_on feed_pair
  refine ⟨_, w, w', rfl, histories, (internal_tools_unseen histories).2 fun step member => ?_⟩
  obtain rfl := List.mem_singleton.mp member
  trivial

end SessionManager
