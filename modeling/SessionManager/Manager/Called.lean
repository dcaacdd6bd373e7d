import SessionManager.Manager.Calls
import SessionManager.Router.Explicit

/-!
# Sequences of calls

What holds of the registry after any sequence of calls, from one that is new: the shape of its
records, and how the generations and the dispatchers of registrations differ
(`registry_invariant`).  Generations are counted modulo 2⁶⁴, so they grow while fewer
registrations than that have been made.
-/

namespace SessionManager

open Effect

/-- A registration, as its caller and its record have it. -/
structure Accepted where
  client_uid : String
  generation : Nat
  dispatcher : Nat

/-- The registration a call has made, if it has. -/
def accepted (call : RegistryCall) (result : RegistryReturn) (w' : ManagerWorld Unit) :
    List Accepted :=
  match call, result with
  | .register_with_generation params _ _, .registered (.ok (_, generation)) =>
    (w'.registry.inner.get params.client_uid).toList.map fun record =>
      { client_uid := params.client_uid, generation, dispatcher := record.dispatcher }
  | _, _ => []

/-- The worlds that calls lead to from a new registry, with the registrations made on the way. -/
inductive Called (tools_cache : Option ToolsCacheStore) :
    List RegistryCall → List Accepted → ManagerWorld Unit → Prop
  | new (now : Nat) : Called tools_cache [] [] (.new tools_cache now)
  | snoc {calls : List RegistryCall} {past : List Accepted} {w w' : ManagerWorld Unit}
      {instant : Nat} {call : RegistryCall} {result : RegistryReturn} :
    Called tools_cache calls past w → w.call instant call = some (result, w') →
    Called tools_cache (calls ++ [call]) (past ++ accepted call result w') w'

/-! ## What every call keeps -/

/-- The state of a record agrees with the rest of it. -/
structure Coherent (w : ManagerWorld Unit) (record : SessionRecord) : Prop where
  active : record.state = .Active ↔ record.disconnected_at = none
  disconnected : record.state = .Disconnected → record.connection = none ∧
    (w.dispatchers record.dispatcher).state = .Drained

structure Consistent (past : List Registration) (w : ManagerWorld Unit) : Prop where
  unlocked : w.registry.locked = false
  tracked : Tracked past w.registry
  keyed : w.registry.keyed
  coherent : ∀ uid record, w.registry.inner.get uid = some record → Coherent w record

theorem Tracked.congr {past : List Registration} {reg reg' : SessionRegistry}
    (tracked : Tracked past reg) (inner : reg'.inner = reg.inner)
    (generations : reg'.generations = reg.generations)
    (next_dispatcher : reg'.next_dispatcher = reg.next_dispatcher) : Tracked past reg' where
  next_dispatcher := next_dispatcher.trans tracked.next_dispatcher
  generations := generations.trans tracked.generations
  numbered := tracked.numbered
  filed uid record found := tracked.filed uid record (inner ▸ found)

section Step

variable {w w' : ManagerWorld Unit} {β : Type} {op : RegOp β} {answer : β} {reg' : SessionRegistry}

/-- A drained dispatcher stays drained. -/
theorem Performed.drained (performed : Performed op answer reg' w w') {dispatcher : Nat}
    (drained : (w.dispatchers dispatcher).state = .Drained) :
    (w'.dispatchers dispatcher).state = .Drained := by
  rw [performed.dispatchers]
  split
  · rename_i connection handed _
    by_cases same : dispatcher = handed
    · simp [ManagerWorld.set_dispatcher, same]
    · simpa [ManagerWorld.set_dispatcher, same] using drained
  · exact drained

theorem Performed.drains (performed : Performed op answer reg' w w') {connection : Option Nat}
    {dispatcher : Nat} (handed : op.handed answer = some (connection, dispatcher)) :
    (w'.dispatchers dispatcher).state = .Drained := by
  rw [performed.dispatchers, handed]
  simp [ManagerWorld.set_dispatcher]

theorem Coherent.step (performed : Performed op answer reg' w w') {reg : SessionRegistry} {uid : String}
    {old : Option SessionRecord} {record : SessionRecord}
    (coherent : ∀ before, old = some before → Coherent w before)
    (changed : Changed reg uid op answer old (some record)) : Coherent w' record := by
  have kept (before : SessionRecord) (here : Coherent w before) : Coherent w' before :=
    ⟨here.active, fun gone => ⟨(here.disconnected gone).1, performed.drained (here.disconnected gone).2⟩⟩
  cases changed with
  | kept => exact kept record (coherent record rfl)
  | created | reconnected => exact ⟨iff_of_true rfl rfl, fun gone => by cases gone⟩
  | disconnected | disconnected_if =>
    refine ⟨iff_of_false (fun active => by cases active) (fun none => by cases none), fun _ => ?_⟩
    exact ⟨rfl, performed.drains rfl⟩
  | touched | retooled =>
    have here := kept _ (coherent _ rfl)
    exact ⟨here.active, here.disconnected⟩

theorem Consistent.step {past : List Registration} {now : Nat} (consistent : Consistent past w)
    (ran : op.run now w.registry = (answer, reg')) (performed : Performed op answer reg' w w') :
    Consistent (past ++ (op.registration answer).toList) w' where
  unlocked := performed.unlocked
  tracked := (consistent.tracked.run ran).congr performed.inner performed.generations
    performed.next_dispatcher
  keyed uid record found :=
    SessionRegistry.keyed_run consistent.keyed ran uid record (performed.inner ▸ found)
  coherent uid record found := by
    rw [performed.inner] at found
    have changed := op.changed ran uid
    rw [found] at changed
    exact Coherent.step performed (consistent.coherent uid) changed

end Step

/-! ## The registrations of a sequence -/

/-- A registration at its position. -/
def Accepted.of (position : Nat) (r : Registration) : Accepted where
  client_uid := r.uid
  generation := r.generation
  dispatcher := position

/-- An accepted registration files a record with a dispatcher of its own. -/
theorem filed_dispatcher {reg reg' : SessionRegistry} {params : SessionRegisterParams} {now : Nat}
    {connection : Option Nat} {result : RegisterOutcome × Nat}
    (ran : reg.register params now connection = (.ok result, reg')) :
    ∃ record, reg'.inner.get params.client_uid = some record ∧
      record.dispatcher = reg.next_dispatcher := by
  revert ran
  unfold SessionRegistry.register
  split
  · rename_i existing found
    cases existing.state with
    | Active => exact fun ran => by cases ran
    | Disconnected =>
      intro ran
      cases ran
      exact ⟨_, HashMap.get_insert_self .., rfl⟩
  · intro ran
    cases ran
    exact ⟨_, HashMap.get_insert_self .., rfl⟩

theorem Called.consistent {tools_cache : Option ToolsCacheStore} {calls : List RegistryCall}
    {past : List Accepted} {w : ManagerWorld Unit} (called : Called tools_cache calls past w) :
    ∃ regs, Consistent regs w ∧ past = regs.mapIdx Accepted.of := by
  induction called with
  | new now =>
    refine ⟨[], ⟨rfl, .new tools_cache, ?_, ?_⟩, rfl⟩
    · intro uid record found
      cases found
    · intro uid record found
      cases found
  | @snoc calls past w w' instant call result called answered ih =>
    obtain ⟨regs, consistent, rfl⟩ := ih
    obtain ⟨result', w'', answered', performed⟩ := call_performs consistent.unlocked instant call
    cases answered.symm.trans answered'
    refine ⟨_, consistent.step rfl performed, ?_⟩
    rw [List.mapIdx_append]
    congr 1
    cases call with
    | register_with_generation params now connection =>
      obtain ⟨w'', registering, -⟩ := call_register consistent.unlocked instant params now connection
      cases answered.symm.trans registering
      cases ran : w.registry.register params now connection with
      | mk answer reg' =>
        simp only [RegistryCall.section, RegOp.run, ran] at performed ⊢
        cases answer with
        | error error => rfl
        | ok answer =>
          obtain ⟨record, found, own⟩ := filed_dispatcher ran
          rw [consistent.tracked.next_dispatcher] at own
          simp [accepted, RegOp.registration, performed.inner, found, own, Accepted.of,
            Registration.uid]
    | _ => rfl

theorem getElem?_accepted {regs : List Registration} {k : Nat} {r : Accepted}
    (here : (regs.mapIdx Accepted.of)[k]? = some r) :
    ∃ made, regs[k]? = some made ∧ r = .of k made := by
  rw [List.getElem?_mapIdx, Option.map_eq_some_iff] at here
  obtain ⟨made, here, same⟩ := here
  exact ⟨made, here, same.symm⟩

/-! ## Generations of records -/

section Generations

variable {regs : List Registration} {w : ManagerWorld Unit}

/-- While the counter has not wrapped around, a record's generation follows its dispatcher. -/
theorem Consistent.generation (consistent : Consistent regs w) (few : regs.length < 2 ^ 64)
    {uid : String} {record : SessionRecord} (found : w.registry.inner.get uid = some record) :
    record.connection_generation = record.dispatcher + 1 ∧ record.dispatcher < regs.length := by
  obtain ⟨r, here, -, made⟩ := (consistent.tracked.filed uid record found).made
  have bound := (List.getElem?_eq_some_iff.mp here).1
  have number := consistent.tracked.numbered _ r here
  refine ⟨?_, bound⟩
  rw [made.generation, number]
  exact Nat.mod_eq_of_lt (by omega)

/-- Sessions have dispatchers of their own. -/
theorem Consistent.dispatcher_ne (consistent : Consistent regs w) {uid uid' : String}
    {record record' : SessionRecord} (found : w.registry.inner.get uid = some record)
    (found' : w.registry.inner.get uid' = some record') (other : uid ≠ uid') :
    record.dispatcher ≠ record'.dispatcher := by
  intro same
  obtain ⟨r, here, own, -⟩ := (consistent.tracked.filed uid record found).made
  obtain ⟨r', here', own', -⟩ := (consistent.tracked.filed uid' record' found').made
  rw [same, here'] at here
  cases here
  exact other (own.symm.trans own')

end Generations

/-! ## Registering -/

/-- What a registration does, by the record it finds. -/
theorem register_outcome {reg reg' : SessionRegistry} {params : SessionRegisterParams} {now : Nat}
    {connection : Option Nat} {result : Except RegisterError (RegisterOutcome × Nat)}
    (ran : reg.register params now connection = (result, reg')) :
    ((∃ error, result = .error error) ↔
        ∃ record, reg.inner.get params.client_uid = some record ∧ record.state = .Active) ∧
      ∀ outcome generation, result = .ok (outcome, generation) →
        (outcome = .Reconnected ↔ ∃ old, reg.inner.get params.client_uid = some old ∧
          old.state = .Disconnected) ∧
        ∃ record, reg'.inner.get params.client_uid = some record ∧ record.state = .Active ∧
          record.connection_generation = generation ∧
          ∀ old, reg.inner.get params.client_uid = some old →
            record.session_id = old.session_id ∧ record.registered_at = old.registered_at := by
  revert ran
  unfold SessionRegistry.register
  split
  · rename_i existing found
    cases state : existing.state with
    | Active =>
      intro ran
      cases ran
      refine ⟨iff_of_true ⟨_, rfl⟩ ⟨existing, found, state⟩, fun outcome generation none => ?_⟩
      cases none
    | Disconnected =>
      intro ran
      cases ran
      refine ⟨iff_of_false (fun refused => ?_) (fun active => ?_), fun outcome generation same => ?_⟩
      · obtain ⟨error, none⟩ := refused
        cases none
      · obtain ⟨record, here, active⟩ := active
        rw [found] at here
        cases here
        rw [state] at active
        cases active
      · cases same
        refine ⟨iff_of_true rfl ⟨existing, found, state⟩, _, HashMap.get_insert_self .., rfl, rfl, ?_⟩
        intro old here
        rw [found] at here
        cases here
        exact ⟨rfl, rfl⟩
  · rename_i absent
    intro ran
    cases ran
    refine ⟨iff_of_false (fun refused => ?_) (fun active => ?_), fun outcome generation same => ?_⟩
    · obtain ⟨error, none⟩ := refused
      cases none
    · obtain ⟨record, here, -⟩ := active
      rw [absent] at here
      cases here
    · cases same
      refine ⟨iff_of_false (fun none => by cases none) (fun disconnected => ?_), _,
        HashMap.get_insert_self .., rfl, rfl, ?_⟩
      · obtain ⟨old, here, -⟩ := disconnected
        rw [absent] at here
        cases here
      · intro old here
        rw [absent] at here
        cases here

/-- **The registry after any sequence of calls.** -/
theorem registry_invariant {tools_cache : Option ToolsCacheStore} {calls : List RegistryCall}
    {past : List Accepted} {w : ManagerWorld Unit} (called : Called tools_cache calls past w) :
    (∀ uid record, w.registry.inner.get uid = some record →
      record.session_id = uid ∧ Coherent w record) ∧
    (∀ (j k : Nat) (r r' : Accepted), past[j]? = some r → past[k]? = some r' → j ≠ k →
      r.dispatcher ≠ r'.dispatcher) ∧
    (past.length < 2 ^ 64 →
      (∀ uid record, w.registry.inner.get uid = some record →
        record.connection_generation ≤ w.registry.generations) ∧
      (∀ uid uid' record record', w.registry.inner.get uid = some record →
        w.registry.inner.get uid' = some record' → uid ≠ uid' →
        record.connection_generation ≠ record'.connection_generation) ∧
      ∀ (j k : Nat) (r r' : Accepted), past[j]? = some r → past[k]? = some r' → j < k →
        r.generation < r'.generation) ∧
    ∀ instant params now connection, ∃ result w',
      w.call instant (.register_with_generation params now connection) =
        some (.registered result, w') ∧
      ((∃ error, result = .error error) ↔
        ∃ record, w.registry.inner.get params.client_uid = some record ∧ record.state = .Active) ∧
      (∀ error, result = .error error → w'.registry = w.registry) ∧
      ∀ outcome generation, result = .ok (outcome, generation) →
        (outcome = .Reconnected ↔ ∃ old, w.registry.inner.get params.client_uid = some old ∧
          old.state = .Disconnected) ∧
        ∃ record, w'.registry.inner.get params.client_uid = some record ∧
          record.state = .Active ∧ record.connection_generation = generation ∧
          ∀ old, w.registry.inner.get params.client_uid = some old →
            record.session_id = old.session_id ∧ record.registered_at = old.registered_at := by
  obtain ⟨regs, consistent, rfl⟩ := called.consistent
  refine ⟨?_, ?_, fun few => ⟨?_, ?_, ?_⟩, ?_⟩
  · intro uid record found
    exact ⟨consistent.keyed uid record found, consistent.coherent uid record found⟩
  · intro j k r r' here there distinct
    obtain ⟨made, -, rfl⟩ := getElem?_accepted here
    obtain ⟨made', -, rfl⟩ := getElem?_accepted there
    exact distinct
  · rw [List.length_mapIdx] at few
    intro uid record found
    obtain ⟨number, bound⟩ := consistent.generation few found
    have drawn := consistent.tracked.generations
    rw [Nat.mod_eq_of_lt few] at drawn
    omega
  · rw [List.length_mapIdx] at few
    intro uid uid' record record' found found' other
    have number := (consistent.generation few found).1
    have number' := (consistent.generation few found').1
    have distinct := consistent.dispatcher_ne found found' other
    omega
  · rw [List.length_mapIdx] at few
    intro j k r r' here there before
    obtain ⟨made, first, rfl⟩ := getElem?_accepted here
    obtain ⟨made', second, rfl⟩ := getElem?_accepted there
    have bound := (List.getElem?_eq_some_iff.mp second).1
    have number := consistent.tracked.numbered j made first
    have number' := consistent.tracked.numbered k made' second
    simp only [Accepted.of]
    omega
  · intro instant params now connection
    obtain ⟨w', answered, refused⟩ := call_register consistent.unlocked instant params now connection
    obtain ⟨result', w'', answered', performed⟩ := call_performs consistent.unlocked instant
      (.register_with_generation params now connection)
    cases answered.symm.trans answered'
    obtain ⟨fails, succeeds⟩ :=
      register_outcome (Eq.refl (w.registry.register params now connection))
    refine ⟨_, w', answered, fails, fun error failed => ?_, fun outcome generation ok => ?_⟩
    · rw [refused error failed]
    · rw [performed.inner]
      exact succeeds outcome generation ok

/-! ## A client that comes back -/

/-- Some more calls, one after another. -/
def call_each : List RegistryCall → List Accepted × ManagerWorld Unit →
    Option (List Accepted × ManagerWorld Unit)
  | [], reached => some reached
  | call :: calls, reached =>
    match reached.2.call 0 call with
    | some (result, w') => call_each calls (reached.1 ++ accepted call result w', w')
    | none => none

theorem Called.call_each {calls calls' : List RegistryCall} {past : List Accepted} {w : ManagerWorld Unit}
    {reached : List Accepted × ManagerWorld Unit} (called : Called none calls past w)
    (ran : call_each calls' (past, w) = some reached) :
    Called none (calls ++ calls') reached.1 reached.2 := by
  induction calls' generalizing calls past w with
  | nil =>
    cases ran
    rwa [List.append_nil]
  | cons call calls' ih =>
    rw [SessionManager.call_each] at ran
    cases answered : w.call 0 call with
    | none =>
      rw [answered] at ran
      cases ran
    | some next =>
      rw [answered] at ran
      have longer := ih (called.snoc answered) ran
      rwa [List.append_assoc] at longer

/-- A client registers, loses its connection and registers again, after another one has. -/
def returning_calls : List RegistryCall := [
  .register_with_generation (client_params "s" []) 0 none,
  .mark_disconnected "s" 1,
  .register_with_generation (client_params "s'" []) 2 none,
  .register_with_generation (client_params "s" []) 3 none]

def returning_world : List Accepted × ManagerWorld Unit :=
  (call_each returning_calls ([], .new none 0)).getD ([], .new none 0)

theorem called_returning_world : Called none returning_calls returning_world.1 returning_world.2 :=
  (Called.new 0).call_each (rfl : call_each returning_calls _ = some returning_world)

theorem returned_client_is_coherent :
    (∃ record record', returning_world.2.registry.inner.get "s" = some record ∧
      returning_world.2.registry.inner.get "s'" = some record' ∧ Coherent returning_world.2 record ∧
      Coherent returning_world.2 record' ∧ record.connection_generation ≠ record'.connection_generation) ∧
    ∃ r r' r'' : Accepted, returning_world.1 = [r, r', r''] ∧ r.client_uid = r''.client_uid ∧
      r.generation < r''.generation ∧ r.dispatcher ≠ r''.dispatcher := by
  obtain ⟨shapes, apart, ordered, -⟩ := registry_invariant called_returning_world
  have few : returning_world.1.length < 2 ^ 64 := by decide
  obtain ⟨-, distinct, grown⟩ := ordered few
  have found : ∃ record, returning_world.2.registry.inner.get "s" = some record := ⟨_, rfl⟩
  have found' : ∃ record, returning_world.2.registry.inner.get "s'" = some record := ⟨_, rfl⟩
  obtain ⟨record, found⟩ := found
  obtain ⟨record', found'⟩ := found'
  refine ⟨⟨record, record', found, found', (shapes _ _ found).2, (shapes _ _ found').2,
    distinct _ _ _ _ found found' (by decide)⟩, _, _, _, rfl, rfl, ?_, ?_⟩
  · exact grown 0 2 _ _ rfl rfl (by decide)
  · exact apart 0 2 _ _ rfl rfl (by decide)

/-! ## Around the counter -/

/-- A client that registers and is removed again, so many times. -/
def visits : Nat → List RegistryCall
  | 0 => []
  | n + 1 => visits n ++
    [.register_with_generation (client_params "s" []) 0 none, .remove "s"]

/-- Each visit makes one registration and leaves no session. -/
theorem called_visits (n : Nat) : ∃ past w, Called none (visits n) past w ∧
    w.registry.inner.get "s" = none ∧ past.length = n ∧ ∀ r ∈ past, r.client_uid = "s" := by
  induction n with
  | zero => exact ⟨[], _, .new 0, rfl, rfl, fun r none => by cases none⟩
  | succ n ih =>
    obtain ⟨past, w, called, absent, length, all⟩ := ih
    obtain ⟨regs, consistent, -⟩ := called.consistent
    obtain ⟨w', registering, -⟩ := call_register consistent.unlocked 0 (client_params "s" []) 0 none
    have called' := called.snoc registering
    obtain ⟨regs', consistent', -⟩ := called'.consistent
    obtain ⟨result, w'', removing, performed⟩ := call_performs consistent'.unlocked 0 (.remove "s")
    have called'' := called'.snoc removing
    rw [List.append_assoc] at called''
    have created : w.registry.register (client_params "s" []) 0 none =
        (.ok (.Created, w.registry.next_generation),
          w.registry.file "s" (w.registry.new_record (client_params "s" []) 0 none)) := by
      unfold SessionRegistry.register
      split
      · rename_i existing found
        cases absent.symm.trans found
      · rfl
    obtain ⟨result', w₁, registering', performed'⟩ := call_performs consistent.unlocked 0
      (.register_with_generation (client_params "s" []) 0 none)
    cases registering.symm.trans registering'
    simp only [RegistryCall.section, RegOp.run, created] at performed' registering called''
    have found : w'.registry.inner.get (client_params "s" []).client_uid =
        some (w.registry.new_record (client_params "s" []) 0 none) := by
      rw [performed'.inner]
      exact HashMap.get_insert_self ..
    have one : accepted (.register_with_generation (client_params "s" []) 0 none)
        (.registered (.ok (.Created, w.registry.next_generation))) w' = [
          { client_uid := "s", generation := w.registry.next_generation
            dispatcher := w.registry.next_dispatcher }] := by
      simp only [accepted, found]
      rfl
    have gone : w''.registry.inner.get "s" = none := by
      rw [performed.inner]
      exact HashMap.get_remove_self ..
    have none : accepted (.remove "s") result w'' = [] := rfl
    rw [one, none, List.append_nil] at called''
    refine ⟨_, w'', called'', gone, by simp [length], fun r member => ?_⟩
    obtain old | new := List.mem_append.mp member
    · exact all r old
    · cases List.mem_singleton.mp new
      rfl

/-- The generation of the 2⁶⁴th registration is not larger than that of the first. -/
theorem generations_wrap_around : ∃ past w, Called none (visits (2 ^ 64)) past w ∧
    ∃ (j k : Nat) (r r' : Accepted), past[j]? = some r ∧ past[k]? = some r' ∧ j < k ∧
      r.client_uid = r'.client_uid ∧ ¬ r.generation < r'.generation := by
  obtain ⟨past, w, called, -, length, all⟩ := called_visits (2 ^ 64)
  obtain ⟨regs, consistent, rfl⟩ := called.consistent
  rw [List.length_mapIdx] at length
  have first : regs[0]? = some regs[0] := List.getElem?_eq_getElem (by omega)
  have last : regs[2 ^ 64 - 1]? = some regs[2 ^ 64 - 1] := List.getElem?_eq_getElem (by omega)
  have numbers := consistent.tracked.numbered 0 _ first
  have number' := consistent.tracked.numbered (2 ^ 64 - 1) _ last
  have here : (regs.mapIdx Accepted.of)[0]? = some (.of 0 regs[0]) := by
    rw [List.getElem?_mapIdx, first, Option.map_some]
  have there : (regs.mapIdx Accepted.of)[2 ^ 64 - 1]? = some (.of (2 ^ 64 - 1) regs[2 ^ 64 - 1]) := by
    rw [List.getElem?_mapIdx, last, Option.map_some]
  refine ⟨_, w, called, 0, 2 ^ 64 - 1, _, _, here, there, by omega, ?_, ?_⟩
  · rw [all _ (List.mem_of_getElem? here), all _ (List.mem_of_getElem? there)]
  · simp only [Accepted.of]
    omega

end SessionManager
