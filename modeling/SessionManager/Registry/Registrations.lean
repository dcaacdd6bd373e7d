import SessionManager.Effect.Trace
import SessionManager.Registry.Reached

/-!
# Records and the registrations they come from

The registrations a registry has accepted, oldest first, say where its records come from: the
dispatcher of a record is the position of its registration, its generation is the number drawn
there, and no later registration has the same uid (`Tracked`).  Every section keeps this
(`Tracked.run`).
-/

namespace SessionManager

open Effect

/-- The record has what this registration set and no later section changes. -/
structure SessionRecord.MadeBy (record : SessionRecord) (r : Registration) : Prop where
  generation : record.connection_generation = r.generation
  database_key : record.database_key = r.params.database_key
  connection : record.connection = if record.state = .Active then r.connection else none

/-- The record of a uid comes from the latest registration of that uid. -/
structure Filed (past : List Registration) (uid : String) (record : SessionRecord) : Prop where
  made : ∃ r, past[record.dispatcher]? = some r ∧ r.uid = uid ∧ record.MadeBy r
  latest : ∀ k r, record.dispatcher < k → past[k]? = some r → r.uid ≠ uid

structure Tracked (past : List Registration) (reg : SessionRegistry) : Prop where
  next_dispatcher : reg.next_dispatcher = past.length
  generations : reg.generations = past.length % 2 ^ 64
  numbered : ∀ k r, past[k]? = some r → r.generation = (k + 1) % 2 ^ 64
  filed : ∀ uid record, reg.inner.get uid = some record → Filed past uid record

variable {past : List Registration} {reg reg' : SessionRegistry}

theorem Tracked.new (tools_cache : Option ToolsCacheStore) : Tracked [] (.new tools_cache) where
  next_dispatcher := rfl
  generations := rfl
  numbered k r here := by cases here
  filed uid record found := by cases found

/-- A registration is not later than any record that names its position. -/
theorem Filed.snoc {uid : String} {record : SessionRecord} (filed : Filed past uid record)
    {r : Registration} (other : r.uid ≠ uid) : Filed (past ++ [r]) uid record where
  made := by
    obtain ⟨r', here, made⟩ := filed.made
    refine ⟨r', ?_, made⟩
    rw [List.getElem?_append_left (List.getElem?_eq_some_iff.mp here).1, here]
  latest k r' later here := by
    rcases Trace.getElem?_grown (o := some r) here with before | ⟨-, same⟩
    · exact filed.latest k r' later before
    · cases same
      exact other

theorem Filed.last {uid : String} {record : SessionRecord} {r : Registration}
    (dispatcher : record.dispatcher = past.length) (own : r.uid = uid) (made : record.MadeBy r) :
    Filed (past ++ [r]) uid record where
  made := by
    refine ⟨r, ?_, own, made⟩
    rw [dispatcher]
    simp
  latest k r' later here := by
    have bound := (List.getElem?_eq_some_iff.mp here).1
    simp only [List.length_append, List.length_singleton] at bound
    omega

namespace SessionRecord.MadeBy

variable {record : SessionRecord} {r : Registration}

theorem disconnected (made : record.MadeBy r) (now : Nat) : (record.disconnected now).MadeBy r where
  generation := made.generation
  database_key := made.database_key
  connection := by simp [SessionRecord.disconnected]

end SessionRecord.MadeBy

/-- A record that keeps its dispatcher keeps its registration. -/
theorem Filed.congr {uid : String} {record record' : SessionRecord} (filed : Filed past uid record)
    (dispatcher : record'.dispatcher = record.dispatcher)
    (made : ∀ r, record.MadeBy r → record'.MadeBy r) : Filed past uid record' where
  made := by
    obtain ⟨r, here, own, by_r⟩ := filed.made
    exact ⟨r, dispatcher ▸ here, own, made r by_r⟩
  latest := by
    rw [dispatcher]
    exact filed.latest

/-- What a section draws: a generation and a dispatcher for a registration, or neither. -/
theorem RegOp.drawn_run {β : Type} (op : RegOp β) (now : Nat) (reg : SessionRegistry) :
    op.registration (op.run now reg).1 = none ∧ (op.run now reg).2.generations = reg.generations ∧
        (op.run now reg).2.next_dispatcher = reg.next_dispatcher ∨
      ∃ r, op.registration (op.run now reg).1 = some r ∧ r.generation = reg.next_generation ∧
        (op.run now reg).2.generations = reg.next_generation ∧
        (op.run now reg).2.next_dispatcher = reg.next_dispatcher + 1 := by
  cases op with
  | register params instant connection =>
    simp only [run, SessionRegistry.register]
    split
    · rename_i existing found
      cases existing.state with
      | Active => exact .inl ⟨rfl, rfl, rfl⟩
      | Disconnected => exact .inr ⟨_, rfl, rfl, rfl, rfl⟩
    · exact .inr ⟨_, rfl, rfl, rfl, rfl⟩
  | mark_disconnected session_id instant =>
    simp only [run, SessionRegistry.disconnect_any, SessionRegistry.disconnect]
    repeat' split
    all_goals exact .inl ⟨rfl, rfl, rfl⟩
  | mark_disconnected_if_generation session_id expected_generation instant =>
    simp only [run, SessionRegistry.disconnect]
    repeat' split
    all_goals exact .inl ⟨rfl, rfl, rfl⟩
  | bump_last_call | remove_if_generation | evict_expired | put_cache | clear_cache
  | clear_config =>
    simp only [run, SessionRegistry.touch, SessionRegistry.take]
    repeat' split
    all_goals exact .inl ⟨rfl, rfl, rfl⟩
  | update_tools session_id tools =>
    simp only [run, SessionRegistry.replace_tools]
    split
    · rename_i record found
      cases record.tools == tools <;> exact .inl ⟨rfl, rfl, rfl⟩
    · exact .inl ⟨rfl, rfl, rfl⟩
  | sweep_expired_disconnects | remove | unlock | mark_tools_changed | mark_session_changed
  | snapshot | get | list_cache => exact .inl ⟨rfl, rfl, rfl⟩

theorem RegOp.drawn {β : Type} {op : RegOp β} {answer : β} {now : Nat}
    (ran : op.run now reg = (answer, reg')) :
    op.registration answer = none ∧ reg'.generations = reg.generations ∧
        reg'.next_dispatcher = reg.next_dispatcher ∨
      ∃ r, op.registration answer = some r ∧ r.generation = reg.next_generation ∧
        reg'.generations = reg.next_generation ∧
        reg'.next_dispatcher = reg.next_dispatcher + 1 := by
  have drawn := op.drawn_run now reg
  rwa [ran] at drawn

namespace Tracked

theorem number (tracked : Tracked past reg) : reg.next_generation = (past.length + 1) % 2 ^ 64 := by
  rw [SessionRegistry.next_generation, tracked.generations]
  omega

/-- The record of a uid after a section that registers nothing. -/
theorem filed_of_none {β : Type} {op : RegOp β} {answer : β} {uid : String}
    {record : SessionRecord} {before : Option SessionRecord}
    (filed : ∀ old, before = some old → Filed past uid old)
    (changed : Changed reg uid op answer before (some record))
    (none : op.registration answer = none) : Filed past uid record := by
  cases changed with
  | kept => exact filed record rfl
  | created | reconnected => cases none
  | disconnected state | disconnected_if state =>
    exact (filed _ rfl).congr rfl fun r made => made.disconnected _
  | touched | retooled =>
    exact (filed _ rfl).congr rfl fun r made => ⟨made.generation, made.database_key, made.connection⟩

/-- The record of a uid after a registration. -/
theorem filed_of_some {β : Type} {op : RegOp β} {answer : β} {uid : String}
    {record : SessionRecord} {before : Option SessionRecord} {r : Registration}
    (tracked : Tracked past reg) (filed : ∀ old, before = some old → Filed past uid old)
    (changed : Changed reg uid op answer before (some record))
    (some : op.registration answer = some r) : Filed (past ++ [r]) uid record := by
  cases changed with
  | kept _ spared => exact (filed record rfl).snoc (spared r some)
  | created own =>
    cases some
    exact .last tracked.next_dispatcher own ⟨rfl, rfl, (if_pos rfl).symm⟩
  | reconnected own =>
    cases some
    exact .last tracked.next_dispatcher own ⟨rfl, rfl, (if_pos rfl).symm⟩
  | disconnected | disconnected_if | touched | retooled => cases some

/-- **Every section keeps track.** -/
theorem run {β : Type} {op : RegOp β} {answer : β} {now : Nat} (tracked : Tracked past reg)
    (ran : op.run now reg = (answer, reg')) :
    Tracked (past ++ (op.registration answer).toList) reg' := by
  rcases op.drawn ran with ⟨none, generations, next⟩ | ⟨r, some, number, generations, next⟩
  · rw [none, Option.toList_none, List.append_nil]
    refine ⟨next.trans tracked.next_dispatcher, generations.trans tracked.generations,
      tracked.numbered, fun uid record found => ?_⟩
    have changed := op.changed ran uid
    rw [found] at changed
    exact filed_of_none (tracked.filed uid) changed none
  · rw [some, Option.toList_some]
    constructor
    · rw [next, tracked.next_dispatcher, List.length_append, List.length_singleton]
    · rw [generations, tracked.number, List.length_append, List.length_singleton]
    · intro k r' here
      rcases Trace.getElem?_grown (o := Option.some r) here with before | ⟨newest, same⟩
      · exact tracked.numbered k r' before
      · cases same
        rw [number, tracked.number, newest]
    · intro uid record found
      have changed := op.changed ran uid
      rw [found] at changed
      exact tracked.filed_of_some (tracked.filed uid) changed some

end Tracked

end SessionManager
