import SessionManager.Manager.Runs

/-!
# The record of a generation

A record has the generation of its registration for as long as it is there.  A record that was
filed is gone exactly when some step has dropped it since: taken it out, or replaced it by the
record of another registration (`not_holds_iff_dropped`).
-/

namespace SessionManager

open Effect

variable {ι : Type}

/-! ## The record of a generation -/

/-- The registry holds the record of this generation. -/
def SessionRegistry.Holds (reg : SessionRegistry) (session_id : String) (generation : Nat) : Prop :=
  ∃ record, reg.inner.get session_id = some record ∧ record.connection_generation = generation

/-- Files a record of this generation. -/
def RegOp.files (session_id : String) (generation : Nat) {β : Type} (op : RegOp β) (answer : β) :
    Prop :=
  ∃ r, op.registration answer = some r ∧ r.uid = session_id ∧ r.generation = generation

/-- Takes the record of the session out, if it has this generation. -/
def RegOp.removes (session_id : String) (generation : Nat) : ∀ {β : Type}, RegOp β → β → Prop
  | _, .remove uid, removed => uid = session_id ∧ removed.isSome
  | _, .remove_if_generation uid expected, removed =>
      uid = session_id ∧ expected = generation ∧ removed.isSome
  | _, .sweep_expired_disconnects .., uids => session_id ∈ uids
  | _, _, _ => False

/-- Takes the record of this generation out, or replaces it. -/
def RegOp.drops (session_id : String) (generation : Nat) {β : Type} (op : RegOp β) (answer : β) :
    Prop :=
  op.removes session_id generation answer ∨
    ∃ r, op.registration answer = some r ∧ r.uid = session_id ∧ r.generation ≠ generation

section Sections

variable {reg reg' : SessionRegistry} {session_id : String} {generation now : Nat} {β : Type}
  {op : RegOp β} {answer : β}

/-- The record that a registration files. -/
theorem record_of_registration {r : Registration} (ran : op.run now reg = (answer, reg'))
    (registered : op.registration answer = some r) : ∃ record,
      reg'.inner.get r.uid = some record ∧ record.dispatcher = reg.next_dispatcher ∧
        record.connection_generation = r.generation ∧ record.state = .Active := by
  have changed := op.changed ran r.uid
  generalize reg.inner.get r.uid = old at changed
  generalize after : reg'.inner.get r.uid = record at changed
  cases changed with
  | kept _ spared => exact absurd rfl (spared r registered)
  | created | reconnected =>
    cases registered
    exact ⟨_, rfl, rfl, rfl, rfl⟩
  | disconnected | disconnected_if | touched | retooled | removed | removed_if | swept =>
    cases registered

theorem holds_of_registration {r : Registration} (ran : op.run now reg = (answer, reg'))
    (registered : op.registration answer = some r) : reg'.Holds r.uid r.generation := by
  obtain ⟨record, found, -, generation, -⟩ := record_of_registration ran registered
  exact ⟨record, found, generation⟩

theorem not_holds_of_removes (ran : op.run now reg = (answer, reg'))
    (removed : op.removes session_id generation answer) : reg'.inner.get session_id = none := by
  cases op with
  | remove uid =>
    obtain ⟨rfl, -⟩ := removed
    cases ran
    rw [SessionRegistry.remove, HashMap.get_remove, if_pos rfl]
  | remove_if_generation uid expected =>
    obtain ⟨rfl, -, taken⟩ := removed
    simp only [RegOp.run] at ran
    unfold SessionRegistry.take at ran
    split at ran
    · split at ran
      · cases ran
        rw [SessionRegistry.remove, HashMap.get_remove, if_pos rfl]
      · cases ran
        cases taken
    · cases ran
      cases taken
  | sweep_expired_disconnects instant grace =>
    cases ran
    obtain ⟨-, expired⟩ := List.mem_filter.mp removed
    cases there : reg.inner.get session_id with
    | none =>
      rw [there] at expired
      cases expired
    | some record =>
      rw [there, Option.any_some] at expired
      simp only [HashMap.get_retain, there, Option.filter_some, expired, Bool.not_true,
        Bool.false_eq_true, if_false]
  | _ => exact removed.elim

theorem not_holds_of_drops (ran : op.run now reg = (answer, reg'))
    (dropped : op.drops session_id generation answer) : ¬ reg'.Holds session_id generation := by
  rintro ⟨record, found, rfl⟩
  rcases dropped with removed | ⟨r, registered, rfl, other⟩
  · rw [not_holds_of_removes ran removed] at found
    cases found
  · obtain ⟨newest, here, same⟩ := holds_of_registration ran registered
    rw [here] at found
    cases found
    exact other same.symm

theorem holds_of_not_drops (ran : op.run now reg = (answer, reg'))
    (held : reg.Holds session_id generation) (kept : ¬ op.drops session_id generation answer) :
    reg'.Holds session_id generation := by
  obtain ⟨record, found, rfl⟩ := held
  have changed := op.changed ran session_id
  rw [found] at changed
  generalize after : reg'.inner.get session_id = record' at changed
  cases changed with
  | kept => exact ⟨record, after, rfl⟩
  | reconnected own =>
    refine ⟨_, after, Decidable.not_not.mp fun other => kept (.inr ⟨_, rfl, own, other⟩)⟩
  | disconnected | disconnected_if | touched | retooled => exact ⟨_, after, rfl⟩
  | removed => exact absurd (.inl ⟨rfl, rfl⟩) kept
  | removed_if => exact absurd (.inl ⟨rfl, rfl, rfl⟩) kept
  | swept =>
    cases ran
    simp only [HashMap.get_retain, found, Option.filter_eq_none_iff, Bool.not_eq_true,
      Bool.not_eq_false'] at after
    refine absurd (.inl (List.mem_filter.mpr ⟨HashMap.mem_keys.mpr ?_, ?_⟩)) kept
    · rw [found]
      rfl
    · rw [found]
      exact after record rfl

/-- **When a generation has its record after a section:** the section files it, or it was there
and the section does not drop it. -/
theorem holds_run (ran : op.run now reg = (answer, reg')) :
    reg'.Holds session_id generation ↔
      op.files session_id generation answer ∨
        reg.Holds session_id generation ∧ ¬ op.drops session_id generation answer := by
  constructor
  · intro held
    have undropped := fun dropped => not_holds_of_drops ran dropped held
    obtain ⟨record, found, rfl⟩ := held
    have changed := op.changed ran session_id
    rw [found] at changed
    generalize before : reg.inner.get session_id = old at changed
    cases changed with
    | kept => exact .inr ⟨⟨record, before, rfl⟩, undropped⟩
    | created own | reconnected own => exact .inl ⟨_, rfl, own, rfl⟩
    | disconnected | disconnected_if | touched | retooled => exact .inr ⟨⟨_, before, rfl⟩, undropped⟩
  · rintro (⟨r, registered, rfl, rfl⟩ | ⟨held, kept⟩)
    · exact holds_of_registration ran registered
    · exact holds_of_not_drops ran held kept

end Sections

/-! ## Steps and runs -/

def ManagerOp.files (session_id : String) (generation : Nat) :
    ∀ {β : Type}, ManagerOp ι β → β → Prop
  | _, .reg op, answer => op.files session_id generation answer
  | _, _, _ => False

def ManagerOp.drops (session_id : String) (generation : Nat) :
    ∀ {β : Type}, ManagerOp ι β → β → Prop
  | _, .reg op, answer => op.drops session_id generation answer
  | _, _, _ => False

/-- A step files a record of this generation. -/
def Files (session_id : String) (generation : Nat) (ev : PoolEvent ι (ManagerOp ι)) : Prop :=
  ev.event.request.files session_id generation ev.event.answer

/-- A step drops the record of this generation. -/
def Drops (session_id : String) (generation : Nat) (ev : PoolEvent ι (ManagerOp ι)) : Prop :=
  ev.event.request.drops session_id generation ev.event.answer

/-- Some step has dropped the record of this generation, and none has filed one since. -/
def Dropped (session_id : String) (generation : Nat) (tr : List (PoolEvent ι (ManagerOp ι))) : Prop :=
  ∃ a ev b, tr = a ++ ev :: b ∧ Drops session_id generation ev ∧
    ∀ later ∈ b, ¬ Files session_id generation later

theorem not_drops_of_files {session_id : String} {generation : Nat}
    {ev : PoolEvent ι (ManagerOp ι)} (files : Files session_id generation ev) :
    ¬ Drops session_id generation ev := by
  obtain ⟨i, ⟨op, answer⟩⟩ := ev
  cases op with
  | reg op =>
    obtain ⟨r, registered, rfl, rfl⟩ := files
    rintro (removes | ⟨r', registered', -, other⟩)
    · cases op with
      | register => exact removes
      | _ => cases registered
    · cases registered.symm.trans registered'
      exact other rfl
  | _ => exact files.elim

section Runs

variable [DecidableEq ι] {i : ι} {w w' : ManagerWorld ι} {session_id : String} {generation : Nat}

theorem holds_of_step {β : Type} {op : ManagerOp ι β} {answer : β}
    (answered : managerSemantics i w op answer w') :
    w'.registry.Holds session_id generation ↔
      Files session_id generation ⟨i, ⟨op, answer⟩⟩ ∨
        w.registry.Holds session_id generation ∧ ¬ Drops session_id generation ⟨i, ⟨op, answer⟩⟩ := by
  obtain ⟨rop, rfl, ran⟩ | ⟨-, outside, same⟩ := section_of_step answered
  · exact holds_run (RegOp.run_of_apply ran)
  · have neither : ¬ op.files session_id generation answer ∧
        ¬ op.drops session_id generation answer := by
      cases op with
      | reg rop => exact absurd rfl (outside rop)
      | _ => exact ⟨not_false, not_false⟩
    rw [same]
    exact ⟨fun held => .inr ⟨held, neither.2⟩, fun after => (after.resolve_left neither.1).1⟩

variable {settings : ManagerSettings} {tools_cache : Option ToolsCacheStore}
  {tasks : ι → ManagerTask ι} {p q : Pool ι (ManagerOp ι) (ManagerWorld ι) ManagerReturn}

/-- **A record that was filed is gone exactly when it was dropped since.** -/
theorem not_holds_iff_dropped {tr : List (PoolEvent ι (ManagerOp ι))}
    (run : Pool.Run managerSemantics p tr q) (filed : p.shared.registry.Holds session_id generation) :
    ¬ q.shared.registry.Holds session_id generation ↔ Dropped session_id generation tr := by
  refine Iff.trans (not_congr ?_) Trace.not_followed_iff
  refine run.replay.history (I := fun w past => w.registry.Holds session_id generation ↔
    Trace.Followed (Drops session_id generation) (Files session_id generation) past) ?_ ?_
  · exact iff_of_true filed Trace.followed_nil
  · intro w w' past j β op answer held answered
    rw [holds_of_step answered, held, Trace.followed_snoc_iff not_drops_of_files]

end Runs

end SessionManager
