import SessionManager.Manager.Outcomes
import SessionManager.Router.Explicit

/-!
# The signal that sessions have changed

Whoever waits for a session hears of it through `session_changed_signal`.  A call that adds or
removes a record or changes the state of one raises it, except that a sweep drops the records of
clients that stayed away without raising it (`session_changed_iff`).
-/

namespace SessionManager

open Effect

/-- The two registries have different records, or a record is in another state. -/
def Reshaped (reg reg' : SessionRegistry) : Prop :=
  ∃ uid, (reg.inner.get uid).map SessionRecord.state ≠ (reg'.inner.get uid).map SessionRecord.state

/-- The call is a sweep that finds a record to drop. -/
def RegistryCall.drops (reg : SessionRegistry) : RegistryCall → Prop
  | .sweep_expired_disconnects now grace =>
      ∃ uid record, reg.inner.get uid = some record ∧ SessionRegistry.expired record now grace = true
  | _ => False

section Reshaped

variable {reg reg' : SessionRegistry} {session_id : String} {record : SessionRecord}

theorem not_reshaped (inner : reg'.inner = reg.inner) : ¬ Reshaped reg reg' := by
  intro reshaped
  obtain ⟨uid, differ⟩ := reshaped
  exact differ (by rw [inner])

/-- Filing a record in the same state changes nothing that counts. -/
theorem not_reshaped_of_insert (record' : SessionRecord)
    (found : reg.inner.get session_id = some record) (state : record'.state = record.state)
    (inner : reg'.inner = reg.inner.insert session_id record') : ¬ Reshaped reg reg' := by
  intro reshaped
  obtain ⟨uid, differ⟩ := reshaped
  rw [inner, HashMap.get_insert] at differ
  split at differ
  · rename_i here
    rw [here, found, Option.map_some, Option.map_some, state] at differ
    exact differ rfl
  · exact differ rfl

/-- Removing a record that is not there changes nothing. -/
theorem not_reshaped_of_remove (absent : reg.inner.get session_id = none)
    (inner : reg'.inner = reg.inner.remove session_id) : ¬ Reshaped reg reg' := by
  intro reshaped
  obtain ⟨uid, differ⟩ := reshaped
  rw [inner, HashMap.get_remove] at differ
  split at differ
  · rename_i here
    rw [here, absent] at differ
    exact differ rfl
  · exact differ rfl

/-- Announcing raises the signal. -/
theorem raised_of_announced (same : reg'.session_changed = reg.session_changed) :
    reg.session_changed < (reg'.announced true).session_changed := by
  rw [← same]
  exact Nat.lt_succ_self _

theorem raised_of_released {handed : Option Nat × Nat}
    (same : reg'.session_changed = reg.session_changed) :
    reg.session_changed < (SessionRegistry.released (some handed, reg')).session_changed := by
  rw [← same]
  exact Nat.lt_succ_self _

/-- Every call but a sweep raises the signal for what it changes. -/
theorem RegistryCall.raises (call : RegistryCall) (instant : Nat) (kept : ¬ call.drops reg)
    (reshaped : Reshaped reg (call.after instant reg)) :
    reg.session_changed < (call.after instant reg).session_changed := by
  cases call with
  | register_with_generation params now connection =>
    rw [RegistryCall.after] at reshaped ⊢
    rcases reg.register_cases params now connection with
      ⟨error, refused⟩ | ⟨outcome, record, -, -, -, -, filed⟩
    · rw [refused] at reshaped
      exact (not_reshaped rfl reshaped).elim
    · rw [filed, SessionRegistry.session_changed_noted, SessionRegistry.session_changed_evicted]
      exact raised_of_announced rfl
  | mark_disconnected session_id now =>
    rw [RegistryCall.after] at reshaped ⊢
    rcases reg.disconnect_any_cases session_id now with none | ⟨record, -, -, some⟩
    · rw [none] at reshaped
      exact (not_reshaped rfl reshaped).elim
    · rw [some]
      exact raised_of_released rfl
  | mark_disconnected_if_generation session_id expected_generation now =>
    rw [RegistryCall.after] at reshaped ⊢
    rcases reg.disconnect_cases session_id expected_generation now with none | ⟨record, -, -, some⟩
    · rw [none] at reshaped
      exact (not_reshaped rfl reshaped).elim
    · rw [some]
      exact raised_of_released rfl
  | bump_last_call session_id now =>
    rw [RegistryCall.after] at reshaped ⊢
    rcases reg.touch_cases session_id now with none | ⟨record, found, some⟩
    · rw [none] at reshaped
      exact (not_reshaped rfl reshaped).elim
    · rw [some] at reshaped
      exact (not_reshaped_of_insert { record with last_call_at := now } found rfl rfl
        reshaped).elim
  | remove session_id =>
    rw [RegistryCall.after] at reshaped ⊢
    cases found : reg.inner.get session_id with
    | none =>
      rw [found] at reshaped
      exact (not_reshaped_of_remove found rfl reshaped).elim
    | some record => exact raised_of_announced rfl
  | remove_if_generation session_id expected_generation =>
    rw [RegistryCall.after] at reshaped ⊢
    rcases reg.take_cases session_id expected_generation with none | ⟨record, -, some⟩
    · rw [none] at reshaped
      exact (not_reshaped rfl reshaped).elim
    · rw [some]
      exact raised_of_announced rfl
  | update_tools session_id tools =>
    rw [RegistryCall.after] at reshaped ⊢
    rcases reg.replace_tools_cases session_id tools with
      ⟨-, none⟩ | ⟨record, found, ⟨-, same⟩ | ⟨-, replaced⟩⟩
    · rw [none] at reshaped
      exact (not_reshaped rfl reshaped).elim
    · rw [same] at reshaped
      exact (not_reshaped rfl reshaped).elim
    · rw [replaced] at reshaped
      refine (not_reshaped_of_insert { record with tools } found rfl ?_ reshaped).elim
      rw [SessionRegistry.inner_noted, SessionRegistry.inner_evicted]
      rfl
  | sweep_expired_disconnects now grace =>
    have all : (reg.sweep now grace).2.inner = reg.inner := by
      apply reg.inner_sweep_of_kept
      intro uid record found
      cases expired : SessionRegistry.expired record now grace with
      | false => rfl
      | true => exact (kept ⟨uid, record, found, expired⟩).elim
    exact (not_reshaped ((SessionRegistry.inner_raise_tools _).trans all) reshaped).elim

/-- A sweep that drops a record does not raise the signal. -/
theorem RegistryCall.drops.silent {call : RegistryCall} (drops : call.drops reg) (instant : Nat) :
    Reshaped reg (call.after instant reg) ∧
      (call.after instant reg).session_changed = reg.session_changed := by
  cases call with
  | sweep_expired_disconnects now grace =>
    obtain ⟨uid, record, found, expired⟩ := drops
    refine ⟨⟨uid, ?_⟩, SessionRegistry.session_changed_raise_tools _⟩
    rw [RegistryCall.after, SessionRegistry.inner_raise_tools, SessionRegistry.sweep,
      HashMap.get_retain, found, Option.filter_some, expired]
    intro same
    cases same
  | _ => exact drops.elim

end Reshaped

/-- **The signal.**  A call that changes which records there are, or the state of one, raises the
signal, exactly if it is not a sweep that drops a record. -/
theorem session_changed_iff {w : ManagerWorld Unit} (free : w.registry.locked = false) (instant : Nat)
    (call : RegistryCall) : ∃ result w', w.call instant call = some (result, w') ∧
      ((Reshaped w.registry w'.registry →
        w.registry.session_changed < w'.registry.session_changed) ↔ ¬ call.drops w.registry) := by
  obtain ⟨w', called, left⟩ := call_after free instant call
  refine ⟨_, w', called, ?_⟩
  rw [left]
  constructor
  · intro raises drops
    obtain ⟨reshaped, silent⟩ := drops.silent instant
    have raised := raises reshaped
    omega
  · intro kept reshaped
    exact call.raises instant kept reshaped

/-! ## A client that stays away -/

def registers_away : RegistryCall :=
  .register_with_generation (client_params "away" []) 0 none

theorem session_changed_iff_registered : ∃ result w',
    (ManagerWorld.new none 0).call 0 registers_away = some (result, w') ∧
      ((Reshaped (.new none) w'.registry → 0 < w'.registry.session_changed) ↔
        ¬ registers_away.drops (.new none)) :=
  session_changed_iff rfl 0 _

/-- The client registers, disconnects and is swept; the sweep is not signalled. -/
theorem sweep_is_not_signalled : ∃ result result' result'' w w' w'',
    (ManagerWorld.new none 0).call 0 registers_away = some (result, w) ∧
      w.call 0 (.mark_disconnected "away" 0) = some (result', w') ∧
      w'.call 60 (.sweep_expired_disconnects 60 60) = some (result'', w'') ∧
      Reshaped w'.registry w''.registry ∧
      ¬ w'.registry.session_changed < w''.registry.session_changed := by
  refine ⟨_, _, _, _, _, _, rfl, rfl, rfl, ⟨"away", ?_⟩, Nat.lt_irrefl _⟩
  nofun

end SessionManager
