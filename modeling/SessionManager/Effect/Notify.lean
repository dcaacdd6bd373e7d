import Mathlib.Algebra.Group.Nat.Defs
import Mathlib.Data.List.Basic

/-!
# Notifications

A `Notify` wakes one waiter for each `notify_one`, or keeps one permit for the next that comes.
`Notify.Sole` is its invariant when one task waits on it at most; `Notify.signals` counts the
notifications that the task has not picked up.
-/

namespace Effect

/-- The stored permit, the waiters in queue order, and those that were notified but have not
resumed. -/
structure Notify (ι : Type) where
  permit : Bool
  waiters : List ι
  notified : List ι

namespace Notify

variable {ι : Type}

def new : Notify ι := ⟨false, [], []⟩

def notify_one (signal : Notify ι) : Notify ι :=
  match signal.waiters with
  | [] => { signal with permit := true }
  | i :: rest => { signal with waiters := rest, notified := signal.notified ++ [i] }

/-- The first poll of `notified()`: take the permit, or queue. -/
def poll (signal : Notify ι) (i : ι) : Bool × Notify ι :=
  if signal.permit then (true, { signal with permit := false })
  else (false, { signal with waiters := signal.waiters ++ [i] })

/-- A waiter resumes once it was notified. -/
def resume [DecidableEq ι] (signal : Notify ι) (i : ι) : Option (Notify ι) :=
  if i ∈ signal.notified then some { signal with notified := signal.notified.erase i } else none

/-- The notifications on their way. -/
def signals (signal : Notify ι) : Nat := signal.permit.toNat + signal.notified.length

/-- Only `i` ever waits, and it does so now or not. -/
inductive Sole (i : ι) : Bool → Notify ι → Prop
  | idle (permit : Bool) : Sole i false ⟨permit, [], []⟩
  | waiting : Sole i true ⟨false, [i], []⟩
  | notified (permit : Bool) : Sole i true ⟨permit, [], [i]⟩

namespace Sole

variable {signal signal' : Notify ι} {i : ι} {waits : Bool}

theorem new (i : ι) : Sole i false (Notify.new : Notify ι) := .idle false

theorem notify_one (sole : Sole i waits signal) : Sole i waits signal.notify_one := by
  cases sole with
  | idle => exact .idle true
  | waiting => exact .notified false
  | notified => exact .notified true

/-- A notification is on its way then, one more at most. -/
theorem signals_notify_one (sole : Sole i waits signal) :
    1 ≤ signal.notify_one.signals ∧ signal.notify_one.signals ≤ signal.signals + 1 := by
  cases sole with
  | idle permit => cases permit <;> simp [signals, Notify.notify_one]
  | waiting => simp [signals, Notify.notify_one]
  | notified permit => cases permit <;> simp [signals, Notify.notify_one]

theorem poll (sole : Sole i false signal) :
    Sole i (!(signal.poll i).1) (signal.poll i).2 ∧
      signal.signals = (signal.poll i).2.signals + (signal.poll i).1.toNat := by
  cases sole with
  | idle permit =>
    cases permit with
    | false => exact ⟨.waiting, rfl⟩
    | true => exact ⟨.idle false, rfl⟩

theorem resume [DecidableEq ι] (sole : Sole i true signal) (resumed : signal.resume i = some signal') :
    Sole i false signal' ∧ signal.signals = signal'.signals + 1 := by
  cases sole with
  | waiting => cases resumed
  | notified permit =>
    rw [Notify.resume, if_pos (List.mem_singleton_self i)] at resumed
    cases resumed
    rw [List.erase_cons_head]
    exact ⟨.idle permit, rfl⟩

/-- While the task waits no notification is on its way. -/
theorem signals_of_mem (sole : Sole i waits signal) (member : i ∈ signal.waiters) :
    signal.signals = 0 := by
  cases sole with
  | waiting => rfl
  | idle | notified => exact (List.not_mem_nil member).elim

theorem waits_of_mem (sole : Sole i waits signal) (member : i ∈ signal.waiters) : waits = true := by
  cases sole with
  | waiting | notified => rfl
  | idle => exact (List.not_mem_nil member).elim

/-- A task that does not wait has to come for the permit, if there is one. -/
theorem signals_of_idle (sole : Sole i false signal) (empty : signal.permit = false) :
    signal.signals = 0 := by
  cases sole with
  | idle permit =>
    rw [signals, empty]
    rfl

end Sole

end Notify

end Effect
