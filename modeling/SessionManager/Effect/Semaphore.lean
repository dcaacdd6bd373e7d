import Mathlib.Data.List.Nodup
import Mathlib.Data.List.Basic

/-!
# Fair semaphores

A semaphore that hands released permits to its waiters in the order they queued.
`Semaphore.Exclusive` is the invariant of a semaphore with one permit: the permit
is free, handed over, or held by one thread.  Each operation has a rule that says
where the permit goes.
-/

namespace Effect

/-- Free permits, the waiters in queue order, and the waiters whose permit was handed over
but not picked up yet. -/
structure Semaphore (ι : Type) where
  permits : Nat
  waiters : List ι
  granted : List ι

namespace Semaphore

variable {ι : Type}

def new (permits : Nat) : Semaphore ι := ⟨permits, [], []⟩

/-- Give a permit back: the longest waiter receives it. -/
def release (sem : Semaphore ι) : Semaphore ι :=
  match sem.waiters with
  | [] => { sem with permits := sem.permits + 1 }
  | i :: rest => { sem with waiters := rest, granted := sem.granted ++ [i] }

/-- The first poll of an acquisition: take a free permit, or queue. -/
def enqueue (sem : Semaphore ι) (i : ι) : Bool × Semaphore ι :=
  if 0 < sem.permits then (true, { sem with permits := sem.permits - 1 })
  else (false, { sem with waiters := sem.waiters ++ [i] })

/-- Pick up a permit that was handed over. -/
def pick_up [DecidableEq ι] (sem : Semaphore ι) (i : ι) : Semaphore ι :=
  { sem with granted := sem.granted.erase i }

/-- Give up an acquisition: leave the queue, or return the permit already handed over. -/
def abandon [DecidableEq ι] (sem : Semaphore ι) (i : ι) : Semaphore ι :=
  if i ∈ sem.granted then (sem.pick_up i).release
  else { sem with waiters := sem.waiters.erase i }

/-- Where the one permit is. -/
inductive Permit (ι : Type)
  | free
  | granted (i : ι)
  | held (i : ι)

def Permit.free_count : Permit ι → Nat
  | .free => 1
  | _ => 0

def Permit.handed_over : Permit ι → List ι
  | .granted i => [i]
  | _ => []

/-- A semaphore with one permit, the threads in its queue, and the threads holding it. -/
structure Exclusive (sem : Semaphore ι) (queued holds : ι → Prop) (permit : Permit ι) : Prop where
  queue : ∀ i, i ∈ sem.waiters ∨ i ∈ sem.granted ↔ queued i
  nodup : (sem.waiters ++ sem.granted).Nodup
  permits : sem.permits = permit.free_count
  granted : sem.granted = permit.handed_over
  idle : permit = .free → sem.waiters = []
  holder : ∀ i, holds i ↔ permit = .held i

namespace Exclusive

variable {sem : Semaphore ι} {queued holds queued' holds' : ι → Prop} {permit : Permit ι} {i : ι}

theorem new : Exclusive (Semaphore.new 1) (fun _ : ι => False) (fun _ => False) .free where
  queue _ := ⟨fun either => either.elim List.not_mem_nil List.not_mem_nil, False.elim⟩
  nodup := List.nodup_nil
  permits := rfl
  granted := rfl
  idle _ := rfl
  holder _ := ⟨False.elim, nofun⟩

theorem congr (held : Exclusive sem queued holds permit) (same : ∀ j, queued j ↔ queued' j)
    (same' : ∀ j, holds j ↔ holds' j) : Exclusive sem queued' holds' permit where
  queue j := (held.queue j).trans (same j)
  nodup := held.nodup
  permits := held.permits
  granted := held.granted
  idle := held.idle
  holder j := (same' j).symm.trans (held.holder j)

/-- At most one thread holds the permit. -/
theorem unique (held : Exclusive sem queued holds permit) {j : ι} (mine : holds i) (other : holds j) :
    i = j := by
  have here := (held.holder i).mp mine
  rw [(held.holder j).mp other] at here
  cases here
  rfl

/-- A permit that nobody holds. -/
theorem not_holds (held : Exclusive sem queued holds permit) (elsewhere : ∀ j, permit ≠ .held j) (j : ι) :
    ¬ holds j := fun here => elsewhere j ((held.holder j).mp here)

/-- A poll that succeeds takes the free permit. -/
theorem enqueue_ok (held : Exclusive sem queued holds permit) (ready : (sem.enqueue i).1 = true) :
    Exclusive (sem.enqueue i).2 queued (fun j => holds j ∨ j = i) (.held i) := by
  unfold Semaphore.enqueue at ready ⊢
  split at ready
  · rename_i some
    rw [if_pos some]
    have free : permit = .free := by
      have count := held.permits
      cases permit with
      | free => rfl
      | granted => exact absurd some (count ▸ Nat.lt_irrefl 0)
      | held => exact absurd some (count ▸ Nat.lt_irrefl 0)
    subst free
    refine ⟨held.queue, held.nodup, congrArg (· - 1) held.permits, held.granted, nofun, fun j => ?_⟩
    simp only [held.not_holds nofun j, false_or, Permit.held.injEq, eq_comm]
  · cases ready

/-- A poll that does not succeed joins the queue. -/
theorem enqueue_queued (held : Exclusive sem queued holds permit) (waits : (sem.enqueue i).1 = false)
    (new : ¬ queued i) :
    Exclusive (sem.enqueue i).2 (fun j => queued j ∨ j = i) holds permit := by
  unfold Semaphore.enqueue at waits ⊢
  split at waits
  · cases waits
  · rename_i none
    rw [if_neg none]
    have taken : permit ≠ .free := by
      rintro rfl
      exact none (held.permits ▸ Nat.one_pos)
    have absent : i ∉ sem.waiters ++ sem.granted :=
      fun member => new ((held.queue i).mp (List.mem_append.mp member))
    refine ⟨fun j => ?_, ?_, held.permits, held.granted, fun free => absurd free taken, held.holder⟩
    · rw [← held.queue j, List.mem_append, List.mem_singleton]
      exact or_right_comm
    · have whole : (sem.waiters ++ [i] ++ sem.granted).Perm (i :: (sem.waiters ++ sem.granted)) := by
        rw [List.append_assoc]
        exact List.perm_middle
      exact whole.nodup_iff.mpr (List.nodup_cons.mpr ⟨absent, held.nodup⟩)

/-- A permit that was handed over is picked up. -/
theorem pick_up [DecidableEq ι] (held : Exclusive sem queued holds permit) (mine : i ∈ sem.granted) :
    Exclusive (sem.pick_up i) (fun j => queued j ∧ j ≠ i) (fun j => holds j ∨ j = i) (.held i) := by
  cases permit with
  | free => rw [held.granted] at mine; cases mine
  | held k => rw [held.granted] at mine; cases mine
  | granted k =>
    have granted : sem.granted = [k] := held.granted
    rw [granted] at mine
    cases List.mem_singleton.mp mine
    have nodup := held.nodup
    rw [granted, List.nodup_append] at nodup
    have apart : i ∉ sem.waiters := fun member => nodup.2.2 i member i (List.mem_singleton_self i) rfl
    refine ⟨fun j => ?_, ?_, held.permits, ?_, nofun, fun j => ?_⟩
    · simp only [Semaphore.pick_up, granted, List.erase_cons_head, List.not_mem_nil, or_false,
        ← held.queue j, List.mem_singleton]
      constructor
      · intro waits
        exact ⟨.inl waits, fun same => apart (same ▸ waits)⟩
      · rintro ⟨waits | same, differ⟩
        · exact waits
        · exact absurd same differ
    · simpa only [Semaphore.pick_up, granted, List.erase_cons_head, List.append_nil] using nodup.1
    · simp only [Semaphore.pick_up, granted, List.erase_cons_head, Permit.handed_over]
    · simp only [held.not_holds nofun j, false_or, Permit.held.injEq, eq_comm]

/-- The holder gives the permit back, to the longest waiter if there is one. -/
theorem release (held : Exclusive sem queued holds permit) (mine : holds i) :
    ∃ permit', Exclusive sem.release queued (fun _ => False) permit' := by
  obtain rfl := (held.holder i).mp mine
  have granted : sem.granted = [] := held.granted
  unfold Semaphore.release
  cases waiting : sem.waiters with
  | nil =>
    have queue := held.queue
    have nodup := held.nodup
    rw [waiting] at queue nodup
    exact ⟨.free, by simpa only [waiting] using queue, by simpa only [waiting] using nodup,
      congrArg (· + 1) held.permits, granted, fun _ => rfl, fun _ => ⟨nofun, nofun⟩⟩
  | cons j rest =>
    have nodup := held.nodup
    rw [waiting, granted, List.append_nil] at nodup
    refine ⟨.granted j, fun k => ?_, ?_, held.permits, ?_, nofun, fun _ => ⟨nofun, nofun⟩⟩
    · rw [← held.queue k, waiting, granted]
      simp only [List.nil_append, List.mem_cons, List.not_mem_nil, or_false]
      exact or_comm
    · simp only [granted, List.nil_append]
      exact (List.perm_append_singleton j rest).nodup_iff.mpr nodup
    · simp only [granted, List.nil_append, Permit.handed_over]

/-- A waiter that gives up leaves the queue, and passes on a permit it was handed. -/
theorem abandon [DecidableEq ι] (held : Exclusive sem queued holds permit) :
    ∃ permit', Exclusive (sem.abandon i) (fun j => queued j ∧ j ≠ i) holds permit' := by
  unfold Semaphore.abandon
  split
  · rename_i handed
    have nobody (j : ι) : ¬ holds j := by
      intro here
      have granted := held.granted
      rw [(held.holder j).mp here] at granted
      rw [granted] at handed
      cases handed
    obtain ⟨permit', released⟩ := (held.pick_up handed).release (.inr rfl)
    exact ⟨permit', released.congr (fun _ => Iff.rfl) fun j => ⟨False.elim, nobody j⟩⟩
  · rename_i kept
    have nodup := List.nodup_append.mp held.nodup
    refine ⟨permit, fun j => ?_, ?_, held.permits, held.granted, fun free => ?_, held.holder⟩
    · rw [← held.queue j, nodup.1.mem_erase_iff]
      constructor
      · rintro (⟨differ, waits⟩ | handed)
        · exact ⟨.inl waits, differ⟩
        · exact ⟨.inr handed, fun same => kept (same ▸ handed)⟩
      · rintro ⟨waits | handed, differ⟩
        · exact .inl ⟨differ, waits⟩
        · exact .inr handed
    · exact List.nodup_append.mpr ⟨nodup.1.erase i, nodup.2.1,
        fun j waits k handed => nodup.2.2 j (List.mem_of_mem_erase waits) k handed⟩
    · rw [held.idle free]
      rfl

/-- A poll succeeds only when nobody waits. -/
theorem waiters_of_ready (held : Exclusive sem queued holds permit)
    (ready : (sem.enqueue i).1 = true) : sem.waiters = [] := by
  unfold Semaphore.enqueue at ready
  split at ready
  · rename_i some
    refine held.idle ?_
    have count := held.permits
    cases permit with
    | free => rfl
    | _ => exact absurd some (count ▸ Nat.lt_irrefl 0)
  · cases ready

/-- While a thread holds the permit none is handed over. -/
theorem granted_of_holds (held : Exclusive sem queued holds permit) (mine : holds i) :
    sem.granted = [] := by
  rw [held.granted, (held.holder i).mp mine]
  rfl

/-- With no thread queued or holding it, the permit is free. -/
theorem all_gone (held : Exclusive sem queued holds permit) (unqueued : ∀ i, ¬ queued i)
    (unheld : ∀ i, ¬ holds i) : sem = Semaphore.new 1 := by
  have granted (i : ι) : i ∉ sem.granted := fun member => unqueued i ((held.queue i).mp (.inr member))
  have free : permit = .free := by
    cases permit with
    | free => rfl
    | granted i => exact absurd (held.granted ▸ List.mem_singleton_self i) (granted i)
    | held i => exact absurd ((held.holder i).mpr rfl) (unheld i)
  subst free
  obtain ⟨permits, waiters, handed⟩ := sem
  cases held.permits
  cases held.idle rfl
  cases held.granted
  rfl

end Exclusive

/-! ## Fairness -/

/-- The threads served so far, those that have the permit, and those still waiting came in this
order. -/
def Fair (sem : Semaphore ι) (has : ι → Prop) (served arrived : List ι) : Prop :=
  ∃ front, (∀ i, has i ∨ i ∈ sem.granted → i ∈ front) ∧
    (served ++ front ++ sem.waiters).Sublist arrived

namespace Fair

variable {sem : Semaphore ι} {has has' : ι → Prop} {served arrived : List ι} {i : ι}

theorem new : Fair (Semaphore.new 1) (fun _ : ι => False) [] [] :=
  ⟨[], fun _ either => either.elim False.elim id, .refl _⟩

theorem mono (fair : Fair sem has served arrived) (fewer : ∀ i, has' i → has i) :
    Fair sem has' served arrived :=
  let ⟨front, mine, order⟩ := fair
  ⟨front, fun i either => mine i (either.imp_left (fewer i)), order⟩

/-- Those served came in this order. -/
theorem sublist (fair : Fair sem has served arrived) : served.Sublist arrived := by
  obtain ⟨front, -, order⟩ := fair
  rw [List.append_assoc] at order
  exact (List.sublist_append_left _ _).trans order

theorem enqueue_ok (fair : Fair sem has served arrived) (idle : sem.waiters = [])
    (ready : (sem.enqueue i).1 = true) :
    Fair (sem.enqueue i).2 (fun j => has j ∨ j = i) served (arrived ++ [i]) := by
  obtain ⟨front, mine, order⟩ := fair
  unfold Semaphore.enqueue at ready ⊢
  split at ready
  · rename_i some
    rw [if_pos some]
    refine ⟨front ++ [i], fun j either => ?_, ?_⟩
    · rw [or_right_comm] at either
      exact List.mem_append.mpr (either.imp (mine j) (List.mem_singleton.mpr ·))
    · rw [idle, List.append_nil] at order ⊢
      rw [← List.append_assoc]
      exact order.append (.refl _)
  · cases ready

theorem enqueue_queued (fair : Fair sem has served arrived) (waits : (sem.enqueue i).1 = false) :
    Fair (sem.enqueue i).2 has served (arrived ++ [i]) := by
  obtain ⟨front, mine, order⟩ := fair
  unfold Semaphore.enqueue at waits ⊢
  split at waits
  · cases waits
  · rename_i none
    rw [if_neg none]
    refine ⟨front, mine, ?_⟩
    rw [← List.append_assoc]
    exact order.append (.refl _)

theorem pick_up [DecidableEq ι] (fair : Fair sem has served arrived) (handed : i ∈ sem.granted) :
    Fair (sem.pick_up i) (fun j => has j ∨ j = i) served arrived := by
  obtain ⟨front, mine, order⟩ := fair
  refine ⟨front, fun j either => mine j ?_, order⟩
  rcases either with (has | rfl) | handed'
  · exact .inl has
  · exact .inr handed
  · exact .inr (List.mem_of_mem_erase handed')

theorem release (fair : Fair sem has served arrived) : Fair sem.release has served arrived := by
  obtain ⟨front, mine, order⟩ := fair
  unfold Semaphore.release
  cases waiting : sem.waiters with
  | nil =>
    rw [waiting] at order
    exact ⟨front, mine, by simpa only [waiting] using order⟩
  | cons j rest =>
    refine ⟨front ++ [j], fun k either => ?_, ?_⟩
    · rw [List.mem_append, ← or_assoc] at either
      exact List.mem_append.mpr (either.imp_left (mine k))
    · rw [waiting, List.append_cons, List.append_assoc served] at order
      exact order

theorem abandon [DecidableEq ι] (fair : Fair sem has served arrived) :
    Fair (sem.abandon i) has served arrived := by
  unfold Semaphore.abandon
  split
  · rename_i handed
    exact ((fair.pick_up handed).mono fun _ => .inl).release
  · obtain ⟨front, mine, order⟩ := fair
    exact ⟨front, mine, ((List.Sublist.refl _).append List.erase_sublist).trans order⟩

/-- The thread that has the permit is served. -/
theorem serve (fair : Fair sem has served arrived) (mine : has i) (none : sem.granted = []) :
    Fair sem (fun _ => False) (served ++ [i]) arrived := by
  obtain ⟨front, all, order⟩ := fair
  refine ⟨[], fun j either => ?_, ?_⟩
  · rw [none] at either
    exact either.elim False.elim id
  · rw [List.append_nil]
    have here : [i].Sublist front := List.singleton_sublist.mpr (all i (.inl mine))
    exact (((List.Sublist.refl served).append here).append (.refl _)).trans order

end Fair

end Semaphore

end Effect
