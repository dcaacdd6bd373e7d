import SessionManager.Effect.Notify
import SessionManager.Effect.Pool
import SessionManager.Notify

/-!
# Debounced broadcasts

The notifier waits for a change, sleeps, and broadcasts.  Whatever changes come while it does so:
when it waits again, every change was followed by the start of a broadcast, and there are no more
broadcasts than changes (`changes_are_broadcast`).
-/

namespace SessionManager

open Effect

open Prog (perform)

/-! ## The tasks -/

/-- What the notifier and the methods that change the tools do. -/
inductive ChangeOp (Peer : Type) : Type → Type 1
  | fetch_add : ChangeOp Peer Nat
  | notify_one : ChangeOp Peer Unit
  | poll_notified : ChangeOp Peer Bool
  | resume_notified : ChangeOp Peer Unit
  | sleep : ChangeOp Peer Unit
  | broadcast : ChangeOp Peer Unit
  | notifier {β : Type} (op : NotifierOp Peer β) : ChangeOp Peer β

section Tasks

variable {Peer : Type}

def mark_tools_changed : Prog (ChangeOp Peer) Unit := do
  let _ ← perform .fetch_add
  perform .notify_one

/-- `signal.notified().await`. -/
def notified : Prog (ChangeOp Peer) Unit := do
  let ready ← perform .poll_notified
  if ready then return () else perform .resume_notified

/-- A call of `broadcast`. -/
def call_broadcast : Prog (ChangeOp Peer) Nat := do
  perform .broadcast
  ToolsListChangedNotifier.broadcast.lift .notifier

/-- So many rounds of the loop of `spawn_notifier`, which ends with the process only. -/
def spawn_notifier : Nat → Prog (ChangeOp Peer) Unit
  | 0 => return ()
  | rounds + 1 => do
    notified
    perform .sleep
    let _ ← call_broadcast
    spawn_notifier rounds

end Tasks

/-- The epoch, and the signal that the notifier waits for. -/
structure Changes (ι : Type) where
  tools_epoch : Nat
  tools_changed : Notify ι

/-- The answers that a task may get, and what is left.  Peers may answer anything. -/
inductive ChangeOp.Answers {Peer ι : Type} [DecidableEq ι] (i : ι) (s : Changes ι) :
    ∀ {β : Type}, ChangeOp Peer β → β → Changes ι → Prop
  | fetch_add : Answers i s .fetch_add s.tools_epoch
      { s with tools_epoch := (s.tools_epoch + 1) % 2 ^ 64 }
  | notify_one : Answers i s .notify_one () { s with tools_changed := s.tools_changed.notify_one }
  | poll_notified : Answers i s .poll_notified (s.tools_changed.poll i).1
      { s with tools_changed := (s.tools_changed.poll i).2 }
  | resume_notified {tools_changed : Notify ι}
    (resumed : s.tools_changed.resume i = some tools_changed) :
    Answers i s .resume_notified () { s with tools_changed }
  | sleep : Answers i s .sleep () s
  | broadcast : Answers i s .broadcast () s
  | notifier {β : Type} (op : NotifierOp Peer β) (answer : β) : Answers i s (.notifier op) answer s

/-- The notifier and any number of changes. -/
def change_tasks (Peer ι : Type) (rounds : Nat) : Option ι → Prog (ChangeOp Peer) Unit
  | none => spawn_notifier rounds
  | some _ => mark_tools_changed

/-- Their runs. -/
abbrev ChangeRun (Peer ι : Type) [DecidableEq ι] (rounds : Nat) :
    List (PoolEvent (Option ι) (ChangeOp Peer)) →
      Pool (Option ι) (ChangeOp Peer) (Changes (Option ι)) Unit → Prop :=
  Pool.Run (fun i s _ e b s' => e.Answers i s b s') ⟨⟨0, .new⟩, change_tasks Peer ι rounds⟩

/-! ## Phases -/

inductive ChangePhase
  -- of a change
  | unmarked
  | marking
  | marked
  -- of the notifier
  | idle
  | waiting
  | due

def changeProtocol (Peer : Type) : Protocol (ChangeOp Peer) ChangePhase where
  allows phase _ op :=
    match phase, op with
    | .unmarked, .fetch_add => True
    | .marking, .notify_one => True
    | .idle, .poll_notified => True
    | .idle, .notifier _ => True
    | .waiting, .resume_notified => True
    | .due, .sleep => True
    | .due, .broadcast => True
    | _, _ => False
  next phase _ op :=
    match phase, op with
    | .unmarked, .fetch_add => fun _ => .marking
    | .marking, .notify_one => fun _ => .marked
    | .idle, .poll_notified => fun ready => if ready then .due else .waiting
    | .waiting, .resume_notified => fun _ => .due
    | .due, .broadcast => fun _ => .idle
    | phase, _ => fun _ => phase

section Phases

variable {Peer ι : Type}

theorem spawn_notifier_follows (rounds : Nat) :
    (changeProtocol Peer).Follows (fun _ _ => True) .idle (spawn_notifier rounds) := by
  have broadcast : (changeProtocol Peer).Follows (fun g _ => g = .idle) .due call_broadcast := by
    refine ⟨trivial, fun _ => Protocol.follows_lift.mpr ?_⟩
    exact Protocol.Follows.of_only (Prog.Only.of_forall (fun _ => ⟨trivial, fun _ => rfl⟩) _)
  induction rounds with
  | zero => trivial
  | succ rounds ih =>
    have round : (changeProtocol Peer).Follows (fun _ _ => True) .due (do
        perform .sleep
        let _ ← call_broadcast
        spawn_notifier rounds) := by
      refine ⟨trivial, fun _ => broadcast.bind fun g _ idle => ?_⟩
      rw [idle]
      exact ih
    refine ⟨trivial, fun ready => ?_⟩
    cases ready with
    | true => exact round
    | false => exact ⟨trivial, fun _ => round⟩

/-- The phases the tasks start in. -/
def change_start : Option ι → ChangePhase
  | none => .idle
  | some _ => .unmarked

theorem change_tasks_follow (rounds : Nat) (i : Option ι) :
    (changeProtocol Peer).Follows (fun _ _ => True) (change_start i) (change_tasks Peer ι rounds i) := by
  cases i with
  | none => exact spawn_notifier_follows rounds
  | some i => exact ⟨trivial, fun _ => ⟨trivial, fun _ => trivial⟩⟩

end Phases

/-! ## Changes and broadcasts -/

namespace ChangeOp

variable {Peer : Type}

def increments : ∀ {β : Type}, ChangeOp Peer β → Bool
  | _, .fetch_add => true
  | _, _ => false

def signals : ∀ {β : Type}, ChangeOp Peer β → Bool
  | _, .notify_one => true
  | _, _ => false

def broadcasts : ∀ {β : Type}, ChangeOp Peer β → Bool
  | _, .broadcast => true
  | _, _ => false

end ChangeOp

variable {Peer ι : Type}

/-- How many requests of a kind there were. -/
def tally (kind : ∀ {β : Type}, ChangeOp Peer β → Bool)
    (tr : List (PoolEvent (Option ι) (ChangeOp Peer))) : Nat :=
  tr.countP fun ev => kind ev.event.request

theorem tally_snoc (kind : ∀ {β : Type}, ChangeOp Peer β → Bool)
    (tr : List (PoolEvent (Option ι) (ChangeOp Peer))) (ev : PoolEvent (Option ι) (ChangeOp Peer)) :
    tally kind (tr ++ [ev]) = tally kind tr + (kind ev.event.request).toNat := by
  rw [tally, List.countP_append, List.countP_singleton]
  cases kind ev.event.request <;> rfl

/-- Every increment of the epoch was followed by the start of a broadcast. -/
def AllBroadcast (tr : List (PoolEvent (Option ι) (ChangeOp Peer))) : Prop :=
  Trace.Followed (fun ev => ev.event.request.increments = true)
    (fun ev => ev.event.request.broadcasts = true) tr

/-! ## The invariant -/

def ChangePhase.waits : ChangePhase → Bool
  | .waiting => true
  | _ => false

/-- The broadcast that the notifier has still to start. -/
def ChangePhase.owes : ChangePhase → Nat
  | .due => 1
  | _ => 0

/-- The phases of the notifier. -/
def ChangePhase.of_notifier : ChangePhase → Bool
  | .idle | .waiting | .due => true
  | _ => false

/-- The broadcasts that are still to come for what has been signalled. -/
def owed (phase : Option ι → ChangePhase) (s : Changes (Option ι)) : Nat :=
  s.tools_changed.signals + (phase none).owes

structure Debounced (phase : Option ι → ChangePhase) (s : Changes (Option ι))
    (past : List (PoolEvent (Option ι) (ChangeOp Peer))) : Prop where
  roles : ∀ i, (phase i).of_notifier = i.isNone
  sole : s.tools_changed.Sole none (phase none).waits
  covered : AllBroadcast past ∨ (∃ i, phase (some i) = .marking) ∨ 0 < owed phase s
  broadcasts : tally ChangeOp.broadcasts past + owed phase s ≤ tally ChangeOp.signals past
  signals : ∃ marking : List ι, marking.Nodup ∧ (∀ i, i ∈ marking ↔ phase (some i) = .marking) ∧
    tally ChangeOp.signals past + marking.length = tally ChangeOp.increments past

/-- The phase that a request shows. -/
def ChangeOp.phase : ∀ {β : Type}, ChangeOp Peer β → ChangePhase
  | _, .fetch_add => .unmarked
  | _, .notify_one => .marking
  | _, .poll_notified => .idle
  | _, .resume_notified => .waiting
  | _, .sleep => .due
  | _, .broadcast => .due
  | _, .notifier _ => .idle

theorem ChangeOp.phase_of_allows {β : Type} {op : ChangeOp Peer β} {g : ChangePhase}
    (allowed : (changeProtocol Peer).allows g op) : g = op.phase := by
  cases op <;> cases g <;> first | rfl | exact allowed.elim

namespace Debounced

variable {phase : Option ι → ChangePhase} {s s' : Changes (Option ι)}
  {past : List (PoolEvent (Option ι) (ChangeOp Peer))} {i : Option ι}

/-- Which task performs a request. -/
theorem change_of_phase (held : Debounced phase s past) (change : (phase i).of_notifier = false) :
    ∃ j, i = some j := by
  rw [held.roles] at change
  exact Option.isSome_iff_exists.mp (by rwa [← Option.not_isNone, Bool.not_eq_true'])

theorem notifier_of_phase (held : Debounced phase s past) (notifier : (phase i).of_notifier = true) :
    i = none := by
  rw [held.roles] at notifier
  exact Option.isNone_iff_eq_none.mp notifier

variable [DecidableEq ι]

/-- A step of the notifier loses no signal. -/
theorem of_notifier {β : Type} {op : ChangeOp Peer β} {answer : β} {g : ChangePhase}
    (held : Debounced phase s past) (notifier : g.of_notifier = true)
    (increments : op.increments = false) (signals : op.signals = false)
    (sole : s'.tools_changed.Sole none g.waits)
    (same : s'.tools_changed.signals + g.owes + op.broadcasts.toNat = owed phase s) :
    Debounced (Function.update phase none g) s' (past ++ [⟨none, ⟨op, answer⟩⟩]) := by
  have others (i : ι) : Function.update phase none g (some i) = phase (some i) :=
    Function.update_of_ne (Option.some_ne_none i) ..
  have unmarked : ¬ op.increments = true := by
    rw [increments]
    nofun
  have before := held.broadcasts
  refine ⟨fun i => ?_, ?_, ?_, ?_, ?_⟩
  · cases i with
    | none => rw [Function.update_self, notifier]; rfl
    | some i => rw [others, held.roles]
  · rwa [Function.update_self]
  · cases broadcasts : op.broadcasts with
    | true => exact .inl (Trace.followed_snoc broadcasts unmarked)
    | false =>
      rw [broadcasts] at same
      rw [owed, Function.update_self]
      simp only [others]
      rcases held.covered with covered | marking | later
      · exact .inl (covered.snoc unmarked)
      · exact .inr (.inl marking)
      · exact .inr (.inr (same ▸ later))
  · simp only [owed, Function.update_self, tally_snoc, signals, Bool.toNat_false]
    omega
  · simp only [others, tally_snoc, signals, increments]
    exact held.signals

/-- A step of a change. -/
theorem of_change {β : Type} {op : ChangeOp Peer β} {answer : β} {g : ChangePhase} {i : ι}
    (held : Debounced phase s past) (change : g.of_notifier = false)
    (sole : s'.tools_changed.Sole none (phase none).waits)
    (covered : (∃ j, Function.update phase (some i) g (some j) = .marking) ∨
      0 < s'.tools_changed.signals)
    (broadcasts : op.broadcasts = false)
    (signals : s'.tools_changed.signals ≤ s.tools_changed.signals + op.signals.toNat)
    (marking : ∃ marking : List ι, marking.Nodup ∧
      (∀ j, j ∈ marking ↔ Function.update phase (some i) g (some j) = .marking) ∧
      tally ChangeOp.signals past + op.signals.toNat + marking.length =
        tally ChangeOp.increments past + op.increments.toNat) :
    Debounced (Function.update phase (some i) g) s' (past ++ [⟨some i, ⟨op, answer⟩⟩]) := by
  have notifier : Function.update phase (some i) g none = phase none :=
    Function.update_of_ne (Option.some_ne_none i).symm ..
  refine ⟨fun j => ?_, ?_, ?_, ?_, ?_⟩
  · by_cases same : j = some i
    · rw [same, Function.update_self, change]
      rfl
    · rw [Function.update_of_ne same, held.roles]
  · rwa [notifier]
  · rcases covered with marking | signalled
    · exact .inr (.inl marking)
    · exact .inr (.inr (Nat.add_pos_left signalled _))
  · have before := held.broadcasts
    simp only [owed, notifier, tally_snoc, broadcasts, Bool.toNat_false] at before ⊢
    omega
  · rw [tally_snoc, tally_snoc]
    exact marking

theorem step {β : Type} (op : ChangeOp Peer β) (answer : β) (held : Debounced phase s past)
    (allowed : (changeProtocol Peer).allows (phase i) op) (answered : op.Answers i s answer s') :
    Debounced (Function.update phase i ((changeProtocol Peer).next (phase i) op answer)) s'
      (past ++ [⟨i, ⟨op, answer⟩⟩]) := by
  have here := ChangeOp.phase_of_allows allowed
  have sole := held.sole
  cases answered with
  | fetch_add =>
    obtain ⟨i, rfl⟩ := held.change_of_phase (i := i) (by rw [here]; rfl)
    obtain ⟨marking, nodup, members, counted⟩ := held.signals
    rw [here]
    have other : i ∉ marking := by
      rw [members, here]
      nofun
    refine held.of_change rfl sole (.inl ⟨i, Function.update_self ..⟩) rfl (Nat.le_refl _)
      ⟨i :: marking, List.nodup_cons.mpr ⟨other, nodup⟩, fun j => ?_, ?_⟩
    · rw [List.mem_cons, Function.update_apply, members]
      by_cases same : j = i
      · rw [same, if_pos rfl]
        exact iff_of_true (.inl rfl) rfl
      · rw [if_neg fun some => same (Option.some.inj some)]
        exact or_iff_right same
    · exact congrArg (· + 1) counted
  | notify_one =>
    obtain ⟨i, rfl⟩ := held.change_of_phase (i := i) (by rw [here]; rfl)
    obtain ⟨marking, nodup, members, counted⟩ := held.signals
    obtain ⟨signalled, once⟩ := sole.signals_notify_one
    rw [here]
    have member : i ∈ marking := (members i).mpr here
    refine held.of_change rfl sole.notify_one (.inr signalled) rfl once
      ⟨marking.erase i, nodup.erase i, fun j => ?_, ?_⟩
    · rw [nodup.mem_erase_iff, Function.update_apply, members]
      by_cases same : j = i
      · rw [same, if_pos rfl]
        exact iff_of_false (fun both => both.1 rfl) nofun
      · rw [if_neg fun some => same (Option.some.inj some)]
        exact and_iff_right same
    · have length := List.length_erase_of_mem member
      have positive := List.length_pos_of_mem member
      have one : (.notify_one : ChangeOp Peer _).signals = true := rfl
      have none : (.notify_one : ChangeOp Peer _).increments = false := rfl
      rw [length, one, none, Bool.toNat_true, Bool.toNat_false]
      omega
  | poll_notified =>
    obtain rfl := held.notifier_of_phase (i := i) (by rw [here]; rfl)
    rw [here] at sole ⊢
    obtain ⟨polled, signals⟩ := sole.poll
    cases ready : (s.tools_changed.poll none).1 with
    | true =>
      rw [ready] at polled signals
      refine held.of_notifier (g := .due) rfl rfl rfl polled ?_
      rw [owed, here, signals]
      rfl
    | false =>
      rw [ready] at polled signals
      refine held.of_notifier (g := .waiting) rfl rfl rfl polled ?_
      rw [owed, here, signals]
      rfl
  | resume_notified resumed =>
    obtain rfl := held.notifier_of_phase (i := i) (by rw [here]; rfl)
    rw [here] at sole ⊢
    obtain ⟨resumed, signals⟩ := sole.resume resumed
    refine held.of_notifier (g := .due) rfl rfl rfl resumed ?_
    rw [owed, here, signals]
    rfl
  | sleep =>
    obtain rfl := held.notifier_of_phase (i := i) (by rw [here]; rfl)
    rw [here] at sole ⊢
    refine held.of_notifier (g := .due) rfl rfl rfl sole ?_
    rw [owed, here]
    rfl
  | notifier op =>
    obtain rfl := held.notifier_of_phase (i := i) (by rw [here]; rfl)
    rw [here] at sole ⊢
    refine held.of_notifier (g := .idle) rfl rfl rfl sole ?_
    rw [owed, here]
    rfl
  | broadcast =>
    obtain rfl := held.notifier_of_phase (i := i) (by rw [here]; rfl)
    rw [here] at sole ⊢
    refine held.of_notifier (g := .idle) rfl rfl rfl sole ?_
    rw [owed, here]
    rfl

end Debounced

/-! ## Runs -/

section Runs

variable [DecidableEq ι] {rounds : Nat} {tr : List (PoolEvent (Option ι) (ChangeOp Peer))}
  {q : Pool (Option ι) (ChangeOp Peer) (Changes (Option ι)) Unit}

/-- The invariant holds in every run. -/
theorem ChangeRun.debounced (run : ChangeRun Peer ι rounds tr q) :
    Debounced (Pool.phases (changeProtocol Peer) change_start tr) q.shared tr ∧
      ∀ i, (changeProtocol Peer).Follows (fun _ _ => True)
        (Pool.phases (changeProtocol Peer) change_start tr i) (q.thread i) := by
  apply Pool.Run.invariant run (change_tasks_follow rounds)
  · refine ⟨fun i => ?_, .new none, .inl Trace.followed_nil, Nat.le_refl 0,
      [], List.nodup_nil, fun i => ?_, rfl⟩
    · cases i <;> rfl
    · exact iff_of_false List.not_mem_nil nofun
  · intro phase s s' past i β op answer held allowed answered
    exact held.step op answer allowed answered

/-- A change between its increment and its signal. -/
theorem ChangeRun.marking (run : ChangeRun Peer ι rounds tr q) (i : ι)
    (marking : Pool.phases (changeProtocol Peer) change_start tr (some i) = .marking) :
    q.thread (some i) = perform .notify_one := by
  rw [Pool.phases_eq_after] at marking
  have ran := Pool.Run.project run (some i)
  generalize Pool.project (some i) tr = own at marking ran
  generalize q.thread (some i) = rest at ran
  cases ran with
  | refl => cases marking
  | step _ ran =>
    cases ran with
    | refl => rfl
    | step _ ran =>
      obtain ⟨rfl, -⟩ := ran.of_ret
      cases marking

/-- The notifier waits, or is about to. -/
def NotifierWaits (q : Pool (Option ι) (ChangeOp Peer) (Changes (Option ι)) Unit) : Prop :=
  none ∈ q.shared.tools_changed.waiters ∨
    ∃ rounds, q.thread none = spawn_notifier (rounds + 1)

/-- No change is lost. -/
theorem ChangeRun.all_broadcast (run : ChangeRun Peer ι rounds tr q) (waits : NotifierWaits q)
    (empty : q.shared.tools_changed.permit = false)
    (settled : ∀ i, q.thread (some i) ≠ perform .notify_one) : AllBroadcast tr := by
  obtain ⟨held, follows⟩ := run.debounced
  rcases held.covered with covered | ⟨i, marking⟩ | later
  · exact covered
  · exact absurd (run.marking i marking) (settled i)
  · have nothing : owed (Pool.phases (changeProtocol Peer) change_start tr) q.shared = 0 := by
      have sole := held.sole
      have here := follows none
      rw [owed]
      generalize Pool.phases (changeProtocol Peer) change_start tr none = phase at sole here
      rcases waits with queued | ⟨rounds, about⟩
      · have waiting := sole.waits_of_mem queued
        rw [sole.signals_of_mem queued]
        cases phase <;> first | rfl | cases waiting
      · rw [about] at here
        obtain rfl : phase = .idle := ChangeOp.phase_of_allows here.1
        exact sole.signals_of_idle empty
    rw [nothing] at later
    cases later

/-- Changes coalesce. -/
theorem ChangeRun.broadcasts_le (run : ChangeRun Peer ι rounds tr q) :
    tally ChangeOp.broadcasts tr ≤ tally ChangeOp.increments tr := by
  obtain ⟨held, -⟩ := run.debounced
  obtain ⟨marking, -, -, counted⟩ := held.signals
  have broadcasts := held.broadcasts
  omega

/-- **Debouncing.**  When the notifier waits, no permit is stored and no change is between its
increment and its signal, every increment was followed by the start of a broadcast; and there are
never more broadcasts than changes. -/
theorem changes_are_broadcast (run : ChangeRun Peer ι rounds tr q) :
    (NotifierWaits q → q.shared.tools_changed.permit = false →
      (∀ i, q.thread (some i) ≠ perform .notify_one) → AllBroadcast tr) ∧
    tally ChangeOp.broadcasts tr ≤ tally ChangeOp.increments tr :=
  ⟨run.all_broadcast, run.broadcasts_le⟩

end Runs

/-! ## A round -/

/-- Answers while no peer is registered. -/
def ChangeOp.answer [DecidableEq ι] (i : ι) (s : Changes ι) :
    ∀ {β : Type}, ChangeOp Peer β → Option (β × Changes ι)
  | _, .fetch_add => some (s.tools_epoch, { s with tools_epoch := (s.tools_epoch + 1) % 2 ^ 64 })
  | _, .notify_one => some ((), { s with tools_changed := s.tools_changed.notify_one })
  | _, .poll_notified =>
      some ((s.tools_changed.poll i).1, { s with tools_changed := (s.tools_changed.poll i).2 })
  | _, .resume_notified =>
      (s.tools_changed.resume i).map fun tools_changed => ((), { s with tools_changed })
  | _, .sleep | _, .broadcast | _, .notifier (.set_peers _) => some ((), s)
  | _, .notifier .peers => some ([], s)
  | _, .notifier _ => none

theorem ChangeOp.answers [DecidableEq ι] {i : ι} {s s' : Changes ι} {β : Type}
    {op : ChangeOp Peer β} {answer : β} (answered : op.answer i s = some (answer, s')) :
    op.Answers i s answer s' := by
  cases op with
  | fetch_add | notify_one | poll_notified | sleep | broadcast =>
    cases answered
    constructor
  | resume_notified =>
    obtain ⟨tools_changed, resumed, same⟩ := Option.map_eq_some_iff.mp answered
    cases same
    exact .resume_notified resumed
  | notifier op =>
    cases op with
    | peers | set_peers =>
      cases answered
      constructor
    | _ => cases answered

/-- The notifier waits, hears of a change, broadcasts, and waits again. -/
def one_round : List (PoolEvent (Option Unit) (ChangeOp Unit)) ×
    Pool (Option Unit) (ChangeOp Unit) (Changes (Option Unit)) Unit :=
  Pool.play (fun i s _ op => op.answer i s)
    [none, some (), some (), none, none, none, none, none, none, none]
    ⟨⟨0, .new⟩, change_tasks Unit Unit 2⟩

theorem one_round_run : ChangeRun Unit Unit 2 one_round.1 one_round.2 :=
  Pool.Run.play (fun _ _ _ _ _ _ => ChangeOp.answers) _ _

theorem changes_are_broadcast_one_round :
    AllBroadcast one_round.1 ∧
      tally ChangeOp.broadcasts one_round.1 ≤ tally ChangeOp.increments one_round.1 :=
  ⟨(changes_are_broadcast one_round_run).1 (.inl (List.mem_singleton_self none)) rfl nofun,
    (changes_are_broadcast one_round_run).2⟩

end SessionManager
