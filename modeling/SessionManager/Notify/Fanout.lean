import SessionManager.Notify

/-!
# Who hears of a change

`register_peer` keeps a weak handle to an `Arc` that ends with it, so that no handle leads to a
peer when a broadcast comes: a broadcast reaches the peers that were registered exactly if none
of them is left (`fans_out_iff`).
-/

namespace SessionManager

open Effect

open Prog (perform)

variable {Peer : Type} [DecidableEq Peer]

namespace ToolsListChangedNotifier

open NotifierState

section Programs

variable {st : NotifierState Peer}

/-- The handles that lead to a peer. -/
def live (heap : Heap Peer) (w : Weak) : Bool := (heap.get w).isSome

theorem eval_is_live (w : Weak) : (is_live w).eval run st = (live st.heap w, st) := by
  rw [is_live, Prog.eval_perform, live]
  cases there : st.heap.get w with
  | none =>
    simp only [run, Heap.upgrade_of_none there]
    rfl
  | some peer =>
    obtain ⟨heap, upgraded, dropped⟩ := Heap.upgrade_of_some there
    simp only [run, upgraded, Prog.eval_perform, dropped]
    rfl

theorem eval_retain_live (ws : List Weak) :
    (retain_live ws).eval run st = (ws.filter (live st.heap), st) := by
  induction ws with
  | nil => rfl
  | cons w rest ih =>
    rw [retain_live, Prog.eval_bind, eval_is_live, Prog.eval_bind, ih, List.filter_cons]
    rfl

/-- No handle is a handle to an allocation that none of them has the address of. -/
theorem eval_holds (new_arc : Arc Peer) (ws : List Weak) (other : new_arc.address ∉ ws) :
    (holds new_arc ws).eval run st = (false, st) := by
  induction ws with
  | nil => rfl
  | cons w rest ih =>
    have later : new_arc.address ∉ rest := fun member => other (List.mem_cons_of_mem w member)
    rw [holds, Prog.eval_perform]
    cases there : st.heap.get w with
    | none =>
      simp only [run, Heap.upgrade_of_none there]
      exact ih later
    | some peer =>
      obtain ⟨heap, upgraded, dropped⟩ := Heap.upgrade_of_some there
      have differ : (⟨w, peer⟩ : Arc Peer).ptr_eq new_arc = false := by
        rw [Arc.ptr_eq, beq_eq_false_iff_ne]
        intro same
        exact other (same ▸ List.mem_cons_self ..)
      simp only [run, upgraded, Prog.eval_perform, dropped, differ]
      exact ih later

/-- The peers that handles lead to, if their session is alive. -/
def recipients (st : NotifierState Peer) (ws : List Weak) : List Peer :=
  (ws.filterMap st.heap.get).filter fun peer => peer ∉ st.ended

/-- Whoever a handle leads to is sent one notification for it, if its session is alive. -/
theorem eval_notify_all (ws : List Weak) (st : NotifierState Peer) :
    ((notify_all ws).eval run st).2 = { st with sent := st.sent ++ recipients st ws } := by
  induction ws generalizing st with
  | nil =>
    have none : recipients st [] = [] := rfl
    rw [none, List.append_nil]
    rfl
  | cons w rest ih =>
    rw [notify_all, Prog.eval_perform]
    cases there : st.heap.get w with
    | none =>
      have same : recipients st (w :: rest) = recipients st rest := by
        rw [recipients, List.filterMap_cons_none there]
        rfl
      simp only [run, Heap.upgrade_of_none there]
      rw [ih, same]
    | some peer =>
      obtain ⟨heap, upgraded, dropped⟩ := Heap.upgrade_of_some there
      simp only [run, upgraded, Prog.eval_perform]
      by_cases ended : peer ∈ st.ended
      · have same : recipients st (w :: rest) = recipients st rest := by
          rw [recipients, List.filterMap_cons_some there,
            List.filter_cons_of_neg (by simpa using ended)]
          rfl
        simp only [if_pos ended, dropped, Prog.eval_bind]
        rw [same]
        exact ih st
      · have more : recipients st (w :: rest) = peer :: recipients st rest := by
          rw [recipients, List.filterMap_cons_some there,
            List.filter_cons_of_pos (by simpa using ended)]
          rfl
        simp only [if_neg ended, dropped, Prog.eval_bind]
        apply (ih { st with sent := st.sent ++ [peer] }).trans
        rw [more, List.append_cons st.sent peer (recipients st rest)]
        rfl

/-- A broadcast notifies the recipients and forgets the handles that lead nowhere. -/
theorem eval_broadcast (st : NotifierState Peer) : (broadcast.eval run st).2 =
    { st with
      sent := st.sent ++ recipients st st.peers
      peers := st.peers.filter (live st.heap) } := by
  rw [broadcast, Prog.eval_perform]
  simp only [run, Prog.eval_bind, eval_notify_all, Prog.eval_one, eval_retain_live]
  rfl

/-- A registration files a handle to an allocation that is dropped. -/
theorem eval_register_peer (peer : Peer) (st : NotifierState Peer)
    (allocated : ∀ w ∈ st.peers, w < st.heap.next) : ((register_peer peer).eval run st).2 =
      { st with
        heap := (st.heap.alloc peer).2.drop (st.heap.alloc peer).1
        peers := st.peers.filter (live st.heap) ++ [st.heap.next] } := by
  have still : st.peers.filter (live (st.heap.alloc peer).2) = st.peers.filter (live st.heap) := by
    apply List.filter_congr
    intro w member
    rw [live, live, Heap.get_alloc_of_lt (allocated w member)]
  have other : (st.heap.alloc peer).1.address ∉ st.peers.filter (live st.heap) := by
    intro member
    exact Nat.lt_irrefl _ (allocated _ (List.mem_filter.mp member).1)
  rw [register_peer, Prog.eval_perform]
  simp only [run, Prog.eval_bind, Prog.eval_one, eval_retain_live, still, eval_holds _ _ other]
  rfl

end Programs

end ToolsListChangedNotifier

/-! ## Sequences of calls -/

/-- What happens to the notifier. -/
inductive NotifierCall (Peer : Type)
  | register_peer (peer : Peer)
  | end_session (peer : Peer)
  | broadcast

open ToolsListChangedNotifier

/-- The state after a call. -/
def NotifierState.call (st : NotifierState Peer) : NotifierCall Peer → NotifierState Peer
  | .register_peer peer => ((register_peer peer).eval run st).2
  | .end_session peer => { st with ended := peer :: st.ended }
  | .broadcast => (broadcast.eval run st).2

def NotifierState.calls (calls : List (NotifierCall Peer)) : NotifierState Peer :=
  calls.foldl call .new

/-- What the next broadcast sends. -/
def NotifierState.sends (st : NotifierState Peer) : List Peer :=
  ((st.call .broadcast).sent).drop st.sent.length

/-- The peers that were registered, and whose session is alive. -/
def Listening (calls : List (NotifierCall Peer)) (peer : Peer) : Prop :=
  .register_peer peer ∈ calls ∧ .end_session peer ∉ calls

/-- Each broadcast sends one notification to every peer registered before it, if its session is
alive. -/
def FansOut (calls : List (NotifierCall Peer)) : Prop :=
  ∀ before after, calls = before ++ .broadcast :: after →
    ∀ peer, Listening before peer → (NotifierState.calls before).sends.count peer = 1

namespace NotifierState

variable {st : NotifierState Peer}

/-- No handle leads anywhere. -/
structure Forgotten (st : NotifierState Peer) : Prop where
  dropped : ∀ p, st.heap.strong p = 0
  allocated : ∀ w ∈ st.peers, w < st.heap.next

theorem Forgotten.call (forgotten : Forgotten st) (call : NotifierCall Peer) :
    Forgotten (st.call call) := by
  cases call with
  | register_peer peer =>
    rw [NotifierState.call, eval_register_peer peer st forgotten.allocated]
    constructor
    · intro p
      rw [Heap.strong_drop_alloc, forgotten.dropped, ite_self]
    · intro w member
      rcases List.mem_append.mp member with old | new
      · exact Nat.lt_succ_of_lt (forgotten.allocated w (List.mem_filter.mp old).1)
      · rw [List.mem_singleton.mp new]
        exact Nat.lt_succ_self _
  | end_session peer => exact ⟨forgotten.dropped, forgotten.allocated⟩
  | broadcast =>
    rw [NotifierState.call, eval_broadcast]
    exact ⟨forgotten.dropped, fun w member =>
      forgotten.allocated w (List.mem_filter.mp member).1⟩

theorem forgotten_calls (calls : List (NotifierCall Peer)) : Forgotten (NotifierState.calls calls) := by
  have kept (st : NotifierState Peer) (forgotten : Forgotten st) :
      Forgotten (calls.foldl NotifierState.call st) := by
    induction calls generalizing st with
    | nil => exact forgotten
    | cons call calls ih => exact ih _ (forgotten.call call)
  exact kept .new ⟨fun _ => rfl, fun _ member => (List.not_mem_nil member).elim⟩

theorem Forgotten.sends (forgotten : Forgotten st) : st.sends = [] := by
  have nowhere : st.peers.filterMap st.heap.get = [] := by
    apply List.filterMap_eq_nil_iff.mpr
    intro w _
    exact Heap.get_of_strong (forgotten.dropped w)
  rw [NotifierState.sends, NotifierState.call, eval_broadcast, recipients, nowhere, List.filter_nil,
    List.append_nil, List.drop_length]

end NotifierState

/-- **Fan-out.**  Every broadcast reaches whom it should exactly if, whenever one comes, no peer
that was registered has a session that is alive. -/
theorem fans_out_iff (calls : List (NotifierCall Peer)) : FansOut calls ↔
    ∀ before after, calls = before ++ .broadcast :: after → ∀ peer, ¬ Listening before peer := by
  constructor
  · intro fans before after split peer registered
    have one := fans before after split peer registered
    rw [(NotifierState.forgotten_calls before).sends] at one
    cases one
  · intro none before after split peer registered
    exact (none before after split peer registered).elim

/-- One agent lists the tools; they change, and it is not told. -/
theorem broadcast_misses_a_peer :
    ¬ FansOut [.register_peer "agent", .broadcast] := by
  intro fans
  have one := fans [.register_peer "agent"] [] rfl "agent" ⟨List.mem_cons_self .., by simp⟩
  cases one

end SessionManager
