import SessionManager.Connection.Phases

/-!
# What the past of a handle says about it

`slot_history` reads the pending table off the steps taken so far: a slot holds
what was last inserted under its id, unless something touched the slot since.
`outbound_history` does the same for the two ends of the outbound channel, and
`drawn_history` and `opened_history` for the counters.
-/

namespace SessionManager

open Json Effect

variable {ι : Type} {h h' : ConnectionHandle} {β : Type}

/-! ## The pending table -/

namespace ConnOp

/-- The sections that decide what the slot of `id` holds. -/
def touches (id : Id) : ∀ {β : Type}, ConnOp β → Prop
  | _, .pending_insert id' _ => id' = id
  | _, .pending_remove id' => id' = id
  | _, .pending_take id' => id' = id
  | _, .pending_drain => True
  | _, _ => False

/-- What a section that touches a slot leaves in it. -/
def leaves : ∀ {β : Type}, ConnOp β → Option Nat
  | _, .pending_insert _ tx => some tx
  | _, _ => none

theorem get_apply_of_touches {op : ConnOp β} {id : Id} (touched : op.touches id) :
    (op.apply h).2.pending.get id = op.leaves := by
  cases op with
  | pending_insert id' tx =>
    cases touched
    exact HashMap.get_insert_self _ _ _
  | pending_remove id' =>
    cases touched
    exact (h.get_remove_slot id id).trans (if_pos rfl)
  | pending_take id' =>
    cases touched
    exact HashMap.get_remove_self _ _
  | pending_drain => exact HashMap.get_empty _
  | _ => exact touched.elim

theorem get_apply_of_not_touches {op : ConnOp β} {id : Id} (quiet : ¬ op.touches id) :
    (op.apply h).2.pending.get id = h.pending.get id := by
  have elsewhere {id' : Id} : ¬ id' = id → ¬ id = id' := Ne.symm
  cases op with
  | pending_insert id' tx => exact (HashMap.get_insert _ _ _ _).trans (if_neg (elsewhere quiet))
  | pending_remove id' => exact (h.get_remove_slot id' id).trans (if_neg (elsewhere quiet))
  | pending_take id' => exact (HashMap.get_remove _ _ _).trans (if_neg (elsewhere quiet))
  | pending_drain => exact (quiet trivial).elim
  | drop_senders txs => exact congrArg (HashMap.get · id) (h.drop_senders_pending txs)
  | outbound_send msg =>
    simp only [apply, ConnectionHandle.send_outbound]
    split_ifs <;> rfl
  | _ => rfl

end ConnOp

/-- Thread `i` inserted `tx` under `id`, and nothing touched the slot since. -/
def SlotFilled (tr : List (PoolEvent ι ConnOp)) (i : ι) (id : Id) (tx : Nat) : Prop :=
  ∃ a b, tr = a ++ ⟨i, ⟨.pending_insert id tx, ()⟩⟩ :: b ∧
    ∀ ev ∈ b, ¬ ev.event.request.touches id

theorem slotFilled_snoc_of_not_touches {tr : List (PoolEvent ι ConnOp)} {i : ι} {id : Id} {tx : Nat}
    {ev : PoolEvent ι ConnOp} (quiet : ¬ ev.event.request.touches id) :
    SlotFilled (tr ++ [ev]) i id tx ↔ SlotFilled tr i id tx := by
  constructor
  · rintro ⟨a, b, same, untouched⟩
    rcases Trace.snoc_eq_split.mp same with ⟨rfl, rfl, rfl⟩ | ⟨b', rfl, rest⟩
    · exact (quiet rfl).elim
    · exact ⟨a, b', rest, fun ev' member => untouched ev' (List.mem_append_left _ member)⟩
  · rintro ⟨a, b, rfl, untouched⟩
    refine ⟨a, b ++ [ev], by rw [List.append_assoc, List.cons_append], fun ev' member => ?_⟩
    rcases List.mem_append.mp member with old | new
    · exact untouched ev' old
    · rwa [List.mem_singleton.mp new]

theorem slotFilled_snoc_of_touches {tr : List (PoolEvent ι ConnOp)} {i : ι} {id : Id} {tx : Nat}
    {ev : PoolEvent ι ConnOp} (touched : ev.event.request.touches id) :
    SlotFilled (tr ++ [ev]) i id tx ↔ ev = ⟨i, ⟨.pending_insert id tx, ()⟩⟩ := by
  constructor
  · rintro ⟨a, b, same, untouched⟩
    rcases Trace.snoc_eq_split.mp same with ⟨rfl, rfl, rfl⟩ | ⟨b', rfl, rest⟩
    · rfl
    · exact (untouched ev (List.mem_append_right _ (List.mem_singleton_self ev)) touched).elim
  · rintro rfl
    exact ⟨tr, [], rfl, fun _ member => absurd member List.not_mem_nil⟩

/-- The slots of a handle are what was last inserted and not touched since. -/
theorem slot_history {tr : List (PoolEvent ι ConnOp)}
    (replay : Pool.Replay connSemantics h tr h') (empty : ∀ id, h.pending.get id = none) (id : Id)
    (tx : Nat) : h'.pending.get id = some tx ↔ ∃ i, SlotFilled tr i id tx := by
  refine replay.history (I := fun h past => h.pending.get id = some tx ↔ ∃ i, SlotFilled past i id tx) ?_ ?_
  · rw [empty]
    constructor
    · intro impossible
      cases impossible
    · rintro ⟨i, a, b, impossible, -⟩
      simp only [List.nil_eq, List.append_eq_nil_iff, reduceCtorEq, and_false] at impossible
  · intro h h' past i β op answer before answered
    have after : h' = (op.apply h).2 := (congrArg Prod.snd answered).symm
    subst after
    by_cases touched : op.touches id
    · rw [ConnOp.get_apply_of_touches touched]
      constructor
      · intro left
        cases op with
        | pending_insert id' tx' =>
          refine ⟨i, (slotFilled_snoc_of_touches touched).mpr ?_⟩
          cases touched
          cases left
          rfl
        | _ => cases left
      · rintro ⟨j, filled⟩
        cases (slotFilled_snoc_of_touches touched).mp filled
        rfl
    · rw [ConnOp.get_apply_of_not_touches touched]
      exact before.trans (exists_congr fun j => (slotFilled_snoc_of_not_touches touched).symm)

/-! ## The outbound channel -/

/-- Both ends of the outbound channel are in place. -/
def ConnectionHandle.accepts (h : ConnectionHandle) : Prop :=
  h.outbound_tx = true ∧ h.writer_open = true

theorem ConnectionHandle.send_outbound_accepted {msg : WireMessage} :
    (h.send_outbound msg).1 = .accepted ↔ h.accepts := by
  unfold send_outbound accepts
  split_ifs with sender writer
  · exact ⟨fun _ => ⟨sender, writer⟩, fun _ => rfl⟩
  · exact ⟨fun impossible => (by cases impossible), fun both => absurd both.2 writer⟩
  · exact ⟨fun impossible => (by cases impossible), fun both => absurd both.1 sender⟩

/-- The sections after which the channel accepts nothing more. -/
def ConnOp.closes : ∀ {β : Type}, ConnOp β → Prop
  | _, .outbound_take => True
  | _, .close_writer => True
  | _, _ => False

theorem ConnOp.accepts_apply {op : ConnOp β} :
    (op.apply h).2.accepts ↔ h.accepts ∧ ¬ op.closes := by
  have kept {h' : ConnectionHandle} (sender : h'.outbound_tx = h.outbound_tx)
      (writer : h'.writer_open = h.writer_open) : h'.accepts ↔ h.accepts ∧ ¬ False := by
    rw [ConnectionHandle.accepts, ConnectionHandle.accepts, sender, writer, not_false_eq_true,
      and_true]
  cases op with
  | pending_insert id tx => exact kept (h.insert_slot_frame id tx).1 (h.insert_slot_frame id tx).2.2.2.1
  | pending_remove id => exact kept (h.remove_slot_frame id).1 (h.remove_slot_frame id).2.2.2.1
  | drop_senders txs => exact kept (h.drop_senders_frame txs).1 (h.drop_senders_frame txs).2.2.2.1
  | outbound_send msg =>
    refine Iff.trans ?_ (and_iff_left not_false).symm
    simp only [apply, ConnectionHandle.send_outbound]
    split_ifs <;> exact Iff.rfl
  | outbound_take =>
    exact ⟨fun both => absurd both.1 Bool.false_ne_true, fun both => absurd trivial both.2⟩
  | close_writer =>
    exact ⟨fun both => absurd both.2 Bool.false_ne_true, fun both => absurd trivial both.2⟩
  | _ => exact kept rfl rfl

/-- The channel accepts messages until one of its ends was taken away. -/
theorem outbound_history {tr : List (PoolEvent ι ConnOp)}
    (replay : Pool.Replay connSemantics h tr h') (opened : h.accepts) :
    h'.accepts ↔ ∀ ev ∈ tr, ¬ ev.event.request.closes := by
  refine replay.history (I := fun h past => h.accepts ↔ ∀ ev ∈ past, ¬ ev.event.request.closes) ?_ ?_
  · exact ⟨fun _ _ member => absurd member List.not_mem_nil, fun _ => opened⟩
  · intro h h' past i β op answer before answered
    have after : h' = (op.apply h).2 := (congrArg Prod.snd answered).symm
    subst after
    simp only [ConnOp.accepts_apply, List.forall_mem_append, List.forall_mem_singleton]
    exact and_congr_left fun _ => before

/-! ## Request numbers and channels -/

namespace ConnOp

/-- The request number a section draws. -/
def drawn : ∀ {β : Type}, ConnOp β → β → Option Nat
  | _, .fetch_add_id, n => some n
  | _, _, _ => none

/-- The channel a section opens. -/
def opened : ∀ {β : Type}, ConnOp β → β → Option Nat
  | _, .oneshot_channel, rx => some rx
  | _, _, _ => none

/-- A section draws the next number or leaves the counter alone. -/
theorem drawn_apply (op : ConnOp β) :
    (op.drawn (op.apply h).1 = some h.next_id ∧ (op.apply h).2.next_id = (h.next_id + 1) % 2 ^ 64) ∨
      (op.drawn (op.apply h).1 = none ∧ (op.apply h).2.next_id = h.next_id) := by
  cases op with
  | fetch_add_id => exact .inl ⟨rfl, rfl⟩
  | pending_insert id tx => exact .inr ⟨rfl, (h.insert_slot_frame id tx).2.1⟩
  | pending_remove id => exact .inr ⟨rfl, (h.remove_slot_frame id).2.1⟩
  | drop_senders txs => exact .inr ⟨rfl, (h.drop_senders_frame txs).2.1⟩
  | outbound_send msg =>
    refine .inr ⟨rfl, ?_⟩
    simp only [apply, ConnectionHandle.send_outbound]
    split_ifs <;> rfl
  | _ => exact .inr ⟨rfl, rfl⟩

/-- A section opens the next channel or allocates nothing. -/
theorem opened_apply (op : ConnOp β) :
    (op.opened (op.apply h).1 = some h.oneshots.next ∧
        (op.apply h).2.oneshots = h.oneshots.alloc .new) ∨
      (op.opened (op.apply h).1 = none ∧ (op.apply h).2.oneshots.next = h.oneshots.next) := by
  cases op with
  | oneshot_channel => exact .inl ⟨rfl, rfl⟩
  | pending_insert id tx => exact .inr ⟨rfl, h.remove_slot_next id⟩
  | pending_remove id => exact .inr ⟨rfl, h.remove_slot_next id⟩
  | drop_senders txs => exact .inr ⟨rfl, h.drop_senders_next txs⟩
  | outbound_send msg =>
    refine .inr ⟨rfl, ?_⟩
    simp only [apply, ConnectionHandle.send_outbound]
    split_ifs <;> rfl
  | _ => exact .inr ⟨rfl, rfl⟩

end ConnOp

/-- The request numbers drawn during a run, oldest first. -/
def drawn (tr : List (PoolEvent ι ConnOp)) : List Nat :=
  tr.filterMap fun ev => ev.event.request.drawn ev.event.answer

/-- The channels opened during a run, oldest first. -/
def opened (tr : List (PoolEvent ι ConnOp)) : List Nat :=
  tr.filterMap fun ev => ev.event.request.opened ev.event.answer

/-- The counter hands out its values in order, until it wraps around. -/
theorem drawn_history {tr : List (PoolEvent ι ConnOp)}
    (replay : Pool.Replay connSemantics h tr h') (fresh : h.next_id = 0) :
    h'.next_id = (drawn tr).length % 2 ^ 64 ∧
      ((drawn tr).length ≤ 2 ^ 64 → drawn tr = List.range (drawn tr).length) := by
  refine replay.history (I := fun h past => h.next_id = (drawn past).length % 2 ^ 64 ∧
    ((drawn past).length ≤ 2 ^ 64 → drawn past = List.range (drawn past).length)) ?_ ?_
  · exact ⟨fresh, fun _ => rfl⟩
  · rintro h h' past i β op answer ⟨counter, range⟩ answered
    obtain ⟨rfl, rfl⟩ : (op.apply h).1 = answer ∧ (op.apply h).2 = h' :=
      ⟨congrArg Prod.fst answered, congrArg Prod.snd answered⟩
    have split : drawn (past ++ [⟨i, ⟨op, (op.apply h).1⟩⟩]) =
        drawn past ++ (op.drawn (op.apply h).1).toList := by
      simp only [drawn, List.filterMap_append, List.filterMap_cons, List.filterMap_nil]
      cases op.drawn (op.apply h).1 <;> rfl
    rcases op.drawn_apply (h := h) with ⟨draw, next⟩ | ⟨none, next⟩
    · rw [split, draw, next]
      simp only [Option.toList_some, List.length_append, List.length_singleton]
      refine ⟨by rw [counter, Nat.mod_add_mod], fun few => ?_⟩
      rw [List.range_succ, ← range (Nat.le_of_succ_le few), counter,
        Nat.mod_eq_of_lt (Nat.lt_of_succ_le few)]
    · rw [split, none, next, Option.toList_none, List.append_nil]
      exact ⟨counter, range⟩

/-- Channels are allocated in order. -/
theorem opened_history {tr : List (PoolEvent ι ConnOp)}
    (replay : Pool.Replay connSemantics h tr h') (fresh : h.oneshots.next = 0) :
    opened tr = List.range h'.oneshots.next := by
  refine replay.history (I := fun h past => opened past = List.range h.oneshots.next) ?_ ?_
  · rw [fresh]
    rfl
  · intro h h' past i β op answer range answered
    obtain ⟨rfl, rfl⟩ : (op.apply h).1 = answer ∧ (op.apply h).2 = h' :=
      ⟨congrArg Prod.fst answered, congrArg Prod.snd answered⟩
    have split : opened (past ++ [⟨i, ⟨op, (op.apply h).1⟩⟩]) =
        opened past ++ (op.opened (op.apply h).1).toList := by
      simp only [opened, List.filterMap_append, List.filterMap_cons, List.filterMap_nil]
      cases op.opened (op.apply h).1 <;> rfl
    rcases op.opened_apply (h := h) with ⟨opens, grown⟩ | ⟨none, next⟩
    · rw [split, opens, grown, Arena.next_alloc, List.range_succ, range]
      rfl
    · rw [split, none, next, Option.toList_none, List.append_nil, range]

end SessionManager
