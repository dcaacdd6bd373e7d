import SessionManager.Connection.History

/-!
# One-shot senders are linear

A sender sits in a slot, with the call that opened the channel, with the task that took it
out of its slot, or with the drain that emptied the table; it is never in two of these
places, and it is dropped or used when it leaves the last one.  A sender that is somewhere
has not been used.
-/

namespace SessionManager

open Json Effect

variable {ι : Type} {h h' : ConnectionHandle} {β : Type}

/-- The senders a task holds between two sections. -/
def ConnPhase.has : ConnPhase → Nat → Prop
  | .opened _ _ _ rx, tx => rx = tx
  | .taken _ tx', tx => tx' = tx
  | .emptied txs, tx => tx ∈ txs
  | _, _ => False

/-- Where a one-shot sender can be. -/
inductive Place (ι : Type)
  | thread (i : ι)
  | slot (id : Id)
  deriving DecidableEq

def Place.holds (phase : ι → ConnPhase) (h : ConnectionHandle) (tx : Nat) : Place ι → Prop
  | .thread i => (phase i).has tx
  | .slot id => h.pending.get id = some tx

def ConnOp.sends (tx : Nat) : ∀ {β : Type}, ConnOp β → Prop
  | _, .oneshot_send tx' _ => tx' = tx
  | _, _ => False

namespace ConnectionHandle

/-- The sender has been neither used nor dropped. -/
def unspent (h : ConnectionHandle) (tx : Nat) : Prop :=
  (h.oneshots.cell tx).sender = true ∧ (h.oneshots.cell tx).value = none

theorem remove_slot_unspent (h : ConnectionHandle) (id : Id) (tx : Nat) :
    (h.remove_slot id).unspent tx ↔ h.unspent tx ∧ h.pending.get id ≠ some tx := by
  rw [unspent, remove_slot_sender, remove_slot_value, and_right_comm]
  rfl

theorem drop_senders_unspent (h : ConnectionHandle) (txs : List Nat) (tx : Nat) :
    (txs.foldl drop_sender h).unspent tx ↔ h.unspent tx ∧ tx ∉ txs := by
  rw [unspent, drop_senders_sender, drop_senders_value, and_right_comm]
  rfl

end ConnectionHandle

/-- Senders are linear: each is in one place at most, where it waits unused, and the channel
of a sender that was used or dropped is finished. -/
structure SendersPlaced (phase : ι → ConnPhase) (h : ConnectionHandle)
    (past : List (PoolEvent ι ConnOp)) : Prop where
  allocated : ∀ {tx : Nat} {place : Place ι}, place.holds phase h tx → tx < h.oneshots.next
  unique : ∀ {tx : Nat} {place place' : Place ι}, place.holds phase h tx →
    place'.holds phase h tx → place = place'
  unused : ∀ {tx : Nat} {place : Place ι}, place.holds phase h tx → h.unspent tx
  alive : ∀ tx < h.oneshots.next, (h.oneshots.cell tx).sender = true →
    ∃ place : Place ι, place.holds phase h tx
  used : ∀ ev ∈ past, ∀ tx, ev.event.request.sends tx →
    tx < h.oneshots.next ∧ ∀ place : Place ι, ¬ place.holds phase h tx
  once : past.Pairwise fun ev ev' =>
    ∀ tx, ev.event.request.sends tx → ¬ ev'.event.request.sends tx

/-- A step that allocates nothing moves senders along `f`, or loses them. -/
structure SendersMoved (f : Place ι → Place ι) (phase phase' : ι → ConnPhase)
    (h h' : ConnectionHandle) : Prop where
  next : h'.oneshots.next = h.oneshots.next
  came : ∀ {tx : Nat} {place' : Place ι}, place'.holds phase' h' tx →
    ∃ place : Place ι, place.holds phase h tx ∧ place' = f place
  went : ∀ {tx : Nat} {place : Place ι}, place.holds phase h tx →
    (h'.oneshots.cell tx).sender = true → (f place).holds phase' h' tx
  kept : ∀ {tx : Nat} {place' : Place ι}, place'.holds phase' h' tx → h.unspent tx → h'.unspent tx
  died : ∀ tx, (h'.oneshots.cell tx).sender = true → (h.oneshots.cell tx).sender = true

/-- Moving senders keeps them linear; a sender that is used must leave its place. -/
theorem SendersPlaced.moved {f : Place ι → Place ι} {phase phase' : ι → ConnPhase}
    {past : List (PoolEvent ι ConnOp)} {ev : PoolEvent ι ConnOp}
    (held : SendersPlaced phase h past) (moved : SendersMoved f phase phase' h h')
    (spent : ∀ tx, ev.event.request.sends tx → (∃ place : Place ι, place.holds phase h tx) ∧
      ∀ place : Place ι, ¬ place.holds phase' h' tx) :
    SendersPlaced phase' h' (past ++ [ev]) where
  allocated holds := by
    obtain ⟨place, before, -⟩ := moved.came holds
    rw [moved.next]
    exact held.allocated before
  unique holds holds' := by
    obtain ⟨place, before, rfl⟩ := moved.came holds
    obtain ⟨place', before', rfl⟩ := moved.came holds'
    rw [held.unique before before']
  unused holds := by
    obtain ⟨place, before, -⟩ := moved.came holds
    exact moved.kept holds (held.unused before)
  alive tx bound sender := by
    rw [moved.next] at bound
    obtain ⟨place, before⟩ := held.alive tx bound (moved.died tx sender)
    exact ⟨f place, moved.went before sender⟩
  used ev' member tx sends := by
    rw [moved.next]
    rcases List.mem_append.mp member with old | new
    · obtain ⟨bound, nowhere⟩ := held.used ev' old tx sends
      refine ⟨bound, fun place' holds => ?_⟩
      obtain ⟨place, before, -⟩ := moved.came holds
      exact nowhere place before
    · cases List.mem_singleton.mp new
      obtain ⟨⟨place, before⟩, nowhere⟩ := spent tx sends
      exact ⟨held.allocated before, nowhere⟩
  once := by
    refine List.pairwise_append.mpr ⟨held.once, List.pairwise_singleton _ _, ?_⟩
    intro ev' old ev'' new tx sends sends'
    cases List.mem_singleton.mp new
    obtain ⟨⟨place, before⟩, -⟩ := spent tx sends'
    exact (held.used ev' old tx sends).2 place before

/-- Opening a channel puts its sender with the task that opened it. -/
theorem SendersPlaced.opened [DecidableEq ι] {phase : ι → ConnPhase}
    {past : List (PoolEvent ι ConnOp)} {i : ι} {method : String} {params : Value} {n : Nat}
    {ev : PoolEvent ι ConnOp} (held : SendersPlaced phase h past)
    (numbered : phase i = .numbered method params n)
    (quiet : ∀ tx, ¬ ev.event.request.sends tx) :
    SendersPlaced (Function.update phase i (.opened method params n h.oneshots.next))
      { h with oneshots := h.oneshots.alloc .new } (past ++ [ev]) := by
  have moves {tx : Nat} {place : Place ι} :
      place.holds (Function.update phase i (.opened method params n h.oneshots.next))
        { h with oneshots := h.oneshots.alloc .new } tx ↔
      place.holds phase h tx ∨ (place = .thread i ∧ tx = h.oneshots.next) := by
    cases place with
    | slot id =>
      simp only [Place.holds, reduceCtorEq, false_and, or_false]
    | thread j =>
      by_cases same : j = i
      · subst same
        simp only [Place.holds, Function.update_self, numbered, ConnPhase.has, false_or, true_and,
          eq_comm]
      · simp only [Place.holds, Function.update_of_ne same, Place.thread.injEq, same, false_and,
          or_false]
  refine ⟨fun holds => ?_, fun holds holds' => ?_, fun {tx _} holds => ?_, fun tx bound sender => ?_,
    ?_, ?_⟩
  · rw [Arena.next_alloc]
    rcases moves.mp holds with before | ⟨-, rfl⟩
    · exact Nat.lt_succ_of_lt (held.allocated before)
    · exact Nat.lt_succ_self _
  · rcases moves.mp holds with before | ⟨rfl, rfl⟩ <;>
      rcases moves.mp holds' with before' | ⟨rfl, same⟩
    · exact held.unique before before'
    · exact absurd (held.allocated before) (same ▸ Nat.lt_irrefl _)
    · exact absurd (held.allocated before') (Nat.lt_irrefl _)
    · rfl
  · rw [ConnectionHandle.unspent, Arena.cell_alloc]
    rcases moves.mp holds with before | ⟨-, new⟩
    · rw [if_neg (Nat.ne_of_lt (held.allocated before))]
      exact held.unused before
    · rw [if_pos new]
      exact ⟨rfl, rfl⟩
  · rw [Arena.cell_alloc] at sender
    by_cases new : tx = h.oneshots.next
    · exact ⟨.thread i, moves.mpr (.inr ⟨rfl, new⟩)⟩
    · rw [if_neg new] at sender
      obtain ⟨place, before⟩ := held.alive tx (Nat.lt_of_le_of_ne (Nat.le_of_lt_succ bound) new) sender
      exact ⟨place, moves.mpr (.inl before)⟩
  · intro ev' member tx sends
    rcases List.mem_append.mp member with old | new
    · obtain ⟨bound, nowhere⟩ := held.used ev' old tx sends
      refine ⟨Nat.lt_succ_of_lt bound, fun place holds => ?_⟩
      rcases moves.mp holds with before | ⟨-, rfl⟩
      · exact nowhere place before
      · exact absurd bound (Nat.lt_irrefl _)
    · cases List.mem_singleton.mp new
      exact absurd sends (quiet tx)
  · refine List.pairwise_append.mpr ⟨held.once, List.pairwise_singleton _ _, ?_⟩
    intro ev' old ev'' new tx sends sends'
    cases List.mem_singleton.mp new
    exact quiet tx sends'

/-- A step after which the task holds no sender moves none: it drops what it held. -/
theorem SendersMoved.stay [DecidableEq ι] {phase : ι → ConnPhase} {i : ι} {g : ConnPhase}
    (before : ∀ tx, (phase i).has tx → ¬ (h'.oneshots.cell tx).sender = true)
    (after : ∀ tx, ¬ g.has tx)
    (next : h'.oneshots.next = h.oneshots.next)
    (died : ∀ tx, (h'.oneshots.cell tx).sender = true → (h.oneshots.cell tx).sender = true)
    (came : ∀ {id tx}, h'.pending.get id = some tx → h.pending.get id = some tx)
    (went : ∀ {id tx}, h.pending.get id = some tx → (h'.oneshots.cell tx).sender = true →
      h'.pending.get id = some tx)
    (kept : ∀ {tx : Nat} {place : Place ι}, place.holds phase h tx →
      place.holds (Function.update phase i g) h' tx → h.unspent tx → h'.unspent tx) :
    SendersMoved id phase (Function.update phase i g) h h' := by
  have stays {tx : Nat} {place : Place ι} (holds : place.holds (Function.update phase i g) h' tx) :
      place.holds phase h tx := by
    cases place with
    | slot id => exact came holds
    | thread j =>
      by_cases same : j = i
      · subst same
        rw [Place.holds, Function.update_self] at holds
        exact absurd holds (after tx)
      · rwa [Place.holds, Function.update_of_ne same] at holds
  refine ⟨next, fun {tx place} holds => ⟨place, stays holds, rfl⟩, fun {tx place} holds sender => ?_,
    fun holds => kept (stays holds) holds, died⟩
  cases place with
  | slot id => exact went holds sender
  | thread j =>
    by_cases same : j = i
    · subst same
      exact absurd sender (before tx holds)
    · rwa [id, Place.holds, Function.update_of_ne same]

/-- The slot that is filled takes the sender over from the task. -/
theorem SendersMoved.insert [DecidableEq ι] {phase : ι → ConnPhase} {i : ι} {method : String}
    {params : Value} {n tx : Nat} {id : Id} {past : List (PoolEvent ι ConnOp)}
    (held : SendersPlaced phase h past) (opened : phase i = .opened method params n tx) :
    SendersMoved (fun place => if place = .thread i then .slot id else place) phase
      (Function.update phase i (.inserted method params n tx)) h (h.insert_slot id tx) where
  next := h.remove_slot_next id
  died tx' sender := ((h.remove_slot_sender id tx').mp sender).1
  kept {tx' place'} holds unspent := by
    refine (h.remove_slot_unspent id tx').mpr ⟨unspent, fun slot => ?_⟩
    have old : (Place.slot id).holds phase h tx' := slot
    cases place' with
    | slot id' =>
      rw [Place.holds, ConnectionHandle.insert_slot_pending, HashMap.get_insert] at holds
      split at holds
      · cases holds
        have mine : (Place.thread i).holds phase h tx := by
          rw [Place.holds, opened]
          rfl
        cases held.unique old mine
      · rename_i differ
        have other : (Place.slot id' : Place ι).holds phase h tx' := holds
        exact differ (Place.slot.inj (held.unique other old))
    | thread j =>
      rw [Place.holds, Function.update_apply] at holds
      split at holds
      · exact holds
      · have other : (Place.thread j).holds phase h tx' := holds
        cases held.unique other old
  came {tx' place'} holds := by
    cases place' with
    | slot id' =>
      rw [Place.holds, ConnectionHandle.insert_slot_pending, HashMap.get_insert] at holds
      split at holds
      · rename_i same
        refine ⟨.thread i, ?_, by rw [if_pos rfl, same]⟩
        rw [Place.holds, opened]
        exact Option.some.inj holds
      · exact ⟨.slot id', holds, (if_neg fun same => by cases same).symm⟩
    | thread j =>
      by_cases same : j = i
      · subst same
        rw [Place.holds, Function.update_self] at holds
        exact holds.elim
      · rw [Place.holds, Function.update_of_ne same] at holds
        exact ⟨.thread j, holds, (if_neg fun again => same (Place.thread.inj again)).symm⟩
  went {tx' place} holds sender := by
    cases place with
    | slot id' =>
      have differ : (Place.slot id' : Place ι) ≠ .thread i := fun same => by cases same
      rw [if_neg differ, Place.holds, ConnectionHandle.insert_slot_pending, HashMap.get_insert]
      split
      · rename_i same
        subst same
        exact absurd holds ((h.remove_slot_sender _ tx').mp sender).2
      · exact holds
    | thread j =>
      by_cases same : j = i
      · subst same
        rw [Place.holds, opened] at holds
        rw [if_pos rfl, Place.holds, ConnectionHandle.insert_slot_pending,
          HashMap.get_insert_self, holds]
      · rwa [if_neg fun again => same (Place.thread.inj again), Place.holds,
          Function.update_of_ne same]

/-- A sender taken out of its slot is with the task that took it. -/
theorem SendersMoved.take [DecidableEq ι] {phase : ι → ConnPhase} {i : ι} {result : RpcResult}
    {tx : Nat} {id : Id} (idle : ∀ tx, ¬ (phase i).has tx) (found : h.pending.get id = some tx) :
    SendersMoved (fun place => if place = .slot id then .thread i else place) phase
      (Function.update phase i (.taken result tx)) h
      { h with pending := h.pending.remove id } where
  next := rfl
  died _ sender := sender
  kept _ unspent := unspent
  came {tx' place'} holds := by
    cases place' with
    | slot id' =>
      rw [Place.holds, HashMap.get_remove] at holds
      split at holds
      · cases holds
      · rename_i differ
        exact ⟨.slot id', holds, (if_neg fun again => differ (Place.slot.inj again)).symm⟩
    | thread j =>
      by_cases same : j = i
      · subst same
        rw [Place.holds, Function.update_self] at holds
        cases holds
        exact ⟨.slot id, found, (if_pos rfl).symm⟩
      · rw [Place.holds, Function.update_of_ne same] at holds
        exact ⟨.thread j, holds, (if_neg fun same => by cases same).symm⟩
  went {tx' place} holds _ := by
    cases place with
    | slot id' =>
      by_cases same : id' = id
      · subst same
        rw [if_pos rfl, Place.holds, Function.update_self]
        exact Option.some.inj (found.symm.trans holds)
      · rw [if_neg fun again => same (Place.slot.inj again), Place.holds, HashMap.get_remove,
          if_neg same]
        exact holds
    | thread j =>
      have other : j ≠ i := fun same => idle tx' (same ▸ holds)
      have differ : Place.thread j ≠ .slot id := fun same => by cases same
      rwa [if_neg differ, Place.holds, Function.update_of_ne other]

/-- Emptying the table moves the senders of all slots to the draining task. -/
theorem SendersMoved.drain [DecidableEq ι] {phase : ι → ConnPhase} {i : ι}
    (idle : ∀ tx, ¬ (phase i).has tx) :
    SendersMoved (fun | .slot _ => .thread i | place => place) phase
      (Function.update phase i (.emptied h.pending.values)) h { h with pending := .empty } where
  next := rfl
  died _ sender := sender
  kept _ unspent := unspent
  came {tx place'} holds := by
    cases place' with
    | slot id =>
      rw [Place.holds, HashMap.get_empty] at holds
      cases holds
    | thread j =>
      by_cases same : j = i
      · subst same
        rw [Place.holds, Function.update_self] at holds
        obtain ⟨id, found⟩ := HashMap.mem_values.mp holds
        exact ⟨.slot id, found, rfl⟩
      · rw [Place.holds, Function.update_of_ne same] at holds
        exact ⟨.thread j, holds, rfl⟩
  went {tx place} holds _ := by
    cases place with
    | slot id =>
      rw [Place.holds, Function.update_self]
      exact HashMap.mem_values.mpr ⟨id, holds⟩
    | thread j =>
      have other : j ≠ i := fun same => idle tx (same ▸ holds)
      rwa [Place.holds, Function.update_of_ne other]

/-- The sections that leave slots and one-shot channels alone. -/
def ConnOp.inert : ∀ {β : Type}, ConnOp β → Prop
  | _, .load_state | _, .store_disconnected | _, .fetch_add_id | _, .outbound_send _
  | _, .outbound_take | _, .close_writer => True
  | _, _ => False

theorem ConnOp.apply_of_inert {op : ConnOp β} (inert : op.inert) :
    (op.apply h).2.pending = h.pending ∧ (op.apply h).2.oneshots = h.oneshots := by
  cases op with
  | outbound_send msg =>
    simp only [apply, ConnectionHandle.send_outbound]
    split_ifs <;> exact ⟨rfl, rfl⟩
  | load_state | store_disconnected | fetch_add_id | outbound_take | close_writer => exact ⟨rfl, rfl⟩
  | _ => exact inert.elim

/-- No task holds a sender before or after an inert section. -/
theorem ConnPhase.has_of_inert {g : ConnPhase} {op : ConnOp β} (inert : op.inert)
    (allowed : connProtocol.allows g op) :
    (∀ tx, ¬ g.has tx) ∧ ∀ answer tx, ¬ (connProtocol.next g op answer).has tx := by
  cases op with
  | load_state =>
    obtain ⟨method, params, rfl, active, refused⟩ := of_load_state allowed
    refine ⟨fun _ has => has, fun state tx has => ?_⟩
    cases state with
    | Active => exact has
    | Disconnected => exact has
  | store_disconnected =>
    obtain ⟨rfl, next⟩ := of_store_disconnected allowed
    exact ⟨fun _ has => has, fun _ _ has => has⟩
  | fetch_add_id =>
    obtain ⟨method, params, rfl, next⟩ := of_fetch_add_id allowed
    exact ⟨fun _ has => has, fun _ _ has => has⟩
  | outbound_send msg =>
    obtain ⟨method, params, n, rx, rfl, -, accepted, refused⟩ := of_outbound_send allowed
    refine ⟨fun _ has => has, fun sent tx has => ?_⟩
    cases sent with
    | accepted => exact has
    | receiver_gone => exact has
    | no_sender => exact has
  | outbound_take =>
    obtain ⟨rfl, next⟩ := of_outbound_take allowed
    exact ⟨fun _ has => has, fun _ _ has => has⟩
  | close_writer =>
    obtain ⟨rfl, next⟩ := of_close_writer allowed
    exact ⟨fun _ has => has, fun _ _ has => has⟩
  | _ => exact inert.elim

/-- One section of one task keeps senders linear. -/
theorem SendersPlaced.step [DecidableEq ι] {phase : ι → ConnPhase}
    {past : List (PoolEvent ι ConnOp)} {i : ι} {op : ConnOp β} {answer : β}
    (held : SendersPlaced phase h past) (allowed : connProtocol.allows (phase i) op)
    (answered : op.apply h = (answer, h')) :
    SendersPlaced (Function.update phase i (connProtocol.next (phase i) op answer)) h'
      (past ++ [⟨i, ⟨op, answer⟩⟩]) := by
  have idle (here : ∀ tx, ¬ (phase i).has tx) (tx : Nat) (has : (phase i).has tx) :
      ¬ (h'.oneshots.cell tx).sender = true := absurd has (here tx)
  have quiet (inert : op.inert) : SendersPlaced
      (Function.update phase i (connProtocol.next (phase i) op answer)) h'
      (past ++ [⟨i, ⟨op, answer⟩⟩]) := by
    obtain ⟨before, after⟩ := ConnPhase.has_of_inert inert allowed
    obtain ⟨slots, channels⟩ := ConnOp.apply_of_inert (h := h) inert
    rw [answered] at slots channels
    refine held.moved (.stay (idle before) (after answer) (by rw [channels]) (fun tx sender => ?_)
      (fun found => ?_) (fun found _ => ?_) (fun _ _ unspent => ?_)) (fun tx sends => ?_)
    · rwa [channels] at sender
    · rwa [slots] at found
    · rwa [slots]
    · rwa [ConnectionHandle.unspent, channels]
    · cases op with
      | oneshot_send => exact inert.elim
      | _ => exact sends.elim
  cases op with
  | load_state | store_disconnected | fetch_add_id | outbound_send | outbound_take
  | close_writer => exact quiet trivial
  | oneshot_channel =>
    cases answered
    obtain ⟨method, params, n, here, next⟩ := ConnPhase.of_oneshot_channel allowed
    rw [next]
    exact held.opened here fun _ sends => sends
  | pending_insert id tx =>
    cases answered
    obtain ⟨method, params, n, here, rfl, next⟩ := ConnPhase.of_pending_insert allowed
    rw [next]
    exact held.moved (.insert held here) fun _ sends => sends.elim
  | pending_remove id =>
    cases answered
    have holds_nothing : (∀ tx, ¬ (phase i).has tx) ∧
        ∀ tx, ¬ (connProtocol.next (phase i) (.pending_remove id) ()).has tx := by
      rcases ConnPhase.of_pending_remove allowed with ⟨here, next⟩ | ⟨n, rx, here, -, next⟩ <;>
        rw [next, here] <;> exact ⟨fun _ has => has, fun _ has => has⟩
    refine held.moved (.stay (idle holds_nothing.1) holds_nothing.2 (h.remove_slot_next id)
      (fun tx sender => ((h.remove_slot_sender id tx).mp sender).1) (fun {id' tx} found => ?_)
      (fun {id' tx} found sender => ?_) (fun {tx place} before after unspent => ?_))
      (fun _ sends => sends.elim)
    · rw [h.get_remove_slot] at found
      split at found
      · cases found
      · exact found
    · refine (h.get_remove_slot id id').trans (if_neg ?_ |>.trans found)
      rintro rfl
      exact ((h.remove_slot_sender _ tx).mp sender).2 found
    · refine (h.remove_slot_unspent id tx).mpr ⟨unspent, fun slot => ?_⟩
      have filled : (Place.slot id : Place ι).holds phase h tx := slot
      obtain rfl := held.unique before filled
      rw [Place.holds] at after
      cases ((h.get_remove_slot id id).trans (if_pos rfl)).symm.trans after
  | pending_take id =>
    cases answered
    obtain ⟨result, here, missing, taken⟩ := ConnPhase.of_pending_take allowed
    have holds_nothing : ∀ tx, ¬ (phase i).has tx := by
      rw [here]
      exact fun _ has => has
    cases found : h.pending.get id with
    | some tx =>
      rw [taken]
      exact held.moved (.take holds_nothing found) fun _ sends => sends.elim
    | none =>
      rw [missing]
      refine held.moved (.stay (idle holds_nothing) (fun _ has => has) rfl
        (fun _ sender => sender) (fun {id' tx} still => ?_) (fun {id' tx} still _ => ?_)
        (fun _ _ unspent => unspent)) (fun _ sends => sends.elim)
      · rw [HashMap.get_remove] at still
        split at still
        · cases still
        · exact still
      · rw [HashMap.get_remove, if_neg]
        · exact still
        · rintro rfl
          cases found.symm.trans still
  | oneshot_send tx result =>
    cases answered
    obtain ⟨here, next⟩ := ConnPhase.of_oneshot_send allowed
    have mine : (Place.thread i).holds phase h tx := by
      rw [Place.holds, here]
      rfl
    rw [next]
    have moved : SendersMoved id phase
        (Function.update phase i (.completed ((h.oneshots.cell tx).send result).1)) h
        (ConnOp.apply h (.oneshot_send tx result)).2 := by
      refine .stay (fun tx' has => ?_) (fun _ has => has) rfl (fun tx' sender => ?_) (fun found => found)
        (fun found _ => found) (fun {tx' place} before after unspent => ?_)
      · rw [here] at has
        cases has
        simp only [ConnOp.apply, Arena.cell_modify, if_true, Oneshot.send_sender, Bool.false_eq_true,
          not_false_eq_true]
      · simp only [ConnOp.apply, Arena.cell_modify] at sender
        split at sender
        · rw [Oneshot.send_sender] at sender
          cases sender
        · exact sender
      · have other : tx' ≠ tx := by
          rintro rfl
          cases held.unique mine before
          rw [Place.holds, Function.update_self] at after
          exact after
        simpa only [ConnectionHandle.unspent, ConnOp.apply, Arena.cell_modify, if_neg other] using unspent
    refine held.moved moved fun tx' sends => ?_
    cases sends
    refine ⟨⟨.thread i, mine⟩, fun place holds => ?_⟩
    obtain ⟨_, before, rfl⟩ := moved.came holds
    cases held.unique mine before
    simp only [Place.holds, Function.update_self, ConnPhase.has] at holds
  | pending_drain =>
    cases answered
    obtain ⟨here, next⟩ := ConnPhase.of_pending_drain allowed
    rw [next]
    refine held.moved (.drain fun tx has => ?_) fun _ sends => sends.elim
    rw [here] at has
    exact has
  | drop_senders txs =>
    cases answered
    obtain ⟨here, next⟩ := ConnPhase.of_drop_senders allowed
    rw [next]
    refine held.moved (.stay (fun tx has sender => ?_) (fun _ has => has) (h.drop_senders_next txs)
      (fun tx sender => ((h.drop_senders_sender txs tx).mp sender).1) (fun {id tx} found => ?_)
      (fun {id tx} found _ => ?_) (fun {tx place} before after unspent => ?_))
      (fun _ sends => sends.elim)
    · rw [here] at has
      exact ((h.drop_senders_sender txs tx).mp sender).2 has
    · rwa [h.drop_senders_pending txs] at found
    · rwa [h.drop_senders_pending txs]
    · refine (h.drop_senders_unspent txs tx).mpr ⟨unspent, fun member => ?_⟩
      have mine : (Place.thread i).holds phase h tx := by
        rw [Place.holds, here]
        exact member
      cases held.unique mine before
      rw [Place.holds, Function.update_self] at after
      exact after
  | drop_receiver rx =>
    cases answered
    obtain ⟨here, next⟩ := ConnPhase.of_drop_receiver allowed
    rw [next]
    refine held.moved (.stay (idle fun tx has => ?_) (fun _ has => has) rfl (fun tx sender => ?_) id
      (fun found _ => found) (fun _ _ unspent => ?_)) (fun _ sends => sends.elim)
    · rw [here] at has
      exact has
    · rw [Arena.cell_modify] at sender
      split at sender
      · rename_i same
        rw [same]
        exact sender
      · exact sender
    · rw [ConnectionHandle.unspent, Arena.cell_modify]
      split
      · rename_i same
        rw [same] at unspent
        exact unspent
      · exact unspent

/-- Senders are linear in every run of tasks on a fresh handle. -/
theorem senders_placed [DecidableEq ι] {tasks : ι → ConnTask}
    {q : Pool ι ConnOp ConnectionHandle ConnReturn} {tr : List (PoolEvent ι ConnOp)}
    (run : Pool.Run connSemantics (connPool .new tasks) tr q) :
    SendersPlaced (Pool.phases connProtocol (fun i => .start (tasks i)) tr) q.shared tr ∧
      ∀ i, connProtocol.Follows ConnPhase.returns
        (Pool.phases connProtocol (fun i => .start (tasks i)) tr i) (q.thread i) := by
  have nowhere {tx : Nat} {place : Place ι}
      (holds : place.holds (fun i => .start (tasks i)) .new tx) : False := by
    cases place with
    | thread i => exact holds
    | slot id => cases (HashMap.get_empty id).symm.trans holds
  refine run.invariant (I := SendersPlaced) (fun i => (tasks i).follows) ?_ ?_
  · exact ⟨fun holds => (nowhere holds).elim, fun holds _ => (nowhere holds).elim,
      fun holds => (nowhere holds).elim, fun tx bound => absurd bound (Nat.not_lt_zero tx),
      fun _ member => absurd member List.not_mem_nil, .nil⟩
  · intro phase h h' past i β op answer held allowed answered
    exact held.step allowed answered

end SessionManager
