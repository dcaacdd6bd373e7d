import SessionManager.Adapter.Stops

/-!
# What a cleanup undoes

`cleanup_debugger` goes by two flags.  That of the measurement is set before a request is forwarded;
that of the breakpoints is set when the answer has been processed.  So breakpoints are cleared
unless their call had no such answer, or switching the measurement off failed before
(`undone_iff`).
-/

namespace SessionManager.Debugger

open Python (Str Entries)

open Effect Method Trace

variable {cfg : DebuggerConfig} {s : DebuggerState} {past tr tr' : List (Event DebugOp)} {β : Type}

/-- The provider made this request of its own. -/
def sends (tool : Tool) : Event DebugOp → Prop
  | ⟨.invoke_private tool' _, _⟩ => tool' = tool
  | _ => False

/-- A request to clear the breakpoints succeeded. -/
def clears : Event DebugOp → Prop
  | ⟨.relay_invoke .clear_breakpoints _ _, .ok raw⟩ => is_error raw = false
  | ⟨.invoke_private .clear_breakpoints _, .ok raw⟩ => is_error raw = false
  | _ => False

/-- The request that switches the measurement off, as it goes out in this state. -/
def off_bound (cfg : DebuggerConfig) (s : DebuggerState) : Except Raised (Arguments × Option Str) :=
  bind_raw_arguments cfg.library cfg.binding s.debug_session_id off_request

/-- A request of the provider's own switched the measurement off. -/
def SwitchedOff (cfg : DebuggerConfig) (past : List (Event DebugOp)) : Prop :=
  ∃ off raw, (⟨.invoke_private .raw_request off, .ok raw⟩ : Event DebugOp) ∈ past ∧ off_ok cfg raw

/-- What was forwarded is undone by the requests of a cleanup. -/
structure Undone (cfg : DebuggerConfig) (tr : List (Event DebugOp)) (s : DebuggerState)
    (tr' : List (Event DebugOp)) : Prop where
  breakpoints : ¬ Followed (forwards .set_breakpoints) clears tr → ∃ a ev b, tr' = a ++ ev :: b ∧
    sends .clear_breakpoints ev ∧ ∀ ev' ∈ a, ¬ sends .detach ev'
  measurement : ¬ Followed measures (switches_off cfg) tr → ∃ off mode r rest,
    off_bound cfg s = .ok (off, mode) ∧ tr' = ⟨.invoke_private .raw_request off, r⟩ :: rest

/-- The breakpoints were set by a call whose answer was processed, and a measurement that may be on
is switched off; the request for that can be bound. -/
structure Undoable (cfg : DebuggerConfig) (tr : List (Event DebugOp)) (s : DebuggerState)
    (tr' : List (Event DebugOp)) : Prop where
  breakpoints : ¬ Followed (forwards .set_breakpoints) clears tr →
    ¬ Followed (processed cfg .set_breakpoints) (processed cfg .clear_breakpoints) tr ∧
      (s.measurement_active = true → SwitchedOff cfg tr')
  measurement : ¬ Followed measures (switches_off cfg) tr →
    ∃ off mode, off_bound cfg s = .ok (off, mode)

/-! ## The requests of `undo` -/

/-- What a cleanup in state `s` has asked before it detaches. -/
structure Undid (cfg : DebuggerConfig) (s : DebuggerState) (past : List (Event DebugOp)) : Prop where
  attached : ∀ ev ∈ past, ¬ sends .detach ev
  off : s.measurement_active = true → ∀ off mode, off_bound cfg s = .ok (off, mode) →
    ∃ r rest, past = ⟨.invoke_private .raw_request off, r⟩ :: rest
  cleared : (∃ ev ∈ past, sends .clear_breakpoints ev) ↔
    s.breakpoints = true ∧ (s.measurement_active = true → SwitchedOff cfg past)

/-- The measurement is off, and nothing else was asked. -/
structure Quieted (cfg : DebuggerConfig) (s : DebuggerState) (past : List (Event DebugOp)) : Prop where
  only : ∀ ev ∈ past, sends .raw_request ev
  off : s.measurement_active = true → ∀ off mode, off_bound cfg s = .ok (off, mode) →
    ∃ r rest, past = ⟨.invoke_private .raw_request off, r⟩ :: rest
  done : s.measurement_active = true → SwitchedOff cfg past

theorem sends_unique {tool tool' : Tool} {ev : Event DebugOp} (one : sends tool ev)
    (other : sends tool' ev) : tool = tool' := by
  rcases ev with ⟨op, answer⟩
  cases op with
  | invoke_private => exact one.symm.trans other
  | _ => exact one.elim

theorem SwitchedOff.of_snoc {ev : Event DebugOp} (other : ¬ sends .raw_request ev)
    (off : SwitchedOff cfg (past ++ [ev])) : SwitchedOff cfg past := by
  obtain ⟨args, raw, member, good⟩ := off
  rcases List.mem_append.mp member with earlier | last
  · exact ⟨args, raw, earlier, good⟩
  · rw [← List.mem_singleton.mp last] at other
    exact absurd rfl other

theorem SwitchedOff.snoc {ev : Event DebugOp} (off : SwitchedOff cfg past) :
    SwitchedOff cfg (past ++ [ev]) := by
  obtain ⟨args, raw, member, good⟩ := off
  exact ⟨args, raw, List.mem_append_left _ member, good⟩

/-- The measurement was not switched off, so nothing else is undone. -/
theorem Undid.failed (only : ∀ ev ∈ past, sends .raw_request ev)
    (active : s.measurement_active = true) (vain : ¬ SwitchedOff cfg past)
    (first : ∀ off mode, off_bound cfg s = .ok (off, mode) →
      ∃ r rest, past = ⟨.invoke_private .raw_request off, r⟩ :: rest) : Undid cfg s past where
  attached ev member detaches := by cases sends_unique (only ev member) detaches
  off _ := first
  cleared := by
    refine iff_of_false (fun cleared => ?_) fun both => vain (both.2 active)
    obtain ⟨ev, member, clears⟩ := cleared
    cases sends_unique (only ev member) clears

theorem Quieted.undid (quieted : Quieted cfg s past) (unset : s.breakpoints = false) :
    Undid cfg s past where
  attached ev member detaches := by cases sends_unique (quieted.only ev member) detaches
  off := quieted.off
  cleared := by
    refine iff_of_false (fun cleared => ?_) fun both => ?_
    · obtain ⟨ev, member, clears⟩ := cleared
      cases sends_unique (quieted.only ev member) clears
    · cases unset.symm.trans both.1

theorem Quieted.cleared {args : Arguments} {r : Except Raised Entries} (quieted : Quieted cfg s past)
    (set : s.breakpoints = true) :
    Undid cfg s (past ++ [⟨.invoke_private .clear_breakpoints args, r⟩]) where
  attached ev member detaches := by
    rcases List.mem_append.mp member with earlier | last
    · cases sends_unique (quieted.only ev earlier) detaches
    · cases List.mem_singleton.mp last
      cases detaches
  off active off mode bound := by
    obtain ⟨r, rest, rfl⟩ := quieted.off active off mode bound
    exact ⟨r, _, rfl⟩
  cleared := iff_of_true ⟨_, List.mem_append_right _ List.mem_cons_self, rfl⟩
    ⟨set, fun active => (quieted.done active).snoc⟩

/-- The requests of the loop over the targets. -/
def DebugOp.resumes : ∀ {β : Type}, DebugOp β → Bool
  | _, .admission_check => true
  | _, .invoke_private tool _ => tool = .get_targets || tool = .continue_
  | _, _ => false

theorem not_sends_of_resumes {op : DebugOp β} {answer : β} {tool : Tool} (resumes : op.resumes = true)
    (listed : tool ≠ .get_targets) (continued : tool ≠ .continue_) : ¬ sends tool ⟨op, answer⟩ := by
  intro sent
  cases op with
  | invoke_private tool' args =>
    cases sent
    rcases Bool.or_eq_true_iff.mp resumes with same | same
    · exact listed (of_decide_eq_true same)
    · exact continued (of_decide_eq_true same)
  | _ => exact sent

theorem Undid.snoc {op : DebugOp β} {answer : β} (undid : Undid cfg s past)
    (resumes : op.resumes = true) : Undid cfg s (past ++ [⟨op, answer⟩]) where
  attached ev member := by
    rcases List.mem_append.mp member with earlier | last
    · exact undid.attached ev earlier
    · rw [List.mem_singleton.mp last]
      exact not_sends_of_resumes resumes (by decide) (by decide)
  off active off mode bound := by
    obtain ⟨r, rest, rfl⟩ := undid.off active off mode bound
    exact ⟨r, _, rfl⟩
  cleared := by
    have other : ¬ sends .clear_breakpoints ⟨op, answer⟩ :=
      not_sends_of_resumes resumes (by decide) (by decide)
    have native : ¬ sends .raw_request ⟨op, answer⟩ :=
      not_sends_of_resumes resumes (by decide) (by decide)
    constructor
    · intro cleared
      obtain ⟨ev, member, clears⟩ := cleared
      rcases List.mem_append.mp member with earlier | last
      · obtain ⟨set, off⟩ := undid.cleared.mp ⟨ev, earlier, clears⟩
        exact ⟨set, fun active => (off active).snoc⟩
      · rw [List.mem_singleton.mp last] at clears
        exact absurd clears other
    · intro both
      obtain ⟨ev, member, clears⟩ := undid.cleared.mpr
        ⟨both.1, fun active => (both.2 active).of_snoc native⟩
      exact ⟨ev, List.mem_append_left _ member, clears⟩

/-! ## Runs -/

/-- The loop over the targets keeps what its requests keep. -/
theorem resume_targets_keeps {I : List (Event DebugOp) → Prop}
    (kept : ∀ {past} {β : Type} {op : DebugOp β} {answer : β}, I past → op.resumes = true →
      I (past ++ [⟨op, answer⟩])) (targets : List Str) :
    Preserves (Safe cfg) (fun past _ => I past) (resume_targets cfg targets) := by
  have asked {op : DebugOp (Except Raised Entries)} (resumes : op.resumes = true)
      (quiet : op.quiet = true) :
      Preserves (Safe cfg) (fun past _ => I past) (ask op : Routine Entries) :=
    preserves_ask fun _ _ holds => ⟨safe_of_quiet quiet, fun _ => kept holds resumes⟩
  have refreshed : Preserves (Safe cfg) (fun past _ => I past) (refresh_targets cfg) := by
    refine (asked rfl rfl).bind fun raw => (preserves_rethrow _).bind fun rows => ?_
    exact (preserves_rethrow _).bind fun targets => preserves_write fun _ _ holds => holds
  induction targets with
  | nil => exact preserves_pure ()
  | cons target rest ih =>
    refine Preserves.bind ?_ fun _ => ih
    refine (preserves_ask fun _ _ holds => ⟨trivial, fun _ => kept holds rfl⟩).bind fun _ => ?_
    refine refreshed.bind fun _ => preserves_read_bind fun s => ?_
    split
    · exact preserves_raising _
    · refine Preserves.when ((asked rfl rfl).bind fun raw => ?_)
      split
      · exact preserves_raising _
      · exact preserves_pure ()

theorem switch_off_runs (active : s.measurement_active = true) :
    Runs (Safe cfg) (fun past _ _ => Quieted cfg s past) (fun past _ _ => Undid cfg s past) [] s
      (switch_off cfg) := by
  have nothing : ¬ SwitchedOff cfg [] := by
    intro off
    obtain ⟨_, _, none, -⟩ := off
    cases none
  refine runs_read_bind (runs_rethrow_bind (fun off bound => ?_) fun exc unbound => ?_)
  · -- the request goes out, and is the first
    have only {r : Except Raised Entries} :
        ∀ ev ∈ ([⟨.invoke_private .raw_request off.1, r⟩] : List (Event DebugOp)),
          sends .raw_request ev := by
      intro ev member
      rw [List.mem_singleton.mp member]
      rfl
    have first {r : Except Raised Entries} : ∀ off' mode, off_bound cfg s = .ok (off', mode) →
        ∃ r' rest, ([⟨.invoke_private .raw_request off.1, r⟩] : List (Event DebugOp)) =
          ⟨.invoke_private .raw_request off', r'⟩ :: rest := by
      intro off' mode bound'
      cases bound.symm.trans bound'
      exact ⟨r, [], rfl⟩
    have failed {r : Except Raised Entries} (bad : ∀ raw, r = .ok raw → ¬ off_ok cfg raw) :
        Undid cfg s [⟨.invoke_private .raw_request off.1, r⟩] := by
      refine Undid.failed only active (fun switched => ?_) first
      obtain ⟨_, raw, member, good⟩ := switched
      cases List.mem_singleton.mp member
      exact bad raw rfl good
    refine runs_ask_bind trivial (fun raw => ?_) fun exc => failed fun raw same => by cases same
    refine runs_rethrow_bind (fun response read => ?_) fun exc unread => ?_
    · split
      · rename_i bad
        refine runs_raising (failed fun raw' same good => ?_)
        cases same
        obtain ⟨success, response', read', ok⟩ := good
        cases read.symm.trans read'
        rw [success, ok] at bad
        cases bad
      · rename_i good
        rw [Bool.or_eq_true, not_or, Bool.not_eq_true, Bool.not_eq_true, Bool.not_eq_false'] at good
        exact runs_write ⟨only, fun _ => first, fun _ =>
          ⟨off.1, raw, List.mem_cons_self, good.1, response, read, good.2⟩⟩
    · refine failed fun raw' same good => ?_
      cases same
      obtain ⟨-, response, read, -⟩ := good
      cases unread.symm.trans read
  · refine Undid.failed (fun _ none => by cases none) active nothing fun off mode bound => ?_
    cases unbound.symm.trans bound

theorem undo_runs : Runs (Safe cfg) (fun past _ _ => Undid cfg s past) (fun past _ _ => Undid cfg s past)
    [] s (undo cfg) := by
  refine runs_read_bind (Runs.bind (Q := fun past _ _ => Quieted cfg s past) ?_
    fun past s' _ quieted => ?_)
  · refine Runs.when switch_off_runs fun inactive => ?_
    have impossible {P : Prop} (active : s.measurement_active = true) : P := by
      cases inactive.symm.trans active
    exact ⟨fun _ none => (by cases none), impossible, impossible⟩
  · refine Runs.bind (Q := fun past _ _ => Undid cfg s past) ?_ fun past s' _ undid => ?_
    · refine Runs.when (fun set => ?_) quieted.undid
      refine runs_ask_bind trivial (fun raw => ?_) fun _ => quieted.cleared set
      split
      · exact runs_raising (quieted.cleared set)
      · exact runs_pure (quieted.cleared set)
    · exact resume_targets_keeps (fun undid resumes => undid.snoc resumes) _ past s' undid

/-- A cleanup ends with the request to detach, whatever came before. -/
def Cleaned (cfg : DebuggerConfig) (s : DebuggerState) (past : List (Event DebugOp)) : Prop :=
  ∃ a r, past = a ++ [⟨.invoke_private .detach [], r⟩] ∧ Undid cfg s a

theorem cleanup_runs (attempted : s.attach_attempted = true) :
    Runs (Safe cfg) (fun past _ _ => Cleaned cfg s past) (fun past _ _ => Cleaned cfg s past) [] s
      (cleanup_debugger cfg) := by
  refine runs_read_bind ?_
  rw [attempted]
  refine (undo_runs.attempt (Y := fun past _ _ => Cleaned cfg s past)).bind fun past s' undone left => ?_
  have undid : Undid cfg s past := left.always
  refine Runs.bind (Q := fun past _ _ => Undid cfg s past)
    (Runs.when (fun _ => runs_write undid) fun _ => undid) fun past s' _ undid => ?_
  have detached : Runs (Safe cfg) (fun past _ _ => Cleaned cfg s past)
      (fun past _ _ => Cleaned cfg s past) past s' detach := by
    refine Runs.bind (Q := fun past _ _ => Cleaned cfg s past) ?_ fun _ _ _ cleaned => runs_write cleaned
    refine runs_ask_bind trivial (fun raw => ?_) fun _ => ⟨past, _, rfl, undid⟩
    split
    · exact runs_raising ⟨past, _, rfl, undid⟩
    · exact runs_pure ⟨past, _, rfl, undid⟩
  refine (detached.attempt (Y := fun past _ _ => Cleaned cfg s past)).bind fun past s' r left => ?_
  have cleaned : Cleaned cfg s past := left.always
  refine Runs.bind (Q := fun past _ _ => Cleaned cfg s past)
    (Runs.when (fun _ => runs_write cleaned) fun _ => cleaned) fun past s' _ cleaned => ?_
  exact ((preserves_rethrow undone).bind fun _ => preserves_rethrow r) past s' cleaned

variable {occurrences : List Occurrence} {r r' : Except Raised Unit} {s' : DebuggerState}

/-- **What a cleanup undoes.**  The requests of a cleanup undo whatever was forwarded before, if and
only if the breakpoints were set by a call whose answer was processed, and the measurement is
switched off as it should. -/
theorem undone_iff (run : Exec (served cfg occurrences) tr (.ret (r, s)))
    (attempted : s.attach_attempted = true)
    (cleaned : Exec (cleanup_debugger cfg s) tr' (.ret (r', s'))) :
    Undone cfg tr s tr' ↔ Undoable cfg tr s tr' := by
  have standing := (kept_of_served run).standing
  obtain ⟨a, answer, rfl, undid⟩ := ((cleanup_runs attempted).exec cleaned).always
  constructor
  · intro undone
    refine ⟨fun outstanding => ?_, fun outstanding => ?_⟩
    · obtain ⟨x, ev, y, same, clears, -⟩ := undone.breakpoints outstanding
      have member : ev ∈ a := by
        have there : ev ∈ a ++ [⟨.invoke_private .detach [], answer⟩] := by
          rw [same]
          exact List.mem_append_cons_self
        rcases List.mem_append.mp there with earlier | last
        · exact earlier
        · rw [List.mem_singleton.mp last] at clears
          cases clears
      obtain ⟨set, off⟩ := undid.cleared.mp ⟨ev, member, clears⟩
      exact ⟨standing.breakpoints.mp set, fun active => (off active).snoc⟩
    · obtain ⟨off, mode, -, -, bound, -⟩ := undone.measurement outstanding
      exact ⟨off, mode, bound⟩
  · intro undoable
    refine ⟨fun outstanding => ?_, fun outstanding => ?_⟩
    · obtain ⟨set, off⟩ := undoable.breakpoints outstanding
      obtain ⟨ev, member, clears⟩ := undid.cleared.mpr ⟨standing.breakpoints.mpr set,
        fun active => (off active).of_snoc fun native => by cases native⟩
      obtain ⟨x, y, rfl⟩ := List.append_of_mem member
      refine ⟨x, ev, y ++ [⟨.invoke_private .detach [], answer⟩], ?_, clears, fun ev' before => ?_⟩
      · rw [List.append_assoc, List.cons_append]
      · exact undid.attached ev' (List.mem_append_left _ before)
    · obtain ⟨off, mode, bound⟩ := undoable.measurement outstanding
      obtain ⟨first, rest, rfl⟩ := undid.off (standing.measurement outstanding) off mode bound
      exact ⟨off, mode, first, _, bound, rfl⟩

/-- A detach cleans up in the state it starts from. -/
theorem detach_cleans_up {params : Python.Value} {args : Arguments} (taken : s.dispatch_ready = true)
    (attached : s.attached = true) (admitted : admitted_call cfg params = .ok (.detach, args)) :
    dispatch_body cfg params s = (do
      ask .admission_check
      cleanup_debugger cfg
      write fun s => { s with dispatch_ready := false }
      ask (.respond (envelope cfg.library.floats [(Str.of "status", Python.text "detached")])) :
        Routine Unit) s := by
  have admits : dispatch_body cfg params s = (do
      ask .admission_check
      let args ← attached_arguments cfg .detach args
      cleanup_debugger cfg
      write fun s => { s with dispatch_ready := false }
      ask (.respond (envelope cfg.library.floats [(Str.of "status", Python.text "detached")])) :
        Routine Unit) s := by
    change (if !s.dispatch_ready then _ else _ : Routine Unit) s = _
    rw [taken, admitted]
    rfl
  have allowed : attached_arguments cfg .detach args s = .ret (.ok args, s) := by
    change (if !s.attached then _ else _ : Routine Arguments) s = _
    rw [attached]
    rfl
  rw [admits]
  refine congrArg (Prog.op DebugOp.admission_check) (funext fun r => ?_)
  cases r with
  | ok _ =>
    change (attached_arguments cfg .detach args s).bind _ = _
    rw [allowed]
    rfl
  | error exc => rfl

/-! ## A call without an answer -/

/-- An attached provider that has set breakpoints, or has not, and still takes calls, or does not. -/
def attached_state (set ready : Bool) : DebuggerState :=
  { DebuggerState.new with
    dispatch_ready := ready
    attached := true
    attach_attempted := true
    breakpoints := set
    debug_session_id := Python.text "s" }

/-- Breakpoints are set by a call that gets this answer. -/
def set_run (answer : Except Raised Entries) :
    List (Event DebugOp) × Prog DebugOp (Except Raised Unit × DebuggerState) :=
  scripted_run [plain_call .attach none, plain_call .set_breakpoints none]
    [structured [("sessionId", Python.text "s")], answer]

/-- A cleanup that succeeds. -/
def cleanup_run (s : DebuggerState) :
    List (Event DebugOp) × Prog DebugOp (Except Raised Unit × DebuggerState) :=
  (cleanup_debugger plain_debugger s).record scripted [structured [], structured []]

theorem set_breakpoints_are_cleared :
    Undone plain_debugger (set_run (structured [])).1 (attached_state true true)
      (cleanup_run (attached_state true true)).1 := by
  have run : Exec (served plain_debugger _) (set_run (structured [])).1
      (.ret (.ok (), attached_state true true)) := exec_scripted _ _
  have cleaned : Exec (cleanup_debugger plain_debugger (attached_state true true))
      (cleanup_run (attached_state true true)).1 (cleanup_run (attached_state true true)).2 :=
    Prog.exec_record _ _ _
  have standing := (kept_of_served run).standing
  refine (undone_iff run rfl cleaned).mpr ⟨fun _ => ⟨standing.breakpoints.mp rfl, fun active => ?_⟩,
    fun outstanding => ?_⟩
  · cases active
  · cases standing.measurement outstanding

/-- Breakpoints may be set by a call that runs into a timeout; the cleanup only detaches. -/
theorem timed_out_breakpoints_stay :
    ∃ (cfg : DebuggerConfig) (occurrences : List Occurrence) (tr tr' : List (Event DebugOp))
      (r r' : Except Raised Unit) (s s' : DebuggerState),
      Exec (served cfg occurrences) tr (.ret (r, s)) ∧ s.attach_attempted = true ∧
        Exec (cleanup_debugger cfg s) tr' (.ret (r', s')) ∧ ¬ Undone cfg tr s tr' := by
  have run : Exec (served plain_debugger _) (set_run (.error .TimeoutError)).1
      (.ret (.ok (), attached_state false false)) := exec_scripted _ _
  have cleaned : Exec (cleanup_debugger plain_debugger (attached_state false false))
      (cleanup_run (attached_state false false)).1 (cleanup_run (attached_state false false)).2 :=
    Prog.exec_record _ _ _
  refine ⟨_, _, _, _, _, _, _, _, run, rfl, cleaned, fun undone => ?_⟩
  have forwarded : (set_run (.error .TimeoutError)).1[6]? =
      some ⟨.relay_invoke .set_breakpoints [] none, .error .TimeoutError⟩ := rfl
  have outstanding : ¬ Followed (forwards .set_breakpoints) clears
      (set_run (.error .TimeoutError)).1 := by
    refine not_followed_iff.mpr ⟨_, _, _, split_at forwarded, rfl, fun ev member cleared => ?_⟩
    have rest : (set_run (.error .TimeoutError)).1.drop 7 =
        [⟨.send_sdk_cancel, .ok ()⟩, ⟨.terminal .CallCancelled, .ok ()⟩] := rfl
    rw [rest] at member
    rcases List.mem_cons.mp member with rfl | member
    · exact cleared
    · cases List.mem_singleton.mp member
      exact cleared
  obtain ⟨a, ev, b, same, clears, -⟩ := undone.breakpoints outstanding
  have only : (cleanup_run (attached_state false false)).1 =
      [⟨.invoke_private .detach [], structured []⟩] := rfl
  rw [only] at same
  have member : ev ∈ a ++ ev :: b := List.mem_append_cons_self
  rw [← same] at member
  cases List.mem_singleton.mp member
  cases clears

end SessionManager.Debugger
