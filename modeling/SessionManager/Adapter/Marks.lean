import SessionManager.Adapter.DebuggerProvider
import SessionManager.Effect.Trace

/-!
# What a debugger provider remembers

The flags and sets of a `DebuggerProvider`, read off what it asked and what it was answered:
`breakpoints` and `measurement_active` (`Standing`), and `stopped` (`Stops`).  Every call keeps
both (`occur_keeps`), except that `stopped` means nothing once no more calls are taken.
-/

namespace SessionManager.Debugger

open Python (Str Entries)

open Effect Method Trace

variable (cfg : DebuggerConfig)

/-! ## Events -/

/-- A call of this tool was forwarded. -/
def forwards (tool : Tool) : Event DebugOp → Prop
  | ⟨.relay_invoke tool' _ _, _⟩ => tool' = tool
  | _ => False

/-- A call of this tool was forwarded, it succeeded, and the answer could be processed. -/
def processed (tool : Tool) : Event DebugOp → Prop
  | ⟨.relay_invoke tool' _ _, .ok raw⟩ =>
    tool' = tool ∧ is_error raw = false ∧ (payload cfg.library.toLibrary raw).isOk = true
  | _ => False

/-- The measurement was switched on. -/
def measures : Event DebugOp → Prop
  | ⟨.relay_invoke .raw_request args mode, _⟩ =>
    sets_measure_mode args = true ∧ given mode = true
  | _ => False

/-- The answer to a request that switches the measurement off says that it did. -/
def off_ok (raw : Entries) : Prop :=
  is_error raw = false ∧ ∃ response, logical_data cfg raw = .ok response ∧ status_ok response = true

/-- The measurement was switched off. -/
def switches_off : Event DebugOp → Prop
  | ⟨.relay_invoke .raw_request args mode, .ok raw⟩ =>
    sets_measure_mode args = true ∧ given mode = false ∧ off_ok cfg raw
  | ⟨.invoke_private .raw_request _, .ok raw⟩ => off_ok cfg raw
  | _ => False

/-- The list has a row for this target. -/
def lists (target : Str) (raw : Entries) : Prop :=
  ∃ rows row id, target_rows cfg raw = .ok rows ∧ Python.Value.dict row ∈ rows ∧
    Python.get row "targetID" = some (.dict id) ∧ Python.get id "id" = some (.str target)

def asks_targets : Event DebugOp → Prop
  | ⟨.invoke_private .get_targets _, _⟩ | ⟨.relay_invoke .get_targets _ _, _⟩ => True
  | _ => False

/-- The target is in a list the SDK gave. -/
def tells (target : Str) : Event DebugOp → Prop
  | ⟨.invoke_private .get_targets _, .ok raw⟩ | ⟨.relay_invoke .get_targets _ _, .ok raw⟩ =>
    lists cfg target raw
  | _ => False

/-- A `wait_for_stop` reported the stop of the target. -/
def reports (target : Str) : Event DebugOp → Prop
  | ⟨.relay_invoke .wait_for_stop _ _, .ok raw⟩ =>
    is_error raw = false ∧ ∃ data, logical_data cfg raw = .ok data ∧
      Python.get data "targetId" = some (.str target)
  | _ => False

/-- A command that ends the stop of the target was forwarded. -/
def controls (target : Str) : Event DebugOp → Prop
  | ⟨.relay_invoke tool args _, _⟩ =>
    tool.controls = true ∧ args.get "targetId" = some (.str target)
  | _ => False

/-- The answer to a forwarded call was an error, or could not be processed; a timeout and a
cancellation end the calls altogether. -/
def failed : Event DebugOp → Prop
  | ⟨.relay_invoke _ _ _, .ok raw⟩ =>
    is_error raw = true ∨ (payload cfg.library.toLibrary raw).isOk = false
  | ⟨.relay_invoke _ _ _, .error exc⟩ => exc ≠ .CancelledError ∧ exc ≠ .TimeoutError
  | _ => False

/-- What the state of a provider says about its past. -/
structure Standing (past : List (Event DebugOp)) (s : DebuggerState) : Prop where
  breakpoints : s.breakpoints = true ↔
    ¬ Followed (processed cfg .set_breakpoints) (processed cfg .clear_breakpoints) past
  measurement : ¬ Followed measures (switches_off cfg) past → s.measurement_active = true

/-- The latest `wait_for_stop` reported the target, and whatever was forwarded to end its stop has
failed. -/
def StoppedSince (past : List (Event DebugOp)) (target : Str) : Prop :=
  Since (reports cfg target)
    (fun ev => ¬ forwards .wait_for_stop ev ∧ (controls target ev → failed cfg ev)) past

def Stops (past : List (Event DebugOp)) (s : DebuggerState) : Prop :=
  ∀ target ∈ s.stopped, StoppedSince cfg past target

/-- The target is in the latest list of the SDK. -/
def Listed (past : List (Event DebugOp)) (target : Str) : Prop :=
  Since (tells cfg target) (fun ev => ¬ asks_targets ev) past

/-- What a call must be to be forwarded. -/
structure Permitted (past : List (Event DebugOp)) (tool : Tool) (args : Arguments) : Prop where
  inspection : tool.inspects = true → ∃ target, args.get "targetId" = some (.str target) ∧
    target ∈ cfg.binding.allowed_target_ids ∧ Listed cfg past target ∧ StoppedSince cfg past target
  control : tool.controls = true → ∀ target, args.get "targetId" = some target →
    is_none target = false → ∃ own ∈ cfg.binding.allowed_target_ids, target = .str own

def Safe (past : List (Event DebugOp)) : ∀ {β : Type}, DebugOp β → Prop
  | _, .relay_invoke tool args _ => Permitted cfg past tool args
  | _, _ => True

/-! ## Quiet requests -/

variable {cfg} {past : List (Event DebugOp)} {s : DebuggerState} {β : Type}

/-- Requests that neither forward a call nor switch the measurement off. -/
def DebugOp.quiet : ∀ {β : Type}, DebugOp β → Bool
  | _, .relay_invoke .. => false
  | _, .invoke_private tool _ => tool ≠ .raw_request
  | _, _ => true

theorem quiet_event (cfg : DebuggerConfig) {op : DebugOp β} (answer : β) (quiet : op.quiet = true) :
    (∀ tool, ¬ processed cfg tool ⟨op, answer⟩) ∧ ¬ measures ⟨op, answer⟩ ∧
      ¬ switches_off cfg ⟨op, answer⟩ ∧ (∀ tool, ¬ forwards tool ⟨op, answer⟩) ∧
      ∀ target, ¬ controls target ⟨op, answer⟩ := by
  cases op with
  | relay_invoke => cases quiet
  | invoke_private tool args =>
    cases tool with
    | raw_request => cases quiet
    | _ => exact ⟨fun _ => id, id, id, fun _ => id, fun _ => id⟩
  | _ => exact ⟨fun _ => id, id, id, fun _ => id, fun _ => id⟩

theorem safe_of_quiet {op : DebugOp β} (quiet : op.quiet = true) : Safe cfg past op := by
  cases op with
  | relay_invoke => cases quiet
  | _ => trivial

theorem Standing.quiet {op : DebugOp β} {answer : β} (standing : Standing cfg past s)
    (quiet : op.quiet = true) : Standing cfg (past ++ [⟨op, answer⟩]) s := by
  obtain ⟨unprocessed, unmeasured, on, -, -⟩ := quiet_event cfg answer quiet
  refine ⟨?_, fun outstanding => standing.measurement ?_⟩
  · rw [followed_snoc_of_neither (unprocessed _) (unprocessed _)]
    exact standing.breakpoints
  · rwa [followed_snoc_of_neither unmeasured on] at outstanding

theorem Stops.quiet {op : DebugOp β} {answer : β} (stops : Stops cfg past s)
    (quiet : op.quiet = true) : Stops cfg (past ++ [⟨op, answer⟩]) s := by
  obtain ⟨-, -, -, unforwarded, uncontrolled⟩ := quiet_event cfg answer quiet
  exact fun target member => (stops target member).snoc
    ⟨unforwarded _, fun controlled => absurd controlled (uncontrolled target)⟩

/-- A property of past and state that quiet requests keep, and that depends on three marks only. -/
structure Steady (I : List (Event DebugOp) → DebuggerState → Prop) : Prop where
  quiet : ∀ {past s} {β : Type} {op : DebugOp β} {answer : β}, I past s → op.quiet = true →
    I (past ++ [⟨op, answer⟩]) s
  marks : ∀ {past s s'}, I past s → s'.stopped = s.stopped → s'.breakpoints = s.breakpoints →
    s'.measurement_active = s.measurement_active → I past s'
  cleared : ∀ {past s}, I past s → I past { s with stopped := [] }

theorem steady_standing : Steady (Standing cfg) where
  quiet := Standing.quiet
  marks standing _ breakpoints measurement :=
    ⟨by rw [breakpoints]; exact standing.breakpoints, by rw [measurement]; exact standing.measurement⟩
  cleared standing := ⟨standing.breakpoints, standing.measurement⟩

theorem steady_stops : Steady (Stops cfg) where
  quiet := Stops.quiet
  marks stops stopped _ _ := by
    intro target member
    rw [stopped] at member
    exact stops target member
  cleared _ := fun _ none => absurd none List.not_mem_nil

theorem steady_measuring (wanted : Prop) :
    Steady (fun _ s => wanted → s.measurement_active = true) where
  quiet active _ := active
  marks active _ _ same := by
    rw [same]
    exact active
  cleared active := active

theorem Steady.and {I J : List (Event DebugOp) → DebuggerState → Prop} (first : Steady I)
    (second : Steady J) : Steady fun past s => I past s ∧ J past s where
  quiet both quiet := ⟨first.quiet both.1 quiet, second.quiet both.2 quiet⟩
  marks both stopped breakpoints measurement :=
    ⟨first.marks both.1 stopped breakpoints measurement,
      second.marks both.2 stopped breakpoints measurement⟩
  cleared both := ⟨first.cleared both.1, second.cleared both.2⟩

section Steady

variable {I : List (Event DebugOp) → DebuggerState → Prop} (steady : Steady I)

include steady

theorem preserves_quiet {α : Type} {op : DebugOp (Except Raised α)} (quiet : op.quiet = true) :
    Preserves (Safe cfg) I (ask op : Routine α) :=
  preserves_ask fun _ _ holds => ⟨safe_of_quiet quiet, fun _ => steady.quiet holds quiet⟩

theorem preserves_marks {f : DebuggerState → DebuggerState} (stopped : ∀ s, (f s).stopped = s.stopped)
    (breakpoints : ∀ s, (f s).breakpoints = s.breakpoints)
    (measurement : ∀ s, (f s).measurement_active = s.measurement_active) :
    Preserves (Safe cfg) I (write f : Routine Unit) :=
  preserves_write fun _ s holds => steady.marks holds (stopped s) (breakpoints s) (measurement s)

/-! ## Targets -/

omit steady in
theorem of_target_in {targets : List Str} {value : Python.Value} {target : Str}
    (found : target_in targets value = .ok (some target)) : target ∈ targets ∧ value = .str target := by
  unfold target_in at found
  split at found
  · have found := Except.ok.inj found
    have same := List.find?_some found
    exact ⟨List.mem_of_find?_eq_some found, is_str_iff.mp same⟩
  · cases found

omit steady in
/-- An allowed target of a list has a row in it. -/
theorem of_allowed_row {row state : Python.Value} {target : Str}
    (allowed : allowed_row cfg row = .ok (some (target, state))) :
    target ∈ cfg.binding.allowed_target_ids ∧ ∃ fields id, row = .dict fields ∧
      Python.get fields "targetID" = some (.dict id) ∧ Python.get id "id" = some (.str target) := by
  unfold allowed_row at allowed
  split at allowed
  · rename_i fields
    split at allowed
    · rename_i id own
      obtain ⟨found, looked, same⟩ := bind_eq_ok.mp allowed
      cases found with
      | none => cases same
      | some t =>
        cases same
        obtain ⟨member, value⟩ := of_target_in looked
        refine ⟨member, fields, id, rfl, own, ?_⟩
        cases given : Python.get id "id" with
        | none =>
          rw [given] at value
          cases value
        | some v =>
          rw [given] at value
          exact congrArg some value
    · cases allowed
  · cases allowed

omit steady in
theorem of_allowed_targets {raw : Entries} {rows : List Python.Value}
    {targets : List (Str × Python.Value)} {target : Str} (read : target_rows cfg raw = .ok rows)
    (allowed : allowed_targets cfg rows = .ok targets) (member : target ∈ targets.map Prod.fst) :
    target ∈ cfg.binding.allowed_target_ids ∧ lists cfg target raw := by
  obtain ⟨found, mapped, same⟩ := bind_eq_ok.mp allowed
  cases same
  obtain ⟨⟨t, state⟩, there, rfl⟩ := List.mem_map.mp member
  obtain ⟨entry, there, same⟩ := List.mem_filterMap.mp there
  cases same
  obtain ⟨row, own, given⟩ := Json.exists_of_forall₂ (forall₂_of_mapM mapped).flip there
  obtain ⟨mine, fields, id, rfl, has, named⟩ := of_allowed_row given
  exact ⟨mine, rows, fields, id, read, own, has, named⟩

/-- After a refresh the current targets are allowed and in the latest list. -/
def Current (cfg : DebuggerConfig) (past : List (Event DebugOp)) (s : DebuggerState) : Prop :=
  ∀ target ∈ s.current_targets, target ∈ cfg.binding.allowed_target_ids ∧ Listed cfg past target

theorem refresh_targets_runs (holds : I past s) :
    Runs (Safe cfg) (fun past s _ => I past s ∧ Current cfg past s) (fun past s _ => I past s) past s
      (refresh_targets cfg) := by
  refine runs_ask_bind trivial (fun raw => ?_) fun _ => steady.quiet holds rfl
  have holds : I (past ++ [⟨.invoke_private .get_targets [], .ok raw⟩]) s := steady.quiet holds rfl
  refine runs_rethrow_bind (fun rows read => ?_) fun _ _ => holds
  refine runs_rethrow_bind (fun targets allowed => ?_) fun _ _ => holds
  refine runs_write ⟨steady.marks holds rfl rfl rfl, fun target member => ?_⟩
  obtain ⟨mine, listed⟩ := of_allowed_targets read allowed member
  exact ⟨mine, since_last listed⟩

theorem preserves_refresh_targets : Preserves (Safe cfg) I (refresh_targets cfg) :=
  fun _ _ holds => (refresh_targets_runs steady holds).mono (fun _ _ _ both => both.1)
    fun _ _ _ holds => holds

/-- The target a call names is allowed and in the latest list. -/
def Named (cfg : DebuggerConfig) (past : List (Event DebugOp)) (args : Arguments) :
    Option Str → Prop
  | none => ∀ target, args.get "targetId" = some target → is_none target = true
  | some target => args.get "targetId" = some (.str target) ∧
      target ∈ cfg.binding.allowed_target_ids ∧ Listed cfg past target

theorem checked_target_runs {args : Arguments} (holds : I past s) :
    Runs (Safe cfg) (fun past s target => I past s ∧ Named cfg past args target)
      (fun past s _ => I past s) past s (checked_target cfg args) := by
  unfold checked_target
  cases filtered : (args.get "targetId").filter fun target => !is_none target with
  | none =>
    refine runs_pure ⟨holds, fun target given => ?_⟩
    rw [given, Option.filter_some] at filtered
    split at filtered
    · cases filtered
    · rename_i absent
      rwa [Bool.not_eq_true', Bool.not_eq_false] at absent
  | some target =>
    have given := (Option.filter_eq_some_iff.mp filtered).1
    refine (refresh_targets_runs steady holds).bind fun past s _ both => ?_
    obtain ⟨holds, current⟩ := both
    refine runs_read_bind (runs_rethrow_bind (fun found looked => ?_) fun _ _ => holds)
    cases found with
    | none => exact runs_raising holds
    | some t =>
      obtain ⟨member, rfl⟩ := of_target_in looked
      exact runs_pure ⟨holds, given, current t member⟩

theorem note_running_runs {tool : Tool} {target : Option Str} (holds : I past s) :
    Runs (Safe cfg) (fun past' s' _ => past' = past ∧ I past s' ∧ s'.stopped = s.stopped)
      (fun past s _ => I past s) past s (note_running tool target) := by
  cases target with
  | none => exact runs_pure ⟨rfl, holds, rfl⟩
  | some target =>
    refine runs_read_bind (Runs.when (fun _ => runs_write ?_) fun _ => ⟨rfl, holds, rfl⟩)
    unfold DebuggerState.add_running
    split
    · exact ⟨rfl, holds, rfl⟩
    · exact ⟨rfl, steady.marks holds rfl rfl rfl, rfl⟩

/-- An inspection goes on for a stopped target only, and a wait for a stop forgets the last one. -/
theorem prepare_call_runs {tool : Tool} {target : Option Str} (holds : I past s) :
    Runs (Safe cfg) (fun past' s' _ => past' = past ∧ I past s' ∧
        (tool.inspects = true → ∃ t ∈ s'.stopped, target = some t) ∧
        (tool = .wait_for_stop → s'.stopped = []))
      (fun past s _ => I past s) past s (prepare_call tool target) := by
  refine runs_read_bind ?_
  split
  · exact runs_raising holds
  · rename_i passed
    refine (note_running_runs steady holds).bind fun past' s' _ both => ?_
    obtain ⟨rfl, holds, same⟩ := both
    refine Runs.when (fun waits => runs_write ?_) fun other => ⟨rfl, holds, fun inspects => ?_, ?_⟩
    · have waits := of_decide_eq_true waits
      exact ⟨rfl, steady.cleared holds, fun inspects => (by cases waits; cases inspects), fun _ => rfl⟩
    · rw [inspects, Bool.true_and, Bool.not_eq_true', Bool.not_eq_false] at passed
      obtain ⟨t, rfl, member⟩ := (Option.any_eq_true _ _).mp passed
      exact ⟨t, same ▸ of_decide_eq_true member, rfl⟩
    · exact fun waits => absurd waits (of_decide_eq_false other)

/-! ## Cleaning up -/

theorem preserves_invoke_checked {tool : Tool} (args : Arguments) (quiet : tool ≠ .raw_request) :
    Preserves (Safe cfg) I (invoke_checked tool args) := by
  have quiet : (DebugOp.invoke_private tool args).quiet = true := decide_eq_true quiet
  refine (preserves_quiet steady quiet).bind fun raw => ?_
  split
  · exact preserves_raising _
  · exact preserves_pure ()

theorem preserves_resume_targets (targets : List Str) :
    Preserves (Safe cfg) I (resume_targets cfg targets) := by
  induction targets with
  | nil => exact preserves_pure ()
  | cons target rest ih =>
    refine Preserves.bind ?_ fun _ => ih
    refine (preserves_quiet steady rfl).bind fun _ => ?_
    refine (preserves_refresh_targets steady).bind fun _ => preserves_read_bind fun s => ?_
    split
    · exact preserves_raising _
    · exact (preserves_invoke_checked steady _ (by decide)).when

theorem preserves_detach : Preserves (Safe cfg) I detach :=
  (preserves_invoke_checked steady [] (by decide)).bind fun _ =>
    preserves_marks steady (fun _ => rfl) (fun _ => rfl) fun _ => rfl

theorem preserves_fail_cleanup : Preserves (Safe cfg) I fail_cleanup :=
  preserves_marks steady (fun _ => rfl) (fun _ => rfl) fun _ => rfl

end Steady

/-! ## The measurement -/

theorem not_measures_of_off {ev : Event DebugOp} (off : switches_off cfg ev) : ¬ measures ev := by
  intro on
  rcases ev with ⟨op, answer⟩
  cases op with
  | relay_invoke tool args mode =>
    cases tool with
    | raw_request =>
      cases answer with
      | ok raw => cases off.2.1.symm.trans on.2
      | error exc => exact off
    | _ => exact on
  | _ => exact on

/-- The mark of the measurement after an event that sets it if it must. -/
theorem measurement_snoc {ev : Event DebugOp} (standing : Standing cfg past s)
    (active : measures ev → s.measurement_active = true)
    (outstanding : ¬ Followed measures (switches_off cfg) (past ++ [ev])) :
    s.measurement_active = true := by
  by_cases off : switches_off cfg ev
  · exact absurd (followed_snoc off (not_measures_of_off off)) outstanding
  by_cases on : measures ev
  · exact active on
  · rw [followed_snoc_of_neither on off] at outstanding
    exact standing.measurement outstanding

/-- The measurement may be forgotten after an event that switches it off. -/
theorem Standing.switched_off {ev : Event DebugOp} (standing : Standing cfg (past ++ [ev]) s)
    (off : switches_off cfg ev) :
    Standing cfg (past ++ [ev]) { s with measurement_active := false } where
  breakpoints := standing.breakpoints
  measurement outstanding := absurd (followed_snoc off (not_measures_of_off off)) outstanding

/-- What both marks and stops say. -/
abbrev Fine (cfg : DebuggerConfig) (past : List (Event DebugOp)) (s : DebuggerState) : Prop :=
  Standing cfg past s ∧ Stops cfg past s

theorem steady_fine : Steady (Fine cfg) := steady_standing.and steady_stops

theorem Fine.raw_request {args : Arguments} {r : Except Raised Entries} (fine : Fine cfg past s) :
    Fine cfg (past ++ [⟨.invoke_private .raw_request args, r⟩]) s := by
  refine ⟨⟨?_, measurement_snoc fine.1 False.elim⟩, fun target member =>
    (fine.2 target member).snoc ⟨id, False.elim⟩⟩
  rw [followed_snoc_of_neither id id]
  exact fine.1.breakpoints

theorem preserves_switch_off : Preserves (Safe cfg) (Fine cfg) (switch_off cfg) := by
  intro past s fine
  refine runs_read_bind (runs_rethrow_bind (fun off bound => ?_) fun _ _ => fine)
  refine runs_ask_bind trivial (fun raw => ?_) fun _ => fine.raw_request
  refine runs_rethrow_bind (fun response read => ?_) fun _ _ => fine.raw_request
  split
  · exact runs_raising fine.raw_request
  · rename_i good
    rw [Bool.or_eq_true, not_or, Bool.not_eq_true, Bool.not_eq_true, Bool.not_eq_false'] at good
    exact runs_write ⟨fine.raw_request.1.switched_off ⟨good.1, response, read, good.2⟩,
      fine.raw_request.2⟩

theorem preserves_cleanup_debugger : Preserves (Safe cfg) (Fine cfg) (cleanup_debugger cfg) := by
  refine preserves_read_bind fun s => ?_
  split
  · exact preserves_pure ()
  · have undone : Preserves (Safe cfg) (Fine cfg) (undo cfg) := by
      refine preserves_read_bind fun s => preserves_switch_off.when.bind fun _ => ?_
      refine (preserves_invoke_checked steady_fine [] (by decide)).when.bind fun _ => ?_
      exact preserves_resume_targets steady_fine _
    refine undone.attempt.bind fun undone => (preserves_fail_cleanup steady_fine).when.bind fun _ => ?_
    refine (preserves_detach steady_fine).attempt.bind fun detached => ?_
    refine (preserves_fail_cleanup steady_fine).when.bind fun _ => ?_
    exact (preserves_rethrow undone).bind fun _ => preserves_rethrow detached

/-! ## Calls -/

theorem Named.snoc {args : Arguments} {target : Option Str} {ev : Event DebugOp}
    (named : Named cfg past args target) (other : ¬ asks_targets ev) :
    Named cfg (past ++ [ev]) args target := by
  cases target with
  | none => exact named
  | some t => exact ⟨named.1, named.2.1, named.2.2.snoc other⟩

/-- The call switches the measurement on. -/
def Wanted (tool : Tool) (args : Arguments) (mode : Option Str) : Prop :=
  tool = .raw_request ∧ sets_measure_mode args = true ∧ given mode = true

theorem bound_request_runs {tool : Tool} {args : Arguments} (fine : Fine cfg past s) :
    Runs (Safe cfg) (fun past s r => Fine cfg past s ∧
        (Wanted tool r.1 r.2 → s.measurement_active = true))
      (fun past s _ => Fine cfg past s) past s (bound_request cfg tool args) := by
  unfold bound_request
  split
  · refine runs_read_bind (runs_rethrow_bind (fun bound _ => ?_) fun _ _ => fine)
    refine Runs.bind (Q := fun past s _ => Fine cfg past s ∧
      (Wanted tool bound.1 bound.2 → s.measurement_active = true)) ?_ fun _ _ _ both => both
    refine Runs.when (fun _ => runs_write ⟨⟨⟨fine.1.breakpoints, fun _ => rfl⟩, fine.2⟩, fun _ => rfl⟩)
      fun other => ⟨fine, fun wanted => ?_⟩
    rw [wanted.2.1, wanted.2.2] at other
    cases other
  · rename_i other
    exact runs_pure ⟨fine, fun wanted => absurd wanted.1 other⟩

/-- A call that may be forwarded. -/
structure Ready (cfg : DebuggerConfig) (past : List (Event DebugOp)) (s : DebuggerState) (tool : Tool)
    (args : Arguments) (mode : Option Str) (target : Option Str) : Prop where
  fine : Fine cfg past s
  active : Wanted tool args mode → s.measurement_active = true
  named : Named cfg past args target
  cleared : tool = .wait_for_stop → s.stopped = []

section Ready

variable {tool : Tool} {args : Arguments} {mode target : Option Str}

theorem wanted_of_measures {r : Except Raised Entries}
    (on : measures ⟨.relay_invoke tool args mode, r⟩) : Wanted tool args mode := by
  cases tool with
  | raw_request => exact ⟨rfl, on⟩
  | _ => exact on.elim

theorem tool_of_processed {wanted : Tool} {r : Except Raised Entries}
    (done : processed cfg wanted ⟨.relay_invoke tool args mode, r⟩) : tool = wanted := by
  cases r with
  | ok raw => exact done.1
  | error exc => exact done.elim

theorem tool_of_controls {t : Str} {r : Except Raised Entries}
    (controlled : controls t ⟨.relay_invoke tool args mode, r⟩) : tool.controls = true := controlled.1

/-- A call of which the marks take no notice. -/
theorem Ready.standing (ready : Ready cfg past s tool args mode target) {r : Except Raised Entries}
    (unset : ¬ processed cfg .set_breakpoints ⟨.relay_invoke tool args mode, r⟩)
    (uncleared : ¬ processed cfg .clear_breakpoints ⟨.relay_invoke tool args mode, r⟩) :
    Standing cfg (past ++ [⟨.relay_invoke tool args mode, r⟩]) s where
  breakpoints := by
    rw [followed_snoc_of_neither unset uncleared]
    exact ready.fine.1.breakpoints
  measurement := measurement_snoc ready.fine.1 fun on => ready.active (wanted_of_measures on)

/-- A call that ends the stop of a target in vain. -/
theorem Ready.stops (ready : Ready cfg past s tool args mode target) {r : Except Raised Entries}
    (vain : ∀ t ∈ s.stopped, controls t ⟨.relay_invoke tool args mode, r⟩ →
      failed cfg ⟨.relay_invoke tool args mode, r⟩) :
    Stops cfg (past ++ [⟨.relay_invoke tool args mode, r⟩]) s := by
  intro t member
  refine (ready.fine.2 t member).snoc ⟨fun waits => ?_, vain t member⟩
  have waits : tool = .wait_for_stop := waits
  rw [ready.cleared waits] at member
  cases member

theorem Ready.plain (ready : Ready cfg past s tool args mode target) {r : Except Raised Entries}
    (unset : tool ≠ .set_breakpoints) (uncleared : tool ≠ .clear_breakpoints)
    (harmless : tool.controls = false) :
    Fine cfg (past ++ [⟨.relay_invoke tool args mode, r⟩]) s := by
  refine ⟨ready.standing (fun done => unset (tool_of_processed done))
    fun done => uncleared (tool_of_processed done), ready.stops fun t _ controlled => ?_⟩
  cases harmless.symm.trans (tool_of_controls controlled)

/-- No more calls are taken after it. -/
def closes (exc : Raised) : Prop := exc = .CancelledError ∨ exc = .TimeoutError

/-- What a call leaves that raises. -/
def Raises (cfg : DebuggerConfig) (past : List (Event DebugOp)) (s : DebuggerState) (exc : Raised) :
    Prop :=
  Standing cfg past s ∧ (¬ closes exc → Stops cfg past s)

theorem Fine.raises {exc : Raised} (fine : Fine cfg past s) : Raises cfg past s exc :=
  ⟨fine.1, fun _ => fine.2⟩

theorem Ready.raises (ready : Ready cfg past s tool args mode target) (exc : Raised) :
    Raises cfg (past ++ [⟨.relay_invoke tool args mode, .error exc⟩]) s exc :=
  ⟨ready.standing id id, fun goes_on => ready.stops fun _ _ _ => not_or.mp goes_on⟩

/-! ### Results -/

/-- How a call ends that was forwarded. -/
abbrev Ends (cfg : DebuggerConfig) (past : List (Event DebugOp)) (s : DebuggerState)
    (p : Routine Entries) : Prop :=
  Runs (Safe cfg) (fun past s _ => Fine cfg past s) (Raises cfg) past s p

theorem ends_of_preserves {p : Routine Entries} (preserves : Preserves (Safe cfg) (Fine cfg) p)
    (fine : Fine cfg past s) : Ends cfg past s p :=
  (preserves past s fine).mono (fun _ _ _ fine => fine) fun _ _ _ fine => fine.raises

theorem preserves_after_attach (raw : Entries) :
    Preserves (Safe cfg) (Fine cfg) (after_attach cfg raw) := by
  unfold after_attach
  split
  · exact preserves_raising _
  · refine (preserves_rethrow _).bind fun data => ?_
    split
    · exact preserves_raising _
    · refine Preserves.bind ?_ fun _ => preserves_pure _
      exact preserves_marks steady_fine (fun _ => rfl) (fun _ => rfl) fun _ => rfl

theorem preserves_after_get_targets (raw : Entries) :
    Preserves (Safe cfg) (Fine cfg) (after_get_targets cfg raw) := by
  refine (preserves_rethrow _).bind fun rows => (preserves_rethrow _).bind fun targets => ?_
  refine Preserves.bind ?_ fun _ => (preserves_rethrow _).bind fun _ => preserves_pure _
  exact preserves_marks steady_fine (fun _ => rfl) (fun _ => rfl) fun _ => rfl

/-- A target that a `wait_for_stop` has just reported. -/
theorem after_wait_for_stop_ends {raw result : Entries}
    (fine : Fine cfg (past ++ [⟨.relay_invoke .wait_for_stop args mode, .ok raw⟩]) s)
    (success : is_error raw = false) :
    Ends cfg (past ++ [⟨.relay_invoke .wait_for_stop args mode, .ok raw⟩]) s
      (after_wait_for_stop cfg raw result) := by
  refine runs_rethrow_bind (fun data read => ?_) fun _ _ => fine.raises
  -- what it reports stays the latest report while the targets are refreshed
  have reported : ∀ t, Python.get data "targetId" = some (.str t) → StoppedSince cfg
      (past ++ [⟨.relay_invoke .wait_for_stop args mode, .ok raw⟩]) t :=
    fun t named => since_last ⟨success, data, read, named⟩
  generalize past ++ [⟨.relay_invoke .wait_for_stop args mode, .ok raw⟩] = past at fine reported
  have steady : Steady fun past _ => ∀ t, Python.get data "targetId" = some (.str t) →
      StoppedSince cfg past t := by
    refine ⟨fun {past s β op answer} since quiet t named => ?_, fun since _ _ _ => since,
      fun since => since⟩
    obtain ⟨-, -, -, unforwarded, uncontrolled⟩ := quiet_event cfg answer quiet
    exact (since t named).snoc ⟨unforwarded _, fun controlled => absurd controlled (uncontrolled t)⟩
  refine ((preserves_refresh_targets (steady_fine.and steady) past s ⟨fine, reported⟩).mono
    (fun _ _ _ both => both) fun _ _ _ both => both.1.raises).bind fun past s _ both => ?_
  obtain ⟨fine, reported⟩ := both
  refine runs_read_bind (runs_rethrow_bind (fun found looked => ?_) fun _ _ => fine.raises)
  cases found with
  | none => exact runs_raising fine.raises
  | some t =>
    obtain ⟨-, named⟩ := of_target_in looked
    have named : Python.get data "targetId" = some (.str t) := by
      cases given : Python.get data "targetId" with
      | none =>
        rw [given] at named
        cases named
      | some v =>
        rw [given] at named
        exact congrArg some named
    have stopped : Fine cfg past { s with stopped := [t] } :=
      ⟨⟨fine.1.breakpoints, fine.1.measurement⟩, fun u member => by
        rw [List.mem_singleton.mp member]
        exact reported t named⟩
    refine runs_write_bind ?_
    split
    · exact runs_raising stopped.raises
    · exact runs_pure stopped

/-- A native request may have switched the measurement off. -/
theorem after_raw_request_runs {raw : Entries}
    (fine : Fine cfg (past ++ [⟨.relay_invoke .raw_request args mode, .ok raw⟩]) s)
    (success : is_error raw = false) :
    Runs (Safe cfg) (fun past s _ => Fine cfg past s) (Raises cfg)
      (past ++ [⟨.relay_invoke .raw_request args mode, .ok raw⟩]) s
      (after_success cfg .raw_request args mode target raw) := by
  refine Runs.when (fun wanted => ?_) fun _ => fine
  rw [Bool.and_eq_true, Bool.not_eq_true'] at wanted
  refine runs_rethrow_bind (fun response read => ?_) fun _ _ => fine.raises
  refine Runs.when (fun good => runs_write ⟨?_, fine.2⟩) fun _ => fine
  exact fine.1.switched_off ⟨wanted.1, wanted.2, success, response, read, good⟩

/-- A command that was processed ends the stop of its target. -/
theorem Ready.controlled (ready : Ready cfg past s tool args mode target) {r : Except Raised Entries}
    (control : tool.controls = true) :
    Fine cfg (past ++ [⟨.relay_invoke tool args mode, r⟩])
      { s with stopped := s.stopped.filter fun stopped => some stopped ≠ target } := by
  have unset : ¬ processed cfg .set_breakpoints ⟨.relay_invoke tool args mode, r⟩ := by
    intro done
    cases tool_of_processed done
    cases control
  have uncleared : ¬ processed cfg .clear_breakpoints ⟨.relay_invoke tool args mode, r⟩ := by
    intro done
    cases tool_of_processed done
    cases control
  have standing := ready.standing unset uncleared
  refine ⟨⟨standing.breakpoints, standing.measurement⟩, fun t member => ?_⟩
  obtain ⟨member, other⟩ := List.mem_filter.mp member
  refine (ready.fine.2 t member).snoc ⟨fun waits => ?_, fun controlled => ?_⟩
  · cases (show tool = .wait_for_stop from waits)
    cases control
  · refine absurd ?_ (of_decide_eq_true other)
    have named := ready.named
    cases target with
    | none => cases named _ controlled.2
    | some own =>
      cases controlled.2.symm.trans named.1
      rfl

theorem Ready.set (ready : Ready cfg past s .set_breakpoints args mode target) {raw : Entries}
    (done : processed cfg .set_breakpoints ⟨.relay_invoke .set_breakpoints args mode, .ok raw⟩) :
    Fine cfg (past ++ [⟨.relay_invoke .set_breakpoints args mode, .ok raw⟩])
      { s with breakpoints := true } := by
  refine ⟨⟨iff_of_true rfl fun followed => ?_, measurement_snoc (s := s) ready.fine.1 False.elim⟩,
    ready.stops fun t _ controlled => by cases controlled.1⟩
  obtain ⟨cleared, none, -⟩ := followed past _ [] rfl done
  cases none

theorem Ready.clear (ready : Ready cfg past s .clear_breakpoints args mode target) {raw : Entries}
    (done : processed cfg .clear_breakpoints ⟨.relay_invoke .clear_breakpoints args mode, .ok raw⟩) :
    Fine cfg (past ++ [⟨.relay_invoke .clear_breakpoints args mode, .ok raw⟩])
      { s with breakpoints := false } := by
  have other : ¬ processed cfg .set_breakpoints
      ⟨.relay_invoke .clear_breakpoints args mode, .ok raw⟩ := by
    intro done
    cases tool_of_processed done
  exact ⟨⟨iff_of_false Bool.false_ne_true (not_not_intro (followed_snoc done other)),
    measurement_snoc (s := s) ready.fine.1 False.elim⟩, ready.stops fun t _ controlled => by cases controlled.1⟩

theorem process_result_ends (ready : Ready cfg past s tool args mode target) (raw : Entries) :
    Ends cfg (past ++ [⟨.relay_invoke tool args mode, .ok raw⟩]) s
      (process_result cfg tool args mode target raw) := by
  refine runs_rethrow_bind (fun result read => ?_) fun exc unread => ?_
  · have readable : (payload cfg.library.toLibrary raw).isOk = true := by
      rw [read]
      rfl
    -- a tool that leaves the marks alone
    have plain (unset : tool ≠ .set_breakpoints) (uncleared : tool ≠ .clear_breakpoints)
        (harmless : tool.controls = false) :
        Fine cfg (past ++ [⟨.relay_invoke tool args mode, .ok raw⟩]) s :=
      ready.plain unset uncleared harmless
    -- a tool whose success matters: what it leaves when it fails, and when it succeeds
    have marked {p : Routine Unit}
        (fails : is_error raw = true → Fine cfg (past ++ [⟨.relay_invoke tool args mode, .ok raw⟩]) s)
        (succeeds : is_error raw = false → Runs (Safe cfg) (fun past s _ => Fine cfg past s) (Raises cfg)
          (past ++ [⟨.relay_invoke tool args mode, .ok raw⟩]) s p) :
        Ends cfg (past ++ [⟨.relay_invoke tool args mode, .ok raw⟩]) s (do
          when (!is_error raw) p
          pure result) := by
      refine Runs.bind (Q := fun past s _ => Fine cfg past s) (Runs.when (fun success => ?_)
        fun failure => ?_) fun _ _ _ fine => runs_pure fine
      · exact succeeds (Bool.not_eq_true' _ ▸ success)
      · exact fails (by rwa [Bool.not_eq_false'] at failure)
    -- a tool whose success says nothing to the marks
    have silent (failure : is_error raw = true) {wanted : Tool} :
        ¬ processed cfg wanted ⟨.relay_invoke tool args mode, .ok raw⟩ := by
      intro done
      cases failure.symm.trans done.2.1
    have fails (failure : is_error raw = true) :
        Fine cfg (past ++ [⟨.relay_invoke tool args mode, .ok raw⟩]) s :=
      ⟨ready.standing (silent failure) (silent failure), ready.stops fun _ _ _ => .inl failure⟩
    cases tool with
    | attach =>
      exact ends_of_preserves (preserves_after_attach raw) (plain (by decide) (by decide) rfl)
    | get_targets =>
      exact ends_of_preserves (preserves_after_get_targets raw) (plain (by decide) (by decide) rfl)
    | wait_for_stop =>
      have fine := plain (by decide) (by decide) rfl
      change Ends cfg _ s (if is_error raw then pure result else after_wait_for_stop cfg raw result)
      split
      · exact runs_pure fine
      · rename_i success
        exact after_wait_for_stop_ends fine (Bool.not_eq_true _ ▸ success)
    | set_breakpoints =>
      exact marked fails fun success => runs_write (ready.set ⟨rfl, success, readable⟩)
    | clear_breakpoints =>
      exact marked fails fun success => runs_write (ready.clear ⟨rfl, success, readable⟩)
    | continue_ | step_in | step_out | pause =>
      exact marked fails fun _ => runs_write (ready.controlled rfl)
    | raw_request =>
      exact marked fails fun success =>
        after_raw_request_runs (plain (by decide) (by decide) rfl) success
    | _ => exact marked fails fun _ => runs_pure (plain (by decide) (by decide) rfl)
  · have unread : (payload cfg.library.toLibrary raw).isOk = false := by
      rw [unread]
      rfl
    have unprocessed (wanted : Tool) :
        ¬ processed cfg wanted ⟨.relay_invoke tool args mode, .ok raw⟩ := by
      intro done
      cases unread.symm.trans done.2.2
    exact Fine.raises ⟨ready.standing (unprocessed _) (unprocessed _),
      ready.stops fun _ _ _ => .inr unread⟩

end Ready

/-! ### The course of a call -/

variable {tool : Tool} {args : Arguments}

theorem Named.permitted {mode target : Option Str} (ready : Ready cfg past s tool args mode target)
    (inspected : tool.inspects = true → ∃ t ∈ s.stopped, target = some t) :
    Permitted cfg past tool args where
  inspection inspects := by
    obtain ⟨t, member, rfl⟩ := inspected inspects
    obtain ⟨given, allowed, listed⟩ := ready.named
    exact ⟨t, given, allowed, listed, ready.fine.2 t member⟩
  control _ named given there := by
    have own := ready.named
    cases target with
    | none => cases there.symm.trans (own named given)
    | some t =>
      obtain ⟨own, allowed, -⟩ := own
      cases given.symm.trans own
      exact ⟨t, allowed, rfl⟩

theorem forward_call_runs (fine : Fine cfg past s) :
    Runs (Safe cfg) (fun past s _ => Fine cfg past s) (Raises cfg) past s (forward_call cfg tool args) := by
  refine ((bound_request_runs fine).mono (fun _ _ _ both => both)
    fun _ _ _ fine => fine.raises).bind fun past s bound both => ?_
  have steady : Steady fun past s => Fine cfg past s ∧
      (Wanted tool bound.1 bound.2 → s.measurement_active = true) :=
    steady_fine.and (steady_measuring _)
  refine ((checked_target_runs steady both).mono (fun _ _ _ both => both)
    fun _ _ _ both => both.1.raises).bind fun past s target both => ?_
  obtain ⟨both, named⟩ := both
  refine ((prepare_call_runs steady both).mono (fun _ _ _ all => all)
    fun _ _ _ both => both.1.raises).bind fun past' s _ all => ?_
  obtain ⟨rfl, both, inspected, cleared⟩ := all
  have asked (r : Except Raised Unit) : Fine cfg (past' ++ [⟨.admission_check, r⟩]) s ∧
      (Wanted tool bound.1 bound.2 → s.measurement_active = true) := steady.quiet both rfl
  refine runs_ask_bind trivial (fun _ => ?_) fun _ => (asked _).1.raises
  have ready : Ready cfg _ s tool bound.1 bound.2 target :=
    ⟨(asked (.ok ())).1, (asked (.ok ())).2, named.snoc id, cleared⟩
  refine runs_ask_bind (Named.permitted ready inspected) (fun raw => ?_) ready.raises
  refine (process_result_ends ready raw).bind fun past s result fine => ?_
  refine runs_ask trivial fun r => ?_
  cases r with
  | ok _ => exact steady_fine.quiet fine rfl
  | error _ => exact (steady_fine.quiet fine rfl : Fine cfg _ _).raises

/-- What holds between two calls: `stopped` counts while calls are taken. -/
structure Kept (cfg : DebuggerConfig) (past : List (Event DebugOp)) (s : DebuggerState) : Prop where
  standing : Standing cfg past s
  stops : s.dispatch_ready = true → Stops cfg past s

theorem Fine.kept (fine : Fine cfg past s) : Kept cfg past s := ⟨fine.1, fun _ => fine.2⟩

theorem Kept.quiet {op : DebugOp β} {answer : β} (kept : Kept cfg past s) (quiet : op.quiet = true) :
    Kept cfg (past ++ [⟨op, answer⟩]) s :=
  ⟨kept.standing.quiet quiet, fun taken => (kept.stops taken).quiet quiet⟩

theorem Standing.closed (standing : Standing cfg past s) :
    Kept cfg past { s with dispatch_ready := false } :=
  ⟨⟨standing.breakpoints, standing.measurement⟩, fun impossible => by cases impossible⟩

theorem dispatch_body_runs {params : Python.Value} (kept : Kept cfg past s) :
    Runs (Safe cfg) (fun past s _ => Kept cfg past s)
      (fun past s exc => Standing cfg past s ∧ (¬ closes exc → Kept cfg past s)) past s
      (dispatch_body cfg params) := by
  have raises {past : List (Event DebugOp)} {s : DebuggerState} {exc : Raised}
      (kept : Kept cfg past s) : Standing cfg past s ∧ (¬ closes exc → Kept cfg past s) :=
    ⟨kept.standing, fun _ => kept⟩
  refine runs_read_bind ?_
  split
  · exact runs_raising (raises kept)
  · rename_i taken
    have fine : Fine cfg past s := ⟨kept.standing, kept.stops (by simpa using taken)⟩
    refine runs_rethrow_bind (fun admitted _ => ?_) fun _ _ => raises kept
    have asked (r : Except Raised Unit) : Fine cfg (past ++ [⟨.admission_check, r⟩]) s :=
      steady_fine.quiet fine rfl
    refine runs_ask_bind trivial (fun _ => ?_) fun _ => raises (asked _).kept
    have attached : Preserves (Safe cfg) (Fine cfg) (attached_arguments cfg admitted.1 admitted.2) := by
      refine preserves_read_bind fun s => ?_
      split
      · split
        · exact preserves_raising _
        · refine Preserves.bind ?_ fun _ => preserves_pure _
          exact preserves_marks steady_fine (fun _ => rfl) (fun _ => rfl) fun _ => rfl
      · split
        · exact preserves_raising _
        · exact preserves_pure _
    refine ((attached _ s (asked _)).mono (fun _ _ _ fine => fine)
      fun _ _ _ fine => raises fine.kept).bind fun past s args fine => ?_
    split
    · refine ((preserves_cleanup_debugger past s fine).mono (fun _ _ _ fine => fine)
        fun _ _ _ fine => raises fine.kept).bind fun past s _ fine => runs_write_bind ?_
      refine runs_ask trivial fun r => ?_
      cases r with
      | ok _ => exact fine.1.closed.quiet rfl
      | error _ => exact raises (fine.1.closed.quiet rfl)
    · refine (forward_call_runs fine).mono (fun _ _ _ fine => fine.kept) fun _ _ exc left => ?_
      exact ⟨left.1, fun goes_on => ⟨left.1, fun _ => left.2 goes_on⟩⟩

/-- **A call keeps the marks**, however it ends. -/
theorem preserves_dispatch_call (params : Python.Value) :
    Preserves (Safe cfg) (Kept cfg) (dispatch_call cfg params) := by
  intro past s kept
  refine (dispatch_body_runs kept).attempt.bind fun past s ended left => ?_
  cases ended with
  | ok _ => exact left
  | error exc =>
    obtain ⟨standing, left⟩ := left
    have told {op : DebugOp (Except Raised Unit)} (quiet : op.quiet = true) :
        Preserves (Safe cfg) (Kept cfg) (ask op : Routine Unit) :=
      preserves_ask fun _ _ kept => ⟨safe_of_quiet quiet, fun _ => kept.quiet quiet⟩
    cases exc with
    | CancelledError => exact runs_write standing.closed
    | TimeoutError => exact runs_write_bind (((told rfl).bind fun _ => told rfl) past _ standing.closed)
    | _ => exact told rfl past s (left (by rintro (same | same) <;> cases same))

/-! ## Runs -/

theorem kept_new : Kept cfg [] .new where
  standing := ⟨iff_of_false Bool.false_ne_true (not_not_intro followed_nil),
    fun outstanding => absurd followed_nil outstanding⟩
  stops _ _ none := absurd none List.not_mem_nil

theorem occur_keeps (occurrence : Occurrence) :
    Preserves (Safe cfg) (Kept cfg) (occur cfg occurrence) := by
  cases occurrence with
  | call params => exact preserves_dispatch_call params
  | close => exact preserves_write fun _ _ kept => kept.standing.closed

/-- A new provider that is given one call after the other. -/
def served (cfg : DebuggerConfig) (occurrences : List Occurrence) :
    Prog DebugOp (Except Raised Unit × DebuggerState) :=
  each (occur cfg) occurrences .new

variable {occurrences : List Occurrence} {tr : List (Event DebugOp)}

theorem served_runs : Runs (Safe cfg) (fun past s _ => Kept cfg past s) (fun past s _ => Kept cfg past s)
    [] .new (each (occur cfg) occurrences) :=
  Preserves.each occur_keeps [] .new kept_new

/-- What a provider remembers after its calls. -/
theorem kept_of_served {r : Except Raised Unit} (run : Exec (served cfg occurrences) tr (.ret (r, s))) :
    Kept cfg tr s :=
  (served_runs.exec run).always

/-- What is forwarded at any time is permitted. -/
theorem permitted_of_served {q : Prog DebugOp (Except Raised Unit × DebuggerState)} {tool : Tool}
    {args : Arguments} {mode : Option Str} {r : Except Raised Entries} {a b : List (Event DebugOp)}
    (run : Exec (served cfg occurrences) (a ++ ⟨.relay_invoke tool args mode, r⟩ :: b) q) :
    Permitted cfg a tool args := by
  obtain ⟨k, before, -⟩ := run.split
  exact Prog.Guarded.exec served_runs before

end SessionManager.Debugger
