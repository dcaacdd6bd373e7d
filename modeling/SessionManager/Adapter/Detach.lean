import SessionManager.Adapter.Cleanup

/-!
# How a cleanup ends

After an attach was attempted, `cleanup_debugger` undoes what it can and detaches.  The requests
before the detach stop at the first failure; a target goes on only when the admission check and the
list of targets right before say so; and whatever failed first is raised once the detach is over.
-/

namespace SessionManager.Debugger

open Python (Str Entries)

open Effect Method Trace

variable {cfg : DebuggerConfig} {s s' : DebuggerState} {past tr : List (Event DebugOp)}
  {ev : Event DebugOp} {target : Str} {raw : Entries} {n : Nat} {exc : Raised}
  {r : Except Raised Unit}

/-! ## What a target goes on by -/

/-- The row of a target. -/
def row_of (target : Str) (row : Entries) : Prop :=
  ∃ id, Python.get row "targetID" = some (.dict id) ∧ Python.get id "id" = some (.str target)

/-- The target is allowed, and its latest row in the list says that it is suspended. -/
def confirms (cfg : DebuggerConfig) (target : Str) (raw : Entries) : Prop :=
  target ∈ cfg.binding.allowed_target_ids ∧ ∃ above row below,
    target_rows cfg raw = .ok (above ++ .dict row :: below) ∧ row_of target row ∧
      Python.get row "suspended" = some (.bool true) ∧
        ∀ other, Python.Value.dict other ∈ below → ¬ row_of target other

/-- A target to resume, admitted and confirmed by the two requests before. -/
def Confirmed (cfg : DebuggerConfig) (s : DebuggerState) (past : List (Event DebugOp))
    (ev : Event DebugOp) : Prop :=
  ∃ earlier raw target answer,
    past = earlier ++ [⟨.admission_check, .ok ()⟩, ⟨.invoke_private .get_targets [], .ok raw⟩] ∧
      ev = ⟨.invoke_private .continue_ [(Python.text "targetId", .str target)], answer⟩ ∧
        target ∈ s.restore_running ∧ confirms cfg target raw

/-- No request detaches, and a target is continued only if it is confirmed. -/
def Fair (cfg : DebuggerConfig) (s : DebuggerState) (past : List (Event DebugOp)) : Prop :=
  Throughout (fun before ev => ¬ sends .detach ev ∧
    (sends .continue_ ev → Confirmed cfg s before ev)) past

/-! ## Failures -/

def checks_admission : Event DebugOp → Bool
  | ⟨.admission_check, _⟩ => true
  | _ => false

/-- The target whose turn it is: there is one admission check for each. -/
def in_turn (s : DebuggerState) (past : List (Event DebugOp)) : Option Str :=
  (s.restore_running.take (past.countP checks_admission)).getLast?

/-- What the answer to a private request makes the cleanup raise: the request's own exception, or
that of a result that is an error or does not say what it should. -/
def failure (cfg : DebuggerConfig) (s : DebuggerState) (past : List (Event DebugOp)) :
    Event DebugOp → Option Raised
  | ⟨.admission_check, .error exc⟩ => some exc
  | ⟨.invoke_private _ _, .error exc⟩ => some exc
  | ⟨.invoke_private .raw_request _, .ok raw⟩ =>
    match logical_data cfg raw with
    | .error exc => some exc
    | .ok response => if is_error raw || !status_ok response then some .TransportError else none
  | ⟨.invoke_private .get_targets _, .ok raw⟩ =>
    match target_rows cfg raw >>= allowed_targets cfg with
    | .error exc => some exc
    | .ok targets =>
      if (in_turn s past).any fun target => target ∈ targets.map Prod.fst then none
      else some .AdmissionError
  | ⟨.invoke_private _ _, .ok raw⟩ => if is_error raw then some .TransportError else none
  | _ => none

/-- Nothing has failed. -/
def Clean (cfg : DebuggerConfig) (s : DebuggerState) (past : List (Event DebugOp)) : Prop :=
  Throughout (fun before ev => failure cfg s before ev = none) past

/-- The requests before the detach end with the first failure; where the request that switches the
measurement off cannot be bound, there are none. -/
inductive FirstFailure (cfg : DebuggerConfig) (s : DebuggerState) :
    List (Event DebugOp) → Raised → Prop
  | unbound {exc : Raised} : s.measurement_active = true → off_bound cfg s = .error exc →
    FirstFailure cfg s [] exc
  | request {past : List (Event DebugOp)} {ev : Event DebugOp} {exc : Raised} : Clean cfg s past →
    failure cfg s past ev = some exc → FirstFailure cfg s (past ++ [ev]) exc

/-- The detach succeeded. -/
def detaches : Except Raised Entries → Bool
  | .ok raw => !is_error raw
  | .error _ => false

/-- How a detach ends by its answer. -/
def detach_outcome : Except Raised Entries → Except Raised Unit
  | .ok raw => if is_error raw then .error .TransportError else .ok ()
  | .error exc => .error exc

/-- How a cleanup from `s` ends, by its requests before the detach and the answer to that. -/
structure Ended (cfg : DebuggerConfig) (s : DebuggerState) (before : List (Event DebugOp))
    (answer : Except Raised Entries) (r : Except Raised Unit) (s' : DebuggerState) : Prop where
  fair : Fair cfg s before
  /-- Nothing is asked after a failure but the detach. -/
  halted : ∀ a ev b, before = a ++ ev :: b → failure cfg s a ev ≠ none → b = []
  /-- The first failure is raised; without one, every target had its turn. -/
  raised : (∃ exc, FirstFailure cfg s before exc ∧ r = .error exc) ∨
    (Clean cfg s before ∧ before.countP checks_admission = s.restore_running.length ∧
      r = detach_outcome answer)
  cleared : s'.attach_attempted = false ↔ detaches answer = true

/-! ## The requests before the detach -/

/-- So far nothing has failed, and so many targets had their turn. -/
structure Going (cfg : DebuggerConfig) (s : DebuggerState) (n : Nat) (past : List (Event DebugOp))
    (s' : DebuggerState) : Prop where
  clean : Clean cfg s past
  fair : Fair cfg s past
  turns : past.countP checks_admission = n
  attempted : s'.attach_attempted = true

/-- The first failure has occurred. -/
structure Halted (cfg : DebuggerConfig) (s : DebuggerState) (past : List (Event DebugOp))
    (s' : DebuggerState) (exc : Raised) : Prop where
  first : FirstFailure cfg s past exc
  fair : Fair cfg s past
  attempted : s'.attach_attempted = true

/-- The request may be asked next. -/
def Due (cfg : DebuggerConfig) (s : DebuggerState) (past : List (Event DebugOp))
    (ev : Event DebugOp) : Prop :=
  ¬ sends .detach ev ∧ (sends .continue_ ev → Confirmed cfg s past ev)

theorem Going.next (going : Going cfg s n past s') (due : Due cfg s past ev)
    (good : failure cfg s past ev = none) :
    Going cfg s (n + [ev].countP checks_admission) (past ++ [ev]) s' where
  clean := throughout_snoc_iff.mpr ⟨going.clean, good⟩
  fair := throughout_snoc_iff.mpr ⟨going.fair, due⟩
  turns := by rw [List.countP_append, going.turns]
  attempted := going.attempted

theorem Going.halt (going : Going cfg s n past s') (due : Due cfg s past ev)
    (bad : failure cfg s past ev = some exc) : Halted cfg s (past ++ [ev]) s' exc where
  first := .request going.clean bad
  fair := throughout_snoc_iff.mpr ⟨going.fair, due⟩
  attempted := going.attempted

/-- A tool of the cleanup that is neither the detach nor bound to a target. -/
theorem due_of_plain {tool : Tool} {args : Arguments} {answer : Except Raised Entries}
    (attached : tool ≠ .detach) (paused : tool ≠ .continue_) :
    Due cfg s past ⟨.invoke_private tool args, answer⟩ :=
  ⟨attached, fun same => absurd same paused⟩

theorem failure_of_unread {tool : Tool} {args : Arguments} (read : tool ≠ .raw_request)
    (listed : tool ≠ .get_targets) :
    failure cfg s past ⟨.invoke_private tool args, .ok raw⟩ =
      if is_error raw then some .TransportError else none := by
  cases tool with
  | raw_request => exact absurd rfl read
  | get_targets => exact absurd rfl listed
  | _ => rfl

/-- A request whose result is not read. -/
theorem invoke_checked_runs {tool : Tool} {args : Arguments} (going : Going cfg s n past s')
    (read : tool ≠ .raw_request) (listed : tool ≠ .get_targets)
    (due : ∀ answer, Due cfg s past ⟨.invoke_private tool args, answer⟩) :
    Runs (Safe cfg) (fun past s' _ => Going cfg s n past s') (Halted cfg s) past s'
      (invoke_checked tool args) := by
  refine runs_ask_bind trivial (fun raw => ?_) fun exc => going.halt (due _) rfl
  have answered : failure cfg s past ⟨.invoke_private tool args, .ok raw⟩ =
      if is_error raw then some .TransportError else none := failure_of_unread read listed
  split
  · rename_i bad
    rw [if_pos bad] at answered
    exact runs_raising (going.halt (due _) answered)
  · rename_i good
    rw [if_neg good] at answered
    exact runs_pure (going.next (due _) answered)

theorem switch_off_goes (going : Going cfg s 0 [] s) (active : s.measurement_active = true) :
    Runs (Safe cfg) (fun past s' _ => Going cfg s 0 past s') (Halted cfg s) [] s
      (switch_off cfg) := by
  refine runs_read_bind (runs_rethrow_bind (fun off bound => ?_) fun exc unbound => ?_)
  · have due (answer : Except Raised Entries) :
        Due cfg s [] ⟨.invoke_private .raw_request off.1, answer⟩ :=
      due_of_plain (by decide) (by decide)
    refine runs_ask_bind trivial (fun raw => ?_) fun exc => going.halt (due _) rfl
    refine runs_rethrow_bind (fun response read => ?_) fun exc unread => ?_
    · split
      · rename_i bad
        exact runs_raising (going.halt (due _) (by simp [failure, read, bad]))
      · rename_i good
        have next := going.next (due (.ok raw)) (by simp [failure, read, good])
        exact runs_write ⟨next.clean, next.fair, next.turns, next.attempted⟩
    · exact going.halt (due _) (by simp [failure, unread])
  · exact ⟨.unbound active unbound, going.fair, going.attempted⟩

/-! ## One target -/

theorem allowed_row_of {row : Entries} (allowed : target ∈ cfg.binding.allowed_target_ids)
    (own : row_of target row) :
    allowed_row cfg (.dict row) =
      .ok (some (target, (Python.get row "suspended").getD .None)) := by
  obtain ⟨id, names, same⟩ := own
  have found : cfg.binding.allowed_target_ids.find? (fun t => is_str t (.str target)) =
      some target := by
    obtain ⟨t, found⟩ := Option.isSome_iff_exists.mp
      (List.find?_isSome (p := fun t => is_str t (.str target)).mpr
        ⟨target, allowed, is_str_iff.mpr rfl⟩)
    have same := List.find?_some (p := fun t => is_str t (.str target)) found
    cases is_str_iff.mp same
    exact found
  simp [allowed_row, names, same, target_in, hashable, found]

/-- The last entry of a key comes from one element, and none after it has the key. -/
theorem latest_entry {α β γ : Type} [BEq β] [LawfulBEq β] {f : α → Option (β × γ)} {l : List α}
    {key : β} {value : γ} (found : (l.filterMap f).reverse.lookup key = some value) :
    ∃ a x b, l = a ++ x :: b ∧ f x = some (key, value) ∧ ∀ y ∈ b, ∀ w, f y ≠ some (key, w) := by
  induction l using List.reverseRecOn with
  | nil => cases found
  | append_singleton l x ih =>
    -- the last element has the key, or the entry is found in what comes before
    have earlier (before : (l.filterMap f).reverse.lookup key = some value)
        (other : ∀ w, f x ≠ some (key, w)) : ∃ a y b, l ++ [x] = a ++ y :: b ∧
          f y = some (key, value) ∧ ∀ z ∈ b, ∀ w, f z ≠ some (key, w) := by
      obtain ⟨a, y, b, rfl, here, later⟩ := ih before
      refine ⟨a, y, b ++ [x], by simp, here, fun z member => ?_⟩
      rcases List.mem_append.mp member with member | last
      · exact later z member
      · cases List.mem_singleton.mp last
        exact other
    cases head : f x with
    | none => exact earlier (by simpa [head] using found) (by simp [head])
    | some entry =>
      obtain ⟨k, v⟩ := entry
      by_cases same : key = k
      · subst same
        refine ⟨l, x, [], rfl, ?_, by simp⟩
        simpa [head, List.lookup_cons] using found
      · refine earlier ?_ (by simp [head, Ne.symm same])
        simpa [head, List.lookup_cons, beq_false_of_ne same] using found

theorem entries_of_mapM {α β : Type} {f : α → Except Raised (Option β)} {l : List α}
    {found : List (Option β)} (ran : l.mapM f = .ok found) :
    found.filterMap id = l.filterMap fun x => (f x).toOption.join := by
  have all := forall₂_of_mapM ran
  clear ran
  induction all with
  | nil => rfl
  | @cons x y _ _ here _ ih =>
    have head : (f x).toOption.join = y := by
      rw [here]
      rfl
    cases y with
    | none => simpa [head] using ih
    | some entry => simpa [head] using ih

/-- The latest state of a current target, in the list it was refreshed from. -/
theorem confirms_of_refreshed {rows : List Python.Value} {targets : List (Str × Python.Value)}
    (read : target_rows cfg raw = .ok rows) (allowed : allowed_targets cfg rows = .ok targets)
    (suspended : targets.reverse.lookup target = some (.bool true)) : confirms cfg target raw := by
  obtain ⟨found, ran, same⟩ := bind_eq_ok.mp allowed
  cases same
  rw [entries_of_mapM ran] at suspended
  obtain ⟨above, value, below, rfl, here, later⟩ := latest_entry suspended
  have given : allowed_row cfg value = .ok (some (target, .bool true)) := by
    cases answer : allowed_row cfg value with
    | error exc => simp [answer, Except.toOption] at here
    | ok entry => simpa [answer, Except.toOption] using here
  obtain ⟨mine, row, id, rfl, has, named⟩ := of_allowed_row given
  have own : row_of target row := ⟨id, has, named⟩
  refine ⟨mine, above, row, below, read, own, ?_, fun other member names => ?_⟩
  · rw [allowed_row_of mine own] at given
    cases state : Python.get row "suspended" with
    | none => simp [state] at given
    | some value => simpa [state] using given
  · refine later _ member ((Python.get other "suspended").getD .None) ?_
    rw [allowed_row_of mine names]
    rfl

/-- After a refresh the list says which targets there are, and in which state. -/
structure Refreshed (cfg : DebuggerConfig) (raw : Entries) (s : DebuggerState) : Prop where
  read : ∃ rows, target_rows cfg raw = .ok rows ∧ allowed_targets cfg rows = .ok s.target_states
  current : s.current_targets = s.target_states.map Prod.fst

theorem Refreshed.confirms (refreshed : Refreshed cfg raw s)
    (suspended : s.suspended target true = true) : confirms cfg target raw := by
  obtain ⟨rows, read, allowed⟩ := refreshed.read
  refine confirms_of_refreshed read allowed ?_
  unfold DebuggerState.suspended at suspended
  split at suspended
  · rename_i state found
    cases beq_iff_eq.mp suspended
    exact found
  · cases suspended

theorem refresh_targets_goes (going : Going cfg s n past s') :
    Runs (Safe cfg)
      (fun past' s' _ => ∃ raw, past' = past ++ [⟨.invoke_private .get_targets [], .ok raw⟩] ∧
        Refreshed cfg raw s' ∧ s'.attach_attempted = true)
      (Halted cfg s) past s' (refresh_targets cfg) := by
  have due (answer : Except Raised Entries) :
      Due cfg s past ⟨.invoke_private .get_targets [], answer⟩ :=
    due_of_plain (by decide) (by decide)
  refine runs_ask_bind trivial (fun raw => ?_) fun exc => going.halt (due _) rfl
  refine runs_rethrow_bind (fun rows read => ?_) fun exc unread => ?_
  · refine runs_rethrow_bind (fun targets allowed => ?_) fun exc unhashable => ?_
    · exact runs_write ⟨raw, rfl, ⟨⟨rows, read, allowed⟩, rfl⟩, going.attempted⟩
    · exact going.halt (due _) (by simp [failure, read, unhashable, bind, Except.bind])
  · exact going.halt (due _) (by simp [failure, unread, bind, Except.bind])

/-- The list decides whether the target whose turn it is can be resumed. -/
theorem Refreshed.failure (refreshed : Refreshed cfg raw s') (turn : in_turn s past = some target) :
    failure cfg s past ⟨.invoke_private .get_targets [], .ok raw⟩ =
      if target ∈ s'.current_targets then none else some .AdmissionError := by
  obtain ⟨rows, read, allowed⟩ := refreshed.read
  simp [Debugger.failure, read, allowed, bind, Except.bind]
  rw [turn, refreshed.current]
  by_cases present : target ∈ s'.target_states.map Prod.fst
  · simp [present]
  · simp [present]

/-- One round of the loop: the target whose turn it is is checked, and continued if it is
suspended. -/
theorem resume_target_runs {done rest : List Str} (split : s.restore_running = done ++ target :: rest)
    (going : Going cfg s done.length past s') :
    Runs (Safe cfg) (fun past s' _ => Going cfg s (done ++ [target]).length past s') (Halted cfg s)
      past s' (resume_target cfg target) := by
  have due_check (answer : Except Raised Unit) : Due cfg s past ⟨.admission_check, answer⟩ :=
    ⟨False.elim, False.elim⟩
  refine runs_ask_bind trivial (fun _ => ?_) fun exc => going.halt (due_check _) rfl
  have admitted : Going cfg s (done ++ [target]).length (past ++ [⟨.admission_check, .ok ()⟩]) s' := by
    have next := going.next (due_check (.ok ())) rfl
    rwa [List.length_append]
  have turn : in_turn s (past ++ [⟨.admission_check, .ok ()⟩]) = some target := by
    simp [in_turn, admitted.turns, split, List.take_append]
  refine (refresh_targets_goes admitted).bind fun listed s' _ refreshed => runs_read_bind ?_
  obtain ⟨raw, rfl, refreshed, attempted⟩ := refreshed
  have admitted : Going cfg s (done ++ [target]).length (past ++ [⟨.admission_check, .ok ()⟩]) s' :=
    { admitted with attempted }
  have due : Due cfg s (past ++ [⟨.admission_check, .ok ()⟩])
      ⟨.invoke_private .get_targets [], .ok raw⟩ := due_of_plain (by decide) (by decide)
  have answered := refreshed.failure turn
  split
  · rename_i missing
    rw [if_neg missing] at answered
    exact runs_raising (admitted.halt due answered)
  · rename_i present
    rw [if_pos (not_not.mp present)] at answered
    have going := admitted.next due answered
    refine Runs.when (fun suspended => ?_) fun _ => going
    refine invoke_checked_runs going (by decide) (by decide) fun answer => ?_
    refine ⟨(by decide : Tool.continue_ ≠ Tool.detach), fun _ => ?_⟩
    exact ⟨past, raw, target, answer, List.append_assoc .., rfl, by simp [split],
      refreshed.confirms suspended⟩

theorem resume_targets_runs {done rest : List Str} (split : s.restore_running = done ++ rest)
    (going : Going cfg s done.length past s') :
    Runs (Safe cfg) (fun past s' _ => Going cfg s s.restore_running.length past s') (Halted cfg s)
      past s' (resume_targets cfg rest) := by
  induction rest generalizing done past s' with
  | nil =>
    rw [split, List.append_nil]
    exact runs_pure going
  | cons target rest ih =>
    refine (resume_target_runs split going).bind fun past s' _ going => ?_
    exact ih (by simp [split]) going

theorem going_nil (attempted : s.attach_attempted = true) : Going cfg s 0 [] s :=
  ⟨throughout_nil _, throughout_nil _, rfl, attempted⟩

theorem undo_goes (attempted : s.attach_attempted = true) :
    Runs (Safe cfg) (fun past s' _ => Going cfg s s.restore_running.length past s') (Halted cfg s)
      [] s (undo cfg) := by
  refine runs_read_bind (Runs.bind (Q := fun past s' _ => Going cfg s 0 past s') ?_
    fun past s' _ going => ?_)
  · exact Runs.when (switch_off_goes (going_nil attempted)) fun _ => going_nil attempted
  · refine Runs.bind (Q := fun past s' _ => Going cfg s 0 past s') (Runs.when (fun _ => ?_)
      fun _ => going) fun past s' _ going => ?_
    · exact invoke_checked_runs going (by decide) (by decide) fun _ =>
        due_of_plain (by decide) (by decide)
    · have all : s.restore_running = [] ++ s.restore_running := rfl
      exact resume_targets_runs all going

/-! ## The detach -/

theorem Halted.halted (halted : Halted cfg s past s' exc) {a b : List (Event DebugOp)}
    (split : past = a ++ ev :: b) (bad : failure cfg s a ev ≠ none) : b = [] := by
  cases halted.first with
  | unbound => simp at split
  | request clean =>
    rcases snoc_eq_split.mp split with ⟨-, -, none⟩ | ⟨b', -, before⟩
    · exact none
    · exact absurd (clean a ev b' before) bad

theorem detach_runs {before : List (Event DebugOp)} (attempted : s'.attach_attempted = true) :
    Runs (Safe cfg)
      (fun past s' r => ∃ answer, past = before ++ [⟨.invoke_private .detach [], answer⟩] ∧
        r = detach_outcome answer ∧ (s'.attach_attempted = false ↔ detaches answer = true))
      (fun _ _ _ => False) before s' (attempt detach) := by
  refine ((Runs.attempt (Q := fun past s' _ => ∃ raw, is_error raw = false ∧
      past = before ++ [⟨.invoke_private .detach [], .ok raw⟩] ∧ s'.attach_attempted = false)
    (X := fun past s' exc => ∃ answer, detach_outcome answer = .error exc ∧
      detaches answer = false ∧ past = before ++ [⟨.invoke_private .detach [], answer⟩] ∧
        s'.attach_attempted = true) ?_).mono ?_ fun _ _ _ => id)
  · refine Runs.bind (Q := fun past s' _ => ∃ raw, is_error raw = false ∧
      past = before ++ [⟨.invoke_private .detach [], .ok raw⟩]) ?_ fun past s' _ good => ?_
    · refine runs_ask_bind trivial (fun raw => ?_) fun exc => ⟨.error exc, rfl, rfl, rfl, attempted⟩
      split
      · rename_i bad
        exact runs_raising ⟨.ok raw, by simp [detach_outcome, bad], by simp [detaches, bad], rfl,
          attempted⟩
      · rename_i good
        exact runs_pure ⟨raw, by simpa using good, rfl⟩
    · obtain ⟨raw, good, settled⟩ := good
      exact runs_write ⟨raw, good, settled, rfl⟩
  · intro past s' r left
    rcases r with exc | _
    · obtain ⟨answer, outcome, vain, settled, kept⟩ := left
      exact ⟨answer, settled, outcome.symm, by simp [kept, vain]⟩
    · obtain ⟨raw, good, settled, cleared⟩ := left
      exact ⟨.ok raw, settled, by simp [detach_outcome, good], by simp [cleared, detaches, good]⟩

theorem Halted.ended {answer : Except Raised Entries} {r : Except Raised Unit} {s'' : DebuggerState}
    (halted : Halted cfg s past s' exc) (raised : r = .error exc)
    (cleared : s''.attach_attempted = false ↔ detaches answer = true) :
    Ended cfg s past answer r s'' where
  fair := halted.fair
  halted _ _ _ := halted.halted
  raised := .inl ⟨exc, halted.first, raised⟩
  cleared := cleared

theorem Going.ended {answer : Except Raised Entries} {r : Except Raised Unit} {s'' : DebuggerState}
    (going : Going cfg s s.restore_running.length past s') (raised : r = detach_outcome answer)
    (cleared : s''.attach_attempted = false ↔ detaches answer = true) :
    Ended cfg s past answer r s'' where
  fair := going.fair
  halted a ev b split bad := absurd (going.clean a ev b split) bad
  raised := .inr ⟨going.clean, going.turns, raised⟩
  cleared := cleared

/-- The cleanup is over: the detach was its last request. -/
def Over (cfg : DebuggerConfig) (s : DebuggerState) (past : List (Event DebugOp))
    (s' : DebuggerState) (r : Except Raised Unit) : Prop :=
  ∃ before answer, past = before ++ [⟨.invoke_private .detach [], answer⟩] ∧
    Ended cfg s before answer r s'

/-- The first failure goes before that of the detach. -/
theorem rethrow_runs {before : List (Event DebugOp)} {answer : Except Raised Entries}
    {undone : Except Raised Unit} {held : DebuggerState}
    (left : Leaves (fun past s' _ => Going cfg s s.restore_running.length past s') (Halted cfg s)
      before (undone, held))
    (cleared : s'.attach_attempted = false ↔ detaches answer = true) :
    Runs (Safe cfg) (fun past s' _ => Over cfg s past s' (.ok ()))
      (fun past s' exc => Over cfg s past s' (.error exc))
      (before ++ [⟨.invoke_private .detach [], answer⟩]) s'
      (rethrow undone >>= fun _ => rethrow (detach_outcome answer)) := by
  refine runs_rethrow_bind (fun _ ok => runs_rethrow ?_) fun exc failed => ?_
  · rw [ok] at left
    cases outcome : detach_outcome answer with
    | ok _ => exact ⟨before, answer, rfl, Going.ended left outcome.symm cleared⟩
    | error exc => exact ⟨before, answer, rfl, Going.ended left outcome.symm cleared⟩
  · rw [failed] at left
    exact ⟨before, answer, rfl, Halted.ended left rfl cleared⟩

theorem cleanup_over (attempted : s.attach_attempted = true) :
    Runs (Safe cfg) (fun past s' _ => Over cfg s past s' (.ok ()))
      (fun past s' exc => Over cfg s past s' (.error exc)) [] s (cleanup_debugger cfg) := by
  refine runs_read_bind ?_
  rw [attempted]
  refine ((undo_goes attempted).attempt (Y := fun past s' exc => Over cfg s past s' (.error exc))).bind
    fun before held undone left => ?_
  have standing : held.attach_attempted = true := by
    cases undone with
    | ok _ => exact left.attempted
    | error exc => exact left.attempted
  -- a failure is marked, which changes nothing that the detach depends on
  refine Runs.bind (Q := fun past s' _ => past = before ∧ s'.attach_attempted = true)
    (Runs.when (fun _ => runs_write ⟨rfl, standing⟩) fun _ => ⟨rfl, standing⟩)
    fun past s' _ marked => ?_
  obtain ⟨rfl, standing⟩ := marked
  refine Runs.bind ((detach_runs standing).mono (fun _ _ _ settled => settled) fun _ _ _ => False.elim)
    fun past' s' detached settled => ?_
  obtain ⟨answer, rfl, rfl, cleared⟩ := settled
  refine Runs.bind (Q := fun past' s' _ => past' = past ++ [⟨.invoke_private .detach [], answer⟩] ∧
      (s'.attach_attempted = false ↔ detaches answer = true))
    (Runs.when (fun _ => runs_write ⟨rfl, cleared⟩) fun _ => ⟨rfl, cleared⟩)
    fun past' s' _ marked => ?_
  obtain ⟨rfl, cleared⟩ := marked
  exact rethrow_runs left cleared

/-- **A cleanup detaches.**  After an attempted attach the detach is the one and last request of its
kind, whatever fails before; only confirmed targets are continued, nothing is resumed after the
first failure, which is what is raised, and the attach is over if and only if the detach
succeeded. -/
theorem cleanup_ends_with_detach (attempted : s.attach_attempted = true)
    (run : Exec (cleanup_debugger cfg s) tr (.ret (r, s'))) :
    ∃ before answer, tr = before ++ [⟨.invoke_private .detach [], answer⟩] ∧
      Ended cfg s before answer r s' := by
  have leaves := (cleanup_over attempted).exec run
  cases r with
  | ok _ => exact leaves
  | error exc => exact leaves

/-- An attached provider that is to resume its target. -/
def paused_state : DebuggerState :=
  { attached_state false true with restore_running := [Str.of "own"] }

/-- The target does not go on; the detach succeeds. -/
def failed_resume : List (Event DebugOp) × Prog DebugOp (Except Raised Unit × DebuggerState) :=
  (cleanup_debugger plain_debugger paused_state).record scripted
    [one_target, refused, structured []]

theorem failed_resume_still_detaches :
    ∃ before answer, failed_resume.1 = before ++ [⟨.invoke_private .detach [], answer⟩] ∧
      Ended plain_debugger paused_state before answer (.error .TransportError)
        { paused_state with
          cleanup_failed := true
          attached := false
          attach_attempted := false
          current_targets := [Str.of "own"]
          target_states := [(Str.of "own", .bool true)] } := by
  have run : Exec (cleanup_debugger plain_debugger paused_state) failed_resume.1 failed_resume.2 :=
    Prog.exec_record _ _ _
  exact cleanup_ends_with_detach rfl run

end SessionManager.Debugger
