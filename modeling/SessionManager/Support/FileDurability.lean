import SessionManager.Support.FileLives

/-!
# What a writer of a file may rely on

After a writer has synced the directory, no crash brings back what was there before its rename; a
writer that reports an error has changed nothing, and leaves its new file behind only if it could not
be unlinked.
-/

namespace SessionManager

open Effect

variable {N B : Type}

theorem FileKept.of_settled {path : N} {d : Disk N B} (settled : d.Settled path) :
    FileKept path (.of (d.read path)) d := by
  refine ⟨?_, rfl, fun file member => ?_, fun target member => ?_⟩
  · rw [settled.lasting]
    exact List.mem_singleton_self _
  · rw [settled.lasting] at member
    exact settled.files file (List.mem_singleton.mp member).symm
  · rw [settled.lasting] at member
    cases List.mem_singleton.mp member
    exact List.mem_singleton_self _

/-! ## A write -/

/-- A directory without files. -/
def empty_dir : Disk String Char where
  present := true
  kept := true
  files := 0
  content _ := []
  synced _ := false
  entry _ := none
  lasting _ := [none]

def one_write (_ : Unit) : FileTask String Char := .write (some "dir") "dir/cache" ⟨[['{'], ['}']], true⟩

/-- The writer alone, as often as it has to make a system call. -/
def written_dir : List (PoolEvent Unit (DiskOp String Char)) ×
    Pool Unit (DiskOp String Char) (Disk String Char) (Except WriteError Unit) :=
  Pool.play (fun _ d _ op => Disk.serve (fun _ => "tmp") op d) (List.replicate 8 ())
    ⟨empty_dir, fun i => (one_write i).prog "cache"⟩

theorem written_dir_run : FileRun (fun name => ∃ _ : Nat, name = "tmp") "cache" one_write empty_dir
    written_dir.1 written_dir.2 :=
  Pool.Run.play (fun _ _ _ _ _ _ served => Disk.answers_of_serve served) _ _

theorem empty_dir_settled : empty_dir.Settled "cache" where
  lasting := rfl
  files _ linked := by cases linked

/-- A crash after which everything is as it was. -/
def crashed_dir : Disk String Char :=
  { written_dir.2.shared with
    synced := fun _ => true
    lasting := fun name => [written_dir.2.shared.entry name] }

theorem crashed_dir_crash : written_dir.2.shared.Crash crashed_dir :=
  .crash _ _ (fun _ _ => rfl) fun _ => List.mem_singleton_self _

example : written_dir.2.shared.read "cache" = some ['{', '}'] := by decide

/-! ## The register -/

variable [DecidableEq N] {temp : N → Prop} {path : N} {start d d' : Disk N B}
  {history later : List (RegisterEvent (List B))}

/-- **The file at a path is a register**: reads answer its value, which renames put and syncs of the
directory settle, and a crash leaves one of its survivors. -/
theorem file_is_register (other : ¬ temp path) (settled : start.Settled path)
    (lives : Lives temp path start history d) :
    ∃ r, (Register.of (start.read path)).Run history r ∧ d.read path = r.value ∧
      ∀ d', d.Crash d' → d'.read path ∈ r.survivors := by
  obtain ⟨r, run, kept⟩ := lives.kept other (FileKept.of_settled settled)
  exact ⟨r, run, kept.value, fun d' crash => (kept.crash crash).1⟩

theorem file_is_register_written :
    ∃ r, (Register.of none).Run (written_dir.1.filterMap (seen one_write)) r ∧
      written_dir.2.shared.read "cache" = r.value ∧
      ∀ d', written_dir.2.shared.Crash d' → d'.read "cache" ∈ r.survivors :=
  file_is_register (by simp) empty_dir_settled (.live .start written_dir_run)

/-! ## The directory -/

omit [DecidableEq N] in
/-- A run is not a crash. -/
theorem not_seen {ι : Type} (tasks : ι → FileTask N B) (tr : List (PoolEvent ι (DiskOp N B))) :
    .lose ∉ tr.filterMap (seen tasks) ∧ ∀ left, .crash left ∉ tr.filterMap (seen tasks) := by
  have each (ev : PoolEvent ι (DiskOp N B)) :
      seen tasks ev ≠ some .lose ∧ ∀ left, seen tasks ev ≠ some (.crash left) := by
    obtain ⟨i, op, answer⟩ := ev
    cases op with
    | rename | sync_dir => cases answer <;> simp [seen]
    | _ => simp [seen]
  simp only [List.mem_filterMap, not_exists, not_and]
  exact ⟨fun ev _ => (each ev).1, fun left ev _ => (each ev).2 left⟩

theorem Lives.founded (lives : Lives temp path start history d) (founded : start.Founded) :
    d.Founded ∧ .lose ∉ history := by
  induction lives with
  | start => exact ⟨founded, List.not_mem_nil⟩
  | @live past d ι _ tasks tr q _ run ih =>
    refine ⟨?_, fun lost => ?_⟩
    · exact run.replay.history (I := fun d _ => d.Founded) ih.1
        fun _ _ founded answered => answered.founded founded
    · rcases List.mem_append.mp lost with before | here
      · exact ih.2 before
      · exact (not_seen tasks tr).1 here
  | crash _ crash ih =>
    refine ⟨?_, fun lost => ?_⟩
    · cases crash with
      | crash => exact ⟨ih.1.1, ih.1.1⟩
    · rcases List.mem_append.mp lost with before | here
      · exact ih.2 before
      · cases List.mem_singleton.mp here
  | loss _ loss ih =>
    cases loss with
    | loss unkept => exact absurd (ih.1.2.symm.trans unkept) (by simp)

theorem Lives.append (first : Lives temp path start history d) (second : Lives temp path d later d') :
    Lives temp path start (history ++ later) d' := by
  induction second with
  | start => rwa [List.append_nil]
  | live _ run ih =>
    rw [← List.append_assoc]
    exact .live ih run
  | crash _ crash ih =>
    rw [← List.append_assoc]
    exact .crash ih crash
  | loss _ loss ih =>
    rw [← List.append_assoc]
    exact .loss ih loss

/-! ## Writers -/

/-- The task renamed its file. -/
def Renamed : Event (DiskOp N B) → Bool
  | ⟨.rename _ _, true⟩ => true
  | _ => false

section Writers

variable {ι : Type} [DecidableEq ι] {tasks : ι → FileTask N B} {i : ι}
  {tr : List (PoolEvent ι (DiskOp N B))}
  {q : Pool ι (DiskOp N B) (Disk N B) (Except WriteError Unit)}

/-- How many files a task has renamed. -/
def WriteStage.renames : WriteStage N B → Nat
  | .published => 1
  | _ => 0

omit [DecidableEq N] in
theorem WriteStage.renames_next {stage : WriteStage N B} {β : Type} (op : DiskOp N B β) (answer : β)
    (allowed : stage.allows path op) :
    (stage.next op answer).renames = stage.renames + if Renamed ⟨op, answer⟩ then 1 else 0 := by
  cases stage with
  | reading =>
    cases op with
    | read => rfl
    | _ => exact allowed.elim
  | fresh text =>
    cases op with
    | make_dir => rfl
    | create => cases answer <;> rfl
    | _ => exact allowed.elim
  | filling text name file bytes =>
    cases op with
    | append | sync => cases answer <;> rfl
    | unlink => rfl
    | _ => exact allowed.elim
  | filled text name file =>
    cases op with
    | rename => cases answer <;> rfl
    | _ => exact allowed.elim
  | broken name file =>
    cases op with
    | unlink => rfl
    | _ => exact allowed.elim
  | published =>
    cases op with
    | sync_dir => rfl
    | _ => exact allowed.elim
  | ended =>
    cases op with
    | _ => exact allowed.elim

/-- A task of a run has renamed as many files as its stage says. -/
theorem FileRun.renames (run : FileRun temp path tasks d tr q) (i : ι) :
    (Pool.project i tr).countP Renamed =
      ((fileProtocol path).after (.start (tasks i)) (Pool.project i tr)).renames := by
  refine ((tasks i).follows path).trail (T := fun stage past => past.countP Renamed = stage.renames)
    (run.project i) ?_ ?_
  · cases tasks i <;> rfl
  · intro stage past β op answer trail allowed
    rw [List.countP_append, trail, List.countP_singleton]
    exact (WriteStage.renames_next op answer allowed).symm

omit [DecidableEq N] in
/-- A stage gets a file by creating it. -/
theorem WriteStage.holding_of_next {stage : WriteStage N B} {β : Type} (op : DiskOp N B β) (answer : β)
    (allowed : stage.allows path op) {held : N × Nat} (holding : (stage.next op answer).holding = some held) :
    stage.holding = some held ∨ (⟨op, answer⟩ : Event (DiskOp N B)) = ⟨.create, some held⟩ := by
  cases stage with
  | fresh text =>
    cases op with
    | make_dir => cases holding
    | create =>
      cases answer with
      | none => cases holding
      | some created =>
        cases holding
        exact .inr rfl
    | _ => exact allowed.elim
  | filling text name file bytes =>
    cases op with
    | append | sync =>
      cases answer with
      | true | false => exact .inl holding
    | unlink => cases holding
    | _ => exact allowed.elim
  | filled text name file =>
    cases op with
    | rename =>
      cases answer with
      | true => cases holding
      | false => exact .inl holding
    | _ => exact allowed.elim
  | broken name file =>
    cases op with
    | unlink => cases holding
    | _ => exact allowed.elim
  | reading | published =>
    cases op with
    | read | sync_dir => cases holding
    | _ => exact allowed.elim
  | ended => cases op <;> exact allowed.elim

/-- The file that a task has is one that it created. -/
theorem FileRun.created (run : FileRun temp path tasks d tr q) {name : N} {file : Nat}
    (holding : ((fileProtocol path).after (.start (tasks i)) (Pool.project i tr)).holding =
      some (name, file)) : ⟨i, ⟨.create, some (name, file)⟩⟩ ∈ tr := by
  refine Pool.mem_project.mp (((tasks i).follows path).trail
    (T := fun stage past => stage.holding = some (name, file) → ⟨.create, some (name, file)⟩ ∈ past)
    (run.project i) ?_ ?_ holding)
  · cases tasks i with
    | write | read => exact nofun
  · intro stage past β op answer created allowed held
    rcases WriteStage.holding_of_next op answer allowed held with before | here
    · exact List.mem_append_left _ (created before)
    · exact List.mem_append_right _ (List.mem_singleton.mpr here.symm)

/-- A task renames nothing but the file that it created, and only onto the path. -/
theorem FileRun.renames_own {x y : List (PoolEvent ι (DiskOp N B))} {old new : N} {answer : Bool}
    (run : FileRun temp path tasks d (x ++ ⟨i, ⟨.rename old new, answer⟩⟩ :: y) q) :
    new = path ∧ ∃ file, ⟨i, ⟨.create, some (old, file)⟩⟩ ∈ x := by
  obtain ⟨_, _, before, step, -⟩ := run.split
  have allowed := before.allowed ((tasks i).follows path) step
  have created (name : N) (file : Nat) (holding : ((fileProtocol path).after (.start (tasks i))
      (Pool.project i x)).holding = some (name, file)) : ⟨i, ⟨.create, some (name, file)⟩⟩ ∈ x :=
    FileRun.created before holding
  generalize (fileProtocol path).after (.start (tasks i)) (Pool.project i x) = stage at allowed created
  cases stage with
  | filled text name file =>
    obtain ⟨rfl, rfl⟩ := allowed
    exact ⟨rfl, file, created _ _ rfl⟩
  | _ => exact allowed.elim

omit [DecidableEq N] in
theorem renamed_iff {ev : Event (DiskOp N B)} :
    Renamed ev = true ↔ ∃ old new, ev = ⟨.rename old new, true⟩ := by
  constructor
  · intro renamed
    obtain ⟨op, answer⟩ := ev
    cases op with
    | rename old new =>
      cases answer with
      | true => exact ⟨old, new, rfl⟩
      | false => cases renamed
    | _ => cases renamed
  · rintro ⟨old, new, rfl⟩
    rfl

/-- Whoever syncs the directory has renamed its file. -/
theorem FileRun.renamed_before {x y : List (PoolEvent ι (DiskOp N B))} {answer : Bool}
    (run : FileRun temp path tasks d (x ++ ⟨i, ⟨.sync_dir, answer⟩⟩ :: y) q) :
    ∃ a b old new, x = a ++ ⟨i, ⟨.rename old new, true⟩⟩ :: b := by
  obtain ⟨_, _, before, step, -⟩ := run.split
  have allowed := before.allowed ((tasks i).follows path) step
  have counted := FileRun.renames before i
  generalize (fileProtocol path).after (.start (tasks i)) (Pool.project i x) = stage at allowed counted
  cases stage with
  | published =>
    obtain ⟨ev, member, renamed⟩ := List.countP_pos_iff.mp (counted.symm ▸ Nat.one_pos :
      0 < (Pool.project i x).countP Renamed)
    obtain ⟨old, new, rfl⟩ := renamed_iff.mp renamed
    obtain ⟨a, b, split⟩ := List.append_of_mem (Pool.mem_project.mp member)
    exact ⟨a, b, old, new, split⟩
  | _ => exact allowed.elim

/-- **A synced write stays.**  Once a writer of a directory that crashes keep has synced it, the file
has the writer's text, or one that was put after it, in this life and in all later ones. -/
theorem synced_write_stays (other : ¬ temp path) (settled : start.Settled path)
    (founded : start.Founded) (lives : Lives temp path start history d)
    (run : FileRun temp path tasks d tr q) (synced : ⟨i, ⟨.sync_dir, true⟩⟩ ∈ tr)
    (onward : Lives temp path q.shared later d') :
    ∃ a b old new text, tr = a ++ ⟨i, ⟨.rename old new, true⟩⟩ :: b ∧ d'.read path = some text ∧
      (text = (tasks i).text ∨ .put text ∈ b.filterMap (seen tasks) ++ later) := by
  obtain ⟨x, y, rfl⟩ := List.append_of_mem synced
  obtain ⟨a, b, old, new, rfl⟩ := FileRun.renamed_before run
  have whole : Lives temp path start (history ++ (a ++ ⟨i, ⟨.rename old new, true⟩⟩ :: b ++
      ⟨i, ⟨.sync_dir, true⟩⟩ :: y).filterMap (seen tasks) ++ later) d' := (lives.live run).append onward
  obtain ⟨r, register, kept⟩ := whole.kept other (FileKept.of_settled settled)
  have unlost := (whole.founded founded).2
  have put : seen tasks ⟨i, ⟨.rename old new, true⟩⟩ = some (.put (tasks i).text) := rfl
  have settle : seen tasks ⟨i, ⟨.sync_dir, true⟩⟩ = some .settle := rfl
  simp only [List.filterMap_append, List.filterMap_cons, put, settle, List.append_assoc,
    List.cons_append, List.mem_append, List.mem_cons, not_or] at register unlost
  rw [← List.append_assoc] at register
  obtain ⟨text, same, among⟩ := Register.Run.settled register (not_seen tasks b).2
    (by simp [unlost]) (kept.survives _ kept.current)
  refine ⟨a, b ++ ⟨i, ⟨.sync_dir, true⟩⟩ :: y, old, new, text, by simp, same, among.imp_right ?_⟩
  intro put
  simp only [List.mem_append, List.filterMap_append, List.filterMap_cons, settle, List.mem_cons] at put ⊢
  tauto

theorem synced_write_stays_crashed :
    ∃ a b old new text, written_dir.1 = a ++ ⟨(), ⟨.rename old new, true⟩⟩ :: b ∧
      crashed_dir.read "cache" = some text ∧ (text = ['{', '}'] ∨
        .put text ∈ b.filterMap (seen one_write) ++ [.crash (crashed_dir.read "cache")]) :=
  synced_write_stays (by simp) empty_dir_settled ⟨rfl, rfl⟩ .start written_dir_run
    (List.mem_of_getElem? (i := 6) rfl) (.crash .start crashed_dir_crash)

/-! ## Reports -/

omit [DecidableEq N] in
theorem WriteStage.reading_of_next {stage : WriteStage N B} {β : Type} (op : DiskOp N B β) (answer : β)
    (allowed : stage.allows path op) (reading : stage.next op answer = .reading) :
    stage = .reading := by
  cases stage with
  | reading => rfl
  | fresh =>
    cases op with
    | make_dir => cases reading
    | create => cases answer <;> cases reading
    | _ => exact allowed.elim
  | filling =>
    cases op with
    | append | sync => cases answer <;> cases reading
    | unlink => cases reading
    | _ => exact allowed.elim
  | filled =>
    cases op with
    | rename => cases answer <;> cases reading
    | _ => exact allowed.elim
  | broken =>
    cases op with
    | unlink => cases reading
    | _ => exact allowed.elim
  | published =>
    cases op with
    | sync_dir => cases reading
    | _ => exact allowed.elim
  | ended =>
    cases op with
    | _ => exact allowed.elim

/-- A task that has returned holds no file, and a writer has renamed its file if it reports so. -/
theorem FileRun.reported (run : FileRun temp path tasks d tr q) {result : Except WriteError Unit}
    (returned : q.thread i = .ret result) :
    ((fileProtocol path).after (.start (tasks i)) (Pool.project i tr)).holding = none ∧
      ((∃ parent display value, tasks i = .write parent display value) →
        (Pool.project i tr).countP Renamed = if result = .ok () then 1 else 0) := by
  have reported := ((tasks i).follows path).exec (run.project i)
  rw [returned] at reported
  obtain ⟨free, ok⟩ := reported
  refine ⟨free, fun ⟨parent, display, value, writer⟩ => ?_⟩
  have unread : (fileProtocol path).after (.start (tasks i)) (Pool.project i tr) ≠ .reading := by
    refine ((tasks i).follows path).trail (T := fun stage _ => stage ≠ .reading) (run.project i) ?_ ?_
    · rw [writer, WriteStage.start]
      simp
    · intro stage past β op answer unread allowed reading
      exact unread (WriteStage.reading_of_next op answer allowed reading)
  rw [FileRun.renames run i]
  generalize (fileProtocol path).after (.start (tasks i)) (Pool.project i tr) = stage at ok unread ⊢
  rw [or_iff_left unread] at ok
  by_cases published : stage = .published
  · rw [if_pos (ok.mpr published), published, WriteStage.renames]
  · rw [if_neg (fun same => published (ok.mp same))]
    cases stage with
    | published => exact absurd rfl published
    | _ => rfl

omit [DecidableEq N] in
theorem WriteStage.holding_of_unlink {stage : WriteStage N B} {name : N}
    (allowed : stage.allows path (.unlink name)) : ∃ file, stage.holding = some (name, file) := by
  cases stage with
  | filling text name' file bytes =>
    cases (show name = name' from allowed)
    exact ⟨file, rfl⟩
  | broken name' file =>
    cases (show name = name' from allowed)
    exact ⟨file, rfl⟩
  | _ => exact allowed.elim

/-- Each other name that is linked was so at the start, or a task holds it, or failed to unlink it. -/
def Accounted (path : N) (start : Disk N B) (phase : ι → WriteStage N B) (d : Disk N B)
    (past : List (PoolEvent ι (DiskOp N B))) : Prop :=
  ∀ name, name ≠ path → d.entry name ≠ none →
    start.entry name ≠ none ∨ (∃ i file, (phase i).holding = some (name, file)) ∨
      ∃ i, ⟨i, ⟨.unlink name, false⟩⟩ ∈ past

theorem Accounted.step {phase : ι → WriteStage N B} {d d' : Disk N B}
    {past : List (PoolEvent ι (DiskOp N B))} {β : Type} (op : DiskOp N B β) (answer : β)
    (accounted : Accounted path start phase d past)
    (allowed : (fileProtocol path).allows (phase i) op) (answered : d.Answers temp op answer d') :
    Accounted path start (Function.update phase i ((fileProtocol path).next (phase i) op answer)) d'
      (past ++ [⟨i, ⟨op, answer⟩⟩]) := by
  intro name ne linked
  -- A name that was linked before is accounted for as it was, unless its holder has let it go.
  have stays (old : d.entry name ≠ none) (held : ∀ file, (phase i).holding = some (name, file) →
      ((fileProtocol path).next (phase i) op answer).holding = some (name, file) ∨
        (⟨op, answer⟩ : Event (DiskOp N B)) = ⟨.unlink name, false⟩) :
      start.entry name ≠ none ∨ (∃ j file, (Function.update phase i
        ((fileProtocol path).next (phase i) op answer) j).holding = some (name, file)) ∨
        ∃ j, ⟨j, ⟨.unlink name, false⟩⟩ ∈ past ++ [⟨i, ⟨op, answer⟩⟩] := by
    rcases accounted name ne old with before | ⟨j, file, holding⟩ | ⟨j, failed⟩
    · exact .inl before
    · by_cases own : j = i
      · subst own
        rcases held file holding with still | failed
        · exact .inr (.inl ⟨j, file, by rwa [Function.update_self]⟩)
        · exact .inr (.inr ⟨j, by simp [failed]⟩)
      · exact .inr (.inl ⟨j, file, by rwa [Function.update_of_ne own]⟩)
    · exact .inr (.inr ⟨j, List.mem_append_left _ failed⟩)
  generalize here : phase i = stage at allowed stays ⊢
  cases answered with
  | create present new unused =>
    cases stage with
    | fresh text =>
      rename_i name'
      by_cases same : name = name'
      · subst same
        exact .inr (.inl ⟨i, d.files, by rw [Function.update_self]; rfl⟩)
      · rw [d.make_entry_of_ne name' same] at linked
        exact stays linked fun file holding => by cases holding
    | _ => exact allowed.elim
  | @rename old new file there =>
    cases stage with
    | filled text name' file' =>
      obtain ⟨rfl, rfl⟩ : old = name' ∧ new = path := allowed
      rw [Disk.link_entry_of_ne _ _ _ ne] at linked
      by_cases same : name = old
      · subst same
        rw [Disk.link_entry_self] at linked
        exact absurd rfl linked
      · rw [Disk.link_entry_of_ne _ _ _ same] at linked
        refine stays linked fun file holding => ?_
        cases holding
        exact absurd rfl same
    | _ => exact allowed.elim
  | unlink name' =>
    obtain ⟨file, holds⟩ := WriteStage.holding_of_unlink allowed
    by_cases same : name = name'
    · subst same
      rw [Disk.link_entry_self] at linked
      exact absurd rfl linked
    · rw [Disk.link_entry_of_ne _ _ _ same] at linked
      refine stays linked fun file' holding => ?_
      cases holds.symm.trans holding
      exact absurd rfl same
  | unlink_failed name' =>
    obtain ⟨file, holds⟩ := WriteStage.holding_of_unlink allowed
    refine stays linked fun file' holding => ?_
    cases holds.symm.trans holding
    exact .inr rfl
  | _ =>
    refine stays linked fun file holding => .inl ?_
    cases stage <;> exact holding

/-- **Reports.**  When all tasks have returned, each writer has renamed once if it reports success and
never if it reports an error; what it renames is the file that it created, and onto the path; and no
new name is left whose unlinking did not fail. -/
theorem writers_reported (run : FileRun temp path tasks d tr q)
    (returned : ∀ i, ∃ result, q.thread i = .ret result) :
    (∀ i parent display value result, tasks i = .write parent display value →
        q.thread i = .ret result →
        (Pool.project i tr).countP Renamed = if result = .ok () then 1 else 0) ∧
      (∀ i x y old new answer, tr = x ++ ⟨i, ⟨.rename old new, answer⟩⟩ :: y →
        new = path ∧ ∃ file, ⟨i, ⟨.create, some (old, file)⟩⟩ ∈ x) ∧
      ∀ name, name ≠ path → q.shared.entry name ≠ none →
        d.entry name ≠ none ∨ ∃ i, ⟨i, ⟨.unlink name, false⟩⟩ ∈ tr := by
  refine ⟨?_, ?_, ?_⟩
  · intro i parent display value result writer here
    exact (FileRun.reported run here).2 ⟨parent, display, value, writer⟩
  · intro i x y old new answer split
    subst split
    exact FileRun.renames_own run
  · intro name ne linked
    have accounted := (run.invariant (fun i => (tasks i).follows path) (I := Accounted path d)
      (fun name _ linked => .inl linked)
      fun op answer accounted allowed answered => accounted.step op answer allowed answered).1
    rcases accounted name ne linked with before | ⟨i, file, holding⟩ | failed
    · exact .inl before
    · obtain ⟨result, here⟩ := returned i
      rw [Pool.phases_eq_after, (FileRun.reported run here).1] at holding
      cases holding
    · exact .inr failed

theorem writers_reported_written :
    (∀ i parent display value result, one_write i = .write parent display value →
        written_dir.2.thread i = .ret result →
        (Pool.project i written_dir.1).countP Renamed = if result = .ok () then 1 else 0) ∧
      (∀ i x y old new answer, written_dir.1 = x ++ ⟨i, ⟨.rename old new, answer⟩⟩ :: y →
        new = "cache" ∧ ∃ file, ⟨i, ⟨.create, some (old, file)⟩⟩ ∈ x) ∧
      ∀ name, name ≠ "cache" → written_dir.2.shared.entry name ≠ none →
        empty_dir.entry name ≠ none ∨ ∃ i, ⟨i, ⟨.unlink name, false⟩⟩ ∈ written_dir.1 :=
  writers_reported written_dir_run fun _ => ⟨.ok (), rfl⟩

end Writers

end SessionManager
