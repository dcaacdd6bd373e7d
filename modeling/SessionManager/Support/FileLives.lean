import SessionManager.Support.AtomicWrite

/-!
# The file at a path over all lives of the system

The disk keeps the file of a path as a register: a rename puts the whole text of its writer, a sync
of the directory settles it, a read answers its value, and a crash takes it back to one of the
values since it was settled last.
-/

namespace SessionManager

open Effect

variable {N B : Type}

/-! ## What a disk keeps -/

/-- The file at a path is a register. -/
structure FileKept (path : N) (r : Register (List B)) (d : Disk N B) : Prop where
  current : d.entry path ∈ d.lasting path
  value : d.read path = r.value
  files : ∀ file, some file ∈ d.lasting path → file < d.files ∧ d.synced file = true
  survives : ∀ entry ∈ d.lasting path, entry.map d.content ∈ r.survivors

/-- A new file that a crash does not leave at the path. -/
structure FileOwned (temp : N → Prop) (path : N) (d : Disk N B) (name : N) (file : Nat) : Prop where
  temp : temp name
  linked : d.entry name = some file
  made : file < d.files
  unpublished : some file ∉ d.lasting path

def WriteStage.Stands (temp : N → Prop) (path : N) (d : Disk N B) : WriteStage N B → Prop
  | .filling _ name file bytes => FileOwned temp path d name file ∧ d.content file = bytes
  | .filled text name file =>
    FileOwned temp path d name file ∧ d.content file = text ∧ d.synced file = true
  | .broken name file => FileOwned temp path d name file
  | _ => True

section Frames

variable {temp : N → Prop} {path : N} {d d' : Disk N B} {r : Register (List B)}

theorem WriteStage.Stands.owned {stage : WriteStage N B} (stands : stage.Stands temp path d)
    {name : N} {file : Nat} (holding : stage.holding = some (name, file)) :
    FileOwned temp path d name file := by
  cases stage with
  | filling | filled =>
    cases holding
    exact stands.1
  | broken =>
    cases holding
    exact stands
  | reading | fresh | published | ended => cases holding

/-- A stage goes on to stand when the file that it holds is left alone. -/
theorem WriteStage.Stands.frame {stage : WriteStage N B} (stands : stage.Stands temp path d)
    (spared : ∀ name file, stage.holding = some (name, file) →
      FileOwned temp path d' name file ∧ d'.content file = d.content file ∧
        d'.synced file = d.synced file) : stage.Stands temp path d' := by
  cases stage with
  | filling text name file bytes =>
    obtain ⟨owned, content, -⟩ := spared name file rfl
    exact ⟨owned, content.trans stands.2⟩
  | filled text name file =>
    obtain ⟨owned, content, synced⟩ := spared name file rfl
    exact ⟨owned, content.trans stands.2.1, synced.trans stands.2.2⟩
  | broken name file => exact (spared name file rfl).1
  | reading | fresh | published | ended => exact stands

theorem FileKept.frame (kept : FileKept path r d) (entry : d'.entry path = d.entry path)
    (lasting : d'.lasting path = d.lasting path)
    (spared : ∀ file, some file ∈ d.lasting path →
      file < d'.files ∧ d'.synced file = true ∧ d'.content file = d.content file) :
    FileKept path r d' := by
  have same : ∀ target ∈ d.lasting path, target.map d'.content = target.map d.content := by
    intro target member
    cases target with
    | none => rfl
    | some file => exact congrArg some (spared file member).2.2
  refine ⟨by rw [entry, lasting]; exact kept.current, ?_, ?_, ?_⟩
  · rw [Disk.read, entry, same _ kept.current]
    exact kept.value
  · intro file member
    rw [lasting] at member
    exact ⟨(spared file member).1, (spared file member).2.1⟩
  · intro target member
    rw [lasting] at member
    rw [same target member]
    exact kept.survives target member

theorem FileOwned.entry_ne {name other : N} {file file' : Nat} (owned : FileOwned temp path d name file)
    (owned' : FileOwned temp path d other file') (apart : file ≠ file') : name ≠ other := by
  rintro rfl
  exact apart (Option.some.inj (owned.linked.symm.trans owned'.linked))

variable [DecidableEq N]

theorem FileOwned.link {name other : N} {file : Nat} {target : Option Nat}
    (owned : FileOwned temp path d name file) (ne : name ≠ other)
    (unpublished : other = path → target ≠ some file) :
    FileOwned temp path (d.link other target) name file := by
  refine ⟨owned.temp, ?_, owned.made, ?_⟩
  · rw [d.link_entry_of_ne other target ne]
    exact owned.linked
  · intro member
    by_cases here : path = other
    · subst here
      rw [Disk.link_lasting_self] at member
      rcases List.mem_cons.mp member with same | member
      · exact unpublished rfl same.symm
      · exact owned.unpublished member
    · rw [d.link_lasting_of_ne other target here] at member
      exact owned.unpublished member

/-- An entry other than the path's. -/
theorem FileKept.link (kept : FileKept path r d) {name : N} (ne : path ≠ name) (target : Option Nat) :
    FileKept path r (d.link name target) :=
  kept.frame (d.link_entry_of_ne name target ne) (d.link_lasting_of_ne name target ne)
    fun file member => ⟨(kept.files file member).1, (kept.files file member).2, rfl⟩

omit [DecidableEq N] in
theorem FileKept.write (kept : FileKept path r d) {name : N} {file : Nat} (owned : FileOwned temp path d name file)
    (bytes : List B) : FileKept path r (d.write file bytes) := by
  refine kept.frame rfl rfl fun other member => ?_
  have ne : other ≠ file := by
    rintro rfl
    exact owned.unpublished member
  obtain ⟨made, synced⟩ := kept.files other member
  exact ⟨made, (d.write_synced_of_ne file bytes ne).trans synced, d.write_content_of_ne file bytes ne⟩

/-- A file with a whole text takes the place of the one at the path. -/
theorem FileKept.publish (kept : FileKept path r d) {text : List B} {file : Nat} (made : file < d.files)
    (content : d.content file = text) (synced : d.synced file = true) :
    FileKept path (r.put text) (d.link path (some file)) := by
  refine ⟨by simp, ?_, ?_, ?_⟩
  · rw [Disk.read_link_self, Register.value_put, ← content]
    rfl
  · intro other member
    simp only [Disk.link_lasting_self, List.mem_cons, Option.some.injEq] at member
    rcases member with rfl | member
    · exact ⟨made, synced⟩
    · exact kept.files other member
  · intro target member
    rw [Register.mem_survivors_put]
    simp only [Disk.link_lasting_self, List.mem_cons] at member
    rcases member with rfl | member
    · exact .inr (congrArg some content)
    · exact .inl (kept.survives target member)

omit [DecidableEq N] in
theorem FileKept.settle (kept : FileKept path r d) :
    FileKept path r.settle { d with lasting := fun name => [d.entry name] } := by
  refine ⟨List.mem_singleton_self _, ?_, ?_, ?_⟩
  · exact kept.value
  · intro file member
    exact kept.files file ((List.mem_singleton.mp member) ▸ kept.current)
  · intro target member
    cases List.mem_singleton.mp member
    exact List.mem_singleton.mpr kept.value

/-! ## A crash -/

omit [DecidableEq N] in
/-- A crash leaves a register one of its survivors. -/
theorem FileKept.crash (kept : FileKept path r d) (crash : d.Crash d') :
    d'.read path ∈ r.survivors ∧ FileKept path (.of (d'.read path)) d' := by
  cases crash with
  | crash content entry same within =>
    refine ⟨?_, List.mem_singleton_self _, rfl, fun file member => ?_, fun target member => ?_⟩
    · have survives := kept.survives _ (within path)
      rw [Disk.read]
      dsimp only
      cases target : entry path with
      | none => rwa [target] at survives
      | some file =>
        rw [target] at survives
        have synced := (kept.files file (target ▸ within path)).2
        rw [Option.map_some, same file synced]
        exact survives
    · have lasts : some file ∈ d.lasting path := List.mem_singleton.mp member ▸ within path
      exact ⟨(kept.files file lasts).1, rfl⟩
    · cases List.mem_singleton.mp member
      exact List.mem_singleton_self _

omit [DecidableEq N] in
theorem FileKept.of_loss (loss : d.Loss d') : FileKept path (.of none) d' := by
  cases loss with
  | loss unkept =>
    refine ⟨List.mem_singleton_self _, rfl, fun file member => ?_, fun target member => ?_⟩
    · cases List.mem_singleton.mp member
    · cases List.mem_singleton.mp member
      exact List.mem_singleton_self _

end Frames

/-! ## Tasks that share a disk -/

section Runs

variable {ι : Type} {temp : N → Prop} {path : N} {tasks : ι → FileTask N B}
  {r₀ : Register (List B)}

/-- The interleavings of some tasks, which may be answered whatever a disk answers. -/
abbrev FileRun [DecidableEq ι] [DecidableEq N] (temp : N → Prop) (path : N) (tasks : ι → FileTask N B) (d : Disk N B) :
    List (PoolEvent ι (DiskOp N B)) → Pool ι (DiskOp N B) (Disk N B) (Except WriteError Unit) → Prop :=
  Pool.Run (fun _ d _ op answer d' => Disk.Answers temp d op answer d')
    ⟨d, fun i => (tasks i).prog path⟩

/-- What a step does to the register. -/
def seen (tasks : ι → FileTask N B) : PoolEvent ι (DiskOp N B) → Option (RegisterEvent (List B))
  | ⟨i, ⟨.rename _ _, true⟩⟩ => some (.put (tasks i).text)
  | ⟨_, ⟨.sync_dir, true⟩⟩ => some .settle
  | ⟨_, ⟨.read _, answer⟩⟩ => some (.get answer)
  | _ => none

structure Sharing (temp : N → Prop) (path : N) (tasks : ι → FileTask N B) (r₀ : Register (List B))
    (phase : ι → WriteStage N B) (d : Disk N B) (past : List (PoolEvent ι (DiskOp N B))) : Prop where
  stands : ∀ i, (phase i).Stands temp path d
  apart : ∀ i j name file name' file', i ≠ j → (phase i).holding = some (name, file) →
    (phase j).holding = some (name', file') → file ≠ file'
  aims : ∀ i text, (phase i).aim = some text → text = (tasks i).text
  register : ∃ r, r₀.Run (past.filterMap (seen tasks)) r ∧ FileKept path r d

section Step

variable {phase : ι → WriteStage N B} {d d' : Disk N B} {past : List (PoolEvent ι (DiskOp N B))}
  {i : ι} {stage : WriteStage N B} {ev : PoolEvent ι (DiskOp N B)}

/-- What a step of a task spares: the files of the others. -/
theorem Sharing.others (sharing : Sharing temp path tasks r₀ phase d past)
    (spared : ∀ name file, FileOwned temp path d name file →
      (∀ name' file', (phase i).holding = some (name', file') → file ≠ file') →
      FileOwned temp path d' name file ∧ d'.content file = d.content file ∧
        d'.synced file = d.synced file) (j : ι) (ne : j ≠ i) : (phase j).Stands temp path d' := by
  refine (sharing.stands j).frame fun name file holding => ?_
  exact spared name file ((sharing.stands j).owned holding)
    fun name' file' holding' => sharing.apart j i _ _ _ _ ne holding holding'

theorem Sharing.advance [DecidableEq ι] (sharing : Sharing temp path tasks r₀ phase d past)
    (own : stage.Stands temp path d') (others : ∀ j, j ≠ i → (phase j).Stands temp path d')
    (apart : ∀ name file, stage.holding = some (name, file) → (phase i).holding = some (name, file) ∨
      ∀ name' file', FileOwned temp path d name' file' → file' ≠ file)
    (aim : ∀ text, stage.aim = some text → (phase i).aim = some text)
    (register : ∃ r, r₀.Run ((past ++ [ev]).filterMap (seen tasks)) r ∧ FileKept path r d') :
    Sharing temp path tasks r₀ (Function.update phase i stage) d' (past ++ [ev]) := by
  have fresh {j : ι} {name name' : N} {file file' : Nat} (ne : j ≠ i)
      (holding : stage.holding = some (name, file))
      (holding' : (phase j).holding = some (name', file')) : file' ≠ file := by
    rcases apart name file holding with before | new
    · exact sharing.apart j i _ _ _ _ ne holding' before
    · exact new name' file' ((sharing.stands j).owned holding')
  refine ⟨fun j => ?_, fun j k name file name' file' ne holding holding' => ?_, fun j text aims => ?_,
    register⟩
  · by_cases same : j = i
    · rw [same, Function.update_self]
      exact own
    · rw [Function.update_of_ne same]
      exact others j same
  · by_cases here : j = i
    · rw [here, Function.update_self] at holding
      rw [Function.update_of_ne (fun same => ne (here.trans same.symm))] at holding'
      exact (fresh (fun same => ne (here.trans same.symm)) holding holding').symm
    · rw [Function.update_of_ne here] at holding
      by_cases there : k = i
      · rw [there, Function.update_self] at holding'
        exact fresh here holding' holding
      · rw [Function.update_of_ne there] at holding'
        exact sharing.apart j k _ _ _ _ ne holding holding'
  · by_cases same : j = i
    · rw [same, Function.update_self] at aims
      rw [same]
      exact sharing.aims i text (aim text aims)
    · rw [Function.update_of_ne same] at aims
      exact sharing.aims j text aims

/-- A step that the register does not see. -/
theorem unseen {r : Register (List B)} (register : r₀.Run (past.filterMap (seen tasks)) r)
    (none : seen tasks ev = .none) : r₀.Run ((past ++ [ev]).filterMap (seen tasks)) r := by
  rw [List.filterMap_append, List.filterMap_cons, none, List.filterMap_nil, List.append_nil]
  exact register

theorem saw {r r' : Register (List B)} {event : RegisterEvent (List B)}
    (register : r₀.Run (past.filterMap (seen tasks)) r) (some : seen tasks ev = .some event)
    (step : r.Step event r') : r₀.Run ((past ++ [ev]).filterMap (seen tasks)) r' := by
  rw [List.filterMap_append, List.filterMap_cons, some, List.filterMap_nil]
  exact .snoc register step

variable [DecidableEq ι]

/-- A step after which everything is where it was. -/
theorem Sharing.idle (sharing : Sharing temp path tasks r₀ phase d past)
    (owned : ∀ name file, FileOwned temp path d name file → FileOwned temp path d' name file)
    (content : d'.content = d.content) (synced : d'.synced = d.synced)
    (own : stage.Stands temp path d') (holding : ∀ held, stage.holding = some held →
      (phase i).holding = some held)
    (aim : ∀ text, stage.aim = some text → (phase i).aim = some text)
    (register : ∃ r, r₀.Run ((past ++ [ev]).filterMap (seen tasks)) r ∧ FileKept path r d') :
    Sharing temp path tasks r₀ (Function.update phase i stage) d' (past ++ [ev]) :=
  sharing.advance own
    (sharing.others fun name file here _ =>
      ⟨owned name file here, congrFun content file, congrFun synced file⟩)
    (fun name file held => .inl (holding (name, file) held)) aim register

theorem Sharing.create [DecidableEq N] (sharing : Sharing temp path tasks r₀ phase d past) (other : ¬ temp path)
    {text : List B} (here : phase i = .fresh text) {name : N} (unused : d.entry name = none)
    (new : temp name) :
    Sharing temp path tasks r₀ (Function.update phase i (.filling text name d.files [])) (d.make name)
      (past ++ [⟨i, ⟨.create, some (name, d.files)⟩⟩]) := by
  have ne : path ≠ name := by
    rintro rfl
    exact other new
  obtain ⟨r, register, kept⟩ := sharing.register
  have made : FileKept path r (d.make name) := by
    refine kept.frame (d.make_entry_of_ne name ne) (d.make_lasting_of_ne name ne) fun file member => ?_
    obtain ⟨made, synced⟩ := kept.files file member
    have old : file ≠ d.files := by omega
    exact ⟨by simp only [Disk.make, Disk.link]; omega, (d.make_synced_of_ne name old).trans synced,
      d.make_content_of_ne name old⟩
  have unpublished : some d.files ∉ (d.make name).lasting path := by
    rw [d.make_lasting_of_ne name ne]
    intro member
    exact absurd (kept.files _ member).1 (Nat.lt_irrefl _)
  refine sharing.advance ?_ (sharing.others fun name' file owned _ => ?_) ?_ ?_
    ⟨r, unseen register rfl, made⟩
  · exact ⟨⟨new, d.make_entry_self name, Nat.lt_succ_self _, unpublished⟩, d.make_content_self name⟩
  · have old : file ≠ d.files := by
      have := owned.made
      omega
    have unlike : name' ≠ name := by
      rintro rfl
      cases owned.linked.symm.trans unused
    refine ⟨⟨owned.temp, (d.make_entry_of_ne name unlike).trans owned.linked,
      Nat.lt_succ_of_lt owned.made, ?_⟩, d.make_content_of_ne name old, d.make_synced_of_ne name old⟩
    rw [d.make_lasting_of_ne name ne]
    exact owned.unpublished
  · intro name' file held
    cases held
    exact .inr fun other file owned => Nat.ne_of_lt owned.made
  · intro text' aims
    rw [here]
    exact aims

theorem Sharing.append (sharing : Sharing temp path tasks r₀ phase d past) {text bytes more rest : List B}
    {name : N} {file : Nat} (here : phase i = .filling text name file bytes) {stage : WriteStage N B}
    {written : Bool} (next : stage = .filling text name file (bytes ++ more) ∨ stage = .broken name file) :
    Sharing temp path tasks r₀ (Function.update phase i stage) (d.write file more)
      (past ++ [⟨i, ⟨.append file rest, written⟩⟩]) := by
  obtain ⟨r, register, kept⟩ := sharing.register
  have stands : (phase i).Stands temp path d := sharing.stands i
  rw [here] at stands
  obtain ⟨owned, content⟩ := stands
  have holding : (phase i).holding = some (name, file) := by rw [here]; rfl
  have still : FileOwned temp path (d.write file more) name file :=
    ⟨owned.temp, owned.linked, owned.made, owned.unpublished⟩
  refine sharing.advance ?_ (sharing.others fun name' file' owned' apart => ?_) ?_ ?_
    ⟨r, unseen register rfl, kept.write owned more⟩
  · rcases next with rfl | rfl
    · exact ⟨still, by rw [Disk.write_content_self, content]⟩
    · exact still
  · have ne := apart name file holding
    exact ⟨⟨owned'.temp, owned'.linked, owned'.made, owned'.unpublished⟩,
      d.write_content_of_ne file more ne, d.write_synced_of_ne file more ne⟩
  · intro name' file' held
    rcases next with rfl | rfl
    · exact .inl (holding.trans held)
    · exact .inl (holding.trans held)
  · intro text' aims
    rcases next with rfl | rfl
    · rw [here]
      exact aims
    · cases aims

theorem Sharing.sync (sharing : Sharing temp path tasks r₀ phase d past) {text : List B} {name : N}
    {file : Nat} (here : phase i = .filling text name file text) :
    Sharing temp path tasks r₀ (Function.update phase i (.filled text name file))
      { d with synced := Function.update d.synced file true }
      (past ++ [⟨i, ⟨.sync file, true⟩⟩]) := by
  obtain ⟨r, register, kept⟩ := sharing.register
  have stands : (phase i).Stands temp path d := sharing.stands i
  rw [here] at stands
  obtain ⟨owned, content⟩ := stands
  have holding : (phase i).holding = some (name, file) := by rw [here]; rfl
  refine sharing.advance ?_ (sharing.others fun name' file' owned' apart => ?_) ?_ ?_
    ⟨r, unseen register rfl, ?_⟩
  · exact ⟨⟨owned.temp, owned.linked, owned.made, owned.unpublished⟩, content,
      Function.update_self ..⟩
  · exact ⟨⟨owned'.temp, owned'.linked, owned'.made, owned'.unpublished⟩, rfl,
      Function.update_of_ne (apart name file holding) ..⟩
  · intro name' file' held
    exact .inl (holding.trans held)
  · intro text' aims
    rw [here]
    exact aims
  · refine kept.frame rfl rfl fun other member => ⟨(kept.files other member).1, ?_, rfl⟩
    have ne : other ≠ file := by
      rintro rfl
      exact owned.unpublished member
    exact (Function.update_of_ne ne ..).trans (kept.files other member).2

/-- A rename puts the whole text of its writer. -/
theorem Sharing.publish [DecidableEq N] (sharing : Sharing temp path tasks r₀ phase d past)
    (other : ¬ temp path) {text : List B} {name : N} {file : Nat}
    (here : phase i = .filled text name file) :
    Sharing temp path tasks r₀ (Function.update phase i .published)
      ((d.link name none).link path (some file)) (past ++ [⟨i, ⟨.rename name path, true⟩⟩]) := by
  obtain ⟨r, register, kept⟩ := sharing.register
  have stands : (phase i).Stands temp path d := sharing.stands i
  rw [here] at stands
  obtain ⟨owned, content, synced⟩ := stands
  have holding : (phase i).holding = some (name, file) := by rw [here]; rfl
  have own : text = (tasks i).text := sharing.aims i text (by rw [here]; rfl)
  have ne : path ≠ name := by
    rintro rfl
    exact other owned.temp
  have put : seen tasks ⟨i, ⟨.rename name path, true⟩⟩ = some (.put text) := by rw [own, seen]
  refine sharing.advance trivial (sharing.others fun name' file' owned' apart => ?_) ?_ ?_
    ⟨r.put text, saw register put (.put r text), (kept.link ne none).publish owned.made content synced⟩
  · have ne_file := apart name file holding
    have unlike : name' ≠ path := by
      rintro rfl
      exact other owned'.temp
    refine ⟨(owned'.link (owned'.entry_ne owned ne_file) fun same => absurd same.symm ne).link unlike
      fun _ same => ne_file (Option.some.inj same).symm, rfl, rfl⟩
  · intro name' file' held
    cases held
  · intro text' aims
    cases aims

theorem Sharing.unlink [DecidableEq N] (sharing : Sharing temp path tasks r₀ phase d past)
    (other : ¬ temp path) {name : N} {file : Nat} (holding : (phase i).holding = some (name, file)) :
    Sharing temp path tasks r₀ (Function.update phase i .ended) (d.link name none)
      (past ++ [⟨i, ⟨.unlink name, true⟩⟩]) := by
  obtain ⟨r, register, kept⟩ := sharing.register
  have owned := (sharing.stands i).owned holding
  have ne : path ≠ name := by
    rintro rfl
    exact other owned.temp
  refine sharing.advance trivial (sharing.others fun name' file' owned' apart => ?_) ?_ ?_
    ⟨r, unseen register rfl, kept.link ne none⟩
  · exact ⟨owned'.link (owned'.entry_ne owned (apart name file holding))
      fun same => absurd same.symm ne, rfl, rfl⟩
  · intro name' file' held
    cases held
  · intro text' aims
    cases aims

theorem Sharing.sync_dir (sharing : Sharing temp path tasks r₀ phase d past) :
    Sharing temp path tasks r₀ (Function.update phase i .published)
      { d with lasting := fun name => [d.entry name] } (past ++ [⟨i, ⟨.sync_dir, true⟩⟩]) := by
  obtain ⟨r, register, kept⟩ := sharing.register
  refine sharing.idle (fun name file owned => ?_) rfl rfl trivial ?_ ?_
    ⟨r.settle, saw register rfl (.settle r), kept.settle⟩
  · refine ⟨owned.temp, owned.linked, owned.made, fun member => ?_⟩
    exact owned.unpublished (List.mem_singleton.mp member ▸ kept.current)
  · intro held holding
    cases holding
  · intro text aims
    cases aims

/-- A system call that failed and changed nothing. -/
theorem Sharing.failed (sharing : Sharing temp path tasks r₀ phase d past)
    (own : stage.Stands temp path d)
    (holding : ∀ held, stage.holding = some held → (phase i).holding = some held)
    (aim : ∀ text, stage.aim = some text → (phase i).aim = some text) (none : seen tasks ev = .none) :
    Sharing temp path tasks r₀ (Function.update phase i stage) d (past ++ [ev]) := by
  obtain ⟨r, register, kept⟩ := sharing.register
  exact sharing.idle (fun _ _ owned => owned) rfl rfl own holding aim
    ⟨r, unseen register none, kept⟩

/-- A read answers the value of the register. -/
theorem Sharing.read (sharing : Sharing temp path tasks r₀ phase d past) (here : phase i = .reading) :
    Sharing temp path tasks r₀ (Function.update phase i .reading) d
      (past ++ [⟨i, ⟨.read path, d.read path⟩⟩]) := by
  obtain ⟨r, register, kept⟩ := sharing.register
  have got : seen tasks ⟨i, ⟨.read path, d.read path⟩⟩ = some (.get r.value) := by
    rw [← kept.value, seen]
  refine sharing.idle (fun _ _ owned => owned) rfl rfl trivial ?_ ?_ ⟨r, saw register got (.get r), kept⟩
  · intro held holding
    rw [here]
    exact holding
  · intro text aims
    rw [here]
    exact aims

/-- **One system call** of a task that keeps to its stage. -/
theorem Sharing.step [DecidableEq N] (other : ¬ temp path) {β : Type} (op : DiskOp N B β) (answer : β)
    (sharing : Sharing temp path tasks r₀ phase d past)
    (allowed : (fileProtocol path).allows (phase i) op) (answered : d.Answers temp op answer d') :
    Sharing temp path tasks r₀
      (Function.update phase i ((fileProtocol path).next (phase i) op answer)) d'
      (past ++ [⟨i, ⟨op, answer⟩⟩]) := by
  have stands := sharing.stands i
  generalize here : phase i = stage at allowed stands ⊢
  have holds {held : N × Nat} (holding : stage.holding = some held) : (phase i).holding = some held := by
    rw [here]
    exact holding
  have aims {text : List B} (aim : stage.aim = some text) : (phase i).aim = some text := by
    rw [here]
    exact aim
  cases stage with
  | reading =>
    cases answered with
    | read name =>
      cases (show name = path from allowed)
      exact sharing.read here
    | _ => exact allowed.elim
  | fresh text =>
    cases answered with
    | make_dir =>
      obtain ⟨r, register, kept⟩ := sharing.register
      refine sharing.idle (fun _ _ owned => ?_) rfl rfl trivial (fun _ => holds) (fun _ => aims)
        ⟨r, unseen register rfl, kept.frame rfl rfl fun file member => ?_⟩
      · exact ⟨owned.temp, owned.linked, owned.made, owned.unpublished⟩
      · exact ⟨(kept.files file member).1, (kept.files file member).2, rfl⟩
    | make_dir_failed | create_failed =>
      exact sharing.failed trivial (fun _ => holds) (fun _ => aims) rfl
    | create _ new unused => exact sharing.create other here unused new
    | _ => exact allowed.elim
  | filling text name file bytes =>
    cases answered with
    | append file' more =>
      cases (show file' = file from allowed)
      exact sharing.append here (.inl rfl)
    | append_failed file' more rest =>
      cases (show file' = file from allowed)
      exact sharing.append here (.inr rfl)
    | sync file' =>
      obtain ⟨rfl, rfl⟩ : file' = file ∧ bytes = text := allowed
      exact sharing.sync here
    | sync_failed =>
      exact sharing.failed stands.1 (fun _ => holds) (fun _ aim => by cases aim) rfl
    | unlink name' =>
      cases (show name' = name from allowed)
      exact sharing.unlink other (holds rfl)
    | unlink_failed =>
      exact sharing.failed trivial (fun _ holding => by cases holding) (fun _ aim => by cases aim) rfl
    | _ => exact allowed.elim
  | filled text name file =>
    cases answered with
    | @rename old new file' linked =>
      obtain ⟨rfl, rfl⟩ : old = name ∧ new = path := allowed
      cases (Option.some.inj (linked.symm.trans stands.1.linked))
      exact sharing.publish other here
    | rename_failed =>
      exact sharing.failed stands.1 (fun _ => holds) (fun _ aim => by cases aim) rfl
    | _ => exact allowed.elim
  | broken name file =>
    cases answered with
    | unlink name' =>
      cases (show name' = name from allowed)
      exact sharing.unlink other (holds rfl)
    | unlink_failed =>
      exact sharing.failed trivial (fun _ holding => by cases holding) (fun _ aim => by cases aim) rfl
    | _ => exact allowed.elim
  | published =>
    cases answered with
    | sync_dir => exact sharing.sync_dir
    | sync_dir_failed => exact sharing.failed trivial (fun _ => holds) (fun _ => aims) rfl
    | _ => exact allowed.elim
  | ended =>
    cases answered with
    | _ => exact allowed.elim

end Step

theorem FileKept.sharing {d : Disk N B} (kept : FileKept path r₀ d) :
    Sharing temp path tasks r₀ (fun i => .start (tasks i)) d [] := by
  refine ⟨fun i => ?_, fun i j name file name' file' _ holding => ?_, fun i text aims => ?_,
    r₀, .nil, kept⟩
  · cases tasks i <;> trivial
  · generalize tasks i = task at holding
    cases task <;> cases holding
  · cases task : tasks i with
    | write parent display value =>
      rw [task] at aims
      exact (Option.some.inj aims).symm
    | read =>
      rw [task] at aims
      cases aims

variable [DecidableEq ι] [DecidableEq N] {d : Disk N B} {tr : List (PoolEvent ι (DiskOp N B))}
  {q : Pool ι (DiskOp N B) (Disk N B) (Except WriteError Unit)}

theorem FileRun.sharing (run : FileRun temp path tasks d tr q) (other : ¬ temp path)
    (kept : FileKept path r₀ d) :
    Sharing temp path tasks r₀ (Pool.phases (fileProtocol path) (fun i => .start (tasks i)) tr)
        q.shared tr ∧
      ∀ i, (fileProtocol path).Follows Reported
        (Pool.phases (fileProtocol path) (fun i => .start (tasks i)) tr i) (q.thread i) :=
  run.invariant (fun i => (tasks i).follows path) kept.sharing
    fun op answer sharing allowed answered => sharing.step other op answer allowed answered

end Runs

/-! ## Lives -/

section Lives

variable [DecidableEq N]

/-- What happens to the register at a path while processes live on a disk one after the other.  A
process may die at any step, by itself or with the system. -/
inductive Lives (temp : N → Prop) (path : N) (start : Disk N B) :
    List (RegisterEvent (List B)) → Disk N B → Prop
  | start : Lives temp path start [] start
  | live {history : List (RegisterEvent (List B))} {d : Disk N B} {ι : Type} [DecidableEq ι]
    {tasks : ι → FileTask N B} {tr : List (PoolEvent ι (DiskOp N B))}
    {q : Pool ι (DiskOp N B) (Disk N B) (Except WriteError Unit)} :
    Lives temp path start history d → FileRun temp path tasks d tr q →
    Lives temp path start (history ++ tr.filterMap (seen tasks)) q.shared
  | crash {history : List (RegisterEvent (List B))} {d d' : Disk N B} :
    Lives temp path start history d → d.Crash d' →
    Lives temp path start (history ++ [.crash (d'.read path)]) d'
  | loss {history : List (RegisterEvent (List B))} {d d' : Disk N B} :
    Lives temp path start history d → d.Loss d' → Lives temp path start (history ++ [.lose]) d'

variable {temp : N → Prop} {path : N} {start d : Disk N B} {history : List (RegisterEvent (List B))}
  {r₀ : Register (List B)}

theorem Lives.kept (lives : Lives temp path start history d) (other : ¬ temp path)
    (kept : FileKept path r₀ start) : ∃ r, r₀.Run history r ∧ FileKept path r d := by
  induction lives with
  | start => exact ⟨r₀, .nil, kept⟩
  | live _ run ih =>
    obtain ⟨r, past, here⟩ := ih
    obtain ⟨r', more, kept'⟩ := (FileRun.sharing run other here).1.register
    exact ⟨r', past.append more, kept'⟩
  | crash _ crash ih =>
    obtain ⟨r, past, here⟩ := ih
    obtain ⟨survives, kept'⟩ := here.crash crash
    exact ⟨_, .snoc past (.crash survives), kept'⟩
  | loss _ loss ih =>
    obtain ⟨r, past, -⟩ := ih
    exact ⟨_, .snoc past (.lose r), FileKept.of_loss loss⟩

end Lives

end SessionManager
