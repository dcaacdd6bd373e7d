import Mathlib.Data.List.Induction
import Mathlib.Logic.Function.Basic
import SessionManager.Effect.Pool

/-!
# A disk that loses what was not synced

The files of a directory, and what a crash leaves of them.  A file keeps what was in it when it was
synced, if nothing was written since; of an entry of the directory, a crash leaves any of the values
it had since the directory was synced, and it decides about every entry alone.

A file that is only ever replaced as a whole is a `Register`: it has a value, and a crash takes it
back to one of the values since it was settled last.
-/

namespace Effect

/-! ## Disks -/

structure Disk (N B : Type) where
  /-- The directory is there. -/
  present : Bool
  /-- The directory is there after a crash. -/
  kept : Bool
  /-- How many files there ever were. -/
  files : Nat
  content : Nat → List B
  synced : Nat → Bool
  entry : N → Option Nat
  /-- What a crash may leave of an entry. -/
  lasting : N → List (Option Nat)

/-- System calls; each answers whether it succeeded. -/
inductive DiskOp (N B : Type) : Type → Type
  | make_dir : DiskOp N B Bool
  /-- A new file under a new name. -/
  | create : DiskOp N B (Option (N × Nat))
  | append (file : Nat) (bytes : List B) : DiskOp N B Bool
  | sync (file : Nat) : DiskOp N B Bool
  | rename (old new : N) : DiskOp N B Bool
  | unlink (name : N) : DiskOp N B Bool
  | sync_dir : DiskOp N B Bool
  | read (name : N) : DiskOp N B (Option (List B))

namespace Disk

variable {N B : Type}

def read (d : Disk N B) (name : N) : Option (List B) := (d.entry name).map d.content

/-- The bytes are in the file, but not synced. -/
def write (d : Disk N B) (file : Nat) (bytes : List B) : Disk N B :=
  { d with
    content := Function.update d.content file (d.content file ++ bytes)
    synced := Function.update d.synced file false }

variable [DecidableEq N]

/-- Change an entry; a crash may leave it as it was. -/
def link (d : Disk N B) (name : N) (file : Option Nat) : Disk N B :=
  { d with
    entry := Function.update d.entry name file
    lasting := Function.update d.lasting name (file :: d.lasting name) }

/-- An empty file under a name. -/
def make (d : Disk N B) (name : N) : Disk N B :=
  { d with
    files := d.files + 1
    content := Function.update d.content d.files []
    synced := Function.update d.synced d.files false }.link name (some d.files)

/-- How a disk may answer; `temp` are the names that new files get. -/
inductive Answers (temp : N → Prop) (d : Disk N B) : ∀ {β : Type}, DiskOp N B β → β → Disk N B → Prop
  | make_dir : Answers temp d .make_dir true { d with present := true }
  | make_dir_failed : Answers temp d .make_dir false d
  | create {name : N} : d.present = true → temp name → d.entry name = none →
    Answers temp d .create (some (name, d.files)) (d.make name)
  | create_failed : Answers temp d .create none d
  | append (file : Nat) (bytes : List B) : Answers temp d (.append file bytes) true (d.write file bytes)
  /-- Some of the bytes were written. -/
  | append_failed (file : Nat) (bytes rest : List B) :
    Answers temp d (.append file (bytes ++ rest)) false (d.write file bytes)
  | sync (file : Nat) :
    Answers temp d (.sync file) true { d with synced := Function.update d.synced file true }
  | sync_failed (file : Nat) : Answers temp d (.sync file) false d
  | rename {old new : N} {file : Nat} : d.entry old = some file →
    Answers temp d (.rename old new) true ((d.link old none).link new (some file))
  | rename_failed (old new : N) : Answers temp d (.rename old new) false d
  | unlink (name : N) : Answers temp d (.unlink name) true (d.link name none)
  | unlink_failed (name : N) : Answers temp d (.unlink name) false d
  | sync_dir : Answers temp d .sync_dir true { d with lasting := fun name => [d.entry name] }
  | sync_dir_failed : Answers temp d .sync_dir false d
  | read (name : N) : Answers temp d (.read name) (d.read name) d

omit [DecidableEq N] in
/-- What a crash may leave. -/
inductive Crash (d : Disk N B) : Disk N B → Prop
  | crash (content : Nat → List B) (entry : N → Option Nat) :
    (∀ file, d.synced file = true → content file = d.content file) →
    (∀ name, entry name ∈ d.lasting name) →
    Crash d { d with
      kept := d.present
      content
      synced := fun _ => true
      entry
      lasting := fun name => [entry name] }

omit [DecidableEq N] in
/-- A directory that a crash does not keep may be gone with all its files. -/
inductive Loss (d : Disk N B) : Disk N B → Prop
  | loss : d.kept = false →
    Loss d { d with
      present := false
      synced := fun _ => true
      entry := fun _ => none
      lasting := fun _ => [none] }

omit [DecidableEq N] in
/-- What a crash leaves of a name is what is there. -/
structure Settled (d : Disk N B) (name : N) : Prop where
  lasting : d.lasting name = [d.entry name]
  files : ∀ file, d.entry name = some file → file < d.files ∧ d.synced file = true

/-- The directory is there, and a crash keeps it. -/
def Founded (d : Disk N B) : Prop := d.present = true ∧ d.kept = true

theorem Answers.founded {temp : N → Prop} {d d' : Disk N B} {β : Type} {op : DiskOp N B β} {b : β}
    (answered : d.Answers temp op b d') (founded : d.Founded) : d'.Founded := by
  cases answered with
  | make_dir => exact ⟨rfl, founded.2⟩
  | _ => exact founded

/-- A disk on which every call succeeds. -/
def serve (temp : Nat → N) {β : Type} : DiskOp N B β → Disk N B → Option (β × Disk N B)
  | .make_dir, d => some (true, { d with present := true })
  | .create, d =>
    if d.present ∧ d.entry (temp d.files) = none then
      some (some (temp d.files, d.files), d.make (temp d.files))
    else none
  | .append file bytes, d => some (true, d.write file bytes)
  | .sync file, d => some (true, { d with synced := Function.update d.synced file true })
  | .rename old new, d =>
    (d.entry old).map fun file => (true, (d.link old none).link new (some file))
  | .unlink name, d => some (true, d.link name none)
  | .sync_dir, d => some (true, { d with lasting := fun name => [d.entry name] })
  | .read name, d => some (d.read name, d)

theorem answers_of_serve {temp : Nat → N} {β : Type} {op : DiskOp N B β} {d d' : Disk N B} {b : β}
    (served : serve temp op d = some (b, d')) : d.Answers (fun name => ∃ n, name = temp n) op b d' := by
  cases op with
  | make_dir =>
    cases served
    exact .make_dir
  | create =>
    obtain ⟨⟨present, unused⟩, same⟩ := Option.ite_none_right_eq_some.mp served
    cases same
    exact .create present ⟨_, rfl⟩ unused
  | append file bytes =>
    cases served
    exact .append file bytes
  | sync file =>
    cases served
    exact .sync file
  | rename old new =>
    obtain ⟨file, linked, same⟩ := Option.map_eq_some_iff.mp served
    cases same
    exact .rename linked
  | unlink name =>
    cases served
    exact .unlink name
  | sync_dir =>
    cases served
    exact .sync_dir
  | read name =>
    cases served
    exact .read name

section Small

variable (d : Disk N B) (name : N) (target : Option Nat) (file : Nat) (bytes : List B)

@[simp] theorem link_entry_self : (d.link name target).entry name = target :=
  Function.update_self ..

@[simp] theorem link_lasting_self :
    (d.link name target).lasting name = target :: d.lasting name :=
  Function.update_self ..

@[simp] theorem link_entry_of_ne {other : N} (ne : other ≠ name) :
    (d.link name target).entry other = d.entry other :=
  Function.update_of_ne ne ..

@[simp] theorem link_lasting_of_ne {other : N} (ne : other ≠ name) :
    (d.link name target).lasting other = d.lasting other :=
  Function.update_of_ne ne ..

omit [DecidableEq N] in
@[simp] theorem write_content_self : (d.write file bytes).content file = d.content file ++ bytes :=
  Function.update_self ..

omit [DecidableEq N] in
@[simp] theorem write_content_of_ne {other : Nat} (ne : other ≠ file) :
    (d.write file bytes).content other = d.content other :=
  Function.update_of_ne ne ..

omit [DecidableEq N] in
@[simp] theorem write_synced_of_ne {other : Nat} (ne : other ≠ file) :
    (d.write file bytes).synced other = d.synced other :=
  Function.update_of_ne ne ..

@[simp] theorem make_content_self : (d.make name).content d.files = [] :=
  Function.update_self ..

@[simp] theorem make_content_of_ne {other : Nat} (ne : other ≠ d.files) :
    (d.make name).content other = d.content other :=
  Function.update_of_ne ne ..

@[simp] theorem make_synced_of_ne {other : Nat} (ne : other ≠ d.files) :
    (d.make name).synced other = d.synced other :=
  Function.update_of_ne ne ..

@[simp] theorem make_entry_self : (d.make name).entry name = some d.files :=
  Function.update_self ..

@[simp] theorem make_entry_of_ne {other : N} (ne : other ≠ name) :
    (d.make name).entry other = d.entry other :=
  Function.update_of_ne ne ..

@[simp] theorem make_lasting_of_ne {other : N} (ne : other ≠ name) :
    (d.make name).lasting other = d.lasting other :=
  Function.update_of_ne ne ..

end Small

@[simp] theorem read_link_self (d : Disk N B) (name : N) (file : Option Nat) :
    (d.link name file).read name = file.map d.content := by
  simp [read, link]

end Disk

/-! ## Registers -/

/-- A value that was settled, and those put since, the last of them the present one. -/
structure Register (A : Type) where
  settled : Option A
  pending : List A

inductive RegisterEvent (A : Type)
  | put (a : A)
  | settle
  | get (answer : Option A)
  | crash (left : Option A)
  | lose

namespace Register

variable {A : Type} (r : Register A)

def of (value : Option A) : Register A := ⟨value, []⟩

def value : Option A := r.pending.getLast?.or r.settled

def put (a : A) : Register A := { r with pending := r.pending ++ [a] }

def settle : Register A := .of r.value

/-- What a crash may take the register back to. -/
def survivors : List (Option A) := r.settled :: r.pending.map some

@[simp] theorem value_of (value : Option A) : (of value).value = value := rfl

@[simp] theorem survivors_of (value : Option A) : (of value).survivors = [value] := rfl

@[simp] theorem value_put (a : A) : (r.put a).value = some a := by
  simp [value, put]

theorem mem_survivors_put {a : A} {v : Option A} :
    v ∈ (r.put a).survivors ↔ v ∈ r.survivors ∨ v = some a := by
  simp [survivors, put, or_assoc, eq_comm]

/-- What happens to a register. -/
inductive Step : Register A → RegisterEvent A → Register A → Prop
  | put (r : Register A) (a : A) : Step r (.put a) (r.put a)
  | settle (r : Register A) : Step r .settle r.settle
  | get (r : Register A) : Step r (.get r.value) r
  | crash {r : Register A} {left : Option A} : left ∈ r.survivors → Step r (.crash left) (.of left)
  /-- Whatever there was is lost. -/
  | lose (r : Register A) : Step r .lose (.of none)

inductive Run (r : Register A) : List (RegisterEvent A) → Register A → Prop
  | nil : Run r [] r
  | snoc {tr : List (RegisterEvent A)} {r' r'' : Register A} {ev : RegisterEvent A} :
    Run r tr r' → Step r' ev r'' → Run r (tr ++ [ev]) r''

/-- The present value survives if the crash so decides. -/
theorem value_mem_survivors : r.value ∈ r.survivors := by
  unfold value survivors
  cases last : r.pending.getLast? with
  | none => exact List.mem_cons_self
  | some a =>
    have member := List.mem_of_getLast? last
    exact List.mem_cons_of_mem _ (List.mem_map_of_mem member)

theorem Run.append {r r' r'' : Register A} {tr tr' : List (RegisterEvent A)} (first : r.Run tr r')
    (second : r'.Run tr' r'') : r.Run (tr ++ tr') r'' := by
  induction second with
  | nil => rwa [List.append_nil]
  | snoc _ step ih =>
    rw [← List.append_assoc]
    exact .snoc ih step

theorem Run.split {r r'' : Register A} {tr tr' : List (RegisterEvent A)} (run : r.Run (tr ++ tr') r'') :
    ∃ r', r.Run tr r' ∧ r'.Run tr' r'' := by
  induction tr' using List.reverseRecOn generalizing r'' with
  | nil => exact ⟨r'', by rwa [List.append_nil] at run, .nil⟩
  | append_singleton tr' ev ih =>
    rw [← List.append_assoc] at run
    generalize whole : tr ++ tr' ++ [ev] = events at run
    cases run with
    | nil => simp at whole
    | snoc before step =>
      obtain ⟨rfl, same⟩ := List.append_inj' whole rfl
      cases List.singleton_inj.mp same
      obtain ⟨r', first, rest⟩ := ih before
      exact ⟨r', first, .snoc rest step⟩

theorem Run.single {r r' : Register A} {ev : RegisterEvent A} (run : r.Run [ev] r') : r.Step ev r' := by
  generalize whole : [ev] = events at run
  cases run with
  | nil => cases whole
  | @snoc tr _ _ last before step =>
    obtain ⟨rfl, rfl⟩ : tr = [] ∧ last = ev := by
      simpa using List.append_eq_singleton_iff.mp whole.symm
    generalize none : ([] : List (RegisterEvent A)) = tr at before
    cases before with
    | nil => exact step
    | snoc _ _ => simp at none

theorem Run.uncons {r r'' : Register A} {ev : RegisterEvent A} {tr : List (RegisterEvent A)}
    (run : r.Run (ev :: tr) r'') : ∃ r', r.Step ev r' ∧ r'.Run tr r'' := by
  rw [← List.singleton_append] at run
  obtain ⟨r', first, rest⟩ := run.split
  exact ⟨r', first.single, rest⟩

/-- What survives was there before, or was put since. -/
theorem Run.survives {r r' : Register A} {tr : List (RegisterEvent A)} (run : r.Run tr r')
    (unlost : .lose ∉ tr) {v : Option A} (survives : v ∈ r'.survivors) :
    v ∈ r.survivors ∨ ∃ a, .put a ∈ tr ∧ v = some a := by
  induction run generalizing v with
  | nil => exact .inl survives
  | @snoc tr r' r'' ev before step ih =>
    have earlier {v : Option A} (survives : v ∈ r'.survivors) :
        v ∈ r.survivors ∨ ∃ a, .put a ∈ tr ++ [ev] ∧ v = some a := by
      rcases ih (fun lost => unlost (List.mem_append_left _ lost)) survives with before | ⟨a, put, same⟩
      · exact .inl before
      · exact .inr ⟨a, List.mem_append_left _ put, same⟩
    cases step with
    | put a =>
      rcases (mem_survivors_put r').mp survives with old | new
      · exact earlier old
      · exact .inr ⟨a, List.mem_append_right _ (List.mem_singleton_self _), new⟩
    | settle =>
      cases List.mem_singleton.mp survives
      exact earlier r'.value_mem_survivors
    | get => exact earlier survives
    | crash within =>
      cases List.mem_singleton.mp survives
      exact earlier within
    | lose => exact absurd (List.mem_append_right _ (List.mem_singleton_self _)) unlost

/-- Without a crash, the value is the last one that was put. -/
theorem Run.value_of_uncrashed {r r' : Register A} {tr : List (RegisterEvent A)} (run : r.Run tr r')
    (uncrashed : ∀ left, .crash left ∉ tr) (unlost : .lose ∉ tr) :
    r'.value = r.value ∨ ∃ a, .put a ∈ tr ∧ r'.value = some a := by
  induction run with
  | nil => exact .inl rfl
  | @snoc tr r' r'' ev before step ih =>
    have here : ev ∈ tr ++ [ev] := List.mem_append_right _ (List.mem_singleton_self _)
    have earlier : r'.value = r.value ∨ ∃ a, .put a ∈ tr ++ [ev] ∧ r'.value = some a := by
      rcases ih (fun left crash => uncrashed left (List.mem_append_left _ crash))
          (fun lost => unlost (List.mem_append_left _ lost)) with same | ⟨a, put, same⟩
      · exact .inl same
      · exact .inr ⟨a, List.mem_append_left _ put, same⟩
    cases step with
    | put a => exact .inr ⟨a, here, r'.value_put a⟩
    | settle | get => exact earlier
    | crash => exact absurd here (uncrashed _)
    | lose => exact absurd here unlost

/-- **What was put and settled stays**, or gives way to what was put after it. -/
theorem Run.settled {r r' : Register A} {before between after : List (RegisterEvent A)} {a : A}
    (run : r.Run (before ++ .put a :: (between ++ .settle :: after)) r')
    (uncrashed : ∀ left, .crash left ∉ between) (unlost : .lose ∉ between ++ after) {v : Option A}
    (survives : v ∈ r'.survivors) : ∃ b, v = some b ∧ (b = a ∨ .put b ∈ between ++ after) := by
  obtain ⟨r₁, -, rest⟩ := run.split
  obtain ⟨r₂, put, rest⟩ := rest.uncons
  obtain ⟨r₃, quiet, rest⟩ := rest.split
  obtain ⟨r₄, settling, rest⟩ := rest.uncons
  cases put
  cases settling
  have unlost' : .lose ∉ between := fun lost => unlost (List.mem_append_left _ lost)
  rcases rest.survives (fun lost => unlost (List.mem_append_right _ lost)) survives with old | ⟨b, put, same⟩
  · cases List.mem_singleton.mp old
    rcases quiet.value_of_uncrashed uncrashed unlost' with same | ⟨b, put, same⟩
    · exact ⟨a, same.trans (r₁.value_put a), .inl rfl⟩
    · exact ⟨b, same, .inr (List.mem_append_left _ put)⟩
  · exact ⟨b, same, .inr (List.mem_append_right _ put)⟩

end Register

end Effect
