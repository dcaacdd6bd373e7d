import SessionManager.Effect.Disk

/-!
# Writing a file atomically

`write_json_atomic` of `support/atomic_write.rs`: the text goes into a new file of the same
directory, which is synced and renamed.  Any number of writers and readers of one path share a disk;
each of their system calls may fail, the process may die, and the system may crash, over and over.
What the readers see is a register that the writers put whole texts into.
-/

namespace SessionManager

open Effect

open Prog (perform)

variable {N B : Type}

/-! ## The source -/

inductive WriteError
  | InvalidInput (message : String)
  | InvalidData
  | other
deriving DecidableEq

structure Path (N : Type) where
  parent : Option String
  name : N
  display : String

/-- What a value is serialized to: pieces that are written one after the other, and whether its
`Serialize` came to its end. -/
structure Serialized (B : Type) where
  pieces : List (List B)
  complete : Bool

def Serialized.text (value : Serialized B) : List B := value.pieces.flatten

namespace atomic_write

/-- The new file is dropped, which unlinks it if that is possible. -/
def drop_file (name : N) (error : WriteError) : Prog (DiskOp N B) (Except WriteError Unit) := do
  let _ ← perform (.unlink name)
  return .error error

def to_writer (file : Nat) : List (List B) → Prog (DiskOp N B) Bool
  | [] => return true
  | piece :: rest => do
    if ← perform (.append file piece) then to_writer file rest
    else return false

def persist (path : Path N) (name : N) : Prog (DiskOp N B) (Except WriteError Unit) := do
  if ← perform (.rename name path.name) then
    let _ ← perform .sync_dir
    return .ok ()
  else drop_file name .other

def write_new (path : Path N) (value : Serialized B) (name : N) (file : Nat) :
    Prog (DiskOp N B) (Except WriteError Unit) := do
  let written ← to_writer file value.pieces
  if written && value.complete then
    if ← perform (.sync file) then persist path name
    else drop_file name .other
  else drop_file name .InvalidData

def create_dir_all (parent : String) : Prog (DiskOp N B) Bool :=
  if parent.isEmpty then return true else perform .make_dir

def write_json_atomic (path : Path N) (value : Serialized B) :
    Prog (DiskOp N B) (Except WriteError Unit) :=
  match path.parent with
  | none =>
    return .error (.InvalidInput ("atomic_write: path '" ++ path.display ++ "' has no parent dir"))
  | some parent => do
    if ← create_dir_all parent then
      match ← perform .create with
      | none => return .error .other
      | some (name, file) => write_new path value name file
    else return .error .other

end atomic_write

/-- What a task does with the file at a path. -/
inductive FileTask (N B : Type)
  | write (parent : Option String) (display : String) (value : Serialized B)
  | read

namespace FileTask

/-- A reader reports nothing but what its read was answered. -/
def prog (path : N) : FileTask N B → Prog (DiskOp N B) (Except WriteError Unit)
  | .write parent display value => atomic_write.write_json_atomic ⟨parent, path, display⟩ value
  | .read => do
    let _ ← perform (.read path)
    return .ok ()

def text : FileTask N B → List B
  | .write _ _ value => value.text
  | .read => []

end FileTask

/-! ## The stages of a task -/

inductive WriteStage (N B : Type)
  | reading
  | fresh (text : List B)
  /-- The new file has these bytes. -/
  | filling (text : List B) (name : N) (file : Nat) (bytes : List B)
  /-- It has all of them, and was synced. -/
  | filled (text : List B) (name : N) (file : Nat)
  | broken (name : N) (file : Nat)
  | published
  | ended

namespace WriteStage

def holding : WriteStage N B → Option (N × Nat)
  | .filling _ name file _ | .filled _ name file | .broken name file => some (name, file)
  | _ => none

def aim : WriteStage N B → Option (List B)
  | .fresh text | .filling text _ _ _ | .filled text _ _ => some text
  | _ => none

def start : FileTask N B → WriteStage N B
  | .write _ _ value => .fresh value.text
  | .read => .reading

def allows (path : N) : WriteStage N B → ∀ {β : Type}, DiskOp N B β → Prop
  | .reading, _, .read name => name = path
  | .fresh _, _, .make_dir | .fresh _, _, .create => True
  | .filling _ _ file _, _, .append file' _ => file' = file
  | .filling text _ file bytes, _, .sync file' => file' = file ∧ bytes = text
  | .filling _ name _ _, _, .unlink name' | .broken name _, _, .unlink name' => name' = name
  | .filled _ name _, _, .rename old new => old = name ∧ new = path
  | .published, _, .sync_dir => True
  | _, _, _ => False

def next : WriteStage N B → ∀ {β : Type}, DiskOp N B β → β → WriteStage N B
  | .fresh text, _, .create, some (name, file) => .filling text name file []
  | .filling text name file bytes, _, .append _ more, true => .filling text name file (bytes ++ more)
  | .filling text name file _, _, .sync _, true => .filled text name file
  | .filling _ name file _, _, .append _ _, false | .filling _ name file _, _, .sync _, false =>
    .broken name file
  | .filled _ _ _, _, .rename _ _, true => .published
  | .filled _ name file, _, .rename _ _, false => .broken name file
  | .filling _ _ _ _, _, .unlink _, _ | .broken _ _, _, .unlink _, _ => .ended
  | stage, _, _, _ => stage

end WriteStage

def fileProtocol (path : N) : Protocol (DiskOp N B) (WriteStage N B) where
  allows := WriteStage.allows path
  next := WriteStage.next

/-- A task that has returned holds no file, and a writer has reported what it did. -/
def Reported (stage : WriteStage N B) (result : Except WriteError Unit) : Prop :=
  stage.holding = none ∧ (result = .ok () ↔ stage = .published ∨ stage = .reading)

section Follows

theorem reported_published : Reported (.published : WriteStage N B) (.ok ()) := by
  simp [Reported, WriteStage.holding]

theorem reported_reading : Reported (.reading : WriteStage N B) (.ok ()) := by
  simp [Reported, WriteStage.holding]

theorem reported_failed {stage : WriteStage N B} (unpublished : stage.aim ≠ none ∨ stage = .ended)
    (free : stage.holding = none) (error : WriteError) : Reported stage (.error error) := by
  refine ⟨free, ?_⟩
  rcases unpublished with aims | rfl
  · cases stage <;> simp_all [WriteStage.aim]
  · simp

variable {path : Path N}

theorem drop_file_follows {stage : WriteStage N B} {name : N} {file : Nat}
    (holding : stage = .broken name file ∨ ∃ text bytes, stage = .filling text name file bytes)
    (error : WriteError) :
    (fileProtocol path.name).Follows Reported stage (atomic_write.drop_file name error) := by
  have reported : Reported (.ended : WriteStage N B) (.error error) :=
    reported_failed (.inr rfl) rfl error
  rcases holding with rfl | ⟨text, bytes, rfl⟩
  · exact ⟨rfl, fun _ => reported⟩
  · exact ⟨rfl, fun _ => reported⟩

theorem to_writer_follows (text : List B) (name : N) (file : Nat) (bytes : List B)
    (pieces : List (List B)) :
    (fileProtocol path.name).Follows
      (fun stage written => if written then stage = .filling text name file (bytes ++ pieces.flatten)
        else stage = .broken name file)
      (.filling text name file bytes) (atomic_write.to_writer file pieces) := by
  induction pieces generalizing bytes with
  | nil => simp [atomic_write.to_writer]
  | cons piece rest ih =>
    refine ⟨rfl, fun written => ?_⟩
    cases written with
    | false => exact rfl
    | true =>
      have rest := ih (bytes ++ piece)
      simp only [List.append_assoc] at rest
      exact rest

theorem persist_follows (text : List B) (name : N) (file : Nat) :
    (fileProtocol path.name).Follows Reported (.filled text name file)
      (atomic_write.persist path name) := by
  refine ⟨⟨rfl, rfl⟩, fun renamed => ?_⟩
  cases renamed with
  | false => exact drop_file_follows (.inl rfl) .other
  | true => exact ⟨trivial, fun _ => reported_published⟩

theorem write_new_follows (value : Serialized B) (name : N) (file : Nat) :
    (fileProtocol path.name).Follows Reported (.filling value.text name file [])
      (atomic_write.write_new path value name file) := by
  refine (to_writer_follows value.text name file [] value.pieces).bind fun stage written at_end => ?_
  cases written with
  | false => exact drop_file_follows (.inl at_end) .InvalidData
  | true =>
    cases complete : value.complete with
    | false =>
      rw [Bool.and_false]
      exact drop_file_follows (.inr ⟨_, _, at_end⟩) .InvalidData
    | true =>
      cases (show stage = .filling value.text name file value.text from at_end)
      refine ⟨⟨rfl, rfl⟩, fun synced => ?_⟩
      cases synced with
      | false => exact drop_file_follows (.inl rfl) .other
      | true => exact persist_follows value.text name file

theorem write_json_atomic_follows (path : Path N) (value : Serialized B) :
    (fileProtocol path.name).Follows Reported (.fresh value.text)
      (atomic_write.write_json_atomic path value) := by
  have failed : ∀ error, Reported (.fresh value.text : WriteStage N B) (.error error) :=
    reported_failed (.inl (Option.some_ne_none _)) rfl
  have create : (fileProtocol path.name).Follows Reported (.fresh value.text) (do
      match ← perform .create with
      | none => return .error .other
      | some (name, file) => atomic_write.write_new path value name file) := by
    refine ⟨trivial, fun created => ?_⟩
    cases created with
    | none => exact failed .other
    | some made => exact write_new_follows value made.1 made.2
  unfold atomic_write.write_json_atomic
  cases path.parent with
  | none => exact failed _
  | some parent =>
    dsimp only
    unfold atomic_write.create_dir_all
    cases parent.isEmpty with
    | true => exact create
    | false =>
      refine ⟨trivial, fun made => ?_⟩
      cases made with
      | false => exact failed .other
      | true => exact create

theorem FileTask.follows (path : N) (task : FileTask N B) :
    (fileProtocol path).Follows Reported (.start task) (task.prog path) := by
  cases task with
  | write parent display value =>
    exact write_json_atomic_follows ⟨parent, path, display⟩ value
  | read => exact ⟨rfl, fun _ => reported_reading⟩

end Follows

end SessionManager
