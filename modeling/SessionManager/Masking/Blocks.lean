import Mathlib.Data.List.DropRight
import Mathlib.Data.List.TakeDrop
import Mathlib.Data.List.TakeWhile
import SessionManager.Masking.Ras

/-!
# The blocks of `rac`

`rac` prints blocks of lines `key : value`, with blank lines between them.  `parse_blocks` of
`session_manager/masking/ras.rs` reads back what was printed, whatever blanks stand around the keys
and the values and however many blank lines there are (`parse_blocks_printed`).
-/

namespace SessionManager

open Effect

/-! ## Trimmed texts -/

theorem dropWhile_append_cons {p : Char → Bool} {c : Char} (stays : p c = false)
    (before after : List Char) :
    (before ++ c :: after).dropWhile p = before.dropWhile p ++ c :: after := by
  rw [List.dropWhile_append]
  cases before.dropWhile p with
  | nil => simp [stays]
  | cons d rest => simp

variable {drop : Char → Bool} {s left right : List Char}

theorem trim_matches_left (dropped : ∀ c ∈ left, drop c = true) :
    trim_matches drop (left ++ s) = trim_matches drop s := by
  rw [trim_matches, List.dropWhile_append_of_pos dropped, trim_matches]

theorem trim_matches_right (dropped : ∀ c ∈ right, drop c = true) :
    trim_matches drop (s ++ right) = trim_matches drop s := by
  have dropped' : ∀ c ∈ right.reverse, drop c = true := by
    intro c member
    exact dropped c (List.mem_reverse.mp member)
  rw [trim_matches, trim_matches, List.dropWhile_append]
  cases s.dropWhile drop with
  | nil => simp [List.dropWhile_eq_nil_iff.mpr dropped]
  | cons d rest =>
    rw [List.isEmpty_cons, if_neg Bool.false_ne_true, List.reverse_append,
      List.dropWhile_append_of_pos dropped']

theorem trim_matches_all (dropped : ∀ c ∈ s, drop c = true) : trim_matches drop s = [] := by
  rw [trim_matches, List.dropWhile_eq_nil_iff.mpr dropped]
  rfl

/-- Before a character that stays, characters are dropped in front only; behind it, at the end
only. -/
theorem trim_matches_cons {c : Char} (stays : drop c = false) (before after : List Char) :
    trim_matches drop (before ++ c :: after) =
      before.dropWhile drop ++ c :: (after.reverse.dropWhile drop).reverse := by
  rw [trim_matches, dropWhile_append_cons stays, List.reverse_append, List.reverse_cons,
    List.append_assoc, List.singleton_append, dropWhile_append_cons stays]
  simp

/-- Dropping in front first makes no difference. -/
theorem trim_matches_of_front : trim_matches drop (s.dropWhile drop) = trim_matches drop s := by
  rw [trim_matches, List.dropWhile_idempotent, trim_matches]

/-- Dropping at the end first makes no difference. -/
theorem trim_matches_of_end :
    trim_matches drop (s.reverse.dropWhile drop).reverse = trim_matches drop s := by
  have parts : s = (s.reverse.dropWhile drop).reverse ++ (s.reverse.takeWhile drop).reverse := by
    rw [← List.reverse_append, List.takeWhile_append_dropWhile, List.reverse_reverse]
  have dropped : ∀ c ∈ (s.reverse.takeWhile drop).reverse, drop c = true := by
    intro c member
    exact List.mem_takeWhile_imp (List.mem_reverse.mp member)
  conv_rhs => rw [parts]
  rw [trim_matches_right dropped]

theorem split_once_append {separator : Char} {before : List Char} (free : separator ∉ before)
    (after : List Char) : split_once separator (before ++ separator :: after) =
      some (before, after) := by
  have passed : ∀ c ∈ before, (c != separator) = true := by
    intro c member
    rw [bne_iff_ne]
    rintro rfl
    exact free member
  rw [split_once, List.span_eq_takeWhile_dropWhile, List.takeWhile_append_of_pos passed,
    List.dropWhile_append_of_pos passed]
  simp

/-! ## What is printed -/

/-- Nothing but white space, within a line. -/
def Blank (s : List Char) : Prop := ∀ c ∈ s, is_whitespace c = true ∧ c ≠ '\n'

/-- A key, in lower case and without a colon, and a value, both without blanks at the ends. -/
structure RacEntry (texts : RasTexts) where
  key : String
  value : String
  lower_case : texts.to_lowercase key = key
  key_trimmed : trim key.toList = key.toList
  no_colon : ':' ∉ key.toList
  value_trimmed : trim value.toList = value.toList

/-- Entries with keys of their own, one at least. -/
structure RacEntries (texts : RasTexts) where
  entries : List (RacEntry texts)
  nonempty : entries ≠ []
  distinct : (entries.map RacEntry.key).Nodup

variable {texts : RasTexts}

/-- The line `key : value`, with any blanks at the ends and around the colon.  Being one line, it
has no line feed in the key and none in the value. -/
def RacEntry.Line (entry : RacEntry texts) (line : List Char) : Prop :=
  '\n' ∉ line ∧ ∃ left before after right, Blank left ∧ Blank before ∧ Blank after ∧ Blank right ∧
    line = left ++ entry.key.toList ++ before ++ ':' :: (after ++ entry.value.toList ++ right)

/-- The lines of the blocks: one for each entry, and blank lines between two blocks, one at least,
and behind the last. -/
inductive BlockLines : List (RacEntries texts) → List (List Char) → Prop
  | none : BlockLines [] []
  | last {block : RacEntries texts} {ls : List (List Char)} :
    List.Forall₂ RacEntry.Line block.entries ls → BlockLines [block] ls
  | more {block : RacEntries texts} {blocks : List (RacEntries texts)}
      {ls gap rest : List (List Char)} :
    List.Forall₂ RacEntry.Line block.entries ls → (∀ line ∈ gap, Blank line) → gap ≠ [] →
      BlockLines blocks rest → BlockLines (block :: blocks) (ls ++ (gap ++ rest))

/-- The text is made of the lines of the blocks, with any number of blank lines in front.  It ends
with or without a line feed: behind one, the last line is empty. -/
def Printed (blocks : List (RacEntries texts)) (text : String) : Prop :=
  ∃ gap ls, (∀ line ∈ gap, Blank line) ∧ BlockLines blocks ls ∧
    text.toList = ['\n'].intercalate (gap ++ ls)

/-- The block has these entries and no others. -/
def RacEntries.Read (block : RacEntries texts) (read : RacBlock) : Prop :=
  ∀ key value, read.get key = some value ↔
    ∃ entry ∈ block.entries, entry.key = key ∧ entry.value = value

/-! ## A line -/

theorem trim_left (blank : Blank left) : trim (left ++ s) = trim s :=
  trim_matches_left fun c member => (blank c member).1

theorem trim_right (blank : Blank right) : trim (s ++ right) = trim s :=
  trim_matches_right fun c member => (blank c member).1

theorem Blank.single {line : List Char} (blank : Blank line) : '\n' ∉ line := by
  intro member
  exact (blank _ member).2 rfl

theorem BlockLines.single {blocks : List (RacEntries texts)} {ls : List (List Char)}
    (printed : BlockLines blocks ls) : ∀ line ∈ ls, '\n' ∉ line := by
  have of_entries {entries : List (RacEntry texts)} {ls : List (List Char)}
      (printed : List.Forall₂ RacEntry.Line entries ls) : ∀ line ∈ ls, '\n' ∉ line := by
    induction printed with
    | nil => simp
    | cons printed _ ih => exact List.forall_mem_cons.mpr ⟨printed.1, ih⟩
  induction printed with
  | none => simp
  | last entries => exact of_entries entries
  | more entries blank _ _ ih =>
    intro line member
    rcases List.mem_append.mp member with member | member
    · exact of_entries entries line member
    rcases List.mem_append.mp member with member | member
    · exact (blank line member).single
    · exact ih line member

/-- An entry is put into the current block. -/
theorem RacEntry.Line.parse {entry : RacEntry texts} {line : List Char} (printed : entry.Line line)
    (blocks : List RacBlock) (cur : RacBlock) :
    parse_line texts (blocks, cur) line = (blocks, cur.insert entry.key entry.value) := by
  obtain ⟨-, left, before, after, right, blank_left, blank_before, blank_after, blank_right, rfl⟩ :=
    printed
  have stays : is_whitespace ':' = false := by decide
  have trimmed := trim_matches_cons stays (left ++ entry.key.toList ++ before)
    (after ++ entry.value.toList ++ right)
  have no_colon : ':' ∉ (left ++ entry.key.toList ++ before).dropWhile is_whitespace := by
    intro member
    have member := (List.dropWhile_sublist is_whitespace).subset member
    simp only [List.mem_append] at member
    rcases member with (member | member) | member
    · exact absurd (blank_left _ member).1 (by decide)
    · exact entry.no_colon member
    · exact absurd (blank_before _ member).1 (by decide)
  have key : trim ((left ++ entry.key.toList ++ before).dropWhile is_whitespace) =
      entry.key.toList := by
    rw [trim, trim_matches_of_front, ← trim, trim_right blank_before, trim_left blank_left,
      entry.key_trimmed]
  have value : trim ((after ++ entry.value.toList ++ right).reverse.dropWhile
      is_whitespace).reverse = entry.value.toList := by
    rw [trim, trim_matches_of_end, ← trim, trim_right blank_right, trim_left blank_after,
      entry.value_trimmed]
  rw [parse_line, trim, trimmed, split_once_append no_colon]
  simp only [key, value, String.ofList_toList, entry.lower_case]
  rw [if_neg (by simp)]

/-- The current block is complete, unless there is none. -/
def flush (state : List RacBlock × RacBlock) : List RacBlock × RacBlock :=
  if state.2.keys.isEmpty then state else (state.1 ++ [state.2], .empty)

theorem flush_flush (state : List RacBlock × RacBlock) : flush (flush state) = flush state := by
  by_cases none : state.2.keys.isEmpty = true
  · have kept : flush state = state := if_pos none
    rw [kept, kept]
  · have emptied : (HashMap.empty : RacBlock).keys.isEmpty = true := rfl
    have done : flush state = (state.1 ++ [state.2], .empty) := if_neg none
    rw [done]
    exact if_pos emptied

theorem parse_blocks_eq (stdout : String) : parse_blocks texts stdout =
    (flush ((lines stdout.toList).foldl (parse_line texts) ([], .empty))).1 := by
  rw [parse_blocks, flush]
  dsimp only
  split <;> rfl

/-- A blank line completes the current block. -/
theorem Blank.parse {line : List Char} (blank : Blank line)
    (state : List RacBlock × RacBlock) : parse_line texts state line = flush state := by
  have trimmed : trim line = [] := trim_matches_all fun c member => (blank c member).1
  rw [parse_line, trimmed, flush]
  rfl

/-! ## A text -/

theorem trim_strip_return (line : List Char) : trim (strip_return line) = trim line := by
  rw [strip_return]
  split
  · rename_i rest ends
    have parts : line = rest.reverse ++ ['\r'] := by
      rw [← List.reverse_cons, ← ends, List.reverse_reverse]
    have blank : ∀ c ∈ ['\r'], is_whitespace c = true := List.forall_mem_singleton.mpr (by decide)
    rw [parts, trim, trim, trim_matches_right blank]
  · rfl

theorem parse_strip_return (state : List RacBlock × RacBlock) (line : List Char) :
    parse_line texts state (strip_return line) = parse_line texts state line := by
  rw [parse_line, trim_strip_return, parse_line]

/-- The lines of a text are those it is made of, but for carriage returns and an empty last line,
which make no difference. -/
theorem flush_lines {ls : List (List Char)} (single : ∀ line ∈ ls, '\n' ∉ line)
    (state : List RacBlock × RacBlock) :
    flush ((lines (['\n'].intercalate ls)).foldl (parse_line texts) state) =
      flush (ls.foldl (parse_line texts) state) := by
  rcases List.eq_nil_or_concat ls with rfl | ⟨init, last, rfl⟩
  · rfl
  · rw [List.concat_eq_append] at single ⊢
    rw [lines, List.splitOn_intercalate _ single (by simp),
      List.dropLast_concat, List.getLast?_concat, List.foldl_append, List.foldl_map,
      List.foldl_append]
    simp only [parse_strip_return]
    generalize init.foldl (parse_line texts) state = state
    by_cases empty : last = []
    · have blank : Blank [] := List.forall_mem_nil _
      rw [empty, List.foldl_cons, blank.parse, List.foldl_nil, flush_flush]
      rfl
    · simp [empty]

/-! ## The blocks -/

/-- The block as it is read. -/
def RacEntries.block (block : RacEntries texts) : RacBlock :=
  block.entries.foldl (fun cur entry => cur.insert entry.key entry.value) .empty

theorem RacEntries.read_block (block : RacEntries texts) : block.Read block.block := by
  intro key value
  rw [RacEntries.block, HashMap.get_foldl_insert_of block.distinct, HashMap.get_empty]
  simp

theorem RacEntries.flush_block (block : RacEntries texts) (blocks : List RacBlock) :
    flush (blocks, block.block) = (blocks ++ [block.block], .empty) := by
  apply if_neg
  intro none
  obtain ⟨entry, member⟩ := List.exists_mem_of_ne_nil _ block.nonempty
  have read := (block.read_block entry.key entry.value).mpr ⟨entry, member, rfl, rfl⟩
  have listed : entry.key ∈ block.block.keys := by
    rw [HashMap.mem_keys, read]
    rfl
  rw [List.isEmpty_iff.mp none] at listed
  cases listed

/-- The lines of a block put its entries into the current block. -/
theorem foldl_entries {entries : List (RacEntry texts)} {ls : List (List Char)}
    (printed : List.Forall₂ RacEntry.Line entries ls) (blocks : List RacBlock) (cur : RacBlock) :
    ls.foldl (parse_line texts) (blocks, cur) =
      (blocks, entries.foldl (fun cur entry => cur.insert entry.key entry.value) cur) := by
  induction printed generalizing cur with
  | nil => rfl
  | cons printed _ ih => rw [List.foldl_cons, printed.parse, ih, List.foldl_cons]

/-- Blank lines complete the current block. -/
theorem foldl_gap {gap : List (List Char)} (blank : ∀ line ∈ gap, Blank line)
    (some_line : gap ≠ []) (state : List RacBlock × RacBlock) :
    gap.foldl (parse_line texts) state = flush state := by
  induction gap generalizing state with
  | nil => exact absurd rfl some_line
  | cons line gap ih =>
    rw [List.foldl_cons, (blank line (List.mem_cons_self ..)).parse]
    rcases gap with _ | ⟨line', gap⟩
    · rfl
    · rw [ih (fun line member => blank line (List.mem_cons_of_mem _ member)) (List.cons_ne_nil _ _),
        flush_flush]

/-- The lines of blocks add the blocks to those that are complete. -/
theorem foldl_blocks {blocks : List (RacEntries texts)} {ls : List (List Char)}
    (printed : BlockLines blocks ls) (complete : List RacBlock) :
    (flush (ls.foldl (parse_line texts) (complete, .empty))).1 =
      complete ++ blocks.map RacEntries.block := by
  induction printed generalizing complete with
  | none => simp [flush, HashMap.empty, HashMap.keys]
  | @last block ls entries =>
    rw [foldl_entries entries, ← RacEntries.block, block.flush_block]
    rfl
  | @more block blocks ls gap rest entries blank some_line _ ih =>
    rw [List.foldl_append, List.foldl_append, foldl_entries entries, foldl_gap blank some_line,
      ← RacEntries.block, block.flush_block, ih, List.append_assoc]
    rfl

/-- **What `rac` prints is read back**: the very blocks, in their order. -/
theorem parse_blocks_printed {texts : RasTexts} {blocks : List (RacEntries texts)} {text : String}
    (printed : Printed blocks text) :
    List.Forall₂ RacEntries.Read blocks (parse_blocks texts text) := by
  obtain ⟨gap, ls, blank, block_lines, parts⟩ := printed
  have single : ∀ line ∈ gap ++ ls, '\n' ∉ line := by
    intro line member
    rcases List.mem_append.mp member with member | member
    · exact (blank line member).single
    · exact block_lines.single line member
  have nothing : gap.foldl (parse_line texts) ([], .empty) = ([], .empty) := by
    rcases gap with _ | ⟨line, gap⟩
    · rfl
    · exact foldl_gap blank (List.cons_ne_nil _ _) _
  have parsed : parse_blocks texts text = blocks.map RacEntries.block := by
    rw [parse_blocks_eq, parts, flush_lines single, List.foldl_append, nothing,
      foldl_blocks block_lines, List.nil_append]
  rw [parsed, List.forall₂_map_right_iff, List.forall₂_same]
  intro block _
  exact block.read_block

/-! ### Two clusters -/

def host_entry : RacEntry plain_texts where
  key := "host"
  value := "onec:1541"
  lower_case := rfl
  key_trimmed := by decide
  no_colon := by decide
  value_trimmed := by decide

def name_entry : RacEntry plain_texts where
  key := "name"
  value := ""
  lower_case := rfl
  key_trimmed := by decide
  no_colon := by decide
  value_trimmed := by decide

def named_cluster : RacEntries plain_texts where
  entries := [host_entry, name_entry]
  nonempty := List.cons_ne_nil _ _
  distinct := by decide

def other_cluster : RacEntries plain_texts where
  entries := [host_entry]
  nonempty := List.cons_ne_nil _ _
  distinct := by decide

/-- The blank lines and the carriage return are passed over, the colon of the port is kept. -/
theorem two_clusters_are_read :
    List.Forall₂ RacEntries.Read [named_cluster, other_cluster]
      (parse_blocks plain_texts "\n host : onec:1541\r\nname:\n\n\t\nhost :onec:1541\n") := by
  have space : Blank [' '] := List.forall_mem_singleton.mpr (by decide)
  have carriage : Blank ['\r'] := List.forall_mem_singleton.mpr (by decide)
  have tab : Blank ['\t'] := List.forall_mem_singleton.mpr (by decide)
  have nothing : Blank [] := List.forall_mem_nil _
  have first : host_entry.Line " host : onec:1541\r".toList :=
    ⟨by decide, [' '], [' '], [' '], ['\r'], space, space, space, carriage, rfl⟩
  have second : name_entry.Line "name:".toList :=
    ⟨by decide, [], [], [], [], nothing, nothing, nothing, nothing, rfl⟩
  have third : host_entry.Line "host :onec:1541".toList :=
    ⟨by decide, [], [' '], [], [], nothing, space, nothing, nothing, rfl⟩
  have other : BlockLines [other_cluster] (["host :onec:1541".toList] ++ ([[]] ++ [])) :=
    .more (.cons third .nil) (List.forall_mem_singleton.mpr nothing) (List.cons_ne_nil _ _) .none
  have between : ∀ line ∈ [[], ['\t']], Blank line :=
    List.forall_mem_cons.mpr ⟨nothing, List.forall_mem_singleton.mpr tab⟩
  have named_lines : List.Forall₂ RacEntry.Line named_cluster.entries
      [" host : onec:1541\r".toList, "name:".toList] := .cons first (.cons second .nil)
  have both := BlockLines.more named_lines between (List.cons_ne_nil _ _) other
  exact parse_blocks_printed ⟨[[]], _, List.forall_mem_singleton.mpr nothing, both, rfl⟩

end SessionManager
