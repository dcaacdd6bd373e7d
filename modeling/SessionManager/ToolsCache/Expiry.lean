import SessionManager.Effect.Group
import SessionManager.ToolsCache.Operations
import Mathlib.Data.List.Infix

/-!
# Expired entries

The cache drops expired entries only when a call happens to look.  What it lists is nevertheless
what a cache would list that drops each entry at the moment it expires: the tools noted last
under each key, unless they were reset or not seen for longer than the life of an entry
(`CacheWorld.lists_unexpired`).
-/

namespace SessionManager

open Effect

/-- Calls and the instants at which they read the clock. -/
abbrev StoreHistory : Type := List (Nat × StoreCall)

/-- The call notes tools under the key, or resets it. -/
def StoreCall.touches (key : String × String) : StoreCall → Prop
  | .upsert kind config_id _ => (kind, config_id) = key
  | .list_all => False
  | .reset_all => True
  | .reset_by_config_id config_id => config_id = key.2

/-- The latest `upsert` under the key happened at `u` and noted these tools, and no reset since
then matches the key. -/
def LastNoted (history : StoreHistory) (key : String × String) (u : Nat)
    (tools : List ToolDescriptor) : Prop :=
  ∃ past later, history = past ++ (u, .upsert key.1 key.2 tools) :: later ∧
    ∀ t c, (t, c) ∈ later → ¬ c.touches key

/-- What a cache without lag has under a key at `t`. -/
def Shows (history : StoreHistory) (life t : Nat) (key : String × String)
    (tools : List ToolDescriptor) : Prop :=
  ∃ u, LastNoted history key u tools ∧ t - u ≤ life

section LastNoted

variable {history : StoreHistory} {key : String × String} {t u : Nat} {c : StoreCall}
  {tools : List ToolDescriptor}

theorem not_lastNoted_nil : ¬ LastNoted [] key u tools := by
  intro noted
  obtain ⟨past, later, split, -⟩ := noted
  exact List.append_ne_nil_of_right_ne_nil past (List.cons_ne_nil _ _) split.symm

/-- The last call decides if it touches the key. -/
theorem lastNoted_snoc : LastNoted (history ++ [(t, c)]) key u tools ↔
    (t, c) = (u, .upsert key.1 key.2 tools) ∨ ¬ c.touches key ∧ LastNoted history key u tools := by
  constructor
  · intro noted
    obtain ⟨past, later, split, untouched⟩ := noted
    rcases Trace.snoc_eq_split.mp split with ⟨rfl, last, rfl⟩ | ⟨later, rfl, rest⟩
    · exact .inl last.symm
    · refine .inr ⟨untouched t c (List.mem_append_right _ (List.mem_singleton_self _)), past, later,
        rest, fun t c member => untouched t c (List.mem_append_left _ member)⟩
  · intro noted
    rcases noted with last | ⟨untouched, past, later, rfl, others⟩
    · refine ⟨history, [], by rw [last], fun t c member => ?_⟩
      cases member
    · refine ⟨past, later ++ [(t, c)], by rw [List.append_assoc]; rfl, fun t' c' member => ?_⟩
      rcases List.mem_append.mp member with before | here
      · exact others t' c' before
      · cases List.mem_singleton.mp here
        exact untouched

theorem lastNoted_of_untouched (untouched : ¬ c.touches key) :
    LastNoted (history ++ [(t, c)]) key u tools ↔ LastNoted history key u tools := by
  rw [lastNoted_snoc, and_iff_right untouched]
  apply or_iff_right
  intro last
  cases last
  exact untouched rfl

end LastNoted

/-! ## A store and its history -/

/-- What a store has after the calls of a history, the last of them before `now`. -/
structure Agrees (store : ToolsCacheStore) (history : StoreHistory) (now : Nat) : Prop where
  keyed : store.keyed
  noted : ∀ key entry, store.inner.get key = some entry →
    LastNoted history key entry.last_seen_at entry.tools
  kept : ∀ key u tools, LastNoted history key u tools → now - u ≤ store.life →
    ∃ entry, store.inner.get key = some entry ∧ entry.last_seen_at = u ∧ entry.tools = tools

namespace Agrees

variable {store : ToolsCacheStore} {history : StoreHistory} {now now' t : Nat}

theorem mono (agrees : Agrees store history now) (later : now ≤ now') :
    Agrees store history now' where
  keyed := agrees.keyed
  noted := agrees.noted
  kept key u tools noted alive := agrees.kept key u tools noted (by omega)

theorem evict_expired (agrees : Agrees store history now) :
    Agrees (store.evict_expired now).2 history now where
  keyed := agrees.keyed.evict_expired
  noted key entry found := by
    rw [ToolsCacheStore.get_evict_expired, Option.filter_eq_some_iff] at found
    exact agrees.noted key entry found.1
  kept key u tools noted alive := by
    obtain ⟨entry, found, rfl, same⟩ := agrees.kept key u tools noted alive
    refine ⟨entry, ?_, rfl, same⟩
    rw [ToolsCacheStore.get_evict_expired, Option.filter_eq_some_iff]
    exact ⟨found, decide_eq_true alive⟩

theorem put (agrees : Agrees store history t) (kind config_id : String)
    (tools : List ToolDescriptor) : Agrees (store.put kind config_id tools t).2
      (history ++ [(t, .upsert kind config_id tools)]) t where
  keyed := agrees.keyed.put
  noted key entry found := by
    rw [ToolsCacheStore.get_put] at found
    split at found
    · rename_i here
      cases here
      cases found
      exact lastNoted_snoc.mpr (.inl rfl)
    · rename_i other
      have untouched : ¬ (StoreCall.upsert kind config_id tools).touches key := Ne.symm other
      exact (lastNoted_of_untouched untouched).mpr (agrees.noted key entry found)
  kept key u others noted alive := by
    rw [ToolsCacheStore.get_put]
    rcases lastNoted_snoc.mp noted with last | ⟨untouched, noted⟩
    · cases last
      exact ⟨_, if_pos rfl, rfl, rfl⟩
    · rw [if_neg (Ne.symm untouched)]
      exact agrees.kept key u others noted alive

/-- A call at `t`, after a history that ended before. -/
theorem stored (agrees : Agrees store history t) (c : StoreCall) (reads : Nat) :
    Agrees (c.stored (fun _ => t) reads store) (history ++ [(t, c)]) t := by
  cases c with
  | upsert kind config_id tools => exact agrees.evict_expired.put kind config_id tools
  | list_all =>
    have swept := agrees.evict_expired
    constructor
    · exact swept.keyed
    · intro key entry found
      exact (lastNoted_of_untouched id).mpr (swept.noted key entry found)
    · intro key u tools noted alive
      exact swept.kept key u tools ((lastNoted_of_untouched id).mp noted) alive
  | reset_all =>
    constructor
    · exact ToolsCacheStore.keyed_clear
    · intro key entry found
      rw [StoreCall.stored, ToolsCacheStore.get_clear] at found
      cases found
    · intro key u tools noted alive
      rcases lastNoted_snoc.mp noted with last | ⟨untouched, -⟩
      · cases last
      · exact (untouched trivial).elim
  | reset_by_config_id config_id =>
    constructor
    · exact agrees.keyed.clear_config
    · intro key entry found
      rw [StoreCall.stored, ToolsCacheStore.get_clear_config] at found
      split at found
      · cases found
      · rename_i other
        have untouched : ¬ (StoreCall.reset_by_config_id config_id).touches key := Ne.symm other
        exact (lastNoted_of_untouched untouched).mpr (agrees.noted key entry found)
    · intro key u tools noted alive
      rcases lastNoted_snoc.mp noted with last | ⟨untouched, noted⟩
      · cases last
      · rw [StoreCall.stored, ToolsCacheStore.get_clear_config, if_neg (Ne.symm untouched)]
        exact agrees.kept key u tools noted alive

/-- The fresh entries are what a cache without lag has. -/
theorem get_iff_shows (agrees : Agrees store history t) (fresh : store.fresh t)
    {key : String × String} {entry : ToolsCacheEntry} : store.inner.get key = some entry ↔
      entry.key = key ∧ LastNoted history key entry.last_seen_at entry.tools ∧
        t - entry.last_seen_at ≤ store.life := by
  constructor
  · intro found
    exact ⟨agrees.keyed key entry found, agrees.noted key entry found, fresh key entry found⟩
  · intro shown
    obtain ⟨own, noted, alive⟩ := shown
    obtain ⟨entry', found, seen, same⟩ := agrees.kept key _ _ noted alive
    have own' := agrees.keyed key entry' found
    cases entry
    cases entry'
    cases own
    cases own'
    cases seen
    cases same
    exact found

/-- What a fresh store has under a key is what a cache without lag has. -/
theorem shows_iff (agrees : Agrees store history t) (fresh : store.fresh t)
    {key : String × String} {tools : List ToolDescriptor} : Shows history store.life t key tools ↔
      (store.inner.get key).map ToolsCacheEntry.tools = some tools := by
  rw [Option.map_eq_some_iff]
  constructor
  · intro shown
    obtain ⟨u, noted, alive⟩ := shown
    obtain ⟨entry, found, -, same⟩ := agrees.kept key u tools noted alive
    exact ⟨entry, found, same⟩
  · intro here
    obtain ⟨entry, found, rfl⟩ := here
    obtain ⟨-, noted, alive⟩ := (agrees.get_iff_shows fresh).mp found
    exact ⟨entry.last_seen_at, noted, alive⟩

end Agrees

theorem shows_noted {history : StoreHistory} {life t : Nat} {kind config_id : String}
    {tools others : List ToolDescriptor} :
    Shows (history ++ [(t, .upsert kind config_id tools)]) life t (kind, config_id) others ↔
      others = tools := by
  constructor
  · intro shown
    obtain ⟨u, noted, -⟩ := shown
    rcases lastNoted_snoc.mp noted with last | ⟨untouched, -⟩
    · cases last
      rfl
    · exact (untouched rfl).elim
  · intro same
    subst same
    exact ⟨t, lastNoted_snoc.mpr (.inl rfl), by omega⟩

/-! ## Whole histories -/

namespace CacheWorld

variable (rfc3339 : Nat → String)

/-- From now on the clock gives `t`. -/
def at_instant (w : CacheWorld) (t : Nat) : CacheWorld := { w with clock := fun _ => t }

/-- The world after the calls of a history, in each of which the clock stands still. -/
def replay (w : CacheWorld) (history : StoreHistory) : CacheWorld :=
  history.foldl (fun w call => ((w.at_instant call.1).call rfc3339 call.2).2) w

/-- The calls were made one after the other, the last of them not after `now`. -/
def Ordered (history : StoreHistory) (now : Nat) : Prop :=
  (history.map Prod.fst ++ [now]).Pairwise (· ≤ ·)

variable {w : CacheWorld} {history : StoreHistory} {t : Nat}

theorem ordered_snoc {c : StoreCall} {now : Nat} (ordered : Ordered (history ++ [(t, c)]) now) :
    Ordered history t ∧ t ≤ now := by
  rw [Ordered, List.map_append, List.map_singleton, List.pairwise_append] at ordered
  exact ⟨ordered.1, ordered.2.2 t (List.mem_append_right _ (List.mem_singleton_self _)) now
    (List.mem_singleton_self _)⟩

/-- Every history leaves an enabled store that agrees with it. -/
theorem agrees_replay (enabled : w.store.enabled = true) (empty : w.store.inner = .empty)
    {now : Nat} (ordered : Ordered history now) :
    (w.replay rfc3339 history).store.enabled = true ∧
      (w.replay rfc3339 history).store.life = w.store.life ∧
      Agrees (w.replay rfc3339 history).store history now := by
  induction history using List.reverseRecOn generalizing now with
  | nil =>
    refine ⟨enabled, rfl, ?_, ?_, ?_⟩
    · intro key entry found
      rw [replay, List.foldl_nil, empty, HashMap.get_empty] at found
      cases found
    · intro key entry found
      rw [replay, List.foldl_nil, empty, HashMap.get_empty] at found
      cases found
    · intro key u tools noted
      exact (not_lastNoted_nil noted).elim
  | append_singleton history last ih =>
    obtain ⟨t, c⟩ := last
    obtain ⟨before, later⟩ := ordered_snoc ordered
    obtain ⟨on, life, agrees⟩ := ih before
    have called : w.replay rfc3339 (history ++ [(t, c)]) =
        (((w.replay rfc3339 history).at_instant t).call rfc3339 c).2 := by
      rw [replay, List.foldl_append]
      rfl
    rw [called, call_eq (by exact on)]
    have stored := agrees.stored c (w.replay rfc3339 history).reads
    exact ⟨c.enabled_stored.trans on, c.life_stored.trans life, stored.mono later⟩

/-- **Lazy eviction is eager expiry.**  After any history, `list_all` at `t` lists the tools noted
last under each key if they were seen within the life of an entry, in the order of the keys; and
`upsert` reports a change exactly if it changes what such a cache has under its key. -/
theorem lists_unexpired (enabled : w.store.enabled = true) (empty : w.store.inner = .empty)
    (ordered : Ordered history t) :
    (∃ entries, (((w.replay rfc3339 history).at_instant t).call rfc3339 .list_all).1 =
        .entries entries ∧ entries.Pairwise (fun a b => toLex a.key < toLex b.key) ∧
        ∀ entry, entry ∈ entries ↔ LastNoted history entry.key entry.last_seen_at entry.tools ∧
          t - entry.last_seen_at ≤ w.store.life) ∧
      ∀ kind config_id tools, ∃ changed,
        (((w.replay rfc3339 history).at_instant t).call rfc3339 (.upsert kind config_id tools)).1 =
          .changed changed ∧
        (changed = true ↔ ¬ ∀ others, Shows history w.store.life t (kind, config_id) others ↔
          Shows (history ++ [(t, .upsert kind config_id tools)]) w.store.life t
            (kind, config_id) others) := by
  obtain ⟨on, life, agrees⟩ := agrees_replay rfc3339 enabled empty ordered
  have swept := agrees.evict_expired
  have fresh : ((w.replay rfc3339 history).store.evict_expired t).2.fresh t :=
    ToolsCacheStore.fresh_evict_expired
  rw [← life]
  constructor
  · refine ⟨_, congrArg Prod.fst (call_eq (by exact on) .list_all), swept.keyed.sorted, ?_⟩
    intro entry
    apply (swept.keyed.mem_list).trans
    apply (swept.get_iff_shows fresh).trans
    exact and_iff_right rfl
  · intro kind config_id tools
    refine ⟨_, congrArg Prod.fst (call_eq (by exact on) (.upsert kind config_id tools)), ?_⟩
    apply ToolsCacheStore.put_changed_iff.trans
    apply not_congr
    constructor
    · intro same others
      have same : (((w.replay rfc3339 history).store.evict_expired t).2.inner.get
          (kind, config_id)).map ToolsCacheEntry.tools = some tools := same
      rw [shows_noted, eq_comm, ← Option.some_inj, ← same]
      exact swept.shows_iff fresh
    · intro same
      exact (swept.shows_iff fresh).mp ((same tools).mpr (shows_noted.mpr rfl))

end CacheWorld

/-! ## Entries that expire and entries that are reset -/

/-- A store that starts empty, whose entries live for so many years. -/
def living_years (years : Nat) : CacheWorld :=
  .open { enabled := true, cache_life := years * (31557600 * 10 ^ 9) } (fun _ => none) none fun _ => 0

def half_year : Nat := 15778800 * 10 ^ 9

/-- Of three clients one is not seen again for a year, and one is reset. -/
def noted_thrice : StoreHistory := [] ++ [(0, .upsert "client" "old" [])] ++
  [(half_year, .upsert "client" "gone" [])] ++ [(half_year, .upsert "client" "kept" [])] ++
  [(half_year, .reset_by_config_id "gone")]

def kept_entry : ToolsCacheEntry where
  kind := "client"
  config_id := "kept"
  tools := []
  last_seen_at := half_year

/-- After a year only the third is shown. -/
theorem noted_thrice_kept {entry : ToolsCacheEntry} :
    LastNoted noted_thrice entry.key entry.last_seen_at entry.tools ∧
      2 * half_year + 1 - entry.last_seen_at ≤ (living_years 1).store.life ↔ entry = kept_entry := by
  have year : (living_years 1).store.life = 2 * half_year := by decide
  obtain ⟨kind, config_id, tools, last_seen_at⟩ := entry
  rw [year, noted_thrice, lastNoted_snoc, lastNoted_snoc, lastNoted_snoc, lastNoted_snoc]
  constructor
  · intro shown
    obtain ⟨noted, young⟩ := shown
    obtain reset | ⟨kept, third | ⟨-, second | ⟨-, first | ⟨-, none⟩⟩⟩⟩ := noted
    · cases reset
    · cases third
      rfl
    · cases second
      exact (kept rfl).elim
    · cases first
      exact absurd young (by decide)
    · exact (not_lastNoted_nil none).elim
  · intro same
    cases same
    refine ⟨.inr ⟨?_, .inl rfl⟩, by decide⟩
    exact fun touched : "gone" = "kept" => absurd touched (by decide)

theorem noted_thrice_is_listed :
    ((((living_years 1).replay print_second noted_thrice).at_instant (2 * half_year + 1)).call
      print_second .list_all).1 = .entries [kept_entry] := by
  have ordered : CacheWorld.Ordered noted_thrice (2 * half_year + 1) := by
    rw [CacheWorld.Ordered]
    decide
  have enabled : (living_years 1).store.enabled = true := rfl
  have empty : (living_years 1).store.inner = .empty := rfl
  obtain ⟨entries, listed, sorted, shown⟩ :=
    (CacheWorld.lists_unexpired print_second enabled empty ordered).1
  have only (entry : ToolsCacheEntry) : entry ∈ entries ↔ entry = kept_entry :=
    (shown entry).trans noted_thrice_kept
  have distinct : entries.Nodup := sorted.imp fun less same => less.ne (by rw [same])
  rw [listed, eq_singleton_of_nodup distinct ((only _).mpr rfl) fun entry => (only entry).mp]

/-! ## A life beyond the range of `chrono` -/

def noted_once : StoreHistory := [(0, .upsert "client" "client" [])]

/-- Entries that are to live 300 million years are gone after 101 years. -/
theorem long_life_is_cut :
    LastNoted noted_once ("client", "client") 0 [] ∧
      chrono_days (365 * 101) - 0 ≤ (living_years 300000000).store.cache_life ∧
      ((((living_years 300000000).replay print_second noted_once).at_instant
        (chrono_days (365 * 101))).call print_second .list_all).1 = .entries [] := by
  refine ⟨⟨[], [], rfl, fun t c member => by cases member⟩, by decide, ?_⟩
  rw [CacheWorld.call_eq rfl]
  exact congrArg StoreValue.entries List.mergeSort_nil

end SessionManager
