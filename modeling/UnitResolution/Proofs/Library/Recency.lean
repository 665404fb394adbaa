import UnitResolution.Library.Cache
import Mathlib.Data.List.Dedup
import Mathlib.Data.List.DropRight

/-!
# What a cache keeps

A cache that can hold `n` values keeps those of the `n` keys that have been touched last since it
was cleared. Its entries are in the order in which their keys have been touched last
(`UnitResolution.Cache.Recent`), so the one that is evicted for a new key is the one that has not
been touched for the longest time.

What has been touched, and what a key has been set to last, is read off the calls
(`UnitResolution.Cache.touched`, `UnitResolution.Cache.lastSet`). The theorem
`UnitResolution.Cache.after_recent` says what a cache answers after any calls.
-/

namespace UnitResolution.Cache

variable {α : Type}

/-! ## Calls of a cache -/

/-- A call of a cache. -/
inductive Call (α : Type)
  | get (key : String)
  | set (key : String) (value : α)
  | contains (key : String)
  | clear

/-- What a cache replies to a call. -/
inductive Reply (α : Type)
  | found (value : Option α)
  | kept (answer : Bool)
  | done
  deriving DecidableEq

/-- What a cache replies to a call, and the cache afterwards. -/
def perform (c : Cache α) : Call α → Reply α × Cache α
  | .get key => (.found (c.get key).1, (c.get key).2)
  | .set key value => (.done, c.set key value)
  | .contains key => (.kept (c.contains key), c)
  | .clear => (.done, c.clear)

/-- An empty cache after several calls. -/
def after (bound : Int) (calls : List (Call α)) : Cache α :=
  calls.foldl (fun c call => (c.perform call).2) { bound }

/-! ## What has been touched -/

/-- Of the keys that have been touched, each at its last place, the latest ones. -/
def latest (bound : Int) (touched : List String) : List String :=
  touched.dedup.rtake bound.toNat

/-- The keys that have been touched when there has been one more call. Getting a value touches its
key only if the key is among the latest ones. -/
def touch (bound : Int) (touched : List String) : Call α → List String
  | .get key => if key ∈ latest bound touched then touched ++ [key] else touched
  | .set key _ => touched ++ [key]
  | .contains _ => touched
  | .clear => []

/-- The keys that calls have touched since the cache was cleared, in the order of time. -/
def touched (bound : Int) (calls : List (Call α)) : List String := calls.foldl (touch bound) []

/-- What a key is set to when there has been one more call. -/
def settle (key : String) (last : Option α) : Call α → Option α
  | .get _ => last
  | .set other value => if other = key then some value else last
  | .contains _ => last
  | .clear => none

/-- What calls have set a key to last since the cache was cleared. -/
def lastSet (calls : List (Call α)) (key : String) : Option α := calls.foldl (settle key) none

theorem touched_concat (bound : Int) (calls : List (Call α)) (call : Call α) :
    touched bound (calls ++ [call]) = touch bound (touched bound calls) call := by
  simp [touched]

theorem lastSet_concat (calls : List (Call α)) (call : Call α) (key : String) :
    lastSet (calls ++ [call]) key = settle key (lastSet calls key) call := by
  simp [lastSet]

theorem after_concat (bound : Int) (calls : List (Call α)) (call : Call α) :
    after bound (calls ++ [call]) = ((after bound calls).perform call).2 := by
  simp [after]

/-- A key that is touched once more moves to the end. -/
theorem dedup_concat (list : List String) (key : String) :
    (list ++ [key]).dedup = list.dedup.filter (· != key) ++ [key] := by
  induction list with
  | nil => rfl
  | cons first rest ih =>
      by_cases again : first ∈ rest
      · have member : first ∈ rest ++ [key] := List.mem_append_left _ again
        rw [List.cons_append, List.dedup_cons_of_mem member, List.dedup_cons_of_mem again, ih]
      · rw [List.cons_append, List.dedup_cons_of_notMem again]
        by_cases same : first = key
        · subst same
          rw [List.dedup_cons_of_mem (by simp), ih]
          simp
        · have new : first ∉ rest ++ [key] := by simp [again, same]
          rw [List.dedup_cons_of_notMem new, ih]
          simp [same]

/-! ## Keys of entries -/

variable {c : Cache α} {key other : String} {value : α}

theorem contains_iff : c.contains key ↔ key ∈ Table.keys c.entries := by
  constructor
  · intro kept
    obtain ⟨value, member⟩ := exists_mem_of_contains kept
    exact List.mem_map.mpr ⟨_, member, rfl⟩
  · intro member
    obtain ⟨entry, among, rfl⟩ := List.mem_map.mp member
    exact contains_of_mem among

theorem find?_eq_none (absent : key ∉ Table.keys c.entries) : c.find? key = none := by
  apply Option.not_isSome_iff_eq_none.mp
  intro found
  exact absent (contains_iff.mp found)

theorem find?_eq_some (distinct : (Table.keys c.entries).Nodup)
    (member : (key, value) ∈ c.entries) : c.find? key = some value := by
  unfold find?
  generalize c.entries = entries at distinct member
  induction entries with
  | nil => cases member
  | cons first rest ih =>
      obtain ⟨apart, distinct⟩ := List.nodup_cons.mp distinct
      rcases List.mem_cons.mp member with same | later
      · rw [← same, List.lookup_cons_self]
      · have among : key ∈ Table.keys rest := List.mem_map.mpr ⟨_, later, rfl⟩
        have differs : key ≠ first.1 := by
          rintro rfl
          exact apart among
        exact (Table.lookup_cons_of_ne differs _ _).trans (ih distinct later)

theorem keys_without (key : String) (entries : List (String × α)) :
    Table.keys (without key entries) = (Table.keys entries).filter (· != key) := by
  simp only [Table.keys, without, List.filter_map]
  rfl

theorem keys_concat (entries : List (String × α)) (key : String) (value : α) :
    Table.keys (entries ++ [(key, value)]) = Table.keys entries ++ [key] := by
  simp [Table.keys]

theorem keys_get (kept : key ∈ Table.keys c.entries) :
    Table.keys (c.get key).2.entries = (Table.keys c.entries).filter (· != key) ++ [key] := by
  obtain ⟨value, found⟩ := Option.isSome_iff_exists.mp (contains_iff.mpr kept)
  simp only [get, found, keys_concat, keys_without]

theorem keys_set_of_mem (kept : key ∈ Table.keys c.entries) (value : α) :
    Table.keys (c.set key value).entries = (Table.keys c.entries).filter (· != key) ++ [key] := by
  simp only [set, contains_iff.mpr kept, if_true, keys_concat, keys_without]

theorem keys_set_of_full (new : key ∉ Table.keys c.entries) (full : c.bound ≤ c.size) (value : α) :
    Table.keys (c.set key value).entries = (Table.keys c.entries).drop 1 ++ [key] := by
  have missing : ¬ c.contains key := fun kept => new (contains_iff.mp kept)
  simp only [set, if_neg missing, if_pos full, keys_concat]
  simp only [Table.keys, List.map_drop]

theorem keys_set_of_space (new : key ∉ Table.keys c.entries) (space : c.size < c.bound)
    (value : α) : Table.keys (c.set key value).entries = Table.keys c.entries ++ [key] := by
  have missing : ¬ c.contains key := fun kept => new (contains_iff.mp kept)
  simp only [set, if_neg missing, if_neg (Int.not_le.mpr space), keys_concat]

/-! ## What a new value evicts -/

/-- Setting a value leaves the other keys that stay with the values that they have. -/
theorem find?_set_of_kept (distinct : (Table.keys c.entries).Nodup) (differs : other ≠ key)
    (stays : other ∈ Table.keys (c.set key value).entries) :
    other ∈ Table.keys c.entries ∧ (c.set key value).find? other = c.find? other := by
  obtain ⟨kept, fewer, _, same⟩ := c.set_eq key value
  obtain ⟨⟨k, v⟩, member, named⟩ := List.mem_map.mp stays
  cases named
  have new : (Table.keys (c.set key value).entries).Nodup := by
    rw [same]
    exact nodup_concat distinct fewer ‹_›
  have old : (k, v) ∈ c.entries := by
    rcases mem_entries_set member with old | impossible
    · exact old
    · cases impossible
      exact absurd rfl differs
  refine ⟨List.mem_map.mpr ⟨_, old, rfl⟩, ?_⟩
  rw [find?_eq_some new member, find?_eq_some distinct old]

theorem size_eq (c : Cache α) : c.size = (Table.keys c.entries).length := by
  simp [size, Table.keys]

/-- Setting a value for a kept key evicts nothing. -/
theorem contains_set_of_mem (kept : key ∈ Table.keys c.entries) (value : α) (other : String) :
    (c.set key value).contains other = c.contains other := by
  rw [Bool.eq_iff_iff, contains_iff, contains_iff, keys_set_of_mem kept]
  by_cases same : other = key
  · simp [same, kept]
  · simp [same]

/-- Setting a value for a new key evicts the first entry if the cache is full, and nothing else. -/
theorem contains_set_of_notMem (distinct : (Table.keys c.entries).Nodup)
    (new : key ∉ Table.keys c.entries) (value : α) (other : String) :
    (c.set key value).contains other ↔
      other = key ∨ (c.contains other ∧
        (c.bound ≤ c.size → (Table.keys c.entries).head? ≠ some other)) := by
  rw [contains_iff, contains_iff]
  by_cases full : c.bound ≤ c.size
  · rw [keys_set_of_full new full]
    cases split : Table.keys c.entries with
    | nil => simp
    | cons oldest rest =>
        rw [split] at distinct
        have apart : oldest ∉ rest := (List.nodup_cons.mp distinct).1
        have left : other ∈ rest ↔ other ∈ oldest :: rest ∧ oldest ≠ other := by
          constructor
          · intro member
            refine ⟨List.mem_cons_of_mem oldest member, ?_⟩
            rintro rfl
            exact apart member
          · rintro ⟨member, differs⟩
            exact (List.mem_cons.mp member).resolve_left (Ne.symm differs)
        simp only [List.drop_one, List.tail_cons, List.mem_append, List.mem_singleton,
          List.head?_cons, full, true_implies, ne_eq, Option.some.injEq]
        rw [left]
        tauto
  · rw [keys_set_of_space new (Int.not_le.mp full)]
    simp only [List.mem_append, List.mem_singleton, full, false_implies, and_true]
    tauto

/-! ## What is kept after any calls -/

/-- The entries of a cache are what has been touched last, in the order in which it has been. Older
keys have been evicted only where the cache is full. -/
structure Recent (calls : List (Call α)) (c : Cache α) : Prop where
  size_le : (c.size : Int) ≤ c.bound
  keys : ∃ older, (touched c.bound calls).dedup = older ++ Table.keys c.entries ∧
    (older = [] ∨ (c.size : Int) = c.bound)
  value : ∀ key ∈ Table.keys c.entries, c.find? key = lastSet calls key

namespace Recent

variable {calls : List (Call α)}

theorem keys_eq_latest (recent : Recent calls c) :
    Table.keys c.entries = latest c.bound (touched c.bound calls) := by
  obtain ⟨older, whole, full⟩ := recent.keys
  have fits := recent.size_le
  rw [size_eq] at full fits
  unfold latest
  rw [whole, List.rtake, List.length_append]
  rcases full with rfl | full
  · have none : (List.length ([] : List String) + (Table.keys c.entries).length) -
        c.bound.toNat = 0 := by
      simp only [List.length_nil]
      omega
    rw [none]
    rfl
  · have gone : older.length + (Table.keys c.entries).length - c.bound.toNat =
        older.length := by omega
    rw [gone, List.drop_left]

theorem nodup (recent : Recent calls c) : (Table.keys c.entries).Nodup := by
  rw [recent.keys_eq_latest]
  exact (List.nodup_dedup _).sublist (List.drop_sublist _ _)

theorem empty {bound : Int} (positive : 1 ≤ bound) : Recent ([] : List (Call α)) { bound } where
  size_le := by
    change (0 : Int) ≤ bound
    omega
  keys := ⟨[], rfl, .inl rfl⟩
  value _ member := (List.not_mem_nil member).elim

/-- Touching a kept key brings it to the end, and evicts nothing. -/
theorem touch_kept (recent : Recent calls c) (kept : key ∈ Table.keys c.entries)
    {calls' : List (Call α)} {c' : Cache α} (bound : c'.bound = c.bound)
    (touches : touched c.bound calls' = touched c.bound calls ++ [key])
    (keys : Table.keys c'.entries = (Table.keys c.entries).filter (· != key) ++ [key])
    (value : ∀ other ∈ Table.keys c'.entries, c'.find? other = lastSet calls' other) :
    Recent calls' c' := by
  obtain ⟨older, whole, full⟩ := recent.keys
  have distinct := List.nodup_dedup (touched c.bound calls)
  rw [whole] at distinct
  have apart : ∀ old ∈ older, old != key := by
    intro old member
    rw [bne_iff_ne]
    rintro rfl
    exact (List.nodup_append.mp distinct).2.2 old member old kept rfl
  have same : c'.size = c.size := by
    have filled := List.length_pos_of_mem kept
    rw [size_eq, size_eq, keys, List.length_append, ← recent.nodup.erase_eq_filter,
      List.length_erase_of_mem kept, List.length_singleton]
    omega
  refine ⟨?_, ⟨older, ?_, ?_⟩, value⟩
  · rw [same, bound]
    exact recent.size_le
  · rw [bound, touches, dedup_concat, whole, List.filter_append, keys, ← List.append_assoc,
      List.filter_eq_self.mpr apart]
  · rw [same, bound]
    exact full

theorem get (recent : Recent calls c) (key : String) :
    Recent (calls ++ [.get key]) (c.get key).2 := by
  have value : lastSet (calls ++ [.get key]) = lastSet calls := by
    funext other
    rw [lastSet_concat, settle]
  by_cases kept : key ∈ Table.keys c.entries
  · have touches : touched c.bound (calls ++ [.get key]) = touched c.bound calls ++ [key] := by
      rw [touched_concat, touch, ← recent.keys_eq_latest, if_pos kept]
    have bound : (c.get key).2.bound = c.bound := by
      unfold Cache.get
      split <;> rfl
    refine recent.touch_kept kept bound touches (keys_get kept) ?_
    intro other member
    rw [find?_get, value]
    apply recent.value
    rw [keys_get kept] at member
    rcases List.mem_append.mp member with old | last
    · exact List.mem_of_mem_filter old
    · rwa [List.mem_singleton.mp last]
  · have touches : touched c.bound (calls ++ [.get key]) = touched c.bound calls := by
      rw [touched_concat, touch, ← recent.keys_eq_latest, if_neg kept]
    have missing : (c.get key).1 = none := by
      rw [get_fst]
      exact find?_eq_none kept
    rw [get_of_none missing]
    refine ⟨recent.size_le, ?_, ?_⟩
    · rw [touches]
      exact recent.keys
    · rw [value]
      exact recent.value

/-- What a cache has when a value has been set is what keys have been set to last. -/
theorem value_set (recent : Recent calls c) (key : String) (value : α) :
    ∀ other ∈ Table.keys (c.set key value).entries,
      (c.set key value).find? other = lastSet (calls ++ [.set key value]) other := by
  intro other member
  rw [lastSet_concat, settle]
  by_cases same : key = other
  · rw [if_pos same, ← same, find?_set_self]
  · obtain ⟨old, stays⟩ := find?_set_of_kept recent.nodup (Ne.symm same) member
    rw [if_neg same, stays]
    exact recent.value other old

/-- Setting a value for a new key touches it behind all that is kept. -/
theorem dedup_touched_set {older : List String}
    (whole : (touched c.bound calls).dedup = older ++ Table.keys c.entries)
    (new : key ∉ Table.keys c.entries) (value : α) :
    (touched c.bound (calls ++ [.set key value])).dedup =
      older.filter (· != key) ++ Table.keys c.entries ++ [key] := by
  have stays : (Table.keys c.entries).filter (· != key) = Table.keys c.entries := by
    rw [List.filter_eq_self]
    intro k member
    rw [bne_iff_ne]
    rintro rfl
    exact new member
  rw [touched_concat, touch, dedup_concat, whole, List.filter_append, stays]

/-- Where there is space, nothing has been evicted before, and nothing is for a new key. -/
theorem set_of_space (recent : Recent calls c) (new : key ∉ Table.keys c.entries)
    (space : (c.size : Int) < c.bound) (value : α) :
    Recent (calls ++ [.set key value]) (c.set key value) := by
  obtain ⟨older, whole, full⟩ := recent.keys
  have order := dedup_touched_set whole new value
  rw [full.resolve_right (Int.ne_of_lt space)] at order
  have keys := keys_set_of_space new space value
  refine ⟨?_, ⟨[], order.trans keys.symm, .inl rfl⟩, recent.value_set key value⟩
  rw [size_eq, keys, List.length_append, ← size_eq, List.length_singleton]
  exact space

/-- In a full cache, the entry in front becomes the last of the older ones for a new key. -/
theorem set_of_full (recent : Recent calls c) (positive : 1 ≤ c.bound)
    (new : key ∉ Table.keys c.entries) (full : (c.size : Int) = c.bound) (value : α) :
    Recent (calls ++ [.set key value]) (c.set key value) := by
  obtain ⟨older, whole, _⟩ := recent.keys
  obtain ⟨oldest, rest, split⟩ : ∃ oldest rest, Table.keys c.entries = oldest :: rest := by
    apply List.exists_cons_of_ne_nil
    intro empty
    rw [size_eq, empty, List.length_nil] at full
    omega
  have keys := keys_set_of_full new (Int.le_of_eq full.symm) value
  rw [split, List.drop_one, List.tail_cons] at keys
  have same : (c.set key value).size = c.size := by
    rw [size_eq, size_eq, keys, split, List.length_append, List.length_singleton,
      List.length_cons]
  refine ⟨?_, ⟨older.filter (· != key) ++ [oldest], ?_, .inr ?_⟩, recent.value_set key value⟩
  · rw [same]
    exact recent.size_le
  · refine (dedup_touched_set whole new value).trans ?_
    rw [keys, split]
    simp
  · rw [same]
    exact full

theorem set (recent : Recent calls c) (positive : 1 ≤ c.bound) (key : String) (value : α) :
    Recent (calls ++ [.set key value]) (c.set key value) := by
  by_cases kept : key ∈ Table.keys c.entries
  · exact recent.touch_kept kept rfl (touched_concat ..) (keys_set_of_mem kept value)
      (recent.value_set key value)
  · rcases Int.lt_or_eq_of_le recent.size_le with space | full
    · exact recent.set_of_space kept space value
    · exact recent.set_of_full positive kept full value

theorem clear (positive : 1 ≤ c.bound) : Recent (calls ++ [.clear]) c.clear where
  size_le := by
    change (0 : Int) ≤ c.bound
    omega
  keys := by
    refine ⟨[], ?_, .inl rfl⟩
    rw [touched_concat]
    rfl
  value _ member := (List.not_mem_nil member).elim

/-- Every call leaves what has been touched last. -/
theorem perform (recent : Recent calls c) (positive : 1 ≤ c.bound) (call : Call α) :
    Recent (calls ++ [call]) (c.perform call).2 ∧ (c.perform call).2.bound = c.bound := by
  cases call with
  | get key =>
      refine ⟨recent.get key, ?_⟩
      change (c.get key).2.bound = c.bound
      unfold Cache.get
      split <;> rfl
  | set key value => exact ⟨recent.set positive key value, rfl⟩
  | contains key =>
      refine ⟨⟨recent.size_le, ?_, ?_⟩, rfl⟩
      · rw [touched_concat, touch]
        exact recent.keys
      · intro other member
        rw [lastSet_concat, settle]
        exact recent.value other member
  | clear => exact ⟨clear positive, rfl⟩

end Recent

theorem recent_after {bound : Int} (positive : 1 ≤ bound) (calls : List (Call α)) :
    Recent calls (after bound calls) ∧ (after bound calls).bound = bound := by
  induction calls using List.reverseRecOn with
  | nil => exact ⟨.empty positive, rfl⟩
  | append_singleton calls call ih =>
      obtain ⟨recent, same⟩ := ih
      rw [after_concat]
      have room : 1 ≤ (after bound calls).bound := Int.le_trans positive (Int.le_of_eq same.symm)
      obtain ⟨further, kept⟩ := recent.perform room call
      exact ⟨further, kept.trans same⟩

/-- After any calls, a cache that can hold `bound` values keeps the `bound` keys that have been
touched last since it was cleared, each with the value to which it has been set last, and answers by
these. A new value for a kept key evicts nothing. One for a new key evicts the key that has not been
touched for the longest time if the cache is full, and nothing otherwise. -/
theorem after_recent (bound : Int) (positive : 1 ≤ bound) (calls : List (Call α)) :
    let c := after bound calls
    let kept := latest bound (touched bound calls)
    (c.size : Int) ≤ bound ∧ Table.keys c.entries = kept ∧
    (∀ key, (c.perform (.get key)).1 = .found (if key ∈ kept then lastSet calls key else none) ∧
      (c.perform (.contains key)).1 = .kept (decide (key ∈ kept))) ∧
    (∀ key ∈ kept, ∀ value other, (c.set key value).contains other = c.contains other) ∧
    (∀ key, key ∉ kept → ∀ value other, (c.set key value).contains other ↔
      other = key ∨ (c.contains other ∧
        ((c.size : Int) = bound → kept.head? ≠ some other))) := by
  intro c kept
  obtain ⟨recent, same⟩ : Recent calls c ∧ c.bound = bound := recent_after positive calls
  have fits := recent.size_le
  have keys := recent.keys_eq_latest
  rw [same] at fits keys
  change Table.keys c.entries = kept at keys
  have distinct := recent.nodup
  have value := recent.value
  rw [keys] at value
  refine ⟨fits, keys, ?_, ?_, ?_⟩
  · intro key
    have contained : c.contains key ↔ key ∈ kept := by rw [contains_iff, keys]
    constructor
    · change Reply.found (c.get key).1 = _
      rw [get_fst]
      split
      · next member => rw [value key member]
      · next absent => rw [find?_eq_none (keys ▸ absent)]
    · change Reply.kept (c.contains key) = _
      rw [Bool.eq_iff_iff.mpr (contained.trans decide_eq_true_iff.symm)]
  · intro key member
    rw [← keys] at member
    exact contains_set_of_mem member
  · intro key new value other
    rw [← keys] at new
    rw [contains_set_of_notMem distinct new, keys, same]
    have level : bound ≤ c.size ↔ (c.size : Int) = bound := by omega
    rw [level]

/-- In a cache for two values, getting the older one keeps it when a third one is set. -/
theorem after_recent_of_touched :
    let c := after 2 [.set "a" 1, .set "b" 2, .get "a", .contains "b", .set "c" 3]
    Table.keys c.entries = ["a", "c"] ∧ (c.perform (.get "a")).1 = .found (some 1) ∧
      (c.perform (.contains "b")).1 = .kept false ∧
      ¬ (c.set "d" 4).contains "a" ∧ (c.set "d" 4).contains "c" := by
  intro c
  obtain ⟨_, keys, replies, _, evicts⟩ := after_recent 2 (by decide)
    [.set "a" 1, .set "b" 2, .get "a", .contains "b", .set "c" 3]
  refine ⟨keys, (replies "a").1, (replies "b").2, ?_, ?_⟩
  · have evicted := evicts "d" (by decide) 4 "a"
    rw [evicted]
    decide
  · have stays := evicts "d" (by decide) 4 "c"
    rw [stays]
    decide

end UnitResolution.Cache
