import UnitResolution.Table

/-!
# Caches of units

A `Cache` keeps a bounded number of values by their keys and forgets the value that has not been
touched for the longest time. Setting a value touches it, and so does getting it; asking whether
it is there does not. Of the entries, the one touched last is the last.
-/

namespace UnitResolution

/-- A bounded store of values that forgets the least recently touched one. -/
structure Cache (α : Type) where
  bound : Int
  entries : List (String × α) := []
  deriving Repr

namespace Cache

variable {α : Type}

/-- The value of a key. -/
def find? (c : Cache α) (key : String) : Option α := c.entries.lookup key

/-- Whether a key has a value. -/
def contains (c : Cache α) (key : String) : Bool := (c.find? key).isSome

/-- The number of values. -/
def size (c : Cache α) : Nat := c.entries.length

/-- The entries without the one of a key. -/
def without (key : String) (entries : List (String × α)) : List (String × α) :=
  entries.filter (·.1 != key)

/-- Get the value of a key and touch it. -/
def get (c : Cache α) (key : String) : Option α × Cache α :=
  match c.find? key with
  | some value => (some value, { c with entries := without key c.entries ++ [(key, value)] })
  | none => (none, c)

/-- Set the value of a key and touch it. A new key in a full cache takes the place of the entry
touched least recently. -/
def set (c : Cache α) (key : String) (value : α) : Cache α :=
  let kept :=
    if c.contains key then without key c.entries
    else if c.bound ≤ c.size then c.entries.drop 1 else c.entries
  { c with entries := kept ++ [(key, value)] }

/-- The cache without its values. -/
def clear (c : Cache α) : Cache α := { c with entries := [] }

/-! ## What is kept -/

variable {c : Cache α} {key : String} {value : α}

theorem get_fst (c : Cache α) (key : String) : (c.get key).1 = c.find? key := by
  unfold get
  cases c.find? key <;> rfl

theorem mem_of_get (found : (c.get key).1 = some value) : (key, value) ∈ c.entries := by
  rw [get_fst] at found
  exact Table.mem_of_lookup found

theorem get_of_none (missing : (c.get key).1 = none) : c.get key = (none, c) := by
  unfold get at missing ⊢
  split
  · next kept =>
      rw [kept] at missing
      cases missing
  · rfl

theorem mem_entries_get {entry : String × α} (member : entry ∈ (c.get key).2.entries) :
    entry ∈ c.entries := by
  unfold get at member
  split at member
  · next kept =>
      rcases List.mem_append.mp member with member | member
      · exact (List.mem_filter.mp member).1
      · rw [List.mem_singleton.mp member]
        exact Table.mem_of_lookup kept
  · exact member

theorem mem_entries_set {entry : String × α} (member : entry ∈ (c.set key value).entries) :
    entry ∈ c.entries ∨ entry = (key, value) := by
  unfold set at member
  rcases List.mem_append.mp member with member | member
  · left
    split at member
    · exact (List.mem_filter.mp member).1
    · split at member
      · exact List.mem_of_mem_drop member
      · exact member
  · exact .inr (List.mem_singleton.mp member)

theorem contains_of_mem {entry : String × α} (member : entry ∈ c.entries) :
    c.contains entry.1 := by
  unfold contains find?
  rw [Option.isSome_iff_ne_none, ne_eq, List.lookup_eq_none_iff]
  exact fun absent => bne_iff_ne.mp (absent entry member) rfl

theorem exists_mem_of_contains (kept : c.contains key) : ∃ value, (key, value) ∈ c.entries := by
  obtain ⟨value, found⟩ := Option.isSome_iff_exists.mp kept
  exact ⟨value, Table.mem_of_lookup found⟩

/-! ## What is found -/

variable {other : String} {entries : List (String × α)}

theorem lookup_without_of_ne (differs : other ≠ key) :
    (without key entries).lookup other = entries.lookup other := by
  induction entries with
  | nil => rfl
  | cons entry rest ih =>
      obtain ⟨k, v⟩ := entry
      by_cases same : k = key
      · rw [without, List.filter_cons_of_neg (by simp [same]),
          Table.lookup_cons_of_ne (same ▸ differs)]
        exact ih
      · rw [without, List.filter_cons_of_pos (by simp [same]), List.lookup_cons, List.lookup_cons]
        split
        · rfl
        · exact ih

theorem lookup_without_self : (without key entries).lookup key = none := by
  rw [List.lookup_eq_none_iff]
  intro entry member
  have kept := (List.mem_filter.mp member).2
  rw [bne_iff_ne] at kept
  exact bne_iff_ne.mpr kept.symm

theorem lookup_concat_self (missing : entries.lookup key = none) :
    (entries ++ [(key, value)]).lookup key = some value := by
  rw [List.lookup_append, missing, Option.none_or, List.lookup_cons_self]

theorem lookup_concat_of_ne (differs : other ≠ key) :
    (entries ++ [(key, value)]).lookup other = entries.lookup other := by
  rw [List.lookup_append, Table.lookup_cons_of_ne differs, List.lookup_nil, Option.or_none]

/-- Getting a value changes nothing about what is found. -/
theorem find?_get (c : Cache α) (key other : String) :
    (c.get key).2.find? other = c.find? other := by
  cases found : c.find? key with
  | none => rw [get, found]
  | some value =>
      rw [get, found]
      by_cases same : other = key
      · subst same
        exact (lookup_concat_self lookup_without_self).trans found.symm
      · exact (lookup_concat_of_ne same).trans (lookup_without_of_ne same)

/-- Getting a value leaves a cache as it is, or brings one entry to the end. -/
theorem get_eq (c : Cache α) (key : String) :
    (c.get key).2 = c ∨ ∃ kept value, kept.Sublist c.entries ∧ kept.lookup key = none ∧
      (c.get key).2 = { c with entries := kept ++ [(key, value)] } := by
  cases found : c.find? key with
  | none =>
      rw [get, found]
      exact .inl rfl
  | some value =>
      rw [get, found]
      exact .inr ⟨_, value, List.filter_sublist, lookup_without_self, rfl⟩

/-- Setting a value drops entries, and puts a new one at the end. -/
theorem set_eq (c : Cache α) (key : String) (value : α) :
    ∃ kept, kept.Sublist c.entries ∧ kept.lookup key = none ∧
      c.set key value = { c with entries := kept ++ [(key, value)] } := by
  refine ⟨_, ?_, ?_, rfl⟩
  · split
    · exact List.filter_sublist
    · split
      · exact List.drop_sublist _ _
      · exact List.Sublist.refl _
  · split
    · exact lookup_without_self
    · next missing =>
        have missing : c.entries.lookup key = none := Option.not_isSome_iff_eq_none.mp missing
        split
        · rw [List.lookup_eq_none_iff] at missing ⊢
          exact fun entry member => missing entry (List.mem_of_mem_drop member)
        · exact missing

theorem nodup_concat (distinct : (Table.keys c.entries).Nodup) {kept : List (String × α)}
    (fewer : kept.Sublist c.entries) (absent : kept.lookup key = none) :
    (Table.keys (kept ++ [(key, value)])).Nodup := by
  unfold Table.keys
  rw [List.map_append]
  refine List.nodup_append.mpr ⟨distinct.sublist (fewer.map _), List.pairwise_singleton _ _, ?_⟩
  intro a member b last same
  obtain ⟨entry, among, rfl⟩ := List.mem_map.mp member
  have new := List.lookup_eq_none_iff.mp absent entry among
  rw [List.mem_singleton.mp last] at same
  exact (bne_iff_ne.mp new) same.symm

theorem find?_set_self (c : Cache α) (key : String) (value : α) :
    (c.set key value).find? key = some value := by
  obtain ⟨kept, _, absent, same⟩ := c.set_eq key value
  rw [same]
  exact lookup_concat_self absent

/-- Setting a value changes what is found for another key only where that key is evicted. -/
theorem find?_set_of_ne (differs : other ≠ key)
    (stays : c.contains key = false → c.bound ≤ c.size →
      ∀ entry ∈ c.entries.head?, entry.1 ≠ other) :
    (c.set key value).find? other = c.find? other := by
  refine (lookup_concat_of_ne differs).trans ?_
  split
  · exact lookup_without_of_ne differs
  · next missing =>
      split
      · next full =>
          have stays := stays (Bool.eq_false_iff.mpr missing) full
          unfold find?
          cases entries : c.entries with
          | nil => rfl
          | cons first rest =>
              rw [entries] at stays
              obtain ⟨k, v⟩ := first
              exact (Table.lookup_cons_of_ne (stays (k, v) rfl).symm v rest).symm
      · rfl

end Cache

end UnitResolution
