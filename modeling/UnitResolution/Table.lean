/-!
# Tables

A table is a list of keys with values, each key once, in the order in which the keys were first
set. `set` gives a key a value: a key that is there keeps its place. What a key has been set to
last is what `List.lookup` finds (`lookup_set`).
-/

namespace UnitResolution.Table

variable {α : Type}

/-- A table with a value for a key, at the place the key has, or at the end if it is new. -/
def set (key : String) (value : α) : List (String × α) → List (String × α)
  | [] => [(key, value)]
  | (k, v) :: rest => if k = key then (key, value) :: rest else (k, v) :: set key value rest

/-- The table of entries that are set one after the other. -/
def ofList (entries : List (String × α)) : List (String × α) :=
  entries.foldl (fun table entry => set entry.1 entry.2 table) []

/-- The keys of a table. -/
def keys (table : List (String × α)) : List String := table.map (·.1)

theorem mem_of_lookup {key : String} {value : α} {table : List (String × α)}
    (found : table.lookup key = some value) : (key, value) ∈ table := by
  obtain ⟨before, after, rfl, _⟩ := List.lookup_eq_some_iff.mp found
  exact List.mem_append_right before List.mem_cons_self

theorem lookup_cons_of_ne {key other : String} (h : other ≠ key) (value : α)
    (table : List (String × α)) : ((key, value) :: table).lookup other = table.lookup other := by
  rw [List.lookup_cons, beq_false_of_ne h]

@[simp] theorem lookup_set_self (key : String) (value : α) (table : List (String × α)) :
    (set key value table).lookup key = some value := by
  induction table with
  | nil => exact List.lookup_cons_self
  | cons entry rest ih =>
      obtain ⟨k, v⟩ := entry
      simp only [set]
      split
      · exact List.lookup_cons_self
      · next h => rw [lookup_cons_of_ne (Ne.symm h), ih]

theorem lookup_set_of_ne {key other : String} (h : other ≠ key) (value : α)
    (table : List (String × α)) : (set key value table).lookup other = table.lookup other := by
  induction table with
  | nil => exact lookup_cons_of_ne h value []
  | cons entry rest ih =>
      obtain ⟨k, v⟩ := entry
      simp only [set]
      split
      · next hk => rw [lookup_cons_of_ne h, lookup_cons_of_ne (hk ▸ h)]
      · by_cases ho : other = k
        · rw [ho, List.lookup_cons_self, List.lookup_cons_self]
        · rw [lookup_cons_of_ne ho, lookup_cons_of_ne ho, ih]

theorem mem_set {key : String} {value : α} {table : List (String × α)}
    {entry : String × α} (member : entry ∈ set key value table) :
    entry ∈ table ∨ entry = (key, value) := by
  induction table with
  | nil => exact .inr (List.mem_singleton.mp member)
  | cons first rest ih =>
      obtain ⟨k, v⟩ := first
      unfold set at member
      split at member
      · rcases List.mem_cons.mp member with same | member
        · exact .inr same
        · exact .inl (List.mem_cons_of_mem _ member)
      · rcases List.mem_cons.mp member with same | member
        · rw [same]
          exact .inl List.mem_cons_self
        · rcases ih member with member | same
          · exact .inl (List.mem_cons_of_mem _ member)
          · exact .inr same

end UnitResolution.Table
