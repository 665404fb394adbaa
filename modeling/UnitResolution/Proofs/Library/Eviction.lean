import UnitResolution.Proofs.Library.Coherence

/-!
# Caches with space

A cache has space for a unit (`UnitResolution.Library.Spacious`) if it can hold as many units as can
be reached from it, and either keeps none in front that leads into a cycle, or can hold those in
front besides. While a library reads what can be reached, new units come to the end, and those in
front are evicted first. So no unit that leads into a cycle is evicted
(`UnitResolution.Library.Spacious.find?_set`).
-/

namespace UnitResolution.Library

variable {sources : Sources} {root key other : String} {c : Cache LibraryUnit}

/-- A unit that can be reached, and leads into a cycle. -/
def Entangled (sources : Sources) (root unit : String) : Prop :=
  unit ∈ sources.closure root ∧ ¬ sources.Grounded unit

/-- A cache has space for everything that can be reached from a unit, and what it keeps in front is
not entangled or has space besides. -/
structure Spacious (sources : Sources) (root : String) (c : Cache LibraryUnit) : Prop where
  finite : (sources.closure root).Finite
  bound : ((sources.closure root).ncard : Int) ≤ c.bound
  distinct : (Table.keys c.entries).Nodup
  parts : ∃ front recent, c.entries = front ++ recent ∧
    ((∀ entry ∈ front, ¬ Entangled sources root entry.1) ∨
      ((sources.closure root).ncard + front.length : Int) ≤ c.bound) ∧
    ∀ entry ∈ recent, entry.1 ∈ sources.closure root

theorem length_le_ncard {α : Type} [DecidableEq α] {set : Set α} (finite : set.Finite)
    {list : List α} (nodup : list.Nodup) (inside : ∀ a ∈ list, a ∈ set) :
    list.length ≤ set.ncard := by
  rw [← List.toFinset_card_of_nodup nodup, ← Set.ncard_coe_finset]
  exact Set.ncard_le_ncard (fun a member => inside a (List.mem_toFinset.mp member)) finite

namespace Spacious

/-- A cache that has kept some of its entries, and has a new one at the end. -/
theorem concat (spacious : Spacious sources root c) (reached : key ∈ sources.closure root)
    {kept : List (String × LibraryUnit)} (fewer : kept.Sublist c.entries)
    (absent : kept.lookup key = none) (unit : LibraryUnit) :
    Spacious sources root { c with entries := kept ++ [(key, unit)] } where
  finite := spacious.finite
  bound := spacious.bound
  distinct := Cache.nodup_concat spacious.distinct fewer absent
  parts := by
    obtain ⟨front, recent, split, harmless, within⟩ := spacious.parts
    rw [split] at fewer
    obtain ⟨front', recent', rfl, left, right⟩ := List.sublist_append_iff.mp fewer
    refine ⟨front', recent' ++ [(key, unit)], List.append_assoc _ _ _, ?_, ?_⟩
    · refine harmless.imp (fun harmless entry member => harmless entry (left.subset member)) ?_
      intro space
      have shorter := left.length_le
      change ((sources.closure root).ncard + front'.length : Int) ≤ c.bound
      omega
    · intro entry member
      rcases List.mem_append.mp member with member | last
      · exact within entry (right.subset member)
      · rw [List.mem_singleton.mp last]
        exact reached

theorem get (spacious : Spacious sources root c) (reached : key ∈ sources.closure root) :
    Spacious sources root (c.get key).2 := by
  rcases c.get_eq key with same | ⟨kept, unit, fewer, absent, same⟩
  · rw [same]
    exact spacious
  · rw [same]
    exact spacious.concat reached fewer absent unit

theorem set (spacious : Spacious sources root c) (reached : key ∈ sources.closure root)
    (unit : LibraryUnit) : Spacious sources root (c.set key unit) := by
  obtain ⟨kept, fewer, absent, same⟩ := c.set_eq key unit
  rw [same]
  exact spacious.concat reached fewer absent unit

/-- What can be reached does not fill a cache with space. So when the cache is full, there is an
entry in front, and that is the one which is evicted. -/
theorem find?_set (spacious : Spacious sources root c) (reached : key ∈ sources.closure root)
    (unit : LibraryUnit) (entangled : Entangled sources root other) (differs : other ≠ key) :
    (c.set key unit).find? other = c.find? other := by
  refine Cache.find?_set_of_ne differs fun missing full entry first same => ?_
  have missing : c.entries.lookup key = none :=
    Option.not_isSome_iff_eq_none.mp (Bool.eq_false_iff.mp missing)
  obtain ⟨front, recent, split, harmless, within⟩ := spacious.parts
  have nodup : (key :: recent.map (·.1)).Nodup := by
    have fewer : recent.Sublist c.entries := split ▸ List.sublist_append_right front recent
    refine List.nodup_cons.mpr ⟨fun member => ?_, spacious.distinct.sublist (fewer.map _)⟩
    obtain ⟨old, among, equal⟩ := List.mem_map.mp member
    have new := List.lookup_eq_none_iff.mp missing old (fewer.subset among)
    exact (bne_iff_ne.mp new) equal.symm
  have inside : ∀ k ∈ key :: recent.map (·.1), k ∈ sources.closure root := by
    refine List.forall_mem_cons.mpr ⟨reached, fun k member => ?_⟩
    obtain ⟨old, among, rfl⟩ := List.mem_map.mp member
    exact within old among
  have fits := length_le_ncard spacious.finite nodup inside
  have bound := spacious.bound
  rw [Cache.size, split, List.length_append] at full
  rw [List.length_cons, List.length_map] at fits
  rcases harmless with harmless | space
  · cases front with
    | nil =>
        rw [List.length_nil] at full
        omega
    | cons leading rest =>
        rw [split] at first
        cases first
        exact harmless entry List.mem_cons_self (same ▸ entangled)
  · omega

end Spacious

/-! ## In the course of an operation -/

namespace Reader.Course

variable {σ : Type} {r : Reader σ} {asked : String → Prop} {start last : Memory × σ}

/-- No operation keeps two units for one identifier, or changes how many may be kept. -/
theorem distinct (course : r.Course sources asked start last)
    (distinct : (Table.keys start.1.units.entries).Nodup) :
    (Table.keys last.1.units.entries).Nodup ∧ last.1.units.bound = start.1.units.bound := by
  induction course with
  | refl => exact ⟨distinct, rfl⟩
  | @get m s identifier _ _ _ ih =>
      rcases m.units.get_eq identifier with same | ⟨kept, unit, fewer, absent, same⟩
      · rw [same]
        exact ih
      · rw [same]
        exact ⟨Cache.nodup_concat ih.1 fewer absent, ih.2⟩
  | source _ _ _ ih => exact ih
  | @keep m s unit _ _ _ ih =>
      obtain ⟨kept, fewer, absent, same⟩ := m.units.set_eq unit.identifier unit
      rw [same]
      exact ⟨Cache.nodup_concat ih.1 fewer absent, ih.2⟩
  | remember _ _ _ ih => exact ih
  | log _ _ ih => exact ih

/-- An operation that asks for nothing with a source but what can be reached leaves space. -/
theorem spacious (course : r.Course sources asked start last)
    (within : ∀ v, asked v → sources.Has v → v ∈ sources.closure root)
    (spacious : Spacious sources root start.1.units) : Spacious sources root last.1.units := by
  induction course with
  | refl => exact spacious
  | get identifier _ permitted has ih => exact ih.get (within identifier permitted has)
  | source _ _ _ ih => exact ih
  | keep unit _ permitted has ih => exact ih.set (within unit.identifier permitted has) unit
  | remember _ _ _ ih => exact ih
  | log _ _ ih => exact ih

/-- An operation that asks for nothing that leads into a cycle leaves what does. -/
theorem find?_of_entangled (course : r.Course sources asked start last)
    (calm : ∀ v, asked v → sources.Has v → v ∈ sources.closure root ∧ sources.Grounded v)
    (spacious : Spacious sources root start.1.units) {unit : String}
    (entangled : Entangled sources root unit) :
    last.1.units.find? unit = start.1.units.find? unit := by
  induction course with
  | refl => rfl
  | get identifier _ _ _ ih => exact (Cache.find?_get _ _ _).trans ih
  | source _ _ _ ih => exact ih
  | keep other before permitted has ih =>
      obtain ⟨reached, grounded⟩ := calm other.identifier permitted has
      have room := before.spacious (fun v permitted has => (calm v permitted has).1) spacious
      have differs : unit ≠ other.identifier := fun same => entangled.2 (same ▸ grounded)
      exact (room.find?_set reached other entangled differs).trans ih
  | remember _ _ _ ih => exact ih
  | log _ _ ih => exact ih

end Reader.Course

end UnitResolution.Library
