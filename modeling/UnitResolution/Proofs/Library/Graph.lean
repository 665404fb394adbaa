import UnitResolution.Proofs.Script.Imports
import UnitResolution.Library.Program
import Mathlib.Data.Set.Card
import Mathlib.Data.Set.Finite.Lattice
import Mathlib.Data.Set.Finite.List

/-!
# The graph of imports

Sources that stay as they are answer every identifier always alike, and are no more than a function
(`UnitResolution.Sources`). They make the units a graph. An import leads to the first of its
candidates that has a source (`UnitResolution.Sources.leadsTo`), and there is an edge from a unit to
everything that its imports lead to (`UnitResolution.Sources.Edge`).

An identifier that a candidate could be is its own first candidate, so whatever serves an import
serves also the import that is written like it (`UnitResolution.Sources.leadsTo_self`). Where
finitely many units and no cycle can be reached from a unit, one can recurse along its imports
(`UnitResolution.Sources.acc_of_finite`).
-/

namespace UnitResolution

open Identifier Script

/-- What sources that stay as they are answer to identifiers. -/
abbrev Sources := String → Except Interruption (Except Diagnostic Source)

namespace Sources

variable (sources : Sources)

/-! ## Edges -/

/-- An identifier has a source. -/
def Has (identifier : String) : Prop := ∃ source, sources identifier = .ok (.ok source)

instance (identifier : String) : Decidable (sources.Has identifier) :=
  match found : sources identifier with
  | .ok (.ok source) => isTrue ⟨source, found⟩
  | .ok (.error _) => isFalse fun ⟨_, has⟩ => nomatch found.symm.trans has
  | .error _ => isFalse fun ⟨_, has⟩ => nomatch found.symm.trans has

/-- The first of several identifiers that has a source. -/
def firstServed : List String → Except Interruption (Option String)
  | [] => .ok none
  | candidate :: rest =>
      match sources candidate with
      | .error i => .error i
      | .ok (.ok _) => .ok (some candidate)
      | .ok (.error _) => firstServed rest

/-- The identifier that serves an import, if there is one. -/
def leadsTo (imported : String) : Except Interruption (Option String) :=
  sources.firstServed (candidates imported)

/-- Why the first candidate of an import has no source. -/
def failure? (imported : String) : Option Diagnostic := do
  match sources (← (candidates imported).head?) with
  | .ok (.error d) => some d
  | _ => none

/-- What a unit exchanges with other units; nothing if it cannot be read. -/
def surface (identifier : String) : Surface :=
  match sources identifier with
  | .ok (.ok source) => (surfaceIn identifier source.contents).toOption.getD {}
  | _ => {}

/-- An import of a unit leads to another one. -/
def Edge (unit target : String) : Prop :=
  ∃ imported ∈ (sources.surface unit).imports, sources.leadsTo imported = .ok (some target)

/-- A unit imports another one, directly or through others, or is that unit. -/
abbrev Reaches : String → String → Prop := Relation.ReflTransGen sources.Edge

/-- The units that can be reached from a unit. -/
def closure (unit : String) : Set String := {v | sources.Reaches unit v}

/-- The unit or one of its imports interrupts what reads it. -/
inductive Stops (unit : String) : Interruption → Prop
  | source {i : Interruption} (stops : sources unit = .error i) : Stops unit i
  | text {source : Source} {e : SpecifierError} (has : sources unit = .ok (.ok source))
      (stops : surfaceIn unit source.contents = .error e) : Stops unit (.ofSpecifier e)
  | imported {imported : String} {i : Interruption}
      (member : imported ∈ (sources.surface unit).imports)
      (stops : sources.leadsTo imported = .error i) : Stops unit i

variable {sources} {u v : String}

theorem imported_surface (identifier : String) : (sources.surface identifier).Imported := by
  unfold surface
  split
  · next source _ =>
      cases exchanged : surfaceIn identifier source.contents with
      | error e => exact Surface.Imported.empty
      | ok s => exact imported_of_surfaceIn exchanged
  · exact Surface.Imported.empty

theorem surface_eq {source : Source} {s : Surface} (has : sources u = .ok (.ok source))
    (exchanged : surfaceIn u source.contents = .ok s) : sources.surface u = s := by
  unfold surface
  rw [has]
  simp only [exchanged, Except.toOption, Option.getD_some]

theorem surface_of_script {source : Source} {script : Contents}
    (served : sources u = .ok (.ok source)) (plain : ¬ isHostDocument u)
    (read : Script.read u source.contents = .ok script) : sources.surface u = script.surface := by
  refine surface_eq served ?_
  rw [surfaceIn, if_neg plain, read]
  rfl

theorem firstServed_eq_some {list : List String}
    (served : sources.firstServed list = .ok (some v)) : v ∈ list ∧ sources.Has v := by
  induction list with
  | nil => cases served
  | cons candidate rest ih =>
      unfold firstServed at served
      split at served
      · cases served
      · next source has =>
          cases served
          exact ⟨List.mem_cons_self, source, has⟩
      · exact ⟨List.mem_cons_of_mem candidate (ih served).1, (ih served).2⟩

theorem firstServed_eq_none {list : List String}
    (failed : ∀ c ∈ list, ∃ d, sources c = .ok (.error d)) :
    sources.firstServed list = .ok none := by
  induction list with
  | nil => rfl
  | cons candidate rest ih =>
      obtain ⟨⟨d, first⟩, others⟩ := List.forall_mem_cons.mp failed
      rw [firstServed, first]
      exact ih others

theorem firstServed_cons_of_has {candidate : String} (has : sources.Has candidate)
    (rest : List String) : sources.firstServed (candidate :: rest) = .ok (some candidate) := by
  obtain ⟨source, answer⟩ := has
  unfold firstServed
  rw [answer]

theorem has_of_leadsTo {imported : String} (leads : sources.leadsTo imported = .ok (some v)) :
    sources.Has v :=
  (firstServed_eq_some leads).2

theorem Edge.has (edge : sources.Edge u v) : sources.Has v := by
  obtain ⟨imported, _, leads⟩ := edge
  exact has_of_leadsTo leads

theorem Edge.mem_closure (edge : sources.Edge u v) {root : String}
    (reached : u ∈ sources.closure root) : v ∈ sources.closure root :=
  Relation.ReflTransGen.tail reached edge

theorem mem_closure_self (unit : String) : unit ∈ sources.closure unit :=
  Relation.ReflTransGen.refl

theorem surface_of_not_has (missing : ¬ sources.Has u) : sources.surface u = {} := by
  unfold surface
  split
  · next source has => exact absurd ⟨source, has⟩ missing
  · rfl

/-- Nothing but itself can be reached from an identifier without a source. -/
theorem eq_of_reaches_of_not_has (missing : ¬ sources.Has u) (reaches : sources.Reaches u v) :
    v = u := by
  rcases Relation.ReflTransGen.cases_head reaches with same | ⟨w, ⟨imported, member, _⟩, _⟩
  · exact same.symm
  · rw [surface_of_not_has missing] at member
    cases member

/-! ## Candidates -/

theorem endsWith_slash_iff (s : List Char) :
    endsWith "/" s = true ↔ s.getLast? = some '/' := by
  unfold endsWith
  rw [List.getLast?_eq_head?_reverse]
  cases s.reverse with
  | nil => exact iff_of_false Bool.false_ne_true nofun
  | cons c rest =>
      change ('/' == c && true) = true ↔ some c = some '/'
      rw [Bool.and_true, beq_iff_eq, Option.some.injEq, eq_comm]

theorem candidates_of_not_slash {identifier : String}
    (plain : endsWith "/" identifier.toList = false) :
    ∃ rest, candidates identifier = identifier :: rest := by
  unfold candidates
  simp only [plain, Bool.false_eq_true, ↓reduceIte]
  split
  · exact ⟨_, rfl⟩
  · split
    · exact ⟨_, rfl⟩
    · exact ⟨_, rfl⟩

theorem not_slash_append (s : String) {ending : String}
    (last : ending.toList.getLast? ≠ some '/') (nonempty : ending.toList ≠ []) :
    endsWith "/" (s ++ ending).toList = false := by
  rw [Bool.eq_false_iff, ne_eq, endsWith_slash_iff, String.toList_append,
    List.getLast?_append_of_ne_nil _ nonempty]
  exact last

/-- No candidate stands for a directory. -/
theorem not_slash_of_mem_candidates {identifier c : String} (member : c ∈ candidates identifier) :
    endsWith "/" c.toList = false := by
  unfold candidates at member
  simp only at member
  split at member
  · rw [List.mem_singleton.mp member]
    exact not_slash_append identifier (by decide) (by decide)
  · next directory =>
      have plain : endsWith "/" identifier.toList = false := Bool.eq_false_iff.mpr directory
      split at member
      · rcases List.mem_pair.mp member with rfl | rfl
        · exact plain
        · exact not_slash_append _ (by decide) (by decide)
      · split at member
        · rw [List.mem_singleton.mp member]
          exact plain
        · simp only [List.mem_cons, List.not_mem_nil, or_false] at member
          rcases member with rfl | rfl | rfl | rfl
          · exact plain
          · exact not_slash_append identifier (by decide) (by decide)
          · exact not_slash_append identifier (by decide) (by decide)
          · exact not_slash_append identifier (by decide) (by decide)

theorem candidates_ne_nil (identifier : String) : candidates identifier ≠ [] := by
  cases plain : endsWith "/" identifier.toList with
  | true => simp only [candidates, plain, ↓reduceIte, ne_eq, List.cons_ne_nil, not_false_eq_true]
  | false =>
      obtain ⟨rest, first⟩ := candidates_of_not_slash plain
      rw [first]
      exact List.cons_ne_nil _ _

/-- An import that is written like a unit leads to that unit, unless it stands for a directory. -/
theorem leadsTo_self (plain : endsWith "/" u.toList = false) (has : sources.Has u) :
    sources.leadsTo u = .ok (some u) := by
  obtain ⟨rest, first⟩ := candidates_of_not_slash plain
  rw [leadsTo, first]
  exact firstServed_cons_of_has has rest

/-- What serves an import serves also the import that is written like it. -/
theorem leadsTo_target {imported : String} (leads : sources.leadsTo imported = .ok (some v)) :
    sources.leadsTo v = .ok (some v) :=
  leadsTo_self (not_slash_of_mem_candidates (firstServed_eq_some leads).1) (has_of_leadsTo leads)

/-! ## Recursion along imports -/

/-- A unit of which all imports, followed without end, lead to an end. -/
abbrev Grounded (sources : Sources) (unit : String) : Prop :=
  Acc (fun target unit => sources.Edge unit target) unit

theorem Grounded.of_reaches {u v : String} (grounded : sources.Grounded u)
    (reaches : sources.Reaches u v) : sources.Grounded v := by
  induction reaches with
  | refl => exact grounded
  | tail _ edge ih => exact ih.inv edge

theorem Grounded.of_not_has (missing : ¬ sources.Has u) : sources.Grounded u := by
  refine Acc.intro u fun v ⟨imported, member, _⟩ => ?_
  rw [surface_of_not_has missing] at member
  cases member

/-- No unit from which every import leads to an end is on a cycle. -/
theorem Grounded.not_cycle {u : String} (grounded : sources.Grounded u) :
    ¬ Relation.TransGen sources.Edge u u := by
  induction grounded with
  | intro u _ ih =>
      intro cycle
      obtain ⟨v, edge, back⟩ := Relation.TransGen.head'_iff.mp cycle
      exact ih v edge (Relation.TransGen.tail' back edge)

/-- From a unit from which finitely many units and no cycle can be reached, every import leads to an
end. -/
theorem acc_of_finite (finite : (sources.closure u).Finite)
    (acyclic : ∀ v, sources.Reaches u v → ¬ Relation.TransGen sources.Edge v v) :
    sources.Grounded u := by
  induction h : (sources.closure u).ncard using Nat.strongRecOn generalizing u with
  | ind n ih =>
      refine Acc.intro u fun v edge => ?_
      have inside : sources.closure v ⊆ sources.closure u := fun w reached =>
        Relation.ReflTransGen.head edge reached
      have smaller : (sources.closure v).ncard < (sources.closure u).ncard := by
        refine Set.ncard_lt_ncard ⟨inside, fun all => ?_⟩ finite
        have back : sources.Reaches v u := all (mem_closure_self u)
        exact acyclic u .refl (Relation.TransGen.head' edge back)
      exact ih _ (h ▸ smaller) (finite.subset inside)
        (fun w reached => acyclic w (Relation.ReflTransGen.head edge reached)) rfl

/-! ## Finite graphs, listed -/

/-- The units that a unit has edges to. -/
def targets (sources : Sources) (unit : String) : List String :=
  (sources.surface unit).imports.filterMap fun imported =>
    (sources.leadsTo imported).toOption.join

theorem mem_targets_iff : v ∈ sources.targets u ↔ sources.Edge u v := by
  unfold targets Edge
  rw [List.mem_filterMap]
  refine exists_congr fun imported => and_congr_right fun _ => ?_
  cases sources.leadsTo imported with
  | error i => exact iff_of_false nofun nofun
  | ok found => exact ⟨fun same => congrArg Except.ok same, Except.ok.inj⟩

/-- No edge leads out of a list. -/
def Closed (sources : Sources) (list : List String) : Prop :=
  ∀ v ∈ list, ∀ w ∈ sources.targets v, w ∈ list

/-- Every edge from an element of a list leads to a later one. -/
def Layered (sources : Sources) : List String → Prop
  | [] => True
  | v :: rest => (∀ w ∈ sources.targets v, w ∈ rest) ∧ Layered sources rest

instance (list : List String) : Decidable (sources.Closed list) :=
  inferInstanceAs (Decidable (∀ v ∈ list, ∀ w ∈ sources.targets v, w ∈ list))

instance decidableLayered : (list : List String) → Decidable (sources.Layered list)
  | [] => inferInstanceAs (Decidable True)
  | v :: rest =>
      have := decidableLayered rest
      inferInstanceAs (Decidable ((∀ w ∈ sources.targets v, w ∈ rest) ∧ sources.Layered rest))

theorem Closed.closure_subset {list : List String} (closed : sources.Closed list)
    (member : u ∈ list) : sources.closure u ⊆ {v | v ∈ list} := by
  intro v reached
  induction reached with
  | refl => exact member
  | tail _ edge ih => exact closed _ ih _ (mem_targets_iff.mpr edge)

theorem Closed.finite {list : List String} (closed : sources.Closed list) (member : u ∈ list) :
    (sources.closure u).Finite :=
  list.finite_toSet.subset (closed.closure_subset member)

/-- A set has at most as many elements as a list that has all of them. -/
theorem ncard_le_length {set : Set String} {list : List String} (all : set ⊆ {v | v ∈ list}) :
    set.ncard ≤ list.length := by
  have small : set.ncard ≤ {v | v ∈ list}.ncard := Set.ncard_le_ncard all list.finite_toSet
  rw [← List.coe_toFinset, Set.ncard_coe_finset] at small
  exact small.trans list.toFinset_card_le

theorem Closed.ncard_le {list : List String} (closed : sources.Closed list) (member : u ∈ list) :
    (sources.closure u).ncard ≤ list.length :=
  ncard_le_length (closed.closure_subset member)

theorem Layered.closed {list : List String} (layered : sources.Layered list) :
    sources.Closed list := by
  induction list with
  | nil => exact List.forall_mem_nil _
  | cons v rest ih =>
      refine List.forall_mem_cons.mpr ⟨fun w edge => ?_, fun w member x edge => ?_⟩
      · exact List.mem_cons_of_mem v (layered.1 w edge)
      · exact List.mem_cons_of_mem v (ih layered.2 w member x edge)

/-- From a list without edges backwards, every import leads to an end. -/
theorem Layered.grounded {list : List String} (layered : sources.Layered list)
    (member : u ∈ list) : sources.Grounded u := by
  induction list generalizing u with
  | nil => cases member
  | cons v rest ih =>
      rcases List.mem_cons.mp member with rfl | member
      · exact Acc.intro u fun w edge => ih layered.2 (layered.1 w (mem_targets_iff.mpr edge))
      · exact ih layered.2 member

theorem Layered.acyclic {list : List String} (layered : sources.Layered list) (member : u ∈ list)
    (v : String) (reaches : sources.Reaches u v) : ¬ Relation.TransGen sources.Edge v v :=
  ((layered.grounded member).of_reaches reaches).not_cycle

/-! ## How much there is to read -/

/-- The names that a unit takes from others. -/
def namesTaken (s : Surface) : List String :=
  s.bindings.map (·.importedName) ++ s.reExports.map (·.importedName)

/-- The keys of the searches that reading a unit can begin. -/
def searchKeys (sources : Sources) (unit : String) : Set String :=
  Set.image2 Library.searchKey
    (⋃ v ∈ sources.closure unit, {imported | imported ∈ (sources.surface v).imports})
    (⋃ v ∈ sources.closure unit, {name | name ∈ namesTaken (sources.surface v)})

theorem searchKeys_finite (finite : (sources.closure u).Finite) :
    (sources.searchKeys u).Finite := by
  refine Set.Finite.image2 _ ?_ ?_
  · exact finite.biUnion fun v _ => List.finite_toSet _
  · exact finite.biUnion fun v _ => List.finite_toSet _

theorem mem_searchKeys {imported name : String} (reached : v ∈ sources.closure u)
    (member : imported ∈ (sources.surface v).imports) {w : String} (within : w ∈ sources.closure u)
    (taken : name ∈ namesTaken (sources.surface w)) :
    Library.searchKey imported name ∈ sources.searchKeys u :=
  Set.mem_image2_of_mem (Set.mem_biUnion reached member) (Set.mem_biUnion within taken)

/-- Less of a finite set is left with every element that is taken out of it. -/
theorem ncard_diff_cons_lt {α : Type} {set : Set α} (finite : set.Finite) {a : α} {list : List α}
    (member : a ∈ set) (new : a ∉ list) :
    (set \ {b | b ∈ a :: list}).ncard < (set \ {b | b ∈ list}).ncard := by
  refine Set.ncard_lt_ncard ⟨fun b left => ?_, fun all => ?_⟩ finite.sdiff
  · exact ⟨left.1, fun taken => left.2 (List.mem_cons_of_mem a taken)⟩
  · exact (all ⟨member, new⟩).2 List.mem_cons_self

theorem ncard_diff_le_of_subset {α : Type} {set : Set α} (finite : set.Finite) {list more : List α}
    (grown : list ⊆ more) : (set \ {b | b ∈ more}).ncard ≤ (set \ {b | b ∈ list}).ncard :=
  Set.ncard_le_ncard (fun _ left => ⟨left.1, fun taken => left.2 (grown taken)⟩) finite.sdiff

/-- How deep readings and searches may have to nest from a unit. -/
noncomputable def room (sources : Sources) (unit : String) : Nat :=
  (sources.closure unit).ncard + (sources.searchKeys unit).ncard + 1

end Sources

/-! ## Surroundings with such sources -/

namespace Surroundings

variable {σ : Type} (w : Surroundings σ)

/-- The surroundings come from one state to another by logging, and by being asked for identifiers
of a kind. -/
inductive Course (asked : String → Prop) (start : σ) : σ → Prop
  | refl : Course asked start start
  | source {s : σ} (identifier : String) (before : Course asked start s)
      (permitted : asked identifier) : Course asked start (w.source identifier s).2
  | log {s : σ} (line : String) (before : Course asked start s) : Course asked start (w.log line s)

/-- From a state on, the surroundings have the given sources, whatever they are asked for. -/
def Serves (start : σ) (sources : Sources) : Prop :=
  ∀ s, w.Course (fun _ => True) start s →
    ∀ identifier, (w.source identifier s).1 = sources identifier

variable {w} {asked other : String → Prop} {s t z : σ} {sources : Sources}

theorem Course.mono (course : w.Course asked s t) (weaker : ∀ c, asked c → other c) :
    w.Course other s t := by
  induction course with
  | refl => exact .refl
  | source identifier _ permitted ih => exact .source identifier ih (weaker identifier permitted)
  | log line _ ih => exact .log line ih

theorem Course.trans (first : w.Course asked s t) (second : w.Course asked t z) :
    w.Course asked s z := by
  induction second with
  | refl => exact first
  | source identifier _ permitted ih => exact .source identifier ih permitted
  | log line _ ih => exact .log line ih

theorem Serves.later (serves : w.Serves s sources) (course : w.Course asked s t) :
    w.Serves t sources := fun z later =>
  serves z ((course.mono fun _ _ => trivial).trans later)

end Surroundings

end UnitResolution
