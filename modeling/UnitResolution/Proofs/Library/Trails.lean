import UnitResolution.Proofs.Library.Graph
import Mathlib.Data.List.Lex

/-!
# Searches that know places again

A search goes on from place to place, depth first and in the order in which a place lists the next
ones, until a place has what it looks for. It begins at no place whose key it has seen
(`UnitResolution.SearchGraph.seek`). This is the shape of the search for an exported name, where a
place is a name in a unit.

Where different places within reach have different keys, the search leaves nothing out: a part of
the graph that has been searched in vain is closed (`UnitResolution.SearchGraph.Swept`), so a trail
that avoids what had been seen before never leads from it to a place that has something. Hence what
is found lies at the end of the first trail without repetitions, in the order of the choices that
trails make (`UnitResolution.SearchGraph.seek_first`).
-/

namespace UnitResolution

/-- A graph to search. -/
structure SearchGraph (P α : Type) where
  /-- The places to search next, in their order. -/
  next : P → List P
  /-- What a place has of what is looked for. -/
  has? : P → Option α
  /-- By what a place is known again. -/
  key : P → String

namespace SearchGraph

variable {P α : Type}

/-- What a search has found, and the keys that it has seen. -/
abbrev Found (α : Type) := Option α × List String

/-- Search one place after the other until something is found. -/
def first (search : P → List String → Except Interruption (Found α)) :
    List P → List String → Except Interruption (Found α)
  | [], seen => .ok (none, seen)
  | p :: rest, seen => do
      let (found, seen) ← search p seen
      if found.isSome then return (found, seen) else first search rest seen

/-- Search depth first, over at most `limit` places in a row. -/
def seek (g : SearchGraph P α) : (limit : Nat) → P → List String → Except Interruption (Found α)
  | 0, _, _ => .error .tooDeep
  | limit + 1, p, seen =>
      if g.key p ∈ seen then .ok (none, seen)
      else
        match g.has? p with
        | some a => .ok (some a, g.key p :: seen)
        | none => first (g.seek limit) (g.next p) (g.key p :: seen)

/-- One step of a search. -/
def Step (g : SearchGraph P α) (p q : P) : Prop := q ∈ g.next p

/-- The places that a search can come to. -/
def reach (g : SearchGraph P α) (start : P) : Set P := {p | Relation.ReflTransGen g.Step start p}

/-- Of the places that a search can come to, no two have the same key. -/
def Distinct (g : SearchGraph P α) (start : P) : Prop := Set.InjOn g.key (g.reach start)

/-- A way from one place to another: the choices that it makes among the next places, and the
places that it comes by. -/
inductive Trail (g : SearchGraph P α) : P → List Nat → List P → P → Prop
  | stop (p : P) : Trail g p [] [p] p
  | step {p q goal : P} {choice : Nat} {choices : List Nat} {places : List P}
      (taken : (g.next p)[choice]? = some q) (rest : Trail g q choices places goal) :
      Trail g p (choice :: choices) (p :: places) goal

/-- A place is the first one that has something: of all trails without repetitions that lead to
such a place, the one that leads there makes the earliest choices. -/
def First (g : SearchGraph P α) (start : P) (a : α) : Prop :=
  ∃ choices places goal, g.Trail start choices places goal ∧ places.Nodup ∧
    g.has? goal = some a ∧
    ∀ choices' places' goal', g.Trail start choices' places' goal' → places'.Nodup →
      (g.has? goal').isSome → choices ≤ choices'

variable {g : SearchGraph P α} {start p q goal : P} {choices : List Nat} {places : List P}
  {seen seen' later : List String} {a : α} {found : Option α} {limit : Nat}

/-! ## Trails -/

namespace Trail

theorem start_mem (trail : g.Trail p choices places goal) : p ∈ places := by
  cases trail with
  | stop => exact List.mem_cons_self
  | step => exact List.mem_cons_self

/-- All places on a trail can be come to. -/
theorem places_reach (trail : g.Trail p choices places goal) (reached : p ∈ g.reach start) :
    ∀ q ∈ places, q ∈ g.reach start := by
  induction trail with
  | stop p =>
      intro q member
      rwa [List.mem_singleton.mp member]
  | step taken _ ih =>
      have later := ih (Relation.ReflTransGen.tail reached (List.mem_of_getElem? taken))
      exact List.forall_mem_cons.mpr ⟨reached, later⟩

end Trail

/-- From a place in a list that no step leads out of, a search does not come out of the list. -/
theorem reach_subset {list : List P} (member : start ∈ list)
    (closed : ∀ p ∈ list, ∀ q ∈ g.next p, q ∈ list) : g.reach start ⊆ {p | p ∈ list} := by
  intro p reached
  induction reached with
  | refl => exact member
  | tail _ step ih => exact closed _ ih _ step

theorem reach_of_step (reached : p ∈ g.reach start) (step : q ∈ g.next p) : q ∈ g.reach start :=
  Relation.ReflTransGen.tail reached step

/-! ## One place after the other -/

section InARow

variable {search : P → List String → Except Interruption (Found α)} {list : List P}

theorem first_cons_of_none (vain : search p seen = .ok (none, later)) (rest : List P) :
    first search (p :: rest) seen = first search rest later := by
  simp only [first, vain, bind, Except.bind]
  rfl

theorem first_cons_of_some (hit : search p seen = .ok (some a, later)) (rest : List P) :
    first search (p :: rest) seen = .ok (some a, later) := by
  simp only [first, hit, bind, Except.bind]
  rfl

theorem first_cons_of_error {i : Interruption} (stopped : search p seen = .error i)
    (rest : List P) : first search (p :: rest) seen = .error i := by
  simp only [first, stopped, bind, Except.bind]

theorem first_singleton (search : P → List String → Except Interruption (Found α)) (p : P)
    (seen : List String) : first search [p] seen = search p seen := by
  cases run : search p seen with
  | error i => exact first_cons_of_error run []
  | ok result =>
      obtain ⟨found, later⟩ := result
      cases found with
      | some a => exact first_cons_of_some run []
      | none => exact first_cons_of_none run []

/-- What is found in a list is found in one of its places, and in vain in those before it. -/
theorem first_eq_some (run : first search list seen = .ok (some a, seen')) :
    ∃ (index : Nat) (p : P) (between : List String), list[index]? = some p ∧
      first search (list.take index) seen = .ok (none, between) ∧
      search p between = .ok (some a, seen') := by
  induction list generalizing seen with
  | nil => cases run
  | cons p rest ih =>
      cases here : search p seen with
      | error i =>
          rw [first_cons_of_error here] at run
          cases run
      | ok result =>
          obtain ⟨found, later⟩ := result
          cases found with
          | some b =>
              rw [first_cons_of_some here] at run
              cases run
              exact ⟨0, p, seen, rfl, rfl, here⟩
          | none =>
              rw [first_cons_of_none here] at run
              obtain ⟨index, q, between, place, vain, hit⟩ := ih run
              refine ⟨index + 1, q, between, place, ?_, hit⟩
              rw [List.take_succ_cons, first_cons_of_none here, vain]

theorem first_eq_none (run : first search (p :: list) seen = .ok (none, seen')) :
    ∃ later, search p seen = .ok (none, later) ∧ first search list later = .ok (none, seen') := by
  cases here : search p seen with
  | error i =>
      rw [first_cons_of_error here] at run
      cases run
  | ok result =>
      obtain ⟨found, later⟩ := result
      cases found with
      | some b =>
          rw [first_cons_of_some here] at run
          cases run
      | none =>
          rw [first_cons_of_none here] at run
          exact ⟨later, rfl, run⟩

/-- If searching a place keeps a relation of what has been seen, so does searching a list. -/
theorem first_grows (grows : ∀ p ∈ list, ∀ seen found later,
    search p seen = .ok (found, later) → seen ⊆ later)
    (run : first search list seen = .ok (found, seen')) : seen ⊆ seen' := by
  induction list generalizing seen with
  | nil =>
      cases run
      exact List.Subset.refl _
  | cons p rest ih =>
      cases here : search p seen with
      | error i =>
          rw [first_cons_of_error here] at run
          cases run
      | ok result =>
          obtain ⟨hit, later⟩ := result
          have more := grows p List.mem_cons_self seen hit later here
          cases hit with
          | some b =>
              rw [first_cons_of_some here] at run
              cases run
              exact more
          | none =>
              rw [first_cons_of_none here] at run
              exact List.Subset.trans more
                (ih (fun q member => grows q (List.mem_cons_of_mem p member)) run)

end InARow

theorem seek_of_seen (known : g.key p ∈ seen) :
    g.seek (limit + 1) p seen = .ok (none, seen) :=
  if_pos known

theorem seek_of_unseen (new : g.key p ∉ seen) :
    g.seek (limit + 1) p seen =
      match g.has? p with
      | some a => .ok (some a, g.key p :: seen)
      | none => first (g.seek limit) (g.next p) (g.key p :: seen) :=
  if_neg new

theorem seek_of_has (new : g.key p ∉ seen) (here : g.has? p = some a) :
    g.seek (limit + 1) p seen = .ok (some a, g.key p :: seen) := by
  rw [seek_of_unseen new, here]

theorem seek_of_new (new : g.key p ∉ seen) (nothing : g.has? p = none) :
    g.seek (limit + 1) p seen = first (g.seek limit) (g.next p) (g.key p :: seen) := by
  rw [seek_of_unseen new, nothing]

/-- Nothing that has been seen is forgotten. -/
theorem seek_grows (run : g.seek limit p seen = .ok (found, seen')) : seen ⊆ seen' := by
  induction limit generalizing p seen found seen' with
  | zero => cases run
  | succ limit ih =>
      by_cases known : g.key p ∈ seen
      · rw [seek_of_seen known] at run
        cases run
        exact List.Subset.refl _
      · cases here : g.has? p with
        | some b =>
            rw [seek_of_has known here] at run
            cases run
            exact List.subset_cons_self _ _
        | none =>
            rw [seek_of_new known here] at run
            have more := first_grows (fun q _ _ _ _ run => ih run) run
            exact List.Subset.trans (List.subset_cons_self _ _) more

/-! ## What is found is there -/

/-- Whatever keys the places have, what a search finds is what some place has that it comes to. -/
theorem seek_sound (run : g.seek limit p seen = .ok (some a, seen')) :
    ∃ q ∈ g.reach p, g.has? q = some a := by
  induction limit generalizing p seen seen' with
  | zero => cases run
  | succ limit ih =>
      by_cases known : g.key p ∈ seen
      · rw [seek_of_seen known] at run
        cases run
      · cases here : g.has? p with
        | some b =>
            rw [seek_of_has known here] at run
            cases run
            exact ⟨p, .refl, here⟩
        | none =>
            rw [seek_of_new known here] at run
            obtain ⟨index, q, between, place, _, hit⟩ := first_eq_some run
            obtain ⟨goal, reached, there⟩ := ih hit
            have step : q ∈ g.next p := List.mem_of_getElem? place
            exact ⟨goal, Relation.ReflTransGen.head step reached, there⟩

/-! ## Searches end -/

/-- A search ends if its limit is above the number of keys that it can still see. -/
theorem seek_ends (finite : (g.key '' g.reach start).Finite) (reached : p ∈ g.reach start)
    (room : (g.key '' g.reach start \ {k | k ∈ seen}).ncard < limit) :
    ∃ result, g.seek limit p seen = .ok result := by
  induction limit generalizing p seen with
  | zero => exact absurd room (Nat.not_lt_zero _)
  | succ limit ih =>
      by_cases known : g.key p ∈ seen
      · exact ⟨_, seek_of_seen known⟩
      · cases here : g.has? p with
        | some b => exact ⟨_, seek_of_has known here⟩
        | none =>
            rw [seek_of_new known here]
            have member := Set.mem_image_of_mem g.key reached
            have less := Sources.ncard_diff_cons_lt finite member known
            have room : (g.key '' g.reach start \ {k | k ∈ g.key p :: seen}).ncard < limit := by
              omega
            -- what the searches of the list see leaves them all the same room
            have steps : ∀ q ∈ g.next p, q ∈ g.reach start := fun q => reach_of_step reached
            generalize g.key p :: seen = seen at room
            generalize g.next p = list at steps
            induction list generalizing seen with
            | nil => exact ⟨_, rfl⟩
            | cons q rest inner =>
                obtain ⟨step, steps⟩ := List.forall_mem_cons.mp steps
                obtain ⟨⟨found, later⟩, run⟩ := ih step room
                cases found with
                | some b => exact ⟨_, first_cons_of_some run rest⟩
                | none =>
                    rw [first_cons_of_none run]
                    have left := Sources.ncard_diff_le_of_subset finite (seek_grows run)
                    exact inner later (Nat.lt_of_le_of_lt left room) steps

/-! ## Nothing is left out -/

/-- What has been seen beyond something before has been searched in vain: no place of it has
anything, and what it leads to has been seen too. -/
structure Swept (g : SearchGraph P α) (start : P) (seen seen' : List String) : Prop where
  grown : seen ⊆ seen'
  nothing : ∀ q ∈ g.reach start, g.key q ∈ seen' → g.key q ∉ seen → g.has? q = none
  closed : ∀ q ∈ g.reach start, g.key q ∈ seen' → g.key q ∉ seen →
    ∀ q' ∈ g.next q, g.key q' ∈ seen'

namespace Swept

theorem refl (g : SearchGraph P α) (start : P) (seen : List String) : g.Swept start seen seen where
  grown := List.Subset.refl _
  nothing _ _ old new := absurd old new
  closed _ _ old new := absurd old new

theorem trans (before : g.Swept start seen later) (after : g.Swept start later seen') :
    g.Swept start seen seen' where
  grown := List.Subset.trans before.grown after.grown
  nothing q reached old new := by
    by_cases between : g.key q ∈ later
    · exact before.nothing q reached between new
    · exact after.nothing q reached old between
  closed q reached old new q' step := by
    by_cases between : g.key q ∈ later
    · exact after.grown (before.closed q reached between new q' step)
    · exact after.closed q reached old between q' step

/-- A place is swept with what it leads to. -/
theorem place (distinct : g.Distinct start) (reached : p ∈ g.reach start)
    (here : g.has? p = none) (around : g.Swept start (g.key p :: seen) seen')
    (next : ∀ q ∈ g.next p, g.key q ∈ seen') : g.Swept start seen seen' := by
  have cases_of : ∀ q ∈ g.reach start, g.key q ∉ seen → q = p ∨ g.key q ∉ g.key p :: seen := by
    intro q within new
    by_cases same : q = p
    · exact .inl same
    · have apart : g.key q ≠ g.key p := fun equal => same (distinct within reached equal)
      right
      simp [apart, new]
  refine ⟨List.Subset.trans (List.subset_cons_self _ _) around.grown, ?_, ?_⟩
  · intro q within old new
    rcases cases_of q within new with rfl | apart
    · exact here
    · exact around.nothing q within old apart
  · intro q within old new
    rcases cases_of q within new with rfl | apart
    · exact next
    · exact around.closed q within old apart

/-- From a place that has been swept, no trail that avoids what had been seen before leads to a
place that has something. -/
theorem not_has (swept : g.Swept start seen seen') (reached : p ∈ g.reach start)
    (trail : g.Trail p choices places goal) (old : g.key p ∈ seen')
    (avoids : ∀ q ∈ places, g.key q ∉ seen) : g.has? goal = none := by
  induction trail with
  | stop p => exact swept.nothing p reached old (avoids p List.mem_cons_self)
  | @step p q goal choice choices places taken rest ih =>
      have step : q ∈ g.next p := List.mem_of_getElem? taken
      have new := avoids p List.mem_cons_self
      refine ih (reach_of_step reached step) (swept.closed p reached old new q step) ?_
      intro other member
      exact avoids other (List.mem_cons_of_mem p member)

/-- A trail that leads to a place that has something, and avoids what had been seen before, avoids
all that has been swept. -/
theorem avoids (swept : g.Swept start seen seen') (reached : p ∈ g.reach start)
    (trail : g.Trail p choices places goal) (provides : (g.has? goal).isSome)
    (avoids : ∀ q ∈ places, g.key q ∉ seen) : ∀ q ∈ places, g.key q ∉ seen' := by
  have nowhere : ∀ {p choices places}, p ∈ g.reach start → g.Trail p choices places goal →
      (∀ q ∈ places, g.key q ∉ seen) → g.key p ∉ seen' := by
    intro p choices places reached trail avoids old
    rw [swept.not_has reached trail old avoids] at provides
    cases provides
  induction trail with
  | stop p =>
      intro q member
      rw [List.mem_singleton.mp member]
      exact nowhere reached (.stop p) avoids
  | @step p q goal choice choices places taken rest ih =>
      have step : q ∈ g.next p := List.mem_of_getElem? taken
      obtain ⟨_, others⟩ := List.forall_mem_cons.mp avoids
      intro r member
      rcases List.mem_cons.mp member with rfl | later
      · exact nowhere reached (.step taken rest) avoids
      · exact ih (reach_of_step reached step) provides others nowhere r later

end Swept

/-- What is searched in vain is swept. -/
theorem swept_of_first (start : P) {search : P → List String → Except Interruption (Found α)}
    {list : List P}
    (sweeps : ∀ p ∈ list, ∀ seen later, search p seen = .ok (none, later) →
      g.Swept start seen later ∧ g.key p ∈ later)
    (run : first search list seen = .ok (none, seen')) :
    g.Swept start seen seen' ∧ ∀ p ∈ list, g.key p ∈ seen' := by
  induction list generalizing seen with
  | nil =>
      cases run
      exact ⟨.refl g start _, List.forall_mem_nil _⟩
  | cons p rest ih =>
      obtain ⟨later, here, others⟩ := first_eq_none run
      obtain ⟨sweeps, more⟩ := List.forall_mem_cons.mp sweeps
      obtain ⟨before, known⟩ := sweeps seen later here
      obtain ⟨after, all⟩ := ih more others
      exact ⟨before.trans after, List.forall_mem_cons.mpr ⟨after.grown known, all⟩⟩

/-- A place that is searched in vain is swept. -/
theorem swept_of_seek (distinct : g.Distinct start) (reached : p ∈ g.reach start)
    (run : g.seek limit p seen = .ok (none, seen')) :
    g.Swept start seen seen' ∧ g.key p ∈ seen' := by
  induction limit generalizing p seen seen' with
  | zero => cases run
  | succ limit ih =>
      by_cases known : g.key p ∈ seen
      · rw [seek_of_seen known] at run
        cases run
        exact ⟨.refl g start seen, known⟩
      · cases here : g.has? p with
        | some b =>
            rw [seek_of_has known here] at run
            cases run
        | none =>
            rw [seek_of_new known here] at run
            obtain ⟨around, next⟩ := swept_of_first (g := g) start
              (fun q step _ _ run => ih (reach_of_step reached step) run) run
            exact ⟨around.place distinct reached here next, around.grown List.mem_cons_self⟩

/-- A search that finds nothing has come to no place that has something. -/
theorem seek_none (distinct : g.Distinct start) (run : g.seek limit start [] = .ok (none, seen')) :
    ∀ q ∈ g.reach start, g.has? q = none := by
  obtain ⟨swept, known⟩ := swept_of_seek distinct .refl run
  suffices all : ∀ q ∈ g.reach start, g.key q ∈ seen' by
    intro q reached
    exact swept.nothing q reached (all q reached) List.not_mem_nil
  intro q reached
  induction reached with
  | refl => exact known
  | tail reached step ih => exact swept.closed _ reached ih List.not_mem_nil _ step

/-! ## The first trail -/

/-- No trail from a place makes earlier choices, of those without repetitions that avoid what has
been seen and lead to a place that has something. -/
def Least (g : SearchGraph P α) (p : P) (seen : List String) (choices : List Nat) : Prop :=
  ∀ choices' places goal, g.Trail p choices' places goal → places.Nodup →
    (∀ q ∈ places, g.key q ∉ seen) → (g.has? goal).isSome → choices ≤ choices'

/-- If the next places up to some have been searched in vain, the least choices go on from there. -/
theorem Least.step (distinct : g.Distinct start) (reached : p ∈ g.reach start)
    (here : g.has? p = none) {index : Nat} (place : (g.next p)[index]? = some q)
    (swept : g.Swept start (g.key p :: seen) later)
    (before : ∀ r ∈ (g.next p).take index, g.key r ∈ later) (least : g.Least q later choices) :
    g.Least p seen (index :: choices) := by
  intro choices' places goal trail nodup avoids provides
  cases trail with
  | stop =>
      rw [here] at provides
      cases provides
  | @step _ q' _ choice choices' places taken rest =>
      obtain ⟨once, nodup⟩ := List.nodup_cons.mp nodup
      obtain ⟨_, avoids⟩ := List.forall_mem_cons.mp avoids
      have reached' := reach_of_step reached (List.mem_of_getElem? taken)
      have new : ∀ r ∈ places, g.key r ∉ g.key p :: seen := by
        intro r member old
        rcases List.mem_cons.mp old with same | old
        · have same := distinct (rest.places_reach reached' r member) reached same
          exact once (same ▸ member)
        · exact avoids r member old
      have new := swept.avoids reached' rest provides new
      rcases Nat.lt_trichotomy choice index with less | rfl | more
      · -- all that comes before has been swept
        have member : q' ∈ (g.next p).take index :=
          List.mem_of_getElem? ((List.getElem?_take_of_lt less).trans taken)
        exact absurd (before q' member) (new q' rest.start_mem)
      · obtain rfl : q = q' := Option.some.inj (place.symm.trans taken)
        exact List.cons_le_cons choice (least _ _ _ rest nodup new provides)
      · exact le_of_lt (List.Lex.rel more)

/-- What a search finds lies at the end of the first of all trails without repetitions that avoid
what has been seen. -/
theorem trail_of_seek (distinct : g.Distinct start) (reached : p ∈ g.reach start)
    (run : g.seek limit p seen = .ok (some a, seen')) :
    ∃ choices places goal, g.Trail p choices places goal ∧ places.Nodup ∧
      (∀ q ∈ places, g.key q ∉ seen) ∧ g.has? goal = some a ∧ g.Least p seen choices := by
  induction limit generalizing p seen seen' with
  | zero => cases run
  | succ limit ih =>
      by_cases known : g.key p ∈ seen
      · rw [seek_of_seen known] at run
        cases run
      · cases here : g.has? p with
        | some b =>
            rw [seek_of_has known here] at run
            cases run
            refine ⟨[], [p], p, .stop p, List.nodup_singleton p, ?_, here, ?_⟩
            · intro q member
              rwa [List.mem_singleton.mp member]
            · intro choices' _ _ _ _ _ _
              exact not_lt.mp (List.not_lt_nil choices')
        | none =>
            rw [seek_of_new known here] at run
            obtain ⟨index, q, between, place, vain, hit⟩ := first_eq_some run
            have step : q ∈ g.next p := List.mem_of_getElem? place
            obtain ⟨swept, before⟩ := swept_of_first (g := g) start
              (fun r member _ _ run => swept_of_seek distinct
                (reach_of_step reached (List.mem_of_mem_take member)) run) vain
            obtain ⟨choices, places, goal, trail, nodup, avoids, provides, least⟩ :=
              ih (reach_of_step reached step) hit
            have apart : ∀ r ∈ places, g.key r ∉ g.key p :: seen :=
              fun r member old => avoids r member (swept.grown old)
            refine ⟨index :: choices, p :: places, goal, .step place trail, ?_, ?_, provides,
              least.step distinct reached here place swept before⟩
            · refine List.nodup_cons.mpr ⟨fun member => ?_, nodup⟩
              exact apart p member List.mem_cons_self
            · refine List.forall_mem_cons.mpr ⟨known, fun r member old => ?_⟩
              exact apart r member (List.mem_cons_of_mem _ old)

theorem seek_first (distinct : g.Distinct start)
    (run : g.seek limit start [] = .ok (some a, seen')) : g.First start a := by
  obtain ⟨choices, places, goal, trail, nodup, _, provides, least⟩ :=
    trail_of_seek distinct .refl run
  refine ⟨choices, places, goal, trail, nodup, provides, ?_⟩
  intro choices' places' goal' trail' nodup' provides'
  exact least choices' places' goal' trail' nodup' (fun _ _ => List.not_mem_nil) provides'

end SearchGraph

end UnitResolution
