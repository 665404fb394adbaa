import UnitResolution.Proofs.Library.Verbosity
import UnitResolution.Proofs.Library.Recency

/-!
# What a library reads and keeps

A library can be put above surroundings that take account of how they have been used
(`UnitResolution.Surroundings.observed`). An identifier is read when its source has been got, and a
unit that has been built is logged. What calls return is the same as without the account
(`UnitResolution.Library.Reader.responses_observed`).

While a unit is being read, it is pending, and not kept. All that is kept has been read before. So
if there is room for everything that has been read, there is room for a unit that comes to be kept,
and nothing is evicted (`UnitResolution.Library.Sound.find?_set`). The identifiers that are read are
neither kept nor pending, so nothing is built that is kept already. This relates the states of a
library (`UnitResolution.Library.Grown`) in a way that composes.
-/

namespace UnitResolution

open Library Script

variable {σ : Type}

/-! ## Taking account -/

/-- How a library has used its surroundings. -/
structure Usage where
  /-- The identifiers whose sources it has got, and thereupon read. -/
  read : List String := []
  /-- The lines that it has logged. -/
  logged : List String := []
  deriving Repr, DecidableEq

namespace Usage

/-- The account of one more reading. -/
def reads (usage : Usage) (identifier : String) : Usage :=
  { usage with read := usage.read ++ [identifier] }

/-- The account of more lines. -/
def logs (usage : Usage) (lines : List String) : Usage :=
  { usage with logged := usage.logged ++ lines }

end Usage

namespace Surroundings

/-- The surroundings, with an account of how they have been used. -/
def observed (w : Surroundings σ) : Surroundings (σ × Usage) where
  source identifier := fun (s, usage) =>
    let (answer, s) := w.source identifier s
    let usage := match answer with
      | .ok (.ok _) => usage.reads identifier
      | _ => usage
    (answer, (s, usage))
  log line := fun (s, usage) => (w.log line s, usage.logs [line])

variable {w : Surroundings σ} {sources : Sources} {s : σ}

theorem Course.of_observed {asked : String → Prop} {t z : σ × Usage}
    (course : w.observed.Course asked t z) : w.Course asked t.1 z.1 := by
  induction course with
  | refl => exact .refl
  | source identifier _ permitted ih => exact .source identifier ih permitted
  | log line _ ih => exact .log line ih

theorem Serves.observed (serves : w.Serves s sources) (usage : Usage) :
    w.observed.Serves (s, usage) sources :=
  fun t course identifier => serves t.1 course.of_observed identifier

end Surroundings

namespace Library.Reader

/-- The library, above surroundings that take account of how they are used. -/
def observed (r : Reader σ) : Reader (σ × Usage) := r.above r.surroundings.observed

/-- What a call returns: the unit, or all units of the program. -/
def respond (r : Reader σ) : Call → Operation σ (List LibraryUnit)
  | .library identifier => do
      match ← resolveLibrary r identifier with
      | .ok unit => return [unit]
      | .error _ => return []
  | .program entry => do
      match ← resolveProgram r entry with
      | .ok program => return program.units
      | .error _ => return []

/-- What each of several calls returns. -/
def responses (r : Reader σ) :
    List Call → Memory × σ → List (Except Interruption (List LibraryUnit))
  | [], _ => []
  | call :: rest, state => (r.respond call state).1 :: r.responses rest (r.perform state call)

/-- All units that several calls return. -/
def returned (r : Reader σ) (calls : List Call) (state : Memory × σ) : List LibraryUnit :=
  (r.responses calls state).flatMap fun o => o.toOption.getD []

/-- How many of several calls are interrupted. -/
def interruptions (r : Reader σ) (calls : List Call) (state : Memory × σ) : Nat :=
  (r.responses calls state).countP (·.toOption.isNone)

theorem perform_eq_respond (r : Reader σ) (state : Memory × σ) (call : Call) :
    r.perform state call = (r.respond call state).2 := by
  cases call with
  | library identifier =>
      simp only [perform, respond, run_bind]
      generalize resolveLibrary r identifier state = run
      obtain ⟨_ | _ | unit, next⟩ := run <;> rfl
  | program entry =>
      simp only [perform, respond, run_bind]
      generalize resolveProgram r entry state = run
      obtain ⟨_ | _ | program, next⟩ := run <;> rfl

theorem returned_cons (r : Reader σ) (call : Call) (rest : List Call) (state : Memory × σ) :
    r.returned (call :: rest) state = (r.respond call state).1.toOption.getD [] ++
      r.returned rest (r.respond call state).2 := by
  simp only [returned, responses, List.flatMap_cons, perform_eq_respond]

theorem interruptions_cons (r : Reader σ) (call : Call) (rest : List Call) (state : Memory × σ) :
    r.interruptions (call :: rest) state = r.interruptions rest (r.respond call state).2 +
      if (r.respond call state).1.toOption.isNone then 1 else 0 := by
  simp only [interruptions, responses, List.countP_cons, perform_eq_respond]

theorem after_append (r : Reader σ) (before rest : List Call) (state : Memory × σ) :
    r.after (before ++ rest) state = r.after rest (r.after before state) :=
  List.foldl_append

/-- Taking account changes nothing about what calls return. -/
theorem responses_observed (r : Reader σ) {sources : Sources} {s : σ}
    (serves : r.surroundings.Serves s sources) (bound : Int) (calls : List Call) :
    r.observed.responses calls (fresh bound (s, {})) = r.responses calls (fresh bound s) := by
  have alike {a : Memory × σ} {b : Memory × σ × Usage}
      (abreast : Abreast r r.surroundings.observed sources sources Set.univ a b) :
      r.observed.responses calls b = r.responses calls a := by
    induction calls generalizing a b with
    | nil => rfl
    | cons call rest ih =>
        have same : Together r r.surroundings.observed sources sources Set.univ Eq
            (r.respond call) (r.observed.respond call) := by
          cases call with
          | library identifier =>
              refine (Together.resolveLibrary (agreeOn_univ sources)
                (Set.mem_univ identifier)).bind ?_
              rintro found _ ⟨rfl, _⟩
              cases found <;> exact Together.pure rfl
          | program entry =>
              refine (Together.resolveProgram (agreeOn_univ sources) (Set.mem_univ entry)).bind ?_
              rintro found _ rfl
              cases found <;> exact Together.pure rfl
        obtain ⟨outcome, after⟩ := same a b abreast
        rw [responses, responses, outcome.eq, perform_eq_respond, perform_eq_respond, ih after]
  exact alike ⟨rfl, ⟨nofun, nofun⟩, serves, serves.observed {}⟩

end Library.Reader

/-! ## What one operation leaves behind -/

namespace Library

variable {a b z : Memory × σ × Usage} {u : String} {unit : LibraryUnit}

/-- All units of a list are kept. -/
def KeepsAll (m : Memory) (units : List LibraryUnit) : Prop :=
  ∀ unit ∈ units, m.units.find? unit.identifier = some unit

/-- There is room for everything that has been read. -/
def Fits (a : Memory × σ × Usage) : Prop := (a.2.2.read.toFinset.card : Int) ≤ a.1.units.bound

/-- What is kept has been read, is kept for its own identifier, and is not pending. -/
structure Sound (pending : List String) (a : Memory × σ × Usage) : Prop where
  distinct : (Table.keys a.1.units.entries).Nodup
  kept : ∀ c unit, a.1.units.find? c = some unit → c ∈ a.2.2.read ∧ unit.identifier = c
  missing : ∀ c ∈ pending, a.1.units.find? c = none

/-- One state comes from another by reading identifiers that are neither kept nor pending, and by
keeping units that have been built, beside all that are kept already. -/
structure Grown (verbose : Bool) (pending : List String) (a b : Memory × σ × Usage)
    (new : List String) (built : List LibraryUnit) : Prop where
  read : b.2.2.read = a.2.2.read ++ new
  logged : b.2.2.logged = a.2.2.logged ++ if verbose then built.map resolvedLine else []
  bound : b.1.units.bound = a.1.units.bound
  kept : ∀ c unit, a.1.units.find? c = some unit → b.1.units.find? c = some unit
  fresh : ∀ c ∈ new, a.1.units.find? c = none ∧ c ∉ pending
  builds : ∀ unit ∈ built, a.1.units.find? unit.identifier = none ∧
    b.1.units.find? unit.identifier = some unit
  distinct : (built.map (·.identifier)).Nodup

variable {verbose : Bool} {pending new new' : List String} {built built' : List LibraryUnit}

/-- What has been read only grows, so what fits in the end has fitted before. -/
theorem Fits.of_read (fits : Fits b) (read : b.2.2.read = a.2.2.read ++ new)
    (bound : b.1.units.bound = a.1.units.bound) : Fits a := by
  unfold Fits at *
  rw [read, bound] at fits
  have fewer : a.2.2.read.toFinset ⊆ (a.2.2.read ++ new).toFinset := fun c member =>
    List.mem_toFinset.mpr (List.mem_append_left new (List.mem_toFinset.mp member))
  have smaller := Finset.card_le_card fewer
  omega

theorem Fits.of_grown (fits : Fits b) (grown : Grown verbose pending a b new built) : Fits a :=
  fits.of_read grown.read grown.bound

namespace Grown

theorem keepsAll (grown : Grown verbose pending a b new built) {units : List LibraryUnit}
    (keeps : KeepsAll a.1 units) : KeepsAll b.1 units :=
  fun unit member => grown.kept _ unit (keeps unit member)

theorem find?_eq_none (grown : Grown verbose pending a b new built)
    (missing : b.1.units.find? u = none) : a.1.units.find? u = none := by
  cases found : a.1.units.find? u with
  | none => rfl
  | some unit => cases missing.symm.trans (grown.kept u unit found)

/-- What has been read inside a unit is not the unit itself. -/
theorem nodup_cons (grown : Grown verbose (u :: pending) a b new built) (nodup : new.Nodup) :
    (u :: new).Nodup :=
  List.nodup_cons.mpr ⟨fun member => (grown.fresh u member).2 List.mem_cons_self, nodup⟩

theorem trans (first : Grown verbose pending a b new built)
    (second : Grown verbose pending b z new' built') :
    Grown verbose pending a z (new ++ new') (built ++ built') where
  read := by rw [second.read, first.read, List.append_assoc]
  logged := by
    rw [second.logged, first.logged, List.append_assoc]
    cases verbose with
    | false => rfl
    | true => simp
  bound := second.bound.trans first.bound
  kept c unit found := second.kept c unit (first.kept c unit found)
  fresh := by
    refine List.forall_mem_append.mpr ⟨first.fresh, fun c member => ?_⟩
    obtain ⟨missing, free⟩ := second.fresh c member
    exact ⟨first.find?_eq_none missing, free⟩
  builds := by
    refine List.forall_mem_append.mpr ⟨fun unit member => ?_, fun unit member => ?_⟩
    · obtain ⟨missing, kept⟩ := first.builds unit member
      exact ⟨missing, second.kept _ unit kept⟩
    · obtain ⟨missing, kept⟩ := second.builds unit member
      exact ⟨first.find?_eq_none missing, kept⟩
  distinct := by
    rw [List.map_append]
    refine List.nodup_append.mpr ⟨first.distinct, second.distinct, ?_⟩
    intro c member d member' same
    obtain ⟨unit, among, rfl⟩ := List.mem_map.mp member
    obtain ⟨other, among', rfl⟩ := List.mem_map.mp member'
    -- the one is kept in the middle, the other is not
    have kept := (first.builds unit among).2
    rw [same, (second.builds other among').1] at kept
    cases kept

end Grown

/-! ## Access to the state -/

/-- Nothing changes but the order of what is kept. -/
structure Still (a b : Memory × σ × Usage) : Prop where
  usage : b.2.2 = a.2.2
  bound : b.1.units.bound = a.1.units.bound
  found : ∀ c, b.1.units.find? c = a.1.units.find? c
  distinct : (Table.keys a.1.units.entries).Nodup → (Table.keys b.1.units.entries).Nodup

namespace Still

protected theorem refl (a : Memory × σ × Usage) : Still a a := ⟨rfl, rfl, fun _ => rfl, id⟩

theorem sound (still : Still a b) (sound : Sound pending a) : Sound pending b where
  distinct := still.distinct sound.distinct
  kept c unit found := by
    rw [still.usage]
    exact sound.kept c unit ((still.found c).symm.trans found)
  missing c member := (still.found c).trans (sound.missing c member)

theorem grown (still : Still a b) (verbose : Bool) (pending : List String) :
    Grown verbose pending a b [] [] where
  read := by rw [still.usage, List.append_nil]
  logged := by rw [still.usage, List.map_nil, ite_self, List.append_nil]
  bound := still.bound
  kept c unit found := (still.found c).trans found
  fresh := List.forall_mem_nil _
  builds := List.forall_mem_nil _
  distinct := List.nodup_nil

end Still

/-- Getting a unit changes the order only. -/
theorem still_get (m : Memory) (s : σ × Usage) (c : String) :
    Still (m, s) ({ m with units := (m.units.get c).2 }, s) where
  usage := rfl
  bound := by
    rcases m.units.get_eq c with same | ⟨_, _, _, _, same⟩ <;> rw [same]
  found := Cache.find?_get _ _
  distinct nodup := by
    rcases m.units.get_eq c with same | ⟨kept, unit, fewer, absent, same⟩
    · rw [same]
      exact nodup
    · rw [same]
      exact Cache.nodup_concat nodup fewer absent

namespace Sound

theorem mono (sound : Sound (u :: pending) a) : Sound pending a where
  distinct := sound.distinct
  kept := sound.kept
  missing c member := sound.missing c (List.mem_cons_of_mem u member)

/-- Nothing has been read before the first call. -/
theorem fresh (bound : Int) (s : σ) : Sound [] (Reader.fresh bound (s, ({} : Usage))) where
  distinct := List.nodup_nil
  kept c unit found := by cases found
  missing := List.forall_mem_nil _

/-- A unit is begun to be read. -/
theorem enter (sound : Sound pending a) (missing : a.1.units.find? u = none) (s : σ) :
    Sound (u :: pending) (a.1, s, a.2.2.reads u) where
  distinct := sound.distinct
  kept c unit found := by
    obtain ⟨before, named⟩ := sound.kept c unit found
    exact ⟨List.mem_append_left _ before, named⟩
  missing := List.forall_mem_cons.mpr ⟨missing, sound.missing⟩

/-- If everything fits, nothing has to be evicted for a unit that has been read. All that is kept
has been read too, and the unit itself is not among it. -/
theorem find?_set (sound : Sound (u :: pending) a) (fits : Fits a) (read : u ∈ a.2.2.read)
    (unit : LibraryUnit) {c : String} (differs : c ≠ u) :
    (a.1.units.set u unit).find? c = a.1.units.find? c := by
  refine Cache.find?_set_of_ne differs fun missing full _ _ => ?_
  have new : u ∉ Table.keys a.1.units.entries := fun member => by
    rw [Cache.contains_iff.mpr member] at missing
    cases missing
  have inside : (u :: Table.keys a.1.units.entries).toFinset ⊆ a.2.2.read.toFinset := by
    intro c member
    rcases List.mem_cons.mp (List.mem_toFinset.mp member) with rfl | member
    · exact List.mem_toFinset.mpr read
    · obtain ⟨unit, found⟩ := Option.isSome_iff_exists.mp (Cache.contains_iff.mpr member)
      exact List.mem_toFinset.mpr (sound.kept c unit found).1
  have room := Finset.card_le_card inside
  rw [List.toFinset_card_of_nodup (List.nodup_cons.mpr ⟨new, sound.distinct⟩),
    List.length_cons, ← Cache.size_eq] at room
  unfold Fits at fits
  omega

/-- The unit has been read, and is kept. -/
theorem keep (sound : Sound (u :: pending) a) (fits : Fits a) (read : u ∈ a.2.2.read)
    (named : unit.identifier = u) (free : u ∉ pending) (s : σ) (lines : List String) :
    Sound pending ({ a.1 with units := a.1.units.set u unit }, s, a.2.2.logs lines) where
  distinct := by
    obtain ⟨kept, fewer, absent, set⟩ := a.1.units.set_eq u unit
    rw [set]
    exact Cache.nodup_concat sound.distinct fewer absent
  kept c other found := by
    by_cases equal : c = u
    · subst equal
      rw [Cache.find?_set_self] at found
      cases found
      exact ⟨read, named⟩
    · exact sound.kept c other ((sound.find?_set fits read unit equal).symm.trans found)
  missing c member := by
    have differs : c ≠ u := fun equal => free (equal ▸ member)
    exact (sound.find?_set fits read unit differs).trans
      (sound.missing c (List.mem_cons_of_mem u member))

end Sound

namespace Grown

/-- What has happened while a unit was being read, and that it was begun to be read. -/
theorem enclose {s : σ}
    (grown : Grown verbose (u :: pending) (a.1, s, a.2.2.reads u) b new built)
    (missing : a.1.units.find? u = none) (free : u ∉ pending) :
    Grown verbose pending a b (u :: new) built where
  read := by
    rw [grown.read]
    exact List.append_assoc _ [u] new
  logged := grown.logged
  bound := grown.bound
  kept := grown.kept
  fresh := by
    refine List.forall_mem_cons.mpr ⟨⟨missing, free⟩, fun c member => ?_⟩
    obtain ⟨fresh, other⟩ := grown.fresh c member
    exact ⟨fresh, fun among => other (List.mem_cons_of_mem u among)⟩
  builds := grown.builds
  distinct := grown.distinct

/-- The unit that has been read is kept, and logged. -/
theorem keep (sound : Sound (u :: pending) a) (fits : Fits a) (read : u ∈ a.2.2.read)
    (named : unit.identifier = u) (verbose : Bool) (s : σ) :
    Grown verbose (u :: pending) a ({ a.1 with units := a.1.units.set u unit }, s,
      a.2.2.logs (if verbose then [resolvedLine unit] else [])) [] [unit] where
  read := (List.append_nil _).symm
  logged := rfl
  bound := rfl
  kept c other found := by
    have differs : c ≠ u := by
      rintro rfl
      cases found.symm.trans (sound.missing c List.mem_cons_self)
    exact (sound.find?_set fits read unit differs).trans found
  fresh := List.forall_mem_nil _
  builds := by
    refine List.forall_mem_singleton.mpr ⟨?_, ?_⟩
    · rw [named]
      exact sound.missing u List.mem_cons_self
    · rw [named]
      exact Cache.find?_set_self _ _ _
  distinct := List.nodup_singleton _

/-- Once the unit is kept, it is no longer pending. Everything that has been read since it was begun
is kept, if all that has been read inside it is. -/
theorem finish {s : σ} (grown : Grown verbose (unit.identifier :: pending)
      (a.1, s, a.2.2.reads unit.identifier) b new built)
    (missing : a.1.units.find? unit.identifier = none) (free : unit.identifier ∉ pending)
    (sound : Sound (unit.identifier :: pending) b) (fits : Fits b)
    (kept : ∀ c ∈ new, b.1.units.contains c)
    (last : z.1 = { b.1 with units := b.1.units.set unit.identifier unit })
    (usage : z.2.2 = b.2.2.logs (if verbose then [resolvedLine unit] else [])) :
    Sound pending z ∧ Grown verbose pending a z (unit.identifier :: new) (built ++ [unit]) ∧
      (∀ c ∈ unit.identifier :: new, z.1.units.contains c) ∧ KeepsAll z.1 [unit] := by
  obtain ⟨m, t, account⟩ := z
  cases last
  cases usage
  have read : unit.identifier ∈ b.2.2.read := by
    rw [grown.read]
    exact List.mem_append_left _ (List.mem_append_right _ List.mem_cons_self)
  have step := Grown.keep sound fits read rfl verbose t
  have itself := Cache.find?_set_self b.1.units unit.identifier unit
  refine ⟨sound.keep fits read rfl free t _, ?_, ?_, List.forall_mem_singleton.mpr itself⟩
  · have both := (grown.trans step).enclose missing free
    rwa [List.append_nil] at both
  · refine List.forall_mem_cons.mpr ⟨Option.isSome_iff_exists.mpr ⟨unit, itself⟩, ?_⟩
    intro c member
    obtain ⟨other, found⟩ := Option.isSome_iff_exists.mp (kept c member)
    exact Option.isSome_iff_exists.mpr ⟨other, step.kept c other found⟩

end Grown

end Library

end UnitResolution
