import UnitResolution.Proofs.Library.Walk

/-!
# Histories

A library that is in use has been called before, for units and for programs
(`UnitResolution.Library.Reader.after`). Whatever the calls were and wherever they were interrupted,
its memory is coherent (`UnitResolution.Library.Reader.coherent_after`).
-/

namespace UnitResolution.Library

/-- A call of a library. -/
inductive Call
  /-- For the unit of an identifier. -/
  | library (identifier : String)
  /-- For the program of an entry. -/
  | program (entry : String)
  deriving Repr, DecidableEq

namespace Reader

variable {σ : Type}

/-- The state after a call. An interrupted call leaves what it has changed until then. -/
def perform (r : Reader σ) (state : Memory × σ) : Call → Memory × σ
  | .library identifier => (resolveLibrary r identifier state).2
  | .program entry => (resolveProgram r entry state).2

/-- The state after several calls. -/
def after (r : Reader σ) (calls : List Call) (state : Memory × σ) : Memory × σ :=
  calls.foldl r.perform state

/-- The state of a library before its first call. -/
def fresh (bound : Int) (s : σ) : Memory × σ := (.empty bound, s)

/-- What a library answers for a unit after several calls. -/
def answerAfter (r : Reader σ) (bound : Int) (s : σ) (calls : List Call) (u : String) :
    Except Interruption (Except Report LibraryUnit) :=
  (resolveLibrary r u (r.after calls (fresh bound s))).1

/-- What a library answers for the program of an entry after several calls. -/
def programAfter (r : Reader σ) (bound : Int) (s : σ) (calls : List Call) (entry : String) :
    Except Interruption (Except Report Program) :=
  (resolveProgram r entry (r.after calls (fresh bound s))).1

variable {r : Reader σ} {sources : Sources} {state : Memory × σ}

theorem after_cons (r : Reader σ) (call : Call) (rest : List Call) (state : Memory × σ) :
    r.after (call :: rest) state = r.after rest (r.perform state call) :=
  rfl

theorem coherent_perform (coherent : r.Coherent sources state.1)
    (serves : r.surroundings.Serves state.2 sources) (call : Call) :
    r.Coherent sources (r.perform state call).1 ∧
      r.Course sources (fun _ => True) state (r.perform state call) := by
  cases call with
  | library identifier =>
      obtain ⟨_, after, course⟩ := ensures_resolveLibrary identifier _ _ coherent serves
      exact ⟨after, course.mono fun _ _ => trivial⟩
  | program entry =>
      obtain ⟨_, after, course⟩ := ensures_resolveProgram entry _ _ coherent serves
      exact ⟨after, course.mono fun _ _ => trivial⟩

/-- Calls keep memories coherent. -/
theorem coherent_after (coherent : r.Coherent sources state.1)
    (serves : r.surroundings.Serves state.2 sources) (calls : List Call) :
    r.Coherent sources (r.after calls state).1 ∧
      r.Course sources (fun _ => True) state (r.after calls state) := by
  induction calls generalizing state with
  | nil => exact ⟨coherent, .refl⟩
  | cons call rest ih =>
      obtain ⟨coherent, course⟩ := coherent_perform coherent serves call
      obtain ⟨coherent, further⟩ := ih coherent (serves.later course.surroundings)
      exact ⟨coherent, course.trans further⟩

/-- Of a library that has been called for anything before, what an operation ensures holds. -/
theorem Ensures.after {α : Type} {asked : String → Prop} {x : Operation σ α}
    {post : Except Interruption α → Prop} (ensures : r.Ensures sources asked x post) {s : σ}
    (serves : r.surroundings.Serves s sources) (bound : Int) (calls : List Call) :
    post (x (r.after calls (fresh bound s))).1 ∧
      r.Course sources asked (r.after calls (fresh bound s))
        (x (r.after calls (fresh bound s))).2 := by
  obtain ⟨coherent, before⟩ : r.Coherent sources (r.after calls (fresh bound s)).1 ∧
      r.Course sources (fun _ => True) (fresh bound s) (r.after calls (fresh bound s)) :=
    coherent_after (coherent_empty bound) serves calls
  obtain ⟨holds, _, course⟩ := ensures _ _ coherent (serves.later before.surroundings)
  exact ⟨holds, course⟩

end Reader

/-- What has been found, if an operation has neither been interrupted nor failed. -/
def found? {α : Type} : Except Interruption (Except Report α) → Option α
  | .ok (.ok a) => some a
  | _ => none

theorem found?_eq_some {α : Type} {a : α} {o : Except Interruption (Except Report α)}
    (found : found? o = some a) : o = .ok (.ok a) := by
  unfold found? at found
  split at found
  · cases found
    rfl
  · cases found

end UnitResolution.Library
