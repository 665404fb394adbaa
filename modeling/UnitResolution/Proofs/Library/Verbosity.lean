import UnitResolution.Proofs.Library.Locality

/-!
# Verbosity of a library

What a library answers does not depend on what it logs, nor on where that goes. Two libraries with
the same inference, the same depth limit and the same sources answer the same for a program
(`UnitResolution.Library.Reader.resolveProgram_eq_of_serves`), be one of them verbose or not.

Both are compared with libraries that log nothing. That the log does not matter is a case of
locality, with all sources the same. And where nothing is logged, nobody can tell whether a library
is verbose (`UnitResolution.Library.Reader.Interchangeable`).
-/

namespace UnitResolution

open Library

variable {σ τ : Type}

namespace Surroundings

variable {w : Surroundings σ} {s t : σ}

/-- The surroundings, with a log that stays as it is. -/
def silent (w : Surroundings σ) : Surroundings σ where
  source := w.source
  log _ s := s

theorem Course.of_silent {asked : String → Prop} (course : w.silent.Course asked s t) :
    w.Course asked s t := by
  induction course with
  | refl => exact .refl
  | source identifier _ permitted ih => exact .source identifier ih permitted
  | log _ _ ih => exact ih

theorem Serves.silent {sources : Sources} (serves : w.Serves s sources) :
    w.silent.Serves s sources :=
  fun t course => serves t course.of_silent

end Surroundings

namespace Library.Reader

/-- Two libraries above the same surroundings differ in nothing that reading depends on. -/
structure Interchangeable (r other : Reader σ) : Prop where
  inference : r.configuration.inference = other.configuration.inference
  depthLimit : r.depthLimit = other.depthLimit
  source : r.surroundings.source = other.surroundings.source
  log : Library.logResolved r = Library.logResolved other

namespace Interchangeable

variable {r other : Reader σ} (same : r.Interchangeable other)
include same

theorem resolveUnit (depth : Nat) :
    Library.resolveUnit r depth = Library.resolveUnit other depth := by
  induction depth with
  | zero => rfl
  | succ depth ih =>
      funext pending identifier
      simp only [Library.resolveUnit, ih, same.inference, same.depthLimit, same.source, same.log]

theorem resolveImport : Library.resolveImport r = Library.resolveImport other := by
  funext imported
  rw [Library.resolveImport, Library.resolveImport, same.depthLimit, same.resolveUnit]

theorem visitImports (visit : LibraryUnit → Walk → Operation σ Walk) (unit : String)
    (list : List String) (w : Walk) :
    Library.visitImports r visit unit list w = Library.visitImports other visit unit list w := by
  induction list generalizing w with
  | nil => rfl
  | cons imported rest ih => simp only [Library.visitImports, ih, same.resolveImport]

theorem visitUnit (depth : Nat) : Library.visitUnit r depth = Library.visitUnit other depth := by
  induction depth with
  | zero => rfl
  | succ depth ih =>
      funext unit w
      simp only [Library.visitUnit, ih, same.visitImports]

theorem resolveProgram : Library.resolveProgram r = Library.resolveProgram other := by
  funext entry
  simp only [Library.resolveProgram, Library.resolveLibrary, same.depthLimit, same.resolveUnit,
    same.visitUnit]

end Interchangeable

/-- Where nothing is logged, a library that is verbose can take the place of one that is not. -/
theorem interchangeable_silent {r : Reader σ} {other : Reader τ}
    (inference : r.configuration.inference = other.configuration.inference)
    (depthLimit : r.depthLimit = other.depthLimit) (w : Surroundings τ) :
    (r.above w.silent).Interchangeable (other.above w.silent) where
  inference := inference
  depthLimit := depthLimit
  source := rfl
  log := by
    have logs (x : Reader τ) (silent : x.surroundings = w.silent) (unit : LibraryUnit) :
        logResolved x unit = pure () := by
      funext state
      simp only [logResolved, silent, Surroundings.silent, ite_self]
      rfl
    funext unit
    rw [logs _ rfl, logs _ rfl]

/-- All sources that are the same agree on everything. -/
theorem agreeOn_univ (sources : Sources) : sources.AgreeOn sources Set.univ where
  same _ _ := rfl
  closed _ _ _ _ _ _ := trivial

/-- The answer for a program is decided by the inference, the depth limit and the sources of a
library, whatever it logs. -/
theorem resolveProgram_eq_of_serves {r : Reader σ} {other : Reader τ} {s : σ} {t : τ}
    {sources : Sources} (inference : r.configuration.inference = other.configuration.inference)
    (depthLimit : r.depthLimit = other.depthLimit) (serves : r.surroundings.Serves s sources)
    (serves' : other.surroundings.Serves t sources) (bound : Int) (entry : String) :
    (resolveProgram r entry (fresh bound s)).1 =
      (resolveProgram other entry (fresh bound t)).1 := by
  have same {υ : Type} (x : Reader υ) {u : υ} (has : x.surroundings.Serves u sources) :
      (resolveProgram x entry (fresh bound u)).1 =
        (resolveProgram (x.above other.surroundings.silent) entry (fresh bound t)).1 := by
    have abreast : Abreast x other.surroundings.silent sources sources Set.univ (fresh bound u)
        (fresh bound t) := ⟨rfl, ⟨nofun, nofun⟩, has, serves'.silent⟩
    exact (Together.resolveProgram (agreeOn_univ sources) (Set.mem_univ entry) _ _ abreast).1.eq
  have swapped := interchangeable_silent inference depthLimit other.surroundings
  rw [same r serves, same other serves', swapped.resolveProgram]

end Library.Reader

/-- Two new libraries that read through contexts with the same sources answer the same for a program
if they infer alike. -/
theorem Session.resolveProgram_eq_of_sources [Host] {s t : Session}
    {configuration other : Configuration} (inference : configuration.inference = other.inference)
    (sources : s.scene.sources = t.scene.sources) {bound : Int} (fresh : s.memory = .empty bound)
    (fresh' : t.memory = .empty bound) (entry : String) :
    (Session.resolveProgram (.inference configuration) entry s).1 =
      (Session.resolveProgram (.inference other) entry t).1 := by
  obtain ⟨scene, memory⟩ := s
  obtain ⟨scene', memory'⟩ := t
  subst fresh fresh'
  have serves : Scene.surroundings.Serves scene' scene.sources := by
    rw [sources]
    exact scene'.serves
  have answers : (reader configuration).configuration.inference =
      (reader other).configuration.inference := inference
  exact Library.Reader.resolveProgram_eq_of_serves answers rfl scene.serves serves bound entry

end UnitResolution
