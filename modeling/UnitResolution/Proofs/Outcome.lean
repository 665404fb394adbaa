import Mathlib.Data.List.Basic

/-!
# Outcomes

What a computation that can fail comes to, seen from its result: each part of it has come to
something.

Seen from its parts, a computation satisfies a condition if they do. `UnitResolution.Outcomes` says
what that means in a monad, and `UnitResolution.Outcomes.foldlM` carries a condition on one step
along a whole row of steps.
-/

namespace UnitResolution

/-- What two computations come to one behind the other, the second one comes to with the result of
the first. -/
theorem bind_eq_ok {ε α β : Type} {x : Except ε α} {f : α → Except ε β} {b : β} :
    x >>= f = .ok b ↔ ∃ a, x = .ok a ∧ f a = .ok b := by
  cases x with
  | error e => exact iff_of_false nofun fun ⟨_, impossible, _⟩ => nomatch impossible
  | ok a =>
      constructor
      · exact fun done => ⟨a, rfl, done⟩
      · rintro ⟨_, ⟨⟩, done⟩
        exact done

/-- Where the second of two computations cannot fail, only the first one can. -/
theorem bind_eq_error_iff {ε α β : Type} {x : Except ε α} {f : α → Except ε β} {e : ε}
    (succeeds : ∀ a, ∃ b, f a = .ok b) : x >>= f = .error e ↔ x = .error e := by
  cases x with
  | error other => exact ⟨fun same => by cases same; rfl, fun same => by cases same; rfl⟩
  | ok a =>
      obtain ⟨b, done⟩ := succeeds a
      refine iff_of_false (fun failed => ?_) nofun
      cases done.symm.trans failed

theorem map_eq_ok {ε α β : Type} {x : Except ε α} {f : α → β} {b : β} :
    x.map f = .ok b ↔ ∃ a, x = .ok a ∧ f a = b := by
  cases x with
  | error e => exact iff_of_false nofun fun ⟨_, impossible, _⟩ => nomatch impossible
  | ok a =>
      constructor
      · exact fun done => ⟨a, rfl, Except.ok.inj done⟩
      · rintro ⟨_, ⟨⟩, rfl⟩
        rfl

theorem mapError_eq_ok_iff {ε δ α : Type} {x : Except ε α} {f : ε → δ} {a : α} :
    x.mapError f = .ok a ↔ x = .ok a := by
  cases x <;> simp [Except.mapError]

theorem mapError_eq_error_iff {ε δ α : Type} {x : Except ε α} {f : ε → δ} {d : δ} :
    x.mapError f = .error d ↔ ∃ e, x = .error e ∧ d = f e := by
  cases x with
  | ok a => exact iff_of_false nofun fun ⟨_, impossible, _⟩ => nomatch impossible
  | error e =>
      constructor
      · exact fun failed => ⟨e, rfl, (Except.error.inj failed).symm⟩
      · rintro ⟨_, ⟨⟩, rfl⟩
        rfl

theorem mem_of_mapM {α β ε : Type} {f : α → Except ε β} {list : List α} {found : List β}
    (done : list.mapM f = .ok found) {b : β} (member : b ∈ found) : ∃ a ∈ list, f a = .ok b := by
  induction list generalizing found with
  | nil =>
      rw [List.mapM_nil] at done
      cases done
      cases member
  | cons a rest ih =>
      rw [List.mapM_cons] at done
      obtain ⟨c, first, done⟩ := bind_eq_ok.mp done
      obtain ⟨more, others, same⟩ := bind_eq_ok.mp done
      cases same
      rcases List.mem_cons.mp member with rfl | member
      · exact ⟨a, List.mem_cons_self, first⟩
      · obtain ⟨d, among, same⟩ := ih others member
        exact ⟨d, List.mem_cons_of_mem a among, same⟩

/-- What it means in a monad that whatever a computation comes to satisfies a condition. It respects
what is done at once and what is done in a row. -/
structure Outcomes (m : Type → Type) [Monad m] where
  holds : {α : Type} → (α → Prop) → m α → Prop
  imp : ∀ {α : Type} {P Q : α → Prop} {x : m α}, holds P x → (∀ a, P a → Q a) → holds Q x
  protected pure : ∀ {α : Type} {P : α → Prop} {a : α}, P a → holds P (pure a)
  protected bind : ∀ {α β : Type} {P : α → Prop} {Q : β → Prop} {x : m α} {f : α → m β},
    holds P x → (∀ a, P a → holds Q (f a)) → holds Q (x >>= f)

namespace Outcomes

/-- An answer that satisfies a condition, or an error of a kind. -/
def IsAnswer {ε α : Type} (failed : ε → Prop) (P : α → Prop) : Except ε α → Prop
  | .ok a => P a
  | .error e => failed e

/-- Computations that can fail. -/
def answers {ε : Type} (failed : ε → Prop) : Outcomes (Except ε) where
  holds := IsAnswer failed
  imp {_ _ _ x} held weaker := by
    cases x with
    | ok a => exact weaker a held
    | error e => exact held
  pure held := held
  bind {_ _ _ _ x _} held next := by
    cases x with
    | ok a => exact next a held
    | error e => exact held

theorem holds_answers_iff {ε α : Type} {P : α → Prop} {x : Except ε α} :
    (answers fun _ => True).holds P x ↔ ∀ a, x = .ok a → P a := by
  cases x with
  | ok a =>
      constructor
      · rintro held _ ⟨⟩
        exact held
      · intro held
        exact held a rfl
  | error e => exact iff_of_true trivial nofun

/-- Computations that can fail and change a state, from whatever state they begin in. -/
def answersFrom {ε σ : Type} (failed : ε → Prop) : Outcomes (ExceptT ε (StateM σ)) where
  holds P x := ∀ s, IsAnswer failed P (x s).1
  imp held weaker s := (answers failed).imp (held s) weaker
  pure held _ := held
  bind {_ _ _ Q x f} held next s := by
    have first := held s
    change IsAnswer failed Q (ExceptT.bindCont f (x s).1 (x s).2).1
    cases outcome : (x s).1 with
    | ok a =>
        rw [outcome] at first
        exact next a first (x s).2
    | error e =>
        rw [outcome] at first
        exact first

section Steps

variable {m : Type → Type} [Monad m] (o : Outcomes m) {α β : Type} {step : β → α → m β}
  (list : List α) {start : β}

/-- What each step keeps, with the elements that come before it, holds of a row of steps. -/
theorem foldlM {P : List α → β → Prop}
    (keeps : ∀ before b, ∀ a ∈ list, P before b → o.holds (P (before ++ [a])) (step b a))
    (initial : P [] start) : o.holds (P list) (list.foldlM step start) := by
  suffices ∀ before b, P before b → o.holds (P (before ++ list)) (list.foldlM step b) from
    this [] start initial
  clear initial
  induction list with
  | nil =>
      intro before b held
      rw [List.append_nil]
      exact o.pure held
  | cons a rest ih =>
      intro before b held
      rw [List.foldlM_cons, List.append_cons]
      apply o.bind (keeps before b a List.mem_cons_self held)
      exact ih (fun before b a member => keeps before b a (List.mem_cons_of_mem _ member))
        (before ++ [a])

/-- What each step keeps, a row of steps keeps. -/
theorem foldlM_keeps {P : β → Prop} (keeps : ∀ b, ∀ a ∈ list, P b → o.holds P (step b a))
    (initial : P start) : o.holds P (list.foldlM step start) :=
  o.foldlM list (fun _ => keeps) initial (P := fun _ => P)

end Steps

end Outcomes

end UnitResolution
