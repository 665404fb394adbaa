import UnitResolution.Proofs.Context.Inspection

/-!
# The life of a context

A context is used by a sequence of calls, of which each one is answered and may change the context
(`UnitResolution.Life.step`). Next to the context, a `Life` keeps what lies outside of it, which
hooks can change, and which hooks have been invoked.

What a call does to a life is listed once (`UnitResolution.Life.Performs`), for lives in which the
stage of the context agrees with its parts (`UnitResolution.Life.Sound`). A new context is such a
life, and every call keeps it one. The theorem `UnitResolution.Life.lifecycle` collects what holds
of every sequence of calls: stages only follow one another, parts are fixed from the first use on,
one hook is invoked at most, and a refused call changes nothing.
-/

namespace UnitResolution

variable {η ρ σ : Type}

/-! ## Stages and calls -/

/-- How far a stage has come. -/
def Stage.rank : Stage → Nat
  | unconfigured => 0
  | configured => 1
  | «sealed» => 2
  | disposed => 3

theorem Stage.eq_disposed_of_rank_le {stage : Stage} (last : Stage.disposed.rank ≤ stage.rank) :
    stage = .disposed := by
  cases stage <;> simp [rank] at last ⊢

/-- The resolvers of a chain without the layouts that they have discovered. -/
def Chain.bare (c : Chain) : List Resolver := c.resolvers.map Resolver.undiscovered

/-- A call of one of the operations of a context. -/
inductive Call (η : Type)
  | attachChain (chain : Chain)
  | attachHook (hook : η)
  | resolve (disk : Disk) (identifier : String)
  | libraryResolver
  | dispose

/-- Whether a call uses the parts of a context. -/
def Call.isUse : Call η → Bool
  | resolve .. | libraryResolver => true
  | _ => false

/-- What a call answers. -/
inductive Reply (ρ : Type)
  | attached (result : Except Refusal Unit)
  | source (answer : Answer (Except Diagnostic Source))
  | library (result : Except Refusal ρ)
  | disposed

namespace Reply

/-- The diagnostic in an answer. -/
def diagnostic? : Reply ρ → Option Diagnostic
  | attached (.error refusal) => some refusal.diagnostic
  | source ⟨.ok (.error d), _⟩ => some d
  | library (.error refusal) => some refusal.diagnostic
  | _ => none

/-- The code of the diagnostic in an answer. -/
def code? (r : Reply ρ) : Option String := r.diagnostic?.map Diagnostic.code

/-- The call has been refused because of the stage of the context. -/
def IsRefused (r : Reply ρ) : Prop := ∃ code ∈ ["UG3001", "UG3002", "UG3003"], r.code? = some code

end Reply

/-- Every refusal has one of these codes. -/
theorem Refusal.code_mem (refusal : Refusal) :
    refusal.diagnostic.code ∈ ["UG3001", "UG3002", "UG3003"] := by
  cases refusal <;> simp [diagnostic, Diagnostic.error, Diagnostic.Code.name]

theorem Reply.isRefused_of_diagnostic {reply : Reply ρ} {refusal : Refusal}
    (told : reply.diagnostic? = some refusal.diagnostic) : reply.IsRefused :=
  ⟨_, refusal.code_mem, by rw [code?, told, Option.map_some]⟩

/-- No resolver answers with the code of a refusal. -/
theorem SourceFault.code_not_mem (fault : SourceFault) (identifier : String) :
    (fault.diagnostic identifier).code ∉ ["UG3001", "UG3002", "UG3003"] := by
  cases fault with
  | packagePath fault =>
      cases fault <;> simp [diagnostic, notFound, Diagnostic.error, Diagnostic.Code.name]
  | layout fault =>
      cases fault <;>
        simp [diagnostic, Layout.Fault.diagnostic, Diagnostic.error, Diagnostic.Code.name]
  | _ => simp [diagnostic, notFound, Diagnostic.error, Diagnostic.Code.name]

namespace Context

/-- Why a context refuses a call. -/
def refusal? (c : Context η ρ) : Call η → Option Refusal
  | .attachChain _ => c.whyFixed .chain
  | .attachHook _ => c.whyFixed .hook
  | .resolve .. | .libraryResolver =>
      match c.use.1 with
      | .error refusal => some refusal
      | .ok _ => none
  | .dispose => none

theorem use_cases (c : Context η ρ) :
    (∃ refusal, c.use = (.error refusal, c)) ∨ ∃ chain, c.chain = some chain ∧
      (c.stage = .configured ∨ c.stage = .sealed) ∧
      c.use = (.ok chain, { c with stage := .sealed }) := by
  obtain ⟨options, stage, chain, hook, made⟩ := c
  cases chain with
  | none => cases stage <;> exact .inl ⟨_, rfl⟩
  | some chain =>
      cases stage with
      | unconfigured => exact .inl ⟨_, rfl⟩
      | disposed => exact .inl ⟨_, rfl⟩
      | configured => exact .inr ⟨chain, rfl, .inl rfl, rfl⟩
      | «sealed» => exact .inr ⟨chain, rfl, .inr rfl, rfl⟩

theorem whyFixed_eq_none_iff (c : Context η ρ) (part : Part) :
    c.whyFixed part = none ↔ c.stage = .unconfigured ∨ c.stage = .configured := by
  unfold whyFixed
  cases c.stage <;> simp

theorem hook_updateStage (c : Context η ρ) : c.updateStage.hook = c.hook := by
  unfold updateStage
  split <;> rfl

theorem updateStage_of_complete {c : Context η ρ} (chain : c.chain.isSome) (hook : c.hook.isSome) :
    c.updateStage = { c with stage := .configured } := by
  simp [updateStage, chain, hook]

theorem updateStage_of_incomplete {c : Context η ρ} (missing : c.chain = none ∨ c.hook = none) :
    c.updateStage = c := by
  rcases missing with missing | missing <;> simp [updateStage, missing]

end Context

/-! ## Lives -/

/-- A context together with what lies outside of it. -/
structure Life (σ η ρ : Type) where
  context : Context η ρ
  outside : σ
  /-- The hooks that have been invoked, with what they have made. -/
  invocations : List (η × ρ) := []

namespace Life

/-- The life of a new context. -/
def start (options : AnalysisOptions) (outside : σ) : Life σ η ρ :=
  { context := { options }, outside }

/-- Invoke a hook, and take down that it has been invoked. -/
def invoking (invoke : η → StateM σ ρ) (hook : η) : StateM (σ × List (η × ρ)) ρ := fun world =>
  let (made, outside) := invoke hook world.1
  (made, outside, world.2 ++ [(hook, made)])

section

variable [Host]

/-- The answer to a call, and the life afterwards. Invoking a hook is `invoke`, which can change
what lies outside of the context, but not the context. -/
def step (invoke : η → StateM σ ρ) (life : Life σ η ρ) : Call η → Reply ρ × Life σ η ρ
  | .attachChain chain =>
      let (result, context) := life.context.attachChain chain
      (.attached result, { life with context })
  | .attachHook hook =>
      let (result, context) := life.context.attachHook hook
      (.attached result, { life with context })
  | .resolve disk identifier =>
      let (answer, context) := life.context.resolve disk identifier
      (.source answer, { life with context })
  | .libraryResolver =>
      let ((result, context), outside, invocations) :=
        life.context.libraryResolver (m := StateM (σ × List (η × ρ))) (invoking invoke)
          (life.outside, life.invocations)
      (.library result, { context, outside, invocations })
  | .dispose => (.disposed, { life with context := life.context.dispose })

/-- The life after a sequence of calls. -/
def after (invoke : η → StateM σ ρ) (life : Life σ η ρ) (calls : List (Call η)) : Life σ η ρ :=
  calls.foldl (fun life call => (life.step invoke call).2) life

variable {invoke : η → StateM σ ρ} {life next : Life σ η ρ} {call : Call η} {reply : Reply ρ}

/-- The stage of the context agrees with its parts and with what has been invoked. -/
structure Sound (life : Life σ η ρ) : Prop where
  complete : life.context.stage = .configured ∨ life.context.stage = .sealed →
    life.context.chain.isSome ∧ life.context.hook.isSome
  incomplete : life.context.stage = .unconfigured →
    life.context.chain = none ∨ life.context.hook = none
  made : ∀ made, life.context.made = some made → life.context.stage = .sealed ∧
    ∃ hook, life.context.hook = some hook ∧ life.invocations = [(hook, made)]
  uninvoked : life.context.stage ≠ .disposed → life.context.made = none → life.invocations = []
  once : life.invocations.length ≤ 1

omit [Host] in
theorem Sound.start (options : AnalysisOptions) (outside : σ) :
    (Life.start options outside : Life σ η ρ).Sound where
  complete := by
    rintro (impossible | impossible) <;> cases impossible
  incomplete _ := .inl rfl
  made := nofun
  uninvoked _ _ := rfl
  once := Nat.zero_le 1

/-! ## What a call does -/

/-- What a call of a sound life does: its answer, and the life afterwards. -/
inductive Performs (invoke : η → StateM σ ρ) (life : Life σ η ρ) :
    Call η → Reply ρ → Life σ η ρ → Prop
  | refused {call : Call η} {reply : Reply ρ} {refusal : Refusal}
      (refuses : life.context.refusal? call = some refusal)
      (told : reply.diagnostic? = some refusal.diagnostic) : Performs invoke life call reply life
  | attachChain {chain : Chain}
      (mutable : life.context.stage = .unconfigured ∨ life.context.stage = .configured) :
      Performs invoke life (.attachChain chain) (.attached (.ok ()))
        { life with context := Context.updateStage { life.context with chain := some chain } }
  | attachHook {hook : η}
      (mutable : life.context.stage = .unconfigured ∨ life.context.stage = .configured) :
      Performs invoke life (.attachHook hook) (.attached (.ok ()))
        { life with context := Context.updateStage { life.context with hook := some hook } }
  | resolve {disk : Disk} {identifier : String} {chain : Chain}
      {answer : Answer (Except Diagnostic Source)}
      (ready : life.context.stage = .configured ∨ life.context.stage = .sealed)
      (known : life.context.chain = some chain)
      (answers : answer.outcome = (chain.resolve disk identifier).1.outcome.map fun found =>
        found.mapError (SourceFault.diagnostic identifier)) :
      Performs invoke life (.resolve disk identifier) (.source answer)
        { life with context := { life.context with
          stage := .sealed, chain := some (chain.resolve disk identifier).2 } }
  | library {made : ρ}
      (ready : life.context.stage = .configured ∨ life.context.stage = .sealed)
      (earlier : life.context.made = some made) :
      Performs invoke life .libraryResolver (.library (.ok made))
        { life with context := { life.context with stage := .sealed } }
  | invoke {hook : η}
      (ready : life.context.stage = .configured ∨ life.context.stage = .sealed)
      (unmade : life.context.made = none) (known : life.context.hook = some hook) :
      Performs invoke life .libraryResolver (.library (.ok (invoke hook life.outside).1))
        { context := { life.context with
            stage := .sealed, made := some (invoke hook life.outside).1 }
          outside := (invoke hook life.outside).2
          invocations := life.invocations ++ [(hook, (invoke hook life.outside).1)] }
  | dispose : Performs invoke life .dispose .disposed { life with context := life.context.dispose }

theorem performs_attachChain (chain : Chain) :
    life.Performs invoke (.attachChain chain) (life.step invoke (.attachChain chain)).1
      (life.step invoke (.attachChain chain)).2 := by
  cases fixed : life.context.whyFixed .chain with
  | some refusal =>
      simp only [step, Context.attachChain, fixed]
      exact .refused fixed rfl
  | none =>
      simp only [step, Context.attachChain, fixed]
      exact .attachChain ((Context.whyFixed_eq_none_iff _ _).mp fixed)

theorem performs_attachHook (hook : η) :
    life.Performs invoke (.attachHook hook) (life.step invoke (.attachHook hook)).1
      (life.step invoke (.attachHook hook)).2 := by
  cases fixed : life.context.whyFixed .hook with
  | some refusal =>
      simp only [step, Context.attachHook, fixed]
      exact .refused fixed rfl
  | none =>
      simp only [step, Context.attachHook, fixed]
      exact .attachHook ((Context.whyFixed_eq_none_iff _ _).mp fixed)

theorem performs_resolve (disk : Disk) (identifier : String) :
    life.Performs invoke (.resolve disk identifier) (life.step invoke (.resolve disk identifier)).1
      (life.step invoke (.resolve disk identifier)).2 := by
  rcases life.context.use_cases with ⟨refusal, used⟩ | ⟨chain, known, ready, used⟩
  · simp only [step, Context.resolve, used]
    exact .refused (by simp [Context.refusal?, used]) rfl
  · simp only [step, Context.resolve, used]
    exact .resolve ready known rfl

/-- A sound life has a hook wherever it has to be invoked. -/
theorem Sound.performs_libraryResolver (sound : life.Sound) :
    life.Performs invoke .libraryResolver (life.step invoke .libraryResolver).1
      (life.step invoke .libraryResolver).2 := by
  rcases life.context.use_cases with ⟨refusal, used⟩ | ⟨chain, known, ready, used⟩
  · simp only [step, Context.libraryResolver, used]
    exact .refused (by simp [Context.refusal?, used]) rfl
  · obtain ⟨hook, attached⟩ := Option.isSome_iff_exists.mp (sound.complete ready).2
    obtain ⟨⟨options, stage, chain', hook', made⟩, outside, invocations⟩ := life
    subst known attached
    simp only [step, Context.libraryResolver, used]
    cases made with
    | some made => exact .library ready rfl
    | none => exact .invoke ready rfl rfl

theorem Sound.performs (sound : life.Sound) (invoke : η → StateM σ ρ) (call : Call η) :
    life.Performs invoke call (life.step invoke call).1 (life.step invoke call).2 := by
  cases call with
  | attachChain chain => exact performs_attachChain chain
  | attachHook hook => exact performs_attachHook hook
  | resolve disk identifier => exact performs_resolve disk identifier
  | libraryResolver => exact sound.performs_libraryResolver
  | dispose => exact .dispose

/-! ## What every call keeps -/

omit [Host] in
/-- As long as parts can be attached, nothing has been made. -/
theorem Sound.made_eq_none (sound : life.Sound)
    (mutable : life.context.stage = .unconfigured ∨ life.context.stage = .configured) :
    life.context.made = none := by
  by_contra present
  obtain ⟨made, earlier⟩ := Option.ne_none_iff_exists'.mp present
  have used := (sound.made made earlier).1
  rw [used] at mutable
  rcases mutable with impossible | impossible <;> cases impossible

omit [Host] in
/-- A sound life stays one when a part is attached. -/
theorem Sound.attach {c : Context η ρ} (sound : life.Sound)
    (mutable : life.context.stage = .unconfigured ∨ life.context.stage = .configured)
    (stage : c.stage = life.context.stage) (made : c.made = life.context.made)
    (chain : life.context.chain.isSome → c.chain.isSome)
    (hook : life.context.hook.isSome → c.hook.isSome) :
    Life.Sound { life with context := c.updateStage } := by
  have unmade := made.trans (sound.made_eq_none mutable)
  have idle : life.invocations = [] := by
    apply sound.uninvoked _ (sound.made_eq_none mutable)
    intro ended
    rw [ended] at mutable
    rcases mutable with impossible | impossible <;> cases impossible
  by_cases both : c.chain.isSome ∧ c.hook.isSome
  · rw [Context.updateStage_of_complete both.1 both.2]
    refine ⟨fun _ => both, nofun, ?_, fun _ _ => idle, sound.once⟩
    intro _ impossible
    cases unmade.symm.trans impossible
  · have missing : c.chain = none ∨ c.hook = none := by
      simp only [Option.isSome_iff_ne_none] at both
      tauto
    rw [Context.updateStage_of_incomplete missing]
    refine ⟨?_, fun _ => missing, ?_, fun _ _ => idle, sound.once⟩
    · intro complete
      rw [stage] at complete
      have before := sound.complete complete
      exact ⟨chain before.1, hook before.2⟩
    · intro _ impossible
      cases unmade.symm.trans impossible

namespace Performs

variable (performs : life.Performs invoke call reply next)

include performs

theorem sound (sound : life.Sound) : next.Sound := by
  cases performs with
  | refused => exact sound
  | attachChain mutable => exact sound.attach mutable rfl rfl (fun _ => rfl) id
  | attachHook mutable => exact sound.attach mutable rfl rfl id fun _ => rfl
  | resolve ready known =>
      refine ⟨fun _ => ⟨rfl, (sound.complete ready).2⟩, nofun, ?_, ?_, sound.once⟩
      · intro made earlier
        exact ⟨rfl, (sound.made made earlier).2⟩
      · intro _ unmade
        apply sound.uninvoked _ unmade
        rcases ready with stage | stage <;> simp [stage]
  | library ready earlier =>
      refine ⟨fun _ => sound.complete ready, nofun, ?_, ?_, sound.once⟩
      · intro made earlier
        exact ⟨rfl, (sound.made made earlier).2⟩
      · intro _ unmade
        cases earlier.symm.trans unmade
  | @invoke hook ready unmade known =>
      have idle : life.invocations = [] := by
        apply sound.uninvoked _ unmade
        rcases ready with stage | stage <;> simp [stage]
      refine ⟨fun _ => sound.complete ready, nofun, ?_, ?_, ?_⟩
      · rintro _ ⟨⟩
        exact ⟨rfl, hook, known, by simp [idle]⟩
      · intro _ impossible
        cases impossible
      · simp [idle]
  | dispose =>
      refine ⟨?_, nofun, nofun, fun alive => absurd rfl alive, sound.once⟩
      rintro (impossible | impossible) <;> cases impossible

theorem rank_le : life.context.stage.rank ≤ next.context.stage.rank := by
  cases performs with
  | refused => exact Nat.le_refl _
  | attachChain mutable | attachHook mutable =>
      simp only [Context.updateStage]
      split
      · rcases mutable with stage | stage <;> simp [stage, Stage.rank]
      · exact Nat.le_refl _
  | resolve ready | library ready | invoke ready =>
      rcases ready with stage | stage <;> simp [stage, Stage.rank]
  | dispose => cases stage : life.context.stage <;> simp [Context.dispose, Stage.rank]

/-- The parts of a context that has been used stay the same. -/
theorem parts (used : Stage.sealed.rank ≤ life.context.stage.rank) :
    next.context.chain.map Chain.bare = life.context.chain.map Chain.bare ∧
      next.context.hook = life.context.hook := by
  cases performs with
  | refused | library | invoke | dispose => exact ⟨rfl, rfl⟩
  | attachChain mutable | attachHook mutable =>
      rcases mutable with stage | stage <;> simp [stage, Stage.rank] at used
  | resolve ready known =>
      refine ⟨?_, rfl⟩
      simp only [known, Option.map_some]
      exact congrArg some (Resolver.undiscovered_resolveBy _ _)

theorem invocations_prefix : life.invocations <+: next.invocations := by
  cases performs with
  | invoke => exact List.prefix_append _ _
  | _ => exact List.prefix_refl _

/-- Only a reason to refuse the call makes it refused, and nothing has happened then. -/
theorem refusal_of_isRefused (refused : reply.IsRefused) :
    (∃ refusal, life.context.refusal? call = some refusal) ∧ next = life := by
  obtain ⟨code, among, told⟩ := refused
  cases performs with
  | refused refuses => exact ⟨⟨_, refuses⟩, rfl⟩
  | @resolve disk identifier chain answer ready known answers =>
      exfalso
      obtain ⟨outcome, log⟩ := answer
      cases found : (chain.resolve disk identifier).1.outcome with
      | error i =>
          simp only [found, Except.map] at answers
          subst answers
          simp [Reply.code?, Reply.diagnostic?] at told
      | ok result =>
          simp only [found, Except.map] at answers
          subst answers
          cases result with
          | ok source => simp [Reply.code?, Reply.diagnostic?, Except.mapError] at told
          | error fault =>
              -- this is the diagnostic of a resolver
              simp only [Reply.code?, Reply.diagnostic?, Except.mapError, Option.map_some,
                Option.some.injEq] at told
              subst told
              exact fault.code_not_mem identifier among
  | _ => simp [Reply.code?, Reply.diagnostic?] at told

theorem ended (stage : life.context.stage = .disposed) (other : call ≠ .dispose) :
    reply.diagnostic? = some Refusal.ended.diagnostic := by
  cases performs with
  | refused refuses told =>
      rw [told]
      cases call <;>
        simp_all [Context.refusal?, Context.whyFixed, Context.use]
  | attachChain mutable | attachHook mutable => simp [stage] at mutable
  | resolve ready | library ready | invoke ready => simp [stage] at ready
  | dispose => exact absurd rfl other

theorem not_isRefused (sound : life.Sound) (stage : life.context.stage = .sealed)
    (use : call.isUse) : ¬ reply.IsRefused := by
  intro refused
  obtain ⟨⟨refusal, refuses⟩, _⟩ := performs.refusal_of_isRefused refused
  obtain ⟨chain, known⟩ := Option.isSome_iff_exists.mp (sound.complete (.inr stage)).1
  cases call <;> simp_all [Context.refusal?, Context.use, Call.isUse]

theorem made_of_library {made : ρ} (looked : reply = .library (.ok made)) :
    next.context.made = some made ∧ next.context.hook = life.context.hook := by
  cases performs with
  | refused _ told =>
      subst looked
      cases told
  | library ready earlier =>
      cases looked
      exact ⟨earlier, rfl⟩
  | invoke =>
      cases looked
      exact ⟨rfl, rfl⟩
  | _ => cases looked

/-- Unless it is refused, a use leaves a used context. -/
theorem sealed_of_use (use : call.isUse) (accepted : ¬ reply.IsRefused) :
    next.context.stage = .sealed := by
  cases performs with
  | refused _ told => exact absurd (Reply.isRefused_of_diagnostic told) accepted
  | resolve | library | invoke => rfl
  | attachChain | attachHook | dispose => cases use

omit performs in
theorem chain_of_attach {chain : Chain}
    (performs : life.Performs invoke (.attachChain chain) reply next)
    (accepted : ¬ reply.IsRefused) : next.context.chain = some chain := by
  cases performs with
  | refused _ told => exact absurd (Reply.isRefused_of_diagnostic told) accepted
  | attachChain => exact Context.chain_updateStage _

omit performs in
theorem hook_of_attach {hook : η} (performs : life.Performs invoke (.attachHook hook) reply next)
    (accepted : ¬ reply.IsRefused) : next.context.hook = some hook := by
  cases performs with
  | refused _ told => exact absurd (Reply.isRefused_of_diagnostic told) accepted
  | attachHook => exact Context.hook_updateStage _

omit performs in
/-- To dispose of a context is never refused. What has been made is given up. -/
theorem disposed (performs : life.Performs invoke .dispose reply next) :
    reply = .disposed ∧ next.context.stage = .disposed ∧ next.context.made = none := by
  cases performs with
  | refused refuses => cases refuses
  | dispose => exact ⟨rfl, rfl, rfl⟩

omit performs in
theorem stage_of_resolve {disk : Disk} {identifier : String}
    (performs : life.Performs invoke (.resolve disk identifier) reply next)
    (stage : life.context.stage = .sealed) : next.context.stage = .sealed := by
  cases performs with
  | refused => exact stage
  | resolve => rfl

end Performs

/-! ## Sequences of calls -/

theorem Sound.after (sound : life.Sound) (invoke : η → StateM σ ρ) (calls : List (Call η)) :
    (life.after invoke calls).Sound := by
  induction calls generalizing life with
  | nil => exact sound
  | cons call rest ih => exact ih ((sound.performs invoke call).sound sound)

theorem Sound.rank_le_after (sound : life.Sound) (invoke : η → StateM σ ρ)
    (calls : List (Call η)) :
    life.context.stage.rank ≤ (life.after invoke calls).context.stage.rank := by
  induction calls generalizing life with
  | nil => exact Nat.le_refl _
  | cons call rest ih =>
      have performs := sound.performs invoke call
      exact performs.rank_le.trans (ih (performs.sound sound))

theorem Sound.parts_after (sound : life.Sound)
    (used : Stage.sealed.rank ≤ life.context.stage.rank) (invoke : η → StateM σ ρ)
    (calls : List (Call η)) :
    (life.after invoke calls).context.chain.map Chain.bare = life.context.chain.map Chain.bare ∧
      (life.after invoke calls).context.hook = life.context.hook := by
  induction calls generalizing life with
  | nil => exact ⟨rfl, rfl⟩
  | cons call rest ih =>
      have performs := sound.performs invoke call
      obtain ⟨chain, hook⟩ := ih (performs.sound sound) (used.trans performs.rank_le)
      obtain ⟨chain', hook'⟩ := performs.parts used
      exact ⟨chain.trans chain', hook.trans hook'⟩

theorem Sound.prefix_after (sound : life.Sound) (invoke : η → StateM σ ρ)
    (calls : List (Call η)) :
    life.invocations <+: (life.after invoke calls).invocations := by
  induction calls generalizing life with
  | nil => exact List.prefix_refl _
  | cons call rest ih =>
      have performs := sound.performs invoke call
      exact performs.invocations_prefix.trans (ih (performs.sound sound))

/-- As many invocations as there can be. -/
theorem Sound.invocations_after (sound : life.Sound) {hook : η} {made : ρ}
    (invoked : life.invocations = [(hook, made)]) (invoke : η → StateM σ ρ)
    (calls : List (Call η)) :
    (life.after invoke calls).invocations = [(hook, made)] := by
  have kept := sound.prefix_after invoke calls
  have few := (sound.after invoke calls).once
  rw [invoked] at kept
  apply (kept.eq_of_length _).symm
  have many := kept.length_le
  simp only [List.length_singleton] at many ⊢
  omega

/-- A new context lives through any sequence of calls, with hooks that cannot reach it. Its stage
only moves forward, and agrees with its parts; from its first use on, its parts stay the same. A
part that is attached without a refusal stands in the context, a use seals it, and to dispose of it
always brings it to its end, where nothing is left of what has been made. One hook is invoked at
most, and every look at the resolver of libraries that succeeds yields what that one has made. At
its end the context refuses everything. A refused call changes nothing, and a resolution that fails
without being refused leaves a context that can be used like before. -/
theorem lifecycle (invoke : η → StateM σ ρ) (options : AnalysisOptions) (outside : σ)
    (before : List (Call η)) (call : Call η) (later : List (Call η)) :
    let life := (start options outside).after invoke before
    let (reply, next) := life.step invoke call
    let last := next.after invoke later
    life.context.stage.rank ≤ last.context.stage.rank ∧
    (life.context.stage = .configured ∨ life.context.stage = .sealed →
      life.context.chain.isSome ∧ life.context.hook.isSome) ∧
    (life.context.stage = .unconfigured →
      life.context.chain = none ∨ life.context.hook = none) ∧
    (∀ chain, call = .attachChain chain → ¬ reply.IsRefused → next.context.chain = some chain) ∧
    (∀ hook, call = .attachHook hook → ¬ reply.IsRefused → next.context.hook = some hook) ∧
    (call.isUse → ¬ reply.IsRefused → next.context.stage = .sealed) ∧
    (call = .dispose → reply = .disposed ∧ last.context.stage = .disposed ∧
      next.context.stage = .disposed ∧ next.context.made = none) ∧
    (Stage.sealed.rank ≤ life.context.stage.rank →
      last.context.chain.map Chain.bare = life.context.chain.map Chain.bare ∧
        last.context.hook = life.context.hook) ∧
    last.invocations.length ≤ 1 ∧
    (∀ made, reply = .library (.ok made) →
      ∃ hook, life.context.hook = some hook ∧ last.invocations = [(hook, made)]) ∧
    (life.context.stage = .disposed → call ≠ .dispose → reply.code? = some "UG3002") ∧
    (reply.IsRefused → next = life) ∧
    (life.context.stage = .sealed → ∀ disk identifier, call = .resolve disk identifier →
      next.context.stage = .sealed ∧
      (∀ use : Call η, use.isUse → ¬ (next.step invoke use).1.IsRefused) ∧
      ∀ other, (next.context.resolve disk other).1.outcome =
        (life.context.resolve disk other).1.outcome) := by
  intro life
  dsimp only
  have sound : life.Sound := (Sound.start options outside).after invoke before
  have performs := sound.performs invoke call
  have sound' := performs.sound sound
  have onwards := sound'.rank_le_after invoke later
  refine ⟨performs.rank_le.trans onwards, sound.complete, sound.incomplete, ?_, ?_,
    performs.sealed_of_use, ?_, ?_, (sound'.after invoke later).once, ?_, ?_, ?_, ?_⟩
  · rintro chain rfl
    exact performs.chain_of_attach
  · rintro hook rfl
    exact performs.hook_of_attach
  · rintro rfl
    obtain ⟨told, stage, unmade⟩ := performs.disposed
    rw [stage] at onwards
    exact ⟨told, Stage.eq_disposed_of_rank_le onwards, stage, unmade⟩
  · intro used
    obtain ⟨chain, hook⟩ := sound'.parts_after (used.trans performs.rank_le) invoke later
    exact ⟨chain.trans (performs.parts used).1, hook.trans (performs.parts used).2⟩
  · intro made looked
    -- what has been looked at is what the context keeps
    obtain ⟨kept, same⟩ := performs.made_of_library looked
    obtain ⟨hook, known, invoked⟩ := (sound'.made made kept).2
    exact ⟨hook, same.symm.trans known, sound'.invocations_after invoked invoke later⟩
  · intro stage other
    rw [Reply.code?, performs.ended stage other]
    rfl
  · intro refused
    exact (performs.refusal_of_isRefused refused).2
  · rintro stage disk identifier rfl
    have sealed' := performs.stage_of_resolve stage
    refine ⟨sealed', ?_, fun other => Context.resolve_resolve _⟩
    intro use isUse
    exact (sound'.performs invoke use).not_isRefused sound' sealed' isUse

end

/-- A chain and a hook are attached, and the resolver of libraries is looked at. -/
def attachAndLook : List (Call Nat) :=
  [.attachChain ⟨[.file], List.cons_ne_nil _ _⟩, .attachHook 5, .libraryResolver]

/-- After a resolution that fails, the hook is not invoked once more, and what it has made is still
there until the context is disposed. -/
theorem lifecycle_of_failing :
    let invoke : Nat → StateM Nat Nat := fun hook count => (hook + count, count + 1)
    let life := (start { cacheSize := 1 } 2).after invoke attachAndLook
    let failing := life.step invoke (.resolve {} "rt:core")
    let looking := failing.2.step invoke .libraryResolver
    life.context.stage = .sealed ∧ failing.1.code? = some "UG2002" ∧ ¬ looking.1.IsRefused ∧
      looking.1 = .library (.ok 7) ∧
      (looking.2.after invoke [.dispose, .libraryResolver]).invocations = [(5, 7)] ∧
      (looking.2.step invoke .dispose).2.context.made = none := by
  intro invoke life failing looking
  have stage : life.context.stage = .sealed := rfl
  have made : looking.1 = .library (.ok 7) := rfl
  refine ⟨stage, rfl, ?_, made, ?_, ?_⟩
  · obtain ⟨_, _, _, _, _, _, _, _, _, _, _, _, usable⟩ :=
      lifecycle invoke { cacheSize := 1 } 2 attachAndLook (.resolve {} "rt:core") []
    exact (usable stage {} "rt:core" rfl).2.1 .libraryResolver rfl
  · obtain ⟨_, _, _, _, _, _, _, _, _, once, _⟩ := lifecycle invoke { cacheSize := 1 } 2
      (attachAndLook ++ [.resolve {} "rt:core"]) .libraryResolver [.dispose, .libraryResolver]
    obtain ⟨hook, known, invoked⟩ := once 7 made
    cases known
    exact invoked
  · obtain ⟨_, _, _, _, _, _, disposed, _⟩ := lifecycle invoke { cacheSize := 1 } 2
      (attachAndLook ++ [.resolve {} "rt:core", .libraryResolver]) .dispose []
    exact (disposed rfl).2.2.2

end Life

end UnitResolution
