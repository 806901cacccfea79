import Mathlib.Logic.Function.Basic
import Rkipc.Transition.System

namespace Rkipc.Transition

/-! Threads over one shared state and one mutex.  Each thread is a control point
and the program gives the instruction at every control point; the interleaving
of the instructions is free. -/

inductive Instruction (σ : Type u) (κ : Type v) (ι : Type w)
  | lock (next : κ)
  | unlock (next : κ)
  | act (effect : σ → ι → Option (σ × κ))

/-- The fields after `holds` say that `holds` marks exactly the control points
between a lock and its unlock. -/
structure Program (τ : Type t) (σ : Type u) (κ : Type v) (ι : Type w) where
  initial : σ → Prop
  entry : τ → κ
  code : τ → κ → Instruction σ κ ι
  holds : κ → Bool
  entry_holds : ∀ thread, holds (entry thread) = false
  lock_holds : ∀ {thread point next}, code thread point = .lock next →
    holds point = false ∧ holds next = true
  unlock_holds : ∀ {thread point next}, code thread point = .unlock next →
    holds point = true ∧ holds next = false
  act_holds : ∀ {thread point effect before choice after next},
    code thread point = .act effect →
    effect before choice = some (after, next) → holds next = holds point

structure Config (τ : Type t) (σ : Type u) (κ : Type v) where
  shared : σ
  owner : Option τ
  control : τ → κ

namespace Program

variable {τ : Type t} {σ : Type u} {κ : Type v} {ι : Type w} [DecidableEq τ]

def start (program : Program τ σ κ ι) (shared : σ) : Config τ σ κ where
  shared := shared
  owner := none
  control := program.entry

def step (program : Program τ σ κ ι) (config : Config τ σ κ) :
    τ × ι → Option (Config τ σ κ)
  | (thread, choice) =>
    match program.code thread (config.control thread) with
    | .lock next =>
        if config.owner = none then
          some { config with
            owner := some thread
            control := Function.update config.control thread next }
        else none
    | .unlock next =>
        if config.owner = some thread then
          some { config with
            owner := none
            control := Function.update config.control thread next }
        else none
    | .act effect =>
        (effect config.shared choice).map fun (after, next) =>
          { config with
            shared := after
            control := Function.update config.control thread next }

def system (program : Program τ σ κ ι) : System (Config τ σ κ) (τ × ι) where
  initial config := ∃ shared, program.initial shared ∧
    config = program.start shared
  step := program.step

variable {program : Program τ σ κ ι} {config after : Config τ σ κ}
  {thread : τ} {choice : ι}

/-- Everything one step can do. -/
inductive Moves (program : Program τ σ κ ι) (thread : τ) (choice : ι)
    (config : Config τ σ κ) : Config τ σ κ → Prop
  | acquire {next : κ}
      (code : program.code thread (config.control thread) = .lock next)
      (free : config.owner = none) :
      Moves program thread choice config { config with
        owner := some thread
        control := Function.update config.control thread next }
  | release {next : κ}
      (code : program.code thread (config.control thread) = .unlock next)
      (owned : config.owner = some thread) :
      Moves program thread choice config { config with
        owner := none
        control := Function.update config.control thread next }
  | act {effect : σ → ι → Option (σ × κ)} {shared : σ} {next : κ}
      (code : program.code thread (config.control thread) = .act effect)
      (effected : effect config.shared choice = some (shared, next)) :
      Moves program thread choice config { config with
        shared := shared
        control := Function.update config.control thread next }

theorem moves_of_step
    (stepped : program.step config (thread, choice) = some after) :
    program.Moves thread choice config after := by
  simp only [step] at stepped
  split at stepped
  next next code =>
    split at stepped
    next free =>
      cases stepped
      exact .acquire code free
    next => contradiction
  next next code =>
    split at stepped
    next owned =>
      cases stepped
      exact .release code owned
    next => contradiction
  next effect code =>
    obtain ⟨⟨shared, next⟩, effected, rfl⟩ :=
      Option.map_eq_some_iff.mp stepped
    exact .act code effected

theorem Moves.control_other (moves : program.Moves thread choice config after)
    {other : τ} (distinct : other ≠ thread) :
    after.control other = config.control other := by
  cases moves <;> exact Function.update_of_ne distinct _ _

/-- The owner of the mutex is the one thread inside a critical section. -/
def OwnerHolds (program : Program τ σ κ ι) (config : Config τ σ κ) : Prop :=
  ∀ thread, program.holds (config.control thread) = true ↔
    config.owner = some thread

theorem Moves.ownerHolds (moves : program.Moves thread choice config after)
    (exclusive : program.OwnerHolds config) : program.OwnerHolds after := by
  intro other
  by_cases same : other = thread
  · subst same
    cases moves with
    | acquire code _ => simp [program.lock_holds code]
    | release code _ => simp [program.unlock_holds code]
    | act code effected =>
        simpa [program.act_holds code effected] using exclusive other
  · rw [moves.control_other same, exclusive other]
    cases moves with
    | acquire _ free => simp [free, Ne.symm same]
    | release _ owned => simp [owned, Ne.symm same]
    | act _ _ => rfl

theorem ownerHolds_of_reachable {guard : Config τ σ κ → τ × ι → Prop}
    (reachable : program.system.Reachable guard config) :
    program.OwnerHolds config := by
  refine reachable.invariant ?_ ?_
  · rintro _ ⟨shared, _, rfl⟩ thread
    simp [start, program.entry_holds thread]
  · rintro before ⟨thread, choice⟩ after exclusive _ stepped
    exact (moves_of_step stepped).ownerHolds exclusive

/-- A proof outline: `idle` holds of the shared state whenever the mutex is free,
`busy` at the control point of its owner, and `ready` at the control point of
every other thread. -/
structure Outline (program : Program τ σ κ ι)
    (guard : Config τ σ κ → τ × ι → Prop) (idle : σ → Prop)
    (busy ready : τ → κ → σ → Prop) : Prop where
  start : ∀ shared, program.initial shared →
    idle shared ∧ ∀ thread, ready thread (program.entry thread) shared
  acquire : ∀ thread point next shared,
    program.code thread point = .lock next → idle shared →
    ready thread point shared → busy thread next shared
  release : ∀ thread point next shared,
    program.code thread point = .unlock next → busy thread point shared →
    idle shared ∧ ready thread next shared
  inside : ∀ config thread choice effect shared next,
    program.holds (config.control thread) = true →
    guard config (thread, choice) →
    program.code thread (config.control thread) = .act effect →
    effect config.shared choice = some (shared, next) →
    busy thread (config.control thread) config.shared →
    busy thread next shared
  outside : ∀ config thread choice effect shared next,
    program.holds (config.control thread) = false →
    guard config (thread, choice) →
    program.code thread (config.control thread) = .act effect →
    effect config.shared choice = some (shared, next) →
    ready thread (config.control thread) config.shared →
    ready thread next shared ∧
    (idle config.shared → idle shared) ∧
      ∀ owner point, owner ≠ thread → program.holds point = true →
        busy owner point config.shared → busy owner point shared
  undisturbed : ∀ config thread choice effect shared next other point,
    guard config (thread, choice) →
    program.code thread (config.control thread) = .act effect →
    effect config.shared choice = some (shared, next) → other ≠ thread →
    program.holds point = false →
    (program.holds (config.control thread) = true →
      busy thread (config.control thread) config.shared) →
    ready other point config.shared → ready other point shared

structure Described (program : Program τ σ κ ι) (idle : σ → Prop)
    (busy ready : τ → κ → σ → Prop) (config : Config τ σ κ) : Prop where
  free : config.owner = none → idle config.shared
  owned : ∀ owner, config.owner = some owner →
    busy owner (config.control owner) config.shared
  waiting : ∀ thread, program.holds (config.control thread) = false →
    ready thread (config.control thread) config.shared

section Soundness

variable {guard : Config τ σ κ → τ × ι → Prop} {idle : σ → Prop}
  {busy ready : τ → κ → σ → Prop}

private theorem Outline.described_acquire
    (outline : program.Outline guard idle busy ready)
    (described : program.Described idle busy ready config) {next : κ}
    (code : program.code thread (config.control thread) = .lock next)
    (free : config.owner = none) :
    program.Described idle busy ready { config with
      owner := some thread
      control := Function.update config.control thread next } where
  free owner := by simp at owner
  owned owner owns := by
    cases owns
    simpa using outline.acquire _ _ _ _ code (described.free free)
      (described.waiting _ (program.lock_holds code).1)
  waiting other outside := by
    by_cases same : other = thread
    · subst same
      simp [(program.lock_holds code).2] at outside
    · simp only [Function.update_of_ne same] at outside ⊢
      exact described.waiting other outside

private theorem Outline.described_release
    (outline : program.Outline guard idle busy ready)
    (described : program.Described idle busy ready config) {next : κ}
    (code : program.code thread (config.control thread) = .unlock next)
    (owned : config.owner = some thread) :
    program.Described idle busy ready { config with
      owner := none
      control := Function.update config.control thread next } := by
  obtain ⟨isIdle, isReady⟩ :=
    outline.release _ _ _ _ code (described.owned thread owned)
  refine ⟨fun _ => isIdle, fun owner owns => by simp at owns, ?_⟩
  intro other outside
  by_cases same : other = thread
  · subst same
    simpa using isReady
  · simp only [Function.update_of_ne same] at outside ⊢
    exact described.waiting other outside

private theorem Outline.described_act
    (outline : program.Outline guard idle busy ready)
    (exclusive : program.OwnerHolds config)
    (described : program.Described idle busy ready config)
    (allowed : guard config (thread, choice))
    {effect : σ → ι → Option (σ × κ)} {shared : σ} {next : κ}
    (code : program.code thread (config.control thread) = .act effect)
    (effected : effect config.shared choice = some (shared, next)) :
    program.Described idle busy ready { config with
      shared := shared
      control := Function.update config.control thread next } := by
  have keepsOthers : ∀ other, other ≠ thread →
      program.holds (config.control other) = false →
      ready other (config.control other) shared := fun other distinct outside =>
    outline.undisturbed _ _ _ _ _ _ other _ allowed code effected distinct
      outside (fun inside => described.owned thread ((exclusive thread).mp inside))
      (described.waiting other outside)
  have nextHolds := program.act_holds code effected
  by_cases inside : program.holds (config.control thread) = true
  · have owned := (exclusive thread).mp inside
    refine ⟨fun free => ?_, fun owner owns => ?_, fun other outside => ?_⟩
    · simp [owned] at free
    · have same : owner = thread := Option.some.inj (owns.symm.trans owned)
      subst same
      simpa using outline.inside _ _ _ _ _ _ inside allowed code effected
        (described.owned _ owned)
    · by_cases same : other = thread
      · subst same
        simp [nextHolds, inside] at outside
      · simp only [Function.update_of_ne same] at outside ⊢
        exact keepsOthers other same outside
  · have outside : program.holds (config.control thread) = false :=
      Bool.eq_false_iff.mpr inside
    obtain ⟨isReady, keepsIdle, keepsBusy⟩ :=
      outline.outside _ _ _ _ _ _ outside allowed code effected
        (described.waiting thread outside)
    refine ⟨fun free => keepsIdle (described.free free),
      fun owner owns => ?_, fun other otherOutside => ?_⟩
    · have distinct : owner ≠ thread := by
        rintro rfl
        exact inside ((exclusive owner).mpr owns)
      simp only [Function.update_of_ne distinct]
      exact keepsBusy owner _ distinct ((exclusive owner).mpr owns)
        (described.owned owner owns)
    · by_cases same : other = thread
      · subst same
        simpa using isReady
      · simp only [Function.update_of_ne same] at otherOutside ⊢
        exact keepsOthers other same otherOutside

theorem Outline.described
    (outline : program.Outline guard idle busy ready)
    (reachable : program.system.Reachable guard config) :
    program.Described idle busy ready config := by
  refine reachable.strengthen ?_ ?_
  · rintro _ ⟨shared, isInitial, rfl⟩
    obtain ⟨isIdle, isReady⟩ := outline.start shared isInitial
    exact ⟨fun _ => isIdle, fun owner owns => by simp [Program.start] at owns,
      fun thread _ => isReady thread⟩
  · rintro before ⟨thread, choice⟩ after reachable described allowed stepped
    have exclusive := ownerHolds_of_reachable reachable
    cases moves_of_step stepped with
    | acquire code free =>
        exact outline.described_acquire described code free
    | release code owned =>
        exact outline.described_release described code owned
    | act code effected =>
        exact outline.described_act exclusive described allowed code effected

end Soundness

section Runs

/-- A thread gets to a control point while the others stand still. -/
def goes (config : Config τ σ κ) (thread : τ) (owner : Option τ) (next : κ)
    (shared : σ) : Config τ σ κ where
  shared := shared
  owner := owner
  control := Function.update config.control thread next

theorem goes_self (config : Config τ σ κ) (thread : τ) :
    goes config thread config.owner (config.control thread) config.shared =
      config := by
  cases config
  simp [goes]

variable {owner : Option τ} {point next : κ} {before shared : σ}

theorem reaches_of_goes {last : Config τ σ κ} (owned : config.owner = owner)
    (atPoint : config.control thread = point)
    (reaches : program.system.Reaches System.anyStep
      (goes config thread owner point config.shared) last) :
    program.system.Reaches System.anyStep config last := by
  have same := goes_self config thread
  rw [owned, atPoint] at same
  rwa [same] at reaches

theorem reaches_act {effect : σ → ι → Option (σ × κ)} (choice : ι)
    (code : program.code thread point = .act effect)
    (effected : effect before choice = some (shared, next)) :
    program.system.Reaches System.anyStep
      (goes config thread owner point before)
      (goes config thread owner next shared) := by
  have stepped : program.system.step (goes config thread owner point before)
      (thread, choice) = some (goes config thread owner next shared) := by
    simp [system, step, goes, code, effected]
  exact .step .refl trivial stepped

theorem reaches_acquire (choice : ι)
    (code : program.code thread point = .lock next) :
    program.system.Reaches System.anyStep
      (goes config thread none point before)
      (goes config thread (some thread) next before) := by
  have stepped : program.system.step (goes config thread none point before)
      (thread, choice) = some (goes config thread (some thread) next before) := by
    simp [system, step, goes, code]
  exact .step .refl trivial stepped

theorem reaches_release (choice : ι)
    (code : program.code thread point = .unlock next) :
    program.system.Reaches System.anyStep
      (goes config thread (some thread) point before)
      (goes config thread none next before) := by
  have stepped : program.system.step (goes config thread (some thread) point before)
      (thread, choice) = some (goes config thread none next before) := by
    simp [system, step, goes, code]
  exact .step .refl trivial stepped

end Runs

end Program

end Rkipc.Transition
