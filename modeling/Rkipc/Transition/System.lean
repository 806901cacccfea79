import Mathlib.Logic.Basic

namespace Rkipc.Transition

/-! Transition systems with labelled partial steps.  A label carries every
choice that the environment makes, so a step is a function of the state. -/

structure System (σ : Type u) (ι : Type v) where
  initial : σ → Prop
  step : σ → ι → Option σ

namespace System

variable {σ : Type u} {ι : Type v} {machine : System σ ι}
  {guard weaker : σ → ι → Prop} {first middle last : σ}

def run (machine : System σ ι) (state : σ) : List ι → Option σ
  | [] => some state
  | label :: rest =>
      (machine.step state label).bind fun next => machine.run next rest

/-- Finite runs from `first` all of whose steps meet the guard.  The guard sees
the state before the step and the label of the step. -/
inductive Reaches (machine : System σ ι) (guard : σ → ι → Prop) (first : σ) :
    σ → Prop
  | refl : Reaches machine guard first first
  | step {state next : σ} {label : ι} :
      Reaches machine guard first state → guard state label →
      machine.step state label = some next → Reaches machine guard first next

def Reachable (machine : System σ ι) (guard : σ → ι → Prop) (state : σ) :
    Prop :=
  ∃ first, machine.initial first ∧ machine.Reaches guard first state

/-- The guard of unrestricted runs. -/
def anyStep : σ → ι → Prop := fun _ _ => True

theorem Reaches.trans (left : machine.Reaches guard first middle)
    (right : machine.Reaches guard middle last) :
    machine.Reaches guard first last := by
  induction right with
  | refl => exact left
  | step _ allowed stepped induction => exact .step induction allowed stepped

theorem Reaches.mono (weakens : ∀ state label, guard state label →
      weaker state label)
    (reaches : machine.Reaches guard first last) :
    machine.Reaches weaker first last := by
  induction reaches with
  | refl => exact .refl
  | step _ allowed stepped induction =>
      exact .step induction (weakens _ _ allowed) stepped

theorem Reachable.mono (weakens : ∀ state label, guard state label →
      weaker state label)
    (reachable : machine.Reachable guard last) :
    machine.Reachable weaker last :=
  let ⟨start, isInitial, reaches⟩ := reachable
  ⟨start, isInitial, reaches.mono weakens⟩

theorem Reachable.start (isInitial : machine.initial first) :
    machine.Reachable guard first :=
  ⟨first, isInitial, .refl⟩

theorem Reachable.step {label : ι} (reachable : machine.Reachable guard first)
    (allowed : guard first label) (stepped : machine.step first label = some last) :
    machine.Reachable guard last :=
  let ⟨start, isInitial, reaches⟩ := reachable
  ⟨start, isInitial, reaches.step allowed stepped⟩

theorem Reachable.reaches (reachable : machine.Reachable guard first)
    (reaches : machine.Reaches guard first last) :
    machine.Reachable guard last :=
  let ⟨start, isInitial, before⟩ := reachable
  ⟨start, isInitial, before.trans reaches⟩

theorem Reaches.invariant {invariant : σ → Prop}
    (preserved : ∀ state label next, invariant state → guard state label →
      machine.step state label = some next → invariant next)
    (reaches : machine.Reaches guard first last) (holds : invariant first) :
    invariant last := by
  induction reaches with
  | refl => exact holds
  | step _ allowed stepped induction =>
      exact preserved _ _ _ induction allowed stepped

theorem Reachable.invariant {invariant : σ → Prop}
    (atStart : ∀ state, machine.initial state → invariant state)
    (preserved : ∀ state label next, invariant state → guard state label →
      machine.step state label = some next → invariant next)
    (reachable : machine.Reachable guard last) : invariant last :=
  let ⟨start, isInitial, reaches⟩ := reachable
  reaches.invariant preserved (atStart start isInitial)

/-- The invariant rule for a proof that may use other facts about reachable
states. -/
theorem Reachable.strengthen {invariant : σ → Prop}
    (atStart : ∀ state, machine.initial state → invariant state)
    (preserved : ∀ state label next, machine.Reachable guard state →
      invariant state → guard state label →
      machine.step state label = some next → invariant next)
    (reachable : machine.Reachable guard last) : invariant last := by
  obtain ⟨start, isInitial, reaches⟩ := reachable
  induction reaches with
  | refl => exact atStart start isInitial
  | step before allowed stepped induction =>
      exact preserved _ _ _ ⟨start, isInitial, before⟩ induction allowed stepped

theorem reaches_of_run (guarded : ∀ state label, guard state label) :
    ∀ (labels : List ι) {first : σ},
      machine.run first labels = some last → machine.Reaches guard first last
  | [], first, ran => by
      cases ran
      exact .refl
  | label :: rest, first, ran => by
      obtain ⟨next, stepped, ran⟩ := Option.bind_eq_some_iff.mp ran
      exact (Reaches.step .refl (guarded first label) stepped).trans
        (reaches_of_run guarded rest ran)

def guardedRun (machine : System σ ι) (allowed : σ → ι → Bool) (state : σ) :
    List ι → Option σ
  | [] => some state
  | label :: rest =>
      if allowed state label then
        (machine.step state label).bind fun next =>
          machine.guardedRun allowed next rest
      else none

theorem reaches_of_guardedRun {allowed : σ → ι → Bool}
    (checks : ∀ state label, allowed state label = true → guard state label) :
    ∀ (labels : List ι) {first : σ},
      machine.guardedRun allowed first labels = some last →
      machine.Reaches guard first last
  | [], first, ran => by
      cases ran
      exact .refl
  | label :: rest, first, ran => by
      simp only [guardedRun] at ran
      split at ran
      next permitted =>
        obtain ⟨next, stepped, ran⟩ := Option.bind_eq_some_iff.mp ran
        exact (Reaches.step .refl (checks _ _ permitted) stepped).trans
          (reaches_of_guardedRun checks rest ran)
      next => contradiction

theorem reachable_of_run {labels : List ι} (isInitial : machine.initial first)
    (ran : machine.run first labels = some last) :
    machine.Reachable anyStep last :=
  ⟨first, isInitial, reaches_of_run (fun _ _ => trivial) labels ran⟩

end System

namespace System

/-! Two systems side by side, whose steps come in any order. -/

variable {σ : Type u} {τ : Type v} {ι : Type w} {κ : Type x}

def interleave (left : System σ ι) (right : System τ κ) :
    System (σ × τ) (ι ⊕ κ) where
  initial state := left.initial state.1 ∧ right.initial state.2
  step
    | (first, second), .inl label =>
        (left.step first label).map fun next => (next, second)
    | (first, second), .inr label =>
        (right.step second label).map fun next => (first, next)

variable {left : System σ ι} {right : System τ κ}
  {guard : σ × τ → ι ⊕ κ → Prop} {first next : σ} {second after : τ}

theorem Reaches.inl {state : σ × τ} {guardLeft : σ → ι → Prop}
    (guarded : ∀ state label, guard state (.inl label) → guardLeft state.1 label)
    (reaches : (left.interleave right).Reaches guard (first, second) state) :
    left.Reaches guardLeft first state.1 := by
  induction reaches with
  | refl => exact .refl
  | step _ allowed stepped induction =>
      rename_i label _
      cases label with
      | inl label =>
          obtain ⟨next, moved, rfl⟩ := Option.map_eq_some_iff.mp stepped
          exact .step induction (guarded _ _ allowed) moved
      | inr label =>
          obtain ⟨next, moved, rfl⟩ := Option.map_eq_some_iff.mp stepped
          exact induction

theorem Reaches.inr {state : σ × τ} {guardRight : τ → κ → Prop}
    (guarded : ∀ state label, guard state (.inr label) → guardRight state.2 label)
    (reaches : (left.interleave right).Reaches guard (first, second) state) :
    right.Reaches guardRight second state.2 := by
  induction reaches with
  | refl => exact .refl
  | step _ allowed stepped induction =>
      rename_i label _
      cases label with
      | inl label =>
          obtain ⟨next, moved, rfl⟩ := Option.map_eq_some_iff.mp stepped
          exact induction
      | inr label =>
          obtain ⟨next, moved, rfl⟩ := Option.map_eq_some_iff.mp stepped
          exact .step induction (guarded _ _ allowed) moved

theorem reachable_interleave {guardLeft : σ → ι → Prop} {guardRight : τ → κ → Prop}
    (guardedLeft : ∀ state label, guardLeft state.1 label → guard state (.inl label))
    (guardedRight : ∀ state label, guardRight state.2 label → guard state (.inr label))
    (reachableLeft : left.Reachable guardLeft next)
    (reachableRight : right.Reachable guardRight after) :
    (left.interleave right).Reachable guard (next, after) := by
  obtain ⟨first, isFirst, reachesLeft⟩ := reachableLeft
  obtain ⟨second, isSecond, reachesRight⟩ := reachableRight
  have lefts : (left.interleave right).Reaches guard (first, second) (next, second) := by
    induction reachesLeft with
    | refl => exact .refl
    | step _ allowed stepped induction =>
        exact .step induction (guardedLeft (_, _) _ allowed)
          (Option.map_eq_some_iff.mpr ⟨_, stepped, rfl⟩)
  have rights : (left.interleave right).Reaches guard (next, second) (next, after) := by
    induction reachesRight with
    | refl => exact .refl
    | step _ allowed stepped induction =>
        exact .step induction (guardedRight (_, _) _ allowed)
          (Option.map_eq_some_iff.mpr ⟨_, stepped, rfl⟩)
  exact ⟨(first, second), ⟨isFirst, isSecond⟩, lefts.trans rights⟩

end System

end Rkipc.Transition
