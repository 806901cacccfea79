import Rkipc.Engine.PoolClean

namespace Rkipc.Engine

open Transition

/-! Tasks in the queue, and the workers that are about to take one. -/

variable {τ : Type} {state next : State τ} {label : Label τ}

def Phase.takes : Phase τ → Bool
  | .locking true | .waiting | .woken _ => true
  | _ => false

namespace State

def takers (state : State τ) : Nat := state.workers.countP Phase.takes

/-- Between two critical sections and before `quit_`. -/
def NothingHeldBack (state : State τ) : Prop :=
  state.mutex = none → state.pool.quit = false →
    state.pool.tasks.length ≤ state.takers ∨
      state.pool.currentThreads = state.pool.maxThreads

/-- A `submit` that finds idle workers finds one without a task, or all threads started. -/
def Uncrowded (state : State τ) : Label τ → Prop
  | .submit _ _ => 0 < state.pool.idleThreads →
      state.pool.tasks.length < state.takers ∨
        state.pool.currentThreads = state.pool.maxThreads
  | _ => True

instance (state : State τ) : ∀ label, Decidable (state.Uncrowded label)
  | .submit _ _ => inferInstanceAs (Decidable (0 < state.pool.idleThreads →
      state.pool.tasks.length < state.takers ∨
        state.pool.currentThreads = state.pool.maxThreads))
  | .enter _ | .wake _ _ | .finish _ | .join _ | .terminate _ | .quit
  | .notifyAll _ | .joinNext => isTrue trivial

def Roomy (state : State τ) : Prop :=
  state.pool.quit = false →
    state.pool.tasks.length ≤ state.takers ∨
      state.pool.currentThreads = state.pool.maxThreads

end State

theorem takers_setPhase {worker : Nat} {old : Phase τ}
    (isOld : state.workers[worker]? = some old) (new : Phase τ) :
    (state.setPhase worker new).takers + old.takes.toNat =
      state.takers + new.takes.toNat :=
  countP_set_add isOld new Phase.takes

theorem roomy_setPhase (roomy : state.Roomy) {worker : Nat} {old : Phase τ}
    (isOld : state.workers[worker]? = some old) (new : Phase τ)
    (same : new.takes = old.takes) : (state.setPhase worker new).Roomy := by
  intro isOpen
  have takers := takers_setPhase isOld new
  rw [same] at takers
  rw [Nat.add_right_cancel takers]
  exact roomy isOpen

theorem roomy_settle (roomy : state.Roomy) {worker : Nat} {old new : Phase τ}
    {pool : ThreadPool τ} (isOld : state.workers[worker]? = some old)
    (entered : Enters state.pool old pool new) :
    (state.settle worker (pool, new)).Roomy := by
  cases entered with
  | waits isEntering isOpen empty | retires isEntering isOpen empty =>
      intro _
      refine .inl ?_
      dsimp only [State.settle]
      rw [empty]
      exact Nat.zero_le _
  | exits isEntering quit empty => exact fun isOpen => nomatch quit.symm.trans isOpen
  | @takes task tasks isEntering isTasks =>
      intro isOpen
      have takers := takers_setPhase isOld (.running task)
      have atMost : old.takes.toNat ≤ 1 := Bool.toNat_le _
      have none : (Phase.running task).takes.toNat = 0 := rfl
      refine (roomy isOpen).imp_left fun enough => ?_
      rw [isTasks, List.length_cons] at enough
      dsimp only [State.settle]
      change tasks.length ≤ (state.setPhase worker (.running task)).takers
      omega

theorem roomy_step (counted : Counted state) (roomy : state.Roomy)
    (allowed : state.Uncrowded label) (moves : Moves state label next) : next.Roomy := by
  cases moves with
  | @queues task notified free alive enough =>
      intro isOpen
      cases Nat.eq_zero_or_pos state.pool.idleThreads with
      | inl noIdle =>
          have full := enough.resolve_left (noIdle ▸ Nat.lt_irrefl _)
          exact .inr (Nat.le_antisymm counted.bounded full)
      | inr idle =>
          refine (allowed idle).imp_left fun fewer => ?_
          dsimp only [State.queue]
          rw [List.length_append]
          exact fewer
  | @notifies task worker free alive enough isWaiting =>
      have queued : (state.queue task).Roomy := by
        intro isOpen
        refine (allowed enough).imp_left fun fewer => ?_
        dsimp only [State.queue]
        rw [List.length_append]
        exact fewer
      exact roomy_setPhase queued isWaiting (.woken false) rfl
  | @spawns task notified free alive noIdle room =>
      intro isOpen
      have enough := (roomy isOpen).resolve_right (Nat.ne_of_lt room)
      refine .inl ?_
      dsimp only [State.spawn, State.queue, State.takers]
      rw [List.length_append, List.countP_append]
      exact Nat.add_le_add_right enough 1
  | enters free isOld entered => exact roomy_settle roomy isOld entered
  | @wakes worker timedOut isWaiting =>
      exact roomy_setPhase roomy isWaiting (.woken timedOut) rfl
  | finishes isRunning => exact roomy_setPhase roomy isRunning (.locking false) rfl
  | unlocks isJoining none => exact roomy_setPhase roomy isJoining .exiting rfl
  | terminates isExiting => exact roomy_setPhase roomy isExiting .terminated rfl
  | joins isJoining isIds ended entry | joinsNext isJoining ended | returns isJoining =>
      exact roomy
  | quits free alive => exact nofun
  | notifiesAll isNotifying isOrder =>
      intro isOpen
      refine (roomy isOpen).imp_left fun enough => Nat.le_trans enough (Nat.le_of_eq ?_)
      refine (countP_notified (fun phase => ?_) state.workers).symm
      cases phase <;> rfl

theorem nothingHeldBack_of_uncrowded
    (reachable : (threadPool τ).Reachable State.Uncrowded state) :
    state.NothingHeldBack := by
  have roomy : state.Roomy := by
    refine System.Reachable.strengthen ?_ ?_ reachable
    · rintro _ ⟨maxThreads, _, rfl⟩
      exact fun _ => .inl (Nat.le_refl _)
    · intro state label next reachable roomy allowed stepped
      exact roomy_step (sound_of_reachable reachable).counted roomy allowed
        (moves_of_step stepped)
  exact fun _ => roomy

/-- Every `submit` that the condition leaves out holds a task back at once. -/
theorem heldBack_of_crowded {task : τ} {notified : Option Nat}
    (crowded : ¬ state.Uncrowded (.submit task notified))
    (isOpen : state.pool.quit = false)
    (stepped : (threadPool τ).step state (.submit task notified) = some next) :
    ¬ next.NothingHeldBack := by
  have ⟨idle, noRoom⟩ := Classical.not_imp.mp crowded
  have ⟨tasks, current⟩ := not_or.mp noRoom
  have longer : ¬ (state.pool.tasks ++ [task]).length ≤ state.takers := by
    rw [List.length_append]
    exact tasks
  have moves : Moves state (.submit task notified) next := moves_of_step stepped
  intro nothingHeldBack
  cases moves with
  | queues free alive enough =>
      exact (nothingHeldBack free isOpen).elim longer current
  | @notifies _ worker free alive enough isWaiting =>
      have takers : (state.setPhase worker (.woken false)).takers = state.takers :=
        Nat.add_right_cancel (takers_setPhase isWaiting (.woken false))
      refine (nothingHeldBack free isOpen).elim (fun fits => longer ?_) current
      exact takers ▸ fits
  | spawns free alive noIdle room => exact absurd noIdle (Nat.ne_of_gt idle)

/-- The second task comes when the first worker waits again, the third after it took it. -/
theorem nothingHeldBack_of_uncrowded_three :
    ∃ state : State Nat, state.workers = [.running 2, .running 3] ∧
      state.NothingHeldBack := by
  let labels : List (Label Nat) :=
    [.submit 1 none, .enter 0, .finish 0, .enter 0, .submit 2 (some 0), .enter 0,
      .submit 3 none, .enter 1]
  have ran : ((threadPool Nat).guardedRun
      (fun state label => decide (state.Uncrowded label)) (.start 2) labels).map
        State.workers = some [.running 2, .running 3] := by
    decide
  obtain ⟨state, ran, isRunning⟩ := Option.map_eq_some_iff.mp ran
  have reachable : (threadPool Nat).Reachable State.Uncrowded state :=
    ⟨_, ⟨2, by decide, rfl⟩,
      System.reaches_of_guardedRun (fun _ _ allowed => of_decide_eq_true allowed) labels ran⟩
  exact ⟨state, isRunning, nothingHeldBack_of_uncrowded reachable⟩

/-- Two submits to one idle worker: the second task waits for the first to end, and the
second thread is not started. -/
theorem task_held_back :
    ∃ state : State Nat, (threadPool Nat).Reachable System.anyStep state ∧
      state.workers = [.running 2] ∧ state.pool.tasks = [3] ∧
        state.pool.currentThreads < state.pool.maxThreads ∧ ¬ state.NothingHeldBack := by
  let labels : List (Label Nat) :=
    [.submit 1 none, .enter 0, .finish 0, .enter 0, .submit 2 (some 0), .submit 3 none,
      .enter 0]
  have ran : ((threadPool Nat).run (.start 2) labels).map (fun state =>
      (state.workers, state.pool.tasks, state.mutex,
        state.pool.quit, state.pool.currentThreads, state.pool.maxThreads)) =
      some ([.running 2], [3], none, false, 1, 2) := by
    decide
  obtain ⟨state, ran, found⟩ := Option.map_eq_some_iff.mp ran
  simp only [Prod.mk.injEq] at found
  obtain ⟨isRunning, isTasks, free, isOpen, one, two⟩ := found
  refine ⟨state, System.reachable_of_run ⟨2, by decide, rfl⟩ ran, isRunning, isTasks,
    one ▸ two ▸ Nat.lt_succ_self 1, fun nothingHeldBack => ?_⟩
  have none : state.takers = 0 := by
    unfold State.takers
    rw [isRunning]
    rfl
  cases nothingHeldBack free isOpen with
  | inl fits =>
      rw [isTasks, none] at fits
      cases fits
  | inr full =>
      rw [one, two] at full
      cases full

end Rkipc.Engine
