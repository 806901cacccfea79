import Rkipc.Engine.ThreadPool

namespace Rkipc.Engine

open Transition

/-! Everything that a step of the pool can do. -/

variable {τ : Type}

namespace Phase

/-- Counted by `idleThreads_`. -/
def isIdle : Phase τ → Bool
  | .waiting | .woken _ => true
  | _ => false

/-- Alive, and not decided to exit; counted by `currentThreads_`. -/
def undecided : Phase τ → Bool
  | .locking _ | .waiting | .woken _ | .running _ => true
  | .joining | .exiting | .terminated => false

/-- Behind the last unlock. -/
def isPast : Phase τ → Bool
  | .exiting | .terminated => true
  | _ => false

/-- About to take the mutex. -/
def entering : Phase τ → Bool
  | .locking _ | .woken _ => true
  | _ => false

end Phase

/-- The critical section of a worker in its loop. -/
inductive Enters (pool : ThreadPool τ) (old : Phase τ) : ThreadPool τ → Phase τ → Prop
  | waits (isEntering : old.entering = true) (isOpen : pool.quit = false)
      (empty : pool.tasks = []) :
      Enters pool old
        { pool with idleThreads := pool.idleThreads + 1 - old.isIdle.toNat } .waiting
  | exits (isEntering : old.entering = true) (quit : pool.quit = true)
      (empty : pool.tasks = []) :
      Enters pool old
        { pool with
          idleThreads := pool.idleThreads - old.isIdle.toNat
          currentThreads := pool.currentThreads - 1 } .exiting
  | retires (isEntering : old = .woken true) (isOpen : pool.quit = false)
      (empty : pool.tasks = []) :
      Enters pool old
        { pool with
          idleThreads := pool.idleThreads - old.isIdle.toNat
          currentThreads := pool.currentThreads - 1 } .joining
  | takes {task : τ} {tasks : List τ} (isEntering : old.entering = true)
      (isTasks : pool.tasks = task :: tasks) :
      Enters pool old
        { pool with
          idleThreads := pool.idleThreads - old.isIdle.toNat, tasks := tasks }
        (.running task)

theorem waitFor_cases {pool after : ThreadPool τ} {timedOut : Bool} {new : Phase τ}
    (waited : pool.waitFor timedOut = some (after, new)) :
    pool.quit = false ∧ pool.tasks = [] ∧ timedOut = false ∧ after = pool ∧
        new = .waiting ∨
      pool.quit = true ∧ pool.tasks = [] ∧ after = { pool with
        idleThreads := pool.idleThreads - 1
        currentThreads := pool.currentThreads - 1 } ∧ new = .exiting ∨
      pool.quit = false ∧ pool.tasks = [] ∧ timedOut = true ∧ after = { pool with
        idleThreads := pool.idleThreads - 1
        currentThreads := pool.currentThreads - 1 } ∧ new = .joining ∨
      ∃ task tasks, pool.tasks = task :: tasks ∧ after = { pool with
        idleThreads := pool.idleThreads - 1, tasks := tasks } ∧ new = .running task := by
  unfold ThreadPool.waitFor ThreadPool.ready ThreadPool.leaveWait at waited
  cases isTasks : pool.tasks with
  | nil =>
      cases isQuit : pool.quit with
      | true =>
          simp only [isTasks, isQuit, Bool.true_or, if_true, Option.some.injEq,
            Prod.mk.injEq] at waited
          obtain ⟨rfl, rfl⟩ := waited
          exact .inr (.inl ⟨rfl, rfl, rfl, rfl⟩)
      | false =>
          cases timedOut with
          | true =>
              simp only [isTasks, isQuit, List.isEmpty_nil, Bool.not_true, Bool.or_false,
                Bool.false_eq_true, if_false, if_true, Option.some.injEq,
                Prod.mk.injEq] at waited
              obtain ⟨rfl, rfl⟩ := waited
              exact .inr (.inr (.inl ⟨rfl, rfl, rfl, rfl, rfl⟩))
          | false =>
              simp only [isTasks, isQuit, List.isEmpty_nil, Bool.not_true, Bool.or_false,
                Bool.false_eq_true, if_false, Option.some.injEq, Prod.mk.injEq] at waited
              obtain ⟨rfl, rfl⟩ := waited
              exact .inl ⟨rfl, rfl, rfl, rfl, rfl⟩
  | cons task tasks =>
      simp only [isTasks, List.isEmpty_cons, Bool.not_false, Bool.or_true, if_true,
        Option.some.injEq, Prod.mk.injEq] at waited
      obtain ⟨rfl, rfl⟩ := waited
      exact .inr (.inr (.inr ⟨task, tasks, rfl, rfl, rfl⟩))

theorem enters_of_enter {pool after : ThreadPool τ} {old new : Phase τ}
    (entered : pool.enter old = some (after, new)) : Enters pool old after new := by
  unfold ThreadPool.enter at entered
  split at entered
  next fresh =>
    obtain ⟨isOpen, empty, _, rfl, rfl⟩ | ⟨quit, empty, rfl, rfl⟩ |
      ⟨_, _, impossible, _⟩ | ⟨task, tasks, isTasks, rfl, rfl⟩ := waitFor_cases entered
    · exact .waits rfl isOpen empty
    · exact .exits rfl quit empty
    · cases impossible
    · exact .takes rfl isTasks
  next timedOut =>
    obtain ⟨isOpen, empty, _, rfl, rfl⟩ | ⟨quit, empty, rfl, rfl⟩ |
      ⟨isOpen, empty, rfl, rfl, rfl⟩ | ⟨task, tasks, isTasks, rfl, rfl⟩ :=
        waitFor_cases entered
    · exact .waits rfl isOpen empty
    · exact .exits rfl quit empty
    · exact .retires rfl isOpen empty
    · exact .takes rfl isTasks
  next => cases entered

theorem enter_isSome (pool : ThreadPool τ) {phase : Phase τ}
    (isEntering : phase.entering = true) : (pool.enter phase).isSome = true := by
  have waits : ∀ (pool : ThreadPool τ) timedOut, (pool.waitFor timedOut).isSome = true := by
    intro pool timedOut
    unfold ThreadPool.waitFor ThreadPool.ready ThreadPool.leaveWait
    cases pool.tasks with
    | cons task tasks => cases pool.quit <;> rfl
    | nil =>
        cases isQuit : pool.quit with
        | true => simp
        | false => cases timedOut <;> simp
  cases phase with
  | locking fresh => exact waits _ _
  | woken timedOut => exact waits _ _
  | waiting | running task | joining | exiting | terminated => cases isEntering

/-- What a step does, with all that it needs. -/
inductive Moves (state : State τ) : Label τ → State τ → Prop
  | queues {task : τ} {notified : Option Nat} (free : state.mutex = none)
      (alive : state.destructor = .notCalled)
      (enough : 0 < state.pool.idleThreads ∨
        state.pool.maxThreads ≤ state.pool.currentThreads) :
      Moves state (.submit task notified) (state.queue task)
  | notifies {task : τ} {worker : Nat} (free : state.mutex = none)
      (alive : state.destructor = .notCalled) (enough : 0 < state.pool.idleThreads)
      (isWaiting : state.workers[worker]? = some .waiting) :
      Moves state (.submit task (some worker))
        ((state.queue task).setPhase worker (.woken false))
  | spawns {task : τ} {notified : Option Nat} (free : state.mutex = none)
      (alive : state.destructor = .notCalled) (noIdle : state.pool.idleThreads = 0)
      (room : state.pool.currentThreads < state.pool.maxThreads) :
      Moves state (.submit task notified) (state.queue task).spawn
  | enters {worker : Nat} {old new : Phase τ} {pool : ThreadPool τ}
      (free : state.mutex = none) (isOld : state.workers[worker]? = some old)
      (entered : Enters state.pool old pool new) :
      Moves state (.enter worker) (state.settle worker (pool, new))
  | wakes {worker : Nat} {timedOut : Bool}
      (isWaiting : state.workers[worker]? = some .waiting) :
      Moves state (.wake worker timedOut) (state.setPhase worker (.woken timedOut))
  | finishes {worker : Nat} {task : τ}
      (isRunning : state.workers[worker]? = some (.running task)) :
      Moves state (.finish worker) { state.setPhase worker (.locking false) with
        completed := state.completed ++ [task] }
  | unlocks {worker : Nat} (isJoining : state.workers[worker]? = some .joining)
      (none : state.pool.finishedThreadIds = []) :
      Moves state (.join worker) { state.setPhase worker .exiting with
        mutex := .none
        pool := { state.pool with finishedThreadIds := [worker] } }
  | joins {worker id : Nat} {ids : List Nat}
      (isJoining : state.workers[worker]? = some .joining)
      (isIds : state.pool.finishedThreadIds = id :: ids)
      (ended : state.workers[id]? = some .terminated)
      (entry : id ∈ state.pool.threads) :
      Moves state (.join worker) { state with
        joined := state.joined ++ [id]
        pool := { state.pool with
          finishedThreadIds := ids, threads := state.pool.threads.erase id } }
  | terminates {worker : Nat} (isExiting : state.workers[worker]? = some .exiting) :
      Moves state (.terminate worker) (state.setPhase worker .terminated)
  | quits (free : state.mutex = none) (alive : state.destructor = .notCalled) :
      Moves state .quit { state with
        pool := { state.pool with quit := true }, destructor := .notifying }
  | notifiesAll {order : List Nat} (isNotifying : state.destructor = .notifying)
      (isOrder : order.Perm state.pool.threads) :
      Moves state (.notifyAll order) { state with
        workers := state.workers.map Phase.notified
        destructor := .joining order }
  | joinsNext {id : Nat} {rest : List Nat}
      (isJoining : state.destructor = .joining (id :: rest))
      (ended : state.workers[id]? = some .terminated) :
      Moves state .joinNext { state with
        joined := state.joined ++ [id], destructor := .joining rest }
  | returns (isJoining : state.destructor = .joining []) :
      Moves state .joinNext { state with destructor := .returned }

theorem moves_of_submit {state next : State τ} {task : τ} {notified : Option Nat}
    (stepped : state.submit task notified = some next) :
    Moves state (.submit task notified) next := by
  unfold State.submit at stepped
  split at stepped
  next allowed =>
    obtain ⟨free, alive⟩ := allowed
    split at stepped
    next idle =>
      unfold State.notifyOne at stepped
      split at stepped
      next worker =>
        split at stepped
        next isWaiting =>
          cases stepped
          exact .notifies free alive idle isWaiting
        next => cases stepped
      next =>
        split at stepped
        next => cases stepped
        next =>
          cases stepped
          exact .queues free alive (.inl idle)
    next noIdle =>
      have noIdle : state.pool.idleThreads = 0 := Nat.eq_zero_of_not_pos noIdle
      split at stepped
      next room =>
        cases stepped
        exact .spawns free alive noIdle room
      next full =>
        cases stepped
        exact .queues free alive (.inr (Nat.le_of_not_lt full))
  next => cases stepped

theorem moves_of_step {state next : State τ} {label : Label τ}
    (stepped : state.step label = some next) : Moves state label next := by
  unfold State.step at stepped
  cases label with
  | submit task notified => exact moves_of_submit stepped
  | enter worker =>
      dsimp only at stepped
      split at stepped
      next free =>
        obtain ⟨⟨pool, new⟩, entered, rfl⟩ := Option.map_eq_some_iff.mp stepped
        obtain ⟨old, isOld, entered⟩ := Option.bind_eq_some_iff.mp entered
        exact .enters free isOld (enters_of_enter entered)
      next => cases stepped
  | wake worker timedOut =>
      dsimp only at stepped
      split at stepped
      next isWaiting =>
        cases stepped
        exact .wakes isWaiting
      next => cases stepped
  | finish worker =>
      dsimp only at stepped
      split at stepped
      next task isRunning =>
        cases stepped
        exact .finishes isRunning
      next => cases stepped
  | join worker =>
      dsimp only at stepped
      split at stepped
      next isJoining =>
        unfold State.joinFinished at stepped
        split at stepped
        next none =>
          cases stepped
          exact .unlocks isJoining none
        next id ids isIds =>
          split at stepped
          next ended =>
            split at stepped
            next entry =>
              cases stepped
              exact .joins isJoining isIds ended entry
            next => cases stepped
          next => cases stepped
      next => cases stepped
  | terminate worker =>
      dsimp only at stepped
      split at stepped
      next isExiting =>
        cases stepped
        exact .terminates isExiting
      next => cases stepped
  | quit =>
      dsimp only at stepped
      split at stepped
      next allowed =>
        cases stepped
        exact .quits allowed.1 allowed.2
      next => cases stepped
  | notifyAll order =>
      dsimp only at stepped
      split at stepped
      next allowed =>
        cases stepped
        exact .notifiesAll allowed.1 allowed.2
      next => cases stepped
  | joinNext =>
      dsimp only at stepped
      split at stepped
      next isJoining =>
        cases stepped
        exact .returns isJoining
      next id rest isJoining =>
        split at stepped
        next ended =>
          cases stepped
          exact .joinsNext isJoining ended
        next => cases stepped
      next => cases stepped

end Rkipc.Engine
