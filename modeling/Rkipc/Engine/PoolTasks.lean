import Mathlib.Data.List.Perm.Basic
import Rkipc.Engine.PoolSteps
import Rkipc.Transition.Mutexes

namespace Rkipc.Engine

open Transition

section Counts

/-! The counters of the pool, and the tasks on their way through it. -/

variable {τ : Type} {state next : State τ} {label : Label τ}

theorem countP_notified {p : Phase τ → Bool}
    (same : ∀ phase : Phase τ, p phase.notified = p phase) (workers : List (Phase τ)) :
    (workers.map Phase.notified).countP p = workers.countP p := by
  rw [List.countP_map]
  exact List.countP_congr fun phase _ => by rw [Function.comp_apply, same]

structure Counted (state : State τ) : Prop where
  idle : state.pool.idleThreads = state.workers.countP Phase.isIdle
  current : state.pool.currentThreads = state.workers.countP Phase.undecided
  bounded : state.pool.currentThreads ≤ state.pool.maxThreads
  room : 1 ≤ state.pool.maxThreads
  served : state.pool.tasks ≠ [] → 0 < state.pool.currentThreads

theorem Counted.idle_le (counted : Counted state) :
    state.pool.idleThreads ≤ state.pool.currentThreads := by
  rw [counted.idle, counted.current]
  refine List.countP_mono_left fun phase _ isIdle => ?_
  cases phase <;> first | rfl | cases isIdle

theorem Counted.setPhase (counted : Counted state) {worker : Nat} {old new : Phase τ}
    (isOld : state.workers[worker]? = some old) (sameIdle : new.isIdle = old.isIdle)
    (sameUndecided : new.undecided = old.undecided) :
    Counted (state.setPhase worker new) := by
  have idle := countP_set_add isOld new Phase.isIdle
  have undecided := countP_set_add isOld new Phase.undecided
  rw [sameIdle] at idle
  rw [sameUndecided] at undecided
  refine ⟨?_, ?_, counted.bounded, counted.room, counted.served⟩
  · exact counted.idle.trans (Nat.add_right_cancel idle).symm
  · exact counted.current.trans (Nat.add_right_cancel undecided).symm

theorem Counted.queue (counted : Counted state) (task : τ)
    (enough : 0 < state.pool.idleThreads ∨
      state.pool.maxThreads ≤ state.pool.currentThreads) : Counted (state.queue task) := by
  refine ⟨counted.idle, counted.current, counted.bounded, counted.room, fun _ => ?_⟩
  have positive : 0 < state.pool.currentThreads := by
    cases enough with
    | inl idle => exact Nat.lt_of_lt_of_le idle counted.idle_le
    | inr full => exact Nat.lt_of_lt_of_le counted.room full
  exact positive

theorem Counted.settle (counted : Counted state) {worker : Nat} {old new : Phase τ}
    {pool : ThreadPool τ} (isOld : state.workers[worker]? = some old)
    (entered : Enters state.pool old pool new) :
    Counted (state.settle worker (pool, new)) := by
  have idle := countP_set_add isOld new Phase.isIdle
  have undecided := countP_set_add isOld new Phase.undecided
  have isIdle := counted.idle
  have isCurrent := counted.current
  have bounded := counted.bounded
  have wasUndecided : old.entering = true → old.undecided = true := by
    intro isEntering
    cases old <;> first | rfl | cases isEntering
  cases entered with
  | waits isEntering isOpen empty =>
      rw [wasUndecided isEntering] at undecided
      have one : (Phase.waiting : Phase τ).isIdle.toNat = 1 := rfl
      have same : (Phase.waiting : Phase τ).undecided.toNat = true.toNat := rfl
      refine ⟨?_, ?_, bounded, counted.room, fun tasks => absurd empty tasks⟩
      · dsimp only [State.settle]
        omega
      · dsimp only [State.settle]
        omega
  | exits isEntering quit empty =>
      rw [wasUndecided isEntering] at undecided
      have notIdle : (Phase.exiting : Phase τ).isIdle.toNat = 0 := rfl
      have decided : (Phase.exiting : Phase τ).undecided.toNat = 0 := rfl
      have one : true.toNat = 1 := rfl
      refine ⟨?_, ?_, ?_, counted.room, fun tasks => absurd empty tasks⟩
      all_goals
        dsimp only [State.settle]
        omega
  | retires isEntering isOpen empty =>
      rw [isEntering] at undecided
      have notIdle : (Phase.joining : Phase τ).isIdle.toNat = 0 := rfl
      have decided : (Phase.joining : Phase τ).undecided.toNat = 0 := rfl
      have one : (Phase.woken true : Phase τ).undecided.toNat = 1 := rfl
      refine ⟨?_, ?_, ?_, counted.room, fun tasks => absurd empty tasks⟩
      all_goals
        dsimp only [State.settle]
        omega
  | @takes task tasks isEntering isTasks =>
      rw [wasUndecided isEntering] at undecided
      have notIdle : (Phase.running task : Phase τ).isIdle.toNat = 0 := rfl
      have same : (Phase.running task : Phase τ).undecided.toNat = true.toNat := rfl
      have served : 0 < state.pool.currentThreads := by
        refine counted.served fun empty => ?_
        rw [empty] at isTasks
        cases isTasks
      refine ⟨?_, ?_, bounded, counted.room, fun _ => served⟩
      all_goals
        dsimp only [State.settle]
        omega

theorem Counted.step (counted : Counted state) (moves : Moves state label next) :
    Counted next := by
  cases moves with
  | queues free alive enough => exact counted.queue _ enough
  | notifies free alive enough isWaiting =>
      exact (counted.queue _ (.inl enough)).setPhase isWaiting rfl rfl
  | spawns free alive noIdle room =>
      have idle := counted.idle
      have current := counted.current
      refine ⟨?_, ?_, room, counted.room, fun _ => Nat.succ_pos _⟩
      · dsimp only [State.spawn, State.queue]
        rw [List.countP_append, ← idle]
        rfl
      · dsimp only [State.spawn, State.queue]
        rw [List.countP_append, ← current]
        rfl
  | enters free isOld entered => exact counted.settle isOld entered
  | wakes isWaiting => exact counted.setPhase isWaiting rfl rfl
  | finishes isRunning =>
      have after : Counted (state.setPhase _ (.locking false)) :=
        counted.setPhase isRunning rfl rfl
      exact ⟨after.idle, after.current, after.bounded, after.room, after.served⟩
  | unlocks isJoining none =>
      have after : Counted (state.setPhase _ .exiting) := counted.setPhase isJoining rfl rfl
      exact ⟨after.idle, after.current, after.bounded, after.room, after.served⟩
  | joins isJoining isIds ended entry | quits free alive | joinsNext isJoining ended
  | returns isJoining =>
      exact ⟨counted.idle, counted.current, counted.bounded, counted.room, counted.served⟩
  | terminates isExiting => exact counted.setPhase isExiting rfl rfl
  | notifiesAll isNotifying isOrder =>
      refine ⟨counted.idle.trans (countP_notified ?_ _).symm,
        counted.current.trans (countP_notified ?_ _).symm, counted.bounded, counted.room,
        counted.served⟩
      all_goals
        intro phase
        cases phase <;> rfl

end Counts

section Tasks

/-! Each task is once in the queue, in one worker, or done. -/

theorem filterMap_cons_toList {α β : Type} (f : α → Option β) (head : α)
    (tail : List α) : (head :: tail).filterMap f = (f head).toList ++ tail.filterMap f := by
  rw [List.filterMap_cons]
  cases f head <;> rfl

theorem filterMap_set_perm {α β : Type} {old : α} (new : α) (f : α → Option β) :
    ∀ {l : List α} {i : Nat}, l[i]? = some old →
      ((l.set i new).filterMap f ++ (f old).toList).Perm
        (l.filterMap f ++ (f new).toList)
  | [], _, isAt => nomatch isAt
  | head :: tail, 0, isAt => by
      cases isAt
      rw [List.set_cons_zero, filterMap_cons_toList, filterMap_cons_toList,
        List.append_assoc (f old).toList]
      exact List.perm_append_comm.trans (List.perm_append_comm.append_left _)
  | head :: tail, i + 1, isAt => by
      have inTail : tail[i]? = some old := isAt
      rw [List.set_cons_succ, filterMap_cons_toList, filterMap_cons_toList,
        List.append_assoc, List.append_assoc]
      exact (filterMap_set_perm new f inTail).append_left _

variable {τ : Type} {state next : State τ} {label : Label τ}

def Phase.task? : Phase τ → Option τ
  | .running task => some task
  | _ => none

def State.taken (state : State τ) : List τ := state.workers.filterMap Phase.task?

structure Accounted (state : State τ) : Prop where
  queued : state.submitted = state.started ++ state.pool.tasks
  ran : (state.completed ++ state.taken).Perm state.started

theorem Accounted.setPhase (accounted : Accounted state) {worker : Nat}
    {old new : Phase τ} (isOld : state.workers[worker]? = some old)
    (sameTask : new.task? = old.task?) : Accounted (state.setPhase worker new) := by
  have taken := filterMap_set_perm new Phase.task? isOld
  rw [sameTask] at taken
  refine ⟨accounted.queued, ?_⟩
  exact (((List.perm_append_right_iff _).mp taken).append_left _).trans accounted.ran

theorem Accounted.queue (accounted : Accounted state) (task : τ) :
    Accounted (state.queue task) := by
  refine ⟨?_, accounted.ran⟩
  dsimp only [State.queue]
  rw [accounted.queued, List.append_assoc]

theorem Accounted.settle (accounted : Accounted state) {worker : Nat}
    {old new : Phase τ} {pool : ThreadPool τ}
    (isOld : state.workers[worker]? = some old)
    (entered : Enters state.pool old pool new) :
    Accounted (state.settle worker (pool, new)) := by
  have noTask : old.entering = true → old.task? = none := by
    intro isEntering
    cases old <;> first | rfl | cases isEntering
  cases entered with
  | waits isEntering isOpen empty =>
      have after : Accounted (state.setPhase worker .waiting) :=
        accounted.setPhase isOld (noTask isEntering).symm
      exact ⟨after.queued, after.ran⟩
  | exits isEntering quit empty =>
      have after : Accounted (state.setPhase worker .exiting) :=
        accounted.setPhase isOld (noTask isEntering).symm
      exact ⟨after.queued, after.ran⟩
  | retires isEntering isOpen empty =>
      have after : Accounted (state.setPhase worker .joining) :=
        accounted.setPhase isOld (by rw [isEntering]; rfl)
      exact ⟨after.queued, after.ran⟩
  | @takes task tasks isEntering isTasks =>
      have taken := filterMap_set_perm (.running task) Phase.task? isOld
      rw [noTask isEntering, Option.toList_none, List.append_nil] at taken
      refine ⟨?_, ?_⟩
      · dsimp only [State.settle]
        rw [accounted.queued, isTasks, List.append_assoc, List.singleton_append]
      · have ran := (taken.append_left state.completed).trans
          (List.append_assoc _ _ _ ▸ accounted.ran.append_right [task])
        exact ran

theorem Accounted.step (accounted : Accounted state) (moves : Moves state label next) :
    Accounted next := by
  cases moves with
  | queues free alive enough => exact accounted.queue _
  | notifies free alive enough isWaiting => exact (accounted.queue _).setPhase isWaiting rfl
  | spawns free alive noIdle room =>
      refine ⟨(accounted.queue _).queued, ?_⟩
      dsimp only [State.taken, State.spawn, State.queue]
      rw [List.filterMap_append]
      exact (List.append_nil _).symm ▸ accounted.ran
  | enters free isOld entered => exact accounted.settle isOld entered
  | wakes isWaiting => exact accounted.setPhase isWaiting rfl
  | @finishes worker task isRunning =>
      have taken := filterMap_set_perm (.locking false) Phase.task? isRunning
      refine ⟨accounted.queued, ?_⟩
      rw [show (Phase.locking false : Phase τ).task? = none from rfl, Option.toList_none,
        List.append_nil] at taken
      dsimp only [State.taken, State.setPhase]
      rw [List.append_assoc]
      exact ((List.perm_append_comm.trans taken).append_left _).trans accounted.ran
  | unlocks isJoining none =>
      have after : Accounted (state.setPhase _ .exiting) :=
        accounted.setPhase isJoining rfl
      exact ⟨after.queued, after.ran⟩
  | joins isJoining isIds ended entry | quits free alive | joinsNext isJoining ended
  | returns isJoining => exact ⟨accounted.queued, accounted.ran⟩
  | terminates isExiting => exact accounted.setPhase isExiting rfl
  | notifiesAll isNotifying isOrder =>
      refine ⟨accounted.queued, ?_⟩
      have same : (state.workers.map Phase.notified).filterMap Phase.task? = state.taken := by
        rw [List.filterMap_map]
        refine List.filterMap_congr fun phase _ => ?_
        cases phase <;> rfl
      exact (congrArg (state.completed ++ ·) same ▸ accounted.ran : _)

def Label.task? : Label τ → Option τ
  | .submit task _ => some task
  | _ => none

theorem submitted_of_moves (moves : Moves state label next) :
    next.submitted = state.submitted ++ label.task?.toList := by
  cases moves with
  | queues free alive enough => rfl
  | notifies free alive enough isWaiting => rfl
  | spawns free alive noIdle room => rfl
  | enters free isOld entered | wakes isWaiting | finishes isRunning
  | unlocks isJoining none | joins isJoining isIds ended entry | terminates isExiting
  | quits free alive | notifiesAll isNotifying isOrder | joinsNext isJoining ended
  | returns isJoining => exact (List.append_nil _).symm

/-- Tasks are started by those that enter, from the front of the queue. -/
theorem started_of_moves (moves : Moves state label next) :
    next.started = state.started ∨
      ∃ worker task, label = .enter worker ∧ state.pool.tasks.head? = some task ∧
        next.workers[worker]? = some (.running task) ∧
        next.started = state.started ++ [task] := by
  cases moves with
  | @enters worker old new pool free isOld entered =>
      cases entered with
      | waits isEntering isOpen empty | exits isEntering quit empty
      | retires isEntering isOpen empty => exact .inl rfl
      | @takes task tasks isEntering isTasks =>
          have inside := (List.getElem?_eq_some_iff.mp isOld).1
          refine .inr ⟨worker, task, rfl, ?_, List.getElem?_set_self inside, rfl⟩
          rw [isTasks, List.head?_cons]
  | queues free alive enough | notifies free alive enough isWaiting
  | spawns free alive noIdle room | wakes isWaiting | finishes isRunning
  | unlocks isJoining none | joins isJoining isIds ended entry | terminates isExiting
  | quits free alive | notifiesAll isNotifying isOrder | joinsNext isJoining ended
  | returns isJoining => exact .inl rfl

theorem completed_of_moves (moves : Moves state label next) :
    next.completed = state.completed ∨
      ∃ worker task, label = .finish worker ∧
        state.workers[worker]? = some (.running task) ∧
        next.completed = state.completed ++ [task] := by
  cases moves with
  | @finishes worker task isRunning => exact .inr ⟨worker, task, rfl, isRunning, rfl⟩
  | queues free alive enough | notifies free alive enough isWaiting
  | spawns free alive noIdle room | enters free isOld entered | wakes isWaiting
  | unlocks isJoining none | joins isJoining isIds ended entry | terminates isExiting
  | quits free alive | notifiesAll isNotifying isOrder | joinsNext isJoining ended
  | returns isJoining => exact .inl rfl

theorem mem_taken {worker : Nat} {task : τ}
    (isRunning : state.workers[worker]? = some (.running task)) : task ∈ state.taken :=
  List.mem_filterMap.mpr ⟨.running task, List.mem_of_getElem? isRunning, rfl⟩

theorem Accounted.mem_started (accounted : Accounted state) {task : τ} :
    task ∈ state.started ↔ task ∈ state.completed ∨ task ∈ state.taken :=
  accounted.ran.mem_iff.symm.trans List.mem_append

end Tasks

end Rkipc.Engine
