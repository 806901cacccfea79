import Mathlib.Data.List.Basic
import Rkipc.Transition.System

namespace Rkipc.Engine

open Transition

/-! The thread pool and its workers.  A critical section is one step, but for the joins
that a worker makes while it holds the mutex. -/

/-- Where a worker is: before the lock at the head of its loop, in `wait_for`, out of it
but before the lock, in a task, in `joinFinishedThreads`, behind its last unlock. -/
inductive Phase (τ : Type)
  | locking (fresh : Bool)
  | waiting
  | woken (timedOut : Bool)
  | running (task : τ)
  | joining
  | exiting
  | terminated
deriving DecidableEq

structure ThreadPool (τ : Type) where
  quit : Bool
  currentThreads : Nat
  idleThreads : Nat
  maxThreads : Nat
  tasks : List τ
  finishedThreadIds : List Nat
  threads : List Nat

inductive Destructor
  | notCalled
  | notifying
  | joining (rest : List Nat)
  | returned
deriving DecidableEq

/-- A worker's number is its thread id.  The last four fields only record what happened. -/
structure State (τ : Type) where
  pool : ThreadPool τ
  mutex : Option Nat
  workers : List (Phase τ)
  destructor : Destructor
  submitted : List τ
  started : List τ
  completed : List τ
  joined : List Nat

/-- A wake-up is by a notification, spurious or by the time-out; `threads_` is gone through
in some order. -/
inductive Label (τ : Type)
  | submit (task : τ) (notified : Option Nat)
  | enter (worker : Nat)
  | wake (worker : Nat) (timedOut : Bool)
  | finish (worker : Nat)
  | join (worker : Nat)
  | terminate (worker : Nat)
  | quit
  | notifyAll (order : List Nat)
  | joinNext

variable {τ : Type}

def Phase.isWaiting : Phase τ → Bool
  | .waiting => true
  | _ => false

/-- After `notify_all`. -/
def Phase.notified : Phase τ → Phase τ
  | .waiting => .woken false
  | phase => phase

namespace ThreadPool

def new (maxThreads : Nat) : ThreadPool τ where
  quit := false
  currentThreads := 0
  idleThreads := 0
  maxThreads := maxThreads
  tasks := []
  finishedThreadIds := []
  threads := []

/-- What `wait_for` waits for. -/
def ready (pool : ThreadPool τ) : Bool := pool.quit || !pool.tasks.isEmpty

/-- From `--idleThreads_` to the end of the critical section; the queue is not to be empty
where its front is taken. -/
def leaveWait (hasTimedout : Bool) (pool : ThreadPool τ) :
    Option (ThreadPool τ × Phase τ) :=
  let pool := { pool with idleThreads := pool.idleThreads - 1 }
  match pool.tasks with
  | [] =>
      if pool.quit then
        some ({ pool with currentThreads := pool.currentThreads - 1 }, .exiting)
      else if hasTimedout then
        some ({ pool with currentThreads := pool.currentThreads - 1 }, .joining)
      else none
  | task :: tasks => some ({ pool with tasks := tasks }, .running task)

/-- The loop inside of `wait_for`, with the mutex. -/
def waitFor (timedOut : Bool) (pool : ThreadPool τ) : Option (ThreadPool τ × Phase τ) :=
  if pool.ready then pool.leaveWait false
  else if timedOut then pool.leaveWait true
  else some (pool, .waiting)

/-- The head of the loop, and the return from a wait. -/
def enter (pool : ThreadPool τ) : Phase τ → Option (ThreadPool τ × Phase τ)
  | .locking _ => waitFor false { pool with idleThreads := pool.idleThreads + 1 }
  | .woken timedOut => waitFor timedOut pool
  | _ => none

end ThreadPool

namespace State

def start (maxThreads : Nat) : State τ where
  pool := .new maxThreads
  mutex := none
  workers := []
  destructor := .notCalled
  submitted := []
  started := []
  completed := []
  joined := []

def setPhase (worker : Nat) (phase : Phase τ) (state : State τ) : State τ :=
  { state with workers := state.workers.set worker phase }

/-- `tasks_.emplace(...)` -/
def queue (task : τ) (state : State τ) : State τ :=
  { state with
    pool := { state.pool with tasks := state.pool.tasks ++ [task] }
    submitted := state.submitted ++ [task] }

/-- A new thread, with an entry of its own. -/
def spawn (state : State τ) : State τ :=
  { state with
    pool := { state.pool with
      threads := state.pool.threads ++ [state.workers.length]
      currentThreads := state.pool.currentThreads + 1 }
    workers := state.workers ++ [.locking true] }

/-- `notify_one` wakes one of those that wait, if there is one. -/
def notifyOne (notified : Option Nat) (state : State τ) : Option (State τ) :=
  match notified with
  | some worker =>
      match state.workers[worker]? with
      | some .waiting => some (state.setPhase worker (.woken false))
      | _ => none
  | none => if state.workers.any Phase.isWaiting then none else some state

/-- The caller sees to it that the destructor has not been called. -/
def submit (task : τ) (notified : Option Nat) (state : State τ) : Option (State τ) :=
  if state.mutex = none ∧ state.destructor = .notCalled then
    if state.pool.idleThreads > 0 then (state.queue task).notifyOne notified
    else if state.pool.currentThreads < state.pool.maxThreads then
      some (state.queue task).spawn
    else some (state.queue task)
  else none

/-- A critical section of a worker; it keeps the mutex if it goes on to join. -/
def settle (worker : Nat) (outcome : ThreadPool τ × Phase τ) (state : State τ) : State τ :=
  { state with
    pool := outcome.1
    workers := state.workers.set worker outcome.2
    mutex := match outcome.2 with
      | .joining => some worker
      | _ => none
    started := match outcome.2 with
      | .running task => state.started ++ [task]
      | _ => state.started }

/-- A turn of `joinFinishedThreads`, or its end and that of the critical section. -/
def joinFinished (worker : Nat) (state : State τ) : Option (State τ) :=
  match state.pool.finishedThreadIds with
  | [] =>
      some { state.setPhase worker .exiting with
        mutex := none
        pool := { state.pool with finishedThreadIds := [worker] } }
  | id :: ids =>
      match state.workers[id]? with
      | some .terminated =>
          if id ∈ state.pool.threads then
            some { state with
              joined := state.joined ++ [id]
              pool := { state.pool with
                finishedThreadIds := ids, threads := state.pool.threads.erase id } }
          else none
      | _ => none

def step (state : State τ) : Label τ → Option (State τ)
  | .submit task notified => state.submit task notified
  | .enter worker =>
      if state.mutex = none then
        (state.workers[worker]?.bind state.pool.enter).map fun outcome =>
          state.settle worker outcome
      else none
  | .wake worker timedOut =>
      match state.workers[worker]? with
      | some .waiting => some (state.setPhase worker (.woken timedOut))
      | _ => none
  | .finish worker =>
      match state.workers[worker]? with
      | some (.running task) =>
          some { state.setPhase worker (.locking false) with
            completed := state.completed ++ [task] }
      | _ => none
  | .join worker =>
      match state.workers[worker]? with
      | some .joining => state.joinFinished worker
      | _ => none
  | .terminate worker =>
      match state.workers[worker]? with
      | some .exiting => some (state.setPhase worker .terminated)
      | _ => none
  | .quit =>
      if state.mutex = none ∧ state.destructor = .notCalled then
        some { state with
          pool := { state.pool with quit := true }, destructor := .notifying }
      else none
  | .notifyAll order =>
      if state.destructor = .notifying ∧ order.Perm state.pool.threads then
        some { state with
          workers := state.workers.map Phase.notified
          destructor := .joining order }
      else none
  | .joinNext =>
      match state.destructor with
      | .joining [] => some { state with destructor := .returned }
      | .joining (id :: rest) =>
          match state.workers[id]? with
          | some .terminated =>
              some { state with
                joined := state.joined ++ [id], destructor := .joining rest }
          | _ => none
      | _ => none

end State

/-- The pool has at least one thread to run. -/
def threadPool (τ : Type) : System (State τ) (Label τ) where
  initial state := ∃ maxThreads, 1 ≤ maxThreads ∧ state = .start maxThreads
  step := State.step

end Rkipc.Engine
