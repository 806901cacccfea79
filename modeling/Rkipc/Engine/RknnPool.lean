import Rkipc.Engine.Fifo
import Rkipc.Engine.PoolClean
import Rkipc.Engine.ThreadPool

namespace Rkipc.Engine

open Transition

section Pool

/-! The pool of models over the thread pool, with the futures of its results. -/

/-- What `std::bind` keeps of a `put`, and the place of its result. -/
structure Job (ι : Type) where
  number : Nat
  model : Nat
  input : ι
deriving DecidableEq

/-- The call that holds `queueMtx`: a `put` that has its model, or a `get` that waits for
the first future. -/
inductive Call (ι : Type)
  | put (model : Nat) (input : ι)
  | get

inductive Drain
  | notCalled
  | draining
  | drained
deriving DecidableEq

/-- A future is the number of its result; `trace` only records what happened. -/
structure RknnPool (ι o : Type) where
  threadNum : Nat
  id : Nat
  queueMtx : Option (Call ι)
  pool : State (Job ι)
  futs : List Nat
  results : List (Option o)
  drain : Drain
  trace : List (Event ι o)

/-- `finish` is the end of `Run`, with what it returns. -/
inductive RknnLabel (ι o : Type)
  | put (input : ι)
  | submit (notified : Option Nat)
  | get
  | deliver
  | finish (worker : Nat) (output : o)
  | pool (label : Label (Job ι))
  | drain

variable {ι o : Type}

namespace RknnPool

def start (threadNum : Nat) : RknnPool ι o where
  threadNum := threadNum
  id := 0
  queueMtx := none
  pool := .start threadNum
  futs := []
  results := []
  drain := .notCalled
  trace := []

def record (event : Event ι o) (rknn : RknnPool ι o) : RknnPool ι o :=
  { rknn with trace := rknn.trace ++ [event] }

/-- The model of the next `put`, with the counter behind it. -/
def getModelId (rknn : RknnPool ι o) : Nat × RknnPool ι o :=
  (rknn.id % rknn.threadNum, { rknn with id := rknn.id + 1 })

def put (input : ι) (rknn : RknnPool ι o) : Option (RknnPool ι o) :=
  if rknn.queueMtx.isNone ∧ rknn.drain = .notCalled then
    let (model, rknn) := rknn.getModelId
    some { rknn with queueMtx := some (.put model input) }
  else none

/-- `futs.push(pool->submit(...))` and the end of `put`. -/
def submit (notified : Option Nat) (rknn : RknnPool ι o) : Option (RknnPool ι o) :=
  match rknn.queueMtx with
  | some (.put model input) =>
      (rknn.pool.submit ⟨rknn.results.length, model, input⟩ notified).map fun pool =>
        { rknn with
          queueMtx := none
          pool := pool
          futs := rknn.futs ++ [rknn.results.length]
          results := rknn.results ++ [none] }.record (.put input)
  | _ => none

def get (rknn : RknnPool ι o) : Option (RknnPool ι o) :=
  if rknn.queueMtx.isNone ∧ rknn.drain = .notCalled then
    if rknn.futs.isEmpty then some (rknn.record (.get none))
    else some { rknn with queueMtx := some .get }
  else none

/-- The result of the first future, once it is there. -/
def front (rknn : RknnPool ι o) : Option (o × List Nat) :=
  match rknn.futs with
  | number :: futs => rknn.results[number]?.join.map fun output => (output, futs)
  | [] => none

/-- `futs.front().get()` and the end of `get`. -/
def deliver (rknn : RknnPool ι o) : Option (RknnPool ι o) :=
  match rknn.queueMtx with
  | some .get =>
      rknn.front.map fun (output, futs) =>
        { rknn with queueMtx := none, futs := futs }.record (.get (some output))
  | _ => none

def finish (worker : Nat) (output : o) (rknn : RknnPool ι o) : Option (RknnPool ι o) :=
  match rknn.pool.workers[worker]? with
  | some (.running job) =>
      (rknn.pool.step (.finish worker)).map fun pool =>
        { rknn with
          pool := pool
          results := rknn.results.set job.number (some output) }.record
            (.run job.number job.input output)
  | _ => none

/-- A call of the destructor, or a turn of its loop; nobody else is in a call then. -/
def turn (rknn : RknnPool ι o) : Option (RknnPool ι o) :=
  match rknn.drain with
  | .notCalled =>
      if rknn.queueMtx.isNone then some { rknn with drain := .draining } else none
  | .draining =>
      if rknn.futs.isEmpty then some ({ rknn with drain := .drained }.record .drained)
      else rknn.front.map fun (_, futs) => { rknn with futs := futs }
  | .drained => none

/-- The pool is destroyed last. -/
def allows (rknn : RknnPool ι o) : Label (Job ι) → Bool
  | .enter _ | .wake _ _ | .join _ | .terminate _ => true
  | .quit | .notifyAll _ | .joinNext => rknn.drain = .drained
  | .submit _ _ | .finish _ => false

def step (rknn : RknnPool ι o) : RknnLabel ι o → Option (RknnPool ι o)
  | .put input => rknn.put input
  | .submit notified => rknn.submit notified
  | .get => rknn.get
  | .deliver => rknn.deliver
  | .finish worker output => rknn.finish worker output
  | .pool label =>
      if rknn.allows label then
        (rknn.pool.step label).map fun pool => { rknn with pool := pool }
      else none
  | .drain => rknn.turn

end RknnPool

/-- After an `init` that succeeded. -/
def rknnPool (ι o : Type) (threadNum : Nat) : System (RknnPool ι o) (RknnLabel ι o) where
  initial rknn := rknn = .start threadNum
  step := RknnPool.step

end Pool

section Steps

/-! Everything that a step of the pool of models can do. -/

variable {ι o : Type} {rknn next : RknnPool ι o} {label : RknnLabel ι o}

/-- What a step does, with all that it needs. -/
inductive RknnMoves (rknn : RknnPool ι o) : RknnLabel ι o → RknnPool ι o → Prop
  | puts {input : ι} (free : rknn.queueMtx = none) (alive : rknn.drain = .notCalled) :
      RknnMoves rknn (.put input) { rknn with
        id := rknn.id + 1
        queueMtx := some (.put (rknn.id % rknn.threadNum) input) }
  | submits {model : Nat} {input : ι} {notified : Option Nat} {pool : State (Job ι)}
      (isCall : rknn.queueMtx = some (.put model input))
      (submitted : rknn.pool.step
        (.submit ⟨rknn.results.length, model, input⟩ notified) = some pool) :
      RknnMoves rknn (.submit notified) ({ rknn with
        queueMtx := none
        pool := pool
        futs := rknn.futs ++ [rknn.results.length]
        results := rknn.results ++ [none] }.record (.put input))
  | misses (free : rknn.queueMtx = none) (alive : rknn.drain = .notCalled)
      (empty : rknn.futs = []) : RknnMoves rknn .get (rknn.record (.get none))
  | waits (free : rknn.queueMtx = none) (alive : rknn.drain = .notCalled)
      (pending : rknn.futs ≠ []) :
      RknnMoves rknn .get { rknn with queueMtx := some .get }
  | delivers {number : Nat} {futs : List Nat} {output : o}
      (isCall : rknn.queueMtx = some .get) (isFuts : rknn.futs = number :: futs)
      (isResult : rknn.results[number]? = some (some output)) :
      RknnMoves rknn .deliver
        ({ rknn with queueMtx := none, futs := futs }.record (.get (some output)))
  | finishes {worker : Nat} {job : Job ι} {output : o} {pool : State (Job ι)}
      (isRunning : rknn.pool.workers[worker]? = some (.running job))
      (finished : rknn.pool.step (.finish worker) = some pool) :
      RknnMoves rknn (.finish worker output) ({ rknn with
        pool := pool
        results := rknn.results.set job.number (some output) }.record
          (.run job.number job.input output))
  | works {label : Label (Job ι)} {pool : State (Job ι)}
      (allowed : rknn.allows label = true) (worked : rknn.pool.step label = some pool) :
      RknnMoves rknn (.pool label) { rknn with pool := pool }
  | destroys (free : rknn.queueMtx = none) (alive : rknn.drain = .notCalled) :
      RknnMoves rknn .drain { rknn with drain := .draining }
  | drains {number : Nat} {futs : List Nat} {output : o}
      (isDraining : rknn.drain = .draining) (isFuts : rknn.futs = number :: futs)
      (isResult : rknn.results[number]? = some (some output)) :
      RknnMoves rknn .drain { rknn with futs := futs }
  | drained (isDraining : rknn.drain = .draining) (empty : rknn.futs = []) :
      RknnMoves rknn .drain ({ rknn with drain := .drained }.record .drained)

theorem front_cases {output : o} {futs : List Nat}
    (isFront : rknn.front = some (output, futs)) :
    ∃ number, rknn.futs = number :: futs ∧ rknn.results[number]? = some (some output) := by
  unfold RknnPool.front at isFront
  split at isFront
  next number rest isFuts =>
    obtain ⟨found, isFound, same⟩ := Option.map_eq_some_iff.mp isFront
    cases same
    exact ⟨number, isFuts, Option.join_eq_some_iff.mp isFound⟩
  next => cases isFront

theorem rknnMoves_of_step (stepped : rknn.step label = some next) :
    RknnMoves rknn label next := by
  unfold RknnPool.step at stepped
  cases label with
  | put input =>
      dsimp only [RknnPool.put, RknnPool.getModelId] at stepped
      split at stepped
      next allowed =>
        cases stepped
        exact .puts (Option.isNone_iff_eq_none.mp allowed.1) allowed.2
      next => cases stepped
  | submit notified =>
      dsimp only [RknnPool.submit] at stepped
      split at stepped
      next model input isCall =>
        obtain ⟨pool, submitted, rfl⟩ := Option.map_eq_some_iff.mp stepped
        exact .submits isCall submitted
      next => cases stepped
  | get =>
      dsimp only [RknnPool.get] at stepped
      split at stepped
      next allowed =>
        have free := Option.isNone_iff_eq_none.mp allowed.1
        split at stepped
        next empty =>
          cases stepped
          exact .misses free allowed.2 (List.isEmpty_iff.mp empty)
        next pending =>
          cases stepped
          exact .waits free allowed.2 fun empty => pending (List.isEmpty_iff.mpr empty)
      next => cases stepped
  | deliver =>
      dsimp only [RknnPool.deliver] at stepped
      split at stepped
      next isCall =>
        obtain ⟨⟨output, futs⟩, isFront, rfl⟩ := Option.map_eq_some_iff.mp stepped
        obtain ⟨number, isFuts, isResult⟩ := front_cases isFront
        exact .delivers isCall isFuts isResult
      next => cases stepped
  | finish worker output =>
      dsimp only [RknnPool.finish] at stepped
      split at stepped
      next job isRunning =>
        obtain ⟨pool, finished, rfl⟩ := Option.map_eq_some_iff.mp stepped
        exact .finishes isRunning finished
      next => cases stepped
  | pool label =>
      dsimp only at stepped
      split at stepped
      next allowed =>
        obtain ⟨pool, worked, rfl⟩ := Option.map_eq_some_iff.mp stepped
        exact .works allowed worked
      next => cases stepped
  | drain =>
      dsimp only [RknnPool.turn] at stepped
      split at stepped
      next alive =>
        split at stepped
        next free =>
          cases stepped
          exact .destroys (Option.isNone_iff_eq_none.mp free) alive
        next => cases stepped
      next isDraining =>
        split at stepped
        next empty =>
          cases stepped
          exact .drained isDraining (List.isEmpty_iff.mp empty)
        next =>
          obtain ⟨⟨output, futs⟩, isFront, rfl⟩ := Option.map_eq_some_iff.mp stepped
          obtain ⟨number, isFuts, isResult⟩ := front_cases isFront
          exact .drains isDraining isFuts isResult
      next => cases stepped

variable {threadNum : Nat} {guard : RknnPool ι o → RknnLabel ι o → Prop}

theorem pool_of_moves (moves : RknnMoves rknn label next) :
    next.pool = rknn.pool ∨ ∃ label, rknn.pool.step label = some next.pool := by
  cases moves with
  | submits isCall submitted => exact .inr ⟨_, submitted⟩
  | finishes isRunning finished => exact .inr ⟨_, finished⟩
  | works allowed worked => exact .inr ⟨_, worked⟩
  | puts free alive | misses free alive empty | waits free alive pending
  | delivers isCall isFuts isResult | destroys free alive
  | drains isDraining isFuts isResult | drained isDraining empty => exact .inl rfl

theorem pool_reachable (room : 1 ≤ threadNum)
    (reachable : (rknnPool ι o threadNum).Reachable guard rknn) :
    (threadPool (Job ι)).Reachable System.anyStep rknn.pool := by
  obtain ⟨_, rfl, reaches⟩ := reachable
  induction reaches with
  | refl => exact .start ⟨threadNum, room, rfl⟩
  | step _ _ stepped induction =>
      cases pool_of_moves (rknnMoves_of_step stepped) with
      | inl same => exact same ▸ induction
      | inr moved =>
          obtain ⟨label, moved⟩ := moved
          exact induction.step trivial moved

end Steps

section Jobs

/-! The jobs have the numbers of their calls of `put`, and these decide on the models. -/

variable {ι o : Type} {rknn next : RknnPool ι o} {label : RknnLabel ι o}
  {threadNum : Nat} {guard : RknnPool ι o → RknnLabel ι o → Prop}

/-- The counter is one ahead between the two halves of a `put`. -/
def RknnPool.Counter (rknn : RknnPool ι o) : Prop :=
  match rknn.queueMtx with
  | some (.put model _) =>
      rknn.id = rknn.results.length + 1 ∧ model = rknn.results.length % rknn.threadNum
  | _ => rknn.id = rknn.results.length

structure Numbered (rknn : RknnPool ι o) : Prop where
  counter : rknn.Counter
  numbers : rknn.pool.submitted.map Job.number = List.range rknn.results.length
  models : ∀ job ∈ rknn.pool.submitted, job.model = job.number % rknn.threadNum

theorem submitted_of_other {state after : State (Job ι)} {label : Label (Job ι)}
    (stepped : state.step label = some after) (other : label.task? = none) :
    after.submitted = state.submitted := by
  have submitted := submitted_of_moves (moves_of_step stepped)
  rw [other, Option.toList_none, List.append_nil] at submitted
  exact submitted

/-- Results that come in, and steps of the workers, change no number. -/
theorem Numbered.keep (numbered : Numbered rknn) {pool : State (Job ι)}
    {results : List (Option o)} {trace : List (Event ι o)}
    (sameLength : results.length = rknn.results.length)
    (sameSubmitted : pool.submitted = rknn.pool.submitted) :
    Numbered { rknn with pool := pool, results := results, trace := trace } := by
  refine ⟨?_, ?_, ?_⟩
  · have counter := numbered.counter
    unfold RknnPool.Counter at counter ⊢
    dsimp only
    rw [sameLength]
    exact counter
  · dsimp only
    rw [sameLength, sameSubmitted]
    exact numbered.numbers
  · dsimp only
    rw [sameSubmitted]
    exact numbered.models

theorem Numbered.step (numbered : Numbered rknn) (moves : RknnMoves rknn label next) :
    Numbered next := by
  have counter := numbered.counter
  unfold RknnPool.Counter at counter
  cases moves with
  | puts free alive =>
      rw [free] at counter
      exact ⟨⟨congrArg (· + 1) counter, congrArg (· % _) counter⟩, numbered.numbers,
        numbered.models⟩
  | @submits model input notified pool isCall submitted =>
      rw [isCall] at counter
      have isSubmitted : pool.submitted = _ := submitted_of_moves (moves_of_step submitted)
      refine ⟨?_, ?_, ?_⟩
      · have longer : (rknn.results ++ [none]).length = rknn.results.length + 1 :=
          List.length_append
        exact counter.1.trans longer.symm
      · dsimp only [RknnPool.record]
        rw [isSubmitted, List.map_append, numbered.numbers, List.length_append,
          List.length_singleton, List.range_succ]
        rfl
      · intro job isJob
        dsimp only [RknnPool.record] at isJob
        rw [isSubmitted] at isJob
        cases List.mem_append.mp isJob with
        | inl before => exact numbered.models job before
        | inr last =>
            obtain rfl := List.mem_singleton.mp last
            exact counter.2
  | misses free alive empty => exact ⟨counter, numbered.numbers, numbered.models⟩
  | waits free alive pending =>
      rw [free] at counter
      exact ⟨counter, numbered.numbers, numbered.models⟩
  | delivers isCall isFuts isResult =>
      rw [isCall] at counter
      exact ⟨counter, numbered.numbers, numbered.models⟩
  | @finishes worker job output pool isRunning finished =>
      exact numbered.keep List.length_set (submitted_of_other finished rfl)
  | @works label pool allowed worked =>
      refine numbered.keep rfl (submitted_of_other worked ?_)
      cases label with
      | submit task notified => cases allowed
      | enter worker | wake worker timedOut | finish worker | join worker
      | terminate worker | quit | notifyAll order | joinNext => rfl
  | destroys free alive | drains isDraining isFuts isResult | drained isDraining empty =>
      exact ⟨counter, numbered.numbers, numbered.models⟩

theorem numbered_of_reachable (reachable : (rknnPool ι o threadNum).Reachable guard rknn) :
    Numbered rknn := by
  refine System.Reachable.invariant ?_ ?_ reachable
  · rintro _ rfl
    exact ⟨rfl, rfl, nofun⟩
  · intro rknn label next numbered _ stepped
    exact numbered.step (rknnMoves_of_step stepped)

theorem Numbered.at_number (numbered : Numbered rknn) {job : Job ι}
    (isJob : job ∈ rknn.pool.submitted) :
    rknn.pool.submitted[job.number]? = some job ∧ job.number < rknn.results.length := by
  obtain ⟨place, isAt⟩ := List.getElem?_of_mem isJob
  have isNumber : (rknn.pool.submitted.map Job.number)[place]? = some job.number := by
    rw [List.getElem?_map, isAt]
    rfl
  rw [numbered.numbers] at isNumber
  obtain ⟨inside, same⟩ := List.getElem?_eq_some_iff.mp isNumber
  rw [List.getElem_range] at same
  rw [List.length_range] at inside
  exact same ▸ ⟨isAt, inside⟩

theorem Accounted.mem_submitted {τ : Type} {state : State τ} (accounted : Accounted state)
    {task : τ} (isTask : task ∈ state.completed ∨ task ∈ state.taken) :
    task ∈ state.submitted := by
  rw [accounted.queued]
  exact List.mem_append_left _ (accounted.mem_started.mpr isTask)

theorem Numbered.nodup (numbered : Numbered rknn) (accounted : Accounted rknn.pool) :
    (rknn.pool.completed.map Job.number ++ rknn.pool.taken.map Job.number).Nodup := by
  have all : (rknn.pool.submitted.map Job.number).Nodup :=
    numbered.numbers ▸ List.nodup_range
  rw [accounted.queued, List.map_append] at all
  rw [← List.map_append]
  exact (accounted.ran.map Job.number).nodup_iff.mpr (List.nodup_append.mp all).1

end Jobs

end Rkipc.Engine
