import Rkipc.Engine.RknnPool

namespace Rkipc.Engine

open Transition

/-! The pool of models is a plain queue to its callers. -/

variable {ι o : Type} {rknn next : RknnPool ι o} {label : RknnLabel ι o}
  {threadNum : Nat} {guard : RknnPool ι o → RknnLabel ι o → Prop}
  {fifo : Fifo ι o} {popped : Nat}

/-- The queue as the pool of models has it, `popped` futures further than it began. -/
structure Follows (rknn : RknnPool ι o) (popped : Nat) (fifo : Fifo ι o) : Prop where
  inputs : fifo.inputs = rknn.pool.submitted.map Job.input
  results : fifo.results = rknn.results
  closed : fifo.closed = true ↔ rknn.drain = .drained
  delivered : rknn.drain = .notCalled → fifo.delivered = popped
  bound : popped ≤ rknn.results.length
  futs : rknn.futs = (List.range rknn.results.length).drop popped
  known : ∀ number < popped, ∃ output, rknn.results[number]? = some (some output)
  pending : ∀ number < rknn.results.length,
    number ∉ rknn.pool.completed.map Job.number → rknn.results[number]? = some none
  holder : rknn.queueMtx ≠ none → rknn.drain = .notCalled

def RknnPool.IsFifo (rknn : RknnPool ι o) : Prop :=
  ∃ fifo popped, Fifo.Runs rknn.trace fifo ∧ Follows rknn popped fifo

theorem Follows.isOpen (follows : Follows rknn popped fifo)
    (alive : rknn.drain ≠ .drained) : fifo.closed = false :=
  Bool.eq_false_iff.mpr fun closed => alive (follows.closed.mp closed)

theorem Follows.length (follows : Follows rknn popped fifo) (numbered : Numbered rknn) :
    fifo.inputs.length = rknn.results.length := by
  have same := congrArg List.length numbered.numbers
  rw [List.length_map, List.length_range] at same
  rw [follows.inputs, List.length_map, same]

theorem Follows.cons (follows : Follows rknn popped fifo) {number : Nat} {futs : List Nat}
    (isFuts : rknn.futs = number :: futs) :
    number = popped ∧ popped < rknn.results.length ∧
      futs = (List.range rknn.results.length).drop (popped + 1) := by
  have split := follows.futs.symm.trans isFuts
  have inside : popped < (List.range rknn.results.length).length := by
    refine Nat.lt_of_not_le fun outside => ?_
    rw [List.drop_eq_nil_of_le outside] at split
    cases split
  rw [List.drop_eq_getElem_cons inside, List.getElem_range] at split
  obtain ⟨same, rest⟩ := List.cons.inj split
  rw [List.length_range] at inside
  exact ⟨same.symm, inside, rest.symm⟩

theorem Follows.all_popped (follows : Follows rknn popped fifo) (empty : rknn.futs = []) :
    popped = rknn.results.length := by
  have outside := List.drop_eq_nil_iff.mp (follows.futs.symm.trans empty)
  rw [List.length_range] at outside
  exact Nat.le_antisymm follows.bound outside

theorem Follows.known_succ (follows : Follows rknn popped fifo) {output : o}
    (isResult : rknn.results[popped]? = some (some output)) (number : Nat)
    (before : number < popped + 1) : ∃ output, rknn.results[number]? = some (some output) := by
  cases Nat.lt_succ_iff_lt_or_eq.mp before with
  | inl earlier => exact follows.known number earlier
  | inr same => exact ⟨output, same ▸ isResult⟩

theorem completed_of_other {state after : State (Job ι)} {label : Label (Job ι)}
    (stepped : state.step label = some after) (other : ∀ worker, label ≠ .finish worker) :
    after.completed = state.completed := by
  obtain same | ⟨worker, _, impossible, _⟩ := completed_of_moves (moves_of_step stepped)
  · exact same
  · exact absurd impossible (other worker)

theorem Follows.submit (follows : Follows rknn popped fifo) {model : Nat} {input : ι}
    {notified : Option Nat} {pool : State (Job ι)}
    (submitted : rknn.pool.step
      (.submit ⟨rknn.results.length, model, input⟩ notified) = some pool) :
    Follows ({ rknn with
      queueMtx := none
      pool := pool
      futs := rknn.futs ++ [rknn.results.length]
      results := rknn.results ++ [none] }.record (.put input)) popped
      { fifo with inputs := fifo.inputs ++ [input], results := fifo.results ++ [none] } := by
  have isSubmitted := submitted_of_moves (moves_of_step submitted)
  have isCompleted := completed_of_other submitted nofun
  refine ⟨?_, ?_, follows.closed, follows.delivered, ?_, ?_, ?_, ?_, fun held => absurd rfl held⟩
  · dsimp only [RknnPool.record]
    rw [isSubmitted, List.map_append, follows.inputs]
    rfl
  · dsimp only [RknnPool.record]
    rw [follows.results]
  · dsimp only [RknnPool.record]
    rw [List.length_append]
    exact Nat.le_succ_of_le follows.bound
  · dsimp only [RknnPool.record]
    have bound : popped ≤ (List.range rknn.results.length).length :=
      List.length_range.symm ▸ follows.bound
    rw [List.length_append, List.length_singleton, List.range_succ,
      List.drop_append_of_le_length bound, follows.futs]
  · intro number before
    obtain ⟨output, isResult⟩ := follows.known number before
    have inside := (List.getElem?_eq_some_iff.mp isResult).1
    exact ⟨output, (List.getElem?_append_left inside).trans isResult⟩
  · dsimp only [RknnPool.record]
    rw [isCompleted]
    intro number inside notCompleted
    rw [List.length_append, List.length_singleton] at inside
    cases Nat.lt_succ_iff_lt_or_eq.mp inside with
    | inl before =>
        rw [List.getElem?_append_left before]
        exact follows.pending number before notCompleted
    | inr same => exact same ▸ List.getElem?_concat_length

theorem Follows.finish (follows : Follows rknn popped fifo) {worker : Nat} {job : Job ι}
    (output : o) {pool : State (Job ι)}
    (isRunning : rknn.pool.workers[worker]? = some (.running job))
    (finished : rknn.pool.step (.finish worker) = some pool)
    (isNew : rknn.results[job.number]? = some none) :
    Follows ({ rknn with
      pool := pool
      results := rknn.results.set job.number (some output) }.record
        (.run job.number job.input output)) popped
      { fifo with results := fifo.results.set job.number (some output) } := by
  have moves := moves_of_step finished
  have isSubmitted := submitted_of_other finished rfl
  have isCompleted : pool.completed = rknn.pool.completed ++ [job] := by
    cases moves with
    | finishes isOld =>
        cases Option.some.inj (isOld.symm.trans isRunning)
        rfl
  refine ⟨?_, ?_, follows.closed, follows.delivered, ?_, ?_, ?_, ?_, follows.holder⟩
  · exact follows.inputs.trans (congrArg _ isSubmitted.symm)
  · exact congrArg (List.set · _ _) follows.results
  · exact Nat.le_trans follows.bound (Nat.le_of_eq List.length_set.symm)
  · dsimp only [RknnPool.record]
    rw [List.length_set]
    exact follows.futs
  · intro number before
    obtain ⟨found, isResult⟩ := follows.known number before
    have different : job.number ≠ number := by
      rintro rfl
      cases isNew.symm.trans isResult
    exact ⟨found, (List.getElem?_set_ne different).trans isResult⟩
  · dsimp only [RknnPool.record]
    rw [isCompleted, List.length_set, List.map_append]
    intro number inside notCompleted
    have ⟨before, notLast⟩ := not_or.mp fun either => notCompleted (List.mem_append.mpr either)
    have different : job.number ≠ number := fun same =>
      notLast (List.mem_singleton.mpr same.symm)
    rw [List.getElem?_set_ne different]
    exact follows.pending number inside before

/-- A job that runs has no result yet, and its input is that of its `put`. -/
theorem Follows.running (follows : Follows rknn popped fifo) (numbered : Numbered rknn)
    (accounted : Accounted rknn.pool) {worker : Nat} {job : Job ι}
    (isRunning : rknn.pool.workers[worker]? = some (.running job)) :
    fifo.inputs[job.number]? = some job.input ∧
      rknn.results[job.number]? = some none := by
  have isTaken := mem_taken isRunning
  obtain ⟨isAt, inside⟩ := numbered.at_number (accounted.mem_submitted (.inr isTaken))
  refine ⟨?_, follows.pending _ inside fun isCompleted => ?_⟩
  · rw [follows.inputs, List.getElem?_map, isAt]
    rfl
  · have apart := (List.nodup_append.mp (numbered.nodup accounted)).2.2
    exact apart _ isCompleted _ (List.mem_map_of_mem isTaken) rfl

theorem Follows.work (follows : Follows rknn popped fifo) {label : Label (Job ι)}
    {pool : State (Job ι)} (allowed : rknn.allows label = true)
    (worked : rknn.pool.step label = some pool) :
    Follows { rknn with pool := pool } popped fifo := by
  have notSubmit : label.task? = none := by
    cases label with
    | submit task notified => cases allowed
    | enter worker | wake worker timedOut | finish worker | join worker
    | terminate worker | quit | notifyAll order | joinNext => rfl
  have notFinish : ∀ worker, label ≠ .finish worker := by
    rintro worker rfl
    cases allowed
  have isSubmitted := submitted_of_other worked notSubmit
  have isCompleted := completed_of_other worked notFinish
  exact ⟨follows.inputs.trans (congrArg _ isSubmitted.symm), follows.results, follows.closed,
    follows.delivered, follows.bound, follows.futs, follows.known,
    fun number inside notCompleted => follows.pending number inside
      fun isIn => notCompleted (isCompleted.symm ▸ isIn), follows.holder⟩

/-- One step of the pool of models is one of the queue, or none. -/
theorem Follows.step (follows : Follows rknn popped fifo) (numbered : Numbered rknn)
    (accounted : Accounted rknn.pool) (runs : Fifo.Runs rknn.trace fifo)
    (moves : RknnMoves rknn label next) :
    next.IsFifo := by
  cases moves with
  | puts free alive =>
      exact ⟨fifo, popped, runs, ⟨follows.inputs, follows.results, follows.closed,
        follows.delivered, follows.bound, follows.futs, follows.known, follows.pending,
        fun _ => alive⟩⟩
  | @submits model input notified pool isCall submitted =>
      have alive := follows.holder (isCall ▸ nofun)
      exact ⟨_, popped, runs.step (.put input (follows.isOpen (alive ▸ nofun))),
        follows.submit submitted⟩
  | misses free alive empty =>
      have all : fifo.delivered = fifo.inputs.length := by
        rw [follows.delivered alive, follows.length numbered]
        exact follows.all_popped empty
      exact ⟨fifo, popped, runs.step (.miss (follows.isOpen (alive ▸ nofun)) all),
        ⟨follows.inputs, follows.results, follows.closed, follows.delivered, follows.bound,
          follows.futs, follows.known, follows.pending, follows.holder⟩⟩
  | waits free alive pending =>
      exact ⟨fifo, popped, runs, ⟨follows.inputs, follows.results, follows.closed,
        follows.delivered, follows.bound, follows.futs, follows.known, follows.pending,
        fun _ => alive⟩⟩
  | @delivers number futs output isCall isFuts isResult =>
      have alive := follows.holder (isCall ▸ nofun)
      obtain ⟨rfl, inside, isRest⟩ := follows.cons isFuts
      have atFront : fifo.results[fifo.delivered]? = some (some output) := by
        rw [follows.delivered alive, follows.results]
        exact isResult
      exact ⟨_, number + 1, runs.step (.deliver (follows.isOpen (alive ▸ nofun)) atFront),
        ⟨follows.inputs, follows.results, follows.closed,
          fun alive => congrArg (· + 1) (follows.delivered alive), inside, isRest,
          follows.known_succ isResult, follows.pending, fun held => absurd rfl held⟩⟩
  | @finishes worker job output pool isRunning finished =>
      obtain ⟨isInput, isNew⟩ := follows.running numbered accounted isRunning
      exact ⟨_, popped, runs.step (.run output isInput (follows.results ▸ isNew)),
        follows.finish output isRunning finished isNew⟩
  | works allowed worked => exact ⟨fifo, popped, runs, follows.work allowed worked⟩
  | destroys free alive =>
      exact ⟨fifo, popped, runs, ⟨follows.inputs, follows.results,
        ⟨fun closed => absurd (alive.symm.trans (follows.closed.mp closed)) nofun, nofun⟩,
        nofun,
        follows.bound, follows.futs, follows.known, follows.pending,
        fun held => absurd free held⟩⟩
  | @drains number futs output isDraining isFuts isResult =>
      obtain ⟨rfl, inside, isRest⟩ := follows.cons isFuts
      exact ⟨fifo, number + 1, runs, ⟨follows.inputs, follows.results, follows.closed,
        fun alive => absurd (isDraining.symm.trans alive) nofun, inside, isRest,
        follows.known_succ isResult, follows.pending, follows.holder⟩⟩
  | drained isDraining empty =>
      have all : ∀ result ∈ fifo.results, result.isSome = true := by
        intro result isMember
        rw [follows.results] at isMember
        obtain ⟨number, isAt⟩ := List.getElem?_of_mem isMember
        have inside := (List.getElem?_eq_some_iff.mp isAt).1
        obtain ⟨output, isResult⟩ := follows.known number (follows.all_popped empty ▸ inside)
        cases Option.some.inj (isAt.symm.trans isResult)
        rfl
      have held : rknn.queueMtx ≠ none → False := fun held =>
        nomatch isDraining.symm.trans (follows.holder held)
      exact ⟨_, popped, runs.step (.close (follows.isOpen (isDraining ▸ nofun)) all),
        ⟨follows.inputs, follows.results, ⟨fun _ => rfl, fun _ => rfl⟩, nofun,
          follows.bound, follows.futs, follows.known, follows.pending,
          fun call => (held call).elim⟩⟩

theorem follows_of_reachable (room : 1 ≤ threadNum)
    (reachable : (rknnPool ι o threadNum).Reachable guard rknn) : rknn.IsFifo := by
  refine System.Reachable.strengthen ?_ ?_ reachable
  · rintro _ rfl
    exact ⟨.empty, 0, .start, ⟨rfl, rfl, ⟨nofun, nofun⟩, fun _ => rfl, Nat.le_refl _, rfl,
      nofun, nofun, fun held => absurd rfl held⟩⟩
  · rintro rknn label next reachable ⟨fifo, popped, runs, follows⟩ _ stepped
    exact follows.step (numbered_of_reachable reachable)
      (sound_of_reachable (pool_reachable room reachable)).accounted runs
      (rknnMoves_of_step stepped)

/-- Results come back in order, and the destructor waits for all of them. -/
theorem inOrder_of_reachable (room : 1 ≤ threadNum)
    (reachable : (rknnPool ι o threadNum).Reachable System.anyStep rknn) :
    InOrder rknn.trace := by
  obtain ⟨_, _, runs, _⟩ := follows_of_reachable room reachable
  exact runs.remembers.inOrder

/-- The second run ends first, and the first `get` waits for the other. -/
theorem inOrder_of_reachable_swapped :
    ∃ rknn : RknnPool Nat Nat, rknn.trace = [.put 10, .put 20, .run 1 20 7, .run 0 10 5,
        .get (some 5), .get (some 7), .get none, .drained] ∧ InOrder rknn.trace := by
  let labels : List (RknnLabel Nat Nat) :=
    [.put 10, .submit none, .pool (.enter 0), .put 20, .submit none, .pool (.enter 1), .get,
      .finish 1 7, .finish 0 5, .deliver, .get, .deliver, .get, .drain, .drain]
  have ran : ((rknnPool Nat Nat 2).run (.start 2) labels).map RknnPool.trace =
      some [.put 10, .put 20, .run 1 20 7, .run 0 10 5,
        .get (some 5), .get (some 7), .get none, .drained] := by
    decide
  obtain ⟨rknn, ran, isTrace⟩ := Option.map_eq_some_iff.mp ran
  exact ⟨rknn, isTrace, inOrder_of_reachable (by decide) (System.reachable_of_run rfl ran)⟩

end Rkipc.Engine
