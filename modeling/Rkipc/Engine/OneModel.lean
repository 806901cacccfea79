import Mathlib.Data.Nat.ModEq
import Rkipc.Engine.RknnPool

namespace Rkipc.Engine

open Transition

/-! The workers that are in `Run` of one model. -/

variable {ι o : Type} {rknn next : RknnPool ι o} {label : RknnLabel ι o}
  {threadNum : Nat} {guard : RknnPool ι o → RknnLabel ι o → Prop}

namespace RknnPool

/-- No two workers are in `Run` of the same element of `models`. -/
def Exclusive (rknn : RknnPool ι o) : Prop :=
  ∀ (first second : Nat) (left right : Job ι), first ≠ second →
    rknn.pool.workers[first]? = some (.running left) →
    rknn.pool.workers[second]? = some (.running right) → left.model ≠ right.model

/-- A job is taken when the one `threadNum` calls of `put` before it has ended. -/
def Spaced (rknn : RknnPool ι o) : RknnLabel ι o → Prop
  | .pool (.enter _) => ∀ job ∈ rknn.pool.pool.tasks.head?,
      job.number < rknn.threadNum ∨
        job.number - rknn.threadNum ∈ rknn.pool.completed.map Job.number
  | _ => True

instance (rknn : RknnPool ι o) : ∀ label, Decidable (rknn.Spaced label)
  | .pool (.enter _) => inferInstanceAs (Decidable (∀ job ∈ rknn.pool.pool.tasks.head?, _))
  | .put _ | .submit _ | .get | .deliver | .finish _ _ | .drain => isTrue trivial
  | .pool (.submit _ _) | .pool (.wake _ _) | .pool (.finish _) | .pool (.join _)
  | .pool (.terminate _) | .pool .quit | .pool (.notifyAll _) | .pool .joinNext =>
    isTrue trivial

/-- What the guard has seen to for all the jobs that were started. -/
def Ended (rknn : RknnPool ι o) : Prop :=
  ∀ job ∈ rknn.pool.started, job.number < rknn.threadNum ∨
    job.number - rknn.threadNum ∈ rknn.pool.completed.map Job.number

end RknnPool

theorem threadNum_of_moves (moves : RknnMoves rknn label next) :
    next.threadNum = rknn.threadNum := by
  cases moves <;> rfl

theorem threadNum_of_reachable (reachable : (rknnPool ι o threadNum).Reachable guard rknn) :
    rknn.threadNum = threadNum := by
  obtain ⟨_, rfl, reaches⟩ := reachable
  induction reaches with
  | refl => rfl
  | step _ _ stepped induction =>
      exact (threadNum_of_moves (rknnMoves_of_step stepped)).trans induction

theorem completed_grows (moves : RknnMoves rknn label next) {job : Job ι}
    (isCompleted : job ∈ rknn.pool.completed) : job ∈ next.pool.completed := by
  cases pool_of_moves moves with
  | inl same => exact same ▸ isCompleted
  | inr moved =>
      obtain ⟨_, moved⟩ := moved
      obtain same | ⟨_, _, _, _, isNext⟩ := completed_of_moves (moves_of_step moved)
      · exact same ▸ isCompleted
      · exact isNext ▸ List.mem_append_left _ isCompleted

theorem started_cases (moves : RknnMoves rknn label next) :
    next.pool.started = rknn.pool.started ∨
      ∃ worker job, label = .pool (.enter worker) ∧ job ∈ rknn.pool.pool.tasks.head? ∧
        next.pool.workers[worker]? = some (.running job) ∧
        next.pool.started = rknn.pool.started ++ [job] := by
  cases moves with
  | submits isCall submitted =>
      obtain same | ⟨_, _, impossible, _⟩ := started_of_moves (moves_of_step submitted)
      · exact .inl same
      · cases impossible
  | finishes isRunning finished =>
      obtain same | ⟨_, _, impossible, _⟩ := started_of_moves (moves_of_step finished)
      · exact .inl same
      · cases impossible
  | works allowed worked =>
      obtain same | ⟨worker, job, rfl, isHead, isRunning, isNext⟩ :=
        started_of_moves (moves_of_step worked)
      · exact .inl same
      · exact .inr ⟨worker, job, rfl, isHead, isRunning, isNext⟩
  | puts free alive | misses free alive empty | waits free alive pending
  | delivers isCall isFuts isResult | destroys free alive
  | drains isDraining isFuts isResult | drained isDraining empty => exact .inl rfl

theorem ended_step (ended : rknn.Ended) (spaced : rknn.Spaced label)
    (moves : RknnMoves rknn label next) : next.Ended := by
  have kept : ∀ job : Job ι, job.number < rknn.threadNum ∨
      job.number - rknn.threadNum ∈ rknn.pool.completed.map Job.number →
      job.number < next.threadNum ∨
        job.number - next.threadNum ∈ next.pool.completed.map Job.number := by
    intro job before
    rw [threadNum_of_moves moves]
    refine before.imp_right fun isEnded => ?_
    obtain ⟨earlier, isCompleted, isNumber⟩ := List.mem_map.mp isEnded
    exact List.mem_map.mpr ⟨earlier, completed_grows moves isCompleted, isNumber⟩
  intro job isStarted
  refine kept job ?_
  obtain same | ⟨worker, taken, rfl, isHead, _, isNext⟩ := started_cases moves
  · exact ended job (same ▸ isStarted)
  · rw [isNext] at isStarted
    cases List.mem_append.mp isStarted with
    | inl before => exact ended job before
    | inr last =>
        obtain rfl := List.mem_singleton.mp last
        exact spaced job isHead

/-- Every job with the model of a started one and a lower number has ended. -/
theorem ended_before (accounted : Accounted rknn.pool) (ended : rknn.Ended) (number : Nat) :
    ∀ (turns : Nat) {job : Job ι}, job ∈ rknn.pool.started →
      job.number = number + (turns + 1) * rknn.threadNum →
      number ∈ rknn.pool.completed.map Job.number := by
  intro turns
  induction turns with
  | zero =>
      intro job isStarted isNumber
      rw [Nat.zero_add, Nat.one_mul] at isNumber
      have isEnded := (ended job isStarted).resolve_left (by omega)
      rwa [isNumber, Nat.add_sub_cancel] at isEnded
  | succ turns induction =>
      intro job isStarted isNumber
      rw [Nat.succ_mul, ← Nat.add_assoc] at isNumber
      have isEnded := (ended job isStarted).resolve_left (by omega)
      rw [isNumber, Nat.add_sub_cancel] at isEnded
      obtain ⟨earlier, isCompleted, isEarlier⟩ := List.mem_map.mp isEnded
      exact induction (accounted.mem_started.mpr (.inl isCompleted)) isEarlier

theorem number_ne (numbered : Numbered rknn) (accounted : Accounted rknn.pool)
    {first second : Nat} {left right : Job ι} (different : first ≠ second)
    (isLeft : rknn.pool.workers[first]? = some (.running left))
    (isRight : rknn.pool.workers[second]? = some (.running right)) :
    left.number ≠ right.number := by
  have once := (List.nodup_append.mp (numbered.nodup accounted)).2.1
  unfold State.taken at once
  rw [List.map_filterMap, List.Nodup, List.pairwise_filterMap] at once
  have apart := List.pairwise_iff_getElem.mp once
  obtain ⟨firstInside, isFirst⟩ := List.getElem?_eq_some_iff.mp isLeft
  obtain ⟨secondInside, isSecond⟩ := List.getElem?_eq_some_iff.mp isRight
  have ordered : ∀ {i j : Nat} {a b : Job ι} (iInside : i < rknn.pool.workers.length)
      (jInside : j < rknn.pool.workers.length), i < j →
      rknn.pool.workers[i] = .running a → rknn.pool.workers[j] = .running b →
      a.number ≠ b.number := by
    intro i j a b iInside jInside before isA isB
    exact apart i j iInside jInside before a.number (by rw [isA]; rfl)
      b.number (by rw [isB]; rfl)
  cases Nat.lt_or_gt_of_ne different with
  | inl before => exact ordered firstInside secondInside before isFirst isSecond
  | inr after => exact (ordered secondInside firstInside after isSecond isFirst).symm

theorem exclusive_of_ended (numbered : Numbered rknn) (accounted : Accounted rknn.pool)
    (ended : rknn.Ended) : rknn.Exclusive := by
  have differ : ∀ {left right : Job ι}, left ∈ rknn.pool.taken →
      right ∈ rknn.pool.taken → left.number < right.number →
      left.model ≠ right.model := by
    intro left right isLeft isRight before same
    rw [numbered.models left (accounted.mem_submitted (.inr isLeft)),
      numbered.models right (accounted.mem_submitted (.inr isRight))] at same
    obtain ⟨turns, isTurns⟩ := (Nat.modEq_iff_dvd' (Nat.le_of_lt before)).mp same
    cases turns with
    | zero => omega
    | succ turns =>
        have isNumber : right.number = left.number + (turns + 1) * rknn.threadNum := by
          rw [Nat.mul_comm] at isTurns
          omega
        have isStarted := accounted.mem_started.mpr (.inr isRight)
        have isEnded := ended_before accounted ended left.number turns isStarted isNumber
        refine (List.nodup_append.mp (numbered.nodup accounted)).2.2 _ isEnded _ ?_ rfl
        exact List.mem_map_of_mem isLeft
  intro first second left right different isLeft isRight
  cases Nat.lt_or_gt_of_ne (number_ne numbered accounted different isLeft isRight) with
  | inl before => exact differ (mem_taken isLeft) (mem_taken isRight) before
  | inr after => exact (differ (mem_taken isRight) (mem_taken isLeft) after).symm

theorem ended_of_reachable
    (reachable : (rknnPool ι o threadNum).Reachable RknnPool.Spaced rknn) : rknn.Ended := by
  refine System.Reachable.invariant ?_ ?_ reachable
  · rintro _ rfl
    exact nofun
  · intro rknn label next ended spaced stepped
    exact ended_step ended spaced (rknnMoves_of_step stepped)

theorem exclusive_of_spaced (room : 1 ≤ threadNum)
    (reachable : (rknnPool ι o threadNum).Reachable RknnPool.Spaced rknn) :
    rknn.Exclusive :=
  exclusive_of_ended (numbered_of_reachable reachable)
    (sound_of_reachable (pool_reachable room reachable)).accounted
    (ended_of_reachable reachable)

theorem taken_cases {state : State (Job ι)} {job : Job ι} (isTaken : job ∈ state.taken) :
    ∃ worker : Nat, state.workers[worker]? = some (.running job) := by
  obtain ⟨phase, isWorker, isTask⟩ := List.mem_filterMap.mp isTaken
  obtain ⟨worker, isAt⟩ := List.getElem?_of_mem isWorker
  cases phase with
  | running task =>
      cases isTask
      exact ⟨worker, isAt⟩
  | locking fresh | waiting | woken timedOut | joining | exiting | terminated =>
      cases isTask

theorem started_before (numbered : Numbered rknn) (accounted : Accounted rknn.pool)
    {job : Job ι} (isHead : job ∈ rknn.pool.pool.tasks.head?) {number : Nat}
    (before : number < job.number) : ∃ earlier ∈ rknn.pool.started,
      earlier.number = number := by
  obtain ⟨tasks, isTasks⟩ := List.head?_eq_some_iff.mp isHead
  have numbers := numbered.numbers
  rw [accounted.queued, isTasks, List.map_append, List.map_cons] at numbers
  have place : ∀ n : Nat, ((rknn.pool.started.map Job.number ++
      job.number :: tasks.map Job.number)[n]?) = (List.range rknn.results.length)[n]? :=
    fun n => congrArg (fun numbers : List Nat => numbers[n]?) numbers
  have atHead := place rknn.pool.started.length
  rw [List.getElem?_append_right (by rw [List.length_map]), List.length_map,
    Nat.sub_self, List.getElem?_cons_zero] at atHead
  obtain ⟨inside, same⟩ := List.getElem?_eq_some_iff.mp atHead.symm
  rw [List.getElem_range] at same
  have atNumber := place number
  have inStarted : number < rknn.pool.started.length := same ▸ before
  rw [List.getElem?_append_left (by rw [List.length_map]; exact inStarted),
    List.getElem?_map, List.getElem?_eq_getElem inStarted,
    List.getElem?_eq_getElem (Nat.lt_trans (same ▸ before) inside)] at atNumber
  have isNumber := Option.some.inj atNumber
  rw [List.getElem_range] at isNumber
  exact ⟨_, List.getElem_mem inStarted, isNumber⟩

/-- Every step that the condition leaves out brings two workers to one model. -/
theorem not_exclusive_of_unspaced (room : 1 ≤ threadNum) {worker : Nat}
    (reachable : (rknnPool ι o threadNum).Reachable guard rknn)
    (unspaced : ¬ rknn.Spaced (.pool (.enter worker)))
    (stepped : rknn.step (.pool (.enter worker)) = some next) : ¬ next.Exclusive := by
  have numbered := numbered_of_reachable reachable
  have accounted := (sound_of_reachable (pool_reachable room reachable)).accounted
  obtain ⟨job, crowded⟩ := not_forall.mp unspaced
  obtain ⟨isHead, crowded⟩ := Classical.not_imp.mp crowded
  obtain ⟨notFirst, notEnded⟩ := not_or.mp crowded
  have whole : job.number - rknn.threadNum + rknn.threadNum = job.number :=
    Nat.sub_add_cancel (Nat.le_of_not_lt notFirst)
  have positive : 1 ≤ rknn.threadNum := threadNum_of_reachable reachable ▸ room
  obtain ⟨earlier, isStarted, isEarlier⟩ := started_before numbered accounted isHead
    (show job.number - rknn.threadNum < job.number by omega)
  have isTaken : earlier ∈ rknn.pool.taken := by
    refine (accounted.mem_started.mp isStarted).resolve_left fun isCompleted => notEnded ?_
    exact List.mem_map.mpr ⟨earlier, isCompleted, isEarlier⟩
  obtain ⟨other, isRunning⟩ := taken_cases isTaken
  have isQueued : job ∈ rknn.pool.submitted := by
    rw [accounted.queued]
    exact List.mem_append_right _ (List.mem_of_head? isHead)
  have sameModel : earlier.model = job.model := by
    rw [numbered.models job isQueued,
      numbered.models earlier (accounted.mem_submitted (.inr isTaken)), isEarlier]
    exact (Nat.add_mod_right _ _).symm.trans (congrArg (· % rknn.threadNum) whole)
  obtain ⟨tasks, isTasks⟩ := List.head?_eq_some_iff.mp isHead
  intro exclusive
  cases rknnMoves_of_step stepped with
  | works allowed worked =>
      cases moves_of_step worked with
      | @enters _ old new pool free isOld entered =>
          cases entered with
          | waits isEntering isOpen empty | exits isEntering quit empty
          | retires isEntering isOpen empty => cases isTasks.symm.trans empty
          | @takes task _ isEntering isFront =>
              obtain ⟨rfl, _⟩ := List.cons.inj (isTasks.symm.trans isFront)
              have different : worker ≠ other := by
                rintro rfl
                cases Option.some.inj (isOld.symm.trans isRunning)
                cases isEntering
              have inside := (List.getElem?_eq_some_iff.mp isOld).1
              refine exclusive worker other job earlier different
                (List.getElem?_set_self inside) ?_ sameModel.symm
              exact (List.getElem?_set_ne different).trans isRunning

section Examples

/-- The third job is taken by the worker of the first one, which has ended. -/
theorem exclusive_of_spaced_three :
    ∃ rknn : RknnPool Nat Nat, rknn.pool.workers = [.running ⟨2, 0, 30⟩, .running ⟨1, 1, 20⟩] ∧
      rknn.Exclusive := by
  let labels : List (RknnLabel Nat Nat) :=
    [.put 10, .submit none, .pool (.enter 0), .put 20, .submit none, .pool (.enter 1),
      .finish 0 5, .put 30, .submit none, .pool (.enter 0)]
  have ran : ((rknnPool Nat Nat 2).guardedRun
      (fun rknn label => decide (rknn.Spaced label)) (.start 2) labels).map
        (fun rknn => rknn.pool.workers) =
      some [.running ⟨2, 0, 30⟩, .running ⟨1, 1, 20⟩] := by
    decide
  obtain ⟨rknn, ran, isRunning⟩ := Option.map_eq_some_iff.mp ran
  have reachable : (rknnPool Nat Nat 2).Reachable RknnPool.Spaced rknn :=
    ⟨_, rfl,
      System.reaches_of_guardedRun (fun _ _ allowed => of_decide_eq_true allowed) labels ran⟩
  exact ⟨rknn, isRunning, exclusive_of_spaced (by decide) reachable⟩

/-- The second job ends before the first one, and its worker takes the third. -/
theorem model_shared :
    ∃ rknn : RknnPool Nat Nat, (rknnPool Nat Nat 2).Reachable System.anyStep rknn ∧
      ¬ rknn.Exclusive := by
  let labels : List (RknnLabel Nat Nat) :=
    [.put 10, .submit none, .pool (.enter 0), .put 20, .submit none, .pool (.enter 1),
      .finish 1 5, .put 30, .submit none, .pool (.enter 1)]
  have ran : ((rknnPool Nat Nat 2).run (.start 2) labels).map
      (fun rknn => rknn.pool.workers) =
      some [.running ⟨0, 0, 10⟩, .running ⟨2, 0, 30⟩] := by
    decide
  obtain ⟨rknn, ran, isRunning⟩ := Option.map_eq_some_iff.mp ran
  refine ⟨rknn, System.reachable_of_run rfl ran, fun exclusive => ?_⟩
  refine exclusive 0 1 ⟨0, 0, 10⟩ ⟨2, 0, 30⟩ (by decide) ?_ ?_ rfl
  · rw [isRunning]
    rfl
  · rw [isRunning]
    rfl

end Examples

end Rkipc.Engine
