import Rkipc.Engine.PoolTasks
import Rkipc.Engine.PoolEntries

namespace Rkipc.Engine

open Transition

/-! The pool runs every task once and shuts down cleanly. -/

variable {τ : Type} {state next : State τ} {label : Label τ}

namespace State

/-- Whether the thread is a worker before its last unlock. -/
def live (state : State τ) (id : Nat) : Bool :=
  state.workers[id]?.any fun phase => !phase.isPast

/-- The worker is in the `join` of another one, with the mutex. -/
def workerJoins (state : State τ) (worker id : Nat) : Prop :=
  state.workers[worker]? = some .joining ∧ state.pool.finishedThreadIds.head? = some id

def destructorJoins (state : State τ) (id : Nat) : Prop :=
  ∃ rest, state.destructor = .joining (id :: rest)

end State

structure Clean (state : State τ) : Prop where
  bounded : state.pool.currentThreads ≤ state.pool.maxThreads
  served : state.pool.tasks ≠ [] → ∃ phase ∈ state.workers, phase.undecided = true
  enters : ∀ phase, phase.entering = true → (state.pool.enter phase).isSome = true
  entries : state.pool.quit = false → state.pool.threads.Nodup ∧
    ∀ id, id ∈ state.pool.threads ↔
      state.live id = true ∨ id ∈ state.pool.finishedThreadIds
  finished : state.pool.quit = false → state.pool.finishedThreadIds.Nodup ∧
    ∀ id ∈ state.pool.finishedThreadIds, state.past id = true
  joinedOnce : state.joined.Nodup
  joinedEnded : ∀ id ∈ state.joined, state.workers[id]? = some .terminated
  workerJoins : ∀ worker id, state.workerJoins worker id →
    id ≠ worker ∧ id ∉ state.joined ∧ id ∈ state.pool.threads ∧ state.past id = true
  destructorJoins : ∀ id, state.destructorJoins id →
    id ∉ state.joined ∧ id < state.workers.length ∧ state.mutex = none
  returned : state.destructor = .returned →
    state.completed.Perm state.submitted ∧
      (∀ phase ∈ state.workers, phase = .terminated) ∧
      state.joined.Perm (List.range state.workers.length)

structure Sound (state : State τ) : Prop where
  counted : Counted state
  accounted : Accounted state
  entries : Entries state

theorem sound_start {maxThreads : Nat} (room : 1 ≤ maxThreads) :
    Sound (.start maxThreads : State τ) where
  counted := ⟨rfl, rfl, Nat.zero_le _, room, fun tasks => absurd rfl tasks⟩
  accounted := ⟨rfl, .refl _⟩
  entries := ⟨.refl _, nofun, fun _ _ => ⟨nofun, nofun⟩, List.nodup_nil,
    fun _ => ⟨nofun, nofun⟩, fun held => absurd rfl held, fun _ => rfl, fun _ => rfl⟩

theorem sound_of_reachable {guard : State τ → Label τ → Prop}
    (reachable : (threadPool τ).Reachable guard state) : Sound state := by
  refine System.Reachable.invariant ?_ ?_ reachable
  · rintro _ ⟨maxThreads, room, rfl⟩
    exact sound_start room
  · intro state label next sound _ stepped
    have moves := moves_of_step stepped
    exact ⟨sound.counted.step moves, sound.accounted.step moves, sound.entries.step moves⟩

/-- Before the destructor the entries are the threads that are not joined. -/
theorem Entries.mem_threads (entries : Entries state) (isOpen : state.pool.quit = false)
    (id : Nat) : id ∈ state.pool.threads ↔
      state.live id = true ∨ id ∈ state.pool.finishedThreadIds := by
  have isUnjoined := unjoined_of_alive (entries.isOpen.mp isOpen)
  have ids := entries.ids
  rw [isUnjoined] at ids
  rw [entries.retired isOpen id]
  constructor
  · intro entry
    have inside := List.mem_range.mp (ids.mem_iff.mp (List.mem_append_right _ entry))
    unfold State.live State.past
    rw [List.getElem?_eq_getElem inside]
    cases isPast : (state.workers[id]).isPast with
    | true => exact .inr ⟨entry, isPast⟩
    | false => exact .inl (congrArg not isPast)
  · rintro (isLive | ⟨entry, _⟩)
    · unfold State.live at isLive
      obtain ⟨phase, isAt, before⟩ := (Option.any_eq_true _ _).mp isLive
      have inside := (List.getElem?_eq_some_iff.mp isAt).1
      have among := ids.mem_iff.mpr (List.mem_range.mpr inside)
      refine (List.mem_append.mp among).resolve_left fun isJoined => ?_
      rw [entries.ended id isJoined] at isAt
      cases isAt
      cases before
    · exact entry

theorem Entries.not_joined (entries : Entries state) {id : Nat}
    (isUnjoined : id ∈ state.unjoined) : id ∉ state.joined :=
  fun isJoined => (List.nodup_append.mp entries.nodup).2.2 id isJoined id isUnjoined rfl

theorem Entries.workerJoins (entries : Entries state) {worker id : Nat}
    (joins : state.workerJoins worker id) :
    id ≠ worker ∧ id ∉ state.joined ∧ id ∈ state.pool.threads ∧ state.past id = true := by
  obtain ⟨isJoining, isNext⟩ := joins
  have alive := entries.alive isJoining
  have queued := List.mem_of_head? isNext
  have ⟨entry, isPast⟩ := (entries.retired (entries.isOpen.mpr alive) id).mp queued
  refine ⟨?_, entries.not_joined (unjoined_of_alive alive ▸ entry), entry, isPast⟩
  rintro rfl
  unfold State.past at isPast
  rw [isJoining] at isPast
  cases isPast

theorem Sound.returned (sound : Sound state) (returned : state.destructor = .returned) :
    state.completed.Perm state.submitted ∧
      (∀ phase ∈ state.workers, phase = .terminated) ∧
      state.joined.Perm (List.range state.workers.length) := by
  have joined := sound.entries.ids
  rw [show state.unjoined = [] by unfold State.unjoined; rw [returned],
    List.append_nil] at joined
  have ended : ∀ phase ∈ state.workers, phase = .terminated := by
    intro phase isWorker
    obtain ⟨id, isAt⟩ := List.getElem?_of_mem isWorker
    have inside := (List.getElem?_eq_some_iff.mp isAt).1
    have isJoined := joined.mem_iff.mpr (List.mem_range.mpr inside)
    exact Option.some.inj (isAt.symm.trans (sound.entries.ended id isJoined))
  have noTasks : state.pool.tasks = [] := by
    refine Classical.byContradiction fun tasks => ?_
    have positive := sound.counted.served tasks
    rw [sound.counted.current, List.countP_pos_iff] at positive
    obtain ⟨phase, isWorker, undecided⟩ := positive
    rw [ended phase isWorker] at undecided
    cases undecided
  have noneTaken : state.taken = [] := by
    refine List.filterMap_eq_nil_iff.mpr fun phase isWorker => ?_
    rw [ended phase isWorker]
    rfl
  have ran := sound.accounted.ran
  rw [noneTaken, List.append_nil] at ran
  rw [sound.accounted.queued, noTasks, List.append_nil]
  exact ⟨ran, ended, joined⟩

theorem Sound.clean (sound : Sound state) : Clean state where
  bounded := sound.counted.bounded
  served tasks := by
    have positive := sound.counted.served tasks
    rw [sound.counted.current, List.countP_pos_iff] at positive
    exact positive
  enters _ isEntering := enter_isSome state.pool isEntering
  entries isOpen := by
    have once := (List.nodup_append.mp sound.entries.nodup).2.1
    rw [unjoined_of_alive (sound.entries.isOpen.mp isOpen)] at once
    exact ⟨once, sound.entries.mem_threads isOpen⟩
  finished isOpen := ⟨sound.entries.once,
    fun id queued => ((sound.entries.retired isOpen id).mp queued).2⟩
  joinedOnce := (List.nodup_append.mp sound.entries.nodup).1
  joinedEnded := sound.entries.ended
  workerJoins _ _ joins := sound.entries.workerJoins joins
  destructorJoins id joins := by
    obtain ⟨rest, isJoining⟩ := joins
    have isUnjoined : id ∈ state.unjoined := by
      unfold State.unjoined
      rw [isJoining]
      exact List.mem_cons_self
    have known := sound.entries.ids.mem_iff.mp (List.mem_append_right _ isUnjoined)
    refine ⟨sound.entries.not_joined isUnjoined, List.mem_range.mp known, ?_⟩
    refine Classical.byContradiction fun held => ?_
    exact nomatch isJoining.symm.trans (sound.entries.holder held)
  returned := sound.returned

theorem clean_of_reachable (reachable : (threadPool τ).Reachable System.anyStep state) :
    Clean state :=
  (sound_of_reachable reachable).clean

/-- Two workers retire, the second joins the first, and the destructor joins the rest. -/
theorem clean_of_reachable_returned :
    ∃ state : State Nat, state.completed = [8, 7, 9] ∧ state.joined = [0, 2, 1] ∧
      state.destructor = .returned ∧ Clean state := by
  let labels : List (Label Nat) :=
    [.submit 7 none, .submit 8 none, .enter 0, .enter 1, .finish 1, .finish 0, .enter 0,
      .wake 0 true, .enter 0, .join 0, .enter 1, .wake 1 true, .terminate 0, .enter 1,
      .join 1, .join 1, .submit 9 none, .enter 2, .quit, .notifyAll [2, 1],
      .terminate 1,
      .finish 2, .enter 2, .terminate 2, .joinNext, .joinNext, .joinNext]
  have ran : ((threadPool Nat).run (.start 2) labels).map
      (fun state => (state.completed, state.joined, state.destructor)) =
        some ([8, 7, 9], [0, 2, 1], .returned) := by
    decide
  obtain ⟨state, ran, found⟩ := Option.map_eq_some_iff.mp ran
  obtain ⟨isCompleted, found⟩ := Prod.mk.inj found
  obtain ⟨isJoined, isReturned⟩ := Prod.mk.inj found
  exact ⟨state, isCompleted, isJoined, isReturned,
    clean_of_reachable (System.reachable_of_run ⟨2, by decide, rfl⟩ ran)⟩

end Rkipc.Engine
