import Mathlib.Data.List.Perm.Basic
import Mathlib.Data.List.Nodup
import Rkipc.Engine.PoolSteps

namespace Rkipc.Engine

open Transition

/-! The threads that the pool has entries for, and those that are joined. -/

variable {τ : Type} {state next : State τ} {label : Label τ}

namespace State

def unjoined (state : State τ) : List Nat :=
  match state.destructor with
  | .notCalled | .notifying => state.pool.threads
  | .joining rest => rest
  | .returned => []

/-- Whether the thread is behind its last unlock. -/
def past (state : State τ) (id : Nat) : Bool := state.workers[id]?.any Phase.isPast

end State

structure Entries (state : State τ) : Prop where
  ids : (state.joined ++ state.unjoined).Perm (List.range state.workers.length)
  ended : ∀ id ∈ state.joined, state.workers[id]? = some .terminated
  retired : state.pool.quit = false → ∀ id, id ∈ state.pool.finishedThreadIds ↔
    id ∈ state.pool.threads ∧ state.past id = true
  once : state.pool.finishedThreadIds.Nodup
  owner : ∀ worker, state.mutex = some worker ↔ state.workers[worker]? = some .joining
  holder : state.mutex ≠ none → state.destructor = .notCalled
  isOpen : state.pool.quit = false ↔ state.destructor = .notCalled

theorem getElem?_set_cases {α : Type} {l : List α} {i : Nat} {old : α}
    (isAt : l[i]? = some old) (new : α) (j : Nat) :
    j = i ∧ (l.set i new)[j]? = some new ∨ j ≠ i ∧ (l.set i new)[j]? = l[j]? := by
  obtain ⟨inside, _⟩ := List.getElem?_eq_some_iff.mp isAt
  cases decEq j i with
  | isTrue same =>
      subst same
      exact .inl ⟨rfl, List.getElem?_set_self inside⟩
  | isFalse other => exact .inr ⟨other, List.getElem?_set_ne (Ne.symm other)⟩

theorem past_setPhase {worker : Nat} {old : Phase τ}
    (isOld : state.workers[worker]? = some old) (new : Phase τ)
    (samePast : new.isPast = old.isPast) (id : Nat) :
    (state.setPhase worker new).past id = state.past id := by
  unfold State.past State.setPhase
  obtain ⟨rfl, isNew⟩ | ⟨_, isSame⟩ := getElem?_set_cases isOld new id
  · rw [isNew, isOld]
    exact samePast
  · rw [isSame]

theorem Entries.lives (entries : Entries state) {worker : Nat} {old : Phase τ}
    (isOld : state.workers[worker]? = some old) (alive : old ≠ .terminated)
    (new : Phase τ) :
    (state.joined ++ state.unjoined).Perm
        (List.range (state.setPhase worker new).workers.length) ∧
      ∀ id ∈ state.joined, (state.setPhase worker new).workers[id]? = some .terminated := by
  refine ⟨?_, fun id isJoined => ?_⟩
  · dsimp only [State.setPhase]
    rw [List.length_set]
    exact entries.ids
  · obtain ⟨rfl, _⟩ | ⟨_, isSame⟩ := getElem?_set_cases isOld new id
    · exact absurd (Option.some.inj (isOld.symm.trans (entries.ended _ isJoined))) alive
    · exact isSame.trans (entries.ended id isJoined)

theorem Entries.change (entries : Entries state) {worker : Nat} {old new : Phase τ}
    (isOld : state.workers[worker]? = some old) (alive : old ≠ .terminated)
    (noJoins : old ≠ .joining) (joins : new ≠ .joining)
    (samePast : state.pool.quit = false → new.isPast = old.isPast) :
    Entries (state.setPhase worker new) := by
  have ⟨ids, ended⟩ := entries.lives isOld alive new
  refine ⟨ids, ended, ?_, entries.once, ?_, entries.holder, entries.isOpen⟩
  · intro isOpen id
    rw [past_setPhase isOld new (samePast isOpen) id]
    exact entries.retired isOpen id
  · intro id
    obtain ⟨rfl, isNew⟩ | ⟨_, isSame⟩ := getElem?_set_cases isOld new id
    · have never : state.mutex ≠ some id := fun isHolder =>
        noJoins (Option.some.inj (isOld.symm.trans ((entries.owner _).mp isHolder)))
      exact ⟨fun isHolder => absurd isHolder never,
        fun isJoining => absurd (Option.some.inj (isNew.symm.trans isJoining)) joins⟩
    · exact (entries.owner id).trans (isSame ▸ Iff.rfl)

theorem Entries.noJoin (entries : Entries state) (free : state.mutex = none)
    {worker : Nat} : state.workers[worker]? ≠ some .joining := by
  intro isJoining
  have isHolder := (entries.owner worker).mpr isJoining
  rw [free] at isHolder
  cases isHolder

theorem Entries.noJoin_set (entries : Entries state) (free : state.mutex = none)
    {worker : Nat} {old new : Phase τ} (isOld : state.workers[worker]? = some old)
    (joins : new ≠ .joining) (id : Nat) :
    none = some id ↔ (state.workers.set worker new)[id]? = some .joining := by
  refine ⟨nofun, fun isJoining => ?_⟩
  obtain ⟨_, isNew⟩ | ⟨_, isSame⟩ := getElem?_set_cases isOld new id
  · exact absurd (Option.some.inj (isNew.symm.trans isJoining)) joins
  · exact absurd (isSame.symm.trans isJoining) (entries.noJoin free)

theorem Entries.settle (entries : Entries state) (free : state.mutex = none)
    {worker : Nat} {old new : Phase τ} {pool : ThreadPool τ}
    (isOld : state.workers[worker]? = some old)
    (entered : Enters state.pool old pool new) :
    Entries (state.settle worker (pool, new)) := by
  have noJoins : old ≠ .joining := by
    rintro rfl
    exact entries.noJoin free isOld
  have alive : old.entering = true → old ≠ .terminated := by
    rintro isEntering rfl
    cases isEntering
  have notPast : old.entering = true → old.isPast = false := by
    intro isEntering
    cases old <;> first | rfl | cases isEntering
  cases entered with
  | waits isEntering isOpen empty =>
      have after : Entries (state.setPhase worker .waiting) :=
        entries.change isOld (alive isEntering) noJoins nofun
          fun _ => (notPast isEntering).symm
      exact ⟨after.ids, after.ended, after.retired, after.once,
        entries.noJoin_set free isOld nofun, fun held => absurd rfl held, after.isOpen⟩
  | exits isEntering quit empty =>
      have after : Entries (state.setPhase worker .exiting) :=
        entries.change isOld (alive isEntering) noJoins nofun
          fun isOpen => nomatch quit.symm.trans isOpen
      exact ⟨after.ids, after.ended, after.retired, after.once,
        entries.noJoin_set free isOld nofun, fun held => absurd rfl held, after.isOpen⟩
  | retires isEntering isOpen empty =>
      subst isEntering
      have ⟨ids, ended⟩ := entries.lives isOld (alive rfl) .joining
      refine ⟨ids, ended, fun _ id => ?_, entries.once, fun id => ?_, ?_, entries.isOpen⟩
      · have same : (state.setPhase worker .joining).past id = state.past id :=
          past_setPhase isOld .joining rfl id
        exact (entries.retired isOpen id).trans (same ▸ Iff.rfl)
      · obtain ⟨rfl, isNew⟩ | ⟨other, isSame⟩ := getElem?_set_cases isOld .joining id
        · exact ⟨fun _ => isNew, fun _ => rfl⟩
        · exact ⟨fun isHolder => absurd (Option.some.inj isHolder).symm other,
            fun isJoining => absurd (isSame.symm.trans isJoining) (entries.noJoin free)⟩
      · exact fun _ => entries.isOpen.mp isOpen
  | @takes task tasks isEntering isTasks =>
      have after : Entries (state.setPhase worker (.running task)) :=
        entries.change isOld (alive isEntering) noJoins nofun
          fun _ => (notPast isEntering).symm
      exact ⟨after.ids, after.ended, after.retired, after.once,
        entries.noJoin_set free isOld nofun, fun held => absurd rfl held, after.isOpen⟩

theorem Entries.nodup (entries : Entries state) : (state.joined ++ state.unjoined).Nodup :=
  entries.ids.nodup_iff.mpr List.nodup_range

theorem unjoined_of_alive (alive : state.destructor = .notCalled) :
    state.unjoined = state.pool.threads := by
  unfold State.unjoined
  rw [alive]

/-- Who joins holds the mutex, and the destructor has not been called. -/
theorem Entries.alive (entries : Entries state) {worker : Nat}
    (isJoining : state.workers[worker]? = some .joining) : state.destructor = .notCalled := by
  refine entries.holder ?_
  rw [(entries.owner worker).mpr isJoining]
  nofun

theorem Entries.entry (entries : Entries state) {worker : Nat}
    (isJoining : state.workers[worker]? = some .joining) : worker ∈ state.pool.threads := by
  have inside := (List.getElem?_eq_some_iff.mp isJoining).1
  have among := entries.ids.mem_iff.mpr (List.mem_range.mpr inside)
  rw [unjoined_of_alive (entries.alive isJoining)] at among
  cases List.mem_append.mp among with
  | inl isJoined => exact nomatch isJoining.symm.trans (entries.ended worker isJoined)
  | inr entry => exact entry

theorem Entries.unlock (entries : Entries state) {worker : Nat}
    (isJoining : state.workers[worker]? = some .joining)
    (none : state.pool.finishedThreadIds = []) :
    Entries { state.setPhase worker .exiting with
      mutex := .none
      pool := { state.pool with finishedThreadIds := [worker] } } := by
  have ⟨ids, ended⟩ := entries.lives isJoining nofun .exiting
  have isHolder := (entries.owner worker).mpr isJoining
  have isOpen := entries.isOpen.mpr (entries.alive isJoining)
  refine ⟨ids, ended, fun _ id => ?_, List.nodup_singleton _, fun id => ?_,
    fun held => absurd rfl held, entries.isOpen⟩
  · refine List.mem_singleton.trans ?_
    unfold State.past
    obtain ⟨rfl, isNew⟩ | ⟨other, isSame⟩ := getElem?_set_cases isJoining .exiting id
    · refine ⟨fun _ => ⟨entries.entry isJoining, ?_⟩, fun _ => rfl⟩
      exact (congrArg (Option.any Phase.isPast) isNew : _)
    · refine ⟨fun same => absurd same other, fun ⟨entry, isPast⟩ => ?_⟩
      have wasPast : state.past id = true :=
        (congrArg (Option.any Phase.isPast) isSame).symm.trans isPast
      have queued := (entries.retired isOpen id).mpr ⟨entry, wasPast⟩
      rw [none] at queued
      cases queued
  · refine ⟨nofun, fun joins => ?_⟩
    obtain ⟨_, isNew⟩ | ⟨other, isSame⟩ := getElem?_set_cases isJoining .exiting id
    · cases isNew.symm.trans joins
    · have both := isHolder.symm.trans ((entries.owner id).mpr (isSame.symm.trans joins))
      exact absurd (Option.some.inj both).symm other

theorem Entries.join (entries : Entries state) {worker id : Nat} {ids : List Nat}
    (isJoining : state.workers[worker]? = some .joining)
    (isIds : state.pool.finishedThreadIds = id :: ids)
    (isEnded : state.workers[id]? = some .terminated)
    (entry : id ∈ state.pool.threads) :
    Entries { state with
      joined := state.joined ++ [id]
      pool := { state.pool with
        finishedThreadIds := ids, threads := state.pool.threads.erase id } } := by
  have alive := entries.alive isJoining
  have isOpen := entries.isOpen.mpr alive
  have isUnjoined := unjoined_of_alive alive
  have once := isIds ▸ entries.once
  have threadsOnce := (List.nodup_append.mp entries.nodup).2.1
  rw [isUnjoined] at threadsOnce
  refine ⟨?_, ?_, fun _ other => ?_, (List.nodup_cons.mp once).2, entries.owner,
    entries.holder, entries.isOpen⟩
  · refine List.Perm.trans ?_ entries.ids
    rw [isUnjoined]
    dsimp only [State.unjoined]
    rw [alive, List.append_assoc]
    exact (List.perm_cons_erase entry).symm.append_left _
  · intro other isJoined
    cases List.mem_append.mp isJoined with
    | inl before => exact entries.ended other before
    | inr last => exact List.mem_singleton.mp last ▸ isEnded
  · rw [threadsOnce.mem_erase_iff]
    have queued := entries.retired isOpen other
    rw [isIds, List.mem_cons] at queued
    constructor
    · intro inIds
      have differs : other ≠ id := fun same => (List.nodup_cons.mp once).1 (same ▸ inIds)
      have ⟨entry, isPast⟩ := queued.mp (.inr inIds)
      exact ⟨⟨differs, entry⟩, isPast⟩
    · rintro ⟨⟨differs, entry⟩, isPast⟩
      exact (queued.mpr ⟨entry, isPast⟩).resolve_left differs

theorem Entries.queue (entries : Entries state) (task : τ) : Entries (state.queue task) :=
  ⟨entries.ids, entries.ended, entries.retired, entries.once, entries.owner,
    entries.holder, entries.isOpen⟩

theorem Entries.spawn (entries : Entries state) (alive : state.destructor = .notCalled) :
    Entries state.spawn := by
  have isOpen := entries.isOpen.mpr alive
  have known : ∀ {id : Nat} {phase : Phase τ}, state.workers[id]? = some phase →
      state.spawn.workers[id]? = some phase := by
    intro id phase isAt
    exact (List.getElem?_append_left (List.getElem?_eq_some_iff.mp isAt).1).trans isAt
  have samePast : ∀ id, state.spawn.past id = state.past id := by
    intro id
    unfold State.past
    cases isAt : state.workers[id]? with
    | some phase => rw [known isAt]
    | none =>
        have outside := List.getElem?_eq_none_iff.mp isAt
        dsimp only [State.spawn]
        rw [List.getElem?_append_right outside]
        cases id - state.workers.length <;> rfl
  refine ⟨?_, fun id isJoined => known (entries.ended id isJoined), fun _ id => ?_,
    entries.once, fun id => ?_, entries.holder, entries.isOpen⟩
  · have ids := entries.ids.append_right [state.workers.length]
    rw [unjoined_of_alive alive] at ids
    rw [show state.spawn.unjoined = state.pool.threads ++ [state.workers.length] from
      unjoined_of_alive alive]
    dsimp only [State.spawn]
    rw [List.length_append, List.length_singleton, List.range_succ, ← List.append_assoc]
    exact ids
  · rw [samePast id]
    refine (entries.retired isOpen id).trans (and_congr_left fun isPast => ?_)
    refine ⟨fun entry => List.mem_append_left _ entry, fun entry => ?_⟩
    refine (List.mem_append.mp entry).resolve_right fun isNew => ?_
    unfold State.past at isPast
    rw [List.mem_singleton.mp isNew, List.getElem?_eq_none (Nat.le_refl _)] at isPast
    cases isPast
  · refine (entries.owner id).trans ⟨known, fun joins => ?_⟩
    cases Nat.lt_or_ge id state.workers.length with
    | inl inside => exact (List.getElem?_append_left inside).symm.trans joins
    | inr outside =>
        have isNew := (List.getElem?_append_right outside).symm.trans joins
        cases isAt : id - state.workers.length <;> rw [isAt] at isNew <;> cases isNew

theorem Entries.notifyAll (entries : Entries state) {order : List Nat}
    (isNotifying : state.destructor = .notifying) (isOrder : order.Perm state.pool.threads) :
    Entries { state with
      workers := state.workers.map Phase.notified
      destructor := .joining order } := by
  have free : state.mutex ≠ none → False := fun held =>
    nomatch isNotifying.symm.trans (entries.holder held)
  have ids := entries.ids
  rw [show state.unjoined = state.pool.threads by unfold State.unjoined; rw [isNotifying]]
    at ids
  refine ⟨?_, fun id isJoined => ?_, fun isOpen => ?_, entries.once, fun id => ?_,
    fun held => (free held).elim, fun isOpen => ?_, nofun⟩
  · dsimp only [State.unjoined]
    rw [List.length_map]
    exact (isOrder.append_left _).trans ids
  · dsimp only
    rw [List.getElem?_map, entries.ended id isJoined]
    rfl
  · exact nomatch isNotifying.symm.trans (entries.isOpen.mp isOpen)
  · refine (entries.owner id).trans ?_
    dsimp only
    rw [List.getElem?_map]
    cases state.workers[id]? with
    | none => exact ⟨nofun, nofun⟩
    | some phase => cases phase <;> first | exact Iff.rfl | exact ⟨nofun, nofun⟩
  · exact nomatch isNotifying.symm.trans (entries.isOpen.mp isOpen)

theorem Entries.step (entries : Entries state) (moves : Moves state label next) :
    Entries next := by
  cases moves with
  | queues free alive enough => exact entries.queue _
  | notifies free alive enough isWaiting =>
      exact (entries.queue _).change isWaiting nofun nofun nofun fun _ => rfl
  | spawns free alive noIdle room => exact (entries.queue _).spawn alive
  | enters free isOld entered => exact entries.settle free isOld entered
  | wakes isWaiting => exact entries.change isWaiting nofun nofun nofun fun _ => rfl
  | finishes isRunning =>
      have after : Entries (state.setPhase _ (.locking false)) :=
        entries.change isRunning nofun nofun nofun fun _ => rfl
      exact ⟨after.ids, after.ended, after.retired, after.once, after.owner,
        after.holder, after.isOpen⟩
  | unlocks isJoining none => exact entries.unlock isJoining none
  | joins isJoining isIds ended entry => exact entries.join isJoining isIds ended entry
  | terminates isExiting => exact entries.change isExiting nofun nofun nofun fun _ => rfl
  | quits free alive =>
      have ids := entries.ids
      rw [unjoined_of_alive alive] at ids
      exact ⟨ids, entries.ended, nofun, entries.once, entries.owner,
        fun held => absurd free held, nofun, nofun⟩
  | notifiesAll isNotifying isOrder => exact entries.notifyAll isNotifying isOrder
  | @joinsNext id rest isJoining isEnded =>
      have ids := entries.ids
      rw [show state.unjoined = id :: rest by unfold State.unjoined; rw [isJoining]] at ids
      have alive : state.destructor ≠ .notCalled := isJoining ▸ nofun
      refine ⟨?_, fun other isJoined => ?_,
        fun isOpen => absurd (entries.isOpen.mp isOpen) alive, entries.once, entries.owner,
        fun held => absurd (entries.holder held) alive,
        fun isOpen => absurd (entries.isOpen.mp isOpen) alive, nofun⟩
      · rw [← List.singleton_append, ← List.append_assoc] at ids
        exact ids
      · cases List.mem_append.mp isJoined with
        | inl before => exact entries.ended other before
        | inr last => exact List.mem_singleton.mp last ▸ isEnded
  | returns isJoining =>
      have ids := entries.ids
      rw [show state.unjoined = [] by unfold State.unjoined; rw [isJoining]] at ids
      have alive : state.destructor ≠ .notCalled := isJoining ▸ nofun
      exact ⟨ids, entries.ended, fun isOpen => absurd (entries.isOpen.mp isOpen) alive,
        entries.once, entries.owner, fun held => absurd (entries.holder held) alive,
        fun isOpen => absurd (entries.isOpen.mp isOpen) alive, nofun⟩

end Rkipc.Engine
