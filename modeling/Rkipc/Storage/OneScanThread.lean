import Rkipc.Storage.ScanThreads

namespace Rkipc.Storage

open Transition

/-! When at most one scan thread works on a storage handle. -/

def ScanPoint.alive : ScanPoint → Bool
  | .dormant | .ended => false
  | _ => true

/-- The points at which the monitor thread of the scan thread may run. -/
def ScanPoint.watching : ScanPoint → Bool
  | .createSignal | .loop | .wait | .afterWait | .pass | .joinMonitor => true
  | _ => false

def MonitorPoint.alive : MonitorPoint → Bool
  | .dormant | .ended => false
  | _ => true

theorem ScanPoint.alive_of_watching {point : ScanPoint}
    (watching : point.watching = true) : point.alive = true := by
  cases point <;> first | rfl | cases watching

namespace Scans

variable {attrNum thread other : Nat} {succeeds : Bool} {scans after : Scans}

/-- The steps of a scan or monitor thread leave these as they are. -/
structure SameOwners (scans after : Scans) : Prop where
  fileScanTid : after.fileScanTid = scans.fileScanTid
  created : after.created = scans.created
  joined : after.joined = scans.joined
  main : after.main = scans.main
  message : after.message = scans.message

/-- Everything a step of a scan thread can do to the threads. -/
structure ScanMoves (thread : Nat) (succeeds : Bool) (scans after : Scans)
    (next : ScanPoint) : Prop where
  alive : (scans.scan thread).alive = true
  scan : after.scan = Function.update scans.scan thread next
  owners : SameOwners scans after
  monitor :
    (after.monitor = scans.monitor ∧
      ((scans.scan thread).watching = true → next.watching = true ∨
        (scans.monitor thread).alive = false ∨
        (scans.scan thread = .createSignal ∧ succeeds = false))) ∨
    (after.monitor = Function.update scans.monitor thread .watch ∧
      next.watching = true)
  folder : after.folder ≠ scans.folder →
    scans.scan thread = .malloc ∨ scans.scan thread = .free

theorem scanMoves_goScan {point next : ScanPoint}
    (isPoint : scans.scan thread = point) (alive : point.alive = true)
    (watching : point.watching = true → next.watching = true) :
    ScanMoves thread succeeds scans (scans.goScan thread next) next where
  alive := by rw [isPoint]; exact alive
  scan := rfl
  owners := ⟨rfl, rfl, rfl, rfl, rfl⟩
  monitor := .inl ⟨rfl, fun isWatching =>
    .inl (watching (by rw [← isPoint]; exact isWatching))⟩
  folder changed := absurd rfl changed

theorem scanMoves_of_scanStep
    (stepped : scans.scanStep attrNum thread succeeds = some after) :
    ∃ next, ScanMoves thread succeeds scans after next := by
  cases point : scans.scan thread with
  | dormant => simp [scanStep, point] at stepped
  | ended => simp [scanStep, point] at stepped
  | check =>
      simp only [scanStep, point] at stepped
      split at stepped <;> cases stepped <;>
        exact ⟨_, scanMoves_goScan point rfl nofun⟩
  | malloc =>
      have moves (folder : Option Nat) (next : ScanPoint) :
          ScanMoves thread succeeds scans
            ({ scans with folder, folderNum := attrNum }.goScan thread next)
            next :=
        ⟨by rw [point]; rfl, rfl, ⟨rfl, rfl, rfl, rfl, rfl⟩,
          .inl ⟨rfl, by rw [point]; exact nofun⟩, fun _ => .inl point⟩
      simp only [scanStep, point] at stepped
      split at stepped <;> cases stepped <;> exact ⟨_, moves _ _⟩
  | createFolder i =>
      simp only [scanStep, point] at stepped
      split at stepped
      · split at stepped <;> cases stepped <;>
          exact ⟨_, scanMoves_goScan point rfl nofun⟩
      · cases stepped
        exact ⟨_, scanMoves_goScan point rfl nofun⟩
  | recheck =>
      simp only [scanStep, point] at stepped
      split at stepped <;> cases stepped <;>
        exact ⟨_, scanMoves_goScan point rfl nofun⟩
  | setMounted =>
      simp only [scanStep, point] at stepped
      cases stepped
      exact ⟨_, by rw [point]; rfl, rfl, ⟨rfl, rfl, rfl, rfl, rfl⟩,
        .inl ⟨rfl, by rw [point]; exact nofun⟩, fun changed => absurd rfl changed⟩
  | checkSize =>
      simp only [scanStep, point] at stepped
      split at stepped <;> cases stepped <;>
        exact ⟨_, scanMoves_goScan point rfl nofun⟩
  | diskSize =>
      simp only [scanStep, point] at stepped
      split at stepped <;> cases stepped <;>
        exact ⟨_, scanMoves_goScan point rfl nofun⟩
  | createMonitor =>
      simp only [scanStep, point] at stepped
      split at stepped
      · cases stepped
        exact ⟨_, by rw [point]; rfl, rfl, ⟨rfl, rfl, rfl, rfl, rfl⟩,
          .inr ⟨rfl, rfl⟩, fun changed => absurd rfl changed⟩
      · cases stepped
        exact ⟨_, scanMoves_goScan point rfl nofun⟩
  | createSignal =>
      simp only [scanStep, point] at stepped
      cases stepped
      refine ⟨_, by rw [point]; rfl, rfl, ⟨rfl, rfl, rfl, rfl, rfl⟩,
        .inl ⟨rfl, fun _ => ?_⟩, fun changed => absurd rfl changed⟩
      cases succeeds with
      | true => exact .inl rfl
      | false => exact .inr (.inr ⟨point, rfl⟩)
  | loop =>
      simp only [scanStep, point] at stepped
      split at stepped <;> cases stepped <;>
        exact ⟨_, scanMoves_goScan point rfl fun _ => rfl⟩
  | wait =>
      simp only [scanStep, point] at stepped
      cases stepped
      exact ⟨_, scanMoves_goScan point rfl fun _ => rfl⟩
  | afterWait =>
      simp only [scanStep, point] at stepped
      split at stepped <;> cases stepped <;>
        exact ⟨_, scanMoves_goScan point rfl fun _ => rfl⟩
  | pass =>
      simp only [scanStep, point] at stepped
      split at stepped <;> cases stepped <;>
        exact ⟨_, scanMoves_goScan point rfl fun _ => rfl⟩
  | joinMonitor =>
      simp only [scanStep, point] at stepped
      split at stepped
      next gone =>
        cases stepped
        refine ⟨_, by rw [point]; rfl, rfl, ⟨rfl, rfl, rfl, rfl, rfl⟩,
          .inl ⟨rfl, fun _ => .inr (.inl ?_)⟩, fun changed => absurd rfl changed⟩
        rcases gone with isDormant | isEnded
        · rw [isDormant]
          rfl
        · rw [isEnded]
          rfl
      next => contradiction
  | free =>
      simp only [scanStep, point] at stepped
      cases stepped
      exact ⟨_, by rw [point]; rfl, rfl, ⟨rfl, rfl, rfl, rfl, rfl⟩,
        .inl ⟨rfl, by rw [point]; exact nofun⟩, fun _ => .inr point⟩

structure MonitorMoves (thread : Nat) (scans after : Scans) : Prop where
  alive : (scans.monitor thread).alive = true
  scan : after.scan = scans.scan
  owners : SameOwners scans after
  monitor : ∀ other, other ≠ thread → after.monitor other = scans.monitor other
  folder : after.folder = scans.folder

theorem monitorMoves_goMonitor {next : MonitorPoint}
    (alive : (scans.monitor thread).alive = true) :
    MonitorMoves thread scans (scans.goMonitor thread next) where
  alive := alive
  scan := rfl
  owners := ⟨rfl, rfl, rfl, rfl, rfl⟩
  monitor _ distinct := Function.update_of_ne distinct ..
  folder := rfl

theorem monitorMoves_of_monitorStep
    (stepped : scans.monitorStep thread succeeds = some after) :
    MonitorMoves thread scans after := by
  cases point : scans.monitor thread with
  | dormant => simp [monitorStep, point] at stepped
  | ended => simp [monitorStep, point] at stepped
  | watch =>
      simp only [monitorStep, point] at stepped
      cases stepped
      exact monitorMoves_goMonitor (by rw [point]; rfl)
  | loop =>
      simp only [monitorStep, point] at stepped
      split at stepped <;> cases stepped <;>
        exact monitorMoves_goMonitor (by rw [point]; rfl)
  | handle =>
      simp only [monitorStep, point] at stepped
      cases stepped
      exact monitorMoves_goMonitor (by rw [point]; rfl)

theorem monitorMoves_of_unmountEvent
    (stepped : scans.unmountEvent thread = some after) :
    MonitorMoves thread scans after := by
  unfold unmountEvent at stepped
  split at stepped
  next isHandling =>
    cases stepped
    exact ⟨by rw [isHandling]; rfl, rfl, ⟨rfl, rfl, rfl, rfl, rfl⟩,
      fun _ _ => rfl, rfl⟩
  next => contradiction

theorem joinTid_cases (joined : scans.joinTid = some after) :
    (scans.fileScanTid = none ∧ after = scans) ∨
      ∃ thread, scans.fileScanTid = some thread ∧
        scans.scan thread = .ended ∧ after = scans.join thread := by
  unfold joinTid at joined
  split at joined
  next isNone =>
    cases joined
    exact .inl ⟨isNone, rfl⟩
  next thread isThread =>
    split at joined
    next isEnded =>
      cases joined
      exact .inr ⟨thread, isThread, isEnded, rfl⟩
    next => contradiction

/-- The recorded thread is the only one that can be alive, a monitor thread runs
beside its scan thread, and no other thread is left to join. -/
structure Owned (scans : Scans) : Prop where
  fresh : ∀ thread, scans.created ≤ thread →
    scans.scan thread = .dormant ∧ scans.monitor thread = .dormant
  named : ∀ thread, (scans.scan thread).alive = true →
    scans.fileScanTid = some thread
  watched : ∀ thread, (scans.monitor thread).alive = true →
    (scans.scan thread).watching = true
  counted : ∀ thread < scans.created,
    thread ∈ scans.joined ∨ scans.fileScanTid = some thread

theorem Owned.keep (owned : scans.Owned) (mountStatus : MountStatus)
    (fileScanSignal quit : Bool) (main : MainPoint) (message : MessagePoint) :
    { scans with mountStatus, fileScanSignal, quit, main, message }.Owned :=
  ⟨owned.fresh, owned.named, owned.watched, owned.counted⟩

theorem Owned.lt_created_of_alive (owned : scans.Owned)
    (alive : (scans.scan thread).alive = true) : thread < scans.created := by
  by_contra isFresh
  rw [(owned.fresh thread (Nat.le_of_not_lt isFresh)).1] at alive
  cases alive

theorem Owned.spawn (owned : scans.Owned) (noTid : scans.fileScanTid = none) :
    scans.spawn.Owned where
  fresh thread isFresh := by
    have distinct : thread ≠ scans.created := Nat.ne_of_gt isFresh
    simp only [Scans.spawn, Function.update_of_ne distinct]
    exact owned.fresh thread (Nat.le_of_lt isFresh)
  named thread alive := by
    by_cases isNew : thread = scans.created
    · rw [isNew]
      rfl
    · simp only [Scans.spawn, Function.update_of_ne isNew] at alive
      have named := owned.named thread alive
      rw [noTid] at named
      cases named
  watched thread alive := by
    have watching := owned.watched thread alive
    have below := owned.lt_created_of_alive (ScanPoint.alive_of_watching watching)
    simpa only [Scans.spawn, Function.update_of_ne (Nat.ne_of_lt below)]
      using watching
  counted thread below := by
    rcases Nat.lt_succ_iff_lt_or_eq.mp below with before | isNew
    · left
      have counted := owned.counted thread before
      rw [noTid] at counted
      exact counted.resolve_right nofun
    · right
      rw [isNew]
      rfl

theorem Owned.scanMoves (owned : scans.Owned) {next : ScanPoint}
    (moves : ScanMoves thread succeeds scans after next)
    (hasSignal : ¬(scans.scan thread = .createSignal ∧ succeeds = false)) :
    after.Owned := by
  have below := owned.lt_created_of_alive moves.alive
  refine ⟨?_, ?_, ?_, ?_⟩
  · intro other isFresh
    rw [moves.owners.created] at isFresh
    have distinct : other ≠ thread := by omega
    rw [moves.scan, Function.update_of_ne distinct]
    refine ⟨(owned.fresh other isFresh).1, ?_⟩
    rcases moves.monitor with ⟨same, _⟩ | ⟨watches, _⟩
    · rw [same]
      exact (owned.fresh other isFresh).2
    · rw [watches, Function.update_of_ne distinct]
      exact (owned.fresh other isFresh).2
  · intro other alive
    rw [moves.owners.fileScanTid]
    by_cases isThread : other = thread
    · rw [isThread]
      exact owned.named thread moves.alive
    · rw [moves.scan, Function.update_of_ne isThread] at alive
      exact owned.named other alive
  · intro other alive
    by_cases isThread : other = thread
    · rw [isThread] at alive ⊢
      rw [moves.scan, Function.update_self]
      rcases moves.monitor with ⟨same, watching⟩ | ⟨_, watching⟩
      · rw [same] at alive
        rcases watching (owned.watched thread alive) with
          watching | isGone | noSignal
        · exact watching
        · rw [isGone] at alive
          cases alive
        · exact absurd noSignal hasSignal
      · exact watching
    · rw [moves.scan, Function.update_of_ne isThread]
      apply owned.watched other
      rcases moves.monitor with ⟨same, _⟩ | ⟨watches, _⟩
      · rw [← same]
        exact alive
      · rw [watches, Function.update_of_ne isThread] at alive
        exact alive
  · intro other isCreated
    rw [moves.owners.created] at isCreated
    rw [moves.owners.joined, moves.owners.fileScanTid]
    exact owned.counted other isCreated

theorem Owned.monitorMoves (owned : scans.Owned)
    (moves : MonitorMoves thread scans after) : after.Owned := by
  have below := owned.lt_created_of_alive
    (ScanPoint.alive_of_watching (owned.watched thread moves.alive))
  refine ⟨?_, ?_, ?_, ?_⟩
  · intro other isFresh
    rw [moves.owners.created] at isFresh
    have distinct : other ≠ thread := by omega
    rw [moves.scan, moves.monitor other distinct]
    exact owned.fresh other isFresh
  · intro other alive
    rw [moves.scan] at alive
    rw [moves.owners.fileScanTid]
    exact owned.named other alive
  · intro other alive
    rw [moves.scan]
    by_cases isThread : other = thread
    · rw [isThread]
      exact owned.watched thread moves.alive
    · rw [moves.monitor other isThread] at alive
      exact owned.watched other alive
  · intro other isCreated
    rw [moves.owners.created] at isCreated
    rw [moves.owners.joined, moves.owners.fileScanTid]
    exact owned.counted other isCreated

theorem Owned.join (owned : scans.Owned)
    (isTid : scans.fileScanTid = some thread) :
    (scans.join thread).Owned ∧
      ∀ other < scans.created, other ∈ (scans.join thread).joined := by
  have allJoined : ∀ other < scans.created,
      other ∈ (scans.join thread).joined := by
    intro other isCreated
    rcases owned.counted other isCreated with isJoined | isOther
    · exact List.mem_cons_of_mem _ isJoined
    · rw [isTid] at isOther
      cases isOther
      exact List.mem_cons_self
  exact ⟨⟨owned.fresh, owned.named, owned.watched,
    fun other isCreated => .inl (allJoined other isCreated)⟩, allJoined⟩

/-- After the join every scan thread is joined and none is alive. -/
theorem Owned.joinTid (owned : scans.Owned) (joined : scans.joinTid = some after) :
    after.Owned ∧ (∀ other < after.created, other ∈ after.joined) ∧
      ∀ other, (after.scan other).alive ≠ true := by
  rcases joinTid_cases joined with ⟨noTid, rfl⟩ | ⟨thread, isTid, isEnded, rfl⟩
  · refine ⟨owned, ?_, ?_⟩
    · intro other isCreated
      have counted := owned.counted other isCreated
      rw [noTid] at counted
      exact counted.resolve_right nofun
    · intro other alive
      have named := owned.named other alive
      rw [noTid] at named
      cases named
  · obtain ⟨keeps, allJoined⟩ := owned.join isTid
    refine ⟨keeps, allJoined, ?_⟩
    intro other alive
    have named := keeps.named other alive
    cases isTid.symm.trans named
    have isAlive : (scans.scan thread).alive = true := alive
    rw [isEnded] at isAlive
    cases isAlive

/-- What holds while the main thread is at each of its points. -/
def Phase (scans : Scans) : Prop :=
  match scans.main with
  | .mountDev | .scanCreate =>
      scans.message = .dormant ∧ scans.created = 0 ∧ scans.fileScanTid = none
  | .listen => scans.message = .dormant
  | .running | .joinMessage => True
  | .unmount | .join => scans.message = .ended
  | .destroySignal | .deinitialised =>
      scans.message = .ended ∧
        ∀ thread < scans.created, thread ∈ scans.joined

theorem SameOwners.phase (owners : SameOwners scans after)
    (phase : scans.Phase) : after.Phase := by
  unfold Phase at phase ⊢
  rw [owners.main, owners.message, owners.created, owners.fileScanTid,
    owners.joined]
  exact phase

/-- The message thread works while the main thread runs or waits for it. -/
theorem Phase.of_message (phase : scans.Phase)
    (isStarted : scans.message ≠ .dormant) (goesOn : scans.message ≠ .ended) :
    scans.main = .running ∨ scans.main = .joinMessage := by
  unfold Phase at phase
  split at phase
  next => exact absurd phase.1 isStarted
  next => exact absurd phase.1 isStarted
  next => exact absurd phase isStarted
  next isMain => exact .inl isMain
  next isMain => exact .inr isMain
  next => exact absurd phase goesOn
  next => exact absurd phase goesOn
  next => exact absurd phase.1 goesOn
  next => exact absurd phase.1 goesOn

theorem phase_of_main (isMain : scans.main = .running ∨ scans.main = .joinMessage) :
    scans.Phase := by
  unfold Phase
  rcases isMain with isRunning | isJoining
  · rw [isRunning]
    trivial
  · rw [isJoining]
    trivial

/-- The condition on a step: `rkipc_storage_dev_add` starts a scan thread when
none is recorded, and the scan thread gets its signal. -/
def Handled (scans : Scans) : ScanLabel → Prop
  | .message succeeds =>
      scans.message = .scanCreate → succeeds = true → scans.fileScanTid = none
  | .scan thread succeeds =>
      ¬(scans.scan thread = .createSignal ∧ succeeds = false)
  | _ => True

structure Kept (scans : Scans) : Prop where
  owned : scans.Owned
  phase : scans.Phase

theorem Kept.mainStep (kept : scans.Kept)
    (stepped : scans.mainStep succeeds = some after) : after.Kept := by
  obtain ⟨owned, phase⟩ := kept
  unfold Phase at phase
  cases isMain : scans.main with
  | mountDev =>
      simp only [isMain] at phase
      simp only [Scans.mainStep, isMain] at stepped
      split at stepped
      · cases stepped
        exact ⟨owned.keep .., phase⟩
      · cases stepped
        exact ⟨owned.keep .., phase.1⟩
  | scanCreate =>
      simp only [isMain] at phase
      simp only [Scans.mainStep, isMain] at stepped
      cases stepped
      split
      · exact ⟨(owned.spawn phase.2.2).keep .., phase.1⟩
      · exact ⟨owned.keep .., phase.1⟩
  | listen =>
      simp only [Scans.mainStep, isMain] at stepped
      cases stepped
      exact ⟨owned.keep .., trivial⟩
  | running =>
      simp only [Scans.mainStep, isMain] at stepped
      cases stepped
      exact ⟨owned.keep .., trivial⟩
  | joinMessage =>
      simp only [Scans.mainStep, isMain] at stepped
      split at stepped
      next isEnded =>
        cases stepped
        exact ⟨owned.keep .., isEnded⟩
      next => contradiction
  | unmount =>
      simp only [isMain] at phase
      simp only [Scans.mainStep, isMain] at stepped
      cases stepped
      exact ⟨owned.keep .., phase⟩
  | join =>
      simp only [isMain] at phase
      simp only [Scans.mainStep, isMain] at stepped
      obtain ⟨joined, ends, rfl⟩ := Option.map_eq_some_iff.mp stepped
      obtain ⟨keeps, allJoined, _⟩ := owned.joinTid ends
      have isEnded : joined.message = .ended := by
        rcases joinTid_cases ends with ⟨_, rfl⟩ | ⟨_, _, _, rfl⟩ <;> exact phase
      exact ⟨keeps.keep .., isEnded, allJoined⟩
  | destroySignal =>
      simp only [isMain] at phase
      simp only [Scans.mainStep, isMain] at stepped
      cases stepped
      exact ⟨owned.keep .., phase⟩
  | deinitialised => simp [Scans.mainStep, isMain] at stepped

theorem Kept.receive (kept : scans.Kept) {msg : DevMsg}
    (stepped : scans.receive msg = some after) : after.Kept := by
  obtain ⟨owned, phase⟩ := kept
  unfold Scans.receive at stepped
  split at stepped
  next isIdle =>
    have isMain := phase.of_message (by simp [isIdle]) (by simp [isIdle])
    cases msg with
    | accepted =>
        cases stepped
        exact ⟨owned.keep .., phase_of_main isMain⟩
    | notFormatted =>
        cases stepped
        exact ⟨owned.keep .., phase_of_main isMain⟩
    | removed =>
        cases stepped
        exact ⟨owned.keep .., phase_of_main isMain⟩
  next => contradiction

theorem Kept.quitMessage (kept : scans.Kept)
    (stepped : scans.quitMessage = some after) : after.Kept := by
  obtain ⟨owned, phase⟩ := kept
  unfold Scans.quitMessage at stepped
  split at stepped
  next isIdle =>
    have isMain := phase.of_message (by simp [isIdle.1]) (by simp [isIdle.1])
    cases stepped
    exact ⟨owned.keep .., phase_of_main isMain⟩
  next => contradiction

theorem Kept.messageStep (kept : scans.Kept)
    (noTid : scans.message = .scanCreate → succeeds = true →
      scans.fileScanTid = none)
    (stepped : scans.messageStep succeeds = some after) : after.Kept := by
  obtain ⟨owned, phase⟩ := kept
  cases point : scans.message with
  | scanCreate =>
      have isMain := phase.of_message (by simp [point]) (by simp [point])
      simp only [Scans.messageStep, point] at stepped
      cases stepped
      split
      next creates =>
        exact ⟨(owned.spawn (noTid point creates)).keep ..,
          phase_of_main isMain⟩
      next => exact ⟨owned.keep .., phase_of_main isMain⟩
  | join =>
      have isMain := phase.of_message (by simp [point]) (by simp [point])
      simp only [Scans.messageStep, point] at stepped
      obtain ⟨joined, ends, rfl⟩ := Option.map_eq_some_iff.mp stepped
      obtain ⟨keeps, allJoined, noneAlive⟩ := owned.joinTid ends
      have sameMain : joined.main = scans.main := by
        rcases joinTid_cases ends with ⟨_, rfl⟩ | ⟨_, _, _, rfl⟩ <;> rfl
      refine ⟨⟨keeps.fresh, ?_, keeps.watched, ?_⟩, ?_⟩
      · intro thread alive
        exact absurd alive (noneAlive thread)
      · intro thread isCreated
        exact .inl (allJoined thread isCreated)
      · apply phase_of_main
        rw [← sameMain] at isMain
        exact isMain
  | destroySignal =>
      have isMain := phase.of_message (by simp [point]) (by simp [point])
      simp only [Scans.messageStep, point] at stepped
      cases stepped
      exact ⟨owned.keep .., phase_of_main isMain⟩
  | dormant => simp [Scans.messageStep, point] at stepped
  | idle => simp [Scans.messageStep, point] at stepped
  | ended => simp [Scans.messageStep, point] at stepped

theorem Kept.step (kept : scans.Kept) {label : ScanLabel}
    (handled : scans.Handled label)
    (stepped : scans.step attrNum label = some after) : after.Kept := by
  cases label with
  | main succeeds => exact kept.mainStep stepped
  | receive msg => exact kept.receive stepped
  | quit => exact kept.quitMessage stepped
  | message succeeds => exact kept.messageStep handled stepped
  | scan thread succeeds =>
      obtain ⟨next, moves⟩ := scanMoves_of_scanStep stepped
      exact ⟨kept.owned.scanMoves moves handled, moves.owners.phase kept.phase⟩
  | monitor thread succeeds =>
      have moves := monitorMoves_of_monitorStep stepped
      exact ⟨kept.owned.monitorMoves moves, moves.owners.phase kept.phase⟩
  | unmountEvent thread =>
      have moves := monitorMoves_of_unmountEvent stepped
      exact ⟨kept.owned.monitorMoves moves, moves.owners.phase kept.phase⟩

theorem kept_start : start.Kept where
  owned :=
    { fresh := fun _ _ => ⟨rfl, rfl⟩
      named := fun _ alive => nomatch alive
      watched := fun _ alive => nomatch alive
      counted := fun _ isCreated => absurd isCreated (Nat.not_lt_zero _) }
  phase := ⟨rfl, rfl, rfl⟩

theorem kept_of_reachable
    (reachable : (system attrNum).Reachable Handled scans) : scans.Kept := by
  refine reachable.invariant ?_ ?_
  · rintro _ rfl
    exact kept_start
  · intro before label next kept handled stepped
    exact kept.step handled stepped

theorem mainStep_folder (stepped : scans.mainStep succeeds = some after) :
    after.folder = scans.folder := by
  unfold Scans.mainStep at stepped
  split at stepped
  next => split at stepped <;> cases stepped <;> rfl
  next =>
    cases stepped
    split <;> rfl
  next =>
    cases stepped
    rfl
  next =>
    cases stepped
    rfl
  next =>
    split at stepped
    · cases stepped
      rfl
    · contradiction
  next =>
    cases stepped
    rfl
  next =>
    obtain ⟨joined, ends, rfl⟩ := Option.map_eq_some_iff.mp stepped
    rcases joinTid_cases ends with ⟨_, rfl⟩ | ⟨_, _, _, rfl⟩ <;> rfl
  next =>
    cases stepped
    rfl
  next => contradiction

theorem messageStep_folder (stepped : scans.messageStep succeeds = some after) :
    after.folder = scans.folder := by
  unfold Scans.messageStep at stepped
  split at stepped
  next =>
    cases stepped
    split <;> rfl
  next =>
    obtain ⟨joined, ends, rfl⟩ := Option.map_eq_some_iff.mp stepped
    rcases joinTid_cases ends with ⟨_, rfl⟩ | ⟨_, _, _, rfl⟩ <;> rfl
  next =>
    cases stepped
    rfl
  all_goals contradiction

theorem allocates_or_frees {label : ScanLabel}
    (stepped : scans.step attrNum label = some after)
    (changed : after.folder ≠ scans.folder) :
    ∃ thread, scans.scan thread = .malloc ∨ scans.scan thread = .free := by
  cases label with
  | main succeeds => exact absurd (mainStep_folder stepped) changed
  | receive msg =>
      simp only [Scans.step, Scans.receive] at stepped
      split at stepped
      · cases msg <;> cases stepped <;> exact absurd rfl changed
      · contradiction
  | quit =>
      simp only [Scans.step, Scans.quitMessage] at stepped
      split at stepped
      · cases stepped
        exact absurd rfl changed
      · contradiction
  | message succeeds => exact absurd (messageStep_folder stepped) changed
  | scan thread succeeds =>
      obtain ⟨next, moves⟩ := scanMoves_of_scanStep stepped
      exact ⟨thread, moves.folder changed⟩
  | monitor thread succeeds =>
      exact absurd (monitorMoves_of_monitorStep stepped).folder changed
  | unmountEvent thread =>
      exact absurd (monitorMoves_of_unmountEvent stepped).folder changed

/-- One scan thread, with its monitor thread, works on the handle. -/
structure OneScan (attrNum : Nat) (scans : Scans) : Prop where
  named : ∀ thread, (scans.scan thread).alive = true →
    scans.fileScanTid = some thread
  monitors : ∀ thread, (scans.monitor thread).alive = true →
    (scans.scan thread).alive = true
  overwrites : ∀ label after, scans.step attrNum label = some after →
    after.folder ≠ scans.folder →
      ∃ thread, ∀ other, (other ≠ thread → (scans.scan other).alive = false) ∧
        (scans.monitor other).alive = false
  joined : scans.main = .deinitialised →
    ∀ thread < scans.created, thread ∈ scans.joined

/-- Every run in which a scan thread is started only when none is recorded, and
gets its signal. -/
theorem one_scan_thread
    (reachable : (system attrNum).Reachable Handled scans) :
    scans.OneScan attrNum := by
  obtain ⟨owned, phase⟩ := kept_of_reachable reachable
  refine ⟨owned.named, ?_, ?_, ?_⟩
  · intro thread alive
    exact ScanPoint.alive_of_watching (owned.watched thread alive)
  · intro label after stepped changed
    obtain ⟨thread, isAt⟩ := allocates_or_frees stepped changed
    have alive : (scans.scan thread).alive = true := by
      rcases isAt with isAt | isAt <;> rw [isAt] <;> rfl
    have onlyThread (other : Nat) (otherAlive : (scans.scan other).alive = true) :
        other = thread := by
      have sameTid := owned.named thread alive
      rw [owned.named other otherAlive] at sameTid
      exact Option.some.inj sameTid
    refine ⟨thread, fun other => ⟨?_, ?_⟩⟩
    · intro distinct
      exact Bool.eq_false_iff.mpr fun otherAlive =>
        distinct (onlyThread other otherAlive)
    · apply Bool.eq_false_iff.mpr
      intro monitorAlive
      have watching := owned.watched other monitorAlive
      cases onlyThread other (ScanPoint.alive_of_watching watching)
      rcases isAt with isAt | isAt <;> rw [isAt] at watching <;> cases watching
  · intro isDone
    unfold Phase at phase
    rw [isDone] at phase
    exact phase.2

instance (scans : Scans) : (label : ScanLabel) → Decidable (scans.Handled label)
  | .message succeeds => inferInstanceAs (Decidable
      (scans.message = .scanCreate → succeeds = true →
        scans.fileScanTid = none))
  | .scan thread succeeds => inferInstanceAs (Decidable
      (¬(scans.scan thread = .createSignal ∧ succeeds = false)))
  | .main _ | .receive _ | .quit | .monitor _ _ | .unmountEvent _ =>
      inferInstanceAs (Decidable True)

def starting : List ScanLabel := List.replicate 3 (.main true)

def toLoop (thread : Nat) : List ScanLabel :=
  List.replicate 14 (.scan thread true)

/-- The scan thread leaves its loop and ends, its monitor thread first. -/
def toEnd (thread : Nat) : List ScanLabel :=
  [.scan thread true, .scan thread true, .monitor thread false,
    .scan thread true, .scan thread true]

def joining : List ScanLabel := List.replicate 2 (.message true)

def adding : List ScanLabel := [.receive .accepted, .message true]

def ending : List ScanLabel := [.main true, .quit, .main true, .main true]

def closing : List ScanLabel := List.replicate 2 (.main true)

def removeAndAdd : List ScanLabel :=
  starting ++ toLoop 0 ++ .receive .removed :: toEnd 0 ++ joining ++ adding ++
    toLoop 1 ++ ending ++ toEnd 1 ++ closing

theorem one_scan_thread_removeAndAdd :
    ∃ scans, (system 4).Reachable Handled scans ∧
      scans.main = .deinitialised ∧ scans.joined = [1, 0] ∧
      scans.OneScan 4 := by
  have runs : ((system 4).guardedRun
      (fun scans label => decide (scans.Handled label)) start
        removeAndAdd).map (fun scans => (scans.main, scans.joined)) =
      some (.deinitialised, [1, 0]) := by
    decide
  obtain ⟨scans, ran, ends⟩ := Option.map_eq_some_iff.mp runs
  obtain ⟨isDone, joined⟩ := Prod.mk.inj ends
  have reachable : (system 4).Reachable Handled scans :=
    ⟨start, rfl, System.reaches_of_guardedRun
      (fun _ _ allowed => of_decide_eq_true allowed) removeAndAdd ran⟩
  exact ⟨scans, reachable, isDone, joined, one_scan_thread reachable⟩

/-- The card is added again while the first scan thread is in its loop, and the
program ends. -/
def addAgain : List ScanLabel :=
  starting ++ toLoop 0 ++ adding ++ List.replicate 7 (.scan 1 true) ++ ending ++
    List.replicate 3 (.scan 1 true) ++ closing

/-- The second scan thread takes the place of the first, which is never
joined. -/
theorem added_again_two_scans :
    ∃ scans, (system 4).Reachable System.anyStep scans ∧
      scans.main = .deinitialised ∧ scans.created = 2 ∧ scans.joined = [1] ∧
      (scans.scan 0).alive = true ∧ (scans.monitor 0).alive = true ∧
      ¬scans.OneScan 4 := by
  have runs : ((system 4).run start addAgain).map
      (fun scans => ((scans.main, scans.created, scans.joined),
        (scans.scan 0).alive, (scans.monitor 0).alive)) =
      some ((.deinitialised, 2, [1]), true, true) := by
    decide
  obtain ⟨scans, ran, ends⟩ := Option.map_eq_some_iff.mp runs
  simp only [Prod.mk.injEq] at ends
  obtain ⟨⟨isDone, created, joined⟩, scanAlive, monitorAlive⟩ := ends
  refine ⟨scans, System.reachable_of_run rfl ran, isDone, created, joined,
    scanAlive, monitorAlive, ?_⟩
  intro oneScan
  have allJoined := oneScan.joined isDone 0 (by omega)
  rw [joined] at allJoined
  exact absurd allJoined (by decide)

end Scans

end Rkipc.Storage
