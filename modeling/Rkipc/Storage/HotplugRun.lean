import Rkipc.Storage.HotplugFrame
import Rkipc.Storage.RecorderSteps

namespace Rkipc.Storage

open Recorder Transition Program

/-! The handling of a uevent is a run of the listener, the message thread and the
recorders that are joined. -/

namespace Recorder

theorem Shared.modify_congr {shared : Shared} {id : StreamId}
    {first second : Stream → Stream}
    (same : first (shared.streams id) = second (shared.streams id)) :
    shared.modify id first = shared.modify id second := by
  simp [Shared.modify, same]

theorem Shared.modify_eq_self {shared : Shared} {id : StreamId}
    {change : Stream → Stream}
    (same : change (shared.streams id) = shared.streams id) :
    shared.modify id change = shared := by
  simp [Shared.modify, same]

theorem Shared.modify_modify (shared : Shared) (id : StreamId)
    (first second : Stream → Stream) :
    (shared.modify id first).modify id second =
      shared.modify id (second ∘ first) := by
  simp [Shared.modify]

theorem Stream.live_of_not_ended {stream : Stream} (goesOn : ¬stream.Ended) :
    ∃ thread, stream.recordThreadId = some thread ∧ thread ∈ stream.live := by
  simpa [Stream.Ended] using goesOn

theorem Stream.ended_join {stream : Stream} (once : stream.live.Nodup) :
    (stream.setStorageRecordFlag false).join.Ended := by
  intro thread isThread
  rw [join_setStorageRecordFlag] at isThread ⊢
  have sameThread : stream.recordThreadId = some thread := by
    unfold join at isThread
    split at isThread
    next => exact isThread
    next =>
      split at isThread <;> exact isThread
  by_cases isLive : thread ∈ stream.live
  · simp only [join, sameThread, isLive, if_true]
    exact once.not_mem_erase
  · simp only [join, sameThread, isLive, if_false]
    exact isLive

variable {enable : StreamId → Int} {id : StreamId} {thread : Nat}
  {config : Config Thread Shared Control} {shared : Shared}

theorem leave_reaches (noFlag : (shared.streams id).storageRecordFlag = false) :
    (program enable).system.Reaches System.anyStep
      (goes config (.recorder id thread) none (.waiting id thread) shared)
      (goes config (.recorder id thread) none .ended
        (shared.modify id (Stream.leave thread))) := by
  have wakes : (program enable).system.Reaches System.anyStep
      (goes config (.recorder id thread) none (.waiting id thread) shared)
      (goes config (.recorder id thread) none
        (.closing (.recorder thread) id .lock) shared) := by
    have loops : (program enable).system.Reaches System.anyStep
        (goes config (.recorder id thread) none (.recording id thread) shared)
        (goes config (.recorder id thread) none
          (.closing (.recorder thread) id .lock) shared) :=
      reaches_act .go rfl (by simp [noFlag])
    exact (reaches_act .go rfl rfl).trans loops
  have closes : (program enable).system.Reaches System.anyStep
      (goes config (.recorder id thread) none
        (.closing (.recorder thread) id .lock) shared)
      (goes config (.recorder id thread) none (.ending id thread)
        (shared.modify id (Stream.call .deinit ∘ Stream.setRun false))) := by
    rw [← Shared.modify_modify]
    exact ((reaches_acquire .go rfl).trans (reaches_act .go rfl rfl)).trans
      ((reaches_act .go rfl rfl).trans (reaches_release .go rfl))
  have ends : (program enable).system.Reaches System.anyStep
      (goes config (.recorder id thread) none (.ending id thread)
        (shared.modify id (Stream.call .deinit ∘ Stream.setRun false)))
      (goes config (.recorder id thread) none .ended
        (shared.modify id (Stream.leave thread))) := by
    have leaves : shared.modify id (Stream.leave thread) =
        (shared.modify id (Stream.call .deinit ∘ Stream.setRun false)).modify id
          (Stream.ended thread) := by
      rw [Shared.modify_modify]
      rfl
    rw [leaves]
    exact reaches_act .go rfl rfl
  exact (wakes.trans closes).trans ends

theorem check_reaches {stopper : Stopper} (isEnabled : enable id ≠ 0) :
    (program enable).system.Reaches System.anyStep
      (goes config .message none (.deinitById stopper id .enter) shared)
      (goes config .message none (.deinitById stopper id .check)
        (shared.modify id (Stream.setStorageRecordFlag false))) := by
  have clears : (program enable).system.Reaches System.anyStep
      (goes config .message none (.deinitById stopper id .enabled) shared)
      (goes config .message none (.deinitById stopper id .clearFlag) shared) :=
    reaches_act .go rfl (by simp [goTo, isEnabled])
  exact ((reaches_act .go rfl rfl).trans clears).trans (reaches_act .go rfl rfl)

theorem give_reaches {stopper : Stopper}
    (isCreated : (shared.streams id).gStorageSignal = true) :
    (program enable).system.Reaches System.anyStep
      (goes config .message none (.deinitById stopper id .check) shared)
      (goes config .message none (.deinitById stopper id .join) shared) := by
  have checks : (program enable).system.Reaches System.anyStep
      (goes config .message none (.deinitById stopper id .check) shared)
      (goes config .message none (.deinitById stopper id .give) shared) :=
    reaches_act .go rfl (by simp only [isCreated, if_true])
  exact checks.trans (reaches_act .go rfl rfl)

theorem joined_reaches (stopper : Stopper)
    (ended : (shared.streams id).Ended) :
    (program enable).system.Reaches System.anyStep
      (goes config .message none (.deinitById stopper id .join) shared)
      (goes config .message none (afterDeinit id stopper)
        (shared.modify id (Stream.setSignal false))) := by
  have noneLive : ¬((shared.streams id).recordThreadId.any
      (fun thread => thread ∈ (shared.streams id).live)) = true := by
    cases isThread : (shared.streams id).recordThreadId with
    | none => simp
    | some thread => simpa using ended thread isThread
  have joins : (program enable).system.Reaches System.anyStep
      (goes config .message none (.deinitById stopper id .join) shared)
      (goes config .message none (.deinitById stopper id .destroy) shared) :=
    reaches_act .go rfl (if_neg noneLive)
  exact (joins.trans (reaches_act .go rfl rfl)).trans (reaches_act .go rfl rfl)

/-- What a call on one stream leaves alone. -/
structure Beside (id : StreamId) (before after : Config Thread Shared Control) :
    Prop where
  owner : after.owner = before.owner
  control : ∀ other, other ≠ .message →
    (∀ thread, other ≠ .recorder id thread) →
    after.control other = before.control other

/-- The recorder that a join gets is a waiting one. -/
structure Rests (id : StreamId) (config : Config Thread Shared Control) :
    Prop where
  once : (config.shared.streams id).live.Nodup
  waits : ∀ thread, (config.shared.streams id).recordThreadId = some thread →
    thread ∈ (config.shared.streams id).live →
    config.control (.recorder id thread) = .waiting id thread

theorem Rests.congr {after : Config Thread Shared Control}
    (rests : Rests id config)
    (live : (after.shared.streams id).live = (config.shared.streams id).live)
    (recordThreadId : (after.shared.streams id).recordThreadId =
      (config.shared.streams id).recordThreadId)
    (control : ∀ thread, after.control (.recorder id thread) =
      config.control (.recorder id thread)) : Rests id after where
  once := by
    rw [live]
    exact rests.once
  waits thread isThread isLive := by
    rw [recordThreadId] at isThread
    rw [live] at isLive
    rw [control]
    exact rests.waits thread isThread isLive

theorem beside_goes {next : Control} (free : config.owner = none) :
    Beside id config (goes config .message none next shared) where
  owner := free.symm
  control _ distinct _ := Function.update_of_ne distinct ..

theorem deinitById_run_idle {stopper : Stopper} (free : config.owner = none)
    (atCall : config.control .message = .deinitById stopper id .enter)
    (isIdle : enable id = 0 ∨
      (config.shared.streams id).gStorageSignal = false) :
    (program enable).system.Reaches System.anyStep config
      (goes config .message none (afterDeinit id stopper)
        (config.shared.modify id (Stream.muxerDeinitById (enable id)))) := by
  apply reaches_of_goes free atCall
  by_cases isDisabled : enable id = 0
  · have same : config.shared.modify id (Stream.muxerDeinitById (enable id)) =
        config.shared :=
      Shared.modify_eq_self (by simp [Stream.muxerDeinitById, isDisabled])
    rw [same]
    exact (reaches_act .go rfl rfl).trans
      (reaches_act .go rfl (by simp [goTo, isDisabled]))
  · have noSignal := isIdle.resolve_left isDisabled
    have same : config.shared.modify id (Stream.muxerDeinitById (enable id)) =
        config.shared.modify id (Stream.setStorageRecordFlag false) := by
      apply Shared.modify_congr
      simp [Stream.muxerDeinitById, isDisabled, Stream.setStorageRecordFlag,
        noSignal]
    have skips : (program enable).system.Reaches System.anyStep
        (goes config .message none (.deinitById stopper id .check)
          (config.shared.modify id (Stream.setStorageRecordFlag false)))
        (goes config .message none (afterDeinit id stopper)
          (config.shared.modify id (Stream.setStorageRecordFlag false))) := by
      apply reaches_act .go rfl
      rw [Shared.modify_same]
      simp [Stream.setStorageRecordFlag, noSignal]
    rw [same]
    exact (check_reaches isDisabled).trans skips

theorem deinitById_run_joins {stopper : Stopper} (free : config.owner = none)
    (atCall : config.control .message = .deinitById stopper id .enter)
    (rests : Rests id config) (isEnabled : enable id ≠ 0)
    (isCreated : (config.shared.streams id).gStorageSignal = true) :
    ∃ after, (program enable).system.Reaches System.anyStep config after ∧
      Beside id config after ∧
      after.control .message = afterDeinit id stopper ∧
      after.shared = config.shared.modify id
        (Stream.muxerDeinitById (enable id)) := by
  let cleared := config.shared.modify id (Stream.setStorageRecordFlag false)
  have stillCreated : (cleared.streams id).gStorageSignal = true := by
    rw [Shared.modify_same]
    exact isCreated
  have atJoin : (program enable).system.Reaches System.anyStep config
      (goes config .message none (.deinitById stopper id .join) cleared) :=
    reaches_of_goes free atCall
      ((check_reaches isEnabled).trans (give_reaches stillCreated))
  have stops : config.shared.modify id (Stream.muxerDeinitById (enable id)) =
      (cleared.modify id Stream.join).modify id (Stream.setSignal false) := by
    rw [Shared.modify_modify, Shared.modify_modify]
    apply Shared.modify_congr
    simp [Stream.muxerDeinitById, isEnabled, Stream.setStorageRecordFlag,
      isCreated]
  by_cases ended : (config.shared.streams id).Ended
  · have same : cleared.modify id Stream.join = cleared := by
      apply Shared.modify_eq_self
      rw [Shared.modify_same]
      exact Stream.join_eq_self_of_ended ended
    rw [same] at stops
    have clearedEnded : (cleared.streams id).Ended := by
      rw [Shared.modify_same]
      exact ended
    refine ⟨_, atJoin.trans (joined_reaches stopper clearedEnded), ?_, ?_, ?_⟩
    · exact beside_goes free
    · simp [goes]
    · exact stops.symm
  · obtain ⟨thread, isThread, isLive⟩ := Stream.live_of_not_ended ended
    let joining := goes config .message none
      (.deinitById stopper id .join) cleared
    have joinLeaves : cleared.modify id Stream.join =
        cleared.modify id (Stream.leave thread) := by
      apply Shared.modify_congr
      rw [Shared.modify_same]
      simp [Stream.join, Stream.setStorageRecordFlag, isThread, isLive]
    have waits : joining.control (.recorder id thread) = .waiting id thread := by
      simpa [joining, goes] using rests.waits thread isThread isLive
    have noFlag : (cleared.streams id).storageRecordFlag = false := by
      rw [Shared.modify_same]
      rfl
    have leaves : (program enable).system.Reaches System.anyStep joining
        (goes joining (.recorder id thread) none .ended
          (cleared.modify id Stream.join)) := by
      rw [joinLeaves]
      exact reaches_of_goes rfl waits (leave_reaches noFlag)
    have leftEnded : ((cleared.modify id Stream.join).streams id).Ended := by
      rw [Shared.modify_same, Shared.modify_same]
      exact Stream.ended_join rests.once
    have left : (goes joining (.recorder id thread) none .ended
        (cleared.modify id Stream.join)).control .message =
        .deinitById stopper id .join := by
      simp [joining, goes]
    refine ⟨_, (atJoin.trans leaves).trans
      (reaches_of_goes rfl left (joined_reaches stopper leftEnded)), ?_, ?_, ?_⟩
    · refine ⟨free.symm, fun other notMessage notRecorder => ?_⟩
      simp [joining, goes, notMessage, notRecorder thread]
    · simp [goes]
    · exact stops.symm

theorem deinitById_run {stopper : Stopper} (free : config.owner = none)
    (atCall : config.control .message = .deinitById stopper id .enter)
    (rests : Rests id config) :
    ∃ after, (program enable).system.Reaches System.anyStep config after ∧
      Beside id config after ∧
      after.control .message = afterDeinit id stopper ∧
      after.shared = config.shared.modify id
        (Stream.muxerDeinitById (enable id)) := by
  by_cases isIdle : enable id = 0 ∨
      (config.shared.streams id).gStorageSignal = false
  · exact ⟨_, deinitById_run_idle free atCall isIdle, beside_goes free,
      by simp [goes], rfl⟩
  · obtain ⟨isEnabled, isCreated⟩ := not_or.mp isIdle
    exact deinitById_run_joins free atCall rests isEnabled (by simpa using isCreated)

theorem create_reaches {starter : Starter} (signal recorder : Bool) :
    (program enable).system.Reaches System.anyStep
      (goes config .message none (.initById starter id .create) shared)
      (goes config .message none (afterInit id starter)
        (shared.modify id fun stream =>
          let stream := stream.setSignal signal
          if signal then
            let stream := stream.setStorageRecordFlag true
            if recorder then stream.spawn else stream
          else stream)) := by
  cases signal with
  | false => exact reaches_act (.outcome false) rfl rfl
  | true =>
      have sets : (program enable).system.Reaches System.anyStep
          (goes config .message none (.initById starter id .create) shared)
          (goes config .message none (.initById starter id .spawn)
            ((shared.modify id (Stream.setSignal true)).modify id
              (Stream.setStorageRecordFlag true))) :=
        (reaches_act (.outcome true) rfl rfl).trans (reaches_act .go rfl rfl)
      cases recorder with
      | false =>
          rw [Shared.modify_modify] at sets
          exact sets.trans (reaches_act (.outcome false) rfl rfl)
      | true =>
          have spawns := sets.trans (reaches_act (.outcome true) rfl rfl)
          rw [Shared.modify_modify, Shared.modify_modify] at spawns
          exact spawns

theorem initById_run {starter : Starter} (free : config.owner = none)
    (atCall : config.control .message = .initById starter id .enter)
    (prepared signal recorder : Bool) :
    (program enable).system.Reaches System.anyStep config
      (goes config .message none (afterInit id starter)
        (config.shared.modify id
          (Stream.muxerInitById (enable id) prepared signal recorder))) := by
  apply reaches_of_goes free atCall
  cases prepared with
  | false =>
      have same : config.shared.modify id
          (Stream.muxerInitById (enable id) false signal recorder) =
          config.shared :=
        Shared.modify_eq_self rfl
      rw [same]
      exact (reaches_act .go rfl rfl).trans
        (reaches_act (.outcome false) rfl rfl)
  | true =>
      have prepares : (program enable).system.Reaches System.anyStep
          (goes config .message none (.initById starter id .enter)
            config.shared)
          (goes config .message none (.initById starter id .enabled)
            config.shared) :=
        (reaches_act .go rfl rfl).trans (reaches_act (.outcome true) rfl rfl)
      by_cases isDisabled : enable id = 0
      · have same : config.shared.modify id
            (Stream.muxerInitById (enable id) true signal recorder) =
            config.shared :=
          Shared.modify_eq_self (by simp [Stream.muxerInitById, isDisabled])
        rw [same]
        exact prepares.trans (reaches_act .go rfl (by simp [goTo, isDisabled]))
      · have creates : (program enable).system.Reaches System.anyStep
            (goes config .message none (.initById starter id .enabled)
              config.shared)
            (goes config .message none (.initById starter id .destroy)
              config.shared) :=
          reaches_act .go rfl (by simp [goTo, isDisabled])
        have starts := ((prepares.trans creates).trans
          (reaches_act .go rfl rfl)).trans (create_reaches signal recorder)
        have same : config.shared.modify id
            (Stream.muxerInitById (enable id) true signal recorder) =
            config.shared.modify id fun stream =>
              let stream := stream.setSignal signal
              if signal then
                let stream := stream.setStorageRecordFlag true
                if recorder then stream.spawn else stream
              else stream :=
          Shared.modify_congr (by simp [Stream.muxerInitById, isDisabled])
        rw [same]
        exact starts

theorem Beside.rests {other : StreamId} {after : Config Thread Shared Control}
    {change : Stream → Stream} (beside : Beside id config after)
    (same : after.shared = config.shared.modify id change)
    (distinct : other ≠ id) (rests : Rests other config) :
    Rests other after := by
  have sameStream : after.shared.streams other = config.shared.streams other := by
    rw [same]
    exact Shared.modify_other _ _ distinct
  apply rests.congr
  · rw [sameStream]
  · rw [sameStream]
  · intro thread
    apply beside.control
    · exact nofun
    · intro _ isSame
      cases isSame
      exact distinct rfl

/-- The streams from `i` on that the message thread handles are changed. -/
def changeFrom (i : Nat) (change : StreamId → Stream → Stream)
    (streams : StreamId → Stream) (id : StreamId) : Stream :=
  if i ≤ id ∧ (id : Nat) < 3 then change id (streams id) else streams id

theorem changeFrom_step {change : StreamId → Stream → Stream}
    (id : StreamId) (below : (id : Nat) < 3) (shared : Shared) :
    changeFrom (id + 1) change (shared.modify id (change id)).streams =
      changeFrom id change shared.streams := by
  funext other
  unfold changeFrom
  by_cases isId : other = id
  · subst isId
    simp [below]
  · have distinct : (other : Nat) ≠ id := fun same => isId (Fin.ext same)
    rw [Shared.modify_other _ _ isId]
    have sameRange : ((id : Nat) + 1 ≤ other ∧ (other : Nat) < 3) ↔
        ((id : Nat) ≤ other ∧ (other : Nat) < 3) := by omega
    simp only [sameRange]

section Loop

variable {point : Nat → Control} {last : Control}
  {change : StreamId → Stream → Stream}

theorem loop_run
    (body : ∀ (id : StreamId) (config : Config Thread Shared Control),
      (id : Nat) < 3 → config.owner = none →
      config.control .message = point id → Rests id config →
      ∃ after, (program enable).system.Reaches System.anyStep config after ∧
        Beside id config after ∧ after.control .message = point (id + 1) ∧
        after.shared = config.shared.modify id (change id))
    (done : ∀ config : Config Thread Shared Control, config.owner = none →
      config.control .message = point 3 →
      (program enable).system.Reaches System.anyStep config
        (goes config .message none last config.shared)) :
    ∀ (rest i : Nat), i + rest = 3 →
      ∀ config : Config Thread Shared Control, config.owner = none →
        config.control .message = point i →
        (∀ id : StreamId, i ≤ id → (id : Nat) < 3 → Rests id config) →
        ∃ after, (program enable).system.Reaches System.anyStep config after ∧
          after.control .message = last ∧
          after.shared.streams = changeFrom i change config.shared.streams
  | 0, i, isAll, config, free, atPoint, _ => by
      have isLast : i = 3 := isAll
      subst isLast
      refine ⟨_, done config free atPoint, by simp [goes], ?_⟩
      funext id
      exact (if_neg (by omega)).symm
  | rest + 1, i, isAll, config, free, atPoint, rests => by
      have below : i < 3 := by omega
      let id : StreamId := ⟨i, by omega⟩
      obtain ⟨next, reaches, beside, atNext, changed⟩ :=
        body id config below free atPoint (rests id (Nat.le_refl i) below)
      have restsNext (other : StreamId) (after : i + 1 ≤ other)
          (otherBelow : (other : Nat) < 3) : Rests other next := by
        have distinct : other ≠ id := by
          rintro rfl
          exact Nat.not_succ_le_self i after
        exact beside.rests changed distinct
          (rests other (Nat.le_of_succ_le after) otherBelow)
      obtain ⟨after, continues, atLast, all⟩ := loop_run body done rest (i + 1)
        (by omega) next (beside.owner.trans free) atNext restsNext
      refine ⟨after, reaches.trans continues, atLast, ?_⟩
      rw [all, changed]
      exact changeFrom_step id below config.shared

end Loop

theorem loop_body {bound i : Nat} {bounded : bound ≤ 4}
    {body : StreamId → Effect} {next : Control} (inside : i < bound) :
    loop bound bounded i body next =
      body ⟨i, Nat.lt_of_lt_of_le inside bounded⟩ := by
  rw [loop, dif_pos inside]

theorem Beside.trans {middle after : Config Thread Shared Control}
    (left : Beside id config middle) (right : Beside id middle after) :
    Beside id config after where
  owner := right.owner.trans left.owner
  control other notMessage notRecorder :=
    (right.control other notMessage notRecorder).trans
      (left.control other notMessage notRecorder)

/-- A loop sets the record flag of a stream and stops its recorder. -/
theorem stop_run {stopper : Stopper} {point : Control} {effect : Effect}
    (flag : Int) (free : config.owner = none)
    (atPoint : config.control .message = point)
    (acts : code enable point = .act effect)
    (calls : effect config.shared .go =
      some (config.shared.modify id (Stream.setRecordFlag flag),
        .deinitById stopper id .enter))
    (rests : Rests id config) :
    ∃ after, (program enable).system.Reaches System.anyStep config after ∧
      Beside id config after ∧
      after.control .message = afterDeinit id stopper ∧
      after.shared = config.shared.modify id fun stream =>
        (stream.setRecordFlag flag).muxerDeinitById (enable id) := by
  let calling := goes config .message none (.deinitById stopper id .enter)
    (config.shared.modify id (Stream.setRecordFlag flag))
  have enters : (program enable).system.Reaches System.anyStep config calling :=
    reaches_of_goes free atPoint (reaches_act .go acts calls)
  have sameStream : calling.shared.streams id =
      (config.shared.streams id).setRecordFlag flag :=
    Shared.modify_same ..
  have restsHere : Rests id calling := by
    apply rests.congr
    · rw [sameStream]
      rfl
    · rw [sameStream]
      rfl
    · intro thread
      simp [calling, goes]
  have atCall : calling.control .message = .deinitById stopper id .enter := by
    simp [calling, goes]
  obtain ⟨after, stops, beside, atNext, changed⟩ :=
    deinitById_run rfl atCall restsHere
  refine ⟨after, enters.trans stops, (beside_goes free).trans beside, atNext, ?_⟩
  rw [changed]
  exact Shared.modify_modify ..

theorem devRemove_run (free : config.owner = none)
    (atLoop : config.control .message = .devRemove 0)
    (rests : ∀ id : StreamId, (id : Nat) < 3 → Rests id config) :
    ∃ after, (program enable).system.Reaches System.anyStep config after ∧
      after.control .message = .messageIdle ∧
      after.shared.streams = belowLast (stop enable) config.shared.streams := by
  have body : ∀ (id : StreamId) (config : Config Thread Shared Control),
      (id : Nat) < 3 → config.owner = none →
      config.control .message = .devRemove id → Rests id config →
      ∃ after, (program enable).system.Reaches System.anyStep config after ∧
        Beside id config after ∧
        after.control .message = .devRemove (id + 1) ∧
        after.shared = config.shared.modify id (stop enable id) := by
    intro id config below free atPoint rests
    exact stop_run 0 free atPoint rfl (by rw [loop_body below]; rfl) rests
  have done : ∀ config : Config Thread Shared Control, config.owner = none →
      config.control .message = .devRemove 3 →
      (program enable).system.Reaches System.anyStep config
        (goes config .message none .messageIdle config.shared) := by
    intro config free atPoint
    exact reaches_of_goes free atPoint (reaches_act .go rfl rfl)
  obtain ⟨after, reaches, atIdle, changed⟩ := loop_run body done 3 0 rfl config
    free atLoop fun id _ => rests id
  refine ⟨after, reaches, atIdle, changed.trans ?_⟩
  funext id
  simp [changeFrom, belowLast]

theorem devAdd_run (answers : Answers) (free : config.owner = none)
    (atLoop : config.control .message = .devAdd 0)
    (rests : ∀ id : StreamId, (id : Nat) < 3 → Rests id config) :
    ∃ after, (program enable).system.Reaches System.anyStep config after ∧
      after.control .message = .messageIdle ∧
      after.shared.streams =
        belowLast (restart enable answers) config.shared.streams := by
  have body : ∀ (id : StreamId) (config : Config Thread Shared Control),
      (id : Nat) < 3 → config.owner = none →
      config.control .message = .devAdd id → Rests id config →
      ∃ after, (program enable).system.Reaches System.anyStep config after ∧
        Beside id config after ∧
        after.control .message = .devAdd (id + 1) ∧
        after.shared = config.shared.modify id (restart enable answers id) := by
    intro id config below free atPoint rests
    by_cases isOn : enable id = 1
    · have calls : loop 3 (by decide) id (Recorder.devAdd enable) .messageIdle
          config.shared .go =
          some (config.shared.modify id (Stream.setRecordFlag 1),
            .deinitById .devAddRestart id .enter) := by
        rw [loop_body below, Recorder.devAdd, if_pos isOn]
        rfl
      obtain ⟨stopped, stops, beside, atInit, changed⟩ :=
        stop_run 1 free atPoint rfl calls rests
      have starts : (program enable).system.Reaches System.anyStep stopped _ :=
        initById_run (beside.owner.trans free) atInit (answers.prepared id)
          (answers.signal id) (answers.recorder id)
      refine ⟨_, stops.trans starts,
        beside.trans (beside_goes (beside.owner.trans free)), by simp [goes]; rfl,
        ?_⟩
      have restarts : config.shared.modify id (restart enable answers id) =
          config.shared.modify id fun stream =>
            ((stream.setRecordFlag 1).muxerDeinitById
              (enable id)).muxerInitById (enable id) (answers.prepared id)
                (answers.signal id) (answers.recorder id) :=
        Shared.modify_congr (by rw [restart, if_pos isOn])
      rw [restarts]
      simp only [goes, changed]
      exact Shared.modify_modify ..
    · by_cases isOff : enable id = 0
      · have calls : loop 3 (by decide) id (Recorder.devAdd enable) .messageIdle
            config.shared .go =
            some (config.shared.modify id (Stream.setRecordFlag 0),
              .deinitById .devAddDisable id .enter) := by
          rw [loop_body below, Recorder.devAdd, if_neg isOn, if_pos isOff]
          rfl
        obtain ⟨after, stops, beside, atNext, changed⟩ :=
          stop_run 0 free atPoint rfl calls rests
        refine ⟨after, stops, beside, atNext, changed.trans ?_⟩
        exact Shared.modify_congr (by rw [restart, if_neg isOn, if_pos isOff])
      · have calls : loop 3 (by decide) id (Recorder.devAdd enable) .messageIdle
            config.shared .go = some (config.shared, .devAdd (id + 1)) := by
          rw [loop_body below, Recorder.devAdd, if_neg isOn, if_neg isOff]
          rfl
        refine ⟨_, reaches_of_goes free atPoint (reaches_act .go rfl calls),
          beside_goes free, by simp [goes], ?_⟩
        have same : config.shared.modify id (restart enable answers id) =
            config.shared :=
          Shared.modify_eq_self (by rw [restart, if_neg isOn, if_neg isOff])
        rw [same]
        rfl
  have done : ∀ config : Config Thread Shared Control, config.owner = none →
      config.control .message = .devAdd 3 →
      (program enable).system.Reaches System.anyStep config
        (goes config .message none .messageIdle config.shared) := by
    intro config free atPoint
    exact reaches_of_goes free atPoint (reaches_act .go rfl rfl)
  obtain ⟨after, reaches, atIdle, changed⟩ := loop_run body done 3 0 rfl config
    free atLoop fun id _ => rests id
  refine ⟨after, reaches, atIdle, changed.trans ?_⟩
  funext id
  simp [changeFrom, belowLast]

theorem clearFlags_run (free : config.owner = none)
    (managed : config.shared.managed = true)
    (listens : config.shared.eventListenerRun = true)
    (atListening : config.control .listener = .listening) :
    ∃ cleared, (program enable).system.Reaches System.anyStep config
        (goes config .listener none .listening cleared) ∧
      cleared.managed = true ∧ cleared.quit = config.shared.quit ∧
      ∀ id, cleared.streams id =
        (config.shared.streams id).setStorageRecordFlag false := by
  let clear (id : StreamId) (shared : Shared) : Shared :=
    shared.modify id (Stream.setStorageRecordFlag false)
  have reads : (program enable).system.Reaches System.anyStep
      (goes config .listener none .listening config.shared)
      (goes config .listener none (.clearFlags 0) config.shared) :=
    reaches_act .devRemove rfl (by simp [managed, listens])
  have clears : (program enable).system.Reaches System.anyStep
      (goes config .listener none (.clearFlags 0) config.shared)
      (goes config .listener none .listening
        (clear 3 (clear 2 (clear 1 (clear 0 config.shared))))) :=
    (((reaches_act .go rfl rfl).trans (reaches_act .go rfl rfl)).trans
      ((reaches_act .go rfl rfl).trans (reaches_act .go rfl rfl))).trans
      (reaches_act .go rfl rfl)
  refine ⟨_, reaches_of_goes free atListening (reads.trans clears), managed, rfl,
    ?_⟩
  intro id
  match id with
  | 0 => rfl
  | 1 => rfl
  | 2 => rfl
  | 3 => rfl

end Recorder

namespace Plugged

/-- The listener and the message thread are between two uevents, and the
recorders wait. -/
structure Quiet (plugged : Plugged) (config : Config Thread Shared Control) :
    Prop where
  free : config.owner = none
  streams : config.shared.streams = plugged.streams
  managed : config.shared.managed = true
  listens : config.shared.eventListenerRun = true
  goesOn : config.shared.quit = false
  listener : config.control .listener = .listening
  message : config.control .message = .messageIdle
  rests : ∀ id : StreamId, (id : Nat) < 3 → Rests id config

variable {enable : StreamId → Int} {plugged : Plugged}
  {config : Config Thread Shared Control}

theorem msgRecCb_devRemove_run {dev : String} (answers : Answers)
    (quiet : plugged.Quiet config) :
    ∃ after, (program enable).system.Reaches System.anyStep config after ∧
      after.shared.streams =
        (plugged.cleared.msgRecCb enable answers dev .devRemove).streams := by
  obtain ⟨cleared, clears, managed, sameQuit, streams⟩ := clearFlags_run
    quiet.free quiet.managed quiet.listens quiet.listener
  let listened := goes config .listener none .listening cleared
  let removing := goes listened .message none (.devRemove 0) cleared
  have atIdle : listened.control .message = .messageIdle := by
    simpa [listened, goes] using quiet.message
  have takes : (program enable).system.Reaches System.anyStep listened
      removing := by
    apply reaches_of_goes rfl atIdle
    apply reaches_act .devRemove rfl
    simp [listened, goes, managed, sameQuit, quiet.goesOn]
  have sameStreams : cleared.streams = plugged.cleared.streams := by
    funext id
    rw [streams, quiet.streams]
    rfl
  have rests (id : StreamId) (below : (id : Nat) < 3) : Rests id removing := by
    have sameStream : removing.shared.streams id =
        (config.shared.streams id).setStorageRecordFlag false := streams id
    apply (quiet.rests id below).congr
    · rw [sameStream]
      rfl
    · rw [sameStream]
      rfl
    · intro thread
      simp [removing, listened, goes]
  have atLoop : removing.control .message = .devRemove 0 := by
    simp [removing, goes]
  obtain ⟨after, removes, _, changed⟩ := devRemove_run rfl atLoop rests
  refine ⟨after, (clears.trans takes).trans removes, changed.trans ?_⟩
  simp only [removing, goes, sameStreams]
  rfl

theorem msgRecCb_devAdd_run {dev : String} (answers : Answers)
    (quiet : plugged.Quiet config) :
    ∃ after, (program enable).system.Reaches System.anyStep config after ∧
      after.shared.streams =
        (plugged.msgRecCb enable answers dev .devAdd).streams := by
  cases added : (plugged.handle.devAdd answers dev).2 with
  | false =>
      refine ⟨config, .refl, ?_⟩
      simp [msgRecCb, added, quiet.streams]
  | true =>
      let adding := goes config .message none (.devAdd 0) config.shared
      have takes : (program enable).system.Reaches System.anyStep config
          adding := by
        apply reaches_of_goes quiet.free quiet.message
        apply reaches_act .devAdd rfl
        simp [quiet.managed, quiet.goesOn]
      have rests (id : StreamId) (below : (id : Nat) < 3) : Rests id adding := by
        refine (quiet.rests id below).congr rfl rfl ?_
        intro thread
        simp [adding, goes]
      have atLoop : adding.control .message = .devAdd 0 := by
        simp [adding, goes]
      obtain ⟨after, adds, _, changed⟩ := devAdd_run answers rfl atLoop rests
      refine ⟨after, takes.trans adds, changed.trans ?_⟩
      simp [msgRecCb, added, adding, goes, quiet.streams]

/-- The threads have a run that handles the uevent as a whole. -/
theorem handleUevent_run (quiet : plugged.Quiet config) (answers : Answers)
    (event : Uevent) :
    ∃ after, (program enable).system.Reaches System.anyStep config after ∧
      after.shared.streams =
        (plugged.handleUevent enable answers event).streams := by
  have nothing : ∃ after,
      (program enable).system.Reaches System.anyStep config after ∧
        after.shared.streams = plugged.streams :=
    ⟨config, .refl, quiet.streams⟩
  unfold handleUevent listen
  by_cases isDisk : event.devtype = .partition ∨ event.devtype = .disk
  · rw [if_pos isDisk]
    cases event.action with
    | add =>
        cases sent : answers.sent with
        | true => simpa [sent] using msgRecCb_devAdd_run answers quiet
        | false => simpa [sent] using nothing
    | remove =>
        cases sent : answers.sent with
        | true => simpa [sent] using msgRecCb_devRemove_run answers quiet
        | false =>
            obtain ⟨cleared, clears, _, _, streams⟩ := clearFlags_run
              quiet.free quiet.managed quiet.listens quiet.listener
            refine ⟨_, clears, ?_⟩
            funext id
            simp [goes, streams, quiet.streams, Plugged.cleared]
    | change =>
        cases sent : answers.sent with
        | true => simpa [sent, msgRecCb] using nothing
        | false => simpa [sent] using nothing
    | other => exact nothing
  · rw [if_neg isDisk]
    exact nothing

end Plugged

end Rkipc.Storage
