import Rkipc.Storage.MuxerGuard

namespace Rkipc.Storage.Recorder

open Transition

/-! The recorder threads of a stream from their creation to their join. -/

/-- Nobody starts or stops a recorder of the stream: a live recorder is the one
that `record_thread_id` names, and it has its signal. -/
def Stream.Settled (stream : Stream) : Prop :=
  stream.live = [] ∨ stream.gStorageSignal = true ∧
    ∃ thread, stream.recordThreadId = some thread ∧ stream.live = [thread]

theorem Stream.Settled.gone {stream : Stream} (settled : stream.Settled)
    (noSignal : stream.gStorageSignal = false) : stream.live = [] := by
  rcases settled with isGone | ⟨signal, _⟩
  · exact isGone
  · rw [noSignal] at signal
    contradiction

def Stream.DuringInit (enable : Int) (stream : Stream) : InitById → Prop
  | .enter => True
  | .prepare | .enabled => stream.gStorageSignal = false ∧ stream.live = []
  | .destroy | .create =>
      (stream.gStorageSignal = false ∧ stream.live = []) ∧ enable ≠ 0
  | .setFlag | .spawn =>
      (stream.gStorageSignal = true ∧ stream.live = []) ∧ enable ≠ 0

def Stream.DuringDeinit (stream : Stream) : DeinitById → Prop
  | .enter => True
  | .enabled | .clearFlag | .check => stream.Settled
  | .give | .join => stream.gStorageSignal = true ∧ stream.Settled
  | .destroy | .clear => stream.gStorageSignal = true ∧ stream.live = []

/-- The state of the stream that a thread at the control point relies on. -/
def During (enable : StreamId → Int) (id : StreamId) (stream : Stream) :
    Control → Prop
  | .initById _ other stage => other = id → stream.DuringInit (enable id) stage
  | .deinitById _ other stage => other = id → stream.DuringDeinit stage
  | _ => True

def Control.starts (id : StreamId) : Control → Bool
  | .initById _ other stage => other = id ∧ stage ≠ .enter
  | _ => false

theorem Control.not_starts {id : StreamId} {point : Control}
    (outside : point.calls id = false) : point.starts id = false := by
  cases point <;> first | exact outside | rfl

theorem during_of_not_calls (enable : StreamId → Int) {id : StreamId}
    {point : Control} (outside : point.calls id = false) (stream : Stream) :
    During enable id stream point := by
  cases point with
  | initById starter other stage =>
      rintro rfl
      have isEnter : stage = .enter := by simpa [Control.calls] using outside
      subst isEnter
      trivial
  | deinitById stopper other stage =>
      rintro rfl
      have isEnter : stage = .enter := by simpa [Control.calls] using outside
      subst isEnter
      trivial
  | _ => trivial

/-- A recorder is started and stopped by one call at a time, it is started when
there is no signal of an earlier one, and not after `rk_storage_deinit` has
passed its stream. -/
def soleCall (config : Config Thread Shared Control)
    (label : Thread × Choice) : Prop :=
  match config.control label.1 with
  | .initById _ id .enter =>
      (∀ thread, (config.control thread).calls id = false) ∧
        (config.shared.streams id).gStorageSignal = false ∧
        (config.control .main).passed id = false
  | .deinitById _ id .enter =>
      ∀ thread, (config.control thread).calls id = false
  | _ => True

structure Lifecycle (enable : StreamId → Int)
    (config : Config Thread Shared Control) : Prop where
  alone : ∀ id left right, (config.control left).calls id = true →
    (config.control right).calls id = true → left = right
  during : ∀ id thread,
    During enable id (config.shared.streams id) (config.control thread)
  settled : ∀ id, (∀ thread, (config.control thread).calls id = false) →
    (config.shared.streams id).Settled
  passed : ∀ id, (config.control .main).passed id = true →
    (config.shared.streams id).gStorageSignal = false ∧
      ∀ thread, (config.control thread).starts id = false
  disabled : ∀ id, enable id = 0 →
    (config.shared.streams id).gStorageSignal = false ∧
      (config.shared.streams id).live = []

/-! Steps outside the calls. -/

/-- At most an end of a recorder. -/
structure Calm (before after : Stream) : Prop where
  signal : after.gStorageSignal = before.gStorageSignal
  thread : after.recordThreadId = before.recordThreadId
  live : after.live = before.live ∨
    ∃ thread, after.live = before.live.erase thread

namespace Calm

variable {before after : Stream}

theorem refl (stream : Stream) : Calm stream stream := ⟨rfl, rfl, .inl rfl⟩

theorem gone (calm : Calm before after) (isGone : before.live = []) :
    after.live = [] := by
  rcases calm.live with same | ⟨thread, erased⟩
  · exact same.trans isGone
  · rw [erased, isGone]
    rfl

theorem settled (calm : Calm before after) (settled : before.Settled) :
    after.Settled := by
  rcases settled with isGone | ⟨signal, thread, isThread, isLive⟩
  · exact .inl (calm.gone isGone)
  · rcases calm.live with same | ⟨other, erased⟩
    · exact .inr ⟨calm.signal.trans signal, thread,
        calm.thread.trans isThread, same.trans isLive⟩
    · by_cases isOther : other = thread
      · left
        rw [erased, isLive, isOther, List.erase_cons_head]
      · right
        refine ⟨calm.signal.trans signal, thread, calm.thread.trans isThread, ?_⟩
        rw [erased, isLive, List.erase_of_not_mem]
        simpa using isOther

theorem during (calm : Calm before after) {enable : StreamId → Int}
    {id : StreamId} {point : Control} (during : During enable id before point) :
    During enable id after point := by
  cases point with
  | initById starter other stage =>
      intro same
      have holds := during same
      cases stage with
      | enter => trivial
      | prepare | enabled =>
          exact ⟨calm.signal.trans holds.1, calm.gone holds.2⟩
      | destroy | create | setFlag | spawn =>
          exact ⟨⟨calm.signal.trans holds.1.1, calm.gone holds.1.2⟩, holds.2⟩
  | deinitById stopper other stage =>
      intro same
      have holds := during same
      cases stage with
      | enter => trivial
      | enabled | clearFlag | check => exact calm.settled holds
      | give | join =>
          exact ⟨calm.signal.trans holds.1, calm.settled holds.2⟩
      | destroy | clear =>
          exact ⟨calm.signal.trans holds.1, calm.gone holds.2⟩
  | _ => trivial

end Calm

theorem calm_modify {change : Stream → Stream}
    (calm : ∀ stream, Calm stream (change stream)) (before : Shared)
    (own id : StreamId) :
    Calm (before.streams id) ((before.modify own change).streams id) := by
  by_cases same : id = own
  · subst same
    rw [Shared.modify_same]
    exact calm _
  · rw [Shared.modify_other _ _ same]
    exact .refl _

theorem Plain.calm {before after : Shared} {point : Control}
    (plain : Plain before point after) (id : StreamId) :
    Calm (before.streams id) (after.streams id) := by
  cases plain with
  | same streams =>
      rw [streams]
      exact .refl _
  | flag | storageFlag =>
      apply calm_modify
      exact fun _ => ⟨rfl, rfl, .inl rfl⟩
  | ended own thread =>
      apply calm_modify
      exact fun _ => ⟨rfl, rfl, .inr ⟨thread, rfl⟩⟩

theorem SectionStep.calm {before after : Shared} {choice : Choice}
    {point next : Control} (step : SectionStep before choice point after next)
    (id : StreamId) : Calm (before.streams id) (after.streams id) := by
  cases step with
  | runs | idles => exact .refl _
  | _ =>
      apply calm_modify
      exact fun _ => ⟨rfl, rfl, .inl rfl⟩

section Step

variable {enable : StreamId → Int} {config : Config Thread Shared Control}
  {thread : Thread} {owner : Option Thread} {shared : Shared} {next : Control}

private theorem Lifecycle.calm (lifecycle : Lifecycle enable config)
    (calm : ∀ id, Calm (config.shared.streams id) (shared.streams id))
    (calls : ∀ id, (config.control thread).calls id = false)
    (nextCalls : ∀ id, next.calls id = false)
    (passed : ∀ id, next.passed id = (config.control thread).passed id) :
    Lifecycle enable
      ⟨shared, owner, Function.update config.control thread next⟩ := by
  have sameCalls : ∀ id other,
      (Function.update config.control thread next other).calls id =
        (config.control other).calls id := by
    intro id other
    by_cases same : other = thread
    · subst same
      rw [Function.update_self, nextCalls, calls]
    · rw [Function.update_of_ne same]
  refine ⟨fun id left right => ?_, fun id other => ?_, fun id outside => ?_,
    fun id isPassed => ?_, fun id isDisabled => ?_⟩
  · simp only [sameCalls]
    exact lifecycle.alone id left right
  · by_cases same : other = thread
    · subst same
      simp only [Function.update_self]
      exact during_of_not_calls enable (nextCalls id) _
    · simp only [Function.update_of_ne same]
      exact (calm id).during (lifecycle.during id other)
  · simp only [sameCalls] at outside
    exact (calm id).settled (lifecycle.settled id outside)
  · have before : (config.control .main).passed id = true := by
      by_cases same : Thread.main = thread
      · subst same
        simpa [passed] using isPassed
      · simpa [Function.update_of_ne same] using isPassed
    obtain ⟨noSignal, notStarts⟩ := lifecycle.passed id before
    refine ⟨(calm id).signal.trans noSignal, fun other => ?_⟩
    by_cases same : other = thread
    · subst same
      simp only [Function.update_self]
      exact Control.not_starts (nextCalls id)
    · simpa [Function.update_of_ne same] using notStarts other
  · obtain ⟨noSignal, isGone⟩ := lifecycle.disabled id isDisabled
    exact ⟨(calm id).signal.trans noSignal, (calm id).gone isGone⟩

private theorem Lifecycle.call (lifecycle : Lifecycle enable config)
    {id : StreamId}
    (own : ∀ other, other ≠ id →
      shared.streams other = config.shared.streams other)
    (sole : ∀ other, other ≠ thread →
      (config.control other).calls id = false)
    (calls : ∀ other, other ≠ id →
      (config.control thread).calls other = false)
    (nextCalls : ∀ other, other ≠ id → next.calls other = false)
    (during : During enable id (shared.streams id) next)
    (settled : next.calls id = false → (shared.streams id).Settled)
    (passedOther : ∀ other, other ≠ id → next.passed other = true →
      (config.control thread).passed other = true)
    (passed : (Function.update config.control thread next .main).passed id =
        true →
      (shared.streams id).gStorageSignal = false ∧ next.starts id = false)
    (disabled : enable id = 0 →
      (shared.streams id).gStorageSignal = false ∧
        (shared.streams id).live = []) :
    Lifecycle enable
      ⟨shared, owner, Function.update config.control thread next⟩ := by
  have callsOther : ∀ other, other ≠ id → ∀ runner,
      (Function.update config.control thread next runner).calls other =
        (config.control runner).calls other := by
    intro other distinct runner
    by_cases same : runner = thread
    · subst same
      rw [Function.update_self, nextCalls other distinct, calls other distinct]
    · rw [Function.update_of_ne same]
  have isThread : ∀ runner,
      (Function.update config.control thread next runner).calls id = true →
      runner = thread := by
    intro runner inCall
    by_contra distinct
    rw [Function.update_of_ne distinct, sole runner distinct] at inCall
    contradiction
  refine ⟨fun other left right leftCalls rightCalls => ?_,
    fun other runner => ?_, fun other outside => ?_,
    fun other isPassed => ?_, fun other isDisabled => ?_⟩
  · by_cases same : other = id
    · subst same
      rw [isThread left leftCalls, isThread right rightCalls]
    · rw [callsOther other same] at leftCalls rightCalls
      exact lifecycle.alone other left right leftCalls rightCalls
  · by_cases isRunner : runner = thread
    · subst isRunner
      simp only [Function.update_self]
      by_cases same : other = id
      · subst same
        exact during
      · exact during_of_not_calls enable (nextCalls other same) _
    · simp only [Function.update_of_ne isRunner]
      by_cases same : other = id
      · subst same
        exact during_of_not_calls enable (sole runner isRunner) _
      · simp only [own other same]
        exact lifecycle.during other runner
  · by_cases same : other = id
    · subst same
      refine settled ?_
      simpa using outside thread
    · simp only [callsOther other same] at outside
      simp only [own other same]
      exact lifecycle.settled other outside
  · by_cases same : other = id
    · subst same
      obtain ⟨noSignal, notStarts⟩ := passed isPassed
      refine ⟨noSignal, fun runner => ?_⟩
      by_cases isRunner : runner = thread
      · subst isRunner
        simpa only [Function.update_self] using notStarts
      · simp only [Function.update_of_ne isRunner]
        exact Control.not_starts (sole runner isRunner)
    · have before : (config.control .main).passed other = true := by
        by_cases isMain : Thread.main = thread
        · subst isMain
          simp only [Function.update_self] at isPassed
          exact passedOther other same isPassed
        · simpa only [Function.update_of_ne isMain] using isPassed
      obtain ⟨noSignal, notStarts⟩ := lifecycle.passed other before
      refine ⟨by simpa only [own other same] using noSignal, fun runner => ?_⟩
      by_cases isRunner : runner = thread
      · subst isRunner
        simp only [Function.update_self]
        exact Control.not_starts (nextCalls other same)
      · simp only [Function.update_of_ne isRunner]
        exact notStarts runner
  · by_cases same : other = id
    · subst same
      exact disabled isDisabled
    · simp only [own other same]
      exact lifecycle.disabled other isDisabled

private theorem Lifecycle.init (lifecycle : Lifecycle enable config)
    {starter : Starter} {id : StreamId} {stage : InitById} {choice : Choice}
    (atCall : config.control thread = .initById starter id stage)
    (sole : soleCall config (thread, choice))
    (step : InitStep enable starter id config.shared stage shared next) :
    Lifecycle enable
      ⟨shared, owner, Function.update config.control thread next⟩ := by
  have others : ∀ other, other ≠ thread →
      (config.control other).calls id = false := by
    intro other distinct
    by_cases isEnter : stage = .enter
    · subst isEnter
      simp only [soleCall, atCall] at sole
      exact sole.1 other
    · by_contra inCall
      rw [Bool.not_eq_false] at inCall
      exact distinct (lifecycle.alone id other thread inCall
        (by simp [atCall, Control.calls, isEnter]))
  have calls : ∀ other, other ≠ id →
      (config.control thread).calls other = false := by
    intro other distinct
    simp [atCall, Control.calls, Ne.symm distinct]
  have nextCalls : ∀ other, other ≠ id → next.calls other = false := by
    intro other distinct
    cases step <;> cases starter <;>
      simp [Control.calls, afterInit, Ne.symm distinct]
  have nextPassed : ∀ other, next.passed other = false := by
    intro other
    cases step <;> cases starter <;> rfl
  have notPassed : (Function.update config.control thread next .main).passed
      id = false := by
    by_cases isMain : Thread.main = thread
    · subst isMain
      simpa using nextPassed id
    · rw [Function.update_of_ne isMain]
      by_cases isEnter : stage = .enter
      · subst isEnter
        simp only [soleCall, atCall] at sole
        exact sole.2.2
      · by_contra isPassed
        rw [Bool.not_eq_false] at isPassed
        have notStarts := (lifecycle.passed id isPassed).2 thread
        simp [atCall, Control.starts, isEnter] at notStarts
  have during := lifecycle.during id thread
  rw [atCall] at during
  have during := during rfl
  have disabled := lifecycle.disabled id
  have continues : (∀ other, other ≠ id →
        shared.streams other = config.shared.streams other) →
      During enable id (shared.streams id) next →
      (next.calls id = false → (shared.streams id).Settled) →
      (enable id = 0 → (shared.streams id).gStorageSignal = false ∧
        (shared.streams id).live = []) →
      Lifecycle enable
        ⟨shared, owner, Function.update config.control thread next⟩ :=
    fun own during settled disabled =>
      lifecycle.call own others calls nextCalls during settled
        (fun other _ isPassed => by simp [nextPassed] at isPassed)
        (fun isPassed => by simp [notPassed] at isPassed) disabled
  have unchanged : ∀ other, other ≠ id → config.shared.streams other =
      config.shared.streams other := fun _ _ => rfl
  have modified : ∀ (change : Stream → Stream) other, other ≠ id →
      (config.shared.modify id change).streams other =
        config.shared.streams other :=
    fun change other distinct => Shared.modify_other _ _ distinct
  cases step with
  | enter =>
      simp only [soleCall, atCall] at sole
      have isGone := (lifecycle.settled id sole.1).gone sole.2.1
      exact continues unchanged (fun _ => ⟨sole.2.1, isGone⟩)
        (fun outside => by simp [Control.calls] at outside) disabled
  | prepared =>
      exact continues unchanged (fun _ => during)
        (fun outside => by simp [Control.calls] at outside) disabled
  | enabled isEnabled =>
      exact continues unchanged (fun _ => ⟨during, isEnabled⟩)
        (fun outside => by simp [Control.calls] at outside) disabled
  | destroy =>
      exact continues unchanged (fun _ => during)
        (fun outside => by simp [Control.calls] at outside) disabled
  | unprepared | disabled =>
      refine continues unchanged (during_of_not_calls enable ?_ _)
        (fun _ => .inl during.2) disabled
      cases starter <;> rfl
  | notSpawned =>
      refine continues unchanged (during_of_not_calls enable ?_ _)
        (fun _ => .inl during.1.2) disabled
      cases starter <;> rfl
  | created =>
      refine continues (modified _) (fun _ => ?_)
        (fun outside => by simp [Control.calls] at outside)
        fun isDisabled => (during.2 isDisabled).elim
      rw [Shared.modify_same]
      exact ⟨⟨rfl, during.1.2⟩, during.2⟩
  | setFlag =>
      refine continues (modified _) (fun _ => ?_)
        (fun outside => by simp [Control.calls] at outside)
        fun isDisabled => (during.2 isDisabled).elim
      rw [Shared.modify_same]
      exact during
  | notCreated =>
      refine continues (modified _) (during_of_not_calls enable ?_ _)
        (fun _ => ?_) fun isDisabled => (during.2 isDisabled).elim
      · cases starter <;> rfl
      · rw [Shared.modify_same]
        exact .inl during.1.2
  | spawned =>
      refine continues (modified _) (during_of_not_calls enable ?_ _)
        (fun _ => ?_) fun isDisabled => (during.2 isDisabled).elim
      · cases starter <;> rfl
      · rw [Shared.modify_same]
        exact .inr ⟨during.1.1, _, rfl, by rw [Stream.spawn, during.1.2]⟩

private theorem Lifecycle.deinit (lifecycle : Lifecycle enable config)
    {stopper : Stopper} {id : StreamId} {stage : DeinitById} {choice : Choice}
    (atCall : config.control thread = .deinitById stopper id stage)
    (sole : soleCall config (thread, choice))
    (step : DeinitStep enable stopper id config.shared stage shared next) :
    Lifecycle enable
      ⟨shared, owner, Function.update config.control thread next⟩ := by
  have others : ∀ other, other ≠ thread →
      (config.control other).calls id = false := by
    intro other distinct
    by_cases isEnter : stage = .enter
    · subst isEnter
      simp only [soleCall, atCall] at sole
      exact sole other
    · by_contra inCall
      rw [Bool.not_eq_false] at inCall
      exact distinct (lifecycle.alone id other thread inCall
        (by simp [atCall, Control.calls, isEnter]))
  have calls : ∀ other, other ≠ id →
      (config.control thread).calls other = false := by
    intro other distinct
    simp [atCall, Control.calls, Ne.symm distinct]
  have nextCalls : ∀ other, other ≠ id → next.calls other = false := by
    intro other distinct
    cases step <;> cases stopper <;>
      simp [Control.calls, afterDeinit, Ne.symm distinct]
  have nextPassed : ∀ other, other ≠ id → next.passed other = true →
      (config.control thread).passed other = true := by
    intro other distinct
    rw [atCall]
    cases step <;> cases stopper <;>
      simp only [Control.passed, afterDeinit, decide_eq_true_eq,
        Bool.false_eq_true, imp_self, Fin.lt_def]
    all_goals
      intro below
      have apart := Fin.val_ne_of_ne distinct
      omega
  have nextStarts : next.starts id = false := by
    cases step <;> cases stopper <;> simp [Control.starts, afterDeinit]
  have during := lifecycle.during id thread
  rw [atCall] at during
  have during := during rfl
  have disabled := lifecycle.disabled id
  -- inside the call another thread is past `rk_storage_deinit`, if any is
  have stays : next.passed id = false →
      (Function.update config.control thread next .main).passed id = true →
      (config.shared.streams id).gStorageSignal = false := by
    intro notPassed isPassed
    by_cases isMain : Thread.main = thread
    · subst isMain
      simp [notPassed] at isPassed
    · rw [Function.update_of_ne isMain] at isPassed
      exact (lifecycle.passed id isPassed).1
  have unchanged : ∀ other, other ≠ id → config.shared.streams other =
      config.shared.streams other := fun _ _ => rfl
  have modified : ∀ (change : Stream → Stream) other, other ≠ id →
      (config.shared.modify id change).streams other =
        config.shared.streams other :=
    fun change other distinct => Shared.modify_other _ _ distinct
  have inCall : ∀ stage, stage ≠ .enter →
      (Control.deinitById stopper id stage).calls id = false → False := by
    intro stage notEnter outside
    simp [Control.calls, notEnter] at outside
  have within : ∀ stage, (Control.deinitById stopper id stage).passed id =
      false := by
    intro stage
    cases stopper <;> simp [Control.passed]
  have returns : (afterDeinit id stopper).calls id = false := by
    cases stopper <;> simp [Control.calls, afterDeinit]
  cases step with
  | enter =>
      simp only [soleCall, atCall] at sole
      exact lifecycle.call unchanged others calls nextCalls
        (fun _ => lifecycle.settled id sole)
        (fun outside => (inCall _ (by decide) outside).elim) nextPassed
        (fun isPassed => ⟨stays (within _) isPassed, nextStarts⟩) disabled
  | enabled isEnabled =>
      exact lifecycle.call unchanged others calls nextCalls (fun _ => during)
        (fun outside => (inCall _ (by decide) outside).elim) nextPassed
        (fun isPassed => ⟨stays (within _) isPassed, nextStarts⟩) disabled
  | disabled isDisabled =>
      exact lifecycle.call unchanged others calls nextCalls
        (during_of_not_calls enable returns _) (fun _ => during) nextPassed
        (fun _ => ⟨(disabled isDisabled).1, nextStarts⟩) disabled
  | clearFlag =>
      refine lifecycle.call (modified _) others calls nextCalls (fun _ => ?_)
        (fun outside => (inCall _ (by decide) outside).elim) nextPassed
        (fun isPassed => ⟨?_, nextStarts⟩) ?_ <;> rw [Shared.modify_same]
      · exact during
      · exact stays (within _) isPassed
      · exact disabled
  | signalled signal =>
      exact lifecycle.call unchanged others calls nextCalls
        (fun _ => ⟨signal, during⟩)
        (fun outside => (inCall _ (by decide) outside).elim) nextPassed
        (fun isPassed => ⟨stays (within _) isPassed, nextStarts⟩) disabled
  | unsignalled noSignal =>
      exact lifecycle.call unchanged others calls nextCalls
        (during_of_not_calls enable returns _) (fun _ => during) nextPassed
        (fun _ => ⟨noSignal, nextStarts⟩) disabled
  | give =>
      exact lifecycle.call unchanged others calls nextCalls (fun _ => during)
        (fun outside => (inCall _ (by decide) outside).elim) nextPassed
        (fun isPassed => ⟨stays (within _) isPassed, nextStarts⟩) disabled
  | joined isEnded =>
      have isGone : (config.shared.streams id).live = [] := by
        rcases during.2 with isGone | ⟨_, recorder, isRecorder, isLive⟩
        · exact isGone
        · exact (isEnded recorder isRecorder (by simp [isLive])).elim
      exact lifecycle.call unchanged others calls nextCalls
        (fun _ => ⟨during.1, isGone⟩)
        (fun outside => (inCall _ (by decide) outside).elim) nextPassed
        (fun isPassed => ⟨stays (within _) isPassed, nextStarts⟩) disabled
  | destroy =>
      exact lifecycle.call unchanged others calls nextCalls (fun _ => during)
        (fun outside => (inCall _ (by decide) outside).elim) nextPassed
        (fun isPassed => ⟨stays (within _) isPassed, nextStarts⟩) disabled
  | clear =>
      refine lifecycle.call (modified _) others calls nextCalls
        (during_of_not_calls enable returns _) (fun _ => ?_) nextPassed
        (fun _ => ⟨?_, nextStarts⟩) (fun _ => ?_) <;> rw [Shared.modify_same]
      · exact .inl during.2
      · rfl
      · exact ⟨rfl, during.2⟩

private theorem SectionStep.not_calls {before after : Shared}
    {choice : Choice} {point : Control}
    (step : SectionStep before choice point after next) (id : StreamId) :
    point.calls id = false ∧ next.calls id = false ∧
      next.passed id = point.passed id := by
  cases step <;> exact ⟨rfl, rfl, rfl⟩

private theorem Lifecycle.plain (lifecycle : Lifecycle enable config)
    (isPlain : (config.control thread).plain = true)
    (step : PlainStep config.shared shared (config.control thread) next) :
    Lifecycle enable
      ⟨shared, owner, Function.update config.control thread next⟩ := by
  refine lifecycle.calm step.plain.calm (fun id => ?_) step.calls step.passed
  revert isPlain
  cases config.control thread <;> intro isPlain <;> first
    | rfl
    | cases isPlain

theorem Lifecycle.step (lifecycle : Lifecycle enable config)
    {after : Config Thread Shared Control} {label : Thread × Choice}
    (sole : soleCall config label)
    (stepped : (program enable).step config label = some after) :
    Lifecycle enable after := by
  obtain ⟨thread, choice⟩ := label
  cases Program.moves_of_step stepped with
  | acquire locks =>
      rcases lock_cases locks with ⟨_, _, isPoint, rfl⟩ |
        ⟨_, _, isPoint, rfl⟩ | ⟨_, _, isPoint, rfl⟩ <;>
      exact lifecycle.calm (fun _ => .refl _) (fun _ => by rw [isPoint]; rfl)
        (fun _ => rfl) (fun _ => by rw [isPoint]; rfl)
  | release unlocks =>
      rcases unlock_cases unlocks with ⟨party, _, isPoint, rfl⟩ |
        ⟨party, _, isPoint, rfl⟩ | ⟨_, _, isPoint, rfl⟩
      · cases party <;>
        exact lifecycle.calm (fun _ => .refl _)
          (fun _ => by rw [isPoint]; rfl) (fun _ => rfl)
          (fun _ => by rw [isPoint]; rfl)
      · cases party <;>
        exact lifecycle.calm (fun _ => .refl _)
          (fun _ => by rw [isPoint]; rfl) (fun _ => rfl)
          (fun _ => by rw [isPoint]; rfl)
      · exact lifecycle.calm (fun _ => .refl _)
          (fun _ => by rw [isPoint]; rfl) (fun _ => rfl)
          (fun _ => by rw [isPoint]; rfl)
  | act acts effected =>
      generalize atPoint : config.control thread = point at acts
      cases acts_of_act acts effected with
      | locked step =>
          subst atPoint
          exact lifecycle.calm step.calm (fun id => (step.not_calls id).1)
            (fun id => (step.not_calls id).2.1)
            fun id => (step.not_calls id).2.2
      | init starter id stage step => exact lifecycle.init atPoint sole step
      | deinit stopper id stage step => exact lifecycle.deinit atPoint sole step
      | plain isPlain step =>
          subst atPoint
          exact lifecycle.plain isPlain step

theorem lifecycle_start (enable : StreamId → Int) :
    Lifecycle enable ((program enable).start .start) where
  alone id left right inCall := by cases left <;> cases inCall
  during id thread := by cases thread <;> exact trivial
  settled id _ := .inl rfl
  passed id isPassed := by cases isPassed
  disabled id _ := ⟨rfl, rfl⟩

end Step

theorem lifecycle_of_reachable {enable : StreamId → Int}
    {config : Config Thread Shared Control}
    (reachable : (program enable).system.Reachable soleCall config) :
    Lifecycle enable config := by
  refine reachable.invariant ?_ ?_
  · rintro _ ⟨_, rfl, rfl⟩
    exact lifecycle_start enable
  · exact fun _ _ _ lifecycle sole stepped => lifecycle.step sole stepped

/-! The threads behind the live recorders. -/

def Control.runs (id : StreamId) (recorder : Nat) : Control → Bool
  | .recording other thread | .waiting other thread | .ending other thread =>
      other = id ∧ thread = recorder
  | .opening party other _ | .closing party other _ =>
      other = id ∧ party = .recorder recorder
  | _ => false

structure Owned (config : Config Thread Shared Control) : Prop where
  dormant : ∀ thread id recorder,
    config.control thread = .dormant id recorder →
    thread = .recorder id recorder
  running : ∀ thread id recorder,
    (config.control thread).runs id recorder = true →
    thread = .recorder id recorder ∧
      recorder ∈ (config.shared.streams id).live

section Step

variable {enable : StreamId → Int} {config : Config Thread Shared Control}
  {thread : Thread} {owner : Option Thread} {before shared : Shared}
  {choice : Choice} {point next : Control} {effect : Effect}

/-- A recorder gets into its code by its start only. -/
structure Enters (before : Shared) (point next : Control) : Prop where
  awake : ∀ id recorder, next ≠ .dormant id recorder
  running : ∀ id recorder, next.runs id recorder = true →
    point.runs id recorder = true ∨ point = .dormant id recorder ∧
      recorder ∈ (before.streams id).live

private theorem enters_of_not_runs (awake : ∀ id recorder,
      next ≠ .dormant id recorder)
    (quiet : ∀ id recorder, next.runs id recorder = false) :
    Enters before point next :=
  ⟨awake, fun id recorder runs => by simp [quiet] at runs⟩

private theorem loop_enters {bound i : Nat} {bounded : bound ≤ 4}
    {body : StreamId → Effect} {done : Control}
    (effected : loop bound bounded i body done before choice =
      some (shared, next))
    (inside : ∀ id : StreamId, body id before choice = some (shared, next) →
      Enters before point next)
    (outside : Enters before point done) : Enters before point next := by
  rcases loop_cases effected with ⟨id, _, _, effected⟩ | ⟨_, _, rfl⟩
  · exact inside id effected
  · exact outside

private theorem plain_enters (acts : code enable point = .act effect)
    (isPlain : point.plain = true)
    (effected : effect before choice = some (shared, next)) :
    Enters before point next := by
  have quiet : ∀ {next : Control}, (∀ id recorder,
      next ≠ .dormant id recorder) → (∀ id recorder,
      next.runs id recorder = false) → Enters before point next :=
    enters_of_not_runs
  cases point with
  | opening | closing | writing | initById | deinitById => cases isPlain
  | dormant id recorder =>
      cases acts
      obtain ⟨isLive, isResult⟩ := Option.ite_none_right_eq_some.mp effected
      cases isResult
      refine ⟨nofun, fun other thread runs => ?_⟩
      obtain ⟨rfl, rfl⟩ : id = other ∧ recorder = thread := by
        simpa [Control.runs] using runs
      exact .inr ⟨rfl, isLive⟩
  | recording id recorder =>
      cases acts
      simp only [Option.some.injEq, Prod.mk.injEq] at effected
      obtain ⟨_, rfl⟩ := effected
      split <;> exact ⟨nofun, fun _ _ runs => .inl (by
        simpa [Control.runs] using runs)⟩
  | waiting id recorder =>
      cases acts
      cases effected
      exact ⟨nofun, fun _ _ runs => .inl runs⟩
  | setRecordFlags | storageInit | storageDeinit | devRemove | clearFlags =>
      cases acts
      refine loop_enters effected (fun id effected => ?_)
        (quiet nofun fun _ _ => rfl)
      cases effected
      exact quiet nofun fun _ _ => rfl
  | devAdd =>
      cases acts
      refine loop_enters effected (fun id effected => ?_)
        (quiet nofun fun _ _ => rfl)
      unfold Recorder.devAdd at effected
      split at effected
      next =>
        cases effected
        exact quiet nofun fun _ _ => rfl
      next =>
        split at effected <;> cases effected <;>
          exact quiet nofun fun _ _ => rfl
  | client =>
      cases acts
      cases choice with
      | call call id =>
          cases effected
          refine quiet ?_ ?_ <;> cases call <;>
            simp [clientCall, Control.runs]
      | _ => cases effected
  | deinitialised | ended =>
      cases acts
      cases effected
  | ending | initialised =>
      cases acts
      cases effected
      exact quiet nofun fun _ _ => rfl
  | _ =>
      cases acts
      simp only at effected
      repeat' split at effected
      all_goals cases effected <;> exact quiet nofun fun _ _ => rfl

private theorem acts_enters (acts : code enable point = .act effect)
    (effected : effect before choice = some (shared, next)) :
    Enters before point next := by
  cases acts_of_act acts effected with
  | locked step =>
      cases step <;> exact ⟨nofun, fun _ _ runs => .inl runs⟩
  | init starter id stage step =>
      refine enters_of_not_runs ?_ ?_ <;> cases step <;> cases starter <;>
        simp [afterInit, Control.runs]
  | deinit stopper id stage step =>
      refine enters_of_not_runs ?_ ?_ <;> cases step <;> cases stopper <;>
        simp [afterDeinit, Control.runs]
  | plain isPlain _ => exact plain_enters acts isPlain effected

private theorem acts_live (acts : code enable point = .act effect)
    (effected : effect before choice = some (shared, next)) {id : StreamId}
    {recorder : Nat} (isLive : recorder ∈ (before.streams id).live)
    (notEnding : point ≠ .ending id recorder) :
    recorder ∈ (shared.streams id).live := by
  have keeps : ∀ (other : StreamId) (change : Stream → Stream),
      (other = id → ∀ stream, recorder ∈ stream.live →
        recorder ∈ (change stream).live) →
      recorder ∈ ((before.modify other change).streams id).live := by
    intro other change keeps
    by_cases same : id = other
    · subst same
      rw [Shared.modify_same]
      exact keeps rfl _ isLive
    · rwa [Shared.modify_other _ _ same]
  cases acts_of_act acts effected with
  | locked step =>
      cases step <;> first
        | exact isLive
        | exact keeps _ _ fun _ _ member => member
  | init starter _ stage step =>
      cases step <;> first
        | exact isLive
        | exact keeps _ _ fun _ _ member => member
        | exact keeps _ _ fun _ _ member => List.mem_cons_of_mem _ member
  | deinit stopper _ stage step =>
      cases step <;> first
        | exact isLive
        | exact keeps _ _ fun _ _ member => member
  | plain _ step =>
      cases step.plain with
      | same streams => rwa [streams]
      | flag | storageFlag => exact keeps _ _ fun _ _ member => member
      | ended other thread =>
          refine keeps _ _ fun same stream member => ?_
          subst same
          have distinct : recorder ≠ thread := by
            rintro rfl
            exact notEnding rfl
          exact (List.mem_erase_of_ne distinct).mpr member

private theorem Owned.moved (owned : Owned config)
    (enters : Enters config.shared (config.control thread) next)
    (keeps : ∀ id recorder, recorder ∈ (config.shared.streams id).live →
      config.control thread ≠ .ending id recorder →
      recorder ∈ (shared.streams id).live)
    (leaves : ∀ id recorder, config.control thread = .ending id recorder →
      next.runs id recorder = false) :
    Owned ⟨shared, owner, Function.update config.control thread next⟩ where
  dormant other id recorder isDormant := by
    by_cases same : other = thread
    · subst same
      exact (enters.awake id recorder (by simpa using isDormant)).elim
    · exact owned.dormant other id recorder
        (by simpa [Function.update_of_ne same] using isDormant)
  running other id recorder runs := by
    by_cases same : other = thread
    · subst same
      simp only [Function.update_self] at runs
      have notEnding : config.control other ≠ .ending id recorder := by
        intro atEnd
        rw [leaves id recorder atEnd] at runs
        contradiction
      rcases enters.running id recorder runs with already | ⟨dormant, isLive⟩
      · obtain ⟨isThread, isLive⟩ := owned.running other id recorder already
        exact ⟨isThread, keeps id recorder isLive notEnding⟩
      · exact ⟨owned.dormant other id recorder dormant,
          keeps id recorder isLive notEnding⟩
    · simp only [Function.update_of_ne same] at runs
      obtain ⟨isThread, isLive⟩ := owned.running other id recorder runs
      refine ⟨isThread, keeps id recorder isLive fun atEnd => same ?_⟩
      have ends := owned.running thread id recorder
        (by rw [atEnd]; simp [Control.runs])
      exact isThread.trans ends.1.symm

private theorem Owned.step (owned : Owned config)
    {after : Config Thread Shared Control} {label : Thread × Choice}
    (stepped : (program enable).step config label = some after) :
    Owned after := by
  cases Program.moves_of_step stepped with
  | acquire locks =>
      rcases lock_cases locks with ⟨_, _, isPoint, rfl⟩ |
        ⟨_, _, isPoint, rfl⟩ | ⟨_, _, isPoint, rfl⟩ <;>
      exact owned.moved
        ⟨nofun, fun _ _ runs => .inl (by rw [isPoint]; exact runs)⟩
        (fun _ _ isLive _ => isLive) (by simp [isPoint])
  | release unlocks =>
      rcases unlock_cases unlocks with ⟨party, _, isPoint, rfl⟩ |
        ⟨party, _, isPoint, rfl⟩ | ⟨_, _, isPoint, rfl⟩
      · refine owned.moved ?_ (fun _ _ isLive _ => isLive) (by simp [isPoint])
        rw [isPoint]
        cases party with
        | recorder =>
            exact ⟨nofun, fun _ _ runs => .inl (by
              simpa [Control.runs, afterOpening] using runs)⟩
        | client => exact ⟨nofun, fun _ _ runs => nomatch runs⟩
      · refine owned.moved ?_ (fun _ _ isLive _ => isLive) (by simp [isPoint])
        rw [isPoint]
        cases party with
        | recorder =>
            exact ⟨nofun, fun _ _ runs => .inl (by
              simpa [Control.runs, afterClosing] using runs)⟩
        | client => exact ⟨nofun, fun _ _ runs => nomatch runs⟩
      · exact owned.moved ⟨nofun, fun _ _ runs => nomatch runs⟩
          (fun _ _ isLive _ => isLive) (by simp [isPoint])
  | act acts effected =>
      refine owned.moved (acts_enters acts effected)
        (fun _ _ isLive => acts_live acts effected isLive) ?_
      intro id recorder atEnd
      rw [atEnd] at acts
      cases acts
      cases effected
      rfl

theorem owned_of_reachable {guard : Config Thread Shared Control →
      Thread × Choice → Prop}
    (reachable : (program enable).system.Reachable guard config) :
    Owned config := by
  refine reachable.invariant ?_ ?_
  · rintro _ ⟨_, rfl, rfl⟩
    refine ⟨fun thread id recorder isDormant => ?_,
      fun thread id recorder runs => ?_⟩
    · cases thread <;> cases isDormant
      rfl
    · cases thread <;> cases runs
  · exact fun _ _ _ owned _ stepped => owned.step stepped

end Step

def Control.destroys (id : StreamId) : Control → Bool
  | .initById _ other .destroy => other = id
  | .deinitById _ other .destroy => other = id
  | _ => false

private theorem Lifecycle.always_settled {enable : StreamId → Int}
    {config : Config Thread Shared Control}
    (lifecycle : Lifecycle enable config) (id : StreamId) :
    (config.shared.streams id).Settled := by
  by_cases outside : ∀ thread, (config.control thread).calls id = false
  · exact lifecycle.settled id outside
  · obtain ⟨thread, inCall⟩ := not_forall.mp outside
    have during := lifecycle.during id thread
    revert during inCall
    cases config.control thread with
    | initById starter other stage =>
        intro inCall during
        have isCall : other = id ∧ stage ≠ .enter := by
          simpa [Control.calls] using inCall
        have during := during isCall.1
        cases stage with
        | enter => exact (isCall.2 rfl).elim
        | prepare | enabled => exact .inl during.2
        | destroy | create | setFlag | spawn => exact .inl during.1.2
    | deinitById stopper other stage =>
        intro inCall during
        have isCall : other = id ∧ stage ≠ .enter := by
          simpa [Control.calls] using inCall
        have during := during isCall.1
        cases stage with
        | enter => exact (isCall.2 rfl).elim
        | enabled | clearFlag | check => exact during
        | give | join => exact during.2
        | destroy | clear => exact .inl during.2
    | _ => exact fun inCall => (inCall rfl).elim

/-- While the calls that start and stop a recorder do not overlap and start none
beside an earlier one or after the shutdown, a stream has one live recorder at
most, no signal is destroyed that it can wait on, and none is left when
`rk_storage_deinit` returns. -/
theorem one_recorder {enable : StreamId → Int}
    {config : Config Thread Shared Control}
    (reachable : (program enable).system.Reachable soleCall config)
    (id : StreamId) :
    (config.shared.streams id).live.length ≤ 1 ∧
      (∀ thread recorder, (config.control thread).runs id recorder = true →
        recorder ∈ (config.shared.streams id).live) ∧
      (∀ thread, (config.control thread).destroys id = true →
        (config.shared.streams id).live = []) ∧
      (config.control .main = .deinitialised →
        (config.shared.streams id).live = []) := by
  have lifecycle := lifecycle_of_reachable reachable
  have settled := lifecycle.always_settled id
  refine ⟨?_, fun thread recorder runs =>
    ((owned_of_reachable reachable).running thread id recorder runs).2,
    fun thread destroys => ?_, fun returned => ?_⟩
  · rcases settled with isGone | ⟨_, recorder, _, isLive⟩
    · simp [isGone]
    · simp [isLive]
  · have during := lifecycle.during id thread
    revert during destroys
    cases config.control thread with
    | initById starter other stage =>
        intro destroys during
        cases stage <;> first | cases destroys | skip
        exact (during (by simpa [Control.destroys] using destroys)).1.2
    | deinitById stopper other stage =>
        intro destroys during
        cases stage <;> first | cases destroys | skip
        exact (during (by simpa [Control.destroys] using destroys)).2
    | _ => exact fun destroys => nomatch destroys
  · have isPassed : (config.control .main).passed id = true := by
      rw [returned]
      rfl
    exact settled.gone (lifecycle.passed id isPassed).1

def Control.proceeds : Control → Bool
  | .initById _ _ .enter | .deinitById _ _ .enter => false
  | _ => true

private theorem soleCall_of_proceeds {config : Config Thread Shared Control}
    {label : Thread × Choice}
    (proceeds : (config.control label.1).proceeds = true) :
    soleCall config label := by
  unfold soleCall
  split
  next atEnter =>
    rw [atEnter] at proceeds
    cases proceeds
  next atEnter =>
    rw [atEnter] at proceeds
    cases proceeds
  next => trivial

def beforeFirst : List (Thread × Choice) :=
  steps .main [.outcome true, .go, .go, .go, .go, .outcome true, .go]

def firstRecorder : List (Thread × Choice) :=
  steps .main [.outcome true, .go, .go, .outcome true, .go, .outcome true]

theorem one_recorder_first :
    ∃ config, (program oneEnabled).system.Reachable soleCall config ∧
      (config.shared.streams 0).live = [0] ∧
      (config.shared.streams 0).live.length ≤ 1 := by
  let allowed : Config Thread Shared Control → Thread × Choice → Bool :=
    fun config label => (config.control label.1).proceeds
  have proceed : ∀ {first last : Config Thread Shared Control}
      (labels : List (Thread × Choice)),
      (program oneEnabled).system.guardedRun allowed first labels = some last →
      (program oneEnabled).system.Reaches soleCall first last :=
    fun labels ran => System.reaches_of_guardedRun
      (fun _ _ proceeds => soleCall_of_proceeds proceeds) labels ran
  let entering := (program oneEnabled).system.guardedRun allowed
    ((program oneEnabled).start .start) beforeFirst
  have isEntering : entering.isSome := rfl
  let entered := (program oneEnabled).step (entering.get isEntering) (.main, .go)
  have isEntered : entered.isSome := rfl
  let created := (program oneEnabled).system.guardedRun allowed
    (entered.get isEntered) firstRecorder
  have isCreated : created.isSome := rfl
  have sole : soleCall (entering.get isEntering) (.main, .go) := by
    refine ⟨fun thread => ?_, rfl, rfl⟩
    cases thread <;> rfl
  have reachable : (program oneEnabled).system.Reachable soleCall
      (created.get isCreated) :=
    ⟨_, ⟨.start, rfl, rfl⟩,
      ((proceed beforeFirst (Option.some_get isEntering).symm).step sole
        (Option.some_get isEntered).symm).trans
        (proceed firstRecorder (Option.some_get isCreated).symm)⟩
  exact ⟨_, reachable, rfl, (one_recorder reachable 0).1⟩

/-- The card is recognised while `rk_storage_init` has not started the recorder
of the stream 0 yet. -/
def addDuringInit : List (Thread × Choice) :=
  beforeFirst ++
  steps .message
    [.devAdd, .go, .go, .go, .go, .go, .go, .outcome true, .go, .go,
      .outcome true, .go, .outcome true] ++
  steps .main [.go] ++ firstRecorder

theorem two_recorders :
    ¬ ∀ (enable : StreamId → Int) (config : Config Thread Shared Control),
      (program enable).system.Reachable System.anyStep config →
      ∀ id, (config.shared.streams id).live.length ≤ 1 := by
  intro general
  have runs : ((program oneEnabled).system.run
      ((program oneEnabled).start .start) addDuringInit).map
        (fun config => (config.shared.streams 0).live.length) = some 2 := by
    decide
  obtain ⟨config, ran, two⟩ := Option.map_eq_some_iff.mp runs
  have one := general oneEnabled config
    (System.reachable_of_run ⟨.start, rfl, rfl⟩ ran) 0
  rw [two] at one
  contradiction

end Rkipc.Storage.Recorder
