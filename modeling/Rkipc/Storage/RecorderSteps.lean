import Rkipc.Storage.Recorder

namespace Rkipc.Storage.Recorder

open Transition

/-! What one step does. -/

section Steps

variable {enable : StreamId → Int} {point next : Control}
  {effect : Effect} {before after : Shared} {choice : Choice}

theorem lock_cases (locks : code enable point = .lock next) :
    (∃ party id, point = .opening party id .lock ∧
      next = .opening party id .clear) ∨
    (∃ party id, point = .closing party id .lock ∧
      next = .closing party id .clear) ∨
    ∃ media id, point = .writing media id .lock ∧
      next = .writing media id .check := by
  cases point with
  | opening party id point =>
      cases point <;> cases locks
      exact .inl ⟨party, id, rfl, rfl⟩
  | closing party id point =>
      cases point <;> cases locks
      exact .inr (.inl ⟨party, id, rfl, rfl⟩)
  | writing media id point =>
      cases point <;> cases locks
      exact .inr (.inr ⟨media, id, rfl, rfl⟩)
  | initById starter id point => cases point <;> cases locks
  | deinitById stopper id point => cases point <;> cases locks
  | _ => cases locks

theorem unlock_cases (unlocks : code enable point = .unlock next) :
    (∃ party id, point = .opening party id .unlock ∧
      next = afterOpening id party) ∨
    (∃ party id, point = .closing party id .unlock ∧
      next = afterClosing id party) ∨
    ∃ media id, point = .writing media id .unlock ∧ next = .client := by
  cases point with
  | opening party id point =>
      cases point <;> cases unlocks
      exact .inl ⟨party, id, rfl, rfl⟩
  | closing party id point =>
      cases point <;> cases unlocks
      exact .inr (.inl ⟨party, id, rfl, rfl⟩)
  | writing media id point =>
      cases point <;> cases unlocks
      exact .inr (.inr ⟨media, id, rfl, rfl⟩)
  | initById starter id point => cases point <;> cases unlocks
  | deinitById stopper id point => cases point <;> cases unlocks
  | _ => cases unlocks

/-- A control point where a thread holds no mutex and is in no call that starts
or stops a recorder. -/
def Control.plain : Control → Bool
  | .opening _ _ _ | .closing _ _ _ | .writing _ _ _ | .initById _ _ _
  | .deinitById _ _ _ => false
  | _ => true

/-- A plain step changes the flags of a stream, ends a recorder, or leaves the
streams as they are. -/
inductive Plain (before : Shared) : Control → Shared → Prop
  | same {point : Control} {after : Shared}
      (streams : after.streams = before.streams) : Plain before point after
  | flag {point : Control} (id : StreamId) (flag : Int) :
      Plain before point (before.modify id (Stream.setRecordFlag flag))
  | storageFlag {point : Control} (id : StreamId) (flag : Bool) :
      Plain before point (before.modify id (Stream.setStorageRecordFlag flag))
  | ended (id : StreamId) (thread : Nat) :
      Plain before (.ending id thread)
        (before.modify id (Stream.ended thread))

theorem loop_cases {bound i : Nat} {bounded : bound ≤ 4}
    {body : StreamId → Effect} {done : Control}
    (effected : loop bound bounded i body done before choice =
      some (after, next)) :
    (∃ id : StreamId, (id : Nat) = i ∧ i < bound ∧
      body id before choice = some (after, next)) ∨
    bound ≤ i ∧ after = before ∧ next = done := by
  unfold loop at effected
  split at effected
  next inside => exact .inl ⟨_, rfl, inside, effected⟩
  next outside =>
    cases effected
    exact .inr ⟨Nat.le_of_not_lt outside, rfl, rfl⟩

/-- The stream whose recorder the thread starts or stops, once the call has
begun. -/
def Control.calls (id : StreamId) : Control → Bool
  | .initById _ other point => other = id ∧ point ≠ .enter
  | .deinitById _ other point => other = id ∧ point ≠ .enter
  | _ => false

/-- `rk_storage_deinit` has stopped the recorder of the stream. -/
def Control.passed (id : StreamId) : Control → Bool
  | .storageDeinit i => (id : Nat) < i
  | .deinitById .storageDeinit other _ => id < other
  | .stopListener | .joinListener | .stopMessage | .joinMessage
  | .deinitialised => true
  | _ => false

structure PlainStep (before after : Shared) (point next : Control) : Prop where
  plain : Plain before point after
  holds : next.holds = false
  calls : ∀ id, next.calls id = false
  passed : ∀ id, next.passed id = point.passed id

private theorem loop_step {bound i : Nat} {bounded : bound ≤ 4}
    {body : StreamId → Effect} {done : Control}
    (effected : loop bound bounded i body done before choice =
      some (after, next))
    (inside : ∀ id : StreamId, (id : Nat) = i →
      body id before choice = some (after, next) →
      PlainStep before after point next)
    (outside : bound ≤ i → PlainStep before before point done) :
    PlainStep before after point next := by
  rcases loop_cases effected with ⟨id, isIndex, _, effected⟩ | ⟨le, rfl, rfl⟩
  · exact inside id isIndex effected
  · exact outside le

theorem plain_step (acts : code enable point = .act effect)
    (isPlain : point.plain = true)
    (effected : effect before choice = some (after, next)) :
    PlainStep before after point next := by
  cases point with
  | opening | closing | writing | initById | deinitById => cases isPlain
  | setRecordFlags recognized i =>
      cases acts
      refine loop_step effected (fun id isIndex effected => ?_) fun _ => ?_
      · cases effected
        exact ⟨.flag id _, rfl, fun _ => rfl, fun _ => rfl⟩
      · exact ⟨.same rfl, rfl, fun _ => rfl, fun _ => rfl⟩
  | storageInit i =>
      cases acts
      refine loop_step effected (fun id isIndex effected => ?_) fun _ => ?_
      · cases effected
        exact ⟨.same rfl, rfl, fun _ => by simp [Control.calls], fun _ => rfl⟩
      · exact ⟨.same rfl, rfl, fun _ => rfl, fun _ => rfl⟩
  | storageDeinit i =>
      cases acts
      refine loop_step effected (fun id isIndex effected => ?_) fun le => ?_
      · cases effected
        subst isIndex
        exact ⟨.same rfl, rfl, fun _ => by simp [Control.calls], fun _ => rfl⟩
      · refine ⟨.same rfl, rfl, fun _ => rfl, fun id => ?_⟩
        have below := id.isLt
        simp only [Control.passed, true_eq_decide_iff]
        omega
  | devAdd i =>
      cases acts
      refine loop_step effected (fun id isIndex effected => ?_) fun _ => ?_
      · unfold Recorder.devAdd at effected
        split at effected
        next =>
          cases effected
          exact ⟨.flag id 1, rfl, fun _ => by simp [Control.calls], fun _ => rfl⟩
        next =>
          split at effected <;> cases effected
          · exact ⟨.flag id 0, rfl, fun _ => by simp [Control.calls],
              fun _ => rfl⟩
          · exact ⟨.same rfl, rfl, fun _ => rfl, fun _ => rfl⟩
      · exact ⟨.same rfl, rfl, fun _ => rfl, fun _ => rfl⟩
  | devRemove i =>
      cases acts
      refine loop_step effected (fun id isIndex effected => ?_) fun _ => ?_
      · cases effected
        exact ⟨.flag id 0, rfl, fun _ => by simp [Control.calls], fun _ => rfl⟩
      · exact ⟨.same rfl, rfl, fun _ => rfl, fun _ => rfl⟩
  | clearFlags i =>
      cases acts
      refine loop_step effected (fun id isIndex effected => ?_) fun _ => ?_
      · cases effected
        exact ⟨.storageFlag id false, rfl, fun _ => rfl, fun _ => rfl⟩
      · exact ⟨.same rfl, rfl, fun _ => rfl, fun _ => rfl⟩
  | ending id thread =>
      cases acts
      cases effected
      exact ⟨.ended id thread, rfl, fun _ => rfl, fun _ => rfl⟩
  | client =>
      cases acts
      cases choice with
      | call call id =>
          cases effected
          cases call <;> exact ⟨.same rfl, rfl, fun _ => rfl, fun _ => rfl⟩
      | _ => cases effected
  | deinitialised | ended =>
      cases acts
      cases effected
  | waiting | initialised =>
      cases acts
      cases effected
      exact ⟨.same rfl, rfl, fun _ => rfl, fun _ => rfl⟩
  | _ =>
      cases acts
      simp only at effected
      repeat' split at effected
      all_goals
        cases effected <;>
          exact ⟨.same rfl, rfl, fun _ => rfl, fun _ => rfl⟩

inductive SectionStep (before : Shared) (choice : Choice) :
    Control → Shared → Control → Prop
  | openClear (party : Party) (id : StreamId) :
      SectionStep before choice (.opening party id .clear)
        (before.modify id (Stream.setRun false)) (.opening party id .deinit)
  | openDeinit (party : Party) (id : StreamId) :
      SectionStep before choice (.opening party id .deinit)
        (before.modify id (Stream.call .deinit)) (.opening party id .init)
  | openInit (party : Party) (id : StreamId) {succeeds : Bool}
      (outcome : choice = .outcome succeeds) :
      SectionStep before choice (.opening party id .init)
        (before.modify id (Stream.call (.init succeeds)))
        (.opening party id .set)
  | openSet (party : Party) (id : StreamId) :
      SectionStep before choice (.opening party id .set)
        (before.modify id (Stream.setRun true)) (.opening party id .unlock)
  | closeClear (party : Party) (id : StreamId) :
      SectionStep before choice (.closing party id .clear)
        (before.modify id (Stream.setRun false)) (.closing party id .deinit)
  | closeDeinit (party : Party) (id : StreamId) :
      SectionStep before choice (.closing party id .deinit)
        (before.modify id (Stream.call .deinit)) (.closing party id .unlock)
  | runs (media : Media) (id : StreamId)
      (running : (before.streams id).gRecordRun = true) :
      SectionStep before choice (.writing media id .check) before
        (.writing media id .writeFrame)
  | idles (media : Media) (id : StreamId)
      (stopped : (before.streams id).gRecordRun = false) :
      SectionStep before choice (.writing media id .check) before
        (.writing media id .unlock)
  | writeFrame (media : Media) (id : StreamId) :
      SectionStep before choice (.writing media id .writeFrame)
        (before.modify id (Stream.call (.writeFrame media)))
        (.writing media id .unlock)

theorem section_step (acts : code enable point = .act effect)
    (inside : point.holds = true)
    (effected : effect before choice = some (after, next)) :
    SectionStep before choice point after next := by
  cases point with
  | opening party id point =>
      cases point with
      | lock | unlock => cases acts
      | clear =>
          cases acts
          cases effected
          exact .openClear party id
      | deinit =>
          cases acts
          cases effected
          exact .openDeinit party id
      | init =>
          cases acts
          cases choice <;> cases effected
          exact .openInit party id rfl
      | set =>
          cases acts
          cases effected
          exact .openSet party id
  | closing party id point =>
      cases point with
      | lock | unlock => cases acts
      | clear =>
          cases acts
          cases effected
          exact .closeClear party id
      | deinit =>
          cases acts
          cases effected
          exact .closeDeinit party id
  | writing media id point =>
      cases point with
      | lock | unlock => cases acts
      | check =>
          cases acts
          simp only [Option.some.injEq, Prod.mk.injEq] at effected
          obtain ⟨rfl, rfl⟩ := effected
          cases running : (before.streams id).gRecordRun with
          | true => exact .runs media id running
          | false => exact .idles media id running
      | writeFrame =>
          cases acts
          cases effected
          exact .writeFrame media id
  | _ => cases inside

theorem SectionStep.holds
    (step : SectionStep before choice point after next) :
    point.holds = true ∧ next.holds = true := by
  cases step <;> exact ⟨rfl, rfl⟩

inductive InitStep (enable : StreamId → Int) (starter : Starter)
    (id : StreamId) (before : Shared) : InitById → Shared → Control → Prop
  | enter : InitStep enable starter id before .enter before
      (.initById starter id .prepare)
  | prepared : InitStep enable starter id before .prepare before
      (.initById starter id .enabled)
  | unprepared : InitStep enable starter id before .prepare before
      (afterInit id starter)
  | enabled (isEnabled : enable id ≠ 0) :
      InitStep enable starter id before .enabled before
        (.initById starter id .destroy)
  | disabled (isDisabled : enable id = 0) :
      InitStep enable starter id before .enabled before (afterInit id starter)
  | destroy : InitStep enable starter id before .destroy before
      (.initById starter id .create)
  | created : InitStep enable starter id before .create
      (before.modify id (Stream.setSignal true)) (.initById starter id .setFlag)
  | notCreated : InitStep enable starter id before .create
      (before.modify id (Stream.setSignal false)) (afterInit id starter)
  | setFlag : InitStep enable starter id before .setFlag
      (before.modify id (Stream.setStorageRecordFlag true))
      (.initById starter id .spawn)
  | spawned : InitStep enable starter id before .spawn
      (before.modify id Stream.spawn) (afterInit id starter)
  | notSpawned : InitStep enable starter id before .spawn before
      (afterInit id starter)

theorem init_step {starter : Starter} {id : StreamId} {stage : InitById}
    (acts : initById enable starter id stage = .act effect)
    (effected : effect before choice = some (after, next)) :
    InitStep enable starter id before stage after next := by
  cases stage with
  | enter =>
      cases acts
      cases effected
      exact .enter
  | prepare =>
      cases acts
      cases choice with
      | outcome succeeds =>
          cases succeeds <;> cases effected
          · exact .unprepared
          · exact .prepared
      | _ => cases effected
  | enabled =>
      cases acts
      simp only [goTo, Option.some.injEq, Prod.mk.injEq] at effected
      obtain ⟨rfl, rfl⟩ := effected
      split
      next isDisabled => exact .disabled isDisabled
      next isEnabled => exact .enabled isEnabled
  | destroy =>
      cases acts
      cases effected
      exact .destroy
  | create =>
      cases acts
      cases choice with
      | outcome succeeds =>
          cases succeeds <;> cases effected
          · exact .notCreated
          · exact .created
      | _ => cases effected
  | setFlag =>
      cases acts
      cases effected
      exact .setFlag
  | spawn =>
      cases acts
      cases choice with
      | outcome succeeds =>
          cases succeeds <;> cases effected
          · exact .notSpawned
          · exact .spawned
      | _ => cases effected

inductive DeinitStep (enable : StreamId → Int) (stopper : Stopper)
    (id : StreamId) (before : Shared) : DeinitById → Shared → Control → Prop
  | enter : DeinitStep enable stopper id before .enter before
      (.deinitById stopper id .enabled)
  | enabled (isEnabled : enable id ≠ 0) :
      DeinitStep enable stopper id before .enabled before
        (.deinitById stopper id .clearFlag)
  | disabled (isDisabled : enable id = 0) :
      DeinitStep enable stopper id before .enabled before
        (afterDeinit id stopper)
  | clearFlag : DeinitStep enable stopper id before .clearFlag
      (before.modify id (Stream.setStorageRecordFlag false))
      (.deinitById stopper id .check)
  | signalled (signal : (before.streams id).gStorageSignal = true) :
      DeinitStep enable stopper id before .check before
        (.deinitById stopper id .give)
  | unsignalled (noSignal : (before.streams id).gStorageSignal = false) :
      DeinitStep enable stopper id before .check before
        (afterDeinit id stopper)
  | give : DeinitStep enable stopper id before .give before
      (.deinitById stopper id .join)
  | joined (isEnded : ∀ thread,
        (before.streams id).recordThreadId = some thread →
        thread ∉ (before.streams id).live) :
      DeinitStep enable stopper id before .join before
        (.deinitById stopper id .destroy)
  | destroy : DeinitStep enable stopper id before .destroy before
      (.deinitById stopper id .clear)
  | clear : DeinitStep enable stopper id before .clear
      (before.modify id (Stream.setSignal false)) (afterDeinit id stopper)

theorem deinit_step {stopper : Stopper} {id : StreamId} {stage : DeinitById}
    (acts : deinitById enable stopper id stage = .act effect)
    (effected : effect before choice = some (after, next)) :
    DeinitStep enable stopper id before stage after next := by
  cases stage with
  | enter =>
      cases acts
      cases effected
      exact .enter
  | enabled =>
      cases acts
      simp only [goTo, Option.some.injEq, Prod.mk.injEq] at effected
      obtain ⟨rfl, rfl⟩ := effected
      split
      next isDisabled => exact .disabled isDisabled
      next isEnabled => exact .enabled isEnabled
  | clearFlag =>
      cases acts
      cases effected
      exact .clearFlag
  | check =>
      cases acts
      simp only [Option.some.injEq, Prod.mk.injEq] at effected
      obtain ⟨rfl, rfl⟩ := effected
      cases signal : (before.streams id).gStorageSignal with
      | true => exact .signalled signal
      | false => exact .unsignalled signal
  | give =>
      cases acts
      cases effected
      exact .give
  | join =>
      cases acts
      simp only at effected
      split at effected
      next => contradiction
      next isEnded =>
        cases effected
        refine .joined fun thread isThread => ?_
        simpa [isThread] using isEnded
  | destroy =>
      cases acts
      cases effected
      exact .destroy
  | clear =>
      cases acts
      cases effected
      exact .clear

theorem InitStep.holds {starter : Starter} {id : StreamId} {stage : InitById}
    (step : InitStep enable starter id before stage after next) :
    next.holds = false := by
  cases step <;> cases starter <;> rfl

theorem DeinitStep.holds {stopper : Stopper} {id : StreamId}
    {stage : DeinitById}
    (step : DeinitStep enable stopper id before stage after next) :
    next.holds = false := by
  cases step <;> cases stopper <;> rfl

inductive Acts (enable : StreamId → Int) (before : Shared) (choice : Choice) :
    Control → Shared → Control → Prop
  | locked {point : Control} {after : Shared} {next : Control}
      (step : SectionStep before choice point after next) :
      Acts enable before choice point after next
  | init {after : Shared} {next : Control} (starter : Starter) (id : StreamId)
      (stage : InitById)
      (step : InitStep enable starter id before stage after next) :
      Acts enable before choice (.initById starter id stage) after next
  | deinit {after : Shared} {next : Control} (stopper : Stopper)
      (id : StreamId) (stage : DeinitById)
      (step : DeinitStep enable stopper id before stage after next) :
      Acts enable before choice (.deinitById stopper id stage) after next
  | plain {point : Control} {after : Shared} {next : Control}
      (isPlain : point.plain = true)
      (step : PlainStep before after point next) :
      Acts enable before choice point after next

theorem acts_of_act (acts : code enable point = .act effect)
    (effected : effect before choice = some (after, next)) :
    Acts enable before choice point after next := by
  cases point with
  | opening party id stage =>
      cases stage with
      | lock => cases acts
      | _ => exact .locked (section_step acts rfl effected)
  | closing party id stage =>
      cases stage with
      | lock => cases acts
      | _ => exact .locked (section_step acts rfl effected)
  | writing media id stage =>
      cases stage with
      | lock => cases acts
      | _ => exact .locked (section_step acts rfl effected)
  | initById starter id stage =>
      exact .init starter id stage (init_step acts effected)
  | deinitById stopper id stage =>
      exact .deinit stopper id stage (deinit_step acts effected)
  | _ => exact .plain rfl (plain_step acts rfl effected)

theorem Control.plain_holds (isPlain : point.plain = true) :
    point.holds = false := by
  cases point <;> first | rfl | cases isPlain

theorem act_holds (acts : code enable point = .act effect)
    (effected : effect before choice = some (after, next)) :
    next.holds = point.holds := by
  cases acts_of_act acts effected with
  | locked step => rw [step.holds.1, step.holds.2]
  | init _ _ _ step => exact step.holds
  | deinit _ _ _ step => exact step.holds
  | plain isPlain step => rw [step.holds, Control.plain_holds isPlain]

end Steps

def program (enable : StreamId → Int) :
    Program Thread Shared Control Choice where
  initial shared := shared = .start
  entry := entry
  code _ := code enable
  holds := Control.holds
  entry_holds thread := by cases thread <;> rfl
  lock_holds locks := by
    rcases lock_cases locks with ⟨party, id, rfl, rfl⟩ |
      ⟨party, id, rfl, rfl⟩ | ⟨media, id, rfl, rfl⟩ <;> exact ⟨rfl, rfl⟩
  unlock_holds unlocks := by
    rcases unlock_cases unlocks with ⟨party, id, rfl, rfl⟩ |
      ⟨party, id, rfl, rfl⟩ | ⟨media, id, rfl, rfl⟩
    · cases party <;> exact ⟨rfl, rfl⟩
    · cases party <;> exact ⟨rfl, rfl⟩
    · exact ⟨rfl, rfl⟩
  act_holds := act_holds

end Rkipc.Storage.Recorder
