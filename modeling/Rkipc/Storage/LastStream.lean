import Rkipc.Storage.MuxerGuard

namespace Rkipc.Storage.Recorder

open Transition

/-! The last stream, which `rk_storage_init` starts and no other loop but that of
`rk_storage_deinit` handles. -/

def mainStreamOnly : Choice → Bool
  | .call .recordStart id | .call .recordStop id => id = 0
  | _ => true

section Steps

/-- What a stream is that has never been recorded. -/
structure Untouched (stream : Stream) : Prop where
  muxer : stream.muxer = []
  stopped : stream.gRecordRun = false
  live : stream.live = []

/-- No thread is on the way to record the last stream. -/
def Quiet : Control → Prop
  | .opening _ id _ | .closing _ id _ | .writing _ id .writeFrame
  | .recording id _ | .waiting id _ | .ending id _ | .initById _ id .destroy
  | .initById _ id .create | .initById _ id .setFlag | .initById _ id .spawn =>
      id ≠ 3
  | _ => True

variable {enable : StreamId → Int} {point next : Control} {effect : Effect}
  {before after : Shared} {choice : Choice}

theorem Untouched.of_change (untouched : Untouched (before.streams 3))
    (id : StreamId) (change : Stream → Stream)
    (keeps : id = 3 → ∀ stream, Untouched stream → Untouched (change stream)) :
    Untouched ((before.modify id change).streams 3) := by
  by_cases same : id = 3
  · subst same
    rw [Shared.modify_same]
    exact keeps rfl _ untouched
  · rwa [Shared.modify_other _ _ (Ne.symm same)]

theorem SectionStep.quiet (step : SectionStep before choice point after next)
    (quiet : Quiet point) (untouched : Untouched (before.streams 3)) :
    Untouched (after.streams 3) ∧ Quiet next := by
  cases step with
  | openClear | openDeinit | openInit | openSet | closeClear | closeDeinit =>
      exact ⟨untouched.of_change _ _ fun same => absurd same quiet, quiet⟩
  | runs media id running =>
      refine ⟨untouched, fun same => ?_⟩
      subst same
      rw [untouched.stopped] at running
      cases running
  | idles => exact ⟨untouched, trivial⟩
  | writeFrame =>
      exact ⟨untouched.of_change _ _ fun same => absurd same quiet, trivial⟩

theorem InitStep.quiet {starter : Starter} {id : StreamId}
    {stage : InitById} (disabled : enable 3 = 0)
    (step : InitStep enable starter id before stage after next)
    (quiet : Quiet (.initById starter id stage))
    (untouched : Untouched (before.streams 3)) :
    Untouched (after.streams 3) ∧ Quiet next := by
  have onward : Quiet (afterInit id starter) := by cases starter <;> trivial
  cases step with
  | enter | prepared => exact ⟨untouched, trivial⟩
  | unprepared | disabled => exact ⟨untouched, onward⟩
  | notSpawned => exact ⟨untouched, onward⟩
  | enabled isEnabled =>
      refine ⟨untouched, fun same => isEnabled ?_⟩
      rw [same, disabled]
  | destroy => exact ⟨untouched, quiet⟩
  | created | setFlag =>
      exact ⟨untouched.of_change _ _ fun same => absurd same quiet, quiet⟩
  | notCreated | spawned =>
      exact ⟨untouched.of_change _ _ fun same => absurd same quiet, onward⟩

theorem DeinitStep.quiet {stopper : Stopper} {id : StreamId}
    {stage : DeinitById} (step : DeinitStep enable stopper id before stage after next)
    (untouched : Untouched (before.streams 3)) :
    Untouched (after.streams 3) ∧ Quiet next := by
  have onward : Quiet (afterDeinit id stopper) := by cases stopper <;> trivial
  cases step with
  | enter | enabled | signalled | give | joined | destroy =>
      exact ⟨untouched, trivial⟩
  | disabled | unsignalled => exact ⟨untouched, onward⟩
  | clearFlag =>
      exact ⟨untouched.of_change _ _ fun _ _ same => ⟨same.1, same.2, same.3⟩, trivial⟩
  | clear =>
      exact ⟨untouched.of_change _ _ fun _ _ same => ⟨same.1, same.2, same.3⟩, onward⟩

theorem Plain.untouched (plain : Plain before point after)
    (untouched : Untouched (before.streams 3)) : Untouched (after.streams 3) := by
  cases plain with
  | same streams => rwa [streams]
  | flag id flag | storageFlag id flag =>
      exact untouched.of_change _ _ fun _ _ same => ⟨same.1, same.2, same.3⟩
  | ended id thread =>
      refine untouched.of_change _ _ fun _ stream same => ⟨same.1, same.2, ?_⟩
      rw [Stream.ended, same.live, List.erase_nil]

theorem loop_quiet {bound i : Nat} {bounded : bound ≤ 4}
    {body : StreamId → Effect} {done : Control}
    (effected : loop bound bounded i body done before choice = some (after, next))
    (inside : ∀ id, body id before choice = some (after, next) → Quiet next)
    (outside : Quiet done) : Quiet next := by
  rcases loop_cases effected with ⟨id, _, _, effected⟩ | ⟨_, _, rfl⟩
  · exact inside id effected
  · exact outside

theorem plain_quiet (acts : code enable point = .act effect)
    (isPlain : point.plain = true)
    (effected : effect before choice = some (after, next))
    (served : mainStreamOnly choice = true) (quiet : Quiet point)
    (untouched : Untouched (before.streams 3)) : Quiet next := by
  cases point with
  | opening | closing | writing | initById | deinitById => cases isPlain
  | client =>
      cases acts
      cases choice with
      | call call id =>
          cases effected
          cases call with
          | writeFrame media => trivial
          | recordStart | recordStop =>
              cases of_decide_eq_true served
              exact (by decide : (0 : StreamId) ≠ 3)
      | _ => cases effected
  | dormant id thread =>
      cases acts
      simp only at effected
      split at effected
      next alive =>
        cases effected
        intro same
        subst same
        rw [untouched.live] at alive
        cases alive
      next => cases effected
  | recording id thread =>
      cases acts
      cases effected
      split <;> exact quiet
  | waiting id thread =>
      cases acts
      cases effected
      exact quiet
  | ending id thread =>
      cases acts
      cases effected
      trivial
  | setRecordFlags recognized i | storageInit i | storageDeinit i | devRemove i
  | clearFlags i =>
      cases acts
      refine loop_quiet effected (fun id effected => ?_) trivial
      cases effected
      trivial
  | devAdd i =>
      cases acts
      refine loop_quiet effected (fun id effected => ?_) trivial
      unfold devAdd at effected
      split at effected
      next =>
        cases effected
        trivial
      next => split at effected <;> cases effected <;> trivial
  | deinitialised | ended =>
      cases acts
      cases effected
  | initialised =>
      cases acts
      cases effected
      trivial
  | _ =>
      cases acts
      simp only at effected
      repeat' split at effected
      all_goals
        cases effected <;> trivial

end Steps

/-- The last stream is not recorded. -/
structure Unrecorded (config : Config Thread Shared Control) : Prop where
  untouched : Untouched (config.shared.streams 3)
  quiet : ∀ thread, Quiet (config.control thread)

section Runs

variable {enable : StreamId → Int} {config after : Config Thread Shared Control}
  {thread : Thread} {choice : Choice}

def servedMain (_ : Config Thread Shared Control) (label : Thread × Choice) : Prop :=
  mainStreamOnly label.2 = true

theorem quiet_update (quiet : ∀ other, Quiet (config.control other)) {next : Control}
    (isQuiet : Quiet next) (other : Thread) :
    Quiet (Function.update config.control thread next other) := by
  by_cases same : other = thread
  · subst same
    rwa [Function.update_self]
  · rw [Function.update_of_ne same]
    exact quiet other

theorem Unrecorded.step (unrecorded : Unrecorded config) (disabled : enable 3 = 0)
    (served : mainStreamOnly choice = true)
    (stepped : (program enable).step config (thread, choice) = some after) :
    Unrecorded after := by
  have quiet := unrecorded.quiet thread
  cases Program.moves_of_step stepped with
  | acquire locks =>
      refine ⟨unrecorded.untouched, quiet_update unrecorded.quiet ?_⟩
      rcases lock_cases locks with ⟨party, id, point, rfl⟩ | ⟨party, id, point, rfl⟩ |
        ⟨media, id, point, rfl⟩
      · rw [point] at quiet
        exact quiet
      · rw [point] at quiet
        exact quiet
      · trivial
  | release unlocks =>
      refine ⟨unrecorded.untouched, quiet_update unrecorded.quiet ?_⟩
      rcases unlock_cases unlocks with ⟨party, id, point, rfl⟩ |
        ⟨party, id, point, rfl⟩ | ⟨media, id, point, rfl⟩
      · rw [point] at quiet
        cases party with
        | recorder thread => exact quiet
        | client => trivial
      · rw [point] at quiet
        cases party with
        | recorder thread => exact quiet
        | client => trivial
      · trivial
  | @act effect shared next acts effected =>
      have both : Untouched (shared.streams 3) ∧ Quiet next := by
        generalize config.control thread = point at acts quiet
        cases acts_of_act acts effected with
        | locked step => exact step.quiet quiet unrecorded.untouched
        | init _ _ _ step => exact step.quiet disabled quiet unrecorded.untouched
        | deinit _ _ _ step => exact step.quiet unrecorded.untouched
        | plain isPlain step =>
            exact ⟨step.plain.untouched unrecorded.untouched,
              plain_quiet acts isPlain effected served quiet unrecorded.untouched⟩
      exact ⟨both.1, quiet_update unrecorded.quiet both.2⟩

theorem unrecorded_of_reachable (disabled : enable 3 = 0)
    (reachable : (program enable).system.Reachable servedMain config) :
    Unrecorded config := by
  refine reachable.invariant ?_ ?_
  · intro _ isInitial
    obtain ⟨shared, isStart, rfl⟩ := isInitial
    cases isStart
    exact ⟨⟨rfl, rfl, rfl⟩, fun thread => by cases thread <;> trivial⟩
  · exact fun _ _ _ unrecorded served stepped =>
      unrecorded.step disabled served stepped

/-- The card is not recognised, and no folder of the first streams can be made. -/
def toLastStream : List (Thread × Choice) :=
  steps .main
    [.outcome false, .go, .go, .go, .go, .outcome true,
      .go, .go, .outcome false, .go, .go, .outcome false,
      .go, .go, .outcome false, .go, .go, .outcome true]

/-- The thread of the last stream starts, finds its `record_flag` clear and ends. -/
def closesLastStream : List (Thread × Choice) :=
  steps .main [.go, .outcome true, .go, .outcome true] ++
    steps (.recorder 3 0) [.go, .go, .go, .go]

theorem last_stream_closed (enabled : enable 3 ≠ 0) :
    ∃ config, (program enable).system.Reachable servedMain config ∧
      config.control (.recorder 3 0) = .closing (.recorder 0) 3 .deinit := by
  let allowed : Config Thread Shared Control → Thread × Choice → Bool :=
    fun _ label => mainStreamOnly label.2
  let ran := (program enable).system.guardedRun allowed
    ((program enable).start .start) toLastStream
  have isSome : ran.isSome := rfl
  have reachable : (program enable).system.Reachable servedMain (ran.get isSome) :=
    ⟨_, ⟨.start, rfl, rfl⟩, System.reaches_of_guardedRun (fun _ _ served => served)
      toLastStream (Option.some_get isSome).symm⟩
  -- the one step that reads `storage.3:enable`
  let entered : Config Thread Shared Control :=
    { ran.get isSome with
      control := Function.update (ran.get isSome).control .main
        (.initById .storageInit 3 .destroy) }
  have stepped : (program enable).step (ran.get isSome) (.main, .go) = some entered := by
    have point : (ran.get isSome).control .main = .initById .storageInit 3 .enabled := rfl
    have isEnabled : initById enable .storageInit 3 .enabled =
        .act (goTo (.initById .storageInit 3 .destroy)) := by
      rw [initById, if_neg enabled]
    have codeAt : (program enable).code .main ((ran.get isSome).control .main) =
        .act (goTo (.initById .storageInit 3 .destroy)) := by
      rw [point]
      exact isEnabled
    rw [Program.step, codeAt]
    rfl
  let closing := (program enable).system.guardedRun allowed entered closesLastStream
  have closes : closing.isSome := rfl
  refine ⟨closing.get closes, ?_, rfl⟩
  have served : servedMain (ran.get isSome) (.main, .go) := rfl
  exact (reachable.step served stepped).reaches
    (System.reaches_of_guardedRun (fun _ _ served => served) closesLastStream
      (Option.some_get closes).symm)

end Runs

end Rkipc.Storage.Recorder
