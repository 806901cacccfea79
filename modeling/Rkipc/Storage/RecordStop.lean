import Rkipc.Storage.MuxerGuard

namespace Rkipc.Storage.Recorder

open Transition

/-! How long a stop of the recording lasts. -/

/-- The next step takes the mutex to open the muxer of the stream, at the start
of a period of the recorder or of `rk_storage_record_start`. -/
def Control.opensNext (id : StreamId) : Control → Bool
  | .opening _ other .lock => other = id
  | _ => false

def noOpening (id : StreamId) (config : Config Thread Shared Control)
    (label : Thread × Choice) : Prop :=
  (config.control label.1).opensNext id = false

instance (id : StreamId) (config : Config Thread Shared Control)
    (label : Thread × Choice) : Decidable (noOpening id config label) :=
  inferInstanceAs (Decidable (_ = _))

/-- A thread opens the muxer of the stream or is about to write to it. -/
def Control.feeds (id : StreamId) : Control → Bool
  | .opening _ other stage => other = id ∧ stage ≠ .lock
  | .writing _ other .writeFrame => other = id
  | _ => false

theorem Control.feeds_of_not_holds {point : Control}
    (outside : point.holds = false) (id : StreamId) :
    point.feeds id = false := by
  cases point with
  | opening party other stage =>
      have isLock : stage = .lock := by simpa [Control.holds] using outside
      simp [Control.feeds, isLock]
  | writing media other stage =>
      cases stage with
      | writeFrame => cases outside
      | _ => rfl
  | _ => rfl

/-- The stream has been stopped when `calls` were made. -/
structure Stopped (id : StreamId) (calls : List MuxerCall)
    (config : Config Thread Shared Control) : Prop where
  quiet : (config.shared.streams id).gRecordRun = false
  outside : ∀ thread, (config.control thread).feeds id = false
  deinits : ∃ later, (config.shared.streams id).muxer = later ++ calls ∧
    ∀ call ∈ later, call = .deinit

section Step

variable {enable : StreamId → Int} {id : StreamId} {calls : List MuxerCall}
  {config : Config Thread Shared Control} {thread : Thread}

private theorem Stopped.moved (stopped : Stopped id calls config)
    {owner : Option Thread} {shared : Shared} {next : Control}
    (quiet : (shared.streams id).gRecordRun = false)
    (deinits : (shared.streams id).muxer = (config.shared.streams id).muxer ∨
      (shared.streams id).muxer =
        .deinit :: (config.shared.streams id).muxer)
    (outside : next.feeds id = false) :
    Stopped id calls
      ⟨shared, owner, Function.update config.control thread next⟩ where
  quiet := quiet
  outside other := by
    by_cases same : other = thread
    · subst same
      simpa using outside
    · simpa [Function.update_of_ne same] using stopped.outside other
  deinits := by
    obtain ⟨later, isMuxer, areDeinits⟩ := stopped.deinits
    rcases deinits with same | deinit
    · exact ⟨later, same.trans isMuxer, areDeinits⟩
    · refine ⟨.deinit :: later, by rw [deinit, isMuxer]; rfl, ?_⟩
      exact List.forall_mem_cons.mpr ⟨rfl, areDeinits⟩

private theorem Stopped.section_step (stopped : Stopped id calls config)
    {shared : Shared} {next : Control} {choice : Choice}
    (step : SectionStep config.shared choice (config.control thread) shared
      next) :
    Stopped id calls
      { config with
        shared := shared
        control := Function.update config.control thread next } := by
  have feeds := stopped.outside thread
  have quiet := stopped.quiet
  generalize config.control thread = point at step feeds
  -- a step on another stream keeps this one
  have other : ∀ (own : StreamId) (change : Stream → Stream), own ≠ id →
      (config.shared.modify own change).streams id =
        config.shared.streams id :=
    fun own change distinct =>
      Shared.modify_other _ _ (Ne.symm distinct)
  cases step with
  | openClear party own | openDeinit party own | openInit party own
  | openSet party own =>
      have distinct : own ≠ id := by simpa [Control.feeds] using feeds
      refine stopped.moved ?_ (.inl ?_) ?_
      · rwa [other own _ distinct]
      · rw [other own _ distinct]
      · simp [Control.feeds, distinct]
  | closeClear party own =>
      refine stopped.moved ?_ (.inl ?_) rfl
      · by_cases same : own = id
        · subst same
          rw [Shared.modify_same]
          rfl
        · rwa [other own _ same]
      · by_cases same : own = id
        · subst same
          rw [Shared.modify_same]
          rfl
        · rw [other own _ same]
  | closeDeinit party own =>
      by_cases same : own = id
      · subst same
        refine stopped.moved ?_ (.inr ?_) rfl
        · rwa [Shared.modify_same]
        · rw [Shared.modify_same]
          rfl
      · refine stopped.moved ?_ (.inl ?_) rfl
        · rwa [other own _ same]
        · rw [other own _ same]
  | runs media own running =>
      refine stopped.moved quiet (.inl rfl) ?_
      have distinct : own ≠ id := by
        rintro rfl
        rw [running] at quiet
        contradiction
      simp [Control.feeds, distinct]
  | idles media own _ => exact stopped.moved quiet (.inl rfl) rfl
  | writeFrame media own =>
      have distinct : own ≠ id := by simpa [Control.feeds] using feeds
      refine stopped.moved ?_ (.inl ?_) rfl
      · rwa [other own _ distinct]
      · rw [other own _ distinct]

private theorem Stopped.step (stopped : Stopped id calls config)
    {after : Config Thread Shared Control} {label : Thread × Choice}
    (allowed : noOpening id config label)
    (stepped : (program enable).step config label = some after) :
    Stopped id calls after := by
  unfold noOpening at allowed
  cases Program.moves_of_step stepped with
  | acquire locks =>
      refine stopped.moved stopped.quiet (.inl rfl) ?_
      rcases lock_cases locks with ⟨party, own, isPoint, rfl⟩ |
        ⟨_, _, _, rfl⟩ | ⟨_, _, _, rfl⟩
      · rw [isPoint] at allowed
        have distinct : own ≠ id := by simpa [Control.opensNext] using allowed
        simp [Control.feeds, distinct]
      · rfl
      · rfl
  | release unlocks =>
      exact stopped.moved stopped.quiet (.inl rfl)
        (Control.feeds_of_not_holds ((program enable).unlock_holds
          unlocks).2 id)
  | act acts effected =>
      by_cases inside : (config.control label.1).holds = true
      · exact stopped.section_step (Recorder.section_step acts inside effected)
      · rw [Bool.not_eq_true] at inside
        obtain ⟨sameRun, sameMuxer⟩ := outside_keeps acts inside effected id
        refine stopped.moved (sameRun.trans stopped.quiet) (.inl sameMuxer) ?_
        refine Control.feeds_of_not_holds ?_ id
        rw [act_holds acts effected, inside]

end Step

private theorem stopped_of_return {enable : StreamId → Int} {id : StreamId}
    {client : Nat} {choice : Choice}
    {before after : Config Thread Shared Control}
    (reachable : (program enable).system.Reachable System.anyStep before)
    (stops : before.control (.client client) = .closing .client id .unlock)
    (returns : (program enable).system.step before
      (.client client, choice) = some after) :
    Stopped id (after.shared.streams id).muxer after := by
  have exclusive := Program.ownerHolds_of_reachable
    (reachable.step trivial returns)
  have described := (outline enable id).described reachable
  cases Program.moves_of_step returns with
  | acquire locks =>
      rw [stops] at locks
      cases locks
  | act acts =>
      rw [stops] at acts
      cases acts
  | release unlocks owned =>
      have knows := (described.owned _ owned).2
      rw [stops] at knows
      refine ⟨knows rfl, fun thread => ?_, [], rfl, by simp⟩
      refine Control.feeds_of_not_holds ?_ id
      have notOwner := (exclusive thread).not.mpr (by simp)
      exact Bool.not_eq_true _ ▸ notOwner

/-- After a stop of a stream, and until a muxer of the stream is opened again,
its status is 0 and no frame is written to its muxer. -/
theorem stop_is_respected {enable : StreamId → Int} {id : StreamId}
    {client : Nat} {choice : Choice}
    {before after later : Config Thread Shared Control}
    (reachable : (program enable).system.Reachable System.anyStep before)
    (stops : before.control (.client client) = .closing .client id .unlock)
    (returns : (program enable).system.step before
      (.client client, choice) = some after)
    (reaches : (program enable).system.Reaches (noOpening id) after later) :
    later.shared.recordStatueGet id = 0 ∧
      ∃ calls, (later.shared.streams id).muxer =
          calls ++ (after.shared.streams id).muxer ∧
        ∀ media, .writeFrame media ∉ calls := by
  have stopped := stopped_of_return reachable stops returns
  have still := reaches.invariant
    (fun _ _ _ stopped allowed stepped => stopped.step allowed stepped) stopped
  refine ⟨by simp [Shared.recordStatueGet, still.quiet], ?_⟩
  obtain ⟨calls, isMuxer, areDeinits⟩ := still.deinits
  refine ⟨calls, isMuxer, fun media member => ?_⟩
  cases areDeinits _ member

def startUp : List (Thread × Choice) :=
  steps .main
    [.outcome true, .go, .go, .go, .go, .outcome true, .go, .go, .outcome true,
      .go, .go, .outcome true, .go, .outcome true] ++
  steps (.recorder 0 0)
    [.go, .go, .go, .go, .go, .outcome true, .go, .go]

def stopStream : List (Thread × Choice) :=
  steps (.client 0) [.call .recordStop 0, .go, .go, .go]

def rotate : List (Thread × Choice) :=
  steps (.recorder 0 0) [.go, .go, .go, .go, .go, .outcome true, .go]

/-- Neither `rk_storage_record_start` nor `rk_storage_muxer_init_by_id` is called
for the stream. -/
def noRestart (id : StreamId) (config : Config Thread Shared Control)
    (label : Thread × Choice) : Prop :=
  match config.control label.1 with
  | .opening .client other .lock | .initById _ other .enter => other ≠ id
  | _ => True

instance (id : StreamId) (config : Config Thread Shared Control)
    (label : Thread × Choice) : Decidable (noRestart id config label) := by
  unfold noRestart
  split <;> infer_instance

/-- The client is about to return from its stop. -/
def stopping : Option (Config Thread Shared Control) :=
  (program oneEnabled).system.run ((program oneEnabled).start .start)
    (startUp ++ stopStream)

def stoppedRun
    (allowed : Config Thread Shared Control → Thread × Choice → Bool)
    (labels : List (Thread × Choice)) :
    Option (Config Thread Shared Control) :=
  stopping.bind fun before =>
    ((program oneEnabled).system.step before (.client 0, .go)).bind
      fun after => (program oneEnabled).system.guardedRun allowed after labels

private theorem exists_of_stoppedRun
    {allowed : Config Thread Shared Control → Thread × Choice → Bool}
    {labels : List (Thread × Choice)} {later : Config Thread Shared Control}
    (ran : stoppedRun allowed labels = some later) :
    ∃ before after,
      (program oneEnabled).system.Reachable System.anyStep before ∧
      before.control (.client 0) = .closing .client 0 .unlock ∧
      (program oneEnabled).system.step before (.client 0, .go) = some after ∧
      (program oneEnabled).system.guardedRun allowed after labels =
        some later := by
  obtain ⟨before, isBefore, ran⟩ := Option.bind_eq_some_iff.mp ran
  obtain ⟨after, isAfter, ran⟩ := Option.bind_eq_some_iff.mp ran
  have stops : stopping.map (fun config => config.control (.client 0)) =
      some (.closing .client 0 .unlock) := by decide
  rw [isBefore] at stops
  exact ⟨before, after, System.reachable_of_run ⟨.start, rfl, rfl⟩ isBefore,
    Option.some.inj stops, isAfter, ran⟩

def frame : List (Thread × Choice) :=
  steps (.client 0) [.call (.writeFrame .video) 0, .go, .go, .go]

theorem stop_is_respected_frame :
    ∃ config, stoppedRun (fun config label => decide (noOpening 0 config label))
        frame = some config ∧
      config.shared.recordStatueGet 0 = 0 := by
  obtain ⟨config, ran⟩ := Option.isSome_iff_exists.mp
    (show (stoppedRun (fun config label => decide (noOpening 0 config label))
      frame).isSome from by decide)
  obtain ⟨before, after, reachable, stops, returns, later⟩ :=
    exists_of_stoppedRun ran
  exact ⟨config, ran, (stop_is_respected reachable stops returns
    (System.reaches_of_guardedRun (fun _ _ allowed => of_decide_eq_true allowed)
      frame later)).1⟩

/-- The next period of the recorder undoes a stop. -/
theorem rotation_undoes_stop :
    ¬ ∀ (enable : StreamId → Int) (id : StreamId) (client : Nat)
      (choice : Choice) (before after later : Config Thread Shared Control),
      (program enable).system.Reachable System.anyStep before →
      before.control (.client client) = .closing .client id .unlock →
      (program enable).system.step before (.client client, choice) =
        some after →
      (program enable).system.Reaches (noRestart id) after later →
      later.shared.recordStatueGet id = 0 := by
  intro general
  have runs : (stoppedRun (fun config label =>
        decide (noRestart 0 config label)) rotate).map
      (fun config => config.shared.recordStatueGet 0) = some 1 := by
    decide
  obtain ⟨config, ran, status⟩ := Option.map_eq_some_iff.mp runs
  obtain ⟨before, after, reachable, stops, returns, later⟩ :=
    exists_of_stoppedRun ran
  rw [general oneEnabled 0 0 .go before after config reachable stops returns
    (System.reaches_of_guardedRun (fun _ _ allowed => of_decide_eq_true allowed)
      rotate later)] at status
  contradiction

end Rkipc.Storage.Recorder
