import Rkipc.Storage.RecorderSteps

namespace Rkipc.Storage.Recorder

open Transition

/-! The run flag of a stream and its muxer. -/

/-- The outcome of the latest call that was not a write, if it was an init. -/
def opened : List MuxerCall → Option Bool
  | [] => none
  | .writeFrame _ :: earlier => opened earlier
  | .init succeeds :: _ => some succeeds
  | .deinit :: _ => none

/-- Every write came after an init, with only writes between them, whose outcome
is allowed. -/
def WritesAfter (allowed : Bool → Prop) : List MuxerCall → Prop
  | [] => True
  | .writeFrame _ :: earlier =>
      (∃ succeeds, opened earlier = some succeeds ∧ allowed succeeds) ∧
        WritesAfter allowed earlier
  | .init _ :: earlier => WritesAfter allowed earlier
  | .deinit :: earlier => WritesAfter allowed earlier

theorem opened_mem {calls : List MuxerCall} {succeeds : Bool}
    (isOpened : opened calls = some succeeds) : .init succeeds ∈ calls := by
  induction calls with
  | nil => cases isOpened
  | cons call earlier induction =>
      cases call with
      | deinit => cases isOpened
      | init _ =>
          cases isOpened
          exact List.mem_cons_self
      | writeFrame _ => exact List.mem_cons_of_mem _ (induction isOpened)

theorem WritesAfter.succeeded {allowed : Bool → Prop}
    {calls : List MuxerCall} (writes : WritesAfter allowed calls)
    (noFailure : .init false ∉ calls) : WritesAfter (· = true) calls := by
  induction calls with
  | nil => trivial
  | cons call earlier induction =>
      have rest := fun later => induction later
        fun member => noFailure (List.mem_cons_of_mem _ member)
      cases call with
      | deinit => exact rest writes
      | init _ => exact rest writes
      | writeFrame _ =>
          obtain ⟨⟨succeeds, isOpened, _⟩, later⟩ := writes
          refine ⟨⟨succeeds, isOpened, ?_⟩, rest later⟩
          cases succeeds with
          | true => rfl
          | false =>
              exact (noFailure
                (List.mem_cons_of_mem _ (opened_mem isOpened))).elim

/-- The run flag stands for a muxer that was opened last. -/
structure Guarded (stream : Stream) : Prop where
  writes : WritesAfter (fun _ => True) stream.muxer
  runs : stream.gRecordRun = true → (opened stream.muxer).isSome

def Knows (id : StreamId) (stream : Stream) : Control → Prop
  | .opening _ other .deinit | .opening _ other .init
  | .closing _ other .deinit | .closing _ other .unlock =>
      other = id → stream.gRecordRun = false
  | .opening _ other .set | .writing _ other .writeFrame =>
      other = id → (opened stream.muxer).isSome
  | _ => True

section Outside

variable {enable : StreamId → Int} {point next : Control}
  {effect : Effect} {before after : Shared} {choice : Choice}

theorem outside_keeps (acts : code enable point = .act effect)
    (outside : point.holds = false)
    (effected : effect before choice = some (after, next)) (id : StreamId) :
    (after.streams id).gRecordRun = (before.streams id).gRecordRun ∧
      (after.streams id).muxer = (before.streams id).muxer := by
  have keeps : ∀ (other : StreamId) (change : Stream → Stream),
      (∀ stream, (change stream).gRecordRun = stream.gRecordRun ∧
        (change stream).muxer = stream.muxer) →
      ((before.modify other change).streams id).gRecordRun =
          (before.streams id).gRecordRun ∧
        ((before.modify other change).streams id).muxer =
          (before.streams id).muxer := by
    intro other change same
    by_cases isOther : id = other
    · subst isOther
      simpa using same _
    · simp [Shared.modify_other _ _ isOther]
  have untouched : (before.streams id).gRecordRun =
        (before.streams id).gRecordRun ∧
      (before.streams id).muxer = (before.streams id).muxer := ⟨rfl, rfl⟩
  cases acts_of_act acts effected with
  | locked step =>
      rw [step.holds.1] at outside
      contradiction
  | init _ _ _ step =>
      cases step <;> first
        | exact untouched
        | exact keeps _ _ fun _ => ⟨rfl, rfl⟩
  | deinit _ _ _ step =>
      cases step <;> first
        | exact untouched
        | exact keeps _ _ fun _ => ⟨rfl, rfl⟩
  | plain _ step =>
      cases step.plain with
      | same streams => simp [streams]
      | _ => exact keeps _ _ fun _ => ⟨rfl, rfl⟩

theorem SectionStep.guarded {id : StreamId}
    (step : SectionStep before choice point after next)
    (guarded : Guarded (before.streams id))
    (knows : Knows id (before.streams id) point) :
    Guarded (after.streams id) ∧ Knows id (after.streams id) next := by
  -- a step on another stream changes nothing here
  have other : ∀ (own : StreamId) (change : Stream → Stream), own ≠ id →
      Guarded ((before.modify own change).streams id) := by
    intro own change distinct
    rwa [Shared.modify_other _ _ (Ne.symm distinct)]
  cases step with
  | openClear party own | closeClear party own =>
      by_cases same : own = id
      · subst same
        simp only [Shared.modify_same]
        exact ⟨⟨guarded.writes, fun runs => nomatch runs⟩, fun _ => rfl⟩
      · exact ⟨other own _ same, fun isOwn => (same isOwn).elim⟩
  | openDeinit party own | closeDeinit party own =>
      by_cases same : own = id
      · subst same
        simp only [Shared.modify_same]
        have stopped := knows rfl
        refine ⟨⟨guarded.writes, fun runs => ?_⟩, fun _ => stopped⟩
        rw [Stream.call, stopped] at runs
        contradiction
      · exact ⟨other own _ same, fun isOwn => (same isOwn).elim⟩
  | openInit party own =>
      by_cases same : own = id
      · subst same
        simp only [Shared.modify_same]
        exact ⟨⟨guarded.writes, fun _ => rfl⟩, fun _ => rfl⟩
      · exact ⟨other own _ same, fun isOwn => (same isOwn).elim⟩
  | openSet party own =>
      by_cases same : own = id
      · subst same
        simp only [Shared.modify_same]
        exact ⟨⟨guarded.writes, fun _ => knows rfl⟩, trivial⟩
      · exact ⟨other own _ same, trivial⟩
  | runs media own running =>
      refine ⟨guarded, ?_⟩
      rintro rfl
      exact guarded.runs running
  | idles media own stopped => exact ⟨guarded, trivial⟩
  | writeFrame media own =>
      by_cases same : own = id
      · subst same
        simp only [Shared.modify_same]
        obtain ⟨succeeds, isOpened⟩ := Option.isSome_iff_exists.mp (knows rfl)
        exact ⟨⟨⟨⟨succeeds, isOpened, trivial⟩, guarded.writes⟩,
          guarded.runs⟩, trivial⟩
      · exact ⟨other own _ same, trivial⟩

end Outside

theorem outline (enable : StreamId → Int) (id : StreamId) :
    (program enable).Outline System.anyStep
      (fun shared => Guarded (shared.streams id))
      (fun _ point shared =>
        Guarded (shared.streams id) ∧ Knows id (shared.streams id) point)
      (fun _ _ _ => True) where
  start shared isStart := by
    cases isStart
    exact ⟨⟨trivial, fun runs => nomatch runs⟩, fun _ => trivial⟩
  acquire thread point next shared locks guarded _ := by
    rcases lock_cases locks with ⟨_, _, _, rfl⟩ | ⟨_, _, _, rfl⟩ |
      ⟨_, _, _, rfl⟩ <;> exact ⟨guarded, trivial⟩
  release thread point next shared _ busy := ⟨busy.1, trivial⟩
  inside config thread choice effect shared next inside _ acts effected busy :=
    (section_step acts inside effected).guarded busy.1 busy.2
  outside config thread choice effect shared next outside _ acts effected _ := by
    obtain ⟨sameRun, sameMuxer⟩ := outside_keeps acts outside effected id
    have keeps : Guarded (config.shared.streams id) →
        Guarded (shared.streams id) := by
      intro both
      obtain ⟨writes, runs⟩ := both
      exact ⟨by rwa [sameMuxer], by rwa [sameRun, sameMuxer]⟩
    refine ⟨trivial, keeps, fun owner point _ _ busy => ⟨keeps busy.1, ?_⟩⟩
    have knows := busy.2
    unfold Knows at knows ⊢
    rw [sameRun, sameMuxer]
    exact knows
  undisturbed _ _ _ _ _ _ _ _ _ _ _ _ _ _ _ := trivial

/-- In every run a frame is passed to a muxer that was opened last, whether or
not the opening succeeded. -/
theorem guarded_of_reachable {enable : StreamId → Int}
    {config : Config Thread Shared Control}
    (reachable : (program enable).system.Reachable System.anyStep config)
    (id : StreamId) : Guarded (config.shared.streams id) := by
  have described := (outline enable id).described reachable
  cases owner : config.owner with
  | none => exact described.free owner
  | some thread => exact (described.owned thread owner).1

/-! A failed init. -/

def Control.callsInit (id : StreamId) : Control → Bool
  | .opening _ other .init => other = id
  | _ => false

def initSucceeds (id : StreamId) (config : Config Thread Shared Control)
    (label : Thread × Choice) : Prop :=
  (config.control label.1).callsInit id = true → label.2 = .outcome true

instance (id : StreamId) (config : Config Thread Shared Control)
    (label : Thread × Choice) : Decidable (initSucceeds id config label) :=
  inferInstanceAs (Decidable (_ → _))

def NoFailure (id : StreamId) (config : Config Thread Shared Control) : Prop :=
  .init false ∉ (config.shared.streams id).muxer

private theorem noFailure_of_step {enable : StreamId → Int} {id : StreamId}
    {config after : Config Thread Shared Control} {label : Thread × Choice}
    (noFailure : NoFailure id config)
    (succeeds : initSucceeds id config label)
    (stepped : (program enable).step config label = some after) :
    NoFailure id after := by
  unfold NoFailure at noFailure ⊢
  cases Program.moves_of_step stepped with
  | acquire => exact noFailure
  | release => exact noFailure
  | act acts effected =>
      by_cases inside : (config.control label.1).holds = true
      · unfold initSucceeds at succeeds
        generalize config.control label.1 = point at inside acts succeeds
        have step := section_step acts inside effected
        have other : ∀ (own : StreamId) (change : Stream → Stream), own ≠ id →
            .init false ∉
              ((config.shared.modify own change).streams id).muxer := by
          intro own change distinct
          rwa [Shared.modify_other _ _ (Ne.symm distinct)]
        cases step with
        | openInit party own outcome =>
            by_cases same : own = id
            · subst same
              cases outcome.symm.trans (succeeds (by simp [Control.callsInit]))
              simpa [Stream.call] using noFailure
            · exact other own _ same
        | openClear _ own | openDeinit _ own | openSet _ own
        | closeClear _ own | closeDeinit _ own | writeFrame _ own =>
            by_cases same : own = id
            · subst same
              simpa [Stream.call, Stream.setRun] using noFailure
            · exact other own _ same
        | runs | idles => exact noFailure
      · rw [Bool.not_eq_true] at inside
        rwa [(outside_keeps acts inside effected id).2]

/-- When every `rkmuxer_init` of a stream succeeds, its frames are passed to a
muxer that was opened last by an init that succeeded. -/
theorem writes_follow_successful_init {enable : StreamId → Int} {id : StreamId}
    {config : Config Thread Shared Control}
    (reachable : (program enable).system.Reachable (initSucceeds id) config) :
    WritesAfter (· = true) (config.shared.streams id).muxer := by
  have guarded := guarded_of_reachable
    (reachable.mono fun _ _ _ => trivial) id
  have noFailure : NoFailure id config := by
    refine reachable.invariant ?_ ?_
    · rintro _ ⟨_, rfl, rfl⟩
      exact List.not_mem_nil
    · exact fun _ _ _ noFailure succeeds stepped =>
        noFailure_of_step noFailure succeeds stepped
  exact guarded.writes.succeeded noFailure

def steps (thread : Thread) (choices : List Choice) : List (Thread × Choice) :=
  choices.map fun choice => (thread, choice)

def startAndWrite (succeeds : Bool) : List (Thread × Choice) :=
  steps (.client 0)
    [.call .recordStart 0, .go, .go, .go, .outcome succeeds, .go, .go,
      .call (.writeFrame .video) 0, .go, .go, .go]

def oneEnabled (id : StreamId) : Int := if id = 0 then 1 else 0

theorem writes_follow_successful_init_started :
    ∃ config, (program oneEnabled).system.Reachable (initSucceeds 0) config ∧
      (config.shared.streams 0).muxer =
        [.writeFrame .video, .init true, .deinit] ∧
      WritesAfter (· = true) (config.shared.streams 0).muxer := by
  let ran := (program oneEnabled).system.guardedRun
    (fun config label => decide (initSucceeds 0 config label))
    ((program oneEnabled).start .start) (startAndWrite true)
  have isSome : ran.isSome := rfl
  have reachable :
      (program oneEnabled).system.Reachable (initSucceeds 0)
        (ran.get isSome) :=
    ⟨_, ⟨.start, rfl, rfl⟩, System.reaches_of_guardedRun
      (fun _ _ allowed => of_decide_eq_true allowed) (startAndWrite true)
      (Option.some_get isSome).symm⟩
  exact ⟨_, reachable, rfl, writes_follow_successful_init reachable⟩

/-- After an init that failed, frames are passed to the muxer all the same. -/
theorem writes_follow_failed_init :
    ¬ ∀ (enable : StreamId → Int) (config : Config Thread Shared Control),
      (program enable).system.Reachable System.anyStep config →
      ∀ id, WritesAfter (· = true) (config.shared.streams id).muxer := by
  intro general
  let ran := (program oneEnabled).system.run
    ((program oneEnabled).start .start) (startAndWrite false)
  have isSome : ran.isSome := rfl
  have writes := general oneEnabled (ran.get isSome)
    (System.reachable_of_run ⟨.start, rfl, rfl⟩ (Option.some_get isSome).symm) 0
  obtain ⟨⟨succeeds, isOpened, isTrue⟩, _⟩ := writes
  have isFalse : some false = some succeeds := isOpened
  cases isFalse
  cases isTrue

end Rkipc.Storage.Recorder
