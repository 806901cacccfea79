import Rkipc.Player.Loops

namespace Rkipc.Player

open Transition

/-! When the loops report what they are to report. -/

variable {frameInterval : Nat → Nat} {state next : State}

/-- The phases in which the thread holds the mutex. -/
def VideoPhase.locked : VideoPhase → Bool
  | .reading _ => true
  | .unlocking _ _ => true
  | _ => false

def AudioPhase.locked : AudioPhase → Bool
  | .reading => true
  | .unlocking _ => true
  | _ => false

/-- If there is a callback, then no read of the video fails, the round that reads the end of the
video takes less time than a frame, and with audio only, no packet with data is marked as the
last one. -/
def Undisturbed (frameInterval : Nat → Nat) (state : State) : Label → Prop
  | .videoRead result => state.ctx.eventCb = true → result ≠ none
  | .videoFinish endTime =>
      ∀ startTime round packet, state.video = .finishing startTime round →
        state.ctx.eventCb = true → round.result = some packet → packet.eofFlag = true →
        costTime startTime endTime < frameInterval state.ctx.fps
  | .audioRead result =>
      ∀ packet, state.ctx.eventCb = true → state.ctx.enableVideo = false →
        result = some packet → packet.eofFlag = true → packet.size = 0
  | _ => True

/-- The rounds under way have reported nothing and were undisturbed so far. -/
structure State.Settled (state : State) : Prop where
  videoHolds : state.mutex = some .video ↔ state.video.locked = true
  audioHolds : state.mutex = some .audio ↔ state.audio.locked = true
  videoRound : ∀ round ∈ state.video.round, round.reports = [] ∧
    (state.ctx.eventCb = true → round.result ≠ none)
  audioRound : ∀ round ∈ state.audio.round, round.reports = [] ∧
    ∀ packet, state.ctx.eventCb = true → state.ctx.enableVideo = false →
      round.result = some packet → packet.eofFlag = true → packet.size = 0
  videoPast : ∀ round ∈ state.videoRounds,
    round.reports = (state.ctx.videoEvents round.result).map fun event => (event, false)
  audioPast : ∀ round ∈ state.audioRounds,
    round.reports = (state.ctx.audioEvents round.result).map fun event => (event, false)

theorem reported_map {reports : List (PlayerEvent × Bool)} {events : List PlayerEvent}
    (unlocked : reports = events.map fun event => (event, false)) :
    reports.map Prod.fst = events ∧ ∀ report ∈ reports, report.2 = false := by
  subst unlocked
  refine ⟨?_, ?_⟩
  · rw [List.map_map]
    exact List.map_id events
  · intro report member
    obtain ⟨event, _, rfl⟩ := List.mem_map.mp member
    rfl

theorem State.Settled.isReportedOnce (settled : state.Settled) : state.ReportedOnce where
  video round member := (reported_map (settled.videoPast round member)).1
  audio round member := (reported_map (settled.audioPast round member)).1
  unlocked := by
    intro round member report inReports
    rcases List.mem_append.mp member with member | isAudio
    · rcases List.mem_append.mp member with member | inAudio
      · rcases List.mem_append.mp member with inVideo | isVideo
        · exact (reported_map (settled.videoPast round inVideo)).2 report inReports
        · rw [(settled.videoRound round isVideo).1] at inReports
          cases inReports
      · exact (reported_map (settled.audioPast round inAudio)).2 report inReports
    · rw [(settled.audioRound round isAudio).1] at inReports
      cases inReports

theorem settled_started (ctx : PlayerCtx) : (started ctx).Settled := by
  refine ⟨?_, ?_, ?_, ?_, ?_, ?_⟩
  · simp only [started]
    split_ifs <;> simp [VideoPhase.locked]
  · simp only [started]
    split_ifs <;> simp [AudioPhase.locked]
  · simp only [started]
    split_ifs <;> simp [VideoPhase.round]
  · simp only [started]
    split_ifs <;> simp [AudioPhase.round]
  · intro round member
    cases member
  · intro round member
    cases member

/-! Steps that change the context only, or the phase of one loop only. -/

theorem State.Settled.withCtx (settled : state.Settled) (ctx : PlayerCtx)
    (sameCb : ctx.eventCb = state.ctx.eventCb)
    (sameVideo : ctx.enableVideo = state.ctx.enableVideo) :
    ({ state with ctx } : State).Settled := by
  have videoEvents : ctx.videoEvents = state.ctx.videoEvents := by
    funext result
    simp only [PlayerCtx.videoEvents, sameCb]
  have audioEvents : ctx.audioEvents = state.ctx.audioEvents := by
    funext result
    simp only [PlayerCtx.audioEvents, sameCb, sameVideo]
  obtain ⟨videoHolds, audioHolds, videoRound, audioRound, videoPast, audioPast⟩ := settled
  refine ⟨videoHolds, audioHolds, ?_, ?_, ?_, ?_⟩
  · simpa only [sameCb] using videoRound
  · simpa only [sameCb, sameVideo] using audioRound
  · simpa only [videoEvents] using videoPast
  · simpa only [audioEvents] using audioPast

theorem State.Settled.withVideo (settled : state.Settled) {phase : VideoPhase}
    (sameLock : phase.locked = state.video.locked)
    (rounds : ∀ round ∈ phase.round, round.reports = [] ∧
      (state.ctx.eventCb = true → round.result ≠ none)) :
    ({ state with video := phase } : State).Settled :=
  { settled with
    videoHolds := by
      rw [sameLock]
      exact settled.videoHolds
    videoRound := rounds }

theorem State.Settled.withAudio (settled : state.Settled) {phase : AudioPhase}
    (sameLock : phase.locked = state.audio.locked)
    (rounds : ∀ round ∈ phase.round, round.reports = [] ∧
      ∀ packet, state.ctx.eventCb = true → state.ctx.enableVideo = false →
        round.result = some packet → packet.eofFlag = true → packet.size = 0) :
    ({ state with audio := phase } : State).Settled :=
  { settled with
    audioHolds := by
      rw [sameLock]
      exact settled.audioHolds
    audioRound := rounds }

theorem videoGot_same (ctx : PlayerCtx) (packet : Packet) :
    (ctx.videoGot packet).eventCb = ctx.eventCb ∧
      (ctx.videoGot packet).enableVideo = ctx.enableVideo := by
  unfold PlayerCtx.videoGot
  split_ifs <;> exact ⟨rfl, rfl⟩

theorem audioGot_same (ctx : PlayerCtx) (packet : Packet) :
    (ctx.audioGot packet).eventCb = ctx.eventCb ∧
      (ctx.audioGot packet).enableVideo = ctx.enableVideo := by
  unfold PlayerCtx.audioGot
  split_ifs <;> exact ⟨rfl, rfl⟩

/-! The steps of the video loop. -/

section Video

variable (settled : state.Settled)

include settled

theorem settled_videoEnter (at_ : state.video = .entering) : state.videoEnter.Settled := by
  unfold State.videoEnter
  refine settled.withVideo ?_ ?_
  · rw [at_]
    split_ifs <;> rfl
  · split_ifs <;> simp [VideoPhase.round]

theorem settled_videoLook (at_ : state.video = .top) (startTime : Timespec) :
    (state.videoLook startTime).Settled := by
  have ends : ({ state with video := .ended } : State).Settled :=
    settled.withVideo (by rw [at_]; rfl) (by simp [VideoPhase.round])
  unfold State.videoLook
  split_ifs
  · split
    next => exact ends
    next => exact settled
    next => exact settled.withVideo (by rw [at_]; rfl) (by simp [VideoPhase.round])
  · exact ends

theorem settled_videoLock (startTime : Timespec) (isFree : state.mutex = none) :
    ({ state with mutex := some .video, video := .reading startTime } : State).Settled := by
  have notAudio : ¬ state.audio.locked = true := by
    rw [← settled.audioHolds, isFree]
    exact (Option.some_ne_none _).symm
  exact {
    videoHolds := iff_of_true rfl rfl
    audioHolds := iff_of_false (fun held => Loop.noConfusion (Option.some.inj held)) notAudio
    videoRound := fun _ member => absurd member List.not_mem_nil
    audioRound := settled.audioRound
    videoPast := settled.videoPast
    audioPast := settled.audioPast }

theorem settled_videoRead {startTime : Timespec} (at_ : state.video = .reading startTime)
    {result : Option Packet} (undisturbed : state.ctx.eventCb = true → result ≠ none) :
    (state.videoRead startTime result).Settled := by
  cases result with
  | none =>
      have silent : state.ctx.eventCb = false := by
        cases isSet : state.ctx.eventCb with
        | false => rfl
        | true => exact absurd rfl (undisturbed isSet)
      have read : state.videoRead startTime none =
          { state with
            ctx := { state.ctx with videoStatus := .pause }
            video := .unlocking startTime ⟨none, []⟩ } := by
        simp [State.videoRead, State.callback, silent]
      rw [read]
      refine (settled.withCtx { state.ctx with videoStatus := .pause } rfl rfl).withVideo ?_ ?_
      · rw [at_]
        rfl
      · intro round member
        rw [List.mem_singleton.mp member]
        refine ⟨rfl, fun isSet => ?_⟩
        rw [silent] at isSet
        cases isSet
  | some packet =>
      obtain ⟨sameCb, sameVideo⟩ := videoGot_same state.ctx packet
      refine (settled.withCtx _ sameCb sameVideo).withVideo ?_ ?_
      · rw [at_]
        rfl
      · intro round member
        rw [List.mem_singleton.mp member]
        exact ⟨rfl, fun _ => Option.some_ne_none packet⟩

theorem settled_videoUnlock {startTime : Timespec} {round : Round}
    (at_ : state.video = .unlocking startTime round) :
    ({ state with mutex := none, video := .finishing startTime round } : State).Settled := by
  have held : state.mutex = some .video := settled.videoHolds.mpr (by rw [at_]; rfl)
  have notAudio : ¬ state.audio.locked = true := by
    rw [← settled.audioHolds, held]
    exact fun same => Loop.noConfusion (Option.some.inj same)
  exact {
    videoHolds := iff_of_false (Option.some_ne_none _).symm Bool.noConfusion
    audioHolds := iff_of_false (Option.some_ne_none _).symm notAudio
    videoRound := by
      have rounds := settled.videoRound
      rw [at_] at rounds
      exact rounds
    audioRound := settled.audioRound
    videoPast := settled.videoPast
    audioPast := settled.audioPast }

theorem settled_videoFinish {startTime endTime : Timespec} {round : Round}
    (at_ : state.video = .finishing startTime round)
    (inTime : ∀ packet, state.ctx.eventCb = true → round.result = some packet →
      packet.eofFlag = true → costTime startTime endTime < frameInterval state.ctx.fps) :
    (state.videoFinish frameInterval startTime endTime round).Settled := by
  have notHeld : ¬ state.mutex = some .video := by
    rw [settled.videoHolds, at_]
    exact Bool.noConfusion
  obtain ⟨noReport, read⟩ := settled.videoRound round (by simp [at_, VideoPhase.round])
  have reports : (state.videoFinish frameInterval startTime endTime round).videoRounds =
      state.videoRounds ++ [⟨round.result,
        (state.ctx.videoEvents round.result).map fun event => (event, false)⟩] := by
    simp only [State.videoFinish, noReport, List.nil_append]
    cases isSet : state.ctx.eventCb with
    | false => cases result : round.result <;> simp [State.callback, PlayerCtx.videoEvents, isSet]
    | true =>
        cases result : round.result with
        | none => exact absurd result (read isSet)
        | some packet =>
            cases isEnd : packet.eofFlag with
            | false => simp [PlayerCtx.videoEvents, isSet, isEnd]
            | true =>
                simp [State.callback, PlayerCtx.videoEvents, isSet, isEnd, notHeld,
                  inTime packet isSet result isEnd]
  exact {
    videoHolds := iff_of_false notHeld Bool.noConfusion
    audioHolds := settled.audioHolds
    videoRound := fun _ member => absurd member List.not_mem_nil
    audioRound := settled.audioRound
    videoPast := by
      intro past member
      rw [reports] at member
      rcases List.mem_append.mp member with before | isLast
      · exact settled.videoPast past before
      · rw [List.mem_singleton.mp isLast]
        rfl
    audioPast := settled.audioPast }

end Video

/-! The steps of the audio loop. -/

section Audio

variable (settled : state.Settled)

include settled

theorem settled_audioLook (at_ : state.audio = .top) : state.audioLook.Settled := by
  have ends : ({ state with audio := .ended } : State).Settled :=
    settled.withAudio (by rw [at_]; rfl) (by simp [AudioPhase.round])
  unfold State.audioLook
  split_ifs
  · split
    next => exact ends
    next => exact settled
    next => exact settled.withAudio (by rw [at_]; rfl) (by simp [AudioPhase.round])
  · exact ends

theorem settled_audioLock (isFree : state.mutex = none) :
    ({ state with mutex := some .audio, audio := .reading } : State).Settled := by
  have notVideo : ¬ state.video.locked = true := by
    rw [← settled.videoHolds, isFree]
    exact (Option.some_ne_none _).symm
  exact {
    videoHolds := iff_of_false (fun held => Loop.noConfusion (Option.some.inj held)) notVideo
    audioHolds := iff_of_true rfl rfl
    videoRound := settled.videoRound
    audioRound := fun _ member => absurd member List.not_mem_nil
    videoPast := settled.videoPast
    audioPast := settled.audioPast }

theorem settled_audioRead (at_ : state.audio = .reading) {result : Option Packet}
    (undisturbed : ∀ packet, state.ctx.eventCb = true → state.ctx.enableVideo = false →
      result = some packet → packet.eofFlag = true → packet.size = 0) :
    (state.audioRead result).Settled := by
  cases result with
  | none =>
      refine (settled.withCtx { state.ctx with audioStatus := .pause } rfl rfl).withAudio ?_ ?_
      · rw [at_]
        rfl
      · intro round member
        rw [List.mem_singleton.mp member]
        exact ⟨rfl, fun _ _ _ isSome => absurd isSome.symm (Option.some_ne_none _)⟩
  | some packet =>
      obtain ⟨sameCb, sameVideo⟩ := audioGot_same state.ctx packet
      refine (settled.withCtx _ sameCb sameVideo).withAudio ?_ ?_
      · rw [at_]
        rfl
      · intro round member
        rw [List.mem_singleton.mp member]
        refine ⟨rfl, fun read isSet noVideo => ?_⟩
        exact undisturbed read (sameCb.symm.trans isSet) (sameVideo.symm.trans noVideo)

theorem settled_audioUnlock {round : Round} (at_ : state.audio = .unlocking round) :
    ({ state with mutex := none, audio := .finishing round } : State).Settled := by
  have held : state.mutex = some .audio := settled.audioHolds.mpr (by rw [at_]; rfl)
  have notVideo : ¬ state.video.locked = true := by
    rw [← settled.videoHolds, held]
    exact fun same => Loop.noConfusion (Option.some.inj same)
  exact {
    videoHolds := iff_of_false (Option.some_ne_none _).symm notVideo
    audioHolds := iff_of_false (Option.some_ne_none _).symm Bool.noConfusion
    videoRound := settled.videoRound
    audioRound := by
      have rounds := settled.audioRound
      rw [at_] at rounds
      exact rounds
    videoPast := settled.videoPast
    audioPast := settled.audioPast }

theorem settled_audioFinish {round : Round} (at_ : state.audio = .finishing round) :
    (state.audioFinish round).Settled := by
  have notHeld : ¬ state.mutex = some .audio := by
    rw [settled.audioHolds, at_]
    exact Bool.noConfusion
  obtain ⟨noReport, read⟩ := settled.audioRound round (by simp [at_, AudioPhase.round])
  have reports : (state.audioFinish round).audioRounds =
      state.audioRounds ++ [⟨round.result,
        (state.ctx.audioEvents round.result).map fun event => (event, false)⟩] := by
    simp only [State.audioFinish, noReport, List.nil_append]
    cases isSet : state.ctx.eventCb with
    | false => cases result : round.result <;> simp [State.callback, PlayerCtx.audioEvents, isSet]
    | true =>
        cases result : round.result with
        | none => simp [State.callback, PlayerCtx.audioEvents, isSet, notHeld]
        | some packet =>
            cases noVideo : state.ctx.enableVideo with
            | true => simp [PlayerCtx.audioEvents, isSet, noVideo]
            | false =>
                cases isEnd : packet.eofFlag with
                | false => simp [PlayerCtx.audioEvents, Packet.endsAudio, isSet, isEnd]
                | true =>
                    simp [State.callback, PlayerCtx.audioEvents, Packet.endsAudio, isSet, isEnd,
                      noVideo, notHeld, read packet isSet noVideo result isEnd]
  exact {
    videoHolds := settled.videoHolds
    audioHolds := iff_of_false notHeld Bool.noConfusion
    videoRound := settled.videoRound
    audioRound := fun _ member => absurd member List.not_mem_nil
    videoPast := settled.videoPast
    audioPast := by
      intro past member
      rw [reports] at member
      rcases List.mem_append.mp member with before | isLast
      · exact settled.audioPast past before
      · rw [List.mem_singleton.mp isLast]
        rfl }

end Audio

theorem settled_step (frameInterval : Nat → Nat) (state : State) (label : Label) (next : State)
    (settled : state.Settled) (undisturbed : Undisturbed frameInterval state label)
    (stepped : state.step frameInterval label = some next) : next.Settled := by
  cases label with
  | videoEnter =>
      obtain ⟨at_, isNext⟩ := Option.ite_none_right_eq_some.mp stepped
      cases isNext
      exact settled_videoEnter settled at_
  | videoLook startTime =>
      obtain ⟨at_, isNext⟩ := Option.ite_none_right_eq_some.mp stepped
      cases isNext
      exact settled_videoLook settled at_ startTime
  | videoLock =>
      cases at_ : state.video with
      | locking startTime =>
          simp only [State.step, at_] at stepped
          obtain ⟨isFree, isNext⟩ := Option.ite_none_right_eq_some.mp stepped
          cases isNext
          exact settled_videoLock settled startTime isFree
      | _ => simp [State.step, at_] at stepped
  | videoRead result =>
      cases at_ : state.video with
      | reading startTime =>
          simp only [State.step, at_] at stepped
          cases stepped
          exact settled_videoRead settled at_ undisturbed
      | _ => simp [State.step, at_] at stepped
  | videoUnlock =>
      cases at_ : state.video with
      | unlocking startTime round =>
          simp only [State.step, at_] at stepped
          cases stepped
          exact settled_videoUnlock settled at_
      | _ => simp [State.step, at_] at stepped
  | videoFinish endTime =>
      cases at_ : state.video with
      | finishing startTime round =>
          simp only [State.step, at_] at stepped
          cases stepped
          exact settled_videoFinish settled at_ fun packet =>
            undisturbed startTime round packet at_
      | _ => simp [State.step, at_] at stepped
  | audioLook =>
      obtain ⟨at_, isNext⟩ := Option.ite_none_right_eq_some.mp stepped
      cases isNext
      exact settled_audioLook settled at_
  | audioLock =>
      obtain ⟨⟨_, isFree⟩, isNext⟩ := Option.ite_none_right_eq_some.mp stepped
      cases isNext
      exact settled_audioLock settled isFree
  | audioRead result =>
      obtain ⟨at_, isNext⟩ := Option.ite_none_right_eq_some.mp stepped
      cases isNext
      exact settled_audioRead settled at_ undisturbed
  | audioUnlock =>
      cases at_ : state.audio with
      | unlocking round =>
          simp only [State.step, at_] at stepped
          cases stepped
          exact settled_audioUnlock settled at_
      | _ => simp [State.step, at_] at stepped
  | audioFinish =>
      cases at_ : state.audio with
      | finishing round =>
          simp only [State.step, at_] at stepped
          cases stepped
          exact settled_audioFinish settled at_
      | _ => simp [State.step, at_] at stepped
  | control control =>
      obtain ⟨_, isNext⟩ := Option.ite_none_right_eq_some.mp stepped
      cases isNext
      obtain ⟨video, audio, same, _⟩ := state.ctx.control_statuses control
      rw [same]
      exact settled.withCtx _ rfl rfl
  | threadsEnd =>
      cases stepped
      exact settled.withCtx _ rfl rfl

theorem reportedOnce
    (reachable : (loops frameInterval).Reachable (Undisturbed frameInterval) state) :
    state.ReportedOnce := by
  refine (System.Reachable.invariant ?_ (settled_step frameInterval) reachable).isReportedOnce
  rintro first ⟨ctx, rfl⟩
  exact settled_started ctx

/-- `Undisturbed` for a player with a callback. -/
def undisturbed (frameInterval : Nat → Nat) (state : State) : Label → Bool
  | .videoRead result => result.isSome
  | .videoFinish endTime =>
      match state.video with
      | .finishing startTime _ =>
          costTime startTime endTime < frameInterval state.ctx.fps
      | _ => true
  | .audioRead result =>
      match result with
      | some packet => !packet.eofFlag || packet.size = 0
      | none => true
  | _ => true

theorem undisturbed_Undisturbed (state : State) (label : Label)
    (checked : undisturbed frameInterval state label = true) :
    Undisturbed frameInterval state label := by
  cases label with
  | videoRead result =>
      intro _ isNone
      rw [isNone] at checked
      exact Bool.noConfusion checked
  | videoFinish endTime =>
      intro startTime round packet at_ _ _ _
      rw [undisturbed, at_] at checked
      exact of_decide_eq_true checked
  | audioRead result =>
      intro packet _ _ isPacket isEnd
      rw [isPacket] at checked
      simpa [undisturbed, isEnd] using checked
  | _ => exact trivial

/-- A player with a file of this frame rate, with or without video. -/
def opened (video : Bool) : PlayerCtx :=
  { PlayerCtx.fresh true with
    fps := 25, enableVideo := video, enableAudio := true, threadRunning := true
    videoStatus := .pause, audioStatus := .pause }

/-- A round of the video loop that reads this in so many microseconds. -/
def videoRound (result : Option Packet) (micros : Int) : List Label :=
  [.videoLook ⟨5, 0⟩, .videoLock, .videoRead result, .videoUnlock,
    .videoFinish ⟨5, micros * 1000⟩]

def perSecond (fps : Nat) : Nat := 1000000 / fps

theorem reportedOnce_oneEnd : ∃ state : State, state.ReportedOnce ∧
    state.videoRounds.map Round.reports = [[], [(.eof, false)]] := by
  let ran := (loops perSecond).guardedRun (undisturbed perSecond) (started (opened true))
    ([Label.videoEnter, .control .play] ++ videoRound (some ⟨false, 900, 0⟩) 20000 ++
      videoRound (some ⟨true, 0, 0⟩) 100)
  have ends : ran.map (fun state => state.videoRounds.map Round.reports) =
      some [[], [(.eof, false)]] := by decide
  obtain ⟨state, reached, isEnd⟩ := Option.map_eq_some_iff.mp ends
  exact ⟨state, reportedOnce ⟨started (opened true), ⟨_, rfl⟩,
    System.reaches_of_guardedRun undisturbed_Undisturbed _ reached⟩, isEnd⟩

/-- The round that reads the end of the video takes longer than a frame. -/
theorem end_not_reported : ∃ state, (loops perSecond).Reachable System.anyStep state ∧
    ¬ state.ReportedOnce := by
  let ran := (loops perSecond).run (started (opened true))
    ([Label.videoEnter, .control .play] ++ videoRound (some ⟨true, 0, 0⟩) 40000)
  have ends : ran.map (fun state => (state.ctx.eventCb, state.videoRounds)) =
      some (true, [⟨some ⟨true, 0, 0⟩, []⟩]) := by decide
  obtain ⟨state, reached, isEnd⟩ := Option.map_eq_some_iff.mp ends
  obtain ⟨isSet, rounds⟩ := Prod.mk.inj isEnd
  refine ⟨state, System.reachable_of_run ⟨_, rfl⟩ reached, ?_⟩
  intro once
  have reported := once.video ⟨some ⟨true, 0, 0⟩, []⟩ (by simp [rounds])
  simp [PlayerCtx.videoEvents, isSet] at reported

end Rkipc.Player
