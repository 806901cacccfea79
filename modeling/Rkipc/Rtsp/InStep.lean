import Rkipc.Rtsp.Session

namespace Rkipc.Rtsp

open Transition

/-! The globals of a stream and the frames of its session. -/

section Sent

variable {sent : List Sent} {video presentTime timestamp : Int64}

theorem fromVideo_append (frame : Sent) :
    fromVideo (sent ++ [frame]) =
      if (fromVideo sent).isEmpty then fromVideo [frame] else fromVideo sent ++ [frame] :=
  List.dropWhile_append

theorem fromVideo_of_none (unseen : firstVideo sent = none) : fromVideo sent = [] := by
  rwa [firstVideo, Option.map_eq_none_iff, List.head?_eq_none_iff] at unseen

theorem firstAudio_of_none (unseen : firstVideo sent = none) : firstAudio sent = none := by
  rw [firstAudio, fromVideo_of_none unseen]
  rfl

theorem fromVideo_of_some (seen : firstVideo sent = some video) :
    (fromVideo sent).isEmpty = false := by
  cases frames : fromVideo sent with
  | nil =>
      rw [firstVideo, frames] at seen
      cases seen
  | cons frame rest => rfl

theorem firstVideo_append_of_some (seen : firstVideo sent = some video) (frame : Sent) :
    firstVideo (sent ++ [frame]) = some video := by
  cases frames : fromVideo sent with
  | nil =>
      rw [firstVideo, frames] at seen
      cases seen
  | cons first rest =>
      rw [firstVideo, fromVideo_append, frames]
      rw [firstVideo, frames] at seen
      exact seen

theorem firstAudio_append_of_some (seen : firstVideo sent = some video) (frame : Sent) :
    firstAudio (sent ++ [frame]) =
      (firstAudio sent).or
        (if frame.media.isVideo then none else some frame.presentTime) := by
  have notEmpty := fromVideo_of_some seen
  rw [firstAudio, fromVideo_append, notEmpty, if_neg Bool.false_ne_true,
    List.find?_append, Option.map_or, ← firstAudio, List.find?_singleton]
  cases frame.media.isVideo with
  | true => rfl
  | false => rfl

theorem firstVideo_sendVideo :
    firstVideo (sent ++ [⟨.video, presentTime, timestamp⟩]) =
      some ((firstVideo sent).getD presentTime) := by
  cases seen : firstVideo sent with
  | none =>
      rw [firstVideo, fromVideo_append, fromVideo_of_none seen]
      rfl
  | some video => exact firstVideo_append_of_some seen _

theorem firstAudio_sendVideo :
    firstAudio (sent ++ [⟨.video, presentTime, timestamp⟩]) = firstAudio sent := by
  cases seen : firstVideo sent with
  | none =>
      rw [firstAudio_of_none seen, firstAudio, fromVideo_append, fromVideo_of_none seen]
      rfl
  | some video =>
      rw [firstAudio_append_of_some seen]
      exact Option.or_none

theorem firstVideo_sendAudio :
    firstVideo (sent ++ [⟨.audio, presentTime, timestamp⟩]) = firstVideo sent := by
  cases seen : firstVideo sent with
  | none =>
      rw [firstVideo, fromVideo_append, fromVideo_of_none seen]
      rfl
  | some video => exact firstVideo_append_of_some seen _

theorem firstAudio_sendAudio :
    firstAudio (sent ++ [⟨.audio, presentTime, timestamp⟩]) =
      (firstVideo sent).map fun _ => (firstAudio sent).getD presentTime := by
  cases seen : firstVideo sent with
  | none =>
      rw [firstAudio, fromVideo_append, fromVideo_of_none seen]
      rfl
  | some video =>
      rw [firstAudio_append_of_some seen]
      cases firstAudio sent with
      | none => rfl
      | some audio => rfl

theorem InStep.append (inStep : InStep sent) (frame : Sent)
    (stamped : frame.media = .audio → frame.timestamp = aligned sent frame.presentTime) :
    InStep (sent ++ [frame]) := by
  intro earlier other later split isAudio
  rcases List.eq_nil_or_concat later with rfl | ⟨middle, last, rfl⟩
  · obtain ⟨rfl, same⟩ := List.append_inj' split rfl
    cases same
    exact stamped isAudio
  · have regrouped : sent ++ [frame] = (earlier ++ other :: middle) ++ [last] := by
      rw [split, List.concat_eq_append, List.append_assoc, List.cons_append]
    obtain ⟨rfl, _⟩ := List.append_inj' regrouped rfl
    exact inStep earlier other middle rfl isAudio

end Sent

/-- The first video time less the first audio time after it. -/
def difference : Option Int64 → Option Int64 → Int64
  | some video, some audio => video - audio
  | _, _ => 0

/-- The globals of a stream stand for the first times of its session, and none of
these is the time that stands for no frame. -/
structure Marks (stream : Stream) (video audio : Option Int64) : Prop where
  videoFirst : stream.videoFirstPts = video.getD 0
  audioFirst : stream.audioFirstPts = audio.getD 0
  diff : stream.videoAudioDiffPts = difference video audio
  videoSeen : video ≠ some 0
  audioSeen : audio ≠ some 0
  order : video = none → audio = none

section Steps

variable {stream : Stream} {video audio : Option Int64} {presentTime : Int64}
  {session : Option Session}

theorem Marks.video_eq_none (marks : Marks stream video audio) :
    stream.videoFirstPts = 0 ↔ video = none := by
  rw [marks.videoFirst]
  cases video with
  | none => exact iff_of_true rfl rfl
  | some first =>
      exact iff_of_false (fun unseen => marks.videoSeen (congrArg some unseen))
        (Option.some_ne_none first)

theorem Marks.audio_eq_none (marks : Marks stream video audio) :
    stream.audioFirstPts = 0 ↔ audio = none := by
  rw [marks.audioFirst]
  cases audio with
  | none => exact iff_of_true rfl rfl
  | some first =>
      exact iff_of_false (fun unseen => marks.audioSeen (congrArg some unseen))
        (Option.some_ne_none first)

theorem Marks.withSession (marks : Marks stream video audio) :
    Marks { stream with session := session } video audio :=
  ⟨marks.videoFirst, marks.audioFirst, marks.diff, marks.videoSeen, marks.audioSeen, marks.order⟩

theorem Marks.meetVideo (marks : Marks stream video audio)
    (distinct : stream.videoFirstPts = 0 → presentTime ≠ 0) :
    Marks
      { stream with
        videoFirstPts :=
          if stream.videoFirstPts = 0 then presentTime else stream.videoFirstPts }
      (some (video.getD presentTime)) audio := by
  by_cases unseen : stream.videoFirstPts = 0
  · have noVideo := marks.video_eq_none.mp unseen
    have noAudio := marks.order noVideo
    subst noVideo noAudio
    exact
      { videoFirst := if_pos unseen
        audioFirst := marks.audioFirst
        diff := marks.diff
        videoSeen := fun same => distinct unseen (Option.some.inj same)
        audioSeen := marks.audioSeen
        order := fun unseen => (Option.some_ne_none _ unseen).elim }
  · have seen : video ≠ none := fun none => unseen (marks.video_eq_none.mpr none)
    obtain ⟨first, rfl⟩ := Option.ne_none_iff_exists'.mp seen
    exact
      { videoFirst := (if_neg unseen).trans marks.videoFirst
        audioFirst := marks.audioFirst
        diff := marks.diff
        videoSeen := marks.videoSeen
        audioSeen := marks.audioSeen
        order := fun unseen => (Option.some_ne_none _ unseen).elim }

theorem Marks.meetAudio (marks : Marks stream video audio)
    (distinct : stream.audioFirstPts = 0 → stream.videoFirstPts ≠ 0 → presentTime ≠ 0) :
    Marks (stream.meetAudio presentTime) video
      (video.map fun _ => audio.getD presentTime) := by
  unfold Stream.meetAudio
  split
  next meets =>
    have noAudio := marks.audio_eq_none.mp meets.1
    have seen : video ≠ none := fun none => meets.2 (marks.video_eq_none.mpr none)
    obtain ⟨first, rfl⟩ := Option.ne_none_iff_exists'.mp seen
    subst noAudio
    exact
      { videoFirst := marks.videoFirst
        audioFirst := rfl
        diff := congrArg (· - presentTime) marks.videoFirst
        videoSeen := marks.videoSeen
        audioSeen := fun same => distinct meets.1 meets.2 (Option.some.inj same)
        order := fun unseen => (Option.some_ne_none _ unseen).elim }
  next stays =>
    cases video with
    | none =>
        cases marks.order rfl
        exact marks
    | some first =>
        have isSeen : stream.videoFirstPts ≠ 0 := fun unseen =>
          Option.some_ne_none _ (marks.video_eq_none.mp unseen)
        have heard : audio ≠ none := fun none =>
          stays ⟨marks.audio_eq_none.mpr none, isSeen⟩
        obtain ⟨_, rfl⟩ := Option.ne_none_iff_exists'.mp heard
        exact marks

end Steps

/-- The difference that is added to an audio frame is the one that it should be. -/
theorem Marks.timestamp {stream : Stream} {sent : List Sent} {presentTime : Int64}
    (marks : Marks (stream.meetAudio presentTime) (firstVideo sent)
      ((firstVideo sent).map fun _ => (firstAudio sent).getD presentTime)) :
    presentTime + (stream.meetAudio presentTime).videoAudioDiffPts =
      aligned sent presentTime := by
  rw [marks.diff, aligned]
  cases firstVideo sent with
  | none => exact Int64.add_zero presentTime
  | some video => rfl

/-- What a stream is at the end of every call. -/
structure Follows (stream : Stream) : Prop where
  clean : stream.videoFirstPts = 0 →
    stream.audioFirstPts = 0 ∧ stream.videoAudioDiffPts = 0
  inStep : ∀ session, stream.session = some session → InStep session.sent
  marks : ∀ session, stream.session = some session →
    Marks stream (firstVideo session.sent) (firstAudio session.sent)

namespace Follows

variable {stream : Stream} {presentTime : Int64}

theorem withoutSession (follows : Follows stream) :
    Follows { stream with session := none } where
  clean := follows.clean
  inStep _ isSession := (Option.some_ne_none _ isSession.symm).elim
  marks _ isSession := (Option.some_ne_none _ isSession.symm).elim

theorem init (follows : Follows stream) {params : Params} {id : StreamId}
    {created : Option Bool}
    (fresh : created = some true → stream.videoFirstPts = 0) :
    Follows (stream.init params id created) := by
  cases created with
  | none => exact follows
  | some created =>
      cases created with
      | false => exact follows.withoutSession
      | true =>
          have unseen := fresh rfl
          have clean := follows.clean unseen
          refine ⟨fun _ => clean, ?_, ?_⟩
          · intro session isSession
            cases isSession
            intro earlier frame later split
            cases earlier <;> cases split
          · intro session isSession
            cases isSession
            exact
              { videoFirst := unseen
                audioFirst := clean.1
                diff := clean.2
                videoSeen := (Option.some_ne_none 0).symm
                audioSeen := (Option.some_ne_none 0).symm
                order := fun _ => rfl }

theorem writeVideoFrame (follows : Follows stream)
    (distinct : stream.session.isSome = true → stream.videoFirstPts = 0 →
      presentTime ≠ 0) :
    Follows (stream.writeVideoFrame presentTime) := by
  unfold Stream.writeVideoFrame
  split
  next => exact follows
  next session isSession =>
    have distinct := distinct (Option.isSome_of_mem isSession)
    refine ⟨fun unseen => ?_, ?_, ?_⟩
    · dsimp only at unseen
      split at unseen
      next isUnseen => exact absurd unseen (distinct isUnseen)
      next isSeen => exact absurd unseen isSeen
    · intro _ same
      cases same
      refine (follows.inStep session isSession).append _ fun isAudio => ?_
      cases isAudio
    · intro _ same
      cases same
      rw [Session.send, firstVideo_sendVideo, firstAudio_sendVideo]
      exact ((follows.marks session isSession).meetVideo distinct).withSession

theorem meetAudio_clean (follows : Follows stream)
    (unseen : (stream.meetAudio presentTime).videoFirstPts = 0) :
    (stream.meetAudio presentTime).audioFirstPts = 0 ∧
      (stream.meetAudio presentTime).videoAudioDiffPts = 0 := by
  unfold Stream.meetAudio at unseen ⊢
  split at unseen
  next meets => exact absurd unseen meets.2
  next stays =>
    rw [if_neg stays]
    exact follows.clean unseen

theorem writeAudioFrame (follows : Follows stream)
    (distinct : stream.session.isSome = true → stream.audioFirstPts = 0 →
      stream.videoFirstPts ≠ 0 → presentTime ≠ 0) :
    Follows (stream.writeAudioFrame presentTime) := by
  unfold Stream.writeAudioFrame
  split
  next => exact follows
  next session isSession =>
    have marks := (follows.marks session isSession).meetAudio
      (distinct (Option.isSome_of_mem isSession))
    refine ⟨fun unseen => follows.meetAudio_clean unseen, ?_, ?_⟩
    · intro _ same
      cases same
      exact (follows.inStep session isSession).append _ fun _ => marks.timestamp
    · intro _ same
      cases same
      rw [Session.send, firstVideo_sendAudio, firstAudio_sendAudio]
      exact marks.withSession

end Follows

/-- A session of the stream begins only while no video frame has been seen for the
stream, and the frames that are remembered have a time other than 0. -/
def fresh (id : StreamId) (state : State) : Call → Bool
  | .init _ _ created =>
      decide (created id = some true → (state.streams id).videoFirstPts = 0)
  | .deinit => true
  | .writeVideoFrame other presentTime =>
      decide (other = id → state.rtsplive → (state.streams id).session.isSome →
        (state.streams id).videoFirstPts = 0 → presentTime ≠ 0)
  | .writeAudioFrame other presentTime =>
      decide (other = id → state.rtsplive → (state.streams id).session.isSome →
        (state.streams id).audioFirstPts = 0 → (state.streams id).videoFirstPts ≠ 0 →
        presentTime ≠ 0)

def isFresh (id : StreamId) (state : State) (call : Call) : Prop :=
  fresh id state call = true

theorem State.modify_follows {state : State} {id other : StreamId}
    {change : Stream → Stream} (follows : Follows (state.streams id))
    (changed : other = id → Follows (change (state.streams id))) :
    Follows ((state.modify other change).streams id) := by
  by_cases same : id = other
  · subst same
    rw [State.modify_same]
    exact changed rfl
  · rwa [State.modify_other state change same]

theorem Follows.call {state : State} {id : StreamId} {call : Call}
    (follows : Follows (state.streams id)) (isFresh : isFresh id state call) :
    Follows ((state.call call).1.streams id) := by
  cases call with
  | init params live created => exact follows.init (of_decide_eq_true isFresh)
  | deinit => exact follows.withoutSession
  | writeVideoFrame other presentTime =>
      have distinct := of_decide_eq_true isFresh
      rw [State.call]
      split
      next live =>
        exact State.modify_follows follows fun same =>
          follows.writeVideoFrame (distinct same live)
      next => exact follows
  | writeAudioFrame other presentTime =>
      have distinct := of_decide_eq_true isFresh
      rw [State.call]
      split
      next live =>
        exact State.modify_follows follows fun same =>
          follows.writeAudioFrame (distinct same live)
      next => exact follows

theorem Follows.start : Follows Stream.start where
  clean _ := ⟨rfl, rfl⟩
  inStep _ isSession := (Option.some_ne_none _ isSession.symm).elim
  marks _ isSession := (Option.some_ne_none _ isSession.symm).elim

def StreamFollows (id : StreamId) (state : State) : Prop := Follows (state.streams id)

/-- In every session that begins while its stream is fresh, the audio frames carry
the times that the session gives them. -/
theorem sessions_inStep {id : StreamId} {state : State}
    (reachable : system.Reachable (isFresh id) state) {session : Session}
    (isSession : (state.streams id).session = some session) : InStep session.sent := by
  have follows : StreamFollows id state := by
    refine reachable.invariant (fun _ isStart => ?_) ?_
    · cases isStart
      exact Follows.start
    · intro before call _ follows isFresh stepped
      cases stepped
      exact Follows.call follows isFresh
  exact follows.inStep session isSession

def params : Params := ⟨fun _ => "H.264", 1, 16000, 2⟩

def opens : Call := .init params true fun _ => some true

/-- Audio before the first video frame, and after it. -/
def oneSession : List Call :=
  [opens, .writeAudioFrame 0 40, .writeVideoFrame 0 100, .writeAudioFrame 0 70,
    .writeAudioFrame 0 90]

theorem sessions_inStep_one :
    ∃ state session, system.Reachable (isFresh 0) state ∧
      (state.streams 0).session = some session ∧
      session.sent.map Sent.timestamp = [40, 100, 100, 120] ∧ InStep session.sent := by
  let ran := system.guardedRun (fresh 0) .start oneSession
  have isSome : ran.isSome := by decide
  have reachable : system.Reachable (isFresh 0) (ran.get isSome) :=
    ⟨_, rfl, System.reaches_of_guardedRun (fun _ _ isFresh => isFresh) oneSession
      (Option.some_get isSome).symm⟩
  have isSession : ((ran.get isSome).streams 0).session =
      some ⟨some .h264, some (16000, 2),
        [⟨.audio, 40, 40⟩, ⟨.video, 100, 100⟩, ⟨.audio, 70, 100⟩, ⟨.audio, 90, 120⟩]⟩ := rfl
  exact ⟨_, _, reachable, isSession, rfl, sessions_inStep reachable isSession⟩

/-- A second session, in which audio comes first. -/
def restarted : List Call :=
  [opens, .writeVideoFrame 0 100, .deinit, opens, .writeAudioFrame 0 500]

/-- The first audio frame of a second session is moved to the first video frame of
the first. -/
theorem restarted_out_of_step :
    ¬ ∀ (state : State) (id : StreamId) (session : Session),
      system.Reachable System.anyStep state →
      (state.streams id).session = some session → InStep session.sent := by
  intro general
  let ran := system.run .start restarted
  have isSome : ran.isSome := by decide
  have isSession : ((ran.get isSome).streams 0).session =
      some ⟨some .h264, some (16000, 2), [⟨.audio, 500, 100⟩]⟩ := rfl
  have inStep := general (ran.get isSome) 0 _
    (System.reachable_of_run rfl (Option.some_get isSome).symm) isSession
  have unchanged : (100 : Int64) = 500 := inStep [] _ [] rfl rfl
  revert unchanged
  decide

end Rkipc.Rtsp
