import Rkipc.Player.SetFile

namespace Rkipc.Player

open Transition

/-! When a failure of `rk_player_set_file` leaves the player clean. -/

/-- What the opening goes through, once the file's parameters are known: there is a stream, the
pipe is created, and the threads are started. -/
def Opening.Completes (opening : Opening) (video audio : Bool) : Prop :=
  (video = true ∨ audio = true) ∧
    (video = true → opening.vo.fails = false ∧ opening.vdec.fails = false ∧
      opening.bind.fails = false ∧ opening.videoThread = true) ∧
    (audio = true → opening.audio.fails = false ∧ opening.audioThread = true)

/-- The file is there unless the player has none, and if the demuxer can be set up with it, then
the rest works. -/
def Works (config : Config) : Call → Prop
  | .setFile opening =>
      (∀ device, config.player = some device → opening.accessible = false →
        device.ctx.enableVideo = false ∧ device.ctx.enableAudio = false) ∧
      (opening.accessible = true → opening.init = true →
        ∀ video audio, opening.param = some (video, audio) → opening.Completes video audio)
  | _ => True

namespace Device

variable {device : Device}

/-- A player without a file. -/
structure Idle (device : Device) : Prop where
  created : device.AsCreated
  noPipe : device.ctx.mediaIsInit = false

def streamThreads (device : Device) : List (Option Nat) :=
  (if device.ctx.enableAudio then [device.ctx.audioPlayerThreadId] else []) ++
    if device.ctx.enableVideo then [device.ctx.videoPlayerThreadId] else []

/-- A player with a file. -/
structure Loaded (device : Device) : Prop where
  stream : device.ctx.enableVideo = true ∨ device.ctx.enableAudio = true
  hasPipe : device.ctx.mediaIsInit = true
  handle : ∃ handle, device.ctx.demuxerHandle = some handle ∧ device.opened = [handle]
  videoStatus : device.ctx.enableVideo = false ↔ device.ctx.videoStatus = .uninitialized
  audioStatus : device.ctx.enableAudio = false ↔ device.ctx.audioStatus = .uninitialized
  threads : device.running.map some = device.streamThreads
  apart : device.running.Nodup
  media : ∀ component ∈ device.media, device.enabled component = true

structure Sound (device : Device) : Prop where
  joins : device.badJoin = false
  uses : device.closedUse = false
  file : (device.Idle ∧ device.running = []) ∨ device.Loaded

theorem sound_create (eventCb : Bool) : (create eventCb).Sound :=
  ⟨rfl, rfl, .inl ⟨⟨⟨rfl, rfl, rfl, rfl, rfl, rfl⟩, rfl⟩, rfl⟩⟩

/-! The end of a file. -/

theorem handleOpen_of (loaded : device.Loaded) : device.handleOpen = true := by
  obtain ⟨handle, isHandle, opened⟩ := loaded.handle
  simp [handleOpen, isHandle, opened]

theorem useHandle_of (isOpen : device.handleOpen = true) : device.useHandle = device := by
  simp [useHandle, isOpen]

/-- The context that the threads leave behind. -/
def stopped (device : Device) : Device :=
  { device with ctx := { device.ctx with threadRunning := false }, running := [] }

theorem endThreads_idle (idle : device.Idle) (none : device.running = []) :
    device.endThreads = device.stopped := by
  simp [endThreads, joinIf, idle.created.noVideo, idle.created.noAudio, stopped, none]

theorem map_some_one {running : List Nat} {id : Option Nat} (threads : running.map some = [id]) :
    ∃ thread, running = [thread] ∧ id = some thread := by
  obtain ⟨thread, rest, rfl, isId, isNil⟩ := List.map_eq_cons_iff.mp threads
  rw [List.map_eq_nil_iff.mp isNil]
  exact ⟨thread, rfl, isId.symm⟩

theorem endThreads_loaded (loaded : device.Loaded) (joins : device.badJoin = false) :
    device.endThreads = device.stopped := by
  have threads := loaded.threads
  have apart := loaded.apart
  cases video : device.ctx.enableVideo with
  | false =>
      cases audio : device.ctx.enableAudio with
      | false =>
          rcases loaded.stream with isVideo | isAudio
          · exact absurd isVideo (by simp [video])
          · exact absurd isAudio (by simp [audio])
      | true =>
          have one : device.running.map some = [device.ctx.audioPlayerThreadId] := by
            simpa [streamThreads, video, audio] using threads
          obtain ⟨thread, running, id⟩ := map_some_one one
          simp [endThreads, joinIf, join, stopped, video, audio, running, id, joins]
  | true =>
      cases audio : device.ctx.enableAudio with
      | false =>
          have one : device.running.map some = [device.ctx.videoPlayerThreadId] := by
            simpa [streamThreads, video, audio] using threads
          obtain ⟨thread, running, id⟩ := map_some_one one
          simp [endThreads, joinIf, join, stopped, video, audio, running, id, joins]
      | true =>
          have two : device.running.map some =
              [device.ctx.audioPlayerThreadId, device.ctx.videoPlayerThreadId] := by
            simpa [streamThreads, video, audio] using threads
          obtain ⟨first, rest, running, audioId, others⟩ := List.map_eq_cons_iff.mp two
          obtain ⟨second, isRest, videoId⟩ := map_some_one others
          rw [isRest] at running
          rw [running] at apart
          have differ : first ≠ second := by
            intro same
            rw [same] at apart
            exact (List.nodup_cons.mp apart).1 (List.mem_singleton_self _)
          simp [endThreads, joinIf, join, stopped, video, audio, running, ← audioId, videoId,
            joins, differ]

/-- A player without a file, and with no fault so far. -/
structure Empty (device : Device) : Prop where
  joins : device.badJoin = false
  uses : device.closedUse = false
  idle : device.Idle
  noThread : device.running = []

theorem Empty.sound (empty : device.Empty) : device.Sound :=
  ⟨empty.joins, empty.uses, .inl ⟨empty.idle, empty.noThread⟩⟩

theorem destroy_idle (sound : device.Sound) (idle : device.Idle) (none : device.running = []) :
    device.destroy.Empty := by
  have unset := And.intro idle.created.videoUnset idle.created.audioUnset
  have same : device.destroy = device.stopped := by
    rw [destroy, endThreads_idle idle none]
    simp [destroyMediaPipe, removeRecordFile, stopped, idle.noPipe, unset.1, unset.2]
  rw [same]
  obtain ⟨closed, noMedia, noAudio, noVideo, videoUnset, audioUnset⟩ := idle.created
  exact ⟨sound.joins, sound.uses,
    ⟨⟨closed, noMedia, noAudio, noVideo, videoUnset, audioUnset⟩, idle.noPipe⟩, rfl⟩

theorem remove_loaded (joins : device.badJoin = false) (uses : device.closedUse = false)
    (noThread : device.running = []) (hasPipe : device.ctx.mediaIsInit = true)
    (isOpen : ∃ handle, device.ctx.demuxerHandle = some handle ∧ device.opened = [handle])
    (someSet : ¬ (device.ctx.videoStatus = .uninitialized ∧
      device.ctx.audioStatus = .uninitialized))
    (media : ∀ component ∈ device.media, device.enabled component = true) :
    device.destroyMediaPipe.removeRecordFile.Empty := by
  obtain ⟨handle, isHandle, opened⟩ := isOpen
  have gone : device.media.filter (fun component => !device.enabled component) = [] := by
    refine List.filter_eq_nil_iff.mpr ?_
    intro component member
    simp [media component member]
  have pipe : device.destroyMediaPipe =
      { device with ctx := { device.ctx with mediaIsInit := false }, media := [] } := by
    rw [destroyMediaPipe, if_pos hasPipe, gone]
  rw [pipe, removeRecordFile, if_neg someSet]
  refine ⟨joins, ?_, ⟨⟨?_, rfl, rfl, rfl, rfl, rfl⟩, rfl⟩, noThread⟩
  · simp [closeHandle, useHandle, handleOpen, isHandle, opened, uses]
  · simp [closeHandle, useHandle, isHandle, opened]

theorem destroy_loaded (sound : device.Sound) (loaded : device.Loaded) :
    device.destroy.Empty := by
  rw [destroy, endThreads_loaded loaded sound.joins]
  refine remove_loaded sound.joins sound.uses rfl loaded.hasPipe loaded.handle ?_ loaded.media
  rintro ⟨videoUnset, audioUnset⟩
  rcases loaded.stream with video | audio
  · rw [loaded.videoStatus.mpr videoUnset] at video
    cases video
  · rw [loaded.audioStatus.mpr audioUnset] at audio
    cases audio

theorem destroy_empty (sound : device.Sound) : device.destroy.Empty := by
  rcases sound.file with ⟨idle, none⟩ | loaded
  · exact destroy_idle sound idle none
  · exact destroy_loaded sound loaded

/-! A new file. -/

theorem readDuration_empty (empty : device.Empty)
    (durations : Option (Option Int × Option Int)) : (device.readDuration durations).Empty := by
  unfold readDuration
  split_ifs
  · exact empty
  · split
    next => exact empty
    next =>
      obtain ⟨closed, noMedia, noAudio, noVideo, videoUnset, audioUnset⟩ := empty.idle.created
      exact ⟨empty.joins, empty.uses,
        ⟨⟨closed, noMedia, noAudio, noVideo, videoUnset, audioUnset⟩, empty.idle.noPipe⟩,
        empty.noThread⟩

/-- The player behind `set_record_file_unlocked`, when the demuxer is set up. -/
structure Opened (video audio : Bool) (device : Device) : Prop where
  joins : device.badJoin = false
  uses : device.closedUse = false
  isVideo : device.ctx.enableVideo = video
  isAudio : device.ctx.enableAudio = audio
  noPipe : device.ctx.mediaIsInit = false
  handle : ∃ handle, device.ctx.demuxerHandle = some handle ∧ device.opened = [handle]
  videoUnset : device.ctx.videoStatus = .uninitialized
  audioUnset : device.ctx.audioStatus = .uninitialized
  noMedia : device.media = []
  noThread : device.running = []

theorem setRecordFile_empty (empty : device.Empty) (opening : Opening) :
    ((device.setRecordFile opening).1 = true ∧ (device.setRecordFile opening).2.Empty) ∨
      ∃ video audio, opening.init = true ∧ opening.param = some (video, audio) ∧
        (device.setRecordFile opening).1 = false ∧
        (device.setRecordFile opening).2.Opened video audio := by
  obtain ⟨joins, uses, ⟨⟨closed, noMedia, noAudio, noVideo, videoUnset, audioUnset⟩, noPipe⟩,
    noThread⟩ := empty
  have free : device.occupied = false := by simp [occupied, noAudio, noVideo]
  cases init : opening.init with
  | false =>
      refine .inl ⟨by simp [setRecordFile, free, init], ?_⟩
      simp only [setRecordFile, free, init]
      exact ⟨joins, uses, ⟨⟨closed, noMedia, noAudio, noVideo, videoUnset, audioUnset⟩, noPipe⟩,
        noThread⟩
  | true =>
      cases param : opening.param with
      | none =>
          refine .inl ⟨by simp [setRecordFile, free, init, param], ?_⟩
          simp only [setRecordFile, free, init, param]
          refine ⟨joins, ?_, ⟨⟨?_, noMedia, noAudio, noVideo, videoUnset, audioUnset⟩, noPipe⟩,
            noThread⟩
          · simp [closeHandle, useHandle, handleOpen, uses]
          · simp [closeHandle, useHandle, closed]
      | some codecs =>
          obtain ⟨video, audio⟩ := codecs
          refine .inr ⟨video, audio, rfl, rfl, by simp [setRecordFile, free, init, param], ?_⟩
          simp only [setRecordFile, free, init, param]
          exact ⟨joins, uses, rfl, rfl, noPipe, ⟨device.handles, rfl, by simp [closed]⟩,
            videoUnset, audioUnset, noMedia, noThread⟩

theorem createSteps_works {steps : List (Component × Outcome)}
    (works : ∀ step ∈ steps, step.2.fails = false) :
    ∃ media, createSteps steps device = (false, { device with media }) ∧
      ∀ component ∈ media, component ∈ device.media ∨ component ∈ steps.map Prod.fst := by
  induction steps generalizing device with
  | nil => exact ⟨device.media, rfl, fun component member => .inl member⟩
  | cons step rest induction =>
      obtain ⟨component, outcome⟩ := step
      obtain ⟨stepWorks, restWork⟩ := List.forall_mem_cons.mp works
      have goesOn : outcome.fails = false := stepWorks
      cases made : outcome.made with
      | false =>
          obtain ⟨media, result, inSteps⟩ := @induction device restWork
          refine ⟨media, by simp [createSteps, made, goesOn, result], ?_⟩
          intro found member
          rcases inSteps found member with before | inRest
          · exact .inl before
          · exact .inr (List.mem_cons_of_mem _ inRest)
      | true =>
          obtain ⟨media, result, inSteps⟩ :=
            @induction { device with media := component :: device.media } restWork
          refine ⟨media, by simp [createSteps, made, goesOn, result], ?_⟩
          intro found member
          rcases inSteps found member with before | inRest
          · rcases List.mem_cons.mp before with isNew | before
            · exact .inr (List.mem_cons.mpr (.inl isNew))
            · exact .inl before
          · exact .inr (List.mem_cons_of_mem _ inRest)

/-- The player is set up, and only the threads are missing. -/
structure Piped (video audio : Bool) (device : Device) : Prop where
  joins : device.badJoin = false
  uses : device.closedUse = false
  isVideo : device.ctx.enableVideo = video
  isAudio : device.ctx.enableAudio = audio
  hasPipe : device.ctx.mediaIsInit = true
  handle : ∃ handle, device.ctx.demuxerHandle = some handle ∧ device.opened = [handle]
  videoUnset : device.ctx.videoStatus = .uninitialized
  audioUnset : device.ctx.audioStatus = .uninitialized
  noThread : device.running = []
  media : ∀ component ∈ device.media, device.enabled component = true

theorem enabled_of_mem_pipeSteps {opening : Opening} {step : Component × Outcome}
    (member : step ∈ device.pipeSteps opening) : device.enabled step.1 = true := by
  rcases List.mem_append.mp member with ofVideo | ofAudio
  case inl =>
    split at ofVideo
    case isTrue isVideo =>
      simp only [List.mem_cons, List.not_mem_nil, or_false] at ofVideo
      rcases ofVideo with rfl | rfl | rfl <;> exact isVideo
    case isFalse => cases ofVideo
  case inr =>
    split at ofAudio
    case isTrue isAudio =>
      rw [List.mem_singleton.mp ofAudio]
      exact isAudio
    case isFalse => cases ofAudio

theorem createMediaPipe_works {video audio : Bool} (opened : device.Opened video audio)
    {opening : Opening} (completes : opening.Completes video audio) :
    (device.createMediaPipe opening).1 = false ∧
      (device.createMediaPipe opening).2.Piped video audio := by
  obtain ⟨_, videoWorks, audioWorks⟩ := completes
  have works : ∀ step ∈ device.pipeSteps opening, step.2.fails = false := by
    intro step member
    simp only [pipeSteps, opened.isVideo, opened.isAudio] at member
    rcases List.mem_append.mp member with ofVideo | ofAudio
    · cases isVideo : video with
      | false => simp [isVideo] at ofVideo
      | true =>
          obtain ⟨vo, vdec, bind, _⟩ := videoWorks isVideo
          simp only [isVideo, if_true, List.mem_cons, List.not_mem_nil, or_false] at ofVideo
          rcases ofVideo with rfl | rfl | rfl
          · exact vo
          · exact vdec
          · exact bind
    · cases isAudio : audio with
      | false => simp [isAudio] at ofAudio
      | true =>
          simp only [isAudio, if_true, List.mem_singleton] at ofAudio
          rw [ofAudio]
          exact (audioWorks isAudio).1
  obtain ⟨media, result, inSteps⟩ := @createSteps_works device _ works
  have created : device.createMediaPipe opening =
      (false, { device with ctx := { device.ctx with mediaIsInit := true }, media }) := by
    simp [createMediaPipe, opened.noPipe, result]
  have inPipe : ∀ component ∈ media, device.enabled component = true := by
    intro component member
    rcases inSteps component member with before | inPipe
    · rw [opened.noMedia] at before
      cases before
    · obtain ⟨step, isStep, rfl⟩ := List.mem_map.mp inPipe
      exact enabled_of_mem_pipeSteps isStep
  rw [created]
  exact ⟨rfl, opened.joins, opened.uses, opened.isVideo, opened.isAudio, rfl, opened.handle,
    opened.videoUnset, opened.audioUnset, opened.noThread, inPipe⟩

theorem startVideo_off (off : device.ctx.enableVideo = false) (created : Bool) :
    device.startVideo created = device := by
  simp [startVideo, off]

theorem startVideo_on (on : device.ctx.enableVideo = true) :
    device.startVideo true =
      { device with
        ctx := { device.ctx with
          videoStatus := .pause, threadRunning := true
          videoPlayerThreadId := some device.threads }
        running := device.threads :: device.running
        threads := device.threads + 1 } := by
  simp [startVideo, on]

theorem startAudio_off (off : device.ctx.enableAudio = false) (created : Bool) :
    device.startAudio created = device := by
  simp [startAudio, off]

theorem startAudio_on (on : device.ctx.enableAudio = true) :
    device.startAudio true =
      { device with
        ctx := { device.ctx with
          audioStatus := .pause, threadRunning := true
          audioPlayerThreadId := some device.threads }
        running := device.threads :: device.running
        threads := device.threads + 1 } := by
  simp [startAudio, on]

theorem start_loaded {video audio : Bool} (piped : device.Piped video audio) {opening : Opening}
    (completes : opening.Completes video audio) :
    ((device.startVideo opening.videoThread).startAudio opening.audioThread).Sound := by
  obtain ⟨joins, uses, isVideo, isAudio, hasPipe, handle, videoUnset, audioUnset, noThread,
    media⟩ := piped
  obtain ⟨stream, videoWorks, audioWorks⟩ := completes
  cases video with
  | false =>
      cases audio with
      | false => simp at stream
      | true =>
          rw [startVideo_off isVideo, (audioWorks rfl).2, startAudio_on isAudio]
          refine ⟨joins, uses, .inr ⟨.inr isAudio, hasPipe, handle, ?_, ?_, ?_, ?_, media⟩⟩
          · exact iff_of_true isVideo videoUnset
          · simp [isAudio]
          · simp [streamThreads, isVideo, isAudio, noThread]
          · simp [noThread]
  | true =>
      obtain ⟨_, _, _, videoThread⟩ := videoWorks rfl
      cases audio with
      | false =>
          rw [videoThread, startVideo_on isVideo, startAudio_off]
          · refine ⟨joins, uses, .inr ⟨.inl isVideo, hasPipe, handle, ?_, ?_, ?_, ?_, media⟩⟩
            · simp [isVideo]
            · exact iff_of_true isAudio audioUnset
            · simp [streamThreads, isVideo, isAudio, noThread]
            · simp [noThread]
          · exact isAudio
      | true =>
          rw [videoThread, startVideo_on isVideo, (audioWorks rfl).2, startAudio_on]
          · refine ⟨joins, uses, .inr ⟨.inl isVideo, hasPipe, handle, ?_, ?_, ?_, ?_, media⟩⟩
            · simp [isVideo]
            · simp [isAudio]
            · simp [streamThreads, isVideo, isAudio, noThread]
            · simp [noThread]
          · exact isAudio

/-! The calls that leave the file alone. -/

/-- The two contexts have the same file, and the same statuses are `UNINITIALIZED`. -/
structure SameFile (before after : PlayerCtx) : Prop where
  enableVideo : after.enableVideo = before.enableVideo
  enableAudio : after.enableAudio = before.enableAudio
  mediaIsInit : after.mediaIsInit = before.mediaIsInit
  demuxerHandle : after.demuxerHandle = before.demuxerHandle
  videoThread : after.videoPlayerThreadId = before.videoPlayerThreadId
  audioThread : after.audioPlayerThreadId = before.audioPlayerThreadId
  video : after.videoStatus = .uninitialized ↔ before.videoStatus = .uninitialized
  audio : after.audioStatus = .uninitialized ↔ before.audioStatus = .uninitialized

theorem Idle.withCtx (idle : device.Idle) {ctx : PlayerCtx} (same : SameFile device.ctx ctx) :
    ({ device with ctx } : Device).Idle := by
  obtain ⟨⟨closed, noMedia, noAudio, noVideo, videoUnset, audioUnset⟩, noPipe⟩ := idle
  exact ⟨⟨closed, noMedia, same.enableAudio.trans noAudio, same.enableVideo.trans noVideo,
    same.video.mpr videoUnset, same.audio.mpr audioUnset⟩, same.mediaIsInit.trans noPipe⟩

theorem Loaded.withCtx (loaded : device.Loaded) {ctx : PlayerCtx}
    (same : SameFile device.ctx ctx) : ({ device with ctx } : Device).Loaded := by
  obtain ⟨stream, hasPipe, handle, videoStatus, audioStatus, threads, apart, media⟩ := loaded
  obtain ⟨enableVideo, enableAudio, mediaIsInit, demuxerHandle, videoThread, audioThread, video,
    audio⟩ := same
  refine ⟨?_, mediaIsInit.trans hasPipe, ?_, ?_, ?_, ?_, apart, ?_⟩
  · simpa only [enableVideo, enableAudio] using stream
  · simpa only [demuxerHandle] using handle
  · simpa only [enableVideo, video] using videoStatus
  · simpa only [enableAudio, audio] using audioStatus
  · simpa only [streamThreads, enableVideo, enableAudio, videoThread, audioThread] using threads
  · simpa only [enabled, enableVideo, enableAudio] using media

theorem Sound.withCtx (sound : device.Sound) {ctx : PlayerCtx} (same : SameFile device.ctx ctx) :
    ({ device with ctx } : Device).Sound := by
  refine ⟨sound.joins, sound.uses, ?_⟩
  rcases sound.file with ⟨idle, none⟩ | loaded
  · exact .inl ⟨idle.withCtx same, none⟩
  · exact .inr (loaded.withCtx same)

theorem sameFile_control (ctx : PlayerCtx) (control : Control) :
    SameFile ctx (ctx.control control).2 := by
  obtain ⟨video, audio, result, videoUnset, audioUnset⟩ := ctx.control_statuses control
  rw [result]
  exact ⟨rfl, rfl, rfl, rfl, rfl, rfl, videoUnset, audioUnset⟩

theorem uses_idle (idle : device.Idle) (control : Control) : device.uses control = false := by
  cases control <;> simp [uses, idle.created.noVideo, idle.created.noAudio]

theorem sound_control (sound : device.Sound) (control : Control) :
    (device.control control).Sound := by
  have unused : (if device.uses control then device.useHandle else device) = device := by
    rcases sound.file with ⟨idle, _⟩ | loaded
    · rw [uses_idle idle]
      exact if_neg Bool.false_ne_true
    · rw [useHandle_of (handleOpen_of loaded), ite_self]
  rw [Device.control, unused]
  exact sound.withCtx (sameFile_control device.ctx control)

theorem plays_loaded (sound : device.Sound) {loop : Loop} (plays : device.plays loop = true) :
    device.Loaded := by
  rcases sound.file with ⟨_, noThread⟩ | loaded
  · cases loop <;> simp [Device.plays, noThread] at plays
  · exact loaded

theorem sound_read (sound : device.Sound) {loop : Loop} (plays : device.plays loop = true)
    (result : Option Packet) : (device.read loop result).Sound := by
  have loaded := plays_loaded sound plays
  have unused := useHandle_of (handleOpen_of loaded)
  cases loop with
  | video =>
      have isRunning : device.ctx.videoStatus = .running := by
        simp only [Device.plays, Bool.and_eq_true, decide_eq_true_eq] at plays
        exact plays.2
      have unset : ∀ status, status ≠ PlayerStatus.uninitialized →
          (status = .uninitialized ↔ device.ctx.videoStatus = .uninitialized) := by
        intro status isSet
        rw [isRunning]
        exact iff_of_false isSet PlayerStatus.noConfusion
      cases result with
      | none =>
          simp only [Device.read, unused]
          exact sound.withCtx ⟨rfl, rfl, rfl, rfl, rfl, rfl, unset _ PlayerStatus.noConfusion,
            Iff.rfl⟩
      | some packet =>
          simp only [Device.read, unused]
          refine sound.withCtx ?_
          unfold PlayerCtx.videoGot
          split_ifs
          · exact ⟨rfl, rfl, rfl, rfl, rfl, rfl, unset _ PlayerStatus.noConfusion, Iff.rfl⟩
          · exact ⟨rfl, rfl, rfl, rfl, rfl, rfl, Iff.rfl, Iff.rfl⟩
  | audio =>
      have isRunning : device.ctx.audioStatus = .running := by
        simp only [Device.plays, Bool.and_eq_true, decide_eq_true_eq] at plays
        exact plays.2
      have unset : ∀ status, status ≠ PlayerStatus.uninitialized →
          (status = .uninitialized ↔ device.ctx.audioStatus = .uninitialized) := by
        intro status isSet
        rw [isRunning]
        exact iff_of_false isSet PlayerStatus.noConfusion
      cases result with
      | none =>
          simp only [Device.read, unused]
          exact sound.withCtx ⟨rfl, rfl, rfl, rfl, rfl, rfl, Iff.rfl,
            unset _ PlayerStatus.noConfusion⟩
      | some packet =>
          simp only [Device.read, unused]
          refine sound.withCtx ?_
          unfold PlayerCtx.audioGot
          split_ifs
          · exact ⟨rfl, rfl, rfl, rfl, rfl, rfl, Iff.rfl, unset _ PlayerStatus.noConfusion⟩
          · exact ⟨rfl, rfl, rfl, rfl, rfl, rfl, Iff.rfl, Iff.rfl⟩

/-- What `Works` says of a file that is there. -/
def Openable (opening : Opening) : Prop :=
  opening.init = true → ∀ video audio, opening.param = some (video, audio) →
    opening.Completes video audio

/-- A call with a file that is there leaves the player with that file, or fails and leaves it
as it was created. -/
theorem setFile_accessible (sound : device.Sound) {opening : Opening}
    (accessible : opening.accessible = true) (openable : Openable opening) :
    ((device.setFile opening).1 = true ∧ (device.setFile opening).2.Empty) ∨
      ((device.setFile opening).1 = false ∧ (device.setFile opening).2.Sound) := by
  have removed := readDuration_empty (destroy_empty sound) opening.durations
  unfold destroy at removed
  simp only [setFile, if_pos accessible]
  rcases setRecordFile_empty removed opening with
    ⟨fails, empty⟩ | ⟨video, audio, init, param, works, opened⟩
  · simp only [fails, if_true]
    exact .inl ⟨trivial, empty⟩
  · have completes := openable init video audio param
    obtain ⟨created, piped⟩ := createMediaPipe_works opened completes
    simp only [works, created]
    exact .inr ⟨rfl, start_loaded piped completes⟩

end Device

/-! Runs. -/

structure Config.Sound (config : Config) : Prop where
  joins : config.badJoin = false
  uses : config.closedUse = false
  player : ∀ device, config.player = some device → device.Sound
  failed : config.setFileFailed = true → ∀ device, config.player = some device →
    device.AsCreated

theorem Config.Sound.clean {config : Config} (sound : config.Sound) : config.Clean :=
  ⟨sound.joins, sound.uses, sound.failed⟩

theorem sound_leaving {config : Config} (sound : config.Sound) {device : Device}
    (isSound : device.Sound) (kept : Bool) {failed : Bool}
    (asCreated : failed = true → device.AsCreated) :
    (config.leaving device kept failed).Sound := by
  refine ⟨?_, ?_, ?_, ?_⟩
  · simp [Config.leaving, sound.joins, isSound.joins]
  · simp [Config.leaving, sound.uses, isSound.uses]
  · intro left isLeft
    cases kept with
    | false => cases isLeft
    | true =>
        cases isLeft
        exact isSound
  · intro hasFailed left isLeft
    cases kept with
    | false => cases isLeft
    | true =>
        cases isLeft
        exact asCreated hasFailed

theorem sound_setFile {config : Config} (sound : config.Sound) {device : Device}
    (isPlayer : config.player = some device) {opening : Opening}
    (works : Works config (.setFile opening)) :
    (config.leaving (device.setFile opening).2 true (device.setFile opening).1).Sound := by
  have isSound := sound.player device isPlayer
  cases accessible : opening.accessible with
  | true =>
      rcases Device.setFile_accessible isSound accessible (works.2 accessible) with
        ⟨_, empty⟩ | ⟨works, loaded⟩
      · exact sound_leaving sound empty.sound true fun _ => empty.idle.created
      · refine sound_leaving sound loaded true fun fails => ?_
        rw [works] at fails
        cases fails
  | false =>
      obtain ⟨noVideo, noAudio⟩ := works.1 device isPlayer accessible
      have same : device.setFile opening = (true, device) := by
        simp [Device.setFile, accessible]
      rw [same]
      refine sound_leaving sound isSound true fun _ => ?_
      rcases isSound.file with ⟨idle, _⟩ | loaded
      · exact idle.created
      · rcases loaded.stream with video | audio
        · rw [noVideo] at video
          cases video
        · rw [noAudio] at audio
          cases audio

theorem sound_step (config : Config) (call : Call) (next : Config) (sound : config.Sound)
    (works : Works config call) (stepped : config.step call = some next) : next.Sound := by
  have unchanged : config.player = none → ∀ failed,
      ({ config with setFileFailed := failed } : Config).Sound := by
    intro isNone failed
    refine ⟨sound.joins, sound.uses, sound.player, fun _ device isPlayer => ?_⟩
    rw [show config.player = some device from isPlayer] at isNone
    cases isNone
  cases call with
  | create eventCb =>
      cases stepped
      exact sound_leaving sound (Device.sound_create eventCb) true fun fails => by cases fails
  | setFile opening =>
      cases player : config.player with
      | none =>
          simp only [Config.step, player] at stepped
          cases stepped
          have kept := unchanged player true
          rwa [player] at kept
      | some device =>
          simp only [Config.step, player] at stepped
          cases stepped
          exact sound_setFile sound player works
  | control control =>
      cases player : config.player with
      | none =>
          simp only [Config.step, player] at stepped
          cases stepped
          have kept := unchanged player false
          rwa [player] at kept
      | some device =>
          simp only [Config.step, player] at stepped
          cases stepped
          exact sound_leaving sound (Device.sound_control (sound.player device player) control) true
            fun fails => by cases fails
  | destroy =>
      cases player : config.player with
      | none =>
          simp only [Config.step, player] at stepped
          cases stepped
          have kept := unchanged player false
          rwa [player] at kept
      | some device =>
          simp only [Config.step, player] at stepped
          cases stepped
          exact sound_leaving sound (Device.destroy_empty (sound.player device player)).sound false
            fun fails => by cases fails
  | read loop result =>
      cases player : config.player with
      | none => simp [Config.step, player] at stepped
      | some device =>
          simp only [Config.step, player] at stepped
          obtain ⟨plays, isNext⟩ := Option.ite_none_right_eq_some.mp stepped
          cases isNext
          have isSound := sound.player device player
          refine sound_leaving sound (Device.sound_read isSound plays result) true fun fails => ?_
          -- A player whose threads run has a file.
          have created := sound.failed fails device player
          rcases (Device.plays_loaded isSound plays).stream with video | audio
          · rw [created.noVideo] at video
            cases video
          · rw [created.noAudio] at audio
            cases audio

theorem clean_failure {config : Config} (reachable : players.Reachable Works config) :
    config.Clean := by
  refine (System.Reachable.invariant ?_ sound_step reachable).clean
  rintro first rfl
  exact ⟨rfl, rfl, (fun _ isPlayer => by cases isPlayer), fun fails => by cases fails⟩

def works (_ : Config) : Call → Bool
  | .setFile opening =>
      opening.accessible &&
        (!opening.init ||
          match opening.param with
          | none => true
          | some (video, audio) =>
              (video || audio) &&
                (!video || !opening.vo.fails && !opening.vdec.fails && !opening.bind.fails &&
                  opening.videoThread) &&
                (!audio || !opening.audio.fails && opening.audioThread))
  | _ => true

theorem works_Works (config : Config) (call : Call) (checked : works config call = true) :
    Works config call := by
  cases call with
  | setFile opening =>
      simp only [works, Bool.and_eq_true] at checked
      obtain ⟨accessible, rest⟩ := checked
      refine ⟨?_, ?_⟩
      · intro device _ notAccessible
        rw [accessible] at notAccessible
        cases notAccessible
      · intro _ init video audio param
        simp only [init, param, Bool.not_true, Bool.false_or, Bool.and_eq_true, Bool.or_eq_true,
          Bool.not_eq_true'] at rest
        obtain ⟨⟨stream, ofVideo⟩, ofAudio⟩ := rest
        refine ⟨stream, ?_, ?_⟩
        · intro isVideo
          rcases ofVideo with noVideo | ⟨⟨⟨vo, vdec⟩, bind⟩, thread⟩
          · rw [isVideo] at noVideo
            cases noVideo
          · exact ⟨vo, vdec, bind, thread⟩
        · intro isAudio
          rcases ofAudio with noAudio | ⟨audio, thread⟩
          · rw [isAudio] at noAudio
            cases noAudio
          · exact ⟨audio, thread⟩
  | _ => exact trivial

/-- A file with both streams, all of whose steps work. -/
def goodFile : Opening :=
  ⟨true, some (some 9000, some 9000), true, some (true, true), 25, ⟨false, true⟩, ⟨false, true⟩,
    ⟨false, true⟩, ⟨false, true⟩, true, true⟩

theorem clean_failure_afterFile : ∃ config, players.Reachable Works config ∧
    config.setFileFailed = true ∧ config.Clean := by
  let ran := players.guardedRun works ⟨none, false, false, false⟩
    [.create true, .setFile goodFile, .control .play, .read .video none,
      .setFile { goodFile with param := none }]
  have ends : ran.map Config.setFileFailed = some true := by decide
  obtain ⟨config, reached, failed⟩ := Option.map_eq_some_iff.mp ends
  have reachable : players.Reachable Works config :=
    ⟨_, rfl, System.reaches_of_guardedRun works_Works _ reached⟩
  exact ⟨config, reachable, failed, clean_failure reachable⟩

/-- The display cannot be set up: the demuxer stays open, and the next file joins threads that
were never started. -/
theorem failure_not_clean : ∃ config, players.Reachable System.anyStep config ∧
    ¬ config.Clean := by
  let ran := players.run ⟨none, false, false, false⟩
    [.create true, .setFile { goodFile with vo := ⟨true, false⟩ }, .setFile goodFile]
  have ends : ran.map Config.badJoin = some true := by decide
  obtain ⟨config, reached, joined⟩ := Option.map_eq_some_iff.mp ends
  refine ⟨config, System.reachable_of_run rfl reached, fun clean => ?_⟩
  rw [clean.joins] at joined
  cases joined

end Rkipc.Player
