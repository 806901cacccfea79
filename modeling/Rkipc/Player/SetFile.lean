import Rkipc.Player.Loops

namespace Rkipc.Player

open Transition

/-! `rk_player_set_file` and `rk_player_destroy`, with what they open, create and start. -/

inductive Component
  | vo
  | vdec
  | bind
  | audio
deriving DecidableEq

def Component.ofVideo : Component → Bool
  | .vo => true
  | .vdec => true
  | .bind => true
  | .audio => false

/-- A step of `create_media_pipe_unlocked`: what it returns, and whether something of the
component is there afterwards. -/
structure Outcome where
  fails : Bool
  made : Bool
deriving DecidableEq

/-- What happens in a call of `rk_player_set_file`.  `accessible` are its checks of the pointers
and `access`, `durations` is what `read_duration_unlocked` finds, and `param` is the result of
`rkdemuxer_get_param`, with whether there is a codec for the video and for the audio. -/
structure Opening where
  accessible : Bool
  durations : Option (Option Int × Option Int)
  init : Bool
  param : Option (Bool × Bool)
  fps : Nat
  vo : Outcome
  vdec : Outcome
  bind : Outcome
  audio : Outcome
  videoThread : Bool
  audioThread : Bool
deriving DecidableEq

/-- The player with what is open, created and running on its behalf.  Handles and threads are
numbered in the order in which they are made.  `badJoin` and `closedUse` are set by a join of
what is not a thread to be joined, and by a use of a handle that is not open. -/
structure Device where
  ctx : PlayerCtx
  opened : List Nat
  handles : Nat
  running : List Nat
  threads : Nat
  media : List Component
  badJoin : Bool
  closedUse : Bool
deriving DecidableEq

namespace Device

def create (eventCb : Bool) : Device :=
  ⟨PlayerCtx.fresh eventCb, [], 0, [], 0, [], false, false⟩

variable (device : Device)

def handleOpen : Bool := device.ctx.demuxerHandle.any fun handle => handle ∈ device.opened

def useHandle : Device := { device with closedUse := device.closedUse || !device.handleOpen }

def join (id : Option Nat) : Device :=
  { device with
    running := device.running.filter fun thread => some thread ≠ id
    badJoin := device.badJoin || !id.any fun thread => thread ∈ device.running }

def joinIf (enabled : Bool) (id : Option Nat) : Device :=
  if enabled then device.join id else device

/-- The end of the threads, before the mutex is taken. -/
def endThreads : Device :=
  let stopped := { device with ctx := { device.ctx with threadRunning := false } }
  (stopped.joinIf device.ctx.enableVideo device.ctx.videoPlayerThreadId).joinIf
    device.ctx.enableAudio device.ctx.audioPlayerThreadId

def enabled (component : Component) : Bool :=
  if component.ofVideo then device.ctx.enableVideo else device.ctx.enableAudio

def destroyMediaPipe : Device :=
  if device.ctx.mediaIsInit then
    { device with
      ctx := { device.ctx with mediaIsInit := false }
      media := device.media.filter fun component => !device.enabled component }
  else device

/-- `rkdemuxer_deinit` -/
def closeHandle : Device :=
  { device.useHandle with
    ctx := { device.ctx with demuxerHandle := none }
    opened := device.opened.filter fun handle => some handle ≠ device.ctx.demuxerHandle }

def removeRecordFile : Device :=
  if device.ctx.videoStatus = .uninitialized ∧ device.ctx.audioStatus = .uninitialized then device
  else
    let closed := device.closeHandle
    { closed with
      ctx :=
        { closed.ctx with
          videoTotalDuraion := 0, audioTotalDuraion := 0
          videoStatus := .uninitialized, audioStatus := .uninitialized
          enableAudio := false, enableVideo := false } }

def occupied : Bool :=
  (device.ctx.audioStatus ≠ .uninitialized && device.ctx.enableAudio) ||
    (device.ctx.videoStatus ≠ .uninitialized && device.ctx.enableVideo)

/-- `read_duration_unlocked`, which opens and closes a handle of its own. -/
def readDuration (durations : Option (Option Int × Option Int)) : Device :=
  if device.occupied then device
  else
    match durations with
    | none => device
    | some (video, audio) =>
        { device with
          ctx :=
            { device.ctx with
              videoTotalDuraion := video.getD device.ctx.videoTotalDuraion
              audioTotalDuraion := audio.getD device.ctx.audioTotalDuraion } }

/-- `set_record_file_unlocked`, and whether it fails. -/
def setRecordFile (opening : Opening) : Bool × Device :=
  if device.occupied then (true, device)
  else if opening.init = false then (true, device)
  else
    let begun :=
      { device with
        ctx := { device.ctx with demuxerHandle := some device.handles }
        opened := device.handles :: device.opened
        handles := device.handles + 1 }
    match opening.param with
    | none => (true, begun.closeHandle)
    | some (video, audio) =>
        (false, { begun with
          ctx := { begun.ctx with
            fps := opening.fps
            enableAudio := audio
            enableVideo := video } })

/-- The steps of `create_media_pipe_unlocked`, up to the first one that fails. -/
def createSteps : List (Component × Outcome) → Device → Bool × Device
  | [], device => (false, device)
  | (component, outcome) :: rest, device =>
      let device :=
        if outcome.made then { device with media := component :: device.media } else device
      if outcome.fails then (true, device) else createSteps rest device

def pipeSteps (opening : Opening) : List (Component × Outcome) :=
  (if device.ctx.enableVideo then
    [(.vo, opening.vo), (.vdec, opening.vdec), (.bind, opening.bind)] else []) ++
  if device.ctx.enableAudio then [(.audio, opening.audio)] else []

/-- `create_media_pipe_unlocked`, and whether it fails. -/
def createMediaPipe (opening : Opening) : Bool × Device :=
  if device.ctx.mediaIsInit then (false, device)
  else
    let (fails, created) := createSteps (device.pipeSteps opening) device
    if fails then (true, created)
    else (false, { created with ctx := { created.ctx with mediaIsInit := true } })

/-- The thread of the video, whose creation is not checked. -/
def startVideo (created : Bool) : Device :=
  if device.ctx.enableVideo then
    let set := { device.ctx with videoStatus := .pause, threadRunning := true }
    if created then
      { device with
        ctx := { set with videoPlayerThreadId := some device.threads }
        running := device.threads :: device.running
        threads := device.threads + 1 }
    else { device with ctx := set }
  else device

def startAudio (created : Bool) : Device :=
  if device.ctx.enableAudio then
    let set := { device.ctx with audioStatus := .pause, threadRunning := true }
    if created then
      { device with
        ctx := { set with audioPlayerThreadId := some device.threads }
        running := device.threads :: device.running
        threads := device.threads + 1 }
    else { device with ctx := set }
  else device

/-- `rk_player_set_file`, and whether it fails. -/
def setFile (opening : Opening) : Bool × Device :=
  if opening.accessible then
    let removed := device.endThreads.destroyMediaPipe.removeRecordFile
    let (fails, set) := (removed.readDuration opening.durations).setRecordFile opening
    if fails then (true, set)
    else
      let (fails, created) := set.createMediaPipe opening
      if fails then (true, created)
      else (false, (created.startVideo opening.videoThread).startAudio opening.audioThread)
  else (true, device)

/-- `rk_player_destroy`, up to the release of the context. -/
def destroy : Device := device.endThreads.destroyMediaPipe.removeRecordFile

def uses : Control → Bool
  | .play => false
  | .pause => false
  | .stop _ _ => device.ctx.enableVideo || device.ctx.enableAudio
  | .videoSeek timeMs _ =>
      !device.ctx.beyond timeMs && device.ctx.enableVideo &&
        device.ctx.videoStatus ≠ .uninitialized
  | .audioSeek timeMs _ =>
      !device.ctx.beyond timeMs && device.ctx.enableAudio &&
        device.ctx.audioStatus ≠ .uninitialized

def control (control : Control) : Device :=
  let used := if device.uses control then device.useHandle else device
  { used with ctx := (device.ctx.control control).2 }

/-- A thread of the loop is running, and its status is `RUNNING`. -/
def plays : Loop → Bool
  | .video =>
      (device.ctx.videoPlayerThreadId.any fun thread => thread ∈ device.running) &&
        device.ctx.threadRunning && device.ctx.videoStatus = .running
  | .audio =>
      (device.ctx.audioPlayerThreadId.any fun thread => thread ∈ device.running) &&
        device.ctx.threadRunning && device.ctx.audioStatus = .running

/-- The critical section of a loop. -/
def read (loop : Loop) (result : Option Packet) : Device :=
  let used := device.useHandle
  match loop, result with
  | .video, none => { used with ctx := { used.ctx with videoStatus := .pause } }
  | .video, some packet => { used with ctx := used.ctx.videoGot packet }
  | .audio, none => { used with ctx := { used.ctx with audioStatus := .pause } }
  | .audio, some packet => { used with ctx := used.ctx.audioGot packet }

end Device

/-- A configuration with its player, the faults of the calls made with it, and whether the last
call was one of `rk_player_set_file` that failed. -/
structure Config where
  player : Option Device
  badJoin : Bool
  closedUse : Bool
  setFileFailed : Bool
deriving DecidableEq

inductive Call
  | create (eventCb : Bool)
  | setFile (opening : Opening)
  | control (control : Control)
  | destroy
  | read (loop : Loop) (result : Option Packet)
deriving DecidableEq

namespace Config

variable (config : Config)

/-- The end of a call that leaves the player in this state. -/
def leaving (device : Device) (kept : Bool) (failed : Bool) : Config :=
  ⟨if kept then some device else none, config.badJoin || device.badJoin,
    config.closedUse || device.closedUse, failed⟩

/-- The calls, and the rounds of the loops.  Without a player, the calls return at once. -/
def step (call : Call) : Option Config :=
  match call, config.player with
  | .create eventCb, _ => some (config.leaving (Device.create eventCb) true false)
  | .read loop result, some device =>
      if device.plays loop then
        some (config.leaving (device.read loop result) true config.setFileFailed)
      else none
  | .read _ _, none => none
  | .setFile opening, some device =>
      let (fails, set) := device.setFile opening
      some (config.leaving set true fails)
  | .setFile _, none => some { config with setFileFailed := true }
  | .control control, some device => some (config.leaving (device.control control) true false)
  | .control _, none => some { config with setFileFailed := false }
  | .destroy, some device => some (config.leaving device.destroy false false)
  | .destroy, none => some { config with setFileFailed := false }

end Config

def players : System Config Call where
  initial config := config = ⟨none, false, false, false⟩
  step := Config.step

/-- The player is as after `rk_player_create`. -/
structure Device.AsCreated (device : Device) : Prop where
  closed : device.opened = []
  noMedia : device.media = []
  noAudio : device.ctx.enableAudio = false
  noVideo : device.ctx.enableVideo = false
  videoUnset : device.ctx.videoStatus = .uninitialized
  audioUnset : device.ctx.audioStatus = .uninitialized

/-- No call has joined what is not a thread to be joined or used a handle that is not open, and
if the last call was one of `rk_player_set_file` that failed, the player is as created. -/
structure Config.Clean (config : Config) : Prop where
  joins : config.badJoin = false
  uses : config.closedUse = false
  failed : config.setFileFailed = true → ∀ device, config.player = some device → device.AsCreated

end Rkipc.Player
