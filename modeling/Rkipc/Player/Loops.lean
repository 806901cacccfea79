import Rkipc.Player.Context
import Rkipc.Transition.System

namespace Rkipc.Player

open Transition

/-! `video_player_loop` and `audio_player_loop`, next to each other and to the calls. -/

/-- What the loops look at of a `DemuxerPacket`. -/
structure Packet where
  eofFlag : Bool
  size : Int
  pts : Int
deriving DecidableEq

structure Timespec where
  sec : Int
  nsec : Int
deriving DecidableEq

def Timespec.micros (time : Timespec) : Int := time.sec * 1000000 + time.nsec.tdiv 1000

/-- `cost_time`, an unsigned number of 64 bits. -/
def costTime (startTime endTime : Timespec) : Nat :=
  ((endTime.micros - startTime.micros) % 2 ^ 64).toNat

/-- What a round of a loop has read, where `none` is a failed read, and the callbacks that it
has made, each with whether the thread held the mutex. -/
structure Round where
  result : Option Packet
  reports : List (PlayerEvent × Bool)
deriving DecidableEq

inductive VideoPhase
  | entering
  | top
  | locking (startTime : Timespec)
  | reading (startTime : Timespec)
  | unlocking (startTime : Timespec) (round : Round)
  | finishing (startTime : Timespec) (round : Round)
  | ended
deriving DecidableEq

inductive AudioPhase
  | top
  | locking
  | reading
  | unlocking (round : Round)
  | finishing (round : Round)
  | ended
deriving DecidableEq

inductive Loop
  | video
  | audio
deriving DecidableEq

structure State where
  ctx : PlayerCtx
  mutex : Option Loop
  video : VideoPhase
  audio : AudioPhase
  videoRounds : List Round
  audioRounds : List Round
deriving DecidableEq

/-- The player after `rk_player_set_file`, with a thread for each of the two streams. -/
def started (ctx : PlayerCtx) : State :=
  { ctx, mutex := none, video := if ctx.enableVideo then .entering else .ended
    audio := if ctx.enableAudio then .top else .ended, videoRounds := [], audioRounds := [] }

/-- `look` is the condition of the loop with the `switch`; `finish` is what follows the critical
section.  `threadsEnd` is the assignment with which `rk_player_set_file` and
`rk_player_destroy` end the threads. -/
inductive Label
  | videoEnter
  | videoLook (startTime : Timespec)
  | videoLock
  | videoRead (result : Option Packet)
  | videoUnlock
  | videoFinish (endTime : Timespec)
  | audioLook
  | audioLock
  | audioRead (result : Option Packet)
  | audioUnlock
  | audioFinish
  | control (control : Control)
  | threadsEnd
deriving DecidableEq

/-- The branches of the video loop on the end of the stream. -/
def PlayerCtx.videoGot (ctx : PlayerCtx) (packet : Packet) : PlayerCtx :=
  if packet.eofFlag then { ctx with videoCurrentPts := 0, videoStatus := .pause }
  else { ctx with videoCurrentPts := packet.pts }

/-- The branches of the audio loop on the end of the stream. -/
def PlayerCtx.audioGot (ctx : PlayerCtx) (packet : Packet) : PlayerCtx :=
  if packet.eofFlag && packet.size = 0 then
    { ctx with audioCurrentPts := 0, audioStatus := .pause }
  else { ctx with audioCurrentPts := packet.pts }

namespace State

variable (frameInterval : Nat → Nat) (state : State)

def videoEnter : State :=
  { state with video := if state.ctx.fps = 0 then .ended else .top }

def videoLook (startTime : Timespec) : State :=
  if state.ctx.threadRunning then
    match state.ctx.videoStatus with
    | .uninitialized => { state with video := .ended }
    | .pause => state
    | .running => { state with video := .locking startTime }
  else { state with video := .ended }

/-- A callback that the thread of the loop makes, if there is one. -/
def callback (loop : Loop) (event : PlayerEvent) : List (PlayerEvent × Bool) :=
  if state.ctx.eventCb then [(event, state.mutex = some loop)] else []

/-- `rkdemuxer_read_one_video_packet` with the branches on its result. -/
def videoRead (startTime : Timespec) : Option Packet → State
  | none =>
      { state with
        ctx := { state.ctx with videoStatus := .pause }
        video := .unlocking startTime ⟨none, state.callback .video .error⟩ }
  | some packet =>
      { state with
        ctx := state.ctx.videoGot packet
        video := .unlocking startTime ⟨some packet, []⟩ }

/-- The end of a round: what is reported depends on the time that it took. -/
def videoFinish (startTime endTime : Timespec) (round : Round) : State :=
  let reports :=
    if costTime startTime endTime < frameInterval state.ctx.fps then
      match round.result with
      | none => state.callback .video .error
      | some packet => if packet.eofFlag then state.callback .video .eof else []
    else []
  { state with
    video := .top
    videoRounds := state.videoRounds ++ [⟨round.result, round.reports ++ reports⟩] }

def audioLook : State :=
  if state.ctx.threadRunning then
    match state.ctx.audioStatus with
    | .uninitialized => { state with audio := .ended }
    | .pause => state
    | .running => { state with audio := .locking }
  else { state with audio := .ended }

/-- `rkdemuxer_read_one_audio_packet` with the branches on its result. -/
def audioRead : Option Packet → State
  | none =>
      { state with
        ctx := { state.ctx with audioStatus := .pause }
        audio := .unlocking ⟨none, []⟩ }
  | some packet =>
      { state with
        ctx := state.ctx.audioGot packet
        audio := .unlocking ⟨some packet, []⟩ }

def audioFinish (round : Round) : State :=
  let reports :=
    match round.result with
    | none => state.callback .audio .error
    | some packet =>
        if packet.eofFlag && !state.ctx.enableVideo then state.callback .audio .eof else []
  { state with
    audio := .top
    audioRounds := state.audioRounds ++ [⟨round.result, round.reports ++ reports⟩] }

def step : Label → Option State
  | .videoEnter => if state.video = .entering then some state.videoEnter else none
  | .videoLook startTime => if state.video = .top then some (state.videoLook startTime) else none
  | .videoLock =>
      match state.video with
      | .locking startTime =>
          if state.mutex = none then
            some { state with mutex := some .video, video := .reading startTime }
          else none
      | _ => none
  | .videoRead result =>
      match state.video with
      | .reading startTime => some (state.videoRead startTime result)
      | _ => none
  | .videoUnlock =>
      match state.video with
      | .unlocking startTime round =>
          some { state with mutex := none, video := .finishing startTime round }
      | _ => none
  | .videoFinish endTime =>
      match state.video with
      | .finishing startTime round =>
          some (state.videoFinish frameInterval startTime endTime round)
      | _ => none
  | .audioLook => if state.audio = .top then some state.audioLook else none
  | .audioLock =>
      if state.audio = .locking ∧ state.mutex = none then
        some { state with mutex := some .audio, audio := .reading }
      else none
  | .audioRead result => if state.audio = .reading then some (state.audioRead result) else none
  | .audioUnlock =>
      match state.audio with
      | .unlocking round => some { state with mutex := none, audio := .finishing round }
      | _ => none
  | .audioFinish =>
      match state.audio with
      | .finishing round => some (state.audioFinish round)
      | _ => none
  | .control control =>
      if state.mutex = none then some { state with ctx := (state.ctx.control control).2 }
      else none
  | .threadsEnd => some { state with ctx := { state.ctx with threadRunning := false } }

end State

/-- `frameInterval` is `frame_interval_time` of a frame rate. -/
def loops (frameInterval : Nat → Nat) : System State Label where
  initial state := ∃ ctx, state = started ctx
  step state := state.step frameInterval

/-! What is to be reported. -/

/-- The end of the audio stream, at which the loop goes back to its start. -/
def Packet.endsAudio (packet : Packet) : Bool := packet.eofFlag && packet.size = 0

/-- The events that a round of the video loop is to report. -/
def PlayerCtx.videoEvents (ctx : PlayerCtx) (result : Option Packet) : List PlayerEvent :=
  if ctx.eventCb then
    match result with
    | none => [.error]
    | some packet => if packet.eofFlag then [.eof] else []
  else []

/-- The events that a round of the audio loop is to report: the end of the stream only when
there is no video. -/
def PlayerCtx.audioEvents (ctx : PlayerCtx) (result : Option Packet) : List PlayerEvent :=
  if ctx.eventCb then
    match result with
    | none => [.error]
    | some packet => if packet.endsAudio && !ctx.enableVideo then [.eof] else []
  else []

def VideoPhase.round : VideoPhase → List Round
  | .unlocking _ round => [round]
  | .finishing _ round => [round]
  | _ => []

def AudioPhase.round : AudioPhase → List Round
  | .unlocking round => [round]
  | .finishing round => [round]
  | _ => []

/-- Every round that is at its end has reported what it is to report, and no callback was made
with the mutex held. -/
structure State.ReportedOnce (state : State) : Prop where
  video : ∀ round ∈ state.videoRounds,
    round.reports.map Prod.fst = state.ctx.videoEvents round.result
  audio : ∀ round ∈ state.audioRounds,
    round.reports.map Prod.fst = state.ctx.audioEvents round.result
  unlocked : ∀ round ∈ state.videoRounds ++ state.video.round ++ state.audioRounds ++
    state.audio.round, ∀ report ∈ round.reports, report.2 = false

end Rkipc.Player
