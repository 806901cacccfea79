import Mathlib.Algebra.Ring.Int.Defs
import Mathlib.Tactic.SplitIfs

namespace Rkipc.Player

/-! The player's context and the calls that only move its statuses. -/

inductive PlayerStatus
  | uninitialized
  | pause
  | running
deriving DecidableEq

inductive PlayerEvent
  | eof
  | sof
  | play
  | pause
  | stop
  | error
deriving DecidableEq

/-- `PLAYER_CTX_S`.  `fps` is the frame rate of `demuxer_param`; a thread id or a handle that
was never set is `none`. -/
structure PlayerCtx where
  fps : Nat
  enableAudio : Bool
  enableVideo : Bool
  mediaIsInit : Bool
  threadRunning : Bool
  demuxerHandle : Option Nat
  eventCb : Bool
  videoPlayerThreadId : Option Nat
  audioPlayerThreadId : Option Nat
  videoStatus : PlayerStatus
  audioStatus : PlayerStatus
  videoCurrentPts : Int
  audioCurrentPts : Int
  videoTotalDuraion : Int
  audioTotalDuraion : Int
deriving DecidableEq

/-- The context behind `memset`, with the callback of the configuration. -/
def PlayerCtx.fresh (eventCb : Bool) : PlayerCtx :=
  ⟨0, false, false, false, false, none, eventCb, none, none, .uninitialized, .uninitialized,
    0, 0, 0, 0⟩

namespace PlayerStatus

/-- `RUNNING` becomes `PAUSE`, and nothing else changes. -/
def paused (status : PlayerStatus) : PlayerStatus :=
  if status = .running then .pause else status

/-- `RUNNING`, unless the player is uninitialized. -/
def started (status : PlayerStatus) : PlayerStatus :=
  if status = .uninitialized then .uninitialized else .running

end PlayerStatus

namespace PlayerCtx

variable (ctx : PlayerCtx)

/-- The video is enabled and its status is `UNINITIALIZED`. -/
def videoUnset : Bool := ctx.enableVideo && ctx.videoStatus = .uninitialized

def audioUnset : Bool := ctx.enableAudio && ctx.audioStatus = .uninitialized

/-- The critical section of `rk_player_play`. -/
def play : Int × PlayerCtx :=
  (if ctx.videoUnset then -1 else 0,
    { ctx with
      videoStatus := if ctx.enableVideo then ctx.videoStatus.started else ctx.videoStatus
      audioStatus := if ctx.enableAudio then ctx.audioStatus.started else ctx.audioStatus })

/-- What `rk_player_pause` and `rk_player_stop` do to the statuses. -/
def paused : PlayerCtx :=
  { ctx with
    videoStatus := if ctx.enableVideo then ctx.videoStatus.paused else ctx.videoStatus
    audioStatus := if ctx.enableAudio then ctx.audioStatus.paused else ctx.audioStatus }

/-- The critical section of `rk_player_pause`. -/
def pause : Int × PlayerCtx := (if ctx.videoUnset then -1 else 0, ctx.paused)

/-- The critical section of `rk_player_stop`, with the results of the two seeks. -/
def stop (video audio : Int) : Int × PlayerCtx :=
  let ret := if ctx.videoUnset then -1 else 0
  let ret := if ctx.enableVideo then video else ret
  (if ctx.enableAudio then audio else ret, ctx.paused)

/-- `time_ms > ctx->video_total_duraion / 1000`, where the duration is converted to the type of
the time. -/
def beyond (timeMs : Nat) : Bool :=
  timeMs > ((ctx.videoTotalDuraion.tdiv 1000) % 2 ^ 64).toNat

/-- The critical section of `rk_player_video_seek`, with the result of the seek. -/
def videoSeek (sought : Int) : Int × PlayerCtx :=
  if ctx.enableVideo then
    if ctx.videoStatus = .uninitialized then (-1, ctx)
    else (sought, { ctx with videoStatus := .running })
  else (0, ctx)

/-- The critical section of `rk_player_audio_seek`, with the result of the seek. -/
def audioSeek (sought : Int) : Int × PlayerCtx :=
  if ctx.enableAudio then
    if ctx.audioStatus = .uninitialized then (-1, ctx)
    else (sought, { ctx with audioStatus := .running })
  else (0, ctx)

end PlayerCtx

/-- The calls that leave the file and the threads alone. -/
inductive Control
  | play
  | pause
  | stop (video audio : Int)
  | videoSeek (timeMs : Nat) (sought : Int)
  | audioSeek (timeMs : Nat) (sought : Int)
deriving DecidableEq

def PlayerCtx.control (ctx : PlayerCtx) : Control → Int × PlayerCtx
  | .play => ctx.play
  | .pause => ctx.pause
  | .stop video audio => ctx.stop video audio
  | .videoSeek timeMs sought => if ctx.beyond timeMs then (-1, ctx) else ctx.videoSeek sought
  | .audioSeek timeMs sought => if ctx.beyond timeMs then (-1, ctx) else ctx.audioSeek sought

/-- What is the same in two contexts but for the statuses. -/
def PlayerCtx.withStatuses (ctx : PlayerCtx) (video audio : PlayerStatus) : PlayerCtx :=
  { ctx with videoStatus := video, audioStatus := audio }

theorem PlayerStatus.paused_unset (status : PlayerStatus) :
    status.paused = .uninitialized ↔ status = .uninitialized := by
  cases status <;> decide

theorem PlayerStatus.started_unset (status : PlayerStatus) :
    status.started = .uninitialized ↔ status = .uninitialized := by
  cases status <;> decide

/-- A control changes the statuses only, and it neither sets nor leaves `UNINITIALIZED`. -/
theorem PlayerCtx.control_statuses (ctx : PlayerCtx) (control : Control) :
    ∃ video audio, (ctx.control control).2 = ctx.withStatuses video audio ∧
      (video = .uninitialized ↔ ctx.videoStatus = .uninitialized) ∧
      (audio = .uninitialized ↔ ctx.audioStatus = .uninitialized) := by
  have stopped : ∃ video audio, ctx.paused = ctx.withStatuses video audio ∧
      (video = .uninitialized ↔ ctx.videoStatus = .uninitialized) ∧
      (audio = .uninitialized ↔ ctx.audioStatus = .uninitialized) := by
    refine ⟨_, _, rfl, ?_, ?_⟩
    · split_ifs
      · exact PlayerStatus.paused_unset _
      · exact Iff.rfl
    · split_ifs
      · exact PlayerStatus.paused_unset _
      · exact Iff.rfl
  have same : ∃ video audio, ctx = ctx.withStatuses video audio ∧
      (video = .uninitialized ↔ ctx.videoStatus = .uninitialized) ∧
      (audio = .uninitialized ↔ ctx.audioStatus = .uninitialized) :=
    ⟨_, _, rfl, Iff.rfl, Iff.rfl⟩
  cases control with
  | play =>
      refine ⟨_, _, rfl, ?_, ?_⟩
      · split_ifs
        · exact PlayerStatus.started_unset _
        · exact Iff.rfl
      · split_ifs
        · exact PlayerStatus.started_unset _
        · exact Iff.rfl
  | pause => exact stopped
  | stop video audio => exact stopped
  | videoSeek timeMs sought =>
      simp only [control, videoSeek]
      split_ifs with late enabled unset
      · exact same
      · exact same
      · exact ⟨.running, ctx.audioStatus, rfl,
          ⟨PlayerStatus.noConfusion, fun is => absurd is unset⟩, Iff.rfl⟩
      · exact same
  | audioSeek timeMs sought =>
      simp only [control, audioSeek]
      split_ifs with late enabled unset
      · exact same
      · exact same
      · exact ⟨ctx.videoStatus, .running, rfl, Iff.rfl,
          ⟨PlayerStatus.noConfusion, fun is => absurd is unset⟩⟩
      · exact same

end Rkipc.Player
