import Mathlib.Algebra.GroupWithZero.Nat
import Mathlib.Logic.Function.Basic
import Rkipc.Transition.System

namespace Rkipc.Rtsp

open Transition

/-! The sessions of the RTSP server and the times that their frames carry.  Every
call runs under `g_rtsp_mutex`, so a run is a sequence of calls. -/

/-- A stream with a session of its own. -/
abbrev StreamId := Fin 3

instance sessionNumNeZero : NeZero 3 := ⟨by decide⟩

inductive Media
  | video
  | audio
deriving DecidableEq

inductive VideoCodec
  | h264
  | h265
deriving DecidableEq

/-- A frame as `rtsp_tx_video` or `rtsp_tx_audio` got it, with the time at which it
was presented. -/
structure Sent where
  media : Media
  presentTime : Int64
  timestamp : Int64
deriving DecidableEq

/-- A session with what it was set up for and the frames sent through it. -/
structure Session where
  video : Option VideoCodec
  audio : Option (Int × Int)
  sent : List Sent
deriving DecidableEq

def Session.send (session : Session) (frame : Sent) : Session :=
  { session with sent := session.sent ++ [frame] }

/-- `g_rtsp_session_N` with the three globals of the stream. -/
structure Stream where
  session : Option Session
  videoFirstPts : Int64
  audioFirstPts : Int64
  videoAudioDiffPts : Int64
deriving DecidableEq

/-- The parameters that `rkipc_rtsp_init` reads. -/
structure Params where
  outputDataType : StreamId → String
  audioEnable : Int
  sampleRate : Int
  channels : Int

structure State where
  rtsplive : Bool
  streams : StreamId → Stream

namespace Stream

def start : Stream := ⟨none, 0, 0, 0⟩

/-- The part of `rkipc_rtsp_init` for one stream.  Where the stream has no URL
nothing is done, and `created` is whether `rtsp_new_session` gave a session. -/
def init (params : Params) (id : StreamId) (created : Option Bool) (stream : Stream) :
    Stream :=
  match created with
  | none => stream
  | some false => { stream with session := none }
  | some true =>
      let outputDataType := params.outputDataType id
      { stream with
        session := some
          { video :=
              if outputDataType = "H.264" then some .h264
              else if outputDataType = "H.265" then some .h265
              else none
            audio :=
              if params.audioEnable ≠ 0 then some (params.sampleRate, params.channels)
              else none
            sent := [] } }

def deinit (stream : Stream) : Stream := { stream with session := none }

/-- The part of `rkipc_rtsp_write_video_frame` for one stream. -/
def writeVideoFrame (presentTime : Int64) (stream : Stream) : Stream :=
  match stream.session with
  | none => stream
  | some session =>
      { stream with
        videoFirstPts :=
          if stream.videoFirstPts = 0 then presentTime else stream.videoFirstPts
        session := some (session.send ⟨.video, presentTime, presentTime⟩) }

/-- The first audio frame after a video frame fixes the difference. -/
def meetAudio (presentTime : Int64) (stream : Stream) : Stream :=
  if stream.audioFirstPts = 0 ∧ stream.videoFirstPts ≠ 0 then
    { stream with
      audioFirstPts := presentTime
      videoAudioDiffPts := stream.videoFirstPts - presentTime }
  else stream

/-- The part of `rkipc_rtsp_write_audio_frame` for one stream. -/
def writeAudioFrame (presentTime : Int64) (stream : Stream) : Stream :=
  match stream.session with
  | none => stream
  | some session =>
      let stream := stream.meetAudio presentTime
      { stream with
        session := some (session.send
          ⟨.audio, presentTime, presentTime + stream.videoAudioDiffPts⟩) }

end Stream

namespace State

def modify (state : State) (id : StreamId) (change : Stream → Stream) : State :=
  { state with
    streams := Function.update state.streams id (change (state.streams id)) }

def start : State := ⟨false, fun _ => .start⟩

@[simp] theorem modify_same (state : State) (id : StreamId) (change : Stream → Stream) :
    (state.modify id change).streams id = change (state.streams id) :=
  Function.update_self ..

theorem modify_other (state : State) {id other : StreamId} (change : Stream → Stream)
    (distinct : other ≠ id) :
    (state.modify id change).streams other = state.streams other :=
  Function.update_of_ne distinct ..

end State

/-- `live` is whether `create_rtsp_demo` gave a server, `created` as for
`Stream.init`. -/
inductive Call
  | init (params : Params) (live : Bool) (created : StreamId → Option Bool)
  | deinit
  | writeVideoFrame (id : StreamId) (presentTime : Int64)
  | writeAudioFrame (id : StreamId) (presentTime : Int64)

namespace State

def call (state : State) : Call → State × Int
  | .init params live created =>
      (⟨live, fun id => (state.streams id).init params id (created id)⟩, 0)
  | .deinit => (⟨false, fun id => (state.streams id).deinit⟩, 0)
  | .writeVideoFrame id presentTime =>
      if state.rtsplive then (state.modify id (Stream.writeVideoFrame presentTime), 0)
      else (state, -1)
  | .writeAudioFrame id presentTime =>
      if state.rtsplive then (state.modify id (Stream.writeAudioFrame presentTime), 0)
      else (state, -1)

end State

def system : System State Call where
  initial state := state = .start
  step state call := some (state.call call).1

/-! What the times are for. -/

def Media.isVideo : Media → Bool
  | .video => true
  | .audio => false

/-- The first video frame, with the frames after it. -/
def fromVideo (sent : List Sent) : List Sent :=
  sent.dropWhile fun frame => !frame.media.isVideo

def firstVideo (sent : List Sent) : Option Int64 :=
  (fromVideo sent).head?.map Sent.presentTime

/-- The time of the first audio frame after the first video frame. -/
def firstAudio (sent : List Sent) : Option Int64 :=
  ((fromVideo sent).find? fun frame => !frame.media.isVideo).map Sent.presentTime

/-- The time that an audio frame should carry in a session that has sent the given
frames. -/
def aligned (sent : List Sent) (presentTime : Int64) : Int64 :=
  match firstVideo sent with
  | none => presentTime
  | some video => presentTime + (video - (firstAudio sent).getD presentTime)

/-- Every audio frame of a session carries the time that it should. -/
def InStep (sent : List Sent) : Prop :=
  ∀ earlier frame later, sent = earlier ++ frame :: later → frame.media = .audio →
    frame.timestamp = aligned earlier frame.presentTime

end Rkipc.Rtsp
