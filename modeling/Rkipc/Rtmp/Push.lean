import Rkipc.Storage.MuxerGuard

namespace Rkipc.Rtmp

open Transition
open Storage.Recorder (Media MuxerCall opened WritesAfter)

/-! Pushing streams over RTMP.  `g_rtmp_mutex` is the mutex of the program. -/

/-- An index of `g_rtmp_enable`. -/
abbrev StreamId := Fin 3

instance rtmpNumNeZero : NeZero 3 := ⟨by decide⟩

/-- The muxer that the module uses for a stream. -/
def muxerId (id : StreamId) : Nat := id + 3

theorem muxerId_inj {id other : StreamId} (same : muxerId id = muxerId other) :
    id = other :=
  Fin.ext (Nat.add_right_cancel same)

/-- The enable flags, and the calls of the module that name a muxer, the latest
first. -/
structure Shared where
  enable : StreamId → Bool
  muxer : Nat → List MuxerCall

namespace Shared

def setEnable (shared : Shared) (id : StreamId) (enable : Bool) : Shared :=
  { shared with enable := Function.update shared.enable id enable }

def call (shared : Shared) (id : StreamId) (muxerCall : MuxerCall) : Shared :=
  { shared with
    muxer := Function.update shared.muxer (muxerId id)
      (muxerCall :: shared.muxer (muxerId id)) }

/-- The flags before anything runs. -/
def start : Shared where
  enable _ := false
  muxer _ := []

variable {shared : Shared} {id other : StreamId} {muxerCall : MuxerCall}

@[simp] theorem call_same :
    (shared.call id muxerCall).muxer (muxerId id) =
      muxerCall :: shared.muxer (muxerId id) :=
  Function.update_self ..

theorem call_other {muxer : Nat} (distinct : muxer ≠ muxerId id) :
    (shared.call id muxerCall).muxer muxer = shared.muxer muxer :=
  Function.update_of_ne distinct ..

@[simp] theorem setEnable_same {enable : Bool} :
    (shared.setEnable id enable).enable id = enable :=
  Function.update_self ..

theorem setEnable_other {enable : Bool} (distinct : other ≠ id) :
    (shared.setEnable id enable).enable other = shared.enable other :=
  Function.update_of_ne distinct ..

end Shared

inductive Opening
  | lock
  | init
  | set
  | unlock
deriving DecidableEq

inductive Closing
  | lock
  | clear
  | deinit
  | unlock
deriving DecidableEq

inductive Writing
  | lock
  | check
  | writeFrame
  | unlock
deriving DecidableEq

/-- Where a thread stands in one of the calls, or between two. -/
inductive Control
  | idle
  | opening (id : StreamId) (point : Opening)
  | closing (id : StreamId) (point : Closing)
  | writing (media : Media) (id : StreamId) (point : Writing)
deriving DecidableEq

inductive Call
  | init
  | deinit
  | writeFrame (media : Media)
deriving DecidableEq

/-- What the environment chooses at a step: nothing, the outcome of
`rkmuxer_init`, or the next call of the thread. -/
inductive Choice
  | go
  | outcome (succeeds : Bool)
  | call (call : Call) (id : StreamId)
deriving DecidableEq

/-- The video writer tests the flag under the mutex, the audio writer before it. -/
def enter (id : StreamId) : Call → Control
  | .init => .opening id .lock
  | .deinit => .closing id .lock
  | .writeFrame .video => .writing .video id .lock
  | .writeFrame .audio => .writing .audio id .check

/-- The locked part of `rk_rtmp_init`. -/
def opening (id : StreamId) : Opening → Instruction Shared Control Choice
  | .lock => .lock (.opening id .init)
  | .init => .act fun shared choice =>
      match choice with
      | .outcome succeeds =>
          some (shared.call id (.init succeeds), .opening id .set)
      | _ => none
  | .set => .act fun shared _ =>
      some (shared.setEnable id true, .opening id .unlock)
  | .unlock => .unlock .idle

/-- `rk_rtmp_deinit`. -/
def closing (id : StreamId) : Closing → Instruction Shared Control Choice
  | .lock => .lock (.closing id .clear)
  | .clear => .act fun shared _ =>
      some (shared.setEnable id false, .closing id .deinit)
  | .deinit => .act fun shared _ =>
      some (shared.call id .deinit, .closing id .unlock)
  | .unlock => .unlock .idle

/-- `rk_rtmp_write_video_frame`. -/
def writingVideo (id : StreamId) : Writing → Instruction Shared Control Choice
  | .lock => .lock (.writing .video id .check)
  | .check => .act fun shared _ =>
      some (shared, .writing .video id
        (if shared.enable id then .writeFrame else .unlock))
  | .writeFrame => .act fun shared _ =>
      some (shared.call id (.writeFrame .video), .writing .video id .unlock)
  | .unlock => .unlock .idle

/-- `rk_rtmp_write_audio_frame`. -/
def writingAudio (id : StreamId) : Writing → Instruction Shared Control Choice
  | .check => .act fun shared _ =>
      some (shared, if shared.enable id then .writing .audio id .lock else .idle)
  | .lock => .lock (.writing .audio id .writeFrame)
  | .writeFrame => .act fun shared _ =>
      some (shared.call id (.writeFrame .audio), .writing .audio id .unlock)
  | .unlock => .unlock .idle

def code : Control → Instruction Shared Control Choice
  | .idle => .act fun shared choice =>
      match choice with
      | .call call id => some (shared, enter id call)
      | _ => none
  | .opening id point => opening id point
  | .closing id point => closing id point
  | .writing .video id point => writingVideo id point
  | .writing .audio id point => writingAudio id point

def Control.holds : Control → Bool
  | .opening _ point => point ≠ .lock
  | .closing _ point => point ≠ .lock
  | .writing .video _ point => point ≠ .lock
  | .writing .audio _ point => point ≠ .lock ∧ point ≠ .check
  | .idle => false

section Steps

variable {point next : Control} {before after : Shared} {choice : Choice}
  {effect : Shared → Choice → Option (Shared × Control)}

theorem lock_holds (locks : code point = .lock next) :
    point.holds = false ∧ next.holds = true := by
  cases point with
  | idle => cases locks
  | opening id point =>
      cases point <;> cases locks
      exact ⟨rfl, rfl⟩
  | closing id point =>
      cases point <;> cases locks
      exact ⟨rfl, rfl⟩
  | writing media id point =>
      cases media <;> cases point <;> cases locks <;> exact ⟨rfl, rfl⟩

theorem unlock_idle (unlocks : code point = .unlock next) :
    point.holds = true ∧ next = .idle := by
  cases point with
  | idle => cases unlocks
  | opening id point =>
      cases point <;> cases unlocks
      exact ⟨rfl, rfl⟩
  | closing id point =>
      cases point <;> cases unlocks
      exact ⟨rfl, rfl⟩
  | writing media id point =>
      cases media <;> cases point <;> cases unlocks <;> exact ⟨rfl, rfl⟩

/-- Everything a step can do that is no lock and no unlock. -/
inductive Acts (before : Shared) (choice : Choice) : Control → Shared → Control → Prop
  | enter (call : Call) (id : StreamId) :
      Acts before choice .idle before (enter id call)
  | init (id : StreamId) {succeeds : Bool} (outcome : choice = .outcome succeeds) :
      Acts before choice (.opening id .init) (before.call id (.init succeeds))
        (.opening id .set)
  | set (id : StreamId) :
      Acts before choice (.opening id .set) (before.setEnable id true)
        (.opening id .unlock)
  | clear (id : StreamId) :
      Acts before choice (.closing id .clear) (before.setEnable id false)
        (.closing id .deinit)
  | deinit (id : StreamId) :
      Acts before choice (.closing id .deinit) (before.call id .deinit)
        (.closing id .unlock)
  | checkVideo (id : StreamId) (enabled : before.enable id = true) :
      Acts before choice (.writing .video id .check) before
        (.writing .video id .writeFrame)
  | skipVideo (id : StreamId) :
      Acts before choice (.writing .video id .check) before
        (.writing .video id .unlock)
  | checkAudio (id : StreamId) :
      Acts before choice (.writing .audio id .check) before
        (.writing .audio id .lock)
  | skipAudio (id : StreamId) :
      Acts before choice (.writing .audio id .check) before .idle
  | writeFrame (media : Media) (id : StreamId) :
      Acts before choice (.writing media id .writeFrame)
        (before.call id (.writeFrame media)) (.writing media id .unlock)

theorem acts_of_act (acts : code point = .act effect)
    (effected : effect before choice = some (after, next)) :
    Acts before choice point after next := by
  cases point with
  | idle =>
      cases acts
      cases choice <;> cases effected
      exact .enter _ _
  | opening id point =>
      cases point with
      | lock | unlock => cases acts
      | init =>
          cases acts
          cases choice <;> cases effected
          exact .init id rfl
      | set =>
          cases acts
          cases effected
          exact .set id
  | closing id point =>
      cases point with
      | lock | unlock => cases acts
      | clear =>
          cases acts
          cases effected
          exact .clear id
      | deinit =>
          cases acts
          cases effected
          exact .deinit id
  | writing media id point =>
      cases media with
      | video =>
          cases point with
          | lock | unlock => cases acts
          | check =>
              cases acts
              cases enabled : before.enable id with
              | true =>
                  simp only [enabled] at effected
                  cases effected
                  exact .checkVideo id enabled
              | false =>
                  simp only [enabled] at effected
                  cases effected
                  exact .skipVideo id
          | writeFrame =>
              cases acts
              cases effected
              exact .writeFrame .video id
      | audio =>
          cases point with
          | lock | unlock => cases acts
          | check =>
              cases acts
              cases enabled : before.enable id with
              | true =>
                  simp only [enabled] at effected
                  cases effected
                  exact .checkAudio id
              | false =>
                  simp only [enabled] at effected
                  cases effected
                  exact .skipAudio id
          | writeFrame =>
              cases acts
              cases effected
              exact .writeFrame .audio id

theorem Acts.holds (acts : Acts before choice point after next) :
    next.holds = point.holds := by
  cases acts with
  | enter call id =>
      cases call with
      | init | deinit => rfl
      | writeFrame media => cases media <;> rfl
  | writeFrame media id => cases media <;> rfl
  | _ => rfl

end Steps

/-- Any number of threads, each of which makes one call after another. -/
def program : Program Nat Shared Control Choice where
  initial shared := shared = .start
  entry _ := .idle
  code _ := code
  holds := Control.holds
  entry_holds _ := rfl
  lock_holds := lock_holds
  unlock_holds unlocks := by
    obtain ⟨inside, rfl⟩ := unlock_idle unlocks
    exact ⟨inside, rfl⟩
  act_holds acts effected := (acts_of_act acts effected).holds

end Rkipc.Rtmp
