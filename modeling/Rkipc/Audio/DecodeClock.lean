import Mathlib.Data.List.Chain

namespace Rkipc.Audio.DecodeClock

/-! The timestamps of decoded MP3 frames. -/

def mp3MaxFrameSize : Int := 4608

/-- What the MP3 library knows of the last frame. -/
structure Frame where
  nGrans : Nat
  nGranSamps : Nat
  nChans : Nat
  samprate : Nat
  plays : 0 < samprate
deriving DecidableEq

abbrev Time := BitVec 64

namespace Frame

variable (frame : Frame)

def u32OutLen : BitVec 32 :=
  BitVec.ofNat 32 (frame.nGrans * frame.nGranSamps * frame.nChans * 2)

def calcPts : Time := BitVec.ofNat 64 (frame.u32OutLen.toNat / 2 * 1000000 / frame.samprate)

/-- How long the samples of one channel last. -/
def duration : Time :=
  BitVec.ofNat 64 (frame.nGrans * frame.nGranSamps * 1000000 / frame.samprate)

end Frame

/-- What `MP3Decode` returns: 0, `ERR_MP3_INDATA_UNDERFLOW`, -2 or another error. -/
inductive Mp3Ret
  | decoded
  | indataUnderflow
  | notFirst
  | other
deriving DecidableEq

/-- The parameters of a call, and what the MP3 library answers: the place of the sync word, the
value of `MP3Decode`, the length that it leaves and the frame. -/
structure Call where
  hasInput : Bool
  u32InLen : Int
  u64InTimeStamp : Time
  u64OutTimeStamp : Time
  syncWord : Int
  ret : Mp3Ret
  left : Int
  frame : Frame

inductive Status
  | ok
  | eos
  | error
deriving DecidableEq

structure Done where
  status : Status
  u32InLen : Int
  u32OutLen : Option (BitVec 32)
  u64OutTimeStamp : Time
  audioPts : Time

/-- The end of a call that has decoded a frame. -/
def stamped (audioPts : Time) (call : Call) (u32InLen : Int) : Done :=
  let calcPts := call.frame.calcPts
  let u64OutTimeStamp :=
    if call.u64InTimeStamp ≠ 0 then call.u64InTimeStamp
    else if audioPts ≠ 0 then audioPts + calcPts
    else call.u64OutTimeStamp
  { status := .ok
    u32InLen := u32InLen
    u32OutLen := some call.frame.u32OutLen
    u64OutTimeStamp := u64OutTimeStamp
    audioPts := if u64OutTimeStamp ≠ 0 then u64OutTimeStamp else audioPts + calcPts }

def mp3DecoderDecode (audioPts : Time) (call : Call) : Done :=
  let eos := call.hasInput = false ∨ call.u32InLen = 0
  let copySize := min call.u32InLen mp3MaxFrameSize
  let inLength := call.u32InLen - copySize
  if copySize ≠ 0 ∧ call.syncWord < 0 then ⟨.error, 0, none, call.u64OutTimeStamp, audioPts⟩
  else
    match call.ret with
    | .decoded => stamped audioPts call (inLength + call.left)
    | .notFirst =>
        if eos then ⟨.eos, inLength + call.left, none, call.u64OutTimeStamp, audioPts⟩
        else stamped audioPts call inLength
    | .indataUnderflow | .other =>
        if eos then ⟨.eos, inLength + call.left, none, call.u64OutTimeStamp, audioPts⟩
        else ⟨.error, inLength, none, call.u64OutTimeStamp, audioPts⟩

/-- A frame with the timestamp that was given to it. -/
structure Output where
  frame : Frame
  timestamp : Time

def outputs (audioPts : Time) : List Call → List Output
  | [] => []
  | call :: calls =>
      let done := mp3DecoderDecode audioPts call
      if done.status = .ok then
        ⟨call.frame, done.u64OutTimeStamp⟩ :: outputs done.audioPts calls
      else outputs done.audioPts calls

/-- The calls from `mp3_decoder_open` on, of which only the first one has a timestamp. -/
structure Session where
  first : Call
  rest : List Call
  untimed : ∀ call ∈ rest, call.u64InTimeStamp = 0

def Session.outputs (session : Session) : List Output :=
  DecodeClock.outputs 0 (session.first :: session.rest)

/-- The second frame begins when the first one has been heard. -/
def Follows (first second : Output) : Prop :=
  second.timestamp = first.timestamp + first.frame.duration

/-- What there is before a frame is decoded that is not the first one: the clock of the context,
the frame before, and the value of `u64OutTimeStamp`. -/
structure Moment where
  audioPts : Time
  last : Output
  frame : Frame
  given : Time

def moments (audioPts : Time) (last : Option Output) : List Call → List Moment
  | [] => []
  | call :: calls =>
      let done := mp3DecoderDecode audioPts call
      if done.status = .ok then
        (last.map fun last => ⟨audioPts, last, call.frame, call.u64OutTimeStamp⟩).toList ++
          moments done.audioPts (some ⟨call.frame, done.u64OutTimeStamp⟩) calls
      else moments done.audioPts last calls

def Session.moments (session : Session) : List Moment :=
  DecodeClock.moments 0 none (session.first :: session.rest)

/-- The samples of all channels last as long as those of one channel of the frame before, and
the session has not begun at 0.  A clock that is 0 gives no timestamp. -/
def Moment.InTime (moment : Moment) : Prop :=
  if moment.audioPts = 0 then moment.given = moment.last.timestamp + moment.last.frame.duration
  else if moment.last.timestamp = 0 then
    moment.audioPts + moment.frame.calcPts = moment.last.frame.duration
  else moment.frame.calcPts = moment.last.frame.duration

section Calls

variable {audioPts : Time} {call : Call} {calls : List Call} {last : Output}

theorem decode_cases (audioPts : Time) (call : Call) :
    (∃ u32InLen, mp3DecoderDecode audioPts call = stamped audioPts call u32InLen) ∨
      (mp3DecoderDecode audioPts call).status ≠ .ok ∧
        (mp3DecoderDecode audioPts call).audioPts = audioPts := by
  unfold mp3DecoderDecode
  dsimp only
  split
  · exact .inr ⟨nofun, rfl⟩
  · split
    · exact .inl ⟨_, rfl⟩
    all_goals
      split
      · exact .inr ⟨nofun, rfl⟩
      · first
        | exact .inl ⟨_, rfl⟩
        | exact .inr ⟨nofun, rfl⟩

/-- The clock is at the timestamp of the last frame, if this is not 0. -/
def InStep (audioPts : Time) (last : Output) : Prop :=
  last.timestamp ≠ 0 → audioPts = last.timestamp

theorem inStep_stamped (audioPts : Time) (call : Call) (u32InLen : Int) :
    InStep (stamped audioPts call u32InLen).audioPts
      ⟨call.frame, (stamped audioPts call u32InLen).u64OutTimeStamp⟩ :=
  fun notZero => if_pos notZero

theorem follows_iff {u32InLen : Int} (untimed : call.u64InTimeStamp = 0)
    (inStep : InStep audioPts last) :
    Follows last ⟨call.frame, (stamped audioPts call u32InLen).u64OutTimeStamp⟩ ↔
      (⟨audioPts, last, call.frame, call.u64OutTimeStamp⟩ : Moment).InTime := by
  rw [Follows, Moment.InTime, stamped]
  dsimp only
  rw [if_neg (not_not.mpr untimed)]
  by_cases isZero : audioPts = 0
  · rw [if_neg (not_not.mpr isZero), if_pos isZero]
  · rw [if_pos isZero, if_neg isZero]
    by_cases begins : last.timestamp = 0
    · rw [if_pos begins, begins]
      exact Eq.congr_right (BitVec.zero_add _)
    · rw [if_neg begins, inStep begins, BitVec.add_right_inj]

theorem chain_iff (untimed : ∀ call ∈ calls, call.u64InTimeStamp = 0)
    (inStep : InStep audioPts last) :
    List.IsChain Follows (last :: outputs audioPts calls) ↔
      ∀ moment ∈ moments audioPts (some last) calls, moment.InTime := by
  induction calls generalizing audioPts last with
  | nil => exact iff_of_true (.singleton last) fun _ member => absurd member List.not_mem_nil
  | cons call calls ih =>
    obtain ⟨isUntimed, untimed⟩ := List.forall_mem_cons.mp untimed
    rw [outputs, moments]
    rcases decode_cases audioPts call with ⟨u32InLen, isDone⟩ | ⟨notOk, kept⟩
    · have isOk : (stamped audioPts call u32InLen).status = .ok := rfl
      rw [isDone, if_pos isOk, if_pos isOk, List.isChain_cons_cons, List.forall_mem_append,
        follows_iff isUntimed inStep, ih untimed (inStep_stamped _ _ _)]
      refine and_congr_left fun _ => ?_
      rw [Option.map_some, Option.toList_some, List.forall_mem_singleton]
    · rw [if_neg notOk, if_neg notOk, kept]
      exact ih untimed inStep

theorem chain_start (untimed : ∀ call ∈ calls.tail, call.u64InTimeStamp = 0) :
    List.IsChain Follows (outputs 0 calls) ↔ ∀ moment ∈ moments 0 none calls, moment.InTime := by
  induction calls with
  | nil => exact iff_of_true .nil fun _ member => absurd member List.not_mem_nil
  | cons call calls ih =>
    rw [outputs, moments]
    rcases decode_cases 0 call with ⟨u32InLen, isDone⟩ | ⟨notOk, kept⟩
    · have isOk : (stamped 0 call u32InLen).status = .ok := rfl
      have isUntimed : ∀ call ∈ calls, call.u64InTimeStamp = 0 := untimed
      rw [isDone, if_pos isOk, if_pos isOk, chain_iff isUntimed (inStep_stamped _ _ _)]
      rfl
    · rw [if_neg notOk, if_neg notOk, kept]
      exact ih fun call member => untimed call (List.mem_of_mem_tail member)

end Calls

/-- The frames follow each other exactly when each is decoded in time. -/
theorem timestamps_advance_iff (session : Session) :
    List.IsChain Follows session.outputs ↔ ∀ moment ∈ session.moments, moment.InTime :=
  chain_start session.untimed

/-- A frame of 1152 samples for each channel. -/
def frameOf (nChans : Nat) : Frame := ⟨2, 576, nChans, 44100, by decide⟩

def callOf (nChans : Nat) (u64InTimeStamp : Time) : Call where
  hasInput := true
  u32InLen := 417
  u64InTimeStamp := u64InTimeStamp
  u64OutTimeStamp := 0
  syncWord := 0
  ret := .decoded
  left := 0
  frame := frameOf nChans

def sessionOf (nChans : Nat) (begins : Time) : Session where
  first := callOf nChans begins
  rest := [callOf nChans 0, callOf nChans 0]
  untimed := by
    intro call member
    rcases List.mem_cons.mp member with rfl | member
    · rfl
    · cases List.mem_singleton.mp member
      rfl

/-- Two channels take twice the time. -/
theorem stereo_drifts : ¬ ∀ session : Session, List.IsChain Follows session.outputs := by
  intro general
  have follows : (1000 + 52244 : Time) = 1000 + 26122 :=
    (List.isChain_cons_cons.mp (general (sessionOf 2 1000))).1
  exact absurd follows (by decide)

/-- A session with one channel keeps the time. -/
example : ((sessionOf 1 1000).outputs.map Output.timestamp) = [1000, 27122, 53244] := by decide

end Rkipc.Audio.DecodeClock
