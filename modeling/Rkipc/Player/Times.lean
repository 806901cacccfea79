import Mathlib.Algebra.Ring.Nat
import Rkipc.Player.SetFile

namespace Rkipc.Player

/-! The durations of a file and the times to seek. -/

namespace PlayerCtx

variable (ctx : PlayerCtx)

/-- The critical section of `rk_player_get_video_duration`, where the duration is converted
before it is divided. -/
def getVideoDuration : BitVec 32 := BitVec.ofInt 32 ctx.videoTotalDuraion / 1000

/-- The critical section of `rk_player_get_audio_duration`. -/
def getAudioDuration : BitVec 32 := BitVec.ofInt 32 ctx.audioTotalDuraion / 1000

/-- `rk_player_video_seek` does not refuse the time. -/
def VideoAccepts (timeMs : BitVec 64) : Prop := ctx.beyond timeMs.toNat = false

/-- `rk_player_audio_seek` has the same test. -/
def AudioAccepts (timeMs : BitVec 64) : Prop := ctx.beyond timeMs.toNat = false

/-- The getters and the seeks of the streams with these durations in microseconds. -/
structure TimesAgree (video audio : Nat) : Prop where
  videoDuration : ctx.getVideoDuration.toNat = video / 1000
  audioDuration : ctx.getAudioDuration.toNat = audio / 1000
  videoSeek : ∀ timeMs : BitVec 64,
    ctx.VideoAccepts timeMs ↔ timeMs.toNat ≤ ctx.getVideoDuration.toNat
  audioSeek : ∀ timeMs : BitVec 64,
    ctx.AudioAccepts timeMs ↔ timeMs.toNat ≤ ctx.getAudioDuration.toNat

end PlayerCtx

/-- A duration in microseconds, below `2 ^ 32` milliseconds. -/
structure Duration where
  micros : Nat
  short : micros < 2 ^ 32 * 1000

structure File where
  video : Option Duration
  audio : Option Duration

namespace File

variable (file : File)

def videoMicros : Nat := (file.video.map Duration.micros).getD 0

def audioMicros : Nat := (file.audio.map Duration.micros).getD 0

def opening (fps : Nat) : Opening where
  accessible := true
  durations := some (file.video.map fun duration => duration.micros,
    file.audio.map fun duration => duration.micros)
  init := true
  param := some (file.video.isSome, file.audio.isSome)
  fps := fps
  vo := ⟨false, true⟩
  vdec := ⟨false, true⟩
  bind := ⟨false, true⟩
  audio := ⟨false, true⟩
  videoThread := true
  audioThread := true

def playing (eventCb : Bool) (fps : Nat) : PlayerCtx :=
  ((Device.create eventCb).setFile (file.opening fps)).2.ctx

variable {file} {eventCb : Bool} {fps : Nat}

theorem durations_playing :
    (file.playing eventCb fps).videoTotalDuraion = file.videoMicros ∧
      (file.playing eventCb fps).audioTotalDuraion = file.audioMicros := by
  obtain ⟨video, audio⟩ := file
  cases video <;> cases audio <;> exact ⟨rfl, rfl⟩

theorem micros_short (stream : Option Duration) :
    (stream.map Duration.micros).getD 0 < 2 ^ 32 * 1000 := by
  cases stream with
  | none => decide
  | some duration => exact duration.short

end File

section Agree

variable {ctx : PlayerCtx} {video audio : Nat}

theorem converted_eq_iff (micros : Nat) :
    (BitVec.ofInt 32 micros / 1000).toNat = micros / 1000 ↔ micros < 2 ^ 32 := by
  rw [BitVec.toNat_udiv, BitVec.ofInt_natCast, BitVec.toNat_ofNat]
  have isThousand : (1000 : BitVec 32).toNat = 1000 := rfl
  rw [isThousand]
  omega

theorem accepts_iff (isVideo : ctx.videoTotalDuraion = video) (short : video < 2 ^ 32 * 1000)
    (timeMs : Nat) : ctx.beyond timeMs = false ↔ timeMs ≤ video / 1000 := by
  have isLess : video / 1000 < 2 ^ 64 := by omega
  rw [PlayerCtx.beyond, isVideo, decide_eq_false_iff_not, Nat.not_lt]
  have isQuotient : (Int.tdiv video 1000 % 2 ^ 64).toNat = video / 1000 := by
    rw [Int.tdiv_eq_ediv_of_nonneg (Int.natCast_nonneg video)]
    omega
  rw [isQuotient]

theorem limits_eq {first second : Nat} (below : first < 2 ^ 64) (below' : second < 2 ^ 64)
    (same : ∀ timeMs : BitVec 64, timeMs.toNat ≤ first ↔ timeMs.toNat ≤ second) :
    first = second := by
  have isFirst : (BitVec.ofNat 64 first).toNat = first :=
    BitVec.toNat_ofNat .. |>.trans (Nat.mod_eq_of_lt below)
  have isSecond : (BitVec.ofNat 64 second).toNat = second :=
    BitVec.toNat_ofNat .. |>.trans (Nat.mod_eq_of_lt below')
  have first_le := (same (BitVec.ofNat 64 first)).mp (Nat.le_of_eq isFirst)
  have second_le := (same (BitVec.ofNat 64 second)).mpr (Nat.le_of_eq isSecond)
  omega

theorem agree_iff (isVideo : ctx.videoTotalDuraion = video)
    (isAudio : ctx.audioTotalDuraion = audio) (short : video < 2 ^ 32 * 1000) :
    ctx.TimesAgree video audio ↔
      video < 2 ^ 32 ∧ audio < 2 ^ 32 ∧ video / 1000 = audio / 1000 := by
  have getsVideo : ctx.getVideoDuration.toNat = video / 1000 ↔ video < 2 ^ 32 := by
    rw [PlayerCtx.getVideoDuration, isVideo, converted_eq_iff]
  have getsAudio : ctx.getAudioDuration.toNat = audio / 1000 ↔ audio < 2 ^ 32 := by
    rw [PlayerCtx.getAudioDuration, isAudio, converted_eq_iff]
  constructor
  · intro agree
    have same : video / 1000 = audio / 1000 := by
      refine limits_eq (by omega) ?_ fun timeMs => ?_
      · rw [← agree.audioDuration]
        exact Nat.lt_trans (BitVec.isLt _) (by decide)
      · rw [← accepts_iff isVideo short, ← agree.audioDuration]
        exact agree.audioSeek timeMs
    exact ⟨getsVideo.mp agree.videoDuration, getsAudio.mp agree.audioDuration, same⟩
  · rintro ⟨videoShort, audioShort, same⟩
    have videoDuration := getsVideo.mpr videoShort
    have audioDuration := getsAudio.mpr audioShort
    refine ⟨videoDuration, audioDuration, fun timeMs => ?_, fun timeMs => ?_⟩
    · rw [videoDuration]
      exact accepts_iff isVideo short timeMs.toNat
    · rw [audioDuration, ← same]
      exact accepts_iff isVideo short timeMs.toNat

end Agree

/-- The times agree for durations that fit into 32 bits and are the same in milliseconds, where
a stream that is missing lasts 0. -/
theorem times_agree_iff (file : File) (eventCb : Bool) (fps : Nat) :
    (file.playing eventCb fps).TimesAgree file.videoMicros file.audioMicros ↔
      file.videoMicros < 2 ^ 32 ∧ file.audioMicros < 2 ^ 32 ∧
        file.videoMicros / 1000 = file.audioMicros / 1000 :=
  agree_iff File.durations_playing.1 File.durations_playing.2 (File.micros_short file.video)

def sound : File := ⟨none, some ⟨2000000, by decide⟩⟩

theorem sound_refuses : ¬ ∀ (file : File) (eventCb : Bool) (fps : Nat),
    (file.playing eventCb fps).TimesAgree file.videoMicros file.audioMicros := by
  intro general
  have refused : (sound.playing false 0).beyond 1000 = false :=
    ((general sound false 0).audioSeek 1000).mpr (by decide)
  exact absurd refused (by decide)

end Rkipc.Player
