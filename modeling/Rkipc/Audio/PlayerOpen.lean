import Rkipc.Audio.DecoderCount
import Rkipc.Ini.Dictionary

namespace Rkipc.Audio.PlayerOpen

open Ini

/-! The output, the decoder and the binding of the audio player. -/

structure Mixer where
  spk : Bool
  hp : Bool
  out1 : Bool
  out2 : Bool
deriving DecidableEq

def Mixer.off : Mixer := ⟨false, false, false, false⟩

inductive CodecType
  | mp2
  | mp3
deriving DecidableEq

structure AdecChannel where
  enType : CodecType
  channels : Int
  sampleRate : Int
deriving DecidableEq

/-- What is set up in the MPI, and the registration of the decoder. -/
structure State where
  mixer : Mixer
  ao : Bool
  vqe : Bool
  aoChn : Bool
  reSmp : Option Int
  decoder : DecoderCount.State
  adecChn : Option AdecChannel
  bound : Bool
deriving DecidableEq

/-- The entries of `audio.0`, and whether the sound card is one with an rk730. -/
structure Config where
  format : Text
  enableAoVqe : Bool
  hasVqeFile : Bool
  hasRk730 : Bool

/-- Which calls succeed.  A registration has a handle for the decoder. -/
structure Answers where
  amix : Mixer
  enable : Bool
  setChnParams : Bool
  setVqeAttr : Bool
  enableVqe : Bool
  enableChn : Bool
  enableReSmp : Bool
  setVolume : Bool
  register : Option DecoderCount.Handle
  createChn : Bool
  bind : Bool

/-- The end of a call, and whether it is `RK_SUCCESS`. -/
structure Ret where
  ok : Bool
  state : State

/-- Returns at once when a call fails. -/
def check (succeeds : Bool) (state : State) (next : Ret) : Ret :=
  if succeeds then next else ⟨false, state⟩

section Source

variable (config : Config) (answers : Answers) (sampleRate channels : Int)

/-- `RK_MPI_AMIX_SetControl` of the four switches. -/
def Mixer.set (mixer : Mixer) (on : Bool) : Mixer where
  spk := if answers.amix.spk then on else mixer.spk
  hp := if answers.amix.hp then on else mixer.hp
  out1 := if answers.amix.out1 then on else mixer.out1
  out2 := if answers.amix.out2 then on else mixer.out2

/-- The calls behind `RK_MPI_AO_Enable`. -/
def aoEnabled (state : State) : Ret :=
  let useVqe := config.enableAoVqe && config.hasVqeFile
  check answers.setChnParams state <|
  check (!useVqe || answers.setVqeAttr) state <|
  check (!useVqe || answers.enableVqe) state <|
  let state := { state with vqe := useVqe || state.vqe }
  check answers.enableChn state <|
  let state := { state with aoChn := true }
  check answers.enableReSmp state <|
  let state := { state with reSmp := some sampleRate }
  check answers.setVolume state ⟨true, state⟩

/-- A format that is NULL ends the process. -/
def rkipcAoInitEx (state : State) : Ret :=
  if config.format ≠ "S16".toList ∧ config.format ≠ "U8".toList then ⟨false, state⟩
  else if channels ≠ 1 ∧ channels ≠ 2 then ⟨false, state⟩
  else
    let state :=
      if config.hasRk730 then { state with mixer := state.mixer.set answers true } else state
    check (!config.hasRk730 ||
      (answers.amix.spk && answers.amix.hp && answers.amix.out1 && answers.amix.out2)) state <|
    check answers.enable state <|
    aoEnabled config answers sampleRate { state with ao := true }

def rkipcAoDeinit (state : State) : State where
  mixer := if config.hasRk730 then .off else state.mixer
  ao := false
  vqe := if config.enableAoVqe then false else state.vqe
  aoChn := false
  reSmp := none
  decoder := state.decoder
  adecChn := state.adecChn
  bound := state.bound

def codecType (encodeType : Text) : Option CodecType :=
  if encodeType = "mp2".toList then some .mp2
  else if encodeType = "mp3".toList then some .mp3
  else none

def rkipcAdecInit (encodeType : Option Text) (state : State) : Ret :=
  match encodeType with
  | none => ⟨false, state⟩
  | some encodeType =>
      let registered := DecoderCount.registerAdecMp3 state.decoder answers.register
      let state := { state with decoder := registered.state }
      check (registered.returned = DecoderCount.rkSuccess) state <|
        match codecType encodeType with
        | none => ⟨false, state⟩
        | some enType =>
            check answers.createChn state
              ⟨true, { state with adecChn := some ⟨enType, channels, sampleRate⟩ }⟩

def rkipcAdecDeinit (state : State) : State :=
  { state with
    adecChn := none
    decoder := (DecoderCount.unregisterAdecMp3 state.decoder true).state }

def rkipcAudioPlayerInit (encodeType : Option Text) (state : State) : Ret :=
  let ao := rkipcAoInitEx config answers sampleRate channels state
  check ao.ok ao.state <|
  let adec := rkipcAdecInit answers sampleRate channels encodeType ao.state
  check adec.ok adec.state <|
  check answers.bind adec.state ⟨true, { adec.state with bound := true }⟩

/-- The calls succeed. -/
def rkipcAudioPlayerDeinit (state : State) : State :=
  rkipcAoDeinit config (rkipcAdecDeinit { state with bound := false })

end Source

/-- Nothing of a player is there; other users of the decoder may be. -/
structure Closed where
  decoder : DecoderCount.State
  inStep : decoder.InStep

def Closed.state (closed : Closed) : State where
  mixer := .off
  ao := false
  vqe := false
  aoChn := false
  reSmp := none
  decoder := closed.decoder
  adecChn := none
  bound := false

structure Opening where
  config : Config
  answers : Answers
  sampleRate : Int
  channels : Int
  encodeType : Option Text

namespace Opening

variable (opening : Opening) (closed : Closed)

def ret : Ret :=
  rkipcAudioPlayerInit opening.config opening.answers opening.sampleRate opening.channels
    opening.encodeType closed.state

/-- Nothing is left of an opening that fails, nor of one that succeeds behind the deinit. -/
structure Atomic : Prop where
  fails : (opening.ret closed).ok = false → (opening.ret closed).state = closed.state
  succeeds : (opening.ret closed).ok = true →
    rkipcAudioPlayerDeinit opening.config (opening.ret closed).state = closed.state

def Supported : Prop :=
  (opening.config.format = "S16".toList ∨ opening.config.format = "U8".toList) ∧
    (opening.channels = 1 ∨ opening.channels = 2)

/-- The first call that has an effect fails: one of those for the four switches where the
card has them, each of which fails, else the one that enables the output. -/
def FailsFirst : Prop :=
  if opening.config.hasRk730 then opening.answers.amix = .off
  else opening.answers.enable = false

def useVqe : Bool := opening.config.enableAoVqe && opening.config.hasVqeFile

/-- The codec is known, and every call succeeds. -/
structure AllSucceed (decoder : DecoderCount.State) : Prop where
  switches : opening.config.hasRk730 = true → opening.answers.amix = ⟨true, true, true, true⟩
  enable : opening.answers.enable = true
  setChnParams : opening.answers.setChnParams = true
  vqe : opening.useVqe = true →
    opening.answers.setVqeAttr = true ∧ opening.answers.enableVqe = true
  enableChn : opening.answers.enableChn = true
  enableReSmp : opening.answers.enableReSmp = true
  setVolume : opening.answers.setVolume = true
  register : decoder.mp3DecInitCnt = 0 → opening.answers.register ≠ none
  codec : ∃ encodeType, opening.encodeType = some encodeType ∧ codecType encodeType ≠ none
  createChn : opening.answers.createChn = true
  bind : opening.answers.bind = true

end Opening

section Checks

variable {succeeds : Bool} {state : State} {next : Ret}

theorem check_ok : (check succeeds state next).ok = true ↔ succeeds = true ∧ next.ok = true := by
  cases succeeds with
  | false => exact iff_of_false nofun nofun
  | true => exact (and_iff_right rfl).symm

/-- What holds before a call and at the end holds when the call fails. -/
theorem check_keeps {p : State → Prop} (before : p state) (after : p next.state) :
    p (check succeeds state next).state := by
  cases succeeds with
  | false => exact before
  | true => exact after

end Checks

/-- A switch is on, or the output is enabled. -/
def Dirty (state : State) : Prop := state.mixer ≠ .off ∨ state.ao = true

section Source

variable {config : Config} {answers : Answers} {sampleRate channels : Int} {state : State}
  {encodeType : Option Text}

theorem dirty_aoEnabled (dirty : Dirty state) :
    Dirty (aoEnabled config answers sampleRate state).state :=
  check_keeps dirty <| check_keeps dirty <| check_keeps dirty <| check_keeps dirty <|
    check_keeps dirty <| check_keeps dirty dirty

theorem dirty_adecInit (dirty : Dirty state) :
    Dirty (rkipcAdecInit answers sampleRate channels encodeType state).state := by
  cases encodeType with
  | none => exact dirty
  | some encodeType =>
    refine check_keeps dirty ?_
    cases codecType encodeType with
    | none => exact dirty
    | some enType => exact check_keeps dirty dirty

theorem dirty_playerInit
    (dirty : Dirty (rkipcAoInitEx config answers sampleRate channels state).state) :
    Dirty (rkipcAudioPlayerInit config answers sampleRate channels encodeType state).state :=
  check_keeps dirty <| check_keeps (dirty_adecInit dirty) <|
    check_keeps (dirty_adecInit dirty) (dirty_adecInit dirty)

end Source

namespace Opening

variable {opening : Opening} {closed : Closed}

theorem not_dirty_closed : ¬ Dirty closed.state := by
  rintro (notOff | isOn)
  · exact notOff rfl
  · cases isOn

theorem set_closed : closed.state.mixer.set opening.answers true = opening.answers.amix := by
  simp [Closed.state, Mixer.off, Mixer.set]

theorem ret_of_unsupported (unsupported : ¬ opening.Supported) :
    opening.ret closed = ⟨false, closed.state⟩ := by
  have isSame : rkipcAoInitEx opening.config opening.answers opening.sampleRate opening.channels
      closed.state = ⟨false, closed.state⟩ := by
    rw [rkipcAoInitEx]
    split
    · rfl
    next isFormat =>
      split
      · rfl
      next isChannels =>
        rw [← not_or, not_not] at isFormat isChannels
        exact absurd ⟨isFormat, isChannels⟩ unsupported
  rw [ret, rkipcAudioPlayerInit, isSame]
  rfl

theorem aoInitEx_of_supported (supported : opening.Supported) (state : State) :
    rkipcAoInitEx opening.config opening.answers opening.sampleRate opening.channels state =
      let state := if opening.config.hasRk730 then
        { state with mixer := state.mixer.set opening.answers true } else state
      check (!opening.config.hasRk730 ||
        (opening.answers.amix.spk && opening.answers.amix.hp && opening.answers.amix.out1 &&
          opening.answers.amix.out2)) state <|
      check opening.answers.enable state <|
      aoEnabled opening.config opening.answers opening.sampleRate { state with ao := true } := by
  have isFormat :
      ¬ (opening.config.format ≠ "S16".toList ∧ opening.config.format ≠ "U8".toList) := by
    rw [← not_or, not_not]
    exact supported.1
  have isChannels : ¬ (opening.channels ≠ 1 ∧ opening.channels ≠ 2) := by
    rw [← not_or, not_not]
    exact supported.2
  rw [rkipcAoInitEx, if_neg isFormat, if_neg isChannels]

theorem ret_of_failsFirst (supported : opening.Supported) (failsFirst : opening.FailsFirst) :
    opening.ret closed = ⟨false, closed.state⟩ := by
  have isSame : rkipcAoInitEx opening.config opening.answers opening.sampleRate opening.channels
      closed.state = ⟨false, closed.state⟩ := by
    rw [aoInitEx_of_supported supported]
    rw [FailsFirst] at failsFirst
    cases hasRk730 : opening.config.hasRk730 with
    | true =>
      rw [if_pos hasRk730] at failsFirst
      dsimp only
      rw [if_pos rfl, set_closed, failsFirst]
      rfl
    | false =>
      rw [if_neg (by rw [hasRk730]; exact nofun)] at failsFirst
      dsimp only
      rw [if_neg nofun, failsFirst]
      rfl
  rw [ret, rkipcAudioPlayerInit, isSame]
  rfl

theorem dirty_ret (supported : opening.Supported) (notFirst : ¬ opening.FailsFirst) :
    Dirty (opening.ret closed).state := by
  refine dirty_playerInit ?_
  rw [aoInitEx_of_supported supported]
  rw [FailsFirst] at notFirst
  cases hasRk730 : opening.config.hasRk730 with
  | true =>
    rw [if_pos hasRk730] at notFirst
    dsimp only
    rw [if_pos rfl, set_closed]
    have dirty : Dirty { closed.state with mixer := opening.answers.amix } := .inl notFirst
    exact check_keeps dirty (check_keeps dirty (dirty_aoEnabled (.inl notFirst)))
  | false =>
    rw [if_neg (by rw [hasRk730]; exact nofun), Bool.not_eq_false] at notFirst
    dsimp only
    rw [if_neg nofun, notFirst]
    exact dirty_aoEnabled (.inr rfl)

theorem registered_iff {decoder : DecoderCount.State} {handle : Option DecoderCount.Handle} :
    decide ((DecoderCount.registerAdecMp3 decoder handle).returned =
        DecoderCount.rkSuccess) = true ↔
      (decoder.mp3DecInitCnt = 0 → handle ≠ none) := by
  rw [decide_eq_true_iff, DecoderCount.registerAdecMp3.eq_def]
  by_cases isZero : decoder.mp3DecInitCnt = 0
  · rw [if_pos isZero]
    cases handle with
    | none =>
      have differ : DecoderCount.rkFailure ≠ DecoderCount.rkSuccess := by decide
      exact iff_of_false differ fun given => given isZero rfl
    | some handle => exact iff_of_true rfl fun _ => Option.some_ne_none handle
  · rw [if_neg isZero]
    exact iff_of_true rfl fun none => absurd none isZero

def opened (opening : Opening) (closed : Closed) (enType : CodecType) : State where
  mixer := if opening.config.hasRk730 then ⟨true, true, true, true⟩ else .off
  ao := true
  vqe := opening.useVqe
  aoChn := true
  reSmp := some opening.sampleRate
  decoder := (DecoderCount.registerAdecMp3 closed.decoder opening.answers.register).state
  adecChn := some ⟨enType, opening.channels, opening.sampleRate⟩
  bound := true

theorem aoInitEx_of_allSucceed (supported : opening.Supported)
    (succeed : opening.AllSucceed closed.decoder) :
    rkipcAoInitEx opening.config opening.answers opening.sampleRate opening.channels
      closed.state =
      { ok := true
        state :=
          { closed.state with
            mixer := if opening.config.hasRk730 then ⟨true, true, true, true⟩ else .off
            ao := true
            vqe := opening.useVqe
            aoChn := true
            reSmp := some opening.sampleRate } } := by
  have vqeSet : (!opening.useVqe || opening.answers.setVqeAttr) = true := by
    cases useVqe : opening.useVqe with
    | false => rfl
    | true => exact (succeed.vqe useVqe).1
  have vqeEnabled : (!opening.useVqe || opening.answers.enableVqe) = true := by
    cases useVqe : opening.useVqe with
    | false => rfl
    | true => exact (succeed.vqe useVqe).2
  have isEnabled : ∀ state : State,
      aoEnabled opening.config opening.answers opening.sampleRate state =
        ⟨true, { state with
          vqe := opening.useVqe || state.vqe, aoChn := true
          reSmp := some opening.sampleRate }⟩ := by
    intro state
    rw [aoEnabled, succeed.setChnParams, succeed.enableChn, succeed.enableReSmp,
      succeed.setVolume]
    exact (if_pos rfl).trans ((if_pos vqeSet).trans (if_pos vqeEnabled))
  rw [aoInitEx_of_supported supported, succeed.enable]
  dsimp only
  rw [isEnabled]
  cases hasRk730 : opening.config.hasRk730 with
  | true =>
    rw [if_pos rfl, set_closed, succeed.switches hasRk730]
    simp [check, Closed.state]
  | false => simp [check, Closed.state]

theorem adecInit_of_succeed {state : State} {encodeType : Text} {enType : CodecType}
    (register : state.decoder.mp3DecInitCnt = 0 → opening.answers.register ≠ none)
    (isEnType : codecType encodeType = some enType)
    (createChn : opening.answers.createChn = true) :
    rkipcAdecInit opening.answers opening.sampleRate opening.channels (some encodeType) state =
      { ok := true
        state :=
          { state with
            decoder := (DecoderCount.registerAdecMp3 state.decoder opening.answers.register).state
            adecChn := some ⟨enType, opening.channels, opening.sampleRate⟩ } } := by
  rw [rkipcAdecInit, check, if_pos (registered_iff.mpr register), isEnType]
  exact if_pos createChn

theorem ret_of_allSucceed (supported : opening.Supported)
    (succeed : opening.AllSucceed closed.decoder) :
    ∃ enType, opening.ret closed = ⟨true, opening.opened closed enType⟩ := by
  obtain ⟨encodeType, isType, isCodec⟩ := succeed.codec
  obtain ⟨enType, isEnType⟩ := Option.ne_none_iff_exists'.mp isCodec
  refine ⟨enType, ?_⟩
  rw [ret, rkipcAudioPlayerInit, aoInitEx_of_allSucceed supported succeed, isType]
  dsimp only
  rw [adecInit_of_succeed succeed.register isEnType succeed.createChn, succeed.bind]
  rfl

theorem decoder_aoInitEx (supported : opening.Supported) :
    (rkipcAoInitEx opening.config opening.answers opening.sampleRate opening.channels
      closed.state).state.decoder = closed.decoder := by
  rw [aoInitEx_of_supported supported]
  have begun : (if opening.config.hasRk730 then
      { closed.state with mixer := closed.state.mixer.set opening.answers true }
      else closed.state).decoder = closed.decoder := by
    split <;> rfl
  let kept : State → Prop := fun state => state.decoder = closed.decoder
  exact check_keeps (p := kept) begun <| check_keeps (p := kept) begun <|
    check_keeps (p := kept) begun <| check_keeps (p := kept) begun <|
    check_keeps (p := kept) begun <| check_keeps (p := kept) begun <|
    check_keeps (p := kept) begun <| check_keeps (p := kept) begun begun

theorem not_or_iff {uses succeeds : Bool} :
    (!uses || succeeds) = true ↔ (uses = true → succeeds = true) := by
  cases uses <;> cases succeeds <;> decide

theorem allSucceed_of_ok (supported : opening.Supported)
    (isOk : (opening.ret closed).ok = true) : opening.AllSucceed closed.decoder := by
  obtain ⟨aoOk, isOk⟩ := check_ok.mp isOk
  obtain ⟨adecOk, isOk⟩ := check_ok.mp isOk
  have bound := (check_ok.mp isOk).1
  have isDecoder : (rkipcAoInitEx opening.config opening.answers opening.sampleRate
      opening.channels closed.state).state.decoder = closed.decoder :=
    decoder_aoInitEx supported
  rw [aoInitEx_of_supported supported] at aoOk
  obtain ⟨switches, aoOk⟩ := check_ok.mp aoOk
  obtain ⟨enable, aoOk⟩ := check_ok.mp aoOk
  obtain ⟨setChnParams, aoOk⟩ := check_ok.mp aoOk
  obtain ⟨setVqeAttr, aoOk⟩ := check_ok.mp aoOk
  obtain ⟨enableVqe, aoOk⟩ := check_ok.mp aoOk
  obtain ⟨enableChn, aoOk⟩ := check_ok.mp aoOk
  obtain ⟨enableReSmp, aoOk⟩ := check_ok.mp aoOk
  obtain ⟨setVolume, _⟩ := check_ok.mp aoOk
  obtain ⟨encodeType, isType⟩ : ∃ encodeType, opening.encodeType = some encodeType := by
    rw [← Option.ne_none_iff_exists']
    intro isNone
    rw [isNone] at adecOk
    cases adecOk
  rw [isType] at adecOk
  obtain ⟨register, adecOk⟩ := check_ok.mp adecOk
  have isRegistered := registered_iff.mp register
  rw [isDecoder] at isRegistered
  obtain ⟨enType, isEnType⟩ : ∃ enType, codecType encodeType = some enType := by
    rw [← Option.ne_none_iff_exists']
    intro isNone
    rw [isNone] at adecOk
    cases adecOk
  rw [isEnType] at adecOk
  refine ⟨fun hasRk730 => ?_, enable, setChnParams, fun useVqe =>
    ⟨not_or_iff.mp setVqeAttr useVqe, not_or_iff.mp enableVqe useVqe⟩, enableChn, enableReSmp,
    setVolume, isRegistered, ⟨encodeType, isType, by rw [isEnType]; exact nofun⟩,
    (check_ok.mp adecOk).1, bound⟩
  have allOn := not_or_iff.mp switches hasRk730
  simp only [Bool.and_eq_true] at allOn
  obtain ⟨⟨⟨spk, hp⟩, out1⟩, out2⟩ := allOn
  calc opening.answers.amix
      = ⟨opening.answers.amix.spk, opening.answers.amix.hp, opening.answers.amix.out1,
          opening.answers.amix.out2⟩ := rfl
    _ = ⟨true, true, true, true⟩ := by rw [spk, hp, out1, out2]

theorem deinit_opened (enType : CodecType) :
    rkipcAudioPlayerDeinit opening.config (opening.opened closed enType) =
      { closed.state with
        decoder := (DecoderCount.unregisterAdecMp3
          (DecoderCount.registerAdecMp3 closed.decoder opening.answers.register).state
            true).state } := by
  have isMixer : (if opening.config.hasRk730 then Mixer.off
      else if opening.config.hasRk730 then ⟨true, true, true, true⟩ else .off) = .off := by
    cases opening.config.hasRk730 <;> rfl
  have isVqe : (if opening.config.enableAoVqe then false else opening.useVqe) = false := by
    rw [useVqe]
    cases opening.config.enableAoVqe <;> rfl
  rw [rkipcAudioPlayerDeinit, rkipcAoDeinit, rkipcAdecDeinit, opened]
  dsimp only
  rw [isMixer, isVqe]
  rfl

end Opening

/-- An opening leaves nothing when it fails before anything is set up; one that succeeds is
undone, unless the counter of the decoder has wrapped. -/
theorem open_atomic_iff (opening : Opening) (closed : Closed) :
    opening.Atomic closed ↔ ¬ opening.Supported ∨ opening.FailsFirst ∨
      opening.AllSucceed closed.decoder ∧ closed.decoder.mp3DecInitCnt ≠ 0xffffffff := by
  by_cases supported : opening.Supported
  · rw [or_iff_right (not_not.mpr supported)]
    by_cases failsFirst : opening.FailsFirst
    · refine iff_of_true ⟨fun _ => ?_, fun isOk => ?_⟩ (.inl failsFirst)
      · rw [Opening.ret_of_failsFirst supported failsFirst]
      · rw [Opening.ret_of_failsFirst supported failsFirst] at isOk
        cases isOk
    · rw [or_iff_right failsFirst]
      have dirty : Dirty (opening.ret closed).state :=
        Opening.dirty_ret supported failsFirst
      by_cases succeed : opening.AllSucceed closed.decoder
      · rw [and_iff_right succeed,
          ← DecoderCount.unregister_register_iff closed.inStep succeed.register]
        obtain ⟨enType, isRet⟩ := Opening.ret_of_allSucceed supported succeed
        constructor
        · intro atomic
          have undone := atomic.succeeds (by rw [isRet])
          rw [isRet, Opening.deinit_opened] at undone
          exact congrArg State.decoder undone
        · intro undone
          refine ⟨fun fails => ?_, fun _ => ?_⟩
          · rw [isRet] at fails
            cases fails
          · rw [isRet, Opening.deinit_opened, undone]
            rfl
      · refine iff_of_false (fun atomic => ?_) fun both => succeed both.1
        have fails : (opening.ret closed).ok = false := by
          rw [← Bool.not_eq_true]
          exact fun isOk => succeed (Opening.allSucceed_of_ok supported isOk)
        rw [atomic.fails fails] at dirty
        exact Opening.not_dirty_closed dirty
  · refine iff_of_true ⟨fun _ => ?_, fun isOk => ?_⟩ (.inl supported)
    · rw [Opening.ret_of_unsupported supported]
    · rw [Opening.ret_of_unsupported supported] at isOk
      cases isOk

def unknownCodec : Opening where
  config := ⟨"S16".toList, false, false, false⟩
  answers := ⟨.off, true, true, true, true, true, true, true, some DecoderCount.firstHandle, true,
    true⟩
  sampleRate := 44100
  channels := 2
  encodeType := some "aac".toList

theorem unknown_codec_leaves : ¬ ∀ (opening : Opening) (closed : Closed),
    opening.Atomic closed := by
  intro general
  let closed : Closed := ⟨DecoderCount.start, .start⟩
  have left := (general unknownCodec closed).fails (by decide)
  have isOn : (unknownCodec.ret closed).state.ao = true := by decide
  rw [left] at isOn
  cases isOn

end Rkipc.Audio.PlayerOpen
