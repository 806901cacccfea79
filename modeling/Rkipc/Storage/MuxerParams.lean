import Rkipc.Param.Copies

namespace Rkipc.Storage.MuxerParams

open Ini Param Param.Copies

/-! The parameters of the muxer, which are filled over what they held before.  Numbers are
exact. -/

/-- The arrays of the header of the muxer; the one for `"NV12"` has room for it. -/
structure Sizes extends MuxerParam where
  videoFormat : Nat
  nv12 : 4 < videoFormat

/-- An array is the characters before the zeros behind them. -/
structure VideoParam where
  width : Int
  height : Int
  bitRate : Int
  frameRateDen : Int
  frameRateNum : Int
  profile : Int
  level : Int
  codec : Text
  format : Text
deriving DecidableEq

structure AudioParam where
  channels : Int
  sampleRate : Int
  frameSize : Int
  format : Text
  codec : Text
deriving DecidableEq

structure MuxerGroup where
  video : VideoParam
  audio : AudioParam
deriving DecidableEq

def VideoParam.zero : VideoParam := ⟨0, 0, 0, 0, 0, 0, 0, [], []⟩

def MuxerGroup.zero : MuxerGroup := ⟨.zero, ⟨0, 0, 0, [], []⟩⟩

section Init

/-- `if (src) memcpy(array, src, strlen(src))`, over what the array held. -/
def memcpyOver (size : Nat) (held : Text) (src : Option Text) : Except Fault Text :=
  match src with
  | none => .ok held
  | some src => if src.length ≤ size then .ok (src ++ held.drop src.length) else .error .overflow

/-- The profiles that are known. -/
def profileOf (h264Profile : Text) : Option Int :=
  if h264Profile = "high".toList then some 100
  else if h264Profile = "main".toList then some 77
  else if h264Profile = "baseline".toList then some 66
  else none

variable (sizes : Sizes) (id : Nat) (d : Dictionary)

/-- What both functions do to the parameters of the video; they differ in two defaults. -/
def fillVideo (maxRate : Int) (outputDataType : Option Text) (video : VideoParam) :
    Except Fault VideoParam := do
  let codec ← memcpyOver sizes.videoCodec video.codec
    (getString d (entryKey "video" id ":output_data_type") outputDataType)
  match h264Profile d id with
  | none => throw .null
  | some h264Profile =>
      let format ← memcpyOver sizes.videoFormat video.format (some "NV12".toList)
      return {
        level := 52
        width := getInt d (entryKey "video" id ":width") 1920
        height := getInt d (entryKey "video" id ":height") 1080
        bitRate := getInt d (entryKey "video" id ":max_rate") maxRate * 1024
        frameRateDen := getInt d (entryKey "video" id ":dst_frame_rate_den") 1
        frameRateNum := getInt d (entryKey "video" id ":dst_frame_rate_num") 30
        profile := (profileOf h264Profile).getD video.profile
        codec, format }

def fillAudio (audio : AudioParam) : Except Fault AudioParam := do
  let format ← memcpyOver sizes.audioFormat audio.format (getString d "audio.0:format".toList none)
  let codec ← memcpyOver sizes.audioCodec audio.codec
    (getString d "audio.0:encode_type".toList none)
  return {
    channels := getInt d "audio.0:channels".toList 2
    sampleRate := getInt d "audio.0:sample_rate".toList 16000
    frameSize := getInt d "audio.0:frame_size".toList 1024
    format, codec }

/-- `rk_storage_muxer_init_by_id`, up to the parameters of the muxer. -/
def rkStorageMuxerInitById (group : MuxerGroup) : Except Fault MuxerGroup := do
  let video ← fillVideo sizes id d 512 none group.video
  return ⟨video, ← fillAudio sizes d group.audio⟩

/-- `rk_rtmp_init`, which clears the parameters first. -/
def rkRtmpInit (_ : VideoParam) : Except Fault VideoParam :=
  fillVideo sizes id d 1024 (some "H.264".toList) .zero

end Init

/-- The configurations with which the parameters of an `id` are filled, one after the other. -/
def run (sizes : Sizes) (id : Nat) : List Dictionary → MuxerGroup → Except Fault MuxerGroup
  | [], group => .ok group
  | d :: rest, group => do run sizes id rest (← rkStorageMuxerInitById sizes id d group)

/-- Both lead to the muxer with the same parameters, and these are exact. -/
def Agree {α : Type} (exact : α → Prop) (first second : Except Fault α) : Prop :=
  first ≠ .error .overflow ∧ second ≠ .error .overflow ∧
    ∀ one other, first = .ok one → second = .ok other → one = other ∧ exact one

/-- The array reads as the string, if there is one. -/
def Reads (size : Nat) (held : Text) (src : Option Text) : Prop :=
  ∀ text, src = some text → held = text ∧ text.length < size

def Fits (size : Nat) (src : Option Text) : Prop := ∀ text, src = some text → text.length ≤ size

/-- Nothing stays of what two arrays held, or they held the same and nothing is written. -/
def Overwrites (size : Nat) (src : Option Text) (held other : Text) : Prop :=
  (src = none → held = other) ∧
    ∀ text, src = some text →
      text.length < size ∧ held.length ≤ text.length ∧ other.length ≤ text.length

def outputDataType (id : Nat) (d : Dictionary) (default : Option Text) : Option Text :=
  getString d (entryKey "video" id ":output_data_type") default

def audioFormat (d : Dictionary) : Option Text := getString d "audio.0:format".toList none

def encodeType (d : Dictionary) : Option Text := getString d "audio.0:encode_type".toList none

section Agreement

variable (sizes : Sizes) (id : Nat) (d : Dictionary)

structure VideoParam.Exact (default : Option Text) (video : VideoParam) : Prop where
  codec : Reads sizes.videoCodec video.codec (outputDataType id d default)
  format : Reads sizes.videoFormat video.format (some "NV12".toList)

structure MuxerGroup.Exact (group : MuxerGroup) : Prop where
  video : group.video.Exact sizes id d none
  format : Reads sizes.audioFormat group.audio.format (audioFormat d)
  codec : Reads sizes.audioCodec group.audio.codec (encodeType d)

/-- The codec fits, and unless the profile is NULL, it is known or was the same before, and the
strings cover what was there. -/
structure Covers (one other : MuxerGroup) : Prop where
  fits : Fits sizes.videoCodec (outputDataType id d none)
  profile : ∀ text, h264Profile d id = some text → profileOf text = none →
    one.video.profile = other.video.profile
  strings : h264Profile d id ≠ none →
    Overwrites sizes.videoCodec (outputDataType id d none) one.video.codec other.video.codec ∧
      Overwrites sizes.audioFormat (audioFormat d) one.audio.format other.audio.format ∧
      Overwrites sizes.audioCodec (encodeType d) one.audio.codec other.audio.codec

structure RtmpFits : Prop where
  fits : Fits sizes.videoCodec (outputDataType id d (some "H.264".toList))
  terminated : h264Profile d id ≠ none → ∀ codec,
    outputDataType id d (some "H.264".toList) = some codec → codec.length < sizes.videoCodec

end Agreement

section Outcomes

variable {α : Type} {exact : α → Prop}

theorem agree_null : Agree exact (.error .null) (.error .null) :=
  ⟨nofun, nofun, fun _ _ isOne => by cases isOne⟩

theorem agree_ok_iff {one other : α} :
    Agree exact (.ok one) (.ok other) ↔ one = other ∧ exact one := by
  constructor
  · exact fun agree => agree.2.2 one other rfl rfl
  · refine fun both => ⟨nofun, nofun, fun _ _ isOne isOther => ?_⟩
    cases isOne
    cases isOther
    exact both

end Outcomes

section Strings

variable {size : Nat} {held other : Text} {src : Option Text}

/-- What an array holds behind a copy. -/
def overlay (held : Text) (src : Option Text) : Text :=
  src.elim held fun src => src ++ held.drop src.length

theorem memcpyOver_of_fits (fits : Fits size src) (held : Text) :
    memcpyOver size held src = .ok (overlay held src) := by
  cases src with
  | none => rfl
  | some text => exact if_pos (fits text rfl)

theorem memcpyOver_of_not_fits (long : ¬ Fits size src) (held : Text) :
    memcpyOver size held src = .error .overflow := by
  cases src with
  | none => exact absurd (fun _ => nofun) long
  | some text =>
      refine if_neg fun short => long fun other same => ?_
      cases same
      exact short

theorem Overwrites.fits (covers : Overwrites size src held other) : Fits size src :=
  fun text isText => (covers.2 text isText).1.le

theorem overlay_eq_iff :
    overlay held src = overlay other src ∧ Reads size (overlay held src) src ↔
      Overwrites size src held other := by
  cases src with
  | none =>
      exact ⟨fun both => ⟨fun _ => both.1, nofun⟩, fun covers => ⟨covers.1 rfl, nofun⟩⟩
  | some text =>
      have isText (array : Text) :
          overlay array (some text) = text ↔ array.length ≤ text.length := by
        change text ++ array.drop text.length = text ↔ _
        rw [List.append_right_eq_self, List.drop_eq_nil_iff]
      constructor
      · rintro ⟨same, reads⟩
        obtain ⟨isHeld, below⟩ := reads text rfl
        refine ⟨nofun, fun _ isSome => ?_⟩
        cases isSome
        exact ⟨below, (isText held).mp isHeld, (isText other).mp (same ▸ isHeld)⟩
      · intro covers
        obtain ⟨below, isHeld, isOther⟩ := covers.2 text rfl
        rw [← isText] at isHeld isOther
        refine ⟨isHeld.trans isOther.symm, fun _ isSome => ?_⟩
        cases isSome
        exact ⟨isHeld, below⟩

end Strings

section Groups

variable {sizes : Sizes} {id : Nat} {d : Dictionary} {profile : Text}

/-- The parameters of the video behind a call that goes through. -/
def filledVideo (id : Nat) (d : Dictionary) (profile : Text) (maxRate : Int)
    (default : Option Text) (video : VideoParam) : VideoParam where
  level := 52
  width := getInt d (entryKey "video" id ":width") 1920
  height := getInt d (entryKey "video" id ":height") 1080
  bitRate := getInt d (entryKey "video" id ":max_rate") maxRate * 1024
  frameRateDen := getInt d (entryKey "video" id ":dst_frame_rate_den") 1
  frameRateNum := getInt d (entryKey "video" id ":dst_frame_rate_num") 30
  profile := (profileOf profile).getD video.profile
  codec := overlay video.codec (outputDataType id d default)
  format := overlay video.format (some "NV12".toList)

def filledAudio (d : Dictionary) (audio : AudioParam) : AudioParam where
  channels := getInt d "audio.0:channels".toList 2
  sampleRate := getInt d "audio.0:sample_rate".toList 16000
  frameSize := getInt d "audio.0:frame_size".toList 1024
  format := overlay audio.format (audioFormat d)
  codec := overlay audio.codec (encodeType d)

def filled (id : Nat) (d : Dictionary) (profile : Text) (group : MuxerGroup) : MuxerGroup :=
  ⟨filledVideo id d profile 512 none group.video, filledAudio d group.audio⟩

theorem fits_nv12 (sizes : Sizes) : Fits sizes.videoFormat (some "NV12".toList) := by
  intro text same
  cases same
  exact sizes.nv12.le

theorem fillVideo_eq {maxRate : Int} {default : Option Text}
    (fits : Fits sizes.videoCodec (outputDataType id d default))
    (isProfile : h264Profile d id = some profile) (video : VideoParam) :
    fillVideo sizes id d maxRate default video =
      .ok (filledVideo id d profile maxRate default video) := by
  unfold fillVideo
  rw [isProfile]
  change (memcpyOver sizes.videoCodec video.codec (outputDataType id d default) >>= _) = _
  rw [memcpyOver_of_fits fits]
  dsimp only [bind, Except.bind]
  rw [memcpyOver_of_fits (fits_nv12 sizes)]
  rfl

theorem fillVideo_null {maxRate : Int} {default : Option Text}
    (fits : Fits sizes.videoCodec (outputDataType id d default))
    (isNull : h264Profile d id = none) (video : VideoParam) :
    fillVideo sizes id d maxRate default video = .error .null := by
  unfold fillVideo
  rw [isNull]
  change (memcpyOver sizes.videoCodec video.codec (outputDataType id d default) >>= _) = _
  rw [memcpyOver_of_fits fits]
  rfl

theorem fillVideo_overflow {maxRate : Int} {default : Option Text}
    (long : ¬ Fits sizes.videoCodec (outputDataType id d default)) (video : VideoParam) :
    fillVideo sizes id d maxRate default video = .error .overflow := by
  unfold fillVideo
  change (memcpyOver sizes.videoCodec video.codec (outputDataType id d default) >>= _) = _
  rw [memcpyOver_of_not_fits long]
  rfl

theorem fillAudio_eq (format : Fits sizes.audioFormat (audioFormat d))
    (codec : Fits sizes.audioCodec (encodeType d)) (audio : AudioParam) :
    fillAudio sizes d audio = .ok (filledAudio d audio) := by
  unfold fillAudio
  change (memcpyOver sizes.audioFormat audio.format (audioFormat d) >>= fun format =>
    memcpyOver sizes.audioCodec audio.codec (encodeType d) >>= _) = _
  rw [memcpyOver_of_fits format, memcpyOver_of_fits codec]
  rfl

theorem fillAudio_overflow
    (long : ¬ (Fits sizes.audioFormat (audioFormat d) ∧ Fits sizes.audioCodec (encodeType d)))
    (audio : AudioParam) : fillAudio sizes d audio = .error .overflow := by
  unfold fillAudio
  change (memcpyOver sizes.audioFormat audio.format (audioFormat d) >>= fun format =>
    memcpyOver sizes.audioCodec audio.codec (encodeType d) >>= _) = _
  by_cases format : Fits sizes.audioFormat (audioFormat d)
  · rw [memcpyOver_of_fits format,
      memcpyOver_of_not_fits fun codec => long ⟨format, codec⟩]
    rfl
  · rw [memcpyOver_of_not_fits format]
    rfl

variable {one other : MuxerGroup}

/-- Two calls that go through, over arrays whose format is `"NV12"` or empty. -/
theorem filled_eq_iff (oneFormat : one.video.format.length ≤ 4)
    (otherFormat : other.video.format.length ≤ 4) :
    filled id d profile one = filled id d profile other ∧
        (filled id d profile one).Exact sizes id d ↔
      (profileOf profile = none → one.video.profile = other.video.profile) ∧
        Overwrites sizes.videoCodec (outputDataType id d none) one.video.codec
          other.video.codec ∧
        Overwrites sizes.audioFormat (audioFormat d) one.audio.format other.audio.format ∧
        Overwrites sizes.audioCodec (encodeType d) one.audio.codec other.audio.codec := by
  have nv12 {held : Text} (short : held.length ≤ 4) :
      overlay held (some "NV12".toList) = "NV12".toList := by
    change "NV12".toList ++ held.drop 4 = _
    rw [List.drop_eq_nil_iff.mpr short, List.append_nil]
  rw [← overlay_eq_iff, ← overlay_eq_iff, ← overlay_eq_iff]
  constructor
  · rintro ⟨same, exact⟩
    have video := congrArg MuxerGroup.video same
    have audio := congrArg MuxerGroup.audio same
    refine ⟨fun unknown => ?_, ⟨congrArg VideoParam.codec video, exact.video.codec⟩,
      ⟨congrArg AudioParam.format audio, exact.format⟩,
      ⟨congrArg AudioParam.codec audio, exact.codec⟩⟩
    have sameProfile : (profileOf profile).getD one.video.profile =
        (profileOf profile).getD other.video.profile := congrArg VideoParam.profile video
    rwa [unknown] at sameProfile
  · rintro ⟨unknown, codec, format, audioCodec⟩
    have sameProfile : (profileOf profile).getD one.video.profile =
        (profileOf profile).getD other.video.profile := by
      cases isKnown : profileOf profile with
      | none => exact unknown isKnown
      | some number => rfl
    have sameFormat := (nv12 oneFormat).trans (nv12 otherFormat).symm
    have isFormat : Reads sizes.videoFormat (overlay one.video.format (some "NV12".toList))
        (some "NV12".toList) := by
      intro text same
      cases same
      exact ⟨nv12 oneFormat, sizes.nv12⟩
    refine ⟨?_, ⟨codec.2, isFormat⟩, format.2, audioCodec.2⟩
    unfold filled filledVideo filledAudio
    rw [sameProfile, sameFormat, codec.1, format.1, audioCodec.1]

/-- Whether a call goes through does not depend on what it writes over. -/
theorem init_cases (sizes : Sizes) (id : Nat) (d : Dictionary) :
    (¬ Fits sizes.videoCodec (outputDataType id d none) ∧
        ∀ group, rkStorageMuxerInitById sizes id d group = .error .overflow) ∨
      (Fits sizes.videoCodec (outputDataType id d none) ∧ h264Profile d id = none ∧
        ∀ group, rkStorageMuxerInitById sizes id d group = .error .null) ∨
      ∃ profile, h264Profile d id = some profile ∧
        Fits sizes.videoCodec (outputDataType id d none) ∧
        ((¬ (Fits sizes.audioFormat (audioFormat d) ∧ Fits sizes.audioCodec (encodeType d)) ∧
            ∀ group, rkStorageMuxerInitById sizes id d group = .error .overflow) ∨
          ∀ group, rkStorageMuxerInitById sizes id d group =
            .ok (filled id d profile group)) := by
  unfold rkStorageMuxerInitById
  by_cases fits : Fits sizes.videoCodec (outputDataType id d none)
  · refine .inr ?_
    cases isProfile : h264Profile d id with
    | none =>
        refine .inl ⟨fits, rfl, fun group => ?_⟩
        rw [fillVideo_null fits isProfile]
        rfl
    | some profile =>
        refine .inr ⟨profile, rfl, fits, ?_⟩
        by_cases audio :
            Fits sizes.audioFormat (audioFormat d) ∧ Fits sizes.audioCodec (encodeType d)
        · refine .inr fun group => ?_
          rw [fillVideo_eq fits isProfile, fillAudio_eq audio.1 audio.2]
          rfl
        · refine .inl ⟨audio, fun group => ?_⟩
          rw [fillVideo_eq fits isProfile, fillAudio_overflow audio]
          rfl
  · refine .inl ⟨fits, fun group => ?_⟩
    rw [fillVideo_overflow fits]
    rfl

theorem agree_init_iff (oneFormat : one.video.format.length ≤ 4)
    (otherFormat : other.video.format.length ≤ 4) :
    Agree (MuxerGroup.Exact sizes id d) (rkStorageMuxerInitById sizes id d one)
        (rkStorageMuxerInitById sizes id d other) ↔ Covers sizes id d one other := by
  obtain ⟨long, fails⟩ | ⟨fits, isNull, dies⟩ | ⟨profile, isProfile, fits, ⟨long, fails⟩ | goes⟩ :=
    init_cases sizes id d
  · exact iff_of_false (fun agree => agree.1 (fails one)) fun covers => long covers.fits
  · rw [dies, dies]
    refine iff_of_true agree_null ⟨fits, fun text isText => ?_, absurd isNull⟩
    rw [isNull] at isText
    cases isText
  · refine iff_of_false (fun agree => agree.1 (fails one)) fun covers => ?_
    have strings := covers.strings (by rw [isProfile]; exact nofun)
    exact long ⟨strings.2.1.fits, strings.2.2.fits⟩
  · rw [goes, goes]
    rw [agree_ok_iff, filled_eq_iff oneFormat otherFormat]
    constructor
    · intro both
      refine ⟨fits, fun text isText unknown => ?_, fun _ => both.2⟩
      rw [isProfile] at isText
      cases isText
      exact both.1 unknown
    · intro covers
      exact ⟨covers.profile profile isProfile, covers.strings (by rw [isProfile]; exact nofun)⟩

theorem run_cons {history : List Dictionary} {group : MuxerGroup}
    (ran : run sizes id (d :: history) group = .ok one) :
    ∃ profile, run sizes id history (filled id d profile group) = .ok one := by
  rw [run] at ran
  obtain ⟨_, fails⟩ | ⟨_, _, dies⟩ | ⟨profile, _, _, ⟨_, fails⟩ | goes⟩ := init_cases sizes id d
  · rw [fails] at ran
    cases ran
  · rw [dies] at ran
    cases ran
  · rw [fails] at ran
    cases ran
  · rw [goes] at ran
    exact ⟨profile, ran⟩

theorem format_of_run {group : MuxerGroup} {history : List Dictionary}
    (short : group.video.format.length ≤ 4) (ran : run sizes id history group = .ok one) :
    one.video.format.length ≤ 4 := by
  induction history generalizing group with
  | nil =>
      cases ran
      exact short
  | cons d rest induction =>
      obtain ⟨profile, ran⟩ := run_cons ran
      refine induction ?_ ran
      change ("NV12".toList ++ group.video.format.drop 4).length ≤ 4
      rw [List.drop_eq_nil_iff.mpr short]
      decide

theorem run_append {history : List Dictionary} {group : MuxerGroup}
    (ran : run sizes id history group = .ok one) :
    run sizes id (history ++ [d]) group = rkStorageMuxerInitById sizes id d one := by
  induction history generalizing group with
  | nil =>
      cases ran
      rw [List.nil_append, run]
      cases rkStorageMuxerInitById sizes id d one <;> rfl
  | cons first rest induction =>
      rw [run] at ran
      rw [List.cons_append, run]
      cases isNext : rkStorageMuxerInitById sizes id first group with
      | error fault =>
          rw [isNext] at ran
          cases ran
      | ok next =>
          rw [isNext] at ran
          exact induction ran

theorem agree_rtmp_iff (one other : VideoParam) :
    Agree (VideoParam.Exact sizes id d (some "H.264".toList)) (rkRtmpInit sizes id d one)
        (rkRtmpInit sizes id d other) ↔ RtmpFits sizes id d := by
  unfold rkRtmpInit
  by_cases fits : Fits sizes.videoCodec (outputDataType id d (some "H.264".toList))
  · cases isProfile : h264Profile d id with
    | none =>
        rw [fillVideo_null fits isProfile]
        exact iff_of_true agree_null ⟨fits, absurd isProfile⟩
    | some profile =>
        rw [fillVideo_eq fits isProfile, agree_ok_iff, and_iff_right rfl]
        have isCodec (codec : Text) : overlay [] (some codec) = codec := by
          change codec ++ [].drop codec.length = codec
          rw [List.drop_nil, List.append_nil]
        constructor
        · intro exact
          refine ⟨fits, fun _ codec isSome => (exact.codec codec isSome).2⟩
        · intro rtmp
          refine ⟨fun codec isSome => ⟨?_, ?_⟩, fun text same => ?_⟩
          · change overlay [] (outputDataType id d (some "H.264".toList)) = codec
            rw [isSome, isCodec]
          · exact rtmp.terminated (by rw [isProfile]; exact nofun) codec isSome
          · cases same
            exact ⟨isCodec _, sizes.nv12⟩
  · rw [fillVideo_overflow fits]
    exact iff_of_false (fun agree => agree.1 rfl) fun rtmp => fits rtmp.fits

end Groups

/-- Two histories that the process has survived, followed by the same configuration, lead to the
same parameters exactly if this configuration covers what they left; the parameters of the
stream, which are cleared, depend on the configuration alone. -/
theorem sameParams_iff (sizes : Sizes) (id : Nat) (d : Dictionary)
    (first second : List Dictionary) (one other : MuxerGroup)
    (ranFirst : run sizes id first .zero = .ok one)
    (ranSecond : run sizes id second .zero = .ok other) :
    (Agree (MuxerGroup.Exact sizes id d) (run sizes id (first ++ [d]) .zero)
        (run sizes id (second ++ [d]) .zero) ↔ Covers sizes id d one other) ∧
      ∀ before otherBefore,
        Agree (VideoParam.Exact sizes id d (some "H.264".toList))
            (rkRtmpInit sizes id d before) (rkRtmpInit sizes id d otherBefore) ↔
          RtmpFits sizes id d := by
  have short : MuxerGroup.zero.video.format.length ≤ 4 := Nat.zero_le 4
  refine ⟨?_, agree_rtmp_iff⟩
  rw [run_append ranFirst, run_append ranSecond]
  exact agree_init_iff (format_of_run short ranFirst) (format_of_run short ranSecond)

section Examples

def sizes : Sizes := ⟨⟨8, 8, 8⟩, 8, by decide⟩

def encodedAs (codec : String) : Dictionary :=
  iniparserSet (iniparserSet (iniparserSet (dictionaryNew 0) "audio.0:encode_type".toList
    (some codec.toList)) "audio.0:format".toList (some "S16".toList))
    "video.0:output_data_type".toList (some "H.265".toList)

def handed (audioCodec : String) : MuxerGroup :=
  ⟨⟨1920, 1080, 524288, 1, 30, 100, 52, "H.265".toList, "NV12".toList⟩,
    ⟨2, 16000, 1024, "S16".toList, audioCodec.toList⟩⟩

theorem sameParams_iff_longer :
    Agree (MuxerGroup.Exact sizes 0 (encodedAs "G711A"))
      (run sizes 0 ([] ++ [encodedAs "G711A"]) .zero)
      (run sizes 0 ([encodedAs "MP2"] ++ [encodedAs "G711A"]) .zero) := by
  have ran : run sizes 0 [encodedAs "MP2"] .zero = .ok (handed "MP2") := by decide +kernel
  have isType : outputDataType 0 (encodedAs "G711A") none = some "H.265".toList := by
    decide +kernel
  have isFormat : audioFormat (encodedAs "G711A") = some "S16".toList := by decide +kernel
  have isCodec : encodeType (encodedAs "G711A") = some "G711A".toList := by decide +kernel
  have isProfile : h264Profile (encodedAs "G711A") 0 = some "high".toList := by decide +kernel
  refine (sameParams_iff sizes 0 (encodedAs "G711A") [] [encodedAs "MP2"] .zero (handed "MP2")
    rfl ran).1.mpr ⟨?_, ?_, fun _ => ⟨?_, ?_, ?_⟩⟩
  · rw [isType]
    rintro _ ⟨⟩
    decide
  · rw [isProfile]
    rintro _ ⟨⟩ unknown
    exact absurd unknown (by decide)
  · rw [isType]
    exact ⟨nofun, by rintro _ ⟨⟩; decide⟩
  · rw [isFormat]
    exact ⟨nofun, by rintro _ ⟨⟩; decide⟩
  · rw [isCodec]
    exact ⟨nofun, by rintro _ ⟨⟩; decide⟩

/-- Behind `"G711A"`, `"MP2"` is not all that the array holds. -/
theorem shorter_keeps_rest :
    ¬ Agree (MuxerGroup.Exact sizes 0 (encodedAs "MP2"))
      (run sizes 0 ([] ++ [encodedAs "MP2"]) .zero)
      (run sizes 0 ([encodedAs "G711A"] ++ [encodedAs "MP2"]) .zero) := by
  intro agree
  have first : run sizes 0 ([] ++ [encodedAs "MP2"]) .zero = .ok (handed "MP2") := by
    decide +kernel
  have second : run sizes 0 ([encodedAs "G711A"] ++ [encodedAs "MP2"]) .zero =
      .ok (handed "MP21A") := by decide +kernel
  exact absurd (agree.2.2 _ _ first second).1 (by decide)

end Examples

end Rkipc.Storage.MuxerParams
