import Mathlib.Logic.Function.Basic
import Rkipc.Param.Users

namespace Rkipc.Video.RateControl

open Ini Param

/-! The rate control of an encoder channel: how `rkipc_pipe_0_init` fills it from the
stored parameters, and how the setters change the channel and the parameters. -/

inductive Key
  | outputDataType
  | rcMode
  | gop
  | maxRate
  | midRate
  | minRate
  | dstFrameRateDen
  | dstFrameRateNum
  | srcFrameRateDen
  | srcFrameRateNum
deriving DecidableEq

def Key.text : Key → Text
  | .outputDataType => "output_data_type".toList
  | .rcMode => "rc_mode".toList
  | .gop => "gop".toList
  | .maxRate => "max_rate".toList
  | .midRate => "mid_rate".toList
  | .minRate => "min_rate".toList
  | .dstFrameRateDen => "dst_frame_rate_den".toList
  | .dstFrameRateNum => "dst_frame_rate_num".toList
  | .srcFrameRateDen => "src_frame_rate_den".toList
  | .srcFrameRateNum => "src_frame_rate_num".toList

/-- `snprintf(entry, 127, "video.%d:...", stream_id)` -/
def videoEntry (streamId : Int32) (key : Key) : Text :=
  ("video.".toList ++ decimal streamId.toInt ++ ':' :: key.text).take 126

inductive Codec
  | avc
  | hevc
deriving DecidableEq

/-- The modes that are set, each with a record of the union of its own. -/
inductive RcMode
  | h264Cbr
  | h264Vbr
  | h265Cbr
  | h265Vbr
deriving DecidableEq

inductive Field
  | u32Gop
  | u32BitRate
  | u32MaxBitRate
  | u32MinBitRate
  | fr32DstFrameRateDen
  | fr32DstFrameRateNum
  | u32SrcFrameRateDen
  | u32SrcFrameRateNum
deriving DecidableEq

def RcMode.codec : RcMode → Codec
  | .h264Cbr | .h264Vbr => .avc
  | .h265Cbr | .h265Vbr => .hevc

def RcMode.isCbr : RcMode → Bool
  | .h264Cbr | .h265Cbr => true
  | .h264Vbr | .h265Vbr => false

/-- The comparisons with `strcmp`; other types are not supported. -/
def rcModeOf (outputDataType rcMode : Text) : Option RcMode :=
  if outputDataType = "H.264".toList then
    some (if rcMode = "CBR".toList then .h264Cbr else .h264Vbr)
  else if outputDataType = "H.265".toList then
    some (if rcMode = "CBR".toList then .h265Cbr else .h265Vbr)
  else none

/-- Where a field of a record is in the union, as a word. -/
structure Layout where
  offset : RcMode → Field → Nat
  distinct : ∀ mode, Function.Injective (offset mode)

/-- `enRcMode` and the words of the union, and the codec that some setters write too. -/
structure VencChnAttr where
  enType : Option Codec
  enRcMode : Option RcMode
  stRcAttr : Nat → UInt32

def u32 (val : Int) : UInt32 := UInt32.ofInt val

namespace VencChnAttr

/-- `memset(&venc_chn_attr, 0, sizeof(venc_chn_attr))` -/
def zero : VencChnAttr := ⟨none, none, fun _ => 0⟩

def get (layout : Layout) (mode : RcMode) (field : Field) (attr : VencChnAttr) : UInt32 :=
  attr.stRcAttr (layout.offset mode field)

def set (layout : Layout) (mode : RcMode) (field : Field) (val : Int)
    (attr : VencChnAttr) : VencChnAttr :=
  { attr with
    stRcAttr := Function.update attr.stRcAttr (layout.offset mode field) (u32 val) }

end VencChnAttr

/-- `chnAttr` is what `RK_MPI_VENC_CreateChn` or `RK_MPI_VENC_SetChnAttr` got last, and
what `RK_MPI_VENC_GetChnAttr` gives back. -/
structure State where
  store : Store
  chnAttr : Int32 → VencChnAttr

def State.setChnAttr (streamId : Int32) (attr : VencChnAttr) (state : State) : State :=
  { state with chnAttr := Function.update state.chnAttr streamId attr }

/-- A parameter that is to be assigned to a field, with its default. -/
structure Setting where
  field : Field
  key : Key
  default : Int

def fill (layout : Layout) (mode : RcMode) (streamId : Int32) (store : Store) :
    List Setting → VencChnAttr → Except Fault VencChnAttr
  | [], attr => .ok attr
  | ⟨field, key, default⟩ :: settings, attr => do
      let val ← rkParamGetInt (videoEntry streamId key) default store
      fill layout mode streamId store settings (attr.set layout mode field val)

def frameRates : List Setting :=
  [⟨.fr32DstFrameRateDen, .dstFrameRateDen, -1⟩,
    ⟨.fr32DstFrameRateNum, .dstFrameRateNum, -1⟩,
    ⟨.u32SrcFrameRateDen, .srcFrameRateDen, -1⟩,
    ⟨.u32SrcFrameRateNum, .srcFrameRateNum, -1⟩]

def pipe0Settings (mode : RcMode) : List Setting :=
  if mode.isCbr then
    ⟨.u32Gop, .gop, -1⟩ :: ⟨.u32BitRate, .maxRate, 0⟩ :: frameRates
  else
    ⟨.u32Gop, .gop, -1⟩ :: ⟨.u32BitRate, .midRate, 0⟩ ::
      ⟨.u32MaxBitRate, .maxRate, 0⟩ :: ⟨.u32MinBitRate, .minRate, 0⟩ :: frameRates

/-- Up to `RK_MPI_VENC_CreateChn`.  What comes after it, with `rk_video_reset_frame_rate`,
is a call of `rk_video_set_frame_rate`. -/
def rkipcPipe0Init (layout : Layout) (store : Store) :
    Except Fault (Option VencChnAttr) := do
  let tmpOutputDataType ← rkParamGetString (videoEntry 0 .outputDataType) none store
  let tmpRcMode ← rkParamGetString (videoEntry 0 .rcMode) none store
  match tmpOutputDataType, tmpRcMode with
  | some tmpOutputDataType, some tmpRcMode =>
      match rcModeOf tmpOutputDataType tmpRcMode with
      | some mode => do
          let attr ← fill layout mode 0 store (pipe0Settings mode)
            { VencChnAttr.zero with enType := some mode.codec, enRcMode := some mode }
          return some attr
      | none => return none
  | _, _ => return none

/-- A string for `strcmp`, which is not to be NULL. -/
def getText (entry default : Text) (store : Store) : Except Fault Text := do
  match ← rkParamGetString entry (some default) store with
  | some text => return text
  | none => .error .null

/-- The record that a setter writes to. -/
def currentMode (streamId : Int32) (store : Store) : Except Fault (Option RcMode) := do
  let tmpOutputDataType ←
    getText (videoEntry streamId .outputDataType) "H.264".toList store
  let tmpRcMode ← getText (videoEntry streamId .rcMode) "CBR".toList store
  return rcModeOf tmpOutputDataType tmpRcMode

/-- `rk_param_set_int` for one key after another. -/
def setInts (streamId : Int32) : List (Key × Int) → Store → Except Fault Store
  | [], store => .ok store
  | (key, val) :: rest, store => do
      setInts streamId rest (← rkParamSetInt (videoEntry streamId key) val store)

/-- A setter that reads the attributes, changes some, and stores what they come from. -/
def setAttr (streamId : Int32) (change : RcMode → VencChnAttr → VencChnAttr)
    (params : List (Key × Int)) (state : State) : Except Fault (Int × State) := do
  match ← currentMode streamId state.store with
  | none => return (-1, state)
  | some mode =>
      let state := state.setChnAttr streamId (change mode (state.chnAttr streamId))
      let store ← setInts streamId params state.store
      return (0, { state with store := store })

def rkVideoSetGop (layout : Layout) (streamId value : Int32) :
    State → Except Fault (Int × State) :=
  setAttr streamId (fun mode attr => attr.set layout mode .u32Gop value.toInt)
    [(.gop, value.toInt)]

/-- The division of C rounds to zero. -/
def rkVideoSetMaxRate (layout : Layout) (streamId value : Int32) :
    State → Except Fault (Int × State) :=
  let third := value.toInt.tdiv 3
  setAttr streamId
    (fun mode attr =>
      if mode.isCbr then attr.set layout mode .u32BitRate value.toInt
      else ((attr.set layout mode .u32MinBitRate third).set layout mode .u32BitRate
        (third * 2)).set layout mode .u32MaxBitRate value.toInt)
    [(.maxRate, value.toInt), (.midRate, third * 2), (.minRate, third)]

def setRcModeSettings : List Setting :=
  ⟨.u32Gop, .gop, -1⟩ :: ⟨.u32BitRate, .maxRate, -1⟩ :: frameRates

def rkVideoSetRcMode (layout : Layout) (streamId : Int32) (value : Text) (state : State) :
    Except Fault (Int × State) := do
  let tmpOutputDataType ←
    getText (videoEntry streamId .outputDataType) "H.264".toList state.store
  match rcModeOf tmpOutputDataType value with
  | none => return (-1, state)
  | some mode =>
      let attr ← fill layout mode streamId state.store setRcModeSettings
        { state.chnAttr streamId with enRcMode := some mode }
      let state := state.setChnAttr streamId attr
      let store ← rkParamSetString (videoEntry streamId .rcMode) (some value) state.store
      return (0, { state with store := store })

/-- `%d` of `sscanf`, with what is left of the text. -/
def scanInt (text : Text) : Option (Int32 × Text) :=
  let text := text.dropWhile isspace
  let (negative, text) :=
    match text with
    | '-' :: rest => (true, rest)
    | '+' :: rest => (false, rest)
    | text => (false, text)
  let digits := text.takeWhile Char.isDigit
  let val : Int := digits.foldl (fun val char => val * 10 + digitVal char) 0
  if digits = [] then none
  else some (Int32.ofInt (clampLong (if negative then -val else val)),
    text.dropWhile Char.isDigit)

/-- `num` and `den` are what the variables hold that are not assigned. -/
def scanFrameRate (value : Text) (num den : Int32) : Int32 × Int32 :=
  if '/' ∈ value then
    match scanInt value with
    | none => (num, den)
    | some (num, '/' :: rest) =>
        match scanInt rest with
        | none => (num, den)
        | some (den, _) => (num, den)
    | some (num, _) => (num, den)
  else
    match scanInt value with
    | none => (num, 1)
    | some (num, _) => (num, 1)

def rkVideoSetFrameRate (layout : Layout) (streamId : Int32) (value : Text)
    (num den : Int32) : State → Except Fault (Int × State) :=
  let (num, den) := scanFrameRate value num den
  setAttr streamId
    (fun mode attr =>
      (({ attr with enType := some mode.codec }).set layout mode .fr32DstFrameRateDen
        den.toInt).set layout mode .fr32DstFrameRateNum num.toInt)
    [(.dstFrameRateDen, den.toInt), (.dstFrameRateNum, num.toInt)]

inductive Call
  | setGop (streamId value : Int32)
  | setMaxRate (streamId value : Int32)
  | setRcMode (streamId : Int32) (value : Text)
  | setFrameRate (streamId : Int32) (value : Text) (num den : Int32)

def Call.run (layout : Layout) : Call → State → Except Fault (Int × State)
  | .setGop streamId value => rkVideoSetGop layout streamId value
  | .setMaxRate streamId value => rkVideoSetMaxRate layout streamId value
  | .setRcMode streamId value => rkVideoSetRcMode layout streamId value
  | .setFrameRate streamId value num den => rkVideoSetFrameRate layout streamId value num den

def Call.streamId : Call → Int32
  | .setGop streamId _ | .setMaxRate streamId _ | .setRcMode streamId _
  | .setFrameRate streamId _ _ _ => streamId

end Rkipc.Video.RateControl
