import Rkipc.Libc.Writes
import Rkipc.Param.Store

namespace Rkipc.Param.Copies

open Ini Libc

/-! Where strings of the configuration are copied into arrays of fixed size. -/

inductive Buffer
  | entry
  | tempText
  | fontPath
  | format
  | encodeType
  | videoCodec
  | audioFormat
  | audioCodec
  | recordPath
  | value
deriving DecidableEq

/-- The arrays of `VideoParam` and `AudioParam`, which the muxer's header declares. -/
structure MuxerParam where
  videoCodec : Nat
  audioFormat : Nat
  audioCodec : Nat

def Buffer.size (muxer : MuxerParam) : Buffer → Nat
  | .entry | .tempText | .format | .value => 128
  -- `char *font_path_[128]`
  | .fontPath => 512
  | .encodeType => 16
  | .videoCodec => muxer.videoCodec
  | .audioFormat => muxer.audioFormat
  | .audioCodec => muxer.audioCodec
  | .recordPath => 256

abbrev Actions := List (Action Buffer)

/-- `"%s.%d%s"` -/
def entryKey (name : String) (id : Nat) (rest : String) : Text :=
  name.toList ++ '.' :: decimal id ++ rest.toList

variable (d : Dictionary)

def getString (key : Text) (default : Option Text) : Option Text :=
  iniparserGetstring (some d) key default

def getInt (key : Text) (default : Int) : Int :=
  ((getString d key none).map strtol).getD default

/-- A string that is copied as it is, where a pointer that is NULL ends the process. -/
def withString (found : Option Text) (copies : Text → Actions) : Actions :=
  match found with
  | none => [.fault]
  | some text => copies text

/-- A string that is copied where it is there. -/
def memcpyIfAny (buffer : Buffer) (found : Option Text) : Actions :=
  match found with
  | none => []
  | some text => memcpy buffer text

section Osd

/-- What an entry comes to in `rk_osd_init`: without a font, with one, or with one and its
text. -/
inductive OsdText
  | skip
  | fault
  | font
  | text (displayText : Option Text)
deriving DecidableEq

def OsdText.loadsFont : OsdText → Bool
  | .skip | .fault => false
  | .font | .text _ => true

def osdText (i : Nat) : OsdText :=
  match getString d (entryKey "osd" i ":type") none with
  | none => .skip
  | some osdType =>
      if getInt d (entryKey "osd" i ":enabled") 0 = 0 then .skip
      else if osdType = "image".toList ∨ osdType = "privacyMask".toList then .skip
      else
        match getString d "osd.common:font_color".toList none with
        | none => .fault
        | some _ =>
            if osdType = "channelName".toList ∨ osdType = "character".toList then
              .text (getString d (entryKey "osd" i ":display_text") none)
            else .font

def ispConfig : Text := "isp config:".toList

/-- `init_from_ini ? "ini" : "json"` -/
def ispSource : Text :=
  if getInt d "isp:init_from_ini".toList 1 = 0 then "json".toList else "ini".toList

/-- `opened` is the outcome of `iconv_open`. -/
def iconvUtf8ToWchar (opened : Bool) (input : Text) : Actions :=
  if opened then memcpy .entry input ++ [.write .entry (input.length + 1)] else []

def osdInitText (opened : Bool) (displayText : Text) : Actions :=
  if displayText = ispConfig then
    -- `strncpy` fills the array up to its last byte
    .write .tempText 127 :: strcats .tempText ispConfig [ispSource d] ++
      iconvUtf8ToWchar opened (ispConfig ++ ispSource d)
  else iconvUtf8ToWchar opened displayText

/-- What `rk_osd_init` meets: `g_osd_font_already_set`, whether the face of the font can be
opened, and the outcomes of `iconv_open`. -/
structure OsdOutside where
  fontAlreadySet : Bool
  faceOpens : Bool
  opened : Nat → Bool

def fontPath : Option Text := getString d "osd.common:font_path".toList none

variable (outside : OsdOutside)

/-- `g_osd_font_already_set` when the loop comes to an entry -/
def fontSetBefore (i : Nat) : Bool :=
  outside.fontAlreadySet || (List.range i).any fun j => (osdText d j).loadsFont

/-- `create_font` and its guard; a path that is NULL opens no face. -/
def createFont (i : Nat) : Actions :=
  if fontSetBefore d outside i = false ∧ outside.faceOpens = true then
    memcpyIfAny .fontPath (fontPath d)
  else []

def osdInitEntry (i : Nat) : Actions :=
  match osdText d i with
  | .skip => []
  | .fault => [.fault]
  | .font => createFont d outside i
  | .text displayText =>
      createFont d outside i ++ withString displayText (osdInitText d (outside.opened i))

def rkOsdInit : Actions := (List.range 8).flatMap (osdInitEntry d outside)

/-- The last entry of type `dateTime`, or 0. -/
def osdTimeId : Nat :=
  (List.range 8).foldl
    (fun found i =>
      if getString d (entryKey "osd" i ":type") none = some "dateTime".toList then i
      else found) 0

def timeFormat : List Text :=
  match getString d (entryKey "osd" (osdTimeId d) ":time_style") none with
  | none => []
  | some timeStyle =>
      if timeStyle = "12hour".toList then ["12hour".toList, " ".toList]
      else ["24hour".toList, " ".toList]

def weekFormat : List Text :=
  if getInt d (entryKey "osd" (osdTimeId d) ":display_week_enabled") 0 = 0 then []
  else ["WEEKCN".toList, " ".toList]

def dateStyle : Option Text := getString d (entryKey "osd" (osdTimeId d) ":date_style") none

def osdTimeServer : Actions :=
  withString (getString d "osd.common:font_color".toList none) fun _ =>
    strcats .format [] (timeFormat d ++ weekFormat d ++ (dateStyle d).toList)

end Osd

section Audio

def saveAencThread : Actions :=
  match getString d "audio.0:encode_type".toList none with
  | none => []
  | some encodeType => memcpy .encodeType encodeType

end Audio

section Muxer

def mountPath : Option Text :=
  getString d "storage:mount_path".toList (some "/userdata".toList)

def folderName (id : Nat) : Option Text :=
  getString d (entryKey "storage" id ":folder_name") (some "video0".toList)

def recordPath (id : Nat) : Actions :=
  withString (mountPath d) fun mountPath =>
    strcats .recordPath [] [mountPath, "/".toList] ++
      withString (folderName d id) fun folderName =>
        strcats .recordPath (mountPath ++ "/".toList) [folderName]

def h264Profile (id : Nat) : Option Text :=
  getString d (entryKey "video" id ":h264_profile") (some "high".toList)

def rkStorageMuxerInitById (id : Nat) : Actions :=
  memcpyIfAny .videoCodec (getString d (entryKey "video" id ":output_data_type") none) ++
    withString (h264Profile d id) fun _ =>
      memcpyIfAny .audioFormat (getString d "audio.0:format".toList none) ++
        (memcpyIfAny .audioCodec (getString d "audio.0:encode_type".toList none) ++
          recordPath d id)

def rkRtmpInit (id : Nat) : Actions :=
  memcpyIfAny .videoCodec
      (getString d (entryKey "video" id ":output_data_type") (some "H.264".toList)) ++
    withString (h264Profile d id) fun _ => []

end Muxer

section Isp

/-- The strings that `rk_isp_set_from_ini` reads, with their defaults. -/
def ispStrings : List (String × String) :=
  [(".exposure:exposure_mode", "auto"),
    (".exposure:gain_mode", "auto"),
    (".exposure:exposure_time", "1/6"),
    (".night_to_day:night_to_day", "day"),
    (".night_to_day:fill_light_mode", "IR"),
    (".blc:blc_region", "close"),
    (".blc:hlc", "close"),
    (".white_blance:white_blance_style", "autoWhiteBalance"),
    (".enhancement:noise_reduce_mode", "close"),
    (".enhancement:dehaze", "close"),
    (".enhancement:gray_scale_mode", "[0-255]"),
    (".enhancement:distortion_correction", "close"),
    (".video_adjustment:power_line_frequency_mode", "PAL(50HZ)"),
    (".video_adjustment:image_flip", "close")]

def ispValue (camId : Nat) (setting : String × String) : Option Text :=
  getString d (entryKey "isp" camId setting.1) (some setting.2.toList)

/-- `rk_isp_set_distortion_correction` compares with the value that is stored, which must
be there. -/
def ispCompares (camId : Nat) (setting : String × String) : Actions :=
  if setting.1 = ".enhancement:distortion_correction" ∧
      getString d (entryKey "isp" camId setting.1) none = none then [.fault]
  else []

def ispSet (camId : Nat) (setting : String × String) : Actions :=
  withString (ispValue d camId setting) fun value =>
    strcpy .value value ++ ispCompares d camId setting

/-- `ready` is the outcome of `RK_ISP_CHECK_CAMERA_ID`. -/
def rkIspSetFromIni (ready : Bool) (camId : Nat) : Actions :=
  if ready then ispStrings.flatMap (ispSet d camId) else []

end Isp

/-- The functions that read strings of the configuration back into arrays, with what
they meet outside. -/
inductive Call
  | rkOsdInit (outside : OsdOutside)
  | osdTimeServer
  | saveAencThread
  | rkStorageMuxerInitById (id : Nat)
  | rkRtmpInit (id : Nat)
  | rkIspSetFromIni (ready : Bool) (camId : Nat)

def Call.actions : Call → Actions
  | .rkOsdInit outside => Copies.rkOsdInit d outside
  | .osdTimeServer => Copies.osdTimeServer d
  | .saveAencThread => Copies.saveAencThread d
  | .rkStorageMuxerInitById id => Copies.rkStorageMuxerInitById d id
  | .rkRtmpInit id => Copies.rkRtmpInit d id
  | .rkIspSetFromIni ready camId => Copies.rkIspSetFromIni d ready camId

/-- A client sets an entry of the configuration, or one of the calls is made. -/
inductive Event
  | set (entry value : Text)
  | call (call : Call)

/-- What the calls write, one after the other. -/
def actions (d : Dictionary) : List Event → Actions
  | [] => []
  | .set entry value :: rest => actions (iniparserSet d entry (some value)) rest
  | .call call :: rest => call.actions d ++ actions d rest

end Rkipc.Param.Copies
