import Rkipc.Libc.Align
import Rkipc.Osd.Entry

namespace Rkipc.Osd.Overlay

open Ini Libc

/-! Where the overlays of the entries are placed in the frames of the channels.  Sums and products
are exact: an `int` that overflows, which C leaves undefined, is left out. -/

inductive Axis
  | x
  | y
deriving DecidableEq

theorem Axis.forall_iff {test : Axis → Prop} : (∀ axis, test axis) ↔ test .x ∧ test .y := by
  constructor
  · intro all
    exact ⟨all .x, all .y⟩
  · rintro ⟨first, second⟩ axis
    cases axis
    · exact first
    · exact second

instance {test : Axis → Prop} [DecidablePred test] : Decidable (∀ axis, test axis) :=
  decidable_of_iff _ Axis.forall_iff.symm

/-- What the code computes once for the width and once for the height. -/
abbrev Vec := Axis → Int

def sides (onX onY : Int) : Vec
  | .x => onX
  | .y => onY

theorem sides_eta (vec : Vec) : sides (vec .x) (vec .y) = vec := by
  funext axis
  cases axis <;> rfl

/-- The test for a negative number among the four of a rectangle. -/
theorem signs_iff {origin size : Vec} :
    (origin .x < 0 ∨ origin .y < 0 ∨ size .x < 0 ∨ size .y < 0) ↔
      ¬ ∀ axis, 0 ≤ origin axis ∧ 0 ≤ size axis := by
  rw [Axis.forall_iff]
  omega

/-- What comes of a text: `iconv_utf8_to_wchar` reads through a pointer that is NULL, or
fails, or gives characters, of which `wstr_get_actual_advance_x` finds the width. -/
inductive Rendered
  | null
  | unconverted
  | advance (width : Int)
deriving DecidableEq

/-- The parameters of an entry, with the size of the bitmap that `load_bmp_form_file`
reads, the text and the width of the time in the entry's format. -/
structure Params extends Entry where
  position : Vec
  maskSize : Vec
  bitmap : Option Vec
  text : Rendered
  time : Int

/-- The parameters of all entries and of the three streams. -/
structure Config where
  entries : OsdId → Params
  normalized : Vec
  main : Vec
  sub : Vec
  jpeg : Vec
  enableVenc0 : Bool
  enableVenc1 : Bool
  enableJpeg : Bool
  fontColor : Option Text
  fontSize : Int

/-- What the code gets from outside: `(int)(value * ((double)frame / (double)normalized))`
and whether `pthread_create` and `rk_signal_create` succeed. -/
structure Outside where
  scale : Int → Int → Int → Int
  threadCreated : OsdId → Bool
  signalCreated : OsdId → Bool

/-- What is handed to `rk_osd_bmp_create_`. -/
structure OsdData where
  id : OsdId
  enable : Int
  origin : Vec
  size : Vec

/-- The branch that `rk_osd_init` takes for an entry. -/
inductive Branch
  | skip
  | image
  | privacyMask
  | null
  | text (advance : Int)
  | dateTime
deriving DecidableEq

section Init

variable (config : Config) (outside : Outside)

def branch (id : OsdId) : Branch :=
  match (config.entries id).osdType with
  | none => .skip
  | some osdType =>
      if (config.entries id).enabled = 0 then .skip
      else if osdType = "image".toList then .image
      else if osdType = "privacyMask".toList then .privacyMask
      else if config.fontColor = none then .null
      else if osdType = "channelName".toList ∨ osdType = "character".toList then
        match (config.entries id).text with
        | .null => .null
        | .unconverted => .skip
        | .advance width => .text width
      else if osdType = "dateTime".toList then .dateTime
      else .skip

def scaled (value : Vec) : Vec := fun axis =>
  outside.scale (value axis) (config.main axis) (config.normalized axis)

def position (id : OsdId) : Vec := scaled config outside (config.entries id).position

def upAlignTo16 (value : Vec) : Vec := fun axis => alignUp 16 (value axis)

/-- The loops that move a text to the left and up until it is in the frame. -/
def clampOrigin (origin size : Vec) : Vec := fun axis =>
  stepDown 16 (config.main axis - size axis) (origin axis)

/-- The loops that make a mask smaller until it is in the frame. -/
def clampSize (origin size : Vec) : Vec := fun axis =>
  stepDown 16 (config.main axis - origin axis) (size axis)

def textSize (advance : Int) : Vec
  | .x => alignUp 16 advance
  | .y => alignUp 16 config.fontSize

def textOrigin (id : OsdId) (advance : Int) : Vec :=
  clampOrigin config (upAlignTo16 (position config outside id)) (textSize config advance)

def timeId : OsdId := osdTimeId fun id => (config.entries id).toEntry

def timeSize : Vec := textSize config (config.entries (timeId config)).time

/-- The overlay of `osd_time_server`, which is not moved. -/
def osdTimeServer : OsdData where
  id := timeId config
  enable := (config.entries (timeId config)).enabled
  origin := upAlignTo16 (position config outside (timeId config))
  size := timeSize config

/-- The overlays of one round of `rk_osd_init`, and the size that `osd_data` holds
afterwards if the loop goes on. -/
def initEntry (id : OsdId) (held : Vec) : List OsdData × Option Vec :=
  let enable := (config.entries id).enabled
  let origin := upAlignTo16 (position config outside id)
  match branch config id with
  | .skip => ([], some held)
  | .image =>
      -- what `fill_image` returns is not looked at
      let size := (config.entries id).bitmap.getD held
      ([⟨id, enable, origin, size⟩], some size)
  | .privacyMask =>
      let size := upAlignTo16 (scaled config outside (config.entries id).maskSize)
      ([], some (clampSize config origin size))
  | .null => ([], none)
  | .text advance =>
      let size := textSize config advance
      let origin := textOrigin config outside id advance
      (if ∀ axis, 0 ≤ origin axis ∧ 0 ≤ size axis then [⟨id, enable, origin, size⟩] else [],
        some size)
  | .dateTime =>
      (if outside.threadCreated id then [osdTimeServer config outside] else [],
        if outside.signalCreated id then some held else none)

/-- The rounds of the loop, each with the size that `osd_data` holds before it. -/
def rounds : List OsdId → Vec → List (OsdId × Vec)
  | [], _ => []
  | id :: rest, held =>
      (id, held) ::
        match (initEntry config outside id held).2 with
        | none => []
        | some size => rounds rest size

/-- `osd_data` is not initialised: it holds any size at first. -/
def rkOsdInit (held : Vec) : List OsdData :=
  (rounds config outside (List.finRange 8) held).flatMap fun round =>
    (initEntry config outside round.1 round.2).1

end Init

inductive Channel
  | venc0
  | jpeg
  | venc1
deriving DecidableEq

structure Attachment where
  channel : Channel
  point : Vec
  size : Vec

section Channels

variable (config : Config) (outside : Outside)

def frame : Channel → Vec
  | .venc0 => config.main
  | .jpeg => config.jpeg
  | .venc1 => config.sub

def enables : Channel → Bool
  | .venc0 => config.enableVenc0
  | .jpeg => config.enableJpeg
  | .venc1 => config.enableVenc1

/-- Of the place it is the sub stream alone that has its own. -/
def point (origin : Vec) : Channel → Vec
  | .venc0 | .jpeg => origin
  | .venc1 => upAlignTo16 fun axis =>
      (origin axis * config.sub axis).tdiv (config.main axis)

def attach (data : OsdData) (channel : Channel) : List Attachment :=
  if enables config channel then [⟨channel, point config data.origin channel, data.size⟩]
  else []

/-- The channels that the overlay is attached to. -/
def rkipcOsdBmpCreate (data : OsdData) : List Attachment :=
  [Channel.venc0, .jpeg, .venc1].flatMap (attach config data)

def attachments (held : Vec) : List Attachment :=
  (rkOsdInit config outside held).flatMap (rkipcOsdBmpCreate config)

end Channels

/-- The whole rectangle is in the frame of the channel. -/
def Attachment.Inside (attachment : Attachment) (config : Config) : Prop :=
  ∀ axis, 0 ≤ attachment.size axis ∧ 0 ≤ attachment.point axis ∧
    attachment.point axis + attachment.size axis ≤ frame config attachment.channel axis

/-- Every overlay that is attached to the channel is inside its frame. -/
def AllInside (config : Config) (outside : Outside) (held : Vec) (channel : Channel) :
    Prop :=
  ∀ attachment ∈ attachments config outside held, attachment.channel = channel →
    attachment.Inside config

end Rkipc.Osd.Overlay
