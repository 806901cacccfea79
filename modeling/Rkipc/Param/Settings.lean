import Rkipc.Param.IntEntries

namespace Rkipc.Param

open Ini

/-! The settings with one getter and one setter each, which only read and write an entry: those
of `osd.c`, `roi.c`, `region_clip.c` and `event.c`, and the plain ones of `system.c`, `audio.c`,
`isp.c` and `video.cc`. -/

/-- The sections, those with a number under their name. -/
inductive Owner
  | osdCommon
  | osd
  | roi
  | regionClip
  | regionalInvasion
  | deviceInfo
  | user
  | audio
  | video
  | isp
deriving DecidableEq

namespace Owner

def title : Owner → Text
  | osdCommon => "osd.common".toList
  | osd => "osd.".toList
  | roi => "roi.".toList
  | regionClip => "region_clip.".toList
  | regionalInvasion => "event.regional_invasion".toList
  | deviceInfo => "system.device_info".toList
  | user => "user.".toList
  | audio => "audio.".toList
  | video => "video.".toList
  | isp => "isp".toList

def numbered : Owner → Bool
  | osd | roi | regionClip | user | audio | video => true
  | osdCommon | regionalInvasion | deviceInfo | isp => false

def sectionOf (owner : Owner) (id : Int32) : Text :=
  owner.title ++ if owner.numbered then decimal id.toInt else []

end Owner

inductive Value
  | number (val : Int)
  | text (val : Option Text)
deriving DecidableEq

/-- Where a setting is, and what its getter returns if it is not there. -/
structure Row where
  owner : Owner
  key : Text
  default : Value
deriving DecidableEq

inductive Setting
  | osdIsPresistentText
  | osdFontSize
  | osdBoundary
  | osdAttribute
  | osdFontColorMode
  | osdFontColor
  | osdAlignment
  | osdFontPath
  | osdEnabled
  | osdPositionX
  | osdPositionY
  | osdHeight
  | osdWidth
  | osdDisplayWeekEnabled
  | osdDateStyle
  | osdTimeStyle
  | osdType
  | osdDisplayText
  | osdImagePath
  | osdStyle
  | roiStreamType
  | roiName
  | roiId
  | roiEnabled
  | roiPositionX
  | roiPositionY
  | roiHeight
  | roiWidth
  | roiQualityLevel
  | regionClipEnabled
  | regionClipPositionX
  | regionClipPositionY
  | regionClipHeight
  | regionClipWidth
  | eventRiEnabled
  | eventRiPositionX
  | eventRiPositionY
  | eventRiWidth
  | eventRiHeight
  | eventRiProportion
  | eventRiSensitivityLevel
  | eventRiTimeThreshold
  | systemDeivceName
  | systemTelecontrolId
  | systemUserNum
  | systemUserLevel
  | systemUserName
  | systemPassword
  | audioBitRate
  | audioSampleRate
  | audioVolume
  | audioEnableVqe
  | audioEncodeType
  | videoStreamType
  | ispScenario
deriving DecidableEq

namespace Setting

def row : Setting → Row
  | osdIsPresistentText => ⟨.osdCommon, "is_presistent_text".toList, .number (-1)⟩
  | osdFontSize => ⟨.osdCommon, "font_size".toList, .number (-1)⟩
  | osdBoundary => ⟨.osdCommon, "boundary".toList, .number (-1)⟩
  | osdAttribute => ⟨.osdCommon, "attribute".toList, .text none⟩
  | osdFontColorMode => ⟨.osdCommon, "font_color_mode".toList, .text none⟩
  | osdFontColor => ⟨.osdCommon, "font_color".toList, .text none⟩
  | osdAlignment => ⟨.osdCommon, "alignment".toList, .text none⟩
  | osdFontPath => ⟨.osdCommon, "font_path".toList, .text none⟩
  | osdEnabled => ⟨.osd, "enabled".toList, .number (-1)⟩
  | osdPositionX => ⟨.osd, "position_x".toList, .number (-1)⟩
  | osdPositionY => ⟨.osd, "position_y".toList, .number (-1)⟩
  | osdHeight => ⟨.osd, "height".toList, .number (-1)⟩
  | osdWidth => ⟨.osd, "width".toList, .number (-1)⟩
  | osdDisplayWeekEnabled => ⟨.osd, "display_week_enabled".toList, .number (-1)⟩
  | osdDateStyle => ⟨.osd, "date_style".toList, .text none⟩
  | osdTimeStyle => ⟨.osd, "time_style".toList, .text none⟩
  | osdType => ⟨.osd, "type".toList, .text none⟩
  | osdDisplayText => ⟨.osd, "display_text".toList, .text none⟩
  | osdImagePath => ⟨.osd, "image_path".toList, .text none⟩
  | osdStyle => ⟨.osd, "style".toList, .text none⟩
  | roiStreamType => ⟨.roi, "stream_type".toList, .text (some "mainStream".toList)⟩
  | roiName => ⟨.roi, "name".toList, .text (some "test".toList)⟩
  | roiId => ⟨.roi, "id".toList, .number (-1)⟩
  | roiEnabled => ⟨.roi, "enabled".toList, .number (-1)⟩
  | roiPositionX => ⟨.roi, "position_x".toList, .number (-1)⟩
  | roiPositionY => ⟨.roi, "position_y".toList, .number (-1)⟩
  | roiHeight => ⟨.roi, "height".toList, .number (-1)⟩
  | roiWidth => ⟨.roi, "width".toList, .number (-1)⟩
  | roiQualityLevel => ⟨.roi, "quality_level".toList, .number (-1)⟩
  | regionClipEnabled => ⟨.regionClip, "enabled".toList, .number (-1)⟩
  | regionClipPositionX => ⟨.regionClip, "position_x".toList, .number (-1)⟩
  | regionClipPositionY => ⟨.regionClip, "position_y".toList, .number (-1)⟩
  | regionClipHeight => ⟨.regionClip, "height".toList, .number (-1)⟩
  | regionClipWidth => ⟨.regionClip, "width".toList, .number (-1)⟩
  | eventRiEnabled => ⟨.regionalInvasion, "enabled".toList, .number 0⟩
  | eventRiPositionX => ⟨.regionalInvasion, "position_x".toList, .number 0⟩
  | eventRiPositionY => ⟨.regionalInvasion, "position_y".toList, .number 0⟩
  | eventRiWidth => ⟨.regionalInvasion, "width".toList, .number 256⟩
  | eventRiHeight => ⟨.regionalInvasion, "height".toList, .number 256⟩
  | eventRiProportion => ⟨.regionalInvasion, "proportion".toList, .number 5⟩
  | eventRiSensitivityLevel => ⟨.regionalInvasion, "sensitivity_level".toList, .number 50⟩
  | eventRiTimeThreshold => ⟨.regionalInvasion, "time_threshold".toList, .number 1⟩
  | systemDeivceName => ⟨.deviceInfo, "deivce_name".toList, .text none⟩
  | systemTelecontrolId => ⟨.deviceInfo, "telecontrol_id".toList, .text none⟩
  | systemUserNum => ⟨.deviceInfo, "user_num".toList, .number 1⟩
  | systemUserLevel => ⟨.user, "user_level".toList, .number (-1)⟩
  | systemUserName => ⟨.user, "user_name".toList, .text none⟩
  | systemPassword => ⟨.user, "password".toList, .text none⟩
  | audioBitRate => ⟨.audio, "bit_rate".toList, .number 16000⟩
  | audioSampleRate => ⟨.audio, "sample_rate".toList, .number 8000⟩
  | audioVolume => ⟨.audio, "volume".toList, .number 50⟩
  | audioEnableVqe => ⟨.audio, "enable_vqe".toList, .number 1⟩
  | audioEncodeType => ⟨.audio, "encode_type".toList, .text (some "G711A".toList)⟩
  | videoStreamType => ⟨.video, "stream_type".toList, .text (some "mainStream".toList)⟩
  | ispScenario => ⟨.isp, "scenario".toList, .text none⟩

def all : List Setting :=
  [osdIsPresistentText, osdFontSize, osdBoundary, osdAttribute, osdFontColorMode, osdFontColor,
    osdAlignment, osdFontPath, osdEnabled, osdPositionX, osdPositionY, osdHeight, osdWidth,
    osdDisplayWeekEnabled, osdDateStyle, osdTimeStyle, osdType, osdDisplayText, osdImagePath,
    osdStyle, roiStreamType, roiName, roiId, roiEnabled, roiPositionX, roiPositionY, roiHeight,
    roiWidth, roiQualityLevel, regionClipEnabled, regionClipPositionX, regionClipPositionY,
    regionClipHeight, regionClipWidth, eventRiEnabled, eventRiPositionX, eventRiPositionY,
    eventRiWidth, eventRiHeight, eventRiProportion, eventRiSensitivityLevel,
    eventRiTimeThreshold, systemDeivceName, systemTelecontrolId, systemUserNum,
    systemUserLevel, systemUserName, systemPassword, audioBitRate, audioSampleRate, audioVolume,
    audioEnableVqe, audioEncodeType, videoStreamType, ispScenario]

variable (setting : Setting)

/-- `snprintf(entry, 127, ...)` -/
def entry (id : Int32) : Text :=
  (setting.row.owner.sectionOf id ++ ':' :: setting.row.key).take 126

def get (id : Int32) (store : Store) : Except Fault Value :=
  match setting.row.default with
  | .number default => (rkParamGetInt (setting.entry id) default store).map .number
  | .text default => (rkParamGetString (setting.entry id) default store).map .text

def set (id : Int32) (value : Value) (store : Store) : Except Fault Store :=
  match value with
  | .number val => rkParamSetInt (setting.entry id) val store
  | .text val => rkParamSetString (setting.entry id) val store

/-- Two settings in one place: the number counts only where the section has one. -/
def Same (other : Setting) (id otherId : Int32) : Prop :=
  other = setting ∧ (setting.row.owner.numbered = true → otherId = id)

instance decidableSame (other : Setting) (id otherId : Int32) :
    Decidable (setting.Same other id otherId) :=
  inferInstanceAs (Decidable (_ ∧ _))

end Setting

namespace Owner

variable {owner other : Owner} {id otherId : Int32}

theorem title_plain (owner : Owner) :
    ∀ char ∈ owner.title, char ≠ ':' ∧ char.isDigit = false ∧ char ≠ '-' := by
  cases owner <;> decide

theorem title_injective (same : owner.title = other.title) : owner = other := by
  revert same
  cases owner <;> cases other <;> decide

theorem head_decimal (val : Int) : ∃ char rest, decimal val = char :: rest ∧
    (char.isDigit = true ∨ char = '-') := by
  unfold decimal
  split
  · exact ⟨_, _, rfl, .inr rfl⟩
  · obtain ⟨char, rest, isCons⟩ := List.exists_cons_of_ne_nil
      (Nat.toDigits_ne_nil (n := val.natAbs) (b := 10))
    exact ⟨char, rest, isCons, .inl (digits_isDigit (isCons ▸ List.mem_cons_self))⟩

theorem sectionOf_injective (same : owner.sectionOf id = other.sectionOf otherId) :
    owner = other ∧ (owner.numbered = true → id = otherId) := by
  have stops : ∀ (owner : Owner) (id : Int32),
      ∀ char ∈ (if owner.numbered then decimal id.toInt else []).head?,
        ¬ (char.isDigit = false ∧ char ≠ '-') := by
    intro owner id char isFirst
    split at isFirst
    · obtain ⟨first, rest, isCons, kind⟩ := head_decimal id.toInt
      rw [isCons] at isFirst
      cases isFirst
      rintro ⟨notDigit, notSign⟩
      rcases kind with isDigit | isSign
      · rw [isDigit] at notDigit
        cases notDigit
      · exact notSign isSign
    · cases isFirst
  obtain ⟨titles, numbers⟩ := append_inj_of_stops
    (fun char member => (owner.title_plain char member).2)
    (fun char member => (other.title_plain char member).2)
    (stops owner id) (stops other otherId) same
  obtain rfl := title_injective titles
  refine ⟨rfl, fun isNumbered => ?_⟩
  rw [if_pos isNumbered, if_pos isNumbered] at numbers
  exact Int32.toInt_inj.mp (decimal_injective numbers)

theorem sectionOf_congr (owner : Owner) (same : owner.numbered = true → id = otherId) :
    owner.sectionOf id = owner.sectionOf otherId := by
  unfold sectionOf
  split
  next isNumbered => rw [same isNumbered]
  next => rfl

theorem noColon_sectionOf (owner : Owner) (id : Int32) : ':' ∉ owner.sectionOf id := by
  intro member
  rcases List.mem_append.mp member with isTitle | isNumber
  · exact (owner.title_plain ':' isTitle).1 rfl
  · split at isNumber
    · exact noColon_decimal isNumber rfl
    · cases isNumber

theorem length_sectionOf (owner : Owner) (id : Int32) : (owner.sectionOf id).length ≤ 34 := by
  have title : owner.title.length ≤ 23 := by cases owner <;> decide
  have number : (if owner.numbered then decimal id.toInt else []).length ≤ 11 := by
    split
    · obtain ⟨low, high⟩ := int32_bounds id
      exact length_decimal low high
    · exact Nat.zero_le _
  unfold sectionOf
  rw [List.length_append]
  omega

theorem lower_sectionOf (owner : Owner) (id : Int32) :
    (owner.sectionOf id).map Char.toLower = owner.sectionOf id := by
  have title : owner.title.map Char.toLower = owner.title := by cases owner <;> decide
  unfold sectionOf
  rw [List.map_append, title]
  split
  · rw [toLower_decimal]
  · rfl

end Owner

namespace Setting

variable {setting other : Setting} {id otherId : Int32}

theorem mem_all (setting : Setting) : setting ∈ all := by cases setting <;> decide

theorem row_injective (owners : setting.row.owner = other.row.owner)
    (keys : setting.row.key = other.row.key) : setting = other := by
  have distinct : (all.map fun setting => (setting.row.owner, setting.row.key)).Nodup := by
    decide
  exact List.inj_on_of_nodup_map distinct setting.mem_all other.mem_all
    (Prod.ext owners keys)

theorem keyOk (setting : Setting) : KeyOk setting.row.key := by
  have every : ∀ setting ∈ all, KeyOk setting.row.key := by decide
  exact every setting setting.mem_all

theorem length_key (setting : Setting) : setting.row.key.length ≤ 20 := by
  have every : ∀ setting ∈ all, setting.row.key.length ≤ 20 := by decide
  exact every setting setting.mem_all

theorem entry_eq (setting : Setting) (id : Int32) :
    setting.entry id = setting.row.owner.sectionOf id ++ ':' :: setting.row.key := by
  have ofSection := setting.row.owner.length_sectionOf id
  have ofKey := setting.length_key
  refine List.take_of_length_le ?_
  rw [List.length_append, List.length_cons]
  omega

theorem strlwc_entry (setting : Setting) (id : Int32) :
    strlwc (setting.entry id) 1025 = setting.entry id := by
  have short : (setting.entry id).length ≤ 126 := List.length_take_le _ _
  refine strlwc_eq_self ?_ (by omega)
  rw [entry_eq, List.map_append, List.map_cons, Owner.lower_sectionOf, setting.keyOk.lower]
  rfl

theorem entry_inj : other.entry otherId = setting.entry id ↔ setting.Same other id otherId := by
  rw [entry_eq, entry_eq]
  constructor
  · intro same
    obtain ⟨sections, keys⟩ := split_unique (Owner.noColon_sectionOf _ _)
      (Owner.noColon_sectionOf _ _) same
    obtain ⟨owners, ids⟩ := Owner.sectionOf_injective sections
    exact ⟨row_injective owners keys, fun isNumbered => ids (owners ▸ isNumbered)⟩
  · rintro ⟨rfl, ids⟩
    rw [other.row.owner.sectionOf_congr ids]

end Setting

end Rkipc.Param
