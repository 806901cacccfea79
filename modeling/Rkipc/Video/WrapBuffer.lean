import Rkipc.Param.Copies

namespace Rkipc.Video.WrapBuffer

open Ini Param Param.Copies

/-! The lines of the buffer that the video input, the first encoder and the JPEG encoder
share in wrap mode. -/

structure ViChnBufWrap where
  bEnable : Bool
  u32BufLine : UInt32
  u32WrapBufferSize : UInt32

structure VencChnBufWrap where
  bEnable : Bool
  u32BufLine : UInt32

section Init

variable (d : Dictionary)

def videoMaxHeight : Int := getInt d "video.0:max_height".toList (-1)

def videoMaxWidth : Int := getInt d "video.0:max_width".toList (-1)

def bufferLineEntry : Text := "video.source:buffer_line".toList

/-- What `rkipc_vi_ext_init` gives to `RK_MPI_VI_SetChnWrapBufAttr`. -/
def rkipcViExtInit (enableWrap : Bool) : Option ViChnBufWrap :=
  let bufferLine := getInt d bufferLineEntry ((videoMaxHeight d).tdiv 4)
  let bufferLine := if bufferLine < 128 then videoMaxHeight d else bufferLine
  if enableWrap then
    let bufferLine :=
      if bufferLine < 128 ∨ videoMaxHeight d < bufferLine then videoMaxHeight d
      else bufferLine
    some
      { bEnable := enableWrap
        u32BufLine := UInt32.ofInt bufferLine
        u32WrapBufferSize :=
          UInt32.ofInt bufferLine * UInt32.ofInt (videoMaxWidth d) * 3 / 2 }
  else none

/-- The field is unsigned, and so is its comparison. -/
def vencWrap (enableWrap : Bool) (default : Int) : Option VencChnBufWrap :=
  if enableWrap then
    let u32BufLine := UInt32.ofInt (getInt d bufferLineEntry default)
    some
      { bEnable := enableWrap
        u32BufLine :=
          if u32BufLine < 128 then UInt32.ofInt (videoMaxHeight d) else u32BufLine }
  else none

/-- What `rkipc_pipe_0_init` gives to `RK_MPI_VENC_SetChnBufWrapAttr`. -/
def rkipcPipe0Init (enableWrap : Bool) : Option VencChnBufWrap :=
  vencWrap d enableWrap (videoMaxHeight d)

/-- What `rkipc_pipe_jpeg_init` gives to `RK_MPI_VENC_SetChnBufWrapAttr`. -/
def rkipcPipeJpegInit (enableWrap : Bool) : Option VencChnBufWrap :=
  vencWrap d enableWrap ((videoMaxHeight d).tdiv 4)

/-- All channels get the same number of lines, between 128 and the height. -/
def Agree (enableWrap : Bool) : Prop :=
  ∃ line : UInt32,
    (rkipcViExtInit d enableWrap).map ViChnBufWrap.u32BufLine = some line ∧
    (rkipcPipe0Init d enableWrap).map VencChnBufWrap.u32BufLine = some line ∧
    (rkipcPipeJpegInit d enableWrap).map VencChnBufWrap.u32BufLine = some line ∧
    128 ≤ line.toNat ∧ (line.toNat : Int) ≤ videoMaxHeight d

/-- The parameter is not negative and not beyond the height; without it a quarter of the
height is too little. -/
def Suits : Prop :=
  match getString d bufferLineEntry none with
  | some text => 0 ≤ strtol text ∧ strtol text ≤ videoMaxHeight d
  | none => videoMaxHeight d < 512

end Init

def InRange (val : Int) : Prop := -2147483648 ≤ val ∧ val ≤ 2147483647

section Numbers

variable {d : Dictionary} {key text : Text} {val default height : Int}

theorem strtol_inRange : InRange (strtol text) :=
  ⟨Int.le_max_left _ _, Int.max_le.mpr ⟨by omega, Int.min_le_left _ _⟩⟩

theorem getInt_inRange (inRange : InRange default) : InRange (getInt d key default) := by
  unfold getInt
  cases getString d key none with
  | none => exact inRange
  | some text => exact strtol_inRange

theorem videoMaxHeight_inRange : InRange (videoMaxHeight d) :=
  getInt_inRange ⟨by decide, by decide⟩

theorem toNat_ofInt (val : Int) : ((UInt32.ofInt val).toNat : Int) = val % 4294967296 := by
  rw [UInt32.ofInt, UInt32.toNat_ofNat']
  omega

theorem toNat_ofInt_of_nonneg (inRange : InRange val) (nonneg : 0 ≤ val) :
    ((UInt32.ofInt val).toNat : Int) = val := by
  rw [toNat_ofInt]
  exact Int.emod_eq_of_lt nonneg (by unfold InRange at inRange; omega)

theorem ofInt_inj {other : Int} (inRange : InRange val) (otherInRange : InRange other) :
    UInt32.ofInt val = UInt32.ofInt other ↔ val = other := by
  refine ⟨fun same => ?_, congrArg UInt32.ofInt⟩
  have equal : val % 4294967296 = other % 4294967296 := by
    rw [← toNat_ofInt, ← toNat_ofInt, same]
  unfold InRange at inRange otherInRange
  omega

theorem ofInt_lt_iff (inRange : InRange val) :
    UInt32.ofInt val < 128 ↔ 0 ≤ val ∧ val < 128 := by
  have value := toNat_ofInt val
  rw [UInt32.lt_iff_toNat_lt]
  unfold InRange at inRange
  have limit : (128 : UInt32).toNat = 128 := rfl
  rw [limit]
  omega

end Numbers

section Lines

variable {height val : Int}

/-- What the video input makes of the number of lines. -/
def viLine (height val : Int) : Int := if val < 128 ∨ height < val then height else val

/-- What the encoders make of it. -/
def vencLine (height val : Int) : Int := if 0 ≤ val ∧ val < 128 then height else val

theorem viLine_eq_vencLine_iff (tall : 128 ≤ height) :
    viLine height val = vencLine height val ↔ 0 ≤ val ∧ val ≤ height := by
  unfold viLine vencLine
  split <;> split <;> omega

theorem clamped_eq_viLine :
    (if (if val < 128 then height else val) < 128 ∨
        height < (if val < 128 then height else val) then height
      else if val < 128 then height else val) = viLine height val := by
  unfold viLine
  split <;> split <;> omega

theorem viLine_bounds (val : Int) (tall : 128 ≤ height) :
    128 ≤ viLine height val ∧ viLine height val ≤ height := by
  unfold viLine
  split <;> omega

theorem vencLine_inRange (heightInRange : InRange height) (inRange : InRange val) :
    InRange (vencLine height val) := by
  unfold vencLine
  split
  next => exact heightInRange
  next => exact inRange

theorem viLine_inRange (heightInRange : InRange height) (inRange : InRange val) :
    InRange (viLine height val) := by
  unfold viLine
  split
  next => exact heightInRange
  next => exact inRange

end Lines

section Agreement

variable {d : Dictionary} {default : Int}

theorem rkipcViExtInit_line : (rkipcViExtInit d true).map ViChnBufWrap.u32BufLine =
    some (UInt32.ofInt (viLine (videoMaxHeight d)
      (getInt d bufferLineEntry ((videoMaxHeight d).tdiv 4)))) := by
  rw [← clamped_eq_viLine]
  rfl

theorem vencWrap_line (inRange : InRange default) :
    (vencWrap d true default).map VencChnBufWrap.u32BufLine =
      some (UInt32.ofInt (vencLine (videoMaxHeight d) (getInt d bufferLineEntry default))) := by
  rw [vencWrap, if_pos rfl, Option.map_some, vencLine, apply_ite UInt32.ofInt]
  simp only [ofInt_lt_iff (getInt_inRange inRange)]

theorem tdiv_four_inRange (tall : 128 ≤ videoMaxHeight d) :
    InRange ((videoMaxHeight d).tdiv 4) := by
  have height := (videoMaxHeight_inRange (d := d)).2
  rw [Int.tdiv_eq_ediv_of_nonneg (by omega)]
  constructor <;> omega

theorem agree_iff_lines (tall : 128 ≤ videoMaxHeight d) :
    Agree d true ↔
      viLine (videoMaxHeight d) (getInt d bufferLineEntry ((videoMaxHeight d).tdiv 4)) =
          vencLine (videoMaxHeight d) (getInt d bufferLineEntry (videoMaxHeight d)) ∧
        viLine (videoMaxHeight d) (getInt d bufferLineEntry ((videoMaxHeight d).tdiv 4)) =
          vencLine (videoMaxHeight d)
            (getInt d bufferLineEntry ((videoMaxHeight d).tdiv 4)) := by
  have height : InRange (videoMaxHeight d) := videoMaxHeight_inRange
  have quarter := tdiv_four_inRange tall
  have read : InRange (getInt d bufferLineEntry ((videoMaxHeight d).tdiv 4)) :=
    getInt_inRange quarter
  have vi := viLine_inRange height read
  have bounds := viLine_bounds (getInt d bufferLineEntry ((videoMaxHeight d).tdiv 4)) tall
  rw [← ofInt_inj vi (vencLine_inRange height (getInt_inRange height)),
    ← ofInt_inj vi (vencLine_inRange height (getInt_inRange quarter))]
  unfold Agree rkipcPipe0Init rkipcPipeJpegInit
  rw [rkipcViExtInit_line, vencWrap_line height, vencWrap_line quarter]
  constructor
  · rintro ⟨line, isVi, isVenc, isJpeg, _, _⟩
    exact ⟨Option.some_inj.mp (isVi.trans isVenc.symm), Option.some_inj.mp (isVi.trans isJpeg.symm)⟩
  · rintro ⟨venc, jpeg⟩
    refine ⟨_, rfl, congrArg some venc.symm, congrArg some jpeg.symm, ?_, ?_⟩
    · have value := toNat_ofInt_of_nonneg vi (by omega)
      omega
    · rw [toNat_ofInt_of_nonneg vi (by omega)]
      exact bounds.2

theorem getInt_of_some {text key : Text} (present : getString d key none = some text) :
    getInt d key default = strtol text := by
  rw [getInt, present]
  rfl

theorem getInt_of_none {key : Text} (absent : getString d key none = none) :
    getInt d key default = default := by
  rw [getInt, absent]
  rfl

/-- In wrap mode the channels agree exactly when the parameter suits the height. -/
theorem wrapLines_agree_iff (d : Dictionary) (tall : 128 ≤ videoMaxHeight d) :
    Agree d true ↔ Suits d := by
  rw [agree_iff_lines tall, Suits]
  cases found : getString d bufferLineEntry none with
  | some text =>
      simp only [getInt_of_some found, viLine_eq_vencLine_iff tall, and_self]
  | none =>
      simp only [getInt_of_none found, viLine_eq_vencLine_iff tall]
      rw [Int.tdiv_eq_ediv_of_nonneg (by omega), viLine, vencLine]
      split <;> split <;> omega

def withLines (maxHeight bufferLine : String) : Dictionary :=
  iniparserSet (iniparserSet (dictionaryNew 0) "video.0:max_height".toList
    (some maxHeight.toList)) bufferLineEntry (some bufferLine.toList)

theorem wrapLines_agree_quarter :
    128 ≤ videoMaxHeight (withLines "1520" "380") ∧
      (Agree (withLines "1520" "380") true ↔ Suits (withLines "1520" "380")) := by
  have tall : 128 ≤ videoMaxHeight (withLines "1520" "380") := by decide +kernel
  exact ⟨tall, wrapLines_agree_iff (withLines "1520" "380") tall⟩

/-- More lines than the height: only the video input is given the height. -/
theorem wrapLines_differ :
    ¬ ∀ d : Dictionary, 128 ≤ videoMaxHeight d → Agree d true := by
  intro general
  have tall : 128 ≤ videoMaxHeight (withLines "1520" "2000") := by decide +kernel
  obtain ⟨line, isVi, isVenc, _⟩ := general _ tall
  have vi : (rkipcViExtInit (withLines "1520" "2000") true).map ViChnBufWrap.u32BufLine =
      some 1520 := by
    decide +kernel
  have venc : (rkipcPipe0Init (withLines "1520" "2000") true).map VencChnBufWrap.u32BufLine =
      some 2000 := by
    decide +kernel
  have same : (1520 : UInt32) = 2000 := by
    rw [← Option.some_inj, ← vi, isVi, ← isVenc, venc]
  exact absurd same (by decide)

end Agreement

end Rkipc.Video.WrapBuffer
