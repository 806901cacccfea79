import Mathlib.Tactic.ByContra
import Rkipc.Param.Store

namespace Rkipc.Isp

open Ini Param

/-! The status of the setters of the image processor. -/

namespace Setters

def maxAiqCtx : Nat := 8

inductive AiqCall
  | setColorMode (mode : Int)
  | setDehazeModuleEnable (on : Bool)
  | setDehazeEnable (on : Bool)
  | setMDehazeStrth (level : Int)
  | getColorSpace
  | setColorSpace (space : Int)
deriving DecidableEq

/-- What the library answers, and the value of `Cspace` behind `getColorSpace`. -/
structure Aiq where
  ret : AiqCall → Int
  colorSpace : Int

inductive Call
  | aiq (call : AiqCall)
  | enableIrcut (on : Bool)
  | closeLight (pwm : Nat)
  | paramSetString (entry value : Text)
  | paramSetInt (entry : Text) (value : Int)
deriving DecidableEq

/-- Whether there is a context for the cameras and for the groups of cameras. -/
structure State where
  useGroup : Bool
  aiqCtx : Fin maxAiqCtx → Bool
  cameraGroupCtx : Fin maxAiqCtx → Bool
  lightState : Int

/-- What nobody has written: the variable `ret`, and the pointers in front of the arrays. -/
structure Memory where
  ret : Int
  before : Int → Bool

structure Done where
  status : Int
  calls : List Call

section Source

variable (state : State) (aiq : Aiq) (memory : Memory) (camId : Int)

/-- The pointer that `RK_ISP_CHECK_CAMERA_ID` looks at below `MAX_AIQ_CTX`. -/
def hasCtx : Bool :=
  if camId < 0 then memory.before camId
  else if inside : camId.toNat < maxAiqCtx then
    if state.useGroup then state.cameraGroupCtx ⟨camId.toNat, inside⟩
    else state.aiqCtx ⟨camId.toNat, inside⟩
  else false

def checkCameraId (body : Done) : Done :=
  if camId ≥ maxAiqCtx ∨ hasCtx state memory camId = false then ⟨-1, []⟩ else body

/-- `snprintf(entry, 127, "isp.%d.%s", cam_id, name)` -/
def entry (name : String) : Text := "isp.".toList ++ decimal camId ++ '.' :: name.toList

def setNightToDay (value : Text) : Done :=
  checkCameraId state memory camId
    { status := memory.ret
      calls :=
        (if value = "night".toList then [.aiq (.setColorMode 1), .enableIrcut false]
          else
            .enableIrcut true ::
              (if state.lightState = 1 then [.closeLight 3] else []) ++
                [.aiq (.setColorMode 0)]) ++
          [.paramSetString (entry camId "night_to_day:night_to_day") value] }

/-- The call with the source of the light is commented out. -/
def setFillLightMode (value : Text) : Done :=
  checkCameraId state memory camId
    { status := memory.ret
      calls := [.paramSetString (entry camId "night_to_day:fill_light_mode") value] }

/-- The camera is checked twice. -/
def setLightBrightness (value : Int) : Done :=
  checkCameraId state memory camId <|
    checkCameraId state memory camId
      { status := memory.ret
        calls := [.paramSetInt (entry camId "night_to_day:light_brightness") value] }

def setNightToDayFilterLevel (value : Int) : Done :=
  checkCameraId state memory camId
    { status := memory.ret
      calls := [.paramSetInt (entry camId "night_to_day:night_to_day_filter_level") value] }

def setNightToDayFilterTime (value : Int) : Done :=
  checkCameraId state memory camId
    { status := memory.ret
      calls := [.paramSetInt (entry camId "night_to_day:night_to_day_filter_time") value] }

def setNoiseReduceMode (value : Text) : Done :=
  checkCameraId state memory camId
    { status := memory.ret
      calls := [.paramSetString (entry camId "enhancement:noise_reduce_mode") value] }

def setDehaze (value : Text) : Done :=
  checkCameraId state memory camId
    { status := memory.ret
      calls :=
        (if value = "close".toList then
            [.aiq (.setDehazeModuleEnable true), .aiq (.setDehazeEnable false)]
          else if value = "open".toList then
            [.aiq (.setDehazeModuleEnable true), .aiq (.setDehazeEnable true)]
          else if value = "auto".toList then
            [.aiq (.setDehazeModuleEnable true), .aiq (.setDehazeEnable true),
              .aiq (.setMDehazeStrth 50)]
          else []) ++
          [.paramSetString (entry camId "enhancement:dehaze") value] }

def setGrayScaleMode (value : Text) : Done :=
  let space := aiq.colorSpace
  let space : Int :=
    if value = "[16-235]".toList then
      if space = 0 ∨ space = 1 then 1 else if space = 2 ∨ space = 3 then 3 else 254
    else if space = 0 ∨ space = 1 then 0
    else if space = 2 ∨ space = 3 then 2
    else 253
  checkCameraId state memory camId
    { status := memory.ret
      calls := [.aiq .getColorSpace, .aiq (.setColorSpace space),
        .paramSetString (entry camId "enhancement:gray_scale_mode") value] }

end Source

end Setters

inductive Setter
  | nightToDay (value : Text)
  | fillLightMode (value : Text)
  | lightBrightness (value : Int)
  | nightToDayFilterLevel (value : Int)
  | nightToDayFilterTime (value : Int)
  | noiseReduceMode (value : Text)
  | dehaze (value : Text)
  | grayScaleMode (value : Text)

namespace Setter

open Setters

variable (state : State) (aiq : Aiq) (memory : Memory) (camId : Int)

def run : Setter → Done
  | nightToDay value => setNightToDay state memory camId value
  | fillLightMode value => setFillLightMode state memory camId value
  | lightBrightness value => setLightBrightness state memory camId value
  | nightToDayFilterLevel value => setNightToDayFilterLevel state memory camId value
  | nightToDayFilterTime value => setNightToDayFilterTime state memory camId value
  | noiseReduceMode value => setNoiseReduceMode state memory camId value
  | dehaze value => setDehaze state memory camId value
  | grayScaleMode value => setGrayScaleMode state aiq memory camId value

variable (setter : Setter)

/-- Two runs that differ only in memory that nobody has written return the same. -/
def Determined : Prop :=
  ∀ first second, (setter.run state aiq first camId).status =
    (setter.run state aiq second camId).status

/-- The status is 0 exactly when all calls of the library have succeeded. -/
def Reports : Prop :=
  ∀ memory, (setter.run state aiq memory camId).status = 0 ↔
    ∀ call, .aiq call ∈ (setter.run state aiq memory camId).calls → aiq.ret call = 0

/-- The number is not negative, and there is no camera with it. -/
def Refused : Prop :=
  0 ≤ camId ∧ ∀ inside : camId.toNat < maxAiqCtx,
    (if state.useGroup then state.cameraGroupCtx ⟨camId.toNat, inside⟩
      else state.aiqCtx ⟨camId.toNat, inside⟩) = false

variable {state : State} {aiq : Aiq} {memory : Memory} {camId : Int} {setter : Setter}
  {body : Done}

theorem check_refused (refused : Refused state camId) :
    checkCameraId state memory camId body = ⟨-1, []⟩ := by
  obtain ⟨nonneg, noCtx⟩ := refused
  refine if_pos (or_iff_not_imp_left.mpr fun below => ?_)
  have inside : camId.toNat < maxAiqCtx := by omega
  rw [hasCtx, if_neg (Int.not_lt.mpr nonneg), dif_pos inside]
  exact noCtx inside

theorem check_accepted (accepted : ¬ Refused state camId) (ret : Int) :
    checkCameraId state ⟨ret, fun _ => true⟩ camId body = body := by
  refine if_neg (not_or.mpr ⟨?_, ?_⟩)
  · intro outside
    exact accepted ⟨by omega, fun inside => absurd inside (by omega)⟩
  · rw [hasCtx]
    by_cases negative : camId < 0
    · rw [if_pos negative]
      exact Bool.noConfusion
    · rw [if_neg negative]
      by_cases inside : camId.toNat < maxAiqCtx
      · rw [dif_pos inside]
        exact fun noCtx => accepted ⟨Int.not_lt.mp negative, fun _ => noCtx⟩
      · exact absurd ⟨Int.not_lt.mp negative, fun isIn => absurd isIn inside⟩ accepted

theorem check_check :
    checkCameraId state memory camId (checkCameraId state memory camId body) =
      checkCameraId state memory camId body := by
  unfold checkCameraId
  split <;> rfl

theorem run_eq (setter : Setter) (state : State) (aiq : Aiq) (camId : Int) :
    ∃ calls, ∀ memory, setter.run state aiq memory camId =
      checkCameraId state memory camId ⟨memory.ret, calls⟩ := by
  cases setter with
  | lightBrightness value => exact ⟨_, fun _ => check_check⟩
  | nightToDay value => exact ⟨_, fun _ => rfl⟩
  | fillLightMode value => exact ⟨_, fun _ => rfl⟩
  | nightToDayFilterLevel value => exact ⟨_, fun _ => rfl⟩
  | nightToDayFilterTime value => exact ⟨_, fun _ => rfl⟩
  | noiseReduceMode value => exact ⟨_, fun _ => rfl⟩
  | dehaze value => exact ⟨_, fun _ => rfl⟩
  | grayScaleMode value => exact ⟨_, fun _ => rfl⟩

theorem run_refused (refused : Refused state camId) :
    setter.run state aiq memory camId = ⟨-1, []⟩ := by
  obtain ⟨calls, isRun⟩ := setter.run_eq state aiq camId
  rw [isRun, check_refused refused]

theorem determined_iff : setter.Determined state aiq camId ↔ Refused state camId := by
  constructor
  · intro determined
    by_contra accepted
    obtain ⟨calls, isRun⟩ := setter.run_eq state aiq camId
    have same := determined ⟨0, fun _ => true⟩ ⟨1, fun _ => true⟩
    rw [isRun, isRun, check_accepted accepted, check_accepted accepted] at same
    have differ : (0 : Int) = 1 := same
    exact absurd differ (by decide)
  · intro refused first second
    rw [run_refused refused, run_refused refused]

theorem not_reports (refused : Refused state camId) : ¬ setter.Reports state aiq camId := by
  intro reports
  have isZero := (reports ⟨0, fun _ => true⟩).mpr fun call member => by
    rw [run_refused refused] at member
    exact absurd member List.not_mem_nil
  rw [run_refused refused] at isZero
  exact absurd isZero (by decide)

/-- The status is determined only where the camera is refused, and there it is -1 without a
call. -/
theorem setter_never_reports (setter : Setter) (state : State) (aiq : Aiq) (camId : Int) :
    ¬ (setter.Determined state aiq camId ∧ setter.Reports state aiq camId) ∧
      (setter.Determined state aiq camId ↔ Refused state camId) ∧
        (Refused state camId → ∀ memory, setter.run state aiq memory camId = ⟨-1, []⟩) :=
  ⟨fun ⟨determined, reports⟩ => not_reports (determined_iff.mp determined) reports,
    determined_iff, fun refused _ => run_refused refused⟩

def camera : State := ⟨false, fun camId => camId.val = 0, fun _ => false, -1⟩

def succeeding : Aiq := ⟨fun _ => 0, 0⟩

theorem dehaze_not_determined :
    ¬ ∀ (setter : Setter) (state : State) (aiq : Aiq) (camId : Int),
      setter.Determined state aiq camId ∧ setter.Reports state aiq camId := by
  intro general
  have same := (general (.dehaze "open".toList) camera succeeding 0).1
    ⟨0, fun _ => false⟩ ⟨1, fun _ => false⟩
  have differ : (0 : Int) = 1 := same
  exact absurd differ (by decide)

end Setter

end Rkipc.Isp
