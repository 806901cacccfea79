import Rkipc.Param.IntEntries

namespace Rkipc.Isp

open Ini Param

/-! The steps of zoom and focus from the position of the lens, in the range of the device. -/

/-- `rk_aiq_af_zoomrange` and `rk_aiq_af_focusrange` -/
structure Range where
  minPos : Int32
  maxPos : Int32

def Range.Holds (range : Range) (code : Int) : Prop :=
  range.minPos.toInt ≤ code ∧ code ≤ range.maxPos.toInt

instance (range : Range) (code : Int) : Decidable (range.Holds code) :=
  inferInstanceAs (Decidable (_ ∧ _))

/-- The calls of the image library about one lens, each with its status; `κ` is the type of a
position.  A call that succeeds moves the lens, one that fails leaves it.  The reads of the
position are those that succeed; the source does not look at their status. -/
structure Lens (σ κ : Type) where
  getRange : σ → Int32 × Range
  getPosition : σ → κ
  setPosition : κ → σ → Int32 × σ
  moved : ∀ code state, (setPosition code state).1 = 0 →
    getPosition (setPosition code state).2 = code
  stays : ∀ code state, (setPosition code state).1 ≠ 0 →
    getPosition (setPosition code state).2 = getPosition state

/-- The device with the configuration; `isInit` is whether the camera has a context. -/
structure Camera (σ : Type) where
  isInit : Bool
  device : σ
  store : Store

section Source

variable {σ : Type} (camId : Int)

/-- `snprintf(entry, 127, "isp.%d.auto_focus:%s", cam_id, name)` -/
def entryOf (name : String) : Text :=
  "isp.".toList ++ decimal camId ++ ".auto_focus:".toList ++ name.toList

def zoomLevel : Text := entryOf camId "zoom_level"

def focusLevel : Text := entryOf camId "focus_level"

def afMode : Text := entryOf camId "af_mode"

/-- A position outside the range is only logged before it is set. -/
def rkIspAfZoomChange (lens : Lens σ Int32) (change : Int32) (camera : Camera σ) :
    Except Fault (Int32 × Camera σ) :=
  if camera.isInit = false then .ok (-1, camera)
  else if (lens.getRange camera.device).1 ≠ 0 then
    .ok ((lens.getRange camera.device).1, camera)
  else do
    let code := lens.getPosition camera.device + change
    let (ret, device) := lens.setPosition code camera.device
    let store ← rkParamSetInt (zoomLevel camId) code.toInt camera.store
    return (ret, { camera with device := device, store := store })

/-- `code += change` for a `short`. -/
def addTo (code : Int16) (change : Int32) : Int16 := (code.toInt32 + change).toInt16

def rkIspAfFocusChange (lens : Lens σ Int16) (change : Int32) (camera : Camera σ) :
    Except Fault (Int32 × Camera σ) :=
  if camera.isInit = false then .ok (-1, camera)
  else do
    match ← rkParamGetString (afMode camId) (some "auto".toList) camera.store with
    | none => .error .null
    | some mode =>
        if mode = "auto".toList then return (0, camera)
        else if (lens.getRange camera.device).1 ≠ 0 then
          return ((lens.getRange camera.device).1, camera)
        else
          let code := addTo (lens.getPosition camera.device) change
          if ¬ (lens.getRange camera.device).2.Holds code.toInt then return (-1, camera)
          else
            let (ret, device) := lens.setPosition code camera.device
            let store ← rkParamSetInt (focusLevel camId) code.toInt camera.store
            return (ret, { camera with device := device, store := store })

end Source

/-- What a call with a status of success leaves of a target in the range, and what every other
call leaves. -/
def Respects {σ : Type} (position : σ → Int) (entry : Text) (range : Range) (target : Int)
    (camera : Camera σ) (called : Except Fault (Int32 × Camera σ)) : Prop :=
  ∃ ret next, called = .ok (ret, next) ∧
    (¬ range.Holds target → ret ≠ 0 ∧ position next.device = position camera.device ∧
      rkParamGetInt entry (-1) next.store = rkParamGetInt entry (-1) camera.store) ∧
    (range.Holds target →
      (ret = 0 → position next.device = target ∧
        rkParamGetInt entry (-1) next.store = .ok target) ∧
      (ret ≠ 0 → rkParamGetInt entry (-1) next.store = rkParamGetInt entry (-1) camera.store))

section Steps

variable {σ : Type} {camId : Int} {camera : Camera σ} {d : Dictionary} {change : Int32}
  {entry : Text} {store next : Store}

theorem short_of_set {val : Int} (isNext : rkParamSetInt entry val store = .ok next) :
    (decimal val).length < 8 := by
  unfold rkParamSetInt at isNext
  cases written : rkParamSetString entry (some (decimal val)) store with
  | error fault =>
      rw [written] at isNext
      cases isNext
  | ok store =>
      rw [written] at isNext
      dsimp only [bind, Except.bind] at isNext
      split at isNext
      next short => exact short
      next => cases isNext

/-- In the range there are no numbers that the sum of two `int`s wraps to. -/
theorem toInt_add_of_holds {range : Range} {code : Int32}
    (holds : range.Holds (code.toInt + change.toInt)) :
    (code + change).toInt = code.toInt + change.toInt := by
  have low := range.minPos.le_toInt
  have high := range.maxPos.toInt_lt
  obtain ⟨isMin, isMax⟩ := holds
  rw [Int32.toInt_add]
  exact Int.bmod_eq_of_le (by omega) (by omega)

theorem toInt_addTo (code : Int16) :
    (addTo code change).toInt = code.toInt + change.toInt ↔
      -2 ^ 15 ≤ code.toInt + change.toInt ∧ code.toInt + change.toInt < 2 ^ 15 := by
  have isSum : (addTo code change).toInt = (code.toInt + change.toInt).bmod (2 ^ 16) := by
    rw [addTo, Int32.toInt_toInt16, Int32.toInt_add, Int16.toInt_toInt32]
    exact Int.bmod_bmod_of_dvd (by decide)
  have low := (addTo code change).le_toInt
  have high := (addTo code change).toInt_lt
  constructor
  · intro same
    omega
  · intro inside
    rw [isSum]
    exact Int.bmod_eq_of_le (by omega) (by omega)

/-- What moving and storing leaves: on success the target must be in the range and reached, on
failure the position that is stored anyway must be stored already. -/
theorem respects_move {κ : Type} {lens : Lens σ κ} (toInt : κ → Int) {code : κ} {val : Int32}
    {range : Range} {target : Int} (live : camera.store.dict = .ok (some d)) (sound : d.Sound)
    (isVal : val.toInt = toInt code) :
    Respects (fun device => toInt (lens.getPosition device)) entry range target camera
        (rkParamSetInt entry (toInt code) camera.store >>= fun store =>
          pure ((lens.setPosition code camera.device).1,
            { camera with device := (lens.setPosition code camera.device).2, store := store })) ↔
      (-999999 ≤ toInt code ∧ toInt code ≤ 9999999) ∧
        if (lens.setPosition code camera.device).1 = 0 then
          range.Holds target ∧ toInt code = target
        else rkParamGetInt entry (-1) camera.store = .ok (toInt code) := by
  have fits : (decimal (toInt code)).length < 8 ↔ -999999 ≤ toInt code ∧ toInt code ≤ 9999999 :=
    length_decimal_lt
  by_cases short : -999999 ≤ toInt code ∧ toInt code ≤ 9999999
  · obtain ⟨next, isNext, isRead, _⟩ :=
      (intSurvives_iff live sound entry val).mpr (isVal ▸ short)
    rw [isVal] at isNext isRead
    have moved := lens.moved code camera.device
    have stays := lens.stays code camera.device
    rw [isNext, and_iff_right short]
    generalize lens.setPosition code camera.device = answer at moved stays
    constructor
    · rintro ⟨ret, after, same, outside, inside⟩
      cases same
      rw [isRead] at outside inside
      by_cases accepted : answer.1 = 0
      · rw [if_pos accepted]
        have holds : range.Holds target := by
          by_contra other
          exact (outside other).1 accepted
        exact ⟨holds, Except.ok.inj ((inside holds).1 accepted).2⟩
      · rw [if_neg accepted]
        by_cases holds : range.Holds target
        · exact ((inside holds).2 accepted).symm
        · exact (outside holds).2.2.symm
    · intro answers
      refine ⟨answer.1, _, rfl, fun outside => ?_, fun inside => ⟨fun accepted => ?_,
        fun rejected => ?_⟩⟩
      · by_cases accepted : answer.1 = 0
        · rw [if_pos accepted] at answers
          exact absurd answers.1 outside
        · rw [if_neg accepted] at answers
          exact ⟨accepted, congrArg toInt (stays accepted), (isRead _).trans answers.symm⟩
      · rw [if_pos accepted] at answers
        exact ⟨(congrArg toInt (moved accepted)).trans answers.2,
          (isRead _).trans (congrArg Except.ok answers.2)⟩
      · rw [if_neg rejected] at answers
        exact (isRead _).trans answers.symm
  · refine iff_of_false ?_ fun both => short both.1
    rintro ⟨ret, after, isAfter, _⟩
    cases written : rkParamSetInt entry (toInt code) camera.store with
    | error fault =>
        rw [written] at isAfter
        cases isAfter
    | ok next => exact short (fits.mp (short_of_set written))

end Steps

section Claims

variable {σ : Type} {camId : Int} {camera : Camera σ} {d : Dictionary} {change : Int32}

/-- What the range asks of a zoom step, when the device reports one. -/
def ZoomRespects (camId : Int) (lens : Lens σ Int32) (change : Int32) (camera : Camera σ) : Prop :=
  camera.isInit = true → (lens.getRange camera.device).1 = 0 →
    Respects (fun device => (lens.getPosition device).toInt) (zoomLevel camId)
      (lens.getRange camera.device).2
      ((lens.getPosition camera.device).toInt + change.toInt) camera
      (rkIspAfZoomChange camId lens change camera)

/-- What the range asks of a focus step, when the device is asked for one. -/
def FocusRespects (camId : Int) (lens : Lens σ Int16) (change : Int32) (camera : Camera σ) :
    Prop :=
  camera.isInit = true → (lens.getRange camera.device).1 = 0 → ∀ mode,
    rkParamGetString (afMode camId) (some "auto".toList) camera.store = .ok (some mode) →
    mode ≠ "auto".toList →
    Respects (fun device => (lens.getPosition device).toInt) (focusLevel camId)
      (lens.getRange camera.device).2
      ((lens.getPosition camera.device).toInt + change.toInt) camera
      (rkIspAfFocusChange camId lens change camera)

/-- A zoom step is right when the device accepts a target in the range, or when it refuses a
position that is stored already. -/
theorem zoom_respects_iff {lens : Lens σ Int32} (live : camera.store.dict = .ok (some d))
    (sound : d.Sound) (isInit : camera.isInit = true)
    (reports : (lens.getRange camera.device).1 = 0) :
    Respects (fun device => (lens.getPosition device).toInt) (zoomLevel camId)
        (lens.getRange camera.device).2
        ((lens.getPosition camera.device).toInt + change.toInt) camera
        (rkIspAfZoomChange camId lens change camera) ↔
      (-999999 ≤ (lens.getPosition camera.device + change).toInt ∧
        (lens.getPosition camera.device + change).toInt ≤ 9999999) ∧
        if (lens.setPosition (lens.getPosition camera.device + change) camera.device).1 = 0 then
          (lens.getRange camera.device).2.Holds
            ((lens.getPosition camera.device).toInt + change.toInt)
        else rkParamGetInt (zoomLevel camId) (-1) camera.store =
          .ok (lens.getPosition camera.device + change).toInt := by
  have notInit : ¬ camera.isInit = false := by
    rw [isInit]
    exact Bool.noConfusion
  have called : rkIspAfZoomChange camId lens change camera = _ :=
    (if_neg notInit).trans (if_neg (not_not.mpr reports))
  rw [called]
  refine (respects_move Int32.toInt live sound rfl).trans (and_congr_right fun _ => ?_)
  split
  next => exact and_iff_left_of_imp toInt_add_of_holds
  next => exact Iff.rfl

/-- A focus step is right when the position in 16 bits is outside the range, when the device
accepts a target that fits them, or when it refuses a position that is stored already. -/
theorem focus_respects_iff {lens : Lens σ Int16} {mode : Text}
    (live : camera.store.dict = .ok (some d)) (sound : d.Sound) (isInit : camera.isInit = true)
    (reports : (lens.getRange camera.device).1 = 0)
    (isMode : rkParamGetString (afMode camId) (some "auto".toList) camera.store =
      .ok (some mode)) (manual : mode ≠ "auto".toList) :
    Respects (fun device => (lens.getPosition device).toInt) (focusLevel camId)
        (lens.getRange camera.device).2
        ((lens.getPosition camera.device).toInt + change.toInt) camera
        (rkIspAfFocusChange camId lens change camera) ↔
      ((lens.getRange camera.device).2.Holds
          (addTo (lens.getPosition camera.device) change).toInt →
        if (lens.setPosition (addTo (lens.getPosition camera.device) change) camera.device).1 = 0
        then -2 ^ 15 ≤ (lens.getPosition camera.device).toInt + change.toInt ∧
          (lens.getPosition camera.device).toInt + change.toInt < 2 ^ 15
        else rkParamGetInt (focusLevel camId) (-1) camera.store =
          .ok (addTo (lens.getPosition camera.device) change).toInt) := by
  have notInit : ¬ camera.isInit = false := by
    rw [isInit]
    exact Bool.noConfusion
  unfold rkIspAfFocusChange
  rw [if_neg notInit, isMode]
  dsimp only [bind, Except.bind]
  rw [if_neg manual, if_neg (not_not.mpr reports)]
  by_cases holds : (lens.getRange camera.device).2.Holds
      (addTo (lens.getPosition camera.device) change).toInt
  · rw [if_neg (not_not.mpr holds), forall_prop_of_true holds]
    have isVal := Int16.toInt_toInt32 (addTo (lens.getPosition camera.device) change)
    have low := (addTo (lens.getPosition camera.device) change).le_toInt
    have high := (addTo (lens.getPosition camera.device) change).toInt_lt
    refine (respects_move Int16.toInt live sound isVal).trans
      ((and_iff_right (by omega)).trans ?_)
    split
    next =>
      rw [toInt_addTo]
      refine and_iff_right_of_imp fun fits => ?_
      rw [← (toInt_addTo _).mpr fits]
      exact holds
    next => exact Iff.rfl
  · rw [if_pos holds]
    refine iff_of_true
      ⟨-1, camera, rfl, fun _ => ⟨by decide, rfl, rfl⟩, fun _ => ⟨?_, fun _ => rfl⟩⟩
      fun inside => absurd inside holds
    exact fun success => absurd success (by decide)

/-- The device accepts a zoom target in the range, or refuses one that is stored already. -/
def ZoomSettles (camId : Int) (lens : Lens σ Int32) (change : Int32) (camera : Camera σ) : Prop :=
  let code := lens.getPosition camera.device + change
  camera.isInit = true → (lens.getRange camera.device).1 = 0 →
    (-999999 ≤ code.toInt ∧ code.toInt ≤ 9999999) ∧
      if (lens.setPosition code camera.device).1 = 0 then
        (lens.getRange camera.device).2.Holds
          ((lens.getPosition camera.device).toInt + change.toInt)
      else rkParamGetInt (zoomLevel camId) (-1) camera.store = .ok code.toInt

/-- The focus target goes outside the range, or the device accepts one that fits 16 bits, or
refuses one that is stored already. -/
def FocusSettles (camId : Int) (lens : Lens σ Int16) (change : Int32) (camera : Camera σ) :
    Prop :=
  let code := addTo (lens.getPosition camera.device) change
  camera.isInit = true → (lens.getRange camera.device).1 = 0 → ∀ mode,
    rkParamGetString (afMode camId) (some "auto".toList) camera.store = .ok (some mode) →
    mode ≠ "auto".toList → (lens.getRange camera.device).2.Holds code.toInt →
      if (lens.setPosition code camera.device).1 = 0 then
        -2 ^ 15 ≤ (lens.getPosition camera.device).toInt + change.toInt ∧
          (lens.getPosition camera.device).toInt + change.toInt < 2 ^ 15
      else rkParamGetInt (focusLevel camId) (-1) camera.store = .ok code.toInt

end Claims

/-- The steps respect the range exactly when they settle. -/
theorem lens_respects_iff {σ : Type} {camera : Camera σ} {d : Dictionary}
    (live : camera.store.dict = .ok (some d)) (sound : d.Sound) (camId : Int)
    (zoom : Lens σ Int32) (focus : Lens σ Int16) (change : Int32) :
    ZoomRespects camId zoom change camera ∧ FocusRespects camId focus change camera ↔
      ZoomSettles camId zoom change camera ∧ FocusSettles camId focus change camera :=
  and_congr
    (forall_congr' fun isInit => forall_congr' fun reports =>
      zoom_respects_iff live sound isInit reports)
    (forall_congr' fun isInit => forall_congr' fun reports => forall_congr' fun _ =>
      forall_congr' fun isMode => forall_congr' fun manual =>
        focus_respects_iff live sound isInit reports isMode manual)

section Examples

def obligingZoom (range : Range) : Lens (Int32 × Int16) Int32 where
  getRange _ := (0, range)
  getPosition state := state.1
  setPosition code state := (0, (code, state.2))
  moved _ _ _ := rfl
  stays _ _ rejected := absurd rfl rejected

def obligingFocus (range : Range) : Lens (Int32 × Int16) Int16 where
  getRange _ := (0, range)
  getPosition state := state.2
  setPosition code state := (0, (state.1, code))
  moved _ _ _ := rfl
  stays _ _ rejected := absurd rfl rejected

def resting : Camera (Int32 × Int16) :=
  ⟨true, (0, 0), ⟨[some oneSection], some 0, none, none⟩⟩

theorem lens_respects_iff_resting :
    resting.store.dict = .ok (some oneSection) ∧ oneSection.Sound ∧
      (ZoomRespects 0 (obligingZoom ⟨0, 100⟩) 20 resting ∧
          FocusRespects 0 (obligingFocus ⟨0, 100⟩) 20 resting ↔
        ZoomSettles 0 (obligingZoom ⟨0, 100⟩) 20 resting ∧
          FocusSettles 0 (obligingFocus ⟨0, 100⟩) 20 resting) :=
  ⟨rfl, sound_oneSection, lens_respects_iff rfl sound_oneSection 0 _ _ 20⟩

/-- A zoom step over the end of the range is logged as an error, made and stored. -/
theorem zoom_leaves_range :
    ¬ ∀ (camera : Camera (Int32 × Int16)) (d : Dictionary),
      camera.store.dict = .ok (some d) → d.Sound →
      ∀ (camId : Int) (zoom : Lens (Int32 × Int16) Int32) (focus : Lens (Int32 × Int16) Int16)
        (change : Int32),
        ZoomRespects camId zoom change camera ∧ FocusRespects camId focus change camera := by
  intro general
  obtain ⟨ret, next, isNext, outside, _⟩ :=
    (general resting oneSection rfl sound_oneSection 0 (obligingZoom ⟨0, 100⟩)
      (obligingFocus ⟨0, 100⟩) 200).1 rfl rfl
  obtain ⟨fails, _⟩ := outside (by decide)
  have called : rkIspAfZoomChange 0 (obligingZoom ⟨0, 100⟩) 200 resting =
      rkParamSetInt (zoomLevel 0) (0 + 200 : Int32).toInt resting.store >>= fun store =>
        .ok (0, ⟨true, (0 + 200, 0), store⟩) := rfl
  rw [called] at isNext
  cases written : rkParamSetInt (zoomLevel 0) (0 + 200 : Int32).toInt resting.store with
  | error fault =>
      rw [written] at isNext
      cases isNext
  | ok store =>
      rw [written] at isNext
      cases isNext
      exact fails rfl

end Examples

end Rkipc.Isp
