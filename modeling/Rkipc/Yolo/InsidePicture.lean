import Mathlib.Data.Rat.Floor
import Rkipc.Yolo.Letterbox
import Rkipc.Yolo.PostprocessAgree

namespace Rkipc.Yolo

open Libc

/-! When the detections are in the picture. -/

variable {K : Type u} [Field K] [LinearOrder K] [FloorRing K] {sigmoid : K → K}

section Rects

omit [FloorRing K] in
theorem detectiontRects_eq (outputData : OutputData K) :
    outputData.detectiontRects sigmoid =
      (outputData.detectRects sigmoid).flatMap DetectRect.floats := by
  cases outputData with
  | wantFloat pBlob =>
      rw [OutputData.detectiontRects, getConvDetectionResult, pushRects_eq _ _ classId_of_detect,
        List.nil_append, OutputData.detectRects]
  | int8 pBlob outZps outScales =>
      rw [OutputData.detectiontRects, getConvDetectionResultInt8,
        pushRects_eq _ _ classId_of_detect, List.nil_append, OutputData.detectRects]

def DetectRect.detection (img : Mat) (rect : DetectRect K) : Detection K :=
  Yolo.detection img rect.classId rect.score rect.xmin rect.ymin rect.xmax rect.ymax

theorem detections_eq (img : Mat) (rects : List (DetectRect K)) :
    detections img (rects.flatMap DetectRect.floats) = rects.map (DetectRect.detection img) := by
  induction rects with
  | nil => rfl
  | cons rect rects induction =>
      rw [List.flatMap_cons, List.map_cons, ← induction]
      rfl

variable [IsStrictOrderedRing K]

theorem bounds_of_detect {score : Cell → K × Nat} {reg : Cell → Nat → K} {rect : DetectRect K}
    (isIn : rect ∈ detect score reg) :
    0 ≤ rect.xmin ∧ 0 ≤ rect.ymin ∧ rect.xmax ≤ 1 ∧ rect.ymax ≤ 1 := by
  rw [detect_eq] at isIn
  obtain ⟨cell, -, isFound⟩ := List.mem_filterMap.mp isIn
  unfold found at isFound
  split at isFound
  next =>
    cases isFound
    exact ⟨div_nonneg (le_max_left _ _) (Nat.cast_nonneg _),
      div_nonneg (le_max_left _ _) (Nat.cast_nonneg _),
      div_le_one_of_le₀ (min_le_left _ _) (Nat.cast_nonneg _),
      div_le_one_of_le₀ (min_le_left _ _) (Nat.cast_nonneg _)⟩
  next => cases isFound

theorem bounds {outputData : OutputData K} {rect : DetectRect K}
    (isIn : rect ∈ outputData.detectRects sigmoid) :
    0 ≤ rect.xmin ∧ 0 ≤ rect.ymin ∧ rect.xmax ≤ 1 ∧ rect.ymax ≤ 1 := by
  cases outputData with
  | wantFloat pBlob => exact bounds_of_detect isIn
  | int8 pBlob outZps outScales => exact bounds_of_detect isIn

end Rects

variable [IsStrictOrderedRing K]

section Axis

variable {size pad : Int} {low high : K}

theorem inOrder_iff {length : Int} (positive : 0 ≤ length) (isLow : 0 ≤ low) :
    0 ≤ corner length high - corner length low ↔ InOrder length low high := by
  have nonneg : 0 ≤ low * length + 1 / 2 := by
    have := mul_nonneg isLow (Int.cast_nonneg positive)
    linarith
  rw [Int.sub_nonneg, corner, corner, truncate_of_nonneg nonneg,
    le_truncate_iff (Int.floor_nonneg.mpr nonneg), InOrder, Int.floor_eq_zero_iff, Set.mem_Ico,
    and_iff_right nonneg]
  refine or_congr_right (and_congr ⟨fun _ => ?_, fun _ => ?_⟩ ⟨fun _ => ?_, fun _ => ?_⟩) <;>
    linarith

theorem axis_iff (high : K) (positive : 1 ≤ size) (padded : 0 ≤ pad) (isLow : 0 ≤ low) :
    (0 ≤ corner (size + 2 * pad) high - corner (size + 2 * pad) low ∧
        0 ≤ corner (size + 2 * pad) low - pad ∧
        corner (size + 2 * pad) low - pad +
          (corner (size + 2 * pad) high - corner (size + 2 * pad) low) ≤ size) ↔
      InOrder (size + 2 * pad) low high ∧ OnPicture size pad low high := by
  have isLength : 0 ≤ size + 2 * pad := by omega
  have nonneg : 0 ≤ low * (size + 2 * pad : Int) + 1 / 2 := by
    have := mul_nonneg isLow (Int.cast_nonneg isLength)
    linarith
  have lower : 0 ≤ corner (size + 2 * pad) low - pad ↔
      (pad : K) - 1 / 2 ≤ low * (size + 2 * pad : Int) := by
    rw [Int.sub_nonneg, corner, truncate_of_nonneg nonneg, Int.le_floor, sub_le_iff_le_add]
  have upper : corner (size + 2 * pad) low - pad +
        (corner (size + 2 * pad) high - corner (size + 2 * pad) low) ≤ size ↔
      high * (size + 2 * pad : Int) < (pad : K) + size + 1 / 2 := by
    have rest : corner (size + 2 * pad) low - pad +
        (corner (size + 2 * pad) high - corner (size + 2 * pad) low) ≤ size ↔
          corner (size + 2 * pad) high ≤ pad + size := by omega
    have isSum : ((pad + size : Int) : K) = pad + size := Int.cast_add pad size
    rw [rest, corner, truncate_le_iff (by omega), isSum]
    refine ⟨fun _ => ?_, fun _ => ?_⟩ <;> linarith
  rw [inOrder_iff isLength isLow, lower, upper]
  rfl

/-- Along a side without padding the clamping is enough to be on the picture. -/
theorem axis_unpadded (positive : 1 ≤ size) (isLow : 0 ≤ low) (isHigh : high ≤ 1) :
    (0 ≤ corner size high - corner size low ∧ 0 ≤ corner size low ∧
        corner size low + (corner size high - corner size low) ≤ size) ↔
      InOrder size low high := by
  have onPicture : OnPicture size 0 low high := by
    have isSize : (0 : K) ≤ size := Int.cast_nonneg (by omega)
    have atLow := mul_nonneg isLow isSize
    have atHigh := mul_le_mul_of_nonneg_right isHigh isSize
    rw [OnPicture, mul_zero, add_zero, Int.cast_zero]
    constructor <;> linarith
  have same := axis_iff high positive (Int.le_refl 0) isLow
  rwa [mul_zero, add_zero, Int.sub_zero, and_iff_left onPicture] at same

end Axis

section Picture

variable {img : Mat} {whRatio : K}

theorem letterbox_spec (hasCols : 1 ≤ img.cols) (hasRows : 1 ≤ img.rows) (positive : 0 < whRatio) :
    ∃ hor pad, 0 ≤ pad ∧ letterbox img whRatio =
      (⟨hor, pad⟩, if hor then ⟨img.cols + 2 * pad, img.rows⟩
        else ⟨img.cols, img.rows + 2 * pad⟩) := by
  have isRows : (0 : K) < img.rows := Int.cast_pos.mpr (by omega)
  have half {longer size : Int} (isLess : size ≤ longer) :
      0 ≤ truncate (((longer : K) - size) / 2) := by
    refine le_truncate (Int.le_refl 0) ?_
    rw [Int.cast_zero]
    exact div_nonneg (sub_nonneg.mpr (Int.cast_le.mpr isLess)) zero_le_two
  unfold letterbox
  split
  next wide =>
    refine ⟨false, _, half (le_truncate (by omega) ?_), rfl⟩
    rw [le_div_iff₀ positive, mul_comm]
    exact ((lt_div_iff₀ isRows).mp wide).le
  next narrow =>
    refine ⟨true, _, half (le_truncate (by omega) ?_), rfl⟩
    rw [mul_comm]
    exact (div_le_iff₀ isRows).mp (not_lt.mp narrow)

/-- The box of a rectangle, moved back by the padding. -/
def decoded (img : Mat) (whRatio : K) (rect : DetectRect K) : Rect :=
  let (letterboxInfo, imageLetterbox) := letterbox img whRatio
  let box := (rect.detection imageLetterbox).box
  if letterboxInfo.hor then { box with x := box.x - letterboxInfo.pad }
  else { box with y := box.y - letterboxInfo.pad }

omit [IsStrictOrderedRing K] in
theorem inside_run_iff (outputData : OutputData K) :
    (∀ detection ∈ run sigmoid img whRatio outputData, Inside img detection.box) ↔
      ∀ rect ∈ outputData.detectRects sigmoid, Inside img (decoded img whRatio rect) := by
  rw [run, detectiontRects_eq]
  dsimp only
  rw [detections_eq, letterboxDecode, List.forall_mem_map, List.forall_mem_map]
  refine forall₂_congr fun rect _ => ?_
  rw [decoded]
  dsimp only
  split <;> rfl

theorem inside_decoded_iff (hasCols : 1 ≤ img.cols) (hasRows : 1 ≤ img.rows)
    (positive : 0 < whRatio) {rect : DetectRect K} (isX : 0 ≤ rect.xmin) (isY : 0 ≤ rect.ymin)
    (isX' : rect.xmax ≤ 1) (isY' : rect.ymax ≤ 1) :
    Inside img (decoded img whRatio rect) ↔ Clear img whRatio rect := by
  obtain ⟨hor, pad, padded, isBox⟩ := letterbox_spec hasCols hasRows positive
  rw [decoded, Clear, isBox]
  cases hor with
  | true =>
      have along := axis_iff rect.xmax hasCols padded isX
      have across := axis_unpadded hasRows isY isY'
      refine Iff.trans ?_ (Iff.trans (and_congr along across) ?_)
      · exact ⟨fun ⟨width, height, x, y, right, bottom⟩ => ⟨⟨width, x, right⟩, height, y, bottom⟩,
          fun ⟨⟨width, x, right⟩, height, y, bottom⟩ => ⟨width, height, x, y, right, bottom⟩⟩
      · exact ⟨fun ⟨⟨inX, onPicture⟩, inY⟩ => ⟨inX, inY, fun _ => onPicture, nofun⟩,
          fun ⟨inX, inY, onPicture, _⟩ => ⟨⟨inX, onPicture rfl⟩, inY⟩⟩
  | false =>
      have along := axis_iff rect.ymax hasRows padded isY
      have across := axis_unpadded hasCols isX isX'
      refine Iff.trans ?_ (Iff.trans (and_congr along across) ?_)
      · exact ⟨fun ⟨width, height, x, y, right, bottom⟩ => ⟨⟨height, y, bottom⟩, width, x, right⟩,
          fun ⟨⟨height, y, bottom⟩, width, x, right⟩ => ⟨width, height, x, y, right, bottom⟩⟩
      · exact ⟨fun ⟨⟨inY, onPicture⟩, inX⟩ => ⟨inX, inY, nofun, fun _ => onPicture⟩,
          fun ⟨inX, inY, _, onPicture⟩ => ⟨⟨inY, onPicture rfl⟩, inX⟩⟩

/-- Every detection is in the picture if and only if every rectangle of the post-processing is
in order and on the picture. -/
theorem inPicture_iff (sigmoid : K → K) (img : Mat) (hasCols : 1 ≤ img.cols)
    (hasRows : 1 ≤ img.rows) (whRatio : K) (positive : 0 < whRatio) (outputData : OutputData K) :
    (∀ detection ∈ run sigmoid img whRatio outputData, Inside img detection.box) ↔
      ∀ rect ∈ outputData.detectRects sigmoid, Clear img whRatio rect := by
  refine (inside_run_iff outputData).trans (forall₂_congr fun rect isIn => ?_)
  obtain ⟨isX, isY, isX', isY'⟩ := bounds isIn
  exact inside_decoded_iff hasCols hasRows positive isX isY isX' isY'

end Picture

section Padding

/-- A function of the shape of the logistic one. -/
def squash (x : ℚ) : ℚ := 1 / 2 + x / (2 * (1 + |x|))

/-- An object at the upper left corner of the letterboxed picture. -/
def cornerObject (blob i : Nat) : ℚ := if blob = 1 then if i = 0 then 1 else -1 else 1

theorem mem_cornerObject :
    (⟨0, 0, 12 / 640, 12 / 640, 3 / 4, 0⟩ : DetectRect ℚ) ∈
      (OutputData.wantFloat cornerObject).detectRects squash := by
  rw [OutputData.detectRects, detect_eq, List.mem_filterMap]
  exact ⟨⟨0, 0, 0⟩, by decide, by decide +kernel⟩

/-- In a picture that the letterbox leaves as it is. -/
theorem inPicture_iff_square :
    (⟨0, 0, 12 / 640, 12 / 640, 3 / 4, 0⟩ : DetectRect ℚ) ∈
        (OutputData.wantFloat cornerObject).detectRects squash ∧
      ((∀ detection ∈ run squash ⟨640, 640⟩ 1 (.wantFloat cornerObject),
          Inside ⟨640, 640⟩ detection.box) ↔
        ∀ rect ∈ (OutputData.wantFloat cornerObject).detectRects squash,
          Clear ⟨640, 640⟩ 1 rect) :=
  ⟨mem_cornerObject, inPicture_iff squash ⟨640, 640⟩ (by decide) (by decide) 1 one_pos _⟩

/-- It is in the padding above the picture, and so is its box. -/
theorem in_padding :
    ¬ ∀ detection ∈ run squash ⟨1000, 500⟩ 1 (.wantFloat cornerObject),
      Inside ⟨1000, 500⟩ detection.box := by
  intro allInside
  have inside := (inside_run_iff _).mp allInside _ mem_cornerObject
  have isBox : decoded ⟨1000, 500⟩ 1 (⟨0, 0, 12 / 640, 12 / 640, 3 / 4, 0⟩ : DetectRect ℚ) =
      ⟨0, -250, 19, 19⟩ := by decide +kernel
  rw [isBox] at inside
  exact absurd inside.2.2.2.1 (by decide)

end Padding

end Rkipc.Yolo
