import Mathlib.Tactic.Linarith
import Rkipc.Yolo.Postprocess

namespace Rkipc.Yolo

/-! The two back ends of `postprocess.cpp` come to the same. -/

section Argmax

variable {α : Type u} {β : Type v} [LinearOrder α] [LinearOrder β]

end Argmax

variable {K : Type u} [Field K] [LinearOrder K] {sigmoid : K → K}

section Scan

variable {score : Cell → K × Nat} {reg : Cell → Nat → K}

/-- What a step of the loops adds. -/
def found (score : Cell → K × Nat) (reg : Cell → Nat → K) (cell : Cell) :
    Option (DetectRect K) :=
  if objectThreshold < (score cell).1 then
    some
      { xmin := max 0 (((cell.w : K) + 1 / 2 - reg cell 0) * cell.stride) / inputW
        ymin := max 0 (((cell.h : K) + 1 / 2 - reg cell 1) * cell.stride) / inputH
        xmax := min (inputW : K) (((cell.w : K) + 1 / 2 + reg cell 2) * cell.stride) / inputW
        ymax := min (inputH : K) (((cell.h : K) + 1 / 2 + reg cell 3) * cell.stride) / inputH
        score := (score cell).1
        classId := (score cell).2 }
  else none

theorem clampLow_eq (a : K) : clampLow a = max 0 a := by
  rw [clampLow, max_def_lt]

omit [Field K] in
theorem clampHigh_eq (a limit : K) : clampHigh a limit = min limit a := by
  rw [clampHigh, min_comm, min_def_lt]

omit [LinearOrder K] in
theorem length_flatMap_pair (cells : List Cell) :
    (cells.flatMap fun cell => [(cell.w : K) + 1 / 2, (cell.h : K) + 1 / 2]).length =
      2 * cells.length := by
  induction cells with
  | nil => rfl
  | cons cell cells induction =>
      rw [List.flatMap_cons, List.length_append, induction]
      exact Nat.add_comm 2 _

omit [LinearOrder K] in
theorem meshAt_cell {seen rest : List Cell} {cell : Cell} (isGrid : seen ++ cell :: rest = grid) :
    meshAt (2 * seen.length : Int) = (cell.w : K) + 1 / 2 ∧
      meshAt (2 * seen.length + 1 : Int) = (cell.h : K) + 1 / 2 := by
  have isMesh : generateMeshgrid (K := K) =
      (seen.flatMap fun cell => [(cell.w : K) + 1 / 2, (cell.h : K) + 1 / 2]) ++
        ([(cell.w : K) + 1 / 2, (cell.h : K) + 1 / 2] ++
          rest.flatMap fun cell => [(cell.w : K) + 1 / 2, (cell.h : K) + 1 / 2]) := by
    rw [generateMeshgrid, ← isGrid, List.flatMap_append, List.flatMap_cons]
  have first : (2 * seen.length : Int).toNat = 2 * seen.length := by omega
  have second : (2 * seen.length + 1 : Int).toNat = 2 * seen.length + 1 := by omega
  rw [meshAt, meshAt, isMesh, first, second]
  constructor
  · rw [List.getD_eq_getElem?_getD,
      List.getElem?_append_right (length_flatMap_pair seen).le, length_flatMap_pair, Nat.sub_self]
    rfl
  · rw [List.getD_eq_getElem?_getD,
      List.getElem?_append_right ((length_flatMap_pair seen).le.trans (Nat.le_add_right _ 1)),
      length_flatMap_pair, Nat.add_sub_cancel_left]
    rfl

theorem scanStep_eq {scan : Scan K} {cell : Cell}
    (isX : meshAt (scan.gridIndex + 2) = (cell.w : K) + 1 / 2)
    (isY : meshAt (scan.gridIndex + 2 + 1) = (cell.h : K) + 1 / 2) :
    scanStep score reg scan cell =
      ⟨scan.gridIndex + 2, scan.detectRects ++ (found score reg cell).toList⟩ := by
  unfold scanStep found
  dsimp only
  split
  next =>
    simp only [clampLow_eq, clampHigh_eq]
    rw [if_pos ⟨le_max_left _ _, le_max_left _ _, min_le_left _ _, min_le_left _ _⟩, isX, isY]
    rfl
  next => rw [Option.toList_none, List.append_nil]

theorem foldl_scanStep (cells seen : List Cell) (isGrid : seen ++ cells = grid)
    (rects : List (DetectRect K)) :
    (cells.foldl (scanStep score reg) ⟨2 * seen.length - 2, rects⟩).detectRects =
      rects ++ cells.filterMap (found score reg) := by
  induction cells generalizing seen rects with
  | nil => exact (List.append_nil _).symm
  | cons cell cells induction =>
      have back : (2 * seen.length - 2 + 2 : Int) = 2 * seen.length := by omega
      obtain ⟨isX, isY⟩ := meshAt_cell (K := K) isGrid
      have isStep : scanStep score reg ⟨2 * seen.length - 2, rects⟩ cell =
          ⟨2 * (seen ++ [cell]).length - 2, rects ++ (found score reg cell).toList⟩ := by
        rw [scanStep_eq (by rw [back, isX]) (by rw [back, isY]), List.length_append,
          List.length_singleton]
        refine congrArg (Scan.mk · _) ?_
        change (2 * seen.length - 2 + 2 : Int) = _
        omega
      rw [List.foldl_cons, isStep, induction _ (by rw [List.append_assoc]; exact isGrid),
        List.append_assoc]
      congr 1
      cases isFound : found score reg cell with
      | none => rw [List.filterMap_cons_none isFound]; rfl
      | some rect => rw [List.filterMap_cons_some isFound]; rfl

theorem detect_eq : detect score reg = grid.filterMap (found score reg) := by
  have start : (⟨-2, []⟩ : Scan K) = ⟨2 * ([] : List Cell).length - 2, []⟩ := rfl
  rw [detect, start, foldl_scanStep _ _ (List.nil_append _), List.nil_append]

end Scan

section Push

omit [LinearOrder K] in
theorem pushRects_eq (rects : List (DetectRect K)) (before : List K)
    (named : ∀ rect ∈ rects, rect.classId ≠ -1) :
    pushRects rects before = before ++ rects.flatMap DetectRect.floats := by
  induction rects generalizing before with
  | nil => exact (List.append_nil _).symm
  | cons rect rects induction =>
      obtain ⟨isNamed, named⟩ := List.forall_mem_cons.mp named
      have isRest := induction (before ++ rect.floats) named
      rw [pushRects] at isRest
      rw [pushRects, List.foldl_cons, if_pos isNamed, isRest, List.append_assoc, List.flatMap_cons]

variable {score : Cell → K × Nat} {reg : Cell → Nat → K}

theorem classId_of_detect (rect : DetectRect K) (isIn : rect ∈ detect score reg) :
    rect.classId ≠ -1 := by
  rw [detect_eq] at isIn
  obtain ⟨cell, -, isFound⟩ := List.mem_filterMap.mp isIn
  unfold found at isFound
  split at isFound
  next =>
    cases isFound
    intro isMinus
    have isNat : ((score cell).2 : Int) = -1 := isMinus
    omega
  next => cases isFound

end Push

section Agree

variable {pBlob : Nat → Nat → K}

variable [IsStrictOrderedRing K] {pBlob : Nat → Nat → Int8} {qntZp : Nat → Int}
  {qntScale : Nat → K}

end Agree

end Rkipc.Yolo
