import Mathlib.Algebra.Order.Field.Basic
import Mathlib.Data.List.MinMax

namespace Rkipc.Yolo

/-! `postprocess.cpp`, in exact arithmetic and with any function as `sigmoid`. -/

/-- The literals of all modules rest on one proof. -/
scoped instance atLeastTwo : Nat.AtLeastTwo 2 := ⟨Nat.le_refl 2⟩

def inputW : Nat := 640

def inputH : Nat := 640

def headNum : Nat := 3

def classNum : Nat := 80

def strides : List Nat := [8, 16, 32]

def mapSize : List (Nat × Nat) := [(80, 80), (40, 40), (20, 20)]

/-- A step of the loops over the heads, the rows `h` and the columns `w`. -/
structure Cell where
  index : Nat
  h : Nat
  w : Nat
deriving DecidableEq

def rows (index : Nat) : Nat := (mapSize.getD index (0, 0)).1

def cols (index : Nat) : Nat := (mapSize.getD index (0, 0)).2

def Cell.stride (cell : Cell) : Nat := strides.getD cell.index 0

/-- The steps of the loops, in their order. -/
def grid : List Cell :=
  (List.range headNum).flatMap fun index =>
    (List.range (rows index)).flatMap fun h =>
      (List.range (cols index)).map fun w => ⟨index, h, w⟩

/-- Where a plane of the blob of the head has the cell. -/
def Cell.offset (cell : Cell) (plane : Nat) : Nat :=
  plane * rows cell.index * cols cell.index + cell.h * cols cell.index + cell.w

structure DetectRect (K : Type u) where
  xmin : K
  ymin : K
  xmax : K
  ymax : K
  score : K
  classId : Int
deriving DecidableEq

section BestClass

variable {α : Type u} [LT α] [DecidableLT α]

def classStep (clsVal : Nat → α) (best : α × Nat) (cl : Nat) : α × Nat :=
  if cl = 0 then (clsVal cl, cl)
  else if best.1 < clsVal cl then (clsVal cl, cl)
  else best

/-- `cls_max` and `cls_index` after the loop over the classes, which sets both at once. -/
def bestClass (clsVal : Nat → α) : α × Nat :=
  (List.range classNum).foldl (classStep clsVal) (clsVal 0, 0)

end BestClass

variable {K : Type u} [Field K] [LinearOrder K] (sigmoid : K → K)

def objectThreshold : K := 1 / 2

def deQnt2F32 (qnt zp : Int) (scale : K) : K := ((qnt : K) - (zp : K)) * scale

def generateMeshgrid : List K :=
  grid.flatMap fun cell => [(cell.w : K) + 1 / 2, (cell.h : K) + 1 / 2]

def meshAt (i : Int) : K := (generateMeshgrid (K := K)).getD i.toNat 0

/-- `a > 0 ? a : 0` -/
def clampLow (a : K) : K := if 0 < a then a else 0

/-- `a < limit ? a : limit` -/
def clampHigh (a limit : K) : K := if a < limit then a else limit

structure Scan (K : Type u) where
  gridIndex : Int
  detectRects : List (DetectRect K)

/-- The body of the loops; `score` and `reg` are what the two functions have different. -/
def scanStep (score : Cell → K × Nat) (reg : Cell → Nat → K) (scan : Scan K) (cell : Cell) :
    Scan K :=
  let gridIndex := scan.gridIndex + 2
  let (clsMax, clsIndex) := score cell
  if objectThreshold < clsMax then
    let stride : K := (cell.stride : K)
    let xmin := clampLow ((meshAt gridIndex - reg cell 0) * stride)
    let ymin := clampLow ((meshAt (gridIndex + 1) - reg cell 1) * stride)
    let xmax := clampHigh ((meshAt gridIndex + reg cell 2) * stride) inputW
    let ymax := clampHigh ((meshAt (gridIndex + 1) + reg cell 3) * stride) inputH
    if 0 ≤ xmin ∧ 0 ≤ ymin ∧ xmax ≤ inputW ∧ ymax ≤ inputH then
      { gridIndex
        detectRects := scan.detectRects ++
          [{ xmin := xmin / inputW
             ymin := ymin / inputH
             xmax := xmax / inputW
             ymax := ymax / inputH
             score := clsMax
             classId := clsIndex }] }
    else { scan with gridIndex }
  else { scan with gridIndex }

def detect (score : Cell → K × Nat) (reg : Cell → Nat → K) : List (DetectRect K) :=
  (grid.foldl (scanStep score reg) ⟨-2, []⟩).detectRects

def DetectRect.floats (rect : DetectRect K) : List K :=
  [(rect.classId : K), rect.score, rect.xmin, rect.ymin, rect.xmax, rect.ymax]

/-- What the last loop adds to `DetectiontRects`. -/
def pushRects (rects : List (DetectRect K)) (detectiontRects : List K) : List K :=
  rects.foldl (fun detectiontRects rect =>
    if rect.classId ≠ -1 then detectiontRects ++ rect.floats else detectiontRects) detectiontRects

section Int8

variable (pBlob : Nat → Nat → Int8) (qntZp : Nat → Int) (qntScale : Nat → K)

def scoreInt8 (cell : Cell) : K × Nat :=
  let cls := pBlob (cell.index * 2 + 1)
  let zp := qntZp (cell.index * 2 + 1)
  let scale := qntScale (cell.index * 2 + 1)
  if 1 = classNum then (sigmoid (deQnt2F32 (cls (cell.offset 0)).toInt zp scale), 0)
  else
    let best := bestClass fun cl => (cls (cell.offset cl)).toInt
    (sigmoid (deQnt2F32 best.1 zp scale), best.2)

def regInt8 (cell : Cell) (lc : Nat) : K :=
  deQnt2F32 (pBlob (cell.index * 2) (cell.offset lc)).toInt (qntZp (cell.index * 2))
    (qntScale (cell.index * 2))

def getConvDetectionResultInt8 (detectiontRects : List K) : List K :=
  pushRects (detect (scoreInt8 sigmoid pBlob qntZp qntScale) (regInt8 pBlob qntZp qntScale))
    detectiontRects

end Int8

section Float

variable (pBlob : Nat → Nat → K)

def scoreFloat (cell : Cell) : K × Nat :=
  let cls := pBlob (cell.index * 2 + 1)
  if 1 = classNum then (sigmoid (cls (cell.offset 0)), 0)
  else
    let best := bestClass fun cl => cls (cell.offset cl)
    (sigmoid best.1, best.2)

def regFloat (cell : Cell) (lc : Nat) : K := pBlob (cell.index * 2) (cell.offset lc)

def getConvDetectionResult (detectiontRects : List K) : List K :=
  pushRects (detect (scoreFloat sigmoid pBlob) (regFloat pBlob)) detectiontRects

end Float

section Spec

/-- The entry of a cell; its class is the first index of the maximum. -/
def entry (pBlob : Nat → Nat → K) (cell : Cell) : Option (DetectRect K) :=
  let clsVal (cl : Nat) : K := pBlob (cell.index * 2 + 1) (cell.offset cl)
  let reg (lc : Nat) : K := pBlob (cell.index * 2) (cell.offset lc)
  ((List.range classNum).argmax clsVal).bind fun cl =>
    if objectThreshold < sigmoid (clsVal cl) then
      some
        { xmin := max 0 (((cell.w : K) + 1 / 2 - reg 0) * cell.stride) / inputW
          ymin := max 0 (((cell.h : K) + 1 / 2 - reg 1) * cell.stride) / inputH
          xmax := min (inputW : K) (((cell.w : K) + 1 / 2 + reg 2) * cell.stride) / inputW
          ymax := min (inputH : K) (((cell.h : K) + 1 / 2 + reg 3) * cell.stride) / inputH
          score := sigmoid (clsVal cl)
          classId := cl }
    else none

end Spec

end Rkipc.Yolo
