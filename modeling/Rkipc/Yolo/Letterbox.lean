import Rkipc.Libc.Truncate
import Rkipc.Yolo.Postprocess

namespace Rkipc.Yolo

open Libc

/-! The way of a picture through `yolo26.cpp`: the letterbox and back. -/

def gClasses : List String :=
  ["person", "bicycle", "car", "motorcycle", "airplane", "bus", "train", "truck", "boat",
    "traffic light", "fire hydrant", "stop sign", "parking meter", "bench", "bird", "cat", "dog",
    "horse", "sheep", "cow", "elephant", "bear", "zebra", "giraffe", "backpack", "umbrella",
    "handbag", "tie", "suitcase", "frisbee", "skis", "snowboard", "sports ball", "kite",
    "baseball bat", "baseball glove", "skateboard", "surfboard", "tennis racket", "bottle",
    "wine glass", "cup", "fork", "knife", "spoon", "bowl", "banana", "apple", "sandwich",
    "orange", "broccoli", "carrot", "hot dog", "pizza", "donut", "cake", "chair", "couch",
    "potted plant", "bed", "dining table", "toilet", "tv", "laptop", "mouse", "remote",
    "keyboard", "cell phone", "microwave", "oven", "toaster", "sink", "refrigerator", "book",
    "clock", "vase", "scissors", "teddy bear", "hair drier", "toothbrush"]

/-- The size of a `cv::Mat`. -/
structure Mat where
  cols : Int
  rows : Int

structure LetterBoxInfo where
  hor : Bool
  pad : Int

structure Rect where
  x : Int
  y : Int
  width : Int
  height : Int
deriving DecidableEq

structure Detection (K : Type u) where
  classId : Int
  className : String
  confidence : K
  box : Rect

variable {K : Type u} [Field K] [LinearOrder K] [FloorRing K]

/-- What `letterbox` returns, and the size of `img_letterbox`. -/
def letterbox (img : Mat) (whRatio : K) : LetterBoxInfo × Mat :=
  if whRatio < (img.cols : K) / img.rows then
    let letterboxHeight := truncate ((img.cols : K) / whRatio)
    let pad := truncate (((letterboxHeight : K) - img.rows) / 2)
    ({ hor := false, pad }, { cols := img.cols, rows := img.rows + 2 * pad })
  else
    let letterboxWidth := truncate ((img.rows : K) * whRatio)
    let pad := truncate (((letterboxWidth : K) - img.cols) / 2)
    ({ hor := true, pad }, { cols := img.cols + 2 * pad, rows := img.rows })

/-- `int(position * float(length) + 0.5)` -/
def corner (length : Int) (position : K) : Int := truncate (position * length + 1 / 2)

/-- The body of the loop of `Yolo26::Postprocess`. -/
def detection (img : Mat) (classId conf xmin ymin xmax ymax : K) : Detection K :=
  { classId := truncate classId
    className := gClasses.getD (truncate classId).toNat ""
    confidence := conf
    box :=
      { x := corner img.cols xmin
        y := corner img.rows ymin
        width := corner img.cols xmax - corner img.cols xmin
        height := corner img.rows ymax - corner img.rows ymin } }

/-- The loop of `Yolo26::Postprocess` over six floats at a time. -/
def detections (img : Mat) : List K → List (Detection K)
  | classId :: conf :: xmin :: ymin :: xmax :: ymax :: detectiontRects =>
      detection img classId conf xmin ymin xmax ymax :: detections img detectiontRects
  | _ => []

def letterboxDecode (objects : List (Detection K)) (hor : Bool) (pad : Int) :
    List (Detection K) :=
  objects.map fun obj =>
    if hor then { obj with box := { obj.box with x := obj.box.x - pad } }
    else { obj with box := { obj.box with y := obj.box.y - pad } }

/-- The data of the output tensors; `want_float_` says which kind it is. -/
inductive OutputData (K : Type u)
  | wantFloat (pBlob : Nat → Nat → K)
  | int8 (pBlob : Nat → Nat → Int8) (outZps : Nat → Int) (outScales : Nat → K)

def OutputData.detectRects (sigmoid : K → K) : OutputData K → List (DetectRect K)
  | .wantFloat pBlob => detect (scoreFloat sigmoid pBlob) (regFloat pBlob)
  | .int8 pBlob outZps outScales =>
      detect (scoreInt8 sigmoid pBlob outZps outScales) (regInt8 pBlob outZps outScales)

def OutputData.detectiontRects (sigmoid : K → K) : OutputData K → List K
  | .wantFloat pBlob => getConvDetectionResult sigmoid pBlob []
  | .int8 pBlob outZps outScales => getConvDetectionResultInt8 sigmoid pBlob outZps outScales []

/-- `Yolo26::Run`, with what the inference leaves in the output tensors. -/
def run (sigmoid : K → K) (img : Mat) (whRatio : K) (outputData : OutputData K) :
    List (Detection K) :=
  let (letterboxInfo, imageLetterbox) := letterbox img whRatio
  letterboxDecode (detections imageLetterbox (outputData.detectiontRects sigmoid))
    letterboxInfo.hor letterboxInfo.pad

section Spec

def Inside (img : Mat) (box : Rect) : Prop :=
  0 ≤ box.width ∧ 0 ≤ box.height ∧ 0 ≤ box.x ∧ 0 ≤ box.y ∧
    box.x + box.width ≤ img.cols ∧ box.y + box.height ≤ img.rows

/-- The upper end is not before the pixel of the lower one, or both go to pixel 0. -/
def InOrder (length : Int) (low high : K) : Prop :=
  (⌊low * length + 1 / 2⌋ : K) ≤ high * length + 1 / 2 ∨
    low * length < 1 / 2 ∧ -3 / 2 < high * length

/-- Both ends are on the picture between the paddings, or less than half a pixel off. -/
def OnPicture (size pad : Int) (low high : K) : Prop :=
  (pad : K) - 1 / 2 ≤ low * (size + 2 * pad : Int) ∧
    high * (size + 2 * pad : Int) < (pad : K) + size + 1 / 2

/-- What the rectangle has to be in the letterboxed picture. -/
def Clear (img : Mat) (whRatio : K) (rect : DetectRect K) : Prop :=
  let (letterboxInfo, imageLetterbox) := letterbox img whRatio
  InOrder imageLetterbox.cols rect.xmin rect.xmax ∧
    InOrder imageLetterbox.rows rect.ymin rect.ymax ∧
    (letterboxInfo.hor = true → OnPicture img.cols letterboxInfo.pad rect.xmin rect.xmax) ∧
    (letterboxInfo.hor = false → OnPicture img.rows letterboxInfo.pad rect.ymin rect.ymax)

end Spec

end Rkipc.Yolo
