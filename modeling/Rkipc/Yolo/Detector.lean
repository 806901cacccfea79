import Rkipc.Transition.System
import Rkipc.Yolo.Letterbox

namespace Rkipc.Yolo

open Transition

/-! `Yolo26` over its engine, and the models of an `rknnPool`.  What the driver answers is in
the labels; `none` is an `exit` of the process. -/

inductive NnError
  | success
  | loadModelFail
  | rknnInitFail
  | rknnQueryFail
  | rknnInputSetFail
  | rknnRuntimeError
  | ioNumNotMatch
  | rknnOutputGetFail
  | rknnInputAttrError
  | rknnOutputAttrError
deriving DecidableEq

/-- `other` is a value without a name here. -/
inductive DataType
  | int8
  | uint8
  | float
  | float16
  | other
deriving DecidableEq

inductive Layout
  | nchw
  | nhwc
  | other
deriving DecidableEq

/-- What is used of a `rknn_tensor_attr` and of a `tensor_attr_s`. -/
structure TensorAttr (K : Type u) where
  nDims : Nat
  dims : Nat → Nat
  nElems : Nat
  type : DataType
  layout : Layout
  zp : Int
  scale : K

structure RkEngine (K : Type u) where
  ctxCreated : Bool
  inputNum : Nat
  outputNum : Nat
  inShapes : List (TensorAttr K)
  outShapes : List (TensorAttr K)

/-- The same bytes, read in two ways. -/
structure Memory (K : Type u) where
  asFloat : Nat → K
  asInt8 : Nat → Int8

/-- `frame` is the one whose output is in the data, if it is not as `malloc` left it. -/
structure OutputTensor (K : Type u) where
  nElems : Nat
  type : DataType
  data : Memory K
  frame : Option Nat

structure InputTensor where
  dims : Nat → Nat
  type : DataType
  layout : Layout

structure Yolo26 (K : Type u) where
  ready : Bool
  inputTensor : InputTensor
  outputTensors : List (OutputTensor K)
  wantFloat : Bool
  outZps : List Int
  outScales : List K
  engine : RkEngine K

/-- The answers during `LoadModel`, and what `malloc` gives for the output tensors. -/
structure Loading (K : Type u) where
  file : Bool
  init : Bool
  sdkVersion : Bool
  ioNum : Option (Nat × Nat)
  inputAttr : Nat → Option (TensorAttr K)
  outputAttr : Nat → Option (TensorAttr K)
  malloc : Nat → Memory K

/-- A picture, and the answers during its inference. -/
structure Frame (K : Type u) where
  img : Mat
  inputsSet : Bool
  ran : Bool
  outputsGet : Option (Nat → Memory K)

section Load

variable {K : Type u}

def RkEngine.start : RkEngine K := ⟨false, 0, 0, [], []⟩

def attrConvert (attr : TensorAttr K) : Option (TensorAttr K) :=
  if attr.type = .other then none else some attr

/-- The loop over the attributes of one side, and whether all queries succeed. -/
def queryAttrs (answer : Nat → Option (TensorAttr K)) :
    Nat → Nat → List (TensorAttr K) → Option (Bool × List (TensorAttr K))
  | 0, _, shapes => some (true, shapes)
  | count + 1, i, shapes =>
      match answer i with
      | none => some (false, shapes)
      | some attr =>
          (attrConvert attr).bind fun shape =>
            queryAttrs answer count (i + 1) (shapes ++ [shape])

def RkEngine.loadModelFile (env : Loading K) (engine : RkEngine K) :
    Option (NnError × RkEngine K) :=
  if env.file = false then some (.loadModelFail, engine)
  else if env.init = false then some (.rknnInitFail, engine)
  else
    let engine := { engine with ctxCreated := true }
    if env.sdkVersion = false then some (.rknnQueryFail, engine)
    else
      match env.ioNum with
      | none => some (.rknnQueryFail, engine)
      | some (nInput, nOutput) =>
          let engine := { engine with inputNum := nInput, outputNum := nOutput }
          (queryAttrs env.inputAttr nInput 0 engine.inShapes).bind fun (isRead, inShapes) =>
            let engine := { engine with inShapes }
            if isRead = false then some (.rknnQueryFail, engine)
            else
              (queryAttrs env.outputAttr nOutput 0 engine.outShapes).map
                fun (isRead, outShapes) =>
                  (if isRead then .success else .rknnQueryFail, { engine with outShapes })

def cvimgInputData (attr : TensorAttr K) : Option InputTensor :=
  if attr.nDims ≠ 4 then none
  else
    match attr.layout with
    | .nchw =>
        some
          { dims := fun i => attr.dims (if i = 1 then 2 else if i = 2 then 3 else
              if i = 3 then 1 else i)
            type := .uint8, layout := .nhwc }
    | .nhwc => some { dims := attr.dims, type := .uint8, layout := .nhwc }
    | .other => none

/-- `input_tensor_` is not set by the constructor, but for its data. -/
def Yolo26.start (inputTensor : InputTensor) : Yolo26 K :=
  { ready := false, inputTensor, outputTensors := [], wantFloat := false, outZps := [],
    outScales := [], engine := .start }

/-- The last loop of `LoadModel`. -/
def Yolo26.pushTensors (env : Loading K) (yolo : Yolo26 K) : Yolo26 K :=
  let shapes := yolo.engine.outShapes
  { yolo with
    ready := true
    outputTensors := yolo.outputTensors ++ shapes.zipIdx.map fun (shape, i) =>
      { nElems := shape.nElems
        type := if yolo.wantFloat then .float else shape.type
        data := env.malloc i
        frame := none }
    outZps := yolo.outZps ++ shapes.map (·.zp)
    outScales := yolo.outScales ++ shapes.map (·.scale) }

def Yolo26.loadModel (env : Loading K) (yolo : Yolo26 K) : Option (NnError × Yolo26 K) :=
  (yolo.engine.loadModelFile env).bind fun (ret, engine) =>
    let yolo := { yolo with engine }
    if ret ≠ .success then some (ret, yolo)
    else
      match engine.inShapes with
      | [shape] =>
          (cvimgInputData shape).map fun inputTensor =>
            let yolo := { yolo with inputTensor }
            if engine.outShapes.length ≠ 6 then (.rknnOutputAttrError, yolo)
            else
              let isHalf := engine.outShapes.head?.map (·.type) = some .float16
              (.success, { yolo with wantFloat := isHalf || yolo.wantFloat }.pushTensors env)
      | _ => some (.rknnInputAttrError, yolo)

end Load

section Run

variable {K : Type u}

/-- `tensor_data_to_rknn_input` goes through. -/
def InputTensor.isConvertible (tensor : InputTensor) : Bool :=
  (tensor.type = .uint8 || tensor.type = .float) && tensor.layout ≠ .other

/-- `Yolo26::Inference` over `RKEngine::Run` with one input. -/
def Yolo26.inference (now : Nat) (frame : Frame K) (yolo : Yolo26 K) :
    Option (NnError × Yolo26 K) :=
  if 1 ≠ yolo.engine.inputNum then some (.ioNumNotMatch, yolo)
  else if yolo.outputTensors.length ≠ yolo.engine.outputNum then some (.ioNumNotMatch, yolo)
  else if yolo.inputTensor.isConvertible = false then none
  else if frame.inputsSet = false then some (.rknnInputSetFail, yolo)
  else if frame.ran = false then some (.rknnRuntimeError, yolo)
  else
    match frame.outputsGet with
    | none => some (.rknnOutputGetFail, yolo)
    | some outputs =>
        some (.success,
          { yolo with
            outputTensors := yolo.outputTensors.mapIdx fun i tensor =>
              { tensor with data := outputs i, frame := some now } })

/-- `absent` is a tensor that does not exist. -/
inductive Access
  | absent (i : Nat)
  | data (i : Nat) (frame : Option Nat)
deriving DecidableEq

def Yolo26.accesses (yolo : Yolo26 K) : List Access :=
  (List.range 6).map fun i =>
    yolo.outputTensors[i]?.elim (.absent i) fun tensor => .data i tensor.frame

variable [Field K] [LinearOrder K] [FloorRing K]

/-- `output_data` of `Postprocess`; `none` if a tensor does not exist. -/
def Yolo26.outputData (yolo : Yolo26 K) : Option (OutputData K) :=
  if yolo.outputTensors.length < 6 then none
  else if yolo.wantFloat then
    some (.wantFloat fun blob i =>
      yolo.outputTensors[blob]?.elim 0 fun tensor => tensor.data.asFloat i)
  else
    some (.int8
      (fun blob i => yolo.outputTensors[blob]?.elim 0 fun tensor => tensor.data.asInt8 i)
      (fun blob => yolo.outZps.getD blob 0) (fun blob => yolo.outScales.getD blob 0))

def Yolo26.whRatio (yolo : Yolo26 K) : K :=
  (yolo.inputTensor.dims 2 : K) / (yolo.inputTensor.dims 1 : K)

/-- What a `Run` reads of the output tensors, and the detections that it returns, if it does. -/
structure Report (K : Type u) where
  accesses : List Access
  detections : Option (List (Detection K))

/-- `Yolo26::Run`; what `Inference` returns is not looked at. -/
def Yolo26.run (sigmoid : K → K) (now : Nat) (frame : Frame K) (yolo : Yolo26 K) : Report K :=
  match yolo.inference now frame with
  | none => ⟨[], none⟩
  | some (_, yolo) =>
      ⟨yolo.accesses, yolo.outputData.map fun data => Yolo.run sigmoid frame.img yolo.whRatio data⟩

end Run

section Pool

variable {K : Type u}

structure Pool (K : Type u) where
  models : List (Yolo26 K)
  id : Nat

/-- The loop of `rknnPool::init`; behind a model that fails the others are not loaded. -/
def loadModels : List (InputTensor × Loading K) → Option (NnError × List (Yolo26 K))
  | [] => some (.success, [])
  | (inputTensor, env) :: rest =>
      (Yolo26.loadModel env (.start inputTensor)).bind fun (ret, model) =>
        if ret ≠ .success then some (ret, model :: rest.map fun (inputTensor, _) =>
          .start inputTensor)
        else (loadModels rest).map fun (ret, models) => (ret, model :: models)

/-- The model of the next `put`. -/
def Pool.next? (pool : Pool K) : Option (Yolo26 K) := pool.models[pool.id % pool.models.length]?

/-- `rknnPool::put` of a picture, and its `Run`. -/
def Pool.put (pool : Pool K) (frame : Frame K) : Option (Pool K) :=
  pool.next?.bind fun model =>
    (model.inference pool.id frame).map fun (_, model) =>
      { models := pool.models.set (pool.id % pool.models.length) model, id := pool.id + 1 }

/-- A pool behind its `init`, whatever this returned. -/
def models (K : Type u) : System (Pool K) (Frame K) where
  initial pool := pool.id = 0 ∧ ∃ answers ret, loadModels answers = some (ret, pool.models)
  step := Pool.put

end Pool

section Spec

variable {K : Type u}

/-- The model is not loaded, or its inference of this frame fails. -/
def Yolo26.Failed (now : Nat) (frame : Frame K) (yolo : Yolo26 K) : Prop :=
  yolo.ready = false ∨ (yolo.inference now frame).map Prod.fst ≠ some .success

/-- No detections, and nothing read but what is there and not of an earlier frame. -/
def ReportsNothing (now : Nat) (report : Report K) : Prop :=
  report.detections.map List.length = some 0 ∧
    ∀ access ∈ report.accesses,
      ∃ i frame, access = .data i frame ∧ (frame = none ∨ frame = some now)

variable [Field K] [LinearOrder K]

/-- The model is loaded, no frame's output is in its tensors yet, and in what `malloc` left
there no class value is over the threshold. -/
def Yolo26.Untouched (sigmoid : K → K) (yolo : Yolo26 K) : Prop :=
  yolo.ready = true ∧ (∀ tensor ∈ yolo.outputTensors, tensor.frame = none) ∧
    ∀ data, yolo.outputData = some data → data.detectRects sigmoid = []

end Spec

end Rkipc.Yolo
