import Rkipc.Yolo.Detector
import Rkipc.Yolo.InsidePicture

namespace Rkipc.Yolo

open Transition

/-! What a `Run` reports when the model or its inference failed. -/

variable {K : Type u}

section Load

variable {env : Loading K} {engine : RkEngine K} {yolo : Yolo26 K} {ret : NnError}

theorem length_queryAttrs {answer : Nat → Option (TensorAttr K)} {count i : Nat}
    {shapes result : List (TensorAttr K)}
    (isRead : queryAttrs answer count i shapes = some (true, result)) :
    result.length = shapes.length + count := by
  induction count generalizing i shapes with
  | zero =>
      cases isRead
      rfl
  | succ count induction =>
      rw [queryAttrs] at isRead
      cases isAnswer : answer i with
      | none =>
          rw [isAnswer] at isRead
          cases isRead
      | some attr =>
          rw [isAnswer] at isRead
          obtain ⟨shape, -, isRead⟩ := Option.bind_eq_some_iff.mp isRead
          rw [induction isRead, List.length_append, List.length_singleton]
          omega

theorem shapes_of_loadModelFile
    (isLoaded : RkEngine.start.loadModelFile env = some (.success, engine)) :
    engine.inShapes.length = engine.inputNum ∧ engine.outShapes.length = engine.outputNum := by
  unfold RkEngine.loadModelFile at isLoaded
  split at isLoaded
  next => cases isLoaded
  next =>
    split at isLoaded
    next => cases isLoaded
    next =>
      dsimp only at isLoaded
      split at isLoaded
      next => cases isLoaded
      next =>
        split at isLoaded
        next => cases isLoaded
        next nInput nOutput _ =>
          obtain ⟨⟨isIn, inShapes⟩, readIn, isLoaded⟩ := Option.bind_eq_some_iff.mp isLoaded
          dsimp only at isLoaded
          split at isLoaded
          next => cases isLoaded
          next isTrue =>
            obtain ⟨⟨isOut, outShapes⟩, readOut, isLoaded⟩ := Option.map_eq_some_iff.mp isLoaded
            rw [Bool.not_eq_false] at isTrue
            subst isTrue
            obtain ⟨isRet, rfl⟩ := Prod.mk.inj isLoaded
            have isTrue : isOut = true := by
              by_contra isFalse
              rw [Bool.not_eq_true] at isFalse
              rw [isFalse] at isRet
              cases isRet
            subst isTrue
            exact ⟨(length_queryAttrs readIn).trans (Nat.zero_add _),
              (length_queryAttrs readOut).trans (Nat.zero_add _)⟩

/-- A model that is not loaded has no output tensor. -/
def Yolo26.Idle (yolo : Yolo26 K) : Prop := yolo.ready = false ∧ yolo.outputTensors = []

/-- One that is has six, with nothing of a frame that is still to come. -/
structure Yolo26.Loaded (now : Nat) (yolo : Yolo26 K) : Prop where
  ready : yolo.ready = true
  inputNum : yolo.engine.inputNum = 1
  outputNum : yolo.engine.outputNum = 6
  tensors : yolo.outputTensors.length = 6
  convertible : yolo.inputTensor.isConvertible = true
  past : ∀ tensor ∈ yolo.outputTensors, ∀ frame, tensor.frame = some frame → frame < now

def Yolo26.Sound (now : Nat) (yolo : Yolo26 K) : Prop := yolo.Idle ∨ yolo.Loaded now

theorem isConvertible_of_cvimgInputData {attr : TensorAttr K} {inputTensor : InputTensor}
    (isData : cvimgInputData attr = some inputTensor) : inputTensor.isConvertible = true := by
  unfold cvimgInputData at isData
  split at isData
  next => cases isData
  next =>
    split at isData
    next => cases isData; rfl
    next => cases isData; rfl
    next => cases isData

/-- Where `LoadModel` stops before its end there is no output tensor. -/
theorem loadModel_cases {inputTensor : InputTensor}
    (isLoad : Yolo26.loadModel env (.start inputTensor) = some (ret, yolo)) :
    (ret = .success ∧ yolo.Loaded 0) ∨ (ret ≠ .success ∧ yolo.Idle) := by
  obtain ⟨⟨ret', engine⟩, isFile, isLoad⟩ := Option.bind_eq_some_iff.mp isLoad
  dsimp only at isLoad
  split at isLoad
  next isFailure =>
    cases isLoad
    exact .inr ⟨isFailure, rfl, rfl⟩
  next isSuccess =>
    rw [not_not] at isSuccess
    subst isSuccess
    obtain ⟨isIn, isOut⟩ := shapes_of_loadModelFile isFile
    split at isLoad
    next shape one =>
      obtain ⟨converted, isData, isLoad⟩ := Option.map_eq_some_iff.mp isLoad
      split at isLoad
      next =>
        cases isLoad
        exact .inr ⟨nofun, rfl, rfl⟩
      next isSix =>
        rw [not_not] at isSix
        obtain ⟨rfl, rfl⟩ := Prod.mk.inj isLoad
        refine .inl ⟨rfl, ?_⟩
        constructor
        · rfl
        · exact isIn.symm.trans (congrArg List.length one)
        · exact isOut.symm.trans isSix
        · change ([] ++ _).length = 6
          rw [List.nil_append, List.length_map, List.length_zipIdx]
          exact isSix
        · exact isConvertible_of_cvimgInputData isData
        · intro tensor isIn frame isFrame
          change tensor ∈ [] ++ _ at isIn
          rw [List.nil_append] at isIn
          obtain ⟨entry, -, rfl⟩ := List.mem_map.mp isIn
          cases isFrame
    next =>
      cases isLoad
      exact .inr ⟨nofun, rfl, rfl⟩

theorem sound_of_loadModels {answers : List (InputTensor × Loading K)} {all : List (Yolo26 K)}
    (isLoad : loadModels answers = some (ret, all)) : ∀ model ∈ all, model.Sound 0 := by
  induction answers generalizing ret all with
  | nil =>
      cases isLoad
      exact fun _ isIn => absurd isIn List.not_mem_nil
  | cons answer answers induction =>
      obtain ⟨inputTensor, env⟩ := answer
      obtain ⟨⟨ret', model⟩, isModel, isLoad⟩ := Option.bind_eq_some_iff.mp isLoad
      dsimp only at isLoad
      have isSound : model.Sound 0 := by
        obtain ⟨-, isLoaded⟩ | ⟨-, isIdle⟩ := loadModel_cases isModel
        · exact .inr isLoaded
        · exact .inl isIdle
      split at isLoad
      next =>
        cases isLoad
        refine List.forall_mem_cons.mpr ⟨isSound, fun other isIn => ?_⟩
        obtain ⟨entry, -, rfl⟩ := List.mem_map.mp isIn
        exact .inl ⟨rfl, rfl⟩
      next =>
        obtain ⟨⟨ret'', models⟩, isRest, isLoad⟩ := Option.map_eq_some_iff.mp isLoad
        cases isLoad
        exact List.forall_mem_cons.mpr ⟨isSound, induction isRest⟩

end Load

section Run

variable {now : Nat} {frame : Frame K} {yolo next : Yolo26 K} {ret : NnError} {pool later : Pool K}

/-- An inference fills all the tensors there are or leaves the model as it is. -/
theorem inference_cases (isDone : yolo.inference now frame = some (ret, next)) :
    (ret ≠ .success ∧ next = yolo) ∨
      (ret = .success ∧ ∃ outputs : Nat → Memory K, next =
        { yolo with
          outputTensors := yolo.outputTensors.mapIdx fun i tensor =>
            { tensor with data := outputs i, frame := some now } }) := by
  unfold Yolo26.inference at isDone
  split at isDone
  next => cases isDone; exact .inl ⟨nofun, rfl⟩
  next =>
    split at isDone
    next => cases isDone; exact .inl ⟨nofun, rfl⟩
    next =>
      split at isDone
      next => cases isDone
      next =>
        split at isDone
        next => cases isDone; exact .inl ⟨nofun, rfl⟩
        next =>
          split at isDone
          next => cases isDone; exact .inl ⟨nofun, rfl⟩
          next =>
            split at isDone
            next => cases isDone; exact .inl ⟨nofun, rfl⟩
            next outputs _ => cases isDone; exact .inr ⟨rfl, outputs, rfl⟩

theorem Yolo26.Loaded.mono {later : Nat} (isLoaded : yolo.Loaded now) (isLe : now ≤ later) :
    yolo.Loaded later :=
  { isLoaded with
    past := fun tensor isIn frame isFrame =>
      (isLoaded.past tensor isIn frame isFrame).trans_le isLe }

theorem sound_inference (isSound : yolo.Sound now)
    (isDone : yolo.inference now frame = some (ret, next)) : next.Sound (now + 1) := by
  obtain ⟨-, rfl⟩ | ⟨-, outputs, rfl⟩ := inference_cases isDone
  · exact isSound.imp_right fun isLoaded => isLoaded.mono (Nat.le_succ now)
  · obtain ⟨notReady, isNil⟩ | isLoaded := isSound
    · refine .inl ⟨notReady, ?_⟩
      rw [isNil]
      rfl
    · refine .inr { isLoaded with tensors := ?_, past := ?_ }
      · rw [List.length_mapIdx]
        exact isLoaded.tensors
      · intro tensor isIn frame isFrame
        obtain ⟨i, isLess, rfl⟩ := List.mem_mapIdx.mp isIn
        cases isFrame
        exact Nat.lt_succ_self now

def Pool.Sound (pool : Pool K) : Prop := ∀ model ∈ pool.models, model.Sound pool.id

theorem sound_put (isSound : pool.Sound) (isPut : pool.put frame = some later) :
    later.Sound := by
  obtain ⟨model, isNext, isPut⟩ := Option.bind_eq_some_iff.mp isPut
  obtain ⟨⟨ret, model'⟩, isDone, rfl⟩ := Option.map_eq_some_iff.mp isPut
  intro other isIn
  obtain isIn | rfl := List.mem_or_eq_of_mem_set isIn
  · exact (isSound other isIn).imp_right fun isLoaded => isLoaded.mono (Nat.le_succ _)
  · exact sound_inference (isSound model (List.mem_of_getElem? isNext)) isDone

theorem sound_of_reachable (reachable : (models K).Reachable System.anyStep pool) :
    pool.Sound := by
  refine reachable.invariant ?_ ?_
  · rintro pool ⟨isZero, answers, ret, isLoad⟩
    rw [Pool.Sound, isZero]
    exact sound_of_loadModels isLoad
  · intro pool frame later isSound _ isPut
    exact sound_put isSound isPut

end Run

section Report

variable [Field K] [LinearOrder K] [FloorRing K] {sigmoid : K → K} {now : Nat} {frame : Frame K}
  {yolo : Yolo26 K}

theorem run_eq_nil_iff {img : Mat} {whRatio : K} (data : OutputData K) :
    (run sigmoid img whRatio data).length = 0 ↔ data.detectRects sigmoid = [] := by
  rw [run, detectiontRects_eq]
  dsimp only
  rw [detections_eq, letterboxDecode, List.length_map, List.length_map, List.length_eq_zero_iff]

/-- A model without output tensors has nothing to read and reads it. -/
theorem not_reportsNothing_of_idle (isIdle : yolo.Idle) :
    ¬ ReportsNothing now (yolo.run sigmoid now frame) := by
  rintro ⟨isEmpty, -⟩
  unfold Yolo26.run at isEmpty
  split at isEmpty
  next => cases isEmpty
  next ret next isDone =>
    have isNil : next.outputTensors = [] := by
      obtain ⟨-, rfl⟩ | ⟨-, outputs, rfl⟩ := inference_cases isDone
      · exact isIdle.2
      · change yolo.outputTensors.mapIdx _ = []
        rw [isIdle.2]
        rfl
    have isNone : next.outputData = none := by
      rw [Yolo26.outputData, isNil]
      rfl
    rw [isNone] at isEmpty
    cases isEmpty

omit [Field K] [LinearOrder K] [FloorRing K] in
theorem inference_ne_none (isLoaded : yolo.Loaded now) (frame : Frame K) :
    yolo.inference now frame ≠ none := by
  unfold Yolo26.inference
  split
  next => exact Option.some_ne_none _
  next =>
    split
    next => exact Option.some_ne_none _
    next =>
      rw [isLoaded.convertible, if_neg (by decide)]
      repeat' split
      all_goals exact Option.some_ne_none _

omit [Field K] [LinearOrder K] [FloorRing K] in
theorem inference_of_failed (isLoaded : yolo.Loaded now)
    (failed : (yolo.inference now frame).map Prod.fst ≠ some .success) :
    ∃ ret, yolo.inference now frame = some (ret, yolo) := by
  obtain ⟨⟨ret, next⟩, isDone⟩ := Option.ne_none_iff_exists'.mp (inference_ne_none isLoaded frame)
  obtain ⟨-, rfl⟩ | ⟨rfl, -⟩ := inference_cases isDone
  · exact ⟨ret, isDone⟩
  · rw [isDone] at failed
    exact absurd rfl failed

omit [Field K] [LinearOrder K] [FloorRing K] in
theorem accesses_of_loaded (isLoaded : yolo.Loaded now) :
    (∀ access ∈ yolo.accesses,
        ∃ i frame, access = .data i frame ∧ (frame = none ∨ frame = some now)) ↔
      ∀ tensor ∈ yolo.outputTensors, tensor.frame = none := by
  rw [Yolo26.accesses, List.forall_mem_map]
  constructor
  · intro allNow tensor isIn
    obtain ⟨i, isLess, rfl⟩ := List.mem_iff_getElem.mp isIn
    have isRange : i ∈ List.range 6 := List.mem_range.mpr (isLoaded.tensors ▸ isLess)
    obtain ⟨_, frame, isAccess, isNow⟩ := allNow i isRange
    rw [List.getElem?_eq_getElem isLess] at isAccess
    cases isAccess
    obtain isNone | isNow := isNow
    · exact isNone
    · exact absurd (isLoaded.past _ isIn now isNow) (Nat.lt_irrefl now)
  · intro allNone i isRange
    have isLess : i < yolo.outputTensors.length :=
      isLoaded.tensors.symm ▸ List.mem_range.mp isRange
    rw [List.getElem?_eq_getElem isLess]
    exact ⟨i, _, rfl, .inl (allNone _ (List.getElem_mem isLess))⟩

omit [LinearOrder K] [FloorRing K] in
theorem outputData_of_loaded (isLoaded : yolo.Loaded now) :
    ∃ data, yolo.outputData = some data := by
  rw [Yolo26.outputData, isLoaded.tensors, if_neg (by decide)]
  split
  next => exact ⟨_, rfl⟩
  next => exact ⟨_, rfl⟩

theorem reportsNothing_of_loaded (isLoaded : yolo.Loaded now)
    (failed : (yolo.inference now frame).map Prod.fst ≠ some .success) :
    ReportsNothing now (yolo.run sigmoid now frame) ↔ yolo.Untouched sigmoid := by
  obtain ⟨ret, isDone⟩ := inference_of_failed isLoaded failed
  obtain ⟨data, isData⟩ := outputData_of_loaded isLoaded
  have isRun : yolo.run sigmoid now frame =
      ⟨yolo.accesses, some (run sigmoid frame.img yolo.whRatio data)⟩ := by
    rw [Yolo26.run, isDone]
    exact congrArg (Report.mk _) (congrArg (Option.map _) isData)
  rw [isRun, ReportsNothing, accesses_of_loaded isLoaded, Option.map_some, Option.some_inj,
    run_eq_nil_iff, Yolo26.Untouched, and_iff_right isLoaded.ready, and_comm, isData]
  refine and_congr_right fun _ => ⟨fun isNil other same => ?_, fun all => all data rfl⟩
  cases same
  exact isNil

/-- A model that failed reports nothing just as long as no output was written to its tensors
and what is there by chance has no detection. -/
theorem reportsNothing_iff (sigmoid : K → K) {pool : Pool K}
    (reachable : (models K).Reachable System.anyStep pool) {yolo : Yolo26 K}
    (isNext : pool.next? = some yolo) {frame : Frame K} (failed : yolo.Failed pool.id frame) :
    ReportsNothing pool.id (yolo.run sigmoid pool.id frame) ↔ yolo.Untouched sigmoid := by
  have isSound := sound_of_reachable reachable yolo (List.mem_of_getElem? isNext)
  obtain isIdle | isLoaded := isSound
  · refine iff_of_false (not_reportsNothing_of_idle isIdle) fun untouched => ?_
    exact absurd (isIdle.1.symm.trans untouched.1) Bool.false_ne_true
  · obtain notReady | failed := failed
    · exact absurd (notReady.symm.trans isLoaded.ready) Bool.false_ne_true
    · exact reportsNothing_of_loaded isLoaded failed

end Report

section Failures

def unset : InputTensor := ⟨fun _ => 0, .other, .other⟩

def attr : TensorAttr ℚ := ⟨4, fun _ => 640, 1, .int8, .nhwc, 0, 1⟩

def zeros : Memory ℚ := ⟨fun _ => 0, fun _ => 0⟩

def answers (file : Bool) : Loading ℚ :=
  ⟨file, true, true, some (1, 6), fun _ => some attr, fun _ => some attr, fun _ => zeros⟩

def picture (ran : Bool) : Frame ℚ := ⟨⟨640, 640⟩, true, ran, some fun _ => zeros⟩

/-- Behind an `init` that found no file. -/
def unloaded : Pool ℚ := ⟨[.start unset], 0⟩

theorem reachable_unloaded : (models ℚ).Reachable System.anyStep unloaded :=
  .start ⟨rfl, [(unset, answers false)], .loadModelFail, rfl⟩

theorem reportsNothing_iff_unloaded :
    ReportsNothing 0 ((Yolo26.start unset).run squash 0 (picture true)) ↔
      (Yolo26.start unset).Untouched squash :=
  reportsNothing_iff squash reachable_unloaded rfl (.inl rfl)

def loaded : Pool ℚ :=
  ⟨((loadModels [(unset, answers true)]).map Prod.snd).getD [], 0⟩

/-- Behind the first frame of a model that was loaded. -/
def behindOne : Pool ℚ := (loaded.put (picture true)).getD loaded

theorem reachable_behindOne : (models ℚ).Reachable System.anyStep behindOne := by
  have isStart : (models ℚ).Reachable System.anyStep loaded :=
    .start ⟨rfl, [(unset, answers true)], .success, rfl⟩
  have isPut : (models ℚ).step loaded (picture true) = some behindOne := rfl
  exact isStart.step trivial isPut

/-- A model without a file reads tensors that do not exist; one whose driver fails at the
second frame reads the output of the first. -/
theorem failed_reports :
    ((models ℚ).Reachable System.anyStep unloaded ∧
        unloaded.next? = some (.start unset) ∧ (Yolo26.start unset).Failed 0 (picture true) ∧
        ¬ ReportsNothing 0 ((Yolo26.start unset).run squash 0 (picture true))) ∧
      ∃ yolo, (models ℚ).Reachable System.anyStep behindOne ∧ behindOne.next? = some yolo ∧
        yolo.Failed 1 (picture false) ∧
        ¬ ReportsNothing 1 (yolo.run squash 1 (picture false)) := by
  refine ⟨⟨reachable_unloaded, rfl, .inl rfl, not_reportsNothing_of_idle ⟨rfl, rfl⟩⟩,
    _, reachable_behindOne, rfl, .inr nofun, fun reports => ?_⟩
  obtain ⟨_, frame, isData, isNow⟩ := reports.2 (.data 0 (some 0)) (.head _)
  cases isData
  obtain isNone | isOne := isNow
  · cases isNone
  · cases isOne

end Failures

end Rkipc.Yolo
