import Rkipc.Video.Overlap

namespace Rkipc.Video

open Transition

/-! `main` with its calls of `init` and `deinit`, the threads that these start, and the
connections, which are there as long as the process is.  Of the threads only the
inference thread and those that `Restart` has are followed, and no messages about cards. -/

/-- The modules that `main` brings up. -/
inductive Part
  | param
  | isp
  | sys
  | audio
  | video
  | server
  | storage
  | network
  | system
  | yolo
deriving DecidableEq

def Module.part : Module → Part
  | .storage => .storage
  | .video => .video
  | .isp => .isp

/-- `audio` and `yoloDeinit` are behind an `if` that reads a parameter; `reads` is a read
of another parameter. -/
inductive Line
  | init (part : Part)
  | deinit (part : Part)
  | audio (init : Bool)
  | instr (instr : Instr)
  | reads
  | yoloInit
  | loop
  | yoloDeinit
deriving DecidableEq

def lines (instrs : List Instr) : List Line := instrs.map .instr

def mainInit : List Line :=
  [Line.init .param, .reads] ++ lines (marked .isp true rkIspInit) ++
    [Line.init .sys, .audio true] ++ lines (marked .video true rkVideoInit) ++
    [Line.init .server] ++ lines (marked .storage true rkStorageInit) ++
    [Line.init .network, .init .system, .reads, .yoloInit]

/-- `.deinit .sys` is `RK_MPI_SYS_Exit`. -/
def mainDeinit : List Line :=
  lines (marked .storage false rkStorageDeinit) ++
    [Line.deinit .server, .deinit .system, .audio false] ++
    lines (marked .video false rkVideoDeinit) ++ [Line.deinit .sys] ++
    lines (marked .isp false rkIspDeinit) ++
    [Line.yoloDeinit, .deinit .network, .deinit .param]

def mainLines : List Line := mainInit ++ [Line.loop] ++ mainDeinit

/-- `video.source:enable_npu` holds. -/
def yoloDeinitLines : List Line := lines rkipcYoloDeinit ++ [Line.deinit .yolo]

def Line.isIn (block : Block) : Line → Bool
  | .instr entry => entry.blocks.contains block
  | _ => false

def skipLines (block : Option Block) (rest : List Line) : List Line :=
  match block with
  | none => rest
  | some block => rest.dropWhile (Line.isIn block)

inductive Worker
  | yolo
  | thread (object : Object)
deriving DecidableEq

/-- The threads that `rkipc_yolo_init` and `rk_video_init` start. -/
def Worker.ofVideo : Worker → Bool
  | .yolo => true
  | .thread (.recordThread _) | .thread .fileScanThread | .thread .recMsgThread
  | .thread .eventListenerThread => false
  | .thread object => !Board.isHandle object

inductive Caller (τ : Type)
  | main
  | connection (thread : τ)
  | worker (worker : Worker)
deriving DecidableEq

/-- A call of `RK_MPI_*`, or of `rk_param_*`. -/
inductive Use
  | mpi
  | config
deriving DecidableEq

inductive Event (τ : Type)
  | initialised (part : Part)
  | deinitialised (part : Part)
  | started (worker : Worker)
  | joined (worker : Worker)
  | uses (caller : Caller τ) (use : Use)
deriving DecidableEq

variable {τ : Type}

def Cond.reads : Cond → Bool
  | .nv12 _ | .cycleSnapshot | .storage _ | .storageIs _ _ | .storageNot _ _ => true
  | .enabled _ | .npuOrIvs | .clockJoined | .never | .free _ => false

/-- The calls of the storage module that can fail are none of `RK_MPI`. -/
def Board.events (board : Board) (caller : Caller τ) : Op → List (Event τ)
  | .finishes module true => [.initialised module.part]
  | .finishes module false => [.deinitialised module.part]
  | .readEnables => [.uses caller .config]
  | .branch cond _ => if cond.reads then [.uses caller .config] else []
  | .mpi .storageInit | .mpi (.muxerInit _) | .mpi .autoDelete | .mpi .deviceAdd
  | .mpi .deviceRemove => []
  | .mpi _ | .enableNpuChn _ | .disableNpuChn => [.uses caller .mpi]
  | .acquire object => if isHandle object then [] else [.started (.thread object)]
  | .release object =>
      if isHandle object || board.status object = .absent then []
      else [.joined (.thread object)]
  | .startClocks =>
      .uses caller .config ::
        List.replicate board.params.clocks (.started (.thread .osdTimeThread))
  | .joinYolo => if board.yolo = .absent then [] else [.joined .yolo]
  | .begins _ _ | .setRun _ | .setCycleSnapshot _ | .set _ _ | .takeMessage => []

/-- What the threads call before and in their loops. -/
def Worker.calls : Worker → List Use
  | .yolo => [.config, .mpi]
  | .thread .vencThread0 | .thread .vencThread1 | .thread .getViThread => [.mpi]
  | .thread .jpegVencThread | .thread .cycleSnapshotThread | .thread .osdTimeThread =>
      [.config, .mpi]
  | .thread .recMsgThread => [.config]
  | .thread _ => []

/-- `yoloReads` is how many parameters the inference thread has still to read before its
loop. -/
structure Process (τ : Type) where
  board : Board
  audio : Bool
  mainRun : Bool
  main : List Line
  control : τ → List Instr
  yoloReads : Nat
  history : List (Event τ)

/-- `serve` is a step of another request, `signal` ends the loop of `main`. -/
inductive ProcessLabel (τ : Type)
  | main (ok : Bool)
  | signal
  | restart (thread : τ)
  | step (thread : τ) (ok : Bool)
  | serve (thread : τ) (use : Use)
  | setParams (thread : τ) (params : Params) (audio : Bool)
  | leave (object : Object)
  | clock (ok : Bool)
  | call (object : Object) (use : Use)
  | infer

namespace Process

def record (process : Process τ) (events : List (Event τ)) : Process τ :=
  { process with history := process.history ++ events }

def mainStep (process : Process τ) (ok : Bool) : Option (Process τ) :=
  match process.main with
  | [] => none
  | .init part :: rest =>
      some ({ process with main := rest }.record [.initialised part])
  | .deinit part :: rest =>
      some ({ process with main := rest }.record [.deinitialised part])
  | .audio init :: rest =>
      let reads : Event τ := .uses .main .config
      some ({ process with main := rest }.record
        (if process.audio then
          [reads, if init then .initialised .audio else .deinitialised .audio]
        else [reads]))
  | .instr instr :: rest =>
      (process.board.exec ok instr.op).map fun (board, block) =>
        { process with board := board, main := skipLines block rest }.record
          (process.board.events .main instr.op)
  | .reads :: rest => some ({ process with main := rest }.record [.uses .main .config])
  | .yoloInit :: rest =>
      some ({ process with
        main := rest
        board := { process.board with yolo := .check }
        yoloReads := 2 }.record [.started .yolo, .initialised .yolo])
  | .loop :: rest => some (if process.mainRun then process else { process with main := rest })
  | .yoloDeinit :: rest =>
      some ({ process with
        main := if process.board.params.enable .npu then yoloDeinitLines ++ rest else rest
        }.record [.uses .main .config])

/-- A step of `yolo26_inference`; the call of `RK_MPI_VI_GetChnFrame` stands for those of
one iteration. -/
def infer (process : Process τ) : Option (Process τ) :=
  if process.board.yolo = .check ∧ 0 < process.yoloReads then
    some ({ process with yoloReads := process.yoloReads - 1 }.record
      [.uses (.worker .yolo) .config])
  else
    process.board.infer.map fun board =>
      { process with board := board }.record
        (if process.board.yolo = Yolo.get then [.uses (.worker .yolo) .mpi] else [])

def Serves [DecidableEq τ] (process : Process τ) : Prop :=
  .initialised .server ∈ process.history

instance [DecidableEq τ] (process : Process τ) : Decidable process.Serves :=
  inferInstanceAs (Decidable (_ ∈ _))

variable [DecidableEq τ]

def step (process : Process τ) : ProcessLabel τ → Option (Process τ)
  | .main ok => process.mainStep ok
  | .signal => some { process with mainRun := false }
  | .restart thread =>
      if process.Serves ∧ process.control thread = [] then
        some { process with
          control := Function.update process.control thread rkVideoRestart }
      else none
  | .step thread ok =>
      match process.control thread with
      | [] => none
      | instr :: rest =>
          (process.board.exec ok instr.op).map fun (board, block) =>
            { process with
              board := board
              control := Function.update process.control thread (skipOf block rest)
              }.record (process.board.events (.connection thread) instr.op)
  | .serve thread use =>
      if process.Serves ∧ process.control thread = [] then
        some (process.record [.uses (.connection thread) use])
      else none
  | .setParams thread params audio =>
      if process.Serves ∧ process.control thread = [] then
        some ({ process with
          board := { process.board with params := params }
          audio := audio }.record [.uses (.connection thread) .config])
      else none
  | .leave object =>
      (process.board.leave object).map fun board => { process with board := board }
  | .clock ok =>
      (process.board.clock ok).map fun board => { process with board := board }
  | .call object use =>
      if process.board.status object = .running ∧ use ∈ (Worker.thread object).calls then
        some (process.record [.uses (.worker (.thread object)) use])
      else none
  | .infer => process.infer

def atStart (params : Params) (audio : Bool) : Process τ where
  board := .blank params
  audio := audio
  mainRun := true
  main := mainLines
  control _ := []
  yoloReads := 0
  history := []

end Process

def application (τ : Type) [DecidableEq τ] : System (Process τ) (ProcessLabel τ) where
  initial process := ∃ params audio, process = .atStart params audio
  step := Process.step

end Rkipc.Video
