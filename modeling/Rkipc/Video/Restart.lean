import Mathlib.Algebra.GroupWithZero.Nat
import Mathlib.Logic.Function.Basic
import Rkipc.Transition.System

namespace Rkipc.Video

open Transition

/-! `rk_video_restart` as the sequence of its operations on threads, handles and flags, and
the messages about cards, on which the storage starts and stops its recorders too.
Operations that touch none of these (the encoder channels, the regions of the OSD, RTSP, RTMP)
are left out, but for the ways in which they end a function early. -/

instance neZeroMuxers : NeZero 4 := ⟨by decide⟩

/-- The globals that `rk_video_init` sets from the parameters. -/
inductive Flag
  | jpeg
  | venc0
  | venc1
  | npu
  | ivs
deriving DecidableEq

/-- The thread objects, and the handles of the storage and of the camera. -/
inductive Object
  | vencThread0
  | vencThread1
  | jpegVencThread
  | cycleSnapshotThread
  | getViThread
  | osdTimeThread
  | fileScanThread
  | recMsgThread
  | eventListenerThread
  | recordThread (id : Fin 4)
  | sdHandle
  | aiqCtx
deriving DecidableEq

inductive Module
  | storage
  | video
  | isp
deriving DecidableEq

inductive Phase
  | down
  | starting
  | up
  | stopping
deriving DecidableEq

/-- A thread object whose thread `ended` is still joinable. -/
inductive Status
  | absent
  | running
  | ended
deriving DecidableEq

/-- The other globals that the threads test or that are tested for them. -/
inductive Global
  | osdServerRun
  | osdTimeServerRun
  | osdSignal
  | eventListenerRun
  | msgQuit
  | handlesMessage
deriving DecidableEq

/-- `nv12` is about `video.0:output_data_type`, `storage` about `storage.%d:enable`, and
`clocks` counts the enabled entries of type `dateTime` that `rk_osd_init` comes to. -/
structure Params where
  enable : Flag → Bool
  nv12 : Bool
  cycleSnapshot : Bool
  clocks : Nat
  storage : Fin 4 → Int

inductive Cond
  | enabled (flag : Flag)
  | npuOrIvs
  | nv12 (val : Bool)
  | cycleSnapshot
  | clockJoined
  | storage (id : Fin 4)
  | storageIs (id : Fin 4) (val : Int)
  | storageNot (id : Fin 4) (val : Int)
  | never
  | free (object : Object)
deriving DecidableEq

/-- Functions and branches, which can be left early or skipped. -/
inductive Block
  | muxerDeinit (id : Fin 4)
  | joinVenc0
  | joinVenc1
  | joinJpeg
  | joinCycleSnapshot
  | joinClock
  | disableNpu
  | viExtInit
  | viVenc0
  | viGet
  | viVenc1
  | viNpu
  | pipe0Init
  | pipe1Init
  | pipeJpegInit
  | startCycleSnapshot
  | storageInit
  | autoDelete
  | muxerInit (id : Fin 4)
  | deviceAdd
  | deviceRemove
  | recorder (id : Fin 4)
  | otherwise (id : Fin 4)
  | stopRecorder (id : Fin 4)
deriving DecidableEq

/-- `mpi` is a call after whose failure the function returns; `release` joins a thread
that is joinable, or gives a handle back; `startClocks` is the loop of `rk_osd_init`. -/
inductive Op
  | begins (module : Module) (init : Bool)
  | finishes (module : Module) (init : Bool)
  | readEnables
  | setRun (val : Bool)
  | setCycleSnapshot (val : Bool)
  | branch (cond : Cond) (block : Block)
  | mpi (block : Block)
  | enableNpuChn (block : Block)
  | disableNpuChn
  | acquire (object : Object)
  | release (object : Object)
  | startClocks
  | set (global : Global) (val : Bool)
  | takeMessage
  | joinYolo
deriving DecidableEq

/-- An operation with the blocks it is in. -/
structure Instr where
  blocks : List Block
  op : Op
deriving DecidableEq

def op (op : Op) : List Instr := [⟨[], op⟩]

def inside (block : Block) (body : List Instr) : List Instr :=
  body.map fun instr => { instr with blocks := block :: instr.blocks }

/-- `if (cond) { body }` -/
def when (cond : Cond) (block : Block) (body : List Instr) : List Instr :=
  op (.branch cond block) ++ inside block body

/-- What is left after the rest of a block was skipped. -/
def skip (block : Block) (rest : List Instr) : List Instr :=
  rest.dropWhile fun instr => instr.blocks.contains block

def muxers (body : Fin 4 → List Instr) : List Instr := body 0 ++ body 1 ++ body 2 ++ body 3

def rkStorageMuxerDeinitById (id : Fin 4) : List Instr :=
  when (.storage id) (.muxerDeinit id) (op (.release (.recordThread id)))

/-- Each thread is told to stop and joined; there is none without a handle. -/
def rkipcStorageManagerDeinit : List Instr :=
  op (.set .eventListenerRun false) ++ op (.release .eventListenerThread) ++
    op (.set .msgQuit true) ++ op (.release .recMsgThread) ++
    op (.release .fileScanThread) ++ op (.release .sdHandle)

def rkStorageDeinit : List Instr :=
  muxers rkStorageMuxerDeinitById ++ rkipcStorageManagerDeinit

def rkipcViExtDeinit : List Instr := when .npuOrIvs .disableNpu (op .disableNpuChn)

def rkOsdDeinit : List Instr :=
  op (.set .osdServerRun false) ++
    when .clockJoined .joinClock (op (.release .osdTimeThread)) ++
    op (.set .osdSignal false)

def rkVideoDeinit : List Instr :=
  op (.setRun false) ++ rkOsdDeinit ++
    when (.enabled .venc0) .joinVenc0 (op (.release .vencThread0)) ++
    when (.enabled .venc1) .joinVenc1 (op (.release .vencThread1)) ++
    when (.enabled .jpeg) .joinJpeg
      (when .cycleSnapshot .joinCycleSnapshot
        (op (.setCycleSnapshot false) ++ op (.release .cycleSnapshotThread)) ++
      op (.release .jpegVencThread)) ++
    rkipcViExtDeinit

def rkIspDeinit : List Instr := op (.release .aiqCtx)

def rkIspInit : List Instr := op (.acquire .aiqCtx)

def rkipcViExtInit : List Instr :=
  inside .viExtInit
    (when (.enabled .venc0) .viVenc0
      (op (.mpi .viExtInit) ++
        when (.nv12 true) .viGet (op (.acquire .getViThread))) ++
    when (.enabled .venc1) .viVenc1 (op (.mpi .viExtInit)) ++
    when .npuOrIvs .viNpu (op (.mpi .viExtInit) ++ op (.enableNpuChn .viExtInit)))

/-- There is no encoder for NV12. -/
def rkipcPipe0Init : List Instr :=
  op (.branch (.nv12 false) .pipe0Init) ++ op (.mpi .pipe0Init) ++
    op (.acquire .vencThread0)

def rkipcPipe1Init : List Instr := op (.mpi .pipe1Init) ++ op (.acquire .vencThread1)

def rkipcPipeJpegInit : List Instr :=
  op (.mpi .pipeJpegInit) ++ op (.acquire .jpegVencThread) ++
    when .cycleSnapshot .startCycleSnapshot
      (op (.setCycleSnapshot true) ++ op (.acquire .cycleSnapshotThread))

def rkVideoInit : List Instr :=
  op .readEnables ++ op (.setRun true) ++ rkipcViExtInit ++
    when (.enabled .venc0) .pipe0Init rkipcPipe0Init ++
    when (.enabled .venc1) .pipe1Init rkipcPipe1Init ++
    when (.enabled .jpeg) .pipeJpegInit rkipcPipeJpegInit ++ op .startClocks

def rkStorageMuxerInitById (id : Fin 4) : List Instr :=
  inside (.muxerInit id)
    (op (.mpi (.muxerInit id)) ++ op (.branch (.storage id) (.muxerInit id)) ++
      op (.mpi (.muxerInit id)) ++ op (.acquire (.recordThread id)))

/-- Without a card there is nothing to scan. -/
def rkipcStorageAutoDeleteInit : List Instr :=
  inside .autoDelete (op (.mpi .autoDelete) ++ op (.acquire .fileScanThread))

def rkipcStorageListenMsgInit : List Instr :=
  op (.set .eventListenerRun true) ++ op (.set .msgQuit false) ++
    op (.acquire .recMsgThread) ++ op (.acquire .eventListenerThread)

/-- `rkipc_storage_manager_init` refuses a handle that is there. -/
def rkStorageInit : List Instr :=
  inside .storageInit
    (op (.branch (.free .sdHandle) .storageInit) ++ op (.mpi .storageInit) ++
      rkipcStorageAutoDeleteInit ++ rkipcStorageListenMsgInit ++
      op (.acquire .sdHandle) ++ muxers rkStorageMuxerInitById)

/-- The messages handle the streams below `STORAGE_NUM - 1`. -/
def recorders (body : Fin 4 → List Instr) : List Instr := body 0 ++ body 1 ++ body 2

/-- The `else` comes first here, and skips the rest. -/
def restartRecorder (id : Fin 4) : List Instr :=
  inside (.recorder id)
    (when (.storageNot id 1) (.otherwise id)
      (when (.storageIs id 0) (.stopRecorder id) (rkStorageMuxerDeinitById id) ++
        op (.branch .never (.recorder id))) ++
      rkStorageMuxerDeinitById id ++ rkStorageMuxerInitById id)

/-- `MSG_DEV_ADD`: `rkipc_storage_dev_add` recognises the device or not. -/
def msgDevAdd : List Instr :=
  inside .deviceAdd
    (op (.mpi .deviceAdd) ++ op (.acquire .fileScanThread) ++ recorders restartRecorder)

/-- `MSG_DEV_REMOVE`, of the device in use or of another one. -/
def msgDevRemove : List Instr :=
  inside .deviceRemove (op (.mpi .deviceRemove) ++ op (.release .fileScanThread)) ++
    recorders rkStorageMuxerDeinitById

/-- The message thread takes a message and handles it. -/
def rkipcStorageMsgRecCb (added : Bool) : List Instr :=
  op .takeMessage ++ (if added then msgDevAdd else msgDevRemove) ++
    op (.set .handlesMessage false)

def marked (module : Module) (init : Bool) (body : List Instr) : List Instr :=
  op (.begins module init) ++ body ++ op (.finishes module init)

/-- What `main` starts with, and the second half of a restart. -/
def startUp : List Instr :=
  marked .isp true rkIspInit ++ marked .video true rkVideoInit ++
    marked .storage true rkStorageInit

def rkVideoRestart : List Instr :=
  marked .storage false rkStorageDeinit ++ marked .video false rkVideoDeinit ++
    marked .isp false rkIspDeinit ++ startUp

def rkipcYoloDeinit : List Instr := op (.setRun false) ++ op .joinYolo

/-- The inference thread: before the condition of its loop, before
`RK_MPI_VI_GetChnFrame`, in the rest of the body, or out of the loop. -/
inductive Yolo
  | absent
  | check
  | get
  | body
  | ended
deriving DecidableEq

/-- `never` is a channel that no restart has touched. -/
inductive Channel
  | never
  | enabled
  | disabled
deriving DecidableEq

/-- `overwritten`: `rk_osd_init` has started a clock while another one had its object. -/
structure Board where
  run : Bool
  cycleSnapshotFlag : Bool
  enable : Flag → Bool
  params : Params
  phase : Module → Phase
  status : Object → Status
  global : Global → Bool
  overwritten : Bool
  npuChn : Channel
  yolo : Yolo

namespace Board

def holds (board : Board) : Cond → Bool
  | .enabled flag => board.enable flag
  | .npuOrIvs => board.enable .npu || board.enable .ivs
  | .nv12 val => board.params.nv12 == val
  | .cycleSnapshot => board.params.cycleSnapshot
  | .clockJoined => board.global .osdSignal && board.global .osdTimeServerRun
  | .storage id => board.params.storage id ≠ 0
  | .storageIs id val => board.params.storage id = val
  | .storageNot id val => board.params.storage id ≠ val
  | .never => false
  | .free object => board.status object = .absent

def setPhase (board : Board) (module : Module) (phase : Phase) : Board :=
  { board with phase := Function.update board.phase module phase }

def setStatus (board : Board) (object : Object) (status : Status) : Board :=
  { board with status := Function.update board.status object status }

def setGlobal (board : Board) (global : Global) (val : Bool) : Board :=
  { board with global := Function.update board.global global val }

def isHandle : Object → Bool
  | .sdHandle | .aiqCtx => true
  | _ => false

/-- An operation, and the block whose rest is skipped; `ok` is the outcome of a call.  A
join waits for the end of the thread. -/
def exec (board : Board) (ok : Bool) : Op → Option (Board × Option Block)
  | .begins module init =>
      some (board.setPhase module (if init then .starting else .stopping), none)
  | .finishes module init =>
      some (board.setPhase module (if init then .up else .down), none)
  | .readEnables => some ({ board with enable := board.params.enable }, none)
  | .setRun val => some ({ board with run := val }, none)
  | .setCycleSnapshot val => some ({ board with cycleSnapshotFlag := val }, none)
  | .branch cond block => some (board, if board.holds cond then none else some block)
  | .mpi block => some (board, if ok then none else some block)
  | .enableNpuChn block =>
      if ok then some ({ board with npuChn := .enabled }, none)
      else some (board, some block)
  | .disableNpuChn => some ({ board with npuChn := .disabled }, none)
  | .acquire object =>
      if isHandle object && !ok then some (board, none)
      else some (board.setStatus object .running, none)
  | .release object =>
      if board.status object = .running ∧ isHandle object = false then none
      else some (board.setStatus object .absent, none)
  | .startClocks =>
      if board.params.clocks = 0 then some (board, none)
      else
        let inUse := 1 < board.params.clocks ∨ board.status .osdTimeThread ≠ .absent
        some ({ ((board.setGlobal .osdServerRun true).setGlobal .osdSignal ok).setStatus
          .osdTimeThread .running with overwritten := board.overwritten || inUse }, none)
  | .set global val => some (board.setGlobal global val, none)
  | .takeMessage =>
      if board.status .recMsgThread = .running ∧ board.global .handlesMessage = false then
        some (board.setGlobal .handlesMessage true, none)
      else none
  | .joinYolo =>
      match board.yolo with
      | .absent => some (board, none)
      | .ended => some ({ board with yolo := .absent }, none)
      | .check | .get | .body => none

/-- The condition of the loop of a thread; a recorder and a scan may end by themselves. -/
def loops (board : Board) : Object → Bool
  | .vencThread0 | .vencThread1 | .jpegVencThread | .getViThread => board.run
  | .cycleSnapshotThread => board.run && board.cycleSnapshotFlag
  | .osdTimeThread => board.global .osdServerRun
  | .recMsgThread => board.global .handlesMessage || !board.global .msgQuit
  | .eventListenerThread => board.global .eventListenerRun
  | .recordThread _ | .fileScanThread => false
  | .sdHandle | .aiqCtx => true

def leave (board : Board) (object : Object) : Option Board :=
  if board.status object = .running ∧ board.loops object = false then
    some (board.setStatus object .ended)
  else none

/-- `osd_time_server` has created its region, or ends. -/
def clock (board : Board) (ok : Bool) : Option Board :=
  if board.status .osdTimeThread = .running then
    some ((board.setGlobal .osdTimeServerRun ok).setStatus .osdTimeThread
      (if ok then .running else .ended))
  else none

def infer (board : Board) : Option Board :=
  match board.yolo with
  | .absent | .ended => none
  | .check => some { board with yolo := if board.run then .get else .ended }
  | .get => some { board with yolo := .body }
  | .body => some { board with yolo := .check }

end Board

/-- A message comes from the kernel and not from a connection. -/
inductive Request
  | restart
  | yoloDeinit
  | message (added : Bool)
deriving DecidableEq

def Request.instrs : Request → List Instr
  | .restart => rkVideoRestart
  | .yoloDeinit => rkipcYoloDeinit
  | .message added => rkipcStorageMsgRecCb added

/-- `control` is what is left to do for each connection, or for the message thread. -/
structure State (τ : Type) where
  board : Board
  control : τ → List Instr

inductive Label (τ : Type)
  | request (thread : τ) (request : Request)
  | step (thread : τ) (ok : Bool)
  | params (params : Params)
  | leave (object : Object)
  | clock (ok : Bool)
  | infer

def skipOf (block : Option Block) (rest : List Instr) : List Instr :=
  match block with
  | none => rest
  | some block => skip block rest

namespace State

variable {τ : Type} [DecidableEq τ]

def step (state : State τ) : Label τ → Option (State τ)
  | .request thread request =>
      if state.control thread = [] then
        some { state with
          control := Function.update state.control thread request.instrs }
      else none
  | .step thread ok =>
      match state.control thread with
      | [] => none
      | instr :: rest =>
          (state.board.exec ok instr.op).map fun (board, block) =>
            { board := board
              control := Function.update state.control thread (skipOf block rest) }
  | .params params => some { state with board := { state.board with params := params } }
  | .leave object =>
      (state.board.leave object).map fun board => { state with board := board }
  | .clock ok => (state.board.clock ok).map fun board => { state with board := board }
  | .infer => state.board.infer.map fun board => { state with board := board }

end State

end Rkipc.Video
