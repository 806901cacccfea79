import Mathlib.Logic.Function.Basic
import Rkipc.Storage.Monitor

namespace Rkipc.Storage

open Transition

/-! The threads that start, join and are the scan threads of one storage handle,
from `rkipc_storage_auto_delete_init` to `rkipc_storage_auto_delete_deinit`. -/

inductive MainPoint
  | mountDev
  | scanCreate
  | listen
  | running
  | joinMessage
  | unmount
  | join
  | destroySignal
  | deinitialised
deriving DecidableEq

inductive MessagePoint
  | dormant
  | idle
  | scanCreate
  | join
  | destroySignal
  | ended
deriving DecidableEq

/-- Where a scan thread stands in `rkipc_storage_file_scan_thread`. -/
inductive ScanPoint
  | dormant
  | check
  | malloc
  | createFolder (i : Nat)
  | recheck
  | setMounted
  | checkSize
  | diskSize
  | createMonitor
  | createSignal
  | loop
  | wait
  | afterWait
  | pass
  | joinMonitor
  | free
  | ended
deriving DecidableEq

inductive MonitorPoint
  | dormant
  | watch
  | loop
  | handle
  | ended
deriving DecidableEq

/-- `folder` is the scan thread that has allocated the folders, `created` the
number of scan threads so far, and `joined` are those that were joined. -/
structure Scans where
  mountStatus : MountStatus
  fileScanTid : Option Nat
  fileScanSignal : Bool
  folder : Option Nat
  folderNum : Nat
  created : Nat
  joined : List Nat
  quit : Bool
  main : MainPoint
  message : MessagePoint
  scan : Nat → ScanPoint
  monitor : Nat → MonitorPoint

/-- A message as `rkipc_storage_dev_add` and `rkipc_storage_dev_remove` take it.
Other messages change nothing here. -/
inductive DevMsg
  | accepted
  | notFormatted
  | removed
deriving DecidableEq

/-- The thread that steps, with the outcome of its call. -/
inductive ScanLabel
  | main (succeeds : Bool)
  | receive (msg : DevMsg)
  | quit
  | message (succeeds : Bool)
  | scan (thread : Nat) (succeeds : Bool)
  | monitor (thread : Nat) (succeeds : Bool)
  | unmountEvent (thread : Nat)
deriving DecidableEq

namespace Scans

def goMain (next : MainPoint) (scans : Scans) : Scans :=
  { scans with main := next }

def goMessage (next : MessagePoint) (scans : Scans) : Scans :=
  { scans with message := next }

def goScan (thread : Nat) (next : ScanPoint) (scans : Scans) : Scans :=
  { scans with scan := Function.update scans.scan thread next }

def goMonitor (thread : Nat) (next : MonitorPoint) (scans : Scans) : Scans :=
  { scans with monitor := Function.update scans.monitor thread next }

def setStatus (status : MountStatus) (scans : Scans) : Scans :=
  { scans with mountStatus := status }

/-- `pthread_create` of a scan thread writes `file_scan_tid`. -/
def spawn (scans : Scans) : Scans :=
  { scans with
    fileScanTid := some scans.created
    created := scans.created + 1
    scan := Function.update scans.scan scans.created .check }

def join (thread : Nat) (scans : Scans) : Scans :=
  { scans with joined := thread :: scans.joined }

/-- `pthread_join` of `file_scan_tid` returns once the thread has ended. -/
def joinTid (scans : Scans) : Option Scans :=
  match scans.fileScanTid with
  | none => some scans
  | some thread =>
      if scans.scan thread = .ended then some (scans.join thread) else none

/-- `rkipc_storage_auto_delete_init`, then the life of the program, then
`rkipc_storage_manager_deinit`. -/
def mainStep (succeeds : Bool) (scans : Scans) : Option Scans :=
  match scans.main with
  | .mountDev =>
      if succeeds then some ((scans.setStatus .scanning).goMain .scanCreate)
      else some ((scans.setStatus .unmounted).goMain .listen)
  | .scanCreate =>
      some ((if succeeds then scans.spawn else scans).goMain .listen)
  | .listen => some ((scans.goMessage .idle).goMain .running)
  | .running => some ({ scans with quit := true }.goMain .joinMessage)
  | .joinMessage =>
      if scans.message = .ended then some (scans.goMain .unmount) else none
  | .unmount => some ((scans.setStatus .unmounted).goMain .join)
  | .join => scans.joinTid.map (goMain .destroySignal)
  | .destroySignal =>
      some ({ scans with fileScanSignal := false }.goMain .deinitialised)
  | .deinitialised => none

/-- The message thread takes a message. -/
def receive (msg : DevMsg) (scans : Scans) : Option Scans :=
  if scans.message = .idle then
    match msg with
    | .accepted => some ((scans.setStatus .scanning).goMessage .scanCreate)
    | .notFormatted => some (scans.setStatus .notFormatted)
    | .removed => some ((scans.setStatus .unmounted).goMessage .join)
  else none

/-- The message thread finds `quit` set. -/
def quitMessage (scans : Scans) : Option Scans :=
  if scans.message = .idle ∧ scans.quit then some (scans.goMessage .ended)
  else none

/-- The rest of `rkipc_storage_dev_add` and `rkipc_storage_dev_remove`. -/
def messageStep (succeeds : Bool) (scans : Scans) : Option Scans :=
  match scans.message with
  | .scanCreate =>
      some ((if succeeds then scans.spawn else scans).goMessage .idle)
  | .join => scans.joinTid.map fun scans =>
      { scans with fileScanTid := none }.goMessage .destroySignal
  | .destroySignal =>
      some ({ scans with fileScanSignal := false }.goMessage .idle)
  | .dormant | .idle | .ended => none

/-- `rkipc_storage_file_scan_thread`; `attrNum` is `devAttr.folder_num`. -/
def scanStep (attrNum thread : Nat) (succeeds : Bool) (scans : Scans) :
    Option Scans :=
  match scans.scan thread with
  | .dormant | .ended => none
  | .check =>
      if scans.mountStatus ≠ .unmounted then some (scans.goScan thread .malloc)
      else some (scans.goScan thread .recheck)
  | .malloc =>
      if succeeds then
        some ({ scans with folder := some thread, folderNum := attrNum }.goScan
          thread (.createFolder 0))
      else
        some ({ scans with folder := none, folderNum := attrNum }.goScan
          thread .ended)
  | .createFolder i =>
      if i < scans.folderNum then
        if succeeds then some (scans.goScan thread (.createFolder (i + 1)))
        else some (scans.goScan thread .joinMonitor)
      else some (scans.goScan thread .recheck)
  | .recheck =>
      if scans.mountStatus = .unmounted then
        some (scans.goScan thread .joinMonitor)
      else some (scans.goScan thread .setMounted)
  | .setMounted => some ((scans.setStatus .mounted).goScan thread .checkSize)
  | .checkSize =>
      if scans.mountStatus ≠ .unmounted then
        some (scans.goScan thread .diskSize)
      else some (scans.goScan thread .createMonitor)
  | .diskSize =>
      if succeeds then some (scans.goScan thread .createMonitor)
      else some (scans.goScan thread .ended)
  | .createMonitor =>
      if succeeds then
        some ((scans.goMonitor thread .watch).goScan thread .createSignal)
      else some (scans.goScan thread .joinMonitor)
  | .createSignal =>
      some ({ scans with fileScanSignal := succeeds }.goScan thread
        (if succeeds then .loop else .ended))
  | .loop =>
      if scans.mountStatus = .mounted then some (scans.goScan thread .wait)
      else some (scans.goScan thread .joinMonitor)
  -- a signal, or 60 seconds
  | .wait => some (scans.goScan thread .afterWait)
  | .afterWait =>
      if scans.mountStatus = .mounted then some (scans.goScan thread .pass)
      else some (scans.goScan thread .joinMonitor)
  | .pass =>
      if succeeds then some (scans.goScan thread .loop)
      else some (scans.goScan thread .joinMonitor)
  | .joinMonitor =>
      if scans.monitor thread = .dormant ∨ scans.monitor thread = .ended then
        some (scans.goScan thread .free)
      else none
  | .free =>
      some ({ scans with folder := none, folderNum := 0 }.goScan thread .ended)

/-- `rkipc_storage_file_monitor_thread` but for the events of an unmount. -/
def monitorStep (thread : Nat) (succeeds : Bool) (scans : Scans) :
    Option Scans :=
  match scans.monitor thread with
  | .dormant | .ended => none
  | .watch =>
      some (scans.goMonitor thread (if succeeds then .loop else .ended))
  | .loop =>
      if scans.mountStatus = .mounted then
        some (scans.goMonitor thread .handle)
      else some (scans.goMonitor thread .ended)
  | .handle => some (scans.goMonitor thread .loop)

/-- The monitor thread reads `IN_UNMOUNT`. -/
def unmountEvent (thread : Nat) (scans : Scans) : Option Scans :=
  if scans.monitor thread = .handle then some (scans.setStatus .unmounted)
  else none

def step (attrNum : Nat) (scans : Scans) : ScanLabel → Option Scans
  | .main succeeds => scans.mainStep succeeds
  | .receive msg => scans.receive msg
  | .quit => scans.quitMessage
  | .message succeeds => scans.messageStep succeeds
  | .scan thread succeeds => scans.scanStep attrNum thread succeeds
  | .monitor thread succeeds => scans.monitorStep thread succeeds
  | .unmountEvent thread => scans.unmountEvent thread

/-- The handle after its `memset`, before `rkipc_storage_auto_delete_init`. -/
def start : Scans where
  mountStatus := .unmounted
  fileScanTid := none
  fileScanSignal := false
  folder := none
  folderNum := 0
  created := 0
  joined := []
  quit := false
  main := .mountDev
  message := .dormant
  scan _ := .dormant
  monitor _ := .dormant

def system (attrNum : Nat) : System Scans ScanLabel where
  initial scans := scans = start
  step := step attrNum

end Scans

end Rkipc.Storage
