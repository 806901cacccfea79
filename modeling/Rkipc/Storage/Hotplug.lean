import Rkipc.Storage.Monitor
import Rkipc.Storage.Recorder

namespace Rkipc.Storage

open Recorder

/-! The handling of one uevent, first in the listener thread and then in the
message thread, while the other threads do no more than end when they are
joined. -/

inductive DevType
  | disk
  | partition
  | other
deriving DecidableEq

inductive Action
  | add
  | remove
  | change
  | other
deriving DecidableEq

structure Uevent where
  devtype : DevType
  action : Action
  devname : String

inductive Msg
  | devAdd
  | devRemove
  | devChanged
deriving DecidableEq

/-- `rkipc_storage_handle` as the hotplug code reads and writes it, with
`g_file_scan_signal`. -/
structure Handle where
  attrDevPath : String
  attrMountPath : String
  devPath : String
  devType : String
  devAttr1 : String
  mountStatus : MountStatus
  fileScanTid : Option Nat
  fileScanSignal : Bool
  totalSize : Int
  freeSize : Int
  fsckQuit : Bool

/-- What the environment answers.  `mountPath` and `mountDev` are the lookups in
`/proc/mounts`, `sent` the outcome of `rkipc_storage_msg_send_msg`, and
`fileScan` the thread that `pthread_create` makes, if it does.  `prepared`,
`signal` and `recorder` are the outcomes in `rk_storage_muxer_init_by_id`. -/
structure Answers where
  mountPath : String → Option String
  mountDev : String → Option (String × String × String)
  sent : Bool
  fileScan : Option Nat
  prepared : StreamId → Bool
  signal : StreamId → Bool
  recorder : StreamId → Bool

structure Plugged where
  handle : Handle
  streams : StreamId → Stream

namespace Recorder.Stream

/-- The recorder leaves its loop and ends. -/
def leave (thread : Nat) (stream : Stream) : Stream :=
  ((stream.setRun false).call .deinit).ended thread

/-- `pthread_join` of `record_thread_id`. -/
def join (stream : Stream) : Stream :=
  match stream.recordThreadId with
  | none => stream
  | some thread => if thread ∈ stream.live then stream.leave thread else stream

def muxerDeinitById (enable : Int) (stream : Stream) : Stream :=
  if enable = 0 then stream
  else
    let stream := stream.setStorageRecordFlag false
    if stream.gStorageSignal then stream.join.setSignal false else stream

def muxerInitById (enable : Int) (prepared signal recorder : Bool)
    (stream : Stream) : Stream :=
  if prepared then
    if enable = 0 then stream
    else
      let stream := stream.setSignal signal
      if signal then
        let stream := stream.setStorageRecordFlag true
        if recorder then stream.spawn else stream
      else stream
  else stream

end Recorder.Stream

namespace Handle

/-- A configured device path is the device of the handle. -/
def nameDev (handle : Handle) : Handle :=
  if handle.attrDevPath ≠ "" then
    { handle with devPath := handle.attrDevPath }
  else handle

/-- `rkipc_storage_dev_add`, with whether it returns 0. -/
def devAdd (answers : Answers) (dev : String) (handle : Handle) :
    Handle × Bool :=
  if handle.attrDevPath ≠ "" ∧ handle.attrDevPath ≠ dev then (handle, false)
  else
    match answers.mountPath dev with
    | none =>
        (if handle.attrDevPath ≠ "" then
          { handle.nameDev with mountStatus := .notFormatted }
        else handle.nameDev, false)
    | some mountPath =>
        if handle.attrMountPath ≠ "" ∧ handle.attrMountPath ≠ mountPath then
          (handle.nameDev, false)
        else
          -- configured or not, the mount path is now this one
          match answers.mountDev mountPath with
          | none => (handle.nameDev, false)
          | some (devPath, devType, devAttr1) =>
              ({ handle.nameDev with
                devPath, devType, devAttr1
                mountStatus := .scanning
                fileScanTid := answers.fileScan.or handle.fileScanTid }, true)

def devRemove (dev : String) (handle : Handle) : Handle :=
  if handle.devPath = dev then
    { handle with
      mountStatus := .unmounted
      totalSize := 0
      freeSize := 0
      fsckQuit := true
      fileScanTid := none
      fileScanSignal := false }
  else handle

end Handle

/-- A loop over the streams that `rkipc_storage_msg_rec_cb` handles. -/
def belowLast (change : StreamId → Stream → Stream)
    (streams : StreamId → Stream) (id : StreamId) : Stream :=
  if (id : Nat) < 3 then change id (streams id) else streams id

/-- The body of the loop for `MSG_DEV_ADD`. -/
def restart (enable : StreamId → Int) (answers : Answers) (id : StreamId)
    (stream : Stream) : Stream :=
  if enable id = 1 then
    ((stream.setRecordFlag 1).muxerDeinitById (enable id)).muxerInitById
      (enable id) (answers.prepared id) (answers.signal id)
      (answers.recorder id)
  else if enable id = 0 then
    (stream.setRecordFlag 0).muxerDeinitById (enable id)
  else stream

/-- The body of the loop for `MSG_DEV_REMOVE`. -/
def stop (enable : StreamId → Int) (id : StreamId) (stream : Stream) : Stream :=
  (stream.setRecordFlag 0).muxerDeinitById (enable id)

namespace Plugged

def msgRecCb (enable : StreamId → Int) (answers : Answers) (dev : String)
    (plugged : Plugged) : Msg → Plugged
  | .devAdd =>
      let (handle, added) := plugged.handle.devAdd answers dev
      if added then ⟨handle, belowLast (restart enable answers) plugged.streams⟩
      else { plugged with handle }
  | .devRemove =>
      ⟨plugged.handle.devRemove dev, belowLast (stop enable) plugged.streams⟩
  | .devChanged => plugged

/-- The listener clears `g_storage_record_flag` of every stream. -/
def cleared (plugged : Plugged) : Plugged :=
  { plugged with
    streams := fun id => (plugged.streams id).setStorageRecordFlag false }

/-- `rkipc_storage_event_listener_thread`, with the message it sends. -/
def listen (event : Uevent) (plugged : Plugged) : Plugged × Option Msg :=
  if event.devtype = .partition ∨ event.devtype = .disk then
    match event.action with
    | .add => (plugged, some .devAdd)
    | .remove => (plugged.cleared, some .devRemove)
    | .change => (plugged, some .devChanged)
    | .other => (plugged, none)
  else (plugged, none)

def handleUevent (enable : StreamId → Int) (answers : Answers)
    (event : Uevent) (plugged : Plugged) : Plugged :=
  match plugged.listen event with
  | (plugged, some msg) =>
      if answers.sent then plugged.msgRecCb enable answers event.devname msg
      else plugged
  | (plugged, none) => plugged

end Plugged

end Rkipc.Storage
