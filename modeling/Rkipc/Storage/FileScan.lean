import Rkipc.Storage.Monitor

namespace Rkipc.Storage

/-! One scan thread from its start to its end, and `rkipc_storage_manager_init`,
with what they leave running and allocated on each way out. -/

inductive Monitoring
  | absent
  | running
  | joined
deriving DecidableEq

/-- The part of `rkipc_storage_handle` that the scan thread builds up, with
`g_file_scan_signal`, its monitor thread, and the nodes that were lost when the
folders above them were freed or replaced. -/
structure ScanHandle where
  mountStatus : MountStatus
  totalSize : Int
  freeSize : Int
  folder : Option (List Folder)
  folderNum : Nat
  fileScanSignal : Bool
  monitor : Monitoring
  lost : List File

/-- What happens to a list in the loop: a deletion of the scan thread, or the
monitor thread that handles an event. -/
structure ListChange where
  index : Nat
  operation : Folder.Operation

/-- A pass of the loop, which found the card mounted.  `afterWait` is the mount
status after the wait, and the changes are those until the disk size is known
and those behind it. -/
structure ScanPass where
  afterWait : MountStatus
  byNumLimit : List ListChange
  diskSize : Option (Int × Int)
  bySpaceLimit : List ListChange

structure ScanAttr where
  mountPath : String
  folderAttr : List FolderAttr

/-- What the calls of the thread return.  `first`, `second` and `third` are the
reads of `mount_status` before the loop, and `passes` the passes until the loop
finds another status or is left. -/
structure ScanAnswers where
  first : MountStatus
  folderMalloc : Bool
  createFolder : Nat → Bool
  dir : Nat → Option Folder.DirStream
  second : MountStatus
  third : MountStatus
  diskSize : Option (Int × Int)
  monitorCreate : Bool
  signalCreate : Bool
  passes : List ScanPass

namespace Folder

/-- The loop of `file_scan_out` that frees the nodes from the given one on. -/
def freeFrom (folder : Folder) : List File → Folder
  | [] => folder
  | _ :: next =>
      freeFrom { folder with
        fileListFirst := next
        fileListLast := if next = [] then none else folder.fileListLast } next

def freeNodes (folder : Folder) : Folder :=
  folder.freeFrom folder.fileListFirst

def freeLists : Nat → List Folder → List Folder
  | 0, folders => folders
  | _, [] => []
  | folderNum + 1, folder :: rest => folder.freeNodes :: freeLists folderNum rest

end Folder

def nodesOf (folder : Option (List Folder)) : List File :=
  (folder.getD []).flatMap Folder.fileListFirst

/-- The loop of the scan over the folders from `i` on, with whether all of them
were created.  The list of a new folder is empty, so its clearing loop ends at
once. -/
def scanFolders (mountPath : String) (answers : ScanAnswers) :
    Nat → List FolderAttr → List Folder × Bool
  | _, [] => ([], true)
  | i, attr :: rest =>
      let folder := Folder.empty (mountPath ++ "/" ++ attr.folderPath) 0
      if answers.createFolder i then
        let (folders, created) := scanFolders mountPath answers (i + 1) rest
        (((folder.readFileList attr (answers.dir i)).map Prod.fst).getD folder ::
          folders, created)
      else (folder :: rest.map fun _ => Folder.empty "" 0, false)

def ListChange.apply (change : ListChange) (folders : List Folder) :
    List Folder :=
  folders.modify change.index fun folder =>
    (folder.apply change.operation).getD folder

namespace ScanHandle

def joinMonitor (handle : ScanHandle) : ScanHandle :=
  { handle with
    monitor := if handle.monitor = .absent then .absent else .joined }

def freeFolders (handle : ScanHandle) : ScanHandle :=
  match handle.folder with
  | none => handle
  | some folders =>
      { handle with
        folder := none
        lost := handle.lost ++
          nodesOf (some (Folder.freeLists handle.folderNum folders)) }

def fileScanOut (handle : ScanHandle) : ScanHandle :=
  { handle.joinMonitor.freeFolders with folderNum := 0 }

/-- A pass without folders would read through a null pointer, and changes none
here. -/
def change (changes : List ListChange) (handle : ScanHandle) : ScanHandle :=
  { handle with
    folder := handle.folder.map fun folders =>
      changes.foldl (fun folders change => change.apply folders) folders }

def autoDelete : List ScanPass → ScanHandle → ScanHandle
  | [], handle => handle
  | pass :: rest, handle =>
      if pass.afterWait ≠ .mounted then handle
      else
        let handle := handle.change pass.byNumLimit
        match pass.diskSize with
        | none => handle
        | some (totalSize, freeSize) =>
            autoDelete rest
              ({ handle with totalSize, freeSize }.change pass.bySpaceLimit)

/-- From the creation of the monitor thread on. -/
def watch (answers : ScanAnswers) (handle : ScanHandle) : ScanHandle :=
  if answers.monitorCreate then
    let handle :=
      { handle with
        monitor := .running
        fileScanSignal := answers.signalCreate }
    if answers.signalCreate then (autoDelete answers.passes handle).fileScanOut
    else handle
  else handle.fileScanOut

/-- From the second look at the mount status on. -/
def mount (answers : ScanAnswers) (handle : ScanHandle) : ScanHandle :=
  if answers.second = .unmounted then handle.fileScanOut
  else
    let handle := { handle with mountStatus := .mounted }
    if answers.third ≠ .unmounted then
      match answers.diskSize with
      | none => handle
      | some (totalSize, freeSize) =>
          { handle with totalSize, freeSize }.watch answers
    else { handle with totalSize := 0, freeSize := 0 }.watch answers

def fileScanThread (attr : ScanAttr) (answers : ScanAnswers)
    (handle : ScanHandle) : ScanHandle :=
  if answers.first ≠ .unmounted then
    let handle :=
      { handle with
        folderNum := attr.folderAttr.length
        folder := none
        lost := handle.lost ++ nodesOf handle.folder }
    if answers.folderMalloc then
      let (folders, created) :=
        scanFolders attr.mountPath answers 0 attr.folderAttr
      let handle := { handle with folder := some folders }
      if created then handle.mount answers else handle.fileScanOut
    else handle
  else handle.mount answers

/-- The handle after the `memset` of `rkipc_storage_manager_init`. -/
def zero : ScanHandle where
  mountStatus := .unmounted
  totalSize := 0
  freeSize := 0
  folder := none
  folderNum := 0
  fileScanSignal := false
  monitor := .absent
  lost := []

end ScanHandle

inductive HandleThread
  | scan
  | monitor
  | message
  | listener
deriving DecidableEq

/-- What the calls of `rkipc_storage_manager_init` return.  `scan` are the
answers to the scan thread when it has ended before the initialiser returns. -/
structure InitAnswers where
  inited : Bool
  malloc : Bool
  paraInit : Bool
  mountDev : Bool
  scanCreate : Bool
  messageCreate : Bool
  listenerCreate : Bool
  scan : Option ScanAnswers

/-- The return value, whether the handle was freed, and the threads that run on
it. -/
structure InitResult where
  returns : Int
  freed : Bool
  running : List HandleThread
deriving DecidableEq

def scanRunning (attr : ScanAttr) : Option ScanAnswers → List HandleThread
  | none => [.scan]
  | some answers =>
      if (ScanHandle.zero.fileScanThread attr answers).monitor = .running then
        [.monitor]
      else []

/-- `rkipc_storage_auto_delete_init`; its return value is only logged. -/
def autoDeleteInit (attr : ScanAttr) (answers : InitAnswers) :
    List HandleThread :=
  if answers.mountDev then
    if answers.scanCreate then scanRunning attr answers.scan else []
  else []

/-- `rkipc_storage_listen_msg_init` with its return value. -/
def listenMsgInit (answers : InitAnswers) : List HandleThread × Int :=
  if answers.messageCreate then
    if answers.listenerCreate then ([.message, .listener], 0)
    else ([.message], -1)
  else ([], -1)

def managerInit (attr : ScanAttr) (answers : InitAnswers) : InitResult :=
  if answers.inited then ⟨-1, false, []⟩
  else if answers.malloc then
    if answers.paraInit then
      let running := autoDeleteInit attr answers
      let (listening, ret) := listenMsgInit answers
      if ret = 0 then ⟨0, false, running ++ listening⟩
      else ⟨-1, true, running ++ listening⟩
    else ⟨-1, true, []⟩
  else ⟨-1, false, []⟩

end Rkipc.Storage
