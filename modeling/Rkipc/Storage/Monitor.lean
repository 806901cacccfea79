import Mathlib.Data.List.AList
import Rkipc.Storage.FolderIndex
import Rkipc.Transition.System

namespace Rkipc.Storage

open Folder Transition

/-! The file monitor of one watched folder: what happens in the directory, the
`inotify` events of it, and their handling. -/

inductive MountStatus
  | unmounted
  | notFormatted
  | formatErr
  | scanning
  | mounted
deriving DecidableEq

/-- What stands under a name.  `earlier` is a ghost: the states that files of
this name have had since there is one. -/
structure Present where
  stat : Stat
  earlier : List Stat

abbrev Directory := AList fun _ : FileName => Present

namespace Directory

def lstat (directory : Directory) (name : FileName) : Option Stat :=
  (directory.lookup name).map Present.stat

def write (directory : Directory) (name : FileName) (stat : Stat) : Directory :=
  directory.insert name
    ⟨stat, match directory.lookup name with
      | none => []
      | some present => present.stat :: present.earlier⟩

/-- The index entries of the non-empty regular files. -/
def current (directory : Directory) : List File :=
  (directory.entries.filter fun entry =>
    entry.2.stat.kind = .regular ∧ entry.2.stat.stSize ≠ 0).map
    fun entry => File.ofStat entry.1 entry.2.stat

end Directory

/-- The kernel sets one of these bits of `mask` in an event. -/
inductive Mask
  | create
  | movedTo
  | delete
  | movedFrom
  | closeWrite
  | unmount
deriving DecidableEq

/-- `name` is empty when `len` is 0. -/
structure Event where
  wd : Int
  mask : Mask
  name : Option FileName
deriving DecidableEq

/-- What happens in a directory, each with its events. -/
inductive FileOperation
  | create (name : FileName) (stat : Stat)
  | rewrite (name : FileName) (stat : Stat)
  | moveIn (name : FileName) (stat : Stat)
  | moveOut (name : FileName)
  | delete (name : FileName)
  | makeNode (name : FileName) (stat : Stat)

namespace Directory

def perform (directory : Directory) :
    FileOperation → Option (Directory × List (Mask × FileName))
  | .create name stat =>
      if directory.lstat name = none ∧ stat.kind = .regular then
        some (directory.write name stat, [(.create, name), (.closeWrite, name)])
      else none
  | .rewrite name stat =>
      if (directory.lstat name).map Stat.kind = some .regular ∧
          stat.kind = .regular then
        some (directory.write name stat, [(.closeWrite, name)])
      else none
  | .moveIn name stat =>
      if (directory.lstat name).map Stat.kind ≠ some .directory then
        some (directory.write name stat, [(.movedTo, name)])
      else none
  | .moveOut name =>
      if (directory.lstat name).isSome then
        some (directory.erase name, [(.movedFrom, name)])
      else none
  | .delete name =>
      if (directory.lstat name).isSome then
        some (directory.erase name, [(.delete, name)])
      else none
  | .makeNode name stat =>
      if directory.lstat name = none ∧ stat.kind ≠ .regular then
        some (directory.write name stat, [(.create, name)])
      else none

end Directory

/-- The body of the loop over the folders in
`rkipc_storage_file_monitor_thread`, for a folder that the event belongs to.
The flag says that the file is to be removed. -/
def Folder.monitor (folder : Folder) (mask : Mask) (name : FileName)
    (lstat : Option Stat) (malloc : Bool) : Folder × Bool :=
  match mask with
  | .movedTo =>
      match lstat with
      | none => (folder, false)
      | some statbuf => (folder.guardedAdd name statbuf malloc, false)
  | .delete | .movedFrom => (folder.fileListDel name, false)
  | .closeWrite =>
      match lstat with
      | none => (folder, false)
      | some statbuf =>
          if statbuf.stSize = 0 then (folder, true)
          else (folder.guardedAdd name statbuf malloc, false)
  | .create | .unmount => (folder, false)

structure Watched where
  mountStatus : MountStatus
  folder : Folder
  directory : Directory
  events : List Event

/-- `malloc` and `remove` are the outcomes of these calls. -/
inductive Watched.Label
  | operation (operation : FileOperation)
  | elsewhere (event : Event)
  | handle (malloc remove : Bool)

namespace Watched

def perform (watched : Watched) (operation : FileOperation) : Option Watched :=
  (watched.directory.perform operation).map fun (directory, events) =>
    { watched with
      directory := directory
      events := watched.events ++
        events.map fun (mask, name) => ⟨watched.folder.wd, mask, some name⟩ }

def handleOwn (watched : Watched) (mask : Mask) (name : FileName)
    (malloc remove : Bool) : Watched :=
  let (folder, removes) := watched.folder.monitor mask name
    (watched.directory.lstat name) malloc
  if removes ∧ remove then
    { watched with
      folder := folder
      directory := watched.directory.erase name
      events := watched.events ++ [⟨watched.folder.wd, .delete, some name⟩] }
  else { watched with folder := folder }

def handle (watched : Watched) (malloc remove : Bool) : Option Watched :=
  match watched.events with
  | [] => none
  | event :: events =>
      let mountStatus :=
        if event.mask = .unmount then .unmounted else watched.mountStatus
      let taken := { watched with mountStatus, events }
      match event.name with
      | none => some taken
      | some name =>
          if event.wd = watched.folder.wd then
            some (taken.handleOwn event.mask name malloc remove)
          else some taken

def step (watched : Watched) : Label → Option Watched
  | .operation operation => watched.perform operation
  | .elsewhere event =>
      if event.wd ≠ watched.folder.wd then
        some { watched with events := watched.events ++ [event] }
      else none
  | .handle malloc remove => watched.handle malloc remove

/-- `stream` is what `readdir`, `lstat` and `malloc` give for a directory. -/
structure Reads (stream : DirStream) (directory : Directory) : Prop where
  entries : ∀ ptr ∈ stream.entries, ptr.dName ≠ .dot → ptr.dName ≠ .dotDot →
    ∃ present, directory.lookup ptr.dName = some present ∧
      ptr.dType = present.stat.kind ∧ ptr.lstat = some present.stat ∧
      ptr.malloc = true
  names : ∀ name ∈ directory.keys, name ≠ .dot ∧ name ≠ .dotDot ∧
    name ∈ stream.entries.map Dirent.dName

/-- The folder when the watch is set, after the scan. -/
def scan (cpath : String) (wd : Int) (attr : FolderAttr) (stream : DirStream)
    (directory : Directory) : Option Watched :=
  ((Folder.empty cpath wd).readFileList attr (some stream)).map
    fun (folder, _) => ⟨.mounted, folder, directory, []⟩

def system : System Watched Label where
  initial watched := ∃ cpath wd attr stream directory,
    Reads stream directory ∧
      scan cpath wd attr stream directory = some watched
  step := step

end Watched

end Rkipc.Storage
