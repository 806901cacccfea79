import Mathlib.Algebra.GroupWithZero.Nat
import Mathlib.Data.List.Sort

namespace Rkipc.Storage

/-! The file index of one recording folder.  A chain of `rkipc_str_file` nodes
is the list of its files, and a pointer to a node is the file it holds. -/

/-- A C string that fits `char filename[RKIPC_MAX_FILE_PATH_LEN]`. -/
structure FileName where
  bytes : List UInt8
  fits : bytes.length < 256
  nulFree : 0 ∉ bytes
deriving DecidableEq

namespace FileName

/-- `snprintf(filename, RKIPC_MAX_FILE_PATH_LEN, "%s", name)`. -/
def snprintf (name : FileName) : FileName where
  bytes := name.bytes.take 255
  fits := by
    have short := List.length_take_le 255 name.bytes
    omega
  nulFree := fun member => name.nulFree (List.mem_of_mem_take member)

@[simp] theorem snprintf_eq (name : FileName) : name.snprintf = name := by
  have whole : name.bytes.take 255 = name.bytes :=
    List.take_of_length_le (Nat.le_of_lt_succ name.fits)
  cases name
  simpa only [snprintf, FileName.mk.injEq] using whole

def dot : FileName := ⟨[46], by decide, by decide⟩

def dotDot : FileName := ⟨[46, 46], by decide, by decide⟩

end FileName

/-- The file types that a directory entry and a `struct stat` tell apart. -/
inductive FileKind
  | regular
  | directory
  | other
deriving DecidableEq

structure Stat where
  kind : FileKind
  stSize : Nat
  stBlocks : Nat
  stMtime : Int
deriving DecidableEq

structure File where
  filename : FileName
  time : Int
  size : Nat
  space : Nat
deriving DecidableEq

/-- The node that `rkipc_storage_file_list_add` fills in. -/
def File.ofStat (filename : FileName) (statbuf : Stat) : File where
  filename := filename
  time := statbuf.stMtime
  size := statbuf.stSize
  space := statbuf.stBlocks <<< 9

structure Folder where
  cpath : String
  wd : Int
  fileNum : Nat
  totalSize : Nat
  totalSpace : Nat
  fileListFirst : List File
  fileListLast : Option File
deriving DecidableEq

structure FolderAttr where
  folderPath : String
  numLimit : Bool
  limit : Int
deriving DecidableEq

namespace Folder

/-- The index after the `memset` of `rkipc_storage_file_scan_thread`. -/
def empty (cpath : String) (wd : Int) : Folder where
  cpath := cpath
  wd := wd
  fileNum := 0
  totalSize := 0
  totalSpace := 0
  fileListFirst := []
  fileListLast := none

def checkFrom (filename : FileName) : List File → Int
  | [] => 0
  | tmp :: next => if tmp.filename = filename then 1 else checkFrom filename next

def fileListCheck (folder : Folder) (filename : FileName) : Int :=
  checkFrom filename folder.fileListFirst

/-- The walk of an insertion behind `tmp`, which is newer than the new file.
The flag says that the new file became the last one. -/
def insertBehind (file tmp : File) : List File → List File × Bool
  | [] => ([tmp, file], true)
  | next :: rest =>
      if file.time ≥ next.time then (tmp :: file :: next :: rest, false)
      else
        let (chain, appended) := insertBehind file next rest
        (tmp :: chain, appended)

/-- `malloc` is the outcome of the allocation of the node. -/
def fileListAdd (folder : Folder) (filename : FileName) (statbuf : Stat)
    (malloc : Bool) : Folder × Int :=
  if malloc then
    let file := File.ofStat filename statbuf
    let (chain, last) : List File × Option File :=
      match folder.fileListFirst with
      | tmp :: rest =>
          if file.time ≥ tmp.time then
            (file :: tmp :: rest, folder.fileListLast)
          else
            let (chain, appended) := insertBehind file tmp rest
            (chain, if appended then some file else folder.fileListLast)
      | [] => ([file], some file)
    ({ folder with
      fileListFirst := chain
      fileListLast := last
      totalSize := folder.totalSize + file.size
      totalSpace := folder.totalSpace + file.space
      fileNum := folder.fileNum + 1 }, 0)
  else (folder, -1)

/-- The jumps back to `again` while the first node carries the name. -/
def dropHeads (filename : FileName) :
    List File → Option File → List File × Option File
  | [], last => ([], last)
  | tmp :: rest, last =>
      if tmp.filename = filename then
        dropHeads filename rest (if rest = [] then none else last)
      else (tmp :: rest, last)

/-- The local counters of `rkipc_storage_file_list_del`. -/
structure Tally where
  fileNum : Nat
  totalSize : Nat
  totalSpace : Nat

def Tally.count (tally : Tally) (tmp : File) : Tally where
  fileNum := tally.fileNum + 1
  totalSize := tally.totalSize + tmp.size
  totalSpace := tally.totalSpace + tmp.space

/-- The walk of a deletion from `tmp`.  Behind an unlinked node it goes on at
its successor without comparing the successor's name. -/
def sweep (filename : FileName) (tmp : File) :
    List File → Tally → List File × Option File × Tally
  | [], tally => ([tmp], some tmp, tally.count tmp)
  | next :: rest, tally =>
      if next.filename = filename then
        match rest with
        | [] => ([tmp], some tmp, tally.count tmp)
        | next :: rest =>
            let (chain, last, tally) :=
              sweep filename next rest (tally.count tmp)
            (tmp :: chain, last, tally)
      else
        let (chain, last, tally) := sweep filename next rest (tally.count tmp)
        (tmp :: chain, last, tally)

def fileListDel (folder : Folder) (filename : FileName) : Folder :=
  match dropHeads filename folder.fileListFirst folder.fileListLast with
  | ([], last) =>
      { folder with
        fileListFirst := []
        fileListLast := last
        fileNum := 0
        totalSize := 0
        totalSpace := 0 }
  | (tmp :: rest, _) =>
      let (chain, last, tally) := sweep filename tmp rest ⟨0, 0, 0⟩
      { folder with
        fileListFirst := chain
        fileListLast := last
        fileNum := tally.fileNum
        totalSize := tally.totalSize
        totalSpace := tally.totalSpace }

/-- One `readdir` result, with what `lstat` says of it and the outcome of the
allocation of its node. -/
structure Dirent where
  dName : FileName
  dType : FileKind
  lstat : Option Stat
  malloc : Bool

/-- A directory stream yields every name once. -/
structure DirStream where
  entries : List Dirent
  distinct : (entries.map Dirent.dName).Nodup

/-- `while (folder->file_list_last)` of `rkipc_storage_read_file_list`, for at
most `fuel` passes. -/
def clearList : Nat → Folder → Option Folder
  | 0, _ => none
  | fuel + 1, folder =>
      match folder.fileListLast with
      | none => some folder
      | some last => clearList fuel (folder.fileListDel last.filename.snprintf)

def readEntries (limit : Int) :
    (fileCount : Int) → List Dirent → Folder → Folder
  | _, [], folder => folder
  | fileCount, ptr :: rest, folder =>
      if fileCount > limit + 300 then folder
      else if ptr.dName = .dot ∨ ptr.dName = .dotDot then
        readEntries limit (fileCount + 1) rest folder
      else if ptr.dType = .regular then
        match ptr.lstat with
        | none => readEntries limit (fileCount + 1) rest folder
        | some statbuf =>
            readEntries limit (fileCount + 1) rest
              (folder.fileListAdd ptr.dName statbuf ptr.malloc).1
      else readEntries limit (fileCount + 1) rest folder

/-- `dir` is the outcome of `opendir`.  A pass of the clearing loop takes at
least one node away, so the fuel is enough. -/
def readFileList (folder : Folder) (attr : FolderAttr)
    (dir : Option DirStream) : Option (Folder × Int) :=
  match dir with
  | none => some (folder, -1)
  | some dir =>
      (clearList (folder.fileListFirst.length + 1) folder).map fun folder =>
        (readEntries attr.limit 0 dir.entries folder, 0)

/-- The monitor adds a file that the index does not have yet. -/
def guardedAdd (folder : Folder) (filename : FileName) (statbuf : Stat)
    (malloc : Bool) : Folder :=
  if folder.fileListCheck filename = 0 then
    (folder.fileListAdd filename statbuf malloc).1
  else folder

inductive Operation
  | readFileList (attr : FolderAttr) (dir : Option DirStream)
  | guardedAdd (filename : FileName) (statbuf : Stat) (malloc : Bool)
  | fileListDel (filename : FileName)

def apply (folder : Folder) : Operation → Option Folder
  | .readFileList attr dir => (folder.readFileList attr dir).map Prod.fst
  | .guardedAdd filename statbuf malloc =>
      some (folder.guardedAdd filename statbuf malloc)
  | .fileListDel filename => some (folder.fileListDel filename)

end Folder

end Rkipc.Storage
