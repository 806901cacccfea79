import Rkipc.Storage.FolderIndex

namespace Rkipc.Storage

/-! The listing of a folder for a client. -/

/-- `size` is a `long` of 32 bits. -/
structure FileInfo where
  filename : FileName
  size : Int
  time : Int
deriving DecidableEq

def FileInfo.zero : FileInfo := ⟨⟨[], by decide, by decide⟩, 0, 0⟩

/-- What the loops copy of a node, whose size is an `off_t` of 64 bits. -/
def File.info (file : File) : FileInfo :=
  ⟨file.filename, Int.bmod file.size (2 ^ 32), file.time⟩

/-- The name, the size and the time of a file as the index has them. -/
def File.entry (file : File) : FileInfo := ⟨file.filename, file.size, file.time⟩

def listAscending : Int := 0

/-- The loop that fills the array from its start. -/
def fillUp (array : List FileInfo) (j : Nat) : List File → List FileInfo
  | [] => array
  | tmp :: next => if j < array.length then fillUp (array.set j tmp.info) (j + 1) next else array

/-- The loop that fills the array from its end, with `j + 1`. -/
def fillDown (array : List FileInfo) : Nat → List File → List FileInfo
  | 0, _ => array
  | _, [] => array
  | j + 1, tmp :: next => fillDown (array.set j tmp.info) j next

/-- `malloc` is the outcome of the allocation of the array. -/
def rkipcStorageGetFileList (folders : List Folder) (path : String) (sort : Int) (malloc : Bool) :
    Option (List FileInfo) :=
  (folders.find? fun folder => folder.cpath = path).bind fun folder =>
    if malloc = false then none
    else
      let file := List.replicate folder.fileNum .zero
      if sort = listAscending then some (fillUp file 0 folder.fileListFirst)
      else some (fillDown file folder.fileNum folder.fileListFirst)

section Filled

variable {files : List File} {folders : List Folder} {folder : Folder} {path : String}

theorem fillUp_behind (before after : List FileInfo) (same : after.length = files.length) :
    fillUp (before ++ after) before.length files = before ++ files.map File.info := by
  induction files generalizing before after with
  | nil =>
      rw [List.length_nil, List.length_eq_zero_iff] at same
      rw [same]
      rfl
  | cons tmp next induction =>
      obtain ⟨first, rest, rfl⟩ := List.exists_cons_of_length_eq_add_one same
      have inside : before.length < (before ++ first :: rest).length := by simp
      have filled : (before ++ first :: rest).set before.length tmp.info =
          (before ++ [tmp.info]) ++ rest := by
        rw [List.set_append_right _ _ (Nat.le_refl _), Nat.sub_self, List.append_assoc]
        rfl
      have going := induction (before ++ [tmp.info]) rest (by simpa using same)
      rw [List.length_append, List.length_singleton] at going
      rw [fillUp, if_pos inside, filled, going, List.append_assoc]
      rfl

theorem fillDown_before (before after : List FileInfo) (same : before.length = files.length) :
    fillDown (before ++ after) before.length files = (files.map File.info).reverse ++ after := by
  induction files generalizing before after with
  | nil =>
      rw [List.length_nil, List.length_eq_zero_iff] at same
      rw [same]
      rfl
  | cons tmp next induction =>
      obtain ⟨front, last, rfl⟩ : ∃ front last, before = front ++ [last] := by
        have nonempty : before ≠ [] := by
          intro isEmpty
          rw [isEmpty] at same
          cases same
        exact ⟨_, _, (List.dropLast_append_getLast nonempty).symm⟩
      have filled : (front ++ [last] ++ after).set front.length tmp.info =
          front ++ (tmp.info :: after) := by
        rw [List.append_assoc, List.set_append_right _ _ (Nat.le_refl _), Nat.sub_self]
        rfl
      rw [List.length_append, List.length_singleton, fillDown, filled,
        induction front (tmp.info :: after) (by simpa using same), List.map_cons,
        List.reverse_cons, List.append_assoc]
      rfl

/-- The array of an ascending listing is filled with the newest file first. -/
theorem listed_ascending (indexed : folder.Indexed)
    (found : folders.find? (fun folder => folder.cpath = path) = some folder) :
    rkipcStorageGetFileList folders path listAscending true =
      some (folder.fileListFirst.map File.info) := by
  have same : (List.replicate folder.fileNum FileInfo.zero).length =
      folder.fileListFirst.length := by
    rw [List.length_replicate, indexed.fileNum]
  have filled := fillUp_behind [] (List.replicate folder.fileNum .zero) same
  rw [rkipcStorageGetFileList, found, Option.bind_some]
  exact congrArg some filled

theorem listed_otherwise {sort : Int} (other : sort ≠ listAscending) (indexed : folder.Indexed)
    (found : folders.find? (fun folder => folder.cpath = path) = some folder) :
    rkipcStorageGetFileList folders path sort true =
      some (folder.fileListFirst.map File.info).reverse := by
  have same : (List.replicate folder.fileNum FileInfo.zero).length =
      folder.fileListFirst.length := by
    rw [List.length_replicate, indexed.fileNum]
  have filled := fillDown_before (List.replicate folder.fileNum .zero) [] same
  rw [List.append_nil, List.append_nil, List.length_replicate] at filled
  rw [rkipcStorageGetFileList, found, Option.bind_some, if_neg (by decide)]
  exact (if_neg other).trans (congrArg some filled)

/-- All files in the order of their times, and the reversed list for any other value. -/
def Listed (folders : List Folder) (path : String) (folder : Folder) : Prop :=
  ∃ files, rkipcStorageGetFileList folders path listAscending true = some files ∧
    files.length = folder.fileNum ∧
    files.Pairwise (fun first second => first.time ≤ second.time) ∧
    files.Perm (folder.fileListFirst.map File.entry) ∧
    ∀ sort ≠ listAscending, rkipcStorageGetFileList folders path sort true = some files.reverse ∧
      files.reverse.Perm (folder.fileListFirst.map File.entry)

theorem info_size_lt (file : File) : file.info.size < (2 ^ 31 : Nat) := by
  simp only [File.info, Int.bmod_def]
  omega

theorem info_eq_entry {file : File} (fits : file.size < 2 ^ 31) : file.info = file.entry := by
  have same : Int.bmod file.size (2 ^ 32) = file.size := by
    simp only [Int.bmod_def]
    omega
  rw [File.info, File.entry, same]

/-- The copies are the files of the index when the `long` takes every size. -/
theorem info_perm_iff :
    (files.map File.info).Perm (files.map File.entry) ↔ ∀ file ∈ files, file.size < 2 ^ 31 := by
  constructor
  · intro perm file member
    obtain ⟨copied, -, same⟩ :=
      List.mem_map.mp (perm.mem_iff.mpr (List.mem_map_of_mem (f := File.entry) member))
    have below := info_size_lt copied
    rw [same] at below
    exact Int.ofNat_lt.mp below
  · intro fits
    rw [List.map_congr_left fun file member => info_eq_entry (fits file member)]

/-- The index is kept newest first, so an ascending listing is one of equal times, and a size
of 2 GiB has no place in it. -/
theorem listed_iff (indexed : folder.Indexed)
    (found : folders.find? (fun folder => folder.cpath = path) = some folder) :
    Listed folders path folder ↔
      (folder.fileListFirst.Pairwise fun first second => first.time = second.time) ∧
        ∀ file ∈ folder.fileListFirst, file.size < 2 ^ 31 := by
  constructor
  · rintro ⟨files, isListed, -, ascending, perm, -⟩
    rw [listed_ascending indexed found] at isListed
    rw [← Option.some.inj isListed] at ascending perm
    rw [List.pairwise_map] at ascending
    refine ⟨?_, info_perm_iff.mp perm⟩
    exact ascending.imp₂ (fun first second rising falling => Int.le_antisymm rising falling)
      indexed.sorted
  · rintro ⟨equal, fits⟩
    have perm := info_perm_iff.mpr fits
    refine ⟨_, listed_ascending indexed found, ?_, ?_, perm, fun sort other =>
      ⟨listed_otherwise other indexed found, (List.reverse_perm _).trans perm⟩⟩
    · rw [List.length_map, indexed.fileNum]
    · rw [List.pairwise_map]
      exact equal.imp fun same => Int.le_of_eq same

end Filled

theorem listed_iff_two :
    Listed [twoRecordings] "/mnt/sdcard/video0" twoRecordings ↔
      (twoRecordings.fileListFirst.Pairwise fun first second => first.time = second.time) ∧
        ∀ file ∈ twoRecordings.fileListFirst, file.size < 2 ^ 31 :=
  listed_iff twoRecordings_indexed rfl

/-- The later recording comes first. -/
theorem later_first :
    ¬ ∀ (folders : List Folder) (path : String) (folder : Folder), folder.Indexed →
      folders.find? (fun folder => folder.cpath = path) = some folder →
        Listed folders path folder := by
  intro general
  obtain ⟨files, isListed, -, ascending, -⟩ :=
    general [twoRecordings] "/mnt/sdcard/video0" twoRecordings twoRecordings_indexed rfl
  rw [listed_ascending twoRecordings_indexed rfl] at isListed
  rw [← Option.some.inj isListed] at ascending
  exact absurd ascending (by decide)

end Rkipc.Storage
