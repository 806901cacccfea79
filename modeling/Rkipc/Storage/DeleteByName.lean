import Rkipc.Storage.FolderIndex

namespace Rkipc.Storage

/-! The deletion by name on lists in which a name may stand more than once. -/

namespace Folder

variable {filename : FileName} {tmp : File} {rest : List File} {tally : Tally} {folder : Folder}

/-- No node carries the name, the others stand in their order, and the fields describe the
list. -/
structure Deleted (filename : FileName) (before after : Folder) : Prop where
  files : after.fileListFirst = without filename before.fileListFirst
  last : after.fileListLast = after.fileListFirst.getLast?
  fileNum : after.fileNum = after.fileListFirst.length
  totalSize : after.totalSize = (after.fileListFirst.map File.size).sum
  totalSpace : after.totalSpace = (after.fileListFirst.map File.space).sum

/-- No two neighbours carry the name. -/
def Apart (filename : FileName) (files : List File) : Prop :=
  files.IsChain fun first second => ¬ (first.filename = filename ∧ second.filename = filename)

/-- The files behind those at the head that carry the name. -/
def behindHeads (filename : FileName) (files : List File) : List File :=
  files.dropWhile fun file => file.filename = filename

theorem dropHeads_eq (filename : FileName) (files : List File) (last : Option File) :
    (dropHeads filename files last).1 = behindHeads filename files := by
  induction files generalizing last with
  | nil => rfl
  | cons tmp rest induction =>
      rw [dropHeads, behindHeads, List.dropWhile_cons]
      by_cases same : tmp.filename = filename
      · rw [if_pos same, if_pos (decide_eq_true same), induction, behindHeads]
      · rw [if_neg same, if_neg (by simpa using same)]

theorem sweep_head (filename : FileName) (tmp : File) (rest : List File) (tally : Tally) :
    ∃ chain, (sweep filename tmp rest tally).1 = tmp :: chain := by
  fun_cases sweep filename tmp rest tally with
  | case1 => exact ⟨_, rfl⟩
  | case2 => exact ⟨_, rfl⟩
  | case3 => exact ⟨_, rfl⟩
  | case4 => exact ⟨_, rfl⟩

theorem sweep_eq_without_iff (kept : tmp.filename ≠ filename) :
    (sweep filename tmp rest tally).1 = without filename (tmp :: rest) ↔
      Apart filename (tmp :: rest) := by
  fun_induction sweep filename tmp rest tally with
  | case1 tmp tally => simp [without, kept, Apart]
  | case2 tmp next tally same => simp [without, kept, same, Apart]
  | case3 tmp next tally same second rest chain last after result induction =>
      have shorter : without filename (tmp :: next :: second :: rest) =
          tmp :: without filename (second :: rest) := by
        simp [without, kept, same]
      have apart : Apart filename (tmp :: next :: second :: rest) ↔
          second.filename ≠ filename ∧ Apart filename (second :: rest) := by
        simp [Apart, kept, same]
      rw [shorter, List.cons_inj_right, apart]
      by_cases again : second.filename = filename
      · refine iff_of_false ?_ fun both => both.1 again
        intro isChain
        obtain ⟨others, isHead⟩ := sweep_head filename second rest (tally.count tmp)
        rw [result] at isHead
        have isFirst : chain = second :: others := isHead
        have stays : second ∈ without filename (second :: rest) := by
          rw [← isChain, isFirst]
          exact List.mem_cons_self
        exact (mem_without.mp stays).2 again
      · rw [result] at induction
        rw [induction again]
        exact ⟨fun rest => ⟨again, rest⟩, And.right⟩
  | case4 tmp next rest tally differs chain last after result induction =>
      have shorter : without filename (tmp :: next :: rest) =
          tmp :: without filename (next :: rest) := by
        simp [without, kept]
      have apart : Apart filename (tmp :: next :: rest) ↔ Apart filename (next :: rest) := by
        simp [Apart, kept]
      rw [result] at induction
      rw [shorter, List.cons_inj_right, apart]
      exact induction differs

theorem dropHeads_emptied {files : List File} {last : Option File} (nonempty : files ≠ [])
    (emptied : (dropHeads filename files last).1 = []) :
    (dropHeads filename files last).2 = none := by
  induction files generalizing last with
  | nil => exact absurd rfl nonempty
  | cons tmp rest induction =>
      rw [dropHeads] at emptied ⊢
      split at emptied
      next same =>
        rw [if_pos same]
        cases rest with
        | nil => rfl
        | cons next rest => exact induction (List.cons_ne_nil next rest) emptied
      next differs => cases emptied

/-- Of neighbours with the name one is left, behind the head of the list. -/
theorem fileListDel_deletes_iff (folder : Folder) (filename : FileName) :
    Deleted filename folder (folder.fileListDel filename) ↔
      Apart filename (behindHeads filename folder.fileListFirst) ∧
        (folder.fileListFirst = [] → folder.fileListLast = none) := by
  have heads := dropHeads_eq filename folder.fileListFirst folder.fileListLast
  have same := without_dropHeads filename folder.fileListFirst folder.fileListLast
  unfold fileListDel
  split
  next last dropped =>
    rw [dropped] at heads same
    have isLast : last = none ↔ (folder.fileListFirst = [] → folder.fileListLast = none) := by
      by_cases isEmpty : folder.fileListFirst = []
      · rw [isEmpty] at dropped
        cases dropped
        exact ⟨fun isNone _ => isNone, fun isNone => isNone isEmpty⟩
      · have isNone := dropHeads_emptied isEmpty (by rw [dropped])
        rw [dropped] at isNone
        exact iff_of_true isNone fun empty => absurd empty isEmpty
    rw [← heads, ← isLast]
    constructor
    · intro deleted
      exact ⟨.nil, deleted.last⟩
    · rintro ⟨-, isNone⟩
      exact ⟨same, isNone, rfl, rfl, rfl⟩
  next tmp rest last dropped =>
    have kept : tmp.filename ≠ filename := dropHeads_head filename (by rw [dropped])
    have swept := sweep_swept filename tmp rest ⟨0, 0, 0⟩
    have nonempty : folder.fileListFirst ≠ [] := by
      intro isEmpty
      rw [isEmpty] at dropped
      cases dropped
    rw [dropped] at heads same
    rw [← heads, ← sweep_eq_without_iff kept, same]
    constructor
    · intro deleted
      exact ⟨deleted.files, fun isEmpty => absurd isEmpty nonempty⟩
    · rintro ⟨files, -⟩
      exact ⟨files, swept.last, by simpa using swept.fileNum, by simpa using swept.totalSize,
        by simpa using swept.totalSpace⟩

def twiceName : FileName := ⟨[120], by decide, by decide⟩

def keptName : FileName := ⟨[107], by decide, by decide⟩

def twice : Folder where
  cpath := "/mnt/sdcard/video0"
  wd := 1
  fileNum := 3
  totalSize := 3
  totalSpace := 3
  fileListFirst := [⟨keptName, 2, 1, 1⟩, ⟨twiceName, 1, 1, 1⟩, ⟨twiceName, 0, 1, 1⟩]
  fileListLast := some ⟨twiceName, 0, 1, 1⟩

/-- The second of the two is left. -/
theorem second_left :
    ¬ ∀ (folder : Folder) (filename : FileName),
      folder.fileListLast = folder.fileListFirst.getLast? →
        Deleted filename folder (folder.fileListDel filename) := by
  intro general
  have files := (general twice twiceName rfl).files
  exact absurd files (by decide)

end Folder

end Rkipc.Storage
