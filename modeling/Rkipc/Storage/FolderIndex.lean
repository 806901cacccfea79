import Rkipc.Storage.Folder

namespace Rkipc.Storage

/-! What the operations on a folder keep of its index. -/

namespace Folder

/-- The six fields describe one list of files, newest first. -/
structure Indexed (folder : Folder) : Prop where
  sorted : folder.fileListFirst.Pairwise fun left right =>
    left.time ≥ right.time
  last : folder.fileListLast = folder.fileListFirst.getLast?
  fileNum : folder.fileNum = folder.fileListFirst.length
  totalSize : folder.totalSize = (folder.fileListFirst.map File.size).sum
  totalSpace : folder.totalSpace = (folder.fileListFirst.map File.space).sum
  distinct : (folder.fileListFirst.map File.filename).Nodup

theorem Indexed.last_eq_none_iff {folder : Folder} (indexed : folder.Indexed) :
    folder.fileListLast = none ↔ folder.fileListFirst = [] := by
  rw [indexed.last, List.getLast?_eq_none_iff]

theorem indexed_empty (cpath : String) (wd : Int) : (empty cpath wd).Indexed where
  sorted := .nil
  last := rfl
  fileNum := rfl
  totalSize := rfl
  totalSpace := rfl
  distinct := .nil

/-! Insertion. -/

theorem insertBehind_perm (file tmp : File) (rest : List File) :
    (insertBehind file tmp rest).1.Perm (file :: tmp :: rest) := by
  induction rest generalizing tmp with
  | nil => exact .swap file tmp []
  | cons next rest induction =>
      simp only [insertBehind]
      split
      next => exact .swap file tmp _
      next => exact ((induction next).cons tmp).trans (.swap file tmp _)

theorem insertBehind_head (file tmp : File) (rest : List File) :
    ∃ chain, (insertBehind file tmp rest).1 = tmp :: chain := by
  cases rest with
  | nil => exact ⟨_, rfl⟩
  | cons next rest =>
      simp only [insertBehind]
      split <;> exact ⟨_, rfl⟩

theorem insertBehind_sorted {file tmp : File} {rest : List File}
    (sorted : (tmp :: rest).Pairwise fun left right => left.time ≥ right.time)
    (older : tmp.time ≥ file.time) :
    (insertBehind file tmp rest).1.Pairwise fun left right =>
      left.time ≥ right.time := by
  induction rest generalizing tmp with
  | nil => simpa [insertBehind] using older
  | cons next rest induction =>
      obtain ⟨newest, sortedRest⟩ := List.pairwise_cons.mp sorted
      simp only [insertBehind]
      split
      next newer =>
        refine .cons ?_ (.cons ?_ sortedRest)
        · intro other member
          rcases List.mem_cons.mp member with rfl | member
          · exact older
          · exact newest other member
        · intro other member
          rcases List.mem_cons.mp member with rfl | member
          · exact newer
          · exact Int.le_trans
              ((List.pairwise_cons.mp sortedRest).1 other member) newer
      next notNewer =>
        refine .cons ?_ (induction sortedRest (by omega))
        intro other member
        rcases List.mem_cons.mp
          ((insertBehind_perm file next rest).mem_iff.mp member)
          with rfl | member
        · exact older
        · exact newest other member

theorem insertBehind_last (file tmp : File) (rest : List File) :
    (insertBehind file tmp rest).1.getLast? =
      if (insertBehind file tmp rest).2 then some file
      else (tmp :: rest).getLast? := by
  induction rest generalizing tmp with
  | nil => rfl
  | cons next rest induction =>
      simp only [insertBehind]
      split
      next => simp
      next =>
        obtain ⟨chain, isChain⟩ := insertBehind_head file next rest
        have unfolded := induction next
        simp only [isChain] at unfolded ⊢
        rw [List.getLast?_cons_cons, unfolded, List.getLast?_cons_cons]

theorem fileListAdd_perm (folder : Folder) (filename : FileName)
    (statbuf : Stat) :
    (folder.fileListAdd filename statbuf true).1.fileListFirst.Perm
      (File.ofStat filename statbuf :: folder.fileListFirst) := by
  simp only [fileListAdd, if_true]
  cases folder.fileListFirst with
  | nil => exact .refl _
  | cons tmp rest =>
      simp only
      split
      next => exact .refl _
      next => exact insertBehind_perm _ _ _

theorem Indexed.fileListAdd {folder : Folder} (indexed : folder.Indexed)
    {filename : FileName} (statbuf : Stat) (malloc : Bool)
    (absent : filename ∉ folder.fileListFirst.map File.filename) :
    (folder.fileListAdd filename statbuf malloc).1.Indexed := by
  cases malloc with
  | false => exact indexed
  | true =>
      have permuted := fileListAdd_perm folder filename statbuf
      have count := permuted.length_eq
      have sizes := (permuted.map File.size).sum_nat
      have spaces := (permuted.map File.space).sum_nat
      have names := (permuted.map File.filename).nodup_iff.mpr
        (List.nodup_cons.mpr ⟨absent, indexed.distinct⟩)
      refine ⟨?_, ?_, ?_, ?_, ?_, names⟩
      · simp only [Folder.fileListAdd, if_true]
        cases chain : folder.fileListFirst with
        | nil => exact List.pairwise_singleton _ _
        | cons tmp rest =>
            have sorted := indexed.sorted
            rw [chain] at sorted
            simp only
            split
            next newer =>
              refine .cons ?_ sorted
              intro other member
              rcases List.mem_cons.mp member with rfl | member
              · exact newer
              · exact Int.le_trans
                  ((List.pairwise_cons.mp sorted).1 other member) newer
            next notNewer =>
              exact insertBehind_sorted sorted (by omega)
      · have last := indexed.last
        simp only [Folder.fileListAdd, if_true]
        cases chain : folder.fileListFirst with
        | nil => rfl
        | cons tmp rest =>
            rw [chain] at last
            simp only
            split
            next => simpa using last
            next => rw [insertBehind_last, last]
      · rw [count, List.length_cons, ← indexed.fileNum]
        rfl
      · rw [sizes, List.map_cons, List.sum_cons, ← indexed.totalSize,
          Nat.add_comm]
        rfl
      · rw [spaces, List.map_cons, List.sum_cons, ← indexed.totalSpace,
          Nat.add_comm]
        rfl

/-! The lookup. -/

theorem fileListCheck_eq_zero_iff {folder : Folder} {filename : FileName} :
    folder.fileListCheck filename = 0 ↔
      filename ∉ folder.fileListFirst.map File.filename := by
  unfold fileListCheck
  induction folder.fileListFirst with
  | nil => simp [checkFrom]
  | cons tmp rest induction =>
      simp only [checkFrom, List.map_cons, List.mem_cons, not_or]
      split
      next same => simp [same]
      next differs => simp [induction, Ne.symm differs]

theorem Indexed.guardedAdd {folder : Folder} (indexed : folder.Indexed)
    (filename : FileName) (statbuf : Stat) (malloc : Bool) :
    (folder.guardedAdd filename statbuf malloc).Indexed := by
  unfold Folder.guardedAdd
  split
  next absent =>
    exact indexed.fileListAdd statbuf malloc
      (fileListCheck_eq_zero_iff.mp absent)
  next => exact indexed

theorem mem_guardedAdd {folder : Folder} {filename : FileName}
    {statbuf : Stat} {file : File} :
    file ∈ (folder.guardedAdd filename statbuf true).fileListFirst ↔
      file ∈ folder.fileListFirst ∨
        filename ∉ folder.fileListFirst.map File.filename ∧
          file = File.ofStat filename statbuf := by
  rw [← fileListCheck_eq_zero_iff]
  unfold Folder.guardedAdd
  split
  next absent =>
    rw [(fileListAdd_perm folder filename statbuf).mem_iff, List.mem_cons,
      or_comm]
    simp [absent]
  next present => simp [present]

theorem guardedAdd_path (folder : Folder) (filename : FileName)
    (statbuf : Stat) (malloc : Bool) :
    (folder.guardedAdd filename statbuf malloc).cpath = folder.cpath ∧
      (folder.guardedAdd filename statbuf malloc).wd = folder.wd := by
  cases malloc <;> unfold guardedAdd fileListAdd <;> split <;> exact ⟨rfl, rfl⟩

/-! Deletion. -/

/-- A list of files without the ones of one name. -/
def without (filename : FileName) (files : List File) : List File :=
  files.filter fun file => file.filename ≠ filename

theorem mem_without {filename : FileName} {files : List File} {file : File} :
    file ∈ without filename files ↔
      file ∈ files ∧ file.filename ≠ filename := by
  simp [without]

theorem dropHeads_fst_sublist (filename : FileName) (files : List File)
    (last : Option File) :
    (dropHeads filename files last).1.Sublist files := by
  induction files generalizing last with
  | nil => exact .slnil
  | cons tmp rest induction =>
      simp only [dropHeads]
      split
      next => exact (induction _).cons tmp
      next => exact .refl _

theorem dropHeads_head (filename : FileName) {files rest : List File}
    {last : Option File} {tmp : File}
    (dropped : (dropHeads filename files last).1 = tmp :: rest) :
    tmp.filename ≠ filename := by
  induction files generalizing last with
  | nil => contradiction
  | cons head files induction =>
      simp only [dropHeads] at dropped
      split at dropped
      next => exact induction dropped
      next differs =>
        cases dropped
        exact differs

theorem without_dropHeads (filename : FileName) (files : List File)
    (last : Option File) :
    without filename (dropHeads filename files last).1 =
      without filename files := by
  induction files generalizing last with
  | nil => rfl
  | cons tmp rest induction =>
      simp only [dropHeads]
      split
      next same =>
        rw [induction]
        simp [without, same]
      next => rfl

theorem dropHeads_last (filename : FileName) {files : List File}
    {last : Option File} (isLast : last = files.getLast?)
    (emptied : (dropHeads filename files last).1 = []) :
    (dropHeads filename files last).2 = none := by
  induction files generalizing last with
  | nil => simpa [dropHeads] using isLast
  | cons tmp rest induction =>
      simp only [dropHeads] at emptied ⊢
      split at emptied
      next same =>
        simp only [same, if_true]
        refine induction ?_ emptied
        cases rest with
        | nil => rfl
        | cons next rest => simpa using isLast
      next => contradiction

/-- The counters and the tail that a sweep leaves are those of its result, on
every list. -/
structure Swept (tally : Tally)
    (result : List File × Option File × Tally) : Prop where
  last : result.2.1 = result.1.getLast?
  nonempty : result.1 ≠ []
  fileNum : result.2.2.fileNum = tally.fileNum + result.1.length
  totalSize : result.2.2.totalSize =
    tally.totalSize + (result.1.map File.size).sum
  totalSpace : result.2.2.totalSpace =
    tally.totalSpace + (result.1.map File.space).sum

theorem Swept.single (tmp : File) (tally : Tally) :
    Swept tally ([tmp], some tmp, tally.count tmp) where
  last := rfl
  nonempty := List.cons_ne_nil _ _
  fileNum := rfl
  totalSize := by simp [Tally.count]
  totalSpace := by simp [Tally.count]

theorem Swept.cons {tmp : File} {tally : Tally}
    {result : List File × Option File × Tally}
    (swept : Swept (tally.count tmp) result) :
    Swept tally (tmp :: result.1, result.2.1, result.2.2) where
  last := by
    rw [swept.last]
    cases chain : result.1 with
    | nil => exact (swept.nonempty chain).elim
    | cons head rest => rfl
  nonempty := List.cons_ne_nil _ _
  fileNum := by
    simp only [swept.fileNum, Tally.count, List.length_cons]
    omega
  totalSize := by
    simp only [swept.totalSize, Tally.count, List.map_cons, List.sum_cons]
    omega
  totalSpace := by
    simp only [swept.totalSpace, Tally.count, List.map_cons, List.sum_cons]
    omega

theorem sweep_swept (filename : FileName) (tmp : File) (rest : List File)
    (tally : Tally) : Swept tally (sweep filename tmp rest tally) := by
  fun_induction sweep filename tmp rest tally with
  | case1 tmp tally => exact .single tmp tally
  | case2 tmp next tally same => exact .single tmp tally
  | case3 tmp next tally same second rest chain last after result induction =>
      rw [result] at induction
      exact induction.cons
  | case4 tmp next rest tally differs chain last after result induction =>
      rw [result] at induction
      exact induction.cons

theorem sweep_sublist (filename : FileName) (tmp : File) (rest : List File)
    (tally : Tally) :
    (sweep filename tmp rest tally).1.Sublist (tmp :: rest) := by
  fun_induction sweep filename tmp rest tally with
  | case1 tmp tally => exact .refl _
  | case2 tmp next tally same => exact (List.Sublist.slnil.cons next).cons_cons tmp
  | case3 tmp next tally same second rest chain last after result induction =>
      rw [result] at induction
      exact (induction.cons next).cons_cons tmp
  | case4 tmp next rest tally differs chain last after result induction =>
      rw [result] at induction
      exact induction.cons_cons tmp

theorem sweep_without {filename : FileName} {tmp : File} {rest : List File}
    {tally : Tally} (distinct : ((tmp :: rest).map File.filename).Nodup)
    (kept : tmp.filename ≠ filename) :
    (sweep filename tmp rest tally).1 = without filename (tmp :: rest) := by
  fun_induction sweep filename tmp rest tally with
  | case1 tmp tally => simp [without, kept]
  | case2 tmp next tally same => simp [without, kept, same]
  | case3 tmp next tally same second rest chain last after result induction =>
      rw [List.map_cons, List.nodup_cons] at distinct
      have distinctRest := distinct.2
      rw [List.map_cons, List.nodup_cons, same] at distinctRest
      have absent := distinctRest.1
      have differs : second.filename ≠ filename := by
        intro again
        exact absent (by simp [again])
      rw [result] at induction
      have swept := induction distinctRest.2 differs
      simp only at swept
      rw [swept]
      simp [without, kept, same]
  | case4 tmp next rest tally differs chain last after result induction =>
      rw [List.map_cons, List.nodup_cons] at distinct
      rw [result] at induction
      have swept := induction distinct.2 differs
      simp only at swept
      rw [swept]
      simp [without, kept]

theorem fileListDel_sublist (folder : Folder) (filename : FileName) :
    (folder.fileListDel filename).fileListFirst.Sublist
      folder.fileListFirst := by
  have heads := dropHeads_fst_sublist filename folder.fileListFirst
    folder.fileListLast
  unfold fileListDel
  split
  next => exact List.nil_sublist _
  next tmp rest last dropped =>
    rw [dropped] at heads
    exact (sweep_sublist filename tmp rest ⟨0, 0, 0⟩).trans heads

theorem fileListDel_files {folder : Folder} (indexed : folder.Indexed)
    (filename : FileName) :
    (folder.fileListDel filename).fileListFirst =
      without filename folder.fileListFirst := by
  have heads := dropHeads_fst_sublist filename folder.fileListFirst
    folder.fileListLast
  have same := without_dropHeads filename folder.fileListFirst
    folder.fileListLast
  unfold fileListDel
  split
  next last dropped =>
    rw [dropped] at same
    exact same
  next tmp rest last dropped =>
    rw [dropped] at heads same
    rw [← same]
    exact sweep_without (indexed.distinct.sublist (heads.map _))
      (dropHeads_head filename (by rw [dropped]))

theorem Indexed.fileListDel {folder : Folder} (indexed : folder.Indexed)
    (filename : FileName) : (folder.fileListDel filename).Indexed := by
  have sublist := fileListDel_sublist folder filename
  have sorted := indexed.sorted.sublist sublist
  have distinct := indexed.distinct.sublist (sublist.map File.filename)
  have emptied := dropHeads_last filename indexed.last
  revert sorted distinct
  unfold Folder.fileListDel
  split <;> intro sorted distinct
  next last dropped =>
    rw [dropped] at emptied
    exact ⟨sorted, emptied rfl, rfl, rfl, rfl, distinct⟩
  next tmp rest last dropped =>
    have swept := sweep_swept filename tmp rest ⟨0, 0, 0⟩
    exact ⟨sorted, swept.last, by simpa using swept.fileNum,
      by simpa using swept.totalSize, by simpa using swept.totalSpace,
      distinct⟩

theorem fileListDel_path (folder : Folder) (filename : FileName) :
    (folder.fileListDel filename).cpath = folder.cpath ∧
      (folder.fileListDel filename).wd = folder.wd := by
  unfold fileListDel
  split <;> exact ⟨rfl, rfl⟩

theorem Indexed.fileListDel_length {folder : Folder} (indexed : folder.Indexed)
    {file : File} (listed : file ∈ folder.fileListFirst) :
    (folder.fileListDel file.filename).fileListFirst.length <
      folder.fileListFirst.length := by
  rw [fileListDel_files indexed]
  refine List.length_filter_lt_length_iff_exists.mpr ⟨file, listed, ?_⟩
  simp

/-! Reading a directory. -/

theorem Indexed.clearList {folder : Folder} (indexed : folder.Indexed)
    {fuel : Nat} (enough : folder.fileListFirst.length < fuel) :
    ∃ cleared, clearList fuel folder = some cleared ∧ cleared.Indexed ∧
      cleared.fileListFirst = [] ∧ cleared.cpath = folder.cpath ∧
      cleared.wd = folder.wd := by
  induction fuel generalizing folder with
  | zero => contradiction
  | succ fuel induction =>
      cases last : folder.fileListLast with
      | none =>
          exact ⟨folder, by simp [Folder.clearList, last], indexed,
            indexed.last_eq_none_iff.mp last, rfl, rfl⟩
      | some file =>
          have listed : file ∈ folder.fileListFirst :=
            List.mem_of_getLast? (indexed.last ▸ last)
          have shorter := indexed.fileListDel_length listed
          obtain ⟨cleared, clears, facts⟩ :=
            induction (indexed.fileListDel file.filename) (by omega)
          rw [(fileListDel_path folder file.filename).1,
            (fileListDel_path folder file.filename).2] at facts
          exact ⟨cleared, by simpa [Folder.clearList, last] using clears,
            facts⟩

theorem Indexed.readEntries {limit fileCount : Int} {entries : List Dirent}
    {folder : Folder} (indexed : folder.Indexed)
    (distinct : (entries.map Dirent.dName).Nodup)
    (unlisted : ∀ ptr ∈ entries,
      ptr.dName ∉ folder.fileListFirst.map File.filename) :
    (readEntries limit fileCount entries folder).Indexed := by
  induction entries generalizing fileCount folder with
  | nil => exact indexed
  | cons ptr rest induction =>
      rw [List.map_cons, List.nodup_cons] at distinct
      have unlistedRest : ∀ other ∈ rest,
          other.dName ∉ folder.fileListFirst.map File.filename :=
        fun other member => unlisted other (List.mem_cons_of_mem _ member)
      simp only [Folder.readEntries]
      split
      next => exact indexed
      split
      next => exact induction indexed distinct.2 unlistedRest
      split
      next =>
        split
        next => exact induction indexed distinct.2 unlistedRest
        next statbuf _ =>
          have absent := unlisted ptr List.mem_cons_self
          refine induction (indexed.fileListAdd statbuf ptr.malloc absent)
            distinct.2 fun other member => ?_
          cases malloc : ptr.malloc with
          | false => exact unlistedRest other member
          | true =>
              rw [((fileListAdd_perm folder ptr.dName statbuf).map
                File.filename).mem_iff, List.map_cons, List.mem_cons, not_or]
              refine ⟨?_, unlistedRest other member⟩
              intro same
              exact distinct.1 (List.mem_map.mpr ⟨other, member, same⟩)
      next => exact induction indexed distinct.2 unlistedRest

/-- What `readdir` and `lstat` give becomes the file, unless it is skipped. -/
def Dirent.Gives (ptr : Dirent) (file : File) : Prop :=
  ptr.dName ≠ .dot ∧ ptr.dName ≠ .dotDot ∧ ptr.dType = .regular ∧
    ∃ statbuf, ptr.lstat = some statbuf ∧ ptr.malloc = true ∧
      file = File.ofStat ptr.dName statbuf

theorem mem_readEntries {limit fileCount : Int} {entries : List Dirent}
    {folder : Folder} {file : File}
    (within : fileCount + entries.length ≤ limit + 301) :
    file ∈ (Folder.readEntries limit fileCount entries folder).fileListFirst ↔
      file ∈ folder.fileListFirst ∨ ∃ ptr ∈ entries, ptr.Gives file := by
  induction entries generalizing fileCount folder with
  | nil => simp [Folder.readEntries]
  | cons ptr rest induction =>
      rw [List.length_cons, Int.natCast_add, Int.natCast_one] at within
      have notAbove : ¬ fileCount > limit + 300 := by omega
      simp only [Folder.readEntries, notAbove, if_false]
      rw [List.exists_mem_cons_iff]
      have later : fileCount + 1 + rest.length ≤ limit + 301 := by omega
      split
      next dots =>
        have skipped : ¬ ptr.Gives file :=
          fun gives => dots.elim gives.1 gives.2.1
        rw [induction later, or_iff_right skipped]
      split
      next named regular =>
        split
        next missing =>
          rw [induction later]
          simp [Dirent.Gives, missing]
        next statbuf isStat =>
          rw [induction later]
          cases malloc : ptr.malloc with
          | false => simp [Dirent.Gives, malloc, Folder.fileListAdd]
          | true =>
              have gives : ptr.Gives file ↔
                  file = File.ofStat ptr.dName statbuf := by
                obtain ⟨notDot, notDotDot⟩ := not_or.mp named
                simp [Dirent.Gives, notDot, notDotDot, regular, isStat, malloc]
              rw [(fileListAdd_perm folder ptr.dName statbuf).mem_iff,
                List.mem_cons, gives, or_assoc, or_left_comm]
      next irregular =>
        rw [induction later]
        simp [Dirent.Gives, irregular]

theorem fileListAdd_length_le (folder : Folder) (filename : FileName)
    (statbuf : Stat) (malloc : Bool) :
    (folder.fileListAdd filename statbuf malloc).1.fileListFirst.length ≤
      folder.fileListFirst.length + 1 := by
  cases malloc with
  | false => exact Nat.le_succ _
  | true => exact (fileListAdd_perm folder filename statbuf).length_eq.le

theorem readEntries_length_le {limit fileCount : Int} {entries : List Dirent}
    (folder : Folder) (started : fileCount ≤ limit + 301) :
    ((Folder.readEntries limit fileCount entries folder).fileListFirst.length :
      Int) + fileCount ≤ folder.fileListFirst.length + (limit + 301) := by
  induction entries generalizing fileCount folder with
  | nil => simpa [Folder.readEntries] using started
  | cons ptr rest induction =>
      simp only [Folder.readEntries]
      split
      next => omega
      next notAbove =>
        have later : fileCount + 1 ≤ limit + 301 := by omega
        have skipped := induction folder later
        split
        next => omega
        split
        next =>
          split
          next => omega
          next statbuf _ =>
            have added := induction
              (folder.fileListAdd ptr.dName statbuf ptr.malloc).1 later
            have longer :=
              fileListAdd_length_le folder ptr.dName statbuf ptr.malloc
            omega
        next => omega

theorem Indexed.readFileList {folder : Folder} (indexed : folder.Indexed)
    (attr : FolderAttr) (dir : Option DirStream) :
    ∃ result, folder.readFileList attr dir = some result ∧
      result.1.Indexed := by
  cases dir with
  | none => exact ⟨_, rfl, indexed⟩
  | some dir =>
      obtain ⟨cleared, clears, isIndexed, isEmpty, _⟩ :=
        indexed.clearList (Nat.lt_succ_self _)
      refine ⟨_, by rw [Folder.readFileList, clears]; rfl, ?_⟩
      exact isIndexed.readEntries dir.distinct (by simp [isEmpty])

theorem Indexed.mem_readFileList {folder : Folder} (indexed : folder.Indexed)
    {attr : FolderAttr} {dir : DirStream}
    (within : dir.entries.length ≤ attr.limit + 301) :
    ∃ after, folder.readFileList attr (some dir) = some (after, 0) ∧
      after.Indexed ∧ ∀ file, file ∈ after.fileListFirst ↔
        ∃ ptr ∈ dir.entries, ptr.Gives file := by
  obtain ⟨cleared, clears, isIndexed, isEmpty, _⟩ :=
    indexed.clearList (Nat.lt_succ_self _)
  refine ⟨_, by rw [Folder.readFileList, clears]; rfl,
    isIndexed.readEntries dir.distinct (by simp [isEmpty]), fun file => ?_⟩
  rw [mem_readEntries (by omega), isEmpty]
  simp only [List.not_mem_nil, false_or]

theorem Indexed.apply {folder : Folder} (indexed : folder.Indexed)
    (operation : Operation) :
    ∃ next, folder.apply operation = some next ∧ next.Indexed := by
  cases operation with
  | readFileList attr dir =>
      obtain ⟨result, read, isIndexed⟩ := indexed.readFileList attr dir
      exact ⟨result.1, by simp [Folder.apply, read], isIndexed⟩
  | guardedAdd filename statbuf malloc =>
      exact ⟨_, rfl, indexed.guardedAdd filename statbuf malloc⟩
  | fileListDel filename => exact ⟨_, rfl, indexed.fileListDel filename⟩

def applyAll (folder : Folder) : List Operation → Option Folder
  | [] => some folder
  | operation :: rest =>
      (folder.apply operation).bind fun next => next.applyAll rest

theorem Indexed.applyAll {folder : Folder} (indexed : folder.Indexed)
    (operations : List Operation) :
    ∃ last, folder.applyAll operations = some last ∧ last.Indexed := by
  induction operations generalizing folder with
  | nil => exact ⟨folder, rfl, indexed⟩
  | cons operation rest induction =>
      obtain ⟨next, applied, isIndexed⟩ := indexed.apply operation
      obtain ⟨last, ran, lastIndexed⟩ := induction isIndexed
      exact ⟨last, by simp [Folder.applyAll, applied, ran], lastIndexed⟩

/-- Every sequence of operations on the empty index runs through, and its six
fields then describe one list. -/
theorem index_invariant (cpath : String) (wd : Int)
    (operations : List Operation) :
    ∃ folder, (empty cpath wd).applyAll operations = some folder ∧
      folder.Indexed ∧
      (folder.fileListLast = none ↔ folder.fileListFirst = []) := by
  obtain ⟨folder, ran, indexed⟩ := (indexed_empty cpath wd).applyAll operations
  exact ⟨folder, ran, indexed, indexed.last_eq_none_iff⟩

end Folder

def olderName : FileName := ⟨[97], by decide, by decide⟩

def newerName : FileName := ⟨[98], by decide, by decide⟩

/-- A folder with two recordings of a block each. -/
def twoRecordings : Folder :=
  (((Folder.empty "/mnt/sdcard/video0" 1).fileListAdd olderName ⟨.regular, 512, 1, 0⟩ true).1
    |>.fileListAdd newerName ⟨.regular, 512, 1, 1⟩ true).1

theorem twoRecordings_indexed : twoRecordings.Indexed := by
  refine ((Folder.indexed_empty _ _).fileListAdd _ _ ?_).fileListAdd _ _ ?_
  · decide
  · decide

end Rkipc.Storage
