import Rkipc.Storage.AutoDelete

namespace Rkipc.Storage

/-! Which files the deletion loops of `rkipc_storage_file_scan_thread` leave. -/

section Loop

variable {limitOf : Folder → Int} {measure : List File → Int} {attr : FolderAttr}
  {folder : Folder} {file : File}

theorem without_last {front : List File}
    (distinct : ((front ++ [file]).map File.filename).Nodup) :
    Folder.without file.filename (front ++ [file]) = front := by
  rw [List.map_append, List.nodup_append] at distinct
  have differ : ∀ other ∈ front, other.filename ≠ file.filename := by
    intro other member
    exact distinct.2.2 _ (List.mem_map_of_mem member) _ (List.mem_singleton.mpr rfl)
  rw [Folder.without, List.filter_append, List.filter_eq_self.mpr (by simpa using differ)]
  simp

theorem Folder.Indexed.fileListDel_last (indexed : folder.Indexed)
    (last : folder.fileListLast = some file) :
    (folder.fileListDel file.filename.snprintf).fileListFirst =
      folder.fileListFirst.dropLast := by
  rw [FileName.snprintf_eq, Folder.fileListDel_files indexed]
  rw [indexed.last] at last
  obtain ⟨front, isFront⟩ := List.getLast?_eq_some_iff.mp last
  have distinct := indexed.distinct
  rw [isFront] at distinct ⊢
  rw [without_last distinct, List.dropLast_concat]

/-- What a loop compares is read off the list. -/
def Measures (limitOf : Folder → Int) (measure : List File → Int) : Prop :=
  ∀ folder : Folder, folder.Indexed → limitOf folder = measure folder.fileListFirst

/-- The most files, of at most `count`, whose measure is within the limit. -/
def enough (measure : Nat → Int) (limit : Int) : Nat → Nat
  | 0 => 0
  | count + 1 => if measure (count + 1) ≤ limit then count + 1 else enough measure limit count

/-- The files that the loop leaves of `count` once it has begun: it compares what it has
computed before the last deletion. -/
def left (measure : Nat → Int) (limit : Int) : Nat → Nat
  | 0 => 0
  | count + 1 => if measure (count + 1) ≤ limit then count else left measure limit count

theorem left_eq (measure : Nat → Int) (limit : Int) (count : Nat) :
    left measure limit count = enough measure limit count - 1 := by
  induction count with
  | zero => rfl
  | succ count induction =>
      rw [left, enough]
      split
      · rfl
      · exact induction

section Enough

variable {measure : Nat → Int} {limit : Int} {count : Nat}

theorem enough_le : enough measure limit count ≤ count := by
  induction count with
  | zero => exact Nat.le_refl 0
  | succ count induction =>
      rw [enough]
      split
      · exact Nat.le_refl _
      · exact Nat.le_succ_of_le induction

theorem enough_within (empty : measure 0 ≤ limit) :
    measure (enough measure limit count) ≤ limit := by
  induction count with
  | zero => exact empty
  | succ count induction =>
      rw [enough]
      split
      next within => exact within
      next above => exact induction

theorem enough_greatest {other : Nat} (more : enough measure limit count < other)
    (inside : other ≤ count) : limit < measure other := by
  induction count with
  | zero => omega
  | succ count induction =>
      rw [enough] at more
      split at more
      next within => omega
      next above =>
        rcases Nat.le_succ_iff.mp inside with earlier | last
        · exact induction more earlier
        · rw [last]
          exact Int.not_le.mp above

theorem enough_of_within (within : measure count ≤ limit) : enough measure limit count = count := by
  cases count with
  | zero => rfl
  | succ count => rw [enough, if_pos within]

theorem left_congr {other : Nat → Int} (same : ∀ number ≤ count, measure number = other number) :
    left measure limit count = left other limit count := by
  induction count with
  | zero => rfl
  | succ count induction =>
      rw [left, left, same (count + 1) (Nat.le_refl _),
        induction fun number le => same number (Nat.le_succ_of_le le)]

theorem left_le : left measure limit count ≤ count := by
  have le : enough measure limit count ≤ count := enough_le
  rw [left_eq]
  omega

end Enough

theorem take_dropLast {files : List File} {count : Nat} (inside : count ≤ files.length - 1) :
    files.dropLast.take count = files.take count := by
  rw [List.dropLast_eq_take, List.take_take, Nat.min_eq_left inside]

/-- The paths of the files behind the first ones of a list, in the order of their deletion. -/
def removedBehind (attr : FolderAttr) (files : List File) (kept : Nat) : List Removed :=
  (files.drop kept).reverse.map fun file => ⟨attr.folderPath, file.filename⟩

theorem removedBehind_of_last {files : List File} {kept : Nat} (last : files.getLast? = some file)
    (inside : kept ≤ files.length - 1) :
    removedBehind attr files kept =
      ⟨attr.folderPath, file.filename⟩ :: removedBehind attr files.dropLast kept := by
  obtain ⟨front, rfl⟩ := List.getLast?_eq_some_iff.mp last
  rw [List.length_append, List.length_singleton, Nat.add_sub_cancel] at inside
  rw [removedBehind, removedBehind, List.dropLast_concat, List.drop_append_of_le_length inside,
    List.reverse_append, List.map_append]
  rfl

/-- How many files a loop leaves that begins with this limit. -/
def keptOf (measure : List File → Int) (quota limit : Int) (files : List File) : Nat :=
  if limit ≤ quota then files.length
  else left (fun count => measure (files.take count)) quota files.length

theorem keptOf_le {quota limit : Int} {files : List File} :
    keptOf measure quota limit files ≤ files.length := by
  rw [keptOf]
  split
  · exact Nat.le_refl _
  · exact left_le

theorem keptOf_dropLast {files : List File} {quota limit : Int} (nonempty : 0 < files.length)
    (above : ¬ limit ≤ quota) :
    keptOf measure quota (measure files) files.dropLast = keptOf measure quota limit files := by
  have same : left (fun count => measure (files.dropLast.take count)) quota (files.length - 1) =
      left (fun count => measure (files.take count)) quota (files.length - 1) :=
    left_congr fun count inside => by rw [take_dropLast inside]
  obtain ⟨count, isCount⟩ : ∃ count, files.length = count + 1 := ⟨files.length - 1, by omega⟩
  rw [keptOf, keptOf, if_neg above, List.length_dropLast, same, isCount, left, ← isCount,
    List.take_length, isCount, Nat.add_sub_cancel]

theorem deleteOldest_keptOf (measures : Measures limitOf measure) (empty : measure [] ≤ attr.limit)
    (indexed : folder.Indexed) {fuel : Nat} (limit : Int)
    (fuelled : folder.fileListFirst.length + 2 ≤ fuel) :
    ∃ after, after.Indexed ∧
      after.fileListFirst = folder.fileListFirst.take
        (keptOf measure attr.limit limit folder.fileListFirst) ∧
      deleteOldest limitOf attr fuel limit folder = some (after,
        removedBehind attr folder.fileListFirst
          (keptOf measure attr.limit limit folder.fileListFirst)) := by
  induction fuel generalizing folder limit with
  | zero => omega
  | succ fuel induction =>
      rw [deleteOldest]
      by_cases within : limit ≤ attr.limit
      · rw [if_neg (Int.not_lt.mpr within), keptOf, if_pos within, List.take_length]
        refine ⟨folder, indexed, rfl, ?_⟩
        rw [removedBehind, List.drop_length]
        rfl
      · rw [if_pos (Int.not_le.mp within)]
        cases last : folder.fileListLast with
        | none =>
            have isEmpty := indexed.last_eq_none_iff.mp last
            have stops : ¬ limitOf folder > attr.limit := by
              rw [measures folder indexed, isEmpty]
              exact Int.not_lt.mpr empty
            obtain ⟨fuel, rfl⟩ : ∃ more, fuel = more + 1 := ⟨fuel - 1, by omega⟩
            refine ⟨folder, indexed, ?_, ?_⟩
            · rw [isEmpty, List.take_nil]
            · dsimp only
              rw [deleteOldest, if_neg stops, isEmpty, removedBehind, List.drop_nil]
              rfl
        | some file =>
            have isLess := indexed.fileListDel_last last
            rw [indexed.last] at last
            have nonempty : 0 < folder.fileListFirst.length :=
              List.length_pos_of_mem (List.mem_of_getLast? last)
            obtain ⟨after, isIndexed, isTaken, ends⟩ :=
              induction (indexed.fileListDel file.filename.snprintf) (limitOf folder) (by
                rw [isLess, List.length_dropLast]
                omega)
            rw [isLess, measures folder indexed, keptOf_dropLast nonempty within] at isTaken ends
            have inside : keptOf measure attr.limit limit folder.fileListFirst ≤
                folder.fileListFirst.length - 1 := by
              rw [← keptOf_dropLast nonempty within, ← List.length_dropLast]
              exact keptOf_le
            refine ⟨after, isIndexed, isTaken.trans (take_dropLast inside), ?_⟩
            dsimp only
            rw [measures folder indexed, ends, removedBehind_of_last last inside]
            rfl

theorem deleteOldest_unique {fuel other : Nat} {limit : Int}
    {first second : Folder × List Removed}
    (firstEnds : deleteOldest limitOf attr fuel limit folder = some first)
    (secondEnds : deleteOldest limitOf attr other limit folder = some second) :
    first = second := by
  have one := deleteOldest_mono (Nat.le_max_left fuel other) firstEnds
  have two := deleteOldest_mono (Nat.le_max_right fuel other) secondEnds
  exact Option.some.inj (one.symm.trans two)

/-- Below zero a loop has no end, since it computes nothing below zero. -/
theorem deleteOldest_endless (natural : ∀ folder, 0 ≤ limitOf folder) (negative : attr.limit < 0)
    (fuel : Nat) {limit : Int} (begins : attr.limit < limit) :
    deleteOldest limitOf attr fuel limit folder = none := by
  induction fuel generalizing folder limit with
  | zero => rfl
  | succ fuel induction =>
      have above : attr.limit < limitOf folder := Int.lt_of_lt_of_le negative (natural folder)
      rw [deleteOldest, if_pos begins]
      cases folder.fileListLast with
      | none => exact induction above
      | some file =>
          dsimp only
          rw [induction above]
          rfl

theorem measures_numLimitOf : Measures numLimitOf fun files => (files.length : Int) := by
  intro folder indexed
  rw [numLimitOf, indexed.fileNum]

/-- `total_space * 100 / total_space` of a list -/
def shareOf (totalSpace : Nat) (files : List File) : Int :=
  ((files.map File.space).sum * 100 / totalSpace : Nat)

theorem measures_spaceLimitOf (totalSpace : Nat) :
    Measures (spaceLimitOf totalSpace) (shareOf totalSpace) := by
  intro folder indexed
  rw [spaceLimitOf, shareOf, indexed.totalSpace]

end Loop

section NumberLimit

variable {attr : FolderAttr} {folder : Folder}

/-- The number-limit loop of a folder ends, with the newest files up to the limit. -/
def KeepsNewest (attr : FolderAttr) (folder : Folder) : Prop :=
  ∃ fuel after removed,
    deleteOldest numLimitOf attr fuel (numLimitOf folder) folder = some (after, removed) ∧
      after.fileNum = min attr.limit.toNat folder.fileNum ∧
      after.fileListFirst =
        folder.fileListFirst.take (min attr.limit.toNat folder.fileNum)

theorem enough_length {files : List File} {limit : Int} (nonneg : 0 ≤ limit) {count : Nat}
    (inside : count ≤ files.length) :
    enough (fun number => ((files.take number).length : Int)) limit count =
      min limit.toNat count := by
  induction count with
  | zero => exact (Nat.min_zero _).symm
  | succ count induction =>
      rw [enough, List.length_take_of_le inside, induction (by omega)]
      split <;> omega

/-- It leaves one file less than the limit when it begins. -/
theorem keepsNewest_iff (indexed : folder.Indexed) (positive : 1 ≤ attr.limit) :
    KeepsNewest attr folder ↔ folder.fileNum ≤ attr.limit := by
  have empty : (([] : List File).length : Int) ≤ attr.limit := by
    rw [List.length_nil]
    omega
  obtain ⟨after, isIndexed, isTaken, ends⟩ :=
    deleteOldest_keptOf measures_numLimitOf empty indexed (numLimitOf folder) (Nat.le_refl _)
  have size : numLimitOf folder = folder.fileListFirst.length := measures_numLimitOf folder indexed
  have kept : keptOf (fun files => (files.length : Int)) attr.limit (numLimitOf folder)
      folder.fileListFirst =
        if (folder.fileNum : Int) ≤ attr.limit then folder.fileNum
        else min attr.limit.toNat folder.fileNum - 1 := by
    rw [keptOf, size, indexed.fileNum, left_eq, enough_length (by omega) (Nat.le_refl _)]
  rw [kept] at isTaken ends
  constructor
  · rintro ⟨fuel, other, removed, otherEnds, -, otherTaken⟩
    rw [← (Prod.mk.inj (deleteOldest_unique ends otherEnds)).1, isTaken] at otherTaken
    by_contra above
    rw [if_neg above] at otherTaken
    have lengths := congrArg List.length otherTaken
    rw [List.length_take, List.length_take, ← indexed.fileNum] at lengths
    omega
  · intro within
    rw [if_pos within] at isTaken
    have all : min attr.limit.toNat folder.fileNum = folder.fileNum := by omega
    refine ⟨_, after, _, ends, ?_, ?_⟩
    · rw [isIndexed.fileNum, isTaken, all, List.length_take, ← indexed.fileNum, Nat.min_self]
    · rw [isTaken, all]

theorem keepsNewest_iff_two :
    KeepsNewest ⟨"video0", true, 2⟩ twoRecordings ↔ twoRecordings.fileNum ≤ (2 : Int) :=
  keepsNewest_iff twoRecordings_indexed (by decide)

/-- With a limit of one file both are deleted. -/
theorem none_kept :
    ¬ ∀ (attr : FolderAttr) (folder : Folder), folder.Indexed → 1 ≤ attr.limit →
      KeepsNewest attr folder := by
  intro general
  obtain ⟨fuel, after, removed, ends, count, -⟩ :=
    general ⟨"video0", true, 1⟩ twoRecordings twoRecordings_indexed (by decide)
  have ran : (deleteOldest numLimitOf ⟨"video0", true, 1⟩ 4 (numLimitOf twoRecordings)
      twoRecordings).map (fun result => result.1.fileNum) = some 0 := by decide
  obtain ⟨result, isResult, isNone⟩ := Option.map_eq_some_iff.mp ran
  rw [deleteOldest_unique isResult ends, count] at isNone
  exact absurd isNone (by decide)

end NumberLimit

section Passes

variable {numLimit : Bool} {limitOf : Folder → Int} {slots : List Slot}

/-- A slot with the files that were removed from it, behind its turn in a pass. -/
def Handles (numLimit : Bool) (limitOf : Folder → Int) (fuel : Nat) (slot : Slot)
    (result : Slot × List Removed) : Prop :=
  if slot.attr.numLimit = numLimit then
    ∃ folder removed, deleteOldest limitOf slot.attr fuel (limitOf slot.folder) slot.folder =
      some (folder, removed) ∧ result = ({ slot with folder := folder }, removed)
  else result = (slot, [])

theorem Handles.mono {fuel more : Nat} (le : fuel ≤ more) {slot : Slot}
    {result : Slot × List Removed} (handles : Handles numLimit limitOf fuel slot result) :
    Handles numLimit limitOf more slot result := by
  unfold Handles at handles ⊢
  split at handles
  next isKind =>
    rw [if_pos isKind]
    obtain ⟨folder, removed, ends, isResult⟩ := handles
    exact ⟨folder, removed, deleteOldest_mono le ends, isResult⟩
  next otherKind =>
    rw [if_neg otherKind]
    exact handles

theorem forEachSlot_eq_some_iff {fuel : Nat} {after : List Slot} {removed : List Removed} :
    forEachSlot numLimit limitOf fuel slots = some (after, removed) ↔
      ∃ results, List.Forall₂ (Handles numLimit limitOf fuel) slots results ∧
        after = results.map Prod.fst ∧ removed = (results.map Prod.snd).flatten := by
  induction slots generalizing after removed with
  | nil =>
      constructor
      · intro ends
        cases ends
        exact ⟨[], .nil, rfl, rfl⟩
      · rintro ⟨results, handled, rfl, rfl⟩
        cases handled
        rfl
  | cons slot rest induction =>
      rw [forEachSlot]
      by_cases isKind : slot.attr.numLimit = numLimit
      · rw [if_pos isKind]
        constructor
        · intro ends
          obtain ⟨own, ownEnds, ends⟩ := Option.bind_eq_some_iff.mp ends
          obtain ⟨others, othersEnd, ends⟩ := Option.bind_eq_some_iff.mp ends
          obtain ⟨results, handled, isAfter, isRemoved⟩ := induction.mp othersEnd
          cases ends
          refine ⟨({ slot with folder := own.1 }, own.2) :: results, .cons ?_ handled, ?_, ?_⟩
          · rw [Handles, if_pos isKind]
            exact ⟨own.1, own.2, ownEnds, rfl⟩
          · rw [isAfter]
            rfl
          · rw [isRemoved]
            rfl
        · rintro ⟨results, handled, rfl, rfl⟩
          cases handled with
          | @cons _ result _ results own handled =>
              rw [Handles, if_pos isKind] at own
              obtain ⟨folder, removed, ownEnds, rfl⟩ := own
              rw [ownEnds, induction.mpr ⟨results, handled, rfl, rfl⟩]
              rfl
      · rw [if_neg isKind]
        constructor
        · intro ends
          obtain ⟨others, othersEnd, ends⟩ := Option.bind_eq_some_iff.mp ends
          obtain ⟨results, handled, isAfter, isRemoved⟩ := induction.mp othersEnd
          cases ends
          refine ⟨(slot, []) :: results, .cons ?_ handled, ?_, ?_⟩
          · rw [Handles, if_neg isKind]
          · rw [isAfter]
            rfl
          · rw [isRemoved]
            rfl
        · rintro ⟨results, handled, rfl, rfl⟩
          cases handled with
          | @cons _ result _ results own handled =>
              rw [Handles, if_neg isKind] at own
              rw [own, induction.mpr ⟨results, handled, rfl, rfl⟩]
              rfl

/-- A pass with results that meet a condition, one for each slot. -/
theorem exists_handled_iff {good : Slot → Slot × List Removed → Prop} :
    (∃ fuel results, List.Forall₂ (fun slot result =>
        Handles numLimit limitOf fuel slot result ∧ good slot result) slots results) ↔
      ∀ slot ∈ slots, ∃ fuel result, Handles numLimit limitOf fuel slot result ∧
        good slot result := by
  constructor
  · rintro ⟨fuel, results, handled⟩
    induction handled with
    | nil =>
        intro slot member
        cases member
    | @cons slot result _ _ own _ induction =>
        intro other member
        rcases List.mem_cons.mp member with rfl | later
        · exact ⟨fuel, result, own⟩
        · exact induction other later
  · intro each
    induction slots with
    | nil => exact ⟨0, [], .nil⟩
    | cons slot rest induction =>
        obtain ⟨fuel, result, own, isGood⟩ := each slot List.mem_cons_self
        obtain ⟨more, results, handled⟩ := induction fun other member =>
          each other (List.mem_cons_of_mem slot member)
        refine ⟨max fuel more, result :: results,
          .cons ⟨own.mono (Nat.le_max_left _ _), isGood⟩ (handled.imp ?_)⟩
        intro other handledOther both
        exact ⟨both.1.mono (Nat.le_max_right _ _), both.2⟩

def PassEndsWith (numLimit : Bool) (limitOf : Folder → Int) (slots : List Slot) : Prop :=
  ∃ fuel result, forEachSlot numLimit limitOf fuel slots = some result

theorem passEnds_iff {measure : List File → Int} (measures : Measures limitOf measure)
    (empty : measure [] = 0) (natural : ∀ folder, 0 ≤ limitOf folder)
    (indexed : ∀ slot ∈ slots, slot.attr.numLimit = numLimit → slot.folder.Indexed) :
    PassEndsWith numLimit limitOf slots ↔
      ∀ slot ∈ slots, slot.attr.numLimit = numLimit → 0 ≤ slot.attr.limit := by
  have each : PassEndsWith numLimit limitOf slots ↔
      ∀ slot ∈ slots, ∃ fuel result, Handles numLimit limitOf fuel slot result ∧ True := by
    rw [← exists_handled_iff]
    simp only [PassEndsWith, Prod.exists, forEachSlot_eq_some_iff, and_true]
    constructor
    · rintro ⟨fuel, _, _, results, handled, _⟩
      exact ⟨fuel, results, handled⟩
    · rintro ⟨fuel, results, handled⟩
      exact ⟨fuel, _, _, results, handled, rfl, rfl⟩
  rw [each]
  refine forall₂_congr fun slot member => ?_
  by_cases isKind : slot.attr.numLimit = numLimit
  · simp only [Handles, if_pos isKind, and_true]
    constructor
    · rintro ⟨fuel, _, folder, removed, ends, _⟩ _
      by_contra negative
      have below : slot.attr.limit < 0 := Int.not_le.mp negative
      rw [deleteOldest_endless natural below fuel
        (Int.lt_of_lt_of_le below (natural slot.folder))] at ends
      cases ends
    · intro nonneg
      obtain ⟨after, _, _, ends⟩ := deleteOldest_keptOf measures
        (empty ▸ nonneg isKind) (indexed slot member isKind) (limitOf slot.folder) (Nat.le_refl _)
      exact ⟨_, _, after, _, ends, rfl⟩
  · simp only [Handles, if_neg isKind, and_true]
    exact iff_of_true ⟨0, _, rfl⟩ fun same => absurd same isKind

end Passes

section SpaceLimit

variable {totalSpace : Nat} {slot : Slot}

/-- What the pass makes of a slot without `num_limit` when it removes the least number of its
oldest files that brings it within its quota. -/
structure LeastCut (totalSpace : Nat) (before after : Slot) : Prop where
  attr : after.attr = before.attr
  other : before.attr.numLimit = true → after = before
  least : before.attr.numLimit = false → ∃ count ≤ before.folder.fileListFirst.length,
    after.folder.fileListFirst = before.folder.fileListFirst.take
        (before.folder.fileListFirst.length - count) ∧
      spaceLimitOf totalSpace after.folder ≤ before.attr.limit ∧
        ∀ fewer < count, before.attr.limit < shareOf totalSpace
          (before.folder.fileListFirst.take (before.folder.fileListFirst.length - fewer))

/-- The folder is within its quota, or its newest file alone is above it. -/
def NoneSpared (totalSpace : Nat) (slot : Slot) : Prop :=
  spaceLimitOf totalSpace slot.folder ≤ slot.attr.limit ∨
    ∀ newest, slot.folder.fileListFirst.head? = some newest →
      slot.attr.limit < (newest.space * 100 / totalSpace : Nat)

theorem shareOf_nil : shareOf totalSpace [] = 0 := by
  rw [shareOf, List.map_nil, List.sum_nil, Nat.zero_mul, Nat.zero_div]
  rfl

theorem shareOf_newest (newest : File) :
    shareOf totalSpace [newest] = (newest.space * 100 / totalSpace : Nat) := by
  rw [shareOf, List.map_cons, List.map_nil, List.sum_cons, List.sum_nil, Nat.add_zero]

theorem shareOf_first (newest : File) (rest : List File) :
    shareOf totalSpace [newest] ≤ shareOf totalSpace (newest :: rest) := by
  have more : newest.space ≤ ((newest :: rest).map File.space).sum := by
    rw [List.map_cons, List.sum_cons]
    omega
  rw [shareOf_newest, shareOf]
  exact_mod_cast Nat.div_le_div_right (Nat.mul_le_mul_right 100 more)

/-- The most of the newest files that are within the quota. -/
def mostWithin (totalSpace : Nat) (quota : Int) (files : List File) : Nat :=
  enough (fun count => shareOf totalSpace (files.take count)) quota files.length

theorem mostWithin_within {quota : Int} (nonneg : 0 ≤ quota) (files : List File) :
    shareOf totalSpace (files.take (mostWithin totalSpace quota files)) ≤ quota := by
  have empty : shareOf totalSpace (files.take 0) ≤ quota := by
    rw [List.take_zero, shareOf_nil]
    exact nonneg
  exact @enough_within (fun count => shareOf totalSpace (files.take count)) quota _ empty

theorem mostWithin_greatest {quota : Int} {files : List File} {count : Nat}
    (more : mostWithin totalSpace quota files < count) (inside : count ≤ files.length) :
    quota < shareOf totalSpace (files.take count) :=
  @enough_greatest (fun count => shareOf totalSpace (files.take count)) quota _ _ more inside

theorem mostWithin_le {quota : Int} {files : List File} :
    mostWithin totalSpace quota files ≤ files.length :=
  enough_le

/-- None is kept when the newest file is above the quota, since the others come on top of it. -/
theorem mostWithin_eq_zero_iff {files : List File} {quota : Int} (nonneg : 0 ≤ quota)
    (nonempty : files ≠ []) :
    mostWithin totalSpace quota files = 0 ↔ ∀ newest, files.head? = some newest →
      quota < (newest.space * 100 / totalSpace : Nat) := by
  obtain ⟨newest, rest, rfl⟩ := List.exists_cons_of_ne_nil nonempty
  rw [List.head?_cons]
  constructor
  · rintro isNone _ ⟨⟩
    have above : quota < shareOf totalSpace ((newest :: rest).take 1) :=
      mostWithin_greatest (by omega) (Nat.succ_le_succ (Nat.zero_le rest.length))
    rw [List.take_succ_cons, List.take_zero, shareOf_newest] at above
    exact above
  · intro alone
    have above := alone newest rfl
    by_contra some
    obtain ⟨count, isCount⟩ : ∃ count, mostWithin totalSpace quota (newest :: rest) = count + 1 :=
      ⟨_, (Nat.succ_pred_eq_of_ne_zero some).symm⟩
    have within : shareOf totalSpace ((newest :: rest).take (mostWithin totalSpace quota
        (newest :: rest))) ≤ quota := mostWithin_within nonneg _
    rw [isCount, List.take_succ_cons] at within
    have first : shareOf totalSpace [newest] ≤ shareOf totalSpace (newest :: rest.take count) :=
      shareOf_first newest _
    rw [shareOf_newest] at first
    omega

/-- The pass keeps the most that is within the quota, or one file less. -/
theorem leastCut_iff_kept {after : Slot} {kept : Nat} (unlimited : slot.attr.numLimit = false)
    (nonneg : 0 ≤ slot.attr.limit) (attr : after.attr = slot.attr)
    (indexed : after.folder.Indexed)
    (isTaken : after.folder.fileListFirst = slot.folder.fileListFirst.take kept)
    (inside : kept ≤ slot.folder.fileListFirst.length) :
    LeastCut totalSpace slot after ↔
      kept = mostWithin totalSpace slot.attr.limit slot.folder.fileListFirst := by
  have share : spaceLimitOf totalSpace after.folder =
      shareOf totalSpace (slot.folder.fileListFirst.take kept) := by
    rw [measures_spaceLimitOf totalSpace _ indexed, isTaken]
  have most : mostWithin totalSpace slot.attr.limit slot.folder.fileListFirst ≤
      slot.folder.fileListFirst.length := mostWithin_le
  constructor
  · rintro ⟨-, -, least⟩
    obtain ⟨count, le, sameTaken, within, fewest⟩ := least unlimited
    rw [isTaken] at sameTaken
    have lengths := congrArg List.length sameTaken
    rw [List.length_take_of_le inside, List.length_take_of_le (Nat.sub_le _ _)] at lengths
    rw [share] at within
    rcases Nat.lt_trichotomy kept (mostWithin totalSpace slot.attr.limit
      slot.folder.fileListFirst) with less | same | more
    · have above := fewest (slot.folder.fileListFirst.length -
        mostWithin totalSpace slot.attr.limit slot.folder.fileListFirst) (by omega)
      rw [Nat.sub_sub_self most] at above
      exact absurd (mostWithin_within nonneg _) (Int.not_le.mpr above)
    · exact same
    · exact absurd within (Int.not_le.mpr (mostWithin_greatest more inside))
  · intro same
    refine ⟨attr, fun limited => absurd (limited.symm.trans unlimited) (by decide), fun _ => ?_⟩
    refine ⟨slot.folder.fileListFirst.length - kept, Nat.sub_le _ _, ?_, ?_, ?_⟩
    · rw [Nat.sub_sub_self inside, isTaken]
    · rw [share, same]
      exact mostWithin_within nonneg _
    · intro fewer less
      exact mostWithin_greatest (by omega) (Nat.sub_le _ _)

theorem keptOf_eq_mostWithin_iff (nonneg : 0 ≤ slot.attr.limit) (indexed : slot.folder.Indexed) :
    keptOf (shareOf totalSpace) slot.attr.limit (spaceLimitOf totalSpace slot.folder)
        slot.folder.fileListFirst =
      mostWithin totalSpace slot.attr.limit slot.folder.fileListFirst ↔
        NoneSpared totalSpace slot := by
  have share := measures_spaceLimitOf totalSpace _ indexed
  rw [NoneSpared, keptOf, left_eq, ← mostWithin]
  by_cases within : spaceLimitOf totalSpace slot.folder ≤ slot.attr.limit
  · rw [if_pos within]
    refine iff_of_true ?_ (Or.inl within)
    have whole : shareOf totalSpace (slot.folder.fileListFirst.take
        slot.folder.fileListFirst.length) ≤ slot.attr.limit := by
      rw [List.take_length, ← share]
      exact within
    exact (@enough_of_within (fun count => shareOf totalSpace
      (slot.folder.fileListFirst.take count)) _ _ whole).symm
  · have nonempty : slot.folder.fileListFirst ≠ [] := by
      intro isEmpty
      rw [share, isEmpty, shareOf_nil] at within
      exact within nonneg
    rw [if_neg within, ← mostWithin_eq_zero_iff nonneg nonempty]
    constructor
    · intro same
      exact Or.inr (by omega)
    · rintro (already | isNone)
      · exact absurd already within
      · rw [isNone]

theorem handles_leastCut_iff (unlimited : slot.attr.numLimit = false)
    (nonneg : 0 ≤ slot.attr.limit) (indexed : slot.folder.Indexed) :
    (∃ fuel result, Handles false (spaceLimitOf totalSpace) fuel slot result ∧
        LeastCut totalSpace slot result.1) ↔ NoneSpared totalSpace slot := by
  have empty : shareOf totalSpace [] ≤ slot.attr.limit := by
    rw [shareOf_nil]
    exact nonneg
  obtain ⟨after, isIndexed, isTaken, ends⟩ := deleteOldest_keptOf
    (measures_spaceLimitOf totalSpace) empty indexed (spaceLimitOf totalSpace slot.folder)
    (Nat.le_refl _)
  have least : LeastCut totalSpace slot { slot with folder := after } ↔
      NoneSpared totalSpace slot :=
    (@leastCut_iff_kept totalSpace slot { slot with folder := after } _ unlimited nonneg rfl
      isIndexed isTaken keptOf_le).trans
      (keptOf_eq_mostWithin_iff nonneg indexed)
  simp only [Handles, if_pos unlimited]
  constructor
  · rintro ⟨fuel, _, ⟨folder, removed, otherEnds, rfl⟩, isLeast⟩
    rw [← (Prod.mk.inj (deleteOldest_unique ends otherEnds)).1] at isLeast
    exact least.mp isLeast
  · intro spared
    exact ⟨_, _, ⟨after, _, ends, rfl⟩, least.mpr spared⟩

theorem handles_removed {fuel : Nat} {result : Slot × List Removed}
    (nonneg : slot.attr.numLimit = false → 0 ≤ slot.attr.limit) (indexed : slot.folder.Indexed)
    (handles : Handles false (spaceLimitOf totalSpace) fuel slot result) :
    result.2 = removedBehind slot.attr slot.folder.fileListFirst
      result.1.folder.fileListFirst.length := by
  by_cases unlimited : slot.attr.numLimit = false
  · rw [Handles, if_pos unlimited] at handles
    obtain ⟨folder, removed, otherEnds, rfl⟩ := handles
    have empty : shareOf totalSpace [] ≤ slot.attr.limit := by
      rw [shareOf_nil]
      exact nonneg unlimited
    obtain ⟨after, -, isTaken, ends⟩ := deleteOldest_keptOf (measures_spaceLimitOf totalSpace)
      empty indexed (spaceLimitOf totalSpace slot.folder) (Nat.le_refl _)
    obtain ⟨isAfter, isRemoved⟩ := Prod.mk.inj (deleteOldest_unique otherEnds ends)
    dsimp only
    rw [isRemoved, isAfter, isTaken, List.length_take_of_le keptOf_le]
  · rw [Handles, if_neg unlimited] at handles
    rw [handles, removedBehind, List.drop_length]
    rfl

/-- The space-limit pass ends; it removes from each folder the least number of its oldest files
that brings it within its quota, and no other file. -/
def CutsLeast (slots : List Slot) : Prop :=
  ∃ fuel after removed,
    spaceLimitPass (totalSpaceOf slots) fuel slots = some (after, removed) ∧
      List.Forall₂ (LeastCut (totalSpaceOf slots)) slots after ∧
      removed = (List.zipWith (fun before after => removedBehind before.attr
        before.folder.fileListFirst after.folder.fileListFirst.length) slots after).flatten

theorem forall₂_and {α β : Type} {first second : α → β → Prop} {left : List α} {right : List β}
    (isFirst : List.Forall₂ first left right) (isSecond : List.Forall₂ second left right) :
    List.Forall₂ (fun one other => first one other ∧ second one other) left right := by
  induction isFirst with
  | nil => exact .nil
  | cons head _ induction =>
      cases isSecond with
      | cons other rest => exact .cons ⟨head, other⟩ (induction rest)

theorem removed_of_handled {slots : List Slot} {fuel : Nat} {results : List (Slot × List Removed)}
    (nonneg : ∀ slot ∈ slots, slot.attr.numLimit = false → 0 ≤ slot.attr.limit)
    (indexed : ∀ slot ∈ slots, slot.folder.Indexed)
    (handled : List.Forall₂ (Handles false (spaceLimitOf totalSpace) fuel) slots results) :
    results.map Prod.snd = List.zipWith (fun before after => removedBehind before.attr
      before.folder.fileListFirst after.folder.fileListFirst.length) slots
        (results.map Prod.fst) := by
  induction handled with
  | nil => rfl
  | @cons slot result _ _ own _ induction =>
      rw [List.map_cons, List.map_cons, List.zipWith_cons_cons,
        handles_removed (nonneg _ List.mem_cons_self) (indexed _ List.mem_cons_self) own,
        induction (fun other member => nonneg other (List.mem_cons_of_mem _ member))
          (fun other member => indexed other (List.mem_cons_of_mem _ member))]

theorem cutsLeast_iff_each {slots : List Slot}
    (nonneg : ∀ slot ∈ slots, slot.attr.numLimit = false → 0 ≤ slot.attr.limit)
    (indexed : ∀ slot ∈ slots, slot.folder.Indexed) :
    CutsLeast slots ↔ ∀ slot ∈ slots, ∃ fuel result,
      Handles false (spaceLimitOf (totalSpaceOf slots)) fuel slot result ∧
        LeastCut (totalSpaceOf slots) slot result.1 := by
  rw [← exists_handled_iff]
  constructor
  · rintro ⟨fuel, after, removed, ends, least, -⟩
    obtain ⟨results, handled, rfl, -⟩ := forEachSlot_eq_some_iff.mp ends
    exact ⟨fuel, results, forall₂_and handled (List.forall₂_map_right_iff.mp least)⟩
  · rintro ⟨fuel, results, both⟩
    have handled : List.Forall₂ (Handles false (spaceLimitOf (totalSpaceOf slots)) fuel) slots
      results := both.imp fun _ _ => And.left
    refine ⟨fuel, results.map Prod.fst, (results.map Prod.snd).flatten,
      forEachSlot_eq_some_iff.mpr ⟨results, handled, rfl, rfl⟩,
      List.forall₂_map_right_iff.mpr (both.imp fun _ _ => And.right), ?_⟩
    rw [removed_of_handled nonneg indexed handled]

/-- A folder that is cut back loses one file more than it has to, unless it loses all. -/
theorem cutsLeast_iff {slots : List Slot}
    (nonneg : ∀ slot ∈ slots, slot.attr.numLimit = false → 0 ≤ slot.attr.limit)
    (indexed : ∀ slot ∈ slots, slot.folder.Indexed) :
    CutsLeast slots ↔ ∀ slot ∈ slots, slot.attr.numLimit = false →
      NoneSpared (totalSpaceOf slots) slot := by
  rw [cutsLeast_iff_each nonneg indexed]
  refine forall₂_congr fun slot member => ?_
  by_cases unlimited : slot.attr.numLimit = false
  · rw [handles_leastCut_iff unlimited (nonneg slot member unlimited) (indexed slot member)]
    exact ⟨fun spared _ => spared, fun spared => spared unlimited⟩
  · refine iff_of_true ⟨0, (slot, []), ?_, rfl, fun _ => rfl, ?_⟩ ?_
    · rw [Handles, if_neg unlimited]
    · exact fun isFalse => absurd isFalse unlimited
    · exact fun isFalse => absurd isFalse unlimited

/-- The two recordings with a quota for one of them. -/
def halfQuota : Slot := ⟨⟨"video0", false, 50⟩, twoRecordings⟩

theorem cutsLeast_iff_full :
    CutsLeast [⟨⟨"video0", false, 100⟩, twoRecordings⟩] ↔
      ∀ slot ∈ [(⟨⟨"video0", false, 100⟩, twoRecordings⟩ : Slot)], slot.attr.numLimit = false →
        NoneSpared (totalSpaceOf [⟨⟨"video0", false, 100⟩, twoRecordings⟩]) slot :=
  cutsLeast_iff (by simp) (by simpa using twoRecordings_indexed)

/-- With a quota for one of two recordings both are deleted. -/
theorem half_not_spared :
    ¬ ∀ slots : List Slot, (∀ slot ∈ slots, slot.attr.numLimit = false → 0 ≤ slot.attr.limit) →
      (∀ slot ∈ slots, slot.folder.Indexed) → 0 < totalSpaceOf slots → CutsLeast slots := by
  intro general
  have nonneg : ∀ slot ∈ [halfQuota], slot.attr.numLimit = false → 0 ≤ slot.attr.limit := by
    simp [halfQuota]
  have indexed : ∀ slot ∈ [halfQuota], slot.folder.Indexed := by
    simpa [halfQuota] using twoRecordings_indexed
  have cuts := general [halfQuota] nonneg indexed (by decide)
  have spared := (handles_leastCut_iff rfl (by decide) twoRecordings_indexed).mp
    ((cutsLeast_iff_each nonneg indexed).mp cuts halfQuota (List.mem_singleton.mpr rfl))
  rcases spared with within | alone
  · exact absurd within (by decide)
  · have above := alone (File.ofStat newerName ⟨.regular, 512, 1, 1⟩) (by decide)
    exact absurd above (by decide)

end SpaceLimit

section PassOfThread

variable {slots : List Slot}

theorem forEachSlot_others {numLimit : Bool} {limitOf : Folder → Int} {fuel : Nat}
    {after : List Slot} {removed : List Removed}
    (ends : forEachSlot numLimit limitOf fuel slots = some (after, removed)) :
    after.filter (fun slot => slot.attr.numLimit = !numLimit) =
      slots.filter fun slot => slot.attr.numLimit = !numLimit := by
  obtain ⟨results, handled, rfl, -⟩ := forEachSlot_eq_some_iff.mp ends
  clear ends
  induction handled with
  | nil => rfl
  | @cons slot result _ _ own _ induction =>
      unfold Handles at own
      split at own
      next isKind =>
        obtain ⟨folder, removed, -, rfl⟩ := own
        rw [List.map_cons, List.filter_cons_of_neg (by simp [isKind]),
          List.filter_cons_of_neg (by simp [isKind]), induction]
      next otherKind =>
        have other : slot.attr.numLimit = !numLimit := Bool.eq_not.mpr otherKind
        rw [own, List.map_cons, List.filter_cons_of_pos (by simp [other]),
          List.filter_cons_of_pos (by simp [other]), induction]

theorem totalSpaceOf_numLimitPass {fuel : Nat} {after : List Slot} {removed : List Removed}
    (ends : numLimitPass fuel slots = some (after, removed)) :
    totalSpaceOf after = totalSpaceOf slots := by
  have others := forEachSlot_others ends
  simp only [Bool.not_true] at others
  rw [totalSpaceOf, totalSpaceOf, others]

theorem numLimitPass_ends_iff (indexed : ∀ slot ∈ slots, slot.folder.Indexed) :
    (∃ fuel result, numLimitPass fuel slots = some result) ↔
      ∀ slot ∈ slots, slot.attr.numLimit = true → 0 ≤ slot.attr.limit :=
  passEnds_iff measures_numLimitOf rfl (fun _ => Int.natCast_nonneg _)
    fun slot member _ => indexed slot member

/-- The second loop after the first one, which leaves it the folders that it handles. -/
theorem spaceLimitPass_ends_iff (indexed : ∀ slot ∈ slots, slot.folder.Indexed) {fuel : Nat}
    {after : List Slot} {removed : List Removed}
    (ends : numLimitPass fuel slots = some (after, removed)) (totalSpace : Nat) :
    (∃ fuel result, spaceLimitPass totalSpace fuel after = some result) ↔
      ∀ slot ∈ slots, slot.attr.numLimit = false → 0 ≤ slot.attr.limit := by
  have others := forEachSlot_others ends
  have same : ∀ slot, slot ∈ after ∧ slot.attr.numLimit = false ↔
      slot ∈ slots ∧ slot.attr.numLimit = false := by
    intro slot
    simpa using congrArg (slot ∈ ·) others
  have still : ∀ slot ∈ after, slot.attr.numLimit = false → slot.folder.Indexed :=
    fun slot member isKind => indexed slot ((same slot).mp ⟨member, isKind⟩).1
  have each := passEnds_iff (measures_spaceLimitOf totalSpace) shareOf_nil
    (fun _ => Int.natCast_nonneg _) still
  refine each.trans ⟨fun nonneg slot member isKind => ?_, fun nonneg slot member isKind => ?_⟩
  · exact nonneg slot ((same slot).mpr ⟨member, isKind⟩).1 isKind
  · exact nonneg slot ((same slot).mp ⟨member, isKind⟩).1 isKind

/-- The answer of the file system asks for the second loop, and there is something to share
out. -/
def SpaceReached (freeSizeDelMin : Int) (freeSize : Option Int) (slots : List Slot) : Prop :=
  (∃ free, freeSize = some free ∧ free ≤ freeSizeDelMin * 1024) ∧ totalSpaceOf slots ≠ 0

/-- The pass ends when no loop that it reaches has a limit below zero. -/
theorem limitPasses_end_iff (freeSizeDelMin : Int) (freeSize : Option Int)
    (indexed : ∀ slot ∈ slots, slot.folder.Indexed) :
    (∃ fuel result, scanPass freeSizeDelMin freeSize fuel slots = some result) ↔
      ∀ slot ∈ slots, slot.attr.numLimit = true ∨ SpaceReached freeSizeDelMin freeSize slots →
        0 ≤ slot.attr.limit := by
  constructor
  · rintro ⟨fuel, result, ends⟩ slot member reached
    obtain ⟨⟨after, removed⟩, numberEnds, ends⟩ := Option.bind_eq_some_iff.mp ends
    cases kind : slot.attr.numLimit with
    | true => exact (numLimitPass_ends_iff indexed).mp ⟨fuel, _, numberEnds⟩ slot member kind
    | false =>
        obtain ⟨⟨free, rfl, below⟩, someSpace⟩ :=
          reached.resolve_left fun isTrue => by rw [kind] at isTrue; cases isTrue
        rw [← totalSpaceOf_numLimitPass numberEnds] at someSpace
        simp only [if_neg (Int.not_lt.mpr below), if_neg someSpace] at ends
        obtain ⟨spaced, spaceEnds, -⟩ := Option.bind_eq_some_iff.mp ends
        exact (spaceLimitPass_ends_iff indexed numberEnds _).mp ⟨fuel, _, spaceEnds⟩ slot member
          kind
  · intro nonneg
    obtain ⟨fuel, ⟨after, removed⟩, numberEnds⟩ := (numLimitPass_ends_iff indexed).mpr
      fun slot member kind => nonneg slot member (Or.inl kind)
    by_cases reached : SpaceReached freeSizeDelMin freeSize slots
    · obtain ⟨more, spaced, spaceEnds⟩ :=
        (spaceLimitPass_ends_iff indexed numberEnds (totalSpaceOf after)).mpr
          fun slot member _ => nonneg slot member (Or.inr reached)
      obtain ⟨⟨free, rfl, below⟩, someSpace⟩ := reached
      rw [← totalSpaceOf_numLimitPass numberEnds] at someSpace
      refine ⟨max fuel more, ⟨spaced.1, removed ++ spaced.2, false⟩, ?_⟩
      rw [scanPass, numLimitPass, forEachSlot_mono (Nat.le_max_left fuel more) numberEnds]
      simp only [Option.bind_eq_bind, Option.bind_some, if_neg (Int.not_lt.mpr below),
        if_neg someSpace]
      rw [spaceLimitPass, forEachSlot_mono (Nat.le_max_right fuel more) spaceEnds]
      rfl
    · refine ⟨fuel, ?_⟩
      rw [scanPass, numberEnds]
      simp only [Option.bind_eq_bind, Option.bind_some]
      cases freeSize with
      | none => exact ⟨_, rfl⟩
      | some free =>
          by_cases above : free > freeSizeDelMin * 1024
          · exact ⟨_, if_pos above⟩
          · have noSpace : totalSpaceOf after = 0 := by
              rw [totalSpaceOf_numLimitPass numberEnds]
              by_contra someSpace
              exact reached ⟨⟨free, rfl, Int.not_lt.mp above⟩, someSpace⟩
            exact ⟨_, (if_neg above).trans (if_pos noSpace)⟩

end PassOfThread

/-- A card that is short of space. -/
theorem limitPasses_end_iff_two :
    (∃ fuel result, scanPass 500 (some 0) fuel [halfQuota] = some result) ↔
      ∀ slot ∈ [halfQuota], slot.attr.numLimit = true ∨ SpaceReached 500 (some 0) [halfQuota] →
        0 ≤ slot.attr.limit :=
  limitPasses_end_iff 500 (some 0) (by simpa [halfQuota] using twoRecordings_indexed)

/-- With a limit below zero the loop goes on when the folder is empty. -/
theorem negative_limit_endless :
    ¬ ∀ (freeSizeDelMin : Int) (freeSize : Option Int) (slots : List Slot),
      (∀ slot ∈ slots, slot.folder.Indexed) →
        ∃ fuel result, scanPass freeSizeDelMin freeSize fuel slots = some result := by
  intro general
  have indexed : ∀ slot ∈ [(⟨⟨"video0", true, -1⟩, twoRecordings⟩ : Slot)],
      slot.folder.Indexed := by
    simpa using twoRecordings_indexed
  obtain ⟨fuel, result, ends⟩ := general 500 (some 0) _ indexed
  obtain ⟨numbered, numberEnds, -⟩ := Option.bind_eq_some_iff.mp ends
  have nonneg := (numLimitPass_ends_iff indexed).mp ⟨fuel, numbered, numberEnds⟩ _
    (List.mem_singleton.mpr rfl) rfl
  exact absurd nonneg (by decide)

end Rkipc.Storage
