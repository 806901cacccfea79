import Mathlib.Algebra.BigOperators.Group.List.Basic
import Rkipc.Storage.FolderIndex

namespace Rkipc.Storage

/-! One pass of the deletion loop of `rkipc_storage_file_scan_thread`. -/

/-- `pHandle->dev_sta.folder[i]` with its `devAttr.folder_attr[i]`. -/
structure Slot where
  attr : FolderAttr
  folder : Folder

/-- The path `"%s/%s/%s"` below the mount path. -/
structure Removed where
  folderPath : String
  filename : FileName
deriving DecidableEq

/-- The two deletion loops differ in how they compute `limit`.  The loop runs at
most `fuel` times; it deletes the file that was last when `limit` was last
compared, also when the new `limit` is already within the quota. -/
def deleteOldest (limitOf : Folder → Int) (attr : FolderAttr) :
    (fuel : Nat) → (limit : Int) → Folder → Option (Folder × List Removed)
  | 0, _, _ => none
  | fuel + 1, limit, folder =>
      if limit > attr.limit then
        let limit := limitOf folder
        match folder.fileListLast with
        | some file =>
            (deleteOldest limitOf attr fuel limit
              (folder.fileListDel file.filename.snprintf)).map
              fun (folder, removed) =>
                (folder, ⟨attr.folderPath, file.filename⟩ :: removed)
        | none => deleteOldest limitOf attr fuel limit folder
      else some (folder, [])

def numLimitOf (folder : Folder) : Int := folder.fileNum

def spaceLimitOf (totalSpace : Nat) (folder : Folder) : Int :=
  (folder.totalSpace * 100 / totalSpace : Nat)

/-- A loop over all slots that handles the ones with the given `num_limit`. -/
def forEachSlot (numLimit : Bool) (limitOf : Folder → Int) (fuel : Nat) :
    List Slot → Option (List Slot × List Removed)
  | [] => some ([], [])
  | slot :: rest =>
      if slot.attr.numLimit = numLimit then do
        let (folder, removed) ←
          deleteOldest limitOf slot.attr fuel (limitOf slot.folder) slot.folder
        let (slots, others) ← forEachSlot numLimit limitOf fuel rest
        some ({ slot with folder := folder } :: slots, removed ++ others)
      else do
        let (slots, removed) ← forEachSlot numLimit limitOf fuel rest
        some (slot :: slots, removed)

def numLimitPass (fuel : Nat) (slots : List Slot) :
    Option (List Slot × List Removed) :=
  forEachSlot true numLimitOf fuel slots

def spaceLimitPass (totalSpace fuel : Nat) (slots : List Slot) :
    Option (List Slot × List Removed) :=
  forEachSlot false (spaceLimitOf totalSpace) fuel slots

def totalSpaceOf (slots : List Slot) : Nat :=
  ((slots.filter fun slot => slot.attr.numLimit = false).map fun slot =>
    slot.folder.totalSpace).sum

structure PassResult where
  slots : List Slot
  removed : List Removed
  /-- `goto file_scan_out` -/
  leaves : Bool

/-- `freeSize` is the outcome of `rkipc_storage_get_disk_size`. -/
def scanPass (freeSizeDelMin : Int) (freeSize : Option Int) (fuel : Nat)
    (slots : List Slot) : Option PassResult := do
  let (slots, removed) ← numLimitPass fuel slots
  match freeSize with
  | none => some ⟨slots, removed, true⟩
  | some freeSize =>
      if freeSize > freeSizeDelMin * 1024 then some ⟨slots, removed, false⟩
      else
        let totalSpace := totalSpaceOf slots
        if totalSpace = 0 then some ⟨slots, removed, false⟩
        else do
          let (slots, others) ← spaceLimitPass totalSpace fuel slots
          some ⟨slots, removed ++ others, false⟩

/-! How the loops end. -/

def Vanishes (limitOf : Folder → Int) : Prop :=
  ∀ folder : Folder, folder.Indexed → folder.fileListFirst = [] →
    limitOf folder = 0

theorem numLimitOf_vanishes : Vanishes numLimitOf := by
  intro folder indexed isEmpty
  simp [numLimitOf, indexed.fileNum, isEmpty]

theorem spaceLimitOf_vanishes (totalSpace : Nat) :
    Vanishes (spaceLimitOf totalSpace) := by
  intro folder indexed isEmpty
  simp [spaceLimitOf, indexed.totalSpace, isEmpty]

theorem deleteOldest_spec {limitOf : Folder → Int} {attr : FolderAttr}
    (vanishes : Vanishes limitOf) (nonneg : 0 ≤ attr.limit) {folder : Folder}
    (indexed : folder.Indexed) {fuel : Nat} (limit : Int)
    (enough : folder.fileListFirst.length + 2 ≤ fuel) :
    ∃ after removed,
      deleteOldest limitOf attr fuel limit folder = some (after, removed) ∧
      after.Indexed ∧
      after.fileListFirst.length ≤ folder.fileListFirst.length ∧
      (removed = [] ↔ limit ≤ attr.limit ∨ folder.fileListFirst = []) := by
  induction fuel generalizing folder limit with
  | zero => omega
  | succ fuel induction =>
      simp only [deleteOldest]
      split
      next exceeds =>
        cases last : folder.fileListLast with
        | none =>
            have isEmpty := indexed.last_eq_none_iff.mp last
            have within : ¬ limitOf folder > attr.limit := by
              rw [vanishes folder indexed isEmpty]
              omega
            cases fuel with
            | zero => omega
            | succ fuel =>
                exact ⟨folder, [], by simp [deleteOldest, within], indexed,
                  Nat.le_refl _, by simp [isEmpty]⟩
        | some file =>
            have listed : file ∈ folder.fileListFirst :=
              List.mem_of_getLast? (indexed.last ▸ last)
            have shorter := indexed.fileListDel_length listed
            obtain ⟨after, removed, deletes, isIndexed, shrinks, _⟩ :=
              induction (indexed.fileListDel file.filename) (limitOf folder)
                (by omega)
            refine ⟨after, ⟨attr.folderPath, file.filename⟩ :: removed,
              by simp [deletes], isIndexed, by omega, ?_⟩
            have nonempty := List.ne_nil_of_mem listed
            simp only [reduceCtorEq, nonempty, or_false, false_iff]
            omega
      next within =>
        exact ⟨folder, [], rfl, indexed, Nat.le_refl _,
          by simp only [true_iff]; omega⟩

/-- The slots have been scanned, with limits of at least zero, and the fuel is
enough for each of them. -/
structure Scanned (fuel : Nat) (slots : List Slot) : Prop where
  indexed : ∀ slot ∈ slots, slot.folder.Indexed
  nonneg : ∀ slot ∈ slots, 0 ≤ slot.attr.limit
  enough : ∀ slot ∈ slots, slot.folder.fileListFirst.length + 2 ≤ fuel

theorem Scanned.tail {fuel : Nat} {slot : Slot} {rest : List Slot}
    (scanned : Scanned fuel (slot :: rest)) : Scanned fuel rest where
  indexed other member := scanned.indexed other (List.mem_cons_of_mem _ member)
  nonneg other member := scanned.nonneg other (List.mem_cons_of_mem _ member)
  enough other member := scanned.enough other (List.mem_cons_of_mem _ member)

def Exceeds (numLimit : Bool) (limitOf : Folder → Int) (slot : Slot) : Prop :=
  slot.attr.numLimit = numLimit ∧ slot.attr.limit < limitOf slot.folder

theorem Exceeds.nonempty {numLimit : Bool} {limitOf : Folder → Int}
    {slot : Slot} (exceeds : Exceeds numLimit limitOf slot)
    (vanishes : Vanishes limitOf) (indexed : slot.folder.Indexed)
    (nonneg : 0 ≤ slot.attr.limit) : slot.folder.fileListFirst ≠ [] := by
  intro isEmpty
  have exceeded := exceeds.2
  rw [vanishes _ indexed isEmpty] at exceeded
  omega

/-- What a pass over the slots keeps of each: its attributes, its index and,
where the pass does not handle it, the whole slot. -/
structure Kept (numLimit : Bool) (before after : Slot) : Prop where
  attr : after.attr = before.attr
  other : before.attr.numLimit ≠ numLimit → after = before
  indexed : after.folder.Indexed
  shrinks : after.folder.fileListFirst.length ≤
    before.folder.fileListFirst.length

theorem forEachSlot_spec (numLimit : Bool) {limitOf : Folder → Int}
    (vanishes : Vanishes limitOf) {fuel : Nat} {slots : List Slot}
    (scanned : Scanned fuel slots) :
    ∃ after removed,
      forEachSlot numLimit limitOf fuel slots = some (after, removed) ∧
      List.Forall₂ (Kept numLimit) slots after ∧
      (removed ≠ [] ↔ ∃ slot ∈ slots, Exceeds numLimit limitOf slot) := by
  induction slots with
  | nil => exact ⟨[], [], rfl, .nil, by simp⟩
  | cons slot rest induction =>
      obtain ⟨after, removed, passes, kept, removes⟩ := induction scanned.tail
      have indexed := scanned.indexed slot List.mem_cons_self
      have nonneg := scanned.nonneg slot List.mem_cons_self
      simp only [forEachSlot, passes]
      split
      next isKind =>
        obtain ⟨folder, own, deletes, isIndexed, shrinks, deletesNone⟩ :=
          deleteOldest_spec vanishes nonneg indexed (limitOf slot.folder)
            (scanned.enough slot List.mem_cons_self)
        have deletesSome : own ≠ [] ↔ Exceeds numLimit limitOf slot := by
          rw [Ne, deletesNone]
          constructor
          · intro starts
            exact ⟨isKind, by omega⟩
          · rintro exceeds (within | isEmpty)
            · exact absurd exceeds.2 (by omega)
            · exact exceeds.nonempty vanishes indexed nonneg isEmpty
        refine ⟨{ slot with folder := folder } :: after, own ++ removed,
          by simp [deletes],
          .cons ⟨rfl, fun other => (other isKind).elim, isIndexed, shrinks⟩ kept,
          ?_⟩
        rw [List.exists_mem_cons_iff, ← deletesSome, ← removes]
        simp only [Ne, List.append_eq_nil_iff, not_and_or]
      next otherKind =>
        refine ⟨slot :: after, removed, rfl,
          .cons ⟨rfl, fun _ => rfl, indexed, Nat.le_refl _⟩ kept, ?_⟩
        rw [List.exists_mem_cons_iff, removes]
        simp [Exceeds, otherKind]

theorem Scanned.kept {numLimit : Bool} {fuel : Nat} {slots after : List Slot}
    (scanned : Scanned fuel slots)
    (kept : List.Forall₂ (Kept numLimit) slots after) : Scanned fuel after := by
  induction kept with
  | nil => exact scanned
  | @cons before last rest others keeps _ induction =>
      obtain ⟨indexed, nonneg, enough⟩ := induction scanned.tail
      refine ⟨?_, ?_, ?_⟩ <;> refine List.forall_mem_cons.mpr ⟨?_, ‹_›⟩
      · exact keeps.indexed
      · rw [keeps.attr]
        exact scanned.nonneg before List.mem_cons_self
      · have shrinks := keeps.shrinks
        have room := scanned.enough before List.mem_cons_self
        omega

theorem totalSpaceOf_kept {slots after : List Slot}
    (kept : List.Forall₂ (Kept true) slots after) :
    totalSpaceOf after = totalSpaceOf slots := by
  induction kept with
  | nil => rfl
  | @cons before last rest others keeps _ induction =>
      unfold totalSpaceOf at induction ⊢
      cases numLimit : before.attr.numLimit with
      | true => simpa [keeps.attr, numLimit] using induction
      | false => simpa [keeps.other (by simp [numLimit]), numLimit] using induction

theorem exceeds_kept {limitOf : Folder → Int} {slots after : List Slot}
    (kept : List.Forall₂ (Kept true) slots after) :
    (∃ slot ∈ after, Exceeds false limitOf slot) ↔
      ∃ slot ∈ slots, Exceeds false limitOf slot := by
  induction kept with
  | nil => rfl
  | @cons before last rest others keeps _ induction =>
      rw [List.exists_mem_cons_iff, List.exists_mem_cons_iff, induction]
      have same : Exceeds false limitOf last ↔ Exceeds false limitOf before := by
        cases numLimit : before.attr.numLimit with
        | true => simp [Exceeds, keeps.attr, numLimit]
        | false => rw [keeps.other (by simp [numLimit])]
      rw [same]

/-! More fuel does not change a pass that ends. -/

theorem deleteOldest_mono {limitOf : Folder → Int} {attr : FolderAttr}
    {fuel more : Nat} (le : fuel ≤ more) {limit : Int} {folder : Folder}
    {result : Folder × List Removed}
    (ends : deleteOldest limitOf attr fuel limit folder = some result) :
    deleteOldest limitOf attr more limit folder = some result := by
  induction fuel generalizing more limit folder result with
  | zero => contradiction
  | succ fuel induction =>
      cases more with
      | zero => omega
      | succ more =>
          simp only [deleteOldest] at ends ⊢
          split at ends
          next exceeds =>
            rw [if_pos exceeds]
            cases last : folder.fileListLast with
            | none =>
                simp only [last] at ends ⊢
                exact induction (by omega) ends
            | some file =>
                simp only [last] at ends ⊢
                obtain ⟨rest, restEnds, rfl⟩ := Option.map_eq_some_iff.mp ends
                rw [induction (by omega) restEnds]
                rfl
          next within =>
            rw [if_neg within]
            exact ends

theorem forEachSlot_mono {numLimit : Bool} {limitOf : Folder → Int}
    {fuel more : Nat} (le : fuel ≤ more) {slots : List Slot}
    {result : List Slot × List Removed}
    (ends : forEachSlot numLimit limitOf fuel slots = some result) :
    forEachSlot numLimit limitOf more slots = some result := by
  induction slots generalizing result with
  | nil => exact ends
  | cons slot rest induction =>
      simp only [forEachSlot] at ends ⊢
      split at ends
      next isKind =>
        rw [if_pos isKind]
        obtain ⟨own, ownEnds, ends⟩ := Option.bind_eq_some_iff.mp ends
        obtain ⟨others, othersEnd, ends⟩ := Option.bind_eq_some_iff.mp ends
        rw [deleteOldest_mono le ownEnds, induction othersEnd]
        exact ends
      next otherKind =>
        rw [if_neg otherKind]
        obtain ⟨others, othersEnd, ends⟩ := Option.bind_eq_some_iff.mp ends
        rw [induction othersEnd]
        exact ends

theorem scanPass_mono {freeSizeDelMin : Int} {freeSize : Option Int}
    {fuel more : Nat} (le : fuel ≤ more) {slots : List Slot}
    {result : PassResult}
    (ends : scanPass freeSizeDelMin freeSize fuel slots = some result) :
    scanPass freeSizeDelMin freeSize more slots = some result := by
  unfold scanPass at ends ⊢
  obtain ⟨numbered, numberedEnds, ends⟩ := Option.bind_eq_some_iff.mp ends
  rw [numLimitPass, forEachSlot_mono le numberedEnds]
  simp only [Option.bind_eq_bind, Option.bind_some]
  split
  next => exact ends
  next freeSize =>
    simp only at ends
    split
    next above =>
      rw [if_pos above] at ends
      exact ends
    next below =>
      rw [if_neg below] at ends
      split
      next noSpace =>
        rw [if_pos noSpace] at ends
        exact ends
      next space =>
        rw [if_neg space] at ends
        obtain ⟨spaced, spacedEnds, ends⟩ := Option.bind_eq_some_iff.mp ends
        rw [spaceLimitPass, forEachSlot_mono le spacedEnds]
        exact ends

end Rkipc.Storage
