import Rkipc.Libc.Align
import Rkipc.Storage.AutoDelete

namespace Rkipc.Storage

open Libc

/-! The sizes that `statfs` gives, and the limit that they are compared with. -/

/-- What the file system answers; the size of a block is an `int`. -/
structure FileSystem where
  bsize : Nat
  blocks : Nat
  bfree : Nat
  bsizeLt : bsize < 2 ^ 31
  blocksLt : blocks < 2 ^ 64
  bfreeLt : bfree < 2 ^ 64

/-- The width of the counts in `struct statfs`, and so of their products. -/
inductive StatfsWidth
  | bits32
  | bits64
deriving DecidableEq

def StatfsWidth.bits : StatfsWidth → Nat
  | .bits32 => 32
  | .bits64 => 64

section DiskSize

variable (width : StatfsWidth) (disk : FileSystem)

/-- It fails with `EOVERFLOW` for counts that have no place in the structure. -/
def statfs : Option FileSystem :=
  if disk.blocks < 2 ^ width.bits ∧ disk.bfree < 2 ^ width.bits then some disk else none

/-- The product and its shift are unsigned, the result is stored in an `int`. -/
def inKib (size count : Nat) : Int :=
  Int.bmod ((size * count % 2 ^ width.bits) >>> 10 : Nat) (2 ^ 32)

/-- `rkipc_storage_get_disk_size`; `total_size` and `free_size` are the two numbers. -/
def getDiskSize : Option (Int × Int) :=
  (statfs width disk).map fun diskInfo =>
    (inKib width diskInfo.bsize diskInfo.blocks, inKib width diskInfo.bfree diskInfo.bsize)

/-- The comparison of the scan thread, which goes on to the space limit if it fails;
`none` is an overflow of the product. -/
def deletesBySpace (freeSize freeSizeDelMin : Int) : Option Bool :=
  (toInt (freeSizeDelMin * 1024)).map fun least => !decide (freeSize > least)

def FileSystem.totalKib : Nat := disk.bsize * disk.blocks / 1024

def FileSystem.freeKib : Nat := disk.bsize * disk.bfree / 1024

/-- Both sizes are those of the disk, and the thread goes by the free size of the disk. -/
def SizesExact (freeSizeDelMin : Int32) : Prop :=
  ∃ totalSize freeSize, getDiskSize width disk = some (totalSize, freeSize) ∧
    totalSize = disk.totalKib ∧ freeSize = disk.freeKib ∧
    deletesBySpace freeSize freeSizeDelMin.toInt =
      some (decide ((disk.freeKib : Int) ≤ freeSizeDelMin.toInt * 1024))

/-- The products are below the range of the counts and below 2 TiB, and the limit is less than
2 GiB off. -/
structure SizesFit (freeSizeDelMin : Int32) : Prop where
  blocks : disk.blocks < 2 ^ width.bits
  bfree : disk.bfree < 2 ^ width.bits
  total : disk.bsize * disk.blocks < 2 ^ min width.bits 41
  free : disk.bsize * disk.bfree < 2 ^ min width.bits 41
  least : -2097152 ≤ freeSizeDelMin.toInt
  most : freeSizeDelMin.toInt ≤ 2097151

end DiskSize

section Exact

variable {width : StatfsWidth} {disk : FileSystem} {size count : Nat} {freeSize : Int}

theorem inKib_eq_iff :
    inKib width size count = (size * count / 1024 : Nat) ↔
      size * count < 2 ^ min width.bits 41 := by
  unfold inKib
  generalize size * count = bytes
  simp only [Nat.shiftRight_eq_div_pow, Int.bmod_def]
  cases width with
  | bits32 =>
      simp only [StatfsWidth.bits, (by decide : min 32 41 = 32)]
      omega
  | bits64 =>
      simp only [StatfsWidth.bits, (by decide : min 64 41 = 41)]
      omega

theorem deletesBySpace_eq_some_iff {freeSizeDelMin : Int} :
    deletesBySpace freeSize freeSizeDelMin =
        some (decide (freeSize ≤ freeSizeDelMin * 1024)) ↔
      -2097152 ≤ freeSizeDelMin ∧ freeSizeDelMin ≤ 2097151 := by
  unfold deletesBySpace toInt intMin intMax
  split
  next inRange =>
    refine iff_of_true ?_ (by omega)
    rw [Option.map_some, Option.some_inj, ← decide_not]
    exact decide_eq_decide.mpr not_lt
  next outside =>
    exact iff_of_false nofun (by omega)

theorem getDiskSize_eq_some_iff {totalSize : Int} :
    getDiskSize width disk = some (totalSize, freeSize) ↔
      (disk.blocks < 2 ^ width.bits ∧ disk.bfree < 2 ^ width.bits) ∧
        inKib width disk.bsize disk.blocks = totalSize ∧
        inKib width disk.bsize disk.bfree = freeSize := by
  unfold getDiskSize statfs
  have swapped : inKib width disk.bfree disk.bsize = inKib width disk.bsize disk.bfree := by
    unfold inKib
    rw [mul_comm]
  split
  next fits => simp [fits, swapped]
  next missing => exact iff_of_false nofun fun both => missing both.1

/-- The sizes are exact for a disk and a limit that fit, and for no other. -/
theorem sizesExact_iff (width : StatfsWidth) (disk : FileSystem) (freeSizeDelMin : Int32) :
    SizesExact width disk freeSizeDelMin ↔ SizesFit width disk freeSizeDelMin := by
  constructor
  · rintro ⟨totalSize, freeSize, got, isTotal, isFree, limit⟩
    obtain ⟨⟨blocks, bfree⟩, total, free⟩ := getDiskSize_eq_some_iff.mp got
    rw [← isFree] at limit
    obtain ⟨least, most⟩ := deletesBySpace_eq_some_iff.mp limit
    exact {
      blocks, bfree
      total := inKib_eq_iff.mp (total.trans isTotal)
      free := inKib_eq_iff.mp (free.trans isFree)
      least, most }
  · intro fits
    refine ⟨disk.totalKib, disk.freeKib, getDiskSize_eq_some_iff.mpr ⟨⟨fits.blocks, fits.bfree⟩,
      inKib_eq_iff.mpr fits.total, inKib_eq_iff.mpr fits.free⟩, rfl, rfl, ?_⟩
    exact deletesBySpace_eq_some_iff.mpr ⟨fits.least, fits.most⟩

/-- The pass over a disk that fits goes by the free size of the disk. -/
theorem scanPass_of_sizesFit {freeSizeDelMin : Int32}
    (fits : SizesFit width disk freeSizeDelMin) (fuel : Nat) (slots : List Slot) :
    scanPass freeSizeDelMin.toInt ((getDiskSize width disk).map Prod.snd) fuel slots =
      scanPass freeSizeDelMin.toInt (some disk.freeKib) fuel slots := by
  obtain ⟨totalSize, freeSize, got, -, rfl, -⟩ := (sizesExact_iff width disk _).mpr fits
  rw [got, Option.map_some]

end Exact

/-- An empty card of 2 TiB. -/
def emptyCard : FileSystem where
  bsize := 4096
  blocks := 2 ^ 29
  bfree := 2 ^ 29
  bsizeLt := by decide
  blocksLt := by decide
  bfreeLt := by decide

/-- Its sizes come out below zero, and the thread deletes. -/
theorem emptyCard_full :
    getDiskSize .bits64 emptyCard = some (-2 ^ 31, -2 ^ 31) ∧
      deletesBySpace (-2 ^ 31) 500 = some true ∧ ¬ SizesExact .bits64 emptyCard 500 := by
  have got : getDiskSize .bits64 emptyCard = some (-2 ^ 31, -2 ^ 31) := by decide
  refine ⟨got, by decide, ?_⟩
  rintro ⟨totalSize, freeSize, isGot, isTotal, -⟩
  rw [got] at isGot
  cases isGot
  exact absurd isTotal (by decide)

/-- Counts of 32 bits are too few for a card of 4 GiB. -/
example : inKib .bits32 4096 (2 ^ 20) = 0 := by decide

end Rkipc.Storage
