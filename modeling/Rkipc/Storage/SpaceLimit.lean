import Mathlib.Tactic.Ring
import Rkipc.Storage.AutoDelete

namespace Rkipc.Storage

/-! When a pass over a full card deletes a file. -/

def PassEnds (freeSizeDelMin freeSize : Int) (slots : List Slot)
    (result : PassResult) : Prop :=
  ∃ fuel, scanPass freeSizeDelMin (some freeSize) fuel slots = some result

theorem PassEnds.unique {freeSizeDelMin freeSize : Int} {slots : List Slot}
    {left right : PassResult}
    (leftEnds : PassEnds freeSizeDelMin freeSize slots left)
    (rightEnds : PassEnds freeSizeDelMin freeSize slots right) :
    left = right := by
  obtain ⟨leftFuel, leftEnds⟩ := leftEnds
  obtain ⟨rightFuel, rightEnds⟩ := rightEnds
  have leftMore := scanPass_mono (Nat.le_max_left leftFuel rightFuel) leftEnds
  rw [scanPass_mono (Nat.le_max_right leftFuel rightFuel) rightEnds] at leftMore
  exact (Option.some.inj leftMore).symm

/-- The pass ends and has removed at least one file. -/
def MakesRoom (freeSizeDelMin freeSize : Int) (slots : List Slot) : Prop :=
  ∃ result, PassEnds freeSizeDelMin freeSize slots result ∧
    result.removed ≠ []

/-- The free size asks for a deletion and there is something to share out. -/
def RoomNeeded (freeSizeDelMin freeSize : Int) (slots : List Slot) : Prop :=
  freeSize ≤ freeSizeDelMin * 1024 ∧ 0 < totalSpaceOf slots

theorem exists_scanned {slots : List Slot}
    (indexed : ∀ slot ∈ slots, slot.folder.Indexed)
    (nonneg : ∀ slot ∈ slots, 0 ≤ slot.attr.limit) :
    ∃ fuel, Scanned fuel slots := by
  induction slots with
  | nil => exact ⟨0, by simp, by simp, by simp⟩
  | cons slot rest induction =>
      obtain ⟨fuel, scanned⟩ := induction
        (fun other member => indexed other (List.mem_cons_of_mem _ member))
        (fun other member => nonneg other (List.mem_cons_of_mem _ member))
      refine ⟨max (slot.folder.fileListFirst.length + 2) fuel, indexed, nonneg,
        List.forall_mem_cons.mpr ⟨Nat.le_max_left _ _, ?_⟩⟩
      intro other member
      exact (scanned.enough other member).trans (Nat.le_max_right _ _)

/-- The truncated share is above the quota when the folder has at least one
whole percent more than its quota. -/
theorem exceeds_space_iff {totalSpace : Nat} (positive : 0 < totalSpace)
    (slot : Slot) :
    Exceeds false (spaceLimitOf totalSpace) slot ↔
      slot.attr.numLimit = false ∧
        (slot.attr.limit + 1) * totalSpace ≤ slot.folder.totalSpace * 100 := by
  unfold Exceeds spaceLimitOf
  have positiveInt : (0 : Int) < totalSpace := by exact_mod_cast positive
  have share : slot.attr.limit < (slot.folder.totalSpace * 100 / totalSpace :
      Nat) ↔
      (slot.attr.limit + 1) * totalSpace ≤ slot.folder.totalSpace * 100 := by
    rw [Int.lt_iff_add_one_le]
    push_cast
    exact Int.le_ediv_iff_mul_le positiveInt
  rw [share]

theorem scanPass_removes {freeSizeDelMin freeSize : Int} {slots : List Slot}
    (indexed : ∀ slot ∈ slots, slot.folder.Indexed)
    (nonneg : ∀ slot ∈ slots, 0 ≤ slot.attr.limit)
    (needed : RoomNeeded freeSizeDelMin freeSize slots) :
    ∃ result, PassEnds freeSizeDelMin freeSize slots result ∧
      (result.removed ≠ [] ↔
        (∃ slot ∈ slots, Exceeds true numLimitOf slot) ∨
        ∃ slot ∈ slots,
          Exceeds false (spaceLimitOf (totalSpaceOf slots)) slot) := by
  obtain ⟨fuel, scanned⟩ := exists_scanned indexed nonneg
  obtain ⟨numbered, byNumber, numberEnds, keptNumber, numberRemoves⟩ :=
    forEachSlot_spec true numLimitOf_vanishes scanned
  obtain ⟨spaced, bySpace, spaceEnds, _, spaceRemoves⟩ :=
    forEachSlot_spec false (spaceLimitOf_vanishes (totalSpaceOf slots))
      (scanned.kept keptNumber)
  have sameTotal := totalSpaceOf_kept keptNumber
  have notAbove : ¬ freeSize > freeSizeDelMin * 1024 := by
    have free := needed.1
    omega
  have someSpace : totalSpaceOf slots ≠ 0 := needed.2.ne'
  refine ⟨⟨spaced, byNumber ++ bySpace, false⟩, ⟨fuel, ?_⟩, ?_⟩
  · simp [scanPass, numLimitPass, spaceLimitPass, numberEnds, notAbove,
      sameTotal, someSpace, spaceEnds]
  · rw [exceeds_kept keptNumber] at spaceRemoves
    rw [← numberRemoves, ← spaceRemoves]
    simp only [Ne, List.append_eq_nil_iff, not_and_or]

theorem makesRoom_iff_exceeds {freeSizeDelMin freeSize : Int}
    {slots : List Slot} (indexed : ∀ slot ∈ slots, slot.folder.Indexed)
    (nonneg : ∀ slot ∈ slots, 0 ≤ slot.attr.limit)
    (needed : RoomNeeded freeSizeDelMin freeSize slots) :
    MakesRoom freeSizeDelMin freeSize slots ↔
      (∃ slot ∈ slots, Exceeds true numLimitOf slot) ∨
      ∃ slot ∈ slots,
        Exceeds false (spaceLimitOf (totalSpaceOf slots)) slot := by
  obtain ⟨result, ends, removes⟩ := scanPass_removes indexed nonneg needed
  rw [← removes]
  constructor
  · intro both
    obtain ⟨other, otherEnds, removed⟩ := both
    rwa [ends.unique otherEnds]
  · exact fun removed => ⟨result, ends, removed⟩

/-- The pass over a full card removes a file if and only if some folder is over
its number limit, or over its quota by at least one percent of the total. -/
theorem makesRoom_iff {freeSizeDelMin freeSize : Int} {slots : List Slot}
    (indexed : ∀ slot ∈ slots, slot.folder.Indexed)
    (nonneg : ∀ slot ∈ slots, 0 ≤ slot.attr.limit)
    (needed : RoomNeeded freeSizeDelMin freeSize slots) :
    MakesRoom freeSizeDelMin freeSize slots ↔
      (∃ slot ∈ slots, slot.attr.numLimit = true ∧
        slot.attr.limit < slot.folder.fileNum) ∨
      ∃ slot ∈ slots, slot.attr.numLimit = false ∧
        (slot.attr.limit + 1) * totalSpaceOf slots ≤
          slot.folder.totalSpace * 100 := by
  rw [makesRoom_iff_exceeds indexed nonneg needed]
  simp only [exceeds_space_iff needed.2]
  rfl

def sampleName : FileName := ⟨[97, 46, 109, 112, 52], by decide, by decide⟩

def oneFile (blocks : Nat) : Folder :=
  ((Folder.empty "/userdata/video0" 1).fileListAdd sampleName
    ⟨.regular, 512 * blocks, blocks, 0⟩ true).1

theorem oneFile_indexed (blocks : Nat) : (oneFile blocks).Indexed :=
  (Folder.indexed_empty _ _).fileListAdd _ _ (by simp [Folder.empty])

theorem oneFile_totalSpace (blocks : Nat) :
    (oneFile blocks).totalSpace = blocks * 512 := by
  simp [oneFile, Folder.fileListAdd, Folder.empty, File.ofStat,
    Nat.shiftLeft_eq]

def byQuota (quota : Int) (blocks : Nat) : Slot :=
  ⟨⟨"video0", false, quota⟩, oneFile blocks⟩

theorem makesRoom_iff_quota_thirty :
    MakesRoom 200 0 [byQuota 30 1] ↔
      (∃ slot ∈ [byQuota 30 1], slot.attr.numLimit = true ∧
        slot.attr.limit < slot.folder.fileNum) ∨
      ∃ slot ∈ [byQuota 30 1], slot.attr.numLimit = false ∧
        (slot.attr.limit + 1) * totalSpaceOf [byQuota 30 1] ≤
          slot.folder.totalSpace * 100 :=
  makesRoom_iff
    (by simpa [byQuota] using oneFile_indexed 1)
    (by simp [byQuota])
    ⟨by decide, by decide⟩

/-- A folder that has the whole card as its quota is never cut back. -/
theorem full_quota_keeps_card_full :
    ¬ ∀ (freeSizeDelMin freeSize : Int) (slots : List Slot),
      (∀ slot ∈ slots, slot.folder.Indexed) →
      (∀ slot ∈ slots, 0 ≤ slot.attr.limit) →
      ((slots.filter fun slot => slot.attr.numLimit = false).map fun slot =>
        slot.attr.limit).sum ≤ 100 →
      RoomNeeded freeSizeDelMin freeSize slots →
      MakesRoom freeSizeDelMin freeSize slots := by
  intro general
  obtain ⟨result, ⟨fuel, ends⟩, removed⟩ := general 200 0 [byQuota 100 1]
    (by simpa [byQuota] using oneFile_indexed 1) (by simp [byQuota])
    (by decide) ⟨by decide, by decide⟩
  cases fuel with
  | zero => cases ends
  | succ fuel =>
      cases ends
      exact removed rfl

/-! Which quotas are enough whatever the folders hold. -/

private theorem exists_parts {caps : List Nat} {whole : Nat}
    (fits : whole ≤ caps.sum) :
    ∃ parts : List Nat, List.Forall₂ (· ≤ ·) parts caps ∧ parts.sum = whole := by
  induction caps generalizing whole with
  | nil => exact ⟨[], .nil, (Nat.le_zero.mp fits).symm⟩
  | cons cap rest induction =>
      rw [List.sum_cons] at fits
      have restFits : whole - min whole cap ≤ rest.sum := by omega
      obtain ⟨parts, within, sum⟩ := induction restFits
      refine ⟨min whole cap :: parts, .cons (Nat.min_le_right _ _) within, ?_⟩
      rw [List.sum_cons, sum]
      omega

private theorem sum_caps (quotas : List Nat) {scale : Nat}
    (positive : 0 < scale) :
    (quotas.map fun quota => (quota + 1) * scale - 1).sum + quotas.length =
      (quotas.map (· + 1)).sum * scale := by
  induction quotas with
  | nil => simp
  | cons quota rest induction =>
      have atLeast : 1 ≤ (quota + 1) * scale :=
        Nat.mul_pos (Nat.succ_pos _) positive
      simp only [List.map_cons, List.sum_cons, List.length_cons, Nat.add_mul]
        at induction atLeast ⊢
      omega

/-- With every folder less than one percent over its quota, the quotas and one
percent for the rounding of each folder exceed the whole. -/
private theorem hundred_lt_of_within {slots : List Slot} {quotas : List Nat}
    {totalSpace : Nat} (nonempty : slots ≠ [])
    (quotasOf : slots.map (fun slot => slot.attr.limit) =
      quotas.map fun quota : Nat => (quota : Int))
    (within : ∀ slot ∈ slots, ¬ (slot.attr.limit + 1) * totalSpace ≤
      slot.folder.totalSpace * 100) :
    (slots.map fun slot => slot.folder.totalSpace).sum * 100 <
      (quotas.map (· + 1)).sum * totalSpace := by
  induction slots generalizing quotas with
  | nil => exact (nonempty rfl).elim
  | cons slot rest induction =>
      obtain ⟨quota, others, rfl, isQuota, othersOf⟩ :=
        List.map_eq_cons_iff.mp quotasOf.symm
      have limitOf : slot.attr.limit = (quota : Int) := isQuota.symm
      have own := within slot List.mem_cons_self
      rw [limitOf, Int.not_le] at own
      have ownNat : slot.folder.totalSpace * 100 < (quota + 1) * totalSpace := by
        exact_mod_cast own
      simp only [List.map_cons, List.sum_cons, Nat.add_mul] at ownNat ⊢
      cases rest with
      | nil =>
          simp only [List.map_nil, List.sum_nil]
          omega
      | cons next rest =>
          have less := induction (List.cons_ne_nil _ _) othersOf.symm
            fun other member => within other (List.mem_cons_of_mem _ member)
          omega

private def byQuotas (quotas parts : List Nat) : List Slot :=
  List.zipWith (fun (quota part : Nat) => byQuota quota part) quotas parts

private theorem mem_byQuotas {scale : Nat} {quotas parts : List Nat}
    (within : List.Forall₂ (· ≤ ·) parts
      (quotas.map fun quota => (quota + 1) * scale - 1)) {slot : Slot}
    (member : slot ∈ byQuotas quotas parts) :
    ∃ quota part : Nat, slot = byQuota quota part ∧
      part ≤ (quota + 1) * scale - 1 := by
  induction quotas generalizing parts with
  | nil => cases member
  | cons quota rest induction =>
      cases within with
      | @cons part _ parts _ own others =>
          rcases List.mem_cons.mp member with rfl | member
          · exact ⟨quota, part, rfl, own⟩
          · exact induction others member

private theorem totalSpaceOf_cons_byQuota (quota part : Nat)
    (rest : List Slot) :
    totalSpaceOf (byQuota quota part :: rest) =
      part * 512 + totalSpaceOf rest := by
  rw [← oneFile_totalSpace]
  rfl

private theorem byQuotas_slots {scale : Nat} {quotas parts : List Nat}
    (within : List.Forall₂ (· ≤ ·) parts
      (quotas.map fun quota => (quota + 1) * scale - 1)) :
    (byQuotas quotas parts).map (fun slot => slot.attr.limit) =
        quotas.map (fun quota : Nat => (quota : Int)) ∧
      totalSpaceOf (byQuotas quotas parts) = parts.sum * 512 := by
  induction quotas generalizing parts with
  | nil =>
      cases within
      exact ⟨rfl, rfl⟩
  | cons quota rest induction =>
      cases within with
      | @cons part _ parts _ own others =>
          obtain ⟨limits, space⟩ := induction others
          refine ⟨?_, ?_⟩
          · rw [List.map_cons, ← limits]
            rfl
          · rw [List.sum_cons, Nat.add_mul, ← space]
            exact totalSpaceOf_cons_byQuota quota part _

/-- Whatever the folders hold, the pass makes room exactly when the quotas with
one percent for each folder are at most the whole card. -/
theorem quotas_make_room_iff (quotas : List Nat) :
    (∀ (freeSizeDelMin freeSize : Int) (slots : List Slot),
      (∀ slot ∈ slots, slot.folder.Indexed) →
      (∀ slot ∈ slots, slot.attr.numLimit = false) →
      slots.map (fun slot => slot.attr.limit) =
        quotas.map (fun quota : Nat => (quota : Int)) →
      RoomNeeded freeSizeDelMin freeSize slots →
      MakesRoom freeSizeDelMin freeSize slots) ↔
      (quotas.map (· + 1)).sum ≤ 100 := by
  constructor
  · intro always
    by_contra tooMuch
    have nonempty : 0 < quotas.length := by
      cases quotas with
      | nil => exact absurd (Nat.zero_le _) tooMuch
      | cons quota rest => simp
    -- the card has one block more for each percent than there are folders
    have capacity : quotas.length * 100 ≤
        (quotas.map fun quota => (quota + 1) * quotas.length - 1).sum := by
      have whole := sum_caps quotas nonempty
      have above : 101 * quotas.length ≤
          (quotas.map (· + 1)).sum * quotas.length :=
        Nat.mul_le_mul_right _ (Nat.not_le.mp tooMuch)
      omega
    obtain ⟨parts, within, sum⟩ := exists_parts capacity
    obtain ⟨limits, space⟩ := byQuotas_slots within
    have belongs : ∀ slot ∈ byQuotas quotas parts,
        ∃ quota part : Nat, slot = byQuota quota part ∧
          part < (quota + 1) * quotas.length := by
      intro slot member
      obtain ⟨quota, part, isSlot, le⟩ := mem_byQuotas within member
      have positive : 0 < (quota + 1) * quotas.length :=
        Nat.mul_pos (Nat.succ_pos _) nonempty
      exact ⟨quota, part, isSlot, by omega⟩
    have indexed : ∀ slot ∈ byQuotas quotas parts, slot.folder.Indexed := by
      intro slot member
      obtain ⟨quota, part, rfl, _⟩ := belongs slot member
      exact oneFile_indexed part
    have nonneg : ∀ slot ∈ byQuotas quotas parts, 0 ≤ slot.attr.limit := by
      intro slot member
      obtain ⟨quota, part, rfl, _⟩ := belongs slot member
      exact Int.natCast_nonneg quota
    have unlimited : ∀ slot ∈ byQuotas quotas parts,
        slot.attr.numLimit = false := by
      intro slot member
      obtain ⟨quota, part, rfl, _⟩ := belongs slot member
      rfl
    have needed : RoomNeeded 0 0 (byQuotas quotas parts) := by
      refine ⟨by decide, ?_⟩
      rw [space, sum]
      omega
    have makesRoom := always 0 0 _ indexed unlimited limits needed
    rw [makesRoom_iff_exceeds indexed nonneg needed] at makesRoom
    rcases makesRoom with ⟨slot, member, exceeds⟩ | ⟨slot, member, exceeds⟩
    · exact absurd exceeds.1 (by simp [unlimited slot member])
    · have share := ((exceeds_space_iff needed.2 slot).mp exceeds).2
      obtain ⟨quota, part, rfl, less⟩ := belongs slot member
      simp only [byQuota, oneFile_totalSpace, space, sum] at share
      have shareNat : (quota + 1) * (quotas.length * 100 * 512) ≤
          part * 512 * 100 := by exact_mod_cast share
      have product : (quota + 1) * (quotas.length * 100 * 512) =
          (quota + 1) * quotas.length * 51200 := by ring
      omega
  · intro enough freeSizeDelMin freeSize slots indexed unlimited quotasOf needed
    have nonneg : ∀ slot ∈ slots, 0 ≤ slot.attr.limit := by
      intro slot member
      have isLimit := List.mem_map_of_mem (f := fun slot => slot.attr.limit)
        member
      rw [quotasOf] at isLimit
      obtain ⟨quota, _, isQuota⟩ := List.mem_map.mp isLimit
      have limitOf : slot.attr.limit = (quota : Int) := isQuota.symm
      omega
    rw [makesRoom_iff_exceeds indexed nonneg needed]
    right
    by_contra none
    have within : ∀ slot ∈ slots, ¬ (slot.attr.limit + 1) *
        totalSpaceOf slots ≤ slot.folder.totalSpace * 100 :=
      fun slot member exceeds =>
        none ⟨slot, member, (exceeds_space_iff needed.2 slot).mpr
          ⟨unlimited slot member, exceeds⟩⟩
    have wholeSpace : totalSpaceOf slots =
        (slots.map fun slot => slot.folder.totalSpace).sum := by
      unfold totalSpaceOf
      rw [List.filter_eq_self.mpr]
      simpa using unlimited
    have nonempty : slots ≠ [] := by
      rintro rfl
      exact absurd needed.2 (by decide)
    have less := hundred_lt_of_within nonempty quotasOf within
    rw [← wholeSpace, Nat.mul_comm] at less
    exact absurd (Nat.mul_le_mul_right (totalSpaceOf slots) enough)
      (Nat.not_le.mpr less)

end Rkipc.Storage
