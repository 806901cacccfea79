import Rkipc.Regions.Config

namespace Rkipc.Regions

open Ini Libc Osd.Overlay Param.Copies

/-! Privacy masks as covers: what `rk_osd_init` and `rk_osd_privacy_mask_restart` make of
an entry, and what `rkipc_osd_cover_create` attaches. -/

structure Rect where
  origin : Vec
  size : Vec

def Rect.Covers (rect : Rect) (point : Vec) : Prop :=
  ∀ axis, rect.origin axis ≤ point axis ∧ point axis < rect.origin axis + rect.size axis

namespace Cover

section Entry

variable (config : Config) (scale : Scale) (id : Nat)

def frame : Vec := fun axis => config.getInt (entryKey "video" 0 (sizeKey axis)) (-1)

def osdType : Text := config.getString (entryKey "osd" id ":type") []

def enabled : Int := config.getInt (entryKey "osd" id ":enabled") 0

def style : Text := config.getString (entryKey "osd" id ":style") "cover".toList

def scaled (key : String) (axis : Axis) : Int :=
  scale (config.getInt (entryKey "osd" id key) (-1)) (frame config axis)
    (config.getInt (normalizedKey axis).toList (-1))

def position : Vec := fun axis => scaled config scale id (positionKey axis) axis

def size : Vec := fun axis => scaled config scale id (sizeKey axis) axis

/-- The rectangle of a mask, if an entry is one and it is not skipped. -/
def mask : Option (Option Rect) :=
  if osdType config id = [] ∨ enabled config id = 0 then some none
  else do
    let originX ← upAlign16 (position config scale id .x)
    let originY ← upAlign16 (position config scale id .y)
    if osdType config id ≠ "privacyMask".toList then some none
    else
      let width ← upAlign16 (size config scale id .x)
      let height ← upAlign16 (size config scale id .y)
      -- a sum equal to the frame is let pass
      let width ← shrink 16 (frame config .x + 1) originX width
      let height ← shrink 16 (frame config .y + 1) originY height
      if originX < 0 ∨ originY < 0 ∨ width < 0 ∨ height < 0 then some none
      else some (some ⟨sides originX originY, sides width height⟩)

/-- The rectangle that is attached: a sum equal to the frame is not let pass. -/
def rkipcOsdCoverCreate (data : Rect) : Option Rect := do
  let originX ← shrink 8 (frame config .x) (data.size .x) (data.origin .x)
  let originY ← shrink 8 (frame config .y) (data.size .y) (data.origin .y)
  some ⟨sides originX originY, data.size⟩

/-- What a round of either loop attaches as a cover. -/
def attached : Option (Option Rect) := do
  let outcome ← mask config scale id
  outcome.elim (some none) fun data =>
    if style config id = "cover".toList then (rkipcOsdCoverCreate config data).map some
    else some none

end Entry

section Hides

variable (config : Config) (scale : Scale) (id : Nat)

def configured : Rect where
  origin axis := alignUp 16 (position config scale id axis)
  size axis := alignUp 16 (size config scale id axis)

/-- The cover is in the frame and hides what the mask has of it. -/
def Hides : Prop :=
  ∃ outcome, attached config scale id = some outcome ∧ ∀ rect, outcome = some rect →
    (∀ axis, 0 ≤ rect.origin axis ∧ 0 ≤ rect.size axis ∧
      rect.origin axis + rect.size axis ≤ frame config axis) ∧
    ∀ point : Vec, (∀ axis, 0 ≤ point axis ∧ point axis < frame config axis) →
      (configured config scale id).Covers point → rect.Covers point

/-- No sum is outside the range of an `int`. -/
def InRange : Prop :=
  ∀ axis,
    (intMin ≤ position config scale id axis + 16 ∧
      position config scale id axis + 16 ≤ intMax) ∧
    (intMin ≤ size config scale id axis + 16 ∧ size config scale id axis + 16 ≤ intMax) ∧
    intMin ≤ (configured config scale id).origin axis + (configured config scale id).size axis ∧
      (configured config scale id).origin axis + (configured config scale id).size axis ≤ intMax

/-- The mask is skipped, or it ends before the edges or is empty in the frame, where one
that fills a side of the frame is not moved out of it. -/
def Spared : Prop :=
  let rect := configured config scale id
  (∃ axis, rect.origin axis < 0 ∨ rect.size axis < 0 ∨ frame config axis < rect.origin axis) ∨
    (∀ axis, ¬ (rect.origin axis = 0 ∧ 16 ∣ frame config axis ∧
      frame config axis ≤ rect.size axis)) ∧
    ((∃ axis, rect.size axis = 0 ∨ rect.origin axis = frame config axis) ∨
      ∀ axis, rect.origin axis + rect.size axis < frame config axis)

end Hides

/-- What the first loops leave of a side. -/
def shrunk (frame origin extent : Int) : Int := min extent (frame / 16 * 16 - origin)

/-- Where the second loops move it. -/
def moved (frame origin extent : Int) : Int :=
  min origin ((frame - 1) / 8 * 8 - shrunk frame origin extent)

section Side

variable {frame origin extent : Int} (spacious : 16 ≤ frame) (originOnGrid : 16 ∣ origin)
  (extentOnGrid : 16 ∣ extent)

theorem moved_add_lt : moved frame origin extent + shrunk frame origin extent < frame := by
  unfold moved
  omega

include originOnGrid in
theorem shrunk_nonneg_iff :
    0 ≤ shrunk frame origin extent ↔ 0 ≤ extent ∧ origin ≤ frame := by
  unfold shrunk
  omega

include originOnGrid extentOnGrid

theorem shrunk_of_less (less : origin + extent < frame) :
    shrunk frame origin extent = extent := by
  unfold shrunk
  omega

theorem moved_of_less (less : origin + extent < frame) : moved frame origin extent = origin := by
  rw [moved, shrunk_of_less originOnGrid extentOnGrid less]
  omega

include spacious

theorem shrink_side (small : origin ≤ intMax)
    (inRange : intMin ≤ origin + extent ∧ origin + extent ≤ intMax) :
    shrink 16 (frame + 1) origin extent = some (shrunk frame origin extent) := by
  have last : below 16 (frame + 1) (origin + extent) = frame / 16 * 16 := by
    rw [below_eq (Int.dvd_add originOnGrid extentOnGrid), Int.add_sub_cancel]
  have fits : Shrinks 16 (frame + 1) origin extent := by
    refine ⟨inRange.2, .inr ?_⟩
    rw [last]
    unfold intMin intMax at *
    omega
  rw [shrink_eq (by decide) inRange.1, if_pos fits, last]
  rfl

theorem shrink_origin (originNonneg : 0 ≤ origin) (nonneg : 0 ≤ shrunk frame origin extent)
    (inRange : origin + extent ≤ intMax) :
    shrink 8 frame (shrunk frame origin extent) origin = some (moved frame origin extent) := by
  have sideOnGrid : 8 ∣ shrunk frame origin extent := by
    unfold shrunk
    omega
  have last : below 8 frame (shrunk frame origin extent + origin) = (frame - 1) / 8 * 8 :=
    below_eq (Int.dvd_add sideOnGrid (by omega))
  have smaller : shrunk frame origin extent ≤ extent := min_le_left _ _
  have fits : Shrinks 8 frame (shrunk frame origin extent) origin := by
    refine ⟨by omega, .inr ?_⟩
    rw [last]
    unfold intMin intMax at *
    omega
  rw [shrink_eq (by decide) (by unfold intMin; omega), if_pos fits, last]
  rfl

omit spacious in
theorem moved_nonneg_iff (originNonneg : 0 ≤ origin) :
    0 ≤ moved frame origin extent ↔ ¬ (origin = 0 ∧ 16 ∣ frame ∧ frame ≤ extent) := by
  unfold moved
  unfold shrunk at *
  omega

end Side

variable {config : Config} {scale : Scale} {id : Nat}

section Round

def kept (config : Config) (scale : Scale) (id : Nat) : Rect where
  origin := (configured config scale id).origin
  size axis := shrunk (frame config axis) ((configured config scale id).origin axis)
    ((configured config scale id).size axis)

/-- The rectangle where it is attached. -/
def placed (config : Config) (scale : Scale) (id : Nat) : Rect where
  origin axis := moved (frame config axis) ((configured config scale id).origin axis)
    ((configured config scale id).size axis)
  size := (kept config scale id).size

variable (isMask : osdType config id = "privacyMask".toList) (isEnabled : enabled config id ≠ 0)

include isMask isEnabled

theorem not_skipped : ¬ (osdType config id = [] ∨ enabled config id = 0) := by
  rintro (isNull | isZero)
  · simp only [isMask, String.reduceToList, reduceCtorEq] at isNull
  · exact isEnabled isZero

theorem inRange_of_mask {outcome : Option Rect} (isOutcome : mask config scale id = some outcome) :
    InRange config scale id := by
  rw [mask, if_neg (not_skipped isMask isEnabled)] at isOutcome
  simp only [isMask, ne_eq, not_true_eq_false, if_false, Option.bind_eq_bind,
    Option.bind_eq_some_iff, upAlign16_eq_some_iff] at isOutcome
  obtain ⟨_, ⟨originX, rfl⟩, _, ⟨originY, rfl⟩, _, ⟨width, rfl⟩, _, ⟨height, rfl⟩, _, byX, _,
    byY, _⟩ := isOutcome
  refine Axis.forall_iff.mpr ⟨⟨originX, width, inRange_of_shrink byX⟩,
    ⟨originY, height, inRange_of_shrink byY⟩⟩

variable (spacious : ∀ axis, 16 ≤ frame config axis) (inRange : InRange config scale id)

include spacious inRange

theorem mask_of_inRange : mask config scale id =
    some (if ∀ axis, 0 ≤ (kept config scale id).origin axis ∧ 0 ≤ (kept config scale id).size axis
      then some (kept config scale id) else none) := by
  have origins (axis : Axis) : upAlign16 (position config scale id axis) =
      some ((configured config scale id).origin axis) :=
    upAlign16_eq_some (inRange axis).1.2 (inRange axis).1.1
  have extents (axis : Axis) : upAlign16 (size config scale id axis) =
      some ((configured config scale id).size axis) :=
    upAlign16_eq_some (inRange axis).2.1.2 (inRange axis).2.1.1
  have loops (axis : Axis) : shrink 16 (frame config axis + 1)
      ((configured config scale id).origin axis) ((configured config scale id).size axis) =
        some ((kept config scale id).size axis) := by
    have small : (configured config scale id).origin axis ≤ intMax := by
      have bound := (inRange axis).1.2
      change alignUp 16 (position config scale id axis) ≤ intMax
      unfold alignUp
      omega
    exact shrink_side (spacious axis) dvd_alignUp dvd_alignUp small (inRange axis).2.2
  rw [mask, if_neg (not_skipped isMask isEnabled)]
  simp only [origins, extents, loops, isMask, Option.bind_eq_bind, Option.bind_some, ne_eq,
    not_true_eq_false, if_false, sides_eta]
  by_cases nonneg : ∀ axis,
      0 ≤ (kept config scale id).origin axis ∧ 0 ≤ (kept config scale id).size axis
  · rw [if_pos nonneg]
    exact if_neg fun negative => signs_iff.mp negative nonneg
  · rw [if_neg nonneg]
    exact if_pos (signs_iff.mpr nonneg)

omit isMask isEnabled in
theorem coverCreate_kept (nonneg : ∀ axis,
      0 ≤ (kept config scale id).origin axis ∧ 0 ≤ (kept config scale id).size axis) :
    rkipcOsdCoverCreate config (kept config scale id) = some (placed config scale id) := by
  have loops (axis : Axis) : shrink 8 (frame config axis) ((kept config scale id).size axis)
      ((kept config scale id).origin axis) = some ((placed config scale id).origin axis) :=
    shrink_origin (spacious axis) dvd_alignUp dvd_alignUp (nonneg axis).1 (nonneg axis).2
      (inRange axis).2.2.2
  rw [rkipcOsdCoverCreate]
  simp only [loops, Option.bind_eq_bind, Option.bind_some, sides_eta]
  rfl

end Round

section Placed

variable (nonneg : ∀ axis,
  0 ≤ (kept config scale id).origin axis ∧ 0 ≤ (kept config scale id).size axis)

include nonneg

theorem bounds_of_kept (axis : Axis) : 0 ≤ (configured config scale id).origin axis ∧
    0 ≤ (configured config scale id).size axis ∧
    (configured config scale id).origin axis ≤ frame config axis :=
  ⟨(nonneg axis).1, (shrunk_nonneg_iff dvd_alignUp).mp (nonneg axis).2⟩

/-- The last point before an edge that the mask reaches is never covered. -/
theorem covers_iff :
    (∀ point : Vec, (∀ axis, 0 ≤ point axis ∧ point axis < frame config axis) →
      (configured config scale id).Covers point → (placed config scale id).Covers point) ↔
    (∃ axis, (configured config scale id).size axis = 0 ∨
        (configured config scale id).origin axis = frame config axis) ∨
      ∀ axis, (configured config scale id).origin axis + (configured config scale id).size axis <
        frame config axis := by
  have bounds := bounds_of_kept nonneg
  constructor
  · intro covers
    by_contra neither
    simp only [not_or, not_exists, not_forall, not_lt] at neither
    obtain ⟨filled, axis, reaches⟩ := neither
    let point : Vec := fun axis => min ((configured config scale id).origin axis +
      (configured config scale id).size axis) (frame config axis) - 1
    have inFrame (axis : Axis) : 0 ≤ point axis ∧ point axis < frame config axis := by
      have lower := bounds axis
      have some := filled axis
      change 0 ≤ min _ _ - 1 ∧ min _ _ - 1 < _
      omega
    have inMask : (configured config scale id).Covers point := by
      intro axis
      have lower := bounds axis
      have some := filled axis
      change _ ≤ min _ _ - 1 ∧ min _ _ - 1 < _
      omega
    have isLast : point axis = frame config axis - 1 := by
      change min _ _ - 1 = _
      rw [min_eq_right reaches]
    have less := (covers point inFrame inMask axis).2
    have ends : (placed config scale id).origin axis + (placed config scale id).size axis <
        frame config axis := moved_add_lt
    omega
  · rintro (⟨axis, isEmpty | isBeyond⟩ | less) point inFrame inMask
    · have inside := inMask axis
      omega
    · have inside := inMask axis
      have before := inFrame axis
      omega
    · intro axis
      have sameOrigin : (placed config scale id).origin axis =
          (configured config scale id).origin axis :=
        moved_of_less dvd_alignUp dvd_alignUp (less axis)
      have sameSize : (placed config scale id).size axis =
          (configured config scale id).size axis :=
        shrunk_of_less dvd_alignUp dvd_alignUp (less axis)
      rw [sameOrigin, sameSize]
      exact inMask axis

end Placed

theorem spared_iff (nonneg : ∀ axis,
      0 ≤ (kept config scale id).origin axis ∧ 0 ≤ (kept config scale id).size axis) :
    Spared config scale id ↔
      (∀ axis, 0 ≤ (placed config scale id).origin axis ∧
          0 ≤ (placed config scale id).size axis ∧
          (placed config scale id).origin axis + (placed config scale id).size axis ≤
            frame config axis) ∧
        ∀ point : Vec, (∀ axis, 0 ≤ point axis ∧ point axis < frame config axis) →
          (configured config scale id).Covers point → (placed config scale id).Covers point := by
  have bounds := bounds_of_kept nonneg
  have isAttached : ¬ ∃ axis, (configured config scale id).origin axis < 0 ∨
      (configured config scale id).size axis < 0 ∨
      frame config axis < (configured config scale id).origin axis := by
    rintro ⟨axis, less⟩
    have lower := bounds axis
    omega
  rw [covers_iff nonneg, Spared, or_iff_right isAttached]
  refine and_congr_left fun _ => forall_congr' fun axis => ?_
  have stays : 0 ≤ (placed config scale id).origin axis ↔ _ :=
    moved_nonneg_iff dvd_alignUp dvd_alignUp (bounds axis).1
  constructor
  · intro filled
    exact ⟨stays.mpr filled, (nonneg axis).2, moved_add_lt.le⟩
  · rintro ⟨origin, _, _⟩
    exact stays.mp origin

/-- Covers hide the masks that they are not moved off. -/
theorem hides_iff (spacious : ∀ axis, 16 ≤ frame config axis)
    (isMask : osdType config id = "privacyMask".toList) :
    Hides config scale id ↔ (enabled config id ≠ 0 →
      InRange config scale id ∧
        (style config id = "cover".toList → Spared config scale id)) := by
  by_cases isDisabled : enabled config id = 0
  · refine iff_of_true ⟨none, ?_, fun rect isRect => by cases isRect⟩ (absurd isDisabled)
    rw [attached, mask, if_pos (.inr isDisabled)]
    rfl
  rw [imp_iff_right isDisabled]
  constructor
  · rintro ⟨outcome, isOutcome, hides⟩
    obtain ⟨isAttached, isMasked, _⟩ := Option.bind_eq_some_iff.mp isOutcome
    have inRange := inRange_of_mask isMask isDisabled isMasked
    refine ⟨inRange, fun isCover => ?_⟩
    by_cases nonneg : ∀ axis,
        0 ≤ (kept config scale id).origin axis ∧ 0 ≤ (kept config scale id).size axis
    · rw [attached, mask_of_inRange isMask isDisabled spacious inRange, if_pos nonneg,
        Option.bind_eq_bind, Option.bind_some, Option.elim_some, if_pos isCover,
        coverCreate_kept spacious inRange nonneg, Option.map_some] at isOutcome
      cases isOutcome
      exact (spared_iff nonneg).mpr (hides _ rfl)
    · refine .inl ?_
      by_contra none
      simp only [not_exists, not_or, not_lt] at none
      exact nonneg fun axis => ⟨(none axis).1, (shrunk_nonneg_iff dvd_alignUp).mpr (none axis).2⟩
  · rintro ⟨inRange, spared⟩
    have isMasked := mask_of_inRange isMask isDisabled spacious inRange
    by_cases nonneg : ∀ axis,
        0 ≤ (kept config scale id).origin axis ∧ 0 ≤ (kept config scale id).size axis
    · rw [if_pos nonneg] at isMasked
      by_cases isCover : style config id = "cover".toList
      · refine ⟨some (placed config scale id), ?_, fun rect isRect => ?_⟩
        · rw [attached, isMasked, Option.bind_eq_bind, Option.bind_some, Option.elim_some,
            if_pos isCover, coverCreate_kept spacious inRange nonneg, Option.map_some]
        · cases isRect
          exact (spared_iff nonneg).mp (spared isCover)
      · refine ⟨none, ?_, fun rect isRect => by cases isRect⟩
        rw [attached, isMasked, Option.bind_eq_bind, Option.bind_some, Option.elim_some,
          if_neg isCover]
    · rw [if_neg nonneg] at isMasked
      refine ⟨none, ?_, fun rect isRect => by cases isRect⟩
      rw [attached, isMasked]
      rfl

/-- Entries that are all masks with numbers alike, in frames of 1920. -/
def masks (ofMask : Int) : Config where
  getInt key _ := if key[4]?.any Char.isDigit then ofMask else 1920
  getString _ default := if default = [] then "privacyMask".toList else default

theorem hides_iff_masks : Hides (masks 100) exactly 0 ↔ (enabled (masks 100) 0 ≠ 0 →
    InRange (masks 100) exactly 0 ∧
      (style (masks 100) 0 = "cover".toList → Spared (masks 100) exactly 0)) :=
  hides_iff (by decide) (by decide)

/-- A mask from 960 to the edge at 1920 is attached at 952. -/
theorem edge_uncovered : (∀ axis, 16 ≤ frame (masks 960) axis) ∧
    osdType (masks 960) 0 = "privacyMask".toList ∧ ¬ Hides (masks 960) exactly 0 := by
  refine ⟨by decide, by decide, ?_⟩
  rintro ⟨outcome, isOutcome, hides⟩
  have isPlaced : (attached (masks 960) exactly 0).map (Option.map fun rect =>
      (rect.origin .x + rect.size .x)) = some (some 1912) := by
    decide +kernel
  have inMask : ∀ axis, (configured (masks 960) exactly 0).origin axis = 960 ∧
      (configured (masks 960) exactly 0).size axis = 960 := by
    decide
  have isFrame : ∀ axis, frame (masks 960) axis = 1920 := by decide
  rw [isOutcome, Option.map_some, Option.some.injEq, Option.map_eq_some_iff] at isPlaced
  obtain ⟨rect, rfl, ends⟩ := isPlaced
  have isInMask : (configured (masks 960) exactly 0).Covers fun _ => 1919 := by
    intro axis
    rw [(inMask axis).1, (inMask axis).2]
    exact ⟨by change (960 : Int) ≤ 1919; omega, by change (1919 : Int) < 960 + 960; omega⟩
  have isInFrame (axis : Axis) : 0 ≤ (1919 : Int) ∧ 1919 < frame (masks 960) axis := by
    rw [isFrame]
    omega
  have covers := (hides rect rfl).2 (fun _ => 1919) isInFrame isInMask
  have before : 1919 < rect.origin .x + rect.size .x := (covers .x).2
  omega

end Cover

end Rkipc.Regions
