import Rkipc.Regions.Config

namespace Rkipc.Regions

open Ini Libc Osd.Overlay Param.Copies

/-! `rk_roi_set_all`: which rectangles of the configuration the encoder is given. -/

def maxRoiNum : Nat := 6

structure RoiData where
  streamType : Text
  id : Int
  enabled : Int
  position : Vec
  size : Vec
  qualityLevel : Int

namespace Roi

section Entry

variable (config : Config) (scale : Scale) (id : Nat)

def streamType : Text :=
  config.getString (entryKey "roi" id ":stream_type") "mainStream".toList

def streamId : Nat :=
  if streamType config id = "mainStream".toList then 0
  else if streamType config id = "subStream".toList then 1
  else 2

def rotation : Int := config.getInt "video.source:rotation".toList 0

/-- The frame of the stream as it is rotated. -/
def frame : Vec := fun axis =>
  let side :=
    if rotation config = 90 ∨ rotation config = 270 then otherAxis axis else axis
  config.getInt (entryKey "video" (streamId config id) (sizeKey side)) (-1)

def scaled (key : String) (axis : Axis) : Int :=
  scale (config.getInt (entryKey "roi" id key) (-1)) (frame config id axis)
    (config.getInt (normalizedKey axis).toList (-1))

def position : Vec := fun axis => scaled config scale id (positionKey axis) axis

def size : Vec := fun axis => scaled config scale id (sizeKey axis) axis

def smart : Text :=
  config.getString (entryKey "video" (streamId config id) ":smart") "close".toList

/-- What an entry hands to `rk_roi_set_`, if anything. -/
def setEntry : Option (Option RoiData) :=
  if smart config id = "open".toList then some none
  else do
    let positionX ← upAlign16 (position config scale id .x)
    let positionY ← upAlign16 (position config scale id .y)
    let width ← upAlign16 (size config scale id .x)
    let height ← upAlign16 (size config scale id .y)
    let width ← shrink 16 (frame config id .x) positionX width
    let height ← shrink 16 (frame config id .y) positionY height
    if positionX < 0 ∨ positionY < 0 ∨ width < 0 ∨ height < 0 then some none
    else
      some (some
        { streamType := streamType config id
          id := config.getInt (entryKey "roi" id ":id") (-1)
          enabled := config.getInt (entryKey "roi" id ":enabled") (-1)
          position := sides positionX positionY
          size := sides width height
          qualityLevel := config.getInt (entryKey "roi" id ":quality_level") (-1) })

end Entry

end Roi

/-- What each entry hands to the callback. -/
def rkRoiSetAll (config : Config) (scale : Scale) :
    Option (List (Option RoiData)) :=
  (List.range maxRoiNum).mapM (Roi.setEntry config scale)

namespace Roi

variable (config : Config) (scale : Scale)

/-- The rectangle that an entry comes to. -/
structure Right (id : Nat) (place extent : Vec) : Prop where
  onGrid : ∀ axis, 16 ∣ place axis ∧ 16 ∣ extent axis
  nonneg : ∀ axis, 0 ≤ place axis ∧ 0 ≤ extent axis
  inside : ∀ axis, place axis + extent axis < frame config id axis
  rounded : ∀ axis, place axis = alignUp 16 (position config scale id axis)
  greatest : ∀ axis, IsGreatest
    {side | 16 ∣ side ∧ side ≤ alignUp 16 (size config scale id axis) ∧
      place axis + side < frame config id axis} (extent axis)

/-- An entry with a rectangle that is right is set to it, and one without is not set. -/
def SetsRight : Prop :=
  ∃ outcomes, rkRoiSetAll config scale = some outcomes ∧
    ∀ id < maxRoiNum, ∀ outcome, outcomes[id]? = some outcome →
      (∀ data, outcome = some data → Right config scale id data.position data.size) ∧
        ((¬ ∃ place extent, Right config scale id place extent) → outcome = none)

/-- The sum of position and size is an `int`, and so are the numbers below the frame that
the loops come to. -/
def InRange (id : Nat) (axis : Axis) : Prop :=
  let place := alignUp 16 (position config scale id axis)
  let extent := alignUp 16 (size config scale id axis)
  place + extent ≤ intMax ∧
    (place + extent < frame config id axis ∨
      intMin + max place 0 ≤ (frame config id axis - 1) / 16 * 16)

/-- The integers that the scaling yields are below 2^30. -/
def Bounded : Prop :=
  ∀ id < maxRoiNum, ∀ axis : Axis, |position config scale id axis| < 2 ^ 30 ∧
    |size config scale id axis| < 2 ^ 30

instance : Decidable (Bounded config scale) :=
  inferInstanceAs (Decidable (∀ id < maxRoiNum, ∀ axis,
    |position config scale id axis| < 2 ^ 30 ∧ |size config scale id axis| < 2 ^ 30))

variable {config : Config} {scale : Scale} {id : Nat}

theorem alignUp_bounds (value : Int) (small : |value| < 2 ^ 30) :
    -(2 ^ 30) < alignUp 16 value ∧ alignUp 16 value ≤ 2 ^ 30 := by
  have bounds := abs_lt.mp small
  unfold alignUp
  omega

theorem upAlign16_of_small {value : Int} (small : |value| < 2 ^ 30) :
    upAlign16 value = some (alignUp 16 value) := by
  obtain ⟨above, under⟩ := abs_lt.mp small
  exact upAlign16_eq_some (by unfold intMax; omega) (by unfold intMin; omega)

theorem inRange_iff {axis : Axis} : InRange config scale id axis ↔
    Shrinks 16 (frame config id axis) (alignUp 16 (position config scale id axis))
      (alignUp 16 (size config scale id axis)) := by
  rw [Shrinks, below_eq (Int.dvd_add dvd_alignUp dvd_alignUp)]
  rfl

def left (config : Config) (scale : Scale) (id : Nat) : Vec := fun axis =>
  let place := alignUp 16 (position config scale id axis)
  let extent := alignUp 16 (size config scale id axis)
  min extent (below 16 (frame config id axis) (place + extent) - place)

section Size

variable {axis : Axis}

theorem large_sum (small : |position config scale id axis| < 2 ^ 30 ∧
      |size config scale id axis| < 2 ^ 30) :
    intMin ≤ alignUp 16 (position config scale id axis) +
      alignUp 16 (size config scale id axis) := by
  have place := alignUp_bounds _ small.1
  have extent := alignUp_bounds _ small.2
  unfold intMin
  omega

theorem shrink_size (small : |position config scale id axis| < 2 ^ 30 ∧
      |size config scale id axis| < 2 ^ 30) (inRange : InRange config scale id axis) :
    shrink 16 (frame config id axis) (alignUp 16 (position config scale id axis))
      (alignUp 16 (size config scale id axis)) = some (left config scale id axis) := by
  rw [shrink_eq (by decide) (large_sum small), if_pos (inRange_iff.mp inRange)]
  rfl

theorem shrink_size_none (small : |position config scale id axis| < 2 ^ 30 ∧
      |size config scale id axis| < 2 ^ 30) (outside : ¬ InRange config scale id axis) :
    shrink 16 (frame config id axis) (alignUp 16 (position config scale id axis))
      (alignUp 16 (size config scale id axis)) = none := by
  rw [shrink_eq (by decide) (large_sum small), if_neg (mt inRange_iff.mpr outside)]

theorem left_greatest : IsGreatest
    {side | 16 ∣ side ∧ side ≤ alignUp 16 (size config scale id axis) ∧
      alignUp 16 (position config scale id axis) + side < frame config id axis}
    (left config scale id axis) :=
  isGreatest_shrink (by decide) dvd_alignUp dvd_alignUp

end Size

/-- What the loops leave is the only size that can be right. -/
theorem right_iff {place extent : Vec} : Right config scale id place extent ↔
    (∀ axis, place axis = alignUp 16 (position config scale id axis)) ∧
      (∀ axis, extent axis = left config scale id axis) ∧
      ∀ axis, 0 ≤ place axis ∧ 0 ≤ extent axis := by
  constructor
  · intro right
    refine ⟨right.rounded, fun axis => ?_, right.nonneg⟩
    have greatest := right.greatest axis
    rw [right.rounded axis] at greatest
    exact greatest.unique left_greatest
  · rintro ⟨rounded, isLeft, nonneg⟩
    have greatest (axis : Axis) : IsGreatest
        {side | 16 ∣ side ∧ side ≤ alignUp 16 (size config scale id axis) ∧
          place axis + side < frame config id axis} (extent axis) := by
      rw [rounded axis, isLeft axis]
      exact left_greatest
    refine ⟨fun axis => ⟨?_, (greatest axis).1.1⟩, nonneg, fun axis => (greatest axis).1.2.2,
      rounded, greatest⟩
    rw [rounded axis]
    exact dvd_alignUp

section Round

variable (small : ∀ axis, |position config scale id axis| < 2 ^ 30 ∧
  |size config scale id axis| < 2 ^ 30)

include small

/-- A round hands its rectangle over if none of the numbers is negative. -/
theorem setEntry_of_inRange (isClosed : smart config id ≠ "open".toList)
    (inRange : ∀ axis, InRange config scale id axis) :
    ∃ data : RoiData,
      (∀ axis, data.position axis = alignUp 16 (position config scale id axis)) ∧
      (∀ axis, data.size axis = left config scale id axis) ∧
      ((∀ axis, 0 ≤ data.position axis ∧ 0 ≤ data.size axis) →
        setEntry config scale id = some (some data)) ∧
      ((¬ ∀ axis, 0 ≤ data.position axis ∧ 0 ≤ data.size axis) →
        setEntry config scale id = some none) := by
  have places (axis : Axis) := upAlign16_of_small (small axis).1
  have extents (axis : Axis) := upAlign16_of_small (small axis).2
  have loops (axis : Axis) := shrink_size (small axis) (inRange axis)
  refine ⟨⟨streamType config id, config.getInt (entryKey "roi" id ":id") (-1),
    config.getInt (entryKey "roi" id ":enabled") (-1),
    sides (alignUp 16 (position config scale id .x)) (alignUp 16 (position config scale id .y)),
    sides (left config scale id .x) (left config scale id .y),
    config.getInt (entryKey "roi" id ":quality_level") (-1)⟩, ?_, ?_, ?_, ?_⟩
  · intro axis
    cases axis <;> rfl
  · intro axis
    cases axis <;> rfl
  · intro nonneg
    rw [setEntry, if_neg isClosed]
    simp only [places, extents, loops, Option.bind_eq_bind, Option.bind_some]
    exact if_neg fun negative => signs_iff.mp negative nonneg
  · intro negative
    rw [setEntry, if_neg isClosed]
    simp only [places, extents, loops, Option.bind_eq_bind, Option.bind_some]
    exact if_pos (signs_iff.mpr negative)

theorem setEntry_of_outside (isClosed : smart config id ≠ "open".toList) {axis : Axis}
    (outside : ¬ InRange config scale id axis) : setEntry config scale id = none := by
  have places (axis : Axis) := upAlign16_of_small (small axis).1
  have extents (axis : Axis) := upAlign16_of_small (small axis).2
  have stops := shrink_size_none (small axis) outside
  rw [setEntry, if_neg isClosed]
  simp only [places, extents, Option.bind_eq_bind, Option.bind_some]
  cases axis with
  | x => rw [stops, Option.bind_none]
  | y => rw [stops]; simp only [Option.bind_none, Option.bind_fun_none]

end Round

theorem right_of_setEntry (small : ∀ axis, |position config scale id axis| < 2 ^ 30 ∧
      |size config scale id axis| < 2 ^ 30)
    (inRange : smart config id ≠ "open".toList → ∀ axis, InRange config scale id axis)
    {outcome : Option RoiData} (isOutcome : setEntry config scale id = some outcome) :
    (∀ data, outcome = some data → Right config scale id data.position data.size) ∧
      ((¬ ∃ place extent, Right config scale id place extent) → outcome = none) := by
  by_cases isOpen : smart config id = "open".toList
  · rw [setEntry, if_pos isOpen] at isOutcome
    cases isOutcome
    exact ⟨(fun data isData => by cases isData), fun _ => rfl⟩
  · obtain ⟨data, places, extents, passes, skips⟩ :=
      setEntry_of_inRange small isOpen (inRange isOpen)
    by_cases nonneg : ∀ axis, 0 ≤ data.position axis ∧ 0 ≤ data.size axis
    · have right : Right config scale id data.position data.size :=
        right_iff.mpr ⟨places, extents, nonneg⟩
      rw [passes nonneg] at isOutcome
      cases isOutcome
      refine ⟨fun other isData => ?_, fun none => absurd ⟨_, _, right⟩ none⟩
      cases isData
      exact right
    · rw [skips nonneg] at isOutcome
      cases isOutcome
      exact ⟨(fun data isData => by cases isData), fun _ => rfl⟩

/-- The rectangles are right as long as nothing overflows. -/
theorem setsRoi_iff (bounded : Bounded config scale) : SetsRight config scale ↔
    ∀ id < maxRoiNum, smart config id ≠ "open".toList →
      ∀ axis, InRange config scale id axis := by
  constructor
  · rintro ⟨outcomes, isAll, _⟩ id less isClosed axis
    obtain ⟨length, each⟩ := mapM_range_eq_some_iff.mp isAll
    by_contra outside
    have isNone := each id less
    rw [setEntry_of_outside (bounded id less) isClosed outside, eq_comm,
      List.getElem?_eq_none_iff, length] at isNone
    exact absurd less (Nat.not_lt.mpr isNone)
  · intro inRange
    have total (id : Nat) (less : id < maxRoiNum) :
        ∃ outcome, setEntry config scale id = some outcome := by
      by_cases isOpen : smart config id = "open".toList
      · exact ⟨none, by rw [setEntry, if_pos isOpen]⟩
      · obtain ⟨data, _, _, passes, skips⟩ :=
          setEntry_of_inRange (bounded id less) isOpen (inRange id less isOpen)
        by_cases nonneg : ∀ axis, 0 ≤ data.position axis ∧ 0 ≤ data.size axis
        · exact ⟨_, passes nonneg⟩
        · exact ⟨_, skips nonneg⟩
    obtain ⟨outcomes, isAll⟩ := exists_mapM_range total
    refine ⟨outcomes, isAll, fun id less outcome isAt => ?_⟩
    rw [← (mapM_range_eq_some_iff.mp isAll).2 id less] at isAt
    exact right_of_setEntry (bounded id less) (inRange id less) isAt

theorem setsRoi_iff_alike : SetsRight (alike 100 1920) exactly ↔
    ∀ id < maxRoiNum, smart (alike 100 1920) id ≠ "open".toList →
      ∀ axis, InRange (alike 100 1920) exactly id axis :=
  setsRoi_iff (by decide)

/-- Where position and size are 2^30 - 1 the sum of the rounded numbers overflows. -/
theorem sum_overflows :
    Bounded (alike 1073741823 1920) exactly ∧ ¬ SetsRight (alike 1073741823 1920) exactly := by
  have stops : rkRoiSetAll (alike 1073741823 1920) exactly = none := by decide +kernel
  refine ⟨by decide, ?_⟩
  rintro ⟨outcomes, isAll, _⟩
  rw [stops] at isAll
  cases isAll

end Roi

end Rkipc.Regions
