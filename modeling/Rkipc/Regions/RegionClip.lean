import Rkipc.Regions.Config

namespace Rkipc.Regions

open Ini Libc Osd.Overlay Param.Copies

/-! `rk_region_clip_set_all`: the rectangles that the encoders cut the streams to. -/

def maxRegionClipNum : Nat := 3

structure RegionClipData where
  enabled : Int
  position : Vec
  size : Vec

inductive CropType
  | none
  | only
deriving DecidableEq

/-- What the encoder is given, where the sides are of an unsigned type. -/
structure Crop where
  cropType : CropType
  place : Vec
  side : Axis → Nat

def rkRegionClipSet (data : RegionClipData) : Crop where
  cropType := if data.enabled ≠ 0 then .only else .none
  place := data.position
  side axis := (data.size axis % 2 ^ 32).toNat

def downAlign16 (value : Int) : Option Int := do
  let up ← upAlign16 value
  toInt (up - 16)

namespace RegionClip

section Entry

variable (config : Config) (scale : Scale) (registered : Bool) (id : Nat)

def frame : Vec := fun axis => config.getInt (entryKey "video" id (sizeKey axis)) (-1)

def enabled : Int := config.getInt (entryKey "region_clip" id ":enabled") (-1)

/-- The position is scaled, multiplied by the frame first. -/
def position : Vec := fun axis =>
  scale (config.getInt (entryKey "region_clip" id (positionKey axis)) (-1))
    (frame config id axis) (config.getInt (normalizedKey axis).toList (-1))

/-- The size is not. -/
def size : Vec := fun axis =>
  config.getInt (entryKey "region_clip" id (sizeKey axis)) (-1)

/-- What an entry hands to `rk_region_clip_set_`, if anything. -/
def setEntry : Option (Option RegionClipData) :=
  if enabled config id = -1 then some none
  else do
    let positionX ← downAlign16 (position config scale id .x)
    let positionX := if positionX < 0 then 0 else positionX
    let positionY ← downAlign16 (position config scale id .y)
    let positionY := if positionY < 0 then 0 else positionY
    some (if registered then
      some
        { enabled := enabled config id
          position := sides positionX positionY
          size := sides (size config id .x) (size config id .y) }
    else none)

end Entry

end RegionClip

/-- What the encoder of each stream is given. -/
def rkRegionClipSetAll (config : Config) (scale : Scale) (registered : Bool) :
    Option (List (Option Crop)) :=
  (List.range maxRegionClipNum).mapM fun id =>
    (RegionClip.setEntry config scale registered id).map (Option.map rkRegionClipSet)

namespace RegionClip

variable (config : Config) (scale : Scale) (registered : Bool)

/-- The rectangle that a stream is to be cut to. -/
structure Right (id : Nat) (crop : Crop) : Prop where
  greatest : ∀ axis, 0 ≤ position config scale id axis → IsGreatest
    {place | 16 ∣ place ∧ place ≤ position config scale id axis} (crop.place axis)
  zero : ∀ axis, position config scale id axis < 0 → crop.place axis = 0
  positive : crop.cropType = .only → ∀ axis, 0 < crop.side axis
  inside : crop.cropType = .only → ∀ axis,
    crop.place axis + crop.side axis ≤ frame config id axis

def ClipsRight : Prop :=
  ∃ outcomes, rkRegionClipSetAll config scale registered = some outcomes ∧
    ∀ id < maxRegionClipNum, ∀ crop, outcomes[id]? = some (some crop) →
      Right config scale id crop

/-- What the numbers of an entry have to meet. -/
structure Suits (id : Nat) : Prop where
  inRange : ∀ axis, intMin < position config scale id axis ∧
    position config scale id axis + 16 ≤ intMax
  offGrid : registered = true → ∀ axis, 0 < position config scale id axis →
    ¬ 16 ∣ position config scale id axis
  fits : registered = true → enabled config id ≠ 0 → ∀ axis, 0 < size config id axis ∧
    max (position config scale id axis / 16 * 16) 0 + size config id axis ≤
      frame config id axis

variable {config : Config} {scale : Scale} {registered : Bool} {id : Nat}

theorem downAlign16_of_inRange {value : Int}
    (inRange : intMin < value ∧ value + 16 ≤ intMax) :
    downAlign16 value = some (alignUp 16 value - 16) := by
  have up : upAlign16 value = some (alignUp 16 value) :=
    upAlign16_eq_some inRange.2 (by omega)
  have fits : intMin ≤ alignUp 16 value - 16 ∧ alignUp 16 value - 16 ≤ intMax := by
    unfold alignUp
    unfold intMin intMax at *
    omega
  rw [downAlign16, up, Option.bind_eq_bind, Option.bind_some, toInt, if_pos fits]

theorem downAlign16_of_outside {value : Int}
    (outside : ¬ (intMin < value ∧ value + 16 ≤ intMax)) : downAlign16 value = none := by
  rw [downAlign16, upAlign16, toInt]
  split
  · have less : ¬ (intMin ≤ alignUp 16 value - 16 ∧ alignUp 16 value - 16 ≤ intMax) := by
      unfold alignUp
      unfold intMin intMax at *
      omega
    rw [Option.map_some, Option.bind_eq_bind, Option.bind_some, toInt, if_neg less]
  · rfl

/-- What comes of a position: the macro takes a number on the grid 16 too far. -/
def placed (config : Config) (scale : Scale) (id : Nat) : Vec := fun axis =>
  let down := alignUp 16 (position config scale id axis) - 16
  if down < 0 then 0 else down

section Place

variable {axis : Axis}

theorem placed_eq (offGrid : 0 < position config scale id axis →
      ¬ 16 ∣ position config scale id axis) :
    placed config scale id axis = max (position config scale id axis / 16 * 16) 0 := by
  unfold placed alignUp
  dsimp only
  omega

/-- The position is the right one if and only if it is not on the grid. -/
theorem placed_right_iff :
    ((0 ≤ position config scale id axis → IsGreatest
        {place | 16 ∣ place ∧ place ≤ position config scale id axis}
        (placed config scale id axis)) ∧
      (position config scale id axis < 0 → placed config scale id axis = 0)) ↔
    (0 < position config scale id axis → ¬ 16 ∣ position config scale id axis) := by
  have floor : IsGreatest {place | 16 ∣ place ∧ place ≤ position config scale id axis}
      (position config scale id axis / 16 * 16) := isGreatest_floor (by decide)
  constructor
  · rintro ⟨greatest, _⟩ pos onGrid
    have same := (greatest pos.le).unique floor
    unfold placed alignUp at same
    dsimp only at same
    omega
  · intro offGrid
    rw [placed_eq offGrid]
    constructor
    · intro nonneg
      rw [max_eq_left (mul_nonneg (Int.ediv_nonneg nonneg (by decide)) (by decide))]
      exact floor
    · intro negative
      omega

end Place

def given (config : Config) (scale : Scale) (id : Nat) : Crop :=
  rkRegionClipSet
    { enabled := enabled config id
      position := sides (placed config scale id .x) (placed config scale id .y)
      size := sides (size config id .x) (size config id .y) }

theorem given_place (axis : Axis) :
    (given config scale id).place axis = placed config scale id axis := by
  cases axis <;> rfl

theorem given_side (axis : Axis) :
    (given config scale id).side axis = (size config id axis % 2 ^ 32).toNat := by
  cases axis <;> rfl

theorem setEntry_of_inRange (isSet : enabled config id ≠ -1)
    (inRange : ∀ axis, intMin < position config scale id axis ∧
      position config scale id axis + 16 ≤ intMax) :
    (setEntry config scale registered id).map (Option.map rkRegionClipSet) =
      some (if registered then some (given config scale id) else none) := by
  rw [setEntry, if_neg isSet]
  simp only [downAlign16_of_inRange (inRange _), Option.bind_eq_bind, Option.bind_some]
  cases registered <;> rfl

theorem setEntry_of_outside (isSet : enabled config id ≠ -1) {axis : Axis}
    (outside : ¬ (intMin < position config scale id axis ∧
      position config scale id axis + 16 ≤ intMax)) :
    setEntry config scale registered id = none := by
  have stops := downAlign16_of_outside outside
  rw [setEntry, if_neg isSet]
  cases axis with
  | x => rw [stops, Option.bind_eq_bind, Option.bind_none]
  | y => simp only [stops, Option.bind_eq_bind, Option.bind_none, Option.bind_fun_none]

/-- The sides of an enabled clipping, for sides and frames of type `int`. -/
theorem sides_right_iff (ints : config.IsInt) {axis : Axis} {place : Int} (nonneg : 0 ≤ place) :
    (0 < (given config scale id).side axis ∧
        place + (given config scale id).side axis ≤ frame config id axis) ↔
      0 < size config id axis ∧ place + size config id axis ≤ frame config id axis := by
  have ofSize := ints (entryKey "region_clip" id (sizeKey axis))
  have ofFrame := ints (entryKey "video" id (sizeKey axis))
  change intMin ≤ size config id axis ∧ size config id axis ≤ intMax at ofSize
  change intMin ≤ frame config id axis ∧ frame config id axis ≤ intMax at ofFrame
  rw [given_side]
  unfold intMin intMax at *
  omega

theorem given_cropType : (given config scale id).cropType = .only ↔ enabled config id ≠ 0 := by
  by_cases isZero : enabled config id = 0
  · simp [given, rkRegionClipSet, isZero]
  · simp [given, rkRegionClipSet, isZero]

theorem given_right_iff (ints : config.IsInt) : Right config scale id (given config scale id) ↔
    (∀ axis, 0 < position config scale id axis → ¬ 16 ∣ position config scale id axis) ∧
      (enabled config id ≠ 0 → ∀ axis, 0 < size config id axis ∧
        max (position config scale id axis / 16 * 16) 0 + size config id axis ≤
          frame config id axis) := by
  have sideIff (axis : Axis) (offGrid : 0 < position config scale id axis →
      ¬ 16 ∣ position config scale id axis) :
      (0 < (given config scale id).side axis ∧ (given config scale id).place axis +
          (given config scale id).side axis ≤ frame config id axis) ↔
        0 < size config id axis ∧
          max (position config scale id axis / 16 * 16) 0 + size config id axis ≤
            frame config id axis := by
    rw [given_place, placed_eq offGrid]
    exact sides_right_iff ints (le_max_right _ _)
  constructor
  · intro right
    have offGrid (axis : Axis) := placed_right_iff.mp
      ⟨given_place axis ▸ right.greatest axis, given_place axis ▸ right.zero axis⟩
    refine ⟨offGrid, fun isEnabled axis => (sideIff axis (offGrid axis)).mp ?_⟩
    have isOnly : (given config scale id).cropType = .only := given_cropType.mpr isEnabled
    exact ⟨right.positive isOnly axis, right.inside isOnly axis⟩
  · rintro ⟨offGrid, fits⟩
    have places (axis : Axis) := placed_right_iff.mpr (offGrid axis)
    have sides (isOnly : (given config scale id).cropType = .only) (axis : Axis) :=
      (sideIff axis (offGrid axis)).mpr (fits (given_cropType.mp isOnly) axis)
    refine ⟨fun axis => ?_, fun axis => ?_, fun isOnly axis => (sides isOnly axis).1,
      fun isOnly axis => (sides isOnly axis).2⟩
    · rw [given_place]
      exact (places axis).1
    · rw [given_place]
      exact (places axis).2

/-- The rectangles are right exactly for positions off the grid and sizes that fit. -/
theorem clipsRight_iff (ints : config.IsInt) : ClipsRight config scale registered ↔
    ∀ id < maxRegionClipNum, enabled config id ≠ -1 → Suits config scale registered id := by
  constructor
  · rintro ⟨outcomes, isAll, right⟩ id less isSet
    obtain ⟨length, each⟩ := mapM_range_eq_some_iff.mp isAll
    have inRange (axis : Axis) : intMin < position config scale id axis ∧
        position config scale id axis + 16 ≤ intMax := by
      by_contra outside
      have isNone := each id less
      rw [setEntry_of_outside isSet outside, Option.map_none, eq_comm,
        List.getElem?_eq_none_iff, length] at isNone
      exact absurd less (Nat.not_lt.mpr isNone)
    have isAt := each id less
    rw [setEntry_of_inRange isSet inRange] at isAt
    have ofRegistered (isRegistered : registered = true) :=
      (given_right_iff ints).mp
        (right id less _ (by rw [← isAt, if_pos isRegistered]))
    exact ⟨inRange, fun isRegistered => (ofRegistered isRegistered).1,
      fun isRegistered => (ofRegistered isRegistered).2⟩
  · intro suits
    have total (id : Nat) (less : id < maxRegionClipNum) : ∃ outcome,
        (setEntry config scale registered id).map (Option.map rkRegionClipSet) =
          some outcome := by
      by_cases isSet : enabled config id = -1
      · exact ⟨none, by rw [setEntry, if_pos isSet, Option.map_some, Option.map_none]⟩
      · exact ⟨_, setEntry_of_inRange isSet (suits id less isSet).inRange⟩
    obtain ⟨outcomes, isAll⟩ := exists_mapM_range total
    refine ⟨outcomes, isAll, fun id less crop isAt => ?_⟩
    rw [← (mapM_range_eq_some_iff.mp isAll).2 id less] at isAt
    by_cases isSet : enabled config id = -1
    · rw [setEntry, if_pos isSet, Option.map_some, Option.map_none] at isAt
      cases isAt
    · have entry := suits id less isSet
      rw [setEntry_of_inRange isSet entry.inRange] at isAt
      cases isRegistered : registered with
      | false =>
          rw [isRegistered] at isAt
          cases isAt
      | true =>
          rw [isRegistered] at isAt
          cases isAt
          exact (given_right_iff ints).mpr
            ⟨entry.offGrid isRegistered, entry.fits isRegistered⟩

theorem clipsRight_iff_alike : ClipsRight (alike 100 1920) exactly true ↔
    ∀ id < maxRegionClipNum, enabled (alike 100 1920) id ≠ -1 →
      Suits (alike 100 1920) exactly true id :=
  clipsRight_iff (isInt_alike (by decide) (by decide))

/-- A position of 16 is cut at 0. -/
theorem sixteen_at_zero :
    (alike 16 1920).IsInt ∧ ¬ ClipsRight (alike 16 1920) exactly true := by
  refine ⟨isInt_alike (by decide) (by decide), ?_⟩
  rintro ⟨outcomes, isAll, right⟩
  have isPlaced : (rkRegionClipSetAll (alike 16 1920) exactly true).map (fun outcomes =>
      outcomes[0]?.map (Option.map fun crop => crop.place .x)) = some (some (some 0)) := by
    decide
  have scaled : position (alike 16 1920) exactly 0 .x = 16 := by decide
  rw [isAll, Option.map_some, Option.some.injEq, Option.map_eq_some_iff] at isPlaced
  obtain ⟨outcome, isAt, isPlaced⟩ := isPlaced
  obtain ⟨crop, rfl, isZero⟩ := Option.map_eq_some_iff.mp isPlaced
  have greatest := (right 0 (by decide) crop isAt).greatest .x (by rw [scaled]; decide)
  have atLeast : 16 ≤ crop.place .x :=
    greatest.2 ⟨Int.dvd_refl 16, scaled.ge⟩
  rw [isZero] at atLeast
  exact absurd atLeast (by decide)

end RegionClip

end Rkipc.Regions
